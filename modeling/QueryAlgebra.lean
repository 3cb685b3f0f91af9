import QueryAlgebra.Catalogue
import QueryAlgebra.Json
import QueryAlgebra.Store.Session
import QueryAlgebra.Proofs.Assoc
import QueryAlgebra.Proofs.Assoc.Merging
import QueryAlgebra.Proofs.Filter.Structure
import QueryAlgebra.Proofs.Filter.Block
import QueryAlgebra.Proofs.Filter.WellFormed
import QueryAlgebra.Proofs.Filter.Legible
import QueryAlgebra.Proofs.Filter.Meaning
import QueryAlgebra.Proofs.Filter.Normal
import QueryAlgebra.Proofs.Filter.Reading
import QueryAlgebra.Proofs.Update.Collection
import QueryAlgebra.Proofs.Update.Grouping
import QueryAlgebra.Proofs.Update.Proper
import QueryAlgebra.Proofs.Update.Policies
import QueryAlgebra.Proofs.Update.Merging
import QueryAlgebra.Proofs.Store.Sending
import QueryAlgebra.Proofs.Filter.Separation
import QueryAlgebra.Proofs.Assoc.Latest
import QueryAlgebra.Proofs.Update.Reordering
import QueryAlgebra.Proofs.Value.Keys
import QueryAlgebra.Proofs.Filter.Keys
import QueryAlgebra.Proofs.Update.Keys
import QueryAlgebra.Proofs.FieldSet.Paths
import QueryAlgebra.Proofs.FieldSet.Distinct
import QueryAlgebra.Proofs.Filter.Collisions
import QueryAlgebra.Proofs.Update.Reporting
import QueryAlgebra.Proofs.Record.Options
import QueryAlgebra.Proofs.Record.Derivation
import QueryAlgebra.Proofs.Record.Convention
import QueryAlgebra.Proofs.Record.Recovery
import QueryAlgebra.Proofs.Record.Regrouping
import QueryAlgebra.Proofs.Record.Wrappers
import QueryAlgebra.Proofs.Text.Numeral
import QueryAlgebra.Proofs.Text.Quoted
import QueryAlgebra.Proofs.Value.Rendering
import QueryAlgebra.Proofs.Text.Control
import QueryAlgebra.Proofs.Value.OneLine
import QueryAlgebra.Proofs.Bytes
import QueryAlgebra.Proofs.Value.Decoding
import QueryAlgebra.Proofs.Update.Transmission
