/-!
# Paths into documents

A path names a place within a document by keys and positions with dots between them, such as
`address.location.type` or `reviews.3.date`. It is kept as text, as queries write it.
-/

namespace QueryAlgebra

/-- A dot-delimited path. -/
structure Path where
  text : String
deriving DecidableEq

namespace Path

/-- The path to `segment` within what `p` names. -/
def child (p : Path) (segment : String) : Path :=
  ⟨p.text ++ "." ++ segment⟩

/-- The path to a position within the array that `p` names. -/
def index (p : Path) (position : Nat) : Path :=
  p.child (Nat.repr position)

/-- The path to `segment` from a root, or from the top of the document where there is none. -/
def join (root : Option Path) (segment : String) : Path :=
  match root with
  | some p => p.child segment
  | none => ⟨segment⟩

@[simp] theorem join_none (segment : String) : join none segment = ⟨segment⟩ := rfl

@[simp] theorem join_some (p : Path) (segment : String) : join (some p) segment = p.child segment :=
  rfl

/-- Paths are ordered as their texts, character by character, which is also the order of their UTF-8
bytes. -/
instance : Ord Path := ⟨fun p q => compare p.text q.text⟩

end Path

end QueryAlgebra
