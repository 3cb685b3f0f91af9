import QueryAlgebra.FieldSet

/-!
# A model of rental listings

Eight records that describe listings with their reviews and discussions, and sensors. Between them
they use every kind of member and every way to name one, which makes them the model to try queries
on.

* `Catalogue.declarations` — the records, each after those it refers to.
* `Catalogue.handles?` — the set of handles of a record, from the top of a document or from a root.
-/

namespace QueryAlgebra.Catalogue

/-- A type without arguments. -/
def plain (name : String) : TypeExpr := .named name none

/-- A type with one argument. -/
def applied (name : String) (argument : TypeExpr) : TypeExpr := .named name (some [.type argument])

def text : TypeExpr := plain "String"

/-- An attribute with one option. -/
def option (family : String) (s : Setting) : Attribute := ⟨family, .list [s]⟩

/-- The mark of members that are records. -/
def nested : Attribute := option "query" (.word "nested")

/-- A name for queries. -/
def queryName (name : String) : Attribute := option "query" (.assigned "rename" (.text name))

/-- A name under which a member is stored. -/
def storedName (name : String) : Attribute := option "serde" (.assigned "rename" (.text name))

/-- A record without parameters. -/
def record (name : String) (members : List DeclaredMember) (attributes : List Attribute := []) :
    Declaration :=
  { name, visibility := "", parameters := [], attributes, body := .record members }

def images : Declaration :=
  record "Images" [⟨"thumbnail_url", text, []⟩, ⟨"picture_url", text, []⟩]

def location : Declaration :=
  record "Location" [⟨"r#type", text, []⟩, ⟨"coordinates", .array (plain "f64") 2, []⟩]

def address : Declaration :=
  record "Address" [⟨"street", text, []⟩, ⟨"location", plain "Location", [nested]⟩]

def review : Declaration :=
  record "Review"
    [⟨"id", text, [storedName "_id"]⟩, ⟨"reviewer_name", text, []⟩,
      ⟨"comments", applied "Option" text, []⟩]

def thread : Declaration :=
  record "Thread"
    [⟨"title", text, []⟩, ⟨"replies", applied "Vec" (plain "Review"), [nested]⟩,
      ⟨"top", applied "Option" (plain "Review"),
        [⟨"query", .list [.word "nested", .assigned "rename" (.text "top.reply")]⟩]⟩]

def listingAndReview : Declaration :=
  record "ListingAndReview"
    [⟨"id", text, [queryName "_id"]⟩, ⟨"listing_url", text, []⟩, ⟨"name", text, []⟩,
      ⟨"bedrooms", plain "i32", []⟩, ⟨"amenities", applied "Vec" text, []⟩,
      ⟨"images", plain "Images", [nested]⟩,
      ⟨"address", applied "Option" (applied "Box" (plain "Address")), [nested]⟩,
      ⟨"reviews", applied "Vec" (plain "Review"), [nested]⟩,
      ⟨"threads", applied "Option" (applied "VecDeque" (plain "Thread")), [nested]⟩,
      ⟨"internal", text, [option "query" (.word "skip")]⟩,
      ⟨"host_verifications", applied "Option" (applied "Vec" text),
        [queryName "host.host_verifications"]⟩]

def sensor : Declaration :=
  record "Sensor"
    [⟨"serial_number", text, []⟩, ⟨"last_reading", applied "Option" (plain "f64"), []⟩,
      ⟨"unit", text, [storedName "UNIT"]⟩, ⟨"tags", applied "HashSet" text, []⟩,
      ⟨"history", applied "VecDeque" (plain "f64"), []⟩,
      ⟨"zones", applied "BTreeSet" (plain "u8"), []⟩,
      ⟨"queue", applied "LinkedList" (plain "u8"), []⟩,
      ⟨"cache", plain "u64", [option "serde" (.word "skip")]⟩]
    [option "serde" (.assigned "rename_all" (.text "camelCase"))]

def outlier : Declaration :=
  record "Outlier"
    [⟨"weird", text,
        [⟨"serde", .list [.word "default", .assigned "rename" (.text "Weird Name")]⟩]⟩,
      ⟨"Shouting", text, [option "serde" (.assigned "alias" (.text "SHOUTING"))]⟩]

/-- The records of the model. -/
def declarations : List Declaration :=
  [images, location, address, review, thread, listingAndReview, sensor, outlier]

/-- The handles on the members of a record of the model. -/
def handles? (name : String) (root : Option Path) : Option Handle := do
  let schemes ← schemesOf? declarations
  let members ← Assoc.get? schemes name
  return .set (rootedAt root members)

end QueryAlgebra.Catalogue
