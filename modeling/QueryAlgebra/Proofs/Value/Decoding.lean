import QueryAlgebra.Proofs.Bytes
import QueryAlgebra.Proofs.Text.Numeral
import QueryAlgebra.Proofs.Value.Keys

/-!
# Reading documents back

The reader of the binary form of documents, written from the grammar of the format: a document is
its length, its elements and a zero byte, an element is a type byte, a key and a payload, and the
type says how the payload is read. Bodies are cut out by their length first and then read as a
whole, so an element cannot reach beyond the document that it is in.

* `Reader.value`, `Document.ofBody?`, `Document.ofBytes?` — the reader of a payload, of a body and
  of a whole document. It is strict: a boolean is 0 or 1, the keys of an array are its positions,
  the two counts of an old binary and the length of code with scope agree with what they count.
* `Reads.value`, `readsBodies_ofBody?` — one payload, and by induction the elements of a body, at
  any depth.
* `Document.ofBytes?_bytes` — a document is read back from its encoding as `Document.transmitted`.
* `Document.bytes_eq_iff` — so documents with one encoding arrive as one document, and conversely.
-/

namespace QueryAlgebra

open Text

/-! ### The reader of a document -/

namespace Reader

/-- A byte that is 0 or 1. -/
def bool : Reader Bool := do
  let b ← byte
  guard (b = 0 ∨ b = 1)
  return b = 1

/-- An identity: twelve bytes, the highest first. -/
def objectId : Reader ObjectId :=
  (fun bytes => ⟨BitVec.ofNat 96 (ofLittleEndian bytes.reverse)⟩) <$> take 12

/-- Bytes behind their count and subtype. In the second subtype the count covers another count. -/
def binary : Reader Value := do
  let n ← count
  let subtype ← byte
  if subtype = 2 then
    let inner ← count
    guard (n = inner + 4)
    Value.binary subtype <$> take inner
  else Value.binary subtype <$> take n

/-- A text up to a zero byte, as one without NUL. -/
def nulFree : Reader NulFree := do
  let s ← cstring
  ofOption (NulFree.ofString? s)

/-- A pattern and its options. -/
def regex : Reader Value := do
  let pattern ← nulFree
  let options ← nulFree
  return .regex pattern options

/-- The increment comes before the time. -/
def timestamp : Reader Value := do
  let increment ← word 4
  let time ← word 4
  return .timestamp (UInt32.ofNat time) (UInt32.ofNat increment)

/-- The name of a collection and an identity. -/
def dbPointer : Reader Value := do
  let collection ← string
  let id ← objectId
  return .dbPointer collection id

section

-- What the bytes in the body of a document are read with.
variable (body : List UInt8 → Option Document)

/-- A document within a document. -/
def document : Reader Document := do
  let bytes ← frame
  ofOption (body bytes)

/-- An array: a document whose keys are the positions of its items. -/
def array : Reader (List Value) := do
  let entries ← document body
  guard (entries.map Prod.fst = (List.range entries.length).map Nat.repr)
  return entries.map Prod.snd

/-- The source of code and its scope. -/
def sourceAndScope : Reader Value := do
  let source ← string
  let scope ← document body
  return .codeWithScope source scope

/-- Code with its scope, behind the length of the whole. -/
def codeWithScope : Reader Value := do
  let n ← count
  guard (4 ≤ n)
  let bytes ← take (n - 4)
  ofOption ((sourceAndScope body).all bytes)

/-- The payload of a value of the type with the given byte. -/
def value (type : UInt8) : Reader Value :=
  match type with
  | 0x01 => (fun n => .double ⟨UInt64.ofNat n⟩) <$> word 8
  | 0x02 => .string <$> string
  | 0x03 => .document <$> document body
  | 0x04 => .array <$> array body
  | 0x05 => binary
  | 0x06 => return .undefined
  | 0x07 => .objectId <$> objectId
  | 0x08 => .bool <$> bool
  | 0x09 => (fun n => .dateTime (UInt64.ofNat n).toInt64) <$> word 8
  | 0x0A => return .null
  | 0x0B => regex
  | 0x0C => dbPointer
  | 0x0D => .code <$> string
  | 0x0E => .symbol <$> string
  | 0x0F => codeWithScope body
  | 0x10 => (fun n => .int32 (UInt32.ofNat n).toInt32) <$> word 4
  | 0x11 => timestamp
  | 0x12 => (fun n => .int64 (UInt64.ofNat n).toInt64) <$> word 8
  | 0x13 => (fun n => .decimal ⟨BitVec.ofNat 128 n⟩) <$> word 16
  | 0xFF => return .minKey
  | 0x7F => return .maxKey
  | _ => failure

/-- An element: a type, a key and a payload. -/
def entry : Reader (String × Value) := do
  let type ← byte
  let key ← cstring
  let v ← value body type
  return (key, v)

end

end Reader

/-- The entries in the body of a document, element by element up to its end. An element takes at
least its type byte from what is left, and the bodies within it are shorter still, so the count of
bytes is room enough for both recursions. -/
def Document.ofBody? : Nat → List UInt8 → Option Document
  | _, [] => some []
  | 0, _ :: _ => none
  | room + 1, b :: bytes => do
    let (entry, rest) ← (Reader.entry (Document.ofBody? room)).run (b :: bytes)
    let entries ← Document.ofBody? room rest
    return entry :: entries

/-- The document whose encoding the bytes are, all of them. -/
def Document.ofBytes? (bytes : List UInt8) : Option Document :=
  (Reader.document (Document.ofBody? bytes.length)).all bytes

/-! ### Arrays as documents -/

/-- Items under their positions, from a position on. -/
def positioned (position : Nat) : List Value → Document
  | [] => []
  | v :: rest => (Nat.repr position, v) :: positioned (position + 1) rest

/-- An array is written as the document of its positions. -/
theorem encodeItems_eq (position : Nat) (vs : List Value) :
    encodeItems position vs = encodeEntries (positioned position vs) := by
  induction vs generalizing position with
  | nil => rfl
  | cons v rest ih => rw [encodeItems, positioned, encodeEntries, ih]

theorem transmittedEntries_positioned (position : Nat) (vs : List Value) :
    transmittedEntries (positioned position vs) = positioned position (transmittedItems vs) := by
  induction vs generalizing position with
  | nil => rfl
  | cons v rest ih =>
    rw [positioned, transmittedEntries, transmittedItems, positioned, ih]

theorem map_fst_positioned (position : Nat) (vs : List Value) :
    (positioned position vs).map Prod.fst = (List.range' position vs.length).map Nat.repr := by
  induction vs generalizing position with
  | nil => rfl
  | cons v rest ih =>
    rw [positioned, List.map_cons, ih, List.length_cons, List.range'_succ, List.map_cons]

theorem map_snd_positioned (position : Nat) (vs : List Value) :
    (positioned position vs).map Prod.snd = vs := by
  induction vs generalizing position with
  | nil => rfl
  | cons v rest ih => rw [positioned, List.map_cons, ih]

theorem length_positioned (position : Nat) (vs : List Value) :
    (positioned position vs).length = vs.length := by
  rw [← List.length_map Prod.snd, map_snd_positioned]

/-! ### Keys that can be written -/

/-- No key, at any depth, contains a NUL. -/
def Document.Encodable (d : Document) : Prop :=
  ∀ key ∈ d.allKeys, hasNul key = false

theorem hasNul_eq_false_iff {s : String} : hasNul s = false ↔ '\x00' ∉ s.toList := by
  rw [hasNul, ← Bool.not_eq_true, List.contains_iff_mem]

/-- A position is written in digits. -/
theorem hasNul_repr (n : Nat) : hasNul (Nat.repr n) = false := by
  rw [hasNul_eq_false_iff]
  intro hmem
  exact absurd (isDigit_of_mem_repr hmem) (by decide)

theorem encodable_cons_iff {k : String} {v : Value} {rest : Document} :
    Document.Encodable ((k, v) :: rest) ↔
      hasNul k = false ∧ (∀ key ∈ v.keysWithin, hasNul key = false) ∧ Document.Encodable rest := by
  rw [Document.Encodable, Document.allKeys, keysInEntries, List.forall_mem_cons,
    List.forall_mem_append]
  rfl

theorem encodable_positioned {vs : List Value} (h : ∀ key ∈ keysInItems vs, hasNul key = false)
    (position : Nat) : Document.Encodable (positioned position vs) := by
  induction vs generalizing position with
  | nil => exact fun _ hkey => absurd hkey List.not_mem_nil
  | cons v rest ih =>
    rw [keysInItems, List.forall_mem_append] at h
    rw [positioned, encodable_cons_iff]
    exact ⟨hasNul_repr position, h.1, ih h.2 _⟩

/-! ### One element -/

/-- The bodies of up to `room` bytes are read back. -/
def ReadsBodies (body : List UInt8 → Option Document) (room : Nat) : Prop :=
  ∀ d : Document, d.Encodable → (encodeEntries d).length ≤ room →
    body (encodeEntries d) = some (transmittedEntries d)

namespace Reads

theorem bool (b : Bool) : Reads Reader.bool [if b then 1 else 0] b := by
  cases b <;> exact fun _ => rfl

theorem objectId (id : ObjectId) : Reads Reader.objectId id.bytes id := by
  have hlength : 12 = id.bytes.length := by
    rw [ObjectId.bytes, List.length_reverse, length_littleEndian]
  have hlt : id.number.toNat < Nat.pow 256 12 := id.number.isLt
  -- The bytes stand in the order opposite to that of a word.
  have hvalue : (⟨BitVec.ofNat 96 (ofLittleEndian id.bytes.reverse)⟩ : ObjectId) = id := by
    rw [ObjectId.bytes, List.reverse_reverse, ofLittleEndian_littleEndian, Nat.mod_eq_of_lt hlt,
      BitVec.ofNat_toNat, BitVec.setWidth_eq]
  have hread := (Reads.take hlength).map fun bytes =>
    (⟨BitVec.ofNat 96 (ofLittleEndian bytes.reverse)⟩ : ObjectId)
  rwa [hvalue] at hread

/-- A value in a word of fixed width. -/
theorem inWord {α : Type} {w n : Nat} {f : Nat → α} {a : α} (h : n < 256 ^ w) (hvalue : f n = a) :
    Reads (f <$> Reader.word w) (littleEndian w n) a := by
  have hread := (Reads.word h).map f
  rwa [hvalue] at hread

theorem nulFree (s : NulFree) : Reads Reader.nulFree (terminated s.text) s :=
  (Reads.cstring s.nulFree).bind_pure (.ofOption (dif_pos s.nulFree))

theorem regex (pattern options : NulFree) :
    Reads Reader.regex (terminated pattern.text ++ terminated options.text)
      (.regex pattern options) :=
  (Reads.nulFree pattern).bind ((Reads.nulFree options).bind_pure (.pure _))

theorem timestamp (time increment : UInt32) :
    Reads Reader.timestamp (littleEndian 4 increment.toNat ++ littleEndian 4 time.toNat)
      (.timestamp time increment) := by
  refine Reads.bind (Reads.word increment.toNat_lt) (Reads.bind_pure (Reads.word time.toNat_lt) ?_)
  rw [UInt32.ofNat_toNat, UInt32.ofNat_toNat]
  exact .pure _

theorem dbPointer {collection : String} (id : ObjectId)
    (h : (counted collection).length < 2 ^ 31) :
    Reads Reader.dbPointer (counted collection ++ id.bytes) (.dbPointer collection id) :=
  (Reads.string h).bind ((Reads.objectId id).bind_pure (.pure _))

theorem binary {subtype : UInt8} {bytes : List UInt8}
    (h : (binaryPayload subtype bytes).length < 2 ^ 31) :
    Reads Reader.binary (binaryPayload subtype bytes) (.binary subtype bytes) := by
  have htake : Reads (Value.binary subtype <$> Reader.take bytes.length) bytes
      (.binary subtype bytes) := (Reads.take rfl).map _
  -- The second subtype has another count before the bytes, which the first count covers.
  by_cases hold : subtype = 2
  · rw [binaryPayload, if_pos hold] at h ⊢
    simp only [List.length_append, length_littleEndian] at h
    rw [List.append_assoc, List.append_assoc]
    refine (Reads.count (by omega)).bind ((Reads.byte subtype).bind ?_)
    rw [if_pos hold]
    exact (Reads.count (by omega)).bind (Reads.bind_nil (.check rfl) htake)
  · rw [binaryPayload, if_neg hold] at h ⊢
    simp only [List.length_append, length_littleEndian] at h
    rw [List.append_assoc]
    refine (Reads.count (by omega)).bind ((Reads.byte subtype).bind ?_)
    rw [if_neg hold]
    exact htake

/-! ### Values with documents in them -/

section

variable {body : List UInt8 → Option Document} {room : Nat}

/-- A document in the room that is left. -/
theorem document (hbody : ReadsBodies body room) {d : Document} (hkeys : d.Encodable)
    (hroom : (encodeEntries d).length ≤ room) (hsize : (framed (encodeEntries d)).length < 2 ^ 31) :
    Reads (Reader.document body) (framed (encodeEntries d)) (transmittedEntries d) :=
  (Reads.frame hsize).bind_pure (.ofOption (hbody d hkeys hroom))

theorem array (hbody : ReadsBodies body room) {items : List Value}
    (hkeys : ∀ key ∈ keysInItems items, hasNul key = false)
    (hroom : (encodeItems 0 items).length ≤ room)
    (hsize : (framed (encodeItems 0 items)).length < 2 ^ 31) :
    Reads (Reader.array body) (framed (encodeItems 0 items)) (transmittedItems items) := by
  -- The array is read as the document of its positions, and these are then checked.
  rw [encodeItems_eq] at hroom hsize ⊢
  have hentries := Reads.document hbody (encodable_positioned hkeys 0) hroom hsize
  rw [transmittedEntries_positioned] at hentries
  refine hentries.bind_pure (Reads.bind_nil (.check ?positions) ?items)
  case positions => rw [map_fst_positioned, length_positioned, List.range_eq_range']
  case items =>
    rw [map_snd_positioned]
    exact .pure _

theorem codeWithScope (hbody : ReadsBodies body room) {source : String} {scope : Document}
    (hkeys : scope.Encodable) (hroom : (encodeEntries scope).length ≤ room)
    (hsize : (Value.codeWithScope source scope).payload.length < 2 ^ 31) :
    Reads (Reader.codeWithScope body) (Value.codeWithScope source scope).payload
      (.codeWithScope source (transmittedEntries scope)) := by
  rw [Value.payload] at hsize ⊢
  set content := counted source ++ framed (encodeEntries scope) with hcontent
  have hlength : content.length = (counted source).length + (framed (encodeEntries scope)).length :=
    List.length_append
  simp only [List.length_append, length_littleEndian] at hsize
  -- The source and the scope are read off the whole of the content.
  have hread : Reads (Reader.sourceAndScope body) content
      (.codeWithScope source (transmittedEntries scope)) :=
    (Reads.string (by omega)).bind
      ((Reads.document hbody hkeys hroom (by omega)).bind_pure (.pure _))
  refine (Reads.count (by omega)).bind (Reads.bind_nil (.check (by omega)) ?_)
  exact (Reads.take (by omega)).bind_pure (.ofOption hread.all_eq)

/-- **A payload is read back** by what its type byte says, if the bodies within it are. -/
theorem value (hbody : ReadsBodies body room) {v : Value}
    (hkeys : ∀ key ∈ v.keysWithin, hasNul key = false) (hroom : v.payload.length ≤ room)
    (hsize : v.payload.length < 2 ^ 31) :
    Reads (Reader.value body v.typeByte) v.payload v.transmitted := by
  cases v with
  | null | undefined | minKey | maxKey => exact .pure _
  | bool b => exact (Reads.bool b).map Value.bool
  -- Numbers are read as the bits that they are written as.
  | int32 n =>
    rw [Value.payload]
    refine Reads.inWord n.toUInt32.toNat_lt ?_
    rw [UInt32.ofNat_toNat, Int32.toInt32_toUInt32]
    rfl
  | int64 n =>
    rw [Value.payload]
    refine Reads.inWord n.toUInt64.toNat_lt ?_
    rw [UInt64.ofNat_toNat, Int64.toInt64_toUInt64]
    rfl
  | double x =>
    rw [Value.payload]
    refine Reads.inWord x.bits.toNat_lt ?_
    rw [UInt64.ofNat_toNat]
    rfl
  | decimal x =>
    rw [Value.payload]
    refine Reads.inWord x.word.isLt ?_
    rw [BitVec.ofNat_toNat, BitVec.setWidth_eq]
    rfl
  | dateTime millis =>
    rw [Value.payload]
    refine Reads.inWord millis.toUInt64.toNat_lt ?_
    rw [UInt64.ofNat_toNat, Int64.toInt64_toUInt64]
    rfl
  -- Texts and what else has its own end or count.
  | string s => exact (Reads.string hsize).map Value.string
  | code source => exact (Reads.string hsize).map Value.code
  | symbol text => exact (Reads.string hsize).map Value.symbol
  | objectId id => exact (Reads.objectId id).map Value.objectId
  | binary subtype bytes => exact Reads.binary hsize
  | regex pattern options => exact Reads.regex pattern options.sorted
  | timestamp time increment => exact Reads.timestamp time increment
  | dbPointer collection id =>
    rw [Value.payload, List.length_append] at hsize
    exact Reads.dbPointer id (by omega)
  -- Bodies are shorter than what they are in, by their frame at least.
  | document entries =>
    rw [Value.payload] at hroom hsize ⊢
    rw [length_framed] at hroom
    exact (Reads.document hbody hkeys (by omega) hsize).map Value.document
  | array items =>
    rw [Value.payload] at hroom hsize ⊢
    rw [length_framed] at hroom
    exact (Reads.array hbody hkeys (by omega) hsize).map Value.array
  | codeWithScope source scope =>
    rw [Value.transmitted]
    refine Reads.codeWithScope hbody hkeys ?_ hsize
    rw [Value.payload] at hroom
    simp only [List.length_append, length_framed] at hroom
    omega

theorem entry (hbody : ReadsBodies body room) {k : String} {v : Value} (hk : hasNul k = false)
    (hkeys : ∀ key ∈ v.keysWithin, hasNul key = false) (hroom : v.payload.length ≤ room)
    (hsize : v.payload.length < 2 ^ 31) :
    Reads (Reader.entry body) ([v.typeByte] ++ (terminated k ++ v.payload)) (k, v.transmitted) :=
  (Reads.byte v.typeByte).bind ((Reads.cstring (hasNul_eq_false_iff.mp hk)).bind
    ((Reads.value hbody hkeys hroom hsize).bind_pure (.pure _)))

end

end Reads

/-! ### All elements -/

/-- **The body of a document is read back**, in any room that it fits in. The induction is on the
room: the first element leaves less of it both to the bodies within the element and to the elements
that follow. -/
theorem readsBodies_ofBody? {room : Nat} (h : room < 2 ^ 31) :
    ReadsBodies (Document.ofBody? room) room := by
  induction room with
  | zero =>
    intro d hkeys hroom
    cases d with
    | nil => rfl
    | cons e rest =>
      -- There is no room for a type byte.
      simp [encodeEntries] at hroom
  | succ room ih =>
    intro d hkeys hroom
    cases d with
    | nil => rfl
    | cons e rest =>
      obtain ⟨k, v⟩ := e
      obtain ⟨hk, hv, hrest⟩ := encodable_cons_iff.mp hkeys
      have hbodies : ReadsBodies (Document.ofBody? room) room := ih (by omega)
      simp only [encodeEntries, List.length_cons, List.length_append] at hroom
      have hentry : (Reader.entry (Document.ofBody? room)).run (encodeEntries ((k, v) :: rest)) =
          some ((k, v.transmitted), encodeEntries rest) := by
        have hread := Reads.entry hbodies hk hv (by omega) (by omega) (encodeEntries rest)
        rwa [List.append_assoc, List.append_assoc] at hread
      have hothers : Document.ofBody? room (encodeEntries rest) = some (transmittedEntries rest) :=
        hbodies rest hrest (by omega)
      -- The body begins with the type byte of its first element, so the reader takes a step.
      change ((Reader.entry (Document.ofBody? room)).run
        (encodeEntries ((k, v) :: rest))).bind _ = _
      rw [hentry, Option.bind_some]
      change (Document.ofBody? room (encodeEntries rest)).bind _ = _
      rw [hothers]
      rfl

/-- **A document is read back from its encoding**: it is what arrives. -/
theorem Document.ofBytes?_bytes {d : Document} (hkeys : d.Encodable)
    (hsize : d.bytes.length < 2 ^ 31) : Document.ofBytes? d.bytes = some d.transmitted := by
  have hbodies := readsBodies_ofBody? hsize
  have hroom : (encodeEntries d).length ≤ d.bytes.length := by
    rw [Document.bytes, length_framed]
    omega
  exact (Reads.document hbodies hkeys hroom hsize).all_eq

example : Document.ofBytes? [0x16, 0, 0, 0, 0x02, 0x68, 0x65, 0x6C, 0x6C, 0x6F, 0, 6, 0, 0, 0,
    0x77, 0x6F, 0x72, 0x6C, 0x64, 0, 0] = some [("hello", .string "world")] := rfl

/-! ### What encodings keep -/

/-- Options in order stay as they are. -/
theorem NulFree.sorted_sorted (s : NulFree) : s.sorted.sorted = s.sorted := by
  have hsorted : (s.text.toList.mergeSort fun a b => a.toNat ≤ b.toNat).Pairwise
      fun a b => decide (a.toNat ≤ b.toNat) = true := by
    -- Code points are in a linear order.
    refine List.pairwise_mergeSort (fun a b c hab hbc => ?_) (fun a b => ?_) _
    · simp only [decide_eq_true_eq] at hab hbc ⊢
      exact hab.trans hbc
    · simp only [Bool.or_eq_true, decide_eq_true_eq]
      exact le_total _ _
  rw [NulFree.sorted.eq_1 s.sorted, NulFree.mk.injEq]
  change String.ofList ((String.ofList _).toList.mergeSort _) = String.ofList _
  rw [String.toList_ofList, List.mergeSort_of_pairwise hsorted]

theorem Value.typeByte_transmitted (v : Value) : v.transmitted.typeByte = v.typeByte := by
  cases v <;> rfl

mutual

/-- What arrives is written as what was sent. -/
theorem Value.payload_transmitted : (v : Value) → v.transmitted.payload = v.payload
  | .regex pattern options => by
    rw [Value.transmitted, Value.payload, Value.payload, NulFree.sorted_sorted]
  | .array items => by
    rw [Value.transmitted, Value.payload, Value.payload, encodeItems_transmitted 0 items]
  | .document entries => by
    rw [Value.transmitted, Value.payload, Value.payload, encodeEntries_transmitted entries]
  | .codeWithScope source scope => by
    rw [Value.transmitted, Value.payload, Value.payload, encodeEntries_transmitted scope]
  | .null | .bool _ | .int32 _ | .int64 _ | .double _ | .decimal _ | .string _ | .objectId _
  | .dateTime _ | .binary _ _ | .timestamp _ _ | .code _ | .symbol _ | .undefined | .minKey
  | .maxKey | .dbPointer _ _ => rfl

/-- The same of items from a position on. -/
theorem encodeItems_transmitted (position : Nat) :
    (vs : List Value) → encodeItems position (transmittedItems vs) = encodeItems position vs
  | [] => rfl
  | v :: rest => by
    rw [transmittedItems, encodeItems, encodeItems, Value.typeByte_transmitted,
      Value.payload_transmitted v, encodeItems_transmitted (position + 1) rest]

/-- The same of entries. -/
theorem encodeEntries_transmitted :
    (es : List (String × Value)) → encodeEntries (transmittedEntries es) = encodeEntries es
  | [] => rfl
  | (k, v) :: rest => by
    rw [transmittedEntries, encodeEntries, encodeEntries, Value.typeByte_transmitted,
      Value.payload_transmitted v, encodeEntries_transmitted rest]

end

mutual

/-- Keys arrive as they are, at every depth and in their order. -/
theorem Value.keysWithin_transmitted : (v : Value) → v.transmitted.keysWithin = v.keysWithin
  | .array items => by
    rw [Value.transmitted, Value.keysWithin, Value.keysWithin, keysInItems_transmitted items]
  | .document entries => by
    rw [Value.transmitted, Value.keysWithin, Value.keysWithin, keysInEntries_transmitted entries]
  | .codeWithScope source scope => by
    rw [Value.transmitted, Value.keysWithin, Value.keysWithin, keysInEntries_transmitted scope]
  | .null | .bool _ | .int32 _ | .int64 _ | .double _ | .decimal _ | .string _ | .objectId _
  | .dateTime _ | .binary _ _ | .regex _ _ | .timestamp _ _ | .code _ | .symbol _ | .undefined
  | .minKey | .maxKey | .dbPointer _ _ => rfl

/-- The same of items. -/
theorem keysInItems_transmitted :
    (vs : List Value) → keysInItems (transmittedItems vs) = keysInItems vs
  | [] => rfl
  | v :: rest => by
    rw [transmittedItems, keysInItems, keysInItems, Value.keysWithin_transmitted v,
      keysInItems_transmitted rest]

/-- The same of entries. -/
theorem keysInEntries_transmitted :
    (es : List (String × Value)) → keysInEntries (transmittedEntries es) = keysInEntries es
  | [] => rfl
  | (k, v) :: rest => by
    rw [transmittedEntries, keysInEntries, keysInEntries, Value.keysWithin_transmitted v,
      keysInEntries_transmitted rest]

end

theorem Document.allKeys_transmitted (d : Document) : d.transmitted.allKeys = d.allKeys :=
  keysInEntries_transmitted d

theorem Document.bytes_transmitted (d : Document) : d.transmitted.bytes = d.bytes := by
  rw [Document.bytes, Document.transmitted, encodeEntries_transmitted, Document.bytes]

/-- **Documents that are written alike arrive alike**, and the other way round. -/
theorem Document.bytes_eq_iff {d e : Document} (hd : d.Encodable) (he : e.Encodable)
    (hsize : d.bytes.length < 2 ^ 31) : e.bytes = d.bytes ↔ e.transmitted = d.transmitted := by
  constructor
  · intro hbytes
    -- The same bytes are read as one document and as the other.
    have hread : Document.ofBytes? e.bytes = some e.transmitted :=
      Document.ofBytes?_bytes he (hbytes ▸ hsize)
    rw [hbytes, Document.ofBytes?_bytes hd hsize, Option.some.injEq] at hread
    exact hread.symm
  · intro harrives
    rw [← e.bytes_transmitted, harrives, d.bytes_transmitted]

end QueryAlgebra
