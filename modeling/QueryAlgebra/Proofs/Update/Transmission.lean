import QueryAlgebra.Proofs.Value.Decoding
import QueryAlgebra.Update.Lowering

/-!
# What arrives of a filter or an update

A filter and an update are sent as the encoding of their documents. If no key of the document has a
NUL in it and the encoding is short enough for its length to be written, then the bytes are there
and are read back as the document, its regular expressions with their options in order. So two trees
of either sort are sent as the same bytes exactly if their documents differ in the order of options
at most (`toBytes_read_back`).
-/

namespace QueryAlgebra

/-! ### Encoding a document -/

/-- A document is encoded exactly if its keys can be written. -/
theorem Document.toBytes_eq_ok_iff {d : Document} {bytes : List UInt8} :
    d.toBytes = .ok bytes ↔ d.Encodable ∧ d.bytes = bytes := by
  rw [Document.toBytes, Document.encode, Document.nulKey?_eq_find?]
  cases hfind : d.allKeys.find? hasNul with
  | none =>
    have hkeys : d.Encodable := fun key hkey =>
      Bool.eq_false_iff.mpr (List.find?_eq_none.mp hfind key hkey)
    constructor
    · intro hok
      exact ⟨hkeys, Except.ok.inj hok⟩
    · rintro ⟨-, rfl⟩
      rfl
  | some key =>
    constructor
    · intro hok
      cases hok
    · rintro ⟨hkeys, -⟩
      have hnul : hasNul key = true := List.find?_some hfind
      rw [hkeys key (List.mem_of_find?_eq_some hfind)] at hnul
      cases hnul

/-! ### Trees -/

/-- What is sent: a filter or an update. -/
inductive Query where
  | filter (f : Filter)
  | update (u : Update)

namespace Query

/-- The document of a tree. -/
def document : Query → Document
  | .filter f => f.toDocument.value
  | .update u => u.toDocument.value

/-- The bytes of a tree, or why there are none. -/
def toBytes : Query → Except QueryError (List UInt8)
  | .filter f => f.toBytes.value
  | .update u => u.toBytes.value

/-- Either sort is sent as the encoding of its document. -/
theorem toBytes_eq (q : Query) : q.toBytes = q.document.toBytes := by
  cases q <;> rfl

end Query

/-- **What is sent is what arrives.** A filter or an update whose keys have no NUL, and whose
encoding is shorter than the largest length that can be written, has bytes, and these bytes are read
back as its document, with the options of regular expressions in order and all else as it was. The
trees that are sent as these bytes are those whose documents arrive alike. -/
theorem toBytes_read_back (q : Query) (hkeys : q.document.Encodable)
    (hsize : q.document.bytes.length < 2 ^ 31) :
    ∃ bytes, q.toBytes = .ok bytes ∧
      Document.ofBytes? bytes = some q.document.transmitted ∧
      ∀ other : Query, other.toBytes = .ok bytes ↔
        other.document.transmitted = q.document.transmitted := by
  refine ⟨q.document.bytes, ?bytes, ?arrives, fun other => ?_⟩
  case bytes =>
    rw [Query.toBytes_eq, Document.toBytes_eq_ok_iff]
    exact ⟨hkeys, rfl⟩
  case arrives => exact Document.ofBytes?_bytes hkeys hsize
  rw [Query.toBytes_eq, Document.toBytes_eq_ok_iff]
  constructor
  · rintro ⟨hother, hbytes⟩
    exact (Document.bytes_eq_iff hkeys hother hsize).mp hbytes
  · intro harrives
    -- Documents that arrive alike have the same keys, so the other one can be encoded as well.
    have hother : other.document.Encodable := by
      intro key hkey
      rw [← Document.allKeys_transmitted, harrives, Document.allKeys_transmitted] at hkey
      exact hkeys key hkey
    exact ⟨hother, (Document.bytes_eq_iff hkeys hother hsize).mpr harrives⟩

/-- A filter with a document in an array, code with a scope, an old binary, a NaN and a text with a
NUL in it arrives as it is, but for the options of a regular expression. -/
theorem toBytes_read_back_nested :
    let nested (options : NulFree) : Query := .filter (.equals ⟨"a.b"⟩ (.array [
      .document [("0", .double ⟨0x7FF8000000000001⟩), ("text", .string "x\x00é")],
      .codeWithScope "f" [("r", .regex ⟨"^x", by decide⟩ options)], .binary 2 [1, 0, 255]]))
    let sent : Query := nested ⟨"mi", by decide⟩
    sent.document.Encodable ∧ sent.document.bytes.length < 2 ^ 31 ∧
      ∃ bytes, sent.toBytes = .ok bytes ∧
        Document.ofBytes? bytes = some (nested ⟨"im", by decide⟩).document ∧
        (nested ⟨"im", by decide⟩).toBytes = .ok bytes := by
  intro nested sent
  have hkeys : sent.document.Encodable := by
    unfold Document.Encodable
    decide +kernel
  have hsize : sent.document.bytes.length < 2 ^ 31 := by cbv
  have hsorted : (⟨"mi", by decide⟩ : NulFree).sorted = ⟨"im", by decide⟩ := by
    rw [NulFree.mk.injEq]
    cbv
  have harrives : ∀ options : NulFree,
      (nested options).document.transmitted = (nested options.sorted).document := fun _ => rfl
  obtain ⟨bytes, hbytes, hread, hsame⟩ := toBytes_read_back sent hkeys hsize
  refine ⟨hkeys, hsize, bytes, hbytes, ?_, ?_⟩
  · rw [hread, harrives, hsorted]
  · rw [hsame, harrives, harrives, ← hsorted, NulFree.sorted_sorted]

end QueryAlgebra
