import QueryAlgebra.Proofs.Filter.Keys
import QueryAlgebra.Proofs.Update.Grouping
import QueryAlgebra.Proofs.Update.Policies

/-!
# The keys that an update writes

An update writes the path of each of its directives and the keys within those values that no later
directive replaces, one for the same path of the same kind. As with filters the keys are given in
any order (`Update.Carries`) and in that of the document (`Update.writtenKeys`): kind by kind, and
within a kind path by path, each where it first occurs and with the value that comes last.

So for filters and updates alike it can be read off the tree whether they can be encoded, and which
key is at fault if not (`toBytes_fails_iff`). Payloads do not come into it.
-/

namespace QueryAlgebra

/-! ### Written keys in order -/

/-- The keys that a directive writes: its path and the keys within its value. -/
def Directive.writtenKeys (d : Directive) : List String :=
  d.path.text :: d.value.keysWithin

/-- The directives of a list that count, in order: for each kind that occurs, and for each path that
occurs with it, the last one. -/
def standing (ds : List Directive) : List Directive :=
  (ds.map Directive.kind).eraseDups.flatMap fun kind =>
    Assoc.latest (fun d => d.path.text) (ofKind kind ds)

/-- The keys that an update writes, other than symbols, in the order of its document. -/
def Update.writtenKeys (u : Update) : List String :=
  (standing u.directives).flatMap Directive.writtenKeys

/-! ### Written keys in any order -/

/-- The update writes the key: it is the path of a directive, or a key within the value of one that
no later directive of its kind replaces at its path. -/
inductive Update.Carries (key : String) (u : Update) : Prop where
  | path {d : Directive} (member : d ∈ u.directives) (here : d.path.text = key)
  | value {before after : List Directive} {d : Directive}
    (split : u.directives = before ++ d :: after)
    (last : ∀ e ∈ after, ¬ (e.kind = d.kind ∧ e.path = d.path)) (within : key ∈ d.value.keysWithin)

/-- The directives that count are the last ones for each kind and path, if in another order. -/
theorem mem_standing_iff {ds : List Directive} {d : Directive} :
    d ∈ standing ds ↔ d ∈ Assoc.latest (fun e => (e.kind, e.path)) ds := by
  have hkeys : ∀ e : Directive, (decide (e.path.text = d.path.text) && decide (e.kind = d.kind)) =
      decide ((e.kind, e.path) = (d.kind, d.path)) := fun e => by
    cases e.path
    cases d.path
    simp [and_comm]
  rw [standing, List.mem_flatMap]
  constructor
  · rintro ⟨kind, -, hd⟩
    obtain rfl : d.kind = kind :=
      of_decide_eq_true (List.mem_filter.mp (Assoc.mem_of_mem_latest hd)).2
    rw [Assoc.mem_latest_iff_getLast?, ofKind, List.filter_filter] at hd
    rwa [Assoc.mem_latest_iff_getLast?, ← funext hkeys]
  · intro hd
    refine ⟨d.kind, ?_, ?_⟩
    · rw [List.mem_eraseDups]
      exact List.mem_map_of_mem (Assoc.mem_of_mem_latest hd)
    · rw [Assoc.mem_latest_iff_getLast?, ← funext hkeys] at hd
      rwa [Assoc.mem_latest_iff_getLast?, ofKind, List.filter_filter]

/-- The keys that an update writes are those in its list of keys. -/
theorem Update.carries_iff_mem (u : Update) (key : String) :
    u.Carries key ↔ key ∈ u.writtenKeys := by
  have hsplits : ∀ d, d ∈ standing u.directives ↔ ∃ before after,
      u.directives = before ++ d :: after ∧ ∀ e ∈ after, ¬ (e.kind = d.kind ∧ e.path = d.path) :=
    fun d => by simp [mem_standing_iff, Assoc.mem_latest_iff]
  rw [Update.writtenKeys, List.mem_flatMap]
  constructor
  · rintro (⟨hmember, rfl⟩ | ⟨hsplit, hlast, hwithin⟩)
    · -- Some directive counts for the kind and the path, if not this one.
      rename_i d
      obtain ⟨e, he, hkey⟩ : ∃ e ∈ Assoc.latest (fun e : Directive => (e.kind, e.path)) u.directives,
          (e.kind, e.path) = (d.kind, d.path) := Assoc.exists_mem_latest hmember
      have hpath : e.path = d.path := congrArg Prod.snd hkey
      refine ⟨e, mem_standing_iff.mpr he, ?_⟩
      rw [← hpath]
      exact List.mem_cons_self
    · exact ⟨_, (hsplits _).mpr ⟨_, _, hsplit, hlast⟩, List.mem_cons_of_mem _ hwithin⟩
  · rintro ⟨d, hd, hkey⟩
    obtain ⟨before, after, hsplit, hlast⟩ := (hsplits d).mp hd
    rcases List.mem_cons.mp hkey with rfl | hwithin
    · exact .path (hsplit ▸ List.mem_append_right before List.mem_cons_self) rfl
    · exact .value hsplit hlast hwithin

/-! ### The keys of the document -/

/-- No symbol of a kind of update contains a NUL. -/
@[simp] theorem hasNul_updateKind (kind : UpdateKind) : hasNul kind.symbol = false := by
  cases kind <;> decide

/-- The fields of a group have the keys of the last directive for each path. -/
theorem allKeys_fields (ds : List Directive) :
    Document.allKeys (Document.ofEntries (ds.map Directive.entry)) =
      (Assoc.latest (fun d => d.path.text) ds).flatMap Directive.writtenKeys := by
  rw [Document.ofEntries, Assoc.ofEntries_eq_latest, Assoc.latest_map, Document.allKeys_eq_flatMap,
    List.flatMap_map]
  rfl

/-- The document of an update has the offending keys that the update writes, in their order. -/
theorem filter_hasNul_toDocument (u : Update) :
    (Document.allKeys u.toDocument.value).filter hasNul = u.writtenKeys.filter hasNul := by
  rw [Update.value_toDocument, groupsOf_eq_map, Groups.toDocument, List.map_map,
    Document.allKeys_eq_flatMap, List.flatMap_map, Update.writtenKeys, standing, List.flatMap_assoc,
    List.filter_flatMap, List.filter_flatMap]
  -- Group by group: a symbol, and then the fields with the last value for each path.
  refine List.flatMap_congr fun kind _ => ?_
  rw [Function.comp_apply, List.filter_cons, hasNul_updateKind, Value.keysWithin_document,
    allKeys_fields]
  rfl

/-! ### Encoding -/

/-- **Whether a tree can be encoded is known from the keys that it writes.** A filter and an update
fail to be encoded exactly if they write a key that contains a NUL, which keys within replaced
operators and replaced values are not. The failure names the first such key in the order of the
document, which is the order of the written keys, and is one of serialization. Payloads never are
the cause of one. -/
theorem toBytes_fails_iff :
    (∀ f : Filter,
      ((∃ e, f.toBytes.value = .error e) ↔ ∃ key, f.Carries key ∧ hasNul key = true) ∧
        (∀ e, f.toBytes.value = .error e ↔ ∃ key, f.writtenKeys.find? hasNul = some key ∧
          e = .nulInKey key ∧ e.kind = .serialization) ∧
        (Document.allKeys f.toDocument.value).filter hasNul = f.writtenKeys.filter hasNul) ∧
      ∀ u : Update,
        ((∃ e, u.toBytes.value = .error e) ↔ ∃ key, u.Carries key ∧ hasNul key = true) ∧
          (∀ e, u.toBytes.value = .error e ↔ ∃ key, u.writtenKeys.find? hasNul = some key ∧
            e = .nulInKey key ∧ e.kind = .serialization) ∧
          (Document.allKeys u.toDocument.value).filter hasNul = u.writtenKeys.filter hasNul ∧
          u.toBytes.value = u.withoutPayloads.toBytes.value := by
  refine ⟨fun f => ?_, fun u => ?_⟩
  · have hkeys := filter_hasNul_lower f
    have hbytes : f.toBytes.value = Document.toBytes f.lower := rfl
    refine ⟨?_, fun e => ?_, hkeys⟩
    · rw [hbytes, Document.exists_toBytes_eq_error_iff hkeys]
      exact exists_congr fun key => and_congr_left' (carries_iff_mem f key).symm
    · rw [hbytes, Document.toBytes_eq_error_iff hkeys]
  · have hkeys := filter_hasNul_toDocument u
    have hbytes : ∀ w : Update, w.toBytes.value = Document.toBytes w.toDocument.value :=
      fun _ => rfl
    refine ⟨?_, fun e => ?_, hkeys, ?_⟩
    · rw [hbytes, Document.exists_toBytes_eq_error_iff hkeys]
      exact exists_congr fun key => and_congr_left' (u.carries_iff_mem key).symm
    · rw [hbytes, Document.toBytes_eq_error_iff hkeys]
    · rw [hbytes, hbytes, toDocument_withoutPayloads]

/-- The replaced value keeps its path in front, and its own keys do not count: the first offending
key is that of the value behind it. -/
example :
    (Update.combined [.directive ⟨.set, ⟨"a"⟩, .document [("x\x00", .null)]⟩,
      .directive ⟨.set, ⟨"b\x00"⟩, .null⟩, .unrecognized (.document [("y\x00", .null)]),
      .directive ⟨.set, ⟨"a"⟩, .array [.document [("z\x00", .null)]]⟩]).writtenKeys =
      ["a", "z\x00", "b\x00"] := by decide +kernel

end QueryAlgebra
