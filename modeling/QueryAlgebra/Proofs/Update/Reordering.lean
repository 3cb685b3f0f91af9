import Mathlib.Data.List.Forall2
import QueryAlgebra.Proofs.Assoc.Latest
import QueryAlgebra.Proofs.Store.Sending

/-!
# Updates in another order

The order in which directives are combined shows in the document of an update in two ways: in the
places of the groups and of the paths within them, and in which of several values for one path
counts. This module says that there is no third. Where no two directives write different values to
one path by one kind of update (`Consistent`), directives in any order make the same document up to
the order of keys (`Document.SameUpToOrder`).

Nothing is said here of how a collection goes on when its directives come in another order, which is
different at every step. The groups that it ends with are one for each kind that occurs, and each
keeps the last entry for each path that occurs (`groupsOf_eq_map`, `Assoc.ofEntries_eq_latest`).
Both lists are the same up to order where the directives are (`Assoc.eraseDups_perm`,
`Assoc.latest_perm`).
-/

namespace QueryAlgebra

/-! ### Documents in another order -/

/-- The two entries are groups under one symbol, of the same fields in any order. -/
inductive SameGroup : String × Value → String × Value → Prop where
  | intro (symbol : String) {fields fields' : Document} (same : fields.Perm fields') :
    SameGroup (symbol, .document fields) (symbol, .document fields')

/-- The documents are the same but for the order of keys, among the groups and within each. -/
def Document.SameUpToOrder (document document' : Document) : Prop :=
  ∃ ordered, document.Perm ordered ∧ List.Forall₂ SameGroup ordered document'

/-! ### Directives in another order -/

/-- No two of the directives write different values to one path by one kind of update. -/
def Consistent (ds : List Directive) : Prop :=
  ∀ d ∈ ds, ∀ e ∈ ds, d.kind = e.kind → d.path = e.path → d.value = e.value

/-- The group of a kind has the same fields in any order. -/
theorem fields_perm {ds es : List Directive} (hperm : ds.Perm es) (h : Consistent ds)
    (kind : UpdateKind) :
    (Document.ofEntries ((ofKind kind ds).map Directive.entry)).Perm
      (Document.ofEntries ((ofKind kind es).map Directive.entry)) := by
  rw [Document.ofEntries, Document.ofEntries, Assoc.ofEntries_eq_latest, Assoc.ofEntries_eq_latest]
  refine Assoc.latest_perm ((hperm.filter _).map _) fun x hx y hy hkey => ?_
  -- Both entries are those of directives of the kind, which agree if their paths do.
  obtain ⟨d, hd, rfl⟩ := List.mem_map.mp hx
  obtain ⟨e, he, rfl⟩ := List.mem_map.mp hy
  obtain ⟨hd, hdkind⟩ := List.mem_filter.mp hd
  obtain ⟨he, hekind⟩ := List.mem_filter.mp he
  have hkind : d.kind = e.kind := (of_decide_eq_true hdkind).trans (of_decide_eq_true hekind).symm
  have hpath : d.path.text = e.path.text := hkey
  have hvalue : d.value = e.value := h d hd e he hkind (congrArg Path.mk hpath)
  exact Prod.ext hpath hvalue

/-- Directives make the same document up to order, in whatever order they come. -/
theorem toDocument_groupsOf_perm {ds es : List Directive} (hperm : ds.Perm es)
    (h : Consistent ds) :
    Document.SameUpToOrder (groupsOf ds).toDocument (groupsOf es).toDocument := by
  have hkinds := Assoc.eraseDups_perm (hperm.map Directive.kind)
  -- In between stand the groups of the one list in the order of the other.
  refine ⟨((es.map Directive.kind).eraseDups.map fun kind =>
    (kind.symbol, .document (Document.ofEntries ((ofKind kind ds).map Directive.entry)))), ?_, ?_⟩
  · rw [groupsOf_eq_map, Groups.toDocument, List.map_map]
    exact hkinds.map _
  · rw [groupsOf_eq_map es, Groups.toDocument, List.map_map, List.forall₂_map_left_iff,
      List.forall₂_map_right_iff, List.forall₂_same]
    exact fun kind _ => .intro kind.symbol (fields_perm hperm h kind)

/-! ### Updates -/

/-- Without payloads an update can be sent if it has a directive. -/
theorem updateDocument_ok_iff {u : Update} (h : u.payloads = []) :
    (∃ document, (Store.updateDocument u).value = .ok document) ↔ u.directives ≠ [] := by
  rw [Store.value_updateDocument, h]
  cases u.directives with
  | nil => simp
  | cons d ds => simp

/-- **The order of directives that agree does not change an update.** Two updates with the same
directives in any order, in trees of any shape and with any payloads between them, have the same
document up to the order of keys, if no two of the directives write different values to one path by
one kind of update; and without payloads either both pass as something to be sent or neither does.
-/
theorem toDocument_reordered {u w : Update} (hperm : u.directives.Perm w.directives)
    (h : Consistent u.directives) :
    Document.SameUpToOrder u.toDocument.value w.toDocument.value ∧
      (u.payloads = [] → w.payloads = [] →
        ((∃ document, (Store.updateDocument u).value = .ok document) ↔
          ∃ document, (Store.updateDocument w).value = .ok document)) := by
  refine ⟨?_, fun hu hw => ?_⟩
  · rw [Update.value_toDocument, Update.value_toDocument]
    exact toDocument_groupsOf_perm hperm h
  · rw [updateDocument_ok_iff hu, updateDocument_ok_iff hw, ne_eq, ne_eq, ← List.length_eq_zero_iff,
      ← List.length_eq_zero_iff, hperm.length_eq]

/-- The same four directives in two orders and trees, with a payload behind the second. One of them
is written twice, with one value. -/
theorem toDocument_reordered_sample :
    let set := fun path n => Directive.mk .set ⟨path⟩ (.int32 n)
    let count := Directive.mk .inc ⟨"n"⟩ (.int32 1)
    let u := Update.combined [.directive (set "a" 1), .combined [.directive (set "a" 1),
      .directive count, .directive (set "b" 2)]]
    let w := Update.combined [.combined [.directive count, .combined [], .directive (set "b" 2)],
      .directive (set "a" 1), .directive (set "a" 1)]
    let spoilt := w.and [.unrecognized .null]
    (u.directives.Perm w.directives ∧ Consistent u.directives ∧ u.payloads = [] ∧
        w.payloads = []) ∧
      (u.toDocument.value = [("$set", .document [("a", .int32 1), ("b", .int32 2)]),
          ("$inc", .document [("n", .int32 1)])] ∧
        w.toDocument.value = [("$inc", .document [("n", .int32 1)]),
          ("$set", .document [("b", .int32 2), ("a", .int32 1)])]) ∧
      Document.SameUpToOrder u.toDocument.value w.toDocument.value ∧
      Document.SameUpToOrder u.toDocument.value spoilt.toDocument.value ∧
      ((∃ document, (Store.updateDocument u).value = .ok document) ↔
        ∃ document, (Store.updateDocument w).value = .ok document) := by
  intro set count u w spoilt
  have hperm : u.directives.Perm w.directives :=
    @List.perm_append_comm _ [set "a" 1, set "a" 1] [count, set "b" 2]
  have hconsistent : Consistent u.directives := by
    change Consistent [set "a" 1, set "a" 1, count, set "b" 2]
    intro d hd e he
    simp only [List.mem_cons, List.not_mem_nil, or_false] at hd he
    rcases hd with rfl | rfl | rfl | rfl <;> rcases he with rfl | rfl | rfl | rfl <;>
      simp [set, count]
  have hspoilt : spoilt.directives = w.directives := rfl
  exact ⟨⟨hperm, hconsistent, rfl, rfl⟩, ⟨rfl, rfl⟩, (toDocument_reordered hperm hconsistent).1,
    (toDocument_reordered (hspoilt ▸ hperm) hconsistent).1,
    (toDocument_reordered hperm hconsistent).2 rfl rfl⟩

end QueryAlgebra
