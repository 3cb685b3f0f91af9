import QueryAlgebra.Proofs.Update.Grouping

/-!
# Well-formed update documents

A document that a server takes for an update has at least one entry, each of its keys is the symbol
of a kind of update and occurs once, and under each stands a document with at least one field:
`Document.IsUpdate`.

The collection keeps its groups in this form. `Groups.Proper` is what holds before the first
directive and is kept by each of them (`Groups.Proper.add`), so it holds after a run of any length
(`Groups.Proper.foldl_add`). As the groups of one directive or more are never empty, the document of
an update is well-formed exactly when the update has a directive (`isUpdate_toDocument_iff`).
-/

namespace QueryAlgebra

/-- A document that makes a well-formed update: distinct symbols of kinds of update, each with a
document that has fields. -/
structure Document.IsUpdate (document : Document) : Prop where
  nonempty : document ≠ []
  distinct : (Assoc.keys document).Nodup
  group : ∀ e ∈ document, ∃ (kind : UpdateKind) (fields : Document),
    e = (kind.symbol, .document fields) ∧ fields ≠ []

namespace Groups

/-- What the collection keeps of its groups: one for each kind, with fields at distinct paths. -/
structure Proper (groups : Groups) : Prop where
  distinct : (Assoc.keys groups).Nodup
  nonempty : ∀ g ∈ groups, g.2 ≠ []
  distinct_fields : ∀ g ∈ groups, (Assoc.keys g.2).Nodup

/-- There are no groups at first. -/
theorem Proper.nil : Proper [] where
  distinct := List.nodup_nil
  nonempty := fun _ h => absurd h List.not_mem_nil
  distinct_fields := fun _ h => absurd h List.not_mem_nil

/-- The fields that a directive finds for its kind are at distinct paths, also if there are none. -/
theorem Proper.distinct_found {groups : Groups} (h : groups.Proper) (kind : UpdateKind) :
    (Assoc.keys ((Assoc.get? groups kind).getD [])).Nodup := by
  cases hfound : Assoc.get? groups kind with
  | none => exact List.nodup_nil
  | some fields => exact h.distinct_fields _ (Assoc.mem_of_get? hfound)

/-- One more directive keeps the groups proper: only the group of its kind is written to, and it has
a field from then on. -/
theorem Proper.add {groups : Groups} (h : groups.Proper) (d : Directive) :
    (groups.add d).Proper where
  distinct := Assoc.nodup_keys_alter h.distinct _ _
  nonempty := Assoc.forall_mem_alter h.nonempty (Assoc.alter_ne_nil _ _ _)
  distinct_fields := Assoc.forall_mem_alter h.distinct_fields
    (Assoc.nodup_keys_alter (h.distinct_found d.kind) _ _)

/-- A run of directives keeps the groups proper. -/
theorem Proper.foldl_add {groups : Groups} (h : groups.Proper) (ds : List Directive) :
    (ds.foldl Groups.add groups).Proper := by
  induction ds generalizing groups with
  | nil => exact h
  | cons d rest ih => exact ih (h.add d)

end Groups

theorem proper_groupsOf (ds : List Directive) : (groupsOf ds).Proper :=
  Groups.Proper.nil.foldl_add ds

/-- There are groups as soon as there is a directive. -/
theorem groupsOf_eq_nil_iff {ds : List Directive} : groupsOf ds = [] ↔ ds = [] := by
  induction ds using List.reverseRecOn with
  | nil => exact ⟨fun _ => rfl, fun _ => rfl⟩
  | append_singleton ds d _ =>
    rw [groupsOf, List.foldl_append, List.foldl_cons, List.foldl_nil]
    constructor
    · intro h
      exact absurd h (Assoc.alter_ne_nil _ _ _)
    · intro h
      exact absurd h (List.append_ne_nil_of_right_ne_nil ds (List.cons_ne_nil d []))

/-- Proper groups make a well-formed update, if there are any. -/
theorem Groups.Proper.isUpdate {groups : Groups} (h : groups.Proper) (hne : groups ≠ []) :
    groups.toDocument.IsUpdate where
  nonempty := fun hnil => hne (List.map_eq_nil_iff.mp hnil)
  distinct := by
    -- No two kinds share a symbol.
    rw [Groups.keys_toDocument]
    exact h.distinct.map UpdateKind.symbol_injective
  group := by
    intro e he
    obtain ⟨⟨kind, fields⟩, hmem, rfl⟩ := List.mem_map.mp he
    exact ⟨kind, fields, rfl, h.nonempty _ hmem⟩

/-- The document of an update is a well-formed one, unless the update has no directive: then it is
empty. -/
theorem isUpdate_toDocument_iff (u : Update) :
    u.toDocument.value.IsUpdate ↔ u.directives ≠ [] := by
  rw [Update.value_toDocument]
  constructor
  · intro h hnil
    exact h.nonempty (by rw [hnil]; rfl)
  · intro hne
    exact (proper_groupsOf u.directives).isUpdate (mt groupsOf_eq_nil_iff.mp hne)

theorem toDocument_eq_nil_iff (u : Update) : u.toDocument.value = [] ↔ u.directives = [] := by
  rw [Update.value_toDocument, Groups.toDocument, List.map_eq_nil_iff, groupsOf_eq_nil_iff]

end QueryAlgebra
