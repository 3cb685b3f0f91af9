import QueryAlgebra.Proofs.Assoc
import QueryAlgebra.Proofs.Update.Collection

/-!
# The document of an update

What the document of an update has to be is said of the list of its directives, without a word on
how they are collected:

* `Document.IsGrouping` — one group for each kind of update that occurs, where the kind first
  occurs;
* `Document.IsGroup` — within it one entry for each path that occurs with that kind, where the path
  first occurs, with the value that comes last.

At most one document is the grouping of a list of directives (`IsGrouping.unique`), and the document
of an update is that of its directives: `toDocument_eq_iff_isGrouping`.
-/

namespace QueryAlgebra

/-- The directives of one kind, in order. -/
def ofKind (kind : UpdateKind) (ds : List Directive) : List Directive :=
  ds.filter fun d => d.kind = kind

/-- The fields are those of these directives, with the last value for each path. -/
structure Document.IsGroup (fields : Document) (ds : List Directive) : Prop where
  nonempty : fields ≠ []
  keys_eq : Assoc.keys fields = (ds.map fun d => d.path.text).eraseDups
  value_eq : ∀ path, Assoc.get? fields path =
    ((ds.filter fun d => d.path.text = path).getLast?).map Directive.value

/-- The entries are the groups of these directives, one for each kind. -/
structure Document.IsGrouping (document : Document) (ds : List Directive) : Prop where
  keys_eq : Assoc.keys document = (ds.map fun d => d.kind.symbol).eraseDups
  group : ∀ d ∈ ds, ∃ fields, Assoc.get? document d.kind.symbol = some (.document fields) ∧
    Document.IsGroup fields (ofKind d.kind ds)

/-! ### At most one document -/

namespace Document

theorem IsGroup.nodup_keys {fields : Document} {ds : List Directive} (h : fields.IsGroup ds) :
    (Assoc.keys fields).Nodup := by
  rw [h.keys_eq]
  exact Assoc.nodup_eraseDups _

theorem IsGrouping.nodup_keys {document : Document} {ds : List Directive}
    (h : document.IsGrouping ds) : (Assoc.keys document).Nodup := by
  rw [h.keys_eq]
  exact Assoc.nodup_eraseDups _

/-- Fields are known by their paths and the value under each. -/
theorem IsGroup.unique {fields fields' : Document} {ds : List Directive}
    (h : fields.IsGroup ds) (h' : fields'.IsGroup ds) : fields = fields' := by
  refine Assoc.eq_of_get? h.nodup_keys (h.keys_eq.trans h'.keys_eq.symm) fun path _ => ?_
  rw [h.value_eq, h'.value_eq]

/-- A grouping is known by the symbols and the group under each. -/
theorem IsGrouping.unique {document document' : Document} {ds : List Directive}
    (h : document.IsGrouping ds) (h' : document'.IsGrouping ds) : document = document' := by
  refine Assoc.eq_of_get? h.nodup_keys (h.keys_eq.trans h'.keys_eq.symm) fun symbol hsymbol => ?_
  -- Every symbol is that of a directive, for which both have the one group.
  rw [h.keys_eq, List.mem_eraseDups] at hsymbol
  obtain ⟨d, hd, rfl⟩ := List.mem_map.mp hsymbol
  obtain ⟨fields, hfields, hgroup⟩ := h.group d hd
  obtain ⟨fields', hfields', hgroup'⟩ := h'.group d hd
  rw [hfields, hfields', hgroup.unique hgroup']

end Document

/-! ### The groups of directives -/

theorem UpdateKind.symbol_injective : Function.Injective UpdateKind.symbol := by
  intro k k' h
  cases k <;> cases k' <;> first | rfl | exact absurd h (by decide)

/-- The path and the value of a directive, as an entry of its group. -/
def Directive.entry (d : Directive) : String × Value :=
  (d.path.text, d.value)

/-- Directives make a group when they are written one after the other. -/
theorem isGroup_ofEntries {ds : List Directive} (h : ds ≠ []) :
    Document.IsGroup (Document.ofEntries (ds.map Directive.entry)) ds := by
  have hkeys : Assoc.keys (Document.ofEntries (ds.map Directive.entry)) =
      (ds.map fun d => d.path.text).eraseDups := by
    rw [Document.ofEntries, Assoc.keys_ofEntries, Assoc.keys, List.map_map]
    rfl
  refine ⟨fun hnil => ?_, hkeys, fun path => ?_⟩
  · -- A path of the directives is a key.
    obtain ⟨d, hd⟩ := List.exists_mem_of_ne_nil ds h
    have hmem : d.path.text ∈ Assoc.keys (Document.ofEntries (ds.map Directive.entry)) := by
      rw [hkeys, List.mem_eraseDups]
      exact List.mem_map_of_mem hd
    rw [hnil] at hmem
    exact List.not_mem_nil hmem
  · rw [Document.ofEntries, Assoc.get?_ofEntries, List.filter_map, List.getLast?_map,
      Option.map_map]
    rfl

/-- The fields of a group after a run of further directives. -/
theorem foldl_fields (ds : List Directive) (fields : Document) :
    ds.foldl (fun v d => some (Assoc.insert (v.getD []) d.path.text d.value)) (some fields) =
      some (Assoc.insertAll fields (ds.map Directive.entry)) := by
  induction ds generalizing fields with
  | nil => rfl
  | cons d rest ih =>
    rw [List.foldl_cons, ih, List.map_cons, Directive.entry, Assoc.insertAll_cons]
    rfl

/-- The fields of a kind after directives: those of the kind, written one after the other. -/
theorem get?_groupsOf {ds : List Directive} {kind : UpdateKind} (h : ofKind kind ds ≠ []) :
    Assoc.get? (groupsOf ds) kind =
      some (Document.ofEntries ((ofKind kind ds).map Directive.entry)) := by
  have hrun := Assoc.get?_foldl_alter Directive.kind
    (fun d fields => Assoc.insert (fields.getD []) d.path.text d.value) ds kind
  refine hrun.trans ?_
  -- The first directive of the kind finds no group, which is as good as an empty one.
  change (ofKind kind ds).foldl _ none = _
  cases hds : ofKind kind ds with
  | nil => exact absurd hds h
  | cons d rest => exact foldl_fields (d :: rest) []

/-- The kinds of the groups of directives, in order. -/
theorem keys_groupsOf (ds : List Directive) :
    Assoc.keys (groupsOf ds) = (ds.map Directive.kind).eraseDups :=
  Assoc.keys_foldl_alter Directive.kind
    (fun d fields => Assoc.insert (fields.getD []) d.path.text d.value) ds

/-- The groups of directives, one for each kind in order of first occurrence. -/
theorem groupsOf_eq_map (ds : List Directive) :
    groupsOf ds = (ds.map Directive.kind).eraseDups.map fun kind =>
      (kind, Document.ofEntries ((ofKind kind ds).map Directive.entry)) := by
  rw [← keys_groupsOf]
  refine Assoc.eq_map_of_get? ?_ fun kind hkind => ?_
  · rw [keys_groupsOf]
    exact Assoc.nodup_eraseDups _
  · -- A kind that occurs is that of a directive.
    rw [keys_groupsOf, List.mem_eraseDups] at hkind
    obtain ⟨d, hd, rfl⟩ := List.mem_map.mp hkind
    exact get?_groupsOf (List.ne_nil_of_mem (List.mem_filter.mpr ⟨hd, decide_eq_true rfl⟩))

/-- The keys of the document are the symbols of the kinds. -/
theorem Groups.keys_toDocument (groups : Groups) :
    Assoc.keys groups.toDocument = (Assoc.keys groups).map UpdateKind.symbol := by
  rw [Groups.toDocument, Assoc.keys, Assoc.keys, List.map_map, List.map_map]
  rfl

/-- The symbols of the groups of directives, in order. -/
theorem keys_toDocument_groupsOf (ds : List Directive) :
    Assoc.keys (groupsOf ds).toDocument = (ds.map fun d => d.kind.symbol).eraseDups := by
  calc Assoc.keys (groupsOf ds).toDocument
      = (Assoc.keys (groupsOf ds)).map UpdateKind.symbol := Groups.keys_toDocument _
    _ = ((ds.map Directive.kind).map UpdateKind.symbol).eraseDups := by
        rw [keys_groupsOf, Assoc.eraseDups_map UpdateKind.symbol_injective]
    _ = (ds.map fun d => d.kind.symbol).eraseDups := by
        rw [List.map_map]
        rfl

/-- The groups of directives make the grouping of them. -/
theorem isGrouping_groupsOf (ds : List Directive) :
    (groupsOf ds).toDocument.IsGrouping ds := by
  refine ⟨keys_toDocument_groupsOf ds, fun d hd => ?_⟩
  have hne : ofKind d.kind ds ≠ [] :=
    List.ne_nil_of_mem (List.mem_filter.mpr ⟨hd, decide_eq_true rfl⟩)
  refine ⟨Document.ofEntries ((ofKind d.kind ds).map Directive.entry), ?_, isGroup_ofEntries hne⟩
  rw [Groups.toDocument, Assoc.get?_map UpdateKind.symbol_injective, get?_groupsOf hne]
  rfl

/-- **The document of an update is the grouping of its directives**, taken from left to right, and
no other document is. So it depends on nothing else in the update: neither on how the directives are
combined nor on the payloads between them. -/
theorem toDocument_eq_iff_isGrouping (u : Update) (document : Document) :
    u.toDocument.value = document ↔ document.IsGrouping u.directives := by
  have hgrouping : u.toDocument.value.IsGrouping u.directives := by
    rw [Update.value_toDocument]
    exact isGrouping_groupsOf u.directives
  constructor
  · rintro rfl
    exact hgrouping
  · intro h
    exact hgrouping.unique h

/-- A payload in between changes nothing, and the second value for a path replaces the first. -/
example :
    (Update.combined [.directive ⟨.set, ⟨"a"⟩, .int32 1⟩, .combined [.unrecognized .null,
      .directive ⟨.inc, ⟨"n"⟩, .int32 1⟩], .directive ⟨.set, ⟨"a"⟩, .int32 2⟩]).toDocument.value =
      [("$set", .document [("a", .int32 2)]), ("$inc", .document [("n", .int32 1)])] := rfl

end QueryAlgebra
