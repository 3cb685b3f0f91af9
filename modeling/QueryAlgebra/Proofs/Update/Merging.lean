import QueryAlgebra.Proofs.Assoc.Merging
import QueryAlgebra.Proofs.Update.Policies
import QueryAlgebra.Proofs.Update.Proper

/-!
# Merging update documents

Two update documents are merged group by group: the entries of each group of the second are inserted
one after the other into the group of the first with the same symbol, or the group is appended if
the first has none (`Document.merge`). This is a matter of documents alone, in which directives do
not occur.

Lowering turns `Update.and` into this merge (`toDocument_and`). The reason is that a directive may
be added to the groups that are merged or to what comes of the merge (`Groups.merge_add`), on both
levels at once: a kind keeps the place of its first occurrence among the kinds, a path that of its
first occurrence in the group, and the last value counts. By induction over the directives the
groups of two runs of directives merge into those of both (`groupsOf_append`).

What the law says of documents is collected in `toDocument_merges`: on documents of updates merging
is associative, has the document of no updates as its unit and changes nothing when a document is
merged into itself; and brackets in a chain of `and` do not show in the document.
-/

namespace QueryAlgebra

/-! ### The merge of two documents -/

/-- What comes to stand under a symbol when a group is merged into what is there. -/
def Value.joinGroup : Option Value → Value → Value
  | some (.document fields), .document more => .document (Assoc.insertAll fields more)
  | _, group => group

/-- The groups of `more` merged into the document one after the other. -/
def Document.merge (d more : Document) : Document :=
  Assoc.mergeWith Value.joinGroup d more

/-! ### The merge of groups -/

namespace Groups

/-- The fields of a group when others are merged into it. -/
def joinFields : Option Document → Document → Document
  | some fields, more => Assoc.insertAll fields more
  | none, more => more

/-- The groups of `more` merged into others one after the other. -/
def merge (groups more : Groups) : Groups :=
  Assoc.mergeWith joinFields groups more

/-- The document of merged groups is the merge of their documents. -/
theorem toDocument_merge (groups more : Groups) :
    (groups.merge more).toDocument = Document.merge groups.toDocument more.toDocument :=
  Assoc.map_mergeWith UpdateKind.symbol_injective
    (fun old _ => by cases old <;> rfl) groups more

/-- A directive may be added to the groups that are merged, or after the merge. -/
theorem merge_add {more : Groups} (h : more.Proper) (groups : Groups) (d : Directive) :
    groups.merge (more.add d) = (groups.merge more).add d := by
  refine Assoc.mergeWith_alter h.distinct (fun old => ?_) (fun g hg old => ?_) groups d.kind
  · -- The group of the directive alone is merged by writing its one field.
    cases old <;> rfl
  · -- The new field comes after the other fields of its group, or after all that are there.
    cases old with
    | none => rfl
    | some fields => exact Assoc.insertAll_insert (h.distinct_fields g hg) fields _ _

/-- Directives added one after the other are their groups, merged. -/
theorem foldl_add_eq_merge (groups : Groups) (ds : List Directive) :
    ds.foldl Groups.add groups = groups.merge (groupsOf ds) := by
  induction ds using List.reverseRecOn with
  | nil => rfl
  | append_singleton ds d ih =>
    have hlast : groupsOf (ds ++ [d]) = (groupsOf ds).add d := by
      rw [groupsOf, List.foldl_append]
      rfl
    rw [List.foldl_append, ih, hlast, merge_add (proper_groupsOf ds)]
    rfl

/-- Proper groups merged into themselves stay as they are. -/
theorem Proper.merge_self {groups : Groups} (h : groups.Proper) : groups.merge groups = groups :=
  Assoc.mergeWith_eq_self fun g hg =>
    ⟨g.2, Assoc.get?_of_mem h.distinct hg, Assoc.insertAll_self (h.distinct_fields g hg)⟩

end Groups

theorem groupsOf_append (xs ys : List Directive) :
    groupsOf (xs ++ ys) = (groupsOf xs).merge (groupsOf ys) := by
  rw [groupsOf, List.foldl_append, Groups.foldl_add_eq_merge]
  rfl

/-! ### The documents of combined updates -/

theorem Update.directives_and (u : Update) (more : List Update) :
    (u.and more).directives = u.directives ++ more.flatMap Update.directives := by
  rw [Update.and, Update.directives, directivesOf, directivesOf_eq_flatMap]

/-- Directives followed by those of further updates lower to the documents merged in order. -/
theorem toDocument_groupsOf_flatMap (ds : List Directive) (us : List Update) :
    (groupsOf (ds ++ us.flatMap Update.directives)).toDocument =
      (us.map fun u => u.toDocument.value).foldl Document.merge (groupsOf ds).toDocument := by
  induction us generalizing ds with
  | nil => rw [List.flatMap_nil, List.append_nil]; rfl
  | cons u rest ih =>
    rw [List.flatMap_cons, ← List.append_assoc, ih, groupsOf_append, Groups.toDocument_merge,
      List.map_cons, List.foldl_cons, Update.value_toDocument]

/-- Updates that are combined lower to their documents merged in order. -/
theorem toDocument_and (u : Update) (more : List Update) :
    (u.and more).toDocument.value =
      (more.map fun w => w.toDocument.value).foldl Document.merge u.toDocument.value := by
  rw [Update.value_toDocument, Update.directives_and, toDocument_groupsOf_flatMap,
    Update.value_toDocument]

theorem toDocument_and_singleton (u w : Update) :
    (u.and [w]).toDocument.value = Document.merge u.toDocument.value w.toDocument.value :=
  toDocument_and u [w]

/-- The directives of an update decide on its document. -/
theorem toDocument_congr {u w : Update} (h : u.directives = w.directives) :
    u.toDocument.value = w.toDocument.value := by
  rw [Update.value_toDocument, Update.value_toDocument, h]

/-! ### Chains -/

/-- Updates joined by `and`, with brackets. -/
inductive Chain where
  | one (u : Update)
  | and (first : Chain) (more : List Chain)

mutual

/-- The update that a chain makes. -/
def Chain.update : Chain → Update
  | .one u => u
  | .and first more => first.update.and (chainUpdates more)

/-- The updates that chains make, in order. -/
def chainUpdates : List Chain → List Update
  | [] => []
  | c :: rest => c.update :: chainUpdates rest

end

mutual

/-- The updates in a chain from left to right, without the brackets. -/
def Chain.members : Chain → List Update
  | .one u => [u]
  | .and first more => first.members ++ chainMembers more

/-- The updates in chains from left to right. -/
def chainMembers : List Chain → List Update
  | [] => []
  | c :: rest => c.members ++ chainMembers rest

end

mutual

/-- The directives of a chain are those of its members in order. -/
theorem Chain.directives_update :
    (c : Chain) → c.update.directives = c.members.flatMap Update.directives
  | .one u => by rw [Chain.update, Chain.members, List.flatMap_singleton]
  | .and first more => by
    rw [Chain.update, Chain.members, Update.directives_and, List.flatMap_append,
      first.directives_update, directives_chainUpdates more]

/-- The directives of chains are those of their members in order. -/
theorem directives_chainUpdates :
    (cs : List Chain) → (chainUpdates cs).flatMap Update.directives =
      (chainMembers cs).flatMap Update.directives
  | [] => rfl
  | c :: rest => by
    rw [chainUpdates, chainMembers, List.flatMap_cons, List.flatMap_append, c.directives_update,
      directives_chainUpdates rest]

end

/-! ### The laws of merging -/

/-- **Lowering is a homomorphism onto merging.** Updates joined by `and` lower to their documents
merged from left to right. So merging is associative on documents of updates, the document of no
updates is its unit on both sides, chains of the same updates have one document whatever their
brackets, and an update joined with itself has its own document. -/
theorem toDocument_merges :
    (∀ u w : Update, (u.and [w]).toDocument.value =
        Document.merge u.toDocument.value w.toDocument.value) ∧
      (∀ (u : Update) (more : List Update), (u.and more).toDocument.value =
        (more.map fun w => w.toDocument.value).foldl Document.merge u.toDocument.value) ∧
      (∀ u v w : Update,
        Document.merge (Document.merge u.toDocument.value v.toDocument.value) w.toDocument.value =
          Document.merge u.toDocument.value
            (Document.merge v.toDocument.value w.toDocument.value)) ∧
      (∀ u : Update,
        Document.merge (Update.combined []).toDocument.value u.toDocument.value =
            u.toDocument.value ∧
          Document.merge u.toDocument.value (Update.combined []).toDocument.value =
            u.toDocument.value) ∧
      (∀ c c' : Chain, c.members = c'.members →
        c.update.toDocument.value = c'.update.toDocument.value) ∧
      ∀ u : Update, (u.and [u]).toDocument.value = u.toDocument.value := by
  refine ⟨toDocument_and_singleton, toDocument_and, fun u v w => ?_, fun u => ⟨?_, ?_⟩,
    fun c c' h => ?_, fun u => ?_⟩
  · -- Both sides are documents of updates with the same directives.
    rw [← toDocument_and_singleton, ← toDocument_and_singleton, ← toDocument_and_singleton,
      ← toDocument_and_singleton]
    refine toDocument_congr ?_
    simp [Update.directives_and]
  · rw [← toDocument_and_singleton]
    refine toDocument_congr ?_
    simp [Update.directives_and, Update.directives, directivesOf]
  · rw [← toDocument_and_singleton]
    refine toDocument_congr ?_
    simp [Update.directives_and, Update.directives, directivesOf]
  · refine toDocument_congr ?_
    rw [c.directives_update, c'.directives_update, h]
  · rw [toDocument_and_singleton, Update.value_toDocument, ← Groups.toDocument_merge,
      (proper_groupsOf u.directives).merge_self]

/-- Three updates in two bracketings. Both kinds and both paths of `$set` keep their first places,
and the last value written to `a` counts. -/
theorem toDocument_merges_brackets :
    let set := fun path n => Update.directive ⟨.set, ⟨path⟩, .int32 n⟩
    let u := (set "a" 1).and [.unrecognized .null, .directive ⟨.inc, ⟨"n"⟩, .int32 1⟩]
    let left := Chain.and (.and (.one u) [.one (set "b" 2)]) [.one (set "a" 3)]
    let right := Chain.and (.one u) [.and (.one (set "b" 2)) [.one (set "a" 3)]]
    left.members = right.members ∧
      left.update.toDocument.value = right.update.toDocument.value ∧
      left.update.toDocument.value =
        [("$set", .document [("a", .int32 3), ("b", .int32 2)]),
          ("$inc", .document [("n", .int32 1)])] := by
  intro set u left right
  exact ⟨rfl, toDocument_merges.2.2.2.2.1 left right rfl, rfl⟩

end QueryAlgebra
