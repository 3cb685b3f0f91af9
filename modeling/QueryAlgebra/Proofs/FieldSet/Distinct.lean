import Mathlib
import QueryAlgebra.Proofs.FieldSet.Paths
import QueryAlgebra.Proofs.Text.Numeral

/-!
# Different handles, different paths

Two chains of accesses from one set may lead to one path if the segments of the members allow it:
when two members of a record share a segment, when a segment has a dot in it, so that it looks like
two, or when it looks like a position. Where no record of a scheme has such segments
(`RecordIsClear`), a path determines its parts, since no part has a dot in it, and the parts lead
back to the accesses (`Shape.Reaches.injective`): a segment to its member, a numeral to its
position. What takes an argument is an array of records taken as a whole, an access that leaves no
trace in the path. It is told from the others by what follows (`Shape.Reaches.whole_ne`): nothing,
or a single position, where every other way to a path goes on to a member.

So different accesses have different paths (`path_ne_of_access_ne`).
-/

namespace QueryAlgebra

/-! ### Clear schemes -/

mutual

/-- No record within the shape has segments that can be taken for others. -/
inductive Shape.IsClear : Shape → Prop where
  | scalar : Shape.IsClear .scalar
  | array : Shape.IsClear .array
  | nested {members : List Member} (inner : RecordIsClear members) :
    Shape.IsClear (.nested members)
  | elements {members : List Member} (inner : RecordIsClear members) :
    Shape.IsClear (.elements members)

/-- The segments of the record are distinct, none has a dot in it or is the numeral of a position,
and the same holds of the records within. -/
inductive RecordIsClear : List Member → Prop where
  | intro {members : List Member} (distinct : (members.map Member.segment).Nodup)
    (undotted : ∀ m ∈ members, '.' ∉ m.segment.toList)
    (no_position : ∀ m ∈ members, ∀ position, m.segment ≠ Nat.repr position)
    (inner : ∀ m ∈ members, m.shape.IsClear) : RecordIsClear members

end

theorem dot_not_mem_repr (n : Nat) : '.' ∉ (Nat.repr n).toList := fun h =>
  absurd (Text.isDigit_of_mem_repr h) (by decide)

theorem mem_of_memberNamed? {members : List Member} {name : String} {m : Member}
    (h : memberNamed? members name = some m) : m ∈ members ∧ m.name = name :=
  ⟨List.mem_of_find?_eq_some h, by simpa using List.find?_some h⟩

namespace RecordIsClear

variable {members : List Member} {name name' : String} {m m' : Member}

/-- A character that is no digit keeps a segment from looking like a position. -/
theorem of_not_all_isDigit (distinct : (members.map Member.segment).Nodup)
    (undotted : ∀ m ∈ members, '.' ∉ m.segment.toList)
    (lettered : ∀ m ∈ members, m.segment.toList.all Char.isDigit = false)
    (inner : ∀ m ∈ members, m.shape.IsClear) : RecordIsClear members := by
  refine .intro distinct undotted (fun m hm position heq => ?_) inner
  have hall : m.segment.toList.all Char.isDigit = true := by
    rw [heq, List.all_eq_true]
    exact fun _ => Text.isDigit_of_mem_repr
  exact Bool.false_ne_true ((lettered m hm).symm.trans hall)

theorem undotted (h : RecordIsClear members) (hm : memberNamed? members name = some m) :
    '.' ∉ m.segment.toList := by
  obtain ⟨-, hundotted, -, -⟩ := h
  exact hundotted m (mem_of_memberNamed? hm).1

theorem segment_ne_repr (h : RecordIsClear members) (hm : memberNamed? members name = some m)
    (position : Nat) : m.segment ≠ Nat.repr position := by
  obtain ⟨-, -, hposition, -⟩ := h
  exact hposition m (mem_of_memberNamed? hm).1 position

theorem shape_isClear (h : RecordIsClear members) (hm : memberNamed? members name = some m) :
    m.shape.IsClear := by
  obtain ⟨-, -, -, hinner⟩ := h
  exact hinner m (mem_of_memberNamed? hm).1

/-- A segment belongs to one member, and so to one name. -/
theorem member_unique (h : RecordIsClear members) (hm : memberNamed? members name = some m)
    (hm' : memberNamed? members name' = some m') (hsegment : m.segment = m'.segment) :
    name = name' ∧ m = m' := by
  obtain ⟨hdistinct, -, -, -⟩ := h
  -- The member found has the name asked for, so its segment is all that has to be compared.
  obtain ⟨hmem, rfl⟩ := mem_of_memberNamed? hm
  obtain ⟨hmem', rfl⟩ := mem_of_memberNamed? hm'
  obtain rfl : m = m' := List.inj_on_of_nodup_map hdistinct hmem hmem' hsegment
  exact ⟨rfl, rfl⟩

end RecordIsClear

theorem Shape.IsClear.record {members : List Member} (h : (Shape.nested members).IsClear) :
    RecordIsClear members := by
  cases h with
  | nested inner => exact inner

theorem Shape.IsClear.items {members : List Member} (h : (Shape.elements members).IsClear) :
    RecordIsClear members := by
  cases h with
  | elements inner => exact inner

/-! ### Single accesses -/

namespace Shape.Leads

variable {s t t' : Shape} {a b : Access} {parts parts' : List String}

/-- From a clear shape one access leads to a clear shape. -/
theorem isClear (h : s.Leads a parts t) (hs : s.IsClear) : t.IsClear := by
  cases h with
  | member found => exact hs.record.shape_isClear found
  | memberOfItems found => exact hs.items.shape_isClear found
  | record members position => exact .nested hs.items
  | whole members => exact .array
  | item position => exact .scalar

/-- No part that an access adds has a dot in it. -/
theorem undotted (h : s.Leads a parts t) (hs : s.IsClear) :
    ∀ part ∈ parts, '.' ∉ part.toList := by
  cases h with
  | member found => exact List.forall_mem_singleton.mpr (hs.record.undotted found)
  | memberOfItems found => exact List.forall_mem_singleton.mpr (hs.items.undotted found)
  | record members position => exact List.forall_mem_singleton.mpr (dot_not_mem_repr position)
  | whole members => exact fun _ h => absurd h List.not_mem_nil
  | item position => exact List.forall_mem_singleton.mpr (dot_not_mem_repr position)

/-- An access adds one part, unless it takes an array of records as a whole. -/
theorem spells (h : s.Leads a parts t) : (∃ part, parts = [part]) ∨
    ∃ members, s = .elements members ∧ a = .whole ∧ parts = [] ∧ t = .array := by
  cases h with
  | whole members => exact .inr ⟨members, rfl, rfl, rfl, rfl⟩
  | _ => exact .inl ⟨_, rfl⟩

/-- In a clear shape the parts that an access adds tell which it is. -/
theorem injective (h : s.Leads a parts t) (h' : s.Leads b parts' t') (hs : s.IsClear)
    (hparts : parts = parts') : a = b ∧ t = t' := by
  cases h with
  | member found =>
    cases h' with
    | member found' =>
      obtain ⟨rfl, rfl⟩ := hs.record.member_unique found found' (List.singleton_inj.mp hparts)
      exact ⟨rfl, rfl⟩
  | memberOfItems found =>
    cases h' with
    | memberOfItems found' =>
      obtain ⟨rfl, rfl⟩ := hs.items.member_unique found found' (List.singleton_inj.mp hparts)
      exact ⟨rfl, rfl⟩
    | record _ position =>
      exact absurd (List.singleton_inj.mp hparts) (hs.items.segment_ne_repr found position)
    | whole => cases hparts
  | record _ position =>
    cases h' with
    | memberOfItems found' =>
      exact absurd (List.singleton_inj.mp hparts).symm (hs.items.segment_ne_repr found' position)
    | record _ position' =>
      obtain rfl := Nat.repr_injective (List.singleton_inj.mp hparts)
      exact ⟨rfl, rfl⟩
    | whole => cases hparts
  | whole =>
    cases h' with
    | whole => exact ⟨rfl, rfl⟩
    | _ => cases hparts
  | item position =>
    cases h' with
    | item position' =>
      obtain rfl := Nat.repr_injective (List.singleton_inj.mp hparts)
      exact ⟨rfl, rfl⟩

end Shape.Leads

/-! ### Chains of accesses -/

namespace Shape.Reaches

variable {s t t' u : Shape} {a b : Access} {as bs : List Access} {parts parts' more : List String}
  {part : String} {members : List Member}

/-- No part that a chain of accesses adds has a dot in it. -/
theorem undotted (h : s.Reaches as parts t) (hs : s.IsClear) :
    ∀ part ∈ parts, '.' ∉ part.toList := by
  induction h with
  | here => exact fun _ h => absurd h List.not_mem_nil
  | further first _ ih =>
    intro part hpart
    rcases List.mem_append.mp hpart with hpart | hpart
    · exact first.undotted hs part hpart
    · exact ih (first.isClear hs) part hpart

/-- From a handle with a path, no access goes on without adding to the path. -/
theorem eq_nil (h : s.Reaches as parts t) (hs : s.isLeaf = true) (hparts : parts = []) :
    as = [] := by
  cases h with
  | here => rfl
  | further first _ =>
    cases first with
    | item position => cases hparts
    | _ => cases hs

/-- From a plain array a chain of accesses adds nothing or a position. -/
theorem of_array (h : Shape.array.Reaches as parts t) :
    parts = [] ∨ ∃ position, parts = [Nat.repr position] := by
  cases h with
  | here => exact .inl rfl
  | further first rest =>
    cases first with
    | item position =>
      cases rest with
      | here => exact .inr ⟨position, rfl⟩
      | further next _ => cases next

/-- What follows on an array of records taken as a whole does not follow on any other access. -/
theorem whole_ne (hclear : RecordIsClear members) (h : Shape.array.Reaches as parts t)
    (first : (Shape.elements members).Leads b [part] u) (rest : u.Reaches bs more t')
    (hleaf : t'.isLeaf = true) : parts ≠ part :: more := by
  rintro rfl
  -- The array leaves room for a position at most, and a record that it leads to for a member more.
  rcases h.of_array with hnone | ⟨position, hposition⟩
  · cases hnone
  · obtain ⟨hpart, hmore⟩ := List.cons.inj hposition
    cases first with
    | memberOfItems found => exact hclear.segment_ne_repr found position hpart
    | record => exact rest.ne_nil hleaf hmore

/-- In a clear shape the parts lead back to the accesses. -/
theorem injective (h : s.Reaches as parts t) (h' : s.Reaches bs parts' t') (hs : s.IsClear)
    (ht : t.isLeaf = true) (ht' : t'.isLeaf = true) (hparts : parts = parts') : as = bs := by
  induction h generalizing bs parts' with
  | here => exact (h'.eq_nil ht hparts.symm).symm
  | further first rest ih =>
    cases h' with
    | here => exact (further first rest).eq_nil ht' hparts
    | further first' rest' =>
      -- Parts are compared one by one only if either access spells one or neither does.
      rcases first.spells with ⟨part, rfl⟩ | ⟨members, rfl, rfl, rfl, rfl⟩
      · rcases first'.spells with ⟨part', rfl⟩ | ⟨members, rfl, rfl, rfl, rfl⟩
        · obtain ⟨rfl, hmore⟩ := List.cons.inj hparts
          obtain ⟨rfl, rfl⟩ := first.injective first' hs rfl
          rw [ih rest' (first.isClear hs) ht hmore]
        · exact absurd hparts.symm (whole_ne hs.items rest' first rest ht)
      · rcases first'.spells with ⟨part', rfl⟩ | ⟨members', -, rfl, rfl, rfl⟩
        · exact absurd hparts (whole_ne hs.items rest first' rest' ht')
        · rw [ih rest' .array ht hparts]

end Shape.Reaches

/-! ### Paths -/

/-- Parts without dots are known from the path along them. -/
theorem Path.along_injective {root : Option Path} {parts parts' : List String} (hne : parts ≠ [])
    (hne' : parts' ≠ []) (hclear : ∀ part ∈ parts, '.' ∉ part.toList)
    (hclear' : ∀ part ∈ parts', '.' ∉ part.toList) (h : along root parts = along root parts') :
    parts = parts' := by
  have hnone : along none parts = along none parts' := by
    cases root with
    | none => exact h
    | some p =>
      -- The root may have dots in it, but it stands before either.
      have htext := congrArg Path.text h
      rw [text_along_some p hne, text_along_some p hne'] at htext
      exact congrArg Path.mk ((String.append_right_inj _).mp htext)
  exact Text.intercalate_injective hne hne' hclear hclear' (congrArg Path.text hnone)

/-- **Different accesses have different paths.** Where no segment of a scheme can be taken for
another, for two or for a position, two chains of accesses from one set to handles with paths have
the same path only if they are the same chain. -/
theorem path_ne_of_access_ne (root : Option Path) {members : List Member}
    (hclear : RecordIsClear members) {as bs : List Access} {path path' : Path}
    (h : (Handle.set (rootedAt root members)).pathAt? as = some path)
    (h' : (Handle.set (rootedAt root members)).pathAt? bs = some path') (hne : as ≠ bs) :
    path ≠ path' := by
  obtain ⟨parts, t, hreaches, hleaf, rfl⟩ := pathAt?_set_eq_some_iff.mp h
  obtain ⟨parts', t', hreaches', hleaf', rfl⟩ := pathAt?_set_eq_some_iff.mp h'
  have hs : (Shape.nested members).IsClear := .nested hclear
  intro hpath
  have hparts : parts = parts' := Path.along_injective (hreaches.ne_nil hleaf)
    (hreaches'.ne_nil hleaf') (hreaches.undotted hs) (hreaches'.undotted hs) hpath
  exact hne (hreaches.injective hreaches' hs hleaf hleaf' hparts)

/-- A mark of the fourth review and the same mark of the fifth. -/
theorem path_ne_of_access_ne_sample :
    let reviews := [Member.mk "date" "date" .scalar, .mk "marks" "marks" .array]
    let shop := [Member.mk "name" "name" .scalar, .mk "reviews" "reviews" (.elements reviews)]
    let as := [Access.member "reviews", .item 3, .member "marks", .item 0]
    let bs := [Access.member "reviews", .item 4, .member "marks", .item 0]
    RecordIsClear shop ∧
      (Handle.set (rootedAt none shop)).pathAt? as = some ⟨"reviews.3.marks.0"⟩ ∧
      (Handle.set (rootedAt none shop)).pathAt? bs = some ⟨"reviews.4.marks.0"⟩ ∧
      as ≠ bs ∧ Path.mk "reviews.3.marks.0" ≠ ⟨"reviews.4.marks.0"⟩ := by
  intro reviews shop as bs
  have hreviews : RecordIsClear reviews := by
    refine .of_not_all_isDigit (by decide) (by decide) (by decide) ?_
    exact List.forall_mem_cons.mpr ⟨.scalar, List.forall_mem_singleton.mpr .array⟩
  have hshop : RecordIsClear shop := by
    refine .of_not_all_isDigit (by decide) (by decide) (by decide) ?_
    exact List.forall_mem_cons.mpr ⟨.scalar, List.forall_mem_singleton.mpr (.elements hreviews)⟩
  have has : (Handle.set (rootedAt none shop)).pathAt? as = some ⟨"reviews.3.marks.0"⟩ := by rfl
  have hbs : (Handle.set (rootedAt none shop)).pathAt? bs = some ⟨"reviews.4.marks.0"⟩ := by rfl
  have hne : as ≠ bs := by decide
  exact ⟨hshop, has, hbs, hne, path_ne_of_access_ne none hshop has hbs hne⟩

end QueryAlgebra
