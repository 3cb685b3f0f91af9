import QueryAlgebra.FieldSet
import QueryAlgebra.Proofs.Text.Joined

/-!
# The paths of handles

A handle is reached from a set by a chain of accesses, and where it leads is known from the scheme
of the record without any handles being made. One access leads from the shape at a place to the
shape at the next and adds parts to the path: the segment of a member, the numeral of a position, or
nothing where an array of records is taken as a whole (`Shape.Leads`, and `Shape.Reaches` for
chains).

Handles follow the shapes. `step?_handle_iff` says so of one access and `reach?_handle_iff` of a
chain: what is reached is the handle on the shape reached, at the path along the parts
(`Path.along`). In particular the handles on the items of an array in general, which are made
together with the array, and those on a single item, which are made when it is asked for, are both
sets of the one scheme at different roots. `paths_of_accesses` collects what this means for paths.
-/

namespace QueryAlgebra

/-! ### Paths along parts -/

/-- The path from a root, or from the top of a document, along parts. -/
def Path.along (root : Option Path) (parts : List String) : Path :=
  ⟨".".intercalate (root.toList.map Path.text ++ parts)⟩

namespace Path

theorem along_some_nil (p : Path) : along (some p) [] = p := rfl

theorem along_singleton (root : Option Path) (part : String) :
    along root [part] = join root part := by
  cases root <;> rfl

/-- Two stretches of a path are one. -/
theorem along_along {root : Option Path} {parts : List String}
    (h : root.toList.map Path.text ++ parts ≠ []) (more : List String) :
    along (some (along root parts)) more = along root (parts ++ more) := by
  rw [along, Option.toList_some, List.map_singleton, List.singleton_append, along,
    Text.intercalate_intercalate_cons h, List.append_assoc, along]

/-- What stands before a path along parts stands before the parts. -/
theorem text_along_some (p : Path) {parts : List String} (h : parts ≠ []) :
    (along (some p) parts).text = p.text ++ "." ++ (along none parts).text :=
  String.intercalate_append_of_ne_nil (List.cons_ne_nil p.text []) h

end Path

/-! ### Accesses on schemes -/

namespace Member

/-- The name of a member. -/
def name : Member → String
  | .mk name _ _ => name

/-- The segment that a member adds to a path. -/
def segment : Member → String
  | .mk _ segment _ => segment

/-- How a member is laid out. -/
def shape : Member → Shape
  | .mk _ _ shape => shape

end Member

/-- The member of this name. -/
def memberNamed? (members : List Member) (name : String) : Option Member :=
  members.find? fun m => m.name = name

/-- One access leads from one shape to another and adds parts to the path. -/
inductive Shape.Leads : Shape → Access → List String → Shape → Prop where
  | member {members : List Member} {name : String} {m : Member}
    (found : memberNamed? members name = some m) :
    Shape.Leads (.nested members) (.member name) [m.segment] m.shape
  /-- A member of the items of an array in general. -/
  | memberOfItems {members : List Member} {name : String} {m : Member}
    (found : memberNamed? members name = some m) :
    Shape.Leads (.elements members) (.member name) [m.segment] m.shape
  /-- One record of an array of records. -/
  | record (members : List Member) (position : Nat) :
    Shape.Leads (.elements members) (.item position) [Nat.repr position] (.nested members)
  | whole (members : List Member) : Shape.Leads (.elements members) .whole [] .array
  /-- One item of any other array. -/
  | item (position : Nat) : Shape.Leads .array (.item position) [Nat.repr position] .scalar

/-- A chain of accesses leads from one shape to another and adds parts to the path. -/
inductive Shape.Reaches : Shape → List Access → List String → Shape → Prop where
  | here (s : Shape) : Shape.Reaches s [] [] s
  | further {s t u : Shape} {a : Access} {as : List Access} {parts more : List String}
    (first : s.Leads a parts t) (rest : t.Reaches as more u) :
    Shape.Reaches s (a :: as) (parts ++ more) u

/-- Whether a shape has a handle with a path of its own. A record is a set of handles, and so is an
array of records, whose own handle is one step further. -/
def Shape.isLeaf : Shape → Bool
  | .scalar => true
  | .array => true
  | .nested _ => false
  | .elements _ => false

/-! ### Accesses on handles -/

namespace Handle

/-- The path of a handle, for those that filters and updates are made from. -/
def path? : Handle → Option Path
  | .field f => some f.path
  | .array a => some a.path
  | .set _ => none
  | .elements _ _ _ => none

/-- The path of the handle that a chain of accesses reaches. -/
def pathAt? (h : Handle) (as : List Access) : Option Path :=
  (h.reach? as).bind path?

theorem reach?_append (h : Handle) (as bs : List Access) :
    h.reach? (as ++ bs) = (h.reach? as).bind fun next => next.reach? bs := by
  induction as generalizing h with
  | nil => rfl
  | cons a rest ih => rw [List.cons_append, reach?_cons, reach?_cons, Option.bind_assoc, funext ih]

theorem pathAt?_append (h : Handle) (as bs : List Access) :
    h.pathAt? (as ++ bs) = (h.reach? as).bind fun next => next.pathAt? bs := by
  rw [pathAt?, reach?_append, Option.bind_assoc]
  rfl

end Handle

/-- The path of the handle on a shape: the path of the place, if the handle has one. -/
theorem path?_handle_eq_some_iff {t : Shape} {p q : Path} :
    (t.handle p).path? = some q ↔ t.isLeaf = true ∧ q = p := by
  cases t <;> simp [Shape.handle, Handle.path?, Shape.isLeaf, eq_comm]

/-- A set has a handle for each member that the scheme names, at the path of its segment. -/
theorem get?_rootedAt (root : Option Path) (members : List Member) (name : String) :
    Assoc.get? (rootedAt root members) name =
      (memberNamed? members name).map fun m => m.shape.handle (Path.join root m.segment) := by
  induction members with
  | nil => rw [rootedAt]; rfl
  | cons m rest ih =>
    obtain ⟨name', segment, shape⟩ := m
    rw [rootedAt, Assoc.get?_cons, ih, memberNamed?, memberNamed?, List.find?_cons]
    by_cases h : name' = name <;> simp [h, Member.name, Member.shape, Member.segment]

/-- One access on a set leads where it leads on the record. -/
theorem step?_set_iff (root : Option Path) (members : List Member) {a : Access} {h : Handle} :
    (Handle.set (rootedAt root members)).step? a = some h ↔
      ∃ parts t, (Shape.nested members).Leads a parts t ∧ h = t.handle (Path.along root parts) := by
  constructor
  · intro hstep
    cases a with
    | member name =>
      rw [Handle.step?, get?_rootedAt, Option.map_eq_some_iff] at hstep
      obtain ⟨m, hfound, rfl⟩ := hstep
      exact ⟨_, _, .member hfound, by rw [Path.along_singleton]⟩
    | item position => cases hstep
    | whole => cases hstep
  · rintro ⟨parts, t, ⟨hfound⟩, rfl⟩
    rw [Handle.step?, get?_rootedAt, hfound, Path.along_singleton, Option.map_some]

/-- One access on a handle leads where it leads on the shape. -/
theorem step?_handle_iff {s : Shape} {p : Path} {a : Access} {h : Handle} :
    (s.handle p).step? a = some h ↔
      ∃ parts t, s.Leads a parts t ∧ h = t.handle (Path.along (some p) parts) := by
  cases s with
  | scalar =>
    constructor
    · intro hstep
      cases hstep
    · rintro ⟨_, _, hleads, -⟩
      cases hleads
  | array =>
    constructor
    · intro hstep
      cases a with
      | item position => exact ⟨_, _, .item position, (Option.some.inj hstep).symm⟩
      | member name => cases hstep
      | whole => cases hstep
    · rintro ⟨_, _, ⟨⟩, rfl⟩
      rfl
  | nested members => exact step?_set_iff (some p) members
  | elements members =>
    constructor
    · intro hstep
      cases a with
      | member name =>
        -- The handles on the items in general are a set at the path of the array.
        obtain ⟨_, _, ⟨hfound⟩, rfl⟩ :=
          (step?_set_iff (some p) members (a := .member name)).mp hstep
        exact ⟨_, _, .memberOfItems hfound, rfl⟩
      | item position => exact ⟨_, _, .record members position, (Option.some.inj hstep).symm⟩
      | whole => exact ⟨_, _, .whole members, (Option.some.inj hstep).symm⟩
    · rintro ⟨_, _, hleads, rfl⟩
      cases hleads with
      | memberOfItems hfound =>
        exact (step?_set_iff (some p) members).mpr ⟨_, _, .member hfound, rfl⟩
      | record position => rfl
      | whole => rfl

/-- If the first access leads where it leads on the shape, and the others do so from whatever handle
comes next, then the chain does. -/
theorem reach?_cons_iff {root : Option Path} {s : Shape} {start h : Handle} {a : Access}
    {as : List Access}
    (hstep : ∀ next, start.step? a = some next ↔
      ∃ parts t, s.Leads a parts t ∧ next = t.handle (Path.along root parts))
    (hne : ∀ parts t, s.Leads a parts t → root.toList.map Path.text ++ parts ≠ [])
    (hrest : ∀ t p, (Shape.handle t p).reach? as = some h ↔
      ∃ parts u, t.Reaches as parts u ∧ h = u.handle (Path.along (some p) parts)) :
    start.reach? (a :: as) = some h ↔
      ∃ parts u, s.Reaches (a :: as) parts u ∧ h = u.handle (Path.along root parts) := by
  rw [Handle.reach?_cons, Option.bind_eq_some_iff]
  constructor
  · rintro ⟨next, hnext, hreach⟩
    obtain ⟨parts, t, hleads, rfl⟩ := (hstep next).mp hnext
    obtain ⟨more, u, hreaches, rfl⟩ := (hrest t _).mp hreach
    exact ⟨parts ++ more, u, .further hleads hreaches, by rw [Path.along_along (hne _ _ hleads)]⟩
  · rintro ⟨_, u, hreaches, rfl⟩
    cases hreaches with
    | further hleads hreach =>
      refine ⟨_, (hstep _).mpr ⟨_, _, hleads, rfl⟩, (hrest _ _).mpr ⟨_, u, hreach, ?_⟩⟩
      rw [Path.along_along (hne _ _ hleads)]

/-- A chain of accesses on a handle leads where it leads on the shape. -/
theorem reach?_handle_iff {s : Shape} {p : Path} {as : List Access} {h : Handle} :
    (s.handle p).reach? as = some h ↔
      ∃ parts t, s.Reaches as parts t ∧ h = t.handle (Path.along (some p) parts) := by
  induction as generalizing s p with
  | nil =>
    rw [Handle.reach?_nil, Option.some.injEq]
    constructor
    · rintro rfl
      exact ⟨[], s, .here s, by rw [Path.along_some_nil]⟩
    · rintro ⟨_, _, ⟨⟩, rfl⟩
      rw [Path.along_some_nil]
  | cons a rest ih =>
    exact reach?_cons_iff (fun _ => step?_handle_iff)
      (fun parts _ _ => List.cons_ne_nil p.text parts) fun _ _ => ih

/-- A chain of accesses on a set leads where it leads on the record. -/
theorem reach?_set_iff {root : Option Path} {members : List Member} {a : Access}
    {as : List Access} {h : Handle} :
    (Handle.set (rootedAt root members)).reach? (a :: as) = some h ↔
      ∃ parts t, (Shape.nested members).Reaches (a :: as) parts t ∧
        h = t.handle (Path.along root parts) := by
  refine reach?_cons_iff (fun _ => step?_set_iff root members) ?_ fun _ _ => reach?_handle_iff
  -- There may be no root, but the first access on a set always spells a part.
  rintro _ _ ⟨⟩
  exact List.append_ne_nil_of_right_ne_nil _ (List.cons_ne_nil _ _)

/-! ### The paths that are reached -/

/-- A chain of accesses from a set to a handle with a path spells the path. -/
theorem pathAt?_set_eq_some_iff {root : Option Path} {members : List Member} {as : List Access}
    {path : Path} :
    (Handle.set (rootedAt root members)).pathAt? as = some path ↔
      ∃ parts t, (Shape.nested members).Reaches as parts t ∧ t.isLeaf = true ∧
        path = Path.along root parts := by
  rw [Handle.pathAt?, Option.bind_eq_some_iff]
  cases as with
  | nil =>
    -- No access, no handle with a path, on either side.
    constructor
    · rintro ⟨_, ⟨⟩, ⟨⟩⟩
    · rintro ⟨_, _, ⟨⟩, ⟨⟩, -⟩
  | cons a rest =>
    constructor
    · rintro ⟨h, hreach, hpath⟩
      obtain ⟨parts, t, hreaches, rfl⟩ := reach?_set_iff.mp hreach
      obtain ⟨hleaf, rfl⟩ := path?_handle_eq_some_iff.mp hpath
      exact ⟨parts, t, hreaches, hleaf, rfl⟩
    · rintro ⟨parts, t, hreaches, hleaf, rfl⟩
      exact ⟨_, reach?_set_iff.mpr ⟨parts, t, hreaches, rfl⟩,
        path?_handle_eq_some_iff.mpr ⟨hleaf, rfl⟩⟩

/-- On the way from a record to a handle with a path some part is spelt. -/
theorem Shape.Reaches.ne_nil {members : List Member} {as : List Access} {parts : List String}
    {t : Shape} (h : (Shape.nested members).Reaches as parts t) (hleaf : t.isLeaf = true) :
    parts ≠ [] := by
  cases h with
  | here => cases hleaf
  | further hleads _ =>
    cases hleads
    exact List.cons_ne_nil _ _

/-- A set at a root has the paths of the set at the top of a document, behind the root. -/
theorem pathAt?_rooted (p : Path) (members : List Member) (as : List Access) :
    (Handle.set (rootedAt (some p) members)).pathAt? as =
      ((Handle.set (rootedAt none members)).pathAt? as).map fun q => ⟨p.text ++ "." ++ q.text⟩ := by
  refine Option.ext fun path => ?_
  rw [Option.map_eq_some_iff, pathAt?_set_eq_some_iff]
  simp only [pathAt?_set_eq_some_iff]
  constructor
  · rintro ⟨parts, t, hreaches, hleaf, rfl⟩
    refine ⟨_, ⟨parts, t, hreaches, hleaf, rfl⟩, ?_⟩
    rw [← Path.text_along_some p (hreaches.ne_nil hleaf)]
  · rintro ⟨_, ⟨parts, t, hreaches, hleaf, rfl⟩, rfl⟩
    refine ⟨parts, t, hreaches, hleaf, ?_⟩
    rw [← Path.text_along_some p (hreaches.ne_nil hleaf)]

/-- An array of records that is reached holds the set of handles at its own path. -/
theorem handles_of_reach? {root : Option Path} {members scheme : List Member} {as : List Access}
    {array : ArrayField} {handles : List (String × Handle)}
    (h : (Handle.set (rootedAt root members)).reach? as = some (.elements array handles scheme)) :
    handles = rootedAt (some array.path) scheme := by
  cases as with
  | nil => cases h
  | cons a rest =>
    obtain ⟨parts, t, -, heq⟩ := reach?_set_iff.mp h
    cases t with
    | elements inner =>
      obtain ⟨rfl, rfl, rfl⟩ := Handle.elements.inj heq
      rfl
    | _ => cases heq

/-- The paths below one item of an array are none of those below its items in general. -/
theorem pathAt?_index_ne {p path path' : Path} {position : Nat} {scheme : List Member}
    {as : List Access}
    (h : (Handle.set (rootedAt (some (p.index position)) scheme)).pathAt? as = some path)
    (h' : (Handle.set (rootedAt (some p) scheme)).pathAt? as = some path') : path ≠ path' := by
  rw [pathAt?_rooted, Option.map_eq_some_iff] at h h'
  obtain ⟨q, hq, rfl⟩ := h
  obtain ⟨q', hq', rfl⟩ := h'
  obtain rfl : q = q' := Option.some.inj (hq.symm.trans hq')
  -- The same path stands behind both roots, and one root is longer than the other.
  intro heq
  have hlength := congrArg String.length (congrArg Path.text heq)
  simp only [Path.index, Path.child, String.length_append] at hlength
  have hdot : ".".length = 1 := rfl
  omega

/-- **Handles address the path of their access.** Whatever the scheme and the root, a chain of
accesses reaches a handle with a path exactly if it leads to one on the scheme, and the path is made
of the root, if there is one, and the segments and positions on the way. So the paths at a root are
those at the top of a document behind the root. Of an array of records that is reached, one item is
a set of handles at the path of the item, and none of their paths is one of the handles on the items
in general, which the array holds. -/
theorem paths_of_accesses (root : Option Path) (members : List Member) (as : List Access) :
    (∀ path, (Handle.set (rootedAt root members)).pathAt? as = some path ↔
        ∃ parts t, (Shape.nested members).Reaches as parts t ∧ t.isLeaf = true ∧
          path.text = ".".intercalate (root.toList.map Path.text ++ parts)) ∧
      (∀ p, (Handle.set (rootedAt (some p) members)).pathAt? as =
        ((Handle.set (rootedAt none members)).pathAt? as).map
          fun path => ⟨p.text ++ "." ++ path.text⟩) ∧
      ∀ array handles scheme,
        (Handle.set (rootedAt root members)).reach? as = some (.elements array handles scheme) →
          handles = rootedAt (some array.path) scheme ∧
            ∀ position bs,
              (Handle.set (rootedAt root members)).pathAt? (as ++ .item position :: bs) =
                  (Handle.set (rootedAt (some (array.path.index position)) scheme)).pathAt? bs ∧
                ∀ path path',
                  (Handle.set (rootedAt root members)).pathAt? (as ++ .item position :: bs) =
                      some path →
                    (Handle.set handles).pathAt? bs = some path' → path ≠ path' := by
  refine ⟨fun path => ?_, fun p => pathAt?_rooted p members as, fun array handles scheme h => ?_⟩
  · rw [pathAt?_set_eq_some_iff]
    refine exists_congr fun parts => exists_congr fun t => and_congr_right' (and_congr_right' ?_)
    exact ⟨fun hpath => congrArg Path.text hpath, fun htext => congrArg Path.mk htext⟩
  · have hhandles := handles_of_reach? h
    have hitem : ∀ position bs,
        (Handle.set (rootedAt root members)).pathAt? (as ++ .item position :: bs) =
          (Handle.set (rootedAt (some (array.path.index position)) scheme)).pathAt? bs := by
      intro position bs
      rw [Handle.pathAt?_append, h]
      rfl
    refine ⟨hhandles, fun position bs => ⟨hitem position bs, fun path path' hpath hpath' => ?_⟩⟩
    rw [hitem] at hpath
    rw [hhandles] at hpath'
    exact pathAt?_index_ne hpath hpath'

/-- The replies to the fourth review, in general and the first of them. -/
theorem paths_of_accesses_sample :
    let replies := [Member.mk "text" "text" .scalar]
    let reviews := [Member.mk "date" "date" .scalar, .mk "replies" "replies" (.elements replies)]
    let root := Path.mk "shop"
    let set := Handle.set (rootedAt (some root) [.mk "reviews" "reviews" (.elements reviews)])
    let as := [Access.member "reviews", .item 3, .member "replies"]
    let array := ArrayField.mk ⟨"shop.reviews.3.replies"⟩
    let handles := [("text", Handle.field ⟨⟨"shop.reviews.3.replies.text"⟩⟩)]
    set.reach? as = some (.elements array handles replies) ∧
      set.pathAt? (as ++ [.item 0, .member "text"]) = some ⟨"shop.reviews.3.replies.0.text"⟩ ∧
      (Handle.set handles).pathAt? [.member "text"] = some ⟨"shop.reviews.3.replies.text"⟩ ∧
      Path.mk "shop.reviews.3.replies.0.text" ≠ ⟨"shop.reviews.3.replies.text"⟩ := by
  intro replies reviews root set as array handles
  have hreach : set.reach? as = some (.elements array handles replies) := by rfl
  have hitem : set.pathAt? (as ++ [.item 0, .member "text"]) =
      some ⟨"shop.reviews.3.replies.0.text"⟩ := by rfl
  have hgeneral : (Handle.set handles).pathAt? [.member "text"] =
      some ⟨"shop.reviews.3.replies.text"⟩ := by rfl
  have hpaths :=
    (paths_of_accesses (some root) [.mk "reviews" "reviews" (.elements reviews)] as).2.2
    array handles replies hreach
  exact ⟨hreach, hitem, hgeneral, (hpaths.2 0 [.member "text"]).2 _ _ hitem hgeneral⟩

end QueryAlgebra
