import QueryAlgebra.Update.Lowering

/-!
# The collection of an update

Collecting an update threads the groups through a tree, under one of two policies. All that the
tree contributes are its leaves from left to right: a run of `Update.collect` adds the directives
one after the other, and the payloads alone decide whether it ends early (`Policy.outcome`) and what
it reports (`Policy.events`). This is `collect_eq`; the lenient and the strict document follow
(`toDocument_eq`, `tryToDocument_eq`).

`Update.induct` is the induction over trees of updates: a claim is carried from the members of a
combination to the combination.
-/

namespace QueryAlgebra

/-- Induction over updates. -/
theorem Update.induct {P : Update → Prop} (directive : ∀ d, P (.directive d))
    (combined : ∀ us, (∀ u ∈ us, P u) → P (.combined us))
    (unrecognized : ∀ v, P (.unrecognized v)) (u : Update) : P u := by
  refine @Update.rec P (fun us => ∀ u ∈ us, P u) directive combined unrecognized ?_ ?_ u
  · exact fun _ h => absurd h List.not_mem_nil
  · exact fun _ _ hu hus => List.forall_mem_cons.mpr ⟨hu, hus⟩

/-- The groups of directives that come one after the other. -/
def groupsOf (ds : List Directive) : Groups :=
  ds.foldl Groups.add []

namespace Policy

/-- What a collection that meets these payloads comes to: the groups, unless the first of the
payloads ended it. -/
def outcome : Policy → List Value → Groups → Except QueryError Groups
  | .skip, _, groups => .ok groups
  | .reject, [], groups => .ok groups
  | .reject, v :: _, _ => .error (.unrecognizedUpdate v.render)

/-- What a collection that meets these payloads reports. -/
def events : Policy → List Value → List Event
  | .skip, payloads => payloads.map .payloadSkipped
  | .reject, _ => []

@[simp] theorem outcome_nil (policy : Policy) (groups : Groups) :
    policy.outcome [] groups = .ok groups := by
  cases policy <;> rfl

@[simp] theorem events_nil (policy : Policy) : policy.events [] = [] := by
  cases policy <;> rfl

/-- The payloads of a later part only count if those of an earlier part did not end the
collection. -/
theorem outcome_append (policy : Policy) (vs ws : List Value) (before after : Groups) :
    policy.outcome (vs ++ ws) after =
      match policy.outcome vs before with
      | .ok _ => policy.outcome ws after
      | .error e => .error e := by
  cases policy with
  | skip => rfl
  | reject =>
    cases vs with
    | nil => rfl
    | cons v vs => rfl

theorem events_append (policy : Policy) (vs ws : List Value) :
    policy.events (vs ++ ws) = policy.events vs ++ policy.events ws := by
  cases policy with
  | skip => exact List.map_append
  | reject => rfl

end Policy

/-! ### Runs of the collection -/

/-- A list of updates is collected by its leaves, if each of its members is. -/
theorem collectAll_eq (policy : Policy) {us : List Update}
    (h : ∀ u ∈ us, ∀ groups, u.collect policy groups =
      ⟨policy.outcome u.payloads (u.directives.foldl Groups.add groups),
        policy.events u.payloads⟩)
    (groups : Groups) :
    collectAll policy us groups =
      ⟨policy.outcome (payloadsOf us) ((directivesOf us).foldl Groups.add groups),
        policy.events (payloadsOf us)⟩ := by
  induction us generalizing groups with
  | nil =>
    rw [collectAll, payloadsOf, directivesOf, Policy.outcome_nil, Policy.events_nil]
    rfl
  | cons u rest ih =>
    obtain ⟨hu, hrest⟩ := List.forall_mem_cons.mp h
    rw [collectAll, hu groups, payloadsOf, directivesOf, List.foldl_append,
      Policy.outcome_append policy _ _ (u.directives.foldl Groups.add groups),
      Policy.events_append]
    have hrun := ih hrest (u.directives.foldl Groups.add groups)
    -- Either the others go on from the groups of the first member, or its payload ended everything.
    cases policy with
    | skip =>
      change Logged.mk (collectAll .skip rest _).value (_ ++ (collectAll .skip rest _).events) = _
      rw [hrun]
      rfl
    | reject =>
      cases u.payloads with
      | nil => exact hrun
      | cons v vs => rfl

/-- **A collection sees nothing of an update but its leaves**, from left to right. -/
theorem collect_eq (policy : Policy) (u : Update) (groups : Groups) :
    u.collect policy groups =
      ⟨policy.outcome u.payloads (u.directives.foldl Groups.add groups),
        policy.events u.payloads⟩ := by
  induction u using Update.induct generalizing groups with
  | directive d =>
    rw [Update.collect, Update.payloads, Update.directives, Policy.outcome_nil, Policy.events_nil]
    rfl
  | combined us ih =>
    rw [Update.collect, Update.payloads, Update.directives]
    exact collectAll_eq policy ih groups
  | unrecognized v =>
    cases policy with
    | skip => rw [Update.collect]; rfl
    | reject => rw [Update.collect]; rfl

namespace Update

/-- The document of an update under a policy, with what is reported on the way. -/
theorem lower_eq (policy : Policy) (u : Update) :
    u.lower policy =
      ⟨(policy.outcome u.payloads (groupsOf u.directives)).map Groups.toDocument,
        policy.events u.payloads⟩ := by
  rw [lower, collect_eq, groupsOf, Functor.map]
  exact congrArg (Logged.mk _) (List.append_nil _)

/-- Under the lenient policy nothing can go wrong. -/
theorem lower_skip (u : Update) :
    (u.lower .skip).value = .ok (groupsOf u.directives).toDocument := by
  rw [lower_eq]
  rfl

/-- The lenient document is that of the groups, after a warning for each payload. -/
theorem toDocument_eq (u : Update) :
    u.toDocument = ⟨(groupsOf u.directives).toDocument, u.payloads.map .payloadSkipped ++
      [.updateSerialized (groupsOf u.directives).toDocument]⟩ := by
  rw [toDocument, lower_eq]
  rfl

theorem value_toDocument (u : Update) :
    u.toDocument.value = (groupsOf u.directives).toDocument := by
  rw [toDocument_eq]

/-- The strict document is that of the groups, if there is no payload. -/
theorem tryToDocument_eq (u : Update) :
    u.tryToDocument =
      ⟨(Policy.reject.outcome u.payloads (groupsOf u.directives)).map Groups.toDocument, []⟩ :=
  lower_eq .reject u

end Update

end QueryAlgebra
