import QueryAlgebra.Proofs.Assoc

/-!
# Merging ordered association lists

One ordered list is merged into another by writing its pairs one after the other, each combined with
what it finds under its key (`mergeWith`); plain insertion is the case in which nothing is looked at
(`insertAll`).

* `mergeWith_alter` — a write to the list that is merged in may as well come after the merge, if the
  values say so and no key is repeated in that list. The write finds its key where the merge has put
  it, so positions agree as well as values.
* `mergeWith_eq_self` — a list that brings nothing new changes nothing.
* `map_mergeWith` — merging goes along with a renaming of the keys.

Both `insertAll_insert` and the merge of groups of updates are instances of the first.
-/

namespace QueryAlgebra.Assoc

variable {κ α β : Type}

variable [DecidableEq κ]

/-! ### Two writes -/

/-- Two writes to one key are one. -/
theorem alter_alter_self (k : κ) (f g : Option α → α) (entries : List (κ × α)) :
    alter k g (alter k f entries) = alter k (fun old => g (some (f old))) entries := by
  induction entries with
  | nil => simp [alter_cons]
  | cons e rest ih =>
    obtain ⟨k', v⟩ := e
    rw [alter_cons, alter_cons]
    by_cases h : k' = k
    · simp [h, alter_cons]
    · simp [h, alter_cons, ih]

/-- A write to a key that is there changes places with a write to another key. -/
theorem alter_comm {entries : List (κ × α)} {k j : κ} (hk : k ∈ keys entries) (hne : j ≠ k)
    (f g : Option α → α) :
    alter j f (alter k g entries) = alter k g (alter j f entries) := by
  induction entries with
  | nil => exact absurd hk List.not_mem_nil
  | cons e rest ih =>
    obtain ⟨k', v⟩ := e
    rw [keys_cons, List.mem_cons] at hk
    by_cases hk' : k' = k
    · -- Here is the key, and the other write passes it.
      subst hk'
      simp [alter_cons, hne.symm]
    · have hrest : k ∈ keys rest := hk.resolve_left (Ne.symm hk')
      by_cases hj : k' = j
      · simp [alter_cons, hj, hne]
      · simp [alter_cons, hk', hj, ih hrest]

/-- A write that stores what it finds does nothing. -/
theorem alter_eq_self {entries : List (κ × α)} {k : κ} {v : α} (hv : get? entries k = some v)
    {f : Option α → α} (hf : f (some v) = v) : alter k f entries = entries := by
  induction entries with
  | nil => cases hv
  | cons e rest ih =>
    obtain ⟨k', w⟩ := e
    rw [get?_cons] at hv
    rw [alter_cons]
    by_cases h : k' = k
    · rw [if_pos h, Option.some.injEq] at hv
      rw [if_pos h, hv, hf]
    · rw [if_neg h] at hv
      rw [if_neg h, ih hv]

/-! ### Merges -/

variable (f : Option α → β → α)

/-- The pairs of `more` written into the list in order, each combined with what is there. -/
def mergeWith (entries : List (κ × α)) (more : List (κ × β)) : List (κ × α) :=
  more.foldl (fun acc e => alter e.1 (fun old => f old e.2) acc) entries

@[simp] theorem mergeWith_nil (entries : List (κ × α)) : mergeWith f entries [] = entries := rfl

@[simp] theorem mergeWith_cons (entries : List (κ × α)) (k : κ) (v : β) (more : List (κ × β)) :
    mergeWith f entries ((k, v) :: more) =
      mergeWith f (alter k (fun old => f old v) entries) more := rfl

theorem insertAll_eq_mergeWith (entries more : List (κ × α)) :
    insertAll entries more = mergeWith (fun _ v => v) entries more := rfl

variable {f}

/-- A write to a key that is there, and that is not merged, may come before the merge or after. -/
theorem mergeWith_alter_of_not_mem {entries : List (κ × α)} {more : List (κ × β)} {k : κ}
    (hk : k ∈ keys entries) (hmore : k ∉ keys more) (h : Option α → α) :
    mergeWith f (alter k h entries) more = alter k h (mergeWith f entries more) := by
  induction more generalizing entries with
  | nil => rfl
  | cons e rest ih =>
    obtain ⟨j, v⟩ := e
    rw [keys_cons, List.mem_cons, not_or] at hmore
    have hkey : k ∈ keys (alter j (fun old => f old v) entries) := by
      rw [keys_alter]
      split
      · exact hk
      · exact List.mem_append_left _ hk
    rw [mergeWith_cons, mergeWith_cons, alter_comm hk (Ne.symm hmore.1), ih hkey hmore.2]

/-- A write to what is merged becomes a write to what it is merged into. -/
theorem mergeWith_alter {more : List (κ × β)} (hnodup : (keys more).Nodup)
    {g : Option β → β} {h : Option α → α} (hnew : ∀ old, f old (g none) = h old)
    (hold : ∀ e ∈ more, ∀ old, f old (g (some e.2)) = h (some (f old e.2)))
    (entries : List (κ × α)) (k : κ) :
    mergeWith f entries (alter k g more) = alter k h (mergeWith f entries more) := by
  induction more generalizing entries with
  | nil => simp [hnew]
  | cons e rest ih =>
    obtain ⟨j, v⟩ := e
    obtain ⟨hv, hrest⟩ := List.forall_mem_cons.mp hold
    rw [keys_cons, List.nodup_cons] at hnodup
    rw [alter_cons]
    by_cases hj : j = k
    · -- The two writes to `k` are one, and the rest of the merge keeps clear of it.
      subst hj
      have hmem : j ∈ keys (alter j (fun old => f old v) entries) := by
        rw [keys_alter]
        split
        · next hin => exact hin
        · exact List.mem_append_right _ List.mem_cons_self
      rw [if_pos rfl, mergeWith_cons, mergeWith_cons,
        ← mergeWith_alter_of_not_mem hmem hnodup.1, alter_alter_self, funext hv]
    · rw [if_neg hj, mergeWith_cons, mergeWith_cons, ih hnodup.2 hrest]

/-- Pairs that bring nothing new change nothing. -/
theorem mergeWith_eq_self {entries : List (κ × α)} {more : List (κ × β)}
    (h : ∀ e ∈ more, ∃ v, get? entries e.1 = some v ∧ f (some v) e.2 = v) :
    mergeWith f entries more = entries := by
  induction more with
  | nil => rfl
  | cons e rest ih =>
    obtain ⟨k, w⟩ := e
    obtain ⟨⟨v, hv, hw⟩, hrest⟩ := List.forall_mem_cons.mp h
    rw [mergeWith_cons, alter_eq_self hv hw, ih hrest]

/-- Merging goes along with a renaming of the keys, if the values do. -/
theorem map_mergeWith {κ' α' β' : Type} [DecidableEq κ'] {g : κ → κ'}
    (hg : Function.Injective g) {φ : α → α'} {ψ : β → β'} {h : Option α' → β' → α'}
    (hf : ∀ old v, φ (f old v) = h (old.map φ) (ψ v)) (entries : List (κ × α))
    (more : List (κ × β)) :
    (mergeWith f entries more).map (fun e => (g e.1, φ e.2)) =
      mergeWith h (entries.map fun e => (g e.1, φ e.2)) (more.map fun e => (g e.1, ψ e.2)) := by
  induction more generalizing entries with
  | nil => rfl
  | cons e rest ih =>
    obtain ⟨k, v⟩ := e
    have hstep := map_alter hg (h := fun old => h old (ψ v)) (fun old => hf old v) k entries
    rw [mergeWith_cons, ih, hstep]
    rfl

/-! ### Insertion -/

/-- One more insertion may be made before all pairs are inserted or after. -/
theorem insertAll_insert {more : List (κ × α)} (hnodup : (keys more).Nodup)
    (entries : List (κ × α)) (k : κ) (v : α) :
    insertAll entries (insert more k v) = insert (insertAll entries more) k v := by
  rw [insertAll_eq_mergeWith, insert, mergeWith_alter hnodup (fun _ => rfl) (fun _ _ _ => rfl)]
  rfl

/-- Inserting the entries of a list again changes nothing. -/
theorem insertAll_self {entries : List (κ × α)} (hnodup : (keys entries).Nodup) :
    insertAll entries entries = entries := by
  rw [insertAll_eq_mergeWith]
  exact mergeWith_eq_self fun e he => ⟨e.2, get?_of_mem hnodup he, rfl⟩

/-- Mapping the values goes along with insertion. -/
theorem map_ofEntries (φ : α → β) (entries : List (κ × α)) :
    (ofEntries entries).map (fun e => (e.1, φ e.2)) =
      ofEntries (entries.map fun e => (e.1, φ e.2)) :=
  map_mergeWith (f := fun _ v => v) (h := fun _ v => v) (φ := φ) (ψ := φ)
    Function.injective_id (fun _ _ => rfl) [] entries

/-- Insertion makes no entries of its own. -/
theorem mem_of_mem_ofEntries {entries : List (κ × α)} {e : κ × α}
    (he : e ∈ ofEntries entries) : e ∈ entries := by
  have hnodup : (keys (ofEntries entries)).Nodup := by
    rw [keys_ofEntries]
    exact nodup_eraseDups _
  -- What is found under a key is the last entry for it.
  have hfound := get?_of_mem hnodup he
  rw [get?_ofEntries, Option.map_eq_some_iff] at hfound
  obtain ⟨e', hlast, hvalue⟩ := hfound
  have hmem := List.mem_filter.mp (List.mem_of_getLast? hlast)
  have heq : e' = e := Prod.ext (of_decide_eq_true hmem.2) hvalue
  exact heq ▸ hmem.1

end QueryAlgebra.Assoc
