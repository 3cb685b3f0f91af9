import Mathlib.Data.List.Induction
import Mathlib.Data.List.Nodup
import QueryAlgebra.Assoc

/-!
# Runs of writes on ordered association lists

What many writes come to, one after the other. Read through the two views of an ordered list:

* `keys_foldl_alter` — the keys after a run of writes to the empty list are the keys that were
  written, each once, in order of first occurrence.
* `get?_foldl_alter` — the value under a key is what the writes to that key alone make of it, so
  under plain insertions it is the last one written (`get?_ofEntries`).
* `eq_of_get?` — the two views together know a list with distinct keys.

Where no key is written twice nothing moves and nothing is lost: `ofEntries_of_nodup` for
insertions, `disjointUnion?_eq` for unions of lists.
-/

namespace QueryAlgebra.Assoc

variable {κ α δ : Type}

variable [DecidableEq κ]

/-! ### Lists without repetition -/

/-- `eraseDups` leaves every element once. -/
theorem nodup_eraseDups (ks : List κ) : ks.eraseDups.Nodup := by
  induction ks using List.reverseRecOn with
  | nil => simp
  | append_singleton ks k ih =>
    rw [List.eraseDups_append]
    by_cases h : k ∈ ks
    · simpa [List.removeAll, h] using ih
    · have hk : ([k].removeAll ks).eraseDups = [k] := by
        simp [List.removeAll, h, List.eraseDups_cons]
      rw [hk, ← List.concat_eq_append]
      exact ih.concat (fun hm => h (List.mem_eraseDups.mp hm))

/-- One more element goes to the end, unless it is there already. -/
theorem eraseDups_append_singleton (ks : List κ) (k : κ) :
    (ks ++ [k]).eraseDups = if k ∈ ks then ks.eraseDups else ks.eraseDups ++ [k] := by
  rw [List.eraseDups_append]
  split
  · next h => simp [List.removeAll, h]
  · next h => simp [List.removeAll, h, List.eraseDups_cons]

/-- What is mapped apart occurs first where it did. -/
theorem eraseDups_map {κ' : Type} [DecidableEq κ'] {g : κ → κ'} (hg : Function.Injective g)
    (ks : List κ) : (ks.map g).eraseDups = ks.eraseDups.map g := by
  induction ks using List.reverseRecOn with
  | nil => rfl
  | append_singleton ks k ih =>
    rw [List.map_append, List.map_singleton, eraseDups_append_singleton, eraseDups_append_singleton,
      ih]
    by_cases h : k ∈ ks
    · rw [if_pos h, if_pos (List.mem_map_of_mem h)]
    · have hgk : g k ∉ ks.map g := fun hm => h ((List.mem_map_of_injective hg).mp hm)
      rw [if_neg h, if_neg hgk, List.map_append, List.map_singleton]

/-! ### The two views -/

/-- Keys in order and the value under each make the list, if the keys are distinct. -/
theorem eq_of_get? {xs ys : List (κ × α)} (hn : (keys xs).Nodup) (hk : keys xs = keys ys)
    (hv : ∀ k ∈ keys xs, get? xs k = get? ys k) : xs = ys := by
  induction xs generalizing ys with
  | nil => exact (List.map_eq_nil_iff.mp hk.symm).symm
  | cons e rest ih =>
    obtain ⟨k, v⟩ := e
    cases ys with
    | nil => cases hk
    | cons e' rest' =>
      obtain ⟨k', v'⟩ := e'
      rw [keys_cons, keys_cons, List.cons.injEq] at hk
      obtain ⟨rfl, hk⟩ := hk
      rw [keys_cons, List.nodup_cons] at hn
      have hhead := hv k List.mem_cons_self
      rw [get?_cons, get?_cons, if_pos rfl, if_pos rfl, Option.some.injEq] at hhead
      -- Below the first entry its key is looked up no more.
      have htail : rest = rest' := ih hn.2 hk fun j hj => by
        have hne : k ≠ j := by
          rintro rfl
          exact hn.1 hj
        have hj' := hv j (List.mem_cons_of_mem _ hj)
        rwa [get?_cons, get?_cons, if_neg hne, if_neg hne] at hj'
      rw [hhead, htail]

/-- Renaming the keys apart and mapping the values keeps what is found where. -/
theorem get?_map {κ' β : Type} [DecidableEq κ'] {g : κ → κ'} (hg : Function.Injective g)
    (f : α → β) (entries : List (κ × α)) (k : κ) :
    get? (entries.map fun e => (g e.1, f e.2)) (g k) = (get? entries k).map f := by
  induction entries with
  | nil => rfl
  | cons e rest ih =>
    obtain ⟨k', v⟩ := e
    rw [List.map_cons, get?_cons, get?_cons, ih]
    by_cases h : k' = k
    · rw [if_pos h, if_pos (congrArg g h), Option.map_some]
    · rw [if_neg h, if_neg (fun h' => h (hg h'))]

/-- A write to a renamed list is the write to the list, renamed, if the stored values are. -/
theorem map_alter {κ' β : Type} [DecidableEq κ'] {g : κ → κ'} (hg : Function.Injective g)
    {φ : α → β} {f : Option α → α} {h : Option β → β} (hf : ∀ old, φ (f old) = h (old.map φ))
    (k : κ) (entries : List (κ × α)) :
    (alter k f entries).map (fun e => (g e.1, φ e.2)) =
      alter (g k) h (entries.map fun e => (g e.1, φ e.2)) := by
  induction entries with
  | nil => simp [hf]
  | cons e rest ih =>
    obtain ⟨k', v⟩ := e
    rw [List.map_cons, alter_cons, alter_cons]
    by_cases hk : k' = k
    · simp [hk, hf]
    · rw [if_neg hk, if_neg (fun h' => hk (hg h')), List.map_cons, ih]

/-! ### What a write keeps -/

/-- A write leaves an entry. -/
theorem alter_ne_nil (k : κ) (f : Option α → α) (entries : List (κ × α)) :
    alter k f entries ≠ [] := by
  cases entries with
  | nil => exact List.cons_ne_nil _ _
  | cons e rest =>
    rw [alter_cons]
    split <;> exact List.cons_ne_nil _ _

/-- A write repeats no key. -/
theorem nodup_keys_alter {entries : List (κ × α)} (h : (keys entries).Nodup) (k : κ)
    (f : Option α → α) : (keys (alter k f entries)).Nodup := by
  rw [keys_alter]
  split
  · exact h
  · next hk =>
    rw [← List.concat_eq_append]
    exact h.concat hk

/-- What holds of all entries still does after a write, if it holds of the entry written. -/
theorem forall_mem_alter {P : κ × α → Prop} {entries : List (κ × α)} (h : ∀ e ∈ entries, P e)
    {k : κ} {f : Option α → α} (hk : P (k, f (get? entries k))) :
    ∀ e ∈ alter k f entries, P e := by
  induction entries with
  | nil => exact List.forall_mem_singleton.mpr hk
  | cons e rest ih =>
    obtain ⟨k', v⟩ := e
    obtain ⟨he, hrest⟩ := List.forall_mem_cons.mp h
    rw [get?_cons] at hk
    rw [alter_cons]
    by_cases hkey : k' = k
    · rw [if_pos hkey] at hk ⊢
      subst hkey
      exact List.forall_mem_cons.mpr ⟨hk, hrest⟩
    · rw [if_neg hkey] at hk ⊢
      exact List.forall_mem_cons.mpr ⟨he, ih hrest hk⟩

/-- What is found under a key is an entry. -/
theorem mem_of_get? {entries : List (κ × α)} {k : κ} {v : α} (h : get? entries k = some v) :
    (k, v) ∈ entries := by
  induction entries with
  | nil => cases h
  | cons e rest ih =>
    obtain ⟨k', w⟩ := e
    rw [get?_cons] at h
    by_cases hkey : k' = k
    · rw [if_pos hkey, Option.some.injEq] at h
      rw [hkey, h]
      exact List.mem_cons_self
    · rw [if_neg hkey] at h
      exact List.mem_cons_of_mem _ (ih h)

/-- Among distinct keys an entry is what is found under its key. -/
theorem get?_of_mem {entries : List (κ × α)} (hnodup : (keys entries).Nodup) {e : κ × α}
    (he : e ∈ entries) : get? entries e.1 = some e.2 := by
  induction entries with
  | nil => exact absurd he List.not_mem_nil
  | cons e' rest ih =>
    obtain ⟨k, v⟩ := e'
    rw [keys_cons, List.nodup_cons] at hnodup
    rw [get?_cons]
    rcases List.mem_cons.mp he with rfl | hrest
    · exact if_pos rfl
    · have hne : k ≠ e.1 := by
        rintro rfl
        exact hnodup.1 (List.mem_map_of_mem hrest)
      rw [if_neg hne, ih hnodup.2 hrest]

/-- A list with distinct keys is made of its keys and what is found under each. -/
theorem eq_map_of_get? {entries : List (κ × α)} (hnodup : (keys entries).Nodup) {f : κ → α}
    (h : ∀ k ∈ keys entries, get? entries k = some (f k)) :
    entries = (keys entries).map fun k => (k, f k) := by
  have hentry : ∀ e ∈ entries, (e.1, f e.1) = e := fun e he => by
    have hfound := h e.1 (List.mem_map_of_mem he)
    rw [get?_of_mem hnodup he, Option.some.injEq] at hfound
    rw [← hfound]
  rw [keys, List.map_map]
  exact (List.map_id' entries).symm.trans (List.map_congr_left fun e he => (hentry e he).symm)

/-! ### Runs of writes -/

section Runs

variable (key : δ → κ) (f : δ → Option α → α)

/-- The keys after a run of writes: each once, in order of first occurrence. -/
theorem keys_foldl_alter (ds : List δ) :
    keys (ds.foldl (fun acc d => alter (key d) (f d) acc) []) = (ds.map key).eraseDups := by
  induction ds using List.reverseRecOn with
  | nil => rfl
  | append_singleton ds d ih =>
    rw [List.foldl_append, List.foldl_cons, List.foldl_nil, keys_alter, ih, List.map_append,
      List.map_singleton, eraseDups_append_singleton]
    simp only [List.mem_eraseDups]

/-- The value under a key after a run of writes is the work of the writes to that key. -/
theorem get?_foldl_alter (ds : List δ) (k : κ) :
    get? (ds.foldl (fun acc d => alter (key d) (f d) acc) []) k =
      (ds.filter fun d => key d = k).foldl (fun v d => some (f d v)) none := by
  induction ds using List.reverseRecOn with
  | nil => rfl
  | append_singleton ds d ih =>
    rw [List.foldl_append, List.foldl_cons, List.foldl_nil, List.filter_append, List.foldl_append,
      ← ih]
    -- The last write works on what the others left under `k`, or is not to `k` at all.
    by_cases h : key d = k
    · subst h
      simp [get?_alter_self]
    · simp [get?_alter_of_ne (Ne.symm h), h]

end Runs

/-- The keys of a list that is built by insertion. -/
theorem keys_ofEntries (entries : List (κ × α)) :
    keys (ofEntries entries) = (keys entries).eraseDups :=
  keys_foldl_alter Prod.fst (fun e _ => e.2) entries

/-- The value under a key of a list that is built by insertion is the last one for that key. -/
theorem get?_ofEntries (entries : List (κ × α)) (k : κ) :
    get? (ofEntries entries) k =
      ((entries.filter fun e => e.1 = k).getLast?).map Prod.snd := by
  refine (get?_foldl_alter Prod.fst (fun e _ => e.2) entries k).trans ?_
  -- Only the last of these writes counts, since none of them looks at what it finds.
  induction entries.filter (fun e => e.1 = k) using List.reverseRecOn with
  | nil => rfl
  | append_singleton es e _ => simp

/-- An entry whose key is written again later leaves no more than its place. -/
theorem ofEntries_rewritten {before after : List (κ × α)} {k : κ} (hk : k ∈ keys after)
    (v w : α) : ofEntries (before ++ (k, v) :: after) = ofEntries (before ++ (k, w) :: after) := by
  refine eq_of_get? ?distinct ?keys fun j _ => ?values
  case distinct =>
    rw [keys_ofEntries]
    exact nodup_eraseDups _
  case keys => rw [keys_ofEntries, keys_ofEntries, keys_append, keys_append, keys_cons, keys_cons]
  case values =>
    rw [get?_ofEntries, get?_ofEntries]
    by_cases hj : k = j
    · -- The last entry for the key is one of the later ones.
      obtain ⟨e, he, rfl⟩ := List.mem_map.mp hk
      have hlater : (after.filter fun e' => e'.1 = j) ≠ [] :=
        List.ne_nil_of_mem (List.mem_filter.mpr ⟨he, decide_eq_true hj⟩)
      rw [List.append_cons, List.filter_append, List.getLast?_append_of_ne_nil _ hlater,
        List.append_cons, List.filter_append, List.getLast?_append_of_ne_nil _ hlater]
    · simp [hj]

/-! ### Writes without repetition -/

/-- Pairs whose keys are new and distinct are appended. -/
theorem insertAll_of_nodup {entries more : List (κ × α)}
    (h : (keys (entries ++ more)).Nodup) : insertAll entries more = entries ++ more := by
  induction more generalizing entries with
  | nil => simp
  | cons e rest ih =>
    obtain ⟨k, v⟩ := e
    have hk : k ∉ keys entries := by
      rw [keys_append, keys_cons, List.nodup_append] at h
      exact fun hm => h.2.2 k hm k List.mem_cons_self rfl
    have happ : entries ++ (k, v) :: rest = entries ++ [(k, v)] ++ rest := by simp
    rw [insertAll_cons, insert_of_not_mem hk, happ]
    exact ih (happ ▸ h)

/-- Pairs with distinct keys are the list that they make. -/
theorem ofEntries_of_nodup {entries : List (κ × α)} (h : (keys entries).Nodup) :
    ofEntries entries = entries :=
  insertAll_of_nodup h

/-- Pairs go in as new ones exactly if no key is repeated, and then stand behind what was there. -/
theorem insertNew?_eq {acc : List (κ × α)} (hacc : (keys acc).Nodup) (more : List (κ × α)) :
    insertNew? acc more = if (keys (acc ++ more)).Nodup then some (acc ++ more) else none := by
  induction more generalizing acc with
  | nil => simp [hacc]
  | cons e rest ih =>
    obtain ⟨k, v⟩ := e
    rw [insertNew?_cons]
    by_cases hk : k ∈ keys acc
    · -- The run ends here, and rightly so, since the whole list repeats the key.
      have hdup : ¬ (keys (acc ++ (k, v) :: rest)).Nodup := by
        rw [keys_append, keys_cons, List.nodup_append]
        exact fun h => h.2.2 k hk k List.mem_cons_self rfl
      rw [if_pos (contains_iff.mpr hk), if_neg hdup]
    · have happ : acc ++ (k, v) :: rest = acc ++ [(k, v)] ++ rest := by simp
      have hnew : (keys (acc ++ [(k, v)])).Nodup := by
        rw [keys_append, keys_cons, keys_nil, ← List.concat_eq_append]
        exact hacc.concat hk
      rw [if_neg (fun h => hk (contains_iff.mp h)), insert_of_not_mem hk, ih hnew, happ]

/-- The union of lists: all entries in order, unless some key occurs twice among them, wherever the
union has got to by then. -/
theorem disjointUnion?_eq {acc : List (κ × α)} (hacc : (keys acc).Nodup)
    (parts : List (List (κ × α))) :
    disjointUnion? acc parts =
      if (keys (acc ++ parts.flatten)).Nodup then some (acc ++ parts.flatten) else none := by
  induction parts generalizing acc with
  | nil => simp [hacc]
  | cons part rest ih =>
    rw [disjointUnion?_cons, insertNew?_eq hacc, List.flatten_cons, ← List.append_assoc]
    by_cases h : (keys (acc ++ part)).Nodup
    · rw [if_pos h, Option.bind_some, ih h]
    · -- A key that is repeated so far stays repeated.
      have hdup : ¬ (keys (acc ++ part ++ rest.flatten)).Nodup := by
        intro hall
        rw [keys_append] at hall
        exact h hall.of_append_left
      rw [if_neg h, if_neg hdup, Option.bind_none]

end QueryAlgebra.Assoc
