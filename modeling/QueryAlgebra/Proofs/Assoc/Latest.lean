import QueryAlgebra.Proofs.Assoc.Merging

/-!
# The last under each key

Where several things carry one key, the last of them often stands for all, in the place of the
first: `latest key ds` keeps for each key, in order of first occurrence, the last one that carries
it. This says without any writing what insertion does pair by pair (`ofEntries_eq_latest`).

* `mem_latest_iff` — what is kept is what no later one with the same key replaces.
* `latest_perm` — if what carries one key is one thing, the order does not matter for what is kept.
-/

namespace QueryAlgebra.Assoc

variable {κ α δ ε : Type}

variable [DecidableEq κ]

/-- For each key, in order of first occurrence, the last one that carries it. -/
def latest (key : δ → κ) (ds : List δ) : List δ :=
  (ds.map key).eraseDups.filterMap fun k => (ds.filter fun d => key d = k).getLast?

/-- The last one under a key carries it. -/
theorem key_of_getLast? {key : δ → κ} {ds : List δ} {d : δ} {k : κ}
    (h : (ds.filter fun d => key d = k).getLast? = some d) : d ∈ ds ∧ key d = k := by
  have hmem := List.mem_filter.mp (List.mem_of_getLast? h)
  exact ⟨hmem.1, of_decide_eq_true hmem.2⟩

theorem mem_latest_iff_getLast? {key : δ → κ} {ds : List δ} {d : δ} :
    d ∈ latest key ds ↔ (ds.filter fun e => key e = key d).getLast? = some d := by
  rw [latest, List.mem_filterMap]
  constructor
  · rintro ⟨k, -, hlast⟩
    rwa [(key_of_getLast? hlast).2]
  · intro hlast
    refine ⟨key d, ?_, hlast⟩
    rw [List.mem_eraseDups]
    exact List.mem_map_of_mem (key_of_getLast? hlast).1

/-- What is kept is what no later one with the same key replaces. -/
theorem mem_latest_iff {key : δ → κ} {ds : List δ} {d : δ} :
    d ∈ latest key ds ↔ ∃ before after, ds = before ++ d :: after ∧ key d ∉ after.map key := by
  rw [mem_latest_iff_getLast?, List.getLast?_eq_some_iff]
  constructor
  · rintro ⟨earlier, h⟩
    obtain ⟨front, back, rfl, -, hback⟩ := List.filter_eq_append_iff.mp h
    obtain ⟨skipped, after, rfl, -, -, hafter⟩ := List.filter_eq_cons_iff.mp hback
    refine ⟨front ++ skipped, after, (List.append_assoc _ _ _).symm, fun hlater => ?_⟩
    obtain ⟨e, he, hkey⟩ := List.mem_map.mp hlater
    exact List.filter_eq_nil_iff.mp hafter e he (decide_eq_true hkey)
  · rintro ⟨before, after, rfl, hlast⟩
    have hafter : (after.filter fun e => key e = key d) = [] :=
      List.filter_eq_nil_iff.mpr fun e he hkey =>
        hlast (of_decide_eq_true hkey ▸ List.mem_map_of_mem he)
    refine ⟨before.filter fun e => key e = key d, ?_⟩
    rw [List.filter_append, List.filter_cons, if_pos (decide_eq_true rfl), hafter]

theorem mem_of_mem_latest {key : δ → κ} {ds : List δ} {d : δ} (h : d ∈ latest key ds) : d ∈ ds :=
  (key_of_getLast? (mem_latest_iff_getLast?.mp h)).1

/-- Each key is kept once, where it first occurs. -/
theorem map_key_latest (key : δ → κ) (ds : List δ) :
    (latest key ds).map key = (ds.map key).eraseDups := by
  rw [latest, List.map_filterMap]
  refine (List.filterMap_congr fun k hk => ?_).trans List.filterMap_some
  -- Every key that occurs has a last one to carry it.
  obtain ⟨d, hd, rfl⟩ := List.mem_map.mp (List.mem_eraseDups.mp hk)
  have hne : (ds.filter fun e => key e = key d) ≠ [] :=
    List.ne_nil_of_mem (List.mem_filter.mpr ⟨hd, decide_eq_true rfl⟩)
  obtain ⟨last, hlast⟩ := Option.ne_none_iff_exists'.mp (mt List.getLast?_eq_none_iff.mp hne)
  rw [hlast, Option.map_some, (key_of_getLast? hlast).2]

/-- Something is kept for each key that occurs. -/
theorem exists_mem_latest {key : δ → κ} {ds : List δ} {d : δ} (hd : d ∈ ds) :
    ∃ e ∈ latest key ds, key e = key d := by
  have hkey : key d ∈ (latest key ds).map key := by
    rw [map_key_latest, List.mem_eraseDups]
    exact List.mem_map_of_mem hd
  exact List.mem_map.mp hkey

/-- What is mapped with its keys is kept as before. -/
theorem latest_map (key : ε → κ) (g : δ → ε) (ds : List δ) :
    latest key (ds.map g) = (latest (fun d => key (g d)) ds).map g := by
  rw [latest, latest, List.map_map, List.map_filterMap]
  refine List.filterMap_congr fun k _ => ?_
  rw [List.filter_map, List.getLast?_map]
  rfl

@[simp] theorem latest_singleton (key : δ → κ) (d : δ) : latest key [d] = [d] := by
  simp [latest, List.eraseDups_cons]

/-- Insertion keeps the last entry for each key. -/
theorem ofEntries_eq_latest (entries : List (κ × α)) :
    ofEntries entries = latest Prod.fst entries := by
  have hkeys : keys (ofEntries entries) = keys (latest Prod.fst entries) := by
    rw [keys_ofEntries, keys, keys, map_key_latest]
  have hnodup : (keys (ofEntries entries)).Nodup := by
    rw [keys_ofEntries]
    exact nodup_eraseDups _
  refine eq_of_get? hnodup hkeys fun k hk => ?_
  rw [hkeys] at hk
  obtain ⟨e, he, rfl⟩ := List.mem_map.mp hk
  rw [get?_of_mem (hkeys ▸ hnodup) he, get?_ofEntries, mem_latest_iff_getLast?.mp he,
    Option.map_some]

/-! ### Order -/

/-- What occurs in any order occurs, once each, in some order. -/
theorem eraseDups_perm {ks ks' : List κ} (h : ks.Perm ks') : ks.eraseDups.Perm ks'.eraseDups := by
  refine (List.perm_ext_iff_of_nodup (nodup_eraseDups ks) (nodup_eraseDups ks')).mpr fun k => ?_
  rw [List.mem_eraseDups, List.mem_eraseDups, h.mem_iff]

/-- Where one thing carries each key, all that there is is kept. -/
theorem mem_latest_of_agree {key : δ → κ} {ds : List δ}
    (hagree : ∀ d ∈ ds, ∀ e ∈ ds, key d = key e → d = e) {d : δ} :
    d ∈ latest key ds ↔ d ∈ ds := by
  refine ⟨mem_of_mem_latest, fun hd => ?_⟩
  obtain ⟨e, he, hkey⟩ : ∃ e ∈ latest key ds, key e = key d := exists_mem_latest hd
  exact hagree e (mem_of_mem_latest he) d hd hkey ▸ he

/-- Where one thing carries each key, the order of things does not matter for what is kept. -/
theorem latest_perm {key : δ → κ} {ds es : List δ} (hperm : ds.Perm es)
    (hagree : ∀ d ∈ ds, ∀ e ∈ ds, key d = key e → d = e) :
    (latest key ds).Perm (latest key es) := by
  have hnodup : ∀ ds : List δ, (latest key ds).Nodup := fun ds =>
    List.Nodup.of_map key (map_key_latest key ds ▸ nodup_eraseDups (ds.map key))
  have hagree' : ∀ d ∈ es, ∀ e ∈ es, key d = key e → d = e := fun d hd e he =>
    hagree d (hperm.mem_iff.mpr hd) e (hperm.mem_iff.mpr he)
  refine (List.perm_ext_iff_of_nodup (hnodup ds) (hnodup es)).mpr fun d => ?_
  rw [mem_latest_of_agree hagree, mem_latest_of_agree hagree', hperm.mem_iff]

end QueryAlgebra.Assoc
