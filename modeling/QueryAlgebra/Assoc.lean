/-!
# Ordered association lists

A list of pairs in which the order of the keys is part of the value. Writing to a key that is
present changes the value where it stands; writing to a new key appends it. So a key keeps the
position of its first insertion and shows the value of its last one.

* `alter k f entries` — applies `f` to the value under `k`, if there is one, and stores the result.
* `insert entries k v` — stores `v` under `k`; `ofEntries` inserts pair by pair.
* `get?`, `keys` — the two views: a list with distinct keys is known by its keys in order and the
  value under each (`keys_alter`, `get?_alter_self`, `get?_alter_of_ne`).
-/

namespace QueryAlgebra.Assoc

variable {κ α : Type}

/-- The keys in order. -/
def keys (entries : List (κ × α)) : List κ :=
  entries.map Prod.fst

@[simp] theorem keys_nil : keys ([] : List (κ × α)) = [] := rfl

@[simp] theorem keys_cons (k : κ) (v : α) (rest : List (κ × α)) :
    keys ((k, v) :: rest) = k :: keys rest := rfl

@[simp] theorem keys_append (xs ys : List (κ × α)) : keys (xs ++ ys) = keys xs ++ keys ys := by
  simp [keys]

variable [DecidableEq κ]

/-- The value under the first occurrence of a key. -/
def get? (entries : List (κ × α)) (k : κ) : Option α :=
  match entries with
  | [] => none
  | (k', v) :: rest => if k' = k then some v else get? rest k

@[simp] theorem get?_nil (k : κ) : get? ([] : List (κ × α)) k = none := rfl

theorem get?_cons (k' k : κ) (v : α) (rest : List (κ × α)) :
    get? ((k', v) :: rest) k = if k' = k then some v else get? rest k := rfl

/-- Whether a key is present. -/
def contains (entries : List (κ × α)) (k : κ) : Bool :=
  (get? entries k).isSome

theorem get?_eq_none_iff {entries : List (κ × α)} {k : κ} :
    get? entries k = none ↔ k ∉ keys entries := by
  induction entries with
  | nil => simp
  | cons e rest ih =>
    obtain ⟨k', v⟩ := e
    rw [get?_cons, keys_cons, List.mem_cons]
    by_cases h : k' = k
    · simp [h]
    · rw [if_neg h, ih]
      simp [Ne.symm h]

theorem contains_iff {entries : List (κ × α)} {k : κ} :
    contains entries k = true ↔ k ∈ keys entries := by
  rw [contains, Option.isSome_iff_ne_none, ne_eq, get?_eq_none_iff, Classical.not_not]

/-- Stores `f` of the value under `k`: in place if there is one, else at the end. -/
def alter (k : κ) (f : Option α → α) : List (κ × α) → List (κ × α)
  | [] => [(k, f none)]
  | (k', v) :: rest => if k' = k then (k', f (some v)) :: rest else (k', v) :: alter k f rest

@[simp] theorem alter_nil (k : κ) (f : Option α → α) : alter k f [] = [(k, f none)] := rfl

theorem alter_cons (k k' : κ) (f : Option α → α) (v : α) (rest : List (κ × α)) :
    alter k f ((k', v) :: rest) =
      if k' = k then (k', f (some v)) :: rest else (k', v) :: alter k f rest := rfl

/-- The keys after a write: the same ones, or the new one behind them. -/
theorem keys_alter (k : κ) (f : Option α → α) (entries : List (κ × α)) :
    keys (alter k f entries) = if k ∈ keys entries then keys entries else keys entries ++ [k] := by
  induction entries with
  | nil => simp
  | cons e rest ih =>
    obtain ⟨k', v⟩ := e
    rw [alter_cons]
    by_cases h : k' = k
    · simp [h]
    · simp only [if_neg h, keys_cons, ih, List.mem_cons, Ne.symm h, false_or]
      split <;> simp

theorem get?_alter_self (k : κ) (f : Option α → α) (entries : List (κ × α)) :
    get? (alter k f entries) k = some (f (get? entries k)) := by
  induction entries with
  | nil => simp [get?_cons]
  | cons e rest ih =>
    obtain ⟨k', v⟩ := e
    rw [alter_cons, get?_cons]
    by_cases h : k' = k
    · simp [h, get?_cons]
    · simp [h, get?_cons, ih]

theorem get?_alter_of_ne {k k' : κ} (h : k' ≠ k) (f : Option α → α) (entries : List (κ × α)) :
    get? (alter k f entries) k' = get? entries k' := by
  induction entries with
  | nil => simp [get?_cons, Ne.symm h]
  | cons e rest ih =>
    obtain ⟨k₀, v⟩ := e
    rw [alter_cons]
    by_cases h₀ : k₀ = k
    · simp [h₀, get?_cons, Ne.symm h]
    · simp [h₀, get?_cons, ih]

/-- Stores a value under a key. -/
def insert (entries : List (κ × α)) (k : κ) (v : α) : List (κ × α) :=
  alter k (fun _ => v) entries

@[simp] theorem insert_nil (k : κ) (v : α) : insert ([] : List (κ × α)) k v = [(k, v)] := rfl

/-- A new key is appended. -/
theorem insert_of_not_mem {entries : List (κ × α)} {k : κ} (h : k ∉ keys entries) (v : α) :
    insert entries k v = entries ++ [(k, v)] := by
  induction entries with
  | nil => rfl
  | cons e rest ih =>
    obtain ⟨k', w⟩ := e
    simp only [keys_cons, List.mem_cons, not_or] at h
    rw [insert, alter_cons, if_neg (Ne.symm h.1), List.cons_append, ← ih h.2]
    rfl

/-- All pairs inserted one after the other. -/
def insertAll (entries more : List (κ × α)) : List (κ × α) :=
  more.foldl (fun acc e => insert acc e.1 e.2) entries

@[simp] theorem insertAll_nil (entries : List (κ × α)) : insertAll entries [] = entries := rfl

@[simp] theorem insertAll_cons (entries : List (κ × α)) (k : κ) (v : α) (more : List (κ × α)) :
    insertAll entries ((k, v) :: more) = insertAll (insert entries k v) more := rfl

/-- The list that pairs make when they are inserted in order. -/
def ofEntries (entries : List (κ × α)) : List (κ × α) :=
  insertAll [] entries

@[simp] theorem ofEntries_nil : ofEntries ([] : List (κ × α)) = [] := rfl

@[simp] theorem ofEntries_singleton (k : κ) (v : α) : ofEntries [(k, v)] = [(k, v)] := rfl

/-! ### Unions without overwriting -/

/-- The pairs inserted one after the other, unless one of the keys is taken already. -/
def insertNew? (entries : List (κ × α)) : List (κ × α) → Option (List (κ × α))
  | [] => some entries
  | (k, v) :: more => if contains entries k then none else insertNew? (insert entries k v) more

@[simp] theorem insertNew?_nil (entries : List (κ × α)) :
    insertNew? entries [] = some entries := rfl

theorem insertNew?_cons (entries : List (κ × α)) (k : κ) (v : α) (more : List (κ × α)) :
    insertNew? entries ((k, v) :: more) =
      if contains entries k then none else insertNew? (insert entries k v) more := rfl

/-- The pairs of all lists in order, unless some key occurs twice. -/
def disjointUnion? (entries : List (κ × α)) : List (List (κ × α)) → Option (List (κ × α))
  | [] => some entries
  | part :: rest => (insertNew? entries part).bind fun union => disjointUnion? union rest

@[simp] theorem disjointUnion?_nil (entries : List (κ × α)) :
    disjointUnion? entries [] = some entries := rfl

@[simp] theorem disjointUnion?_cons (entries part : List (κ × α)) (rest : List (List (κ × α))) :
    disjointUnion? entries (part :: rest) =
      (insertNew? entries part).bind fun union => disjointUnion? union rest := rfl

end QueryAlgebra.Assoc
