import QueryAlgebra.Proofs.Record.Convention
import QueryAlgebra.Record.Options

/-!
# Names read back from keys

A record whose members get the same key could not be queried by either of them. Rules that run the
words of a name together drop what keeps the words apart, so it takes names of a certain form to be
safe from this: `OrdinaryName`s are made of words (`Word`) that start with a letter, all in lower
case, with one underscore between each two of them.

What an ordinary name was can be told from its key (`nameOf_segment`): where words have been run
together, each capital stands for an underscore and the letter in lower case (`parted`). This is
seen word by word, a pass over the name dropping one underscore and setting one capital for each
word (`parted_word`, `parted_marked`). So two members of ordinary names never share a key, under any
rule and without one (`segment_ne_of_ne`).
-/

namespace QueryAlgebra

open Text

/-! ### Ordinary names -/

/-- A lower-case letter or a digit. -/
def IsPlain (c : Char) : Prop :=
  c.isLower = true ∨ c.isDigit = true

namespace IsPlain

variable {c : Char}

theorem code (h : IsPlain c) : 48 ≤ c.toNat ∧ c.toNat ≤ 57 ∨ 97 ≤ c.toNat ∧ c.toNat ≤ 122 := by
  rcases h with hlower | hdigit
  · right
    simpa [Char.isLower, UInt32.le_iff_toNat_le] using hlower
  · left
    exact Char.isDigit_iff_toNat.mp hdigit

theorem ascii (h : IsPlain c) : c.toNat < 128 := by
  have := h.code
  omega

theorem ne_underscore (h : IsPlain c) : c ≠ '_' := by
  rintro rfl
  exact absurd h.code (by decide)

theorem ne_hyphen (h : IsPlain c) : c ≠ '-' := by
  rintro rfl
  exact absurd h.code (by decide)

theorem not_isUpper (h : IsPlain c) : c.isUpper = false := by
  rw [Bool.eq_false_iff]
  intro hupper
  have hcode : 65 ≤ c.toNat ∧ c.toNat ≤ 90 := by
    simpa [Char.isUpper, UInt32.le_iff_toNat_le] using hupper
  have := h.code
  omega

end IsPlain

/-- A word of a name: a lower-case letter, and then lower-case letters and digits. -/
structure Word where
  initial : Char
  others : List Char
  initial_isLower : initial.isLower = true
  others_plain : ∀ c ∈ others, IsPlain c

/-- The characters of a word. -/
def Word.chars (w : Word) : List Char :=
  w.initial :: w.others

/-- A name made of words, of one at least. -/
structure OrdinaryName where
  first : Word
  more : List Word

/-- The words of a name with underscores between them. -/
def OrdinaryName.text (n : OrdinaryName) : String :=
  "_".intercalate ((n.first :: n.more).map fun w => String.ofList w.chars)

/-- Words with an underscore before each of them. -/
def marked (words : List Word) : List Char :=
  words.flatMap fun w => '_' :: w.chars

@[simp] theorem marked_nil : marked [] = [] := rfl

@[simp] theorem marked_cons (w : Word) (words : List Word) :
    marked (w :: words) = '_' :: (w.chars ++ marked words) := rfl

theorem Word.plain (w : Word) : ∀ c ∈ w.chars, IsPlain c := by
  intro c hc
  rcases List.mem_cons.mp hc with rfl | hothers
  · exact .inl w.initial_isLower
  · exact w.others_plain c hothers

theorem mem_marked {words : List Word} {c : Char} (h : c ∈ marked words) : c = '_' ∨ IsPlain c := by
  obtain ⟨w, -, hc⟩ := List.mem_flatMap.mp h
  exact (List.mem_cons.mp hc).imp_right (w.plain c)

namespace OrdinaryName

theorem toList_text (n : OrdinaryName) : n.text.toList = n.first.chars ++ marked n.more := by
  obtain ⟨w, words⟩ := n
  unfold text
  induction words generalizing w with
  | nil => simp
  | cons v words ih => simpa using ih v

theorem mem_text {n : OrdinaryName} {c : Char} (h : c ∈ n.text.toList) : c = '_' ∨ IsPlain c := by
  rw [toList_text] at h
  rcases List.mem_append.mp h with hfirst | hmore
  · exact .inr (n.first.plain c hfirst)
  · exact mem_marked hmore

theorem isAscii_text (n : OrdinaryName) : IsAscii n.text.toList := by
  intro c hc
  rcases mem_text hc with rfl | hplain
  · decide
  · exact hplain.ascii

theorem not_isUpper_text (n : OrdinaryName) : ∀ c ∈ n.text.toList, c.isUpper = false := by
  intro c hc
  rcases mem_text hc with rfl | hplain
  · rfl
  · exact hplain.not_isUpper

end OrdinaryName

/-! ### Words run together, and apart again -/

namespace NamingRule

/-- A key with an underscore set before each capital, and the capital in lower case. -/
def parted (key : List Char) : List Char :=
  key.flatMap fun c => if c.isUpper then ['_', c.toLower] else [c]

@[simp] theorem parted_nil : parted [] = [] := rfl

theorem parted_append (key key' : List Char) : parted (key ++ key') = parted key ++ parted key' :=
  List.flatMap_append

theorem parted_capital {c : Char} (h : c.isLower = true) (rest : List Char) :
    parted (c.toUpper :: rest) = '_' :: c :: parted rest := by
  have hupper : c.toUpper.isUpper = true := by
    rw [Char.isUpper_toUpper_eq_isAlpha, Char.isAlpha, h, Bool.or_true]
  simp [parted, hupper, toLower_toUpper_of_isLower h]

theorem parted_plain {cs : List Char} (h : ∀ c ∈ cs, IsPlain c) : parted cs = cs := by
  induction cs with
  | nil => rfl
  | cons c rest ih =>
    obtain ⟨hc, hrest⟩ := List.forall_mem_cons.mp h
    have happ : parted (c :: rest) = parted [c] ++ parted rest := parted_append [c] rest
    rw [happ, ih hrest]
    simp [parted, hc.not_isUpper]

/-- A pass that is under way leaves plain characters as they are. -/
theorem runTogether_plain {cs : List Char} (h : ∀ c ∈ cs, IsPlain c) (rest : List Char) :
    runTogether false (cs ++ rest) = cs ++ runTogether false rest := by
  induction cs with
  | nil => rfl
  | cons c cs ih =>
    obtain ⟨hc, hcs⟩ := List.forall_mem_cons.mp h
    rw [List.cons_append, runTogether_of_ne hc.ne_underscore, ih hcs]
    rfl

/-- A pass that comes to a word sets a capital for it. -/
theorem runTogether_word (w : Word) (rest : List Char) :
    runTogether true (w.chars ++ rest) =
      w.initial.toUpper :: (w.others ++ runTogether false rest) := by
  have hinitial : w.initial ≠ '_' := IsPlain.ne_underscore (.inl w.initial_isLower)
  rw [Word.chars, List.cons_append, runTogether_of_ne hinitial, runTogether_plain w.others_plain]
  rfl

/-- The capital of a word is read as its underscore. -/
theorem parted_word (w : Word) (rest : List Char) :
    parted (runTogether true (w.chars ++ rest)) =
      '_' :: (w.chars ++ parted (runTogether false rest)) := by
  rw [runTogether_word, parted_capital w.initial_isLower, parted_append,
    parted_plain w.others_plain]
  rfl

/-- Words run together are read back one by one. -/
theorem parted_marked (words : List Word) :
    parted (runTogether false (marked words)) = marked words := by
  induction words with
  | nil => rfl
  | cons w words ih =>
    -- The underscore before the word is gone, but the capital that it causes is read as one.
    rw [marked_cons, runTogether_underscore, parted_word, ih]

variable (n : OrdinaryName)

theorem parted_pascalCase : parted (pascalCase n.text.toList) = '_' :: n.text.toList := by
  rw [pascalCase_eq_runTogether n.isAscii_text, n.toList_text, parted_word, parted_marked]

/-- In camel case the first word has no capital. -/
theorem parted_camelCase : parted (camelCase n.text.toList) = n.text.toList := by
  have hpass : runTogether true n.text.toList =
      n.first.initial.toUpper :: (n.first.others ++ runTogether false (marked n.more)) := by
    rw [n.toList_text, runTogether_word]
  rw [camelCase_eq n.isAscii_text hpass, toLower_toUpper_of_isLower n.first.initial_isLower]
  change parted (n.first.chars ++ runTogether false (marked n.more)) = n.text.toList
  rw [parted_append, parted_plain n.first.plain, parted_marked, n.toList_text]

/-! ### Names and keys -/

/-- The name that a key was made from by a rule, or without one. -/
def nameOf (rule : Option NamingRule) (key : List Char) : List Char :=
  match rule with
  | none | some .lower | some .snake => key
  | some .upper | some .screamingSnake => key.map Char.toLower
  | some .kebab => key.map fun c => if c = '-' then '_' else c
  | some .camel => parted key
  | some .pascal => (parted key).tail

theorem toLower_text : toLower n.text = n.text := by
  rw [← String.toList_inj, toList_toLower n.isAscii_text]
  exact map_toLower_eq_self_iff.mpr n.not_isUpper_text

theorem map_toLower_toUpper_text : (toUpper n.text).toList.map Char.toLower = n.text.toList := by
  have hcase : Char.toLower ∘ Char.toUpper = Char.toLower :=
    funext Char.toLower_toUpper_eq_toLower
  rw [toList_toUpper n.isAscii_text, List.map_map, hcase]
  exact map_toLower_eq_self_iff.mpr n.not_isUpper_text

/-- There are no hyphens in an ordinary name that could be taken for underscores. -/
theorem map_hyphen_text :
    (n.text.toList.map fun c => if c = '_' then '-' else c).map
      (fun c => if c = '-' then '_' else c) = n.text.toList := by
  rw [List.map_map]
  refine (List.map_congr_left fun c hc => ?_).trans (List.map_id _)
  rcases OrdinaryName.mem_text hc with rfl | hplain
  · rfl
  · simp [hplain.ne_underscore, hplain.ne_hyphen]

/-- A rule loses nothing of an ordinary name. -/
theorem nameOf_apply (rule : NamingRule) :
    nameOf rule (rule.apply n.text).toList = n.text.toList := by
  cases rule with
  | lower => exact congrArg String.toList (toLower_text n)
  | upper => exact map_toLower_toUpper_text n
  | snake => rfl
  | screamingSnake => exact map_toLower_toUpper_text n
  | camel => rw [apply, String.toList_ofList, nameOf, parted_camelCase]
  | pascal => rw [apply, String.toList_ofList, nameOf, parted_pascalCase, List.tail_cons]
  | kebab => rw [apply, String.toList_ofList, nameOf, map_hyphen_text]

end NamingRule

namespace MemberOptions

/-- Options without a name of their own for the member. -/
def Unnamed (o : MemberOptions) : Prop :=
  o.queryName = none ∧ o.storedName = none

/-- The name of a member is read back from its key. -/
theorem nameOf_segment {o : MemberOptions} (ho : o.Unnamed) (rule : Option NamingRule)
    (n : OrdinaryName) :
    NamingRule.nameOf rule (o.segment rule n.text).toList = n.text.toList := by
  obtain ⟨hquery, hstored⟩ := ho
  unfold segment
  rw [hquery, hstored]
  cases rule with
  | none => exact congrArg String.toList (NamingRule.toLower_text n)
  | some rule => exact NamingRule.nameOf_apply n rule

/-- **Ordinary members keep apart.** Members of different ordinary names without names of their own
in the options have different keys, under each rule and without one. -/
theorem segment_ne_of_ne (rule : Option NamingRule) {o o' : MemberOptions} (ho : o.Unnamed)
    (ho' : o'.Unnamed) {n n' : OrdinaryName} (hne : n.text ≠ n'.text) :
    o.segment rule n.text ≠ o'.segment rule n'.text := by
  intro heq
  have hname : n.text.toList = n'.text.toList := by
    rw [← nameOf_segment ho rule n, heq, nameOf_segment ho' rule n']
  exact hne (String.toList_inj.mp hname)

/-- Names that are the same but for an underscore. -/
theorem segment_ne_of_ne_sample :
    ({ nested := true } : MemberOptions).segment (some .camel) "a_b1" ≠
      ({ skip := true } : MemberOptions).segment (some .camel) "ab1" := by
  let a : Word := ⟨'a', [], rfl, by simp⟩
  let b : Word := ⟨'b', ['1'], rfl, by simp [IsPlain]⟩
  let ab : Word := ⟨'a', ['b', '1'], rfl, by simp [IsPlain]⟩
  have htext : (OrdinaryName.mk a [b]).text = "a_b1" := rfl
  have htext' : (OrdinaryName.mk ab []).text = "ab1" := rfl
  have hne : (OrdinaryName.mk a [b]).text ≠ (OrdinaryName.mk ab []).text := by
    rw [htext, htext']
    decide
  have ho : ({ nested := true } : MemberOptions).Unnamed := ⟨rfl, rfl⟩
  have ho' : ({ skip := true } : MemberOptions).Unnamed := ⟨rfl, rfl⟩
  have hsegment := segment_ne_of_ne (some .camel) ho ho' hne
  rwa [htext, htext'] at hsegment

/-- A word that starts with a digit is not told from a further part of the word before it. -/
example : NamingRule.camelCase "a_1".toList = NamingRule.camelCase "a1".toList := rfl

end MemberOptions

end QueryAlgebra
