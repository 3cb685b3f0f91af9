import QueryAlgebra.Proofs.Text.Joined
import QueryAlgebra.Proofs.Text.Quoted
import QueryAlgebra.Text.Base64

/-!
# Control characters in texts

A text stays on its line as long as it has no control character in it. What control characters a
text has (`controls`) is computed part by part: those of joined texts are those of the parts, and a
quoted text has none, whatever was quoted, since a control character is never printable. Numerals
and base64 have none either.

* `controls`, `OneLine` — the control characters of a text, and texts without any.
* `controls_append`, `controls_intercalate`, `controls_quote` — texts made of texts.
* `controls_repr` and what follows — texts made of numbers.
-/

namespace QueryAlgebra.Text

/-- Whether a character is a control character of ASCII; line breaks are among them. -/
def isControl (c : Char) : Bool :=
  c.toNat < 0x20 || c.toNat == 0x7F

/-- The control characters of a text, in order. -/
def controls (s : String) : List Char :=
  s.toList.filter isControl

/-- The text has no control character, and so no line break. -/
def OneLine (s : String) : Prop :=
  controls s = []

instance (s : String) : Decidable (OneLine s) :=
  inferInstanceAs (Decidable (controls s = []))

/-! ### Texts made of texts -/

theorem controls_eq_nil_iff {s : String} :
    controls s = [] ↔ ∀ c ∈ s.toList, isControl c = false := by
  rw [controls, List.filter_eq_nil_iff]
  exact forall₂_congr fun c _ => Bool.eq_false_iff.symm

theorem controls_ofList {cs : List Char} (h : ∀ c ∈ cs, isControl c = false) :
    controls (String.ofList cs) = [] := by
  rw [controls_eq_nil_iff, String.toList_ofList]
  exact h

@[simp] theorem controls_append (s t : String) : controls (s ++ t) = controls s ++ controls t := by
  rw [controls, String.toList_append, List.filter_append]
  rfl

/-- Where the separator has none, the control characters are those of the parts. -/
theorem controls_intercalate {sep : String} (hsep : controls sep = []) (ts : List String) :
    controls (sep.intercalate ts) = ts.flatMap controls := by
  induction ts with
  | nil => rfl
  | cons t ts ih =>
    cases ts with
    | nil => rw [String.intercalate_singleton, List.flatMap_singleton]
    | cons u rest =>
      rw [String.intercalate_cons_cons, controls_append, controls_append, hsep, List.append_nil, ih]
      rfl

/-- No control character is printable. -/
theorem isControl_of_isPrintable {c : Char} (h : isPrintable c = true) : isControl c = false := by
  by_contra hcontrol
  have hrange : inRanges unprintableRanges c.toNat = true := by
    simp only [isControl, Bool.not_eq_false, Bool.or_eq_true, decide_eq_true_eq,
      beq_iff_eq] at hcontrol
    -- The first two ranges of what is not printable begin with the control characters.
    refine inRanges_iff.mpr ?_
    rcases hcontrol with hlow | hdelete
    · exact ⟨(0x0, 0x1F), List.mem_cons_self, by omega, by omega⟩
    · exact ⟨(0x7F, 0xA0), List.mem_cons_of_mem _ List.mem_cons_self, by omega, by omega⟩
  rw [isPrintable, hrange] at h
  exact Bool.false_ne_true h

theorem isControl_digitChar {d : Nat} (h : d < 16) : isControl d.digitChar = false := by
  have hall : ∀ d < 16, isControl (Nat.digitChar d) = false := by decide
  exact hall d h

theorem isControl_of_mem_hexadecimal {n : Nat} {c : Char} (h : c ∈ (hexadecimal n).toList) :
    isControl c = false := by
  rw [hexadecimal, String.toList_ofList] at h
  obtain ⟨d, hd, rfl⟩ := exists_digitChar_of_mem (by decide) h
  exact isControl_digitChar hd

/-- The form of a character between quotes has no control character. -/
theorem WrittenAs.isControl_of_mem {c d : Char} {cs : List Char} (h : WrittenAs c cs)
    (hd : d ∈ cs) : isControl d = false := by
  cases h with
  | plain hprintable _ _ =>
    rw [List.mem_singleton.mp hd]
    exact isControl_of_isPrintable hprintable
  | @marked mark hown =>
    have hmarks : ∀ e ∈ markedChars, isControl e.2 = false := by decide
    rcases List.mem_pair.mp hd with rfl | rfl
    · rfl
    · exact hmarks _ hown
  | codePoint =>
    simp only [escapeCodePoint, List.cons_append, List.mem_cons, List.mem_append, List.not_mem_nil,
      or_false] at hd
    rcases hd with rfl | rfl | rfl | hdigit | rfl
    · rfl
    · rfl
    · rfl
    · exact isControl_of_mem_hexadecimal hdigit
    · rfl

/-- **A quoted text is on one line**, whatever was quoted. -/
@[simp] theorem controls_quote (s : String) : controls (quote s) = [] := by
  rw [controls_eq_nil_iff, toList_quote]
  intro d hd
  rw [List.mem_cons, List.mem_append, List.mem_flatMap, List.mem_singleton] at hd
  rcases hd with rfl | ⟨c, -, hform⟩ | rfl
  · rfl
  · exact (writtenAs_escapeChar c).isControl_of_mem hform
  · rfl

/-! ### Numerals -/

theorem isControl_of_isDigit {c : Char} (h : c.isDigit = true) : isControl c = false := by
  rw [Char.isDigit, Bool.and_eq_true, decide_eq_true_eq, decide_eq_true_eq] at h
  have hlow : 48 ≤ c.toNat := UInt32.le_iff_toNat_le.mp h.1
  have hhigh : c.toNat ≤ 57 := UInt32.le_iff_toNat_le.mp h.2
  simp only [isControl, Bool.or_eq_false_iff, decide_eq_false_iff_not, beq_eq_false_iff_ne]
  omega

theorem isControl_of_mem_repr {n : Nat} {c : Char} (h : c ∈ (Nat.repr n).toList) :
    isControl c = false :=
  isControl_of_isDigit (isDigit_of_mem_repr h)

@[simp] theorem controls_repr (n : Nat) : controls (Nat.repr n) = [] :=
  controls_eq_nil_iff.mpr fun _ => isControl_of_mem_repr

@[simp] theorem controls_hexadecimal (n : Nat) : controls (hexadecimal n) = [] :=
  controls_eq_nil_iff.mpr fun _ => isControl_of_mem_hexadecimal

@[simp] theorem controls_decimal (n : Int) : controls (decimal n) = [] := by
  cases n with
  | ofNat k => exact controls_repr k
  | negSucc k =>
    rw [decimal_negSucc, controls_append, controls_repr]
    rfl

theorem isControl_of_mem_zeros {n : Nat} {c : Char} (h : c ∈ List.replicate n '0') :
    isControl c = false := by
  rw [List.eq_of_mem_replicate h]
  rfl

@[simp] theorem controls_padZeros (width : Nat) (s : String) :
    controls (padZeros width s) = controls s := by
  rw [padZeros, controls_append, controls_ofList fun _ => isControl_of_mem_zeros, List.nil_append]

@[simp] theorem controls_paddedDecimal (width n : Nat) : controls (paddedDecimal width n) = [] := by
  rw [paddedDecimal, controls_padZeros, controls_repr]

@[simp] theorem controls_paddedHexadecimal (width n : Nat) :
    controls (paddedHexadecimal width n) = [] := by
  rw [paddedHexadecimal, controls_padZeros, controls_hexadecimal]

/-! ### Base64 -/

theorem isControl_base64Char (n : Nat) : isControl (base64Char n) = false := by
  by_cases h : n < 62
  · have hall : ∀ n < 62, isControl (base64Char n) = false := by decide
    exact hall n h
  · -- Beyond the letters and digits only two characters are left.
    unfold base64Char
    rw [if_neg (by omega), if_neg (by omega), if_neg h]
    split
    · rfl
    · rfl

theorem isControl_of_mem_base64Chars {bytes : List UInt8} {c : Char} (h : c ∈ base64Chars bytes) :
    isControl c = false := by
  have hpad : isControl '=' = false := rfl
  induction bytes using base64Chars.induct with
  | case1 => exact absurd h List.not_mem_nil
  | case2 a =>
    simp only [base64Chars, List.mem_cons, List.not_mem_nil, or_false] at h
    rcases h with rfl | rfl | rfl | rfl
    · exact isControl_base64Char _
    · exact isControl_base64Char _
    · exact hpad
    · exact hpad
  | case3 a b =>
    simp only [base64Chars, List.mem_cons, List.not_mem_nil, or_false] at h
    rcases h with rfl | rfl | rfl | rfl
    · exact isControl_base64Char _
    · exact isControl_base64Char _
    · exact isControl_base64Char _
    · exact hpad
  | case4 a b c' rest ih =>
    simp only [base64Chars, List.mem_cons] at h
    rcases h with rfl | rfl | rfl | rfl | hrest
    · exact isControl_base64Char _
    · exact isControl_base64Char _
    · exact isControl_base64Char _
    · exact isControl_base64Char _
    · exact ih hrest

@[simp] theorem controls_base64 (bytes : List UInt8) : controls (base64 bytes) = [] :=
  controls_ofList fun _ => isControl_of_mem_base64Chars

end QueryAlgebra.Text
