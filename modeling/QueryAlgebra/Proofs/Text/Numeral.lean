import Mathlib
import QueryAlgebra.Text.Numeral

/-!
# Numerals are known from texts that begin with them

A numeral ends where its digits end, so a text that begins with one and goes on with another
character tells which number it was, and what comes behind it.

* `append_inj_of_class` — the same of a run of characters of any class.
* `exists_digitChar_of_mem` — the digits of a base are all that its numerals consist of.
* `hexadecimal_inj`, `decimal_inj` — different numbers have different numerals.
* `decimal_append_inj` — reading a decimal numeral at the head of a text.
-/

namespace QueryAlgebra.Text

/-! ### Runs of characters -/

/-- Two texts that begin with runs of a class of characters and go on with a character outside of
it, or end there, agree in the runs and in what follows them. -/
theorem append_inj_of_class {p : Char → Bool} {xs ys r s : List Char} (hxs : ∀ c ∈ xs, p c = true)
    (hys : ∀ c ∈ ys, p c = true) (hr : ∀ c ∈ r.head?, p c = false)
    (hs : ∀ c ∈ s.head?, p c = false) (h : xs ++ r = ys ++ s) : xs = ys ∧ r = s := by
  -- A run is what is taken of the text while the class lasts.
  have htaken : ∀ {zs t : List Char}, (∀ c ∈ zs, p c = true) → (∀ c ∈ t.head?, p c = false) →
      (zs ++ t).takeWhile p = zs := by
    intro zs t hzs ht
    rw [List.takeWhile_append_of_pos hzs]
    cases t with
    | nil => rw [List.takeWhile_nil, List.append_nil]
    | cons c t =>
      have hc : p c = false := ht c rfl
      rw [List.takeWhile_cons_of_neg (by rw [hc]; exact Bool.false_ne_true), List.append_nil]
  have hruns : xs = ys := by
    rw [← htaken hxs hr, h, htaken hys hs]
  subst hruns
  exact ⟨rfl, List.append_cancel_left h⟩

/-! ### Digits -/

/-- A numeral consists of the digits of its base. -/
theorem exists_digitChar_of_mem {b n : Nat} (hb : 1 < b) {c : Char} (h : c ∈ Nat.toDigits b n) :
    ∃ d < b, c = d.digitChar := by
  induction n using Nat.strongRecOn with
  | ind n ih =>
    rw [Nat.toDigits_eq_if hb] at h
    split at h
    · next hn =>
      exact ⟨n, hn, List.mem_singleton.mp h⟩
    · next hn =>
      rcases List.mem_append.mp h with hmem | hmem
      · exact ih (n / b) (Nat.div_lt_self (by omega) hb) hmem
      · exact ⟨n % b, Nat.mod_lt n (by omega), List.mem_singleton.mp hmem⟩

theorem isDigit_of_mem_repr {c : Char} {n : Nat} (h : c ∈ (Nat.repr n).toList) :
    c.isDigit = true := by
  rw [Nat.repr_eq_ofList_toDigits, String.toList_ofList] at h
  exact Nat.isDigit_of_mem_toDigits (by decide) (by decide) h

/-- Different digits are written differently. -/
theorem digitChar_inj {d e : Nat} (hd : d < 16) (he : e < 16) (h : d.digitChar = e.digitChar) :
    d = e := by
  have hall : ∀ d < 16, ∀ e < 16, Nat.digitChar d = Nat.digitChar e → d = e := by decide
  exact hall d hd e he h

/-- Different numbers have different numerals, in any base up to sixteen. -/
theorem toDigits_inj {b : Nat} (hb : 1 < b) (hb16 : b ≤ 16) {m n : Nat}
    (h : Nat.toDigits b m = Nat.toDigits b n) : m = n := by
  induction m using Nat.strongRecOn generalizing n with
  | ind m ih =>
    have hne : ∀ k, 0 < (Nat.toDigits b k).length := fun k => Nat.length_toDigits_pos
    rw [Nat.toDigits_eq_if hb, Nat.toDigits_eq_if hb (n := n)] at h
    -- Numerals of one digit are told from longer ones by their lengths.
    split at h <;> split at h
    · next hm hn =>
      exact digitChar_inj (by omega) (by omega) (List.singleton_inj.mp h)
    · next hm hn =>
      have hlength := congrArg List.length h
      have := hne (n / b)
      rw [List.length_append, List.length_singleton, List.length_singleton] at hlength
      omega
    · next hm hn =>
      have hlength := congrArg List.length h
      have := hne (m / b)
      rw [List.length_append, List.length_singleton, List.length_singleton] at hlength
      omega
    · next hm hn =>
      obtain ⟨hfront, hlast⟩ := List.append_inj' h rfl
      have hdiv : m / b = n / b := ih (m / b) (Nat.div_lt_self (by omega) hb) hfront
      have hmod : m % b = n % b := by
        have := Nat.mod_lt m (by omega : b > 0)
        have := Nat.mod_lt n (by omega : b > 0)
        exact digitChar_inj (by omega) (by omega) (List.singleton_inj.mp hlast)
      rw [← Nat.div_add_mod m b, ← Nat.div_add_mod n b, hdiv, hmod]

theorem hexadecimal_inj {m n : Nat} (h : hexadecimal m = hexadecimal n) : m = n := by
  rw [hexadecimal, hexadecimal, String.ofList_inj] at h
  exact toDigits_inj (by decide) (by decide) h

/-! ### Decimal numerals -/

/-- Whether a character may stand in the decimal numeral of an integer. -/
def isNumeralChar (c : Char) : Bool :=
  c.isDigit || c == '-'

theorem isNumeralChar_of_mem_decimal {n : Int} {c : Char} (h : c ∈ (decimal n).toList) :
    isNumeralChar c = true := by
  have hdigit : ∀ {k : Nat}, c ∈ (Nat.repr k).toList → isNumeralChar c = true := by
    intro k hc
    rw [isNumeralChar, isDigit_of_mem_repr hc, Bool.true_or]
  cases n with
  | ofNat k => exact hdigit h
  | negSucc k =>
    rw [decimal_negSucc, String.toList_append, List.mem_append] at h
    rcases h with hsign | hc
    · rw [List.mem_singleton.mp hsign]
      rfl
    · exact hdigit hc

theorem decimal_inj {m n : Int} (h : decimal m = decimal n) : m = n := by
  have hsign : ∀ {j k : Nat}, Nat.repr j ≠ "-" ++ Nat.repr k := by
    intro j k hjk
    have hminus : '-' ∈ (Nat.repr j).toList := by
      rw [hjk, String.toList_append]
      exact List.mem_append_left _ (List.mem_singleton.mpr rfl)
    exact absurd (isDigit_of_mem_repr hminus) (by decide)
  cases m with
  | ofNat j =>
    cases n with
    | ofNat k => rw [Nat.repr_injective h]
    | negSucc k => exact absurd h hsign
  | negSucc j =>
    cases n with
    | ofNat k => exact absurd h.symm hsign
    | negSucc k =>
      rw [decimal_negSucc, decimal_negSucc, String.append_right_inj] at h
      rw [Nat.succ.inj (Nat.repr_injective h)]

theorem exists_decimal_cons (n : Int) :
    ∃ c cs, (decimal n).toList = c :: cs ∧ isNumeralChar c = true := by
  have hne : (decimal n).toList ≠ [] := by
    cases n with
    | ofNat k =>
      rw [Int.ofNat_eq_natCast, decimal_ofNat, Nat.repr_eq_ofList_toDigits, String.toList_ofList]
      exact Nat.toDigits_ne_nil
    | negSucc k =>
      rw [decimal_negSucc, String.toList_append]
      exact List.cons_ne_nil _ _
  obtain ⟨c, cs, hcs⟩ := List.exists_cons_of_ne_nil hne
  have hc : c ∈ (decimal n).toList := by
    rw [hcs]
    exact List.mem_cons_self
  exact ⟨c, cs, hcs, isNumeralChar_of_mem_decimal hc⟩

/-- A decimal numeral is read off a text that goes on with no digit and no sign. -/
theorem decimal_append_inj {m n : Int} {r s : List Char}
    (hr : ∀ c ∈ r.head?, isNumeralChar c = false)
    (hs : ∀ c ∈ s.head?, isNumeralChar c = false)
    (h : (decimal m).toList ++ r = (decimal n).toList ++ s) : m = n ∧ r = s := by
  obtain ⟨hnumerals, hrest⟩ := append_inj_of_class (fun _ => isNumeralChar_of_mem_decimal)
    (fun _ => isNumeralChar_of_mem_decimal) hr hs h
  exact ⟨decimal_inj (String.toList_inj.mp hnumerals), hrest⟩

end QueryAlgebra.Text
