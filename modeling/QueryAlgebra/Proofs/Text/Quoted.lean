import QueryAlgebra.Proofs.Text.Numeral
import QueryAlgebra.Text.Quoted

/-!
# Quoted texts are read in one way

Between quotes every character stands for itself, or is written as a backslash and something behind
it: a mark of its own, or `u` and its code point in braces. None of these forms begins another one,
and none begins with a quote, so the closing quote is found and what stands between the quotes is
read back character by character.

* `WrittenAs` — the forms of a character; `writtenAs_escapeChar` finds each escape among them. Which
  characters are shown as themselves and which by code point does not matter.
* `WrittenAs.append_inj` — a form at the head of a text tells its character.
* `quote_append_inj` — a quoted text at the head of a text tells what was quoted.
-/

namespace QueryAlgebra.Text

/-! ### The forms of a character -/

/-- The characters that have marks of their own behind a backslash. -/
def markedChars : List (Char × Char) :=
  [('"', '"'), ('\\', '\\'), ('\n', 'n'), ('\r', 'r'), ('\t', 't'), ('\x00', '0')]

/-- The forms in which a character may stand between quotes. -/
inductive WrittenAs (c : Char) : List Char → Prop where
  | plain (printable : isPrintable c = true) (no_quote : c ≠ '"') (no_backslash : c ≠ '\\') :
    WrittenAs c [c]
  | marked {mark : Char} (own : (c, mark) ∈ markedChars) : WrittenAs c ['\\', mark]
  | codePoint : WrittenAs c (escapeCodePoint c)

theorem writtenAs_escapeChar (c : Char) : WrittenAs c (escapeChar c) := by
  unfold escapeChar
  split_ifs with hquote hbackslash hfeed hreturn htab hnul hhidden
  · exact .marked (by rw [hquote]; decide)
  · exact .marked (by rw [hbackslash]; decide)
  · exact .marked (by rw [hfeed]; decide)
  · exact .marked (by rw [hreturn]; decide)
  · exact .marked (by rw [htab]; decide)
  · exact .marked (by rw [hnul]; decide)
  · exact .codePoint
  · -- What is neither hidden nor marked stands for itself.
    rw [Bool.or_eq_true, not_or, Bool.not_eq_true', Bool.not_eq_false] at hhidden
    exact .plain hhidden.2 hquote hbackslash

namespace WrittenAs

variable {c d : Char} {xs ys r s : List Char}

/-- No form begins with a quote. -/
theorem exists_cons (h : WrittenAs c xs) : ∃ a as, xs = a :: as ∧ a ≠ '"' := by
  cases h with
  | plain _ hquote _ => exact ⟨c, [], rfl, hquote⟩
  | marked _ => exact ⟨'\\', _, rfl, by decide⟩
  | codePoint => exact ⟨'\\', _, rfl, by decide⟩

/-- The digits of a code point end at the brace behind them. -/
theorem codePoint_append_inj (h : escapeCodePoint c ++ r = escapeCodePoint d ++ s) :
    c = d ∧ r = s := by
  have hdigits : ∀ {e : Char}, ∀ x ∈ (hexadecimal e.toNat).toList, (x != '\x7d') = true := by
    intro e x hx
    rw [hexadecimal, String.toList_ofList] at hx
    obtain ⟨k, -, rfl⟩ := exists_digitChar_of_mem (by decide) hx
    exact bne_iff_ne.mpr (Nat.digitChar_ne '\x7d' (by decide))
  have hbrace : ∀ t : List Char, ∀ x ∈ ('\x7d' :: t).head?, (x != '\x7d') = false := by
    intro t x hx
    rw [List.head?_cons, Option.mem_some_iff] at hx
    rw [← hx, bne_self_eq_false]
  simp only [escapeCodePoint, List.cons_append, List.append_assoc, List.nil_append,
    List.cons.injEq, true_and] at h
  obtain ⟨hnumerals, hrest⟩ := append_inj_of_class hdigits hdigits (hbrace r) (hbrace s) h
  have hcode : c.toNat = d.toNat := hexadecimal_inj (String.toList_inj.mp hnumerals)
  exact ⟨Char.toNat_inj.mp hcode, (List.cons.inj hrest).2⟩

/-- The marks tell the characters apart, and none of them is the `u` of a code point. -/
theorem mark_unique : ∀ e ∈ markedChars, e.2 ≠ 'u' ∧ ∀ e' ∈ markedChars, e.2 = e'.2 → e = e' := by
  decide

/-- **A form at the head of a text tells its character**, and where it ends. -/
theorem append_inj (hc : WrittenAs c xs) (hd : WrittenAs d ys) (h : xs ++ r = ys ++ s) :
    c = d ∧ r = s := by
  cases hc with
  | plain _ _ hc =>
    cases hd with
    | plain => exact List.cons.inj h
    | marked _ => exact absurd (List.cons.inj h).1 hc
    | codePoint => exact absurd (List.cons.inj h).1 hc
  | marked hc =>
    have hmark := mark_unique _ hc
    cases hd with
    | plain _ _ hd => exact absurd (List.cons.inj h).1.symm hd
    | marked hd =>
      obtain ⟨-, hmarks, hrest⟩ := List.cons_eq_cons.mp h |>.imp_right List.cons.inj
      exact ⟨congrArg Prod.fst (hmark.2 _ hd hmarks), hrest⟩
    | codePoint => exact absurd (List.cons.inj (List.cons.inj h).2).1 hmark.1
  | codePoint =>
    cases hd with
    | plain _ _ hd => exact absurd (List.cons.inj h).1.symm hd
    | marked hd => exact absurd (List.cons.inj (List.cons.inj h).2).1.symm (mark_unique _ hd).1
    | codePoint => exact codePoint_append_inj h

end WrittenAs

/-! ### Whole texts -/

/-- Up to the closing quote the characters are read back one by one. -/
theorem escaped_append_inj {cs ds r s : List Char}
    (h : cs.flatMap escapeChar ++ '"' :: r = ds.flatMap escapeChar ++ '"' :: s) :
    cs = ds ∧ r = s := by
  -- A text that is at its end on one side is so on the other: no form begins with a quote.
  have hend : ∀ {d : Char} {t u : List Char}, '"' :: t ≠ escapeChar d ++ u := by
    intro d t u hquote
    obtain ⟨a, as, hform, ha⟩ := (writtenAs_escapeChar d).exists_cons
    rw [hform] at hquote
    exact ha (List.cons.inj hquote).1.symm
  induction cs generalizing ds with
  | nil =>
    cases ds with
    | nil => exact ⟨rfl, (List.cons.inj h).2⟩
    | cons d ds =>
      rw [List.flatMap_cons, List.append_assoc] at h
      exact absurd h hend
  | cons c cs ih =>
    rw [List.flatMap_cons, List.append_assoc] at h
    cases ds with
    | nil => exact absurd h.symm hend
    | cons d ds =>
      rw [List.flatMap_cons, List.append_assoc] at h
      obtain ⟨rfl, hmore⟩ := (writtenAs_escapeChar c).append_inj (writtenAs_escapeChar d) h
      obtain ⟨rfl, hrest⟩ := ih hmore
      exact ⟨rfl, hrest⟩

/-- **A quoted text at the head of a text tells what was quoted**, and what follows it. -/
theorem quote_append_inj {t u : String} {r s : List Char}
    (h : (quote t).toList ++ r = (quote u).toList ++ s) : t = u ∧ r = s := by
  rw [toList_quote, toList_quote, List.cons_append, List.cons_append, List.append_assoc,
    List.append_assoc] at h
  obtain ⟨hcs, hrest⟩ := escaped_append_inj (List.cons.inj h).2
  exact ⟨String.toList_inj.mp hcs, hrest⟩

end QueryAlgebra.Text
