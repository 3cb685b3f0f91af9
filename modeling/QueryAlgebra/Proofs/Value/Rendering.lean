import QueryAlgebra.Proofs.Text.Joined
import QueryAlgebra.Proofs.Text.Quoted
import QueryAlgebra.Value.Display

/-!
# Rendered values are read in one way

The readable text of a value made of documents, arrays, strings and numbers of 32 bits tells what
the value is, whatever its keys and strings contain. The first character tells the kind of a value;
what is in a string stays between its quotes (`quote_append_inj`); a number ends where something
follows that no numeral goes on with; and the items of an array, or the entries of a document, come
one after the other, each read off the head of what is left of the text.

* `Value.Structural` — the values in question, to any depth.
* `Value.Opens` — the first character of their texts.
* `ReadOff` — an item is told by the head of a text, and so is where it ends;
  `intercalate_append_inj` goes from items to lists of them.
* `Value.Structural.readOff` — the induction over the depth.

So two such values have the same text only if they are identical (`Value.render_eq_iff`). Values of
other types are not included: numbers of different widths may look alike, and the descriptions of
the remaining types stand between quotes without escapes.
-/

namespace QueryAlgebra

open Text

/-! ### Texts of documents and arrays -/

theorem renderItems_eq_map (vs : List Value) : renderItems vs = vs.map Value.render := by
  induction vs with
  | nil => rw [renderItems, List.map_nil]
  | cons v rest ih => rw [renderItems, ih, List.map_cons]

/-- The text of an entry: key, colon, value. -/
def renderEntry (e : String × Value) : String :=
  quote e.1 ++ ": " ++ e.2.render

theorem renderEntries_eq_map (es : Document) : renderEntries es = es.map renderEntry := by
  induction es with
  | nil => rw [renderEntries, List.map_nil]
  | cons e rest ih => rw [renderEntries, ih, List.map_cons, renderEntry]

theorem toList_render_document (es : Document) :
    (Value.document es).render.toList =
      '\x7b' :: ((", ".intercalate (es.map renderEntry)).toList ++ ['\x7d']) := by
  rw [Value.render, renderEntries_eq_map, String.toList_append, String.toList_append]
  rfl

theorem toList_render_array (vs : List Value) :
    (Value.array vs).render.toList =
      '[' :: ((", ".intercalate (vs.map Value.render)).toList ++ [']']) := by
  rw [Value.render, renderItems_eq_map, String.toList_append, String.toList_append]
  rfl

/-! ### Structural values -/

/-- The value is built from documents, arrays, strings and numbers of 32 bits. -/
inductive Value.Structural : Value → Prop where
  | int32 (n : Int32) : Value.Structural (.int32 n)
  | string (text : String) : Value.Structural (.string text)
  | array {vs : List Value} (items : ∀ v ∈ vs, Value.Structural v) : Value.Structural (.array vs)
  | document {es : Document} (values : ∀ e ∈ es, Value.Structural e.2) :
    Value.Structural (.document es)

/-- The text of a structural value begins with the character. -/
inductive Value.Opens : Value → Char → Prop where
  | int32 {n : Int32} {c : Char} (numeral : isNumeralChar c = true) : Value.Opens (.int32 n) c
  | string {text : String} : Value.Opens (.string text) '"'
  | array {vs : List Value} : Value.Opens (.array vs) '['
  | document {es : Document} : Value.Opens (.document es) '\x7b'

theorem Value.Structural.opens {v : Value} (h : v.Structural) {c : Char} {r s : List Char}
    (hc : v.render.toList ++ s = c :: r) : v.Opens c := by
  cases h with
  | int32 n =>
    obtain ⟨d, ds, hds, hd⟩ := exists_decimal_cons n.toInt
    rw [Value.render, hds] at hc
    exact .int32 ((List.cons.inj hc).1 ▸ hd)
  | string text =>
    rw [Value.render, toList_quote] at hc
    exact (List.cons.inj hc).1 ▸ .string
  | array _ =>
    rw [toList_render_array] at hc
    exact (List.cons.inj hc).1 ▸ .array
  | document _ =>
    rw [toList_render_document] at hc
    exact (List.cons.inj hc).1 ▸ .document

/-- No text of a structural value begins with a closing bracket. -/
theorem Value.Structural.ne_close {v : Value} (h : v.Structural) {close : Char}
    (hclose : close = ']' ∨ close = '\x7d') (r s : List Char) :
    v.render.toList ++ s ≠ close :: r := by
  intro hc
  cases h.opens hc with
  | int32 hnumeral => rcases hclose with rfl | rfl <;> exact absurd hnumeral (by decide)
  | string => rcases hclose with h | h <;> exact absurd h (by decide)
  | array => rcases hclose with h | h <;> exact absurd h (by decide)
  | document => rcases hclose with h | h <;> exact absurd h (by decide)

/-! ### Items read off the head of a text -/

/-- No numeral goes on with the text. -/
def EndsNumeral (r : List Char) : Prop :=
  ∀ c ∈ r.head?, isNumeralChar c = false

theorem endsNumeral_cons {c : Char} (h : isNumeralChar c = false) (r : List Char) :
    EndsNumeral (c :: r) := by
  intro d hd
  rw [List.head?_cons, Option.mem_some_iff] at hd
  rw [← hd, h]

section Items

variable {α : Type} {text : α → String} {P : α → Prop}

/-- Among the items with `P`, this one is known from any text that begins with its own and in which
no numeral goes on behind it, and what is behind it is known as well. -/
def ReadOff (text : α → String) (P : α → Prop) (x : α) : Prop :=
  ∀ y, P y → ∀ r s, EndsNumeral r → EndsNumeral s →
    (text x).toList ++ r = (text y).toList ++ s → x = y ∧ r = s

/-- Further items are read off one by one, up to the closing bracket. -/
theorem trailing_append_inj {close : Char} (hcomma : close ≠ ',')
    (hnumeral : isNumeralChar close = false) {xs ys : List α} (hxs : ∀ x ∈ xs, ReadOff text P x)
    (hys : ∀ y ∈ ys, P y) {r s : List Char}
    (h : trailing ", " (xs.map text) ++ close :: r = trailing ", " (ys.map text) ++ close :: s) :
    xs = ys ∧ r = s := by
  -- What follows an item is a comma or the bracket.
  have hends : ∀ (zs : List α) t, EndsNumeral (trailing ", " (zs.map text) ++ close :: t) := by
    intro zs t
    cases zs with
    | nil => exact endsNumeral_cons hnumeral t
    | cons z zs => exact endsNumeral_cons (by decide) _
  induction xs generalizing ys with
  | nil =>
    cases ys with
    | nil => exact ⟨rfl, (List.cons.inj h).2⟩
    | cons y ys => exact absurd (List.cons.inj h).1 hcomma
  | cons x xs ih =>
    cases ys with
    | nil => exact absurd (List.cons.inj h).1.symm hcomma
    | cons y ys =>
      rw [List.forall_mem_cons] at hxs hys
      rw [List.map_cons, List.map_cons, trailing_cons, trailing_cons, List.append_assoc,
        List.append_assoc, List.append_assoc, List.append_assoc] at h
      obtain ⟨rfl, hmore⟩ := hxs.1 y hys.1 _ _ (hends xs r) (hends ys s) (List.append_cancel_left h)
      obtain ⟨rfl, hrest⟩ := ih hxs.2 hys.2 hmore
      exact ⟨rfl, hrest⟩

/-- **Lists of items are read off when their items are.** The bracket that closes the list tells the
empty one from others, since no item begins with it. -/
theorem intercalate_append_inj {close : Char} (hcomma : close ≠ ',')
    (hnumeral : isNumeralChar close = false)
    (hclose : ∀ x, P x → ∀ r s, (text x).toList ++ s ≠ close :: r) {xs ys : List α}
    (hxs : ∀ x ∈ xs, ReadOff text P x) (hxs' : ∀ x ∈ xs, P x) (hys : ∀ y ∈ ys, P y)
    {r s : List Char}
    (h : (", ".intercalate (xs.map text)).toList ++ close :: r =
      (", ".intercalate (ys.map text)).toList ++ close :: s) : xs = ys ∧ r = s := by
  cases xs with
  | nil =>
    cases ys with
    | nil => exact ⟨rfl, (List.cons.inj h).2⟩
    | cons y ys =>
      rw [List.map_cons, toList_intercalate_cons, List.append_assoc] at h
      exact absurd h.symm (hclose y (hys y List.mem_cons_self) _ _)
  | cons x xs =>
    cases ys with
    | nil =>
      rw [List.map_cons, toList_intercalate_cons, List.append_assoc] at h
      exact absurd h (hclose x (hxs' x List.mem_cons_self) _ _)
    | cons y ys =>
      -- With a comma before them, both lists are further items.
      refine trailing_append_inj hcomma hnumeral hxs hys ?_
      rw [List.map_cons, List.map_cons, toList_intercalate_cons, toList_intercalate_cons] at h
      simp only [List.map_cons, trailing_cons, List.append_assoc] at h ⊢
      rw [h]

end Items

/-! ### Values read off the head of a text -/

/-- An entry is read off when its value is: the key ends at its quote. -/
theorem readOff_entry {e : String × Value} (h : ReadOff Value.render Value.Structural e.2) :
    ReadOff renderEntry (fun e => e.2.Structural) e := by
  intro e' he' r s hr hs heq
  simp only [renderEntry, String.toList_append, List.append_assoc] at heq
  obtain ⟨hkey, hmore⟩ := quote_append_inj heq
  obtain ⟨hvalue, hrest⟩ := h e'.2 he' r s hr hs (List.append_cancel_left hmore)
  exact ⟨Prod.ext hkey hvalue, hrest⟩

/-- **A structural value is read off the head of a text**, and so is where it ends. -/
theorem Value.Structural.readOff {v : Value} (h : v.Structural) :
    ReadOff Value.render Value.Structural v := by
  induction h with
  | int32 n =>
    intro w hw r s hr hs heq
    obtain ⟨c, cs, hcs, hc⟩ := exists_decimal_cons n.toInt
    have hopens : w.Opens c := by
      refine hw.opens (r := cs ++ r) (s := s) ?_
      rw [← heq, Value.render, hcs, List.cons_append]
    cases hopens with
    | int32 _ =>
      rw [Value.render, Value.render] at heq
      obtain ⟨hn, hrest⟩ := decimal_append_inj hr hs heq
      exact ⟨congrArg Value.int32 (Int32.toInt_inj.mp hn), hrest⟩
    | string => exact absurd hc (by decide)
    | array => exact absurd hc (by decide)
    | document => exact absurd hc (by decide)
  | string t =>
    intro w hw r s hr hs heq
    have hopens : w.Opens '"' :=
      hw.opens (by rw [← heq, Value.render, toList_quote, List.cons_append])
    cases hopens with
    | int32 hc => exact absurd hc (by decide)
    | string =>
      rw [Value.render, Value.render] at heq
      obtain ⟨rfl, hrest⟩ := quote_append_inj heq
      exact ⟨rfl, hrest⟩
  | @array vs hvs ih =>
    intro w hw r s hr hs heq
    have hopens : w.Opens '[' := hw.opens (by rw [← heq, toList_render_array, List.cons_append])
    cases hopens with
    | int32 hc => exact absurd hc (by decide)
    | array =>
      cases hw with
      | array hws =>
        rw [toList_render_array, toList_render_array, List.cons_append, List.cons_append,
          List.append_assoc, List.append_assoc] at heq
        obtain ⟨rfl, hrest⟩ := intercalate_append_inj (by decide) (by decide)
          (fun x hx => hx.ne_close (.inl rfl)) ih hvs hws (List.cons.inj heq).2
        exact ⟨rfl, hrest⟩
  | @document es hes ih =>
    intro w hw r s hr hs heq
    have hopens : w.Opens '\x7b' :=
      hw.opens (by rw [← heq, toList_render_document, List.cons_append])
    cases hopens with
    | int32 hc => exact absurd hc (by decide)
    | document =>
      cases hw with
      | document hws =>
        rw [toList_render_document, toList_render_document, List.cons_append, List.cons_append,
          List.append_assoc, List.append_assoc] at heq
        -- An entry begins with the quote of its key.
        have hclose : ∀ e : String × Value, e.2.Structural → ∀ r s,
            (renderEntry e).toList ++ s ≠ '\x7d' :: r := by
          intro e _ r s hquote
          rw [renderEntry, String.toList_append, String.toList_append, toList_quote] at hquote
          exact absurd (List.cons.inj hquote).1 (by decide)
        obtain ⟨rfl, hrest⟩ := intercalate_append_inj (by decide) (by decide) hclose
          (fun e he => readOff_entry (ih e he)) hes hws (List.cons.inj heq).2
        exact ⟨rfl, hrest⟩

/-- **The readable text of structural values is unambiguous**: documents, arrays, strings and
numbers of 32 bits, nested to any depth and with any text in keys and strings, have the same text
only if they are identical, the order of keys included. -/
theorem Value.render_eq_iff {v w : Value} (hv : v.Structural) (hw : w.Structural) :
    v.render = w.render ↔ v = w := by
  constructor
  · intro h
    have hends : EndsNumeral [] := fun _ hc => absurd hc (Option.not_mem_none _)
    exact (hv.readOff w hw [] [] hends hends (by rw [h])).1
  · exact congrArg Value.render

/-- A string with what looks like its end, a further entry and an escape, beside a value that has a
further entry and a line feed. -/
theorem Value.render_eq_iff_lookalike :
    (Value.document [("a", .string "x\", \"b\": \"\\n")]).Structural ∧
      (Value.document [("a", .string "x"), ("b", .array [.int32 (-1), .string "\n"])]).Structural ∧
      (Value.document [("a", .string "x\", \"b\": \"\\n")]).render ≠
        (Value.document
          [("a", .string "x"), ("b", .array [.int32 (-1), .string "\n"])]).render := by
  have hv : (Value.document [("a", .string "x\", \"b\": \"\\n")]).Structural := by
    refine .document fun e he => ?_
    rw [List.mem_singleton.mp he]
    exact .string _
  have hw : (Value.document
      [("a", .string "x"), ("b", .array [.int32 (-1), .string "\n"])]).Structural := by
    refine .document (List.forall_mem_cons.mpr ⟨.string _, List.forall_mem_singleton.mpr ?_⟩)
    exact .array (List.forall_mem_cons.mpr ⟨.int32 _, List.forall_mem_singleton.mpr (.string _)⟩)
  exact ⟨hv, hw, fun h => by simpa using (Value.render_eq_iff hv hw).mp h⟩

end QueryAlgebra
