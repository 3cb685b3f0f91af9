import QueryAlgebra.Proofs.Text.Control
import QueryAlgebra.Proofs.Update.Reporting
import QueryAlgebra.Proofs.Value.Rendering
import QueryAlgebra.Update.Lowering

/-!
# Control characters in rendered values

Keys and strings are quoted with escapes, so they bring no control character into the readable text
of a value; nor do numbers, dates, identities and bytes. What goes between the quotes as it is does:
the source of code, symbols, the patterns and options of regular expressions and the collections of
references (`Value.bareTexts`). The control characters of the readable text are exactly those of
these texts, in order (`Value.controls_render`), so a line break in one of them breaks the line that
shows the value (`render_breaks_line`), and this is the only way to break it (`oneLine_iff`).
-/

namespace QueryAlgebra

open Text

/-! ### Texts that are shown as they are -/

/-- The texts that the description of a value shows without escapes. -/
def Value.describedTexts : Value → List String
  | .regex pattern options => [pattern.text, options.text]
  | .code source => [source]
  | .codeWithScope source _ => [source]
  | .symbol text => [text]
  | .dbPointer collection _ => [collection]
  | _ => []

mutual

/-- The texts that the rendering of a value shows without escapes, at any depth, in order. The scope
of code is not shown. -/
def Value.bareTexts : Value → List String
  | .array items => bareTextsOfItems items
  | .document entries => bareTextsOfEntries entries
  | other => other.describedTexts

/-- The texts that the items of an array show without escapes. -/
def bareTextsOfItems : List Value → List String
  | [] => []
  | v :: rest => v.bareTexts ++ bareTextsOfItems rest

/-- The texts that the values of entries show without escapes. -/
def bareTextsOfEntries : List (String × Value) → List String
  | [] => []
  | (_, v) :: rest => v.bareTexts ++ bareTextsOfEntries rest

end

/-- The texts that the rendering of a document shows without escapes. -/
def Document.bareTexts (d : Document) : List String :=
  bareTextsOfEntries d

/-! ### Texts of numbers -/

theorem controls_zeros (n : Nat) : controls (ScaledDecimal.zeros n) = [] :=
  controls_ofList fun _ => isControl_of_mem_zeros

theorem controls_positional (d : ScaledDecimal) : controls d.positional = [] := by
  have hpoint : controls "." = [] := rfl
  have hwhole : controls "0." = [] := rfl
  have hdigits : ∀ c ∈ d.digits.toList, isControl c = false := fun _ => isControl_of_mem_repr
  unfold ScaledDecimal.positional
  dsimp only
  split_ifs
  · rw [controls_append, controls_zeros, controls_eq_nil_iff.mpr hdigits]
    rfl
  · -- The digits on either side of the point are digits of the coefficient.
    rw [controls_append, controls_append, hpoint,
      controls_ofList fun c hc => hdigits c (List.mem_of_mem_take hc),
      controls_ofList fun c hc => hdigits c (List.mem_of_mem_drop hc)]
    rfl
  · rw [controls_append, controls_append, hwhole, controls_zeros,
      controls_eq_nil_iff.mpr hdigits]
    rfl

theorem controls_plainText (x : Binary64) : controls x.plainText = [] := by
  unfold Binary64.plainText
  split_ifs
  · rfl
  · rfl
  · rfl
  · rw [controls_append, controls_positional]
    rfl
  · rfl
  · rfl
  · rw [controls_append, controls_positional]
    rfl

theorem controls_withPoint {digits : List Char} (h : ∀ c ∈ digits, isControl c = false)
    (places : Nat) : controls (Decimal128.withPoint digits places) = [] := by
  have hpoint : controls "." = [] := rfl
  have hpadded : ∀ c ∈ List.replicate (places + 1 - digits.length) '0' ++ digits,
      isControl c = false := by
    intro c hc
    rcases List.mem_append.mp hc with hzero | hdigit
    · exact isControl_of_mem_zeros hzero
    · exact h c hdigit
  unfold Decimal128.withPoint
  rw [controls_append, controls_append, hpoint,
    controls_ofList fun c hc => hpadded c (List.mem_of_mem_take hc),
    controls_ofList fun c hc => hpadded c (List.mem_of_mem_drop hc)]
  rfl

theorem controls_finiteText (coefficient : Nat) (exponent : Int) :
    controls (Decimal128.finiteText coefficient exponent) = [] := by
  have hdigits : ∀ c ∈ (Nat.repr coefficient).toList, isControl c = false :=
    fun _ => isControl_of_mem_repr
  have hpower : ∀ (p : Prop) [Decidable p] (n : Nat),
      controls ((if p then "E-" else "E+") ++ Nat.repr n) = [] := by
    intro p _ n
    rw [controls_append, controls_repr]
    split <;> rfl
  unfold Decimal128.finiteText
  dsimp only
  split
  · split
    · exact controls_ofList hdigits
    · exact controls_withPoint hdigits _
  · -- With an exponent: the first digit, the point if more digits follow it, and the power.
    split
    · next c d more hcs =>
      rw [hcs] at hdigits
      have hpointed : ∀ x ∈ c :: '.' :: d :: more, isControl x = false := by
        intro x hx
        rcases List.mem_cons.mp hx with rfl | hx
        · exact hdigits x List.mem_cons_self
        · rcases List.mem_cons.mp hx with rfl | hx
          · rfl
          · exact hdigits x (List.mem_cons_of_mem _ hx)
      rw [controls_append, hpower, controls_ofList hpointed]
      rfl
    · rw [controls_append, hpower, controls_ofList hdigits]
      rfl

theorem controls_decimal128 (x : Decimal128) : controls x.text = [] := by
  unfold Decimal128.text Decimal128.numberText
  split
  · rfl
  · split <;> rfl
  · rw [controls_append, controls_finiteText]
    split <;> rfl

/-! ### Texts of instants and identities -/

theorem controls_signedYear (year : Int) : controls (signedYear year) = [] := by
  rw [signedYear, controls_append, controls_paddedDecimal]
  split_ifs <;> rfl

/-- Digits without zeros at the end are digits. -/
theorem isControl_of_mem_fractionDigits {m : Moment} {c : Char} (h : c ∈ m.fractionDigits) :
    isControl c = false := by
  rw [Moment.fractionDigits, dropTrailingZeros, List.mem_reverse] at h
  have hdigit := List.mem_reverse.mp ((List.dropWhile_suffix _).subset h)
  exact controls_eq_nil_iff.mp (controls_paddedDecimal 3 m.millisecond) c hdigit

theorem controls_instantText (millis : Int) : controls (instantText millis) = [] := by
  have hhyphen : controls "-" = [] := rfl
  have hspace : controls " " = [] := rfl
  have hcolon : controls ":" = [] := rfl
  have hpoint : controls "." = [] := rfl
  have hoffset : controls " +00:00:00" = [] := rfl
  unfold instantText
  dsimp only
  split
  · exact controls_decimal millis
  · have hfraction : ∀ c ∈ (if (Moment.ofMillis millis).fractionDigits.isEmpty = true then ['0']
        else (Moment.ofMillis millis).fractionDigits), isControl c = false := by
      intro c hc
      split at hc
      · rw [List.mem_singleton.mp hc]
        rfl
      · exact isControl_of_mem_fractionDigits hc
    simp only [controls_append, controls_signedYear, controls_paddedDecimal, controls_repr,
      controls_ofList hfraction, hhyphen, hspace, hcolon, hpoint, hoffset, List.append_nil]

theorem controls_objectId (id : ObjectId) : controls id.text = [] :=
  controls_paddedHexadecimal 24 id.number.toNat

/-! ### Values -/

/-- The control characters of a description are those of the texts that it shows. -/
theorem Value.controls_description (v : Value) :
    controls v.description = v.describedTexts.flatMap controls := by
  have hquote : controls "\")" = [] := rfl
  have hparen : controls ")" = [] := rfl
  have hcomma : controls ", " = [] := rfl
  have hslash : controls "/" = [] := rfl
  -- Around the texts that are shown stand a name and punctuation, which are fixed.
  cases v with
  | bool b => cases b <;> rfl
  | objectId id =>
    have hname : controls "ObjectId(\"" = [] := rfl
    change controls ("ObjectId(\"" ++ id.text ++ "\")") = []
    rw [controls_append, controls_append, hname, controls_objectId, hquote]
    rfl
  | dateTime millis =>
    have hname : controls "DateTime(\"" = [] := rfl
    change controls ("DateTime(\"" ++ instantText millis.toInt ++ "\")") = []
    rw [controls_append, controls_append, hname, controls_instantText, hquote]
    rfl
  | binary subtype bytes =>
    have hname : controls "Binary(0x" = [] := rfl
    change controls
      ("Binary(0x" ++ hexadecimal subtype.toNat ++ ", " ++ base64 bytes ++ ")") = []
    simp only [controls_append, hname, controls_hexadecimal, hcomma, controls_base64, hparen,
      List.append_nil]
  | timestamp time increment =>
    have hname : controls "Timestamp(" = [] := rfl
    change controls
      ("Timestamp(" ++ Nat.repr time.toNat ++ ", " ++ Nat.repr increment.toNat ++ ")") = []
    simp only [controls_append, hname, controls_repr, hcomma, hparen, List.append_nil]
  | regex pattern options =>
    change controls ("/" ++ pattern.text ++ "/" ++ options.text) =
      [pattern.text, options.text].flatMap controls
    simp only [controls_append, hslash, List.nil_append, List.append_nil, List.flatMap_cons,
      List.flatMap_nil]
  | symbol text =>
    have hname : controls "Symbol(\"" = [] := rfl
    change controls ("Symbol(\"" ++ text ++ "\")") = [text].flatMap controls
    rw [controls_append, controls_append, hname, hquote, List.nil_append]
    rfl
  | dbPointer collection id =>
    have hname : controls "DbPointer(" = [] := rfl
    change controls ("DbPointer(" ++ collection ++ ", " ++ id.text ++ ")") =
      [collection].flatMap controls
    simp only [controls_append, hname, hcomma, controls_objectId, hparen, List.nil_append,
      List.append_nil, List.flatMap_singleton]
  | code source => exact (List.flatMap_singleton controls source).symm
  | codeWithScope source _ => exact (List.flatMap_singleton controls source).symm
  | null | int32 | int64 | double | decimal | string | array | document | undefined | minKey
  | maxKey => rfl

/-- Quotes around a description add nothing. -/
theorem controls_between_quotes (v : Value) :
    controls ("\"" ++ v.description ++ "\"") = v.describedTexts.flatMap controls := by
  have hquote : controls "\"" = [] := rfl
  rw [controls_append, controls_append, hquote, List.nil_append, List.append_nil,
    Value.controls_description]

/-- Brackets around joined texts, and the commas between them, add nothing. -/
theorem controls_bracketed {opening closing : String} (hopening : controls opening = [])
    (hclosing : controls closing = []) (ts : List String) :
    controls (opening ++ ", ".intercalate ts ++ closing) = ts.flatMap controls := by
  rw [controls_append, controls_append, hopening, hclosing, List.nil_append, List.append_nil,
    controls_intercalate rfl]

mutual

/-- **The control characters of the readable text of a value are those of the texts that it shows
without escapes**, in order. -/
theorem Value.controls_render : (v : Value) → controls v.render = v.bareTexts.flatMap controls
  | .document entries => by
    rw [Value.render, Value.bareTexts, controls_bracketed rfl rfl, controls_renderEntries entries]
  | .array items => by
    rw [Value.render, Value.bareTexts, controls_bracketed rfl rfl, controls_renderItems items]
  | .int32 n => by
    rw [Value.render, controls_decimal]
    rfl
  | .int64 n => by
    rw [Value.render, controls_decimal]
    rfl
  | .double x => by
    rw [Value.render, controls_plainText]
    rfl
  | .decimal x => by
    rw [Value.render, controls_decimal128]
    rfl
  | .string t => by
    rw [Value.render, controls_quote]
    rfl
  | .null | .bool _ | .objectId _ | .dateTime _ | .binary _ _ | .regex _ _ | .timestamp _ _
  | .code _ | .codeWithScope _ _ | .symbol _ | .undefined | .minKey | .maxKey | .dbPointer _ _ =>
    controls_between_quotes _

/-- The same of the items of an array. -/
theorem controls_renderItems :
    (vs : List Value) → (renderItems vs).flatMap controls = (bareTextsOfItems vs).flatMap controls
  | [] => rfl
  | v :: rest => by
    rw [renderItems, bareTextsOfItems, List.flatMap_cons, List.flatMap_append,
      Value.controls_render v, controls_renderItems rest]

/-- The same of entries: keys add nothing. -/
theorem controls_renderEntries :
    (es : List (String × Value)) →
      (renderEntries es).flatMap controls = (bareTextsOfEntries es).flatMap controls
  | [] => rfl
  | (k, v) :: rest => by
    have hcolon : controls ": " = [] := rfl
    rw [renderEntries, bareTextsOfEntries, List.flatMap_cons, List.flatMap_append, controls_append,
      controls_append, controls_quote, hcolon, List.nil_append, List.nil_append,
      Value.controls_render v, controls_renderEntries rest]

end

theorem Document.controls_render (d : Document) :
    controls d.render = d.bareTexts.flatMap controls := by
  rw [← Value.render_document, Value.controls_render, Value.bareTexts, Document.bareTexts]

/-! ### Messages and events -/

theorem Value.oneLine_render_iff (v : Value) : OneLine v.render ↔ ∀ t ∈ v.bareTexts, OneLine t := by
  rw [OneLine, Value.controls_render, List.flatMap_eq_nil_iff]
  rfl

theorem Document.oneLine_render_iff (d : Document) :
    OneLine d.render ↔ ∀ t ∈ d.bareTexts, OneLine t := by
  rw [OneLine, Document.controls_render, List.flatMap_eq_nil_iff]
  rfl

/-- A line of a log stays one line: its message and the names and texts of its fields do. -/
def LogLine.IsOneLine (l : LogLine) : Prop :=
  OneLine l.message ∧ ∀ f ∈ l.fields, OneLine f.1 ∧ OneLine f.2

/-- Messages are fixed texts. -/
theorem Event.oneLine_message (e : Event) : OneLine e.message := by
  unfold Event.message
  split
  case h_6 => split <;> decide
  all_goals decide

/-- So are the names of fields. -/
theorem Event.oneLine_name {e : Event} {f : String × String} (h : f ∈ e.fields) :
    OneLine f.1 := by
  have hnames : ∀ name ∈ e.fields.map Prod.fst, OneLine name := by
    cases e with
    | filterSerialized =>
      change ∀ name ∈ ["filter"], OneLine name
      decide
    | updateSerialized =>
      change ∀ name ∈ ["update"], OneLine name
      decide
    | payloadSkipped =>
      change ∀ name ∈ ["payload"], OneLine name
      decide
    | find | count =>
      change ∀ name ∈ ["collection", "filter"], OneLine name
      decide
    | update =>
      change ∀ name ∈ ["collection", "filter", "update"], OneLine name
      decide
    | copy =>
      change ∀ name ∈ ["source", "target"], OneLine name
      decide
  exact hnames _ (List.mem_map_of_mem h)

/-- The line of an event is broken by what it shows alone. -/
theorem Event.isOneLine_line_iff (e : Event) :
    e.line.IsOneLine ↔ ∀ f ∈ e.fields, OneLine f.2 := by
  constructor
  · intro h f hf
    exact (h.2 f hf).2
  · intro h
    exact ⟨e.oneLine_message, fun f hf => ⟨Event.oneLine_name hf, h f hf⟩⟩

theorem isOneLine_payloadSkipped_iff (v : Value) :
    (Event.payloadSkipped v).line.IsOneLine ↔ ∀ t ∈ v.bareTexts, OneLine t := by
  rw [Event.isOneLine_line_iff, ← Value.oneLine_render_iff]
  exact List.forall_mem_singleton

theorem isOneLine_filterSerialized_iff (d : Document) :
    (Event.filterSerialized d).line.IsOneLine ↔ ∀ t ∈ d.bareTexts, OneLine t := by
  rw [Event.isOneLine_line_iff, ← Document.oneLine_render_iff]
  exact List.forall_mem_singleton

theorem isOneLine_updateSerialized_iff (d : Document) :
    (Event.updateSerialized d).line.IsOneLine ↔ ∀ t ∈ d.bareTexts, OneLine t := by
  rw [Event.isOneLine_line_iff, ← Document.oneLine_render_iff]
  exact List.forall_mem_singleton

/-- **What breaks a line is a text that is shown as it is**: the source of code, a symbol, the
pattern or the options of a regular expression, the collection of a reference. The control
characters of a rendered value are those of such texts in it, at any depth and in order, and a key,
a string or any other value adds none. So the value, the message about it as a payload that is
refused, and the lines of the log for a filter and for an update with payloads left out, are each on
one line exactly if no such text in what they show has a control character. -/
theorem oneLine_iff (v : Value) (f : Filter) (u : Update) :
    controls v.render = v.bareTexts.flatMap controls ∧
      (OneLine v.render ↔ ∀ t ∈ v.bareTexts, OneLine t) ∧
      (OneLine (QueryError.unrecognizedUpdate v.render).message ↔ ∀ t ∈ v.bareTexts, OneLine t) ∧
      ((∀ l ∈ f.toDocument.events.map Event.line, l.IsOneLine) ↔
        ∀ t ∈ f.toDocument.value.bareTexts, OneLine t) ∧
      ((∀ l ∈ u.toDocument.events.map Event.line, l.IsOneLine) ↔
        (∀ w ∈ u.payloads, ∀ t ∈ w.bareTexts, OneLine t) ∧
          ∀ t ∈ u.toDocument.value.bareTexts, OneLine t) := by
  refine ⟨v.controls_render, v.oneLine_render_iff, ?message, ?filter, ?update⟩
  case message =>
    have hheading : controls ("Unrecognized update payload" ++ ": ") = [] := rfl
    rw [← Value.oneLine_render_iff, OneLine, OneLine]
    change controls ("Unrecognized update payload" ++ ": " ++ v.render) = [] ↔ _
    rw [controls_append, hheading, List.nil_append]
  case filter =>
    have hevents : f.toDocument.events = [.filterSerialized f.toDocument.value] := rfl
    rw [hevents, List.map_singleton, List.forall_mem_singleton, isOneLine_filterSerialized_iff]
  case update =>
    -- One warning for each payload, and then the document.
    have hevents : u.toDocument.events =
        u.payloads.map .payloadSkipped ++ [.updateSerialized u.toDocument.value] := by
      rw [u.toDocument_eq]
    rw [hevents, List.map_append, List.forall_mem_append, List.map_singleton,
      List.forall_mem_singleton, isOneLine_updateSerialized_iff, List.map_map, List.forall_mem_map]
    exact and_congr_left' (forall₂_congr fun w _ => isOneLine_payloadSkipped_iff w)

/-- The source of code brings its line break along, into the rendering, the warning and the message,
as the same text in a string does not. -/
theorem render_breaks_line :
    ¬ OneLine (Value.code "x\ny").render ∧
      ¬ (Event.payloadSkipped (.code "x\ny")).line.IsOneLine ∧
      ¬ OneLine (QueryError.unrecognizedUpdate (Value.code "x\ny").render).message ∧
      OneLine (Value.string "x\ny").render := by
  have hcode : controls (Value.code "x\ny").render = ['\n'] := by decide
  have hmessage : controls (QueryError.unrecognizedUpdate (Value.code "x\ny").render).message =
      ['\n'] := by decide
  refine ⟨?rendering, ?warning, ?message, ?string⟩
  case rendering =>
    rw [OneLine, hcode]
    exact List.cons_ne_nil _ _
  case warning =>
    intro h
    have hshown : OneLine (Value.code "x\ny").render := (h.2 _ List.mem_cons_self).2
    rw [OneLine, hcode] at hshown
    exact List.cons_ne_nil _ _ hshown
  case message =>
    rw [OneLine, hmessage]
    exact List.cons_ne_nil _ _
  case string => exact controls_quote _

end QueryAlgebra
