import Mathlib
import QueryAlgebra.Value.Encoding

/-!
# Reading bytes

What reads the binary form of documents back, piece by piece. A reader takes what it reads off the
front of a list of bytes and leaves the rest; it fails where the bytes are not of its form.

* `Reader.byte`, `Reader.take`, `Reader.word`, `Reader.count` — bytes, numbers and lengths.
* `Reader.text`, `Reader.cstring`, `Reader.string` — texts, up to a zero byte or behind a length.
* `Reader.frame` — the body of a document, between its length and a zero byte.

That a reader reads a value off some bytes, whatever follows them, is `Reads`. It goes along with
sequencing (`Reads.bind`), so the law of a record is put together from the laws of its fields.
-/

namespace QueryAlgebra

/-- What takes a value off the front of a list of bytes, or fails. -/
abbrev Reader (α : Type) := StateT (List UInt8) Option α

namespace Reader

/-- A value that may be missing, without taking any bytes. -/
def ofOption {α : Type} : Option α → Reader α
  | some a => pure a
  | none => failure

/-- The next byte. -/
def byte : Reader UInt8
  | [] => none
  | b :: rest => some (b, rest)

/-- The next `n` bytes. -/
def take (n : Nat) : Reader (List UInt8) := fun bytes =>
  if n ≤ bytes.length then some (bytes.take n, bytes.drop n) else none

/-- The number in the next `w` bytes, least significant first. -/
def word (w : Nat) : Reader Nat :=
  ofLittleEndian <$> take w

/-- A length: a signed word of four bytes that is not negative. -/
def count : Reader Nat := do
  let n ← word 4
  guard (n < 2 ^ 31)
  return n

/-- A zero byte. -/
def zero : Reader Unit := do
  let b ← byte
  guard (b = 0)

/-- The bytes up to the next zero byte, which is passed over. -/
def upToZero : Reader (List UInt8)
  | [] => none
  | b :: rest =>
    if b = 0 then some ([], rest)
    else (upToZero rest).map fun (bytes, rest) => (b :: bytes, rest)

/-- The text of given bytes. -/
def text (bytes : List UInt8) : Reader String :=
  ofOption (String.fromUTF8? bytes.toByteArray)

/-- A text up to a zero byte. -/
def cstring : Reader String := do
  let bytes ← upToZero
  text bytes

/-- A text behind its length, which counts the zero byte at its end. -/
def string : Reader String := do
  let n ← count
  guard (1 ≤ n)
  let bytes ← take (n - 1)
  zero
  text bytes

/-- What stands between the length of the whole and a zero byte. -/
def frame : Reader (List UInt8) := do
  let n ← count
  guard (5 ≤ n)
  let body ← take (n - 5)
  zero
  return body

/-- What a reader makes of given bytes, of which it must leave none. -/
def all {α : Type} (r : Reader α) (bytes : List UInt8) : Option α :=
  match r.run bytes with
  | some (a, []) => some a
  | _ => none

end Reader

/-! ### Lengths -/

theorem length_counted (s : String) : (counted s).length = (terminated s).length + 4 := by
  rw [counted, List.length_append, length_littleEndian, Nat.add_comm]

theorem length_framed (body : List UInt8) : (framed body).length = body.length + 5 := by
  rw [framed, List.length_append, List.length_append, length_littleEndian, List.length_singleton]
  omega

/-! ### The law of a reader -/

variable {α β : Type}

/-- The reader takes exactly the given bytes and makes the value of them, whatever comes next. -/
def Reads (r : Reader α) (bytes : List UInt8) (a : α) : Prop :=
  ∀ rest, r.run (bytes ++ rest) = some (a, rest)

namespace Reads

theorem pure (a : α) : Reads (Pure.pure a) [] a :=
  fun _ => rfl

theorem bind {r : Reader α} {next : α → Reader β} {first second : List UInt8} {a : α} {b : β}
    (hr : Reads r first a) (hnext : Reads (next a) second b) :
    Reads (r >>= next) (first ++ second) b := by
  intro rest
  -- To the first reader the bytes of the second one are some of those that follow.
  rw [List.append_assoc, StateT.run_bind, hr]
  exact hnext rest

/-- A step that takes no bytes. -/
theorem bind_nil {r : Reader α} {next : α → Reader β} {bytes : List UInt8} {a : α} {b : β}
    (hr : Reads r [] a) (hnext : Reads (next a) bytes b) : Reads (r >>= next) bytes b :=
  hr.bind hnext

/-- The last step may take no bytes. -/
theorem bind_pure {r : Reader α} {next : α → Reader β} {bytes : List UInt8} {a : α} {b : β}
    (hr : Reads r bytes a) (hnext : Reads (next a) [] b) : Reads (r >>= next) bytes b := by
  have hboth := hr.bind hnext
  rwa [List.append_nil] at hboth

theorem map {r : Reader α} {bytes : List UInt8} {a : α} (f : α → β) (hr : Reads r bytes a) :
    Reads (f <$> r) bytes (f a) := by
  intro rest
  rw [StateT.run_map, hr]
  rfl

theorem check {p : Prop} [Decidable p] (h : p) : Reads (guard p) [] () := by
  intro rest
  rw [guard, if_pos h]
  rfl

theorem ofOption {o : Option α} {a : α} (h : o = some a) : Reads (Reader.ofOption o) [] a := by
  rw [h]
  exact .pure a

/-- Bytes that are read as a whole leave nothing. -/
theorem all_eq {r : Reader α} {bytes : List UInt8} {a : α} (hr : Reads r bytes a) :
    r.all bytes = some a := by
  have hrun := hr []
  rw [List.append_nil] at hrun
  rw [Reader.all, hrun]

/-! ### Numbers -/

theorem byte (b : UInt8) : Reads Reader.byte [b] b :=
  fun _ => rfl

theorem take {bytes : List UInt8} {n : Nat} (h : n = bytes.length) :
    Reads (Reader.take n) bytes bytes := by
  intro rest
  have hlength : n ≤ (bytes ++ rest).length := by
    rw [List.length_append]
    omega
  change (if n ≤ (bytes ++ rest).length then _ else none) = _
  rw [if_pos hlength, h, List.take_left, List.drop_left]

theorem word {w n : Nat} (h : n < 256 ^ w) : Reads (Reader.word w) (littleEndian w n) n := by
  have hvalue : ofLittleEndian (littleEndian w n) = n := by
    rw [ofLittleEndian_littleEndian]
    exact Nat.mod_eq_of_lt h
  have hword := (Reads.take (length_littleEndian w n).symm).map ofLittleEndian
  rwa [hvalue] at hword

theorem count {n : Nat} (h : n < 2 ^ 31) : Reads Reader.count (littleEndian 4 n) n :=
  (Reads.word (by omega)).bind_pure ((Reads.check h).bind_nil (.pure n))

theorem zero : Reads Reader.zero [0] () :=
  (Reads.byte 0).bind_pure (.check rfl)

/-! ### Texts -/

/-- The bytes of a text are those that it is stored as. -/
theorem fromUTF8?_utf8Bytes (s : String) :
    String.fromUTF8? (utf8Bytes s).toByteArray = some s := by
  have hstored : (utf8Bytes s).toByteArray = s.toByteArray := s.utf8Encode_toList
  rw [hstored]
  exact dif_pos s.isValidUTF8

theorem text (s : String) : Reads (Reader.text (utf8Bytes s)) [] s :=
  .ofOption (fromUTF8?_utf8Bytes s)

theorem upToZero {bytes : List UInt8} (h : 0 ∉ bytes) :
    Reads Reader.upToZero (bytes ++ [0]) bytes := by
  induction bytes with
  | nil => exact fun _ => rfl
  | cons b bytes ih =>
    intro rest
    have hb : b ≠ 0 := (List.ne_of_not_mem_cons h).symm
    have hrest : Reader.upToZero (bytes ++ [0] ++ rest) = some (bytes, rest) :=
      ih (List.not_mem_of_not_mem_cons h) rest
    change (if b = 0 then _ else (Reader.upToZero (bytes ++ [0] ++ rest)).map _) = _
    -- A byte that is not zero goes in front of what is read from there on.
    rw [if_neg hb, hrest]
    rfl

/-- Only NUL is written with a zero byte: the leading byte of a longer character carries its length,
and the others are marked as following one. -/
theorem zero_not_mem_utf8EncodeChar {c : Char} (h : c ≠ '\x00') :
    0 ∉ String.utf8EncodeChar c := by
  have hcode : c.val.toNat ≠ 0 := by
    intro hzero
    exact h (Char.toNat_inj.mp hzero)
  have hbyte : ∀ n : Nat, 0 < n → n < 256 → (0 : UInt8) ≠ UInt8.ofNat n := by
    intro n hpos hlt heq
    have hnat : (0 : UInt8).toNat = (UInt8.ofNat n).toNat := congrArg UInt8.toNat heq
    rw [UInt8.toNat_ofNat', Nat.mod_eq_of_lt hlt] at hnat
    exact hpos.ne hnat
  -- The form has one to four bytes, by the range of the code point.
  unfold String.utf8EncodeChar
  dsimp only
  split_ifs with hone htwo hthree
  all_goals simp only [List.mem_cons, List.not_mem_nil, or_false, not_or]
  · exact hbyte _ (by omega) (by omega)
  · exact ⟨hbyte _ (by omega) (by omega), hbyte _ (by omega) (by omega)⟩
  · exact ⟨hbyte _ (by omega) (by omega), hbyte _ (by omega) (by omega),
      hbyte _ (by omega) (by omega)⟩
  · exact ⟨hbyte _ (by omega) (by omega), hbyte _ (by omega) (by omega),
      hbyte _ (by omega) (by omega), hbyte _ (by omega) (by omega)⟩

theorem zero_not_mem_utf8Bytes {s : String} (h : '\x00' ∉ s.toList) : 0 ∉ utf8Bytes s := by
  rw [utf8Bytes, List.mem_flatMap]
  rintro ⟨c, hc, hzero⟩
  have hne : c ≠ '\x00' := by
    rintro rfl
    exact h hc
  exact zero_not_mem_utf8EncodeChar hne hzero

theorem cstring {s : String} (h : '\x00' ∉ s.toList) : Reads Reader.cstring (terminated s) s :=
  (Reads.upToZero (zero_not_mem_utf8Bytes h)).bind_pure (.text s)

theorem string {s : String} (h : (counted s).length < 2 ^ 31) :
    Reads Reader.string (counted s) s := by
  have hcounted : (counted s).length = (terminated s).length + 4 := length_counted s
  have hterminated : (terminated s).length = (utf8Bytes s).length + 1 := length_terminated s
  -- The count is one more than the bytes of the text, for the zero byte behind them.
  refine Reads.bind (Reads.count ?short) (Reads.bind_nil (.check ?positive) ?rest)
  case short => omega
  case positive => omega
  case rest => exact Reads.bind (Reads.take (by omega)) (Reads.zero.bind_pure (.text s))

/-! ### Frames -/

theorem frame {body : List UInt8} (h : (framed body).length < 2 ^ 31) :
    Reads Reader.frame (framed body) body := by
  have hframed : (framed body).length = body.length + 5 := length_framed body
  -- The count is five more than the body, for itself and the zero byte behind the body.
  rw [framed, List.append_assoc]
  refine Reads.bind (Reads.count ?short) (Reads.bind_nil (.check ?least) ?rest)
  case short => omega
  case least => omega
  case rest => exact Reads.bind (Reads.take (by omega)) (Reads.zero.bind_pure (.pure body))

end Reads

end QueryAlgebra
