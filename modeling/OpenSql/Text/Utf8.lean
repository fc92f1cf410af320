/-
# OpenSql.Text.Utf8 — texts from bytes, strictly or with replacements.

A configuration file must be well-formed.  A text that a query returns is read in any case: each
maximal stretch of bytes that begins a character without completing it becomes one replacement
character U+FFFD, and so does each byte that cannot begin one.  Both readers share `scan`, which
takes one character or one such stretch off the front.
-/

namespace OpenSql.Text

/-- The range of the byte after the first one, and the number of bytes after the first, for each
first byte of a character of several bytes (RFC 3629). -/
def leadByte? (b : Nat) : Option (Nat × Nat × Nat) :=
  if 0xC2 ≤ b ∧ b ≤ 0xDF then some (0x80, 0xBF, 1)
  else if b = 0xE0 then some (0xA0, 0xBF, 2)
  else if b = 0xED then some (0x80, 0x9F, 2)
  else if 0xE1 ≤ b ∧ b ≤ 0xEF then some (0x80, 0xBF, 2)
  else if b = 0xF0 then some (0x90, 0xBF, 3)
  else if 0xF1 ≤ b ∧ b ≤ 0xF3 then some (0x80, 0xBF, 3)
  else if b = 0xF4 then some (0x80, 0x8F, 3)
  else none

/-- Takes up to `count` continuation bytes, the first of them in `[low, high]`; gives the number
built from `value`, and whether all were there, with the bytes left. -/
def continuation : Nat → Nat → Nat → Nat → List UInt8 → Nat × Bool × List UInt8
  | 0, _, _, value, bytes => (value, true, bytes)
  | _ + 1, _, _, value, [] => (value, false, [])
  | count + 1, low, high, value, b :: bytes =>
    if low ≤ b.toNat ∧ b.toNat ≤ high then
      continuation count 0x80 0xBF (value * 64 + (b.toNat - 0x80)) bytes
    else (value, false, b :: bytes)

theorem length_continuation (count low high value : Nat) (bytes : List UInt8) :
    (continuation count low high value bytes).2.2.length ≤ bytes.length := by
  induction count generalizing low high value bytes with
  | zero => simp [continuation]
  | succ n ih =>
    cases bytes with
    | nil => simp [continuation]
    | cons b bytes =>
      simp only [continuation]
      split
      · exact Nat.le_succ_of_le (ih ..)
      · exact Nat.le_refl _

/-- Takes one character off the front, or `none` for a stretch that is none, with what is left. -/
def scan (b : UInt8) (bytes : List UInt8) : Option Char × List UInt8 :=
  if b.toNat < 0x80 then (some (Char.ofNat b.toNat), bytes)
  else match leadByte? b.toNat with
    | none => (none, bytes)
    | some (low, high, count) =>
      let first := b.toNat % Nat.pow 2 (6 - count)
      let (value, complete, rest) := continuation count low high first bytes
      (if complete then some (Char.ofNat value) else none, rest)

theorem length_scan (b : UInt8) (bytes : List UInt8) :
    (scan b bytes).2.length ≤ bytes.length := by
  unfold scan
  split
  · exact Nat.le_refl _
  · split
    · exact Nat.le_refl _
    · exact length_continuation ..

/-- The characters of the bytes, `none` where a stretch is no character. -/
def scanAll : List UInt8 → List (Option Char)
  | [] => []
  | b :: bytes =>
    (scan b bytes).1 :: scanAll (scan b bytes).2
termination_by bytes => bytes.length
decreasing_by exact Nat.lt_succ_of_le (length_scan ..)

/-- The text of well-formed bytes. -/
def decodeUtf8? (bytes : List UInt8) : Option String :=
  ((scanAll bytes).mapM id).map String.ofList

/-- The text of any bytes, with U+FFFD for what is not well-formed. -/
def decodeUtf8Lossy (bytes : List UInt8) : String :=
  String.ofList ((scanAll bytes).map (·.getD '\uFFFD'))

/-- The bytes of a text. -/
def encodeUtf8 (s : String) : List UInt8 := s.toUTF8.toList

end OpenSql.Text
