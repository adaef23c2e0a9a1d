import MarkupLint.Text.Basic

/-!
Decimal digits of all scripts of Unicode 14, and whole numbers as people write them: blanks around the number,
a sign before it and single underscores between its digits are passed over. The number of digits is limited.
-/

namespace MarkupLint.Text

/-! ### Digits -/

/-- The decimal digits. Every run of the table starts with a zero and counts up, over and over. -/
def digitTable : List Nat :=
  [0x30, 0x3a, 0x660, 0x66a, 0x6f0, 0x6fa, 0x7c0, 0x7ca, 0x966, 0x970, 0x9e6, 0x9f0, 0xa66, 0xa70,
   0xae6, 0xaf0, 0xb66, 0xb70, 0xbe6, 0xbf0, 0xc66, 0xc70, 0xce6, 0xcf0, 0xd66, 0xd70, 0xde6,
   0xdf0, 0xe50, 0xe5a, 0xed0, 0xeda, 0xf20, 0xf2a, 0x1040, 0x104a, 0x1090, 0x109a, 0x17e0,
   0x17ea, 0x1810, 0x181a, 0x1946, 0x1950, 0x19d0, 0x19da, 0x1a80, 0x1a8a, 0x1a90, 0x1a9a, 0x1b50,
   0x1b5a, 0x1bb0, 0x1bba, 0x1c40, 0x1c4a, 0x1c50, 0x1c5a, 0xa620, 0xa62a, 0xa8d0, 0xa8da, 0xa900,
   0xa90a, 0xa9d0, 0xa9da, 0xa9f0, 0xa9fa, 0xaa50, 0xaa5a, 0xabf0, 0xabfa, 0xff10, 0xff1a,
   0x104a0, 0x104aa, 0x10d30, 0x10d3a, 0x11066, 0x11070, 0x110f0, 0x110fa, 0x11136, 0x11140,
   0x111d0, 0x111da, 0x112f0, 0x112fa, 0x11450, 0x1145a, 0x114d0, 0x114da, 0x11650, 0x1165a,
   0x116c0, 0x116ca, 0x11730, 0x1173a, 0x118e0, 0x118ea, 0x11950, 0x1195a, 0x11c50, 0x11c5a,
   0x11d50, 0x11d5a, 0x11da0, 0x11daa, 0x16a60, 0x16a6a, 0x16ac0, 0x16aca, 0x16b50, 0x16b5a,
   0x1d7ce, 0x1d800, 0x1e140, 0x1e14a, 0x1e2f0, 0x1e2fa, 0x1e950, 0x1e95a, 0x1fbf0, 0x1fbfa]

/-- The start of the last run of a table that starts at or before `code`, `found` so far. -/
def runStart (code : Nat) (found : Nat) : List Nat → Nat
  | start :: _ :: later => if code < start then found else runStart code start later
  | _ => found

/-- Whether a character is a decimal digit. -/
def isDigit (c : Char) : Bool :=
  if c.toNat < 128 then c.isDigit else inTable digitTable c.toNat

/-- The value of a decimal digit. -/
def digitValue (c : Char) : Nat :=
  (c.toNat - runStart c.toNat 0 digitTable) % 10

/-- The number that a run of decimal digits writes. -/
def number (digits : List Char) : Nat :=
  digits.foldl (fun n c => 10 * n + digitValue c) 0

/-! ### Whole numbers -/

/-- The greatest number of digits of a whole number. -/
def maxDigits : Nat := 4300

/-- The complaint about a number of more digits than are allowed. -/
def digitsMessage (count : Nat) : String :=
  s!"Exceeds the limit ({maxDigits} digits) for integer string conversion: value has {count} digits; " ++
    "use sys.set_int_max_str_digits() to increase the limit"

/-- Whether a character may stand before and after a number. The separators U+001C to U+001F are blanks that
may not. -/
def isMargin (c : Char) : Bool := isBlank c && !(0x1c ≤ c.toNat && c.toNat ≤ 0x1f)

/-- Removes single underscores between the digits of a number; nothing when other characters are there. -/
def dropUnderscores : Text → Option Text
  | [] => some []
  | [c] => if isDigit c then some [c] else none
  | c :: '_' :: d :: rest =>
    if isDigit c ∧ isDigit d then (dropUnderscores (d :: rest)).map (c :: ·) else none
  | c :: rest => if isDigit c then (dropUnderscores rest).map (c :: ·) else none

/-- The number that digits with underscores between them write. -/
def natural? (digits : Text) : Option Nat := do
  let digits ← if digits.isEmpty then none else dropUnderscores digits
  if maxDigits < digits.length then none else some (number digits)

/-- The whole number that a text writes. -/
def integer? (text : Text) : Option Int :=
  match dropEndWhile (text.dropWhile isMargin) isMargin with
  | '+' :: digits => (natural? digits).map Int.ofNat
  | '-' :: digits => (natural? digits).map fun n => -n
  | digits => (natural? digits).map Int.ofNat

end MarkupLint.Text
