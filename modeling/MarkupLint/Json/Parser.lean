import MarkupLint.Json.Basic

/-!
Reading JSON: one value, with nothing but white space around it.
-/

namespace MarkupLint.Json

/-- The text without the white space at its start. -/
def skipSpace (text : Text) : Text :=
  text.dropWhile fun c => c == ' ' || c == '\t' || c == '\n' || c == '\r'

/-- The value of a hexadecimal digit. -/
def hexValue? (c : Char) : Option Nat :=
  if c.isDigit then some (c.toNat - 48)
  else if 'a' ≤ c && c ≤ 'f' then some (c.toNat - 87)
  else if 'A' ≤ c && c ≤ 'F' then some (c.toNat - 55)
  else none

/-- The number of four hexadecimal digits. -/
def hexCode : Text → Option (Nat × Text)
  | a :: b :: c :: d :: rest => do
    return ((((← hexValue? a) * 16 + (← hexValue? b)) * 16 + (← hexValue? c)) * 16 + (← hexValue? d), rest)
  | _ => none

/-- The character of an escape with a code. A code of the upper half of a pair must be followed by one of
the lower half. -/
def codeEscape (text : Text) : Option (Char × Text) := do
  let (high, rest) ← hexCode text
  if high < 0xd800 ∨ 0xdfff < high then return (Char.ofNat high, rest)
  if 0xdc00 ≤ high then none
  match rest with
  | '\\' :: 'u' :: rest =>
    let (low, rest) ← hexCode rest
    if low < 0xdc00 ∨ 0xdfff < low then none
    return (Char.ofNat (0x10000 + (high - 0xd800) * 0x400 + (low - 0xdc00)), rest)
  | _ => none

/-- The character of an escape, from after the backslash. -/
def escape : Text → Option (Char × Text)
  | '"' :: rest => some ('"', rest)
  | '\\' :: rest => some ('\\', rest)
  | '/' :: rest => some ('/', rest)
  | 'b' :: rest => some ('\x08', rest)
  | 'f' :: rest => some ('\x0c', rest)
  | 'n' :: rest => some ('\n', rest)
  | 'r' :: rest => some ('\r', rest)
  | 't' :: rest => some ('\t', rest)
  | 'u' :: rest => codeEscape rest
  | _ => none

/-- The characters of a string up to the closing quote; those read are in `done`, last first. -/
def stringFrom : Nat → Text → Text → Option (String × Text)
  | 0, _, _ => none
  | _ + 1, _, [] => none
  | fuel + 1, done, c :: rest =>
    if c == '"' then some (String.ofList done.reverse, rest)
    else if c == '\\' then
      match escape rest with
      | some (e, rest) => stringFrom fuel (e :: done) rest
      | none => none
    else if c.toNat < 0x20 then none
    else stringFrom fuel (c :: done) rest

/-! ### Numbers -/

/-- The digits at the start of a text, and the rest. -/
def digits (text : Text) : Text × Text := (text.takeWhile Char.isDigit, text.dropWhile Char.isDigit)

/-- The number that decimal digits write. -/
def value (digits : Text) : Nat := digits.foldl (fun n c => 10 * n + (c.toNat - 48)) 0

/-- The digits after a point, if there is a point; then there must be digits. -/
def places : Text → Option (Option Text × Text)
  | '.' :: text =>
    let (found, rest) := digits text
    if found.isEmpty then none else some (some found, rest)
  | text => some (none, text)

/-- A minus sign or a plus sign, if there is one. -/
def sign : Text → Bool × Text
  | '-' :: rest => (true, rest)
  | '+' :: rest => (false, rest)
  | rest => (false, rest)

/-- The power of ten after the letter `e`, if there is the letter; then there must be digits. -/
def power (text : Text) : Option (Option Int × Text) :=
  match text with
  | 'e' :: text | 'E' :: text =>
    let (negative, text) := sign text
    let (found, rest) := digits text
    if found.isEmpty then none
    else some (some (if negative then -(value found : Int) else value found), rest)
  | text => some (none, text)

/-- The number nearest to `digits * 10 ^ power`, unless it is too large. -/
def real? (negative : Bool) (digits : Nat) (power : Int) : Option Json :=
  let d : Decimal :=
    if digits = 0 ∨ power < -5000 then ⟨negative, 0, 0⟩
    else .ofScientific negative digits (min power 5000)
  if d.overflows then none else some (.real d)

/-- What readers of JSON differ in. -/
structure Dialect where
  /-- Whether all whole numbers are kept exactly. If not, those that do not fit into 64 bits, signed or not,
  become the nearest numbers with a fraction. -/
  exactIntegers : Bool
  /-- Whether there are words for what is no finite number. -/
  nonFinite : Bool
  /-- The greatest number of arrays and objects inside each other, if there is one. -/
  maxDepth : Option Nat
deriving DecidableEq, Repr

/-- The dialect of files. -/
def Dialect.strict : Dialect := ⟨false, false, some 1024⟩

/-- The dialect that takes the most. -/
def Dialect.lenient : Dialect := ⟨true, true, none⟩

/-- A number. -/
def number (t : Dialect) (text : Text) : Option (Json × Text) := do
  let (negative, rest) := match text with
    | '-' :: rest => (true, rest)
    | rest => (false, rest)
  let (whole, rest) := digits rest
  if whole.isEmpty ∨ (1 < whole.length ∧ whole.head? = some '0') then none
  let (fraction, rest) ← places rest
  let (exponent, rest) ← power rest
  let n : Int := if negative then -(value whole : Int) else value whole
  if fraction.isNone ∧ exponent.isNone ∧ (t.exactIntegers ∨ fitsWord n) then return (.int n, rest)
  let fraction := fraction.getD []
  return (← real? negative (value (whole ++ fraction)) (exponent.getD 0 - fraction.length), rest)

/-- The rest of a text after a word at its start. -/
def word? (word : String) (text : Text) : Option Text :=
  if word.toList.isPrefixOf text then some (text.drop word.length) else none

/-- A word for a value, if the text starts with one. -/
def wordValue? (t : Dialect) (text : Text) : Option (Json × Text) :=
  let plain : List (String × Json) := [("true", .bool true), ("false", .bool false), ("null", .null)]
  let more : List (String × Json) :=
    [("Infinity", .nonFinite .infinity), ("-Infinity", .nonFinite .minusInfinity),
     ("NaN", .nonFinite .notANumber)]
  (plain ++ if t.nonFinite then more else []).findSome? fun (word, v) =>
    (word? word text).map fun rest => (v, rest)

/-! ### Values -/

mutual

/-- A value, from its first character on; `depth` arrays and objects may still be opened inside each other,
and `fuel` bounds the number of steps. -/
def valueFrom (t : Dialect) : Nat → Nat → Text → Option (Json × Text)
  | 0, _, _ => none
  | fuel + 1, depth, text =>
    match text with
    | '\x7b' :: rest =>
      if depth = 0 then none
      else
        match skipSpace rest with
        | '\x7d' :: rest => some (.obj [], rest)
        | rest => fieldsFrom t fuel (depth - 1) [] rest
    | '[' :: rest =>
      if depth = 0 then none
      else
        match skipSpace rest with
        | ']' :: rest => some (.arr [], rest)
        | rest => itemsFrom t fuel (depth - 1) [] rest
    | '"' :: rest => (stringFrom (rest.length + 1) [] rest).map fun (s, rest) => (.str s, rest)
    | text => (wordValue? t text).or (number t text)

/-- The items of an array from one of them on; those read are in `done`, last first. -/
def itemsFrom (t : Dialect) : Nat → Nat → List Json → Text → Option (Json × Text)
  | 0, _, _, _ => none
  | fuel + 1, depth, done, text =>
    match valueFrom t fuel depth text with
    | none => none
    | some (v, rest) =>
      match skipSpace rest with
      | ',' :: rest => itemsFrom t fuel depth (v :: done) (skipSpace rest)
      | ']' :: rest => some (.arr (v :: done).reverse, rest)
      | _ => none

/-- The fields of an object from one of them on; those read are in `done`. -/
def fieldsFrom (t : Dialect) : Nat → Nat → List (String × Json) → Text → Option (Json × Text)
  | 0, _, _, _ => none
  | fuel + 1, depth, done, text =>
    match text with
    | '"' :: rest =>
      match stringFrom (rest.length + 1) [] rest with
      | none => none
      | some (key, rest) =>
        match skipSpace rest with
        | ':' :: rest =>
          match valueFrom t fuel depth (skipSpace rest) with
          | none => none
          | some (v, rest) =>
            match skipSpace rest with
            | ',' :: rest => fieldsFrom t fuel depth (insertField done key v) (skipSpace rest)
            | '\x7d' :: rest => some (.obj (insertField done key v), rest)
            | _ => none
        | _ => none
    | _ => none

end

/-- The value that a text writes in a dialect. -/
def parseWith (t : Dialect) (text : Text) : Option Json :=
  match valueFrom t (2 * text.length + 2) (t.maxDepth.getD text.length) (skipSpace text) with
  | some (v, rest) => if (skipSpace rest).isEmpty then some v else none
  | none => none

/-- The value that a text writes. -/
def parse (text : Text) : Option Json := parseWith .strict text

end MarkupLint.Json
