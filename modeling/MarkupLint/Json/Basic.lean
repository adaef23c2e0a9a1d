import MarkupLint.Json.Decimal
import MarkupLint.Text.Quoted

/-!
JSON values. Objects keep the order of their keys.
-/

namespace MarkupLint

/-- What stands for a number that is none of the finite ones. -/
inductive NonFinite where
  | infinity
  | minusInfinity
  | notANumber
deriving DecidableEq, Repr

/-- What is no finite number, as messages show it. -/
def NonFinite.describe : NonFinite → String
  | infinity => "inf"
  | minusInfinity => "-inf"
  | notANumber => "nan"

/-- A JSON value. -/
inductive Json where
  | null
  | bool (b : Bool)
  | int (n : Int)
  | real (d : Decimal)
  | nonFinite (x : NonFinite)
  | str (s : String)
  | arr (items : List Json)
  | obj (fields : List (String × Json))

namespace Json

/-- The field of the given key, if the value is an object that has it. -/
def field? (v : Json) (key : String) : Option Json :=
  match v with
  | obj fields => fields.lookup key
  | _ => none

/-- The fields with one more. A key that is there already keeps its place and gets the new value. -/
def insertField (fields : List (String × Json)) (key : String) (value : Json) : List (String × Json) :=
  if fields.any (·.1 == key) then fields.map fun f => if f.1 == key then (key, value) else f
  else fields ++ [(key, value)]

/-- A text as a JSON string. -/
def ofText (text : Text) : Json := str (String.ofList text)

/-! ### Writing -/

/-- Numbers are written positionally from `0.00001` on and below `10 ^ 16`, and powers of ten as they are. -/
def numberStyle : Decimal.Style := ⟨-5, 15, false, 1⟩

/-- How a character is written in a string. -/
def writeChar (c : Char) : List Char :=
  if c == '"' || c == '\\' then ['\\', c]
  else if c == '\n' then ['\\', 'n']
  else if c == '\r' then ['\\', 'r']
  else if c == '\t' then ['\\', 't']
  else if c == '\x08' then ['\\', 'b']
  else if c == '\x0c' then ['\\', 'f']
  else if c.toNat < 0x20 then '\\' :: 'u' :: Text.hexDigits 4 c.toNat
  else [c]

/-- How a string is written. -/
def writeString (s : String) : String :=
  if s.any fun c => c == '"' || c == '\\' || c.toNat < 0x20 then
    "\"" ++ String.ofList (s.toList.flatMap writeChar) ++ "\""
  else "\"" ++ s ++ "\""

/-- A line break and the indentation of a depth. -/
def breakLine (depth : Nat) : String := "\n" ++ String.ofList (List.replicate (2 * depth) ' ')

/-- Items between brackets; on lines of their own, indented, when `pretty`. -/
def bracket (pretty : Bool) (depth : Nat) (opening closing : String) (items : List String) : String :=
  if items.isEmpty then opening ++ closing
  else if pretty then
    opening ++ breakLine (depth + 1) ++ String.intercalate ("," ++ breakLine (depth + 1)) items ++
      breakLine depth ++ closing
  else opening ++ String.intercalate "," items ++ closing

mutual

/-- A value that is written at the given depth. What is no finite number is written as `null`. -/
def writeAt (pretty : Bool) (depth : Nat) : Json → String
  | null => "null"
  | bool b => if b then "true" else "false"
  | int n => toString n
  | real d => d.render numberStyle
  | nonFinite _ => "null"
  | str s => writeString s
  | arr items => bracket pretty depth "[" "]" (writeItems pretty (depth + 1) items)
  | obj fields => bracket pretty depth "\x7b" "\x7d" (writeFields pretty (depth + 1) fields)

/-- The items of an array. -/
def writeItems (pretty : Bool) (depth : Nat) : List Json → List String
  | [] => []
  | v :: more => writeAt pretty depth v :: writeItems pretty depth more

/-- The fields of an object. -/
def writeFields (pretty : Bool) (depth : Nat) : List (String × Json) → List String
  | [] => []
  | (key, v) :: more =>
    (writeString key ++ (if pretty then ": " else ":") ++ writeAt pretty depth v) ::
      writeFields pretty depth more

end

/-- A value on one line, without spaces. -/
def compact (v : Json) : String := v.writeAt false 0

/-- A value on several lines, indented by two spaces. -/
def pretty (v : Json) : String := v.writeAt true 0

/-! ### What cannot be written -/

/-- Why a value cannot be written. -/
inductive WriteError where
  /-- A whole number does not fit into 64 bits, signed or not. -/
  | largeInteger
  /-- Arrays and objects are nested too deeply. -/
  | tooDeep
deriving DecidableEq, Repr

/-- The wording of a write error. -/
def WriteError.message : WriteError → String
  | largeInteger => "Integer exceeds 64-bit range"
  | tooDeep => "Recursion limit reached"

/-- Whether a whole number fits into 64 bits, signed or not. -/
def fitsWord (n : Int) : Bool := -0x8000000000000000 ≤ n && n < 0x10000000000000000

/-- The depth at which an array or an object is nested too deeply. -/
def depthLimit : Nat := 255

mutual

/-- Refuses a value that is nested in `depth` arrays and objects and cannot be written. An array without
items is written at any depth. -/
def checkAt (depth : Nat) : Json → Except WriteError Unit
  | int n => if fitsWord n then .ok () else .error .largeInteger
  | arr [] => .ok ()
  | arr items => if depthLimit ≤ depth + 1 then .error .tooDeep else checkItems (depth + 1) items
  | obj fields => if depthLimit ≤ depth + 1 then .error .tooDeep else checkFields (depth + 1) fields
  | null | bool _ | real _ | nonFinite _ | str _ => .ok ()

/-- Refuses items of which one cannot be written. -/
def checkItems (depth : Nat) : List Json → Except WriteError Unit
  | [] => .ok ()
  | v :: more => do
    checkAt depth v
    checkItems depth more

/-- Refuses fields of which one cannot be written. -/
def checkFields (depth : Nat) : List (String × Json) → Except WriteError Unit
  | [] => .ok ()
  | (_, v) :: more => do
    checkAt depth v
    checkFields depth more

end

/-- A value, on several lines or on one, if it can be written. -/
def write (onLines : Bool) (v : Json) : Except WriteError String := do
  v.checkAt 0
  return if onLines then v.pretty else v.compact

/-! ### Describing a value in a message -/

/-- In messages, numbers are written positionally from `0.0001` on and below `10 ^ 16`, and powers of ten have
a sign and two digits at least. -/
def messageStyle : Decimal.Style := ⟨-4, 15, true, 2⟩

mutual

/-- A value as messages show it. -/
def describe : Json → String
  | null => "None"
  | bool b => if b then "True" else "False"
  | int n => toString n
  | real d => d.render messageStyle
  | nonFinite x => x.describe
  | str s => Text.quoted s.toList
  | arr items => "[" ++ String.intercalate ", " (describeItems items) ++ "]"
  | obj fields => "\x7b" ++ String.intercalate ", " (describeFields fields) ++ "\x7d"

/-- The items of an array as messages show them. -/
def describeItems : List Json → List String
  | [] => []
  | v :: more => describe v :: describeItems more

/-- The fields of an object as messages show them. -/
def describeFields : List (String × Json) → List String
  | [] => []
  | (key, v) :: more => (Text.quoted key.toList ++ ": " ++ describe v) :: describeFields more

end

end Json

end MarkupLint
