import MarkupLint.Text.CharName.Alias
import MarkupLint.Text.CharName.Alphabet
import MarkupLint.Text.CharName.Ancient
import MarkupLint.Text.CharName.Asian
import MarkupLint.Text.CharName.Picture
import MarkupLint.Text.CharName.Syllable
import MarkupLint.Text.CharName.Symbol
import MarkupLint.Text.Basic

/-!
Characters by their names in Unicode 14. Most names are kept in packed lists, where a name is told by how
many characters it shares with the name before it and by those that follow. The names of ideographs and
of Hangul syllables are made by rules.
-/

namespace MarkupLint.Text

/-! ### Packed lists -/

/-- What a lower-case letter adds to the number of shared characters. -/
def sharedBy (c : Char) : Nat := c.toNat - 'a'.toNat

/-- One more character at the start of packed names, each of which is a number of shared characters, as far
as it is read, and the characters that follow. Line feeds count for nothing. -/
def packChar (c : Char) (names : List (Option Nat × Text)) : List (Option Nat × Text) :=
  if c = '\n' then names
  else if c.isLower then
    match names with
    | (shared, name) :: later => (some (shared.getD 0 + sharedBy c), name) :: later
    | [] => []
  else
    match names with
    | (none, name) :: later => (none, c :: name) :: later
    | names => (none, [c]) :: names

/-- The names of consecutive codes from `code` on, where `previous` is the name before them. -/
def unpack : Nat → Text → List (Option Nat × Text) → List (Nat × Text)
  | _, _, [] => []
  | code, previous, (shared, rest) :: later =>
    let name := previous.take (shared.getD 0) ++ rest
    (code, name) :: unpack (code + 1) name later

/-- The number that upper-case hexadecimal digits write. -/
def hexNumber (digits : Text) : Nat :=
  digits.foldl (fun n c => 16 * n + (if c.isDigit then c.toNat - 48 else c.toNat - 55)) 0

/-- The names of a run, which starts with its first code in hexadecimal digits. -/
def runNames (run : Text) : List (Nat × Text) :=
  match run.foldr packChar [] with
  | (_, code) :: names => unpack (hexNumber code) [] names
  | [] => []

/-- The code of a name in a packed list, whose runs have a period before them. -/
def codeIn? (list : String) (name : Text) : Option Nat :=
  (splitOn (· = '.') list.toList).findSome? fun run =>
    ((runNames run).find? (·.2 == name)).map (·.1)

/-- The packed lists. -/
def nameLists : List String :=
  [alphabetNames, syllableNames, symbolNames, asianNames, ancientNames, pictureNames]

/-! ### Names by rules -/

/-- The rest of a text after the given start. -/
def afterStart? (start : String) (text : Text) : Option Text :=
  if start.toList.isPrefixOf text then some (text.drop start.length) else none

/-- Whether a character is a digit or one of the letters `A` to `F`. -/
def isUpperHex (c : Char) : Bool := c.isDigit || ('A' ≤ c && c ≤ 'F')

/-- Whether a code belongs to one of the runs. -/
def inRuns (runs : List (Nat × Nat)) (code : Nat) : Bool :=
  runs.any fun (first, last) => first ≤ code && code ≤ last

/-- The code that ends a name, in exactly the given numbers of digits, if it belongs to one of the runs. -/
def codeAtEnd? (widths : List Nat) (runs : List (Nat × Nat)) (digits : Text) : Option Nat :=
  if widths.contains digits.length ∧ digits.all isUpperHex ∧ inRuns runs (hexNumber digits) then
    some (hexNumber digits)
  else none

/-- The unified ideographs. -/
def unifiedRuns : List (Nat × Nat) :=
  [(0x3400, 0x4dbf), (0x4e00, 0x9fff), (0x20000, 0x2a6df), (0x2a700, 0x2b738), (0x2b740, 0x2b81d),
   (0x2b820, 0x2cea1), (0x2ceb0, 0x2ebe0), (0x30000, 0x3134a)]

/-- Starts of names that end in the code, with the numbers of digits of the code and the codes that have
such names. -/
def codedNames : List (String × List Nat × List (Nat × Nat)) :=
  [("CJK COMPATIBILITY IDEOGRAPH-", [4], [(0xf900, 0xfa6d), (0xfa70, 0xfad9)]),
   ("CJK COMPATIBILITY IDEOGRAPH-", [5], [(0x2f800, 0x2fa1d)]),
   ("KHITAN SMALL SCRIPT CHARACTER-", [5], [(0x18b00, 0x18cd5)]),
   ("NUSHU CHARACTER-", [5], [(0x1b170, 0x1b2fb)])]

/-- The code of a name that ends in the code. -/
def codedName? (name : Text) : Option Nat :=
  codedNames.findSome? fun (start, widths, runs) => (afterStart? start name).bind (codeAtEnd? widths runs)

/-- The number of a variation selector, as decimal digits write it. -/
def selectorCode? (digits : Text) : Option Nat :=
  (List.range 256).findSome? fun n =>
    if Nat.toDigits 10 (n + 1) = digits then some (if n < 16 then 0xfe00 + n else 0xe0100 + (n - 16))
    else none

/-- The consonants that a Hangul syllable may start with. -/
def firstSounds : List String :=
  ["G", "GG", "N", "D", "DD", "R", "M", "B", "BB", "S", "SS", "", "J", "JJ", "C", "K", "T", "P", "H"]

/-- The vowels of Hangul syllables. -/
def middleSounds : List String :=
  ["A", "AE", "YA", "YAE", "EO", "E", "YEO", "YE", "O", "WA", "WAE", "OE", "YO", "U", "WEO", "WE", "WI",
   "YU", "EU", "YI", "I"]

/-- The consonants that a Hangul syllable may end with. -/
def lastSounds : List String :=
  ["", "G", "GG", "GS", "N", "NJ", "NH", "D", "L", "LG", "LM", "LB", "LS", "LT", "LP", "LH", "M", "B",
   "BS", "S", "SS", "NG", "J", "C", "K", "T", "P", "H"]

/-- The longest sound that a text starts with, by its place in the list, and the rest. -/
def soundOf? (sounds : List String) (text : Text) : Option (Nat × Text) :=
  let fitting := sounds.zipIdx.filter fun (sound, _) => sound.toList.isPrefixOf text
  (fitting.foldl
    (fun (best : Option (String × Nat)) next =>
      match best with
      | some b => if b.1.length < next.1.length then some next else some b
      | none => some next)
    none).map fun (sound, place) => (place, text.drop sound.length)

/-- The code of the Hangul syllable of the given sounds. -/
def syllableCode? (text : Text) : Option Nat := do
  let (first, text) ← soundOf? firstSounds text
  let (middle, text) ← soundOf? middleSounds text
  let (last, text) ← soundOf? lastSounds text
  if text.isEmpty then some (0xac00 + (first * middleSounds.length + middle) * lastSounds.length + last)
  else none

/-! ### All names -/

/-- The greatest length of a name. -/
def maxNameLength : Nat := 256

/-- The code of a name in upper case that is made by no rule of its own. -/
def listedCode? (name : Text) : Option Nat :=
  ((afterStart? "VS" name).bind selectorCode?).or <|
    (codedName? name).or <|
      (aliasNames.lookup (String.ofList name)).or <|
        nameLists.findSome? (codeIn? · name)

/-- The code of the character of the given name. ASCII letters may be in lower case, save in the names of
unified ideographs and of Hangul syllables. -/
def codeNamed? (name : Text) : Option Nat :=
  match afterStart? "HANGUL SYLLABLE " name, afterStart? "CJK UNIFIED IDEOGRAPH-" name with
  | some sounds, _ => syllableCode? sounds
  | none, some digits => codeAtEnd? [4, 5] unifiedRuns digits
  | none, none => if maxNameLength < name.length then none else listedCode? (name.map Char.toUpper)

end MarkupLint.Text
