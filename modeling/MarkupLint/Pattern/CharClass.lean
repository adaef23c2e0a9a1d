import MarkupLint.Text.Case
import MarkupLint.Text.Word

/-!
Classes of characters, the single-character tests of a pattern: characters, runs of codes and the
categories of digits, blanks and word characters, possibly complemented, with or without regard to case.
-/

namespace MarkupLint.Pattern

/-- Which characters have a category and a case. -/
inductive Alphabet where
  /-- Those of ASCII. -/
  | ascii
  /-- All. -/
  | unicode
deriving DecidableEq, Repr

namespace Alphabet

/-- The code of the lower case of a code, which is the code itself outside of the alphabet. -/
def lowerCode : Alphabet → Nat → Nat
  | ascii, code => if Text.asciiRun.holds code then code + 32 else code
  | unicode, code => Text.lowerCode code

/-- The codes that are alike to a code but for case. -/
def alike : Alphabet → Nat → List Nat
  | ascii, code =>
    let base := lowerCode ascii code
    base :: (Text.asciiRun.upper? base).toList
  | unicode, code => Text.alike code

end Alphabet

/-- A named category of characters. -/
inductive Category where
  /-- The decimal digits. -/
  | digit
  /-- The blanks. -/
  | blank
  /-- The characters of words. -/
  | word
deriving DecidableEq, Repr

/-- Whether a character belongs to a category. -/
def Category.holds : Category → Alphabet → Char → Bool
  | digit, .unicode, c => Text.isDigit c
  | digit, .ascii, c => c.isDigit
  | blank, .unicode, c => Text.isBlank c
  | blank, .ascii, c => c == ' ' || ('\t' ≤ c && c ≤ '\r')
  | word, .unicode, c => Text.isWord c
  | word, .ascii, c => Text.isAsciiWord c

/-- A member of a character class. -/
inductive ClassItem where
  /-- A single code. -/
  | char (code : Nat)
  /-- The codes `first`, …, `last`. -/
  | codes (first last : Nat)
  /-- A category, or all characters outside of it. -/
  | category (kind : Category) (negated : Bool)
deriving DecidableEq, Repr

/-- The last code of the basic plane. -/
def lastBasicCode : Nat := 0xffff

namespace ClassItem

/-- Whether a character belongs to an item. -/
def holds (a : Alphabet) : ClassItem → Char → Bool
  | char code, c => c.toNat == code
  | codes first last, c => first ≤ c.toNat && c.toNat ≤ last
  | category kind negated, c => kind.holds a c != negated

/-- Whether a character belongs to an item when case is ignored. Beyond the basic plane a single code is
that of a lower case, and the end of a run makes it a run for all alphabets. -/
def holdsFolded (a : Alphabet) : ClassItem → Char → Bool
  | char code, c =>
    if code ≤ lastBasicCode then (a.alike c.toNat).contains code else a.lowerCode c.toNat == code
  | codes first last, c =>
    let base := a.lowerCode c.toNat
    let candidates :=
      if a = .ascii ∧ lastBasicCode < last then [base, Text.upperCode base] else a.alike c.toNat
    candidates.any fun code => first ≤ code && code ≤ last
  | category kind negated, c => kind.holds a c != negated

end ClassItem

/-- A class of characters: those that belong to some item, or those that belong to none. -/
structure CharClass where
  /-- The items. -/
  items : List ClassItem
  /-- Whether the class is the complement. -/
  negated : Bool
  /-- The characters of its categories. -/
  alphabet : Alphabet
  /-- Whether case is ignored. -/
  ignoreCase : Bool
deriving DecidableEq, Repr

namespace CharClass

/-- The class with the given items. A lone code stands for its lower case when case is ignored. -/
def ofItems (items : List ClassItem) (negated : Bool) (a : Alphabet) (ignoreCase : Bool) : CharClass :=
  match items, ignoreCase with
  | [.char code], true => ⟨[.char (a.lowerCode code)], negated, a, true⟩
  | items, ignoreCase => ⟨items, negated, a, ignoreCase⟩

/-- All characters. -/
def all : CharClass := ⟨[], true, .unicode, false⟩

/-- All characters but the line feed. -/
def allButLineFeed : CharClass := ⟨[.char '\n'.toNat], true, .unicode, false⟩

/-- Whether a character belongs to a class. -/
def holds (k : CharClass) (c : Char) : Bool :=
  (if k.ignoreCase then k.items.any (·.holdsFolded k.alphabet c)
    else k.items.any (·.holds k.alphabet c)) != k.negated

end CharClass

end MarkupLint.Pattern
