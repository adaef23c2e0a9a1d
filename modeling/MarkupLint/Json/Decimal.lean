/-!
Numbers with a fraction or an exponent. Such a number is kept as the nearest number with a significand
of 53 bits, and written with the fewest decimal digits that are nearest to it again.
-/

namespace MarkupLint

/-- The number `± significand * 2 ^ exponent`. -/
structure Decimal where
  /-- Whether the number has a minus sign. -/
  negative : Bool
  /-- The significand, below `2 ^ 53`. -/
  significand : Nat
  /-- The power of two. -/
  exponent : Int
deriving DecidableEq, Repr

namespace Decimal

/-- The quotient of two numbers, rounded to the nearest number, and to the even one of two. -/
def roundDiv (numerator denominator : Nat) : Nat :=
  let quotient := numerator / denominator
  let twice := 2 * (numerator % denominator)
  if denominator < twice || (twice == denominator && quotient % 2 == 1) then quotient + 1 else quotient

/-- The power of a base, which is one for an exponent that is not positive. -/
def power (base : Nat) (exponent : Int) : Nat := Nat.pow base exponent.toNat

/-- What a significand stays below. -/
def significandBound : Nat := 0x20000000000000

/-- The least power of two of a significand. -/
def leastExponent : Int := -1074

/-- The number nearest to `numerator / denominator`. -/
def nearest (negative : Bool) (numerator denominator : Nat) : Decimal :=
  let bits : Int := (numerator.log2 : Int) - denominator.log2
  let scale (e : Int) : Nat := roundDiv (numerator * power 2 (-e)) (denominator * power 2 e)
  let low := max (bits - 53) leastExponent
  let e := if scale low < significandBound then low else low + 1
  let m := scale e
  if m < significandBound then ⟨negative, m, e⟩ else ⟨negative, m / 2, e + 1⟩

/-- The number nearest to `digits * 10 ^ exponent`. -/
def ofScientific (negative : Bool) (digits : Nat) (exponent : Int) : Decimal :=
  nearest negative (digits * power 10 exponent) (power 10 (-exponent))

/-- Whether a number is too large for a significand of 53 bits and an exponent of 11. -/
def overflows (d : Decimal) : Bool := 971 < d.exponent

/-- The numerator and the denominator of the size of a number. -/
def fraction (d : Decimal) : Nat × Nat :=
  (d.significand * power 2 d.exponent, power 2 (-d.exponent))

/-- The multiples of a power of ten next to a number: below or at it, and the next one. -/
def neighbours (d : Decimal) (place : Int) : Nat × Nat :=
  let (n, m) := d.fraction
  let below := (n * power 10 (-place)) / (m * power 10 place)
  (below, below + 1)

/-- The distance of `digits * 10 ^ place` to a number, up to a common factor. -/
def distance (d : Decimal) (place : Int) (digits : Nat) : Nat :=
  let (n, m) := d.fraction
  let a := digits * power 10 place * m
  let b := n * power 10 (-place)
  (a - b) + (b - a)

/-- The multiple of `10 ^ place` that is nearest to a number, and the even one of two, if it is read back as
the number. -/
def digitsAt? (d : Decimal) (place : Int) : Option Nat :=
  let (below, above) := d.neighbours place
  let good (digits : Nat) : Bool := 0 < digits && ofScientific d.negative digits place == d
  match good below, good above with
  | true, true =>
    if d.distance place above < d.distance place below then some above
    else if d.distance place above = d.distance place below ∧ below % 2 = 1 then some above
    else some below
  | true, false => some below
  | false, true => some above
  | false, false => none

/-- The fewest digits that are read back as a number, from the power of ten `place` on downwards. -/
def shortestFrom (d : Decimal) : Nat → Int → Nat × Int
  | 0, place => ((d.neighbours place).1, place)
  | fuel + 1, place =>
    match d.digitsAt? place with
    | some digits => (digits, place)
    | none => shortestFrom d fuel (place - 1)

/-- The power of ten of the first digit of a positive number, or one more. -/
def magnitude (d : Decimal) : Int :=
  let (n, m) := d.fraction
  (Nat.toDigits 10 n).length - (Nat.toDigits 10 m).length + 1

/-! ### Writing -/

/-- How numbers are written. -/
structure Style where
  /-- The least power of ten of a first digit with which a number is written positionally. -/
  least : Int
  /-- The greatest such power of ten. -/
  greatest : Int
  /-- Whether a power of ten that is not negative has a sign. -/
  signed : Bool
  /-- The least number of digits of a power of ten. -/
  width : Nat
deriving DecidableEq, Repr

/-- Positional notation of digits, the first of which counts `10 ^ lead`; at least one place. -/
def positional (digits : List Char) (lead : Int) : List Char :=
  if lead < 0 then '0' :: '.' :: List.replicate (-lead - 1).toNat '0' ++ digits
  else
    let whole := lead.toNat + 1
    let padded := digits ++ List.replicate (whole - digits.length) '0'
    let places := padded.drop whole
    padded.take whole ++ '.' :: if places.isEmpty then ['0'] else places

/-- Scientific notation of digits, the first of which counts `10 ^ lead`. -/
def scientific (style : Style) (digits : List Char) (lead : Int) : List Char :=
  let exponent := Nat.toDigits 10 lead.natAbs
  let padded := List.replicate (style.width - exponent.length) '0' ++ exponent
  let sign := if lead < 0 then ['-'] else if style.signed then ['+'] else []
  let significand := match digits with
    | first :: second :: more => first :: '.' :: second :: more
    | one => one
  significand ++ 'e' :: sign ++ padded

/-- How a number is written in a style. -/
def render (style : Style) (d : Decimal) : String :=
  let sign := if d.negative then ['-'] else []
  if d.significand = 0 then String.ofList (sign ++ ['0', '.', '0'])
  else
    let (digits, place) := d.shortestFrom 20 d.magnitude
    let digits := Nat.toDigits 10 digits
    let lead := place + digits.length - 1
    let body := if style.least ≤ lead ∧ lead ≤ style.greatest then positional digits lead
      else scientific style digits lead
    String.ofList (sign ++ body)

end Decimal

end MarkupLint
