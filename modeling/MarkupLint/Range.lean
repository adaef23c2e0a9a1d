import MarkupLint.Text.Basic

/-!
Closed ranges of character offsets, the ordinary operations on a single range or a pair of ranges, the normal form of
a list of ranges, and the resizing of a range to a part of another one.
-/

namespace MarkupLint

/-- A non-empty run of offsets, both ends included. -/
structure Range where
  /-- The first offset. -/
  start : Nat
  /-- The last offset. -/
  stop : Nat
  /-- The last offset is not before the first one. -/
  start_le_stop : start ≤ stop
deriving DecidableEq, Repr

/-- Why two numbers do not bound a range. -/
inductive RangeError where
  /-- The first offset is negative. -/
  | negativeStart (start : Int)
  /-- The last offset comes before the first one. -/
  | reversed (start stop : Int)
deriving DecidableEq, Repr

/-- The wording of a range error. -/
def RangeError.message : RangeError → String
  | .negativeStart start => s!"Range.start must be >= 0, got {start}"
  | .reversed start stop => s!"Range.end ({stop}) must be >= start ({start})"

namespace Range

/-- The range with the given bounds, if they bound one. A negative start is reported first. -/
def ofBounds (start stop : Int) : Except RangeError Range :=
  if start < 0 then .error (.negativeStart start)
  else if h : stop < start then .error (.reversed start stop)
  else .ok ⟨start.toNat, stop.toNat, by omega⟩

/-- The range of the single offset `i`. -/
def single (i : Nat) : Range := ⟨i, i, Nat.le_refl i⟩

/-- The `size` offsets from `start` on, and `start` alone for no size. -/
def ofSize (start size : Nat) : Range := ⟨start, start + (size - 1), Nat.le_add_right _ _⟩

/-- The offsets of a text of the given length, if it has any. -/
def whole? (length : Nat) : Option Range :=
  if 0 < length then some (ofSize 0 length) else none

/-- The number of offsets in a range. -/
def size (r : Range) : Nat := r.stop - r.start + 1

/-- Whether the offset `i` lies in the range. -/
def contains (r : Range) (i : Int) : Bool := r.start ≤ i ∧ i ≤ r.stop

/-- Whether two ranges share an offset. -/
def overlaps (r q : Range) : Bool := r.start ≤ q.stop ∧ q.start ≤ r.stop

/-- The common part of two ranges, if they share an offset. -/
def intersect (r q : Range) : Option Range :=
  if h : r.start ≤ q.stop ∧ q.start ≤ r.stop then
    some ⟨max r.start q.start, min r.stop q.stop, by
      have := r.start_le_stop
      have := q.start_le_stop
      omega⟩
  else none

/-- The range moved by a signed distance, if it does not leave the offsets. -/
def shift (r : Range) (distance : Int) : Except RangeError Range :=
  ofBounds (r.start + distance) (r.stop + distance)

/-- Ranges are ordered by their start, then by their stop. -/
def compare (r q : Range) : Ordering :=
  (Ord.compare r.start q.start).then (Ord.compare r.stop q.stop)

/-- Whether a range comes no later than another one. -/
def le (r q : Range) : Bool := r.start < q.start ∨ (r.start = q.start ∧ r.stop ≤ q.stop)

/-- How a range is written. -/
def render (r : Range) : String := s!"[{r.start},{r.stop}]"

/-! ### Lists of ranges

A list of ranges stands for a set of offsets. In its normal form, ranges are sorted and separated by gaps. -/

/-- Adds a range to a list of ranges in normal form, newest first, none of which starts after it.
A range that overlaps or touches the newest one is merged with it. -/
def absorb (merged : List Range) (r : Range) : List Range :=
  match merged with
  | [] => [r]
  | last :: before =>
    if r.start ≤ last.stop + 1 then
      if h : last.stop < r.stop then
        ⟨last.start, r.stop, by
          have := last.start_le_stop
          omega⟩ :: before
      else last :: before
    else r :: last :: before

/-- The normal form of a list of ranges: the same offsets, as sorted ranges with gaps between them. -/
def normalize (ranges : List Range) : List Range :=
  ((ranges.mergeSort le).foldl absorb []).reverse

/-- The smallest range that includes two given ones. -/
def hull (r q : Range) : Range :=
  ⟨min r.start q.start, max r.stop q.stop, by
    have := r.start_le_stop
    omega⟩

/-- The smallest range that includes every range of the list, if there is any. -/
def unite : List Range → Option Range
  | [] => none
  | r :: ranges => some (ranges.foldl hull r)

/-! ### Resizing

When a range is associated with a counterpart of another size and one of its parts is asked for, the part is
carried over in proportion: each end of the counterpart moves by the displacement of the matching end, scaled by the
ratio of the sizes and rounded down. -/

/-- The distance `moved` along `whole`, scaled to `counterpart` and rounded down. -/
def scaled (whole counterpart : Range) (moved : Int) : Int :=
  Int.fdiv (moved * counterpart.size) whole.size

/-- The first offset of the resized counterpart, never past the counterpart's end. An end that did not
move is kept. -/
def resizedStart (whole part counterpart : Range) : Int :=
  min (counterpart.start + scaled whole counterpart ((part.start : Int) - whole.start))
    counterpart.stop

/-- The last offset of the resized counterpart, never before its first one. -/
def resizedStop (whole part counterpart : Range) : Int :=
  max (counterpart.stop - scaled whole counterpart ((whole.stop : Int) - part.stop))
    (resizedStart whole part counterpart)

/-- Carries the step from `whole` to its part `part` over to `counterpart`. -/
def resize (whole part counterpart : Range) : Range :=
  ⟨(resizedStart whole part counterpart).toNat, (resizedStop whole part counterpart).toNat, by
    have : resizedStart whole part counterpart ≤ resizedStop whole part counterpart :=
      Int.le_max_right _ _
    omega⟩

/-- The same for any two ranges: a part that reaches outside of `whole` may ask for offsets before
the first one, which is an error. -/
def resize? (whole part counterpart : Range) : Except RangeError Range :=
  ofBounds (resizedStart whole part counterpart) (resizedStop whole part counterpart)

end Range

end MarkupLint
