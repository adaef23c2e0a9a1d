import MarkupLint.Range

/-!
Mappings between the offsets of an input text and the offsets of an output text. A mapping is a list of
pairs of ranges; output characters that no pair covers come from nowhere in the input. A mapping is
asked in both directions, and mappings of consecutive steps are composed into one.
-/

namespace MarkupLint

/-- An association between a range of the input and a range of the output. -/
structure Pair where
  /-- The range of the input. -/
  input : Range
  /-- The range of the output. -/
  output : Range
deriving DecidableEq, Repr

namespace Pair

/-- The pair that starts at the given offsets and has the given sizes; nothing when a size is zero. -/
def ofSizes (inStart inSize outStart outSize : Nat) : List Pair :=
  if 0 < inSize ∧ 0 < outSize then [⟨.ofSize inStart inSize, .ofSize outStart outSize⟩] else []

/-- The pair that copies `size` characters; nothing when there is none to copy. -/
def copy (inStart outStart size : Nat) : List Pair :=
  ofSizes inStart size outStart size

/-- The pair with its input moved. -/
def shift (p : Pair) (distance : Int) : Except RangeError Pair :=
  (p.input.shift distance).map fun input => { p with input }

/-- How a pair is written. -/
def render (p : Pair) : String := s!"{p.input.render}->{p.output.render}"

/-- Pairs are ordered by their output, then by their input. -/
def le (p q : Pair) : Bool :=
  if p.output = q.output then p.input.le q.input else p.output.le q.output

/-- The part of the input that goes with the part of the output inside `r`, if there is any. -/
def toInput (p : Pair) (r : Range) : Option Range :=
  (p.output.intersect r).map fun part => p.output.resize part p.input

/-- The part of the output that goes with the part of the input inside `r`, if there is any. -/
def toOutput (p : Pair) (r : Range) : Option Range :=
  (p.input.intersect r).map fun part => p.input.resize part p.output

/-- The association that a pair of a first step and a pair of a second step make together, through the
characters that the one puts out and the other takes in. -/
def compose (first second : Pair) : Option Pair :=
  (first.output.intersect second.input).map fun common =>
    ⟨first.output.resize common first.input, second.input.resize common second.output⟩

end Pair

/-- A mapping: its pairs, in the order in which they were recorded. -/
structure Mapping where
  /-- The pairs. -/
  pairs : List Pair
deriving DecidableEq, Repr

namespace Mapping

/-- The mapping that associates nothing. -/
def empty : Mapping := ⟨[]⟩

/-- The mapping of a text of the given length onto itself. -/
def identity (length : Nat) : Mapping := ⟨Pair.copy 0 0 length⟩

/-- The input ranges that the output range `r` comes from, in normal form. -/
def toInput (m : Mapping) (r : Range) : List Range :=
  Range.normalize (m.pairs.filterMap (·.toInput r))

/-- The output ranges that come from the input range `r`, in normal form. -/
def toOutput (m : Mapping) (r : Range) : List Range :=
  Range.normalize (m.pairs.filterMap (·.toOutput r))

/-- Whether no output offset belongs to two pairs. -/
def disjointOutputs (m : Mapping) : Bool :=
  let outputs := (m.pairs.map (·.output)).mergeSort Range.le
  (outputs.zip outputs.tail).all fun (r, q) => r.stop < q.start

/-- The mapping with every input moved. -/
def shift (m : Mapping) (distance : Int) : Except RangeError Mapping := do
  return ⟨← m.pairs.mapM (·.shift distance)⟩

/-- The mapping from the input of `first` to the output of `second`, whose input is the output of
`first`: every pair of the one with every pair of the other, in the order of the outputs. -/
def compose (first second : Mapping) : Mapping :=
  ⟨(second.pairs.flatMap fun b => first.pairs.filterMap (·.compose b)).mergeSort Pair.le⟩

/-- The mapping of a chain of steps, composed from the left; there is none for no step. -/
def composeAll : List Mapping → Option Mapping
  | [] => none
  | m :: later => some (later.foldl compose m)

/-- The ranges of the first input of a chain that `r`, a range of its last output, comes from. -/
def crawlBackward (chain : List Mapping) (r : Range) : List Range :=
  match composeAll chain with
  | none => [r]
  | some m => m.toInput r

/-- The ranges of the last output of a chain that come from `r`, a range of its first input. -/
def crawlForward (chain : List Mapping) (r : Range) : List Range :=
  match composeAll chain with
  | none => [r]
  | some m => m.toOutput r

end Mapping

end MarkupLint
