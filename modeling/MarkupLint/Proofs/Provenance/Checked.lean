import Mathlib
import MarkupLint.Proofs.Edit.Accounting
import MarkupLint.Proofs.Provenance.Queries
import MarkupLint.Proofs.Provenance.Tracking

/-!
# Bounds that are checked

The operations on ranges know that the bounds they compute bound a range.  `Checked` has the same operations over
integers, and each range that they make goes through `Range.ofBounds`, which fails if the bounds are not in order or
if the first one is negative.

* `Checked.mapping_eq`: an edit makes its mapping without such a failure;
* `Checked.composed_eq`, `Checked.toInput_eq` and those after them: so do all questions about where characters come
  from, for every range and every position, however far outside of the texts;
* `Document.Reached.output_lt`: what edits lead to lies in the current text, shifts or not.

`checked_answers` has all of this in one statement, together with the form of the answers.
-/

namespace MarkupLint

open Range (Covers Separated ofBounds_eq ofBounds_ofSize resize?_eq)

/-- Why an edit or a question ends without a result. -/
inductive Fault where
  /-- A replacement text cannot be made. -/
  | replacement (e : ReplacementError)
  /-- The bounds of a range are not in order. -/
  | range (e : RangeError)
deriving DecidableEq, Repr

/-! ## The operations with checks -/

namespace Checked

/-- The common part of two ranges, if they share an offset. -/
def intersect (r q : Range) : Except RangeError (Option Range) :=
  if r.overlaps q then some <$> Range.ofBounds (max r.start q.start) (min r.stop q.stop) else .ok none

/-- The part of `counterpart` that goes with the part of `whole` inside `r`. -/
def carry (whole counterpart r : Range) : Except RangeError (Option Range) := do
  let some part ← intersect whole r | return none
  return some (← whole.resize? part counterpart)

/-- Adds a range to a list of ranges in normal form, newest first. -/
def absorb (merged : List Range) (r : Range) : Except RangeError (List Range) :=
  match merged with
  | [] => .ok [r]
  | last :: before =>
    if r.start ≤ last.stop + 1 then
      if last.stop < r.stop then (· :: before) <$> Range.ofBounds last.start r.stop else .ok (last :: before)
    else .ok (r :: last :: before)

/-- The normal form of a list of ranges. -/
def normalize (ranges : List Range) : Except RangeError (List Range) :=
  List.reverse <$> (ranges.mergeSort Range.le).foldlM absorb []

/-- The smallest range that includes every range of the list. -/
def unite : List Range → Except RangeError (Option Range)
  | [] => .ok none
  | r :: ranges =>
    some <$> Range.ofBounds (ranges.foldl (fun start q => min start q.start) r.start : Int)
      (ranges.foldl (fun stop q => max stop q.stop) r.stop : Int)

/-- The pair with the given bounds. -/
def pair (inStart inStop outStart outStop : Int) : Except RangeError Pair := do
  return ⟨← Range.ofBounds inStart inStop, ← Range.ofBounds outStart outStop⟩

/-- The pair of the characters from `start` on, up to but without `stop`, with the `size` characters at `place`;
nothing when there are none of the one or of the other. -/
def stretch (start stop place size : Int) : Except RangeError (List Pair) :=
  if start < stop ∧ 0 < size then List.singleton <$> pair start (stop - 1) place (place + size - 1) else .ok []

/-- The pair that copies the characters from `start` on, up to but without `stop`, to `place`. -/
def copy (start stop place : Int) : Except RangeError (List Pair) := stretch start stop place (stop - start)

/-- The pairs of a text of which the characters before `start` are kept, and those from `stop` on are moved to
`place`. -/
def around (length start stop place : Int) : Except RangeError (List Pair) := do
  return (← copy 0 start 0) ++ (← copy stop length place)

/-- The pairs of a text of the given length that is mapped onto itself. -/
def identity (length : Int) : Except RangeError (List Pair) :=
  if length ≤ 0 then .ok [] else List.singleton <$> pair 0 (length - 1) 0 (length - 1)

/-- The pairs of a text in which matches, from the offset `consumed` on, are replaced. -/
def splice (length : Int) : Int → Int → List (Found × Text) → Except RangeError (List Pair)
  | consumed, produced, [] => copy consumed length produced
  | consumed, produced, (m, new) :: later => do
    let before ← copy consumed m.start produced
    let place := produced + max 0 (m.start - consumed)
    let own ← stretch m.start m.stop place new.length
    return before ++ own ++ (← splice length m.stop (place + new.length) later)

/-- The number nearest to `value` between `low` and `high`. -/
def clamp (value low high : Int) : Int := max low (min value high)

/-- The pairs of a text of which the characters from `start` on, up to but without `stop`, are kept. -/
def truncated (length : Nat) (start : Int) (stop : Option Int) : Except RangeError (List Pair) :=
  let first := clamp start 0 length
  let last := match stop with
    | none => (length : Int)
    | some stop => clamp stop first length
  if last = first then .ok [] else List.singleton <$> pair first (last - 1) 0 (last - first - 1)

/-- The pairs of a text without a line. -/
def withoutLine (text : Text) (line : Int) (newline : Text) : Except RangeError (List Pair) :=
  if line < 0 then identity text.length
  else
    match (text.lineStarts newline).drop line.toNat with
    | [] => identity text.length
    | start :: next :: _ => around text.length start next start
    | [start] =>
      if line = 0 then .ok []
      else around text.length (start - newline.length) text.length (start - newline.length)

/-- The pairs of a text into which `size` characters are inserted. -/
def inserted (length size : Nat) (index : Int) : Except RangeError (List Pair) :=
  let point := clamp index 0 length
  around length point point (point + size)

/-- The pairs of a text whose characters are taken to come from offsets `distance` further on. -/
def moved (length distance : Nat) : Except RangeError (List Pair) :=
  if length = 0 then .ok []
  else List.singleton <$> pair distance (distance + length - 1) 0 (length - 1)

/-- The mapping with the given pairs. -/
def ofPairs (pairs : Except RangeError (List Pair)) : Except Fault Mapping := (pairs.map Mapping.mk).mapError .range

/-- The mapping of an edit. -/
def mapping (e : Edit) (text : Text) : Except Fault Mapping :=
  match e with
  | .truncate start stop => ofPairs (truncated text.length start stop)
  | .replace p r everywhere start => do
    let found := Edit.targets text p everywhere start
    let news ← (found.mapM (r.textFor p)).mapError .replacement
    ofPairs (splice text.length 0 0 (found.zip news))
  | .removeLine line newline => ofPairs (withoutLine text line newline)
  | .insertAt new index => ofPairs (inserted text.length new.length index)
  | .shift distance => ofPairs (moved text.length distance)

/-- The association that two pairs of consecutive steps make together. -/
def compose (first second : Pair) : Except RangeError (Option Pair) := do
  let some common ← intersect first.output second.input | return none
  return some ⟨← first.output.resize? common first.input, ← second.input.resize? common second.output⟩

/-- The mapping of two consecutive steps. -/
def composeMappings (first second : Mapping) : Except RangeError Mapping := do
  let pairs ← second.pairs.mapM fun b => first.pairs.mapM fun a => compose a b
  return ⟨(pairs.flatten.filterMap id).mergeSort Pair.le⟩

/-- The mapping from the initial text of a document to its current text. -/
def composed (d : Document) : Except RangeError Mapping :=
  match d.mappings with
  | [] => Mapping.mk <$> identity d.initial.length
  | m :: later => later.foldlM composeMappings m

/-- The part of a range inside a text of the given length. -/
def clip (r : Range) (length : Nat) : Except RangeError (Option Range) := do
  if length = 0 then return none
  intersect r (← Range.ofBounds 0 (length - 1))

/-- What goes with a range of a text of the given length, on the side `whole` of the pairs, on the side
`counterpart`. -/
def track (whole counterpart : Pair → Range) (d : Document) (length : Nat) (r : Range) :
    Except RangeError (List Range) := do
  let some part ← clip r length | return []
  let m ← composed d
  normalize ((← m.pairs.mapM fun p => carry (whole p) (counterpart p) part).filterMap id)

/-- The ranges of the initial text that a range of the current text comes from. -/
def toInput (d : Document) (r : Range) : Except RangeError (List Range) :=
  track Pair.output Pair.input d d.current.length r

/-- The ranges of the current text that come from a range of the initial text. -/
def toOutput (d : Document) (r : Range) : Except RangeError (List Range) :=
  track Pair.input Pair.output d d.initial.length r

/-- The smallest range of the initial text around all that a range of the current text comes from. -/
def backward (d : Document) (r : Range) : Except RangeError (Option Range) := do unite (← toInput d r)

/-- The smallest range of the current text around all that comes from a range of the initial text. -/
def forward (d : Document) (r : Range) : Except RangeError (Option Range) := do unite (← toOutput d r)

/-- The offset in the initial text of the character at a position of the current text. -/
def initialOffset (d : Document) (p : Position) : Except RangeError (Option Nat) := do
  let some i := d.current.offset? d.newline p | return none
  return (← backward d (← Range.ofBounds i i)).map (·.start)

/-! ## Ranges -/

lemma intersect_eq (r q : Range) : intersect r q = .ok (r.intersect q) := by
  unfold intersect Range.intersect Range.overlaps
  by_cases h : r.start ≤ q.stop ∧ q.start ≤ r.stop
  · have hbounds : Range.ofBounds (max r.start q.start) (min r.stop q.stop) =
        .ok ⟨max r.start q.start, min r.stop q.stop, by have := r.start_le_stop; have := q.start_le_stop; omega⟩ :=
      ofBounds_eq (by dsimp only; omega) (by dsimp only; omega)
    rw [if_pos (decide_eq_true h), dif_pos h, hbounds]
    rfl
  · rw [if_neg (by simpa using h), dif_neg h]

lemma carry_eq (whole counterpart r : Range) :
    carry whole counterpart r = .ok ((whole.intersect r).map fun part => whole.resize part counterpart) := by
  unfold carry
  rw [intersect_eq]
  cases h : whole.intersect r with
  | none => rfl
  | some part =>
    have hresize := resize?_eq (Range.inside_of_intersect h).1 counterpart
    simp only [bind, Except.bind, pure, Except.pure, hresize, Option.map_some]

lemma absorb_eq (merged : List Range) (r : Range) : absorb merged r = .ok (Range.absorb merged r) := by
  cases merged with
  | nil => rfl
  | cons last before =>
    have hle := last.start_le_stop
    simp only [absorb, Range.absorb]
    split
    · split
      · rw [ofBounds_eq (r := ⟨last.start, r.stop, by omega⟩) rfl rfl]
        rfl
      · rfl
    · rfl

/-- A fold of steps that do not fail does not fail. -/
lemma foldlM_eq {α β ε : Type} {f : β → α → Except ε β} {g : β → α → β} (h : ∀ b a, f b a = .ok (g b a))
    (items : List α) (b : β) : items.foldlM f b = .ok (items.foldl g b) := by
  induction items generalizing b with
  | nil => rfl
  | cons a items ih =>
    rw [List.foldlM_cons, h]
    exact ih (g b a)

/-- Results for all items, none of which is a failure. -/
lemma mapM_eq {α β ε : Type} {f : α → Except ε β} {g : α → β} (items : List α) (h : ∀ a ∈ items, f a = .ok (g a)) :
    items.mapM f = .ok (items.map g) := by
  induction items with
  | nil => rfl
  | cons a items ih =>
    rw [List.mapM_cons, h a (List.mem_cons_self ..), ih fun b hb => h b (List.mem_cons_of_mem _ hb)]
    rfl

lemma normalize_eq (ranges : List Range) : normalize ranges = .ok (Range.normalize ranges) := by
  rw [normalize, foldlM_eq absorb_eq]
  rfl

lemma unite_eq (ranges : List Range) : unite ranges = .ok (Range.unite ranges) := by
  cases ranges with
  | nil => rfl
  | cons r ranges =>
    have hends : ∀ (r : Range) (start stop : Int), start = r.start → stop = r.stop →
        ranges.foldl (fun start q => min start q.start) start = (ranges.foldl Range.hull r).start ∧
        ranges.foldl (fun stop q => max stop q.stop) stop = (ranges.foldl Range.hull r).stop := by
      induction ranges with
      | nil => exact fun r start stop hstart hstop => ⟨hstart, hstop⟩
      | cons q ranges ih =>
        intro r start stop hstart hstop
        refine ih (r.hull q) _ _ ?_ ?_
        · simp only [Range.hull]
          omega
        · simp only [Range.hull]
          omega
    obtain ⟨hstart, hstop⟩ := hends r r.start r.stop rfl rfl
    rw [unite, ofBounds_eq hstart hstop]
    rfl

/-! ## Pairs -/

/-- A pair of stretches that are not empty has its bounds in order. -/
lemma pair_eq {inStart inSize outStart outSize : Nat} {inStop outStop : Int} (hin : 0 < inSize) (hout : 0 < outSize)
    (hinStop : inStop = inStart + inSize - 1) (houtStop : outStop = outStart + outSize - 1) :
    List.singleton <$> pair inStart inStop outStart outStop = .ok (Pair.ofSizes inStart inSize outStart outSize) := by
  rw [pair, ofBounds_ofSize hin hinStop, ofBounds_ofSize hout houtStop, Pair.ofSizes, if_pos ⟨hin, hout⟩]
  rfl

lemma stretch_eq (start stop place size : Nat) :
    stretch start stop place size = .ok (Pair.ofSizes start (stop - start) place size) := by
  unfold stretch
  by_cases h : start < stop ∧ 0 < size
  · rw [if_pos (by omega)]
    exact pair_eq (Nat.sub_pos_of_lt h.1) h.2 (by omega) rfl
  · rw [if_neg (by omega), Pair.ofSizes, if_neg (by omega)]

lemma copy_eq (start stop place : Nat) : copy start stop place = .ok (Pair.copy start place (stop - start)) := by
  by_cases h : start ≤ stop
  · rw [copy, ← Int.natCast_sub h, stretch_eq, Pair.copy]
  · rw [copy, stretch, if_neg (by omega), Pair.copy, Pair.ofSizes, if_neg (by omega)]

lemma around_eq (length start stop place : Nat) :
    around length start stop place = .ok (Pair.copy 0 0 start ++ Pair.copy stop place (length - stop)) := by
  have hbefore : copy 0 start 0 = .ok (Pair.copy 0 0 start) := copy_eq 0 start 0
  rw [around, hbefore, copy_eq]
  rfl

lemma identity_eq (length : Nat) : identity length = .ok (Mapping.identity length).pairs := by
  unfold identity
  by_cases h : 0 < length
  · rw [if_neg (by omega)]
    exact pair_eq h h (by simp) (by simp)
  · rw [if_pos (by omega), Mapping.identity, Pair.copy, Pair.ofSizes, if_neg (by omega)]

/-- Replacing matches makes the pairs of the spliced pieces. -/
lemma splice_eq (length : Nat) (found : List (Found × Text)) (consumed produced : Nat) :
    splice length consumed produced found = .ok (Piece.pairs produced (Piece.splice length consumed found)) := by
  induction found generalizing consumed produced with
  | nil =>
    rw [splice, copy_eq]
    simp [Piece.splice, Piece.pairs, Piece.start, Piece.stop, Piece.size, Pair.copy]
  | cons head found ih =>
    obtain ⟨m, new⟩ := head
    have hplace : (produced : Int) + max 0 ((m.start : Int) - consumed) = (produced + (m.start - consumed) : Nat) := by
      omega
    have hlater := ih m.stop (produced + (m.start - consumed) + new.length)
    rw [Int.natCast_add _ new.length] at hlater
    rw [splice, copy_eq, hplace]
    simp only [bind, Except.bind, pure, Except.pure, stretch_eq, hlater]
    simp [Piece.splice, Piece.pairs, Piece.start, Piece.stop, Piece.size, Pair.copy]


/-! ## Edits -/

lemma clamp_eq (value : Int) (low high : Nat) : clamp value low high = Edit.clamp value low high := by
  unfold clamp Edit.clamp
  omega

lemma truncated_eq (text : Text) (start : Int) (stop : Option Int) :
    truncated text.length start stop = .ok (Edit.truncated text start stop).mapping.pairs := by
  have hfirst : clamp start 0 text.length = Edit.clamp start 0 text.length := clamp_eq start 0 text.length
  have hkept : ∀ first last : Nat, first ≤ last →
      (if (last : Int) = first then .ok [] else List.singleton <$> pair first (last - 1) 0 (last - first - 1)) =
        .ok (Pair.copy first 0 (last - first)) := by
    intro first last hle
    by_cases heq : last = first
    · rw [if_pos (by omega), Pair.copy, Pair.ofSizes, if_neg (by omega)]
    · rw [if_neg (by omega)]
      exact pair_eq (by omega) (by omega) (by omega) (by simp; omega)
  have hle := Edit.clamp_le start (Nat.zero_le text.length)
  unfold truncated Edit.truncated
  cases stop with
  | none =>
    simp only [hfirst]
    exact hkept _ _ hle
  | some stop =>
    simp only [hfirst, clamp_eq]
    exact hkept _ _ (Edit.le_clamp _ _ _)

lemma withoutLine_eq (text : Text) (line : Int) (newline : Text) :
    withoutLine text line newline = .ok (Edit.withoutLine text line newline).mapping.pairs := by
  unfold withoutLine Edit.withoutLine
  split
  · exact identity_eq text.length
  · have hspaced := Text.spaced_lineStarts text newline
    rcases hstarts : (text.lineStarts newline).drop line.toNat with _ | ⟨start, _ | ⟨next, rest⟩⟩
    · exact identity_eq text.length
    · -- the last line, which a terminator comes before unless it is the first one too
      dsimp only
      split
      · rfl
      · have hle : newline.length ≤ start := by
          obtain ⟨k, hk⟩ : ∃ k, line.toNat = k + 1 := ⟨line.toNat - 1, by omega⟩
          have hmem : start ∈ (text.lineStarts newline).drop (k + 1) := by
            rw [← hk, hstarts]
            exact List.mem_singleton_self start
          have hfirst := (List.pairwise_cons.1 hspaced).1 start (List.mem_of_mem_drop hmem)
          omega
        rw [← Int.natCast_sub hle]
        exact around_eq ..
    · exact around_eq ..

lemma inserted_eq (text new : Text) (index : Int) :
    inserted text.length new.length index = .ok (Edit.inserted text new index).mapping.pairs := by
  have hpoint : clamp index 0 text.length = Edit.clamp index 0 text.length := clamp_eq index 0 text.length
  unfold inserted Edit.inserted
  simp only [hpoint]
  exact around_eq _ _ _ (_ + new.length)

lemma moved_eq (length distance : Nat) : moved length distance = .ok (Pair.copy distance 0 length) := by
  unfold moved
  by_cases h : length = 0
  · rw [if_pos h, Pair.copy, Pair.ofSizes, if_neg (by omega)]
  · rw [if_neg h]
    exact pair_eq (by omega) (by omega) rfl (by simp)

lemma ofPairs_eq {pairs : Except RangeError (List Pair)} {m : Mapping} (h : pairs = .ok m.pairs) :
    ofPairs pairs = .ok m := by
  subst h
  rfl

/-- **The ranges of the mapping of an edit have their bounds in order.**  The mapping is made without a failure,
unless a replacement text cannot be made. -/
theorem mapping_eq (e : Edit) (text : Text) :
    mapping e text = ((e.apply text).map (·.mapping)).mapError .replacement := by
  cases e with
  | truncate start stop => exact ofPairs_eq (truncated_eq text start stop)
  | replace p r everywhere start =>
    cases hnews : (Edit.targets text p everywhere start).mapM (r.textFor p) with
    | error err =>
      simp only [mapping, Edit.apply, Edit.replaced, hnews]
      rfl
    | ok news =>
      obtain ⟨result, hresult⟩ : ∃ result, Edit.apply (.replace p r everywhere start) text = .ok result := by
        simp only [Edit.apply, Edit.replaced, hnews]
        exact ⟨_, rfl⟩
      obtain ⟨pieces, hpieces, hmade⟩ := Edit.apply_eq_ok rfl hresult
      simp only [Edit.pieces, hnews] at hpieces
      obtain rfl := Except.ok.inj hpieces
      have hpairs : splice text.length 0 0 ((Edit.targets text p everywhere start).zip news) =
          .ok result.mapping.pairs := by
        rw [hmade.pairs_eq]
        exact splice_eq text.length _ 0 0
      simp only [mapping, hnews, hresult]
      exact ofPairs_eq hpairs
  | removeLine line newline => exact ofPairs_eq (withoutLine_eq text line newline)
  | insertAt new index => exact ofPairs_eq (inserted_eq text new index)
  | shift distance => exact ofPairs_eq (moved_eq text.length distance)


/-! ## Questions -/

lemma compose_eq (first second : Pair) : compose first second = .ok (first.compose second) := by
  unfold compose Pair.compose
  rw [intersect_eq]
  cases h : first.output.intersect second.input with
  | none => rfl
  | some common =>
    obtain ⟨hfirst, hsecond⟩ := Range.inside_of_intersect h
    simp only [bind, Except.bind, pure, Except.pure, resize?_eq hfirst, resize?_eq hsecond, Option.map_some]

lemma composeMappings_eq (first second : Mapping) : composeMappings first second = .ok (first.compose second) := by
  have hpairs : (second.pairs.mapM fun b => first.pairs.mapM fun a => compose a b) =
      .ok (second.pairs.map fun b => first.pairs.map fun a => a.compose b) :=
    mapM_eq _ fun b _ => mapM_eq _ fun a _ => compose_eq a b
  have hflat : (second.pairs.map fun b => first.pairs.map fun a => a.compose b).flatten.filterMap id =
      second.pairs.flatMap fun b => first.pairs.filterMap (·.compose b) := by
    simp [List.flatMap_def, List.filterMap_flatten, Function.comp_def]
  rw [composeMappings, hpairs, Mapping.compose, ← hflat]
  rfl

lemma composed_eq (d : Document) : composed d = .ok d.composed := by
  unfold composed Document.composed
  cases d.mappings with
  | nil =>
    simp only [identity_eq]
    rfl
  | cons m later => exact foldlM_eq composeMappings_eq later m

lemma clip_eq (r : Range) (length : Nat) : clip r length = .ok (Provenance.clip r length) := by
  unfold clip Provenance.clip Range.whole?
  by_cases h : length = 0
  · rw [if_pos h, if_neg (by omega)]
    rfl
  · have hwhole : Range.ofBounds 0 (length - 1) = .ok (.ofSize 0 length) :=
      ofBounds_ofSize (Nat.pos_of_ne_zero h) (by simp)
    rw [if_neg h, if_pos (by omega), hwhole]
    exact intersect_eq r (.ofSize 0 length)

/-- What is tracked, on either side of the pairs. -/
lemma track_eq (whole counterpart : Pair → Range) (d : Document) (length : Nat) (r : Range) :
    track whole counterpart d length r = .ok (match Provenance.clip r length with
      | none => []
      | some part => Range.normalize (d.composed.pairs.filterMap fun p =>
          ((whole p).intersect part).map fun common => (whole p).resize common (counterpart p))) := by
  unfold track
  rw [clip_eq, composed_eq]
  cases Provenance.clip r length with
  | none => rfl
  | some part =>
    have hfound := mapM_eq d.composed.pairs fun p _ => carry_eq (whole p) (counterpart p) part
    simp only [bind, Except.bind, hfound, normalize_eq, List.filterMap_map, Function.id_comp]

lemma toInput_eq (d : Document) (r : Range) : toInput d r = .ok (d.provenance.toInput r) := track_eq ..

lemma toOutput_eq (d : Document) (r : Range) : toOutput d r = .ok (d.provenance.toOutput r) := track_eq ..

lemma backward_eq (d : Document) (r : Range) : backward d r = .ok (d.provenance.backward r) := by
  rw [backward, toInput_eq]
  exact unite_eq _

lemma forward_eq (d : Document) (r : Range) : forward d r = .ok (d.provenance.forward r) := by
  rw [forward, toOutput_eq]
  exact unite_eq _

lemma initialOffset_eq (d : Document) (p : Position) : initialOffset d p = .ok (d.provenance.initialOffset? p) := by
  have hsingle : ∀ i : Nat, Range.ofBounds i i = .ok (.single i) := fun i => ofBounds_eq rfl rfl
  unfold initialOffset Provenance.initialOffset?
  show _ = Except.ok ((d.current.offset? d.newline p).bind _)
  cases d.current.offset? d.newline p with
  | none => rfl
  | some i =>
    simp only [hsingle, bind, Except.bind, backward_eq, Option.bind_some]
    cases d.provenance.backward (.single i) with
    | none => rfl
    | some r => rfl

end Checked

/-! ## Bounds of answers -/

/-- An edit writes within its text, also if it is a shift. -/
lemma Edit.output_lt {e : Edit} {text : Text} {r : Edited} (h : e.apply text = .ok r) {q : Pair}
    (hq : q ∈ r.mapping.pairs) : q.output.stop < r.text.length := by
  by_cases hshift : e.isShift = true
  · cases e with
    | shift distance =>
      obtain rfl := Except.ok.inj h
      obtain ⟨-, hpos, rfl⟩ := Pair.mem_ofSizes.1 hq
      simp only [Range.ofSize]
      omega
    | _ => cases hshift
  · obtain ⟨pieces, -, hmade⟩ := Edit.apply_eq_ok (Bool.not_eq_true _ ▸ hshift) h
    rw [hmade.pairs_eq] at hq
    rw [hmade.text_eq]
    exact (Piece.within_of_mem_pairs hmade.inOrder hq).2

namespace Document

variable {d : Document} {r : Range}

/-- The outputs of a document after an edit are parts of those of the edit. -/
lemma exists_output_of_mem_composed {e : Edit} {result : Edited} {p : Pair}
    (hp : p ∈ (d.record e result).composed.pairs) : ∃ b ∈ result.mapping.pairs, ∀ j ∈ p.output, j ∈ b.output := by
  have hmappings : (d.record e result).mappings = d.mappings ++ [result.mapping] := by simp [mappings, record]
  unfold composed at hp
  rw [hmappings] at hp
  cases hd : d.mappings with
  | nil =>
    rw [hd] at hp
    exact ⟨p, hp, fun j hj => hj⟩
  | cons m later =>
    rw [hd, List.cons_append, Mapping.composeAll, List.foldl_append] at hp
    obtain ⟨a, -, b, hb, hab⟩ := Mapping.mem_compose.1 hp
    refine ⟨b, hb, fun j hj => ?_⟩
    obtain ⟨k, -, hlinks⟩ := (Pair.mem_output_compose hab).1 hj
    exact hlinks.mem_output

/-- **What edits lead to lies in the current text**, also after shifts. -/
theorem Reached.output_lt (hd : d.Reached) {p : Pair} (hp : p ∈ d.composed.pairs) :
    p.output.stop < d.current.length := by
  cases hd with
  | fresh h =>
    obtain ⟨h1, h2, h3⟩ := ofText_eq_ok h
    have hcomposed : d.composed = .identity d.current.length := by
      simp [composed, mappings, h1, h2, h3, Mapping.composeAll]
    rw [hcomposed] at hp
    obtain ⟨hpos, rfl⟩ := Mapping.mem_identity.1 hp
    simp only [Range.ofSize]
    omega
  | edit _ he =>
    obtain ⟨result, hresult, rfl⟩ := apply_eq_ok.1 he
    obtain ⟨b, hb, hin⟩ := exists_output_of_mem_composed hp
    exact Nat.lt_of_le_of_lt (hin _ p.output.stop_mem).2 (Edit.output_lt hresult hb)

lemma Reached.toOutput_stop_lt (hd : d.Reached) {q : Range} (hq : q ∈ d.provenance.toOutput r) :
    q.stop < d.current.length := by
  obtain ⟨i, -, -, p, hp, hlinks⟩ := covers_toOutput.1 ⟨q, hq, q.stop_mem⟩
  exact Nat.lt_of_le_of_lt hlinks.mem_output.2 (hd.output_lt hp)

lemma Reached.toInput_stop_lt (hd : d.Reached) (hs : d.Unshifted) {q : Range} (hq : q ∈ d.provenance.toInput r) :
    q.stop < d.initial.length := by
  obtain ⟨j, -, -, p, hp, hlinks⟩ := covers_toInput.1 ⟨q, hq, q.stop_mem⟩
  exact hd.input_lt hs hp hlinks.mem_input

lemma separated_toOutput (d : Document) (r : Range) : Separated (d.provenance.toOutput r) := by
  unfold Provenance.toOutput
  split
  · simp [Separated]
  · exact Range.separated_normalize _

end Document

/-! ## All together -/

/-- The text for each match of a replacement can be made. -/
def Edit.Expands (text : Text) : Edit → Prop
  | replace p r everywhere start => ∀ m ∈ targets text p everywhere start, ∃ new, r.textFor p m = .ok new
  | _ => True

lemma Edit.Expands.exists_apply {e : Edit} {text : Text} (h : e.Expands text) : ∃ r, e.apply text = .ok r := by
  cases e with
  | replace p r everywhere start =>
    choose! new hnew using h
    simp only [Edit.apply, replaced, Checked.mapM_eq _ hnew]
    exact ⟨_, rfl⟩
  | _ => exact ⟨_, rfl⟩

/-- **No bounds are out of order, and all answers are normal and in bounds.**  Edits whose replacement texts can be
made have a result, and their ranges pass the check.  So do those of all questions, whatever range or position they
are about, in every document.  Answers are separated by gaps; answers in the current text lie in it, and without a
shift answers in the initial text do as well. -/
theorem checked_answers :
    (∀ (e : Edit) (text : Text), e.Expands text →
      ∃ r, e.apply text = .ok r ∧ Checked.mapping e text = .ok r.mapping) ∧
    (∀ (d : Document) (r : Range) (p : Position),
      Checked.composed d = .ok d.composed ∧
      Checked.toInput d r = .ok (d.provenance.toInput r) ∧ Separated (d.provenance.toInput r) ∧
      Checked.toOutput d r = .ok (d.provenance.toOutput r) ∧ Separated (d.provenance.toOutput r) ∧
      Checked.backward d r = .ok (d.provenance.backward r) ∧
      Checked.forward d r = .ok (d.provenance.forward r) ∧
      Checked.initialOffset d p = .ok (d.provenance.initialOffset? p)) ∧
    ∀ d : Document, d.Reached →
      (∀ r, ∀ q ∈ d.provenance.toOutput r, q.stop < d.current.length) ∧
      (d.Unshifted →
        (∀ p ∈ d.composed.pairs, p.input.stop < d.initial.length ∧ p.output.stop < d.current.length) ∧
        ∀ r, ∀ q ∈ d.provenance.toInput r, q.stop < d.initial.length) := by
  refine ⟨fun e text h => ?_, fun d r p => ?_, fun d hd => ⟨fun r q hq => hd.toOutput_stop_lt hq, fun hs => ?_⟩⟩
  · obtain ⟨r, hr⟩ := h.exists_apply
    refine ⟨r, hr, ?_⟩
    rw [Checked.mapping_eq, hr]
    rfl
  · exact ⟨Checked.composed_eq d, Checked.toInput_eq d r, d.separated_toInput r, Checked.toOutput_eq d r,
      d.separated_toOutput r, Checked.backward_eq d r, Checked.forward_eq d r, Checked.initialOffset_eq d p⟩
  · refine ⟨fun p hp => ⟨?_, hd.output_lt hp⟩, fun r q hq => hd.toInput_stop_lt hs hq⟩
    exact hd.input_lt hs hp p.input.stop_mem

/-- A text without its first line, moved by one and with a longer text for its first letter. -/
def Document.drifted : Document :=
  ([.removeLine 0 "\n".toList, .shift 1,
    .replace (.ofSource "b" Pattern.noFlags) (.template "QRS".toList) false 0] : List Edit).foldl revise
    (.ofLines "a\nbc".toList "")

/-- Each letter is put in brackets, or leaves them empty if it is not the one that is captured. -/
def Edit.bracketed : Edit := .replace (.ofSource "(b)|c" Pattern.noFlags) (.template "<\\1>".toList) true (-7)

theorem drifted_answers :
    Document.drifted.Reached ∧
    Document.drifted.provenance.toOutput ⟨3, 1000, by decide⟩ = [⟨0, 2, by decide⟩] ∧
    (∀ q ∈ Document.drifted.provenance.toOutput ⟨3, 1000, by decide⟩, q.stop < Document.drifted.current.length) ∧
    Document.mended.Unshifted ∧ (∀ q ∈ Document.mended.provenance.toInput ⟨0, 1000, by decide⟩, q.stop < 7) ∧
    ∃ r, Edit.bracketed.apply "bc".toList = .ok r ∧ Checked.mapping .bracketed "bc".toList = .ok r.mapping := by
  obtain ⟨hedits, -, hbounds⟩ := checked_answers
  have hd : Document.drifted.Reached := Document.reached_foldl_revise _ (Document.ofLines_reached _ _)
  have hs := Document.mended_unshifted
  have hinitial : Document.mended.initial.length = 7 := by decide +kernel
  have hexpands : Edit.bracketed.Expands "bc".toList := fun _ _ => ⟨_, rfl⟩
  refine ⟨hd, by cbv, (hbounds _ hd).1 _, hs, ?_, hedits _ _ hexpands⟩
  rw [← hinitial]
  exact ((hbounds _ Document.mended_reached).2 hs).2 _

end MarkupLint
