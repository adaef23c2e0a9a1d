import Mathlib.Tactic.Common
import MarkupLint.Edit
import MarkupLint.Proofs.Lines.Starts
import MarkupLint.Proofs.Pattern.Span

/-!
# The pieces of an edited text

Every edit makes its text of pieces: stretches of the old text that it keeps, and texts that it puts in the
place of stretches of the old text.  `Edit.pieces` lists them.  `Edit.apply_eq_ok` says all that the
application of an edit does in terms of them: the pieces come in the order of the old text
(`Piece.InOrder`), the new text is made of them (`Piece.render`), and the mapping has a pair for each piece
that is not empty on either side (`Piece.pairs`), unless the edit is a shift, which keeps the text and
moves the offsets.
-/

namespace MarkupLint

/-! ## Pieces -/

/-- A piece of the text that an edit makes. -/
inductive Piece where
  /-- The characters from `start` on, up to but without `stop`, as they were. -/
  | kept (start stop : Nat)
  /-- A text in the place of the characters from `start` on, up to but without `stop`. -/
  | put (start stop : Nat) (new : Text)
deriving DecidableEq, Repr

namespace Piece

/-- The offset in the old text at which the piece starts. -/
def start : Piece → Nat
  | kept start _ => start
  | put start _ _ => start

/-- The offset in the old text before which the piece stops. -/
def stop : Piece → Nat
  | kept _ stop => stop
  | put _ stop _ => stop

/-- The number of characters of the piece in the new text. -/
def size : Piece → Nat
  | kept start stop => stop - start
  | put _ _ new => new.length

/-- The characters of the piece in the new text. -/
def text (old : Text) : Piece → Text
  | kept start stop => old.slice start stop
  | put _ _ new => new

/-- The text made of pieces. -/
def render (old : Text) (pieces : List Piece) : Text := pieces.flatMap (·.text old)

/-- The pairs of pieces, the first of which comes after `produced` characters of the new text. -/
def pairs : Nat → List Piece → List Pair
  | _, [] => []
  | produced, p :: later =>
    Pair.ofSizes p.start (p.stop - p.start) produced p.size ++ pairs (produced + p.size) later

/-- The pieces come in the order of an old text of the given length, from the offset `consumed` on, and do
not overlap. -/
def InOrder (length : Nat) : Nat → List Piece → Prop
  | _, [] => True
  | consumed, p :: later =>
    consumed ≤ p.start ∧ p.start ≤ p.stop ∧ p.stop ≤ length ∧ InOrder length p.stop later

/-- The pieces of a text in which matches, from the offset `consumed` on, are replaced. -/
def splice (length : Nat) : Nat → List (Found × Text) → List Piece
  | consumed, [] => [kept consumed length]
  | consumed, (m, new) :: later =>
    kept consumed m.start :: put m.start m.stop new :: splice length m.stop later

/-- The pieces of a text without the characters from `start` on, up to but without `stop`. -/
def around (length start stop : Nat) : List Piece := [kept 0 start, kept stop length]

end Piece

namespace Edit

open Piece

/-- Whether the edit is a shift. -/
def isShift : Edit → Bool
  | shift _ => true
  | _ => false

/-- The pieces of a text without a line. -/
def lineCut (text : Text) (line : Int) (newline : Text) : List Piece :=
  if line < 0 then [kept 0 text.length]
  else
    match (text.lineStarts newline).drop line.toNat with
    | [] => [kept 0 text.length]
    | start :: next :: _ => around text.length start next
    | [start] => if line = 0 then [] else around text.length (start - newline.length) text.length

/-- **The pieces of which an edit makes its text.** -/
def pieces (e : Edit) (text : Text) : Except ReplacementError (List Piece) :=
  match e with
  | truncate start stop =>
    let first := clamp start 0 text.length
    let last := match stop with
      | none => text.length
      | some stop => clamp stop first text.length
    .ok [kept first last]
  | replace p r everywhere start => do
    let found := targets text p everywhere start
    return splice text.length 0 (found.zip (← found.mapM (r.textFor p)))
  | removeLine line newline => .ok (lineCut text line newline)
  | insertAt new index =>
    let point := clamp index 0 text.length
    .ok [kept 0 point, put point point new, kept point text.length]
  | shift _ => .ok [kept 0 text.length]

end Edit

/-! ## What an edit does -/

/-- The result of an edit of `text` is described by pieces. -/
structure Edited.MadeOf (text : Text) (pieces : List Piece) (r : Edited) : Prop where
  /-- The pieces come in the order of the old text. -/
  inOrder : Piece.InOrder text.length 0 pieces
  /-- The new text is made of them. -/
  text_eq : r.text = Piece.render text pieces
  /-- The mapping is that of the pieces. -/
  pairs_eq : r.mapping.pairs = Piece.pairs 0 pieces

namespace Edit

open Piece

variable {text : Text}

lemma clamp_le (value : Int) {low high : Nat} (h : low ≤ high) : clamp value low high ≤ high := by
  unfold clamp
  omega

lemma le_clamp (value : Int) (low high : Nat) : low ≤ clamp value low high := by
  unfold clamp
  omega

lemma slice_zero (stop : Nat) : text.slice 0 stop = text.take stop := rfl

lemma slice_length (start : Nat) : text.slice start text.length = text.drop start :=
  List.take_of_length_le (by simp)

lemma truncated_madeOf (start : Int) (stop : Option Int) :
    ∃ pieces, (truncate start stop).pieces text = .ok pieces ∧
      (truncated text start stop).MadeOf text pieces := by
  have h := clamp_le start (Nat.zero_le text.length)
  cases stop with
  | none =>
    refine ⟨_, rfl, ⟨⟨Nat.zero_le _, h, Nat.le_refl _, trivial⟩, ?_, ?_⟩⟩
    · simp [truncated, render, Piece.text]
    · simp [truncated, Piece.pairs, Piece.start, Piece.stop, Piece.size, Pair.copy]
  | some stop =>
    refine ⟨_, rfl, ⟨⟨Nat.zero_le _, le_clamp _ _ _, clamp_le stop h, trivial⟩, ?_, ?_⟩⟩
    · simp [truncated, render, Piece.text]
    · simp [truncated, Piece.pairs, Piece.start, Piece.stop, Piece.size, Pair.copy]

lemma identity_madeOf (text : Text) :
    Edited.MadeOf text [kept 0 text.length] { text, mapping := .identity text.length } := by
  refine ⟨⟨Nat.zero_le _, Nat.zero_le _, Nat.le_refl _, trivial⟩, ?_, ?_⟩
  · simp [render, Piece.text, slice_length]
  · simp [Mapping.identity, Piece.pairs, Piece.start, Piece.stop, Piece.size, Pair.copy]

lemma cut_madeOf {start stop : Nat} (h1 : start ≤ stop) (h2 : stop ≤ text.length) :
    (cut text start stop).MadeOf text (around text.length start stop) := by
  refine ⟨⟨Nat.zero_le _, Nat.zero_le _, Nat.le_trans h1 h2, h1, h2, Nat.le_refl _, trivial⟩, ?_, ?_⟩
  · simp [cut, around, render, Piece.text, slice_length, slice_zero]
  · simp [cut, around, Piece.pairs, Piece.start, Piece.stop, Piece.size, Pair.copy]

lemma withoutLine_madeOf (line : Int) (newline : Text) :
    (withoutLine text line newline).MadeOf text (lineCut text line newline) := by
  have hsorted := (Text.pairwise_lineStarts text newline).sublist (List.drop_sublist line.toNat _)
  have hle : ∀ x ∈ (text.lineStarts newline).drop line.toNat, x ≤ text.length :=
    fun x hx => Text.le_length_of_mem_lineStarts (List.mem_of_mem_drop hx)
  by_cases hneg : line < 0
  · simp only [withoutLine, lineCut, if_pos hneg]
    exact identity_madeOf text
  · simp only [withoutLine, lineCut, if_neg hneg]
    rcases hstarts : (text.lineStarts newline).drop line.toNat with _ | ⟨start, _ | ⟨next, rest⟩⟩
    · exact identity_madeOf text
    · -- the last line
      rw [hstarts] at hle
      have := hle start (by simp)
      by_cases hzero : line = 0
      · simp only [if_pos hzero]
        exact ⟨trivial, rfl, rfl⟩
      · simp only [if_neg hzero]
        exact cut_madeOf (by omega) (Nat.le_refl _)
    · rw [hstarts] at hsorted hle
      have := (List.pairwise_cons.1 hsorted).1 next (by simp)
      exact cut_madeOf (by omega) (hle next (by simp))

lemma inserted_madeOf (new : Text) (index : Int) :
    ∃ pieces, (insertAt new index).pieces text = .ok pieces ∧
      (inserted text new index).MadeOf text pieces := by
  have h := clamp_le index (Nat.zero_le text.length)
  refine ⟨_, rfl, ⟨?_, ?_, ?_⟩⟩
  · exact ⟨Nat.zero_le _, Nat.zero_le _, h, Nat.le_refl _, Nat.le_refl _, h, Nat.le_refl _, h,
      Nat.le_refl _, trivial⟩
  · simp [inserted, render, Piece.text, slice_length, slice_zero]
  · simp [inserted, Piece.pairs, Piece.start, Piece.stop, Piece.size, Pair.copy, Pair.ofSizes]

/-! ### Replacements -/

/-- Putting replacements in the place of matches that are in order gives the spliced pieces. -/
lemma assemble_eq (found : List (Found × Text)) : ∀ (consumed produced : Nat),
    consumed ≤ text.length → Pattern.InOrder text.length consumed (found.map Prod.fst) →
      assemble consumed produced (text.drop consumed) found =
        (render text (splice text.length consumed found),
          Piece.pairs produced (splice text.length consumed found)) := by
  induction found with
  | nil =>
    intro consumed produced hle _
    simp [assemble, splice, render, Piece.text, slice_length, Piece.pairs, Piece.start, Piece.stop,
      Piece.size, Pair.copy]
  | cons head later ih =>
    obtain ⟨m, new⟩ := head
    rintro consumed produced hle ⟨hspan, horder⟩
    have h1 : consumed ≤ m.start := hspan.start_le
    have h2 : m.start ≤ m.stop := hspan.start_le_stop
    have h3 : m.stop ≤ text.length := hspan.stop_le
    have hkept : ((text.drop consumed).take (m.start - consumed)).length = m.start - consumed := by
      simp only [List.length_take, List.length_drop]
      omega
    have hrest : (text.drop consumed).drop (m.stop - consumed) = text.drop m.stop := by
      rw [List.drop_drop]
      congr 1
      omega
    simp only [assemble, hkept, hrest, ih m.stop _ h3 horder]
    simp [splice, render, Piece.text, Piece.pairs, Piece.start, Piece.stop, Piece.size, Pair.copy,
      Text.slice, Found.size, Nat.add_assoc]

lemma inOrder_zip {size start : Nat} {found : List Found} (h : Pattern.InOrder size start found)
    (news : List Text) : Pattern.InOrder size start ((found.zip news).map Prod.fst) := by
  induction found generalizing start news with
  | nil => trivial
  | cons m later ih =>
    cases news with
    | nil => trivial
    | cons new news => exact ⟨h.1, ih h.2 news⟩

lemma inOrder_splice {length : Nat} (found : List (Found × Text)) {consumed : Nat}
    (hle : consumed ≤ length) (h : Pattern.InOrder length consumed (found.map Prod.fst)) :
    Piece.InOrder length consumed (splice length consumed found) := by
  induction found generalizing consumed with
  | nil => exact ⟨Nat.le_refl _, hle, Nat.le_refl _, trivial⟩
  | cons head later ih =>
    obtain ⟨⟨h1, h2, h3⟩, horder⟩ := h
    exact ⟨Nat.le_refl _, h1, Nat.le_trans h2 h3, Nat.le_refl _, h2, h3, ih h3 horder⟩

lemma replaced_madeOf {p : Pattern} {r : Replacement} {everywhere : Bool} {start : Int} {result : Edited}
    (h : replaced text p r everywhere start = .ok result) :
    ∃ pieces, (replace p r everywhere start).pieces text = .ok pieces ∧ result.MadeOf text pieces := by
  simp only [replaced] at h
  simp only [Edit.pieces]
  cases hnews : (targets text p everywhere start).mapM (r.textFor p) with
  | error e => rw [hnews] at h; cases h
  | ok news =>
    rw [hnews] at h
    have horder : Pattern.InOrder text.length 0
        (((targets text p everywhere start).zip news).map Prod.fst) := by
      refine inOrder_zip ?_ news
      have := Pattern.scan_inOrder p text.toArray (if everywhere then maxMatches else 1)
        (clamp start 0 text.length)
      rw [List.size_toArray] at this
      exact this.mono (Nat.zero_le _)
    have hasm := assemble_eq _ 0 0 (Nat.zero_le text.length) horder
    rw [List.drop_zero] at hasm
    simp only [bind, Except.bind, pure, Except.pure, hasm, Except.ok.injEq] at h ⊢
    subst h
    exact ⟨_, rfl, inOrder_splice _ (Nat.zero_le _) horder, rfl, rfl⟩

/-- **What an edit does.**  If it succeeds, its text is made of its pieces, which are in order, and so is
its mapping, unless the edit is a shift. -/
theorem apply_eq_ok {e : Edit} {r : Edited} (he : e.isShift = false) (h : e.apply text = .ok r) :
    ∃ pieces, e.pieces text = .ok pieces ∧ r.MadeOf text pieces := by
  cases e with
  | truncate start stop =>
    obtain rfl := Except.ok.inj h
    exact truncated_madeOf start stop
  | replace p rep everywhere start => exact replaced_madeOf h
  | removeLine line newline =>
    obtain rfl := Except.ok.inj h
    exact ⟨_, rfl, withoutLine_madeOf line newline⟩
  | insertAt new index =>
    obtain rfl := Except.ok.inj h
    exact inserted_madeOf new index
  | shift distance => cases he

end Edit

end MarkupLint
