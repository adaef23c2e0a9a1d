import MarkupLint.Proofs.Lines.Positions
import MarkupLint.Proofs.Lines.Split

/-!
# Offsets and positions

Every offset of a text has a position, and every position that a line of the text offers has an offset:

* `offset?_eq_some_iff`: the offset of a position is the one that has this position, as an offset lies on one line only
  (`LiesOn.unique`);
* `compare_position`: positions compare as their offsets do;
* `offset?_isSome_iff`: a position has an offset if it is in a column of its line or, on any line but the last one, of
  the terminator (`Offered`).

`positions_correspond_to_offsets` puts these together.
-/

namespace MarkupLint

lemma Position.compare_eq_eq {p q : Position} (h : p.compare q = .eq) : p = q := by
  obtain ⟨hline, hcolumn⟩ := Ordering.then_eq_eq.1 h
  have hline := Int.compare_eq_eq.1 hline
  have hcolumn := Int.compare_eq_eq.1 hcolumn
  cases p with
  | nowhere =>
    cases q with
    | nowhere => rfl
    | cell line' column' => cases hline
  | cell line column =>
    cases q with
    | nowhere => cases hline
    | cell line' column' => rw [Int.ofNat.inj hline, Int.ofNat.inj hcolumn]

lemma Position.compare_swap (p q : Position) : (p.compare q).swap = q.compare p := by
  rw [Position.compare, Ordering.swap_then, ← Std.OrientedOrd.eq_swap, ← Std.OrientedOrd.eq_swap]
  rfl

namespace Text

variable {text newline : Text} {i j number column start : Nat} {p : Position}

/-! ## The offset of a position -/

/-- An offset lies on one line only. -/
lemma LiesOn.unique {number' start' : Nat} (h : LiesOn text newline i number start)
    (h' : LiesOn text newline i number' start') : number = number' ∧ start = start' := by
  obtain rfl : number = number' :=
    Nat.le_antisymm (h.number_le h' (Nat.le_refl i)) (h'.number_le h (Nat.le_refl i))
  exact ⟨rfl, Option.some.inj (h.starts.symm.trans h'.starts)⟩

lemma offset?_cell_eq_some :
    text.offset? newline (.cell number column) = some i ↔
      ∃ start, LiesOn text newline i number start ∧ i = start + column := by
  have hstart : ((text.lineStarts newline).drop number)[0]? = (text.lineStarts newline)[number]? :=
    List.getElem?_drop
  have hnext : ((text.lineStarts newline).drop number)[1]? = (text.lineStarts newline)[number + 1]? :=
    List.getElem?_drop
  unfold offset? offsetIn?
  dsimp only
  split
  · next hdrop =>
    -- there is no such line
    rw [hdrop] at hstart
    refine iff_of_false (by simp) ?_
    rintro ⟨start, hlies, -⟩
    simp [hlies.starts] at hstart
  · next first hdrop =>
    -- the last line goes up to the end of the text
    rw [hdrop] at hstart hnext
    constructor
    · intro h
      split at h
      · obtain rfl := Option.some.inj h
        refine ⟨first, ⟨hstart.symm, Nat.le_add_right _ _, fun next hsome => ?_, by omega⟩, rfl⟩
        simp [hsome] at hnext
      · cases h
    · rintro ⟨start, hlies, rfl⟩
      obtain rfl : first = start := Option.some.inj (hstart.trans hlies.starts)
      have hlt := hlies.lt_length
      rw [if_pos (by omega)]
  · next first next later hdrop =>
    -- any other line goes up to the next one
    have hmem : next ∈ (text.lineStarts newline).drop number := by simp [hdrop]
    have hin := le_length_of_mem_lineStarts (List.mem_of_mem_drop hmem)
    rw [hdrop] at hstart hnext
    constructor
    · intro h
      split at h
      · obtain rfl := Option.some.inj h
        refine ⟨first, ⟨hstart.symm, Nat.le_add_right _ _, fun other hsome => ?_, by omega⟩, rfl⟩
        obtain rfl : next = other := Option.some.inj (hnext.trans hsome)
        omega
      · cases h
    · rintro ⟨start, hlies, rfl⟩
      obtain rfl : first = start := Option.some.inj (hstart.trans hlies.starts)
      have hlt := hlies.lt_next next hnext.symm
      rw [if_pos (by omega)]

/-- **The offset of a position is the offset that has this position.** -/
theorem offset?_eq_some_iff :
    text.offset? newline p = some i ↔ i < text.length ∧ text.position newline i = p := by
  constructor
  · intro h
    cases p with
    | nowhere => cases h
    | cell number column =>
      obtain ⟨start, hlies, rfl⟩ := offset?_cell_eq_some.1 h
      obtain ⟨number', start', hlies', hposition⟩ := position_eq newline hlies.lt_length
      obtain ⟨rfl, rfl⟩ := hlies.unique hlies'
      rw [Nat.add_sub_cancel_left] at hposition
      exact ⟨hlies.lt_length, hposition⟩
  · rintro ⟨hlt, rfl⟩
    obtain ⟨number, start, hlies, hposition⟩ := position_eq newline hlt
    have hle := hlies.start_le
    rw [hposition]
    exact offset?_cell_eq_some.2 ⟨start, hlies, by omega⟩

/-- Different offsets have different positions. -/
lemma position_injective (hi : i < text.length) (hj : j < text.length)
    (h : text.position newline i = text.position newline j) : i = j := by
  have hoffset : text.offset? newline (text.position newline j) = some i := offset?_eq_some_iff.2 ⟨hi, h⟩
  exact Option.some.inj (hoffset.symm.trans (offset?_eq_some_iff.2 ⟨hj, rfl⟩))

/-! ## The order of positions -/

lemma compare_position_of_lt (newline : Text) (hij : i < j) (hj : j < text.length) :
    (text.position newline i).compare (text.position newline j) = .lt := by
  have hle := position_mono newline (Nat.le_of_lt hij) hj
  cases hcompare : (text.position newline i).compare (text.position newline j) with
  | lt => rfl
  | eq =>
    have heq := position_injective (Nat.lt_trans hij hj) hj (Position.compare_eq_eq hcompare)
    omega
  | gt => simp [hcompare] at hle

/-- **Positions compare as their offsets do.** -/
theorem compare_position (newline : Text) (hi : i < text.length) (hj : j < text.length) :
    (text.position newline i).compare (text.position newline j) = compare i j := by
  rcases Nat.lt_trichotomy i j with hlt | rfl | hgt
  · rw [compare_position_of_lt newline hlt hj, Nat.compare_eq_lt.2 hlt]
  · rw [Nat.compare_eq_eq.2 rfl, Position.compare, Std.ReflOrd.compare_self, Std.ReflOrd.compare_self]
    rfl
  · rw [← Position.compare_swap, compare_position_of_lt newline hgt hi, Nat.compare_eq_gt.2 hgt]
    rfl

/-! ## The positions of a text -/

/-- The lines offer the position: it is in a column of its line or, unless this is the last one, of the terminator
that ends it. -/
def Offered (newline : Text) (lines : List Text) : Position → Prop
  | .nowhere => False
  | .cell number column => ∃ line, lines[number]? = some line ∧
      column < line.length + if number + 1 < lines.length then newline.length else 0

lemma getElem?_lineTexts (text newline : Text) (number : Nat) :
    (text.lineTexts newline)[number]? = (text.line? newline number).map (·.text) := by
  rw [lineTexts, List.getElem?_map, getElem?_lines]

/-- Where a line starts, an offset in one of its columns lies on it. -/
lemma liesOn_add_iff {line : Line} (h : text.line? newline number = some line) :
    LiesOn text newline (line.offset + column) number line.offset ↔
      column < line.text.length + if number + 1 < text.lineCount newline then newline.length else 0 := by
  obtain ⟨hstart, ⟨hin, hnext⟩ | ⟨hend, hnext⟩⟩ := line?_eq_some h
  · -- the next line starts behind the terminator
    have hmore : number + 1 < text.lineCount newline := (List.getElem?_eq_some_iff.1 hnext).1
    rw [if_pos hmore]
    constructor
    · intro hlies
      have := hlies.lt_next _ hnext
      omega
    · intro hcolumn
      refine ⟨hstart, Nat.le_add_right _ _, fun next hsome => ?_, by omega⟩
      obtain rfl := Option.some.inj (hnext.symm.trans hsome)
      omega
  · -- the line ends with the text
    have hlast : ¬ number + 1 < text.lineCount newline := Nat.not_lt.2 (List.getElem?_eq_none_iff.1 hnext)
    rw [if_neg hlast]
    constructor
    · intro hlies
      have := hlies.lt_length
      omega
    · intro hcolumn
      refine ⟨hstart, Nat.le_add_right _ _, fun next hsome => ?_, by omega⟩
      simp [hnext] at hsome

/-- **The positions with an offset are those that the lines offer.** -/
theorem offset?_isSome_iff : (text.offset? newline p).isSome ↔ Offered newline (text.lineTexts newline) p := by
  cases p with
  | nowhere => exact iff_of_false (by simp [offset?, offsetIn?]) id
  | cell number column =>
    simp only [Offered, getElem?_lineTexts, length_lineTexts, Option.isSome_iff_exists, offset?_cell_eq_some]
    constructor
    · rintro ⟨_, start, hlies, rfl⟩
      have hlt : number < (text.lines newline).length := by
        rw [length_lines]
        exact (List.getElem?_eq_some_iff.1 hlies.starts).1
      have hline := (getElem?_lines ..).symm.trans (List.getElem?_eq_getElem hlt)
      obtain rfl := Option.some.inj (hlies.starts.symm.trans (line?_eq_some hline).1)
      exact ⟨_, by rw [hline]; rfl, (liesOn_add_iff hline).1 hlies⟩
    · rintro ⟨_, hsome, hcolumn⟩
      obtain ⟨line, hline, rfl⟩ := Option.map_eq_some_iff.1 hsome
      exact ⟨_, line.offset, (liesOn_add_iff hline).2 hcolumn, rfl⟩

/-- **Offsets and positions correspond to each other, in order.**  Every offset of a text has a position, whose offset it
is; the offset of a position has this position; positions are in the order of their offsets; and a position has an
offset if the pieces of the text between its terminators offer it. -/
theorem positions_correspond_to_offsets (hne : newline ≠ []) (text : Text) :
    (∀ i < text.length, text.position newline i ≠ .nowhere ∧
      text.offset? newline (text.position newline i) = some i) ∧
    (∀ (p : Position) (i : Nat), text.offset? newline p = some i → text.position newline i = p) ∧
    (∀ i < text.length, ∀ j < text.length,
      i < j ↔ (text.position newline i).compare (text.position newline j) = .lt) ∧
    ∀ p, (text.offset? newline p).isSome ↔ Offered newline (split newline text) p := by
  refine ⟨fun i hi => ?_, fun p i h => (offset?_eq_some_iff.1 h).2, fun i hi j hj => ?_, fun p => ?_⟩
  · obtain ⟨number, start, -, hposition⟩ := position_eq newline hi
    exact ⟨by simp [hposition], offset?_eq_some_iff.2 ⟨hi, rfl⟩⟩
  · rw [compare_position newline hi hj, Nat.compare_eq_lt]
  · rw [split_eq_lineTexts hne]
    exact offset?_isSome_iff

/-- A line terminator that overlaps itself. -/
def doubled : Text := "aa".toList

/-- Three letters between two others, the first two of which end a line. -/
def overlapped : Text := "baaab".toList

/-- The second letter of the terminator is in the last column of the first line, and the letter behind it begins the
second one. -/
theorem overlapped_corresponds :
    overlapped.position doubled 2 = .cell 0 2 ∧
    overlapped.offset? doubled (overlapped.position doubled 3) = some 3 ∧
    (overlapped.position doubled 2).compare (overlapped.position doubled 3) = .lt ∧
    ¬ Offered doubled (split doubled overlapped) (.cell 0 3) := by
  have hne : doubled ≠ [] := by decide
  obtain ⟨hoffset, hposition, horder, hoffered⟩ := positions_correspond_to_offsets hne overlapped
  refine ⟨hposition (.cell 0 2) 2 (by decide), (hoffset 3 (by decide)).2, ?_, ?_⟩
  · exact (horder 2 (by decide) 3 (by decide)).1 (by decide)
  · rw [← hoffered]
    decide

end Text

end MarkupLint
