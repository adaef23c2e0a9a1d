import MarkupLint.Proofs.Lines.Starts

/-!
# Lines and positions

`line?_eq_some` says all that is known of a line: where it starts, and that it fills the text up to the
terminator before the next line.  `position_eq` says all that is known of the position of an offset of the text:
its line is the last one that starts at or before it, and its column is counted from there.  Consequently
every offset of the text lies on one of its lines (`exists_line`), and positions are in the order of their offsets
(`position_mono`).
-/

namespace MarkupLint

namespace Text

variable {text newline : Text} {line : Line} {number : Nat}

/-! ## Lines -/

lemma getElem?_linesFrom (text : Text) (terminator offset : Nat) (later : List Nat)
    (hsorted : (offset :: later).Pairwise (· < ·)) (number : Nat) :
    (linesFrom terminator offset (text.drop offset) later)[number]? =
      match (offset :: later).drop number with
      | [] => none
      | [start] => some ⟨text.drop start, start⟩
      | start :: next :: _ => some ⟨text.slice start (next - terminator), start⟩ := by
  induction later generalizing offset number with
  | nil => cases number <;> simp [linesFrom]
  | cons next later ih =>
    obtain ⟨hlt, hsorted⟩ := List.pairwise_cons.1 hsorted
    have hlt := hlt next (List.mem_cons_self ..)
    cases number with
    | zero => rfl
    | succ number =>
      have hdrop : (text.drop offset).drop (next - offset) = text.drop next := by
        rw [List.drop_drop, Nat.add_sub_of_le (Nat.le_of_lt hlt)]
      simp only [linesFrom, List.getElem?_cons_succ, List.drop_succ_cons, hdrop, ih next hsorted number]

/-- The line of a number is the one at that place in the list of lines. -/
lemma getElem?_lines (text newline : Text) (number : Nat) :
    (text.lines newline)[number]? = text.line? newline number :=
  getElem?_linesFrom text newline.length 0 (text.lineStarts newline).tail
    (pairwise_lineStarts text newline) number

/-- **Where a line lies.**  It starts where the starts of lines tell, and its terminator goes up to the next
line; the last line has none and goes up to the end of the text. -/
theorem line?_eq_some (h : text.line? newline number = some line) :
    (text.lineStarts newline)[number]? = some line.offset ∧
      (line.offset + line.text.length + newline.length ≤ text.length ∧
          (text.lineStarts newline)[number + 1]? = some (line.offset + line.text.length + newline.length) ∨
        line.offset + line.text.length = text.length ∧ (text.lineStarts newline)[number + 1]? = none) := by
  have hspaced := (spaced_lineStarts text newline).sublist (List.drop_sublist number _)
  have hle : ∀ x ∈ (text.lineStarts newline).drop number, x ≤ text.length :=
    fun x hx => le_length_of_mem_lineStarts (List.mem_of_mem_drop hx)
  have hstart : ((text.lineStarts newline).drop number)[0]? = (text.lineStarts newline)[number]? :=
    List.getElem?_drop
  have hnext : ((text.lineStarts newline).drop number)[1]? = (text.lineStarts newline)[number + 1]? :=
    List.getElem?_drop
  unfold line? lineIn? at h
  split at h
  · cases h
  · next start hdrop =>
    obtain rfl := Option.some.inj h
    rw [hdrop] at hstart hnext hle
    have := hle start (List.mem_cons_self ..)
    refine ⟨hstart.symm, Or.inr ⟨?_, hnext.symm⟩⟩
    simp only [List.length_drop]
    omega
  · next start next later hdrop =>
    obtain rfl := Option.some.inj h
    rw [hdrop] at hstart hnext hle hspaced
    have hgap := (List.pairwise_cons.1 hspaced).1 next (List.mem_cons_self ..)
    have hin := hle next (by simp)
    have hlength : (text.slice start (next - newline.length)).length = next - newline.length - start := by
      simp only [slice, List.length_take, List.length_drop]
      omega
    have hstop : start + (next - newline.length - start) + newline.length = next := by omega
    refine ⟨hstart.symm, Or.inl ?_⟩
    rw [hlength, hstop]
    exact ⟨hin, hnext.symm⟩

/-- A line lies in the text. -/
lemma add_length_le_of_mem_lines (h : line ∈ text.lines newline) :
    line.offset + line.text.length ≤ text.length := by
  obtain ⟨number, hnumber⟩ := List.getElem?_of_mem h
  rw [getElem?_lines] at hnumber
  have := (line?_eq_some hnumber).2
  omega

/-- A line is what the text has at its offset. -/
lemma prefix_drop_of_mem_lines (h : line ∈ text.lines newline) : line.text <+: text.drop line.offset := by
  obtain ⟨number, hnumber⟩ := List.getElem?_of_mem h
  rw [getElem?_lines] at hnumber
  unfold line? lineIn? at hnumber
  split at hnumber
  · cases hnumber
  · obtain rfl := Option.some.inj hnumber
    exact List.prefix_rfl
  · obtain rfl := Option.some.inj hnumber
    exact List.take_prefix _ _

/-! ## Positions -/

/-- Of numbers in increasing order, those that are no greater than `i` come first. -/
lemma le_iff_lt_countP {starts : List Nat} (hsorted : starts.Pairwise (· < ·)) {i k x : Nat}
    (h : starts[k]? = some x) : x ≤ i ↔ k < starts.countP (· ≤ i) := by
  induction starts generalizing k with
  | nil => cases h
  | cons y starts ih =>
    obtain ⟨hlt, hsorted⟩ := List.pairwise_cons.1 hsorted
    by_cases hy : y ≤ i
    · rw [List.countP_cons_of_pos (by simpa using hy)]
      cases k with
      | zero =>
        obtain rfl := Option.some.inj h
        simp [hy]
      | succ k => rw [ih hsorted h, Nat.succ_lt_succ_iff]
    · have hall : ∀ z ∈ y :: starts, ¬ z ≤ i := by
        intro z hz
        rcases List.mem_cons.1 hz with rfl | hz
        · exact hy
        · have := hlt z hz
          omega
      have hzero : (y :: starts).countP (· ≤ i) = 0 := List.countP_eq_zero.2 (by simpa using hall)
      rw [hzero]
      exact iff_of_false (hall x (List.mem_of_getElem? h)) (Nat.not_lt_zero k)

/-- The offset `i` of the text lies on the line of the number, which starts at `start`. -/
structure LiesOn (text newline : Text) (i number start : Nat) : Prop where
  /-- The line starts there. -/
  starts : (text.lineStarts newline)[number]? = some start
  /-- It starts at or before the offset. -/
  start_le : start ≤ i
  /-- The next line starts after it. -/
  lt_next : ∀ next, (text.lineStarts newline)[number + 1]? = some next → i < next
  /-- The text has the offset. -/
  lt_length : i < text.length

/-- **The position of an offset of the text.**  Its line is the last one that starts at or before the offset,
and its column is counted from there. -/
theorem position_eq (newline : Text) {i : Nat} (h : i < text.length) :
    ∃ number start, LiesOn text newline i number start ∧ text.position newline i = .cell number (i - start) := by
  have hsorted := pairwise_lineStarts text newline
  have hpos : 0 < (text.lineStarts newline).countP (· ≤ i) :=
    (le_iff_lt_countP hsorted (k := 0) rfl).1 (Nat.zero_le i)
  have hlt : (text.lineStarts newline).countP (· ≤ i) - 1 < (text.lineStarts newline).length := by
    have := List.countP_le_length (p := (· ≤ i)) (l := text.lineStarts newline)
    omega
  have hstart := List.getElem?_eq_getElem hlt
  refine ⟨_, _, ⟨hstart, (le_iff_lt_countP hsorted hstart).2 (by omega), fun next hnext => ?_, h⟩, ?_⟩
  · have := (le_iff_lt_countP hsorted hnext (i := i)).not.2 (by omega)
    omega
  · rw [position, positionIn, if_neg (by omega)]
    simp [List.getD_eq_getElem?_getD, hstart]

/-- **Every offset of the text lies on one of its lines**, which is the line of its position. -/
theorem exists_line (newline : Text) {i : Nat} (h : i < text.length) :
    ∃ number column line, text.position newline i = .cell number column ∧
      (text.lines newline)[number]? = some line ∧ i = line.offset + column ∧
      column < line.text.length + newline.length := by
  obtain ⟨number, start, ⟨hstart, hle, hnext, -⟩, hposition⟩ := position_eq newline h
  obtain ⟨line, hline⟩ : ∃ line, text.line? newline number = some line := by
    have hlt := (List.getElem?_eq_some_iff.1 hstart).1
    unfold line? lineIn?
    split
    · next hdrop =>
      have := List.drop_eq_nil_iff.1 hdrop
      omega
    · exact ⟨_, rfl⟩
    · exact ⟨_, rfl⟩
  obtain ⟨hoffset, hstop⟩ := line?_eq_some hline
  obtain rfl := Option.some.inj (hstart.symm.trans hoffset)
  refine ⟨number, i - line.offset, line, hposition, (getElem?_lines ..).trans hline, by omega, ?_⟩
  rcases hstop with ⟨-, hsome⟩ | ⟨hend, -⟩
  · have := hnext _ hsome
    omega
  · omega

/-- The line of a later offset is not before that of an earlier one: the line after it would start at or before the
earlier offset. -/
lemma LiesOn.number_le {i j number number' start start' : Nat} (h : LiesOn text newline i number start)
    (h' : LiesOn text newline j number' start') (hij : i ≤ j) : number ≤ number' := by
  by_contra hlt
  obtain ⟨hnumber, rfl⟩ := List.getElem?_eq_some_iff.1 h.starts
  have hle := h.start_le
  have hnumber' : number' + 1 < (text.lineStarts newline).length := by omega
  have hnext := h'.lt_next _ (List.getElem?_eq_getElem hnumber')
  rcases Nat.lt_or_eq_of_le (show number' + 1 ≤ number by omega) with hfar | rfl
  · have := List.pairwise_iff_getElem.1 (pairwise_lineStarts text newline) _ _ hnumber' hnumber hfar
    omega
  · omega

/-- **Positions are in the order of their offsets.** -/
theorem position_mono (newline : Text) {i j : Nat} (hij : i ≤ j) (hj : j < text.length) :
    ((text.position newline i).compare (text.position newline j)).isLE := by
  obtain ⟨k, start, hlies, hi⟩ := position_eq newline (Nat.lt_of_le_of_lt hij hj)
  obtain ⟨k', start', hlies', hj'⟩ := position_eq newline hj
  rw [hi, hj', Position.compare, Ordering.isLE_then_iff_or]
  rcases Nat.lt_or_eq_of_le (hlies.number_le hlies' hij) with hlt | rfl
  · exact Or.inl (Int.compare_eq_lt.2 (Int.ofNat_lt.2 hlt))
  · obtain rfl := Option.some.inj (hlies.starts.symm.trans hlies'.starts)
    exact Or.inr ⟨Int.compare_eq_eq.2 rfl, Std.isLE_compare.2 (by simp only [Position.column]; omega)⟩

end Text

end MarkupLint
