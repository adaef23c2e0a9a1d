import Mathlib.Tactic.Common
import MarkupLint.Edit

/-!
# Lines and the texts that they make

The lines of a text are the one way to write it with terminators between lines, such that no terminator
begins earlier than it has to:

* `AreLines newline pieces`: every piece but the last is ended by the first terminator that begins in it or
  after it, and no terminator is in the last one;
* `lines_join`: pieces that are lines are the lines of the text that they make;
* `areLines_lineTexts` and `join_lineTexts`: the lines of a text are lines, and make the text;
* `split_eq_lineTexts`: they are what searching for one terminator after the other gives;
* `withoutLine_join`: removing a line leaves the text that the other lines make, whatever the terminator is.
-/

namespace MarkupLint

namespace Text

variable {newline line text piece : Text} {pieces done later : List Text} {k : Nat}

/-! ## The first occurrence of a piece -/

lemma find?_cons (c : Char) (rest : Text) :
    find? piece (c :: rest) =
      if piece <+: c :: rest then some 0 else (find? piece rest).map (· + 1) := by
  simp only [find?, ← List.isPrefixOf_iff_prefix]

lemma find?_self (piece : Text) : find? piece piece = some 0 := by
  cases piece with
  | nil => rfl
  | cons c rest => rw [find?_cons, if_pos (List.prefix_refl _)]

/-- What an occurrence is: characters before, the piece and characters after it.  The characters after it do not
matter for its being the first one. -/
lemma find?_eq_some (h : find? piece text = some k) :
    ∃ before after, text = before ++ piece ++ after ∧ before.length = k ∧
      find? piece (before ++ piece) = some k := by
  induction text generalizing k with
  | nil =>
    obtain rfl : piece = [] := by
      by_contra hne
      simp [find?, hne] at h
    obtain rfl : 0 = k := by simpa [find?] using h
    exact ⟨[], [], rfl, rfl, find?_self _⟩
  | cons c rest ih =>
    rw [find?_cons] at h
    split at h
    · next hpre =>
      obtain ⟨after, hafter⟩ := hpre
      obtain rfl := Option.some.inj h
      exact ⟨[], after, hafter.symm, rfl, find?_self _⟩
    · next hpre =>
      obtain ⟨k, hk, rfl⟩ := Option.map_eq_some_iff.1 h
      obtain ⟨before, after, rfl, rfl, hfirst⟩ := ih hk
      refine ⟨c :: before, after, rfl, rfl, ?_⟩
      rw [List.cons_append, find?_cons, if_neg, hfirst]
      · rfl
      · -- a piece that begins earlier would begin earlier in the whole text
        intro hearly
        refine hpre (hearly.trans ?_)
        rw [← List.cons_append]
        exact List.prefix_append _ _

lemma find?_add_length_le (h : find? piece text = some k) : k + piece.length ≤ text.length := by
  obtain ⟨before, after, rfl, rfl, -⟩ := find?_eq_some h
  simp only [List.length_append]
  omega

lemma find?_append (h : find? piece text = some k) (more : Text) :
    find? piece (text ++ more) = some k := by
  induction text generalizing k with
  | nil =>
    obtain rfl : piece = [] := by
      by_contra hne
      simp [find?, hne] at h
    obtain rfl : 0 = k := by simpa [find?] using h
    cases more <;> rfl
  | cons c rest ih =>
    rw [find?_cons] at h
    rw [List.cons_append, find?_cons]
    split at h
    · next hpre =>
      rw [if_pos (hpre.trans (by rw [← List.cons_append]; exact List.prefix_append _ _))]
      exact h
    · next hpre =>
      obtain ⟨k, hk, rfl⟩ := Option.map_eq_some_iff.1 h
      have hlen := find?_add_length_le hk
      rw [if_neg, ih hk]
      · rfl
      · intro hearly
        rw [← List.cons_append] at hearly
        exact hpre (List.prefix_of_prefix_length_le hearly (List.prefix_append _ _)
          (by rw [List.length_cons]; omega))

/-! ## Lines -/

/-- A terminator ends the line: no terminator begins in the line before the one after it. -/
def Ended (newline line : Text) : Prop := find? newline (line ++ newline) = some line.length

instance : Decidable (Ended newline line) := inferInstanceAs (Decidable (_ = _))

/-- **The pieces are the lines of a text.** -/
def AreLines (newline : Text) : List Text → Prop
  | [] => False
  | [last] => find? newline last = none
  | line :: next :: later => Ended newline line ∧ AreLines newline (next :: later)

lemma ended_cons {c : Char} (h : Ended newline (c :: line)) :
    ¬ newline <+: c :: (line ++ newline) ∧ Ended newline line := by
  unfold Ended at h
  rw [List.cons_append, find?_cons] at h
  split at h
  · simp at h
  · next hpre => exact ⟨hpre, by simpa [Ended] using h⟩

/-- A line that a terminator ends has no terminator inside. -/
lemma Ended.find?_eq_none (hne : newline ≠ []) (h : Ended newline line) : find? newline line = none := by
  cases hk : find? newline line with
  | none => rfl
  | some k =>
    have hlen := find?_add_length_le hk
    have hpos := List.length_pos_iff.2 hne
    obtain rfl : k = line.length := Option.some.inj ((find?_append hk newline).symm.trans h)
    omega

lemma areLines_cons (h : later ≠ []) :
    AreLines newline (line :: later) ↔ Ended newline line ∧ AreLines newline later := by
  cases later with
  | nil => exact absurd rfl h
  | cons next later => rfl

lemma areLines_append (h : later ≠ []) :
    AreLines newline (done ++ later) ↔ (∀ line ∈ done, Ended newline line) ∧ AreLines newline later := by
  induction done with
  | nil => simp
  | cons line done ih =>
    rw [List.cons_append, areLines_cons (by simp [h]), ih, List.forall_mem_cons, and_assoc]

/-- Lines without one of them are lines. -/
lemma AreLines.erase (hne : newline ≠ []) (h : AreLines newline (done ++ line :: later))
    (hrest : done ++ later ≠ []) : AreLines newline (done ++ later) := by
  obtain ⟨hdone, hline⟩ := (areLines_append (by simp)).1 h
  cases later with
  | cons next later => exact (areLines_append (by simp)).2 ⟨hdone, hline.2⟩
  | nil =>
    -- the last line goes, and the one before it becomes the last one
    rw [List.append_nil] at hrest ⊢
    obtain ⟨before, last, rfl⟩ := (List.eq_nil_or_concat done).resolve_left hrest
    rw [List.concat_eq_append] at hdone ⊢
    refine (areLines_append (by simp)).2 ⟨fun p hp => hdone p (by simp [hp]), ?_⟩
    exact (hdone last (by simp)).find?_eq_none hne

/-- Some of the lines of a text are lines. -/
lemma AreLines.sublist (hne : newline ≠ []) {kept : List Text} (h : AreLines newline pieces)
    (hkept : kept.Sublist pieces) (hsome : kept ≠ []) : AreLines newline kept := by
  induction hkept with
  | slnil => exact absurd rfl hsome
  | @cons kept later line hkept ih =>
    have hlater : later ≠ [] := fun hnil => hsome (List.sublist_nil.1 (hnil ▸ hkept))
    exact ih ((areLines_cons hlater).1 h).2 hsome
  | @cons_cons kept later line hkept ih =>
    by_cases hnone : kept = []
    · -- the line becomes the last one
      subst hnone
      cases later with
      | nil => exact h
      | cons next later => exact h.1.find?_eq_none hne
    · have hlater : later ≠ [] := fun hnil => hnone (List.sublist_nil.1 (hnil ▸ hkept))
      obtain ⟨hline, hlines⟩ := (areLines_cons hlater).1 h
      exact (areLines_cons hnone).2 ⟨hline, ih hlines hnone⟩

/-- A line feed ends a line that has none. -/
lemma ended_lineFeed (h : '\n' ∉ line) : Ended lineFeed line := by
  induction line with
  | nil => exact find?_self _
  | cons c line ih =>
    rw [List.mem_cons, not_or] at h
    have hstart : ¬ lineFeed <+: c :: (line ++ lineFeed) := fun hpre => h.1 (List.cons_prefix_cons.1 hpre).1
    have hline : find? lineFeed (line ++ lineFeed) = some line.length := ih h.2
    rw [Ended, List.cons_append, find?_cons, if_neg hstart, hline]
    rfl

lemma notMem_of_find?_lineFeed (h : find? lineFeed line = none) : '\n' ∉ line := by
  induction line with
  | nil => exact List.not_mem_nil
  | cons c line ih =>
    rw [find?_cons] at h
    split at h
    · cases h
    · next hstart =>
      rw [List.mem_cons, not_or]
      refine ⟨?_, ih (Option.map_eq_none_iff.1 h)⟩
      rintro rfl
      exact hstart (List.prefix_append ['\n'] line)

/-- The lines of a text whose lines line feeds end are those without a line feed. -/
lemma areLines_lineFeed : AreLines lineFeed pieces ↔ pieces ≠ [] ∧ ∀ line ∈ pieces, '\n' ∉ line := by
  have hne : lineFeed ≠ [] := by decide
  induction pieces with
  | nil => exact iff_of_false id (by simp)
  | cons line later ih =>
    by_cases hlater : later = []
    · subst hlater
      refine ⟨fun h => ⟨by simp, by simpa using notMem_of_find?_lineFeed h⟩, fun h => ?_⟩
      exact (ended_lineFeed (by simpa using h.2)).find?_eq_none hne
    · rw [areLines_cons hlater, List.forall_mem_cons]
      constructor
      · rintro ⟨hended, hlines⟩
        exact ⟨by simp, notMem_of_find?_lineFeed (hended.find?_eq_none hne), (ih.1 hlines).2⟩
      · rintro ⟨-, hline, hlines⟩
        exact ⟨ended_lineFeed hline, ih.2 ⟨hlater, hlines⟩⟩

/-! ### The text that lines make -/

/-- Lines with a terminator after each of them. -/
def closed (newline : Text) (done : List Text) : Text := done.flatMap (· ++ newline)

lemma closed_cons : closed newline (line :: done) = line ++ newline ++ closed newline done := by
  simp [closed]

lemma join_cons (h : later ≠ []) : join newline (line :: later) = line ++ newline ++ join newline later := by
  cases later with
  | nil => exact absurd rfl h
  | cons next later => rfl

/-- Some of the lines make a part of the text that all of them make. -/
lemma join_sublist (newline : Text) {kept : List Text} (h : kept.Sublist pieces) :
    (join newline kept).Sublist (join newline pieces) := by
  induction h with
  | slnil => exact .slnil
  | @cons kept later line hkept ih =>
    by_cases hlater : later = []
    · subst hlater
      obtain rfl := List.sublist_nil.1 hkept
      exact List.nil_sublist _
    · rw [join_cons hlater]
      exact ih.trans (List.sublist_append_right _ _)
  | @cons_cons kept later line hkept ih =>
    by_cases hlater : later = []
    · subst hlater
      obtain rfl := List.sublist_nil.1 hkept
      exact .refl _
    · rw [join_cons hlater]
      by_cases hnone : kept = []
      · rw [hnone, List.append_assoc]
        exact List.sublist_append_left _ _
      · rw [join_cons hnone]
        exact ih.append_left _

lemma join_append (h : later ≠ []) :
    join newline (done ++ later) = closed newline done ++ join newline later := by
  induction done with
  | nil => simp [closed]
  | cons line done ih =>
    rw [List.cons_append, join_cons (by simp [h]), ih, closed_cons]
    simp only [List.append_assoc]

lemma closed_eq_join (h : done ≠ []) : closed newline done = join newline done ++ newline := by
  induction done with
  | nil => exact absurd rfl h
  | cons line done ih =>
    cases done with
    | nil => simp [closed, join]
    | cons next done =>
      have hjoin : join newline (line :: next :: done) = line ++ newline ++ join newline (next :: done) :=
        join_cons (List.cons_ne_nil next done)
      rw [closed_cons, ih (List.cons_ne_nil _ _), hjoin]
      simp only [List.append_assoc]

/-- Only the empty line makes the empty text. -/
lemma eq_singleton_of_join_eq_nil (hne : newline ≠ []) (h : pieces ≠ []) (hjoin : join newline pieces = []) :
    pieces = [[]] := by
  cases pieces with
  | nil => exact absurd rfl h
  | cons line later =>
    cases later with
    | nil => exact congrArg (fun t => [t]) hjoin
    | cons next later =>
      rw [join_cons (by simp)] at hjoin
      simp [hne] at hjoin

/-- Every text is made of lines. -/
lemma exists_areLines (hne : newline ≠ []) (text : Text) :
    ∃ pieces, AreLines newline pieces ∧ join newline pieces = text := by
  induction hn : text.length using Nat.strongRecOn generalizing text with
  | _ n ih =>
    cases hk : find? newline text with
    | none => exact ⟨[text], hk, rfl⟩
    | some k =>
      obtain ⟨before, after, rfl, rfl, hended⟩ := find?_eq_some hk
      have hpos := List.length_pos_iff.2 hne
      obtain ⟨pieces, hpieces, hjoin⟩ := ih after.length
        (by rw [← hn]; simp only [List.length_append]; omega) after rfl
      have hsome : pieces ≠ [] := by
        rintro rfl
        exact hpieces
      refine ⟨before :: pieces, (areLines_cons hsome).2 ⟨hended, hpieces⟩, ?_⟩
      rw [join_cons hsome, hjoin]

/-! ## Where lines start -/

/-- The pieces as lines, the first of which starts at `offset`. -/
def layout (terminator : Nat) : Nat → List Text → List Line
  | _, [] => []
  | offset, line :: later =>
    ⟨line, offset⟩ :: layout terminator (offset + line.length + terminator) later

lemma map_text_layout (terminator offset : Nat) (pieces : List Text) :
    (layout terminator offset pieces).map (·.text) = pieces := by
  induction pieces generalizing offset with
  | nil => rfl
  | cons line later ih => rw [layout, List.map_cons, ih]

lemma layout_append (offset : Nat) :
    layout newline.length offset (done ++ later) = layout newline.length offset done ++
      layout newline.length (offset + (closed newline done).length) later := by
  induction done generalizing offset with
  | nil => simp [layout, closed]
  | cons line done ih =>
    rw [List.cons_append, layout, ih, closed_cons, layout]
    simp only [List.length_append, List.cons_append, Nat.add_assoc]

lemma length_layout (terminator offset : Nat) (pieces : List Text) :
    (layout terminator offset pieces).length = pieces.length := by
  rw [← List.length_map (f := (·.text)), map_text_layout]

/-- Passing the characters of a terminator. -/
lemma startsFrom_skip (passed rest : Text) (offset : Nat) :
    startsFrom newline passed.length offset (passed ++ rest) =
      startsFrom newline 0 (offset + passed.length) rest := by
  induction passed generalizing offset with
  | nil => rfl
  | cons c passed ih =>
    rw [List.length_cons, List.cons_append, startsFrom, ih]
    congr 1
    omega

/-- A line that a terminator ends, and what follows it. -/
lemma startsFrom_ended (hne : newline ≠ []) (h : Ended newline line) (rest : Text) (offset : Nat) :
    startsFrom newline 0 offset (line ++ newline ++ rest) =
      (offset + line.length + newline.length) ::
        startsFrom newline 0 (offset + line.length + newline.length) rest := by
  induction line generalizing offset with
  | nil =>
    obtain ⟨c, more, rfl⟩ := List.exists_cons_of_ne_nil hne
    have hpre : (c :: more).isPrefixOf (c :: (more ++ rest)) = true :=
      List.isPrefixOf_iff_prefix.2 (by rw [← List.cons_append]; exact List.prefix_append _ _)
    rw [List.nil_append, List.cons_append, startsFrom, if_pos hpre]
    rw [List.length_cons, Nat.add_sub_cancel, startsFrom_skip, List.length_nil]
    congr 2
    omega
  | cons c line ih =>
    obtain ⟨hpre, hended⟩ := ended_cons h
    have hnot : ¬ newline.isPrefixOf (c :: (line ++ newline ++ rest)) = true := by
      rw [List.isPrefixOf_iff_prefix]
      intro hearly
      refine hpre (List.prefix_of_prefix_length_le hearly ?_ ?_)
      · rw [← List.cons_append]
        exact List.prefix_append _ _
      · simp only [List.length_cons, List.length_append]
        omega
    rw [List.cons_append, List.cons_append, startsFrom, if_neg hnot, ih hended, List.length_cons]
    congr 2 <;> omega

lemma startsFrom_eq_nil (h : find? newline line = none) (offset : Nat) :
    startsFrom newline 0 offset line = [] := by
  induction line generalizing offset with
  | nil => rfl
  | cons c line ih =>
    rw [find?_cons] at h
    split at h
    · cases h
    · next hpre =>
      rw [startsFrom, if_neg (by rwa [List.isPrefixOf_iff_prefix])]
      exact ih (Option.map_eq_none_iff.1 h) _

lemma startsFrom_join (hne : newline ≠ []) (h : AreLines newline pieces) (offset : Nat) :
    offset :: startsFrom newline 0 offset (join newline pieces) =
      (layout newline.length offset pieces).map (·.offset) := by
  induction pieces generalizing offset with
  | nil => exact h.elim
  | cons line later ih =>
    cases later with
    | nil => rw [join, startsFrom_eq_nil h, layout, layout, List.map_cons, List.map_nil]
    | cons next later =>
      rw [join_cons (by simp), startsFrom_ended hne h.1, ih h.2]
      rfl

/-- The lines of the text that lines make start where they are laid out. -/
lemma lineStarts_join (hne : newline ≠ []) (h : AreLines newline pieces) :
    (join newline pieces).lineStarts newline = (layout newline.length 0 pieces).map (·.offset) := by
  unfold lineStarts
  rw [if_neg (by simpa using hne), startsFrom_join hne h]

lemma linesFrom_join (newline : Text) (offset : Nat) (h : pieces ≠ []) :
    linesFrom newline.length offset (join newline pieces)
        ((layout newline.length offset pieces).map (·.offset)).tail =
      layout newline.length offset pieces := by
  induction pieces generalizing offset with
  | nil => exact absurd rfl h
  | cons line later ih =>
    cases later with
    | nil => rfl
    | cons next later =>
      have hih := ih (offset + line.length + newline.length) (by simp)
      rw [layout, List.map_cons, List.tail_cons] at hih
      rw [join_cons (by simp), layout, layout, List.map_cons, List.tail_cons, List.map_cons, linesFrom]
      congr 1
      · congr 1
        rw [show offset + line.length + newline.length - newline.length - offset = line.length by omega,
          List.append_assoc, List.take_left]
      · rw [show offset + line.length + newline.length - offset = (line ++ newline).length by
          rw [List.length_append]; omega, List.drop_left]
        exact hih

/-- **Pieces that are lines are the lines of the text that they make.** -/
theorem lines_join (hne : newline ≠ []) (h : AreLines newline pieces) :
    (join newline pieces).lines newline = layout newline.length 0 pieces := by
  unfold lines
  rw [lineStarts_join hne h]
  refine linesFrom_join newline 0 ?_
  rintro rfl
  exact h

/-! ## The lines of a text -/

/-- The characters of the lines of a text. -/
def lineTexts (text newline : Text) : List Text := (text.lines newline).map (·.text)

lemma length_lines (text newline : Text) : (text.lines newline).length = text.lineCount newline := by
  have hlines : ∀ (terminator offset : Nat) (rest : Text) (later : List Nat),
      (linesFrom terminator offset rest later).length = later.length + 1 := by
    intro terminator offset rest later
    induction later generalizing offset rest with
    | nil => rfl
    | cons next later ih => rw [linesFrom, List.length_cons, ih, List.length_cons]
  rw [lines, hlines]
  rfl

lemma length_lineTexts (text newline : Text) : (text.lineTexts newline).length = text.lineCount newline := by
  rw [lineTexts, List.length_map, length_lines]

lemma lineTexts_join (hne : newline ≠ []) (h : AreLines newline pieces) :
    (join newline pieces).lineTexts newline = pieces := by
  rw [lineTexts, lines_join hne h, map_text_layout]

/-- **The lines of a text are lines.** -/
theorem areLines_lineTexts (hne : newline ≠ []) (text : Text) :
    AreLines newline (text.lineTexts newline) := by
  obtain ⟨pieces, hpieces, rfl⟩ := exists_areLines hne text
  rwa [lineTexts_join hne hpieces]

/-- **The lines of a text make the text.** -/
theorem join_lineTexts (hne : newline ≠ []) (text : Text) :
    join newline (text.lineTexts newline) = text := by
  obtain ⟨pieces, hpieces, rfl⟩ := exists_areLines hne text
  rw [lineTexts_join hne hpieces]

lemma lines_eq_layout (hne : newline ≠ []) (text : Text) :
    text.lines newline = layout newline.length 0 (text.lineTexts newline) := by
  conv_lhs => rw [← join_lineTexts hne text]
  exact lines_join hne (areLines_lineTexts hne text)

/-- The starts of the lines from one of them on. -/
lemma drop_lineStarts_join (hne : newline ≠ []) (h : AreLines newline (done ++ later)) :
    ((join newline (done ++ later)).lineStarts newline).drop done.length =
      (layout newline.length (closed newline done).length later).map (·.offset) := by
  rw [lineStarts_join hne h, layout_append, List.map_append,
    List.drop_left' (by rw [List.length_map, length_layout]), Nat.zero_add]

lemma linesAt_join (hne : newline ≠ []) (h : AreLines newline (done ++ later)) (hlater : later ≠ []) :
    (join newline (done ++ later)).linesAt newline done.length =
      layout newline.length (closed newline done).length later := by
  obtain ⟨line, more, rfl⟩ := List.exists_cons_of_ne_nil hlater
  have hlines := linesFrom_join newline (closed newline done).length hlater
  rw [layout, List.map_cons, List.tail_cons] at hlines
  unfold linesAt
  rw [drop_lineStarts_join hne h, layout, List.map_cons]
  dsimp only
  rw [join_append hlater, List.drop_left]
  exact hlines

/-! ### The pieces between terminators -/

/-- Behind a terminator the text is shorter. -/
lemma length_sub_lt (hne : newline ≠ []) (h : find? newline text = some k) :
    text.length - (k + newline.length) < text.length := by
  have hpos := List.length_pos_iff.2 hne
  have hlen := find?_add_length_le h
  omega

/-- The pieces of a text between its terminators.  The first terminator is searched for from the start of the text,
and each further one from the end of the one before. -/
def split (newline text : Text) : List Text :=
  if hne : newline = [] then [text]
  else
    match hk : find? newline text with
    | none => [text]
    | some k =>
      have := length_sub_lt hne hk
      text.take k :: split newline (text.drop (k + newline.length))
termination_by text.length

lemma split_of_find?_none (h : find? newline text = none) : split newline text = [text] := by
  rw [split]
  split
  · rfl
  · split
    · rfl
    · next hk => simp [h] at hk

lemma split_of_find?_some (hne : newline ≠ []) (h : find? newline text = some k) :
    split newline text = text.take k :: split newline (text.drop (k + newline.length)) := by
  rw [split, dif_neg hne]
  split
  · next hk => simp [h] at hk
  · next hk =>
    obtain rfl := Option.some.inj (h.symm.trans hk)
    rfl

lemma split_join (hne : newline ≠ []) (h : AreLines newline pieces) : split newline (join newline pieces) = pieces := by
  induction pieces with
  | nil => exact h.elim
  | cons line later ih =>
    cases later with
    | nil => exact split_of_find?_none h
    | cons next later =>
      have hfirst : find? newline (line ++ newline ++ join newline (next :: later)) = some line.length :=
        find?_append h.1 _
      rw [join_cons (by simp), split_of_find?_some hne hfirst, List.append_assoc, List.take_left,
        ← List.append_assoc, ← List.length_append, List.drop_left, ih h.2]

/-- **The lines of a text are the pieces between its terminators.** -/
theorem split_eq_lineTexts (hne : newline ≠ []) (text : Text) :
    split newline text = text.lineTexts newline := by
  conv_lhs => rw [← join_lineTexts hne text]
  exact split_join hne (areLines_lineTexts hne text)

/-! ## Removing a line -/

/-- **Removing a line leaves the text that the other lines make.** -/
theorem withoutLine_join (hne : newline ≠ []) (h : AreLines newline (done ++ line :: later)) :
    (Edit.withoutLine (join newline (done ++ line :: later)) done.length newline).text =
      join newline (done ++ later) := by
  unfold Edit.withoutLine
  rw [if_neg (by omega), Int.toNat_natCast, drop_lineStarts_join hne h, layout, List.map_cons]
  cases later with
  | nil =>
    rw [layout, List.map_nil, List.append_nil]
    dsimp only
    split
    · next hzero =>
      obtain rfl : done = [] := List.length_eq_zero_iff.1 (by omega)
      rfl
    · next hzero =>
      -- the last line goes with the terminator before it
      have hdone : done ≠ [] := by
        rintro rfl
        exact hzero rfl
      rw [join_append (by simp), closed_eq_join hdone]
      simp [Edit.cut]
  | cons next later =>
    rw [layout, List.map_cons]
    dsimp only [Edit.cut]
    rw [join_append (by simp), join_append (by simp), join_cons (by simp), List.take_left]
    congr 1
    rw [← List.append_assoc, List.drop_left' (by simp only [List.length_append, Nat.add_assoc])]

end Text

end MarkupLint
