import Mathlib.Algebra.GroupWithZero.Nat
import Mathlib.Data.List.TakeWhile
import MarkupLint.Proofs.Rule.HeadingLines

/-!
# The words of a section

A section reaches from its heading to the next heading of its level or of a smaller one, and its words are those of
all lines on the way that have no heading.  The rule on short sections adds the words of a line to all the sections
that are open at once.

* `sizing_perm`: each open section closes with the words that its extent in the lines ahead adds to it;
* `size_rule_counts_extents`: so the advice is about the sections with too few words in their whole extent.
-/

namespace MarkupLint

namespace Headings

/-- The lines up to the next heading of the given level or of a smaller one. -/
def extent (level : Nat) (lines : List Line) : List Line :=
  lines.takeWhile fun line => (heading? sizedCommands line).all (level < ·.level)

/-- The number of words on the lines that have no heading. -/
def wordsOf (lines : List Line) : Nat :=
  ((lines.filter fun line => (heading? sizedCommands line).isNone).map (·.text.words.length)).sum

/-- The headings, each with the number of words in its section. -/
def measured : List Line → List (Heading × Nat)
  | [] => []
  | line :: after =>
    ((heading? sizedCommands line).map fun h => (h, wordsOf (extent h.level after))).toList ++ measured after

variable {line : Line} {lines : List Line} {h : Heading} {level : Nat} {sections : List Section}

lemma wordsOf_extent_cons_none (hline : heading? sizedCommands line = none) :
    wordsOf (extent level (line :: lines)) = line.text.words.length + wordsOf (extent level lines) := by
  unfold extent wordsOf
  rw [List.takeWhile_cons_of_pos (by rw [hline]; rfl), List.filter_cons_of_pos (by rw [hline]; rfl), List.map_cons,
    List.sum_cons]

lemma wordsOf_extent_cons_inner (hline : heading? sizedCommands line = some h) (hlevel : level < h.level) :
    wordsOf (extent level (line :: lines)) = wordsOf (extent level lines) := by
  unfold extent wordsOf
  rw [List.takeWhile_cons_of_pos (by simp [hline, hlevel]), List.filter_cons_of_neg (by simp [hline])]

lemma wordsOf_extent_cons_closing (hline : heading? sizedCommands line = some h) (hlevel : h.level ≤ level) :
    wordsOf (extent level (line :: lines)) = 0 := by
  unfold extent
  rw [List.takeWhile_cons_of_neg (by simp [hline, hlevel])]
  rfl

/-- The section at its end, given the lines ahead. -/
def Section.finish (lines : List Line) (s : Section) : Section :=
  { s with words := s.words + wordsOf (extent s.level lines) }

/-- Open sections are inside one another, innermost first. -/
def IsStack (sections : List Section) : Prop := sections.Pairwise fun inner outer => outer.level < inner.level

lemma IsStack.level_lt (hstack : IsStack sections) :
    ∀ s ∈ sections.dropWhile (level ≤ ·.level), s.level < level := by
  intro s hs
  induction sections with
  | nil => cases hs
  | cons inner sections ih =>
    obtain ⟨hinner, hrest⟩ := List.pairwise_cons.1 hstack
    by_cases hlevel : level ≤ inner.level
    · rw [List.dropWhile_cons_of_pos (by simpa using hlevel)] at hs
      exact ih hrest hs
    · rw [List.dropWhile_cons_of_neg (by simpa using hlevel)] at hs
      rcases List.mem_cons.1 hs with rfl | hs
      · omega
      · have := hinner s hs
        omega

lemma IsStack.push (hstack : IsStack sections) (s : Section) :
    IsStack (s :: sections.dropWhile (s.level ≤ ·.level)) :=
  List.pairwise_cons.2 ⟨hstack.level_lt, hstack.sublist (List.dropWhile_sublist _)⟩

/-- A line without a heading counts for all sections. -/
lemma finish_add_words (hline : heading? sizedCommands line = none) (s : Section) :
    Section.finish lines { s with words := s.words + line.text.words.length } = s.finish (line :: lines) := by
  unfold Section.finish
  rw [wordsOf_extent_cons_none hline, ← Nat.add_assoc]
  rfl

/-- A heading ends the sections that it closes, and counts for none of the others. -/
lemma map_finish_cons (hstack : IsStack sections) (hline : heading? sizedCommands line = some h) :
    sections.map (·.finish (line :: lines)) =
      sections.takeWhile (h.level ≤ ·.level) ++ (sections.dropWhile (h.level ≤ ·.level)).map (·.finish lines) := by
  have hclosed : (sections.takeWhile (h.level ≤ ·.level)).map (·.finish (line :: lines)) =
      sections.takeWhile (h.level ≤ ·.level) := by
    refine (List.map_congr_left fun s hs => ?_).trans (List.map_id _)
    have hlevel := List.mem_takeWhile_imp hs
    rw [Section.finish, wordsOf_extent_cons_closing hline (of_decide_eq_true hlevel)]
    rfl
  have hopen : (sections.dropWhile (h.level ≤ ·.level)).map (·.finish (line :: lines)) =
      (sections.dropWhile (h.level ≤ ·.level)).map (·.finish lines) := by
    refine List.map_congr_left fun s hs => ?_
    rw [Section.finish, Section.finish, wordsOf_extent_cons_inner hline (hstack.level_lt s hs)]
  have hparts : sections.takeWhile (h.level ≤ ·.level) ++ sections.dropWhile (h.level ≤ ·.level) = sections :=
    List.takeWhile_append_dropWhile
  nth_rewrite 1 [← hparts]
  rw [List.map_append, hclosed, hopen]

/-- The section of a heading, with its words. -/
def Heading.closed (h : Heading) (words : Nat) : Section := ⟨h.command, h.range, 0, words⟩

lemma finish_opened (h : Heading) (lines : List Line) :
    h.opened.finish lines = h.closed (wordsOf (extent h.level lines)) := by
  simp [Section.finish, Heading.opened, Heading.closed, Section.level, Heading.level]

lemma sizing_cons (sections : List Section) (line : Line) (lines : List Line) :
    sizing sections (line :: lines) =
      match (heading? sizedCommands line).map Heading.opened with
      | none => sizing (sections.map fun s => { s with words := s.words + line.text.words.length }) lines
      | some s => (closedBy s.level sections).1 ++ sizing (s :: (closedBy s.level sections).2) lines := by
  rw [← reads_sizedHeading.openedBy?_eq]
  rfl

/-- **Each section closes with the words of its extent.** -/
theorem sizing_perm (hstack : IsStack sections) (lines : List Line) :
    (sizing sections lines).Perm
      (sections.map (·.finish lines) ++ (measured lines).map fun m => m.1.closed m.2) := by
  induction lines generalizing sections with
  | nil =>
    have hfinish : sections.map (Section.finish []) = sections := List.map_id _
    have hend : sizing sections [] = sections := rfl
    rw [hend, measured, List.map_nil, List.append_nil, hfinish]
  | cons line lines ih =>
    rw [sizing_cons]
    cases hline : heading? sizedCommands line with
    | none =>
      have hcounted : IsStack (sections.map fun s => { s with words := s.words + line.text.words.length }) :=
        List.pairwise_map.2 hstack
      have hrest := ih hcounted
      rw [List.map_map] at hrest
      simp only [Function.comp_def, finish_add_words hline] at hrest
      rw [measured, hline]
      exact hrest
    | some h =>
      have hrest := ih (hstack.push h.opened)
      rw [List.map_cons, finish_opened, Heading.opened_level] at hrest
      rw [measured, hline, map_finish_cons hstack hline, List.append_assoc]
      dsimp only [Option.map_some, closedBy]
      rw [List.span_eq_takeWhile_dropWhile]
      -- the new section closes before those around it, and is measured after them
      exact (hrest.trans List.perm_middle.symm).append_left _

/-- **The rule on short sections counts the words of the whole section.** -/
theorem size_rule_counts_extents (least : Int) (v : Provenance) :
    (sizeAdvice least v).Perm
      (((measured v.document.lines).filter fun m => m.2 < least).map fun m =>
        v.advise sizeInfo m.1.range
          ("This ".toList ++ m.1.command ++ " is very short (about ".toList ++ (toString m.2).toList ++
            " words). You should consider merging it with another section or make it longer.".toList) []) := by
  have hsizing := sizing_perm List.Pairwise.nil v.document.lines
  rw [List.map_nil, List.nil_append] at hsizing
  refine ((hsizing.filter _).map _).trans (List.Perm.of_eq ?_)
  rw [List.filter_map, List.map_map]
  rfl

/-- The words of the inner section count for the outer one as well; those of the last line do not. -/
example :
    let text := "\\section\x7bA\x7d\none two\n\\subsection\x7bB\x7d\nthree\n\\chapter\x7bC\x7d\nfour".toList
    (measured (Document.ofLines text "").lines).map (·.2) = [3, 1, 1] := by
  decide +kernel

end Headings

end MarkupLint
