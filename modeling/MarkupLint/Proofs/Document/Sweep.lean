import MarkupLint.Document
import MarkupLint.Proofs.Lines.Split

/-!
# Sweeping through a document

A sweep removes lines from the document that it goes through.  `survivors` runs its judge once over the lines
as they are at first, and `sweep_current` says that the text left is made of the lines that survive.  What
carries the induction is that the document is always made of the lines passed and the lines ahead.
-/

namespace MarkupLint

namespace Document

open Text (AreLines closed join layout lineTexts)

variable {σ : Type} {judge : σ → Text → Bool × σ} {d : Document} {s : σ} {done todo : List Text}

/-- The lines that a judge does not tell to remove, when it sees each of them once, in order. -/
def survivors (judge : σ → Text → Bool × σ) : σ → List Text → List Text
  | _, [] => []
  | s, line :: later =>
    if (judge s line).1 then survivors judge (judge s line).2 later
    else line :: survivors judge (judge s line).2 later

lemma survivors_sublist (judge : σ → Text → Bool × σ) (s : σ) (lines : List Text) :
    (survivors judge s lines).Sublist lines := by
  induction lines generalizing s with
  | nil => exact .slnil
  | cons line later ih =>
    rw [survivors]
    split
    · exact (ih _).cons line
    · exact (ih _).cons_cons line

/-- A line that survives is one that the judge, in some state, does not tell to remove. -/
lemma exists_of_mem_survivors {lines : List Text} {line : Text} (h : line ∈ survivors judge s lines) :
    ∃ s, (judge s line).1 = false := by
  induction lines generalizing s with
  | nil => cases h
  | cons first later ih =>
    rw [survivors] at h
    split at h
    · exact ih h
    · next hkept =>
      rcases List.mem_cons.1 h with rfl | h
      · exact ⟨s, Bool.eq_false_iff.2 hkept⟩
      · exact ih h

lemma removeLine_current (d : Document) (line : Int) :
    (d.removeLine line).current = (Edit.withoutLine d.current line d.newline).text := rfl

lemma removeLine_newline (d : Document) (line : Int) : (d.removeLine line).newline = d.newline := rfl

/-- The only line of an empty document leaves an empty text, whether it survives or not. -/
lemma join_survivors_nil (newline : Text) : join newline (survivors judge s [[]]) = [] := by
  simp only [survivors]
  split <;> rfl

/-- A sweep on its way: the lines passed stay, and of the lines ahead those stay that survive. -/
lemma sweepFrom_current (done : List Text) {ahead : List Line} (hcur : d.current = join d.newline (done ++ todo))
    (hlines : todo ≠ [] → AreLines d.newline (done ++ todo))
    (hahead : todo ≠ [] → ahead = layout d.newline.length (closed d.newline done).length todo) :
    (sweepFrom judge todo.length done.length ahead s d).2.current =
      join d.newline (done ++ survivors judge s todo) := by
  induction todo generalizing done ahead s d with
  | nil =>
    rw [List.length_nil, sweepFrom]
    exact hcur
  | cons line later ih =>
    have hlines := hlines (by simp)
    rw [hahead (by simp), layout, List.length_cons, sweepFrom]
    by_cases hempty : d.current.isEmpty = true
    · -- nothing is left but the line ahead, which is empty
      rw [if_pos hempty]
      have hnil : d.current = [] := List.isEmpty_iff.1 hempty
      have hsingle := Text.eq_singleton_of_join_eq_nil d.newline_ne_nil (by simp) (hcur.symm.trans hnil)
      obtain ⟨rfl, rfl, rfl⟩ : done = [] ∧ line = [] ∧ later = [] := by
        cases done <;> simp_all
      rw [List.nil_append, join_survivors_nil]
      exact hnil
    · rw [if_neg hempty, survivors]
      dsimp only
      split
      · -- the line goes
        have hcur' : (d.removeLine done.length).current = join d.newline (done ++ later) := by
          rw [removeLine_current, hcur, Text.withoutLine_join d.newline_ne_nil hlines]
        refine ih done hcur' (fun hlater => ?_) (fun hlater => ?_)
        · exact hlines.erase d.newline_ne_nil (by simp [hlater])
        · rw [hcur', removeLine_newline]
          exact Text.linesAt_join d.newline_ne_nil
            (hlines.erase d.newline_ne_nil (by simp [hlater])) hlater
      · -- the line stays
        have happend : done ++ line :: later = (done ++ [line]) ++ later := by simp
        rw [happend] at hcur hlines
        have hahead : layout d.newline.length
              ((closed d.newline done).length + line.length + d.newline.length) later =
            layout d.newline.length (closed d.newline (done ++ [line])).length later := by
          simp [closed, Nat.add_assoc]
        have hih := ih (s := (judge s line).2) (done ++ [line]) hcur (fun _ => hlines) (fun _ => hahead)
        rw [List.length_append, List.length_singleton] at hih
        rw [hih, List.append_assoc, List.singleton_append]

/-- **A sweep is a filter.**  The text left is made of the lines that survive when the judge goes once through
the lines of the text as it was. -/
theorem sweep_current (d : Document) (judge : σ → Text → Bool × σ) (s : σ) :
    (d.sweep judge s).2.current =
      join d.newline (survivors judge s (d.current.lineTexts d.newline)) := by
  unfold sweep
  dsimp only
  rw [Text.lines_eq_layout d.newline_ne_nil, Text.length_layout]
  exact sweepFrom_current [] (Text.join_lineTexts d.newline_ne_nil _).symm
    (fun _ => Text.areLines_lineTexts d.newline_ne_nil _) (fun _ => rfl)

/-- What is left of a document is empty, or made of lines that the judge, in some state, does not tell to remove. -/
lemma sweep_lines (d : Document) (judge : σ → Text → Bool × σ) (s : σ) :
    (d.sweep judge s).2.current = [] ∨
      ∀ line ∈ (d.sweep judge s).2.current.lineTexts d.newline, ∃ s, (judge s line).1 = false := by
  have hsublist := survivors_sublist judge s (d.current.lineTexts d.newline)
  rw [sweep_current]
  by_cases hkept : survivors judge s (d.current.lineTexts d.newline) = []
  · left
    rw [hkept]
    rfl
  · right
    have hlines := (Text.areLines_lineTexts d.newline_ne_nil d.current).sublist d.newline_ne_nil hsublist hkept
    rw [Text.lineTexts_join d.newline_ne_nil hlines]
    exact fun line hline => exists_of_mem_survivors hline

end Document

end MarkupLint
