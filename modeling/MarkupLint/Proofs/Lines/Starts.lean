import Mathlib.Tactic.Common
import MarkupLint.Lines

/-!
# Where lines start

The starts of the lines of a text increase strictly (`pairwise_lineStarts`), with room for a terminator between
them (`spaced_lineStarts`), and none lies past the end of the text (`le_length_of_mem_lineStarts`).
-/

namespace MarkupLint

namespace Text

/-- A line that starts after a terminator lies behind what is still to be passed and behind that
terminator, and in the text. -/
lemma bounds_of_mem_startsFrom {newline : Text} {skip offset x : Nat} {text : Text}
    (h : x ∈ startsFrom newline skip offset text) :
    offset + skip + newline.length ≤ x ∧ x ≤ offset + text.length := by
  fun_induction startsFrom newline skip offset text with
  | case1 => cases h
  | case2 offset skip c rest ih =>
    have := ih h
    simp only [List.length_cons]
    omega
  | case3 offset c rest hfound ih =>
    have hlen := (List.isPrefixOf_iff_prefix.1 hfound).length_le
    rcases List.mem_cons.1 h with rfl | h
    · omega
    · have := ih h
      simp only [List.length_cons] at hlen ⊢
      omega
  | case4 offset c rest hfound ih =>
    have := ih h
    simp only [List.length_cons]
    omega

lemma spaced_startsFrom (newline : Text) (skip offset : Nat) (text : Text) :
    (startsFrom newline skip offset text).Pairwise (· + newline.length ≤ ·) := by
  fun_induction startsFrom newline skip offset text with
  | case1 => exact List.Pairwise.nil
  | case2 offset skip c rest ih => exact ih
  | case3 offset c rest hfound ih =>
    refine List.pairwise_cons.2 ⟨fun x hx => ?_, ih⟩
    have := (bounds_of_mem_startsFrom hx).1
    omega
  | case4 offset c rest hfound ih => exact ih

/-- **Between the starts of two lines there is room for a terminator.** -/
theorem spaced_lineStarts (text newline : Text) :
    (text.lineStarts newline).Pairwise (· + newline.length ≤ ·) := by
  unfold lineStarts
  split
  · exact List.pairwise_singleton _ _
  · refine List.pairwise_cons.2 ⟨fun x hx => ?_, spaced_startsFrom newline 0 0 text⟩
    have := (bounds_of_mem_startsFrom hx).1
    omega

/-- **Lines start one after the other.** -/
theorem pairwise_lineStarts (text newline : Text) : (text.lineStarts newline).Pairwise (· < ·) := by
  by_cases hne : newline = []
  · simp [lineStarts, hne]
  · have hpos : 0 < newline.length := List.length_pos_iff.2 hne
    exact (spaced_lineStarts text newline).imp (by omega)

/-- **Lines start in the text**, the last one perhaps at its end. -/
theorem le_length_of_mem_lineStarts {text newline : Text} {x : Nat} (h : x ∈ text.lineStarts newline) :
    x ≤ text.length := by
  rcases List.mem_cons.1 h with rfl | h
  · exact Nat.zero_le _
  · split at h
    · cases h
    · have := (bounds_of_mem_startsFrom h).2
      omega

end Text

end MarkupLint
