import Mathlib.Tactic.Common
import MarkupLint.Report.Basic

/-!
# What excerpts show

An excerpt of a line is a piece of a limited width around the columns that advice is about.  Of columns in the line
that fit into the width:

* `window_shows_iff`: the excerpt shows all of them, unless they fill an even width and do not begin the line
  (`JustFit`).  Then the excerpt begins one column before them, and the last of them is cut off;
* `even_window_cuts_span`: two columns that fit into a width of two, the second of which is not shown.
-/

namespace MarkupLint

namespace Excerpt

variable {line : Text} {length left right width : Nat}

/-! ## Where an excerpt starts -/

/-- The column at which an excerpt starts, in natural numbers.  With `m` the middle of the columns and `h` half the
width, it is `m - h`, or what leaves `2 * h` columns up to the end of the line. -/
lemma start_eq (hspan : left ≤ right) (hline : right < length) :
    start length left right width =
      if length ≤ left + (right - left) / 2 + width / 2 then length - 2 * (width / 2)
      else left + (right - left) / 2 - width / 2 := by
  have hmiddle : Int.fdiv ((right : Int) - left) 2 = ((right - left) / 2 : Nat) := by
    rw [Int.fdiv_eq_ediv_of_nonneg _ (by decide)]
    omega
  have hhalf : Int.fdiv (width : Int) 2 = (width / 2 : Nat) := by
    rw [Int.fdiv_eq_ediv_of_nonneg _ (by decide)]
    omega
  unfold start
  dsimp only
  rw [hmiddle, hhalf, if_pos (by omega)]
  split
  · next hpast =>
    rw [if_pos (by omega)]
    omega
  · next hpast =>
    rw [if_neg (by omega)]
    omega

/-- The excerpt starts at or before the columns that fit into its width. -/
lemma start_le (hspan : left ≤ right) (hline : right < length) (hfits : right - left + 1 ≤ width) :
    start length left right width ≤ left := by
  rw [start_eq hspan hline]
  split <;> omega

/-- The columns fill an even width, and do not begin the line. -/
def JustFit (left right width : Nat) : Prop := 0 < left ∧ right + 1 = left + width ∧ width % 2 = 0

instance : Decidable (JustFit left right width) := inferInstanceAs (Decidable (_ ∧ _))

/-- Half of an even width is one more than half of the distance of the columns that fill it, so that the excerpt
starts one column too early. -/
lemma JustFit.start_eq (hspan : left ≤ right) (hline : right < length) (h : JustFit left right width) :
    start length left right width = left - 1 := by
  obtain ⟨hleft, hfill, heven⟩ := h
  have hmiddle : (right - left) / 2 + 1 = width / 2 := by omega
  rw [Excerpt.start_eq hspan hline, if_neg (by omega)]
  omega

/-- Otherwise the last column is in the width of the excerpt. -/
lemma lt_start_add_width (hspan : left ≤ right) (hline : right < length) (hfits : right - left + 1 ≤ width)
    (h : ¬ JustFit left right width) : right < start length left right width + width := by
  unfold JustFit at h
  rw [Excerpt.start_eq hspan hline]
  split <;> omega

/-! ## What it shows -/

lemma window_eq (line : Text) (left right : Int) (width : Nat) :
    window line left right width =
      (line.slice (start line.length left right width) (start line.length left right width + width),
        start line.length left right width) := by
  unfold window piece
  dsimp only
  rw [if_neg (by omega)]
  congr 1

lemma length_slice (line : Text) (first stop : Nat) :
    (line.slice first stop).length = min (stop - first) (line.length - first) := by
  rw [Text.slice, List.length_take, List.length_drop]

/-- **The excerpt shows the columns.**  It is the line from its first column on, over the width, and the columns are
in it, as far from its start as they are from that column. -/
structure Shows (line : Text) (left right width : Nat) (excerpt : Text × Nat) : Prop where
  /-- The excerpt is a piece of the line. -/
  text_eq : excerpt.1 = line.slice excerpt.2 (excerpt.2 + width)
  /-- It starts at or before the columns. -/
  start_le : excerpt.2 ≤ left
  /-- It ends after them. -/
  lt_stop : right < excerpt.2 + excerpt.1.length
  /-- What is in the columns is seen there. -/
  span_eq : excerpt.1.slice (left - excerpt.2) (right + 1 - excerpt.2) = line.slice left (right + 1)

/-- A piece that starts at or before the columns and ends after them has what is in them. -/
lemma slice_slice {first stop : Nat} (hfirst : first ≤ left) (hstop : right < stop) :
    (line.slice first stop).slice (left - first) (right + 1 - first) = line.slice left (right + 1) := by
  unfold Text.slice
  rw [List.drop_take, List.drop_drop, List.take_take]
  congr 1
  · omega
  · congr 1
    omega

/-- **When an excerpt shows the columns that it is about.**  It does so for all columns that fit into its width but
those that just fit; of these it cuts off the last one. -/
theorem window_shows_iff (line : Text) (left right width : Nat) (hspan : left ≤ right)
    (hline : right < line.length) (hfits : right - left + 1 ≤ width) :
    (Shows line left right width (window line left right width) ↔ ¬ JustFit left right width) ∧
      (JustFit left right width → window line left right width = (line.slice (left - 1) right, left - 1)) := by
  have hcut : JustFit left right width →
      window line left right width = (line.slice (left - 1) right, left - 1) := by
    intro h
    have hstop : left - 1 + width = right := by
      obtain ⟨hleft, hfill, -⟩ := h
      omega
    rw [window_eq, h.start_eq hspan hline, hstop]
  refine ⟨⟨fun hshows h => ?_, fun h => ?_⟩, hcut⟩
  · have hlt := hshows.lt_stop
    rw [hcut h, length_slice] at hlt
    dsimp only at hlt
    omega
  · have hfirst := start_le hspan hline hfits
    have hlast := lt_start_add_width hspan hline hfits h
    rw [window_eq]
    refine ⟨rfl, hfirst, ?_, slice_slice hfirst hlast⟩
    rw [length_slice]
    dsimp only
    omega

/-- Three columns fill an excerpt of three, and the last three of a line are shown up to its end. -/
theorem narrow_window_shows :
    Shows "abcdefgh".toList 2 4 3 ("cde".toList, 2) ∧ Shows "abcdefgh".toList 5 7 5 ("efgh".toList, 4) := by
  constructor
  · exact (window_shows_iff "abcdefgh".toList 2 4 3 (by decide) (by decide) (by decide)).1.2 (by decide)
  · exact (window_shows_iff "abcdefgh".toList 5 7 5 (by decide) (by decide) (by decide)).1.2 (by decide)

/-- **An excerpt of an even width cuts off the last of the columns that fill it.** -/
theorem even_window_cuts_span :
    ¬ ∀ (line : Text) (left right width : Nat), left ≤ right → right < line.length → right - left + 1 ≤ width →
      Shows line left right width (window line left right width) := by
  intro h
  have hshows := h "abcd".toList 1 2 2 (by decide) (by decide) (by decide)
  exact absurd hshows.lt_stop (by decide)

end Excerpt

end MarkupLint
