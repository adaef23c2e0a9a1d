import Mathlib.Algebra.Order.Floor.Ring
import Mathlib.Data.Rat.Floor
import Mathlib.Tactic.FieldSimp
import Mathlib.Tactic.Ring
import MarkupLint.Proofs.Range.Resize

/-!
# Resizing as rounding

In proportion, a distance along a range goes with a rational distance along its counterpart (`linear`).

* `scaled_eq_floor`: scaling rounds that distance down;
* `size_sub_scaled`: scaling from the other end, as it is done for the last offset, rounds it up;
* `resize_rounds_outwards`: resizing carries the part, from before its first offset to behind its last one, over
  linearly and rounds outwards.  The clamps never act, and nothing of this depends on which range is larger.
-/

namespace MarkupLint

namespace Range

variable {whole part : Range}

/-- The distance along `counterpart` in proportion to the distance `moved` along `whole`. -/
def linear (whole counterpart : Range) (moved : ℚ) : ℚ := moved * counterpart.size / whole.size

/-- The resized counterpart, with neither of its ends clamped. -/
def unclamped? (whole part counterpart : Range) : Except RangeError Range :=
  ofBounds (counterpart.start + scaled whole counterpart ((part.start : Int) - whole.start))
    (counterpart.stop - scaled whole counterpart ((whole.stop : Int) - part.stop))

lemma scaled_eq_floor (whole counterpart : Range) (moved : Int) :
    scaled whole counterpart moved = ⌊linear whole counterpart moved⌋ := by
  unfold scaled linear
  rw [Int.fdiv_eq_ediv_of_nonneg _ (Int.natCast_nonneg _), ← Rat.floor_intCast_div_natCast]
  push_cast
  rfl

lemma linear_size_sub (whole counterpart : Range) (moved : ℚ) :
    linear whole counterpart (whole.size - moved) = counterpart.size - linear whole counterpart moved := by
  have hsize : (whole.size : ℚ) ≠ 0 := Nat.cast_ne_zero.2 whole.size_pos.ne'
  unfold linear
  field_simp

/-- What is left of the counterpart is rounded up when a distance from its end is rounded down. -/
lemma size_sub_scaled (whole counterpart : Range) (moved : Int) :
    counterpart.size - scaled whole counterpart (whole.size - moved) = ⌈linear whole counterpart moved⌉ := by
  have hfloor : scaled whole counterpart (whole.size - moved) =
      counterpart.size - ⌈linear whole counterpart moved⌉ := by
    rw [scaled_eq_floor]
    push_cast
    rw [linear_size_sub, sub_eq_add_neg, Int.floor_natCast_add, Int.floor_neg, ← sub_eq_add_neg]
  omega

section Ends

variable (h : part.Inside whole) (counterpart : Range)
include h

lemma natCast_start_resize_eq_floor :
    ((whole.resize part counterpart).start : Int) =
      counterpart.start + ⌊linear whole counterpart (part.start - whole.start)⌋ := by
  rw [natCast_start_resize h, resizedStart_eq_add_scaled h, scaled_eq_floor]
  push_cast
  rfl

lemma natCast_stop_resize_eq_ceil :
    ((whole.resize part counterpart).stop : Int) =
      counterpart.start + ⌈linear whole counterpart (part.stop - whole.start + 1)⌉ - 1 := by
  have hwhole := whole.start_add_size
  have hcounterpart := counterpart.start_add_size
  -- up to the end of the part and from there on, the distances make up the whole
  have hrest : (whole.stop : Int) - part.stop = whole.size - ((part.stop : Int) - whole.start + 1) := by omega
  have hceil := size_sub_scaled whole counterpart ((part.stop : Int) - whole.start + 1)
  push_cast at hceil
  rw [natCast_stop_resize h, resizedStop_eq h, hrest]
  omega

lemma unclamped?_eq : whole.unclamped? part counterpart = .ok (whole.resize part counterpart) := by
  refine ofBounds_eq ?_ ?_
  · rw [natCast_start_resize h, resizedStart_eq_add_scaled h]
  · rw [natCast_stop_resize h, resizedStop_eq h]

/-- Between ranges of one size, resizing is the exact shift of the part. -/
lemma shift_eq_resize (hsize : counterpart.size = whole.size) :
    part.shift (counterpart.start - whole.start) = .ok (whole.resize part counterpart) := by
  obtain ⟨hstart, hstop⟩ := resize_of_size_eq h counterpart hsize.symm
  exact ofBounds_eq (by omega) (by omega)

/-- Less of the whole is resized to less of the counterpart. -/
lemma resize_mono {smaller : Range} (hsmaller : smaller.Inside part) :
    (whole.resize smaller counterpart).Inside (whole.resize part counterpart) := by
  rw [inside_iff]
  intro i hi
  obtain ⟨j, hj, hmeets⟩ := (mem_resize (hsmaller.trans h) counterpart).1 hi
  exact (mem_resize h counterpart).2 ⟨j, inside_iff.1 hsmaller j hj, hmeets⟩

end Ends

/-- **Resizing is linear and rounds outwards.**  It does not fail, and it gives the least range of whole offsets
around the linear image of the part.  This lies inside the counterpart with no help of the clamps, is the shifted
part when the sizes are the same, and grows with the part. -/
theorem resize_rounds_outwards (h : part.Inside whole) (counterpart : Range) :
    whole.resize? part counterpart = .ok (whole.resize part counterpart) ∧
    ((whole.resize part counterpart).start : ℤ) =
      counterpart.start + ⌊linear whole counterpart (part.start - whole.start)⌋ ∧
    ((whole.resize part counterpart).stop : ℤ) =
      counterpart.start + ⌈linear whole counterpart (part.stop - whole.start + 1)⌉ - 1 ∧
    (whole.resize part counterpart).Inside counterpart ∧
    whole.unclamped? part counterpart = .ok (whole.resize part counterpart) ∧
    (counterpart.size = whole.size →
      part.shift (counterpart.start - whole.start) = .ok (whole.resize part counterpart)) ∧
    ∀ smaller : Range, smaller.Inside part →
      (whole.resize smaller counterpart).Inside (whole.resize part counterpart) := by
  refine ⟨resize?_eq h counterpart, ?_, ?_, resize_inside h counterpart, unclamped?_eq h counterpart, ?_, ?_⟩
  · exact natCast_start_resize_eq_floor h counterpart
  · exact natCast_stop_resize_eq_ceil h counterpart
  · exact shift_eq_resize h counterpart
  · intro smaller hsmaller
    exact resize_mono h counterpart hsmaller

/-- Seven offsets. -/
def seven : Range := ⟨10, 16, by decide⟩

/-- Four of the seven, without the first one and the last two. -/
def fourOfSeven : Range := ⟨11, 14, by decide⟩

/-- Carried over to five offsets, both ends are rounded; carried over to seven others, the part is only shifted. -/
theorem fourOfSeven_rounded :
    fourOfSeven.Inside seven ∧ Inside ⟨12, 13, by decide⟩ fourOfSeven ∧
    size ⟨3, 9, by decide⟩ = seven.size ∧
    seven.resize? fourOfSeven ⟨20, 24, by decide⟩ = .ok ⟨20, 23, by decide⟩ ∧
    (20 : ℤ) = 20 + ⌊linear seven ⟨20, 24, by decide⟩ (fourOfSeven.start - seven.start)⌋ ∧
    (23 : ℤ) = 20 + ⌈linear seven ⟨20, 24, by decide⟩ (fourOfSeven.stop - seven.start + 1)⌉ - 1 ∧
    seven.unclamped? fourOfSeven ⟨20, 24, by decide⟩ = .ok ⟨20, 23, by decide⟩ ∧
    fourOfSeven.shift (3 - 10) = .ok ⟨4, 7, by decide⟩ ∧
    (seven.resize ⟨12, 13, by decide⟩ ⟨20, 24, by decide⟩).Inside ⟨20, 23, by decide⟩ := by
  have hpart : fourOfSeven.Inside seven := by decide
  have hsmaller : Inside ⟨12, 13, by decide⟩ fourOfSeven := by decide
  have hsize : size ⟨3, 9, by decide⟩ = seven.size := by decide
  have hresize : seven.resize fourOfSeven ⟨20, 24, by decide⟩ = ⟨20, 23, by decide⟩ := by decide
  obtain ⟨hok, hstart, hstop, -, hunclamped, -, hmono⟩ := resize_rounds_outwards hpart ⟨20, 24, by decide⟩
  obtain ⟨-, -, -, -, -, hshift, -⟩ := resize_rounds_outwards hpart ⟨3, 9, by decide⟩
  rw [hresize] at hok hstart hstop hunclamped hmono
  refine ⟨hpart, hsmaller, hsize, hok, ?_, ?_, hunclamped, hshift hsize, hmono _ hsmaller⟩
  · exact mod_cast hstart
  · exact mod_cast hstop

end Range

end MarkupLint
