import MarkupLint.Proofs.Range.Normal

/-!
# Resizing as a relation between characters

A range and its counterpart are two ways to cut one stretch into cells of equal width, a cell for each
offset.  `Meets whole counterpart j i` says that the cell of `j` and the cell of `i` overlap, which is a
symmetric relation (`meets_comm`).  Resizing rounds outwards and its clamps never act, so that the resized
counterpart holds exactly the offsets that meet an offset of the part (`mem_resize`).
-/

namespace MarkupLint

namespace Range

variable {whole part counterpart : Range} {i j : Nat}

/-- The cells of `j` in `whole` and of `i` in `counterpart` overlap, when both ranges are laid out over the
same stretch. -/
def Meets (whole counterpart : Range) (j i : Nat) : Prop :=
  j ∈ whole ∧ i ∈ counterpart ∧
    (j - whole.start) * counterpart.size < (i - counterpart.start + 1) * whole.size ∧
    (i - counterpart.start) * whole.size < (j - whole.start + 1) * counterpart.size

instance : Decidable (Meets whole counterpart j i) := inferInstanceAs (Decidable (_ ∧ _))

lemma meets_comm : Meets whole counterpart j i ↔ Meets counterpart whole i j := by
  unfold Meets
  tauto

/-- Between ranges of one size, only offsets at the same distance from the start meet. -/
lemma meets_iff_of_size_eq (h : whole.size = counterpart.size) :
    Meets whole counterpart j i ↔
      j ∈ whole ∧ i ∈ counterpart ∧ j + counterpart.start = i + whole.start := by
  have hN := counterpart.size_pos
  unfold Meets
  rw [h, Nat.mul_lt_mul_right hN, Nat.mul_lt_mul_right hN]
  refine and_congr_right fun hj => and_congr_right fun hi => ?_
  have := hj.1
  have := hi.1
  omega

/-! ## Rounding -/

lemma scaled_natCast (whole counterpart : Range) (moved : Nat) :
    scaled whole counterpart moved = (moved * counterpart.size / whole.size : Nat) := by
  unfold scaled
  rw [Int.fdiv_eq_ediv_of_nonneg _ (Int.natCast_nonneg _)]
  push_cast
  rfl

/-- A distance along `whole` is scaled to a distance along `counterpart`. -/
lemma scaled_mem (counterpart : Range) (h : j ∈ whole) :
    counterpart.start + (j - whole.start) * counterpart.size / whole.size ∈ counterpart := by
  rw [mem_iff_lt_size] at h ⊢
  rw [Nat.add_sub_cancel_left, Nat.div_lt_iff_lt_mul whole.size_pos, Nat.mul_comm counterpart.size]
  exact ⟨Nat.le_add_right _ _, Nat.mul_lt_mul_of_pos_right h.2 counterpart.size_pos⟩

lemma resizedStart_le_resizedStop (whole part counterpart : Range) :
    resizedStart whole part counterpart ≤ resizedStop whole part counterpart :=
  Int.le_max_right _ _

section Ends

variable (h : part.Inside whole) (counterpart : Range)
include h

/-- The first offset needs no clamp: a part does not start behind the whole. -/
lemma resizedStart_eq_add_scaled :
    resizedStart whole part counterpart =
      counterpart.start + scaled whole counterpart ((part.start : Int) - whole.start) := by
  have hmem := (scaled_mem counterpart (inside_iff.1 h _ part.start_mem)).2
  have h1 := h.1
  unfold resizedStart
  rw [show ((part.start : Int) - whole.start) = (part.start - whole.start : Nat) by omega,
    scaled_natCast]
  omega

lemma resizedStart_eq :
    resizedStart whole part counterpart =
      (counterpart.start + (part.start - whole.start) * counterpart.size / whole.size : Nat) := by
  have h1 := h.1
  rw [resizedStart_eq_add_scaled h counterpart,
    show ((part.start : Int) - whole.start) = (part.start - whole.start : Nat) by omega, scaled_natCast,
    Int.natCast_add]

/-- The least offset of the resized counterpart, as an inequality without division. -/
lemma resizedStart_le_iff (hi : counterpart.start ≤ i) :
    resizedStart whole part counterpart ≤ i ↔
      (part.start - whole.start) * counterpart.size < (i - counterpart.start + 1) * whole.size := by
  rw [resizedStart_eq h counterpart, ← Nat.div_lt_iff_lt_mul whole.size_pos]
  omega

/-- The greatest offset of the resized counterpart before it is clamped, as an inequality without
division. -/
lemma le_unclamped_iff (hi : i ∈ counterpart) :
    (i : Int) ≤ counterpart.stop - scaled whole counterpart ((whole.stop : Int) - part.stop) ↔
      (i - counterpart.start) * whole.size < (part.stop - whole.start + 1) * counterpart.size := by
  obtain ⟨h1, h2⟩ := h
  obtain ⟨hi1, hi2⟩ := hi
  have hp := part.start_le_stop
  have hw := whole.start_add_size
  have hc := counterpart.start_add_size
  rw [show ((whole.stop : Int) - part.stop) = (whole.stop - part.stop : Nat) by omega, scaled_natCast]
  -- on both sides, what lies before the end and what lies after it make up the whole
  have hleft : (whole.stop - part.stop) * counterpart.size +
      (part.stop - whole.start + 1) * counterpart.size = whole.size * counterpart.size := by
    rw [← Nat.add_mul]
    congr 1
    omega
  have hright : (counterpart.stop - i + 1) * whole.size + (i - counterpart.start) * whole.size =
      whole.size * counterpart.size := by
    rw [← Nat.add_mul, Nat.mul_comm]
    congr 1
    omega
  have hdiv := Nat.div_lt_iff_lt_mul (x := (whole.stop - part.stop) * counterpart.size)
    (y := counterpart.stop - i + 1) whole.size_pos
  omega

/-- The last offset needs no clamp: before it is clamped, it is not before the first one. -/
lemma resizedStop_eq :
    resizedStop whole part counterpart =
      counterpart.stop - scaled whole counterpart ((whole.stop : Int) - part.stop) := by
  have hp := part.start_le_stop
  unfold resizedStop
  rw [Int.max_eq_left]
  rw [resizedStart_eq h counterpart,
    le_unclamped_iff h counterpart (scaled_mem counterpart (inside_iff.1 h _ part.start_mem)),
    Nat.add_sub_cancel_left]
  calc (part.start - whole.start) * counterpart.size / whole.size * whole.size
      ≤ (part.start - whole.start) * counterpart.size := Nat.div_mul_le_self _ _
    _ < (part.stop - whole.start + 1) * counterpart.size :=
      Nat.mul_lt_mul_of_pos_right (by omega) counterpart.size_pos

lemma le_resizedStart : (counterpart.start : Int) ≤ resizedStart whole part counterpart := by
  rw [resizedStart_eq h counterpart]
  exact Int.ofNat_le.2 (Nat.le_add_right _ _)

lemma resizedStop_le : resizedStop whole part counterpart ≤ (counterpart.stop : Int) := by
  have h2 := h.2
  rw [resizedStop_eq h counterpart, show ((whole.stop : Int) - part.stop) = (whole.stop - part.stop : Nat) by omega,
    scaled_natCast]
  exact Int.sub_le_self _ (Int.natCast_nonneg _)

lemma natCast_start_resize :
    ((whole.resize part counterpart).start : Int) = resizedStart whole part counterpart := by
  have hstart := le_resizedStart h counterpart
  simp only [resize]
  omega

lemma natCast_stop_resize :
    ((whole.resize part counterpart).stop : Int) = resizedStop whole part counterpart := by
  have hstart := le_resizedStart h counterpart
  have hle := resizedStart_le_resizedStop whole part counterpart
  simp only [resize]
  omega

/-- A part of a range is carried over without a failure. -/
lemma resize?_eq : whole.resize? part counterpart = .ok (whole.resize part counterpart) :=
  ofBounds_eq (natCast_start_resize h counterpart).symm (natCast_stop_resize h counterpart).symm

lemma mem_resize_iff_le :
    i ∈ whole.resize part counterpart ↔
      resizedStart whole part counterpart ≤ i ∧ i ≤ resizedStop whole part counterpart := by
  rw [mem_def, ← natCast_start_resize h counterpart, ← natCast_stop_resize h counterpart]
  omega

lemma resize_inside : (whole.resize part counterpart).Inside counterpart := by
  rw [inside_iff]
  intro i hi
  obtain ⟨hlo, hhi⟩ := (mem_resize_iff_le h counterpart).1 hi
  exact ⟨Int.ofNat_le.1 (Int.le_trans (le_resizedStart h counterpart) hlo),
    Int.ofNat_le.1 (Int.le_trans hhi (resizedStop_le h counterpart))⟩

/-- The offsets of the resized counterpart, by the ends of the part. -/
lemma mem_resize_iff_lt :
    i ∈ whole.resize part counterpart ↔
      i ∈ counterpart ∧
        (part.start - whole.start) * counterpart.size < (i - counterpart.start + 1) * whole.size ∧
        (i - counterpart.start) * whole.size < (part.stop - whole.start + 1) * counterpart.size := by
  have hin := inside_iff.1 (resize_inside h counterpart) i
  constructor
  · intro hi
    have hc := hin hi
    obtain ⟨hlo, hhi⟩ := (mem_resize_iff_le h counterpart).1 hi
    rw [resizedStop_eq h counterpart] at hhi
    exact ⟨hc, (resizedStart_le_iff h counterpart hc.1).1 hlo, (le_unclamped_iff h counterpart hc).1 hhi⟩
  · rintro ⟨hc, hlo, hhi⟩
    rw [mem_resize_iff_le h counterpart, resizedStop_eq h counterpart]
    exact ⟨(resizedStart_le_iff h counterpart hc.1).2 hlo, (le_unclamped_iff h counterpart hc).2 hhi⟩

/-- **The resized counterpart holds the offsets that meet an offset of the part.** -/
theorem mem_resize :
    i ∈ whole.resize part counterpart ↔ ∃ j ∈ part, Meets whole counterpart j i := by
  rw [mem_resize_iff_lt h counterpart]
  have hN := counterpart.size_pos
  constructor
  · rintro ⟨hc, hlo, hhi⟩
    -- the last cell of `whole` that starts no later than the cell of `i`, unless that is before the part
    set c := (i - counterpart.start) * whole.size / counterpart.size with hcdef
    have hc1 : c * counterpart.size ≤ (i - counterpart.start) * whole.size := Nat.div_mul_le_self _ _
    have hc2 : (i - counterpart.start) * whole.size < (c + 1) * counterpart.size :=
      (Nat.div_lt_iff_lt_mul hN).1 (Nat.lt_succ_self c)
    have hnext : (i - counterpart.start) * whole.size < (i - counterpart.start + 1) * whole.size :=
      Nat.mul_lt_mul_of_pos_right (Nat.lt_succ_self _) whole.size_pos
    by_cases hcase : part.start - whole.start ≤ c
    · have hle : c < part.stop - whole.start + 1 :=
        Nat.lt_of_mul_lt_mul_right (Nat.lt_of_le_of_lt hc1 hhi)
      have hmem : whole.start + c ∈ part := by
        have := h.1
        have := part.start_le_stop
        exact ⟨by omega, by omega⟩
      refine ⟨whole.start + c, hmem, inside_iff.1 h _ hmem, hc, ?_, ?_⟩ <;>
        rw [Nat.add_sub_cancel_left]
      · exact Nat.lt_of_le_of_lt hc1 hnext
      · exact hc2
    · refine ⟨part.start, part.start_mem, inside_iff.1 h _ part.start_mem, hc, hlo, ?_⟩
      exact Nat.lt_of_lt_of_le hc2 (Nat.mul_le_mul_right _ (by omega))
  · rintro ⟨j, hj, hw, hc, hlo, hhi⟩
    obtain ⟨hj1, hj2⟩ := hj
    refine ⟨hc, Nat.lt_of_le_of_lt ?_ hlo, Nat.lt_of_lt_of_le hhi ?_⟩
    · exact Nat.mul_le_mul_right _ (by omega)
    · exact Nat.mul_le_mul_right _ (by omega)

/-- Between ranges of one size, resizing is the exact shift of the part. -/
lemma resize_of_size_eq (hsize : whole.size = counterpart.size) :
    (whole.resize part counterpart).start + whole.start = part.start + counterpart.start ∧
      (whole.resize part counterpart).stop + whole.start = part.stop + counterpart.start := by
  have hmem : ∀ i, i ∈ whole.resize part counterpart ↔
      ∃ j ∈ part, i + whole.start = j + counterpart.start := by
    intro i
    rw [mem_resize h counterpart]
    simp only [meets_iff_of_size_eq hsize]
    constructor
    · rintro ⟨j, hj, -, -, heq⟩
      exact ⟨j, hj, heq.symm⟩
    · rintro ⟨j, hj, heq⟩
      have hw := inside_iff.1 h j hj
      refine ⟨j, hj, hw, ?_, heq.symm⟩
      rw [mem_iff_lt_size] at hw ⊢
      omega
  obtain ⟨a, ha, hstart⟩ := (hmem _).1 (start_mem _)
  obtain ⟨b, hb, hstop⟩ := (hmem _).1 (stop_mem _)
  have h1 := h.1
  have h2 := part.start_le_stop
  -- the images of the ends of the part are in the resized counterpart as well
  have hfirst := (hmem (part.start + counterpart.start - whole.start)).2
    ⟨part.start, part.start_mem, by omega⟩
  have hlast := (hmem (part.stop + counterpart.start - whole.start)).2
    ⟨part.stop, part.stop_mem, by omega⟩
  rw [mem_def] at ha hb hfirst hlast
  omega

end Ends

/-- The whole is resized to the whole. -/
lemma resize_self (whole counterpart : Range) : whole.resize whole counterpart = counterpart := by
  have h : whole.Inside whole := ⟨Nat.le_refl _, Nat.le_refl _⟩
  have hw := whole.start_add_size
  refine ext_mem fun i => ?_
  rw [mem_resize_iff_lt h counterpart, mem_iff_lt_size]
  refine ⟨And.left, fun hi => ⟨hi, ?_, ?_⟩⟩
  · rw [Nat.sub_self, Nat.zero_mul]
    exact Nat.mul_pos (Nat.succ_pos _) whole.size_pos
  · rw [show whole.stop - whole.start + 1 = whole.size from rfl, Nat.mul_comm]
    exact Nat.mul_lt_mul_of_pos_left hi.2 whole.size_pos

end Range

end MarkupLint
