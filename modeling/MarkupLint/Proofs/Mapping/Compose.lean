import MarkupLint.Proofs.Mapping.Links

/-!
# Composed mappings

The pairs of a composed mapping are the compositions of pairs (`mem_compose`), and composing with the
mapping of a text onto itself changes no pair (`mem_compose_identity`).  A pair whose two sides have the
same size copies: `p.Aligned i j` says that `i` and `j` are at the same distance from the starts of their
sides.  Copying pairs compose to copying pairs, character by character (`aligned_compose_iff`), however
other pairs are resized.
-/

namespace MarkupLint

namespace Pair

variable {a b c p : Pair} {i j k : Nat}

/-- The pair copies the input offset `i` to the output offset `j`. -/
def Aligned (p : Pair) (i j : Nat) : Prop :=
  p.input.size = p.output.size ∧ i ∈ p.input ∧ j ∈ p.output ∧ i + p.output.start = j + p.input.start

/-- A pair with sides of one size associates exactly the offsets that it copies. -/
lemma links_iff_aligned (h : p.input.size = p.output.size) : p.Links i j ↔ p.Aligned i j := by
  unfold Links Aligned
  rw [Range.meets_iff_of_size_eq h.symm]
  constructor
  · rintro ⟨hj, hi, heq⟩
    exact ⟨h, hi, hj, heq.symm⟩
  · rintro ⟨-, hi, hj, heq⟩
    exact ⟨hj, hi, heq.symm⟩

lemma Aligned.links (h : p.Aligned i j) : p.Links i j := (links_iff_aligned h.1).2 h

lemma mem_ofSizes {inStart inSize outStart outSize : Nat} :
    p ∈ ofSizes inStart inSize outStart outSize ↔
      0 < inSize ∧ 0 < outSize ∧ p = ⟨.ofSize inStart inSize, .ofSize outStart outSize⟩ := by
  unfold ofSizes
  split <;> simp_all

/-- A pair made to copy `size` characters copies each of them. -/
lemma aligned_ofSize {inStart outStart size : Nat} (h : 0 < size) :
    Aligned ⟨.ofSize inStart size, .ofSize outStart size⟩ i j ↔
      ∃ t < size, i = inStart + t ∧ j = outStart + t := by
  simp only [Aligned, Range.size_ofSize h, Range.mem_ofSize h, true_and]
  dsimp only [Range.ofSize]
  constructor
  · rintro ⟨hi, hj, heq⟩
    exact ⟨i - inStart, by omega, by omega, by omega⟩
  · rintro ⟨t, ht, rfl, rfl⟩
    omega

/-! ## Composition -/

lemma compose_eq_some :
    a.compose b = some c ↔ ∃ common, a.output.intersect b.input = some common ∧
      c = ⟨a.output.resize common a.input, b.input.resize common b.output⟩ := by
  unfold compose
  rw [Option.map_eq_some_iff]
  simp only [eq_comm]

/-- The input of a composed pair is what the first pair links to the input of the second one. -/
lemma mem_input_compose (h : a.compose b = some c) :
    i ∈ c.input ↔ ∃ k ∈ b.input, a.Links i k := by
  obtain ⟨common, hcommon, rfl⟩ := compose_eq_some.1 h
  rw [Range.mem_resize (Range.inside_of_intersect hcommon).1]
  constructor
  · rintro ⟨k, hk, hlinks⟩
    exact ⟨k, ((Range.mem_intersect hcommon k).1 hk).2, hlinks⟩
  · rintro ⟨k, hk, hlinks⟩
    exact ⟨k, (Range.mem_intersect hcommon k).2 ⟨hlinks.mem_output, hk⟩, hlinks⟩

/-- The output of a composed pair is what the second pair links to the output of the first one. -/
lemma mem_output_compose (h : a.compose b = some c) :
    j ∈ c.output ↔ ∃ k ∈ a.output, b.Links k j := by
  obtain ⟨common, hcommon, rfl⟩ := compose_eq_some.1 h
  rw [Range.mem_resize (Range.inside_of_intersect hcommon).2]
  simp only [Links, @Range.meets_comm b.output]
  constructor
  · rintro ⟨k, hk, hlinks⟩
    exact ⟨k, ((Range.mem_intersect hcommon k).1 hk).1, hlinks⟩
  · rintro ⟨k, hk, hlinks⟩
    exact ⟨k, (Range.mem_intersect hcommon k).2 ⟨hk, hlinks.1⟩, hlinks⟩

/-- Pairs that share an offset in the middle compose. -/
lemma exists_compose (ha : k ∈ a.output) (hb : k ∈ b.input) : ∃ c, a.compose b = some c := by
  obtain ⟨common, hcommon, -⟩ := Range.exists_intersect ha hb
  exact ⟨_, compose_eq_some.2 ⟨common, hcommon, rfl⟩⟩

/-- **Copying pairs compose to a copying pair.** -/
theorem aligned_compose_iff (ha : a.input.size = a.output.size) (hb : b.input.size = b.output.size)
    (h : a.compose b = some c) :
    c.input.size = c.output.size ∧ ∀ i j, c.Aligned i j ↔ ∃ k, a.Aligned i k ∧ b.Aligned k j := by
  have hinput := fun i => mem_input_compose (i := i) h
  have houtput := fun j => mem_output_compose (j := j) h
  obtain ⟨common, hcommon, rfl⟩ := compose_eq_some.1 h
  obtain ⟨hin, hout⟩ := Range.inside_of_intersect hcommon
  -- both sides of the composed pair are shifts of the common part
  obtain ⟨h1, h2⟩ := Range.resize_of_size_eq hin a.input ha.symm
  obtain ⟨h3, h4⟩ := Range.resize_of_size_eq hout b.output hb
  have hsize : (a.output.resize common a.input).size = (b.input.resize common b.output).size := by
    have := common.start_le_stop
    unfold Range.size
    omega
  refine ⟨hsize, fun i j => ⟨?_, ?_⟩⟩
  · rintro ⟨-, hi, hj, heq⟩
    dsimp only at heq
    obtain ⟨k, hk, hlinks⟩ := (hinput i).1 hi
    have hik := (links_iff_aligned ha).1 hlinks
    have hdist := hik.2.2.2
    refine ⟨k, hik, hb, hk, ?_, by omega⟩
    rw [Range.mem_iff_lt_size] at hk ⊢
    omega
  · rintro ⟨k, hik, hkj⟩
    have hdist := hik.2.2.2
    have hdist' := hkj.2.2.2
    exact ⟨hsize, (hinput i).2 ⟨k, hkj.2.1, hik.links⟩, (houtput j).2 ⟨k, hik.2.2.1, hkj.links⟩,
      by dsimp only; omega⟩

/-- Pairs that copy one after the other compose to a pair that copies from the first to the last. -/
lemma Aligned.compose (ha : a.Aligned i k) (hb : b.Aligned k j) :
    ∃ c, a.compose b = some c ∧ c.Aligned i j := by
  obtain ⟨c, hc⟩ := exists_compose ha.2.2.1 hb.2.1
  exact ⟨c, hc, ((aligned_compose_iff ha.1 hb.1 hc).2 i j).2 ⟨k, ha, hb⟩⟩

/-- A pair of which both sides are one range that includes the input of `b` composes to `b`. -/
lemma compose_diagonal {r : Range} (h : b.input.Inside r) : Pair.compose ⟨r, r⟩ b = some b := by
  refine compose_eq_some.2 ⟨b.input, Range.intersect_of_inside h, ?_⟩
  obtain ⟨h1, h2⟩ := Range.resize_of_size_eq h r rfl
  rw [Range.resize_self, Range.ext_ends (Nat.add_right_cancel h1) (Nat.add_right_cancel h2)]

end Pair

/-! ## Mappings -/

namespace Mapping

variable {first second m : Mapping} {p : Pair} {length : Nat}

/-- The pairs of a composed mapping are the compositions of pairs. -/
theorem mem_compose :
    p ∈ (first.compose second).pairs ↔
      ∃ a ∈ first.pairs, ∃ b ∈ second.pairs, a.compose b = some p := by
  unfold compose
  simp only [(List.mergeSort_perm _ _).mem_iff, List.mem_flatMap, List.mem_filterMap]
  constructor
  · rintro ⟨b, hb, a, ha, heq⟩
    exact ⟨a, ha, b, hb, heq⟩
  · rintro ⟨a, ha, b, hb, heq⟩
    exact ⟨b, hb, a, ha, heq⟩

lemma mem_identity : p ∈ (identity length).pairs ↔
    0 < length ∧ p = ⟨.ofSize 0 length, .ofSize 0 length⟩ := by
  rw [identity, Pair.copy, Pair.mem_ofSizes, and_self_left]

/-- Composing with the mapping of a text onto itself changes no pair with an input in the text. -/
lemma mem_compose_identity (h : ∀ q ∈ m.pairs, ∀ i ∈ q.input, i < length) :
    p ∈ ((identity length).compose m).pairs ↔ p ∈ m.pairs := by
  have hinside : ∀ q ∈ m.pairs, 0 < length ∧ q.input.Inside (.ofSize 0 length) := by
    intro q hq
    have := h q hq _ q.input.stop_mem
    simp only [Range.Inside, Range.ofSize]
    omega
  simp only [mem_compose, mem_identity]
  constructor
  · rintro ⟨a, ⟨-, rfl⟩, b, hb, heq⟩
    rw [Pair.compose_diagonal (hinside b hb).2, Option.some.injEq] at heq
    exact heq ▸ hb
  · intro hp
    exact ⟨_, ⟨(hinside p hp).1, rfl⟩, p, hp, Pair.compose_diagonal (hinside p hp).2⟩

end Mapping

end MarkupLint
