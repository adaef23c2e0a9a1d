import MarkupLint.Mapping
import MarkupLint.Proofs.Range.Resize

/-!
# Mappings as relations between characters

`m.Links i j` says that a pair of the mapping `m` associates the input offset `i` with the output offset
`j`.  Both kinds of question are read off this relation: `covers_toInput` and `covers_toOutput` say which
offsets a range of the other side is answered with.
-/

namespace MarkupLint

open Range (Covers)

/-! ## Pairs -/

namespace Pair

variable {p : Pair} {i j : Nat}

/-- The pair associates the input offset `i` with the output offset `j`. -/
def Links (p : Pair) (i j : Nat) : Prop := p.output.Meets p.input j i

instance : Decidable (p.Links i j) := inferInstanceAs (Decidable (p.output.Meets p.input j i))

lemma Links.mem_input (h : p.Links i j) : i ∈ p.input := h.2.1

lemma Links.mem_output (h : p.Links i j) : j ∈ p.output := h.1

lemma exists_mem_toInput {r : Range} :
    (∃ q, p.toInput r = some q ∧ i ∈ q) ↔ ∃ j ∈ r, p.Links i j := by
  unfold toInput
  constructor
  · rintro ⟨q, hq, hi⟩
    obtain ⟨part, hpart, rfl⟩ := Option.map_eq_some_iff.1 hq
    obtain ⟨j, hj, hmeets⟩ := (Range.mem_resize (Range.inside_of_intersect hpart).1 p.input).1 hi
    exact ⟨j, ((Range.mem_intersect hpart j).1 hj).2, hmeets⟩
  · rintro ⟨j, hj, hlinks⟩
    obtain ⟨part, hpart, hmem⟩ := Range.exists_intersect hlinks.mem_output hj
    refine ⟨p.output.resize part p.input, by rw [hpart]; rfl, ?_⟩
    exact (Range.mem_resize (Range.inside_of_intersect hpart).1 p.input).2 ⟨j, hmem, hlinks⟩

lemma exists_mem_toOutput {r : Range} :
    (∃ q, p.toOutput r = some q ∧ j ∈ q) ↔ ∃ i ∈ r, p.Links i j := by
  -- the same question to the pair the other way round
  have h := exists_mem_toInput (p := ⟨p.output, p.input⟩) (i := j) (r := r)
  unfold Links at h ⊢
  simp only [@Range.meets_comm p.output]
  exact h

end Pair

/-! ## Mappings -/

namespace Mapping

variable {m : Mapping} {r : Range} {i j : Nat}

/-- A pair of the mapping associates the input offset `i` with the output offset `j`. -/
def Links (m : Mapping) (i j : Nat) : Prop := ∃ p ∈ m.pairs, p.Links i j

instance : Decidable (m.Links i j) := inferInstanceAs (Decidable (∃ p ∈ m.pairs, p.Links i j))

/-- **The input offsets that answer for a range** are those linked to an offset of it. -/
theorem covers_toInput : Covers (m.toInput r) i ↔ ∃ j ∈ r, m.Links i j := by
  unfold toInput
  rw [Range.covers_normalize, Range.covers_filterMap]
  simp only [Pair.exists_mem_toInput]
  constructor
  · rintro ⟨p, hp, j, hj, hlinks⟩
    exact ⟨j, hj, p, hp, hlinks⟩
  · rintro ⟨j, hj, p, hp, hlinks⟩
    exact ⟨p, hp, j, hj, hlinks⟩

/-- **The output offsets that answer for a range** are those linked to an offset of it. -/
theorem covers_toOutput : Covers (m.toOutput r) j ↔ ∃ i ∈ r, m.Links i j := by
  unfold toOutput
  rw [Range.covers_normalize, Range.covers_filterMap]
  simp only [Pair.exists_mem_toOutput]
  constructor
  · rintro ⟨p, hp, i, hi, hlinks⟩
    exact ⟨i, hi, p, hp, hlinks⟩
  · rintro ⟨i, hi, p, hp, hlinks⟩
    exact ⟨p, hp, i, hi, hlinks⟩

lemma covers_toInput_single : Covers (m.toInput (.single j)) i ↔ m.Links i j := by
  simp [covers_toInput]

lemma covers_toOutput_single : Covers (m.toOutput (.single i)) j ↔ m.Links i j := by
  simp [covers_toOutput]

end Mapping

end MarkupLint
