import MarkupLint.Proofs.Mapping.Compose

/-!
# Chains of mappings

A chain can be asked in two ways: through its composition (`crawlBackward`), or step by step from its last
mapping to its first (`walkBackward`).  The two resize at different ends and may answer with different
ranges, but they agree on whether there is an answer:

* `Trail chain i j`: links of the mappings of the chain, one after the other, lead from `i` to `j`;
* `traced_foldl_compose`: the composition has an answer for `j` just when a trail leads to `j`;
* `covers_walkBackward`: the walk follows the trails;
* `crawlBackward_eq_nil_iff`: no answer of the one means no answer of the other.
-/

namespace MarkupLint

open Range (Covers)

/-- Every offset of the output of a pair is linked to an offset of its input. -/
lemma Pair.exists_links {p : Pair} {j : Nat} (hj : j ∈ p.output) : ∃ i, p.Links i j := by
  have hinside : (Range.single j).Inside p.output := hj
  obtain ⟨k, hk, hmeets⟩ := (Range.mem_resize hinside p.input).1 (Range.start_mem _)
  obtain rfl := Range.mem_single.1 hk
  exact ⟨_, hmeets⟩

namespace Mapping

variable {m first second : Mapping} {chain later : List Mapping} {r : Range} {i j k : Nat}

/-! ## Traced offsets -/

/-- The output offset `j` comes from somewhere in the input. -/
def Traced (m : Mapping) (j : Nat) : Prop := ∃ i, m.Links i j

lemma traced_iff : m.Traced j ↔ ∃ p ∈ m.pairs, j ∈ p.output := by
  constructor
  · rintro ⟨i, p, hp, hlinks⟩
    exact ⟨p, hp, hlinks.mem_output⟩
  · rintro ⟨p, hp, hj⟩
    obtain ⟨i, hlinks⟩ := Pair.exists_links hj
    exact ⟨i, p, hp, hlinks⟩

lemma toInput_eq_nil_iff : m.toInput r = [] ↔ ∀ j ∈ r, ¬ m.Traced j := by
  constructor
  · rintro h j hj ⟨i, hlinks⟩
    have hcovers : Covers (m.toInput r) i := covers_toInput.2 ⟨j, hj, hlinks⟩
    rw [h] at hcovers
    exact Range.covers_nil i hcovers
  · intro h
    refine Range.eq_nil_of_covers fun i hi => ?_
    obtain ⟨j, hj, hlinks⟩ := covers_toInput.1 hi
    exact h j hj ⟨i, hlinks⟩

/-- **Composition traces what the second step links to something traced by the first.**  However the inputs
are rounded, the outputs of composed pairs are the exact images of what the pairs share in the middle. -/
theorem traced_compose : (first.compose second).Traced j ↔ ∃ k, first.Traced k ∧ second.Links k j := by
  simp only [traced_iff, mem_compose]
  constructor
  · rintro ⟨c, ⟨a, ha, b, hb, hab⟩, hj⟩
    obtain ⟨k, hk, hlinks⟩ := (Pair.mem_output_compose hab).1 hj
    exact ⟨k, ⟨a, ha, hk⟩, b, hb, hlinks⟩
  · rintro ⟨k, ⟨a, ha, hk⟩, b, hb, hlinks⟩
    obtain ⟨c, hab⟩ := Pair.exists_compose hk hlinks.mem_input
    exact ⟨c, ⟨a, ha, b, hb, hab⟩, (Pair.mem_output_compose hab).2 ⟨k, hk, hlinks⟩⟩

/-! ## Trails -/

/-- Links of the mappings of a chain, one after the other, lead from `i` to `j`. -/
def Trail : List Mapping → Nat → Nat → Prop
  | [], i, j => i = j
  | m :: later, i, j => ∃ k, m.Links i k ∧ Trail later k j

/-- What the composition of a chain traces: the ends of the trails that begin at something traced. -/
theorem traced_foldl_compose :
    (later.foldl compose m).Traced j ↔ ∃ k, m.Traced k ∧ Trail later k j := by
  induction later generalizing m with
  | nil => simp [Trail]
  | cons n later ih =>
    rw [List.foldl_cons, ih]
    simp only [traced_compose, Trail]
    constructor
    · rintro ⟨l, ⟨k, hk, hkl⟩, htrail⟩
      exact ⟨k, hk, l, hkl, htrail⟩
    · rintro ⟨k, hk, l, hkl, htrail⟩
      exact ⟨l, ⟨k, hk, hkl⟩, htrail⟩

/-! ## Walking back -/

/-- One step of the walk: what the ranges of an output come from, put together. -/
def stepBackward (m : Mapping) (ranges : List Range) : List Range :=
  Range.normalize (ranges.flatMap m.toInput)

/-- The ranges from which the given ranges of the last output of a chain come, found step by step from the last
mapping to the first. -/
def walkBackward (chain : List Mapping) (ranges : List Range) : List Range :=
  chain.foldr stepBackward ranges

lemma covers_stepBackward {ranges : List Range} :
    Covers (m.stepBackward ranges) i ↔ ∃ j, m.Links i j ∧ Covers ranges j := by
  unfold stepBackward
  rw [Range.covers_normalize, Range.covers_flatMap]
  constructor
  · rintro ⟨r, hr, hi⟩
    obtain ⟨j, hj, hlinks⟩ := covers_toInput.1 hi
    exact ⟨j, hlinks, r, hr, hj⟩
  · rintro ⟨j, hlinks, r, hr, hj⟩
    exact ⟨r, hr, covers_toInput.2 ⟨j, hj, hlinks⟩⟩

/-- **The walk follows the trails** to the ranges that it starts from. -/
theorem covers_walkBackward {ranges : List Range} :
    Covers (walkBackward chain ranges) i ↔ ∃ j, Trail chain i j ∧ Covers ranges j := by
  induction chain generalizing i with
  | nil => simp [walkBackward, Trail]
  | cons m later ih =>
    unfold walkBackward at ih ⊢
    rw [List.foldr_cons, covers_stepBackward]
    simp only [ih, Trail]
    constructor
    · rintro ⟨k, hik, j, htrail, hj⟩
      exact ⟨j, ⟨k, hik, htrail⟩, hj⟩
    · rintro ⟨j, ⟨k, hik, htrail⟩, hj⟩
      exact ⟨k, hik, j, htrail, hj⟩

/-- **Composition neither loses nor invents provenance.**  The composition of a chain has no answer for a
range just when the walk through the chain, step by step, ends with nothing. -/
theorem crawlBackward_eq_nil_iff (chain : List Mapping) (r : Range) :
    crawlBackward chain r = [] ↔ walkBackward chain [r] = [] := by
  cases chain with
  | nil => simp [crawlBackward, composeAll, walkBackward]
  | cons m later =>
    have hcrawl : crawlBackward (m :: later) r = [] ↔ ∀ i j, j ∈ r → ¬ Trail (m :: later) i j := by
      simp only [crawlBackward, composeAll, toInput_eq_nil_iff, traced_foldl_compose]
      constructor
      · rintro h i j hj ⟨k, hik, htrail⟩
        exact h j hj ⟨k, ⟨i, hik⟩, htrail⟩
      · rintro h j hj ⟨k, ⟨i, hik⟩, htrail⟩
        exact h i j hj ⟨k, hik, htrail⟩
    have hwalk : walkBackward (m :: later) [r] = [] ↔ ∀ i, ¬ Covers (walkBackward (m :: later) [r]) i :=
      ⟨fun h i => by rw [h]; exact Range.covers_nil i, Range.eq_nil_of_covers⟩
    rw [hcrawl, hwalk]
    simp only [covers_walkBackward, Range.covers_cons, Range.covers_nil, or_false]
    constructor
    · rintro h i ⟨j, htrail, hj⟩
      exact h i j hj htrail
    · rintro h i j hj htrail
      exact h i ⟨j, htrail, hj⟩

end Mapping

end MarkupLint
