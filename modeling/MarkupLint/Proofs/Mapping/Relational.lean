import Mathlib
import MarkupLint.Proofs.Mapping.Chain

/-!
# Composition of copying mappings

A mapping copies if both sides of each of its pairs have one size, in whatever order the pairs are and however
they overlap.  Nothing is rounded then, and composition is composition of relations:

* `links_compose`: the composition links `i` to `j` just when the first mapping links `i` to some `k` that the
  second one links to `j`;
* `links_foldl_compose` and `Bracketing.links_mapping`: the composition of a chain, with the brackets put in any
  way, follows the trails of the chain;
* `compose_of_copies`: consequently all ways to ask a chain, composed or step by step, give one answer.
-/

namespace MarkupLint

open Range (Covers)

namespace Mapping

variable {m first second : Mapping} {chain later : List Mapping} {ranges : List Range} {r : Range} {i j : Nat}

/-! ## Copying mappings -/

/-- Every pair of the mapping has two sides of one size. -/
def Copies (m : Mapping) : Prop := ∀ p ∈ m.pairs, p.input.size = p.output.size

instance : Decidable m.Copies := inferInstanceAs (Decidable (∀ p ∈ m.pairs, _))

lemma Copies.compose (hf : first.Copies) (hs : second.Copies) : (first.compose second).Copies := by
  intro c hc
  obtain ⟨a, ha, b, hb, hab⟩ := mem_compose.1 hc
  exact (Pair.aligned_compose_iff (hf a ha) (hs b hb) hab).1

/-- **Copying mappings compose as relations.** -/
theorem links_compose (hf : first.Copies) (hs : second.Copies) :
    (first.compose second).Links i j ↔ ∃ k, first.Links i k ∧ second.Links k j := by
  constructor
  · rintro ⟨c, hc, hlinks⟩
    obtain ⟨a, ha, b, hb, hab⟩ := mem_compose.1 hc
    obtain ⟨hsize, haligned⟩ := Pair.aligned_compose_iff (hf a ha) (hs b hb) hab
    obtain ⟨k, hik, hkj⟩ := (haligned i j).1 ((Pair.links_iff_aligned hsize).1 hlinks)
    exact ⟨k, ⟨a, ha, hik.links⟩, b, hb, hkj.links⟩
  · rintro ⟨k, ⟨a, ha, hik⟩, b, hb, hkj⟩
    have haligned := (Pair.links_iff_aligned (hf a ha)).1 hik
    obtain ⟨c, hab, hij⟩ := haligned.compose ((Pair.links_iff_aligned (hs b hb)).1 hkj)
    exact ⟨c, mem_compose.2 ⟨a, ha, b, hb, hab⟩, hij.links⟩

/-- Asking the composition is asking the first mapping about the answers of the second one. -/
lemma toInput_compose (hf : first.Copies) (hs : second.Copies) (r : Range) :
    (first.compose second).toInput r = first.stepBackward (second.toInput r) := by
  refine Range.eq_of_covers_iff (Range.separated_normalize _) (Range.separated_normalize _) fun i => ?_
  simp only [covers_stepBackward, covers_toInput, links_compose hf hs]
  constructor
  · rintro ⟨j, hj, k, hik, hkj⟩
    exact ⟨k, hik, j, hj, hkj⟩
  · rintro ⟨k, hik, j, hj, hkj⟩
    exact ⟨j, hj, k, hik, hkj⟩

/-! ## Chains -/

lemma trail_append : Trail (chain ++ later) i j ↔ ∃ k, Trail chain i k ∧ Trail later k j := by
  induction chain generalizing i with
  | nil => simp [Trail]
  | cons m chain ih =>
    simp only [List.cons_append, Trail, ih]
    constructor
    · rintro ⟨l, hil, k, hlk, hkj⟩
      exact ⟨k, ⟨l, hil, hlk⟩, hkj⟩
    · rintro ⟨k, ⟨l, hil, hlk⟩, hkj⟩
      exact ⟨l, hil, k, hlk, hkj⟩

/-- The composition of a chain of copying mappings follows its trails. -/
theorem links_foldl_compose (hm : m.Copies) (hlater : ∀ n ∈ later, n.Copies) :
    (later.foldl compose m).Links i j ↔ Trail (m :: later) i j := by
  induction later generalizing m with
  | nil => simp [Trail]
  | cons n later ih =>
    obtain ⟨hn, hlater⟩ := List.forall_mem_cons.1 hlater
    rw [List.foldl_cons, ih (hm.compose hn) hlater]
    simp only [Trail, links_compose hm hn]
    constructor
    · rintro ⟨l, ⟨k, hik, hkl⟩, htrail⟩
      exact ⟨k, hik, l, hkl, htrail⟩
    · rintro ⟨k, hik, l, hkl, htrail⟩
      exact ⟨l, ⟨k, hik, hkl⟩, htrail⟩

/-! ## Walking forward -/

/-- One step of the walk: what comes from the ranges of an input, put together. -/
def stepForward (m : Mapping) (ranges : List Range) : List Range :=
  Range.normalize (ranges.flatMap m.toOutput)

/-- The ranges that come from the given ranges of the first input of a chain, found step by step from the first
mapping to the last. -/
def walkForward (chain : List Mapping) (ranges : List Range) : List Range :=
  chain.foldl (fun ranges m => m.stepForward ranges) ranges

lemma covers_stepForward : Covers (m.stepForward ranges) j ↔ ∃ i, Covers ranges i ∧ m.Links i j := by
  unfold stepForward
  rw [Range.covers_normalize, Range.covers_flatMap]
  constructor
  · rintro ⟨r, hr, hj⟩
    obtain ⟨i, hi, hlinks⟩ := covers_toOutput.1 hj
    exact ⟨i, ⟨r, hr, hi⟩, hlinks⟩
  · rintro ⟨i, ⟨r, hr, hi⟩, hlinks⟩
    exact ⟨r, hr, covers_toOutput.2 ⟨i, hi, hlinks⟩⟩

lemma toOutput_compose (hf : first.Copies) (hs : second.Copies) (r : Range) :
    (first.compose second).toOutput r = second.stepForward (first.toOutput r) := by
  refine Range.eq_of_covers_iff (Range.separated_normalize _) (Range.separated_normalize _) fun j => ?_
  simp only [covers_stepForward, covers_toOutput, links_compose hf hs]
  constructor
  · rintro ⟨i, hi, k, hik, hkj⟩
    exact ⟨k, ⟨i, hi, hik⟩, hkj⟩
  · rintro ⟨k, ⟨i, hi, hik⟩, hkj⟩
    exact ⟨i, hi, k, hik, hkj⟩

/-- The walk forward follows the trails from the ranges that it starts from. -/
theorem covers_walkForward :
    Covers (walkForward chain ranges) j ↔ ∃ i, Covers ranges i ∧ Trail chain i j := by
  induction chain generalizing ranges with
  | nil => simp [walkForward, Trail]
  | cons m later ih =>
    unfold walkForward at ih ⊢
    rw [List.foldl_cons, ih]
    simp only [covers_stepForward, Trail]
    constructor
    · rintro ⟨k, ⟨i, hi, hik⟩, htrail⟩
      exact ⟨i, hi, k, hik, htrail⟩
    · rintro ⟨i, hi, k, hik, htrail⟩
      exact ⟨k, ⟨i, hi, hik⟩, htrail⟩

/-- A walk of one step or more ends with a normal form. -/
lemma separated_walkForward (m : Mapping) (later : List Mapping) (ranges : List Range) :
    Range.Separated (walkForward (m :: later) ranges) := by
  induction later generalizing m ranges with
  | nil => exact Range.separated_normalize _
  | cons n later ih => exact ih n (m.stepForward ranges)

/-! ## All ways to ask -/

/-- A mapping that follows the trails of a chain answers like the walk back through the chain. -/
lemma toInput_eq_walkBackward {n : Mapping} (h : ∀ i j, n.Links i j ↔ Trail (m :: later) i j) (r : Range) :
    n.toInput r = walkBackward (m :: later) [r] := by
  refine Range.eq_of_covers_iff (Range.separated_normalize _) (Range.separated_normalize _) fun i => ?_
  rw [covers_toInput, covers_walkBackward]
  simp only [h, Range.covers_cons, Range.covers_nil, or_false]
  exact exists_congr fun j => and_comm

/-- A mapping that follows the trails of a chain answers like the walk forward through the chain. -/
lemma toOutput_eq_walkForward {n : Mapping} (h : ∀ i j, n.Links i j ↔ Trail (m :: later) i j) (r : Range) :
    n.toOutput r = walkForward (m :: later) [r] := by
  refine Range.eq_of_covers_iff (Range.separated_normalize _) (separated_walkForward ..) fun j => ?_
  rw [covers_toOutput, covers_walkForward]
  simp only [h, Range.covers_cons, Range.covers_nil, or_false]

/-- The composition of a chain of copying mappings answers like the walks through the chain. -/
lemma crawl_eq_walk (h : ∀ m ∈ chain, m.Copies) (r : Range) :
    crawlBackward chain r = walkBackward chain [r] ∧ crawlForward chain r = walkForward chain [r] := by
  cases chain with
  | nil => exact ⟨rfl, rfl⟩
  | cons m later =>
    obtain ⟨hm, hlater⟩ := List.forall_mem_cons.1 h
    have hlinks : ∀ i j, (later.foldl compose m).Links i j ↔ Trail (m :: later) i j :=
      fun i j => links_foldl_compose hm hlater
    exact ⟨toInput_eq_walkBackward hlinks r, toOutput_eq_walkForward hlinks r⟩

/-- A way to put brackets into the composition of a chain. -/
inductive Bracketing where
  /-- A mapping alone. -/
  | single (m : Mapping)
  /-- The composition of two parts of the chain. -/
  | join (first second : Bracketing)
deriving DecidableEq, Repr

namespace Bracketing

/-- The mappings that are composed, first to last. -/
def steps : Bracketing → List Mapping
  | single m => [m]
  | join first second => first.steps ++ second.steps

/-- The composition. -/
def mapping : Bracketing → Mapping
  | single m => m
  | join first second => first.mapping.compose second.mapping

lemma steps_ne_nil (b : Bracketing) : b.steps ≠ [] := by
  induction b with
  | single m => exact List.cons_ne_nil _ _
  | join first second ihf _ => exact List.append_ne_nil_of_left_ne_nil ihf _

lemma copies_mapping (b : Bracketing) (h : ∀ m ∈ b.steps, m.Copies) : b.mapping.Copies := by
  induction b with
  | single m => exact h m (List.mem_singleton_self m)
  | join first second ihf ihs =>
    obtain ⟨hf, hs⟩ := List.forall_mem_append.1 h
    exact (ihf hf).compose (ihs hs)

/-- **However the brackets are put, the composition follows the trails of the chain.** -/
theorem links_mapping (b : Bracketing) (h : ∀ m ∈ b.steps, m.Copies) (i j : Nat) :
    b.mapping.Links i j ↔ Trail b.steps i j := by
  induction b generalizing i j with
  | single m => simp [mapping, steps, Trail]
  | join first second ihf ihs =>
    obtain ⟨hf, hs⟩ := List.forall_mem_append.1 h
    rw [mapping, steps, trail_append, links_compose (copies_mapping _ hf) (copies_mapping _ hs)]
    simp only [ihf hf, ihs hs]

/-- However the brackets are put, the composition answers like the walks through the chain. -/
lemma answers_eq_walk (b : Bracketing) (h : ∀ m ∈ b.steps, m.Copies) (r : Range) :
    b.mapping.toInput r = walkBackward b.steps [r] ∧ b.mapping.toOutput r = walkForward b.steps [r] := by
  obtain ⟨m, later, hsteps⟩ := List.exists_cons_of_ne_nil b.steps_ne_nil
  have hlinks := b.links_mapping h
  rw [hsteps] at hlinks ⊢
  exact ⟨toInput_eq_walkBackward hlinks r, toOutput_eq_walkForward hlinks r⟩

end Bracketing

/-- **Composition of copying mappings is relational composition.**  The composition copies, and asking it is asking
one mapping about the answers of the other, in both directions.  Consequently a chain of copying mappings is
answered by its composition as it is step by step, and the brackets of the composition do not matter. -/
theorem compose_of_copies :
    (∀ first second : Mapping, first.Copies → second.Copies →
      (first.compose second).Copies ∧ ∀ r : Range,
        (first.compose second).toInput r = Range.normalize ((second.toInput r).flatMap first.toInput) ∧
        (first.compose second).toOutput r = Range.normalize ((first.toOutput r).flatMap second.toOutput)) ∧
    ∀ chain : List Mapping, (∀ m ∈ chain, m.Copies) → ∀ r : Range,
      crawlBackward chain r = walkBackward chain [r] ∧ crawlForward chain r = walkForward chain [r] ∧
      ∀ b : Bracketing, b.steps = chain →
        b.mapping.toInput r = crawlBackward chain r ∧ b.mapping.toOutput r = crawlForward chain r := by
  refine ⟨fun first second hf hs => ⟨hf.compose hs, fun r => ?_⟩, fun chain h r => ?_⟩
  · exact ⟨toInput_compose hf hs r, toOutput_compose hf hs r⟩
  · obtain ⟨hbackward, hforward⟩ := crawl_eq_walk h r
    refine ⟨hbackward, hforward, ?_⟩
    rintro b rfl
    rw [hbackward, hforward]
    exact b.answers_eq_walk h r

/-- Three copying mappings: one copies two overlapping stretches out of order, one moves, and one leaves a gap. -/
def tangled : List Mapping :=
  [⟨[⟨⟨4, 6, by decide⟩, ⟨0, 2, by decide⟩⟩, ⟨⟨0, 3, by decide⟩, ⟨2, 5, by decide⟩⟩]⟩,
   ⟨[⟨⟨1, 5, by decide⟩, ⟨0, 4, by decide⟩⟩]⟩,
   ⟨[⟨⟨3, 4, by decide⟩, ⟨2, 3, by decide⟩⟩, ⟨⟨0, 1, by decide⟩, ⟨0, 1, by decide⟩⟩]⟩]

theorem tangled_answers :
    (∀ m ∈ tangled, m.Copies) ∧
    crawlBackward tangled ⟨1, 2, by decide⟩ = walkBackward tangled [⟨1, 2, by decide⟩] ∧
    walkBackward tangled [⟨1, 2, by decide⟩] = [.single 0, .single 2, .single 6] ∧
    (tangled[0].compose (tangled[1].compose tangled[2])).toInput ⟨1, 2, by decide⟩ =
      [.single 0, .single 2, .single 6] := by
  have hcopies : ∀ m ∈ tangled, m.Copies := by decide +kernel
  have hwalk : walkBackward tangled [⟨1, 2, by decide⟩] = [.single 0, .single 2, .single 6] := by cbv
  obtain ⟨hbackward, -, hbrackets⟩ := compose_of_copies.2 tangled hcopies ⟨1, 2, by decide⟩
  refine ⟨hcopies, hbackward, hwalk, ?_⟩
  rw [← hwalk, ← hbackward]
  exact (hbrackets (.join (.single _) (.join (.single _) (.single _))) rfl).1

end Mapping

end MarkupLint
