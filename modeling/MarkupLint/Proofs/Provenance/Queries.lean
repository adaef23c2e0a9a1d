import MarkupLint.Document
import MarkupLint.Proofs.Mapping.Links

/-!
# Questions about where characters come from

* `covers_toInput` and `covers_toOutput`: the answers of a document are those of its mapping, within the
  current and the initial text;
* `toInput_converse_toOutput`: the two directions are converse relations, for every mapping and every
  document;
* `range_query_eq_single_queries`: a range is answered with the union of the answers for its offsets, so
  that a wider range has a wider answer.
-/

namespace MarkupLint

open Range (Covers)

/-! ## Ranges of a text -/

namespace Provenance

variable {r part : Range} {length j : Nat}

lemma mem_whole? (h : Range.whole? length = some part) : j ∈ part ↔ j < length := by
  unfold Range.whole? at h
  split at h
  · next hpos =>
    obtain rfl := Option.some.inj h
    rw [Range.mem_ofSize hpos]
    omega
  · cases h

lemma mem_clip (h : clip r length = some part) : j ∈ part ↔ j ∈ r ∧ j < length := by
  obtain ⟨text, htext, hpart⟩ := Option.bind_eq_some_iff.1 h
  rw [Range.mem_intersect hpart, mem_whole? htext]

lemma not_mem_of_clip_eq_none (h : clip r length = none) (hj : j ∈ r) : ¬ j < length := by
  intro hlt
  have htext : Range.whole? length = some (.ofSize 0 length) := by
    unfold Range.whole?
    rw [if_pos (by omega)]
  unfold clip at h
  rw [htext, Option.bind_some, Range.intersect_eq_none_iff] at h
  exact h j ⟨hj, (mem_whole? htext).2 hlt⟩

end Provenance

/-! ## The answers of a document -/

namespace Document

variable {d : Document} {r : Range} {i j : Nat}

lemma covers_toInput :
    Covers (d.provenance.toInput r) i ↔ ∃ j ∈ r, j < d.current.length ∧ d.composed.Links i j := by
  unfold Provenance.toInput provenance
  split
  · next h =>
    simp only [Range.covers_nil, false_iff, not_exists, not_and]
    intro j hj hlt
    exact absurd hlt (Provenance.not_mem_of_clip_eq_none h hj)
  · next part h =>
    rw [Mapping.covers_toInput]
    simp only [Provenance.mem_clip h, and_assoc]

lemma covers_toOutput :
    Covers (d.provenance.toOutput r) j ↔ ∃ i ∈ r, i < d.initial.length ∧ d.composed.Links i j := by
  unfold Provenance.toOutput provenance
  split
  · next h =>
    simp only [Range.covers_nil, false_iff, not_exists, not_and]
    intro i hi hlt
    exact absurd hlt (Provenance.not_mem_of_clip_eq_none h hi)
  · next part h =>
    rw [Mapping.covers_toOutput]
    simp only [Provenance.mem_clip h, and_assoc]

lemma covers_toInput_single :
    Covers (d.provenance.toInput (.single j)) i ↔ j < d.current.length ∧ d.composed.Links i j := by
  simp [covers_toInput]

lemma covers_toOutput_single :
    Covers (d.provenance.toOutput (.single i)) j ↔ i < d.initial.length ∧ d.composed.Links i j := by
  simp [covers_toOutput]

lemma separated_toInput (d : Document) (r : Range) : Range.Separated (d.provenance.toInput r) := by
  unfold Provenance.toInput
  split
  · simp [Range.Separated]
  · exact Range.separated_normalize _

end Document

/-! ## The two directions -/

/-- A text in which three characters have taken the place of two. -/
def Document.stretched : Document :=
  (ofLines "abcd".toList "").revise
    (.replace (.ofSource "bc" Pattern.noFlags) (.template "QRS".toList) true 0)

/-- **Forward and backward tracking are converse relations**, for every mapping, whatever the sizes of its
pairs and however they overlap, and for every document, whatever edits have led to it. -/
theorem toInput_converse_toOutput :
    (∀ (m : Mapping) (i j : Nat),
      Covers (m.toInput (.single j)) i ↔ Covers (m.toOutput (.single i)) j) ∧
    ∀ (d : Document) (i j : Nat), i < d.initial.length → j < d.current.length →
      (Covers (d.provenance.toInput (.single j)) i ↔ Covers (d.provenance.toOutput (.single i)) j) := by
  refine ⟨fun m i j => ?_, fun d i j hi hj => ?_⟩
  · rw [Mapping.covers_toInput_single, Mapping.covers_toOutput_single]
  · rw [Document.covers_toInput_single, Document.covers_toOutput_single]
    exact and_congr (iff_of_true hj hi) Iff.rfl

/-- The second of the three characters comes from both of the two, which are tracked to it. -/
theorem stretched_converse :
    1 < Document.stretched.initial.length ∧ 2 < Document.stretched.initial.length ∧
    2 < Document.stretched.current.length ∧
    Covers (Document.stretched.provenance.toOutput (.single 1)) 2 ∧
    Covers (Document.stretched.provenance.toOutput (.single 2)) 2 := by
  have h1 : 1 < Document.stretched.initial.length := by decide +kernel
  have h2 : 2 < Document.stretched.initial.length := by decide +kernel
  have hj : 2 < Document.stretched.current.length := by decide +kernel
  refine ⟨h1, h2, hj, ?_, ?_⟩
  · exact (toInput_converse_toOutput.2 _ 1 2 h1 hj).1 (Document.covers_toInput_single.2 (by decide +kernel))
  · exact (toInput_converse_toOutput.2 _ 2 2 h2 hj).1 (Document.covers_toInput_single.2 (by decide +kernel))

/-! ## Ranges and their offsets -/

/-- The offsets of a range, in order. -/
def Range.offsets (r : Range) : List Nat := List.range' r.start r.size

lemma Range.mem_offsets {r : Range} {i : Nat} : i ∈ r.offsets ↔ i ∈ r := by
  have := r.start_add_size
  rw [offsets, List.mem_range'_1, mem_def]
  omega

namespace Mapping

variable (m : Mapping) (r : Range)

lemma toInput_eq_normalize_flatMap :
    m.toInput r = Range.normalize (r.offsets.flatMap fun j => m.toInput (.single j)) :=
  Range.eq_of_covers_iff (Range.separated_normalize _) (Range.separated_normalize _) fun i => by
    rw [Range.covers_normalize, Range.covers_flatMap, covers_toInput]
    simp only [Range.mem_offsets, covers_toInput_single]

lemma toOutput_eq_normalize_flatMap :
    m.toOutput r = Range.normalize (r.offsets.flatMap fun i => m.toOutput (.single i)) :=
  Range.eq_of_covers_iff (Range.separated_normalize _) (Range.separated_normalize _) fun j => by
    rw [Range.covers_normalize, Range.covers_flatMap, covers_toOutput]
    simp only [Range.mem_offsets, covers_toOutput_single]

end Mapping

/-- A list that covers more has a wider range around it. -/
lemma Range.unite_mono {ranges others : List Range} (h : ∀ i, Covers ranges i → Covers others i)
    {u : Range} (hu : unite ranges = some u) : ∃ v, unite others = some v ∧ u.Inside v := by
  obtain ⟨hstart, hstop, -⟩ := unite_eq_some_iff.1 hu
  obtain ⟨v, hv⟩ := unite_isSome (h _ hstart)
  have hin := (unite_eq_some_iff.1 hv).2.2
  exact ⟨v, hv, (hin _ (h _ hstart)).1, (hin _ (h _ hstop)).2⟩

namespace Document

variable {d : Document} {r q : Range}

lemma covers_toInput_mono (h : r.Inside q) {i : Nat} (hi : Covers (d.provenance.toInput r) i) :
    Covers (d.provenance.toInput q) i := by
  rw [covers_toInput] at hi ⊢
  obtain ⟨j, hj, hlinks⟩ := hi
  exact ⟨j, Range.inside_iff.1 h j hj, hlinks⟩

lemma covers_toOutput_mono (h : r.Inside q) {j : Nat} (hj : Covers (d.provenance.toOutput r) j) :
    Covers (d.provenance.toOutput q) j := by
  rw [covers_toOutput] at hj ⊢
  obtain ⟨i, hi, hlinks⟩ := hj
  exact ⟨i, Range.inside_iff.1 h i hi, hlinks⟩

end Document

/-- **A range query is the union of its single-character queries**, for every mapping and in both
directions.  Consequently, in every document, a wider range is answered with more offsets and with a wider
range around them. -/
theorem range_query_eq_single_queries :
    (∀ (m : Mapping) (r : Range),
      m.toInput r = Range.normalize (r.offsets.flatMap fun j => m.toInput (.single j)) ∧
      m.toOutput r = Range.normalize (r.offsets.flatMap fun i => m.toOutput (.single i))) ∧
    ∀ (d : Document) (r q : Range), r.Inside q →
      (∀ i, Covers (d.provenance.toInput r) i → Covers (d.provenance.toInput q) i) ∧
      (∀ u, d.provenance.backward r = some u → ∃ v, d.provenance.backward q = some v ∧ u.Inside v) ∧
      (∀ j, Covers (d.provenance.toOutput r) j → Covers (d.provenance.toOutput q) j) ∧
      (∀ u, d.provenance.forward r = some u → ∃ v, d.provenance.forward q = some v ∧ u.Inside v) := by
  refine ⟨fun m r => ⟨m.toInput_eq_normalize_flatMap r, m.toOutput_eq_normalize_flatMap r⟩,
    fun d r q h => ⟨?_, ?_, ?_, ?_⟩⟩
  · exact fun i => Document.covers_toInput_mono h
  · exact fun u => Range.unite_mono fun i => Document.covers_toInput_mono h
  · exact fun j => Document.covers_toOutput_mono h
  · exact fun u => Range.unite_mono fun j => Document.covers_toOutput_mono h

/-- The first of the three characters comes from the first of the two, which all three cover. -/
theorem stretched_range_query :
    (Range.single 1).Inside ⟨1, 3, by decide⟩ ∧
    Covers (Document.stretched.provenance.toInput (.single 1)) 1 ∧
    Covers (Document.stretched.provenance.toInput ⟨1, 3, by decide⟩) 1 ∧
    ∃ u v, Document.stretched.provenance.backward (.single 1) = some u ∧
      Document.stretched.provenance.backward ⟨1, 3, by decide⟩ = some v ∧ u.Inside v := by
  have hinside : (Range.single 1).Inside ⟨1, 3, by decide⟩ := by decide
  have hcovers : Covers (Document.stretched.provenance.toInput (.single 1)) 1 :=
    Document.covers_toInput_single.2 (by decide +kernel)
  obtain ⟨hmore, hwider, -⟩ := range_query_eq_single_queries.2 Document.stretched _ _ hinside
  obtain ⟨u, hu⟩ := Range.unite_isSome hcovers
  obtain ⟨v, hv, huv⟩ := hwider u hu
  exact ⟨hinside, hcovers, hmore 1 hcovers, u, v, hu, hv, huv⟩

end MarkupLint
