import Mathlib.Data.List.Chain
import MarkupLint.Proofs.Range.Normal

/-!
# The canonical form of a set of offsets

* `Gapped ranges`: the ranges stand in increasing order, with an offset that none of them covers between neighbours.
  This says of neighbours what `Separated` says of any two ranges of the list (`gapped_iff_separated`);
* `IsCanonical form ranges`: the list `form` has such gaps and covers the offsets of `ranges`;
* `normalize_canonical`: each list of ranges has exactly one canonical form, and `normalize` gives it.
-/

namespace MarkupLint

namespace Range

/-- Between neighbours of the list there is an offset that no range of the list covers. -/
def Gapped (ranges : List Range) : Prop :=
  ranges.IsChain fun r q => ∃ i, r.stop < i ∧ i < q.start ∧ ¬ Covers ranges i

/-- **A canonical form of a list of ranges**: the same offsets, by increasing ranges with gaps between them. -/
structure IsCanonical (form ranges : List Range) : Prop where
  covers : ∀ i, Covers form i ↔ Covers ranges i
  gapped : Gapped form

/-- In a normal form the offset behind a range is left out by the range and by all others. -/
lemma Separated.not_covers_succ {ranges : List Range} (h : Separated ranges) {r : Range} (hr : r ∈ ranges) :
    ¬ Covers ranges (r.stop + 1) := by
  induction ranges with
  | nil => exact absurd hr (by simp)
  | cons first ranges ih =>
    obtain ⟨hfirst, hrest⟩ := separated_cons.1 h
    rcases List.mem_cons.1 hr with rfl | hr
    · exact not_covers_succ_stop h
    · have hstop := hfirst _ ⟨r, hr, r.stop_mem⟩
      rw [covers_cons, mem_def]
      rintro (hmem | hcovers)
      · omega
      · exact ih hrest hr hcovers

lemma gapped_iff_separated {ranges : List Range} : Gapped ranges ↔ Separated ranges := by
  -- a range between two others keeps them as far apart
  have htrans : IsTrans Range fun r q => r.stop + 1 < q.start := by
    refine ⟨fun r q s hrq hqs => ?_⟩
    have := q.start_le_stop
    omega
  have hchain : Separated ranges ↔ ranges.IsChain fun r q => r.stop + 1 < q.start :=
    List.isChain_iff_pairwise.symm
  constructor
  · intro h
    refine hchain.2 (h.imp ?_)
    rintro r q ⟨i, hstop, hstart, -⟩
    omega
  · intro h
    refine (hchain.1 h).imp_of_mem_imp ?_
    intro r q hr _ hgap
    exact ⟨r.stop + 1, Nat.lt_succ_self _, hgap, h.not_covers_succ hr⟩

instance (ranges : List Range) : Decidable (Gapped ranges) := decidable_of_iff' _ gapped_iff_separated

lemma isCanonical_normalize (ranges : List Range) : IsCanonical (normalize ranges) ranges where
  covers _ := covers_normalize
  gapped := gapped_iff_separated.2 (separated_normalize ranges)

lemma IsCanonical.eq_normalize {form ranges : List Range} (h : IsCanonical form ranges) :
    form = normalize ranges := by
  refine eq_of_covers_iff (gapped_iff_separated.1 h.gapped) (separated_normalize ranges) fun i => ?_
  rw [h.covers, covers_normalize]

/-- The range around all depends only on what is covered. -/
lemma unite_congr {ranges others : List Range} (h : ∀ i, Covers ranges i ↔ Covers others i) :
    unite ranges = unite others := by
  refine Option.ext fun u => ?_
  rw [unite_eq_some_iff, unite_eq_some_iff]
  simp only [h]

/-- **Normalising gives the canonical form.**  It is canonical, and no other list is: lists with the same offsets,
in any order and however they overlap, are normalised to the same list.  In particular a second time changes nothing,
and the range around all is that of the normal form. -/
theorem normalize_canonical (ranges : List Range) :
    IsCanonical (normalize ranges) ranges ∧
    (∀ form : List Range, IsCanonical form ranges → form = normalize ranges) ∧
    (∀ others : List Range, (∀ i, Covers others i ↔ Covers ranges i) → normalize others = normalize ranges) ∧
    normalize (normalize ranges) = normalize ranges ∧
    unite (normalize ranges) = unite ranges := by
  refine ⟨isCanonical_normalize ranges, ?_, ?_, ?_, ?_⟩
  · intro form hform
    exact hform.eq_normalize
  · intro others hothers
    exact normalize_congr hothers
  · exact normalize_congr fun i => covers_normalize
  · exact unite_congr fun i => covers_normalize

/-- Ranges in disorder, of which two touch each other and two overlap. -/
def scattered : List Range :=
  [⟨9, 14, by decide⟩, ⟨1, 4, by decide⟩, ⟨5, 7, by decide⟩, ⟨11, 16, by decide⟩]

/-- The same offsets, some of them twice. -/
def repetitive : List Range :=
  [⟨12, 16, by decide⟩, ⟨1, 7, by decide⟩, ⟨3, 6, by decide⟩, ⟨9, 12, by decide⟩]

theorem scattered_canonical :
    IsCanonical [⟨1, 7, by decide⟩, ⟨9, 16, by decide⟩] scattered ∧
    normalize scattered = [⟨1, 7, by decide⟩, ⟨9, 16, by decide⟩] ∧
    (∀ i, Covers repetitive i ↔ Covers scattered i) ∧
    normalize repetitive = [⟨1, 7, by decide⟩, ⟨9, 16, by decide⟩] ∧
    unite [⟨1, 7, by decide⟩, ⟨9, 16, by decide⟩] = unite scattered := by
  have hform : IsCanonical [⟨1, 7, by decide⟩, ⟨9, 16, by decide⟩] scattered := by
    refine ⟨fun i => ?_, by decide⟩
    simp only [scattered, covers_cons, covers_nil, mem_def, or_false]
    omega
  have hsame : ∀ i, Covers repetitive i ↔ Covers scattered i := by
    intro i
    simp only [scattered, repetitive, covers_cons, covers_nil, mem_def, or_false]
    omega
  obtain ⟨-, hunique, hcongr, -, hunite⟩ := normalize_canonical scattered
  have heq := (hunique _ hform).symm
  rw [heq] at hunite
  exact ⟨hform, heq, hsame, (hcongr _ hsame).trans heq, hunite⟩

end Range

end MarkupLint
