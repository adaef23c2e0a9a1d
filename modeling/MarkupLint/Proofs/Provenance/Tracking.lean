import MarkupLint.Proofs.Provenance.Lineage
import MarkupLint.Proofs.Provenance.Queries

/-!
# Tracking tells the lineage

* `backward_eq_of_tagged`: a range whose ends have only been copied is tracked back to the range between the
  characters that they are copies of, and no rounding widens it;
* `tracked_mem_ancestors`: in both directions, what is tracked is an ancestor.

Both follow from the lineage of the document (`Document.Reached.lineage`).
-/

namespace MarkupLint

open Range (Covers)

/-! ## What the lineage says of links and tags -/

section Lineage

variable {d : Document} (hd : d.Reached) (hs : d.Unshifted) {i j : Nat}
include hd hs

lemma mem_ancestors_of_links (h : d.composed.Links i j) : i ∈ d.ancestors j := by
  obtain ⟨p, hp, hlinks⟩ := h
  exact ((hd.lineage hs).sound p hp).mem_of_links hlinks

lemma links_of_tag (h : d.tag j = some i) : d.composed.Links i j := by
  obtain ⟨p, hp, haligned⟩ := (hd.lineage hs).complete i j h
  exact ⟨p, hp, haligned.links⟩

lemma mem_ancestors_of_tag (h : d.tag j = some i) : i ∈ d.ancestors j := by
  rw [(hd.lineage hs).ancestors_eq i j h]
  exact Finset.mem_singleton_self i

lemma lt_length_of_tag (h : d.tag j = some i) : j < d.current.length :=
  (hd.lineage hs).within i j (mem_ancestors_of_tag hd hs h)

/-- Ancestors of a character at or after a copy come at or after what it is a copy of. -/
lemma le_of_tag_left {i' j' : Nat} (h : d.tag j = some i) (hj : j ≤ j') (hi' : i' ∈ d.ancestors j') :
    i ≤ i' :=
  (hd.lineage hs).ordered i i' j j' hj (by simp [h]) (mem_ancestors_of_tag hd hs h) hi'

/-- Ancestors of a character at or before a copy come at or before what it is a copy of. -/
lemma le_of_tag_right {i' j' : Nat} (h : d.tag j' = some i') (hj : j ≤ j') (hi : i ∈ d.ancestors j) :
    i ≤ i' :=
  (hd.lineage hs).ordered i i' j j' hj (by simp [h]) hi (mem_ancestors_of_tag hd hs h)

/-- A copy is tracked back to what it is a copy of, and to nothing else. -/
lemma toInput_single_of_tag (h : d.tag j = some i) :
    d.provenance.toInput (.single j) = [.single i] := by
  refine Range.eq_single_of_covers_iff (d.separated_toInput _) fun k => ?_
  rw [Document.covers_toInput_single]
  constructor
  · rintro ⟨-, hlinks⟩
    have hk := mem_ancestors_of_links hd hs hlinks
    rw [(hd.lineage hs).ancestors_eq i j h] at hk
    exact Finset.mem_singleton.1 hk
  · rintro rfl
    exact ⟨lt_length_of_tag hd hs h, links_of_tag hd hs h⟩

end Lineage

/-! ## Tracking -/

namespace Document

/-- A text without its dash, with a longer text for the letters that this brings together, with a sign after
them, and without its first letter. -/
def mended : Document :=
  ([.replace (.ofSource "-" Pattern.noFlags) .nothing true 0,
    .replace (.ofSource "cd" Pattern.noFlags) (.template "QRS".toList) true 0,
    .insertAt "+".toList 5,
    .truncate 1 none] : List Edit).foldl revise (.ofLines "abc-def".toList "")

example : mended.current = "bQRS+ef".toList := by decide +kernel

lemma mended_reached : mended.Reached := reached_foldl_revise _ (ofLines_reached _ _)

lemma mended_unshifted : mended.Unshifted := by
  have h : mended.history.all (fun r => !r.edit.isShift) = true := by decide +kernel
  intro r hr
  simpa using List.all_eq_true.1 h r hr

end Document

/-- **Tracking is exact on what has only been copied.**  Of two copies, the range between them is tracked back
to the range between the initial characters that they are copies of.  In particular a copy is tracked back
to exactly one character, which it equals. -/
theorem backward_eq_of_tagged {d : Document} (hd : d.Reached) (hs : d.Unshifted) {j₁ j₂ i₁ i₂ : Nat}
    (hle : j₁ ≤ j₂) (h₁ : d.tag j₁ = some i₁) (h₂ : d.tag j₂ = some i₂) :
    (∃ h : i₁ ≤ i₂, d.provenance.backward ⟨j₁, j₂, hle⟩ = some ⟨i₁, i₂, h⟩) ∧
    (∃ c, d.initial[i₁]? = some c ∧ d.current[j₁]? = some c) ∧
    (∃ c, d.initial[i₂]? = some c ∧ d.current[j₂]? = some c) ∧
    d.provenance.toInput (.single j₁) = [.single i₁] := by
  have hlineage := hd.lineage hs
  refine ⟨⟨le_of_tag_left hd hs h₁ hle (mem_ancestors_of_tag hd hs h₂), ?_⟩, hlineage.char_eq i₁ j₁ h₁,
    hlineage.char_eq i₂ j₂ h₂, toInput_single_of_tag hd hs h₁⟩
  unfold Provenance.backward
  rw [Range.unite_eq_some_iff]
  simp only [Document.covers_toInput]
  refine ⟨?_, ?_, ?_⟩
  · exact ⟨j₁, Range.start_mem _, lt_length_of_tag hd hs h₁, links_of_tag hd hs h₁⟩
  · exact ⟨j₂, Range.stop_mem _, lt_length_of_tag hd hs h₂, links_of_tag hd hs h₂⟩
  · -- whatever lies between the copies has its ancestors between theirs
    rintro i ⟨j, ⟨hj₁, hj₂⟩, -, hlinks⟩
    have hi := mem_ancestors_of_links hd hs hlinks
    exact ⟨le_of_tag_left hd hs h₁ hj₁ hi, le_of_tag_right hd hs h₂ hj₂ hi⟩

theorem mended_backward :
    Document.mended.tag 0 = some 1 ∧ Document.mended.tag 5 = some 5 ∧
    ∃ h, Document.mended.provenance.backward ⟨0, 5, by decide⟩ = some ⟨1, 5, h⟩ := by
  have h0 : Document.mended.tag 0 = some 1 := by decide +kernel
  have h5 : Document.mended.tag 5 = some 5 := by decide +kernel
  exact ⟨h0, h5, (backward_eq_of_tagged Document.mended_reached Document.mended_unshifted _ h0 h5).1⟩

/-- **No false provenance, in either direction.**  A character is tracked back to ancestors only, and an
initial character is tracked to its descendants only.  Consequently an initial character without a descendant
in the current text is tracked to nothing. -/
theorem tracked_mem_ancestors {d : Document} (hd : d.Reached) (hs : d.Unshifted) :
    (∀ i j, Covers (d.provenance.toInput (.single j)) i → i ∈ d.ancestors j) ∧
    (∀ i j, Covers (d.provenance.toOutput (.single i)) j → i ∈ d.ancestors j) ∧
    ∀ i, (∀ j < d.current.length, i ∉ d.ancestors j) → d.provenance.toOutput (.single i) = [] := by
  have houtput : ∀ i j, Covers (d.provenance.toOutput (.single i)) j → i ∈ d.ancestors j :=
    fun i j h => mem_ancestors_of_links hd hs (Document.covers_toOutput_single.1 h).2
  refine ⟨fun i j h => ?_, houtput, fun i hnone => ?_⟩
  · exact mem_ancestors_of_links hd hs (Document.covers_toInput_single.1 h).2
  · refine Range.eq_nil_of_covers fun j hj => ?_
    have hmem := houtput i j hj
    exact hnone j ((hd.lineage hs).within i j hmem) hmem

/-- The last two characters are tracked, and the one removed from the middle is tracked to nothing. -/
theorem mended_ancestors :
    6 ∈ Document.mended.ancestors 6 ∧ 5 ∈ Document.mended.ancestors 5 ∧
    (∀ j < Document.mended.current.length, 3 ∉ Document.mended.ancestors j) ∧
    Document.mended.provenance.toOutput (.single 3) = [] := by
  have hd := Document.mended_reached
  have hs := Document.mended_unshifted
  have hback : Covers (Document.mended.provenance.toInput (.single 6)) 6 :=
    Document.covers_toInput_single.2 ⟨by decide +kernel, links_of_tag hd hs (by decide +kernel)⟩
  have hforth : Covers (Document.mended.provenance.toOutput (.single 5)) 5 :=
    Document.covers_toOutput_single.2 ⟨by decide +kernel, links_of_tag hd hs (by decide +kernel)⟩
  have hnone : ∀ j < Document.mended.current.length, 3 ∉ Document.mended.ancestors j := by decide +kernel
  obtain ⟨hinput, houtput, hnothing⟩ := tracked_mem_ancestors hd hs
  exact ⟨hinput 6 6 hback, houtput 5 5 hforth, hnone, hnothing 3 hnone⟩

end MarkupLint
