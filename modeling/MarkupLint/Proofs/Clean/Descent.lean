import MarkupLint.Clean.Cleaner
import MarkupLint.Proofs.Provenance.Lineage

/-!
# Cleaning is editing

Whatever a cleaner does to a document, it does by edits, none of which is a shift (`Cleaner.clean_descends`,
`Cleaner.cleanComments_descends`).  So the cleaned document has the initial text and the line terminator of the
document (`Descends.initial_eq`, `Descends.newline_eq`), and provenance survives (`Descends.reached`,
`Descends.unshifted`).
-/

namespace MarkupLint

namespace Document

variable {d d' d'' : Document} {e : Edit}

/-- The document `d` becomes the other one by edits, none of which is a shift. -/
inductive Descends (d : Document) : Document → Prop
  /-- No edit. -/
  | refl : Descends d d
  /-- One more edit. -/
  | edit {d' d'' : Document} {e : Edit} (hd : Descends d d') (he : e.isShift = false)
      (h : d'.apply e = .ok d'') : Descends d d''

namespace Descends

lemma trans (h₁ : Descends d d') (h₂ : Descends d' d'') : Descends d d'' := by
  induction h₂ with
  | refl => exact h₁
  | edit _ he h ih => exact ih.edit he h

lemma initial_eq (h : Descends d d') : d'.initial = d.initial := by
  induction h with
  | refl => rfl
  | edit _ _ h ih =>
    obtain ⟨r, -, rfl⟩ := apply_eq_ok.1 h
    exact ih

lemma newline_eq (h : Descends d d') : d'.newline = d.newline := by
  induction h with
  | refl => rfl
  | edit _ _ h ih =>
    obtain ⟨r, -, rfl⟩ := apply_eq_ok.1 h
    exact ih

lemma reached (h : Descends d d') (hd : d.Reached) : d'.Reached := by
  induction h with
  | refl => exact hd
  | edit _ _ h ih => exact ih.edit h

lemma unshifted (h : Descends d d') (hs : d.Unshifted) : d'.Unshifted := by
  induction h with
  | refl => exact hs
  | edit _ he h ih =>
    obtain ⟨r, -, rfl⟩ := apply_eq_ok.1 h
    intro revision hrevision
    rcases List.mem_append.1 hrevision with hold | hnew
    · exact ih revision hold
    · obtain rfl := List.mem_singleton.1 hnew
      exact he

end Descends

lemma revise_descends (d : Document) (he : e.isShift = false) : Descends d (d.revise e) := by
  unfold revise
  cases h : d.apply e with
  | error _ => exact .refl
  | ok d' => exact Descends.refl.edit he h

lemma foldl_revise_descends (d : Document) {edits : List Edit} (h : ∀ e ∈ edits, e.isShift = false) :
    Descends d (edits.foldl revise d) := by
  induction edits generalizing d with
  | nil => exact .refl
  | cons e edits ih =>
    rw [List.forall_mem_cons] at h
    exact (d.revise_descends h.1).trans (ih _ h.2)

lemma sweepFrom_descends {σ : Type} (judge : σ → Text → Bool × σ) (fuel i : Nat) (ahead : List Line) (s : σ)
    (d : Document) : Descends d (sweepFrom judge fuel i ahead s d).2 := by
  induction fuel generalizing i ahead s d with
  | zero => exact .refl
  | succ fuel ih =>
    cases ahead with
    | nil => exact .refl
    | cons line later =>
      unfold sweepFrom
      split
      · exact .refl
      · dsimp only
        split
        · exact (d.revise_descends rfl).trans (ih ..)
        · exact ih ..

lemma sweep_descends {σ : Type} (d : Document) (judge : σ → Text → Bool × σ) (s : σ) :
    Descends d (d.sweep judge s).2 :=
  sweepFrom_descends ..

end Document

open Document (Descends)

/-! ## The cleaners -/

namespace Latex

lemma cleanComments_descends (d : Document) : Descends d (cleanComments d) :=
  (d.sweep_descends ..).trans (Document.revise_descends _ rfl)

lemma isShift_of_mem_markupEdits (l : Latex) : ∀ e ∈ l.markupEdits, e.isShift = false := by
  intro e he
  simp only [markupEdits, List.mem_append, List.mem_map, List.mem_cons] at he
  rcases he with (((rfl | he) | ⟨_, -, rfl⟩) | he) | rfl | rfl | he
  · rfl
  · cases he
  · rfl
  · split at he
    · cases he
    · obtain rfl := List.mem_singleton.1 he
      rfl
  · rfl
  · rfl
  · cases he

lemma removeEnvironments_descends (l : Latex) (d : Document) : Descends d (l.removeEnvironments d).2 := by
  unfold removeEnvironments
  exact d.sweep_descends ..

lemma removeMarkup_descends (l : Latex) (d : Document) : Descends d (l.removeMarkup d) := by
  unfold removeMarkup
  exact (d.foldl_revise_descends l.isShift_of_mem_markupEdits).trans (Document.sweep_descends ..)

lemma clean_descends (l : Latex) (d : Document) : Descends d (l.clean d) :=
  ((cleanComments_descends d).trans (l.removeEnvironments_descends _)).trans (l.removeMarkup_descends _)

end Latex

namespace Markdown

lemma cleanComments_descends (d : Document) : Descends d (cleanComments d) :=
  (d.sweep_descends ..).trans (Document.revise_descends _ rfl)

lemma clean_descends (d : Document) : Descends d (clean d) := by
  have hcode : Descends d (removeCode (cleanComments d)) :=
    (cleanComments_descends d).trans (Document.sweep_descends ..)
  refine hcode.trans (Document.foldl_revise_descends _ fun e he => ?_)
  obtain ⟨_, -, rfl⟩ := List.mem_map.1 he
  rfl

end Markdown

namespace Table

lemma replaceRow_descends {d d' : Document} {row : Text × Text} (h : replaceRow d row = .ok d') :
    Descends d d' := by
  unfold replaceRow at h
  cases hp : Pattern.compile row.1 Pattern.multiline with
  | error e => simp [hp, bind, Except.bind, Except.mapError] at h
  | ok p =>
    simp only [hp, bind, Except.bind, Except.mapError] at h
    split at h
    · cases h
    · next d'' hd =>
      obtain rfl := Except.ok.inj h
      exact Descends.refl.edit rfl hd

lemma clean_descends {t : Table} {d d' : Document} (h : t.clean d = .ok d') : Descends d d' := by
  unfold clean at h
  generalize t.rows = rows at h
  induction rows generalizing d with
  | nil =>
    obtain rfl := Except.ok.inj h
    exact .refl
  | cons row rows ih =>
    rw [List.foldlM_cons] at h
    cases hrow : replaceRow d row with
    | error e => simp [hrow, bind, Except.bind] at h
    | ok d₁ =>
      simp only [hrow, bind, Except.bind] at h
      exact (replaceRow_descends hrow).trans (ih h)

end Table

namespace Cleaner

/-- **Removing comments is editing.** -/
theorem cleanComments_descends (c : Cleaner) (d : Document) : Descends d (c.cleanComments d) := by
  induction c generalizing d with
  | keep => exact .refl
  | latex _ => exact Latex.cleanComments_descends d
  | markdown => exact Markdown.cleanComments_descends d
  | table _ => exact .refl
  | andThen a b iha ihb => exact (iha d).trans (ihb _)

/-- **Cleaning is editing.** -/
theorem clean_descends (c : Cleaner) {d d' : Document} (h : c.clean d = .ok d') : Descends d d' := by
  induction c generalizing d d' with
  | keep =>
    obtain rfl := Except.ok.inj h
    exact .refl
  | latex l =>
    obtain rfl := Except.ok.inj h
    exact l.clean_descends d
  | markdown =>
    obtain rfl := Except.ok.inj h
    exact Markdown.clean_descends d
  | table t => exact Table.clean_descends h
  | andThen a b iha ihb =>
    unfold clean at h
    cases ha : a.clean d with
    | error e => simp [ha, bind, Except.bind] at h
    | ok d₁ =>
      simp only [ha, bind, Except.bind] at h
      exact (iha ha).trans (ihb h)

end Cleaner

end MarkupLint
