import MarkupLint.Proofs.Document.Sweep
import MarkupLint.Proofs.Edit.Accounting
import MarkupLint.Proofs.Edit.Erasing
import MarkupLint.Proofs.Pattern.Language

/-!
# Edits that do not multiply characters

A replacement puts texts in the place of matches.  If no such text has more characters of a kind than the match that it
takes the place of, the new text has no more of them than the old one: the replacement is *sparing*.

* `search_group_countP_le`: what a group of a plain pattern has matched is a part of the match;
* `sparing_template`: whether a template is sparing can be told from its pieces;
* `Document.countP_foldl_revise_le`: edits that spare characters do not multiply them one after the other either.
-/

namespace MarkupLint

variable {f : Char → Bool}

/-! ## Groups -/

namespace Pattern

variable {s : Array Char} {n : Node} {p q : Place} {first : Nat}

/-- The place does not come before `first`, no group has started before that, and none has stopped after the place. -/
structure Place.Since (first : Nat) (p : Place) : Prop where
  /-- The place comes after `first`, or is there. -/
  first_le : first ≤ p.offset
  /-- Groups have started after `first`, or there. -/
  first_le_start : ∀ m ∈ p.marks, ∀ a, m.start = some a → first ≤ a
  /-- Groups have stopped before the place, or there. -/
  stop_le : ∀ m ∈ p.marks, ∀ b, m.stop = some b → b ≤ p.offset

lemma Place.since_start (offset groups : Nat) : (start offset groups).Since offset := by
  refine ⟨Nat.le_refl _, fun m hm a ha => ?_, fun m hm b hb => ?_⟩
  · rw [List.eq_of_mem_replicate hm] at ha
    cases ha
  · rw [List.eq_of_mem_replicate hm] at hb
    cases hb

lemma Place.Since.forward (h : p.Since first) (k : Nat) : (p.forward k).Since first :=
  ⟨Nat.le_add_right_of_le h.first_le, h.first_le_start,
    fun m hm b hb => Nat.le_add_right_of_le (h.stop_le m hm b hb)⟩

lemma mem_or_exists_of_mem_modify {α : Type} {g : α → α} {items : List α} {i : Nat} {a : α}
    (h : a ∈ items.modify i g) : a ∈ items ∨ ∃ b ∈ items, a = g b := by
  obtain ⟨j, hj⟩ := List.mem_iff_getElem?.1 h
  rw [List.getElem?_modify] at hj
  obtain ⟨b, hb, rfl⟩ := Option.map_eq_some_iff.1 hj
  split
  · exact Or.inr ⟨b, List.mem_of_getElem? hb, rfl⟩
  · exact Or.inl (List.mem_of_getElem? hb)

lemma Place.Since.enter (h : p.Since first) (number : Nat) : (p.enter number).Since first := by
  refine ⟨h.first_le, fun m hm a ha => ?_, fun m hm b hb => ?_⟩
  · rcases mem_or_exists_of_mem_modify hm with hold | ⟨old, hold, rfl⟩
    · exact h.first_le_start m hold a ha
    · obtain rfl := Option.some.inj ha
      exact h.first_le
  · rcases mem_or_exists_of_mem_modify hm with hold | ⟨old, hold, rfl⟩
    · exact h.stop_le m hold b hb
    · exact h.stop_le old hold b hb

lemma Place.Since.leave (h : p.Since first) (number : Nat) : (p.leave number).Since first := by
  refine ⟨h.first_le, fun m hm a ha => ?_, fun m hm b hb => ?_⟩
  · rcases mem_or_exists_of_mem_modify hm with hold | ⟨old, hold, rfl⟩
    · exact h.first_le_start m hold a ha
    · exact h.first_le_start old hold a ha
  · rcases mem_or_exists_of_mem_modify hm with hold | ⟨old, hold, rfl⟩
    · exact h.stop_le m hold b hb
    · obtain rfl := Option.some.inj hb
      exact Nat.le_refl _

/-- A way through a plain node marks groups on the way only. -/
lemma Passes.since (h : Passes s n p q) (hn : n.isPlain = true) (hp : p.Since first) : q.Since first := by
  induction h with
  | empty => exact hp
  | char => exact hp.forward 1
  | chars => exact hp.forward _
  | seq _ _ ih₁ ih₂ =>
    obtain ⟨ha, hb⟩ := (Bool.and_eq_true _ _).mp hn
    exact ih₂ hb (ih₁ ha hp)
  | altLeft _ ih => exact ih ((Bool.and_eq_true _ _).mp hn).1 hp
  | altRight _ ih => exact ih ((Bool.and_eq_true _ _).mp hn).2 hp
  | group _ ih => exact (ih hn (hp.enter _)).leave _
  | _ => cases hn

/-- **What a group of a plain pattern has matched is a part of the match.** -/
theorem search_group_countP_le {p : Pattern} (hp : p.node.isPlain = true) {m : Found} (h : p.search s first = some m)
    (number : Nat) : (m.groupText number).countP f ≤ m.whole.text.countP f := by
  obtain ⟨i, q, -, -, hpasses, rfl⟩ := search_passes h
  cases number with
  | zero => exact Nat.le_refl _
  | succ number =>
    rw [Found.groupText, foundAt_group?]
    cases hcaptured : q.captured? (number + 1) with
    | none => exact Nat.zero_le _
    | some span =>
      obtain ⟨a, b⟩ := span
      obtain ⟨hmarks, hab⟩ := Place.captured?_eq_some.1 hcaptured
      have hsince := hpasses.since hp (Place.since_start i p.groups)
      have hmem := List.mem_of_getElem? hmarks
      have ha := hsince.first_le_start _ hmem a rfl
      have hb := hsince.stop_le _ hmem b rfl
      have hparts : Text.slice s.toList i q.offset =
          Text.slice s.toList i a ++ Text.slice s.toList a b ++ Text.slice s.toList b q.offset := by
        rw [Text.slice_append_slice ha hab, Text.slice_append_slice (Nat.le_trans ha hab) hb]
      have hwhole : (foundAt s i q).whole.text = Text.slice s.toList i q.offset := captureOf_text s i q.offset
      rw [hwhole, hparts, List.countP_append, List.countP_append]
      simp only [Option.map_some, captureOf_text]
      omega

end Pattern

/-! ## Replacements -/

namespace Edit

open Piece

variable {text : Text} {p : Pattern} {r : Replacement} {consumed : Nat}

/-- The edit never fails, and there are no more characters of the kind afterwards than before. -/
def Spares (f : Char → Bool) (e : Edit) : Prop :=
  ∀ text, ∃ result, e.apply text = .ok result ∧ result.text.countP f ≤ text.countP f

/-- For every match of the pattern a text can be made, with no more characters of the kind than the match has. -/
def Sparing (f : Char → Bool) (p : Pattern) (r : Replacement) : Prop :=
  ∀ (s : Array Char) (first : Nat) (m : Found), p.search s first = some m →
    ∃ new, r.textFor p m = .ok new ∧ new.countP f ≤ m.whole.text.countP f

lemma countP_render_splice_le {found : List (Found × Text)}
    (horder : Pattern.InOrder text.length consumed (found.map Prod.fst))
    (h : ∀ m new, (m, new) ∈ found → new.countP f ≤ (text.slice m.start m.stop).countP f) :
    (render text (splice text.length consumed found)).countP f ≤ (text.drop consumed).countP f := by
  induction found generalizing consumed with
  | nil => simp [splice, render, Piece.text, slice_length]
  | cons head later ih =>
    obtain ⟨m, new⟩ := head
    obtain ⟨hspan, hlater⟩ := horder
    have hrest : _ ≤ (text.drop m.stop).countP f :=
      ih hlater fun m' new' hmem => h m' new' (List.mem_cons_of_mem _ hmem)
    have hnew := h m new (List.mem_cons_self ..)
    have hdrop : text.drop consumed =
        text.slice consumed m.start ++ (text.slice m.start m.stop ++ text.drop m.stop) := by
      rw [Text.slice_append_drop hspan.start_le_stop, Text.slice_append_drop hspan.start_le]
    have hrender : render text (splice text.length consumed ((m, new) :: later)) =
        text.slice consumed m.start ++ (new ++ render text (splice text.length m.stop later)) := by
      simp [splice, render, Piece.text]
    rw [hdrop, hrender]
    simp only [List.countP_append]
    exact Nat.add_le_add_left (Nat.add_le_add hnew hrest) _

/-- **Replacing matches by texts with no more characters of a kind does not multiply them.** -/
theorem Sparing.spares (h : Sparing f p r) (everywhere : Bool) (start : Int) :
    Spares f (replace p r everywhere start) := by
  intro text
  have hsearch : ∀ m ∈ targets text p everywhere start, ∃ i, p.search text.toArray i = some m :=
    fun m hm => Pattern.exists_search_of_mem_scan hm
  cases hnews : (targets text p everywhere start).mapM (r.textFor p) with
  | error err =>
    obtain ⟨m, hm, herr⟩ := exists_error_of_mapM hnews
    obtain ⟨i, hi⟩ := hsearch m hm
    obtain ⟨new, hnew, -⟩ := h _ _ _ hi
    cases herr.symm.trans hnew
  | ok news =>
    obtain ⟨result, hresult, htext⟩ := apply_replace hnews
    have horder : Pattern.InOrder text.length 0 (targets text p everywhere start) := by
      have hscan :=
        Pattern.scan_inOrder p text.toArray (if everywhere then maxMatches else 1) (clamp start 0 text.length)
      rw [List.size_toArray] at hscan
      exact hscan.mono (Nat.zero_le _)
    refine ⟨result, hresult, ?_⟩
    rw [htext]
    refine countP_render_splice_le (inOrder_zip horder news) fun m new hmem => ?_
    obtain ⟨hm, hnew⟩ := (mem_zip_of_mapM hnews).1 hmem
    obtain ⟨i, hi⟩ := hsearch m hm
    obtain ⟨new', hnew', hle⟩ := h _ _ _ hi
    obtain rfl := Except.ok.inj (hnew.symm.trans hnew')
    rwa [← Pattern.whole_text_of_search hi]

/-! ### Templates -/

/-- The piece is a character, and not of the kind. -/
def isHarmless (f : Char → Bool) : Pattern.TemplatePiece → Bool
  | .char c => !f c
  | .group _ => false

/-- The pieces are characters that are not of the kind, but for the first one, which may be a group of a plain
pattern. -/
def arePoor (f : Char → Bool) (p : Pattern) : List Pattern.TemplatePiece → Bool
  | .group _ :: pieces => p.node.isPlain && pieces.all (isHarmless f)
  | pieces => pieces.all (isHarmless f)

/-- The text of a piece of a template. -/
def pieceText (m : Found) : Pattern.TemplatePiece → Text
  | .char c => [c]
  | .group number => m.groupText number

lemma countP_pieces_eq_zero {pieces : List Pattern.TemplatePiece} (h : pieces.all (isHarmless f) = true) (m : Found) :
    (pieces.flatMap (pieceText m)).countP f = 0 := by
  rw [List.countP_eq_zero]
  intro c hc
  obtain ⟨piece, hpiece, hc⟩ := List.mem_flatMap.1 hc
  have hharmless := List.all_eq_true.1 h piece hpiece
  cases piece with
  | char d =>
    obtain rfl := List.mem_singleton.1 hc
    simpa [isHarmless] using hharmless
  | group number => cases hharmless

/-- **Whether a template is sparing can be told from its pieces.** -/
theorem sparing_template {source : Text} {pieces : List Pattern.TemplatePiece}
    (hread : p.readTemplate source = .ok pieces) (h : arePoor f p pieces = true) : Sparing f p (.template source) := by
  intro s first m hm
  have hexpand : p.expand source m = .ok (pieces.flatMap (pieceText m)) := by
    rw [Pattern.expand, hread]
    rfl
  refine ⟨_, hexpand, ?_⟩
  unfold arePoor at h
  split at h
  · next number pieces =>
    obtain ⟨hplain, hpieces⟩ := (Bool.and_eq_true _ _).mp h
    rw [List.flatMap_cons, List.countP_append, countP_pieces_eq_zero hpieces, Nat.add_zero]
    exact Pattern.search_group_countP_le hplain hm number
  · rw [countP_pieces_eq_zero h]
    exact Nat.zero_le _

end Edit

/-! ## Documents -/

namespace Document

lemma countP_revise_le {e : Edit} (he : e.Spares f) (d : Document) :
    (d.revise e).current.countP f ≤ d.current.countP f := by
  obtain ⟨result, hresult, hle⟩ := he d.current
  rw [revise, apply, hresult]
  exact hle

lemma countP_foldl_revise_le {edits : List Edit} (h : ∀ e ∈ edits, e.Spares f) (d : Document) :
    (edits.foldl revise d).current.countP f ≤ d.current.countP f := by
  induction edits generalizing d with
  | nil => exact Nat.le_refl _
  | cons e edits ih =>
    rw [List.forall_mem_cons] at h
    exact Nat.le_trans (ih h.2 _) (countP_revise_le h.1 d)

/-- A sweep does not multiply characters. -/
lemma countP_sweep_le {σ : Type} (d : Document) (judge : σ → Text → Bool × σ) (s : σ) :
    (d.sweep judge s).2.current.countP f ≤ d.current.countP f := by
  rw [sweep_current]
  conv_rhs => rw [← Text.join_lineTexts d.newline_ne_nil d.current]
  exact (Text.join_sublist _ (survivors_sublist judge s _)).countP_le

end Document

end MarkupLint
