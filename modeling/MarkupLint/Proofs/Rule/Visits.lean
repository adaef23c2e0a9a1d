import MarkupLint.Proofs.Edit.Erasing
import MarkupLint.Proofs.Rule.Ranges

/-!
# The matches that a rule looks at

A rule made of a pattern and a replacement of all its matches go through a text by loops of their own: the rule asks
the document for the next match and gives up after a hundred, the replacement searches the text up to its end and
gives up later.

* `Document.find_natCast`, `Pattern.take_scan`: both come from match to match in the same way;
* `evaluate_follows_targets`: so a rule looks at the first matches that the replacement takes up, and gives advice
  about those that are not empty and no exception, in order.
-/

namespace MarkupLint

/-- The offsets of a match that is not empty. -/
def Found.range (m : Found) : Range := .ofSize m.start m.size

/-! ## Going from match to match -/

namespace Pattern

/-- A scan that gives up earlier finds the first matches of the one that gives up later. -/
lemma take_scan (p : Pattern) (s : Array Char) {few many : Nat} (h : few ≤ many) (start : Nat) :
    (p.scan s many start).take few = p.scan s few start := by
  induction few generalizing many start with
  | zero => rfl
  | succ few ih =>
    obtain ⟨many, rfl⟩ : ∃ n, many = n + 1 := ⟨many - 1, by omega⟩
    simp only [scan]
    split
    · rfl
    · next m hm => rw [List.take_succ_cons, ih (by omega)]

/-- What follows other matches without overlap starts where they start, or later. -/
lemma InOrder.start_le {size start : Nat} {found : List Found} (h : InOrder size start found) {m : Found}
    (hm : m ∈ found) : start ≤ m.start := by
  induction found generalizing start with
  | nil => cases hm
  | cons first later ih =>
    rcases List.mem_cons.1 hm with rfl | hm
    · exact h.1.start_le
    · have hfirst := ih h.2 hm
      have := h.1.start_le
      have := h.1.start_le_stop
      omega

lemma InOrder.pairwise {size start : Nat} {found : List Found} (h : InOrder size start found) :
    found.Pairwise fun m later => m.stop ≤ later.start := by
  induction found generalizing start with
  | nil => exact .nil
  | cons m later ih => exact List.pairwise_cons.2 ⟨fun next hnext => h.2.start_le hnext, ih h.2⟩

end Pattern

lemma Document.find_natCast (d : Document) (p : Pattern) (start : Nat) :
    d.find p start = p.search d.current.toArray start := by
  unfold Document.find
  split
  · next hlt =>
    rw [Pattern.search_eq_none]
    rw [List.size_toArray]
    omega
  · rw [Int.toNat_natCast]

namespace RegexRule

variable {r : RegexRule} {d : Document}

lemma visit_eq_scan (r : RegexRule) (d : Document) (limit start : Nat) :
    r.visit d limit start = r.pattern.scan d.current.toArray limit start := by
  induction limit generalizing start with
  | zero => rfl
  | succ limit ih =>
    rw [visit, Pattern.scan, d.find_natCast]
    cases r.pattern.search d.current.toArray start with
    | none => rfl
    | some m => exact congrArg (m :: ·) (ih m.resume)

/-- Whether a rule is to report a stretch of a text: it is not empty, and the exception does not match it as a
whole. -/
def isReportable (r : RegexRule) (text : Text) (m : Found) : Bool :=
  m.start < m.stop && !r.exception.any (·.matchesWhole (text.slice m.start m.stop))

/-- What a rule reports of what it looks at can be told by the text. -/
lemma reports_eq {p : Pattern} {text : Text} {start : Nat} {m : Found} (h : p.search text.toArray start = some m) :
    r.reports m = r.isReportable text m := by
  have hwhole : m.group? 0 = some m.whole := rfl
  have hlies := Pattern.search_group_lies h hwhole
  have hempty : m.whole.text.isEmpty = !decide (m.start < m.stop) := by
    have hlength : m.whole.text.length = m.stop - m.start := hlies.length_text
    rw [Bool.eq_iff_iff, List.isEmpty_iff_length_eq_zero, hlength]
    simp [Nat.sub_eq_zero_iff_le]
  rw [reports, isReportable, hempty, Pattern.whole_text_of_search h, Bool.not_not]

/-- The advice of a rule about a range, with the groups of a match filled in. -/
def adviceAbout (r : RegexRule) (v : Provenance) (range : Range) (groups : List (Option Text)) :
    Except MessageError Advice := do
  let suggestions ← r.suggestion.toList.mapM (fillMessage · groups)
  let message ← fillMessage r.message groups
  return v.advise r.info range message suggestions

/-- **A rule looks at the first matches that a replacement of all of them takes up.**  It gives advice about those of
them that are not empty and that the exception does not match as a whole, in order; the ranges of the advice are the
matches, and each comes after the one before it. -/
theorem evaluate_follows_targets (r : RegexRule) (v : Provenance) :
    let text := v.document.current
    let taken := Edit.targets text r.pattern true 0
    let reported := (taken.take maxMatches).filter (r.isReportable text)
    r.visit v.document maxMatches 0 = taken.take maxMatches ∧
    r.evaluate v = reported.mapM (fun m => r.adviceAbout v m.range m.groupTexts) ∧
    (∀ m ∈ reported, m.range.start = m.start ∧ m.range.stop + 1 = m.stop) ∧
    (reported.map Found.range).Pairwise (fun range later => range.stop < later.start) := by
  intro text taken reported
  have htaken : taken = r.pattern.scan text.toArray Edit.maxMatches 0 := Edit.targets_eq_scan r.pattern text
  have hvisit : r.visit v.document maxMatches 0 = taken.take maxMatches := by
    rw [htaken, Pattern.take_scan _ _ (by decide), visit_eq_scan]
  have hreports : ∀ m ∈ taken.take maxMatches, r.reports m = r.isReportable text m := by
    intro m hm
    rw [htaken] at hm
    obtain ⟨i, hi⟩ := Pattern.exists_search_of_mem_scan (List.mem_of_mem_take hm)
    exact reports_eq hi
  have hnonempty : ∀ m ∈ reported, m.start < m.stop := by
    intro m hm
    exact of_decide_eq_true ((Bool.and_eq_true _ _).mp (List.mem_filter.1 hm).2).1
  have horder : reported.Pairwise fun m later => m.stop ≤ later.start := by
    have hscan := (Pattern.scan_inOrder r.pattern text.toArray Edit.maxMatches 0).pairwise
    rw [← htaken] at hscan
    exact hscan.sublist (List.filter_sublist.trans (List.take_sublist _ _))
  have hends : ∀ m ∈ reported, m.range.start = m.start ∧ m.range.stop + 1 = m.stop := by
    intro m hm
    have hlt := hnonempty m hm
    have hstop : m.range.stop = m.start + (m.stop - m.start - 1) := rfl
    exact ⟨rfl, by omega⟩
  refine ⟨hvisit, ?_, hends, ?_⟩
  · rw [evaluate, hvisit, List.filter_congr hreports]
    rfl
  · rw [List.pairwise_map]
    refine horder.imp_of_mem fun {m later} hm hlater hle => ?_
    have := hends m hm
    have := hends later hlater
    omega

end RegexRule

end MarkupLint
