import Mathlib.Data.List.TakeDrop
import MarkupLint.Proofs.Lines.Positions
import MarkupLint.Proofs.Lines.Split
import MarkupLint.Proofs.Pattern.Captures
import MarkupLint.Rule

/-!
# What rules give advice about

Every rule gives its advice about ranges of the text that it looks at (`Rule.evaluate_advises`).  The rules on
lines find such a range on a line and move it to where the line lies (`Text.ofSize_stop_lt`); that the range is
not empty is what the patterns of the rules tell (`Pattern.search_group_nonempty`), or what the rule itself
checks.
-/

namespace MarkupLint

/-! ## Ranges on lines -/

lemma Range.ofSize_stop_lt {start size length : Nat} (hpos : 0 < size) (h : start + size ≤ length) :
    (ofSize start size).stop < length := by
  simp only [ofSize]
  omega

/-- What lies on a line of a text lies in the text. -/
lemma Text.ofSize_stop_lt {text newline : Text} {line : Line} {start size : Nat}
    (hline : line ∈ text.lines newline) (hpos : 0 < size) (h : start + size ≤ line.text.length) :
    (Range.ofSize (line.offset + start) size).stop < text.length := by
  have := add_length_le_of_mem_lines hline
  exact Range.ofSize_stop_lt hpos (by omega)

/-- What a group has matched on a line lies in the text. -/
lemma Text.add_length_le_of_lies {text newline : Text} {line : Line} {c : Capture} {size : Nat}
    (hline : line ∈ text.lines newline) (hc : Pattern.Lies line.text.toArray.size c)
    (hsize : size ≤ c.text.length) : line.offset + c.start + size ≤ text.length := by
  have := add_length_le_of_mem_lines hline
  have := hc.start_le_stop
  have := hc.length_text
  have hstop := hc.stop_le
  rw [List.size_toArray] at hstop
  omega

variable {text newline : Text} {line : Line} {lines : List Line} {r : Range}

/-! ## Captions -/

namespace Captions

lemma openEnd?_eq_some {level : Int} {period : Bool} {i stop : Nat} {rest : Text}
    (h : openEnd? level period i rest = some stop) : i ≤ stop ∧ stop < i + rest.length := by
  fun_induction openEnd? level period i rest with
  | case1 => cases h
  | case2 _ _ _ _ ih | case4 _ _ _ _ _ _ ih | case5 _ _ _ _ _ _ ih | case6 _ _ _ _ _ _ _ _ ih =>
    have := ih h
    simp only [List.length_cons]
    omega
  | case3 =>
    obtain rfl := Option.some.inj h
    simp only [List.length_cons]
    omega

lemma openCaption?_stop_lt (hline : line ∈ text.lines newline) (h : openCaption? line = some r) :
    r.stop < text.length := by
  unfold openCaption? at h
  obtain ⟨start, hstart, h⟩ := Option.bind_eq_some_iff.1 h
  dsimp only at h
  split at h
  · cases h
  · obtain ⟨stop, hstop, h⟩ := Option.bind_eq_some_iff.1 h
    obtain rfl := Option.some.inj h
    have hfits := Text.find?_add_length_le hstart
    have hlength : 0 < "\\caption".toList.length := by decide
    obtain ⟨hle, hlt⟩ := openEnd?_eq_some hstop
    simp only [List.length_drop] at hlt
    exact Text.ofSize_stop_lt hline (by omega) (by omega)

end Captions

/-! ## Figures -/

namespace Figures

lemma length_trim_le (text : Text) : text.trim.length ≤ text.length := by
  have hstart : text.trimStart.length ≤ text.length := (List.dropWhile_suffix _).length_le
  have hend : text.trim.length ≤ text.trimStart.length := (Text.dropEndWhile_isPrefix _ _).length_le
  exact Nat.le_trans hend hstart

/-- What a survey has found lies in a text of the given length. -/
structure Survey.Within (length : Nat) (s : Survey) : Prop where
  /-- The labels lie in the text. -/
  labels_le : ∀ l ∈ s.labels, l.2 + l.1.length ≤ length
  /-- The lines that end figures lie in the text. -/
  unlabelled_lt : ∀ r ∈ s.unlabelled, r.stop < length

/-- A line that ends a figure is not empty. -/
lemma length_pos_of_endFigure {line : Text} (h : endFigure.occursIn line = true) : 0 < line.length := by
  obtain ⟨m, hm⟩ := Option.isSome_iff_exists.1 h
  have hleast : 0 < endFigure.node.least := by decide +kernel
  have hwidth := Pattern.search_add_least_le hm
  have hstop := (Pattern.search_span hm).stop_le
  rw [List.size_toArray] at hstop
  omega

/-- **A line adds what lies on it.** -/
lemma Survey.Within.step {s : Survey} (h : s.Within text.length) (hline : line ∈ text.lines newline) :
    (s.step line).Within text.length := by
  unfold Survey.step
  split
  · exact ⟨h.labels_le, h.unlabelled_lt⟩
  · split
    · next hend =>
      refine ⟨h.labels_le, fun r hr => ?_⟩
      rcases List.mem_append.1 hr with hold | hnew
      · exact h.unlabelled_lt r hold
      · split at hnew
        · obtain rfl := List.mem_singleton.1 hnew
          have hpos := length_pos_of_endFigure hend
          have hle := Text.add_length_le_of_mem_lines hline
          exact Range.ofSize_stop_lt hpos hle
        · cases hnew
    · split
      · split
        · exact h
        · next name hname =>
          refine ⟨fun l hl => ?_, h.unlabelled_lt⟩
          rcases List.mem_append.1 hl with hold | hnew
          · exact h.labels_le l hold
          · split at hnew
            · cases hnew
            · obtain rfl := List.mem_singleton.1 hnew
              obtain ⟨m, hm, hgroup⟩ := Option.bind_eq_some_iff.1 hname
              exact Text.add_length_le_of_lies hline (Pattern.search_group_lies hm hgroup)
                (length_trim_le _)
      · exact h

lemma survey_within (d : Document) : (survey d).Within d.current.length := by
  have hfold : ∀ (lines : List Line) (s : Survey), (∀ line ∈ lines, line ∈ d.lines) →
      s.Within d.current.length → (lines.foldl Survey.step s).Within d.current.length := by
    intro lines
    induction lines with
    | nil => exact fun _ _ h => h
    | cons line lines ih =>
      intro s hlines h
      rw [List.forall_mem_cons] at hlines
      exact ih _ hlines.2 (h.step hlines.1)
  exact hfold _ _ (fun _ h => h) ⟨by simp, by simp⟩

lemma absolutePaths_stop_lt (hline : line ∈ text.lines newline) (h : r ∈ absolutePaths line) :
    r.stop < text.length := by
  obtain ⟨m, hm, hr⟩ := List.mem_filterMap.1 h
  obtain ⟨path, hpath, hr⟩ := Option.bind_eq_some_iff.1 hr
  obtain ⟨start, hsearch⟩ := Pattern.exists_search_of_mem_scan hm
  split at hr
  · cases hr
  · next hnonempty =>
    obtain rfl := Option.some.inj hr
    have hpos : 0 < path.text.length := by
      rw [List.length_pos_iff]
      intro hnil
      simp [hnil] at hnonempty
    exact Range.ofSize_stop_lt hpos
      (Text.add_length_le_of_lies hline (Pattern.search_group_lies hsearch hpath) (Nat.le_refl _))

end Figures

/-! ## Headings -/

namespace Headings

variable {P : Range → Prop} {p : Pattern} {sections : List Section} {s : Section}

/-- The name of a sectioning command lies in the text. -/
lemma openedBy?_stop_lt (hp : p.node.fillsGroup 1 = true) (hline : line ∈ text.lines newline)
    (h : openedBy? p line = some s) : s.range.stop < text.length := by
  obtain ⟨name, hname, rfl⟩ := Option.map_eq_some_iff.1 h
  obtain ⟨m, hm, hgroup⟩ := Option.bind_eq_some_iff.1 hname
  have hlies := Pattern.search_group_lies hm hgroup
  have hfilled := Pattern.search_group_nonempty hm hgroup hp
  refine Range.ofSize_stop_lt ?_ (Text.add_length_le_of_lies hline hlies (Nat.le_refl _))
  rw [hlies.length_text]
  omega

lemma forall_mem_closedBy (level : Nat) (h : ∀ s ∈ sections, P s.range) :
    (∀ s ∈ (closedBy level sections).1, P s.range) ∧ ∀ s ∈ (closedBy level sections).2, P s.range := by
  simp only [closedBy, List.span_eq_takeWhile_dropWhile]
  exact ⟨fun s hs => h s ((List.takeWhile_sublist _).subset hs),
    fun s hs => h s ((List.dropWhile_sublist _).subset hs)⟩

lemma forall_mem_addChild (h : ∀ s ∈ sections, P s.range) : ∀ s ∈ addChild sections, P s.range := by
  cases sections with
  | nil => exact h
  | cons s outer => simpa [addChild] using h

/-! The rules on headings report the ranges of sections that lines open, and no others. -/

lemma forall_mem_stacked (text : Bool)
    (hlines : ∀ line ∈ lines, ∀ s, openedBy? heading line = some s → P s.range) :
    ∀ r ∈ stacked text lines, P r := by
  induction lines generalizing text with
  | nil => exact fun r hr => absurd hr List.not_mem_nil
  | cons line lines ih =>
    rw [List.forall_mem_cons] at hlines
    unfold stacked
    split
    · exact ih _ hlines.2
    · next s hs =>
      intro r hr
      rcases List.mem_append.1 hr with hnew | hlater
      · split at hnew
        · cases hnew
        · obtain rfl := List.mem_singleton.1 hnew
          exact hlines.1 s hs
      · exact ih _ hlines.2 r hlater

lemma forall_mem_closing (h : ∀ s ∈ sections, P s.range)
    (hlines : ∀ line ∈ lines, ∀ s, openedBy? heading line = some s → P s.range) :
    ∀ s ∈ closing sections lines, P s.range := by
  induction lines generalizing sections with
  | nil => exact h
  | cons line lines ih =>
    rw [List.forall_mem_cons] at hlines
    unfold closing
    split
    · exact ih h hlines.2
    · next s hs =>
      obtain ⟨hclosed, houter⟩ := forall_mem_closedBy s.level h
      refine List.forall_mem_append.2 ⟨hclosed, ih ?_ hlines.2⟩
      exact List.forall_mem_cons.2 ⟨hlines.1 s hs, forall_mem_addChild houter⟩

lemma forall_mem_skipping (sections : List Section)
    (hlines : ∀ line ∈ lines, ∀ s, openedBy? heading line = some s → P s.range) :
    ∀ ps ∈ skipping sections lines, P ps.2.range := by
  induction lines generalizing sections with
  | nil => exact fun ps hps => absurd hps List.not_mem_nil
  | cons line lines ih =>
    rw [List.forall_mem_cons] at hlines
    unfold skipping
    split
    · exact ih _ hlines.2
    · next s hs =>
      refine List.forall_mem_append.2 ⟨fun ps hps => ?_, ih _ hlines.2⟩
      obtain ⟨_, -, rfl⟩ := List.mem_map.1 hps
      exact hlines.1 s hs

lemma forall_mem_sizing (h : ∀ s ∈ sections, P s.range)
    (hlines : ∀ line ∈ lines, ∀ s, openedBy? sizedHeading line = some s → P s.range) :
    ∀ s ∈ sizing sections lines, P s.range := by
  induction lines generalizing sections with
  | nil => exact h
  | cons line lines ih =>
    rw [List.forall_mem_cons] at hlines
    unfold sizing
    split
    · refine ih (fun s hs => ?_) hlines.2
      obtain ⟨s₀, hs₀, rfl⟩ := List.mem_map.1 hs
      exact h s₀ hs₀
    · next s hs =>
      obtain ⟨hclosed, houter⟩ := forall_mem_closedBy s.level h
      exact List.forall_mem_append.2 ⟨hclosed, ih (List.forall_mem_cons.2 ⟨hlines.1 s hs, houter⟩) hlines.2⟩

end Headings

/-! ## Habits -/

namespace Habits

lemma breaks_stop_lt (depth : Nat) (hlines : ∀ line ∈ lines, line ∈ text.lines newline) :
    ∀ r ∈ breaks depth lines, r.stop < text.length := by
  induction lines generalizing depth with
  | nil => exact fun r hr => absurd hr List.not_mem_nil
  | cons line lines ih =>
    rw [List.forall_mem_cons] at hlines
    unfold breaks
    refine List.forall_mem_append.2 ⟨fun r hr => ?_, ih _ hlines.2⟩
    split at hr
    · obtain ⟨i, hi, rfl⟩ := List.mem_map.1 hr
      have hfits := Text.find?_add_length_le (Option.mem_toList.1 hi)
      exact Text.ofSize_stop_lt hlines.1 (by decide) hfits
    · cases hr

end Habits

/-! ## Matches -/

lemma Document.search_of_find {d : Document} {p : Pattern} {start : Int} {m : Found}
    (h : d.find p start = some m) : p.search d.current.toArray start.toNat = some m := by
  unfold find at h
  split at h
  · cases h
  · exact h

/-- A match that is not empty lies in the text. -/
lemma Found.ofSize_stop_lt {d : Document} {p : Pattern} {start : Int} {m : Found}
    (h : d.find p start = some m) (hpos : m.start < m.stop) :
    (Range.ofSize m.start m.size).stop < d.current.length := by
  have hstop := (Pattern.search_span (Document.search_of_find h)).stop_le
  rw [List.size_toArray] at hstop
  unfold Found.size
  exact Range.ofSize_stop_lt (by omega) (by omega)

namespace RegexRule

lemma find_of_mem_visit {rule : RegexRule} {d : Document} {limit start : Nat} {m : Found}
    (h : m ∈ rule.visit d limit start) : ∃ i : Nat, d.find rule.pattern i = some m := by
  induction limit generalizing start with
  | zero => cases h
  | succ limit ih =>
    unfold visit at h
    split at h
    · cases h
    · next found hfound =>
      rcases List.mem_cons.1 h with rfl | h
      · exact ⟨start, hfound⟩
      · exact ih h

/-- A match that is reported is not empty. -/
lemma start_lt_stop_of_reports {rule : RegexRule} {d : Document} {start : Int} {m : Found}
    (h : d.find rule.pattern start = some m) (hreports : rule.reports m = true) : m.start < m.stop := by
  have hwhole : m.group? 0 = some m.whole := rfl
  have hlies := Pattern.search_group_lies (Document.search_of_find h) hwhole
  have hpos : 0 < m.whole.text.length := by
    rw [List.length_pos_iff]
    intro hnil
    simp [reports, hnil] at hreports
  rw [hlies.length_text] at hpos
  exact Nat.lt_of_sub_pos hpos

end RegexRule

/-! ## All rules -/

/-- A rule gives the advice about some range of the current text. -/
def Provenance.Advises (v : Provenance) (rule : RuleInfo) (a : Advice) : Prop :=
  ∃ r message replacements, r.stop < v.document.current.length ∧ a = v.advise rule r message replacements

/-- What a fallible function makes of a list is made of its items. -/
lemma exists_of_mem_mapM {α β ε : Type} {f : α → Except ε β} {items : List α} {results : List β}
    (h : items.mapM f = .ok results) {b : β} (hb : b ∈ results) : ∃ a ∈ items, f a = .ok b := by
  induction items generalizing results with
  | nil =>
    obtain rfl := Except.ok.inj h
    cases hb
  | cons a items ih =>
    rw [List.mapM_cons] at h
    cases ha : f a with
    | error e => simp [ha, bind, Except.bind] at h
    | ok first =>
      cases hitems : items.mapM f with
      | error e => simp [ha, hitems, bind, Except.bind] at h
      | ok later =>
        simp only [ha, hitems, bind, Except.bind, pure, Except.pure, Except.ok.injEq] at h
        subst h
        rcases List.mem_cons.1 hb with rfl | hb
        · exact ⟨a, List.mem_cons_self .., ha⟩
        · obtain ⟨a', ha', hfa⟩ := ih hitems hb
          exact ⟨a', List.mem_cons_of_mem _ ha', hfa⟩

lemma RegexRule.evaluate_advises {rule : RegexRule} {v : Provenance} {advice : List Advice}
    (h : rule.evaluate v = .ok advice) {a : Advice} (ha : a ∈ advice) : v.Advises rule.info a := by
  obtain ⟨m, hm, ha⟩ := exists_of_mem_mapM h ha
  obtain ⟨hvisit, hreports⟩ := List.mem_filter.1 hm
  obtain ⟨i, hfind⟩ := find_of_mem_visit hvisit
  have hin := Found.ofSize_stop_lt hfind (start_lt_stop_of_reports hfind hreports)
  unfold adviceFor at ha
  cases hs : rule.suggestion.toList.mapM (fillMessage · m.groupTexts) with
  | error e => simp [hs, bind, Except.bind] at ha
  | ok suggestions =>
    cases hmessage : fillMessage rule.message m.groupTexts with
    | error e => simp [hs, hmessage, bind, Except.bind] at ha
    | ok message =>
      simp only [hs, hmessage, bind, Except.bind, pure, Except.pure, Except.ok.injEq] at ha
      exact ⟨_, _, _, hin, ha.symm⟩

lemma Headings.heading_fillsGroup :
    heading.node.fillsGroup 1 = true ∧ sizedHeading.node.fillsGroup 1 = true := by decide +kernel

/-- **Every rule gives its advice about ranges of the text that it looks at.** -/
theorem Rule.evaluate_advises {rule : Rule} {v : Provenance} {advice : List Advice}
    (h : rule.evaluate v = .ok advice) {a : Advice} (ha : a ∈ advice) : v.Advises rule.info a := by
  cases rule with
  | regex r => exact r.evaluate_advises h ha
  | figureReferences =>
    obtain rfl := Except.ok.inj h
    have hsurvey := Figures.survey_within v.document
    rcases List.mem_append.1 ha with ha | ha
    · obtain ⟨r, hr, rfl⟩ := List.mem_map.1 ha
      exact ⟨_, _, _, hsurvey.unlabelled_lt r hr, rfl⟩
    · obtain ⟨⟨label, offset⟩, hl, rfl⟩ := List.mem_map.1 ha
      obtain ⟨hl, hkept⟩ := List.mem_filter.1 hl
      have hpos : 0 < label.length := by
        rw [List.length_pos_iff]
        intro hnil
        simp [hnil] at hkept
      exact ⟨_, _, _, Range.ofSize_stop_lt hpos (hsurvey.labels_le _ hl), rfl⟩
  | figurePaths =>
    obtain rfl := Except.ok.inj h
    obtain ⟨r, hr, rfl⟩ := List.mem_map.1 ha
    obtain ⟨line, hline, hr⟩ := List.mem_flatMap.1 hr
    exact ⟨_, _, _, Figures.absolutePaths_stop_lt hline hr, rfl⟩
  | captions =>
    obtain rfl := Except.ok.inj h
    obtain ⟨r, hr, rfl⟩ := List.mem_map.1 ha
    obtain ⟨line, hline, hr⟩ := List.mem_filterMap.1 hr
    exact ⟨_, _, _, Captions.openCaption?_stop_lt hline hr, rfl⟩
  | divisions =>
    obtain rfl := Except.ok.inj h
    obtain ⟨s, hs, rfl⟩ := List.mem_map.1 ha
    refine ⟨_, _, _, Headings.forall_mem_closing (P := fun r => r.stop < v.document.current.length) (by simp)
      (fun line hline s => ?_) s (List.mem_filter.1 hs).1, rfl⟩
    exact Headings.openedBy?_stop_lt Headings.heading_fillsGroup.1 hline
  | levels =>
    obtain rfl := Except.ok.inj h
    obtain ⟨s, hs, rfl⟩ := List.mem_map.1 ha
    refine ⟨_, _, _, Headings.forall_mem_skipping (P := fun r => r.stop < v.document.current.length) []
      (fun line hline s => ?_) s hs, rfl⟩
    exact Headings.openedBy?_stop_lt Headings.heading_fillsGroup.1 hline
  | sizes least =>
    obtain rfl := Except.ok.inj h
    obtain ⟨s, hs, rfl⟩ := List.mem_map.1 ha
    refine ⟨_, _, _, Headings.forall_mem_sizing (P := fun r => r.stop < v.document.current.length) (by simp)
      (fun line hline s => ?_) s (List.mem_filter.1 hs).1, rfl⟩
    exact Headings.openedBy?_stop_lt Headings.heading_fillsGroup.2 hline
  | stackedHeadings =>
    obtain rfl := Except.ok.inj h
    obtain ⟨r, hr, rfl⟩ := List.mem_map.1 ha
    refine ⟨_, _, _, Headings.forall_mem_stacked (P := fun r => r.stop < v.document.current.length) true
      (fun line hline s => ?_) r hr, rfl⟩
    exact Headings.openedBy?_stop_lt Headings.heading_fillsGroup.1 hline
  | lineBreaks =>
    obtain rfl := Except.ok.inj h
    obtain ⟨r, hr, rfl⟩ := List.mem_map.1 ha
    exact ⟨_, _, _, Habits.breaks_stop_lt 0 (fun _ h => h) r hr, rfl⟩
  | citations =>
    obtain rfl := Except.ok.inj h
    unfold Habits.citationAdvice at ha
    split at ha
    · next m _ hm _ =>
      obtain rfl := List.mem_singleton.1 ha
      have hleast : 0 < Habits.styledCitation.node.least := by decide +kernel
      have hwidth := Pattern.search_add_least_le (Document.search_of_find hm)
      exact ⟨_, _, _, Found.ofSize_stop_lt hm (by omega), rfl⟩
    · cases ha

end MarkupLint
