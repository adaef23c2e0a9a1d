import Mathlib.Data.List.Nodup
import MarkupLint.Proofs.Lines.Positions
import MarkupLint.Proofs.Rule.FigureMarks

/-!
# Figures, their labels and the references to them

The figures of a document are read off its marks, one after the other: `figures?` gives each figure with the labels
between its two ends, and nothing if figures are nested or one is not closed.  The rule on references looks at one mark
of a line only, so that it sees the figures as they are if their marks are on lines of their own (`Apart`).

* `Agrees.step`, `Agrees.run`: what the survey of the lines knows is what the outline of the figures says;
* `reference_rule_follows_figures`: then the advice is about the figures without a label and about the labels that
  nothing refers to;
* `label_beside_begin_missed`: a label on the line that begins its figure is not seen.
-/

namespace MarkupLint

namespace Figures

/-! ## Labels by their names -/

/-- The name of a label without the blanks around it. -/
def Label.key (l : Label) : Text := Text.trim l.name

/-- The labels that are the first ones of their names. -/
def firsts : List Label → List Label
  | [] => []
  | l :: ls => l :: (firsts ls).filter (·.key ≠ l.key)

variable {l : Label} {ls : List Label} {key : Text}

lemma mem_map_key_firsts : key ∈ (firsts ls).map Label.key ↔ key ∈ ls.map Label.key := by
  induction ls with
  | nil => rfl
  | cons l ls ih =>
    rw [firsts, List.map_cons, List.map_cons, List.mem_cons, List.mem_cons, ← ih]
    simp only [List.mem_map, List.mem_filter, decide_eq_true_eq]
    constructor
    · rintro (rfl | ⟨m, ⟨hm, -⟩, rfl⟩)
      · exact Or.inl rfl
      · exact Or.inr ⟨m, hm, rfl⟩
    · rintro (rfl | ⟨m, hm, rfl⟩)
      · exact Or.inl rfl
      · by_cases hkey : m.key = l.key
        · exact Or.inl hkey
        · exact Or.inr ⟨m, ⟨hm, hkey⟩, rfl⟩

lemma any_key_firsts (ls : List Label) (key : Text) :
    ((firsts ls).map fun l => (l.key, l.offset)).any (·.1 == key) = true ↔ key ∈ ls.map Label.key := by
  rw [← mem_map_key_firsts, List.any_map, List.any_eq_true, List.mem_map]
  simp only [Function.comp_apply, beq_iff_eq]

lemma nodup_map_key_firsts (ls : List Label) : ((firsts ls).map Label.key).Nodup := by
  induction ls with
  | nil => exact List.nodup_nil
  | cons l ls ih =>
    rw [firsts, List.map_cons, List.nodup_cons]
    refine ⟨?_, ih.sublist (List.filter_sublist.map _)⟩
    intro hmem
    obtain ⟨m, hm, hkey⟩ := List.mem_map.1 hmem
    have := (List.mem_filter.1 hm).2
    simp [hkey] at this

lemma firsts_concat (ls : List Label) (l : Label) :
    firsts (ls ++ [l]) = firsts ls ++ if l.key ∈ ls.map Label.key then [] else [l] := by
  induction ls with
  | nil => rfl
  | cons m ls ih =>
    rw [List.cons_append, firsts, firsts, ih, List.filter_append, List.map_cons, List.cons_append]
    congr 2
    by_cases hmem : l.key ∈ ls.map Label.key
    · rw [if_pos hmem, if_pos (List.mem_cons_of_mem _ hmem), List.filter_nil]
    · rw [if_neg hmem]
      by_cases hkey : l.key = m.key
      · rw [if_pos (by rw [hkey]; exact List.mem_cons_self ..)]
        simp [hkey]
      · rw [if_neg (by rw [List.mem_cons]; tauto)]
        simp [hkey]

/-! ## The figures of a document -/

/-- A figure that is open. -/
structure OpenFigure where
  /-- The line that begins it. -/
  opening : Line
  /-- The labels so far. -/
  labels : List Label
deriving DecidableEq, Repr

/-- A figure. -/
structure Figure extends OpenFigure where
  /-- The line that ends it. -/
  closing : Line
deriving DecidableEq, Repr

/-- The figures of a part of a document. -/
structure Outline where
  closed : List Figure
  open? : Option OpenFigure
deriving DecidableEq, Repr

/-- Takes up a mark of a line.  In a figure no other one begins; outside of figures only the beginning of one counts. -/
def Outline.read (line : Line) : Outline → Mark → Option Outline
  | ⟨closed, none⟩, .begins => some ⟨closed, some ⟨line, []⟩⟩
  | ⟨closed, none⟩, _ => some ⟨closed, none⟩
  | ⟨_, some _⟩, .begins => none
  | ⟨closed, some f⟩, .ends => some ⟨closed ++ [⟨f, line⟩], none⟩
  | ⟨closed, some f⟩, .label l => some ⟨closed, some ⟨f.opening, f.labels ++ [l]⟩⟩

/-- Takes up a line. -/
def Outline.readLine (o : Outline) (line : Line) : Option Outline := (marks line).foldlM (Outline.read line) o

/-- The figures of a document, if they are not nested and each is closed. -/
def figures? (d : Document) : Option (List Figure) :=
  (d.lines.foldlM Outline.readLine ⟨[], none⟩).bind fun o => if o.open?.isNone then some o.closed else none

/-- The lines with the marks of an open figure. -/
def OpenFigure.lines (f : OpenFigure) : List Line := f.opening :: f.labels.map (·.line)

/-- The lines with the marks of a figure. -/
def Figure.lines (f : Figure) : List Line := f.toOpenFigure.lines ++ [f.closing]

/-- No two marks of the figures are on one line. -/
def Apart (figs : List Figure) : Prop := (figs.flatMap Figure.lines).Nodup

instance (figs : List Figure) : Decidable (Apart figs) := inferInstanceAs (Decidable (List.Nodup _))

/-- What each step does, a run does. -/
lemma rel_of_foldlM {σ α : Type} {step : σ → α → Option σ} {R : σ → σ → Prop} (hrefl : ∀ s, R s s)
    (htrans : ∀ s t u, R s t → R t u → R s u) {events : List α}
    (hstep : ∀ s t, ∀ a ∈ events, step s a = some t → R s t) {s t : σ} (h : events.foldlM step s = some t) : R s t := by
  induction events generalizing s with
  | nil =>
    obtain rfl := Option.some.inj h
    exact hrefl s
  | cons a events ih =>
    rw [List.foldlM_cons] at h
    obtain ⟨next, hnext, h⟩ := Option.bind_eq_some_iff.1 h
    have hfirst := hstep s next a (List.mem_cons_self ..) hnext
    have hlater := ih (fun s t a ha => hstep s t a (List.mem_cons_of_mem _ ha)) h
    exact htrans _ _ _ hfirst hlater

namespace Outline

/-- The lines with marks of figures. -/
def lines (o : Outline) : List Line := o.closed.flatMap Figure.lines ++ o.open?.toList.flatMap OpenFigure.lines

/-- The labels of figures. -/
def labels (o : Outline) : List Label := o.closed.flatMap (·.labels) ++ o.open?.toList.flatMap (·.labels)

/-- The mark has no effect. -/
def Idle (o : Outline) (m : Mark) : Prop := o.open? = none ∧ m ≠ .begins

variable {o o' : Outline} {line : Line} {m : Mark} {ms : List Mark}

lemma read_of_idle (h : o.Idle m) : o.read line m = some o := by
  obtain ⟨closed, open?⟩ := o
  obtain ⟨rfl, hm⟩ : open? = none ∧ m ≠ .begins := h
  cases m with
  | begins => exact absurd rfl hm
  | ends => rfl
  | label l => rfl

/-- In a figure every mark counts. -/
lemma eq_nil_of_idle {f : OpenFigure} (hopen : o.open? = some f) (h : ∀ m ∈ ms, o.Idle m) : ms = [] := by
  rw [List.eq_nil_iff_forall_not_mem]
  intro m hm
  have := (h m hm).1
  rw [hopen] at this
  cases this

/-- **What a mark does that counts.** -/
lemma read_cases (h : o.read line m = some o') (hcounts : ¬ o.Idle m) :
    (m = .begins ∧ o.open? = none ∧ o' = ⟨o.closed, some ⟨line, []⟩⟩) ∨
      (∃ f, m = .ends ∧ o.open? = some f ∧ o' = ⟨o.closed ++ [⟨f, line⟩], none⟩) ∨
      ∃ f l, m = .label l ∧ o.open? = some f ∧ o' = ⟨o.closed, some ⟨f.opening, f.labels ++ [l]⟩⟩ := by
  obtain ⟨closed, _ | f⟩ := o
  · cases m with
    | begins => exact Or.inl ⟨rfl, rfl, (Option.some.inj h).symm⟩
    | ends => exact absurd ⟨rfl, nofun⟩ hcounts
    | label l => exact absurd ⟨rfl, nofun⟩ hcounts
  · cases m with
    | begins => cases h
    | ends => exact Or.inr (Or.inl ⟨f, rfl, rfl, (Option.some.inj h).symm⟩)
    | label l => exact Or.inr (Or.inr ⟨f, l, rfl, rfl, (Option.some.inj h).symm⟩)

/-- A mark that counts adds its line. -/
lemma lines_of_read (h : o.read line m = some o') (hcounts : ¬ o.Idle m) (hm : ∀ l, m = .label l → l.line = line) :
    o'.lines = o.lines ++ [line] := by
  unfold lines
  obtain ⟨-, hopen, rfl⟩ | ⟨f, -, hopen, rfl⟩ | ⟨f, l, rfl, hopen, rfl⟩ := read_cases h hcounts
  · simp [hopen, OpenFigure.lines]
  · simp [hopen, Figure.lines]
  · simp [hopen, OpenFigure.lines, hm l rfl]

/-- A mark that counts adds its label. -/
lemma labels_of_read (h : o.read line m = some o') (hcounts : ¬ o.Idle m) :
    o'.labels = o.labels ++ m.label?.toList := by
  unfold labels
  obtain ⟨rfl, hopen, rfl⟩ | ⟨f, rfl, hopen, rfl⟩ | ⟨f, l, rfl, hopen, rfl⟩ := read_cases h hcounts
  · simp [hopen, Mark.label?]
  · simp [hopen, Mark.label?]
  · simp [hopen, Mark.label?]

lemma lines_prefix_of_foldlM (h : ms.foldlM (Outline.read line) o = some o') (hm : ∀ l, .label l ∈ ms → l.line = line) :
    o.lines <+: o'.lines := by
  refine rel_of_foldlM (R := fun s t => s.lines <+: t.lines) (fun _ => List.prefix_rfl) (fun _ _ _ => List.IsPrefix.trans)
    (fun s t m hmem hread => ?_) h
  by_cases hidle : s.Idle m
  · rw [read_of_idle hidle] at hread
    obtain rfl := Option.some.inj hread
    exact List.prefix_rfl
  · rw [lines_of_read hread hidle (by rintro l rfl; exact hm l hmem)]
    exact List.prefix_append _ _

lemma lines_prefix_of_readLines {lines : List Line} (h : lines.foldlM Outline.readLine o = some o') :
    o.lines <+: o'.lines :=
  rel_of_foldlM (R := fun s t => s.lines <+: t.lines) (fun _ => List.prefix_rfl) (fun _ _ _ => List.IsPrefix.trans)
    (fun _ _ _ _ hread => lines_prefix_of_foldlM hread fun _ hl => (label_mem_marks hl).1) h

/-- No mark counts on a line that has had one. -/
lemma idle_of_mem_lines (hline : line ∈ o.lines) (h : ms.foldlM (Outline.read line) o = some o')
    (hm : ∀ l, .label l ∈ ms → l.line = line) (hnodup : o'.lines.Nodup) : (∀ m ∈ ms, o.Idle m) ∧ o' = o := by
  induction ms with
  | nil => exact ⟨by simp, (Option.some.inj h).symm⟩
  | cons m ms ih =>
    rw [List.foldlM_cons] at h
    obtain ⟨next, hnext, h⟩ := Option.bind_eq_some_iff.1 h
    have hms : ∀ l, .label l ∈ ms → l.line = line := fun l hl => hm l (List.mem_cons_of_mem _ hl)
    by_cases hidle : o.Idle m
    · rw [read_of_idle hidle] at hnext
      obtain rfl := Option.some.inj hnext
      obtain ⟨hrest, rfl⟩ := ih h hms
      exact ⟨List.forall_mem_cons.2 ⟨hidle, hrest⟩, rfl⟩
    · -- the line would be there twice
      have htwice := lines_of_read hnext hidle (by rintro l rfl; exact hm l (List.mem_cons_self ..))
      have hnext : next.lines.Nodup := hnodup.sublist (lines_prefix_of_foldlM h hms).sublist
      rw [htwice] at hnext
      exact absurd hline (List.nodup_append.1 hnext |>.2.2 line · line (by simp) rfl)

/-- **Only one mark of a line counts**, if the marks of figures are on lines of their own. -/
lemma foldlM_read_cases (h : ms.foldlM (Outline.read line) o = some o') (hm : ∀ l, .label l ∈ ms → l.line = line)
    (hnodup : o'.lines.Nodup) :
    (∀ m ∈ ms, o.Idle m) ∧ o' = o ∨
      ∃ before m after, ms = before ++ m :: after ∧ (∀ m ∈ before, o.Idle m) ∧ ¬ o.Idle m ∧ o.read line m = some o' ∧
        ∀ m ∈ after, o'.Idle m := by
  induction ms with
  | nil => exact Or.inl ⟨by simp, (Option.some.inj h).symm⟩
  | cons m ms ih =>
    rw [List.foldlM_cons] at h
    obtain ⟨next, hnext, h⟩ := Option.bind_eq_some_iff.1 h
    have hms : ∀ l, .label l ∈ ms → l.line = line := fun l hl => hm l (List.mem_cons_of_mem _ hl)
    by_cases hidle : o.Idle m
    · rw [read_of_idle hidle] at hnext
      obtain rfl := Option.some.inj hnext
      obtain ⟨hrest, rfl⟩ | ⟨before, n, after, rfl, hbefore, hn, hread, hafter⟩ := ih h hms
      · exact Or.inl ⟨List.forall_mem_cons.2 ⟨hidle, hrest⟩, rfl⟩
      · exact Or.inr ⟨m :: before, n, after, rfl, List.forall_mem_cons.2 ⟨hidle, hbefore⟩, hn, hread, hafter⟩
    · have hadds := lines_of_read hnext hidle (by rintro l rfl; exact hm l (List.mem_cons_self ..))
      have hline : line ∈ next.lines := by rw [hadds]; simp
      obtain ⟨hrest, rfl⟩ := idle_of_mem_lines hline h hms hnodup
      exact Or.inr ⟨[], m, ms, rfl, by simp, hidle, hnext, hrest⟩

end Outline

/-! ## The survey of the lines -/

/-- The range of the line that ends a figure. -/
def Figure.closingRange (f : Figure) : Range := .ofSize f.closing.offset f.closing.text.length

/-- What the survey knows is what the outline says. -/
structure Agrees (s : Survey) (o : Outline) : Prop where
  inFigure : s.inFigure = o.open?.isSome
  labelled : ∀ f, o.open? = some f → s.labelled = !f.labels.isEmpty
  labels : s.labels = (firsts o.labels).map fun l => (l.key, l.offset)
  unlabelled : s.unlabelled = (o.closed.filter (·.labels.isEmpty)).map Figure.closingRange

/-- How the survey takes up a line, by its marks. -/
lemma step_eq (s : Survey) (line : Line) :
    s.step line =
      if .begins ∈ marks line then { s with inFigure := true, labelled := false }
      else if .ends ∈ marks line then
        { s with
          inFigure := false
          unlabelled := s.unlabelled ++
            if s.inFigure && !s.labelled then [Range.ofSize line.offset line.text.length] else [] }
      else if s.inFigure then
        match (marks line).findSome? Mark.label? with
        | none => s
        | some l =>
          { s with
            labels := s.labels ++ if s.labels.any (·.1 == l.key) then [] else [(l.key, l.offset)]
            labelled := true }
      else s := by
  unfold Survey.step
  simp only [beginFigure_occursIn_iff, endFigure_occursIn_iff, ← search_label]
  cases (label.search line.text.toArray 0).bind (·.group? 1) <;> rfl

variable {s : Survey} {o o' : Outline} {line : Line}

lemma Agrees.idle (h : Agrees s o) (hidle : ∀ m ∈ marks line, o.Idle m) : Agrees (s.step line) o := by
  have hin := h.inFigure
  rw [step_eq]
  cases hopen : o.open? with
  | some f =>
    rw [hopen] at hin
    simpa [Outline.eq_nil_of_idle hopen hidle, hin] using h
  | none =>
    have hbegins : .begins ∉ marks line := fun hm => (hidle _ hm).2 rfl
    rw [hopen] at hin
    rw [if_neg hbegins]
    split
    · exact ⟨by rw [hopen]; rfl, by simp [hopen], h.labels, by simp [hin, h.unlabelled]⟩
    · simpa [hin] using h

lemma Agrees.begins (h : Agrees s o) (hopen : o.open? = none) (hbegins : .begins ∈ marks line) :
    Agrees (s.step line) ⟨o.closed, some ⟨line, []⟩⟩ := by
  rw [step_eq, if_pos hbegins]
  refine ⟨rfl, ?_, ?_, h.unlabelled⟩
  · intro f hf
    obtain rfl := Option.some.inj hf
    rfl
  · have hlabels := h.labels
    rw [Outline.labels, hopen] at hlabels
    simpa [Outline.labels] using hlabels

lemma Agrees.ends {f : OpenFigure} (h : Agrees s o) (hopen : o.open? = some f) (hbegins : .begins ∉ marks line)
    (hends : .ends ∈ marks line) : Agrees (s.step line) ⟨o.closed ++ [⟨f, line⟩], none⟩ := by
  have hin := h.inFigure
  have hlabels := h.labels
  rw [hopen] at hin
  rw [Outline.labels, hopen] at hlabels
  rw [step_eq, if_neg hbegins, if_pos hends]
  refine ⟨rfl, nofun, ?_, ?_⟩
  · simpa [Outline.labels] using hlabels
  · dsimp only
    rw [h.unlabelled, hin, h.labelled f hopen, List.filter_append, List.map_append]
    cases hempty : f.labels.isEmpty with
    | true => simp [hempty, Figure.closingRange]
    | false => simp [hempty]

lemma Agrees.label {f : OpenFigure} (h : Agrees s o) (hopen : o.open? = some f) (hmarks : marks line = [.label l]) :
    Agrees (s.step line) ⟨o.closed, some ⟨f.opening, f.labels ++ [l]⟩⟩ := by
  have hin : s.inFigure = true := by
    rw [h.inFigure, hopen]
    rfl
  have hconcat : Outline.labels ⟨o.closed, some ⟨f.opening, f.labels ++ [l]⟩⟩ = o.labels ++ [l] := by
    simp [Outline.labels, hopen]
  rw [step_eq, hmarks, if_neg (by simp), if_neg (by simp), if_pos hin]
  refine ⟨hin, ?_, ?_, h.unlabelled⟩
  · intro g hg
    obtain rfl := Option.some.inj hg
    simp [Mark.label?]
  · rw [hconcat, firsts_concat, List.map_append]
    simp only [List.findSome?_cons, Mark.label?, h.labels, any_key_firsts]
    split <;> rfl

/-- **A line keeps the agreement.** -/
theorem Agrees.step (h : Agrees s o) (hread : o.readLine line = some o') (hnodup : o'.lines.Nodup) :
    Agrees (s.step line) o' := by
  obtain ⟨hidle, rfl⟩ | ⟨before, m, after, hmarks, hbefore, hcounts, hm, hafter⟩ :=
    Outline.foldlM_read_cases hread (fun l hl => (label_mem_marks hl).1) hnodup
  · exact h.idle hidle
  · obtain ⟨rfl, hopen, rfl⟩ | ⟨f, rfl, hopen, rfl⟩ | ⟨f, l, rfl, hopen, rfl⟩ := Outline.read_cases hm hcounts
    · exact h.begins hopen (by rw [hmarks]; simp)
    · obtain rfl := Outline.eq_nil_of_idle hopen hbefore
      refine h.ends hopen ?_ (by rw [hmarks]; simp)
      rw [hmarks, List.nil_append, List.mem_cons]
      rintro (hm | hm)
      · cases hm
      · exact (hafter _ hm).2 rfl
    · obtain rfl := Outline.eq_nil_of_idle hopen hbefore
      obtain rfl := Outline.eq_nil_of_idle rfl hafter
      exact h.label hopen hmarks

/-- **A run over lines keeps the agreement.** -/
theorem Agrees.run {lines : List Line} (h : Agrees s o) (hread : lines.foldlM Outline.readLine o = some o')
    (hnodup : o'.lines.Nodup) : Agrees (lines.foldl Survey.step s) o' := by
  induction lines generalizing s o with
  | nil =>
    obtain rfl := Option.some.inj hread
    exact h
  | cons line lines ih =>
    rw [List.foldlM_cons] at hread
    obtain ⟨next, hnext, hread⟩ := Option.bind_eq_some_iff.1 hread
    have hfirst : next.lines.Nodup := hnodup.sublist (Outline.lines_prefix_of_readLines hread).sublist
    exact ih (h.step hnext hfirst) hread

/-! ## Where the labels stand -/

lemma mem_labels_of_foldlM {ms : List Mark} (h : ms.foldlM (Outline.read line) o = some o') :
    ∀ l ∈ o'.labels, l ∈ o.labels ∨ .label l ∈ ms := by
  refine rel_of_foldlM (R := fun s t => ∀ l ∈ t.labels, l ∈ s.labels ∨ .label l ∈ ms) (fun _ _ => Or.inl) ?_
    (fun s t m hmem hread l hl => ?_) h
  · intro s t u hst htu l hl
    exact (htu l hl).elim (hst l) Or.inr
  · by_cases hidle : s.Idle m
    · rw [Outline.read_of_idle hidle] at hread
      obtain rfl := Option.some.inj hread
      exact Or.inl hl
    · rw [Outline.labels_of_read hread hidle, List.mem_append] at hl
      refine hl.imp_right fun hnew => ?_
      cases m with
      | begins => cases hnew
      | ends => cases hnew
      | label m => rwa [List.mem_singleton.1 hnew]

lemma mem_labels_of_readLines {lines : List Line} (h : lines.foldlM Outline.readLine o = some o') :
    ∀ l ∈ o'.labels, l ∈ o.labels ∨ ∃ line ∈ lines, .label l ∈ marks line := by
  refine rel_of_foldlM (R := fun s t => ∀ l ∈ t.labels, l ∈ s.labels ∨ ∃ line ∈ lines, .label l ∈ marks line)
    (fun _ _ => Or.inl) ?_ (fun s t line hline hread l hl => ?_) h
  · intro s t u hst htu l hl
    exact (htu l hl).elim (hst l) Or.inr
  · exact (mem_labels_of_foldlM hread l hl).imp_right fun hmark => ⟨line, hline, hmark⟩

/-- The figures of a document are those of an outline of all its lines. -/
lemma exists_outline {d : Document} {figs : List Figure} (h : figures? d = some figs) :
    d.lines.foldlM Outline.readLine ⟨[], none⟩ = some ⟨figs, none⟩ := by
  obtain ⟨⟨closed, open?⟩, hread, hclosed⟩ := Option.bind_eq_some_iff.1 h
  cases open? with
  | some f => cases hclosed
  | none =>
    obtain rfl : closed = figs := Option.some.inj hclosed
    exact hread

lemma prefix_of_mem_labels {d : Document} {figs : List Figure} (h : figures? d = some figs) {f : Figure} (hf : f ∈ figs)
    (hl : l ∈ f.labels) : l.name <+: d.current.drop l.offset := by
  have hmem : l ∈ Outline.labels ⟨figs, none⟩ := List.mem_append_left _ (List.mem_flatMap.2 ⟨f, hf, hl⟩)
  rcases mem_labels_of_readLines (exists_outline h) l hmem with hnone | ⟨line, hline, hmark⟩
  · cases hnone
  · obtain ⟨-, column, hoffset, hname⟩ := label_mem_marks hmark
    have htext := (Text.prefix_drop_of_mem_lines hline).drop column
    rw [hoffset, ← List.drop_drop]
    exact hname.trans htext

/-- A label is spelled at its offset, if it does not begin with a blank. -/
lemma slice_eq_key_iff {text : Text} (hname : l.name <+: text.drop l.offset) (hkey : l.key ≠ []) :
    text.slice l.offset (l.offset + l.key.length) = l.key ↔ Text.trimStart l.name = l.name := by
  have htrim : l.key <+: Text.trimStart l.name := Text.dropEndWhile_isPrefix _ _
  have hlength : l.key.length ≤ l.name.length := htrim.length_le.trans (List.dropWhile_suffix _).length_le
  have hslice : text.slice l.offset (l.offset + l.key.length) = l.name.take l.key.length := by
    obtain ⟨rest, hrest⟩ := hname
    rw [Text.slice, ← hrest, Nat.add_sub_cancel_left, List.take_append_of_le_length hlength]
  rw [hslice]
  constructor
  · intro htake
    obtain ⟨d, more, hd⟩ := List.exists_cons_of_ne_nil hkey
    have hfirst : (Text.trimStart l.name).head? = some d := by
      obtain ⟨rest, hrest⟩ := htrim
      rw [← hrest, hd]
      rfl
    have hblank : Text.isBlank d = false := by
      have hstop := List.head?_dropWhile_not Text.isBlank l.name
      rw [← Text.trimStart, hfirst] at hstop
      exact hstop
    obtain ⟨rest, hrest⟩ : l.key <+: l.name := htake ▸ List.take_prefix _ _
    rw [← hrest, hd]
    exact Text.trimStart_cons hblank _
  · intro hflush
    rw [hflush] at htrim
    exact (List.prefix_iff_eq_take.1 htrim).symm

/-! ## The advice -/

/-- The advice that the figures of a document call for: about those without a label, and about each label that nothing
refers to. -/
def adviceOn (v : Provenance) (figs : List Figure) : List Advice :=
  ((figs.filter (·.labels.isEmpty)).map fun f =>
      v.advise referenceInfo f.closingRange "This figure is missing a label".toList []) ++
    ((firsts (figs.flatMap (·.labels))).filter fun l => !l.key.isEmpty && !referred v.document l.key).map fun l =>
      v.advise referenceInfo (.ofSize l.offset l.key.length)
        ("Figure ".toList ++ l.key ++ " is never referenced in the text".toList) []

/-- **The rule on references follows the figures of the document**, if their marks are on lines of their own.  Each name
of a label is dealt with once.  The range of a label spells it just when it does not begin with a blank. -/
theorem reference_rule_follows_figures (v : Provenance) (figs : List Figure) (hfigs : figures? v.document = some figs)
    (hapart : Apart figs) :
    referenceAdvice v = adviceOn v figs ∧
    ((firsts (figs.flatMap (·.labels))).map Label.key).Nodup ∧
    (∀ key, key ∈ (firsts (figs.flatMap (·.labels))).map Label.key ↔ ∃ f ∈ figs, ∃ l ∈ f.labels, l.key = key) ∧
    ∀ f ∈ figs, ∀ l ∈ f.labels, l.key ≠ [] →
      (v.document.current.slice l.offset (l.offset + l.key.length) = l.key ↔ Text.trimStart l.name = l.name) := by
  refine ⟨?_, nodup_map_key_firsts _, ?_, ?_⟩
  · have hstart : Agrees ⟨false, false, [], []⟩ ⟨[], none⟩ := ⟨rfl, nofun, rfl, rfl⟩
    have hnodup : (Outline.lines ⟨figs, none⟩).Nodup := by
      rw [Outline.lines, Option.toList_none, List.flatMap_nil, List.append_nil]
      exact hapart
    have hsurvey : Agrees (survey v.document) ⟨figs, none⟩ := hstart.run (exists_outline hfigs) hnodup
    have hlabels : Outline.labels ⟨figs, none⟩ = figs.flatMap (·.labels) := by simp [Outline.labels]
    unfold referenceAdvice adviceOn
    dsimp only
    rw [hsurvey.labels, hsurvey.unlabelled, hlabels, List.map_map, List.filter_map, List.map_map]
    rfl
  · intro key
    rw [mem_map_key_firsts, List.mem_map]
    constructor
    · rintro ⟨l, hl, rfl⟩
      obtain ⟨f, hf, hl⟩ := List.mem_flatMap.1 hl
      exact ⟨f, hf, l, hl, rfl⟩
    · rintro ⟨f, hf, l, hl, rfl⟩
      exact ⟨l, List.mem_flatMap.2 ⟨f, hf, hl⟩, rfl⟩
  · intro f hf l hl hkey
    exact slice_eq_key_iff (prefix_of_mem_labels hfigs hf hl) hkey

/-- A figure with a label that nothing refers to, and one without a label. -/
def twoFigures : Document :=
  .ofLines ("\\begin\x7bfigure\x7d\n\\label\x7bfig:a \x7d\n\\end\x7bfigure\x7d\n" ++
    "\\begin\x7bwrapfigure\x7d\n\\end\x7bwrapfigure\x7d").toList ""

theorem twoFigures_reported :
    referenceAdvice twoFigures.provenance =
      [twoFigures.provenance.advise referenceInfo (.ofSize 62 16) "This figure is missing a label".toList [],
        twoFigures.provenance.advise referenceInfo (.ofSize 22 5)
          "Figure fig:a is never referenced in the text".toList []] := by
  obtain ⟨figs, hfigs⟩ : ∃ figs, figures? twoFigures = some figs := Option.isSome_iff_exists.1 (by decide +kernel)
  have heq : figs = (figures? twoFigures).getD [] := by rw [hfigs]; rfl
  obtain ⟨hapart, hmissing, hunnamed⟩ : Apart figs ∧
      (figs.filter (·.labels.isEmpty)).map Figure.closingRange = [.ofSize 62 16] ∧
      ((firsts (figs.flatMap (·.labels))).filter fun l => !l.key.isEmpty && !referred twoFigures l.key).map
        (fun l => (l.key, l.offset)) = [("fig:a".toList, 22)] := by
    rw [heq]
    decide +kernel
  have hfirst := congrArg (List.map fun r =>
    twoFigures.provenance.advise referenceInfo r "This figure is missing a label".toList []) hmissing
  have hsecond := congrArg (List.map fun l : Text × Nat =>
    twoFigures.provenance.advise referenceInfo (.ofSize l.2 l.1.length)
      ("Figure ".toList ++ l.1 ++ " is never referenced in the text".toList) []) hunnamed
  rw [List.map_map] at hfirst hsecond
  rw [(reference_rule_follows_figures twoFigures.provenance figs hfigs hapart).1]
  exact congrArg₂ (· ++ ·) hfirst hsecond

/-- A figure with its label beside its beginning. -/
def labelBesideBegin : Document :=
  .ofLines "\\begin\x7bfigure\x7d\\label\x7bfig:a\x7d\n\\end\x7bfigure\x7d\nSee \\ref\x7bfig:a\x7d.".toList ""

/-- **A label beside the beginning of its figure is missed.**  The figure is reported though it has a label. -/
theorem label_beside_begin_missed :
    ¬ ∀ figs, figures? labelBesideBegin = some figs →
      referenceAdvice labelBesideBegin.provenance = adviceOn labelBesideBegin.provenance figs := by
  intro h
  have hadvice := h ((figures? labelBesideBegin).getD []) (by decide +kernel)
  exact absurd hadvice (by decide +kernel)

end Figures

end MarkupLint
