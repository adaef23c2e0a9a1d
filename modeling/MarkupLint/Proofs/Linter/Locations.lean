import MarkupLint.Config
import MarkupLint.Proofs.Clean.Descent
import MarkupLint.Proofs.Provenance.Queries
import MarkupLint.Proofs.Rule.Ranges

/-!
# Where advice points to

Advice points to a range of the initial text, or of the text that the rule looked at.  `Advice.Located` says
what it means for advice to be well located in a text: its range lies in the text, its extent tells the positions
of the ends of the range, and its line is the one on which the range starts.

A rule gives its advice about a range of the text that it looks at (`Rule.evaluate_advises`), what is tracked
back lies in the initial text (`Document.Reached.backward_stop_lt`), and a range of a text has its positions and its
line there (`located_of_stop_lt`).  Hence all advice of a linter is well located (`evaluate_located`).
-/

namespace MarkupLint

/-! ## Tracking back stays in the initial text -/

namespace Document

variable {d : Document}

/-- **What is tracked back lies in the initial text.** -/
theorem Reached.backward_stop_lt (hd : d.Reached) (hs : d.Unshifted) {r found : Range}
    (h : d.provenance.backward r = some found) : found.stop < d.initial.length := by
  obtain ⟨-, hstop, -⟩ := Range.unite_eq_some_iff.1 h
  obtain ⟨j, -, -, p, hp, hlinks⟩ := covers_toInput.1 hstop
  exact hd.input_lt hs hp hlinks.mem_input

end Document

/-! ## Located advice -/

/-- The advice is well located in a text. -/
structure Advice.Located (a : Advice) (text newline : Text) : Prop where
  /-- The range lies in the text. -/
  stop_lt : a.range.stop < text.length
  /-- The extent has the position of the first offset of the range. -/
  start_eq : a.extent.start = text.position newline a.range.start
  /-- The extent has the position of the last offset of the range. -/
  stop_eq : a.extent.stop = text.position newline a.range.stop
  /-- The range starts somewhere in the text. -/
  start_ne : a.extent.start ≠ .nowhere
  /-- The range stops somewhere in the text. -/
  stop_ne : a.extent.stop ≠ .nowhere
  /-- The range does not stop before it starts. -/
  ordered : (a.extent.start.compare a.extent.stop).isLE = true
  /-- The line is the one of the text on which the range starts. -/
  line_eq : ∃ number : Nat, a.extent.start.line = number ∧ (text.lines newline)[number]? = some a.line
  /-- The column is that of the start of the range. -/
  column_eq : a.column = a.extent.start.column
  /-- The range does not start before its line. -/
  column_nonneg : 0 ≤ a.column
  /-- The range starts on its line, or on the terminator of the line. -/
  column_lt : a.column < a.line.text.length + newline.length

/-- **Advice about a range of a text is well located**, if its extent and its line are looked up there. -/
theorem located_of_stop_lt {d : Document} {text : Text} {a : Advice} (hstop : a.range.stop < text.length)
    (hextent : a.extent = text.extent d.newline a.range)
    (hline : a.line = (d.lineAt? text a.range.start).getD ⟨[], 0⟩) : a.Located text d.newline := by
  have hle := a.range.start_le_stop
  obtain ⟨number, column, line, hposition, hnumber, hstart, hlt⟩ :=
    Text.exists_line d.newline (Nat.lt_of_le_of_lt hle hstop)
  obtain ⟨_, _, _, hposition', -⟩ := Text.exists_line d.newline hstop
  have hline : a.line = line := by
    rw [hline, Document.lineAt?, hposition]
    simp only [← Text.getElem?_lines, hnumber, Option.getD_some]
  have hcolumn : a.column = column := by
    rw [Advice.column, hline]
    omega
  have hfirst : a.extent.start = .cell number column := by rw [hextent, Text.extent, hposition]
  refine ⟨hstop, ?_, ?_, ?_, ?_, ?_, ⟨number, ?_, ?_⟩, ?_, ?_, ?_⟩
  · rw [hextent, Text.extent]
  · rw [hextent, Text.extent]
  · simp [hfirst]
  · simp [hextent, Text.extent, hposition']
  · rw [hextent]
    exact Text.position_mono d.newline hle hstop
  · rw [hfirst, Position.line]
  · rw [hline, hnumber]
  · rw [hfirst, Position.column, hcolumn]
  · omega
  · rw [hcolumn, hline]
    omega

/-- Advice about a range of the current text is well located, in the initial text if the range comes from
there. -/
lemma Provenance.Advises.located {d : Document} (hd : d.Reached) (hs : d.Unshifted) {rule : RuleInfo} {a : Advice}
    (h : d.provenance.Advises rule a) : a.Located (if a.traced then d.initial else d.current) d.newline := by
  obtain ⟨r, message, replacements, hr, rfl⟩ := h
  cases hback : d.provenance.backward r with
  | some found =>
    have hfound := hd.backward_stop_lt hs hback
    rw [advise_of_backward_eq_some hback, if_pos rfl]
    exact located_of_stop_lt hfound rfl rfl
  | none =>
    rw [advise_of_backward_eq_none hback, if_neg Bool.false_ne_true]
    exact located_of_stop_lt hr rfl rfl

/-! ## Linters -/

namespace Linter

variable {l : Linter} {d seen : Document} {rules : List Rule} {advice : List Advice} {a : Advice}

/-- A rule of the linter looks at the document `seen` when the linter evaluates the document `d`. -/
inductive LooksAt (l : Linter) (d : Document) : Rule → Document → Prop
  /-- Some rules look at the document without its comments. -/
  | decommented {rule : Rule} (h : rule ∈ l.kept l.rules) : LooksAt l d rule (l.cleaner.cleanComments d)
  /-- The other rules look at the cleaned document. -/
  | cleaned {rule : Rule} {seen : Document} (h : rule ∈ l.kept l.cleanedRules) (hclean : l.clean d = .ok seen) :
      LooksAt l d rule seen

/-- What an evaluation that succeeds has done. -/
lemma evaluate_eq_ok (h : l.evaluate d = .ok advice) :
    ∃ early cleaned late, l.run l.rules (l.cleaner.cleanComments d) = .ok early ∧ l.clean d = .ok cleaned ∧
      l.run l.cleanedRules cleaned = .ok late ∧ advice = (early ++ late).mergeSort Advice.le := by
  unfold evaluate at h
  cases hearly : l.run l.rules (l.cleaner.cleanComments d) with
  | error e => simp [hearly, bind, Except.bind] at h
  | ok early =>
    cases hclean : l.clean d with
    | error e => simp [hearly, hclean, bind, Except.bind] at h
    | ok cleaned =>
      simp only [hearly, hclean, bind, Except.bind] at h
      split at h
      · simp [throw, throwThe, MonadExceptOf.throw] at h
      · cases hlate : l.run l.cleanedRules cleaned with
        | error e => simp [hlate] at h
        | ok late =>
          simp only [hlate, pure, Except.pure, Except.ok.injEq] at h
          exact ⟨early, cleaned, late, rfl, rfl, hlate, h.symm⟩

/-- What rules say together is what each of them says. -/
lemma mem_run (h : l.run rules d = .ok advice) (ha : a ∈ advice) :
    ∃ rule ∈ l.kept rules, ∃ own, rule.evaluate d.provenance = .ok own ∧ a ∈ own := by
  unfold run Rule.evaluateAll at h
  cases hall : (l.kept rules).mapM fun rule => rule.evaluate d.provenance with
  | error e => simp [hall, bind, Except.bind, Except.mapError] at h
  | ok each =>
    simp only [hall, bind, Except.bind, pure, Except.pure, Except.mapError, Except.ok.injEq] at h
    subst h
    obtain ⟨own, hown, ha⟩ := List.mem_flatten.1 ha
    obtain ⟨rule, hrule, heval⟩ := exists_of_mem_mapM hall hown
    exact ⟨rule, hrule, own, heval, ha⟩

/-- All advice comes from a rule, about the document that it looks at. -/
lemma exists_looksAt (h : l.evaluate d = .ok advice) (ha : a ∈ advice) :
    ∃ rule seen own, l.LooksAt d rule seen ∧ rule.evaluate seen.provenance = .ok own ∧ a ∈ own := by
  obtain ⟨early, cleaned, late, hearly, hclean, hlate, rfl⟩ := evaluate_eq_ok h
  rcases List.mem_append.1 (List.mem_mergeSort.1 ha) with ha | ha
  · obtain ⟨rule, hrule, own, heval, ha⟩ := mem_run hearly ha
    exact ⟨rule, _, own, .decommented hrule, heval, ha⟩
  · obtain ⟨rule, hrule, own, heval, ha⟩ := mem_run hlate ha
    exact ⟨rule, _, own, .cleaned hrule hclean, heval, ha⟩

lemma LooksAt.descends {rule : Rule} (h : l.LooksAt d rule seen) : Document.Descends d seen := by
  cases h with
  | decommented => exact l.cleaner.cleanComments_descends d
  | cleaned _ hclean =>
    unfold clean Except.mapError at hclean
    split at hclean
    · cases hclean
    · next cleaned h =>
      obtain rfl := Except.ok.inj hclean
      exact l.cleaner.clean_descends h

end Linter

/-- **All advice is well located.**  Whatever the settings, the language and the table of replacements, all
advice that a linter gives about a document, which edits other than shifts may have changed, comes from one of its
rules and is well located: in the initial text of the document if it is traced, and else in the text that the
rule looked at. -/
theorem evaluate_located (c : Config) (language : Language) (table : Option Table) {d : Document}
    (hd : d.Reached) (hs : d.Unshifted) {advice : List Advice}
    (h : (c.linter language table).evaluate d = .ok advice) {a : Advice} (ha : a ∈ advice) :
    ∃ rule seen own, (c.linter language table).LooksAt d rule seen ∧
      rule.evaluate seen.provenance = .ok own ∧ a ∈ own ∧
      a.Located (if a.traced then d.initial else seen.current) d.newline := by
  obtain ⟨rule, seen, own, hlooks, heval, ha⟩ := Linter.exists_looksAt h ha
  have hdescends := hlooks.descends
  have hlocated := (Rule.evaluate_advises heval ha).located (hdescends.reached hd) (hdescends.unshifted hs)
  rw [hdescends.initial_eq, hdescends.newline_eq] at hlocated
  exact ⟨rule, seen, own, hlooks, heval, ha, hlocated⟩

/-- The table that adds two words with two spaces between them at the end of every line. -/
def Table.appending : Table := ⟨[("$".toList, "b  c".toList)]⟩

lemma exists_single_advice {result : Except LintError (List Advice)} {traced : Bool}
    (h : result.toOption.map (·.map (·.traced)) = some [traced]) :
    ∃ a, result = .ok [a] ∧ a.traced = traced := by
  cases result with
  | error e => cases h
  | ok advice =>
    obtain ⟨a, rfl, ha⟩ := List.map_eq_singleton_iff.1 (Option.some.inj h)
    exact ⟨a, rfl, ha⟩

/-- Two spaces of the document are reported where they are, and two spaces that the table adds are reported
in the text with the added words. -/
theorem spaces_located :
    (∃ a, (({} : Config).linter .plain none).evaluate (.ofLines "a  b".toList "") = .ok [a] ∧
      a.traced = true ∧ a.Located "a  b".toList Text.lineFeed) ∧
    ∃ a rule seen, (({} : Config).linter .plain (some .appending)).evaluate (.ofLines "a".toList "") = .ok [a] ∧
      a.traced = false ∧ (({} : Config).linter .plain (some .appending)).LooksAt (.ofLines "a".toList "") rule seen ∧
      a.Located seen.current Text.lineFeed := by
  have hunshifted : ∀ text : Text, (Document.ofLines text "").Unshifted := fun _ _ h => absurd h List.not_mem_nil
  obtain ⟨a, ha, htraced⟩ : ∃ a, (({} : Config).linter .plain none).evaluate (.ofLines "a  b".toList "") = .ok [a] ∧
      a.traced = true := exists_single_advice (by decide +kernel)
  obtain ⟨b, hb, huntraced⟩ :
      ∃ a, (({} : Config).linter .plain (some .appending)).evaluate (.ofLines "a".toList "") = .ok [a] ∧
        a.traced = false := exists_single_advice (by decide +kernel)
  obtain ⟨_, _, _, _, _, _, hlocated⟩ := evaluate_located {} .plain none (Document.ofLines_reached _ _)
    (hunshifted _) ha (List.mem_singleton_self a)
  obtain ⟨rule, seen, _, hlooks, _, _, hlocated'⟩ := evaluate_located {} .plain (some .appending)
    (Document.ofLines_reached _ _) (hunshifted _) hb (List.mem_singleton_self b)
  rw [htraced] at hlocated
  rw [huntraced] at hlocated'
  exact ⟨⟨a, ha, htraced, hlocated⟩, b, rule, seen, hb, huntraced, hlooks, hlocated'⟩

end MarkupLint
