import MarkupLint.Linter
import MarkupLint.Proofs.Pattern.Reading

/-!
# Failures of linting

A linter reports that a document cannot be cleaned, or that nothing is left of it.  Errors that it does not report
escape from it, and each of them has its cause in the tables of the cleaner or in the rules:

* `Table.Escapes row e`: the pattern of the row has a bound that is too long or too great or options for two
  alphabets, or the template of the row names a group that the pattern does not have;
* `RegexRule.Overlong r e`: the message or the suggestion of the rule refers to a group by too many digits.

`failures_accounted` says that there are no others, for all tables, rules and documents;
`unknown_name_escapes` has a table and a document for which such an error does escape.

Patterns are parsed and matched here however deeply they are nested.  An interpreter whose stack is bounded gives up on a
pattern that is nested too deeply; how deep that is depends on what else is on the stack, and not on the table or the
rules.  This failure lies outside the model, and nothing is said about it.
-/

namespace MarkupLint

/-! ## Templates -/

namespace Pattern

/-- The template refers by a name to a group that the pattern does not have. -/
def MissesName (p : Pattern) (template name : Text) : Prop :=
  '\\' :: 'g' :: '<' :: name ++ ['>'] <:+: template ∧ Text.isIdentifier name = true ∧ p.names.lookup name = none

/-- A fault of a template lies in its writing, or in a name that the pattern does not have. -/
def Blamed (p : Pattern) (template : Text) : TemplateFault → Prop
  | .inl _ => True
  | .inr name => p.MissesName template name

section Template

variable {p : Pattern} {template : Text} {c : Cursor}

lemma lift_settles {α : Type} {post : α → Prop} {step : Except Fault α} (h : Settles (Blames template) post step) :
    Settles (Blamed p template) post (lift step) := h.mapError fun _ _ => trivial

lemma groupPiece_settles (number back : Nat) (c : Cursor) :
    Settles (Blamed p template) (fun _ => True) (groupPiece p number back c) := by
  unfold groupPiece
  split
  · trivial
  · trivial

lemma namedPiece_settles (hc : '\\' :: 'g' :: c.rest <:+ template) :
    Settles (Blamed p template) (fun out => out.2.rest <:+ template) (namedPiece p c) := by
  unfold namedPiece
  refine (lift_settles (accept_settles c '<')).bind ?_
  rintro ⟨opened, c₁⟩ hc₁
  dsimp only at hc₁ ⊢
  split
  · trivial
  · next hopened =>
    obtain rfl : opened = true := by simpa using hopened
    replace hc₁ : c.rest = '<' :: c₁.rest := hc₁
    refine (lift_settles (nameUntil_settles c₁ '>')).bind ?_
    rintro ⟨name, c₂⟩ hname
    dsimp only at hname ⊢
    rw [hc₁, hname] at hc
    have hc₂ : c₂.rest <:+ template :=
      (List.suffix_append ('\\' :: 'g' :: '<' :: name ++ ['>']) _).trans (by simpa using hc)
    split
    · next hidentifier =>
      split
      · exact hc₂
      · next hnone =>
        obtain ⟨before, rfl⟩ := hc
        exact ⟨⟨before, c₂.rest, by simp⟩, hidentifier, hnone⟩
    · split
      · exact (groupPiece_settles _ _ c₂).bind fun _ _ => hc₂
      · trivial

lemma digitPiece_settles (hc : c.rest <:+ template) (e : Char) :
    Settles (Blamed p template) (fun out => out.2.rest <:+ template) (digitPiece p e c) := by
  unfold digitPiece
  refine (lift_settles (takeWhile_settles Char.isDigit 1 c)).bind ?_
  rintro ⟨second, c₁⟩ ⟨hc₁, -⟩
  have hc₁ : c₁.rest <:+ template := suffix_of_eq hc hc₁
  refine Settles.ite_bind (fun _ => lift_settles (takeWhile_settles isOctal 1 c₁)) (fun _ => ⟨rfl, by simp⟩) ?_
  rintro ⟨third, c₂⟩ ⟨hc₂, -⟩
  have hc₂ : c₂.rest <:+ template := suffix_of_eq hc₁ hc₂
  dsimp only
  split
  · split
    · trivial
    · exact hc₂
  · exact (groupPiece_settles _ _ c₂).bind fun _ _ => hc₂

lemma escapePieces_settles {e : Char} (hc : '\\' :: e :: c.rest <:+ template) :
    Settles (Blamed p template) (fun out => out.2.rest <:+ template) (escapePieces p e c) := by
  have hrest : c.rest <:+ template := (List.suffix_append ['\\', e] _).trans hc
  unfold escapePieces
  dsimp only
  split
  · next he =>
    subst he
    exact (namedPiece_settles hc).bind fun _ hc' => hc'
  · split
    · exact (lift_settles (takeWhile_settles isOctal 2 c)).bind fun _ hc' => suffix_of_eq hrest hc'.1
    · split
      · exact (digitPiece_settles hrest e).bind fun _ hc' => hc'
      · split
        · exact hrest
        · split
          · trivial
          · exact hrest

lemma templatePieces_settles (fuel : Nat) (c : Cursor) (hc : c.rest <:+ template) :
    Settles (Blamed p template) (fun _ => True) (templatePieces p fuel c) := by
  induction fuel generalizing c with
  | zero => trivial
  | succ fuel ih =>
    unfold templatePieces
    split
    · trivial
    · next token htoken =>
      refine (lift_settles (advance_settles c)).bind fun after hafter => ?_
      rw [htoken] at hafter
      cases token with
      | plain e => exact (ih after (suffix_of_eq hc hafter)).bind fun _ _ => trivial
      | escape e =>
        replace hafter : c.rest = '\\' :: e :: after.rest := hafter
        refine (escapePieces_settles (hafter ▸ hc)).bind ?_
        rintro ⟨pieces, c'⟩ hc'
        exact (ih c' hc').bind fun _ _ => trivial

/-- **A template that does not fit misses a name, or its fault lies in its writing.** -/
theorem expand_settles (p : Pattern) (template : Text) (m : Found) :
    Settles (fun e => (∃ fault, e = .malformed template fault) ∨
      ∃ name, e = .unknownName name ∧ p.MissesName template name) (fun _ => True) (p.expand template m) := by
  have hpieces : Settles (Blamed p template) (fun _ => True)
      (lift (Cursor.ofText template) >>= templatePieces p template.length) := by
    refine (lift_settles (checked_settles ⟨0, template⟩)).bind ?_
    rintro _ rfl
    exact templatePieces_settles _ _ List.suffix_rfl
  unfold expand readTemplate
  refine Settles.bind (hpieces.mapError fun fault hfault => ?_) fun _ _ => trivial
  cases fault with
  | inl fault => exact Or.inl ⟨fault, rfl⟩
  | inr name => exact Or.inr ⟨name, rfl, hfault⟩

end Template

end Pattern

/-! ## Tables -/

namespace Table

/-- **What escapes from a row of a table.** -/
inductive Escapes (row : Text × Text) : CleanError → Prop
  /-- The pattern has a fault that does not lie in its writing. -/
  | pattern {fault : Pattern.Fault} (h : Pattern.Cause row.1 fault) : Escapes row (.pattern ⟨row.1, fault⟩)
  /-- The template names a group that the pattern does not have. -/
  | name {p : Pattern} {name : Text} (hp : Pattern.compile row.1 Pattern.multiline = .ok p)
      (h : p.MissesName row.2 name) : Escapes row (.replacement (.unknownName name))

/-- The error is one of the table as it is written, or escapes from one of the rows. -/
def Explains (rows : List (Text × Text)) (e : CleanError) : Prop :=
  e.isMalformed = true ∨ ∃ row ∈ rows, Escapes row e

lemma replaceRow_settles (d : Document) (row : Text × Text) :
    Settles (fun e => e.isMalformed = true ∨ Escapes row e) (fun _ => True) (replaceRow d row) := by
  have hchosen : Pattern.multiline.Chosen row.1 := ⟨nofun, nofun⟩
  unfold replaceRow
  cases hp : Pattern.compile row.1 Pattern.multiline with
  | error e =>
    obtain ⟨source, fault⟩ := e
    obtain ⟨rfl, hmalformed | hcause⟩ := Pattern.compile_blames hchosen hp
    · exact Or.inl hmalformed
    · exact Or.inr (.pattern hcause)
  | ok p =>
    have hnews := Settles.mapM fun m (_ : m ∈ Edit.targets d.current p true 0) => p.expand_settles row.2 m
    have hedit : Settles _ (fun _ => True) (Edit.apply (.replace p (.template row.2) true 0) d.current) :=
      hnews.bind fun _ _ => trivial
    have happly : Settles _ (fun _ => True) (d.apply (.replace p (.template row.2) true 0)) :=
      hedit.bind fun _ _ => trivial
    refine happly.mapError ?_
    rintro e (⟨fault, rfl⟩ | ⟨name, rfl, hname⟩)
    · exact Or.inl rfl
    · exact Or.inr (.name hp hname)

lemma clean_settles (t : Table) (d : Document) : Settles (Explains t.rows) (fun _ => True) (t.clean d) := by
  refine Settles.foldlM (fun d row hrow => (replaceRow_settles d row).imp_error fun e he => ?_) d
  exact he.imp_right fun hescapes => ⟨row, hrow, hescapes⟩

end Table

/-! ## Cleaners -/

namespace Cleaner

/-- The rows of the tables of a cleaner. -/
def rows : Cleaner → List (Text × Text)
  | keep | latex _ | markdown => []
  | table t => t.rows
  | andThen a b => a.rows ++ b.rows

lemma clean_settles (c : Cleaner) (d : Document) : Settles (Table.Explains c.rows) (fun _ => True) (c.clean d) := by
  induction c generalizing d with
  | keep => trivial
  | latex l => trivial
  | markdown => trivial
  | table t => exact t.clean_settles d
  | andThen a b iha ihb =>
    refine ((iha d).imp_error fun e he => he.imp_right ?_).bind fun cleaned _ =>
      (ihb cleaned).imp_error fun e he => he.imp_right ?_
    · rintro ⟨row, hrow, hescapes⟩
      exact ⟨row, List.mem_append_left _ hrow, hescapes⟩
    · rintro ⟨row, hrow, hescapes⟩
      exact ⟨row, List.mem_append_right _ hrow, hescapes⟩

end Cleaner

/-! ## Messages -/

/-- The text refers to a group by too many digits. -/
def LongReference (text : Text) (e : MessageError) : Prop :=
  ∃ digits, '$' :: digits <:+: text ∧ (∀ c ∈ digits, Text.isDigit c = true) ∧ Text.maxDigits < digits.length ∧
    e.digits = digits.length

lemma placeholder_settles {text digits rest : Text} (groups : List (Option Text))
    (h : '$' :: (digits.reverse ++ rest) <:+ text) (hdigits : ∀ c ∈ digits, Text.isDigit c = true) :
    Settles (LongReference text) (fun _ => True) (placeholder groups digits) := by
  unfold placeholder
  split
  · trivial
  · split
    · next hlong =>
      obtain ⟨before, rfl⟩ := h
      refine ⟨digits.reverse, ⟨before, rest, by simp⟩, by simpa using hdigits, by simpa using hlong, by simp⟩
    · trivial

/-- After a dollar sign, the digits read so far stand right behind it. -/
lemma fillFrom_settles {text : Text} (groups : List (Option Text)) (state : Option Text) (rest : Text)
    (hrest : state = none → rest <:+ text)
    (hstate : ∀ digits, state = some digits →
      '$' :: (digits.reverse ++ rest) <:+ text ∧ ∀ c ∈ digits, Text.isDigit c = true) :
    Settles (LongReference text) (fun _ => True) (fillFrom groups state rest) := by
  induction rest generalizing state with
  | nil =>
    cases state with
    | none => trivial
    | some digits => exact placeholder_settles groups (hstate digits rfl).1 (hstate digits rfl).2
  | cons c rest ih =>
    have hplain : c :: rest <:+ text → Settles (LongReference text) (fun _ => True) (fillFrom groups none rest) :=
      fun h => ih none (fun _ => (List.suffix_cons _ _).trans h) nofun
    have hdollar : c :: rest <:+ text → c = '$' →
        Settles (LongReference text) (fun _ => True) (fillFrom groups (some []) rest) := by
      rintro h rfl
      refine ih (some []) nofun ?_
      rintro _ ⟨⟩
      exact ⟨h, by simp⟩
    cases state with
    | none =>
      have h := hrest rfl
      unfold fillFrom
      split
      · next hc => exact hdollar h hc
      · exact (hplain h).bind fun _ _ => trivial
    | some digits =>
      obtain ⟨hdigits, hall⟩ := hstate digits rfl
      have h : c :: rest <:+ text := (List.suffix_append ('$' :: digits.reverse) _).trans hdigits
      unfold fillFrom
      split
      · next hc =>
        refine ih (some (c :: digits)) nofun ?_
        rintro _ ⟨⟩
        exact ⟨by simpa using hdigits, List.forall_mem_cons.2 ⟨hc, hall⟩⟩
      · refine (placeholder_settles groups hdigits hall).bind fun filled _ => ?_
        split
        · next hc => exact (hdollar h hc).bind fun _ _ => trivial
        · exact (hplain h).bind fun _ _ => trivial

lemma fillMessage_settles (template : Text) (groups : List (Option Text)) :
    Settles (LongReference template) (fun _ => True) (fillMessage template groups) :=
  fillFrom_settles groups none template (fun _ => List.suffix_rfl) nofun

/-- The message of the rule or its suggestion refers to a group by too many digits. -/
def RegexRule.Overlong (r : RegexRule) (e : MessageError) : Prop :=
  LongReference r.message e ∨ ∃ suggestion ∈ r.suggestion, LongReference suggestion e

lemma RegexRule.evaluate_settles (r : RegexRule) (v : Provenance) :
    Settles r.Overlong (fun _ => True) (r.evaluate v) := by
  refine Settles.mapM fun m _ => ?_
  unfold adviceFor
  have hsuggestions : Settles r.Overlong (fun _ => True) (r.suggestion.toList.mapM (fillMessage · m.groupTexts)) := by
    refine Settles.mapM fun suggestion hmem => ?_
    refine (fillMessage_settles suggestion m.groupTexts).imp_error fun e he => Or.inr ⟨suggestion, ?_, he⟩
    exact Option.mem_toList.1 hmem
  refine hsuggestions.bind fun _ _ => ?_
  exact ((fillMessage_settles r.message m.groupTexts).imp_error fun e he => Or.inl he).bind fun _ _ => trivial

/-- Only messages of rules with a pattern fail. -/
lemma Rule.evaluate_settles (rule : Rule) (v : Provenance) :
    Settles (fun e => ∃ r, rule = .regex r ∧ r.Overlong e) (fun _ => True) (rule.evaluate v) := by
  cases rule with
  | regex r => exact (r.evaluate_settles v).imp_error fun e he => ⟨r, rfl, he⟩
  | _ => trivial

namespace Linter

/-- The error escapes from a row of the tables of the cleaner. -/
def EscapesFromRow (l : Linter) (err : LintError) : Prop :=
  ∃ row ∈ l.cleaner.rows, ∃ e, err = .clean e ∧ Table.Escapes row e

/-- The error escapes from the message of a rule. -/
def EscapesFromMessage (l : Linter) (err : LintError) : Prop :=
  ∃ r, .regex r ∈ l.rules ++ l.cleanedRules ∧ ∃ e, err = .message e ∧ r.Overlong e

lemma run_settles (l : Linter) {rules : List Rule} (hrules : ∀ rule ∈ rules, rule ∈ l.rules ++ l.cleanedRules)
    (d : Document) : Settles l.EscapesFromMessage (fun _ => True) (l.run rules d) := by
  have hall : Settles (fun e => ∃ r, .regex r ∈ rules ∧ r.Overlong e) (fun _ => True)
      (Rule.evaluateAll (l.kept rules) d.provenance) := by
    refine Settles.bind (Settles.mapM fun rule hrule => ?_) fun _ _ => trivial
    refine (rule.evaluate_settles d.provenance).imp_error ?_
    rintro e ⟨r, rfl, he⟩
    exact ⟨r, (List.mem_filter.1 hrule).1, he⟩
  refine hall.mapError ?_
  rintro e ⟨r, hr, he⟩
  exact ⟨r, hrules _ hr, e, rfl, he⟩

lemma clean_settles (l : Linter) (d : Document) :
    Settles (fun err => err.isReported = true ∨ l.EscapesFromRow err) (fun _ => True) (l.clean d) := by
  refine (l.cleaner.clean_settles d).mapError ?_
  rintro e (hmalformed | ⟨row, hrow, hescapes⟩)
  · exact Or.inl hmalformed
  · exact Or.inr ⟨row, hrow, e, rfl, hescapes⟩

lemma evaluate_settles (l : Linter) (d : Document) :
    Settles (fun err => err.isReported = true ∨ l.EscapesFromRow err ∨ l.EscapesFromMessage err) (fun _ => True)
      (l.evaluate d) := by
  have hrun : ∀ rules, (∀ rule ∈ rules, rule ∈ l.rules ++ l.cleanedRules) → ∀ d : Document,
      Settles (fun err => err.isReported = true ∨ l.EscapesFromRow err ∨ l.EscapesFromMessage err) (fun _ => True)
        (l.run rules d) :=
    fun rules hrules d => (l.run_settles hrules d).imp_error fun err herr => Or.inr (Or.inr herr)
  unfold evaluate
  refine (hrun l.rules (fun rule hrule => List.mem_append_left _ hrule) _).bind fun advice _ => ?_
  refine ((l.clean_settles d).imp_error fun err herr => herr.imp_right Or.inl).bind fun cleaned _ => ?_
  split
  · exact Or.inl rfl
  · exact (hrun l.cleanedRules (fun rule hrule => List.mem_append_right _ hrule) cleaned).bind fun _ _ => trivial

end Linter

/-- **All failures are accounted for.**  Whatever the tables, the rules and the document are, cleaning and linting end
in a result or in an error that is reported, but for the errors that escape from a row of a table or, in linting, from
the message of a rule. -/
theorem failures_accounted (l : Linter) (d : Document) :
    (∀ err, l.clean d = .error err → err.isReported = true ∨ l.EscapesFromRow err) ∧
    ∀ err, l.evaluate d = .error err →
      err.isReported = true ∨ l.EscapesFromRow err ∨ l.EscapesFromMessage err :=
  ⟨fun _ h => (l.clean_settles d).of_error h, fun _ h => (l.evaluate_settles d).of_error h⟩

/-- A linter that makes the replacements of one row. -/
def Linter.ofRow (pattern template : String) : Linter :=
  .ofCleaner (.table ⟨[(pattern.toList, template.toList)]⟩)

/-- Two rows from which errors escape that are not reported: the template of the one names a group that its pattern
does not have, and the pattern of the other has too great a bound. -/
theorem unknown_name_escapes :
    (Linter.ofRow "a" "\\g<nope>").clean (.ofLines "a".toList "") =
      .error (.clean (.replacement (.unknownName "nope".toList))) ∧
    (Linter.ofRow "a" "\\g<nope>").evaluate (.ofLines "a".toList "") =
      .error (.clean (.replacement (.unknownName "nope".toList))) ∧
    LintError.isReported (.clean (.replacement (.unknownName "nope".toList))) = false ∧
    ∃ err, (Linter.ofRow "a\x7b4294967295\x7d" "").evaluate (.ofLines "a".toList "") = .error err ∧
      err.isReported = false := by
  exact ⟨rfl, by decide +kernel, rfl, _, rfl, rfl⟩

end MarkupLint
