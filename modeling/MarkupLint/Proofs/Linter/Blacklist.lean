import Mathlib.Data.String.Basic
import MarkupLint.Proofs.Linter.Locations

/-!
# The blacklist

Rules do not see one another, so leaving rules out is the same as leaving their advice out of the report.  A rule
on the blacklist is not evaluated at all, and therefore its message cannot fail either: this is the one
difference between a report with a blacklist and a report that is filtered afterwards.

* `Advice.filter_mergeSort`: sorting is stable, so it commutes with leaving advice out;
* `Rule.evaluateAll_filter`: what the rules that are kept say, from what all rules say;
* `evaluate_blacklist`: the report with a blacklist is the report without one, less the advice of the rules on it,
  unless the message of such a rule fails; it is sorted, and holds what the rules that are kept say;
* `failing_message_breaks_blacklist`: where the message of a rule fails, leaving the rule out saves the report.
-/

namespace MarkupLint

namespace Advice

/-! ## The order of a report -/

lemma le_def {a b : Advice} :
    a.le b = true ↔ a.resource < b.resource ∨ (a.resource = b.resource ∧
      (a.range ≠ b.range ∧ a.range.le b.range ∨ (a.range = b.range ∧ a.rule.name ≤ b.rule.name))) := by
  unfold le
  rw [decide_eq_true_iff]

lemma le_trans (a b c : Advice) (hab : a.le b = true) (hbc : b.le c = true) : a.le c = true := by
  rw [le_def] at *
  rcases hab with hlt | ⟨heq, hab⟩
  · rcases hbc with hlt' | ⟨heq', -⟩
    · exact Or.inl (String.lt_trans hlt hlt')
    · exact Or.inl (heq' ▸ hlt)
  rcases hbc with hlt' | ⟨heq', hbc⟩
  · exact Or.inl (heq ▸ hlt')
  refine Or.inr ⟨heq.trans heq', ?_⟩
  rcases hab with ⟨hne, hab⟩ | ⟨hrange, hab⟩
  · rcases hbc with ⟨hne', hbc⟩ | ⟨hrange', -⟩
    · -- two steps forward do not lead back
      refine Or.inl ⟨fun hac => hne ?_, ?_⟩
      · rw [hac] at hab
        rw [Range.le_iff] at hab hbc
        rw [hac]
        exact Range.ext_ends (by omega) (by omega)
      · rw [Range.le_iff] at *
        omega
    · exact Or.inl (hrange' ▸ ⟨hne, hab⟩)
  · rcases hbc with hbc | ⟨hrange', hbc⟩
    · exact Or.inl (hrange ▸ hbc)
    · exact Or.inr ⟨hrange.trans hrange', String.le_trans hab hbc⟩

lemma le_total (a b : Advice) : (a.le b || b.le a) = true := by
  rw [Bool.or_eq_true, le_def, le_def]
  rcases lt_trichotomy a.resource b.resource with hlt | heq | hgt
  · exact Or.inl (Or.inl hlt)
  · by_cases hrange : a.range = b.range
    · rcases Std.le_total (a := a.rule.name) (b := b.rule.name) with hle | hle
      · exact Or.inl (Or.inr ⟨heq, Or.inr ⟨hrange, hle⟩⟩)
      · exact Or.inr (Or.inr ⟨heq.symm, Or.inr ⟨hrange.symm, hle⟩⟩)
    · have hle : a.range.le b.range = true ∨ b.range.le a.range = true := by
        rw [Range.le_iff, Range.le_iff]
        omega
      rcases hle with hle | hle
      · exact Or.inl (Or.inr ⟨heq, Or.inl ⟨hrange, hle⟩⟩)
      · exact Or.inr (Or.inr ⟨heq.symm, Or.inl ⟨Ne.symm hrange, hle⟩⟩)
  · exact Or.inr (Or.inl hgt)

/-- Where sorting puts a piece of advice: after all that comes strictly before it, and before all else. -/
lemma mergeSort_cons_eq (a : Advice) (advice : List Advice) :
    (a :: advice).mergeSort le =
      (advice.mergeSort le).filter (!a.le ·) ++ a :: (advice.mergeSort le).filter (a.le ·) := by
  obtain ⟨before, after, hcons, hsplit, hbefore⟩ := List.mergeSort_cons le_trans le_total a advice
  have hsorted := List.pairwise_mergeSort le_trans le_total (a :: advice)
  rw [hcons] at hsorted
  have hafter : ∀ b ∈ after, a.le b = true :=
    (List.pairwise_cons.1 (List.pairwise_append.1 hsorted).2.1).1
  have hleft : (before ++ after).filter (!a.le ·) = before := by
    rw [List.filter_append, List.filter_eq_self.2 hbefore,
      List.filter_eq_nil_iff.2 (fun b hb => by simp [hafter b hb]), List.append_nil]
  have hright : (before ++ after).filter (a.le ·) = after := by
    rw [List.filter_append, List.filter_eq_self.2 hafter,
      List.filter_eq_nil_iff.2 (fun b hb => by simpa using hbefore b hb), List.nil_append]
  rw [hcons, hsplit, hleft, hright]

/-- **Leaving advice out commutes with sorting.** -/
theorem filter_mergeSort (keep : Advice → Bool) (advice : List Advice) :
    (advice.mergeSort le).filter keep = (advice.filter keep).mergeSort le := by
  induction advice with
  | nil => simp
  | cons a advice ih =>
    by_cases ha : keep a = true
    · have hcomm : ∀ p : Advice → Bool, ((advice.mergeSort le).filter p).filter keep =
          ((advice.filter keep).mergeSort le).filter p := by
        intro p
        rw [← ih, List.filter_filter, List.filter_filter]
        simp only [Bool.and_comm]
      rw [mergeSort_cons_eq, List.filter_append, List.filter_cons_of_pos ha, List.filter_cons_of_pos ha,
        hcomm, hcomm, mergeSort_cons_eq]
    · obtain ⟨before, after, hcons, hsplit, -⟩ := List.mergeSort_cons le_trans le_total a advice
      rw [hcons, List.filter_append, List.filter_cons_of_neg ha, List.filter_cons_of_neg ha, ← ih, hsplit,
        List.filter_append]

end Advice

/-! ## What rules say together -/

/-- Whether the rule that gives the advice has none of the given names. -/
def Advice.isKept (names : List String) (a : Advice) : Bool := !names.contains a.rule.name

namespace Rule

variable {rule : Rule} {rules : List Rule} {v : Provenance} {own : List Advice} {names : List String}

lemma evaluateAll_cons (rule : Rule) (rules : List Rule) (v : Provenance) :
    evaluateAll (rule :: rules) v = (do return (← rule.evaluate v) ++ (← evaluateAll rules v)) := by
  simp only [evaluateAll, List.mapM_cons, bind_assoc, pure_bind, List.flatten_cons]

/-- The advice of a rule stays as long as the rule stays. -/
lemma filter_isKept (h : rule.evaluate v = .ok own) (names : List String) :
    own.filter (·.isKept names) = if names.contains rule.name then [] else own := by
  have hname : ∀ a ∈ own, a.isKept names = !names.contains rule.name := by
    intro a ha
    obtain ⟨r, message, replacements, -, rfl⟩ := evaluate_advises h ha
    rw [Advice.isKept, Provenance.rule_advise, Rule.name]
  split
  · next hmem => exact List.filter_eq_nil_iff.2 fun a ha => by simpa [hname a ha] using hmem
  · next hmem => exact List.filter_eq_self.2 fun a ha => by simpa [hname a ha] using hmem

/-- **What the rules that are kept say** is what all rules say, less the advice of the others; unless all
rules together fail, and do so because of one that is not kept. -/
theorem evaluateAll_filter (names : List String) (rules : List Rule) (v : Provenance) :
    evaluateAll (rules.filter (!names.contains ·.name)) v =
        (evaluateAll rules v).map (·.filter (·.isKept names)) ∨
      ∃ rule ∈ rules, ∃ e, rule.name ∈ names ∧ rule.evaluate v = .error e ∧ evaluateAll rules v = .error e := by
  induction rules with
  | nil => exact Or.inl rfl
  | cons rule rules ih =>
    rw [evaluateAll_cons]
    cases hrule : rule.evaluate v with
    | error e =>
      -- the first rule fails: its failure is the failure of all, kept or not
      by_cases hmem : rule.name ∈ names
      · exact Or.inr ⟨rule, List.mem_cons_self .., e, hmem, hrule, rfl⟩
      · left
        rw [List.filter_cons_of_pos (by simpa using hmem), evaluateAll_cons, hrule]
        rfl
    | ok own =>
      rcases ih with ih | ⟨other, hother, e, hmem, hfails, hall⟩
      · left
        have hown := filter_isKept hrule names
        by_cases hmem : names.contains rule.name = true
        · rw [List.filter_cons_of_neg (by simpa using hmem), ih]
          rw [if_pos hmem] at hown
          cases hrest : evaluateAll rules v with
          | error e => rfl
          | ok rest => simp [bind, Except.bind, pure, Except.pure, Except.map, hown]
        · rw [List.filter_cons_of_pos (by simpa using hmem), evaluateAll_cons, hrule, ih]
          rw [if_neg hmem] at hown
          cases hrest : evaluateAll rules v with
          | error e => rfl
          | ok rest => simp [bind, Except.bind, pure, Except.pure, Except.map, hown]
      · exact Or.inr ⟨other, List.mem_cons_of_mem _ hother, e, hmem, hfails, by rw [hall]; rfl⟩

end Rule

/-! ## Reports -/

namespace Linter

variable {l : Linter} {d : Document} {rules : List Rule} {names : List String}

/-- The linter with the given blacklist. -/
def leavingOut (l : Linter) (names : List String) : Linter := { l with blacklist := names }

lemma run_leavingOut (l : Linter) (names : List String) (rules : List Rule) (d : Document) :
    (l.leavingOut names).run rules d = ((l.leavingOut []).run rules d).map (·.filter (·.isKept names)) ∨
      ∃ rule ∈ (l.leavingOut []).kept rules, ∃ e, rule.name ∈ names ∧
        rule.evaluate d.provenance = .error e ∧ (l.leavingOut []).run rules d = .error (.message e) := by
  have hall : (l.leavingOut []).kept rules = rules := List.filter_eq_self.2 fun _ _ => rfl
  unfold run
  rw [hall]
  rcases Rule.evaluateAll_filter names rules d.provenance with h | ⟨rule, hrule, e, hmem, hfails, h⟩
  · left
    change (Rule.evaluateAll (rules.filter (!names.contains ·.name)) d.provenance).mapError _ = _
    rw [h]
    cases Rule.evaluateAll rules d.provenance <;> rfl
  · exact Or.inr ⟨rule, hrule, e, hmem, hfails, by rw [h]; rfl⟩

/-- What rules say together is what each of them says, one after the other. -/
lemma run_eq_ok {advice : List Advice} (h : l.run rules d = .ok advice) :
    ∃ each, (l.kept rules).mapM (·.evaluate d.provenance) = .ok each ∧ advice = each.flatten := by
  unfold run Rule.evaluateAll at h
  cases hall : (l.kept rules).mapM (·.evaluate d.provenance) with
  | error e => simp [hall, bind, Except.bind, Except.mapError] at h
  | ok each =>
    simp only [hall, bind, Except.bind, pure, Except.pure, Except.mapError, Except.ok.injEq] at h
    exact ⟨each, rfl, h.symm⟩

/-- The report with a blacklist, from the report without one. -/
lemma evaluate_leavingOut (l : Linter) (names : List String) (d : Document) :
    (l.leavingOut names).evaluate d = ((l.leavingOut []).evaluate d).map (·.filter (·.isKept names)) ∨
      ∃ rule seen e, (l.leavingOut []).LooksAt d rule seen ∧ rule.name ∈ names ∧
        rule.evaluate seen.provenance = .error e ∧ (l.leavingOut []).evaluate d = .error (.message e) := by
  have hcleaner : (l.leavingOut names).cleaner = (l.leavingOut []).cleaner := rfl
  have hclean : (l.leavingOut names).clean d = (l.leavingOut []).clean d := rfl
  have hrules : (l.leavingOut names).rules = (l.leavingOut []).rules := rfl
  have hcleaned : (l.leavingOut names).cleanedRules = (l.leavingOut []).cleanedRules := rfl
  unfold evaluate
  rw [hcleaner, hclean, hrules, hcleaned]
  rcases l.run_leavingOut names (l.leavingOut []).rules ((l.leavingOut []).cleaner.cleanComments d) with
    hearly | ⟨rule, hrule, e, hmem, hfails, hearly⟩
  · rw [hearly]
    cases (l.leavingOut []).run (l.leavingOut []).rules ((l.leavingOut []).cleaner.cleanComments d) with
    | error e => exact Or.inl rfl
    | ok early =>
      cases hseen : (l.leavingOut []).clean d with
      | error e => exact Or.inl rfl
      | ok seen =>
        simp only [bind, Except.bind, Except.map]
        split
        · exact Or.inl rfl
        · rcases l.run_leavingOut names (l.leavingOut []).cleanedRules seen with
            hlate | ⟨rule, hrule, e, hmem, hfails, hlate⟩
          · rw [hlate]
            left
            cases (l.leavingOut []).run (l.leavingOut []).cleanedRules seen with
            | error e => rfl
            | ok late =>
              simp only [pure, Except.pure, Except.map, Advice.filter_mergeSort, List.filter_append]
          · right
            exact ⟨rule, seen, e, .cleaned hrule hseen, hmem, hfails, by rw [hlate]⟩
  · right
    exact ⟨rule, _, e, .decommented hrule, hmem, hfails, by rw [hearly]; rfl⟩

end Linter

/-- **A blacklist filters the report.**  Whatever the rules and the document, the report with a blacklist is the
report without one, less the advice of the rules on it, and fails with the same error if that one fails; unless the
latter fails because of the message of a rule on the blacklist.  A report is sorted, and is made of what the rules say
that are kept: some about the document without its comments, and the others about the cleaned document. -/
theorem evaluate_blacklist (l : Linter) (names : List String) (d : Document) :
    ((l.leavingOut names).evaluate d =
        ((l.leavingOut []).evaluate d).map (·.filter fun a => !names.contains a.rule.name) ∨
      ∃ rule seen e, (l.leavingOut []).LooksAt d rule seen ∧ rule.name ∈ names ∧
        rule.evaluate seen.provenance = .error e ∧ (l.leavingOut []).evaluate d = .error (.message e)) ∧
    ∀ report, (l.leavingOut names).evaluate d = .ok report →
      report.Pairwise (fun a b => a.le b = true) ∧
      ∃ cleaned early late, l.clean d = .ok cleaned ∧
        (l.rules.filter (!names.contains ·.name)).mapM
            (·.evaluate (l.cleaner.cleanComments d).provenance) = .ok early ∧
        (l.cleanedRules.filter (!names.contains ·.name)).mapM (·.evaluate cleaned.provenance) = .ok late ∧
        report.Perm (early.flatten ++ late.flatten) := by
  refine ⟨l.evaluate_leavingOut names d, fun report hreport => ?_⟩
  obtain ⟨_, cleaned, _, hearly, hclean, hlate, rfl⟩ := Linter.evaluate_eq_ok hreport
  obtain ⟨early, heach, rfl⟩ := Linter.run_eq_ok hearly
  obtain ⟨late, hother, rfl⟩ := Linter.run_eq_ok hlate
  exact ⟨List.pairwise_mergeSort Advice.le_trans Advice.le_total _,
    cleaned, early, late, hclean, heach, hother, List.mergeSort_perm _ _⟩

/-- A linter with one rule, whose message refers to a group by a number of too many digits. -/
def Linter.overlong : Linter :=
  { cleaner := .keep
    rules := [.regex (⟨"letter", .ofSource "a" Pattern.noFlags, '$' :: List.replicate 4301 '1', none, none⟩)]
    cleanedRules := []
    blacklist := [] }

/-- A rule on the blacklist is not run, so an error of its message does not come up. -/
theorem failing_message_breaks_blacklist :
    (Linter.overlong.leavingOut ["letter"]).evaluate (.ofLines ['a'] "") = .ok [] ∧
    (Linter.overlong.leavingOut []).evaluate (.ofLines ['a'] "") = .error (.message ⟨4301⟩) := by
  decide +kernel

end MarkupLint
