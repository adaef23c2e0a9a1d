import MarkupLint.Proofs.Clean.Descent
import MarkupLint.Proofs.Clean.Patterns
import MarkupLint.Proofs.Edit.Sparing

/-!
# Cleaned text has no braces and no blank lines

The last edit of the markup erases all braces if they are not too many.  So it has to be shown that there are never
more of them than the document had at first:

* `spares_of_mem_markupEdits`: no edit fails, and none makes more braces than there were;
* `brace_erased`: erasing braces leaves the other characters;
* `removeBlankLines_lines`: the lines that are left in the end are not blank;
* `clean_braceless`: all together, whatever the settings of the cleaner are.
-/

namespace MarkupLint

namespace Text

/-- Whether a character is a brace. -/
def isBrace (c : Char) : Bool := c == '{' || c == '}'

/-- A letter with an accent is no brace, unless the letter is. -/
lemma countP_accented_le (sign letter : Char) : (accented sign letter).countP isBrace ≤ [letter].countP isBrace := by
  have hbraceless : (accents.all fun a => !isBrace a.mark && a.composed.toList.all (!isBrace ·)) = true := by
    decide +kernel
  unfold accented
  split
  · exact Nat.le_refl _
  · next a ha =>
    obtain ⟨hmark, hcomposed⟩ : isBrace a.mark = false ∧ ∀ c ∈ a.composed.toList, isBrace c = false := by
      simpa using List.all_eq_true.1 hbraceless a (List.mem_of_find?_eq_some ha)
    split
    · next c hc =>
      obtain ⟨_, _, hzip, -⟩ := List.lookup_eq_some_iff.1 hc
      have hmem : (letter, c) ∈ a.letters.toList.zip a.composed.toList := by
        rw [hzip]
        exact List.mem_append_right _ (List.mem_cons_self ..)
      rw [List.countP_singleton, hcomposed c (List.of_mem_zip hmem).2]
      exact Nat.zero_le _
    · have hpair : [letter, a.mark] = [letter] ++ [a.mark] := rfl
      have hnone : [a.mark].countP isBrace = 0 := by rw [List.countP_singleton, hmark, if_neg (by simp)]
      rw [hpair, List.countP_append, hnone, Nat.add_zero]

end Text

namespace Latex

open Pattern
open Text (isBrace)

/-! ## Markup -/

lemma accent_sparing : Edit.Sparing isBrace accentCommand (.compute fun m => .ok (accentLetter m)) := by
  intro s first m hm
  have hplain : accentCommand.node.isPlain = true := by decide +kernel
  refine ⟨_, rfl, ?_⟩
  unfold accentLetter
  split
  · next sign letter hsign hletter =>
    refine Nat.le_trans (Text.countP_accented_le sign letter) ?_
    rw [← hletter]
    exact search_group_countP_le hplain hm 2
  · exact Nat.zero_le _

lemma markup_sparing {row : String × String} (hrow : row ∈ markup) :
    Edit.Sparing isBrace (.ofSource row.1 multiline) (.template row.2.toList) := by
  have hpoor : ∀ row ∈ markup, ((Pattern.ofSource row.1 multiline).readTemplate row.2.toList).toOption.any
      (Edit.arePoor isBrace (.ofSource row.1 multiline)) = true := by
    decide +kernel
  have hrow := hpoor row hrow
  cases hread : (Pattern.ofSource row.1 multiline).readTemplate row.2.toList with
  | error err =>
    rw [hread] at hrow
    cases hrow
  | ok pieces =>
    rw [hread] at hrow
    exact Edit.sparing_template hread hrow

lemma spares_erase (p : Pattern) : (replaceAll p "").Spares isBrace := by
  have hread : p.readTemplate [] = .ok [] := rfl
  exact (Edit.sparing_template hread rfl).spares true 0

/-- **No edit of the markup fails, and none makes braces.** -/
theorem spares_of_mem_markupEdits (l : Latex) : ∀ e ∈ l.markupEdits, e.Spares isBrace := by
  intro e he
  simp only [markupEdits, List.mem_append, List.mem_map, List.mem_cons] at he
  rcases he with (((rfl | he) | ⟨row, hrow, rfl⟩) | he) | rfl | rfl | he
  · exact accent_sparing.spares true 0
  · cases he
  · exact (markup_sparing hrow).spares true 0
  · split at he
    · cases he
    · obtain rfl := List.mem_singleton.1 he
      exact spares_erase _
  · exact spares_erase _
  · exact spares_erase _
  · cases he

/-! ## Braces -/

lemma brace_matchAt_eq (before after : Text) :
    brace.matchAt (before ++ after).toArray before.length =
      if after.head?.any isBrace then
        some (foundAt (before ++ after).toArray before.length ⟨before.length + 1, []⟩)
      else none := by
  have hgroups : brace.groups = 0 := by decide +kernel
  have hnode : brace.node = .char ⟨[.char '{'.toNat, .char '}'.toNat], false, .unicode, false⟩ := by decide +kernel
  have hholds : CharClass.holds ⟨[.char '{'.toNat, .char '}'.toNat], false, .unicode, false⟩ = isBrace := by
    funext c
    rw [Bool.eq_iff_iff]
    simp [CharClass.holds, ClassItem.holds, isBrace, ← Char.toNat_inj]
  unfold matchAt
  rw [hgroups, hnode]
  simp only [Node.run, Place.start, holdsAt_append, hholds]
  split <;> rfl

/-- **Erasing braces leaves the other characters**, if the braces are not too many. -/
theorem brace_erased {limit : Nat} {after : Text} (before : Text) (h : after.countP isBrace ≤ limit) :
    brace.erased limit before after = after.filter (!isBrace ·) := by
  induction after generalizing before limit with
  | nil =>
    refine erased_nil ?_
    have hend := brace_matchAt_eq before []
    rwa [List.append_nil] at hend
  | cons c after ih =>
    have hmatch := brace_matchAt_eq before (c :: after)
    cases hc : isBrace c with
    | false =>
      rw [List.countP_cons_of_neg (by simp [hc])] at h
      rw [List.head?_cons, Option.any_some, hc, if_neg (by simp)] at hmatch
      rw [erased_cons hmatch, ih _ h, List.filter_cons_of_pos (by simp [hc])]
    | true =>
      rw [List.countP_cons_of_pos hc] at h
      rw [List.head?_cons, Option.any_some, hc, if_pos rfl] at hmatch
      obtain ⟨limit, rfl⟩ : ∃ n, limit = n + 1 := ⟨limit - 1, by omega⟩
      have herased : brace.erased (limit + 1) before ([c] ++ after) = brace.erased limit (before ++ [c]) after :=
        erased_append (by simp) hmatch rfl
      rw [List.singleton_append] at herased
      rw [herased, ih _ (by omega), List.filter_cons_of_neg (by simp [hc])]

/-! ## The passes of cleaning -/

lemma countP_cleanComments_le (d : Document) : (cleanComments d).current.countP isBrace ≤ d.current.countP isBrace :=
  Nat.le_trans (Document.countP_revise_le (spares_erase trailingComment) _) (d.countP_sweep_le judgeComment false)

lemma countP_removeEnvironments_le (l : Latex) (d : Document) :
    (l.removeEnvironments d).2.current.countP isBrace ≤ d.current.countP isBrace :=
  d.countP_sweep_le (judgeEnvironment l.opening l.closing) ⟨!l.ignorePreamble, 0⟩

lemma countP_removeBlankLines_le (d : Document) :
    (removeBlankLines d).current.countP isBrace ≤ d.current.countP isBrace :=
  d.countP_sweep_le (fun (_ : Unit) line => (Text.allBlank line, ())) ()

lemma removeBlankLines_lines (d : Document) :
    (removeBlankLines d).current = [] ∨
      ∀ line ∈ (removeBlankLines d).current.lineTexts d.newline, ∃ c ∈ line, Text.isBlank c = false := by
  refine (d.sweep_lines (fun (_ : Unit) line => (Text.allBlank line, ())) ()).imp_right fun h line hline => ?_
  obtain ⟨-, hblank⟩ := h line hline
  simpa using List.all_eq_false.1 hblank

/-- The markup leaves no braces. -/
lemma countP_foldl_markupEdits (l : Latex) {d : Document} (h : d.current.countP isBrace ≤ Edit.maxMatches) :
    (l.markupEdits.foldl Document.revise d).current.countP isBrace = 0 := by
  obtain ⟨earlier, hedits⟩ : ∃ earlier, l.markupEdits = earlier ++ [replaceAll brace ""] := by
    have htwo : [replaceAll commandOpener "", replaceAll brace ""] =
        [replaceAll commandOpener ""] ++ [replaceAll brace ""] := rfl
    rw [markupEdits, htwo, ← List.append_assoc]
    exact ⟨_, rfl⟩
  have hspares := l.spares_of_mem_markupEdits
  rw [hedits] at hspares ⊢
  have hearlier := Document.countP_foldl_revise_le (fun e he => hspares e (List.mem_append_left _ he)) d
  have herase := (earlier.foldl Document.revise d).revise_erase brace
  rw [brace_erased [] (Nat.le_trans hearlier h)] at herase
  have hlast : (earlier ++ [replaceAll brace ""]).foldl Document.revise d =
      (earlier.foldl Document.revise d).revise (.replace brace (.template []) true 0) := List.foldl_append
  rw [hlast, herase, List.countP_eq_zero]
  intro c hc
  simpa using (List.mem_filter.1 hc).2

/-- The edits of a cleaner, besides those that remove lines. -/
def edits (l : Latex) : List Edit := replaceAll trailingComment "" :: l.markupEdits

/-- **Cleaned text has no braces and no blank lines.**  Whatever names the settings have, the patterns made of them can
be read, and no edit fails.  If the document has not too many braces, none is left, and what is left is empty or made
of lines that are not blank. -/
theorem clean_braceless (l : Latex) (d : Document) (hbraces : d.current.countP isBrace ≤ 10000) :
    (∀ p ∈ [l.opening, l.closing, macroPattern l.macros], compile p.source noFlags = .ok p) ∧
    (∀ e ∈ l.edits, ∀ text, ∃ result, e.apply text = .ok result) ∧
    '{' ∉ (l.clean d).current ∧ '}' ∉ (l.clean d).current ∧
    ((l.clean d).current = [] ∨
      ∀ line ∈ (l.clean d).current.lineTexts d.newline, ∃ c ∈ line, Text.isBlank c = false) := by
  have hspares : ∀ e ∈ l.edits, e.Spares isBrace :=
    List.forall_mem_cons.2 ⟨spares_erase trailingComment, l.spares_of_mem_markupEdits⟩
  generalize hedited : l.markupEdits.foldl Document.revise (l.removeEnvironments (cleanComments d)).2 = edited
  have hclean : l.clean d = removeBlankLines edited := by rw [← hedited]; rfl
  have hbraceless : edited.current.countP isBrace = 0 := by
    rw [← hedited]
    refine l.countP_foldl_markupEdits (Nat.le_trans (l.countP_removeEnvironments_le _) ?_)
    exact Nat.le_trans (countP_cleanComments_le d) hbraces
  have hnewline : edited.newline = d.newline := by
    rw [← hedited]
    have hbefore := (cleanComments_descends d).trans (l.removeEnvironments_descends (cleanComments d))
    exact (hbefore.trans (Document.foldl_revise_descends _ l.isShift_of_mem_markupEdits)).newline_eq
  have hnone : (removeBlankLines edited).current.countP isBrace = 0 :=
    Nat.le_zero.1 (hbraceless ▸ countP_removeBlankLines_le edited)
  rw [hclean]
  rw [List.countP_eq_zero] at hnone
  refine ⟨?_, fun e he text => ?_, ?_, ?_, ?_⟩
  · rw [List.forall_mem_cons, List.forall_mem_cons, List.forall_mem_singleton]
    exact ⟨compile_environmentPattern (by decide) _, compile_environmentPattern (by decide) _, compile_macroPattern _⟩
  · obtain ⟨result, hresult, -⟩ := hspares e he text
    exact ⟨result, hresult⟩
  · intro hmem
    exact hnone _ hmem rfl
  · intro hmem
    exact hnone _ hmem rfl
  · rw [← hnewline]
    exact removeBlankLines_lines edited

/-- A cleaner with an environment and a command of its own, the names of which are no words. -/
def ownNames : Latex := ⟨false, ["a+b".toList], ["(x".toList]⟩

/-- Text with braces around a word, a part and an environment. -/
def bracedText : Document :=
  .ofLines "A \\emph\x7bB\x7d \x7bC\x7d.\n\\begin\x7ba+b\x7d\nD\n\\end\x7ba+b\x7d\n\x7b \x7d\\(x\x7bE\x7d".toList ""

theorem bracedText_braceless :
    '{' ∈ bracedText.current ∧ bracedText.current.countP isBrace ≤ 10000 ∧
      '{' ∉ (ownNames.clean bracedText).current ∧ '}' ∉ (ownNames.clean bracedText).current := by
  have hbraces : bracedText.current.countP isBrace ≤ 10000 := by decide +kernel
  obtain ⟨-, -, hopening, hclosing, -⟩ := clean_braceless ownNames bracedText hbraces
  exact ⟨by decide +kernel, hbraces, hopening, hclosing⟩

end Latex

end MarkupLint
