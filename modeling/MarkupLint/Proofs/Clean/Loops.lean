import MarkupLint.Clean.Markdown
import MarkupLint.Proofs.Clean.Environments
import MarkupLint.Proofs.Lines.Positions

/-!
# The loops of cleaning

Cleaning removes lines in loops that look at the document as it is at that moment: a turn of such a loop looks
up the line of a number, and either removes it and keeps the number, or goes on to the next number
(`Stand.turn?`).  A loop has come to its end when the document is empty or has no line of that number.

* `sweep_ends`: the loop comes to its end after at most as many turns as the document has lines, and leaves
  what `Document.sweep` gives, which never looks up a line again that is ahead already;
* `line_loops_filter`: each of the five loops of cleaning comes to its end, and what it leaves is made of the lines
  that survive when its state is carried once through the lines of the document as it was.
-/

namespace MarkupLint

namespace Text

variable {newline line : Text} {done later : List Text}

lemma line?_join (hne : newline ≠ []) (h : AreLines newline (done ++ line :: later)) :
    (join newline (done ++ line :: later)).line? newline done.length =
      some ⟨line, (closed newline done).length⟩ := by
  rw [← getElem?_lines, lines_join hne h, layout_append, Nat.zero_add,
    List.getElem?_append_right (Nat.le_of_eq (length_layout ..)), length_layout, Nat.sub_self, layout]
  rfl

lemma line?_join_length (hne : newline ≠ []) (h : AreLines newline done) :
    (join newline done).line? newline done.length = none := by
  rw [← getElem?_lines, lines_join hne h, List.getElem?_eq_none_iff]
  exact Nat.le_of_eq (length_layout ..)

end Text

namespace Document

open Text (AreLines closed join layout lineTexts)

/-! ## Turns of a loop -/

/-- Where a loop stands: the number of the line to look at, the state of the judge, and the document. -/
structure Stand (σ : Type) where
  /-- The number of the line. -/
  number : Nat
  /-- The state of the judge. -/
  state : σ
  /-- The document as it is now. -/
  document : Document

variable {σ : Type} {judge : σ → Text → Bool × σ} {d : Document} {s : σ} {todo : List Text}

/-- One turn of a loop.  There is none when the document is empty or has no line of that number. -/
def Stand.turn? (judge : σ → Text → Bool × σ) (w : Stand σ) : Option (Stand σ) :=
  if w.document.current.isEmpty then none
  else
    (w.document.current.line? w.document.newline w.number).map fun line =>
      let (remove, s) := judge w.state line.text
      if remove then ⟨w.number, s, w.document.removeLine w.number⟩
      else ⟨w.number + 1, s, w.document⟩

/-- The loop comes from one stand to its end at another one in a number of turns. -/
inductive Ends (judge : σ → Text → Bool × σ) : Nat → Stand σ → Stand σ → Prop
  /-- There is no turn to make. -/
  | stop {w : Stand σ} (h : w.turn? judge = none) : Ends judge 0 w w
  /-- A turn is made, and the loop goes on. -/
  | turn {turns : Nat} {w next last : Stand σ} (h : w.turn? judge = some next)
      (rest : Ends judge turns next last) : Ends judge (turns + 1) w last

/-- A loop on its way: the document is made of the lines passed and the lines ahead.  What the lines ahead
bound is the number of turns, as each turn removes the first of them or passes it. -/
lemma sweepFrom_ends (done : List Text) {ahead : List Line} (hcur : d.current = join d.newline (done ++ todo))
    (hlines : done ++ todo ≠ [] → AreLines d.newline (done ++ todo))
    (hahead : todo ≠ [] → ahead = layout d.newline.length (closed d.newline done).length todo) :
    ∃ turns ≤ todo.length, ∃ number,
      Ends judge turns ⟨done.length, s, d⟩
        ⟨number, (sweepFrom judge todo.length done.length ahead s d).1,
          (sweepFrom judge todo.length done.length ahead s d).2⟩ := by
  induction todo generalizing done ahead s d with
  | nil =>
    rw [List.append_nil] at hcur hlines
    refine ⟨0, Nat.le_refl _, done.length, ?_⟩
    rw [List.length_nil, sweepFrom]
    refine .stop ?_
    unfold Stand.turn?
    dsimp only
    split
    · rfl
    · next hnonempty =>
      have hdone : done ≠ [] := by
        rintro rfl
        exact hnonempty (by rw [hcur]; rfl)
      rw [hcur, Text.line?_join_length d.newline_ne_nil (hlines hdone)]
      rfl
  | cons line later ih =>
    have hlines := hlines (by simp)
    rw [hahead (by simp), layout, List.length_cons, sweepFrom]
    by_cases hempty : d.current.isEmpty = true
    · refine ⟨0, Nat.zero_le _, done.length, ?_⟩
      rw [if_pos hempty]
      exact .stop (by simp [Stand.turn?, hempty])
    · have hturn : (⟨done.length, s, d⟩ : Stand σ).turn? judge =
          some (if (judge s line).1 then ⟨done.length, (judge s line).2, d.removeLine done.length⟩
            else ⟨done.length + 1, (judge s line).2, d⟩) := by
        unfold Stand.turn?
        dsimp only
        rw [if_neg hempty, hcur, Text.line?_join d.newline_ne_nil hlines]
        rfl
      rw [if_neg hempty]
      dsimp only
      split
      · -- the line goes
        next hremove =>
        rw [if_pos hremove] at hturn
        have hcur' : (d.removeLine done.length).current = join d.newline (done ++ later) := by
          rw [removeLine_current, hcur, Text.withoutLine_join d.newline_ne_nil hlines]
        have hahead' : later ≠ [] →
            (d.removeLine done.length).current.linesAt (d.removeLine done.length).newline done.length =
              layout d.newline.length (closed d.newline done).length later := by
          intro hlater
          rw [hcur', removeLine_newline]
          exact Text.linesAt_join d.newline_ne_nil (hlines.erase d.newline_ne_nil (by simp [hlater])) hlater
        obtain ⟨turns, hturns, number, hends⟩ := ih (s := (judge s line).2) done hcur'
          (fun hrest => hlines.erase d.newline_ne_nil hrest) hahead'
        exact ⟨turns + 1, Nat.succ_le_succ hturns, number, .turn hturn hends⟩
      · -- the line stays
        next hremove =>
        rw [if_neg hremove] at hturn
        have happend : done ++ line :: later = (done ++ [line]) ++ later := by simp
        rw [happend] at hcur hlines
        have hahead' : layout d.newline.length
              ((closed d.newline done).length + line.length + d.newline.length) later =
            layout d.newline.length (closed d.newline (done ++ [line])).length later := by
          simp [closed, Nat.add_assoc]
        obtain ⟨turns, hturns, number, hends⟩ := ih (s := (judge s line).2) (done ++ [line]) hcur
          (fun _ => hlines) (fun _ => hahead')
        rw [List.length_append, List.length_singleton] at hends
        exact ⟨turns + 1, Nat.succ_le_succ hturns, number, .turn hturn hends⟩

/-- **A loop comes to its end**, after at most as many turns as there are lines, and leaves what a sweep
gives. -/
theorem sweep_ends (d : Document) (judge : σ → Text → Bool × σ) (s : σ) :
    ∃ turns ≤ d.current.lineCount d.newline, ∃ number,
      Ends judge turns ⟨0, s, d⟩ ⟨number, (d.sweep judge s).1, (d.sweep judge s).2⟩ := by
  unfold sweep
  dsimp only
  rw [← Text.length_lines, Text.lines_eq_layout d.newline_ne_nil, Text.length_layout]
  exact sweepFrom_ends [] (Text.join_lineTexts d.newline_ne_nil _).symm
    (fun _ => Text.areLines_lineTexts d.newline_ne_nil _) (fun _ => rfl)

/-- **The loop is a filter.**  It comes to its end and leaves the document `left`, which is made of the lines
that the judge does not tell to remove when it sees each line of the document once, from the first to the
last. -/
structure Filters (judge : σ → Text → Bool × σ) (s : σ) (d left : Document) : Prop where
  /-- The loop ends, after at most one turn for each line. -/
  ends : ∃ turns ≤ d.current.lineCount d.newline, ∃ number state,
    Ends judge turns ⟨0, s, d⟩ ⟨number, state, left⟩
  /-- What is left is made of the lines that survive. -/
  current_eq : left.current = join d.newline (survivors judge s (d.current.lineTexts d.newline))

lemma sweep_filters (d : Document) (judge : σ → Text → Bool × σ) (s : σ) :
    Filters judge s d (d.sweep judge s).2 := by
  obtain ⟨turns, hturns, number, hends⟩ := sweep_ends d judge s
  exact ⟨⟨turns, hturns, number, _, hends⟩, sweep_current d judge s⟩

end Document

open Document (Filters)

/-- **The loops that remove lines are filters**, on every document and for every line terminator: the one that
removes comments, which knows whether it is in a comment; the one that removes environments, which knows whether the
body has begun and how many environments are open; the one that removes blank lines; and those that remove ignored
parts and blocks of code, which know whether they are in one. -/
theorem line_loops_filter (d : Document) (l : Latex) :
    Filters Latex.judgeComment false d (Latex.removeCommentLines d) ∧
    Filters (Latex.judgeEnvironment l.opening l.closing) ⟨!l.ignorePreamble, 0⟩ d (l.removeEnvironments d).2 ∧
    Filters (fun (_ : Unit) line => (line.allBlank, ())) () d (Latex.removeBlankLines d) ∧
    Filters Markdown.judgeIgnored false d (Markdown.removeIgnored d) ∧
    Filters Markdown.judgeFence false d (Markdown.removeCode d) :=
  -- each of them is the sweep of its own judge
  ⟨d.sweep_filters _ _, d.sweep_filters _ _, d.sweep_filters _ _, d.sweep_filters _ _, d.sweep_filters _ _⟩

end MarkupLint
