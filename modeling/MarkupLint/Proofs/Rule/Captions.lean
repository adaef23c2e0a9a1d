import Mathlib.Data.List.Infix
import MarkupLint.Proofs.Lines.Split
import MarkupLint.Rule.Figures

/-!
# Captions and the braces around them

A caption on a line is written `\caption`, an opening brace, the text of the caption, in which braces are nested, and
a closing brace.  What the scan of a line knows is read off the characters that it has passed: how many braces they
leave open (`balance`), and whether they end in a period (`endsInPeriod`).

* `evaluate_judges_captions`: a caption without a period at its end is reported, from its backslash to its closing
  brace, whatever follows.  One with a period is not reported as long as what follows it is `Harmless`;
* `label_breaks_caption`: after a caption with a period the scan goes on, so that the braces of a label on the same
  line are taken for the end of the caption.
-/

namespace MarkupLint

namespace Text

variable {piece before more : Text}

/-- A piece whose first character is not in the rest of it does not overlap itself, so that it is found where it is
put after a text without it. -/
lemma find?_append_piece {c : Char} {tail : Text} (hc : c ∉ tail) (h : before.has (c :: tail) = false) :
    find? (c :: tail) (before ++ c :: tail) = some before.length := by
  induction before with
  | nil => exact find?_self _
  | cons d before ih =>
    have hnone : find? (c :: tail) (d :: before) = none := by simpa [has] using h
    rw [find?_cons] at hnone
    split at hnone
    · cases hnone
    · next hpre =>
      have hrest : has before (c :: tail) = false := by simpa [has] using hnone
      rw [List.cons_append, find?_cons, if_neg, ih hrest]
      · rfl
      · intro hearly
        rw [← List.cons_append] at hearly
        rcases Nat.le_total (c :: tail).length (d :: before).length with hle | hle
        · exact hpre (List.prefix_of_prefix_length_le hearly (List.prefix_append _ _) hle)
        · -- the piece goes on where it is put, with its first character
          obtain ⟨between, hbetween⟩ :=
            List.prefix_of_prefix_length_le (List.prefix_append (d :: before) (c :: tail)) hearly hle
          obtain ⟨rfl, rfl⟩ : d = c ∧ before ++ between = tail := by simpa using hbetween
          have hmore : between <+: d :: (before ++ between) :=
            (List.prefix_append_right_inj (d :: before)).1 hearly
          cases between with
          | nil =>
            rw [List.append_nil] at hpre
            exact hpre List.prefix_rfl
          | cons e between =>
            obtain rfl : e = d := (List.cons_prefix_cons.1 hmore).1
            simp at hc

end Text

namespace Captions

/-! ## What the scan knows -/

/-- The number of braces that a text leaves open; it is negative where more are closed. -/
def balance (text : Text) : Int := (text.count '{' : Int) - text.count '}'

/-- Whether the last character other than a space is a period. -/
def endsInPeriod (text : Text) : Bool := (text.reverse.dropWhile (· == ' ')).head? == some '.'

/-- Braces are as many on both sides, and none closes what is not open. -/
structure Nested (body : Text) : Prop where
  balance_eq : balance body = 0
  balance_nonneg : ∀ before, before <+: body → 0 ≤ balance before

instance (body : Text) : Decidable (Nested body) :=
  decidable_of_iff (balance body = 0 ∧ ∀ before ∈ body.inits, 0 ≤ balance before)
    ⟨fun h => ⟨h.1, fun before hbefore => h.2 before (List.mem_inits before body |>.2 hbefore)⟩,
      fun h => ⟨h.1, fun before hbefore => h.2 before (List.mem_inits before body |>.1 hbefore)⟩⟩

/-- No brace in the text closes a group that does not end in a period, and leaves nothing open. -/
def Harmless (text : Text) : Prop :=
  ∀ group more, text = group ++ '}' :: more → balance group = 1 → endsInPeriod group = true

variable {done text rest : Text} {c : Char} {i : Nat}

lemma balance_append (done text : Text) : balance (done ++ text) = balance done + balance text := by
  simp only [balance, List.count_append]
  omega

lemma endsInPeriod_concat (done : Text) (c : Char) :
    endsInPeriod (done ++ [c]) = if c = ' ' then endsInPeriod done else c == '.' := by
  unfold endsInPeriod
  rw [List.reverse_append, List.reverse_singleton, List.singleton_append, List.dropWhile_cons]
  by_cases hc : c = ' '
  · simp [hc]
  · simp [hc]

/-- What comes before a character that is neither a space nor a period does not count. -/
lemma endsInPeriod_append_cons (hspace : c ≠ ' ') (hperiod : c ≠ '.') (done text : Text) :
    endsInPeriod (done ++ c :: text) = endsInPeriod text := by
  induction text using List.reverseRecOn with
  | nil =>
    rw [endsInPeriod_concat, if_neg hspace, beq_eq_false_iff_ne.2 hperiod]
    rfl
  | append_singleton text e ih =>
    rw [← List.cons_append, ← List.append_assoc, endsInPeriod_concat, endsInPeriod_concat, ih]

/-- **One step of the scan.**  It stops at a brace that closes the only open one with no period before it. -/
lemma openEnd?_cons (done : Text) (i : Nat) (c : Char) (rest : Text) :
    openEnd? (balance done) (endsInPeriod done) (i + done.length) (c :: rest) =
      if c = '}' ∧ balance done = 1 ∧ endsInPeriod done = false then some (i + done.length)
      else openEnd? (balance (done ++ [c])) (endsInPeriod (done ++ [c])) (i + (done ++ [c]).length) rest := by
  have hbalance : balance (done ++ [c]) = balance done + balance [c] := balance_append _ _
  have hlength : i + (done ++ [c]).length = i + done.length + 1 := by
    rw [List.length_append, List.length_singleton]
    omega
  rw [openEnd?, hbalance, endsInPeriod_concat, hlength]
  by_cases hopen : c = '{'
  · subst hopen
    rw [if_pos rfl]
    simp [balance]
  · by_cases hclose : c = '}'
    · subst hclose
      have hlevel : balance done - 1 = 0 ↔ balance done = 1 := by omega
      simp [balance, Int.sub_eq_add_neg] at hlevel ⊢
      simp [hlevel]
    · by_cases hperiod : c = '.'
      · subst hperiod
        simp [balance]
      · have hzero : balance [c] = 0 := by simp [balance, hopen, hclose]
        rw [if_neg hopen, if_neg hclose, if_neg hperiod, if_neg (fun h => hclose h.1), hzero, Int.add_zero]
        by_cases hspace : c = ' '
        · simp [hspace]
        · simp [hspace, beq_eq_false_iff_ne.2 hspace, beq_eq_false_iff_ne.2 hperiod]

/-- The scan passes what closes no brace but those that it opens itself. -/
lemma openEnd?_append (h : ∀ before, before <+: text → 0 < balance (done ++ before)) (i : Nat) (rest : Text) :
    openEnd? (balance done) (endsInPeriod done) (i + done.length) (text ++ rest) =
      openEnd? (balance (done ++ text)) (endsInPeriod (done ++ text)) (i + (done ++ text).length) rest := by
  induction text generalizing done with
  | nil => simp
  | cons c text ih =>
    have hnext : 0 < balance (done ++ [c]) := h [c] (List.prefix_append [c] text)
    have happend : ∀ before, done ++ c :: before = done ++ [c] ++ before := by simp
    rw [List.cons_append, openEnd?_cons, if_neg, happend text]
    · refine ih fun before hbefore => ?_
      rw [← happend]
      exact h (c :: before) (List.cons_prefix_cons.2 ⟨rfl, hbefore⟩)
    · rintro ⟨rfl, hone, -⟩
      rw [balance_append, hone] at hnext
      exact absurd hnext (by decide)

/-- **Where the scan finds nothing.** -/
lemma openEnd?_eq_none_iff (done : Text) (i : Nat) (text : Text) :
    openEnd? (balance done) (endsInPeriod done) (i + done.length) text = none ↔
      ∀ group more, text = group ++ '}' :: more → balance (done ++ group) = 1 →
        endsInPeriod (done ++ group) = true := by
  induction text generalizing done with
  | nil => simp [openEnd?]
  | cons c text ih =>
    rw [openEnd?_cons]
    split
    · next hstop =>
      obtain ⟨rfl, hone, hperiod⟩ := hstop
      refine iff_of_false (by simp) fun h => ?_
      have := h [] text rfl (by simpa using hone)
      simp [hperiod] at this
    · next hgo =>
      rw [ih]
      constructor
      · intro h group more htext hone
        cases group with
        | nil =>
          -- the scan would have stopped here
          obtain ⟨rfl, rfl⟩ : c = '}' ∧ text = more := by simpa using htext
          rw [List.append_nil] at hone ⊢
          by_contra hperiod
          exact hgo ⟨rfl, hone, by simpa using hperiod⟩
        | cons d group =>
          obtain ⟨rfl, rfl⟩ : c = d ∧ text = group ++ '}' :: more := by simpa using htext
          have := h group more rfl (by simpa using hone)
          simpa using this
      · intro h group more htext hone
        have := h (c :: group) more (by simp [htext]) (by simpa using hone)
        simpa using this

/-- After a brace that leaves nothing open, only what comes later counts. -/
lemma openEnd?_eq_none_iff_harmless (hclosed : balance (done ++ ['}']) = 0) (i : Nat) (rest : Text) :
    openEnd? (balance (done ++ ['}'])) (endsInPeriod (done ++ ['}'])) (i + (done ++ ['}']).length) rest = none ↔
      Harmless rest := by
  have hbalance : ∀ group, balance (done ++ ['}'] ++ group) = balance group := by
    intro group
    rw [balance_append, hclosed, Int.zero_add]
  have hperiod : ∀ group, endsInPeriod (done ++ ['}'] ++ group) = endsInPeriod group := by
    intro group
    rw [List.append_assoc, List.singleton_append]
    exact endsInPeriod_append_cons (by decide) (by decide) done group
  rw [openEnd?_eq_none_iff]
  simp only [hbalance, hperiod, Harmless]

/-! ## The caption on a line -/

/-- The advice about one line. -/
def adviceAbout (v : Provenance) (line : Line) : List Advice :=
  (openCaption? line).toList.map fun r => v.advise info r "A caption should end with a period".toList []

lemma evaluate_eq_flatMap (v : Provenance) : evaluate v = v.document.lines.flatMap (adviceAbout v) := by
  unfold evaluate
  induction v.document.lines with
  | nil => rfl
  | cons line lines ih =>
    rw [List.filterMap_cons, List.flatMap_cons, ← ih, adviceAbout]
    cases openCaption? line <;> rfl

variable {before body : Text} {line : Line}

/-- A caption is judged by the scan of what follows its backslash. -/
lemma openCaption?_eq (hline : line.text = before ++ "\\caption\x7b".toList ++ body ++ '}' :: rest)
    (hbefore : before.has "\\caption".toList = false) :
    openCaption? line =
      (openEnd? 0 false (before.length + 1) ("caption\x7b".toList ++ (body ++ '}' :: rest))).map fun stop =>
        .ofSize (line.offset + before.length) (stop + 1 - before.length) := by
  have hfind : Text.find? "\\caption".toList line.text = some before.length := by
    have hfirst : Text.find? "\\caption".toList (before ++ "\\caption".toList) = some before.length :=
      Text.find?_append_piece (by decide) hbefore
    have hsplit : line.text = before ++ "\\caption".toList ++ ('{' :: (body ++ '}' :: rest)) := by
      simp [hline]
    rw [hsplit]
    exact Text.find?_append hfirst _
  have hdrop : line.text.drop before.length = '\\' :: ("caption\x7b".toList ++ (body ++ '}' :: rest)) := by
    simp [hline]
  unfold openCaption?
  simp only [hfind, Option.bind_eq_bind, Option.bind_some, hdrop, List.drop_succ_cons, List.drop_zero]
  rw [if_neg (by simp)]
  cases openEnd? 0 false (before.length + 1) ("caption\x7b".toList ++ (body ++ '}' :: rest)) <;> rfl

/-- The scan comes to the brace that closes the caption, knowing how the caption ends. -/
lemma openEnd?_caption (h : Nested body) (i : Nat) (rest : Text) :
    openEnd? 0 false i ("caption\x7b".toList ++ (body ++ '}' :: rest)) =
      openEnd? (balance ("caption\x7b".toList ++ body)) (endsInPeriod ("caption\x7b".toList ++ body))
        (i + ("caption\x7b".toList ++ body).length) ('}' :: rest) := by
  have hopened : balance "caption\x7b".toList = 1 := by decide
  have hpass : ∀ within, within <+: body → 0 < balance ("caption\x7b".toList ++ within) := by
    intro within hwithin
    have := h.balance_nonneg within hwithin
    rw [balance_append]
    omega
  rw [← openEnd?_append hpass]
  -- the letters of the command and the opening brace
  simp [openEnd?, balance, endsInPeriod]

/-- **A caption is judged by its own text**, unless it ends in a period and what follows it on its line is not
harmless.  A caption without a period is reported from its backslash to the brace that closes it, whatever follows. -/
theorem evaluate_judges_captions (v : Provenance) :
    evaluate v = v.document.lines.flatMap (adviceAbout v) ∧
    ∀ line ∈ v.document.lines, ∀ before body rest : Text,
      line.text = before ++ "\\caption\x7b".toList ++ body ++ '}' :: rest →
      before.has "\\caption".toList = false → Nested body →
      (endsInPeriod body = false →
        adviceAbout v line =
          [v.advise info
            (.ofSize (line.offset + before.length) ("\\caption\x7b".toList.length + body.length + 1))
            "A caption should end with a period".toList []]) ∧
      (endsInPeriod body = true → (adviceAbout v line = [] ↔ Harmless rest)) := by
  refine ⟨evaluate_eq_flatMap v, fun line _ before body rest hline hbefore hbody => ?_⟩
  have hbalance : balance ("caption\x7b".toList ++ body) = 1 := by
    rw [balance_append, hbody.balance_eq]
    decide
  have hperiod : endsInPeriod ("caption\x7b".toList ++ body) = endsInPeriod body :=
    endsInPeriod_append_cons (by decide) (by decide) "caption".toList body
  have hscan := openEnd?_caption hbody (before.length + 1) rest
  rw [openEnd?_cons, hbalance, hperiod] at hscan
  unfold adviceAbout
  rw [openCaption?_eq hline hbefore, hscan]
  constructor
  · intro hend
    rw [if_pos ⟨rfl, rfl, hend⟩]
    have hsize : before.length + 1 + ("caption\x7b".toList ++ body).length + 1 - before.length =
        "\\caption\x7b".toList.length + body.length + 1 := by
      simp
      omega
    rw [Option.map_some, hsize]
    rfl
  · intro hend
    rw [if_neg (by simp [hend])]
    have hclosed : balance ("caption\x7b".toList ++ body ++ ['}']) = 0 := by
      rw [balance_append, hbalance]
      decide
    rw [← openEnd?_eq_none_iff_harmless hclosed (before.length + 1)]
    simp

/-- A caption with a command inside, and a label after it. -/
def nestedCaption : Document :=
  .ofLines "A \\caption\x7bHello \\textbf\x7bworld.\x7d \x7d\\label\x7ba\x7d".toList ""

theorem nestedCaption_reported :
    evaluate nestedCaption.provenance =
      [nestedCaption.provenance.advise info (.ofSize 2 32) "A caption should end with a period".toList []] := by
  have hlines : nestedCaption.lines = [⟨nestedCaption.current, 0⟩] := by decide
  obtain ⟨hevaluate, hjudges⟩ := evaluate_judges_captions nestedCaption.provenance
  have hcaption := hjudges ⟨nestedCaption.current, 0⟩ (by rw [Document.provenance, hlines]; simp) "A ".toList
    "Hello \\textbf\x7bworld.\x7d ".toList "\\label\x7ba\x7d".toList rfl (by decide) (by decide)
  rw [hevaluate, Document.provenance, hlines, List.flatMap_singleton]
  exact hcaption.1 (by decide)

/-- A caption with a period at its end, and a label after it. -/
def labelledCaption : Document := .ofLines "\\caption\x7bA plot.\x7d\\label\x7bfig:a\x7d".toList ""

/-- **The scan does not stop at the end of a caption with a period.**  The braces of the label are taken for those of
the caption. -/
theorem label_breaks_caption :
    ¬ ∀ line ∈ labelledCaption.lines, ∀ before body rest : Text,
      line.text = before ++ "\\caption\x7b".toList ++ body ++ '}' :: rest →
      before.has "\\caption".toList = false → Nested body → endsInPeriod body = true →
      adviceAbout labelledCaption.provenance line = [] := by
  intro h
  have hnone := h ⟨labelledCaption.current, 0⟩ (by decide) [] "A plot.".toList "\\label\x7bfig:a\x7d".toList rfl
    (by decide) (by decide) (by decide)
  exact absurd hnone (by decide)

end Captions

end MarkupLint
