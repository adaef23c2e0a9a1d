import MarkupLint.Clean.Latex
import MarkupLint.Proofs.Document.Sweep
import MarkupLint.Proofs.Pattern.Span

/-!
# Environments and the lines that are removed with them

The markers of a line are the commands that open or close a removed environment, and the brackets of displayed
mathematics that no backslash escapes.  Over lines whose markers are properly nested, the lines *outside* are
those without a marker at which nothing is open.

* `removeEnvironments_eq_outside`: the lines outside are what removing environments leaves, as long as every
  line is `Level`: its opening and closing markers are as many, or it has a single marker;
* `stacked_markers_break_outside`: where two markers are stacked on a line that are closed on different
  lines, or a line break `\\[2pt]` looks like an opening bracket, it leaves other lines.
-/

namespace MarkupLint

namespace Latex

open Document (survivors)

/-! ## Markers -/

/-- What opens or closes a removed environment. -/
inductive Marker where
  | opens
  | closes
deriving DecidableEq, Repr

/-- The pattern of the commands that open a removed environment. -/
def opening (l : Latex) : Pattern := environmentPattern "begin" l.allEnvironments

/-- The pattern of the commands that close a removed environment. -/
def closing (l : Latex) : Pattern := environmentPattern "end" l.allEnvironments

/-- Whether a bracket of displayed mathematics starts at the offset `i`, not escaped by a backslash. -/
def displayAt (bracket : Char) (line : Text) (i : Nat) : Bool :=
  ['\\', bracket].isPrefixOf (line.drop i) && (line.take i).getLast? != some '\\'

/-- Whether a match of the pattern, or the bracket, starts at the offset `i`. -/
def marksAt (p : Pattern) (bracket : Char) (line : Text) (i : Nat) : Bool :=
  (p.findAll line).any (·.start == i) || displayAt bracket line i

/-- The markers of a line, in order. -/
def markers (l : Latex) (line : Text) : List Marker :=
  (List.range (line.length + 1)).flatMap fun i =>
    (if marksAt l.opening '[' line i then [.opens] else []) ++
      if marksAt l.closing ']' line i then [.closes] else []

/-- The number of environments that are open after markers, if none closes what is not open. -/
def nest : Nat → List Marker → Option Nat
  | depth, [] => some depth
  | depth, .opens :: later => nest (depth + 1) later
  | 0, .closes :: _ => none
  | depth + 1, .closes :: later => nest depth later

/-- The markers of the lines are properly nested, and all that is opened is closed. -/
def Balanced (l : Latex) (lines : List Text) : Prop := nest 0 (lines.flatMap l.markers) = some 0

instance (l : Latex) (lines : List Text) : Decidable (l.Balanced lines) :=
  inferInstanceAs (Decidable (_ = _))

/-- **The lines outside**: those without a marker at which nothing is open, in order.  Before the first of the
lines `depth` environments are open. -/
def outside (l : Latex) : Nat → List Text → List Text
  | _, [] => []
  | depth, line :: later =>
    (if depth = 0 ∧ l.markers line = [] then [line] else []) ++
      outside l ((nest depth (l.markers line)).getD 0) later

/-- The opening and the closing markers of the line are as many, or it has a single marker; and where brackets
are escaped by a backslash, a marker of their kind is on the line as well. -/
structure Level (l : Latex) (line : Text) : Prop where
  /-- The markers pair off, or there is only one. -/
  markers_even : (l.markers line).count .opens = (l.markers line).count .closes ∨
    (l.markers line).length = 1
  /-- An opening bracket is found only beside an opening marker. -/
  opens_of_bracket : line.has ['\\', '['] → .opens ∈ l.markers line
  /-- A closing bracket is found only beside a closing marker. -/
  closes_of_bracket : line.has ['\\', ']'] → .closes ∈ l.markers line

instance (l : Latex) (line : Text) : Decidable (l.Level line) :=
  decidable_of_iff (((l.markers line).count .opens = (l.markers line).count .closes ∨
      (l.markers line).length = 1) ∧ (line.has ['\\', '['] → .opens ∈ l.markers line) ∧
      (line.has ['\\', ']'] → .closes ∈ l.markers line))
    ⟨fun h => ⟨h.1, h.2.1, h.2.2⟩, fun h => ⟨h.1, h.2, h.3⟩⟩

variable {l : Latex} {line : Text} {depth after : Nat} {ms rest : List Marker}

/-! ## Nesting -/

lemma nest_append : nest depth (ms ++ rest) = (nest depth ms).bind (nest · rest) := by
  induction ms generalizing depth with
  | nil => rfl
  | cons m ms ih =>
    cases m with
    | opens => exact ih
    | closes =>
      cases depth with
      | zero => rfl
      | succ depth => exact ih

/-- What is open afterwards, and what is closed, make up what was open and what is opened. -/
lemma add_count_of_nest (h : nest depth ms = some after) :
    after + ms.count .closes = depth + ms.count .opens := by
  induction ms generalizing depth with
  | nil =>
    obtain rfl : depth = after := Option.some.inj h
    rfl
  | cons m ms ih =>
    cases m with
    | opens =>
      have := ih h
      simp only [List.count_cons, beq_self_eq_true, if_true, reduceCtorEq, beq_iff_eq, if_false]
      omega
    | closes =>
      cases depth with
      | zero => cases h
      | succ depth =>
        have := ih h
        simp only [List.count_cons, beq_self_eq_true, if_true, reduceCtorEq, beq_iff_eq, if_false]
        omega

/-! ## What the judge sees of the markers -/

lemma has_of_prefix_drop {piece text : Text} {i : Nat} (h : piece.isPrefixOf (text.drop i)) :
    text.has piece = true := by
  rw [List.isPrefixOf_iff_prefix] at h
  unfold Text.has
  induction text generalizing i with
  | nil =>
    obtain rfl : piece = [] := by simpa using h
    rfl
  | cons c text ih =>
    rw [Text.find?_cons]
    split
    · rfl
    · next hpre =>
      cases i with
      | zero => exact absurd h hpre
      | succ i => simpa using ih h

/-- The judge finds a command or a bracket on a line just when a marker of that kind starts there, unless all
it finds is a bracket that is escaped. -/
lemma occursIn_or_has_iff {p : Pattern} {bracket : Char}
    (hbracket : line.has ['\\', bracket] → ∃ i ≤ line.length, marksAt p bracket line i = true) :
    (p.occursIn line || line.has ['\\', bracket]) = true ↔
      ∃ i ≤ line.length, marksAt p bracket line i = true := by
  rw [Bool.or_eq_true]
  refine ⟨?_, ?_⟩
  · rintro (hoccurs | hhas)
    · obtain ⟨m, hm⟩ := Option.isSome_iff_exists.1 hoccurs
      have hspan := Pattern.search_span hm
      have hle := Nat.le_trans hspan.start_le_stop hspan.stop_le
      rw [List.size_toArray] at hle
      exact ⟨m.start, hle, by simp [marksAt, Pattern.findAll, Pattern.scan, hm]⟩
    · exact hbracket hhas
  · rintro ⟨i, -, hmarks⟩
    rcases (Bool.or_eq_true _ _).mp hmarks with hstarts | hdisplay
    · left
      unfold Pattern.findAll Pattern.scan at hstarts
      unfold Pattern.occursIn
      cases h : p.search line.toArray 0 with
      | none => simp [h] at hstarts
      | some m => rfl
    · exact Or.inr (has_of_prefix_drop ((Bool.and_eq_true _ _).mp hdisplay).1)

lemma opens_mem_markers :
    .opens ∈ l.markers line ↔ ∃ i ≤ line.length, marksAt l.opening '[' line i = true := by
  simp only [markers, List.mem_flatMap, List.mem_range, Nat.lt_succ_iff, List.mem_append, List.mem_ite_nil_right,
    List.mem_singleton, reduceCtorEq, and_false, and_true, or_false]

lemma closes_mem_markers :
    .closes ∈ l.markers line ↔ ∃ i ≤ line.length, marksAt l.closing ']' line i = true := by
  simp only [markers, List.mem_flatMap, List.mem_range, Nat.lt_succ_iff, List.mem_append, List.mem_ite_nil_right,
    List.mem_singleton, reduceCtorEq, and_false, and_true, false_or]

/-- What the judge makes of a level line: the number of open environments before and after it. -/
lemma Level.judge (h : l.Level line) (depth : Nat) :
    judgeEnvironment l.opening l.closing ⟨true, depth⟩ line =
      (decide (0 < depth ∨ .opens ∈ l.markers line),
        ⟨true, depth + (if .opens ∈ l.markers line then 1 else 0) -
          if .closes ∈ l.markers line then 1 else 0⟩) := by
  have hopens : (l.opening.occursIn line || line.has ['\\', '[']) = decide (.opens ∈ l.markers line) := by
    rw [Bool.eq_iff_iff, decide_eq_true_iff, opens_mem_markers]
    exact occursIn_or_has_iff fun hb => opens_mem_markers.1 (h.opens_of_bracket hb)
  have hcloses : (l.closing.occursIn line || line.has ['\\', ']']) = decide (.closes ∈ l.markers line) := by
    rw [Bool.eq_iff_iff, decide_eq_true_iff, closes_mem_markers]
    exact occursIn_or_has_iff fun hb => closes_mem_markers.1 (h.closes_of_bracket hb)
  unfold judgeEnvironment
  rw [hopens, hcloses]
  by_cases ho : Marker.opens ∈ l.markers line <;> by_cases hc : Marker.closes ∈ l.markers line <;>
    simp [ho, hc]

/-! ## The lines left -/

/-- Counting by lines is right on a level line. -/
lemma Level.nest_eq (h : l.Level line) (hnest : nest depth (l.markers line) = some after) :
    after = depth + (if .opens ∈ l.markers line then 1 else 0) -
      if .closes ∈ l.markers line then 1 else 0 := by
  have hcount := add_count_of_nest hnest
  simp only [← List.count_pos_iff]
  rcases h.markers_even with heven | hsingle
  · split <;> split <;> omega
  · -- a single marker opens or closes
    have hlen : (l.markers line).count .opens + (l.markers line).count .closes = 1 := by
      obtain ⟨m, hm⟩ := List.length_eq_one_iff.1 hsingle
      rw [hm]
      cases m <;> rfl
    split <;> split <;> omega

/-- Where nothing is open, the first marker opens. -/
lemma opens_mem_of_nest (hnest : nest 0 ms = some after) (hne : ms ≠ []) : .opens ∈ ms := by
  cases ms with
  | nil => exact absurd rfl hne
  | cons m ms =>
    cases m with
    | opens => exact List.mem_cons_self
    | closes => cases hnest

lemma survivors_eq_outside {lines : List Text} (hlevel : ∀ line ∈ lines, l.Level line)
    (hnest : nest depth (lines.flatMap l.markers) = some after) :
    survivors (judgeEnvironment l.opening l.closing) ⟨true, depth⟩ lines = l.outside depth lines := by
  induction lines generalizing depth with
  | nil => rfl
  | cons line later ih =>
    obtain ⟨hline, hlater⟩ := List.forall_mem_cons.1 hlevel
    rw [List.flatMap_cons, nest_append] at hnest
    obtain ⟨next, hnext, hrest⟩ := Option.bind_eq_some_iff.1 hnest
    have hremoved : 0 < depth ∨ .opens ∈ l.markers line ↔ ¬ (depth = 0 ∧ l.markers line = []) := by
      constructor
      · rintro (hpos | hmem) ⟨rfl, hnil⟩
        · exact absurd hpos (by omega)
        · rw [hnil] at hmem
          cases hmem
      · intro hnot
        by_cases hzero : depth = 0
        · subst hzero
          exact Or.inr (opens_mem_of_nest hnext fun hnil => hnot ⟨rfl, hnil⟩)
        · exact Or.inl (by omega)
    rw [survivors, outside, hline.judge, ← hline.nest_eq hnext, hnext, Option.getD_some]
    simp only [decide_eq_true_iff, hremoved, ih hlater hrest]
    by_cases hout : depth = 0 ∧ l.markers line = [] <;> simp [hout]

/-- **Environments are cut out and nothing else**, where every line is level.  If the markers of a document are
properly nested and all that is opened is closed, the lines left are those without a marker at which nothing
is open. -/
theorem removeEnvironments_eq_outside (hl : l.ignorePreamble = false) (d : Document)
    (hbalanced : l.Balanced (d.current.lineTexts d.newline))
    (hlevel : ∀ line ∈ d.current.lineTexts d.newline, l.Level line) :
    (l.removeEnvironments d).2.current =
      Text.join d.newline (l.outside 0 (d.current.lineTexts d.newline)) := by
  have hsweep : (l.removeEnvironments d).2 =
      (d.sweep (judgeEnvironment l.opening l.closing) ⟨!l.ignorePreamble, 0⟩).2 := rfl
  rw [hsweep, Document.sweep_current, hl]
  exact congrArg _ (survivors_eq_outside hlevel hbalanced)

/-! ### Documents -/

/-- A cleaner that keeps what comes before the document body. -/
def keepAll : Latex := ⟨false, [], []⟩

/-- A document without comments. -/
def uncommented (text : String) : Document := cleanComments (.ofLines text.toList "")

/-- The lines of a document have properly nested markers, and `left` is what is outside of them. -/
def Outside (l : Latex) (d : Document) (left : Text) : Prop :=
  l.Balanced (d.current.lineTexts d.newline) ∧
    Text.join d.newline (l.outside 0 (d.current.lineTexts d.newline)) = left

instance (l : Latex) (d : Document) (left : Text) : Decidable (l.Outside d left) :=
  inferInstanceAs (Decidable (_ ∧ _))

/-- A table with a formula after an escaped bracket, and two formulas on one line. -/
def tableAndFormulas : Document :=
  uncommented "A.\n\\begin\x7btable\x7d\n\\\\[2pt] \\[y\\]\n\\end\x7btable\x7d\n\\[a\\] \\[b\\]\nB."

theorem tableAndFormulas_outside :
    keepAll.Outside tableAndFormulas "A.\nB.".toList ∧
    (keepAll.removeEnvironments tableAndFormulas).2.current = "A.\nB.".toList := by
  have h : keepAll.Outside tableAndFormulas "A.\nB.".toList ∧
      ∀ line ∈ tableAndFormulas.current.lineTexts tableAndFormulas.newline, keepAll.Level line := by
    decide +kernel
  exact ⟨h.1, (removeEnvironments_eq_outside rfl _ h.1.1 h.2).trans h.1.2⟩

/-- Two environments that are opened on one line and closed on different lines. -/
def stackedMarkers : Document :=
  uncommented "A.\n\\begin\x7btable\x7d\\begin\x7balign\x7d\n\\end\x7balign\x7d\n\\end\x7btable\x7d\nB."

/-- A line break with a distance after it. -/
def brokenLine : Document := uncommented "A.\nB\\\\[2pt]\nC."

/-- **Counting by lines breaks where a line is not level.**  Of two environments opened on one line the first
that is closed counts for both, so that the line that closes the other one is left; and a line break with a
distance counts as a bracket that is never closed, so that all that follows is lost. -/
theorem stacked_markers_break_outside :
    (keepAll.Outside stackedMarkers "A.\nB.".toList ∧
      (keepAll.removeEnvironments stackedMarkers).2.current ≠ "A.\nB.".toList) ∧
    keepAll.Outside brokenLine "A.\nB\\\\[2pt]\nC.".toList ∧
      (keepAll.removeEnvironments brokenLine).2.current ≠ "A.\nB\\\\[2pt]\nC.".toList := by
  decide +kernel

end Latex

end MarkupLint
