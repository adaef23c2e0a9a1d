import MarkupLint.Proofs.Document.Sweep
import MarkupLint.Proofs.Lines.Conversion

/-!
# The lines of a document

The lines of a document are the pieces of its text between the terminators, and stay so when one of them is removed:

* `find?_eq_none_iff`: what is not found does not occur, so that no line has a terminator in it;
* `offset_of_getElem?_layout`: a line starts behind the lines before it and their terminators;
* `removeLine_lineTexts`: removing a line erases it from the lines.  The lines around it are ended as before, so that no
  terminator comes up where the text is put together;
* `removeLine_of_no_line`: a line that does not exist leaves the text alone.

`lines_split_join_remove` puts these together.
-/

namespace MarkupLint

namespace Text

variable {newline piece text : Text} {pieces : List Text} {line : Line} {k : Nat}

lemma find?_eq_none_iff : find? piece text = none ↔ ¬ piece <:+: text := by
  induction text with
  | nil => simp [find?]
  | cons c text ih =>
    rw [find?_cons, List.infix_cons_iff]
    split
    · next hpre => simp [hpre]
    · next hpre => simp [hpre, ih]

/-- Lines have no terminator in them. -/
lemma AreLines.find?_eq_none (hne : newline ≠ []) (h : AreLines newline pieces) :
    ∀ line ∈ pieces, find? newline line = none := by
  induction pieces with
  | nil => exact h.elim
  | cons line later ih =>
    by_cases hlater : later = []
    · subst hlater
      exact List.forall_mem_singleton.2 h
    · obtain ⟨hended, hlines⟩ := (areLines_cons hlater).1 h
      exact List.forall_mem_cons.2 ⟨hended.find?_eq_none hne, ih hlines⟩

/-- A line starts behind the lines before it and their terminators. -/
lemma offset_of_getElem?_layout {offset : Nat} (h : (layout newline.length offset pieces)[k]? = some line) :
    line.offset = offset + (closed newline (pieces.take k)).length := by
  induction pieces generalizing offset k with
  | nil => cases h
  | cons first later ih =>
    cases k with
    | zero =>
      obtain rfl := Option.some.inj h
      rfl
    | succ k =>
      rw [ih h, List.take_succ_cons, closed_cons]
      simp only [List.length_append]
      omega

end Text

namespace Document

open Text (AreLines closed join split)

variable (d : Document)

/-- **Removing a line erases it from the lines.**  Without the only line the document is empty, which is one line. -/
theorem removeLine_lineTexts {k : Nat} (hk : k < d.current.lineCount d.newline) :
    (d.removeLine k).current.lineTexts d.newline =
      if d.current.lineCount d.newline = 1 then [[]] else (d.current.lineTexts d.newline).eraseIdx k := by
  have hne := d.newline_ne_nil
  have hlines := Text.areLines_lineTexts hne d.current
  have hcount := Text.length_lineTexts d.current d.newline
  rw [← hcount] at hk ⊢
  have hjoin := Text.join_lineTexts hne d.current
  generalize d.current.lineTexts d.newline = texts at hk hlines hjoin ⊢
  -- the line removed, and the lines before and after it
  have hsplit : texts = texts.take k ++ texts[k] :: texts.drop (k + 1) := by
    rw [← List.drop_eq_getElem_cons hk, List.take_append_drop]
  have herase : texts.eraseIdx k = texts.take k ++ texts.drop (k + 1) := List.eraseIdx_eq_take_drop_succ ..
  have hcurrent : (d.removeLine k).current = join d.newline (texts.eraseIdx k) := by
    have hlength : (texts.take k).length = k := by
      rw [List.length_take]
      omega
    have hwithout := Text.withoutLine_join hne (hsplit ▸ hlines)
    rw [← hsplit, hjoin, hlength, ← herase] at hwithout
    exact hwithout
  have hlength : (texts.eraseIdx k).length = texts.length - 1 := List.length_eraseIdx_of_lt hk
  rw [hcurrent]
  split
  · next hone =>
    have hempty : AreLines d.newline [[]] := by simp [AreLines, Text.find?, hne]
    rw [List.eq_nil_of_length_eq_zero (by omega : (texts.eraseIdx k).length = 0)]
    exact Text.lineTexts_join hne hempty
  · next hmany =>
    have hsome : texts.take k ++ texts.drop (k + 1) ≠ [] := by
      intro hnone
      rw [herase, hnone, List.length_nil] at hlength
      omega
    rw [herase]
    exact Text.lineTexts_join hne ((hsplit ▸ hlines).erase hne hsome)

/-- A line that does not exist leaves the text alone. -/
lemma removeLine_of_no_line {k : Int} (hk : k < 0 ∨ d.current.lineCount d.newline ≤ k) :
    (d.removeLine k).current = d.current := by
  rw [removeLine_current, Edit.withoutLine]
  split
  · rfl
  · next hneg =>
    have hnone : (d.current.lineStarts d.newline).drop k.toNat = [] := by
      rw [List.drop_eq_nil_iff]
      have hcount : (d.current.lineStarts d.newline).length = d.current.lineCount d.newline := rfl
      omega
    rw [hnone]

/-- **Lines are split, joined and removed consistently**, whatever the terminator is.  The lines of a document make its
text and have no terminator in them; each starts behind the lines before it and their terminators, where its characters
are; they are the pieces of the text between its terminators.  Removing one of them leaves the others, and an empty
line if there is no other one; removing any other line leaves the text alone. -/
theorem lines_split_join_remove :
    join d.newline (d.lines.map (·.text)) = d.current ∧
    (∀ line ∈ d.lines, ¬ d.newline <:+: line.text) ∧
    (∀ (k : Nat) (line : Line), d.lines[k]? = some line →
      line.offset = (closed d.newline ((d.lines.take k).map (·.text))).length ∧
      d.current.slice line.offset (line.offset + line.text.length) = line.text) ∧
    d.lines.map (·.text) = split d.newline d.current ∧
    (∀ k < d.current.lineCount d.newline, (d.removeLine k).lines.map (·.text) =
      if d.current.lineCount d.newline = 1 then [[]] else (d.lines.map (·.text)).eraseIdx k) ∧
    ∀ k : Int, k < 0 ∨ d.current.lineCount d.newline ≤ k → (d.removeLine k).current = d.current := by
  have hne := d.newline_ne_nil
  refine ⟨Text.join_lineTexts hne d.current, fun line hline => ?_, fun k line hline => ⟨?_, ?_⟩,
    (Text.split_eq_lineTexts hne d.current).symm, fun k hk => d.removeLine_lineTexts hk,
    fun k hk => d.removeLine_of_no_line hk⟩
  · have hlines := Text.areLines_lineTexts hne d.current
    exact Text.find?_eq_none_iff.1 (hlines.find?_eq_none hne _ (List.mem_map_of_mem hline))
  · rw [lines, Text.lines_eq_layout hne] at hline
    rw [Text.offset_of_getElem?_layout hline, Nat.zero_add, List.map_take]
    rfl
  · have hpre := Text.prefix_drop_of_mem_lines (List.mem_of_getElem? hline)
    rw [Text.slice, Nat.add_sub_cancel_left]
    exact (List.prefix_iff_eq_take.1 hpre).symm

end Document

end MarkupLint
