import MarkupLint.Proofs.Clean.Loops
import MarkupLint.Proofs.Edit.Erasing
import MarkupLint.Proofs.Pattern.Words

/-!
# Documents without comments

Removing comments has two passes.  The first removes whole lines: comment lines, comment environments and ignored parts.
The second cuts the lines left before the first comment sign that no backslash escapes.

* `trailingComment_erased_join`: the second pass leaves of every line what comes before its comment, `beforeComment`;
* `uncommented_beforeComment`: what is left of a line that the first pass keeps is `Uncommented`, as cutting a line
  shows no mark that the line did not have;
* `cleanComments_commentFree`: so the passes would find nothing to remove if they were made again.
-/

namespace MarkupLint

namespace Pattern

variable {k : CharClass} {c : Char} {before after w tail : Text}

/-- A look-behind for one character sees the last one of what comes before. -/
lemma run_notBehind (next : Continuation) {p : Place} (hp : p.offset = before.length) :
    (Node.behind true 1 (.char k)).run (before ++ after).toArray next p =
      if before.getLast?.any k.holds then none else next p := by
  rcases List.eq_nil_or_concat before with rfl | ⟨front, d, rfl⟩
  · simp [Node.run, hp]
  · have hholds : holdsAt (front ++ d :: after).toArray k front.length = k.holds d := holdsAt_append front (d :: after)
    rw [List.concat_eq_append] at hp ⊢
    simp only [List.length_append, List.length_singleton] at hp
    rw [List.append_assoc, List.singleton_append]
    simp only [Node.run, hp, Nat.add_sub_cancel, hholds, List.getLast?_concat, Option.any_some]
    cases k.holds d <;> simp

/-- The longest run of characters of a class. -/
lemma runLength_append (before : Text) {limit : Nat} (hlimit : w.length ≤ limit) (hw : ∀ c ∈ w, k.holds c = true)
    (htail : ∀ c ∈ tail.head?, k.holds c = false) :
    runLength (before ++ (w ++ tail)).toArray k limit before.length = w.length := by
  have hget : ∀ i < w.length, holdsAt (before ++ (w ++ tail)).toArray k (before.length + i) = true := by
    intro i hi
    have hstart : w <+: (before ++ (w ++ tail)).toArray.toList.drop (Place.mk before.length []).offset := by simp
    have := holdsAt_eq_holds (k := k) hstart hi
    rw [this]
    exact hw _ (List.getElem_mem hi)
  refine Nat.le_antisymm ?_ (le_runLength hlimit hget)
  by_contra hlt
  have hend := holdsAt_of_lt_runLength limit (Nat.lt_of_not_le hlt)
  rw [← List.append_assoc, ← List.length_append, holdsAt_append, Option.any_eq_true] at hend
  obtain ⟨c, hc, hholds⟩ := hend
  rw [htail c hc] at hholds
  cases hholds

lemma longestFirst_of_last {attempt : Nat → Option Place} {least extra : Nat} {q : Place}
    (h : attempt (least + extra) = some q) : longestFirst attempt least extra = some q := by
  cases extra with
  | zero => exact h
  | succ extra => rw [longestFirst, h]

lemma lineEnd_holds (before : Text) (htail : ∀ c ∈ tail.head?, c = '\n') :
    Anchor.lineEnd.holds (before ++ tail).toArray before.length = true := by
  cases tail with
  | nil => simp [Anchor.holds]
  | cons d tail =>
    obtain rfl := htail d rfl
    simp [Anchor.holds]

/-- Where anything up to the end of the line is asked for, all of it is taken at once. -/
lemma run_restOfLine (before : Text) (hw : '\n' ∉ w) (htail : ∀ c ∈ tail.head?, c = '\n') (marks : List Marks) :
    (Node.seq (.chars .allButLineFeed 0 none .greedy) (.anchor .lineEnd)).run (before ++ (w ++ tail)).toArray some
      ⟨before.length, marks⟩ = some ⟨before.length + w.length, marks⟩ := by
  have hreach : w.length ≤ reach (before ++ (w ++ tail)).toArray none before.length := by
    simp only [reach, List.size_toArray, List.length_append]
    omega
  have hrun := runLength_append before hreach (fun c hc => holds_allButLineFeed.2 fun h => hw (h ▸ hc))
    (fun c hc => by rw [htail c hc]; decide)
  have hend : Anchor.lineEnd.holds (before ++ (w ++ tail)).toArray (before.length + w.length) = true := by
    rw [← List.append_assoc, ← List.length_append]
    exact lineEnd_holds _ htail
  simp only [Node.run, hrun]
  refine longestFirst_of_last ?_
  simp [Place.forward, hend]

end Pattern

namespace Latex

open Pattern

/-! ## Comments at the ends of lines -/

/-- Whether a text has a comment sign that no backslash escapes, given whether a backslash comes before the text. -/
def hasComment (escaped : Bool) : Text → Bool
  | [] => false
  | c :: rest => (c == '%' && !escaped) || hasComment (c == '\\') rest

/-- What comes before the comment of a line, given whether a backslash comes before the line. -/
def beforeComment (escaped : Bool) : Text → Text
  | [] => []
  | c :: rest => if c = '%' ∧ escaped = false then [] else c :: beforeComment (c == '\\') rest

variable {escaped : Bool} {c : Char} {before after line w tail : Text} {lines : List Text} {limit : Nat}

lemma trailingComment_node :
    trailingComment.node = .sequence [.behind true 1 (.char (.only '\\')), .char (.only '%'),
      .chars .allButLineFeed 0 none .greedy, .anchor .lineEnd] := by decide +kernel

/-- Where a comment starts: at a comment sign without a backslash before it. -/
lemma trailingComment_matchAt_eq (before after : Text) :
    trailingComment.matchAt (before ++ after).toArray before.length =
      if before.getLast? = some '\\' ∨ after.head? ≠ some '%' then none
      else ((Node.seq (.chars .allButLineFeed 0 none .greedy) (.anchor .lineEnd)).run (before ++ after).toArray some
        ⟨before.length + 1, []⟩).map (foundAt (before ++ after).toArray before.length) := by
  have hgroups : trailingComment.groups = 0 := by decide +kernel
  have hany : ∀ (c : Char) (c? : Option Char), c?.any (CharClass.only c).holds = decide (c? = some c) := by
    intro c c?
    rw [Bool.eq_iff_iff]
    cases c? <;> simp
  have hsign : holdsAt (before ++ after).toArray (.only '%') before.length = decide (after.head? = some '%') := by
    rw [holdsAt_append, hany]
  unfold matchAt
  rw [trailingComment_node, hgroups]
  change ((Node.behind true 1 (.char (.only '\\'))).run _
    (fun p => if holdsAt _ _ p.offset then _ else none) _).map _ = _
  rw [run_notBehind _ rfl, hany]
  simp only [Place.start, hsign]
  by_cases hlast : before.getLast? = some '\\' <;> by_cases hhead : after.head? = some '%' <;> simp [hlast, hhead]
  rfl

/-- A comment goes up to the end of its line. -/
lemma trailingComment_matchAt (hbefore : before.getLast? ≠ some '\\') (hw : '\n' ∉ w)
    (htail : ∀ c ∈ tail.head?, c = '\n') :
    ∃ m, trailingComment.matchAt (before ++ ('%' :: w ++ tail)).toArray before.length = some m ∧
      m.stop = before.length + ('%' :: w).length := by
  have hrun := run_restOfLine (before ++ ['%']) hw htail []
  have hsplit : before ++ ['%'] ++ (w ++ tail) = before ++ ('%' :: w ++ tail) := by simp
  rw [hsplit, List.length_append, List.length_singleton] at hrun
  rw [trailingComment_matchAt_eq, if_neg (by simp [hbefore]), hrun]
  refine ⟨_, rfl, ?_⟩
  rw [List.length_cons, Nat.add_comm w.length, ← Nat.add_assoc]
  rfl

lemma trailingComment_erased_nil (limit : Nat) (before : Text) : trailingComment.erased limit before [] = [] := by
  refine erased_nil ?_
  have hend := trailingComment_matchAt_eq before []
  rwa [List.append_nil, if_pos (by simp)] at hend

/-- **Of a line is left what comes before its comment**, at the cost of one match at most. -/
lemma trailingComment_erased_line (hline : '\n' ∉ line) (htail : ∀ c ∈ tail.head?, c = '\n') (limit : Nat)
    (before : Text) :
    ∃ left, limit ≤ left ∧ trailingComment.erased (limit + 1) before (line ++ tail) =
      beforeComment (before.getLast? == some '\\') line ++ trailingComment.erased left (before ++ line) tail := by
  induction line generalizing before with
  | nil => exact ⟨limit + 1, Nat.le_succ _, by simp [beforeComment]⟩
  | cons c line ih =>
    rw [List.mem_cons, not_or] at hline
    by_cases hcomment : c = '%' ∧ before.getLast? ≠ some '\\'
    · obtain ⟨rfl, hbefore⟩ := hcomment
      obtain ⟨m, hm, hstop⟩ := trailingComment_matchAt hbefore hline.2 htail
      refine ⟨limit, Nat.le_refl _, ?_⟩
      rw [erased_append (by simp) hm hstop, beforeComment, if_pos (by simp [hbefore]), List.nil_append]
    · have hnone : trailingComment.matchAt (before ++ c :: (line ++ tail)).toArray before.length = none := by
        rw [trailingComment_matchAt_eq, if_pos]
        rw [not_and_or, not_not] at hcomment
        exact hcomment.symm.imp_right fun hc h => hc (Option.some.inj h)
      obtain ⟨left, hleft, hrest⟩ := ih hline.2 (before ++ [c])
      refine ⟨left, hleft, ?_⟩
      have hlast : ((before ++ [c]).getLast? == some '\\') = (c == '\\') := by simp
      rw [hlast, List.append_assoc, List.singleton_append] at hrest
      rw [List.cons_append, erased_cons hnone, hrest, beforeComment, if_neg, List.cons_append]
      simpa using hcomment

/-- A line feed is no part of a comment. -/
lemma trailingComment_erased_lineFeed (limit : Nat) (before after : Text) :
    trailingComment.erased limit before ('\n' :: after) =
      '\n' :: trailingComment.erased limit (before ++ ['\n']) after := by
  refine erased_cons ?_
  rw [trailingComment_matchAt_eq, if_pos (by simp)]

/-- **Of the lines of a text is left what comes before their comments**, if there are not too many lines. -/
theorem trailingComment_erased_join (limit : Nat) (before : Text) (hlines : ∀ line ∈ lines, '\n' ∉ line)
    (hlimit : lines.length ≤ limit) (hbefore : (before.getLast? == some '\\') = false) :
    trailingComment.erased limit before (Text.join Text.lineFeed lines) =
      Text.join Text.lineFeed (lines.map (beforeComment false)) := by
  induction lines generalizing before limit with
  | nil => exact trailingComment_erased_nil limit before
  | cons line later ih =>
    rw [List.forall_mem_cons] at hlines
    rw [List.length_cons] at hlimit
    obtain ⟨limit, rfl⟩ : ∃ n, limit = n + 1 := ⟨limit - 1, by omega⟩
    cases later with
    | nil =>
      have htail : ∀ c ∈ ([] : Text).head?, c = '\n' := by simp
      obtain ⟨left, -, hline⟩ := trailingComment_erased_line hlines.1 htail limit before
      rw [List.append_nil, trailingComment_erased_nil, List.append_nil, hbefore] at hline
      exact hline
    | cons next later =>
      have hjoin : Text.join Text.lineFeed (line :: next :: later) =
          line ++ '\n' :: Text.join Text.lineFeed (next :: later) := by
        rw [Text.join_cons (by simp), List.append_assoc]
        rfl
      have htail : ∀ c ∈ ('\n' :: Text.join Text.lineFeed (next :: later)).head?, c = '\n' := by simp
      obtain ⟨left, hleft, hline⟩ := trailingComment_erased_line hlines.1 htail limit before
      have hlater := ih left (before ++ line ++ ['\n']) hlines.2 (by omega) (by simp)
      rw [hjoin, hline, hbefore, trailingComment_erased_lineFeed, hlater]
      simp [Text.join, Text.lineFeed]

/-! ## Lines without comments -/

lemma beforeComment_isPrefix (escaped : Bool) (line : Text) : beforeComment escaped line <+: line := by
  induction line generalizing escaped with
  | nil => exact List.prefix_rfl
  | cons c line ih =>
    rw [beforeComment]
    split
    · exact List.nil_prefix
    · exact List.cons_prefix_cons.2 ⟨rfl, ih _⟩

lemma hasComment_beforeComment (escaped : Bool) (line : Text) :
    hasComment escaped (beforeComment escaped line) = false := by
  induction line generalizing escaped with
  | nil => rfl
  | cons c line ih =>
    rw [beforeComment]
    split
    · rfl
    · next h =>
      rw [hasComment, ih, Bool.or_false]
      simpa using h

lemma beforeComment_eq_self (h : hasComment escaped line = false) : beforeComment escaped line = line := by
  induction line generalizing escaped with
  | nil => rfl
  | cons c line ih =>
    obtain ⟨hc, hline⟩ := Bool.or_eq_false_iff.1 h
    rw [beforeComment, if_neg (by simpa using hc), ih hline]

lemma hasComment_append (before after : Text) :
    hasComment escaped (before ++ after) =
      (hasComment escaped before || hasComment ((before.getLast?.map (· == '\\')).getD escaped) after) := by
  induction before generalizing escaped with
  | nil => rfl
  | cons c before ih =>
    rw [List.cons_append, hasComment, ih, hasComment, Bool.or_assoc, List.getLast?_cons]
    cases before.getLast? <;> rfl

lemma hasComment_join (h : ∀ line ∈ lines, hasComment false line = false) :
    hasComment false (Text.join Text.lineFeed lines) = false := by
  induction lines with
  | nil => rfl
  | cons line later ih =>
    rw [List.forall_mem_cons] at h
    cases later with
    | nil => exact h.1
    | cons next later =>
      -- the line feed is no comment sign, and escapes nothing
      have hfeed : ∀ escaped rest, hasComment escaped ('\n' :: rest) = hasComment false rest := fun _ _ => rfl
      rw [Text.join_cons (by simp), List.append_assoc, hasComment_append, h.1, Bool.false_or]
      exact (hfeed _ _).trans (ih h.2)

/-- In a text without comments every comment sign has a backslash before it. -/
lemma getLast?_of_hasComment_eq_false (h : hasComment false (before ++ '%' :: after) = false) :
    before.getLast? = some '\\' := by
  rw [hasComment_append] at h
  obtain ⟨-, h⟩ := Bool.or_eq_false_iff.1 h
  obtain ⟨h, -⟩ := Bool.or_eq_false_iff.1 h
  cases hlast : before.getLast? with
  | none => simp [hlast] at h
  | some d => simpa [hlast] using h

lemma isCommentLine_iff :
    isCommentLine line = true ↔
      ∃ blanks rest : Text, (∀ c ∈ blanks, Text.isBlank c = true) ∧ line = blanks ++ '%' :: rest := by
  constructor
  · intro h
    obtain ⟨blanks, hblanks, hline⟩ := Text.exists_blanks line
    obtain ⟨rest, hrest⟩ := List.head?_eq_some_iff.1 (eq_of_beq h)
    exact ⟨blanks, rest, hblanks, by rw [hline, hrest]⟩
  · rintro ⟨blanks, rest, hblanks, rfl⟩
    rw [isCommentLine, Text.trimStart_append hblanks, Text.trimStart_cons (by decide)]
    rfl

/-- A line without a comment is no comment line. -/
lemma isCommentLine_eq_false (h : hasComment false line = false) : isCommentLine line = false := by
  rw [Bool.eq_false_iff]
  intro hline
  obtain ⟨blanks, rest, hblanks, rfl⟩ := isCommentLine_iff.1 hline
  have hbackslash := hblanks _ (List.mem_of_getLast? (getLast?_of_hasComment_eq_false h))
  exact absurd hbackslash (by decide)

lemma beginIgnored_node :
    ∃ rest, beginIgnored.node =
      .sequence (.anchor .textStart :: .blanks :: .chars (.only '%') 1 none .greedy :: rest) :=
  ⟨.chars .allButLineFeed 0 none .greedy :: Node.word "annolint: ignore begin".toList, by decide +kernel⟩

/-- The comment that begins an ignored part is on a comment line. -/
lemma isCommentLine_of_beginIgnored (h : beginIgnored.occursIn line = true) : isCommentLine line = true := by
  obtain ⟨m, hm⟩ := Option.isSome_iff_exists.1 h
  obtain ⟨i, q, -, -, hpasses, -⟩ := search_passes hm
  obtain ⟨rest, hnode⟩ := beginIgnored_node
  rw [hnode] at hpasses
  obtain ⟨p₁, hanchor, hpasses⟩ := passes_sequence_cons hpasses
  obtain ⟨p₂, hblanks, hpasses⟩ := passes_sequence_cons hpasses
  obtain ⟨p₃, hsigns, -⟩ := passes_sequence_cons hpasses
  cases hanchor with
  | anchor hstart =>
    obtain rfl : i = 0 := of_decide_eq_true hstart
    obtain ⟨blanks, hspells, ⟨after, hafter⟩, hoffset⟩ := hblanks.exists_spells rfl
    obtain ⟨signs, ⟨hall, hleast, -⟩, ⟨more, hmore⟩, -⟩ := hsigns.exists_spells rfl
    replace hafter : blanks ++ after = line := hafter
    replace hoffset : p₂.offset = blanks.length := hoffset.trans (Nat.zero_add _)
    replace hmore : signs ++ more = after := by
      rw [hmore, hoffset]
      change line.drop _ = _
      rw [← hafter, List.drop_left]
    obtain ⟨sign, signs, rfl⟩ := List.exists_cons_of_length_pos hleast
    obtain rfl : sign = '%' := holds_only.1 (hall sign (List.mem_cons_self ..))
    exact isCommentLine_iff.2 ⟨blanks, signs ++ more, spells_blanks.1 hspells, by rw [← hafter, ← hmore]; rfl⟩

/-- A line of a document without comments. -/
structure Uncommented (line : Text) : Prop where
  /-- It has no line feed. -/
  feedless : '\n' ∉ line
  /-- Every comment sign on it is escaped. -/
  hasComment_eq_false : hasComment false line = false
  /-- No comment environment begins on it. -/
  beginComment_eq_false : beginComment.occursIn line = false

lemma Uncommented.beginIgnored_eq_false (h : Uncommented line) : beginIgnored.occursIn line = false := by
  rw [Bool.eq_false_iff]
  intro hbegin
  have hline := isCommentLine_of_beginIgnored hbegin
  rw [isCommentLine_eq_false h.hasComment_eq_false] at hline
  cases hline

/-- What comes before the comment of a line that is kept is without comments. -/
lemma uncommented_beforeComment (hfeed : '\n' ∉ line) (hkept : (judgeComment false line).1 = false) :
    Uncommented (beforeComment false line) := by
  have hstart := beforeComment_isPrefix false line
  obtain ⟨hinside, -⟩ := Bool.or_eq_false_iff.1 hkept
  obtain ⟨hbegin, -⟩ := Bool.or_eq_false_iff.1 hinside
  have hplain : beginComment.node.isPlain = true := by decide +kernel
  refine ⟨fun hmem => hfeed (hstart.subset hmem), hasComment_beforeComment false line, ?_⟩
  rw [Bool.eq_false_iff] at hbegin ⊢
  intro hbefore
  obtain ⟨w, hw, hinfix⟩ := (occursIn_iff_isInfix hplain).1 hbefore
  exact hbegin ((occursIn_iff_isInfix hplain).2 ⟨w, hw, hinfix.trans hstart.isInfix⟩)

/-- Lines without comments are kept. -/
lemma survivors_uncommented (h : ∀ line ∈ lines, Uncommented line) :
    Document.survivors judgeComment false lines = lines := by
  induction lines with
  | nil => rfl
  | cons line later ih =>
    rw [List.forall_mem_cons] at h
    have hjudge : judgeComment false line = (false, false) := by
      simp [judgeComment, h.1.beginComment_eq_false, h.1.beginIgnored_eq_false,
        isCommentLine_eq_false h.1.hasComment_eq_false]
    rw [Document.survivors, hjudge, if_neg (by simp), ih h.2]

/-! ## Documents -/

/-- **Removing comments leaves what comes before them on the lines that are kept.** -/
theorem cleanComments_current {d : Document} (hnewline : d.newline = Text.lineFeed)
    (hlines : d.current.lineCount Text.lineFeed ≤ Edit.maxMatches) :
    (cleanComments d).current = Text.join Text.lineFeed
      ((Document.survivors judgeComment false (d.current.lineTexts Text.lineFeed)).map (beforeComment false)) := by
  have hne : Text.lineFeed ≠ [] := by decide
  have hkept := Document.survivors_sublist judgeComment false (d.current.lineTexts Text.lineFeed)
  have hfeedless := (Text.areLines_lineFeed.1 (Text.areLines_lineTexts hne d.current)).2
  have hcount := Text.length_lineTexts d.current Text.lineFeed
  have hsweep : (removeCommentLines d).current = Text.join d.newline _ := d.sweep_current judgeComment false
  have herase := (removeCommentLines d).revise_erase trailingComment
  rw [hsweep, hnewline] at herase
  refine herase.trans (trailingComment_erased_join _ [] (fun line hline => hfeedless line (hkept.subset hline)) ?_ rfl)
  have := hkept.length_le
  omega

/-- The text is that of a document without comments. -/
structure CommentFree (text : Text) : Prop where
  /-- Every comment sign has a backslash before it. -/
  escaped : ∀ before after, text = before ++ '%' :: after → before.getLast? = some '\\'
  /-- No line begins a comment environment or an ignored part. -/
  unmarked : ∀ line ∈ text.lineTexts Text.lineFeed,
    beginComment.occursIn line = false ∧ beginIgnored.occursIn line = false
  /-- Removing comments changes nothing. -/
  fixed : ∀ d : Document, d.newline = Text.lineFeed → d.current = text → (cleanComments d).current = text

/-- Lines without comments make a text without comments, if there are not too many of them. -/
lemma commentFree_join (hne : lines ≠ []) (h : ∀ line ∈ lines, Uncommented line)
    (hcount : lines.length ≤ Edit.maxMatches) : CommentFree (Text.join Text.lineFeed lines) := by
  have hlines : Text.AreLines Text.lineFeed lines :=
    Text.areLines_lineFeed.2 ⟨hne, fun line hline => (h line hline).feedless⟩
  have htexts := Text.lineTexts_join (by decide) hlines
  refine ⟨fun before after htext => ?_, fun line hline => ?_, fun d hnewline hcurrent => ?_⟩
  · have hfree := hasComment_join fun line hline => (h line hline).hasComment_eq_false
    rw [htext] at hfree
    exact getLast?_of_hasComment_eq_false hfree
  · rw [htexts] at hline
    exact ⟨(h line hline).beginComment_eq_false, (h line hline).beginIgnored_eq_false⟩
  · have hkept : lines.map (beforeComment false) = lines := by
      rw [List.map_congr_left fun line hline => beforeComment_eq_self (h line hline).hasComment_eq_false, List.map_id']
    rw [cleanComments_current hnewline, hcurrent, htexts, survivors_uncommented h, hkept]
    rw [hcurrent, ← Text.length_lines, ← List.length_map, ← Text.lineTexts, htexts]
    exact hcount

/-- **Removing comments leaves a document without comments**, which removing comments does not change. -/
theorem cleanComments_commentFree (d : Document) (hnewline : d.newline = Text.lineFeed)
    (hlines : d.current.lineCount Text.lineFeed ≤ 10000) : CommentFree (cleanComments d).current := by
  have hfeedless := (Text.areLines_lineFeed.1 (Text.areLines_lineTexts (by decide) d.current)).2
  have hsublist := Document.survivors_sublist judgeComment false (d.current.lineTexts Text.lineFeed)
  have hcount : (d.current.lineTexts Text.lineFeed).length ≤ Edit.maxMatches := by
    rwa [Text.lineTexts, List.length_map, Text.length_lines]
  rw [cleanComments_current hnewline hlines]
  generalize hkept : Document.survivors judgeComment false (d.current.lineTexts Text.lineFeed) = kept at hsublist ⊢
  by_cases hnil : kept = []
  · -- nothing is left, which is the same as an empty line
    have hempty : ∀ line ∈ [([] : Text)], Uncommented line :=
      List.forall_mem_singleton.2 ⟨List.not_mem_nil, rfl, by decide +kernel⟩
    have hfree : CommentFree (Text.join Text.lineFeed [[]]) := commentFree_join (by simp) hempty (by decide)
    rw [hnil]
    exact hfree
  · refine commentFree_join (by simpa using hnil) (List.forall_mem_map.2 fun line hline => ?_) ?_
    · refine uncommented_beforeComment (hfeedless line (hsublist.subset hline)) ?_
      rw [← hkept] at hline
      obtain ⟨inside, hjudge⟩ := Document.exists_of_mem_survivors hline
      -- only outside of comments a line is kept
      cases inside with
      | false => exact hjudge
      | true => cases hjudge
    · rw [List.length_map]
      exact Nat.le_trans hsublist.length_le hcount

/-- Lines with comments, a comment line, and a comment environment whose marker is followed by a comment. -/
def annotated : Document :=
  .ofLines "A 5\\% rate.% A\\%\n % B\n\\begin\x7bcomment\x7d % C\nD\n\\end\x7bcomment\x7d\nE\\\\% F".toList ""

theorem annotated_commentFree :
    (cleanComments annotated).current = "A 5\\% rate.\nE\\\\% F".toList ∧
      CommentFree (cleanComments annotated).current :=
  ⟨by decide +kernel, cleanComments_commentFree annotated rfl (by decide +kernel)⟩

end Latex

end MarkupLint
