import MarkupLint.Proofs.Pattern.Words
import MarkupLint.Rule.Figures

/-!
# The marks of figures on a line

The marks of a line are, in the order in which they begin, the markers that begin and end figures, and the labels.
`marks` reads them off the characters.  The patterns of figures find the same: `beginFigure_occursIn_iff`,
`endFigure_occursIn_iff` and `search_label`; and `label_mem_marks` says where the name of a label stands.
-/

namespace MarkupLint

open Pattern Pattern.Node

namespace Figures

/-- The environments that are figures. -/
def environments : List Text := ["figure".toList, "wrapfigure".toList]

/-- Whether a text begins with the name of an environment of a figure, perhaps a star, and a closing brace. -/
def namesFigure (text : Text) : Bool :=
  environments.any fun name => (text.dropPrefix? name).any fun rest => ((Text.afterStar rest).after? '}').isSome

/-- Whether a text begins with a command whose argument is an environment of a figure. -/
def marksFigure (command text : Text) : Bool :=
  ((text.dropPrefix? command).bind (Text.after? '{')).any fun argument => namesFigure (Text.trimStart argument)

/-- The label with which a text begins: how far in its name stands, and the name.  The name is all up to the first
closing brace, and has no line feed. -/
def labelAt? (text : Text) : Option (Nat × Text) :=
  ((text.dropPrefix? "\\label".toList).bind (Text.after? '{')).bind fun argument =>
    let name := argument.takeWhile (· ≠ '}')
    if name.length < argument.length ∧ '\n' ∉ name then some (text.length - argument.length, name) else none

/-- A label. -/
structure Label where
  /-- What stands between its braces. -/
  name : Text
  /-- Where that stands in the text of the document. -/
  offset : Nat
  /-- The line of the label. -/
  line : Line
deriving DecidableEq, Repr

/-- What a line says about figures. -/
inductive Mark where
  | begins
  | ends
  | label (l : Label)
deriving DecidableEq, Repr

/-- The label of a mark. -/
def Mark.label? : Mark → Option Label
  | .label l => some l
  | _ => none

/-- The marks of a place, given what begins there. -/
def marksOf (begins ends : Bool) (l? : Option Label) : List Mark :=
  (if begins then [.begins] else []) ++ (if ends then [.ends] else []) ++ (l?.map Mark.label).toList

/-- The marks that begin at an offset of a line. -/
def marksAt (line : Line) (i : Nat) : List Mark :=
  marksOf (marksFigure "\\begin".toList (line.text.drop i)) (marksFigure "\\end".toList (line.text.drop i))
    ((labelAt? (line.text.drop i)).map fun l => ⟨l.2, line.offset + (i + l.1), line⟩)

/-- The marks of a line, in order. -/
def marks (line : Line) : List Mark := (List.range (line.text.length + 1)).flatMap (marksAt line)

variable {begins ends : Bool} {l : Label} {l? : Option Label}

lemma begins_mem_marksOf : .begins ∈ marksOf begins ends l? ↔ begins = true := by
  cases begins <;> simp [marksOf]

lemma ends_mem_marksOf : .ends ∈ marksOf begins ends l? ↔ ends = true := by
  cases ends <;> simp [marksOf]

lemma label_mem_marksOf : .label l ∈ marksOf begins ends l? ↔ l? = some l := by
  simp [marksOf]

lemma findSome?_marksOf : (marksOf begins ends l?).findSome? Mark.label? = l? := by
  cases begins <;> cases ends <;> cases l? <;> rfl

/-! ## Markers -/

/-- The nodes of a marker of a figure after its command. -/
def markerTail : List Node :=
  [blanks, .char (.only '{'), blanks, choice (environments.map fun u => sequence (word u)), maybeStar, blanks,
    .char (.only '}')]

lemma beginFigure_node : beginFigure.node = sequence (word "\\begin".toList ++ markerTail) := by decide +kernel

lemma endFigure_node : endFigure.node = sequence (word "\\end".toList ++ markerTail) := by decide +kernel

variable {command text : Text} {line : Line}

lemma opens_names_iff :
    (sequence [choice (environments.map fun u => sequence (word u)), maybeStar, blanks, .char (.only '}')]).Opens text ↔
      namesFigure text = true := by
  have hne : environments ≠ [] := by decide
  unfold namesFigure
  rw [opens_cons, List.any_eq_true]
  simp only [Option.any_eq_true, Text.dropPrefix?_eq_some,
    ← opens_maybeStar_blanks_char (c := '}') (by decide) (by decide), spells_choice_words hne]
  constructor
  · rintro ⟨name, rest, rfl, hname, hrest⟩
    exact ⟨name, hname, rest, rfl, hrest⟩
  · rintro ⟨name, hname, rest, rfl, hrest⟩
    exact ⟨name, rest, rfl, hname, hrest⟩

lemma isBlank_of_namesFigure {c : Char} {rest : Text} (h : namesFigure (c :: rest) = true) :
    Text.isBlank c = false := by
  obtain ⟨name, hname, hrest⟩ := List.any_eq_true.1 h
  obtain ⟨more, hmore, -⟩ := (Option.any_eq_true _ _).1 hrest
  rw [Text.dropPrefix?_eq_some] at hmore
  obtain rfl | rfl : name = "figure".toList ∨ name = "wrapfigure".toList := by simpa [environments] using hname
  · obtain ⟨rfl, -⟩ := List.cons.inj hmore
    decide
  · obtain ⟨rfl, -⟩ := List.cons.inj hmore
    decide

lemma opens_marker_iff :
    (sequence (word command ++ markerTail)).Opens text ↔ marksFigure command text = true := by
  have hnames : ∀ c rest, (sequence [choice (environments.map fun u => sequence (word u)), maybeStar, blanks,
      .char (.only '}')]).Opens (c :: rest) → Text.isBlank c = false := by
    intro c rest hopens
    exact isBlank_of_namesFigure (opens_names_iff.1 hopens)
  unfold marksFigure markerTail
  rw [opens_word, Option.any_eq_true]
  simp only [opens_blanks_char (c := '{') (by decide), opens_blanks hnames, opens_names_iff,
    Option.bind_eq_some_iff, Text.dropPrefix?_eq_some]
  constructor
  · rintro ⟨rest, htext, argument, hargument, hnamed⟩
    exact ⟨argument, ⟨rest, htext, hargument⟩, hnamed⟩
  · rintro ⟨argument, ⟨rest, htext, hargument⟩, hnamed⟩
    exact ⟨rest, htext, argument, hargument, hnamed⟩

lemma occursIn_marker_iff {p : Pattern} (hnode : p.node = sequence (word command ++ markerTail))
    (hplain : p.node.isPlain = true) :
    p.occursIn text = true ↔ ∃ i ∈ List.range (text.length + 1), marksFigure command (text.drop i) = true := by
  rw [occursIn_iff hplain, hnode]
  simp only [opens_marker_iff]

lemma beginFigure_occursIn_iff : beginFigure.occursIn line.text = true ↔ .begins ∈ marks line := by
  rw [occursIn_marker_iff beginFigure_node (by decide +kernel), marks, List.mem_flatMap]
  exact exists_congr fun i => and_congr_right fun _ => begins_mem_marksOf.symm

lemma endFigure_occursIn_iff : endFigure.occursIn line.text = true ↔ .ends ∈ marks line := by
  rw [occursIn_marker_iff endFigure_node (by decide +kernel), marks, List.mem_flatMap]
  exact exists_congr fun i => and_congr_right fun _ => ends_mem_marksOf.symm

/-! ## Labels -/

lemma frames_label :
    Frames label (word "\\label".toList ++ [blanks, .char (.only '{')]) (.chars .allButLineFeed 0 none .lazy)
      [.char (.only '}')] :=
  ⟨by decide +kernel, by decide +kernel, by decide +kernel, by decide +kernel⟩

/-- How a label is written. -/
lemma labelAt?_eq {gap name : Text} (hgap : ∀ c ∈ gap, Text.isBlank c = true) (hname : ∀ c ∈ name, c ≠ '\n' ∧ c ≠ '}')
    (rest : Text) :
    labelAt? ("\\label".toList ++ (gap ++ '{' :: (name ++ '}' :: rest))) =
      some (("\\label".toList ++ (gap ++ ['{'])).length, name) := by
  have hargument : Text.after? '{' (gap ++ '{' :: (name ++ '}' :: rest)) = some (name ++ '}' :: rest) := by
    rw [Text.after?_eq_some, Text.trimStart_append hgap, Text.trimStart_cons (by decide)]
  have htake : (name ++ '}' :: rest).takeWhile (· ≠ '}') = name := by
    rw [List.takeWhile_append_of_pos (by simpa using fun c hc => (hname c hc).2), List.takeWhile_cons_of_neg (by simp),
      List.append_nil]
  unfold labelAt?
  rw [Text.dropPrefix?_eq_some.2 rfl, Option.bind_some, hargument, Option.bind_some]
  dsimp only
  rw [htake, if_pos]
  · simp
    omega
  · refine ⟨by simp, fun hmem => (hname _ hmem).1 rfl⟩

lemma exists_of_labelAt? {l : Nat × Text} (h : labelAt? text = some l) :
    ∃ gap rest : Text, (∀ c ∈ gap, Text.isBlank c = true) ∧ (∀ c ∈ l.2, c ≠ '\n' ∧ c ≠ '}') ∧
      text = "\\label".toList ++ (gap ++ '{' :: (l.2 ++ '}' :: rest)) := by
  obtain ⟨argument, hargument, hname⟩ := Option.bind_eq_some_iff.1 h
  obtain ⟨⟨hlength, hfeed⟩, hname⟩ := Option.ite_none_right_eq_some.1 hname
  obtain rfl := Option.some.inj hname
  obtain ⟨after, hafter, hargument⟩ := Option.bind_eq_some_iff.1 hargument
  rw [Text.dropPrefix?_eq_some] at hafter
  rw [Text.after?_eq_some] at hargument
  obtain ⟨gap, hgap, hsplit⟩ := Text.exists_blanks after
  have hbraceless : ∀ c ∈ argument.takeWhile (· ≠ '}'), (c ≠ '}') := by
    intro c hc
    simpa using List.all_eq_true.1 List.all_takeWhile c hc
  have hparts : argument = argument.takeWhile (· ≠ '}') ++ argument.dropWhile (· ≠ '}') :=
    List.takeWhile_append_dropWhile.symm
  have hstop := List.head?_dropWhile_not (· ≠ '}') argument
  cases hdrop : argument.dropWhile (· ≠ '}') with
  | nil =>
    rw [hdrop, List.append_nil] at hparts
    rw [← hparts] at hlength
    omega
  | cons d rest =>
    rw [hdrop] at hparts hstop
    obtain rfl : d = '}' := by simpa using hstop
    refine ⟨gap, rest, hgap, fun c hc => ⟨?_, hbraceless c hc⟩, ?_⟩
    · rintro rfl
      exact hfeed hc
    · rw [hafter, hsplit, hargument, ← hparts]

lemma label_matchAt_group? (text : Text) (i : Nat) :
    (label.matchAt text.toArray i).bind (·.group? 1) =
      (labelAt? (text.drop i)).map fun l => ⟨i + l.1, i + l.1 + l.2.length, l.2⟩ := by
  cases hm : label.matchAt text.toArray i with
  | some m =>
    obtain ⟨u, name, d, hu, hname, hd, ⟨rest, hrest⟩, hgroup⟩ := frames_label.matchAt_captures_least hm
    obtain ⟨v, rfl, hv⟩ := spells_word_append.1 hu
    obtain ⟨gap, brace, rfl, hgap, hbrace⟩ := spells_sequence_cons.1 hv
    obtain rfl := spells_only.1 hbrace
    obtain rfl := holds_only.1 hd
    have hplain : ∀ c ∈ name, c ≠ '\n' ∧ c ≠ '}' := by
      intro c hc
      have hstop := (hname c hc).2
      refine ⟨holds_allButLineFeed.1 (hname c hc).1, ?_⟩
      rintro rfl
      rw [holds_only.2 rfl] at hstop
      cases hstop
    have htext : text.drop i = "\\label".toList ++ (gap ++ '{' :: (name ++ '}' :: rest)) := by
      simpa using hrest.symm
    rw [htext, labelAt?_eq (spells_blanks.1 hgap) hplain]
    exact hgroup
  | none =>
    cases hlabel : labelAt? (text.drop i) with
    | none => rfl
    | some l =>
      obtain ⟨gap, rest, hgap, hname, htext⟩ := exists_of_labelAt? hlabel
      have hopens : label.node.Opens (text.drop i) := by
        rw [frames_label.node_eq, htext, List.append_assoc]
        refine opens_word.2 ⟨_, rfl, (opens_blanks_char (by decide)).2 ⟨l.2 ++ '}' :: rest, ?_, ?_⟩⟩
        · rw [Text.after?_eq_some, Text.trimStart_append hgap, Text.trimStart_cons (by decide)]
        · have hclosed : (sequence [.char (.only '}')]).Opens ('}' :: rest) :=
            opens_cons.2 ⟨['}'], rest, rfl, spells_only.2 rfl, opens_nil⟩
          refine opens_cons.2 ⟨l.2, '}' :: rest, rfl, ?_, hclosed⟩
          exact ⟨fun c hc => holds_allButLineFeed.2 (hname c hc).1, Nat.zero_le _, by simp⟩
      have hsome := (matchAt_isSome_iff frames_label.isPlain (s := text.toArray) (i := i)).2 hopens
      rw [hm] at hsome
      cases hsome

/-- **The name of a label stands on its line**, at its offset. -/
lemma label_mem_marks (h : .label l ∈ marks line) :
    l.line = line ∧ ∃ column, l.offset = line.offset + column ∧ l.name <+: line.text.drop column := by
  obtain ⟨i, -, hi⟩ := List.mem_flatMap.1 h
  obtain ⟨⟨shift, name⟩, hlabel, rfl⟩ := Option.map_eq_some_iff.1 (label_mem_marksOf.1 hi)
  obtain ⟨gap, rest, hgap, hname, htext⟩ := exists_of_labelAt? hlabel
  rw [htext, labelAt?_eq hgap hname] at hlabel
  obtain ⟨rfl, -⟩ := Prod.mk.inj (Option.some.inj hlabel)
  refine ⟨rfl, i + ("\\label".toList ++ (gap ++ ['{'])).length, rfl, ?_⟩
  have hsplit : line.text.drop i = ("\\label".toList ++ (gap ++ ['{'])) ++ (name ++ '}' :: rest) := by
    simp [htext]
  rw [← List.drop_drop, hsplit, List.drop_left]
  exact List.prefix_append _ _

/-- The pattern of labels finds the first one. -/
lemma search_label (line : Line) :
    ((label.search line.text.toArray 0).bind (·.group? 1)).map (fun c => ⟨c.text, line.offset + c.start, line⟩) =
      (marks line).findSome? Mark.label? := by
  rw [frames_label.search_group?, List.map_findSome?, marks]
  induction List.range (line.text.length + 1) with
  | nil => rfl
  | cons i offsets ih =>
    rw [List.flatMap_cons, List.findSome?_append, List.findSome?_cons, Function.comp_apply, label_matchAt_group?, marksAt,
      findSome?_marksOf]
    cases labelAt? (line.text.drop i) with
    | none => exact ih
    | some l => rfl

end Figures

end MarkupLint
