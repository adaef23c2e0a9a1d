import MarkupLint.Proofs.Pattern.Quoted
import MarkupLint.Proofs.Rule.FigureMarks
import MarkupLint.Proofs.Rule.Visits

/-!
# References to labels

The pattern of a reference quotes the label, which may be any text.  It can always be read (`reads_reference`), and
once its optional parts are written as alternatives (`Node.spelledOut`) it is plain, so that its language tells what
it finds.

* `spells_reference`: the texts of the pattern are the references to the label, `IsReference`;
* `reference_finds_references`: so the pattern is found in a text just when a reference to the label stands there.
-/

namespace MarkupLint

namespace Pattern

/-! ## Optional parts -/

/-- The class of all characters but one. -/
def CharClass.allBut (c : Char) : CharClass := ⟨[.char c.toNat], true, .unicode, false⟩

namespace Node

/-- The node, or nothing where that leads to no match. -/
def optional (body : Node) : Node := .loop 0 (some 1) .greedy body

/-- The node with the optional parts of its sequence written as alternatives. -/
def spelledOut : Node → Node
  | .loop 0 (some 1) .greedy body => .alt body .empty
  | .seq a b => .seq a.spelledOut b.spelledOut
  | n => n

end Node

variable {s : Array Char} {n : Node} {text w : Text}

/-- **An optional part is an alternative to nothing.** -/
lemma run_optional (body : Node) (next : Continuation) (p : Place) :
    (Node.optional body).run s next p = (Node.alt body .empty).run s next p := by
  have hlast : ∀ fuel, iterate (body.run s) 0 (some 1) .greedy next (fuel + 1) 1 (some p.offset) = next := by
    intro fuel
    funext q
    simp [iterate]
  simp only [Node.optional, Node.run]
  rw [iterate]
  simp [hlast]

lemma run_spelledOut (n : Node) (next : Continuation) (p : Place) : n.spelledOut.run s next p = n.run s next p := by
  fun_induction Node.spelledOut n generalizing next p with
  | case1 body => exact (run_optional body next p).symm
  | case2 a b iha ihb =>
    have hb : b.spelledOut.run s next = b.run s next := funext fun q => ihb next q
    rw [Node.run, iha, hb]
    rfl
  | case3 => rfl

lemma spelledOut_sequence (ns : List Node) : (Node.sequence ns).spelledOut = .sequence (ns.map Node.spelledOut) := by
  induction ns with
  | nil => rfl
  | cons n ns ih =>
    cases ns with
    | nil => rfl
    | cons next ns => exact congrArg (Node.seq n.spelledOut) ih

/-- Written out, a pattern matches where it did. -/
lemma matchAt_spelledOut (p : Pattern) : matchAt { p with node := p.node.spelledOut } s = p.matchAt s := by
  funext i
  unfold matchAt
  rw [run_spelledOut]

/-- A pattern that is plain once it is written out occurs in a text just when one of its texts does. -/
lemma occursIn_iff_spelledOut {p : Pattern} (hp : p.node.spelledOut.isPlain = true) :
    p.occursIn text = true ↔ ∃ w, p.node.spelledOut.Spells w ∧ w <:+: text := by
  have hsame : p.occursIn text = occursIn { p with node := p.node.spelledOut } text := by
    unfold occursIn
    rw [search_eq_findSome?, search_eq_findSome?, matchAt_spelledOut]
  rw [hsame, occursIn_iff_isInfix hp]

@[simp] lemma holds_allBut {c d : Char} : (CharClass.allBut c).holds d = true ↔ d ≠ c := by
  simp [CharClass.allBut, CharClass.holds, ClassItem.holds, Char.toNat_inj]

end Pattern

namespace Figures

open Pattern Pattern.Node

/-! ## The language of references -/

/-- The commands that refer to labels. -/
def referenceCommands : List Text :=
  ["ref".toList, "cref".toList, "Cref".toList, "autoref".toList, "vref".toList]

/-- The text is a command whose argument is a list with commas, in which the label stands, blanks around it apart. -/
def IsReference (label w : Text) : Prop :=
  ∃ command ∈ referenceCommands, ∃ gap before left right after : Text,
    w = '\\' :: command ++ gap ++ '{' :: before ++ left ++ label ++ right ++ after ++ ['}'] ∧
    (∀ c ∈ gap ++ left ++ right, Text.isBlank c = true) ∧
    (before = [] ∨ '}' ∉ before ∧ [','] <:+ before) ∧
    (after = [] ∨ '}' ∉ after ∧ [','] <+: after)

/-- Anything without a closing brace. -/
def item : Node := .chars (.allBut '}') 0 none .greedy

/-- The earlier part of a list, up to a comma. -/
def earlierItems : Node := .seq item (.char (.only ','))

/-- The later part of a list, from a comma on. -/
def laterItems : Node := .seq (.char (.only ',')) item

/-- The nodes of a reference. -/
def referenceNodes (label : Text) : List Node :=
  [.char (.only '\\'), choice (referenceCommands.map fun u => sequence (word u)), blanks, .char (.only '{'),
    optional earlierItems, blanks] ++ word label ++ [blanks, optional laterItems, .char (.only '}')]

variable {label w : Text}

lemma spells_item : item.Spells w ↔ '}' ∉ w := by
  simp only [item, Node.Spells, holds_allBut, Nat.zero_le, reduceCtorEq, false_implies, implies_true, and_true]
  exact ⟨fun h hmem => h _ hmem rfl, fun h c hc heq => h (heq ▸ hc)⟩

lemma spells_earlierItems : earlierItems.Spells w ↔ '}' ∉ w ∧ [','] <:+ w := by
  constructor
  · rintro ⟨u, v, rfl, hu, hv⟩
    rw [spells_only.1 hv, List.mem_append]
    exact ⟨by simp [spells_item.1 hu], List.suffix_append u _⟩
  · rintro ⟨hbrace, u, rfl⟩
    exact ⟨u, [','], rfl, spells_item.2 fun hmem => hbrace (List.mem_append_left _ hmem), spells_only.2 rfl⟩

lemma spells_laterItems : laterItems.Spells w ↔ '}' ∉ w ∧ [','] <+: w := by
  constructor
  · rintro ⟨u, v, rfl, hu, hv⟩
    rw [spells_only.1 hu, List.mem_append]
    exact ⟨by simp [spells_item.1 hv], List.prefix_append _ v⟩
  · rintro ⟨hbrace, v, rfl⟩
    exact ⟨[','], v, rfl, spells_only.2 rfl, spells_item.2 fun hmem => hbrace (List.mem_append_right _ hmem)⟩

lemma spells_optional {n : Node} : (optional n).spelledOut.Spells w ↔ w = [] ∨ n.Spells w := or_comm

lemma spelledOut_referenceNodes (label : Text) :
    (referenceNodes label).map spelledOut =
      [.char (.only '\\'), choice (referenceCommands.map fun u => sequence (word u)), blanks, .char (.only '{'),
        (optional earlierItems).spelledOut, blanks] ++
      (word label ++ [blanks, (optional laterItems).spelledOut, .char (.only '}')]) := by
  have hword : (word label).map spelledOut = word label := by
    rw [word, List.map_map]
    rfl
  rw [referenceNodes, List.append_assoc, List.map_append, List.map_append, hword]
  rfl

/-- **The texts of the pattern are the references to the label.** -/
theorem spells_reference : (sequence ((referenceNodes label).map spelledOut)).Spells w ↔ IsReference label w := by
  have hcommands : ∀ {w}, (choice (referenceCommands.map fun u => sequence (word u))).Spells w ↔
      w ∈ referenceCommands := spells_choice_words (by decide)
  rw [spelledOut_referenceNodes]
  simp only [List.cons_append, List.nil_append, spells_sequence_cons, spells_word_append, spells_only, spells_blanks,
    hcommands, spells_optional, spells_earlierItems, spells_laterItems]
  constructor
  · rintro ⟨_, _, rfl, rfl, command, _, rfl, hcommand, gap, _, rfl, hgap, _, _, rfl, rfl, before, _, rfl, hbefore,
      left, _, rfl, hleft, _, rfl, right, _, rfl, hright, after, _, rfl, hafter, _, _, rfl, rfl, rfl⟩
    refine ⟨command, hcommand, gap, before, left, right, after, by simp, ?_, hbefore, hafter⟩
    simp only [List.forall_mem_append]
    exact ⟨⟨hgap, hleft⟩, hright⟩
  · rintro ⟨command, hcommand, gap, before, left, right, after, rfl, hblank, hbefore, hafter⟩
    simp only [List.forall_mem_append] at hblank
    obtain ⟨⟨hgap, hleft⟩, hright⟩ := hblank
    refine ⟨['\\'], _, ?_, rfl, command, _, rfl, hcommand, gap, _, rfl, hgap, ['{'], _, rfl, rfl, before, _, rfl,
      hbefore, left, _, rfl, hleft, _, rfl, right, _, rfl, hright, after, _, rfl, hafter, ['}'], [], rfl, rfl, rfl⟩
    simp

/-! ## Reading the pattern -/

/-- The part of the pattern between the commands and the label. -/
def openingSource : Text := "\\s*\\\x7b(?:[^\x7d]*,)?\\s*".toList

/-- The part of the pattern after the label. -/
def closingSource : Text := "\\s*(?:,[^\x7d]*)?\\\x7d".toList

/-- What is read of the commands, last first. -/
def commandElements : List Element := Element.anyOf referenceCommands :: Element.ofText ['\\']

/-- What is read between the commands and the label, save the last blanks, last first. -/
def openingElements : List Element :=
  [⟨[.node (optional earlierItems)], .repeated⟩, ⟨[.char '{'.toNat], .plain⟩, ⟨[.node blanks], .repeated⟩]

/-- What is read before the label, last first. -/
def frontElements : List Element := ⟨[.node blanks], .repeated⟩ :: (openingElements ++ commandElements)

/-- What is read after the label, last first. -/
def closingElements : List Element :=
  [⟨[.char '}'.toNat], .plain⟩, ⟨[.node (optional laterItems)], .repeated⟩, ⟨[.node blanks], .repeated⟩]

/-- What is read of the pattern of a reference, last first. -/
def referenceElements (label : Text) : List Element :=
  closingElements ++ (Element.ofText label ++ frontElements)

lemma reads_opening {tail : Text} (i : Nat) (htail : GoesOn tail) (hfew : tail.head? ≠ some '?')
    (honly : tail.head? ≠ some '+') :
    Reads (.ofElements commandElements) ⟨i, openingSource ++ tail⟩ (.ofElements frontElements) ⟨i + 19, tail⟩ := by
  -- nothing is known of the tail, and the last star asks whether a sign follows it
  have hsource : openingSource ++ tail = "\\s*\\\x7b(?:[^\x7d]*,)?\\s".toList ++ '*' :: tail := by
    have hstar : openingSource = "\\s*\\\x7b(?:[^\x7d]*,)?\\s".toList ++ ['*'] := by decide
    rw [hstar, List.append_assoc]
    rfl
  have hfixed : Reads (.ofElements commandElements) ⟨i, "\\s*\\\x7b(?:[^\x7d]*,)?\\s".toList ++ '*' :: tail⟩
      (.ofElements (⟨[.set [.category .blank false] false], .plain⟩ :: (openingElements ++ commandElements)))
      ⟨i + 18, '*' :: tail⟩ :=
    ⟨10, by simp +arith, fun _ => rfl⟩
  have hstar := reads_star (r := .ofElements (⟨[.set [.category .blank false] false], .plain⟩ ::
    (openingElements ++ commandElements))) (i := i + 18) rfl rfl htail hfew honly
  rw [hsource]
  exact hfixed.trans hstar

lemma reads_closing (elements : List Element) (i : Nat) :
    Reads (.ofElements elements) ⟨i, closingSource⟩ (.ofElements (closingElements ++ elements)) ⟨i + 16, []⟩ :=
  ⟨9, Nat.le_of_ble_eq_true rfl, fun _ => rfl⟩

lemma referenceSource_eq (label : Text) :
    referenceSource label = escape ['\\'] ++ ("(?:".toList ++ (Text.join ['|'] (referenceCommands.map escape) ++ ')' ::
      (openingSource ++ (escape label ++ closingSource)))) := by
  have hfront : "\\\\(?:ref|cref|Cref|autoref|vref)\\s*\\\x7b(?:[^\x7d]*,)?\\s*".toList =
      escape ['\\'] ++ ("(?:".toList ++ (Text.join ['|'] (referenceCommands.map escape) ++ ')' :: openingSource)) := by
    decide +kernel
  have hassoc : ∀ a b c d : Text, a ++ (b ++ (c ++ ')' :: (d ++ (escape label ++ closingSource)))) =
      a ++ (b ++ (c ++ ')' :: d)) ++ escape label ++ closingSource := by simp
  unfold referenceSource
  rw [hfront, hassoc]
  rfl

/-- The pattern of a reference is read to its end, whatever the label. -/
lemma reads_reference (label : Text) :
    ∃ stop, Reads (.ofElements []) ⟨0, referenceSource label⟩ (.ofElements (referenceElements label)) ⟨stop, []⟩ := by
  have hclosing : GoesOn closingSource := by decide
  have hlabel : GoesOn (escape label ++ closingSource) := goesOn_escape label hclosing
  have hfew : (escape label ++ closingSource).head? ≠ some '?' :=
    head?_escape_ne label (by decide) (by decide) (by decide)
  have honly : (escape label ++ closingSource).head? ≠ some '+' :=
    head?_escape_ne label (by decide) (by decide) (by decide)
  have hgroup : 1 < "(?:".toList.length := by decide
  have hopening : 1 < openingSource.length := by decide
  rw [referenceSource_eq]
  have hbackslash := reads_quoted [] 0 ['\\'] (goesOn_append hgroup
    (Text.join ['|'] (referenceCommands.map escape) ++ ')' :: (openingSource ++ (escape label ++ closingSource))))
  obtain ⟨i, hcommand⟩ := reads_names (Element.ofText ['\\']) 2 referenceCommands
    (goesOn_append hopening (escape label ++ closingSource))
  have hfront := (hbackslash.trans hcommand).trans (reads_opening i hlabel hfew honly)
  have hname := reads_quoted frontElements (i + 19) label hclosing
  exact ⟨_, (hfront.trans hname).trans (reads_closing _ _)⟩

lemma nodes_referenceElements (label : Text) : Element.nodes (referenceElements label) = referenceNodes label := by
  have hlabel : (Element.ofText label).reverse.flatMap (·.parts) = Part.ofText label := by
    rw [Element.ofText, List.reverse_reverse, List.flatMap_map, Part.ofText, List.map_eq_flatMap]
  have hword : (Part.ofText label).map (·.toNode noFlags) = word label := by
    rw [Part.ofText, List.map_map]
    rfl
  have hfront : (frontElements.reverse.flatMap (·.parts)).map (·.toNode noFlags) =
      [.char (.only '\\'), choice (referenceCommands.map fun u => sequence (word u)), blanks, .char (.only '{'),
        optional earlierItems, blanks] := by decide +kernel
  have hback : (closingElements.reverse.flatMap (·.parts)).map (·.toNode noFlags) =
      [blanks, optional laterItems, .char (.only '}')] := by decide +kernel
  simp only [Element.nodes, referenceElements, List.reverse_append, List.flatMap_append,
    List.map_append, hlabel, hword, hfront, hback]
  rfl

lemma looksAhead_referenceElements (label : Text) :
    (referenceElements label).all Element.looksAhead = true := by
  rw [referenceElements, List.all_append, List.all_append, looksAhead_ofText]
  decide +kernel

lemma isPlain_referenceNodes (label : Text) : ∀ n ∈ (referenceNodes label).map spelledOut, n.isPlain = true := by
  have hlabel : ∀ n ∈ word label, n.isPlain = true := List.forall_mem_map.2 fun _ _ => rfl
  rw [spelledOut_referenceNodes, List.forall_mem_append, List.forall_mem_append]
  exact ⟨by decide +kernel, hlabel, by decide +kernel⟩

lemma compile_reference (label : Text) :
    compile (referenceSource label) noFlags = .ok ⟨referenceSource label, sequence (referenceNodes label), 0, []⟩ := by
  obtain ⟨stop, hreads⟩ := reads_reference label
  have hsource : GoesOn (referenceSource label) := by
    rw [referenceSource_eq]
    exact goesOn_append (by decide) _
  rw [← nodes_referenceElements]
  exact compile_of_reads hsource hreads (looksAhead_referenceElements label)

/-- **The pattern of a reference can be read, and finds the references to the label**, whatever characters the label
has. -/
theorem reference_finds_references (label : Text) :
    compile (referenceSource label) noFlags = .ok (reference label) ∧
      ∀ d : Document, (d.find (reference label) 0).isSome ↔ ∃ w, w <:+: d.current ∧ IsReference label w := by
  have hcompile := compile_reference label
  have hreference : reference label = ⟨referenceSource label, sequence (referenceNodes label), 0, []⟩ :=
    trusted_of_compile hcompile
  refine ⟨hreference ▸ hcompile, fun d => ?_⟩
  have hnode : (reference label).node.spelledOut = sequence ((referenceNodes label).map spelledOut) := by
    rw [hreference, spelledOut_sequence]
  have hplain : (reference label).node.spelledOut.isPlain = true := by
    rw [hnode]
    exact isPlain_sequence (isPlain_referenceNodes label)
  calc (d.find (reference label) 0).isSome = true
    _ ↔ (reference label).occursIn d.current = true := by rw [occursIn, ← d.find_natCast]; rfl
    _ ↔ ∃ w, (reference label).node.spelledOut.Spells w ∧ w <:+: d.current := occursIn_iff_spelledOut hplain
    _ ↔ ∃ w, w <:+: d.current ∧ IsReference label w := by
      rw [hnode]
      exact exists_congr fun w => by rw [spells_reference, and_comm]

end Figures

end MarkupLint
