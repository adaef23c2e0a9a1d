import MarkupLint.Proofs.Pattern.Words
import MarkupLint.Rule.Headings

/-!
# The heading of a line

The heading of a line is its first sectioning command: a backslash and the name, perhaps a star, and the brace that
opens the argument.  `heading?` reads it off the characters, and `openedBy?_eq` says that the patterns of headings find
the same.
-/

namespace MarkupLint

open Pattern Pattern.Node

namespace Headings

/-- A sectioning command and where its name stands. -/
structure Heading where
  command : Text
  range : Range
deriving DecidableEq, Repr

/-- The level of a heading; the outermost one is zero. -/
def Heading.level (h : Heading) : Nat := commands.idxOf h.command

/-- The commands of sections whose length counts. -/
def sizedCommands : List Text :=
  ["chapter".toList, "section".toList, "subsection".toList, "subsubsection".toList]

/-- Whether a text, perhaps after a star, begins with an argument. -/
def opensArgument (text : Text) : Bool := (text.afterStar.after? '{').isSome

/-- The name of the command with which a text begins, among the given ones. -/
def commandAt? (names : List Text) (text : Text) : Option Text :=
  names.find? fun name => (text.dropPrefix? ('\\' :: name)).any opensArgument

/-- The first command of a line, among the given ones. -/
def heading? (names : List Text) (line : Line) : Option Heading :=
  (List.range (line.text.length + 1)).findSome? fun i =>
    (commandAt? names (line.text.drop i)).map fun name => ⟨name, .ofSize (line.offset + (i + 1)) name.length⟩

/-- The section that a heading opens. -/
def Heading.opened (h : Heading) : Section := ⟨h.command, h.range, 0, 0⟩

@[simp] lemma Heading.opened_level (h : Heading) : h.opened.level = h.level := rfl

/-- The pattern is that of the given commands, of which none begins with another. -/
structure Reads (p : Pattern) (names : List Text) : Prop where
  frames : Frames p (word ['\\']) (choice (names.map fun u => sequence (word u))) [maybeStar, blanks, .char (.only '{')]
  names_ne_nil : names ≠ []
  eq_of_prefix : ∀ u ∈ names, ∀ v ∈ names, u <+: v → u = v

lemma reads_heading : Reads heading commands where
  frames := ⟨by decide +kernel, by decide +kernel, by decide +kernel, by decide +kernel⟩
  names_ne_nil := by decide
  eq_of_prefix := by decide

lemma reads_sizedHeading : Reads sizedHeading sizedCommands where
  frames := ⟨by decide +kernel, by decide +kernel, by decide +kernel, by decide +kernel⟩
  names_ne_nil := by decide
  eq_of_prefix := by decide

variable {p : Pattern} {names : List Text} {name text rest : Text}

lemma any_opensArgument_iff :
    (text.dropPrefix? ('\\' :: name)).any opensArgument = true ↔
      ∃ rest, text = '\\' :: (name ++ rest) ∧ (sequence [maybeStar, blanks, .char (.only '{')]).Opens rest := by
  rw [Option.any_eq_true]
  simp only [opens_maybeStar_blanks_char (c := '{') (by decide) (by decide), Text.dropPrefix?_eq_some, List.cons_append,
    opensArgument]

lemma exists_of_commandAt? (h : commandAt? names text = some name) :
    name ∈ names ∧
      ∃ rest, text = '\\' :: (name ++ rest) ∧ (sequence [maybeStar, blanks, .char (.only '{')]).Opens rest := by
  unfold commandAt? at h
  have hholds := List.find?_some h
  exact ⟨List.mem_of_find?_eq_some h, any_opensArgument_iff.1 hholds⟩

/-- Two commands with which one text begins are the same. -/
lemma Reads.commandAt?_eq_some (h : Reads p names) (hname : name ∈ names)
    (hrest : (sequence [maybeStar, blanks, .char (.only '{')]).Opens rest) :
    commandAt? names ('\\' :: (name ++ rest)) = some name := by
  have hsome : (commandAt? names ('\\' :: (name ++ rest))).isSome :=
    List.find?_isSome.2 ⟨name, hname, any_opensArgument_iff.2 ⟨rest, rfl, hrest⟩⟩
  obtain ⟨other, hother⟩ := Option.isSome_iff_exists.1 hsome
  obtain ⟨hmem, more, hmore, -⟩ := exists_of_commandAt? hother
  have hsplit : name ++ rest = other ++ more := (List.cons.inj hmore).2
  rw [hother]
  rcases List.prefix_or_prefix_of_prefix (List.prefix_append name rest)
    (hsplit ▸ List.prefix_append other more) with hprefix | hprefix
  · rw [h.eq_of_prefix name hname other hmem hprefix]
  · rw [h.eq_of_prefix other hmem name hname hprefix]

/-- What the pattern of commands matches at an offset. -/
lemma Reads.matchAt_group? (h : Reads p names) (text : Text) (i : Nat) :
    (p.matchAt text.toArray i).bind (·.group? 1) =
      (commandAt? names (text.drop i)).map fun name => ⟨i + 1, i + 1 + name.length, name⟩ := by
  cases hm : p.matchAt text.toArray i with
  | some m =>
    obtain ⟨u, name, t, hu, hname, ht, ⟨rest, hrest⟩, hgroup⟩ := h.frames.matchAt_captures hm
    rw [spells_word.1 hu] at hrest hgroup
    have htext : text.drop i = '\\' :: (name ++ (t ++ rest)) := by simpa using hrest.symm
    rw [htext, h.commandAt?_eq_some ((spells_choice_words h.names_ne_nil).1 hname) ⟨t, ht, List.prefix_append _ _⟩]
    simpa using hgroup
  | none =>
    cases hcommand : commandAt? names (text.drop i) with
    | none => rfl
    | some name =>
      -- the command is a text of the pattern
      obtain ⟨hname, rest, htext, hrest⟩ := exists_of_commandAt? hcommand
      have hopens : p.node.Opens (text.drop i) := by
        rw [h.frames.node_eq, htext]
        refine opens_word.2 ⟨name ++ rest, rfl, opens_cons.2 ⟨name, rest, rfl, ?_, hrest⟩⟩
        exact (spells_choice_words h.names_ne_nil).2 hname
      have hsome := (matchAt_isSome_iff h.frames.isPlain (s := text.toArray) (i := i)).2 hopens
      rw [hm] at hsome
      cases hsome

/-- **The patterns of headings find the first command of a line.** -/
theorem Reads.openedBy?_eq (h : Reads p names) (line : Line) :
    openedBy? p line = (heading? names line).map Heading.opened := by
  unfold openedBy? heading?
  rw [h.frames.search_group?, List.map_findSome?, List.map_findSome?]
  congr 1
  funext i
  rw [Function.comp_apply, Function.comp_apply, h.matchAt_group?, Option.map_map, Option.map_map]
  rfl

end Headings

end MarkupLint
