import Mathlib.Data.List.Infix
import MarkupLint.Proofs.Pattern.Language

/-!
# Words, stars and blanks in a pattern

Patterns of commands are made of words, of a star that may be missing and of blanks.  `Node.Opens n text` says that
`text` begins with a text of the node, which is read off `text` from the left: `opens_word`, `opens_blanks` and
`opens_maybeStar` say what is left of it to be read.
-/

namespace MarkupLint

namespace Text

/-- What comes after a star, if there is one. -/
def afterStar (text : Text) : Text := (text.dropPrefix? ['*']).getD text

/-- What comes after a character, which may have blanks before it. -/
def after? (c : Char) (text : Text) : Option Text := text.trimStart.dropPrefix? [c]

variable {word text rest : Text}

lemma dropPrefix?_eq_some : text.dropPrefix? word = some rest ↔ text = word ++ rest := by
  rw [List.dropPrefix?_eq_some_iff]
  constructor
  · rintro ⟨start, rfl, hstart⟩
    rw [eq_of_beq hstart]
  · rintro rfl
    exact ⟨word, rfl, BEq.rfl⟩

lemma after?_eq_some {c : Char} : text.after? c = some rest ↔ text.trimStart = c :: rest :=
  dropPrefix?_eq_some

lemma exists_blanks (text : Text) :
    ∃ blanks : Text, (∀ c ∈ blanks, isBlank c = true) ∧ text = blanks ++ text.trimStart :=
  ⟨text.takeWhile isBlank, List.all_eq_true.1 List.all_takeWhile, List.takeWhile_append_dropWhile.symm⟩

lemma trimStart_append {blanks : Text} (hblanks : ∀ c ∈ blanks, isBlank c = true) (rest : Text) :
    (blanks ++ rest).trimStart = rest.trimStart :=
  List.dropWhile_append_of_pos hblanks

lemma trimStart_cons {c : Char} (hc : isBlank c = false) (rest : Text) : trimStart (c :: rest) = c :: rest :=
  List.dropWhile_cons_of_neg (by simp [hc])

end Text

namespace Pattern

/-- The class of one character. -/
def CharClass.only (c : Char) : CharClass := ⟨[.char c.toNat], false, .unicode, false⟩

/-- The class of the blanks. -/
def CharClass.blank : CharClass := ⟨[.category .blank false], false, .unicode, false⟩

namespace Node

/-- The nodes of the characters of a word. -/
def word (text : Text) : List Node := text.map fun c => .char (.only c)

/-- Any number of blanks. -/
def blanks : Node := .chars .blank 0 none .greedy

/-- A star, or none. -/
def maybeStar : Node := .chars (.only '*') 0 (some 1) .greedy

/-- The text begins with a text of the node. -/
def Opens (n : Node) (text : Text) : Prop := ∃ w, n.Spells w ∧ w <+: text

end Node

open Node

variable {n : Node} {ns : List Node} {c d : Char} {w text rest : Text}

@[simp] lemma holds_only : (CharClass.only c).holds d = true ↔ d = c := by
  simp [CharClass.only, CharClass.holds, ClassItem.holds, Char.toNat_inj]

@[simp] lemma holds_blank : CharClass.blank.holds c = Text.isBlank c := by
  simp [CharClass.blank, CharClass.holds, ClassItem.holds, Category.holds]

@[simp] lemma holds_allButLineFeed : CharClass.allButLineFeed.holds c = true ↔ c ≠ '\n' := by
  simp [CharClass.allButLineFeed, CharClass.holds, ClassItem.holds, ← Char.toNat_inj]

lemma spells_only : (Node.char (.only c)).Spells w ↔ w = [c] := by
  simp [Node.Spells]

lemma spells_blanks : blanks.Spells w ↔ ∀ c ∈ w, Text.isBlank c = true := by
  simp [blanks, Node.Spells]

lemma spells_maybeStar : maybeStar.Spells w ↔ w = [] ∨ w = ['*'] := by
  constructor
  · rintro ⟨hstar, -, hmost⟩
    have hlength := hmost 1 rfl
    match w, hstar, hlength with
    | [], _, _ => exact Or.inl rfl
    | [c], hstar, _ => exact Or.inr (congrArg ([·]) (holds_only.1 (hstar c (by simp))))
  · rintro (rfl | rfl)
    · simp [maybeStar, Node.Spells]
    · simp [maybeStar, Node.Spells]

lemma opens_cons :
    (sequence (n :: ns)).Opens text ↔ ∃ u rest, text = u ++ rest ∧ n.Spells u ∧ (sequence ns).Opens rest := by
  constructor
  · rintro ⟨w, hw, more, rfl⟩
    obtain ⟨u, v, rfl, hu, hv⟩ := spells_sequence_cons.1 hw
    exact ⟨u, v ++ more, List.append_assoc .., hu, v, hv, List.prefix_append _ _⟩
  · rintro ⟨u, rest, rfl, hu, v, hv, hprefix⟩
    exact ⟨u ++ v, spells_sequence_cons.2 ⟨u, v, rfl, hu, hv⟩, (List.prefix_append_right_inj u).2 hprefix⟩

lemma opens_nil : (sequence []).Opens text := ⟨[], rfl, List.nil_prefix⟩

lemma opens_word :
    (sequence (word w ++ ns)).Opens text ↔ ∃ rest, text = w ++ rest ∧ (sequence ns).Opens rest := by
  induction w generalizing text with
  | nil => simp [word]
  | cons c w ih =>
    rw [word, List.map_cons, List.cons_append, ← word, opens_cons]
    constructor
    · rintro ⟨u, more, rfl, hu, hmore⟩
      obtain ⟨rest, rfl, hrest⟩ := ih.1 hmore
      exact ⟨rest, by rw [spells_only.1 hu]; rfl, hrest⟩
    · rintro ⟨rest, rfl, hrest⟩
      exact ⟨[c], w ++ rest, rfl, spells_only.2 rfl, ih.2 ⟨rest, rfl, hrest⟩⟩

/-- A plain pattern occurs in a text just when one of its texts begins somewhere. -/
lemma occursIn_iff {p : Pattern} (hp : p.node.isPlain = true) :
    p.occursIn text = true ↔ ∃ i ∈ List.range (text.length + 1), p.node.Opens (text.drop i) := by
  unfold occursIn
  rw [search_eq_findSome?, List.findSome?_isSome_iff]
  simp only [matchAt_isSome_iff hp]
  rfl

/-- A plain pattern occurs in a text just when one of its texts does. -/
lemma occursIn_iff_isInfix {p : Pattern} (hp : p.node.isPlain = true) :
    p.occursIn text = true ↔ ∃ w, p.node.Spells w ∧ w <:+: text := by
  rw [occursIn_iff hp]
  constructor
  · rintro ⟨i, -, w, hw, hprefix⟩
    exact ⟨w, hw, hprefix.isInfix.trans (List.drop_suffix i text).isInfix⟩
  · rintro ⟨w, hw, before, after, rfl⟩
    refine ⟨before.length, ?_, w, hw, ?_⟩
    · simp +arith
    · rw [List.append_assoc, List.drop_left]
      exact List.prefix_append w after

/-- Blanks are passed, all of them where what follows does not begin with one. -/
lemma opens_blanks (h : ∀ c rest, (sequence ns).Opens (c :: rest) → Text.isBlank c = false) :
    (sequence (blanks :: ns)).Opens text ↔ (sequence ns).Opens text.trimStart := by
  rw [opens_cons]
  constructor
  · rintro ⟨u, rest, rfl, hu, hrest⟩
    rw [Text.trimStart_append (spells_blanks.1 hu)]
    cases rest with
    | nil => exact hrest
    | cons c rest =>
      rw [Text.trimStart_cons (h c rest hrest)]
      exact hrest
  · intro hrest
    obtain ⟨u, hu, htext⟩ := Text.exists_blanks text
    exact ⟨u, text.trimStart, htext, spells_blanks.2 hu, hrest⟩

/-- A star is passed, if there is one, where what follows does not begin with one. -/
lemma opens_maybeStar (h : ∀ rest, ¬ (sequence ns).Opens ('*' :: rest)) :
    (sequence (maybeStar :: ns)).Opens text ↔ (sequence ns).Opens text.afterStar := by
  rw [opens_cons]
  constructor
  · rintro ⟨u, rest, rfl, hu, hrest⟩
    rcases spells_maybeStar.1 hu with rfl | rfl
    · have hnone : rest.dropPrefix? ['*'] = none := by
        rw [Option.eq_none_iff_forall_ne_some]
        intro more hmore
        rw [Text.dropPrefix?_eq_some.1 hmore] at hrest
        exact h more hrest
      rwa [List.nil_append, Text.afterStar, hnone]
    · rwa [Text.afterStar, Text.dropPrefix?_eq_some.2 rfl]
  · intro hrest
    cases hstar : text.dropPrefix? ['*'] with
    | none =>
      rw [Text.afterStar, hstar] at hrest
      exact ⟨[], text, rfl, spells_maybeStar.2 (Or.inl rfl), hrest⟩
    | some rest =>
      rw [Text.afterStar, hstar] at hrest
      exact ⟨['*'], rest, Text.dropPrefix?_eq_some.1 hstar, spells_maybeStar.2 (Or.inr rfl), hrest⟩

/-- A character that may have blanks before it is read, if it is no blank itself. -/
lemma opens_blanks_char (hc : Text.isBlank c = false) :
    (sequence (blanks :: .char (.only c) :: ns)).Opens text ↔
      ∃ rest, text.after? c = some rest ∧ (sequence ns).Opens rest := by
  have hchar : ∀ {text}, (sequence (.char (.only c) :: ns)).Opens text ↔
      ∃ rest, text = c :: rest ∧ (sequence ns).Opens rest := opens_word (w := [c])
  rw [opens_blanks, hchar]
  · simp only [Text.after?_eq_some]
  · intro d rest hd
    obtain ⟨_, heq, -⟩ := hchar.1 hd
    obtain ⟨rfl, -⟩ := List.cons.inj heq
    exact hc

lemma opens_maybeStar_blanks_char (hc : Text.isBlank c = false) (hstar : c ≠ '*') :
    (sequence [maybeStar, blanks, .char (.only c)]).Opens text ↔ (text.afterStar.after? c).isSome := by
  rw [opens_maybeStar, opens_blanks_char hc, Option.isSome_iff_exists]
  · simp only [opens_nil, and_true]
  · intro rest hopens
    obtain ⟨more, hmore, -⟩ := (opens_blanks_char hc).1 hopens
    rw [Text.after?_eq_some, Text.trimStart_cons (by decide)] at hmore
    exact hstar (List.cons.inj hmore).1.symm

lemma spells_word_append {u : Text} :
    (sequence (word u ++ ns)).Spells w ↔ ∃ v, w = u ++ v ∧ (sequence ns).Spells v := by
  induction u generalizing w with
  | nil => simp [word]
  | cons c u ih =>
    rw [word, List.map_cons, List.cons_append, ← word, spells_sequence_cons]
    constructor
    · rintro ⟨_, _, rfl, hc, hu⟩
      obtain ⟨v, rfl, hv⟩ := ih.1 hu
      exact ⟨v, by rw [spells_only.1 hc]; rfl, hv⟩
    · rintro ⟨v, rfl, hv⟩
      exact ⟨[c], u ++ v, rfl, spells_only.2 rfl, ih.2 ⟨v, rfl, hv⟩⟩

lemma spells_word {u : Text} : (sequence (word u)).Spells w ↔ w = u := by
  have happend : (sequence (word u ++ [])).Spells w ↔ ∃ v, w = u ++ v ∧ (sequence []).Spells v := spells_word_append
  simpa [Node.sequence, Node.Spells] using happend

lemma spells_choice_words {words : List Text} (hne : words ≠ []) :
    (choice (words.map fun u => sequence (word u))).Spells w ↔ w ∈ words := by
  induction words with
  | nil => exact absurd rfl hne
  | cons u words ih =>
    cases words with
    | nil => rw [List.mem_singleton, ← spells_word]; rfl
    | cons v words =>
      rw [List.mem_cons, ← ih (List.cons_ne_nil _ _), ← spells_word (u := u)]
      rfl

end Pattern

end MarkupLint
