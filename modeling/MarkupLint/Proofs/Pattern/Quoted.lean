import Mathlib.Tactic.Common
import MarkupLint.Pattern.Basic

/-!
# Patterns that quote texts

Some patterns are put together from parts that are known and from texts that are not, which are quoted.  `Reads` says
that the reader comes from one place of a source to another one, whatever it reads after that.

* `reads_escape`: a quoted text is read as its characters, one after the other;
* `reads_choice`: quoted texts between bars, in a group, are read as alternatives;
* `reads_star`: a star repeats what was read before it;
* `compile_of_reads`: a source that is read to its end without a look-behind is a pattern.
-/

namespace MarkupLint

namespace Pattern

/-! ## From place to place -/

/-- The reader comes from the cursor `c` to the cursor `c'`, and takes no more steps than it passes characters. -/
def Reads (r : Reading) (c : Cursor) (r' : Reading) (c' : Cursor) : Prop :=
  ∃ steps, steps + c'.rest.length ≤ c.rest.length ∧ ∀ fuel, readAll (fuel + steps) r c = readAll fuel r' c'

/-- What is left to read is not a lone backslash, at which the reader stops. -/
def GoesOn (tail : Text) : Prop := tail ≠ ['\\']

instance : DecidablePred GoesOn := fun _ => inferInstanceAs (Decidable (_ ≠ _))

variable {r r' r'' : Reading} {c c' c'' : Cursor} {text tail : Text} {names : List Text} {i : Nat} {e : Char}

lemma Reads.refl (r : Reading) (c : Cursor) : Reads r c r c := ⟨0, by simp, fun _ => rfl⟩

lemma Reads.trans (h₁ : Reads r c r' c') (h₂ : Reads r' c' r'' c'') : Reads r c r'' c'' := by
  obtain ⟨first, hfirst, h₁⟩ := h₁
  obtain ⟨second, hsecond, h₂⟩ := h₂
  refine ⟨second + first, by omega, fun fuel => ?_⟩
  rw [← Nat.add_assoc, h₁, h₂]

lemma Reads.of_token {t : Token} (htoken : c.token? = some t) (h : readToken r t c = .ok (r', c'))
    (hlength : c'.rest.length < c.rest.length) : Reads r c r' c' := by
  refine ⟨1, by omega, fun fuel => ?_⟩
  rw [readAll, htoken]
  dsimp only
  rw [h]
  rfl

/-- A reader that has come to the end is done. -/
lemma Reads.readAll_eq (h : Reads r c r' ⟨i, []⟩) : readAll c.rest.length r c = .ok r' := by
  obtain ⟨steps, hsteps, h⟩ := h
  obtain ⟨fuel, hfuel⟩ : ∃ fuel, c.rest.length = fuel + steps := by
    refine ⟨c.rest.length - steps, ?_⟩
    rw [List.length_nil] at hsteps
    omega
  rw [hfuel, h]
  cases fuel <;> rfl

lemma token?_plain (he : e ≠ '\\') : Cursor.token? ⟨i, e :: tail⟩ = some (.plain e) := by
  unfold Cursor.token?
  split
  · next h => cases h
  · next h => exact absurd (List.cons.inj h).1 he
  · next h => rw [(List.cons.inj h).1]

lemma advance_plain (he : e ≠ '\\') (h : GoesOn tail) :
    Cursor.advance ⟨i, e :: tail⟩ = .ok ⟨i + 1, tail⟩ := by
  unfold Cursor.advance
  split
  · next h => cases h
  · next h => exact absurd (List.cons.inj h).1 he
  · next hrest =>
    rw [← (List.cons.inj hrest).2]
    exact if_neg h

/-- A plain character is read on its own, if it is neither a parenthesis that closes nothing nor a bar. -/
lemma Reads.of_plain (he : e ≠ '\\') (hcheck : r.checkToken (.plain e) ⟨i, e :: tail⟩ = .ok ())
    (htail : GoesOn tail) (h : readPlain r e i ⟨i + 1, tail⟩ = .ok (r', c'))
    (hlength : c'.rest.length ≤ tail.length) : Reads r ⟨i, e :: tail⟩ r' c' := by
  refine .of_token (token?_plain he) ?_ (Nat.lt_succ_of_le hlength)
  rw [readToken, hcheck, advance_plain he htail]
  exact h

/-! ## Quoted texts -/

/-- The reading with the characters of a text read. -/
def Reading.spell (r : Reading) (text : Text) : Reading := text.foldl (fun r e => r.push (.char e.toNat)) r

/-- The part of every character of a text. -/
def Part.ofText (text : Text) : List Part := text.map fun e => .char e.toNat

lemma checkToken_of_ne (r : Reading) {token : Token} (here : Cursor) (hparen : token ≠ .plain ')')
    (hbar : token ≠ .plain '|') : r.checkToken token here = .ok () := by
  unfold Reading.checkToken
  dsimp only
  rw [if_neg (by simp [hparen])]
  split
  · rw [if_neg (by simp [hbar])]
    rfl
  · rfl

lemma readEscape_special (r : Reading) (c : Cursor) :
    ∀ e ∈ specialChars, readEscape r e c = .ok (r.push (.char e.toNat), c) := by
  simp only [specialChars, List.forall_mem_cons, List.not_mem_nil, false_implies, implies_true, and_true]
  and_intros <;> rfl

lemma readPlain_ordinary (hr : r.level.flags.verbose = false) (he : e ∉ specialChars) (c : Cursor) :
    readPlain r e i c = .ok (r.push (.char e.toNat), c) := by
  simp only [specialChars, List.mem_cons, not_or] at he
  simp [readPlain, hr, he, pure, Except.pure]

lemma goesOn_cons (he : e ≠ '\\') : GoesOn (e :: tail) := fun h => he (List.cons.inj h).1

lemma goesOn_append (h : 1 < text.length) (tail : Text) : GoesOn (text ++ tail) := by
  intro heq
  have hlength := congrArg List.length heq
  rw [List.length_append, List.length_singleton] at hlength
  omega

lemma goesOn_escape (text : Text) (h : GoesOn tail) : GoesOn (escape text ++ tail) := by
  cases text with
  | nil => exact h
  | cons e text =>
    rw [escape, List.flatMap_cons]
    unfold escapeChar
    split
    · simp [GoesOn]
    · next he =>
      refine goesOn_cons ?_
      rintro rfl
      exact he (by decide)

lemma reads_escapeChar (hr : r.level.flags.verbose = false) (e : Char) (h : GoesOn tail) :
    Reads r ⟨i, escapeChar e ++ tail⟩ (r.push (.char e.toNat)) ⟨i + (escapeChar e).length, tail⟩ := by
  unfold escapeChar
  split
  · next he =>
    refine .of_token (t := .escape e) rfl ?_ (by simp +arith)
    rw [readToken, checkToken_of_ne _ _ (by simp) (by simp)]
    have hadvance : Cursor.advance ⟨i, ['\\', e] ++ tail⟩ = .ok ⟨i + 2, tail⟩ := if_neg h
    rw [hadvance]
    exact readEscape_special r _ e (List.contains_iff_mem.1 he)
  · next he =>
    rw [List.contains_iff_mem] at he
    have hne : ∀ d ∈ specialChars, e ≠ d := fun d hd h => he (h ▸ hd)
    have hparen : Token.plain e ≠ .plain ')' := fun h => hne _ (by decide) (Token.plain.inj h)
    have hbar : Token.plain e ≠ .plain '|' := fun h => hne _ (by decide) (Token.plain.inj h)
    exact .of_plain (hne _ (by decide)) (checkToken_of_ne _ _ hparen hbar) h (readPlain_ordinary hr he _)
      (Nat.le_refl _)

/-- **A quoted text is read as its characters.** -/
theorem reads_escape (hr : r.level.flags.verbose = false) (text : Text) (h : GoesOn tail) :
    Reads r ⟨i, escape text ++ tail⟩ (r.spell text) ⟨i + (escape text).length, tail⟩ := by
  induction text generalizing r i with
  | nil => exact .refl _ _
  | cons e text ih =>
    have hfirst := reads_escapeChar (i := i) hr e (goesOn_escape text h)
    have hrest := ih (r := r.push (.char e.toNat)) (i := i + (escapeChar e).length) hr
    have hescape : escape (e :: text) = escapeChar e ++ escape text := List.flatMap_cons
    rw [hescape, List.append_assoc, List.length_append, ← Nat.add_assoc]
    exact hfirst.trans hrest

/-! ## Alternatives -/

/-- The reading with alternatives read that are texts. -/
def Reading.spellAny : List Text → Reading → Reading
  | [], r => r
  | [name], r => r.spell name
  | name :: names, r => spellAny names { r.spell name with level := (r.spell name).level.split }

lemma spell_eq (r : Reading) (text : Text) :
    r.spell text = { r with level := { r.level with
      elements := (text.map fun e => ⟨[.char e.toNat], .plain⟩).reverse ++ r.level.elements } } := by
  induction text generalizing r with
  | nil => rfl
  | cons e text ih =>
    have hstep : r.spell (e :: text) = (r.push (.char e.toNat)).spell text := rfl
    rw [hstep, ih]
    simp [Reading.push, Level.push]

lemma parts_spell (r : Reading) (text : Text) : (r.spell text).level.parts = r.level.parts ++ Part.ofText text := by
  rw [spell_eq]
  simp [Level.parts, Part.ofText, List.flatMap_map, ← List.map_eq_flatMap]

lemma reads_bar (hr : r.level.flags.verbose = false) (hopening : r.level.opening = .plain) (h : GoesOn tail) :
    Reads r ⟨i, '|' :: tail⟩ { r with level := r.level.split } ⟨i + 1, tail⟩ := by
  refine .of_plain (by decide) ?_ h ?_ (Nat.le_refl _)
  · simp [Reading.checkToken, hopening, pure, Except.pure]
  · simp [readPlain, hr, pure, Except.pure]

lemma reads_open (hr : r.level.flags.verbose = false) (h : GoesOn tail) :
    Reads r ⟨i, '(' :: '?' :: ':' :: tail⟩ (r.openWith .plain i) ⟨i + 3, tail⟩ := by
  have haccept : Cursor.accept ⟨i + 1, '?' :: ':' :: tail⟩ '?' = .ok (true, ⟨i + 2, ':' :: tail⟩) := rfl
  have hnext : nextToken ⟨i + 2, ':' :: tail⟩ .unexpectedEnd = .ok (.plain ':', ⟨i + 3, tail⟩) := by
    rw [nextToken, token?_plain (by decide)]
    dsimp only
    rw [advance_plain (by decide) h]
    rfl
  have hgroup : readGroup r i ⟨i + 1, '?' :: ':' :: tail⟩ =
      .ok (r.openWith .plain i, ⟨i + 3, tail⟩) := by
    unfold readGroup
    rw [haccept]
    change (nextToken _ _ >>= _) = _
    rw [hnext]
    rfl
  refine .of_plain (by decide) (checkToken_of_ne _ _ (by decide) (by decide)) (goesOn_cons (by decide)) ?_
    (by simp +arith)
  simpa [readPlain, hr, pure, Except.pure] using hgroup

lemma reads_close {outside : Level} {outer : List Level} (hr : r.level.flags.verbose = false)
    (hopening : r.level.opening = .plain) (houter : r.outer = outside :: outer) (h : GoesOn tail) :
    Reads r ⟨i, ')' :: tail⟩ (r.close outside outer) ⟨i + 1, tail⟩ := by
  refine .of_plain (by decide) ?_ h ?_ (Nat.le_refl _)
  · simp [Reading.checkToken, hopening, houter, pure, Except.pure]
  · simp [readPlain, hr, houter, pure, Except.pure]

/-- The parts of a choice between texts. -/
def Part.anyOf (f : Flags) (names : List Text) : List Part :=
  Part.choice f (if names = [] then [[]] else names.map ofText)

/-- Reading alternatives changes nothing but the alternatives of the innermost group. -/
lemma spellAny_eq (names : List Text) (r : Reading) (hr : r.level.elements = []) :
    ∃ l : Level, r.spellAny names = { r with level := l } ∧ l.opening = r.level.opening ∧ l.flags = r.level.flags ∧
      l.alternatives = r.level.branches.reverse ++ if names = [] then [[]] else names.map Part.ofText := by
  have hparts : r.level.parts = [] := by simp [Level.parts, hr]
  have hspell : ∀ name, (r.spell name).level.parts = Part.ofText name := by
    intro name
    rw [parts_spell, hparts, List.nil_append]
  induction names generalizing r with
  | nil => exact ⟨r.level, rfl, rfl, rfl, by simp [Level.alternatives, hparts]⟩
  | cons name names ih =>
    cases names with
    | nil =>
      refine ⟨(r.spell name).level, ?_, ?_, ?_, ?_⟩
      · rw [Reading.spellAny, spell_eq]
      · rw [spell_eq]
      · rw [spell_eq]
      · rw [Level.alternatives, hspell, spell_eq]
        simp
    | cons next names =>
      -- the first alternative is finished, and the next one is begun
      obtain ⟨l, hl, hopening, hflags, halternatives⟩ :=
        ih { r.spell name with level := (r.spell name).level.split } rfl rfl (fun name => by rw [parts_spell]; rfl)
      refine ⟨l, ?_, ?_, ?_, ?_⟩
      · rw [Reading.spellAny, hl, spell_eq]
        simp
      · rw [hopening, spell_eq]
        rfl
      · rw [hflags, spell_eq]
        rfl
      · rw [halternatives, Level.split, hspell, spell_eq]
        simp

lemma join_escape_cons (name next : Text) (names : List Text) (tail : Text) :
    Text.join ['|'] ((name :: next :: names).map escape) ++ tail =
      escape name ++ '|' :: (Text.join ['|'] ((next :: names).map escape) ++ tail) := by
  simp [Text.join]

lemma goesOn_alternatives (names : List Text) (h : GoesOn tail) :
    GoesOn (Text.join ['|'] (names.map escape) ++ tail) := by
  cases names with
  | nil => exact h
  | cons name names =>
    cases names with
    | nil => exact goesOn_escape name h
    | cons next names =>
      rw [join_escape_cons]
      exact goesOn_escape name (goesOn_cons (by decide))

lemma reads_alternatives (hr : r.level.flags.verbose = false) (hopening : r.level.opening = .plain) (names : List Text)
    (h : GoesOn tail) :
    ∃ stop, Reads r ⟨i, Text.join ['|'] (names.map escape) ++ tail⟩ (r.spellAny names) ⟨stop, tail⟩ := by
  induction names generalizing r i with
  | nil => exact ⟨i, .refl _ _⟩
  | cons name names ih =>
    cases names with
    | nil => exact ⟨_, reads_escape hr name h⟩
    | cons next names =>
      have hrest := goesOn_alternatives (next :: names) h
      rw [join_escape_cons]
      generalize Text.join ['|'] ((next :: names).map escape) ++ tail = rest at hrest ih
      have hlevel : (r.spell name).level.flags = r.level.flags ∧ (r.spell name).level.opening = r.level.opening := by
        rw [spell_eq]
        exact ⟨rfl, rfl⟩
      have hname : Reads r ⟨i, escape name ++ '|' :: rest⟩ _ _ := reads_escape hr name (goesOn_cons (by decide))
      have hbar := reads_bar (i := i + (escape name).length) (hlevel.1 ▸ hr) (hlevel.2 ▸ hopening) hrest
      obtain ⟨stop, hstop⟩ := ih (r := { r.spell name with level := (r.spell name).level.split })
        (i := i + (escape name).length + 1) (hlevel.1 ▸ hr) (hlevel.2 ▸ hopening)
      exact ⟨stop, (hname.trans hbar).trans hstop⟩

/-- **Quoted texts in a group are read as a choice between them.** -/
theorem reads_choice (hr : r.level.flags.verbose = false) (names : List Text) (h : GoesOn tail) :
    ∃ stop, Reads r ⟨i, "(?:".toList ++ (Text.join ['|'] (names.map escape) ++ ')' :: tail)⟩
      { r with level := r.level.push (Part.anyOf r.level.flags names) .plain } ⟨stop, tail⟩ := by
  have hparen : GoesOn (')' :: tail) := goesOn_cons (by decide)
  obtain ⟨l, hl, hopening, hflags, halternatives⟩ := spellAny_eq names (r.openWith .plain i) rfl
  have hopen := reads_open (i := i) hr (goesOn_alternatives names hparen)
  obtain ⟨stop, hnames⟩ := reads_alternatives (r := r.openWith .plain i) (i := i + 3) hr rfl names hparen
  have hclose := reads_close (r := { r.openWith .plain i with level := l }) (i := stop) (hflags ▸ hr) hopening
    rfl h
  have hbody : Part.anyOf r.level.flags names = l.body := by
    rw [Level.body, halternatives, hflags]
    rfl
  rw [hl] at hnames
  refine ⟨stop + 1, ?_⟩
  rw [hbody]
  have hclosed : Reading.close { r.openWith .plain i with level := l } r.level r.outer =
      { r with level := r.level.push l.body .plain } := by
    simp only [Reading.close, hopening]
    rfl
  rw [← hclosed]
  exact (hopen.trans hnames).trans hclose

/-! ## Repetitions -/

lemma accept_of_head?_ne (h : text.head? ≠ some e) (he : e ≠ '\\') :
    Cursor.accept ⟨i, text⟩ e = .ok (false, ⟨i, text⟩) := by
  refine if_neg fun htoken => ?_
  cases text with
  | nil => cases htoken
  | cons d text =>
    by_cases hd : d = '\\'
    · subst hd
      cases text with
      | nil => exact he (Token.plain.inj (Option.some.inj htoken)).symm
      | cons _ _ => cases Option.some.inj htoken
    · rw [token?_plain hd] at htoken
      exact h (congrArg some (Token.plain.inj (Option.some.inj htoken)))

/-- A star repeats the last element, as often as possible if no other sign follows. -/
lemma reads_star {parts : List Part} {earlier : List Element} (hr : r.level.flags.verbose = false)
    (helements : r.level.elements = ⟨parts, .plain⟩ :: earlier) (h : GoesOn tail) (hfew : tail.head? ≠ some '?')
    (honly : tail.head? ≠ some '+') :
    Reads r ⟨i, '*' :: tail⟩ { r with level := { r.level with elements :=
      ⟨[.node ((Part.sequence r.level.flags parts).repeated 0 none .greedy)], .repeated⟩ :: earlier } }
      ⟨i + 1, tail⟩ := by
  refine .of_plain (by decide) (checkToken_of_ne _ _ (by decide) (by decide)) h ?_ (Nat.le_refl _)
  have hrepeat : readPlain r '*' i ⟨i + 1, tail⟩ = readRepeat r 0 none i ⟨i + 1, tail⟩ := by
    simp [readPlain, hr]
  rw [hrepeat, readRepeat, helements]
  dsimp only
  rw [accept_of_head?_ne hfew (by decide)]
  change (Cursor.accept _ '+' >>= _) = _
  rw [accept_of_head?_ne honly (by decide)]
  rfl

/-- A quoted text begins with no sign of its own. -/
lemma head?_escape_ne (text : Text) (he : e ∈ specialChars) (hne : e ≠ '\\') (htail : tail.head? ≠ some e) :
    (escape text ++ tail).head? ≠ some e := by
  cases text with
  | nil => exact htail
  | cons d text =>
    rw [escape, List.flatMap_cons]
    unfold escapeChar
    split
    · intro h
      exact hne (Option.some.inj h).symm
    · next hd =>
      intro h
      obtain rfl : d = e := Option.some.inj h
      exact hd (List.contains_iff_mem.2 he)

/-! ## Sources that are read to their end -/

/-- Whether nothing in the node looks behind. -/
def Node.looksAhead : Node → Bool
  | .empty | .char _ | .chars .. | .again .. | .anchor _ => true
  | .seq a b | .alt a b | .ifMatched _ a b => a.looksAhead && b.looksAhead
  | .group _ body | .ahead _ body | .loop _ _ _ body | .atomic body => body.looksAhead
  | .behind .. => false

/-- The reading of a whole pattern without options, whose elements are given, last first. -/
def Reading.ofElements (elements : List Element) : Reading :=
  ⟨⟨.whole, 0, noFlags, [], elements⟩, [], 0, [], [], none, []⟩

/-- The nodes of elements, which are given last first. -/
def Element.nodes (elements : List Element) : List Node :=
  (elements.reverse.flatMap (·.parts)).map (·.toNode noFlags)

/-- The elements of the characters of a text, last first. -/
def Element.ofText (text : Text) : List Element := (text.map fun e => ⟨[.char e.toNat], .plain⟩).reverse

/-- The element of a choice between texts. -/
def Element.anyOf (names : List Text) : Element := ⟨Part.anyOf noFlags names, .plain⟩

/-- A quoted text in a pattern without options. -/
lemma reads_quoted (elements : List Element) (i : Nat) (text : Text) (h : GoesOn tail) :
    Reads (.ofElements elements) ⟨i, escape text ++ tail⟩ (.ofElements (Element.ofText text ++ elements))
      ⟨i + (escape text).length, tail⟩ := by
  have hreads : Reads (.ofElements elements) ⟨i, escape text ++ tail⟩ _ _ := reads_escape rfl text h
  rwa [spell_eq] at hreads

/-- Quoted texts in a group of a pattern without options. -/
lemma reads_names (elements : List Element) (i : Nat) (names : List Text) (h : GoesOn tail) :
    ∃ stop, Reads (.ofElements elements) ⟨i, "(?:".toList ++ (Text.join ['|'] (names.map escape) ++ ')' :: tail)⟩
      (.ofElements (Element.anyOf names :: elements)) ⟨stop, tail⟩ :=
  reads_choice rfl names h

lemma reason?_eq_none {n : Node} (h : n.looksAhead = true) (groups : Nat → Width) : n.reason? false groups = none := by
  induction n with
  | empty => rfl
  | char k => rfl
  | chars k least most greed => rfl
  | again number folded => rfl
  | anchor a => rfl
  | seq a b iha ihb | alt a b iha ihb | ifMatched number a b iha ihb =>
    obtain ⟨ha, hb⟩ := (Bool.and_eq_true _ _).mp h
    rw [Node.reason?, iha ha, ihb hb]
    rfl
  | group number body ih => exact ih h
  | ahead negated body ih => exact ih h
  | atomic body ih => exact ih h
  | loop least most greed body ih => exact ih h
  | behind negated width body ih => cases h

lemma looksAhead_sequence {ns : List Node} (h : ∀ n ∈ ns, n.looksAhead = true) :
    (Node.sequence ns).looksAhead = true := by
  induction ns with
  | nil => rfl
  | cons n ns ih =>
    obtain ⟨hn, hns⟩ := List.forall_mem_cons.1 h
    cases ns with
    | nil => exact hn
    | cons next ns => exact (Bool.and_eq_true _ _).mpr ⟨hn, ih hns⟩

/-- What alternatives share is the beginning of the first of them. -/
lemma foldl_shared_isPrefix (first : List Part) (others : List (List Part)) :
    others.foldl Part.shared first <+: first := by
  have hshared : ∀ a b : List Part, Part.shared a b <+: a := by
    intro a b
    fun_induction Part.shared a b with
    | case1 a as b bs h ih => exact List.cons_prefix_cons.2 ⟨rfl, ih⟩
    | case2 => exact List.nil_prefix
    | case3 => exact List.nil_prefix
  induction others generalizing first with
  | nil => exact List.prefix_rfl
  | cons next others ih => exact (ih _).trans (hshared first next)

lemma looksAhead_choice {ns : List Node} (h : ∀ n ∈ ns, n.looksAhead = true) : (Node.choice ns).looksAhead = true := by
  induction ns with
  | nil => rfl
  | cons n ns ih =>
    obtain ⟨hn, hns⟩ := List.forall_mem_cons.1 h
    cases ns with
    | nil => exact hn
    | cons next ns => exact (Bool.and_eq_true _ _).mpr ⟨hn, ih hns⟩

/-- A choice between alternatives that do not look behind does not look behind. -/
lemma looksAhead_of_mem_choice {f : Flags} {alternatives : List (List Part)}
    (h : ∀ parts ∈ alternatives, ∀ part ∈ parts, (part.toNode f).looksAhead = true) {part : Part}
    (hpart : part ∈ Part.choice f alternatives) : (part.toNode f).looksAhead = true := by
  match alternatives, h, hpart with
  | [only], h, hpart => exact h only (by simp) part hpart
  | first :: next :: others, h, hpart =>
    have hstart : ∀ part ∈ (next :: others).foldl Part.shared first, (part.toNode f).looksAhead = true :=
      fun part hpart => h first (by simp) part ((foldl_shared_isPrefix _ _).subset hpart)
    simp only [Part.choice] at hpart
    split at hpart
    · rcases List.mem_append.1 hpart with hpart | hpart
      · exact hstart part hpart
      · rw [List.mem_singleton.1 hpart]
        rfl
    · rcases List.mem_append.1 hpart with hpart | hpart
      · exact hstart part hpart
      · rw [List.mem_singleton.1 hpart]
        refine looksAhead_choice fun n hn => ?_
        -- each node of the choice is what is left of an alternative
        obtain ⟨rest, hrest, rfl⟩ := List.mem_map.1 hn
        obtain ⟨parts, hparts, rfl⟩ := List.mem_map.1 hrest
        refine looksAhead_sequence fun n hn => ?_
        obtain ⟨part, hpart, rfl⟩ := List.mem_map.1 hn
        exact h parts hparts part (List.mem_of_mem_drop hpart)

/-- Whether the element does not look behind. -/
def Element.looksAhead (e : Element) : Bool := e.parts.all fun part => (part.toNode noFlags).looksAhead

lemma looksAhead_ofText (text : Text) : (Element.ofText text).all Element.looksAhead = true := by
  rw [Element.ofText, List.all_reverse, List.all_map, List.all_eq_true]
  intro e _
  rfl

lemma looksAhead_anyOf (names : List Text) : (Element.anyOf names).looksAhead = true := by
  refine List.all_eq_true.2 fun part hpart => looksAhead_of_mem_choice (fun parts hparts part hpart => ?_) hpart
  split at hparts
  · rw [List.mem_singleton.1 hparts] at hpart
    cases hpart
  · obtain ⟨name, -, rfl⟩ := List.mem_map.1 hparts
    obtain ⟨e, -, rfl⟩ := List.mem_map.1 hpart
    rfl

/-- **A source that is read to its end without a look-behind is a pattern**, the nodes of which are those read. -/
theorem compile_of_reads {source : Text} {elements : List Element} {stop : Nat} (hsource : GoesOn source)
    (h : Reads (.ofElements []) ⟨0, source⟩ (.ofElements elements) ⟨stop, []⟩)
    (hlooks : elements.all Element.looksAhead = true) :
    compile source noFlags = .ok ⟨source, .sequence (Element.nodes elements), 0, []⟩ := by
  have hnodes : ∀ n ∈ Element.nodes elements, n.looksAhead = true := by
    intro n hn
    obtain ⟨part, hpart, rfl⟩ := List.mem_map.1 hn
    obtain ⟨e, he, hpart⟩ := List.mem_flatMap.1 hpart
    exact List.all_eq_true.1 (List.all_eq_true.1 hlooks e (List.mem_reverse.1 he)) part hpart
  have hread : read source noFlags = .ok (.ofElements elements) := by
    have hchecked : Cursor.ofText source = .ok ⟨0, source⟩ := if_neg hsource
    have hall : readAll source.length (.start noFlags) ⟨0, source⟩ = .ok (.ofElements elements) := h.readAll_eq
    generalize hr : Reading.ofElements elements = r at hall
    have houter : r.outer.isEmpty = true := by rw [← hr]; rfl
    have halphabets : r.checkAlphabets = .ok () := by rw [← hr]; rfl
    have hconditions : r.checkConditions = .ok () := by rw [← hr]; rfl
    have hreason : r.level.node.reason? r.level.flags.unrepeated r.widthOf = none := by
      rw [← hr]
      exact reason?_eq_none (looksAhead_sequence hnodes) _
    simp [read, hchecked, hall, houter, halphabets, hconditions, hreason, bind, Except.bind, pure, Except.pure]
  rw [compile, hread]
  rfl

/-- A pattern that is taken to be readable is what is read, if it can be read. -/
lemma trusted_of_compile {source : Text} {p : Pattern} (h : compile source noFlags = .ok p) :
    trusted source noFlags = p := by
  rw [trusted, h]
  rfl

end Pattern

end MarkupLint
