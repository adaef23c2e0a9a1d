import Mathlib.Order.Interval.Finset.Nat
import MarkupLint.Document
import MarkupLint.Proofs.Edit.Origins

/-!
# The lineage of the characters of a document

Replaying the history of a document tells of each character of the current text where it comes from, without
any mapping:

* `d.tag j`: the initial offset of the character `j`, if every edit has only copied it;
* `d.ancestors j`: the initial offsets from which the character `j` descends, through copies and through
  replacements of the stretches that it descends from.

`Lineage` relates a mapping to both.  It holds of a document that has not been edited (`lineage_fresh`), an
edit other than a shift keeps it (`Lineage.step`), and so it holds of every document that such edits lead to
(`Reached.lineage`).
-/

namespace MarkupLint

/-! ## What the characters of an edited text inherit -/

namespace Origin

variable {origins : List Origin} {i j k : Nat}

/-- A copy keeps its tag, and no other character has one. -/
def inheritTag (tag : Nat → Option Nat) (origins : List Origin) (j : Nat) : Option Nat :=
  match origins[j]? with
  | some (copied k) => tag k
  | _ => none

/-- A copy keeps its ancestors, and a character that replaces a stretch has the ancestors of all of it. -/
def inheritAncestors (ancestors : Nat → Finset Nat) (origins : List Origin) (j : Nat) : Finset Nat :=
  match origins[j]? with
  | some (copied k) => ancestors k
  | some (replacing start stop) => (Finset.Ico start stop).biUnion ancestors
  | none => ∅

lemma inheritTag_eq_some {tag : Nat → Option Nat} :
    inheritTag tag origins j = some i ↔ ∃ k, origins[j]? = some (copied k) ∧ tag k = some i := by
  unfold inheritTag
  split
  · next k hk =>
    simp only [hk, Option.some.injEq, copied.injEq, exists_eq_left']
  · next hne =>
    simp only [reduceCtorEq, false_iff, not_exists, not_and]
    intro k hk
    exact absurd hk (hne k)

/-- A tagged character is a copy of a tagged character. -/
lemma isCopied_of_inheritTag {tag : Nat → Option Nat} {o : Origin} (ho : origins[j]? = some o)
    (h : (inheritTag tag origins j).isSome) (hk : o.Reads k) : o = copied k ∧ (tag k).isSome := by
  obtain ⟨i, hi⟩ := Option.isSome_iff_exists.1 h
  obtain ⟨k', hk', hik⟩ := inheritTag_eq_some.1 hi
  obtain rfl := Option.some.inj (ho.symm.trans hk')
  obtain rfl : k = k' := hk
  exact ⟨rfl, Option.isSome_iff_exists.2 ⟨i, hik⟩⟩

lemma inheritAncestors_copied {ancestors : Nat → Finset Nat} (h : origins[j]? = some (copied k)) :
    inheritAncestors ancestors origins j = ancestors k := by
  simp [inheritAncestors, h]

/-- A character descends from what the characters that it comes from descend from. -/
lemma mem_inheritAncestors {ancestors : Nat → Finset Nat} :
    i ∈ inheritAncestors ancestors origins j ↔
      ∃ o, origins[j]? = some o ∧ ∃ k, o.Reads k ∧ i ∈ ancestors k := by
  unfold inheritAncestors
  split
  · next k hk => simp [hk, Reads]
  · next start stop ho => simp [ho, Reads]
  · next hnone => simp [hnone]

end Origin

/-! ## Replaying a history -/

/-- Replays an edit on a text whose characters are marked, where `inherit` tells the marks of the characters
of the new text. -/
def Revision.replay {α : Type} (inherit : (Nat → α) → List Origin → Nat → α) (state : Text × (Nat → α))
    (r : Revision) : Text × (Nat → α) :=
  match r.edit.pieces state.1 with
  | .ok pieces => (Piece.render state.1 pieces, inherit state.2 (Piece.origins pieces))
  | .error _ => state

namespace Document

/-- Replays the history on the initial text, whose characters are marked. -/
def replay {α : Type} (d : Document) (inherit : (Nat → α) → List Origin → Nat → α) (first : Nat → α) :
    Text × (Nat → α) :=
  d.history.foldl (Revision.replay inherit) (d.initial, first)

/-- **The tag of a character**: every character of the initial text is tagged with its offset, copies keep
their tags, and a text that is inserted or replaces a match has none. -/
def tag (d : Document) : Nat → Option Nat :=
  (d.replay Origin.inheritTag fun i => if i < d.initial.length then some i else none).2

/-- **The ancestors of a character**: a character of the initial text descends from itself, a copy from what
the copied character descends from, a character of a text that replaces a match from what any character of
the match descends from, and a character of an inserted text from nothing. -/
def ancestors (d : Document) : Nat → Finset Nat :=
  (d.replay Origin.inheritAncestors fun i => if i < d.initial.length then {i} else ∅).2

/-- The document comes from one that has not been edited, by edits that have succeeded. -/
inductive Reached : Document → Prop
  /-- A document that has not been edited. -/
  | fresh {d : Document} {text newline : Text} {resource : String}
      (h : ofText text newline resource = .ok d) : Reached d
  /-- A document after one more edit. -/
  | edit {d d' : Document} {e : Edit} (hd : Reached d) (h : d.apply e = .ok d') : Reached d'

/-- No edit of the history is a shift. -/
def Unshifted (d : Document) : Prop := ∀ r ∈ d.history, r.edit.isShift = false

end Document

/-! ## The invariant -/

/-- The pair tells no false ancestors: it copies and each character descends from the one it is copied from,
or all of its output descends from all of its input. -/
def Pair.Sound (ancestors : Nat → Finset Nat) (p : Pair) : Prop :=
  (p.input.size = p.output.size ∧ ∀ i j, p.Aligned i j → i ∈ ancestors j) ∨
    ∀ i ∈ p.input, ∀ j ∈ p.output, i ∈ ancestors j

lemma Pair.Sound.mem_of_links {ancestors : Nat → Finset Nat} {p : Pair} {i j : Nat}
    (h : p.Sound ancestors) (hlinks : p.Links i j) : i ∈ ancestors j := by
  rcases h with ⟨hsize, h⟩ | h
  · exact h i j ((Pair.links_iff_aligned hsize).1 hlinks)
  · exact h i hlinks.mem_input j hlinks.mem_output

/-- **Composition keeps pairs sound.**  Either both pairs copy, and so does their composition, or all that is
left of the output descends from all that is left of the input. -/
lemma Pair.Sound.compose {ancestors : Nat → Finset Nat} {origins : List Origin} {a b c : Pair}
    (ha : a.Sound ancestors) (hb : b.Explains origins) (h : a.compose b = some c) :
    c.Sound (Origin.inheritAncestors ancestors origins) := by
  rcases hb with ⟨hbsize, hb⟩ | hb
  · rcases ha with ⟨hasize, ha⟩ | ha
    · obtain ⟨hsize, hal⟩ := Pair.aligned_compose_iff hasize hbsize h
      refine Or.inl ⟨hsize, fun i j hij => ?_⟩
      obtain ⟨k, hik, hkj⟩ := (hal i j).1 hij
      rw [Origin.inheritAncestors_copied (hb k j hkj)]
      exact ha i k hik
    · -- a copy of a part of a replacement
      refine Or.inr fun i hi j hj => ?_
      obtain ⟨_, -, hlinks⟩ := (Pair.mem_input_compose h).1 hi
      obtain ⟨k, hk, hkj⟩ := (Pair.mem_output_compose h).1 hj
      rw [Origin.inheritAncestors_copied (hb k j ((Pair.links_iff_aligned hbsize).1 hkj))]
      exact ha i hlinks.mem_input k hk
  · -- a replacement of something that includes a part of the first pair's output
    refine Or.inr fun i hi j hj => ?_
    obtain ⟨k, hk, hik⟩ := (Pair.mem_input_compose h).1 hi
    obtain ⟨_, -, hlinks⟩ := (Pair.mem_output_compose h).1 hj
    obtain ⟨o, ho, hreads⟩ := hb j hlinks.mem_output
    exact Origin.mem_inheritAncestors.2 ⟨o, ho, k, hreads k hk, ha.mem_of_links hik⟩

/-- What the mapping `m` from `initial` to `current` has to do with the tags and the ancestors of the
characters of `current`. -/
structure Lineage (initial current : Text) (m : Mapping) (tag : Nat → Option Nat)
    (ancestors : Nat → Finset Nat) : Prop where
  /-- No pair tells a false ancestor. -/
  sound : ∀ p ∈ m.pairs, p.Sound ancestors
  /-- A tagged character has a pair that copies it. -/
  complete : ∀ i j, tag j = some i → ∃ p ∈ m.pairs, p.Aligned i j
  /-- A tagged character is the initial one. -/
  char_eq : ∀ i j, tag j = some i → ∃ c, initial[i]? = some c ∧ current[j]? = some c
  /-- A tagged character has no other ancestor. -/
  ancestors_eq : ∀ i j, tag j = some i → ancestors j = {i}
  /-- The ancestors of two characters are in order, if one of them is tagged. -/
  ordered : ∀ i i' j j', j ≤ j' → (tag j).isSome || (tag j').isSome → i ∈ ancestors j →
    i' ∈ ancestors j' → i ≤ i'
  /-- Only characters of the current text have ancestors. -/
  within : ∀ i j, i ∈ ancestors j → j < current.length

/-- The mapping of a text onto itself has the lineage of a text that has not been edited. -/
lemma lineage_fresh (text : Text) :
    Lineage text text (.identity text.length) (fun i => if i < text.length then some i else none)
      (fun i => if i < text.length then {i} else ∅) := by
  have htag : ∀ i j, (if j < text.length then some j else none) = some i ↔ j = i ∧ j < text.length := by
    intro i j
    split <;> simp_all
    omega
  have hanc : ∀ i j, i ∈ (if j < text.length then {j} else ∅ : Finset Nat) ↔ i = j ∧ j < text.length := by
    intro i j
    split <;> simp_all
  refine ⟨?_, ?_, ?_, ?_, ?_, ?_⟩
  · intro p hp
    obtain ⟨hpos, rfl⟩ := Mapping.mem_identity.1 hp
    refine Or.inl ⟨rfl, fun i j hij => ?_⟩
    obtain ⟨t, ht, rfl, rfl⟩ := (Pair.aligned_ofSize hpos).1 hij
    rw [hanc, Nat.zero_add]
    exact ⟨rfl, ht⟩
  · intro i j h
    obtain ⟨rfl, hlt⟩ := (htag i j).1 h
    have hpos : 0 < text.length := by omega
    refine ⟨_, Mapping.mem_identity.2 ⟨hpos, rfl⟩, ?_⟩
    exact (Pair.aligned_ofSize hpos).2 ⟨j, hlt, (Nat.zero_add j).symm, (Nat.zero_add j).symm⟩
  · intro i j h
    obtain ⟨rfl, hlt⟩ := (htag i j).1 h
    exact ⟨_, List.getElem?_eq_getElem hlt, List.getElem?_eq_getElem hlt⟩
  · intro i j h
    obtain ⟨rfl, hlt⟩ := (htag i j).1 h
    rw [if_pos hlt]
  · intro i i' j j' hle _ hi hi'
    rw [hanc] at hi hi'
    omega
  · intro i j hi
    exact ((hanc i j).1 hi).2

section Step

variable {initial current : Text} {m m' : Mapping} {tag : Nat → Option Nat}
  {ancestors : Nat → Finset Nat} {pieces : List Piece}

/-- **An edit keeps the lineage.**  The characters of the new text inherit their tags and ancestors by
their origins, and the mapping is composed with that of the pieces. -/
theorem Lineage.step (h : Lineage initial current m tag ancestors)
    (horder : Piece.InOrder current.length 0 pieces)
    (hm : ∀ p, p ∈ m'.pairs ↔ ∃ a ∈ m.pairs, ∃ b ∈ Piece.pairs 0 pieces, a.compose b = some p) :
    Lineage initial (Piece.render current pieces) m' (Origin.inheritTag tag (Piece.origins pieces))
      (Origin.inheritAncestors ancestors (Piece.origins pieces)) := by
  refine ⟨?_, ?_, ?_, ?_, ?_, ?_⟩
  · intro p hp
    obtain ⟨a, ha, b, hb, hab⟩ := (hm p).1 hp
    exact (h.sound a ha).compose (Piece.explains_of_mem_pairs hb) hab
  · intro i j hij
    obtain ⟨k, hk, hik⟩ := Origin.inheritTag_eq_some.1 hij
    obtain ⟨a, ha, haik⟩ := h.complete i k hik
    obtain ⟨b, hb, hbkj⟩ := Piece.exists_aligned hk
    obtain ⟨c, hc, hcij⟩ := haik.compose hbkj
    exact ⟨c, (hm c).2 ⟨a, ha, b, hb, hc⟩, hcij⟩
  · intro i j hij
    obtain ⟨k, hk, hik⟩ := Origin.inheritTag_eq_some.1 hij
    rw [(Piece.getElem?_render horder hk).1]
    exact h.char_eq i k hik
  · intro i j hij
    obtain ⟨k, hk, hik⟩ := Origin.inheritTag_eq_some.1 hij
    rw [Origin.inheritAncestors_copied hk]
    exact h.ancestors_eq i k hik
  · intro i i' j j' hle htag hi hi'
    obtain ⟨o, ho, k, hk, hik⟩ := Origin.mem_inheritAncestors.1 hi
    obtain ⟨o', ho', k', hk', hik'⟩ := Origin.mem_inheritAncestors.1 hi'
    rw [Bool.or_eq_true] at htag
    -- the tagged one of the two characters is a copy of a tagged character
    have hcopied : (o = .copied k ∧ (tag k).isSome) ∨ (o' = .copied k' ∧ (tag k').isSome) :=
      htag.imp (fun ht => Origin.isCopied_of_inheritTag ho ht hk)
        (fun ht => Origin.isCopied_of_inheritTag ho' ht hk')
    have hkk : k ≤ k' := by
      refine Piece.le_of_reads horder hle ho ho' ?_ hk hk'
      rcases hcopied with ⟨rfl, -⟩ | ⟨rfl, -⟩ <;> simp [Origin.isCopied]
    refine h.ordered i i' k k' hkk ?_ hik hik'
    rw [Bool.or_eq_true]
    exact hcopied.imp And.right And.right
  · intro i j hi
    obtain ⟨o, ho, -⟩ := Origin.mem_inheritAncestors.1 hi
    rw [← Piece.length_origins horder]
    exact (List.getElem?_eq_some_iff.1 ho).1

end Step

/-! ## Documents -/

namespace Document

variable {d d' : Document} {e : Edit} {r : Edited}

lemma apply_eq_ok : d.apply e = .ok d' ↔ ∃ r, e.apply d.current = .ok r ∧ d' = d.record e r := by
  unfold apply
  cases h : e.apply d.current with
  | error _ => simp [bind, Except.bind]
  | ok r => simp [bind, Except.bind, pure, Except.pure, eq_comm]

/-- Replaying one more edit, on the text that the edits before have led to. -/
lemma replay_record {α : Type} {inherit : (Nat → α) → List Origin → Nat → α} {first : Nat → α}
    {pieces : List Piece} (ht : (d.replay inherit first).1 = d.current)
    (hp : e.pieces d.current = .ok pieces) :
    (d.record e r).replay inherit first =
      (Piece.render d.current pieces, inherit (d.replay inherit first).2 (Piece.origins pieces)) := by
  unfold replay record at *
  dsimp only
  rw [List.foldl_append, List.foldl_cons, List.foldl_nil, Revision.replay]
  dsimp only
  rw [ht, hp]

/-- The pairs of a document after an edit come from composing its pairs with those of the edit.  For the first
edit, which is not composed with anything, this needs that its pairs have their inputs in the text. -/
lemma mem_composed_record {p : Pair}
    (h : d.history = [] → ∀ q ∈ r.mapping.pairs, ∀ i ∈ q.input, i < d.initial.length) :
    p ∈ (d.record e r).composed.pairs ↔
      ∃ a ∈ d.composed.pairs, ∃ b ∈ r.mapping.pairs, a.compose b = some p := by
  rw [← Mapping.mem_compose]
  unfold composed mappings record
  dsimp only
  cases hhist : d.history with
  | nil => simpa [Mapping.composeAll] using (Mapping.mem_compose_identity (h hhist)).symm
  | cons rev later => simp [Mapping.composeAll, List.foldl_append]

lemma Unshifted.of_record (h : (d.record e r).Unshifted) : d.Unshifted ∧ e.isShift = false := by
  unfold Unshifted record at h
  simp only [List.mem_append, List.mem_singleton] at h
  exact ⟨fun rev hrev => h rev (Or.inl hrev), h _ (Or.inr rfl)⟩

lemma ofText_eq_ok {text newline : Text} {resource : String} (h : ofText text newline resource = .ok d) :
    d.initial = text ∧ d.current = text ∧ d.history = [] := by
  unfold ofText at h
  split at h
  · cases h
  · obtain rfl := Except.ok.inj h
    exact ⟨rfl, rfl, rfl⟩

lemma Reached.revise (hd : d.Reached) (e : Edit) : (d.revise e).Reached := by
  unfold Document.revise
  cases h : d.apply e with
  | error _ => exact hd
  | ok d' => exact hd.edit h

lemma reached_foldl_revise (edits : List Edit) (hd : d.Reached) : (edits.foldl revise d).Reached := by
  induction edits generalizing d with
  | nil => exact hd
  | cons e edits ih => exact ih (hd.revise e)

lemma ofLines_reached (text : Text) (resource : String) : (ofLines text resource).Reached :=
  .fresh (show ofText text Text.lineFeed resource = .ok (ofLines text resource) from rfl)

lemma Reached.current_eq (hd : d.Reached) (h : d.history = []) : d.current = d.initial := by
  cases hd with
  | fresh hd =>
    obtain ⟨h1, h2, -⟩ := ofText_eq_ok hd
    rw [h1, h2]
  | edit _ he =>
    obtain ⟨r, -, rfl⟩ := apply_eq_ok.1 he
    exact absurd h (by simp [record])

/-- Replaying the history leads to the current text. -/
lemma Reached.replay_fst (hd : d.Reached) (hs : d.Unshifted) {α : Type}
    (inherit : (Nat → α) → List Origin → Nat → α) (first : Nat → α) :
    (d.replay inherit first).1 = d.current := by
  induction hd with
  | fresh h =>
    obtain ⟨h1, h2, h3⟩ := ofText_eq_ok h
    simp [replay, h1, h2, h3]
  | edit hd h ih =>
    obtain ⟨r, hr, rfl⟩ := apply_eq_ok.1 h
    obtain ⟨hs, he⟩ := hs.of_record
    obtain ⟨pieces, hp, hmade⟩ := Edit.apply_eq_ok he hr
    rw [replay_record (ih hs) hp]
    exact hmade.text_eq.symm

/-- The pairs after an edit other than a shift are those before, composed with those of its pieces. -/
lemma Reached.mem_composed_record (hd : d.Reached) {pieces : List Piece} (hmade : r.MadeOf d.current pieces)
    {p : Pair} :
    p ∈ (d.record e r).composed.pairs ↔
      ∃ a ∈ d.composed.pairs, ∃ b ∈ Piece.pairs 0 pieces, a.compose b = some p := by
  rw [Document.mem_composed_record, hmade.pairs_eq]
  intro hnil q hq i hi
  rw [hmade.pairs_eq] at hq
  rw [← hd.current_eq hnil]
  exact Piece.lt_length_of_mem_pairs hmade.inOrder hq hi

/-- **Every document that edits other than shifts lead to has its lineage.** -/
theorem Reached.lineage (hd : d.Reached) (hs : d.Unshifted) :
    Lineage d.initial d.current d.composed d.tag d.ancestors := by
  induction hd with
  | @fresh d text _ _ h =>
    obtain ⟨h1, h2, h3⟩ := ofText_eq_ok h
    simpa [tag, ancestors, replay, composed, mappings, Mapping.composeAll, h1, h2, h3] using
      lineage_fresh text
  | @edit d d' e hd h ih =>
    obtain ⟨r, hr, rfl⟩ := apply_eq_ok.1 h
    obtain ⟨hs, he⟩ := hs.of_record
    obtain ⟨pieces, hp, hmade⟩ := Edit.apply_eq_ok he hr
    have htag : (d.record e r).tag = Origin.inheritTag d.tag (Piece.origins pieces) :=
      congrArg Prod.snd (replay_record (hd.replay_fst hs _ _) hp)
    have hanc : (d.record e r).ancestors = Origin.inheritAncestors d.ancestors (Piece.origins pieces) :=
      congrArg Prod.snd (replay_record (hd.replay_fst hs _ _) hp)
    have hcur : (d.record e r).current = Piece.render d.current pieces := hmade.text_eq
    rw [htag, hanc, hcur]
    exact (ih hs).step hmade.inOrder fun p => hd.mem_composed_record hmade

/-- A pair from the initial text to the current text has its input in the initial text. -/
lemma Reached.input_lt (hd : d.Reached) (hs : d.Unshifted) {p : Pair} (hp : p ∈ d.composed.pairs) {i : Nat}
    (hi : i ∈ p.input) : i < d.initial.length := by
  induction hd generalizing p i with
  | @fresh d text _ _ h =>
    obtain ⟨h1, -, h3⟩ := ofText_eq_ok h
    have hcomposed : d.composed = .identity d.initial.length := by
      simp [composed, mappings, h3, Mapping.composeAll]
    rw [hcomposed] at hp
    obtain ⟨hpos, rfl⟩ := Mapping.mem_identity.1 hp
    simpa using (Range.mem_ofSize hpos).1 hi
  | edit hd h ih =>
    obtain ⟨r, hr, rfl⟩ := apply_eq_ok.1 h
    obtain ⟨hs, he⟩ := hs.of_record
    obtain ⟨pieces, -, hmade⟩ := Edit.apply_eq_ok he hr
    obtain ⟨a, ha, b, -, hab⟩ := (hd.mem_composed_record hmade).1 hp
    obtain ⟨k, -, hlinks⟩ := (Pair.mem_input_compose hab).1 hi
    exact ih hs ha hlinks.mem_input

end Document

end MarkupLint
