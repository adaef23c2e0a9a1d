import Mathlib.Algebra.GroupWithZero.Nat
import MarkupLint.Proofs.Edit.Origins
import MarkupLint.Proofs.Lines.Positions
import MarkupLint.Proofs.Settles

/-!
# The mapping of an edit accounts for every character

* `Writes text e start stop new place`: the edit puts `new` at the offset `place` of the new text, for the
  characters from `start` on, up to but without `stop`.  An insertion does so for no characters, a replacement
  for each of its matches;
* `Deletes text e i`: the edit leaves the character `i` out: it is cut off, it is on a line that is removed or
  belongs to its terminator, or it is in a match that is replaced by nothing;
* `Accounts text e r`: the mapping of the result `r` has its pairs in order, each of them copies or stands for a
  match, and what no pair covers has been written for nothing on the one side and deleted on the other.

`Edit.apply_accounts` says that every edit but a shift has such a result, unless a replacement text cannot be made.
The proof goes through the pieces of the edit and the places to which they come (`Piece.placed`).
-/

namespace MarkupLint

/-! ## Where pieces come to -/

namespace Piece

variable {old : Text} {length consumed produced place i j : Nat} {p : Piece} {pieces : List Piece} {q : Pair}

/-- The pieces with the offsets of the new text to which they come, the first one after `produced` characters. -/
def placed : Nat → List Piece → List (Piece × Nat)
  | _, [] => []
  | produced, p :: later => (p, produced) :: placed (produced + p.size) later

/-- The pairs are those of the pieces that are empty neither in the old text nor in the new one. -/
lemma mem_pairs :
    q ∈ pairs produced pieces ↔ ∃ p place, (p, place) ∈ placed produced pieces ∧ p.start < p.stop ∧ 0 < p.size ∧
      q = ⟨.ofSize p.start (p.stop - p.start), .ofSize place p.size⟩ := by
  induction pieces generalizing produced with
  | nil => simp [pairs, placed]
  | cons p later ih =>
    simp only [pairs, placed, List.mem_append, List.mem_cons, Pair.mem_ofSizes, ih, Nat.sub_pos_iff_lt]
    constructor
    · rintro (h | ⟨p', place, hmem, h⟩)
      · exact ⟨p, produced, Or.inl rfl, h⟩
      · exact ⟨p', place, Or.inr hmem, h⟩
    · rintro ⟨p', place, hmem | hmem, h⟩
      · cases hmem
        exact Or.inl h
      · exact Or.inr ⟨p', place, hmem, h⟩

lemma mem_placed_of_mem (produced : Nat) (h : p ∈ pieces) : ∃ place, (p, place) ∈ placed produced pieces := by
  induction pieces generalizing produced with
  | nil => cases h
  | cons p' later ih =>
    rcases List.mem_cons.1 h with rfl | h
    · exact ⟨produced, List.mem_cons_self ..⟩
    · obtain ⟨place, hplace⟩ := ih _ h
      exact ⟨place, List.mem_cons_of_mem _ hplace⟩

lemma mem_of_mem_placed (h : (p, place) ∈ placed produced pieces) : p ∈ pieces := by
  induction pieces generalizing produced with
  | nil => cases h
  | cons p' later ih =>
    rcases List.mem_cons.1 h with h | h
    · cases h
      exact List.mem_cons_self ..
    · exact List.mem_cons_of_mem _ (ih h)

lemma le_place (h : (p, place) ∈ placed produced pieces) : produced ≤ place := by
  induction pieces generalizing produced with
  | nil => cases h
  | cons p' later ih =>
    rcases List.mem_cons.1 h with h | h
    · cases h
      exact Nat.le_refl _
    · exact Nat.le_trans (Nat.le_add_right _ _) (ih h)

lemma InOrder.bounds (h : InOrder length consumed pieces) (hp : p ∈ pieces) :
    consumed ≤ p.start ∧ p.start ≤ p.stop ∧ p.stop ≤ length := by
  induction pieces generalizing consumed with
  | nil => cases hp
  | cons p' later ih =>
    obtain ⟨h1, h2, h3, horder⟩ := h
    rcases List.mem_cons.1 hp with rfl | hp
    · exact ⟨h1, h2, h3⟩
    · have := ih horder hp
      omega

/-- Pieces come one after the other, in the old text and in the new one. -/
lemma pairwise_placed (produced : Nat) (h : InOrder length consumed pieces) :
    (placed produced pieces).Pairwise fun a b => a.1.stop ≤ b.1.start ∧ a.2 + a.1.size ≤ b.2 := by
  induction pieces generalizing consumed produced with
  | nil => exact List.Pairwise.nil
  | cons p later ih =>
    obtain ⟨-, -, -, horder⟩ := h
    refine List.pairwise_cons.2 ⟨fun b hb => ⟨?_, le_place hb⟩, ih _ horder⟩
    exact (horder.bounds (mem_of_mem_placed hb)).1

/-- The new text has each piece at its place. -/
lemma slice_placed (before : Text) (horder : InOrder old.length consumed pieces)
    (h : (p, place) ∈ placed before.length pieces) :
    place + p.size ≤ (before ++ render old pieces).length ∧
      (before ++ render old pieces).slice place (place + p.size) = p.text old := by
  induction pieces generalizing consumed before with
  | nil => cases h
  | cons p' later ih =>
    obtain ⟨-, h1, h2, horder⟩ := horder
    have hlen := length_text h1 h2
    rw [render, List.flatMap_cons, ← render]
    rcases List.mem_cons.1 h with h | h
    · cases h
      refine ⟨by simp [hlen], ?_⟩
      rw [Text.slice, List.drop_left, Nat.add_sub_cancel_left, ← hlen, List.take_left]
    · rw [← List.append_assoc]
      exact ih _ horder (by rwa [List.length_append, hlen])

/-- Every character of the new text belongs to a piece. -/
lemma exists_placed (before : Text) (horder : InOrder old.length consumed pieces) (hj : before.length ≤ j)
    (hlt : j < (before ++ render old pieces).length) :
    ∃ p place, (p, place) ∈ placed before.length pieces ∧ place ≤ j ∧ j < place + p.size := by
  induction pieces generalizing consumed before with
  | nil =>
    simp only [render, List.flatMap_nil, List.append_nil] at hlt
    omega
  | cons p later ih =>
    obtain ⟨-, h1, h2, horder⟩ := horder
    have hlen := length_text h1 h2
    by_cases hin : j < before.length + p.size
    · exact ⟨p, before.length, List.mem_cons_self .., hj, hin⟩
    · rw [render, List.flatMap_cons, ← render, ← List.append_assoc] at hlt
      obtain ⟨p', place, hmem, hp'⟩ := ih _ horder (by rw [List.length_append, hlen]; omega) hlt
      rw [List.length_append, hlen] at hmem
      exact ⟨p', place, List.mem_cons_of_mem _ hmem, hp'⟩

/-- A character of the new text belongs to one piece only. -/
lemma placed_unique {p' : Piece} {place' : Nat} (h : (p, place) ∈ placed produced pieces)
    (h' : (p', place') ∈ placed produced pieces) (hj : place ≤ j ∧ j < place + p.size)
    (hj' : place' ≤ j ∧ j < place' + p'.size) : p = p' ∧ place = place' := by
  induction pieces generalizing produced with
  | nil => cases h
  | cons first later ih =>
    rcases List.mem_cons.1 h with h | h <;> rcases List.mem_cons.1 h' with h' | h'
    · cases h
      cases h'
      exact ⟨rfl, rfl⟩
    · cases h
      have := le_place h'
      omega
    · cases h'
      have := le_place h
      omega
    · exact ih h h'

/-! ## What pairs cover -/

/-- **The pairs of pieces come one after the other on both sides.** -/
theorem pairwise_pairs (produced : Nat) (h : InOrder length consumed pieces) :
    (pairs produced pieces).Pairwise fun a b => a.input.stop < b.input.start ∧ a.output.stop < b.output.start := by
  induction pieces generalizing consumed produced with
  | nil => exact List.Pairwise.nil
  | cons p later ih =>
    have hplaced := pairwise_placed produced h
    obtain ⟨-, -, -, horder⟩ := h
    refine List.pairwise_append.2 ⟨?_, ih _ horder, fun a ha b hb => ?_⟩
    · unfold Pair.ofSizes
      split <;> simp
    · obtain ⟨hin, hout, rfl⟩ := Pair.mem_ofSizes.1 ha
      obtain ⟨p', place, hmem, hin', hout', rfl⟩ := mem_pairs.1 hb
      have := (List.pairwise_cons.1 hplaced).1 (p', place) hmem
      dsimp only [Range.ofSize] at this ⊢
      omega

/-- Pairs are within the two texts. -/
lemma within_of_mem_pairs (horder : InOrder old.length 0 pieces) (hq : q ∈ pairs 0 pieces) :
    q.input.stop < old.length ∧ q.output.stop < (render old pieces).length := by
  obtain ⟨p, place, hmem, hlt, hsize, rfl⟩ := mem_pairs.1 hq
  have hbounds := horder.bounds (mem_of_mem_placed hmem)
  have hplace := (slice_placed [] horder hmem).1
  rw [List.nil_append] at hplace
  dsimp only [Range.ofSize]
  omega

/-- The characters of the old text that pairs cover. -/
lemma exists_mem_input :
    (∃ q ∈ pairs produced pieces, i ∈ q.input) ↔ ∃ p ∈ pieces, p.start ≤ i ∧ i < p.stop ∧ 0 < p.size := by
  constructor
  · rintro ⟨q, hq, hi⟩
    obtain ⟨p, place, hmem, hlt, hsize, rfl⟩ := mem_pairs.1 hq
    rw [Range.mem_ofSize (Nat.sub_pos_of_lt hlt)] at hi
    exact ⟨p, mem_of_mem_placed hmem, hi.1, by omega, hsize⟩
  · rintro ⟨p, hp, hstart, hstop, hsize⟩
    obtain ⟨place, hmem⟩ := mem_placed_of_mem produced hp
    refine ⟨_, mem_pairs.2 ⟨p, place, hmem, by omega, hsize, rfl⟩, ?_⟩
    rw [Range.mem_ofSize (by omega)]
    omega

/-- The characters of the new text that no pair covers are those of texts that are put for no characters. -/
lemma not_exists_mem_output (horder : InOrder old.length 0 pieces) (hj : j < (render old pieces).length) :
    (¬ ∃ q ∈ pairs 0 pieces, j ∈ q.output) ↔
      ∃ start new place, (put start start new, place) ∈ placed 0 pieces ∧ place ≤ j ∧ j < place + new.length := by
  constructor
  · intro hnone
    obtain ⟨p, place, hmem, hle, hlt⟩ := exists_placed [] horder (Nat.zero_le j) hj
    have hbounds := horder.bounds (mem_of_mem_placed hmem)
    have hempty : ¬ p.start < p.stop := by
      intro hlt'
      refine hnone ⟨_, mem_pairs.2 ⟨p, place, hmem, hlt', by omega, rfl⟩, ?_⟩
      rw [Range.mem_ofSize (by omega)]
      exact ⟨hle, hlt⟩
    cases p with
    | kept start stop =>
      simp only [Piece.start, Piece.stop, size] at hempty hlt
      omega
    | put start stop new =>
      simp only [Piece.start, Piece.stop] at hempty hbounds
      obtain rfl : start = stop := by omega
      exact ⟨start, new, place, hmem, hle, hlt⟩
  · rintro ⟨start, new, place, hmem, hj⟩ ⟨q, hq, hjq⟩
    obtain ⟨p, place', hmem', hlt, hsize, rfl⟩ := mem_pairs.1 hq
    rw [Range.mem_ofSize hsize] at hjq
    obtain ⟨rfl, -⟩ := placed_unique hmem hmem' hj hjq
    exact absurd hlt (Nat.lt_irrefl _)

end Piece

/-! ## What edits write and delete -/

namespace Edit

/-- **What an edit writes, and where.**  The text `new` comes to the offset `place` of the new text, for the
characters from `start` on, up to but without `stop`. -/
inductive Writes (text : Text) : Edit → Nat → Nat → Text → Nat → Prop
  /-- An insertion is for no characters. -/
  | inserted (new : Text) (index : Int) :
      Writes text (.insertAt new index) (clamp index 0 text.length) (clamp index 0 text.length) new
        (clamp index 0 text.length)
  /-- A replacement text is for its match.  Its place is that of the match, moved by what the earlier matches and
  their replacement texts differ in length. -/
  | replaced {p : Pattern} {r : Replacement} {everywhere : Bool} {first : Int} {news : List Text}
      {earlier later : List (Found × Text)} {m : Found} {new : Text} {place : Nat}
      (hnews : (targets text p everywhere first).mapM (r.textFor p) = .ok news)
      (hmatch : (targets text p everywhere first).zip news = earlier ++ (m, new) :: later)
      (hplace : place + (earlier.map (·.1.size)).sum = m.start + (earlier.map (·.2.length)).sum) :
      Writes text (.replace p r everywhere first) m.start m.stop new place

/-- The offset `i` is on the line of the given number or on the terminator that goes with it: its own, or the one
before it for the last line. -/
def OnLine (text newline : Text) (number i : Nat) : Prop :=
  ∃ line, (text.lines newline)[number]? = some line ∧
    (line.offset ≤ i ∧ i < line.offset + line.text.length ∨
      if number + 1 < text.lineCount newline then
        line.offset + line.text.length ≤ i ∧ i < line.offset + line.text.length + newline.length
      else line.offset ≤ i + newline.length ∧ i < line.offset)

/-- **What an edit deletes.** -/
def Deletes (text : Text) : Edit → Nat → Prop
  | truncate start stop, i => i < start ∨ ∃ last, stop = some last ∧ last ≤ i
  | replace p r everywhere first, i =>
    ∃ m ∈ targets text p everywhere first, r.textFor p m = .ok [] ∧ m.start ≤ i ∧ i < m.stop
  | removeLine line newline, i => 0 ≤ line ∧ OnLine text newline line.toNat i
  | insertAt .., _ => False
  | shift _, _ => False

end Edit

/-- The two sides of the pair are the same text. -/
def Pair.CopiesText (old new : Text) (p : Pair) : Prop :=
  p.input.size = p.output.size ∧
    old.slice p.input.start (p.input.stop + 1) = new.slice p.output.start (p.output.stop + 1)

/-- Outputs that come one after the other are disjoint. -/
lemma Mapping.disjointOutputs_of_pairwise {m : Mapping}
    (h : m.pairs.Pairwise fun a b => a.output.stop < b.output.start) : m.disjointOutputs = true := by
  have houtputs : (m.pairs.map (·.output)).Pairwise fun r q => r.stop < q.start := List.pairwise_map.2 h
  have hsorted : (m.pairs.map (·.output)).mergeSort Range.le = m.pairs.map (·.output) := by
    refine List.mergeSort_of_pairwise (houtputs.imp fun {r q} hrq => ?_)
    have := r.start_le_stop
    simp only [Range.le, decide_eq_true_eq]
    omega
  rw [Mapping.disjointOutputs, hsorted]
  generalize m.pairs.map (·.output) = outputs at houtputs
  induction outputs with
  | nil => rfl
  | cons r outputs ih =>
    obtain ⟨hr, houtputs⟩ := List.pairwise_cons.1 houtputs
    cases outputs with
    | nil => rfl
    | cons q outputs => simpa [hr q (List.mem_cons_self ..)] using ih houtputs

/-- **The mapping of an edit accounts for every character** of the old text and of the new one. -/
structure Edit.Accounts (text : Text) (e : Edit) (r : Edited) : Prop where
  /-- Pairs come one after the other on both sides. -/
  ordered : r.mapping.pairs.Pairwise fun a b => a.input.stop < b.input.start ∧ a.output.stop < b.output.start
  /-- No character of the new text belongs to two pairs. -/
  disjoint : r.mapping.disjointOutputs = true
  /-- Pairs are within the texts. -/
  within : ∀ q ∈ r.mapping.pairs, q.input.stop < text.length ∧ q.output.stop < r.text.length
  /-- A pair copies, or stands for what is written for some characters. -/
  pair : ∀ q ∈ r.mapping.pairs, q.CopiesText text r.text ∨
    ∃ start stop new place, e.Writes text start stop new place ∧ start < stop ∧ new ≠ [] ∧
      q = ⟨.ofSize start (stop - start), .ofSize place new.length⟩
  /-- What is written for some characters has its pair. -/
  pair_of_writes : ∀ start stop new place, e.Writes text start stop new place → start < stop → new ≠ [] →
    ⟨.ofSize start (stop - start), .ofSize place new.length⟩ ∈ r.mapping.pairs
  /-- What is written is at its place in the new text. -/
  text_of_writes : ∀ start stop new place, e.Writes text start stop new place →
    r.text.slice place (place + new.length) = new
  /-- The characters of the new text in no pair are those written for no characters. -/
  untracked_output : ∀ j < r.text.length, (¬ ∃ q ∈ r.mapping.pairs, j ∈ q.output) ↔
    ∃ start new place, e.Writes text start start new place ∧ place ≤ j ∧ j < place + new.length
  /-- The characters of the old text in no pair are the deleted ones. -/
  untracked_input : ∀ i < text.length, (¬ ∃ q ∈ r.mapping.pairs, i ∈ q.input) ↔ e.Deletes text i
  /-- All other characters of the old text are copied, as far as nothing is written for them. -/
  copied : ∀ i < text.length, ¬ e.Deletes text i →
    (∀ start stop new place, e.Writes text start stop new place → ¬ (start ≤ i ∧ i < stop)) →
    ∃ q ∈ r.mapping.pairs, q.CopiesText text r.text ∧ i ∈ q.input

namespace Edit

open Piece

variable {text : Text} {e : Edit} {pieces : List Piece} {length consumed produced start stop place i : Nat}
  {new : Text} {found : List (Found × Text)}

/-! ### Replacements -/

lemma mem_zip_of_mapM {α β ε : Type} {f : α → Except ε β} {items : List α} {results : List β}
    (h : items.mapM f = .ok results) {a : α} {b : β} :
    (a, b) ∈ items.zip results ↔ a ∈ items ∧ f a = .ok b := by
  induction items generalizing results with
  | nil => simp
  | cons first items ih =>
    rw [List.mapM_cons] at h
    cases hfirst : f first with
    | error e => simp [hfirst, bind, Except.bind] at h
    | ok result =>
      cases hitems : items.mapM f with
      | error e => simp [hfirst, hitems, bind, Except.bind] at h
      | ok rest =>
        simp only [hfirst, hitems, bind, Except.bind, pure, Except.pure, Except.ok.injEq] at h
        subst h
        rw [List.zip_cons_cons, List.mem_cons, List.mem_cons, ih hitems, Prod.mk.injEq]
        constructor
        · rintro (⟨rfl, rfl⟩ | ⟨hmem, hf⟩)
          · exact ⟨Or.inl rfl, hfirst⟩
          · exact ⟨Or.inr hmem, hf⟩
        · rintro ⟨rfl | hmem, hf⟩
          · exact Or.inl ⟨rfl, Except.ok.inj (hf.symm.trans hfirst)⟩
          · exact Or.inr ⟨hmem, hf⟩

/-- What is put into a text in which matches are replaced, and where. -/
lemma mem_placed_splice (h : Piece.InOrder length consumed (splice length consumed found)) :
    (put start stop new, place) ∈ placed produced (splice length consumed found) ↔
      ∃ earlier m later, found = earlier ++ (m, new) :: later ∧ m.start = start ∧ m.stop = stop ∧
        place + consumed + (earlier.map (·.1.size)).sum = produced + start + (earlier.map (·.2.length)).sum := by
  induction found generalizing consumed produced with
  | nil => simp [splice, placed]
  | cons head found ih =>
    obtain ⟨m, text⟩ := head
    obtain ⟨-, h1, -, -, h2, -, horder⟩ := h
    simp only [Piece.start, Piece.stop] at h1 h2 horder
    have hsize : m.size = m.stop - m.start := rfl
    simp only [splice, placed, List.mem_cons, Prod.mk.injEq, reduceCtorEq, false_and, false_or, put.injEq,
      ih horder, size]
    constructor
    · rintro (⟨⟨rfl, rfl, rfl⟩, rfl⟩ | ⟨earlier, m', later, rfl, rfl, rfl, hplace⟩)
      · exact ⟨[], m, found, rfl, rfl, rfl, by simp; omega⟩
      · refine ⟨(m, text) :: earlier, m', later, rfl, rfl, rfl, ?_⟩
        simp only [List.map_cons, List.sum_cons, hsize]
        omega
    · rintro ⟨_ | ⟨first, earlier⟩, m', later, heq, rfl, rfl, hplace⟩
      · cases heq
        simp at hplace
        exact Or.inl ⟨⟨rfl, rfl, rfl⟩, by omega⟩
      · cases heq
        refine Or.inr ⟨earlier, m', later, rfl, rfl, rfl, ?_⟩
        simp only [List.map_cons, List.sum_cons, hsize] at hplace
        omega

lemma put_mem_splice {m : Found} (hm : (m, new) ∈ found) : put m.start m.stop new ∈ splice length consumed found := by
  induction found generalizing consumed with
  | nil => cases hm
  | cons head found ih =>
    rcases List.mem_cons.1 hm with rfl | hm
    · simp [splice]
    · exact List.mem_cons_of_mem _ (List.mem_cons_of_mem _ (ih hm))

/-- In a text in which matches are replaced, every character is left but those in a match that is replaced by
nothing. -/
lemma exists_mem_splice (h : Piece.InOrder length consumed (splice length consumed found)) (hle : consumed ≤ i)
    (hlt : i < length) :
    (∃ p ∈ splice length consumed found, p.start ≤ i ∧ i < p.stop ∧ 0 < p.size) ↔
      ¬ ∃ m, (m, []) ∈ found ∧ m.start ≤ i ∧ i < m.stop := by
  induction found generalizing consumed with
  | nil =>
    refine iff_of_true ⟨_, List.mem_singleton_self _, hle, hlt, ?_⟩ (by simp)
    exact Nat.sub_pos_of_lt (Nat.lt_of_le_of_lt hle hlt)
  | cons head found ih =>
    obtain ⟨m, new⟩ := head
    obtain ⟨-, h1, -, -, h2, -, horder⟩ := h
    simp only [Piece.start, Piece.stop] at h1 h2 horder
    by_cases hpast : m.stop ≤ i
    · -- the character comes after the match
      have hpieces : (∃ p ∈ splice length consumed ((m, new) :: found), p.start ≤ i ∧ i < p.stop ∧ 0 < p.size) ↔
          ∃ p ∈ splice length m.stop found, p.start ≤ i ∧ i < p.stop ∧ 0 < p.size := by
        simp only [splice, List.mem_cons, exists_eq_or_imp, Piece.start, Piece.stop]
        constructor
        · rintro (hkept | hput | hlater)
          · omega
          · omega
          · exact hlater
        · exact fun hlater => Or.inr (Or.inr hlater)
      rw [hpieces, ih horder hpast]
      refine not_congr (exists_congr fun m' => ?_)
      rw [List.mem_cons, Prod.mk.injEq]
      constructor
      · rintro ⟨hmem, hm'⟩
        exact ⟨Or.inr hmem, hm'⟩
      · rintro ⟨⟨rfl, -⟩ | hmem, hm'⟩
        · omega
        · exact ⟨hmem, hm'⟩
    · -- later pieces and matches start after it
      have hlater : ∀ p ∈ splice length m.stop found, ¬ p.start ≤ i := by
        intro p hp
        have := (horder.bounds hp).1
        omega
      have hmatches : (∃ m', (m', []) ∈ (m, new) :: found ∧ m'.start ≤ i ∧ i < m'.stop) ↔ new = [] ∧ m.start ≤ i := by
        constructor
        · rintro ⟨m', hmem, hm'⟩
          rcases List.mem_cons.1 hmem with heq | hmem
          · cases heq
            exact ⟨rfl, hm'.1⟩
          · exact absurd hm'.1 (hlater _ (put_mem_splice hmem))
        · rintro ⟨rfl, hstart⟩
          exact ⟨m, List.mem_cons_self .., hstart, by omega⟩
      rw [hmatches]
      constructor
      · rintro ⟨p, hp, hstart, hstop, hsize⟩ ⟨rfl, hm⟩
        rcases List.mem_cons.1 hp with rfl | hp
        · simp only [Piece.stop] at hstop
          omega
        · rcases List.mem_cons.1 hp with rfl | hp
          · exact absurd hsize (by simp [size])
          · exact hlater p hp hstart
      · intro hleft
        by_cases hstart : m.start ≤ i
        · refine ⟨put m.start m.stop new, by simp [splice], hstart, by simp only [Piece.stop]; omega, ?_⟩
          exact List.length_pos_iff.2 fun hnil => hleft ⟨hnil, hstart⟩
        · exact ⟨kept consumed m.start, by simp [splice], hle, by simp only [Piece.stop]; omega,
            by simp only [size]; omega⟩

/-! ### Lines -/

/-- In a text without a line, every character is left but those of the line and its terminator. -/
lemma exists_mem_lineCut (newline : Text) (line : Int) (hi : i < text.length) :
    (∃ p ∈ lineCut text line newline, p.start ≤ i ∧ i < p.stop ∧ 0 < p.size) ↔
      ¬ (0 ≤ line ∧ OnLine text newline line.toNat i) := by
  have hwhole : ∃ p ∈ [kept 0 text.length], p.start ≤ i ∧ i < p.stop ∧ 0 < p.size :=
    ⟨_, List.mem_singleton_self _, Nat.zero_le i, hi, Nat.lt_of_le_of_lt (Nat.zero_le i) hi⟩
  by_cases hneg : line < 0
  · rw [lineCut, if_pos hneg]
    exact iff_of_true hwhole fun h => absurd h.1 (by omega)
  · rw [lineCut, if_neg hneg]
    have hdrop : ∀ k, ((text.lineStarts newline).drop line.toNat)[k]? = (text.lineStarts newline)[line.toNat + k]? :=
      fun k => List.getElem?_drop
    rcases hstarts : (text.lineStarts newline).drop line.toNat with _ | ⟨first, _ | ⟨next, rest⟩⟩
    · -- there is no such line
      refine iff_of_true hwhole ?_
      rintro ⟨-, l, hl, -⟩
      rw [Text.getElem?_lines, Text.line?, Text.lineIn?, hstarts] at hl
      cases hl
    · -- the last line
      rw [hstarts] at hdrop
      have hlast : ¬ line.toNat + 1 < text.lineCount newline :=
        Nat.not_lt_of_le (List.getElem?_eq_none_iff.1 (hdrop 1).symm)
      have hline : text.line? newline line.toNat = some ⟨text.drop first, first⟩ := by
        rw [Text.line?, Text.lineIn?, hstarts]
      have hstop : first + (text.drop first).length = text.length := by
        rcases (Text.line?_eq_some hline).2 with ⟨-, hnext⟩ | ⟨hend, -⟩
        · exact absurd ((hdrop 1).trans hnext) (by simp)
        · exact hend
      have hfirst : line = 0 → first = 0 := by
        rintro rfl
        exact Option.some.inj (hdrop 0)
      simp only [OnLine, Text.getElem?_lines, hline, Option.some.injEq, exists_eq_left', if_neg hlast]
      split
      · simp only [List.not_mem_nil, false_and, exists_false, false_iff, not_not]
        omega
      · simp only [around, List.mem_cons, List.not_mem_nil, or_false, exists_eq_or_imp, exists_eq_left, Piece.start,
          Piece.stop, size]
        omega
    · rw [hstarts] at hdrop
      have hmore : line.toNat + 1 < text.lineCount newline := (List.getElem?_eq_some_iff.1 (hdrop 1).symm).1
      have hline : text.line? newline line.toNat = some ⟨text.slice first (next - newline.length), first⟩ := by
        rw [Text.line?, Text.lineIn?, hstarts]
      have hstop : next = first + (text.slice first (next - newline.length)).length + newline.length := by
        rcases (Text.line?_eq_some hline).2 with ⟨-, hnext⟩ | ⟨-, hnone⟩
        · exact Option.some.inj ((hdrop 1).trans hnext)
        · exact absurd ((hdrop 1).trans hnone) (by simp)
      simp only [OnLine, Text.getElem?_lines, hline, Option.some.injEq, exists_eq_left', if_pos hmore, around,
        List.mem_cons, List.not_mem_nil, or_false, exists_eq_or_imp, exists_eq_left, Piece.start, Piece.stop, size]
      omega

lemma put_notMem_lineCut {newline : Text} {line : Int} : put start stop new ∉ lineCut text line newline := by
  unfold lineCut
  split
  · simp
  · split
    · simp
    · simp [around]
    · split <;> simp [around]

/-! ### All edits -/

/-- What an edit writes is what its pieces put, at their places. -/
lemma writes_iff (hp : e.pieces text = .ok pieces) (horder : Piece.InOrder text.length 0 pieces) :
    e.Writes text start stop new place ↔ (put start stop new, place) ∈ placed 0 pieces := by
  cases e with
  | truncate first last =>
    obtain rfl := Except.ok.inj hp
    refine iff_of_false (fun h => by cases h) (by simp [placed])
  | replace p r everywhere first =>
    simp only [Edit.pieces, bind, Except.bind, pure, Except.pure] at hp
    split at hp
    · cases hp
    · next news hnews =>
      obtain rfl := Except.ok.inj hp
      rw [mem_placed_splice horder]
      simp only [Nat.add_zero, Nat.zero_add]
      constructor
      · rintro (_ | ⟨hnews', hmatch, hplace⟩)
        obtain rfl := Except.ok.inj (hnews.symm.trans hnews')
        exact ⟨_, _, _, hmatch, rfl, rfl, hplace⟩
      · rintro ⟨earlier, m, later, hmatch, rfl, rfl, hplace⟩
        exact .replaced hnews hmatch hplace
  | removeLine line newline =>
    obtain rfl := Except.ok.inj hp
    refine iff_of_false (fun h => by cases h) fun h => ?_
    exact put_notMem_lineCut (mem_of_mem_placed h)
  | insertAt inserted index =>
    obtain rfl := Except.ok.inj hp
    simp only [placed, List.mem_cons, Prod.mk.injEq, reduceCtorEq, false_and, false_or, put.injEq, List.not_mem_nil,
      or_false, size, Nat.zero_add, Nat.sub_zero]
    constructor
    · rintro ⟨⟩
      exact ⟨⟨rfl, rfl, rfl⟩, rfl⟩
    · rintro ⟨⟨rfl, rfl, rfl⟩, rfl⟩
      exact .inserted ..
  | shift distance =>
    obtain rfl := Except.ok.inj hp
    refine iff_of_false (fun h => by cases h) (by simp [placed])

/-- What an edit deletes is what none of its pieces is made of. -/
lemma not_deletes_iff (he : e.isShift = false) (hp : e.pieces text = .ok pieces)
    (horder : Piece.InOrder text.length 0 pieces) (hi : i < text.length) :
    (∃ p ∈ pieces, p.start ≤ i ∧ i < p.stop ∧ 0 < p.size) ↔ ¬ e.Deletes text i := by
  cases e with
  | truncate start stop =>
    obtain rfl := Except.ok.inj hp
    cases stop with
    | none =>
      simp only [List.mem_singleton, exists_eq_left, Piece.start, Piece.stop, size, Deletes, reduceCtorEq, false_and,
        exists_false, or_false, clamp]
      omega
    | some stop =>
      simp only [List.mem_singleton, exists_eq_left, Piece.start, Piece.stop, size, Deletes, Option.some.injEq,
        exists_eq_left', clamp]
      omega
  | replace p r everywhere first =>
    simp only [Edit.pieces, bind, Except.bind, pure, Except.pure] at hp
    split at hp
    · cases hp
    · next news hnews =>
      obtain rfl := Except.ok.inj hp
      rw [exists_mem_splice horder (Nat.zero_le i) hi]
      simp only [mem_zip_of_mapM hnews, Deletes, and_assoc]
  | removeLine line newline =>
    obtain rfl := Except.ok.inj hp
    exact exists_mem_lineCut newline line hi
  | insertAt inserted index =>
    obtain rfl := Except.ok.inj hp
    simp only [List.mem_cons, List.not_mem_nil, or_false, exists_eq_or_imp, exists_eq_left, Piece.start, Piece.stop,
      size, Deletes, not_false_eq_true, iff_true]
    generalize clamp index 0 text.length = point
    omega
  | shift distance => cases he

/-! ### The account -/

lemma exists_error_of_mapM {α β ε : Type} {f : α → Except ε β} {items : List α} {err : ε}
    (h : items.mapM f = .error err) : ∃ a ∈ items, f a = .error err := by
  have hall : Settles (fun e => ∃ a ∈ items, f a = .error e) (fun _ => True) (items.mapM f) := by
    refine Settles.mapM fun a ha => ?_
    cases hfa : f a with
    | ok b => trivial
    | error e => exact ⟨a, ha, hfa⟩
  exact hall.of_error h

/-- The pair of a kept piece copies. -/
lemma copiesText_of_kept (horder : Piece.InOrder text.length 0 pieces)
    (h : (kept start stop, place) ∈ placed 0 pieces) (hlt : start < stop) :
    Pair.CopiesText text (render text pieces) ⟨.ofSize start (stop - start), .ofSize place (stop - start)⟩ := by
  have hpos : 0 < stop - start := by omega
  have hslice := (slice_placed [] horder h).2
  refine ⟨by rw [Range.size_ofSize hpos, Range.size_ofSize hpos], ?_⟩
  dsimp only [Range.ofSize]
  rw [show start + (stop - start - 1) + 1 = stop by omega,
    show place + (stop - start - 1) + 1 = place + (stop - start) by omega]
  exact hslice.symm

/-- A result that is made of the pieces of the edit accounts for every character. -/
lemma accounts_of_madeOf {r : Edited} (he : e.isShift = false) (hp : e.pieces text = .ok pieces)
    (hmade : r.MadeOf text pieces) : e.Accounts text r := by
  have horder := hmade.inOrder
  have hwrites : ∀ {start stop new place},
      e.Writes text start stop new place ↔ (put start stop new, place) ∈ placed 0 pieces :=
    fun {_ _ _ _} => writes_iff hp horder
  have hordered := pairwise_pairs 0 horder
  have hpair : ∀ q ∈ Piece.pairs 0 pieces, q.CopiesText text (render text pieces) ∨
      ∃ start stop new place, e.Writes text start stop new place ∧ start < stop ∧ new ≠ [] ∧
        q = ⟨.ofSize start (stop - start), .ofSize place new.length⟩ := by
    intro q hq
    obtain ⟨p, place, hmem, hlt, hsize, rfl⟩ := mem_pairs.1 hq
    cases p with
    | kept start stop => exact Or.inl (copiesText_of_kept horder hmem hlt)
    | put start stop new =>
      exact Or.inr ⟨start, stop, new, place, hwrites.2 hmem, hlt, List.ne_nil_of_length_pos hsize, rfl⟩
  have hinput : ∀ i < text.length, (∃ q ∈ Piece.pairs 0 pieces, i ∈ q.input) ↔ ¬ e.Deletes text i :=
    fun i hi => exists_mem_input.trans (not_deletes_iff he hp horder hi)
  obtain ⟨out, ⟨pairs⟩, capped⟩ := r
  obtain ⟨-, htext, hpairs⟩ := hmade
  dsimp only at htext hpairs
  subst htext hpairs
  refine ⟨hordered, Mapping.disjointOutputs_of_pairwise (hordered.imp And.right), ?_, hpair, ?_, ?_, ?_, ?_, ?_⟩
  · exact fun q hq => within_of_mem_pairs horder hq
  · intro start stop new place hw hlt hne
    exact mem_pairs.2 ⟨_, _, hwrites.1 hw, hlt, List.length_pos_iff.2 hne, rfl⟩
  · intro start stop new place hw
    exact (slice_placed [] horder (hwrites.1 hw)).2
  · intro j hj
    rw [not_exists_mem_output horder hj]
    simp only [hwrites]
  · intro i hi
    rw [hinput i hi, not_not]
  · intro i hi hkept hnone
    obtain ⟨q, hq, hiq⟩ := (hinput i hi).2 hkept
    refine ⟨q, hq, (hpair q hq).resolve_right ?_, hiq⟩
    rintro ⟨start, stop, new, place, hw, hlt, -, rfl⟩
    rw [Range.mem_ofSize (Nat.sub_pos_of_lt hlt)] at hiq
    exact hnone start stop new place hw ⟨hiq.1, by omega⟩

/-- **The mapping of an edit accounts for every character.**  Every edit but a shift has a result, whatever its
numbers are, and its mapping accounts for the characters of both texts; only a replacement has none if the text for
one of its matches cannot be made.  How many matches are replaced does not matter: what comes after the last one is
copied. -/
theorem apply_accounts (text : Text) {e : Edit} (he : e.isShift = false) :
    (∃ r, e.apply text = .ok r ∧ e.Accounts text r) ∨
      ∃ p rep everywhere first m err, e = .replace p rep everywhere first ∧ m ∈ targets text p everywhere first ∧
        rep.textFor p m = .error err ∧ e.apply text = .error err := by
  cases happly : e.apply text with
  | ok r =>
    obtain ⟨pieces, hp, hmade⟩ := Edit.apply_eq_ok he happly
    exact Or.inl ⟨r, rfl, accounts_of_madeOf he hp hmade⟩
  | error err =>
    cases e with
    | replace p rep everywhere first =>
      right
      simp only [Edit.apply, replaced] at happly
      cases hnews : (targets text p everywhere first).mapM (rep.textFor p) with
      | error err' =>
        rw [hnews] at happly
        obtain rfl := Except.error.inj happly
        obtain ⟨m, hm, hfails⟩ := exists_error_of_mapM hnews
        exact ⟨p, rep, everywhere, first, m, err', rfl, hm, hfails, rfl⟩
      | ok news =>
        rw [hnews] at happly
        cases happly
    | truncate start stop => cases happly
    | removeLine line newline => cases happly
    | insertAt inserted index => cases happly
    | shift distance => cases he

/-- Each run of a letter is replaced by its length, the empty runs between the other letters as well. -/
def countRuns : Edit := .replace (.ofSource "a*" Pattern.noFlags) .size true (-7)

/-- The lengths of empty runs come from nowhere, and the last line goes with the terminator before it. -/
theorem counted_runs_accounted :
    (∃ r, countRuns.apply "aab".toList = .ok r ∧ r.text = "20b0".toList ∧ countRuns.Accounts "aab".toList r) ∧
    ∃ r, (removeLine 1 "\n".toList).apply "x\ny".toList = .ok r ∧ r.text = "x".toList ∧
      (removeLine 1 "\n".toList).Accounts "x\ny".toList r := by
  constructor
  · have hcounted : (countRuns.apply "aab".toList).map (·.text) = .ok "20b0".toList := by decide +kernel
    rcases apply_accounts "aab".toList (e := countRuns) rfl with ⟨r, hr, haccounts⟩ | ⟨_, _, _, _, _, _, -, -, -, herr⟩
    · rw [hr] at hcounted
      exact ⟨r, hr, Except.ok.inj hcounted, haccounts⟩
    · rw [herr] at hcounted
      cases hcounted
  · rcases apply_accounts "x\ny".toList (e := removeLine 1 "\n".toList) rfl with
      ⟨r, hr, haccounts⟩ | ⟨_, _, _, _, _, _, he, -⟩
    · exact ⟨r, hr, by rw [← Except.ok.inj hr]; decide +kernel, haccounts⟩
    · cases he

end Edit

end MarkupLint
