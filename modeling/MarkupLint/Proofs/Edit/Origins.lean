import MarkupLint.Proofs.Edit.Pieces
import MarkupLint.Proofs.Mapping.Compose

/-!
# Where the characters of an edited text come from

Every character of a text made of pieces is a copy of a character of the old text, or it belongs to a text
that replaces a stretch of the old text.  `Piece.origins` says which, character by character:

* `length_origins`, `getElem?_render`: there is an origin for each character, and a copy is a copy;
* `pairwise_origins`: copies keep the order, also with respect to what is replaced;
* `explains_of_mem_pairs`: a pair of the mapping of the pieces tells nothing but the origins;
* `exists_aligned`: every copied character has a pair that copies it.
-/

namespace MarkupLint

/-- Where a character of an edited text comes from. -/
inductive Origin where
  /-- It is the character at the offset `i` of the old text. -/
  | copied (i : Nat)
  /-- It belongs to a text in the place of the characters from `start` on, up to but without `stop`. -/
  | replacing (start stop : Nat)
deriving DecidableEq, Repr

namespace Origin

/-- The character comes from the offset `k` of the old text. -/
def Reads : Origin → Nat → Prop
  | copied i, k => k = i
  | replacing start stop, k => start ≤ k ∧ k < stop

/-- Whether the character is a copy. -/
def isCopied : Origin → Bool
  | copied _ => true
  | replacing _ _ => false

/-- A character with the origin `o` may come before one with the origin `o'`: if one of them is a copy,
nothing that `o` comes from is behind what `o'` comes from. -/
def Before (o o' : Origin) : Prop :=
  o.isCopied || o'.isCopied → ∀ k k', o.Reads k → o'.Reads k' → k ≤ k'

lemma eq_of_reads {o : Origin} {k : Nat} (hc : o.isCopied) (hk : o.Reads k) : o = copied k := by
  cases o with
  | copied i => exact congrArg copied (Eq.symm hk)
  | replacing start stop => cases hc

end Origin

/-- The pair tells nothing but the truth about the characters with the given origins: it copies copies, or
all of its output comes from all of its input. -/
def Pair.Explains (origins : List Origin) (q : Pair) : Prop :=
  (q.input.size = q.output.size ∧ ∀ k j, q.Aligned k j → origins[j]? = some (.copied k)) ∨
    ∀ j ∈ q.output, ∃ o, origins[j]? = some o ∧ ∀ k ∈ q.input, o.Reads k

namespace Piece

variable {old : Text} {length consumed t j k : Nat} {o : Origin} {p : Piece} {pieces : List Piece}

/-- The origins of the characters of a piece. -/
def own : Piece → List Origin
  | kept start stop => (List.range' start (stop - start)).map .copied
  | put start stop new => List.replicate new.length (.replacing start stop)

/-- **The origins of the characters of a text made of pieces.** -/
def origins (pieces : List Piece) : List Origin := pieces.flatMap own

lemma length_own (p : Piece) : p.own.length = p.size := by
  cases p <;> simp [own, size]

lemma length_text (h1 : p.start ≤ p.stop) (h2 : p.stop ≤ old.length) : (p.text old).length = p.size := by
  cases p with
  | kept start stop =>
    simp only [Piece.start, Piece.stop] at h1 h2
    simp only [text, Text.slice, size, List.length_take, List.length_drop]
    omega
  | put start stop new => rfl

lemma getElem?_own_kept {start stop : Nat} :
    (kept start stop).own[t]? = some o ↔ t < stop - start ∧ o = .copied (start + t) := by
  simp only [own, List.getElem?_map, Option.map_eq_some_iff, List.getElem?_eq_some_iff,
    List.length_range', List.getElem_range', Nat.one_mul]
  constructor
  · rintro ⟨_, ⟨ht, rfl⟩, rfl⟩
    exact ⟨ht, rfl⟩
  · rintro ⟨ht, rfl⟩
    exact ⟨_, ⟨ht, rfl⟩, rfl⟩

lemma getElem?_own_put {start stop : Nat} {new : Text} :
    (put start stop new).own[t]? = some o ↔ t < new.length ∧ o = .replacing start stop := by
  simp only [own, List.getElem?_eq_some_iff, List.length_replicate, List.getElem_replicate]
  constructor
  · rintro ⟨ht, rfl⟩
    exact ⟨ht, rfl⟩
  · rintro ⟨ht, rfl⟩
    exact ⟨ht, rfl⟩

lemma reads_own (ho : o ∈ p.own) (hk : o.Reads k) : p.start ≤ k ∧ k < p.stop := by
  obtain ⟨t, ht⟩ := List.mem_iff_getElem?.1 ho
  cases p with
  | kept start stop =>
    obtain ⟨hlt, rfl⟩ := getElem?_own_kept.1 ht
    obtain rfl : k = start + t := hk
    simp only [Piece.start, Piece.stop]
    omega
  | put start stop new =>
    obtain ⟨-, rfl⟩ := getElem?_own_put.1 ht
    exact hk

/-! ## The text -/

/-- There is an origin for each character. -/
lemma length_origins (h : InOrder old.length consumed pieces) :
    (origins pieces).length = (render old pieces).length := by
  induction pieces generalizing consumed with
  | nil => rfl
  | cons p later ih =>
    obtain ⟨-, h1, h2, horder⟩ := h
    have := ih horder
    unfold origins render at this ⊢
    rw [List.flatMap_cons, List.flatMap_cons, List.length_append, List.length_append, this, length_own,
      length_text h1 h2]

/-- A copied character is the character of the old text. -/
lemma getElem?_render (h : InOrder old.length consumed pieces)
    (ho : (origins pieces)[j]? = some (.copied k)) :
    (render old pieces)[j]? = old[k]? ∧ k < old.length := by
  induction pieces generalizing consumed j with
  | nil => cases ho
  | cons p later ih =>
    obtain ⟨-, h1, h2, horder⟩ := h
    have hlen := length_text h1 h2
    unfold origins render at *
    rw [List.flatMap_cons] at ho ⊢
    by_cases hj : j < p.size
    · rw [List.getElem?_append_left (by rw [length_own]; exact hj)] at ho
      rw [List.getElem?_append_left (by rw [hlen]; exact hj)]
      cases p with
      | kept start stop =>
        obtain ⟨hlt, heq⟩ := getElem?_own_kept.1 ho
        obtain rfl := Origin.copied.inj heq
        simp only [Piece.stop] at h2
        simp only [text, Text.slice, List.getElem?_take, if_pos hlt, List.getElem?_drop]
        exact ⟨trivial, by omega⟩
      | put start stop new => cases (getElem?_own_put.1 ho).2
    · rw [List.getElem?_append_right (by rw [length_own]; omega), length_own] at ho
      rw [List.getElem?_append_right (by rw [hlen]; omega), hlen]
      exact ih horder ho

/-! ## The order -/

lemma reads_origins (h : InOrder length consumed pieces) (ho : o ∈ origins pieces) (hk : o.Reads k) :
    consumed ≤ k := by
  induction pieces generalizing consumed with
  | nil => cases ho
  | cons p later ih =>
    obtain ⟨hle, h1, -, horder⟩ := h
    unfold origins at ho ih
    rw [List.flatMap_cons, List.mem_append] at ho
    rcases ho with ho | ho
    · exact Nat.le_trans hle (reads_own ho hk).1
    · exact Nat.le_trans (Nat.le_trans hle h1) (ih horder ho)

lemma pairwise_own (p : Piece) : p.own.Pairwise Origin.Before := by
  cases p with
  | kept start stop =>
    refine List.pairwise_map.2 ((List.pairwise_lt_range' (s := start)).imp ?_)
    rintro a b hab - k k' rfl rfl
    exact Nat.le_of_lt hab
  | put start stop new =>
    refine List.pairwise_replicate.2 (Or.inr fun h => ?_)
    cases h

/-- **Copies keep the order**, also with respect to what is replaced. -/
theorem pairwise_origins (h : InOrder length consumed pieces) :
    (origins pieces).Pairwise Origin.Before := by
  induction pieces generalizing consumed with
  | nil => exact List.Pairwise.nil
  | cons p later ih =>
    obtain ⟨-, -, -, horder⟩ := h
    refine List.pairwise_append.2 ⟨pairwise_own p, ih horder, fun o ho o' ho' _ k k' hk hk' => ?_⟩
    have h1 := (reads_own ho hk).2
    have h2 := reads_origins horder ho' hk'
    omega

/-- Of two characters one of which is a copy, the later one comes from no offset before the other's. -/
lemma le_of_reads (h : InOrder length consumed pieces) {o' : Origin} {j' k' : Nat} (hle : j ≤ j')
    (ho : (origins pieces)[j]? = some o) (ho' : (origins pieces)[j']? = some o')
    (hc : o.isCopied || o'.isCopied) (hk : o.Reads k) (hk' : o'.Reads k') : k ≤ k' := by
  rcases Nat.lt_or_eq_of_le hle with hlt | rfl
  · obtain ⟨hj, rfl⟩ := List.getElem?_eq_some_iff.1 ho
    obtain ⟨hj', rfl⟩ := List.getElem?_eq_some_iff.1 ho'
    exact List.pairwise_iff_getElem.1 (pairwise_origins h) j j' hj hj' hlt hc k k' hk hk'
  · obtain rfl := Option.some.inj (ho.symm.trans ho')
    rw [Bool.or_self] at hc
    obtain rfl := Origin.eq_of_reads hc hk
    exact Nat.le_of_eq hk'.symm

/-! ## The mapping -/

/-- The pair of a piece that is neither empty in the old text nor in the new one. -/
lemma explains_own {before later : List Origin} {q : Pair}
    (hq : q ∈ Pair.ofSizes p.start (p.stop - p.start) before.length p.size) :
    q.Explains (before ++ (p.own ++ later)) := by
  obtain ⟨hin, hout, rfl⟩ := Pair.mem_ofSizes.1 hq
  have hget : ∀ j ∈ Range.ofSize before.length p.size,
      (before ++ (p.own ++ later))[j]? = p.own[j - before.length]? := by
    intro j hj
    rw [Range.mem_ofSize hout] at hj
    rw [List.getElem?_append_right hj.1, List.getElem?_append_left (by rw [length_own]; omega)]
  cases p with
  | kept start stop =>
    refine Or.inl ⟨by rw [Range.size_ofSize hin, Range.size_ofSize hout]; rfl, fun k j hkj => ?_⟩
    rw [hget j hkj.2.2.1, getElem?_own_kept]
    obtain ⟨t, ht, rfl, rfl⟩ := (Pair.aligned_ofSize hin).1 hkj
    rw [Nat.add_sub_cancel_left]
    exact ⟨ht, rfl⟩
  | put start stop new =>
    refine Or.inr fun j hj => ⟨.replacing start stop, ?_, fun k hk => ?_⟩
    · rw [hget j hj, getElem?_own_put]
      rw [Range.mem_ofSize hout] at hj
      simp only [size] at hj
      exact ⟨by omega, rfl⟩
    · rw [Range.mem_ofSize hin] at hk
      simp only [Piece.start, Piece.stop] at hk
      exact ⟨hk.1, by omega⟩

lemma explains_of_mem_pairs_from (before : List Origin) {q : Pair}
    (hq : q ∈ Piece.pairs before.length pieces) : q.Explains (before ++ origins pieces) := by
  induction pieces generalizing before with
  | nil => cases hq
  | cons p later ih =>
    rcases List.mem_append.1 hq with hq | hq
    · exact explains_own hq
    · have := ih (before ++ p.own) (by rw [List.length_append, length_own]; exact hq)
      rwa [List.append_assoc] at this

/-- **A pair tells nothing but the origins.** -/
theorem explains_of_mem_pairs {q : Pair} (hq : q ∈ Piece.pairs 0 pieces) : q.Explains (origins pieces) :=
  explains_of_mem_pairs_from [] hq

lemma exists_aligned_from (before : List Origin) (hj : before.length ≤ j)
    (ho : (before ++ origins pieces)[j]? = some (.copied k)) :
    ∃ q ∈ Piece.pairs before.length pieces, q.Aligned k j := by
  induction pieces generalizing before with
  | nil =>
    rw [List.getElem?_append_right hj] at ho
    cases ho
  | cons p later ih =>
    unfold origins at ho ih
    rw [List.flatMap_cons] at ho
    by_cases hlt : j < before.length + p.size
    · -- the character is one of this piece, which must be kept
      rw [List.getElem?_append_right hj, List.getElem?_append_left (by rw [length_own]; omega)] at ho
      cases p with
      | kept start stop =>
        obtain ⟨ht, heq⟩ := getElem?_own_kept.1 ho
        obtain rfl := Origin.copied.inj heq
        have hpos : 0 < stop - start := by omega
        refine ⟨_, List.mem_append_left _ (Pair.mem_ofSizes.2 ⟨hpos, hpos, rfl⟩), ?_⟩
        exact (Pair.aligned_ofSize hpos).2 ⟨j - before.length, ht, rfl, by omega⟩
      | put start stop new => cases (getElem?_own_put.1 ho).2
    · rw [← List.append_assoc] at ho
      obtain ⟨q, hq, hal⟩ := ih (before ++ p.own) (by rw [List.length_append, length_own]; omega) ho
      rw [List.length_append, length_own] at hq
      exact ⟨q, List.mem_append_right _ hq, hal⟩

/-- **Every copied character has a pair that copies it.** -/
theorem exists_aligned (ho : (origins pieces)[j]? = some (.copied k)) :
    ∃ q ∈ Piece.pairs 0 pieces, q.Aligned k j :=
  exists_aligned_from [] (Nat.zero_le j) ho

/-- The pairs have their inputs in the old text. -/
lemma lt_length_of_mem_pairs (h : InOrder length consumed pieces) {produced : Nat} {q : Pair}
    (hq : q ∈ Piece.pairs produced pieces) (hk : k ∈ q.input) : k < length := by
  induction pieces generalizing consumed produced with
  | nil => cases hq
  | cons p later ih =>
    obtain ⟨-, h1, h2, horder⟩ := h
    rcases List.mem_append.1 hq with hq | hq
    · obtain ⟨hin, -, rfl⟩ := Pair.mem_ofSizes.1 hq
      rw [Range.mem_ofSize hin] at hk
      omega
    · exact ih horder hq

end Piece

end MarkupLint
