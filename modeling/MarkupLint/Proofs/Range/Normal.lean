import Mathlib.Tactic.Common
import MarkupLint.Range

/-!
# Ranges as sets of offsets

* `i ∈ r`: the offset `i` lies in the range `r`; `Covers ranges i`: it lies in a range of the list;
* `Separated ranges`: sorted, with an uncovered offset between neighbours, which is the normal form;
* `covers_normalize` and `separated_normalize`: `normalize` keeps the offsets and gives a normal form;
* `eq_of_covers_iff`: the offsets determine the normal form.  Consequently two lists with the same
  offsets have the same normal form (`normalize_congr`);
* `unite_eq_some_iff`: `unite` gives the first and the last offset covered.
-/

namespace MarkupLint

namespace Range

instance : Membership Nat Range := ⟨fun r i => r.start ≤ i ∧ i ≤ r.stop⟩

lemma mem_def {r : Range} {i : Nat} : i ∈ r ↔ r.start ≤ i ∧ i ≤ r.stop := Iff.rfl

instance (r : Range) (i : Nat) : Decidable (i ∈ r) := decidable_of_iff' _ mem_def

lemma start_mem (r : Range) : r.start ∈ r := ⟨Nat.le_refl _, r.start_le_stop⟩

lemma stop_mem (r : Range) : r.stop ∈ r := ⟨r.start_le_stop, Nat.le_refl _⟩

@[simp] lemma mem_single {i j : Nat} : i ∈ single j ↔ i = j := by
  simp only [mem_def, single]
  omega

lemma size_pos (r : Range) : 0 < r.size := Nat.succ_pos _

lemma start_add_size (r : Range) : r.start + r.size = r.stop + 1 := by
  have := r.start_le_stop
  unfold size
  omega

lemma mem_iff_lt_size {r : Range} {i : Nat} : i ∈ r ↔ r.start ≤ i ∧ i - r.start < r.size := by
  have := r.start_add_size
  rw [mem_def]
  omega

lemma mem_ofSize {start size i : Nat} (h : 0 < size) :
    i ∈ ofSize start size ↔ start ≤ i ∧ i < start + size := by
  simp only [mem_def, ofSize]
  omega

lemma size_ofSize {start size : Nat} (h : 0 < size) : (ofSize start size).size = size := by
  simp only [Range.size, ofSize]
  omega

/-- A range with the same ends is the same range. -/
lemma ext_ends {r q : Range} (hstart : r.start = q.start) (hstop : r.stop = q.stop) : r = q := by
  obtain ⟨a, b, _⟩ := r
  obtain ⟨c, d, _⟩ := q
  simp only at hstart hstop
  subst hstart hstop
  rfl

/-- The ends of a range bound it. -/
lemma ofBounds_eq {r : Range} {start stop : Int} (hstart : start = r.start) (hstop : stop = r.stop) :
    ofBounds start stop = .ok r := by
  have hle := r.start_le_stop
  subst hstart hstop
  rw [ofBounds, if_neg (by omega), dif_neg (by omega)]
  rfl

lemma ofBounds_ofSize {start size : Nat} {stop : Int} (h : 0 < size) (hstop : stop = start + size - 1) :
    ofBounds start stop = .ok (ofSize start size) := by
  refine ofBounds_eq rfl ?_
  simp only [ofSize]
  omega

/-- Every offset of `r` is an offset of `q`. -/
def Inside (r q : Range) : Prop := q.start ≤ r.start ∧ r.stop ≤ q.stop

instance (r q : Range) : Decidable (r.Inside q) := inferInstanceAs (Decidable (_ ∧ _))

lemma inside_iff {r q : Range} : r.Inside q ↔ ∀ i ∈ r, i ∈ q := by
  constructor
  · rintro ⟨h1, h2⟩ i ⟨hi1, hi2⟩
    exact ⟨by omega, by omega⟩
  · intro h
    exact ⟨(h _ r.start_mem).1, (h _ r.stop_mem).2⟩

lemma Inside.trans {r q s : Range} (hrq : r.Inside q) (hqs : q.Inside s) : r.Inside s :=
  ⟨Nat.le_trans hqs.1 hrq.1, Nat.le_trans hrq.2 hqs.2⟩

/-- A range is determined by its offsets. -/
lemma ext_mem {r q : Range} (h : ∀ i, i ∈ r ↔ i ∈ q) : r = q := by
  obtain ⟨h1, h2⟩ := inside_iff.2 fun i hi => (h i).1 hi
  obtain ⟨h3, h4⟩ := inside_iff.2 fun i hi => (h i).2 hi
  exact ext_ends (Nat.le_antisymm h3 h1) (Nat.le_antisymm h2 h4)

lemma mem_intersect {r q part : Range} (h : r.intersect q = some part) (i : Nat) :
    i ∈ part ↔ i ∈ r ∧ i ∈ q := by
  unfold intersect at h
  split at h
  · obtain rfl := Option.some.inj h
    simp only [mem_def]
    omega
  · cases h

lemma intersect_eq_none_iff {r q : Range} : r.intersect q = none ↔ ∀ i, ¬ (i ∈ r ∧ i ∈ q) := by
  unfold intersect
  split
  · next h =>
    have hr := r.start_le_stop
    have hq := q.start_le_stop
    simp only [reduceCtorEq, false_iff, not_forall, not_not]
    refine ⟨max r.start q.start, ?_⟩
    simp only [mem_def]
    omega
  · next h =>
    simp only [true_iff, mem_def]
    omega

lemma exists_intersect {r q : Range} {i : Nat} (hr : i ∈ r) (hq : i ∈ q) :
    ∃ part, r.intersect q = some part ∧ i ∈ part := by
  cases h : r.intersect q with
  | none => exact absurd ⟨hr, hq⟩ (intersect_eq_none_iff.1 h i)
  | some part => exact ⟨part, rfl, (mem_intersect h i).2 ⟨hr, hq⟩⟩

lemma inside_of_intersect {r q part : Range} (h : r.intersect q = some part) :
    part.Inside r ∧ part.Inside q :=
  ⟨inside_iff.2 fun i hi => ((mem_intersect h i).1 hi).1,
    inside_iff.2 fun i hi => ((mem_intersect h i).1 hi).2⟩

lemma intersect_of_inside {r q : Range} (h : q.Inside r) : r.intersect q = some q := by
  obtain ⟨part, hpart, -⟩ := exists_intersect (inside_iff.1 h _ q.start_mem) q.start_mem
  rw [hpart, Option.some.injEq]
  refine ext_mem fun i => ?_
  rw [mem_intersect hpart]
  exact ⟨And.right, fun hi => ⟨inside_iff.1 h i hi, hi⟩⟩

/-! ## Covering -/

/-- The offset `i` lies in a range of the list. -/
def Covers (ranges : List Range) (i : Nat) : Prop := ∃ r ∈ ranges, i ∈ r

instance (ranges : List Range) (i : Nat) : Decidable (Covers ranges i) :=
  inferInstanceAs (Decidable (∃ r ∈ ranges, i ∈ r))

@[simp] lemma covers_nil (i : Nat) : ¬ Covers [] i := by simp [Covers]

@[simp] lemma covers_cons {r : Range} {ranges : List Range} {i : Nat} :
    Covers (r :: ranges) i ↔ i ∈ r ∨ Covers ranges i := by
  simp [Covers]

lemma covers_congr_mem {ranges others : List Range} (h : ∀ r, r ∈ ranges ↔ r ∈ others) (i : Nat) :
    Covers ranges i ↔ Covers others i := by
  simp only [Covers, h]

lemma eq_nil_of_covers {ranges : List Range} (h : ∀ i, ¬ Covers ranges i) : ranges = [] := by
  cases ranges with
  | nil => rfl
  | cons r ranges => exact absurd (covers_cons.2 (Or.inl r.start_mem)) (h r.start)

lemma covers_flatMap {α : Type} {l : List α} {f : α → List Range} {i : Nat} :
    Covers (l.flatMap f) i ↔ ∃ a ∈ l, Covers (f a) i := by
  simp only [Covers, List.mem_flatMap]
  constructor
  · rintro ⟨r, ⟨a, ha, hr⟩, hi⟩
    exact ⟨a, ha, r, hr, hi⟩
  · rintro ⟨a, ha, r, hr, hi⟩
    exact ⟨r, ⟨a, ha, hr⟩, hi⟩

lemma covers_filterMap {α : Type} {l : List α} {f : α → Option Range} {i : Nat} :
    Covers (l.filterMap f) i ↔ ∃ a ∈ l, ∃ r, f a = some r ∧ i ∈ r := by
  simp only [Covers, List.mem_filterMap]
  constructor
  · rintro ⟨r, ⟨a, ha, hr⟩, hi⟩
    exact ⟨a, ha, r, hr, hi⟩
  · rintro ⟨a, ha, r, hr, hi⟩
    exact ⟨r, ⟨a, ha, hr⟩, hi⟩

/-! ## Normal forms -/

/-- **The normal form**: the ranges are sorted, and an offset is left out between neighbours. -/
def Separated (ranges : List Range) : Prop := ranges.Pairwise fun r q => r.stop + 1 < q.start

instance (ranges : List Range) : Decidable (Separated ranges) :=
  inferInstanceAs (Decidable (ranges.Pairwise _))

lemma separated_cons {r : Range} {ranges : List Range} :
    Separated (r :: ranges) ↔ (∀ i, Covers ranges i → r.stop + 1 < i) ∧ Separated ranges := by
  unfold Separated
  rw [List.pairwise_cons]
  refine and_congr_left fun _ => ⟨?_, ?_⟩
  · rintro h i ⟨q, hq, hi⟩
    exact Nat.lt_of_lt_of_le (h q hq) hi.1
  · intro h q hq
    exact h q.start ⟨q, hq, q.start_mem⟩

/-- In a normal form the first range starts at the least offset covered. -/
lemma start_le_of_covers {r : Range} {ranges : List Range} (h : Separated (r :: ranges)) {i : Nat}
    (hi : Covers (r :: ranges) i) : r.start ≤ i := by
  rcases covers_cons.1 hi with hi | hi
  · exact hi.1
  · have := (separated_cons.1 h).1 i hi
    have := r.start_le_stop
    omega

/-- In a normal form the first range goes on to the first offset that is not covered. -/
lemma not_covers_succ_stop {r : Range} {ranges : List Range} (h : Separated (r :: ranges)) :
    ¬ Covers (r :: ranges) (r.stop + 1) := by
  intro hc
  rcases covers_cons.1 hc with hi | hi
  · exact absurd hi.2 (by omega)
  · exact absurd ((separated_cons.1 h).1 _ hi) (by omega)

lemma covers_tail_iff {r : Range} {ranges : List Range} (h : Separated (r :: ranges)) {i : Nat} :
    Covers ranges i ↔ Covers (r :: ranges) i ∧ r.stop < i := by
  have hsep := (separated_cons.1 h).1
  constructor
  · intro hi
    exact ⟨covers_cons.2 (Or.inr hi), by have := hsep i hi; omega⟩
  · rintro ⟨hi, hlt⟩
    rcases covers_cons.1 hi with hr | hi
    · exact absurd hr.2 (by omega)
    · exact hi

/-- **The offsets determine the normal form.** -/
theorem eq_of_covers_iff {ranges others : List Range} (hr : Separated ranges) (hq : Separated others)
    (h : ∀ i, Covers ranges i ↔ Covers others i) : ranges = others := by
  induction ranges generalizing others with
  | nil => exact (eq_nil_of_covers fun i hi => covers_nil i ((h i).2 hi)).symm
  | cons r ranges ih =>
    cases others with
    | nil => exact absurd ((h r.start).1 (covers_cons.2 (Or.inl r.start_mem))) (covers_nil _)
    | cons q others =>
      -- the heads start at the least offset covered and stop before the first gap
      have hstart : r.start = q.start := by
        have h1 := start_le_of_covers hr ((h q.start).2 (covers_cons.2 (Or.inl q.start_mem)))
        have h2 := start_le_of_covers hq ((h r.start).1 (covers_cons.2 (Or.inl r.start_mem)))
        omega
      have hstop : r.stop = q.stop := by
        rcases Nat.lt_trichotomy r.stop q.stop with hlt | heq | hlt
        · refine absurd ((h _).2 (covers_cons.2 (Or.inl ?_))) (not_covers_succ_stop hr)
          have := r.start_le_stop
          exact ⟨by omega, by omega⟩
        · exact heq
        · refine absurd ((h _).1 (covers_cons.2 (Or.inl ?_))) (not_covers_succ_stop hq)
          have := q.start_le_stop
          exact ⟨by omega, by omega⟩
      obtain rfl : r = q := ext_ends hstart hstop
      rw [ih (separated_cons.1 hr).2 (separated_cons.1 hq).2 fun i => by
        rw [covers_tail_iff hr, covers_tail_iff hq, h i]]

/-! ## Sorting -/

lemma le_iff {r q : Range} :
    r.le q = true ↔ r.start < q.start ∨ (r.start = q.start ∧ r.stop ≤ q.stop) := by
  simp [le]

lemma pairwise_mergeSort (ranges : List Range) :
    (ranges.mergeSort le).Pairwise fun r q => r.start ≤ q.start := by
  have h : (ranges.mergeSort le).Pairwise fun r q => r.le q = true := by
    refine List.pairwise_mergeSort ?_ ?_ ranges
    · intro r q s h1 h2
      rw [le_iff] at *
      omega
    · intro r q
      rw [Bool.or_eq_true, le_iff, le_iff]
      omega
  refine h.imp fun hle => ?_
  rw [le_iff] at hle
  omega

/-! ## Merging -/

section Merging

variable {merged : List Range} {r : Range}

/-- The three things that merging can do with the newest range `last`. -/
lemma absorb_cases (last r : Range) (before : List Range) :
    (∃ h, r.start ≤ last.stop + 1 ∧ last.stop < r.stop ∧
      absorb (last :: before) r = ⟨last.start, r.stop, h⟩ :: before) ∨
    (r.start ≤ last.stop + 1 ∧ r.stop ≤ last.stop ∧ absorb (last :: before) r = last :: before) ∨
    (last.stop + 1 < r.start ∧ absorb (last :: before) r = r :: last :: before) := by
  have hl := last.start_le_stop
  by_cases htouch : r.start ≤ last.stop + 1
  · by_cases hlonger : last.stop < r.stop
    · exact Or.inl ⟨by omega, htouch, hlonger, by simp [absorb, htouch, hlonger]⟩
    · exact Or.inr (Or.inl ⟨htouch, by omega, by simp [absorb, htouch, hlonger]⟩)
  · exact Or.inr (Or.inr ⟨by omega, by simp [absorb, htouch]⟩)

/-- What merging takes for granted: none of the ranges so far starts after the new one. -/
def StartsBefore (merged : List Range) (r : Range) : Prop := ∀ q ∈ merged, q.start ≤ r.start

lemma covers_absorb (h : StartsBefore merged r) (i : Nat) :
    Covers (absorb merged r) i ↔ Covers merged i ∨ i ∈ r := by
  cases merged with
  | nil => simp [absorb]
  | cons last before =>
    have hlast := h last (by simp)
    rcases absorb_cases last r before with ⟨hle, htouch, hlonger, heq⟩ | ⟨_, hshorter, heq⟩ | ⟨_, heq⟩
    · have hmem : i ∈ (⟨last.start, r.stop, hle⟩ : Range) ↔ i ∈ last ∨ i ∈ r := by
        simp only [mem_def]
        omega
      rw [heq, covers_cons, covers_cons, hmem]
      tauto
    · have hmem : i ∈ r → i ∈ last := by
        simp only [mem_def]
        omega
      rw [heq, covers_cons]
      tauto
    · rw [heq, covers_cons]
      tauto

lemma startsBefore_absorb {next : Range} (hmerged : StartsBefore merged next)
    (hr : r.start ≤ next.start) : StartsBefore (absorb merged r) next := by
  cases merged with
  | nil => simpa [absorb, StartsBefore] using hr
  | cons last before =>
    intro q hq
    rcases absorb_cases last r before with ⟨_, _, _, heq⟩ | ⟨_, _, heq⟩ | ⟨_, heq⟩ <;> rw [heq] at hq
    · rcases List.mem_cons.1 hq with rfl | hq
      · exact hmerged last (by simp)
      · exact hmerged q (List.mem_cons_of_mem _ hq)
    · exact hmerged q hq
    · rcases List.mem_cons.1 hq with rfl | hq
      · exact hr
      · exact hmerged q hq

/-- Merging keeps the normal form, which is held in reverse. -/
lemma separated_absorb (hsep : Separated merged.reverse) : Separated (absorb merged r).reverse := by
  unfold Separated at *
  rw [List.pairwise_reverse] at *
  cases merged with
  | nil => simp [absorb]
  | cons last before =>
    obtain ⟨hhead, htail⟩ := List.pairwise_cons.1 hsep
    have hl := last.start_le_stop
    rcases absorb_cases last r before with ⟨_, _, _, heq⟩ | ⟨_, _, heq⟩ | ⟨hgap, heq⟩ <;> rw [heq]
    · exact List.pairwise_cons.2 ⟨hhead, htail⟩
    · exact hsep
    · refine List.pairwise_cons.2 ⟨fun q hq => ?_, hsep⟩
      rcases List.mem_cons.1 hq with rfl | hq
      · exact hgap
      · have := hhead q hq
        omega

end Merging

lemma foldl_absorb {ranges : List Range} (hsorted : ranges.Pairwise fun r q => r.start ≤ q.start) :
    ∀ merged : List Range, (∀ r ∈ ranges, StartsBefore merged r) → Separated merged.reverse →
      Separated (ranges.foldl absorb merged).reverse ∧
        ∀ i, Covers (ranges.foldl absorb merged) i ↔ Covers merged i ∨ Covers ranges i := by
  induction ranges with
  | nil =>
    intro merged _ hsep
    exact ⟨hsep, by simp⟩
  | cons r ranges ih =>
    intro merged hbefore hsep
    obtain ⟨hr, hsorted⟩ := List.pairwise_cons.1 hsorted
    have hbr := hbefore r (by simp)
    obtain ⟨h1, h2⟩ := ih hsorted (absorb merged r)
      (fun q hq => startsBefore_absorb (hbefore q (List.mem_cons_of_mem _ hq)) (hr q hq))
      (separated_absorb hsep)
    refine ⟨h1, fun i => ?_⟩
    rw [List.foldl_cons, h2, covers_absorb hbr, covers_cons, or_assoc]

lemma normalize_aux (ranges : List Range) :
    Separated (normalize ranges) ∧ ∀ i, Covers (normalize ranges) i ↔ Covers ranges i := by
  obtain ⟨hsep, hcov⟩ := foldl_absorb (pairwise_mergeSort ranges) []
    (fun r _ q hq => absurd hq (by simp)) (by simp [Separated])
  refine ⟨hsep, fun i => ?_⟩
  have hperm : ∀ r, r ∈ ranges.mergeSort le ↔ r ∈ ranges :=
    fun r => (List.mergeSort_perm ranges le).mem_iff
  unfold normalize
  rw [covers_congr_mem (fun r => List.mem_reverse) i, hcov, covers_congr_mem hperm i]
  simp

/-- **Normalising gives a normal form.** -/
theorem separated_normalize (ranges : List Range) : Separated (normalize ranges) :=
  (normalize_aux ranges).1

/-- **Normalising keeps the offsets.** -/
@[simp] theorem covers_normalize {ranges : List Range} {i : Nat} :
    Covers (normalize ranges) i ↔ Covers ranges i :=
  (normalize_aux ranges).2 i

/-- Lists that cover the same offsets have the same normal form. -/
theorem normalize_congr {ranges others : List Range} (h : ∀ i, Covers ranges i ↔ Covers others i) :
    normalize ranges = normalize others :=
  eq_of_covers_iff (separated_normalize _) (separated_normalize _) fun i => by
    rw [covers_normalize, covers_normalize, h i]

/-- A list in normal form that covers a single offset is the range of that offset. -/
lemma eq_single_of_covers_iff {ranges : List Range} (hsep : Separated ranges) {i : Nat}
    (h : ∀ k, Covers ranges k ↔ k = i) : ranges = [single i] :=
  eq_of_covers_iff hsep (by simp [Separated]) fun k => by rw [h k]; simp

/-! ## The range around all -/

/-- The ends of the range around all are ends of ranges of the list, which lie inside it. -/
lemma foldl_hull (ranges : List Range) : ∀ r : Range,
    (∃ q ∈ r :: ranges, q.start = (ranges.foldl hull r).start) ∧
      (∃ q ∈ r :: ranges, q.stop = (ranges.foldl hull r).stop) ∧
        ∀ q ∈ r :: ranges, q.Inside (ranges.foldl hull r) := by
  induction ranges with
  | nil => simp [Inside]
  | cons q ranges ih =>
    intro r
    obtain ⟨⟨a, ha, hstart⟩, ⟨b, hb, hstop⟩, hin⟩ := ih (r.hull q)
    rw [List.foldl_cons]
    refine ⟨?_, ?_, ?_⟩
    · rcases List.mem_cons.1 ha with rfl | ha
      · rcases Nat.le_total r.start q.start with h | h
        · exact ⟨r, by simp, by rw [← hstart]; simp [hull, h]⟩
        · exact ⟨q, by simp, by rw [← hstart]; simp [hull, h]⟩
      · exact ⟨a, by simp [ha], hstart⟩
    · rcases List.mem_cons.1 hb with rfl | hb
      · rcases Nat.le_total r.stop q.stop with h | h
        · exact ⟨q, by simp, by rw [← hstop]; simp [hull, h]⟩
        · exact ⟨r, by simp, by rw [← hstop]; simp [hull, h]⟩
      · exact ⟨b, by simp [hb], hstop⟩
    · have hhull := hin (r.hull q) (by simp)
      simp only [Inside, hull] at hhull ⊢
      intro s hs
      rcases List.mem_cons.1 hs with rfl | hs
      · omega
      · rcases List.mem_cons.1 hs with rfl | hs
        · omega
        · exact hin s (List.mem_cons_of_mem _ hs)

/-- **The range around all** runs from the first offset covered to the last one. -/
theorem unite_eq_some_iff {ranges : List Range} {u : Range} :
    unite ranges = some u ↔
      Covers ranges u.start ∧ Covers ranges u.stop ∧ ∀ i, Covers ranges i → i ∈ u := by
  cases ranges with
  | nil => simp [unite]
  | cons r ranges =>
    obtain ⟨⟨a, ha, hstart⟩, ⟨b, hb, hstop⟩, hin⟩ := foldl_hull ranges r
    have h1 : Covers (r :: ranges) (ranges.foldl hull r).start := ⟨a, ha, hstart ▸ a.start_mem⟩
    have h2 : Covers (r :: ranges) (ranges.foldl hull r).stop := ⟨b, hb, hstop ▸ b.stop_mem⟩
    have h3 : ∀ i, Covers (r :: ranges) i → i ∈ ranges.foldl hull r :=
      fun i ⟨q, hq, hi⟩ => inside_iff.1 (hin q hq) i hi
    simp only [unite, Option.some.injEq]
    constructor
    · rintro rfl
      exact ⟨h1, h2, h3⟩
    · rintro ⟨g1, g2, g3⟩
      exact ext_ends (Nat.le_antisymm (h3 _ g1).1 (g3 _ h1).1) (Nat.le_antisymm (g3 _ h2).2 (h3 _ g2).2)

lemma unite_isSome {ranges : List Range} {i : Nat} (h : Covers ranges i) :
    ∃ u, unite ranges = some u := by
  cases ranges with
  | nil => exact absurd h (covers_nil i)
  | cons r ranges => exact ⟨_, rfl⟩

end Range

end MarkupLint
