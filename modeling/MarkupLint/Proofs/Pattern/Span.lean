import MarkupLint.Pattern.Basic
import MarkupLint.Proofs.Pattern.Passes

/-!
# Where matches lie

A way through a node only moves on, and never past the end of the subject (`Passes.reaches`, by induction on
the way).  What a search finds is such a way (`search_passes`).  Consequently a match found from an offset on
starts there or later, stops no earlier than it starts and no later than the subject (`search_span`), and the
matches of a scan follow each other without overlap (`scan_inOrder`).
-/

namespace MarkupLint

namespace Pattern

variable {s : Array Char} {k : CharClass} {n : Node} {p q r : Place}

/-! ## Moving on -/

/-- From `p` the matching can have come to `q`: not backwards, and not out of the subject. -/
def Reaches (s : Array Char) (p q : Place) : Prop :=
  p.offset ≤ q.offset ∧ (p.offset ≤ s.size → q.offset ≤ s.size)

lemma Reaches.of_offset_eq (h : q.offset = p.offset) : Reaches s p q := by
  unfold Reaches
  omega

lemma Reaches.trans (h1 : Reaches s p q) (h2 : Reaches s q r) : Reaches s p r :=
  ⟨Nat.le_trans h1.1 h2.1, fun h => h2.2 (h1.2 h)⟩

lemma reaches_forward {size : Nat} (h : p.offset ≤ s.size → p.offset + size ≤ s.size) :
    Reaches s p (p.forward size) :=
  ⟨Nat.le_add_right _ _, h⟩

lemma lt_size_of_holdsAt {offset : Nat} (h : holdsAt s k offset = true) : offset < s.size := by
  unfold holdsAt at h
  split at h
  · next c hc => exact (Array.getElem?_eq_some_iff.1 hc).1
  · cases h

lemma add_le_of_holdsAt {offset size : Nat} (hle : offset ≤ s.size)
    (h : ∀ i < size, holdsAt s k (offset + i) = true) : offset + size ≤ s.size := by
  cases size with
  | zero => exact hle
  | succ size => exact lt_size_of_holdsAt (h size (Nat.lt_succ_self size))

lemma add_le_of_repeats {folded : Option Alphabet} {start size offset : Nat} (h : offset ≤ s.size)
    (hr : repeats s folded start size offset = true) : offset + size ≤ s.size := by
  induction size generalizing start offset with
  | zero => exact h
  | succ size ih =>
    unfold repeats at hr
    split at hr
    · next c e hc he =>
      have hlt := (Array.getElem?_eq_some_iff.1 he).1
      have := ih (show offset + 1 ≤ s.size from hlt) ((Bool.and_eq_true _ _).mp hr).2
      omega
    · cases hr

/-- **A way through a node only moves on, and stays in the subject.** -/
theorem Passes.reaches (h : Passes s n p q) : Reaches s p q := by
  induction h with
  | empty => exact .of_offset_eq rfl
  | char hk => exact reaches_forward fun _ => lt_size_of_holdsAt hk
  | chars _ _ hk => exact reaches_forward fun hle => add_le_of_holdsAt hle hk
  | seq _ _ ih₁ ih₂ => exact ih₁.trans ih₂
  | altLeft _ ih => exact ih
  | altRight _ ih => exact ih
  | group _ ih => exact ih
  | again _ hr => exact reaches_forward fun hle => add_le_of_repeats hle hr
  | ifYes _ _ ih => exact ih
  | ifNo _ _ ih => exact ih
  | anchor => exact .of_offset_eq rfl
  | ahead => exact .of_offset_eq rfl
  | notAhead => exact .of_offset_eq rfl
  | behind => exact .of_offset_eq rfl
  | notBehind => exact .of_offset_eq rfl
  | done => exact .of_offset_eq rfl
  | round _ _ _ ih₁ ih₂ => exact ih₁.trans ih₂
  | atomic _ ih => exact ih

/-! ## Searching -/

/-- A match lies between the offset `start` and the end of a subject of the given size. -/
structure Spans (start size : Nat) (m : Found) : Prop where
  /-- The match does not start before the offset. -/
  start_le : start ≤ m.start
  /-- The match does not stop before it starts. -/
  start_le_stop : m.start ≤ m.stop
  /-- The match does not go on after the subject. -/
  stop_le : m.stop ≤ size

lemma matchAt_passes {p : Pattern} {start : Nat} {m : Found} (h : p.matchAt s start = some m) :
    ∃ q, Passes s p.node (.start start p.groups) q ∧ m = foundAt s start q := by
  obtain ⟨q, hq, rfl⟩ := Option.map_eq_some_iff.1 h
  obtain ⟨q', hpasses, hsome⟩ := p.node.run_passes s _ _ q hq
  obtain rfl := Option.some.inj hsome
  exact ⟨q', hpasses, rfl⟩

lemma searchFrom_eq_some {p : Pattern} {m : Found} (fuel : Nat) {start : Nat}
    (h : p.searchFrom s fuel start = some m) :
    ∃ i, start ≤ i ∧ i < start + fuel ∧ p.matchAt s i = some m := by
  induction fuel generalizing start with
  | zero => cases h
  | succ fuel ih =>
    unfold searchFrom at h
    split at h
    · next found hfound => exact ⟨start, Nat.le_refl _, by omega, hfound.trans h⟩
    · obtain ⟨i, h1, h2, hm⟩ := ih h
      exact ⟨i, by omega, by omega, hm⟩

/-- **What a search finds is a way through the pattern**, from an offset of the subject or its end. -/
theorem search_passes {p : Pattern} {start : Nat} {m : Found} (h : p.search s start = some m) :
    ∃ i q, start ≤ i ∧ i ≤ s.size ∧ Passes s p.node (.start i p.groups) q ∧ m = foundAt s i q := by
  obtain ⟨i, h1, h2, hm⟩ := searchFrom_eq_some _ h
  obtain ⟨q, hpasses, rfl⟩ := matchAt_passes hm
  exact ⟨i, q, h1, by omega, hpasses, rfl⟩

/-- **A match lies in the subject**, from the offset on at which the search starts. -/
theorem search_span {p : Pattern} {start : Nat} {m : Found} (h : p.search s start = some m) :
    Spans start s.size m := by
  obtain ⟨i, q, hle, hsize, hpasses, rfl⟩ := search_passes h
  exact ⟨hle, hpasses.reaches.1, hpasses.reaches.2 hsize⟩

/-- Matches that follow each other without overlap, from the offset `start` on, in a subject of the given
size. -/
def InOrder (size : Nat) : Nat → List Found → Prop
  | _, [] => True
  | start, m :: later => Spans start size m ∧ InOrder size m.stop later

lemma InOrder.mono {size start before : Nat} {found : List Found} (h : InOrder size start found)
    (hle : before ≤ start) : InOrder size before found := by
  cases found with
  | nil => trivial
  | cons m later => exact ⟨⟨Nat.le_trans hle h.1.start_le, h.1.start_le_stop, h.1.stop_le⟩, h.2⟩

lemma stop_le_resume (m : Found) : m.stop ≤ m.resume := by
  unfold Found.resume
  split <;> omega

lemma exists_search_of_mem_scan {p : Pattern} {limit start : Nat} {m : Found}
    (h : m ∈ p.scan s limit start) : ∃ i, p.search s i = some m := by
  induction limit generalizing start with
  | zero => cases h
  | succ limit ih =>
    unfold scan at h
    split at h
    · cases h
    · next found hfound =>
      rcases List.mem_cons.1 h with rfl | h
      · exact ⟨start, hfound⟩
      · exact ih h

/-- **The matches of a scan follow each other without overlap.** -/
theorem scan_inOrder (p : Pattern) (s : Array Char) (limit start : Nat) :
    InOrder s.size start (p.scan s limit start) := by
  induction limit generalizing start with
  | zero => trivial
  | succ limit ih =>
    unfold scan
    split
    · trivial
    · next m hm => exact ⟨search_span hm, (ih m.resume).mono (stop_le_resume m)⟩

end Pattern

end MarkupLint
