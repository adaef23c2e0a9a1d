import MarkupLint.Proofs.Pattern.Span

/-!
# What groups match

What a group of a match has matched is a stretch of the subject (`search_group_lies`).  How long a match is at
least can be read off the pattern (`Passes.add_least_le`), and so can whether a group, if it has matched at all,
has matched something (`Node.fillsGroup`, `search_group_nonempty`).
-/

namespace MarkupLint

namespace Pattern

variable {s : Array Char} {n : Node} {p q : Place} {number : Nat}

/-! ## The least width -/

/-- The least number of characters on a way through the node. -/
def Node.least (n : Node) : Nat := (n.width fun _ => .exactly 0).least

/-- **A way through a node has its least width.** -/
theorem Passes.add_least_le (h : Passes s n p q) : p.offset + n.least ≤ q.offset := by
  induction h with
  | empty => exact Nat.le_refl _
  | char => exact Nat.le_refl _
  | chars hleast => simpa [Node.least, Node.width, Width.loop, Width.exactly, Place.forward] using hleast
  | seq _ _ ih₁ ih₂ =>
    simp only [Node.least, Node.width, Width.seq] at *
    omega
  | altLeft _ ih =>
    simp only [Node.least, Node.width, Width.alt] at *
    omega
  | altRight _ ih =>
    simp only [Node.least, Node.width, Width.alt] at *
    omega
  | group _ ih => exact ih
  | again => exact Nat.le_add_right _ _
  | ifYes _ _ ih =>
    simp only [Node.least, Node.width, Width.alt] at *
    omega
  | ifNo _ _ ih =>
    simp only [Node.least, Node.width, Width.alt] at *
    omega
  | anchor => exact Nat.le_refl _
  | ahead => exact Nat.le_refl _
  | notAhead => exact Nat.le_refl _
  | behind => exact Nat.le_refl _
  | notBehind => exact Nat.le_refl _
  | done => simp [Node.least, Node.width, Width.loop]
  | @round body _ _ _ least _ _ _ _ _ ih₁ ih₂ =>
    simp only [Node.least, Node.width, Width.loop] at *
    cases least with
    | zero => omega
    | succ least =>
      rw [Nat.add_sub_cancel] at ih₂
      rw [Nat.mul_succ]
      omega
  | atomic _ ih => exact ih

/-! ## Where groups have matched -/

/-- The place is in the subject, and no group has stopped after it. -/
def Place.Within (s : Array Char) (p : Place) : Prop :=
  p.offset ≤ s.size ∧ ∀ (i : Nat) m, p.marks[i]? = some m → ∀ stop, m.stop = some stop → stop ≤ s.size

lemma Place.eq_of_getElem?_marks_start {offset groups i : Nat} {m : Marks}
    (h : (start offset groups).marks[i]? = some m) : m = ⟨none, none⟩ :=
  List.eq_of_mem_replicate (List.mem_of_getElem? h)

lemma Place.within_start {offset groups : Nat} (h : offset ≤ s.size) : (start offset groups).Within s := by
  refine ⟨h, fun i m hm stop hstop => ?_⟩
  rw [eq_of_getElem?_marks_start hm] at hstop
  cases hstop

lemma Place.Within.enter (h : p.Within s) (number : Nat) : (p.enter number).Within s := by
  refine ⟨h.1, fun i m hm stop hstop => ?_⟩
  simp only [Place.enter, List.getElem?_modify, Option.map_eq_map, Option.map_eq_some_iff] at hm
  obtain ⟨m₀, hm₀, rfl⟩ := hm
  refine h.2 i m₀ hm₀ stop ?_
  split at hstop <;> exact hstop

lemma Place.Within.leave (h : p.Within s) (number : Nat) : (p.leave number).Within s := by
  refine ⟨h.1, fun i m hm stop hstop => ?_⟩
  simp only [Place.leave, List.getElem?_modify, Option.map_eq_map, Option.map_eq_some_iff] at hm
  obtain ⟨m₀, hm₀, rfl⟩ := hm
  split at hstop
  · obtain rfl := Option.some.inj hstop
    exact h.1
  · exact h.2 i m₀ hm₀ stop hstop

/-- **A way through a node stays in the subject, with its groups.** -/
theorem Passes.within (h : Passes s n p q) (hp : p.Within s) : q.Within s := by
  -- the places that a look-around comes to are left again, but the groups keep what it has marked
  have hback {p q : Place} (hp : p.Within s) (hq : q.Within s) : { q with offset := p.offset }.Within s :=
    ⟨hp.1, hq.2⟩
  have hforward {p : Place} {k : Nat} (hp : p.Within s) (h : p.offset + k ≤ s.size) :
      (p.forward k).Within s := ⟨h, hp.2⟩
  induction h with
  | empty => exact hp
  | char hk => exact hforward hp (lt_size_of_holdsAt hk)
  | chars _ _ hk => exact hforward hp (add_le_of_holdsAt hp.1 hk)
  | seq _ _ ih₁ ih₂ => exact ih₂ (ih₁ hp)
  | altLeft _ ih => exact ih hp
  | altRight _ ih => exact ih hp
  | group _ ih => exact (ih (hp.enter _)).leave _
  | again _ hr => exact hforward hp (add_le_of_repeats hp.1 hr)
  | ifYes _ _ ih => exact ih hp
  | ifNo _ _ ih => exact ih hp
  | anchor => exact hp
  | ahead _ ih => exact hback hp (ih hp)
  | notAhead => exact hp
  | behind _ _ ih => exact hback hp (ih ⟨Nat.le_trans (Nat.sub_le _ _) hp.1, hp.2⟩)
  | notBehind => exact hp
  | done => exact hp
  | round _ _ _ ih₁ ih₂ => exact ih₂ (ih₁ hp)
  | atomic _ ih => exact ih hp

lemma Place.captured?_eq_some {number start stop : Nat} :
    p.captured? number = some (start, stop) ↔
      p.marks[number - 1]? = some ⟨some start, some stop⟩ ∧ start ≤ stop := by
  unfold Place.captured?
  cases p.marks[number - 1]? with
  | none => simp
  | some m =>
    obtain ⟨_ | first, _ | last⟩ := m <;> simp [Marks.span?]
    omega

/-- A stretch of a text of the given size. -/
structure Lies (size : Nat) (c : Capture) : Prop where
  /-- It does not stop before it starts. -/
  start_le_stop : c.start ≤ c.stop
  /-- It does not go on after the text. -/
  stop_le : c.stop ≤ size
  /-- It has as many characters as it has offsets. -/
  length_text : c.text.length = c.stop - c.start

lemma captureOf_lies {start stop : Nat} (h : start ≤ stop) (hsize : stop ≤ s.size) :
    Lies s.size (captureOf s start stop) := by
  refine ⟨h, hsize, ?_⟩
  simp only [captureOf, Array.length_toList, Array.size_extract, Nat.min_eq_left hsize]

lemma foundAt_group? (s : Array Char) (start : Nat) (q : Place) (number : Nat) :
    (foundAt s start q).group? (number + 1) =
      (q.captured? (number + 1)).map fun (a, b) => captureOf s a b := by
  simp only [foundAt, Found.group?, Place.captured?, Nat.add_sub_cancel, List.getElem?_map]
  cases q.marks[number]? <;> rfl

/-- **What a group has matched is a stretch of the subject.** -/
theorem search_group_lies {p : Pattern} {start : Nat} {m : Found} {c : Capture}
    (h : p.search s start = some m) (hc : m.group? number = some c) : Lies s.size c := by
  obtain ⟨i, q, -, hi, hpasses, rfl⟩ := search_passes h
  have hwithin := hpasses.within (Place.within_start hi)
  cases number with
  | zero =>
    obtain rfl := Option.some.inj hc
    exact captureOf_lies hpasses.reaches.1 hwithin.1
  | succ number =>
    rw [foundAt_group?] at hc
    obtain ⟨⟨a, b⟩, hab, rfl⟩ := Option.map_eq_some_iff.1 hc
    obtain ⟨hmarks, hle⟩ := Place.captured?_eq_some.1 hab
    exact captureOf_lies hle (hwithin.2 _ _ hmarks b rfl)

/-! ## Groups that match something -/

/-- Whether the node has a group that is marked where the given one is. -/
def Node.hasGroup (number : Nat) : Node → Bool
  | .empty | .char _ | .chars .. | .again .. | .anchor _ => false
  | .seq a b | .alt a b | .ifMatched _ a b => a.hasGroup number || b.hasGroup number
  | .group k body => k - 1 == number - 1 || body.hasGroup number
  | .ahead _ body | .behind _ _ body | .loop _ _ _ body | .atomic body => body.hasGroup number

/-- Whether no way through the node leaves the given group with an empty match. -/
def Node.fillsGroup (number : Nat) : Node → Bool
  | .empty | .char _ | .chars .. | .again .. | .anchor _ => true
  | .seq a b | .alt a b | .ifMatched _ a b => a.fillsGroup number && b.fillsGroup number
  | .group k body =>
    if k - 1 = number - 1 then 0 < body.least && !body.hasGroup number else body.fillsGroup number
  | .ahead _ body | .behind _ _ body | .loop _ _ _ body | .atomic body => body.fillsGroup number

/-- The given group has not matched the empty text last. -/
def Place.Filled (number : Nat) (p : Place) : Prop :=
  ∀ start stop, p.captured? number = some (start, stop) → start < stop

lemma getElem?_marks_enter_of_ne {k : Nat} (h : k - 1 ≠ number - 1) :
    (p.enter k).marks[number - 1]? = p.marks[number - 1]? := by
  simp [Place.enter, h]

lemma getElem?_marks_leave_of_ne {k : Nat} (h : k - 1 ≠ number - 1) :
    (p.leave k).marks[number - 1]? = p.marks[number - 1]? := by
  simp [Place.leave, h]

/-- A way through a node changes the marks of its own groups only. -/
lemma Passes.marks_eq (h : Passes s n p q) (hn : n.hasGroup number = false) :
    q.marks[number - 1]? = p.marks[number - 1]? := by
  induction h with
  | empty | char | chars | again | anchor | notAhead | notBehind | done => rfl
  | seq _ _ ih₁ ih₂ =>
    obtain ⟨h₁, h₂⟩ := Bool.or_eq_false_iff.1 hn
    exact (ih₂ h₂).trans (ih₁ h₁)
  | altLeft _ ih => exact ih (Bool.or_eq_false_iff.1 hn).1
  | altRight _ ih => exact ih (Bool.or_eq_false_iff.1 hn).2
  | group _ ih =>
    obtain ⟨hk, hbody⟩ := Bool.or_eq_false_iff.1 hn
    have hk := beq_eq_false_iff_ne.1 hk
    rw [getElem?_marks_leave_of_ne hk, ih hbody, getElem?_marks_enter_of_ne hk]
  | ifYes _ _ ih => exact ih (Bool.or_eq_false_iff.1 hn).1
  | ifNo _ _ ih => exact ih (Bool.or_eq_false_iff.1 hn).2
  | ahead _ ih => exact ih hn
  | behind _ _ ih => exact ih hn
  | round _ _ _ ih₁ ih₂ => exact (ih₂ hn).trans (ih₁ hn)
  | atomic _ ih => exact ih hn

lemma Place.Filled.congr (h : p.Filled number) (hq : q.marks[number - 1]? = p.marks[number - 1]?) :
    q.Filled number := by
  intro start stop hcap
  refine h start stop ?_
  unfold Place.captured? at hcap ⊢
  rwa [← hq]

/-- A group whose body has no such group itself is left with the offsets between which the body was passed. -/
lemma filled_group {k : Nat} {body : Node} (h : Passes s body (p.enter k) q) (hk : k - 1 = number - 1)
    (hleast : 0 < body.least) (hbody : body.hasGroup number = false) : (q.leave k).Filled number := by
  intro start stop hcap
  obtain ⟨hmarks, -⟩ := Place.captured?_eq_some.1 hcap
  have hsame := h.marks_eq hbody
  have hwidth : p.offset + body.least ≤ q.offset := h.add_least_le
  simp only [Place.enter, hk, List.getElem?_modify_eq] at hsame
  simp only [Place.leave, hk, List.getElem?_modify_eq, hsame, Option.map_eq_map, Option.map_map,
    Option.map_eq_some_iff, Function.comp_apply, Marks.mk.injEq, Option.some.injEq] at hmarks
  obtain ⟨_, -, rfl, rfl⟩ := hmarks
  omega

/-- **Where the pattern tells that a group matches something, it does.** -/
theorem Passes.filled (h : Passes s n p q) (hn : n.fillsGroup number = true) (hp : p.Filled number) :
    q.Filled number := by
  induction h with
  | empty | anchor | notAhead | notBehind | done => exact hp
  | char | chars | again => exact hp
  | seq _ _ ih₁ ih₂ =>
    obtain ⟨h₁, h₂⟩ := (Bool.and_eq_true _ _).mp hn
    exact ih₂ h₂ (ih₁ h₁ hp)
  | altLeft _ ih => exact ih ((Bool.and_eq_true _ _).mp hn).1 hp
  | altRight _ ih => exact ih ((Bool.and_eq_true _ _).mp hn).2 hp
  | group hbody ih =>
    unfold Node.fillsGroup at hn
    split at hn
    · next hk =>
      simp only [Bool.and_eq_true, decide_eq_true_eq, Bool.not_eq_true'] at hn
      exact filled_group hbody hk hn.1 hn.2
    · next hk =>
      refine (ih hn (hp.congr (getElem?_marks_enter_of_ne hk))).congr (getElem?_marks_leave_of_ne hk)
  | ifYes _ _ ih => exact ih ((Bool.and_eq_true _ _).mp hn).1 hp
  | ifNo _ _ ih => exact ih ((Bool.and_eq_true _ _).mp hn).2 hp
  | ahead _ ih => exact ih hn hp
  | behind _ _ ih => exact ih hn hp
  | round _ _ _ ih₁ ih₂ => exact ih₂ hn (ih₁ hn hp)
  | atomic _ ih => exact ih hn hp

/-- **A group of a match that must match something has done so.** -/
theorem search_group_nonempty {p : Pattern} {start : Nat} {m : Found} {c : Capture}
    (h : p.search s start = some m) (hc : m.group? (number + 1) = some c)
    (hp : p.node.fillsGroup (number + 1) = true) : c.start < c.stop := by
  obtain ⟨i, q, -, -, hpasses, rfl⟩ := search_passes h
  rw [foundAt_group?] at hc
  obtain ⟨⟨a, b⟩, hab, rfl⟩ := Option.map_eq_some_iff.1 hc
  refine hpasses.filled hp (fun first last hcap => ?_) a b hab
  -- no group has matched at the start
  obtain ⟨hmarks, -⟩ := Place.captured?_eq_some.1 hcap
  cases Place.eq_of_getElem?_marks_start hmarks

/-- **A match has the least width of its pattern.** -/
theorem search_add_least_le {p : Pattern} {start : Nat} {m : Found} (h : p.search s start = some m) :
    m.start + p.node.least ≤ m.stop := by
  obtain ⟨i, q, -, -, hpasses, rfl⟩ := search_passes h
  exact hpasses.add_least_le

end Pattern

end MarkupLint
