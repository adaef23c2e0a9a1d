import Mathlib.Tactic.Common
import MarkupLint.Pattern.Matcher

/-!
# Ways through a pattern

`Passes s n p q` says that there is a way through the node `n` from the place `p` to the place `q`, without
saying which way is tried first.  The matcher takes no other way: whatever it finds, it has passed the node and
gone on from there (`Node.run_passes`).  What matches have in common is proved by induction on the way.
-/

namespace MarkupLint.Pattern

/-- There is a way through the node from the place `p` to the place `q`. -/
inductive Passes (s : Array Char) : Node → Place → Place → Prop
  | empty {p : Place} : Passes s .empty p p
  | char {k : CharClass} {p : Place} (h : holdsAt s k p.offset = true) : Passes s (.char k) p (p.forward 1)
  | chars {k : CharClass} {least n : Nat} {most : Option Nat} {greed : Greed} {p : Place} (hleast : least ≤ n)
      (hmost : ∀ m, most = some m → n ≤ max least m) (h : ∀ i < n, holdsAt s k (p.offset + i) = true) :
      Passes s (.chars k least most greed) p (p.forward n)
  | seq {a b : Node} {p q r : Place} (h₁ : Passes s a p q) (h₂ : Passes s b q r) : Passes s (.seq a b) p r
  | altLeft {a b : Node} {p q : Place} (h : Passes s a p q) : Passes s (.alt a b) p q
  | altRight {a b : Node} {p q : Place} (h : Passes s b p q) : Passes s (.alt a b) p q
  | group {body : Node} {p q : Place} {number : Nat} (h : Passes s body (p.enter number) q) :
      Passes s (.group number body) p (q.leave number)
  | again {p : Place} {number start stop : Nat} {folded : Option Alphabet}
      (hspan : p.captured? number = some (start, stop))
      (h : repeats s folded start (stop - start) p.offset = true) :
      Passes s (.again number folded) p (p.forward (stop - start))
  | ifYes {a b : Node} {p q : Place} {number : Nat} (hspan : (p.captured? number).isSome) (h : Passes s a p q) :
      Passes s (.ifMatched number a b) p q
  | ifNo {a b : Node} {p q : Place} {number : Nat} (hspan : ¬ (p.captured? number).isSome) (h : Passes s b p q) :
      Passes s (.ifMatched number a b) p q
  | anchor {c : Anchor} {p : Place} (h : c.holds s p.offset = true) : Passes s (.anchor c) p p
  | ahead {body : Node} {p q : Place} (h : Passes s body p q) :
      Passes s (.ahead false body) p { q with offset := p.offset }
  | notAhead {body : Node} {p : Place} (h : body.run s some p = none) : Passes s (.ahead true body) p p
  | behind {body : Node} {p q : Place} {width : Nat} (hwidth : width ≤ p.offset)
      (h : Passes s body { p with offset := p.offset - width } q) :
      Passes s (.behind false width body) p { q with offset := p.offset }
  | notBehind {body : Node} {p : Place} {width : Nat}
      (h : width ≤ p.offset → body.run s some { p with offset := p.offset - width } = none) :
      Passes s (.behind true width body) p p
  | done {body : Node} {p : Place} {most : Option Nat} {greed : Greed} : Passes s (.loop 0 most greed body) p p
  | round {body : Node} {p q r : Place} {least : Nat} {most : Option Nat} {greed : Greed}
      (hmore : 0 < least ∨ most ≠ some 0)
      (h₁ : Passes s body p q) (h₂ : Passes s (.loop (least - 1) (most.map (· - 1)) greed body) q r) :
      Passes s (.loop least most greed body) p r
  | atomic {body : Node} {p q : Place} (h : Passes s body p q) : Passes s (.atomic body) p q

variable {s : Array Char} {k : CharClass} {p q : Place} {body : Node}

/-- What is run goes on only from places to which there is a way through the node. -/
def Follows (s : Array Char) (n : Node) (run : Continuation → Continuation) : Prop :=
  ∀ next p q, run next p = some q → ∃ p', Passes s n p p' ∧ next p' = some q

/-! ## Runs of characters -/

lemma runLength_le (limit offset : Nat) : runLength s k limit offset ≤ limit := by
  induction limit generalizing offset with
  | zero => exact Nat.le_refl _
  | succ limit ih =>
    unfold runLength
    split
    · exact Nat.succ_le_succ (ih _)
    · exact Nat.zero_le _

lemma holdsAt_of_lt_runLength (limit : Nat) {offset i : Nat} (h : i < runLength s k limit offset) :
    holdsAt s k (offset + i) = true := by
  induction limit generalizing offset i with
  | zero => exact absurd h (Nat.not_lt_zero _)
  | succ limit ih =>
    unfold runLength at h
    split at h
    · next hk =>
      cases i with
      | zero => exact hk
      | succ i =>
        have := ih (Nat.lt_of_succ_lt_succ h)
        rwa [Nat.add_right_comm] at this
    · exact absurd h (Nat.not_lt_zero _)

lemma reach_le {most : Option Nat} {m : Nat} (h : most = some m) (offset : Nat) :
    reach s most offset ≤ m := by
  subst h
  exact Nat.min_le_left _ _

lemma longestFirst_eq_some {attempt : Nat → Option Place} {least extra : Nat}
    (h : longestFirst attempt least extra = some q) :
    ∃ n, least ≤ n ∧ n ≤ least + extra ∧ attempt n = some q := by
  induction extra with
  | zero => exact ⟨least, Nat.le_refl _, Nat.le_refl _, h⟩
  | succ extra ih =>
    unfold longestFirst at h
    split at h
    · next found hfound => exact ⟨least + (extra + 1), Nat.le_add_right _ _, Nat.le_refl _, hfound.trans h⟩
    · obtain ⟨n, hn, hle, hq⟩ := ih h
      exact ⟨n, hn, by omega, hq⟩

lemma shortestFirst_eq_some {attempt : Nat → Option Place} {offset n extra : Nat}
    (h : shortestFirst s k offset attempt n extra = some q) :
    ∃ m, n ≤ m ∧ m ≤ n + extra ∧
      (∀ i, n ≤ i → i < m → holdsAt s k (offset + i) = true ∧ attempt i = none) ∧ attempt m = some q := by
  induction extra generalizing n with
  | zero => exact ⟨n, Nat.le_refl _, Nat.le_refl _, fun i h1 h2 => absurd h2 (by omega), h⟩
  | succ extra ih =>
    unfold shortestFirst at h
    split at h
    · next found hfound =>
      exact ⟨n, Nat.le_refl _, Nat.le_add_right _ _, fun i h1 h2 => absurd h2 (by omega), hfound.trans h⟩
    · next hnone =>
      split at h
      · next hk =>
        obtain ⟨m, h1, h2, hholds, hq⟩ := ih h
        refine ⟨m, by omega, by omega, fun i hi hlt => ?_, hq⟩
        rcases Nat.eq_or_lt_of_le hi with rfl | hi
        · exact ⟨hk, hnone⟩
        · exact hholds i hi hlt
      · cases h

lemma follows_chars (k : CharClass) (least : Nat) (most : Option Nat) (greed : Greed) :
    Follows s (.chars k least most greed) ((Node.chars k least most greed).run s) := by
  intro next p q hq
  cases greed with
  | greedy =>
    simp only [Node.run] at hq
    split at hq
    · cases hq
    · obtain ⟨n, hn, hle, hq⟩ := longestFirst_eq_some hq
      refine ⟨p.forward n, .chars hn (fun m hm => ?_) (fun i hi => ?_), hq⟩
      · have h1 := runLength_le (s := s) (k := k) (reach s most p.offset) p.offset
        have h2 := reach_le (s := s) hm p.offset
        omega
      · exact holdsAt_of_lt_runLength (reach s most p.offset) (by omega)
  | possessive =>
    simp only [Node.run] at hq
    split at hq
    · cases hq
    · refine ⟨_, .chars (by omega) (fun m hm => ?_) (fun i hi => holdsAt_of_lt_runLength _ hi), hq⟩
      have h1 := runLength_le (s := s) (k := k) (reach s most p.offset) p.offset
      have h2 := reach_le (s := s) hm p.offset
      omega
  | lazy =>
    simp only [Node.run] at hq
    split at hq
    · cases hq
    · obtain ⟨n, hn, hle, hholds, hq⟩ := shortestFirst_eq_some hq
      refine ⟨p.forward n, .chars hn (fun m hm => ?_) (fun i hi => ?_), hq⟩
      · have := reach_le (s := s) hm p.offset
        omega
      · by_cases hi' : i < least
        · exact holdsAt_of_lt_runLength least (by omega)
        · exact (hholds i (by omega) hi).1

/-! ## Loops -/

lemma Follows.once {n : Node} {run : Continuation → Continuation} (h : Follows s n run) :
    Follows s n (once run) := by
  intro next p q hq
  unfold Pattern.once at hq
  split at hq
  · next q' hq' =>
    obtain ⟨p', hp', hsome⟩ := h some p q' hq'
    obtain rfl := Option.some.inj hsome
    exact ⟨p', hp', hq⟩
  · cases hq

/-- A round of a repetition either matches the body once more, which the bounds must allow, or ends the
repetition, which they must allow as well. -/
lemma iterate_succ_eq_some {run : Continuation → Continuation} {least : Nat} {most : Option Nat}
    {greed : Greed} {next : Continuation} {fuel count : Nat} {last : Option Nat}
    (h : iterate run least most greed next (fuel + 1) count last p = some q) :
    ((count < least ∨ most.all (count < ·)) ∧
      ∃ last, run (iterate run least most greed next fuel (count + 1) last) p = some q) ∨
      least ≤ count ∧ next p = some q := by
  have hmore {found : Option Place}
      (h : (if (most.all (count < ·) && last ≠ some p.offset) = true then found else none) = some q) :
      (most.all (count < ·)) = true ∧ found = some q := by
    obtain ⟨hmore, hfound⟩ := Option.ite_none_right_eq_some.1 h
    exact ⟨((Bool.and_eq_true _ _).mp hmore).1, hfound⟩
  unfold iterate at h
  split at h
  · next hcount => exact Or.inl ⟨Or.inl hcount, last, h⟩
  · next hcount =>
    have hcount := Nat.le_of_not_lt hcount
    cases greed with
    | greedy =>
      dsimp only at h
      split at h
      · next found hfound =>
        obtain ⟨hall, hrun⟩ := hmore (hfound.trans h)
        exact Or.inl ⟨Or.inr hall, _, hrun⟩
      · exact Or.inr ⟨hcount, h⟩
    | possessive =>
      dsimp only at h
      split at h
      · next found hfound =>
        obtain ⟨hall, hrun⟩ := hmore (hfound.trans h)
        exact Or.inl ⟨Or.inr hall, _, hrun⟩
      · exact Or.inr ⟨hcount, h⟩
    | lazy =>
      dsimp only at h
      split at h
      · next found hfound => exact Or.inr ⟨hcount, hfound.trans h⟩
      · obtain ⟨hall, hrun⟩ := hmore h
        exact Or.inl ⟨Or.inr hall, _, hrun⟩

/-- After `count` rounds a repetition is one of as many rounds fewer. -/
lemma Follows.iterate {run : Continuation → Continuation} (h : Follows s body run) (least : Nat)
    (most : Option Nat) (greed : Greed) (next : Continuation) (fuel count : Nat) (last : Option Nat)
    (hq : iterate run least most greed next fuel count last p = some q) :
    ∃ p', Passes s (.loop (least - count) (most.map (· - count)) greed body) p p' ∧ next p' = some q := by
  induction fuel generalizing count last p with
  | zero => cases hq
  | succ fuel ih =>
    rcases iterate_succ_eq_some hq with ⟨hbounds, last, hagain⟩ | ⟨hcount, hnext⟩
    · obtain ⟨p₁, h₁, hq₁⟩ := h _ p q hagain
      obtain ⟨p₂, h₂, hq₂⟩ := ih (count + 1) last hq₁
      refine ⟨p₂, .round ?_ h₁ ?_, hq₂⟩
      · rcases hbounds with hlt | hall
        · exact Or.inl (by omega)
        · refine Or.inr fun hzero => ?_
          obtain ⟨m, rfl, hm⟩ := Option.map_eq_some_iff.1 hzero
          have : count < m := by simpa using hall
          omega
      · rw [Option.map_map]
        simpa only [Function.comp_def, Nat.sub_sub] using h₂
    · refine ⟨p, ?_, hnext⟩
      rw [Nat.sub_eq_zero_of_le hcount]
      exact .done

lemma Follows.loop (h : Follows s body (body.run s)) (least : Nat) (most : Option Nat) (greed : Greed) :
    Follows s (.loop least most greed body) ((Node.loop least most greed body).run s) := by
  have hall {run : Continuation → Continuation} (hrun : Follows s body run) (fuel : Nat) :
      Follows s (.loop least most greed body)
        (fun next p => Pattern.iterate run least most greed next fuel 0 none p) := by
    intro next p q hq
    obtain ⟨p', hp', hnext⟩ := hrun.iterate least most greed next fuel 0 none hq
    simp only [Nat.sub_zero, Option.map_id_fun', id_eq] at hp'
    exact ⟨p', hp', hnext⟩
  intro next p q hq
  cases greed with
  | greedy =>
    simp only [Node.run] at hq
    exact hall h _ next p q hq
  | lazy =>
    simp only [Node.run] at hq
    exact hall h _ next p q hq
  | possessive =>
    simp only [Node.run] at hq
    refine Follows.once (fun next p q hq => ?_) next p q hq
    exact hall h.once _ next p q hq

/-! ## Nodes -/

/-- Looking ahead goes on at the same offset, whatever has been seen there. -/
lemma Follows.ahead (h : Follows s body (body.run s)) (negated : Bool) :
    Follows s (.ahead negated body) ((Node.ahead negated body).run s) := by
  intro next p q hq
  cases negated <;> simp only [Node.run] at hq <;> split at hq
  · next found hfound =>
    obtain ⟨p', hp', hsome⟩ := h some p found hfound
    obtain rfl := Option.some.inj hsome
    exact ⟨_, .ahead hp', hq⟩
  · cases hq
  · cases hq
  · next hnone => exact ⟨p, .notAhead hnone, hq⟩

/-- Looking behind goes on at the same offset as well. -/
lemma Follows.behind (h : Follows s body (body.run s)) (negated : Bool) (width : Nat) :
    Follows s (.behind negated width body) ((Node.behind negated width body).run s) := by
  intro next p q hq
  cases negated <;> simp only [Node.run] at hq <;> split at hq
  · cases hq
  · next hwidth =>
    split at hq
    · next found hfound =>
      obtain ⟨p', hp', hsome⟩ := h some _ found hfound
      obtain rfl := Option.some.inj hsome
      exact ⟨_, .behind (Nat.le_of_not_lt hwidth) hp', hq⟩
    · cases hq
  · next hwidth => exact ⟨p, .notBehind fun hle => absurd hwidth (Nat.not_lt.2 hle), hq⟩
  · split at hq
    · cases hq
    · next hnone => exact ⟨p, .notBehind fun _ => hnone, hq⟩

/-- **The matcher takes no way but those through the node.** -/
theorem Node.run_passes (s : Array Char) (n : Node) : Follows s n (n.run s) := by
  induction n with
  | empty =>
    intro next p q hq
    exact ⟨p, .empty, hq⟩
  | char k =>
    intro next p q hq
    simp only [Node.run] at hq
    split at hq
    · next hk => exact ⟨p.forward 1, .char hk, hq⟩
    · cases hq
  | chars k least most greed => exact follows_chars k least most greed
  | seq a b iha ihb =>
    intro next p q hq
    obtain ⟨p₁, h₁, hq₁⟩ := iha _ p q hq
    obtain ⟨p₂, h₂, hq₂⟩ := ihb _ p₁ q hq₁
    exact ⟨p₂, .seq h₁ h₂, hq₂⟩
  | alt a b iha ihb =>
    intro next p q hq
    simp only [Node.run] at hq
    split at hq
    · next found hfound =>
      obtain ⟨p', hp', hnext⟩ := iha next p q (hfound.trans hq)
      exact ⟨p', .altLeft hp', hnext⟩
    · obtain ⟨p', hp', hnext⟩ := ihb next p q hq
      exact ⟨p', .altRight hp', hnext⟩
  | group number body ih =>
    intro next p q hq
    obtain ⟨p₁, h₁, hq₁⟩ := ih _ (p.enter number) q hq
    exact ⟨p₁.leave number, .group h₁, hq₁⟩
  | again number folded =>
    intro next p q hq
    simp only [Node.run] at hq
    split at hq
    · cases hq
    · next start stop hspan =>
      split at hq
      · next hr => exact ⟨_, .again hspan hr, hq⟩
      · cases hq
  | ifMatched number yes no ihyes ihno =>
    intro next p q hq
    simp only [Node.run] at hq
    split at hq
    · next hspan =>
      obtain ⟨p', hp', hnext⟩ := ihyes next p q hq
      exact ⟨p', .ifYes hspan hp', hnext⟩
    · next hspan =>
      obtain ⟨p', hp', hnext⟩ := ihno next p q hq
      exact ⟨p', .ifNo hspan hp', hnext⟩
  | anchor c =>
    intro next p q hq
    simp only [Node.run] at hq
    split at hq
    · next hc => exact ⟨p, .anchor hc, hq⟩
    · cases hq
  | ahead negated body ih => exact ih.ahead negated
  | behind negated width body ih => exact ih.behind negated width
  | loop least most greed body ih => exact ih.loop least most greed
  | atomic body ih =>
    intro next p q hq
    obtain ⟨p', hp', hnext⟩ := ih.once next p q hq
    exact ⟨p', .atomic hp', hnext⟩

end MarkupLint.Pattern
