import Mathlib.Data.List.Infix
import MarkupLint.Proofs.Pattern.Captures

/-!
# The language of a pattern

A node that is made of characters, sequences, alternatives and groups is *plain*.  What it matches does not depend
on the place, so that it has a language: `Node.Spells n w` says that `w` is one of its texts.

* `Passes.exists_spells`: whatever the matcher passes is a text of the node;
* `Node.run_isSome`: if a text of the node stands at the place, the matcher gets through, whichever way it tries first;
* `matchAt_isSome_iff`: so a pattern matches where one of its texts stands, and nowhere else;
* `Frames.matchAt_captures`, `Frames.matchAt_captures_least`: what the group of a pattern with one group has matched.
-/

namespace MarkupLint

namespace Pattern

/-! ## Plain nodes and their texts -/

/-- The node is made of characters, sequences, alternatives and groups, and has no repetition that keeps what it
takes. -/
def Node.isPlain : Node → Bool
  | .empty | .char _ => true
  | .chars _ least most greed => greed ≠ .possessive && most.all (least ≤ ·)
  | .seq a b | .alt a b => a.isPlain && b.isPlain
  | .group _ body => body.isPlain
  | _ => false

/-- The text is one of those of a plain node. -/
def Node.Spells : Node → Text → Prop
  | .empty, w => w = []
  | .char k, w => ∃ c, w = [c] ∧ k.holds c = true
  | .chars k least most _, w =>
    (∀ c ∈ w, k.holds c = true) ∧ least ≤ w.length ∧ ∀ m, most = some m → w.length ≤ m
  | .seq a b, w => ∃ u v, w = u ++ v ∧ a.Spells u ∧ b.Spells v
  | .alt a b, w => a.Spells w ∨ b.Spells w
  | .group _ body, w => body.Spells w
  | _, _ => False

variable {s : Array Char} {k : CharClass} {n : Node} {p q r : Place} {w : Text} {xs ys : List Node}

lemma holdsAt_eq_true_iff {offset : Nat} :
    holdsAt s k offset = true ↔ ∃ c, [c] <+: s.toList.drop offset ∧ k.holds c = true := by
  have hhead : s[offset]? = (s.toList.drop offset).head? := by
    rw [List.head?_drop, Array.getElem?_toList]
  unfold holdsAt
  rw [hhead]
  cases s.toList.drop offset with
  | nil => simp
  | cons c rest => simp [List.cons_prefix_cons]

lemma holdsAt_eq_holds (hw : w <+: s.toList.drop p.offset) {i : Nat} (hi : i < w.length) :
    holdsAt s k (p.offset + i) = k.holds w[i] := by
  obtain ⟨rest, hrest⟩ := hw
  have hget : s[p.offset + i]? = some w[i] := by
    rw [← Array.getElem?_toList, ← List.getElem?_drop, ← hrest, List.getElem?_append_left hi,
      List.getElem?_eq_getElem hi]
  rw [holdsAt, hget]

lemma holdsAt_append (before after : Text) :
    holdsAt (before ++ after).toArray k before.length = after.head?.any k.holds := by
  cases after <;> simp [holdsAt]

/-- What is passed by characters of a class, as a text. -/
lemma exists_run_of_holdsAt {size : Nat} (h : ∀ i < size, holdsAt s k (p.offset + i) = true) :
    ∃ w : Text, w <+: s.toList.drop p.offset ∧ w.length = size ∧ ∀ c ∈ w, k.holds c = true := by
  induction size with
  | zero => exact ⟨[], List.nil_prefix, rfl, by simp⟩
  | succ size ih =>
    obtain ⟨w, ⟨rest, hrest⟩, hlength, hk⟩ := ih fun i hi => h i (by omega)
    obtain ⟨c, ⟨more, hmore⟩, hc⟩ := holdsAt_eq_true_iff.1 (h size (by omega))
    rw [← List.drop_drop, ← hrest, List.drop_left' hlength] at hmore
    refine ⟨w ++ [c], ⟨more, ?_⟩, by simp [hlength], ?_⟩
    · rw [← hrest, ← hmore]
      simp
    · intro d hd
      rcases List.mem_append.1 hd with hd | hd
      · exact hk d hd
      · rw [List.mem_singleton.1 hd]
        exact hc

/-! ## The matcher passes only texts of the node -/

/-- **What the matcher passes is a text of the node.** -/
theorem Passes.exists_spells (h : Passes s n p q) (hn : n.isPlain = true) :
    ∃ w, n.Spells w ∧ w <+: s.toList.drop p.offset ∧ q.offset = p.offset + w.length := by
  induction h with
  | empty => exact ⟨[], rfl, List.nil_prefix, rfl⟩
  | char hk =>
    obtain ⟨c, hc, hholds⟩ := holdsAt_eq_true_iff.1 hk
    exact ⟨[c], ⟨c, rfl, hholds⟩, hc, rfl⟩
  | @chars k least size most greed p hleast hmost hk =>
    obtain ⟨w, hw, rfl, hholds⟩ := exists_run_of_holdsAt hk
    refine ⟨w, ⟨hholds, hleast, fun m hm => ?_⟩, hw, rfl⟩
    subst hm
    have hbounds := ((Bool.and_eq_true _ _).mp hn).2
    have hle : least ≤ m := by simpa using hbounds
    have := hmost m rfl
    omega
  | @seq a b p q r h₁ h₂ ih₁ ih₂ =>
    obtain ⟨ha, hb⟩ := (Bool.and_eq_true _ _).mp hn
    obtain ⟨u, hu, ⟨rest, hrest⟩, hq⟩ := ih₁ ha
    obtain ⟨v, hv, hprefix, hr⟩ := ih₂ hb
    rw [hq, ← List.drop_drop, ← hrest, List.drop_left] at hprefix
    refine ⟨u ++ v, ⟨u, v, rfl, hu, hv⟩, ?_, ?_⟩
    · rw [← hrest]
      exact (List.prefix_append_right_inj u).2 hprefix
    · rw [hr, hq, List.length_append]
      omega
  | altLeft _ ih =>
    obtain ⟨w, hw, hprefix, hq⟩ := ih ((Bool.and_eq_true _ _).mp hn).1
    exact ⟨w, Or.inl hw, hprefix, hq⟩
  | altRight _ ih =>
    obtain ⟨w, hw, hprefix, hq⟩ := ih ((Bool.and_eq_true _ _).mp hn).2
    exact ⟨w, Or.inr hw, hprefix, hq⟩
  | group _ ih =>
    obtain ⟨w, hw, hprefix, hq⟩ := ih hn
    exact ⟨w, hw, hprefix, hq⟩
  | _ => cases hn

/-! ## The matcher finds the texts of the node -/

lemma le_runLength {size limit offset : Nat} (hlimit : size ≤ limit)
    (h : ∀ i < size, holdsAt s k (offset + i) = true) : size ≤ runLength s k limit offset := by
  induction limit generalizing size offset with
  | zero => exact hlimit
  | succ limit ih =>
    cases size with
    | zero => exact Nat.zero_le _
    | succ size =>
      have hfirst : holdsAt s k offset = true := h 0 (Nat.succ_pos _)
      unfold runLength
      rw [if_pos hfirst]
      refine Nat.succ_le_succ (ih (by omega) fun i hi => ?_)
      have := h (i + 1) (by omega)
      rwa [show offset + (i + 1) = offset + 1 + i by omega] at this

lemma longestFirst_isSome {attempt : Nat → Option Place} {least extra size : Nat} (hleast : least ≤ size)
    (hsize : size ≤ least + extra) (h : (attempt size).isSome) : (longestFirst attempt least extra).isSome := by
  induction extra with
  | zero =>
    obtain rfl : size = least := by omega
    exact h
  | succ extra ih =>
    unfold longestFirst
    split
    · rfl
    · next hnone =>
      refine ih ?_
      have : size ≠ least + (extra + 1) := by
        rintro rfl
        simp [hnone] at h
      omega

lemma shortestFirst_isSome {attempt : Nat → Option Place} {offset first extra size : Nat} (hfirst : first ≤ size)
    (hsize : size ≤ first + extra) (hk : ∀ i < size, holdsAt s k (offset + i) = true) (h : (attempt size).isSome) :
    (shortestFirst s k offset attempt first extra).isSome := by
  induction extra generalizing first with
  | zero =>
    obtain rfl : size = first := by omega
    exact h
  | succ extra ih =>
    unfold shortestFirst
    split
    · rfl
    · next hnone =>
      have hlt : first < size := by
        refine Nat.lt_of_le_of_ne hfirst ?_
        rintro rfl
        simp [hnone] at h
      rw [if_pos (hk first hlt)]
      exact ih hlt (by omega)

lemma le_reach {most : Option Nat} (hw : w <+: s.toList.drop p.offset)
    (hmost : ∀ m, most = some m → w.length ≤ m) : w.length ≤ reach s most p.offset := by
  have hlength : w.length ≤ s.size - p.offset := by simpa using hw.length_le
  unfold reach
  split
  · exact hlength
  · next m => exact Nat.le_min.2 ⟨hmost m rfl, hlength⟩

/-- **The matcher gets through a plain node where one of its texts stands**, if what is left to match accepts the
place after the text. -/
theorem Node.run_isSome (n : Node) (hn : n.isPlain = true) (hw : n.Spells w) {next : Continuation} {p : Place}
    (hp : w <+: s.toList.drop p.offset) (hnext : ∀ q : Place, q.offset = p.offset + w.length → (next q).isSome) :
    (n.run s next p).isSome := by
  induction n generalizing w next p with
  | empty =>
    obtain rfl : w = [] := hw
    exact hnext p rfl
  | char k =>
    obtain ⟨c, rfl, hc⟩ := hw
    simp only [Node.run]
    rw [if_pos (holdsAt_eq_true_iff.2 ⟨c, hp, hc⟩)]
    exact hnext _ rfl
  | chars k least most greed =>
    obtain ⟨hk, hleast, hmost⟩ := hw
    have hholds : ∀ i < w.length, holdsAt s k (p.offset + i) = true := by
      intro i hi
      rw [holdsAt_eq_holds hp hi]
      exact hk _ (List.getElem_mem hi)
    have hreach := le_reach hp hmost
    cases greed with
    | greedy =>
      have hrun := le_runLength hreach hholds
      simp only [Node.run]
      rw [if_neg (by omega)]
      exact longestFirst_isSome hleast (by omega) (hnext _ rfl)
    | lazy =>
      have hrun : least ≤ runLength s k least p.offset := le_runLength (Nat.le_refl _) fun i hi => hholds i (by omega)
      simp only [Node.run]
      rw [if_neg (by omega)]
      exact shortestFirst_isSome hleast (by omega) hholds (hnext _ rfl)
    | possessive => cases hn
  | seq a b iha ihb =>
    obtain ⟨ha, hb⟩ := (Bool.and_eq_true _ _).mp hn
    obtain ⟨u, v, rfl, hu, hv⟩ := hw
    obtain ⟨rest, hrest⟩ := hp
    refine iha ha hu ⟨v ++ rest, by rw [← hrest, List.append_assoc]⟩ fun q hq => ?_
    refine ihb hb hv ⟨rest, ?_⟩ fun r hr => hnext r ?_
    · rw [hq, ← List.drop_drop, ← hrest, List.append_assoc, List.drop_left]
    · rw [hr, hq, List.length_append]
      omega
  | alt a b iha ihb =>
    obtain ⟨ha, hb⟩ := (Bool.and_eq_true _ _).mp hn
    simp only [Node.run]
    split
    · rfl
    · next hnone =>
      rcases hw with hw | hw
      · have := iha ha hw hp hnext
        simp [hnone] at this
      · exact ihb hb hw hp hnext
  | group number body ih => exact ih hn hw hp fun q hq => hnext _ hq
  | _ => cases hn

/-! ## Matches -/

lemma searchFrom_eq_findSome? (p : Pattern) (s : Array Char) (fuel start : Nat) :
    p.searchFrom s fuel start = (List.range' start fuel).findSome? (p.matchAt s) := by
  induction fuel generalizing start with
  | zero => rfl
  | succ fuel ih =>
    rw [searchFrom, List.range'_succ, List.findSome?_cons, ih]
    cases p.matchAt s start <;> rfl

/-- A search takes the first offset at which the pattern matches. -/
lemma search_eq_findSome? (p : Pattern) (text : Text) :
    p.search text.toArray 0 = (List.range (text.length + 1)).findSome? (p.matchAt text.toArray) := by
  rw [search, searchFrom_eq_findSome?, List.range_eq_range', List.size_toArray, Nat.sub_zero]

/-- **A plain pattern matches at an offset just when one of its texts stands there.** -/
theorem matchAt_isSome_iff {p : Pattern} (hp : p.node.isPlain = true) {i : Nat} :
    (p.matchAt s i).isSome ↔ ∃ w, p.node.Spells w ∧ w <+: s.toList.drop i := by
  constructor
  · intro h
    obtain ⟨m, hm⟩ := Option.isSome_iff_exists.1 h
    obtain ⟨q, hpasses, -⟩ := matchAt_passes hm
    obtain ⟨w, hw, hprefix, -⟩ := hpasses.exists_spells hp
    exact ⟨w, hw, hprefix⟩
  · rintro ⟨w, hw, hprefix⟩
    unfold matchAt
    rw [Option.isSome_map]
    exact p.node.run_isSome hp hw hprefix fun _ _ => rfl

/-! ## Sequences -/

lemma passes_sequence_cons {ns : List Node} (h : Passes s (.sequence (n :: ns)) p r) :
    ∃ q, Passes s n p q ∧ Passes s (.sequence ns) q r := by
  cases ns with
  | nil => exact ⟨r, h, .empty⟩
  | cons next ns =>
    cases h with
    | seq h₁ h₂ => exact ⟨_, h₁, h₂⟩

lemma spells_sequence_cons {ns : List Node} :
    (Node.sequence (n :: ns)).Spells w ↔ ∃ u v, w = u ++ v ∧ n.Spells u ∧ (Node.sequence ns).Spells v := by
  cases ns with
  | nil =>
    constructor
    · intro h
      exact ⟨w, [], by simp, h, rfl⟩
    · rintro ⟨u, v, rfl, hu, rfl⟩
      rwa [List.append_nil]
  | cons next ns => rfl

lemma isPlain_sequence {ns : List Node} (h : ∀ n ∈ ns, n.isPlain = true) : (Node.sequence ns).isPlain = true := by
  induction ns with
  | nil => rfl
  | cons n ns ih =>
    obtain ⟨hn, hns⟩ := List.forall_mem_cons.1 h
    cases ns with
    | nil => exact hn
    | cons next ns => exact (Bool.and_eq_true _ _).mpr ⟨hn, ih hns⟩

lemma hasGroup_sequence {number : Nat} {ns : List Node} (h : ∀ n ∈ ns, n.hasGroup number = false) :
    (Node.sequence ns).hasGroup number = false := by
  induction ns with
  | nil => rfl
  | cons n ns ih =>
    obtain ⟨hn, hns⟩ := List.forall_mem_cons.1 h
    cases ns with
    | nil => exact hn
    | cons next ns => exact Bool.or_eq_false_iff.2 ⟨hn, ih hns⟩

lemma run_sequence_append (xs ys : List Node) (next : Continuation) (p : Place) :
    (Node.sequence (xs ++ ys)).run s next p = (Node.sequence xs).run s ((Node.sequence ys).run s next) p := by
  have hcons : ∀ (n : Node) (ns : List Node) (next : Continuation) (p : Place),
      (Node.sequence (n :: ns)).run s next p = n.run s ((Node.sequence ns).run s next) p := by
    intro n ns next p
    cases ns with
    | nil => rfl
    | cons _ _ => rfl
  induction xs generalizing p with
  | nil => rfl
  | cons n xs ih =>
    rw [List.cons_append, hcons, hcons]
    congr 1
    funext q
    exact ih q

/-! ## Patterns with one group -/

/-- The pattern is a group between plain nodes. -/
structure Frames (p : Pattern) (front : List Node) (body : Node) (back : List Node) : Prop where
  node_eq : p.node = .sequence (front ++ .group 1 body :: back)
  groups_eq : p.groups = 1
  plain : ∀ n ∈ front ++ body :: back, n.isPlain = true
  groupless : ∀ n ∈ front ++ body :: back, n.hasGroup 1 = false

variable {pattern : Pattern} {front back : List Node} {body : Node} {i : Nat} {m : Found}

lemma Frames.isPlain (h : Frames pattern front body back) : pattern.node.isPlain = true := by
  rw [h.node_eq]
  refine isPlain_sequence fun n hn => ?_
  rcases List.mem_append.1 hn with hn | hn
  · exact h.plain n (by simp [hn])
  · rcases List.mem_cons.1 hn with rfl | hn
    · exact h.plain body (by simp)
    · exact h.plain n (by simp [hn])

/-- A match of the pattern has come through the front and goes on with the group, which has not matched before. -/
lemma Frames.exists_front (h : Frames pattern front body back) (hm : pattern.matchAt s i = some m) :
    ∃ u p q, (Node.sequence front).Spells u ∧ u <+: s.toList.drop i ∧ p.offset = i + u.length ∧
      p.marks[0]? = some ⟨none, none⟩ ∧
      (Node.sequence (.group 1 body :: back)).run s some p = some q ∧ m = foundAt s i q := by
  obtain ⟨q, hq, rfl⟩ := Option.map_eq_some_iff.1 hm
  rw [h.node_eq, run_sequence_append] at hq
  obtain ⟨p, hp, hq⟩ := (Node.sequence front).run_passes s _ _ q hq
  have hplain : (Node.sequence front).isPlain = true := isPlain_sequence fun n hn => h.plain n (by simp [hn])
  have hgroupless : (Node.sequence front).hasGroup 1 = false :=
    hasGroup_sequence fun n hn => h.groupless n (by simp [hn])
  obtain ⟨u, hu, hprefix, hoffset⟩ := hp.exists_spells hplain
  refine ⟨u, p, q, hu, hprefix, hoffset, ?_, hq, rfl⟩
  rw [hp.marks_eq hgroupless, h.groups_eq]
  rfl

lemma captured?_of_marks {start stop : Nat} (h : q.marks[0]? = some ⟨some start, some stop⟩) (hle : start ≤ stop) :
    q.captured? 1 = some (start, stop) :=
  Place.captured?_eq_some.2 ⟨h, hle⟩

lemma captureOf_eq {start : Nat} (h : w <+: s.toList.drop start) :
    captureOf s start (start + w.length) = ⟨start, start + w.length, w⟩ := by
  have hextract : (s.extract start (start + w.length)).toList = w := by
    rw [Array.toList_extract, List.extract_eq_take_drop, Nat.add_sub_cancel_left]
    exact (List.prefix_iff_eq_take.1 h).symm
  rw [captureOf, hextract]

/-- **What the group of a pattern has matched** is a text of the group, between texts of what is before and behind. -/
theorem Frames.matchAt_captures (h : Frames pattern front body back) (hm : pattern.matchAt s i = some m) :
    ∃ u w t, (Node.sequence front).Spells u ∧ body.Spells w ∧ (Node.sequence back).Spells t ∧
      u ++ (w ++ t) <+: s.toList.drop i ∧ m.group? 1 = some ⟨i + u.length, i + u.length + w.length, w⟩ := by
  obtain ⟨u, p, q, hu, ⟨rest, hrest⟩, hp, hmarks, hq, rfl⟩ := h.exists_front hm
  obtain ⟨q', hpasses, hsome⟩ := (Node.sequence (.group 1 body :: back)).run_passes s _ _ q hq
  obtain rfl := Option.some.inj hsome
  obtain ⟨r, hgroup, hback⟩ := passes_sequence_cons hpasses
  cases hgroup with
  | @group _ _ r _ hbody =>
    have hplain : (Node.sequence back).isPlain = true := isPlain_sequence fun n hn => h.plain n (by simp [hn])
    have hgroupless : (Node.sequence back).hasGroup 1 = false :=
      hasGroup_sequence fun n hn => h.groupless n (by simp [hn])
    obtain ⟨w, hw, ⟨more, hmore⟩, hr⟩ := hbody.exists_spells (h.plain body (by simp))
    obtain ⟨t, ht, htprefix, -⟩ := hback.exists_spells hplain
    replace hmore : w ++ more = s.toList.drop p.offset := hmore
    replace hr : r.offset = p.offset + w.length := hr
    replace htprefix : t <+: s.toList.drop r.offset := htprefix
    rw [hp, ← List.drop_drop, ← hrest, List.drop_left] at hmore
    rw [hr, hp, ← List.drop_drop, ← List.drop_drop, ← hrest, List.drop_left, ← hmore, List.drop_left] at htprefix
    refine ⟨u, w, t, hu, hw, ht, ?_, ?_⟩
    · rw [← hrest, ← hmore, List.prefix_append_right_inj, List.prefix_append_right_inj]
      exact htprefix
    · -- the group is marked at its two ends, and nothing after it marks it again
      have hafter : q'.marks[0]? = some ⟨some p.offset, some r.offset⟩ := by
        have hentered : r.marks[0]? = (p.enter 1).marks[0]? := hbody.marks_eq (h.groupless body (by simp))
        rw [hback.marks_eq hgroupless]
        simp [Place.leave, hentered, Place.enter, hmarks]
      rw [foundAt_group?, captured?_of_marks hafter (by omega), Option.map_some, hr, hp]
      refine congrArg some (captureOf_eq ?_)
      rw [← List.drop_drop, ← hrest, List.drop_left, ← hmore]
      exact List.prefix_append _ _

/-- What the group has matched first, as every match has it. -/
lemma Frames.search_group? (h : Frames pattern front body back) (text : Text) :
    (pattern.search text.toArray 0).bind (·.group? 1) =
      (List.range (text.length + 1)).findSome? fun i => (pattern.matchAt text.toArray i).bind (·.group? 1) := by
  rw [search_eq_findSome?]
  induction List.range (text.length + 1) with
  | nil => rfl
  | cons i offsets ih =>
    rw [List.findSome?_cons, List.findSome?_cons]
    cases hm : pattern.matchAt text.toArray i with
    | none => exact ih
    | some m =>
      obtain ⟨u, w, t, -, -, -, -, hgroup⟩ := h.matchAt_captures hm
      simp [hgroup]

/-- **What a group has matched that takes as little as it can**: all up to the first character that ends the match. -/
theorem Frames.matchAt_captures_least {stop : CharClass} (h : Frames pattern front (.chars k 0 none .lazy) [.char stop])
    (hm : pattern.matchAt s i = some m) :
    ∃ u w d, (Node.sequence front).Spells u ∧ (∀ c ∈ w, k.holds c = true ∧ stop.holds c = false) ∧
      stop.holds d = true ∧ u ++ (w ++ [d]) <+: s.toList.drop i ∧
      m.group? 1 = some ⟨i + u.length, i + u.length + w.length, w⟩ := by
  obtain ⟨u, p, q, hu, ⟨rest, hrest⟩, hp, hmarks, hq, rfl⟩ := h.exists_front hm
  simp only [Node.sequence, Node.run] at hq
  rw [if_neg (Nat.not_lt_zero _)] at hq
  obtain ⟨size, -, -, hbefore, hsize⟩ := shortestFirst_eq_some hq
  obtain ⟨hstop, hsize⟩ := Option.ite_none_right_eq_some.1 hsize
  obtain rfl := Option.some.inj hsize
  replace hstop : holdsAt s stop (p.offset + size) = true := hstop
  obtain ⟨w, hw, rfl, hk⟩ := exists_run_of_holdsAt (p := p) fun i hi => (hbefore i (Nat.zero_le _) hi).1
  obtain ⟨d, hd, hdstop⟩ := holdsAt_eq_true_iff.1 hstop
  have hpassed : ∀ c ∈ w, stop.holds c = false := by
    intro c hc
    obtain ⟨j, hj, rfl⟩ := List.getElem_of_mem hc
    have hoffset : (((p.enter 1).forward j).leave 1).offset = p.offset + j := rfl
    have hnone := (hbefore j (Nat.zero_le _) hj).2
    rw [hoffset, holdsAt_eq_holds hw hj] at hnone
    by_contra hholds
    rw [if_pos (Bool.not_eq_false _ ▸ hholds)] at hnone
    cases hnone
  have hcaptured : ((((p.enter 1).forward w.length).leave 1).forward 1).captured? 1 =
      some (i + u.length, i + u.length + w.length) := by
    rw [← hp]
    exact captured?_of_marks (by simp [Place.forward, Place.leave, Place.enter, hmarks]) (by omega)
  obtain ⟨more, hmore⟩ := hw
  rw [hp, ← List.drop_drop, ← hrest, List.drop_left] at hmore
  rw [hp, ← List.drop_drop, ← List.drop_drop, ← hrest, List.drop_left, ← hmore, List.drop_left] at hd
  refine ⟨u, w, d, hu, fun c hc => ⟨hk c hc, hpassed c hc⟩, hdstop, ?_, ?_⟩
  · rw [← hrest, ← hmore, List.prefix_append_right_inj, List.prefix_append_right_inj]
    exact hd
  · rw [foundAt_group?, hcaptured, Option.map_some]
    refine congrArg some (captureOf_eq ?_)
    rw [← List.drop_drop, ← hrest, List.drop_left, ← hmore]
    exact List.prefix_append _ _

end Pattern

end MarkupLint
