import Mathlib.Data.List.Sigma
import Mathlib.Data.List.TakeWhile
import MarkupLint.Proofs.Rule.HeadingLines

/-!
# The tree of headings

The parent of a heading is the last earlier heading of a smaller level.  The rules on headings keep a stack of open
sections, in which the parent is found without looking back.

* `find?_stackOf`: the stack has, for each level, the last heading of a smaller level among all so far;
* `closing_perm`: the sections close with the numbers of their children;
* `heading_rules_follow_tree`: so the advice about divided sections and about levels left out is that of the tree.
-/

namespace MarkupLint

namespace Headings

/-! ## Parents and children -/

/-- The headings of a document, in order. -/
def headings (d : Document) : List Heading := d.lines.filterMap (heading? commands)

/-- The parent of a numbered heading: the last earlier one of a smaller level. -/
def parent? (hs : List Heading) (h : Heading × Nat) : Option (Heading × Nat) :=
  (hs.zipIdx.filter fun e => e.2 < h.2 ∧ e.1.level < h.1.level).getLast?

/-- The headings with the given parent. -/
def children (hs : List Heading) (h : Heading × Nat) : List (Heading × Nat) :=
  hs.zipIdx.filter fun e => parent? hs e = some h

/-- The parent is not a part, and there is a level between the two. -/
def LeavesOut (parent h : Heading) : Prop := parent.command ≠ "part".toList ∧ parent.level + 1 < h.level

instance (parent h : Heading) : Decidable (LeavesOut parent h) :=
  inferInstanceAs (Decidable (_ ∧ _))

variable {hs done : List Heading} {h : Heading} {e k : Heading × Nat}

lemma lt_length_of_mem_zipIdx (he : e ∈ done.zipIdx) : e.2 < done.length := by
  have := List.snd_lt_of_mem_zipIdx he
  omega

lemma parent?_lt (hk : parent? hs k = some e) : e.2 < k.2 ∧ e.1.level < k.1.level := by
  have hmem := List.mem_of_getLast? hk
  simpa using (List.mem_filter.1 hmem).2

/-- Later headings do not matter. -/
lemma parent?_append (hk : k.2 ≤ done.length) (rest : List Heading) :
    parent? (done ++ rest) k = parent? done k := by
  have hnone : (rest.zipIdx done.length).filter (fun e => e.2 < k.2 ∧ e.1.level < k.1.level) = [] := by
    rw [List.filter_eq_nil_iff]
    intro e he
    have := List.le_snd_of_mem_zipIdx he
    simp
    omega
  unfold parent?
  rw [List.zipIdx_append, List.filter_append, Nat.zero_add, hnone, List.append_nil]

lemma children_concat (done : List Heading) (h : Heading) (e : Heading × Nat) :
    children (done ++ [h]) e =
      children done e ++ if parent? done (h, done.length) = some e then [(h, done.length)] else [] := by
  have hdone : done.zipIdx.filter (fun k => parent? (done ++ [h]) k = some e) = children done e := by
    refine List.filter_congr fun k hk => ?_
    rw [parent?_append (Nat.le_of_lt (lt_length_of_mem_zipIdx hk))]
  unfold children
  rw [List.zipIdx_append, List.filter_append, hdone, List.zipIdx_singleton, Nat.zero_add, List.filter_singleton,
    parent?_append (Nat.le_refl _)]
  by_cases hparent : parent? done (h, done.length) = some e
  · simp [hparent, children]
  · simp [hparent, children]

lemma children_self_concat (done : List Heading) (h : Heading) : children (done ++ [h]) (h, done.length) = [] := by
  unfold children
  rw [List.filter_eq_nil_iff]
  intro k hk
  have hlt := lt_length_of_mem_zipIdx hk
  rw [List.length_append, List.length_singleton] at hlt
  rw [decide_eq_true_eq]
  intro hparent
  have := (parent?_lt hparent).1
  omega

/-! ## The stack -/

/-- The headings that are open after the given ones, innermost first. -/
def stackOf (done : List Heading) : List (Heading × Nat) :=
  done.zipIdx.foldl (fun stack h => h :: stack.dropWhile (h.1.level ≤ ·.1.level)) []

lemma stackOf_concat (done : List Heading) (h : Heading) :
    stackOf (done ++ [h]) = (h, done.length) :: (stackOf done).dropWhile (h.level ≤ ·.1.level) := by
  unfold stackOf
  rw [List.zipIdx_append, List.foldl_append, List.zipIdx_singleton, Nat.zero_add, List.foldl_cons, List.foldl_nil]

lemma stackOf_sublist (done : List Heading) : (stackOf done).Sublist done.zipIdx.reverse := by
  induction done using List.reverseRecOn with
  | nil => exact List.Sublist.refl _
  | append_singleton done h ih =>
    rw [stackOf_concat, List.zipIdx_append, List.reverse_append, List.zipIdx_singleton, Nat.zero_add]
    exact ((List.dropWhile_sublist _).trans ih).cons_cons _

lemma mem_zipIdx_of_mem_stackOf (he : e ∈ stackOf done) : e ∈ done.zipIdx :=
  List.mem_reverse.1 ((stackOf_sublist done).subset he)

lemma nodup_stackOf (done : List Heading) : (stackOf done).Nodup := by
  have hnumbers : done.zipIdx.Nodup := List.Nodup.of_map _ (List.nodup_zipIdx_map_snd done)
  exact (List.nodup_reverse.2 hnumbers).sublist (stackOf_sublist done)

lemma find?_dropWhile {α : Type} {p q : α → Bool} (h : ∀ a, p a = true → q a = false) (l : List α) :
    (l.dropWhile p).find? q = l.find? q := by
  induction l with
  | nil => rfl
  | cons a l ih =>
    rw [List.dropWhile_cons]
    split
    · next ha => rw [ih, List.find?_cons, h a ha]
    · rfl

/-- **The stack has the last heading of each smaller level.** -/
theorem find?_stackOf (done : List Heading) (level : Nat) :
    (stackOf done).find? (·.1.level < level) = (done.zipIdx.filter (·.1.level < level)).getLast? := by
  induction done using List.reverseRecOn with
  | nil => rfl
  | append_singleton done h ih =>
    rw [stackOf_concat, List.zipIdx_append, List.filter_append, List.zipIdx_singleton, Nat.zero_add,
      List.find?_cons, List.filter_singleton]
    by_cases hlevel : h.level < level
    · simp [hlevel]
    · -- what the heading closes is not of a smaller level either
      have hclosed : ∀ e : Heading × Nat, decide (h.level ≤ e.1.level) = true → decide (e.1.level < level) = false := by
        intro e he
        simp at he ⊢
        omega
      simp only [hlevel, decide_false]
      rw [find?_dropWhile hclosed, ih]
      simp

/-- The parent of the next heading is the innermost of the sections that it leaves open. -/
lemma parent?_eq_head? (done : List Heading) (h : Heading) :
    parent? done (h, done.length) = ((stackOf done).dropWhile (h.level ≤ ·.1.level)).head? := by
  have hsmaller : (fun e : Heading × Nat => decide (e.1.level < h.level)) = fun e => !decide (h.level ≤ e.1.level) := by
    funext e
    rw [← decide_not, decide_eq_decide, Nat.not_le]
  have hearlier : done.zipIdx.filter (fun e => e.2 < done.length ∧ e.1.level < h.level) =
      done.zipIdx.filter (·.1.level < h.level) := by
    refine List.filter_congr fun e he => ?_
    simp [lt_length_of_mem_zipIdx he]
  unfold parent?
  rw [hearlier, ← find?_stackOf, hsmaller, List.find?_not_eq_head?_dropWhile]

/-- A heading is no child of a section that is closed when it comes. -/
lemma children_concat_of_closed (hclosed : e ∉ stackOf (done ++ [h])) :
    children (done ++ [h]) e = children done e := by
  rw [children_concat, if_neg, List.append_nil]
  intro hparent
  rw [parent?_eq_head?] at hparent
  rw [stackOf_concat] at hclosed
  exact hclosed (List.mem_cons_of_mem _ (List.mem_of_head? hparent))

/-- A section that is closed stays closed. -/
lemma not_mem_stackOf_concat (hclosed : e ∉ stackOf done) (he : e.2 < done.length) : e ∉ stackOf (done ++ [h]) := by
  rw [stackOf_concat, List.mem_cons]
  rintro (rfl | hmem)
  · exact Nat.lt_irrefl _ he
  · exact hclosed ((List.dropWhile_sublist _).subset hmem)

lemma children_append_of_closed (hclosed : e ∉ stackOf done) (he : e.2 < done.length) (rest : List Heading) :
    children (done ++ rest) e = children done e := by
  induction rest generalizing done with
  | nil => rw [List.append_nil]
  | cons h rest ih =>
    have hnext := not_mem_stackOf_concat (h := h) hclosed he
    have hnumber : e.2 < (done ++ [h]).length := by
      rw [List.length_append]
      omega
    rw [List.append_cons, ih hnext hnumber, children_concat_of_closed hnext]

/-- The heading closes the sections in front of the first one of a smaller level. -/
lemma not_mem_stackOf_of_mem_takeWhile (he : e ∈ (stackOf done).takeWhile (h.level ≤ ·.1.level)) :
    e ∉ stackOf (done ++ [h]) := by
  have hnodup := nodup_stackOf done
  rw [← List.takeWhile_append_dropWhile (p := (h.level ≤ ·.1.level)) (l := stackOf done)] at hnodup
  have hmem := mem_zipIdx_of_mem_stackOf ((List.takeWhile_sublist _).subset he)
  rw [stackOf_concat, List.mem_cons]
  rintro (rfl | hopen)
  · exact Nat.lt_irrefl _ (lt_length_of_mem_zipIdx hmem)
  · exact (List.disjoint_of_nodup_append hnodup) he hopen

/-- No section is lost when a heading closes some and opens its own. -/
lemma closed_append_stackOf_perm (done : List Heading) (h : Heading) (later : List (Heading × Nat)) :
    ((stackOf done).takeWhile (h.level ≤ ·.1.level) ++ (stackOf (done ++ [h]) ++ later)).Perm
      (stackOf done ++ (h, done.length) :: later) := by
  have hparts : (stackOf done).takeWhile (h.level ≤ ·.1.level) ++ (stackOf done).dropWhile (h.level ≤ ·.1.level) =
      stackOf done := List.takeWhile_append_dropWhile
  rw [stackOf_concat, List.cons_append]
  nth_rewrite 3 [← hparts]
  rw [List.append_assoc]
  exact List.perm_middle.symm.append_left _

/-! ## The open sections -/

/-- The section of a heading, with the number of its children. -/
def counted (hs : List Heading) (e : Heading × Nat) : Section := ⟨e.1.command, e.1.range, (children hs e).length, 0⟩

lemma closedBy_map {f : Heading × Nat → Section} (hf : ∀ e, (f e).level = e.1.level) (level : Nat)
    (stack : List (Heading × Nat)) :
    closedBy level (stack.map f) =
      ((stack.takeWhile (level ≤ ·.1.level)).map f, (stack.dropWhile (level ≤ ·.1.level)).map f) := by
  have hlevel : (fun s : Section => decide (level ≤ s.level)) ∘ f = fun e => decide (level ≤ e.1.level) := by
    funext e
    simp [hf]
  unfold closedBy
  rw [List.span_eq_takeWhile_dropWhile, List.takeWhile_map, List.dropWhile_map, hlevel]

/-- A heading counts for its parent, and for no other section. -/
lemma addChild_map_counted (done : List Heading) (h : Heading) :
    addChild (((stackOf done).dropWhile (h.level ≤ ·.1.level)).map (counted done)) =
      ((stackOf done).dropWhile (h.level ≤ ·.1.level)).map (counted (done ++ [h])) := by
  have hnodup := (nodup_stackOf done).sublist (List.dropWhile_sublist (h.level ≤ ·.1.level))
  have hparent := parent?_eq_head? done h
  cases houter : (stackOf done).dropWhile (h.level ≤ ·.1.level) with
  | nil => rfl
  | cons p outer =>
    rw [houter] at hnodup
    rw [houter, List.head?_cons] at hparent
    have hcount : counted (done ++ [h]) p = { counted done p with children := (children done p).length + 1 } := by
      rw [counted, children_concat, if_pos hparent, List.length_append]
      rfl
    have hothers : outer.map (counted done) = outer.map (counted (done ++ [h])) := by
      refine List.map_congr_left fun e he => ?_
      rw [counted, counted, children_concat, if_neg, List.append_nil]
      rw [hparent]
      rintro heq
      obtain rfl : p = e := Option.some.inj heq
      exact (List.nodup_cons.1 hnodup).1 he
    rw [List.map_cons, List.map_cons, addChild, hcount, hothers]
    rfl

lemma closing_cons (sections : List Section) (line : Line) (lines : List Line) :
    closing sections (line :: lines) =
      match (heading? commands line).map Heading.opened with
      | none => closing sections lines
      | some s => (closedBy s.level sections).1 ++ closing (s :: addChild (closedBy s.level sections).2) lines := by
  rw [← reads_heading.openedBy?_eq]
  rfl

/-- **The sections close with their children counted.** -/
theorem closing_perm (done : List Heading) (lines : List Line) :
    (closing ((stackOf done).map (counted done)) lines).Perm
      ((stackOf done ++ (lines.filterMap (heading? commands)).zipIdx done.length).map
        (counted (done ++ lines.filterMap (heading? commands)))) := by
  induction lines generalizing done with
  | nil =>
    have hend : closing ((stackOf done).map (counted done)) [] = (stackOf done).map (counted done) := rfl
    rw [hend, List.filterMap_nil, List.zipIdx_nil, List.append_nil, List.append_nil]
  | cons line lines ih =>
    rw [closing_cons]
    cases hline : heading? commands line with
    | none =>
      rw [List.filterMap_cons_none hline]
      exact ih done
    | some h =>
      have hnew : h.opened = counted (done ++ [h]) (h, done.length) := by
        rw [counted, children_self_concat]
        rfl
      have hpush : h.opened :: addChild (((stackOf done).dropWhile (h.level ≤ ·.1.level)).map (counted done)) =
          (stackOf (done ++ [h])).map (counted (done ++ [h])) := by
        rw [addChild_map_counted, stackOf_concat, List.map_cons, ← hnew]
      have hclosed : ((stackOf done).takeWhile (h.level ≤ ·.1.level)).map (counted done) =
          ((stackOf done).takeWhile (h.level ≤ ·.1.level)).map
            (counted (done ++ h :: lines.filterMap (heading? commands))) := by
        refine List.map_congr_left fun e he => ?_
        have hout := not_mem_stackOf_of_mem_takeWhile he
        have hnumber := lt_length_of_mem_zipIdx (mem_zipIdx_of_mem_stackOf ((List.takeWhile_sublist _).subset he))
        rw [counted, counted, List.append_cons, children_append_of_closed hout, children_concat_of_closed hout]
        rw [List.length_append]
        omega
      rw [List.filterMap_cons_some hline, Option.map_some]
      dsimp only
      rw [Heading.opened_level, closedBy_map (fun _ => rfl)]
      dsimp only
      rw [hpush, hclosed]
      have hrest := ih (done ++ [h])
      rw [← List.append_cons, List.length_append, List.length_singleton] at hrest
      refine (hrest.append_left _).trans ?_
      rw [← List.map_append, List.zipIdx_cons]
      exact (closed_append_stackOf_perm done h _).map _

lemma skipsLevel_opened (parent h : Heading) : skipsLevel parent.opened h.opened = decide (LeavesOut parent h) := by
  rw [Bool.eq_iff_iff, skipsLevel, Bool.and_eq_true, bne_iff_ne, decide_eq_true_iff, decide_eq_true_iff]
  rfl

lemma skipping_cons (sections : List Section) (line : Line) (lines : List Line) :
    skipping sections (line :: lines) =
      match (heading? commands line).map Heading.opened with
      | none => skipping sections lines
      | some s =>
        ((closedBy s.level sections).2.head?.toList.filter (skipsLevel · s)).map (·, s) ++
          skipping (s :: (closedBy s.level sections).2) lines := by
  rw [← reads_heading.openedBy?_eq]
  rfl

/-- The headings that leave out a level, each after its parent. -/
lemma skipping_eq (done : List Heading) (lines : List Line) :
    skipping ((stackOf done).map (·.1.opened)) lines =
      ((lines.filterMap (heading? commands)).zipIdx done.length).filterMap fun h =>
        ((parent? (done ++ lines.filterMap (heading? commands)) h).filter fun p => LeavesOut p.1 h.1).map fun p =>
          (p.1.opened, h.1.opened) := by
  induction lines generalizing done with
  | nil => rfl
  | cons line lines ih =>
    rw [skipping_cons]
    cases hline : heading? commands line with
    | none =>
      rw [List.filterMap_cons_none hline]
      exact ih done
    | some h =>
      have hrest := ih (done ++ [h])
      rw [stackOf_concat, List.map_cons, ← List.append_cons, List.length_append, List.length_singleton] at hrest
      rw [List.filterMap_cons_some hline, Option.map_some]
      dsimp only
      have hparent : parent? (done ++ h :: lines.filterMap (heading? commands)) (h, done.length) =
          ((stackOf done).dropWhile (h.level ≤ ·.1.level)).head? := by
        rw [parent?_append (Nat.le_refl _), parent?_eq_head?]
      rw [Heading.opened_level, closedBy_map (fun _ => rfl), hrest, List.zipIdx_cons, List.head?_map, ← hparent]
      cases hp : parent? (done ++ h :: lines.filterMap (heading? commands)) (h, done.length) with
      | none =>
        rw [List.filterMap_cons_none (by rw [hp]; rfl)]
        rfl
      | some p =>
        by_cases hleaves : LeavesOut p.1 h
        · have hkept : (some p).filter (fun p => LeavesOut p.1 h) = some p := by simp [Option.filter_some, hleaves]
          rw [List.filterMap_cons_some (by rw [hp, hkept]; rfl)]
          simp [skipsLevel_opened, hleaves]
        · have hdropped : (some p).filter (fun p => LeavesOut p.1 h) = none := by simp [Option.filter_some, hleaves]
          rw [List.filterMap_cons_none (by rw [hp, hdropped]; rfl)]
          simp [skipsLevel_opened, hleaves]

/-- **The rules on divided sections and on levels follow the tree of headings.**  There is one advice for each heading
with one child; and one, in order, for each heading that has a parent other than a part, with a level between them. -/
theorem heading_rules_follow_tree (v : Provenance) :
    (divisionAdvice v).Perm
      (((headings v.document).zipIdx.filter fun h => (children (headings v.document) h).length = 1).map fun h =>
        v.advise divisionInfo h.1.range
          "If a section has sub-sections, it should have more than one such sub-section.".toList []) ∧
    levelAdvice v =
      (headings v.document).zipIdx.filterMap fun h =>
        ((parent? (headings v.document) h).filter fun p => LeavesOut p.1 h.1).map fun p =>
          v.advise levelInfo h.1.range
            ("A ".toList ++ h.1.command ++ " should not appear directly under a ".toList ++ p.1.command ++
              "; a level is missing in between.".toList) [] := by
  constructor
  · have hclosing : (closing [] v.document.lines).Perm
        ((headings v.document).zipIdx.map (counted (headings v.document))) := closing_perm [] v.document.lines
    refine ((hclosing.filter _).map _).trans (List.Perm.of_eq ?_)
    rw [List.filter_map, List.map_map]
    rfl
  · have hskipping := skipping_eq [] v.document.lines
    rw [List.nil_append, List.length_nil, ← headings] at hskipping
    unfold levelAdvice
    rw [show skipping [] v.document.lines = _ from hskipping, List.map_filterMap]
    simp only [Option.map_map]
    rfl

/-- The first section has one child, which leaves out a level. -/
example :
    let hs := headings (.ofLines "\\section\x7bA\x7d\n\\subsubsection*\x7bB\x7d\nText.\n\\section \x7bC\x7d".toList "")
    hs.zipIdx.map (fun h => (h.1.range, (children hs h).length, (parent? hs h).map (·.2))) =
      [(.ofSize 1 7, 1, none), (.ofSize 13 13, 0, some 0), (.ofSize 38 7, 0, none)] := by
  decide +kernel

end Headings

end MarkupLint
