import Mathlib.Data.Finset.Card
import Mathlib.Data.List.Infix
import Mathlib.Data.List.TakeWhile

/-!
# Following names

A traversal takes names from the front of a queue, passes over those that it has seen, and puts the names that a
name includes at the end of the queue.  `visits` lists the names that it takes up, up to a bound on their
number.

* `nodup_visits`: no name is taken up twice;
* `closed_of_length_lt`: when the bound is not reached, the queue has become empty, and every name that is included
  has been taken up;
* `exists_visits`: where the names that can be reached are bounded in number, the traversal comes to its end, and
  takes up exactly these names, those of the queue first.
-/

namespace MarkupLint.CommandLine

variable {includes : String → List String} {bound : Nat} {seen queue : List String} {name other : String}

/-- A name can be reached: it is one of the given names, or included by one that can be reached. -/
inductive Reachable (includes : String → List String) (names : List String) : String → Prop
  /-- One of the given names. -/
  | given {name : String} (h : name ∈ names) : Reachable includes names name
  /-- A name that is included. -/
  | included {name other : String} (h : Reachable includes names name) (hother : other ∈ includes name) :
      Reachable includes names other

/-- The names that a traversal takes up, `bound` at most, in order. -/
def visits (includes : String → List String) : Nat → List String → List String → List String
  | 0, _, _ => []
  | bound + 1, seen, queue =>
    match queue.dropWhile seen.contains with
    | [] => []
    | name :: queue => name :: visits includes bound (name :: seen) (queue ++ includes name)

/-! ## The front of the queue -/

lemma mem_seen_of_dropWhile_eq_nil (h : queue.dropWhile seen.contains = []) (hn : name ∈ queue) :
    name ∈ seen := by
  simpa using List.dropWhile_eq_nil_iff.1 h name hn

/-- The first name that has not been seen, and what is before and after it. -/
lemma exists_of_dropWhile_eq_cons {rest : List String} (h : queue.dropWhile seen.contains = name :: rest) :
    name ∉ seen ∧ ∃ passed, queue = passed ++ name :: rest ∧ ∀ n ∈ passed, n ∈ seen := by
  have hnot := List.head_dropWhile_not seen.contains (l := queue) (by rw [h]; exact List.cons_ne_nil _ _)
  simp only [h, List.head_cons] at hnot
  refine ⟨by simpa using hnot, queue.takeWhile seen.contains, ?_, ?_⟩
  · rw [← h, List.takeWhile_append_dropWhile]
  · intro n hn
    simpa using List.mem_takeWhile_imp hn

lemma visits_cons_of_mem (h : name ∈ seen) :
    visits includes bound seen (name :: queue) = visits includes bound seen queue := by
  cases bound with
  | zero => rfl
  | succ bound =>
    rw [visits, visits, List.dropWhile_cons_of_pos (by simpa using h)]

lemma visits_cons_of_notMem (h : name ∉ seen) :
    visits includes (bound + 1) seen (name :: queue) =
      name :: visits includes bound (name :: seen) (queue ++ includes name) := by
  rw [visits, List.dropWhile_cons_of_neg (by simpa using h)]

/-! ## What is taken up -/

lemma notMem_seen_of_mem_visits (h : name ∈ visits includes bound seen queue) : name ∉ seen := by
  induction bound generalizing seen queue with
  | zero => cases h
  | succ bound ih =>
    rw [visits] at h
    split at h
    · cases h
    · next first rest hdrop =>
      rcases List.mem_cons.1 h with rfl | h
      · exact (exists_of_dropWhile_eq_cons hdrop).1
      · exact fun hseen => ih h (List.mem_cons_of_mem _ hseen)

/-- **No name is taken up twice.** -/
theorem nodup_visits (includes : String → List String) (bound : Nat) (seen queue : List String) :
    (visits includes bound seen queue).Nodup := by
  induction bound generalizing seen queue with
  | zero => exact List.nodup_nil
  | succ bound ih =>
    rw [visits]
    split
    · exact List.nodup_nil
    · refine List.nodup_cons.2 ⟨fun hmem => ?_, ih _ _⟩
      exact notMem_seen_of_mem_visits hmem (List.mem_cons_self ..)

/-- What holds of the given names, and of what is included by names of which it holds, holds of all that can be
reached. -/
lemma Reachable.of_closed {names : List String} {p : String → Prop} (h : Reachable includes names name)
    (hnames : ∀ n ∈ names, p n) (hclosed : ∀ n, p n → ∀ m ∈ includes n, p m) : p name := by
  induction h with
  | given h => exact hnames _ h
  | included _ hother ih => exact hclosed _ ih _ hother

lemma reachable_of_mem_visits (h : name ∈ visits includes bound seen queue) : Reachable includes queue name := by
  induction bound generalizing seen queue with
  | zero => cases h
  | succ bound ih =>
    rw [visits] at h
    split at h
    · cases h
    · next first rest hdrop =>
      obtain ⟨-, passed, rfl, -⟩ := exists_of_dropWhile_eq_cons hdrop
      have hfirst : Reachable includes (passed ++ first :: rest) first := .given (by simp)
      rcases List.mem_cons.1 h with rfl | h
      · exact hfirst
      · refine (ih h).of_closed (fun n hn => ?_) fun n hn m hm => .included hn hm
        rcases List.mem_append.1 hn with hn | hn
        · exact .given (by simp [hn])
        · exact .included hfirst hn

/-- **The queue becomes empty** when the bound is not reached: what was in the queue and what is included by a name
taken up has been seen or taken up. -/
theorem closed_of_length_lt (h : (visits includes bound seen queue).length < bound) :
    (∀ n ∈ queue, n ∈ seen ∨ n ∈ visits includes bound seen queue) ∧
      ∀ n ∈ visits includes bound seen queue, ∀ m ∈ includes n,
        m ∈ seen ∨ m ∈ visits includes bound seen queue := by
  induction bound generalizing seen queue with
  | zero => exact absurd h (Nat.not_lt_zero _)
  | succ bound ih =>
    rw [visits] at h ⊢
    split at h
    · next hdrop => exact ⟨fun n hn => Or.inl (mem_seen_of_dropWhile_eq_nil hdrop hn), by simp⟩
    · next first rest hdrop =>
      obtain ⟨-, passed, rfl, hpassed⟩ := exists_of_dropWhile_eq_cons hdrop
      obtain ⟨hqueue, hclosed⟩ := ih (Nat.lt_of_succ_lt_succ h)
      -- the first name is seen from here on, and what it includes waits in the queue
      have hlater : ∀ n, (n ∈ first :: seen ∨ n ∈ visits includes bound (first :: seen) (rest ++ includes first)) →
          n ∈ seen ∨ n ∈ first :: visits includes bound (first :: seen) (rest ++ includes first) := by
        intro n hn
        simp only [List.mem_cons] at hn ⊢
        tauto
      refine ⟨fun n hn => ?_, fun n hn m hm => ?_⟩
      · rcases List.mem_append.1 hn with hn | hn
        · exact Or.inl (hpassed n hn)
        · rcases List.mem_cons.1 hn with rfl | hn
          · exact Or.inr (List.mem_cons_self ..)
          · exact hlater n (hqueue n (List.mem_append_left _ hn))
      · rcases List.mem_cons.1 hn with rfl | hn
        · exact hlater m (hqueue m (List.mem_append_right _ hm))
        · exact hlater m (hclosed n hn m hm)

/-- A smaller bound only cuts the list off. -/
lemma visits_eq_take (includes : String → List String) {more : Nat} (h : bound ≤ more) (seen queue : List String) :
    visits includes bound seen queue = (visits includes more seen queue).take bound := by
  induction bound generalizing more seen queue with
  | zero => rfl
  | succ bound ih =>
    obtain ⟨more, rfl⟩ : ∃ k, more = k + 1 := ⟨more - 1, by omega⟩
    rw [visits, visits]
    split
    · rfl
    · rw [List.take_succ_cons, ih (Nat.le_of_succ_le_succ h)]

/-- **The names of the queue come first**, each where it stands for the first time. -/
theorem eraseDups_prefix_visits (includes : String → List String) (more : List String)
    (h : queue.length ≤ bound) :
    (queue.filter (!seen.contains ·)).eraseDups <+: visits includes bound seen (queue ++ more) := by
  induction queue generalizing bound seen more with
  | nil => simp
  | cons name queue ih =>
    rw [List.cons_append]
    rw [List.length_cons] at h
    by_cases hseen : name ∈ seen
    · rw [visits_cons_of_mem hseen, List.filter_cons_of_neg (by simpa using hseen)]
      exact ih more (by omega)
    · obtain ⟨bound, rfl⟩ : ∃ k, bound = k + 1 := ⟨bound - 1, by omega⟩
      rw [visits_cons_of_notMem hseen, List.filter_cons_of_pos (by simpa using hseen), List.eraseDups_cons,
        List.filter_filter, List.append_assoc, List.cons_prefix_cons]
      refine ⟨rfl, ?_⟩
      have hfilter : queue.filter (fun n => (!n == name) && !seen.contains n) =
          queue.filter (!(name :: seen).contains ·) := by
        refine List.filter_congr fun n _ => ?_
        rw [List.contains_cons, Bool.not_or]
      rw [hfilter]
      exact ih _ (by omega)

/-! ## The whole traversal -/

/-- **A traversal comes to its end**, where no list of different names that can be reached is longer than a bound.
The names that it takes up are then those that can be reached, and a larger bound changes nothing. -/
theorem exists_visits {names : List String} {limit : Nat} (hnames : names.length ≤ limit)
    (hlimit : ∀ found : List String, found.Nodup → (∀ n ∈ found, Reachable includes names n) →
      found.length ≤ limit) :
    ∃ visited : List String, visited.Nodup ∧ (∀ n, n ∈ visited ↔ Reachable includes names n) ∧
      names.eraseDups <+: visited ∧ ∀ more ≥ visited.length, visits includes more [] names = visited := by
  have hlength : ∀ more, (visits includes more [] names).length ≤ limit :=
    fun more => hlimit _ (nodup_visits ..) fun n hn => reachable_of_mem_visits hn
  have hlt : (visits includes (limit + 1) [] names).length < limit + 1 := Nat.lt_succ_of_le (hlength _)
  obtain ⟨hqueue, hclosed⟩ := closed_of_length_lt hlt
  refine ⟨visits includes (limit + 1) [] names, nodup_visits .., fun n => ⟨reachable_of_mem_visits, fun hn => ?_⟩,
    ?_, fun more hmore => ?_⟩
  · exact hn.of_closed (fun n hn => (hqueue n hn).resolve_left List.not_mem_nil)
      fun n hn m hm => (hclosed n hn m hm).resolve_left List.not_mem_nil
  · have hfirst : (names.filter (!([] : List String).contains ·)).eraseDups <+:
        visits includes (limit + 1) [] (names ++ []) :=
      eraseDups_prefix_visits includes [] (Nat.le_succ_of_le hnames)
    rw [List.append_nil] at hfirst
    simpa using hfirst
  · rcases Nat.le_total more (limit + 1) with hle | hle
    · rw [visits_eq_take includes hle, List.take_of_length_le hmore]
    · rw [visits_eq_take includes hle [] names, List.take_of_length_le (Nat.le_succ_of_le (hlength _))]

/-- A set that holds the given names and is closed under inclusion holds all that is taken up. -/
lemma length_le_card {names visited : List String} (hnodup : visited.Nodup)
    (hreach : ∀ n ∈ visited, Reachable includes names n) (s : Finset String) (hnames : ∀ n ∈ names, n ∈ s)
    (hclosed : ∀ n ∈ s, ∀ m ∈ includes n, m ∈ s) : visited.length ≤ s.card := by
  rw [← List.toFinset_card_of_nodup hnodup]
  exact Finset.card_le_card fun n hn => (hreach n (List.mem_toFinset.1 hn)).of_closed hnames hclosed

end MarkupLint.CommandLine
