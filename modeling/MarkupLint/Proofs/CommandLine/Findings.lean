import MarkupLint.Proofs.CommandLine.Coverage

/-!
# What a run finds

The report of a run holds what the linter says about each name that is taken up, in the order of the names.
`Traversed.yields` reads the findings of the loop off its traversal, and `report_of_takenAll` the report off the findings.
The number of pieces of advice is the sum over the names (`count_reportOn`).
-/

namespace MarkupLint

/-! ## Reports -/

namespace Report

variable {r : Report}

/-- No document has two entries. -/
def Distinct (r : Report) : Prop := (r.entries.map (·.1)).Nodup

lemma distinct_empty : Report.empty.Distinct := List.nodup_nil

lemma add_of_notMem {resource : String} (h : resource ∉ r.entries.map (·.1)) (advice : List Advice) :
    r.add resource advice = ⟨r.entries ++ [(resource, advice)]⟩ := by
  rw [add, if_neg]
  simpa using h

lemma add_of_mem {resource : String} (h : resource ∈ r.entries.map (·.1)) (advice : List Advice) :
    r.add resource advice =
      ⟨r.entries.map fun e => if e.1 == resource then (e.1, e.2 ++ advice) else e⟩ := by
  rw [add, if_pos]
  simpa using h

lemma Distinct.add (h : r.Distinct) (resource : String) (advice : List Advice) :
    (r.add resource advice).Distinct := by
  by_cases hmem : resource ∈ r.entries.map (·.1)
  · rw [add_of_mem hmem, Distinct, List.map_map]
    have hkeys : ((·.1) ∘ fun e : String × List Advice => if e.1 == resource then (e.1, e.2 ++ advice) else e) =
        (·.1) := by
      funext e
      simp only [Function.comp_apply]
      split <;> rfl
    rw [hkeys]
    exact h
  · rw [add_of_notMem hmem, Distinct, List.map_append]
    refine List.nodup_append.2 ⟨h, List.nodup_singleton _, ?_⟩
    rintro a ha b hb rfl
    obtain rfl := List.mem_singleton.1 hb
    exact hmem ha

lemma length_flatMap_add {entries : List (String × List Advice)} {resource : String} (hnodup : (entries.map (·.1)).Nodup)
    (hmem : resource ∈ entries.map (·.1)) (advice : List Advice) :
    ((entries.map fun e => if e.1 == resource then (e.1, e.2 ++ advice) else e).flatMap (·.2)).length =
      (entries.flatMap (·.2)).length + advice.length := by
  induction entries with
  | nil => cases hmem
  | cons e entries ih =>
    rw [List.map_cons, List.nodup_cons] at hnodup
    obtain ⟨hnot, hnodup⟩ := hnodup
    rw [List.map_cons, List.flatMap_cons, List.flatMap_cons, List.length_append, List.length_append]
    by_cases heq : e.1 = resource
    · -- only the first entry is about the document
      subst heq
      have hrest : entries.map (fun e' => if e'.1 == e.1 then (e'.1, e'.2 ++ advice) else e') = entries := by
        conv_rhs => rw [← List.map_id entries]
        refine List.map_congr_left fun e' he' => ?_
        have hne : e'.1 ≠ e.1 := fun h => hnot (h ▸ List.mem_map_of_mem he')
        rw [if_neg (by simpa using hne), id]
      rw [hrest, if_pos (beq_self_eq_true _), List.length_append]
      omega
    · have hmem : resource ∈ entries.map (·.1) := by
        rcases List.mem_cons.1 hmem with h | h
        · exact absurd h.symm heq
        · exact h
      rw [ih hnodup hmem, if_neg (by simpa using heq)]
      omega

/-- Advice adds to the number of pieces. -/
lemma Distinct.count_add (h : r.Distinct) (resource : String) (advice : List Advice) :
    (r.add resource advice).count = r.count + advice.length := by
  by_cases hmem : resource ∈ r.entries.map (·.1)
  · rw [add_of_mem hmem]
    exact length_flatMap_add h hmem advice
  · rw [add_of_notMem hmem, count, count, List.flatMap_append, List.length_append]
    simp

end Report

namespace CommandLine

variable {σ : Type} {host : Host (StateM σ)} {states : Bool → σ → Prop} {unread : Bool} {a : Host.Answers} {o : Options}
  {c : Config} {f f' : Findings} {names visited : List String}

/-! ## The findings of the loop -/

lemma processEach_yields (h : host.Steady a states) (hnodup : names.Nodup)
    (hunread : inputName ∈ names → unread = true) :
    Yields (processEach host o c f names) (states unread) (takenAll a o c f names)
      (states (names.foldl unreadAfter unread)) := by
  induction names generalizing f unread with
  | nil => exact yields_pure _ _
  | cons name names ih =>
    obtain ⟨hname, hnodup⟩ := List.nodup_cons.1 hnodup
    have hinput : name = inputName → unread = true := fun h => hunread (h ▸ List.mem_cons_self ..)
    refine (process_yields h f hinput).bind fun found _ => ih hnodup fun hmem => ?_
    have hne : name ≠ inputName := fun h => hname (h ▸ hmem)
    rw [unreadAfter, if_neg hne]
    exact hunread (List.mem_cons_of_mem _ hmem)

/-- The findings of the loop are what its names give, one after the other. -/
lemma Traversed.yields (hvisited : Traversed host states a o c visited) (h : host.Steady a states) {bound : Nat}
    (hbound : visited.length ≤ bound) (f : Findings) :
    Yields (processAll host o c bound [] f o.files) (states true) (takenAll a o c f visited)
      (states (visited.foldl unreadAfter true)) := by
  intro τ w hw
  rw [hvisited.runs bound hbound f τ w hw]
  exact processEach_yields h hvisited.nodup (fun _ => rfl) τ w hw

lemma takenAll_ok (h : ∀ name ∈ names, Untroubled a o c name) (f : Findings) :
    ∃ f', takenAll a o c f names = .ok f' := by
  induction names generalizing f with
  | nil => exact ⟨f, rfl⟩
  | cons name names ih =>
    obtain ⟨hname, hnames⟩ := List.forall_mem_cons.1 h
    obtain ⟨f₁, hfirst⟩ := hname.taken_ok f
    obtain ⟨f', hrest⟩ := ih hnames f₁
    exact ⟨f', bind_eq_ok.2 ⟨_, hfirst, hrest⟩⟩

variable (a c) in
/-- The report with the advice about names. -/
def reportOn (r : Report) (names : List String) : Report :=
  names.foldl (fun r name => r.add (resourceOf name) (adviceOn a c name)) r

/-- The report is about the names that were taken up. -/
lemma report_of_takenAll (h : takenAll a o c f names = .ok f') (hclean : o.clean = false) :
    f'.report = reportOn a c f.report names := by
  induction names generalizing f with
  | nil =>
    obtain rfl := Except.ok.inj h
    rfl
  | cons name names ih =>
    obtain ⟨⟨f₁, included⟩, hfirst, hrest⟩ := bind_eq_ok.1 h
    rw [ih hrest, (taken_eq_ok hfirst).2 hclean]
    rfl

/-- **The number of pieces of advice is the sum over the names.** -/
lemma count_reportOn {r : Report} (h : r.Distinct) (names : List String) :
    (reportOn a c r names).count = r.count + (names.map fun name => (adviceOn a c name).length).sum := by
  induction names generalizing r with
  | nil => rfl
  | cons name names ih =>
    change (reportOn a c (r.add _ _) names).count = _
    rw [ih (h.add _ _), h.count_add, List.map_cons, List.sum_cons, Nat.add_assoc]

end CommandLine

end MarkupLint
