import MarkupLint.Proofs.CommandLine.Findings

/-!
# Files under several names

A run tells files apart by their names.  A file has one plain name only that starts in the working directory, and one
that starts at the root, so that it is taken up once under names of one kind, and the report has one entry for each name
(`files_taken_up_once`).  A file that is spelled in two ways is taken up twice.
-/

namespace MarkupLint.CommandLine

variable {a : Host.Answers} {o : Options} {c : Config} {name : String} {names : List String}

/-- A name that is included is plain, unless it has double periods. -/
lemma plain_of_reachable (h : Reachable (includesOn a c) names name) :
    name ∈ names ∨ ['.', '.'] ∈ (Path.ofText name.toList).names ∨ Tree.Plain name := by
  cases h with
  | given h => exact Or.inl h
  | included _ hother =>
    obtain ⟨path, hproper, -, rfl⟩ := exists_of_mem_includesOn hother
    refine Or.inr (or_iff_not_imp_left.2 fun hparent => ⟨?_, hparent⟩)
    rw [String.toList_ofList, Path.ofText_render hproper]

lemma ne_empty_of_reachable (h : Reachable (includesOn a c) names name) (hnames : "" ∉ names) : name ≠ "" := by
  rintro rfl
  rcases plain_of_reachable h with h | h | h
  · exact hnames h
  · exact absurd h (by decide)
  · exact absurd h (by decide)

/-- Names that are not empty have documents of different names in a report. -/
lemma resourceOf_inj {x y : String} (hx : x ≠ "") (hy : y ≠ "") (h : resourceOf x = resourceOf y) : x = y := by
  unfold resourceOf at h
  split at h
  · next hinput =>
    split at h
    · next hinput' => rw [hinput, hinput']
    · exact absurd h.symm hy
  · split at h
    · exact absurd h hx
    · exact h

/-- The report has an entry for each name. -/
lemma entries_reportOn {r : Report} (hnodup : (r.entries.map (·.1) ++ names.map resourceOf).Nodup) :
    (reportOn a c r names).entries = r.entries ++ names.map fun name => (resourceOf name, adviceOn a c name) := by
  induction names generalizing r with
  | nil => exact (List.append_nil _).symm
  | cons name names ih =>
    have hnot : resourceOf name ∉ r.entries.map (·.1) := by
      intro hmem
      exact (List.nodup_append.1 hnodup).2.2 _ hmem _ (List.mem_cons_self ..) rfl
    change (reportOn a c (r.add _ _) names).entries = _
    rw [Report.add_of_notMem hnot, ih (by simpa using hnodup), List.append_assoc, List.singleton_append,
      List.map_cons]

/-- **No file is taken up twice** under plain names that start in the same place.  Whatever the files include, the loop
comes to its end, and takes up each name once.  A name that is taken up stands on the command line, has double periods,
or is plain; no two plain names that start alike lead to the same file; and the report has one entry for each name. -/
theorem files_taken_up_once (t : Tree) (input : Text) (o : Options) (c : Config) :
    ∃ visited, Traversed treeHost (StateOf t input) (answersOf t input) o c visited ∧
      (∀ name ∈ visited, name ∈ o.files ∨ ['.', '.'] ∈ (Path.ofText name.toList).names ∨ Tree.Plain name) ∧
      visited.Pairwise (fun x y => Tree.Plain x → Tree.Plain y →
        (Path.ofText x.toList).root = (Path.ofText y.toList).root →
        ∀ place, t.LeadsTo x place → ¬ t.LeadsTo y place) ∧
      ("" ∉ o.files → o.clean = false → ∀ f τ τ' w,
        exec (processAll treeHost o c (o.files.length + nameBound) [] ⟨.empty, []⟩ o.files) τ (t, input) =
          ((.ok f, τ'), w) →
        f.report.entries = visited.map fun name => (resourceOf name, adviceOn (answersOf t input) c name)) := by
  have hsteady := treeHost_steady t input
  obtain ⟨visited, hvisited⟩ := exists_traversed hsteady o c
  have hreach : ∀ name ∈ visited, Reachable (includesOn (answersOf t input) c) o.files name :=
    fun name => (hvisited.mem_iff name).1
  refine ⟨visited, hvisited, fun name hname => plain_of_reachable (hreach name hname), ?_, ?_⟩
  · refine hvisited.nodup.imp fun hne hx hy hroot place htx hty => hne ?_
    exact htx.eq_of_plain hx hy hroot hty
  · intro hempty hclean f τ τ' w hexec
    have hloop := hvisited.yields hsteady hvisited.length_le ⟨.empty, []⟩
    have hnodup : (visited.map resourceOf).Nodup := hvisited.nodup.map_on fun x hx y hy h =>
      resourceOf_inj (ne_empty_of_reachable (hreach x hx) hempty) (ne_empty_of_reachable (hreach y hy) hempty) h
    rw [report_of_takenAll (hloop.eq_of_exec (stateOf_start t input) hexec).symm hclean]
    exact entries_reportOn hnodup

/-- Two files that include each other, one of them given twice from the root, are taken up once each. -/
theorem cyclic_taken_up_once :
    ∃ visited, Traversed treeHost (StateOf cyclic []) (answersOf cyclic [])
        { files := ["/work/main.tex", "/work/main.tex"] } {} visited ∧
      "/work/chap.tex" ∈ visited ∧
      visited.Pairwise fun x y => ∀ place, cyclic.LeadsTo x place → ¬ cyclic.LeadsTo y place := by
  obtain ⟨visited, hvisited, -, honce, -⟩ :=
    files_taken_up_once cyclic [] { files := ["/work/main.tex", "/work/main.tex"] } {}
  have hmain : Reachable (includesOn (answersOf cyclic []) {}) ["/work/main.tex", "/work/main.tex"]
    "/work/main.tex" := .given (by decide)
  have hincluded : (includedOn (answersOf cyclic []) {} "/work/main.tex").toOption = some ["/work/chap.tex"] :=
    (includedOn_cyclic "/work/" (by decide)).1
  have hplain : ∀ name ∈ cyclicNames "/work/", Tree.Plain name ∧ (Path.ofText name.toList).root = ['/'] := by decide
  have hall : ∀ name ∈ visited, Tree.Plain name ∧ (Path.ofText name.toList).root = ['/'] := fun name hname =>
    hplain name (mem_of_reachable_cyclic (by decide) (by decide) ((hvisited.mem_iff name).1 hname))
  refine ⟨visited, hvisited, (hvisited.mem_iff _).2 (hmain.included ?_), ?_⟩
  · rw [includesOn, hincluded]
    exact List.mem_singleton_self _
  · refine honce.imp_of_mem fun hx hy h => h (hall _ hx).1 (hall _ hy).1 ?_
    rw [(hall _ hx).2, (hall _ hy).2]

/-- A file that is spelled in two ways is taken up twice, and its advice is reported twice: with a single period, or from
the working directory and from the root. -/
theorem respelled_file_taken_up_twice :
    (∃ place, repeating.LeadsTo "a.txt" place ∧ repeating.LeadsTo "./a.txt" place ∧
      repeating.LeadsTo "/work/a.txt" place) ∧
      (runOnTree repeating [] ["--no-config", "a.txt"]).1.result.toOption = some 1 ∧
      (runOnTree repeating [] ["--no-config", "a.txt", "./a.txt"]).1.result.toOption = some 2 ∧
      (runOnTree repeating [] ["--no-config", "a.txt", "/work/a.txt"]).1.result.toOption = some 2 := by
  have hbytes : ∃ bytes, repeating.at? ["work".toList, "a.txt".toList] = some (.file bytes) := ⟨_, rfl⟩
  refine ⟨⟨["work".toList, "a.txt".toList], ⟨?_, hbytes⟩, ⟨?_, hbytes⟩, ⟨?_, hbytes⟩⟩, ?_, ?_, ?_⟩
  all_goals decide +kernel

end MarkupLint.CommandLine
