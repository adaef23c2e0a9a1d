import MarkupLint.Proofs.CommandLine.Findings

/-!
# Exit codes

A run in which nothing fails takes up the names that can be reached from the command line, each of them once, and ends
with the number of pieces of advice about them, as far as an exit code goes.  This holds on every steady host.
-/

namespace MarkupLint.CommandLine

variable {σ : Type} {host : Host (StateM σ)} {states : Bool → σ → Prop} {unread : Bool} {a : Host.Answers} {o : Options}
  {c : Config} {f : Findings} {args : List String}

/-- The map of a run can be written, if there is to be one. -/
def CanWriteMap (host : Host (StateM σ)) (states : Bool → σ → Prop) (o : Options) : Prop :=
  ∀ file, o.map.filter (!·.isEmpty) = some file → ∀ bytes unread w, states unread w →
    ((host.write (.ofText file.toList) bytes).run w).1 = .ok ()

/-- Whether a file can be written does not depend on its bytes. -/
lemma isOk_write (t : Tree) (p : Path) (bytes other : List UInt8) :
    (t.write p bytes).isOk = (t.write p other).isOk := by
  unfold Tree.write
  cases t.makeDirectories p.parent [] p.parent.names with
  | error e => rfl
  | ok t =>
    dsimp only [bind, Except.bind]
    cases t.locate p with
    | error e => rfl
    | ok place =>
      dsimp only
      split <;> rfl

/-- On a tree, the map can be written if its file can. -/
lemma canWriteMap_of_isOk {t : Tree} {input : Text}
    (h : ∀ file, o.map.filter (!·.isEmpty) = some file → (t.write (.ofText file.toList) []).isOk = true) :
    CanWriteMap treeHost (StateOf t input) o := by
  rintro file hfile bytes unread ⟨_, left⟩ ⟨rfl, -⟩
  obtain ⟨after, hafter⟩ := exists_of_isOk ((isOk_write _ _ bytes []).trans (h file hfile))
  dsimp only [treeHost]
  rw [StateT.run_bind, StateT.run_get, pure_bind]
  dsimp only at hafter ⊢
  rw [hafter]
  rfl

/-- What a run does after its loop. -/
def conclude (host : Host (StateM σ)) (o : Options) (c : Config) (f : Findings) : Session (StateM σ) Nat := do
  if let some file := o.map.filter (!·.isEmpty) then
    ask (host.write (.ofText file.toList) (Text.toUtf8 (Json.obj f.maps).pretty.toList))
    note [⟨.info, s!"Wrote correspondence map to {file}"⟩]
  if o.clean then return 0
  print (f.report.render c.output c.color (c.languageOf (o.files.head?.getD "").toList).code)
  return if c.ci then 0 else min f.report.count maxExitCode

/-- The exit code for what has been found. -/
def exitCode (o : Options) (c : Config) (advice : Nat) : Nat := if o.clean || c.ci then 0 else min advice maxExitCode

/-- A run reads its settings, goes through its loop and concludes. -/
lemma runSession_eq (host : Host (StateM σ)) (o : Options) :
    runSession host o =
      (if o.noConfig then pure {} else loadConfig host) >>= fun base =>
      note ((base.overlay o).languageNotes (o.files.head?.getD "").toList) >>= fun _ =>
      processAll host o (base.overlay o) (o.files.length + nameBound) [] ⟨.empty, []⟩ o.files >>=
      conclude host o (base.overlay o) := by
  unfold runSession
  cases o.noConfig with
  | true => rfl
  | false => rfl

lemma conclude_yields (hmap : CanWriteMap host states o) (f : Findings) :
    Yields (conclude host o c f) (states unread) (.ok (exitCode o c f.report.count)) fun _ => True := by
  have hend : Yields (do
      if o.clean then return 0
      print (f.report.render c.output c.color (c.languageOf (o.files.head?.getD "").toList).code)
      return if c.ci then 0 else min f.report.count maxExitCode : Session (StateM σ) Nat) (fun _ => True)
      (.ok (exitCode o c f.report.count)) fun _ => True := by
    unfold exitCode
    cases o.clean with
    | true => exact yields_pure _ _
    | false => exact .print _ (yields_pure _ _)
  unfold conclude
  cases hfile : o.map.filter (!·.isEmpty) with
  | none => exact hend.weaken fun _ _ => trivial
  | some file =>
    have hwrite : Yields (ask (host.write (.ofText file.toList) (Text.toUtf8 (Json.obj f.maps).pretty.toList)))
        (states unread) (.ok ()) fun _ => True :=
      yields_ask fun w hw => ⟨_, Prod.ext (hmap file hfile _ _ w hw) rfl, trivial⟩
    exact hwrite.andThen (.note _ hend)

/-- The exit code of a run whose loop comes to its end. -/
lemma runSession_yields (h : host.Steady a states) (hc : settingsOn a o = .ok c) (hmap : CanWriteMap host states o)
    (hloop : Yields (processAll host o c (o.files.length + nameBound) [] ⟨.empty, []⟩ o.files) (states true)
      (.ok f) (states unread)) :
    Yields (runSession host o) (states true) (.ok (exitCode o c f.report.count)) fun _ => True := by
  obtain ⟨base, hbase, hover⟩ := bind_eq_ok.1 hc
  obtain rfl := Except.ok.inj hover
  have hsettings : Yields (if o.noConfig then pure {} else loadConfig host) (states true) (.ok base) (states true) :=
    hbase ▸ base_yields h
  rw [runSession_eq]
  exact hsettings.andThen (.note _ (hloop.andThen (conclude_yields hmap f)))

/-- The result of a run is that of its session. -/
lemma result_of_yields {before after : σ → Prop} {code : Nat} {w : σ} (hparse : parse args = .ok o)
    (h : Yields (runSession host o) before (.ok code) after) (hw : before w) :
    ((run host args).run w).1.result = .ok code := by
  obtain ⟨τ, w', hexec, -⟩ := h {} w hw
  unfold exec at hexec
  unfold run
  simp only [hparse, StateT.run_bind, hexec]
  rfl

/-- **A run covers what can be reached.**  Suppose nothing fails about the names that can be reached from the command
line.  Then the run takes up these names and no others, each of them once and those of the command line first, and its
loop ends with findings about them.  If its map can be written, the exit code is the number of pieces of advice about
all of them, at most `maxExitCode`, unless the run is to clean or its settings let it end well in any case. -/
theorem run_covers_reachable (h : host.Steady a states) {w : σ} (hw : states true w) (hparse : parse args = .ok o)
    (hc : settingsOn a o = .ok c)
    (hok : ∀ name, Reachable (includesOn a c) o.files name → Untroubled a o c name) :
    ∃ visited, Traversed host states a o c visited ∧
      (∃ f unread, Yields (processAll host o c (o.files.length + nameBound) [] ⟨.empty, []⟩ o.files) (states true)
        (.ok f) (states unread)) ∧
      (CanWriteMap host states o → ((run host args).run w).1.result =
        .ok (exitCode o c (visited.map fun name => (adviceOn a c name).length).sum)) := by
  obtain ⟨visited, hvisited⟩ := exists_traversed h o c
  obtain ⟨f, hf⟩ := takenAll_ok (fun name hname => hok name ((hvisited.mem_iff name).1 hname)) ⟨.empty, []⟩
  have hloop := hvisited.yields h hvisited.length_le ⟨.empty, []⟩
  rw [hf] at hloop
  refine ⟨visited, hvisited, ⟨f, _, hloop⟩, fun hmap => ?_⟩
  rw [result_of_yields hparse (runSession_yields h hc hmap hloop) hw]
  cases hclean : o.clean with
  | true => simp [exitCode, hclean]
  | false =>
    have hcount : f.report.count = (visited.map fun name => (adviceOn a c name).length).sum := by
      rw [report_of_takenAll hf hclean, count_reportOn Report.distinct_empty]
      exact Nat.zero_add _
    rw [hcount]

/-! ## Small runs -/

/-- What can be reached from one file that includes nothing is that file. -/
lemma reachable_alone {name : String} (hfiles : o.files = [name]) (hnone : includesOn a c name = []) :
    ∀ n ∈ o.files, ∀ m ∈ includesOn a c n, m ∈ o.files := by
  rw [hfiles]
  intro n hn m hm
  obtain rfl := List.mem_singleton.1 hn
  rw [hnone] at hm
  cases hm

lemma Traversed.sum_alone {name : String} {visited : List String} (h : Traversed host states a o c visited)
    (hfiles : o.files = [name]) (hnone : includesOn a c name = []) :
    (visited.map fun name => (adviceOn a c name).length).sum = (adviceOn a c name).length := by
  obtain rfl : visited = [name] := by
    rw [h.eq_eraseDups (reachable_alone hfiles hnone), hfiles]
    rfl
  exact Nat.add_zero _

lemma untroubled_alone {name other : String} (hfiles : o.files = [name]) (hnone : includesOn a c name = [])
    (hok : Untroubled a o c name) (h : Reachable (includesOn a c) o.files other) : Untroubled a o c other := by
  have hmem : other ∈ o.files := h.of_closed (fun n hn => hn) (reachable_alone hfiles hnone)
  rw [hfiles] at hmem
  obtain rfl := List.mem_singleton.1 hmem
  exact hok

/-- The options of a run that cleans the files of `cyclic`, of which one is given twice. -/
def cleaning : Options := { files := ["main.tex", "main.tex"], clean := true, noConfig := true }

lemma untroubled_cyclic : ∀ name ∈ cyclicNames "", Untroubled (answersOf cyclic []) cleaning {} name := by
  decide +kernel

/-- The options of a run that lints one file, which it names from the root, and writes its map. -/
def linting : Options := { files := ["/work/a.txt"], noConfig := true, map := "maps/a.json" }

/-- Two files that include each other are both taken up, and a file about which there is one piece of advice gives the
exit code one, also when its map is written. -/
theorem small_trees_covered :
    (∃ visited, Traversed treeHost (StateOf cyclic []) (answersOf cyclic []) cleaning {} visited ∧
      "chap.tex" ∈ visited) ∧
      (runOnTree repeating [] ["--no-config", "--map", "maps/a.json", "/work/a.txt"]).1.result = .ok 1 := by
  constructor
  · have hparse : parse ["--no-config", "--clean", "main.tex", "main.tex"] = .ok cleaning := by decide +kernel
    obtain ⟨visited, hvisited, -, -⟩ := run_covers_reachable (treeHost_steady cyclic []) (stateOf_start ..) hparse rfl
      fun name hname => untroubled_cyclic name (mem_of_reachable_cyclic (by decide) (by decide) hname)
    have hmain : Reachable (includesOn (answersOf cyclic []) {}) cleaning.files "main.tex" := .given (by decide)
    refine ⟨visited, hvisited, (hvisited.mem_iff _).2 (hmain.included ?_)⟩
    have hincluded : (includedOn (answersOf cyclic []) {} "main.tex").toOption = some ["chap.tex"] :=
      (includedOn_cyclic "" (by decide)).1
    rw [includesOn, hincluded]
    exact List.mem_singleton_self _
  · have hparse : parse ["--no-config", "--map", "maps/a.json", "/work/a.txt"] = .ok linting := by decide +kernel
    have hc : settingsOn (answersOf repeating []) linting = .ok {} := rfl
    have hnone : includesOn (answersOf repeating []) {} "/work/a.txt" = [] := by decide +kernel
    have hok : Untroubled (answersOf repeating []) linting {} "/work/a.txt" := by decide +kernel
    have hone : (adviceOn (answersOf repeating []) {} "/work/a.txt").length = 1 := by decide +kernel
    obtain ⟨visited, hvisited, -, hexit⟩ := run_covers_reachable (treeHost_steady repeating []) (stateOf_start ..)
      hparse hc fun name => untroubled_alone rfl hnone hok
    have hmap : CanWriteMap treeHost (StateOf repeating []) linting := by
      refine canWriteMap_of_isOk fun file hfile => ?_
      obtain rfl : "maps/a.json" = file := Option.some.inj hfile
      decide +kernel
    have hexit := hexit hmap
    rw [hvisited.sum_alone rfl hnone, hone] at hexit
    exact hexit

/-- A run on a tree, with neither `--clean` nor `--ci`, has no trouble with what can be reached, finds pieces of advice
about it, and ends with an exit code. -/
structure EndsWith (t : Tree) (args : List String) (o : Options) (c : Config) (found code : Nat) : Prop where
  /-- The arguments ask for the options. -/
  parse_eq : parse args = .ok o
  /-- These are the settings. -/
  settings_eq : settingsOn (answersOf t []) o = .ok c
  /-- The files are not to be cleaned. -/
  clean_eq : o.clean = false
  /-- The arguments do not ask for a good end in any case. -/
  ci_eq : o.ci = false
  /-- Nothing fails about what can be reached. -/
  untroubled : ∀ name, Reachable (includesOn (answersOf t []) c) o.files name → Untroubled (answersOf t []) o c name
  /-- The number of pieces of advice. -/
  sum_eq : ∀ visited, Traversed treeHost (StateOf t []) (answersOf t []) o c visited →
    (visited.map fun name => (adviceOn (answersOf t []) c name).length).sum = found
  /-- The exit code. -/
  result_eq : (runOnTree t [] args).1.result.toOption = some code

/-- A file about which there is no advice. -/
def calm : Tree := treeOf [("a.txt", "a")]

/-- The options of a run that lints one file and is to write a map in the place of a directory. -/
def mapping : Options := { files := ["a.txt"], noConfig := true, map := "." }

/-- A file about which there is one piece of advice, beside settings that let a run end well in any case. -/
def lenient : Tree := treeOf [(".annolint.json", "\x7b\"ci\": true\x7d"), ("a.txt", "a a")]

/-- A map that cannot be written ends the run with the exit code one, though there is no advice; and settings let a run
end with the exit code zero, though there is advice. -/
theorem map_and_settings_break_exit_code :
    EndsWith calm ["--no-config", "--map", ".", "a.txt"] mapping {} 0 1 ∧
      EndsWith lenient ["a.txt"] { files := ["a.txt"] } { ci := true } 1 0 := by
  constructor
  · have hnone : includesOn (answersOf calm []) {} "a.txt" = [] := by decide +kernel
    have hok : Untroubled (answersOf calm []) mapping {} "a.txt" := by decide +kernel
    have hzero : (adviceOn (answersOf calm []) {} "a.txt").length = 0 := by decide +kernel
    refine ⟨by decide +kernel, rfl, rfl, rfl, fun name => untroubled_alone rfl hnone hok, fun visited h => ?_,
      by decide +kernel⟩
    rw [h.sum_alone rfl hnone, hzero]
  · have hsettings : settingsOn (answersOf lenient []) { files := ["a.txt"] } = .ok { ci := true } :=
      eq_ok_of_toOption (by decide +kernel)
    have hnone : includesOn (answersOf lenient []) { ci := true } "a.txt" = [] := by decide +kernel
    have hok : Untroubled (answersOf lenient []) { files := ["a.txt"] } { ci := true } "a.txt" := by decide +kernel
    have hone : (adviceOn (answersOf lenient []) { ci := true } "a.txt").length = 1 := by decide +kernel
    refine ⟨by decide +kernel, hsettings, rfl, rfl, fun name => untroubled_alone rfl hnone hok, fun visited h => ?_,
      by decide +kernel⟩
    rw [h.sum_alone rfl hnone, hone]

end MarkupLint.CommandLine
