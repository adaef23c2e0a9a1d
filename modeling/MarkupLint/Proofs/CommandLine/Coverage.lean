import Mathlib.Data.List.Perm.Subperm
import MarkupLint.Proofs.CommandLine.Session
import MarkupLint.Proofs.CommandLine.Traversal

/-!
# What a run takes up

The loop of a run takes names from a queue that grows on the way.  On a steady host it is the same as going through a
fixed list of names: those that can be reached from the command line, each of them once.  `exec_processAll` says so for
any bound on the number of names; the names that are included are names of files, of which there are fewer than
`nameBound`, so that the bound of a run is never in the way (`exists_traversed`).
-/

namespace MarkupLint.CommandLine

variable {σ : Type} (host : Host (StateM σ)) (states : Bool → σ → Prop) (a : Host.Answers) (o : Options) (c : Config)

/-! ## What a name gives -/

/-- The cleaned document of a name. -/
def cleanedOn (name : String) : Except Failure Document := do
  let (l, d) ← prepared a c name
  (l.clean d).mapError .lint

/-- The advice about the document of a name. -/
def lintedOn (name : String) : Except Failure (List Advice) := do
  let (l, d) ← prepared a c name
  (l.evaluate d).mapError .lint

/-- The names that a name includes. -/
def includedOn (name : String) : Except Failure (List String) := do
  let (l, d) ← prepared a c name
  includedBy a name l d

/-- The advice about a name, as far as it can be had. -/
def adviceOn (name : String) : List Advice := (lintedOn a c name).toOption.getD []

/-- The names that a name includes, as far as they can be had. -/
def includesOn (name : String) : List String := (includedOn a c name).toOption.getD []

/-- Nothing fails about a name: it is read, cleaned and, if that is asked for, linted, and its included files are
found or not. -/
def Untroubled (name : String) : Prop :=
  (cleanedOn a c name).isOk ∧ (o.clean = false → (lintedOn a c name).isOk) ∧
    (includedOn a c name).isOk

instance (name : String) : Decidable (Untroubled a o c name) :=
  inferInstanceAs (Decidable (_ ∧ (_ → _) ∧ _))

variable {host states a o c} {f f' : Findings} {name : String} {included : List String}

lemma bind_eq_ok {ε α β : Type} {x : Except ε α} {k : α → Except ε β} {b : β} :
    x >>= k = .ok b ↔ ∃ a, x = .ok a ∧ k a = .ok b := by
  cases x with
  | error e => simp [bind, Except.bind]
  | ok a => simp [bind, Except.bind]

lemma exists_of_isOk {ε α : Type} {x : Except ε α} (h : x.isOk = true) : ∃ a, x = .ok a := by
  cases x with
  | error e => cases h
  | ok a => exact ⟨a, rfl⟩

lemma eq_ok_of_toOption {ε α : Type} {x : Except ε α} {a : α} (h : x.toOption = some a) : x = .ok a := by
  cases x with
  | error e => cases h
  | ok b => exact congrArg Except.ok (Option.some.inj h)

lemma mapError_eq_ok {ε ε' α : Type} {x : Except ε α} {g : ε → ε'} {a : α} :
    x.mapError g = .ok a ↔ x = .ok a := by
  cases x with
  | error e => simp [Except.mapError]
  | ok b => simp [Except.mapError]

lemma resource_of_prepared {l : Linter} {d : Document} (h : prepared a c name = .ok (l, d)) :
    d.resource = resourceOf name := by
  obtain ⟨table, -, h⟩ := bind_eq_ok.1 h
  obtain ⟨text, -, h⟩ := bind_eq_ok.1 h
  obtain ⟨-, rfl⟩ : linterFor c name table = l ∧ documentFor name text = d := by simpa [pure, Except.pure] using h
  rfl

lemma report_of_mapped {l : Linter} {d : Document} (h : mapped o f name l d = .ok f') : f'.report = f.report := by
  unfold mapped at h
  split at h
  · obtain ⟨cleaned, -, h⟩ := bind_eq_ok.1 h
    obtain rfl := Except.ok.inj h
    rfl
  · obtain rfl := Except.ok.inj h
    rfl

lemma report_of_linted {l : Linter} {d : Document} (h : linted o f l d = .ok f') (hclean : o.clean = false) :
    ∃ advice, (l.evaluate d).mapError Failure.lint = .ok advice ∧ f'.report = f.report.add d.resource advice := by
  rw [linted, hclean, if_neg Bool.false_ne_true] at h
  obtain ⟨advice, hadvice, h⟩ := bind_eq_ok.1 h
  obtain rfl := Except.ok.inj h
  exact ⟨advice, hadvice, rfl⟩

/-- What a name gives when nothing fails: what it includes, and its advice for the report. -/
lemma taken_eq_ok (h : taken a o c f name = .ok (f', included)) :
    includesOn a c name = included ∧
      (o.clean = false → f'.report = f.report.add (resourceOf name) (adviceOn a c name)) := by
  obtain ⟨⟨l, d⟩, hprepared, h⟩ := bind_eq_ok.1 h
  obtain ⟨f₁, hmapped, h⟩ := bind_eq_ok.1 h
  obtain ⟨f₂, hlinted, h⟩ := bind_eq_ok.1 h
  obtain ⟨more, hincluded, h⟩ := bind_eq_ok.1 h
  obtain ⟨rfl, rfl⟩ : f₂ = f' ∧ more = included := by simpa [pure, Except.pure] using h
  constructor
  · have hmore : includedOn a c name = .ok more := bind_eq_ok.2 ⟨(l, d), hprepared, hincluded⟩
    rw [includesOn, hmore]
    rfl
  · intro hclean
    obtain ⟨advice, hadvice, hreport⟩ := report_of_linted hlinted hclean
    have hall : lintedOn a c name = .ok advice := bind_eq_ok.2 ⟨(l, d), hprepared, hadvice⟩
    rw [hreport, report_of_mapped hmapped, resource_of_prepared hprepared, adviceOn, hall]
    rfl

/-- A name about which nothing fails gives something. -/
lemma Untroubled.taken_ok (h : Untroubled a o c name) (f : Findings) :
    ∃ f', taken a o c f name = .ok (f', includesOn a c name) := by
  obtain ⟨hcleaned, hlinted, hincluded⟩ := h
  obtain ⟨cleaned, hcleaned⟩ := exists_of_isOk hcleaned
  obtain ⟨included, hincluded⟩ := exists_of_isOk hincluded
  obtain ⟨⟨l, d⟩, hprepared, hcleaned⟩ := bind_eq_ok.1 hcleaned
  have hmapped : ∃ f₁, mapped o f name l d = .ok f₁ := by
    unfold mapped
    split
    · exact ⟨_, bind_eq_ok.2 ⟨cleaned, hcleaned, rfl⟩⟩
    · exact ⟨f, rfl⟩
  obtain ⟨f₁, hmapped⟩ := hmapped
  have hlinted' : ∃ f₂, linted o f₁ l d = .ok f₂ := by
    unfold linted
    cases hclean : o.clean with
    | true => exact ⟨f₁, rfl⟩
    | false =>
      obtain ⟨advice, hadvice⟩ := exists_of_isOk (hlinted hclean)
      rw [lintedOn, hprepared] at hadvice
      exact ⟨_, bind_eq_ok.2 ⟨advice, hadvice, rfl⟩⟩
  obtain ⟨f₂, hlinted'⟩ := hlinted'
  have hmore : includedBy a name l d = .ok (includesOn a c name) := by
    rw [includesOn, hincluded]
    rw [includedOn, hprepared] at hincluded
    exact hincluded
  refine ⟨f₂, ?_⟩
  exact bind_eq_ok.2 ⟨(l, d), hprepared, bind_eq_ok.2 ⟨f₁, hmapped, bind_eq_ok.2 ⟨f₂, hlinted',
    bind_eq_ok.2 ⟨_, hmore, rfl⟩⟩⟩⟩

/-! ## The loop -/

section

variable {m : Type → Type} [Monad m]

/-- Takes up the given names, one after the other. -/
def processEach (host : Host m) (o : Options) (c : Config) : Findings → List String → Session m Findings
  | f, [] => return f
  | f, name :: names => do
    let (f, _) ← process host o c f name
    processEach host o c f names

end

variable {unread : Bool} {τ : Transcript} {w : σ}

/-- **The loop goes through a list of names**: those that `visits` tells.  The input is there until its name has been
seen. -/
theorem exec_processAll (h : host.Steady a states) (bound : Nat) {seen : List String} (hw : states unread w)
    (hunread : inputName ∉ seen → unread = true) (queue : List String) :
    exec (processAll host o c bound seen f queue) τ w =
      exec (processEach host o c f (visits (includesOn a c) bound seen queue)) τ w := by
  induction bound generalizing seen f queue τ w unread with
  | zero => rfl
  | succ bound ih =>
    rw [processAll, visits]
    cases hdrop : queue.dropWhile seen.contains with
    | nil => rfl
    | cons name rest =>
      dsimp only
      obtain ⟨hname, -⟩ := exists_of_dropWhile_eq_cons hdrop
      obtain ⟨τ', w', hexec, hafter⟩ := process_yields h f (fun hinput => hunread (hinput ▸ hname)) τ w hw
      rw [processEach]
      cases hresult : taken a o c f name with
      | error e =>
        rw [hresult] at hexec
        rw [exec_bind_error hexec, exec_bind_error hexec]
      | ok found =>
        obtain ⟨f', included⟩ := found
        rw [hresult] at hexec hafter
        obtain ⟨rfl, -⟩ := taken_eq_ok hresult
        rw [exec_bind_ok hexec, exec_bind_ok hexec]
        refine ih (hafter ⟨_, rfl⟩) (fun hseen => ?_) _
        -- the input is used up only by its own name
        obtain ⟨hne, hseen⟩ := not_or.1 (List.mem_cons.not.1 hseen)
        rw [unreadAfter, if_neg (Ne.symm hne), hunread hseen]

/-! ## The number of names -/

/-- What is included is written as the path of a file. -/
lemma exists_of_mem_existing {files : List Text} (h : existing a name files = .ok included) {other : String}
    (hother : other ∈ included) :
    ∃ path : Path, path.Proper ∧ a.isFile path = .ok true ∧ other = String.ofList path.render := by
  induction files generalizing included with
  | nil =>
    obtain rfl := Except.ok.inj h
    cases hother
  | cons file files ih =>
    obtain ⟨found, hfound, h⟩ := bind_eq_ok.1 h
    obtain ⟨more, hmore, h⟩ := bind_eq_ok.1 h
    obtain rfl := Except.ok.inj h
    split at hother
    · next hyes =>
      rcases List.mem_cons.1 hother with rfl | hother
      · refine ⟨_, (Path.ofText_proper _).parent.join (Path.ofText_proper _), ?_, rfl⟩
        rw [mapError_eq_ok] at hfound
        rw [hfound, hyes]
      · exact ih hmore hother
    · exact ih hmore hother

lemma exists_of_mem_includesOn {other : String} (h : other ∈ includesOn a c name) :
    ∃ path : Path, path.Proper ∧ a.isFile path = .ok true ∧ other = String.ofList path.render := by
  unfold includesOn at h
  cases hincluded : includedOn a c name with
  | error e =>
    rw [hincluded] at h
    cases h
  | ok included =>
    rw [hincluded] at h
    obtain ⟨⟨l, d⟩, -, hincluded⟩ := bind_eq_ok.1 hincluded
    change includedBy a name l d = .ok included at hincluded
    unfold includedBy at hincluded
    split at hincluded
    · obtain rfl := Except.ok.inj hincluded
      cases h
    · exact exists_of_mem_existing hincluded h

lemma nameBound_eq : nameBound = 256 ^ (Path.maxLength + 1) := by
  have hsize : Path.maxLength + 1 = 32 * 128 := rfl
  have hbase : (256 : Nat) ^ 32 = Nat.pow 2 256 := rfl
  rw [hsize, Nat.pow_mul, hbase]
  rfl

/-- A name that can be reached stands on the command line, or is short. -/
lemma short_of_reachable (hsteady : host.Steady a states) {names : List String}
    (h : Reachable (includesOn a c) names name) (hname : name ∉ names) :
    (Text.toUtf8 name.toList).length ≤ Path.maxLength := by
  cases h with
  | given h => exact absurd h hname
  | included _ hother =>
    obtain ⟨path, -, hfile, rfl⟩ := exists_of_mem_includesOn hother
    rw [String.toList_ofList]
    exact hsteady.short hfile

/-- **The bound of a run is large enough.** -/
lemma length_le_of_reachable (h : host.Steady a states) {names found : List String} (hnodup : found.Nodup)
    (hfound : ∀ n ∈ found, Reachable (includesOn a c) names n) :
    found.length ≤ names.length + nameBound := by
  have hgiven : (found.filter (names.contains ·)).length ≤ names.length := by
    refine ((hnodup.filter _).subperm fun n hn => ?_).length_le
    simpa using (List.mem_filter.1 hn).2
  have hother : (found.filter (!names.contains ·)).length ≤ nameBound := by
    rw [nameBound_eq]
    refine Text.length_le_of_short (hnodup.filter _) fun n hn => ?_
    obtain ⟨hn, hnot⟩ := List.mem_filter.1 hn
    exact short_of_reachable h (hfound n hn) (by simpa using hnot)
  calc found.length
      = (found.filter (names.contains ·)).length + (found.filter (!names.contains ·)).length :=
        List.length_eq_length_filter_add _
    _ ≤ names.length + nameBound := Nat.add_le_add hgiven hother

variable (host states a o c) in
/-- **The traversal of a run.**  The names are those that can be reached from the command line through what is
included; each is there once, and those of the command line come first.  The loop goes through them and is over then:
neither the bound of a run nor a larger one makes a difference. -/
structure Traversed (visited : List String) : Prop where
  /-- The loop is over after these names. -/
  runs : ∀ bound ≥ visited.length, ∀ f τ w, states true w →
    exec (processAll host o c bound [] f o.files) τ w = exec (processEach host o c f visited) τ w
  /-- A run goes as far as that. -/
  length_le : visited.length ≤ o.files.length + nameBound
  /-- No name is taken up twice. -/
  nodup : visited.Nodup
  /-- The names are those that can be reached. -/
  mem_iff : ∀ name, name ∈ visited ↔ Reachable (includesOn a c) o.files name
  /-- The names of the command line come first, in their order. -/
  first : o.files.eraseDups <+: visited
  /-- They are no more than the names of any set that holds those of the command line, and what they include. -/
  length_le_card : ∀ s : Finset String, (∀ n ∈ o.files, n ∈ s) →
    (∀ n ∈ s, ∀ m ∈ includesOn a c n, m ∈ s) → visited.length ≤ s.card

/-- **Every run has a traversal.** -/
theorem exists_traversed (h : host.Steady a states) (o : Options) (c : Config) :
    ∃ visited, Traversed host states a o c visited := by
  have hlimit : ∀ found : List String, found.Nodup →
      (∀ n ∈ found, Reachable (includesOn a c) o.files n) → found.length ≤ o.files.length + nameBound :=
    fun found => length_le_of_reachable h
  obtain ⟨visited, hnodup, hmem, hfirst, hvisits⟩ := exists_visits (Nat.le_add_right _ _) hlimit
  refine ⟨visited, ?_, ?_, hnodup, hmem, hfirst, ?_⟩
  · intro bound hbound f τ w hw
    rw [exec_processAll h bound hw (fun _ => rfl), hvisits bound hbound]
  · exact hlimit visited hnodup fun n hn => (hmem n).1 hn
  · intro s hnames hclosed
    exact length_le_card hnodup (fun n hn => (hmem n).1 hn) s hnames hclosed

/-- Where nothing more is included, the names are those of the command line. -/
lemma Traversed.eq_eraseDups {visited : List String} (h : Traversed host states a o c visited)
    (hclosed : ∀ n ∈ o.files, ∀ m ∈ includesOn a c n, m ∈ o.files) : visited = o.files.eraseDups := by
  have hcard : visited.length ≤ o.files.eraseDups.toFinset.card := by
    refine h.length_le_card _ (fun n hn => ?_) fun n hn m hm => ?_
    · simpa using hn
    · simp only [List.mem_toFinset, List.mem_eraseDups] at hn ⊢
      exact hclosed n hn m hm
  exact (h.first.eq_of_length_le (hcard.trans (List.toFinset_card_le _))).symm

/-! ## Small trees -/

/-- Files in one directory, with texts in ASCII. -/
def treeOf (files : List (String × String)) : Tree :=
  .below ["work".toList] (files.map fun (name, text) => ([name.toList], text.toList.map (·.toNat.toUInt8)))

/-- Two files that include each other. -/
def cyclic : Tree := treeOf [("main.tex", "\\input\x7bchap\x7d"), ("chap.tex", "\\input\x7bmain\x7d")]

/-- A file about which there is one piece of advice. -/
def repeating : Tree := treeOf [("a.txt", "a a")]

/-- The names of these files, from their directory or from the root. -/
def cyclicNames (directory : String) : List String := [directory ++ "main.tex", directory ++ "chap.tex"]

lemma includedOn_cyclic : ∀ directory ∈ ["", "/work/"],
    (includedOn (answersOf cyclic []) {} (directory ++ "main.tex")).toOption = some [directory ++ "chap.tex"] ∧
      (includedOn (answersOf cyclic []) {} (directory ++ "chap.tex")).toOption = some [directory ++ "main.tex"] := by
  decide +kernel

lemma mem_of_reachable_cyclic {directory : String} (hdirectory : directory ∈ ["", "/work/"]) {names : List String}
    (hnames : ∀ n ∈ names, n ∈ cyclicNames directory)
    (h : Reachable (includesOn (answersOf cyclic []) {}) names name) : name ∈ cyclicNames directory := by
  obtain ⟨hmain, hchap⟩ := includedOn_cyclic directory hdirectory
  refine h.of_closed hnames fun n hn m hm => ?_
  simp only [cyclicNames, List.mem_cons, List.not_mem_nil, or_false] at hn ⊢
  rcases hn with rfl | rfl
  · rw [includesOn, hmain] at hm
    exact Or.inr (List.mem_singleton.1 hm)
  · rw [includesOn, hchap] at hm
    exact Or.inl (List.mem_singleton.1 hm)

end MarkupLint.CommandLine
