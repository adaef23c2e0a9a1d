import Mathlib.Tactic.Common
import MarkupLint.CommandLine.Run
import MarkupLint.Proofs.Files.Spelling

/-!
# Runs on a steady host

A host is steady if its files stay as they are as long as a run only reads.  What a run does with a file is then a
function of what the host says about its files, of the standard input and of the settings; the log and the output only
grow beside it.  `taken` is that function, and `process_yields` says that it is what `process` computes.  `Yields`
leaves the transcript out, and says nothing of the state of the host after a failure, because the run is over then.

Trees of files are steady (`treeHost_steady`).
-/

namespace MarkupLint

variable {σ : Type}

namespace Host

/-- What a host says about its files, and the text of its standard input. -/
structure Answers where
  /-- The bytes of a file. -/
  read : Path → Except FileError (List UInt8)
  /-- Whether there is a file at a path. -/
  isFile : Path → Except FileError Bool
  /-- The text of the standard input. -/
  input : Text

/-- A host that always says the same about its files as long as nothing is written.  `states` are the states that it
may be in before the standard input is read, and those that it may be in afterwards as well. -/
structure Steady (host : Host (StateM σ)) (a : Answers) (states : Bool → σ → Prop) : Prop where
  /-- A file always has the same bytes, and to read it changes nothing about what is said. -/
  read : ∀ {unread w} (p : Path), states unread w →
    ∃ w', (host.read p).run w = (a.read p, w') ∧ states unread w'
  /-- A file is always there, or never. -/
  isFile : ∀ {unread w} (p : Path), states unread w →
    ∃ w', (host.isFile p).run w = (a.isFile p, w') ∧ states unread w'
  /-- The standard input can be read once. -/
  input : ∀ {w}, states true w → ∃ w', host.input.run w = (a.input, w') ∧ states false w'
  /-- No file is found under a path that is too long. -/
  short : ∀ {p : Path}, a.isFile p = .ok true → (Text.toUtf8 p.render).length ≤ Path.maxLength

end Host

namespace CommandLine

/-- What a part of a run gives, the transcript after it, and the state of the host. -/
def exec {α : Type} (x : Session (StateM σ) α) (transcript : Transcript) (w : σ) :
    (Except Failure α × Transcript) × σ :=
  (x.run.run transcript).run w

/-- A part of a run gives a result in all states `before`, and leaves the host in a state `after` if it succeeds. -/
def Yields {α : Type} (x : Session (StateM σ) α) (before : σ → Prop) (result : Except Failure α)
    (after : σ → Prop) : Prop :=
  ∀ transcript w, before w → ∃ transcript' w', exec x transcript w = ((result, transcript'), w') ∧
    ((∃ v, result = .ok v) → after w')

section

variable {α β : Type} {x : Session (StateM σ) α} {k : α → Session (StateM σ) β} {τ τ' : Transcript} {w w' : σ}
  {before middle after : σ → Prop} {result : Except Failure α} {e : Failure} {v : α}

/-! ## Parts of a run -/

lemma exec_bind_ok (h : exec x τ w = ((.ok v, τ'), w')) : exec (x >>= k) τ w = exec (k v) τ' w' := by
  unfold exec at *
  rw [ExceptT.run_bind, StateT.run_bind, StateT.run_bind, h]
  rfl

lemma exec_bind_error (h : exec x τ w = ((.error e, τ'), w')) :
    exec (x >>= k) τ w = ((.error e, τ'), w') := by
  unfold exec at *
  rw [ExceptT.run_bind, StateT.run_bind, StateT.run_bind, h]
  rfl

/-- What is yielded is what comes out. -/
lemma Yields.eq_of_exec {result' : Except Failure α} (h : Yields x before result after) (hw : before w)
    (hexec : exec x τ w = ((result', τ'), w')) : result' = result := by
  obtain ⟨_, _, hexec', -⟩ := h τ w hw
  exact congrArg (·.1.1) (hexec.symm.trans hexec')

lemma yields_pure (v : α) (before : σ → Prop) : Yields (pure v) before (.ok v) before :=
  fun τ w hw => ⟨τ, w, rfl, fun _ => hw⟩

lemma yields_throw (e : Failure) (k : α → Session (StateM σ) β) (before after : σ → Prop) :
    Yields ((throw e : Session (StateM σ) α) >>= k) before (.error e) after :=
  fun τ w _ => ⟨τ, w, rfl, fun ⟨_, h⟩ => by cases h⟩

lemma Yields.weaken {before' : σ → Prop} (h : Yields x before result after) (hbefore : ∀ w, before' w → before w) :
    Yields x before' result after :=
  fun τ w hw => h τ w (hbefore w hw)

/-- One part after another. -/
lemma Yields.bind {g : α → Except Failure β} (hx : Yields x before result middle)
    (hk : ∀ v, result = .ok v → Yields (k v) middle (g v) after) :
    Yields (x >>= k) before (result >>= g) after := by
  intro τ w hw
  obtain ⟨τ₁, w₁, hexec, hmiddle⟩ := hx τ w hw
  cases hresult : result with
  | error e =>
    rw [hresult] at hexec
    exact ⟨τ₁, w₁, exec_bind_error hexec, fun ⟨_, h⟩ => by cases h⟩
  | ok v =>
    rw [hresult] at hexec
    obtain ⟨τ₂, w₂, hexec₂, hafter⟩ := hk v hresult τ₁ w₁ (hmiddle ⟨v, hresult⟩)
    exact ⟨τ₂, w₂, (exec_bind_ok hexec).trans hexec₂, hafter⟩

/-- One part after another that is known to succeed. -/
lemma Yields.andThen {result : Except Failure β} (hx : Yields x before (.ok v) middle)
    (hk : Yields (k v) middle result after) : Yields (x >>= k) before result after :=
  hx.bind (g := fun _ => result) fun _ h => by obtain rfl := Except.ok.inj h; exact hk

lemma Yields.note {result : Except Failure β} {k : Unit → Session (StateM σ) β} (entries : List LogEntry)
    (h : Yields (k ()) before result after) : Yields (CommandLine.note entries >>= k) before result after := by
  intro τ w hw
  obtain ⟨τ', w', hexec, hafter⟩ := h { τ with log := τ.log ++ entries } w hw
  exact ⟨τ', w', (exec_bind_ok rfl).trans hexec, hafter⟩

lemma Yields.print {result : Except Failure β} {k : Unit → Session (StateM σ) β} (text : String)
    (h : Yields (k ()) before result after) : Yields (CommandLine.print text >>= k) before result after := by
  intro τ w hw
  obtain ⟨τ', w', hexec, hafter⟩ := h { τ with output := τ.output ++ text } w hw
  exact ⟨τ', w', (exec_bind_ok rfl).trans hexec, hafter⟩

/-- Asking the host for something that it always has. -/
lemma yields_lift {question : StateM σ α} (h : ∀ w, before w → ∃ w', question.run w = (v, w') ∧ after w') :
    Yields (liftM question : Session (StateM σ) α) before (.ok v) after := by
  intro τ w hw
  obtain ⟨w', hrun, hafter⟩ := h w hw
  refine ⟨τ, w', ?_, fun _ => hafter⟩
  change ((Except.ok (question.run w).1, τ), (question.run w).2) = _
  rw [hrun]

/-- Asking the host. -/
lemma yields_ask {question : StateM σ (Except FileError α)} {answer : Except FileError α}
    (h : ∀ w, before w → ∃ w', question.run w = (answer, w') ∧ after w') :
    Yields (ask question) before (answer.mapError .file) after := by
  unfold ask
  refine (yields_lift h).andThen ?_
  cases answer with
  | error e => exact yields_throw _ pure _ _
  | ok v => exact yields_pure v after

end

/-! ## What the answers tell -/

variable (a : Host.Answers) (o : Options) (c : Config)

/-- The settings of the working directory. -/
def configOn : Except Failure Config := do
  let found ← (a.isFile configFile).mapError .file
  if found then
    let name := String.ofList configFile.render
    let bytes ← (a.read configFile).mapError fun e => .config (.unreadable name e.message)
    let fields ← (Config.objectOf name bytes).mapError .config
    (Config.ofFields fields).mapError .config
  else return {}

/-- The settings of a run before its options are looked at. -/
def baseOn : Except Failure Config := if o.noConfig then .ok {} else configOn a

/-- The settings of a run. -/
def settingsOn : Except Failure Config := do return (← baseOn a o).overlay o

/-- The table of replacements that the settings name. -/
def tableOn : Except Failure (Option Table) :=
  match c.tableFile? with
  | none => .ok none
  | some file => do
    let bytes ← (a.read (.ofText file.toList)).mapError .file
    return some (.ofLines (Text.ofFile bytes).brokenLines)

/-- The text of a name. -/
def textOn (name : String) : Except Failure Text :=
  if name = inputName then .ok a.input
  else do return .ofFile (← (a.read (.ofText name.toList)).mapError .file)

/-- The linter for a name. -/
def linterFor (name : String) (table : Option Table) : Linter := c.linter (c.languageOf name.toList) table

/-- The name that a report gives the document of a name. -/
def resourceOf (name : String) : String := if name = inputName then "" else name

/-- The document of a name. -/
def documentFor (name : String) (text : Text) : Document := .ofLines text (resourceOf name)

/-- The linter for a name and its document. -/
def prepared (name : String) : Except Failure (Linter × Document) := do
  let table ← tableOn a c
  let text ← textOn a name
  return (linterFor c name table, documentFor name text)

/-- The names of the included files that exist. -/
def existing (name : String) : List Text → Except Failure (List String)
  | [] => .ok []
  | file :: files => do
    let path := (Path.ofText name.toList).parent.join (.ofText file)
    let found ← (a.isFile path).mapError .file
    let more ← existing name files
    return if found then String.ofList path.render :: more else more

/-- The names that a document includes under its name. -/
def includedBy (name : String) (l : Linter) (d : Document) : Except Failure (List String) :=
  if name = inputName then .ok [] else existing a name (l.cleaner.includedFiles d)

/-- Whether a map is to be written. -/
def wantsMap : Bool := o.map.any (!·.isEmpty)

/-- The findings with the mapping of a document, if it is cleaned. -/
def mapped (f : Findings) (name : String) (l : Linter) (d : Document) : Except Failure Findings :=
  if o.clean || wantsMap o then do
    let cleaned ← (l.clean d).mapError .lint
    return { f with maps := Json.insertField f.maps name (mappingJson cleaned.composed) }
  else return f

/-- The findings with the advice about a document, if it is linted. -/
def linted (f : Findings) (l : Linter) (d : Document) : Except Failure Findings :=
  if o.clean then return f
  else do
    let advice ← (l.evaluate d).mapError .lint
    return { f with report := f.report.add d.resource advice }

/-- **What a run gets out of a name**: the findings, and the names that are included. -/
def taken (f : Findings) (name : String) : Except Failure (Findings × List String) := do
  let (l, d) ← prepared a c name
  let f ← mapped o f name l d
  let f ← linted o f l d
  return (f, ← includedBy a name l d)

/-- What a run gets out of names, one after the other. -/
def takenAll : Findings → List String → Except Failure Findings
  | f, [] => .ok f
  | f, name :: names => do
    let (f, _) ← taken a o c f name
    takenAll f names

/-- Whether the standard input is still to be read after a name. -/
def unreadAfter (unread : Bool) (name : String) : Bool := if name = inputName then false else unread

variable {host : Host (StateM σ)} {states : Bool → σ → Prop} {unread : Bool} {a o c}

lemma yields_read (h : host.Steady a states) (p : Path) :
    Yields (ask (host.read p)) (states unread) ((a.read p).mapError .file) (states unread) :=
  yields_ask fun _ => h.read p

lemma yields_isFile (h : host.Steady a states) (p : Path) :
    Yields (ask (host.isFile p)) (states unread) ((a.isFile p).mapError .file) (states unread) :=
  yields_ask fun _ => h.isFile p

lemma loadConfig_yields (h : host.Steady a states) :
    Yields (loadConfig host) (states unread) (configOn a) (states unread) := by
  unfold loadConfig configOn
  refine (yields_isFile h _).bind fun found _ => ?_
  cases found with
  | false => exact .note _ (yields_pure _ _)
  | true =>
    refine (yields_lift fun _ => h.read configFile).andThen ?_
    rw [if_pos rfl]
    cases a.read configFile with
    | error e => exact yields_throw _ _ _ _
    | ok bytes =>
      simp only [pure_bind]
      change Yields _ _ ((Config.objectOf (String.ofList configFile.render) bytes).mapError .config >>=
        fun fields => (Config.ofFields fields).mapError .config) _
      cases Config.objectOf (String.ofList configFile.render) bytes with
      | error e => exact yields_throw _ _ _ _
      | ok fields =>
        refine .note _ ?_
        change Yields _ _ ((Config.ofFields fields).mapError .config) _
        cases Config.ofFields fields with
        | error e => exact yields_throw _ pure _ _
        | ok config => exact yields_pure _ _

lemma base_yields (h : host.Steady a states) :
    Yields (if o.noConfig then pure {} else loadConfig host) (states unread) (baseOn a o) (states unread) := by
  unfold baseOn
  split
  · exact yields_pure _ _
  · exact loadConfig_yields h

lemma loadTable_yields (h : host.Steady a states) :
    Yields (loadTable host c) (states unread) (tableOn a c) (states unread) := by
  unfold loadTable tableOn
  cases c.tableFile? with
  | none => exact yields_pure _ _
  | some file => exact (yields_read h _).bind fun bytes _ => .note _ (yields_pure _ _)

lemma readInput_yields (h : host.Steady a states) {name : String} (hname : name = inputName → unread = true) :
    Yields (readInput host name) (states unread) (textOn a name) (states (unreadAfter unread name)) := by
  unfold readInput textOn unreadAfter
  split
  · next hinput =>
    obtain rfl := hname hinput
    exact yields_lift fun _ => h.input
  · exact (yields_read h _).bind fun bytes _ => yields_pure _ _

lemma includedNames_yields (h : host.Steady a states) (name : String) (files : List Text) :
    Yields (includedNames host name files) (states unread) (existing a name files) (states unread) := by
  induction files with
  | nil => exact yields_pure _ _
  | cons file files ih =>
    unfold includedNames existing
    refine (yields_isFile h _).bind fun found _ => ?_
    cases found with
    | false => exact .note _ (ih.bind fun more _ => yields_pure _ _)
    | true => exact ih.bind fun more _ => yields_pure _ _

/-- **What a name gives is a function of what the host says**, as long as the standard input is there for its own
name. -/
theorem process_yields (h : host.Steady a states) (f : Findings) {name : String}
    (hname : name = inputName → unread = true) :
    Yields (process host o c f name) (states unread) (taken a o c f name) (states (unreadAfter unread name)) := by
  unfold process taken prepared
  simp only [bind_assoc, pure_bind]
  refine .note _ ((loadTable_yields h).bind fun table _ => ?_)
  refine .note _ ((readInput_yields h hname).bind fun text _ => ?_)
  generalize hl : linterFor c name table = l
  generalize hd : documentFor name text = d
  change c.linter (c.languageOf name.toList) table = l at hl
  change Document.ofLines text (if name = inputName then "" else name) = d at hd
  rw [hl, hd]
  -- first the document may be cleaned, then it may be linted, and last the included names are found
  have hincluded : ∀ f : Findings, Yields (if name = inputName then pure (f, []) else do
      let included ← includedNames host name (l.cleaner.includedFiles d)
      pure (f, included)) (states (unreadAfter unread name)) (do return (f, ← includedBy a name l d))
      (states (unreadAfter unread name)) := by
    intro f
    unfold includedBy
    split
    · exact yields_pure _ _
    · exact (includedNames_yields h _ _).bind fun _ _ => yields_pure _ _
  unfold mapped linted wantsMap
  cases o.clean with
  | true =>
    simp only [Bool.not_true, if_true, Bool.false_eq_true, Bool.true_or, if_false, pure_bind, bind_assoc]
    refine .note _ ?_
    cases l.clean d with
    | error e => exact yields_throw _ _ _ _
    | ok cleaned => exact .print _ (hincluded _)
  | false =>
    cases o.map.any (!·.isEmpty) with
    | false =>
      simp only [Bool.not_false, if_true, Bool.false_eq_true, Bool.or_self, if_false, pure_bind, bind_assoc]
      refine .note _ ?_
      cases l.evaluate d with
      | error e => exact yields_throw _ _ _ _
      | ok advice => exact .note _ (hincluded _)
    | true =>
      simp only [Bool.not_false, if_true, Bool.false_eq_true, if_false, Bool.or_true, pure_bind, bind_assoc]
      refine .note _ ?_
      cases l.clean d with
      | error e => exact yields_throw _ _ _ _
      | ok cleaned =>
        refine .note _ ?_
        cases l.evaluate d with
        | error e => exact yields_throw _ _ _ _
        | ok advice => exact .note _ (hincluded _)

/-! ## Trees of files -/

/-- What a tree of files says, with a given standard input. -/
def answersOf (t : Tree) (input : Text) : Host.Answers := ⟨t.read, t.isFile, input.unifyLineBreaks⟩

/-- The files are those of the tree, and the input is there if it has not been read. -/
def StateOf (t : Tree) (input : Text) (unread : Bool) (w : Tree × Text) : Prop :=
  w.1 = t ∧ (unread = true → w.2 = input)

lemma stateOf_start (t : Tree) (input : Text) : StateOf t input true (t, input) := ⟨rfl, fun _ => rfl⟩

/-- **Trees of files are steady.** -/
theorem treeHost_steady (t : Tree) (input : Text) : treeHost.Steady (answersOf t input) (StateOf t input) where
  read := by
    rintro unread w p ⟨rfl, hinput⟩
    exact ⟨w, rfl, rfl, hinput⟩
  isFile := by
    rintro unread w p ⟨rfl, hinput⟩
    exact ⟨w, rfl, rfl, hinput⟩
  input := by
    rintro w ⟨rfl, hinput⟩
    obtain rfl := hinput rfl
    exact ⟨_, rfl, rfl, fun h => nomatch h⟩
  short := Tree.length_le_of_isFile

end CommandLine

end MarkupLint
