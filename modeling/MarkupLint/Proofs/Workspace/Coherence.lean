import MarkupLint.Proofs.Provenance.Lineage
import MarkupLint.Workspace

/-!
# Workspaces hold documents

A workspace keeps more than documents: what has been found about them, which copies share, and histories that grow
in place.  None of this shows.  `Workspace.Sound` says that what is known is true and that no two documents have
the same history.  Every step keeps it, changes the documents as it should (`documents_add`, `documents_edit`,
`documents_learn`), and every answer is that of the document as a value (`ask_eq`).

A script tells how a document comes about: its text at first, and the edits that have succeeded.  Hence after any
requests, every document is what its script makes of its first text (`run_follows`), and nothing else shows
(`run_coherent`).
-/

namespace MarkupLint

/-- The answer to a question about a document, of which nothing is known. -/
def Document.reply (d : Document) : Question → Reply
  | .lineCount => .number (d.current.lineCount d.newline)
  | .lines => .lines d.lines
  | .position i => .position (d.position i)
  | .offset p => .offset (d.current.offset? d.newline p)
  | .lineOf i => .line (d.lineOf? i)
  | .toInput r => .ranges (d.provenance.toInput r)
  | .toOutput r => .ranges (d.provenance.toOutput r)
  | .mapping => .mapping d.composed
  | .find p start => .found (d.find p start)

/-! ## Items of lists that have changed in one place -/

section Lists

variable {α : Type} {l : List α} {a b : α} {i j : Nat}

lemma getElem?_concat (h : (l ++ [a])[i]? = some b) : l[i]? = some b ∨ i = l.length ∧ b = a := by
  rcases Nat.lt_trichotomy i l.length with hlt | rfl | hgt
  · rw [List.getElem?_append_left hlt] at h
    exact Or.inl h
  · rw [List.getElem?_concat_length] at h
    exact Or.inr ⟨rfl, (Option.some.inj h).symm⟩
  · rw [List.getElem?_eq_none (by rw [List.length_append, List.length_singleton]; omega)] at h
    cases h

lemma getElem?_set_cases (h : (l.set i a)[j]? = some b) : j = i ∧ b = a ∨ j ≠ i ∧ l[j]? = some b := by
  by_cases hij : i = j
  · subst hij
    rw [List.getElem?_set_self'] at h
    obtain ⟨_, -, rfl⟩ := Option.map_eq_some_iff.1 h
    exact Or.inl ⟨rfl, rfl⟩
  · rw [List.getElem?_set_ne hij] at h
    exact Or.inr ⟨Ne.symm hij, h⟩

end Lists

namespace Workspace

variable {w : Workspace} {h : Held} {k : Nat}

/-! ## What holds of a workspace -/

/-- **What a workspace keeps is right.**  Every document has a history of its own, and what is known of a
document is true of it. -/
structure Sound (w : Workspace) : Prop where
  /-- The histories are kept. -/
  history_lt : ∀ (k : Nat) h, w.held[k]? = some h → h.history < w.histories.length
  /-- No two documents have the same history. -/
  history_inj : ∀ (j k : Nat) h h', w.held[j]? = some h → w.held[k]? = some h' → h.history = h'.history → j = k
  /-- The starts of lines that a document knows are those of its text. -/
  starts_eq : ∀ (k : Nat) h i, w.held[k]? = some h → h.starts = some i →
    w.starts[i]? = some (h.current.lineStarts h.newline)
  /-- The mapping that a document knows is that of its history. -/
  mapping_eq : ∀ (k : Nat) h m, w.held[k]? = some h → h.mapping = some m → m = (w.documentOf h).composed

lemma sound_empty : empty.Sound := by
  constructor <;> simp [empty]

/-- The documents of a workspace as values. -/
def documents (w : Workspace) : List Document := w.held.map w.documentOf

lemma getElem?_documents (w : Workspace) (k : Nat) : w.documents[k]? = w.document? k := by
  rw [documents, List.getElem?_map, document?]

lemma lt_length_documents (hk : w.held[k]? = some h) : k < w.documents.length := by
  rw [documents, List.length_map]
  exact (List.getElem?_eq_some_iff.1 hk).1

lemma documentOf_congr {w' : Workspace} (hh : w'.historyOf h = w.historyOf h) : w'.documentOf h = w.documentOf h := by
  rw [documentOf, documentOf, hh]

/-! ## One more document -/

section Add

variable {history : List Revision}

lemma historyOf_add (hlt : h.history < w.histories.length) (new : Held) (history : List Revision) :
    (w.add new history).historyOf h = w.historyOf h := by
  simp only [historyOf, add, List.getD_eq_getElem?_getD, List.getElem?_append_left hlt]

lemma documentOf_add_new (new : Held) (history : List Revision) :
    (w.add new history).documentOf { new with history := w.histories.length } =
      ⟨new.initial, new.newline, new.newline_ne_nil, new.resource, new.current, history⟩ := by
  simp [documentOf, historyOf, add, List.getD_eq_getElem?_getD]

lemma documents_add (hw : w.Sound) (new : Held) (history : List Revision) :
    (w.add new history).documents =
      w.documents ++ [⟨new.initial, new.newline, new.newline_ne_nil, new.resource, new.current, history⟩] := by
  have hold : w.held.map (w.add new history).documentOf = w.held.map w.documentOf := by
    refine List.map_congr_left fun h hh => documentOf_congr (historyOf_add ?_ new history)
    obtain ⟨k, hk⟩ := List.getElem?_of_mem hh
    exact hw.history_lt k h hk
  rw [documents, documents, ← hold, ← documentOf_add_new, ← List.map_singleton, ← List.map_append]
  rfl

/-- A document comes with nothing known, or with what is true of it. -/
lemma Sound.add (hw : w.Sound) {new : Held}
    (hstarts : ∀ i, new.starts = some i → w.starts[i]? = some (new.current.lineStarts new.newline))
    (hmapping : ∀ m, new.mapping = some m →
      m = (⟨new.initial, new.newline, new.newline_ne_nil, new.resource, new.current, history⟩ : Document).composed) :
    (w.add new history).Sound := by
  refine ⟨fun k h hk => ?_, fun j k h h' hj hk heq => ?_, fun k h i hk hi => ?_, fun k h m hk hm => ?_⟩
  · rw [Workspace.add, List.length_append, List.length_singleton]
    rcases getElem?_concat hk with hk | ⟨-, rfl⟩
    · exact Nat.lt_succ_of_lt (hw.history_lt k h hk)
    · exact Nat.lt_succ_self _
  · -- the number of the new history is none of those in use
    rcases getElem?_concat hj with hj | ⟨rfl, rfl⟩ <;> rcases getElem?_concat hk with hk | ⟨rfl, rfl⟩
    · exact hw.history_inj j k h h' hj hk heq
    · exact absurd heq (Nat.ne_of_lt (hw.history_lt j h hj))
    · exact absurd heq.symm (Nat.ne_of_lt (hw.history_lt k h' hk))
    · rfl
  · rcases getElem?_concat hk with hk | ⟨-, rfl⟩
    · exact hw.starts_eq k h i hk hi
    · exact hstarts i hi
  · rcases getElem?_concat hk with hk | ⟨-, rfl⟩
    · rw [documentOf_congr (historyOf_add (hw.history_lt k h hk) new history)]
      exact hw.mapping_eq k h m hk hm
    · rw [documentOf_add_new]
      exact hmapping m hm

lemma documents_hold (hw : w.Sound) (d : Document) : (w.hold d).documents = w.documents ++ [d] :=
  documents_add hw _ _

lemma Sound.hold (hw : w.Sound) (d : Document) : (w.hold d).Sound :=
  hw.add (fun _ h => nomatch h) (fun _ h => nomatch h)

lemma documents_copy (hw : w.Sound) (h : Held) : (w.copy h).documents = w.documents ++ [w.documentOf h] :=
  documents_add hw _ _

lemma Sound.copy (hw : w.Sound) (hk : w.held[k]? = some h) : (w.copy h).Sound :=
  hw.add (fun i => hw.starts_eq k h i hk) (fun m => hw.mapping_eq k h m hk)

end Add

/-! ## A document in a new state -/

/-- A document that is put in the place of another and takes over its history leaves a workspace sound, if what is
known stays true. -/
lemma Sound.set (hw : w.Sound) (hk : w.held[k]? = some h) {w' : Workspace} {new : Held}
    (hheld : w'.held = w.held.set k new) (hnew : new.history = h.history)
    (hlength : w'.histories.length = w.histories.length)
    (hstarts : ∀ (j : Nat) g i, w'.held[j]? = some g → g.starts = some i →
      w'.starts[i]? = some (g.current.lineStarts g.newline))
    (hmapping : ∀ (j : Nat) g m, w'.held[j]? = some g → g.mapping = some m → m = (w'.documentOf g).composed) :
    w'.Sound := by
  -- every place has the history that it had
  have hplace : ∀ (j : Nat) g, w'.held[j]? = some g → ∃ g', w.held[j]? = some g' ∧ g'.history = g.history := by
    intro j g hj
    rw [hheld] at hj
    rcases getElem?_set_cases hj with ⟨rfl, rfl⟩ | ⟨-, hj⟩
    · exact ⟨h, hk, hnew.symm⟩
    · exact ⟨g, hj, rfl⟩
  refine ⟨fun j g hj => ?_, fun i j g g' hi hj heq => ?_, hstarts, hmapping⟩
  · obtain ⟨g', hj, hsame⟩ := hplace j g hj
    rw [hlength, ← hsame]
    exact hw.history_lt j g' hj
  · obtain ⟨f, hi, hsame⟩ := hplace i g hi
    obtain ⟨f', hj, hsame'⟩ := hplace j g' hj
    exact hw.history_inj i j f f' hi hj (by rw [hsame, hsame', heq])

/-! ## Edits -/

section Edit

variable {e : Edit} {r : Edited}

/-- The workspace after an edit that has succeeded. -/
lemma edit_eq_ok {w' : Workspace} : w.edit k h e = .ok w' ↔ ∃ r, e.apply h.current = .ok r ∧
    w' = { w with
      held := w.held.set k { h with current := r.text, starts := none, mapping := none }
      histories := w.histories.modify h.history (· ++ [⟨e, r.mapping, r.capped⟩]) } := by
  unfold edit
  cases e.apply h.current with
  | error _ => simp [bind, Except.bind]
  | ok r => simp [bind, Except.bind, pure, Except.pure, eq_comm]

/-- An edit fails as it would on the document as a value. -/
lemma edit_eq_error {err : ReplacementError} :
    w.edit k h e = .error err ↔ (w.documentOf h).apply e = .error err := by
  unfold edit Document.apply
  simp only [documentOf]
  cases e.apply h.current <;> simp [bind, Except.bind, pure, Except.pure]

variable {w' : Workspace} (hw : w.Sound) (hk : w.held[k]? = some h) (hedit : w.edit k h e = .ok w')
include hw hk hedit

/-- An edit does not reach the histories of other documents. -/
lemma historyOf_edit_of_ne {j : Nat} {g : Held} (hj : w.held[j]? = some g) (hne : j ≠ k) :
    w'.historyOf g = w.historyOf g := by
  obtain ⟨r, -, rfl⟩ := edit_eq_ok.1 hedit
  have hhistory : h.history ≠ g.history := fun heq => hne (hw.history_inj j k g h hj hk heq.symm)
  simp [historyOf, List.getD_eq_getElem?_getD, List.getElem?_modify_ne, hhistory]

/-- An edit adds itself to the history of the document. -/
lemma documentOf_edit (hr : e.apply h.current = .ok r) :
    w'.documentOf { h with current := r.text, starts := none, mapping := none } = (w.documentOf h).record e r := by
  obtain ⟨r', hr', rfl⟩ := edit_eq_ok.1 hedit
  obtain rfl := Except.ok.inj (hr.symm.trans hr')
  have hkept := List.getElem?_eq_getElem (hw.history_lt k h hk)
  simp [documentOf, historyOf, Document.record, List.getD_eq_getElem?_getD, List.getElem?_modify_eq, hkept]

/-- **An edit changes one document**, and changes it as it would be changed as a value. -/
lemma documents_edit : ∃ d', (w.documentOf h).apply e = .ok d' ∧ w'.documents = w.documents.set k d' := by
  obtain ⟨r, hr, hw'⟩ := edit_eq_ok.1 hedit
  refine ⟨(w.documentOf h).record e r, Document.apply_eq_ok.2 ⟨r, hr, rfl⟩, List.ext_getElem? fun j => ?_⟩
  have hheld : w'.held = w.held.set k { h with current := r.text, starts := none, mapping := none } := by
    rw [hw']
  have hlt := (List.getElem?_eq_some_iff.1 hk).1
  simp only [documents, List.getElem?_map, hheld]
  by_cases hj : j = k
  · subst hj
    rw [List.getElem?_set_self hlt, List.getElem?_set_self (by simpa using hlt), Option.map_some,
      documentOf_edit hw hk hedit hr]
  · rw [List.getElem?_set_ne (Ne.symm hj), List.getElem?_set_ne (Ne.symm hj), List.getElem?_map]
    cases hg : w.held[j]? with
    | none => rfl
    | some g => exact congrArg some (documentOf_congr (historyOf_edit_of_ne hw hk hedit hg hj))

lemma Sound.edit : w'.Sound := by
  have hother := fun j g => historyOf_edit_of_ne hw hk hedit (j := j) (g := g)
  obtain ⟨r, -, rfl⟩ := edit_eq_ok.1 hedit
  -- nothing is known of the edited document, and what is known of the others is about texts and histories that stay
  refine hw.set hk rfl rfl (List.length_modify ..) (fun j g i hj hi => ?_) (fun j g m hj hm => ?_)
  · rcases getElem?_set_cases hj with ⟨-, rfl⟩ | ⟨-, hj⟩
    · cases hi
    · exact hw.starts_eq j g i hj hi
  · rcases getElem?_set_cases hj with ⟨-, rfl⟩ | ⟨hne, hj⟩
    · cases hm
    · rw [documentOf_congr (hother j g hj hne)]
      exact hw.mapping_eq j g m hj hm

end Edit

/-! ## Questions -/

section Ask

variable {w' : Workspace} {starts : List (List Nat)} {known : Option Nat} {mapping : Option Mapping}

/-- The workspace in which a document knows more, and more starts of lines are kept. -/
def learn (w : Workspace) (k : Nat) (h : Held) (known : Option Nat) (mapping : Option Mapping)
    (starts : List (List Nat)) : Workspace :=
  { w with held := w.held.set k { h with starts := known, mapping := mapping }, starts := w.starts ++ starts }

/-- What is learned does not change any document. -/
lemma documents_learn (hk : w.held[k]? = some h) : (w.learn k h known mapping starts).documents = w.documents := by
  obtain ⟨hlt, rfl⟩ := List.getElem?_eq_some_iff.1 hk
  have hset : (w.learn k w.held[k] known mapping starts).documents =
      w.documents.set k (w.documentOf w.held[k]) := List.map_set ..
  have hlt' : k < w.documents.length := by simpa [documents] using hlt
  have hsame : w.documentOf w.held[k] = w.documents[k] := by simp [documents]
  rw [hset, hsame, List.set_getElem_self]

lemma Sound.learn (hw : w.Sound) (hk : w.held[k]? = some h)
    (hstarts : ∀ i, known = some i → (w.starts ++ starts)[i]? = some (h.current.lineStarts h.newline))
    (hmapping : ∀ m, mapping = some m → m = (w.documentOf h).composed) :
    (w.learn k h known mapping starts).Sound := by
  refine hw.set hk rfl rfl rfl (fun j g i hj hi => ?_) (fun j g m hj hm => ?_)
  · rcases getElem?_set_cases hj with ⟨-, rfl⟩ | ⟨-, hj⟩
    · exact hstarts i hi
    · have hkept := hw.starts_eq j g i hj hi
      have hlt := (List.getElem?_eq_some_iff.1 hkept).1
      rw [Workspace.learn, List.getElem?_append_left hlt, hkept]
  · rcases getElem?_set_cases hj with ⟨-, rfl⟩ | ⟨-, hj⟩
    · exact hmapping m hm
    · exact hw.mapping_eq j g m hj hm

/-- The workspace `w'` is sound and has the documents of `w`. -/
def Keeps (w w' : Workspace) : Prop := w'.Sound ∧ w'.documents = w.documents

/-- The starts of lines are those of the text, whether they were known or not. -/
lemma startsOf_eq (hw : w.Sound) (hk : w.held[k]? = some h) :
    ∃ w', w.startsOf k h = (h.current.lineStarts h.newline, w') ∧ w.Keeps w' := by
  unfold startsOf
  split
  · next known hknown =>
    obtain ⟨i, hi, hkept⟩ := Option.bind_eq_some_iff.1 hknown
    obtain rfl := Option.some.inj (hkept.symm.trans (hw.starts_eq k h i hk hi))
    exact ⟨w, rfl, hw, rfl⟩
  · have hlearn : (w.learn k h (some w.starts.length) h.mapping [h.current.lineStarts h.newline]).Sound := by
      refine hw.learn hk (fun i hi => ?_) (fun m => hw.mapping_eq k h m hk)
      obtain rfl := Option.some.inj hi
      exact List.getElem?_concat_length
    exact ⟨_, rfl, hlearn, documents_learn hk⟩

/-- The mapping is that of the history, whether it was known or not. -/
lemma mappingOf_eq (hw : w.Sound) (hk : w.held[k]? = some h) :
    ∃ w', w.mappingOf k h = ((w.documentOf h).composed, w') ∧ w.Keeps w' := by
  unfold mappingOf
  split
  · next m hm =>
    obtain rfl := hw.mapping_eq k h m hk hm
    exact ⟨w, rfl, hw, rfl⟩
  · have hlearn : { w with held := w.held.set k { h with mapping := some (w.documentOf h).composed } } =
        w.learn k h h.starts (some (w.documentOf h).composed) [] := by
      rw [Workspace.learn, List.append_nil]
    refine ⟨_, rfl, ?_⟩
    rw [hlearn]
    refine ⟨hw.learn hk (fun i hi => ?_) (fun m hm => (Option.some.inj hm).symm), documents_learn hk⟩
    rw [List.append_nil]
    exact hw.starts_eq k h i hk hi

lemma askStarts_eq (hw : w.Sound) (hk : w.held[k]? = some h) (answer : List Nat → Reply) :
    ∃ w', w.askStarts k h answer = (answer (h.current.lineStarts h.newline), w') ∧ w.Keeps w' := by
  obtain ⟨w', hstarts, hkeeps⟩ := startsOf_eq hw hk
  exact ⟨w', by rw [askStarts, hstarts], hkeeps⟩

lemma askMapping_eq (hw : w.Sound) (hk : w.held[k]? = some h) (r : Range) (length : Nat)
    (track : Mapping → Range → List Range) :
    ∃ w', w.askMapping k h r length track =
        (.ranges (match Provenance.clip r length with
          | none => []
          | some part => track (w.documentOf h).composed part), w') ∧ w.Keeps w' := by
  unfold askMapping
  cases Provenance.clip r length with
  | none => exact ⟨w, rfl, hw, rfl⟩
  | some part =>
    obtain ⟨w', hmapping, hkeeps⟩ := mappingOf_eq hw hk
    exact ⟨w', by rw [hmapping], hkeeps⟩

/-- **Every answer is that of the document as a value**, and no question changes any document. -/
theorem ask_eq (hw : w.Sound) (hk : w.held[k]? = some h) (q : Question) :
    ∃ w', w.ask k h q = ((w.documentOf h).reply q, w') ∧ w.Keeps w' := by
  cases q with
  | lineCount | lines | position _ | offset _ | lineOf _ =>
    unfold ask
    exact askStarts_eq hw hk _
  | toInput r => exact askMapping_eq hw hk r _ _
  | toOutput r => exact askMapping_eq hw hk r _ _
  | mapping =>
    obtain ⟨w', hmapping, hkeeps⟩ := mappingOf_eq hw hk
    exact ⟨w', by rw [ask, hmapping]; rfl, hkeeps⟩
  | find p start => exact ⟨w, rfl, hw, rfl⟩

end Ask

end Workspace

/-! ## Scripts -/

/-- How a document comes about. -/
structure Script where
  /-- Its text at first. -/
  text : Text
  /-- Its line terminator. -/
  newline : Text
  /-- Lines end in something. -/
  newline_ne_nil : newline ≠ []
  /-- The name under which it is reported. -/
  resource : String
  /-- The edits of it that have succeeded. -/
  edits : List Edit

namespace Script

/-- The document that a script makes, from its first text on. -/
def replay (s : Script) : Except ReplacementError Document :=
  s.edits.foldlM Document.apply ⟨s.text, s.newline, s.newline_ne_nil, s.resource, s.text, []⟩

/-- The script with one more edit. -/
def extend (s : Script) (e : Edit) : Script := { s with edits := s.edits ++ [e] }

/-- What a request adds to the scripts of the documents, given what came of it. -/
def note (scripts : List Script) : Request → Response → List Script
  | .create text newline resource, .done =>
    if h : newline = [] then scripts else scripts ++ [⟨text, newline, h, resource, []⟩]
  | .copy k, .done => scripts ++ scripts[k]?.toList
  | .edit k e, .done => scripts.modify k (·.extend e)
  | _, _ => scripts

/-- The scripts of the documents after requests, which a workspace meets one after the other. -/
def log : Workspace → List Script → List Request → List Script
  | _, scripts, [] => scripts
  | w, scripts, request :: requests =>
    let (response, w) := w.step request
    log w (note scripts request response) requests

lemma replay_extend {s : Script} {d d' : Document} {e : Edit} (hs : s.replay = .ok d) (h : d.apply e = .ok d') :
    (s.extend e).replay = .ok d' := by
  simp only [extend, replay, List.foldlM_append, List.foldlM_cons, List.foldlM_nil, bind_pure] at hs ⊢
  rw [hs]
  exact h

end Script

namespace Workspace

variable {w : Workspace} {scripts : List Script}

/-- The documents of a workspace are what their scripts make. -/
def Follows (w : Workspace) (scripts : List Script) : Prop :=
  w.documents.map Except.ok = scripts.map Script.replay

lemma follows_empty : empty.Follows [] := rfl

section Step

variable {h : Held} {k : Nat}

lemma Follows.replay_eq (hf : w.Follows scripts) (k : Nat) :
    (w.document? k).map Except.ok = scripts[k]?.map Script.replay := by
  rw [← getElem?_documents, ← List.getElem?_map, hf, List.getElem?_map]

lemma Follows.exists_script (hf : w.Follows scripts) (hk : w.held[k]? = some h) :
    ∃ s, scripts[k]? = some s ∧ s.replay = .ok (w.documentOf h) := by
  have hreplay := hf.replay_eq k
  rw [document?, hk] at hreplay
  exact Option.map_eq_some_iff.1 hreplay.symm

lemma Follows.edit_ok (hf : w.Follows scripts) (hw : w.Sound) (hk : w.held[k]? = some h) {e : Edit}
    {w' : Workspace} (hedit : w.edit k h e = .ok w') : w'.Follows (scripts.modify k (·.extend e)) := by
  obtain ⟨s, hs, hreplay⟩ := hf.exists_script hk
  obtain ⟨d', hd', hdocuments⟩ := documents_edit hw hk hedit
  have hlt := lt_length_documents hk
  refine List.ext_getElem? fun j => ?_
  rw [hdocuments, List.getElem?_map, List.getElem?_map]
  by_cases hj : k = j
  · subst hj
    rw [List.getElem?_set_self hlt, List.getElem?_modify_eq, hs]
    exact congrArg some (Script.replay_extend hreplay hd').symm
  · rw [List.getElem?_set_ne hj, List.getElem?_modify_ne _ _ hj, ← List.getElem?_map, hf, List.getElem?_map]

lemma step_edit_ok {e : Edit} {w' : Workspace} (hk : w.held[k]? = some h) (hedit : w.edit k h e = .ok w') :
    w.step (.edit k e) = (.done, w') := by
  simp only [step, hk, hedit]

lemma step_edit_error {e : Edit} {err : ReplacementError} (hk : w.held[k]? = some h)
    (hedit : w.edit k h e = .error err) : w.step (.edit k e) = (.failed err, w) := by
  simp only [step, hk, hedit]

/-- **A request keeps a workspace sound and its documents what their scripts make.** -/
theorem step_follows (hw : w.Sound) (hf : w.Follows scripts) (request : Request) :
    (w.step request).2.Sound ∧ (w.step request).2.Follows (Script.note scripts request (w.step request).1) := by
  cases request with
  | create text newline resource =>
    by_cases hne : newline = []
    · simp only [step, Document.ofText, Script.note, dif_pos hne]
      exact ⟨hw, hf⟩
    · simp only [step, Document.ofText, Script.note, dif_neg hne]
      refine ⟨hw.hold _, ?_⟩
      rw [Follows, documents_hold hw, List.map_append, List.map_append, hf]
      rfl
  | copy k =>
    cases hk : w.held[k]? with
    | none =>
      simp only [step, hk, Script.note]
      exact ⟨hw, hf⟩
    | some h =>
      obtain ⟨s, hs, hreplay⟩ := hf.exists_script hk
      simp only [step, hk, Script.note]
      refine ⟨hw.copy hk, ?_⟩
      rw [Follows, documents_copy hw, List.map_append, List.map_append, hf, hs, Option.toList_some,
        List.map_singleton, List.map_singleton, hreplay]
  | edit k e =>
    cases hk : w.held[k]? with
    | none =>
      simp only [step, hk, Script.note]
      exact ⟨hw, hf⟩
    | some h =>
      cases hedit : w.edit k h e with
      | ok w' =>
        rw [step_edit_ok hk hedit]
        exact ⟨hw.edit hk hedit, hf.edit_ok hw hk hedit⟩
      | error err =>
        rw [step_edit_error hk hedit]
        exact ⟨hw, hf⟩
  | ask k q =>
    cases hk : w.held[k]? with
    | none =>
      simp only [step, hk, Script.note]
      exact ⟨hw, hf⟩
    | some h =>
      obtain ⟨w', hask, hsound, hdocuments⟩ := ask_eq hw hk q
      simp only [step, hk, hask, Script.note]
      exact ⟨hsound, by rw [Follows, hdocuments, hf]⟩

/-- **Requests keep a workspace sound and its documents what their scripts make.** -/
theorem run_follows (hw : w.Sound) (hf : w.Follows scripts) (requests : List Request) :
    (w.run requests).Sound ∧ (w.run requests).Follows (Script.log w scripts requests) := by
  induction requests generalizing w scripts with
  | nil => exact ⟨hw, hf⟩
  | cons request requests ih =>
    obtain ⟨hw', hf'⟩ := step_follows hw hf request
    exact ih hw' hf'

/-- **A request changes a document by editing it, or not at all.** -/
theorem step_document? (hw : w.Sound) (request : Request) {j : Nat} {d : Document} (hd : w.document? j = some d) :
    (w.step request).2.document? j = some d ∨
      ∃ e d', request = .edit j e ∧ d.apply e = .ok d' ∧ (w.step request).2.document? j = some d' := by
  simp only [← getElem?_documents] at hd ⊢
  have happend : ∀ more, (w.documents ++ [more])[j]? = some d := fun more =>
    (List.getElem?_append_left (List.getElem?_eq_some_iff.1 hd).1).trans hd
  cases request with
  | create text newline resource =>
    by_cases hne : newline = []
    · simp only [step, Document.ofText, dif_pos hne]
      exact Or.inl hd
    · simp only [step, Document.ofText, dif_neg hne, documents_hold hw]
      exact Or.inl (happend _)
  | copy k =>
    cases hk : w.held[k]? with
    | none =>
      simp only [step, hk]
      exact Or.inl hd
    | some h =>
      simp only [step, hk, documents_copy hw]
      exact Or.inl (happend _)
  | edit k e =>
    cases hk : w.held[k]? with
    | none =>
      simp only [step, hk]
      exact Or.inl hd
    | some h =>
      cases hedit : w.edit k h e with
      | error err =>
        rw [step_edit_error hk hedit]
        exact Or.inl hd
      | ok w' =>
        obtain ⟨d', hd', hdocuments⟩ := documents_edit hw hk hedit
        rw [step_edit_ok hk hedit, hdocuments]
        by_cases hj : k = j
        · subst hj
          have hlt := (List.getElem?_eq_some_iff.1 hd).1
          rw [getElem?_documents, document?, hk] at hd
          obtain rfl := Option.some.inj hd
          exact Or.inr ⟨e, d', rfl, hd', List.getElem?_set_self hlt⟩
        · exact Or.inl ((List.getElem?_set_ne hj).trans hd)
  | ask k q =>
    cases hk : w.held[k]? with
    | none =>
      simp only [step, hk]
      exact Or.inl hd
    | some h =>
      obtain ⟨w', hask, -, hdocuments⟩ := ask_eq hw hk q
      simp only [step, hk, hask, hdocuments]
      exact Or.inl hd

end Step

/-! ## Coherence -/

/-- **Nothing shows of a workspace but documents as values**, each of which is what its script makes. -/
structure Coherent (w : Workspace) (scripts : List Script) : Prop where
  /-- Every document is what replaying its own edits on its first text makes, and every script has a document. -/
  replayed : ∀ k : Nat, (w.document? k).map Except.ok = scripts[k]?.map Script.replay
  /-- Every question is answered as about a document of which nothing is known. -/
  answered : ∀ k d q, w.document? k = some d → (w.step (.ask k q)).1 = .reply (d.reply q)
  /-- An edit that succeeds adds one revision to the history of its document. -/
  edited : ∀ k d e r, w.document? k = some d → e.apply d.current = .ok r →
    (w.step (.edit k e)).1 = .done ∧ (w.step (.edit k e)).2.document? k = some (d.record e r)
  /-- An edit that fails leaves everything as it was. -/
  failed : ∀ k d e err, w.document? k = some d → e.apply d.current = .error err →
    w.step (.edit k e) = (.failed err, w)
  /-- No request but an edit of it changes a document. -/
  unchanged : ∀ request j d, w.document? j = some d → (∀ e, request ≠ .edit j e) →
    (w.step request).2.document? j = some d
  /-- No request changes the initial text of a document. -/
  initial_eq : ∀ request j d, w.document? j = some d →
    ∃ d', (w.step request).2.document? j = some d' ∧ d'.initial = d.initial

lemma exists_held {k : Nat} {d : Document} (hd : w.document? k = some d) :
    ∃ h, w.held[k]? = some h ∧ w.documentOf h = d := Option.map_eq_some_iff.1 hd

/-- **Workspaces are coherent.**  After any requests, in whatever order documents have been created, copied, edited
with or without success, and asked about, every document is what replaying its own edits makes, and what is asked or
done next shows nothing else. -/
theorem run_coherent (requests : List Request) :
    (empty.run requests).Coherent (Script.log empty [] requests) := by
  obtain ⟨hw, hf⟩ := run_follows sound_empty follows_empty requests
  generalize empty.run requests = w at hw hf
  refine ⟨hf.replay_eq, fun k d q hd => ?_, fun k d e r hd hr => ?_, fun k d e err hd herr => ?_,
    fun request j d hd hne => ?_, fun request j d hd => ?_⟩
  · obtain ⟨h, hk, rfl⟩ := exists_held hd
    obtain ⟨w', hask, -⟩ := ask_eq hw hk q
    simp only [step, hk, hask]
  · obtain ⟨h, hk, rfl⟩ := exists_held hd
    obtain ⟨w', hedit⟩ : ∃ w', w.edit k h e = .ok w' := ⟨_, edit_eq_ok.2 ⟨r, hr, rfl⟩⟩
    obtain ⟨d', hd', hdocuments⟩ := documents_edit hw hk hedit
    obtain rfl := Except.ok.inj (hd'.symm.trans (Document.apply_eq_ok.2 ⟨r, hr, rfl⟩))
    rw [step_edit_ok hk hedit, ← getElem?_documents, hdocuments]
    exact ⟨rfl, List.getElem?_set_self (lt_length_documents hk)⟩
  · obtain ⟨h, hk, rfl⟩ := exists_held hd
    exact step_edit_error hk (edit_eq_error.2 (by rw [Document.apply, herr]; rfl))
  · rcases step_document? hw request hd with hsame | ⟨e, -, hedit, -⟩
    · exact hsame
    · exact absurd hedit (hne e)
  · rcases step_document? hw request hd with hsame | ⟨e, d', -, hd', hnew⟩
    · exact ⟨d, hsame, rfl⟩
    · obtain ⟨r, -, rfl⟩ := Document.apply_eq_ok.1 hd'
      exact ⟨_, hnew, rfl⟩

/-- A document that is copied when the starts of its lines and its mapping are known, and a copy that loses a line. -/
def sharing : List Request :=
  [.create "a\nb".toList Text.lineFeed "", .ask 0 .lineCount, .ask 0 .mapping, .copy 0,
    .edit 1 (.removeLine 0 Text.lineFeed)]

/-- Puts a group in the place of a letter, where there is no group. -/
def groupless : Edit := .replace (.ofSource "b" Pattern.noFlags) (.template "\\1".toList) false 0

/-- The copy has one line and one revision, the other document still has two lines and no revision, and an edit of
the copy fails without a trace. -/
theorem sharing_coherent :
    ((empty.run sharing).step (.ask 0 .lineCount)).1 = .reply (.number 2) ∧
      ((empty.run sharing).step (.ask 1 .lineCount)).1 = .reply (.number 1) ∧
      (∃ err, (empty.run sharing).step (.edit 1 groupless) = (.failed err, empty.run sharing)) ∧
      (Script.log empty [] sharing).map (fun s => s.edits.length) = [0, 1] := by
  have hcoherent := run_coherent sharing
  have hfirst : ((empty.run sharing).document? 0).map (·.reply .lineCount) = some (.number 2) := by decide +kernel
  have hcopy : ((empty.run sharing).document? 1).map (fun d => (d.reply .lineCount, d.current)) =
      some (.number 1, "b".toList) := by decide +kernel
  have hfails : groupless.apply "b".toList = .error (.malformed "\\1".toList ⟨.noSuchGroup 1, some 1⟩) := by
    decide +kernel
  obtain ⟨d, hd, hcount⟩ := Option.map_eq_some_iff.1 hfirst
  obtain ⟨d', hd', hcopied⟩ := Option.map_eq_some_iff.1 hcopy
  obtain ⟨hcount', hcurrent⟩ := Prod.mk.inj hcopied
  refine ⟨?_, ?_, ⟨_, hcoherent.failed 1 d' groupless _ hd' (hcurrent ▸ hfails)⟩, by decide +kernel⟩
  · rw [hcoherent.answered 0 d _ hd, hcount]
  · rw [hcoherent.answered 1 d' _ hd', hcount']

end Workspace

end MarkupLint
