import MarkupLint.Clean.Table
import MarkupLint.Proofs.Table.Fields
import MarkupLint.Rule.Regex

/-!
# Tables written as lines

Rules and replacements are written one on a line, among lines that hold none (`Listed`).  What is written is read
back:

* `Listed.filterMap_eq`: a reader that reads each entry from the lines that write it, and nothing from the others, reads
  the entries in their order;
* `ofRows_eq`: rows with different patterns make the table of these rows;
* `listed_tables_read_back`: this holds of rules and of replacements.
-/

namespace MarkupLint

namespace Text

/-! ## Entries among other lines -/

variable {α β : Type} {writes : α → Text → Prop} {idle : Text → Prop} {entries : List α} {lines : List Text}

/-- The lines list the entries in their order, each on a line that writes it, among lines that are idle. -/
inductive Listed (writes : α → Text → Prop) (idle : Text → Prop) : List α → List Text → Prop
  /-- No line is left. -/
  | nil : Listed writes idle [] []
  /-- The next line writes the next entry. -/
  | entry {a : α} {line : Text} {entries : List α} {lines : List Text} (h : writes a line)
      (rest : Listed writes idle entries lines) : Listed writes idle (a :: entries) (line :: lines)
  /-- The next line is idle. -/
  | idle {line : Text} {entries : List α} {lines : List Text} (h : idle line)
      (rest : Listed writes idle entries lines) : Listed writes idle entries (line :: lines)

/-- **What is listed is read**, if it is read from the lines that write it and nothing is read from idle lines. -/
theorem Listed.filterMap_eq {read : Text → Option β} {f : α → β} (h : Listed writes idle entries lines)
    (hwrites : ∀ a ∈ entries, ∀ line, writes a line → read line = some (f a))
    (hidle : ∀ line, idle line → read line = none) : lines.filterMap read = entries.map f := by
  induction h with
  | nil => rfl
  | entry hline _ ih =>
    obtain ⟨hread, hwrites⟩ := List.forall_mem_cons.1 hwrites
    rw [List.filterMap_cons_some (hread _ hline), List.map_cons, ih hwrites]
  | idle hline _ ih => rw [List.filterMap_cons_none (hidle _ hline), ih hwrites]

/-- A line that is blank or a comment. -/
def IsRemark (line : Text) : Prop := firstInk line = none ∨ firstInk line = some '#'

lemma IsRemark.holdsNoFields {line : Text} (h : IsRemark line) : line.holdsNoFields = true := by
  rw [holdsNoFields_iff]
  intro c hc
  rcases h with h | h
  · cases h.symm.trans hc
  · exact (Option.some.inj (h.symm.trans hc)).symm

/-- A field that can begin a line: its first character that is not blank is there, and is no number sign. -/
def Leads (field : Text) : Prop := ∃ c, firstInk field = some c ∧ c ≠ '#'

lemma LineOf.holdsNoFields_eq {field line : Text} {fields : List Text} (h : LineOf (field :: fields) line)
    (hleads : Leads field) : line.holdsNoFields = false := by
  obtain ⟨c, hc, hne⟩ := hleads
  obtain ⟨body, breaks, htabbed, -, rfl⟩ := h
  obtain ⟨rest, rfl⟩ : ∃ rest, body = field ++ rest := by
    cases htabbed with
    | last => exact ⟨[], (List.append_nil _).symm⟩
    | more _ more _ => exact ⟨_, List.append_assoc ..⟩
  have hink : firstInk (field ++ rest ++ breaks) = some c := by
    rw [List.append_assoc]
    exact firstInk_append hc _
  rw [← Bool.not_eq_true, holdsNoFields_iff]
  exact fun h => hne (h c hink)

end Text

open Text (IsRemark IsShort Leads LineOf Listed Unbroken)

/-! ## Rules -/

namespace RegexRule

/-- The fields that a rule is written with.  There need not be an exception. -/
structure Entry where
  /-- The name of the rule. -/
  name : Text
  /-- The source of its pattern. -/
  pattern : Text
  /-- Its message. -/
  message : Text
  /-- The source of its exception. -/
  exception : Option Text

namespace Entry

variable {e : Entry} {r : RegexRule} {line : Text}

/-- The fields in the order in which they are written. -/
def fields (e : Entry) : List Text := e.name :: e.pattern :: e.message :: e.exception.toList

/-- What is asked of fields that are written: they are not empty, they have no tab and no line break, and the name does
not make the line a remark. -/
structure Writable (e : Entry) : Prop where
  /-- No field is empty or has a tab. -/
  fields : ∀ field ∈ e.fields, field ≠ [] ∧ '\t' ∉ field
  /-- No field has a line break. -/
  unbroken : ∀ field ∈ e.fields, Unbroken field
  /-- The name can begin a line. -/
  leads : Leads e.name

/-- The rule that the fields stand for, if the pattern and the exception can be read. -/
structure Denotes (e : Entry) (r : RegexRule) : Prop where
  /-- The name is that of the rule. -/
  name : r.name = String.ofList e.name
  /-- The pattern can be read. -/
  pattern : Pattern.compile e.pattern Pattern.noFlags = .ok r.pattern
  /-- The message is that of the rule. -/
  message : r.message = e.message
  /-- The exception can be read, if there is one. -/
  exception : e.exception.mapM (Pattern.compile · Pattern.noFlags) = .ok r.exception
  /-- Nothing is suggested. -/
  suggestion : r.suggestion = none

/-- The rule that the fields stand for is made of them.  An exception that is written is not empty, so that it is not
taken for none. -/
lemma Denotes.ofFields_eq (h : e.Denotes r) (hwritable : e.Writable) :
    ofFields e.name e.pattern e.message e.exception none = .ok r := by
  obtain ⟨name, pattern, message, exception⟩ := e
  obtain ⟨rname, rpattern, rmessage, rexception, rsuggestion⟩ := r
  obtain ⟨hname, hpattern, hmessage, hexception, hsuggestion⟩ := h
  dsimp only at hname hpattern hmessage hexception hsuggestion ⊢
  subst hname hmessage hsuggestion
  unfold ofFields
  rw [hpattern]
  cases exception with
  | none =>
    obtain rfl := Except.ok.inj hexception
    rfl
  | some source =>
    have hsource : source ≠ [] := (hwritable.fields source (by simp [Entry.fields])).1
    obtain ⟨c, rest, rfl⟩ := List.exists_cons_of_ne_nil hsource
    have hcompile : some <$> Pattern.compile (c :: rest) Pattern.noFlags = .ok rexception := hexception
    dsimp only
    rw [hcompile]
    rfl

lemma ofLine?_eq (hwritable : e.Writable) (h : LineOf e.fields line) :
    ofLine? line = some (ofFields e.name e.pattern e.message e.exception none) := by
  rw [ofLine?, h.fields_eq hwritable.fields hwritable.unbroken, Entry.fields]
  dsimp only
  rw [Option.head?_toList]

end Entry

lemma ofLine?_of_isShort {line : Text} (h : IsShort line) : ofLine? line = none := by
  have hlength := h.length_fields_lt
  unfold ofLine?
  split
  · next hfields =>
    rw [hfields] at hlength
    simp only [List.length_cons] at hlength
    omega
  · rfl

/-- Rules that all can be read are read one after the other. -/
lemma mapM_ofFields {entries : List Entry} {rules : List RegexRule} (h : List.Forall₂ Entry.Denotes entries rules)
    (hwritable : ∀ e ∈ entries, e.Writable) :
    (entries.map fun e => ofFields e.name e.pattern e.message e.exception none).mapM id = .ok rules := by
  induction h with
  | nil => rfl
  | cons hdenotes _ ih =>
    obtain ⟨hfirst, hwritable⟩ := List.forall_mem_cons.1 hwritable
    rw [List.map_cons, List.mapM_cons, hdenotes.ofFields_eq hfirst, ih hwritable]
    rfl

/-- **Rules are read as they are listed.** -/
theorem ofLines_of_listed {entries : List Entry} {rules : List RegexRule} {lines : List Text}
    (hwritable : ∀ e ∈ entries, e.Writable) (hdenotes : List.Forall₂ Entry.Denotes entries rules)
    (h : Listed (fun e : Entry => LineOf e.fields) (fun line => IsRemark line ∨ IsShort line) entries lines) :
    RegexRule.ofLines lines = .ok rules := by
  rw [RegexRule.ofLines, List.filterMap_filter, h.filterMap_eq, mapM_ofFields hdenotes hwritable]
  · intro e he line hline
    rw [hline.holdsNoFields_eq (hwritable e he).leads]
    exact Entry.ofLine?_eq (hwritable e he) hline
  · rintro line (hremark | hshort)
    · rw [hremark.holdsNoFields]
      rfl
    · rw [ofLine?_of_isShort hshort, ite_self]

end RegexRule

/-! ## Replacements -/

namespace Table

/-- What is asked of a row that is written: its pattern has no tab, its template does not begin with one, neither has a
line break, and the pattern does not make the line a remark. -/
structure Writable (row : Text × Text) : Prop where
  /-- The pattern has no tab. -/
  key : '\t' ∉ row.1
  /-- The template does not begin with a tab. -/
  value : row.2.head? ≠ some '\t'
  /-- There is no line break. -/
  unbroken : ∀ field ∈ [row.1, row.2], Unbroken field
  /-- The pattern can begin a line. -/
  leads : Leads row.1

lemma foldl_insert (done rows : List (Text × Text)) (h : ((done ++ rows).map (·.1)).Nodup) :
    rows.foldl (fun (t : Table) (pattern, template) => t.insert pattern template) ⟨done⟩ = ⟨done ++ rows⟩ := by
  induction rows generalizing done with
  | nil => rw [List.foldl_nil, List.append_nil]
  | cons row rows ih =>
    obtain ⟨pattern, template⟩ := row
    -- the pattern is not listed yet
    have hnew : ¬ done.any (·.1 == pattern) = true := by
      rw [List.map_append, List.map_cons, List.nodup_append] at h
      intro hany
      obtain ⟨other, hother, heq⟩ := List.any_eq_true.1 hany
      exact h.2.2 other.1 (List.mem_map_of_mem hother) pattern (by simp) (eq_of_beq heq)
    have hinsert : Table.insert ⟨done⟩ pattern template = ⟨done ++ [(pattern, template)]⟩ := if_neg hnew
    rw [List.foldl_cons]
    dsimp only
    rw [hinsert, ih (done ++ [(pattern, template)]) (by simpa using h), List.append_assoc]
    rfl

/-- Rows with different patterns make the table of these rows. -/
lemma ofRows_eq {rows : List (Text × Text)} (h : (rows.map (·.1)).Nodup) : ofRows rows = ⟨rows⟩ :=
  foldl_insert [] rows h

/-- **Replacements are read as they are listed.** -/
theorem ofLines_of_listed {rows : List (Text × Text)} {lines : List Text} (hnodup : (rows.map (·.1)).Nodup)
    (hwritable : ∀ row ∈ rows, Writable row)
    (h : Listed (fun row : Text × Text => LineOf [row.1, row.2]) (fun line => IsRemark line ∨ '\t' ∉ line) rows lines) :
    Table.ofLines lines = ⟨rows⟩ := by
  have hrows : (lines.filter (!·.holdsNoFields)).filterMap Text.keyValue? = rows.map id := by
    rw [List.filterMap_filter]
    refine h.filterMap_eq ?_ ?_
    · intro row hrow line hline
      obtain ⟨hkey, hvalue, hunbroken, hleads⟩ := hwritable row hrow
      rw [hline.holdsNoFields_eq hleads]
      exact hline.keyValue?_eq hkey hvalue hunbroken
    · rintro line (hremark | hfree)
      · rw [hremark.holdsNoFields]
        rfl
      · rw [Text.keyValue?_of_notMem hfree, ite_self]
  rw [Table.ofLines, hrows, List.map_id, ofRows_eq hnodup]

end Table

/-- **Tables are read back as they are written.**  Rules whose fields are not empty and have no tab and no line break in
them, each on a line with runs of tabs between the fields, are read in their order from among remarks and lines with
fewer than three fields.  Replacements with different patterns, each on a line with a run of tabs between pattern and
template, are read in their order from among remarks and lines without a tab. -/
theorem listed_tables_read_back :
    (∀ (entries : List RegexRule.Entry) (rules : List RegexRule) (lines : List Text),
      (∀ e ∈ entries, e.Writable) → List.Forall₂ RegexRule.Entry.Denotes entries rules →
      Listed (fun e : RegexRule.Entry => LineOf e.fields) (fun line => IsRemark line ∨ IsShort line) entries lines →
      RegexRule.ofLines lines = .ok rules) ∧
    ∀ (rows : List (Text × Text)) (lines : List Text),
      (rows.map (·.1)).Nodup → (∀ row ∈ rows, Table.Writable row) →
      Listed (fun row : Text × Text => LineOf [row.1, row.2]) (fun line => IsRemark line ∨ '\t' ∉ line) rows lines →
      Table.ofLines lines = ⟨rows⟩ := by
  constructor
  · intro entries rules lines hwritable hdenotes hlisted
    exact RegexRule.ofLines_of_listed hwritable hdenotes hlisted
  · intro rows lines hnodup hwritable hlisted
    exact Table.ofLines_of_listed hnodup hwritable hlisted

/-- The fields of a rule that reports runs of a letter but one run. -/
def runsOfX : RegexRule.Entry := ⟨" txt:x".toList, "x+".toList, "No #x ".toList, some "xxx".toList⟩

/-- The rule. -/
def runsOfXRule : RegexRule :=
  ⟨" txt:x", .ofSource "x+" Pattern.noFlags, "No #x ".toList, some (.ofSource "xxx" Pattern.noFlags), none⟩

lemma runsOfX_writable : runsOfX.Writable :=
  ⟨by decide, by decide, 't', by decide, by decide⟩

lemma runsOfX_denotes : runsOfX.Denotes runsOfXRule :=
  ⟨by decide, by decide +kernel, rfl, by decide +kernel, rfl⟩

/-- A rule after a comment, a blank line and a line with two fields, and replacements of which one is by nothing and
one has tabs in its template. -/
theorem sample_tables_read_back :
    RegexRule.ofLines ["  # name".toList, " \t".toList, "half\t\t".toList,
      " txt:x\t\tx+\tNo #x \txxx\r\n".toList] = .ok [runsOfXRule] ∧
    Table.ofLines ["a\t".toList, "no tab".toList, "b\t\tc\t\td\n".toList, "#e\tf".toList] =
      ⟨[("a".toList, []), ("b".toList, "c\t\td".toList)]⟩ := by
  constructor
  · refine listed_tables_read_back.1 [runsOfX] _ _ (List.forall_mem_singleton.2 runsOfX_writable)
      (.cons runsOfX_denotes .nil) ?_
    refine .idle (.inl (.inr (by decide))) (.idle (.inl (.inl (by decide))) (.idle (.inr ?_) (.entry ?_ .nil)))
    · exact ⟨["half".toList, []], .more _ 1 (.last _), by decide, by decide⟩
    · exact ⟨" txt:x\t\tx+\tNo #x \txxx".toList, ['\r', '\n'],
        .more _ 1 (.more _ 0 (.more _ 0 (.last _))), by simp, by decide⟩
  · refine listed_tables_read_back.2 _ _ (by decide) ?_ ?_
    · refine List.forall_mem_cons.2 ⟨?_, List.forall_mem_singleton.2 ?_⟩
      · exact ⟨by decide, by decide, by decide, 'a', by decide, by decide⟩
      · exact ⟨by decide, by decide, by decide, 'b', by decide, by decide⟩
    · refine .entry ?_ (.idle (.inr (by decide)) (.entry ?_ (.idle (.inl (.inr (by decide))) .nil)))
      · exact ⟨"a\t".toList, [], .more _ 0 (.last _), by simp, by decide⟩
      · exact ⟨"b\t\tc\t\td".toList, ['\n'], .more _ 1 (.last _), by simp, by decide⟩

end MarkupLint
