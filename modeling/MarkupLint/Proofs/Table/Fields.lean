import Mathlib.Data.List.TakeDrop
import Mathlib.Data.List.TakeWhile
import MarkupLint.Text.File

/-!
# Lines of fields

What is read from a line of fields, told from how the line is written:

* `holdsNoFields_iff`: a line is passed over if its first character that is not blank, if there is one, is a number
  sign;
* `Tabbed fields body`: the fields with a run of tabs between neighbours, and `LineOf fields line`: these with carriage
  returns and line feeds at the end;
* `LineOf.fields_eq`: fields that are not empty and have no tab and no line break are read as they are written;
* `LineOf.keyValue?_eq`: so is a field followed by a text, which may have tabs in it and may be empty.
-/

namespace MarkupLint

namespace Text

variable {p : Char → Bool} {line body field : Text} {fields : List Text} {c : Char}

/-! ## The first character that is not blank -/

/-- The first character of a text that is not blank. -/
def firstInk (text : Text) : Option Char := List.find? (!isBlank ·) text

lemma firstInk_append (h : firstInk field = some c) (rest : Text) : firstInk (field ++ rest) = some c := by
  unfold firstInk at h ⊢
  rw [List.find?_append, h]
  rfl

lemma head?_trimStart (text : Text) : text.trimStart.head? = firstInk text := by
  induction text with
  | nil => rfl
  | cons d text ih =>
    unfold trimStart firstInk at *
    rw [List.dropWhile_cons, List.find?_cons]
    cases hd : isBlank d with
    | true => simpa [hd] using ih
    | false => simp

/-- A character that fails the test stays, with all before it. -/
lemma dropEndWhile_append_cons (hc : p c = false) (before after : Text) :
    dropEndWhile (before ++ c :: after) p = before ++ c :: dropEndWhile after p := by
  have hstop : (c :: before.reverse).dropWhile p = c :: before.reverse :=
    List.dropWhile_cons_of_neg (by simp [hc])
  have hreverse : (before ++ c :: after).reverse = after.reverse ++ c :: before.reverse := by simp
  unfold dropEndWhile
  rw [hreverse, List.dropWhile_append, hstop]
  split
  · next hempty => simp [List.isEmpty_iff.1 hempty]
  · simp

lemma head?_trim (text : Text) : text.trim.head? = firstInk text := by
  rw [← head?_trimStart]
  cases hstart : text.trimStart with
  | nil =>
    rw [trim, hstart]
    rfl
  | cons d rest =>
    -- what is left at the start is not blank, so that nothing is taken from it at the end
    have hd : isBlank d = false := by
      have hink := head?_trimStart text
      rw [hstart] at hink
      simpa using List.find?_some hink.symm
    rw [trim, hstart, trimEnd, show d :: rest = [] ++ d :: rest from rfl, dropEndWhile_append_cons hd]
    rfl

/-- **Blank lines and comments** are the lines whose first character that is not blank, if there is one, is a number
sign. -/
theorem holdsNoFields_iff : line.holdsNoFields = true ↔ ∀ c, firstInk line = some c → c = '#' := by
  rw [← head?_trim, holdsNoFields]
  cases line.trim with
  | nil => simp
  | cons d rest => simp

/-! ## The end of a line -/

/-- No carriage return and no line feed is in the text. -/
def Unbroken (text : Text) : Prop := '\r' ∉ text ∧ '\n' ∉ text

instance (text : Text) : Decidable (Unbroken text) := inferInstanceAs (Decidable (_ ∧ _))

/-- What ends a line is cut off, and nothing else where no such character is before it. -/
lemma chomp_append {breaks : Text} (hbody : Unbroken body) (hbreaks : ∀ c ∈ breaks, c = '\r' ∨ c = '\n') :
    (body ++ breaks).chomp = body := by
  have hall : ∀ c ∈ breaks.reverse, (c == '\r' || c == '\n') = true := by
    intro c hc
    simpa using hbreaks c (List.mem_reverse.1 hc)
  have hcut : (body ++ breaks).chomp = body.chomp := by
    unfold chomp dropEndWhile
    rw [List.reverse_append, List.dropWhile_append_of_pos hall]
  rw [hcut]
  rcases List.eq_nil_or_concat body with rfl | ⟨before, c, rfl⟩
  · rfl
  · rw [List.concat_eq_append] at hbody ⊢
    have hc : (c == '\r' || c == '\n') = false := by
      rw [Bool.or_eq_false_iff, beq_eq_false_iff_ne, beq_eq_false_iff_ne]
      exact ⟨fun heq => hbody.1 (by simp [heq]), fun heq => hbody.2 (by simp [heq])⟩
    rw [chomp, dropEndWhile_append_cons hc]
    rfl

/-! ## Runs of tabs -/

/-- A run of tabs, one more than the given number. -/
def tabs (more : Nat) : Text := List.replicate (more + 1) '\t'

lemma chomp_append_tabs (field : Text) (more : Nat) (rest : Text) :
    (field ++ tabs more ++ rest).chomp = field ++ tabs more ++ rest.chomp := by
  have hend : field ++ tabs more ++ rest = (field ++ List.replicate more '\t') ++ '\t' :: rest := by
    simp [tabs, List.replicate_succ']
  rw [hend, chomp, dropEndWhile_append_cons (by decide)]
  simp [tabs, List.replicate_succ', chomp]

lemma splitTabs_append (hfield : '\t' ∉ field) {rest piece : Text} {pieces : List Text}
    (h : splitTabs rest = piece :: pieces) : splitTabs (field ++ rest) = (field ++ piece) :: pieces := by
  induction field with
  | nil => exact h
  | cons c field ih =>
    rw [List.mem_cons, not_or] at hfield
    rw [List.cons_append, splitTabs, if_neg (Ne.symm hfield.1), ih hfield.2]
    rfl

lemma splitTabs_tabs {rest : Text} (hrest : rest.head? ≠ some '\t') (more : Nat) :
    splitTabs (tabs more ++ rest) = [] :: splitTabs rest := by
  induction more with
  | zero =>
    rw [tabs, List.replicate_one, List.singleton_append, splitTabs, if_pos rfl, if_neg hrest]
  | succ more ih =>
    have hmore : (tabs more ++ rest).head? = some '\t' := rfl
    rw [tabs, List.replicate_succ, List.cons_append, splitTabs, if_pos rfl]
    exact (if_pos hmore).trans ih

/-- A text without tabs is one field. -/
lemma splitTabs_of_notMem (hfield : '\t' ∉ field) : splitTabs field = [field] := by
  have h : splitTabs (field ++ []) = [field ++ []] := splitTabs_append hfield rfl
  rwa [List.append_nil] at h

/-- **A field ends at a run of tabs**, which goes up to a character that is no tab. -/
theorem splitTabs_cons (hfield : '\t' ∉ field) {rest : Text} (hrest : rest.head? ≠ some '\t') (more : Nat) :
    splitTabs (field ++ tabs more ++ rest) = field :: splitTabs rest := by
  rw [List.append_assoc, splitTabs_append hfield (splitTabs_tabs hrest more), List.append_nil]

/-! ## Written lines -/

/-- Fields with a run of tabs between neighbours. -/
inductive Tabbed : List Text → Text → Prop
  /-- The last field. -/
  | last (field : Text) : Tabbed [field] field
  /-- A field before others. -/
  | more (field : Text) (more : Nat) {fields : List Text} {rest : Text} (h : Tabbed fields rest) :
      Tabbed (field :: fields) (field ++ tabs more ++ rest)

/-- A line that writes fields: these with runs of tabs between them, and what ends the line. -/
def LineOf (fields : List Text) (line : Text) : Prop :=
  ∃ body breaks, Tabbed fields body ∧ (∀ c ∈ breaks, c = '\r' ∨ c = '\n') ∧ line = body ++ breaks

/-- A character other than a tab that is in no field is not in the line. -/
lemma Tabbed.notMem (h : Tabbed fields body) (hc : c ≠ '\t') (hfields : ∀ field ∈ fields, c ∉ field) : c ∉ body := by
  induction h with
  | last field => exact hfields field (List.mem_singleton_self field)
  | more field more h ih =>
    obtain ⟨hfield, hfields⟩ := List.forall_mem_cons.1 hfields
    have htabs : c ∉ tabs more := fun hmem => hc (List.eq_of_mem_replicate hmem)
    simp only [List.mem_append, not_or]
    exact ⟨⟨hfield, htabs⟩, ih hfields⟩

lemma LineOf.chomp (h : LineOf fields line) (hfields : ∀ field ∈ fields, Unbroken field) :
    Tabbed fields line.chomp := by
  obtain ⟨body, breaks, htabbed, hbreaks, rfl⟩ := h
  have hbody : Unbroken body :=
    ⟨htabbed.notMem (by decide) fun field hfield => (hfields field hfield).1,
      htabbed.notMem (by decide) fun field hfield => (hfields field hfield).2⟩
  rwa [chomp_append hbody hbreaks]

lemma Tabbed.head?_ne (h : Tabbed fields body) (hfields : ∀ field ∈ fields, field ≠ [] ∧ '\t' ∉ field) :
    body.head? ≠ some '\t' := by
  cases h with
  | last =>
    intro hhead
    exact (hfields body (by simp)).2 (List.mem_of_head? hhead)
  | more field more h =>
    obtain ⟨hfield, hfree⟩ := hfields field (by simp)
    obtain ⟨c, characters, rfl⟩ := List.exists_cons_of_ne_nil hfield
    intro hhead
    obtain rfl := Option.some.inj hhead
    exact hfree List.mem_cons_self

lemma Tabbed.splitTabs_eq (h : Tabbed fields body) (hfields : ∀ field ∈ fields, field ≠ [] ∧ '\t' ∉ field) :
    splitTabs body = fields := by
  induction h with
  | last field => exact splitTabs_of_notMem (hfields field (by simp)).2
  | more field more h ih =>
    obtain ⟨hfield, hfields⟩ := List.forall_mem_cons.1 hfields
    rw [splitTabs_cons hfield.2 (h.head?_ne hfields), ih hfields]

/-- **Fields are read as they are written**, if they are not empty and have no tab and no line break in them. -/
theorem LineOf.fields_eq (h : LineOf fields line) (hfields : ∀ field ∈ fields, field ≠ [] ∧ '\t' ∉ field)
    (hunbroken : ∀ field ∈ fields, Unbroken field) : line.fields = fields :=
  (h.chomp hunbroken).splitTabs_eq hfields

/-- A line with fewer than three fields, which may be empty. -/
def IsShort (line : Text) : Prop :=
  ∃ fields, Tabbed fields line ∧ fields.length < 3 ∧ ∀ field ∈ fields, '\t' ∉ field

lemma notMem_chomp (h : '\t' ∉ field) : '\t' ∉ field.chomp :=
  fun hmem => h ((field.dropEndWhile_isPrefix _).subset hmem)

/-- Fewer than three fields are read from a line that has fewer.  What ends the line is cut off from the last one. -/
lemma IsShort.length_fields_lt (h : IsShort line) : line.fields.length < 3 := by
  obtain ⟨fields, htabbed, hlength, hfree⟩ := h
  cases htabbed with
  | last =>
    rw [Text.fields, splitTabs_of_notMem (notMem_chomp (hfree line (by simp)))]
    simp
  | @more first more fields rest hrest =>
    cases hrest with
    | last =>
      have hlast := notMem_chomp (hfree rest (by simp))
      have hhead : rest.chomp.head? ≠ some '\t' := fun hhead => hlast (List.mem_of_head? hhead)
      rw [Text.fields, chomp_append_tabs, splitTabs_cons (hfree first (by simp)) hhead, splitTabs_of_notMem hlast]
      simp
    | more second more hrest =>
      -- there would be a third field
      cases hrest <;> (simp only [List.length_cons] at hlength; omega)

/-! ## A key and a value -/

lemma ne_tab_of_notMem (h : '\t' ∉ field) : ∀ c ∈ field, decide (c ≠ '\t') = true := by
  intro c hc
  rw [decide_eq_true_eq]
  rintro rfl
  exact h hc

lemma span_tabs {key value : Text} (hkey : '\t' ∉ key) (more : Nat) :
    (key ++ tabs more ++ value).span (· ≠ '\t') = (key, tabs more ++ value) := by
  have hpass := ne_tab_of_notMem hkey
  have hstop : (tabs more ++ value).takeWhile (· ≠ '\t') = [] ∧
      (tabs more ++ value).dropWhile (· ≠ '\t') = tabs more ++ value := by
    simp [tabs, List.replicate_succ]
  rw [List.span_eq_takeWhile_dropWhile, List.append_assoc, List.takeWhile_append_of_pos hpass,
    List.dropWhile_append_of_pos hpass, hstop.1, hstop.2, List.append_nil]

lemma dropWhile_tabs {value : Text} (hvalue : value.head? ≠ some '\t') (more : Nat) :
    (tabs more ++ value).dropWhile (· = '\t') = value := by
  have htabs : ∀ c ∈ tabs more, decide (c = '\t') = true := by
    intro c hc
    simpa using List.eq_of_mem_replicate hc
  rw [List.dropWhile_append_of_pos htabs]
  cases value with
  | nil => rfl
  | cons c value => exact List.dropWhile_cons_of_neg (by simpa using hvalue)

/-- **A key and a value are read as they are written**, if the value does not begin with a tab.  It may have tabs in it,
and may be empty. -/
theorem LineOf.keyValue?_eq {key value : Text} (h : LineOf [key, value] line) (hkey : '\t' ∉ key)
    (hvalue : value.head? ≠ some '\t') (hunbroken : ∀ field ∈ [key, value], Unbroken field) :
    line.keyValue? = some (key, value) := by
  have htabbed := h.chomp hunbroken
  unfold keyValue?
  generalize line.chomp = body at htabbed
  cases htabbed with
  | more key more hrest =>
    cases hrest with
    | last value =>
      rw [span_tabs hkey]
      exact congrArg (fun rest => some (key, rest)) (dropWhile_tabs hvalue more)
    | more second more hrest => cases hrest

lemma keyValue?_of_notMem (h : '\t' ∉ line) : line.keyValue? = none := by
  have hdrop : line.chomp.dropWhile (· ≠ '\t') = [] :=
    List.dropWhile_eq_nil_iff.2 (ne_tab_of_notMem (notMem_chomp h))
  rw [keyValue?, List.span_eq_takeWhile_dropWhile, hdrop]

end Text

end MarkupLint
