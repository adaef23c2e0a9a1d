import MarkupLint.Document
import MarkupLint.Proofs.Edit.Pieces

/-!
# Erasing matches

Replacing every match of a pattern by nothing leaves what stands between the matches.  `Pattern.erased` says what is
left from a place of the text on, so that it can be followed character by character:

* `erased_cons`: where no match starts, the character stays;
* `erased_append`: where a match starts that is not empty, its characters go, and there is one match less to erase;
* `Document.revise_erase`: the edit never fails, and leaves this text.
-/

namespace MarkupLint

/-! ## From place to place -/

namespace Pattern

variable {p : Pattern} {s : Array Char} {i limit : Nat} {m : Found}

lemma start_of_matchAt (h : p.matchAt s i = some m) : m.start = i := by
  obtain ⟨q, -, rfl⟩ := Option.map_eq_some_iff.1 h
  rfl

lemma captureOf_text (s : Array Char) (a b : Nat) : (captureOf s a b).text = Text.slice s.toList a b := by
  simp [captureOf, Text.slice, List.extract_eq_take_drop]

lemma whole_text_of_search {text : Text} {first : Nat} (h : p.search text.toArray first = some m) :
    m.whole.text = text.slice m.start m.stop := by
  obtain ⟨i, q, -, -, -, rfl⟩ := search_passes h
  exact captureOf_text text.toArray i q.offset

/-- No match starts after the end of the subject. -/
lemma search_eq_none (h : s.size < i) : p.search s i = none := by
  rw [search, Nat.sub_eq_zero_of_le h]
  rfl

lemma search_of_matchAt (hi : i ≤ s.size) (h : p.matchAt s i = some m) : p.search s i = some m := by
  have hfuel : s.size + 1 - i = s.size - i + 1 := by omega
  rw [search, hfuel, searchFrom, h]

lemma search_succ (h : p.matchAt s i = none) : p.search s i = p.search s (i + 1) := by
  by_cases hi : i ≤ s.size
  · have hfuel : s.size + 1 - i = s.size - i + 1 := by omega
    have hrest : s.size + 1 - (i + 1) = s.size - i := by omega
    rw [search, search, hfuel, hrest, searchFrom, h]
  · rw [search_eq_none (by omega), search_eq_none (by omega)]

lemma scan_of_matchAt (hi : i ≤ s.size) (h : p.matchAt s i = some m) :
    p.scan s (limit + 1) i = m :: p.scan s limit m.resume := by
  rw [scan, search_of_matchAt hi h]

lemma scan_succ (h : p.matchAt s i = none) : p.scan s limit i = p.scan s limit (i + 1) := by
  cases limit with
  | zero => rfl
  | succ limit => rw [scan, scan, search_succ h]

lemma scan_eq_nil (h : s.size < i) : p.scan s limit i = [] := by
  cases limit with
  | zero => rfl
  | succ limit => rw [scan, search_eq_none h]

end Pattern

/-! ## What stands between matches -/

namespace Text

variable {text : Text} {a b c : Nat}

lemma slice_append_drop (h : a ≤ b) : text.slice a b ++ text.drop b = text.drop a := by
  have hdrop : text.drop b = (text.drop a).drop (b - a) := by rw [List.drop_drop, Nat.add_sub_cancel' h]
  rw [slice, hdrop, List.take_append_drop]

lemma slice_append_slice (hab : a ≤ b) (hbc : b ≤ c) : text.slice a b ++ text.slice b c = text.slice a c := by
  have hdrop : text.drop b = (text.drop a).drop (b - a) := by rw [List.drop_drop, Nat.add_sub_cancel' hab]
  have hsum : c - a = b - a + (c - b) := by omega
  rw [slice, slice, slice, hdrop, hsum, List.take_add]

end Text

namespace Edit

open Piece

variable {text : Text} {consumed : Nat} {m : Found} {found : List Found}

/-- The text from the offset `consumed` on, without matches. -/
def without (text : Text) (consumed : Nat) (found : List Found) : Text :=
  render text (splice text.length consumed (found.map fun m => (m, [])))

@[simp] lemma without_nil : without text consumed [] = text.drop consumed := by
  simp [without, splice, render, Piece.text, slice_length]

@[simp] lemma without_cons :
    without text consumed (m :: found) = text.slice consumed m.start ++ without text m.stop found := by
  simp [without, splice, render, Piece.text]

/-- What comes before the first match stays. -/
lemma without_skip {start : Nat} (hle : consumed ≤ start) (h : Pattern.InOrder text.length start found) :
    without text consumed found = text.slice consumed start ++ without text start found := by
  cases found with
  | nil => rw [without_nil, without_nil, Text.slice_append_drop hle]
  | cons m found =>
    rw [without_cons, without_cons, ← List.append_assoc, Text.slice_append_slice hle h.1.start_le]

lemma targets_eq_scan (p : Pattern) (text : Text) : targets text p true 0 = p.scan text.toArray maxMatches 0 := by
  have hclamp : clamp 0 0 text.length = 0 := by
    unfold clamp
    omega
  rw [targets, hclamp, if_pos rfl]

/-- A replacement whose texts can be made puts them in the place of the matches. -/
lemma apply_replace {p : Pattern} {r : Replacement} {everywhere : Bool} {start : Int} {news : List Text}
    (hnews : (targets text p everywhere start).mapM (r.textFor p) = .ok news) :
    ∃ result, (replace p r everywhere start).apply text = .ok result ∧
      result.text = render text (splice text.length 0 ((targets text p everywhere start).zip news)) := by
  obtain ⟨result, hresult⟩ : ∃ result, replaced text p r everywhere start = .ok result := by
    unfold replaced
    dsimp only
    rw [hnews]
    exact ⟨_, rfl⟩
  obtain ⟨pieces, hpieces, hmade⟩ := replaced_madeOf hresult
  simp only [Edit.pieces, hnews] at hpieces
  obtain rfl := Except.ok.inj hpieces
  exact ⟨result, hresult, hmade.text_eq⟩

/-- **Erasing never fails.** -/
lemma apply_erase (p : Pattern) (text : Text) :
    ∃ result, (replace p (.template []) true 0).apply text = .ok result ∧
      result.text = without text 0 (p.scan text.toArray maxMatches 0) := by
  have hnews : (targets text p true 0).mapM ((Replacement.template []).textFor p) =
      .ok ((targets text p true 0).map fun _ => []) := List.mapM_pure
  obtain ⟨result, hresult, htext⟩ := apply_replace hnews
  rw [← List.map_prod_left_eq_zip, targets_eq_scan] at htext
  exact ⟨result, hresult, htext⟩

end Edit

namespace Pattern

variable {p : Pattern} {limit : Nat} {c : Char} {before after w : Text} {m : Found}

/-- What is left after `before` of the text `before ++ after`, without the first matches from there on, `limit` at
most. -/
def erased (p : Pattern) (limit : Nat) (before after : Text) : Text :=
  Edit.without (before ++ after) before.length (p.scan (before ++ after).toArray limit before.length)

lemma erased_nil (h : p.matchAt before.toArray before.length = none) : p.erased limit before [] = [] := by
  rw [erased, List.append_nil, scan_succ h, scan_eq_nil (by simp), Edit.without_nil, List.drop_length]

/-- **Where no match starts, the character stays.** -/
theorem erased_cons (h : p.matchAt (before ++ c :: after).toArray before.length = none) :
    p.erased limit before (c :: after) = c :: p.erased limit (before ++ [c]) after := by
  have htext : before ++ [c] ++ after = before ++ c :: after := by simp
  have hlength : (before ++ [c]).length = before.length + 1 := by simp
  have horder := scan_inOrder p (before ++ c :: after).toArray limit (before.length + 1)
  rw [List.size_toArray] at horder
  rw [erased, erased, htext, hlength, scan_succ h, Edit.without_skip (Nat.le_succ _) horder]
  simp [Text.slice]

/-- **Where a match starts that is not empty, its characters go.** -/
theorem erased_append (hw : w ≠ []) (h : p.matchAt (before ++ (w ++ after)).toArray before.length = some m)
    (hstop : m.stop = before.length + w.length) :
    p.erased (limit + 1) before (w ++ after) = p.erased limit (before ++ w) after := by
  have htext : before ++ w ++ after = before ++ (w ++ after) := List.append_assoc ..
  have hlength : (before ++ w).length = m.stop := by rw [hstop, List.length_append]
  have hpos := List.length_pos_iff.2 hw
  have hstart := start_of_matchAt h
  have hresume : m.resume = m.stop := if_pos (by omega)
  rw [erased, erased, htext, hlength, scan_of_matchAt (by simp) h, hresume, Edit.without_cons, hstart]
  simp [Text.slice]

end Pattern

lemma Document.revise_erase (d : Document) (p : Pattern) :
    (d.revise (.replace p (.template []) true 0)).current = p.erased Edit.maxMatches [] d.current := by
  obtain ⟨r, hr, htext⟩ := Edit.apply_erase p d.current
  rw [revise, apply, hr]
  exact htext

end MarkupLint
