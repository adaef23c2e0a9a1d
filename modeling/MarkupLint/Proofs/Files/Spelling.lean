import Mathlib.Data.Finset.Card
import Mathlib.Data.Nat.Digits.Lemmas
import MarkupLint.Files

/-!
# The spelling of paths

A file can be spelled in many ways: with single periods and doubled slashes, which a path does not keep, and with
double periods, which it does.  A spelling is `Plain` if it is the one that its path is written as, and has no double
periods.

* `Path.ofText_render`: a path is read back from what it is written as;
* `Tree.LeadsTo.eq_of_plain`: a file has no more than one plain spelling that starts in the working directory, and no
  more than one that starts with a given number of slashes;
* `Text.length_le_of_short`: there are no more names of files than `256` to the power of their greatest length
  and one.
-/

namespace MarkupLint

/-! ## Pieces between separators -/

namespace Text

variable {p : Char → Bool} {separator : Char} {piece text : Text} {pieces : List Text}

lemma splitOn_ne_nil (p : Char → Bool) (text : Text) : splitOn p text ≠ [] := by
  induction text with
  | nil => simp [splitOn]
  | cons c rest ih =>
    rw [splitOn]
    split
    · simp
    · split <;> simp

lemma not_of_mem_splitOn (h : piece ∈ splitOn p text) {c : Char} (hc : c ∈ piece) : p c = false := by
  induction text generalizing piece with
  | nil =>
    obtain rfl : piece = [] := by simpa [splitOn] using h
    cases hc
  | cons x rest ih =>
    rw [splitOn] at h
    split at h
    · obtain rfl : piece = [] := by simpa using h
      cases hc
    · next first later hsplit =>
      have hfirst : first ∈ splitOn p rest := hsplit ▸ List.mem_cons_self ..
      split at h
      · next hx =>
        rcases List.mem_cons.1 h with rfl | h
        · cases hc
        · exact ih (hsplit ▸ h) hc
      · next hx =>
        rcases List.mem_cons.1 h with rfl | h
        · rcases List.mem_cons.1 hc with rfl | hc
          · simpa using hx
          · exact ih hfirst hc
        · exact ih (hsplit ▸ List.mem_cons_of_mem _ h) hc

lemma splitOn_eq_singleton (h : ∀ c ∈ piece, p c = false) : splitOn p piece = [piece] := by
  induction piece with
  | nil => rfl
  | cons c piece ih =>
    obtain ⟨hc, hpiece⟩ := List.forall_mem_cons.1 h
    rw [splitOn, ih hpiece]
    simp [hc]

lemma splitOn_append_cons (h : ∀ c ∈ piece, p c = false) (hsep : p separator = true) (rest : Text) :
    splitOn p (piece ++ separator :: rest) = piece :: splitOn p rest := by
  induction piece with
  | nil =>
    obtain ⟨first, later, hsplit⟩ := List.exists_cons_of_ne_nil (splitOn_ne_nil p rest)
    rw [List.nil_append, splitOn, hsplit]
    simp [hsep]
  | cons c piece ih =>
    obtain ⟨hc, hpiece⟩ := List.forall_mem_cons.1 h
    rw [List.cons_append, splitOn, ih hpiece]
    simp [hc]

/-- Pieces without separators are found again between separators. -/
lemma splitOn_join (hne : pieces ≠ []) (h : ∀ piece ∈ pieces, separator ∉ piece) :
    splitOn (· = separator) (join [separator] pieces) = pieces := by
  induction pieces with
  | nil => exact absurd rfl hne
  | cons piece pieces ih =>
    obtain ⟨hpiece, hpieces⟩ := List.forall_mem_cons.1 h
    have hno : ∀ c ∈ piece, decide (c = separator) = false := by
      intro c hc
      rw [decide_eq_false_iff_not]
      rintro rfl
      exact hpiece hc
    cases pieces with
    | nil => exact splitOn_eq_singleton hno
    | cons next later =>
      rw [join, List.append_assoc, List.singleton_append, splitOn_append_cons hno (by simp),
        ih (List.cons_ne_nil _ _) hpieces]
      exact List.cons_ne_nil _ _

/-! ## The number of names -/

lemma toList_loop (bytes : ByteArray) (i : Nat) (done : List UInt8) :
    ByteArray.toList.loop bytes i done = done.reverse ++ bytes.data.toList.drop i := by
  induction i, done using ByteArray.toList.loop.induct bytes with
  | case1 i done hi ih =>
    have hlt : i < bytes.data.toList.length := hi
    have hget : bytes.get! i = bytes.data.toList[i] := by
      change bytes.data[i]! = _
      rw [getElem!_pos bytes.data i hi, Array.getElem_toList]
    rw [ByteArray.toList.loop, if_pos hi, ih, hget, List.reverse_cons, List.append_assoc,
      List.singleton_append, List.getElem_cons_drop]
  | case2 i done hi =>
    have hge : bytes.data.toList.length ≤ i := Nat.not_lt.1 hi
    rw [ByteArray.toList.loop, if_neg hi, List.drop_of_length_le hge, List.append_nil]

/-- Different texts have different bytes. -/
lemma toUtf8_injective : Function.Injective toUtf8 := by
  intro a b h
  have hdata : ∀ text : Text, toUtf8 text = (String.ofList text).toByteArray.data.toList := by
    intro text
    unfold toUtf8 ByteArray.toList
    rw [toList_loop]
    rfl
  rw [hdata, hdata, Array.toList_inj, ← ByteArray.ext_iff, String.toByteArray_inj] at h
  simpa using congrArg String.toList h

/-- The number whose digits are the bytes of a text, below a digit one. -/
def code (text : Text) : Nat := Nat.ofDigits 256 ((toUtf8 text).map UInt8.toNat ++ [1])

lemma digit_lt (text : Text) : ∀ x ∈ (toUtf8 text).map UInt8.toNat ++ [1], x < 256 := by
  intro x hx
  rcases List.mem_append.1 hx with hx | hx
  · obtain ⟨b, -, rfl⟩ := List.mem_map.1 hx
    exact b.toNat_lt
  · obtain rfl := List.mem_singleton.1 hx
    decide

lemma code_injective : Function.Injective code := by
  intro a b h
  have hdigits : ∀ text : Text, Nat.digits 256 text.code = (toUtf8 text).map UInt8.toNat ++ [1] := by
    intro text
    exact Nat.digits_ofDigits 256 (by decide) _ (digit_lt text) (by simp)
  have hbytes : (toUtf8 a).map UInt8.toNat = (toUtf8 b).map UInt8.toNat := by
    have := congrArg (Nat.digits 256) h
    rw [hdigits, hdigits] at this
    exact List.append_cancel_right this
  exact toUtf8_injective (List.map_injective_iff.2 (fun x y hxy => UInt8.toNat_inj.1 hxy) hbytes)

/-- **There are only so many short names.** -/
theorem length_le_of_short {names : List String} {size : Nat} (hnodup : names.Nodup)
    (hshort : ∀ name ∈ names, (toUtf8 name.toList).length ≤ size) : names.length ≤ 256 ^ (size + 1) := by
  have hinj : Function.Injective fun name : String => code name.toList :=
    fun a b h => String.toList_inj.1 (code_injective h)
  have hlt : ∀ name ∈ names, code name.toList < 256 ^ (size + 1) := by
    intro name hname
    refine Nat.lt_of_lt_of_le (Nat.ofDigits_lt_base_pow_length (by decide) (digit_lt _))
      (Nat.pow_le_pow_right (by decide) ?_)
    have hlen := hshort name hname
    simp only [List.length_append, List.length_map, List.length_singleton]
    omega
  calc names.length = (names.map fun name => code name.toList).toFinset.card := by
        rw [List.toFinset_card_of_nodup (hnodup.map hinj), List.length_map]
    _ ≤ (Finset.range (256 ^ (size + 1))).card := by
        refine Finset.card_le_card fun x hx => ?_
        obtain ⟨name, hname, rfl⟩ := List.mem_map.1 (List.mem_toFinset.1 hx)
        exact Finset.mem_range.2 (hlt name hname)
    _ = 256 ^ (size + 1) := Finset.card_range _

end Text

/-! ## Paths -/

namespace Path

variable {p q : Path}

/-- A path as it can be written: it starts with no slash, with one or with two, and its names are neither empty nor a
single period, and have no slash in them. -/
structure Proper (p : Path) : Prop where
  /-- The slashes that the path starts with. -/
  root_mem : p.root ∈ [[], ['/'], ['/', '/']]
  /-- What a name is not. -/
  name_ne : ∀ name ∈ p.names, name ≠ [] ∧ name ≠ ['.'] ∧ '/' ∉ name

lemma ofText_proper (text : Text) : (ofText text).Proper where
  root_mem := by
    change rootOf text ∈ _
    unfold rootOf
    split <;> simp
  name_ne := by
    intro name hname
    obtain ⟨hmem, hkept⟩ := List.mem_filter.1 hname
    refine ⟨?_, ?_, fun hslash => ?_⟩
    · rintro rfl
      simp at hkept
    · rintro rfl
      simp at hkept
    · simpa using Text.not_of_mem_splitOn hmem hslash

lemma Proper.parent (h : p.Proper) : p.parent.Proper :=
  ⟨h.root_mem, fun name hname => h.name_ne name (List.dropLast_subset _ hname)⟩

lemma Proper.join (hp : p.Proper) (hq : q.Proper) : (p.join q).Proper := by
  unfold Path.join
  split
  · refine ⟨hp.root_mem, fun name hname => ?_⟩
    rcases List.mem_append.1 hname with hname | hname
    · exact hp.name_ne name hname
    · exact hq.name_ne name hname
  · exact hq

/-- The names of a text that starts with a slash are those of the rest. -/
lemma names_ofText_cons (text : Text) : (ofText ('/' :: text)).names = (ofText text).names := by
  have hnone : ∀ c ∈ ([] : Text), decide (c = '/') = false := by simp
  have hsplit : Text.splitOn (· = '/') ('/' :: text) = [] :: Text.splitOn (· = '/') text :=
    Text.splitOn_append_cons hnone (by simp) text
  rw [ofText, ofText, hsplit]
  simp

lemma names_ofText_root {root : Text} (h : root ∈ [[], ['/'], ['/', '/']]) (text : Text) :
    (ofText (root ++ text)).names = (ofText text).names := by
  simp only [List.mem_cons, List.not_mem_nil, or_false] at h
  rcases h with rfl | rfl | rfl
  · rfl
  · exact names_ofText_cons text
  · exact (names_ofText_cons _).trans (names_ofText_cons text)

/-- The slashes in front of a text that starts with none are found again. -/
lemma rootOf_append {root text : Text} (h : root ∈ [[], ['/'], ['/', '/']]) (htext : text.head? ≠ some '/') :
    rootOf (root ++ text) = root := by
  have hnone : text.takeWhile (· = '/') = [] := by
    cases text with
    | nil => rfl
    | cons c text => exact List.takeWhile_cons_of_neg (by simpa using htext)
  simp only [List.mem_cons, List.not_mem_nil, or_false] at h
  rcases h with rfl | rfl | rfl <;> simp [rootOf, hnone]

/-- What names are written as starts with no slash. -/
lemma head?_join_ne {names : List Text} (h : ∀ name ∈ names, name ≠ [] ∧ name ≠ ['.'] ∧ '/' ∉ name) :
    (Text.join ['/'] names).head? ≠ some '/' := by
  cases names with
  | nil => simp [Text.join]
  | cons first later =>
    obtain ⟨hne, -, hslash⟩ := h first (List.mem_cons_self ..)
    obtain ⟨c, more, rfl⟩ := List.exists_cons_of_ne_nil hne
    have hc : c ≠ '/' := fun hc => hslash (hc ▸ List.mem_cons_self ..)
    cases later <;> simpa [Text.join] using hc

lemma names_ofText_join {names : List Text} (h : ∀ name ∈ names, name ≠ [] ∧ name ≠ ['.'] ∧ '/' ∉ name) :
    (ofText (Text.join ['/'] names)).names = names := by
  by_cases hnames : names = []
  · subst hnames
    rfl
  · rw [ofText, Text.splitOn_join hnames fun name hname => (h name hname).2.2]
    refine List.filter_eq_self.2 fun name hname => ?_
    obtain ⟨hne, hperiod, -⟩ := h name hname
    simp [hne, hperiod]

/-- **A path is read back from what it is written as.** -/
theorem ofText_render (h : p.Proper) : ofText p.render = p := by
  obtain ⟨root, names⟩ := p
  obtain ⟨hroot, hnames⟩ := h
  by_cases hnone : root.isEmpty ∧ names.isEmpty
  · obtain ⟨rfl, rfl⟩ : root = [] ∧ names = [] := by simpa using hnone
    rfl
  · have hrender : (⟨root, names⟩ : Path).render = root ++ Text.join ['/'] names := if_neg hnone
    have hroot' : (ofText (root ++ Text.join ['/'] names)).root = root := rootOf_append hroot (head?_join_ne hnames)
    have hnames' : (ofText (root ++ Text.join ['/'] names)).names = names :=
      (names_ofText_root hroot _).trans (names_ofText_join hnames)
    rw [hrender]
    calc ofText (root ++ Text.join ['/'] names)
        = ⟨(ofText (root ++ Text.join ['/'] names)).root, (ofText (root ++ Text.join ['/'] names)).names⟩ := rfl
      _ = ⟨root, names⟩ := by rw [hroot', hnames']

end Path

/-! ## Files -/

namespace Tree

variable {t : Tree} {p : Path} {here names place : List Text}

/-- What has no double periods leads where it says. -/
lemma follow_eq_ok (hnames : ['.', '.'] ∉ names) {found : List Text} (h : t.follow here names = .ok found) :
    found = names.reverse ++ here := by
  induction names generalizing here with
  | nil =>
    rw [follow] at h
    exact (Except.ok.inj h).symm
  | cons name names ih =>
    obtain ⟨hname, hnames⟩ := not_or.1 (List.mem_cons.not.1 hnames)
    unfold follow at h
    split at h
    · cases h
    · rw [if_neg (Ne.symm hname)] at h
      have hlast : names.isEmpty = true → name :: here = (name :: names).reverse ++ here := by
        intro hempty
        obtain rfl := List.isEmpty_iff.1 hempty
        rfl
      split at h
      · split at h
        · next hempty => exact (Except.ok.inj h).symm.trans (hlast hempty)
        · cases h
      · simpa using ih hnames h
      · split at h
        · next hempty => exact (Except.ok.inj h).symm.trans (hlast hempty)
        · cases h

lemma locate_eq_ok (h : t.locate p = .ok place) :
    (Text.toUtf8 p.render).length ≤ Path.maxLength ∧
      t.follow (t.start p.root).reverse p.names = .ok place.reverse := by
  unfold locate at h
  split at h
  · cases h
  split at h
  · cases h
  next hshort =>
  refine ⟨Nat.not_lt.1 hshort, ?_⟩
  cases hfollow : t.follow (t.start p.root).reverse p.names with
  | error e =>
    rw [hfollow] at h
    cases h
  | ok found =>
    rw [hfollow] at h
    obtain rfl : found.reverse = place := Except.ok.inj h
    rw [List.reverse_reverse]

/-- A path without double periods leads to its names, below the directory in which it starts. -/
lemma place_of_locate (hnames : ['.', '.'] ∉ p.names) (h : t.locate p = .ok place) :
    place = t.start p.root ++ p.names := by
  have hreverse := follow_eq_ok hnames (locate_eq_ok h).2
  rw [← List.reverse_append] at hreverse
  exact List.reverse_injective hreverse

/-- The name leads to the place of a file. -/
def LeadsTo (t : Tree) (name : String) (place : List Text) : Prop :=
  t.locate (.ofText name.toList) = .ok place ∧ ∃ bytes, t.at? place = some (.file bytes)

/-- A path at which there is a file is not too long. -/
lemma length_le_of_isFile (h : t.isFile p = .ok true) : (Text.toUtf8 p.render).length ≤ Path.maxLength := by
  unfold isFile at h
  split at h
  · next bytes hfind =>
    unfold find at hfind
    split at hfind
    · cases hfind
    · next place hlocate => exact (locate_eq_ok hlocate).1
  · cases h
  · cases h
  · cases h

/-- The name is plain: it is what its path is written as, and has no double periods. -/
structure Plain (name : String) : Prop where
  /-- The name is what its path is written as. -/
  render_eq : (Path.ofText name.toList).render = name.toList
  /-- There are no double periods. -/
  no_parent : ['.', '.'] ∉ (Path.ofText name.toList).names

instance (name : String) : Decidable (Plain name) :=
  decidable_of_iff ((Path.ofText name.toList).render = name.toList ∧
    ['.', '.'] ∉ (Path.ofText name.toList).names) ⟨fun h => ⟨h.1, h.2⟩, fun h => ⟨h.1, h.2⟩⟩

/-- **A file has no more than one plain name** with a given root. -/
theorem LeadsTo.eq_of_plain {a b : String} (ha : Plain a) (hb : Plain b)
    (hroot : (Path.ofText a.toList).root = (Path.ofText b.toList).root) (hta : t.LeadsTo a place)
    (htb : t.LeadsTo b place) : a = b := by
  have hplace : t.start (Path.ofText a.toList).root ++ (Path.ofText a.toList).names =
      t.start (Path.ofText a.toList).root ++ (Path.ofText b.toList).names := by
    conv_rhs => rw [hroot]
    exact (place_of_locate ha.no_parent hta.1).symm.trans (place_of_locate hb.no_parent htb.1)
  have hnames : (Path.ofText a.toList).names = (Path.ofText b.toList).names := List.append_cancel_left hplace
  have hpath : Path.ofText a.toList = Path.ofText b.toList := by
    calc Path.ofText a.toList
        = ⟨(Path.ofText a.toList).root, (Path.ofText a.toList).names⟩ := rfl
      _ = Path.ofText b.toList := by rw [hroot, hnames]
  refine String.toList_inj.1 ?_
  rw [← ha.render_eq, ← hb.render_eq, hpath]

end Tree

end MarkupLint
