import MarkupLint.Proofs.Pattern.Faults

/-!
# Faults of patterns, found by reading

The steps of the reading of a pattern, from the options in force on.  The options of all groups that are open choose
an alphabet only if the pattern turns it on (`Reading.Chosen`).  `compile_blames` is about the reading of all of a
pattern: if it fails, the pattern is to blame.
-/

namespace MarkupLint

namespace Pattern

/-! ## The options in force -/

/-- The alphabets of the options are turned on in the pattern. -/
def Flags.Chosen (source : Text) (f : Flags) : Prop :=
  (f.ascii = true → TurnsOn source 'a') ∧ (f.unicode = true → TurnsOn source 'u')

/-- The alphabets of the options of all open groups are turned on in the pattern. -/
def Reading.Chosen (source : Text) (r : Reading) : Prop :=
  r.level.flags.Chosen source ∧ ∀ l ∈ r.outer, l.flags.Chosen source

/-- The reading goes on in the pattern. -/
def Continues (source : Text) (out : Reading × Cursor) : Prop := out.1.Chosen source ∧ out.2.rest <:+ source

section Chosen

variable {source letters : Text} {f : Flags} {r : Reading}

lemma switch_chosen (hf : f.Chosen source) {on : Bool} {e : Char} (he : on = true → TurnsOn source e) :
    (f.switch on e).Chosen source := by
  unfold Flags.switch
  split
  · exact hf
  · exact hf
  · exact hf
  · exact hf
  · exact ⟨he, hf.2⟩
  · exact ⟨hf.1, he⟩
  · exact hf
  · exact hf

lemma foldl_switch_chosen (hf : f.Chosen source) {on : Bool} (h : ∀ e ∈ letters, on = true → TurnsOn source e) :
    (letters.foldl (Flags.switch on) f).Chosen source := by
  induction letters generalizing f with
  | nil => exact hf
  | cons e letters ih =>
    obtain ⟨he, hletters⟩ := List.forall_mem_cons.1 h
    exact ih (switch_chosen hf he) hletters

lemma scoped_chosen (hf : f.Chosen source) {change : FlagChange} (h : ∀ e ∈ change.on, TurnsOn source e) :
    (f.scoped change).Chosen source := by
  unfold Flags.scoped Flags.extend
  refine foldl_switch_chosen (foldl_switch_chosen ?_ fun e he _ => h e he) fun e _ hoff => by cases hoff
  split
  · exact ⟨nofun, nofun⟩
  · exact hf

lemma open_chosen (hr : r.Chosen source) (hf : f.Chosen source) (opening : Opening) (offset : Nat) :
    (r.open_ opening offset f).Chosen source := ⟨hf, List.forall_mem_cons.2 hr⟩

lemma openWith_chosen (hr : r.Chosen source) (opening : Opening) (offset : Nat) :
    (r.openWith opening offset).Chosen source := open_chosen hr hr.1 opening offset

lemma close_chosen (hr : r.Chosen source) {outside : Level} {outer : List Level} (h : r.outer = outside :: outer) :
    (r.close outside outer).Chosen source := by
  obtain ⟨hlevel, houter⟩ := hr
  rw [h, List.forall_mem_cons] at houter
  unfold Reading.close
  dsimp only
  split <;> exact houter

/-- **Two alphabets at once are both turned on in the pattern.** -/
lemma checkAlphabets_settles (hr : r.Chosen source) : Settles (Blames source) (fun _ => True) r.checkAlphabets := by
  unfold Reading.checkAlphabets
  split
  · next h => exact Or.inr (.mixedAlphabets (hr.1.1 h.1) (hr.1.2 h.2))
  · trivial

end Chosen

/-! ## Escapes, repetitions and groups -/

section Reading

variable {source : Text} {r : Reading} {c : Cursor}

lemma checkLimit_settles (r : Reading) (number : Nat) (c : Cursor) :
    Settles (Blames source) (fun _ => True) (r.checkLimit number c) := by
  unfold Reading.checkLimit
  split
  · trivial
  · split
    · exact settles_fault rfl
    · split
      · exact settles_fault rfl
      · trivial

lemma pushAgain_settles (hr : r.Chosen source) (number start : Nat) (c : Cursor) :
    Settles (Blames source) (·.Chosen source) (r.pushAgain number start c) := by
  unfold Reading.pushAgain
  split
  · exact settles_fault rfl
  · exact (checkLimit_settles r number c).bind fun _ _ => hr

lemma digitEscape_settles (hr : r.Chosen source) (hc : c.rest <:+ source) (e : Char) :
    Settles (Blames source) (Continues source) (digitEscape r e c) := by
  unfold digitEscape
  refine (takeWhile_settles _ _ c).bind ?_
  rintro ⟨second, c₁⟩ ⟨hc₁, -⟩
  have hc₁ : c₁.rest <:+ source := suffix_of_eq hc hc₁
  refine Settles.ite_bind (fun _ => takeWhile_settles isOctal 1 c₁) (fun _ => ⟨rfl, by simp⟩) ?_
  rintro ⟨third, c₂⟩ ⟨hc₂, -⟩
  have hc₂ : c₂.rest <:+ source := suffix_of_eq hc₁ hc₂
  dsimp only
  split
  · split
    · exact settles_fault rfl
    · exact ⟨hr, hc₂⟩
  · split
    · exact settles_fault rfl
    · exact (pushAgain_settles hr _ _ c₂).bind fun r' hr' => ⟨hr', hc₂⟩

lemma readEscape_settles (hr : r.Chosen source) (hc : c.rest <:+ source) (e : Char) :
    Settles (Blames source) (Continues source) (readEscape r e c) := by
  unfold readEscape
  split
  · exact ⟨hr, hc⟩
  · exact ⟨hr, hc⟩
  · exact ⟨hr, hc⟩
  · next code hcode =>
    refine (codeEscape?_settles hc hcode).bind ?_
    rintro ⟨code, c'⟩ hc'
    exact ⟨hr, hc'⟩
  · split
    · refine (takeWhile_settles _ _ c).bind ?_
      rintro ⟨digits, c'⟩ ⟨hc', -⟩
      exact ⟨hr, suffix_of_eq hc hc'⟩
    · split
      · exact digitEscape_settles hr hc e
      · split
        · exact settles_fault rfl
        · exact ⟨hr, hc⟩

/-- **A bound with too many digits or of too great a value stands in the pattern.** -/
lemma readBound_settles {digits : Text} (hbound : IsBound source digits) (hdigits : ∀ e ∈ digits, e.isDigit = true) :
    Settles (Blames source) (fun _ => True) (readBound digits) := by
  unfold readBound
  split
  · trivial
  · split
    · next hlong => exact Or.inr (.longNumber hbound hdigits hlong)
    · dsimp only
      split
      · trivial
      · next hlarge => exact Or.inr (.largeRepeat hbound hdigits (Nat.le_of_not_lt hlarge))

lemma isBound_of_suffix {digits rest : Text} {opening closing : Char} (hopening : opening ∈ ['\x7b', ','])
    (hclosing : closing ∈ [',', '\x7d']) (h : opening :: (digits ++ closing :: rest) <:+ source) :
    IsBound source digits := by
  obtain ⟨before, rfl⟩ := h
  exact ⟨opening, hopening, closing, hclosing, before, rest, by simp⟩

lemma readBounds_settles (hc : '\x7b' :: c.rest <:+ source) :
    Settles (Blames source) (fun out => ∀ bounds ∈ out, bounds.2.2.rest <:+ source) (readBounds c) := by
  unfold readBounds
  split
  · exact nofun
  · refine (takeWhile_settles Char.isDigit _ c).bind ?_
    rintro ⟨low, c₁⟩ ⟨hlow, hlowDigits⟩
    refine (accept_settles c₁ ',').bind ?_
    rintro ⟨comma, c₂⟩ hcomma
    dsimp only at hlow hcomma ⊢
    -- the digits after the comma, or the same ones if there is none
    have hhigh : ∀ {next : Text × Cursor → Except Fault (Option (Nat × Option Nat × Cursor))} {post},
        (∀ out : Text × Cursor, (∀ e ∈ out.1, e.isDigit = true) →
          (∀ rest, out.2.rest = '\x7d' :: rest → IsBound source low ∧ IsBound source out.1 ∧ rest <:+ source) →
          Settles (Blames source) post (next out)) →
        Settles (Blames source) post (if comma = true then c₂.takeWhile Char.isDigit c₂.rest.length >>= next
          else pure (low, c₂) >>= next) := by
      intro next post hnext
      rw [hlow] at hc
      have hc₁ : c₁.rest <:+ source := (List.suffix_append ('\x7b' :: low) _).trans hc
      cases comma with
      | true =>
        replace hcomma : c₁.rest = ',' :: c₂.rest := hcomma
        refine (takeWhile_settles Char.isDigit _ c₂).bind ?_
        rintro ⟨high, c₃⟩ ⟨hhigh, hhighDigits⟩
        refine hnext _ hhighDigits fun rest hrest => ?_
        dsimp only at hhigh hrest
        rw [hcomma] at hc hc₁
        refine ⟨isBound_of_suffix (by simp) (by simp) hc, ?_, ?_⟩
        · rw [hhigh, hrest] at hc₁
          exact isBound_of_suffix (by simp) (by simp) hc₁
        · rw [hhigh, hrest] at hc₁
          exact (List.suffix_append (',' :: high ++ ['\x7d']) rest).trans (by simpa using hc₁)
      | false =>
        obtain rfl : c₂ = c₁ := hcomma
        refine hnext _ hlowDigits fun rest hrest => ?_
        dsimp only at hrest
        rw [hrest] at hc hc₁
        have hbound : IsBound source low := isBound_of_suffix (by simp) (by simp) hc
        exact ⟨hbound, hbound, (List.suffix_cons _ _).trans hc₁⟩
    refine hhigh ?_
    rintro ⟨high, c₃⟩ hhighDigits hbounds
    refine (accept_settles c₃ _).bind ?_
    rintro ⟨closed, c₄⟩ hclosed
    dsimp only at hclosed hhighDigits hbounds ⊢
    split
    · exact nofun
    · next hopen =>
      obtain rfl : closed = true := by simpa using hopen
      obtain ⟨hlowBound, hhighBound, hc₄⟩ := hbounds c₄.rest hclosed
      refine (readBound_settles hlowBound hlowDigits).bind fun least _ => ?_
      refine (readBound_settles hhighBound hhighDigits).bind fun most _ => ?_
      split
      · exact settles_fault rfl
      · rintro bounds ⟨⟩
        exact hc₄

lemma readRepeat_settles (hr : r.Chosen source) (hc : c.rest <:+ source) (least : Nat) (most : Option Nat)
    (offset : Nat) : Settles (Blames source) (Continues source) (readRepeat r least most offset c) := by
  unfold readRepeat
  split
  · exact settles_fault rfl
  · exact settles_fault rfl
  · exact settles_fault rfl
  · refine (accept_suffix hc _).bind ?_
    rintro ⟨few, c₁⟩ hc₁
    refine Settles.ite_bind
      (fun _ => show Settles (Blames source) (fun out : Bool × Cursor => out.2.rest <:+ source) (pure (false, c₁)) from hc₁)
      (fun _ => accept_suffix hc₁ '+') ?_
    rintro ⟨only, c₂⟩ hc₂
    exact ⟨hr, hc₂⟩

/-- The options in a parenthesis are turned on in the pattern. -/
lemma readOptions_settles (hr : r.Chosen source) (offset : Nat) {token : Token}
    (hc : '(' :: '?' :: (token.text ++ c.rest) <:+ source) :
    Settles (Blames source) (Continues source) (readOptions r offset token c) := by
  unfold readOptions
  refine (readFlags_settles token c).bind ?_
  rintro ⟨change, grouped, c'⟩ ⟨hletters, ⟨rest, hon⟩, hc'⟩
  dsimp only at hletters hon hc' ⊢
  have hc' : c'.rest <:+ source := hc'.trans ((List.suffix_append ['(', '?'] _).trans hc)
  have hturns : ∀ e ∈ change.on, TurnsOn source e := by
    intro e he
    obtain ⟨before, rfl⟩ := hc
    refine ⟨change.on.reverse, ⟨before, rest, ?_⟩, by simpa using hletters, List.mem_reverse.2 he⟩
    rw [← hon]
    simp
  split
  · exact ⟨open_chosen hr (scoped_chosen hr.1 hturns) _ _, hc'⟩
  · split
    · exact ⟨⟨foldl_switch_chosen hr.1 fun e he _ => hturns e he, hr.2⟩, hc'⟩
    · exact settles_fault rfl

lemma skipComment_settles (offset fuel : Nat) (c : Cursor) (hc : c.rest <:+ source) :
    Settles (Blames source) (·.rest <:+ source) (skipComment offset fuel c) := by
  induction fuel generalizing c with
  | zero => exact settles_fault rfl
  | succ fuel ih =>
    unfold skipComment
    split
    · exact settles_fault rfl
    · refine (advance_settles c).bind fun c' hc' => ?_
      have hc' := suffix_of_eq hc hc'
      split
      · exact hc'
      · exact ih c' hc'

lemma readNamed_settles (hr : r.Chosen source) (hc : c.rest <:+ source) (offset : Nat) :
    Settles (Blames source) (Continues source) (readNamed r offset c) := by
  unfold readNamed
  refine (accept_suffix hc _).bind ?_
  rintro ⟨definition, c₁⟩ hc₁
  dsimp only at hc₁ ⊢
  split
  · refine (nameUntil_suffix hc₁ _).bind ?_
    rintro ⟨name, c₂⟩ hc₂
    dsimp only at hc₂ ⊢
    split
    · exact settles_fault rfl
    · split
      · exact settles_fault rfl
      · exact ⟨openWith_chosen hr _ _, hc₂⟩
  · refine (accept_suffix hc₁ _).bind ?_
    rintro ⟨reference, c₂⟩ hc₂
    dsimp only at hc₂ ⊢
    split
    · refine (nameUntil_suffix hc₂ _).bind ?_
      rintro ⟨name, c₃⟩ hc₃
      dsimp only at hc₃ ⊢
      split
      · exact settles_fault rfl
      · split
        · exact settles_fault rfl
        · exact (pushAgain_settles hr _ _ c₃).bind fun r' hr' => ⟨hr', hc₃⟩
    · refine (nextToken_settles rfl c₂).bind ?_
      rintro ⟨token, c₃⟩ -
      exact settles_fault rfl

lemma readCondition_settles (hr : r.Chosen source) (name : Text) (place : Nat) :
    Settles (Blames source) (·.1.Chosen source) (readCondition r name place) := by
  unfold readCondition
  dsimp only
  split
  · split
    · exact settles_fault rfl
    · exact hr
  · split
    · exact settles_fault rfl
    · exact settles_fault rfl
    · split
      · exact settles_fault rfl
      · split
        · exact settles_fault rfl
        · exact hr

lemma readConditional_settles (hr : r.Chosen source) (hc : c.rest <:+ source) (offset : Nat) :
    Settles (Blames source) (Continues source) (readConditional r offset c) := by
  unfold readConditional
  refine (nameUntil_suffix hc _).bind ?_
  rintro ⟨name, c'⟩ hc'
  refine (readCondition_settles hr name _).bind ?_
  rintro ⟨r', number⟩ hr'
  exact (checkLimit_settles r' number c').bind fun _ _ => ⟨openWith_chosen hr' _ _, hc'⟩

lemma readGroup_settles (hr : r.Chosen source) (hc : '(' :: c.rest <:+ source) (offset : Nat) :
    Settles (Blames source) (Continues source) (readGroup r offset c) := by
  unfold readGroup
  refine (accept_settles c _).bind ?_
  rintro ⟨extended, c₁⟩ hc₁
  dsimp only at hc₁ ⊢
  split
  · next hplain =>
    obtain rfl : extended = false := by simpa using hplain
    obtain rfl : c₁ = c := hc₁
    exact ⟨openWith_chosen hr _ _, (List.suffix_cons _ _).trans hc⟩
  · next hextended =>
    obtain rfl : extended = true := by simpa using hextended
    replace hc₁ : c.rest = '?' :: c₁.rest := hc₁
    rw [hc₁] at hc
    refine (nextToken_settles rfl c₁).bind ?_
    rintro ⟨token, c₂⟩ htoken
    dsimp only at htoken ⊢
    rw [htoken] at hc
    have hc₂ : c₂.rest <:+ source := (List.suffix_append ('(' :: '?' :: token.text) _).trans hc
    split
    · exact readNamed_settles hr hc₂ offset
    · exact ⟨openWith_chosen hr _ _, hc₂⟩
    · exact (skipComment_settles offset _ c₂ hc₂).bind fun c₃ hc₃ => ⟨hr, hc₃⟩
    · exact ⟨openWith_chosen hr _ _, hc₂⟩
    · exact ⟨openWith_chosen hr _ _, hc₂⟩
    · refine (nextToken_settles rfl c₂).bind ?_
      rintro ⟨sign, c₃⟩ hc₃
      dsimp only at hc₃ ⊢
      split
      · exact settles_fault rfl
      · exact ⟨openWith_chosen hr _ _, suffix_of_eq hc₂ hc₃⟩
    · exact readConditional_settles hr hc₂ offset
    · exact ⟨openWith_chosen hr _ _, hc₂⟩
    · split
      · exact readOptions_settles hr offset hc
      · exact settles_fault rfl

/-! ## The whole pattern -/

lemma checkToken_settles (hr : r.Chosen source) (token : Token) (here : Cursor) :
    Settles (Blames source) (fun _ => True) (r.checkToken token here) := by
  unfold Reading.checkToken
  dsimp only
  split
  · exact (checkAlphabets_settles hr).bind fun _ _ => settles_fault rfl
  · split
    · split
      · exact settles_fault rfl
      · trivial
    · trivial

lemma skipLine_settles (fuel : Nat) (c : Cursor) (hc : c.rest <:+ source) :
    Settles (Blames source) (·.rest <:+ source) (skipLine fuel c) := by
  induction fuel generalizing c with
  | zero => exact hc
  | succ fuel ih =>
    unfold skipLine
    split
    · exact hc
    · refine (advance_settles c).bind fun c' hc' => ?_
      have hc' := suffix_of_eq hc hc'
      split
      · exact hc'
      · exact ih c' hc'

lemma readPlain_settles (hr : r.Chosen source) {e : Char} (hc : e :: c.rest <:+ source) (offset : Nat) :
    Settles (Blames source) (Continues source) (readPlain r e offset c) := by
  have hrest : c.rest <:+ source := (List.suffix_cons _ _).trans hc
  unfold readPlain
  dsimp only
  split
  · exact ⟨hr, hrest⟩
  · split
    · exact (skipLine_settles _ c hrest).bind fun c' hc' => ⟨hr, hc'⟩
    · split
      · exact ⟨hr, hrest⟩
      · split
        · exact ⟨hr, hrest⟩
        · next outside outer houter => exact ⟨close_chosen hr houter, hrest⟩
      · refine (readSet_settles hrest offset).bind ?_
        rintro ⟨part, c'⟩ hc'
        exact ⟨hr, hc'⟩
      · exact readRepeat_settles hr hrest _ _ _
      · exact readRepeat_settles hr hrest _ _ _
      · exact readRepeat_settles hr hrest _ _ _
      · refine (readBounds_settles hc).bind fun bounds hbounds => ?_
        split
        · exact ⟨hr, hrest⟩
        · exact readRepeat_settles hr (hbounds _ rfl) _ _ _
      · exact ⟨hr, hrest⟩
      · exact readGroup_settles hr hc offset
      · exact ⟨hr, hrest⟩
      · exact ⟨hr, hrest⟩
      · exact ⟨hr, hrest⟩

lemma readToken_settles (hr : r.Chosen source) {token : Token} {here : Cursor} (htoken : here.token? = some token)
    (hhere : here.rest <:+ source) : Settles (Blames source) (Continues source) (readToken r token here) := by
  unfold readToken
  refine (checkToken_settles hr token here).bind fun _ _ => (advance_settles here).bind fun c hc => ?_
  rw [htoken] at hc
  cases token with
  | escape e => exact readEscape_settles hr (suffix_of_eq hhere hc) e
  | plain e =>
    replace hc : here.rest = e :: c.rest := hc
    exact readPlain_settles hr (hc ▸ hhere) here.offset

lemma readAll_settles (fuel : Nat) (r : Reading) (c : Cursor) (hr : r.Chosen source) (hc : c.rest <:+ source) :
    Settles (Blames source) (·.Chosen source) (readAll fuel r c) := by
  induction fuel generalizing r c with
  | zero => exact hr
  | succ fuel ih =>
    unfold readAll
    split
    · exact hr
    · next token htoken =>
      refine (readToken_settles hr htoken hc).bind ?_
      rintro ⟨r', c'⟩ ⟨hr', hc'⟩
      exact ih r' c' hr' hc'

/-- What is refused at the end lies in the writing of the pattern. -/
lemma isMalformed_of_reason? {unrepeated : Bool} {groups : Nat → Width} {node : Node} {reason : Reason}
    (h : node.reason? unrepeated groups = some reason) : reason.isMalformed = true := by
  induction node with
  | empty => cases h
  | char k => cases h
  | again number folded => cases h
  | anchor a => cases h
  | chars k least most greed =>
    simp only [Node.reason?] at h
    split at h
    · obtain rfl := Option.some.inj h
      rfl
    · cases h
  | seq first second ihf ihs => exact (Option.or_eq_some_iff.1 h).elim ihf fun h => ihs h.2
  | alt first second ihf ihs => exact (Option.or_eq_some_iff.1 h).elim ihf fun h => ihs h.2
  | ifMatched number yes no ihy ihn => exact (Option.or_eq_some_iff.1 h).elim ihy fun h => ihn h.2
  | group number body ih => exact ih h
  | atomic body ih => exact ih h
  | ahead negated body ih => exact ih h
  | behind negated width body ih =>
    refine (Option.or_eq_some_iff.1 h).elim (fun hwidth => ?_) fun h => ih h.2
    unfold Width.lookBehindReason? at hwidth
    split at hwidth
    · obtain rfl := Option.some.inj hwidth
      rfl
    · split at hwidth
      · cases hwidth
      · obtain rfl := Option.some.inj hwidth
        rfl
  | loop least most greed body ih =>
    simp only [Node.reason?] at h
    split at h
    · obtain rfl := Option.some.inj h
      rfl
    · exact ih h

lemma checkConditions_settles (r : Reading) : Settles (Blames source) (fun _ => True) r.checkConditions := by
  unfold Reading.checkConditions
  split
  · exact settles_fault rfl
  · trivial

lemma read_settles {flags : Flags} (hf : flags.Chosen source) : Settles (Blames source) (fun _ => True) (read source flags) := by
  unfold read
  refine (checked_settles ⟨0, source⟩).bind ?_
  rintro _ rfl
  refine (readAll_settles _ _ _ ⟨hf, by simp [Reading.start]⟩ List.suffix_rfl).bind fun r hr => ?_
  dsimp only
  split
  · exact settles_fault rfl
  · refine (checkAlphabets_settles hr).bind fun _ _ => (checkConditions_settles r).bind fun _ _ => ?_
    split
    · next reason hreason => exact settles_fault (isMalformed_of_reason? hreason)
    · trivial

end Reading

/-- **A pattern that cannot be read gives cause for its fault.** -/
theorem compile_blames {source : Text} {flags : Flags} (hf : flags.Chosen source) {e : PatternError}
    (h : compile source flags = .error e) : e.source = source ∧ Blames source e.fault := by
  have hread := read_settles hf
  unfold compile at h
  cases hresult : read source flags with
  | ok r =>
    rw [hresult] at h
    cases h
  | error fault =>
    rw [hresult] at h hread
    obtain rfl := Except.error.inj h
    exact ⟨rfl, hread⟩

end Pattern

end MarkupLint
