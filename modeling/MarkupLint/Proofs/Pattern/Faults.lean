import MarkupLint.Pattern.Basic
import MarkupLint.Proofs.Settles

/-!
# Faults of patterns

Most faults lie in the writing of a pattern.  The others have a cause that can be seen in the pattern: a bound of a
repetition with too many digits or of too great a value, and options for two alphabets.  `Cause source fault` says
that the pattern `source` gives such a cause for a fault.

There is a lemma for each step of the reading of a pattern: it ends further on in the pattern, or in a fault that the
pattern is to blame for.  This module has the steps up to character sets.
-/

namespace MarkupLint

namespace Pattern

/-! ## Causes of faults -/

/-- The digits stand as a bound of a repetition in braces. -/
def IsBound (source digits : Text) : Prop :=
  ∃ opening ∈ ['\x7b', ','], ∃ closing ∈ [',', '\x7d'], opening :: digits ++ [closing] <:+: source

/-- The option of the given letter is turned on. -/
def TurnsOn (source : Text) (e : Char) : Prop :=
  ∃ letters, '(' :: '?' :: letters <:+: source ∧ (∀ d ∈ letters, d ∈ flagLetters) ∧ e ∈ letters

/-- **The pattern gives cause for a fault** that does not lie in its writing. -/
inductive Cause (source : Text) : Fault → Prop
  /-- A bound has too many digits. -/
  | longNumber {digits : Text} (hbound : IsBound source digits) (hdigits : ∀ e ∈ digits, e.isDigit = true)
      (hlong : Text.maxDigits < digits.length) : Cause source (.ofWhole (.longNumber digits.length))
  /-- A bound is too great. -/
  | largeRepeat {digits : Text} (hbound : IsBound source digits) (hdigits : ∀ e ∈ digits, e.isDigit = true)
      (hlarge : repeatLimit ≤ numeral 10 digits) : Cause source (.ofWhole .largeRepeat)
  /-- Two alphabets are chosen. -/
  | mixedAlphabets (hascii : TurnsOn source 'a') (hunicode : TurnsOn source 'u') :
      Cause source (.ofWhole .mixedAlphabets)

/-- The pattern is to blame for the fault. -/
def Blames (source : Text) (fault : Fault) : Prop := fault.reason.isMalformed = true ∨ Cause source fault

lemma settles_fault {α : Type} {source : Text} {post : α → Prop} {fault : Fault}
    (h : fault.reason.isMalformed = true) : Settles (Blames source) post (.error fault) := Or.inl h

/-! ## Cursors -/

section Cursor

variable {source : Text} {c : Cursor}

lemma suffix_of_eq {rest front back : Text} (hc : rest <:+ source) (h : rest = front ++ back) : back <:+ source :=
  (List.suffix_append front back).trans (h ▸ hc)

lemma suffix_of_cons {e : Char} {rest back : Text} (hc : rest <:+ source) (h : rest = e :: back) : back <:+ source :=
  (List.suffix_cons e back).trans (h ▸ hc)

lemma checked_settles (c : Cursor) : Settles (Blames source) (· = c) c.checked := by
  unfold Cursor.checked
  split
  · exact settles_fault rfl
  · exact rfl

lemma advance_settles (c : Cursor) :
    Settles (Blames source) (fun c' => c.rest = c.token?.elim [] Token.text ++ c'.rest) c.advance := by
  unfold Cursor.advance Cursor.token?
  split
  · next h => simp [Settles, h]
  · next e rest h =>
    refine (checked_settles _).imp ?_
    rintro _ rfl
    simp [h, Token.text]
  · next e rest hescape h =>
    refine (checked_settles _).imp ?_
    rintro _ rfl
    rw [h]
    rfl

lemma accept_settles (c : Cursor) (e : Char) :
    Settles (Blames source) (fun out => if out.1 then c.rest = e :: out.2.rest else out.2 = c) (c.accept e) := by
  unfold Cursor.accept
  split
  · next h =>
    refine (advance_settles c).bind fun c' hc' => ?_
    rw [h] at hc'
    exact hc'
  · exact rfl

lemma accept_suffix (hc : c.rest <:+ source) (e : Char) :
    Settles (Blames source) (fun out => out.2.rest <:+ source) (c.accept e) := by
  refine (accept_settles c e).imp ?_
  rintro ⟨accepted, c'⟩ hc'
  cases accepted with
  | true => exact suffix_of_cons hc hc'
  | false => exact hc' ▸ hc

lemma plain?_eq_some {p : Char → Bool} {e : Char} (h : c.plain? p = some e) :
    c.token? = some (.plain e) ∧ p e = true := by
  unfold Cursor.plain? at h
  split at h
  · split at h
    · next hp =>
      obtain rfl := Option.some.inj h
      exact ⟨‹_›, hp⟩
    · cases h
  · cases h

lemma takeWhile_settles (p : Char → Bool) (n : Nat) (c : Cursor) :
    Settles (Blames source) (fun out => c.rest = out.1 ++ out.2.rest ∧ ∀ e ∈ out.1, p e = true) (c.takeWhile p n) := by
  induction n generalizing c with
  | zero => exact ⟨rfl, by simp⟩
  | succ n ih =>
    unfold Cursor.takeWhile
    split
    · next e he =>
      obtain ⟨htoken, hp⟩ := plain?_eq_some he
      refine (advance_settles c).bind fun c' hc' => (ih c').bind fun out hout => ?_
      rw [htoken] at hc'
      refine ⟨?_, List.forall_mem_cons.2 ⟨hp, hout.2⟩⟩
      rw [hc', hout.1]
      rfl
    · exact ⟨rfl, by simp⟩

lemma nameFrom_settles {terminator : Char} {missing : Reason} (hmissing : missing.isMalformed = true) (fuel : Nat)
    (name : Text) (c : Cursor) :
    Settles (Blames source) (fun out => ∃ more, out.1 = name.reverse ++ more ∧ c.rest = more ++ terminator :: out.2.rest)
      (Cursor.nameFrom terminator missing fuel name c) := by
  induction fuel generalizing name c with
  | zero => exact settles_fault hmissing
  | succ fuel ih =>
    unfold Cursor.nameFrom
    refine (advance_settles c).bind fun next hnext => ?_
    split
    · split
      · exact settles_fault hmissing
      · exact settles_fault rfl
    · next token htoken =>
      rw [htoken] at hnext
      split
      · next heq =>
        subst heq
        split
        · exact settles_fault hmissing
        · exact ⟨[], by simp, hnext⟩
      · refine (ih _ next).imp ?_
        rintro out ⟨more, hname, hrest⟩
        refine ⟨token.text ++ more, ?_, ?_⟩
        · rw [hname]
          simp
        · rw [hnext, hrest]
          simp

lemma nameUntil_settles (c : Cursor) (terminator : Char) :
    Settles (Blames source) (fun out => c.rest = out.1 ++ terminator :: out.2.rest) (c.nameUntil terminator) := by
  refine (nameFrom_settles rfl _ [] c).imp ?_
  rintro out ⟨more, hname, hrest⟩
  rw [hrest, hname]
  rfl

lemma nameUntil_suffix (hc : c.rest <:+ source) (terminator : Char) :
    Settles (Blames source) (fun out => out.2.rest <:+ source) (c.nameUntil terminator) := by
  refine (nameUntil_settles c terminator).imp ?_
  rintro ⟨name, c'⟩ hrest
  exact suffix_of_eq hc (hrest.trans (List.append_cons name _ _))

lemma nextToken_settles {missing : Reason} (hmissing : missing.isMalformed = true) (c : Cursor) :
    Settles (Blames source) (fun out => c.rest = out.1.text ++ out.2.rest) (nextToken c missing) := by
  unfold nextToken
  split
  · exact settles_fault hmissing
  · next token htoken =>
    refine (advance_settles c).bind fun c' hc' => ?_
    rw [htoken] at hc'
    exact hc'

end Cursor

/-! ## Options -/

section Options

variable {source : Text}

lemma flag?_eq_some {token : Token} {e : Char} (h : token.flag? = some e) : token = .plain e ∧ e ∈ flagLetters := by
  cases token with
  | plain d =>
    simp only [Token.flag?] at h
    split at h
    · next hd =>
      obtain rfl := Option.some.inj h
      exact ⟨rfl, List.contains_iff_mem.1 hd⟩
    · cases h
  | escape d => cases h

lemma checkOn_settles (on : Text) (e : Char) (c : Cursor) : Settles (Blames source) (fun _ => True) (checkOn on e c) := by
  unfold checkOn
  split
  · exact settles_fault rfl
  · split
    · exact settles_fault rfl
    · trivial

/-- The letters that are read are option letters, and stand before the token that ends them. -/
lemma readOn_settles (fuel : Nat) (on : Text) (e : Char) (c : Cursor) (hon : ∀ d ∈ on, d ∈ flagLetters)
    (he : e ∈ flagLetters) :
    Settles (Blames source) (fun out => (∀ d ∈ out.1, d ∈ flagLetters) ∧
      on.reverse ++ e :: c.rest = out.1.reverse ++ (out.2.1.text ++ out.2.2.rest)) (readOn fuel on e c) := by
  induction fuel generalizing on e c with
  | zero => exact settles_fault rfl
  | succ fuel ih =>
    unfold readOn
    have hletters : ∀ d ∈ e :: on, d ∈ flagLetters := List.forall_mem_cons.2 ⟨he, hon⟩
    refine (checkOn_settles on e c).bind fun _ _ => (nextToken_settles rfl c).bind ?_
    rintro ⟨token, c'⟩ hc'
    dsimp only at hc' ⊢
    split
    · refine ⟨hletters, ?_⟩
      rw [hc']
      simp
    · split
      · next e' he' =>
        obtain ⟨rfl, hmem⟩ := flag?_eq_some he'
        refine (ih (e :: on) e' c' hletters hmem).imp ?_
        rintro out ⟨hout, heq⟩
        refine ⟨hout, ?_⟩
        rw [← heq, hc']
        simp [Token.text]
      · exact settles_fault rfl

lemma readOff_settles (fuel : Nat) (off : Text) (e : Char) (c : Cursor) :
    Settles (Blames source) (fun out => out.2.rest <:+ c.rest) (readOff fuel off e c) := by
  induction fuel generalizing off e c with
  | zero => exact settles_fault rfl
  | succ fuel ih =>
    unfold readOff
    split
    · exact settles_fault rfl
    · refine (nextToken_settles rfl c).bind ?_
      rintro ⟨token, c'⟩ hc'
      have hsuffix : c'.rest <:+ c.rest := hc' ▸ List.suffix_append _ _
      dsimp only
      split
      · exact hsuffix
      · split
        · next e' he' => exact (ih _ _ c').imp fun out hout => hout.trans hsuffix
        · exact settles_fault rfl

/-- Whatever comes after them, the letters to be turned on are read first. -/
lemma readOn_first_settles {next : Text × Token × Cursor → Except Fault (FlagChange × Bool × Cursor)}
    {post : FlagChange × Bool × Cursor → Prop} {token : Token} {c : Cursor}
    (hnext : ∀ out : Text × Token × Cursor, (∀ d ∈ out.1, d ∈ flagLetters) ∧
      token.text ++ c.rest = out.1.reverse ++ (out.2.1.text ++ out.2.2.rest) → Settles (Blames source) post (next out)) :
    Settles (Blames source) post (match token.flag? with
      | some e => readOn (c.rest.length + 1) [] e c >>= next
      | none => pure ([], token, c) >>= next) := by
  split
  · next e he =>
    obtain ⟨rfl, hmem⟩ := flag?_eq_some he
    exact (readOn_settles _ [] e c (by simp) hmem).bind hnext
  · exact hnext _ ⟨by simp, rfl⟩

/-- The options that are turned on stand where the token starts. -/
lemma readFlags_settles (token : Token) (c : Cursor) :
    Settles (Blames source) (fun out => (∀ d ∈ out.1.on, d ∈ flagLetters) ∧ out.1.on.reverse <+: token.text ++ c.rest ∧
      out.2.2.rest <:+ token.text ++ c.rest) (readFlags token c) := by
  unfold readFlags
  refine readOn_first_settles ?_
  rintro ⟨on, token', c'⟩ ⟨hon, hrest⟩
  dsimp only at hon hrest ⊢
  have hprefix : on.reverse <+: token.text ++ c.rest := hrest ▸ List.prefix_append _ _
  have hsuffix : c'.rest <:+ token.text ++ c.rest := by
    rw [hrest, ← List.append_assoc]
    exact List.suffix_append _ _
  split
  · exact ⟨hon, hprefix, hsuffix⟩
  · split
    · exact settles_fault rfl
    · split
      · exact ⟨hon, hprefix, hsuffix⟩
      · refine (nextToken_settles rfl c').bind ?_
        rintro ⟨last, c₁⟩ hc₁
        have hsuffix₁ : c₁.rest <:+ c'.rest := hc₁ ▸ List.suffix_append _ _
        dsimp only
        split
        · exact settles_fault rfl
        · next e he =>
          refine (readOff_settles _ [] e c₁).bind ?_
          rintro ⟨off, c₂⟩ hc₂
          dsimp only at hc₂ ⊢
          split
          · exact settles_fault rfl
          · split
            · exact settles_fault rfl
            · exact ⟨hon, hprefix, hc₂.trans (hsuffix₁.trans hsuffix)⟩

end Options

/-! ## Sets and escapes -/

section Sets

variable {source : Text} {c : Cursor} (hc : c.rest <:+ source)
include hc

lemma hexEscape_settles (e : Char) (width : Nat) :
    Settles (Blames source) (fun out => out.2.rest <:+ source) (hexEscape e width c) := by
  unfold hexEscape
  refine (takeWhile_settles _ _ c).bind ?_
  rintro ⟨digits, c'⟩ ⟨hrest, -⟩
  dsimp only
  split
  · exact settles_fault rfl
  · split
    · exact settles_fault rfl
    · exact suffix_of_eq hc hrest

lemma namedEscape_settles : Settles (Blames source) (fun out => out.2.rest <:+ source) (namedEscape c) := by
  unfold namedEscape
  refine (accept_suffix hc _).bind ?_
  rintro ⟨opened, c'⟩ hc'
  dsimp only at hc' ⊢
  split
  · exact settles_fault rfl
  · refine (nameFrom_settles rfl _ [] c').bind ?_
    rintro ⟨name, c₁⟩ ⟨more, -, hrest⟩
    dsimp only at hrest ⊢
    split
    · exact suffix_of_eq hc' (List.append_cons more _ _ ▸ hrest)
    · exact settles_fault rfl

lemma codeEscape?_settles {e : Char} {code : Except Fault (Nat × Cursor)} (h : codeEscape? e c = some code) :
    Settles (Blames source) (fun out => out.2.rest <:+ source) code := by
  unfold codeEscape? at h
  split at h
  · obtain rfl := Option.some.inj h
    exact hexEscape_settles hc _ 2
  · obtain rfl := Option.some.inj h
    exact hexEscape_settles hc _ 4
  · obtain rfl := Option.some.inj h
    exact hexEscape_settles hc _ 8
  · obtain rfl := Option.some.inj h
    exact namedEscape_settles hc
  · cases h

lemma setEscape_settles (e : Char) : Settles (Blames source) (fun out => out.2.rest <:+ source) (setEscape e c) := by
  unfold setEscape
  split
  · exact hc
  · exact hc
  · next code hcode =>
    refine (codeEscape?_settles hc hcode).bind ?_
    rintro ⟨code, c'⟩ hc'
    exact hc'
  · split
    · refine (takeWhile_settles _ _ c).bind ?_
      rintro ⟨digits, c'⟩ ⟨hrest, -⟩
      dsimp only
      split
      · exact settles_fault rfl
      · exact suffix_of_eq hc hrest
    · split
      · exact settles_fault rfl
      · exact hc

lemma setItem_settles (token : Token) : Settles (Blames source) (fun out => out.2.rest <:+ source) (setItem token c) := by
  cases token with
  | plain e => exact hc
  | escape e => exact setEscape_settles hc e

omit hc in
lemma setItems_settles (opening fuel : Nat) (items : List ClassItem) (c : Cursor) (hc : c.rest <:+ source) :
    Settles (Blames source) (fun out => out.2.rest <:+ source) (setItems opening fuel items c) := by
  induction fuel generalizing items c with
  | zero => exact settles_fault rfl
  | succ fuel ih =>
    unfold setItems
    split
    · exact settles_fault rfl
    · refine (advance_settles c).bind fun c₁ hc₁ => ?_
      have hc₁ := suffix_of_eq hc hc₁
      dsimp only
      split
      · exact hc₁
      · refine (setItem_settles hc₁ _).bind ?_
        rintro ⟨item, c₂⟩ hc₂
        refine (accept_suffix hc₂ _).bind ?_
        rintro ⟨dash, c₃⟩ hc₃
        dsimp only at hc₂ hc₃ ⊢
        split
        · exact ih _ c₃ hc₃
        · split
          · exact settles_fault rfl
          · refine (advance_settles c₃).bind fun c₄ hc₄ => ?_
            have hc₄ := suffix_of_eq hc₃ hc₄
            split
            · exact hc₄
            · refine (setItem_settles hc₄ _).bind ?_
              rintro ⟨last, c₅⟩ hc₅
              dsimp only at hc₅ ⊢
              split
              · split
                · exact ih _ c₅ hc₅
                · exact settles_fault rfl
              · exact settles_fault rfl

lemma readSet_settles (opening : Nat) : Settles (Blames source) (fun out => out.2.rest <:+ source) (readSet opening c) := by
  unfold readSet
  refine (accept_suffix hc _).bind ?_
  rintro ⟨negated, c₁⟩ hc₁
  refine (setItems_settles opening _ [] c₁ hc₁).bind ?_
  rintro ⟨items, c₂⟩ hc₂
  dsimp only
  split
  · exact hc₂
  · exact hc₂

end Sets

end Pattern

end MarkupLint
