import Mathlib.Tactic.Common

/-!
# Results and errors

`Settles blame post x` says that `x` ends in a result with the property `post` or in an error with the property
`blame`.  It is shown step by step, along the structure of the computation `x`.
-/

namespace MarkupLint

/-- **A computation settles** in a result with the property `post`, or in an error with the property `blame`. -/
def Settles {ε α : Type} (blame : ε → Prop) (post : α → Prop) : Except ε α → Prop
  | .ok a => post a
  | .error e => blame e

namespace Settles

variable {ε α β : Type} {blame : ε → Prop} {post : α → Prop} {post' : β → Prop} {x : Except ε α}

lemma bind {f : α → Except ε β} (hx : Settles blame post x) (hf : ∀ a, post a → Settles blame post' (f a)) :
    Settles blame post' (x >>= f) := by
  cases x with
  | ok a => exact hf a hx
  | error e => exact hx

/-- What comes after a choice comes after either of its ways. -/
lemma ite_bind {p : Prop} [Decidable p] {y : Except ε α} {f : α → Except ε β} (hx : p → Settles blame post x)
    (hy : ¬ p → Settles blame post y) (hf : ∀ a, post a → Settles blame post' (f a)) :
    Settles blame post' (if p then x >>= f else y >>= f) := by
  split
  · exact (hx ‹_›).bind hf
  · exact (hy ‹_›).bind hf

lemma imp {post' : α → Prop} (hx : Settles blame post x) (h : ∀ a, post a → post' a) : Settles blame post' x := by
  cases x with
  | ok a => exact h a hx
  | error e => exact hx

lemma imp_error {blame' : ε → Prop} (hx : Settles blame post x) (h : ∀ e, blame e → blame' e) :
    Settles blame' post x := by
  cases x with
  | ok a => exact hx
  | error e => exact h e hx

lemma of_error {e : ε} (hx : Settles blame post x) (h : x = .error e) : blame e := by
  subst h
  exact hx

lemma mapError {ε' : Type} {blame' : ε' → Prop} {x : Except ε α} {f : ε → ε'} (hx : Settles blame post x)
    (h : ∀ e, blame e → blame' (f e)) : Settles blame' post (x.mapError f) := by
  cases x with
  | ok a => exact hx
  | error e => exact h e hx

lemma mapM {f : β → Except ε α} {items : List β} (h : ∀ b ∈ items, Settles blame (fun _ => True) (f b)) :
    Settles blame (fun _ => True) (items.mapM f) := by
  induction items with
  | nil => trivial
  | cons b items ih =>
    obtain ⟨hb, hitems⟩ := List.forall_mem_cons.1 h
    rw [List.mapM_cons]
    exact hb.bind fun _ _ => (ih hitems).bind fun _ _ => trivial

lemma foldlM {step : α → β → Except ε α} {items : List β}
    (h : ∀ a, ∀ b ∈ items, Settles blame (fun _ => True) (step a b)) (a : α) :
    Settles blame (fun _ => True) (items.foldlM step a) := by
  induction items generalizing a with
  | nil => trivial
  | cons b items ih =>
    rw [List.foldlM_cons]
    exact (h a b (List.mem_cons_self ..)).bind fun a' _ => ih (fun a b hb => h a b (List.mem_cons_of_mem _ hb)) a'

end Settles

end MarkupLint
