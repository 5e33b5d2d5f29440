import Mathlib.Data.List.Forall2

/-! # Two runs of a computation

A computation takes a state to a result or an exception, and to the state it
leaves. Two computations are paired when related states give the same exception
or related results, and states that are related again. What is built from paired
parts in the same way is paired.
-/

namespace TwoRuns

variable {σ ε α β γ δ : Type} {R : σ → σ → Prop} {Q : α → β → Prop} {P : γ → δ → Prop}

/-- Related results, or one exception. -/
inductive Outcome (Q : α → β → Prop) : Except ε α → Except ε β → Prop where
  | ok : Q a b → Outcome Q (.ok a) (.ok b)
  | error : Outcome Q (.error e) (.error e)

theorem Outcome.refl (result : Except ε α) : Outcome Eq result result := by
  cases result with
  | ok a => exact .ok rfl
  | error e => exact .error

theorem Outcome.eq {result result' : Except ε α} (same : Outcome Eq result result') :
    result = result' := by
  cases same with
  | ok value => rw [value]
  | error => rfl

def Paired (R : σ → σ → Prop) (Q : α → β → Prop) (x : σ → Except ε α × σ)
    (y : σ → Except ε β × σ) : Prop :=
  ∀ s s', R s s' → Outcome Q (x s).1 (y s').1 ∧ R (x s).2 (y s').2

/-- Go on with the result; an exception ends the computation. -/
def andThen (x : σ → Except ε α × σ) (f : α → σ → Except ε γ × σ) : σ → Except ε γ × σ := fun s =>
  match x s with
  | (.ok a, s') => f a s'
  | (.error e, s') => (.error e, s')

def catching (x : σ → Except ε α × σ) (handler : ε → σ → Except ε α × σ) : σ → Except ε α × σ :=
  fun s =>
    match x s with
    | (.ok a, s') => (.ok a, s')
    | (.error e, s') => handler e s'

namespace Paired

/-- A result that does not depend on the state, and leaves it. -/
theorem result {a : Except ε α} {b : Except ε β} (same : Outcome Q a b) :
    Paired R Q (fun s => (a, s)) (fun s => (b, s)) :=
  fun _ _ related => ⟨same, related⟩

theorem andThen {x : σ → Except ε α × σ} {y : σ → Except ε β × σ}
    {f : α → σ → Except ε γ × σ} {g : β → σ → Except ε δ × σ} (first : Paired R Q x y)
    (rest : ∀ a b, Q a b → Paired R P (f a) (g b)) :
    Paired R P (TwoRuns.andThen x f) (TwoRuns.andThen y g) := by
  intro s s' related
  obtain ⟨outcome, left⟩ := first s s' related
  simp only [TwoRuns.andThen]
  cases result : x s with
  | mk a t =>
      cases result' : y s' with
      | mk b t' =>
          rw [result, result'] at outcome left
          cases outcome with
          | ok value => exact rest _ _ value t t' left
          | error => exact ⟨.error, left⟩

theorem catching {x : σ → Except ε α × σ} {y : σ → Except ε β × σ}
    {handler : ε → σ → Except ε α × σ} {handler' : ε → σ → Except ε β × σ}
    (body : Paired R Q x y) (caught : ∀ e, Paired R Q (handler e) (handler' e)) :
    Paired R Q (TwoRuns.catching x handler) (TwoRuns.catching y handler') := by
  intro s s' related
  obtain ⟨outcome, left⟩ := body s s' related
  simp only [TwoRuns.catching]
  cases result : x s with
  | mk a t =>
      cases result' : y s' with
      | mk b t' =>
          rw [result, result'] at outcome left
          cases outcome with
          | ok value => exact ⟨.ok value, left⟩
          | error => exact caught _ t t' left

end Paired

end TwoRuns
