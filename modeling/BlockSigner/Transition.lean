import Mathlib.Logic.Relation

/-! # Transition systems

Reachability, the invariant rule and the notions of a stuck state and of a
measure that every step lowers. Where each reachable state that is not final has
a step and steps lower a measure, every run can be brought to a final state.
-/

namespace Transition

variable {σ : Type*} (step : σ → σ → Prop) (start : σ)

def Reachable (s : σ) : Prop := Relation.ReflTransGen step start s

/-- No party can take a step. -/
def Stuck (s : σ) : Prop := ¬ ∃ s', step s s'

/-- In every reachable state that is not final some party can take a step. -/
def NeverStuck (final : σ → Prop) : Prop :=
  ∀ s, Reachable step start s → ¬ final s → ∃ s', step s s'

variable {step} {start}

theorem Reachable.refl : Reachable step start start := Relation.ReflTransGen.refl

theorem Reachable.next {s s' : σ} (reached : Reachable step start s) (taken : step s s') :
    Reachable step start s' := Relation.ReflTransGen.tail reached taken

/-- What holds at the start and is kept by every step holds wherever steps lead. -/
theorem Reachable.invariant {inv : σ → Prop} {s : σ} (reached : Reachable step start s)
    (initial : inv start) (kept : ∀ s s', inv s → step s s' → inv s') : inv s := by
  induction reached with
  | refl => exact initial
  | tail _ taken ih => exact kept _ _ ih taken

theorem NeverStuck.of_invariant {final inv : σ → Prop} (initial : inv start)
    (kept : ∀ s s', inv s → step s s' → inv s')
    (progress : ∀ s, inv s → ¬ final s → ∃ s', step s s') : NeverStuck step start final :=
  fun s reached notFinal => progress s (reached.invariant initial kept) notFinal

/-- One stuck state that is not final refutes it. -/
theorem not_neverStuck {final : σ → Prop} {s : σ} (reached : Reachable step start s)
    (notFinal : ¬ final s) (stuck : Stuck step s) : ¬ NeverStuck step start final :=
  fun never => stuck (never s reached notFinal)

/-- Without stuck states and with a measure that steps lower, a final state can
    be reached from every reachable one. -/
theorem NeverStuck.terminates {final : σ → Prop} (never : NeverStuck step start final)
    (measure : σ → Nat) (lowers : ∀ s s', step s s' → measure s' < measure s) {s : σ}
    (reached : Reachable step start s) :
    ∃ s', Relation.ReflTransGen step s s' ∧ final s' := by
  induction bound : measure s using Nat.strongRecOn generalizing s with
  | ind n ih =>
      by_cases done : final s
      · exact ⟨s, .refl, done⟩
      · obtain ⟨s', taken⟩ := never s reached done
        have lower : measure s' < n := bound ▸ lowers s s' taken
        obtain ⟨last, path, isFinal⟩ := ih _ lower (reached.next taken) rfl
        exact ⟨last, .head taken path, isFinal⟩

/-! ## Counted runs -/

/-- So many steps lead from one state to the other. -/
inductive RunsFor (step : σ → σ → Prop) : Nat → σ → σ → Prop where
  | refl {s : σ} : RunsFor step 0 s s
  | next {n : Nat} {s s' s'' : σ} : RunsFor step n s s' → step s' s'' → RunsFor step (n + 1) s s''

theorem RunsFor.reachable {n : Nat} {s s' : σ} (runs : RunsFor step n s s') :
    Reachable step s s' := by
  induction runs with
  | refl => exact .refl
  | next _ taken ih => exact ih.next taken

/-- A measure that every step lowers bounds the length of every run. -/
theorem RunsFor.bounded {measure : σ → Nat} (lowers : ∀ s s', step s s' → measure s' < measure s)
    {n : Nat} {s s' : σ} (runs : RunsFor step n s s') : n + measure s' ≤ measure s := by
  induction runs with
  | refl => exact Nat.le_of_eq (Nat.zero_add _)
  | next _ taken ih =>
      have lower := lowers _ _ taken
      omega

end Transition
