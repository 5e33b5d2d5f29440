import Mathlib.Data.List.Chain

/-! # A register and the history of its writes

A register holds the value written last. Along a trace each step finds what the
steps before it left; what it finds is then a function of the writes of the past
alone. If no step writes a value next to an equal one, the history of the writes
has no equal neighbours.
-/

namespace Register

variable {ι α : Type*}

/-- What a register holds after some writes. -/
def latest (start : Option α) (writes : List α) : Option α := writes.getLast?.or start

@[simp] theorem latest_nil (start : Option α) : latest start [] = start := rfl

@[simp] theorem latest_none (writes : List α) : latest none writes = writes.getLast? := by
  simp [latest]

theorem latest_append (start : Option α) (earlier later : List α) :
    latest start (earlier ++ later) = latest (latest start earlier) later := by
  simp [latest, List.getLast?_append, Option.or_assoc]

theorem getLast?_history (start : Option α) (writes : List α) :
    (start.toList ++ writes).getLast? = latest start writes := by
  rw [List.getLast?_append, latest]
  cases start <;> rfl

/-- Each step finds the content its predecessor left, the first one `start`. -/
inductive Trace (content : ι → Option α) (writes : ι → List α) : Option α → List ι → Prop where
  | nil : Trace content writes start []
  | cons : content step = start → Trace content writes (latest start (writes step)) steps →
      Trace content writes start (step :: steps)

variable {content : ι → Option α} {writes : ι → List α} {start : Option α}

/-- A step finds the last value that the steps before it wrote. -/
theorem Trace.content_eq {past future : List ι} {step : ι}
    (trace : Trace content writes start (past ++ step :: future)) :
    content step = latest start (past.flatMap writes) := by
  induction past generalizing start with
  | nil =>
      cases trace with
      | cons found _ => exact found
  | cons first past ih =>
      cases trace with
      | cons _ rest => rw [List.flatMap_cons, latest_append, ih rest]

/-- No equal neighbours within the steps, each taken after the content it found,
    make none across the trace. -/
theorem Trace.isChain {steps : List ι} (trace : Trace content writes start steps)
    (changes : ∀ step ∈ steps, ((content step).toList ++ writes step).IsChain (· ≠ ·)) :
    (start.toList ++ steps.flatMap writes).IsChain (· ≠ ·) := by
  induction trace with
  | nil =>
      rename_i start
      cases start <;> simp
  | @cons step start steps found _ ih =>
      have first := changes step List.mem_cons_self
      have rest := ih fun later member => changes later (List.mem_cons_of_mem step member)
      rw [found] at first
      rw [List.isChain_append] at rest
      obtain ⟨_, later, joint⟩ := rest
      rw [List.flatMap_cons, ← List.append_assoc, List.isChain_append]
      refine ⟨first, later, ?_⟩
      intro last isLast next isNext
      rw [getLast?_history] at isLast
      exact joint last (by rw [isLast]; simp) next isNext

end Register
