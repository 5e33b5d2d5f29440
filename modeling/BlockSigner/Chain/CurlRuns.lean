import BlockSigner.Chain.CurlPipe

/-! # Where `call` and its child end up

Both parties make progress in every step, so a run cannot go on for ever. It ends
in one state whatever the order of the steps: with the response returned if it
fits the pipe, and else with the pipe full and nothing read.
-/

namespace BlockSigner

namespace CurlPipe

variable {β : Type} {response : List β} {capacity : Nat}

/-- The pipe holds no more than it can. -/
theorem pipe_le_capacity {s : State β}
    (reached : Transition.Reachable (Step response capacity) initial s) :
    s.pipe.length ≤ capacity := by
  apply reached.invariant (Nat.zero_le capacity)
  intro s s' small taken
  cases taken with
  | write _ room => simpa only [List.length_append] using room
  | read _ =>
      simp only [List.length_append] at small ⊢
      omega
  | start | exit | waitFor | endOfStream => exact small

/-- curl exits only where the whole response fitted the pipe, since nothing is
    read before. -/
theorem fits_of_exited {s : State β}
    (reached : Transition.Reachable (Step response capacity) initial s)
    (gone : s.child = .exited) : response.length ≤ capacity := by
  induction reached with
  | refl => cases gone
  | tail before taken ih =>
      cases taken with
      | start | write _ _ => cases gone
      | exit =>
          have small := pipe_le_capacity before
          have split := split_of_reachable before
          cases split with
          | writing whole =>
              rw [List.append_nil] at whole
              rwa [whole] at small
      | waitFor | read _ | endOfStream => exact ih gone

/-- What was read so far is the beginning of the response. -/
theorem read_of_reachable {s : State β} {builder : List β}
    (reached : Transition.Reachable (Step response capacity) initial s)
    (read : s.caller = .reading builder ∨ s.caller = .returned builder) :
    builder <+: response ∧ response.length ≤ capacity := by
  have split := split_of_reachable reached
  have fits : s.child = .exited → response.length ≤ capacity := fits_of_exited reached
  cases split with
  | before _ | writing _ | waiting _ => simp at read
  | reading whole =>
      simp only [Caller.reading.injEq, reduceCtorEq, or_false] at read
      subst read
      exact ⟨⟨_, whole⟩, fits rfl⟩
  | returned _ whole =>
      simp only [reduceCtorEq, Caller.returned.injEq, false_or] at read
      subst read
      exact ⟨whole ▸ List.prefix_rfl, fits rfl⟩

/-! ## The last state -/

/-- Returned with the response, or stuck with a full pipe. -/
def outcome (response : List β) (capacity : Nat) : State β :=
  if response.length ≤ capacity then ⟨.exited, [], .returned response⟩
  else full response capacity

/-- A state from which neither party can go on is the outcome. -/
theorem eq_outcome_of_stuck {s : State β}
    (reached : Transition.Reachable (Step response capacity) initial s)
    (stuck : Transition.Stuck (Step response capacity) s) : s = outcome response capacity := by
  have split := split_of_reachable reached
  have small := pipe_le_capacity reached
  have fits : s.child = .exited → response.length ≤ capacity := fits_of_exited reached
  cases split with
  | before _ => exact absurd ⟨_, .start⟩ stuck
  | @writing pipe remaining whole =>
      cases remaining with
      | nil => exact absurd ⟨_, .exit⟩ stuck
      | cons b remaining =>
          have noRoom : ¬ pipe.length + [b].length ≤ capacity := by
            intro room
            have written : Step response capacity ⟨.writing ([b] ++ remaining), pipe, .waiting⟩
                ⟨.writing remaining, pipe ++ [b], .waiting⟩ := .write (List.cons_ne_nil b []) room
            exact stuck ⟨_, written⟩
          have filled : pipe.length = capacity := by
            simp only [List.length_cons, List.length_nil] at noRoom small
            omega
          have long : ¬ response.length ≤ capacity := by
            rw [← whole, List.length_append, List.length_cons]
            omega
          rw [outcome, if_neg long, full, ← filled, ← whole, List.drop_left, List.take_left]
  | waiting _ => exact absurd ⟨_, .waitFor⟩ stuck
  | @reading builder pipe _ =>
      cases pipe with
      | nil => exact absurd ⟨_, .endOfStream⟩ stuck
      | cons b pipe =>
          have taken : Step response capacity ⟨.exited, [b] ++ pipe, .reading builder⟩
              ⟨.exited, pipe, .reading (builder ++ [b])⟩ := .read (List.cons_ne_nil b [])
          exact absurd ⟨_, taken⟩ stuck
  | returned empty whole =>
      rw [outcome, if_pos (fits rfl), empty, whole]

theorem outcome_stuck (response : List β) (capacity : Nat) :
    Transition.Stuck (Step response capacity) (outcome response capacity) := by
  unfold outcome
  split
  · rintro ⟨s', taken⟩
    generalize state : (⟨.exited, [], .returned response⟩ : State β) = s at taken
    cases taken <;> simp at state
  · next long => exact full_stuck (Nat.lt_of_not_le long)

/-- From wherever the two parties are they can be brought to the outcome. -/
theorem reaches_outcome {s : State β}
    (reached : Transition.Reachable (Step response capacity) initial s) :
    Relation.ReflTransGen (Step response capacity) s (outcome response capacity) := by
  have never : Transition.NeverStuck (Step response capacity) initial
      (· = outcome response capacity) := by
    intro s reached notLast
    by_contra stuck
    exact notLast (eq_outcome_of_stuck reached stuck)
  obtain ⟨last, path, rfl⟩ := never.terminates (remainingWork response)
    (fun _ _ => remainingWork_step) reached
  exact path

/-- Whatever the order of the steps, a run of `call` and its child takes at most
    `2 n + 8` steps for a response of `n` bytes, and it can only end in the outcome:
    the whole response returned if it fits the pipe, and a deadlock if it does not.
    Bytes are read in order, and none before the whole response fitted the pipe. -/
theorem run_ends {n : Nat} {s : State β}
    (runs : Transition.RunsFor (Step response capacity) n initial s) :
    n ≤ 2 * response.length + 8 ∧
      (Transition.Stuck (Step response capacity) s ↔ s = outcome response capacity) ∧
      Relation.ReflTransGen (Step response capacity) s (outcome response capacity) ∧
      ∀ builder, s.caller = .reading builder ∨ s.caller = .returned builder →
        builder <+: response ∧ response.length ≤ capacity := by
  have reached := runs.reachable
  have lowers : ∀ s s' : State β, Step response capacity s s' →
      remainingWork response s' < remainingWork response s := fun _ _ => remainingWork_step
  have bounded := runs.bounded lowers
  refine ⟨?_, ⟨eq_outcome_of_stuck reached, ?_⟩, reaches_outcome reached,
    fun _ => read_of_reachable reached⟩
  · have work : remainingWork response (@initial β) = 2 * response.length + 8 := rfl
    omega
  · rintro rfl
    exact outcome_stuck response capacity

/-- Three bytes and a pipe of two: started, written once, and stuck. -/
theorem run_ends_full :
    (full [1, 2, 3] 2 : State UInt8) = outcome [1, 2, 3] 2 := by
  have started : Step [1, 2, 3] 2 (@initial UInt8) ⟨.writing ([1, 2] ++ [3]), [], .waiting⟩ := .start
  have written : Step [1, 2, 3] 2 (⟨.writing ([1, 2] ++ [3]), [], .waiting⟩ : State UInt8)
      (full [1, 2, 3] 2) := .write (List.cons_ne_nil 1 [2]) (Nat.le_refl 2)
  have runs : Transition.RunsFor (Step [1, 2, 3] 2) 2 (@initial UInt8) (full [1, 2, 3] 2) :=
    .next (.next .refl started) written
  exact (run_ends runs).2.1.mp (full_stuck (Nat.lt_succ_self 2))

end CurlPipe

end BlockSigner
