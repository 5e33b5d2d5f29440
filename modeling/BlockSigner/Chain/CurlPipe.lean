import BlockSigner.Transition
import BlockSigner.Chain.RpcCaller

/-! # `RpcCaller.call` and its child

curl writes its response to a pipe of bounded capacity and exits; `call` starts
it, waits for its exit and only then drains the pipe. Neither side gets stuck
exactly if the response fits the pipe. A run that does return has read all of
the response, which is what `RpcCaller.resultOf` takes for granted.
-/

namespace BlockSigner

namespace CurlPipe

variable {β : Type}

/-- The child: not started, with some of the response still to write, or gone. -/
inductive Child (β : Type) where
  | notStarted
  | writing (remaining : List β)
  | exited

/-- Where `call` is: before `start`, in `waitFor`, in the read loop with what it
    has read, or returned. -/
inductive Caller (β : Type) where
  | starting
  | waiting
  | reading (builder : List β)
  | returned (output : List β)

structure State (β : Type) where
  child : Child β
  pipe : List β
  caller : Caller β

def initial : State β := ⟨.notStarted, [], .starting⟩

/-- One step of either party. A write takes place only as far as the pipe has
    room, `waitFor` returns only after the exit, and the stream ends only when
    the writer is gone and the pipe is empty. -/
inductive Step (response : List β) (capacity : Nat) : State β → State β → Prop where
  | start :
      Step response capacity ⟨.notStarted, pipe, .starting⟩ ⟨.writing response, pipe, .waiting⟩
  | write {chunk remaining pipe : List β} {caller : Caller β} :
      chunk ≠ [] → pipe.length + chunk.length ≤ capacity →
      Step response capacity ⟨.writing (chunk ++ remaining), pipe, caller⟩
        ⟨.writing remaining, pipe ++ chunk, caller⟩
  | exit : Step response capacity ⟨.writing [], pipe, caller⟩ ⟨.exited, pipe, caller⟩
  | waitFor :
      Step response capacity ⟨.exited, pipe, .waiting⟩ ⟨.exited, pipe, .reading []⟩
  | read {chunk pipe builder : List β} {child : Child β} :
      chunk ≠ [] →
      Step response capacity ⟨child, chunk ++ pipe, .reading builder⟩
        ⟨child, pipe, .reading (builder ++ chunk)⟩
  | endOfStream {builder : List β} :
      Step response capacity ⟨.exited, [], .reading builder⟩ ⟨.exited, [], .returned builder⟩

def Returned (s : State β) : Prop := ∃ output, s.caller = .returned output

/-- `call` never gets stuck against its child. -/
def NeverStuck (response : List β) (capacity : Nat) : Prop :=
  Transition.NeverStuck (Step response capacity) initial Returned

/-! ## What holds in every reachable state -/

/-- The response is split over what is unwritten, in the pipe and read. -/
inductive Split (response : List β) : State β → Prop where
  | before : pipe = [] → Split response ⟨.notStarted, pipe, .starting⟩
  | writing : pipe ++ remaining = response → Split response ⟨.writing remaining, pipe, .waiting⟩
  | waiting : pipe = response → Split response ⟨.exited, pipe, .waiting⟩
  | reading : builder ++ pipe = response → Split response ⟨.exited, pipe, .reading builder⟩
  | returned : pipe = [] → output = response → Split response ⟨.exited, pipe, .returned output⟩

variable {response : List β} {capacity : Nat}

theorem Split.step {s s' : State β} (split : Split response s) (taken : Step response capacity s s') :
    Split response s' := by
  cases taken with
  | start =>
      cases split with
      | before empty => exact .writing (by rw [empty, List.nil_append])
  | write _ _ =>
      cases split with
      | writing whole => exact .writing (by rw [List.append_assoc, whole])
  | exit =>
      cases split with
      | writing whole => exact .waiting (by rw [← whole, List.append_nil])
  | waitFor =>
      cases split with
      | waiting whole => exact .reading whole
  | read _ =>
      cases split with
      | reading whole => exact .reading (by rw [List.append_assoc, whole])
  | endOfStream =>
      cases split with
      | reading whole => exact .returned rfl (by rw [← whole, List.append_nil])

theorem split_of_reachable {s : State β}
    (reached : Transition.Reachable (Step response capacity) initial s) : Split response s :=
  reached.invariant (.before rfl) fun _ _ => Split.step

/-- A response that fits leaves one of the parties a step. -/
theorem Split.progress {s : State β} (split : Split response s)
    (fits : response.length ≤ capacity) (running : ¬ Returned s) :
    ∃ s', Step response capacity s s' := by
  cases split with
  | before _ => exact ⟨_, .start⟩
  | @writing pipe remaining whole =>
      cases remaining with
      | nil => exact ⟨_, .exit⟩
      | cons b remaining =>
          have room : pipe.length + (b :: remaining).length ≤ capacity := by
            rw [← List.length_append, whole]
            exact fits
          have written : Step response capacity ⟨.writing ((b :: remaining) ++ []), pipe, .waiting⟩
              ⟨.writing [], pipe ++ b :: remaining, .waiting⟩ :=
            .write (List.cons_ne_nil b remaining) room
          rw [List.append_nil] at written
          exact ⟨_, written⟩
  | waiting _ => exact ⟨_, .waitFor⟩
  | @reading builder pipe _ =>
      cases pipe with
      | nil => exact ⟨_, .endOfStream⟩
      | cons b pipe =>
          have taken : Step response capacity ⟨.exited, [b] ++ pipe, .reading builder⟩
              ⟨.exited, pipe, .reading (builder ++ [b])⟩ := .read (List.cons_ne_nil b [])
          exact ⟨_, taken⟩
  | returned _ _ => exact absurd ⟨_, rfl⟩ running

/-! ## The stuck state -/

/-- The pipe is full, curl has more to write, and `call` waits for its exit. -/
def full (response : List β) (capacity : Nat) : State β :=
  ⟨.writing (response.drop capacity), response.take capacity, .waiting⟩

theorem full_reachable :
    Transition.Reachable (Step response capacity) initial (full response capacity) := by
  have started : Transition.Reachable (Step response capacity) initial
      ⟨.writing response, [], .waiting⟩ := Transition.Reachable.refl.next .start
  by_cases nothing : response.take capacity = []
  · have all : response.drop capacity = response := by
      simpa [nothing] using List.take_append_drop capacity response
    rw [full, nothing, all]
    exact started
  · have room : ([] : List β).length + (response.take capacity).length ≤ capacity := by
      simp only [List.length_nil, List.length_take]
      omega
    have written : Step response capacity
        ⟨.writing (response.take capacity ++ response.drop capacity), [], .waiting⟩
        ⟨.writing (response.drop capacity), [] ++ response.take capacity, .waiting⟩ :=
      .write nothing room
    rw [List.take_append_drop, List.nil_append] at written
    exact started.next written

theorem full_stuck (long : capacity < response.length) :
    Transition.Stuck (Step response capacity) (full response capacity) := by
  intro ⟨s', taken⟩
  have size : (response.take capacity).length = capacity := by
    rw [List.length_take]
    omega
  have rest : (response.drop capacity).length = response.length - capacity := List.length_drop
  generalize state : full response capacity = s at taken
  cases taken with
  | start => cases state
  | write nonempty room =>
      simp only [full, State.mk.injEq] at state
      obtain ⟨_, pipe, _⟩ := state
      rw [← pipe, size] at room
      exact nonempty (List.length_eq_zero_iff.mp (by omega))
  | exit =>
      simp only [full, State.mk.injEq, Child.writing.injEq] at state
      rw [state.1] at rest
      simp only [List.length_nil] at rest
      omega
  | waitFor => cases state
  | read _ => simp [full] at state
  | endOfStream => cases state

theorem neverStuck_of_fits (fits : response.length ≤ capacity) : NeverStuck response capacity := by
  have started : Split response (@initial β) := .before rfl
  apply Transition.NeverStuck.of_invariant started
  · intro _ _
    exact Split.step
  · intro _ split
    exact split.progress fits

/-- `call` and curl never block each other exactly if the pipe holds the whole
    response. -/
theorem neverStuck_iff (response : List β) (capacity : Nat) :
    NeverStuck response capacity ↔ response.length ≤ capacity := by
  constructor
  · intro never
    by_contra long
    apply Transition.not_neverStuck full_reachable _ (full_stuck (Nat.lt_of_not_le long)) never
    rintro ⟨output, returned⟩
    cases returned
  · intro fits
    exact neverStuck_of_fits fits

/-- With a Linux pipe of 64 KiB, a response of one byte more. -/
theorem stuck_of_full_pipe :
    ∃ (response : List UInt8) (capacity : Nat), 0 < capacity ∧ ¬ NeverStuck response capacity := by
  refine ⟨List.replicate 65537 0, 65536, by decide, ?_⟩
  apply Transition.not_neverStuck full_reachable _ (full_stuck (by rw [List.length_replicate]; omega))
  rintro ⟨output, returned⟩
  cases returned

/-! ## Returning -/

/-- What either party still has to do. -/
def remainingWork (response : List β) (s : State β) : Nat :=
  (match s.child with
    | .notStarted => 2 * response.length + 5
    | .writing remaining => 2 * remaining.length + 2
    | .exited => 0) + s.pipe.length +
  match s.caller with
    | .starting => 3
    | .waiting => 2
    | .reading _ => 1
    | .returned _ => 0

theorem remainingWork_step {s s' : State β} (taken : Step response capacity s s') :
    remainingWork response s' < remainingWork response s := by
  cases taken with
  | start => simp only [remainingWork]; omega
  | write nonempty _ =>
      have longer := List.length_pos_iff.mpr nonempty
      simp only [remainingWork, List.length_append]
      omega
  | exit => simp only [remainingWork, List.length_nil]; omega
  | waitFor => simp only [remainingWork]; omega
  | read nonempty =>
      have longer := List.length_pos_iff.mpr nonempty
      simp only [remainingWork, List.length_append]
      omega
  | endOfStream => simp only [remainingWork]; omega

/-- Where the response fits, `call` can be brought to its return from wherever
    the two parties are. -/
theorem returns_of_fits (fits : response.length ≤ capacity) {s : State β}
    (reached : Transition.Reachable (Step response capacity) initial s) :
    ∃ s', Relation.ReflTransGen (Step response capacity) s s' ∧ Returned s' := by
  apply Transition.NeverStuck.terminates _ (remainingWork response)
    (fun _ _ => remainingWork_step) reached
  exact neverStuck_of_fits fits

/-- What is returned is the response, whole and in order. -/
theorem returned_output {s : State β} {output : List β}
    (reached : Transition.Reachable (Step response capacity) initial s)
    (returned : s.caller = .returned output) : output = response := by
  have split := split_of_reachable reached
  cases split with
  | returned _ whole =>
      cases returned
      exact whole
  | before _ | writing _ | waiting _ | reading _ => cases returned

/-- The result of a call is the classification of what the read loop returned,
    whatever charset the reader decodes with. -/
theorem resultOf_returned (lib : Libraries) (caller : RpcCaller) (charset : List β → Text)
    (nanoTime status : Int) {s : State β} {output : List β}
    (reached : Transition.Reachable (Step response capacity) initial s)
    (returned : s.caller = .returned output) :
    RpcCaller.resultOf lib caller false ⟨nanoTime, .exited status (charset response)⟩ =
      RpcCaller.classify lib caller nanoTime status (Text.readAll (charset output)) := by
  rw [returned_output reached returned]
  rfl

end CurlPipe

end BlockSigner
