import BlockSigner.TwoRuns

/-! # What a computation adds to its record

A computation takes a state to a result or an exception, and to the state it
leaves. It emits within `P` when all it adds to the record of the state satisfies
`P`, from every state in which an invariant holds; the invariant holds again
afterwards. What is built from such parts emits within `P` as well.
-/

namespace Emission

variable {σ η ε α β : Type}

/-- From one state to the other the record only grew, by entries of one kind. -/
def Adds (record : σ → List η) (P : η → Prop) (s s' : σ) : Prop :=
  ∃ new, record s' = record s ++ new ∧ ∀ e ∈ new, P e

def Emits (record : σ → List η) (inv : σ → Prop) (P : η → Prop) (x : σ → Except ε α × σ) : Prop :=
  ∀ s, inv s → inv (x s).2 ∧ Adds record P s (x s).2

section

variable {record : σ → List η} {inv : σ → Prop} {P : η → Prop} {s s' s'' : σ}

namespace Adds

theorem none (same : record s' = record s) : Adds record P s s' :=
  ⟨[], by rw [same, List.append_nil], by simp⟩

theorem one {e : η} (grown : record s' = record s ++ [e]) (holds : P e) : Adds record P s s' :=
  ⟨[e], grown, by simpa using holds⟩

theorem trans (first : Adds record P s s') (rest : Adds record P s' s'') :
    Adds record P s s'' := by
  obtain ⟨new, added, all⟩ := first
  obtain ⟨new', added', all'⟩ := rest
  refine ⟨new ++ new', by rw [added', added, List.append_assoc], ?_⟩
  intro e member
  rcases List.mem_append.mp member with member | member
  · exact all e member
  · exact all' e member

end Adds

namespace Emits

/-- A result that does not depend on the state, and leaves it. -/
theorem result (a : Except ε α) : Emits record inv P (fun s => (a, s)) :=
  fun _ holds => ⟨holds, .none rfl⟩

theorem andThen {x : σ → Except ε α × σ} {f : α → σ → Except ε β × σ}
    (first : Emits record inv P x) (rest : ∀ a, Emits record inv P (f a)) :
    Emits record inv P (TwoRuns.andThen x f) := by
  intro s holds
  obtain ⟨holds', adds⟩ := first s holds
  simp only [TwoRuns.andThen]
  cases ran : x s with
  | mk a t =>
      rw [ran] at holds' adds
      cases a with
      | error e => exact ⟨holds', adds⟩
      | ok a =>
          obtain ⟨holds'', more⟩ := rest a t holds'
          exact ⟨holds'', adds.trans more⟩

theorem catching {x : σ → Except ε α × σ} {handler : ε → σ → Except ε α × σ}
    (body : Emits record inv P x) (caught : ∀ e, Emits record inv P (handler e)) :
    Emits record inv P (TwoRuns.catching x handler) := by
  intro s holds
  obtain ⟨holds', adds⟩ := body s holds
  simp only [TwoRuns.catching]
  cases ran : x s with
  | mk a t =>
      rw [ran] at holds' adds
      cases a with
      | ok a => exact ⟨holds', adds⟩
      | error e =>
          obtain ⟨holds'', more⟩ := caught e t holds'
          exact ⟨holds'', adds.trans more⟩

/-- From an empty record on, everything in it satisfies `P`. -/
theorem all {x : σ → Except ε α × σ} (emits : Emits record inv P x) (holds : inv s)
    (blank : record s = []) : ∀ e ∈ record (x s).2, P e := by
  obtain ⟨_, new, added, all⟩ := emits s holds
  rw [added, blank]
  exact all

end Emits

end

end Emission
