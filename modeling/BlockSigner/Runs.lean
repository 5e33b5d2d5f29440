import BlockSigner.Register
import BlockSigner.Iteration
import BlockSigner.Chain.Requests
import BlockSigner.Chain.Answers

/-! # Runs of the signing loop

No exception leaves the body, so a run has one iteration for each turn of the
node, and each iteration starts from the hash its predecessor left. What was
acknowledged is read off the calls themselves: a payload that decodes to a
submitsignature, answered with a text that is `true`.
-/

namespace BlockSigner

variable {lib : Libraries}

/-! ## Iterations of a run -/

theorem runFrom_cons (signer : Signer lib) (last : Option Bytes) (turn : Turn) (turns : List Turn) :
    runFrom signer last (turn :: turns) =
      iterate signer last turn :: runFrom signer (iterate signer last turn).after turns := by
  obtain ⟨branch, exit, _⟩ := iterate_pass signer last turn
  simp only [runFrom, exit]

theorem runFrom_length (signer : Signer lib) (last : Option Bytes) (turns : List Turn) :
    (runFrom signer last turns).length = turns.length := by
  induction turns generalizing last with
  | nil => rfl
  | cons turn turns ih => rw [runFrom_cons, List.length_cons, List.length_cons, ih]

theorem mem_runFrom {signer : Signer lib} {last : Option Bytes} {turns : List Turn}
    {iteration : Iteration} (member : iteration ∈ runFrom signer last turns) :
    ∃ before turn, iteration = iterate signer before turn := by
  induction turns generalizing last with
  | nil => cases member
  | cons turn turns ih =>
      rw [runFrom_cons] at member
      rcases List.mem_cons.mp member with rfl | member
      · exact ⟨last, turn, rfl⟩
      · exact ih member

@[simp] theorem iterate_before (signer : Signer lib) (last : Option Bytes) (turn : Turn) :
    (iterate signer last turn).before = last := rfl

/-- Every iteration of a run is a pass from the hash at its head. -/
theorem run_pass {signer : Signer lib} {turns : List Turn} {iteration : Iteration}
    (member : iteration ∈ run signer turns) :
    ∃ turn branch, iteration.exit = .ok branch ∧
      Pass signer iteration.before turn iteration.calls branch iteration.after := by
  obtain ⟨before, turn, rfl⟩ := mem_runFrom member
  obtain ⟨branch, exit, pass⟩ := iterate_pass signer before turn
  exact ⟨turn, branch, exit, pass⟩

/-! ## The calls of an iteration, decoded -/

@[simp] theorem decode_getSeedPayload : RpcCall.decode Signer.getSeedPayload = some .getSeed :=
  RpcCall.decode_frame .getSeed

@[simp] theorem decode_submitSeedPayload (signer : Signer lib) (seed : Bytes) :
    RpcCall.decode (signer.submitSeedPayload seed) =
      some (.submitSeed seed signer.stakerPrivateKey.getPublicKeyBytes
        signer.coinbase.toByteArray) :=
  RpcCall.decode_frame (.submitSeed _ _ _)

@[simp] theorem decode_submitSignaturePayload (signature blockHash : Bytes) :
    RpcCall.decode (Signer.submitSignaturePayload signature blockHash) =
      some (.submitSignature signature blockHash) :=
  RpcCall.decode_frame (.submitSignature _ _)

/-- A derived seed comes from the byte string of the getseed answer. -/
theorem Signer.derivedSeed_some {signer : Signer lib} {answer : CurlRun} {seed : Bytes}
    (derived : signer.derivedSeed answer = .ok (some seed)) :
    ∃ oldSeed, signer.rpc.bytesAnswer lib answer = .ok (some oldSeed) ∧
      getNextSeed lib signer.stakerPrivateKey (some oldSeed) = .ok (some seed) := by
  simp only [Signer.derivedSeed] at derived
  cases answered : signer.rpc.bytesAnswer lib answer with
  | error e => rw [answered] at derived; cases derived
  | ok oldSeed =>
      rw [answered] at derived
      cases oldSeed with
      | none => cases derived
      | some oldSeed => exact ⟨oldSeed, rfl, derived⟩

/-! ## The calls of a pass -/

variable {signer : Signer lib} {last : Option Bytes} {turn : Turn}
  {calls : List (Text × CurlRun)} {branch : Branch} {after : Option Bytes}

/-- The calls a pass can have made, with what each was made from. -/
theorem Pass.shape (pass : Pass signer last turn calls branch after) :
    calls = [(Signer.getSeedPayload, turn 0)] ∨
    (∃ seed, signer.derivedSeed (turn 0) = .ok (some seed) ∧
      calls = [(Signer.getSeedPayload, turn 0), (signer.submitSeedPayload seed, turn 1)]) ∨
    (∃ seed blockHash signature, signer.derivedSeed (turn 0) = .ok (some seed) ∧
      signer.rpc.bytesAnswer lib (turn 1) = .ok (some blockHash) ∧
      signer.sign blockHash = .ok signature ∧
      calls = [(Signer.getSeedPayload, turn 0), (signer.submitSeedPayload seed, turn 1),
        (Signer.submitSignaturePayload signature blockHash, turn 2)]) := by
  cases pass with
  | seedFailed _ => exact .inl rfl
  | noSeed _ => exact .inl rfl
  | submitSeedFailed derived _ => exact .inr (.inl ⟨_, derived, rfl⟩)
  | noBlock derived _ => exact .inr (.inl ⟨_, derived, rfl⟩)
  | alreadySubmitted derived _ _ => exact .inr (.inl ⟨_, derived, rfl⟩)
  | signFailed derived _ _ _ => exact .inr (.inl ⟨_, derived, rfl⟩)
  | submitSignatureFailed derived answered _ signed _ =>
      exact .inr (.inr ⟨_, _, _, derived, answered, signed, rfl⟩)
  | notAccepted derived answered _ signed _ _ =>
      exact .inr (.inr ⟨_, _, _, derived, answered, signed, rfl⟩)
  | submitted derived answered _ signed _ _ =>
      exact .inr (.inr ⟨_, _, _, derived, answered, signed, rfl⟩)

/-- Each call of a pass, with the run of the turn that answers it. -/
theorem Pass.mem_calls (pass : Pass signer last turn calls branch after) {call : Text × CurlRun}
    (member : call ∈ calls) :
    call = (Signer.getSeedPayload, turn 0) ∨
    (∃ seed, call = (signer.submitSeedPayload seed, turn 1) ∧ 2 ≤ calls.length) ∨
    (∃ signature blockHash,
      call = (Signer.submitSignaturePayload signature blockHash, turn 2) ∧ 3 ≤ calls.length) := by
  rcases pass.shape with rfl | ⟨seed, _, rfl⟩ | ⟨seed, blockHash, signature, _, _, _, rfl⟩
  · exact .inl (List.mem_singleton.mp member)
  · rw [List.mem_cons, List.mem_singleton] at member
    rcases member with rfl | rfl
    · exact .inl rfl
    · exact .inr (.inl ⟨seed, rfl, Nat.le_refl 2⟩)
  · rw [List.mem_cons, List.mem_cons, List.mem_singleton] at member
    rcases member with rfl | rfl | rfl
    · exact .inl rfl
    · exact .inr (.inl ⟨seed, rfl, Nat.le_succ 2⟩)
    · exact .inr (.inr ⟨signature, blockHash, rfl, Nat.le_refl 3⟩)

/-- A submitseed among the calls was answered by the second run of the turn. -/
theorem Pass.offered_answer (pass : Pass signer last turn calls branch after)
    {offered : Text × CurlRun} (member : offered ∈ calls) {seed publicKey coinbase : Bytes}
    (decoded : RpcCall.decode offered.1 = some (.submitSeed seed publicKey coinbase)) :
    offered.2 = turn 1 := by
  rcases pass.mem_calls member with rfl | ⟨_, rfl, _⟩ | ⟨_, _, rfl, _⟩
  · rw [decode_getSeedPayload] at decoded
    cases decoded
  · rfl
  · rw [decode_submitSignaturePayload] at decoded
    cases decoded

/-! ## Acknowledged hashes -/

/-- The text a method returns is `true`, ignoring case. -/
def returnedTrue : Except JavaException (Option Text) → Bool
  | .ok text => parseBoolean text
  | .error _ => false

/-- The block hash of a submitsignature call that returned `true`. -/
def acknowledged (signer : Signer lib) (call : Text × CurlRun) : Option Bytes :=
  match RpcCall.decode call.1 with
  | some (.submitSignature _ blockHash) =>
      if returnedTrue (signer.rpc.answer lib call.2) then some blockHash else none
  | _ => none

def Iteration.acknowledgements (signer : Signer lib) (iteration : Iteration) : List Bytes :=
  iteration.calls.filterMap (acknowledged signer)

@[simp] theorem acknowledged_getSeed (signer : Signer lib) (answer : CurlRun) :
    acknowledged signer (Signer.getSeedPayload, answer) = none := by
  simp [acknowledged]

@[simp] theorem acknowledged_submitSeed (signer : Signer lib) (seed : Bytes) (answer : CurlRun) :
    acknowledged signer (signer.submitSeedPayload seed, answer) = none := by
  simp [acknowledged]

theorem acknowledged_submitSignature (signer : Signer lib) (signature blockHash : Bytes)
    (answer : CurlRun) :
    acknowledged signer (Signer.submitSignaturePayload signature blockHash, answer) =
      if returnedTrue (signer.rpc.answer lib answer) then some blockHash else none := by
  simp [acknowledged]

/-- A pass acknowledges at most one hash, a new one, and leaves it behind. -/
theorem Pass.acknowledges (pass : Pass signer last turn calls branch after) :
    calls.filterMap (acknowledged signer) = [] ∧ after = last ∨
      ∃ blockHash, calls.filterMap (acknowledged signer) = [blockHash] ∧ after = some blockHash ∧
        last ≠ some blockHash := by
  cases pass with
  | submitted _ _ fresh _ replied accepted =>
      refine .inr ⟨_, ?_, rfl, fresh⟩
      simp [acknowledged_submitSignature, replied, returnedTrue, accepted]
  | notAccepted _ _ _ _ replied refused =>
      simp [acknowledged_submitSignature, replied, returnedTrue, refused]
  | submitSignatureFailed _ _ _ _ replied =>
      simp [acknowledged_submitSignature, replied, returnedTrue]
  | _ => simp

/-- `lastSubmittedHash` is a register, and acknowledgements are its writes. -/
theorem runFrom_trace (signer : Signer lib) (last : Option Bytes) (turns : List Turn) :
    Register.Trace Iteration.before (Iteration.acknowledgements signer) last
      (runFrom signer last turns) := by
  induction turns generalizing last with
  | nil => exact .nil
  | cons turn turns ih =>
      rw [runFrom_cons]
      obtain ⟨_, _, pass⟩ := iterate_pass signer last turn
      apply Register.Trace.cons (iterate_before signer last turn)
      have left : (iterate signer last turn).after =
          Register.latest last (Iteration.acknowledgements signer (iterate signer last turn)) := by
        unfold Iteration.acknowledgements
        rcases pass.acknowledges with ⟨none, after⟩ | ⟨blockHash, one, after, _⟩
        · rw [none, after, Register.latest_nil]
        · rw [one, after]
          rfl
      rw [← left]
      exact ih _

end BlockSigner
