import BlockSigner.Signer

/-! # What one pass through the loop can do

`Pass` lists the ways a pass can end, each with the calls it made, its branch and
the `lastSubmittedHash` it leaves. It is proved once from the loop body
(`iterate_pass`); every statement about the loop is a case analysis over it.
-/

namespace BlockSigner

variable {lib : Libraries}

namespace Signer

def getSeedPayload : Text := RpcPayload.frame .getSeed []

def submitSeedPayload (signer : Signer lib) (seed : Bytes) : Text :=
  RpcPayload.frame .submitSeed (RPC.submitSeedParams seed
    signer.stakerPrivateKey.getPublicKeyBytes signer.coinbase.toByteArray)

def submitSignaturePayload (signature hash : Bytes) : Text :=
  RpcPayload.frame .submitSignature (RPC.submitSignatureParams signature hash)

/-- The seed derived from the answer to getseed, with every way to fail. -/
def derivedSeed (signer : Signer lib) (run : CurlRun) : Except JavaException (Option Bytes) := do
  let oldSeed ← signer.rpc.bytesAnswer lib run
  getNextSeed lib signer.stakerPrivateKey oldSeed

def sign (signer : Signer lib) (hash : Bytes) : Except JavaException Bytes :=
  lib.signMessageFromKeyBytes signer.stakerPrivateKey.getPrivateKeyBytes hash

end Signer

open Signer

/-- The calls of a pass, its branch and the hash it leaves. -/
inductive Pass (signer : Signer lib) (last : Option Bytes) (turn : Turn) :
    List (Text × CurlRun) → Branch → Option Bytes → Prop where
  | seedFailed :
      signer.derivedSeed (turn 0) = .error e →
      Pass signer last turn [(getSeedPayload, turn 0)] (.caught e) last
  | noSeed :
      signer.derivedSeed (turn 0) = .ok none →
      Pass signer last turn [(getSeedPayload, turn 0)] .noSeed last
  | submitSeedFailed :
      signer.derivedSeed (turn 0) = .ok (some seed) →
      signer.rpc.bytesAnswer lib (turn 1) = .error e →
      Pass signer last turn
        [(getSeedPayload, turn 0), (signer.submitSeedPayload seed, turn 1)] (.caught e) last
  | noBlock :
      signer.derivedSeed (turn 0) = .ok (some seed) →
      signer.rpc.bytesAnswer lib (turn 1) = .ok none →
      Pass signer last turn
        [(getSeedPayload, turn 0), (signer.submitSeedPayload seed, turn 1)] .noBlock last
  | alreadySubmitted {seed hash : Bytes} :
      signer.derivedSeed (turn 0) = .ok (some seed) →
      signer.rpc.bytesAnswer lib (turn 1) = .ok (some hash) →
      last = some hash →
      Pass signer last turn
        [(getSeedPayload, turn 0), (signer.submitSeedPayload seed, turn 1)] .alreadySubmitted last
  | signFailed {seed hash : Bytes} :
      signer.derivedSeed (turn 0) = .ok (some seed) →
      signer.rpc.bytesAnswer lib (turn 1) = .ok (some hash) →
      last ≠ some hash →
      signer.sign hash = .error e →
      Pass signer last turn
        [(getSeedPayload, turn 0), (signer.submitSeedPayload seed, turn 1)] (.caught e) last
  | submitSignatureFailed {seed hash : Bytes} :
      signer.derivedSeed (turn 0) = .ok (some seed) →
      signer.rpc.bytesAnswer lib (turn 1) = .ok (some hash) →
      last ≠ some hash →
      signer.sign hash = .ok signature →
      signer.rpc.answer lib (turn 2) = .error e →
      Pass signer last turn
        [(getSeedPayload, turn 0), (signer.submitSeedPayload seed, turn 1),
          (submitSignaturePayload signature hash, turn 2)] (.caught e) last
  | notAccepted {seed hash : Bytes} :
      signer.derivedSeed (turn 0) = .ok (some seed) →
      signer.rpc.bytesAnswer lib (turn 1) = .ok (some hash) →
      last ≠ some hash →
      signer.sign hash = .ok signature →
      signer.rpc.answer lib (turn 2) = .ok text →
      parseBoolean text = false →
      Pass signer last turn
        [(getSeedPayload, turn 0), (signer.submitSeedPayload seed, turn 1),
          (submitSignaturePayload signature hash, turn 2)] .notAccepted last
  | submitted {seed hash : Bytes} :
      signer.derivedSeed (turn 0) = .ok (some seed) →
      signer.rpc.bytesAnswer lib (turn 1) = .ok (some hash) →
      last ≠ some hash →
      signer.sign hash = .ok signature →
      signer.rpc.answer lib (turn 2) = .ok text →
      parseBoolean text = true →
      Pass signer last turn
        [(getSeedPayload, turn 0), (signer.submitSeedPayload seed, turn 1),
          (submitSignaturePayload signature hash, turn 2)] .submitted (some hash)

/-! ## The stages of the body -/

/-- The world after the answer to getseed. -/
private def asked (signer : Signer lib) (w : World) : World :=
  signer.rpc.record lib .getSeed [] w

private def offered (signer : Signer lib) (seed : Bytes) (w : World) : World :=
  signer.rpc.record lib .submitSeed (RPC.submitSeedParams seed
    signer.stakerPrivateKey.getPublicKeyBytes signer.coinbase.toByteArray) (asked signer w)

/-- The rest of the body once a seed is derived. -/
private def afterSeed (signer : Signer lib) (seed : Bytes) : Exec Branch := do
  let blockHashToSign ← signer.rpc.submitSeed lib seed
    signer.stakerPrivateKey.getPublicKeyBytes signer.coinbase.toByteArray
  match blockHashToSign with
  | none => do
      signer.logger.log noBlockLine
      pure .noBlock
  | some blockHashToSign => do
      let lastSubmittedHash ← Exec.getLastSubmittedHash
      if lastSubmittedHash ≠ some blockHashToSign then
        signer.submitBlock blockHashToSign
      else
        signer.logger.log (alreadySubmittedLine blockHashToSign)
        pure .alreadySubmitted

private theorem body_error (signer : Signer lib) {w : World} {e : JavaException}
    (derived : signer.derivedSeed (w.node 0) = .error e) :
    signer.body.run w = (.error e, asked signer w) := by
  unfold Signer.body
  simp only [Signer.derivedSeed] at derived
  cases answered : signer.rpc.bytesAnswer lib (w.node 0) with
  | error e' =>
      rw [answered] at derived
      cases derived
      exact Exec.bind_error (by rw [RPC.getSeed_run, answered]; rfl)
  | ok oldSeed =>
      rw [answered] at derived
      rw [Exec.bind_ok (by rw [RPC.getSeed_run, answered])]
      exact Exec.bind_error (by rw [Exec.liftM_run]; exact congrArg (·, _) derived)

/-- The body goes on from a derived seed, or from none. -/
private theorem body_derived (signer : Signer lib) {w : World} {nextSeed : Option Bytes}
    (derived : signer.derivedSeed (w.node 0) = .ok nextSeed) :
    signer.body.run w =
      ((match nextSeed with
        | none => do
            signer.logger.log noSeedLine
            pure .noSeed
        | some seed => afterSeed signer seed : Exec Branch)).run (asked signer w) := by
  unfold Signer.body
  simp only [Signer.derivedSeed] at derived
  cases answered : signer.rpc.bytesAnswer lib (w.node 0) with
  | error e => rw [answered] at derived; cases derived
  | ok oldSeed =>
      rw [answered] at derived
      rw [Exec.bind_ok (by rw [RPC.getSeed_run, answered])]
      rw [Exec.bind_ok (by rw [Exec.liftM_run]; exact congrArg (·, _) derived)]
      cases nextSeed with
      | none => rfl
      | some seed => rfl

private theorem body_none (signer : Signer lib) {w : World}
    (derived : signer.derivedSeed (w.node 0) = .ok none) :
    signer.body.run w = (.ok .noSeed, (asked signer w).emit (.log noSeedLine)) :=
  body_derived signer derived

private theorem body_some (signer : Signer lib) {w : World} {seed : Bytes}
    (derived : signer.derivedSeed (w.node 0) = .ok (some seed)) :
    signer.body.run w = (afterSeed signer seed).run (asked signer w) :=
  body_derived signer derived

private theorem submitSeed_offered (signer : Signer lib) (seed : Bytes) (w : World) :
    (signer.rpc.submitSeed lib seed signer.stakerPrivateKey.getPublicKeyBytes
      signer.coinbase.toByteArray).run (asked signer w) =
      (signer.rpc.bytesAnswer lib (w.node 1), offered signer seed w) := by
  rw [RPC.submitSeed_run, asked, RPC.record_node]
  rfl

private theorem afterSeed_error (signer : Signer lib) {seed : Bytes} {w : World} {e : JavaException}
    (answered : signer.rpc.bytesAnswer lib (w.node 1) = .error e) :
    (afterSeed signer seed).run (asked signer w) = (.error e, offered signer seed w) := by
  unfold afterSeed
  exact Exec.bind_error (by rw [submitSeed_offered, answered])

private theorem afterSeed_none (signer : Signer lib) {seed : Bytes} {w : World}
    (answered : signer.rpc.bytesAnswer lib (w.node 1) = .ok none) :
    (afterSeed signer seed).run (asked signer w) =
      (.ok .noBlock, (offered signer seed w).emit (.log noBlockLine)) := by
  unfold afterSeed
  rw [Exec.bind_ok (by rw [submitSeed_offered, answered])]
  rfl

private theorem offered_lastSubmittedHash (signer : Signer lib) (seed : Bytes) (w : World) :
    (offered signer seed w).lastSubmittedHash = w.lastSubmittedHash := by
  simp [offered, asked]

private theorem afterSeed_some (signer : Signer lib) {seed blockHash : Bytes} {w : World}
    (answered : signer.rpc.bytesAnswer lib (w.node 1) = .ok (some blockHash)) :
    (afterSeed signer seed).run (asked signer w) =
      if w.lastSubmittedHash ≠ some blockHash then
        (signer.submitBlock blockHash).run (offered signer seed w)
      else
        (.ok .alreadySubmitted,
          (offered signer seed w).emit (.log (alreadySubmittedLine blockHash))) := by
  unfold afterSeed
  rw [Exec.bind_ok (by rw [submitSeed_offered, answered])]
  dsimp only
  rw [Exec.bind_ok (by rw [Exec.getLastSubmittedHash_run, offered_lastSubmittedHash])]
  split <;> rfl

private theorem submitBlock_signFailed (signer : Signer lib) {blockHash : Bytes} {w : World}
    {e : JavaException} (signed : signer.sign blockHash = .error e) :
    (signer.submitBlock blockHash).run w = (.error e, w) := by
  unfold Signer.submitBlock
  apply Exec.bind_error
  rw [Exec.liftM_run]
  exact congrArg (·, w) signed

/-- The world after the answer to submitsignature. -/
private def answeredWith (signer : Signer lib) (signature blockHash : Bytes) (w : World) : World :=
  signer.rpc.record lib .submitSignature (RPC.submitSignatureParams signature blockHash) w

private theorem submitBlock_signed (signer : Signer lib) {blockHash signature : Bytes} {w : World}
    (signed : signer.sign blockHash = .ok signature) :
    (signer.submitBlock blockHash).run w =
      (do
        let answer ← signer.rpc.submitSignature lib signature blockHash
        if parseBoolean answer then
          signer.logger.log (submittedLine blockHash)
          Exec.setLastSubmittedHash blockHash
          pure .submitted
        else pure .notAccepted : Exec Branch).run w := by
  unfold Signer.submitBlock
  exact Exec.bind_ok (by rw [Exec.liftM_run]; exact congrArg (·, w) signed)

private theorem submitBlock_error (signer : Signer lib) {blockHash signature : Bytes} {w : World}
    {e : JavaException} (signed : signer.sign blockHash = .ok signature)
    (replied : signer.rpc.answer lib (w.node 0) = .error e) :
    (signer.submitBlock blockHash).run w = (.error e, answeredWith signer signature blockHash w) := by
  rw [submitBlock_signed signer signed]
  exact Exec.bind_error (by rw [RPC.submitSignature_run, replied]; rfl)

private theorem submitBlock_refused (signer : Signer lib) {blockHash signature : Bytes} {w : World}
    {text : Option Text} (signed : signer.sign blockHash = .ok signature)
    (replied : signer.rpc.answer lib (w.node 0) = .ok text) (refused : parseBoolean text = false) :
    (signer.submitBlock blockHash).run w =
      (.ok .notAccepted, answeredWith signer signature blockHash w) := by
  rw [submitBlock_signed signer signed, Exec.bind_ok (by rw [RPC.submitSignature_run, replied])]
  simp only [refused]
  rfl

private theorem submitBlock_accepted (signer : Signer lib) {blockHash signature : Bytes} {w : World}
    {text : Option Text} (signed : signer.sign blockHash = .ok signature)
    (replied : signer.rpc.answer lib (w.node 0) = .ok text) (accepted : parseBoolean text = true) :
    (signer.submitBlock blockHash).run w =
      (.ok .submitted,
        { (answeredWith signer signature blockHash w).emit (.log (submittedLine blockHash)) with
          lastSubmittedHash := some blockHash }) := by
  rw [submitBlock_signed signer signed, Exec.bind_ok (by rw [RPC.submitSignature_run, replied])]
  simp only [accepted]
  rfl

/-! ## The calls of each stage -/

private theorem asked_calls (signer : Signer lib) (w : World) :
    calls (asked signer w).events = calls w.events ++ [(getSeedPayload, w.node 0)] := by
  simp [asked, getSeedPayload]

private theorem asked_lastSubmittedHash (signer : Signer lib) (w : World) :
    (asked signer w).lastSubmittedHash = w.lastSubmittedHash := by
  simp [asked]

private theorem offered_calls (signer : Signer lib) (seed : Bytes) (w : World) :
    calls (offered signer seed w).events =
      calls w.events ++ [(getSeedPayload, w.node 0), (signer.submitSeedPayload seed, w.node 1)] := by
  simp [offered, asked, getSeedPayload, submitSeedPayload]

private theorem offered_node (signer : Signer lib) (seed : Bytes) (w : World) :
    (offered signer seed w).node 0 = w.node 2 := by
  simp [offered, asked]

private theorem answeredWith_calls (signer : Signer lib) (seed signature blockHash : Bytes)
    (w : World) :
    calls (answeredWith signer signature blockHash (offered signer seed w)).events =
      calls w.events ++ [(getSeedPayload, w.node 0), (signer.submitSeedPayload seed, w.node 1),
        (submitSignaturePayload signature blockHash, w.node 2)] := by
  simp [answeredWith, offered_calls, offered_node, submitSignaturePayload]

private theorem answeredWith_lastSubmittedHash (signer : Signer lib)
    (seed signature blockHash : Bytes) (w : World) :
    (answeredWith signer signature blockHash (offered signer seed w)).lastSubmittedHash =
      w.lastSubmittedHash := by
  simp [answeredWith, offered_lastSubmittedHash]

/-! ## The pass -/

private theorem pass_of_error (signer : Signer lib) {w w' : World} {e : JavaException}
    (h : signer.body.run w = (.error e, w')) :
    signer.pass.run w = (.ok (.caught e), w'.emit (.log (caughtLine lib e))) := by
  simp only [Signer.pass, Exec.tryCatch_run, h]
  rfl

private theorem pass_of_ok (signer : Signer lib) {w w' : World} {branch : Branch}
    (h : signer.body.run w = (.ok branch, w')) : signer.pass.run w = (.ok branch, w') := by
  simp only [Signer.pass, Exec.tryCatch_run, h]

/-- An iteration, described by the calls and the hash of the last world of its pass. -/
private theorem pass_intro (signer : Signer lib) {last : Option Bytes} {turn : Turn} {w : World}
    {branch : Branch} (h : signer.pass.run ⟨turn, [], last⟩ = (.ok branch, w))
    (described : Pass signer last turn (calls w.events) branch w.lastSubmittedHash) :
    ∃ branch, (iterate signer last turn).exit = .ok branch ∧
      Pass signer last turn (iterate signer last turn).calls branch
        (iterate signer last turn).after := by
  refine ⟨branch, ?_, ?_⟩
  · simp only [iterate, h]
  · simpa only [iterate, Iteration.calls, h] using described

/-- Every pass is one of the listed ones. In particular no exception leaves it. -/
theorem iterate_pass (signer : Signer lib) (last : Option Bytes) (turn : Turn) :
    ∃ branch, (iterate signer last turn).exit = .ok branch ∧
      Pass signer last turn (iterate signer last turn).calls branch
        (iterate signer last turn).after := by
  cases derived : signer.derivedSeed (turn 0) with
  | error e =>
      apply pass_intro signer (pass_of_error signer (body_error signer derived))
      simpa [asked_calls, asked_lastSubmittedHash] using Pass.seedFailed derived
  | ok nextSeed =>
      cases nextSeed with
      | none =>
          apply pass_intro signer (pass_of_ok signer (body_none signer derived))
          simpa [asked_calls, asked_lastSubmittedHash] using Pass.noSeed derived
      | some seed =>
          have seeded := body_some signer (w := ⟨turn, [], last⟩) derived
          cases answered : signer.rpc.bytesAnswer lib (turn 1) with
          | error e =>
              rw [afterSeed_error signer answered] at seeded
              apply pass_intro signer (pass_of_error signer seeded)
              simpa [offered_calls, offered_lastSubmittedHash] using
                Pass.submitSeedFailed derived answered
          | ok blockHashToSign =>
              cases blockHashToSign with
              | none =>
                  rw [afterSeed_none signer answered] at seeded
                  apply pass_intro signer (pass_of_ok signer seeded)
                  simpa [offered_calls, offered_lastSubmittedHash] using
                    Pass.noBlock derived answered
              | some blockHash =>
                  rw [afterSeed_some signer answered] at seeded
                  by_cases fresh : last ≠ some blockHash
                  · rw [if_pos fresh] at seeded
                    cases signed : signer.sign blockHash with
                    | error e =>
                        rw [submitBlock_signFailed signer signed] at seeded
                        apply pass_intro signer (pass_of_error signer seeded)
                        simpa [offered_calls, offered_lastSubmittedHash] using
                          Pass.signFailed derived answered fresh signed
                    | ok signature =>
                        have node : (offered signer seed ⟨turn, [], last⟩).node 0 = turn 2 :=
                          offered_node signer seed ⟨turn, [], last⟩
                        cases replied : signer.rpc.answer lib (turn 2) with
                        | error e =>
                            rw [submitBlock_error signer signed (by rw [node, replied])] at seeded
                            apply pass_intro signer (pass_of_error signer seeded)
                            simpa [answeredWith_calls, answeredWith_lastSubmittedHash] using
                              Pass.submitSignatureFailed derived answered fresh signed replied
                        | ok text =>
                            cases accepted : parseBoolean text with
                            | false =>
                                rw [submitBlock_refused signer signed (by rw [node, replied]) accepted]
                                  at seeded
                                apply pass_intro signer (pass_of_ok signer seeded)
                                simpa [answeredWith_calls, answeredWith_lastSubmittedHash] using
                                  Pass.notAccepted derived answered fresh signed replied accepted
                            | true =>
                                rw [submitBlock_accepted signer signed (by rw [node, replied]) accepted]
                                  at seeded
                                apply pass_intro signer (pass_of_ok signer seeded)
                                simpa [answeredWith_calls] using
                                  Pass.submitted derived answered fresh signed replied accepted
                  · rw [if_neg fresh] at seeded
                    apply pass_intro signer (pass_of_ok signer seeded)
                    simpa [offered_calls, offered_lastSubmittedHash] using
                      Pass.alreadySubmitted derived answered (not_not.mp fresh)

end BlockSigner
