import BlockSigner.SeedChain
import BlockSigner.Submission

/-! # Failures of the native functions

`crypto_vrf_prove` and `crypto_vrf_proof_to_hash` report failure through their
status alone and leave the output buffer as it was. `generateProof` and
`generateProofHash` return the buffer without a look at the status, so a failure
turns into the zero bytes the buffer was made of, and the iteration submits a
seed as if nothing had happened.
-/

namespace BlockSigner

variable {lib : Libraries}

/-! ## Statuses -/

/-- The status of the call that `generateProof` makes. -/
def proveStatus (sodium : Sodium) (message sk : Bytes) : Int :=
  (sodium.cryptoVrfProve (VRF_Ed25519.newBytes sodium.cryptoVrfProofbytes) sk message
    message.length).1

/-- The status of the call that `generateProofHash` makes. -/
def hashStatus (sodium : Sodium) (proof : Bytes) : Int :=
  (sodium.cryptoVrfProofToHash (VRF_Ed25519.newBytes sodium.cryptoVrfOutputbytes) proof).1

/-- The hash buffer that `generateProofHash` returns. -/
def hashBuffer (sodium : Sodium) (proof : Bytes) : Bytes :=
  (sodium.cryptoVrfProofToHash (VRF_Ed25519.newBytes sodium.cryptoVrfOutputbytes) proof).2

/-- A native call made while deriving the seed after this one reports failure. -/
inductive NativeFailure (lib : Libraries) (key : PrivateKey lib) : Option Bytes → Prop where
  | fork {oldSeed : Bytes} :
      MarksFork oldSeed →
      proveStatus lib.sodium (oldSeed.take seedLength) key.getKeyPairBytes ≠ 0 →
      NativeFailure lib key (some oldSeed)
  | hash {oldSeed : Bytes} :
      oldSeed.length = proofLength → hashStatus lib.sodium oldSeed ≠ 0 →
      NativeFailure lib key (some oldSeed)
  | proof {oldSeed : Bytes} :
      oldSeed.length = proofLength →
      proveStatus lib.sodium (hashBuffer lib.sodium oldSeed) key.getKeyPairBytes ≠ 0 →
      NativeFailure lib key (some oldSeed)

/-! ## What is returned after a failure -/

theorem generateProof_of_failure {sodium : Sodium} (failures : FailureContract sodium)
    (message : Bytes) {sk : Bytes} (size : sk.length = 64)
    (failed : proveStatus sodium message sk ≠ 0) :
    VRF_Ed25519.generateProof sodium (some message) (some sk) =
      .ok (VRF_Ed25519.newBytes sodium.cryptoVrfProofbytes) := by
  rw [VRF_Ed25519.generateProof_eq sodium message size, failures.prove_keeps _ _ _ _ failed]

theorem generateProofHash_of_failure {sodium : Sodium} (failures : FailureContract sodium)
    {proof : Bytes} (size : proof.length = sodium.cryptoVrfProofbytes)
    (failed : hashStatus sodium proof ≠ 0) :
    VRF_Ed25519.generateProofHash sodium (some proof) =
      .ok (VRF_Ed25519.newBytes sodium.cryptoVrfOutputbytes) := by
  rw [VRF_Ed25519.generateProofHash_eq sodium size, failures.proofToHash_keeps _ _ failed]

/-- The proof after an undecodable seed is one over zero bytes: it does not
    depend on the seed, and all such seeds have the same successor. -/
theorem getNextSeed_undecodable (failures : FailureContract lib.sodium) (sizes : VrfSizes lib.sodium)
    (key : PrivateKey lib) {oldSeed : Bytes} (size : oldSeed.length = proofLength)
    (failed : hashStatus lib.sodium oldSeed ≠ 0) :
    getNextSeed lib key (some oldSeed) =
      some <$> VRF_Ed25519.generateProof lib.sodium (some (VRF_Ed25519.newBytes 64))
        (some key.getKeyPairBytes) := by
  have decodable : oldSeed.length = lib.sodium.cryptoVrfProofbytes := by
    rw [size, sizes.proofbytes]
    rfl
  have zeros := generateProofHash_of_failure failures decodable failed
  rw [sizes.outputbytes] at zeros
  rw [getNextSeed_proof key size, zeros]
  rfl

/-- Where the prover fails at the fork, the next seed is 80 zero bytes. -/
theorem getNextSeed_unproved (failures : FailureContract lib.sodium) (keys : KeyContract lib)
    (sizes : VrfSizes lib.sodium) (key : PrivateKey lib) {oldSeed : Bytes} (marks : MarksFork oldSeed)
    (failed : proveStatus lib.sodium (oldSeed.take seedLength) key.getKeyPairBytes ≠ 0) :
    getNextSeed lib key (some oldSeed) = .ok (some (VRF_Ed25519.newBytes 80)) := by
  have zeros := generateProof_of_failure failures _ (key.keyPair_size keys) failed
  rw [sizes.proofbytes] at zeros
  rw [getNextSeed_fork key marks, zeros]
  rfl

/-- `generateProof` returns an array whatever the native prover reports. -/
theorem generateProof_returns (keys : KeyContract lib) (key : PrivateKey lib) (message : Bytes) :
    ∃ seed, some <$> VRF_Ed25519.generateProof lib.sodium (some message) (some key.getKeyPairBytes) =
      .ok (some seed) := by
  rw [VRF_Ed25519.generateProof_eq lib.sodium message (key.keyPair_size keys)]
  exact ⟨_, rfl⟩

/-- From every proof a next seed is derived. -/
theorem getNextSeed_of_proof (keys : KeyContract lib) (sizes : VrfSizes lib.sodium)
    (key : PrivateKey lib) {oldSeed : Bytes} (size : oldSeed.length = proofLength) :
    ∃ seed, getNextSeed lib key (some oldSeed) = .ok (some seed) := by
  have decodable : oldSeed.length = lib.sodium.cryptoVrfProofbytes := by
    rw [size, sizes.proofbytes]
    rfl
  rw [getNextSeed_proof key size, VRF_Ed25519.generateProofHash_eq lib.sodium decodable]
  exact generateProof_returns keys key _

/-- A failure does not keep a seed from being derived. -/
theorem getNextSeed_of_failure (keys : KeyContract lib) (sizes : VrfSizes lib.sodium)
    {key : PrivateKey lib} {oldSeed : Option Bytes} (failed : NativeFailure lib key oldSeed) :
    ∃ seed, getNextSeed lib key oldSeed = .ok (some seed) := by
  cases failed with
  | fork marks _ =>
      rw [getNextSeed_fork key marks]
      exact generateProof_returns keys key _
  | hash size _ => exact getNextSeed_of_proof keys sizes key size
  | proof size _ => exact getNextSeed_of_proof keys sizes key size

/-! ## Iterations -/

/-- Some call of the iteration submits a seed. -/
def SubmitsSeed (iteration : Iteration) : Prop :=
  ∃ call ∈ iteration.calls, ∃ seed publicKey coinbase,
    RpcCall.decode call.1 = some (.submitSeed seed publicKey coinbase)

variable {signer : Signer lib} {last : Option Bytes} {turn : Turn}
  {calls : List (Text × CurlRun)} {branch : Branch} {after : Option Bytes}

/-- A derived seed is submitted. -/
theorem Pass.submits_derived (pass : Pass signer last turn calls branch after) {seed : Bytes}
    (derived : signer.derivedSeed (turn 0) = .ok (some seed)) :
    (signer.submitSeedPayload seed, turn 1) ∈ calls := by
  cases pass with
  | seedFailed other | noSeed other => rw [derived] at other; cases other
  | submitSeedFailed other _ | noBlock other _ | alreadySubmitted other _ _ | signFailed other _ _ _
  | submitSignatureFailed other _ _ _ _ | notAccepted other _ _ _ _ _ | submitted other _ _ _ _ _ =>
      rw [derived] at other
      cases other
      simp

/-- In an iteration whose old seed runs into a failure a seed is submitted all
    the same. -/
theorem submitsSeed_of_failure (keys : KeyContract lib) (sizes : VrfSizes lib.sodium)
    {signer : Signer lib} {turns : List Turn} {iteration : Iteration}
    (member : iteration ∈ run signer turns) {asked : Text × CurlRun}
    (made : asked ∈ iteration.calls) (decoded : RpcCall.decode asked.1 = some .getSeed)
    {oldSeed : Option Bytes} (answered : signer.rpc.bytesAnswer lib asked.2 = .ok oldSeed)
    (failed : NativeFailure lib signer.stakerPrivateKey oldSeed) : SubmitsSeed iteration := by
  obtain ⟨turn, branch, _, pass⟩ := run_pass member
  rcases pass.mem_calls made with rfl | ⟨_, rfl, _⟩ | ⟨_, _, rfl, _⟩
  · obtain ⟨seed, next⟩ := getNextSeed_of_failure keys sizes failed
    have derived : signer.derivedSeed (turn 0) = .ok (some seed) := by
      simp only [Signer.derivedSeed, answered]
      exact next
    exact ⟨_, pass.submits_derived derived, _, _, _, decode_submitSeedPayload signer seed⟩
  · rw [decode_submitSeedPayload] at decoded
    cases decoded
  · rw [decode_submitSignaturePayload] at decoded
    cases decoded

/-! ## When a failure yields no seed -/

/-- No failure of a native call is passed over: `getNextSeed` yields no seed. -/
def DerivationStops (lib : Libraries) (key : PrivateKey lib) (oldSeed : Option Bytes) : Prop :=
  NativeFailure lib key oldSeed → ¬ ∃ seed, getNextSeed lib key oldSeed = .ok (some seed)

/-- Likewise for the wire: the iteration submits no seed. -/
def SubmissionStops (signer : Signer lib) (iteration : Iteration) (oldSeed : Option Bytes) : Prop :=
  NativeFailure lib signer.stakerPrivateKey oldSeed → ¬ SubmitsSeed iteration

/-- An array that `generateProof` returns was written by the library. -/
def ProofWritten (sodium : Sodium) (message sk : Bytes) : Prop :=
  ∀ proof, VRF_Ed25519.generateProof sodium (some message) (some sk) = .ok proof →
    proveStatus sodium message sk = 0

/-- An array that `generateProofHash` returns was written by the library. -/
def HashWritten (sodium : Sodium) (proof : Bytes) : Prop :=
  ∀ hash, VRF_Ed25519.generateProofHash sodium (some proof) = .ok hash →
    hashStatus sodium proof = 0

theorem proofWritten_iff (sodium : Sodium) (message : Bytes) {sk : Bytes} (size : sk.length = 64) :
    ProofWritten sodium message sk ↔ proveStatus sodium message sk = 0 := by
  constructor
  · intro written
    apply written
    exact VRF_Ed25519.generateProof_eq sodium message size
  · intro succeeded _ _
    exact succeeded

theorem hashWritten_iff (sodium : Sodium) {proof : Bytes}
    (size : proof.length = sodium.cryptoVrfProofbytes) :
    HashWritten sodium proof ↔ hashStatus sodium proof = 0 := by
  constructor
  · intro written
    apply written
    exact VRF_Ed25519.generateProofHash_eq sodium size
  · intro succeeded _ _
    exact succeeded

/-- No failure is stopped: not in `getNextSeed`, not in an iteration of a run, and
    not in `generateProof` and `generateProofHash`. A seed is held back for a
    failure only where there is none. -/
theorem nativeFailure_stops_iff (keys : KeyContract lib) (sizes : VrfSizes lib.sodium) :
    (∀ (key : PrivateKey lib) (oldSeed : Option Bytes),
      DerivationStops lib key oldSeed ↔ ¬ NativeFailure lib key oldSeed) ∧
    (∀ (signer : Signer lib) (turns : List Turn), ∀ iteration ∈ run signer turns,
      ∀ asked ∈ iteration.calls, RpcCall.decode asked.1 = some .getSeed →
      ∀ oldSeed, signer.rpc.bytesAnswer lib asked.2 = .ok oldSeed →
        (SubmissionStops signer iteration oldSeed ↔
          ¬ NativeFailure lib signer.stakerPrivateKey oldSeed)) ∧
    (∀ message sk : Bytes, sk.length = 64 →
      (ProofWritten lib.sodium message sk ↔ proveStatus lib.sodium message sk = 0)) ∧
    (∀ proof : Bytes, proof.length = lib.sodium.cryptoVrfProofbytes →
      (HashWritten lib.sodium proof ↔ hashStatus lib.sodium proof = 0)) := by
  refine ⟨?_, ?_, ?_, ?_⟩
  · intro key oldSeed
    constructor
    · intro stops failed
      apply stops failed
      exact getNextSeed_of_failure keys sizes failed
    · intro succeeded failed
      exact absurd failed succeeded
  · intro signer turns iteration member asked made decoded oldSeed answered
    constructor
    · intro stops failed
      apply stops failed
      exact submitsSeed_of_failure keys sizes member made decoded answered failed
    · intro succeeded failed
      exact absurd failed succeeded
  · intro message sk size
    exact proofWritten_iff lib.sodium message size
  · intro proof size
    exact hashWritten_iff lib.sodium size

/-- 80 zero bytes decode, and both native calls on them succeed: here a seed is
    derived because no failure holds it back. -/
theorem nativeFailure_stops_seed :
    DerivationStops referenceLibraries Reference.key (some (List.replicate 80 0)) ∧
      ∃ seed, getNextSeed referenceLibraries Reference.key (some (List.replicate 80 0)) =
        .ok (some seed) := by
  constructor
  · apply ((nativeFailure_stops_iff Reference.keys Reference.vrf.toVrfSizes).1 _ _).mpr
    have decodes : hashStatus referenceLibraries.sodium (List.replicate 80 0) = 0 := by decide
    intro failed
    cases failed with
    | fork marks _ => exact absurd marks.1 (by decide)
    | hash _ undecodable => exact undecodable decodes
    | proof _ unproved => exact unproved rfl
  · exact getNextSeed_of_proof Reference.keys Reference.vrf.toVrfSizes Reference.key (by decide)

/-- 80 bytes whose first 32 encode no point: the status is -1, and a seed is
    derived. -/
theorem nativeFailure_not_stopped :
    ¬ DerivationStops referenceLibraries Reference.key (some (List.replicate 80 0xff)) := by
  intro stops
  have undecodable : hashStatus referenceLibraries.sodium (List.replicate 80 0xff) ≠ 0 := by decide
  have failed : NativeFailure referenceLibraries Reference.key (some (List.replicate 80 0xff)) :=
    .hash (by decide) undecodable
  apply stops failed
  exact getNextSeed_of_failure Reference.keys Reference.vrf.toVrfSizes failed

end BlockSigner
