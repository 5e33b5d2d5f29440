import BlockSigner.Keys

/-! # VRF proofs

`VRF_Ed25519` over the native functions. The status of `crypto_vrf_prove` and
of `crypto_vrf_proof_to_hash` is not looked at; that of `crypto_vrf_verify` is.
-/

namespace BlockSigner

namespace VRF_Ed25519

variable (sodium : Sodium)

/-- `new byte[n]`. -/
def newBytes (n : Nat) : Bytes := List.replicate n 0

def requireNonNull {α : Type} (reference : Option α) : Except JavaException α :=
  match reference with
  | some a => pure a
  | none => throw ⟨.nullPointer, none⟩

def invalidLength (what : String) (bytes : Bytes) : JavaException :=
  ⟨.illegalArgument, what.toList ++ (toString bytes.length).toList⟩

def generateProof (message sk : Option Bytes) : Except JavaException Bytes := do
  let message ← requireNonNull message
  let sk ← requireNonNull sk
  if sk.length ≠ 64 then
    throw (exception .illegalArgument "Invalid private key length")
  else
    let proof := newBytes sodium.cryptoVrfProofbytes
    pure (sodium.cryptoVrfProve proof sk message message.length).2

def verify (message proof publicKey : Option Bytes) : Except JavaException Bool := do
  let message ← requireNonNull message
  let proof ← requireNonNull proof
  let publicKey ← requireNonNull publicKey
  if proof.length ≠ sodium.cryptoVrfProofbytes then
    throw (invalidLength "Invalid proof length:" proof)
  else if publicKey.length ≠ 32 then
    throw (invalidLength "Invalid public key length:" publicKey)
  else
    let hash := newBytes sodium.cryptoVrfOutputbytes
    let hash := (sodium.cryptoVrfProofToHash hash proof).2
    let result := (sodium.cryptoVrfVerify hash publicKey proof message message.length).1
    pure (result == 0)

def generateProofHash (proof : Option Bytes) : Except JavaException Bytes := do
  let proof ← requireNonNull proof
  if proof.length ≠ sodium.cryptoVrfProofbytes then
    throw (invalidLength "Invalid proof length:" proof)
  else
    let proofHash := newBytes sodium.cryptoVrfOutputbytes
    pure (sodium.cryptoVrfProofToHash proofHash proof).2

@[simp] theorem newBytes_length (n : Nat) : (newBytes n).length = n := List.length_replicate

theorem generateProof_eq (message : Bytes) {sk : Bytes} (h : sk.length = 64) :
    generateProof sodium message sk =
      .ok (sodium.cryptoVrfProve (newBytes sodium.cryptoVrfProofbytes) sk message
        message.length).2 := by
  simp [generateProof, requireNonNull, h, bind, Except.bind, pure, Except.pure]

theorem generateProofHash_eq {proof : Bytes} (h : proof.length = sodium.cryptoVrfProofbytes) :
    generateProofHash sodium proof =
      .ok (sodium.cryptoVrfProofToHash (newBytes sodium.cryptoVrfOutputbytes) proof).2 := by
  simp [generateProofHash, requireNonNull, h, bind, Except.bind, pure, Except.pure]

theorem verify_eq (message : Bytes) {proof publicKey : Bytes}
    (h : proof.length = sodium.cryptoVrfProofbytes) (h' : publicKey.length = 32) :
    verify sodium message proof publicKey =
      .ok ((sodium.cryptoVrfVerify
        (sodium.cryptoVrfProofToHash (newBytes sodium.cryptoVrfOutputbytes) proof).2
        publicKey proof message message.length).1 == 0) := by
  simp [verify, requireNonNull, h, h', bind, Except.bind, pure, Except.pure]

end VRF_Ed25519

/-- The documented sizes of the VRF functions; an output buffer keeps its size. -/
structure VrfSizes (sodium : Sodium) : Prop where
  proofbytes : sodium.cryptoVrfProofbytes = 80
  outputbytes : sodium.cryptoVrfOutputbytes = 64
  prove_length : ∀ buffer sk message mlen,
    (sodium.cryptoVrfProve buffer sk message mlen).2.length = buffer.length
  proofToHash_length : ∀ buffer proof,
    (sodium.cryptoVrfProofToHash buffer proof).2.length = buffer.length

/-- For an augmented secret key, a seed followed by its public key, the prover
    succeeds, and what it writes verifies under that public key. -/
structure VrfContract (lib : Libraries) : Prop extends VrfSizes lib.sodium where
  prove_verifies : ∀ {privateKey publicKey message buffer output : Bytes},
    CryptoUtils.derivePublicKey lib privateKey = .ok publicKey →
    buffer.length = 80 → output.length = 64 →
    (lib.sodium.cryptoVrfProve buffer (privateKey ++ publicKey) message message.length).1 = 0 ∧
      (lib.sodium.cryptoVrfVerify output publicKey
        (lib.sodium.cryptoVrfProve buffer (privateKey ++ publicKey) message message.length).2
        message message.length).1 = 0

/-- The native functions write their buffer or report failure. -/
structure FailureContract (sodium : Sodium) : Prop where
  prove_keeps : ∀ buffer sk message mlen, (sodium.cryptoVrfProve buffer sk message mlen).1 ≠ 0 →
    (sodium.cryptoVrfProve buffer sk message mlen).2 = buffer
  proofToHash_keeps : ∀ buffer proof, (sodium.cryptoVrfProofToHash buffer proof).1 ≠ 0 →
    (sodium.cryptoVrfProofToHash buffer proof).2 = buffer

end BlockSigner
