import BlockSigner.Signer
import BlockSigner.Reference

/-! # The chain of seeds

The shape of the old seed decides how the next one is made: a signature on a
64-byte seed, a proof over the first 64 bytes of a 65-byte one that ends in zero,
a proof over the hash of an 80-byte one. Each link can be checked from the old
seed and the public key, and what a link produces has a next seed again.
-/

namespace BlockSigner

variable {lib : Libraries}

/-! ## The dispatch -/

/-- A 64-byte seed followed by a zero, as the node marks the fork to proofs. -/
def MarksFork (oldSeed : Bytes) : Prop :=
  oldSeed.length = seedLength + 1 ∧ oldSeed[seedLength]? = some 0

/-- The old seeds that have a next one. -/
def HasNext (oldSeed : Bytes) : Prop :=
  oldSeed.length = seedLength ∨ MarksFork oldSeed ∨ oldSeed.length = proofLength

theorem getNextSeed_seed (key : PrivateKey lib) {oldSeed : Bytes}
    (size : oldSeed.length = seedLength) :
    getNextSeed lib key (some oldSeed) =
      some <$> lib.signMessageFromKeyBytes key.getPrivateKeyBytes oldSeed := by
  simp only [getNextSeed, size, if_true]

theorem getNextSeed_fork (key : PrivateKey lib) {oldSeed : Bytes} (marks : MarksFork oldSeed) :
    getNextSeed lib key (some oldSeed) =
      some <$> VRF_Ed25519.generateProof lib.sodium (some (oldSeed.take seedLength))
        (some key.getKeyPairBytes) := by
  have other : oldSeed.length ≠ seedLength := by
    rw [marks.1]
    exact Nat.succ_ne_self seedLength
  have fork : oldSeed.length = seedLength + 1 ∧ oldSeed[seedLength]? = some 0 := marks
  simp only [getNextSeed, if_neg other, if_pos fork]

theorem getNextSeed_proof (key : PrivateKey lib) {oldSeed : Bytes}
    (size : oldSeed.length = proofLength) :
    getNextSeed lib key (some oldSeed) =
      VRF_Ed25519.generateProofHash lib.sodium (some oldSeed) >>= fun oldSeedHash =>
        some <$> VRF_Ed25519.generateProof lib.sodium (some oldSeedHash)
          (some key.getKeyPairBytes) := by
  simp only [getNextSeed, size, seedLength, proofLength]
  rfl

theorem getNextSeed_other (key : PrivateKey lib) {oldSeed : Bytes} (other : ¬ HasNext oldSeed) :
    getNextSeed lib key (some oldSeed) = .ok none := by
  simp only [HasNext, MarksFork, not_or] at other
  simp only [getNextSeed, if_neg other.1, if_neg other.2.1, if_neg other.2.2]
  rfl

/-! ## Links -/

/-- The next seed, checked from the old one and the published key. -/
inductive VerifiesLink (lib : Libraries) (verifies : Bytes → Bytes → Bytes → Prop)
    (publicKey oldSeed seed : Bytes) : Prop where
  | signature :
      oldSeed.length = seedLength → seed.length = 64 → verifies publicKey oldSeed seed →
      VerifiesLink lib verifies publicKey oldSeed seed
  | fork :
      MarksFork oldSeed → seed.length = 80 →
      VRF_Ed25519.verify lib.sodium (some (oldSeed.take seedLength)) (some seed)
        (some publicKey) = .ok true →
      VerifiesLink lib verifies publicKey oldSeed seed
  | proof {message : Bytes} :
      oldSeed.length = proofLength →
      VRF_Ed25519.generateProofHash lib.sodium (some oldSeed) = .ok message →
      seed.length = 80 →
      VRF_Ed25519.verify lib.sodium (some message) (some seed) (some publicKey) = .ok true →
      VerifiesLink lib verifies publicKey oldSeed seed

variable {verifies : Bytes → Bytes → Bytes → Prop} {publicKey oldSeed seed : Bytes}

/-- What a link produces has a next seed. -/
theorem VerifiesLink.hasNext (link : VerifiesLink lib verifies publicKey oldSeed seed) :
    HasNext seed := by
  cases link with
  | signature _ size _ => exact .inl size
  | fork _ size _ => exact .inr (.inr size)
  | proof _ _ size _ => exact .inr (.inr size)

theorem VerifiesLink.keeps_seed (link : VerifiesLink lib verifies publicKey oldSeed seed)
    (size : oldSeed.length = 64) : seed.length = 64 := by
  cases link with
  | signature _ kept _ => exact kept
  | fork marks _ _ => rw [marks.1] at size; cases size
  | proof long _ _ _ => rw [long] at size; cases size

theorem VerifiesLink.keeps_proof (link : VerifiesLink lib verifies publicKey oldSeed seed)
    (size : oldSeed.length = 80) : seed.length = 80 := by
  cases link with
  | signature short _ _ => rw [short] at size; cases size
  | fork marks _ _ => rw [marks.1] at size; cases size
  | proof _ _ kept _ => exact kept

/-- A proof by the staker's key pair has 80 bytes and verifies under its public key. -/
theorem generateProof_verifies (keys : KeyContract lib) (vrf : VrfContract lib)
    (key : PrivateKey lib) (message : Bytes) :
    ∃ proof, VRF_Ed25519.generateProof lib.sodium (some message) (some key.getKeyPairBytes) =
        .ok proof ∧ proof.length = 80 ∧
      VRF_Ed25519.verify lib.sodium (some message) (some proof) (some key.getPublicKeyBytes) =
        .ok true := by
  refine ⟨_, VRF_Ed25519.generateProof_eq lib.sodium message (key.keyPair_size keys), ?_, ?_⟩
  · rw [vrf.prove_length, VRF_Ed25519.newBytes_length, vrf.proofbytes]
  · have buffer : (VRF_Ed25519.newBytes lib.sodium.cryptoVrfProofbytes).length = 80 := by
      rw [VRF_Ed25519.newBytes_length, vrf.proofbytes]
    have proved : ∀ output : Bytes, output.length = 64 →
        (lib.sodium.cryptoVrfVerify output key.getPublicKeyBytes
          (lib.sodium.cryptoVrfProve (VRF_Ed25519.newBytes lib.sodium.cryptoVrfProofbytes)
            key.getKeyPairBytes message message.length).2 message message.length).1 = 0 := by
      intro output long
      exact (vrf.prove_verifies key.derived buffer long).2
    rw [VRF_Ed25519.verify_eq lib.sodium message _ (key.publicKey_size keys), proved]
    · rfl
    · rw [vrf.proofToHash_length, VRF_Ed25519.newBytes_length, vrf.outputbytes]
    · rw [vrf.prove_length, VRF_Ed25519.newBytes_length]

/-- Every old seed of a shape listed in `HasNext` has a next one, and the link
    to it verifies. -/
theorem getNextSeed_link (keys : KeyContract lib) (signing : SigningTotal lib)
    (signatures : SignatureContract lib verifies) (vrf : VrfContract lib) (key : PrivateKey lib)
    (shape : HasNext oldSeed) :
    ∃ seed, getNextSeed lib key (some oldSeed) = .ok (some seed) ∧
      VerifiesLink lib verifies key.getPublicKeyBytes oldSeed seed := by
  rcases shape with size | marks | size
  · obtain ⟨signature, signed, long⟩ := signing key.derived oldSeed
    refine ⟨signature, ?_, .signature size long (signatures key.derived signed)⟩
    rw [getNextSeed_seed key size, PrivateKey.getPrivateKeyBytes, signed]
    rfl
  · obtain ⟨proof, generated, long, checked⟩ :=
      generateProof_verifies keys vrf key (oldSeed.take seedLength)
    refine ⟨proof, ?_, .fork marks long checked⟩
    rw [getNextSeed_fork key marks, generated]
    rfl
  · have decodable : oldSeed.length = lib.sodium.cryptoVrfProofbytes := by
      rw [size, vrf.proofbytes]
      rfl
    have hashed := VRF_Ed25519.generateProofHash_eq lib.sodium decodable
    obtain ⟨proof, generated, long, checked⟩ := generateProof_verifies keys vrf key _
    refine ⟨proof, ?_, .proof size hashed long checked⟩
    rw [getNextSeed_proof key size, hashed]
    change some <$> VRF_Ed25519.generateProof _ _ _ = _
    rw [generated]
    rfl

/-- A next seed is never refused with an exception: it is null exactly for the
    other shapes. -/
theorem getNextSeed_total (keys : KeyContract lib) (signing : SigningTotal lib)
    (vrf : VrfContract lib) (key : PrivateKey lib) (oldSeed : Option Bytes) :
    ∃ next, getNextSeed lib key oldSeed = .ok next ∧
      (next ≠ none ↔ ∃ bytes, oldSeed = some bytes ∧ HasNext bytes) := by
  cases oldSeed with
  | none => exact ⟨none, rfl, by simp⟩
  | some bytes =>
      by_cases shape : HasNext bytes
      · have signatures : SignatureContract lib (fun _ _ _ => True) := fun _ _ => trivial
        obtain ⟨seed, derived, _⟩ := getNextSeed_link keys signing signatures vrf key shape
        refine ⟨some seed, derived, ?_⟩
        simp [shape]
      · refine ⟨none, getNextSeed_other key shape, ?_⟩
        simp [shape]

/-! ## Chains -/

/-- The seeds that follow from one another, with every way to end. -/
def seedChain (key : PrivateKey lib) (start : Bytes) : Nat → Except JavaException (Option Bytes)
  | 0 => pure (some start)
  | n + 1 => do
      let oldSeed ← seedChain key start n
      getNextSeed lib key oldSeed

theorem seedChain_succ {key : PrivateKey lib} {start oldSeed : Bytes} {n : Nat}
    (reached : seedChain key start n = .ok (some oldSeed)) :
    seedChain key start (n + 1) = getNextSeed lib key (some oldSeed) := by
  simp only [seedChain, reached]
  rfl

section Chain

variable (keys : KeyContract lib) (signing : SigningTotal lib)
  (signatures : SignatureContract lib verifies) (vrf : VrfContract lib) (key : PrivateKey lib)

include keys signing signatures vrf

/-- One step of a chain, from a seed that has a next one. -/
theorem seedChain_step {start : Bytes} {n : Nat} {oldSeed : Bytes}
    (reached : seedChain key start n = .ok (some oldSeed)) (shape : HasNext oldSeed) :
    ∃ seed, seedChain key start (n + 1) = .ok (some seed) ∧
      VerifiesLink lib verifies key.getPublicKeyBytes oldSeed seed := by
  rw [seedChain_succ reached]
  exact getNextSeed_link keys signing signatures vrf key shape

/-- No link of a chain is null. -/
theorem seedChain_reached {start : Bytes} (shape : HasNext start) (n : Nat) :
    ∃ seed, seedChain key start n = .ok (some seed) ∧ HasNext seed ∧
      (start.length = 64 → seed.length = 64) := by
  induction n with
  | zero => exact ⟨start, rfl, shape, id⟩
  | succ n ih =>
      obtain ⟨oldSeed, reached, oldShape, kept⟩ := ih
      obtain ⟨seed, next, link⟩ := seedChain_step keys signing signatures vrf key reached oldShape
      exact ⟨seed, next, link.hasNext, fun size => link.keeps_seed (kept size)⟩

theorem seedChain_link {start : Bytes} (shape : HasNext start) (n : Nat) :
    ∃ oldSeed seed, seedChain key start n = .ok (some oldSeed) ∧
      seedChain key start (n + 1) = .ok (some seed) ∧
      VerifiesLink lib verifies key.getPublicKeyBytes oldSeed seed ∧
      (start.length = 64 → oldSeed.length = 64) := by
  obtain ⟨oldSeed, reached, oldShape, kept⟩ :=
    seedChain_reached keys signing signatures vrf key shape n
  obtain ⟨seed, next, link⟩ := seedChain_step keys signing signatures vrf key reached oldShape
  exact ⟨oldSeed, seed, reached, next, link, kept⟩

/-- From an 80-byte seed on all seeds have 80 bytes. -/
theorem seedChain_proofs {start seed : Bytes} {n : Nat}
    (reached : seedChain key start n = .ok (some seed)) (size : seed.length = 80) (m : Nat) :
    ∃ later, seedChain key start (n + m) = .ok (some later) ∧ later.length = 80 := by
  induction m with
  | zero => exact ⟨seed, reached, size⟩
  | succ m ih =>
      obtain ⟨oldSeed, reached, long⟩ := ih
      obtain ⟨seed, next, link⟩ :=
        seedChain_step keys signing signatures vrf key reached (.inr (.inr long))
      exact ⟨seed, next, link.keeps_proof long⟩

/-- `getNextSeed` answers exactly the listed shapes, with a seed that can be
    checked from the old one and the public key; so from any of them the chain
    goes on without end, each link verifies, 64 bytes stay 64 and 80 stay 80. -/
theorem getNextSeed_chain :
    (∀ oldSeed, ∃ next, getNextSeed lib key oldSeed = .ok next ∧
      (next ≠ none ↔ ∃ bytes, oldSeed = some bytes ∧ HasNext bytes)) ∧
    (∀ oldSeed seed, getNextSeed lib key (some oldSeed) = .ok (some seed) →
      VerifiesLink lib verifies key.getPublicKeyBytes oldSeed seed) ∧
    (∀ start, HasNext start → ∀ n, ∃ oldSeed seed,
      seedChain key start n = .ok (some oldSeed) ∧
      seedChain key start (n + 1) = .ok (some seed) ∧
      VerifiesLink lib verifies key.getPublicKeyBytes oldSeed seed ∧
      (start.length = 64 → oldSeed.length = 64) ∧
      (oldSeed.length = 80 → ∀ m, ∃ later,
        seedChain key start (n + m) = .ok (some later) ∧ later.length = 80)) := by
  refine ⟨getNextSeed_total keys signing vrf key, ?_, ?_⟩
  · intro oldSeed seed derived
    by_cases shape : HasNext oldSeed
    · obtain ⟨found, same, link⟩ := getNextSeed_link keys signing signatures vrf key shape
      rw [derived] at same
      cases same
      exact link
    · rw [getNextSeed_other key shape] at derived
      cases derived
  · intro start shape n
    obtain ⟨oldSeed, seed, reached, next, link, kept⟩ :=
      seedChain_link keys signing signatures vrf key shape n
    exact ⟨oldSeed, seed, reached, next, link, kept,
      seedChain_proofs keys signing signatures vrf key reached⟩

end Chain

/-- Three rounds from 64 zero bytes. -/
theorem getNextSeed_chain_zeros :
    ∃ oldSeed seed, seedChain Reference.key (List.replicate 64 0) 3 = .ok (some oldSeed) ∧
      seedChain Reference.key (List.replicate 64 0) 4 = .ok (some seed) ∧
      VerifiesLink referenceLibraries Reference.verifies Reference.key.getPublicKeyBytes oldSeed
        seed ∧ oldSeed.length = 64 := by
  obtain ⟨oldSeed, seed, reached, next, link, kept, _⟩ :=
    (getNextSeed_chain Reference.keys Reference.signing Reference.signatures Reference.vrf
      Reference.key).2.2 (List.replicate 64 0) (.inl rfl) 3
  exact ⟨oldSeed, seed, reached, next, link, kept rfl⟩

end BlockSigner
