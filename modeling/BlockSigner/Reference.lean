import BlockSigner.Vrf

/-! # Libraries that meet every contract

One concrete choice of the libraries, for runs on concrete inputs. JSON and hex
are read as specified. The cryptography is a stand-in with the documented sizes,
statuses and verification laws: a signature is the public key and the message
cut to 64 bytes, a proof the same cut to 80, and a proof whose point is no
canonical encoding (32 bytes `ff`) does not decode.
-/

namespace BlockSigner

namespace Reference

/-- Exactly `n` bytes: a prefix, or a padding with zeros. -/
def fit (n : Nat) (bytes : Bytes) : Bytes := (bytes ++ List.replicate n 0).take n

@[simp] theorem fit_length (n : Nat) (bytes : Bytes) : (fit n bytes).length = n := by
  simp only [fit, List.length_take, List.length_append, List.length_replicate]
  omega

def decodes (proof : Bytes) : Bool := proof.take 32 ≠ List.replicate 32 0xff

def sodium : Sodium where
  cryptoVrfProofbytes := 80
  cryptoVrfOutputbytes := 64
  cryptoVrfProve buffer sk message _ := (0, fit buffer.length (sk.drop 32 ++ message))
  cryptoVrfProofToHash buffer proof :=
    if decodes proof then (0, fit buffer.length proof) else (-1, buffer)
  cryptoVrfVerify output publicKey proof message _ :=
    if proof = fit 80 (publicKey ++ message) then (0, fit output.length proof) else (-1, output)

/-- The `A` of a seed: here the seed backwards. -/
def eddsaAbyte (der : Bytes) : Except JavaException Bytes :=
  if der.length = 48 then pure (der.drop 16).reverse
  else throw ⟨.other "java.security.spec.InvalidKeySpecException".toList, none⟩

def signMessageFromKeyBytes (privateKey message : Bytes) : Except JavaException Bytes :=
  pure (fit 64 (privateKey.reverse ++ message))

def parse (text : Text) : Except JavaException Json :=
  match Json.parse text with
  | some value => pure value
  | none => throw ⟨.jsonSyntax, none⟩

def encodeCoinbaseCall (identity : Address) : Bytes :=
  [0x21, 0, 18] ++ "getCoinbaseAddress".toUTF8.toList ++ 0x22 :: identity.raw

def decodeOneAddress (data : Option Bytes) : Except JavaException (Option Address) :=
  match data with
  | some (0x22 :: raw) => some <$> Address.ofBytes (raw.take 32)
  | _ => throw ⟨.other "org.aion.avm.userlib.abi.ABIException".toList, none⟩

end Reference

def referenceLibraries : Libraries where
  parse := Reference.parse
  hexDecode text := pure (Hex.decode Hex.value? text)
  eddsaAbyte := Reference.eddsaAbyte
  signMessageFromKeyBytes := Reference.signMessageFromKeyBytes
  sodium := Reference.sodium
  encodeCoinbaseCall := Reference.encodeCoinbaseCall
  decodeOneAddress := Reference.decodeOneAddress
  stackTrace := JavaException.toString

namespace Reference

def verifies (publicKey message signature : Bytes) : Prop :=
  signature = fit 64 (publicKey ++ message)

theorem gson : GsonContract referenceLibraries where
  accepts document := by
    simp only [referenceLibraries, parse, Json.parse_iff.mpr document]
    rfl
  wellFormed := by
    intro text value parsed
    simp only [referenceLibraries, parse] at parsed
    cases read : Json.parse text with
    | none => rw [read] at parsed; cases parsed
    | some found =>
        rw [read] at parsed
        cases parsed
        obtain ⟨_, document, _⟩ := Json.parse_iff.mp read
        exact document.wellFormed

theorem eddsaAbyte_skPrefix {seed : Bytes} (size : seed.length = 32) :
    eddsaAbyte (CryptoUtils.skPrefix ++ seed) = .ok seed.reverse := by
  have total : (CryptoUtils.skPrefix ++ seed).length = 48 := by
    rw [List.length_append, size]
    rfl
  have dropped : (CryptoUtils.skPrefix ++ seed).drop 16 = seed := List.drop_left' rfl
  rw [eddsaAbyte, if_pos total, dropped]
  rfl

theorem publicKey_eq {privateKey publicKey : Bytes}
    (h : CryptoUtils.derivePublicKey referenceLibraries privateKey = .ok publicKey) :
    privateKey.length = 32 ∧ publicKey = privateKey.reverse := by
  obtain ⟨size, abyte⟩ := CryptoUtils.derivePublicKey_eq_ok h
  exact ⟨size, Except.ok.inj (abyte.symm.trans (eddsaAbyte_skPrefix size))⟩

theorem keys : KeyContract referenceLibraries := by
  intro der publicKey abyte
  simp only [referenceLibraries, eddsaAbyte] at abyte
  split at abyte
  · next size =>
      cases abyte
      rw [List.length_reverse, List.length_drop, size]
  · cases abyte

theorem signatures : SignatureContract referenceLibraries verifies := by
  intro privateKey publicKey message signature derived signed
  cases signed
  rw [(publicKey_eq derived).2]
  rfl

theorem signing : SigningTotal referenceLibraries := by
  intro privateKey publicKey _ message
  exact ⟨_, rfl, fit_length 64 _⟩

theorem vrf : VrfContract referenceLibraries where
  proofbytes := rfl
  outputbytes := rfl
  prove_length buffer sk message mlen := fit_length _ _
  proofToHash_length buffer proof := by
    change (if decodes proof then (0, fit buffer.length proof) else ((-1 : Int), buffer)).2.length = _
    split
    · exact fit_length _ _
    · rfl
  prove_verifies := by
    intro privateKey publicKey message buffer output derived size _
    have proved : fit buffer.length ((privateKey ++ publicKey).drop 32 ++ message) =
        fit 80 (publicKey ++ message) := by
      rw [size, List.drop_left' (publicKey_eq derived).1]
    refine ⟨rfl, ?_⟩
    change (if fit buffer.length ((privateKey ++ publicKey).drop 32 ++ message) =
      fit 80 (publicKey ++ message) then ((0 : Int), _) else (-1, output)).1 = 0
    rw [if_pos proved]

theorem failures : FailureContract referenceLibraries.sodium where
  prove_keeps := by
    intro _ _ _ _ failed
    exact absurd rfl failed
  proofToHash_keeps := by
    intro buffer proof failed
    change (if decodes proof then (0, fit buffer.length proof) else ((-1 : Int), buffer)).1 ≠ 0
      at failed
    change (if decodes proof then (0, fit buffer.length proof) else ((-1 : Int), buffer)).2 = buffer
    split at failed
    · exact absurd rfl failed
    · next undecodable => rw [if_neg undecodable]

/-- A staker key of these libraries. -/
def key : PrivateKey referenceLibraries where
  privateKeyBytes := List.replicate 32 7
  publicKeyBytes := List.replicate 32 7
  size := rfl
  derived := by
    rw [CryptoUtils.derivePublicKey_eq rfl]
    rfl

end Reference

end BlockSigner
