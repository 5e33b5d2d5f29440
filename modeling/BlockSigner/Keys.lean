import BlockSigner.Libraries

/-! # Staker keys

`CryptoUtils` and `PrivateKey`. A `PrivateKey` can only be built from 32 bytes
and the public key the EdDSA library derives from them, and carries both facts.
-/

namespace BlockSigner

namespace CryptoUtils

def skEncodedPrefix : Text := "302e020100300506032b657004220420".toList

/-- `Character.digit(c, 16)`, which is -1 for a character that is no digit. -/
def digitOrMinusOne (c : Char) : Int :=
  match Hex.characterDigit c with
  | some value => value
  | none => -1

/-- `net.i2p.crypto.eddsa.Utils.hexToBytes`. -/
def hexToBytes : Text → Except JavaException Bytes
  | [] => pure []
  | [_] => throw ⟨.other "java.lang.StringIndexOutOfBoundsException".toList, none⟩
  | high :: low :: rest => do
      let tail ← hexToBytes rest
      pure (UInt8.ofInt (digitOrMinusOne high * 16 + digitOrMinusOne low) :: tail)

def addSkPrefix (skString : Text) : Except JavaException Bytes :=
  hexToBytes (skEncodedPrefix ++ skString)

variable (lib : Libraries)

def derivePublicKey (privateKeyBytes : Option Bytes) : Except JavaException Bytes :=
  match privateKeyBytes with
  | none => throw (exception .nullPointer "private key cannot be null")
  | some privateKeyBytes =>
      if privateKeyBytes.length ≠ 32 then
        throw (exception .illegalArgument "private key mute be 32 bytes")
      else do
        let encoded ← addSkPrefix (Hex.encode privateKeyBytes)
        lib.eddsaAbyte encoded

end CryptoUtils

structure PrivateKey (lib : Libraries) where
  privateKeyBytes : Bytes
  publicKeyBytes : Bytes
  size : privateKeyBytes.length = 32
  derived : CryptoUtils.derivePublicKey lib privateKeyBytes = .ok publicKeyBytes

namespace PrivateKey

variable {lib : Libraries}

def fromBytes (lib : Libraries) (privateKeyBytes : Option Bytes) :
    Except JavaException (PrivateKey lib) :=
  match privateKeyBytes with
  | none => throw (exception .nullPointer "private key bytes cannot be null")
  | some privateKeyBytes =>
      if size : privateKeyBytes.length = 32 then
        match derived : CryptoUtils.derivePublicKey lib privateKeyBytes with
        | .ok publicKeyBytes => pure ⟨privateKeyBytes, publicKeyBytes, size, derived⟩
        | .error e => throw e
      else throw (exception .illegalArgument "bytes of a private key must have a length of 32")

def getPrivateKeyBytes (key : PrivateKey lib) : Bytes := key.privateKeyBytes

def getPublicKeyBytes (key : PrivateKey lib) : Bytes := key.publicKeyBytes

/-- `ByteUtil.merge` concatenates. -/
def getKeyPairBytes (key : PrivateKey lib) : Bytes := key.privateKeyBytes ++ key.publicKeyBytes

end PrivateKey

/-! ## What the key and signature libraries promise -/

/-- Ed25519 public keys have 32 bytes. -/
def KeyContract (lib : Libraries) : Prop :=
  ∀ {der publicKey}, lib.eddsaAbyte der = .ok publicKey → publicKey.length = 32

/-- A signature verifies under the public key derived from the same private key. -/
def SignatureContract (lib : Libraries) (verifies : Bytes → Bytes → Bytes → Prop) : Prop :=
  ∀ {privateKey publicKey message signature : Bytes},
    CryptoUtils.derivePublicKey lib privateKey = .ok publicKey →
    lib.signMessageFromKeyBytes privateKey message = .ok signature →
    verifies publicKey message signature

/-- Signing with a key that has a public key gives 64 bytes. -/
def SigningTotal (lib : Libraries) : Prop :=
  ∀ {privateKey publicKey : Bytes}, CryptoUtils.derivePublicKey lib privateKey = .ok publicKey →
    ∀ message, ∃ signature, lib.signMessageFromKeyBytes privateKey message = .ok signature ∧
      signature.length = 64

namespace CryptoUtils

variable {lib : Libraries}

theorem digitOrMinusOne_digit {n : Nat} (h : n < 16) : digitOrMinusOne (Hex.digit n) = n := by
  simp only [digitOrMinusOne, Hex.characterDigit_digit n h]

/-- The reader of the EdDSA library reads back what was encoded. -/
theorem hexToBytes_encode (bytes : Bytes) : hexToBytes (Hex.encode bytes) = .ok bytes := by
  induction bytes with
  | nil => rfl
  | cons b bytes ih =>
      have high : b.toNat / 16 < 16 := by have := b.toNat_lt; omega
      have low : b.toNat % 16 < 16 := Nat.mod_lt _ (by omega)
      have value : (b.toNat / 16 : Nat) * 16 + (b.toNat % 16 : Nat) = (b.toNat : Int) := by omega
      have byte : UInt8.ofInt ((b.toNat / 16 : Nat) * 16 + (b.toNat % 16 : Nat)) = b := by
        have small : ((b.toNat : Int) % 2 ^ 8).toNat = b.toNat := by
          have := b.toNat_lt
          omega
        rw [value, UInt8.ofInt, small]
        exact UInt8.ofNat_toNat
      simp only [Hex.encode_cons, hexToBytes, ih, digitOrMinusOne_digit high,
        digitOrMinusOne_digit low, byte]
      rfl

/-- The PKCS#8 header that precedes the 32 key bytes. -/
def skPrefix : Bytes :=
  [0x30, 0x2e, 0x02, 0x01, 0x00, 0x30, 0x05, 0x06, 0x03, 0x2b, 0x65, 0x70, 0x04, 0x22, 0x04, 0x20]

theorem encode_skPrefix : Hex.encode skPrefix = skEncodedPrefix := by decide

theorem addSkPrefix_encode (bytes : Bytes) :
    addSkPrefix (Hex.encode bytes) = .ok (skPrefix ++ bytes) := by
  rw [addSkPrefix, ← encode_skPrefix, ← Hex.encode_append, hexToBytes_encode]

/-- Key bytes of the right length go to the EdDSA library behind the header. -/
theorem derivePublicKey_eq {privateKey : Bytes} (h : privateKey.length = 32) :
    derivePublicKey lib privateKey = lib.eddsaAbyte (skPrefix ++ privateKey) := by
  simp only [derivePublicKey, h, ne_eq, not_true_eq_false, if_false, addSkPrefix_encode]
  rfl

/-- A derived public key comes from 32 bytes. -/
theorem derivePublicKey_eq_ok {privateKey publicKey : Bytes}
    (h : derivePublicKey lib privateKey = .ok publicKey) :
    privateKey.length = 32 ∧ lib.eddsaAbyte (skPrefix ++ privateKey) = .ok publicKey := by
  by_cases size : privateKey.length = 32
  · exact ⟨size, by rw [← derivePublicKey_eq size, h]⟩
  · simp only [derivePublicKey, size, ne_eq, not_false_eq_true, if_true] at h
    cases h

end CryptoUtils

namespace PrivateKey

variable {lib : Libraries}

theorem publicKey_size (keys : KeyContract lib) (key : PrivateKey lib) :
    key.getPublicKeyBytes.length = 32 := by
  exact keys (CryptoUtils.derivePublicKey_eq_ok key.derived).2

/-- 32 bytes with a public key make a key that carries both. -/
theorem fromBytes_eq {privateKey publicKey : Bytes} (size : privateKey.length = 32)
    (derived : CryptoUtils.derivePublicKey lib (some privateKey) = .ok publicKey) :
    fromBytes lib (some privateKey) = .ok ⟨privateKey, publicKey, size, derived⟩ := by
  simp only [fromBytes, size, dif_pos]
  split
  · next publicKey' derived' =>
      rw [derived] at derived'
      cases derived'
      rfl
  · next e failed =>
      rw [derived] at failed
      cases failed

/-- The augmented secret key libsodium expects: seed, then public key. -/
theorem keyPair_size (keys : KeyContract lib) (key : PrivateKey lib) :
    key.getKeyPairBytes.length = 64 := by
  have publicSize := publicKey_size keys key
  simp only [getPublicKeyBytes] at publicSize
  simp only [getKeyPairBytes, List.length_append, key.size, publicSize]

end PrivateKey

end BlockSigner
