import BlockSigner.Der
import BlockSigner.Signer
import BlockSigner.Reference

/-! # Loading the staker key

A key is given as 32 bytes of seed, or as 64 of which the second half is not
looked at, in hex with or without an identifier. Every spelling of a seed gives
the same key, and the bytes the EdDSA library reads are the PKCS #8 structure of
that seed.
-/

namespace BlockSigner

variable {lib : Libraries} {publicKeyOf : Bytes → Bytes}

/-! ## What the readers promise -/

/-- The Aion reader takes hex digits as the bytes they denote. -/
def HexContract (lib : Libraries) : Prop :=
  ∀ {text : Text} {bytes : Bytes}, Hex.Denotes text bytes → lib.hexDecode text = .ok (some bytes)

/-- The object identifier 1.3.101.112 of Ed25519. -/
def ed25519Identifier : Bytes := [0x2b, 0x65, 0x70]

/-- `EdDSAPrivateKey` takes its seed from the octet string of the structure. -/
def EddsaContract (lib : Libraries) (publicKeyOf : Bytes → Bytes) : Prop :=
  ∀ {seed der : Bytes}, seed.length = 32 → Der.PrivateKeyInfo ed25519Identifier seed der →
    lib.eddsaAbyte der = .ok (publicKeyOf seed)

/-! ## The structure around a seed -/

namespace CryptoUtils

/-- The hand-written header makes a seed a complete structure. -/
theorem skPrefix_privateKeyInfo {seed : Bytes} (size : seed.length = 32) :
    Der.PrivateKeyInfo ed25519Identifier seed (skPrefix ++ seed) := by
  have version : Der.Element 0x02 [0] [0x02, 0x01, 0x00] := .short (n := 1) 0x02 rfl (by omega)
  have name : Der.Element 0x06 ed25519Identifier (0x06 :: 0x03 :: ed25519Identifier) :=
    .short (n := 3) 0x06 rfl (by omega)
  have sequence : Der.Element 0x30 (0x06 :: 0x03 :: ed25519Identifier)
      (0x30 :: 0x05 :: 0x06 :: 0x03 :: ed25519Identifier) := .short (n := 5) 0x30 rfl (by omega)
  have octetString : Der.Element 0x04 seed (0x04 :: 0x20 :: seed) :=
    .short (n := 32) 0x04 size (by omega)
  have privateKey : Der.Element 0x04 (0x04 :: 0x20 :: seed) (0x04 :: 0x22 :: 0x04 :: 0x20 :: seed) :=
    .short (n := 34) 0x04 (by simp [size]) (by omega)
  have whole : Der.Element 0x30 ([0x02, 0x01, 0x00] ++
      (0x30 :: 0x05 :: 0x06 :: 0x03 :: ed25519Identifier ++ 0x04 :: 0x22 :: 0x04 :: 0x20 :: seed))
      (skPrefix ++ seed) := .short (n := 46) 0x30 (by simp [size, ed25519Identifier]) (by omega)
  exact .mk version name sequence octetString privateKey whole

/-- No other structure holds the seed. -/
theorem eq_skPrefix_of_privateKeyInfo {seed der : Bytes} (size : seed.length = 32)
    (info : Der.PrivateKeyInfo ed25519Identifier seed der) : der = skPrefix ++ seed := by
  cases info with
  | mk version name sequence octetString privateKey whole =>
      obtain rfl := version.eq_short (n := 1) rfl (by omega)
      obtain rfl := name.eq_short (n := 3) rfl (by omega)
      obtain rfl := sequence.eq_short (n := 5) rfl (by omega)
      obtain rfl := octetString.eq_short size (by omega)
      obtain rfl := privateKey.eq_short (n := 34) (by simp [size]) (by omega)
      obtain rfl := whole.eq_short (n := 46) (by simp [size, ed25519Identifier]) (by omega)
      rfl

theorem derivePublicKey_eq_publicKeyOf (eddsa : EddsaContract lib publicKeyOf) {seed : Bytes}
    (size : seed.length = 32) :
    derivePublicKey lib (some seed) = .ok (publicKeyOf seed) := by
  rw [derivePublicKey_eq size]
  exact eddsa size (skPrefix_privateKeyInfo size)

end CryptoUtils

/-! ## Spellings -/

theorem hexDecode_data (hex : HexContract lib) {text : Text} {bytes : Bytes}
    (data : Hex.Data text bytes) :
    lib.hexDecode (Text.dropPrefix "0x".toList text) = .ok (some bytes) :=
  hex data.dropPrefix

/-- The bytes of an address, in any spelling, give that address. -/
theorem getAddressFromString_data (hex : HexContract lib) (address : Address) {text : Text}
    (data : Hex.Data text address.raw) : getAddressFromString lib text = .ok address := by
  simp only [getAddressFromString, hexDecode_data hex data]
  exact Address.ofBytes_raw address

/-- A seed alone, or with 32 bytes behind it, loads as the key of the seed. -/
theorem getStakerPrivateKey_data (hex : HexContract lib) {seed tail publicKey : Bytes}
    (size : seed.length = 32) (tailSize : tail.length = 0 ∨ tail.length = 32)
    (derived : CryptoUtils.derivePublicKey lib (some seed) = .ok publicKey) {text : Text}
    (data : Hex.Data text (seed ++ tail)) :
    getStakerPrivateKey lib (some text) = .ok ⟨seed, publicKey, size, derived⟩ := by
  have cut : (if (seed ++ tail).length = 64 then (seed ++ tail).take 32 else seed ++ tail) = seed := by
    rcases tailSize with none | half
    · rw [List.length_eq_zero_iff.mp none]
      simp [size]
    · simp [size, half]
  simp only [getStakerPrivateKey, hexDecode_data hex data, bind, Except.bind, cut, size]
  exact PrivateKey.fromBytes_eq size derived

theorem getStakerPrivateKey_encode (hex : HexContract lib) (key : PrivateKey lib) :
    getStakerPrivateKey lib (some (Hex.encode key.getPrivateKeyBytes)) = .ok key := by
  have data : Hex.Data (Hex.encode key.getPrivateKeyBytes) (key.getPrivateKeyBytes ++ []) := by
    rw [List.append_nil]
    exact Hex.data_encode key.getPrivateKeyBytes
  exact getStakerPrivateKey_data hex key.size (.inl rfl) key.derived data

/-- Any length but 32 and 64 is refused. -/
theorem getStakerPrivateKey_refuses (hex : HexContract lib) {text : Text} {bytes : Bytes}
    (data : Hex.Data text bytes) (notSeed : bytes.length ≠ 32) (notPair : bytes.length ≠ 64) :
    getStakerPrivateKey lib (some text) =
      .error (exception .illegalArgument "Signing address private key is of unexpected length") := by
  simp only [getStakerPrivateKey, hexDecode_data hex data, bind, Except.bind, if_neg notPair,
    if_pos notSeed]
  rfl

/-- Every spelling of a seed loads as one key, made of the seed and its public
    key; the EdDSA library reads the PKCS #8 structure of the seed; and every
    other length is refused. -/
theorem getStakerPrivateKey_canonical (hex : HexContract lib) (keys : KeyContract lib)
    (eddsa : EddsaContract lib publicKeyOf) :
    (∀ seed tail : Bytes, seed.length = 32 → tail.length = 32 → ∃ key : PrivateKey lib,
      key.getPrivateKeyBytes = seed ∧ key.getPublicKeyBytes = publicKeyOf seed ∧
      key.getKeyPairBytes = seed ++ publicKeyOf seed ∧ key.getKeyPairBytes.length = 64 ∧
      (∀ message : Bytes, ∃ proof,
        VRF_Ed25519.generateProof lib.sodium message key.getKeyPairBytes = .ok proof) ∧
      ∀ text, Hex.Data text seed ∨ Hex.Data text (seed ++ tail) →
        getStakerPrivateKey lib (some text) = .ok key) ∧
    (∀ seed : Bytes, seed.length = 32 → ∃ der,
      CryptoUtils.addSkPrefix (Hex.encode seed) = .ok der ∧
      Der.PrivateKeyInfo ed25519Identifier seed der ∧
      ∀ other, Der.PrivateKeyInfo ed25519Identifier other der → other = seed) ∧
    (∀ text bytes, Hex.Data text bytes → bytes.length ≠ 32 → bytes.length ≠ 64 →
      ∃ e, getStakerPrivateKey lib (some text) = .error e ∧ e.cls = .illegalArgument) := by
  refine ⟨?_, ?_, ?_⟩
  · intro seed tail size tailSize
    have derived := CryptoUtils.derivePublicKey_eq_publicKeyOf eddsa size
    let key : PrivateKey lib := ⟨seed, publicKeyOf seed, size, derived⟩
    have pair : key.getKeyPairBytes.length = 64 := key.keyPair_size keys
    refine ⟨key, rfl, rfl, rfl, pair, ?_, ?_⟩
    · intro message
      exact ⟨_, VRF_Ed25519.generateProof_eq lib.sodium message pair⟩
    · rintro text (data | data)
      · rw [← List.append_nil seed] at data
        exact getStakerPrivateKey_data hex size (.inl rfl) derived data
      · exact getStakerPrivateKey_data hex size (.inr tailSize) derived data
  · intro seed size
    have info := CryptoUtils.skPrefix_privateKeyInfo size
    refine ⟨_, CryptoUtils.addSkPrefix_encode seed, info, ?_⟩
    intro other held
    exact (held.unique info).2
  · intro text bytes data notSeed notPair
    exact ⟨_, getStakerPrivateKey_refuses hex data notSeed notPair, rfl⟩

namespace Reference

theorem hex : HexContract referenceLibraries := by
  intro text bytes denotes
  change Except.ok (Hex.decode Hex.value? text) = _
  rw [Hex.decode_iff.mpr denotes]

theorem eddsa : EddsaContract referenceLibraries List.reverse := by
  intro seed der size info
  rw [CryptoUtils.eq_skPrefix_of_privateKeyInfo size info]
  exact eddsaAbyte_skPrefix size

end Reference

/-- Four spellings of one seed. -/
theorem getStakerPrivateKey_spellings :
    ∃ key : PrivateKey referenceLibraries, key.getPrivateKeyBytes = List.replicate 32 7 ∧
      ∀ text ∈ [Hex.encode (List.replicate 32 7), "0x".toList ++ Hex.encode (List.replicate 32 7),
        Hex.encode (List.replicate 32 7 ++ List.replicate 32 9),
        "0x".toList ++ Hex.encode (List.replicate 32 7 ++ List.replicate 32 9)],
        getStakerPrivateKey referenceLibraries (some text) = .ok key := by
  obtain ⟨key, seed, _, _, _, _, loads⟩ :=
    (getStakerPrivateKey_canonical Reference.hex Reference.keys Reference.eddsa).1
      (List.replicate 32 7) (List.replicate 32 9) rfl rfl
  refine ⟨key, seed, ?_⟩
  intro text member
  simp only [List.mem_cons, List.not_mem_nil, or_false] at member
  rcases member with rfl | rfl | rfl | rfl
  · exact loads _ (.inl (Hex.data_encode _))
  · exact loads _ (.inl (Hex.data_identifier _))
  · exact loads _ (.inr (Hex.data_encode _))
  · exact loads _ (.inr (Hex.data_identifier _))

end BlockSigner
