import BlockSigner.Exec
import BlockSigner.Json.Parser

/-! # The libraries the signer calls

The signer is linked against Gson, the Aion and i2p hex and key utilities, the
offline signer, the AVM interface and, through JNI, libsodium. Their functions
are parameters; what a result relies on is stated in the contract it names.
-/

namespace BlockSigner

/-! ## Addresses -/

/-- `avm.Address`, whose constructor accepts 32 bytes only. -/
structure Address where
  raw : Bytes
  size : raw.length = 32
  deriving DecidableEq

def Address.ofBytes : Option Bytes → Except JavaException Address
  | none => throw ⟨.nullPointer, none⟩
  | some raw =>
      if h : raw.length = 32 then pure ⟨raw, h⟩ else throw ⟨.illegalArgument, none⟩

/-- The bytes of an address make that address again. -/
@[simp] theorem Address.ofBytes_raw (address : Address) : ofBytes (some address.raw) = .ok address := by
  simp only [ofBytes, address.size, dif_pos]
  rfl

def Address.toByteArray (address : Address) : Bytes := address.raw

def Address.toString (address : Address) : Text := Hex.encode address.raw

/-! ## Native functions -/

/-- The VRF functions of libsodium as JNI passes them: a function returns its
    status and what its output buffer holds afterwards. -/
structure Sodium where
  cryptoVrfProofbytes : Nat
  cryptoVrfOutputbytes : Nat
  /-- buffer, augmented secret key, message, message length -/
  cryptoVrfProve : Bytes → Bytes → Bytes → Nat → Int × Bytes
  /-- buffer, proof -/
  cryptoVrfProofToHash : Bytes → Bytes → Int × Bytes
  /-- buffer, public key, proof, message, message length -/
  cryptoVrfVerify : Bytes → Bytes → Bytes → Bytes → Nat → Int × Bytes

/-! ## All of them -/

structure Libraries where
  /-- `new JsonParser().parse(text)` of Gson -/
  parse : Text → Except JavaException Json
  /-- `org.aion.util.conversions.Hex.decode`, null for a text with a character that is no digit -/
  hexDecode : Text → Except JavaException (Option Bytes)
  /-- `new EdDSAPrivateKey(new PKCS8EncodedKeySpec(der)).getAbyte()` -/
  eddsaAbyte : Bytes → Except JavaException Bytes
  /-- `MessageSigner.signMessageFromKeyBytes(key, message)` -/
  signMessageFromKeyBytes : Bytes → Bytes → Except JavaException Bytes
  sodium : Sodium
  /-- `encodeOneString("getCoinbaseAddress").encodeOneAddress(identity)` -/
  encodeCoinbaseCall : Address → Bytes
  /-- `new ABIDecoder(data).decodeOneAddress()`, which may be null -/
  decodeOneAddress : Option Bytes → Except JavaException (Option Address)
  /-- `Arrays.toString(e.getStackTrace())` -/
  stackTrace : JavaException → Text

/-! ## Gson

`JsonParser` reads leniently, so it may accept more than the grammar; a
`JsonElement` is well formed since an object is a map and a number keeps the
literal that was read.
-/

structure GsonContract (lib : Libraries) : Prop where
  accepts : ∀ {text value}, Json.Document text value → lib.parse text = .ok value
  wellFormed : ∀ {text value}, lib.parse text = .ok value → value.WellFormed

/-- Printing followed by parsing gives back the same element. -/
theorem GsonContract.parse_print {lib : Libraries} (gson : GsonContract lib) {value : Json}
    (h : value.WellFormed) : lib.parse value.print = .ok value :=
  gson.accepts (Json.print_denotes value h).document

end BlockSigner
