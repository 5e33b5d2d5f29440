import Mathlib.Data.List.Basic
import BlockSigner.Text

/-! # Hexadecimal text of byte strings

Encoding writes two lower-case digits a byte. Decoding is parametric in the
function that gives a character its digit value, since Java readers differ in
what they take as a digit; the round trip needs only that the sixteen written
digits are read as themselves.
-/

namespace Hex

/-- The lower-case digit of a value below sixteen. -/
def digit (n : Nat) : Char :=
  if n < 10 then Char.ofNat (48 + n) else Char.ofNat (87 + n)

/-- The value of an ASCII digit of either case. -/
def value? (c : Char) : Option Nat :=
  if 48 ≤ c.toNat ∧ c.toNat ≤ 57 then some (c.toNat - 48)
  else if 97 ≤ c.toNat ∧ c.toNat ≤ 102 then some (c.toNat - 87)
  else if 65 ≤ c.toNat ∧ c.toNat ≤ 70 then some (c.toNat - 55)
  else none

/-- The first character of each block of ten decimal digits of the Basic
    Multilingual Plane. -/
def decimalZeros : List Nat :=
  [0x0030, 0x0660, 0x06F0, 0x07C0, 0x0966, 0x09E6, 0x0A66, 0x0AE6, 0x0B66, 0x0BE6, 0x0C66, 0x0CE6,
    0x0D66, 0x0DE6, 0x0E50, 0x0ED0, 0x0F20, 0x1040, 0x1090, 0x17E0, 0x1810, 0x1946, 0x19D0, 0x1A80,
    0x1A90, 0x1B50, 0x1BB0, 0x1C40, 0x1C50, 0xA620, 0xA8D0, 0xA900, 0xA9D0, 0xA9F0, 0xAA50, 0xABF0,
    0xFF10]

/-- `Character.digit(c, 16)`: a decimal digit of any script, or one of the
    letters A to F, ASCII or full width. -/
def characterDigit (c : Char) : Option Nat :=
  match decimalZeros.find? (fun first => first ≤ c.toNat && c.toNat ≤ first + 9) with
  | some first => some (c.toNat - first)
  | none =>
      if 0xFF21 ≤ c.toNat ∧ c.toNat ≤ 0xFF26 then some (c.toNat - 0xFF21 + 10)
      else if 0xFF41 ≤ c.toNat ∧ c.toNat ≤ 0xFF46 then some (c.toNat - 0xFF41 + 10)
      else value? c

theorem value_digit : ∀ n < 16, value? (digit n) = some n := by decide

theorem characterDigit_digit : ∀ n < 16, characterDigit (digit n) = some n := by decide

/-- The two digits of one byte, high half first. -/
def encodeByte (b : UInt8) : Text := [digit (b.toNat / 16), digit (b.toNat % 16)]

def encode (bytes : List UInt8) : Text := bytes.flatMap encodeByte

/-- An odd number of digits, or a character without a digit value, is refused. -/
def decode (value : Char → Option Nat) : Text → Option (List UInt8)
  | [] => some []
  | [_] => none
  | high :: low :: rest => do
      let h ← value high
      let l ← value low
      let tail ← decode value rest
      some (UInt8.ofNat (h * 16 + l) :: tail)

@[simp] theorem encode_nil : encode [] = [] := rfl

@[simp] theorem encode_cons (b : UInt8) (bytes : List UInt8) :
    encode (b :: bytes) = digit (b.toNat / 16) :: digit (b.toNat % 16) :: encode bytes := rfl

theorem encode_append (left right : List UInt8) :
    encode (left ++ right) = encode left ++ encode right := List.flatMap_append

theorem byte_halves (b : UInt8) : UInt8.ofNat (b.toNat / 16 * 16 + b.toNat % 16) = b := by
  rw [Nat.div_add_mod' b.toNat 16]
  exact UInt8.ofNat_toNat

/-- What was written is read back, whatever else the reader takes as a digit. -/
theorem decode_encode {value : Char → Option Nat} (reads : ∀ n < 16, value (digit n) = some n)
    (bytes : List UInt8) : decode value (encode bytes) = some bytes := by
  induction bytes with
  | nil => rfl
  | cons b bytes ih =>
      have high : b.toNat / 16 < 16 := by have := b.toNat_lt; omega
      have low : b.toNat % 16 < 16 := Nat.mod_lt _ (by omega)
      simp only [encode_cons, decode, reads _ high, reads _ low, ih, Option.bind_eq_bind,
        Option.bind_some, byte_halves]

/-- The digits written are the sixteen lower-case ones. -/
theorem mem_encode {c : Char} {bytes : List UInt8} (member : c ∈ encode bytes) :
    ∃ n < 16, c = digit n := by
  induction bytes with
  | nil => simp at member
  | cons b bytes ih =>
      simp only [encode_cons, List.mem_cons] at member
      rcases member with rfl | rfl | member
      · exact ⟨_, by have := b.toNat_lt; omega, rfl⟩
      · exact ⟨_, Nat.mod_lt _ (by omega), rfl⟩
      · exact ih member

/-! ## What hex text denotes -/

/-- An even number of digits of either case and the bytes they stand for. -/
inductive Denotes : Text → List UInt8 → Prop where
  | nil : Denotes [] []
  | cons : value? high = some h → value? low = some l → Denotes rest bytes →
      Denotes (high :: low :: rest) (UInt8.ofNat (h * 16 + l) :: bytes)

/-- Every character is a digit. -/
def Digits (t : Text) : Prop := ∀ c ∈ t, (value? c).isSome = true

theorem decode_iff {t : Text} {bytes : List UInt8} :
    decode value? t = some bytes ↔ Denotes t bytes := by
  constructor
  · intro read
    fun_induction decode value? t generalizing bytes with
    | case1 =>
        cases read
        exact .nil
    | case2 => cases read
    | case3 high low rest ih =>
        simp only [Option.bind_eq_bind, Option.bind_eq_some_iff, Option.some.injEq] at read
        obtain ⟨h, first, l, second, tail, others, rfl⟩ := read
        exact .cons first second (ih others)
  · intro denotes
    induction denotes with
    | nil => rfl
    | cons first second _ ih =>
        simp only [decode, first, second, ih, Option.bind_eq_bind, Option.bind_some]

theorem encode_denotes (bytes : List UInt8) : Denotes (encode bytes) bytes :=
  decode_iff.mp (decode_encode value_digit bytes)

theorem Denotes.digits {t : Text} {bytes : List UInt8} (denotes : Denotes t bytes) : Digits t := by
  induction denotes with
  | nil => simp [Digits]
  | cons first second _ ih =>
      intro c member
      simp only [List.mem_cons] at member
      rcases member with rfl | rfl | member
      · exact Option.isSome_of_eq_some first
      · exact Option.isSome_of_eq_some second
      · exact ih c member

theorem Denotes.length {t : Text} {bytes : List UInt8} (denotes : Denotes t bytes) :
    t.length = 2 * bytes.length := by
  induction denotes with
  | nil => rfl
  | cons _ _ _ ih =>
      simp only [List.length_cons]
      omega

/-- Any even number of digits denotes some bytes. -/
theorem Digits.denotes {t : Text} (digits : Digits t) (even : t.length % 2 = 0) :
    ∃ bytes, Denotes t bytes := by
  fun_induction decode value? t with
  | case1 => exact ⟨[], .nil⟩
  | case2 => simp at even
  | case3 high low rest ih =>
      obtain ⟨h, first⟩ := Option.isSome_iff_exists.mp (digits high List.mem_cons_self)
      obtain ⟨l, second⟩ := Option.isSome_iff_exists.mp
        (digits low (List.mem_cons_of_mem _ List.mem_cons_self))
      have tail : Digits rest := fun c member =>
        digits c (List.mem_cons_of_mem _ (List.mem_cons_of_mem _ member))
      simp only [List.length_cons] at even
      obtain ⟨bytes, denotes⟩ := ih tail (by omega)
      exact ⟨_, .cons first second denotes⟩

theorem Digits.not_mem_x {t : Text} (digits : Digits t) : 'x' ∉ t := by
  intro member
  cases digits 'x' member

theorem Digits.ascii {t : Text} (digits : Digits t) : ∀ c ∈ t, c.toNat < 128 := by
  intro c member
  have isDigit := digits c member
  simp only [value?] at isDigit
  split_ifs at isDigit with decimal lower upper
  · omega
  · omega
  · omega
  · cases isDigit

theorem x_not_mem_encode (bytes : List UInt8) : 'x' ∉ encode bytes :=
  (encode_denotes bytes).digits.not_mem_x

/-- Hex data: an optional identifier, then an even number of digits. -/
def Data (t : Text) (bytes : List UInt8) : Prop :=
  ∃ digits, (t = digits ∨ t = "0x".toList ++ digits) ∧ Denotes digits bytes

/-- Java strips the identifier of hex data and nothing else. -/
theorem Data.dropPrefix {t : Text} {bytes : List UInt8} (data : Data t bytes) :
    Denotes (Text.dropPrefix "0x".toList t) bytes := by
  obtain ⟨digits, rfl | rfl, denotes⟩ := data
  · rw [Text.dropPrefix_of_absent]
    · exact denotes
    · intro identifier
      exact denotes.digits.not_mem_x (identifier.subset (by simp))
  · rw [Text.dropPrefix_append]
    exact denotes

theorem data_encode (bytes : List UInt8) : Data (encode bytes) bytes :=
  ⟨_, .inl rfl, encode_denotes bytes⟩

theorem data_identifier (bytes : List UInt8) : Data ("0x".toList ++ encode bytes) bytes :=
  ⟨_, .inr rfl, encode_denotes bytes⟩

/-- Of the ASCII characters Java takes as digits the ones it writes. -/
theorem characterDigit_ascii {c : Char} (ascii : c.toNat < 128) : characterDigit c = value? c := by
  have all : ∀ n < 128, characterDigit (Char.ofNat n) = value? (Char.ofNat n) := by decide
  have same := all c.toNat ascii
  rwa [Char.ofNat_toNat] at same

theorem decode_ascii {t : Text} (ascii : ∀ c ∈ t, c.toNat < 128) :
    decode characterDigit t = decode value? t := by
  fun_induction decode value? t with
  | case1 => rfl
  | case2 => rfl
  | case3 high low rest ih =>
      simp only [List.forall_mem_cons] at ascii
      simp only [decode, characterDigit_ascii ascii.1, characterDigit_ascii ascii.2.1,
        ih ascii.2.2]

end Hex
