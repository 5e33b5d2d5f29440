import Mathlib.Algebra.Order.Group.Unbundled.Int
import Mathlib.Algebra.Order.Ring.Abs
import Mathlib.Algebra.Order.Ring.Int
import Mathlib.Tactic.Linarith

/-! # Machine words that hold a number

The integer types of C. Unsigned arithmetic wraps. Signed arithmetic that leaves
the range of its type is undefined, and so is all that is computed from it: such
a word is absent. `Holds` says of a word which number it holds and how large that
number can be at most.
-/

/-! ## Unsigned words -/

namespace Unsigned

theorem masked_none {w : Nat} (x y : BitVec w) : x ^^^ ((x ^^^ y) &&& 0#w) = x := by
  rw [BitVec.and_zero, BitVec.xor_zero]

theorem masked_all {w : Nat} (x y : BitVec w) : x ^^^ ((x ^^^ y) &&& BitVec.allOnes w) = y := by
  rw [BitVec.and_allOnes, ← BitVec.xor_assoc, BitVec.xor_self, BitVec.zero_xor]

variable {w : Nat} {x y : BitVec w} {u v : Int} {b c : Nat}

structure Holds (x : BitVec w) (v : Int) (b : Nat) : Prop where
  value : (x.toNat : Int) = v
  bound : x.toNat ≤ b

namespace Holds

theorem self (fits : x.toNat ≤ b) : Holds x x.toNat b := ⟨rfl, fits⟩

theorem literal (n : Nat) (fits : n < 2 ^ w) : Holds (BitVec.ofNat w n) n n := by
  have same : (BitVec.ofNat w n).toNat = n := by
    rw [BitVec.toNat_ofNat, Nat.mod_eq_of_lt fits]
  exact ⟨congrArg Nat.cast same, Nat.le_of_eq same⟩

theorem mono (holds : Holds x v b) (le : b ≤ c) : Holds x v c := ⟨holds.value, holds.bound.trans le⟩

theorem unique (holds : Holds x v b) (holds' : Holds y v c) : x = y :=
  BitVec.eq_of_toNat_eq (Int.ofNat.inj (holds.value.trans holds'.value.symm))

theorem add (left : Holds x u b) (right : Holds y v c) (fits : b + c < 2 ^ w) :
    Holds (x + y) (u + v) (b + c) := by
  have bounds := Nat.add_le_add left.bound right.bound
  have same : (x + y).toNat = x.toNat + y.toNat := by
    rw [BitVec.toNat_add, Nat.mod_eq_of_lt (Nat.lt_of_le_of_lt bounds fits)]
  refine ⟨?_, same ▸ bounds⟩
  rw [same, Nat.cast_add, left.value, right.value]

theorem mul (left : Holds x u b) (right : Holds y v c) (fits : b * c < 2 ^ w) :
    Holds (x * y) (u * v) (b * c) := by
  have bounds := Nat.mul_le_mul left.bound right.bound
  have same : (x * y).toNat = x.toNat * y.toNat := by
    rw [BitVec.toNat_mul, Nat.mod_eq_of_lt (Nat.lt_of_le_of_lt bounds fits)]
  refine ⟨?_, same ▸ bounds⟩
  rw [same, Nat.cast_mul, left.value, right.value]

/-- A difference of a number that is at least as large. -/
theorem sub (left : Holds x u b) (right : Holds y v c) (le : v ≤ u) : Holds (x - y) (u - v) b := by
  have order : y.toNat ≤ x.toNat := by
    rw [← left.value, ← right.value] at le
    exact Int.ofNat_le.mp le
  have same : (x - y).toNat = x.toNat - y.toNat := BitVec.toNat_sub_of_le order
  refine ⟨?_, same ▸ (Nat.sub_le _ _).trans left.bound⟩
  rw [same, Nat.cast_sub order, left.value, right.value]

/-- A difference to which a constant was added that covers what is taken off. -/
theorem addSub (left : Holds x u b) (right : Holds y v c) (k : Nat) (covers : c ≤ k)
    (fits : b + k < 2 ^ w) : Holds (x + BitVec.ofNat w k - y) (u + k - v) (b + k) := by
  refine (left.add (literal k (by omega)) fits).sub right ?_
  rw [← left.value, ← right.value]
  exact_mod_cast (right.bound.trans covers).trans (Nat.le_add_left k _)

theorem setWidth (w' : Nat) (holds : Holds x v b) (fits : b < 2 ^ w') :
    Holds (x.setWidth w') v b := by
  have same : (x.setWidth w').toNat = x.toNat := by
    rw [BitVec.toNat_setWidth, Nat.mod_eq_of_lt (Nat.lt_of_le_of_lt holds.bound fits)]
  exact ⟨by rw [same, holds.value], same ▸ holds.bound⟩

theorem extend (w' : Nat) (holds : Holds x v b) (le : w ≤ w') : Holds (x.setWidth w') v b := by
  have same : (x.setWidth w').toNat = x.toNat := BitVec.toNat_setWidth_of_le le
  exact ⟨by rw [same, holds.value], same ▸ holds.bound⟩

theorem shiftLeft (k : Nat) (holds : Holds x v b) (fits : b * 2 ^ k < 2 ^ w) :
    Holds (x <<< k) (v * 2 ^ k) (b * 2 ^ k) := by
  have bounds := Nat.mul_le_mul_right (2 ^ k) holds.bound
  have same : (x <<< k).toNat = x.toNat * 2 ^ k := by
    rw [BitVec.toNat_shiftLeft, Nat.shiftLeft_eq, Nat.mod_eq_of_lt (Nat.lt_of_le_of_lt bounds fits)]
  refine ⟨?_, same ▸ bounds⟩
  rw [same, Nat.cast_mul, holds.value, Nat.cast_pow]
  rfl

/-- The two parts that a shift and a mask split a word into, the lower one as a word
    of another width. -/
theorem splitWide {w' : Nat} (k : Nat) (holds : Holds x v b) (mask : BitVec w')
    (low : mask.toNat = 2 ^ k - 1) :
    ∃ q, Holds (x >>> k) q (b / 2 ^ k) ∧
      Holds (x.setWidth w' &&& mask) (v - q * 2 ^ k) (2 ^ k - 1) := by
  have fits : k ≤ w' := by
    have small := mask.isLt
    rw [low] at small
    exact (Nat.pow_le_pow_iff_right Nat.one_lt_two).mp (Nat.le_of_pred_lt small)
  have high : (x >>> k).toNat = x.toNat / 2 ^ k := by
    rw [BitVec.toNat_ushiftRight, Nat.shiftRight_eq_div_pow]
  have rest : (x.setWidth w' &&& mask).toNat = x.toNat % 2 ^ k := by
    rw [BitVec.toNat_and, low, Nat.and_two_pow_sub_one_eq_mod, BitVec.toNat_setWidth,
      Nat.mod_mod_of_dvd _ (pow_dvd_pow 2 fits)]
  have sum := congrArg (Nat.cast : Nat → Int) (Nat.div_add_mod x.toNat (2 ^ k))
  refine ⟨((x.toNat / 2 ^ k : Nat) : Int), ⟨congrArg Nat.cast high, ?_⟩, ?_, ?_⟩
  · rw [high]
    exact Nat.div_le_div_right holds.bound
  · rw [rest, ← holds.value]
    push_cast at sum ⊢
    linarith
  · rw [rest]
    exact Nat.le_sub_one_of_lt (Nat.mod_lt _ (Nat.two_pow_pos k))

theorem split (k : Nat) (holds : Holds x v b) (mask : BitVec w) (low : mask.toNat = 2 ^ k - 1) :
    ∃ q, Holds (x >>> k) q (b / 2 ^ k) ∧ Holds (x &&& mask) (v - q * 2 ^ k) (2 ^ k - 1) := by
  obtain ⟨q, high, rest⟩ := holds.splitWide k mask low
  rw [BitVec.setWidth_eq] at rest
  exact ⟨q, high, rest⟩

end Holds

end Unsigned

/-! ## Signed words -/

/-- A word of a signed type, or none where its computation was undefined. -/
def Signed (w : Nat) : Type := Option (BitVec w)

namespace Signed

variable {w : Nat}

instance : DecidableEq (Signed w) := inferInstanceAs (DecidableEq (Option (BitVec w)))

/-- A result, unless it is out of range. -/
def checked (v : Int) : Signed w :=
  if -2 ^ (w - 1) ≤ v ∧ v < 2 ^ (w - 1) then some (BitVec.ofInt w v) else none

def lift₁ (op : Int → Int) : Signed w → Signed w
  | some a => checked (op a.toInt)
  | none => none

def lift₂ (op : Int → Int → Int) : Signed w → Signed w → Signed w
  | some a, some b => checked (op a.toInt b.toInt)
  | _, _ => none

instance : Neg (Signed w) := ⟨lift₁ (- ·)⟩

instance : Add (Signed w) := ⟨lift₂ (· + ·)⟩

instance : Sub (Signed w) := ⟨lift₂ (· - ·)⟩

instance : Mul (Signed w) := ⟨lift₂ (· * ·)⟩

instance (n : Nat) : OfNat (Signed w) n := ⟨checked n⟩

/-- A conversion, which wraps where the new type is too narrow. -/
def cast (w' : Nat) (x : Signed w) : Signed w' := Option.map (fun a => BitVec.ofInt w' a.toInt) x

/-- `1 << k`. -/
def powerOfTwo (k : Nat) : Signed w := checked (2 ^ k)

/-- `x >> k`, which keeps the sign. -/
def shiftRight (x : Signed w) (k : Nat) : Signed w := Option.map (fun a => a.sshiftRight k) x

/-- `x -= q * ((unsigned) 1 << k)`: both operations are unsigned and wrap. -/
def takeUnsigned (x q : Signed w) (k : Nat) : Signed w :=
  match x, q with
  | some a, some c => some (a - c * (1#w <<< k))
  | _, _ => none

/-- `x -= q * (1 << k)` without a conversion. -/
def takeSigned (x q : Signed w) (k : Nat) : Signed w := x - q * powerOfTwo k

def bitwise (op : BitVec w → BitVec w → BitVec w) : Signed w → Signed w → Signed w
  | some a, some b => some (op a b)
  | _, _ => none

/-- A conversion from the unsigned type, which keeps the bits. -/
def ofBits (a : BitVec w) : Signed w := some a

instance : XorOp (Signed w) := ⟨bitwise (· ^^^ ·)⟩

instance : AndOp (Signed w) := ⟨bitwise (· &&& ·)⟩

theorem xor_comm (x y : Signed w) : x ^^^ y = y ^^^ x := by
  cases x with
  | none => cases y <;> rfl
  | some a =>
      cases y with
      | none => rfl
      | some b => exact congrArg some (BitVec.xor_comm a b)

structure Holds (x : Signed w) (v : Int) (b : Nat) : Prop where
  word : ∃ a, x = some a ∧ a.toInt = v
  lower : -(b : Int) ≤ v
  upper : v ≤ b

variable {x y : Signed w} {u v : Int} {b c : Nat}

theorem toInt_ofInt_of_fits (lower : -(b : Int) ≤ v) (upper : v ≤ b) (fits : b < 2 ^ (w - 1)) :
    (-2 ^ (w - 1) ≤ v ∧ v < 2 ^ (w - 1)) ∧ (BitVec.ofInt w v).toInt = v := by
  have small : (b : Int) < 2 ^ (w - 1) := by exact_mod_cast fits
  have range : -2 ^ (w - 1) ≤ v ∧ v < 2 ^ (w - 1) := ⟨by linarith, by linarith⟩
  refine ⟨range, ?_⟩
  cases w with
  | zero =>
      have zero : v = 0 := by
        simp only [Nat.zero_sub, pow_zero] at range
        omega
      rw [zero]
      rfl
  | succ w => exact BitVec.toInt_ofInt_eq_self (Nat.succ_pos w) range.1 range.2

theorem holds_checked (lower : -(b : Int) ≤ v) (upper : v ≤ b) (fits : b < 2 ^ (w - 1)) :
    Holds (checked v : Signed w) v b := by
  obtain ⟨range, same⟩ := toInt_ofInt_of_fits lower upper fits
  exact ⟨⟨_, if_pos range, same⟩, lower, upper⟩

namespace Holds

theorem mono (holds : Holds x v b) (le : b ≤ c) : Holds x v c := by
  have le' : (b : Int) ≤ c := by exact_mod_cast le
  exact ⟨holds.word, by linarith [holds.lower], holds.upper.trans le'⟩

theorem unique (holds : Holds x v b) (holds' : Holds y v c) : x = y := by
  obtain ⟨a, rfl, same⟩ := holds.word
  obtain ⟨a', rfl, same'⟩ := holds'.word
  rw [BitVec.eq_of_toInt_eq (same.trans same'.symm)]

theorem literal (n : Nat) (fits : n < 2 ^ (w - 1)) : Holds (OfNat.ofNat n : Signed w) n n :=
  holds_checked (by linarith [Int.natCast_nonneg n]) le_rfl fits

theorem neg (holds : Holds x v b) (fits : b < 2 ^ (w - 1)) : Holds (-x) (-v) b := by
  obtain ⟨a, rfl, rfl⟩ := holds.word
  exact holds_checked (by linarith [holds.upper]) (by linarith [holds.lower]) fits

theorem add (left : Holds x u b) (right : Holds y v c) (fits : b + c < 2 ^ (w - 1)) :
    Holds (x + y) (u + v) (b + c) := by
  obtain ⟨a, rfl, rfl⟩ := left.word
  obtain ⟨a', rfl, rfl⟩ := right.word
  refine holds_checked ?_ ?_ fits
  · push_cast
    linarith [left.lower, right.lower]
  · push_cast
    linarith [left.upper, right.upper]

theorem sub (left : Holds x u b) (right : Holds y v c) (fits : b + c < 2 ^ (w - 1)) :
    Holds (x - y) (u - v) (b + c) := by
  obtain ⟨a, rfl, rfl⟩ := left.word
  obtain ⟨a', rfl, rfl⟩ := right.word
  refine holds_checked ?_ ?_ fits
  · push_cast
    linarith [left.lower, right.upper]
  · push_cast
    linarith [left.upper, right.lower]

/-- The words may differ in width, as a product may be taken after a conversion. -/
theorem mul_bounds {w' : Nat} {y : Signed w'} (left : Holds x u b) (right : Holds y v c) :
    -((b * c : Nat) : Int) ≤ u * v ∧ u * v ≤ (b * c : Nat) := by
  refine abs_le.mp ?_
  rw [abs_mul, Nat.cast_mul]
  exact mul_le_mul (abs_le.mpr ⟨left.lower, left.upper⟩) (abs_le.mpr ⟨right.lower, right.upper⟩)
    (abs_nonneg v) (Int.natCast_nonneg b)

theorem mul (left : Holds x u b) (right : Holds y v c) (fits : b * c < 2 ^ (w - 1)) :
    Holds (x * y) (u * v) (b * c) := by
  obtain ⟨lower, upper⟩ := left.mul_bounds right
  obtain ⟨a, rfl, rfl⟩ := left.word
  obtain ⟨a', rfl, rfl⟩ := right.word
  exact holds_checked lower upper fits

theorem cast (w' : Nat) (holds : Holds x v b) (fits : b < 2 ^ (w' - 1)) :
    Holds (x.cast w') v b := by
  obtain ⟨a, rfl, rfl⟩ := holds.word
  exact ⟨⟨_, rfl, (toInt_ofInt_of_fits holds.lower holds.upper fits).2⟩, holds.lower, holds.upper⟩

theorem powerOfTwo (k : Nat) (fits : 2 ^ k < 2 ^ (w - 1)) :
    Holds (powerOfTwo k : Signed w) (2 ^ k) (2 ^ k) := by
  have positive := pow_pos (zero_lt_two : (0 : Int) < 2) k
  exact holds_checked (by push_cast; linarith) (by push_cast; rfl) fits

/-- The nearest multiple of a power of two, and what is left of the word. -/
theorem round (k : Nat) (holds : Holds x v b) (fits : b + 2 ^ k < 2 ^ (w - 1)) :
    ∃ q, Holds ((x + Signed.powerOfTwo k).shiftRight (k + 1)) q
      ((b + 2 ^ k) / 2 ^ (k + 1)) ∧
      -2 ^ k ≤ v - q * 2 ^ (k + 1) ∧ v - q * 2 ^ (k + 1) ≤ 2 ^ k := by
  have half : (0 : Int) < 2 ^ k := pow_pos zero_lt_two k
  have double : (2 : Int) ^ (k + 1) = 2 * 2 ^ k := pow_succ' 2 k
  have whole : (0 : Int) < 2 ^ (k + 1) := pow_pos zero_lt_two (k + 1)
  have sum := holds.add (powerOfTwo k (by omega)) fits
  obtain ⟨a, same, number⟩ := sum.word
  have parts := Int.mul_ediv_add_emod (v + 2 ^ k) (2 ^ (k + 1))
  have low := Int.emod_nonneg (v + 2 ^ k) whole.ne'
  have high := Int.emod_lt_of_pos (v + 2 ^ k) whole
  have size : (((b + 2 ^ k) / 2 ^ (k + 1) : Nat) : Int) = ((b : Int) + 2 ^ k) / 2 ^ (k + 1) := by
    push_cast
    rfl
  refine ⟨(v + 2 ^ k) / 2 ^ (k + 1), ⟨⟨a.sshiftRight (k + 1), ?_, ?_⟩, ?_, ?_⟩, ?_, ?_⟩
  · rw [same]
    rfl
  · rw [BitVec.toInt_sshiftRight, Int.shiftRight_eq_div_pow, number]
    rfl
  · rw [size, neg_le, Int.le_ediv_iff_mul_le whole]
    linarith [holds.lower]
  · rw [size]
    exact Int.ediv_le_ediv whole (by linarith [holds.upper])
  · linarith
  · linarith

theorem takeUnsigned {q : Int} (k : Nat) (holds : Holds x v b) (carry : Holds y q c) {d : Nat}
    (lower : -(d : Int) ≤ v - q * 2 ^ k) (upper : v - q * 2 ^ k ≤ d) (fits : d < 2 ^ (w - 1)) :
    Holds (takeUnsigned x y k) (v - q * 2 ^ k) d := by
  obtain ⟨a, rfl, rfl⟩ := holds.word
  obtain ⟨a', rfl, rfl⟩ := carry.word
  have power : 1#w <<< k = BitVec.ofNat w (2 ^ k) := by
    rw [← BitVec.twoPow_eq]
    exact BitVec.eq_of_toNat_eq (by rw [BitVec.toNat_twoPow, BitVec.toNat_ofNat])
  have same : a - a' * (1#w <<< k) = BitVec.ofInt w (a.toInt - a'.toInt * 2 ^ k) := by
    refine BitVec.eq_of_toInt_eq ?_
    rw [power, BitVec.toInt_sub, BitVec.toInt_mul, BitVec.toInt_ofNat', BitVec.toInt_ofInt,
      Int.mul_bmod_bmod, Int.sub_bmod_bmod, Nat.cast_pow]
    rfl
  refine ⟨⟨_, rfl, ?_⟩, lower, upper⟩
  rw [same]
  exact (toInt_ofInt_of_fits lower upper fits).2

theorem takeSigned {q : Int} (k : Nat) (holds : Holds x v b) (carry : Holds y q c) {d : Nat}
    (lower : -(d : Int) ≤ v - q * 2 ^ k) (upper : v - q * 2 ^ k ≤ d)
    (fits : b + c * 2 ^ k < 2 ^ (w - 1)) (small : 2 ^ k < 2 ^ (w - 1)) :
    Holds (takeSigned x y k) (v - q * 2 ^ k) d := by
  have product := carry.mul (powerOfTwo k small) (by omega)
  exact ⟨(holds.sub product fits).word, lower, upper⟩

theorem masked_none (left : Holds x u b) (right : Holds y v c) :
    x ^^^ ((x ^^^ y) &&& ofBits 0#w) = x := by
  obtain ⟨a, rfl, -⟩ := left.word
  obtain ⟨a', rfl, -⟩ := right.word
  exact congrArg some (Unsigned.masked_none a a')

theorem masked_all (left : Holds x u b) (right : Holds y v c) :
    x ^^^ ((x ^^^ y) &&& ofBits (BitVec.allOnes w)) = y := by
  obtain ⟨a, rfl, -⟩ := left.word
  obtain ⟨a', rfl, -⟩ := right.word
  exact congrArg some (Unsigned.masked_all a a')

end Holds

end Signed
