import BlockSigner.Ed25519.Field
import BlockSigner.Ed25519.Words
import Mathlib.Data.Fin.VecNotation
import Mathlib.Tactic.FinCases

/-! # Field elements in five limbs

The `fe25519` of a build for a target with integers of 128 bits. Limbs may be
larger than 51 bits between two multiplications. All words are unsigned, so an
operation on limbs that are too large would wrap and be wrong without a sign of it.
-/

namespace BlockSigner.Ed25519.Fe51

open Unsigned (Holds)

abbrev Fe25519 : Type := Fin 5 → BitVec 64

def mask : BitVec 64 := 0x7ffffffffffff#64

def zero : Fe25519 := fun _ => 0#64

def one : Fe25519 := ![1#64, 0#64, 0#64, 0#64, 0#64]

def add (f g : Fe25519) : Fe25519 := fun i => f i + g i

def sub (f g : Fe25519) : Fe25519 :=
  let h0 := g 0
  let h1 := g 1 + (h0 >>> 51)
  let h0 := h0 &&& mask
  let h2 := g 2 + (h1 >>> 51)
  let h1 := h1 &&& mask
  let h3 := g 3 + (h2 >>> 51)
  let h2 := h2 &&& mask
  let h4 := g 4 + (h3 >>> 51)
  let h3 := h3 &&& mask
  let h0 := h0 + 19#64 * (h4 >>> 51)
  let h4 := h4 &&& mask
  ![(f 0 + 0xfffffffffffda#64) - h0,
    (f 1 + 0xffffffffffffe#64) - h1,
    (f 2 + 0xffffffffffffe#64) - h2,
    (f 3 + 0xffffffffffffe#64) - h3,
    (f 4 + 0xffffffffffffe#64) - h4]

def neg (f : Fe25519) : Fe25519 := sub zero f

/-- `(uint64_t) (-(int64_t) b)`. -/
def select (b : BitVec 32) : BitVec 64 := -(b.setWidth 64)

def cmov (f g : Fe25519) (b : BitVec 32) : Fe25519 := fun i => f i ^^^ ((f i ^^^ g i) &&& select b)

def cswap (f g : Fe25519) (b : BitVec 32) : Fe25519 × Fe25519 :=
  let x : Fe25519 := fun i => (f i ^^^ g i) &&& select b
  (fun i => f i ^^^ x i, fun i => g i ^^^ x i)

/-- A product of 128 bits. -/
def times (x y : BitVec 64) : BitVec 128 := x.setWidth 128 * y.setWidth 128

/-- The sums `r0` to `r4` of `mul`. -/
def products (f g : Fe25519) : Fin 5 → BitVec 128 :=
  let f1_19 := 19#64 * f 1
  let f2_19 := 19#64 * f 2
  let f3_19 := 19#64 * f 3
  let f4_19 := 19#64 * f 4
  ![times (f 0) (g 0) + times f1_19 (g 4) + times f2_19 (g 3) + times f3_19 (g 2) +
      times f4_19 (g 1),
    times (f 0) (g 1) + times (f 1) (g 0) + times f2_19 (g 4) + times f3_19 (g 3) +
      times f4_19 (g 2),
    times (f 0) (g 2) + times (f 1) (g 1) + times (f 2) (g 0) + times f3_19 (g 4) +
      times f4_19 (g 3),
    times (f 0) (g 3) + times (f 1) (g 2) + times (f 2) (g 1) + times (f 3) (g 0) +
      times f4_19 (g 4),
    times (f 0) (g 4) + times (f 1) (g 3) + times (f 2) (g 2) + times (f 3) (g 1) +
      times (f 4) (g 0)]

/-- The sums `r0` to `r4` of `sq` and `sq2`. -/
def squares (f : Fe25519) : Fin 5 → BitVec 128 :=
  let f0_2 := f 0 <<< 1
  let f1_2 := f 1 <<< 1
  let f1_38 := 38#64 * f 1
  let f2_38 := 38#64 * f 2
  let f3_38 := 38#64 * f 3
  let f3_19 := 19#64 * f 3
  let f4_19 := 19#64 * f 4
  ![times (f 0) (f 0) + times f1_38 (f 4) + times f2_38 (f 3),
    times f0_2 (f 1) + times f2_38 (f 4) + times f3_19 (f 3),
    times f0_2 (f 2) + times (f 1) (f 1) + times f3_38 (f 4),
    times f0_2 (f 3) + times f1_2 (f 2) + times f4_19 (f 4),
    times f0_2 (f 4) + times f1_2 (f 3) + times (f 2) (f 2)]

/-- The carries that `mul`, `sq` and `sq2` end with. -/
def reduce (r : Fin 5 → BitVec 128) : Fe25519 :=
  let r00 := (r 0).setWidth 64 &&& mask
  let r1 := r 1 + (r 0 >>> 51)
  let r01 := r1.setWidth 64 &&& mask
  let r2 := r 2 + (r1 >>> 51)
  let r02 := r2.setWidth 64 &&& mask
  let r3 := r 3 + (r2 >>> 51)
  let r03 := r3.setWidth 64 &&& mask
  let r4 := r 4 + (r3 >>> 51)
  let r04 := r4.setWidth 64 &&& mask
  let r00 := r00 + 19#64 * (r4 >>> 51).setWidth 64
  let carry := r00 >>> 51
  let r00 := r00 &&& mask
  let r01 := r01 + carry
  let carry := r01 >>> 51
  let r01 := r01 &&& mask
  let r02 := r02 + carry
  ![r00, r01, r02, r03, r04]

def mul (f g : Fe25519) : Fe25519 := reduce (products f g)

def sq (f : Fe25519) : Fe25519 := reduce (squares f)

def sq2 (f : Fe25519) : Fe25519 := reduce fun k => squares f k <<< 1

def scalarProduct (f : Fe25519) (n : BitVec 32) : Fe25519 :=
  let sn := n.setWidth 128
  let a := (f 0).setWidth 128 * sn
  let h0 := a.setWidth 64 &&& mask
  let a := (f 1).setWidth 128 * sn + ((a >>> 51).setWidth 64).setWidth 128
  let h1 := a.setWidth 64 &&& mask
  let a := (f 2).setWidth 128 * sn + ((a >>> 51).setWidth 64).setWidth 128
  let h2 := a.setWidth 64 &&& mask
  let a := (f 3).setWidth 128 * sn + ((a >>> 51).setWidth 64).setWidth 128
  let h3 := a.setWidth 64 &&& mask
  let a := (f 4).setWidth 128 * sn + ((a >>> 51).setWidth 64).setWidth 128
  let h4 := a.setWidth 64 &&& mask
  let h0 := (h0.setWidth 128 + (a >>> 51) * 19#128).setWidth 64
  ![h0, h1, h2, h3, h4]

/-! ## What an element represents -/

def scale : Scale 5 where
  exponent i := 51 * i
  bits _ := 51
  extra _ _ := 0
  next := by decide
  sum := by decide

def number (f : Fe25519) : Field := scale.value fun i => ((f i).toNat : Int)

/-- An element with limbs up to a bound, and the number it stands for. -/
structure Represents (b : Nat) (f : Fe25519) (x : Field) : Prop where
  bound : ∀ i, (f i).toNat ≤ b
  number : number f = x

variable {f g : Fe25519} {x y : Field} {b c : Nat}

theorem Represents.holds (represents : Represents b f x) (i : Fin 5) :
    Holds (f i) ((f i).toNat : Int) b := Holds.self (represents.bound i)

theorem Represents.mono (operand : Represents b f x) (le : b ≤ c) : Represents c f x :=
  ⟨fun i => (operand.bound i).trans le, operand.number⟩

theorem represents_of_holds {v : Fin 5 → Int} (holds : ∀ i, Holds (f i) (v i) b) :
    Represents b f (scale.value v) :=
  ⟨fun i => (holds i).bound, congrArg scale.value (funext fun i => (holds i).value)⟩

theorem five {P : Fin 5 → Prop} (p0 : P 0) (p1 : P 1) (p2 : P 2) (p3 : P 3) (p4 : P 4) :
    ∀ i, P i := by
  intro i
  fin_cases i
  exacts [p0, p1, p2, p3, p4]

/-- A carry out of every limb in turn, the last one back into the first. -/
def carried (v q : Fin 5 → Int) : Fin 5 → Int :=
  ![v 0 - q 0 * 2 ^ 51 + 19 * q 4, v 1 + q 0 - q 1 * 2 ^ 51, v 2 + q 1 - q 2 * 2 ^ 51,
    v 3 + q 2 - q 3 * 2 ^ 51, v 4 + q 3 - q 4 * 2 ^ 51]

theorem value_carried (v q : Fin 5 → Int) : scale.value (carried v q) = scale.value v := by
  have moves : carried v q = scale.move (q 4) 4 (scale.move (q 3) 3 (scale.move (q 2) 2
      (scale.move (q 1) 1 (scale.move (q 0) 0 v)))) := by
    refine funext (five ?_ ?_ ?_ ?_ ?_)
    · simp [carried, Scale.move, Limbs.move, Scale.size, Scale.fold, scale]
      ring
    all_goals simp [carried, Scale.move, Limbs.move, Scale.size, Scale.fold, scale]
  rw [moves]
  simp only [Scale.value_move]

/-- Two carries more, out of the two lowest limbs. -/
def settled (v : Fin 5 → Int) (q0 q1 : Int) : Fin 5 → Int :=
  ![v 0 - q0 * 2 ^ 51, v 1 + q0 - q1 * 2 ^ 51, v 2 + q1, v 3, v 4]

theorem value_settled (v : Fin 5 → Int) (q0 q1 : Int) :
    scale.value (settled v q0 q1) = scale.value v := by
  have moves : settled v q0 q1 = scale.move q1 1 (scale.move q0 0 v) := by
    refine funext (five ?_ ?_ ?_ ?_ ?_) <;>
      simp [settled, Scale.move, Limbs.move, Scale.size, Scale.fold, scale]
  rw [moves]
  simp only [Scale.value_move]

/-! ## Sums and differences -/

theorem add_represents (left : Represents b f x) (right : Represents c g y)
    (fits : b + c < 2 ^ 64) : Represents (b + c) (add f g) (x + y) := by
  have sum := represents_of_holds fun i => (left.holds i).add (right.holds i) fits
  rw [scale.value_add] at sum
  rw [← left.number, ← right.number]
  exact sum

/-- Twice the modulus, with limbs that no carried limb exceeds. -/
def twice : Fin 5 → Int :=
  ![0xfffffffffffda, 0xffffffffffffe, 0xffffffffffffe, 0xffffffffffffe, 0xffffffffffffe]

theorem value_twice : scale.value twice = 0 := by
  have carries : twice = carried (fun _ => 0) fun _ => -2 := by decide
  rw [carries, value_carried, scale.value_zero]

theorem sub_represents (left : Represents b f x) (right : Represents c g y)
    (room : b + 2 ^ 52 < 2 ^ 64) (small : c ≤ 2 ^ 63) :
    Represents (b + (2 ^ 52 - 2)) (sub f g) (x - y) := by
  -- carried limbs are below those of `twice`, so no difference is negative
  have limb := fun i => (right.holds i).mono small
  obtain ⟨q0, carry0, low0⟩ := (limb 0).split 51 mask rfl
  obtain ⟨q1, carry1, low1⟩ := ((limb 1).add carry0 (by omega)).split 51 mask rfl
  obtain ⟨q2, carry2, low2⟩ := ((limb 2).add carry1 (by omega)).split 51 mask rfl
  obtain ⟨q3, carry3, low3⟩ := ((limb 3).add carry2 (by omega)).split 51 mask rfl
  obtain ⟨q4, carry4, low4⟩ := ((limb 4).add carry3 (by omega)).split 51 mask rfl
  have wrapped := low0.add ((Holds.literal 19 (by omega)).mul carry4 (by omega)) (by omega)
  let h := carried (fun i => ((g i).toNat : Int)) ![q0, q1, q2, q3, q4]
  have limbs : ∀ i, Holds (sub f g i) ((f i).toNat + twice i - h i) (b + (2 ^ 52 - 2)) := five
    (((left.holds 0).addSub wrapped 0xfffffffffffda (by omega) (by omega)).mono (by omega))
    ((left.holds 1).addSub low1 0xffffffffffffe (by omega) (by omega))
    ((left.holds 2).addSub low2 0xffffffffffffe (by omega) (by omega))
    ((left.holds 3).addSub low3 0xffffffffffffe (by omega) (by omega))
    ((left.holds 4).addSub low4 0xffffffffffffe (by omega) (by omega))
  have result := represents_of_holds limbs
  rw [scale.value_sub, scale.value_add, value_twice, add_zero, value_carried] at result
  rw [← left.number, ← right.number]
  exact result

theorem zero_represents : Represents 0 zero 0 := by
  have limbs : ∀ i, Holds (zero i) 0 0 := fun _ => Holds.literal 0 (by omega)
  have result := represents_of_holds limbs
  rw [scale.value_zero] at result
  exact result

theorem one_represents : Represents 1 one 1 := by
  have limbs : ∀ i, Holds (one i) (![1, 0, 0, 0, 0] i) 1 := five
    (Holds.literal 1 (by omega))
    ((Holds.literal 0 (by omega)).mono (by omega))
    ((Holds.literal 0 (by omega)).mono (by omega))
    ((Holds.literal 0 (by omega)).mono (by omega))
    ((Holds.literal 0 (by omega)).mono (by omega))
  have result := represents_of_holds limbs
  simp [Scale.value, Limbs.value, Fin.sum_univ_five, Scale.weight, scale] at result
  exact result

theorem neg_represents (operand : Represents b f x) (small : b ≤ 2 ^ 63) :
    Represents (2 ^ 52 - 2) (neg f) (-x) := by
  have result := sub_represents zero_represents operand (by omega) small
  rw [zero_sub] at result
  exact result

/-! ## Products -/

/-- Multiplication takes three carried elements added up. -/
def loose : Nat := 3 * 2 ^ 52

def tight : Nat := 2 ^ 51

theorem reduce_represents {r : Fin 5 → BitVec 128} {v : Fin 5 → Int}
    (sums : ∀ i, Holds (r i) (v i) (2 ^ 116)) (high : Holds (r 4) (v 4) (90 * 2 ^ 104)) :
    Represents tight (reduce r) (scale.value v) := by
  obtain ⟨q0, carry0, low0⟩ := (sums 0).splitWide 51 mask rfl
  obtain ⟨q1, carry1, low1⟩ := ((sums 1).add carry0 (by omega)).splitWide 51 mask rfl
  obtain ⟨q2, carry2, low2⟩ := ((sums 2).add carry1 (by omega)).splitWide 51 mask rfl
  obtain ⟨q3, carry3, low3⟩ := ((sums 3).add carry2 (by omega)).splitWide 51 mask rfl
  obtain ⟨q4, carry4, low4⟩ := (high.add carry3 (by omega)).splitWide 51 mask rfl
  -- the last sum is the smallest: nineteen times its carry still fits a word
  have narrow := carry4.setWidth 64 (by omega)
  have wrapped := low0.add ((Holds.literal 19 (by omega)).mul narrow (by omega)) (by omega)
  obtain ⟨q5, carry5, low5⟩ := wrapped.split 51 mask rfl
  obtain ⟨q6, carry6, low6⟩ := (low1.add carry5 (by omega)).split 51 mask rfl
  let h := settled (carried v ![q0, q1, q2, q3, q4]) q5 q6
  have limbs : ∀ i, Holds (reduce r i) (h i) tight := five
    (low5.mono (by decide))
    (low6.mono (by decide))
    ((low2.add carry6 (by omega)).mono (by decide))
    (low3.mono (by decide))
    (low4.mono (by decide))
  have result := represents_of_holds limbs
  rw [value_settled, value_carried] at result
  exact result

theorem holds_times {a a' : BitVec 64} {u v : Int} (left : Holds a u b) (right : Holds a' v c) :
    Holds (times a a') (u * v) (b * c) := by
  have below : a.toNat * a'.toNat < 2 ^ 128 :=
    (Nat.mul_lt_mul'' a.isLt a'.isLt).trans_eq (by omega)
  have same : (times a a').toNat = a.toNat * a'.toNat := by
    rw [times, BitVec.toNat_mul, BitVec.toNat_setWidth_of_le (by omega),
      BitVec.toNat_setWidth_of_le (by omega), Nat.mod_eq_of_lt below]
  refine ⟨?_, same ▸ Nat.mul_le_mul left.bound right.bound⟩
  rw [same, Nat.cast_mul, left.value, right.value]

theorem holds_sum {r0 r1 r2 r3 r4 : BitVec 128} {v0 v1 v2 v3 v4 : Int} {b0 b1 b2 b3 b4 : Nat}
    (h0 : Holds r0 v0 b0) (h1 : Holds r1 v1 b1) (h2 : Holds r2 v2 b2) (h3 : Holds r3 v3 b3)
    (h4 : Holds r4 v4 b4) (fits : b0 + b1 + b2 + b3 + b4 < 2 ^ 128) :
    Holds (r0 + r1 + r2 + r3 + r4) (v0 + v1 + v2 + v3 + v4) (b0 + b1 + b2 + b3 + b4) :=
  (((h0.add h1 (by omega)).add h2 (by omega)).add h3 (by omega)).add h4 fits

theorem product_rows (u v : Fin 5 → Int) : scale.product u v =
    ![u 0 * v 0 + 19 * u 1 * v 4 + 19 * u 2 * v 3 + 19 * u 3 * v 2 + 19 * u 4 * v 1,
      u 0 * v 1 + u 1 * v 0 + 19 * u 2 * v 4 + 19 * u 3 * v 3 + 19 * u 4 * v 2,
      u 0 * v 2 + u 1 * v 1 + u 2 * v 0 + 19 * u 3 * v 4 + 19 * u 4 * v 3,
      u 0 * v 3 + u 1 * v 2 + u 2 * v 1 + u 3 * v 0 + 19 * u 4 * v 4,
      u 0 * v 4 + u 1 * v 3 + u 2 * v 2 + u 3 * v 1 + u 4 * v 0] := by
  refine funext (five ?_ ?_ ?_ ?_ ?_) <;>
    simp [Scale.product, Limbs.product, Fin.sum_univ_five, Scale.factor, scale, mul_assoc,
      -zero_sub]

/-- How many products of two limbs a sum can amount to. -/
def height : Fin 5 → Nat := ![77, 59, 41, 23, 5]

theorem products_hold {u v : Fin 5 → Int} (left : ∀ i, Holds (f i) (u i) loose)
    (right : ∀ i, Holds (g i) (v i) loose) (k : Fin 5) :
    Holds (products f g k) (scale.product u v k) (height k * loose ^ 2) := by
  rw [product_rows]
  have f1_19 := (Holds.literal 19 (by omega)).mul (left 1) (by decide)
  have f2_19 := (Holds.literal 19 (by omega)).mul (left 2) (by decide)
  have f3_19 := (Holds.literal 19 (by omega)).mul (left 3) (by decide)
  have f4_19 := (Holds.literal 19 (by omega)).mul (left 4) (by decide)
  revert k
  refine five ?_ ?_ ?_ ?_ ?_
  · exact (holds_sum (holds_times (left 0) (right 0)) (holds_times f1_19 (right 4))
      (holds_times f2_19 (right 3)) (holds_times f3_19 (right 2)) (holds_times f4_19 (right 1))
      (by decide)).mono (by decide)
  · exact (holds_sum (holds_times (left 0) (right 1)) (holds_times (left 1) (right 0))
      (holds_times f2_19 (right 4)) (holds_times f3_19 (right 3)) (holds_times f4_19 (right 2))
      (by decide)).mono (by decide)
  · exact (holds_sum (holds_times (left 0) (right 2)) (holds_times (left 1) (right 1))
      (holds_times (left 2) (right 0)) (holds_times f3_19 (right 4)) (holds_times f4_19 (right 3))
      (by decide)).mono (by decide)
  · exact (holds_sum (holds_times (left 0) (right 3)) (holds_times (left 1) (right 2))
      (holds_times (left 2) (right 1)) (holds_times (left 3) (right 0))
      (holds_times f4_19 (right 4)) (by decide)).mono (by decide)
  · exact (holds_sum (holds_times (left 0) (right 4)) (holds_times (left 1) (right 3))
      (holds_times (left 2) (right 2)) (holds_times (left 3) (right 1))
      (holds_times (left 4) (right 0)) (by decide)).mono (by decide)

theorem squares_hold {u : Fin 5 → Int} (operand : ∀ i, Holds (f i) (u i) loose) (k : Fin 5) :
    Holds (squares f k) (scale.product u u k) (height k * loose ^ 2) := by
  have rows : scale.product u u =
      ![u 0 * u 0 + 38 * u 1 * u 4 + 38 * u 2 * u 3,
        u 0 * 2 ^ 1 * u 1 + 38 * u 2 * u 4 + 19 * u 3 * u 3,
        u 0 * 2 ^ 1 * u 2 + u 1 * u 1 + 38 * u 3 * u 4,
        u 0 * 2 ^ 1 * u 3 + u 1 * 2 ^ 1 * u 2 + 19 * u 4 * u 4,
        u 0 * 2 ^ 1 * u 4 + u 1 * 2 ^ 1 * u 3 + u 2 * u 2] := by
    rw [product_rows]
    refine funext (five ?_ ?_ ?_ ?_ ?_) <;> (simp; ring)
  rw [rows]
  have f0_2 := (operand 0).shiftLeft 1 (by decide)
  have f1_2 := (operand 1).shiftLeft 1 (by decide)
  have f1_38 := (Holds.literal 38 (by omega)).mul (operand 1) (by decide)
  have f2_38 := (Holds.literal 38 (by omega)).mul (operand 2) (by decide)
  have f3_38 := (Holds.literal 38 (by omega)).mul (operand 3) (by decide)
  have f3_19 := (Holds.literal 19 (by omega)).mul (operand 3) (by decide)
  have f4_19 := (Holds.literal 19 (by omega)).mul (operand 4) (by decide)
  revert k
  refine five ?_ ?_ ?_ ?_ ?_
  · exact (((holds_times (operand 0) (operand 0)).add
      (holds_times f1_38 (operand 4)) (by decide)).add
      (holds_times f2_38 (operand 3)) (by decide)).mono (by decide)
  · exact (((holds_times f0_2 (operand 1)).add (holds_times f2_38 (operand 4)) (by decide)).add
      (holds_times f3_19 (operand 3)) (by decide)).mono (by decide)
  · exact (((holds_times f0_2 (operand 2)).add
      (holds_times (operand 1) (operand 1)) (by decide)).add
      (holds_times f3_38 (operand 4)) (by decide)).mono (by decide)
  · exact (((holds_times f0_2 (operand 3)).add (holds_times f1_2 (operand 2)) (by decide)).add
      (holds_times f4_19 (operand 4)) (by decide)).mono (by decide)
  · exact (((holds_times f0_2 (operand 4)).add (holds_times f1_2 (operand 3)) (by decide)).add
      (holds_times (operand 2) (operand 2)) (by decide)).mono (by decide)

theorem mul_represents (left : Represents loose f x) (right : Represents loose g y) :
    Represents tight (mul f g) (x * y) := by
  have sums := products_hold left.holds right.holds
  have result := reduce_represents
    (fun k => (sums k).mono (by revert k; decide)) ((sums 4).mono (by decide))
  rw [scale.value_product] at result
  rw [← left.number, ← right.number]
  exact result

/-- The sums of the squaring are those of the product word for word. -/
theorem squares_eq (operand : ∀ i, (f i).toNat ≤ loose) : squares f = products f f := by
  have holds : ∀ i, Holds (f i) ((f i).toNat : Int) loose := fun i => Holds.self (operand i)
  exact funext fun k => (squares_hold holds k).unique (products_hold holds holds k)

theorem sq_eq_mul (operand : ∀ i, (f i).toNat ≤ loose) : sq f = mul f f := by
  rw [sq, mul, squares_eq operand]

theorem sq2_represents (operand : Represents loose f x) :
    Represents tight (sq2 f) (2 * x ^ 2) := by
  have sums := fun k => (squares_hold operand.holds k).shiftLeft 1 (by revert k; decide)
  have result := reduce_represents
    (fun k => (sums k).mono (by revert k; decide)) ((sums 4).mono (by decide))
  simp only [pow_one, mul_comm _ (2 : Int)] at result
  rw [scale.value_mul, scale.value_product] at result
  rw [← operand.number, pow_two]
  exact result

/-- Any words are allowed: the product by the number is carried at once. -/
theorem scalarProduct_represents (operand : Represents (2 ^ 64 - 1) f x) (n : BitVec 32) :
    Represents (2 ^ 52) (scalarProduct f n) (n.toNat * x) := by
  have sn : Holds (n.setWidth 128) n.toNat (2 ^ 32 - 1) :=
    (Holds.self (Nat.le_sub_one_of_lt n.isLt)).extend 128 (by omega)
  have limb := fun i => ((operand.holds i).extend 128 (by omega)).mul sn (by omega)
  obtain ⟨q0, carry0, low0⟩ := (limb 0).splitWide 51 mask rfl
  have narrow0 := (carry0.setWidth 64 (by omega)).extend 128 (by omega)
  obtain ⟨q1, carry1, low1⟩ := ((limb 1).add narrow0 (by omega)).splitWide 51 mask rfl
  have narrow1 := (carry1.setWidth 64 (by omega)).extend 128 (by omega)
  obtain ⟨q2, carry2, low2⟩ := ((limb 2).add narrow1 (by omega)).splitWide 51 mask rfl
  have narrow2 := (carry2.setWidth 64 (by omega)).extend 128 (by omega)
  obtain ⟨q3, carry3, low3⟩ := ((limb 3).add narrow2 (by omega)).splitWide 51 mask rfl
  have narrow3 := (carry3.setWidth 64 (by omega)).extend 128 (by omega)
  obtain ⟨q4, carry4, low4⟩ := ((limb 4).add narrow3 (by omega)).splitWide 51 mask rfl
  have wrapped := ((low0.extend 128 (by omega)).add
    (carry4.mul (Holds.literal 19 (by omega)) (by omega)) (by omega)).setWidth 64
    (by omega)
  rw [mul_comm q4] at wrapped
  let h := carried (fun i => ((f i).toNat : Int) * n.toNat) ![q0, q1, q2, q3, q4]
  have limbs : ∀ i, Holds (scalarProduct f n i) (h i) (2 ^ 52) := five
    (wrapped.mono (by omega))
    (low1.mono (by omega))
    (low2.mono (by omega))
    (low3.mono (by omega))
    (low4.mono (by omega))
  have result := represents_of_holds limbs
  rw [value_carried] at result
  simp only [mul_comm _ (n.toNat : Int)] at result
  rw [scale.value_mul, Int.cast_natCast] at result
  rw [← operand.number]
  exact result

theorem five_limbs_multiply (left : Represents loose f x) (right : Represents loose g y) :
    Represents tight (mul f g) (x * y) ∧ sq f = mul f f ∧ Represents tight (sq2 f) (2 * x ^ 2) :=
  ⟨mul_represents left right, sq_eq_mul left.bound, sq2_represents left⟩

theorem five_limbs_multiply_largest :
    let f : Fe25519 := fun _ => BitVec.ofNat 64 loose
    Represents tight (mul f f) (number f * number f) ∧ sq f = mul f f ∧
      Represents tight (sq2 f) (2 * number f ^ 2) := by
  have largest : Represents loose (fun _ => BitVec.ofNat 64 loose)
      (number fun _ => BitVec.ofNat 64 loose) := ⟨by decide, rfl⟩
  exact five_limbs_multiply largest largest

theorem five_limbs_scale (f : Fe25519) (n : BitVec 32) :
    Represents (2 ^ 52) (scalarProduct f n) (n.toNat * number f) :=
  scalarProduct_represents ⟨fun i => Nat.le_sub_one_of_lt (f i).isLt, rfl⟩ n

/-! ## Choices -/

theorem cmov_eq (f g : Fe25519) : cmov f g 0 = f ∧ cmov f g 1 = g := by
  have masks : select 0 = 0#64 ∧ select 1 = BitVec.allOnes 64 := by decide
  constructor
  · funext i
    rw [cmov, masks.1, Unsigned.masked_none]
  · funext i
    rw [cmov, masks.2, Unsigned.masked_all]

theorem cswap_eq (f g : Fe25519) : cswap f g 0 = (f, g) ∧ cswap f g 1 = (g, f) := by
  have masks : select 0 = 0#64 ∧ select 1 = BitVec.allOnes 64 := by decide
  constructor
  · refine Prod.ext (funext fun i => ?_) (funext fun i => ?_)
    · simp only [cswap, masks.1, Unsigned.masked_none]
    · simp only [cswap, masks.1, BitVec.xor_comm (f i), Unsigned.masked_none]
  · refine Prod.ext (funext fun i => ?_) (funext fun i => ?_)
    · simp only [cswap, masks.2, Unsigned.masked_all]
    · simp only [cswap, masks.2, BitVec.xor_comm (f i), Unsigned.masked_all]

end BlockSigner.Ed25519.Fe51
