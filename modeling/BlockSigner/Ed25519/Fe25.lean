import BlockSigner.Ed25519.Field
import BlockSigner.Ed25519.Words
import Mathlib.Data.Fin.VecNotation
import Mathlib.Tactic.FinCases

/-! # Field elements in ten limbs

The `fe25519` of every other build: limbs of 26 and 25 bits by turns, with a sign.
Overflow of a signed word is undefined, so what the operations need is more than
that their numbers are right: nothing on the way to them may leave its range.
-/

namespace BlockSigner.Ed25519.Fe25

open Signed (Holds)

abbrev Fe25519 : Type := Fin 10 → Signed 32

def zero : Fe25519 := fun _ => 0

def one : Fe25519 := ![1, 0, 0, 0, 0, 0, 0, 0, 0, 0]

def add (f g : Fe25519) : Fe25519 := fun i => f i + g i

def sub (f g : Fe25519) : Fe25519 := fun i => f i - g i

def neg (f : Fe25519) : Fe25519 := fun i => -f i

/-- `(uint32_t) (-(int32_t) b)`. -/
def cmovMask (b : BitVec 32) : Signed 32 := -Signed.ofBits b

/-- `(uint32_t) (-(int64_t) b)`. -/
def cswapMask (b : BitVec 32) : Signed 32 := (-Signed.ofBits (b.setWidth 64)).cast 32

def cmov (f g : Fe25519) (b : BitVec 32) : Fe25519 := fun i =>
  f i ^^^ ((f i ^^^ g i) &&& cmovMask b)

def cswap (f g : Fe25519) (b : BitVec 32) : Fe25519 × Fe25519 :=
  let x : Fe25519 := fun i => (f i ^^^ g i) &&& cswapMask b
  (fun i => f i ^^^ x i, fun i => g i ^^^ x i)

/-- A product of 64 bits. -/
def times (x y : Signed 32) : Signed 64 := x.cast 64 * y.cast 64

/-- The sums `h0` to `h9` of `mul`. -/
def products (f g : Fe25519) : Fin 10 → Signed 64 :=
  let g1_19 := 19 * g 1
  let g2_19 := 19 * g 2
  let g3_19 := 19 * g 3
  let g4_19 := 19 * g 4
  let g5_19 := 19 * g 5
  let g6_19 := 19 * g 6
  let g7_19 := 19 * g 7
  let g8_19 := 19 * g 8
  let g9_19 := 19 * g 9
  let f1_2 := 2 * f 1
  let f3_2 := 2 * f 3
  let f5_2 := 2 * f 5
  let f7_2 := 2 * f 7
  let f9_2 := 2 * f 9
  ![times (f 0) (g 0) + times f1_2 g9_19 + times (f 2) g8_19 + times f3_2 g7_19 +
      times (f 4) g6_19 + times f5_2 g5_19 + times (f 6) g4_19 + times f7_2 g3_19 +
      times (f 8) g2_19 + times f9_2 g1_19,
    times (f 0) (g 1) + times (f 1) (g 0) + times (f 2) g9_19 + times (f 3) g8_19 +
      times (f 4) g7_19 + times (f 5) g6_19 + times (f 6) g5_19 + times (f 7) g4_19 +
      times (f 8) g3_19 + times (f 9) g2_19,
    times (f 0) (g 2) + times f1_2 (g 1) + times (f 2) (g 0) + times f3_2 g9_19 +
      times (f 4) g8_19 + times f5_2 g7_19 + times (f 6) g6_19 + times f7_2 g5_19 +
      times (f 8) g4_19 + times f9_2 g3_19,
    times (f 0) (g 3) + times (f 1) (g 2) + times (f 2) (g 1) + times (f 3) (g 0) +
      times (f 4) g9_19 + times (f 5) g8_19 + times (f 6) g7_19 + times (f 7) g6_19 +
      times (f 8) g5_19 + times (f 9) g4_19,
    times (f 0) (g 4) + times f1_2 (g 3) + times (f 2) (g 2) + times f3_2 (g 1) +
      times (f 4) (g 0) + times f5_2 g9_19 + times (f 6) g8_19 + times f7_2 g7_19 +
      times (f 8) g6_19 + times f9_2 g5_19,
    times (f 0) (g 5) + times (f 1) (g 4) + times (f 2) (g 3) + times (f 3) (g 2) +
      times (f 4) (g 1) + times (f 5) (g 0) + times (f 6) g9_19 + times (f 7) g8_19 +
      times (f 8) g7_19 + times (f 9) g6_19,
    times (f 0) (g 6) + times f1_2 (g 5) + times (f 2) (g 4) + times f3_2 (g 3) +
      times (f 4) (g 2) + times f5_2 (g 1) + times (f 6) (g 0) + times f7_2 g9_19 +
      times (f 8) g8_19 + times f9_2 g7_19,
    times (f 0) (g 7) + times (f 1) (g 6) + times (f 2) (g 5) + times (f 3) (g 4) +
      times (f 4) (g 3) + times (f 5) (g 2) + times (f 6) (g 1) + times (f 7) (g 0) +
      times (f 8) g9_19 + times (f 9) g8_19,
    times (f 0) (g 8) + times f1_2 (g 7) + times (f 2) (g 6) + times f3_2 (g 5) +
      times (f 4) (g 4) + times f5_2 (g 3) + times (f 6) (g 2) + times f7_2 (g 1) +
      times (f 8) (g 0) + times f9_2 g9_19,
    times (f 0) (g 9) + times (f 1) (g 8) + times (f 2) (g 7) + times (f 3) (g 6) +
      times (f 4) (g 5) + times (f 5) (g 4) + times (f 6) (g 3) + times (f 7) (g 2) +
      times (f 8) (g 1) + times (f 9) (g 0)]

/-- The sums `h0` to `h9` of `sq` and `sq2`. -/
def squares (f : Fe25519) : Fin 10 → Signed 64 :=
  let f0_2 := 2 * f 0
  let f1_2 := 2 * f 1
  let f2_2 := 2 * f 2
  let f3_2 := 2 * f 3
  let f4_2 := 2 * f 4
  let f5_2 := 2 * f 5
  let f6_2 := 2 * f 6
  let f7_2 := 2 * f 7
  let f5_38 := 38 * f 5
  let f6_19 := 19 * f 6
  let f7_38 := 38 * f 7
  let f8_19 := 19 * f 8
  let f9_38 := 38 * f 9
  ![times (f 0) (f 0) + times f1_2 f9_38 + times f2_2 f8_19 + times f3_2 f7_38 +
      times f4_2 f6_19 + times (f 5) f5_38,
    times f0_2 (f 1) + times (f 2) f9_38 + times f3_2 f8_19 + times (f 4) f7_38 +
      times f5_2 f6_19,
    times f0_2 (f 2) + times f1_2 (f 1) + times f3_2 f9_38 + times f4_2 f8_19 +
      times f5_2 f7_38 + times (f 6) f6_19,
    times f0_2 (f 3) + times f1_2 (f 2) + times (f 4) f9_38 + times f5_2 f8_19 +
      times (f 6) f7_38,
    times f0_2 (f 4) + times f1_2 f3_2 + times (f 2) (f 2) + times f5_2 f9_38 +
      times f6_2 f8_19 + times (f 7) f7_38,
    times f0_2 (f 5) + times f1_2 (f 4) + times f2_2 (f 3) + times (f 6) f9_38 +
      times f7_2 f8_19,
    times f0_2 (f 6) + times f1_2 f5_2 + times f2_2 (f 4) + times f3_2 (f 3) +
      times f7_2 f9_38 + times (f 8) f8_19,
    times f0_2 (f 7) + times f1_2 (f 6) + times f2_2 (f 5) + times f3_2 (f 4) +
      times (f 8) f9_38,
    times f0_2 (f 8) + times f1_2 f7_2 + times f2_2 (f 6) + times f3_2 f5_2 +
      times (f 4) (f 4) + times (f 9) f9_38,
    times f0_2 (f 9) + times f1_2 (f 8) + times f2_2 (f 7) + times f3_2 (f 6) + times f4_2 (f 5)]

/-- The place of the bit a limb is rounded at. -/
def half (i : Fin 10) : Nat := if i.val % 2 = 0 then 25 else 24

/-- A carry out of one limb, where `take` is how the limb loses what is carried. -/
def carry (take : Signed 64 → Signed 64 → Nat → Signed 64) (h : Fin 10 → Signed 64) (i : Fin 10) :
    Fin 10 → Signed 64 :=
  let c := (h i + Signed.powerOfTwo (half i)).shiftRight (half i + 1)
  let h := Function.update h (i + 1) (h (i + 1) + if i = 9 then c * 19 else c)
  Function.update h i (take (h i) c (half i + 1))

/-- The carries that `mul`, `sq` and `sq2` end with. -/
def reduce (h : Fin 10 → Signed 64) : Fe25519 := fun i =>
  ([0, 4, 1, 5, 2, 6, 3, 7, 4, 8, 9, 0].foldl (carry Signed.takeUnsigned) h i).cast 32

def mul (f g : Fe25519) : Fe25519 := reduce (products f g)

def sq (f : Fe25519) : Fe25519 := reduce (squares f)

def sq2 (f : Fe25519) : Fe25519 := reduce fun k => squares f k + squares f k

def scalarProduct (f : Fe25519) (n : BitVec 32) : Fe25519 := fun i =>
  let sn : Signed 64 := Signed.checked n.toNat
  ([9, 1, 3, 5, 7, 0, 2, 4, 6, 8].foldl (carry Signed.takeSigned)
    (fun k => (f k).cast 64 * sn) i).cast 32

/-! ## What an element represents -/

def scale : Scale 10 where
  exponent i := (51 * i + 1) / 2
  bits i := half i + 1
  extra i j := if i.val % 2 = 1 ∧ j.val % 2 = 1 then 1 else 0
  next := by decide
  sum := by decide

theorem ten {P : Fin 10 → Prop} (p0 : P 0) (p1 : P 1) (p2 : P 2) (p3 : P 3) (p4 : P 4)
    (p5 : P 5) (p6 : P 6) (p7 : P 7) (p8 : P 8) (p9 : P 9) : ∀ i, P i := by
  intro i
  fin_cases i
  exacts [p0, p1, p2, p3, p4, p5, p6, p7, p8, p9]

/-! ## Carries -/

section

variable {h : Fin 10 → Signed 64} {v : Fin 10 → Int} {b : Fin 10 → Nat}

/-- A way to take off what is carried, right for limbs up to a limit. -/
def Takes (take : Signed 64 → Signed 64 → Nat → Signed 64) (limit : Nat) : Prop :=
  ∀ {x y : Signed 64} {v q : Int} {b : Nat} (i : Fin 10), b ≤ limit → Holds x v b →
    Holds y q ((b + 2 ^ half i) / 2 ^ (half i + 1)) →
    -2 ^ half i ≤ v - q * 2 ^ (half i + 1) → v - q * 2 ^ (half i + 1) ≤ 2 ^ half i →
    Holds (take x y (half i + 1)) (v - q * 2 ^ (half i + 1)) (2 ^ half i)

theorem two_pow_half_le (i : Fin 10) : 2 ^ half i ≤ 2 ^ 25 := by
  revert i
  decide

theorem takes_unsigned : Takes Signed.takeUnsigned (2 ^ 63) := by
  intro x y v q b i _ limb carried lower upper
  have small := two_pow_half_le i
  exact limb.takeUnsigned _ carried (by exact_mod_cast lower) (by exact_mod_cast upper) (by omega)

theorem takes_signed : Takes Signed.takeSigned (2 ^ 61) := by
  intro x y v q b i below limb carried lower upper
  have small := two_pow_half_le i
  have product := Nat.div_mul_le_self (b + 2 ^ half i) (2 ^ (half i + 1))
  exact limb.takeSigned _ carried (by exact_mod_cast lower) (by exact_mod_cast upper) (by omega)
    (by rw [pow_succ]; omega)

/-- What the limbs are bounded by after a carry. -/
def bounded (b : Fin 10 → Nat) (i : Fin 10) : Fin 10 → Nat :=
  let c := (b i + 2 ^ half i) / 2 ^ (half i + 1)
  Function.update (Function.update b (i + 1) (b (i + 1) + if i = 9 then c * 19 else c)) i
    (2 ^ half i)

/-- Whether a carry stays in range. -/
def inRange (limit : Nat) (b : Fin 10 → Nat) (i : Fin 10) : Bool :=
  b i ≤ limit && b i + 2 ^ half i < 2 ^ 63 &&
    b (i + 1) + (b i + 2 ^ half i) / 2 ^ (half i + 1) * 19 < 2 ^ 63

theorem holds_passed {c : Signed 64} {q : Int} {m : Nat} (i : Fin 10) (carried : Holds c q m)
    (fits : m * 19 < 2 ^ 63) :
    Holds (if i = 9 then c * 19 else c) (q * Scale.fold i) (if i = 9 then m * 19 else m) := by
  by_cases last : i = 9
  · subst last
    exact carried.mul (Holds.literal 19 (by norm_num)) fits
  · have inside : i.val + 1 < 10 := by omega
    rw [if_neg last, if_neg last, Scale.fold, if_pos inside, mul_one]
    exact carried

theorem carry_holds {take limit} (takes : Takes take limit) (limbs : ∀ j, Holds (h j) (v j) (b j))
    (i : Fin 10) (range : inRange limit b i) :
    ∃ q, ∀ j, Holds (carry take h i j) (scale.move q i v j) (bounded b i j) := by
  simp only [inRange, Bool.and_eq_true, decide_eq_true_eq] at range
  obtain ⟨⟨below, room⟩, next⟩ := range
  obtain ⟨q, carried, lower, upper⟩ := (limbs i).round (half i) room
  have taken := takes i below (limbs i) carried lower upper
  have passed := (limbs (i + 1)).add (holds_passed i carried (by omega)) (by split <;> omega)
  have apart : ∀ k : Fin 10, k ≠ k + 1 := by decide
  refine ⟨q, fun j => ?_⟩
  by_cases here : j = i
  · subst here
    simpa [carry, bounded, Scale.move, Limbs.move, Scale.size, scale, apart] using taken
  · by_cases there : j = i + 1
    · subst there
      simpa [carry, bounded, Scale.move, Limbs.move, here] using passed
    · simpa [carry, bounded, Scale.move, Limbs.move, here, there] using limbs j

def allInRange (limit : Nat) : (Fin 10 → Nat) → List (Fin 10) → Bool
  | _, [] => true
  | b, i :: order => inRange limit b i && allInRange limit (bounded b i) order

theorem carries_hold {take limit} (takes : Takes take limit) (order : List (Fin 10))
    (limbs : ∀ j, Holds (h j) (v j) (b j)) (range : allInRange limit b order) :
    ∃ v', scale.value v' = scale.value v ∧
      ∀ j, Holds (order.foldl (carry take) h j) (v' j) (order.foldl bounded b j) := by
  induction order generalizing h v b with
  | nil => exact ⟨v, rfl, limbs⟩
  | cons i order ih =>
      obtain ⟨first, rest⟩ := Bool.and_eq_true_iff.mp range
      obtain ⟨q, moved⟩ := carry_holds takes limbs i first
      obtain ⟨v', same, settled⟩ := ih moved rest
      exact ⟨v', same.trans (scale.value_move q i v), settled⟩

end

/-- Bounds of the limbs on even and on odd places. -/
def alternate (even odd : Nat) (i : Fin 10) : Nat := if i.val % 2 = 0 then even else odd

/-- `1.1*2^25,1.1*2^24,1.1*2^25,1.1*2^24,etc.` -/
def tight : Fin 10 → Nat := alternate 36909875 18454937

/-- `1.01*2^25,1.01*2^24,1.01*2^25,1.01*2^24,etc.` -/
def carried : Fin 10 → Nat := alternate 33889976 16944988

/-- `1.65*2^26,1.65*2^25,1.65*2^26,1.65*2^25,etc.` -/
def loose : Fin 10 → Nat := alternate 110729625 55364812

theorem reduce_range :
    allInRange (2 ^ 63) (fun _ => 3 * 2 ^ 61) [0, 4, 1, 5, 2, 6, 3, 7, 4, 8, 9, 0] := by
  decide +kernel

theorem reduce_bound (j : Fin 10) :
    [0, 4, 1, 5, 2, 6, 3, 7, 4, 8, 9, 0].foldl bounded (fun _ => 3 * 2 ^ 61) j ≤ carried j := by
  revert j
  decide +kernel

/-! ## Products -/

theorem wide_holds {x : Signed 32} {u : Int} {b : Nat} (holds : Holds x u b) :
    Holds (x.cast 64) u (2 ^ 31) := by
  obtain ⟨a, rfl, rfl⟩ := holds.word
  have range : Holds (some a) a.toInt (2 ^ 31) :=
    ⟨⟨a, rfl, rfl⟩, by exact_mod_cast a.le_toInt, by exact_mod_cast a.toInt_lt.le⟩
  exact range.cast 64 (by norm_num)

/-- No product of two words overflows, whatever they are. -/
theorem times_hold {x y : Signed 32} {u v : Int} {b c : Nat} (left : Holds x u b)
    (right : Holds y v c) : Holds (times x y) (u * v) (b * c) := by
  have product := (wide_holds left).mul (wide_holds right) (by norm_num)
  obtain ⟨lower, upper⟩ := left.mul_bounds right
  exact ⟨product.word, lower, upper⟩

theorem sum_holds {t0 t1 t2 t3 t4 : Signed 64} {v0 v1 v2 v3 v4 : Int} {b0 b1 b2 b3 b4 : Nat}
    (h0 : Holds t0 v0 b0) (h1 : Holds t1 v1 b1) (h2 : Holds t2 v2 b2) (h3 : Holds t3 v3 b3)
    (h4 : Holds t4 v4 b4) (fits : b0 + b1 + b2 + b3 + b4 < 2 ^ 63) :
    Holds (t0 + t1 + t2 + t3 + t4) (v0 + v1 + v2 + v3 + v4) (b0 + b1 + b2 + b3 + b4) :=
  (((h0.add h1 (by omega)).add h2 (by omega)).add h3 (by omega)).add h4 fits

theorem each {P : Fin 10 → Prop} (all : ∀ i, P i) :
    P 0 ∧ P 1 ∧ P 2 ∧ P 3 ∧ P 4 ∧ P 5 ∧ P 6 ∧ P 7 ∧ P 8 ∧ P 9 :=
  ⟨all 0, all 1, all 2, all 3, all 4, all 5, all 6, all 7, all 8, all 9⟩

theorem product_rows (u v : Fin 10 → Int) : scale.product u v =
    ![u 0 * v 0 + 2 * u 1 * (19 * v 9) + u 2 * (19 * v 8) + 2 * u 3 * (19 * v 7) +
        u 4 * (19 * v 6) + 2 * u 5 * (19 * v 5) + u 6 * (19 * v 4) + 2 * u 7 * (19 * v 3) +
        u 8 * (19 * v 2) + 2 * u 9 * (19 * v 1),
      u 0 * v 1 + u 1 * v 0 + u 2 * (19 * v 9) + u 3 * (19 * v 8) + u 4 * (19 * v 7) +
        u 5 * (19 * v 6) + u 6 * (19 * v 5) + u 7 * (19 * v 4) + u 8 * (19 * v 3) +
        u 9 * (19 * v 2),
      u 0 * v 2 + 2 * u 1 * v 1 + u 2 * v 0 + 2 * u 3 * (19 * v 9) + u 4 * (19 * v 8) +
        2 * u 5 * (19 * v 7) + u 6 * (19 * v 6) + 2 * u 7 * (19 * v 5) + u 8 * (19 * v 4) +
        2 * u 9 * (19 * v 3),
      u 0 * v 3 + u 1 * v 2 + u 2 * v 1 + u 3 * v 0 + u 4 * (19 * v 9) + u 5 * (19 * v 8) +
        u 6 * (19 * v 7) + u 7 * (19 * v 6) + u 8 * (19 * v 5) + u 9 * (19 * v 4),
      u 0 * v 4 + 2 * u 1 * v 3 + u 2 * v 2 + 2 * u 3 * v 1 + u 4 * v 0 +
        2 * u 5 * (19 * v 9) + u 6 * (19 * v 8) + 2 * u 7 * (19 * v 7) + u 8 * (19 * v 6) +
        2 * u 9 * (19 * v 5),
      u 0 * v 5 + u 1 * v 4 + u 2 * v 3 + u 3 * v 2 + u 4 * v 1 + u 5 * v 0 +
        u 6 * (19 * v 9) + u 7 * (19 * v 8) + u 8 * (19 * v 7) + u 9 * (19 * v 6),
      u 0 * v 6 + 2 * u 1 * v 5 + u 2 * v 4 + 2 * u 3 * v 3 + u 4 * v 2 + 2 * u 5 * v 1 +
        u 6 * v 0 + 2 * u 7 * (19 * v 9) + u 8 * (19 * v 8) + 2 * u 9 * (19 * v 7),
      u 0 * v 7 + u 1 * v 6 + u 2 * v 5 + u 3 * v 4 + u 4 * v 3 + u 5 * v 2 + u 6 * v 1 +
        u 7 * v 0 + u 8 * (19 * v 9) + u 9 * (19 * v 8),
      u 0 * v 8 + 2 * u 1 * v 7 + u 2 * v 6 + 2 * u 3 * v 5 + u 4 * v 4 + 2 * u 5 * v 3 +
        u 6 * v 2 + 2 * u 7 * v 1 + u 8 * v 0 + 2 * u 9 * (19 * v 9),
      u 0 * v 9 + u 1 * v 8 + u 2 * v 7 + u 3 * v 6 + u 4 * v 5 + u 5 * v 4 + u 6 * v 3 +
        u 7 * v 2 + u 8 * v 1 + u 9 * v 0] := by
  refine funext (ten ?_ ?_ ?_ ?_ ?_ ?_ ?_ ?_ ?_ ?_) <;>
    (simp [Scale.product, Limbs.product, Fin.sum_univ_succ, Scale.factor, scale, -zero_sub]; ring)

section

variable {f g : Fe25519} {u v : Fin 10 → Int} (left : ∀ i, Holds (f i) (u i) (loose i))
  (right : ∀ i, Holds (g i) (v i) (loose i)) (k : Fin 10)

include left right in
theorem products_hold : Holds (products f g k) (scale.product u v k) (2 ^ 61) := by
  rw [product_rows]
  obtain ⟨f0, f1, f2, f3, f4, f5, f6, f7, f8, f9⟩ := each left
  obtain ⟨-, f1_2, -, f3_2, -, f5_2, -, f7_2, -, f9_2⟩ := each fun i =>
    (Holds.literal 2 (by norm_num)).mul (left i) (by revert i; decide)
  obtain ⟨g0, g1, g2, g3, g4, g5, g6, g7, g8, g9⟩ := each right
  obtain ⟨-, g1_19, g2_19, g3_19, g4_19, g5_19, g6_19, g7_19, g8_19, g9_19⟩ := each fun i =>
    (Holds.literal 19 (by norm_num)).mul (right i) (by revert i; decide)
  -- every sum has ten products, each of one word from `f` and one from `g`
  revert k
  refine ten ?_ ?_ ?_ ?_ ?_ ?_ ?_ ?_ ?_ ?_ <;>
    exact ((((((sum_holds (times_hold ‹_› ‹_›) (times_hold ‹_› ‹_›) (times_hold ‹_› ‹_›)
      (times_hold ‹_› ‹_›) (times_hold ‹_› ‹_›) (by decide)).add
      (times_hold ‹_› ‹_›) (by decide)).add (times_hold ‹_› ‹_›) (by decide)).add
      (times_hold ‹_› ‹_›) (by decide)).add (times_hold ‹_› ‹_›) (by decide)).add
      (times_hold ‹_› ‹_›) (by decide)).mono (by decide)

include left in
theorem squares_hold : Holds (squares f k) (scale.product u u k) (2 ^ 61) := by
  have rows : scale.product u u =
      ![u 0 * u 0 + 2 * u 1 * (38 * u 9) + 2 * u 2 * (19 * u 8) + 2 * u 3 * (38 * u 7) +
          2 * u 4 * (19 * u 6) + u 5 * (38 * u 5),
        2 * u 0 * u 1 + u 2 * (38 * u 9) + 2 * u 3 * (19 * u 8) + u 4 * (38 * u 7) +
          2 * u 5 * (19 * u 6),
        2 * u 0 * u 2 + 2 * u 1 * u 1 + 2 * u 3 * (38 * u 9) + 2 * u 4 * (19 * u 8) +
          2 * u 5 * (38 * u 7) + u 6 * (19 * u 6),
        2 * u 0 * u 3 + 2 * u 1 * u 2 + u 4 * (38 * u 9) + 2 * u 5 * (19 * u 8) +
          u 6 * (38 * u 7),
        2 * u 0 * u 4 + 2 * u 1 * (2 * u 3) + u 2 * u 2 + 2 * u 5 * (38 * u 9) +
          2 * u 6 * (19 * u 8) + u 7 * (38 * u 7),
        2 * u 0 * u 5 + 2 * u 1 * u 4 + 2 * u 2 * u 3 + u 6 * (38 * u 9) +
          2 * u 7 * (19 * u 8),
        2 * u 0 * u 6 + 2 * u 1 * (2 * u 5) + 2 * u 2 * u 4 + 2 * u 3 * u 3 +
          2 * u 7 * (38 * u 9) + u 8 * (19 * u 8),
        2 * u 0 * u 7 + 2 * u 1 * u 6 + 2 * u 2 * u 5 + 2 * u 3 * u 4 + u 8 * (38 * u 9),
        2 * u 0 * u 8 + 2 * u 1 * (2 * u 7) + 2 * u 2 * u 6 + 2 * u 3 * (2 * u 5) +
          u 4 * u 4 + u 9 * (38 * u 9),
        2 * u 0 * u 9 + 2 * u 1 * u 8 + 2 * u 2 * u 7 + 2 * u 3 * u 6 + 2 * u 4 * u 5] := by
    rw [product_rows]
    refine funext (ten ?_ ?_ ?_ ?_ ?_ ?_ ?_ ?_ ?_ ?_) <;> (simp; ring)
  rw [rows]
  obtain ⟨f0, f1, f2, f3, f4, f5, f6, f7, f8, f9⟩ := each left
  obtain ⟨f0_2, f1_2, f2_2, f3_2, f4_2, f5_2, f6_2, f7_2, -, -⟩ := each fun i =>
    (Holds.literal 2 (by norm_num)).mul (left i) (by revert i; decide)
  obtain ⟨-, -, -, -, -, -, f6_19, -, f8_19, -⟩ := each fun i =>
    (Holds.literal 19 (by norm_num)).mul (left i) (by revert i; decide)
  have f5_38 := (Holds.literal 38 (by norm_num)).mul f5 (by decide)
  have f7_38 := (Holds.literal 38 (by norm_num)).mul f7 (by decide)
  have f9_38 := (Holds.literal 38 (by norm_num)).mul f9 (by decide)
  -- six products on even places, where squares fall, and five on odd ones
  revert k
  refine ten ?_ ?_ ?_ ?_ ?_ ?_ ?_ ?_ ?_ ?_
  case refine_1 | refine_3 | refine_5 | refine_7 | refine_9 =>
    exact ((sum_holds (times_hold ‹_› ‹_›) (times_hold ‹_› ‹_›) (times_hold ‹_› ‹_›)
      (times_hold ‹_› ‹_›) (times_hold ‹_› ‹_›) (by decide)).add (times_hold ‹_› ‹_›)
      (by decide)).mono (by decide)
  case refine_2 | refine_4 | refine_6 | refine_8 | refine_10 =>
    exact (sum_holds (times_hold ‹_› ‹_›) (times_hold ‹_› ‹_›) (times_hold ‹_› ‹_›)
      (times_hold ‹_› ‹_›) (times_hold ‹_› ‹_›) (by decide)).mono (by decide)

end

/-! ## The operations -/

/-- An element with limbs up to bounds, none of them undefined, and what it stands for. -/
def Represents (b : Fin 10 → Nat) (f : Fe25519) (x : Field) : Prop :=
  ∃ v, (∀ i, Holds (f i) (v i) (b i)) ∧ scale.value v = x

variable {f g : Fe25519} {x y : Field}

theorem reduce_represents {r : Fin 10 → Signed 64} {v : Fin 10 → Int}
    (sums : ∀ k, Holds (r k) (v k) (2 ^ 62)) : Represents carried (reduce r) (scale.value v) := by
  obtain ⟨v', same, settled⟩ := carries_hold takes_unsigned _ (fun k => (sums k).mono (by norm_num))
    reduce_range
  exact ⟨v', fun i => ((settled i).mono (reduce_bound i)).cast 32 (by revert i; decide), same⟩

theorem mul_represents (left : Represents loose f x) (right : Represents loose g y) :
    Represents carried (mul f g) (x * y) := by
  obtain ⟨u, left, rfl⟩ := left
  obtain ⟨v, right, rfl⟩ := right
  rw [← scale.value_product]
  exact reduce_represents fun k => (products_hold left right k).mono (by norm_num)

/-- The sums of the squaring are those of the product word for word. -/
theorem squares_eq (operand : Represents loose f x) : squares f = products f f := by
  obtain ⟨u, limbs, -⟩ := operand
  exact funext fun k => (squares_hold limbs k).unique (products_hold limbs limbs k)

theorem sq_eq_mul (operand : Represents loose f x) : sq f = mul f f := by
  rw [sq, mul, squares_eq operand]

theorem sq2_represents (operand : Represents loose f x) :
    Represents carried (sq2 f) (2 * x ^ 2) := by
  obtain ⟨u, limbs, rfl⟩ := operand
  have sums := fun k => (squares_hold limbs k).add (squares_hold limbs k) (by norm_num)
  have result := reduce_represents sums
  rw [scale.value_add, scale.value_product] at result
  rw [pow_two, two_mul]
  exact result

/-- The carries here are fewer, so that the factor must be small. -/
theorem scalarProduct_represents (operand : Represents loose f x) {n : BitVec 32}
    (small : n.toNat ≤ 2 ^ 19) : Represents tight (scalarProduct f n) (n.toNat * x) := by
  obtain ⟨u, limbs, rfl⟩ := operand
  have sn : Holds (Signed.checked n.toNat : Signed 64) n.toNat (2 ^ 19) :=
    Signed.holds_checked (by omega) (by exact_mod_cast small) (by norm_num)
  have sums := fun k => ((limbs k).cast 64 (by revert k; decide)).mul sn
    (by revert k; decide)
  obtain ⟨v', same, settled⟩ := carries_hold takes_signed [9, 1, 3, 5, 7, 0, 2, 4, 6, 8] sums
    (by decide +kernel)
  have bound : ∀ i, [9, 1, 3, 5, 7, 0, 2, 4, 6, 8].foldl bounded (fun k => loose k * 2 ^ 19) i ≤
      tight i := by
    decide +kernel
  refine ⟨v', fun i => ((settled i).mono (bound i)).cast 32 (by revert i; decide), ?_⟩
  simp only [same, mul_comm _ (n.toNat : Int)]
  rw [scale.value_mul, Int.cast_natCast]

variable {b c : Fin 10 → Nat}

theorem add_represents (left : Represents b f x) (right : Represents c g y)
    (fits : ∀ i, b i + c i < 2 ^ 31) : Represents (fun i => b i + c i) (add f g) (x + y) := by
  obtain ⟨u, left, rfl⟩ := left
  obtain ⟨v, right, rfl⟩ := right
  exact ⟨fun i => u i + v i, fun i => (left i).add (right i) (fits i), scale.value_add u v⟩

theorem sub_represents (left : Represents b f x) (right : Represents c g y)
    (fits : ∀ i, b i + c i < 2 ^ 31) : Represents (fun i => b i + c i) (sub f g) (x - y) := by
  obtain ⟨u, left, rfl⟩ := left
  obtain ⟨v, right, rfl⟩ := right
  exact ⟨fun i => u i - v i, fun i => (left i).sub (right i) (fits i), scale.value_sub u v⟩

theorem neg_represents (operand : Represents b f x) (fits : ∀ i, b i < 2 ^ 31) :
    Represents b (neg f) (-x) := by
  obtain ⟨u, limbs, rfl⟩ := operand
  exact ⟨fun i => -u i, fun i => (limbs i).neg (fits i), scale.value_neg u⟩

theorem Represents.mono (operand : Represents b f x) (le : ∀ i, b i ≤ c i) : Represents c f x := by
  obtain ⟨u, limbs, same⟩ := operand
  exact ⟨u, fun i => (limbs i).mono (le i), same⟩

theorem documented_sums (left : Represents tight f x) (right : Represents tight g y) :
    Represents (alternate 73819750 36909875) (add f g) (x + y) ∧
      Represents (alternate 73819750 36909875) (sub f g) (x - y) ∧
      Represents tight (neg f) (-x) :=
  ⟨(add_represents left right (by decide)).mono (by decide),
    (sub_represents left right (by decide)).mono (by decide), neg_represents left (by decide)⟩

theorem zero_represents : Represents tight zero 0 := by
  refine ⟨fun _ => 0, fun i => ?_, ?_⟩
  · exact (Holds.literal 0 (by norm_num)).mono (Nat.zero_le _)
  · exact scale.value_zero

theorem one_represents : Represents tight one 1 := by
  refine ⟨![1, 0, 0, 0, 0, 0, 0, 0, 0, 0], ?_, ?_⟩
  · refine ten ?_ ?_ ?_ ?_ ?_ ?_ ?_ ?_ ?_ ?_ <;>
      exact (Holds.literal _ (by norm_num)).mono (by decide)
  · simp [Scale.value, Limbs.value, Fin.sum_univ_succ, Scale.weight, scale]

theorem ten_limbs_multiply (left : Represents loose f x) (right : Represents loose g y) :
    Represents carried (mul f g) (x * y) ∧ sq f = mul f f ∧
      Represents carried (sq2 f) (2 * x ^ 2) :=
  ⟨mul_represents left right, sq_eq_mul left, sq2_represents left⟩

theorem ten_limbs_multiply_largest :
    let f : Fe25519 := fun i => Signed.checked (loose i)
    let x := scale.value fun i => loose i
    Represents carried (mul f f) (x * x) ∧ sq f = mul f f ∧
      Represents carried (sq2 f) (2 * x ^ 2) := by
  have largest : Represents loose (fun i => Signed.checked (loose i))
      (scale.value fun i => loose i) :=
    ⟨fun i => loose i, fun i => Signed.holds_checked (by omega) le_rfl (by revert i; decide), rfl⟩
  exact ten_limbs_multiply largest largest

/-! ## Choices -/

section

variable (left : Represents b f x) (right : Represents c g y)

include left right

theorem cmov_eq : cmov f g 0 = f ∧ cmov f g 1 = g := by
  obtain ⟨u, left, -⟩ := left
  obtain ⟨v, right, -⟩ := right
  have masks : cmovMask 0 = Signed.ofBits 0 ∧ cmovMask 1 = Signed.ofBits (BitVec.allOnes 32) := by
    decide
  constructor
  · funext i
    rw [cmov, masks.1]
    exact (left i).masked_none (right i)
  · funext i
    rw [cmov, masks.2]
    exact (left i).masked_all (right i)

theorem cswap_eq : cswap f g 0 = (f, g) ∧ cswap f g 1 = (g, f) := by
  obtain ⟨u, left, -⟩ := left
  obtain ⟨v, right, -⟩ := right
  have masks : cswapMask 0 = Signed.ofBits 0 ∧ cswapMask 1 = Signed.ofBits (BitVec.allOnes 32) := by
    decide
  constructor
  · refine Prod.ext (funext fun i => ?_) (funext fun i => ?_)
    · simp only [cswap, masks.1]
      exact (left i).masked_none (right i)
    · simp only [cswap, masks.1, Signed.xor_comm (f i)]
      exact (right i).masked_none (left i)
  · refine Prod.ext (funext fun i => ?_) (funext fun i => ?_)
    · simp only [cswap, masks.2]
      exact (left i).masked_all (right i)
    · simp only [cswap, masks.2, Signed.xor_comm (f i)]
      exact (right i).masked_all (left i)

end

end BlockSigner.Ed25519.Fe25
