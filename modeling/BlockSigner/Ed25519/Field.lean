import BlockSigner.Ed25519.Limbs
import Mathlib.Data.ZMod.Basic
import Mathlib.Tactic.NormNum

/-! # The field of Ed25519 and its limbs

The two headers write a field element with limbs of 51 bits, or of 26 and 25 bits
by turns. A scale says which power of two every limb counts. What passes the end
comes back nineteen times, as the field is the integers modulo `2 ^ 255 - 19`.
-/

namespace BlockSigner.Ed25519

abbrev Field : Type := ZMod (2 ^ 255 - 19)

theorem two_pow_255 : (2 : Field) ^ 255 = 19 := by
  have zero : ((2 ^ 255 - 19 : Nat) : Field) = 0 := ZMod.natCast_self _
  rw [Nat.cast_sub (by norm_num), Nat.cast_pow] at zero
  exact sub_eq_zero.mp zero

structure Scale (n : Nat) [NeZero n] where
  exponent : Fin n → Nat
  bits : Fin n → Nat
  /-- How much more than their sum the places of two limbs count. -/
  extra : Fin n → Fin n → Nat
  next : ∀ i, exponent i + bits i = exponent (i + 1) + if i.val + 1 < n then 0 else 255
  sum : ∀ i j, exponent i + exponent j =
    exponent (i + j) + (extra i j + if i.val + j.val < n then 0 else 255)

namespace Scale

variable {n : Nat} [NeZero n] (scale : Scale n)

def weight (i : Fin n) : Field := 2 ^ scale.exponent i

def size (i : Fin n) : Int := 2 ^ scale.bits i

def fold (i : Fin n) : Int := if i.val + 1 < n then 1 else 19

def factor (i j : Fin n) : Int := 2 ^ scale.extra i j * if i.val + j.val < n then 1 else 19

def value (limbs : Fin n → Int) : Field := Limbs.value scale.weight limbs

def product (f g : Fin n → Int) : Fin n → Int := Limbs.product scale.factor f g

def move (q : Int) (i : Fin n) (h : Fin n → Int) : Fin n → Int :=
  Limbs.move scale.size fold q i h

theorem value_zero : scale.value (fun _ => 0) = 0 := by
  simp only [value, Limbs.value, Int.cast_zero, mul_zero, Finset.sum_const_zero]

theorem value_add (f g : Fin n → Int) :
    scale.value (fun i => f i + g i) = scale.value f + scale.value g :=
  Limbs.value_add scale.weight f g

theorem value_sub (f g : Fin n → Int) :
    scale.value (fun i => f i - g i) = scale.value f - scale.value g :=
  Limbs.value_sub scale.weight f g

theorem value_neg (f : Fin n → Int) : scale.value (fun i => -f i) = -scale.value f :=
  Limbs.value_neg scale.weight f

theorem value_mul (c : Int) (f : Fin n → Int) :
    scale.value (fun i => c * f i) = c * scale.value f :=
  Limbs.value_mul scale.weight c f

theorem value_product (f g : Fin n → Int) :
    scale.value (scale.product f g) = scale.value f * scale.value g := by
  refine Limbs.value_product scale.weight (fun i j => ?_) f g
  simp only [weight, factor]
  rw [← pow_add, scale.sum, pow_add, pow_add]
  split
  · push_cast
    ring
  · rw [two_pow_255]
    push_cast
    ring

theorem value_move (q : Int) (i : Fin n) (h : Fin n → Int) :
    scale.value (scale.move q i h) = scale.value h := by
  refine Limbs.value_move scale.weight ?_ q h
  simp only [weight, size, fold]
  push_cast
  rw [← pow_add, Nat.add_comm, scale.next, pow_add]
  split
  · ring
  · rw [two_pow_255]
    ring

end Scale

end BlockSigner.Ed25519
