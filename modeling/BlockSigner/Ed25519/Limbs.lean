import Mathlib.Algebra.BigOperators.Fin
import Mathlib.Algebra.Group.Fin.Basic
import Mathlib.Tactic.Ring

/-! # Numbers in limbs

A number is a weighted sum of limbs. The limbs need not be small, and the weights
are those of any ring in which the weight after the last one is a multiple of the
first again, so that a carry out of the last limb comes back in at the first.
-/

namespace Limbs

variable {R : Type*} [CommRing R] {n : Nat}

def value (weight : Fin n → R) (limbs : Fin n → Int) : R := ∑ i, weight i * (limbs i : R)

variable (weight : Fin n → R)

/-! ## Limb by limb -/

theorem value_add (f g : Fin n → Int) :
    value weight (fun i => f i + g i) = value weight f + value weight g := by
  simp only [value, Int.cast_add, mul_add, Finset.sum_add_distrib]

theorem value_sub (f g : Fin n → Int) :
    value weight (fun i => f i - g i) = value weight f - value weight g := by
  simp only [value, Int.cast_sub, mul_sub, Finset.sum_sub_distrib]

theorem value_neg (f : Fin n → Int) : value weight (fun i => -f i) = -value weight f := by
  simp only [value, Int.cast_neg, mul_neg, Finset.sum_neg_distrib]

theorem value_mul (c : Int) (f : Fin n → Int) :
    value weight (fun i => c * f i) = c * value weight f := by
  simp only [value, Int.cast_mul, Finset.mul_sum]
  exact Finset.sum_congr rfl fun i _ => mul_left_comm _ _ _

/-! ## Products -/

variable [NeZero n]

/-- Schoolbook multiplication. A product of two limbs goes to the limb of the sum
    of their places, around the end, with the factor by which the weights differ. -/
def product (factor : Fin n → Fin n → Int) (f g : Fin n → Int) (k : Fin n) : Int :=
  ∑ i, factor i (k - i) * (f i * g (k - i))

theorem value_product {factor : Fin n → Fin n → Int}
    (radix : ∀ i j, (factor i j : R) * weight (i + j) = weight i * weight j) (f g : Fin n → Int) :
    value weight (product factor f g) = value weight f * value weight g := by
  have term : ∀ i j : Fin n, weight (i + j) * ((factor i j * (f i * g j) : Int) : R) =
      weight i * (f i : R) * (weight j * (g j : R)) := by
    intro i j
    calc weight (i + j) * ((factor i j * (f i * g j) : Int) : R)
        = (factor i j : R) * weight (i + j) * ((f i : R) * g j) := by push_cast; ring
      _ = weight i * (f i : R) * (weight j * (g j : R)) := by rw [radix]; ring
  calc value weight (product factor f g)
      = ∑ k, ∑ i, weight k * ((factor i (k - i) * (f i * g (k - i)) : Int) : R) := by
        simp only [value, product, Int.cast_sum, Finset.mul_sum]
    _ = ∑ i, ∑ k, weight k * ((factor i (k - i) * (f i * g (k - i)) : Int) : R) := Finset.sum_comm
    _ = ∑ i, ∑ j, weight (i + j) * ((factor i j * (f i * g j) : Int) : R) := by
        refine Finset.sum_congr rfl fun i _ => ?_
        rw [← Equiv.sum_comp (Equiv.addLeft i)]
        simp only [Equiv.coe_addLeft, add_sub_cancel_left]
    _ = value weight f * value weight g := by
        simp only [term, value, Finset.sum_mul_sum]

/-! ## Carries -/

/-- A carry of `q` out of limb `i` takes `size i` off it for each unit and brings
    `fold i` to the next. -/
def move (size fold : Fin n → Int) (q : Int) (i : Fin n) (h : Fin n → Int) (k : Fin n) : Int :=
  h k + (if k = i + 1 then q * fold i else 0) - (if k = i then q * size i else 0)

theorem value_move {size fold : Fin n → Int} {i : Fin n}
    (step : (size i : R) * weight i = fold i * weight (i + 1)) (q : Int) (h : Fin n → Int) :
    value weight (move size fold q i h) = value weight h := by
  have split : value weight (move size fold q i h) = value weight h +
      weight (i + 1) * ((q * fold i : Int) : R) - weight i * ((q * size i : Int) : R) := by
    simp only [value, move, Int.cast_sub, Int.cast_add, mul_sub, mul_add, Finset.sum_sub_distrib,
      Finset.sum_add_distrib, Int.cast_ite, Int.cast_zero, mul_ite, mul_zero, Finset.sum_ite_eq',
      Finset.mem_univ, if_true]
  rw [split]
  push_cast
  calc value weight h + weight (i + 1) * (q * fold i) - weight i * (q * size i)
      = value weight h + q * (fold i * weight (i + 1) - size i * weight i) := by ring
    _ = value weight h := by rw [step]; ring

end Limbs
