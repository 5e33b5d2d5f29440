import BlockSigner.Ed25519.Fe25
import BlockSigner.Ed25519.Fe51

/-! # Runs of calls to the field functions

A caller sees neither the limbs nor how many there are: it calls the functions of
whichever header the build has, and may overlap results with operands. Each
element weighs as many carried elements as were added up in it, and a call is
safe while no operand weighs more than three. A run of safe calls computes with
either header what the same calls compute in the field.
-/

namespace BlockSigner.Ed25519

/-- The functions of a header, or what they stand for. -/
structure Header (F : Type) where
  zero : F
  one : F
  add : F → F → F
  sub : F → F → F
  neg : F → F
  cmov : F → F → BitVec 32 → F
  cswap : F → F → BitVec 32 → F × F
  mul : F → F → F
  sq : F → F
  sq2 : F → F
  scalarProduct : F → BitVec 32 → F

def fe51 : Header Fe51.Fe25519 where
  zero := Fe51.zero
  one := Fe51.one
  add := Fe51.add
  sub := Fe51.sub
  neg := Fe51.neg
  cmov := Fe51.cmov
  cswap := Fe51.cswap
  mul := Fe51.mul
  sq := Fe51.sq
  sq2 := Fe51.sq2
  scalarProduct := Fe51.scalarProduct

def fe25 : Header Fe25.Fe25519 where
  zero := Fe25.zero
  one := Fe25.one
  add := Fe25.add
  sub := Fe25.sub
  neg := Fe25.neg
  cmov := Fe25.cmov
  cswap := Fe25.cswap
  mul := Fe25.mul
  sq := Fe25.sq
  sq2 := Fe25.sq2
  scalarProduct := Fe25.scalarProduct

def field : Header Field where
  zero := 0
  one := 1
  add x y := x + y
  sub x y := x - y
  neg x := -x
  cmov x y b := if b = 0 then x else y
  cswap x y b := if b = 0 then (x, y) else (y, x)
  mul x y := x * y
  sq x := x ^ 2
  sq2 x := x ^ 2 + x ^ 2
  scalarProduct x n := n.toNat * x

/-- A call, with the variables that take its results in front. -/
inductive Call (V : Type) : Type where
  | zero (h : V)
  | one (h : V)
  | copy (h f : V)
  | add (h f g : V)
  | sub (h f g : V)
  | neg (h f : V)
  | cmov (f g : V) (b : BitVec 32)
  | cswap (f g : V) (b : BitVec 32)
  | mul (h f g : V)
  | sq (h f : V)
  | sq2 (h f : V)
  | scalarProduct (h f : V) (n : BitVec 32)

variable {V F : Type} [DecidableEq V]

open Function (update)

def perform (header : Header F) (store : V → F) : Call V → V → F
  | .zero h => update store h header.zero
  | .one h => update store h header.one
  | .copy h f => update store h (store f)
  | .add h f g => update store h (header.add (store f) (store g))
  | .sub h f g => update store h (header.sub (store f) (store g))
  | .neg h f => update store h (header.neg (store f))
  | .cmov f g b => update store f (header.cmov (store f) (store g) b)
  | .cswap f g b =>
      update (update store f (header.cswap (store f) (store g) b).1) g
        (header.cswap (store f) (store g) b).2
  | .mul h f g => update store h (header.mul (store f) (store g))
  | .sq h f => update store h (header.sq (store f))
  | .sq2 h f => update store h (header.sq2 (store f))
  | .scalarProduct h f n => update store h (header.scalarProduct (store f) n)

def run (header : Header F) (store : V → F) (calls : List (Call V)) : V → F :=
  calls.foldl (perform header) store

/-! ## Weights -/

/-- A weight that an operand may have. -/
def light (w : Nat) : Option Nat := if w ≤ 3 then some w else none

/-- What the variables weigh after a call, unless the call is not safe. A variable
    of no weight may hold anything. -/
def weigh (weights : V → Option Nat) : Call V → Option (V → Option Nat)
  | .zero h => some (update weights h (some 1))
  | .one h => some (update weights h (some 1))
  | .copy h f => (weights f).map fun a => update weights h (some a)
  | .add h f g =>
      (weights f).bind fun a => (weights g).bind fun b =>
        (light (a + b)).map fun c => update weights h (some c)
  | .sub h f g =>
      (weights f).bind fun a => (weights g).bind fun b =>
        (light (a + max 1 b)).map fun c => update weights h (some c)
  | .neg h f => (weights f).bind fun a => (light (max 1 a)).map fun c => update weights h (some c)
  | .cmov f g b =>
      (weights f).bind fun a => (weights g).bind fun a' =>
        if b ≤ 1 then some (update weights f (some (max a a'))) else none
  | .cswap f g b =>
      (weights f).bind fun a => (weights g).bind fun a' =>
        if b ≤ 1 then
          some (update (update weights f (some (max a a'))) g (some (max a a')))
        else none
  | .mul h f g =>
      ((weights f).bind light).bind fun _ => ((weights g).bind light).map fun _ =>
        update weights h (some 1)
  | .sq h f => ((weights f).bind light).map fun _ => update weights h (some 1)
  | .sq2 h f => ((weights f).bind light).map fun _ => update weights h (some 1)
  | .scalarProduct h f n =>
      ((weights f).bind light).bind fun _ =>
        if n.toNat ≤ 2 ^ 19 then some (update weights h (some 1)) else none

def weighAll (weights : V → Option Nat) : List (Call V) → Option (V → Option Nat)
  | [] => some weights
  | call :: calls => (weigh weights call).bind fun weights => weighAll weights calls

/-! ## Runs -/

/-- That the functions of a header compute in the field, by what the elements weigh. -/
structure Faithful (header : Header F) (represents : Nat → F → Field → Prop) : Prop where
  mono : ∀ {a b f x}, a ≤ b → represents a f x → represents b f x
  zero : represents 1 header.zero 0
  one : represents 1 header.one 1
  add : ∀ {a b f g x y}, represents a f x → represents b g y → a + b ≤ 3 →
    represents (a + b) (header.add f g) (x + y)
  sub : ∀ {a b f g x y}, represents a f x → represents b g y → a + max 1 b ≤ 3 →
    represents (a + max 1 b) (header.sub f g) (x - y)
  neg : ∀ {a f x}, represents a f x → max 1 a ≤ 3 → represents (max 1 a) (header.neg f) (-x)
  cmov : ∀ {a b f g x y}, represents a f x → represents b g y →
    header.cmov f g 0 = f ∧ header.cmov f g 1 = g
  cswap : ∀ {a b f g x y}, represents a f x → represents b g y →
    header.cswap f g 0 = (f, g) ∧ header.cswap f g 1 = (g, f)
  mul : ∀ {f g x y}, represents 3 f x → represents 3 g y → represents 1 (header.mul f g) (x * y)
  sq : ∀ {f x}, represents 3 f x → represents 1 (header.sq f) (x ^ 2)
  sq2 : ∀ {f x}, represents 3 f x → represents 1 (header.sq2 f) (x ^ 2 + x ^ 2)
  scalarProduct : ∀ {f x n}, represents 3 f x → n.toNat ≤ 2 ^ 19 →
    represents 1 (header.scalarProduct f n) (n.toNat * x)

/-- Every variable that has a weight represents its value. -/
def Agrees (represents : Nat → F → Field → Prop) (weights : V → Option Nat) (store : V → F)
    (values : V → Field) : Prop :=
  ∀ v w, weights v = some w → represents w (store v) (values v)

section

variable {represents : Nat → F → Field → Prop} {weights weights' : V → Option Nat} {store : V → F}
  {values : V → Field} {v : V} {w : Nat} {f : F} {x : Field}

theorem Agrees.update (agrees : Agrees represents weights store values) (new : represents w f x) :
    Agrees represents (Function.update weights v (some w)) (Function.update store v f)
      (Function.update values v x) := by
  intro u w' known
  by_cases same : u = v
  · subst same
    rw [Function.update_self] at known
    cases known
    rw [Function.update_self, Function.update_self]
    exact new
  · rw [Function.update_of_ne same] at known
    rw [Function.update_of_ne same, Function.update_of_ne same]
    exact agrees u w' known

theorem light_eq_some {a b : Nat} : light a = some b ↔ a ≤ 3 ∧ a = b := by
  unfold light
  split <;> simp_all

theorem bit_cases {b : BitVec 32} (bit : b ≤ 1) : b = 0 ∨ b = 1 := by
  have small : b.toNat ≤ 1 := bit
  rcases Nat.le_one_iff_eq_zero_or_eq_one.mp small with none | all
  · exact .inl (BitVec.eq_of_toNat_eq none)
  · exact .inr (BitVec.eq_of_toNat_eq all)

theorem Faithful.perform {header : Header F} (faithful : Faithful header represents)
    (agrees : Agrees represents weights store values) {call : Call V}
    (safe : weigh weights call = some weights') :
    Agrees represents weights' (perform header store call) (perform field values call) := by
  cases call with
  | zero h =>
      cases safe
      exact agrees.update faithful.zero
  | one h =>
      cases safe
      exact agrees.update faithful.one
  | copy h f =>
      simp only [weigh, Option.map_eq_some_iff] at safe
      obtain ⟨a, operand, rfl⟩ := safe
      exact agrees.update (agrees f a operand)
  | add h f g =>
      simp only [weigh, Option.bind_eq_some_iff, Option.map_eq_some_iff, light_eq_some] at safe
      obtain ⟨a, left, b, right, c, ⟨fits, rfl⟩, rfl⟩ := safe
      exact agrees.update (faithful.add (agrees f a left) (agrees g b right) fits)
  | sub h f g =>
      simp only [weigh, Option.bind_eq_some_iff, Option.map_eq_some_iff, light_eq_some] at safe
      obtain ⟨a, left, b, right, c, ⟨fits, rfl⟩, rfl⟩ := safe
      exact agrees.update (faithful.sub (agrees f a left) (agrees g b right) fits)
  | neg h f =>
      simp only [weigh, Option.bind_eq_some_iff, Option.map_eq_some_iff, light_eq_some] at safe
      obtain ⟨a, operand, c, ⟨fits, rfl⟩, rfl⟩ := safe
      exact agrees.update (faithful.neg (agrees f a operand) fits)
  | cmov f g b =>
      simp only [weigh, Option.bind_eq_some_iff, Option.ite_none_right_eq_some, Option.some.injEq]
        at safe
      obtain ⟨a, left, a', right, bit, rfl⟩ := safe
      have choices := faithful.cmov (agrees f a left) (agrees g a' right)
      refine agrees.update ?_
      rcases bit_cases bit with rfl | rfl
      · rw [choices.1]
        exact faithful.mono (le_max_left a a') (agrees f a left)
      · rw [choices.2]
        exact faithful.mono (le_max_right a a') (agrees g a' right)
  | cswap f g b =>
      simp only [weigh, Option.bind_eq_some_iff, Option.ite_none_right_eq_some, Option.some.injEq]
        at safe
      obtain ⟨a, left, a', right, bit, rfl⟩ := safe
      have choices := faithful.cswap (agrees f a left) (agrees g a' right)
      have left' := faithful.mono (le_max_left a a') (agrees f a left)
      have right' := faithful.mono (le_max_right a a') (agrees g a' right)
      refine (agrees.update ?_).update ?_
      · rcases bit_cases bit with rfl | rfl
        · rw [choices.1]
          exact left'
        · rw [choices.2]
          exact right'
      · rcases bit_cases bit with rfl | rfl
        · rw [choices.1]
          exact right'
        · rw [choices.2]
          exact left'
  | mul h f g =>
      simp only [weigh, Option.bind_eq_some_iff, Option.map_eq_some_iff, light_eq_some] at safe
      obtain ⟨a, ⟨a, left, small, rfl⟩, b, ⟨b, right, small', rfl⟩, rfl⟩ := safe
      exact agrees.update (faithful.mul (faithful.mono small (agrees f a left))
        (faithful.mono small' (agrees g b right)))
  | sq h f =>
      simp only [weigh, Option.bind_eq_some_iff, Option.map_eq_some_iff, light_eq_some] at safe
      obtain ⟨a, ⟨a, operand, small, rfl⟩, rfl⟩ := safe
      exact agrees.update (faithful.sq (faithful.mono small (agrees f a operand)))
  | sq2 h f =>
      simp only [weigh, Option.bind_eq_some_iff, Option.map_eq_some_iff, light_eq_some] at safe
      obtain ⟨a, ⟨a, operand, small, rfl⟩, rfl⟩ := safe
      exact agrees.update (faithful.sq2 (faithful.mono small (agrees f a operand)))
  | scalarProduct h f n =>
      simp only [weigh, Option.bind_eq_some_iff, Option.ite_none_right_eq_some, Option.some.injEq,
        light_eq_some] at safe
      obtain ⟨a, ⟨a, operand, small, rfl⟩, bounded, rfl⟩ := safe
      have operand' := faithful.mono small (agrees f a operand)
      exact agrees.update (faithful.scalarProduct operand' bounded)

theorem Faithful.run {header : Header F} (faithful : Faithful header represents)
    (agrees : Agrees represents weights store values) {calls : List (Call V)}
    (safe : weighAll weights calls = some weights') :
    Agrees represents weights' (run header store calls) (run field values calls) := by
  induction calls generalizing weights store values with
  | nil =>
      cases safe
      exact agrees
  | cons call calls ih =>
      obtain ⟨weights₁, first, rest⟩ := Option.bind_eq_some_iff.mp safe
      exact ih (faithful.perform agrees first) rest

end

/-! ## The two builds -/

def represents51 (w : Nat) (f : Fe51.Fe25519) (x : Field) : Prop := Fe51.Represents (w * 2 ^ 52) f x

def represents25 (w : Nat) (f : Fe25.Fe25519) (x : Field) : Prop :=
  Fe25.Represents (fun i => w * Fe25.tight i) f x

theorem fe51_faithful : Faithful fe51 represents51 where
  mono le operand := operand.mono (Nat.mul_le_mul_right _ le)
  zero := Fe51.zero_represents.mono (by omega)
  one := Fe51.one_represents.mono (by omega)
  add left right light := by
    have sum := Fe51.add_represents left right (by omega)
    exact sum.mono (by omega)
  sub left right light := by
    have difference := Fe51.sub_represents left right (by omega) (by omega)
    exact difference.mono (by omega)
  neg operand light := (Fe51.neg_represents operand (by omega)).mono (by omega)
  cmov {_ _ f g _ _} _ _ := Fe51.cmov_eq f g
  cswap {_ _ f g _ _} _ _ := Fe51.cswap_eq f g
  mul left right := (Fe51.mul_represents left right).mono (by decide)
  sq operand := by
    have product := Fe51.mul_represents operand operand
    rw [← Fe51.sq_eq_mul operand.bound, ← pow_two] at product
    exact product.mono (by decide)
  sq2 operand := by
    rw [← two_mul]
    exact (Fe51.sq2_represents operand).mono (by decide)
  scalarProduct {_ _ n} operand _ :=
    (Fe51.scalarProduct_represents (operand.mono (by omega)) n).mono (by omega)

theorem light_fits {w : Nat} (light : w ≤ 3) (i : Fin 10) : w * Fe25.tight i < 2 ^ 31 := by
  have small : ∀ i, 3 * Fe25.tight i < 2 ^ 31 := by decide
  exact (Nat.mul_le_mul_right _ light).trans_lt (small i)

theorem fe25_faithful : Faithful fe25 represents25 where
  mono le operand := operand.mono fun i => Nat.mul_le_mul_right _ le
  zero := Fe25.zero_represents.mono (by omega)
  one := Fe25.one_represents.mono (by omega)
  add {a b _ _ _ _} left right light := by
    have sum := Fe25.add_represents left right fun i => by
      rw [← Nat.add_mul]
      exact light_fits light i
    exact sum.mono fun i => (Nat.add_mul a b _).ge
  sub {a b _ _ _ _} left right light := by
    have right' := right.mono fun i => Nat.mul_le_mul_right _ (le_max_right 1 b)
    have difference := Fe25.sub_represents left right' fun i => by
      rw [← Nat.add_mul]
      exact light_fits light i
    exact difference.mono fun i => (Nat.add_mul a (max 1 b) _).ge
  neg {a _ _} operand light := by
    have operand' := operand.mono fun i => Nat.mul_le_mul_right _ (le_max_right 1 a)
    exact Fe25.neg_represents operand' (light_fits light)
  cmov left right := Fe25.cmov_eq left right
  cswap left right := Fe25.cswap_eq left right
  mul left right :=
    (Fe25.mul_represents (left.mono (by decide)) (right.mono (by decide))).mono (by decide)
  sq operand := by
    have operand' := operand.mono (c := Fe25.loose) (by decide)
    have product := Fe25.mul_represents operand' operand'
    rw [← Fe25.sq_eq_mul operand', ← pow_two] at product
    exact product.mono (by decide)
  sq2 operand := by
    rw [← two_mul]
    exact (Fe25.sq2_represents (operand.mono (by decide))).mono (by decide)
  scalarProduct operand small :=
    (Fe25.scalarProduct_represents (operand.mono (by decide)) small).mono (by omega)

/-- Whatever a caller computes by safe calls, both builds compute it, and neither
    leaves the range of its words on the way. -/
theorem builds_agree {weights weights' : V → Option Nat} {calls : List (Call V)}
    (safe : weighAll weights calls = some weights') {store51 : V → Fe51.Fe25519}
    {store25 : V → Fe25.Fe25519} {values : V → Field}
    (start51 : Agrees represents51 weights store51 values)
    (start25 : Agrees represents25 weights store25 values) :
    Agrees represents51 weights' (run fe51 store51 calls) (run field values calls) ∧
      Agrees represents25 weights' (run fe25 store25 calls) (run field values calls) :=
  ⟨fe51_faithful.run start51 safe, fe25_faithful.run start25 safe⟩

theorem builds_agree_square :
    let calls : List (Call Bool) := [.one true, .add true true true, .sq false true]
    represents51 1 (run fe51 (fun _ => Fe51.zero) calls false) ((1 + 1) ^ 2) ∧
      represents25 1 (run fe25 (fun _ => Fe25.zero) calls false) ((1 + 1) ^ 2) := by
  have result := @builds_agree Bool _ (fun _ => none) _
    [.one true, .add true true true, .sq false true] rfl (fun _ => Fe51.zero) (fun _ => Fe25.zero)
    (fun _ => 0) nofun nofun
  exact ⟨result.1 false 1 rfl, result.2 false 1 rfl⟩

end BlockSigner.Ed25519
