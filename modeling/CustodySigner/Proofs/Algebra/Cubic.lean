import CustodySigner.Proofs.Algebra.Residue
import Mathlib.Tactic.LinearCombination

set_option autoImplicit false
set_option relaxedAutoImplicit false

/-!
Cubics without roots. By Fermat every residue is a root of `x ^ p - x`, so that a cubic has no root if
that polynomial can be inverted modulo the cubic. The inverse is a certificate.
-/

namespace CustodySigner

/-- What is left of a polynomial after its division by `x³ + ax + b`. -/
structure Remainder (p : Nat) where
  constant : Fin p
  linear : Fin p
  square : Fin p
deriving DecidableEq

namespace Remainder

variable {p : Nat}

def multiply (a b : Fin p) (f g : Remainder p) : Remainder p :=
  let cube := f.linear * g.square + f.square * g.linear
  let fourth := f.square * g.square
  ⟨f.constant * g.constant - b * cube,
    f.constant * g.linear + f.linear * g.constant - a * cube - b * fourth,
    f.constant * g.square + f.linear * g.linear + f.square * g.constant - a * fourth⟩

/-- The value of the polynomial for an `x`. -/
def value (f : Remainder p) (x : ZMod p) : ZMod p :=
  toField f.constant + toField f.linear * x + toField f.square * x ^ 2

variable {a b : Fin p} {x : ZMod p}

theorem value_multiply (root : x ^ 3 + toField a * x + toField b = 0) (f g : Remainder p) :
    (multiply a b f g).value x = f.value x * g.value x := by
  simp only [value, multiply, toField_add, toField_sub, toField_mul]
  linear_combination (-(toField f.linear * toField g.square + toField f.square * toField g.linear) -
    toField f.square * toField g.square * x) * root

variable [Modulus p]

def one : Remainder p := ⟨1, 0, 0⟩

@[simp] theorem value_one : (one : Remainder p).value x = 1 := by
  simp [value, one]

/-- The remainder of `x ^ k`. -/
def power (a b : Fin p) (k : Nat) : Remainder p :=
  ladder one (fun f => multiply a b f f) (multiply a b) ⟨0, 1, 0⟩ k

theorem value_power (root : x ^ 3 + toField a * x + toField b = 0) (k : Nat) :
    (power a b k).value x = x ^ k := by
  have itself : (⟨0, 1, 0⟩ : Remainder p).value x = x := by simp [value]
  refine ladder_induction (fun k (total : Remainder p) => total.value x = x ^ k) ?_ ?_ ?_ k
  · rw [value_one, pow_zero]
  · intro k total h
    rw [value_multiply root, h, two_mul, pow_add]
  · intro k total h
    rw [value_multiply root, value_multiply root, h, itself, pow_succ, two_mul, pow_add]

/-- The remainder of `x ^ p - x`. -/
def frobenius (a b : Fin p) : Remainder p :=
  let f := power a b p
  { f with linear := f.linear - 1 }

/-- The cubic has no root if what every residue is a root of has an inverse modulo the cubic. -/
theorem cubic_ne_zero [Fact p.Prime] {inverse : Remainder p}
    (certified : multiply a b inverse (frobenius a b) = one) (x : ZMod p) :
    x ^ 3 + toField a * x + toField b ≠ 0 := by
  intro root
  have zero : (frobenius a b).value x = 0 := by
    have fermat : (power a b p).value x = x := by rw [value_power root, ZMod.pow_card]
    simp only [value, frobenius, toField_sub, toField_one] at fermat ⊢
    linear_combination fermat
  have unit : (multiply a b inverse (frobenius a b)).value x = 1 := by rw [certified, value_one]
  rw [value_multiply root, zero, mul_zero] at unit
  exact zero_ne_one unit

end Remainder

end CustodySigner
