import CustodySigner.Algebra.Residue
import CustodySigner.Proofs.Algebra.Ladder
import Mathlib.FieldTheory.Finite.Basic

set_option autoImplicit false
set_option relaxedAutoImplicit false

/-!
Residues modulo a prime are a field. The powers that stand for inverses and square roots are
inverses and square roots there.
-/

namespace CustodySigner

section Inverse

/-- `a ^ k` modulo `n`, one reduction at a time. -/
def powerMod (n a k : Nat) : Nat :=
  ladder (1 % n) (fun x => x * x % n) (fun x y => x * y % n) (a % n) k

theorem cast_powerMod (n a k : Nat) : (powerMod n a k : ZMod n) = (a : ZMod n) ^ k := by
  refine ladder_induction (fun k total => ((total : Nat) : ZMod n) = (a : ZMod n) ^ k) ?_ ?_ ?_ k
  · simp
  · intro k total h
    rw [ZMod.natCast_mod, Nat.cast_mul, h, two_mul, pow_add]
  · intro k total h
    rw [ZMod.natCast_mod, Nat.cast_mul, ZMod.natCast_mod, ZMod.natCast_mod, Nat.cast_mul, h,
      pow_succ, two_mul, pow_add]

theorem cast_inverseMod {n : Nat} [Fact n.Prime] {a : Nat} (h : (a : ZMod n) ≠ 0) :
    (inverseMod n a : ZMod n) = (a : ZMod n)⁻¹ := by
  have power : (inverseMod n a : ZMod n) = (a : ZMod n) ^ (n - 2) := cast_powerMod n a (n - 2)
  have two_le : 2 ≤ n := (Fact.out : n.Prime).two_le
  refine eq_inv_of_mul_eq_one_left ?_
  rw [power, ← pow_succ, show n - 2 + 1 = n - 1 by omega, ZMod.pow_card_sub_one_eq_one h]

end Inverse

section Field

variable {p : Nat}

/-- The residue as an element of the field. -/
def toField (a : Fin p) : ZMod p := (a.val : ZMod p)

theorem toField_injective : Function.Injective (toField (p := p)) := by
  intro a b h
  have same := (ZMod.natCast_eq_natCast_iff' a.val b.val p).1 h
  rw [Nat.mod_eq_of_lt a.isLt, Nat.mod_eq_of_lt b.isLt] at same
  exact Fin.ext same

@[simp] theorem toField_add (a b : Fin p) : toField (a + b) = toField a + toField b := by
  simp [toField, Fin.val_add]

@[simp] theorem toField_mul (a b : Fin p) : toField (a * b) = toField a * toField b := by
  simp [toField, Fin.val_mul]

@[simp] theorem toField_neg (a : Fin p) : toField (-a) = -toField a := by
  have value : (-a).val = (p - a.val) % p := rfl
  simp [toField, value, Nat.cast_sub a.isLt.le]

@[simp] theorem toField_sub (a b : Fin p) : toField (a - b) = toField a - toField b := by
  simp [toField, Fin.val_sub, Nat.cast_sub b.isLt.le]
  ring

theorem toField_residue [Modulus p] (n : Nat) : toField (residue p n) = (n : ZMod p) := by
  simp [toField, residue]

@[simp] theorem toField_zero [Modulus p] : toField (0 : Fin p) = 0 := by
  exact (toField_residue 0).trans Nat.cast_zero

@[simp] theorem toField_one [Modulus p] : toField (1 : Fin p) = 1 := by
  exact (toField_residue 1).trans Nat.cast_one

theorem toField_eq_zero_iff [Modulus p] {a : Fin p} : toField a = 0 ↔ a = 0 := by
  rw [← toField_zero, toField_injective.eq_iff]

theorem toField_power [Modulus p] (a : Fin p) (k : Nat) :
    toField (power a k) = toField a ^ k := by
  refine ladder_induction (fun k total => toField total = toField a ^ k) ?_ ?_ ?_ k
  · simp
  · intro k total h
    rw [toField_mul, h, two_mul, pow_add]
  · intro k total h
    rw [toField_mul, toField_mul, h, pow_succ, two_mul, pow_add]

@[simp] theorem toField_inv [Modulus p] [Fact p.Prime] {a : Fin p} (h : toField a ≠ 0) :
    toField a⁻¹ = (toField a)⁻¹ := by
  have two_le : 2 ≤ p := (Fact.out : p.Prime).two_le
  refine eq_inv_of_mul_eq_one_left ?_
  rw [show a⁻¹ = power a (p - 2) from rfl, toField_power, ← pow_succ,
    show p - 2 + 1 = p - 1 by omega, ZMod.pow_card_sub_one_eq_one h]

theorem mul_self_of_squareRoot? [Modulus p] {a root : Fin p} (h : squareRoot? a = some root) :
    root * root = a := by
  simp only [squareRoot?, Option.ite_none_right_eq_some, Option.some.injEq] at h
  obtain ⟨square, rfl⟩ := h
  exact square

theorem squareRoot?_mul_self [Modulus p] [Fact p.Prime] (three : p % 4 = 3) (a : Fin p) :
    squareRoot? (a * a) = some a ∨ squareRoot? (a * a) = some (-a) := by
  have root : toField (power (a * a) ((p + 1) / 4)) ^ 2 = toField a ^ 2 := by
    rw [toField_power, toField_mul]
    by_cases zero : toField a = 0
    · have positive : (p + 1) / 4 ≠ 0 := by omega
      simp [zero, positive]
    · -- the root is `a` to the power `(p + 1) / 2`, whose square is `a ^ 2` by Fermat
      have exponent : 2 * ((p + 1) / 4 * 2) = (p - 1) + 2 := by omega
      rw [← pow_two, ← pow_mul, ← pow_mul, exponent, pow_add, ZMod.pow_card_sub_one_eq_one zero,
        one_mul]
  have found : squareRoot? (a * a) = some (power (a * a) ((p + 1) / 4)) := by
    unfold squareRoot?
    refine if_pos (toField_injective ?_)
    rw [toField_mul, toField_mul, ← pow_two, root, pow_two]
  rw [found]
  rcases sq_eq_sq_iff_eq_or_eq_neg.1 root with same | opposite
  · exact .inl (congrArg some (toField_injective same))
  · refine .inr (congrArg some (toField_injective ?_))
    rw [opposite, toField_neg]

end Field

end CustodySigner
