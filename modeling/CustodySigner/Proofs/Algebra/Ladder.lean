import CustodySigner.Algebra.Ladder
import Mathlib.Algebra.Group.Defs
import Mathlib.Tactic.Ring

set_option autoImplicit false
set_option relaxedAutoImplicit false

/-!
What a ladder computes. A relation between numbers and partial results that doubling and adding
respect holds between the number asked for and the result.
-/

namespace CustodySigner

private theorem binaryDigits_eq_append (width n : Nat) (tail : List Bool) :
    binaryDigits width n tail = binaryDigits width n [] ++ tail := by
  induction width generalizing n tail with
  | zero => rfl
  | succ width ih =>
    rw [binaryDigits, binaryDigits, ih (n / 2) [_], ih (n / 2) (_ :: tail)]
    simp

section

variable {α : Type} {zero x : α} {double : α → α} {add : α → α → α}

private theorem foldl_binaryDigits (R : Nat → α → Prop)
    (even : ∀ k total, R k total → R (2 * k) (double total))
    (odd : ∀ k total, R k total → R (2 * k + 1) (add (double total) x))
    (width n k : Nat) (total : α) (h : R k total) :
    R (k * 2 ^ width + n % 2 ^ width) ((binaryDigits width n []).foldl
      (fun total digit => if digit then add (double total) x else double total) total) := by
  induction width generalizing n with
  | zero => simpa [binaryDigits, Nat.mod_one] using h
  | succ width ih =>
    have digit : k * 2 ^ (width + 1) + n % 2 ^ (width + 1) =
        2 * (k * 2 ^ width + n / 2 % 2 ^ width) + n % 2 := by
      rw [Nat.pow_succ', Nat.mod_mul]
      ring
    rw [binaryDigits, binaryDigits_eq_append, List.foldl_append, digit]
    have before := ih (n / 2)
    rcases Nat.mod_two_eq_zero_or_one n with parity | parity
    · simpa [parity] using even _ _ before
    · simpa [parity] using odd _ _ before

theorem ladder_induction (R : Nat → α → Prop) (start : R 0 zero)
    (even : ∀ k total, R k total → R (2 * k) (double total))
    (odd : ∀ k total, R k total → R (2 * k + 1) (add (double total) x)) (k : Nat) :
    R k (ladder zero double add x k) := by
  have run := foldl_binaryDigits R even odd (k.log2 + 1) k 0 zero start
  rwa [Nat.zero_mul, Nat.zero_add, Nat.mod_eq_of_lt Nat.lt_log2_self] at run

end

end CustodySigner
