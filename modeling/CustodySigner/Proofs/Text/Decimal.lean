import Mathlib.Data.Nat.Digits.Lemmas

set_option autoImplicit false
set_option relaxedAutoImplicit false

/-!
Decimal digits. A number that is printed is read back digit by digit, and a single digit is what its
number is printed as.
-/

namespace CustodySigner.Text

theorem foldl_toDigits (n : Nat) :
    (Nat.toDigits 10 n).foldl (fun n c => n * 10 + (c.toNat - 48)) 0 = n := by
  have step : (fun n (c : Char) => n * 10 + (c.toNat - 48)) =
      fun n c => 10 * n + (c.toNat - '0'.toNat) := by
    funext n c
    rw [Nat.mul_comm]
    rfl
  rw [step, ← Nat.ofDigitChars_eq_foldl, Nat.ofDigitChars_ten_toDigits]

theorem toDigits_digit {d : Char} (low : 48 ≤ d.toNat) (high : d.toNat ≤ 57) :
    Nat.toDigits 10 (d.toNat - 48) = [d] := by
  have value : (d.toNat - 48).digitChar.toNat = d.toNat := by
    rw [Nat.toNat_digitChar_of_lt_ten (by omega)]
    omega
  rw [Nat.toDigits_of_lt_base (by omega), Char.toNat_inj.1 value]

end CustodySigner.Text
