import CustodySigner.Bytes
import Mathlib.Data.Nat.Basic
import Mathlib.Tactic.Ring

set_option autoImplicit false
set_option relaxedAutoImplicit false

/-!
Byte strings spell the numbers that they were written from, up to the size that was asked for. Bytes
beyond those that a number needs are zeros in front, and the complement of all bytes and the clearing
of the top bit have values of their own.
-/

namespace CustodySigner.Bytes

theorem toNatLE_ofNatLE (size n : Nat) : toNatLE (ofNatLE size n) = n % 256 ^ size := by
  induction size generalizing n with
  | zero => simp [ofNatLE, toNatLE, Nat.mod_one]
  | succ size ih =>
    have low : (UInt8.ofNat (n % 256)).toNat = n % 256 := by simp
    rw [ofNatLE, toNatLE, ih, low, Nat.pow_succ', Nat.mod_mul]

private theorem foldl_append (b : Bytes) (x : UInt8) :
    toNat (b ++ [x]) = toNat b * 256 + x.toNat := by
  simp [toNat]

theorem toNat_reverse (b : Bytes) : toNat b.reverse = toNatLE b := by
  induction b with
  | nil => rfl
  | cons x rest ih =>
    rw [List.reverse_cons, foldl_append, ih, toNatLE]
    ring

theorem toNat_ofNat (size n : Nat) : toNat (ofNat size n) = n % 256 ^ size := by
  rw [ofNat, toNat_reverse, toNatLE_ofNatLE]

theorem toNat_ofNat_32 {n : Nat} (h : n < range32) : toNat (ofNat 32 n) = n := by
  rw [toNat_ofNat]
  exact Nat.mod_eq_of_lt h

theorem ofNat_toNat (b : Bytes) : ofNat b.length (toNat b) = b := by
  have written (b : Bytes) : ofNatLE b.length (toNatLE b) = b := by
    induction b with
    | nil => rfl
    | cons x rest ih =>
      have bound := x.toNat_lt
      have low : (x.toNat + 256 * toNatLE rest) % 256 = x.toNat := by omega
      have high : (x.toNat + 256 * toNatLE rest) / 256 = toNatLE rest := by omega
      rw [List.length_cons, toNatLE, ofNatLE, low, high, ih, UInt8.ofNat_toNat]
  have reversed := written b.reverse
  rw [← toNat_reverse, List.reverse_reverse, List.length_reverse] at reversed
  rw [ofNat, reversed, List.reverse_reverse]

private theorem foldl_eq (b : Bytes) (n : Nat) :
    b.foldl (fun n x => n * 256 + x.toNat) n = n * 256 ^ b.length + toNat b := by
  induction b generalizing n with
  | nil => simp [toNat]
  | cons x rest ih =>
    rw [toNat, List.foldl_cons, List.foldl_cons, ih, ih (0 * 256 + x.toNat), List.length_cons]
    ring

theorem toNat_cons (x : UInt8) (rest : Bytes) :
    toNat (x :: rest) = x.toNat * 256 ^ rest.length + toNat rest := by
  rw [toNat, List.foldl_cons, foldl_eq, Nat.zero_mul, Nat.zero_add]

theorem toNat_lt (b : Bytes) : toNat b < 256 ^ b.length := by
  induction b with
  | nil => decide
  | cons x rest ih =>
    rw [toNat_cons]
    calc x.toNat * 256 ^ rest.length + toNat rest
        < x.toNat * 256 ^ rest.length + 256 ^ rest.length := Nat.add_lt_add_left ih _
      _ = (x.toNat + 1) * 256 ^ rest.length := by ring
      _ ≤ 256 * 256 ^ rest.length := Nat.mul_le_mul_right _ x.toNat_lt
      _ = 256 ^ (x :: rest).length := (Nat.pow_succ').symm

theorem toNat_map_complement (b : Bytes) :
    toNat (b.map (~~~ ·)) + toNat b + 1 = 256 ^ b.length := by
  induction b with
  | nil => rfl
  | cons x rest ih =>
    have byte : (~~~x).toNat + x.toNat = 255 := by
      have bound := x.toNat_lt
      rw [UInt8.toNat_not, UInt8.size]
      omega
    rw [List.map_cons, toNat_cons, toNat_cons, List.length_map, List.length_cons, Nat.pow_succ]
    calc (~~~x).toNat * 256 ^ rest.length + toNat (rest.map (~~~ ·)) +
          (x.toNat * 256 ^ rest.length + toNat rest) + 1
        = ((~~~x).toNat + x.toNat) * 256 ^ rest.length +
            (toNat (rest.map (~~~ ·)) + toNat rest + 1) := by ring
      _ = 256 ^ rest.length * 256 := by rw [byte, ih]; ring

theorem toNat_clear_cons (x : UInt8) (rest : Bytes) :
    toNat ((x &&& 0x7f) :: rest) = toNat (x :: rest) % 2 ^ (8 * rest.length + 7) := by
  have low : (x &&& 0x7f).toNat = x.toNat % 128 := by
    rw [UInt8.toNat_and]
    exact Nat.and_two_pow_sub_one_eq_mod x.toNat 7
  have size : 2 ^ (8 * rest.length + 7) = 256 ^ rest.length * 128 := by
    rw [pow_add, pow_mul, show (2 : Nat) ^ 8 = 256 from rfl, show (2 : Nat) ^ 7 = 128 from rfl]
  have bound := toNat_lt rest
  rw [toNat_cons, toNat_cons, low, size, Nat.mod_mul, Nat.add_comm (x.toNat * _),
    Nat.add_mul_mod_self_right, Nat.mod_eq_of_lt bound,
    Nat.add_mul_div_right _ _ (Nat.pow_pos (by decide)), Nat.div_eq_of_lt bound, Nat.zero_add]
  ring

theorem width_le_iff {n k : Nat} : width n ≤ k ↔ n < 256 ^ k := by
  unfold width
  split
  · rename_i zero
    simp [zero]
  · rename_i nonzero
    rw [show (256 : Nat) = 2 ^ 8 from rfl, ← pow_mul, ← Nat.log2_lt nonzero]
    omega

theorem width_pos {n : Nat} (nonzero : n ≠ 0) : 0 < width n := by
  simp [width, nonzero]

private theorem ofNatLE_add (size more n : Nat) :
    ofNatLE (size + more) n = ofNatLE size n ++ ofNatLE more (n / 256 ^ size) := by
  induction size generalizing n with
  | zero => simp [ofNatLE]
  | succ size ih =>
    rw [Nat.succ_add, ofNatLE, ofNatLE, ih, Nat.div_div_eq_div_mul, ← Nat.pow_succ',
      List.cons_append]

private theorem ofNatLE_zero (size : Nat) : ofNatLE size 0 = List.replicate size 0 := by
  induction size with
  | zero => rfl
  | succ size ih =>
    rw [ofNatLE, List.replicate_succ]
    exact congrArg (0 :: ·) ih

theorem ofNat_eq_replicate_append {size n : Nat} (h : width n ≤ size) :
    ofNat size n = List.replicate (size - width n) 0 ++ ofNat (width n) n := by
  have bound : n < 256 ^ width n := width_le_iff.1 le_rfl
  have split : ofNatLE size n = ofNatLE (width n) n ++ List.replicate (size - width n) 0 := by
    rw [← ofNatLE_zero, ← Nat.div_eq_of_lt bound, ← ofNatLE_add, Nat.add_sub_cancel' h]
  rw [ofNat, split, List.reverse_append, List.reverse_replicate, ofNat]

end CustodySigner.Bytes
