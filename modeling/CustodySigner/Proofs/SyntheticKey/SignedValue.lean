import CustodySigner.Proofs.Bytes
import CustodySigner.SyntheticKey
import Mathlib.Order.Bounds.Basic

set_option autoImplicit false
set_option relaxedAutoImplicit false

/-!
The signed value of 32 bytes in closed form. With the top bit set it is the negative of a complement
in the bytes that the lower bits need, so that it is the value in two's complement only where these
need all 32 bytes, and small everywhere else.
-/

namespace CustodySigner.SyntheticKey

/-- The value of the bits below the top one. -/
def lowBits (data : Bytes) : Nat :=
  Bytes.toNat data % 2 ^ 255

/-- The number of which the complement is taken: the lower bits less one, where zero less one counts
as one. -/
def magnitude (data : Bytes) : Nat :=
  if lowBits data = 0 then 1 else lowBits data - 1

/-- The complement of a number in the bytes that it needs, without the top bit of these. -/
def complement (m : Nat) : Nat :=
  (2 ^ (8 * Bytes.width m) - 1 - m) % 2 ^ (8 * Bytes.width m - 1)

section Complement

variable {m : Nat}

theorem complement_lt (m : Nat) : complement m < 2 ^ (8 * Bytes.width m - 1) :=
  Nat.mod_lt _ (Nat.two_pow_pos _)

theorem toNat_complemented {first : UInt8} {rest : Bytes}
    (h : (Bytes.ofNat (Bytes.width m) m).map (~~~ ·) = first :: rest) :
    Bytes.toNat ((first &&& 0x7f) :: rest) = complement m := by
  have length : rest.length + 1 = Bytes.width m := by
    simpa using (congrArg List.length h).symm
  have bound : m < 256 ^ Bytes.width m := Bytes.width_le_iff.1 le_rfl
  have value : Bytes.toNat (first :: rest) = 2 ^ (8 * Bytes.width m) - 1 - m := by
    have sum := Bytes.toNat_map_complement (Bytes.ofNat (Bytes.width m) m)
    rw [h, Bytes.toNat_ofNat, Nat.mod_eq_of_lt bound, Bytes.length_ofNat] at sum
    rw [pow_mul, show (2 : Nat) ^ 8 = 256 from rfl]
    omega
  rw [Bytes.toNat_clear_cons, value, complement, ← length]
  congr 2

theorem cast_complement (m : Nat) : (complement m : Int) =
    (2 ^ (8 * Bytes.width m) - 1 - (m : Int)) % 2 ^ (8 * Bytes.width m - 1) := by
  have bound : m < 256 ^ Bytes.width m := Bytes.width_le_iff.1 le_rfl
  rw [show (256 : Nat) = 2 ^ 8 from rfl, ← pow_mul] at bound
  rw [complement, Nat.sub_sub, Int.natCast_mod, Nat.cast_sub (by omega)]
  push_cast
  ring_nf

theorem isLeast_width (m : Nat) : IsLeast {size | m < 256 ^ size} (Bytes.width m) :=
  ⟨Bytes.width_le_iff.1 le_rfl, fun _ bound => Bytes.width_le_iff.2 bound⟩

end Complement

section SignedValue

variable {data : Bytes}

private theorem toNat_lt_of_length (length : data.length = 32) : Bytes.toNat data < 2 ^ 256 := by
  have bound := Bytes.toNat_lt data
  rw [length] at bound
  exact bound

theorem testBit_iff (length : data.length = 32) :
    (Bytes.toNat data).testBit 255 = true ↔ 2 ^ 255 ≤ Bytes.toNat data := by
  have bound := toNat_lt_of_length length
  rw [Nat.testBit_eq_decide_div_mod_eq, decide_eq_true_iff]
  omega

theorem signedValue_of_lt (low : Bytes.toNat data < 2 ^ 255) :
    signedValue data = (lowBits data : Int) := by
  rw [lowBits, Nat.mod_eq_of_lt low]
  exact if_pos low

theorem signedValue_of_le (length : data.length = 32) (high : 2 ^ 255 ≤ Bytes.toNat data) :
    signedValue data = if magnitude data = 0 then 0 else -(complement (magnitude data) : Int) := by
  have bound := toNat_lt_of_length length
  have same : (if Bytes.toNat data = topBit then 1 else Bytes.toNat data - topBit - 1) =
      magnitude data := by
    have top : topBit = 2 ^ 255 := rfl
    unfold magnitude lowBits
    rw [top]
    split_ifs <;> omega
  unfold signedValue
  simp only [same]
  rw [if_neg (show ¬ Bytes.toNat data < topBit from Nat.not_lt.2 high)]
  split_ifs with zero
  · rfl
  · cases h : (Bytes.ofNat (Bytes.width (magnitude data)) (magnitude data)).map (~~~ ·) with
    -- a number other than zero needs a byte, so that there is a first one to clear
    | nil =>
      have empty := congrArg List.length h
      simp only [List.length_map, Bytes.length_ofNat, List.length_nil] at empty
      exact absurd empty (Nat.ne_of_gt (Bytes.width_pos zero))
    | cons first rest => exact congrArg (fun n : Nat => -(n : Int)) (toNat_complemented h)

example : signedValue (0x80 :: List.replicate 31 0) = -126 := by decide +kernel

theorem signedValue_eq_of_lt (length : data.length = 32) (high : 2 ^ 255 ≤ Bytes.toNat data)
    (large : 2 ^ 248 < lowBits data) : signedValue data = Bytes.toNat data - 2 ^ 256 := by
  have bound := toNat_lt_of_length length
  have value : lowBits data = Bytes.toNat data - 2 ^ 255 := by
    unfold lowBits
    omega
  have less : magnitude data = lowBits data - 1 := if_neg (by omega)
  -- so large a number needs all 32 bytes
  have width : Bytes.width (magnitude data) = 32 := by
    have upper : Bytes.width (magnitude data) ≤ 32 := Bytes.width_le_iff.2 (by omega)
    have lower : ¬ Bytes.width (magnitude data) ≤ 31 := by
      rw [Bytes.width_le_iff]
      omega
    omega
  rw [signedValue_of_le length high, if_neg (by omega), complement, width]
  omega

theorem signedValue_of_lowBits_le (length : data.length = 32) (high : 2 ^ 255 ≤ Bytes.toNat data)
    (small : lowBits data ≤ 2 ^ 248) :
    -2 ^ 247 < signedValue data ∧ signedValue data ≤ 0 := by
  -- a byte is spared, and the top bit of those that are left is cleared in the complement
  have width : Bytes.width (magnitude data) ≤ 31 := by
    rw [Bytes.width_le_iff, magnitude]
    split_ifs <;> omega
  have below : complement (magnitude data) < 2 ^ 247 :=
    lt_of_lt_of_le (complement_lt _) (Nat.pow_le_pow_right (by decide) (by omega))
  rw [signedValue_of_le length high]
  split_ifs <;> omega

theorem signedValue_bounds (length : data.length = 32) :
    -2 ^ 255 < signedValue data ∧ signedValue data < 2 ^ 255 := by
  have bound := toNat_lt_of_length length
  by_cases high : 2 ^ 255 ≤ Bytes.toNat data
  · rcases Nat.lt_or_ge (2 ^ 248) (lowBits data) with large | small
    · have value := signedValue_eq_of_lt length high large
      unfold lowBits at large
      omega
    · have below := signedValue_of_lowBits_le length high small
      omega
  · have value := signedValue_of_lt (Nat.lt_of_not_le high)
    unfold lowBits at value
    omega

/-- The signed value of 32 bytes in closed form, with its bounds. With the top bit set it is the value
in two's complement if the lower bits exceed `2 ^ 248`, and only then; else its size is below
`2 ^ 247`. -/
theorem signed_value_in_closed_form (length : data.length = 32) :
    ((Bytes.toNat data).testBit 255 = false → signedValue data = (lowBits data : Int)) ∧
    ((Bytes.toNat data).testBit 255 = true →
      (magnitude data = 0 → signedValue data = 0) ∧
      (magnitude data ≠ 0 → ∃ size : Nat, IsLeast {size | magnitude data < 256 ^ size} size ∧
        signedValue data = -((2 ^ (8 * size) - 1 - (magnitude data : Int)) % 2 ^ (8 * size - 1)))) ∧
    -2 ^ 255 < signedValue data ∧ signedValue data < 2 ^ 255 ∧
    ((Bytes.toNat data).testBit 255 = true →
      (signedValue data = (Bytes.toNat data : Int) - 2 ^ 256 ↔ 2 ^ 248 < lowBits data) ∧
      (lowBits data ≤ 2 ^ 248 → |signedValue data| < 2 ^ 247)) := by
  simp only [← Bool.not_eq_true, testBit_iff length, Nat.not_le]
  refine ⟨signedValue_of_lt, fun high => ⟨fun zero => ?_, fun nonzero => ?_⟩,
    (signedValue_bounds length).1, (signedValue_bounds length).2, fun high => ⟨⟨fun same => ?_,
      signedValue_eq_of_lt length high⟩, fun small => ?_⟩⟩
  · rw [signedValue_of_le length high, if_pos zero]
  · refine ⟨_, isLeast_width (magnitude data), ?_⟩
    rw [signedValue_of_le length high, if_neg nonzero, cast_complement]
  · by_contra small
    have bound := toNat_lt_of_length length
    have below := signedValue_of_lowBits_le length high (Nat.le_of_not_lt small)
    unfold lowBits at small
    omega
  · obtain ⟨below, negative⟩ := signedValue_of_lowBits_le length high small
    exact abs_lt.2 ⟨below, by omega⟩

theorem signed_value_in_closed_form_threshold :
    let small : Bytes := 0x81 :: List.replicate 31 0
    let large : Bytes := 0x81 :: (List.replicate 30 0 ++ [1])
    |signedValue small| < 2 ^ 247 ∧ signedValue small ≠ (Bytes.toNat small : Int) - 2 ^ 256 ∧
      signedValue large = (Bytes.toNat large : Int) - 2 ^ 256 := by
  intro small large
  have length : small.length = 32 ∧ large.length = 32 := by decide
  obtain ⟨-, -, -, -, ofSmall⟩ := signed_value_in_closed_form length.1
  obtain ⟨-, -, -, -, ofLarge⟩ := signed_value_in_closed_form length.2
  obtain ⟨twos, bound⟩ := ofSmall (by decide +kernel)
  have least : ¬ 2 ^ 248 < lowBits small := by decide +kernel
  exact ⟨bound (Nat.le_of_not_lt least), mt twos.1 least,
    (ofLarge (by decide +kernel)).1.2 (by decide +kernel)⟩

end SignedValue

end CustodySigner.SyntheticKey
