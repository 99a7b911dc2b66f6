import CustodySigner.Proofs.Bytes
import Mathlib.Data.Nat.Digits.Lemmas

set_option autoImplicit false
set_option relaxedAutoImplicit false

/-!
Bits, the highest first. Strings of bits of one length are told apart by their values, and strings
that are put together from numbers of one width have the value that these are the digits of.
-/

namespace CustodySigner.Bits

/-- The lowest bits of a number. -/
def ofNat : (width n : Nat) → List Bool
  | 0, _ => []
  | width + 1, n => ofNat width (n / 2) ++ [n % 2 == 1]

/-- The bits of all bytes. -/
def ofBytes (b : Bytes) : List Bool :=
  b.flatMap fun x => ofNat 8 x.toNat

def value (bits : List Bool) : Nat :=
  Nat.ofDigits 2 (bits.reverse.map Bool.toNat)

@[simp] theorem length_ofNat (width n : Nat) : (ofNat width n).length = width := by
  induction width generalizing n with
  | zero => rfl
  | succ width ih => rw [ofNat, List.length_append, ih, List.length_singleton]

theorem length_flatMap_ofNat {α : Type} (width : Nat) (f : α → Nat) (l : List α) :
    (l.flatMap fun x => ofNat width (f x)).length = width * l.length := by
  induction l with
  | nil => rfl
  | cons x rest ih =>
    rw [List.flatMap_cons, List.length_append, length_ofNat, ih, List.length_cons]
    ring

theorem length_ofBytes (b : Bytes) : (ofBytes b).length = 8 * b.length :=
  length_flatMap_ofNat 8 _ b

theorem value_append (high low : List Bool) :
    value (high ++ low) = value high * 2 ^ low.length + value low := by
  unfold value
  rw [List.reverse_append, List.map_append, Nat.ofDigits_append, List.length_map,
    List.length_reverse]
  ring

private theorem toNat_lt_two_of_mem (bits : List Bool) :
    ∀ d ∈ bits.reverse.map Bool.toNat, d < 2 := by
  intro d mem
  obtain ⟨bit, -, rfl⟩ := List.mem_map.1 mem
  exact Bool.toNat_lt bit

theorem value_lt (bits : List Bool) : value bits < 2 ^ bits.length := by
  have bound := Nat.ofDigits_lt_base_pow_length (by decide) (toNat_lt_two_of_mem bits)
  rwa [List.length_map, List.length_reverse] at bound

theorem eq_of_value_eq {bits bits' : List Bool} (length : bits.length = bits'.length)
    (same : value bits = value bits') : bits = bits' := by
  have reversed := Nat.ofDigits_inj_of_len_eq (by decide) (by simpa using length)
    (toNat_lt_two_of_mem bits) (toNat_lt_two_of_mem bits') same
  have apart : Function.Injective Bool.toNat := by
    intro a b
    cases a <;> cases b <;> simp
  exact List.reverse_injective (List.map_injective_iff.2 apart reversed)

theorem value_ofNat (width n : Nat) : value (ofNat width n) = n % 2 ^ width := by
  induction width generalizing n with
  | zero => rw [Nat.pow_zero, Nat.mod_one]; rfl
  | succ width ih =>
    have last : value [n % 2 == 1] = n % 2 := by
      rcases Nat.mod_two_eq_zero_or_one n with even | odd
      · rw [even]; rfl
      · rw [odd]; rfl
    rw [ofNat, value_append, ih, last, List.length_singleton, Nat.pow_one, Nat.pow_succ',
      Nat.mod_mul]
    ring

theorem value_append_div (high low : List Bool) :
    value (high ++ low) / 2 ^ low.length = value high := by
  rw [value_append, Nat.mul_comm, Nat.mul_add_div (Nat.two_pow_pos _), Nat.div_eq_of_lt (value_lt low),
    Nat.add_zero]

theorem value_append_mod (high low : List Bool) :
    value (high ++ low) % 2 ^ low.length = value low := by
  rw [value_append, Nat.mul_comm, Nat.mul_add_mod, Nat.mod_eq_of_lt (value_lt low)]

theorem value_take (bits : List Bool) (n : Nat) :
    value (bits.take n) = value bits / 2 ^ (bits.length - n) := by
  rw [← value_append_div (bits.take n) (bits.drop n), List.take_append_drop, List.length_drop]

theorem value_flatMap_ofNat {α : Type} {width : Nat} {f : α → Nat} {l : List α}
    (bounded : ∀ x ∈ l, f x < 2 ^ width) :
    value (l.flatMap fun x => ofNat width (f x)) = l.foldl (fun n x => n * 2 ^ width + f x) 0 := by
  induction l using List.reverseRecOn with
  | nil => rfl
  | append_singleton front x ih =>
    have last : f x < 2 ^ width := bounded x (by simp)
    have others : ∀ y ∈ front, f y < 2 ^ width := fun y mem => bounded y (List.mem_append_left _ mem)
    rw [List.flatMap_append, List.flatMap_singleton, value_append, ih others, value_ofNat,
      length_ofNat, Nat.mod_eq_of_lt last, List.foldl_append, List.foldl_cons, List.foldl_nil]

theorem value_ofBytes (b : Bytes) : value (ofBytes b) = Bytes.toNat b :=
  value_flatMap_ofNat fun x _ => x.toNat_lt

end CustodySigner.Bits
