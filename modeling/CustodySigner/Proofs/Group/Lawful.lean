import CustodySigner.Group.Prime
import Mathlib.Data.Nat.Prime.Basic

set_option autoImplicit false
set_option relaxedAutoImplicit false

/-!
The laws that signatures rely on: the multiples of the base point are a cyclic group of prime order,
opposite points share their first coordinate, and a point can be read back from its first coordinate
and the parity of the second. Where the base point spans the curve, no other point can be read.
-/

namespace CustodySigner.CurveGroup

variable (G : CurveGroup)

/-- The `k`-fold sum of the base point. -/
def multiple (k : Nat) : G.Point :=
  G.multiply k G.base

/-- The multiples of the base point form a group of prime order and have coordinates of 32 bytes. -/
structure Lawful : Prop where
  prime : G.order.Prime
  add_multiple (j k : Nat) : G.add (G.multiple j) (G.multiple k) = G.multiple (j + k)
  multiply_multiple (j k : Nat) : G.multiply j (G.multiple k) = G.multiple (j * k)
  multiple_mod (k : Nat) : G.multiple (k % G.order) = G.multiple k
  neutral (k : Nat) : G.coordinates? (G.multiple k) = none ↔ G.order ∣ k
  /-- Opposite points have one first coordinate, and second coordinates of either parity. -/
  opposite {j k x y : Nat} : G.order ∣ j + k → G.coordinates? (G.multiple j) = some (x, y) →
    ∃ y', G.coordinates? (G.multiple k) = some (x, y') ∧ (y' % 2 == 1) = !(y % 2 == 1)
  bounded {k x y : Nat} : G.coordinates? (G.multiple k) = some (x, y) → x < Bytes.range32
  lift {k x y : Nat} : G.coordinates? (G.multiple k) = some (x, y) →
    G.lift? x (y % 2 == 1) = some (G.multiple k)

namespace Lawful

variable {G}

theorem multiple_congr (h : G.Lawful) {j k : Nat} (congruent : j % G.order = k % G.order) :
    G.multiple j = G.multiple k := by
  rw [← h.multiple_mod j, ← h.multiple_mod k, congruent]

theorem exists_coordinates (h : G.Lawful) {k : Nat} (nonzero : ¬ G.order ∣ k) :
    ∃ x y, G.coordinates? (G.multiple k) = some (x, y) := by
  cases found : G.coordinates? (G.multiple k) with
  | none => exact absurd ((h.neutral k).1 found) nonzero
  | some point => exact ⟨point.1, point.2, rfl⟩

end Lawful

/-- Every point that can be read is a multiple of the base point, and has the coordinates that it was
read from. -/
structure Spanned : Prop where
  lift {x : Nat} {odd : Bool} {P : G.Point} : G.lift? x odd = some P →
    ∃ k y, P = G.multiple k ∧ G.coordinates? (G.multiple k) = some (x, y) ∧ (y % 2 == 1) = odd
  point {x y : Nat} {P : G.Point} : G.point? x y = some P → ∃ k, P = G.multiple k

theorem Spanned.exists_opposite {G : CurveGroup} (spanned : G.Spanned) (lawful : G.Lawful) {x : Nat}
    {odd : Bool} {P : G.Point} (h : G.lift? x odd = some P) :
    ∃ k k', P = G.multiple k ∧ G.order ∣ k + k' ∧ G.lift? x (!odd) = some (G.multiple k') := by
  obtain ⟨k, y, same, found, rfl⟩ := spanned.lift h
  have opposite : G.order ∣ k + (G.order - 1) * k := by
    refine ⟨k, ?_⟩
    rw [Nat.add_comm, ← Nat.succ_mul, Nat.succ_eq_add_one, Nat.sub_add_cancel lawful.prime.one_le]
  obtain ⟨y', found', flipped⟩ := lawful.opposite opposite found
  exact ⟨k, _, same, opposite, flipped ▸ lawful.lift found'⟩

end CustodySigner.CurveGroup
