import CustodySigner.Group.Weierstrass
import CustodySigner.Proofs.Algebra.Residue
import Mathlib.AlgebraicGeometry.EllipticCurve.Affine.Point
import Mathlib.Tactic.FieldSimp
import Mathlib.Tactic.LinearCombination

set_option autoImplicit false
set_option relaxedAutoImplicit false

/-!
Points in Jacobian coordinates stand for points of an elliptic curve. Doubling, adding and taking
multiples of what stands for a point gives what stands for the double, the sum and the multiple.
-/

namespace CustodySigner

open WeierstrassCurve.Affine

variable {p : Nat}

namespace Weierstrass

/-- The elliptic curve with these coefficients. -/
def curve (E : Weierstrass (Fin p)) : WeierstrassCurve.Affine (ZMod p) :=
  ⟨0, 0, 0, toField E.a, toField E.b⟩

variable {E : Weierstrass (Fin p)}

/-- The point in affine coordinates is the point of the curve. -/
def Represents : AffinePoint (Fin p) → E.curve.Point → Prop
  | .infinity, P => P = 0
  | .affine x y, P => ∃ h, P = .some (toField x) (toField y) h

variable {A B : AffinePoint (Fin p)} {P Q : E.curve.Point}

theorem Represents.unique (h : Represents A P) (h' : Represents B P) : A = B := by
  cases A with
  | infinity =>
    cases B with
    | infinity => rfl
    | affine x y =>
      obtain ⟨nonsingular, rfl⟩ := h'
      exact absurd h (Point.some_ne_zero nonsingular)
  | affine x y =>
    obtain ⟨nonsingular, rfl⟩ := h
    cases B with
    | infinity => exact absurd h' (Point.some_ne_zero nonsingular)
    | affine x' y' =>
      obtain ⟨_, same⟩ := h'
      obtain ⟨hx, hy⟩ := Point.some.inj same
      rw [toField_injective hx, toField_injective hy]

theorem Represents.point_unique (h : Represents A P) (h' : Represents A Q) : P = Q := by
  cases A with
  | infinity => exact h.trans h'.symm
  | affine x y =>
    obtain ⟨_, rfl⟩ := h
    obtain ⟨_, rfl⟩ := h'
    rfl

theorem Represents.eq_infinity_iff (h : Represents A P) : A = .infinity ↔ P = 0 := by
  cases A with
  | infinity => exact ⟨fun _ => h, fun _ => rfl⟩
  | affine x y =>
    obtain ⟨nonsingular, rfl⟩ := h
    simp

variable [Fact p.Prime]

theorem Represents.negate (h : Represents A P) : Represents (Weierstrass.negate A) (-P) := by
  cases A with
  | infinity =>
    obtain rfl : P = 0 := h
    exact neg_zero
  | affine x y =>
    obtain ⟨nonsingular, rfl⟩ := h
    have opposite : E.curve.negY (toField x) (toField y) = toField (-y) := by simp [curve]
    refine ⟨opposite ▸ (nonsingular_neg _ _).2 nonsingular, ?_⟩
    rw [Point.neg_some]
    congr 1

variable [Modulus p]

/-- The triple stands for the point. -/
def Stands (J : Jacobian (Fin p)) : E.curve.Point → Prop
  | .zero => toField J.z = 0
  | .some x y _ => toField J.z ≠ 0 ∧ toField J.x = x * toField J.z ^ 2 ∧
      toField J.y = y * toField J.z ^ 3

theorem stands_zero : Stands (E := E) ⟨1, 1, 0⟩ 0 := toField_zero

private theorem double_of_some {x y : ZMod p} (h : E.curve.Nonsingular x y)
    {J : Jacobian (Fin p)} (stands : Stands J (.some x y h)) :
    Stands (E.doubleJacobian J) (.some x y h + .some x y h) := by
  obtain ⟨z, hx, hy⟩ := stands
  rw [doubleJacobian, if_neg (mt toField_eq_zero_iff.2 z)]
  by_cases vertical : y = E.curve.negY x y
  · rw [Point.add_self_of_Y_eq vertical]
    have twice : y + y = 0 := by
      have opposite : y = -y := by simpa [curve] using vertical
      linear_combination opposite
    change toField (J.y * J.z + J.y * J.z) = 0
    simp only [toField_add, toField_mul, hy]
    linear_combination toField J.z ^ 4 * twice
  · rw [Point.add_self_of_Y_ne vertical]
    have twice : 2 * y ≠ 0 := by
      intro zero
      refine vertical ?_
      simp only [curve, negY, zero_mul, sub_zero]
      linear_combination zero
    have two : (2 : ZMod p) ≠ 0 := left_ne_zero_of_mul twice
    have upright : y ≠ 0 := right_ne_zero_of_mul twice
    have slope : E.curve.slope x x y y = (3 * x ^ 2 + toField E.a) / (2 * y) := by
      rw [slope_of_Y_ne rfl vertical]
      simp only [curve, negY, mul_zero, zero_mul, add_zero, sub_zero, sub_neg_eq_add, two_mul]
    refine ⟨?_, ?_, ?_⟩
    · simp only [toField_add, toField_mul, hy]
      have factored : y * toField J.z ^ 3 * toField J.z + y * toField J.z ^ 3 * toField J.z =
          2 * y * toField J.z ^ 4 := by
        ring
      rw [factored]
      exact mul_ne_zero twice (pow_ne_zero 4 z)
    · rw [slope]
      simp only [addX, curve, toField_add, toField_sub, toField_mul, hx, hy]
      field_simp
      ring
    · rw [slope]
      simp only [addY, negAddY, addX, negY, curve, toField_add, toField_sub, toField_mul, hx, hy]
      field_simp
      ring

theorem stands_double {J : Jacobian (Fin p)} {P : E.curve.Point} (stands : Stands J P) :
    Stands (E.doubleJacobian J) (P + P) := by
  cases P with
  | zero =>
    rw [doubleJacobian, if_pos (toField_eq_zero_iff.1 stands)]
    exact stands
  | some x y h => exact double_of_some h stands

private theorem add_of_some {x y x' y' : ZMod p} (h : E.curve.Nonsingular x y)
    (h' : E.curve.Nonsingular x' y') {J J' : Jacobian (Fin p)} (stands : Stands J (.some x y h))
    (stands' : Stands J' (.some x' y' h')) :
    Stands (E.addJacobian J J') (.some x y h + .some x' y' h') := by
  have doubled := stands_double stands
  obtain ⟨z, hx, hy⟩ := stands
  obtain ⟨z', hx', hy'⟩ := stands'
  rw [addJacobian, if_neg (mt toField_eq_zero_iff.2 z), if_neg (mt toField_eq_zero_iff.2 z')]
  -- the differences of the coordinates, with the denominators cleared
  have run : toField (J'.x * (J.z * J.z) - J.x * (J'.z * J'.z)) =
      (x' - x) * (toField J.z * toField J'.z) ^ 2 := by
    simp only [toField_sub, toField_mul, hx, hx']
    ring
  have rise : toField (J'.y * (J.z * (J.z * J.z)) - J.y * (J'.z * (J'.z * J'.z))) =
      (y' - y) * (toField J.z * toField J'.z) ^ 3 := by
    simp only [toField_sub, toField_mul, hy, hy']
    ring
  have scale : toField J.z * toField J'.z ≠ 0 := mul_ne_zero z z'
  have run_zero : toField (J'.x * (J.z * J.z) - J.x * (J'.z * J'.z)) = 0 ↔ x' = x := by
    rw [run, mul_eq_zero, sub_eq_zero, or_iff_left (pow_ne_zero 2 scale)]
  have rise_zero :
      toField (J'.y * (J.z * (J.z * J.z)) - J.y * (J'.z * (J'.z * J'.z))) = 0 ↔ y' = y := by
    rw [rise, mul_eq_zero, sub_eq_zero, or_iff_left (pow_ne_zero 3 scale)]
  rw [toField_eq_zero_iff] at run_zero rise_zero
  dsimp only
  by_cases abscissa : x' = x
  · rw [if_pos (run_zero.2 abscissa)]
    subst abscissa
    by_cases ordinate : y' = y
    · rw [if_pos (rise_zero.2 ordinate)]
      subst ordinate
      exact doubled
    · rw [if_neg (mt rise_zero.1 ordinate)]
      have opposite : y = E.curve.negY x' y' :=
        (Y_eq_of_X_eq h.1 h'.1 rfl).resolve_left (Ne.symm ordinate)
      rw [Point.add_of_Y_eq rfl opposite]
      exact stands_zero
  · rw [if_neg (mt run_zero.1 abscissa), Point.add_of_X_ne (Ne.symm abscissa)]
    have apart : x - x' ≠ 0 := sub_ne_zero.2 (Ne.symm abscissa)
    have apart' : x' - x ≠ 0 := sub_ne_zero.2 abscissa
    refine ⟨?_, ?_, ?_⟩
    · rw [toField_mul, toField_mul, run]
      exact mul_ne_zero scale (mul_ne_zero apart' (pow_ne_zero 2 scale))
    · simp only [addX, slope_of_X_ne (Ne.symm abscissa), curve, toField_sub, toField_mul, hx, hy,
        hx', hy']
      field_simp
      ring
    · simp only [addY, negAddY, addX, negY, slope_of_X_ne (Ne.symm abscissa), curve, toField_sub,
        toField_mul, hx, hy, hx', hy']
      field_simp
      ring

theorem stands_add {J J' : Jacobian (Fin p)} {P Q : E.curve.Point} (stands : Stands J P)
    (stands' : Stands J' Q) : Stands (E.addJacobian J J') (P + Q) := by
  cases P with
  | zero =>
    rw [addJacobian, if_pos (toField_eq_zero_iff.1 stands), ← Point.zero_def, zero_add]
    exact stands'
  | some x y h =>
    cases Q with
    | zero =>
      rw [addJacobian, if_neg (mt toField_eq_zero_iff.2 stands.1),
        if_pos (toField_eq_zero_iff.1 stands'), ← Point.zero_def, add_zero]
      exact stands
    | some x' y' h' => exact add_of_some h h' stands stands'

theorem Represents.stands (h : Represents A P) : Stands (toJacobian A) P := by
  cases A with
  | infinity =>
    obtain rfl : P = 0 := h
    exact stands_zero
  | affine x y =>
    obtain ⟨nonsingular, rfl⟩ := h
    refine ⟨?_, ?_, ?_⟩
    · simp only [toJacobian, toField_one, ne_eq, one_ne_zero, not_false_eq_true]
    · simp only [toJacobian, toField_one, one_pow, mul_one]
    · simp only [toJacobian, toField_one, one_pow, mul_one]

theorem Stands.represents {J : Jacobian (Fin p)} (h : Stands J P) :
    Represents (ofJacobian J) P := by
  cases P with
  | zero =>
    rw [ofJacobian, if_pos (toField_eq_zero_iff.1 h)]
    rfl
  | some x y nonsingular =>
    obtain ⟨z, hx, hy⟩ := h
    rw [ofJacobian, if_neg (mt toField_eq_zero_iff.2 z)]
    have abscissa : toField (J.x * (J.z⁻¹ * J.z⁻¹)) = x := by
      rw [toField_mul, toField_mul, toField_inv z, hx]
      field_simp
    have ordinate : toField (J.y * (J.z⁻¹ * J.z⁻¹ * J.z⁻¹)) = y := by
      rw [toField_mul, toField_mul, toField_mul, toField_inv z, hy]
      field_simp
    subst abscissa ordinate
    exact ⟨nonsingular, rfl⟩

theorem Represents.add (h : Represents A P) (h' : Represents B Q) :
    Represents (E.add A B) (P + Q) :=
  (stands_add h.stands h'.stands).represents

theorem Represents.multiply (h : Represents A P) (k : Nat) :
    Represents (E.multiply k A) (k • P) := by
  refine Stands.represents (ladder_induction (fun k total => Stands total (k • P)) ?_ ?_ ?_ k)
  · rw [zero_nsmul]
    exact stands_zero
  · intro k total stands
    rw [two_mul, add_nsmul]
    exact stands_double stands
  · intro k total stands
    rw [add_nsmul, two_mul, add_nsmul, one_nsmul]
    exact stands_add (stands_double stands) h.stands

end Weierstrass

end CustodySigner
