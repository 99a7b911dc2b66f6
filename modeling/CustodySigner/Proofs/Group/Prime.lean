import CustodySigner.Proofs.Group.Lawful
import CustodySigner.Proofs.Group.Weierstrass
import Mathlib.GroupTheory.OrderOfElement

set_option autoImplicit false
set_option relaxedAutoImplicit false

/-!
The groups of the prime curves are lawful: their points are those of an elliptic curve over a prime
field, and it is enough to know the order of the base point.
-/

namespace CustodySigner

open WeierstrassCurve.Affine Weierstrass

section Parity

variable {p : Nat}

theorem isOdd_neg (odd : p % 2 = 1) {a : Fin p} (nonzero : a.val ≠ 0) :
    isOdd (-a) = !isOdd a := by
  have value : (-a).val = (p - a.val) % p := rfl
  have bound := a.isLt
  rw [Nat.mod_eq_of_lt (by omega)] at value
  unfold isOdd
  rw [value]
  rcases Nat.mod_two_eq_zero_or_one a.val with parity | parity
  · have other : (p - a.val) % 2 = 1 := by omega
    simp [parity, other]
  · have other : (p - a.val) % 2 = 0 := by omega
    simp [parity, other]

end Parity

namespace PrimeCurve

/-- What has to be known of a curve for its group to be lawful. -/
structure Sound (E : PrimeCurve) : Prop where
  prime : E.p.Prime
  prime_order : E.order.Prime
  three : E.p % 4 = 3
  odd_order : E.order ≠ 2
  size : E.p ≤ Bytes.range32
  /-- The curve has no singular point. -/
  smooth : E.equation.curve.Δ ≠ 0
  base_contained : E.equation.contains E.base = true
  base_finite : E.base ≠ .infinity
  torsion : haveI : Modulus E.p := ⟨E.positive⟩
    E.equation.multiply E.order E.base = .infinity

variable {E : PrimeCurve}

theorem Sound.odd (h : E.Sound) : E.p % 2 = 1 := by
  have three := h.three
  omega

private theorem equation_iff_rhs {p : Nat} {e : Weierstrass (Fin p)} {x y : Fin p} :
    e.curve.Equation (toField x) (toField y) ↔ y * y = e.rhs x := by
  rw [equation_iff, ← toField_injective.eq_iff (a := y * y)]
  simp only [curve, rhs, toField_add, toField_mul, zero_mul, add_zero, pow_succ, pow_zero, one_mul]

/-- The discriminant, up to its sign. -/
def discriminant (E : PrimeCurve) : Nat :=
  64 * E.equation.a.val ^ 3 + 432 * E.equation.b.val ^ 2

theorem curve_discriminant_ne_zero (h : E.discriminant % E.p ≠ 0) :
    E.equation.curve.Δ ≠ 0 := by
  have value : E.equation.curve.Δ = -(E.discriminant : ZMod E.p) := by
    simp only [discriminant, WeierstrassCurve.Δ, WeierstrassCurve.b₂, WeierstrassCurve.b₄,
      WeierstrassCurve.b₆, WeierstrassCurve.b₈, curve, toField]
    push_cast
    ring
  rw [value, neg_ne_zero]
  intro zero
  exact h (Nat.mod_eq_zero_of_dvd ((ZMod.natCast_eq_zero_iff _ _).1 zero))

theorem exists_represents (smooth : E.equation.curve.Δ ≠ 0) {A : AffinePoint (Fin E.p)}
    (contained : E.equation.contains A = true) : ∃ P, Represents (E := E.equation) A P := by
  cases A with
  | infinity => exact ⟨0, rfl⟩
  | affine x y =>
    have equation : E.equation.curve.Equation (toField x) (toField y) :=
      equation_iff_rhs.2 (by simpa [contains] using contained)
    have nonsingular := (equation_iff_nonsingular_of_Δ_ne_zero smooth).1 equation
    exact ⟨.some _ _ nonsingular, nonsingular, rfl⟩

theorem coordinates?_eq_some_iff {p x y : Nat} {A : AffinePoint (Fin p)} :
    coordinates? A = some (x, y) ↔ ∃ u v, A = .affine u v ∧ u.val = x ∧ v.val = y := by
  cases A with
  | infinity => simp [coordinates?]
  | affine u v => simp [coordinates?]

section Cyclic

variable [Fact E.p.Prime] {g : E.equation.curve.Point}

theorem represents_multiple (hg : Represents E.base g) (k : Nat) :
    Represents (E := E.equation) (E.group.multiple k) (k • g) :=
  haveI : Modulus E.p := ⟨E.positive⟩
  hg.multiply k

theorem add_multiple (hg : Represents E.base g) (j k : Nat) :
    E.group.add (E.group.multiple j) (E.group.multiple k) = E.group.multiple (j + k) := by
  have : Modulus E.p := ⟨E.positive⟩
  have sum := (represents_multiple hg j).add (represents_multiple hg k)
  rw [← add_nsmul] at sum
  exact sum.unique (represents_multiple hg (j + k))

theorem multiple_mod (hg : Represents E.base g) (torsion : E.order • g = 0) (k : Nat) :
    E.group.multiple (k % E.order) = E.group.multiple k := by
  have reduced := represents_multiple hg (k % E.order)
  have zero : (E.order * (k / E.order)) • g = 0 := by
    rw [mul_nsmul, torsion, nsmul_zero]
  rw [← zero_add ((k % E.order) • g), ← zero, ← add_nsmul, Nat.div_add_mod] at reduced
  exact reduced.unique (represents_multiple hg k)

theorem nsmul_order_eq_zero [Modulus E.p] (hg : Represents E.base g)
    (torsion : E.equation.multiply E.order E.base = .infinity) : E.order • g = 0 :=
  (represents_multiple hg E.order).eq_infinity_iff.1 torsion

theorem nsmul_eq_zero_iff (h : E.Sound) (hg : Represents E.base g) (k : Nat) :
    k • g = 0 ↔ E.order ∣ k := by
  have : Fact E.order.Prime := ⟨h.prime_order⟩
  have nonzero : g ≠ 0 := mt hg.eq_infinity_iff.2 h.base_finite
  have : Modulus E.p := ⟨E.positive⟩
  have torsion := nsmul_order_eq_zero hg h.torsion
  rw [← addOrderOf_eq_prime torsion nonzero, addOrderOf_dvd_iff_nsmul_eq_zero]

theorem coordinates?_multiple_eq_none_iff (h : E.Sound) (hg : Represents E.base g) (k : Nat) :
    E.group.coordinates? (E.group.multiple k) = none ↔ E.order ∣ k := by
  rw [← nsmul_eq_zero_iff h hg, ← (represents_multiple hg k).eq_infinity_iff]
  change coordinates? (E.group.multiple k) = none ↔ _
  cases E.group.multiple k with
  | infinity => simp [coordinates?]
  | affine x y => simp [coordinates?]

theorem ordinate_ne_zero (h : E.Sound) (hg : Represents E.base g) {k : Nat}
    {x y : Fin E.p} (here : E.group.multiple k = .affine x y) : y.val ≠ 0 := by
  intro zero
  have represents := represents_multiple hg k
  rw [here] at represents
  -- the multiple would be its own opposite, and only the neutral one is, since the order is odd
  have itself : Weierstrass.negate (.affine x y) = AffinePoint.affine x y := by
    have value : (-y).val = (E.p - y.val) % E.p := rfl
    have same : -y = y := Fin.ext (by rw [value, zero, Nat.sub_zero, Nat.mod_self])
    rw [Weierstrass.negate, same]
  have opposite := represents.negate
  rw [itself] at opposite
  have twice : (2 * k) • g = 0 := by
    have same := represents.point_unique opposite
    rw [two_mul, add_nsmul]
    nth_rewrite 1 [same]
    exact neg_add_cancel _
  have divides := (nsmul_eq_zero_iff h hg _).1 twice
  rcases h.prime_order.dvd_mul.1 divides with two | multiple
  · exact h.odd_order ((Nat.prime_dvd_prime_iff_eq h.prime_order Nat.prime_two).1 two)
  · have neutral := (coordinates?_multiple_eq_none_iff h hg k).2 multiple
    rw [here] at neutral
    cases neutral

theorem opposite_multiple (h : E.Sound) (hg : Represents E.base g) {j k x y : Nat}
    (opposite : E.order ∣ j + k)
    (found : E.group.coordinates? (E.group.multiple j) = some (x, y)) :
    ∃ y', E.group.coordinates? (E.group.multiple k) = some (x, y') ∧
      (y' % 2 == 1) = !(y % 2 == 1) := by
  obtain ⟨u, v, here, rfl, rfl⟩ := coordinates?_eq_some_iff.1 found
  have negated : k • g = -(j • g) := by
    have zero := (nsmul_eq_zero_iff h hg _).2 opposite
    rw [add_nsmul] at zero
    exact eq_neg_of_add_eq_zero_right zero
  have there : E.group.multiple k = Weierstrass.negate (.affine u v) := by
    have represents := represents_multiple hg k
    rw [negated] at represents
    exact represents.unique (here ▸ (represents_multiple hg j).negate)
  exact ⟨(-v).val, coordinates?_eq_some_iff.2 ⟨u, -v, there, rfl, rfl⟩,
    isOdd_neg h.odd (ordinate_ne_zero h hg here)⟩

theorem lift?_multiple (h : E.Sound) (hg : Represents E.base g) {k x y : Nat}
    (found : E.group.coordinates? (E.group.multiple k) = some (x, y)) :
    E.group.lift? x (y % 2 == 1) = some (E.group.multiple k) := by
  have : Modulus E.p := ⟨E.positive⟩
  obtain ⟨u, v, here, rfl, rfl⟩ := coordinates?_eq_some_iff.1 found
  have represents := represents_multiple hg k
  rw [here] at represents ⊢
  obtain ⟨nonsingular, -⟩ := represents
  have square : E.equation.rhs u = v * v := (equation_iff_rhs.1 nonsingular.1).symm
  have element : E.element? u.val = some u := by simp [element?]
  have flipped := isOdd_neg h.odd (ordinate_ne_zero h hg here)
  change E.lift? u.val (isOdd v) = _
  simp only [PrimeCurve.lift?, element, square]
  rcases squareRoot?_mul_self h.three v with root | root
  · rw [root]
    refine congrArg some (?_ : AffinePoint.affine u (if isOdd v = isOdd v then v else -v) = _)
    rw [if_pos rfl]
  · rw [root]
    refine congrArg some (?_ : AffinePoint.affine u (if isOdd (-v) = isOdd v then -v else - -v) = _)
    rw [if_neg (by simp [flipped]), neg_neg]

end Cyclic

/-- A curve of which enough is known has a lawful group. -/
theorem Sound.lawful (h : E.Sound) : E.group.Lawful := by
  have : Fact E.p.Prime := ⟨h.prime⟩
  have : Modulus E.p := ⟨E.positive⟩
  obtain ⟨g, hg⟩ := exists_represents h.smooth h.base_contained
  constructor
  case prime => exact h.prime_order
  case add_multiple => exact add_multiple hg
  case multiply_multiple =>
    intro j k
    have product := (represents_multiple hg k).multiply j
    rw [← mul_nsmul'] at product
    exact product.unique (represents_multiple hg (j * k))
  case multiple_mod => exact multiple_mod hg (nsmul_order_eq_zero hg h.torsion)
  case neutral => exact coordinates?_multiple_eq_none_iff h hg
  case opposite => exact opposite_multiple h hg
  case bounded =>
    intro k x y found
    obtain ⟨u, v, -, rfl, rfl⟩ := coordinates?_eq_some_iff.1 found
    exact lt_of_lt_of_le u.isLt h.size
  case lift => exact lift?_multiple h hg

end PrimeCurve

end CustodySigner
