import CustodySigner.Proofs.Algebra.Cubic
import CustodySigner.Proofs.Group.Standard
import Mathlib.GroupTheory.Perm.Cycle.Type
import Mathlib.GroupTheory.SpecificGroups.Cyclic.Basic

set_option autoImplicit false
set_option relaxedAutoImplicit false

/-!
Curves on which every point is a multiple of the base point. A point is known by its first coordinate
and a parity, so that there are at most `2p + 1` points, and the order of the base point divides their
number. Where that order is more than a third of the bound, and odd because the cubic of the curve has
no root, the base point spans the whole curve.
-/

namespace CustodySigner

open WeierstrassCurve.Affine Weierstrass

namespace PrimeCurve

instance instModulus (E : PrimeCurve) : Modulus E.p := ⟨E.positive⟩

/-- The curve has no point of order two. -/
def Rootless (E : PrimeCurve) : Prop :=
  ∀ x : ZMod E.p, x ^ 3 + toField E.equation.a * x + toField E.equation.b ≠ 0

variable {E : PrimeCurve}

section Count

variable [Fact E.p.Prime]

/-- The first coordinate of a point and the parity of the second. -/
def shadow : E.equation.curve.Point → Option (ZMod E.p × Bool)
  | .zero => none
  | .some x y _ => some (x, y.val % 2 == 1)

theorem Rootless.ordinate_ne_zero (rootless : E.Rootless) {x y : ZMod E.p}
    (h : E.equation.curve.Equation x y) : y ≠ 0 := by
  rintro rfl
  rw [equation_iff] at h
  refine rootless x ?_
  simp only [curve] at h
  linear_combination -h

theorem Rootless.parity_ne (odd : E.p % 2 = 1) (rootless : E.Rootless) {x y : ZMod E.p}
    (h : E.equation.curve.Equation x y) : (-y).val % 2 ≠ y.val % 2 := by
  have : NeZero y := ⟨rootless.ordinate_ne_zero h⟩
  have bound := y.val_lt
  rw [ZMod.val_neg_of_ne_zero]
  omega

theorem shadow_injective (odd : E.p % 2 = 1) (rootless : E.Rootless) :
    Function.Injective (shadow (E := E)) := by
  intro P Q same
  cases P with
  | zero =>
    cases Q with
    | zero => rfl
    | some x' y' h' => cases same
  | some x y h =>
    cases Q with
    | zero => cases same
    | some x' y' h' =>
      obtain ⟨rfl, parity⟩ := Prod.mk.inj (Option.some.inj same)
      rcases Y_eq_of_X_eq h.1 h'.1 rfl with rfl | opposite
      · rfl
      · have negated : y = -y' := by simpa [curve] using opposite
        rw [negated, Bool.eq_iff_iff, beq_iff_eq, beq_iff_eq] at parity
        have differ := rootless.parity_ne odd h'.1
        omega

theorem finite_point (odd : E.p % 2 = 1) (rootless : E.Rootless) :
    Finite E.equation.curve.Point :=
  Finite.of_injective _ (shadow_injective odd rootless)

theorem card_point_le (odd : E.p % 2 = 1) (rootless : E.Rootless) :
    Nat.card E.equation.curve.Point ≤ 2 * E.p + 1 := by
  have bound := Nat.card_le_card_of_injective _ (shadow_injective odd rootless)
  rw [Finite.card_option, Nat.card_prod, Nat.card_zmod] at bound
  have two : Nat.card Bool = 2 := Nat.card_eq_fintype_card
  rw [two] at bound
  omega

theorem card_point_odd (odd : E.p % 2 = 1) (rootless : E.Rootless) :
    ¬ 2 ∣ Nat.card E.equation.curve.Point := by
  intro even
  have := finite_point odd rootless
  obtain ⟨P, two⟩ := exists_prime_addOrderOf_dvd_card' 2 even
  have itself : P = -P := by
    have twice : 2 • P = 0 := two ▸ addOrderOf_nsmul_eq_zero P
    rw [two_nsmul] at twice
    exact eq_neg_of_add_eq_zero_left twice
  cases P with
  | zero =>
    rw [← Point.zero_def, addOrderOf_zero] at two
    cases two
  | some x y h =>
    rw [Point.neg_some] at itself
    obtain ⟨-, opposite⟩ := Point.some.inj itself
    have negated : y = -y := by simpa [curve] using opposite
    exact rootless.parity_ne odd h.1 (congrArg (·.val % 2) negated.symm)

/-- The base point spans the whole curve. -/
theorem exists_nsmul_eq (h : E.Sound) (rootless : E.Rootless)
    (narrow : 2 * E.p + 1 < 3 * E.order) {g : E.equation.curve.Point} (hg : Represents E.base g)
    (P : E.equation.curve.Point) : ∃ k : Nat, k • g = P := by
  have := finite_point h.odd rootless
  have : Fact E.order.Prime := ⟨h.prime_order⟩
  -- the number of points is an odd multiple of the order, and less than three times it
  have card : Nat.card E.equation.curve.Point = E.order := by
    have bound := card_point_le h.odd rootless
    have odd := card_point_odd h.odd rootless
    have positive : 0 < Nat.card E.equation.curve.Point := Nat.card_pos
    obtain ⟨m, product⟩ := (nsmul_eq_zero_iff h hg _).1 (card_nsmul_eq_zero' (x := g))
    rw [product] at bound odd positive ⊢
    have below : m < 3 := by
      by_contra large
      have many : E.order * 3 ≤ E.order * m := Nat.mul_le_mul_left _ (not_lt.1 large)
      omega
    interval_cases m
    · cases positive
    · exact mul_one _
    · exact absurd (Dvd.intro_left _ rfl) odd
  exact mem_multiples_of_prime_card card (mt hg.eq_infinity_iff.2 h.base_finite)

theorem exists_multiple_eq (h : E.Sound) (rootless : E.Rootless)
    (narrow : 2 * E.p + 1 < 3 * E.order) {A : AffinePoint (Fin E.p)}
    (contained : E.equation.contains A = true) : ∃ k, A = E.group.multiple k := by
  obtain ⟨g, hg⟩ := exists_represents h.smooth h.base_contained
  obtain ⟨P, represents⟩ := exists_represents h.smooth contained
  obtain ⟨k, rfl⟩ := exists_nsmul_eq h rootless narrow hg P
  exact ⟨k, represents.unique (represents_multiple hg k)⟩

end Count

theorem isOdd_select {p : Nat} (uneven : p % 2 = 1) {v : Fin p} (nonzero : v.val ≠ 0) (odd : Bool) :
    isOdd (if isOdd v = odd then v else -v) = odd := by
  split_ifs with same
  · exact same
  · rw [isOdd_neg uneven nonzero]
    cases odd <;> simpa using same

theorem exists_of_lift? {x : Nat} {odd : Bool} {A : AffinePoint (Fin E.p)}
    (h : E.lift? x odd = some A) : ∃ u v : Fin E.p, u.val = x ∧ v * v = E.equation.rhs u ∧
      A = .affine u (if isOdd v = odd then v else -v) := by
  unfold PrimeCurve.lift? element? at h
  split_ifs at h with bound
  obtain ⟨v, root, rfl⟩ := Option.map_eq_some_iff.1 h
  exact ⟨⟨x, bound⟩, v, rfl, mul_self_of_squareRoot? root, rfl⟩

theorem contains_of_point? {x y : Nat} {A : AffinePoint (Fin E.p)} (h : E.point? x y = some A) :
    E.equation.contains A = true := by
  unfold PrimeCurve.point? at h
  split at h
  · split_ifs at h with contained
    rwa [← Option.some.inj h]
  · cases h

theorem Sound.spanned (h : E.Sound) (rootless : E.Rootless)
    (narrow : 2 * E.p + 1 < 3 * E.order) : E.group.Spanned := by
  have : Fact E.p.Prime := ⟨h.prime⟩
  constructor
  case lift =>
    intro x odd A lifted
    obtain ⟨u, v, rfl, square, rfl⟩ := exists_of_lift? lifted
    have contained : E.equation.contains (.affine u (if isOdd v = odd then v else -v)) = true := by
      have opposite : -v * -v = v * v := toField_injective (by simp)
      unfold contains
      split_ifs <;> simp [square, opposite]
    have nonzero : v.val ≠ 0 := by
      intro zero
      have value := congrArg toField square
      have root : toField v = 0 := by rw [toField, zero, Nat.cast_zero]
      simp only [rhs, toField_add, toField_mul, root] at value
      refine rootless (toField u) ?_
      linear_combination -value
    obtain ⟨k, same⟩ := exists_multiple_eq h rootless narrow contained
    exact ⟨k, _, same, coordinates?_eq_some_iff.2 ⟨u, _, same.symm, rfl, rfl⟩,
      isOdd_select h.odd nonzero odd⟩
  case point =>
    intro x y A read
    exact exists_multiple_eq h rootless narrow (contains_of_point? read)

end PrimeCurve

/-- The inverse of `x ^ p - x` modulo the cubic of secp256r1. -/
def secp256r1Inverse : Remainder secp256r1.p where
  constant := ⟨0xa969487079f1744798bf0de6fded091b66e9d328eb0645fe5d979d1339b7f47f, by decide⟩
  linear := ⟨0xa4a08891884100c13323460107a8d28eede4387fa3e6e9bfebec9f6d72d0b5cc, by decide⟩
  square := ⟨0x4cde11cf86cb876cd59cf0115813c55af0ecd3cda667d98bb9a347a56aa74a6d, by decide⟩

set_option maxRecDepth 10000 in
theorem rootless_secp256r1 : secp256r1.Rootless := by
  have : Fact secp256r1.p.Prime := ⟨prime_secp256r1_p⟩
  have certified : Remainder.multiply secp256r1.equation.a secp256r1.equation.b secp256r1Inverse
      (Remainder.frobenius secp256r1.equation.a secp256r1.equation.b) = Remainder.one := by
    decide +kernel
  exact Remainder.cubic_ne_zero certified

theorem spanned_secp256r1 : secp256r1.group.Spanned :=
  sound_secp256r1.spanned rootless_secp256r1 (by decide)

end CustodySigner
