import CustodySigner.Bytes
import CustodySigner.Group.Weierstrass

set_option autoImplicit false
set_option relaxedAutoImplicit false

/-!
Groups of prime order whose points have coordinates that are numbers, as ECDSA uses them, and the
two standard ones: secp256k1 and secp256r1.
-/

namespace CustodySigner

/-- A group of points with a base point of prime order. The signature algorithms know a point only
through its coordinates. -/
structure CurveGroup where
  Point : Type
  /-- The order of the base point, which 32 bytes can spell. -/
  order : Nat
  one_lt_order : 1 < order
  order_le : order ≤ Bytes.range32
  base : Point
  add : Point → Point → Point
  multiply : Nat → Point → Point
  /-- The coordinates of a point other than the neutral one. -/
  coordinates? : Point → Option (Nat × Nat)
  /-- The point with these coordinates. -/
  point? : Nat → Nat → Option Point
  /-- The point with this first coordinate whose second coordinate is odd or even as asked. -/
  lift? : Nat → Bool → Option Point

/-- A curve over the field with `p` elements, where `p % 4 = 3`, and a base point of prime order. -/
structure PrimeCurve where
  p : Nat
  positive : 0 < p := by decide
  equation : Weierstrass (Fin p)
  base : AffinePoint (Fin p)
  order : Nat
  one_lt_order : 1 < order := by decide
  order_le : order ≤ Bytes.range32 := by decide

namespace PrimeCurve

/-- The field element equal to `n`, if `n` is reduced. -/
def element? (E : PrimeCurve) (n : Nat) : Option (Fin E.p) :=
  if h : n < E.p then some ⟨n, h⟩ else none

def point? (E : PrimeCurve) (x y : Nat) : Option (AffinePoint (Fin E.p)) :=
  match E.element? x, E.element? y with
  | some x, some y =>
    if E.equation.contains (.affine x y) then some (.affine x y) else none
  | _, _ => none

def lift? (E : PrimeCurve) (x : Nat) (odd : Bool) : Option (AffinePoint (Fin E.p)) :=
  haveI : Modulus E.p := ⟨E.positive⟩
  match E.element? x with
  | none => none
  | some x => (squareRoot? (E.equation.rhs x)).map fun y =>
      .affine x (if isOdd y = odd then y else -y)

def coordinates? {p : Nat} : AffinePoint (Fin p) → Option (Nat × Nat)
  | .infinity => none
  | .affine x y => some (x.val, y.val)

def group (E : PrimeCurve) : CurveGroup :=
  haveI : Modulus E.p := ⟨E.positive⟩
  { Point := AffinePoint (Fin E.p)
    order := E.order
    one_lt_order := E.one_lt_order
    order_le := E.order_le
    base := E.base
    add := E.equation.add
    multiply := E.equation.multiply
    coordinates? := coordinates?
    point? := E.point?
    lift? := E.lift? }

end PrimeCurve

def secp256k1 : PrimeCurve where
  p := 0xfffffffffffffffffffffffffffffffffffffffffffffffffffffffefffffc2f
  equation := ⟨0, 7⟩
  base := .affine
    0x79be667ef9dcbbac55a06295ce870b07029bfcdb2dce28d959f2815b16f81798
    0x483ada7726a3c4655da4fbfc0e1108a8fd17b448a68554199c47d08ffb10d4b8
  order := 0xfffffffffffffffffffffffffffffffebaaedce6af48a03bbfd25e8cd0364141

def secp256r1 : PrimeCurve where
  p := 0xffffffff00000001000000000000000000000000ffffffffffffffffffffffff
  equation := ⟨-3, 0x5ac635d8aa3a93e7b3ebbd55769886bc651d06b0cc53b0f63bce3c3e27d2604b⟩
  base := .affine
    0x6b17d1f2e12c4247f8bce6e563a440f277037d812deb33a0f4a13945d898c296
    0x4fe342e2fe1a7f9b8ee7eb4a7c0f9e162bce33576b315ececbb6406837bf51f5
  order := 0xffffffff00000000ffffffffffffffffbce6faada7179e84f3b9cac2fc632551

end CustodySigner
