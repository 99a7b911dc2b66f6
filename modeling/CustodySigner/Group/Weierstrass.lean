import CustodySigner.Algebra.Residue

set_option autoImplicit false
set_option relaxedAutoImplicit false

/-!
Curves `y² = x³ + ax + b` over a field. Points are affine; sums and multiples are computed in
Jacobian coordinates, where the triple `(x, y, z)` stands for the point `(x / z², y / z³)` and
`z = 0` for the point at infinity.
-/

namespace CustodySigner

structure Weierstrass (F : Type) where
  a : F
  b : F

inductive AffinePoint (F : Type) where
  | infinity
  | affine (x y : F)
deriving DecidableEq, Repr

/-- A triple that stands for a point. -/
structure Jacobian (F : Type) where
  x : F
  y : F
  z : F

namespace Weierstrass

variable {F : Type} [Zero F] [One F] [Add F] [Sub F] [Mul F] [Neg F] [Inv F] [DecidableEq F]

def rhs (E : Weierstrass F) (x : F) : F :=
  x * x * x + E.a * x + E.b

def contains (E : Weierstrass F) : AffinePoint F → Bool
  | .infinity => true
  | .affine x y => y * y = E.rhs x

def negate : AffinePoint F → AffinePoint F
  | .infinity => .infinity
  | .affine x y => .affine x (-y)

def toJacobian : AffinePoint F → Jacobian F
  | .infinity => ⟨1, 1, 0⟩
  | .affine x y => ⟨x, y, 1⟩

def ofJacobian (P : Jacobian F) : AffinePoint F :=
  if P.z = 0 then .infinity
  else
    let w := P.z⁻¹
    let ww := w * w
    .affine (P.x * ww) (P.y * (ww * w))

def doubleJacobian (E : Weierstrass F) (P : Jacobian F) : Jacobian F :=
  if P.z = 0 then P
  else
    let yy := P.y * P.y
    let xyy := P.x * yy
    let twice := xyy + xyy
    let s := twice + twice
    let xx := P.x * P.x
    let zz := P.z * P.z
    let m := xx + xx + xx + E.a * (zz * zz)
    let x := m * m - s - s
    let y4 := yy * yy
    let y8 := (y4 + y4) + (y4 + y4)
    let yz := P.y * P.z
    ⟨x, m * (s - x) - (y8 + y8), yz + yz⟩

def addJacobian (E : Weierstrass F) (P Q : Jacobian F) : Jacobian F :=
  if P.z = 0 then Q
  else if Q.z = 0 then P
  else
    let zp := P.z * P.z
    let zq := Q.z * Q.z
    let u := P.x * zq
    let s := P.y * (Q.z * zq)
    let h := Q.x * zp - u
    let r := Q.y * (P.z * zp) - s
    if h = 0 then
      if r = 0 then E.doubleJacobian P else ⟨1, 1, 0⟩
    else
      let hh := h * h
      let hhh := h * hh
      let v := u * hh
      let x := r * r - hhh - v - v
      ⟨x, r * (v - x) - s * hhh, P.z * Q.z * h⟩

def add (E : Weierstrass F) (P Q : AffinePoint F) : AffinePoint F :=
  ofJacobian (E.addJacobian (toJacobian P) (toJacobian Q))

/-- The `k`-fold sum of a point. -/
def multiply (E : Weierstrass F) (k : Nat) (P : AffinePoint F) : AffinePoint F :=
  ofJacobian (ladder ⟨1, 1, 0⟩ E.doubleJacobian E.addJacobian (toJacobian P) k)

end Weierstrass

end CustodySigner
