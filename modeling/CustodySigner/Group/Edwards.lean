import CustodySigner.Algebra.Residue

set_option autoImplicit false
set_option relaxedAutoImplicit false

/-!
The twisted Edwards curve `-x² + y² = 1 + dx²y²` over the field with `2^255 - 19` elements. Points
are held in extended coordinates: `(x, y, z, t)` stands for the point `(x / z, y / z)`, and
`t = x y / z`. The addition law has no exceptions.
-/

namespace CustodySigner.Edwards

abbrev modulus : Nat := 0x7fffffffffffffffffffffffffffffffffffffffffffffffffffffffffffffed

instance modulusPositive : Modulus modulus := ⟨by decide⟩

abbrev Element := Fin modulus

def order : Nat := 0x1000000000000000000000000000000014def9dea2f79cd65812631a5cf5d3ed

structure Point where
  x : Element
  y : Element
  z : Element
  t : Element

def ofAffine (x y : Element) : Point :=
  ⟨x, y, 1, x * y⟩

def neutral : Point := ofAffine 0 1

def base : Point := ofAffine
  0x216936d3cd6e53fec0a4e231fdd6dc5c692cc7609525a7b2c9562d608f25d51a
  0x6666666666666666666666666666666666666666666666666666666666666658

def coefficient : Element :=
  0x52036cee2b6ffe738cc740797779e89800700a4d4141d8ab75eb4dca135978a3

def add (P Q : Point) : Point :=
  let a := (P.y - P.x) * (Q.y - Q.x)
  let b := (P.y + P.x) * (Q.y + Q.x)
  let dtt := coefficient * (P.t * Q.t)
  let c := dtt + dtt
  let zz := P.z * Q.z
  let d := zz + zz
  let e := b - a
  let f := d - c
  let g := d + c
  let h := b + a
  ⟨e * f, g * h, f * g, e * h⟩

def negate (P : Point) : Point :=
  { P with x := -P.x, t := -P.t }

def multiply (k : Nat) (P : Point) : Point :=
  ladder neutral (fun Q => add Q Q) add P k

def imaginary : Element :=
  0x2b8324804fc1df0b2b4d00993dfbd7a72f431806ad2fe478c4ee1b274a0ea0b0

/-- A square root of `u / v`. The power is a root of it or of its negative. -/
def rootOfQuotient? (u v : Element) : Option Element :=
  let quotient := u * v⁻¹
  let root := power quotient ((modulus + 3) / 8)
  if root * root = quotient then some root
  else if root * root = -quotient then some (root * imaginary)
  else none

/-- The point with second coordinate `y` whose first coordinate is odd or even as asked; where that
coordinate is zero both are granted. -/
def lift? (y : Element) (odd : Bool) : Option Point :=
  let yy := y * y
  (rootOfQuotient? (yy - 1) (coefficient * yy + 1)).map fun x =>
    ofAffine (if isOdd x = odd then x else -x) y

end CustodySigner.Edwards
