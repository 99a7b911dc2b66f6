import CustodySigner.Bls12381.Points

set_option autoImplicit false
set_option relaxedAutoImplicit false

/-!
The ate pairing of BLS12-381. A point of the twist is carried to the curve over the top field by
dividing its coordinates by `w²` and `w³`. Lines are multiplied by `w³`, which the final power
removes, and vertical lines are left out, which it removes too.
-/

namespace CustodySigner.Bls12381

/-- The absolute value of the parameter of the curve, which is negative. -/
def parameter : Nat := 0xd201000000010000

/-- The line of the given slope through the point `(x, y)` of the twist, at a point of the curve. -/
def lineAt (slope x y : Fp2) (px py : Fp) : Fp12 :=
  ⟨⟨slope * x - y, -(slope * ⟨px, 0⟩), 0⟩, ⟨0, ⟨py, 0⟩, 0⟩⟩

/-- A point of the twist other than infinity, and the value of the loop so far. -/
structure MillerState where
  x : Fp2
  y : Fp2
  value : Fp12

/-- Moves to the third point of the line, mirrored, and multiplies its value in. -/
def MillerState.advance (s : MillerState) (value : Fp12) (slope x : Fp2) (px py : Fp) :
    MillerState :=
  let x' := slope * slope - s.x - x
  ⟨x', slope * (s.x - x') - s.y, value * lineAt slope s.x s.y px py⟩

def MillerState.double (px py : Fp) (s : MillerState) : MillerState :=
  let xx := s.x * s.x
  let slope := (xx + xx + xx) * (s.y + s.y)⁻¹
  s.advance (s.value * s.value) slope s.x px py

def MillerState.add (px py : Fp) (x y : Fp2) (s : MillerState) : MillerState :=
  s.advance s.value ((y - s.y) * (x - s.x)⁻¹) x px py

/-- The value of the Miller loop; one if either point is infinity. -/
def miller : G1 → G2 → Fp12
  | .affine px py, .affine x y =>
    let digits := (binaryDigits (parameter.log2 + 1) parameter []).tail
    let last := digits.foldl
      (fun s digit =>
        if digit then (s.double px py).add px py x y else s.double px py)
      (⟨x, y, 1⟩ : MillerState)
    last.value.conjugate
  | _, _ => 1

/-- The power that makes the value of a loop depend on the classes of the points only. -/
def finalPower (x : Fp12) : Fp12 :=
  let y := x.conjugate * x⁻¹
  let q := modulus * modulus
  let z := power y q * y
  power z ((q * q - q + 1) / order)

/-- The product of the pairings of the pairs is one. -/
def pairingsCancel (pairs : List (G1 × G2)) : Bool :=
  finalPower (pairs.foldl (fun x (P, Q) => x * miller P Q) 1) = 1

end CustodySigner.Bls12381
