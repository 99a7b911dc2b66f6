import CustodySigner.Algebra.Residue

set_option autoImplicit false
set_option relaxedAutoImplicit false

/-!
The fields of the curve BLS12-381. The base field is extended by `u² = -1`, then by `v³ = 1 + u`,
then by `w² = v`.
-/

namespace CustodySigner.Bls12381

abbrev modulus : Nat :=
  0x1a0111ea397fe69a4b1ba7b6434bacd764774b84f38512bf6730d2a0f6b0f6241eabfffeb153ffffb9feffffffffaaab

instance modulusPositive : Modulus modulus := ⟨by decide⟩

instance modulusNonzero : @NeZero Nat (@Zero.ofOfNat0 Nat (instOfNatNat 0)) modulus :=
  ⟨Nat.ne_of_gt modulusPositive.positive⟩

/-- The order of the groups and of the ring of secret keys. -/
def order : Nat := 0x73eda753299d7d483339d80809a1d80553bda402fffe5bfeffffffff00000001

abbrev Fp := Fin modulus

/-- The element is the greater of itself and its negative. -/
def Fp.isUpper (a : Fp) : Bool :=
  (modulus - 1) / 2 < a.val

/-- The quadratic extension: `re + im u`. -/
structure Fp2 where
  re : Fp
  im : Fp
deriving DecidableEq, Repr

namespace Fp2

instance instZero : Zero Fp2 where zero := ⟨0, 0⟩
instance instOne : One Fp2 where one := ⟨1, 0⟩
instance instAdd : Add Fp2 where add a b := ⟨a.re + b.re, a.im + b.im⟩
instance instSub : Sub Fp2 where sub a b := ⟨a.re - b.re, a.im - b.im⟩
instance instNeg : Neg Fp2 where neg a := ⟨-a.re, -a.im⟩

instance instMul : Mul Fp2 where
  mul a b := ⟨a.re * b.re - a.im * b.im, a.re * b.im + a.im * b.re⟩

instance instInv : Inv Fp2 where
  inv a :=
    let w := (a.re * a.re + a.im * a.im)⁻¹
    ⟨a.re * w, -(a.im * w)⟩

/-- The product with `1 + u`. -/
def shift (a : Fp2) : Fp2 := ⟨a.re - a.im, a.re + a.im⟩

/-- A square root, through a root of the norm: one of `(re ± root) / 2` is the square of the real
part. An element of the base field has a root there or a root that is a multiple of `u`. -/
def squareRoot? (a : Fp2) : Option Fp2 :=
  if a.im = 0 then
    match CustodySigner.squareRoot? a.re with
    | some r => some ⟨r, 0⟩
    | none => (CustodySigner.squareRoot? (-a.re)).map fun r => ⟨0, r⟩
  else
    match CustodySigner.squareRoot? (a.re * a.re + a.im * a.im) with
    | none => none
    | some norm =>
      let half : Fp := (2 : Fp)⁻¹
      let real :=
        match CustodySigner.squareRoot? ((a.re + norm) * half) with
        | some r => some r
        | none => CustodySigner.squareRoot? ((a.re - norm) * half)
      real.map fun r => ⟨r, a.im * (r + r)⁻¹⟩

/-- The element is the greater of itself and its negative, by the `u` part first. -/
def isUpper (a : Fp2) : Bool :=
  if a.im = 0 then a.re.isUpper else a.im.isUpper

/-- The sign of an element: the parity of its first part that is not zero. -/
def sign (a : Fp2) : Bool :=
  isOdd a.re || (a.re = 0 && isOdd a.im)

end Fp2

/-- The cubic extension: `c0 + c1 v + c2 v²`. -/
structure Fp6 where
  c0 : Fp2
  c1 : Fp2
  c2 : Fp2
deriving DecidableEq, Repr

namespace Fp6

instance instZero : Zero Fp6 where zero := ⟨0, 0, 0⟩
instance instOne : One Fp6 where one := ⟨1, 0, 0⟩
instance instAdd : Add Fp6 where add a b := ⟨a.c0 + b.c0, a.c1 + b.c1, a.c2 + b.c2⟩
instance instSub : Sub Fp6 where sub a b := ⟨a.c0 - b.c0, a.c1 - b.c1, a.c2 - b.c2⟩
instance instNeg : Neg Fp6 where neg a := ⟨-a.c0, -a.c1, -a.c2⟩

instance instMul : Mul Fp6 where
  mul a b :=
    let t0 := a.c0 * b.c0
    let t1 := a.c1 * b.c1
    let t2 := a.c2 * b.c2
    ⟨t0 + ((a.c1 + a.c2) * (b.c1 + b.c2) - t1 - t2).shift,
      (a.c0 + a.c1) * (b.c0 + b.c1) - t0 - t1 + t2.shift,
      (a.c0 + a.c2) * (b.c0 + b.c2) - t0 - t2 + t1⟩

instance instInv : Inv Fp6 where
  inv a :=
    let x := a.c0 * a.c0 - (a.c1 * a.c2).shift
    let y := (a.c2 * a.c2).shift - a.c0 * a.c1
    let z := a.c1 * a.c1 - a.c0 * a.c2
    let w := (a.c0 * x + (a.c2 * y + a.c1 * z).shift)⁻¹
    ⟨x * w, y * w, z * w⟩

def shift (a : Fp6) : Fp6 := ⟨a.c2.shift, a.c0, a.c1⟩

end Fp6

/-- The field of pairing values: `a + b w`. -/
structure Fp12 where
  a : Fp6
  b : Fp6
deriving DecidableEq, Repr

namespace Fp12

instance instOne : One Fp12 where one := ⟨1, 0⟩

instance instMul : Mul Fp12 where
  mul x y :=
    let t0 := x.a * y.a
    let t1 := x.b * y.b
    ⟨t0 + t1.shift, (x.a + x.b) * (y.a + y.b) - t0 - t1⟩

instance instInv : Inv Fp12 where
  inv x :=
    let w := (x.a * x.a - (x.b * x.b).shift)⁻¹
    ⟨x.a * w, -(x.b * w)⟩

/-- The power with exponent `modulus ^ 6`. -/
def conjugate (x : Fp12) : Fp12 := ⟨x.a, -x.b⟩

end Fp12

end CustodySigner.Bls12381
