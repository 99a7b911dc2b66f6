import CustodySigner.Hash.Sha256
import CustodySigner.Bls12381.Points

set_option autoImplicit false
set_option relaxedAutoImplicit false

/-!
Hashing to the second group. A message is expanded to two elements of the quadratic extension, each
is mapped to a curve that is three-isogenous to the twist and then to the twist, and the sum of the
two points is multiplied into the subgroup.
-/

namespace CustodySigner.Bls12381

/-- `256` pseudorandom bytes from a message and a domain tag. -/
def expandMessage (tag message : Bytes) : Bytes :=
  let suffix := tag ++ [UInt8.ofNat tag.length]
  let start := Sha256.digest (List.replicate 64 0 ++ message ++ [1, 0, 0] ++ suffix)
  go start suffix 8 1 (List.replicate 32 0)
where
  /-- The next `count` blocks, the first with number `i`, chained from `last`. -/
  go (start suffix : Bytes) : Nat → Nat → Bytes → Bytes
    | 0, _, _ => []
    | count + 1, i, last =>
      let block := Sha256.digest (Bytes.xor start last ++ UInt8.ofNat i :: suffix)
      block ++ go start suffix count (i + 1) block

/-- The elements spelled by 64 bytes for each part, reduced. -/
def elementsOf (b : Bytes) : List Fp2 :=
  match (pieces 64 4 b).map fun part => residue modulus (Bytes.toNat part) with
  | [a, b, c, d] => [⟨a, b⟩, ⟨c, d⟩]
  | _ => []

def isogenous : Weierstrass Fp2 := ⟨⟨0, 240⟩, ⟨1012, 1012⟩⟩

/-- An element that is no square. -/
def nonsquare : Fp2 := ⟨-2, -1⟩

/-- The simplified map to the isogenous curve: of two candidates for the first coordinate at least
one fits, and the sign of the second coordinate is that of the argument. -/
def mapToIsogenous (t : Fp2) : AffinePoint Fp2 :=
  let E := isogenous
  let ztt := nonsquare * (t * t)
  let d := ztt * ztt + ztt
  let x1 := if d = 0 then E.b * (nonsquare * E.a)⁻¹ else -E.b * E.a⁻¹ * (1 + d⁻¹)
  let sided (x y : Fp2) : AffinePoint Fp2 := .affine x (if y.sign = t.sign then y else -y)
  match Fp2.squareRoot? (E.rhs x1) with
  | some y => sided x1 y
  | none =>
    let x2 := ztt * x1
    match Fp2.squareRoot? (E.rhs x2) with
    | some y => sided x2 y
    | none => .infinity

/-- The value at `x` of a polynomial given by its coefficients, the constant one first. -/
def evaluate (coefficients : List Fp2) (x : Fp2) : Fp2 :=
  coefficients.foldr (fun c value => value * x + c) 0

private def c1 : Fp :=
  0x5c759507e8e333ebb5b7a9a47d7ed8532c52d39fd3a042a88b58423c50ae15d5c2638e343d9c71c6238aaaaaaaa97d6

private def c2 : Fp :=
  0x11560bf17baa99bc32126fced787c88f984f87adf7ae0c7f9a208c6b4f20a4181472aaa9cb8d555526a9ffffffffc71a

private def c3 : Fp :=
  0x8ab05f8bdd54cde190937e76bc3e447cc27c3d6fbd7063fcd104635a790520c0a395554e5c6aaaa9354ffffffffe38d

private def c4 : Fp :=
  0x171d6541fa38ccfaed6dea691f5fb614cb14b4e7f4e810aa22d6108f142b85757098e38d0f671c7188e2aaaaaaaa5ed1

private def c5 : Fp :=
  0x1530477c7ab4113b59a4c18b076d11930f7da5d4a07f649bf54439d87d27e500fc8c25ebf8c92f6812cfc71c71c6d706

private def c6 : Fp :=
  0x124c9ad43b6cf79bfbf7043de3811ad0761b0f37a1e26286b0e977c69aa274524e79097a56dc4bd9e1b371c71c718b10

def isogeny : AffinePoint Fp2 → G2
  | .infinity => .infinity
  | .affine x y =>
    let xNumerator := evaluate [⟨c1, c1⟩, ⟨0, c2⟩, ⟨c2 + 4, c3⟩, ⟨c4, 0⟩] x
    let xDenominator := evaluate [⟨0, -72⟩, ⟨12, -12⟩, 1] x
    let yNumerator := evaluate [⟨c5, c5⟩, ⟨0, c1 - 24⟩, ⟨c2 + 2, c3 + 2⟩, ⟨c6, 0⟩] x
    let yDenominator := evaluate [⟨-432, -432⟩, ⟨0, -216⟩, ⟨18, -18⟩, 1] x
    if xDenominator = 0 || yDenominator = 0 then .infinity
    else .affine (xNumerator * xDenominator⁻¹) (y * (yNumerator * yDenominator⁻¹))

/-- A multiplier that takes every point of the twist into the subgroup. -/
def cofactor : Nat :=
  0xbc69f08f2ee75b3584c6a0ea91b352888e2a8e9145ad7689986ff031508ffe1329c2f178731db956d82bf015d1212b02ec0ec69d7477c1ae954cbc06689f6a359894c0adebbf6b4e8020005aaa95551

/-- The point of the second group that a message hashes to under a domain tag. -/
def hashToCurve (tag message : Bytes) : G2 :=
  twist.multiply cofactor
    ((elementsOf (expandMessage tag message)).foldl
      (fun P t => twist.add P (isogeny (mapToIsogenous t))) .infinity)

end CustodySigner.Bls12381
