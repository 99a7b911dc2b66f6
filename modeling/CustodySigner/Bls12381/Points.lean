import CustodySigner.Bytes
import CustodySigner.Bls12381.Tower
import CustodySigner.Group.Weierstrass

set_option autoImplicit false
set_option relaxedAutoImplicit false

/-!
The two groups of BLS12-381 and their encodings. An encoding begins with three flags: compressed,
infinity, and, for a compressed point, whether the second coordinate is the greater of the two.
-/

namespace CustodySigner.Bls12381

/-- A point of the curve over the base field, which holds the public keys. -/
abbrev G1 := AffinePoint Fp

/-- A point of the twisted curve over the quadratic extension, which holds the signatures. -/
abbrev G2 := AffinePoint Fp2

def curve : Weierstrass Fp := ⟨0, 4⟩

def twist : Weierstrass Fp2 := ⟨0, ⟨4, 4⟩⟩

/-- The base point of the first group. -/
def generator : G1 := .affine
  0x17f1d3a73197d7942695638c4fa9ac0fc3688c4f9774b905a14e3a3f171bac586c55e83ff97a1aeffb3af00adb22c6bb
  0x08b3f481e3aaa0f1a09e30ed741d8ae4fcf5e095d5d00af600db18cb2c04b3edd03cc744a2888ae40caa232946c5e7e1

def inFirstGroup (P : G1) : Bool := curve.multiply order P = .infinity

def inSecondGroup (P : G2) : Bool := twist.multiply order P = .infinity

/-- Why bytes are no point or no secret key. -/
inductive EncodingError where
  | badEncoding
  | notOnCurve
  | notInGroup
deriving DecidableEq, Repr

def EncodingError.message : EncodingError → String
  | .badEncoding => "BLST_BAD_ENCODING"
  | .notOnCurve => "BLST_POINT_NOT_ON_CURVE"
  | .notInGroup => "BLST_POINT_NOT_IN_GROUP"

/-- How a coordinate is written and compared. -/
structure CoordinateFormat (F : Type) where
  size : Nat
  toBytes : F → Bytes
  ofBytes? : Bytes → Option F
  squareRoot? : F → Option F
  isUpper : F → Bool

def readFp? (b : Bytes) : Option Fp :=
  let n := Bytes.toNat b
  if h : n < modulus then some ⟨n, h⟩ else none

def firstFormat : CoordinateFormat Fp where
  size := 48
  toBytes a := Bytes.ofNat 48 a.val
  ofBytes? := readFp?
  squareRoot? := squareRoot?
  isUpper := Fp.isUpper

/-- In the extension the `u` part comes first. -/
def secondFormat : CoordinateFormat Fp2 where
  size := 96
  toBytes a := Bytes.ofNat 48 a.im.val ++ Bytes.ofNat 48 a.re.val
  ofBytes? b :=
    match readFp? (b.take 48), readFp? (b.drop 48) with
    | some im, some re => some ⟨re, im⟩
    | _, _ => none
  squareRoot? := Fp2.squareRoot?
  isUpper := Fp2.isUpper

section

variable {F : Type} [Add F] [Mul F] [Neg F] [DecidableEq F]

def flag (flags : UInt8) : Bytes → Bytes
  | [] => []
  | first :: rest => (first ||| flags) :: rest

def compress (format : CoordinateFormat F) : AffinePoint F → Bytes
  | .infinity => 0xc0 :: List.replicate (format.size - 1) 0
  | .affine x y => flag (if format.isUpper y then 0xa0 else 0x80) (format.toBytes x)

@[simp] theorem length_flag (flags : UInt8) (b : Bytes) : (flag flags b).length = b.length := by
  cases b <;> rfl

omit [Add F] [Mul F] [Neg F] [DecidableEq F] in
theorem length_compress (format : CoordinateFormat F) (h : ∀ a, (format.toBytes a).length = format.size)
    (positive : 0 < format.size) (P : AffinePoint F) : (compress format P).length = format.size := by
  cases P with
  | infinity => simp [compress]; omega
  | affine x y => simp [compress, h]

def uncompress (format : CoordinateFormat F) (E : Weierstrass F) (first : UInt8) (rest : Bytes) :
    Except EncodingError (AffinePoint F) :=
  if first &&& 0x40 ≠ 0 then
    if first &&& 0x3f = 0 && rest.all (· == 0) then .ok .infinity else .error .badEncoding
  else
    match format.ofBytes? ((first &&& 0x1f) :: rest) with
    | none => .error .badEncoding
    | some x =>
      match format.squareRoot? (E.rhs x) with
      | none => .error .notOnCurve
      | some y =>
        .ok (.affine x (if format.isUpper y = (first &&& 0x20 ≠ 0) then y else -y))

/-- Reads a point with both coordinates of the right length. -/
def readPair (format : CoordinateFormat F) (E : Weierstrass F) (first : UInt8) (rest : Bytes) :
    Except EncodingError (AffinePoint F) :=
  if first &&& 0xe0 = 0 then
    let b := first :: rest
    match format.ofBytes? (b.take format.size), format.ofBytes? (b.drop format.size) with
    | some x, some y =>
      if E.contains (.affine x y) then .ok (.affine x y) else .error .notOnCurve
    | _, _ => .error .badEncoding
  else if first = 0x40 && rest.all (· == 0) then .ok .infinity
  else .error .badEncoding

/-- Reads a point of the curve; it need not lie in the subgroup. -/
def readPoint (format : CoordinateFormat F) (E : Weierstrass F) :
    Bytes → Except EncodingError (AffinePoint F)
  | [] => .error .badEncoding
  | first :: rest =>
    let compressed := first &&& 0x80 ≠ 0
    if compressed && rest.length + 1 = format.size then uncompress format E first rest
    else if !compressed && rest.length + 1 = 2 * format.size then readPair format E first rest
    else .error .badEncoding

end

/-- Reads a public key. The points whose first coordinate is zero are of small order. -/
def readPublicKey (b : Bytes) : Except EncodingError G1 :=
  match readPoint firstFormat curve b with
  | .error e => .error e
  | .ok .infinity => .ok .infinity
  | .ok (.affine x y) => if x = 0 then .error .notInGroup else .ok (.affine x y)

def readSignature (b : Bytes) : Except EncodingError G2 :=
  readPoint secondFormat twist b

end CustodySigner.Bls12381
