import CustodySigner.Bytes
import CustodySigner.Group.Prime

set_option autoImplicit false
set_option relaxedAutoImplicit false

/-!
ECDSA over a group of prime order: signing with a given nonce, verification, recovery of the
signer's point, and the normal form in which the second half of a signature is at most half the
order.
-/

namespace CustodySigner.Ecdsa

structure Signature where
  r : Nat
  s : Nat
deriving DecidableEq, Repr

/-- What a signature does not say about the nonce point: whether its second coordinate is odd, and
whether its first coordinate was at least the group order. -/
structure RecoveryId where
  yOdd : Bool
  xReduced : Bool
deriving DecidableEq, Repr

namespace RecoveryId

def toByte (id : RecoveryId) : UInt8 :=
  (if id.xReduced then 2 else 0) + (if id.yOdd then 1 else 0)

def ofByte? (b : UInt8) : Option RecoveryId :=
  if b < 4 then some ⟨b % 2 == 1, 2 ≤ b⟩ else none

end RecoveryId

namespace Signature

def toBytes (sig : Signature) : Bytes :=
  Bytes.ofNat 32 sig.r ++ Bytes.ofNat 32 sig.s

/-- Reads 64 bytes as two halves of any size. -/
def ofBytes (b : Bytes) : Signature :=
  ⟨Bytes.toNat (b.take 32), Bytes.toNat (b.drop 32)⟩

/-- The second half is above half the order. -/
def isHigh (order : Nat) (sig : Signature) : Bool :=
  order / 2 < sig.s

/-- The signature with the lesser of the second half and its negative. -/
def low (order : Nat) (sig : Signature) : Signature :=
  if sig.isHigh order then { sig with s := order - sig.s } else sig

end Signature

/-- The low form of a signature. Negating the second half answers to the opposite nonce point, so
the parity in the recovery id changes with it. -/
def normalize (order : Nat) (sig : Signature) (id : Option RecoveryId) :
    Signature × Option RecoveryId :=
  (sig.low order, id.map fun id => { id with yOdd := id.yOdd != sig.isHigh order })

variable (G : CurveGroup)

/-- The number can serve as a secret key or as a nonce. -/
def isScalar (n : Nat) : Bool :=
  0 < n && n < G.order

def publicPoint (secret : Nat) : G.Point :=
  G.multiply secret G.base

/-- Signs a digest with a nonce, unless one half comes out as zero. -/
def signWith? (nonce secret digest : Nat) : Option (Signature × RecoveryId) :=
  match G.coordinates? (G.multiply nonce G.base) with
  | none => none
  | some (x, y) =>
    let r := x % G.order
    let s := inverseMod G.order nonce * ((digest + r * secret) % G.order) % G.order
    if r = 0 || s = 0 then none else some (⟨r, s⟩, ⟨y % 2 == 1, G.order ≤ x⟩)

def firstScalar? (attempts : Nat) (candidate : Nat → Nat) : Option Nat :=
  ((List.range attempts).find? fun i => isScalar G (candidate i)).map candidate

def sign? (attempts : Nat) (candidate : Nat → Nat) (secret digest : Nat) :
    Option (Signature × RecoveryId) :=
  (List.range attempts).findSome? fun i =>
    let nonce := candidate i
    if isScalar G nonce then signWith? G nonce secret digest else none

/-- The signature is one of the digest by the key with this point. -/
def verifies (key : G.Point) (digest : Nat) (sig : Signature) : Bool :=
  isScalar G sig.r && isScalar G sig.s &&
    let w := inverseMod G.order sig.s
    let R := G.add (G.multiply (digest * w % G.order) G.base)
      (G.multiply (sig.r * w % G.order) key)
    match G.coordinates? R with
    | none => false
    | some (x, _) => x % G.order == sig.r

/-- The point of the only key for which the signature verifies with this nonce point. -/
def recover? (digest : Nat) (sig : Signature) (id : RecoveryId) : Option G.Point :=
  if !(isScalar G sig.r && isScalar G sig.s) then none
  else
    match G.lift? (if id.xReduced then sig.r + G.order else sig.r) id.yOdd with
    | none => none
    | some R =>
      let w := inverseMod G.order sig.r
      let u := (G.order - digest * w % G.order) % G.order
      let Q := G.add (G.multiply u G.base) (G.multiply (sig.s * w % G.order) R)
      match G.coordinates? Q with
      | none => none
      | some _ => some Q

end CustodySigner.Ecdsa
