import CustodySigner.Bytes
import CustodySigner.Group.Prime

set_option autoImplicit false
set_option relaxedAutoImplicit false

/-!
Points of prime-order curves as bytes. The first byte is a tag that says which coordinates follow
and what is known of those left out; coordinates take 32 bytes each.
-/

namespace CustodySigner.Ecdsa

inductive EncodedPoint where
  /-- The first coordinate, and whether the second is odd. -/
  | compressed (odd : Bool) (x : Nat)
  | uncompressed (x y : Nat)
  /-- Both coordinates, and once more whether the second is odd. -/
  | hybrid (odd : Bool) (x y : Nat)
  /-- The first coordinate of the point whose second coordinate is the lesser one. -/
  | compact (x : Nat)
deriving DecidableEq, Repr

namespace EncodedPoint

/-- Reads a tag and the coordinates it announces, which fill the rest. -/
def ofBytes? : Bytes → Option EncodedPoint
  | [] => none
  | tag :: rest =>
    let x := Bytes.toNat (rest.take 32)
    let y := Bytes.toNat (rest.drop 32)
    if rest.length = 32 then
      if tag = 2 then some (.compressed false x)
      else if tag = 3 then some (.compressed true x)
      else if tag = 5 then some (.compact x)
      else none
    else if rest.length = 64 then
      if tag = 4 then some (.uncompressed x y)
      else if tag = 6 then some (.hybrid false x y)
      else if tag = 7 then some (.hybrid true x y)
      else none
    else none

/-- The point that is encoded, if the curve has it. -/
def point? (G : CurveGroup) : EncodedPoint → Option G.Point
  | .compressed odd x => G.lift? x odd
  | .uncompressed x y => G.point? x y
  | .hybrid odd x y => if (y % 2 == 1) = odd then G.point? x y else none
  | .compact x =>
    match G.lift? x false, G.lift? x true with
    | some P, some Q =>
      match G.coordinates? P, G.coordinates? Q with
      | some (_, y), some (_, y') => some (if y ≤ y' then P else Q)
      | _, _ => none
    | _, _ => none

end EncodedPoint

/-- The compressed encoding of a point; the neutral point has none. -/
def compress? (G : CurveGroup) (P : G.Point) : Option Bytes :=
  (G.coordinates? P).map fun (x, y) => (if y % 2 == 1 then 3 else 2) :: Bytes.ofNat 32 x

end CustodySigner.Ecdsa
