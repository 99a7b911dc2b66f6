import CustodySigner.Algebra.Ladder

set_option autoImplicit false
set_option relaxedAutoImplicit false

/-!
Arithmetic of residues. The elements of a prime field are `Fin p`, which has the ring operations;
inverses are powers by Fermat's little theorem, and square roots are powers when `p` leaves the
remainder three on division by four.
-/

namespace CustodySigner

/-- A number that can be divided by. -/
class Modulus (p : Nat) : Prop where
  positive : 0 < p

def residue (p : Nat) [m : Modulus p] (n : Nat) : Fin p :=
  ⟨n % p, Nat.mod_lt n m.positive⟩

instance Modulus.zero {p : Nat} [Modulus p] : Zero (Fin p) where
  zero := residue p 0

instance Modulus.one {p : Nat} [Modulus p] : One (Fin p) where
  one := residue p 1

/-- The inverse modulo a prime; zero has the inverse zero. -/
instance Modulus.inverse {p : Nat} [Modulus p] : Inv (Fin p) where
  inv a := power a (p - 2)

/-- The square root that is itself a square, for `p % 4 = 3`. -/
def squareRoot? {p : Nat} [Modulus p] (a : Fin p) : Option (Fin p) :=
  let root := power a ((p + 1) / 4)
  if root * root = a then some root else none

def isOdd {p : Nat} (a : Fin p) : Bool :=
  a.val % 2 == 1

/-- The inverse of `a` modulo a prime `n`. -/
def inverseMod (n a : Nat) : Nat :=
  ladder (1 % n) (fun x => x * x % n) (fun x y => x * y % n) (a % n) (n - 2)

end CustodySigner
