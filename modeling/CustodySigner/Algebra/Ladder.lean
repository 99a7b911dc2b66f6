set_option autoImplicit false
set_option relaxedAutoImplicit false

/-!
Multiples by doubling and adding. One ladder serves powers in a field and multiples of a point.
-/

namespace CustodySigner

/-- The lowest `width` binary digits of `n` in front of `tail`, most significant digit first. -/
def binaryDigits : (width n : Nat) → (tail : List Bool) → List Bool
  | 0, _, tail => tail
  | width + 1, n, tail => binaryDigits width (n / 2) ((n % 2 == 1) :: tail)

/-- The `k`-fold sum of `x`, from the most significant binary digit of `k` down. -/
def ladder {α : Type} (zero : α) (double : α → α) (add : α → α → α) (x : α) (k : Nat) : α :=
  (binaryDigits (k.log2 + 1) k []).foldl
    (fun total digit => if digit then add (double total) x else double total) zero

def power {α : Type} [Mul α] [One α] (x : α) (k : Nat) : α :=
  ladder 1 (fun a => a * a) (fun a b => a * b) x k

end CustodySigner
