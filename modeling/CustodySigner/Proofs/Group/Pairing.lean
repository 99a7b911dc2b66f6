import CustodySigner.Proofs.Algebra.Pratt
import CustodySigner.Proofs.Group.Prime
import CustodySigner.Suite

set_option autoImplicit false
set_option relaxedAutoImplicit false

/-!
The public points of a pairing scheme add up as the secret numbers do. For the standard scheme this
is the group law of its first curve, whose field is prime by certificate.
-/

namespace CustodySigner

namespace PairingScheme

variable (P : PairingScheme)

/-- The public point of a secret number. -/
def multiple (k : Nat) : P.Point :=
  P.multiply k P.base

/-- The public point is a homomorphism from the residues modulo the order. -/
structure Lawful : Prop where
  add_multiple (j k : Nat) : P.add (P.multiple j) (P.multiple k) = P.multiple (j + k)
  multiple_mod (k : Nat) : P.multiple (k % P.order) = P.multiple k

end PairingScheme

namespace Bls12381

open Pratt

/-- The curve of the public keys with its base point. -/
def firstCurve : PrimeCurve where
  p := modulus
  equation := curve
  base := generator
  order := order
  positive := modulusPositive.positive
  one_lt_order := Suite.bls12381Standard.one_lt_order
  order_le := Suite.bls12381Standard.order_le

def modulusPrimes : List Entry := [
  ⟨52437899, 2, [(2, 1), (43, 1), (609743, 1)]⟩,
  ⟨9272813673901, 2, [(2, 2), (3, 1), (5, 2), (7, 1), (7577, 1), (582767, 1)]⟩,
  ⟨1928745244171409, 3, [(2, 4), (13, 1), (9272813673901, 1)]⟩,
  ⟨7259797099061183477, 2, [(2, 2), (941, 1), (1928745244171409, 1)]⟩,
  ⟨2584487767265781317813, 2, [(2, 2), (89, 1), (7259797099061183477, 1)]⟩,
  ⟨475709467, 2, [(2, 1), (3, 1), (47, 1), (1686913, 1)]⟩,
  ⟨927093389, 3, [(2, 2), (13, 1), (409, 1), (43591, 1)]⟩,
  ⟨64881703735777, 5, [(2, 5), (3, 7), (927093389, 1)]⟩,
  ⟨92691255082156974996979, 3,
    [(2, 1), (3, 1), (31, 1), (467, 1), (16447, 1), (64881703735777, 1)]⟩,
  ⟨51376543, 3, [(2, 1), (3, 1), (7, 1), (151, 1), (8101, 1)]⟩,
  ⟨43670061551, 7, [(2, 1), (5, 2), (17, 1), (51376543, 1)]⟩,
  ⟨13090036741, 10, [(2, 2), (3, 1), (5, 1), (11, 1), (47, 1), (421987, 1)]⟩,
  ⟨3819663927398918131021, 6,
    [(2, 2), (3, 2), (5, 1), (19, 1), (113, 1), (755057, 1), (13090036741, 1)]⟩,
  ⟨1125266252156850182658904441386709967, 5,
    [(2, 1), (3373, 1), (43670061551, 1), (3819663927398918131021, 1)]⟩,
  ⟨15778400344354997994418419698270088123916926905054652752758194827714659, 2,
    [(2, 1), (3, 1), (53, 1), (475709467, 1), (92691255082156974996979, 1),
      (1125266252156850182658904441386709967, 1)]⟩,
  ⟨modulus, 2,
    [(2, 1), (3, 2), (11, 1), (23, 1), (47, 1), (10177, 1), (859267, 1), (52437899, 1),
      (2584487767265781317813, 1),
      (15778400344354997994418419698270088123916926905054652752758194827714659, 1)]⟩]

set_option maxRecDepth 10000 in
private theorem prime_of_mem_modulusPrimes {entry : Entry} (mem : entry ∈ modulusPrimes) :
    entry.prime.Prime :=
  check_sound (List.forall_mem_nil _) (by decide +kernel) entry mem

theorem prime_modulus : modulus.Prime :=
  prime_of_mem_modulusPrimes (List.mem_of_getElem? (i := 15) rfl)

private theorem torsion_generator : curve.multiply order generator = .infinity := by
  decide +kernel

theorem lawful_standard : Suite.bls12381Standard.Lawful := by
  have : Fact firstCurve.p.Prime := ⟨prime_modulus⟩
  have : Modulus firstCurve.p := modulusPositive
  have smooth : firstCurve.equation.curve.Δ ≠ 0 :=
    PrimeCurve.curve_discriminant_ne_zero (by decide +kernel)
  have contained : firstCurve.equation.contains firstCurve.base = true := by
    change curve.contains generator = true
    decide +kernel
  obtain ⟨g, hg⟩ := PrimeCurve.exists_represents smooth contained
  -- the order of the base point is evaluated once; all other multiples follow from the group law
  have torsion := PrimeCurve.nsmul_order_eq_zero hg torsion_generator
  constructor
  case add_multiple => exact PrimeCurve.add_multiple hg
  case multiple_mod => exact PrimeCurve.multiple_mod hg torsion

end Bls12381

end CustodySigner
