import CustodySigner.Proofs.Algebra.Pratt
import CustodySigner.Proofs.Group.Prime

set_option autoImplicit false
set_option relaxedAutoImplicit false

/-!
The two standard curves have lawful groups. Their fields and orders are prime by certificate; the
order of the base point is computed.
-/

namespace CustodySigner

open Pratt

def secp256k1Primes : List Entry := [
  ⟨13331831, 13, [(2, 1), (5, 1), (971, 1), (1373, 1)]⟩,
  ⟨173378833005251801, 6, [(2, 3), (5, 2), (2621, 1), (24809, 1), (13331831, 1)]⟩,
  ⟨22149492674086928081353, 5, [(2, 3), (3, 1), (5323, 1), (173378833005251801, 1)]⟩,
  ⟨132896956044521568488119, 6, [(2, 1), (3, 1), (22149492674086928081353, 1)]⟩,
  ⟨107590001, 3, [(2, 4), (5, 4), (7, 1), (29, 1), (53, 1)]⟩,
  ⟨255515944373312847190720520512484175977, 3,
    [(2, 3), (7, 2), (11, 1), (1627, 1), (2657, 1), (4423, 1), (41201, 1), (96557, 1),
      (7240687, 1), (107590001, 1)]⟩,
  ⟨205115282021455665897114700593932402728804164701536103180137503955397371, 10,
    [(2, 1), (3, 1), (5, 1), (29, 2), (31, 1), (7723, 1), (132896956044521568488119, 1),
      (255515944373312847190720520512484175977, 1)]⟩,
  ⟨secp256k1.p, 3,
    [(2, 1), (3, 1), (7, 1), (13441, 1),
      (205115282021455665897114700593932402728804164701536103180137503955397371, 1)]⟩,
  ⟨107361793816595537, 3, [(2, 4), (16699, 1), (85831, 1), (4681609, 1)]⟩,
  ⟨44706919, 6, [(2, 1), (3, 1), (797, 1), (9349, 1)]⟩,
  ⟨174723607534414371449, 3,
    [(2, 3), (17, 1), (59, 1), (4051, 1), (120233, 1), (44706919, 1)]⟩,
  ⟨545358713, 5, [(2, 3), (41, 1), (59, 1), (28181, 1)]⟩,
  ⟨297159362677, 2, [(2, 2), (3, 2), (11, 1), (461, 1), (1627771, 1)]⟩,
  ⟨29047611873442575647497758179, 2,
    [(2, 1), (293, 1), (305873, 1), (545358713, 1), (297159362677, 1)]⟩,
  ⟨341948486974166000522343609283189, 2,
    [(2, 2), (3, 3), (109, 1), (29047611873442575647497758179, 1)]⟩,
  ⟨secp256k1.order, 7,
    [(2, 6), (3, 1), (149, 1), (631, 1), (107361793816595537, 1), (174723607534414371449, 1),
      (341948486974166000522343609283189, 1)]⟩]

def secp256r1Primes : List Entry := [
  ⟨204061199, 11, [(2, 1), (11, 1), (23, 1), (107, 1), (3769, 1)]⟩,
  ⟨34282281433, 17, [(2, 3), (3, 1), (7, 1), (204061199, 1)]⟩,
  ⟨66417393611, 6, [(2, 1), (5, 1), (53, 1), (173, 1), (197, 1), (3677, 1)]⟩,
  ⟨11290956913871, 13, [(2, 1), (5, 1), (17, 1), (66417393611, 1)]⟩,
  ⟨46076956964474543, 5, [(2, 1), (23, 1), (18169, 1), (78283, 1), (704251, 1)]⟩,
  ⟨774023187263532362759620327192479577272145303, 3,
    [(2, 1), (3, 2), (2411, 1), (34282281433, 1), (11290956913871, 1), (46076956964474543, 1)]⟩,
  ⟨835945042244614951780389953367877943453916927241, 11,
    [(2, 3), (3, 3), (5, 1), (774023187263532362759620327192479577272145303, 1)]⟩,
  ⟨secp256r1.p, 6,
    [(2, 1), (3, 1), (5, 2), (17, 1), (257, 1), (641, 1), (1531, 1), (65537, 1), (490463, 1),
      (6700417, 1), (835945042244614951780389953367877943453916927241, 1)]⟩,
  ⟨187019741, 2, [(2, 2), (5, 1), (9350987, 1)]⟩,
  ⟨311245691, 2, [(2, 1), (5, 1), (7, 1), (17, 1), (29, 2), (311, 1)]⟩,
  ⟨622491383, 5, [(2, 1), (311245691, 1)]⟩,
  ⟨1002328039319, 19, [(2, 1), (126241, 1), (3969899, 1)]⟩,
  ⟨191039911, 3, [(2, 1), (3, 1), (5, 1), (41, 1), (155317, 1)]⟩,
  ⟨208150935158385979, 2,
    [(2, 1), (3, 1), (11, 1), (43, 1), (127, 1), (3023, 1), (191039911, 1)]⟩,
  ⟨2624747550333869278416773953, 7,
    [(2, 6), (3, 2), (1297, 1), (16879, 1), (208150935158385979, 1)]⟩,
  ⟨secp256r1.order, 7,
    [(2, 4), (3, 1), (71, 1), (131, 1), (373, 1), (3407, 1), (17449, 1), (38189, 1),
      (187019741, 1), (622491383, 1), (1002328039319, 1), (2624747550333869278416773953, 1)]⟩]

set_option maxRecDepth 10000 in
private theorem prime_of_mem_secp256k1Primes {entry : Entry} (mem : entry ∈ secp256k1Primes) :
    entry.prime.Prime :=
  check_sound (List.forall_mem_nil _) (by decide +kernel) entry mem

set_option maxRecDepth 10000 in
private theorem prime_of_mem_secp256r1Primes {entry : Entry} (mem : entry ∈ secp256r1Primes) :
    entry.prime.Prime :=
  check_sound (List.forall_mem_nil _) (by decide +kernel) entry mem

theorem prime_secp256k1_p : secp256k1.p.Prime :=
  prime_of_mem_secp256k1Primes (List.mem_of_getElem? (i := 7) rfl)

theorem prime_secp256k1_order : secp256k1.order.Prime :=
  prime_of_mem_secp256k1Primes (List.mem_of_getElem? (i := 15) rfl)

theorem prime_secp256r1_p : secp256r1.p.Prime :=
  prime_of_mem_secp256r1Primes (List.mem_of_getElem? (i := 7) rfl)

theorem prime_secp256r1_order : secp256r1.order.Prime :=
  prime_of_mem_secp256r1Primes (List.mem_of_getElem? (i := 15) rfl)

set_option maxRecDepth 10000 in
theorem sound_secp256k1 : secp256k1.Sound := by
  constructor
  case prime => exact prime_secp256k1_p
  case prime_order => exact prime_secp256k1_order
  case three => decide
  case odd_order => decide
  case size => decide
  case smooth => exact PrimeCurve.curve_discriminant_ne_zero (by decide +kernel)
  case base_contained => decide +kernel
  case base_finite => exact nofun
  case torsion => decide +kernel

theorem lawful_secp256k1 : secp256k1.group.Lawful := sound_secp256k1.lawful

set_option maxRecDepth 10000 in
theorem sound_secp256r1 : secp256r1.Sound := by
  constructor
  case prime => exact prime_secp256r1_p
  case prime_order => exact prime_secp256r1_order
  case three => decide
  case odd_order => decide
  case size => decide
  case smooth => exact PrimeCurve.curve_discriminant_ne_zero (by decide +kernel)
  case base_contained => decide +kernel
  case base_finite => exact nofun
  case torsion => decide +kernel

theorem lawful_secp256r1 : secp256r1.group.Lawful := sound_secp256r1.lawful

end CustodySigner
