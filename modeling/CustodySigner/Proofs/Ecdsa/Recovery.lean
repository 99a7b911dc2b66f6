import CustodySigner.Proofs.Ecdsa.Basic

set_option autoImplicit false
set_option relaxedAutoImplicit false

/-!
Recovery of the signer. A signature and its id name the nonce point, and with that point there is
only one key that the signature can be from. The low form names the opposite point, which has the
same first coordinate and a second coordinate of the other parity.
-/

namespace CustodySigner

/-- The first coordinate of a multiple of the base point exceeds the order at most once, so that a
residue and one bit tell what it is. -/
def CurveGroup.ReducesOnce (G : CurveGroup) : Prop :=
  ∀ k x y, G.coordinates? (G.multiple k) = some (x, y) → x < 2 * G.order

theorem CurveGroup.Lawful.reducesOnce {G : CurveGroup} (lawful : G.Lawful)
    (wide : Bytes.range32 ≤ 2 * G.order) : G.ReducesOnce := by
  intro k x y found
  have bound := lawful.bounded found
  omega

namespace Ecdsa

variable {G : CurveGroup}

namespace RecoveryId

theorem toByte_le (id : RecoveryId) : id.toByte ≤ 3 := by
  obtain ⟨yOdd, xReduced⟩ := id
  cases yOdd <;> cases xReduced <;> decide

@[simp] theorem ofByte?_toByte (id : RecoveryId) : ofByte? id.toByte = some id := by
  obtain ⟨yOdd, xReduced⟩ := id
  cases yOdd <;> cases xReduced <;> rfl

end RecoveryId

/-- The first half and the id are those of the nonce's point. -/
def Names (G : CurveGroup) (sig : Signature) (id : RecoveryId) (nonce : Nat) : Prop :=
  ∃ x y, G.coordinates? (G.multiple nonce) = some (x, y) ∧
    (if id.xReduced then sig.r + G.order else sig.r) = x ∧ id.yOdd = (y % 2 == 1)

/-- The multiple of the base point that is recovered when the nonce point is that of `nonce`. -/
def recovered (G : CurveGroup) (digest : Nat) (sig : Signature) (nonce : Nat) : Nat :=
  let w := inverseMod G.order sig.r
  (G.order - digest * w % G.order) % G.order + sig.s * w % G.order * nonce

section

variable (lawful : G.Lawful)
include lawful

theorem order_odd : G.order % 2 = 1 := by
  -- if the order were two, the base point would be its own opposite
  rcases lawful.prime.eq_two_or_odd with two | odd
  · have nonzero : ¬ G.order ∣ 1 := by
      intro divides
      have small := Nat.le_of_dvd Nat.one_pos divides
      omega
    obtain ⟨x, y, found⟩ := lawful.exists_coordinates nonzero
    have opposite : G.order ∣ 1 + 1 := by rw [two]
    obtain ⟨y', found', flipped⟩ := lawful.opposite opposite found
    obtain ⟨-, rfl⟩ := Prod.mk.inj (Option.some.inj (found.symm.trans found'))
    cases parity : (y % 2 == 1) <;> simp [parity] at flipped
  · exact odd

theorem Names.lift? {sig : Signature} {id : RecoveryId} {nonce : Nat} (h : Names G sig id nonce) :
    G.lift? (if id.xReduced then sig.r + G.order else sig.r) id.yOdd = some (G.multiple nonce) := by
  obtain ⟨x, y, found, abscissa, parity⟩ := h
  rw [abscissa, parity]
  exact lawful.lift found

theorem Names.opposite {sig : Signature} {id : RecoveryId} {nonce nonce' s : Nat}
    (h : Names G sig id nonce) (opposite : G.order ∣ nonce + nonce') :
    Names G { sig with s := s } { id with yOdd := !id.yOdd } nonce' := by
  obtain ⟨x, y, found, abscissa, parity⟩ := h
  obtain ⟨y', found', flipped⟩ := lawful.opposite opposite found
  refine ⟨x, y', found', abscissa, ?_⟩
  rw [flipped, parity]

theorem recover?_of_lift? {digest nonce : Nat} (sig : Signature) (id : RecoveryId)
    (scalar_r : isScalar G sig.r = true) (scalar_s : isScalar G sig.s = true)
    (lifted : G.lift? (if id.xReduced then sig.r + G.order else sig.r) id.yOdd =
      some (G.multiple nonce)) :
    recover? G digest sig id = (G.coordinates? (G.multiple (recovered G digest sig nonce))).map
      fun _ => G.multiple (recovered G digest sig nonce) := by
  have point : G.add
      (G.multiply ((G.order - digest * inverseMod G.order sig.r % G.order) % G.order) G.base)
      (G.multiply (sig.s * inverseMod G.order sig.r % G.order) (G.multiple nonce)) =
      G.multiple (recovered G digest sig nonce) := by
    rw [lawful.multiply_multiple]
    exact lawful.add_multiple _ _
  unfold recover?
  rw [scalar_r, scalar_s, lifted]
  simp only [Bool.and_self, Bool.not_true, Bool.false_eq_true, if_false]
  rw [point]
  cases G.coordinates? (G.multiple (recovered G digest sig nonce)) <;> rfl

theorem cast_recovered {digest nonce : Nat} (sig : Signature) (h : isScalar G sig.r = true) :
    (recovered G digest sig nonce : ZMod G.order) =
      (sig.s * nonce - digest) * (sig.r : ZMod G.order)⁻¹ := by
  have : Fact G.order.Prime := ⟨lawful.prime⟩
  have reduced : digest * inverseMod G.order sig.r % G.order ≤ G.order :=
    (Nat.mod_lt _ lawful.prime.pos).le
  simp only [recovered, Nat.cast_add, Nat.cast_mul, ZMod.natCast_mod, Nat.cast_sub reduced,
    ZMod.natCast_self]
  rw [cast_inverseMod (cast_ne_zero h)]
  ring

/-- The only key for which a signature with this nonce point can be valid is recovered. -/
theorem recover?_of_names {secret digest nonce : Nat} {sig : Signature} {id : RecoveryId}
    (scalar_r : isScalar G sig.r = true) (scalar_s : isScalar G sig.s = true)
    (names : Names G sig id nonce) (nonzero : ¬ G.order ∣ secret)
    (equation : (sig.s : ZMod G.order) * nonce = digest + sig.r * secret) :
    recover? G digest sig id = some (G.multiple secret) := by
  have : Fact G.order.Prime := ⟨lawful.prime⟩
  have sum : (recovered G digest sig nonce : ZMod G.order) = (secret : Nat) := by
    rw [cast_recovered lawful sig scalar_r, equation, add_sub_cancel_left,
      mul_comm (sig.r : ZMod G.order), mul_inv_cancel_right₀ (cast_ne_zero scalar_r)]
  obtain ⟨x, y, found⟩ := lawful.exists_coordinates nonzero
  rw [recover?_of_lift? lawful sig id scalar_r scalar_s (names.lift? lawful),
    lawful.multiple_congr ((ZMod.natCast_eq_natCast_iff' _ _ _).1 sum), found]
  rfl

theorem names_of_signWith? (once : G.ReducesOnce) {nonce secret digest : Nat} {sig : Signature}
    {id : RecoveryId} (h : signWith? G nonce secret digest = some (sig, id)) :
    Names G sig id nonce := by
  obtain ⟨x, y, found, hr, -, -, -⟩ := signWith?_eq_some lawful h
  have named : id = ⟨y % 2 == 1, G.order ≤ x⟩ := by
    unfold signWith? at h
    rw [show G.multiply nonce G.base = G.multiple nonce from rfl, found] at h
    simp only [Option.ite_none_left_eq_some, Option.some.injEq, Prod.mk.injEq] at h
    exact h.2.2.symm
  refine ⟨x, y, found, ?_, by rw [named]⟩
  have bound := once nonce x y found
  rw [named, hr]
  by_cases reduced : G.order ≤ x
  · simp only [reduced, decide_true, if_true]
    rw [Nat.mod_eq_sub_mod reduced, Nat.mod_eq_of_lt (by omega)]
    omega
  · simp only [reduced, decide_false, Bool.false_eq_true, if_false]
    exact Nat.mod_eq_of_lt (by omega)

theorem recover?_normalize (once : G.ReducesOnce) {nonce secret digest : Nat} {sig : Signature}
    {id : RecoveryId} (scalar : isScalar G nonce = true) (key : isScalar G secret = true)
    (h : signWith? G nonce secret digest = some (sig, id)) :
    ∃ id', normalize G.order sig (some id) = (sig.low G.order, some id') ∧
      recover? G digest (sig.low G.order) id' = some (G.multiple secret) := by
  obtain ⟨-, -, -, -, -, scalar_r, scalar_s⟩ := signWith?_eq_some lawful h
  have names := names_of_signWith? lawful once h
  have equation := equation_of_signWith? lawful scalar h
  have nonzero := not_dvd_of_isScalar key
  refine ⟨_, rfl, ?_⟩
  by_cases high : sig.isHigh G.order = true
  · obtain ⟨positive, bound⟩ := isScalar_iff.1 scalar_s
    obtain ⟨nonce_pos, nonce_lt⟩ := isScalar_iff.1 scalar
    have opposite : G.order ∣ nonce + (G.order - nonce) := by
      rw [Nat.add_sub_cancel' nonce_lt.le]
    have scalar_s' : isScalar G (G.order - sig.s) = true := isScalar_iff.2 ⟨by omega, by omega⟩
    have negated : ((G.order - sig.s : Nat) : ZMod G.order) * ((G.order - nonce : Nat)) =
        digest + sig.r * secret := by
      rw [Nat.cast_sub bound.le, Nat.cast_sub nonce_lt.le, ZMod.natCast_self, zero_sub, zero_sub,
        neg_mul_neg]
      exact equation
    have flipped : (id.yOdd != true) = !id.yOdd := by cases id.yOdd <;> rfl
    simp only [Signature.low, high, if_true, flipped]
    exact recover?_of_names lawful scalar_r scalar_s' (names.opposite lawful opposite) nonzero
      negated
  · rw [Bool.not_eq_true] at high
    have same : (id.yOdd != false) = id.yOdd := by cases id.yOdd <;> rfl
    simp only [Signature.low, high, Bool.false_eq_true, if_false, same]
    exact recover?_of_names lawful scalar_r scalar_s names nonzero equation

end

end Ecdsa

end CustodySigner
