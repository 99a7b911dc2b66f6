import CustodySigner.Ecdsa.Basic
import CustodySigner.Proofs.Algebra.Residue
import CustodySigner.Proofs.Bytes
import CustodySigner.Proofs.Group.Lawful

set_option autoImplicit false
set_option relaxedAutoImplicit false

/-!
ECDSA over a lawful group. A verifier computes a multiple of the base point; for a signature it is
the nonce point, and for the signature with the second half negated the opposite point.
-/

namespace CustodySigner.Ecdsa

namespace Signature

variable {order : Nat} {sig : Signature}

theorem isHigh_low : (sig.low order).isHigh order = false := by
  unfold low
  by_cases high : sig.isHigh order = true
  · simp only [isHigh, decide_eq_true_eq] at high
    simp only [isHigh, high, decide_true, if_true, decide_eq_false_iff_not]
    omega
  · simp [high]

theorem ofBytes_toBytes (hr : sig.r < Bytes.range32) (hs : sig.s < Bytes.range32) :
    ofBytes sig.toBytes = sig := by
  have front : sig.toBytes.take 32 = Bytes.ofNat 32 sig.r := by simp [toBytes]
  have back : sig.toBytes.drop 32 = Bytes.ofNat 32 sig.s := by simp [toBytes]
  rw [ofBytes, front, back, Bytes.toNat_ofNat_32 hr, Bytes.toNat_ofNat_32 hs]

@[simp] theorem length_toBytes : sig.toBytes.length = 64 := by
  simp [toBytes]

end Signature

variable {G : CurveGroup}

theorem isScalar_iff {n : Nat} : isScalar G n = true ↔ 0 < n ∧ n < G.order := by
  simp [isScalar]

theorem not_dvd_of_isScalar {n : Nat} (h : isScalar G n = true) : ¬ G.order ∣ n := by
  obtain ⟨positive, bound⟩ := isScalar_iff.1 h
  exact Nat.not_dvd_of_pos_of_lt positive bound

/-- The multiple of the base point that a verifier computes when the key is that of `secret`. -/
def checked (G : CurveGroup) (secret digest : Nat) (sig : Signature) : Nat :=
  let w := inverseMod G.order sig.s
  digest * w % G.order + sig.r * w % G.order * secret

theorem verifies_iff (lawful : G.Lawful) {secret digest : Nat} {sig : Signature} :
    verifies G (G.multiple secret) digest sig = true ↔
      isScalar G sig.r = true ∧ isScalar G sig.s = true ∧
        ∃ x y, G.coordinates? (G.multiple (checked G secret digest sig)) = some (x, y) ∧
          x % G.order = sig.r := by
  have point : G.add
      (G.multiply (digest * inverseMod G.order sig.s % G.order) G.base)
      (G.multiply (sig.r * inverseMod G.order sig.s % G.order) (G.multiple secret)) =
      G.multiple (checked G secret digest sig) := by
    rw [lawful.multiply_multiple]
    exact lawful.add_multiple _ _
  unfold verifies
  simp only [point, Bool.and_eq_true]
  cases G.coordinates? (G.multiple (checked G secret digest sig)) with
  | none => simp
  | some found =>
    obtain ⟨x, y⟩ := found
    simp [and_assoc]

theorem cast_ne_zero {n : Nat} (h : isScalar G n = true) : (n : ZMod G.order) ≠ 0 :=
  mt (ZMod.natCast_eq_zero_iff n G.order).1 (not_dvd_of_isScalar h)

section

variable (lawful : G.Lawful)
include lawful

theorem cast_checked {secret digest : Nat} {sig : Signature} (h : isScalar G sig.s = true) :
    (checked G secret digest sig : ZMod G.order) =
      (digest + sig.r * secret) * (sig.s : ZMod G.order)⁻¹ := by
  have : Fact G.order.Prime := ⟨lawful.prime⟩
  simp only [checked, Nat.cast_add, Nat.cast_mul, ZMod.natCast_mod]
  rw [cast_inverseMod (cast_ne_zero h)]
  ring

theorem signWith?_eq_some {nonce secret digest : Nat} {sig : Signature} {id : RecoveryId}
    (h : signWith? G nonce secret digest = some (sig, id)) :
    ∃ x y, G.coordinates? (G.multiple nonce) = some (x, y) ∧ sig.r = x % G.order ∧
      sig.s = inverseMod G.order nonce * ((digest + sig.r * secret) % G.order) % G.order ∧
      isScalar G sig.r = true ∧ isScalar G sig.s = true := by
  have positive : 0 < G.order := lawful.prime.pos
  unfold signWith? at h
  rw [show G.multiply nonce G.base = G.multiple nonce from rfl] at h
  cases found : G.coordinates? (G.multiple nonce) with
  | none =>
    rw [found] at h
    cases h
  | some point =>
    obtain ⟨x, y⟩ := point
    simp only [found, Option.ite_none_left_eq_some, Option.some.injEq, Prod.mk.injEq] at h
    obtain ⟨nonzero, rfl, -⟩ := h
    simp only [Bool.or_eq_true, decide_eq_true_eq, not_or] at nonzero
    obtain ⟨hr, hs⟩ := nonzero
    exact ⟨x, y, rfl, rfl, rfl, isScalar_iff.2 ⟨Nat.pos_of_ne_zero hr, Nat.mod_lt _ positive⟩,
      isScalar_iff.2 ⟨Nat.pos_of_ne_zero hs, Nat.mod_lt _ positive⟩⟩

theorem equation_of_signWith? {nonce secret digest : Nat} {sig : Signature} {id : RecoveryId}
    (scalar : isScalar G nonce = true)
    (h : signWith? G nonce secret digest = some (sig, id)) :
    (sig.s : ZMod G.order) * nonce = digest + sig.r * secret := by
  have : Fact G.order.Prime := ⟨lawful.prime⟩
  obtain ⟨_, _, -, -, hs, -, -⟩ := signWith?_eq_some lawful h
  have nonzero := cast_ne_zero scalar
  have half : (sig.s : ZMod G.order) =
      (nonce : ZMod G.order)⁻¹ * (digest + sig.r * secret) := by
    conv_lhs => rw [hs]
    rw [ZMod.natCast_mod, Nat.cast_mul, ZMod.natCast_mod, cast_inverseMod nonzero]
    push_cast
    ring
  rw [half, mul_right_comm, inv_mul_cancel₀ nonzero, one_mul]

theorem verifies_of_signWith? {nonce secret digest : Nat} {sig : Signature} {id : RecoveryId}
    (scalar : isScalar G nonce = true)
    (h : signWith? G nonce secret digest = some (sig, id)) :
    verifies G (G.multiple secret) digest sig = true := by
  have : Fact G.order.Prime := ⟨lawful.prime⟩
  obtain ⟨x, y, found, hr, -, scalar_r, scalar_s⟩ := signWith?_eq_some lawful h
  have nonzero_s := cast_ne_zero scalar_s
  have same : (checked G secret digest sig : ZMod G.order) = nonce := by
    rw [cast_checked lawful scalar_s, ← equation_of_signWith? lawful scalar h, mul_comm,
      inv_mul_cancel_left₀ nonzero_s]
  have point : G.multiple (checked G secret digest sig) = G.multiple nonce :=
    lawful.multiple_congr ((ZMod.natCast_eq_natCast_iff' _ _ _).1 same)
  exact (verifies_iff lawful).2 ⟨scalar_r, scalar_s, x, y, point ▸ found, hr.symm⟩

/-- Negating the second half leads the verifier to the opposite point. -/
theorem verifies_negate {secret digest : Nat} {sig : Signature}
    (h : verifies G (G.multiple secret) digest sig = true) :
    verifies G (G.multiple secret) digest { sig with s := G.order - sig.s } = true := by
  have : Fact G.order.Prime := ⟨lawful.prime⟩
  obtain ⟨scalar_r, scalar_s, x, y, found, hr⟩ := (verifies_iff lawful).1 h
  obtain ⟨positive, bound⟩ := isScalar_iff.1 scalar_s
  have scalar_s' : isScalar G (G.order - sig.s) = true := isScalar_iff.2 ⟨by omega, by omega⟩
  have negated : ((G.order - sig.s : Nat) : ZMod G.order) = -(sig.s : ZMod G.order) := by
    rw [Nat.cast_sub bound.le, ZMod.natCast_self, zero_sub]
  have opposite : G.order ∣ checked G secret digest sig +
      checked G secret digest { sig with s := G.order - sig.s } := by
    rw [← ZMod.natCast_eq_zero_iff, Nat.cast_add, cast_checked lawful scalar_s,
      cast_checked lawful scalar_s']
    dsimp only
    rw [negated, inv_neg]
    ring
  obtain ⟨y', found', -⟩ := lawful.opposite opposite found
  exact (verifies_iff lawful).2 ⟨scalar_r, scalar_s', x, y', found', hr⟩

theorem verifies_low {secret digest : Nat} {sig : Signature}
    (h : verifies G (G.multiple secret) digest sig = true) :
    verifies G (G.multiple secret) digest (sig.low G.order) = true := by
  unfold Signature.low
  split
  · exact verifies_negate lawful h
  · exact h

end

theorem exists_nonce_of_sign? {attempts secret digest : Nat} {candidate : Nat → Nat}
    {found : Signature × RecoveryId}
    (h : sign? G attempts candidate secret digest = some found) :
    ∃ nonce, isScalar G nonce = true ∧ signWith? G nonce secret digest = some found := by
  obtain ⟨i, -, h⟩ := List.exists_of_findSome?_eq_some h
  by_cases scalar : isScalar G (candidate i) = true
  · exact ⟨candidate i, scalar, by simpa [scalar] using h⟩
  · simp [scalar] at h

theorem isScalar_of_firstScalar? {attempts nonce : Nat} {candidate : Nat → Nat}
    (h : firstScalar? G attempts candidate = some nonce) : isScalar G nonce = true := by
  obtain ⟨i, found, rfl⟩ := Option.map_eq_some_iff.1 h
  exact List.find?_some (p := fun i => isScalar G (candidate i)) found

end CustodySigner.Ecdsa
