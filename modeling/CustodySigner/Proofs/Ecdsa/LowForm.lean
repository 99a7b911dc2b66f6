import CustodySigner.Proofs.Ecdsa.Recovery

set_option autoImplicit false
set_option relaxedAutoImplicit false

/-!
The low form of a signature. It has the lesser of the second half and its negative, and the parity in
the id is changed where the half is. Negating the half and the nonce point leaves their product as it
is, so that a signature and its low form recover one point and verify under the same points.
-/

namespace CustodySigner.Ecdsa

namespace Signature

variable {order : Nat} {sig : Signature}

@[simp] theorem r_low : (sig.low order).r = sig.r := by
  unfold low
  split_ifs <;> rfl

theorem s_low : (sig.low order).s = min sig.s (order - sig.s) := by
  unfold low isHigh
  split_ifs with high
  · rw [decide_eq_true_eq] at high
    dsimp only
    omega
  · rw [decide_eq_true_eq] at high
    omega

theorem isHigh_iff : sig.isHigh order = true ↔ (sig.low order).s ≠ sig.s := by
  rw [s_low, isHigh, decide_eq_true_eq]
  omega

theorem low_low : (sig.low order).low order = sig.low order := by
  rw [low, isHigh_low]
  exact if_neg Bool.false_ne_true

end Signature

theorem normalize_normalize (order : Nat) (sig : Signature) (id : Option RecoveryId) :
    normalize order (normalize order sig id).1 (normalize order sig id).2 =
      normalize order sig id := by
  cases id with
  | none => simp only [normalize, Signature.low_low, Option.map_none]
  | some id => simp [normalize, Signature.low_low, Signature.isHigh_low]

variable {G : CurveGroup}

section

variable (lawful : G.Lawful)
include lawful

theorem s_low_le (sig : Signature) :
    (sig.low G.order).s ≤ (G.order - 1) / 2 := by
  have odd := order_odd lawful
  rw [Signature.s_low]
  omega

theorem isScalar_s_low {sig : Signature} (h : isScalar G sig.s = true) :
    isScalar G (sig.low G.order).s = true := by
  have positive := lawful.prime.pos
  obtain ⟨nonzero, bound⟩ := isScalar_iff.1 h
  rw [Signature.s_low, isScalar_iff]
  omega

theorem verifies_low_eq {k digest : Nat} {sig : Signature} (h : isScalar G sig.s = true) :
    verifies G (G.multiple k) digest (sig.low G.order) = verifies G (G.multiple k) digest sig := by
  rw [Bool.eq_iff_iff]
  refine ⟨fun valid => ?_, verifies_low lawful⟩
  unfold Signature.low at valid
  split_ifs at valid
  · have back := verifies_negate lawful valid
    rwa [Nat.sub_sub_self (isScalar_iff.1 h).2.le] at back
  · exact valid

/-- Negating the second half and taking the other parity recovers what was recovered before. -/
theorem recover?_negate (spanned : G.Spanned) {digest : Nat} {sig : Signature} {id : RecoveryId}
    (scalar_r : isScalar G sig.r = true) (scalar_s : isScalar G sig.s = true) :
    recover? G digest { sig with s := G.order - sig.s } { id with yOdd := !id.yOdd } =
      recover? G digest sig id := by
  have scalar_s' : isScalar G (G.order - sig.s) = true := by
    rw [isScalar_iff] at scalar_s ⊢
    omega
  cases lifted : G.lift? (if id.xReduced then sig.r + G.order else sig.r) id.yOdd with
  | none =>
    -- a point with the other parity would have an opposite with this one
    have lifted' : G.lift? (if id.xReduced then sig.r + G.order else sig.r) (!id.yOdd) = none := by
      cases other : G.lift? (if id.xReduced then sig.r + G.order else sig.r) (!id.yOdd) with
      | none => rfl
      | some P =>
        obtain ⟨-, k', -, -, back⟩ := spanned.exists_opposite lawful other
        rw [Bool.not_not, lifted] at back
        cases back
    unfold recover?
    rw [scalar_r, scalar_s, scalar_s', lifted, lifted']
  | some P =>
    obtain ⟨k, k', rfl, opposite, lifted'⟩ := spanned.exists_opposite lawful lifted
    let negative : Signature := { sig with s := G.order - sig.s }
    have sum : (recovered G digest negative k' : ZMod G.order) = recovered G digest sig k := by
      have negated : (k' : ZMod G.order) = -k := by
        rw [← ZMod.natCast_eq_zero_iff, Nat.cast_add, add_comm] at opposite
        exact eq_neg_of_add_eq_zero_left opposite
      rw [cast_recovered lawful negative scalar_r, cast_recovered lawful sig scalar_r, negated,
        Nat.cast_sub (isScalar_iff.1 scalar_s).2.le, ZMod.natCast_self, zero_sub, neg_mul_neg]
    rw [recover?_of_lift? lawful negative { id with yOdd := !id.yOdd } scalar_r scalar_s' lifted',
      recover?_of_lift? lawful sig id scalar_r scalar_s lifted,
      lawful.multiple_congr ((ZMod.natCast_eq_natCast_iff' _ _ _).1 sum)]

theorem recover?_low (spanned : G.Spanned) {digest : Nat} {sig : Signature} {id : RecoveryId}
    (scalar_r : isScalar G sig.r = true) (scalar_s : isScalar G sig.s = true) :
    recover? G digest (sig.low G.order) { id with yOdd := id.yOdd != sig.isHigh G.order } =
      recover? G digest sig id := by
  unfold Signature.low
  cases high : sig.isHigh G.order with
  | true => simpa using recover?_negate lawful spanned scalar_r scalar_s
  | false => simp

end

end CustodySigner.Ecdsa
