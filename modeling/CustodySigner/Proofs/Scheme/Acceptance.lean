import CustodySigner.Proofs.Scheme.Recovery
import CustodySigner.Proofs.SyntheticKey.Secret
import CustodySigner.Scheme.Ed25519

set_option autoImplicit false
set_option relaxedAutoImplicit false

/-!
What the signers accept. A key of 32 bytes in the range of its curve signs every digest that the
curve allows, unless a half of the signature comes out as zero or the synthetic key does.
-/

namespace CustodySigner

namespace Ecdsa

variable (G : CurveGroup)

/-- With this nonce neither half of the signature comes out as zero. -/
def GivesHalves (nonce secret digest : Nat) : Prop :=
  ∀ x y, G.coordinates? (G.multiple nonce) = some (x, y) →
    x % G.order ≠ 0 ∧ (digest + x % G.order * secret) % G.order ≠ 0

instance instDecidableGivesHalves (nonce secret digest : Nat) :
    Decidable (GivesHalves G nonce secret digest) :=
  decidable_of_iff
    (∀ point ∈ G.coordinates? (G.multiple nonce),
      point.1 % G.order ≠ 0 ∧ (digest + point.1 % G.order * secret) % G.order ≠ 0)
    ⟨fun h x y found => h (x, y) found, fun h point found => h point.1 point.2 found⟩

/-- One of the candidates is a scalar, and the first that is one gives both halves. -/
def FirstNonceSigns (attempts : Nat) (candidate : Nat → Nat) (secret digest : Nat) : Prop :=
  ∃ i < attempts, isScalar G (candidate i) = true ∧
    (∀ j < i, isScalar G (candidate j) = false) ∧ GivesHalves G (candidate i) secret digest

variable {G} {attempts secret digest : Nat} {candidate : Nat → Nat}

theorem exists_signWith? (lawful : G.Lawful) {nonce : Nat} (scalar : isScalar G nonce = true)
    (halves : GivesHalves G nonce secret digest) :
    ∃ found, signWith? G nonce secret digest = some found := by
  have : Fact G.order.Prime := ⟨lawful.prime⟩
  obtain ⟨x, y, found⟩ := lawful.exists_coordinates (not_dvd_of_isScalar scalar)
  obtain ⟨hr, hs⟩ := halves x y found
  have half : inverseMod G.order nonce * ((digest + x % G.order * secret) % G.order) %
      G.order ≠ 0 := by
    intro zero
    have product := (ZMod.natCast_eq_zero_iff _ _).2 (Nat.dvd_of_mod_eq_zero zero)
    rw [Nat.cast_mul, cast_inverseMod (cast_ne_zero scalar)] at product
    have factor := (mul_eq_zero.1 product).resolve_left (inv_ne_zero (cast_ne_zero scalar))
    rw [ZMod.natCast_mod, ZMod.natCast_eq_zero_iff] at factor
    exact hs (Nat.mod_eq_zero_of_dvd factor)
  have base : G.multiply nonce G.base = G.multiple nonce := rfl
  have signed : (signWith? G nonce secret digest).isSome = true := by
    unfold signWith?
    rw [base, found]
    dsimp only
    rw [if_neg (by simpa [-Nat.mul_mod_mod] using ⟨hr, half⟩)]
    rfl
  exact Option.isSome_iff_exists.1 signed

theorem exists_sign? (lawful : G.Lawful)
    (signs : FirstNonceSigns G attempts candidate secret digest) :
    ∃ found, sign? G attempts candidate secret digest = some found := by
  obtain ⟨i, bound, scalar, -, halves⟩ := signs
  obtain ⟨found, made⟩ := exists_signWith? lawful scalar halves
  have signed : (sign? G attempts candidate secret digest).isSome = true := by
    unfold sign?
    rw [List.findSome?_isSome_iff]
    exact ⟨i, List.mem_range.2 bound, by simp [scalar, made]⟩
  exact Option.isSome_iff_exists.1 signed

theorem exists_firstScalar? (lawful : G.Lawful)
    (signs : FirstNonceSigns G attempts candidate secret digest) :
    ∃ found, ((firstScalar? G attempts candidate).bind fun k => signWith? G k secret digest) =
      some found := by
  obtain ⟨i, bound, scalar, first, halves⟩ := signs
  obtain ⟨found, made⟩ := exists_signWith? lawful scalar halves
  have index : ((List.range attempts).find? fun i => isScalar G (candidate i)) = some i := by
    rw [List.find?_range_eq_some]
    refine ⟨scalar, List.mem_range.2 bound, fun j earlier => ?_⟩
    rw [first j earlier]
    rfl
  refine ⟨found, Option.bind_eq_some_iff.2 ⟨candidate i, ?_, made⟩⟩
  unfold firstScalar?
  rw [index]
  rfl

end Ecdsa

namespace Scheme

open Ecdsa

section

variable (G : CurveGroup) (attempts : Nat) (nonce : Bytes → Bytes → Nat → Nat)
  (key digest : Bytes)

/-- A key that is a scalar of the group and a digest of the size that ECDSA signs. -/
structure IsEcdsaInput : Prop where
  key_length : key.length = 32
  positive : 1 ≤ Bytes.toNat key
  bound : Bytes.toNat key < G.order
  digest_length : digest.length = 32

/-- The first nonce for the reduced digest gives both halves. -/
def Secp256k1.HasSigningNonce : Prop :=
  FirstNonceSigns G attempts (nonce key (Bytes.ofNat 32 (Bytes.toNat digest % G.order)))
    (Bytes.toNat key) (Bytes.toNat digest)

/-- The first nonce for the digest as it is gives both halves. -/
def Secp256r1.HasSigningNonce : Prop :=
  FirstNonceSigns G attempts (nonce key digest) (Bytes.toNat key) (Bytes.toNat digest)

variable {G attempts nonce key digest}

theorem IsEcdsaInput.ecdsaSecret_eq (input : IsEcdsaInput G key digest) {refusal : String} :
    ecdsaSecret G refusal key = .ok (Bytes.toNat key) :=
  ecdsaSecret_eq_ok_iff.2 ⟨input.key_length, rfl, isScalar_iff.2 ⟨input.positive, input.bound⟩⟩

theorem Secp256k1.exists_signature (lawful : G.Lawful) (input : IsEcdsaInput G key digest)
    (signs : Secp256k1.HasSigningNonce G attempts nonce key digest) :
    ∃ found, Secp256k1.signature G attempts nonce key digest = .ok found := by
  obtain ⟨found, made⟩ := exists_sign? lawful signs
  refine ⟨found, bind_eq_ok_iff.2 ⟨_, input.ecdsaSecret_eq, ?_⟩⟩
  refine bind_eq_ok_iff.2 ⟨digest, digest32_eq_ok_iff.2 ⟨input.digest_length, rfl⟩, ?_⟩
  dsimp only
  rw [made]
  rfl

theorem Secp256r1.exists_signature (lawful : G.Lawful) (input : IsEcdsaInput G key digest)
    (signs : Secp256r1.HasSigningNonce G attempts nonce key digest) :
    ∃ found, Secp256r1.signature G attempts nonce key digest = .ok found := by
  obtain ⟨found, made⟩ := exists_firstScalar? lawful signs
  refine ⟨found, bind_eq_ok_iff.2 ⟨_, input.ecdsaSecret_eq, ?_⟩⟩
  refine bind_eq_ok_iff.2 ⟨digest, digest32_eq_ok_iff.2 ⟨input.digest_length, rfl⟩, ?_⟩
  rw [made]
  rfl

end

theorem EcdsaScheme.exists_signObligation {E : EcdsaScheme} {key digest : Bytes}
    (h : ∃ found, E.signature key digest = .ok found) (recovery : Bool) :
    ∃ bytes, E.signObligation key digest recovery = .ok bytes ∧
      bytes.length = if recovery then 65 else 64 := by
  obtain ⟨⟨sig, id⟩, made⟩ := h
  cases recovery with
  | false => exact ⟨_, signObligation_plain made, Signature.length_toBytes⟩
  | true =>
    refine ⟨_, signObligation_recoverable made rfl, ?_⟩
    rw [List.length_append, Signature.length_toBytes]
    rfl

theorem EcdsaScheme.length_of_signObligation {E : EcdsaScheme} {key digest signature : Bytes}
    {recovery : Bool} (h : E.signObligation key digest recovery = .ok signature) :
    signature.length = if recovery then 65 else 64 := by
  obtain ⟨sig, id, made⟩ := exists_signature_of_signObligation h
  obtain ⟨bytes, signed, length⟩ := exists_signObligation ⟨_, made⟩ recovery
  obtain rfl := Except.ok.inj (h.symm.trans signed)
  exact length

theorem EcdsaScheme.IsOver.exists_signObligation_iff {E : EcdsaScheme} {G : CurveGroup}
    (based : E.IsOver G) {key digest : Bytes}
    (finds : IsEcdsaInput G key digest → ∃ found, E.signature key digest = .ok found)
    {recovery : Bool} : (∃ bytes, E.signObligation key digest recovery = .ok bytes) ↔
      IsEcdsaInput G key digest := by
  constructor
  · rintro ⟨bytes, signed⟩
    obtain ⟨sig, id, made⟩ := exists_signature_of_signObligation signed
    obtain ⟨-, length, scalar, size, -⟩ := based.signed made
    obtain ⟨positive, bound⟩ := isScalar_iff.1 scalar
    exact ⟨length, positive, bound, size⟩
  · intro input
    obtain ⟨bytes, signed, -⟩ := exists_signObligation (finds input) recovery
    exact ⟨bytes, signed⟩

theorem Ed25519.signObligation_eq_ok_iff {E : EdwardsScheme} {key digest signature : Bytes}
    {recovery : Bool} : Ed25519.signObligation E key digest recovery = .ok signature ↔
      recovery = false ∧ key.length = 32 ∧ digest ≠ [] ∧ signature = E.sign key digest := by
  constructor
  · intro h
    cases recovery with
    | true => cases h
    | false =>
      change Ed25519.sign E key digest = .ok signature at h
      unfold Ed25519.sign at h
      split_ifs at h with empty
      · cases h
      · obtain ⟨_, sized, made⟩ := bind_eq_ok_iff.1 h
        obtain ⟨length, rfl⟩ := key32_eq_ok_iff.1 sized
        exact ⟨rfl, length, empty, (Except.ok.inj made).symm⟩
  · rintro ⟨rfl, length, nonempty, rfl⟩
    simp only [Ed25519.signObligation, Ed25519.sign, nonempty, Bool.false_eq_true, if_false]
    exact bind_eq_ok_iff.2 ⟨key, key32_eq_ok_iff.2 ⟨length, rfl⟩, rfl⟩

end Scheme

namespace SyntheticKey

open Scheme.Bls12381 (pointBytes)

variable {P : PairingScheme} {key digest bytes : Bytes}

/-- The raw key is reduced to a scalar, and its synthetic key is a scalar too. -/
def IsUsable (P : PairingScheme) (key : Bytes) : Prop :=
  IsSized key ∧ ¬ P.order ∣ Bytes.toNat key ∧ scalar P (Bytes.toNat key % P.order) ≠ 0

theorem isUsable_iff : IsUsable P key ↔ ∃ n, exponent P key = .ok n ∧ scalar P n ≠ 0 := by
  simp only [exponent_eq_ok_iff]
  constructor
  · exact fun ⟨sized, nonzero, shifted⟩ => ⟨_, ⟨sized, nonzero, rfl⟩, shifted⟩
  · rintro ⟨_, ⟨sized, nonzero, rfl⟩, shifted⟩
    exact ⟨sized, nonzero, shifted⟩

theorem sign_eq_ok_iff : sign P key digest = .ok bytes ↔
    ∃ n, exponent P key = .ok n ∧ scalar P n ≠ 0 ∧
      bytes = P.sign (scalar P n) (pointBytes P (scalar P n) ++ digest) := by
  unfold sign
  simp only [bind_eq_ok_iff, secret_eq_ok_iff]
  constructor
  · rintro ⟨_, ⟨n, reduced, rfl⟩, signed⟩
    exact ⟨n, reduced, (Scheme.Bls12381.sign_ofNat_eq_ok_iff shifted_lt).1 signed⟩
  · rintro ⟨n, reduced, signed⟩
    exact ⟨_, ⟨n, reduced, rfl⟩, (Scheme.Bls12381.sign_ofNat_eq_ok_iff shifted_lt).2 signed⟩

theorem publicKey_eq_ok_iff : publicKey P key = .ok bytes ↔
    ∃ n, exponent P key = .ok n ∧ scalar P n ≠ 0 ∧ bytes = pointBytes P (scalar P n) := by
  unfold publicKey
  simp only [bind_eq_ok_iff, secret_eq_ok_iff]
  constructor
  · rintro ⟨_, ⟨n, reduced, rfl⟩, published⟩
    rw [toNat_ofNat_shifted] at published
    split_ifs at published with zero
    · cases published
    · exact ⟨n, reduced, (Scheme.Bls12381.publicKey_ofNat_eq_ok_iff shifted_lt).1 published⟩
  · rintro ⟨n, reduced, nonzero, rfl⟩
    refine ⟨_, ⟨n, reduced, rfl⟩, ?_⟩
    rw [toNat_ofNat_shifted]
    have published := (Scheme.Bls12381.publicKey_ofNat_eq_ok_iff shifted_lt).2 ⟨nonzero, rfl⟩
    exact (if_neg nonzero).trans published

theorem exists_sign_iff : (∃ bytes, sign P key digest = .ok bytes) ↔ IsUsable P key := by
  simp only [isUsable_iff, sign_eq_ok_iff]
  constructor
  · exact fun ⟨_, n, reduced, nonzero, _⟩ => ⟨n, reduced, nonzero⟩
  · exact fun ⟨n, reduced, nonzero⟩ => ⟨_, n, reduced, nonzero, rfl⟩

theorem exists_publicKey_iff : (∃ bytes, publicKey P key = .ok bytes) ↔ IsUsable P key := by
  simp only [isUsable_iff, publicKey_eq_ok_iff]
  constructor
  · exact fun ⟨_, n, reduced, nonzero, _⟩ => ⟨n, reduced, nonzero⟩
  · exact fun ⟨n, reduced, nonzero⟩ => ⟨_, n, reduced, nonzero, rfl⟩

theorem length_of_sign (h : sign P key digest = .ok bytes) : bytes.length = 96 := by
  obtain ⟨n, -, -, rfl⟩ := sign_eq_ok_iff.1 h
  exact P.length_sign _ _

end SyntheticKey

end CustodySigner
