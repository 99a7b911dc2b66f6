import CustodySigner.Proofs.Admission
import CustodySigner.Proofs.Derivation.Bip32
import CustodySigner.Proofs.Derivation.Slip10
import CustodySigner.Proofs.KeyPath
import CustodySigner.Proofs.Keys.Refusal

set_option autoImplicit false
set_option relaxedAutoImplicit false

/-!
The keys of a master key can sign. A path that parses has a key on a curve exactly where the curve's
way of derivation reaches, the key has 32 bytes in the range of the curve, and the same curve signs
with it.
-/

namespace CustodySigner

namespace PairingScheme

variable (P : PairingScheme)

/-- The number at the path below the seed's master key is a scalar, if there is one. -/
def ReturnsScalar (seed : Bytes) (path : KeyPath) : Prop :=
  ∀ master, P.masterKey? seed = some master →
    let n := path.components.foldl (fun secret c => P.childKey secret c.index) master
    0 < n ∧ n < P.order

variable {P} {seed bytes : Bytes} {path : KeyPath}

theorem derive_eq_ok_iff : P.derive seed path = .ok bytes ↔ ∃ master,
    P.masterKey? seed = some master ∧ bytes = Bytes.ofNat 32
      (path.components.foldl (fun secret c => P.childKey secret c.index) master) := by
  unfold derive
  cases P.masterKey? seed with
  | none => simp
  | some master => simp [eq_comm]

theorem exists_derive_iff (masters : P.masterKey? = Bls12381.masterKey?) :
    (∃ bytes, P.derive seed path = .ok bytes) ↔ 32 ≤ seed.length := by
  have found : (∃ master, P.masterKey? seed = some master) ↔ 32 ≤ seed.length := by
    rw [masters]
    change (∃ master, Bls12381.masterKey? seed = some master) ↔ Bls12381.minimumSeed ≤ seed.length
    unfold Bls12381.masterKey?
    by_cases short : seed.length < Bls12381.minimumSeed
    · simp [short]
    · simpa [short] using Nat.le_of_not_lt short
  rw [← found]
  constructor
  · rintro ⟨bytes, derived⟩
    obtain ⟨master, found, -⟩ := derive_eq_ok_iff.1 derived
    exact ⟨master, found⟩
  · rintro ⟨master, found⟩
    exact ⟨_, derive_eq_ok_iff.2 ⟨master, found, rfl⟩⟩

theorem usable_of_derive (scalar : P.ReturnsScalar seed path)
    (h : P.derive seed path = .ok bytes) :
    bytes.length = 32 ∧ 0 < Bytes.toNat bytes ∧ Bytes.toNat bytes < P.order := by
  obtain ⟨master, found, rfl⟩ := derive_eq_ok_iff.1 h
  obtain ⟨positive, bound⟩ := scalar master found
  rw [Bytes.toNat_ofNat_32 (lt_of_lt_of_le bound P.order_le)]
  exact ⟨Bytes.length_ofNat 32 _, positive, bound⟩

end PairingScheme

/-- The digests and recovery flags with which obligations on the curve can be signed. -/
def Curve.Allows (digest : Bytes) (recovery : Bool) : Curve → Prop
  | .secp256k1 | .secp256r1 => digest.length = 32
  | .ed25519 => digest ≠ [] ∧ recovery = false
  | .bls12381 => True

namespace Suite

variable (S : Suite)

/-- No negligible case of the curve's way of derivation is met below the seed. -/
def DerivesRegularly (seed : Bytes) (path : KeyPath) : Curve → Prop
  | .secp256k1 => Bip32.Regular S.mac S.secp256k1 seed path
  | .secp256r1 | .ed25519 => True
  | .bls12381 => S.bls12381.ReturnsScalar seed path

/-- Where the curve's way of derivation reaches. -/
def Reaches (seed : Bytes) (path : KeyPath) : Curve → Prop
  | .secp256k1 => path.depth ≤ 255
  | .secp256r1 => Slip10.Secp256r1.RetriesEnd S.mac S.secp256r1 S.attempts seed path
  | .ed25519 => True
  | .bls12381 => 32 ≤ seed.length

/-- The key is 32 bytes in the range of the curve. -/
def InRange (key : Bytes) : Curve → Prop
  | .secp256k1 => key.length = 32 ∧ Ecdsa.isScalar S.secp256k1 (Bytes.toNat key) = true
  | .secp256r1 => key.length = 32 ∧ Ecdsa.isScalar S.secp256r1 (Bytes.toNat key) = true
  | .ed25519 => key.length = 32
  | .bls12381 => key.length = 32 ∧ 0 < Bytes.toNat key ∧ Bytes.toNat key < S.bls12381.order

/-- No negligible case of signing is met: no half of the signature is zero, nor is the synthetic
key. -/
def SignsRegularly (key digest : Bytes) : Curve → Prop
  | .secp256k1 =>
    Ecdsa.FirstNonceSigns S.secp256k1 S.attempts
      (S.nonce key (Bytes.ofNat 32 (Bytes.toNat digest % S.secp256k1.order))) (Bytes.toNat key)
      (Bytes.toNat digest)
  | .secp256r1 =>
    Ecdsa.FirstNonceSigns S.secp256r1 S.attempts (S.nonce key digest) (Bytes.toNat key)
      (Bytes.toNat digest)
  | .ed25519 => True
  | .bls12381 => SyntheticKey.scalar S.bls12381 (Bytes.toNat key) ≠ 0

variable {S} {curve : Curve} {seed key digest : Bytes} {path : KeyPath} {recovery : Bool}

theorem InRange.length (h : S.InRange key curve) : key.length = 32 := by
  cases curve with
  | ed25519 => exact h
  | secp256k1 | secp256r1 | bls12381 => exact h.1

theorem exists_derive_iff (k1 : S.secp256k1.Lawful) (r1 : S.secp256r1.Lawful)
    (masters : S.bls12381.masterKey? = Bls12381.masterKey?) (inRange : path.InRange)
    (regular : S.DerivesRegularly seed path curve) :
    (∃ key, S.derive curve seed path = .ok key) ↔ S.Reaches seed path curve := by
  cases curve with
  | secp256k1 =>
    exact Bip32.exists_derive_iff S.length_mac k1 inRange.badIndex?_eq_none regular
  | secp256r1 => exact Slip10.Secp256r1.exists_derive_iff S.length_mac r1
  | ed25519 => exact iff_of_true ⟨_, rfl⟩ trivial
  | bls12381 => exact PairingScheme.exists_derive_iff masters

theorem inRange_of_derive (inRange : path.InRange) (regular : S.DerivesRegularly seed path curve)
    (h : S.derive curve seed path = .ok key) : S.InRange key curve := by
  cases curve with
  | secp256k1 => exact Bip32.usable_of_derive S.length_mac inRange.badIndex?_eq_none h
  | secp256r1 => exact Slip10.Secp256r1.usable_of_derive S.length_mac h
  | ed25519 =>
    obtain rfl := Except.ok.inj h
    exact Slip10.Ed25519.length_derive S.length_mac seed path
  | bls12381 => exact PairingScheme.usable_of_derive regular h

/-- A key in the range of the curve signs every digest that the curve allows. -/
theorem exists_sign (k1 : S.secp256k1.Lawful) (r1 : S.secp256r1.Lawful)
    (inRange : S.InRange key curve) (allowed : curve.Allows digest recovery)
    (regular : S.SignsRegularly key digest curve) :
    ∃ signature, S.sign curve key digest recovery = .ok signature := by
  cases curve with
  | secp256k1 =>
    obtain ⟨length, scalar⟩ := inRange
    obtain ⟨positive, bound⟩ := Ecdsa.isScalar_iff.1 scalar
    have halves : S.GivesHalves key digest .secp256k1 := regular
    exact (exists_sign_iff k1 r1 fun _ => halves).2 ⟨length, positive, bound, allowed⟩
  | secp256r1 =>
    obtain ⟨length, scalar⟩ := inRange
    obtain ⟨positive, bound⟩ := Ecdsa.isScalar_iff.1 scalar
    have halves : S.GivesHalves key digest .secp256r1 := regular
    exact (exists_sign_iff k1 r1 fun _ => halves).2 ⟨length, positive, bound, allowed⟩
  | ed25519 =>
    obtain ⟨nonempty, unset⟩ := allowed
    have halves : S.GivesHalves key digest .ed25519 := trivial
    exact (exists_sign_iff k1 r1 fun _ => halves).2 ⟨unset, inRange, nonempty⟩
  | bls12381 =>
    obtain ⟨length, positive, bound⟩ := inRange
    have halves : S.GivesHalves key digest .bls12381 := trivial
    refine (exists_sign_iff k1 r1 fun _ => halves).2 ⟨⟨by omega, by omega⟩,
      Nat.not_dvd_of_pos_of_lt positive bound, ?_⟩
    rw [Nat.mod_eq_of_lt bound]
    exact regular

end Suite

namespace MasterKey

/-- A path that parses has indices that are child numbers. Its key on a curve exists where the
curve's way of derivation reaches, has 32 bytes in the range of the curve, and signs on the curve
every digest that is allowed there. -/
theorem derived_key_signs (S : Suite) (k1 : S.secp256k1.Lawful) (r1 : S.secp256r1.Lawful)
    (masters : S.bls12381.masterKey? = Bls12381.masterKey?) (master : MasterKey)
    {text : String} {path : KeyPath} (parsed : KeyPath.parse text = .ok path) :
    (∀ c ∈ path.components, c.index < PathComponent.hardenedBit) ∧
    Bip32.badIndex? path.components = none ∧
    ∀ curve, S.DerivesRegularly master.seed path curve →
      ((∃ key, (master.store S).Gives text curve key) ↔ S.Reaches master.seed path curve) ∧
      ∀ key, (master.store S).Gives text curve key →
        key.length = 32 ∧ S.InRange key curve ∧
        ∀ digest recovery, curve.Allows digest recovery → S.SignsRegularly key digest curve →
          ∃ signature, S.sign curve key digest recovery = .ok signature := by
  have inRange := KeyPath.inRange_of_parse parsed
  refine ⟨inRange, inRange.badIndex?_eq_none, fun curve regular => ?_⟩
  have given (key : Bytes) : (master.store S).Gives text curve key ↔
      S.derive curve master.seed path = .ok key := by
    rw [gives_store_iff, parsed]
    simp
  simp only [given]
  refine ⟨Suite.exists_derive_iff k1 r1 masters inRange regular, fun key derived => ?_⟩
  have usable := Suite.inRange_of_derive inRange regular derived
  exact ⟨usable.length, usable, fun digest recovery allowed signing =>
    Suite.exists_sign k1 r1 usable allowed signing⟩

/-- A seed of 64 bytes whose tree of BLS keys is published. -/
def publishedSeed : MasterKey where
  seed := Bytes.ofNat 32 0xc55257c360c07c72029aebc1b53c05ed0362ada38ead3e3e9efa3708e5349553 ++
    Bytes.ofNat 32 0x1f09a6987599d18264c1e1c92f2cf141630c7a3c4ab7c81b2f001698e7463b04
  least := by simp
  most := by simp

/-- The first child in that tree. -/
def leafScalar : Nat := 0x2d18bd6c14e6d15bf8b5085c9b74f3daae3b03cc2014770a599d8c1539e50f8e

/-- The standard primitives, with the published child in place of the tree of BLS keys. -/
def leafSuite : Suite :=
  { Suite.standard with
    bls12381 := { Suite.bls12381Standard with childKey := fun _ _ => leafScalar } }

def leafPath : KeyPath := ⟨[⟨0, true⟩]⟩

/-- The key of the published seed on secp256r1. -/
def leafKey : Bytes :=
  Bytes.ofNat 32 0x46bb67cb09806d54decbbf71da3d8131a12ba71fe7eba2858a5a3f8d48f8e679

/-- The first nonce of that key for a digest of 32 equal bytes. -/
def leafNonce : Nat := 0x6e14d9c279011d20ea4c925ad5acb6deb8bbcd4cf3782cab8a4692908ef76cba

set_option maxRecDepth 10000 in
theorem derived_key_signs_leafKey :
    KeyPath.parse "m/0'" = .ok leafPath ∧
      (∃ key, (publishedSeed.store leafSuite).Gives "m/0'" .secp256k1 key ∧ key.length = 32) ∧
      (publishedSeed.store leafSuite).Gives "m/0'" .secp256r1 leafKey ∧
      (∃ signature, leafSuite.sign .secp256r1 leafKey (List.replicate 32 3) true = .ok signature) ∧
      (∃ key signature, (publishedSeed.store leafSuite).Gives "m/0'" .ed25519 key ∧
        leafSuite.sign .ed25519 key [3] false = .ok signature) ∧
      ∃ key, (publishedSeed.store leafSuite).Gives "m/0'" .bls12381 key ∧ key.length = 32 := by
  have parsed : KeyPath.parse "m/0'" = .ok leafPath := by decide
  obtain ⟨-, -, usable⟩ := derived_key_signs leafSuite lawful_secp256k1 lawful_secp256r1 rfl
    publishedSeed parsed
  have regular : leafSuite.DerivesRegularly publishedSeed.seed leafPath .secp256k1 := by
    refine ⟨by decide +kernel, fun data hashed => ?_, fun _ _ => trivial⟩
    obtain rfl := Option.some.inj hashed
    decide +kernel
  have scalar : leafSuite.DerivesRegularly publishedSeed.seed leafPath .bls12381 := by
    intro master _
    change 0 < leafScalar ∧ leafScalar < Bls12381.order
    decide
  have derived : leafSuite.derive .secp256r1 publishedSeed.seed leafPath = .ok leafKey := by
    decide +kernel
  have signs : leafSuite.SignsRegularly leafKey (List.replicate 32 3) .secp256r1 := by
    have nonce : leafSuite.nonce leafKey (List.replicate 32 3) 0 = leafNonce := by decide +kernel
    refine ⟨0, by decide, ?_, fun j earlier => absurd earlier (Nat.not_lt_zero j), ?_⟩
    · rw [nonce]
      decide
    · rw [nonce]
      decide +kernel
  have given : (publishedSeed.store leafSuite).Gives "m/0'" .secp256r1 leafKey :=
    gives_store_iff.2 ⟨leafPath, parsed, derived⟩
  obtain ⟨key, found⟩ := (usable .secp256k1 regular).1.2 (show 1 ≤ 255 by decide)
  obtain ⟨key', found'⟩ := (usable .ed25519 trivial).1.2 trivial
  obtain ⟨key'', found''⟩ := (usable .bls12381 scalar).1.2
    (show 32 ≤ publishedSeed.seed.length by decide)
  refine ⟨parsed, ⟨key, found, ((usable .secp256k1 regular).2 key found).1⟩, given, ?_,
    ⟨key', ?_⟩, key'', found'', ((usable .bls12381 scalar).2 key'' found'').1⟩
  · exact ((usable .secp256r1 trivial).2 leafKey given).2.2 _ true List.length_replicate signs
  · obtain ⟨signature, signed⟩ :=
      ((usable .ed25519 trivial).2 key' found').2.2 [3] false ⟨by decide, rfl⟩ trivial
    exact ⟨signature, found', signed⟩

end MasterKey

end CustodySigner
