import CustodySigner.Proofs.Batch.Alone
import CustodySigner.Proofs.Derivation.Slip10
import CustodySigner.Proofs.KeyPath.Spelling
import CustodySigner.Proofs.Keys.Refusal
import CustodySigner.Proofs.Scheme.Acceptance
import Mathlib.Tactic.IntervalCases

set_option autoImplicit false
set_option relaxedAutoImplicit false

/-!
Derivation without marks. On Ed25519 every level is hardened and on BLS12-381 none is told apart, so
that a key there depends on the indices of its path alone, and a signature on what the path spells.
-/

namespace CustodySigner

/-- The node that the indices lead to, one child below the other. -/
inductive Descends {α : Type} (child : α → UInt32 → α) (master : α) : List UInt32 → α → Prop
  | master : Descends child master [] master
  | child {above : List UInt32} {parent : α} {index : UInt32}
      (reached : Descends child master above parent) :
      Descends child master (above ++ [index]) (child parent index)

theorem descends_iff {α : Type} {child : α → UInt32 → α} {master node : α}
    {indices : List UInt32} :
    Descends child master indices node ↔ indices.foldl child master = node := by
  constructor
  · intro reached
    induction reached with
    | master => rfl
    | child reached ih => rw [List.foldl_append, ih, List.foldl_cons, List.foldl_nil]
  · rintro rfl
    induction indices using List.reverseRecOn with
    | nil => exact .master
    | append_singleton above index ih =>
      rw [List.foldl_append, List.foldl_cons, List.foldl_nil]
      exact .child ih

namespace PathComponent

theorem toNat_or_hardenedBit (index : UInt32) :
    (index ||| hardenedBit).toNat = index.toNat % 2 ^ 31 + 2 ^ 31 := by
  have bit : hardenedBit.toNat = 2 ^ 31 := rfl
  rw [UInt32.toNat_or, bit]
  -- The low 31 bits stay as they are, and above them there is one bit, which is set.
  have below : index.toNat / 2 ^ 31 < 2 := by
    have bounded := index.toNat_lt
    omega
  have low : (index.toNat ||| 2 ^ 31) % 2 ^ 31 = index.toNat % 2 ^ 31 := by
    rw [Nat.or_mod_two_pow, Nat.mod_self, Nat.or_zero]
  have high : (index.toNat ||| 2 ^ 31) / 2 ^ 31 = 1 := by
    rw [Nat.or_div_two_pow, Nat.div_self (Nat.two_pow_pos 31)]
    interval_cases index.toNat / 2 ^ 31 <;> rfl
  omega

end PathComponent

namespace Slip10.Ed25519

variable (mac : Bytes → Bytes → Bytes)

/-- The hash of a hardened child: the right half of its parent's hash is the chain code, and the left
half the key. -/
def hardenedHash (parent : Bytes) (index : UInt32) : Bytes :=
  mac (parent.drop 32)
    (0 :: parent.take 32 ++ Bytes.ofNat 4 (index.toNat % 2 ^ 31 + 2 ^ 31))

theorem child_ofHash (parent : Bytes) (c : PathComponent) :
    child mac (ExtendedKey.ofHash parent) c =
      ExtendedKey.ofHash (hardenedHash mac parent c.index) := by
  unfold child hardenedHash indexBytes
  dsimp only
  rw [PathComponent.toNat_or_hardenedBit]
  rfl

theorem derive_eq_foldl (seed : Bytes) (path : KeyPath) : derive mac seed path =
    (path.indices.foldl (hardenedHash mac) (mac (Bytes.ofText "ed25519 seed") seed)).take 32 := by
  have levels : ∀ (components : List PathComponent) (hash : Bytes),
      components.foldl (child mac) (ExtendedKey.ofHash hash) =
        ExtendedKey.ofHash ((components.map (·.index)).foldl (hardenedHash mac) hash) := by
    intro components
    induction components with
    | nil => intro hash; rfl
    | cons c rest ih =>
      intro hash
      rw [List.foldl_cons, child_ofHash, ih, List.map_cons, List.foldl_cons]
  unfold derive
  rw [levels]
  rfl

end Slip10.Ed25519

namespace PairingScheme

variable {P : PairingScheme}

theorem derive_of_master {seed : Bytes} {master : Nat} (found : P.masterKey? seed = some master)
    (path : KeyPath) :
    P.derive seed path = .ok (Bytes.ofNat 32 (path.indices.foldl P.childKey master)) := by
  unfold derive KeyPath.indices
  rw [found, List.foldl_map]

theorem derive_of_short {seed : Bytes} (short : P.masterKey? seed = none) (path path' : KeyPath) :
    P.derive seed path' = P.derive seed path := by
  unfold derive
  rw [short]

end PairingScheme

namespace Suite

variable (S : Suite)

theorem derive_ed25519_iff (seed : Bytes) (path : KeyPath) (result : Except CurveError Bytes) :
    S.derive .ed25519 seed path = result ↔ ∃ hash,
      Descends (Slip10.Ed25519.hardenedHash S.mac) (S.mac (Bytes.ofText "ed25519 seed") seed)
        path.indices hash ∧ result = .ok (hash.take 32) := by
  have derived : S.derive .ed25519 seed path = .ok (Slip10.Ed25519.derive S.mac seed path) := rfl
  rw [derived, Slip10.Ed25519.derive_eq_foldl]
  constructor
  · intro same
    exact ⟨_, descends_iff.2 rfl, same.symm⟩
  · rintro ⟨hash, reached, rfl⟩
    rw [descends_iff.1 reached]

theorem derive_bls12381_iff {seed : Bytes}
    (found : ∃ master, S.bls12381.masterKey? seed = some master) (path : KeyPath)
    (result : Except CurveError Bytes) :
    S.derive .bls12381 seed path = result ↔ ∃ master secret,
      S.bls12381.masterKey? seed = some master ∧
        Descends S.bls12381.childKey master path.indices secret ∧
        result = .ok (Bytes.ofNat 32 secret) := by
  obtain ⟨master, found⟩ := found
  have derived : S.derive .bls12381 seed path =
      .ok (Bytes.ofNat 32 (path.indices.foldl S.bls12381.childKey master)) :=
    PairingScheme.derive_of_master found path
  rw [derived]
  constructor
  · intro same
    exact ⟨master, _, found, descends_iff.2 rfl, same.symm⟩
  · rintro ⟨master', secret, found', reached, rfl⟩
    obtain rfl := Option.some.inj (found.symm.trans found')
    rw [descends_iff.1 reached]

variable {S} {curve : Curve}

/-- Paths with the same indices have the same key, marked or not. -/
theorem derive_of_indices (unmarked : curve = .ed25519 ∨ curve = .bls12381) (seed : Bytes)
    {path path' : KeyPath} (same : path'.indices = path.indices) :
    S.derive curve seed path' = S.derive curve seed path := by
  rcases unmarked with rfl | rfl
  · have derived (path : KeyPath) :
        S.derive .ed25519 seed path = .ok (Slip10.Ed25519.derive S.mac seed path) := rfl
    rw [derived, derived, Slip10.Ed25519.derive_eq_foldl, Slip10.Ed25519.derive_eq_foldl, same]
  · have derived (path : KeyPath) :
        S.derive .bls12381 seed path = S.bls12381.derive seed path := rfl
    rw [derived, derived]
    cases found : S.bls12381.masterKey? seed with
    | none => exact PairingScheme.derive_of_short found path path'
    | some master =>
      rw [PairingScheme.derive_of_master found, PairingScheme.derive_of_master found, same]

end Suite

theorem MasterKey.gives_of_respells {S : Suite} {master : MasterKey} {curve : Curve}
    (unmarked : curve = .ed25519 ∨ curve = .bls12381) {text text' : String}
    (respelled : KeyPath.Respells text text') {key : Bytes}
    (given : (master.store S).Gives text curve key) : (master.store S).Gives text' curve key := by
  obtain ⟨path, parsed, derived⟩ := gives_store_iff.1 given
  obtain ⟨path', parsed', same⟩ := (KeyPath.respells_iff parsed).1 respelled
  have derived' := (Suite.derive_of_indices unmarked master.seed same).trans derived
  exact gives_store_iff.2 ⟨path', parsed', derived'⟩

/-- The obligations ask for a signature of the same digest on the same curve, and their paths write
the same digits. -/
structure Obligation.Respells (o o' : Obligation) : Prop where
  curveCode : o'.curveCode = o.curveCode
  message : o'.message = o.message
  recovery : o'.recovery = o.recovery
  path : KeyPath.Respells o.path o'.path

theorem Obligation.Respells.symm {o o' : Obligation} (h : o.Respells o') : o'.Respells o :=
  ⟨h.curveCode.symm, h.message.symm, h.recovery.symm, h.path.symm⟩

namespace Batch

variable {S : Suite} {master : MasterKey} {curve : Curve} {o o' : Obligation}

theorem signatureOf_of_respells (unmarked : curve = .ed25519 ∨ curve = .bls12381)
    (code : o.curveCode = curve.code) (respelled : o.Respells o') {signed : String}
    (h : signatureOf S (master.store S) o = .ok signed) :
    signatureOf S (master.store S) o' = .ok signed := by
  obtain ⟨curve', digest, key, signature, known, decoded, stored, made, rfl⟩ :=
    signatureOf_eq_ok_iff.1 h
  obtain rfl : curve' = curve := by
    have own := Curve.ofCode?_eq_some_iff.2 code.symm
    exact Option.some.inj (known.symm.trans own)
  have known' : o'.curve? = some curve' := by
    rw [← known, Obligation.curve?, respelled.curveCode]
    rfl
  have given := MasterKey.gives_of_respells unmarked respelled.path
    (KeyStore.privateKey_eq_ok_iff.1 stored)
  refine signatureOf_eq_ok_iff.2 ⟨curve', digest, key, signature, known', ?_,
    KeyStore.privateKey_eq_ok_iff.2 given, ?_, rfl⟩
  · rw [respelled.message]
    exact decoded
  · rw [respelled.recovery]
    exact made

end Batch

namespace Suite

/-- On Ed25519 a key is the end of the chain of hardened hashes below its seed, and on BLS12-381 the
descendant of its seed's master key by the indices of the path. On both curves paths with the same
indices have the same key, and obligations whose paths write the same digits the same signature. -/
theorem derives_from_indices_alone (S : Suite)
    (masters : ∀ seed : Bytes, 32 ≤ seed.length →
      ∃ master, S.bls12381.masterKey? seed = some master) :
    (∀ seed path result, S.derive .ed25519 seed path = result ↔ ∃ hash,
      Descends (Slip10.Ed25519.hardenedHash S.mac) (S.mac (Bytes.ofText "ed25519 seed") seed)
        path.indices hash ∧ result = .ok (hash.take 32)) ∧
    (∀ seed path result, 32 ≤ seed.length → (S.derive .bls12381 seed path = result ↔
      ∃ master secret, S.bls12381.masterKey? seed = some master ∧
        Descends S.bls12381.childKey master path.indices secret ∧
        result = .ok (Bytes.ofNat 32 secret))) ∧
    ∀ curve, curve = .ed25519 ∨ curve = .bls12381 →
      (∀ seed path path', path'.indices = path.indices →
        S.derive curve seed path' = S.derive curve seed path) ∧
      ∀ (master : MasterKey) (o o' : Obligation), o.curveCode = curve.code → o.Respells o' →
        ∀ signed, Batch.signatureOf S (master.store S) o = .ok signed ↔
          Batch.signatureOf S (master.store S) o' = .ok signed := by
  refine ⟨S.derive_ed25519_iff, fun seed path result long =>
    S.derive_bls12381_iff (masters seed long) path result, fun curve unmarked =>
    ⟨fun seed path path' => derive_of_indices unmarked seed, fun master o o' code respelled signed =>
      ⟨Batch.signatureOf_of_respells unmarked code respelled, ?_⟩⟩⟩
  have code' : o'.curveCode = curve.code := respelled.curveCode.trans code
  exact Batch.signatureOf_of_respells unmarked code' respelled.symm

/-- A seed of sixteen bytes whose keys on Ed25519 are published. -/
def countingSeed : MasterKey where
  seed := [0, 1, 2, 3, 4, 5, 6, 7, 8, 9, 10, 11, 12, 13, 14, 15]
  least := by decide
  most := by decide

/-- The first hardened child of that seed on Ed25519. -/
def countingChild : Bytes :=
  Bytes.ofNat 32 0x68e0fe46dfb67e368c75379acec591dad19df3cde26e63b93a8e704f1dade7a3

/-- One digest to be signed on Ed25519 at a path. -/
def signatureAt (path : String) : Obligation :=
  { Obligation.blank with curveCode := Curve.code .ed25519, message := "03", path := path }

theorem derives_from_indices_alone_samples :
    (∀ seed : Bytes, 32 ≤ seed.length →
      ∃ master, Suite.standard.bls12381.masterKey? seed = some master) ∧
    Suite.standard.derive .ed25519 countingSeed.seed ⟨[⟨0, false⟩]⟩ = .ok countingChild ∧
    Suite.standard.derive .bls12381 (List.replicate 32 1) ⟨[⟨44, true⟩, ⟨0, false⟩]⟩ =
      Suite.standard.derive .bls12381 (List.replicate 32 1) ⟨[⟨44, false⟩, ⟨0, false⟩]⟩ ∧
    ∃ signed,
      Batch.signatureOf standard (countingSeed.store standard) (signatureAt "m/0") = .ok signed ∧
      Batch.signatureOf standard (countingSeed.store standard) (signatureAt "\tM/ 00H") =
        .ok signed := by
  have masters : ∀ seed : Bytes, 32 ≤ seed.length →
      ∃ master, Suite.standard.bls12381.masterKey? seed = some master :=
    fun seed long => ⟨Bls12381.secretOf seed, if_neg (Nat.not_lt_of_le long)⟩
  obtain ⟨-, -, alone⟩ := derives_from_indices_alone Suite.standard masters
  obtain ⟨keys, signatures⟩ := alone .ed25519 (.inl rfl)
  obtain ⟨keys', -⟩ := alone .bls12381 (.inr rfl)
  have marked : Suite.standard.derive .ed25519 countingSeed.seed ⟨[⟨0, true⟩]⟩ =
      .ok countingChild := by decide +kernel
  have plain := (keys countingSeed.seed ⟨[⟨0, true⟩]⟩ ⟨[⟨0, false⟩]⟩ rfl).trans marked
  have spelled : (signatureAt "m/0").Respells (signatureAt "\tM/ 00H") := by
    have parsed : KeyPath.parse "m/0" = .ok ⟨[⟨0, false⟩]⟩ := by decide
    have parsed' : KeyPath.parse "\tM/ 00H" = .ok ⟨[⟨0, true⟩]⟩ := by decide
    exact ⟨rfl, rfl, rfl, (KeyPath.respells_iff parsed).2 ⟨_, parsed', rfl⟩⟩
  obtain ⟨signed, made⟩ : ∃ signed, Batch.signatureOf standard (countingSeed.store standard)
      (signatureAt "m/0") = .ok signed := by
    have given : (countingSeed.store standard).Gives "m/0" .ed25519 countingChild :=
      MasterKey.gives_store_iff.2 ⟨_, by decide, plain⟩
    have signs : standard.signObligation .ed25519 countingChild [3] false =
        .ok (standard.ed25519.sign countingChild [3]) :=
      Scheme.Ed25519.signObligation_eq_ok_iff.2 ⟨rfl, by decide, by decide, rfl⟩
    exact ⟨_, Batch.signatureOf_eq_ok_iff.2 ⟨.ed25519, [3], countingChild, _, by decide, by decide,
      KeyStore.privateKey_eq_ok_iff.2 given,
      Suite.sign_eq_ok_iff.2 ⟨signs, standard.ed25519.length_sign _ _⟩, rfl⟩⟩
  exact ⟨masters, plain, keys' _ _ _ rfl, signed, made,
    (signatures countingSeed _ _ rfl spelled signed).1 made⟩

end Suite

end CustodySigner
