import CustodySigner.Proofs.Batch.Classification
import CustodySigner.Proofs.Batch.Failure
import CustodySigner.Proofs.DerivedKey

set_option autoImplicit false
set_option relaxedAutoImplicit false

/-!
What a batch tells about the seed. Whether it succeeds, and the error if it fails, are the same for any
two seeds of one length: the keys that are derived from them are in range alike, and what is wrong with
a digest, a flag or a path is said without the key.
-/

namespace CustodySigner

/-- The computations fail with the same error, or none of them does. -/
def SameVerdict {ε α β : Type} (x : Except ε α) (y : Except ε β) : Prop :=
  (x.map fun _ => ()) = y.map fun _ => ()

theorem sameVerdict_iff {ε α β : Type} {x : Except ε α} {y : Except ε β} :
    SameVerdict x y ↔ ∀ e, x = .error e ↔ y = .error e := by
  unfold SameVerdict
  cases x <;> cases y <;> simp [Except.map, eq_comm]

theorem SameVerdict.exists_ok {ε α β : Type} {x : Except ε α} {y : Except ε β}
    (same : SameVerdict x y) {a : α} (h : x = .ok a) : ∃ b, y = .ok b := by
  cases y with
  | ok b => exact ⟨b, rfl⟩
  | error e => cases h.symm.trans ((sameVerdict_iff.1 same e).2 rfl)

section Refusals

open Scheme

variable {G : CurveGroup} {attempts : Nat} {nonce : Bytes → Bytes → Nat → Nat} {key digest : Bytes}

/-- What is said of a digest that is not 32 bytes long. -/
def digestRefusal (digest : Bytes) : CurveError :=
  ⟨.invalidDigest, "Digest must be 32 bytes, got " ++ toString digest.length⟩

theorem Scheme.Secp256k1.signature_eq_error (length : key.length = 32)
    (scalar : Ecdsa.isScalar G (Bytes.toNat key) = true) (size : digest.length ≠ 32) :
    Secp256k1.signature G attempts nonce key digest = .error (digestRefusal digest) := by
  refine bind_eq_error_iff.2 (.inr ⟨_, ecdsaSecret_eq_ok_iff.2 ⟨length, rfl, scalar⟩, ?_⟩)
  exact bind_eq_error_iff.2 (.inl (if_neg size))

theorem Scheme.Secp256r1.signature_eq_error (length : key.length = 32)
    (scalar : Ecdsa.isScalar G (Bytes.toNat key) = true) (size : digest.length ≠ 32) :
    Secp256r1.signature G attempts nonce key digest = .error (digestRefusal digest) := by
  refine bind_eq_error_iff.2 (.inr ⟨_, ecdsaSecret_eq_ok_iff.2 ⟨length, rfl, scalar⟩, ?_⟩)
  exact bind_eq_error_iff.2 (.inl (if_neg size))

theorem Scheme.EcdsaScheme.signObligation_eq_error {E : EcdsaScheme} {e : CurveError}
    (h : E.signature key digest = .error e) (recovery : Bool) :
    E.signObligation key digest recovery = .error e := by
  cases recovery with
  | false => exact bind_eq_error_iff.2 (.inl h)
  | true => exact map_eq_error_iff.2 (bind_eq_error_iff.2 (.inl h))

end Refusals

namespace Suite

variable {S : Suite} {curve : Curve} {seed seed' digest : Bytes} {path : KeyPath} {recovery : Bool}

theorem exists_refusal (forbidden : ¬ curve.Allows digest recovery) :
    ∃ fault, ∀ key, S.InRange key curve → S.sign curve key digest recovery = .error fault := by
  have refused {fault : CurveError} {key : Bytes}
      (h : S.signObligation curve key digest recovery = .error fault) :
      S.sign curve key digest recovery = .error fault := bind_eq_error_iff.2 (.inl h)
  cases curve with
  | secp256k1 =>
    refine ⟨digestRefusal digest, fun key inRange => refused ?_⟩
    obtain ⟨length, scalar⟩ := inRange
    have unsigned : Scheme.Secp256k1.signature S.secp256k1 S.attempts S.nonce key digest =
        .error (digestRefusal digest) :=
      Scheme.Secp256k1.signature_eq_error length scalar forbidden
    exact Scheme.EcdsaScheme.signObligation_eq_error (E := S.secp256k1Scheme) unsigned recovery
  | secp256r1 =>
    refine ⟨digestRefusal digest, fun key inRange => refused ?_⟩
    obtain ⟨length, scalar⟩ := inRange
    have unsigned : Scheme.Secp256r1.signature S.secp256r1 S.attempts S.nonce key digest =
        .error (digestRefusal digest) :=
      Scheme.Secp256r1.signature_eq_error length scalar forbidden
    exact Scheme.EcdsaScheme.signObligation_eq_error (E := S.secp256r1Scheme) unsigned recovery
  | ed25519 =>
    cases recovery with
    | true =>
      exact ⟨⟨.signingFailed, "ed25519 signatures carry no recovery byte"⟩, fun key _ => refused rfl⟩
    | false =>
      have empty : digest = [] := by
        by_contra nonempty
        exact forbidden ⟨nonempty, rfl⟩
      refine ⟨⟨.invalidDigest, "Digest must not be empty"⟩, fun key _ => refused ?_⟩
      simp only [signObligation, Scheme.Ed25519.signObligation, Scheme.Ed25519.sign, empty]
      rfl
  | bls12381 => exact absurd trivial forbidden

variable (S) in
/-- No negligible case is met on the way down to a path; only the levels that there are count. -/
def DescendsRegularly (seed : Bytes) (path : KeyPath) : Curve → Prop
  | .secp256k1 => Bip32.Regular S.mac S.secp256k1 seed ⟨path.components.take Bip32.maximumDepth⟩
  | .secp256r1 => Slip10.Secp256r1.RetriesEnd S.mac S.secp256r1 S.attempts seed path
  | .ed25519 => True
  | .bls12381 => S.bls12381.ReturnsScalar seed path

theorem DescendsRegularly.derivesRegularly (regular : S.DescendsRegularly seed path curve)
    (reaches : S.Reaches seed path curve) : S.DerivesRegularly seed path curve := by
  cases curve with
  | secp256k1 =>
    have whole : path.components.take Bip32.maximumDepth = path.components :=
      List.take_of_length_le reaches
    simpa only [DescendsRegularly, DerivesRegularly, whole] using regular
  | secp256r1 | ed25519 => trivial
  | bls12381 => exact regular

theorem reaches_congr (length : seed'.length = seed.length)
    (regular : S.DescendsRegularly seed path curve)
    (regular' : S.DescendsRegularly seed' path curve) :
    S.Reaches seed path curve ↔ S.Reaches seed' path curve := by
  cases curve with
  | secp256k1 | ed25519 => exact Iff.rfl
  | secp256r1 => exact iff_of_true regular regular'
  | bls12381 => simp only [Reaches, length]

theorem exists_shortfall (curve : Curve) (k1 : S.secp256k1.Lawful)
    (masters : S.bls12381.masterKey? = Bls12381.masterKey?) (inRange : path.InRange) :
    ∃ fault, ∀ seed, S.DescendsRegularly seed path curve → ¬ S.Reaches seed path curve →
      S.derive curve seed path = .error fault := by
  cases curve with
  | secp256k1 =>
    refine ⟨Bip32.tooDeep, fun seed regular deep => ?_⟩
    exact Bip32.derive_eq_error_of_deep S.length_mac k1 inRange.badIndex?_eq_none regular
      (Nat.lt_of_not_le deep)
  | secp256r1 => exact ⟨Slip10.Secp256r1.exhausted, fun seed regular stuck => absurd regular stuck⟩
  | ed25519 => exact ⟨⟨.derivationFailed, ""⟩, fun seed _ stuck => absurd trivial stuck⟩
  | bls12381 =>
    refine ⟨⟨.derivationFailed,
      "EIP-2333 master key: " ++ Bls12381.EncodingError.badEncoding.message⟩, fun seed _ short => ?_⟩
    have missing : S.bls12381.masterKey? seed = none := by
      rw [masters]
      exact if_pos (Nat.lt_of_not_le short)
    simp only [derive, PairingScheme.derive, missing]

theorem DescendsRegularly.inRange {key : Bytes} (k1 : S.secp256k1.Lawful)
    (masters : S.bls12381.masterKey? = Bls12381.masterKey?)
    (regular : S.DescendsRegularly seed path curve) (inRange : path.InRange)
    (derived : S.derive curve seed path = .ok key) : S.InRange key curve := by
  by_cases reaches : S.Reaches seed path curve
  · exact inRange_of_derive inRange (regular.derivesRegularly reaches) derived
  · obtain ⟨fault, failed⟩ := exists_shortfall curve k1 masters inRange
    cases derived.symm.trans (failed seed regular reaches)

section

variable (k1 : S.secp256k1.Lawful) (r1 : S.secp256r1.Lawful)
  (masters : S.bls12381.masterKey? = Bls12381.masterKey?)
include k1 r1 masters

theorem sameVerdict_derive (length : seed'.length = seed.length) (inRange : path.InRange)
    (regular : S.DescendsRegularly seed path curve)
    (regular' : S.DescendsRegularly seed' path curve) :
    SameVerdict (S.derive curve seed path) (S.derive curve seed' path) := by
  have alike := reaches_congr length regular regular'
  by_cases reaches : S.Reaches seed path curve
  · obtain ⟨bytes, derived⟩ :=
      (exists_derive_iff k1 r1 masters inRange (regular.derivesRegularly reaches)).2 reaches
    obtain ⟨bytes', derived'⟩ := (exists_derive_iff k1 r1 masters inRange
      (regular'.derivesRegularly (alike.1 reaches))).2 (alike.1 reaches)
    rw [derived, derived']
    rfl
  · obtain ⟨fault, failed⟩ := exists_shortfall curve k1 masters inRange
    rw [failed seed regular reaches, failed seed' regular' (mt alike.2 reaches)]
    rfl

omit masters in
theorem sign_eq_error_of_inRange {key key' : Bytes} {fault : CurveError} (inRange : S.InRange key curve)
    (signs : curve.Allows digest recovery → S.SignsRegularly key digest curve)
    (failed : S.sign curve key digest recovery = .error fault) (inRange' : S.InRange key' curve) :
    S.sign curve key' digest recovery = .error fault := by
  -- an allowed digest would have been signed
  have forbidden : ¬ curve.Allows digest recovery := by
    intro allowed
    obtain ⟨signature, signed⟩ := exists_sign k1 r1 inRange allowed (signs allowed)
    cases failed.symm.trans signed
  obtain ⟨refusal, refused⟩ := exists_refusal (S := S) forbidden
  obtain rfl : fault = refusal := Except.error.inj (failed.symm.trans (refused key inRange))
  exact refused key' inRange'

end

end Suite

namespace Batch

variable {S : Suite} {key key' : MasterKey} {account : String} {o : Obligation}

variable (S key) in
/-- Signing the obligation with the key meets none of the negligible cases of derivation and signing. -/
def RegularFor (o : Obligation) : Prop :=
  ∀ digest curve path, o.Spells digest → curve.code = o.curveCode →
    KeyPath.parse o.path = .ok path →
      S.DescendsRegularly key.seed path curve ∧
        ∀ bytes, S.derive curve key.seed path = .ok bytes → curve.Allows digest o.recovery →
          S.SignsRegularly bytes digest curve

variable (S key) in
/-- A run in this order meets none of the negligible cases, up to where it ends. -/
def RunsRegularly (order : Order) : Prop :=
  ∀ before item, before ++ [item] <+: items order →
    (∀ other ∈ before, ∃ o', Signs S (key.store S) other.2 o') → RegularFor S key item.2

section

variable (k1 : S.secp256k1.Lawful) (r1 : S.secp256r1.Lawful)
  (masters : S.bls12381.masterKey? = Bls12381.masterKey?)
  (length : key'.seed.length = key.seed.length)
include k1 r1 masters length

theorem signatureOf_eq_error_of_length (regular : RegularFor S key o)
    (regular' : RegularFor S key' o) {e : SignerError}
    (h : signatureOf S (key.store S) o = .error e) :
    signatureOf S (key'.store S) o = .error e := by
  rcases signatureOf_eq_error_iff.1 h with unread | ⟨digest, spelled, unknown |
    ⟨curve, known, noKey | ⟨bytes, given, fault, failed, rfl⟩⟩⟩
  · exact signatureOf_eq_error_iff.2 (.inl unread)
  · exact signatureOf_eq_error_iff.2 (.inr ⟨digest, spelled, .inl unknown⟩)
  · refine signatureOf_eq_error_iff.2 (.inr ⟨digest, spelled, .inr ⟨curve, known, .inl ?_⟩⟩)
    obtain ⟨refusal, refused, rfl⟩ := KeyStore.privateKey_eq_error_iff.1 noKey
    refine KeyStore.privateKey_eq_error_iff.2 ⟨refusal, MasterKey.refuses_store_iff.2 ?_, rfl⟩
    rcases MasterKey.refuses_store_iff.1 refused with bad | ⟨path, cause, parsed, failed, rfl⟩
    · exact .inl bad
    · have same := Suite.sameVerdict_derive k1 r1 masters length (KeyPath.inRange_of_parse parsed)
        (regular digest curve path spelled known parsed).1
        (regular' digest curve path spelled known parsed).1
      exact .inr ⟨path, cause, parsed, (sameVerdict_iff.1 same cause).1 failed, rfl⟩
  · refine signatureOf_eq_error_iff.2 (.inr ⟨digest, spelled, .inr ⟨curve, known, .inr ?_⟩⟩)
    obtain ⟨path, parsed, derived⟩ := MasterKey.gives_store_iff.1 given
    have inRange := KeyPath.inRange_of_parse parsed
    obtain ⟨descends, signs⟩ := regular digest curve path spelled known parsed
    obtain ⟨descends', -⟩ := regular' digest curve path spelled known parsed
    have same := Suite.sameVerdict_derive k1 r1 masters length inRange descends descends'
    obtain ⟨bytes', derived'⟩ := same.exists_ok derived
    refine ⟨bytes', MasterKey.gives_store_iff.2 ⟨path, parsed, derived'⟩, fault, ?_, rfl⟩
    exact Suite.sign_eq_error_of_inRange k1 r1 (descends.inRange k1 masters inRange derived)
      (signs bytes derived) failed (descends'.inRange k1 masters inRange derived')

theorem sameVerdict_signAlone (account : String) (regular : RegularFor S key o)
    (regular' : RegularFor S key' o) :
    SameVerdict (signAlone S (key.store S) account o) (signAlone S (key'.store S) account o) := by
  have alike (e : SignerError) :
      signatureOf S (key.store S) o = .error e ↔ signatureOf S (key'.store S) o = .error e :=
    ⟨signatureOf_eq_error_of_length k1 r1 masters length regular regular',
      signatureOf_eq_error_of_length k1 r1 masters length.symm regular' regular⟩
  refine sameVerdict_iff.2 fun e => ?_
  simp only [signAlone_eq_error_iff, alike]

theorem FirstFailure.of_length {order : Order} {before : List (String × Obligation)}
    {item : String × Obligation} {e : SignerError}
    (h : FirstFailure S (key.store S) order before item e) (regular : RunsRegularly S key order)
    (regular' : RunsRegularly S key' order) :
    FirstFailure S (key'.store S) order before item e := by
  obtain ⟨split, good, bad⟩ := h
  -- by induction on what was signed: as far as the other key has signed it meets no negligible case
  have good' (front : List (String × Obligation)) (within : front <+: before) :
      ∀ other ∈ front, ∃ o', Signs S (key'.store S) other.2 o' := by
    induction front using List.reverseRecOn with
    | nil => exact nofun
    | append_singleton front other ih =>
      have earlier := ih ((List.prefix_append front [other]).trans within)
      have reached := within.trans ((List.prefix_append before [item]).trans split)
      have mem : other ∈ before := within.subset (by simp)
      have same := sameVerdict_signAlone k1 r1 masters length other.1
        (regular front other reached fun x here => good x (within.subset (by simp [here])))
        (regular' front other reached earlier)
      obtain ⟨o', signed⟩ := good other mem
      obtain ⟨o'', signed'⟩ := same.exists_ok (signAlone_eq_ok_iff.2 signed)
      exact List.forall_mem_append.2 ⟨earlier, List.forall_mem_singleton.2
        ⟨o'', signAlone_eq_ok_iff.1 signed'⟩⟩
  have before' := good' before (List.prefix_refl before)
  have same := sameVerdict_signAlone k1 r1 masters length item.1 (regular before item split good)
    (regular' before item split before')
  exact ⟨split, before', failsAlone_iff.2 ((sameVerdict_iff.1 same e).1 (failsAlone_iff.1 bad))⟩

theorem sameVerdict_signInOrder {order : Order} (regular : RunsRegularly S key order)
    (regular' : RunsRegularly S key' order) :
    SameVerdict (signInOrder S (key.store S) order) (signInOrder S (key'.store S) order) := by
  refine sameVerdict_iff.2 fun e => ?_
  rw [signInOrder_eq_error_iff_firstFailure, signInOrder_eq_error_iff_firstFailure]
  constructor
  · rintro ⟨before, item, first⟩
    exact ⟨before, item, first.of_length k1 r1 masters length regular regular'⟩
  · rintro ⟨before, item, first⟩
    exact ⟨before, item, first.of_length k1 r1 masters length.symm regular' regular⟩

end

/-- Two master keys whose seeds have one length come to the same verdict on every batch, every contract
call and every transfer, and on every order of the accounts: both sign it, or both fail with one error.
Neither may meet a negligible case of derivation or signing before its run ends. -/
theorem verdict_independent_of_seed (S : Suite) (k1 : S.secp256k1.Lawful) (r1 : S.secp256r1.Lawful)
    (masters : S.bls12381.masterKey? = Bls12381.masterKey?) (key key' : MasterKey)
    (length : key'.seed.length = key.seed.length) :
    (∀ order, RunsRegularly S key order → RunsRegularly S key' order →
      SameVerdict (signInOrder S (key.store S) order) (signInOrder S (key'.store S) order)) ∧
    ∀ config,
      (∀ m : Obligations, RunsRegularly S key m.entries → RunsRegularly S key' m.entries →
        SameVerdict (signObligations S config (key.store S) m).outcome
          (signObligations S config (key'.store S) m).outcome) ∧
      (∀ c : ContractCall, RunsRegularly S key c.obligations.entries →
        RunsRegularly S key' c.obligations.entries →
        SameVerdict (signCall S config (key.store S) c).outcome
          (signCall S config (key'.store S) c).outcome) ∧
      ∀ t : Transfer, (checkKeySet t = .ok () → RunsRegularly S key t.obligations.entries ∧
          RunsRegularly S key' t.obligations.entries) →
        SameVerdict (signTransfer S config (key.store S) t).outcome
          (signTransfer S config (key'.store S) t).outcome := by
  have ordered {order : Order} (regular : RunsRegularly S key order)
      (regular' : RunsRegularly S key' order) (e : SignerError) :=
    sameVerdict_iff.1 (sameVerdict_signInOrder k1 r1 masters length regular regular') e
  refine ⟨fun order => sameVerdict_signInOrder k1 r1 masters length, fun config => ⟨?_, ?_, ?_⟩⟩
  · intro m regular regular'
    refine sameVerdict_iff.2 fun e => ?_
    rw [signObligations_eq_error_iff, signObligations_eq_error_iff, ordered regular regular']
  · intro c regular regular'
    refine sameVerdict_iff.2 fun e => ?_
    rw [signCall_eq_error_iff, signCall_eq_error_iff, ordered regular regular']
  · intro t regular
    cases checked : checkKeySet t with
    | error e => simp only [signTransfer, checked, SameVerdict]
    | ok =>
      obtain ⟨regular, regular'⟩ := regular checked
      refine sameVerdict_iff.2 fun e => ?_
      rw [signTransfer_eq_error_iff checked, signTransfer_eq_error_iff checked,
        ordered regular regular']

section Edwards

theorem regularFor_of_ed25519 (edwards : o.curveCode = Curve.ed25519.code) :
    RegularFor S key o := by
  intro digest curve path spelled known parsed
  obtain rfl : curve = .ed25519 :=
    Option.some.inj ((Curve.ofCode?_eq_some_iff.2 known).symm.trans
      (Curve.ofCode?_eq_some_iff.2 edwards.symm))
  exact ⟨trivial, fun _ _ _ => trivial⟩

theorem exists_signs_of_ed25519 {digest : Bytes} {path : KeyPath}
    (edwards : o.curveCode = Curve.ed25519.code) (spelled : o.Spells digest)
    (nonempty : digest ≠ []) (plain : o.recovery = false) (parsed : KeyPath.parse o.path = .ok path) :
    ∃ o', Signs S (key.store S) o o' := by
  have length := Slip10.Ed25519.length_derive S.length_mac key.seed path
  obtain ⟨signature, signed⟩ : ∃ signature,
      S.sign .ed25519 (Slip10.Ed25519.derive S.mac key.seed path) digest o.recovery =
        .ok signature := by
    rw [Suite.sign_eq_signObligation]
    exact ⟨_, Scheme.Ed25519.signObligation_eq_ok_iff.2 ⟨plain, length, nonempty, rfl⟩⟩
  exact ⟨_, .ed25519, digest, _, signature, Curve.ofCode?_eq_some_iff.2 edwards.symm,
    decodeDigest_eq_ok_iff.2 spelled,
    KeyStore.privateKey_eq_ok_iff.2 (MasterKey.gives_store_iff.2 ⟨path, parsed, rfl⟩), signed, rfl⟩

theorem exists_signs_goodObligation (key : MasterKey) :
    ∃ o', Signs .standard (key.store .standard) goodObligation o' :=
  exists_signs_of_ed25519 rfl (show goodObligation.Spells [0x5a] from ⟨by decide, by decide⟩)
    (by decide) rfl (show KeyPath.parse "m/0" = .ok ⟨[⟨0, false⟩]⟩ by decide)

theorem exists_signObligations_goodObligation (config : Config) (key : MasterKey)
    (account : String) :
    ∃ signed, (signObligations .standard config (key.store .standard)
      (.single account goodObligation)).outcome = .ok signed := by
  cases outcome : (signObligations .standard config (key.store .standard)
      (.single account goodObligation)).outcome with
  | ok signed => exact ⟨signed, rfl⟩
  | error e =>
    obtain ⟨o', signs⟩ := exists_signs_goodObligation key
    have failed := failsAlone_iff.1 (signObligations_single_eq_error_iff.1 outcome)
    cases (signAlone_eq_ok_iff.2 signs).symm.trans failed

end Edwards

/-- Another key of the length of the uniform one. -/
def otherKey : MasterKey := keyOfByte 9

/-- An Ed25519 obligation that asks for a recovery byte. -/
def flaggedObligation : Obligation :=
  { goodObligation with recovery := true, inputIndex := 1 }

def flaggedBatch : Obligations where
  entries := [("savings", [goodObligation, flaggedObligation])]
  sorted := List.pairwise_singleton _ _

theorem verdict_independent_of_seed_flaggedBatch :
    ∃ e, e.code = .signingFailure ∧ e.details = some "account=savings input_index=1" ∧
      (signObligations .standard .default (uniformKey.store .standard) flaggedBatch).outcome =
        .error e ∧
      (signObligations .standard .default (otherKey.store .standard) flaggedBatch).outcome =
        .error e := by
  have regular (key : MasterKey) : RunsRegularly .standard key flaggedBatch.entries := by
    intro before item reached _
    have mem : item ∈ items flaggedBatch.entries := reached.subset (by simp)
    rcases List.mem_pair.1 mem with rfl | rfl <;> exact regularFor_of_ed25519 rfl
  obtain ⟨-, verdicts⟩ := verdict_independent_of_seed .standard lawful_secp256k1 lawful_secp256r1 rfl
    uniformKey otherKey rfl
  have same := sameVerdict_iff.1 ((verdicts .default).1 flaggedBatch (regular _) (regular _))
  have first : FirstFailure .standard (uniformKey.store .standard) flaggedBatch.entries
      [("savings", goodObligation)] ("savings", flaggedObligation)
      ⟨.signingFailure, "Signing failed: ed25519 signatures carry no recovery byte",
        some "account=savings input_index=1"⟩ :=
    ⟨List.prefix_refl _, List.forall_mem_singleton.2 (exists_signs_goodObligation _), _, rfl,
      by decide⟩
  have failed : (signObligations .standard .default (uniformKey.store .standard)
      flaggedBatch).outcome = .error _ :=
    signObligations_eq_error_iff.2 (signInOrder_eq_error_iff_firstFailure.2 ⟨_, _, first⟩)
  exact ⟨_, rfl, rfl, failed, (same _).1 failed⟩

end Batch

end CustodySigner
