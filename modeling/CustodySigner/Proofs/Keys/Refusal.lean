import CustodySigner.Keys.MasterKey
import CustodySigner.Proofs.Except

set_option autoImplicit false
set_option relaxedAutoImplicit false

/-!
How key stores fail. A store refuses when it finds no child and when the child has no bytes, and each
kind of refusal is reported under one code. A master key refuses a path that does not parse, and
everything else that it refuses counts as derivation.
-/

namespace CustodySigner

/-- The code under which callers learn of a refusal of this kind. -/
inductive KeyStoreError.ReportedAs : KeyStoreError.Kind → SignerError.Code → Prop
  | invalidPath : ReportedAs .invalidPath .invalidDerivationPath
  | unsupportedCurve : ReportedAs .unsupportedCurve .unsupportedCurve
  | invalidSeed : ReportedAs .invalidSeed .invalidInput
  | derivation : ReportedAs .derivation .derivationError
  | timeout : ReportedAs .timeout .derivationError

/-- The codes under which refusals are reported. -/
def KeyStoreError.storeCodes : List SignerError.Code :=
  [.invalidDerivationPath, .unsupportedCurve, .invalidInput, .derivationError]

theorem KeyStoreError.ReportedAs.mem_storeCodes {kind : KeyStoreError.Kind}
    {code : SignerError.Code} (h : ReportedAs kind code) : code ∈ storeCodes := by
  cases h <;> decide

theorem KeyStoreError.reportedAs_iff {kind : KeyStoreError.Kind} {code : SignerError.Code} :
    ReportedAs kind code ↔ SignerError.codeOfKeyStore kind = code := by
  constructor
  · intro reported
    cases reported <;> rfl
  · rintro rfl
    cases kind <;> constructor

namespace KeyStore

variable (store : KeyStore)

/-- The store has this key at the path. -/
def Gives (path : String) (curve : Curve) (key : Bytes) : Prop :=
  ∃ child, store.find path curve = .ok child ∧ child.bytes = .ok key

/-- The store finds no child at the path, or the child that it finds has no bytes. -/
def Refuses (path : String) (curve : Curve) (e : KeyStoreError) : Prop :=
  store.find path curve = .error e ∨
    ∃ child, store.find path curve = .ok child ∧ child.bytes = .error e

variable {store} {path : String} {curve : Curve}

theorem privateKey_eq_ok_iff {key : Bytes} :
    store.privateKey path curve = .ok key ↔ store.Gives path curve key := by
  unfold privateKey
  rw [mapError_eq_ok_iff]
  exact bind_eq_ok_iff

theorem privateKey_eq_error_iff {cause : SignerError} :
    store.privateKey path curve = .error cause ↔
      ∃ e, store.Refuses path curve e ∧ SignerError.ofKeyStoreError e = cause := by
  unfold privateKey
  rw [mapError_eq_error_iff]
  constructor
  · rintro ⟨e, refused, same⟩
    exact ⟨e, bind_eq_error_iff.1 refused, same⟩
  · rintro ⟨e, refused, same⟩
    exact ⟨e, bind_eq_error_iff.2 refused, same⟩

end KeyStore

namespace CurveError

/-- The error does not say that a curve is not supported. -/
def OnSupportedCurve (e : CurveError) : Prop :=
  e.kind ≠ .unsupportedCurve

theorem OnSupportedCurve.kind_ofCurveError {e : CurveError} (h : e.OnSupportedCurve) :
    (KeyStoreError.ofCurveError e).kind = .derivation := by
  obtain ⟨kind, reason⟩ := e
  cases kind with
  | unsupportedCurve => exact absurd rfl h
  | _ => rfl

end CurveError

section Derivation

variable (mac : Bytes → Bytes → Bytes) (G : CurveGroup)

private theorem onSupportedCurve_derivation (reason : String) :
    CurveError.OnSupportedCurve ⟨.derivationFailed, reason⟩ := by
  intro same
  cases same

private theorem failsWithin_publicKey (key : Bytes) :
    FailsWithin CurveError.OnSupportedCurve (Scheme.Secp256r1.publicKey G key) := by
  have secret : FailsWithin CurveError.OnSupportedCurve (Scheme.Secp256r1.secret G key) := by
    unfold Scheme.Secp256r1.secret Scheme.ecdsaSecret Scheme.key32
    refine FailsWithin.bind ?_ fun b => ?_
    · split
      · exact .ok _
      · exact .error (by intro same; cases same)
    · dsimp only
      split
      · exact .ok _
      · exact .error (by intro same; cases same)
  refine secret.bind fun n => ?_
  unfold Scheme.compressed
  split
  · exact .ok _
  · exact .error (by intro same; cases same)

theorem Bip32.failsWithin_descend (depth : Nat) (key : ExtendedKey) (l : List PathComponent) :
    FailsWithin CurveError.OnSupportedCurve (descend mac G depth key l) := by
  induction l generalizing depth key with
  | nil => exact .ok key
  | cons c rest ih =>
    unfold descend
    split
    · exact .error (onSupportedCurve_derivation _)
    · split
      · exact .error (onSupportedCurve_derivation _)
      · exact ih _ _

theorem Bip32.failsWithin_derive (seed : Bytes) (path : KeyPath) :
    FailsWithin CurveError.OnSupportedCurve (derive mac G seed path) := by
  unfold derive
  split
  · exact .error (onSupportedCurve_derivation _)
  · split
    · exact .error (onSupportedCurve_derivation _)
    · exact (failsWithin_descend mac G _ _ _).map _

theorem Slip10.Secp256r1.failsWithin_child (attempts : Nat) (parent : ExtendedKey)
    (c : PathComponent) : FailsWithin CurveError.OnSupportedCurve (child mac G attempts parent c) := by
  have data : FailsWithin CurveError.OnSupportedCurve (childData G parent c) := by
    unfold childData
    split
    · exact .ok _
    · exact (failsWithin_publicKey G parent.key).bind fun head => .ok _
  unfold child
  dsimp only
  split
  · exact .error (onSupportedCurve_derivation _)
  · refine data.bind fun d => ?_
    split
    · exact .ok _
    · exact .error (onSupportedCurve_derivation _)

theorem Slip10.Secp256r1.failsWithin_derive (attempts : Nat) (seed : Bytes) (path : KeyPath) :
    FailsWithin CurveError.OnSupportedCurve (derive mac G attempts seed path) := by
  unfold derive
  split
  · exact .error (onSupportedCurve_derivation _)
  · exact (FailsWithin.foldlM (failsWithin_child mac G attempts) _ _).map _

theorem Suite.failsWithin_derive (S : Suite) (curve : Curve) (seed : Bytes) (path : KeyPath) :
    FailsWithin CurveError.OnSupportedCurve (S.derive curve seed path) := by
  cases curve with
  | secp256k1 => exact Bip32.failsWithin_derive S.mac S.secp256k1 seed path
  | secp256r1 => exact Slip10.Secp256r1.failsWithin_derive S.mac S.secp256r1 S.attempts seed path
  | ed25519 => exact .ok _
  | bls12381 =>
    unfold Suite.derive PairingScheme.derive
    dsimp only
    split
    · exact .error (onSupportedCurve_derivation _)
    · exact .ok _

end Derivation

namespace MasterKey

variable {S : Suite} {key : MasterKey} {text : String} {curve : Curve}

theorem refuses_store_iff {e : KeyStoreError} :
    (key.store S).Refuses text curve e ↔
      (∃ cause, KeyPath.parse text = .error cause ∧
        e = ⟨.invalidPath, "'" ++ text ++ "': " ++ cause.message⟩) ∨
      ∃ path cause, KeyPath.parse text = .ok path ∧
        S.derive curve key.seed path = .error cause ∧ e = KeyStoreError.ofCurveError cause := by
  have found : (key.store S).Refuses text curve e ↔ key.find S text curve = .error e := by
    unfold KeyStore.Refuses store
    dsimp only
    cases key.find S text curve <;> simp [Except.map]
  rw [found, find]
  cases parsed : KeyPath.parse text with
  | error cause => simp [eq_comm]
  | ok path =>
    simp only [map_eq_error_iff, derive, mapError_eq_error_iff]
    simp [eq_comm]

theorem gives_store_iff {bytes : Bytes} :
    (key.store S).Gives text curve bytes ↔
      ∃ path, KeyPath.parse text = .ok path ∧ S.derive curve key.seed path = .ok bytes := by
  have found : (key.store S).Gives text curve bytes ↔
      ∃ child, key.find S text curve = .ok child ∧ child.bytes = bytes := by
    unfold KeyStore.Gives store
    dsimp only
    cases key.find S text curve <;> simp [Except.map]
  rw [found, find]
  cases parsed : KeyPath.parse text with
  | error cause => simp
  | ok path =>
    simp only [map_eq_ok_iff, derive, mapError_eq_ok_iff]
    simp

theorem kind_of_refuses_store {e : KeyStoreError} (h : (key.store S).Refuses text curve e) :
    (e.kind = .invalidPath ∧ ∃ cause, KeyPath.parse text = .error cause) ∨
      (e.kind = .derivation ∧ ∃ path, KeyPath.parse text = .ok path) := by
  rcases refuses_store_iff.1 h with ⟨cause, bad, rfl⟩ | ⟨path, cause, parsed, failed, rfl⟩
  · exact .inl ⟨rfl, cause, bad⟩
  · have supported := S.failsWithin_derive curve key.seed path cause failed
    exact .inr ⟨supported.kind_ofCurveError, path, parsed⟩

/-- A master key blames the path exactly when the path does not parse. -/
theorem exists_refuses_store_iff_parse :
    (∃ e, (key.store S).Refuses text curve e ∧
      KeyStoreError.ReportedAs e.kind .invalidDerivationPath) ↔
      ∃ cause, KeyPath.parse text = .error cause := by
  constructor
  · rintro ⟨e, refused, reported⟩
    rcases kind_of_refuses_store refused with ⟨-, bad⟩ | ⟨kind, -⟩
    · exact bad
    · rw [kind] at reported
      cases reported
  · rintro ⟨cause, bad⟩
    exact ⟨_, refuses_store_iff.2 (.inl ⟨cause, bad, rfl⟩), .invalidPath⟩

end MasterKey

end CustodySigner
