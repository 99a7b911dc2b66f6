import CustodySigner.Proofs.Batch.Alone
import CustodySigner.Proofs.Batch.Sequential
import CustodySigner.Proofs.Keys.Refusal
import CustodySigner.Proofs.Scheme.Faults

set_option autoImplicit false
set_option relaxedAutoImplicit false

/-!
How the signing of one obligation ends. Its digest is read first, then its curve, then the store is
asked for the key, and last the key signs; the first of these that fails decides the code of the
error, whatever bytes the store has for the key.
-/

namespace CustodySigner

namespace Obligation

/-- The message of the obligation is a digest in hexadecimal. -/
def HasDigest (o : Obligation) : Prop :=
  o.message ≠ "" ∧ Hex.IsText o.message

/-- The digest that the message spells. -/
def Spells (o : Obligation) (digest : Bytes) : Prop :=
  o.message ≠ "" ∧ Hex.decode o.message = .ok digest

theorem hasDigest_iff {o : Obligation} : o.HasDigest ↔ ∃ digest, o.Spells digest := by
  unfold HasDigest Spells
  rw [exists_and_left, Hex.exists_decode_iff]

theorem Spells.hasDigest {o : Obligation} {digest : Bytes} (h : o.Spells digest) : o.HasDigest :=
  hasDigest_iff.2 ⟨digest, h⟩

end Obligation

theorem code_of_decodeDigest_eq_error {o : Obligation} {e : SignerError}
    (h : decodeDigest o.message = .error e) : e.code = .digestDecodeError ∧ ¬ o.HasDigest := by
  constructor
  · unfold decodeDigest at h
    split at h
    · obtain rfl := Except.error.inj h
      rfl
    · split at h
      · cases h
      · obtain rfl := Except.error.inj h
        rfl
  · intro readable
    obtain ⟨digest, spelled⟩ := Obligation.hasDigest_iff.1 readable
    rw [decodeDigest_eq_ok_iff.2 spelled] at h
    cases h

namespace Batch

variable (S : Suite) (store : KeyStore)

/-- How the signing of an obligation ends: with the code of the first stage that fails, or without
one when the obligation is signed. -/
inductive Ends (o : Obligation) : Option SignerError.Code → Prop
  | noDigest (unreadable : ¬ o.HasDigest) : Ends o (some .digestDecodeError)
  | noCurve (readable : o.HasDigest) (unknown : ∀ curve : Curve, curve.code ≠ o.curveCode) :
      Ends o (some .unsupportedCurve)
  | noKey {curve : Curve} {e : KeyStoreError} {code : SignerError.Code} (readable : o.HasDigest)
      (known : curve.code = o.curveCode) (refused : store.Refuses o.path curve e)
      (reported : KeyStoreError.ReportedAs e.kind code) : Ends o (some code)
  | notSigned {curve : Curve} {digest key : Bytes} {e : CurveError} (spelled : o.Spells digest)
      (known : curve.code = o.curveCode) (given : store.Gives o.path curve key)
      (failed : S.sign curve key digest o.recovery = .error e) : Ends o (some .signingFailure)
  | signed {curve : Curve} {digest key signature : Bytes} (spelled : o.Spells digest)
      (known : curve.code = o.curveCode) (given : store.Gives o.path curve key)
      (made : S.sign curve key digest o.recovery = .ok signature) : Ends o none

variable {S store} {account : String} {o : Obligation}

theorem signatureOf_eq_error_iff {e : SignerError} :
    signatureOf S store o = .error e ↔
      decodeDigest o.message = .error e ∨ ∃ digest, o.Spells digest ∧
        (Curve.ofCode o.curveCode = .error e ∨ ∃ curve : Curve, curve.code = o.curveCode ∧
          (store.privateKey o.path curve = .error e ∨ ∃ key, store.Gives o.path curve key ∧
            ∃ fault, S.sign curve key digest o.recovery = .error fault ∧
              SignerError.ofSigning fault = e)) := by
  unfold signatureOf
  rw [bind_eq_error_iff]
  refine or_congr_right (exists_congr fun digest => ?_)
  rw [decodeDigest_eq_ok_iff, bind_eq_error_iff]
  refine and_congr_right fun _ => or_congr_right (exists_congr fun curve => ?_)
  rw [Curve.ofCode_eq_ok_iff, Curve.ofCode?_eq_some_iff]
  refine and_congr_right fun known => ?_
  rw [bind_eq_error_iff]
  refine or_congr_right (exists_congr fun key => ?_)
  rw [KeyStore.privateKey_eq_ok_iff, bind_eq_error_iff]
  refine and_congr_right fun _ => ?_
  rw [Suite.signByCode_eq_mapError (Curve.ofCode?_eq_some_iff.2 known), mapError_eq_error_iff]
  constructor
  · rintro (failed | ⟨signature, -, written⟩)
    · exact failed
    · cases written
  · intro failed
    exact .inl failed

theorem ends_of_signatureOf_eq_error {e : SignerError} (h : signatureOf S store o = .error e) :
    Ends S store o (some e.code) := by
  rcases signatureOf_eq_error_iff.1 h with unread | ⟨digest, spelled, unknown |
    ⟨curve, known, noKey | ⟨key, given, fault, failed, rfl⟩⟩⟩
  · obtain ⟨code, unreadable⟩ := code_of_decodeDigest_eq_error unread
    rw [code]
    exact .noDigest unreadable
  · obtain ⟨code, unknown⟩ := Curve.code_of_ofCode_eq_error unknown
    rw [code]
    exact .noCurve spelled.hasDigest unknown
  · obtain ⟨cause, refused, rfl⟩ := KeyStore.privateKey_eq_error_iff.1 noKey
    exact .noKey spelled.hasDigest known refused (KeyStoreError.reportedAs_iff.2 rfl)
  · have signing := S.failsWithin_sign curve key digest o.recovery fault failed
    rw [signing.code_ofSigning]
    exact .notSigned spelled known given failed

theorem ends_of_signAlone_eq_ok {o' : Obligation} (h : signAlone S store account o = .ok o') :
    Ends S store o none := by
  obtain ⟨curve, digest, key, signature, known, decoded, given, made, -⟩ :=
    signAlone_eq_ok_iff.1 h
  exact .signed (decodeDigest_eq_ok_iff.1 decoded) (Curve.ofCode?_eq_some_iff.1 known)
    (KeyStore.privateKey_eq_ok_iff.1 given) made

/-- The code of a failure. -/
def failureCode {α : Type} : Except SignerError α → Option SignerError.Code
  | .ok _ => none
  | .error e => some e.code

theorem ends_failureCode : Ends S store o (failureCode (signAlone S store account o)) := by
  cases outcome : signAlone S store account o with
  | ok o' => exact ends_of_signAlone_eq_ok outcome
  | error e =>
    obtain ⟨cause, failed, rfl⟩ := signAlone_eq_error_iff.1 outcome
    have ends := ends_of_signatureOf_eq_error failed
    exact ends

private theorem failureCode_signAlone_of_error {e : SignerError}
    (h : signatureOf S store o = .error e) :
    failureCode (signAlone S store account o) = some e.code := by
  rw [signAlone_eq_error_iff.2 ⟨e, h, rfl⟩]
  rfl

/-- The stages exclude each other, so that no obligation ends in two ways. -/
theorem Ends.failureCode_eq {c : Option SignerError.Code} (h : Ends S store o c) :
    failureCode (signAlone S store account o) = c := by
  cases h with
  | noDigest unreadable =>
    cases read : decodeDigest o.message with
    | ok digest =>
      have spelled : o.Spells digest := decodeDigest_eq_ok_iff.1 read
      exact absurd spelled.hasDigest unreadable
    | error e =>
      rw [failureCode_signAlone_of_error (signatureOf_eq_error_iff.2 (.inl read)),
        (code_of_decodeDigest_eq_error read).1]
  | noCurve readable unknown =>
    obtain ⟨digest, spelled⟩ := Obligation.hasDigest_iff.1 readable
    cases found : Curve.ofCode o.curveCode with
    | ok curve =>
      have known := Curve.ofCode?_eq_some_iff.1 (Curve.ofCode_eq_ok_iff.1 found)
      exact absurd known (unknown curve)
    | error e =>
      rw [failureCode_signAlone_of_error
          (signatureOf_eq_error_iff.2 (.inr ⟨digest, spelled, .inl found⟩)),
        (Curve.code_of_ofCode_eq_error found).1]
  | noKey readable known refused reported =>
    obtain ⟨digest, spelled⟩ := Obligation.hasDigest_iff.1 readable
    have failed := KeyStore.privateKey_eq_error_iff.2 ⟨_, refused, rfl⟩
    rw [failureCode_signAlone_of_error
      (signatureOf_eq_error_iff.2 (.inr ⟨digest, spelled, .inr ⟨_, known, .inl failed⟩⟩))]
    exact congrArg some (KeyStoreError.reportedAs_iff.1 reported)
  | notSigned spelled known given failed =>
    have stage := signatureOf_eq_error_iff.2
      (.inr ⟨_, spelled, .inr ⟨_, known, .inr ⟨_, given, _, failed, rfl⟩⟩⟩)
    rw [failureCode_signAlone_of_error stage, (S.failsWithin_sign _ _ _ _ _ failed).code_ofSigning]
  | signed spelled known given made =>
    have signed : signAlone S store account o = .ok _ := signAlone_eq_ok_iff.2
      ⟨_, _, _, _, Curve.ofCode?_eq_some_iff.2 known,
      decodeDigest_eq_ok_iff.2 spelled, KeyStore.privateKey_eq_ok_iff.2 given, made, rfl⟩
    rw [signed]
    rfl

theorem ends_iff {c : Option SignerError.Code} :
    Ends S store o c ↔ failureCode (signAlone S store account o) = c := by
  constructor
  · intro ends
    exact ends.failureCode_eq
  · rintro rfl
    exact ends_failureCode

theorem exists_of_failureCode {α : Type} {x : Except SignerError α} {code : SignerError.Code}
    (h : failureCode x = some code) : ∃ e, x = .error e ∧ e.code = code := by
  cases x with
  | ok a => cases h
  | error e => exact ⟨e, rfl, Option.some.inj h⟩

theorem details_of_signAlone_eq_error {e : SignerError}
    (h : signAlone S store account o = .error e) : e.details = some (place account o) := by
  obtain ⟨cause, -, rfl⟩ := signAlone_eq_error_iff.1 h
  rfl

/-- The codes with which one obligation can fail. -/
def obligationCodes : List SignerError.Code :=
  [.digestDecodeError, .signingFailure] ++ KeyStoreError.storeCodes

theorem Ends.mem_obligationCodes {code : SignerError.Code} (h : Ends S store o (some code)) :
    code ∈ obligationCodes := by
  cases h with
  | noKey _ _ _ reported => exact List.mem_append_right _ reported.mem_storeCodes
  | noDigest | noCurve | notSigned => decide

theorem ends_digestDecodeError_iff :
    Ends S store o (some .digestDecodeError) ↔ ¬ o.HasDigest := by
  constructor
  · intro ends
    cases ends with
    | noDigest unreadable => exact unreadable
    | noKey _ _ _ reported => exact absurd reported.mem_storeCodes (by decide)
  · exact .noDigest

theorem ends_invalidDerivationPath_iff {key : MasterKey} :
    Ends S (key.store S) o (some .invalidDerivationPath) ↔
      o.HasDigest ∧ (∃ curve : Curve, curve.code = o.curveCode) ∧
        ∃ cause, KeyPath.parse o.path = .error cause := by
  constructor
  · intro ends
    cases ends with
    | noKey readable known refused reported =>
      have bad := MasterKey.exists_refuses_store_iff_parse.1 ⟨_, refused, reported⟩
      exact ⟨readable, ⟨_, known⟩, bad⟩
  · rintro ⟨readable, ⟨curve, known⟩, bad⟩
    obtain ⟨e, refused, reported⟩ := MasterKey.exists_refuses_store_iff_parse.2 bad
    exact .noKey readable known refused reported

theorem not_ends_invalidInput {key : MasterKey} :
    ¬ Ends S (key.store S) o (some .invalidInput) := by
  intro ends
  cases ends with
  | noKey _ _ refused reported =>
    rcases MasterKey.kind_of_refuses_store refused with ⟨kind, -⟩ | ⟨kind, -⟩
    · rw [kind] at reported
      cases reported
    · rw [kind] at reported
      cases reported

/-- Signing one obligation ends in exactly one way, that of the first stage that fails. Each error
says where the obligation stands and has one of six codes. A master key never reports an invalid
input, and it blames the path exactly when the path does not parse. -/
theorem failure_belongs_to_first_failing_stage (S : Suite) (config : Config) (store : KeyStore)
    (account : String) (o : Obligation) :
    (∀ c, failureCode (signOne S config store account o).outcome = c ↔ Ends S store o c) ∧
    (failureCode (signOne S config store account o).outcome = some .digestDecodeError ↔
      ¬ o.HasDigest) ∧
    (∀ e, (signOne S config store account o).outcome = .error e →
      e.details = some ("account=" ++ account ++ " input_index=" ++ toString o.inputIndex.toNat) ∧
      e.code ∈ [.digestDecodeError, .signingFailure, .invalidDerivationPath, .unsupportedCurve,
        .invalidInput, .derivationError]) ∧
    ∀ key : MasterKey,
      failureCode (signOne S config (key.store S) account o).outcome ≠ some .invalidInput ∧
      (∀ curve, (∃ e, (key.store S).Refuses o.path curve e ∧
          KeyStoreError.ReportedAs e.kind .invalidDerivationPath) ↔
        ∃ cause, KeyPath.parse o.path = .error cause) ∧
      (failureCode (signOne S config (key.store S) account o).outcome = some .invalidDerivationPath ↔
        o.HasDigest ∧ (∃ curve : Curve, curve.code = o.curveCode) ∧
          ∃ cause, KeyPath.parse o.path = .error cause) := by
  simp only [outcome_signOne]
  refine ⟨fun c => ends_iff.symm, ends_iff.symm.trans ends_digestDecodeError_iff, ?_, ?_⟩
  · intro e failed
    have ends : Ends S store o (some e.code) := ends_iff.2 (by rw [failed]; rfl)
    exact ⟨details_of_signAlone_eq_error failed, ends.mem_obligationCodes⟩
  · intro key
    refine ⟨?_, fun curve => MasterKey.exists_refuses_store_iff_parse,
      ends_iff.symm.trans ends_invalidDerivationPath_iff⟩
    intro failed
    exact not_ends_invalidInput (ends_iff.2 failed)

/-- A store whose keys are three bytes long. -/
def shortStore : KeyStore where
  find _ _ := .ok ⟨.ok [1, 2, 3]⟩

/-- The key of a seed of 32 equal bytes. -/
def keyOfByte (b : UInt8) : MasterKey := ⟨List.replicate 32 b, by simp, by simp⟩

def uniformKey : MasterKey := keyOfByte 7

def pathlessObligation : Obligation :=
  { Obligation.blank with
    curveCode := Curve.ed25519.code, message := "5aB0", path := "0'/1", inputIndex := 4 }

theorem failure_belongs_to_first_failing_stage_pathless :
    (∃ e, (signOne .standard .default shortStore "savings" pathlessObligation).outcome = .error e ∧
      e.code = .signingFailure ∧ e.details = some "account=savings input_index=4") ∧
    ∃ e, (signOne .standard .default (uniformKey.store .standard) "savings"
        pathlessObligation).outcome = .error e ∧
      e.code = .invalidDerivationPath ∧ e.details = some "account=savings input_index=4" := by
  have theory := fun store =>
    failure_belongs_to_first_failing_stage .standard .default store "savings" pathlessObligation
  have spelled : pathlessObligation.Spells [0x5a, 0xb0] := ⟨by decide, by decide⟩
  obtain ⟨stage, -, errors, -⟩ := theory shortStore
  constructor
  · have refused : Suite.sign .standard .ed25519 [1, 2, 3] [0x5a, 0xb0] false =
        .error ⟨.invalidPrivateKey, "Private key must be 32 bytes, got 3"⟩ := by decide
    obtain ⟨e, failed, code⟩ := exists_of_failureCode
      ((stage _).2 (.notSigned spelled rfl ⟨_, rfl, rfl⟩ refused))
    exact ⟨e, failed, code, (errors e failed).1⟩
  · obtain ⟨-, -, errors, -⟩ := theory (uniformKey.store .standard)
    obtain ⟨-, -, blamed⟩ := (theory shortStore).2.2.2 uniformKey
    obtain ⟨e, failed, code⟩ := exists_of_failureCode
      (blamed.2 ⟨spelled.hasDigest, ⟨.ed25519, rfl⟩, .missingRoot, by decide⟩)
    exact ⟨e, failed, code, (errors e failed).1⟩

end Batch

end CustodySigner
