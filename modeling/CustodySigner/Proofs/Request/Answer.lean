import CustodySigner.Proofs.Batch.Secrecy
import CustodySigner.Proofs.Json.Tolerance
import CustodySigner.Proofs.Request.Input

set_option autoImplicit false
set_option relaxedAutoImplicit false

/-!
Every request is answered. The answer holds either the signed value or one error, and the error says
which of five things went wrong first: the input is no text, the text is no request, the request gives
no key or not one key, the key is no seed, or a signature could not be made.
-/

namespace CustodySigner

/-- The three kinds of values that are signed on request. -/
inductive Signable.Served : {τ : Type} → Signable τ → Prop
  | transfer : Served .transfer
  | call : Served .call
  | obligations : Served .obligations

namespace Signable.Served

variable {τ : Type} {kind : Signable τ}

theorem faithful (served : kind.Served) : kind.codec.Faithful := by
  cases served with
  | transfer => exact Transfer.codec_faithful
  | call => exact ContractCall.codec_faithful
  | obligations => exact Obligations.codec_faithful

theorem neverNull (served : kind.Served) : kind.codec.NeverNull := by
  cases served with
  | transfer => exact Record.neverNull_codec _ _
  | call => exact Record.neverNull_codec _ _
  | obligations => exact Codec.neverNull_dict _

theorem refusesNull (served : kind.Served) : kind.codec.RefusesNull := by
  cases served <;> rfl

end Signable.Served

namespace Request

variable {τ : Type} {S : Suite} {env : Environment} {kind : Signable τ}

/-- What becomes of the key when the request gives one, and only one. -/
inductive KeyedBy (r : Request τ) : Except KeyStoreError MasterKey → Prop
  | seedHex {text : String} (given : r.seedHex = some text) (alone : r.mnemonic = none) :
      KeyedBy r (MasterKey.ofSeedHex text)
  | mnemonic {phrase : String} (given : r.mnemonic = some phrase) (alone : r.seedHex = none) :
      KeyedBy r (MasterKey.ofMnemonic phrase r.passphrase)

/-- How a request can end, by what its input holds. -/
inductive Ends (S : Suite) (env : Environment) (kind : Signable τ) :
    Option Bytes → Except SignerError τ → Prop
  | noInput {e : SignerError} (code : e.code = .invalidInput) : Ends S env kind none (.error e)
  | notText {input : Bytes} {e : SignerError} (broken : ∀ text, ¬ Holds input text)
      (code : e.code = .invalidInput) : Ends S env kind (some input) (.error e)
  | notRequest {input : Bytes} {text : String} {e : SignerError} (holds : Holds input text)
      (refused : (codec kind).ofText? text = none) (code : e.code = .jsonError) :
      Ends S env kind (some input) (.error e)
  /-- The request gives both a seed and a mnemonic, or neither. -/
  | notOneKey {input : Bytes} {text : String} {r : Request τ} {e : SignerError}
      (holds : Holds input text) (read : (codec kind).ofText? text = some r)
      (both : r.seedHex.isSome = r.mnemonic.isSome) (code : e.code = .invalidInput) :
      Ends S env kind (some input) (.error e)
  | notSeed {input : Bytes} {text : String} {r : Request τ} {cause : KeyStoreError} {e : SignerError}
      (holds : Holds input text) (read : (codec kind).ofText? text = some r)
      (keyed : r.KeyedBy (.error cause)) (code : e.code = .invalidInput) :
      Ends S env kind (some input) (.error e)
  /-- The signer's error is passed on as it is. The environment counts only without a configuration. -/
  | notSigned {input : Bytes} {text : String} {r : Request τ} {key : MasterKey} {e : SignerError}
      (holds : Holds input text) (read : (codec kind).ofText? text = some r)
      (keyed : r.KeyedBy (.ok key))
      (failed : (kind.sign S (r.config.getD (.ofEnvironment env)) (key.store S) r.transaction).outcome =
        .error e) : Ends S env kind (some input) (.error e)
  | signed {input : Bytes} {text : String} {r : Request τ} {key : MasterKey} {data : τ}
      (holds : Holds input text) (read : (codec kind).ofText? text = some r)
      (keyed : r.KeyedBy (.ok key))
      (done : (kind.sign S (r.config.getD (.ofEnvironment env)) (key.store S) r.transaction).outcome =
        .ok data) : Ends S env kind (some input) (.ok data)

section Keys

theorem code_of_ofSeed_error {seed : Bytes} {e : KeyStoreError}
    (refused : MasterKey.ofSeed seed = .error e) :
    (SignerError.ofKeyStoreError e).code = .invalidInput := by
  unfold MasterKey.ofSeed at refused
  split at refused
  · cases refused
  · obtain rfl := Except.error.inj refused
    rfl

theorem KeyedBy.code_of_error {r : Request τ} {e : KeyStoreError} (keyed : r.KeyedBy (.error e)) :
    (SignerError.ofKeyStoreError e).code = .invalidInput := by
  generalize refused : Except.error e = result at keyed
  cases keyed with
  | seedHex given alone =>
    unfold MasterKey.ofSeedHex at refused
    split at refused
    · exact code_of_ofSeed_error refused.symm
    · obtain rfl := Except.error.inj refused
      rfl
  | mnemonic given alone =>
    unfold MasterKey.ofMnemonic at refused
    dsimp only at refused
    split at refused
    · exact code_of_ofSeed_error refused.symm
    · obtain rfl := Except.error.inj refused
      rfl

theorem masterKey_cases (r : Request τ) :
    (∃ result, r.KeyedBy result ∧ r.masterKey = result.mapError SignerError.ofKeyStoreError) ∨
      r.seedHex.isSome = r.mnemonic.isSome ∧
        ∃ message, r.masterKey = .error (.plain .invalidInput message) := by
  unfold masterKey
  cases seed : r.seedHex with
  | none =>
    cases phrase : r.mnemonic with
    | none => exact .inr ⟨rfl, _, rfl⟩
    | some phrase' => exact .inl ⟨_, .mnemonic phrase seed, rfl⟩
  | some text =>
    cases phrase : r.mnemonic with
    | none => exact .inl ⟨_, .seedHex seed phrase, rfl⟩
    | some phrase' => exact .inr ⟨rfl, _, rfl⟩

end Keys

/-- A request is signed in four steps, and the first that fails decides. -/
theorem outcome_perform (S : Suite) (env : Environment) (kind : Signable τ) (input : Option Bytes) :
    (perform S env kind input).outcome =
      (readText input).bind fun text => (ofText kind text).bind fun r => r.masterKey.bind fun key =>
        (kind.sign S (r.config.getD (.ofEnvironment env)) (key.store S) r.transaction).outcome := by
  unfold perform
  cases readText input with
  | error e => rfl
  | ok text =>
    simp only [bind, Except.bind]
    cases ofText kind text with
    | error e => rfl
    | ok r =>
      dsimp only
      cases r.masterKey <;> rfl

theorem ends_request {input : Bytes} {text : String} {r : Request τ} (holds : Holds input text)
    (read : (codec kind).ofText? text = some r) :
    Ends S env kind (some input) (r.masterKey.bind fun key =>
      (kind.sign S (r.config.getD (.ofEnvironment env)) (key.store S) r.transaction).outcome) := by
  rcases masterKey_cases r with ⟨result, keyed, made⟩ | ⟨both, message, refused⟩
  · rw [made]
    cases result with
    | error cause => exact .notSeed holds read keyed keyed.code_of_error
    | ok key =>
      change Ends S env kind (some input)
        (kind.sign S (r.config.getD (.ofEnvironment env)) (key.store S) r.transaction).outcome
      cases done : (kind.sign S (r.config.getD (.ofEnvironment env)) (key.store S)
          r.transaction).outcome with
      | error e => exact .notSigned holds read keyed done
      | ok data => exact .signed holds read keyed done
  · rw [refused]
    exact .notOneKey holds read both rfl

theorem ends_perform (S : Suite) (env : Environment) (kind : Signable τ) (input : Option Bytes) :
    Ends S env kind input (perform S env kind input).outcome := by
  rw [outcome_perform]
  cases input with
  | none => exact .noInput rfl
  | some b =>
    by_cases broken : ∀ text, ¬ Holds b text
    · obtain ⟨message, unread⟩ := exists_readText_error broken
      rw [unread]
      exact .notText broken rfl
    · obtain ⟨text, holds⟩ := not_forall_not.1 broken
      simp only [readText_eq_ok_iff.2 holds, Except.bind, ofText]
      cases read : (codec kind).ofText? text with
      | none => exact .notRequest holds read rfl
      | some r => exact ends_request holds read

section Decided

variable {input : Bytes} {text : String} {r : Request τ}

theorem holds_toText (served : kind.Served) (r : Request τ) (rest : Bytes) :
    Holds (Bytes.ofText ((codec kind).toText r) ++ 0 :: rest) ((codec kind).toText r) ∧
      (codec kind).ofText? ((codec kind).toText r) = some r := by
  have faithful := (ofRecord served.faithful served.refusesNull).faithful
  have plain := faithful.plain r
  exact ⟨holds_of_zero_not_mem plain.spells_compact.zero_not_mem rest,
    faithful.ofText?_compact plain.reordered_refl⟩

theorem KeyedBy.unique {result result' : Except KeyStoreError MasterKey} (keyed : r.KeyedBy result)
    (keyed' : r.KeyedBy result') : result = result' := by
  cases keyed with
  | seedHex given alone =>
    cases keyed' with
    | seedHex given' alone' => rw [Option.some.inj (given.symm.trans given')]
    | mnemonic given' alone' => cases given.symm.trans alone'
  | mnemonic given alone =>
    cases keyed' with
    | seedHex given' alone' => cases given'.symm.trans alone
    | mnemonic given' alone' => rw [Option.some.inj (given.symm.trans given')]

theorem KeyedBy.isSome_ne {result : Except KeyStoreError MasterKey} (keyed : r.KeyedBy result) :
    r.seedHex.isSome ≠ r.mnemonic.isSome := by
  cases keyed with
  | seedHex given alone => simp [given, alone]
  | mnemonic given alone => simp [given, alone]

theorem Ends.eq_sign {key : MasterKey} {outcome : Except SignerError τ} (holds : Holds input text)
    (read : (codec kind).ofText? text = some r) (keyed : r.KeyedBy (.ok key))
    (ends : Ends S env kind (some input) outcome) :
    outcome =
      (kind.sign S (r.config.getD (.ofEnvironment env)) (key.store S) r.transaction).outcome := by
  have text_eq {text' : String} (holds' : Holds input text') : text' = text :=
    Except.ok.inj ((readText_eq_ok_iff.2 holds').symm.trans (readText_eq_ok_iff.2 holds))
  have request_eq {text' : String} {r' : Request τ} (holds' : Holds input text')
      (read' : (codec kind).ofText? text' = some r') : r' = r :=
    Option.some.inj ((text_eq holds' ▸ read').symm.trans read)
  cases ends with
  | notText broken => exact absurd holds (broken text)
  | notRequest holds' refused => cases (text_eq holds' ▸ refused).symm.trans read
  | notOneKey holds' read' both =>
    obtain rfl := request_eq holds' read'
    exact absurd both keyed.isSome_ne
  | notSeed holds' read' keyed' =>
    obtain rfl := request_eq holds' read'
    cases keyed.unique keyed'
  | notSigned holds' read' keyed' failed =>
    obtain rfl := request_eq holds' read'
    rw [Except.ok.inj (keyed.unique keyed'), failed]
  | signed holds' read' keyed' done =>
    obtain rfl := request_eq holds' read'
    rw [Except.ok.inj (keyed.unique keyed'), done]

end Decided

section Texts

/-- The texts that would stand in for an answer that cannot be written or handed out. -/
def standIns : List String :=
  ["\x7b\"success\":false,\"error\":\x7b\"code\":\"internal\",\"message\":\"Serialization failed\"\x7d\x7d",
    lastResort]

/-- An answer with nothing but a failure. -/
private def shortAnswer (message : String) : Json :=
  .ofMembers [("success", .bool false),
    ("error", .ofMembers [("code", .ofText "internal"), ("message", .ofText message)])]

private theorem standIns_eq : standIns =
    ["Serialization failed", "String conversion failed"].map fun m => (shortAnswer m).compact := by
  decide

private theorem plain_shortAnswer (message : String) : (shortAnswer message).Plain := by
  simp [shortAnswer, Json.ofMembers]

variable {response : Response τ}

theorem handOut_toText (faithful : kind.codec.Faithful) (solid : kind.codec.NeverNull) :
    handOut ((Response.codec kind.codec).toText response) =
      (Response.codec kind.codec).toText response := by
  have plain := (Response.codec_faithful faithful solid).plain response
  refine if_neg fun zero => ?_
  exact plain.spells_compact.zero_not_mem (List.contains_iff_mem.1 zero)

theorem ofText?_answer (faithful : kind.codec.Faithful) (solid : kind.codec.NeverNull)
    (S : Suite) (env : Environment) (input : Option Bytes) :
    (Response.codec kind.codec).ofText? (answer S env kind input) =
      some (respond (perform S env kind input).outcome) := by
  have lawful := Response.codec_faithful faithful solid
  rw [answer, handOut_toText faithful solid]
  exact lawful.ofText?_compact (lawful.plain _).reordered_refl

/-- A written answer has its data and its error, be they null, unlike the texts that stand in. -/
theorem toText_not_mem_standIns (served : kind.Served) :
    (Response.codec kind.codec).toText response ∉ standIns := by
  rw [standIns_eq]
  intro mem
  obtain ⟨message, -, same⟩ := List.mem_map.1 mem
  have plain := (Response.codec_faithful served.faithful served.neverNull).plain response
  have written := plain.spells_compact.parse_eq
  rw [show ((Response.codec kind.codec).encode response).compact = _ from same.symm,
    (plain_shortAnswer message).spells_compact.parse_eq] at written
  have members := Json.object.inj (Option.some.inj written)
  exact absurd (congrArg List.length members) (by simp [Record.members])

end Texts

/-- Every request is answered by a text without zero bytes, which says how the request ended and
nothing else. A null stands for a seed or a mnemonic that is missing. -/
theorem answers (served : kind.Served) (S : Suite) (env : Environment) (input : Option Bytes) :
    (0 : UInt8) ∉ Bytes.ofText (answer S env kind input) ∧ answer S env kind input ∉ standIns ∧
      ((∃ data, (Response.codec kind.codec).ofText? (answer S env kind input) =
          some ⟨true, some data, none⟩ ∧ Ends S env kind input (.ok data)) ∨
        ∃ e, (Response.codec kind.codec).ofText? (answer S env kind input) =
          some ⟨false, none, some e⟩ ∧ Ends S env kind input (.error e)) ∧
      ∀ name ∈ ["seedHex", "mnemonic"], ∀ before after,
        (∀ m ∈ before ++ after, m.1 ≠ some name) →
        (codec kind).decode (.object (before ++ (some name, .null) :: after)) =
          (codec kind).decode (.object (before ++ after)) := by
  have faithful := Response.codec_faithful served.faithful served.neverNull
  have text : answer S env kind input =
      (Response.codec kind.codec).toText (respond (perform S env kind input).outcome) :=
    handOut_toText served.faithful served.neverNull
  have back := ofText?_answer served.faithful served.neverNull S env input
  have ends := ends_perform S env kind input
  rw [text] at back ⊢
  refine ⟨?zero, toText_not_mem_standIns served, ?ended, ?null⟩
  case zero =>
    refine Bytes.zero_not_mem_ofText ?_
    exact (faithful.plain _).spells_compact.zero_not_mem
  case ended =>
    cases outcome : (perform S env kind input).outcome with
    | ok data =>
      rw [outcome] at ends back
      exact .inl ⟨data, back, ends⟩
    | error e =>
      rw [outcome] at ends back
      exact .inr ⟨e, back, ends⟩
  case null =>
    intro name mem before after quiet
    have record := ofRecord served.faithful served.refusesNull
    have known : name ∈ names ∧ name ∈ ["seedHex", "mnemonic", "config"] ∧
        name ∉ ["transaction"] := by
      simp only [List.mem_cons, List.not_mem_nil, or_false] at mem
      rcases mem with rfl | rfl <;> decide
    exact record.decode_null_absent known.1 known.2.1 known.2.2 quiet

/-- A request to sign one obligation of an account with a zero character in its name. -/
def sampleRequest (o : Obligation) : Request Obligations where
  transaction := .single "sav\x00ings" o
  seedHex := some "000102030405060708090a0b0c0d0e0f"
  mnemonic := none
  passphrase := "\x00"
  config := none

/-- The request in a string, with more behind the zero byte that ends it. -/
def sampleInput (o : Obligation) : Bytes :=
  Bytes.ofText ((codec .obligations).toText (sampleRequest o)) ++ 0 :: [0xff]

/-- No input at all, a request that is signed, and one whose signing fails. -/
theorem answers_samples :
    (∃ e, (Response.codec Obligations.codec).ofText?
      (answer .standard ⟨none, none⟩ .obligations none) = some ⟨false, none, some e⟩ ∧
      e.code = .invalidInput) ∧
    (∃ signed, (Response.codec Obligations.codec).ofText?
      (answer .standard ⟨none, none⟩ .obligations (some (sampleInput Batch.goodObligation))) =
        some ⟨true, some signed, none⟩ ∧ signed.keys = ["sav\x00ings"]) ∧
    (∃ e, (Response.codec Obligations.codec).ofText?
      (answer .standard ⟨none, none⟩ .obligations (some (sampleInput Batch.badObligation))) =
        some ⟨false, none, some e⟩ ∧ e.code = .digestDecodeError ∧
        e.details = some "account=sav\x00ings input_index=1") ∧
    ∀ o, (0 : UInt8) ∉ Bytes.ofText
      (answer .standard ⟨none, none⟩ .obligations (some (sampleInput o))) := by
  have theory := answers .obligations .standard ⟨none, none⟩
  obtain ⟨key, made⟩ :
      ∃ key, MasterKey.ofSeedHex "000102030405060708090a0b0c0d0e0f" = .ok key :=
    exists_eq_ok_of_toBool (by decide)
  have decided (o : Obligation) {outcome : Except SignerError Obligations}
      (ends : Ends .standard ⟨none, none⟩ .obligations (some (sampleInput o)) outcome) :
      outcome = (Batch.signObligations .standard (.ofEnvironment ⟨none, none⟩)
        (key.store .standard) (.single "sav\x00ings" o)).outcome := by
    obtain ⟨holds, read⟩ := holds_toText .obligations (sampleRequest o) [0xff]
    have keyed : (sampleRequest o).KeyedBy (MasterKey.ofSeedHex _) := .seedHex rfl rfl
    exact ends.eq_sign holds read (made ▸ keyed)
  refine ⟨?_, ?_, ?_, fun o => (theory (some (sampleInput o))).1⟩
  · obtain ⟨-, -, ⟨data, -, ends⟩ | ⟨e, read, ends⟩, -⟩ := theory none
    · cases ends
    · cases ends with
      | noInput code => exact ⟨e, read, code⟩
  · obtain ⟨signed, outcome⟩ := Batch.exists_signObligations_goodObligation
      (.ofEnvironment ⟨none, none⟩) key "sav\x00ings"
    obtain ⟨-, -, ⟨data, read, ends⟩ | ⟨e, read, ends⟩, -⟩ :=
      theory (some (sampleInput Batch.goodObligation))
    · obtain rfl := Except.ok.inj ((decided _ ends).trans outcome)
      rw [Batch.outcome_signObligations, Batch.signCopy_eq_ok_iff_related] at outcome
      exact ⟨data, read, outcome.keys_eq⟩
    · cases (decided _ ends).trans outcome
  · have bad : Batch.FailsAlone .standard (key.store .standard)
        ("sav\x00ings", Batch.badObligation) _ := ⟨_, rfl, rfl⟩
    have outcome : (Batch.signObligations .standard (.ofEnvironment ⟨none, none⟩)
        (key.store .standard) (.single "sav\x00ings" Batch.badObligation)).outcome = .error _ :=
      Batch.signObligations_single_eq_error_iff.2 bad
    obtain ⟨-, -, ⟨data, read, ends⟩ | ⟨e, read, ends⟩, -⟩ :=
      theory (some (sampleInput Batch.badObligation))
    · cases (decided _ ends).trans outcome
    · obtain rfl := Except.error.inj ((decided _ ends).trans outcome)
      exact ⟨_, read, rfl, by decide⟩

end Request

end CustodySigner
