import CustodySigner.Proofs.Command.Arguments
import CustodySigner.Proofs.Library
import CustodySigner.Proofs.Request.Answer

set_option autoImplicit false
set_option relaxedAutoImplicit false

/-!
Three ways lead to a signature: a call of the library, a request, and the command line. They agree on
whether a value is signed and on the signed value, whatever the configuration, the switches and the
environment are.
-/

namespace CustodySigner

open Command

theorem Command.Kind.served (k : Kind) : k.signable.Served := by
  cases k with
  | transfer => exact .transfer
  | call => exact .call
  | obligations => exact .obligations

namespace Request

variable {τ : Type} {kind : Signable τ} {value : τ} {source : KeySource} {r : Request τ}

/-- The request gives its key by this source, and by no other. -/
inductive Gives (r : Request τ) : KeySource → Prop
  | seedHex {text : String} (given : r.seedHex = some text) (alone : r.mnemonic = none) :
      Gives r (.seedHex text)
  | mnemonic {phrase : String} (given : r.mnemonic = some phrase) (alone : r.seedHex = none) :
      Gives r (.mnemonic phrase r.passphrase)

theorem Gives.masterKey_eq (gives : r.Gives source) :
    r.masterKey = source.masterKey.mapError SignerError.ofKeyStoreError := by
  cases gives with
  | seedHex given alone => simp only [masterKey, given, alone, KeySource.masterKey]
  | mnemonic given alone => simp only [masterKey, given, alone, KeySource.masterKey]

/-- The request with nothing but a value, its key and maybe a configuration. -/
def ofSource (value : τ) (config : Option Config) : KeySource → Request τ
  | .seedHex text => ⟨value, some text, none, "", config⟩
  | .mnemonic phrase passphrase => ⟨value, none, some phrase, passphrase, config⟩

theorem gives_ofSource (value : τ) (config : Option Config) (source : KeySource) :
    (ofSource value config source).Gives source := by
  cases source with
  | seedHex text => exact .seedHex rfl rfl
  | mnemonic phrase passphrase => exact .mnemonic rfl rfl

/-- The input holds a request to sign the value with the key from the source. -/
def Carries (kind : Signable τ) (value : τ) (source : KeySource) (input : Bytes) : Prop :=
  ∃ text r, Holds input text ∧ (codec kind).ofText? text = some r ∧ r.transaction = value ∧
    r.Gives source

theorem exists_perform (S : Suite) (env : Environment) {input : Bytes}
    (carries : Carries kind value source input) :
    ∃ config, (perform S env kind (some input)).outcome =
      (source.masterKey.mapError SignerError.ofKeyStoreError).bind fun key =>
        (kind.sign S config (key.store S) value).outcome := by
  obtain ⟨text, r, holds, read, rfl, gives⟩ := carries
  refine ⟨r.config.getD (.ofEnvironment env), ?_⟩
  rw [← gives.masterKey_eq, outcome_perform, readText_eq_ok_iff.2 holds]
  simp only [Except.bind, ofText, read]

section Written

variable (served : kind.Served)
include served

theorem carries_of_describes {members : List (Option String × Json)} {text : String}
    (describes : (codec kind).Describes (start kind) names r members)
    (whole : ∃ m ∈ members, m.1 = some "transaction")
    (spells : Json.Spells (.object members) text.toList) (gives : r.Gives source) (rest : Bytes) :
    Carries kind r.transaction source (Bytes.ofText text ++ 0 :: rest) := by
  have record := ofRecord served.faithful served.refusesNull
  have read : (codec kind).decode (.object members) = some r :=
    record.decode_eq describes (List.forall_mem_singleton.2 whole)
  refine ⟨text, r, holds_of_zero_not_mem spells.zero_not_mem rest, ?_, rfl, gives⟩
  rw [Codec.ofText?, spells.parse_eq, Option.bind_some, read]

theorem carries_ofSource (value : τ) (config : Option Config) (source : KeySource) (rest : Bytes) :
    Carries kind value source
      (Bytes.ofText ((codec kind).toText (ofSource value config source)) ++ 0 :: rest) := by
  obtain ⟨holds, read⟩ := holds_toText served (ofSource value config source) rest
  refine ⟨_, _, holds, read, ?_, gives_ofSource value config source⟩
  cases source <;> rfl

end Written

end Request

namespace Command

variable {S : Suite} {k : Kind} {source : KeySource} {value : k.Value}

/-- The front ends sign the value, and give it signed. -/
structure Signed (S : Suite) (k : Kind) (source : KeySource) (value signed : k.Value)
    (signer : Signer S k) (env : Environment) : Prop where
  request : ∀ input, Request.Carries k.signable value source input →
    (Response.codec k.signable.codec).ofText? (Request.answer S env signer.signable (some input)) =
      some ⟨true, some signed, none⟩
  command : ∀ options text, options.key = source → k.signable.codec.ofText? text = some value →
    (signInput S env signer.signable options text).exit = 0 ∧
    (signInput S env signer.signable options text).output =
      (if options.pretty then (k.signable.codec.encode signed).pretty
        else (k.signable.codec.encode signed).compact) ++ "\n" ∧
    k.signable.codec.ofText? (signInput S env signer.signable options text).output = some signed

/-- The front ends fail to sign the value, with an error that the library can answer. -/
structure Failed (S : Suite) (k : Kind) (source : KeySource) (value : k.Value)
    (signer : Signer S k) (env : Environment) : Prop where
  request : ∀ input, Request.Carries k.signable value source input →
    ∃ e, Library S k source value (.error e) ∧
      (Response.codec k.signable.codec).ofText? (Request.answer S env signer.signable (some input)) =
        some ⟨false, none, some e⟩
  command : ∀ options text, options.key = source → k.signable.codec.ofText? text = some value →
    (signInput S env signer.signable options text).exit = 1 ∧
    (signInput S env signer.signable options text).output = ""

theorem exists_library_answer (signer : Signer S k) (env : Environment) {input : Bytes}
    (carries : Request.Carries k.signable value source input) :
    ∃ outcome, Library S k source value outcome ∧
      (Response.codec k.signable.codec).ofText?
        (Request.answer S env signer.signable (some input)) = some (Request.respond outcome) := by
  have carries : Request.Carries signer.signable value source input := carries
  have faithful : signer.signable.codec.Faithful := k.served.faithful
  have solid : signer.signable.codec.NeverNull := k.served.neverNull
  obtain ⟨config, performed⟩ := Request.exists_perform S env carries
  have told := Request.ofText?_answer faithful solid S env (some input)
  rw [performed] at told
  exact ⟨_, .of_signer signer config, told⟩

theorem ofText?_line {τ : Type} {c : Codec τ} (faithful : c.Faithful) (x : τ) (pretty : Bool) :
    c.ofText? ((if pretty then (c.encode x).pretty else (c.encode x).compact) ++ "\n") = some x := by
  have plain := faithful.plain x
  have line {text : String} (spells : Json.Spells (c.encode x) text.toList) :
      Json.Spells (c.encode x) (text ++ "\n").toList := by
    rw [String.toList_append]
    exact .blanks Json.blanks_nil spells (List.forall_mem_singleton.2 rfl)
  refine faithful.ofText?_eq plain.reordered_refl ?_
  cases pretty with
  | true => exact line plain.spells_pretty
  | false => exact line plain.spells_compact

theorem signInput_cases (signer : Signer S k) (env : Environment) {options : SignOptions}
    {text : String} (key : options.key = source)
    (read : k.signable.codec.ofText? text = some value) :
    (∃ e, Library S k source value (.error e) ∧
      (signInput S env signer.signable options text).exit = 1 ∧
      (signInput S env signer.signable options text).output = "") ∨
    ∃ signed, Library S k source value (.ok signed) ∧
      (signInput S env signer.signable options text).exit = 0 ∧
      (signInput S env signer.signable options text).output =
        (if options.pretty then (k.signable.codec.encode signed).pretty
          else (k.signable.codec.encode signed).compact) ++ "\n" := by
  subst key
  have read : signer.signable.codec.ofText? text = some value := read
  simp only [signInput, read]
  cases made : options.key.masterKey with
  | error e => exact .inl ⟨_, .noKey made, rfl, rfl⟩
  | ok key =>
    have comes := signer.comesTo (options.config env) (key.store S) value
    cases outcome : (signer.signable.sign S (options.config env) (key.store S) value).outcome with
    | error e =>
      have comes : k.ComesTo S (key.store S) value (.error e) := outcome ▸ comes
      simp only [outcome]
      exact .inl ⟨e, .signs made comes, rfl, rfl⟩
    | ok signed =>
      have comes : k.ComesTo S (key.store S) value (.ok signed) := outcome ▸ comes
      simp only [outcome]
      exact .inr ⟨signed, .signs made comes, rfl, rfl⟩

theorem signed_of_library {signed : k.Value} (library : Library S k source value (.ok signed))
    (signer : Signer S k) (env : Environment) : Signed S k source value signed signer env where
  request input carries := by
    obtain ⟨outcome, answer, told⟩ := exists_library_answer signer env carries
    rw [told, library.agree answer]
    rfl
  command options text key read := by
    rcases signInput_cases signer env key read with ⟨e, answer, -⟩ | ⟨signed', answer, exit, output⟩
    · cases library.agree answer
    · obtain rfl := Except.ok.inj (library.agree answer)
      refine ⟨exit, output, ?_⟩
      rw [output]
      exact ofText?_line k.served.faithful signed' options.pretty

theorem failed_of_library {e : SignerError} (library : Library S k source value (.error e))
    (signer : Signer S k) (env : Environment) : Failed S k source value signer env where
  request input carries := by
    obtain ⟨outcome, answer, told⟩ := exists_library_answer signer env carries
    cases outcome with
    | ok signed => cases answer.agree library
    | error e' => exact ⟨e', answer, told⟩
  command options text key read := by
    rcases signInput_cases signer env key read with ⟨e, -, exit, output⟩ | ⟨signed, answer, -⟩
    · exact ⟨exit, output⟩
    · cases answer.agree library

/-- The front ends can be asked for the value and the key, with every configuration and every choice of
switches. -/
structure Askable (k : Kind) (source : KeySource) (value : k.Value) : Prop where
  request : ∀ config rest, Request.Carries k.signable value source
    (Bytes.ofText ((Request.codec k.signable).toText (.ofSource value config source)) ++ 0 :: rest)
  /-- So does every request that is described, in whatever text. -/
  described : ∀ r members text rest, r.transaction = value → r.Gives source →
    (Request.codec k.signable).Describes (Request.start k.signable) Request.names r members →
    (∃ m ∈ members, m.1 = some "transaction") → Json.Spells (.object members) text.toList →
    Request.Carries k.signable value source (Bytes.ofText text ++ 0 :: rest)
  /-- The value can be written in any text of its JSON, the members of objects in any order. -/
  written : ∀ j text, (k.signable.codec.encode value).Reordered j → Json.Spells j text.toList →
    k.signable.codec.ofText? text = some value
  arguments : ∀ options : SignOptions, options.key = source → options.input ≠ some "" →
    ∃ args, Invocation.ofArguments args = .ok (.sign k options)

theorem askable (k : Kind) (source : KeySource) (value : k.Value) : Askable k source value where
  request config rest := Request.carries_ofSource k.served value config source rest
  described r members text rest := by
    rintro rfl gives describes whole spells
    exact Request.carries_of_describes k.served describes whole spells gives rest
  written j text reordered spells := k.served.faithful.ofText?_eq reordered spells
  arguments options _ path := exists_arguments k path

theorem answer_sequential (S : Suite) (env : Environment) (k : Kind) (input : Option Bytes) :
    Request.answer S env k.signable input =
      Request.answer S env (Signer.sequential S k).signable input := by
  unfold Request.answer Request.perform
  rfl

theorem run_sign (S : Suite) (env : Environment) (k : Kind) (options : SignOptions) (text : String) :
    (Invocation.sign k options).run S env (.ok text) =
      signInput S env (Signer.sequential S k).signable options text := by
  have same : signInput S env k.signable options text =
      signInput S env (Signer.sequential S k).signable options text := by
    unfold signInput
    rfl
  rw [← same]
  cases k <;> rfl

/-- The front ends follow the library: if it can answer with a signed value, they all give that value,
and if it can answer with an error they all fail, in every environment and with every configuration.
Their own signers may take the obligations in any order, and the programs sign in sequence. -/
theorem front_ends_agree (S : Suite) (k : Kind) (source : KeySource) (value : k.Value) :
    (∀ signer : Signer S k, ∀ config, Library S k source value
      ((source.masterKey.mapError SignerError.ofKeyStoreError).bind
        fun key => (signer.sign config (key.store S) value).outcome)) ∧
    (∀ signed, Library S k source value (.ok signed) → ∀ signer env,
      Signed S k source value signed signer env) ∧
    (∀ e, Library S k source value (.error e) → ∀ signer env, Failed S k source value signer env) ∧
    Askable k source value ∧
    ∀ env,
      (∀ input, Request.answer S env k.signable input =
        Request.answer S env (Signer.sequential S k).signable input) ∧
      ∀ options text, (Invocation.sign k options).run S env (.ok text) =
        signInput S env (Signer.sequential S k).signable options text := by
  refine ⟨fun signer config => .of_signer signer config, fun signed => signed_of_library,
    fun e => failed_of_library, askable k source value, fun env => ⟨?_, ?_⟩⟩
  · exact answer_sequential S env k
  · exact run_sign S env k

def sampleSource : KeySource := .seedHex "000102030405060708090A0B0C0D0E0F"

/-- All switches are given. -/
def sampleOptions : SignOptions := ⟨none, sampleSource, true, true, false, true⟩

/-- A request to sign one obligation, with more behind the zero byte. -/
def sampleInput (o : Obligation) : Bytes :=
  Bytes.ofText ((Request.codec .obligations).toText
    (.ofSource (.single "savings" o) (some .debug) sampleSource)) ++ 0 :: [0xff]

/-- An obligation that every front end signs, and one that none of them does. -/
theorem front_ends_agree_singles :
    (∃ signed : Obligations,
      (Response.codec Obligations.codec).ofText? (Request.answer .standard ⟨none, some "on"⟩
        .obligations (some (sampleInput Batch.goodObligation))) = some ⟨true, some signed, none⟩ ∧
      ((Invocation.sign .obligations sampleOptions).run .standard ⟨some "1", none⟩
        (.ok (Obligations.codec.encode (.single "savings" Batch.goodObligation)).pretty)).output =
          (Obligations.codec.encode signed).pretty ++ "\n") ∧
    (∃ e, (Response.codec Obligations.codec).ofText? (Request.answer .standard ⟨none, some "on"⟩
        .obligations (some (sampleInput Batch.badObligation))) = some ⟨false, none, some e⟩) ∧
      ((Invocation.sign .obligations sampleOptions).run .standard ⟨some "1", none⟩
        (.ok (Obligations.codec.encode (.single "savings" Batch.badObligation)).pretty)).exit = 1 := by
  obtain ⟨key, made⟩ : ∃ key, sampleSource.masterKey = .ok key :=
    exists_eq_ok_of_toBool (by decide)
  have read (o : Obligation) := Obligations.codec_faithful.ofText?_pretty
    (Obligations.codec_faithful.plain (.single "savings" o)).reordered_refl
  have answer {o : Obligation} {outcome : Except SignerError Obligations}
      (h : (Batch.signObligations .standard .default (key.store .standard)
        (.single "savings" o)).outcome = outcome) :
      Library .standard .obligations sampleSource (.single "savings" o) outcome :=
    .signs made (h ▸ Kind.comesTo_sign .standard .obligations .default _ _)
  have theory (o : Obligation) :=
    front_ends_agree .standard .obligations sampleSource (.single "savings" o)
  constructor
  · obtain ⟨signed, outcome⟩ :=
      Batch.exists_signObligations_goodObligation .default key "savings"
    obtain ⟨-, signs, -, askable, programs⟩ := theory Batch.goodObligation
    have agreed := signs signed (answer outcome) (.sequential .standard .obligations)
    refine ⟨signed, ?_, ?_⟩
    · refine (congrArg _ ((programs ⟨none, some "on"⟩).1 _)).trans ?_
      exact (agreed ⟨none, some "on"⟩).request _ (askable.request (some .debug) [0xff])
    · rw [(programs ⟨some "1", none⟩).2]
      exact ((agreed ⟨some "1", none⟩).command sampleOptions _ rfl (read _)).2.1
  · have bad : Batch.FailsAlone .standard (key.store .standard) ("savings", Batch.badObligation) _ :=
      ⟨_, rfl, rfl⟩
    obtain ⟨-, -, fails, askable, programs⟩ := theory Batch.badObligation
    have agreed := fails _ (answer (Batch.signObligations_single_eq_error_iff.2 bad))
      (.sequential .standard .obligations)
    constructor
    · obtain ⟨e, -, told⟩ := (agreed ⟨none, some "on"⟩).request _ (askable.request (some .debug) [0xff])
      exact ⟨e, (congrArg _ ((programs ⟨none, some "on"⟩).1 _)).trans told⟩
    · rw [(programs ⟨some "1", none⟩).2]
      exact ((agreed ⟨some "1", none⟩).command sampleOptions _ rfl (read _)).1

end Command

end CustodySigner
