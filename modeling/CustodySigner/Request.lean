import CustodySigner.Batch.Signable
import CustodySigner.Error.Codec
import CustodySigner.Keys.MasterKey

set_option autoImplicit false
set_option relaxedAutoImplicit false

/-!
Signing requests. A request holds a value to sign, a seed or a mnemonic, and maybe a configuration;
it comes as JSON in a string that a zero byte ends, and so does its answer.
-/

namespace CustodySigner

structure Request (τ : Type) where
  transaction : τ
  seedHex : Option String
  mnemonic : Option String
  passphrase : String
  config : Option Config

namespace Request

variable {τ : Type}

def codec (kind : Signable τ) : Codec (Request τ) :=
  Record.codec ⟨kind.blank, none, none, "", none⟩ [
    Record.field "transaction" kind.codec (·.transaction) (fun v r => { r with transaction := v })
      .required,
    Record.field "seedHex" (.option .string) (·.seedHex) (fun v r => { r with seedHex := v }),
    Record.field "mnemonic" (.option .string) (·.mnemonic) (fun v r => { r with mnemonic := v }),
    Record.field "passphrase" .string (·.passphrase) (fun v r => { r with passphrase := v }),
    Record.field "config" (.option Config.codec) (·.config) (fun v r => { r with config := v })]

/-- The key that the request gives, either as a seed or as a mnemonic. -/
def masterKey (r : Request τ) : Except SignerError MasterKey :=
  match r.seedHex, r.mnemonic with
  | some seed, none => (MasterKey.ofSeedHex seed).mapError SignerError.ofKeyStoreError
  | none, some phrase =>
    (MasterKey.ofMnemonic phrase r.passphrase).mapError SignerError.ofKeyStoreError
  | some _, some _ => .error (.plain .invalidInput "Provide either seedHex or mnemonic, not both")
  | none, none => .error (.plain .invalidInput "Missing seedHex or mnemonic")

/-- What precedes the reason in the error for a text that is no request. -/
def errorHeading : String := "Invalid JSON"

def ofText (kind : Signable τ) (text : String) : Except SignerError (Request τ) :=
  match (codec kind).ofText? text with
  | some request => .ok request
  | none => .error (.plain .jsonError (errorHeading ++ ": not a signing request"))

/-- The text in front of the first zero byte. -/
def readText (input : Option Bytes) : Except SignerError String :=
  match input with
  | none => .error (.plain .invalidInput "Null input pointer")
  | some b =>
    match String.fromUTF8? (ByteArray.mk (b.takeWhile (· != 0)).toArray) with
    | some text => .ok text
    | none => .error (.plain .invalidInput "Invalid UTF-8 string")

/-- Signs what a request asks for; the environment configures a request that does not do so itself. -/
def perform (S : Suite) (env : Environment) (kind : Signable τ) (input : Option Bytes) :
    Audited τ :=
  let prepared : Except SignerError (Request τ × MasterKey) := do
    let request ← ofText kind (← readText input)
    pure (request, ← request.masterKey)
  match prepared with
  | .error e => ⟨.error e, []⟩
  | .ok (request, key) =>
    let config := request.config.getD (Config.ofEnvironment env)
    kind.sign S config (key.store S) request.transaction

def respond : Except SignerError τ → Response τ
  | .ok data => .ok data
  | .error e => .failure e

/-- What is handed out in place of a text that a zero byte would cut short. -/
def lastResort : String :=
  "\x7b\"success\":false,\"error\":\x7b\"code\":\"internal\",\"message\":\"String conversion failed\"\x7d\x7d"

/-- A text as it is handed out, in a string that a zero byte ends. -/
def handOut (text : String) : String :=
  if text.toList.contains '\x00' then lastResort else text

def answer (S : Suite) (env : Environment) (kind : Signable τ) (input : Option Bytes) : String :=
  handOut ((Response.codec kind.codec).toText (respond (perform S env kind input).outcome))

end Request

end CustodySigner
