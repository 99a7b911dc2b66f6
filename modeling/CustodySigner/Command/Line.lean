import CustodySigner.Batch.Signable
import CustodySigner.Command.Arguments
import CustodySigner.Command.FileTree
import CustodySigner.Keys.MasterKey

set_option autoImplicit false
set_option relaxedAutoImplicit false

/-!
The command line: three commands that sign the value they read, and one that prints a synthetic key.
-/

namespace CustodySigner.Command

inductive Kind where
  | transfer
  | call
  | obligations
deriving DecidableEq, Repr

inductive KeySource where
  | seedHex (text : String)
  | mnemonic (phrase passphrase : String)
deriving DecidableEq, Repr

structure SignOptions where
  /-- The file to read, if it is not the standard input. -/
  input : Option String
  key : KeySource
  parallel : Bool
  verbose : Bool
  redact : Bool
  pretty : Bool
deriving DecidableEq, Repr

inductive Invocation where
  | sign (kind : Kind) (options : SignOptions)
  | syntheticKey (key : String)
deriving DecidableEq, Repr

/-- The options that were given; there is exactly one source of the key. -/
def SignOptions.ofGiven (g : Given) : Except Refusal SignOptions :=
  let withKey (key : KeySource) : SignOptions := {
    input := g.value? .input
    key := key
    parallel := g.has .parallel
    verbose := g.has .verbose
    redact := !g.has .noRedact
    pretty := g.has .pretty }
  match g.value? .seedHex, g.value? .mnemonic with
  | some seed, none => .ok (withKey (.seedHex seed))
  | none, some phrase => .ok (withKey (.mnemonic phrase ((g.value? .passphrase).getD "")))
  | _, _ => .error .usage

def readCommand? (name : String) : Option (List String → Except Refusal Invocation) :=
  let sign (kind : Kind) (args : List String) : Except Refusal Invocation := do
    let g ← readArguments ⟨Flag.all, 0⟩ .none args
    pure (.sign kind (← SignOptions.ofGiven g))
  match name with
  | "sign-raw" => some (sign .transfer)
  | "sign-contract" => some (sign .call)
  | "sign-hash" => some (sign .obligations)
  | "synthetic-key" => some fun args => do
    match (← readArguments ⟨[], 1⟩ .none args).operands with
    | [key] => pure (.syntheticKey key)
    | _ => throw .usage
  | _ => none

def Invocation.ofArguments : List String → Except Refusal Invocation
  | [] => .error .usage
  | "help" :: topics =>
    match topics with
    | [] => .error .help
    | [topic] =>
      .error (if topic = "help" || (readCommand? topic).isSome then .help else .usage)
    | _ => .error .usage
  | name :: args =>
    match readCommand? name with
    | some read => read args
    | none =>
      .error <| match Word.ofText name with
        | .long "help" none | .letters ('h' :: _) => .help
        | _ => .usage

/-- How a command ended: the exit code, the standard output, the error if there is one, and the log. -/
structure Outcome where
  exit : Nat
  output : String
  error : Option String
  events : List AuditEvent

namespace Outcome

def success (output : String) (events : List AuditEvent) : Outcome :=
  ⟨0, output ++ "\n", none, events⟩

def failure (error : String) (events : List AuditEvent) : Outcome :=
  ⟨1, "", some error, events⟩

/-- Arguments that run no command. -/
def refused : Refusal → Outcome
  | .help => ⟨0, "", none, []⟩
  | .usage => ⟨2, "", none, []⟩

end Outcome

def KeySource.masterKey : KeySource → Except KeyStoreError MasterKey
  | .seedHex text => MasterKey.ofSeedHex text
  | .mnemonic phrase passphrase => MasterKey.ofMnemonic phrase passphrase

/-- A switch counts if it is given or set by the environment; redaction is only for the command line
to turn off. -/
def SignOptions.config (o : SignOptions) (env : Environment) : Config where
  verbose := o.verbose || (Config.ofEnvironment env).verbose
  parallel := o.parallel || (Config.ofEnvironment env).parallel
  redactLogs := o.redact

/-- What precedes the reason in the error for an input that is no value to sign. -/
def parseHeading (title : String) : String := "parsing " ++ title

/-- Signs the value in an input and prints it. -/
def signInput {τ : Type} (S : Suite) (env : Environment) (kind : Signable τ) (o : SignOptions)
    (input : String) : Outcome :=
  match kind.codec.ofText? input with
  | none => .failure (parseHeading kind.title ++ ": malformed JSON") []
  | some value =>
    match o.key.masterKey with
    | .error e => .failure e.message []
    | .ok key =>
      let run := kind.sign S (o.config env) (key.store S) value
      match run.outcome with
      | .error e => .failure e.display run.events
      | .ok signed =>
        let json := kind.codec.encode signed
        .success (if o.pretty then json.pretty else json.compact) run.events

/-- Prints the synthetic secret key of a raw key and its public key. -/
def printSyntheticKey (P : PairingScheme) (key : String) : Outcome :=
  match Hex.decode (String.ofList (Text.trim key.toList)) with
  | .error e => .failure ("private key is not hex: " ++ e.message) []
  | .ok raw =>
    let pair : Except CurveError (Bytes × Bytes) := do
      let secret ← SyntheticKey.secret P raw SyntheticKey.defaultHiddenPuzzle
      pure (← SyntheticKey.publicKey P raw, secret)
    match pair with
    | .error e => .failure e.message []
    | .ok (publicKey, secret) =>
      .success (Json.ofMembers [
        ("syntheticPublicKey", .ofText (Hex.encode publicKey)),
        ("syntheticSecretKey", .ofText (Hex.encode secret))]).compact []

/-- Which input a command reads, if it reads one: a file or the standard input. -/
def Invocation.input? : Invocation → Option (Option String)
  | .sign _ options => some options.input
  | .syntheticKey _ => none

def readError (source : Option String) (e : FileError) : String :=
  "reading " ++ source.getD "stdin" ++ ": " ++ e.reason

/-- Runs a command on its input, if it could be read. -/
def Invocation.run (S : Suite) (env : Environment) (input : Except FileError String) :
    Invocation → Outcome
  | .syntheticKey key => printSyntheticKey S.bls12381 key
  | .sign kind options =>
    match input with
    | .error e => .failure (readError options.input e) []
    | .ok input =>
      match kind with
      | .transfer => signInput S env .transfer options input
      | .call => signInput S env .call options input
      | .obligations => signInput S env .obligations options input

end CustodySigner.Command
