import CustodySigner.Error
import CustodySigner.Json.Codec
import CustodySigner.Text.Blank

set_option autoImplicit false
set_option relaxedAutoImplicit false

/-!
The settings of a batch. They are given as JSON or taken from two environment variables; what is not
set keeps its default.
-/

namespace CustodySigner

structure Config where
  /-- Each signed obligation is logged. -/
  verbose : Bool
  /-- Obligations may be signed at the same time. -/
  parallel : Bool
  /-- Addresses, digests and signatures are redacted in the log. -/
  redactLogs : Bool
deriving DecidableEq, Repr

namespace Config

def default : Config := ⟨false, false, true⟩

def debug : Config := { default with verbose := true }

def codec : Codec Config :=
  Record.codec default [
    Record.field "verbose" .bool (·.verbose) (fun v c => { c with verbose := v }),
    Record.field "parallel" .bool (·.parallel) (fun v c => { c with parallel := v }),
    Record.field "redact_logs" .bool (·.redactLogs) (fun v c => { c with redactLogs := v })]

/-- What precedes the reason in the error for a text that is no configuration. -/
def errorHeading : String := "Invalid signer config"

def ofText (text : String) : Except SignerError Config :=
  match codec.ofText? text with
  | some config => .ok config
  | none => .error (.plain .invalidInput (errorHeading ++ ": malformed JSON"))

def lowerLetter (c : Char) : Char :=
  if 'A' ≤ c && c ≤ 'Z' then Char.ofNat (c.toNat + 32) else c

/-- What a text says about a switch, if it says anything. -/
def flag? (text : String) : Option Bool :=
  let word := String.ofList ((Text.trim text.toList).map lowerLetter)
  if ["1", "true", "yes", "on"].contains word then some true
  else if ["0", "false", "no", "off", ""].contains word then some false
  else none

end Config

/-- The values of the environment variables that the engine looks at. -/
structure Environment where
  verbose : Option String
  parallel : Option String
deriving DecidableEq, Repr

namespace Environment

def verboseVariable : String := "OPENW_SIGNER_VERBOSE"

def parallelVariable : String := "OPENW_SIGNER_PARALLEL"

end Environment

/-- The defaults with the switches that the environment sets. -/
def Config.ofEnvironment (env : Environment) : Config where
  verbose := (env.verbose.bind flag?).getD default.verbose
  parallel := (env.parallel.bind flag?).getD default.parallel
  redactLogs := default.redactLogs

end CustodySigner
