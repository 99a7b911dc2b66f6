import CustodySigner.Command.Line

set_option autoImplicit false
set_option relaxedAutoImplicit false

/-!
The program: it reads arguments, environment and input, runs the command and prints what it gives.
-/

open CustodySigner CustodySigner.Command

/-- The system's number for an error. Some operations report it with the sign changed. -/
def errorNumber? : IO.Error → Option Nat
  | .noFileOrDirectory _ code _ | .permissionDenied _ code _ | .inappropriateType _ code _
  | .invalidArgument _ code _ => some code.toInt32.toInt.natAbs
  | _ => none

def fileErrorOf (e : IO.Error) : FileError :=
  ((errorNumber? e).bind FileError.ofNumber?).getD (.other (toString e))

/-- Everything that the standard input still gives. -/
partial def readAll (stream : IO.FS.Stream) (read : ByteArray) : IO ByteArray := do
  let chunk ← stream.read 65536
  if chunk.isEmpty then return read else readAll stream (read ++ chunk)

def readInput (source : Option String) : IO (Except FileError String) := do
  try
    match source with
    | none => return decodeText (← readAll (← IO.getStdin) .empty)
    | some path => return decodeText (← IO.FS.readBinFile path)
  catch e =>
    return .error (fileErrorOf e)

def logLine (event : AuditEvent) : String :=
  event.level ++ " " ++ event.message ++
    String.join (event.fields.map fun (name, value) => " " ++ name ++ "=" ++ value.compact)

def main (args : List String) : IO UInt32 := do
  let env : Environment :=
    ⟨← IO.getEnv Environment.verboseVariable, ← IO.getEnv Environment.parallelVariable⟩
  let outcome ←
    match Invocation.ofArguments args with
    | .error refusal => pure (Outcome.refused refusal)
    | .ok invocation =>
      let input ← match invocation.input? with
        | none => pure (.ok "")
        | some source => readInput source
      pure (invocation.run .standard env input)
  for event in outcome.events do
    if event.level = "ERROR" || event.level = "WARN" then IO.eprintln (logLine event)
  IO.print outcome.output
  if let some e := outcome.error then IO.eprintln ("error: " ++ e)
  return UInt32.ofNat outcome.exit
