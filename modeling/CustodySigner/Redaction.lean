import CustodySigner.Config
import CustodySigner.Bytes

set_option autoImplicit false
set_option relaxedAutoImplicit false

/-!
Redaction of log values. An address or a hash keeps its two ends if it is long and all ASCII; other
values give away their length at most. Lengths are counted in UTF-8 bytes.
-/

namespace CustodySigner

namespace Redaction

/-- The length of a text in UTF-8 bytes. -/
def byteLength (cs : List Char) : Nat :=
  (Bytes.ofText (String.ofList cs)).length

/-- Nothing of the value but its length. -/
def hidden (cs : List Char) : String :=
  let n := byteLength cs
  if n = 0 then "[EMPTY]"
  else if n ≤ 4 then "[REDACTED]"
  else "[REDACTED:" ++ toString n ++ "chars]"

def isAscii (cs : List Char) : Bool :=
  cs.all fun c => c.toNat < 128

/-- The first `front` and the last `back` characters. -/
def ends (front back : Nat) (cs : List Char) : String :=
  String.ofList (cs.take front) ++ "..." ++ String.ofList (cs.drop (cs.length - back))

def hasHexMark (cs : List Char) : Bool :=
  cs.take 2 == ['0', 'x']

def value (text : String) : String :=
  hidden text.toList

/-- Redacts an address to its first six characters, after a `0x`, and its last four. -/
def address (text : String) : String :=
  let cs := Text.trim text.toList
  let front := if hasHexMark cs then 8 else 6
  if isAscii cs && front + 7 < cs.length then ends front 4 cs else hidden cs

/-- Redacts a hash of more than twenty bytes to its first ten characters, after a `0x`, and its last
six. -/
def hash (text : String) : String :=
  let cs := Text.trim text.toList
  if cs = [] then hidden cs
  else if byteLength cs ≤ 20 then String.ofList cs
  else if isAscii cs then ends (if hasHexMark cs then 12 else 10) 6 cs
  else hidden cs

end Redaction

structure Redactor where
  enabled : Bool
deriving DecidableEq, Repr

namespace Redactor

def ofConfig (config : Config) : Redactor := ⟨config.redactLogs⟩

def address (r : Redactor) (text : String) : String :=
  if r.enabled then Redaction.address text else text

def hash (r : Redactor) (text : String) : String :=
  if r.enabled then Redaction.hash text else text

end Redactor

end CustodySigner
