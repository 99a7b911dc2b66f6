import CustodySigner.Text.Blank

set_option autoImplicit false
set_option relaxedAutoImplicit false

/-!
Derivation paths. A path is written as `m` and one part for each level; a part is a decimal index
below `2^31` and an optional mark that makes it hardened. Blanks are allowed around the path and
around each part.
-/

namespace CustodySigner

/-- One level of a path. The index is meant to be below `2^31`, but need not be. -/
structure PathComponent where
  index : UInt32
  hardened : Bool
deriving DecidableEq, Repr

/-- The levels below the master key. -/
structure KeyPath where
  components : List PathComponent
deriving DecidableEq, Repr

inductive PathError where
  | missingRoot
  | emptyComponent
  | invalidIndex (part : String)
  | indexOutOfRange (index : Nat)
deriving DecidableEq, Repr

def PathError.message : PathError → String
  | missingRoot => "derivation path must start with 'm'"
  | emptyComponent => "empty path component"
  | invalidIndex part => "invalid path component '" ++ part ++ "'"
  | indexOutOfRange index => "path component " ++ toString index ++ " exceeds maximum value"

namespace PathComponent

/-- The bit of an index that tells hardened children apart. -/
def hardenedBit : UInt32 := 0x80000000

def fullIndex (c : PathComponent) : UInt32 :=
  if c.hardened then c.index ||| hardenedBit else c.index

def display (c : PathComponent) : String :=
  toString c.index.toNat ++ if c.hardened then "'" else ""

def isDigit (c : Char) : Bool :=
  '0' ≤ c && c ≤ '9'

def decimalValue (digits : List Char) : Nat :=
  digits.foldl (fun n c => n * 10 + (c.toNat - 48)) 0

def isMark (c : Char) : Bool :=
  c == '\x27' || c == 'h' || c == 'H'

/-- The text without a mark at its end, and whether there was one. -/
def splitMark (cs : List Char) : List Char × Bool :=
  match cs.reverse with
  | [] => (cs, false)
  | last :: front => if isMark last then (front.reverse, true) else (cs, false)

/-- Reads one part. An index of 64 bits or less that is too large is named by its value. -/
def parse (part : List Char) : Except PathError PathComponent :=
  let trimmed := Text.trim part
  if trimmed = [] then .error .emptyComponent
  else
    let (digits, hardened) := splitMark trimmed
    let index := decimalValue digits
    if digits = [] || !digits.all isDigit || 0x10000000000000000 ≤ index then
      .error (.invalidIndex (String.ofList part))
    else if hardenedBit.toNat ≤ index then .error (.indexOutOfRange index)
    else .ok ⟨UInt32.ofNat index, hardened⟩

end PathComponent

namespace KeyPath

def depth (path : KeyPath) : Nat :=
  path.components.length

def isMaster (path : KeyPath) : Bool :=
  path.components.isEmpty

def display (path : KeyPath) : String :=
  "m" ++ String.join (path.components.map fun c => "/" ++ c.display)

def parse (text : String) : Except PathError KeyPath :=
  match Text.trim text.toList with
  | root :: rest =>
    if root == 'm' || root == 'M' then
      match rest with
      | [] => .ok ⟨[]⟩
      | '/' :: parts =>
        ((Text.fields (· == '/') parts).mapM PathComponent.parse).map KeyPath.mk
      | _ => .error .missingRoot
    else .error .missingRoot
  | [] => .error .missingRoot

end KeyPath

end CustodySigner
