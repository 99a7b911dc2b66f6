import CustodySigner.Hex
import CustodySigner.Json.Value

set_option autoImplicit false
set_option relaxedAutoImplicit false

/-!
Writing JSON, on one line without blanks or on many lines with two blanks for each level. Only
quotes, backslashes and control characters are escaped in strings.
-/

namespace CustodySigner.Json

/-- How a character is written in a string. -/
def writeChar (c : Char) : List Char :=
  if c == '\x22' then ['\x5c', '\x22']
  else if c == '\x5c' then ['\x5c', '\x5c']
  else if c == '\x08' then ['\x5c', 'b']
  else if c == '\x0c' then ['\x5c', 'f']
  else if c == '\n' then ['\x5c', 'n']
  else if c == '\r' then ['\x5c', 'r']
  else if c == '\t' then ['\x5c', 't']
  else if c < ' ' then
    ['\x5c', 'u', '0', '0', Hex.digit (c.toNat / 16), Hex.digit (c.toNat % 16)]
  else [c]

/-- A string between quotes. One that is no text is written as an unpaired surrogate. -/
def writeString : Option String → List Char
  | some text => '\x22' :: text.toList.flatMap writeChar ++ ['\x22']
  | none => ['\x22', '\x5c', 'u', 'd', '8', '0', '0', '\x22']

def writeNatural (n : Nat) : List Char :=
  Nat.toDigits 10 n

mutual

/-- A value on one line. -/
def write : Json → List Char
  | null => ['n', 'u', 'l', 'l']
  | bool true => ['t', 'r', 'u', 'e']
  | bool false => ['f', 'a', 'l', 's', 'e']
  | natural n => writeNatural n
  | number digits => digits.toList
  | string value => writeString value
  | array items => '[' :: writeItems items ++ [']']
  | object members => '\x7b' :: writeMembers members ++ ['\x7d']

def writeItems : List Json → List Char
  | [] => []
  | [item] => write item
  | item :: rest => write item ++ ',' :: writeItems rest

def writeMembers : List (Option String × Json) → List Char
  | [] => []
  | [(name, value)] => writeString name ++ ':' :: write value
  | (name, value) :: rest => writeString name ++ ':' :: write value ++ ',' :: writeMembers rest

end

/-- The end of a line and the blanks before the next one. -/
def newLine (level : Nat) : List Char :=
  '\n' :: List.replicate (2 * level) ' '

mutual

/-- A value on lines of its own; what it contains is `level + 1` steps to the right. -/
def writePretty (level : Nat) : Json → List Char
  | array (item :: rest) =>
    '[' :: newLine (level + 1) ++ writePretty (level + 1) item ++ prettyItems (level + 1) rest ++
      newLine level ++ [']']
  | object ((name, value) :: rest) =>
    '\x7b' :: newLine (level + 1) ++ writeString name ++ ':' :: ' ' :: writePretty (level + 1) value
      ++ prettyMembers (level + 1) rest ++ newLine level ++ ['\x7d']
  | null => ['n', 'u', 'l', 'l']
  | bool true => ['t', 'r', 'u', 'e']
  | bool false => ['f', 'a', 'l', 's', 'e']
  | natural n => writeNatural n
  | number digits => digits.toList
  | string value => writeString value
  | array [] => ['[', ']']
  | object [] => ['\x7b', '\x7d']

def prettyItems (level : Nat) : List Json → List Char
  | [] => []
  | item :: rest => ',' :: newLine level ++ writePretty level item ++ prettyItems level rest

def prettyMembers (level : Nat) : List (Option String × Json) → List Char
  | [] => []
  | (name, value) :: rest =>
    ',' :: newLine level ++ writeString name ++ ':' :: ' ' :: writePretty level value ++
      prettyMembers level rest

end

def compact (value : Json) : String :=
  String.ofList (write value)

def pretty (value : Json) : String :=
  String.ofList (writePretty 0 value)

end CustodySigner.Json
