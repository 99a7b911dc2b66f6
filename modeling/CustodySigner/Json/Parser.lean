import CustodySigner.Json.Value

set_option autoImplicit false
set_option relaxedAutoImplicit false

/-!
Reading JSON. Blanks are the space, the tabulator and the two line ends; numbers have no leading
zeros; strings hold no control characters. Each reader gives what it read and the rest of the text.
-/

namespace CustodySigner.Json

def isBlank (c : Char) : Bool :=
  c == ' ' || c == '\t' || c == '\n' || c == '\r'

def skipBlanks (cs : List Char) : List Char :=
  cs.dropWhile isBlank

def isDigit (c : Char) : Bool :=
  '0' ≤ c && c ≤ '9'

def digitsValue (digits : List Char) : Nat :=
  digits.foldl (fun n c => n * 10 + (c.toNat - 48)) 0

/-- The text after a given one. -/
def after? : (expected cs : List Char) → Option (List Char)
  | [], rest => some rest
  | e :: expected, c :: rest => if e = c then after? expected rest else none
  | _ :: _, [] => none

def readDigits (cs : List Char) : Option (List Char × List Char) :=
  match cs.takeWhile isDigit with
  | [] => none
  | digits => some (digits, cs.dropWhile isDigit)

/-- The digits before the point: a zero stands alone. -/
def readWhole : List Char → Option (List Char × List Char)
  | '0' :: rest => some (['0'], rest)
  | cs => readDigits cs

def readFraction : List Char → Option (List Char × List Char)
  | '.' :: rest => (readDigits rest).map fun (digits, rest) => ('.' :: digits, rest)
  | rest => some ([], rest)

def readExponent : List Char → Option (List Char × List Char)
  | e :: rest =>
    if e == 'e' || e == 'E' then
      let (sign, rest) :=
        match rest with
        | c :: more => if c == '+' || c == '-' then ([c], more) else ([], rest)
        | [] => ([], [])
      (readDigits rest).map fun (digits, rest) => (e :: sign ++ digits, rest)
    else some ([], e :: rest)
  | [] => some ([], [])

def readUnsigned (sign cs : List Char) : Option (Json × List Char) :=
  match readWhole cs with
  | none => none
  | some (whole, rest) =>
    match readFraction rest with
    | none => none
    | some (fraction, rest) =>
      match readExponent rest with
      | none => none
      | some (exponent, rest) =>
        if sign = [] && fraction = [] && exponent = [] then
          some (natural (digitsValue whole), rest)
        else some (number (String.ofList (sign ++ whole ++ fraction ++ exponent)), rest)

def readNumber : List Char → Option (Json × List Char)
  | '-' :: rest => readUnsigned ['-'] rest
  | cs => readUnsigned [] cs

/-- What a string is written with: a character, or an escaped unit of 16 bits. -/
inductive Piece where
  | char (c : Char)
  | unit (value : Nat)
deriving DecidableEq, Repr

def hexValue? (c : Char) : Option Nat :=
  if '0' ≤ c && c ≤ '9' then some (c.toNat - 48)
  else if 'a' ≤ c && c ≤ 'f' then some (c.toNat - 87)
  else if 'A' ≤ c && c ≤ 'F' then some (c.toNat - 55)
  else none

def unit? (a b c d : Char) : Option Nat :=
  match hexValue? a, hexValue? b, hexValue? c, hexValue? d with
  | some a, some b, some c, some d => some (((a * 16 + b) * 16 + c) * 16 + d)
  | _, _, _, _ => none

/-- The character that a letter after a backslash stands for. -/
def escaped? (c : Char) : Option Char :=
  if c == '\x22' || c == '\x5c' || c == '/' then some c
  else if c == 'b' then some '\x08'
  else if c == 'f' then some '\x0c'
  else if c == 'n' then some '\n'
  else if c == 'r' then some '\r'
  else if c == 't' then some '\t'
  else none

/-- The pieces up to the closing quote. -/
def readPieces : List Char → Option (List Piece × List Char)
  | [] => none
  | '\x22' :: rest => some ([], rest)
  | '\x5c' :: 'u' :: a :: b :: c :: d :: rest =>
    match unit? a b c d with
    | none => none
    | some n => (readPieces rest).map fun (pieces, rest) => (.unit n :: pieces, rest)
  | '\x5c' :: e :: rest =>
    match escaped? e with
    | none => none
    | some c => (readPieces rest).map fun (pieces, rest) => (.char c :: pieces, rest)
  | c :: rest =>
    if c == '\x5c' || c < ' ' then none
    else (readPieces rest).map fun (pieces, rest) => (.char c :: pieces, rest)

/-- The text of pieces, unless a surrogate stands alone. -/
def joinPieces : List Piece → Option (List Char)
  | [] => some []
  | .char c :: rest => (joinPieces rest).map (c :: ·)
  | .unit n :: .unit m :: rest =>
    if 0xd800 ≤ n && n < 0xdc00 then
      if 0xdc00 ≤ m && m < 0xe000 then
        (joinPieces rest).map
          (Char.ofNat (0x10000 + (n - 0xd800) * 0x400 + (m - 0xdc00)) :: ·)
      else none
    else if 0xdc00 ≤ n && n < 0xe000 then none
    else (joinPieces (.unit m :: rest)).map (Char.ofNat n :: ·)
  | .unit n :: rest =>
    if 0xd800 ≤ n && n < 0xe000 then none else (joinPieces rest).map (Char.ofNat n :: ·)

/-- A string after its opening quote. -/
def readString (cs : List Char) : Option (Option String × List Char) :=
  (readPieces cs).map fun (pieces, rest) => ((joinPieces pieces).map String.ofList, rest)

mutual

/-- A value after blanks. `fuel` bounds the number of values and members. -/
def readValue : (fuel : Nat) → List Char → Option (Json × List Char)
  | 0, _ => none
  | fuel + 1, cs =>
    match skipBlanks cs with
    | [] => none
    | '\x22' :: rest => (readString rest).map fun (value, rest) => (string value, rest)
    | '[' :: rest =>
      match skipBlanks rest with
      | ']' :: rest => some (array [], rest)
      | _ => (readItems fuel rest).map fun (items, rest) => (array items, rest)
    | '\x7b' :: rest =>
      match skipBlanks rest with
      | '\x7d' :: rest => some (object [], rest)
      | _ => (readMembers fuel rest).map fun (members, rest) => (object members, rest)
    | 'n' :: rest => (after? ['u', 'l', 'l'] rest).map fun rest => (null, rest)
    | 't' :: rest => (after? ['r', 'u', 'e'] rest).map fun rest => (bool true, rest)
    | 'f' :: rest => (after? ['a', 'l', 's', 'e'] rest).map fun rest => (bool false, rest)
    | cs => readNumber cs

/-- One or more values and the closing bracket. -/
def readItems : (fuel : Nat) → List Char → Option (List Json × List Char)
  | 0, _ => none
  | fuel + 1, cs =>
    match readValue fuel cs with
    | none => none
    | some (item, rest) =>
      match skipBlanks rest with
      | ']' :: rest => some ([item], rest)
      | ',' :: rest => (readItems fuel rest).map fun (items, rest) => (item :: items, rest)
      | _ => none

/-- One or more members and the closing brace. -/
def readMembers :
    (fuel : Nat) → List Char → Option (List (Option String × Json) × List Char)
  | 0, _ => none
  | fuel + 1, cs =>
    match skipBlanks cs with
    | '\x22' :: rest =>
      match readString rest with
      | none => none
      | some (name, rest) =>
        match skipBlanks rest with
        | ':' :: rest =>
          match readValue fuel rest with
          | none => none
          | some (value, rest) =>
            match skipBlanks rest with
            | '\x7d' :: rest => some ([(name, value)], rest)
            | ',' :: rest =>
              (readMembers fuel rest).map fun (members, rest) => ((name, value) :: members, rest)
            | _ => none
        | _ => none
    | _ => none

end

def parse (text : String) : Option Json :=
  let cs := text.toList
  match readValue (cs.length + 1) cs with
  | some (value, rest) => if skipBlanks rest = [] then some value else none
  | none => none

end CustodySigner.Json
