import CustodySigner.Bytes

set_option autoImplicit false
set_option relaxedAutoImplicit false

/-!
Hexadecimal text. Bytes are written in lowercase; either case is read. A text of odd length in
UTF-8 bytes is refused before its digits are looked at, and otherwise the first byte that is no
digit is named.
-/

namespace CustodySigner

inductive HexError where
  | oddLength
  | badDigit (byte : UInt8) (position : Nat)
deriving DecidableEq, Repr

namespace Hex

/-- The lowercase digit of a number below sixteen. -/
def digit (n : Nat) : Char :=
  Char.ofNat (if n < 10 then 48 + n else 87 + n)

def value? (b : UInt8) : Option UInt8 :=
  if 48 ≤ b && b ≤ 57 then some (b - 48)
  else if 97 ≤ b && b ≤ 102 then some (b - 87)
  else if 65 ≤ b && b ≤ 70 then some (b - 55)
  else none

def digits (b : Bytes) : List Char :=
  b.flatMap fun x => [digit (x.toNat / 16), digit (x.toNat % 16)]

def encode (b : Bytes) : String :=
  String.ofList (digits b)

/-- Reads pairs of digits; `position` is that of the first byte of the rest. -/
def decodePairs (position : Nat) : Bytes → Except HexError Bytes
  | high :: low :: rest =>
    match value? high, value? low with
    | none, _ => .error (.badDigit high position)
    | some _, none => .error (.badDigit low (position + 1))
    | some h, some l => (decodePairs (position + 2) rest).map ((h * 16 + l) :: ·)
  | _ => .ok []

def decode (s : String) : Except HexError Bytes :=
  let b := Bytes.ofText s
  if b.length % 2 = 1 then .error .oddLength else decodePairs 0 b

def ofNat (n : Nat) : String :=
  String.ofList (Nat.toDigits 16 n)

end Hex

namespace HexError

/-- A byte as the Latin-1 character of its value between quotes, with escapes for control
characters, for blanks other than the space, for the soft hyphen, for quote and backslash. -/
def quoted (b : UInt8) : String :=
  let body :=
    if b = 0 then "\\0"
    else if b = 9 then "\\t"
    else if b = 10 then "\\n"
    else if b = 13 then "\\r"
    else if b = 39 then "\\'"
    else if b = 92 then "\\\\"
    else if b < 32 || (127 ≤ b && b ≤ 160) || b = 173 then
      "\\u\x7b" ++ Hex.ofNat b.toNat ++ "\x7d"
    else String.singleton (Char.ofNat b.toNat)
  "'" ++ body ++ "'"

def message : HexError → String
  | .oddLength => "Odd number of digits"
  | .badDigit byte position => "Invalid character " ++ quoted byte ++ " at position " ++ toString position

end HexError

end CustodySigner
