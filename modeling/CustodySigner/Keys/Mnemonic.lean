import CustodySigner.Hash.Hmac
import CustodySigner.Keys.WordList
import CustodySigner.Text.Lowercase

set_option autoImplicit false
set_option relaxedAutoImplicit false

/-!
Mnemonic phrases by BIP-39. Each word stands for eleven bits; the last bits are a checksum of the
others, one for each three words. A phrase is read in any letter case and with any blanks, and the
seed is stretched from its lowercase words.
-/

namespace CustodySigner

inductive MnemonicError where
  | wordCount (count : Nat)
  | unknownWord (position : Nat)
  | checksum
deriving DecidableEq, Repr

def MnemonicError.message : MnemonicError → String
  | wordCount count => "mnemonic has an invalid word count: " ++ toString count ++
      ". Word count must be 12, 15, 18, 21, or 24"
  | unknownWord position =>
    "mnemonic contains an unknown word (word " ++ toString position ++ ")"
  | checksum => "the mnemonic has an invalid checksum"

namespace Mnemonic

def wordsOf (phrase : String) : List String :=
  (Text.words phrase.toList).map fun word => String.ofList (Text.lowercase word)

/-- The places of words in the word list; `position` is that of the first of them. -/
def indices (position : Nat) : List String → Except MnemonicError (List Nat)
  | [] => .ok []
  | word :: rest =>
    match WordList.index? word with
    | none => .error (.unknownWord position)
    | some index => (indices (position + 1) rest).map (index :: ·)

/-- The last bits agree with the hash of the others. -/
def hasChecksum (indices : List Nat) : Bool :=
  let thirds := indices.length / 3
  let bits := indices.foldl (fun n index => n * 2048 + index) 0
  let entropy := Bytes.ofNat (4 * thirds) (bits >>> thirds)
  let hash := Bytes.toNat ((Sha256.digest entropy).take 1)
  bits % (1 <<< thirds) == hash >>> (8 - thirds)

def isWordCount (n : Nat) : Bool :=
  12 ≤ n && n ≤ 24 && n % 3 == 0

/-- Checks lowercase words. -/
def check (words : List String) : Except MnemonicError Unit := do
  if !isWordCount words.length then throw (.wordCount words.length)
  let indices ← indices 0 words
  if !hasChecksum indices then throw .checksum

/-- The seed of 64 bytes that checked words and a passphrase give. -/
def seed (words : List String) (passphrase : String) : Bytes :=
  stretch (Bytes.ofText (" ".intercalate words)) (Bytes.ofText ("mnemonic" ++ passphrase)) 2048

end Mnemonic

end CustodySigner
