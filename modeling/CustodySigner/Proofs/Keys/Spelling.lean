import CustodySigner.Keys.MasterKey
import CustodySigner.Proofs.Hex
import CustodySigner.Proofs.Keys.Mnemonic

set_option autoImplicit false
set_option relaxedAutoImplicit false

/-!
The spellings of a seed. In hexadecimal the case of the digits and the blanks around them do not count,
and in a mnemonic neither the blanks between the words nor their case; all spellings lead to one key or
to one error.
-/

namespace CustodySigner

/-- The text spells the bytes in hexadecimal, with blanks around them. -/
def Hex.IsSpelling (text : String) (b : Bytes) : Prop :=
  ∃ core, Text.TrimsTo text.toList core ∧ Spells core b

namespace Mnemonic

/-- The words in lower case with single spaces between them. -/
def sentence (words : List (List Char)) : String :=
  " ".intercalate (words.map fun word => String.ofList (Text.lowercase word))

/-- The seed of a sentence by BIP-39. -/
def seedOf (sentence passphrase : String) : Bytes :=
  stretch (Bytes.ofText sentence) (Bytes.ofText ("mnemonic" ++ passphrase)) 2048

theorem wordsOf_of_worded {phrase : String} {words : List (List Char)}
    (worded : Text.Worded phrase.toList words) :
    wordsOf phrase = words.map fun word => String.ofList (Text.lowercase word) := by
  unfold wordsOf
  rw [worded.words_eq]

theorem check_wordsOf_iff {phrase : String} {words : List (List Char)}
    (worded : Text.Worded phrase.toList words) :
    check (wordsOf phrase) = .ok () ↔ IsValid (sentence words) := by
  rw [wordsOf_of_worded worded]
  refine check_eq_ok_iff_isValid fun lower mem => ?_
  obtain ⟨word, found, rfl⟩ := List.mem_map.1 mem
  rw [String.toList_ofList]
  exact (worded.isWord_of_mem found).lowercase

end Mnemonic

namespace MasterKey

theorem ofSeed_eq_ok_iff {b : Bytes} {key : MasterKey} : ofSeed b = .ok key ↔ key.seed = b := by
  unfold ofSeed
  split_ifs with size
  · rw [Except.ok.injEq]
    constructor
    · rintro rfl
      rfl
    · rintro rfl
      rfl
  · refine iff_of_false nofun ?_
    rintro rfl
    exact size ⟨key.least, key.most⟩

theorem exists_ofSeed_iff {b : Bytes} :
    (∃ key, ofSeed b = .ok key) ↔ 16 ≤ b.length ∧ b.length ≤ 64 := by
  simp only [ofSeed_eq_ok_iff]
  constructor
  · rintro ⟨key, rfl⟩
    exact ⟨key.least, key.most⟩
  · rintro ⟨least, most⟩
    exact ⟨⟨b, least, most⟩, rfl⟩

theorem ofSeed_of_not {b : Bytes} (other : ¬ (16 ≤ b.length ∧ b.length ≤ 64)) :
    ∃ reason, ofSeed b = .error ⟨.invalidSeed, reason⟩ := by
  unfold ofSeed
  rw [dif_neg other]
  exact ⟨_, rfl⟩

theorem ofSeedHex_of_spelling {text : String} {b : Bytes} (spelled : Hex.IsSpelling text b) :
    ofSeedHex text = ofSeed b := by
  obtain ⟨core, trimmed, spells⟩ := spelled
  have read : Hex.decode (String.ofList (Text.trim text.toList)) = .ok b := by
    rw [trimmed.trim_eq, Hex.decode_eq_ok_iff, String.toList_ofList]
    exact spells
  unfold ofSeedHex
  rw [read]

theorem ofSeedHex_of_other {text : String} (other : ∀ b : Bytes, Hex.IsSpelling text b →
    ¬ (16 ≤ b.length ∧ b.length ≤ 64)) :
    ∃ reason, ofSeedHex text = .error ⟨.invalidSeed, reason⟩ := by
  cases read : Hex.decode (String.ofList (Text.trim text.toList)) with
  | error e =>
    unfold ofSeedHex
    rw [read]
    exact ⟨_, rfl⟩
  | ok b =>
    rw [Hex.decode_eq_ok_iff, String.toList_ofList] at read
    have spelled : Hex.IsSpelling text b := ⟨_, Text.trimsTo_trim text.toList, read⟩
    rw [ofSeedHex_of_spelling spelled]
    exact ofSeed_of_not (other b spelled)

section Mnemonic

variable {phrase : String} {words : List (List Char)}

theorem ofMnemonic_of_lowercase {phrase' : String} {words' : List (List Char)}
    (worded : Text.Worded phrase.toList words) (worded' : Text.Worded phrase'.toList words')
    (same : words'.map Text.lowercase = words.map Text.lowercase) (passphrase : String) :
    ofMnemonic phrase' passphrase = ofMnemonic phrase passphrase := by
  have lower : Mnemonic.wordsOf phrase' = Mnemonic.wordsOf phrase := by
    have spelled := congrArg (List.map String.ofList) same
    rw [List.map_map, List.map_map] at spelled
    rw [Mnemonic.wordsOf_of_worded worded, Mnemonic.wordsOf_of_worded worded']
    exact spelled
  unfold ofMnemonic
  rw [lower]

theorem ofMnemonic_of_valid (worded : Text.Worded phrase.toList words)
    (valid : Mnemonic.IsValid (Mnemonic.sentence words)) (passphrase : String) :
    ofMnemonic phrase passphrase = ofSeed (Mnemonic.seedOf (Mnemonic.sentence words) passphrase) := by
  have passed := (Mnemonic.check_wordsOf_iff worded).2 valid
  unfold ofMnemonic
  dsimp only
  rw [passed]
  dsimp only
  rw [Mnemonic.wordsOf_of_worded worded]
  rfl

theorem ofMnemonic_of_not_valid (worded : Text.Worded phrase.toList words)
    (invalid : ¬ Mnemonic.IsValid (Mnemonic.sentence words)) (passphrase : String) :
    ∃ reason, ofMnemonic phrase passphrase = .error ⟨.invalidSeed, reason⟩ := by
  unfold ofMnemonic
  dsimp only
  cases checked : Mnemonic.check (Mnemonic.wordsOf phrase) with
  | ok _ => exact absurd ((Mnemonic.check_wordsOf_iff worded).1 checked) invalid
  | error e => exact ⟨_, rfl⟩

theorem length_seedOf (sentence passphrase : String) :
    (Mnemonic.seedOf sentence passphrase).length = 64 :=
  length_stretch _ _ _

theorem exists_ofSeed_seedOf (sentence passphrase : String) :
    ∃ key, ofSeed (Mnemonic.seedOf sentence passphrase) = .ok key := by
  rw [exists_ofSeed_iff, length_seedOf]
  decide

theorem exists_ofMnemonic_iff (worded : Text.Worded phrase.toList words) (passphrase : String) :
    (∃ key, ofMnemonic phrase passphrase = .ok key) ↔
      Mnemonic.IsValid (Mnemonic.sentence words) := by
  constructor
  · rintro ⟨key, made⟩
    by_contra invalid
    obtain ⟨reason, refused⟩ := ofMnemonic_of_not_valid worded invalid passphrase
    cases made.symm.trans refused
  · intro valid
    rw [ofMnemonic_of_valid worded valid]
    exact exists_ofSeed_seedOf _ passphrase

end Mnemonic

/-- All spellings of a seed give the same key. Hexadecimal text is the seed of the bytes that it spells
in either case, between blanks; these are accepted by their length, and all other texts are refused. A
phrase is accepted if and only if its words in lower case join to a valid mnemonic, and then the key is
that of the seed of this mnemonic, whatever the blanks and the case. -/
theorem spellings_give_same_key :
    (∀ text b, Hex.IsSpelling text b → ofSeedHex text = ofSeed b) ∧
    (∀ b, ((∃ key, ofSeed b = .ok key) ↔ 16 ≤ b.length ∧ b.length ≤ 64) ∧
      ∀ key, ofSeed b = .ok key ↔ key.seed = b) ∧
    (∀ text, (∀ b, Hex.IsSpelling text b → ¬ (16 ≤ b.length ∧ b.length ≤ 64)) →
      ∃ reason, ofSeedHex text = .error ⟨.invalidSeed, reason⟩) ∧
    ∀ phrase words passphrase, Text.Worded phrase.toList words →
      let sentence := Mnemonic.sentence words
      let seed := Mnemonic.seedOf sentence passphrase
      (∀ phrase' words', Text.Worded phrase'.toList words' →
        words'.map Text.lowercase = words.map Text.lowercase →
        ofMnemonic phrase' passphrase = ofMnemonic phrase passphrase) ∧
      ((∃ key, ofMnemonic phrase passphrase = .ok key) ↔ Mnemonic.IsValid sentence) ∧
      (Mnemonic.IsValid sentence → ofMnemonic phrase passphrase = ofSeed seed ∧
        seed.length = 64 ∧ ∃ key, ofSeed seed = .ok key) ∧
      (¬ Mnemonic.IsValid sentence →
        ∃ reason, ofMnemonic phrase passphrase = .error ⟨.invalidSeed, reason⟩) := by
  refine ⟨fun text b => ofSeedHex_of_spelling, fun b => ⟨exists_ofSeed_iff, fun key =>
    ofSeed_eq_ok_iff⟩, fun text => ofSeedHex_of_other, fun phrase words passphrase worded => ?_⟩
  intro sentence seed
  refine ⟨fun phrase' words' worded' same => ?_, exists_ofMnemonic_iff worded passphrase,
    fun valid => ?_, fun invalid => ofMnemonic_of_not_valid worded invalid passphrase⟩
  · exact ofMnemonic_of_lowercase worded worded' same passphrase
  · exact ⟨ofMnemonic_of_valid worded valid passphrase, length_seedOf sentence passphrase,
      exists_ofSeed_seedOf sentence passphrase⟩

/-- The mnemonic of sixteen zeros. -/
def zeroPhrase : String :=
  "abandon abandon abandon abandon abandon abandon abandon abandon abandon abandon abandon about"

/-- The same mnemonic in other cases and with other blanks. -/
def loosePhrase : String :=
  "\u3000ABANDON abandon\t Abandon abandon abandon abandon\nabandon abandon abandon abandon abandon ABOUT "

theorem spellings_give_same_key_samples :
    ofSeedHex "\t000102030405060708090A0b0C0d0E0f\n" =
      ofSeed [0, 1, 2, 3, 4, 5, 6, 7, 8, 9, 10, 11, 12, 13, 14, 15] ∧
    (∃ reason, ofSeedHex "0x0a" = .error ⟨.invalidSeed, reason⟩) ∧
    ∃ key, ofMnemonic zeroPhrase "TREZOR" = .ok key ∧ ofMnemonic loosePhrase "TREZOR" = .ok key := by
  obtain ⟨hex, -, other, phrases⟩ := spellings_give_same_key
  have spelled : Hex.IsSpelling "\t000102030405060708090A0b0C0d0E0f\n"
      [0, 1, 2, 3, 4, 5, 6, 7, 8, 9, 10, 11, 12, 13, 14, 15] := by
    have read : Hex.decode (String.ofList (Text.trim
        "\t000102030405060708090A0b0C0d0E0f\n".toList)) =
        .ok [0, 1, 2, 3, 4, 5, 6, 7, 8, 9, 10, 11, 12, 13, 14, 15] := by decide +kernel
    rw [Hex.decode_eq_ok_iff, String.toList_ofList] at read
    exact ⟨_, Text.trimsTo_trim _, read⟩
  have unspelled : ∀ b, ¬ Hex.IsSpelling "0x0a" b := by
    rintro b ⟨core, trimmed, spells⟩
    have read : Hex.decode (String.ofList core) = .ok b := by
      rw [Hex.decode_eq_ok_iff, String.toList_ofList]
      exact spells
    have refused : Hex.decode (String.ofList (Text.trim "0x0a".toList)) =
        .error (.badDigit 120 1) := by decide
    rw [trimmed.trim_eq] at refused
    cases refused.symm.trans read
  have worded : Text.Worded zeroPhrase.toList (List.replicate 11 "abandon".toList ++ ["about".toList]) :=
    Text.words_eq_iff.1 (by decide +kernel)
  have loose : Text.Worded loosePhrase.toList (Text.words loosePhrase.toList) :=
    Text.words_eq_iff.1 rfl
  obtain ⟨same, -, valid, -⟩ := phrases zeroPhrase _ "TREZOR" worded
  have mnemonic : Mnemonic.IsValid (Mnemonic.sentence
      (List.replicate 11 "abandon".toList ++ ["about".toList])) := by
    have listed : Mnemonic.indices 0 (List.replicate 11 "abandon" ++ ["about"]) =
        .ok (List.replicate 11 0 ++ [3]) := by decide +kernel
    exact ⟨List.replicate 16 0, List.replicate 11 "abandon" ++ ["about"], by decide,
      ⟨_, Mnemonic.indices_eq_ok_iff.1 listed, by decide +kernel⟩, by decide +kernel⟩
  obtain ⟨seeded, -, key, accepted⟩ := valid mnemonic
  have equal := same loosePhrase _ loose (by decide +kernel)
  exact ⟨hex _ _ spelled, other _ fun b spells => absurd spells (unspelled b), key,
    seeded.trans accepted, (equal.trans seeded).trans accepted⟩

end MasterKey

end CustodySigner
