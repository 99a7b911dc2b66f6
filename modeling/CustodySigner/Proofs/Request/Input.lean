import CustodySigner.Proofs.Hex
import CustodySigner.Proofs.Wire
import CustodySigner.Request

set_option autoImplicit false
set_option relaxedAutoImplicit false

/-!
What is read of a request. Its text ends at the first zero byte of the input, and a text that holds no
zero character is passed on whole. The request is a record that needs its transaction.
-/

namespace CustodySigner

namespace Bytes

private theorem eq_zero_of_mem_utf8EncodeChar {c : Char}
    (mem : (0 : UInt8) ∈ String.utf8EncodeChar c) : c = '\x00' := by
  have none_wide (n : Nat) : (0 : UInt8) ≠ UInt8.ofNat (n % 64 + 128) ∧
      (0 : UInt8) ≠ UInt8.ofNat (n % 32 + 192) ∧ (0 : UInt8) ≠ UInt8.ofNat (n % 16 + 224) ∧
      (0 : UInt8) ≠ UInt8.ofNat (n % 8 + 240) := by
    simp only [ne_eq, ← UInt8.toNat_inj, UInt8.toNat_ofNat', UInt8.toNat_zero]
    omega
  by_cases narrow : c.val.toNat ≤ 127
  · have single : String.utf8EncodeChar c = [UInt8.ofNat c.val.toNat] := if_pos narrow
    rw [single, List.mem_singleton] at mem
    have value : 0 = c.val.toNat % 2 ^ 8 := by
      rw [← UInt8.toNat_ofNat', ← mem]
      rfl
    have zero : c.val.toNat = 0 := by omega
    exact Char.ext (UInt32.toNat_inj.1 zero)
  · exfalso
    simp only [String.utf8EncodeChar, if_neg narrow] at mem
    split at mem
    · simp only [List.mem_cons, List.not_mem_nil, or_false, none_wide] at mem
    · split at mem <;> simp only [List.mem_cons, List.not_mem_nil, or_false, none_wide] at mem

theorem zero_not_mem_ofText {text : String} (h : '\x00' ∉ text.toList) :
    (0 : UInt8) ∉ ofText text := by
  have bytes : ofText text = text.toList.flatMap String.utf8EncodeChar := by
    rw [← ofText_ofList, String.ofList_toList]
  rw [bytes]
  intro mem
  obtain ⟨c, listed, mem⟩ := List.mem_flatMap.1 mem
  exact h (eq_zero_of_mem_utf8EncodeChar mem ▸ listed)

end Bytes

namespace Request

variable {τ : Type} {kind : Signable τ}

/-- The bytes up to the first zero byte encode the text. -/
def Holds (input : Bytes) (text : String) : Prop :=
  Bytes.ofText text = input.takeWhile (· != 0)

theorem readText_eq_ok_iff {input : Bytes} {text : String} :
    readText (some input) = .ok text ↔ Holds input text := by
  have bytes (text : String) : Holds input text ↔
      text.toByteArray = ByteArray.mk (input.takeWhile (· != 0)).toArray := by
    unfold Holds Bytes.ofText
    rw [String.toUTF8_eq_toByteArray, ByteArray.ext_iff, ← Array.toList_inj]
  rw [bytes]
  simp only [readText, String.fromUTF8?]
  split
  · rename_i found same
    split at same
    · obtain rfl := Option.some.inj same
      simp only [Except.ok.injEq, ← String.toByteArray_inj]
      exact eq_comm
    · cases same
  · rename_i same
    split at same
    · cases same
    · rename_i broken
      simp only [reduceCtorEq, false_iff]
      intro encoded
      exact broken (encoded ▸ text.isValidUTF8)

theorem exists_readText_error {input : Bytes} (broken : ∀ text, ¬ Holds input text) :
    ∃ message, readText (some input) = .error (.plain .invalidInput message) := by
  cases read : readText (some input) with
  | ok text => exact absurd (readText_eq_ok_iff.1 read) (broken text)
  | error e =>
    simp only [readText] at read
    split at read
    · cases read
    · obtain rfl := Except.error.inj read
      exact ⟨_, rfl⟩

theorem holds_of_zero_not_mem {text : String} (h : '\x00' ∉ text.toList) (rest : Bytes) :
    Holds (Bytes.ofText text ++ 0 :: rest) text := by
  have solid : ∀ b ∈ Bytes.ofText text, (b != 0) = true := by
    intro b mem
    rw [bne_iff_ne]
    rintro rfl
    exact Bytes.zero_not_mem_ofText h mem
  unfold Holds
  rw [List.takeWhile_append_of_pos solid]
  simp

/-- What a request is read into: it has neither transaction nor key yet. -/
def start (kind : Signable τ) : Request τ :=
  ⟨kind.blank, none, none, "", none⟩

def names : List String :=
  ["transaction", "seedHex", "mnemonic", "passphrase", "config"]

theorem ofRecord (faithful : kind.codec.Faithful) (refuses : kind.codec.RefusesNull) :
    (codec kind).OfRecord (start kind) names ["seedHex", "mnemonic", "config"] ["transaction"] := by
  have text : (Codec.option .string).Faithful := .option .string Codec.neverNull_string
  have config : Config.codec.option.Faithful :=
    .option Config.codec_faithful (Record.neverNull_codec _ _)
  refine ⟨_, rfl, ⟨?distinct, ?faithful, ?apart, ?complete⟩, rfl, ?each⟩
  case faithful => simp [faithful, text, config]
  case complete =>
    rintro ⟨⟩ ⟨⟩ same
    simpa [faithful, text, config, Codec.Faithful.encode_inj] using same
  case each => simp [refuses, start]
  all_goals simp

end Request

end CustodySigner
