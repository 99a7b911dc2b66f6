import CustodySigner.Derivation.Bip32
import CustodySigner.Proofs.Except

set_option autoImplicit false
set_option relaxedAutoImplicit false

/-!
Paths that parse. Every index is below the hardened bit, so that the bit can be set without a loss and
no index is refused as a child number.
-/

namespace CustodySigner

theorem PathComponent.index_lt_of_parse {part : List Char} {c : PathComponent}
    (h : parse part = .ok c) : c.index < hardenedBit := by
  unfold parse at h
  dsimp only at h
  split at h
  · cases h
  · split at h
    · cases h
    · split at h
      · cases h
      · rename_i small
        obtain rfl := Except.ok.inj h
        have below := Nat.lt_of_not_le small
        have bit : hardenedBit.toNat = 0x80000000 := rfl
        rw [UInt32.lt_iff_toNat_lt, UInt32.toNat_ofNat']
        omega

namespace KeyPath

/-- Every index of the path leaves the hardened bit clear. -/
def InRange (path : KeyPath) : Prop :=
  ∀ c ∈ path.components, c.index < PathComponent.hardenedBit

theorem inRange_of_parse {text : String} {path : KeyPath} (h : parse text = .ok path) :
    path.InRange := by
  unfold parse at h
  split at h
  · split at h
    · split at h
      · obtain rfl := Except.ok.inj h
        intro c mem
        cases mem
      · obtain ⟨components, parts, rfl⟩ := map_eq_ok_iff.1 h
        intro c mem
        obtain ⟨part, -, parsed⟩ := exists_of_mem_right_forall₂ (mapM_eq_ok_iff.1 parts) mem
        exact PathComponent.index_lt_of_parse parsed
      · cases h
    · cases h
  · cases h

theorem InRange.badIndex?_eq_none {path : KeyPath} (h : path.InRange) :
    Bip32.badIndex? path.components = none := by
  unfold Bip32.badIndex?
  rw [Option.map_eq_none_iff, List.find?_eq_none]
  intro c mem
  have small := h c mem
  simpa using UInt32.not_le.2 small

end KeyPath

end CustodySigner
