import CustodySigner.Ecdsa.PublicKey
import CustodySigner.Proofs.Ecdsa.Basic

set_option autoImplicit false
set_option relaxedAutoImplicit false

/-!
The compressed encoding of a key's point is read back as that point. Where the base point spans the
curve, nothing else is read than its multiples.
-/

namespace CustodySigner.Ecdsa

variable {G : CurveGroup}

theorem ofBytes?_compressed {odd : Bool} {x : Nat} (bound : x < Bytes.range32) :
    EncodedPoint.ofBytes? ((if odd then 3 else 2) :: Bytes.ofNat 32 x) =
      some (.compressed odd x) := by
  have length := Bytes.length_ofNat 32 x
  have front : (Bytes.ofNat 32 x).take 32 = Bytes.ofNat 32 x := List.take_of_length_le length.le
  unfold EncodedPoint.ofBytes?
  simp only [length, front, Bytes.toNat_ofNat_32 bound, if_true]
  cases odd <;> rfl

theorem exists_compress? (lawful : G.Lawful) {secret : Nat} (scalar : isScalar G secret = true) :
    ∃ b point, compress? G (publicPoint G secret) = some b ∧ b.length = 33 ∧
      EncodedPoint.ofBytes? b = some point ∧ (∃ odd x, point = .compressed odd x) ∧
      point.point? G = some (G.multiple secret) := by
  obtain ⟨x, y, found⟩ := lawful.exists_coordinates (not_dvd_of_isScalar scalar)
  have bound := lawful.bounded found
  refine ⟨_, .compressed (y % 2 == 1) x, Option.map_eq_some_iff.2 ⟨_, found, rfl⟩, ?_,
    ofBytes?_compressed bound, ⟨_, _, rfl⟩, lawful.lift found⟩
  simp

theorem EncodedPoint.exists_multiple (spanned : G.Spanned) {point : EncodedPoint} {P : G.Point}
    (h : point.point? G = some P) : ∃ k, P = G.multiple k := by
  have lifted {x : Nat} {odd : Bool} {P : G.Point} (h : G.lift? x odd = some P) :
      ∃ k, P = G.multiple k := by
    obtain ⟨k, _, same, -⟩ := spanned.lift h
    exact ⟨k, same⟩
  cases point with
  | compressed odd x => exact lifted h
  | uncompressed x y => exact spanned.point h
  | hybrid odd x y =>
    simp only [EncodedPoint.point?, Option.ite_none_right_eq_some] at h
    exact spanned.point h.2
  | compact x =>
    simp only [EncodedPoint.point?] at h
    split at h
    · rename_i P Q even uneven
      split at h
      · split_ifs at h
        · exact lifted (h ▸ even)
        · exact lifted (h ▸ uneven)
      · cases h
    · cases h

/-- Every scalar has a compressed public key of 33 bytes. -/
def HasPublicKeys (G : CurveGroup) : Prop :=
  ∀ n, isScalar G n = true → ∃ b, compress? G (publicPoint G n) = some b ∧ b.length = 33

theorem hasPublicKeys_of_lawful (lawful : G.Lawful) : HasPublicKeys G := by
  intro n scalar
  obtain ⟨b, -, compressed, width, -⟩ := exists_compress? lawful scalar
  exact ⟨b, compressed, width⟩

end CustodySigner.Ecdsa
