import CustodySigner.Derivation.Bip32
import CustodySigner.Proofs.Derivation.ExtendedKey
import CustodySigner.Proofs.Ecdsa.PublicKey
import CustodySigner.Proofs.Except

set_option autoImplicit false
set_option relaxedAutoImplicit false

/-!
Derivation by BIP-32. Whatever it gives is a scalar of 32 bytes, level by level; and as long as no
hash is one of the invalid ones, it gives a key down to the deepest level that there is.
-/

namespace CustodySigner

namespace Bip32

variable (mac : Bytes → Bytes → Bytes) (G : CurveGroup)

/-- On the way down from a key, no hash is an invalid one: each is a scalar, and none cancels the
secret key of the parent. -/
def MeetsNoInvalidHash (parent : ExtendedKey) : List PathComponent → Prop
  | [] => True
  | c :: rest =>
    (∀ data, childData? G parent c = some data →
      let hash := ExtendedKey.ofHash (mac parent.chainCode data)
      Ecdsa.isScalar G hash.scalar = true ∧ (hash.scalar + parent.scalar) % G.order ≠ 0) ∧
    ∀ child, child? mac G parent c = some child → MeetsNoInvalidHash child rest

/-- No hash from the seed down to the path is an invalid one. -/
def Regular (seed : Bytes) (path : KeyPath) : Prop :=
  let key := ExtendedKey.ofHash (mac label seed)
  Ecdsa.isScalar G key.scalar = true ∧ MeetsNoInvalidHash mac G key path.components

variable {mac G} {parent : ExtendedKey} {c : PathComponent}

theorem exists_childData? (lawful : G.Lawful) (usable : parent.Usable G) :
    ∃ data, childData? G parent c = some data := by
  unfold childData?
  by_cases hardened : c.hardened
  · exact ⟨_, by simp [hardened]; rfl⟩
  · obtain ⟨point, -, compressed, -⟩ := Ecdsa.exists_compress? lawful usable.2
    exact ⟨_, by simp [hardened, compressed]; rfl⟩

theorem usable_of_child? {child : ExtendedKey} (h : child? mac G parent c = some child) :
    child.Usable G := by
  unfold child? at h
  split at h
  · cases h
  · dsimp only at h
    split at h
    · rename_i valid
      obtain rfl := Option.some.inj h
      have nonzero := (Bool.and_eq_true_iff.1 valid).2
      exact ExtendedKey.usable_of_mod_ne_zero (by simpa using nonzero) _
    · cases h

theorem exists_child? (lawful : G.Lawful) (usable : parent.Usable G)
    (valid : ∀ data, childData? G parent c = some data →
      let hash := ExtendedKey.ofHash (mac parent.chainCode data)
      Ecdsa.isScalar G hash.scalar = true ∧ (hash.scalar + parent.scalar) % G.order ≠ 0) :
    ∃ child, child? mac G parent c = some child := by
  obtain ⟨data, hashed⟩ := exists_childData? (c := c) lawful usable
  obtain ⟨scalar, nonzero⟩ := valid data hashed
  have found : child? mac G parent c = some
      ⟨Bytes.ofNat 32 (((ExtendedKey.ofHash (mac parent.chainCode data)).scalar + parent.scalar) %
        G.order), (ExtendedKey.ofHash (mac parent.chainCode data)).chainCode⟩ := by
    simp [child?, hashed, scalar, nonzero]
  exact ⟨_, found⟩

theorem usable_of_descend {depth : Nat} {key : ExtendedKey} {l : List PathComponent}
    (usable : parent.Usable G) (h : descend mac G depth parent l = .ok key) : key.Usable G := by
  induction l generalizing depth parent with
  | nil =>
    obtain rfl := Except.ok.inj h
    exact usable
  | cons c rest ih =>
    unfold descend at h
    split at h
    · cases h
    · split at h
      · cases h
      · rename_i child found
        exact ih (usable_of_child? found) h

theorem depth_le_of_descend {depth : Nat} {key : ExtendedKey} {l : List PathComponent}
    (shallow : depth ≤ maximumDepth) (h : descend mac G depth parent l = .ok key) :
    depth + l.length ≤ maximumDepth := by
  induction l generalizing depth parent with
  | nil => simpa using shallow
  | cons c rest ih =>
    unfold descend at h
    split at h
    · cases h
    · rename_i above
      split at h
      · cases h
      · have deeper := ih (Nat.lt_of_le_of_ne shallow above) h
        rw [List.length_cons]
        omega

theorem exists_descend {depth : Nat} {l : List PathComponent} (lawful : G.Lawful)
    (usable : parent.Usable G) (regular : MeetsNoInvalidHash mac G parent l)
    (shallow : depth + l.length ≤ maximumDepth) :
    ∃ key, descend mac G depth parent l = .ok key := by
  induction l generalizing depth parent with
  | nil => exact ⟨parent, rfl⟩
  | cons c rest ih =>
    obtain ⟨valid, below⟩ := regular
    obtain ⟨child, found⟩ := exists_child? lawful usable valid
    rw [List.length_cons] at shallow
    have above : depth ≠ maximumDepth := by omega
    have deeper : depth + 1 + rest.length ≤ maximumDepth := by omega
    obtain ⟨key, reached⟩ := ih (usable_of_child? found) (below child found) deeper
    refine ⟨key, ?_⟩
    unfold descend
    rw [if_neg above, found]
    exact reached

/-- What is said of a path that goes below the deepest level. -/
def tooDeep : CurveError :=
  ⟨.derivationFailed, "BIP32 derivation: cannot derive child of depth 256 or higher"⟩

theorem descend_eq_error_of_deep {depth : Nat} {l : List PathComponent} (lawful : G.Lawful)
    (usable : parent.Usable G)
    (regular : MeetsNoInvalidHash mac G parent (l.take (maximumDepth - depth)))
    (shallow : depth ≤ maximumDepth) (deep : maximumDepth < depth + l.length) :
    descend mac G depth parent l = .error tooDeep := by
  induction l generalizing depth parent with
  | nil => exact absurd shallow (Nat.not_le.2 deep)
  | cons c rest ih =>
    unfold descend
    by_cases last : depth = maximumDepth
    · rw [if_pos last, tooDeep]
    · have levels : maximumDepth - depth = maximumDepth - (depth + 1) + 1 := by omega
      rw [levels, List.take_succ_cons] at regular
      obtain ⟨valid, below⟩ := regular
      obtain ⟨child, found⟩ := exists_child? lawful usable valid
      rw [List.length_cons] at deep
      rw [if_neg last, found]
      exact ih (usable_of_child? found) (below child found) (by omega) (by omega)

variable {seed : Bytes} {path : KeyPath}

theorem usable_master (length : ∀ key message, (mac key message).length = 64)
    {key : ExtendedKey} (h : master? mac G seed = some key) : key.Usable G := by
  unfold master? at h
  dsimp only at h
  split at h
  · rename_i scalar
    obtain rfl := Option.some.inj h
    exact ⟨ExtendedKey.length_key_ofHash (length _ _), scalar⟩
  · cases h

theorem derive_eq_ok_iff {bytes : Bytes} (inRange : badIndex? path.components = none) :
    derive mac G seed path = .ok bytes ↔ ∃ master key, master? mac G seed = some master ∧
      descend mac G 0 master path.components = .ok key ∧ key.key = bytes := by
  unfold derive
  cases found : master? mac G seed with
  | none => simp
  | some master => simp [inRange, map_eq_ok_iff]

theorem usable_of_derive (length : ∀ key message, (mac key message).length = 64) {bytes : Bytes}
    (inRange : badIndex? path.components = none) (h : derive mac G seed path = .ok bytes) :
    bytes.length = 32 ∧ Ecdsa.isScalar G (Bytes.toNat bytes) = true := by
  obtain ⟨master, key, found, reached, rfl⟩ := (derive_eq_ok_iff inRange).1 h
  exact usable_of_descend (usable_master length found) reached

theorem exists_derive_iff (length : ∀ key message, (mac key message).length = 64)
    (lawful : G.Lawful) (inRange : badIndex? path.components = none)
    (regular : Regular mac G seed path) :
    (∃ bytes, derive mac G seed path = .ok bytes) ↔ path.depth ≤ maximumDepth := by
  obtain ⟨scalar, below⟩ := regular
  constructor
  · rintro ⟨bytes, derived⟩
    obtain ⟨master, key, -, reached, -⟩ := (derive_eq_ok_iff inRange).1 derived
    have shallow := depth_le_of_descend (Nat.zero_le maximumDepth) reached
    rwa [Nat.zero_add] at shallow
  · intro shallow
    have found : master? mac G seed = some (ExtendedKey.ofHash (mac label seed)) := if_pos scalar
    obtain ⟨key, reached⟩ := exists_descend lawful (usable_master length found) below
      (by rwa [Nat.zero_add])
    exact ⟨key.key, (derive_eq_ok_iff inRange).2 ⟨_, key, found, reached, rfl⟩⟩

theorem derive_eq_error_of_deep (length : ∀ key message, (mac key message).length = 64)
    (lawful : G.Lawful) (inRange : badIndex? path.components = none)
    (regular : Regular mac G seed ⟨path.components.take maximumDepth⟩)
    (deep : maximumDepth < path.depth) :
    derive mac G seed path = .error tooDeep := by
  obtain ⟨scalar, below⟩ := regular
  have found : master? mac G seed = some (ExtendedKey.ofHash (mac label seed)) := if_pos scalar
  have failed := descend_eq_error_of_deep lawful (usable_master length found) below
    (Nat.zero_le maximumDepth) (by rwa [Nat.zero_add])
  unfold derive
  rw [found]
  simp only [inRange, failed]
  rfl

end Bip32

end CustodySigner
