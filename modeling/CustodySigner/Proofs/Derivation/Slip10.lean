import CustodySigner.Derivation.Slip10
import CustodySigner.Proofs.Derivation.ExtendedKey
import CustodySigner.Proofs.Scheme.Ecdsa

set_option autoImplicit false
set_option relaxedAutoImplicit false

/-!
Derivation by SLIP-0010. On secp256r1 it fails in no other way than that no hash gives a key: the key
of every level is a scalar, so that its public key exists and it is never out of range. On Ed25519 it
does not fail.
-/

namespace CustodySigner.Slip10

variable (mac : Bytes → Bytes → Bytes)

namespace Secp256r1

variable (G : CurveGroup) (attempts : Nat)

/-- The hash of each attempt at the master key. -/
def masterHash (code : Bytes) : (attempt : Nat) → ExtendedKey
  | 0 => ExtendedKey.ofHash code
  | attempt + 1 => masterHash (mac label code) attempt

/-- The hash of each attempt at a child. -/
def childHash (chainCode : Bytes) (index : UInt32) (data : Bytes) : (attempt : Nat) → ExtendedKey
  | 0 => ExtendedKey.ofHash (mac chainCode data)
  | attempt + 1 =>
    childHash chainCode index
      (1 :: (ExtendedKey.ofHash (mac chainCode data)).chainCode ++ indexBytes index) attempt

/-- The hash gives a child: it is below the order and does not cancel the parent's key. -/
def GivesChild (parent : Nat) (hash : ExtendedKey) : Prop :=
  hash.scalar < G.order ∧ (hash.scalar + parent) % G.order ≠ 0

/-- On the way down from a key, one of the hashes of every level gives a child. -/
def RetriesEndBelow (parent : ExtendedKey) : List PathComponent → Prop
  | [] => True
  | c :: rest =>
    (∀ data, childData G parent c = .ok data → ∃ attempt < attempts,
      GivesChild G parent.scalar (childHash mac parent.chainCode c.fullIndex data attempt)) ∧
    ∀ child, Secp256r1.child mac G attempts parent c = .ok child → RetriesEndBelow child rest

/-- Every loop of the derivation ends: some hash gives the master key, and one on every level gives
a child. -/
def RetriesEnd (seed : Bytes) (path : KeyPath) : Prop :=
  (∃ attempt < attempts,
    Ecdsa.isScalar G (masterHash mac (mac label seed) attempt).scalar = true) ∧
  ∀ key, master? mac G attempts (mac label seed) = some key →
    RetriesEndBelow mac G attempts key path.components

variable {mac G attempts} {parent : ExtendedKey} {c : PathComponent}

theorem exists_master?_iff {n : Nat} {code : Bytes} :
    (∃ key, master? mac G n code = some key) ↔
      ∃ attempt < n, Ecdsa.isScalar G (masterHash mac code attempt).scalar = true := by
  induction n generalizing code with
  | zero => simp [master?]
  | succ n ih =>
    rw [Nat.exists_lt_succ_left]
    by_cases scalar : Ecdsa.isScalar G (ExtendedKey.ofHash code).scalar = true
    · simp [master?, masterHash, scalar]
    · simp only [master?, masterHash, if_neg scalar, ih]
      simp [scalar]

theorem child?_of_givesChild {n value : Nat} {chainCode data : Bytes} {index : UInt32}
    (gives : GivesChild G value (ExtendedKey.ofHash (mac chainCode data))) :
    child? mac G value chainCode index (n + 1) data =
      some ⟨Bytes.ofNat 32 (((ExtendedKey.ofHash (mac chainCode data)).scalar + value) % G.order),
        (ExtendedKey.ofHash (mac chainCode data)).chainCode⟩ := by
  rw [child?]
  exact if_pos (by simpa [GivesChild] using gives)

theorem child?_of_not_givesChild {n value : Nat} {chainCode data : Bytes} {index : UInt32}
    (gives : ¬ GivesChild G value (ExtendedKey.ofHash (mac chainCode data))) :
    child? mac G value chainCode index (n + 1) data = child? mac G value chainCode index n
      (1 :: (ExtendedKey.ofHash (mac chainCode data)).chainCode ++ indexBytes index) := by
  rw [child?]
  exact if_neg (by simpa [GivesChild] using gives)

theorem exists_child?_iff {n value : Nat} {chainCode data : Bytes} {index : UInt32} :
    (∃ key, child? mac G value chainCode index n data = some key) ↔
      ∃ attempt < n, GivesChild G value (childHash mac chainCode index data attempt) := by
  induction n generalizing data with
  | zero => simp [child?]
  | succ n ih =>
    rw [Nat.exists_lt_succ_left]
    by_cases gives : GivesChild G value (ExtendedKey.ofHash (mac chainCode data))
    · simp [child?_of_givesChild gives, childHash, gives]
    · simp only [child?_of_not_givesChild gives, childHash, ih, gives, false_or]

theorem usable_of_master? (length : ∀ key message, (mac key message).length = 64) {n : Nat}
    {code : Bytes} {key : ExtendedKey} (size : code.length = 64)
    (h : master? mac G n code = some key) : key.Usable G := by
  induction n generalizing code with
  | zero => cases h
  | succ n ih =>
    rw [master?] at h
    split at h
    · rename_i scalar
      obtain rfl := Option.some.inj h
      exact ⟨ExtendedKey.length_key_ofHash size, scalar⟩
    · exact ih (length _ _) h

theorem usable_of_child? {n value : Nat} {chainCode data : Bytes} {index : UInt32}
    {key : ExtendedKey} (h : child? mac G value chainCode index n data = some key) :
    key.Usable G := by
  induction n generalizing data with
  | zero => cases h
  | succ n ih =>
    rw [child?] at h
    split at h
    · rename_i valid
      obtain rfl := Option.some.inj h
      have nonzero := (Bool.and_eq_true_iff.1 valid).2
      exact ExtendedKey.usable_of_mod_ne_zero (by simpa using nonzero) _
    · exact ih h

theorem exists_childData (keys : Ecdsa.HasPublicKeys G) (usable : parent.Usable G) :
    ∃ data, childData G parent c = .ok data := by
  unfold childData
  split
  · exact ⟨_, rfl⟩
  · obtain ⟨size, scalar⟩ := usable
    obtain ⟨key, compressed, -⟩ := keys _ scalar
    have published : Scheme.Secp256r1.publicKey G parent.key = .ok key :=
      bind_eq_ok_iff.2 ⟨_, Scheme.ecdsaSecret_eq_ok_iff.2 ⟨size, rfl, scalar⟩,
        Scheme.compressed_eq_ok compressed⟩
    exact ⟨_, bind_eq_ok_iff.2 ⟨key, published, rfl⟩⟩

theorem child_of_usable (usable : parent.Usable G) :
    Secp256r1.child mac G attempts parent c = childData G parent c >>= fun data =>
      match child? mac G parent.scalar parent.chainCode c.fullIndex attempts data with
      | some key => .ok key
      | none => .error exhausted := by
  have inRange : ¬ G.order ≤ parent.scalar := Nat.not_le.2 (Ecdsa.isScalar_iff.1 usable.2).2
  unfold Secp256r1.child
  dsimp only
  rw [if_neg inRange]
  rfl

theorem child_eq_ok_iff (usable : parent.Usable G) {child : ExtendedKey} :
    Secp256r1.child mac G attempts parent c = .ok child ↔ ∃ data, childData G parent c = .ok data ∧
      child? mac G parent.scalar parent.chainCode c.fullIndex attempts data = some child := by
  rw [child_of_usable usable, bind_eq_ok_iff]
  refine exists_congr fun data => and_congr_right fun _ => ?_
  cases child? mac G parent.scalar parent.chainCode c.fullIndex attempts data <;> simp

theorem child_eq_error (keys : Ecdsa.HasPublicKeys G) (usable : parent.Usable G) {e : CurveError}
    (h : Secp256r1.child mac G attempts parent c = .error e) : e = exhausted := by
  rw [child_of_usable usable] at h
  obtain ⟨data, hashed⟩ := exists_childData (c := c) keys usable
  rw [hashed] at h
  rcases bind_eq_error_iff.1 h with impossible | ⟨_, -, failed⟩
  · cases impossible
  · split at failed
    · cases failed
    · exact (Except.error.inj failed).symm

theorem usable_of_child (usable : parent.Usable G) {child : ExtendedKey}
    (h : Secp256r1.child mac G attempts parent c = .ok child) : child.Usable G := by
  obtain ⟨data, -, found⟩ := (child_eq_ok_iff usable).1 h
  exact usable_of_child? found

theorem usable_of_descent {l : List PathComponent} {key : ExtendedKey} (usable : parent.Usable G)
    (h : l.foldlM (Secp256r1.child mac G attempts) parent = .ok key) : key.Usable G := by
  induction l generalizing parent with
  | nil =>
    obtain rfl := Except.ok.inj h
    exact usable
  | cons c rest ih =>
    rw [List.foldlM_cons] at h
    obtain ⟨child, found, h⟩ := bind_eq_ok_iff.1 h
    exact ih (usable_of_child usable found) h

theorem exists_descent_iff (lawful : G.Lawful) {l : List PathComponent}
    (usable : parent.Usable G) :
    (∃ key, l.foldlM (Secp256r1.child mac G attempts) parent = .ok key) ↔ RetriesEndBelow mac G attempts parent l := by
  induction l generalizing parent with
  | nil => exact iff_of_true ⟨parent, rfl⟩ trivial
  | cons c rest ih =>
    rw [List.foldlM_cons]
    constructor
    · rintro ⟨key, h⟩
      obtain ⟨child, found, reached⟩ := bind_eq_ok_iff.1 h
      obtain ⟨data, hashed, looped⟩ := (child_eq_ok_iff usable).1 found
      -- there is one choice of data and one child, which are those that were found
      refine ⟨fun data' hashed' => ?_, fun child' found' => ?_⟩
      · obtain rfl := Except.ok.inj (hashed.symm.trans hashed')
        exact exists_child?_iff.1 ⟨child, looped⟩
      · obtain rfl := Except.ok.inj (found.symm.trans found')
        exact (ih (usable_of_child usable found)).1 ⟨key, reached⟩
    · rintro ⟨loops, below⟩
      obtain ⟨data, hashed⟩ := exists_childData (c := c) (Ecdsa.hasPublicKeys_of_lawful lawful) usable
      obtain ⟨child, looped⟩ := exists_child?_iff.2 (loops data hashed)
      have found := (child_eq_ok_iff usable).2 ⟨data, hashed, looped⟩
      obtain ⟨key, reached⟩ := (ih (usable_of_child usable found)).2 (below child found)
      exact ⟨key, bind_eq_ok_iff.2 ⟨child, found, reached⟩⟩

variable {seed : Bytes} {path : KeyPath}

theorem derive_eq_ok_iff {bytes : Bytes} :
    derive mac G attempts seed path = .ok bytes ↔ ∃ master key,
      master? mac G attempts (mac label seed) = some master ∧
      path.components.foldlM (Secp256r1.child mac G attempts) master = .ok key ∧ key.key = bytes := by
  unfold derive
  cases found : master? mac G attempts (mac label seed) with
  | none => simp
  | some master => simp [map_eq_ok_iff]

theorem usable_of_derive (length : ∀ key message, (mac key message).length = 64) {bytes : Bytes}
    (h : derive mac G attempts seed path = .ok bytes) :
    bytes.length = 32 ∧ Ecdsa.isScalar G (Bytes.toNat bytes) = true := by
  obtain ⟨master, key, found, reached, rfl⟩ := derive_eq_ok_iff.1 h
  exact usable_of_descent (usable_of_master? length (length _ _) found) reached

/-- There is a key at a path if and only if the loops end. -/
theorem exists_derive_iff (length : ∀ key message, (mac key message).length = 64)
    (lawful : G.Lawful) :
    (∃ bytes, derive mac G attempts seed path = .ok bytes) ↔ RetriesEnd mac G attempts seed path := by
  have usable {key : ExtendedKey} (found : master? mac G attempts (mac label seed) = some key) :
      key.Usable G := usable_of_master? length (length _ _) found
  constructor
  · rintro ⟨bytes, derived⟩
    obtain ⟨master, key, found, reached, -⟩ := derive_eq_ok_iff.1 derived
    refine ⟨exists_master?_iff.1 ⟨master, found⟩, fun master' found' => ?_⟩
    obtain rfl := Option.some.inj (found.symm.trans found')
    exact (exists_descent_iff lawful (usable found)).1 ⟨key, reached⟩
  · rintro ⟨loops, below⟩
    obtain ⟨master, found⟩ := exists_master?_iff.2 loops
    obtain ⟨key, reached⟩ := (exists_descent_iff lawful (usable found)).2 (below master found)
    exact ⟨key.key, derive_eq_ok_iff.2 ⟨master, key, found, reached, rfl⟩⟩

end Secp256r1

theorem Ed25519.length_derive {mac : Bytes → Bytes → Bytes}
    (length : ∀ key message, (mac key message).length = 64) (seed : Bytes) (path : KeyPath) :
    (derive mac seed path).length = 32 := by
  have below (l : List PathComponent) (key : ExtendedKey) (size : key.key.length = 32) :
      (l.foldl (child mac) key).key.length = 32 := by
    induction l generalizing key with
    | nil => exact size
    | cons c rest ih => exact ih _ (ExtendedKey.length_key_ofHash (length _ _))
  exact below _ _ (ExtendedKey.length_key_ofHash (length _ _))

end CustodySigner.Slip10
