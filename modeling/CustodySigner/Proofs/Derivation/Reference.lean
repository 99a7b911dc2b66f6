import CustodySigner.Proofs.Derivation.Slip10
import CustodySigner.Proofs.Group.Standard

set_option autoImplicit false
set_option relaxedAutoImplicit false

/-!
Derivation on secp256r1 against SLIP-0010. The reference replaces a hash that gives no key as often as
it takes; the derivation does so up to a bound. At every bound the two agree on each key that the bound
reaches, and to run out of attempts is the only way to fail.
-/

namespace CustodySigner.Slip10.Secp256r1

namespace Reference

/-- A secret key as a number, and its chain code. -/
structure Node where
  secret : Nat
  chainCode : Bytes

def left (hash : Bytes) : Nat :=
  Bytes.toNat (hash.take 32)

def right (hash : Bytes) : Bytes :=
  hash.drop 32

def masterLabel : Bytes :=
  Bytes.ofText "Nist256p1 seed"

variable (mac : Bytes → Bytes → Bytes) (G : CurveGroup)

/-- The master key that a hash leads to, and how often it was hashed again. -/
inductive Master : (hash : Bytes) → (retries : Nat) → Node → Prop
  | key {hash : Bytes} (positive : 0 < left hash) (below : left hash < G.order) :
      Master hash 0 ⟨left hash, right hash⟩
  | again {hash : Bytes} {retries : Nat} {node : Node}
      (unfit : left hash = 0 ∨ G.order ≤ left hash)
      (later : Master (mac masterLabel hash) retries node) : Master hash (retries + 1) node

/-- What is hashed first for a child. -/
inductive Data (parent : Node) : PathComponent → Bytes → Prop
  | hardened {c : PathComponent} (marked : c.hardened = true) :
      Data parent c (0 :: Bytes.ofNat 32 parent.secret ++ Bytes.ofNat 4 c.fullIndex.toNat)
  | normal {c : PathComponent} {point : Bytes} (unmarked : c.hardened = false)
      (published : Ecdsa.compress? G (Ecdsa.publicPoint G parent.secret) = some point) :
      Data parent c (point ++ Bytes.ofNat 4 c.fullIndex.toNat)

/-- The child that data lead to under the parent's chain code, and how often they were replaced. -/
inductive Child (parent : Node) (index : Nat) : (data : Bytes) → (retries : Nat) → Node → Prop
  | key {data : Bytes} (below : left (mac parent.chainCode data) < G.order)
      (nonzero : (left (mac parent.chainCode data) + parent.secret) % G.order ≠ 0) :
      Child parent index data 0 ⟨(left (mac parent.chainCode data) + parent.secret) % G.order,
        right (mac parent.chainCode data)⟩
  | again {data : Bytes} {retries : Nat} {node : Node}
      (unfit : G.order ≤ left (mac parent.chainCode data) ∨
        (left (mac parent.chainCode data) + parent.secret) % G.order = 0)
      (later : Child parent index
        (1 :: right (mac parent.chainCode data) ++ Bytes.ofNat 4 index) retries node) :
      Child parent index data (retries + 1) node

/-- The key at the levels below a seed, with the retries that each level took, the master key's
first. -/
inductive Derives (seed : Bytes) : List PathComponent → (retries : List Nat) → Node → Prop
  | master {retries : Nat} {node : Node} (found : Master mac G (mac masterLabel seed) retries node) :
      Derives seed [] [retries] node
  | child {above : List PathComponent} {before : List Nat} {parent node : Node} {c : PathComponent}
      {data : Bytes} {retries : Nat} (reached : Derives seed above before parent)
      (hashed : Data G parent c data)
      (found : Child mac G parent c.fullIndex.toNat data retries node) :
      Derives seed (above ++ [c]) (before ++ [retries]) node

/-- The secret key is a scalar. -/
def Node.InRange (node : Node) : Prop :=
  0 < node.secret ∧ node.secret < G.order

/-- The node with its secret key in 32 bytes. -/
def Node.extended (node : Node) : ExtendedKey :=
  ⟨Bytes.ofNat 32 node.secret, node.chainCode⟩

variable {mac G} {seed : Bytes} {node : Node}

theorem Master.inRange {hash : Bytes} {retries : Nat} (h : Master mac G hash retries node) :
    node.InRange G := by
  induction h with
  | key positive below => exact ⟨positive, below⟩
  | again _ _ ih => exact ih

theorem Child.inRange {parent : Node} {index retries : Nat} {data : Bytes}
    (h : Child mac G parent index data retries node) : node.InRange G := by
  induction h with
  | key _ nonzero =>
    exact ⟨Nat.pos_of_ne_zero nonzero, Nat.mod_lt _ (Nat.zero_lt_of_lt G.one_lt_order)⟩
  | again _ _ ih => exact ih

theorem Derives.inRange {l : List PathComponent} {retries : List Nat}
    (h : Derives mac G seed l retries node) : node.InRange G := by
  cases h with
  | master found => exact found.inRange
  | child _ _ found => exact found.inRange

theorem derives_nil_iff {counts : List Nat} :
    Derives mac G seed [] counts node ↔
      ∃ retries, counts = [retries] ∧ Master mac G (mac masterLabel seed) retries node := by
  constructor
  · intro h
    generalize levels : ([] : List PathComponent) = l at h
    cases h with
    | master found => exact ⟨_, rfl, found⟩
    | child _ _ _ => cases List.append_ne_nil_of_right_ne_nil _ (List.cons_ne_nil _ _) levels.symm
  · rintro ⟨retries, rfl, found⟩
    exact .master found

theorem derives_append_iff {l : List PathComponent} {c : PathComponent} {counts : List Nat} :
    Derives mac G seed (l ++ [c]) counts node ↔ ∃ before parent data retries,
      counts = before ++ [retries] ∧ Derives mac G seed l before parent ∧ Data G parent c data ∧
        Child mac G parent c.fullIndex.toNat data retries node := by
  constructor
  · intro h
    generalize levels : l ++ [c] = all at h
    cases h with
    | master _ => cases List.append_ne_nil_of_right_ne_nil _ (List.cons_ne_nil _ _) levels
    | child reached hashed found =>
      obtain ⟨rfl, same⟩ := List.append_inj' levels rfl
      obtain rfl := List.singleton_inj.1 same
      exact ⟨_, _, _, _, rfl, reached, hashed, found⟩
  · rintro ⟨before, parent, data, retries, rfl, reached, hashed, found⟩
    exact .child reached hashed found

theorem Node.InRange.scalar_extended (h : node.InRange G) :
    node.extended.scalar = node.secret :=
  Bytes.toNat_ofNat_32 (lt_of_lt_of_le h.2 G.order_le)

theorem Node.InRange.usable_extended (h : node.InRange G) : node.extended.Usable G := by
  refine ⟨Bytes.length_ofNat 32 _, ?_⟩
  rw [h.scalar_extended]
  exact Ecdsa.isScalar_iff.2 h

end Reference

open Reference (Node Master Data Child Derives)

variable (mac : Bytes → Bytes → Bytes) (G : CurveGroup)

/-- The master key of a seed. -/
def master (attempts : Nat) (seed : Bytes) : Except CurveError ExtendedKey :=
  match master? mac G attempts (mac label seed) with
  | some key => .ok key
  | none => .error exhausted

/-- The key with its chain code at some levels below a seed. -/
def keyAt (attempts : Nat) (seed : Bytes) (l : List PathComponent) :
    Except CurveError ExtendedKey :=
  master mac G attempts seed >>= l.foldlM (child mac G attempts)

variable {mac G} {attempts : Nat} {seed : Bytes} {key : ExtendedKey}

theorem derive_eq_keyAt (path : KeyPath) :
    derive mac G attempts seed path = (keyAt mac G attempts seed path.components).map (·.key) := by
  unfold derive keyAt master
  cases master? mac G attempts (mac label seed) with
  | none => rfl
  | some key => rfl

private theorem extended_halves {hash : Bytes} (size : hash.length = 64) :
    (⟨Reference.left hash, Reference.right hash⟩ : Node).extended = ExtendedKey.ofHash hash := by
  have width : (hash.take 32).length = 32 := by simp [size]
  have written := Bytes.ofNat_toNat (hash.take 32)
  rw [width] at written
  rw [Node.extended, Reference.left, written, ExtendedKey.ofHash, Reference.right]

theorem master?_eq_some_iff (length : ∀ key message, (mac key message).length = 64) {hash : Bytes}
    (size : hash.length = 64) :
    master? mac G attempts hash = some key ↔
      ∃ retries node, Master mac G hash retries node ∧ retries < attempts ∧ node.extended = key := by
  induction attempts generalizing hash with
  | zero => simp [master?]
  | succ attempts ih =>
    by_cases fit : Ecdsa.isScalar G (Reference.left hash) = true
    · have found : master? mac G (attempts + 1) hash = some (ExtendedKey.ofHash hash) := if_pos fit
      obtain ⟨positive, below⟩ := Ecdsa.isScalar_iff.1 fit
      rw [found, Option.some_inj]
      constructor
      · rintro rfl
        exact ⟨0, _, .key positive below, Nat.succ_pos attempts, extended_halves size⟩
      · rintro ⟨retries, node, reached, -, rfl⟩
        cases reached with
        | key _ _ => exact (extended_halves size).symm
        | again unfit _ => omega
    · have later : master? mac G (attempts + 1) hash =
          master? mac G attempts (mac label hash) := if_neg fit
      rw [later, ih (length _ _)]
      have range : ¬ (0 < Reference.left hash ∧ Reference.left hash < G.order) :=
        mt Ecdsa.isScalar_iff.2 fit
      constructor
      · rintro ⟨retries, node, reached, within, rfl⟩
        exact ⟨retries + 1, node, .again (by omega) reached, Nat.succ_lt_succ within, rfl⟩
      · rintro ⟨retries, node, reached, within, rfl⟩
        cases reached with
        | key positive below => exact absurd ⟨positive, below⟩ range
        | again _ reached => exact ⟨_, node, reached, Nat.lt_of_succ_lt_succ within, rfl⟩

theorem child?_eq_some_iff {parent : Node} {index : UInt32} {data : Bytes} :
    child? mac G parent.secret parent.chainCode index attempts data = some key ↔
      ∃ retries node, Child mac G parent index.toNat data retries node ∧ retries < attempts ∧
        node.extended = key := by
  induction attempts generalizing data with
  | zero => simp [child?]
  | succ attempts ih =>
    by_cases fit : GivesChild G parent.secret (ExtendedKey.ofHash (mac parent.chainCode data))
    · rw [child?_of_givesChild fit, Option.some_inj]
      obtain ⟨below, nonzero⟩ := fit
      constructor
      · rintro rfl
        exact ⟨0, _, .key below nonzero, Nat.succ_pos attempts, rfl⟩
      · rintro ⟨retries, node, reached, -, rfl⟩
        cases reached with
        | key _ _ => rfl
        | again unfit _ => exact absurd unfit (not_or.2 ⟨Nat.not_le.2 below, nonzero⟩)
    · rw [child?_of_not_givesChild fit]
      have unfit : G.order ≤ Reference.left (mac parent.chainCode data) ∨
          (Reference.left (mac parent.chainCode data) + parent.secret) % G.order = 0 := by
        by_contra fits
        obtain ⟨below, nonzero⟩ := not_or.1 fits
        exact fit ⟨Nat.lt_of_not_le below, nonzero⟩
      constructor
      · intro found
        obtain ⟨retries, node, reached, within, rfl⟩ := ih.1 found
        exact ⟨retries + 1, node, .again unfit reached, Nat.succ_lt_succ within, rfl⟩
      · rintro ⟨retries, node, reached, within, rfl⟩
        cases reached with
        | key below nonzero => exact absurd ⟨below, nonzero⟩ fit
        | again _ reached =>
          exact ih.2 ⟨_, node, reached, Nat.lt_of_succ_lt_succ within, rfl⟩

private theorem publicKey_eq_ok_iff {parent : Node} {point : Bytes} (inRange : parent.InRange G) :
    Scheme.Secp256r1.publicKey G parent.extended.key = .ok point ↔
      Ecdsa.compress? G (Ecdsa.publicPoint G parent.secret) = some point := by
  have secret : Scheme.Secp256r1.secret G parent.extended.key = .ok parent.secret :=
    Scheme.ecdsaSecret_eq_ok_iff.2
      ⟨inRange.usable_extended.1, inRange.scalar_extended, Ecdsa.isScalar_iff.2 inRange⟩
  have computed : Scheme.Secp256r1.publicKey G parent.extended.key =
      Scheme.compressed G (Ecdsa.publicPoint G parent.secret) := by
    unfold Scheme.Secp256r1.publicKey
    rw [secret]
    rfl
  rw [computed, Scheme.compressed]
  cases Ecdsa.compress? G (Ecdsa.publicPoint G parent.secret) <;> simp

theorem childData_eq_ok_iff {parent : Node} {c : PathComponent} {data : Bytes}
    (inRange : parent.InRange G) :
    childData G parent.extended c = .ok data ↔ Data G parent c data := by
  cases marked : c.hardened with
  | true =>
    have made : childData G parent.extended c =
        .ok (0 :: parent.extended.key ++ indexBytes c.fullIndex) := by
      unfold childData
      rw [marked]
      rfl
    rw [made, Except.ok.injEq]
    constructor
    · rintro rfl
      exact .hardened marked
    · intro hashed
      cases hashed with
      | hardened _ => rfl
      | normal unmarked _ => cases marked.symm.trans unmarked
  | false =>
    have made : childData G parent.extended c =
        Scheme.Secp256r1.publicKey G parent.extended.key >>= fun point =>
          .ok (point ++ indexBytes c.fullIndex) := by
      unfold childData
      rw [marked]
      rfl
    rw [made, bind_eq_ok_iff]
    constructor
    · rintro ⟨point, computed, same⟩
      obtain rfl := Except.ok.inj same
      exact .normal marked ((publicKey_eq_ok_iff inRange).1 computed)
    · intro hashed
      cases hashed with
      | hardened other => cases marked.symm.trans other
      | normal _ published => exact ⟨_, (publicKey_eq_ok_iff inRange).2 published, rfl⟩

section Level

variable {parent : Node} {c : PathComponent}

theorem child_extended_eq_ok_iff (inRange : parent.InRange G) :
    child mac G attempts parent.extended c = .ok key ↔ ∃ data retries node,
      Data G parent c data ∧ Child mac G parent c.fullIndex.toNat data retries node ∧
        retries < attempts ∧ node.extended = key := by
  rw [child_eq_ok_iff inRange.usable_extended]
  refine exists_congr fun data => ?_
  rw [childData_eq_ok_iff inRange, inRange.scalar_extended]
  constructor
  · rintro ⟨hashed, found⟩
    obtain ⟨retries, node, reached⟩ := child?_eq_some_iff.1 found
    exact ⟨retries, node, hashed, reached⟩
  · rintro ⟨retries, node, hashed, reached⟩
    exact ⟨hashed, child?_eq_some_iff.2 ⟨retries, node, reached⟩⟩

end Level

section Path

variable {l : List PathComponent} {c : PathComponent}

theorem keyAt_append {more : List PathComponent} :
    keyAt mac G attempts seed (l ++ more) =
      keyAt mac G attempts seed l >>= more.foldlM (child mac G attempts) := by
  unfold keyAt
  rw [bind_assoc]
  refine bind_congr fun master => ?_
  rw [List.foldlM_append]

theorem keyAt_append_singleton :
    keyAt mac G attempts seed (l ++ [c]) =
      keyAt mac G attempts seed l >>= fun key => child mac G attempts key c := by
  rw [keyAt_append]
  refine bind_congr fun parent => ?_
  rw [List.foldlM_cons]
  exact bind_pure _

theorem keyAt_nil : keyAt mac G attempts seed [] = master mac G attempts seed :=
  bind_pure _

theorem master_eq_ok_iff (length : ∀ key message, (mac key message).length = 64) :
    master mac G attempts seed = .ok key ↔ ∃ retries node,
      Master mac G (mac label seed) retries node ∧ retries < attempts ∧ node.extended = key := by
  rw [← master?_eq_some_iff length (length _ _), master]
  cases master? mac G attempts (mac label seed) <;> simp

/-- The keys that a bound reaches are those of the reference whose levels take no more attempts. -/
theorem keyAt_eq_ok_iff (length : ∀ key message, (mac key message).length = 64) :
    keyAt mac G attempts seed l = .ok key ↔ ∃ counts node, Derives mac G seed l counts node ∧
      (∀ retries ∈ counts, retries < attempts) ∧ node.extended = key := by
  induction l using List.reverseRecOn generalizing key with
  | nil =>
    rw [keyAt_nil, master_eq_ok_iff length]
    simp only [Reference.derives_nil_iff]
    constructor
    · rintro ⟨retries, node, found, within, same⟩
      exact ⟨[retries], node, ⟨retries, rfl, found⟩, by simpa using within, same⟩
    · rintro ⟨_, node, ⟨retries, rfl, found⟩, within, same⟩
      exact ⟨retries, node, found, within retries List.mem_cons_self, same⟩
  | append_singleton l c ih =>
    rw [keyAt_append_singleton, bind_eq_ok_iff]
    simp only [Reference.derives_append_iff]
    constructor
    · rintro ⟨parentKey, made, found⟩
      obtain ⟨before, parent, reached, within, rfl⟩ := ih.1 made
      obtain ⟨data, retries, node, hashed, found, last, same⟩ :=
        (child_extended_eq_ok_iff reached.inRange).1 found
      refine ⟨before ++ [retries], node,
        ⟨before, parent, data, retries, rfl, reached, hashed, found⟩, ?_, same⟩
      rw [List.forall_mem_append, List.forall_mem_singleton]
      exact ⟨within, last⟩
    · rintro ⟨_, node, ⟨before, parent, data, retries, rfl, reached, hashed, found⟩, within, same⟩
      rw [List.forall_mem_append, List.forall_mem_singleton] at within
      exact ⟨parent.extended, ih.2 ⟨before, parent, reached, within.1, rfl⟩,
        (child_extended_eq_ok_iff reached.inRange).2
          ⟨data, retries, node, hashed, found, within.2, same⟩⟩

theorem keyAt_eq_error (length : ∀ key message, (mac key message).length = 64)
    (keys : Ecdsa.HasPublicKeys G) {e : CurveError}
    (h : keyAt mac G attempts seed l = .error e) : e = exhausted := by
  induction l using List.reverseRecOn with
  | nil =>
    rw [keyAt_nil, master] at h
    split at h
    · cases h
    · exact (Except.error.inj h).symm
  | append_singleton l c ih =>
    rw [keyAt_append_singleton] at h
    -- the level above has a key in range, so that only the loop of this one can fail
    rcases bind_eq_error_iff.1 h with failed | ⟨parentKey, made, failed⟩
    · exact ih failed
    · obtain ⟨before, parent, reached, -, rfl⟩ := (keyAt_eq_ok_iff length).1 made
      exact child_eq_error keys reached.inRange.usable_extended failed

theorem exists_keyAt_take (h : keyAt mac G attempts seed l = .ok key) (level : Nat) :
    ∃ above, keyAt mac G attempts seed (l.take level) = .ok above := by
  rw [← List.take_append_drop level l, keyAt_append] at h
  obtain ⟨above, reached, -⟩ := bind_eq_ok_iff.1 h
  exact ⟨above, reached⟩

end Path

theorem derive_eq_ok_iff_keyAt {path : KeyPath} {bytes : Bytes} :
    derive mac G attempts seed path = .ok bytes ↔
      ∃ key, keyAt mac G attempts seed path.components = .ok key ∧ key.key = bytes := by
  rw [derive_eq_keyAt, map_eq_ok_iff]

/-- Derivation follows SLIP-0010. Whatever the number of attempts that its loops may make, it gives the
key of the reference as soon as no level takes more of them, with a key of 32 bytes in range at every
level, and otherwise it runs out of attempts: no parent is out of range, and none lacks a public key. -/
theorem derives_reference_key (length : ∀ key message, (mac key message).length = 64)
    (keys : Ecdsa.HasPublicKeys G) (attempts : Nat) (seed : Bytes) (path : KeyPath) :
    (∀ bytes, derive mac G attempts seed path = .ok bytes ↔ ∃ counts node,
      Derives mac G seed path.components counts node ∧ (∀ retries ∈ counts, retries < attempts) ∧
        bytes = Bytes.ofNat 32 node.secret) ∧
    (∀ e, derive mac G attempts seed path = .error e → e = exhausted) ∧
    ∀ bytes, derive mac G attempts seed path = .ok bytes → ∀ level, ∃ above,
      derive mac G attempts seed ⟨path.components.take level⟩ = .ok above ∧
        above.length = 32 ∧ 0 < Bytes.toNat above ∧ Bytes.toNat above < G.order := by
  refine ⟨fun bytes => ?_, fun e failed => ?_, fun bytes derived level => ?_⟩
  · rw [derive_eq_ok_iff_keyAt]
    constructor
    · rintro ⟨key, made, rfl⟩
      obtain ⟨counts, node, reached, within, rfl⟩ := (keyAt_eq_ok_iff length).1 made
      exact ⟨counts, node, reached, within, rfl⟩
    · rintro ⟨counts, node, reached, within, rfl⟩
      exact ⟨node.extended, (keyAt_eq_ok_iff length).2 ⟨counts, node, reached, within, rfl⟩, rfl⟩
  · rw [derive_eq_keyAt, map_eq_error_iff] at failed
    exact keyAt_eq_error length keys failed
  · obtain ⟨key, made, -⟩ := derive_eq_ok_iff_keyAt.1 derived
    obtain ⟨above, made⟩ := exists_keyAt_take made level
    obtain ⟨_, node, reached, -, rfl⟩ := (keyAt_eq_ok_iff length).1 made
    obtain ⟨size, scalar⟩ := reached.inRange.usable_extended
    exact ⟨node.extended.key, derive_eq_ok_iff_keyAt.2 ⟨_, made, rfl⟩, size,
      Ecdsa.isScalar_iff.1 scalar⟩

/-- A keyed hash that gives no key at the first attempt and the number seven at the second. -/
def rejectingMac (_key message : Bytes) : Bytes :=
  if message.head? = some 1 ∨ message.length = 64 then Bytes.ofNat 32 7 ++ List.replicate 32 9
  else List.replicate 64 0xff

/-- The compressed public key of the number fourteen. -/
def fourteenPoint : Bytes :=
  3 :: Bytes.ofNat 32 0x54e77a001c3862b97a76647f4336df3cf126acbe7a069c5e5709277324d2920b

/-- With two attempts every level comes to its key, and with one not even the master key does. -/
theorem derives_reference_key_retried :
    derive rejectingMac secp256r1.group 2 [] ⟨[⟨0, true⟩, ⟨1, false⟩]⟩ = .ok (Bytes.ofNat 32 21) ∧
      derive rejectingMac secp256r1.group 1 [] ⟨[⟨0, true⟩, ⟨1, false⟩]⟩ = .error exhausted := by
  have length (key message : Bytes) : (rejectingMac key message).length = 64 := by
    unfold rejectingMac
    split <;> simp
  have theory (attempts : Nat) := derives_reference_key length
    (Ecdsa.hasPublicKeys_of_lawful lawful_secp256r1) attempts [] ⟨[⟨0, true⟩, ⟨1, false⟩]⟩
  have master : Derives rejectingMac secp256r1.group [] [] [1] ⟨7, List.replicate 32 9⟩ :=
    .master (.again (.inr (by decide +kernel)) (.key (by decide +kernel) (by decide +kernel)))
  have hardened : Derives rejectingMac secp256r1.group [] [⟨0, true⟩] [1, 1]
      ⟨14, List.replicate 32 9⟩ :=
    .child master (.hardened rfl)
      (.again (.inl (by decide +kernel)) (.key (by decide +kernel) (by decide +kernel)))
  have point : Ecdsa.compress? secp256r1.group (Ecdsa.publicPoint secp256r1.group 14) =
      some fourteenPoint := by decide +kernel
  have normal : Derives rejectingMac secp256r1.group [] [⟨0, true⟩, ⟨1, false⟩] [1, 1, 1]
      ⟨21, List.replicate 32 9⟩ :=
    .child hardened (.normal rfl point)
      (.again (.inl (by decide +kernel)) (.key (by decide +kernel) (by decide +kernel)))
  refine ⟨((theory 2).1 _).2 ⟨_, _, normal, by decide, rfl⟩, ?_⟩
  have stuck : master? rejectingMac secp256r1.group 1 (rejectingMac label []) = none := by
    decide +kernel
  rw [derive, stuck]

end CustodySigner.Slip10.Secp256r1
