set_option autoImplicit false
set_option relaxedAutoImplicit false

/-!
Byte strings and the integers they spell. Most formats here write integers with the most
significant byte first; Edwards keys and signatures write the least significant byte first.
-/

namespace CustodySigner

abbrev Bytes := List UInt8

namespace Bytes

/-- The value of a string whose most significant byte comes first. -/
def toNat (b : Bytes) : Nat :=
  b.foldl (fun n x => n * 256 + x.toNat) 0

/-- The value of a string whose least significant byte comes first. -/
def toNatLE : Bytes → Nat
  | [] => 0
  | x :: rest => x.toNat + 256 * toNatLE rest

/-- The `size` lowest bytes of `n`, least significant byte first. -/
def ofNatLE : (size n : Nat) → Bytes
  | 0, _ => []
  | size + 1, n => UInt8.ofNat (n % 256) :: ofNatLE size (n / 256)

/-- The `size` lowest bytes of `n`, most significant byte first. -/
def ofNat (size n : Nat) : Bytes :=
  (ofNatLE size n).reverse

/-- The number of values that 32 bytes spell. -/
def range32 : Nat := 0x10000000000000000000000000000000000000000000000000000000000000000

/-- The least number of bytes that spell `n`; zero needs none. -/
def width (n : Nat) : Nat :=
  if n = 0 then 0 else n.log2 / 8 + 1

def xor (a b : Bytes) : Bytes :=
  List.zipWith (· ^^^ ·) a b

def ofText (s : String) : Bytes :=
  s.toUTF8.data.toList

@[simp] theorem length_ofNatLE (size n : Nat) : (ofNatLE size n).length = size := by
  induction size generalizing n with
  | zero => rfl
  | succ size ih => simp [ofNatLE, ih]

@[simp] theorem length_ofNat (size n : Nat) : (ofNat size n).length = size := by
  simp [ofNat]

end Bytes

/-- The consecutive pieces of `size` elements, `count` of them. -/
def pieces {α : Type} (size : Nat) : (count : Nat) → List α → List (List α)
  | 0, _ => []
  | count + 1, l => l.take size :: pieces size count (l.drop size)

end CustodySigner
