import CustodySigner.Proofs.Algebra.Residue
import Mathlib.Data.List.Prime
import Mathlib.NumberTheory.LucasPrimality

set_option autoImplicit false
set_option relaxedAutoImplicit false

/-!
Certificates of primality. A certificate lists primes in an order in which each comes after the
large prime factors of its predecessor; small factors are tried by division.
-/

namespace CustodySigner.Pratt

/-- No number from `d` on divides `q`, up to the root of `q`; gives up after `fuel` numbers. -/
def undivided (q : Nat) : (d fuel : Nat) → Bool
  | _, 0 => false
  | d, fuel + 1 => q < d * d || (q % d != 0 && undivided q (d + 1) fuel)

/-- How many divisors are tried. -/
def trials : Nat := 4000

/-- A prime, an element that generates the units modulo it, and its predecessor in factors. -/
structure Entry where
  prime : Nat
  generator : Nat
  /-- Primes with their exponents. -/
  factors : List (Nat × Nat)

def Entry.check (known : List Nat) (entry : Entry) : Bool :=
  1 < entry.prime &&
    (entry.factors.map fun factor => factor.1 ^ factor.2).prod == entry.prime - 1 &&
    powerMod entry.prime entry.generator (entry.prime - 1) == 1 &&
    entry.factors.all fun factor =>
      (known.contains factor.1 || (1 < factor.1 && undivided factor.1 2 trials)) &&
        powerMod entry.prime entry.generator ((entry.prime - 1) / factor.1) != 1

/-- Checks the entries in order, each with the primes before it. -/
def check (known : List Nat) : List Entry → Bool
  | [] => true
  | entry :: rest => entry.check known && check (entry.prime :: known) rest

private theorem undivided_sound {q d fuel : Nat} (h : undivided q d fuel = true) :
    ∀ m, d ≤ m → m * m ≤ q → ¬ m ∣ q := by
  induction fuel generalizing d with
  | zero => cases h
  | succ fuel ih =>
    intro m below square
    simp only [undivided, Bool.or_eq_true, decide_eq_true_eq, Bool.and_eq_true, bne_iff_ne] at h
    have squares : d * d ≤ m * m := Nat.mul_le_mul below below
    rcases h with above | ⟨remainder, rest⟩
    · omega
    · rcases Nat.eq_or_lt_of_le below with rfl | above
      · exact fun divides => remainder (Nat.mod_eq_zero_of_dvd divides)
      · exact ih rest m above square

theorem prime_of_undivided {q fuel : Nat} (two_le : 1 < q) (h : undivided q 2 fuel = true) :
    q.Prime := by
  refine Nat.prime_def_le_sqrt.2 ⟨two_le, fun m least root => ?_⟩
  exact undivided_sound h m least (Nat.le_sqrt.1 root)

private theorem cast_pow_eq_one_iff {n a k : Nat} (h : 1 < n) :
    (a : ZMod n) ^ k = 1 ↔ powerMod n a k % n = 1 := by
  rw [← cast_powerMod, ← Nat.cast_one, ZMod.natCast_eq_natCast_iff', Nat.mod_eq_of_lt h]

private theorem powerMod_lt {n : Nat} (h : 1 < n) (a k : Nat) : powerMod n a k < n := by
  have positive : 0 < n := by omega
  refine ladder_induction (fun _ total => total < n) ?_ ?_ ?_ k
  · exact Nat.mod_lt 1 positive
  · exact fun _ _ _ => Nat.mod_lt _ positive
  · exact fun _ _ _ => Nat.mod_lt _ positive

theorem Entry.check_sound {known : List Nat} (primes : ∀ q ∈ known, q.Prime) {entry : Entry}
    (h : entry.check known = true) : entry.prime.Prime := by
  simp only [Entry.check, Bool.and_eq_true, decide_eq_true_eq, beq_iff_eq, List.all_eq_true,
    Bool.or_eq_true, List.contains_iff_mem, bne_iff_ne, ne_eq] at h
  obtain ⟨⟨⟨large, product⟩, full⟩, proper⟩ := h
  have reduced (k : Nat) := Nat.mod_eq_of_lt (powerMod_lt large entry.generator k)
  have primeFactor : ∀ factor ∈ entry.factors, factor.1.Prime := by
    intro factor mem
    rcases (proper factor mem).1 with listed | ⟨two_le, tried⟩
    · exact primes _ listed
    · exact prime_of_undivided two_le tried
  refine lucas_primality entry.prime (entry.generator : ZMod entry.prime) ?_ ?_
  · rw [cast_pow_eq_one_iff large, reduced, full]
  · intro q prime divides
    rw [← product] at divides
    obtain ⟨_, listed, divides⟩ := (Prime.dvd_prod_iff prime.prime).1 divides
    obtain ⟨factor, mem, rfl⟩ := List.mem_map.1 listed
    obtain rfl : q = factor.1 :=
      (Nat.prime_dvd_prime_iff_eq prime (primeFactor factor mem)).1 (prime.dvd_of_dvd_pow divides)
    rw [ne_eq, cast_pow_eq_one_iff large, reduced]
    exact (proper factor mem).2

/-- Every number of a certificate that passes is prime. -/
theorem check_sound {known : List Nat} (primes : ∀ q ∈ known, q.Prime) {entries : List Entry}
    (h : check known entries = true) : ∀ entry ∈ entries, entry.prime.Prime := by
  induction entries generalizing known with
  | nil => simp
  | cons first rest ih =>
    simp only [check, Bool.and_eq_true] at h
    have prime := Entry.check_sound primes h.1
    refine List.forall_mem_cons.2 ⟨prime, ih (List.forall_mem_cons.2 ⟨prime, primes⟩) h.2⟩

end CustodySigner.Pratt
