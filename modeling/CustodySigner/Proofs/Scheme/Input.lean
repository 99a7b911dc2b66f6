import CustodySigner.Proofs.Except
import CustodySigner.Scheme.Input

set_option autoImplicit false
set_option relaxedAutoImplicit false

/-!
Inputs of the sizes that schemes ask for are passed on as they are.
-/

namespace CustodySigner.Scheme

theorem key32_eq_ok_iff {key key' : Bytes} :
    key32 key = .ok key' ↔ key.length = 32 ∧ key = key' := by
  unfold key32
  by_cases length : key.length = 32 <;> simp [length]

theorem digest32_eq_ok_iff {digest digest' : Bytes} :
    digest32 digest = .ok digest' ↔ digest.length = 32 ∧ digest = digest' := by
  unfold digest32
  by_cases length : digest.length = 32 <;> simp [length]

theorem signature64_of_length {signature : Bytes} (length : signature.length = 64) :
    signature64 signature = .ok signature := by
  simp [signature64, length]

end CustodySigner.Scheme
