import CustodySigner.Batch.Signer

set_option autoImplicit false
set_option relaxedAutoImplicit false

/-!
The three kinds of values whose obligations can be signed: transfers, contract calls, and obligations
on their own. Each kind knows how it is read, signed and written.
-/

namespace CustodySigner

/-- What a value with obligations needs to be signed on request. -/
structure Signable (τ : Type) where
  /-- What the value is called in errors. -/
  title : String
  blank : τ
  codec : Codec τ
  /-- Signs the value and gives it signed. -/
  sign : Suite → Config → KeyStore → τ → Audited τ

namespace Run

variable {σ α : Type}

/-- The run as a computation of what is held afterwards. -/
def heldResult (run : Run σ α) : Audited σ :=
  ⟨run.outcome.map fun _ => run.held, run.events⟩

/-- The run as a computation of its answer. -/
def result (run : Run σ α) : Audited α :=
  ⟨run.outcome, run.events⟩

end Run

namespace Signable

def transfer : Signable Transfer where
  title := "raw transaction"
  blank := .blank
  codec := Transfer.codec
  sign S config store t := (Batch.signTransfer S config store t).heldResult

def call : Signable ContractCall where
  title := "smart contract transaction"
  blank := .blank
  codec := ContractCall.codec
  sign S config store c := (Batch.signCall S config store c).heldResult

def obligations : Signable Obligations where
  title := "signature map"
  blank := .empty
  codec := Obligations.codec
  sign S config store m := (Batch.signObligations S config store m).result

end Signable

end CustodySigner
