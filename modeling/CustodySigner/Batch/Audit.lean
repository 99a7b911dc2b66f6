import CustodySigner.Error
import CustodySigner.Json.Value
import CustodySigner.Curve

set_option autoImplicit false
set_option relaxedAutoImplicit false

/-!
The audit log of a batch, and computations that write to it. A computation that fails keeps what was
logged before it failed.
-/

namespace CustodySigner

/-- What is logged of an obligation that was signed. -/
structure SignedRecord where
  account : String
  wallet : String
  inputIndex : UInt32
  curve : Curve
  path : String
  address : String
  message : String
  signed : String
deriving DecidableEq, Repr

inductive AuditEvent where
  /-- A transfer lacks obligations. -/
  | rejected (id session : String) (error : SignerError)
  | aborted (error : SignerError) (obligations : Nat)
  | batchSigned (obligations : Nat) (parallel : Bool)
  | transferSigned (id symbol : String) (obligations : Nat)
  | callSigned (id symbol : String) (obligations : Nat)
  /-- The obligation was signed before. -/
  | overwriting (account : String) (inputIndex : UInt32) (previous : String)
  | obligationSigned (record : SignedRecord)
deriving DecidableEq, Repr

namespace AuditEvent

def level : AuditEvent → String
  | rejected .. | aborted .. => "ERROR"
  | overwriting .. => "WARN"
  | transferSigned .. | callSigned .. => "INFO"
  | batchSigned .. | obligationSigned .. => "DEBUG"

def message : AuditEvent → String
  | rejected .. => "transaction rejected"
  | aborted .. => "batch aborted, nothing committed"
  | batchSigned .. => "batch signed"
  | transferSigned .. => "raw transaction signed"
  | callSigned .. => "smart contract transaction signed"
  | overwriting .. => "overwriting existing signature"
  | obligationSigned .. => "obligation signed"

/-- The fields besides level and message. -/
def fields : AuditEvent → List (String × Json)
  | rejected id session error =>
    [("tx_id", .ofText id), ("sid", .ofText session), ("error", .ofText error.display)]
  | aborted error obligations =>
    [("error", .ofText error.display), ("obligations", .natural obligations)]
  | batchSigned obligations parallel =>
    [("obligations", .natural obligations), ("parallel", .bool parallel)]
  | transferSigned id symbol obligations | callSigned id symbol obligations =>
    [("tx_id", .ofText id), ("symbol", .ofText symbol), ("obligations", .natural obligations)]
  | overwriting account inputIndex previous =>
    [("account", .ofText account), ("input_index", .natural inputIndex.toNat),
      ("previous", .ofText previous)]
  | obligationSigned r =>
    [("account", .ofText r.account), ("wallet", .ofText r.wallet),
      ("input_index", .natural r.inputIndex.toNat), ("curve", .ofText r.curve.name),
      ("path", .ofText r.path), ("address", .ofText r.address), ("msg", .ofText r.message),
      ("signed", .ofText r.signed)]

end AuditEvent

/-- A computation that may fail and that logs. -/
structure Audited (α : Type) where
  outcome : Except SignerError α
  events : List AuditEvent

namespace Audited

variable {α β : Type}

def bind (x : Audited α) (f : α → Audited β) : Audited β :=
  match x.outcome with
  | .error e => ⟨.error e, x.events⟩
  | .ok a =>
    let y := f a
    ⟨y.outcome, x.events ++ y.events⟩

instance instMonad : Monad Audited where
  pure a := ⟨.ok a, []⟩
  bind := bind

end Audited

/-- A finished operation on something that its caller holds: what the caller holds afterwards, the
answer, and what was logged. -/
structure Run (σ α : Type) where
  held : σ
  outcome : Except SignerError α
  events : List AuditEvent

end CustodySigner
