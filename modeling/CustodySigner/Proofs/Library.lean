import CustodySigner.Command.Line
import CustodySigner.Proofs.Batch.Atomicity

set_option autoImplicit false
set_option relaxedAutoImplicit false

/-!
What the library can answer when a value of one of the three kinds is to be signed. The obligations may
be taken in any order, so that there can be several answers; they agree on whether the value is signed,
and a value is signed in one way.
-/

namespace CustodySigner.Command

namespace Kind

/-- The values of a kind. -/
def Value : Kind → Type
  | transfer => Transfer
  | call => ContractCall
  | obligations => Obligations

def signable : (k : Kind) → Signable k.Value
  | transfer => .transfer
  | call => .call
  | obligations => .obligations

/-- What is asked of a value before anything is signed. -/
def check : (k : Kind) → k.Value → Except SignerError Unit
  | transfer => Batch.checkKeySet
  | call | obligations => fun _ => .ok ()

def obligationsOf : (k : Kind) → k.Value → Obligations
  | transfer => Transfer.obligations
  | call => ContractCall.obligations
  | obligations => id

/-- The value with other obligations. -/
def replace : (k : Kind) → k.Value → Obligations → k.Value
  | transfer => fun t m => { t with obligations := m }
  | call => fun c m => { c with obligations := m }
  | obligations => fun _ m => m

variable (S : Suite) (k : Kind) (config : Config) (store : KeyStore) (value : k.Value)

theorem map_held {α : Type} (m : Obligations) (f : Obligations → α) :
    ((Batch.signObligations S config store m).outcome.map fun _ => ()).map
        (fun _ => f (Batch.signObligations S config store m).held) =
      (Batch.signObligations S config store m).outcome.map f := by
  cases outcome : (Batch.signObligations S config store m).outcome with
  | error e => rfl
  | ok signed =>
    rw [Batch.outcome_signObligations] at outcome
    rw [Batch.held_signObligations_of_ok outcome]
    rfl

/-- Signing a value is signing its obligations, once the value has been checked. -/
theorem outcome_sign : (k.signable.sign S config store value).outcome =
    (k.check value).bind fun _ =>
      (Batch.signObligations S config store (k.obligationsOf value)).outcome.map
        (k.replace value) := by
  cases k with
  | transfer =>
    change Except.map (fun _ => (Batch.signTransfer S config store value).held)
      (Batch.signTransfer S config store value).outcome = _
    simp only [check]
    cases checked : Batch.checkKeySet value with
    | error e =>
      simp only [Batch.signTransfer, checked]
      rfl
    | ok =>
      obtain ⟨outcome, held⟩ := Batch.signTransfer_of_checked S config store checked
      rw [outcome, held]
      exact map_held S config store value.obligations (replace .transfer value)
  | call =>
    change Except.map (fun _ => (Batch.signCall S config store value).held)
      (Batch.signCall S config store value).outcome = _
    obtain ⟨outcome, held⟩ := Batch.signCall_eq S config store value
    rw [outcome, held]
    exact map_held S config store value.obligations (replace .call value)
  | obligations =>
    change (Batch.signObligations S config store value).outcome =
      (Batch.signObligations S config store value).outcome.map id
    cases (Batch.signObligations S config store value).outcome <;> rfl

/-- The ways in which the signing of a value can end, in whatever order its obligations are taken. -/
inductive ComesTo : Except SignerError k.Value → Prop
  | refused {e : SignerError} (refused : k.check value = .error e) : ComesTo (.error e)
  | scheduled {config : Config} {trace : List Batch.Schedule.Event} {held : Obligations}
      {answer : Except SignerError Obligations} (checked : k.check value = .ok ())
      (finishes : Batch.Schedule.Finishes S config store (k.obligationsOf value) trace held answer) :
      ComesTo (answer.map (k.replace value))

theorem comesTo_sign : k.ComesTo S store value (k.signable.sign S config store value).outcome := by
  rw [outcome_sign]
  cases checked : k.check value with
  | error e => exact .refused checked
  | ok =>
    obtain ⟨trace, -, finishes⟩ :=
      Batch.Schedule.exists_finishes_signObligations S config store (k.obligationsOf value)
    exact .scheduled checked finishes

variable {S k store value}

theorem ComesTo.outcome_eq {signed : k.Value} (h : k.ComesTo S store value (.ok signed)) :
    (k.signable.sign S config store value).outcome = .ok signed := by
  generalize same : Except.ok signed = outcome at h
  cases h with
  | refused => cases same
  | scheduled checked finishes =>
    rename_i answer
    cases answer with
    | error e => cases same
    | ok m =>
      rw [outcome_sign, checked]
      exact congrArg (Except.map _) (finishes.outcome config)

theorem ComesTo.exists_error {e : SignerError} (h : k.ComesTo S store value (.error e)) :
    ∃ e', (k.signable.sign S config store value).outcome = .error e' := by
  generalize same : Except.error e = outcome at h
  cases h with
  | refused refused =>
    rw [outcome_sign, refused]
    exact ⟨_, rfl⟩
  | scheduled checked finishes =>
    rename_i answer
    cases answer with
    | ok m => cases same
    | error e' =>
      cases outcome : (k.signable.sign S config store value).outcome with
      | error e'' => exact ⟨e'', rfl⟩
      | ok signed =>
        rw [outcome_sign, checked] at outcome
        obtain ⟨m, outcome, -⟩ := map_eq_ok_iff.1 outcome
        obtain ⟨m', same⟩ := (finishes.isOk_iff config).2 ⟨m, outcome⟩
        cases same

/-- All ways agree on whether a value is signed, and on the signed value. -/
theorem ComesTo.agree {signed : k.Value} {outcome : Except SignerError k.Value}
    (h : k.ComesTo S store value (.ok signed)) (h' : k.ComesTo S store value outcome) :
    outcome = .ok signed := by
  have sequential := h.outcome_eq .default
  cases outcome with
  | ok signed' => exact (h'.outcome_eq .default).symm.trans sequential
  | error e =>
    obtain ⟨e', failed⟩ := h'.exists_error .default
    cases sequential.symm.trans failed

end Kind

/-- A signer of a kind, which may take the obligations of every value in an order of its own. -/
structure Signer (S : Suite) (k : Kind) where
  sign : Config → KeyStore → k.Value → Audited k.Value
  comesTo : ∀ config store value, k.ComesTo S store value (sign config store value).outcome

namespace Signer

variable {S : Suite} {k : Kind}

/-- The kind with this signer for its own. -/
def signable (signer : Signer S k) : Signable k.Value :=
  { k.signable with sign := fun _ => signer.sign }

/-- The signer of the library's sequential runs. -/
def sequential (S : Suite) (k : Kind) : Signer S k :=
  ⟨k.signable.sign S, fun config store value => k.comesTo_sign S config store value⟩

end Signer

/-- What the library can answer: the key is made from its source, and then the value is signed. -/
inductive Library (S : Suite) (k : Kind) (source : KeySource) (value : k.Value) :
    Except SignerError k.Value → Prop
  | noKey {e : KeyStoreError} (refused : source.masterKey = .error e) :
      Library S k source value (.error (.ofKeyStoreError e))
  | signs {key : MasterKey} {outcome : Except SignerError k.Value}
      (made : source.masterKey = .ok key) (comes : k.ComesTo S (key.store S) value outcome) :
      Library S k source value outcome

namespace Library

variable {S : Suite} {k : Kind} {source : KeySource} {value : k.Value}

theorem of_signer (signer : Signer S k) (config : Config) :
    Library S k source value ((source.masterKey.mapError SignerError.ofKeyStoreError).bind
      fun key => (signer.sign config (key.store S) value).outcome) := by
  cases made : source.masterKey with
  | error e => exact .noKey made
  | ok key => exact .signs made (signer.comesTo config (key.store S) value)

theorem agree {signed : k.Value} {outcome : Except SignerError k.Value}
    (h : Library S k source value (.ok signed)) (h' : Library S k source value outcome) :
    outcome = .ok signed := by
  generalize same : Except.ok signed = found at h
  cases h with
  | noKey => cases same
  | @signs key found made comes =>
    subst same
    cases h' with
    | noKey refused => cases made.symm.trans refused
    | signs made' comes' =>
      obtain rfl := Except.ok.inj (made.symm.trans made')
      exact comes.agree comes'

end Library

end CustodySigner.Command
