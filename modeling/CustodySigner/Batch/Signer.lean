import CustodySigner.Batch.Audit
import CustodySigner.Keys.KeyStore
import CustodySigner.Redaction
import CustodySigner.Signing
import CustodySigner.Transaction.Basic

set_option autoImplicit false
set_option relaxedAutoImplicit false

/-!
The batch signer. It signs every obligation of a transaction on a copy, account by account and in
list order within an account, and commits the copy only when nothing failed.
-/

namespace CustodySigner.Batch

variable (S : Suite) (config : Config) (store : KeyStore)

/-- The signature that an obligation asks for, in hexadecimal. -/
def signatureOf (o : Obligation) : Except SignerError String := do
  let digest ← decodeDigest o.message
  let curve ← Curve.ofCode o.curveCode
  let key ← store.privateKey o.path curve
  let signature ← S.signByCode o.curveCode key digest o.recovery
  pure (Hex.encode signature)

/-- Where an obligation stands, as errors say it. -/
def place (account : String) (o : Obligation) : String :=
  "account=" ++ account ++ " input_index=" ++ toString o.inputIndex.toNat

def signAlone (account : String) (o : Obligation) : Except SignerError Obligation :=
  match signatureOf S store o with
  | .ok signed => .ok { o with signed := signed }
  | .error e => .error (e.withDetails (place account o))

/-- The log of an obligation that now has the signature `signed`. -/
def eventsOf (account : String) (o : Obligation) (signed : String) : List AuditEvent :=
  let redactor := Redactor.ofConfig config
  let overwriting :=
    if o.isSigned then [.overwriting account o.inputIndex (redactor.hash o.signed)] else []
  let signing :=
    match o.curve? with
    | some curve =>
      if config.verbose then
        [.obligationSigned {
          account := account
          wallet := o.wallet
          inputIndex := o.inputIndex
          curve := curve
          path := o.path
          address := redactor.address o.address
          message := redactor.hash o.message
          signed := redactor.hash signed }]
      else []
    | none => []
  overwriting ++ signing

def signOne (account : String) (o : Obligation) : Audited Obligation :=
  match signAlone S store account o with
  | .ok signed => ⟨.ok signed, eventsOf config account o signed.signed⟩
  | .error e => ⟨.error e, []⟩

def signCopy (m : Obligations) : Audited Obligations :=
  let run := m.traverse fun account list => list.mapM (signOne S config store account)
  match run.outcome with
  | .ok signed => ⟨.ok signed, run.events ++ [.batchSigned m.count config.parallel]⟩
  | .error e => ⟨.error e, run.events ++ [.aborted e m.count]⟩

/-- Signs obligations that belong to no transaction, and gives them back as well. -/
def signObligations (m : Obligations) : Run Obligations Obligations :=
  let run := signCopy S config store m
  match run.outcome with
  | .ok signed => ⟨signed, .ok signed, run.events⟩
  | .error e => ⟨m, .error e, run.events⟩

/-- Every obligation that a transfer needs is there: its account has an entry, and there are at least
as many obligations as signatures required. -/
def checkKeySet (t : Transfer) : Except SignerError Unit :=
  let refuse (message : String) : Except SignerError Unit :=
    .error ((SignerError.plain .incompleteKeySet message).withDetails ("account=" ++ t.account))
  if t.account ≠ "" && !t.obligations.contains t.account then
    refuse ("No signing obligations for account " ++ t.account)
  else if t.obligations.count < t.required.toNat then
    refuse ("Transaction requires " ++ toString t.required.toNat ++ " signatures, " ++
      toString t.obligations.count ++ " obligations attached")
  else .ok ()

def signTransfer (t : Transfer) : Run Transfer Unit :=
  match checkKeySet t with
  | .error e => ⟨t, .error e, [.rejected t.id t.session e]⟩
  | .ok () =>
    let run := signCopy S config store t.obligations
    match run.outcome with
    | .error e => ⟨t, .error e, run.events⟩
    | .ok signed =>
      ⟨{ t with obligations := signed }, .ok (),
        run.events ++ [.transferSigned t.id t.coin.symbol signed.count]⟩

def signCall (c : ContractCall) : Run ContractCall Unit :=
  let run := signObligations S config store c.obligations
  let c := { c with obligations := run.held }
  match run.outcome with
  | .error e => ⟨c, .error e, run.events⟩
  | .ok _ =>
    ⟨c, .ok (), run.events ++ [.callSigned c.id c.coin.symbol c.obligations.count]⟩

end CustodySigner.Batch
