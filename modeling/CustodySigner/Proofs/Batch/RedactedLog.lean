import CustodySigner.Proofs.Batch.Log
import CustodySigner.Proofs.Batch.Secrecy
import CustodySigner.Proofs.Redaction

set_option autoImplicit false
set_option relaxedAutoImplicit false

/-!
Redacted logs. With redaction, all that a run logs is computed from what the redaction lets through of
its obligations and of their new signatures. Runs in which the same is let through have the same log,
whatever keys they use.
-/

namespace CustodySigner

/-- What the redaction lets through of an obligation that was signed. -/
structure RedactedView where
  curveCode : UInt32
  wallet : String
  inputIndex : UInt32
  path : String
  address : String
  message : String
  wasSigned : Bool
  /-- The signature that was replaced. -/
  previous : String
  signed : String
deriving DecidableEq, Repr

/-- The view of an obligation that has become `o'`. -/
def Obligation.redactedView (o o' : Obligation) : RedactedView where
  curveCode := o.curveCode
  wallet := o.wallet
  inputIndex := o.inputIndex
  path := o.path
  address := Redaction.address o.address
  message := Redaction.hash o.message
  wasSigned := o.isSigned
  previous := Redaction.hash o.signed
  signed := Redaction.hash o'.signed

/-- What a redacted log says of an obligation, computed from the view alone. -/
def RedactedView.events (config : Config) (account : String) (view : RedactedView) :
    List AuditEvent :=
  let recorded :=
    match Curve.ofCode? view.curveCode with
    | some curve =>
      if config.verbose then
        [.obligationSigned {
          account := account
          wallet := view.wallet
          inputIndex := view.inputIndex
          curve := curve
          path := view.path
          address := view.address
          message := view.message
          signed := view.signed }]
      else []
    | none => []
  (if view.wasSigned then [.overwriting account view.inputIndex view.previous] else []) ++ recorded

namespace Batch

/-- What the redaction lets through of a run: its accounts in order and a view of each obligation. -/
def redactedViews (order signed : Order) : List (String × List RedactedView) :=
  List.zipWith
    (fun entry entry' => (entry.1, List.zipWith Obligation.redactedView entry.2 entry'.2)) order signed

/-- A redacted log, computed from the views alone. -/
def redactedLog (config : Config) (views : List (String × List RedactedView)) : List AuditEvent :=
  let seen := views.flatMap fun entry => entry.2.map (entry.1, ·)
  seen.flatMap (fun view => view.2.events config view.1) ++ [.batchSigned seen.length config.parallel]

section

variable {S : Suite} {config : Config} {store : KeyStore}

/-- A signing with its account, as far as the redaction lets it through. -/
def seenOf (s : Signing) : String × RedactedView :=
  (s.account, s.before.redactedView s.after)

theorem events_seenOf (redacting : config.redactLogs = true) {s : Signing} (made : s.Made S store) :
    (seenOf s).2.events config (seenOf s).1 = s.events config := by
  have known : Curve.ofCode? s.before.curveCode = some s.curve := made.1
  have hash (text : String) : (Redactor.ofConfig config).hash text = Redaction.hash text :=
    if_pos redacting
  have address (text : String) : (Redactor.ofConfig config).address text = Redaction.address text :=
    if_pos redacting
  simp only [RedactedView.events, seenOf, Obligation.redactedView, known, Signing.events,
    Signing.warning, Signing.record, hash, address]
  rfl

theorem flatMap_redactedViews {R : Obligation → Obligation → Prop} {order signed : Order}
    (h : List.Forall₂ (fun entry entry' => entry'.1 = entry.1 ∧ List.Forall₂ R entry.2 entry'.2)
      order signed) :
    (redactedViews order signed).flatMap (fun entry => entry.2.map (entry.1, ·)) =
      List.zipWith (fun item item' => (item.1, item.2.redactedView item'.2)) (items order)
        (items signed) := by
  induction h with
  | nil => rfl
  | @cons entry entry' order signed head _ ih =>
    have length : (entry.2.map (entry.1, ·)).length = (entry'.2.map (entry'.1, ·)).length := by
      rw [List.length_map, List.length_map, head.2.length_eq]
    simp only [redactedViews, items, List.zipWith_cons_cons, List.flatMap_cons] at ih ⊢
    rw [ih, List.zipWith_append length, List.zipWith_map, List.map_zipWith]

theorem flatMap_redactedViews_of_turns {order signed : Order} {made : List Signing}
    (h : signInOrder S store order = .ok signed)
    (turns : Turns S store made (items order) (items signed)) :
    (redactedViews order signed).flatMap (fun entry => entry.2.map (entry.1, ·)) =
      made.map seenOf := by
  have lists := signInOrder_eq_ok_iff.1 h
  simp only [signAlone_eq_ok_iff] at lists
  rw [flatMap_redactedViews lists, ← turns.work, ← turns.result, List.zipWith_map, List.zipWith_self]
  rfl

theorem logInOrder_eq_redactedLog (redacting : config.redactLogs = true) {order signed : Order}
    (h : signInOrder S store order = .ok signed) :
    logInOrder S config store order = redactedLog config (redactedViews order signed) := by
  obtain ⟨made, turns⟩ := exists_turns h
  rw [logInOrder_of_turns config turns]
  simp only [redactedLog, flatMap_redactedViews_of_turns h turns, List.flatMap_map, List.length_map]
  congr 1
  exact List.flatMap_congr fun s mem => (events_seenOf redacting (turns.made s mem)).symm

end

/-- With redaction, two batches that succeed log the same if they take the same accounts in the same
order and the redaction lets the same through of their obligations and signatures. Keys, nonces, flags
and what the redaction hides have no influence on the log. -/
theorem redacted_log_determined_by_views (S : Suite) (config : Config)
    (redacting : config.redactLogs = true) (store store' : KeyStore) :
    (∀ order order' signed signed' : Order,
      signInOrder S store order = .ok signed → signInOrder S store' order' = .ok signed' →
      redactedViews order signed = redactedViews order' signed' →
      logInOrder S config store order = logInOrder S config store' order') ∧
    ∀ m m' signed signed' : Obligations,
      (signObligations S config store m).outcome = .ok signed →
      (signObligations S config store' m').outcome = .ok signed' →
      redactedViews m.entries signed.entries = redactedViews m'.entries signed'.entries →
      (signObligations S config store m).events = (signObligations S config store' m').events := by
  have ordered (order order' signed signed' : Order) (h : signInOrder S store order = .ok signed)
      (h' : signInOrder S store' order' = .ok signed')
      (views : redactedViews order signed = redactedViews order' signed') :
      logInOrder S config store order = logInOrder S config store' order' := by
    rw [logInOrder_eq_redactedLog redacting h, logInOrder_eq_redactedLog redacting h', views]
  refine ⟨ordered, fun m m' signed signed' outcome outcome' views => ?_⟩
  rw [outcome_signObligations, signCopy_eq_ok_iff] at outcome outcome'
  rw [events_signObligations, events_signObligations]
  exact ordered _ _ _ _ outcome outcome' views

/-- An obligation that was signed before. The redaction hides its nonce and the middle of its address,
of its digest and of its earlier signature. -/
def veiledObligation (secret digits : String) : Obligation :=
  { goodObligation with
    nonce := secret
    address := "wallet" ++ secret ++ "0001"
    message := "5a5a5a5a5a" ++ digits ++ "5a5a5a"
    signed := "0123456789" ++ secret ++ "abcdef" }

theorem redactedView_veiledObligation (secret digits signature : String)
    (ascii : Redaction.isAscii secret.toList = true) (ascii' : Redaction.isAscii digits.toList = true)
    (long : 5 ≤ secret.toList.length) (long' : 5 ≤ digits.toList.length) :
    (veiledObligation secret digits).redactedView
        { veiledObligation secret digits with signed := signature } =
      { curveCode := Curve.ed25519.code, wallet := "", inputIndex := 0, path := "m/0"
        address := "wallet...0001", message := "5a5a5a5a5a...5a5a5a", wasSigned := true
        previous := "0123456789...abcdef", signed := Redaction.hash signature } := by
  have address : Redaction.address ("wallet" ++ secret ++ "0001") = "wallet...0001" :=
    Redaction.address_eq_of_consists
      (Redaction.consists_append (by decide) (by decide) (by decide) ascii) rfl rfl (by omega)
  have message : Redaction.hash ("5a5a5a5a5a" ++ digits ++ "5a5a5a") = "5a5a5a5a5a...5a5a5a" := by
    refine Redaction.hash_eq_of_consists
      (Redaction.consists_append (by decide) (by decide) (by decide) ascii') rfl rfl ?_
    change 20 < 10 + digits.toList.length + 6
    omega
  have previous : Redaction.hash ("0123456789" ++ secret ++ "abcdef") = "0123456789...abcdef" := by
    refine Redaction.hash_eq_of_consists
      (Redaction.consists_append (by decide) (by decide) (by decide) ascii) rfl rfl ?_
    change 20 < 10 + secret.toList.length + 6
    omega
  have wasSigned : (veiledObligation secret digits).isSigned = true := by
    simp [veiledObligation, Obligation.isSigned]
  unfold Obligation.redactedView
  rw [wasSigned]
  simp only [veiledObligation, address, message, previous]
  rfl

theorem exists_signs_veiledObligation :
    ∃ signature,
      Signs .standard sampleStore (veiledObligation "secret" "5a5a5a")
        { veiledObligation "secret" "5a5a5a" with signed := signature } ∧
      Signs .standard lockedStore (veiledObligation "hidden" "5A5A5A")
        { veiledObligation "hidden" "5A5A5A" with signed := signature } := by
  have spells : (veiledObligation "secret" "5a5a5a").Spells (List.replicate 11 0x5a) :=
    ⟨by decide, by decide⟩
  obtain ⟨o', curve, digest, key, signature, known, decoded, stored, signed, -⟩ :
      ∃ o', Signs .standard (uniformKey.store .standard) (veiledObligation "secret" "5a5a5a") o' :=
    exists_signs_of_ed25519 rfl spells (by decide) rfl
      (show KeyPath.parse "m/0" = .ok ⟨[⟨0, false⟩]⟩ by decide)
  have edwards : curve = .ed25519 := (Option.some.inj known).symm
  have spelled : decodeDigest (veiledObligation "hidden" "5A5A5A").message = .ok digest := by
    rw [← decoded]
    decide
  subst edwards
  exact ⟨Hex.encode signature, ⟨_, digest, key, signature, known, decoded, stored, signed, rfl⟩,
    ⟨_, digest, key, signature, rfl, spelled, stored, signed, rfl⟩⟩

theorem redacted_log_determined_by_views_veiled :
    ∃ signed signed',
      (signObligations .standard .debug sampleStore
        (.single "savings" (veiledObligation "secret" "5a5a5a"))).outcome = .ok signed ∧
      (signObligations .standard .debug lockedStore
        (.single "savings" (veiledObligation "hidden" "5A5A5A"))).outcome = .ok signed' ∧
      signed ≠ signed' ∧
      (signObligations .standard .debug sampleStore
        (.single "savings" (veiledObligation "secret" "5a5a5a"))).events =
        (signObligations .standard .debug lockedStore
          (.single "savings" (veiledObligation "hidden" "5A5A5A"))).events := by
  obtain ⟨signature, signs, signs'⟩ := exists_signs_veiledObligation
  have outcome {store : KeyStore} {o o' : Obligation} (signs : Signs .standard store o o') :
      (signObligations .standard .debug store (.single "savings" o)).outcome =
        .ok (.single "savings" o') := by
    rw [outcome_signObligations, signCopy_eq_ok_iff_related]
    exact .cons ⟨rfl, .cons signs .nil⟩ .nil
  obtain ⟨-, same⟩ := redacted_log_determined_by_views .standard .debug rfl sampleStore lockedStore
  refine ⟨_, _, outcome signs, outcome signs', ?_, same _ _ _ _ (outcome signs) (outcome signs') ?_⟩
  · intro equal
    simp [Obligations.single, veiledObligation] at equal
  · have views := (redactedView_veiledObligation "secret" "5a5a5a" signature
      (by decide) (by decide) (by decide) (by decide)).trans
      (redactedView_veiledObligation "hidden" "5A5A5A" signature
        (by decide) (by decide) (by decide) (by decide)).symm
    exact congrArg (fun view => [("savings", [view])]) views

end Batch

end CustodySigner
