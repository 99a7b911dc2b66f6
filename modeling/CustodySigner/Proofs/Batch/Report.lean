import CustodySigner.Proofs.Batch.KeySet
import CustodySigner.Proofs.Batch.Log
import CustodySigner.Proofs.Batch.Schedule

set_option autoImplicit false
set_option relaxedAutoImplicit false

/-!
The log of a batch is a complete report. Each signature that replaces another is warned of once, each
obligation that is signed is recorded once if records are asked for, and one last event says how the
batch ended. In parallel the events of different obligations mix, and the report is the same up to
order.
-/

namespace CustodySigner

/-- The list is made of the parts, each in its own order, mixed in any way. -/
inductive Interleaved {α : Type} : List (List α) → List α → Prop
  | done {parts : List (List α)} (finished : ∀ part ∈ parts, part = []) : Interleaved parts []
  | next {before after : List (List α)} {part l : List α} {a : α}
      (rest : Interleaved (before ++ part :: after) l) :
      Interleaved (before ++ (a :: part) :: after) (a :: l)

namespace Interleaved

variable {α : Type} {parts : List (List α)} {l : List α}

theorem perm (h : Interleaved parts l) : l.Perm parts.flatten := by
  induction h with
  | done finished =>
    rw [List.flatten_eq_nil_iff.2 finished]
  | @next before after part l a _ ih =>
    rw [List.flatten_append, List.flatten_cons] at ih ⊢
    exact (ih.cons a).trans List.perm_middle.symm

private theorem flatten_of_finished (before : List (List α)) (finished : ∀ part ∈ before, part = []) :
    Interleaved (before ++ parts) parts.flatten := by
  induction parts generalizing before with
  | nil => exact .done (by simpa using finished)
  | cons part parts ih =>
    induction part with
    | nil =>
      have more : ∀ part ∈ before ++ [[]], part = [] := by simpa [or_imp, forall_and] using finished
      simpa using ih (before ++ [[]]) more
    | cons a part mixed => exact .next mixed

theorem flatten (parts : List (List α)) : Interleaved parts parts.flatten :=
  flatten_of_finished [] nofun

end Interleaved

namespace Batch

/-- The log warns of each signature that is replaced, records each that is made if the settings ask for
it, and says nothing else but how the batch has ended. -/
structure Reports (config : Config) (made : List Signing) (closing : AuditEvent)
    (log : List AuditEvent) : Prop where
  warnings : (log.filter (·.message = "overwriting existing signature")).Perm
    ((made.filter (·.before.isSigned)).map (·.warning config))
  records : (log.filter (·.message = "obligation signed")).Perm
    (if config.verbose then made.map (·.record config) else [])
  others : log.filter (·.message ∉ ["overwriting existing signature", "obligation signed"]) = [closing]
  errors : log.filter (·.level = "ERROR") = if closing.level = "ERROR" then [closing] else []
  last : log.getLast? = some closing

section Reports

variable {config : Config} {made : List Signing} {closing : AuditEvent} {body : List AuditEvent}

theorem Turns.warnings {S : Suite} {store : KeyStore} {work work' : List (String × Obligation)}
    (turns : Turns S store made work work') :
    (made.filter (·.before.isSigned)).map (·.warning config) =
      (work.filter (·.2.isSigned)).map fun item =>
        .overwriting item.1 item.2.inputIndex ((Redactor.ofConfig config).hash item.2.signed) := by
  rw [← turns.work, List.filter_map, List.map_map]
  rfl

theorem filter_warnings (config : Config) (made : List Signing) :
    (made.flatMap (·.events config)).filter (·.message = "overwriting existing signature") =
      (made.filter (·.before.isSigned)).map (·.warning config) := by
  induction made with
  | nil => rfl
  | cons s made ih =>
    rw [List.flatMap_cons, List.filter_append, ih]
    cases signed : s.before.isSigned <;> cases verbose : config.verbose <;>
      simp [Signing.events, Signing.warning, Signing.record, AuditEvent.message, signed, verbose]

theorem filter_records (config : Config) (made : List Signing) :
    (made.flatMap (·.events config)).filter (·.message = "obligation signed") =
      if config.verbose then made.map (·.record config) else [] := by
  induction made with
  | nil => simp
  | cons s made ih =>
    rw [List.flatMap_cons, List.filter_append, ih]
    cases signed : s.before.isSigned <;> cases verbose : config.verbose <;>
      simp [Signing.events, Signing.warning, Signing.record, AuditEvent.message, signed, verbose]

theorem mem_events_iff {s : Signing} {event : AuditEvent} :
    event ∈ s.events config ↔
      s.before.isSigned ∧ event = s.warning config ∨ config.verbose ∧ event = s.record config := by
  simp [Signing.events, List.mem_ite_nil_right]

theorem message_of_mem_events {s : Signing} {event : AuditEvent} (mem : event ∈ s.events config) :
    event.message ∈ ["overwriting existing signature", "obligation signed"] ∧
      event.level ≠ "ERROR" := by
  rcases mem_events_iff.1 mem with ⟨-, rfl⟩ | ⟨-, rfl⟩
  · exact ⟨List.mem_cons_self, show "WARN" ≠ "ERROR" by decide⟩
  · exact ⟨List.mem_cons_of_mem _ List.mem_cons_self, show "DEBUG" ≠ "ERROR" by decide⟩

theorem reports_of_perm (mixed : body.Perm (made.flatMap (·.events config)))
    (other : closing.message ∉ ["overwriting existing signature", "obligation signed"]) :
    Reports config made closing (body ++ [closing]) := by
  have inner : ∀ event ∈ body,
      event.message ∈ ["overwriting existing signature", "obligation signed"] ∧
        event.level ≠ "ERROR" := by
    intro event mem
    obtain ⟨s, -, mem⟩ := List.mem_flatMap.1 (mixed.subset mem)
    exact message_of_mem_events mem
  have ne : closing.message ≠ "overwriting existing signature" ∧
      closing.message ≠ "obligation signed" := by simpa using other
  constructor
  case warnings =>
    rw [← filter_warnings, List.filter_append, List.filter_singleton, decide_eq_false ne.1]
    simpa using mixed.filter _
  case records =>
    rw [← filter_records, List.filter_append, List.filter_singleton, decide_eq_false ne.2]
    simpa using mixed.filter _
  case others =>
    have none_inner : body.filter
        (·.message ∉ ["overwriting existing signature", "obligation signed"]) = [] := by
      refine List.filter_eq_nil_iff.2 fun event mem => ?_
      rw [decide_eq_true_eq, not_not]
      exact (inner event mem).1
    rw [List.filter_append, none_inner, List.filter_singleton, decide_eq_true other]
    rfl
  case errors =>
    have none_inner : body.filter (·.level = "ERROR") = [] := by
      refine List.filter_eq_nil_iff.2 fun event mem => ?_
      rw [decide_eq_true_eq]
      exact (inner event mem).2
    rw [List.filter_append, none_inner, List.filter_singleton]
    by_cases level : closing.level = "ERROR" <;> simp [level]
  case last => simp

end Reports

namespace Schedule

section

variable (S : Suite) (config : Config) (store : KeyStore) (m : Obligations)

/-- What signing the obligation in the slot logs. -/
def slotEvents (slot : Slot) : List AuditEvent :=
  match m.at? slot with
  | some o => (signOne S config store slot.account o).events
  | none => []

/-- The logs that a schedule with this answer can have: the events of the slots that it signed, mixed in
any way, and one that says how the batch ended. -/
inductive Logs (trace : List Event) : Except SignerError Obligations → List AuditEvent → Prop
  | signed {signed : Obligations} {body : List AuditEvent}
      (mixed : Interleaved ((signedSlots trace).map (slotEvents S config store m)) body) :
      Logs trace (.ok signed) (body ++ [.batchSigned m.count config.parallel])
  | aborted {e : SignerError} {body : List AuditEvent}
      (mixed : Interleaved ((signedSlots trace).map (slotEvents S config store m)) body) :
      Logs trace (.error e) (body ++ [.aborted e m.count])

/-- The signing is that of the obligation in the slot. -/
structure Fills (slot : Slot) (s : Signing) : Prop where
  account : s.account = slot.account
  here : m.at? slot = some s.before
  made : s.Made S store

end

variable {S : Suite} {config : Config} {store : KeyStore} {m held signed : Obligations}
  {trace : List Event} {log : List AuditEvent} {e : SignerError}

theorem flatMap_slotEvents :
    m.slots.flatMap (slotEvents S config store m) =
      (items m.entries).flatMap fun item => (signOne S config store item.1 item.2).events := by
  let logged (item? : Option (String × Obligation)) : List AuditEvent :=
    match item? with
    | some item => (signOne S config store item.1 item.2).events
    | none => []
  have slotwise (slot : Slot) : slotEvents S config store m slot = logged (m.item? slot) := by
    unfold slotEvents Obligations.item?
    cases m.at? slot <;> rfl
  calc m.slots.flatMap (slotEvents S config store m)
      = (m.slots.map m.item?).flatMap logged := by
        rw [List.flatMap_map]
        exact List.flatMap_congr fun slot _ => slotwise slot
    _ = ((items m.entries).map some).flatMap logged := by
        rw [Obligations.slots, Obligations.map_item?_slotsOf (.refl _)]
    _ = _ := by rw [List.flatMap_map]

theorem Finishes.reports_signed (h : Finishes S config store m trace held (.ok signed))
    (logs : Logs S config store m trace (.ok signed) log) :
    ∃ made, Turns S store made (items m.entries) (items signed.entries) ∧
      Reports config made (.batchSigned m.count config.parallel) log := by
  cases logs with
  | signed mixed =>
  obtain ⟨made, turns⟩ :=
    exists_turns_of_forall₂ (forall₂_items (R := fun _ => Signs S store) h.related.2)
  refine ⟨made, turns, reports_of_perm ?_ (show "batch signed" ∉ _ by decide)⟩
  have every := h.signedSlots_perm.flatMap_right (slotEvents S config store m)
  rw [flatMap_slotEvents, ← turns.work, flatMap_events_signOne turns.made, List.flatMap_def] at every
  exact mixed.perm.trans every

theorem flatMap_slotEvents_of_fills {slots : List Slot} {made : List Signing}
    (fills : List.Forall₂ (Fills S store m) slots made) :
    slots.flatMap (slotEvents S config store m) = made.flatMap (·.events config) := by
  induction fills with
  | nil => rfl
  | cons head _ ih =>
    rw [List.flatMap_cons, List.flatMap_cons, ih, slotEvents, head.here, ← head.account]
    exact congrArg (· ++ _) (events_signOne_of_made head.made)

/-- A schedule that fails reports the signings that it had made. -/
theorem Finishes.reports_aborted (h : Finishes S config store m trace held (.error e))
    (logs : Logs S config store m trace (.error e) log) :
    ∃ made, List.Forall₂ (Fills S store m) (signedSlots trace) made ∧
      Reports config made (.aborted e m.count) log := by
  cases logs with
  | aborted mixed =>
  obtain ⟨p, steps, -⟩ := h
  have signings : ∀ slot ∈ signedSlots trace, ∃ s, Fills S store m slot s := by
    intro slot mem
    obtain ⟨o, o', here, outcome, -⟩ := steps.sound.signed slot mem
    have signs := signAlone_eq_ok_iff.1 outcome
    have ⟨curve, _, _, _, known, _⟩ := signs
    exact ⟨⟨slot.account, curve, o, o'⟩, rfl, here, known, signs⟩
  obtain ⟨made, fills⟩ := exists_forall₂ signings
  refine ⟨made, fills, reports_of_perm ?_ (show "batch aborted, nothing committed" ∉ _ by decide)⟩
  rw [← flatMap_slotEvents_of_fills fills, List.flatMap_def]
  exact mixed.perm

end Schedule

section Sequential

variable {S : Suite} {config : Config} {store : KeyStore} {m : Obligations} {order : Order}

theorem length_items_of_perm (perm : order.Perm m.entries) : (items order).length = m.count := by
  rw [← length_items_entries]
  exact (perm.flatMap_right _).length_eq

theorem report_of_ok (perm : order.Perm m.entries) {signed : Order}
    (h : signInOrder S store order = .ok signed) :
    ∃ made, Turns S store made (items order) (items signed) ∧
      logInOrder S config store order =
        made.flatMap (·.events config) ++ [.batchSigned m.count config.parallel] ∧
      Reports config made (.batchSigned m.count config.parallel) (logInOrder S config store order) := by
  obtain ⟨made, turns⟩ := exists_turns h
  have length : made.length = m.count := by
    rw [← length_items_of_perm perm, ← turns.work, List.length_map]
  have log := logInOrder_of_turns config turns
  rw [length] at log
  refine ⟨made, turns, log, ?_⟩
  rw [log]
  exact reports_of_perm (.refl _) (show "batch signed" ∉ _ by decide)

theorem report_of_error (perm : order.Perm m.entries) {e : SignerError}
    (h : signInOrder S store order = .error e) :
    ∃ made item, FirstFailure S store order (made.map Signing.item) item e ∧
      (∀ s ∈ made, s.Made S store) ∧
      logInOrder S config store order =
        made.flatMap (·.events config) ++ [.aborted e m.count] ∧
      Reports config made (.aborted e m.count) (logInOrder S config store order) := by
  obtain ⟨before, item, first⟩ := signInOrder_eq_error_iff_firstFailure.1 h
  have ⟨⟨after, split⟩, good, bad⟩ := first
  obtain ⟨made, before', turns⟩ := exists_turns_of_good good
  have work : items order = before ++ item :: after := by
    rw [← split, List.append_assoc, List.singleton_append]
  have log := logInOrder_of_error config work turns (failsAlone_iff.1 bad)
  rw [length_items_of_perm perm] at log
  refine ⟨made, item, turns.work ▸ first, turns.made, log, ?_⟩
  rw [log]
  exact reports_of_perm (.refl _) (show "batch aborted, nothing committed" ∉ _ by decide)

end Sequential

section Transactions

variable (S : Suite) (config : Config) (store : KeyStore)

/-- What a transaction adds to the log of its batch if it is signed. -/
def addendum (event : AuditEvent) : Except SignerError Unit → List AuditEvent
  | .ok () => [event]
  | .error _ => []

theorem count_of_signed {m signed : Obligations}
    (h : (signCopy S config store m).outcome = .ok signed) : signed.count = m.count :=
  Obligations.count_eq_of_related (fun lists => lists.length_eq.symm) (signCopy_eq_ok_iff_related.1 h)

theorem events_signTransfer_of_checked {t : Transfer} (checked : checkKeySet t = .ok ()) :
    (signTransfer S config store t).events =
      logInOrder S config store t.obligations.entries ++
        addendum (.transferSigned t.id t.coin.symbol t.obligations.count)
          (signTransfer S config store t).outcome := by
  rw [← events_signCopy]
  simp only [signTransfer, checked]
  cases run : (signCopy S config store t.obligations).outcome with
  | ok signed => simp only [addendum, count_of_signed S config store run]
  | error e => simp only [addendum, List.append_nil]

theorem events_signCall (c : ContractCall) :
    (signCall S config store c).events =
      logInOrder S config store c.obligations.entries ++
        addendum (.callSigned c.id c.coin.symbol c.obligations.count)
          (signCall S config store c).outcome := by
  rw [← events_signObligations]
  simp only [signCall]
  cases run : (signObligations S config store c.obligations).outcome with
  | ok signed =>
    rw [outcome_signObligations] at run
    simp only [addendum, held_signObligations_of_ok run, count_of_signed S config store run]
  | error e => simp only [addendum, List.append_nil]

end Transactions

/-- The audit log is complete. A batch that succeeds, sequentially in any order of the accounts or in
parallel, reports the signing of every obligation and that it was signed. One that fails reports the
signings that it had made, which are in sequence those before the first failure, and the failure. A
transfer that is refused for its key set logs that it is rejected and nothing else; every other
transaction logs its batch and, if that succeeded, that it is signed. -/
theorem audit_log_is_complete (S : Suite) (config : Config) (store : KeyStore) :
    (∀ (m : Obligations) (order : Order), order.Perm m.entries →
      (∀ signed, signInOrder S store order = .ok signed →
        ∃ made, Turns S store made (items order) (items signed) ∧
          logInOrder S config store order =
            made.flatMap (·.events config) ++ [.batchSigned m.count config.parallel] ∧
          Reports config made (.batchSigned m.count config.parallel)
            (logInOrder S config store order)) ∧
      ∀ e, signInOrder S store order = .error e →
        ∃ made item, FirstFailure S store order (made.map Signing.item) item e ∧
          (∀ s ∈ made, s.Made S store) ∧
          logInOrder S config store order =
            made.flatMap (·.events config) ++ [.aborted e m.count] ∧
          Reports config made (.aborted e m.count) (logInOrder S config store order)) ∧
    (∀ m : Obligations,
      (signObligations S config store m).events = logInOrder S config store m.entries) ∧
    (∀ m trace held log,
      (∀ signed, Schedule.Finishes S config store m trace held (.ok signed) →
        Schedule.Logs S config store m trace (.ok signed) log →
        ∃ made, Turns S store made (items m.entries) (items signed.entries) ∧
          Reports config made (.batchSigned m.count config.parallel) log) ∧
      ∀ e, Schedule.Finishes S config store m trace held (.error e) →
        Schedule.Logs S config store m trace (.error e) log →
        ∃ made, List.Forall₂ (Schedule.Fills S store m) (Schedule.signedSlots trace) made ∧
          Reports config made (.aborted e m.count) log) ∧
    (∀ t : Transfer,
      (∀ e, checkKeySet t = .error e →
        (signTransfer S config store t).events = [.rejected t.id t.session e]) ∧
      (checkKeySet t = .ok () →
        (signTransfer S config store t).events =
          logInOrder S config store t.obligations.entries ++
            addendum (.transferSigned t.id t.coin.symbol t.obligations.count)
              (signTransfer S config store t).outcome)) ∧
    ∀ c : ContractCall,
      (signCall S config store c).events =
        logInOrder S config store c.obligations.entries ++
          addendum (.callSigned c.id c.coin.symbol c.obligations.count)
            (signCall S config store c).outcome := by
  refine ⟨fun m order perm => ⟨fun signed => report_of_ok perm, fun e => report_of_error perm⟩,
    events_signObligations S config store,
    fun m trace held log => ⟨fun signed => Schedule.Finishes.reports_signed,
      fun e => Schedule.Finishes.reports_aborted⟩,
    fun t => ⟨fun e refused => ?_, events_signTransfer_of_checked S config store⟩,
    events_signCall S config store⟩
  simp only [signTransfer, refused]

def parallelDebug : Config :=
  { Config.debug with parallel := true }

/-- A parallel batch of three obligations, one of which was signed before, a batch that fails, and a
transfer that is refused. -/
theorem audit_log_is_complete_samples :
    (∃ signed trace log,
      Schedule.processed trace = (sampleBatch "00").slots.reverse ∧
      Schedule.Finishes .standard parallelDebug sampleStore (sampleBatch "00") trace signed
        (.ok signed) ∧
      Schedule.Logs .standard parallelDebug sampleStore (sampleBatch "00") trace (.ok signed) log ∧
      log.filter (·.message = "overwriting existing signature") = [.overwriting "trading" 1 "00"] ∧
      (log.filter (·.message = "obligation signed")).length = 3 ∧
      log.getLast? = some (.batchSigned 3 true)) ∧
    (∃ e, e.code = .digestDecodeError ∧
      let log := (signObligations .standard .debug (uniformKey.store .standard) brokenBatch).events
      log.filter (·.level = "ERROR") = [.aborted e 3] ∧ log.getLast? = some (.aborted e 3)) ∧
    ∃ e, e.code = .incompleteKeySet ∧
      (signTransfer .standard .default lockedStore unlistedTransfer).events =
        [.rejected unlistedTransfer.id unlistedTransfer.session e] := by
  refine ⟨?_, ?_, ?_⟩
  · obtain ⟨signed, outcome⟩ := exists_outcome_sampleBatch
    have outcome :
        (signObligations .standard parallelDebug sampleStore (sampleBatch "00")).outcome =
          .ok signed := by
      rw [outcome_signObligations, signCopy_eq_ok_iff] at outcome ⊢
      exact outcome
    obtain ⟨trace, reversed, finishes⟩ :=
      Schedule.exists_finishes_ok parallelDebug outcome (List.reverse_perm _)
    have logs : Schedule.Logs .standard parallelDebug sampleStore (sampleBatch "00") trace
        (.ok signed) _ := .signed (Interleaved.flatten _)
    obtain ⟨-, -, schedules, -⟩ := audit_log_is_complete .standard parallelDebug sampleStore
    obtain ⟨made, turns, report⟩ := (schedules _ _ _ _).1 signed finishes logs
    refine ⟨signed, trace, _, reversed, finishes, logs, ?_, ?_, report.last⟩
    · have warnings := report.warnings
      rw [turns.warnings] at warnings
      exact warnings.eq_singleton
    · have count : made.length = 3 := (List.length_map Signing.item).symm.trans
        (congrArg List.length turns.work)
      rw [report.records.length_eq, if_pos (show parallelDebug.verbose = true from rfl), List.length_map,
        count]
  · have first : FirstFailure .standard (uniformKey.store .standard) brokenBatch.entries
        [("savings", goodObligation)] ("savings", badObligation)
        ⟨.digestDecodeError, "Message digest is not valid hex: Invalid character 'g' at position 1",
          some "account=savings input_index=1"⟩ :=
      ⟨⟨[("trading", distantObligation)], rfl⟩,
        List.forall_mem_singleton.2 (exists_signs_goodObligation _), _, rfl, by decide⟩
    have failed := signInOrder_eq_error_iff_firstFailure.2 ⟨_, _, first⟩
    obtain ⟨runs, sorted, -⟩ :=
      audit_log_is_complete .standard .debug (uniformKey.store .standard)
    obtain ⟨made, item, -, -, -, report⟩ := (runs brokenBatch _ (.refl _)).2 _ failed
    rw [← sorted] at report
    exact ⟨_, rfl, report.errors, report.last⟩
  · obtain ⟨-, -, -, transfers, -⟩ := audit_log_is_complete .standard .default lockedStore
    have refused := checkKeySet_eq_error_iff.2
      (.inl ⟨(by decide : unlistedTransfer.Unlisted), rfl⟩)
    exact ⟨_, rfl, (transfers unlistedTransfer).1 _ refused⟩

end Batch

end CustodySigner
