import CustodySigner.Proofs.Batch.Schedule

set_option autoImplicit false
set_option relaxedAutoImplicit false

/-!
How a batch fails. However its obligations are scheduled, it fails exactly when one of them fails alone,
with the failure of such a one, and the caller keeps what was passed in. Where they are taken one after
the other, the failure is the first in the order of the accounts.
-/

namespace CustodySigner.Batch.Schedule

def Event.failed? : Event → Option (Slot × SignerError)
  | failed slot e => some (slot, e)
  | signed _ | skipped _ | answered => none

/-- The failures of a schedule, in its order. -/
def failures (trace : List Event) : List (Slot × SignerError) :=
  trace.filterMap Event.failed?

/-- The schedule of a run without parallel tasks. It takes the slots in this order and gives up all that
come after the first failure. -/
inductive Sequential : List Slot → List Event → Prop
  | answered : Sequential [] [.answered]
  | signed {slot : Slot} {slots : List Slot} {trace : List Event} (rest : Sequential slots trace) :
      Sequential (slot :: slots) (.signed slot :: trace)
  | failed {slot : Slot} {slots : List Slot} {e : SignerError} :
      Sequential (slot :: slots) (.failed slot e :: slots.map .skipped ++ [.answered])

/-- How a run of a value with the obligations `m` fails, when the caller passed in `passed`. -/
structure FailsExactly (S : Suite) (store : KeyStore) (m : Obligations) (trace : List Event)
    {σ α : Type} (passed held : σ) (answer : Except SignerError α) : Prop where
  exact_iff : (∃ e, answer = .error e) ↔ ∃ account list o, m.find? account = some list ∧ o ∈ list ∧
    ∃ e, FailsAlone S store (account, o) e
  alone : ∀ e, answer = .error e → ∃ account list o, m.find? account = some list ∧ o ∈ list ∧
    FailsAlone S store (account, o) e
  atomic : ∀ e, answer = .error e → held = passed
  first_iff : ∀ order, order.Perm m.entries → Sequential (slotsOf order) trace →
    ∀ e, answer = .error e ↔ ∃ before item, FirstFailure S store order before item e
  /-- What another store answers for later obligations would make no difference. -/
  later : ∀ order, order.Perm m.entries → Sequential (slotsOf order) trace →
    ∀ other before item e, FirstFailure S other order before item e →
      (∀ item' ∈ before ++ [item], item'.2.AnswersAlike other store) → answer = .error e

variable {S : Suite} {config : Config} {store : KeyStore} {m held : Obligations}
  {trace : List Event} {p : Progress}

section Failures

theorem Sequential.cut {slots : List Slot} (h : Sequential slots trace) :
    (failures trace = [] ∧ signedSlots trace = slots) ∨
      ∃ before slot after e, slots = before ++ slot :: after ∧ signedSlots trace = before ∧
        failures trace = [(slot, e)] := by
  induction h with
  | answered => exact .inl ⟨rfl, rfl⟩
  | @signed slot slots trace _ ih =>
    rcases ih with ⟨none, all⟩ | ⟨before, slot', after, e, rfl, earlier, one⟩
    · exact .inl ⟨none, congrArg (slot :: ·) all⟩
    · exact .inr ⟨slot :: before, slot', after, e, rfl, congrArg (slot :: ·) earlier, one⟩
  | @failed slot slots e =>
    have quiet : ∀ event ∈ slots.map Event.skipped ++ [.answered],
        event.signedSlot? = none ∧ event.failed? = none := by
      intro event mem
      rcases List.mem_append.1 mem with mem | mem
      · obtain ⟨slot', -, rfl⟩ := List.mem_map.1 mem
        exact ⟨rfl, rfl⟩
      · obtain rfl := List.mem_singleton.1 mem
        exact ⟨rfl, rfl⟩
    have unsigned := List.filterMap_eq_nil_iff.2 fun event mem => (quiet event mem).1
    have good := List.filterMap_eq_nil_iff.2 fun event mem => (quiet event mem).2
    exact .inr ⟨[], slot, slots, e, rfl, unsigned, congrArg ((slot, e) :: ·) good⟩

private theorem mem_failures_snoc {event : Event} {item : Slot × SignerError} :
    item ∈ failures (trace ++ [event]) ↔ item ∈ failures trace ∨ event.failed? = some item := by
  simp [failures]

theorem Steps.exists_failure (steps : Steps S config store (start m) trace p) {e : SignerError}
    (mem : e ∈ p.failures) : ∃ slot, (slot, e) ∈ failures trace := by
  induction steps with
  | refl => cases mem
  | @snoc _ _ trace event _ step ih =>
    have kept (before : ∃ slot, (slot, e) ∈ failures trace) :
        ∃ slot, (slot, e) ∈ failures (trace ++ [event]) :=
      before.imp fun _ mem => mem_failures_snoc.2 (.inl mem)
    cases step with
    | @fail slot _ _ _ _ _ =>
      rcases List.mem_cons.1 mem with rfl | mem
      · exact ⟨slot, mem_failures_snoc.2 (.inr rfl)⟩
      · exact kept (ih mem)
    | sign | skip | commit | abort => exact kept (ih mem)

theorem Steps.failures_alone (steps : Steps S config store (start m) trace p) {slot : Slot}
    {e : SignerError} (mem : (slot, e) ∈ failures trace) :
    ∃ o, m.at? slot = some o ∧ signAlone S store slot.account o = .error e := by
  induction steps with
  | refl => cases mem
  | snoc steps step ih =>
    rcases mem_failures_snoc.1 mem with mem | last
    · exact ih mem
    · cases step with
      | fail pending here outcome =>
        obtain ⟨rfl, rfl⟩ := Prod.mk.inj (Option.some.inj last)
        rw [outcome_signOne] at outcome
        exact ⟨_, (steps.sound.at?_pending pending).symm.trans here, outcome⟩
      | sign | skip | commit | abort => cases last

end Failures

section Sequential

variable {order : Order} {answer : Except SignerError Obligations}

/-- What a sequential run reports is the first failure. -/
theorem Finishes.firstFailure (perm : order.Perm m.entries)
    (sequential : Sequential (slotsOf order) trace) {e : SignerError}
    (h : Finishes S config store m trace held (.error e)) :
    ∃ before item, FirstFailure S store order before item e := by
  obtain ⟨p, steps, -, answer⟩ := h
  have sound := steps.sound
  obtain ⟨slot, mem⟩ := steps.exists_failure (sound.aborted e answer).2
  rcases sequential.cut with ⟨none, -⟩ | ⟨before, slot', after, e', split, earlier, one⟩
  · rw [none] at mem
    cases mem
  · rw [one, List.mem_singleton] at mem
    obtain ⟨rfl, rfl⟩ := Prod.mk.inj mem
    -- the work is cut where the schedule is: what came before was signed, and this is what failed
    obtain ⟨o, here, bad⟩ := steps.failures_alone (one ▸ List.mem_singleton_self _)
    have work := Obligations.map_item?_slotsOf perm
    rw [split, List.map_append, List.map_cons] at work
    obtain ⟨items', rest, all, signed, last⟩ := List.map_eq_append_iff.1 work.symm
    obtain ⟨item, rest, rfl, found, -⟩ := List.map_eq_cons_iff.1 last
    obtain ⟨account, here'⟩ := Obligations.item?_eq_some_iff.1 found.symm
    refine ⟨items', item, ⟨rest, by simp [all]⟩, fun other mem => ?_, failsAlone_iff.2 ?_⟩
    · have mem : some other ∈ before.map m.item? := signed ▸ List.mem_map_of_mem mem
      obtain ⟨slot, mem, found⟩ := List.mem_map.1 mem
      obtain ⟨q, q', original, outcome, -⟩ := sound.signed slot (earlier ▸ mem)
      obtain ⟨account, here⟩ := Obligations.item?_eq_some_iff.1 found
      obtain rfl : q = other.2 := Option.some.inj (original.symm.trans here)
      exact ⟨q', signAlone_eq_ok_iff.1 outcome⟩
    · obtain rfl : o = item.2 := Option.some.inj (here.symm.trans here')
      rwa [← account]

theorem Finishes.exists_error_iff (h : Finishes S config store m trace held answer) :
    (∃ e, answer = .error e) ↔ ∃ account list o, m.find? account = some list ∧ o ∈ list ∧
      ∃ e, FailsAlone S store (account, o) e := by
  constructor
  · rintro ⟨e, rfl⟩
    obtain ⟨-, account, list, o, found, mem, bad⟩ := h.failsAlone
    exact ⟨account, list, o, found, mem, e, bad⟩
  · intro failing
    cases answer with
    | error e => exact ⟨e, rfl⟩
    | ok signed =>
      obtain ⟨e, outcome⟩ := exists_signObligations_eq_error_iff.2 failing
      cases (h.outcome config).symm.trans outcome

theorem Finishes.single_eq_error_iff {account : String} {o : Obligation}
    (h : Finishes S config store (.single account o) trace held answer) {e : SignerError} :
    answer = .error e ↔ FailsAlone S store (account, o) e := by
  have alone (e : SignerError) (failed : answer = .error e) : FailsAlone S store (account, o) e := by
    subst failed
    obtain ⟨-, account', list, o', found, mem, bad⟩ := h.failsAlone
    obtain ⟨rfl, rfl⟩ := Prod.mk.inj (List.mem_singleton.1 (Dict.find?_eq_some_iff.1 found))
    obtain rfl := List.mem_singleton.1 mem
    exact bad
  refine ⟨alone e, fun bad => ?_⟩
  have found : (Obligations.single account o).find? account = some [o] :=
    Dict.find?_eq_some_iff.2 List.mem_cons_self
  obtain ⟨e', failed⟩ := h.exists_error_iff.2 ⟨account, [o], o, found, List.mem_cons_self, e, bad⟩
  have bad' := failsAlone_iff.1 (alone e' failed)
  rw [failed, Except.error.inj (bad'.symm.trans (failsAlone_iff.1 bad))]

theorem Finishes.sequential_eq_error_iff (perm : order.Perm m.entries)
    (sequential : Sequential (slotsOf order) trace) (h : Finishes S config store m trace held answer)
    {e : SignerError} : answer = .error e ↔ ∃ before item, FirstFailure S store order before item e := by
  constructor
  · rintro rfl
    exact h.firstFailure perm sequential
  · intro first
    have failed := signInOrder_eq_error_iff_firstFailure.2 first
    cases answer with
    | error e' =>
      have failed' := signInOrder_eq_error_iff_firstFailure.2 (h.firstFailure perm sequential)
      rw [Except.error.inj (failed'.symm.trans failed)]
    | ok signed =>
      obtain ⟨item, mem, e', bad⟩ := exists_signInOrder_eq_error_iff.1 ⟨e, failed⟩
      obtain ⟨list, found, mem⟩ := (mem_items_iff perm).1 mem
      obtain ⟨_, same⟩ := h.exists_error_iff.2 ⟨_, list, item.2, found, mem, e', bad⟩
      cases same

private theorem exists_skips {slots : List Slot} (perm : slots.Perm p.pending)
    (failed : p.failures ≠ []) :
    ∃ p', Steps S config store p (slots.map .skipped) p' ∧ p'.pending = [] ∧
      p'.failures = p.failures ∧ p'.answer = p.answer := by
  induction slots generalizing p with
  | nil => exact ⟨p, .refl p, perm.nil_eq.symm, rfl, rfl⟩
  | cons slot slots ih =>
    obtain ⟨pending, perm⟩ := List.cons_perm_iff_perm_erase.1 perm
    have step : Step S config store p _ _ := .skip pending failed
    obtain ⟨p', steps, done, same, unanswered⟩ := ih (p := { p with pending := _ }) perm failed
    exact ⟨p', steps.cons step, done, same, unanswered⟩

theorem exists_sequential (sound : Sound S store m trace p) (config : Config)
    (unanswered : p.answer = none) (good : p.failures = []) {slots : List Slot}
    (perm : slots.Perm p.pending) :
    ∃ trace' p' answer, Sequential slots trace' ∧ Steps S config store p trace' p' ∧
      p'.answer = some answer := by
  induction slots generalizing trace p with
  | nil =>
    have step : Step S config store p _ _ := .commit unanswered perm.nil_eq.symm good
    exact ⟨_, _, _, .answered, .snoc (.refl p) step, rfl⟩
  | cons slot slots ih =>
    obtain ⟨pending, perm⟩ := List.cons_perm_iff_perm_erase.1 perm
    obtain ⟨o, original⟩ := Obligations.mem_slots_iff.1
      (sound.slots.mem_iff.1 (List.mem_append_right _ pending))
    have here : p.copy.at? slot = some o := (sound.at?_pending pending).trans original
    cases outcome : (signOne S config store slot.account o).outcome with
    | ok o' =>
      have step : Step S config store p _ _ := .sign pending here outcome
      obtain ⟨trace', p', answer, sequential, steps, answered⟩ :=
        ih (sound.step step) unanswered good perm
      exact ⟨_, p', answer, .signed sequential, steps.cons step, answered⟩
    | error e =>
      have step : Step S config store p _ _ := .fail pending here outcome
      -- the rest is given up, and the only failure there is gets reported
      obtain ⟨p', steps, done, same, unanswered'⟩ :=
        exists_skips (p := { p with pending := _, failures := e :: p.failures }) perm
          (List.cons_ne_nil _ _)
      have bad : e ∈ p'.failures := same ▸ List.mem_cons_self
      have aborted := (steps.cons step).snoc (.abort (unanswered'.trans unanswered) done bad)
      exact ⟨_, _, _, .failed, aborted, rfl⟩

theorem exists_finishes_sequential (S : Suite) (config : Config) (store : KeyStore)
    (perm : order.Perm m.entries) : ∃ trace held answer,
      Sequential (slotsOf order) trace ∧ Finishes S config store m trace held answer := by
  obtain ⟨trace, p, answer, sequential, steps, answered⟩ :=
    exists_sequential (sound_start S store m) config rfl rfl (Obligations.perm_slotsOf perm)
  exact ⟨trace, p.held, answer, sequential, p, steps, rfl, answered⟩

/-- The batch signer takes the obligations one after the other, in the order of the keys. -/
theorem exists_finishes_signObligations (S : Suite) (config : Config) (store : KeyStore)
    (m : Obligations) :
    ∃ trace, Sequential (slotsOf m.entries) trace ∧
      Finishes S config store m trace (signObligations S config store m).held
        (signObligations S config store m).outcome := by
  obtain ⟨trace, held, answer, sequential, h⟩ :=
    exists_finishes_sequential S config store (.refl m.entries)
  refine ⟨trace, sequential, ?_⟩
  cases answer with
  | ok signed =>
    obtain rfl := h.related.1
    have outcome := h.outcome config
    have copied := outcome
    rw [outcome_signObligations] at copied
    rw [outcome, held_signObligations_of_ok copied]
    exact h
  | error e =>
    have failed := signInOrder_eq_error_iff_firstFailure.2 (h.firstFailure (.refl _) sequential)
    obtain rfl := h.failsAlone.1
    rw [signObligations_eq_error_iff.2 failed,
      held_signObligations_of_error (signCopy_eq_error_iff.2 failed)]
    exact h

end Sequential

section Exact

variable {σ τ α β : Type} {answer : Except SignerError α}

theorem Finishes.failsExactly {answer : Except SignerError Obligations}
    (h : Finishes S config store m trace held answer) :
    FailsExactly S store m trace m held answer where
  exact_iff := h.exists_error_iff
  alone := by
    rintro e rfl
    exact h.failsAlone.2
  atomic := by
    rintro e rfl
    exact h.failsAlone.1
  first_iff order perm sequential e := h.sequential_eq_error_iff perm sequential
  later order perm sequential other before item e first alike :=
    (h.sequential_eq_error_iff perm sequential).2 ⟨before, item, first.congr_store alike⟩

theorem FailsExactly.map {passed held : σ} (h : FailsExactly S store m trace passed held answer)
    (f : σ → τ) (g : α → β) : FailsExactly S store m trace (f passed) (f held) (answer.map g) where
  exact_iff := by simpa only [map_eq_error_iff] using h.exact_iff
  alone e failed := h.alone e (map_eq_error_iff.1 failed)
  atomic e failed := congrArg f (h.atomic e (map_eq_error_iff.1 failed))
  first_iff order perm sequential e := by
    rw [map_eq_error_iff]
    exact h.first_iff order perm sequential e
  later order perm sequential other before item e first alike :=
    map_eq_error_iff.2 (h.later order perm sequential other before item e first alike)

variable {check : Except SignerError Unit} {replace : Obligations → σ} {held : σ}
  {answer : Except SignerError Unit}

theorem Settles.failsExactly (checked : check = .ok ())
    (h : Settles S config store check m replace trace held answer) :
    FailsExactly S store m trace (replace m) held answer := by
  cases h with
  | refused refused => cases checked.symm.trans refused
  | scheduled _ finishes => exact finishes.failsExactly.map replace _

theorem Settles.atomic (h : Settles S config store check m replace trace held answer)
    {e : SignerError} (failed : answer = .error e) : held = replace m := by
  cases h with
  | refused _ => rfl
  | scheduled checked finishes =>
    exact (finishes.failsExactly.map replace _).atomic e failed

theorem exists_settles_signTransfer (S : Suite) (config : Config) (store : KeyStore) (t : Transfer) :
    ∃ trace, (checkKeySet t = .ok () → Sequential (slotsOf t.obligations.entries) trace) ∧
      SettlesTransfer S config store t trace (signTransfer S config store t).held
        (signTransfer S config store t).outcome := by
  cases checked : checkKeySet t with
  | error e =>
    refine ⟨[], nofun, ?_⟩
    simp only [signTransfer, checked]
    exact .refused checked
  | ok =>
    obtain ⟨trace, sequential, finishes⟩ :=
      exists_finishes_signObligations S config store t.obligations
    obtain ⟨outcome, held⟩ := signTransfer_of_checked S config store checked
    refine ⟨trace, fun _ => sequential, ?_⟩
    rw [outcome, held]
    exact .scheduled checked finishes

theorem exists_settles_signCall (S : Suite) (config : Config) (store : KeyStore) (c : ContractCall) :
    ∃ trace, Sequential (slotsOf c.obligations.entries) trace ∧
      SettlesCall S config store c trace (signCall S config store c).held
        (signCall S config store c).outcome := by
  obtain ⟨trace, sequential, finishes⟩ :=
    exists_finishes_signObligations S config store c.obligations
  obtain ⟨outcome, held⟩ := signCall_eq S config store c
  refine ⟨trace, sequential, ?_⟩
  rw [outcome, held]
  exact .scheduled rfl finishes

end Exact

/-- A batch fails exactly when one of its obligations fails alone, with the failure of such a one, and the
caller then holds what was passed in; so it is for every configuration and schedule, and for both shapes
of transactions, one of them once its accounts are checked. A run without parallel tasks reports the
first failure in the order of its accounts, whatever the store answers after that one. There is such a
run for every order, and the signers make the one in the order of the keys. -/
theorem batch_failure_is_exact_and_atomic (S : Suite) (config : Config) (store : KeyStore) :
    (∀ account o trace held answer,
      Finishes S config store (.single account o) trace held answer →
      ∀ e, answer = .error e ↔ FailsAlone S store (account, o) e) ∧
    (∀ m trace held answer, Finishes S config store m trace held answer →
      FailsExactly S store m trace m held answer) ∧
    (∀ c trace held answer, SettlesCall S config store c trace held answer →
      FailsExactly S store c.obligations trace c held answer) ∧
    (∀ t trace held answer, SettlesTransfer S config store t trace held answer →
      (checkKeySet t = .ok () → FailsExactly S store t.obligations trace t held answer) ∧
      ∀ e, answer = .error e → held = t) ∧
    (∀ m order, order.Perm m.entries → ∃ trace held answer,
      Sequential (slotsOf order) trace ∧ Finishes S config store m trace held answer) ∧
    (∀ m, ∃ trace, Sequential (slotsOf m.entries) trace ∧
      Finishes S config store m trace (signObligations S config store m).held
        (signObligations S config store m).outcome) ∧
    (∀ c, ∃ trace, Sequential (slotsOf c.obligations.entries) trace ∧
      SettlesCall S config store c trace (signCall S config store c).held
        (signCall S config store c).outcome) ∧
    (∀ t, ∃ trace,
      (checkKeySet t = .ok () → Sequential (slotsOf t.obligations.entries) trace) ∧
      SettlesTransfer S config store t trace (signTransfer S config store t).held
        (signTransfer S config store t).outcome) := by
  refine ⟨?_, ?_, ?_, ?_, ?_, exists_finishes_signObligations S config store,
    exists_settles_signCall S config store, exists_settles_signTransfer S config store⟩
  · intro account o trace held answer finishes e
    exact finishes.single_eq_error_iff
  · intro m trace held answer finishes
    exact finishes.failsExactly
  · intro c trace held answer settles
    exact settles.failsExactly rfl
  · intro t trace held answer settles
    exact ⟨fun checked => settles.failsExactly checked, fun e failed => settles.atomic failed⟩
  · intro m order perm
    exact exists_finishes_sequential S config store perm

set_option maxRecDepth 10000 in
theorem batch_failure_is_exact_and_atomic_brokenBatch :
    (∃ e, e.code = .digestDecodeError ∧ e.details = some "account=savings input_index=1" ∧
      (signObligations .standard .default sampleStore brokenBatch).outcome = .error e ∧
      (signObligations .standard .default sampleStore brokenBatch).held = brokenBatch ∧
      (signObligations .standard .default lockedStore brokenBatch).outcome = .error e ∧
      checkKeySet brokenTransfer = .ok () ∧
      (signTransfer .standard .default sampleStore brokenTransfer).outcome = .error e ∧
      (signTransfer .standard .default sampleStore brokenTransfer).held = brokenTransfer) ∧
    (∃ trace held e, Sequential (slotsOf brokenBatch.entries.reverse) trace ∧
      Finishes .standard .default lockedStore brokenBatch trace held (.error e) ∧
      e.details = some "account=trading input_index=0") ∧
    (∃ trace e, e.details = some "account=trading input_index=0" ∧
      Finishes .standard { Config.default with parallel := true } lockedStore brokenBatch trace
        brokenBatch (.error e)) ∧
    ∀ trace held answer,
      Finishes .standard { Config.default with parallel := true } lockedStore brokenBatch trace held
        answer → held = brokenBatch ∧ ∃ e, answer = .error e := by
  obtain ⟨-, runs, -, transfers, -, batches, -, functions⟩ :=
    batch_failure_is_exact_and_atomic .standard .default sampleStore
  obtain ⟨-, locked, -, -, orders, batches', -, -⟩ :=
    batch_failure_is_exact_and_atomic .standard .default lockedStore
  obtain ⟨-, parallel, -, -, -, -, -, -⟩ :=
    batch_failure_is_exact_and_atomic .standard { Config.default with parallel := true } lockedStore
  obtain ⟨signed, good⟩ := exists_eq_ok_of_toBool
    (show (signAlone .standard sampleStore "savings" goodObligation).toBool = true by
      decide +kernel)
  have first : FirstFailure .standard sampleStore brokenBatch.entries
      [("savings", goodObligation)] ("savings", badObligation)
      ⟨.digestDecodeError, "Message digest is not valid hex: Invalid character 'g' at position 1",
        some "account=savings input_index=1"⟩ := by
    refine ⟨⟨[("trading", distantObligation)], rfl⟩, ?_, ⟨_, rfl, ?_⟩⟩
    · intro other mem
      obtain rfl := List.mem_singleton.1 mem
      exact ⟨signed, signAlone_eq_ok_iff.1 good⟩
    · decide
  have last : FirstFailure .standard lockedStore brokenBatch.entries.reverse []
      ("trading", distantObligation)
      ⟨.derivationError, "key store timed out: locked",
        some "account=trading input_index=0"⟩ :=
    ⟨⟨[("savings", goodObligation), ("savings", badObligation)], rfl⟩, by simp, ⟨_, rfl, by decide⟩⟩
  have alike : ∀ other ∈ [("savings", goodObligation)] ++ [("savings", badObligation)],
      other.2.AnswersAlike sampleStore lockedStore := by
    intro other mem curve known
    have edwards : curve = .ed25519 := by
      rcases List.mem_pair.1 mem with rfl | rfl <;> exact (Option.some.inj known).symm
    subst edwards
    rfl
  have checked : checkKeySet brokenTransfer = .ok () := by decide
  obtain ⟨trace, sequential, finishes⟩ := batches brokenBatch
  obtain ⟨trace', sequential', finishes'⟩ := batches' brokenBatch
  obtain ⟨trace'', ordered, settles⟩ := functions brokenTransfer
  obtain ⟨fails, unchanged⟩ := transfers _ _ _ _ settles
  have outcome := ((runs _ _ _ _ finishes).first_iff _ (.refl _) sequential _).2 ⟨_, _, first⟩
  have later := (locked _ _ _ _ finishes').later _ (.refl _) sequential' _ _ _ _ first alike
  have outcome' :=
    ((fails checked).first_iff _ (.refl _) (ordered checked) _).2 ⟨_, _, first⟩
  refine ⟨⟨_, rfl, rfl, outcome, (runs _ _ _ _ finishes).atomic _ outcome, later, checked, outcome',
    unchanged _ outcome'⟩, ?_, ?_, fun trace held answer finishes => ?_⟩
  · obtain ⟨trace, held, answer, sequential, finishes⟩ := orders _ _ (List.reverse_perm _)
    obtain rfl := ((locked _ _ _ _ finishes).first_iff _ (List.reverse_perm _) sequential _).2
      ⟨_, _, last⟩
    exact ⟨trace, held, _, sequential, finishes, rfl⟩
  · obtain ⟨trace, -, finishes⟩ := exists_finishes_error { Config.default with parallel := true }
      (show brokenBatch.find? "trading" = _ from rfl) List.mem_cons_self last.2.2 (.refl _)
    exact ⟨trace, _, rfl, finishes⟩
  · have fails := parallel _ _ _ _ finishes
    obtain ⟨e, failed⟩ := fails.exact_iff.2 ⟨"savings", _, badObligation, rfl,
      List.mem_cons_of_mem _ List.mem_cons_self, _, _, rfl, rfl⟩
    exact ⟨fails.atomic e failed, e, failed⟩

end CustodySigner.Batch.Schedule
