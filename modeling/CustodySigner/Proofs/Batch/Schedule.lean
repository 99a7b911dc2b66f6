import CustodySigner.Proofs.Batch.Failure
import CustodySigner.Proofs.Batch.Slots

set_option autoImplicit false
set_option relaxedAutoImplicit false

/-!
Batches whose obligations are signed in any order. Tasks sign the slots of a private copy one by
one, in any interleaving; once one has failed, any of the others may be given up. All schedules come
to the outcome of the sequential run, except that a failing schedule may report another failure.
-/

namespace CustodySigner.Batch.Schedule

/-- What a schedule does next. -/
inductive Event where
  | signed (slot : Slot)
  | failed (slot : Slot) (e : SignerError)
  /-- Given up after a failure. -/
  | skipped (slot : Slot)
  | answered
deriving DecidableEq, Repr

/-- The slot that the event processes. -/
def Event.slot? : Event → Option Slot
  | signed slot | failed slot _ | skipped slot => some slot
  | answered => none

def Event.signedSlot? : Event → Option Slot
  | signed slot => some slot
  | failed .. | skipped _ | answered => none

/-- The slots that were processed, in the order of the schedule. -/
def processed (trace : List Event) : List Slot :=
  trace.filterMap Event.slot?

/-- The slots that were signed, in the order of the schedule. -/
def signedSlots (trace : List Event) : List Slot :=
  trace.filterMap Event.signedSlot?

/-- How far a batch has come. -/
structure Progress where
  /-- What the caller holds. -/
  held : Obligations
  /-- The private copy. -/
  copy : Obligations
  pending : List Slot
  failures : List SignerError
  answer : Option (Except SignerError Obligations)

/-- Nothing is done yet. -/
def start (m : Obligations) : Progress :=
  ⟨m, m, m.slots, [], none⟩

variable (S : Suite) (config : Config) (store : KeyStore)

/-- One step of a schedule. -/
inductive Step : Progress → Event → Progress → Prop
  | sign {p : Progress} {slot : Slot} {o o' : Obligation} (pending : slot ∈ p.pending)
      (here : p.copy.at? slot = some o)
      (outcome : (signOne S config store slot.account o).outcome = .ok o') :
      Step p (.signed slot)
        { p with copy := p.copy.put slot o', pending := p.pending.erase slot }
  | fail {p : Progress} {slot : Slot} {o : Obligation} {e : SignerError}
      (pending : slot ∈ p.pending) (here : p.copy.at? slot = some o)
      (outcome : (signOne S config store slot.account o).outcome = .error e) :
      Step p (.failed slot e)
        { p with pending := p.pending.erase slot, failures := e :: p.failures }
  | skip {p : Progress} {slot : Slot} (pending : slot ∈ p.pending) (failed : p.failures ≠ []) :
      Step p (.skipped slot) { p with pending := p.pending.erase slot }
  | commit {p : Progress} (unanswered : p.answer = none) (done : p.pending = [])
      (good : p.failures = []) :
      Step p .answered { p with held := p.copy, answer := some (.ok p.copy) }
  | abort {p : Progress} {e : SignerError} (unanswered : p.answer = none) (done : p.pending = [])
      (bad : e ∈ p.failures) :
      Step p .answered { p with answer := some (.error e) }

/-- The schedules from one progress to another. -/
inductive Steps : Progress → List Event → Progress → Prop
  | refl (p : Progress) : Steps p [] p
  | snoc {p p' p'' : Progress} {trace : List Event} {event : Event} (steps : Steps p trace p')
      (step : Step S config store p' event p'') : Steps p (trace ++ [event]) p''

/-- A schedule of the batch that comes to an answer, with what the caller then holds. -/
def Finishes (m : Obligations) (trace : List Event) (held : Obligations)
    (answer : Except SignerError Obligations) : Prop :=
  ∃ p, Steps S config store (start m) trace p ∧ p.held = held ∧ p.answer = some answer

/-- A run of a transaction with the obligations `m`, where `replace` puts others in their place: it is
refused for what is checked first, or a schedule of its obligations decides. -/
inductive Settles {σ : Type} (check : Except SignerError Unit) (m : Obligations)
    (replace : Obligations → σ) : List Event → σ → Except SignerError Unit → Prop
  | refused {e : SignerError} (refused : check = .error e) :
      Settles check m replace [] (replace m) (.error e)
  | scheduled {trace : List Event} {held : Obligations} {answer : Except SignerError Obligations}
      (checked : check = .ok ()) (finishes : Finishes S config store m trace held answer) :
      Settles check m replace trace (replace held) (answer.map fun _ => ())

def SettlesTransfer (t : Transfer) : List Event → Transfer → Except SignerError Unit → Prop :=
  Settles S config store (checkKeySet t) t.obligations fun m => { t with obligations := m }

def SettlesCall (c : ContractCall) :
    List Event → ContractCall → Except SignerError Unit → Prop :=
  Settles S config store (.ok ()) c.obligations fun m => { c with obligations := m }

variable {S config store}

theorem Steps.cons {p p' p'' : Progress} {event : Event} {trace : List Event}
    (step : Step S config store p event p') (steps : Steps S config store p' trace p'') :
    Steps S config store p (event :: trace) p'' := by
  induction steps with
  | refl => exact .snoc (.refl p) step
  | snoc _ last ih => exact .snoc ih last

/-- What holds of the progress after every schedule. -/
structure Sound (S : Suite) (store : KeyStore) (m : Obligations) (trace : List Event)
    (p : Progress) : Prop where
  keys : p.copy.keys = m.keys
  /-- Every slot was processed once or is pending. -/
  slots : (processed trace ++ p.pending).Perm m.slots
  signed : ∀ slot ∈ signedSlots trace, ∃ o o', m.at? slot = some o ∧
    signAlone S store slot.account o = .ok o' ∧ p.copy.at? slot = some o'
  untouched : ∀ slot, slot ∉ signedSlots trace → p.copy.at? slot = m.at? slot
  failures : ∀ e ∈ p.failures, ∃ slot o, m.at? slot = some o ∧
    signAlone S store slot.account o = .error e
  /-- Without a failure nothing was given up. -/
  complete : p.failures = [] → processed trace = signedSlots trace
  unanswered : p.answer = none → p.held = m
  answered : ∀ answer, p.answer = some answer → p.pending = []
  succeeded : ∀ signed, p.answer = some (.ok signed) →
    p.held = signed ∧ p.copy = signed ∧ p.failures = []
  aborted : ∀ e, p.answer = some (.error e) → p.held = m ∧ e ∈ p.failures

theorem sound_start (S : Suite) (store : KeyStore) (m : Obligations) :
    Sound S store m [] (start m) where
  keys := rfl
  slots := .refl _
  signed slot mem := by cases mem
  untouched slot _ := rfl
  failures e mem := by cases mem
  complete _ := rfl
  unanswered _ := rfl
  answered answer answered := by cases answered
  succeeded signed answer := by cases answer
  aborted e answer := by cases answer

section Preservation

variable {m : Obligations} {trace : List Event} {p : Progress}

theorem Sound.nodup (h : Sound S store m trace p) : (processed trace ++ p.pending).Nodup :=
  h.slots.nodup_iff.2 m.nodup_slots

theorem signedSlots_subset_processed {slot : Slot} (mem : slot ∈ signedSlots trace) :
    slot ∈ processed trace := by
  obtain ⟨event, here, found⟩ := List.mem_filterMap.1 mem
  refine List.mem_filterMap.2 ⟨event, here, ?_⟩
  cases event with
  | signed slot' => exact found
  | failed slot' e => cases found
  | skipped slot' => cases found
  | answered => cases found

theorem Sound.at?_pending (h : Sound S store m trace p) {slot : Slot} (pending : slot ∈ p.pending) :
    p.copy.at? slot = m.at? slot := by
  refine h.untouched slot fun mem => ?_
  have disjoint := (List.nodup_append'.1 h.nodup).2.2
  exact disjoint (signedSlots_subset_processed mem) pending

theorem Sound.answer_of_pending (h : Sound S store m trace p) {slot : Slot}
    (pending : slot ∈ p.pending) : p.answer = none := by
  cases answer : p.answer with
  | none => rfl
  | some answer' =>
    rw [h.answered answer' answer] at pending
    cases pending

private theorem slots_process (h : Sound S store m trace p) {slot : Slot}
    (pending : slot ∈ p.pending) {event : Event} (here : event.slot? = some slot) :
    (processed (trace ++ [event]) ++ p.pending.erase slot).Perm m.slots := by
  have split : processed (trace ++ [event]) = processed trace ++ [slot] := by
    simp [processed, here]
  rw [split, List.append_assoc]
  refine .trans (.append_left _ ?_) h.slots
  exact (List.perm_cons_erase pending).symm

private theorem signedSlots_snoc_of_none {event : Event} (h : event.signedSlot? = none) :
    signedSlots (trace ++ [event]) = signedSlots trace := by
  simp [signedSlots, h]

private theorem signedSlots_snoc_signed (slot : Slot) :
    signedSlots (trace ++ [.signed slot]) = signedSlots trace ++ [slot] := by
  simp [signedSlots, Event.signedSlot?]

theorem Sound.sign (h : Sound S store m trace p) {slot : Slot} {o o' : Obligation}
    (pending : slot ∈ p.pending) (here : p.copy.at? slot = some o)
    (outcome : (signOne S config store slot.account o).outcome = .ok o') :
    Sound S store m (trace ++ [.signed slot])
      { p with copy := p.copy.put slot o', pending := p.pending.erase slot } := by
  have unanswered := h.answer_of_pending pending
  rw [outcome_signOne] at outcome
  have original : m.at? slot = some o := (h.at?_pending pending).symm.trans here
  have fresh : slot ∉ signedSlots trace := fun mem =>
    (List.nodup_append'.1 h.nodup).2.2 (signedSlots_subset_processed mem) pending
  constructor
  case keys => rw [Obligations.keys_put, h.keys]
  case slots => exact slots_process h pending rfl
  case signed =>
    intro other mem
    rw [signedSlots_snoc_signed, List.mem_append, List.mem_singleton] at mem
    rcases mem with mem | rfl
    · obtain ⟨q, q', found, signed, copied⟩ := h.signed other mem
      have ne : other ≠ slot := fun same => fresh (same ▸ mem)
      exact ⟨q, q', found, signed, (Obligations.at?_put_of_ne o' ne).trans copied⟩
    · exact ⟨o, o', original, outcome, Obligations.at?_put_self o' here⟩
  case untouched =>
    intro other mem
    rw [signedSlots_snoc_signed, List.mem_append, List.mem_singleton, not_or] at mem
    exact (Obligations.at?_put_of_ne o' mem.2).trans (h.untouched other mem.1)
  case failures => exact h.failures
  case complete =>
    intro good
    have before := h.complete good
    unfold processed at before ⊢
    rw [signedSlots_snoc_signed, List.filterMap_append, before]
    rfl
  case unanswered => exact h.unanswered
  case answered => simp [unanswered]
  case succeeded => simp [unanswered]
  case aborted => simp [unanswered]

private theorem Sound.leave (h : Sound S store m trace p) {slot : Slot}
    (pending : slot ∈ p.pending) {event : Event} (here : event.slot? = some slot)
    (unsigned : event.signedSlot? = none) {failures : List SignerError} (failed : failures ≠ [])
    (sound : ∀ e ∈ failures, ∃ slot o, m.at? slot = some o ∧
      signAlone S store slot.account o = .error e) :
    Sound S store m (trace ++ [event])
      { p with pending := p.pending.erase slot, failures := failures } := by
  have unanswered := h.answer_of_pending pending
  have same : signedSlots (trace ++ [event]) = signedSlots trace :=
    signedSlots_snoc_of_none unsigned
  constructor
  case keys => exact h.keys
  case slots => exact slots_process h pending here
  case signed =>
    rw [same]
    exact h.signed
  case untouched =>
    rw [same]
    exact h.untouched
  case failures => exact sound
  case complete => exact fun good => absurd good failed
  case unanswered => exact h.unanswered
  case answered => simp [unanswered]
  case succeeded => simp [unanswered]
  case aborted => simp [unanswered]

theorem Sound.fail (h : Sound S store m trace p) {slot : Slot} {o : Obligation} {e : SignerError}
    (pending : slot ∈ p.pending) (here : p.copy.at? slot = some o)
    (outcome : (signOne S config store slot.account o).outcome = .error e) :
    Sound S store m (trace ++ [.failed slot e])
      { p with pending := p.pending.erase slot, failures := e :: p.failures } := by
  rw [outcome_signOne] at outcome
  have original : m.at? slot = some o := (h.at?_pending pending).symm.trans here
  refine h.leave pending rfl rfl (List.cons_ne_nil _ _) fun e' mem => ?_
  rcases List.mem_cons.1 mem with rfl | mem
  · exact ⟨slot, o, original, outcome⟩
  · exact h.failures e' mem

theorem Sound.skip (h : Sound S store m trace p) {slot : Slot} (pending : slot ∈ p.pending)
    (failed : p.failures ≠ []) :
    Sound S store m (trace ++ [.skipped slot]) { p with pending := p.pending.erase slot } :=
  h.leave pending rfl rfl failed h.failures

private theorem Sound.answer (h : Sound S store m trace p) (done : p.pending = [])
    {held : Obligations} {answer : Except SignerError Obligations}
    (succeeded : ∀ signed, answer = .ok signed →
      held = signed ∧ p.copy = signed ∧ p.failures = [])
    (aborted : ∀ e, answer = .error e → held = m ∧ e ∈ p.failures) :
    Sound S store m (trace ++ [.answered]) { p with held := held, answer := some answer } := by
  have same : signedSlots (trace ++ [.answered]) = signedSlots trace :=
    signedSlots_snoc_of_none rfl
  have unprocessed : processed (trace ++ [.answered]) = processed trace := by
    simp [processed, Event.slot?]
  constructor
  case keys => exact h.keys
  case slots =>
    rw [unprocessed]
    exact h.slots
  case signed =>
    rw [same]
    exact h.signed
  case untouched =>
    rw [same]
    exact h.untouched
  case failures => exact h.failures
  case complete =>
    rw [unprocessed, same]
    exact h.complete
  case unanswered => simp
  case answered => exact fun _ _ => done
  case succeeded => exact fun signed h' => succeeded signed (Option.some.inj h')
  case aborted => exact fun e h' => aborted e (Option.some.inj h')

/-- What one step preserves. -/
theorem Sound.step (h : Sound S store m trace p) {event : Event} {p' : Progress}
    (step : Step S config store p event p') : Sound S store m (trace ++ [event]) p' := by
  cases step with
  | sign pending here outcome => exact h.sign pending here outcome
  | fail pending here outcome => exact h.fail pending here outcome
  | skip pending failed => exact h.skip pending failed
  | commit unanswered done good =>
    refine h.answer done (fun signed same => ?_) (fun e same => by cases same)
    exact ⟨Except.ok.inj same, Except.ok.inj same, good⟩
  | abort unanswered done bad =>
    refine h.answer done (fun signed same => by cases same) (fun e same => ?_)
    obtain rfl := Except.error.inj same
    exact ⟨h.unanswered unanswered, bad⟩

/-- What every schedule preserves. -/
theorem Steps.sound {p' : Progress} (steps : Steps S config store (start m) trace p') :
    Sound S store m trace p' := by
  induction steps with
  | refl => exact sound_start S store m
  | snoc _ step ih => exact ih.step step

end Preservation

section Answers

variable {m held : Obligations} {trace : List Event} {p : Progress}

theorem Finishes.signedSlots_perm {signed : Obligations}
    (h : Finishes S config store m trace held (.ok signed)) : (signedSlots trace).Perm m.slots := by
  obtain ⟨p, steps, -, answer⟩ := h
  have sound := steps.sound
  obtain ⟨-, -, good⟩ := sound.succeeded signed answer
  have slots := sound.slots
  rwa [sound.answered _ answer, List.append_nil, sound.complete good] at slots

theorem Finishes.related {signed : Obligations}
    (h : Finishes S config store m trace held (.ok signed)) :
    held = signed ∧ Dict.Related (fun _ => List.Forall₂ (Signs S store)) m signed := by
  have every := h.signedSlots_perm
  obtain ⟨p, steps, rfl, answer⟩ := h
  have sound := steps.sound
  obtain ⟨held, rfl, -⟩ := sound.succeeded signed answer
  refine ⟨held, Obligations.related_of_at? (R := fun _ => Signs S store) sound.keys ?_ ?_⟩
  · intro slot o here
    have mem : slot ∈ signedSlots trace :=
      every.mem_iff.2 (Obligations.mem_slots_iff.2 ⟨o, here⟩)
    obtain ⟨q, o', original, outcome, copied⟩ := sound.signed slot mem
    obtain rfl : o = q := Option.some.inj (here.symm.trans original)
    exact ⟨o', copied, signAlone_eq_ok_iff.1 outcome⟩
  · intro slot o' copied
    by_cases mem : slot ∈ signedSlots trace
    · exact Obligations.mem_slots_iff.1 (every.mem_iff.1 mem)
    · exact ⟨o', (sound.untouched slot mem).symm.trans copied⟩

/-- A schedule that succeeds commits what the sequential run commits. -/
theorem Finishes.outcome {signed : Obligations} (again : Config)
    (h : Finishes S config store m trace held (.ok signed)) :
    (signObligations S again store m).outcome = .ok signed := by
  rw [outcome_signObligations, signCopy_eq_ok_iff_related]
  exact h.related.2

theorem Finishes.failsAlone {e : SignerError}
    (h : Finishes S config store m trace held (.error e)) :
    held = m ∧ ∃ account list o, m.find? account = some list ∧ o ∈ list ∧
      FailsAlone S store (account, o) e := by
  obtain ⟨p, steps, rfl, answer⟩ := h
  have sound := steps.sound
  obtain ⟨held, failed⟩ := sound.aborted e answer
  obtain ⟨slot, o, here, bad⟩ := sound.failures e failed
  obtain ⟨list, found, here⟩ := Obligations.at?_eq_some_iff.1 here
  exact ⟨held, slot.account, list, o, found, List.mem_of_getElem? here, failsAlone_iff.2 bad⟩

theorem Finishes.isOk_iff {answer : Except SignerError Obligations} (again : Config)
    (h : Finishes S config store m trace held answer) :
    (∃ signed, answer = .ok signed) ↔
      ∃ signed, (signObligations S again store m).outcome = .ok signed := by
  cases answer with
  | ok signed => exact ⟨fun _ => ⟨signed, h.outcome again⟩, fun _ => ⟨signed, rfl⟩⟩
  | error e =>
    obtain ⟨account, list, o, found, mem, bad⟩ := h.failsAlone.2
    obtain ⟨e', outcome⟩ : ∃ e', (signObligations S again store m).outcome = .error e' :=
      exists_signObligations_eq_error_iff.2 ⟨account, list, o, found, mem, e, bad⟩
    constructor
    · rintro ⟨signed, same⟩
      cases same
    · rintro ⟨signed, outcome'⟩
      cases outcome.symm.trans outcome'

end Answers

section Existence

variable {m : Obligations}

theorem exists_step {trace : List Event} {p : Progress} (sound : Sound S store m trace p)
    (config : Config) {slot : Slot} (pending : slot ∈ p.pending) :
    ∃ event p', Step S config store p event p' ∧ event.slot? = some slot ∧
      p'.pending = p.pending.erase slot ∧ p'.answer = p.answer ∧ p.failures ⊆ p'.failures ∧
      ∀ o e, m.at? slot = some o → signAlone S store slot.account o = .error e →
        e ∈ p'.failures := by
  have mem : slot ∈ m.slots := sound.slots.mem_iff.1 (List.mem_append_right _ pending)
  obtain ⟨o, original⟩ := Obligations.mem_slots_iff.1 mem
  have here : p.copy.at? slot = some o := (sound.at?_pending pending).trans original
  have unique {q : Obligation} (found : m.at? slot = some q) : o = q :=
    Option.some.inj (original.symm.trans found)
  cases outcome : (signOne S config store slot.account o).outcome with
  | ok o' =>
    refine ⟨_, _, .sign pending here outcome, rfl, rfl, rfl, fun _ => id, ?_⟩
    intro q e found bad
    obtain rfl := unique found
    rw [outcome_signOne, bad] at outcome
    cases outcome
  | error e =>
    refine ⟨_, _, .fail pending here outcome, rfl, rfl, rfl, List.subset_cons_self _ _, ?_⟩
    intro q e' found bad
    obtain rfl := unique found
    rw [outcome_signOne, bad] at outcome
    obtain rfl := Except.error.inj outcome
    exact List.mem_cons_self

theorem exists_processing {trace : List Event} {p : Progress} (sound : Sound S store m trace p)
    (config : Config) {order : List Slot} (perm : order.Perm p.pending) :
    ∃ trace' p', Steps S config store p trace' p' ∧ p'.pending = [] ∧ p'.answer = p.answer ∧
      processed trace' = order ∧ p.failures ⊆ p'.failures ∧
      ∀ slot ∈ order, ∀ o e, m.at? slot = some o →
        signAlone S store slot.account o = .error e → e ∈ p'.failures := by
  induction order generalizing trace p with
  | nil =>
    refine ⟨[], p, .refl p, perm.nil_eq.symm, rfl, rfl, fun _ => id, ?_⟩
    intro slot mem
    cases mem
  | cons slot order ih =>
    obtain ⟨pending, perm⟩ := List.cons_perm_iff_perm_erase.1 perm
    obtain ⟨event, q, step, here, rest, unanswered, kept, collected⟩ :=
      exists_step sound config pending
    obtain ⟨trace', p', steps, done, answer, order', before, after⟩ :=
      ih (sound.step step) (rest ▸ perm)
    refine ⟨event :: trace', p', steps.cons step, done, answer.trans unanswered, ?_,
      fun e mem => before (kept mem), ?_⟩
    · simp only [processed, List.filterMap_cons, here]
      exact congrArg (slot :: ·) order'
    · intro other mem o e found bad
      rcases List.mem_cons.1 mem with rfl | mem
      · exact before (collected o e found bad)
      · exact after other mem o e found bad

theorem exists_answer {trace : List Event} {p : Progress}
    (steps : Steps S config store (start m) trace p) :
    ∃ trace' p' answer, Steps S config store p trace' p' ∧ p'.answer = some answer := by
  cases answer : p.answer with
  | some given => exact ⟨[], p, given, .refl p, answer⟩
  | none =>
    obtain ⟨trace', p', steps', done, same, -⟩ := exists_processing steps.sound config (.refl _)
    cases failures : p'.failures with
    | nil =>
      exact ⟨_, _, _, steps'.snoc (.commit (same.trans answer) done failures), rfl⟩
    | cons e others =>
      have bad : e ∈ p'.failures := failures ▸ List.mem_cons_self
      exact ⟨_, _, _, steps'.snoc (.abort (same.trans answer) done bad), rfl⟩

private theorem processed_snoc_answered (trace : List Event) :
    processed (trace ++ [.answered]) = processed trace := by
  simp [processed, Event.slot?]

theorem exists_finishes_ok (config : Config) {signed : Obligations}
    (outcome : (signObligations S config store m).outcome = .ok signed) {order : List Slot}
    (perm : order.Perm m.slots) :
    ∃ trace, processed trace = order ∧ Finishes S config store m trace signed (.ok signed) := by
  obtain ⟨trace, p, steps, done, answer, order', -⟩ :=
    exists_processing (sound_start S store m) config perm
  -- a failure could be reported, but no schedule of this batch fails
  have good : p.failures = [] := by
    refine List.eq_nil_iff_forall_not_mem.2 fun e mem => ?_
    have aborted := steps.snoc (.abort answer done mem)
    have finishes : Finishes S config store m _ _ (.error e) := ⟨_, aborted, rfl, rfl⟩
    obtain ⟨signed', same⟩ := (finishes.isOk_iff config).2 ⟨signed, outcome⟩
    cases same
  have committed := steps.snoc (.commit answer done good)
  have finishes : Finishes S config store m _ p.copy (.ok p.copy) := ⟨_, committed, rfl, rfl⟩
  obtain rfl : p.copy = signed :=
    Except.ok.inj ((finishes.outcome config).symm.trans outcome)
  exact ⟨_, (processed_snoc_answered trace).trans order', finishes⟩

theorem exists_finishes_error (config : Config) {account : String} {list : List Obligation}
    {o : Obligation} {e : SignerError} (found : m.find? account = some list) (mem : o ∈ list)
    (bad : FailsAlone S store (account, o) e) {order : List Slot} (perm : order.Perm m.slots) :
    ∃ trace, processed trace = order ∧ Finishes S config store m trace m (.error e) := by
  obtain ⟨trace, p, steps, done, answer, order', -, collected⟩ :=
    exists_processing (sound_start S store m) config perm
  obtain ⟨index, here⟩ := List.mem_iff_getElem?.1 mem
  have here : m.at? ⟨account, index⟩ = some o :=
    Obligations.at?_eq_some_iff.2 ⟨list, found, here⟩
  have failed : e ∈ p.failures :=
    collected ⟨account, index⟩ (perm.mem_iff.2 (Obligations.mem_slots_iff.2 ⟨o, here⟩)) o e here
      (failsAlone_iff.1 bad)
  have held : p.held = m := steps.sound.unanswered answer
  exact ⟨_, (processed_snoc_answered trace).trans order',
    _, steps.snoc (.abort answer done failed), held, rfl⟩

end Existence

/-- All schedules of a batch agree on whether it succeeds and on what it commits. One that succeeds
has signed every slot once; one that fails has committed nothing and reports the failure of an
obligation that fails alone. No schedule gets stuck, and the slots may be taken in any order. -/
theorem schedules_agree (S : Suite) (store : KeyStore) (m : Obligations) :
    (∀ config config' trace trace' held held' answer answer',
      Finishes S config store m trace held answer →
      Finishes S config' store m trace' held' answer' →
      ((∃ signed, answer = .ok signed) ↔ ∃ signed, answer' = .ok signed) ∧
      ∀ signed signed', answer = .ok signed → answer' = .ok signed' →
        signed = signed' ∧ held = held') ∧
    (∀ config trace held signed, Finishes S config store m trace held (.ok signed) →
      held = signed ∧ (signObligations S config store m).outcome = .ok signed ∧
      (signedSlots trace).Perm m.slots ∧ (signedSlots trace).Nodup) ∧
    (∀ config trace held e, Finishes S config store m trace held (.error e) →
      held = m ∧ ∃ account list o, m.find? account = some list ∧ o ∈ list ∧
        FailsAlone S store (account, o) e) ∧
    (∀ config trace p, Steps S config store (start m) trace p →
      (p.answer = none → p.held = m) ∧
      ∃ trace' p' answer, Steps S config store p trace' p' ∧ p'.answer = some answer) ∧
    (∀ config order, order.Perm m.slots →
      (∀ signed, (signObligations S config store m).outcome = .ok signed →
        ∃ trace, processed trace = order ∧
          Finishes S config store m trace signed (.ok signed)) ∧
      ∀ account list o e, m.find? account = some list → o ∈ list →
        FailsAlone S store (account, o) e →
        ∃ trace, processed trace = order ∧ Finishes S config store m trace m (.error e)) := by
  refine ⟨?_, ?_, ?_, ?_, ?_⟩
  · intro config config' trace trace' held held' answer answer' finishes finishes'
    refine ⟨(finishes.isOk_iff config).trans (finishes'.isOk_iff config).symm, ?_⟩
    rintro signed signed' rfl rfl
    obtain rfl : signed = signed' :=
      Except.ok.inj ((finishes.outcome config).symm.trans (finishes'.outcome config))
    exact ⟨rfl, finishes.related.1.trans finishes'.related.1.symm⟩
  · intro config trace held signed finishes
    have every := finishes.signedSlots_perm
    exact ⟨finishes.related.1, finishes.outcome config, every, every.nodup_iff.2 m.nodup_slots⟩
  · intro config trace held e finishes
    exact finishes.failsAlone
  · intro config trace p steps
    exact ⟨steps.sound.unanswered, exists_answer steps⟩
  · intro config order perm
    exact ⟨fun signed outcome => exists_finishes_ok config outcome perm,
      fun account list o e found mem bad => exists_finishes_error config found mem bad perm⟩

/-- Two orders of a batch that succeeds, one of them in parallel, and two schedules of a batch that
fails, which report different failures. -/
theorem schedules_agree_samples :
    (∃ signed trace trace',
      processed trace = (sampleBatch "00").slots ∧
      processed trace' = (sampleBatch "00").slots.reverse ∧
      Finishes .standard .default sampleStore (sampleBatch "00") trace signed (.ok signed) ∧
      Finishes .standard { Config.default with parallel := true } sampleStore (sampleBatch "00")
        trace' signed (.ok signed) ∧
      (signedSlots trace').Perm (sampleBatch "00").slots) ∧
    ∃ e e' trace trace', e ≠ e' ∧
      Finishes .standard .default lockedStore brokenBatch trace brokenBatch (.error e) ∧
      Finishes .standard .default lockedStore brokenBatch trace' brokenBatch (.error e') := by
  constructor
  · obtain ⟨signed, outcome⟩ := exists_outcome_sampleBatch
    obtain ⟨-, success, -, -, orders⟩ :=
      schedules_agree .standard sampleStore (sampleBatch "00")
    obtain ⟨trace, order, finishes⟩ := (orders .default _ (.refl _)).1 signed outcome
    have outcome' := finishes.outcome { Config.default with parallel := true }
    obtain ⟨trace', order', finishes'⟩ :=
      (orders _ _ (List.reverse_perm _)).1 signed outcome'
    exact ⟨signed, trace, trace', order, order', finishes, finishes',
      (success _ _ _ _ finishes').2.2.1⟩
  · obtain ⟨-, -, -, -, orders⟩ := schedules_agree .standard lockedStore brokenBatch
    obtain ⟨-, failures⟩ := orders .default _ (.refl _)
    obtain ⟨trace, -, finishes⟩ := failures "savings" _ badObligation _ rfl
      (List.mem_cons_of_mem _ List.mem_cons_self) ⟨_, rfl, rfl⟩
    obtain ⟨trace', -, finishes'⟩ := failures "trading" _ distantObligation _ rfl
      List.mem_cons_self ⟨_, rfl, rfl⟩
    exact ⟨_, _, trace, trace', by decide, finishes, finishes'⟩

end CustodySigner.Batch.Schedule
