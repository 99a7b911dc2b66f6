import CustodySigner.Proofs.Batch.Failure

set_option autoImplicit false
set_option relaxedAutoImplicit false

/-!
What a batch logs when its obligations are signed one after the other. The log follows the work: each
obligation that is signed adds its own events, one that fails adds none, and the batch closes the log.
-/

namespace CustodySigner

namespace Audited

variable {α β : Type}

theorem events_pure (a : α) : (pure a : Audited α).events = [] := rfl

theorem events_bind_of_ok {x : Audited α} {f : α → Audited β} {a : α} (h : x.outcome = .ok a) :
    (x >>= f).events = x.events ++ (f a).events := by
  change (Audited.bind x f).events = _
  simp only [Audited.bind, h]

theorem events_bind_of_error {x : Audited α} {f : α → Audited β} {e : SignerError}
    (h : x.outcome = .error e) : (x >>= f).events = x.events := by
  change (Audited.bind x f).events = _
  simp only [Audited.bind, h]

@[simp] theorem outcome_map (f : α → β) (x : Audited α) : (f <$> x).outcome = x.outcome.map f := by
  rw [map_eq_pure_bind, outcome_bind]
  cases x.outcome <;> rfl

@[simp] theorem events_map (f : α → β) (x : Audited α) : (f <$> x).events = x.events := by
  rw [map_eq_pure_bind]
  cases h : x.outcome with
  | ok a => rw [events_bind_of_ok h, events_pure, List.append_nil]
  | error e => rw [events_bind_of_error h]

variable {f : α → Audited β} {l : List α}

theorem events_mapM_append {rest : List α} (good : ∀ a ∈ l, ∃ b, (f a).outcome = .ok b) :
    ((l ++ rest).mapM f).events = l.flatMap (fun a => (f a).events) ++ (rest.mapM f).events := by
  induction l with
  | nil => rfl
  | cons a l ih =>
    obtain ⟨⟨b, here⟩, good⟩ := List.forall_mem_cons.1 good
    have tail (g : List β → List β) :
        ((l ++ rest).mapM f >>= fun bs => pure (g bs)).events =
          l.flatMap (fun a => (f a).events) ++ (rest.mapM f).events := by
      rw [← map_eq_pure_bind, events_map, ih good]
    rw [List.cons_append, List.mapM_cons, events_bind_of_ok here, tail, List.flatMap_cons,
      List.append_assoc]

theorem events_mapM_of_ok (good : ∀ a ∈ l, ∃ b, (f a).outcome = .ok b) :
    (l.mapM f).events = l.flatMap fun a => (f a).events := by
  have all : ((l ++ []).mapM f).events = _ := events_mapM_append good
  rwa [List.append_nil, List.mapM_nil, events_pure, List.append_nil] at all

theorem events_mapM_of_error {a : α} {after : List α} {e : SignerError}
    (good : ∀ a ∈ l, ∃ b, (f a).outcome = .ok b) (bad : (f a).outcome = .error e) :
    ((l ++ a :: after).mapM f).events = l.flatMap (fun a => (f a).events) ++ (f a).events := by
  rw [events_mapM_append good, List.mapM_cons, events_bind_of_error bad]

end Audited

/-- An obligation that a run has signed: where it belongs, what it was and what it has become. -/
structure Signing where
  account : String
  curve : Curve
  before : Obligation
  after : Obligation
deriving DecidableEq, Repr

namespace Signing

variable (config : Config) (s : Signing)

def item : String × Obligation :=
  (s.account, s.before)

def signedItem : String × Obligation :=
  (s.account, s.after)

/-- The signature is the one that the policy makes with the store's key on the obligation's curve. -/
def Made (S : Suite) (store : KeyStore) (s : Signing) : Prop :=
  s.before.curve? = some s.curve ∧ Batch.Signs S store s.before s.after

/-- A signature that was there before is replaced. -/
def warning : AuditEvent :=
  .overwriting s.account s.before.inputIndex ((Redactor.ofConfig config).hash s.before.signed)

/-- The obligation has its signature. -/
def record : AuditEvent :=
  .obligationSigned {
    account := s.account
    wallet := s.before.wallet
    inputIndex := s.before.inputIndex
    curve := s.curve
    path := s.before.path
    address := (Redactor.ofConfig config).address s.before.address
    message := (Redactor.ofConfig config).hash s.before.message
    signed := (Redactor.ofConfig config).hash s.after.signed }

/-- What a run logs of the obligation. -/
def events : List AuditEvent :=
  (if s.before.isSigned then [s.warning config] else []) ++
    if config.verbose then [s.record config] else []

end Signing

namespace Dict

variable {α β : Type}

theorem traverseEntries_mapM (g : String → α → Audited β) (entries : List (String × List α)) :
    (fun _ => ()) <$> traverseEntries (fun key list => list.mapM (g key)) entries =
      (fun _ => ()) <$> (entries.flatMap fun entry => entry.2.map (entry.1, ·)).mapM fun item =>
        g item.1 item.2 := by
  induction entries with
  | nil => rfl
  | cons entry rest ih =>
    obtain ⟨key, list⟩ := entry
    simp only [map_eq_pure_bind] at ih
    simp only [traverseEntries, List.flatMap_cons, List.mapM_append, List.mapM_map, Function.comp_def,
      map_eq_pure_bind, bind_assoc, pure_bind, ih]

theorem traverse_mapM (g : String → α → Audited β) (d : Dict (List α)) :
    (fun _ => ()) <$> d.traverse (fun key list => list.mapM (g key)) =
      (fun _ => ()) <$> (d.entries.flatMap fun entry => entry.2.map (entry.1, ·)).mapM fun item =>
        g item.1 item.2 := by
  rw [← traverseEntries_mapM]
  simp only [traverse, map_eq_pure_bind, bind_assoc, pure_bind]

end Dict

namespace Batch

section

variable (S : Suite) (config : Config) (store : KeyStore)

/-- Signs the obligations one after the other, and closes the log. -/
def signItems (work : List (String × Obligation)) : Audited (List Obligation) :=
  let run := work.mapM fun item => signOne S config store item.1 item.2
  match run.outcome with
  | .ok signed => ⟨.ok signed, run.events ++ [.batchSigned work.length config.parallel]⟩
  | .error e => ⟨.error e, run.events ++ [.aborted e work.length]⟩

/-- The log of a batch when the accounts are taken in this order. -/
def logInOrder (order : Order) : List AuditEvent :=
  (signItems S config store (items order)).events

end

/-- The signings turn these items into those, one after the other. -/
structure Turns (S : Suite) (store : KeyStore) (made : List Signing)
    (work work' : List (String × Obligation)) : Prop where
  work : made.map Signing.item = work
  result : made.map Signing.signedItem = work'
  made : ∀ s ∈ made, s.Made S store

variable {S : Suite} {config : Config} {store : KeyStore}

theorem events_signOne_of_made {s : Signing} (made : s.Made S store) :
    (signOne S config store s.account s.before).events = s.events config := by
  obtain ⟨known, signs⟩ := made
  unfold signOne
  rw [signAlone_eq_ok_iff.2 signs]
  simp only [eventsOf, known]
  rfl

theorem events_signOne_of_error {account : String} {o : Obligation} {e : SignerError}
    (h : signAlone S store account o = .error e) : (signOne S config store account o).events = [] := by
  simp only [signOne, h]

theorem forall₂_items {R : String → Obligation → Obligation → Prop} {order order' : Order}
    (h : List.Forall₂ (fun entry entry' => entry'.1 = entry.1 ∧
      List.Forall₂ (R entry.1) entry.2 entry'.2) order order') :
    List.Forall₂ (fun item item' => item'.1 = item.1 ∧ R item.1 item.2 item'.2)
      (items order) (items order') := by
  induction h with
  | nil => exact .nil
  | @cons entry entry' _ _ head _ ih =>
    obtain ⟨account, lists⟩ := head
    refine List.rel_append ?_ ih
    rw [List.forall₂_map_left_iff, List.forall₂_map_right_iff]
    exact lists.imp fun o o' related => ⟨account, related⟩

theorem exists_turns_of_forall₂ {work work' : List (String × Obligation)}
    (h : List.Forall₂ (fun item item' => item'.1 = item.1 ∧ Signs S store item.2 item'.2) work work') :
    ∃ made, Turns S store made work work' := by
  induction h with
  | nil => exact ⟨[], rfl, rfl, nofun⟩
  | @cons item item' work work' head _ ih =>
    obtain ⟨made, turns⟩ := ih
    obtain ⟨account, signs⟩ := head
    have ⟨curve, _, _, _, known, _⟩ := signs
    refine ⟨⟨item.1, curve, item.2, item'.2⟩ :: made, congrArg (item :: ·) turns.work, ?_,
      List.forall_mem_cons.2 ⟨⟨known, signs⟩, turns.made⟩⟩
    rw [List.map_cons, turns.result]
    exact congrArg (· :: work') (Prod.ext account.symm rfl)

theorem exists_turns {order signed : Order} (h : signInOrder S store order = .ok signed) :
    ∃ made, Turns S store made (items order) (items signed) := by
  refine exists_turns_of_forall₂ (forall₂_items (R := fun _ => Signs S store) ?_)
  simpa only [signAlone_eq_ok_iff] using signInOrder_eq_ok_iff.1 h

theorem exists_turns_of_good {work : List (String × Obligation)}
    (good : ∀ item ∈ work, ∃ o', Signs S store item.2 o') :
    ∃ made work', Turns S store made work work' := by
  have related : ∀ item ∈ work, ∃ item' : String × Obligation,
      item'.1 = item.1 ∧ Signs S store item.2 item'.2 := by
    intro item mem
    obtain ⟨o', signs⟩ := good item mem
    exact ⟨(item.1, o'), rfl, signs⟩
  obtain ⟨work', lists⟩ := exists_forall₂ related
  obtain ⟨made, turns⟩ := exists_turns_of_forall₂ lists
  exact ⟨made, work', turns⟩

theorem flatMap_events_signOne {made : List Signing} (all : ∀ s ∈ made, s.Made S store) :
    (made.map Signing.item).flatMap (fun item => (signOne S config store item.1 item.2).events) =
      made.flatMap (·.events config) := by
  rw [List.flatMap_map]
  exact List.flatMap_congr fun s mem => events_signOne_of_made (all s mem)

theorem exists_outcome_signOne (config : Config) {made : List Signing}
    (all : ∀ s ∈ made, s.Made S store) :
    ∀ item ∈ made.map Signing.item,
      ∃ o', (signOne S config store item.1 item.2).outcome = .ok o' := by
  intro item mem
  obtain ⟨s, here, rfl⟩ := List.mem_map.1 mem
  exact ⟨s.after, (outcome_signOne S config store _ _).trans (signAlone_eq_ok_iff.2 (all s here).2)⟩

theorem logInOrder_of_turns (config : Config) {order : Order} {made : List Signing}
    {work' : List (String × Obligation)} (turns : Turns S store made (items order) work') :
    logInOrder S config store order =
      made.flatMap (·.events config) ++ [.batchSigned made.length config.parallel] := by
  have good := exists_outcome_signOne config turns.made
  obtain ⟨signed, outcome⟩ : ∃ signed,
      ((made.map Signing.item).mapM fun item => signOne S config store item.1 item.2).outcome =
        .ok signed := by
    rw [Audited.outcome_mapM]
    cases run : (made.map Signing.item).mapM fun item =>
        (signOne S config store item.1 item.2).outcome with
    | ok signed => exact ⟨signed, rfl⟩
    | error e =>
      obtain ⟨item, mem, e', bad⟩ := exists_mapM_eq_error_iff.1 ⟨e, run⟩
      obtain ⟨o', signed⟩ := good item mem
      cases bad.symm.trans signed
  simp only [logInOrder, signItems, ← turns.work, outcome, Audited.events_mapM_of_ok good,
    flatMap_events_signOne turns.made, List.length_map]

theorem logInOrder_of_error (config : Config) {order : Order} {made : List Signing}
    {item : String × Obligation} {before before' after : List (String × Obligation)} {e : SignerError}
    (split : items order = before ++ item :: after) (turns : Turns S store made before before')
    (bad : signAlone S store item.1 item.2 = .error e) :
    logInOrder S config store order =
      made.flatMap (·.events config) ++ [.aborted e (items order).length] := by
  have work : items order = made.map Signing.item ++ item :: after := by rw [turns.work, split]
  have good := exists_outcome_signOne config turns.made
  have failed : (signOne S config store item.1 item.2).outcome = .error e := by
    rw [outcome_signOne, bad]
  have outcome : ((items order).mapM fun item => signOne S config store item.1 item.2).outcome =
      .error e := by
    rw [Audited.outcome_mapM, mapM_eq_error_iff]
    exact ⟨_, item, after, work, good, failed⟩
  have events : ((items order).mapM fun item => signOne S config store item.1 item.2).events =
      made.flatMap (·.events config) := by
    rw [work, Audited.events_mapM_of_error good failed, flatMap_events_signOne turns.made,
      events_signOne_of_error bad, List.append_nil]
  simp only [logInOrder, signItems, outcome, events]

theorem length_items_entries (m : Obligations) : (items m.entries).length = m.count := by
  simp [items, Obligations.count, Dict.values, List.length_flatMap, Function.comp_def]

theorem events_signCopy (S : Suite) (config : Config) (store : KeyStore) (m : Obligations) :
    (signCopy S config store m).events = logInOrder S config store m.entries := by
  have same := Dict.traverse_mapM (signOne S config store) m
  have events := congrArg Audited.events same
  have outcome := congrArg Audited.outcome same
  simp only [Audited.events_map, Audited.outcome_map] at events outcome
  simp only [signCopy, logInOrder, signItems, ← length_items_entries m, events, items]
  cases run : (Dict.traverse (m := Audited)
      (fun account list => list.mapM (signOne S config store account)) m).outcome with
  | ok signed =>
    rw [run] at outcome
    obtain ⟨list, flat, -⟩ := map_eq_ok_iff.1 outcome.symm
    simp only [flat]
  | error e =>
    rw [run] at outcome
    simp only [map_eq_error_iff.1 outcome.symm]

theorem events_signObligations (S : Suite) (config : Config) (store : KeyStore) (m : Obligations) :
    (signObligations S config store m).events = logInOrder S config store m.entries := by
  rw [← events_signCopy]
  simp only [signObligations]
  cases (signCopy S config store m).outcome <;> rfl

end Batch

end CustodySigner
