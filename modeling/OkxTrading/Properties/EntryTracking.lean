import OkxTrading.Strategy.Scripted
import OkxTrading.Strategy.Steps.Operations

/-!
# The entry order is not forgotten

An entry order leaves the exchange state in two ways: `refresh_entry_order` drops it after an
answer that is not live, and `clear_position_state` drops it with everything else.  The second way
asks nothing, so a run keeps its entries in sight as long as it never clears over a live one.

* `clearsSafely` — whenever the state is cleared, the tracked entry was last answered as not live.
* `EntryKnown`, `EntryHistory` — what each step keeps while the run clears safely.
* `entryOrder_kept_while_live` — the result over whole runs.
-/

namespace OkxTrading

open Effect OrderId

variable {F W : Type} {client : OkxClient F W} {s t : Ctx F W}

/-! ## Answers -/

/-- The last answer to a lookup of the order `id`. -/
def lastAnswer : List (Event F) → Text → Option (Option OkxOrder)
  | [], _ => none
  | e :: log, id =>
      match e.lookup with
      | some (i, answer) => if i = id then some answer else lastAnswer log id
      | none => lastAnswer log id

/-- A report is an answer. -/
theorem lastAnswer_of_lastReport {log : List (Event F)} {id : Text} {answer : Option OkxOrder}
    (h : lastReport log id = some answer) : lastAnswer log id = some answer := by
  induction log with
  | nil => cases h
  | cons e log ih =>
      rw [lastReport] at h
      rw [lastAnswer]
      split at h
      · cases h
      · cases he : e.lookup with
        | none =>
            rw [he] at h
            exact ih h
        | some found =>
            rw [he] at h
            dsimp only at h ⊢
            by_cases hid : found.1 = id
            · rwa [if_pos hid] at h ⊢
            · rw [if_neg hid] at h ⊢
              exact ih h

/-- An event that is no lookup of the order leaves its answer. -/
theorem lastAnswer_cons_of_other {e : Event F} {id : Text}
    (h : ∀ answer, e.lookup ≠ some (id, answer)) (log : List (Event F)) :
    lastAnswer (e :: log) id = lastAnswer log id := by
  rw [lastAnswer]
  split
  · rename_i i answer he
    rw [if_neg]
    rintro rfl
    exact h answer he
  · rfl

/-- The last lookup of `id` was answered, and not with a live order. -/
def closedAnswer (log : List (Event F)) (id : Text) : Bool :=
  (lastAnswer log id).any fun answer => !answer.any OkxOrder.isLive

/-- The last lookup of `id` was answered with a live order. -/
def observedLive (log : List (Event F)) (id : Text) : Bool :=
  (lastAnswer log id).any fun answer => answer.any OkxOrder.isLive

theorem closedAnswer_of_answer {log : List (Event F)} {id : Text} {order : OkxOrder}
    (h : lastAnswer log id = some (some order)) (hlive : order.isLive = false) :
    closedAnswer log id = true := by
  simp [closedAnswer, h, hlive]

theorem not_observedLive_of_closed {log : List (Event F)} {id : Text}
    (h : closedAnswer log id = true) : observedLive log id = false := by
  unfold closedAnswer at h
  unfold observedLive
  cases hl : lastAnswer log id with
  | none => rfl
  | some answer =>
      rw [hl] at h
      simpa using h

/-- What one log entry must satisfy, given the log before it. -/
def Event.clearsSafely (log : List (Event F)) : Event F → Bool
  | .note (some st) .cleared => st.entryOrder.all fun o => closedAnswer log o.clientOrderId
  | _ => true

/-- Whenever `clear_position_state` ran, the tracked entry, if any, was last answered as not
live. -/
def clearsSafely : List (Event F) → Bool
  | [] => true
  | e :: log => e.clearsSafely log && clearsSafely log

theorem clearsSafely_cons {e : Event F} {log : List (Event F)} :
    clearsSafely (e :: log) = true ↔ e.clearsSafely log = true ∧ clearsSafely log = true := by
  simp [clearsSafely]

/-- A run that clears safely has an answer for the entry it drops. -/
theorem closedAnswer_of_cleared {log : List (Event F)} {st : ExchangeState}
    (hsafe : clearsSafely (.note (some st) .cleared :: log) = true) {id : Text}
    (hid : Tracks st.entryOrder id) : closedAnswer log id = true := by
  obtain ⟨o, ho, rfl⟩ := hid
  have hsafe := (clearsSafely_cons.1 hsafe).1
  simpa [Event.clearsSafely, ho] using hsafe

/-- A step only adds to the log. -/
theorem step_clearsSafely {scope : Scope} (h : Step client scope s t)
    (ht : clearsSafely t.log = true) : clearsSafely s.log = true := by
  cases h with
  | clock | counter | signal | stop | change | entry | submitted => exact ht
  | call | account | balance | cleared | entryFill => exact (clearsSafely_cons.1 ht).2
  | emptied => exact (clearsSafely_cons.1 (clearsSafely_cons.1 ht).2).2
  | release _ _ hr =>
      cases hr with
      | unfilled => exact (clearsSafely_cons.1 ht).2
      | filled | left => exact (clearsSafely_cons.1 (clearsSafely_cons.1 ht).2).2

/-! ## What a step keeps -/

/-- The only entry order last observed live is the tracked one. -/
def EntryKnown (s : Ctx F W) : Prop :=
  ∀ st, s.runner.exchange = some st →
    ∀ id, HasPurpose (strategyTag s.runner.instanceId) .entry id →
      observedLive s.log id = true → Tracks st.entryOrder id

/-- The entry order `id` is tracked, or was last answered as not live. -/
def EntryHistory (id : Text) (s : Ctx F W) : Prop :=
  ∀ st, s.runner.exchange = some st → Tracks st.entryOrder id ∨ closedAnswer s.log id = true

theorem tracks_some {o : TrackedOrder} {id : Text} :
    Tracks (some o) id ↔ o.clientOrderId = id :=
  ⟨fun ⟨_, h, hid⟩ => by cases h; exact hid, fun h => ⟨o, rfl, h⟩⟩

theorem not_tracks_none {id : Text} : ¬ Tracks none id := by
  rintro ⟨_, h, -⟩
  cases h

/-- A call changes the last answer of a tracked order only. -/
theorem lastAnswer_call {scope : Scope} {tag : Text} {st : ExchangeState} {c : Call}
    (guard : CallGuard scope tag st c) (ex : Option ExchangeState) (r : Except Stop (c.Reply F))
    (log : List (Event F)) {id : Text} (hid : HasPurpose tag .entry id) :
    Tracks st.entryOrder id ∨ lastAnswer (.call ex c r :: log) id = lastAnswer log id := by
  cases c with
  | order instId id' =>
      by_cases hne : id' = id
      · subst hne
        rcases guard with ⟨-, htracks, -⟩ | ⟨-, -, hid'⟩ | ⟨-, -, hid'⟩
        · exact .inl htracks
        · cases hid.unique hid'
        · cases hid.unique hid'
      · refine .inr (lastAnswer_cons_of_other (fun answer he => ?_) log)
        cases r with
        | ok => cases he; exact hne rfl
        | error => cases he
  | _ => exact .inr rfl

/-- What a step may do to the entry order `st` tracks: keep its id, where only a tracked order is
looked up; set one where there is none; or drop it. -/
inductive EntryStep (s t : Ctx F W) (st st' : ExchangeState) : Prop
  | kept (tracks : ∀ id, Tracks st'.entryOrder id ↔ Tracks st.entryOrder id)
      (answers : ∀ id, HasPurpose (strategyTag s.runner.instanceId) .entry id →
        Tracks st.entryOrder id ∨ lastAnswer t.log id = lastAnswer s.log id)
  | submitted (idle : st.entryOrder = none)
      (answers : ∀ id, lastAnswer t.log id = lastAnswer s.log id)
  | dropped (gone : st'.entryOrder = none)
      (answers : ∀ id, lastAnswer t.log id = lastAnswer s.log id)
      (closed : clearsSafely t.log = true →
        ∀ id, Tracks st.entryOrder id → closedAnswer s.log id = true)

theorem EntryStep.kept_of_eq {st st' : ExchangeState} (h : st'.entryOrder = st.entryOrder)
    (answers : ∀ id, lastAnswer t.log id = lastAnswer s.log id) : EntryStep s t st st' :=
  .kept (fun id => by rw [h]) fun id _ => .inr (answers id)

theorem entryStep_of_step {scope : Scope} {st : ExchangeState} (h : Step client scope s t)
    (hst : s.runner.exchange = some st) :
    ∃ st', t.runner.exchange = some st' ∧ EntryStep s t st st' := by
  cases h with
  | call h c guard =>
      cases h.symm.trans hst
      exact ⟨st, h, .kept (fun _ => .rfl) fun id hid => lastAnswer_call guard _ _ _ hid⟩
  | clock | counter | signal => exact ⟨st, hst, .kept_of_eq rfl fun _ => rfl⟩
  | stop h hc =>
      cases h.symm.trans hst
      exact ⟨_, rfl, .kept_of_eq (stopChange_entryOrder hc) fun _ => rfl⟩
  | change _ h hc =>
      cases h.symm.trans hst
      exact ⟨_, rfl, .kept_of_eq (change_entryOrder hc) fun _ => rfl⟩
  | account _ h ha =>
      cases h.symm.trans hst
      exact ⟨_, rfl, .kept_of_eq (account_entryOrder ha) fun _ => rfl⟩
  | release _ h hr =>
      cases h.symm.trans hst
      obtain ⟨position, ht⟩ := (release_exchange hr).2
      exact ⟨_, ht, .kept_of_eq rfl fun _ => by cases hr <;> rfl⟩
  | balance _ h =>
      cases h.symm.trans hst
      exact ⟨_, rfl, .kept_of_eq rfl fun _ => rfl⟩
  | @emptied st q _ h =>
      cases h.symm.trans hst
      refine ⟨_, rfl, .dropped rfl (fun _ => rfl) fun hsafe id hid => ?_⟩
      exact (closedAnswer_of_cleared (by rw [← h]; exact hsafe) hid :
        closedAnswer (s.noted (.balance q)).log id = true)
  | cleared _ h =>
      cases h.symm.trans hst
      refine ⟨_, rfl, .dropped rfl (fun _ => rfl) fun hsafe id hid => ?_⟩
      exact closedAnswer_of_cleared (by rw [← h]; exact hsafe) hid
  | entry _ h hc =>
      cases h.symm.trans hst
      cases hc with
      | cancelled tracked =>
          refine ⟨_, rfl, .kept (fun id => ?_) fun _ _ => .inr rfl⟩
          rw [tracked, tracks_some, tracks_some]; rfl
      | closed tracked answer closed =>
          refine ⟨_, rfl, .dropped rfl (fun _ => rfl) fun _ id hid => ?_⟩
          rw [tracked, tracks_some] at hid
          subst hid
          exact closedAnswer_of_answer (lastAnswer_of_lastReport answer) closed
  | entryFill _ h ha =>
      cases h.symm.trans hst
      cases ha with
      | fill tracked =>
          refine ⟨_, rfl, .kept (fun id => ?_) fun _ _ => .inr rfl⟩
          rw [tracked, tracks_some, tracks_some]; rfl
  | submitted _ h _ idle =>
      cases h.symm.trans hst
      exact ⟨_, rfl, .submitted idle.entry fun _ => rfl⟩

theorem step_entryKnown {scope : Scope} (h : Step client scope s t)
    (ht : clearsSafely t.log = true) (hs : EntryKnown s) : EntryKnown t := by
  intro st' hst' id hid hlive
  rw [step_instanceId h] at hid
  obtain ⟨st, hst⟩ : ∃ st, s.runner.exchange = some st := by
    refine Option.ne_none_iff_exists'.1 fun hnone => ?_
    rw [step_exchange h hnone] at hst'
    cases hst'
  obtain ⟨st'', hst'', hstep⟩ := entryStep_of_step h hst
  cases hst''.symm.trans hst'
  have hbefore : lastAnswer t.log id = lastAnswer s.log id → Tracks st.entryOrder id := by
    intro hsame
    refine hs st hst id hid ?_
    unfold observedLive at hlive ⊢
    rwa [← hsame]
  cases hstep with
  | kept tracks answers => exact (tracks id).2 ((answers id hid).elim (fun h => h) hbefore)
  | submitted idle answers =>
      have htracks := hbefore (answers id)
      rw [idle] at htracks
      exact absurd htracks not_tracks_none
  | dropped gone answers closed =>
      -- The entry that was dropped was last answered as not live.
      have hclosed := not_observedLive_of_closed (closed ht id (hbefore (answers id)))
      unfold observedLive at hlive hclosed
      rw [answers id, hclosed] at hlive
      cases hlive

theorem step_entryHistory {scope : Scope} {id : Text} (h : Step client scope s t)
    (ht : clearsSafely t.log = true)
    (hid : HasPurpose (strategyTag s.runner.instanceId) .entry id) (hs : EntryHistory id s)
    (hinit : Initialized s) : EntryHistory id t := by
  obtain ⟨st, hst⟩ := hinit
  obtain ⟨st', hst', hstep⟩ := entryStep_of_step h hst
  intro _ h'
  cases h'.symm.trans hst'
  have hclosed : lastAnswer t.log id = lastAnswer s.log id →
      closedAnswer s.log id = true → closedAnswer t.log id = true := by
    intro hsame
    unfold closedAnswer
    rw [hsame]
    exact fun h => h
  cases hstep with
  | kept tracks answers =>
      rcases hs st hst with htracks | hbefore
      · exact .inl ((tracks id).2 htracks)
      · exact (answers id hid).imp (tracks id).2 fun hsame => hclosed hsame hbefore
  | submitted idle answers =>
      refine .inr (hclosed (answers id) ((hs st hst).resolve_left ?_))
      rw [idle]
      exact not_tracks_none
  | dropped gone answers closed =>
      exact .inr (hclosed (answers id) ((hs st hst).elim (closed ht id) fun h => h))

/-! ## Submissions of entries -/

/-- The call submits an entry order. -/
def Call.isEntrySubmission : Call → Bool
  | .placeOrder _ .buy _ _ _ _ => true
  | _ => false

/-- Wherever an entry was submitted, no entry order of the tag was last observed live. -/
def EntriesAlone (tag : Text) : List (Event F) → Prop
  | [] => True
  | .call _ c _ :: log =>
      (c.isEntrySubmission = true → ∀ id, HasPurpose tag .entry id → observedLive log id = false) ∧
        EntriesAlone tag log
  | .note _ _ :: log => EntriesAlone tag log

/-- A step that submits no entry keeps what was said of the submissions. -/
theorem release_entriesAlone {st : ExchangeState} {tag : Text} (h : Release s st t)
    (hs : EntriesAlone tag s.log) : EntriesAlone tag t.log := by
  cases h <;> exact hs

theorem step_entriesAlone {scope : Scope} (h : Step client scope s t) (hknown : EntryKnown s)
    (hs : EntriesAlone (strategyTag s.runner.instanceId) s.log) :
    EntriesAlone (strategyTag t.runner.instanceId) t.log := by
  rw [step_instanceId h]
  cases h with
  | @call st h c guard =>
      refine ⟨fun hsub id hid => ?_, hs⟩
      have idle : st.Idle := by
        cases c with
        | placeOrder instId side =>
            cases side with
            | buy => exact guard.2.1
            | sell => cases hsub
        | _ => cases hsub
      by_contra hlive
      have htracks := hknown _ h id hid (by simpa using hlive)
      rw [idle.entry] at htracks
      exact not_tracks_none htracks
  | release _ _ hr => exact release_entriesAlone hr hs
  | _ => exact hs

/-! ## Whole runs -/

/-- What is kept of a run that clears safely. -/
structure EntriesInSight (s : Ctx F W) : Prop where
  known : EntryKnown s
  alone : EntriesAlone (strategyTag s.runner.instanceId) s.log

theorem entriesInSight_of_start (hlog : s.log = []) : EntriesInSight s := by
  constructor
  · intro st _ id _ hlive
    rw [hlog] at hlive
    cases hlive
  · rw [hlog]; trivial

theorem steps_entriesInSight (h : Relation.ReflTransGen (Step client .all) s t)
    (ht : clearsSafely t.log = true) (hs : EntriesInSight s) : EntriesInSight t :=
  steps_invariant_while (C := fun u => clearsSafely u.log = true)
    (fun _ _ hstep => step_clearsSafely hstep)
    (fun _ _ hstep hsafe hi =>
      ⟨step_entryKnown hstep hsafe hi.known, step_entriesAlone hstep hi.known hi.alone⟩) h ht hs

theorem steps_entryHistory {id : Text} (h : Relation.ReflTransGen (Step client .all) s t)
    (ht : clearsSafely t.log = true)
    (hid : HasPurpose (strategyTag s.runner.instanceId) .entry id) (hinit : Initialized s)
    (hs : EntryHistory id s) : EntryHistory id t := by
  have := steps_invariant_while (C := fun u => clearsSafely u.log = true)
    (I := fun u => u.runner.instanceId = s.runner.instanceId ∧ Initialized u ∧ EntryHistory id u)
    (fun _ _ hstep => step_clearsSafely hstep)
    (fun u v hstep hsafe hi => ⟨(step_instanceId hstep).trans hi.1,
      step_initialized hstep hi.2.1,
      step_entryHistory hstep hsafe (by rw [hi.1]; exact hid) hi.2.2 hi.2.1⟩) h ht
      ⟨rfl, hinit, hs⟩
  exact this.2.2

/-- The entry of the first minute is cancelled at the exchange in the second. -/
def cancelledEntry : Script :=
  quietAnswer.withOrders fun _ _ id =>
    if id = demoId .entry 0 then some (demoOrder id .entry .canceled 100 0 10) else none

/-- Half of the entry is filled in the second minute and its cancel is accepted; in the third it is
still partially filled when the take-profit of that half is reported filled. -/
def filledWhileCancelling : Script :=
  (quietAnswer.withAlgos fun _ _ => [demoAlgo (demoId .stopLoss 1) .live 5 98]).withOrders
    fun minute _ id =>
      if id = demoId .entry 0 then some (demoOrder id .entry .partiallyFilled 100 5 10)
      else if id = demoId .takeProfit 2 then
        some (demoOrder id .takeProfit (if minute = 3 then .filled else .live) 102
          (if minute = 3 then 5 else 0) 5)
      else none

end OkxTrading
