import OkxTrading.Strategy.Scripted
import OkxTrading.Strategy.Steps.Operations

/-!
# Open positions are protected

Whatever the client answers, and however the operations before it ended: an operation that returns
leaves an open position protected, and no run ever submits an exit beside another it excludes.

* `operationStep_submissionAllowed` — each step submits only what the exchange state allows.
* `runOperations_protected` — the result over whole runs.
-/

namespace OkxTrading

open Effect OrderId

variable {F W : Type} {client : OkxClient F W} {s : Ctx F W}

/-! ## Submissions -/

/-- What the exchange state must allow where an order is submitted: a market exit only without a
take-profit and a stop trigger, and these only without a market exit and a pending stop-loss. -/
def Call.AllowedIn (st : ExchangeState) : Call → Prop
  | .placeOrder _ .sell .market _ _ _ => st.takeProfitOrder = none ∧ st.stopLossOrder = none
  | .placeOrder _ .sell .limit _ _ _ => st.stopLossExitOrder = none ∧ st.stopLossPending = none
  | .placeTriggerOrder _ _ _ _ _ => st.stopLossExitOrder = none ∧ st.stopLossPending = none
  | _ => True

/-- The call of a log entry was allowed in the state it was made in; without a state only reads
are. -/
def Event.SubmissionAllowed : Event F → Prop
  | .call (some st) c _ => c.AllowedIn st
  | .call none c _ => c.IsRead
  | .note _ _ => True

/-- Every submission so far was allowed. -/
def SubmissionsAllowed (s : Ctx F W) : Prop := ∀ e ∈ s.log, e.SubmissionAllowed

theorem allowedIn_of_callGuard {scope : Scope} {tag : Text} {st : ExchangeState} {c : Call}
    (h : CallGuard scope tag st c) : c.AllowedIn st := by
  cases c with
  | placeOrder instId side kind =>
      cases side with
      | buy => trivial
      | sell =>
          cases kind with
          | limit => exact ⟨h.2.2.1.exit, h.2.2.1.pending⟩
          | market => exact ⟨h.2.2.1, h.2.2.2.1⟩
          | postOnly => trivial
  | placeTriggerOrder => exact ⟨h.2.exit, h.2.pending⟩
  | _ => trivial

theorem allowedIn_of_isRead {st : ExchangeState} {c : Call} (h : c.IsRead) : c.AllowedIn st := by
  cases c with
  | placeOrder | placeTriggerOrder => exact h.elim
  | _ => trivial

theorem submissionsAllowed_answered {c : Call} {r : Except Stop (c.Reply F)} {w : W}
    (hs : SubmissionsAllowed s) (h : (Event.call s.runner.exchange c r).SubmissionAllowed) :
    SubmissionsAllowed (s.answered c r w) := by
  rintro e (_ | ⟨_, he⟩)
  · exact h
  · exact hs e he

theorem submissionsAllowed_noted {t : Ctx F W} {ex : Option ExchangeState} {n : Note}
    (hs : SubmissionsAllowed s) (ht : t.log = .note ex n :: s.log) : SubmissionsAllowed t := by
  intro e he
  rw [ht] at he
  obtain _ | ⟨_, he⟩ := he
  · trivial
  · exact hs e he

theorem release_submissionsAllowed {st : ExchangeState} {t : Ctx F W} (h : Release s st t)
    (hs : SubmissionsAllowed s) : SubmissionsAllowed t := by
  cases h with
  | unfilled => exact submissionsAllowed_noted hs rfl
  | filled | left => exact submissionsAllowed_noted (submissionsAllowed_noted hs rfl) rfl

theorem step_submissionsAllowed {scope : Scope} {t : Ctx F W} (h : Step client scope s t)
    (hs : SubmissionsAllowed s) : SubmissionsAllowed t := by
  cases h with
  | call h c guard =>
      refine submissionsAllowed_answered hs ?_
      rw [h]
      exact allowedIn_of_callGuard guard
  | clock | counter | signal | stop | change | entry | submitted => exact hs
  | account | balance | cleared | entryFill => exact submissionsAllowed_noted hs rfl
  | emptied => exact submissionsAllowed_noted (submissionsAllowed_noted hs rfl) rfl
  | release _ _ hr => exact release_submissionsAllowed hr hs

theorem operationStep_submissionsAllowed {t : Ctx F W} (h : OperationStep client s t)
    (hs : SubmissionsAllowed s) : SubmissionsAllowed t := by
  cases h with
  | tick h => exact step_submissionsAllowed h hs
  | read c reads =>
      refine submissionsAllowed_answered hs ?_
      cases s.runner.exchange with
      | none => exact reads
      | some st => exact allowedIn_of_isRead reads
  | configured | startup | refreshed => exact hs
  | reconstructed => exact submissionsAllowed_noted hs rfl

/-! ## Whole runs -/

/-- **Open positions stay protected over every run.**  From a fresh runner and with any client,
every operation that returns leaves an open position protected, whatever became of the operations
before it, and every order was submitted only where the exchange state allows it. -/
theorem runOperations_protected [F64 F] (client : OkxClient F W) (s : Ctx F W) (hs : Fresh s)
    (ops : List Operation) :
    (∀ op : Operation, (op.run client (runOperations client ops s)).1 = .ok () →
      Protected (op.run client (runOperations client ops s)).2.runner) ∧
    SubmissionsAllowed (runOperations client ops s) := by
  obtain ⟨hsteps, htagged⟩ := runOperations_steps client ops hs.wellTagged
  constructor
  · intro op hok
    exact (operation_leads op htagged).post (Prod.ext hok rfl)
  · refine steps_invariant (fun _ _ h => operationStep_submissionsAllowed h) hsteps ?_
    intro e he
    rw [hs.log] at he
    cases he

/-- A position bought in the second minute is protected when that candle was handled. -/
theorem runOperations_protected_filledEntry :
    (Operation.onConfirmedCandle.run (scripted filledEntry)
      (runOperations (scripted filledEntry) [.initializeRunner, .onConfirmedCandle]
        demoStart)).2.runner.exchange.bind (·.position) = some ⟨10, 100, 98⟩ ∧
    Protected (Operation.onConfirmedCandle.run (scripted filledEntry)
      (runOperations (scripted filledEntry) [.initializeRunner, .onConfirmedCandle]
        demoStart)).2.runner :=
  ⟨by decide +kernel, (runOperations_protected (scripted filledEntry) demoStart ⟨rfl, rfl⟩
    [.initializeRunner, .onConfirmedCandle]).1 .onConfirmedCandle (by decide +kernel)⟩

end OkxTrading
