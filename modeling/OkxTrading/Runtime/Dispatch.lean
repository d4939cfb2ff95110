import OkxTrading.Okx.Decimal

/-!
# Dispatches to the strategies

`app/strategy_tick_execution.rs` and the failure counters of `app/strategy_tick_failure.rs`.

What a strategy does in a dispatch is not part of this model: an outcome is given for each.

* `StrategyTickFailureTracker` — consecutive failures of each strategy.
* `executeStrategyDispatch` — a dispatch to every strategy it is for.
* `ok_of_executeStrategyDispatch` — without failures after it, every strategy succeeded.
-/

namespace OkxTrading

def maxConsecutiveStrategyTickFailures : ℕ := 3

/-- What a failed tick means for the runtime. -/
inductive StrategyTickFailure where
  | retry (consecutiveFailures : ℕ)
  | stop (consecutiveFailures : ℕ)
  deriving DecidableEq, Repr

/-- How often each strategy failed in a row. -/
structure StrategyTickFailureTracker where
  consecutiveFailures : List ℕ
  deriving DecidableEq, Repr

namespace StrategyTickFailureTracker

def new (strategyCount : ℕ) : StrategyTickFailureTracker := ⟨List.replicate strategyCount 0⟩

def untracked (strategyIndex : ℕ) : Message :=
  s!"strategy index {strategyIndex} is not tracked by the tick failure tracker; stopping runtime"

/-- A success starts the count again. -/
def recordSuccess (self : StrategyTickFailureTracker) (strategyIndex : ℕ) :
    Result StrategyTickFailureTracker :=
  if strategyIndex < self.consecutiveFailures.length then
    .ok ⟨self.consecutiveFailures.set strategyIndex 0⟩
  else .error (untracked strategyIndex)

/-- The third failure in a row stops the runtime. -/
def recordFailure (self : StrategyTickFailureTracker) (strategyIndex : ℕ) :
    Result (StrategyTickFailure × StrategyTickFailureTracker) :=
  match self.consecutiveFailures[strategyIndex]? with
  | none => .error (untracked strategyIndex)
  | some failures =>
      let next : StrategyTickFailureTracker :=
        ⟨self.consecutiveFailures.set strategyIndex (failures + 1)⟩
      if maxConsecutiveStrategyTickFailures ≤ failures + 1 then .ok (.stop (failures + 1), next)
      else .ok (.retry (failures + 1), next)

def hasFailures (self : StrategyTickFailureTracker) : Bool :=
  self.consecutiveFailures.any fun failures => decide (0 < failures)

end StrategyTickFailureTracker

/-- `StrategyDispatch`: why strategies are run. -/
inductive StrategyDispatch where
  | confirmedCandle (instrumentId : Text)
  | privateEvent (instrumentId : Option Text)
  | instrumentUpdated (instrumentId : Text)
  | reconcileTimer
  | streamStateChanged
  deriving DecidableEq, Repr

/-- How the bounded reconciliation after a timeout ended. -/
inductive ReconcileOutcome where
  | ok
  | failed (error : Message)
  | timedOut
  deriving DecidableEq, Repr

/-- How the work of one strategy ended. -/
inductive TickOutcome where
  | ok
  | failed (error : Message)
  | timedOut (reconciliation : ReconcileOutcome)
  deriving DecidableEq, Repr

/-- The strategies that a dispatch is for. -/
def dispatchMatchesStrategy (dispatch : StrategyDispatch) (instrumentId : Text) : Prop :=
  match dispatch with
  | .confirmedCandle id => instrumentId = id
  | .instrumentUpdated id => instrumentId = id
  | .privateEvent (some id) => instrumentId = id
  | .privateEvent none => True
  | .reconcileTimer => True
  | .streamStateChanged => True

instance (dispatch : StrategyDispatch) (instrumentId : Text) :
    Decidable (dispatchMatchesStrategy dispatch instrumentId) := by
  unfold dispatchMatchesStrategy
  split <;> infer_instance

/-- What a function returns that also changes the counters: a fatal error, if any. -/
abbrev TickResult := Result (Option Message) × StrategyTickFailureTracker

/-- A failed tick is counted; the last one ends the runtime. -/
def recordStrategyTickFailure (tickFailures : StrategyTickFailureTracker) (strategyIndex : ℕ)
    (err : Message) : TickResult :=
  match tickFailures.recordFailure strategyIndex with
  | .error e => (.error e, tickFailures)
  | .ok (.retry _, next) => (.ok none, next)
  | .ok (.stop consecutiveFailures, next) =>
      (.ok (some (s!"strategy index {strategyIndex} failed {consecutiveFailures} consecutive " ++
        s!"ticks; stopping runtime: {err}")), next)

/-- A tick that succeeded is counted. -/
def handleSuccessfulStrategyTick (tickFailures : StrategyTickFailureTracker) (strategyIndex : ℕ) :
    TickResult :=
  match tickFailures.recordSuccess strategyIndex with
  | .error e => (.error e, tickFailures)
  | .ok next => (.ok none, next)

/-- A tick that took too long is reconciled before anything else happens. -/
def reconcileAfterInterruptedStrategyTick (strategyIndex : ℕ) :
    ReconcileOutcome → Result (Option Message)
  | .ok => .ok none
  | .failed error => .error (s!"strategy index {strategyIndex} exceeded runtime.tick_timeout_ms " ++
      s!"and REST reconciliation failed: {error}")
  | .timedOut => .error (s!"strategy index {strategyIndex} exceeded runtime.tick_timeout_ms " ++
      "and bounded REST reconciliation also timed out")

/-- `tick_strategy_with_timeout`, from how the work ended. -/
def tickStrategyWithTimeout (tickFailures : StrategyTickFailureTracker) (strategyIndex : ℕ) :
    TickOutcome → TickResult
  | .ok => handleSuccessfulStrategyTick tickFailures strategyIndex
  | .failed error => recordStrategyTickFailure tickFailures strategyIndex error
  | .timedOut reconciliation =>
      match recordStrategyTickFailure tickFailures strategyIndex
        (s!"strategy_tick_timeout: strategy index {strategyIndex} exceeded " ++
          "runtime.tick_timeout_ms") with
      | (.ok none, next) =>
          (reconcileAfterInterruptedStrategyTick strategyIndex reconciliation, next)
      | stopped => stopped

/-- A dispatch from one index on: the result, and which strategies ran with what outcome. -/
def executeFrom (dispatch : StrategyDispatch) (outcomes : ℕ → TickOutcome) :
    ℕ → List Text → StrategyTickFailureTracker → TickResult × List (ℕ × TickOutcome)
  | _, [], tickFailures => ((.ok none, tickFailures), [])
  | index, instrumentId :: rest, tickFailures =>
      if dispatchMatchesStrategy dispatch instrumentId then
        match tickStrategyWithTimeout tickFailures index (outcomes index) with
        | (.ok none, next) =>
            let (result, ticks) := executeFrom dispatch outcomes (index + 1) rest next
            (result, (index, outcomes index) :: ticks)
        | stopped => (stopped, [(index, outcomes index)])
      else executeFrom dispatch outcomes (index + 1) rest tickFailures

/-- `execute_strategy_dispatch`; a strategy is known by its instrument. -/
def executeStrategyDispatch (strategies : List Text) (tickFailures : StrategyTickFailureTracker)
    (dispatch : StrategyDispatch) (outcomes : ℕ → TickOutcome) :
    TickResult × List (ℕ × TickOutcome) :=
  executeFrom dispatch outcomes 0 strategies tickFailures

/-! ## What a dispatch without failures says -/

variable {tickFailures next : StrategyTickFailureTracker} {index other : ℕ} {outcome : TickOutcome}
  {outcomes : ℕ → TickOutcome} {dispatch : StrategyDispatch} {strategies : List Text}
  {ticks : List (ℕ × TickOutcome)}

/-- Some strategy with an index before this one failed. -/
def FailedBefore (tickFailures : StrategyTickFailureTracker) (index : ℕ) : Prop :=
  ∃ j < index, ∃ failures, tickFailures.consecutiveFailures[j]? = some failures ∧ 0 < failures

theorem FailedBefore.hasFailures (h : FailedBefore tickFailures index) :
    tickFailures.hasFailures = true := by
  obtain ⟨j, -, failures, hget, hpos⟩ := h
  exact List.any_eq_true.2 ⟨failures, List.mem_of_getElem? hget, decide_eq_true hpos⟩

/-- What a tick that does not stop the dispatch leaves of the other counters. -/
def SameElsewhere (tickFailures next : StrategyTickFailureTracker) (index : ℕ) : Prop :=
  ∀ j ≠ index, next.consecutiveFailures[j]? = tickFailures.consecutiveFailures[j]?

theorem FailedBefore.mono (h : FailedBefore tickFailures index) (hle : index ≤ other)
    (hsame : ∀ j < index, next.consecutiveFailures[j]? = tickFailures.consecutiveFailures[j]?) :
    FailedBefore next other := by
  obtain ⟨j, hj, failures, hget, hpos⟩ := h
  exact ⟨j, by omega, failures, by rw [hsame j hj, hget], hpos⟩

theorem failure_continues {err : Message}
    (h : recordStrategyTickFailure tickFailures index err = (.ok none, next)) :
    SameElsewhere tickFailures next index ∧ FailedBefore next (index + 1) := by
  unfold recordStrategyTickFailure StrategyTickFailureTracker.recordFailure at h
  cases hget : tickFailures.consecutiveFailures[index]? with
  | none =>
      rw [hget] at h
      cases h
  | some failures =>
      have hlt := (List.getElem?_eq_some_iff.1 hget).1
      rw [hget] at h
      by_cases hstop : maxConsecutiveStrategyTickFailures ≤ failures + 1
      · simp only [hstop, if_true] at h
        cases h
      · simp only [hstop, if_false] at h
        cases h
        exact ⟨fun j hj => List.getElem?_set_ne (Ne.symm hj), index, Nat.lt_succ_self _,
          failures + 1, List.getElem?_set_self hlt, Nat.succ_pos _⟩

theorem success_continues
    (h : handleSuccessfulStrategyTick tickFailures index = (.ok none, next)) :
    SameElsewhere tickFailures next index := by
  unfold handleSuccessfulStrategyTick StrategyTickFailureTracker.recordSuccess at h
  by_cases hlt : index < tickFailures.consecutiveFailures.length
  · simp only [hlt, if_true] at h
    cases h
    exact fun j hj => List.getElem?_set_ne (Ne.symm hj)
  · simp only [hlt, if_false] at h
    cases h

/-- A tick that does not stop the dispatch changes its own counter only, and leaves it above zero
where the strategy did not succeed. -/
theorem tick_continues (h : tickStrategyWithTimeout tickFailures index outcome = (.ok none, next)) :
    SameElsewhere tickFailures next index ∧ (outcome = .ok ∨ FailedBefore next (index + 1)) := by
  cases outcome with
  | ok => exact ⟨success_continues h, .inl rfl⟩
  | failed error => exact (failure_continues h).imp_right .inr
  | timedOut reconciliation =>
      simp only [tickStrategyWithTimeout] at h
      split at h
      · rename_i recorded mid hrecorded
        obtain ⟨-, rfl⟩ := Prod.mk.inj h
        exact (failure_continues hrecorded).imp_right .inr
      · exact (failure_continues h).imp_right .inr

/-- Where a dispatch from an index on does not stop, the counters before the index are the same, and
every strategy it is for succeeded, or one failed. -/
theorem executeFrom_continues
    (h : executeFrom dispatch outcomes index strategies tickFailures = ((.ok none, next), ticks)) :
    (∀ j < index, next.consecutiveFailures[j]? = tickFailures.consecutiveFailures[j]?) ∧
      ((∀ j instrumentId, strategies[j]? = some instrumentId →
        dispatchMatchesStrategy dispatch instrumentId → (index + j, TickOutcome.ok) ∈ ticks) ∨
      FailedBefore next (index + strategies.length)) := by
  induction strategies generalizing index tickFailures ticks with
  | nil =>
      cases h
      exact ⟨fun _ _ => rfl, .inl fun j instrumentId hget => by simp at hget⟩
  | cons instrumentId rest ih =>
      rw [executeFrom] at h
      split at h
      · split at h
        · rename_i hmatches recorded mid htick
          obtain ⟨hsame, htickOk⟩ := tick_continues htick
          cases hrest : executeFrom dispatch outcomes (index + 1) rest mid with
          | mk result later =>
              rw [hrest] at h
              cases h
              obtain ⟨hframe, hlater⟩ := ih hrest
              refine ⟨fun j hj => (hframe j (by omega)).trans (hsame j (by omega)), ?_⟩
              rcases htickOk with hok | hfailed
              · rcases hlater with hall | hfailed
                · refine .inl fun j other hget hmatch => ?_
                  cases j with
                  | zero => exact List.mem_cons.2 (.inl (by rw [hok]; rfl))
                  | succ j =>
                      have hmem := hall j other (by simpa using hget) hmatch
                      rw [Nat.add_right_comm, Nat.add_assoc] at hmem
                      exact List.mem_cons_of_mem _ hmem
                · exact .inr (hfailed.mono (by simp only [List.length_cons]; omega) fun _ _ => rfl)
              · exact .inr (hfailed.mono (by simp only [List.length_cons]; omega) hframe)
        · rename_i hstops
          obtain ⟨hresult, -⟩ := Prod.mk.inj h
          exact absurd hresult (hstops next)
      · rename_i hother
        obtain ⟨hframe, hlater⟩ := ih h
        refine ⟨fun j hj => hframe j (by omega), ?_⟩
        rcases hlater with hall | hfailed
        · refine .inl fun j other hget hmatch => ?_
          cases j with
          | zero =>
              rw [List.getElem?_cons_zero, Option.some.injEq] at hget
              exact absurd (hget ▸ hmatch) hother
          | succ j =>
              have hmem := hall j other (by simpa using hget) hmatch
              rwa [Nat.add_right_comm, Nat.add_assoc] at hmem
        · exact .inr (hfailed.mono (by simp only [List.length_cons]; omega) fun _ _ => rfl)

/-- **Every strategy succeeded** in a dispatch that does not stop and leaves no failures. -/
theorem ok_of_executeStrategyDispatch
    (h : executeStrategyDispatch strategies tickFailures dispatch outcomes =
      ((.ok none, next), ticks))
    (hnone : next.hasFailures = false) {instrumentId : Text}
    (hget : strategies[index]? = some instrumentId)
    (hmatch : dispatchMatchesStrategy dispatch instrumentId) : (index, TickOutcome.ok) ∈ ticks := by
  rcases (executeFrom_continues h).2 with hall | hfailed
  · have hmem := hall index instrumentId hget hmatch
    rwa [Nat.zero_add] at hmem
  · rw [hfailed.hasFailures] at hnone
    cases hnone

end OkxTrading
