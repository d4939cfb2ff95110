import Mathlib.Data.Char
import Mathlib.Data.List.Lex
import OkxTrading.Market.CandleCache
import OkxTrading.Runtime.Dispatch
import OkxTrading.Runtime.Health
import OkxTrading.Websocket.PrivateEvents

/-!
# The loop of the trading engine

`TradingEngine::run_loop` of `app/live.rs` with the decisions it takes.  Latency records, logs and
the Level-2 shadow features change nothing the loop reads and are left out.

A decision also says what it did, as entries of a log; no decision reads them.

* `TradingEngine`, `RunLoop` — the state.
* `websocketHealthDecision`, `publicRuntimeEventDecision`, … — one decision for each arm.
* `step` — one round of the loop; `RunLoop.start` — the state after startup.
-/

namespace OkxTrading

open Collections

def websocketHealthChannelCapacity : ℕ := 64

/-- `OkxPublicRuntimeEvent`. -/
inductive OkxPublicRuntimeEvent where
  | confirmedCandle (candle : ConfirmedCandle)
  | instrumentUpdated (instrumentId : Text) (receivedAt : Instant)
  deriving DecidableEq, Repr

/-- Why the loop ends, as far as this model goes. -/
inductive RuntimeExitReason where
  | operatorShutdown
  | cancelAllAfterHeartbeatFailure
  | strategyFailure
  | fatalRuntimeError
  deriving DecidableEq, Repr

/-- What the loop does after an event. -/
inductive RuntimeLoopDecision where
  | continueLoop
  | operatorShutdown
  | fatal (reason : RuntimeExitReason) (error : Message)
  deriving DecidableEq, Repr

/-- The fields of `TradingEngine` that the loop decides with. -/
structure TradingEngine where
  /-- The instruments of the strategies. -/
  strategies : List Text
  websocketHealthTracker : WebsocketHealthTracker
  websocketReconcileRequested : Bool
  pendingConfirmedCandles : SortedMap Text ConfirmedCandle
  deriving DecidableEq

/-- The engine with what `run_loop` keeps; the loop ends with the first decision not to go on. -/
structure RunLoop where
  engine : TradingEngine
  tickFailures : StrategyTickFailureTracker
  running : Bool
  deriving DecidableEq

/-- The loop before its first event. -/
def RunLoop.start (strategies : List Text) (streams : Finset OkxWebsocketStreamIdentity) :
    RunLoop where
  engine := {
    strategies
    websocketHealthTracker := .new streams
    websocketReconcileRequested := false
    pendingConfirmedCandles := SortedMap.empty }
  tickFailures := .new strategies.length
  running := true

/-- What a decision did. -/
inductive EngineLog where
  | processed (event : OkxWebsocketHealthEvent)
  | received (candle : ConfirmedCandle)
  | discarded (candle kept : ConfirmedCandle)
  | dispatched (dispatch : StrategyDispatch) (candle : Option ConfirmedCandle)
      (ticks : List (ℕ × TickOutcome))
  deriving DecidableEq, Repr

/-- A decision, the state after it, and what it did. -/
abbrev Decided := Result RuntimeLoopDecision × RunLoop × List EngineLog

namespace TradingEngine

variable (self : TradingEngine)

/-- Every mandatory stream is ready and no reconciliation is asked for. -/
def websocketStrategyDispatchReady : Prop :=
  self.websocketHealthTracker.allMandatoryStreamsReady ∧ self.websocketReconcileRequested = false

instance : Decidable self.websocketStrategyDispatchReady := inferInstanceAs (Decidable (_ ∧ _))

/-- A report goes to the tracker; some ask for a reconciliation. -/
def handleWebsocketHealthEvent (event : OkxWebsocketHealthEvent) : TradingEngine :=
  { self with
    websocketReconcileRequested :=
      event.kind.requestsReconciliation || self.websocketReconcileRequested
    websocketHealthTracker := self.websocketHealthTracker.record event }

/-- The first event and those that are queued, as far as the bounded loop drains them. -/
def drainedEvents (first : OkxWebsocketHealthEvent) (queued : List OkxWebsocketHealthEvent) :
    List OkxWebsocketHealthEvent :=
  first :: queued.take websocketHealthChannelCapacity

/-- All reports that wait; the error is the first fatal one, or that of the tracker after them. -/
def processWebsocketHealthEvents (events : List OkxWebsocketHealthEvent) :
    Option Message × TradingEngine :=
  let next := events.foldl handleWebsocketHealthEvent self
  ((events.findSome? websocketTaskLifecycleError).or
    next.websocketHealthTracker.startupReadinessError, next)

/-- The candle waits; of two for one instrument the one with the later bar does. -/
def deferConfirmedCandle (candle : ConfirmedCandle) : TradingEngine × List EngineLog :=
  let keep := { self with pendingConfirmedCandles :=
    self.pendingConfirmedCandles.insert candle.instrumentId candle }
  if candle.instrumentId ∉ self.strategies then (self, [])
  else match self.pendingConfirmedCandles.get? candle.instrumentId with
    | none => (keep, [])
    | some pending =>
        if pending.barTsMs ≤ candle.barTsMs then (keep, [.discarded pending candle])
        else (self, [.discarded candle pending])

/-- A waiting candle, where dispatches are let through. -/
def takeReadyConfirmedCandle : Option (ConfirmedCandle × TradingEngine) :=
  if self.websocketStrategyDispatchReady then
    self.pendingConfirmedCandles.first?.map fun entry => (entry.2,
      { self with pendingConfirmedCandles := self.pendingConfirmedCandles.erase entry.1 })
  else none

end TradingEngine

namespace RunLoop

variable (self : RunLoop)

/-- The loop ends with an error. -/
def fatal (error : Message) : Decided := (.ok (.fatal .fatalRuntimeError error), self, [])

/-- The loop goes on. -/
def goOn : Decided := (.ok .continueLoop, self, [])

/-- `strategy_dispatch_decision`; a confirmed candle comes with its event. -/
def strategyDispatchDecision (dispatch : StrategyDispatch) (candle : Option ConfirmedCandle)
    (outcomes : ℕ → TickOutcome) : Decided :=
  if self.engine.websocketStrategyDispatchReady then
    let ((result, tickFailures), ticks) :=
      executeStrategyDispatch self.engine.strategies self.tickFailures dispatch outcomes
    let decision : RuntimeLoopDecision := match result with
      | .ok none => .continueLoop
      | .ok (some error) => .fatal .strategyFailure error
      | .error error => .fatal .fatalRuntimeError error
    (.ok decision, { self with tickFailures }, [.dispatched dispatch candle ticks])
  else self.goOn

/-- A reconciliation is asked for, or no longer. -/
def requestReconciliation (requested : Bool) : RunLoop :=
  { self with engine := { self.engine with websocketReconcileRequested := requested } }

/-- The request is taken back for the dispatch, and made again where the dispatch left failures. -/
def websocketReconciliationDecision (outcomes : ℕ → TickOutcome) : Decided :=
  let (decision, next, log) :=
    (self.requestReconciliation false).strategyDispatchDecision .streamStateChanged none outcomes
  if decision = .ok .continueLoop ∧ next.tickFailures.hasFailures then
    (decision, next.requestReconciliation true, log)
  else (decision, next, log)

/-- A reconciliation is due: it was requested, and every stream is ready for it. -/
def reconciliationDue : Prop :=
  self.engine.websocketReconcileRequested = true ∧
    self.engine.websocketHealthTracker.allMandatoryStreamsReady

instance : Decidable self.reconciliationDue := inferInstanceAs (Decidable (_ ∧ _))

/-- The branch of the health channel, with everything that waits in it. -/
def websocketHealthDecision (event : Option OkxWebsocketHealthEvent)
    (queued : List OkxWebsocketHealthEvent) (outcomes : ℕ → TickOutcome) : Decided :=
  match event with
  | none => self.fatal "OKX WebSocket health channel closed unexpectedly"
  | some event =>
      let events := TradingEngine.drainedEvents event queued
      let (error, engine) := self.engine.processWebsocketHealthEvents events
      let next := { self with engine }
      let (decision, next, log) : Decided := match error with
        | some error => next.fatal error
        | none =>
            if next.reconciliationDue then next.websocketReconciliationDecision outcomes
            else next.goOn
      (decision, next, events.map .processed ++ log)

/-- The branch of the timer: a dispatch, or the reconciliation that is due. -/
def reconciliationTimerDecision (outcomes : ℕ → TickOutcome) : Decided :=
  if self.reconciliationDue then self.websocketReconciliationDecision outcomes
  else self.strategyDispatchDecision .reconcileTimer none outcomes

/-- The branch of the server time task: its failure is fatal. -/
def serverTimeRefreshFailureDecision (failure : Option Message) (outcomes : ℕ → TickOutcome) :
    Decided :=
  match failure with
  | none => self.fatal "OKX server-time refresh failure channel closed unexpectedly"
  | some _ => self.strategyDispatchDecision .streamStateChanged none outcomes

/-- The branch of the public events. -/
def publicRuntimeEventDecision (event : Option OkxPublicRuntimeEvent)
    (outcomes : ℕ → TickOutcome) : Decided :=
  match event with
  | none => self.fatal "OKX public runtime event channel closed unexpectedly"
  | some (.confirmedCandle candle) =>
      if self.engine.websocketStrategyDispatchReady then
        self.strategyDispatchDecision (.confirmedCandle candle.instrumentId) (some candle) outcomes
      else
        let (engine, log) := self.engine.deferConfirmedCandle candle
        (.ok .continueLoop, { self with engine }, log)
  | some (.instrumentUpdated instrumentId _) =>
      self.strategyDispatchDecision (.instrumentUpdated instrumentId) none outcomes

/-- The branch of the waiting candles. -/
def pendingConfirmedCandleDecision (outcomes : ℕ → TickOutcome) : Decided :=
  match self.engine.takeReadyConfirmedCandle with
  | none =>
    (.error "ready confirmed-candle dispatch was selected without a pending event", self, [])
  | some (candle, engine) =>
      { self with engine }.publicRuntimeEventDecision (some (.confirmedCandle candle)) outcomes

/-- The branch of the private events. -/
def privateRuntimeEventDecision (event : Option OkxPrivateRuntimeEvent)
    (outcomes : ℕ → TickOutcome) : Decided :=
  match event with
  | none => self.fatal "OKX private runtime event channel closed unexpectedly"
  | some event =>
      let instrumentId := match event.kind with
        | .order instrumentId _ => some instrumentId
        | .fill instrumentId _ => some instrumentId
        | .algoOrder instrumentId => some instrumentId
        | .account => none
      self.strategyDispatchDecision (.privateEvent instrumentId) none outcomes

/-- The branch of the heartbeat: its failure is fatal. -/
def cancelAllAfterHeartbeatFailureDecision (failure : Option Message) : Decided :=
  match failure with
  | none => (.error "OKX Cancel-All-After heartbeat stopped without reporting a failure", self, [])
  | some error => (.ok (.fatal .cancelAllAfterHeartbeatFailure error), self, [])

/-- The observed account configuration, checked, or why there is none. -/
def accountLevelDiagnosticObservationDecision (observation : Result Unit) : Decided :=
  match observation with
  | .ok () => self.goOn
  | .error error => self.fatal error

end RunLoop

/-! ## Rounds -/

/-- What an arm of the loop receives, and how the strategies would end. -/
inductive EngineInput where
  | heartbeatFailure (failure : Option Message)
  | serverTimeRefreshFailure (failure : Option Message) (outcomes : ℕ → TickOutcome)
  | ctrlC
  | startObservation
  | observationCompleted (observation : Result Unit)
  | privateEvent (event : Option OkxPrivateRuntimeEvent) (outcomes : ℕ → TickOutcome)
  | reconciliationTimer (outcomes : ℕ → TickOutcome)
  | websocketHealth (event : Option OkxWebsocketHealthEvent)
      (queued : List OkxWebsocketHealthEvent) (outcomes : ℕ → TickOutcome)
  | pendingConfirmedCandle (outcomes : ℕ → TickOutcome)
  | publicEvent (event : Option OkxPublicRuntimeEvent) (outcomes : ℕ → TickOutcome)
  | level2 (closed : Bool)

/-- The candle an arm takes from the channel. -/
def receivedCandle : Option OkxPublicRuntimeEvent → List EngineLog
  | some (.confirmedCandle candle) => [.received candle]
  | _ => []

/-- The branch of the waiting candles can be taken. -/
def RunLoop.pendingConfirmedCandleReady (self : RunLoop) : Prop :=
  self.engine.websocketStrategyDispatchReady ∧ self.engine.pendingConfirmedCandles.isEmpty = false

instance (self : RunLoop) : Decidable self.pendingConfirmedCandleReady :=
  inferInstanceAs (Decidable (_ ∧ _))

/-- The arm that is selected.  The arms are polled in order, and the arm of the pending candles is
ready at once where it is enabled, so the arms after it are only reached where it is not. -/
def select (loop : RunLoop) : EngineInput → Option Decided
  | .heartbeatFailure failure => some (loop.cancelAllAfterHeartbeatFailureDecision failure)
  | .serverTimeRefreshFailure failure outcomes =>
      some (loop.serverTimeRefreshFailureDecision failure outcomes)
  | .ctrlC => some (.ok .operatorShutdown, loop, [])
  | .startObservation => some loop.goOn
  | .observationCompleted observation =>
      some (loop.accountLevelDiagnosticObservationDecision observation)
  | .privateEvent event outcomes => some (loop.privateRuntimeEventDecision event outcomes)
  | .reconciliationTimer outcomes => some (loop.reconciliationTimerDecision outcomes)
  | .websocketHealth event queued outcomes =>
      some (loop.websocketHealthDecision event queued outcomes)
  | .pendingConfirmedCandle outcomes =>
      if loop.pendingConfirmedCandleReady then some (loop.pendingConfirmedCandleDecision outcomes)
      else none
  | .publicEvent event outcomes =>
      if loop.pendingConfirmedCandleReady then none
      else
        let (decision, next, log) := loop.publicRuntimeEventDecision event outcomes
        some (decision, next, receivedCandle event ++ log)
  | .level2 closed =>
      if loop.pendingConfirmedCandleReady then none
      else if closed then
        some (.error "OKX Level-2 runtime event channel closed unexpectedly", loop, [])
      else some loop.goOn

/-- One round of a loop that is still running. -/
def step (loop : RunLoop) (input : EngineInput) :
    Option ((Result RuntimeLoopDecision × List EngineLog) × RunLoop) :=
  if loop.running then
    (select loop input).map fun decided =>
      ((decided.1, decided.2.2),
        { decided.2.1 with running := decide (decided.1 = .ok .continueLoop) })
  else none

end OkxTrading
