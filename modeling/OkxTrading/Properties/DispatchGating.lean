import Mathlib.Data.List.Perm.Basic
import OkxTrading.Effect.Trace
import OkxTrading.Runtime.Engine

/-!
# Dispatches wait for the streams, and candles wait for the dispatches

Over every run of the engine's loop, whatever its arms receive and however the strategies end.

* `Open` — the last event of every mandatory stream is an acknowledgement, and every event that
  asked for a reconciliation was followed by a dispatch that every strategy answered.
* `Gate`, `CandleLedger` — what the state knows of the log: the readiness, and the candles.
* `dispatch_gated` — every other dispatch finds the gate open, and no candle is lost or overtaken.
-/

namespace OkxTrading

open Collections Effect

/-! ## The log -/

namespace EngineLog

def event? : EngineLog → Option OkxWebsocketHealthEvent
  | .processed event => some event
  | _ => none

def receivedCandle? : EngineLog → Option ConfirmedCandle
  | .received candle => some candle
  | _ => none

def dispatchedCandle? : EngineLog → Option ConfirmedCandle
  | .dispatched (.confirmedCandle instrumentId) (some candle) _ =>
      if candle.instrumentId = instrumentId then some candle else none
  | _ => none

def discardedCandle? : EngineLog → Option ConfirmedCandle
  | .discarded candle _ => some candle
  | _ => none

end EngineLog

/-- The last event of a stream that was processed. -/
def latestEvent? (log : List EngineLog) (stream : OkxWebsocketStreamIdentity) :
    Option OkxWebsocketHealthEvent :=
  (log.filterMap EngineLog.event?).reverse.find? fun event => decide (event.stream = stream)

/-- The candles of an instrument that a part of the log speaks of. -/
def candlesOf (part : EngineLog → Option ConfirmedCandle) (instrumentId : Text)
    (log : List EngineLog) : List ConfirmedCandle :=
  (log.filterMap part).filter fun candle => decide (candle.instrumentId = instrumentId)

/-- What the loop did in a run. -/
def engineLog (run : List (EngineInput × (Result RuntimeLoopDecision × List EngineLog))) :
    List EngineLog :=
  run.flatMap fun round => round.2.2

/-- Every event that asked for a reconciliation was followed by a dispatch about the streams, with
answers of this kind. -/
def Followed (good : List (ℕ × TickOutcome) → Prop) (log : List EngineLog) : Prop :=
  ∀ before event after, log = before ++ .processed event :: after →
    event.kind.requestsReconciliation = true →
      ∃ ticks, EngineLog.dispatched .streamStateChanged none ticks ∈ after ∧ good ticks

/-- Every event that asked for a reconciliation was followed by a dispatch that all strategies
answered with success. -/
def Reconciled (count : ℕ) : List EngineLog → Prop :=
  Followed fun ticks => ∀ index < count, (index, TickOutcome.ok) ∈ ticks

/-- Every mandatory stream was acknowledged last, and nothing waits for a reconciliation. -/
def Open (streams : Finset OkxWebsocketStreamIdentity) (count : ℕ) (log : List EngineLog) : Prop :=
  (∀ stream ∈ streams, ∃ event, latestEvent? log stream = some event ∧
    event.kind = .subscriptionAckSucceeded) ∧ Reconciled count log

/-- The dispatches that are not about the streams found the gate open. -/
def Gated (streams : Finset OkxWebsocketStreamIdentity) (count : ℕ) (log : List EngineLog) : Prop :=
  ∀ before dispatch candle ticks after, log = before ++ .dispatched dispatch candle ticks :: after →
    dispatch ≠ .streamStateChanged → Open streams count before

variable {streams : Finset OkxWebsocketStreamIdentity} {count : ℕ} {log more : List EngineLog}
  {entry : EngineLog} {stream : OkxWebsocketStreamIdentity} {event : OkxWebsocketHealthEvent}
  {instrumentId : Text} {candle : ConfirmedCandle} {good : List (ℕ × TickOutcome) → Prop}

/-- A place in a log that grew by one entry is in the log before, or is the new entry. -/
theorem split_concat {before after : List EngineLog} {x : EngineLog}
    (h : log ++ [entry] = before ++ x :: after) :
    (∃ rest, log = before ++ x :: rest ∧ after = rest ++ [entry]) ∨
      before = log ∧ x = entry ∧ after = [] := by
  rcases List.eq_nil_or_concat after with rfl | ⟨rest, last, rfl⟩
  · obtain ⟨hbefore, hentry⟩ := List.append_inj' h rfl
    exact .inr ⟨hbefore.symm, (List.cons.inj hentry).1.symm, rfl⟩
  · rw [List.concat_eq_append, ← List.cons_append, ← List.append_assoc] at h
    obtain ⟨hlog, hentry⟩ := List.append_inj' h rfl
    exact .inl ⟨rest, hlog, by rw [List.concat_eq_append, hentry]⟩

theorem latestEvent?_concat :
    latestEvent? (log ++ [entry]) stream = match entry.event? with
      | some event => if event.stream = stream then some event else latestEvent? log stream
      | none => latestEvent? log stream := by
  unfold latestEvent?
  rw [List.filterMap_append, List.reverse_append]
  cases hevent : entry.event? with
  | none => simp [hevent]
  | some event =>
      by_cases hstream : event.stream = stream
      · simp [hevent, hstream]
      · simp [hevent, hstream]

/-- An entry that asks for nothing leaves nothing waiting. -/
theorem Followed.concat (h : Followed good log)
    (hentry : ∀ event, entry = .processed event → event.kind.requestsReconciliation = false) :
    Followed good (log ++ [entry]) := by
  intro before event after hsplit hrequests
  rcases split_concat hsplit with ⟨rest, hlog, rfl⟩ | ⟨-, hevent, -⟩
  · obtain ⟨ticks, hmem, hgood⟩ := h before event rest hlog hrequests
    exact ⟨ticks, List.mem_append_left _ hmem, hgood⟩
  · rw [hentry event hevent.symm] at hrequests
    cases hrequests

/-- A dispatch about the streams follows all events before it. -/
theorem followed_of_dispatched {ticks : List (ℕ × TickOutcome)} (hgood : good ticks) :
    Followed good (log ++ [.dispatched .streamStateChanged none ticks]) := by
  intro before event after hsplit _
  rcases split_concat hsplit with ⟨rest, -, rfl⟩ | ⟨-, hevent, -⟩
  · exact ⟨ticks, List.mem_append_right _ (List.mem_singleton_self _), hgood⟩
  · cases hevent

theorem Gated.concat (h : Gated streams count log)
    (hentry : ∀ dispatch candle ticks, entry = .dispatched dispatch candle ticks →
      dispatch ≠ .streamStateChanged → Open streams count log) :
    Gated streams count (log ++ [entry]) := by
  intro before dispatch candle ticks after hsplit hother
  rcases split_concat hsplit with ⟨rest, hlog, -⟩ | ⟨rfl, hdispatch, -⟩
  · exact h before dispatch candle ticks rest hlog hother
  · exact hentry dispatch candle ticks hdispatch.symm hother

/-! ## The gate -/

/-- What the engine knows of the events that were processed; that the dispatch it asked for was
answered by all is only known where the loop goes on. -/
structure Gate (streams : Finset OkxWebsocketStreamIdentity) (goesOn : Prop)
    (engine : TradingEngine) (log : List EngineLog) : Prop where
  expected : engine.websocketHealthTracker.expectedStreams = streams
  mandatory : engine.websocketHealthTracker.mandatoryStreams = streams
  ready : ∀ stream ∈ streams, stream ∈ engine.websocketHealthTracker.readyStreams ↔
    ∃ event, latestEvent? log stream = some event ∧ event.kind = .subscriptionAckSucceeded
  dispatched : engine.websocketReconcileRequested = false → Followed (fun _ => True) log
  reconciled : goesOn → engine.websocketReconcileRequested = false →
    Reconciled engine.strategies.length log

namespace Gate

variable {engine next : TradingEngine} {goesOn goesOn' : Prop}

theorem mono (h : Gate streams goesOn engine log) (hgoesOn : goesOn' → goesOn) :
    Gate streams goesOn' engine log :=
  ⟨h.expected, h.mandatory, h.ready, h.dispatched, fun hlater => h.reconciled (hgoesOn hlater)⟩

theorem isOpen (h : Gate streams True engine log) (hready : engine.websocketStrategyDispatchReady) :
    Open streams engine.strategies.length log :=
  ⟨fun stream hstream => (h.ready stream hstream).1
    (hready.1 (h.mandatory ▸ hstream)), h.reconciled trivial hready.2⟩

/-- Entries that are no events change nothing of what the engine knows. -/
theorem concat (h : Gate streams goesOn engine log) (hentry : entry.event? = none) :
    Gate streams goesOn engine (log ++ [entry]) := by
  have hnone : ∀ event, entry = .processed event → event.kind.requestsReconciliation = false := by
    rintro event rfl
    cases hentry
  constructor
  · exact h.expected
  · exact h.mandatory
  · intro stream hstream
    rw [latestEvent?_concat, hentry]
    exact h.ready stream hstream
  · exact fun hrequested => (h.dispatched hrequested).concat hnone
  · exact fun hgoesOn hrequested => (h.reconciled hgoesOn hrequested).concat hnone

/-- One event. -/
theorem handle (h : Gate streams goesOn engine log) :
    Gate streams goesOn (engine.handleWebsocketHealthEvent event) (log ++ [.processed event]) := by
  have hsame : ∀ {good : List (ℕ × TickOutcome) → Prop},
      (engine.handleWebsocketHealthEvent event).websocketReconcileRequested = false →
        (engine.websocketReconcileRequested = false → Followed good log) →
          Followed good (log ++ [.processed event]) := by
    intro good hrequested hbefore
    obtain ⟨hkind, hnot⟩ := Bool.or_eq_false_iff.1 hrequested
    refine (hbefore hnot).concat fun other hother => ?_
    cases hother
    exact hkind
  constructor
  · rw [← h.expected]
    exact WebsocketHealthTracker.expectedStreams_record
  · rw [← h.mandatory]
    exact WebsocketHealthTracker.mandatoryStreams_record
  · intro stream hstream
    rw [latestEvent?_concat]
    refine (WebsocketHealthTracker.mem_ready_record (h.expected ▸ hstream)).trans ?_
    simp only [EngineLog.event?]
    by_cases hevent : event.stream = stream
    · simp [hevent]
    · simp only [hevent, if_false]
      exact h.ready stream hstream
  · exact fun hrequested => hsame hrequested h.dispatched
  · exact fun hgoesOn hrequested => hsame hrequested (h.reconciled hgoesOn)

theorem foldl {events : List OkxWebsocketHealthEvent} (h : Gate streams goesOn engine log) :
    Gate streams goesOn (events.foldl TradingEngine.handleWebsocketHealthEvent engine)
      (log ++ events.map .processed) := by
  induction events generalizing engine log with
  | nil => rwa [List.map_nil, List.append_nil]
  | cons event rest ih =>
      rw [List.map_cons, List.append_cons]
      exact ih h.handle

theorem sameTracker (h : Gate streams goesOn engine log)
    (hstrategies : next.strategies = engine.strategies)
    (htracker : next.websocketHealthTracker = engine.websocketHealthTracker)
    (hdispatched : next.websocketReconcileRequested = false → Followed (fun _ => True) log)
    (hreconciled : goesOn' → next.websocketReconcileRequested = false →
      Reconciled engine.strategies.length log) :
    Gate streams goesOn' next log where
  expected := by rw [htracker, h.expected]
  mandatory := by rw [htracker, h.mandatory]
  ready := by rw [htracker]; exact h.ready
  dispatched := hdispatched
  reconciled hgoesOn hnot := by rw [hstrategies]; exact hreconciled hgoesOn hnot

/-- The candles that wait are no part of it. -/
theorem ofCandles {candles : SortedMap Text ConfirmedCandle} (h : Gate streams goesOn engine log) :
    Gate streams goesOn { engine with pendingConfirmedCandles := candles } log :=
  ⟨h.expected, h.mandatory, h.ready, h.dispatched, h.reconciled⟩

end Gate

/-- The strategies are the ones the loop was started with. -/
theorem handle_strategies {engine : TradingEngine} {events : List OkxWebsocketHealthEvent} :
    (events.foldl TradingEngine.handleWebsocketHealthEvent engine).strategies = engine.strategies ∧
      (events.foldl TradingEngine.handleWebsocketHealthEvent engine).pendingConfirmedCandles =
        engine.pendingConfirmedCandles := by
  induction events generalizing engine with
  | nil => exact ⟨rfl, rfl⟩
  | cons event rest ih => exact ih

theorem Gated.processed {events : List OkxWebsocketHealthEvent} (h : Gated streams count log) :
    Gated streams count (log ++ events.map .processed) := by
  induction events generalizing log with
  | nil => rwa [List.map_nil, List.append_nil]
  | cons event rest ih =>
      rw [List.map_cons, List.append_cons]
      exact ih (h.concat fun _ _ _ hentry => by cases hentry)

/-! ## What a decision keeps -/

/-- The log stays gated, and the engine knows it. -/
structure KeepsGate (streams : Finset OkxWebsocketStreamIdentity) (loop : RunLoop)
    (log : List EngineLog) (decided : Decided) : Prop where
  gated : Gated streams loop.engine.strategies.length (log ++ decided.2.2)
  gate : Gate streams (decided.1 = .ok .continueLoop) decided.2.1.engine (log ++ decided.2.2)
  strategies : decided.2.1.engine.strategies = loop.engine.strategies

namespace KeepsGate

variable {loop : RunLoop} {outcomes : ℕ → TickOutcome} {dispatch : StrategyDispatch}
  {offered : Option ConfirmedCandle}

/-- A decision without a log that leaves the gate alone. -/
theorem quiet (hgated : Gated streams loop.engine.strategies.length log)
    (hgate : Gate streams True loop.engine log) {decision : Result RuntimeLoopDecision} :
    KeepsGate streams loop log (decision, loop, []) where
  gated := by rwa [List.append_nil]
  gate := by
    rw [List.append_nil]
    exact hgate.mono fun _ => trivial
  strategies := rfl

theorem strategyDispatchDecision (hgated : Gated streams loop.engine.strategies.length log)
    (hgate : Gate streams True loop.engine log) :
    KeepsGate streams loop log (loop.strategyDispatchDecision dispatch offered outcomes) := by
  unfold RunLoop.strategyDispatchDecision
  split
  · rename_i hready
    exact {
      gated := hgated.concat fun _ _ _ _ _ => hgate.isOpen hready
      gate := (hgate.concat rfl).mono fun _ => trivial
      strategies := rfl }
  · exact quiet hgated hgate

/-- The dispatch of a reconciliation opens the gate where it leaves no failures; else the request is
made again. -/
theorem websocketReconciliationDecision (hgated : Gated streams loop.engine.strategies.length log)
    (hgate : Gate streams True loop.engine log)
    (hready : loop.engine.websocketHealthTracker.allMandatoryStreamsReady) :
    KeepsGate streams loop log (loop.websocketReconciliationDecision outcomes) := by
  have hopen : (loop.requestReconciliation false).engine.websocketStrategyDispatchReady :=
    ⟨hready, rfl⟩
  unfold RunLoop.websocketReconciliationDecision RunLoop.strategyDispatchDecision
  rw [if_pos hopen]
  cases hexecute : executeStrategyDispatch (loop.requestReconciliation false).engine.strategies
      (loop.requestReconciliation false).tickFailures .streamStateChanged outcomes with
  | mk answer ticks =>
      obtain ⟨result, tickFailures⟩ := answer
      have hlog : Gated streams loop.engine.strategies.length
          (log ++ [.dispatched .streamStateChanged none ticks]) := by
        refine hgated.concat fun _ _ _ hentry hother => ?_
        cases hentry
        exact absurd rfl hother
      have hafter : Gate streams True loop.engine
          (log ++ [.dispatched .streamStateChanged none ticks]) := hgate.concat rfl
      rcases result with error | (_ | error)
      · exact ⟨hlog, hafter.sameTracker rfl rfl (fun _ => followed_of_dispatched trivial)
          (fun hgoesOn => by cases hgoesOn), rfl⟩
      · by_cases hfailures : tickFailures.hasFailures = true
        · simp only [hfailures, and_self, if_true]
          exact ⟨hlog, hafter.sameTracker rfl rfl (fun _ => followed_of_dispatched trivial)
            (fun _ hnot => by cases hnot), rfl⟩
        · simp only [hfailures]
          refine ⟨hlog, hafter.sameTracker rfl rfl (fun _ => followed_of_dispatched trivial)
            (fun _ _ => followed_of_dispatched fun index hindex => ?_), rfl⟩
          exact ok_of_executeStrategyDispatch hexecute (Bool.eq_false_iff.2 hfailures)
            (List.getElem?_eq_getElem hindex) trivial
      · exact ⟨hlog, hafter.sameTracker rfl rfl (fun _ => followed_of_dispatched trivial)
          (fun hgoesOn => by cases hgoesOn), rfl⟩

/-- A reconciliation that is due, or a dispatch of another kind. -/
theorem reconciliationTimerDecision (hgated : Gated streams loop.engine.strategies.length log)
    (hgate : Gate streams True loop.engine log) :
    KeepsGate streams loop log (loop.reconciliationTimerDecision outcomes) := by
  unfold RunLoop.reconciliationTimerDecision
  split
  · rename_i hdue
    exact websocketReconciliationDecision hgated hgate hdue.2
  · exact strategyDispatchDecision hgated hgate

theorem websocketHealthDecision {first : Option OkxWebsocketHealthEvent}
    {queued : List OkxWebsocketHealthEvent}
    (hgated : Gated streams loop.engine.strategies.length log)
    (hgate : Gate streams True loop.engine log) :
    KeepsGate streams loop log (loop.websocketHealthDecision first queued outcomes) := by
  cases first with
  | none => exact quiet hgated hgate
  | some first =>
      let events := TradingEngine.drainedEvents first queued
      let engine := events.foldl TradingEngine.handleWebsocketHealthEvent loop.engine
      have hstrategies : engine.strategies = loop.engine.strategies := handle_strategies.1
      have hgated' : Gated streams engine.strategies.length (log ++ events.map .processed) := by
        rw [hstrategies]
        exact hgated.processed
      have hgate' : Gate streams True engine (log ++ events.map .processed) := hgate.foldl
      have hlater : ∀ decided : Decided,
          KeepsGate streams { loop with engine } (log ++ events.map .processed) decided →
            KeepsGate streams loop log (decided.1, decided.2.1,
                events.map .processed ++ decided.2.2) := by
        intro decided hkeeps
        have hlog : log ++ (events.map EngineLog.processed ++ decided.2.2) =
            log ++ events.map .processed ++ decided.2.2 := (List.append_assoc ..).symm
        constructor
        · rw [hlog, ← hstrategies]
          exact hkeeps.gated
        · rw [hlog]
          exact hkeeps.gate
        · rw [← hstrategies]
          exact hkeeps.strategies
      have hlast : KeepsGate streams { loop with engine } (log ++ events.map .processed)
          (if RunLoop.reconciliationDue { loop with engine } then
            RunLoop.websocketReconciliationDecision { loop with engine } outcomes
          else RunLoop.goOn { loop with engine }) := by
        split
        · rename_i hdue
          exact websocketReconciliationDecision hgated' hgate' hdue.2
        · exact quiet hgated' hgate'
      unfold RunLoop.websocketHealthDecision
      simp only [TradingEngine.processWebsocketHealthEvents]
      split
      · exact hlater _ (quiet hgated' hgate')
      · exact hlater _ hlast

/-- What only changes the candles that wait keeps the gate. -/
theorem ofCandles {decided : Decided} {candles : SortedMap Text ConfirmedCandle}
    (h : KeepsGate streams
      { loop with engine := { loop.engine with pendingConfirmedCandles := candles } } log decided) :
    KeepsGate streams loop log decided := ⟨h.gated, h.gate, h.strategies⟩

theorem deferConfirmedCandle (hgated : Gated streams loop.engine.strategies.length log)
    (hgate : Gate streams True loop.engine log) {decision : Result RuntimeLoopDecision} :
    KeepsGate streams loop log (decision,
      { loop with engine := (loop.engine.deferConfirmedCandle candle).1 },
      (loop.engine.deferConfirmedCandle candle).2) := by
  have hdiscard : ∀ discarded kept,
      Gated streams loop.engine.strategies.length (log ++ [.discarded discarded kept]) :=
    fun _ _ => hgated.concat fun _ _ _ hentry => by cases hentry
  unfold TradingEngine.deferConfirmedCandle
  simp only
  split
  · exact quiet hgated hgate
  · split
    · exact {
        gated := by rwa [List.append_nil]
        gate := by
          rw [List.append_nil]
          exact (hgate.mono fun _ => trivial).ofCandles
        strategies := rfl }
    · split
      · exact ⟨hdiscard _ _, ((hgate.concat rfl).mono fun _ => trivial).ofCandles, rfl⟩
      · exact ⟨hdiscard _ _, (hgate.concat rfl).mono fun _ => trivial, rfl⟩

theorem publicRuntimeEventDecision {event : Option OkxPublicRuntimeEvent}
    (hgated : Gated streams loop.engine.strategies.length log)
    (hgate : Gate streams True loop.engine log) :
    KeepsGate streams loop log (loop.publicRuntimeEventDecision event outcomes) := by
  rcases event with _ | (candle | ⟨instrumentId, receivedAt⟩)
  · exact quiet hgated hgate
  · unfold RunLoop.publicRuntimeEventDecision
    simp only
    split
    · exact strategyDispatchDecision hgated hgate
    · exact deferConfirmedCandle hgated hgate
  · exact strategyDispatchDecision hgated hgate

theorem pendingConfirmedCandleDecision (hgated : Gated streams loop.engine.strategies.length log)
    (hgate : Gate streams True loop.engine log) :
    KeepsGate streams loop log (loop.pendingConfirmedCandleDecision outcomes) := by
  unfold RunLoop.pendingConfirmedCandleDecision
  split
  · exact quiet hgated hgate
  · rename_i candle engine htake
    unfold TradingEngine.takeReadyConfirmedCandle at htake
    split at htake
    · obtain ⟨entry, -, hentry⟩ := Option.map_eq_some_iff.1 htake
      cases hentry
      exact ofCandles (publicRuntimeEventDecision hgated hgate.ofCandles)
    · cases htake

/-- A candle that is taken from the channel is only logged. -/
theorem publicEvent {event : Option OkxPublicRuntimeEvent}
    (hgated : Gated streams loop.engine.strategies.length log)
    (hgate : Gate streams True loop.engine log) :
    KeepsGate streams loop log ((loop.publicRuntimeEventDecision event outcomes).1,
      (loop.publicRuntimeEventDecision event outcomes).2.1,
      receivedCandle event ++ (loop.publicRuntimeEventDecision event outcomes).2.2) := by
  rcases event with _ | (candle | ⟨instrumentId, receivedAt⟩)
  · exact quiet hgated hgate
  · have hafter : KeepsGate streams loop (log ++ [.received candle])
        (loop.publicRuntimeEventDecision (some (.confirmedCandle candle)) outcomes) :=
      publicRuntimeEventDecision (hgated.concat fun _ _ _ hentry => by cases hentry)
        (hgate.concat rfl)
    constructor
    · rw [receivedCandle, ← List.append_assoc]
      exact hafter.gated
    · rw [receivedCandle, ← List.append_assoc]
      exact hafter.gate
    · exact hafter.strategies
  · exact strategyDispatchDecision hgated hgate

end KeepsGate

/-! ## The candles -/

theorem candlesOf_append {part : EngineLog → Option ConfirmedCandle} :
    candlesOf part instrumentId (log ++ more) =
      candlesOf part instrumentId log ++ candlesOf part instrumentId more := by
  unfold candlesOf
  rw [List.filterMap_append, List.filter_append]

theorem candlesOf_nil {part : EngineLog → Option ConfirmedCandle} :
    candlesOf part instrumentId [] = [] := rfl

theorem candlesOf_cons {part : EngineLog → Option ConfirmedCandle} :
    candlesOf part instrumentId (entry :: log) =
      (part entry).toList.filter (fun candle => decide (candle.instrumentId = instrumentId)) ++
        candlesOf part instrumentId log := by
  unfold candlesOf
  cases hentry : part entry with
  | none =>
    rw [List.filterMap_cons_none hentry, Option.toList_none, List.filter_nil, List.nil_append]
  | some candle =>
      rw [List.filterMap_cons_some hentry, ← List.singleton_append, List.filter_append]
      rfl

/-- Nothing of a log speaks of a candle. -/
def NoCandles (log : List EngineLog) : Prop :=
  ∀ entry ∈ log, entry.receivedCandle? = none ∧ entry.dispatchedCandle? = none ∧
    entry.discardedCandle? = none

theorem candlesOf_eq_nil {part : EngineLog → Option ConfirmedCandle}
    (h : ∀ entry ∈ log, part entry = none) : candlesOf part instrumentId log = [] := by
  unfold candlesOf
  rw [List.filterMap_eq_nil_iff.2 h, List.filter_nil]

/-- The candle that waits for an instrument. -/
def pendingCandles (engine : TradingEngine) (instrumentId : Text) : List ConfirmedCandle :=
  (engine.pendingConfirmedCandles.get? instrumentId).toList

/-- What was received for an instrument was dispatched, waits, or was discarded; what was dispatched
or waits is in the order in which it was received. -/
structure CandleLedger (engine : TradingEngine) (instrumentId : Text) (log : List EngineLog) :
    Prop where
  order : (candlesOf EngineLog.dispatchedCandle? instrumentId log ++
    pendingCandles engine instrumentId).Sublist
      (candlesOf EngineLog.receivedCandle? instrumentId log)
  complete : (candlesOf EngineLog.receivedCandle? instrumentId log).Perm
    (candlesOf EngineLog.dispatchedCandle? instrumentId log ++ pendingCandles engine instrumentId ++
      candlesOf EngineLog.discardedCandle? instrumentId log)

/-- A candle is discarded for one of its instrument with no earlier bar, which waits then. -/
def DiscardsForLater (engine : TradingEngine) (log : List EngineLog) : Prop :=
  ∀ discarded kept, EngineLog.discarded discarded kept ∈ log →
    discarded.instrumentId = kept.instrumentId ∧ discarded.barTsMs ≤ kept.barTsMs ∧
      engine.pendingConfirmedCandles.get? kept.instrumentId = some kept

/-- The candles wait under their own instrument. -/
def Keyed (engine : TradingEngine) : Prop :=
  ∀ instrumentId candle, engine.pendingConfirmedCandles.get? instrumentId = some candle →
    candle.instrumentId = instrumentId

/-- What a decision keeps of the candles. -/
structure KeepsCandles (loop : RunLoop) (log : List EngineLog) (decided : Decided) : Prop where
  keyed : Keyed decided.2.1.engine
  ledger : ∀ instrumentId ∈ loop.engine.strategies,
    CandleLedger decided.2.1.engine instrumentId (log ++ decided.2.2)
  discards : DiscardsForLater decided.2.1.engine decided.2.2

/-- A decision without candles. -/
structure Silent (loop : RunLoop) (decided : Decided) : Prop where
  pending : decided.2.1.engine.pendingConfirmedCandles = loop.engine.pendingConfirmedCandles
  log : NoCandles decided.2.2

namespace Silent

variable {loop : RunLoop} {outcomes : ℕ → TickOutcome} {dispatch : StrategyDispatch}
  {decided : Decided}

theorem quiet {decision : Result RuntimeLoopDecision} : Silent loop (decision, loop, []) :=
  ⟨rfl, fun _ h => by cases h⟩

theorem strategyDispatchDecision :
    Silent loop (loop.strategyDispatchDecision dispatch none outcomes) := by
  unfold RunLoop.strategyDispatchDecision
  split
  · refine ⟨rfl, fun entry hentry => ?_⟩
    rw [List.mem_singleton.1 hentry]
    cases dispatch <;> exact ⟨rfl, rfl, rfl⟩
  · exact quiet

theorem websocketReconciliationDecision :
    Silent loop (loop.websocketReconciliationDecision outcomes) := by
  have hdispatch : Silent (loop.requestReconciliation false)
      ((loop.requestReconciliation false).strategyDispatchDecision .streamStateChanged none
        outcomes) :=
    strategyDispatchDecision
  unfold RunLoop.websocketReconciliationDecision
  simp only
  split
  · exact ⟨hdispatch.pending, hdispatch.log⟩
  · exact ⟨hdispatch.pending, hdispatch.log⟩

theorem reconciliationTimerDecision : Silent loop (loop.reconciliationTimerDecision outcomes) := by
  unfold RunLoop.reconciliationTimerDecision
  split
  · exact websocketReconciliationDecision
  · exact strategyDispatchDecision

theorem websocketHealthDecision {first : Option OkxWebsocketHealthEvent}
    {queued : List OkxWebsocketHealthEvent} :
    Silent loop (loop.websocketHealthDecision first queued outcomes) := by
  cases first with
  | none => exact quiet
  | some first =>
      let events := TradingEngine.drainedEvents first queued
      let engine := events.foldl TradingEngine.handleWebsocketHealthEvent loop.engine
      have hlater : ∀ decided : Decided, Silent { loop with engine } decided →
          Silent loop (decided.1, decided.2.1, events.map .processed ++ decided.2.2) := by
        intro decided hsilent
        refine ⟨hsilent.pending.trans handle_strategies.2, fun entry hentry => ?_⟩
        rcases List.mem_append.1 hentry with hentry | hentry
        · obtain ⟨event, -, rfl⟩ := List.mem_map.1 hentry
          exact ⟨rfl, rfl, rfl⟩
        · exact hsilent.log entry hentry
      have hlast : Silent { loop with engine }
          (if RunLoop.reconciliationDue { loop with engine } then
            RunLoop.websocketReconciliationDecision { loop with engine } outcomes
          else RunLoop.goOn { loop with engine }) := by
        split
        · exact websocketReconciliationDecision
        · exact quiet
      unfold RunLoop.websocketHealthDecision
      simp only [TradingEngine.processWebsocketHealthEvents]
      split
      · exact hlater _ quiet
      · exact hlater _ hlast

/-- The candles are as before. -/
theorem keeps (h : Silent loop decided) (hkeyed : Keyed loop.engine)
    (hledger : ∀ instrumentId ∈ loop.engine.strategies, CandleLedger loop.engine instrumentId log) :
    KeepsCandles loop log decided where
  keyed := by
    unfold Keyed
    rw [h.pending]
    exact hkeyed
  ledger := by
    intro instrumentId hstrategy
    have hbefore := hledger instrumentId hstrategy
    constructor
    · simp only [candlesOf_append, candlesOf_eq_nil fun e he => (h.log e he).1,
        candlesOf_eq_nil fun e he => (h.log e he).2.1, List.append_nil, pendingCandles, h.pending]
      exact hbefore.order
    · simp only [candlesOf_append, candlesOf_eq_nil fun e he => (h.log e he).1,
        candlesOf_eq_nil fun e he => (h.log e he).2.1,
        candlesOf_eq_nil fun e he => (h.log e he).2.2, List.append_nil, pendingCandles, h.pending]
      exact hbefore.complete
  discards := by
    intro discarded kept hmem
    have hnone := (h.log _ hmem).2.2
    cases hnone

end Silent

/-! ## The arms of the candles -/

section Candles

variable {loop : RunLoop} {outcomes : ℕ → TickOutcome} {dispatch : StrategyDispatch}
  {offered : Option ConfirmedCandle} {engine next : TradingEngine} {out : List EngineLog}

theorem strategyDispatchDecision_ready (hready : loop.engine.websocketStrategyDispatchReady) :
    ∃ decision tickFailures ticks, loop.strategyDispatchDecision dispatch offered outcomes =
      (.ok decision, { loop with tickFailures }, [.dispatched dispatch offered ticks]) :=
  ⟨_, _, _, if_pos hready⟩

/-- What a step adds to the ledger of an instrument. -/
theorem CandleLedger.step (h : CandleLedger engine instrumentId log)
    (horder : (candlesOf EngineLog.dispatchedCandle? instrumentId out ++
      pendingCandles next instrumentId).Sublist
        (pendingCandles engine instrumentId ++
        candlesOf EngineLog.receivedCandle? instrumentId out))
    (hcomplete : (pendingCandles engine instrumentId ++
      candlesOf EngineLog.receivedCandle? instrumentId out).Perm
        (candlesOf EngineLog.dispatchedCandle? instrumentId out ++
        pendingCandles next instrumentId ++
          candlesOf EngineLog.discardedCandle? instrumentId out)) :
    CandleLedger next instrumentId (log ++ out) := by
  constructor
  · rw [candlesOf_append, candlesOf_append, List.append_assoc]
    refine (List.Sublist.append_left horder _).trans ?_
    rw [← List.append_assoc]
    exact List.Sublist.append_right h.order _
  · rw [candlesOf_append, candlesOf_append, candlesOf_append]
    have hcount := List.perm_iff_count.1 h.complete
    have hstep := List.perm_iff_count.1 hcomplete
    refine List.perm_iff_count.2 fun candle => ?_
    have hbefore := hcount candle
    have hadded := hstep candle
    simp only [List.count_append] at hbefore hadded ⊢
    omega

/-- The candle that waits for its instrument is taken and dispatched. -/
theorem KeepsCandles.pendingConfirmedCandleDecision (hready : loop.pendingConfirmedCandleReady)
    (hkeyed : Keyed loop.engine)
    (hledger : ∀ instrumentId ∈ loop.engine.strategies, CandleLedger loop.engine instrumentId log) :
    KeepsCandles loop log (loop.pendingConfirmedCandleDecision outcomes) := by
  obtain ⟨hopen, hsome⟩ := hready
  obtain ⟨⟨key, candle⟩, rest, hentries⟩ :=
    List.exists_cons_of_ne_nil (SortedMap.isEmpty_eq_false.1 hsome)
  have hfirst : loop.engine.pendingConfirmedCandles.first? = some (key, candle) := by
    unfold SortedMap.first?
    rw [hentries, List.head?_cons]
  have hpending : loop.engine.pendingConfirmedCandles.get? key = some candle :=
    SortedMap.get?_eq_some.2 (SortedMap.mem_of_first? hfirst)
  obtain rfl := hkeyed key candle hpending
  let engine : TradingEngine := { loop.engine with
    pendingConfirmedCandles := loop.engine.pendingConfirmedCandles.erase candle.instrumentId }
  have htake : loop.engine.takeReadyConfirmedCandle = some (candle, engine) := by
    unfold TradingEngine.takeReadyConfirmedCandle
    rw [if_pos hopen]
    exact congrArg (Option.map _) hfirst
  obtain ⟨decision, tickFailures, ticks, hdispatch⟩ : ∃ decision tickFailures ticks,
      RunLoop.strategyDispatchDecision { loop with engine } (.confirmedCandle candle.instrumentId)
        (some candle) outcomes = (.ok decision, { loop with engine, tickFailures },
          [.dispatched (.confirmedCandle candle.instrumentId) (some candle) ticks]) :=
    strategyDispatchDecision_ready hopen
  have hdecided : loop.pendingConfirmedCandleDecision outcomes =
      (.ok decision, { loop with engine, tickFailures },
        [.dispatched (.confirmedCandle candle.instrumentId) (some candle) ticks]) := by
    unfold RunLoop.pendingConfirmedCandleDecision
    rw [htake]
    exact (if_pos hopen).trans hdispatch
  rw [hdecided]
  constructor
  · intro other kept hget
    rw [SortedMap.get?_erase] at hget
    split at hget
    · cases hget
    · exact hkeyed other kept hget
  · intro instrumentId hstrategy
    refine (hledger instrumentId hstrategy).step ?_ ?_
    · by_cases hid : instrumentId = candle.instrumentId
      · subst hid
        simp [candlesOf_cons, candlesOf_nil, EngineLog.dispatchedCandle?, EngineLog.receivedCandle?,
          pendingCandles,
          hpending, engine]
      · simp [candlesOf_cons, candlesOf_nil, EngineLog.dispatchedCandle?, EngineLog.receivedCandle?,
          pendingCandles,
          engine, hid, Ne.symm hid]
    · by_cases hid : instrumentId = candle.instrumentId
      · subst hid
        simp [candlesOf_cons, candlesOf_nil, EngineLog.dispatchedCandle?, EngineLog.receivedCandle?,
          EngineLog.discardedCandle?, pendingCandles, hpending, engine]
      · simp [candlesOf_cons, candlesOf_nil, EngineLog.dispatchedCandle?, EngineLog.receivedCandle?,
          EngineLog.discardedCandle?, pendingCandles, engine, hid, Ne.symm hid]
  · intro discarded kept hmem
    cases List.mem_singleton.1 hmem

/-- A candle that cannot be dispatched waits, or is discarded. -/
theorem KeepsCandles.deferConfirmedCandle {decision : Result RuntimeLoopDecision}
    (hkeyed : Keyed loop.engine)
    (hledger : ∀ instrumentId ∈ loop.engine.strategies, CandleLedger loop.engine instrumentId log) :
    KeepsCandles loop log (decision,
      { loop with engine := (loop.engine.deferConfirmedCandle candle).1 },
      [.received candle] ++ (loop.engine.deferConfirmedCandle candle).2) := by
  have hkept : Keyed { loop.engine with pendingConfirmedCandles :=
      loop.engine.pendingConfirmedCandles.insert candle.instrumentId candle } := by
    intro other kept hget
    rw [SortedMap.get?_insert] at hget
    split at hget
    · rename_i hother
      cases hget
      exact hother.symm
    · exact hkeyed other kept hget
  unfold TradingEngine.deferConfirmedCandle
  simp only
  split
  · -- No strategy trades the instrument: the ledgers of the others do not speak of the candle.
    rename_i hforeign
    refine ⟨hkeyed, fun instrumentId hstrategy => (hledger instrumentId hstrategy).step ?_ ?_, ?_⟩
    · have hid : candle.instrumentId ≠ instrumentId := fun h => hforeign (h ▸ hstrategy)
      simp [candlesOf_cons, candlesOf_nil, EngineLog.dispatchedCandle?, EngineLog.receivedCandle?,
        hid]
    · have hid : candle.instrumentId ≠ instrumentId := fun h => hforeign (h ▸ hstrategy)
      simp [candlesOf_cons, candlesOf_nil, EngineLog.dispatchedCandle?, EngineLog.receivedCandle?,
        EngineLog.discardedCandle?, hid]
    · intro discarded kept hmem
      simp at hmem
  · split
    · rename_i hnone
      refine ⟨hkept, fun instrumentId hstrategy =>
        (hledger instrumentId hstrategy).step ?_ ?_, ?_⟩
      · by_cases hid : instrumentId = candle.instrumentId
        · subst hid
          simp [candlesOf_cons, candlesOf_nil, EngineLog.dispatchedCandle?,
            EngineLog.receivedCandle?, pendingCandles, hnone]
        · simp [candlesOf_cons, candlesOf_nil, EngineLog.dispatchedCandle?,
            EngineLog.receivedCandle?, pendingCandles, hid, Ne.symm hid]
      · by_cases hid : instrumentId = candle.instrumentId
        · subst hid
          simp [candlesOf_cons, candlesOf_nil, EngineLog.dispatchedCandle?,
            EngineLog.receivedCandle?, EngineLog.discardedCandle?, pendingCandles, hnone]
        · simp [candlesOf_cons, candlesOf_nil, EngineLog.dispatchedCandle?,
            EngineLog.receivedCandle?, EngineLog.discardedCandle?, pendingCandles, hid, Ne.symm hid]
      · intro discarded kept hmem
        simp at hmem
    · rename_i pending hpending
      have hsame := hkeyed _ _ hpending
      split
      · rename_i hlater
        refine ⟨hkept, fun instrumentId hstrategy =>
          (hledger instrumentId hstrategy).step ?_ ?_, ?_⟩
        · by_cases hid : instrumentId = candle.instrumentId
          · subst hid
            simp [candlesOf_cons, candlesOf_nil, EngineLog.dispatchedCandle?,
              EngineLog.receivedCandle?, pendingCandles, hpending]
          · simp [candlesOf_cons, candlesOf_nil, EngineLog.dispatchedCandle?,
              EngineLog.receivedCandle?, pendingCandles, hid, Ne.symm hid]
        · by_cases hid : instrumentId = candle.instrumentId
          · subst hid
            simpa [candlesOf_cons, candlesOf_nil, EngineLog.dispatchedCandle?,
              EngineLog.receivedCandle?, EngineLog.discardedCandle?, pendingCandles, hpending,
                hsame]
              using List.Perm.swap candle pending []
          · simp [candlesOf_cons, candlesOf_nil, EngineLog.dispatchedCandle?,
              EngineLog.receivedCandle?, EngineLog.discardedCandle?, pendingCandles, hid,
              Ne.symm hid, hsame]
        · intro discarded kept hmem
          have hentry : EngineLog.discarded discarded kept = .discarded pending candle := by
            simpa using hmem
          cases hentry
          exact ⟨hsame, hlater, by rw [SortedMap.get?_insert, if_pos rfl]⟩
      · rename_i hearlier
        refine ⟨hkeyed, fun instrumentId hstrategy =>
          (hledger instrumentId hstrategy).step ?_ ?_, ?_⟩
        · simp [candlesOf_cons, candlesOf_nil, EngineLog.dispatchedCandle?,
            EngineLog.receivedCandle?]
        · simp [candlesOf_cons, candlesOf_nil, EngineLog.dispatchedCandle?,
            EngineLog.receivedCandle?, EngineLog.discardedCandle?]
        · intro discarded kept hmem
          have hentry : EngineLog.discarded discarded kept = .discarded candle pending := by
            simpa using hmem
          cases hentry
          exact ⟨hsame.symm, (lt_of_not_ge hearlier).le, by rw [hsame, hpending]⟩

/-- A public event: a candle is dispatched where none of its instrument waits. -/
theorem KeepsCandles.publicEvent {event : Option OkxPublicRuntimeEvent}
    (hready : ¬ loop.pendingConfirmedCandleReady) (hkeyed : Keyed loop.engine)
    (hledger : ∀ instrumentId ∈ loop.engine.strategies, CandleLedger loop.engine instrumentId log) :
    KeepsCandles loop log ((loop.publicRuntimeEventDecision event outcomes).1,
      (loop.publicRuntimeEventDecision event outcomes).2.1,
      receivedCandle event ++ (loop.publicRuntimeEventDecision event outcomes).2.2) := by
  rcases event with _ | (candle | ⟨instrumentId, receivedAt⟩)
  · exact Silent.quiet.keeps hkeyed hledger
  · by_cases hopen : loop.engine.websocketStrategyDispatchReady
    · have hnone : loop.engine.pendingConfirmedCandles.entries = [] := by
        by_contra hsome
        exact hready ⟨hopen, SortedMap.isEmpty_eq_false.2 hsome⟩
      have hget : ∀ instrumentId, loop.engine.pendingConfirmedCandles.get? instrumentId = none := by
        intro instrumentId
        refine SortedMap.get?_eq_none.2 fun e he => ?_
        rw [hnone] at he
        cases he
      obtain ⟨decision, tickFailures, ticks, hdispatch⟩ : ∃ decision tickFailures ticks,
          loop.strategyDispatchDecision (.confirmedCandle candle.instrumentId)
            (some candle) outcomes =
            (.ok decision, { loop with tickFailures },
              [.dispatched (.confirmedCandle candle.instrumentId) (some candle) ticks]) :=
        strategyDispatchDecision_ready hopen
      have hdecided : loop.publicRuntimeEventDecision (some (.confirmedCandle candle)) outcomes =
          (.ok decision, { loop with tickFailures },
            [.dispatched (.confirmedCandle candle.instrumentId) (some candle) ticks]) :=
        (if_pos hopen).trans hdispatch
      rw [hdecided]
      constructor
      · exact hkeyed
      · intro instrumentId hstrategy
        refine (hledger instrumentId hstrategy).step ?_ ?_
        · simp [receivedCandle, candlesOf_cons, candlesOf_nil, EngineLog.dispatchedCandle?,
            EngineLog.receivedCandle?,
            pendingCandles, hget]
        · simp [receivedCandle, candlesOf_cons, candlesOf_nil, EngineLog.dispatchedCandle?,
            EngineLog.receivedCandle?,
            EngineLog.discardedCandle?, pendingCandles, hget]
      · intro discarded kept hmem
        simp [receivedCandle] at hmem
    · have hdecided : loop.publicRuntimeEventDecision (some (.confirmedCandle candle)) outcomes =
          (.ok .continueLoop, { loop with engine := (loop.engine.deferConfirmedCandle candle).1 },
            (loop.engine.deferConfirmedCandle candle).2) := if_neg hopen
      rw [hdecided]
      exact deferConfirmedCandle hkeyed hledger
  · exact Silent.strategyDispatchDecision.keeps hkeyed hledger

end Candles

/-! ## Rounds and runs -/

/-- What holds of a loop and the log of its run. -/
structure LoopTracks (streams : Finset OkxWebsocketStreamIdentity) (strategies : List Text)
    (loop : RunLoop) (log : List EngineLog) : Prop where
  unchanged : loop.engine.strategies = strategies
  gated : Gated streams strategies.length log
  gate : Gate streams (loop.running = true) loop.engine log
  keyed : Keyed loop.engine
  ledger : ∀ instrumentId ∈ strategies, CandleLedger loop.engine instrumentId log

section Rounds

variable {strategies : List Text} {loop next : RunLoop} {input : EngineInput}
  {answer : Result RuntimeLoopDecision × List EngineLog}

/-- Every arm keeps both. -/
theorem select_keeps (h : LoopTracks streams strategies loop log) (hrunning : loop.running = true)
    {decided : Decided} (hselect : select loop input = some decided) :
    KeepsGate streams loop log decided ∧ KeepsCandles loop log decided := by
  obtain ⟨rfl, hgated, hgate, hkeyed, hledger⟩ := h
  have hgate : Gate streams True loop.engine log := hgate.mono fun _ => hrunning
  have hquiet : ∀ decision : Result RuntimeLoopDecision,
      KeepsGate streams loop log (decision, loop, []) ∧
        KeepsCandles loop log (decision, loop, []) :=
    fun _ => ⟨.quiet hgated hgate, Silent.quiet.keeps hkeyed hledger⟩
  have hdispatch : ∀ dispatch outcomes,
      KeepsGate streams loop log (loop.strategyDispatchDecision dispatch none outcomes) ∧
        KeepsCandles loop log (loop.strategyDispatchDecision dispatch none outcomes) :=
    fun _ _ => ⟨.strategyDispatchDecision hgated hgate,
      Silent.strategyDispatchDecision.keeps hkeyed hledger⟩
  cases input with
  | heartbeatFailure failure =>
      cases hselect
      cases failure <;> exact hquiet _
  | serverTimeRefreshFailure failure outcomes =>
      cases hselect
      cases failure with
      | none => exact hquiet _
      | some error => exact hdispatch _ _
  | ctrlC =>
      cases hselect
      exact hquiet _
  | startObservation =>
      cases hselect
      exact hquiet _
  | observationCompleted observation =>
      cases hselect
      cases observation <;> exact hquiet _
  | privateEvent event outcomes =>
      cases hselect
      cases event with
      | none => exact hquiet _
      | some event => exact hdispatch _ _
  | reconciliationTimer outcomes =>
      cases hselect
      exact ⟨.reconciliationTimerDecision hgated hgate,
        Silent.reconciliationTimerDecision.keeps hkeyed hledger⟩
  | websocketHealth event queued outcomes =>
      cases hselect
      exact ⟨.websocketHealthDecision hgated hgate,
        Silent.websocketHealthDecision.keeps hkeyed hledger⟩
  | pendingConfirmedCandle outcomes =>
      simp only [select] at hselect
      split at hselect
      · rename_i hready
        cases hselect
        exact ⟨.pendingConfirmedCandleDecision hgated hgate,
          .pendingConfirmedCandleDecision hready hkeyed hledger⟩
      · cases hselect
  | publicEvent event outcomes =>
      simp only [select] at hselect
      split at hselect
      · cases hselect
      · rename_i hready
        cases hselect
        exact ⟨.publicEvent hgated hgate, .publicEvent hready hkeyed hledger⟩
  | level2 closed =>
      simp only [select] at hselect
      split at hselect
      · cases hselect
      · split at hselect
        · cases hselect
          exact hquiet _
        · cases hselect
          exact hquiet _

/-- One round. -/
theorem step_tracks (h : LoopTracks streams strategies loop log)
    (hstep : step loop input = some (answer, next)) :
    LoopTracks streams strategies next (log ++ answer.2) ∧
        DiscardsForLater next.engine answer.2 := by
  unfold step at hstep
  split at hstep
  · rename_i hrunning
    obtain ⟨decided, hselect, hnext⟩ := Option.map_eq_some_iff.1 hstep
    cases hnext
    obtain ⟨hkeeps, hcandles⟩ := select_keeps h hrunning hselect
    obtain ⟨rfl, -⟩ := h
    exact ⟨{
      unchanged := hkeeps.strategies
      gated := hkeeps.gated
      gate := hkeeps.gate.mono of_decide_eq_true
      keyed := hcandles.keyed
      ledger := hcandles.ledger }, hcandles.discards⟩
  · cases hstep

theorem start_tracks : LoopTracks streams strategies (RunLoop.start strategies streams) [] where
  unchanged := rfl
  gated := by
    intro before dispatch candle ticks after hsplit
    simp at hsplit
  gate := {
    expected := rfl
    mandatory := rfl
    ready := by
      intro stream _
      simp [RunLoop.start, WebsocketHealthTracker.new, latestEvent?]
    dispatched := by
      intro _ before event after hsplit
      simp at hsplit
    reconciled := by
      intro _ _ before event after hsplit
      simp at hsplit }
  keyed := by
    intro instrumentId candle hget
    cases hget
  ledger _ _ := ⟨List.Sublist.refl _, List.Perm.refl _⟩

/-- After every run. -/
theorem run_tracks {inputs : List EngineInput}
    {run : List (EngineInput × (Result RuntimeLoopDecision × List EngineLog))}
    (h : trace step (RunLoop.start strategies streams) inputs = some (run, loop)) :
    LoopTracks streams strategies loop (engineLog run) := by
  refine trace_induction (P := fun run loop => LoopTracks streams strategies loop (engineLog run))
    start_tracks ?_ h
  intro run loop input answer next _ htracks hstep
  have hlog : engineLog (run ++ [(input, answer)]) = engineLog run ++ answer.2 := by
    simp [engineLog]
  rw [hlog]
  exact (step_tracks htracks hstep).1

/-- **Dispatches wait for the streams, and no candle is lost.**  In every run, a dispatch that is
not about the streams happens where every mandatory stream was acknowledged last and every strategy
has answered a dispatch about the streams since the last event that asked for one.  What was
received for a strategy's instrument was dispatched, waits, or was discarded; what was dispatched
and what waits are in the order of receipt; and the next round discards only for a candle with no
earlier bar, which waits then. -/
theorem dispatch_gated {inputs : List EngineInput}
    {run : List (EngineInput × (Result RuntimeLoopDecision × List EngineLog))}
    (h : trace step (RunLoop.start strategies streams) inputs = some (run, loop)) :
    Gated streams strategies.length (engineLog run) ∧
      (∀ instrumentId ∈ strategies, CandleLedger loop.engine instrumentId (engineLog run)) ∧
      ∀ input answer next, step loop input = some (answer, next) →
        DiscardsForLater next.engine answer.2 := by
  have htracks := run_tracks h
  exact ⟨htracks.gated, htracks.ledger, fun input answer next hstep =>
    (step_tracks htracks hstep).2⟩

/-! ### A run -/

def demoStream : OkxWebsocketStreamIdentity := ⟨.businessKind, .publicCandles, 1⟩

def demoCandle (barTsMs : ℤ) : ConfirmedCandle := ⟨"BTC-USDT".toList, barTsMs, 0⟩

/-- Two candles come before the stream is acknowledged, and only the later one waits; the first
reconciliation fails, and the candle is dispatched after the second. -/
def demoInputs : List EngineInput :=
  [.publicEvent (some (.confirmedCandle (demoCandle 1))) fun _ => .ok,
    .publicEvent (some (.confirmedCandle (demoCandle 2))) fun _ => .ok,
    .websocketHealth (some ⟨.subscriptionAckSucceeded, demoStream⟩) [] fun _ => .failed "",
    .reconciliationTimer fun _ => .ok,
    .pendingConfirmedCandle fun _ => .ok]

/-- What the run did, apart from the events it received. -/
def demoDecisions : List EngineLog :=
  [.discarded (demoCandle 1) (demoCandle 2),
    .dispatched .streamStateChanged none [(0, .failed "")],
    .dispatched .streamStateChanged none [(0, .ok)],
    .dispatched (.confirmedCandle "BTC-USDT".toList) (some (demoCandle 2)) [(0, .ok)]]

/-- The theorem at such a run. -/
theorem dispatch_gated_demo : ∃ run loop,
    trace step (RunLoop.start ["BTC-USDT".toList] {demoStream}) demoInputs = some (run, loop) ∧
      demoDecisions.Sublist (engineLog run) ∧
      Gated {demoStream} 1 (engineLog run) ∧
      CandleLedger loop.engine "BTC-USDT".toList (engineLog run) ∧
      ∀ input answer next, step loop input = some (answer, next) →
        DiscardsForLater next.engine answer.2 := by
  have hdefined : ((trace step (RunLoop.start ["BTC-USDT".toList] {demoStream}) demoInputs).map
      fun last => demoDecisions.isSublist (engineLog last.1)) = some true := by
    decide +kernel
  obtain ⟨⟨run, loop⟩, hrun, hdecisions⟩ := Option.map_eq_some_iff.1 hdefined
  obtain ⟨hgated, hledger, hdiscards⟩ := dispatch_gated hrun
  exact ⟨run, loop, hrun, List.isSublist_iff_sublist.1 hdecisions, hgated,
    hledger _ (List.mem_singleton_self _), hdiscards⟩

end Rounds

end OkxTrading
