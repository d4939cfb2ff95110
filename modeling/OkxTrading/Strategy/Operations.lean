import OkxTrading.Strategy.EntrySubmission

/-!
# Operations of the runner

The public operations of `OkxEmaAtrMakerTrendRunner`: start-up, the reactions to candles, private
events, the timer and instrument updates, the reconciliation after an interrupted tick, and the
operator shutdown of `shutdown.rs`.

* `initializeRunner`, `onConfirmedCandle`, `onPrivateEvent`, `onReconcileTimer`,
  `onInstrumentUpdate`, `reconcileAfterInterruptedTick`, `shutdown`.
* `Operation.run` — the operations as one type.
-/

namespace OkxTrading

open Effect

variable {F W : Type} [F64 F] (client : OkxClient F W)

def okxEmaAtrMakerTrendBar : Text := ['1', 'm']
def historicalWarmupBars : Nat := 120

/-! ## Start-up -/

/-- `configure_fee_schedule`. -/
def Runner.configureFeeSchedule (self : Runner F) (fee : OkxTradeFeeRate) :
    Result (Runner F) := do
  fee.ensureSpot
  let makerCostRate := max (← fee.normalizedMakerCostRate) 0
  let takerCostRate := max (← fee.normalizedTakerCostRate) 0
  ensure (makerCostRate < 1 ∧ takerCostRate < 1) "OKX SPOT fee costs must be below one"
  return { self with
    signal := ← self.signal.setRoundTripCostRate (makerCostRate + takerCostRate)
    entryFeeCostRate := some makerCostRate
    exitFeeCostRate := some takerCostRate }

/-- The time of the last confirmed candle. -/
def applyStartupWarmup : Run F W (Option Int) := do
  let bars ← ask client
    (.candles (← instrumentId) okxEmaAtrMakerTrendBar historicalWarmupBars)
  let confirmedBars := confirmedBarsChronological bars
  runnerMut fun self => { self with
    signal := confirmedBars.foldl (fun signal bar => (signal.updateFromBar bar).1) self.signal }
  ensure (← runner).signal.ready
    "OkxEmaAtrMakerTrend requires initialized EMA/ATR before live startup"
  return confirmedBars.getLast?.map (·.tsMs)

/-- Fees and bars are read before anything is reconstructed. -/
def prepareStartupExchangeState : Run F W Unit := do
  let some validated := (← runner).validatedInstrument
    | Prog.stop (.failed "strategy is missing validated instrument context")
  let fee ← ask client (.spotTradeFee (← instrumentId))
  let configured ← (← runner).configureFeeSchedule fee
  runnerMut fun _ => configured
  let lastBarTsMs ← applyStartupWarmup client
  runnerMut fun self => { self with
    exchange := some (.startup validated.instrument lastBarTsMs) }

/-- A position that was reconstructed is protected at once. -/
def protectReconstructedStartupState : Run F W Unit := do
  reconstructExchangeState client
  ensurePositionProtection client

/-- `initialize`. -/
def initializeRunner : Run F W Unit := do
  prepareStartupExchangeState client
  protectReconstructedStartupState client

/-- The operations initialise the runner where that has not been done. -/
def ensureInitialized : Run F W Unit := do
  if (← exchange?).isNone then
    initializeRunner client

/-! ## Ticks -/

/-- One confirmed candle of `refresh_bars`; candles the state has seen are skipped. -/
def refreshBar (bar : MarketBar F) : Run F W Unit := do
  let state ← exchange
  if state.lastBarTsMs.any fun lastTsMs => decide (bar.tsMs ≤ lastTsMs) then return ()
  exchangeMut fun state => { state with lastBarTsMs := some bar.tsMs }
  runnerMut fun self => { self with signal := (self.signal.updateFromBar bar).1 }

/-- The confirmed bars one after another. -/
def refreshBarsLoop : List (MarketBar F) → Run F W Unit
  | [] => pure ()
  | bar :: rest => do
      refreshBar bar
      refreshBarsLoop rest

/-- The bars since the last one seen. -/
def refreshBars : Run F W Unit := do
  let bars ← ask client (.liveCandles (← instrumentId) okxEmaAtrMakerTrendBar 3)
  refreshBarsLoop (confirmedBarsChronological bars)

/-- Every tracked order is read again, the entry first. -/
def refreshTrackedOrders : Run F W Unit := do
  refreshEntryOrder client
  refreshTakeProfitOrder client
  refreshStopLossOrder client
  refreshStopLossExitOrder client

/-- The stop loss is placed and evaluated, then what is left of a position is protected. -/
def enforceTickExitProtection : Run F W Unit := do
  ensureStopLossOrder client
  evaluateStopLoss client
  ensurePositionProtection client

/-- `on_confirmed_candle`. -/
def onConfirmedCandle : Run F W Unit := do
  ensureInitialized client
  refreshBars client
  refreshTrackedOrders client
  enforceTickExitProtection client
  evaluateEntry client

/-- `on_private_event`. -/
def onPrivateEvent : Run F W Unit := do
  ensureInitialized client
  refreshTrackedOrders client
  enforceTickExitProtection client

/-- `on_reconcile_timer`. -/
def onReconcileTimer : Run F W Unit := do
  ensureInitialized client
  refreshBars client
  refreshTrackedOrders client
  enforceTickExitProtection client

/-- `on_instrument_update`: the instrument is read again and has to agree. -/
def onInstrumentUpdate : Run F W Unit := do
  ensureInitialized client
  let instrument ← ask client (.instruments (← instrumentId))
  let some validated := (← runner).validatedInstrument
    | Prog.stop (.failed "strategy is missing validated instrument context")
  validated.ensurePublicRefreshMatches instrument
  exchangeMut fun state => { state with instrument := validated.instrument }
  reconstructExchangeState client
  ensurePositionProtection client

/-- `reconcile_after_interrupted_tick`. -/
def reconcileAfterInterruptedTick : Run F W Unit := do
  if (← exchange?).isNone then
    initializeRunner client
  else
    reconstructExchangeState client
    refreshEntryOrder client
    refreshTakeProfitOrder client
    refreshStopLossOrder client
    refreshStopLossExitOrder client
    evaluateStopLoss client
    ensureTakeProfitOrder client
    ensureStopLossOrder client

/-! ## Shutdown -/

/-- The order, read now, may still be filled. -/
def regularOrderIsLive (clientOrderId : Text) : Run F W Bool := do
  let order ← ask client (.order (← instrumentId) clientOrderId)
  return Option.any OkxOrder.isLive order

/-- `bail!` where an order is still live. -/
def ensureNotLive (clientOrderId : Text) (message : Message) : Run F W Unit := do
  ensure ((← regularOrderIsLive client clientOrderId) = false) message

/-- The entry order is cancelled and has to be gone. -/
def cancelShutdownEntryOrder : Run F W Unit := do
  let some entryOrder := (← exchange).entryOrder | return ()
  cancelTrackedEntryOrder client entryOrder.clientOrderId
  refreshEntryOrder client
  ensureNotLive client entryOrder.clientOrderId
    "shutdown left live OKX entry order; final state is ambiguous"
  if (← exchange).position.isSome then return ()
  exchangeMut fun state => { state with
    entryOrder := state.entryOrder.filter fun order =>
      decide (order.clientOrderId ≠ entryOrder.clientOrderId) }

/-- Without a position no exit order may be left. -/
def shutdownWithoutPosition : Run F W Unit := do
  (match (← exchange).takeProfitOrder with
  | some takeProfitOrder => do
      cancelTakeProfitOrder client
      ensureNotLive client takeProfitOrder.clientOrderId
        "shutdown left live OKX take-profit order; final state is ambiguous"
      exchangeMut fun state => { state with takeProfitOrder := none }
  | none => pure ())
  (match (← exchange).stopLossOrder with
  | some _ => do
      cancelStopLossOrder client
      refreshStopLossOrder client
      ensure (¬ (← exchange).stopLossOrder.isSome)
        "shutdown left live OKX stop-loss algo; final state is ambiguous"
  | none => pure ())
  (match (← exchange).stopLossExitOrder with
  | some stopLossExitOrder => do
      cancelStopLossExitOrder client
      ensureNotLive client stopLossExitOrder.clientOrderId
        "shutdown left live OKX stop-loss exit order; final state is ambiguous"
      exchangeMut fun state => { state with stopLossExitOrder := none }
  | none => pure ())
  clearPositionState

/-- A take-profit that is still live while a stop-loss is pending without a market exit. -/
def releaseShutdownTakeProfit (takeProfitOrder : TrackedOrder) : Run F W Unit := do
  if ← regularOrderIsLive client takeProfitOrder.clientOrderId then
    cancelTakeProfitOrder client
    Prog.stop (.failed
      ("shutdown found pending OKX stop-loss without market exit while take-profit order is " ++
        "still live; final state is ambiguous"))
  else refreshTakeProfitOrder client

/-- A pending stop loss without an order is carried out before the end. -/
def reconcileShutdownPendingStopLoss : Run F W Unit := do
  let some state ← exchange? | return ()
  if state.position.isNone ∨ state.stopLossPending.isNone ∨ state.stopLossOrder.isSome ∨
      state.stopLossExitOrder.isSome then return ()
  (match state.takeProfitOrder with
  | some takeProfitOrder => releaseShutdownTakeProfit client takeProfitOrder
  | none => pure ())
  let state ← exchange
  if state.position.isNone ∨ state.stopLossOrder.isSome ∨ state.stopLossExitOrder.isSome then
    return ()
  evaluateStopLoss client

/-- The end of `shutdown_with_position`, where a position is left. -/
def protectShutdownPosition : Run F W Unit := do
  ensureTakeProfitOrder client
  ensureStopLossOrder client
  let state ← exchange
  ensure (state.stopLossOrder.isSome ∨ state.stopLossExitOrder.isSome)
    ("shutdown found an open OKX strategy position without stop-loss protection; " ++
      "final state is ambiguous")
  ensure (state.takeProfitOrder.isSome ∨ state.stopLossExitOrder.isSome)
    ("shutdown found an open OKX strategy position without take-profit or active exit " ++
      "protection; final state is ambiguous")

/-- A position keeps its protection when the runner ends. -/
def shutdownWithPosition : Run F W Unit := do
  refreshTakeProfitOrder client
  refreshStopLossOrder client
  refreshStopLossExitOrder client
  evaluateStopLoss client
  reconcileShutdownPendingStopLoss client
  if (← exchange).position.isNone then shutdownWithoutPosition client
  else protectShutdownPosition client

def reconcileShutdownPosition : Run F W Unit := do
  if (← exchange).position.isNone then shutdownWithoutPosition client
  else shutdownWithPosition client

/-- `shutdown`, as far as the orders go. -/
def shutdown : Run F W Unit := do
  ensureInitialized client
  refreshTrackedOrders client
  cancelShutdownEntryOrder client
  reconcileShutdownPosition client

/-! ## The operations as one type -/

/-- The operations that the runtime calls. -/
inductive Operation where
  | initializeRunner
  | onConfirmedCandle
  | onPrivateEvent
  | onReconcileTimer
  | onInstrumentUpdate
  | reconcileAfterInterruptedTick
  deriving DecidableEq, Repr

/-- The reactions to candles, private events and the timer. -/
def Operation.isTick : Operation → Bool
  | .onConfirmedCandle | .onPrivateEvent | .onReconcileTimer => true
  | _ => false

/-- An operation as a run. -/
def Operation.run : Operation → Run F W Unit
  | .initializeRunner => OkxTrading.initializeRunner client
  | .onConfirmedCandle => OkxTrading.onConfirmedCandle client
  | .onPrivateEvent => OkxTrading.onPrivateEvent client
  | .onReconcileTimer => OkxTrading.onReconcileTimer client
  | .onInstrumentUpdate => OkxTrading.onInstrumentUpdate client
  | .reconcileAfterInterruptedTick => OkxTrading.reconcileAfterInterruptedTick client

end OkxTrading
