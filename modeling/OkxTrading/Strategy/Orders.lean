import OkxTrading.Strategy.Evidence

/-!
# Tracked orders

The methods of the runner that look up, place, amend and cancel its four orders and keep the
position they protect.  Each follows the method of its name in `okx_ema_atr_maker_trend.rs`.

* `refreshEntryOrder`, `refreshTakeProfitOrder`, `refreshStopLossOrder`,
  `refreshStopLossExitOrder` — one lookup of a tracked order and what follows from the answer.
* `ensureTakeProfitOrder`, `ensureStopLossOrder` — protection of an open position.
* `evaluateStopLoss` — the local stop-loss and the market exit.
-/

namespace OkxTrading

open Effect

variable {F W : Type} [F64 F] (client : OkxClient F W)

/-! ## State changes -/

/-- `clear_position_state`. -/
def ExchangeState.clear (self : ExchangeState) : ExchangeState :=
  { self with
    position := none, entryOrder := none, takeProfitOrder := none, stopLossOrder := none,
    stopLossExitOrder := none, stopLossPending := none }

/-- The position is gone, and what was tracked for it. -/
def clearPositionState : Run F W Unit := do
  note .cleared
  Prog.modify fun s => s.withExchange (s.runner.exchange.map ExchangeState.clear)

/-- The quantity that is left, or nothing below the minimum size. -/
def OpenPosition.reduced (self : OpenPosition) (fillDelta minSize : Decimal) :
    Option OpenPosition :=
  let remaining := self.quantity - fillDelta
  let quantity := if 0 < remaining then remaining else 0
  if quantity < minSize then none else some { self with quantity := quantity }

/-- The id is there for the log only. -/
def applyPositionReducingFill (clientOrderId : Text) (fillDelta : Decimal) : Run F W Bool := do
  let minSize ← (← exchange).instrument.minSize
  note (.exitFill clientOrderId fillDelta)
  let some position := (← exchange).position | return false
  exchangeMut fun state => { state with position := position.reduced fillDelta minSize }
  return true

/-- What the tracked entry order is known to have filled. -/
def updateEntryTracking (clientOrderId : Text) (lastFillSize : Decimal)
    (lastAverageFillPrice : Option Decimal) (accounting : OkxSpotFillAccounting)
    (cancelRequested : Bool) : Run F W Unit :=
  exchangeMut fun state => { state with
    entryOrder := TrackedOrder.updateIf clientOrderId
      (fun order => { order.accounted lastFillSize accounting with
        lastAverageFillPrice := lastAverageFillPrice, cancelRequested := cancelRequested })
      state.entryOrder }

/-- The same for the take profit. -/
def updateTakeProfitTracking (clientOrderId : Text) (lastFillSize : Decimal)
    (accounting : OkxSpotFillAccounting) : Run F W Unit :=
  exchangeMut fun state => { state with
    takeProfitOrder := TrackedOrder.updateIf clientOrderId
      (TrackedOrder.accounted lastFillSize accounting) state.takeProfitOrder }

/-- The same for the market exit. -/
def updateStopLossExitTracking (clientOrderId : Text) (lastFillSize : Decimal)
    (accounting : OkxSpotFillAccounting) : Run F W Unit :=
  exchangeMut fun state => { state with
    stopLossExitOrder := TrackedOrder.updateIf clientOrderId
      (TrackedOrder.accounted lastFillSize accounting) state.stopLossExitOrder }

/-- A cancellation of the take profit was asked for. -/
def markTakeProfitCancelRequested (clientOrderId : Text) : Run F W Unit :=
  exchangeMut fun state => { state with
    takeProfitOrder := TrackedOrder.updateIf clientOrderId TrackedOrder.cancelled
      state.takeProfitOrder }

/-! ## Cancels -/

/-- A refused cancel only answers `false`; a cut-off still ends the tick. -/
def cancelIfLive (clientOrderId : Text) : Run F W Bool := do
  match ← (ask client (.cancelOrder (← instrumentId) clientOrderId)).attempt with
  | .ok _ => return true
  | .error (.failed _) => return false
  | .error .abandoned => Prog.stop .abandoned

/-- The entry order is cancelled once. -/
def cancelTrackedEntryOrder (clientOrderId : Text) : Run F W Unit := do
  let some entryOrder := (← exchange).entryOrder | return ()
  if entryOrder.clientOrderId ≠ clientOrderId ∨ entryOrder.cancelRequested then return ()
  ask client (.cancelOrder (← instrumentId) clientOrderId)
  exchangeMut fun state => { state with
    entryOrder := TrackedOrder.updateIf clientOrderId TrackedOrder.cancelled state.entryOrder }

/-- The take profit is cancelled once. -/
def cancelTakeProfitOrder : Run F W Unit := do
  let some takeProfitOrder := (← exchange?).bind (·.takeProfitOrder) | return ()
  if takeProfitOrder.cancelRequested then return ()
  ask client (.cancelOrder (← instrumentId) takeProfitOrder.clientOrderId)
  markTakeProfitCancelRequested takeProfitOrder.clientOrderId

/-- The stop loss is cancelled once. -/
def cancelStopLossOrder : Run F W Unit := do
  let some stopLossOrder := (← exchange?).bind (·.stopLossOrder) | return ()
  if stopLossOrder.cancelRequested then return ()
  ask client (.cancelAlgoOrder (← instrumentId) stopLossOrder.algoId)
  exchangeMut fun state => { state with
    stopLossOrder := state.stopLossOrder.map fun order =>
      if order.algoId = stopLossOrder.algoId then { order with cancelRequested := true }
      else order }

/-- The market exit is cancelled once. -/
def cancelStopLossExitOrder : Run F W Unit := do
  let some stopLossExitOrder := (← exchange?).bind (·.stopLossExitOrder) | return ()
  if stopLossExitOrder.cancelRequested then return ()
  ask client (.cancelOrder (← instrumentId) stopLossExitOrder.clientOrderId)
  exchangeMut fun state => { state with
    stopLossExitOrder := TrackedOrder.updateIf stopLossExitOrder.clientOrderId
      TrackedOrder.cancelled state.stopLossExitOrder }

/-! ## Protection -/

/-- The amount is within the limit in USD, with the rate read now. -/
def ensureLimitQuoteAmount (quoteAmount : Decimal) (context : Message) : Run F W Unit := do
  let some validated := (← runner).validatedInstrument
    | Prog.stop (.failed "strategy is missing validated instrument context")
  let some _ ← validated.instrument.maxLimitAmount | return ()
  let quoteUsdRate ← ask client (.freshQuoteUsdRate validated)
  validated.ensureLimitQuoteAmount quoteAmount quoteUsdRate context

/-- A take profit is placed for the position and tracked. -/
def placeTakeProfit (quantity averagePrice : Decimal) : Run F W Unit := do
  let target ← (← runner).takeProfitOrderShape quantity averagePrice
  let state ← exchange
  let minSize ← state.instrument.minSize
  ensure (minSize ≤ target.size) "OkxEmaAtrMakerTrend take-profit size is below OKX minSz"
  state.instrument.ensureLimitSize target.size "OkxEmaAtrMakerTrend take-profit size"
  let quoteNotional := target.size * target.price
  ensureLimitQuoteAmount client quoteNotional "OkxEmaAtrMakerTrend take-profit quote notional"
  let clientOrderId ← newClientOrderId client .takeProfit
  ask client (.placeOrder (← instrumentId) .sell .limit target.size (some target.price)
    clientOrderId)
  exchangeMut fun state => { state with takeProfitOrder := some (.submitted clientOrderId) }

/-- The position has a take profit, where nothing else ends it. -/
def ensureTakeProfitOrder : Run F W Unit := do
  let some state ← exchange? | return ()
  let some position := state.position | return ()
  if state.takeProfitOrder.isSome ∨ state.stopLossExitOrder.isSome ∨
      state.stopLossPending.isSome then return ()
  placeTakeProfit client position.quantity position.averagePrice

/-- A stop loss is placed for the position and tracked. -/
def placeStopLossOrder (position : OpenPosition) : Run F W Unit := do
  let state ← exchange
  let size ← quantizeDecimalDown position.quantity (← state.instrument.lotSize)
  ensure ((← state.instrument.minSize) ≤ size) "OkxEmaAtrMakerTrend stop size is below OKX minSz"
  state.instrument.ensureTriggerSize size "OkxEmaAtrMakerTrend stop size"
  let triggerPrice ← quantizeDecimalDown position.stopLossTrigger (← state.instrument.tickSize)
  let clientOrderId ← newClientOrderId client .stopLoss
  let acknowledgement ← ask client
    (.placeTriggerOrder (← instrumentId) .sell size triggerPrice clientOrderId)
  exchangeMut fun state => { state with
    stopLossOrder := some
      { algoId := acknowledgement.algoId
        clientOrderId := clientOrderId
        size := size
        triggerPrice := triggerPrice
        cancelRequested := false } }

/-- The position has a stop loss, where nothing else ends it. -/
def ensureStopLossOrder : Run F W Unit := do
  let some state ← exchange? | return ()
  let some position := state.position | return ()
  if state.stopLossPending.isSome ∨ state.stopLossExitOrder.isSome then return ()
  match state.stopLossOrder with
  | some stopLossOrder => do
      if stopLossOrder.cancelRequested then return ()
      if ← (← runner).stopLossOrderMatchesPosition stopLossOrder position then return ()
      -- The tracked trigger is for another size or price; its replacement waits for the cancel.
      cancelStopLossOrder client
  | none => placeStopLossOrder client position

/-- `ensure_position_protection`. -/
def ensurePositionProtection : Run F W Unit := do
  ensureTakeProfitOrder client
  ensureStopLossOrder client

/-! ## The take-profit order -/

/-- The take profit follows the position. -/
def amendTakeProfitOrder : Run F W Unit := do
  let some state ← exchange? | return ()
  let some position := state.position | return ()
  let some takeProfitOrder := state.takeProfitOrder | return ()
  if takeProfitOrder.cancelRequested then return ()
  if 0 < takeProfitOrder.lastFillSize then
    cancelTakeProfitOrder client
  else
    let target ← (← runner).takeProfitOrderShape position.quantity position.averagePrice
    state.instrument.ensureLimitSize target.size "OkxEmaAtrMakerTrend take-profit size"
    let quoteNotional := target.size * target.price
    ensureLimitQuoteAmount client quoteNotional "OkxEmaAtrMakerTrend take-profit quote notional"
    ask client (.amendOrder (← instrumentId) .sell takeProfitOrder.clientOrderId
      (some target.size) (some target.price))

/-- The part of `refresh_take_profit_order` that accounts what the order newly filled. -/
def accountTakeProfitFill (trackedOrder : TrackedOrder) (fillSize fillDelta : Decimal)
    (accounting : OkxSpotFillAccounting) : Run F W Unit := do
  if 0 < fillDelta then
    let baseReduction ← exitAccountingDelta accounting trackedOrder
    let positionChanged ← applyPositionReducingFill trackedOrder.clientOrderId baseReduction
    updateTakeProfitTracking trackedOrder.clientOrderId fillSize accounting
    if positionChanged then
      cancelStopLossOrder client
      ensureStopLossOrder client

/-- What `refresh_take_profit_order` does with a live order. -/
def keepLiveTakeProfit (trackedOrder : TrackedOrder) (order : OkxOrder) (fillSize : Decimal)
    (accounting : OkxSpotFillAccounting) : Run F W Unit := do
  if trackedOrder.cancelRequested then
    updateTakeProfitTracking trackedOrder.clientOrderId fillSize accounting
  else
    match (← exchange).position with
    | none => cancelTakeProfitOrder client
    | some position => do
        if ← (← runner).takeProfitOrderMatchesPosition order position then
          updateTakeProfitTracking trackedOrder.clientOrderId fillSize accounting
        else amendTakeProfitOrder client

/-- What `refresh_take_profit_order` does with an order that is no longer live. -/
def settleTakeProfit (order : OkxOrder) (fillDelta : Decimal) : Run F W Unit := do
  (if order.isTerminal then
    exchangeMut fun state => { state with takeProfitOrder := none }
  else pure ())
  if (← exchange).position.isNone then
    cancelStopLossOrder client
    clearPositionState
  else if order.isTerminalWithoutFill ∨ 0 < fillDelta then
    ensureTakeProfitOrder client
    ensureStopLossOrder client

/-- The order is unknown to the exchange. -/
def resubmitMissingTakeProfit : Run F W Unit := do
  exchangeMut fun state => { state with takeProfitOrder := none }
  if (← exchange).position.isSome then
    ensureTakeProfitOrder client

/-- `refresh_take_profit_order`: its fills leave the position; an order that is over is dropped. -/
def refreshTakeProfitOrder : Run F W Unit := do
  let some trackedOrder := (← exchange?).bind (·.takeProfitOrder) | return ()
  match ← ask client (.order (← instrumentId) trackedOrder.clientOrderId) with
  | none => resubmitMissingTakeProfit client
  | some order => do
      let fillSize ← order.fillSize
      let fillDelta ← cumulativeFillDelta "OKX take-profit order" fillSize
        trackedOrder.lastFillSize
      let instrument := (← exchange).instrument
      let accounting ← order.cumulativeSpotAccounting instrument.baseCcy instrument.quoteCcy
      accountTakeProfitFill client trackedOrder fillSize fillDelta accounting
      if order.isLive then keepLiveTakeProfit client trackedOrder order fillSize accounting
      else settleTakeProfit client order fillDelta

/-! ## The entry order -/

/-- The position changed by an entry fill, with its protection. -/
def openPosition (hadPosition : Bool) (position : OpenPosition) : Run F W Unit := do
  exchangeMut fun state => { state with position := some position }
  ensureStopLossOrder client
  (if hadPosition then refreshTakeProfitOrder client else pure ())
  ensureTakeProfitOrder client

/-- The part of `refresh_entry_order` that accounts what the order newly filled. -/
def accountEntryFill (trackedOrder : TrackedOrder) (order : OkxOrder)
    (fillSize fillDelta : Decimal) (averageFillPrice : Option Decimal) : Run F W Unit := do
  if 0 < fillDelta then
    let state ← exchange
    let accounting ← order.cumulativeSpotAccounting state.instrument.baseCcy
      state.instrument.quoteCcy
    let (netFillDelta, effectiveFillPrice) ← entryAccountingDelta accounting trackedOrder
    let (hadPosition, position) ← (← runner).nextOpenPosition netFillDelta effectiveFillPrice
    note (.entryFill trackedOrder.clientOrderId netFillDelta)
    updateEntryTracking trackedOrder.clientOrderId fillSize averageFillPrice accounting
      trackedOrder.cancelRequested
    openPosition client hadPosition position

/-- What `refresh_entry_order` does with a live order. -/
def keepLiveEntry (clientOrderId : Text) (order : OkxOrder) (fillSize : Decimal) :
    Run F W Unit := do
  let entryExpired ← entryOrderIsExpired (← order.createdAtMs) (← unixTimeMs client)
    (← runner).maxEntryOrderAgeMs
  if 0 < fillSize ∨ (← runner).signal.entryAllowed = false ∨ entryExpired then
    cancelTrackedEntryOrder client clientOrderId

/-- What `refresh_entry_order` does with an order that is no longer live. -/
def settleEntry (order : OkxOrder) (fillSize : Decimal) : Run F W Unit := do
  if 0 < fillSize ∨ order.isTerminalWithoutFill ∨ order.isTerminal then
    exchangeMut fun state => { state with entryOrder := none }

/-- `refresh_entry_order`: its fills go into the position; an order that is over is dropped. -/
def refreshEntryOrder : Run F W Unit := do
  let some trackedOrder := (← exchange?).bind (·.entryOrder) | return ()
  let some order ← ask client (.order (← instrumentId) trackedOrder.clientOrderId) | return ()
  let fillSize ← order.fillSize
  let fillDelta ← cumulativeFillDelta "OKX entry order" fillSize trackedOrder.lastFillSize
  let averageFillPrice ← order.averageFillPrice
  accountEntryFill client trackedOrder order fillSize fillDelta averageFillPrice
  if order.isLive then keepLiveEntry client trackedOrder.clientOrderId order fillSize
  else settleEntry order fillSize

/-! ## The account balance -/

/-- The balance of the strategy, read now. -/
def reconstructStrategyBalance (balances : List OkxBalance) : Run F W StrategyBalance := do
  let state ← exchange
  let total ← totalOfCurrency state.instrument.baseCcy (balances.flatMap (·.details)) 0
  strategyBalanceAfterOperatorBaseline total (← runner).operatorOwnedBaseBalance
    (← state.instrument.lotSize) (← state.instrument.minSize)

/-- The position shrinks to what the balance still covers. -/
def reconcilePositionQuantityFromBalance : Run F W (Option OpenPosition) := do
  let some position := (← exchange).position | return none
  let balances ← ask client .balances
  let accountQuantity := (← reconstructStrategyBalance balances).tradeableQuantity
  let quantity := min accountQuantity position.quantity
  note (.balance quantity)
  if quantity ≤ 0 then
    clearPositionState
    return none
  else
    let position := { position with quantity := quantity }
    exchangeMut fun state => { state with position := some position }
    return some position

/-! ## The stop trigger -/

/-- The stop loss fired: the balance says what is left of the position. -/
def reconcileTriggeredStopLossOrder : Run F W Unit := do
  (match (← exchange?).bind (·.takeProfitOrder) with
  | some takeProfitOrder => do
      if ← cancelIfLive client takeProfitOrder.clientOrderId then
        markTakeProfitCancelRequested takeProfitOrder.clientOrderId
  | none => pure ())
  match ← reconcilePositionQuantityFromBalance client with
  | some _ =>
      exchangeMut fun state => { state with
        stopLossOrder := none, stopLossPending := some .exitReconciliation }
  | none => clearPositionState

/-- The tracked trigger is listed as open. -/
def keepOpenStopLoss (trackedOrder : TrackedAlgoOrder) (order : OkxAlgoOrder) :
    Run F W Unit := do
  let tracked ← trackedStopLossAlgo order trackedOrder.cancelRequested
  exchangeMut fun state => { state with stopLossOrder := some tracked }
  let state ← exchange
  let some position := state.position | return ()
  if state.stopLossPending = some .localThreshold ∧ state.stopLossExitOrder.isNone ∧
      state.takeProfitOrder.isNone then
    let last ← (← ask client (.ticker (← instrumentId))).lastDecimal
    if position.stopLossTrigger < last then
      exchangeMut fun state => { state with stopLossPending := none }
      ensureTakeProfitOrder client

/-- The tracked trigger is neither open nor effective. -/
def settleMissingStopLoss (position : OpenPosition) : Run F W Unit := do
  let stopLossPending := (← exchange).stopLossPending
  let last ← (← ask client (.ticker (← instrumentId))).lastDecimal
  if stopLossPending.isSome ∨ last ≤ position.stopLossTrigger then
    reconcileTriggeredStopLossOrder client
  else
    exchangeMut fun state => { state with stopLossOrder := none }

/-- The tracked trigger is not listed as open while a position is. -/
def settleClosedStopLoss (trackedOrder : TrackedAlgoOrder) (position : OpenPosition) :
    Run F W Unit := do
  let algoHistory ← ask client (.algoOrderHistory (← instrumentId))
  match algoHistory.find? fun order =>
      decide (order.algoId = trackedOrder.algoId) ||
        decide (order.clientOrderId = trackedOrder.clientOrderId) with
  | some historyOrder => do
      ensure (historyOrder.parsedSide = some .sell)
        "historical OKX stop-loss algo has unexpected side"
      if historyOrder.isEffective then
        let _last ← (← ask client (.ticker (← instrumentId))).lastDecimal
        reconcileTriggeredStopLossOrder client
      else
        (if historyOrder.isTerminalWithoutExecution then
          exchangeMut fun state => { state with stopLossOrder := none }
        else pure ())
        settleMissingStopLoss client position
  | none => settleMissingStopLoss client position

/-- `refresh_stop_loss_order`: it is live, over, or fired. -/
def refreshStopLossOrder : Run F W Unit := do
  let some trackedOrder := (← exchange?).bind (·.stopLossOrder) | return ()
  let openAlgoOrders ← ask client (.openAlgoOrders (← instrumentId))
  match openAlgoOrders.find? fun order => decide (order.algoId = trackedOrder.algoId) with
  | some order => keepOpenStopLoss client trackedOrder order
  | none =>
      match (← exchange).position with
      | some position => settleClosedStopLoss client trackedOrder position
      | none => exchangeMut fun state => { state with stopLossOrder := none }

/-! ## The market exit -/

/-- What `refresh_stop_loss_exit_order` does with an order that is no longer live. -/
def settleStopLossExit (order : OkxOrder) : Run F W Unit := do
  exchangeMut fun state => { state with stopLossExitOrder := none }
  if (← exchange).position.isNone then
    clearPositionState
  else if order.isTerminalWithoutFill ∨ order.isTerminal then
    exchangeMut fun state => { state with stopLossPending := some .exitReconciliation }

/-- What `refresh_stop_loss_exit_order` does with a report. -/
def accountStopLossExit (trackedOrder : TrackedOrder) (order : OkxOrder)
    (fillSize fillDelta : Decimal) (accounting : OkxSpotFillAccounting) : Run F W Unit := do
  (if 0 < fillDelta then do
    let baseReduction ← exitAccountingDelta accounting trackedOrder
    let _ ← applyPositionReducingFill trackedOrder.clientOrderId baseReduction
  else pure ())
  if order.isLive then
    updateStopLossExitTracking trackedOrder.clientOrderId fillSize accounting
  else settleStopLossExit order

/-- The market exit is unknown to the exchange. -/
def reconcileMissingStopLossExit : Run F W Unit := do
  exchangeMut fun state => { state with stopLossExitOrder := none }
  if (← reconcilePositionQuantityFromBalance client).isSome then
    exchangeMut fun state => { state with stopLossPending := some .exitReconciliation }

/-- `refresh_stop_loss_exit_order`: its fills leave the position. -/
def refreshStopLossExitOrder : Run F W Unit := do
  let some trackedOrder := (← exchange?).bind (·.stopLossExitOrder) | return ()
  match ← ask client (.order (← instrumentId) trackedOrder.clientOrderId) with
  | none => reconcileMissingStopLossExit client
  | some order => do
      let fillSize ← order.fillSize
      let fillDelta ← cumulativeFillDelta "OKX stop-loss market exit" fillSize
        trackedOrder.lastFillSize
      let instrument := (← exchange).instrument
      let accounting ← order.cumulativeSpotAccounting instrument.baseCcy instrument.quoteCcy
      accountStopLossExit trackedOrder order fillSize fillDelta accounting

/-! ## The local stop-loss -/

/-- The part of `evaluate_stop_loss` that drops a take-profit found closed: its new fill is
accounted only where no stop-loss was pending. -/
def dropClosedTakeProfit (stopLossPending : Option StopLossPendingReason)
    (trackedOrder : TrackedOrder) (order : OkxOrder) (fillDelta : Decimal) : Run F W Bool := do
  (if 0 < fillDelta ∧ stopLossPending.isNone then do
    let instrument := (← exchange).instrument
    let accounting ← order.cumulativeSpotAccounting instrument.baseCcy instrument.quoteCcy
    let baseReduction ← exitAccountingDelta accounting trackedOrder
    let _ ← applyPositionReducingFill trackedOrder.clientOrderId baseReduction
  else if 0 < fillDelta then note (.fillLeft trackedOrder.clientOrderId)
  else pure ())
  note (.released trackedOrder.clientOrderId)
  exchangeMut fun state => { state with takeProfitOrder := none }
  return (← exchange).position.isSome

/-- The take-profit before a market exit: whether `evaluate_stop_loss` goes on past it. -/
def releaseTakeProfit (stopLossPending : Option StopLossPendingReason) : Run F W Bool := do
  let some trackedOrder := (← exchange?).bind (·.takeProfitOrder) | return true
  match ← ask client (.order (← instrumentId) trackedOrder.clientOrderId) with
  | none => do
      (if ← cancelIfLive client trackedOrder.clientOrderId then
        markTakeProfitCancelRequested trackedOrder.clientOrderId
      else pure ())
      return false
  | some order => do
      if order.isLive then
        (if trackedOrder.cancelRequested = false then do
          ask client (.cancelOrder (← instrumentId) trackedOrder.clientOrderId)
          markTakeProfitCancelRequested trackedOrder.clientOrderId
        else pure ())
        return false
      else
        let fillSize ← order.fillSize
        let fillDelta ← cumulativeFillDelta "OKX take-profit order" fillSize
          trackedOrder.lastFillSize
        dropClosedTakeProfit stopLossPending trackedOrder order fillDelta

/-- The ask read with the threshold, or a fresh one. -/
def marketReference (marketReferencePrice : Option Decimal) : Run F W Decimal :=
  match marketReferencePrice with
  | some price => pure price
  | none => do (← ask client (.ticker (← instrumentId))).askDecimal

/-- A market order over the whole position, tracked. -/
def placeMarketExit (marketReferencePrice : Option Decimal) : Run F W Unit := do
  let some position := (← exchange).position | return ()
  let state ← exchange
  let size ← quantizeDecimalDown position.quantity (← state.instrument.lotSize)
  ensure ((← state.instrument.minSize) ≤ size) "OkxEmaAtrMakerTrend stop size is below OKX minSz"
  let marketReferencePrice ← marketReference client marketReferencePrice
  state.instrument.ensureSpotMarketSellSize size marketReferencePrice
    "OkxEmaAtrMakerTrend stop market size"
  let clientOrderId ← newClientOrderId client .stopLoss
  ask client (.placeOrder (← instrumentId) .sell .market size none clientOrderId)
  exchangeMut fun state => { state with
    stopLossPending := some .exitReconciliation
    stopLossExitOrder := some (.submitted clientOrderId) }

/-- The market exit of `evaluate_stop_loss`, once neither trigger nor exit is there. -/
def exitAtMarket (stopLossPending : Option StopLossPendingReason)
    (marketReferencePrice : Option Decimal) : Run F W Unit := do
  if (← exchange).stopLossOrder.isSome then return ()
  if (← exchange).stopLossExitOrder.isSome then return ()
  (if stopLossPending.isSome then do
    let reconciled ← reconcilePositionQuantityFromBalance client
    if reconciled.isNone then return ()
    placeMarketExit client marketReferencePrice
  else placeMarketExit client marketReferencePrice)

/-- The price the threshold is compared with, and the reference for the size of a market sell; a
pending stop-loss needs neither. -/
def stopLossReference (position : OpenPosition) (stopLossPending : Option StopLossPendingReason) :
    Run F W (Decimal × Option Decimal) := do
  if stopLossPending.isSome then return (position.stopLossTrigger, none)
  let ticker ← ask client (.ticker (← instrumentId))
  let last ← ticker.lastDecimal
  let marketReferencePrice ← ticker.askDecimal
  return (last, some marketReferencePrice)

/-- `evaluate_stop_loss`: the price crossed the trigger, or an exit is pending. -/
def evaluateStopLoss : Run F W Unit := do
  let some position := (← exchange?).bind (·.position) | return ()
  let stopLossPending := (← exchange?).bind (·.stopLossPending)
  let (last, marketReferencePrice) ← stopLossReference client position stopLossPending
  if stopLossPending.isNone ∧ position.stopLossTrigger < last then return ()
  (if stopLossPending.isNone then
    exchangeMut fun state => { state with stopLossPending := some .localThreshold }
  else pure ())
  if ← releaseTakeProfit client stopLossPending then
    exitAtMarket client stopLossPending marketReferencePrice

end OkxTrading
