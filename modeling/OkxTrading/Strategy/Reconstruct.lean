import OkxTrading.Strategy.Orders

/-!
# Reconstruction from the exchange

`reconstruct_exchange_state`: tracked orders from the open orders, the position from the balance
and the evidence of the strategy's own fills, and a check of live protection against it.

* `Runner.reconstructPositionFromEvidence` — inventory and cost basis, or what evidence is missing.
* `reconstructExchangeState` — the whole reconstruction; the state changes only where all of it
  succeeds (`Note.reconstructed`).
-/

namespace OkxTrading

open Effect OrderId

/-- What the evidence lacks. -/
inductive PositionEvidenceGap where
  | missingCostBasis
  | inventoryMismatch (strategyOwnedQuantity : Decimal)
  deriving DecidableEq, Repr

/-- What the evidence says of the position. -/
inductive PositionReconstruction where
  | noPosition
  | reconstructed (position : OpenPosition)
  | needsMoreEvidence (gap : PositionEvidenceGap)
  deriving DecidableEq, Repr

/-- Whether more evidence can be asked for. -/
inductive PositionEvidenceAttempt where
  | initial
  | final
  deriving DecidableEq, Repr

variable {F W : Type} [F64 F] (client : OkxClient F W)

namespace Runner

variable (self : Runner F)

/-- The position whose quantity balance and fills agree on. -/
def reconstructPositionFromEvidence (strategyBalance : StrategyBalance)
    (fillEvidence : List StrategyFillEvidence) (attempt : PositionEvidenceAttempt) :
    Result PositionReconstruction := do
  let strategyOwnedQuantity ← strategyNetFilledPosition fillEvidence
  let state ← self.exchangeState
  let lotSize ← state.instrument.lotSize
  let inventoryDistance :=
    if strategyOwnedQuantity ≤ strategyBalance.total then
      strategyBalance.total - strategyOwnedQuantity
    else strategyOwnedQuantity - strategyBalance.total
  if strategyBalance.tradeableQuantity ≤ 0 then
    if lotSize ≤ inventoryDistance then
      return .needsMoreEvidence (.inventoryMismatch strategyOwnedQuantity)
    else return .noPosition
  else
    match attempt, ← strategyEntryAveragePrice fillEvidence with
    | _, .noEntryFill => return .needsMoreEvidence .missingCostBasis
    | .initial, .missingPrice => return .needsMoreEvidence .missingCostBasis
    | .final, .missingPrice => .error "OKX entry fill is missing avgPx"
    | _, .reconstructed averagePrice =>
        if lotSize ≤ inventoryDistance then
          return .needsMoreEvidence (.inventoryMismatch strategyOwnedQuantity)
        else
          return .reconstructed
            { quantity := strategyBalance.tradeableQuantity
              averagePrice := averagePrice
              stopLossTrigger := ← self.stopLossTrigger averagePrice }

/-- Evidence that is still not enough is an error. -/
def finalizeReconstructedPosition (strategyBalance : StrategyBalance)
    (positionReconstruction : PositionReconstruction) : Result (Option OpenPosition) :=
  match positionReconstruction with
  | .noPosition => .ok none
  | .reconstructed position => .ok (some position)
  | .needsMoreEvidence .missingCostBasis =>
      .error ("cannot reconstruct OKX strategy position cost basis; " ++
        "refusing to manage reconstructed balance")
  | .needsMoreEvidence (.inventoryMismatch strategyOwnedQuantity) => do
      let _ ← self.exchangeState
      if strategyOwnedQuantity < strategyBalance.total then
        .error ("reconstructed OKX strategy balance exceeds strategy-tagged net filled " ++
          "quantity; refusing to manage possible non-strategy balance")
      else
        .error ("strategy-tagged net filled quantity exceeds reconstructed OKX strategy " ++
          "balance; refusing to hide missing strategy-owned inventory")

/-- Live exit orders that do not fit the position are an error. -/
def validateReconstructedLiveProtection (openOrders : List OkxOrder)
    (stopLossOrder : Option TrackedAlgoOrder) (position : Option OpenPosition)
    (strategyTag : Text) : Result Unit := do
  let some position := position | return ()
  let takeProfit := openOrders.find? fun order =>
    order.isLive && (decide (parseStrategyClientOrderId order.clientOrderId strategyTag =
      some .takeProfit) && decide (order.parsedSide = some .sell))
  match takeProfit with
  | some order => do
      ensure (← self.takeProfitOrderMatchesPosition order position)
        "live OKX take-profit order does not match reconstructed strategy position"
  | none => pure ()
  match stopLossOrder with
  | some stopLossOrder => do
      ensure (← self.stopLossOrderMatchesPosition stopLossOrder position)
        "live OKX stop-loss algo does not match reconstructed strategy position"
  | none => pure ()

end Runner

/-- The loop over the ids of the tracked orders. -/
def appendTargetedLoop (strategyTag : Text) :
    List Text → List OkxOrder → List Text → Run F W (List OkxOrder)
  | [], orderEvidence, _ => pure orderEvidence
  | clientOrderId :: rest, orderEvidence, seenClientOrderIds => do
      if clientOrderId ∈ seenClientOrderIds ∨
          (parseStrategyClientOrderId clientOrderId strategyTag).isNone then
        appendTargetedLoop strategyTag rest orderEvidence seenClientOrderIds
      else
        match ← ask client (.order (← instrumentId) clientOrderId) with
        | none => appendTargetedLoop strategyTag rest orderEvidence seenClientOrderIds
        | some order =>
            let (orderEvidence, seenClientOrderIds) :=
              appendStrategyOrderEvidence orderEvidence seenClientOrderIds order strategyTag
            appendTargetedLoop strategyTag rest orderEvidence seenClientOrderIds

/-- The orders that are tracked, where the evidence lacks them. -/
def appendTargetedStrategyOrderEvidence (orderEvidence : List OkxOrder) (strategyTag : Text) :
    Run F W (List OkxOrder) := do
  let some state ← exchange? | return orderEvidence
  let trackedOrderIds :=
    [state.entryOrder, state.takeProfitOrder, state.stopLossExitOrder].filterMap
    (·.map (·.clientOrderId))
  appendTargetedLoop client strategyTag trackedOrderIds orderEvidence
    (strategyOrderEvidenceIds orderEvidence)

/-- The whole history, where the orders were not enough. -/
def appendBroadHistoryFallbackEvidence (orderEvidence : List OkxOrder) (strategyTag : Text) :
    Run F W (List OkxOrder × List OkxFill) := do
  let orderHistory ← ask client (.orderHistory (← instrumentId))
  let orderEvidence := (appendAllStrategyOrderEvidence orderEvidence
    (strategyOrderEvidenceIds orderEvidence) orderHistory strategyTag).1
  let orderFills ← ask client (.orderFills (← instrumentId))
  return (orderEvidence, orderFills)

/-- The position evidence of `reconstruct_exchange_state`: first the open and tracked orders,
then, where these do not explain the balance, the whole history with its fills. -/
def reconstructPosition (openOrders : List OkxOrder) (strategyTag : Text)
    (strategyBalance : StrategyBalance) : Run F W (Option OpenPosition) := do
  let orderEvidence := strategyOrderEvidenceFromOrders openOrders strategyTag
  let lotSize ← (← exchange).instrument.lotSize
  let orderEvidence ← (if lotSize ≤ strategyBalance.total then
      appendTargetedStrategyOrderEvidence client orderEvidence strategyTag
    else pure orderEvidence)
  let fillEvidence ← strategyFillEvidence orderEvidence [] strategyTag (← exchange).instrument
  let positionReconstruction ←
    (← runner).reconstructPositionFromEvidence strategyBalance fillEvidence .initial
  match positionReconstruction with
  | .needsMoreEvidence _ => do
      let (orderEvidence, orderFills) ←
        appendBroadHistoryFallbackEvidence client orderEvidence strategyTag
      let fillEvidence ←
        strategyFillEvidence orderEvidence orderFills strategyTag (← exchange).instrument
      let positionReconstruction ←
        (← runner).reconstructPositionFromEvidence strategyBalance fillEvidence .final
      (← runner).finalizeReconstructedPosition strategyBalance positionReconstruction
  | found => (← runner).finalizeReconstructedPosition strategyBalance found

/-- What `reconstruct_exchange_state` finds live at the exchange. -/
structure LiveOrders where
  entryOrder : Option TrackedOrder
  takeProfitOrder : Option TrackedOrder
  stopLossExitOrder : Option TrackedOrder
  stopLossOrder : Option TrackedAlgoOrder

/-- The live orders of the strategy by their purposes. -/
def findLiveOrders (self : Runner F) (openOrders : List OkxOrder)
    (openAlgoOrders : List OkxAlgoOrder) : Result LiveOrders := do
  let strategyTag := strategyTag self.instanceId
  rejectLiveLegacyStrategyIds openOrders openAlgoOrders self.instanceId strategyTag
    self.configuredStrategyTags
  let instrument := (← self.exchangeState).instrument
  let entryOrder ← findLiveStrategyOrder openOrders strategyTag .entry .buy instrument
  let takeProfitOrder ← findLiveStrategyOrder openOrders strategyTag .takeProfit .sell instrument
  let stopLossExitOrder ← findLiveStrategyOrder openOrders strategyTag .stopLoss .sell instrument
  let stopLossOrder ← findLiveStrategyStopLossAlgo openAlgoOrders strategyTag
  rejectUnknownLiveStrategyOrders openOrders strategyTag
  rejectUnknownLiveStrategyAlgoOrders openAlgoOrders strategyTag
  return { entryOrder, takeProfitOrder, stopLossExitOrder, stopLossOrder }

/-- Exit orders without a position are refused. -/
def ensureNoOrphanedExits (live : LiveOrders) (position : Option OpenPosition) :
    Result Unit := do
  ensure (¬ (position.isNone ∧ live.takeProfitOrder.isSome))
    "live strategy take-profit order exists but no strategy-owned balance was reconstructed"
  ensure (¬ (position.isNone ∧ live.stopLossOrder.isSome))
    "live strategy stop-loss algo exists but no strategy-owned balance was reconstructed"
  ensure (¬ (position.isNone ∧ live.stopLossExitOrder.isSome))
    "live strategy stop-loss market exit exists but no strategy-owned balance was reconstructed"

/-- The state `reconstruct_exchange_state` installs. -/
def ExchangeState.reconstruct (self : ExchangeState) (live : LiveOrders)
    (position : Option OpenPosition) : ExchangeState :=
  { self with
    entryOrder := live.entryOrder
    takeProfitOrder := live.takeProfitOrder
    stopLossOrder := live.stopLossOrder
    stopLossExitOrder := live.stopLossExitOrder
    position := position
    stopLossPending := if live.stopLossExitOrder.isSome then some .exitReconciliation else none }

/-- `reconstruct_exchange_state`. -/
def reconstructExchangeState : Run F W Unit := do
  let openOrders ← ask client (.openOrders (← instrumentId))
  let openAlgoOrders ← ask client (.openAlgoOrders (← instrumentId))
  let strategyTag := strategyTag (← runner).instanceId
  let live ← findLiveOrders (← runner) openOrders openAlgoOrders
  let balances ← ask client .balances
  let strategyBalance ← reconstructStrategyBalance balances
  let position ← reconstructPosition client openOrders strategyTag strategyBalance
  ensureNoOrphanedExits live position
  (← runner).validateReconstructedLiveProtection openOrders live.stopLossOrder position
    strategyTag
  exchangeMut fun state => state.reconstruct live position
  note .reconstructed

end OkxTrading
