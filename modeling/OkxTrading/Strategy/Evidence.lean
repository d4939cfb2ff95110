import OkxTrading.Strategy.Pricing

/-!
# Evidence of the strategy's fills

The order and fill evidence `reconstruct_exchange_state` collects, and `inventory.rs`: what of the
account's base currency is the strategy's.

* `strategyFillEvidence` — one entry per fill, or per order none of whose fills is listed.
* `strategyNetFilledPosition`, `strategyEntryAveragePrice` — inventory and cost basis of evidence.
* `strategyBalanceAfterOperatorBaseline` — account total less the operator's baseline.
-/

namespace OkxTrading

open Effect OrderId

/-! ## Live orders -/

/-- The one live order of a purpose; two of them are an error. -/
def findLiveStrategyOrder (openOrders : List OkxOrder) (strategyTag : Text)
    (purpose : OrderPurpose) (side : OrderSide) (instrument : OkxInstrument) :
    Result (Option TrackedOrder) := do
  let matchingOrders := openOrders.filter fun order =>
    order.isLive && (decide (parseStrategyClientOrderId order.clientOrderId strategyTag =
      some purpose) && decide (order.parsedSide = some side))
  match matchingOrders with
  | [] => return none
  | _ :: _ :: _ => .error "multiple live OKX strategy orders found"
  | [order] => do
      let accounting ← order.cumulativeSpotAccounting instrument.baseCcy instrument.quoteCcy
      return some
        { clientOrderId := order.clientOrderId
          lastFillSize := ← order.fillSize
          lastAverageFillPrice := ← order.averageFillPrice
          lastAccountedBaseChange := accounting.baseChange
          lastAccountedQuoteChange := accounting.quoteChange
          cancelRequested := false }

/-- A live trigger order as the stop loss, where it is one that this strategy places. -/
def trackedStopLossAlgo (order : OkxAlgoOrder) (cancelRequested : Bool) :
    Result TrackedAlgoOrder := do
  ensure (order.isLive)
    "live OKX stop-loss algo has unexpected state; expected explicit live or pause"
  ensure (order.parsedSide = some .sell) "live OKX stop-loss algo has unexpected side"
  ensure (order.isTriggerMarketOrder) "live OKX stop-loss algo has unexpected type and orderPx"
  return { algoId := order.algoId
           clientOrderId := order.clientOrderId
           size := ← order.requestedSize
           triggerPrice := ← order.triggerPrice
           cancelRequested := cancelRequested }

/-- The one live stop loss; two of them are an error. -/
def findLiveStrategyStopLossAlgo (openAlgoOrders : List OkxAlgoOrder) (strategyTag : Text) :
    Result (Option TrackedAlgoOrder) := do
  let matchingOrders := openAlgoOrders.filter fun order =>
    order.isLive && (decide (parseStrategyClientOrderId order.clientOrderId strategyTag =
      some .stopLoss) && decide (order.parsedSide = some .sell))
  match matchingOrders with
  | [] => return none
  | _ :: _ :: _ => .error "multiple live OKX strategy stop-loss algos found"
  | [order] => return some (← trackedStopLossAlgo order false)

/-! ## Orders that must not be there -/

/-- The id follows the old scheme, and no configured strategy's new one. -/
def liveLegacyStrategyId (clientOrderId strategyTag legacyStrategyTag : Text)
    (configuredStrategyTags : List Text) : Bool :=
  (parseStrategyClientOrderId clientOrderId strategyTag).isNone &&
    !(configuredStrategyTags.any fun tag =>
        (parseStrategyClientOrderId clientOrderId tag).isSome) &&
    (parseLegacyStrategyClientOrderId clientOrderId legacyStrategyTag).isSome

/-- Live orders under the old scheme are refused. -/
def rejectLiveLegacyStrategyIds (openOrders : List OkxOrder) (openAlgoOrders : List OkxAlgoOrder)
    (strategyId strategyTag : Text) (configuredStrategyTags : List Text) : Result Unit := do
  let legacyTag := legacyStrategyTag strategyId
  ensure (∀ order ∈ openOrders, order.isLive →
      liveLegacyStrategyId order.clientOrderId strategyTag legacyTag configuredStrategyTags = false)
    "live OKX legacy strategy order id"
  ensure (∀ order ∈ openAlgoOrders, order.isLive →
      liveLegacyStrategyId order.clientOrderId strategyTag legacyTag configuredStrategyTags = false)
    "live OKX legacy strategy algo id"

/-- The side an order of this purpose has. -/
def OrderPurpose.side : OrderPurpose → OrderSide
  | .entry => .buy
  | .takeProfit => .sell
  | .stopLoss => .sell

/-- The kind an order of this purpose has. -/
def OrderPurpose.kind : OrderPurpose → OrderKind
  | .entry => .postOnly
  | .takeProfit => .limit
  | .stopLoss => .market

/-- A live order with the tag has to follow the scheme. -/
def rejectUnknownLiveStrategyOrder (order : OkxOrder) (strategyTag : Text) : Result Unit := do
  if order.isLive = false then return ()
  if (orderIdPrefix ++ strategyTag).isPrefixOf order.clientOrderId = false then return ()
  let some purpose := parseStrategyClientOrderId order.clientOrderId strategyTag
    | .error "unknown live OKX strategy order id"
  ensure (order.parsedSide = some purpose.side) "live OKX strategy order has unexpected side"
  ensure (order.parsedKind = some purpose.kind) "live OKX strategy order has unexpected type"

/-- Every order is checked, up to the first that fails. -/
def rejectUnknownLiveStrategyOrders : List OkxOrder → Text → Result Unit
  | [], _ => .ok ()
  | order :: rest, strategyTag => do
      rejectUnknownLiveStrategyOrder order strategyTag
      rejectUnknownLiveStrategyOrders rest strategyTag

/-- A trigger order with the tag has to be a stop loss. -/
def rejectUnknownLiveStrategyAlgoOrder (order : OkxAlgoOrder) (strategyTag : Text) :
    Result Unit := do
  if (orderIdPrefix ++ strategyTag).isPrefixOf order.clientOrderId = false then return ()
  let some purpose := parseStrategyClientOrderId order.clientOrderId strategyTag
    | .error "unknown live OKX strategy algo id"
  ensure (order.isLive)
    "live OKX strategy algo has unexpected state; expected explicit live or pause"
  ensure (purpose = .stopLoss) "live OKX algo has unexpected strategy purpose"
  ensure (order.parsedSide = some .sell) "live OKX stop-loss algo has unexpected side"
  ensure (order.isTriggerMarketOrder) "live OKX stop-loss algo has unexpected type and orderPx"

/-- Every trigger order is checked, up to the first that fails. -/
def rejectUnknownLiveStrategyAlgoOrders : List OkxAlgoOrder → Text → Result Unit
  | [], _ => .ok ()
  | order :: rest, strategyTag => do
      rejectUnknownLiveStrategyAlgoOrder order strategyTag
      rejectUnknownLiveStrategyAlgoOrders rest strategyTag

/-! ## Order evidence -/

/-- Keep the first order of every id of the strategy; `seen` are the ids kept before. -/
def appendStrategyOrderEvidence (orders : List OkxOrder) (seenClientOrderIds : List Text)
    (order : OkxOrder) (strategyTag : Text) : List OkxOrder × List Text :=
  if (parseStrategyClientOrderId order.clientOrderId strategyTag).isNone then
    (orders, seenClientOrderIds)
  else if order.clientOrderId ∈ seenClientOrderIds then (orders, seenClientOrderIds)
  else (orders ++ [order], order.clientOrderId :: seenClientOrderIds)

def strategyOrderEvidenceIds (orders : List OkxOrder) : List Text := orders.map (·.clientOrderId)

/-- Several orders one after another. -/
def appendAllStrategyOrderEvidence (orders : List OkxOrder) (seenClientOrderIds : List Text)
    (more : List OkxOrder) (strategyTag : Text) : List OkxOrder × List Text :=
  more.foldl (fun acc order => appendStrategyOrderEvidence acc.1 acc.2 order strategyTag)
    (orders, seenClientOrderIds)

/-- The orders of the strategy, each once. -/
def strategyOrderEvidenceFromOrders (orders : List OkxOrder) (strategyTag : Text) :
    List OkxOrder :=
  (appendAllStrategyOrderEvidence [] [] orders strategyTag).1

/-! ## Fill evidence -/

/-- What one fill or one filled order tells. -/
structure StrategyFillEvidence where
  purpose : OrderPurpose
  side : OrderSide
  accounting : Option OkxSpotFillAccounting
  deriving DecidableEq, Repr

/-- A fill has to be on the side of its purpose. -/
def ensureExpectedFillSide (purpose : OrderPurpose) (side : OrderSide) : Result Unit :=
  ensure (side = purpose.side) "strategy-tagged OKX order has unexpected side for purpose"

/-- The first loop of `strategy_fill_evidence`: the evidence of fills, the identities seen, and
the orders that have fills. -/
def fillEvidenceOfFills (strategyTag : Text) (instrument : OkxInstrument) :
    List OkxFill → List StrategyFillEvidence → List Text → List Text →
    Result (List StrategyFillEvidence × List Text)
  | [], evidence, _, fillClientOrderIds => .ok (evidence, fillClientOrderIds)
  | fill :: rest, evidence, seenFillIds, fillClientOrderIds =>
      match parseStrategyClientOrderId fill.clientOrderId strategyTag with
      | none =>
          fillEvidenceOfFills strategyTag instrument rest evidence seenFillIds fillClientOrderIds
      | some purpose => do
          let fillId := fill.dedupeKey
          ensure (fillId ≠ []) "strategy-tagged OKX fill has no stable identity"
          if fillId ∈ seenFillIds then
            fillEvidenceOfFills strategyTag instrument rest evidence seenFillIds
              fillClientOrderIds
          else
            let some side := fill.parsedSide
              | .error "strategy-tagged OKX fill has unexpected side"
            ensureExpectedFillSide purpose side
            let accounting ← fill.spotAccounting instrument.baseCcy instrument.quoteCcy
            fillEvidenceOfFills strategyTag instrument rest
              (evidence ++ [⟨purpose, side, some accounting⟩]) (fillId :: seenFillIds)
              (fill.clientOrderId :: fillClientOrderIds)

/-- The second loop: orders none of whose fills is listed. -/
def fillEvidenceOfOrders (strategyTag : Text) (instrument : OkxInstrument)
    (fillClientOrderIds : List Text) :
    List OkxOrder → List StrategyFillEvidence → Result (List StrategyFillEvidence)
  | [], evidence => .ok evidence
  | order :: rest, evidence =>
      match parseStrategyClientOrderId order.clientOrderId strategyTag with
      | none => fillEvidenceOfOrders strategyTag instrument fillClientOrderIds rest evidence
      | some purpose =>
          if order.clientOrderId ∈ fillClientOrderIds then
            fillEvidenceOfOrders strategyTag instrument fillClientOrderIds rest evidence
          else do
            let fillSize ← order.fillSize
            if fillSize ≤ 0 then
              fillEvidenceOfOrders strategyTag instrument fillClientOrderIds rest evidence
            else
              let some side := order.parsedSide
                | .error "strategy-tagged OKX order has unexpected side"
              ensureExpectedFillSide purpose side
              let accounting ← if (← order.averageFillPrice).isSome then
                  some <$> order.cumulativeSpotAccounting instrument.baseCcy instrument.quoteCcy
                else pure none
              fillEvidenceOfOrders strategyTag instrument fillClientOrderIds rest
                (evidence ++ [⟨purpose, side, accounting⟩])

/-- `strategy_fill_evidence`: fills first, then the orders no fill was seen of. -/
def strategyFillEvidence (orders : List OkxOrder) (fills : List OkxFill) (strategyTag : Text)
    (instrument : OkxInstrument) : Result (List StrategyFillEvidence) := do
  let (evidence, fillClientOrderIds) ← fillEvidenceOfFills strategyTag instrument fills [] [] []
  fillEvidenceOfOrders strategyTag instrument fillClientOrderIds orders evidence

/-! ## Inventory and cost basis of evidence -/

/-- What the evidence tells of the average entry price. -/
inductive EntryAveragePriceStatus where
  | noEntryFill
  | missingPrice
  | reconstructed (averagePrice : Decimal)
  deriving DecidableEq, Repr

/-- The loop of `strategy_entry_average_price`: base and quote of the entry fills, `none` where
one of them has no accounting. -/
def entryTotals : List StrategyFillEvidence → Option (Decimal × Decimal)
  | [] => some (0, 0)
  | fill :: rest =>
      if fill.purpose = .entry ∧ fill.side = .buy then
        match fill.accounting, entryTotals rest with
        | some accounting, some (quantity, quoteCost) =>
            some (accounting.baseChange + quantity, quoteCost - accounting.quoteChange)
        | _, _ => none
      else entryTotals rest

/-- `strategy_entry_average_price`, in exact arithmetic. -/
def strategyEntryAveragePrice (evidence : List StrategyFillEvidence) :
    Result EntryAveragePriceStatus := do
  let some (quantity, quoteCost) := entryTotals evidence | return .missingPrice
  if quantity ≤ 0 then return .noEntryFill
  ensure (0 < quoteCost) "OKX strategy entry quote cost must be positive"
  let averagePrice := quoteCost / quantity
  ensure (0 < averagePrice) "OKX strategy entry average price must be positive"
  return .reconstructed averagePrice

/-- The loop of `strategy_net_filled_position`. -/
def netFilledLoop : List StrategyFillEvidence → Decimal → Result Decimal
  | [], quantity => .ok quantity
  | fill :: rest, quantity =>
      match fill.accounting with
      | none => .error "strategy-tagged OKX fill is missing fee-adjusted accounting"
      | some accounting =>
          if fill.side = fill.purpose.side then
            netFilledLoop rest (quantity + accounting.baseChange)
          else .error "strategy-tagged OKX fill has unexpected side for purpose"

/-- `strategy_net_filled_position`, in exact arithmetic; never below zero. -/
def strategyNetFilledPosition (evidence : List StrategyFillEvidence) : Result Decimal := do
  return max (← netFilledLoop evidence 0) 0

/-! ## The strategy's share of the account -/

/-- The balance that belongs to the strategy. -/
structure StrategyBalance where
  total : Decimal
  tradeableQuantity : Decimal
  deriving DecidableEq, Repr

/-- What is left of the balance without the operator's own. -/
def strategyBalanceAfterOperatorBaseline
    (accountTotal operatorOwnedBaseBalance lotSize minSize : Decimal) : Result StrategyBalance := do
  ensure (0 ≤ operatorOwnedBaseBalance) "configured operator-owned balance must be non-negative"
  ensure (operatorOwnedBaseBalance ≤ accountTotal)
    ("OKX cash balance is below configured operator-owned base balance; " ++
      "refusing to consume operator-owned inventory")
  let total := accountTotal - operatorOwnedBaseBalance
  if total ≤ 0 ∨ total < minSize then
    return { total := total, tradeableQuantity := 0 }
  return { total := total, tradeableQuantity := ← quantizeDecimalDown total lotSize }

/-- The cash balances of one currency, added up. -/
def totalOfCurrency (currency : Text) : List OkxBalanceDetail → Decimal → Result Decimal
  | [], total => .ok total
  | detail :: rest, total =>
      if detail.ccy = currency then do
        totalOfCurrency currency rest (total + (← detail.total))
      else totalOfCurrency currency rest total

end OkxTrading
