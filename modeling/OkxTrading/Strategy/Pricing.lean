import OkxTrading.Strategy.State

/-!
# Sizes, prices and triggers

The pure parts of the runner: protection prices from the current ATR, the shapes orders are
compared with, fee checks, and the accounting of one more report of a tracked order.

* `Runner.takeProfitOrderShape`, `Runner.stopLossTrigger` — where protection belongs.
* `Runner.stopLossOrderMatchesPosition` — the shape check of the tracked stop trigger.
* `entryAccountingDelta`, `exitAccountingDelta`, `cumulativeFillDelta` — what a report adds.
-/

namespace OkxTrading

open Effect

/-! ## Reports of tracked orders -/

/-- What an entry order added since it was booked last. -/
def entryAccountingDelta (accounting : OkxSpotFillAccounting) (trackedOrder : TrackedOrder) :
    Result (Decimal × Decimal) := do
  let baseDelta := accounting.baseChange - trackedOrder.lastAccountedBaseChange
  let quoteSpent := -accounting.quoteChange
  let previousQuoteSpent := -trackedOrder.lastAccountedQuoteChange
  let quoteSpentDelta := quoteSpent - previousQuoteSpent
  ensure (0 < baseDelta) "OKX entry net base fill delta must be positive"
  ensure (0 < quoteSpentDelta) "OKX entry quote cost delta must be positive"
  let deltaPrice := quoteSpentDelta / baseDelta
  ensure (0 < deltaPrice) "OKX fee-adjusted entry fill delta price must be positive"
  return (baseDelta, deltaPrice)

/-- What an exit order sold since it was booked last. -/
def exitAccountingDelta (accounting : OkxSpotFillAccounting) (trackedOrder : TrackedOrder) :
    Result Decimal := do
  let baseDelta := accounting.baseChange - trackedOrder.lastAccountedBaseChange
  ensure (baseDelta < 0) "OKX exit net base fill delta must be negative"
  let quoteDelta := accounting.quoteChange - trackedOrder.lastAccountedQuoteChange
  ensure (0 < quoteDelta) "OKX exit net quote proceeds delta must be positive"
  return -baseDelta

/-- The entry order has waited too long. -/
def entryOrderIsExpired (createdAtMs nowMs : Int) (maxAgeMs : Nat) : Result Bool := do
  ensure (0 < maxAgeMs) "OKX entry maximum age must be positive"
  ensure (createdAtMs ≤ nowMs)
    "OKX entry order cTime is later than local time; refusing stale-order decision"
  let ageMs := nowMs - createdAtMs
  ensure (maxAgeMs < 2 ^ 63) "OKX entry maximum age exceeds i64"
  return decide ((maxAgeMs : Int) ≤ ageMs)

/-- `cumulative_fill_delta`: a size that went back is an error. -/
def cumulativeFillDelta (context : Message) (fillSize lastFillSize : Decimal) :
    Result Decimal := do
  ensure (0 ≤ fillSize) (context ++ " cumulative fill size must be non-negative")
  ensure (0 ≤ lastFillSize) (context ++ " tracked fill size must be non-negative")
  ensure (lastFillSize ≤ fillSize)
    (context ++
      " cumulative fill size decreased; refusing to reconcile inconsistent OKX fill state")
  return fillSize - lastFillSize

def half (value : Decimal) : Decimal := value / 2

/-- The values are at most half a step apart. -/
def decimalWithinHalfStep (value expected step : Decimal) : Bool :=
  let distance := if expected ≤ value then value - expected else expected - value
  decide (distance ≤ half step)

/-! ## Protection -/

namespace Runner

variable {F : Type} [F64 F] (self : Runner F)

/-- The `f64` to decimal boundary for protection prices. -/
def signalAtrDecimal : Result Decimal := do
  let some atr := self.signal.lastAtr | .error "OkxEmaAtrMakerTrend ATR is not initialized"
  ensure (F64.isFinite atr && F64.lt (F64.ofNat 0) atr && F64.isNormal atr)
    "OkxEmaAtrMakerTrend ATR must be finite, positive, and normal before Decimal order math"
  let some atr := F64.toDecimal atr | .error "OKX ATR cannot be represented as Decimal"
  return atr

def checkedExitFeeCostRate : Result Decimal := do
  let some exitFeeCostRate := self.exitFeeCostRate
    | .error "OkxEmaAtrMakerTrend exit fee rate is not initialized"
  ensure (0 ≤ exitFeeCostRate ∧ exitFeeCostRate < 1)
    "OkxEmaAtrMakerTrend exit fee cost rate must be non-negative and below one"
  return exitFeeCostRate

/-- The price some multiple of the range above the average. -/
def takeProfitPrice (averagePrice : Decimal) : Result Decimal := do
  ensure (0 < averagePrice) "OkxEmaAtrMakerTrend average price must be positive"
  let atr ← self.signalAtrDecimal
  let atrPrice := averagePrice + self.takeProfitAtrMultiple * atr
  let exitFeeCostRate ← self.checkedExitFeeCostRate
  let feeBreakEvenPrice := averagePrice / (1 - exitFeeCostRate)
  let price := max atrPrice feeBreakEvenPrice
  ensure (0 < price) "OkxEmaAtrMakerTrend take-profit price must be positive"
  return price

/-- The price some multiple of the range below the average. -/
def stopLossTrigger (averagePrice : Decimal) : Result Decimal := do
  ensure (0 < averagePrice) "OkxEmaAtrMakerTrend average price must be positive"
  let atr ← self.signalAtrDecimal
  let trigger := averagePrice - self.stopLossAtrMultiple * atr
  ensure (0 < trigger) "OkxEmaAtrMakerTrend stop-loss trigger must be positive"
  return trigger

/-- A take profit earns at least what its exit costs. -/
def ensureTakeProfitClearsExitFee (averagePrice takeProfitPrice : Decimal) : Result Unit := do
  ensure (0 < averagePrice) "OkxEmaAtrMakerTrend average price must be positive"
  ensure (0 < takeProfitPrice) "OkxEmaAtrMakerTrend take-profit price must be positive"
  let exitFeeCostRate ← self.checkedExitFeeCostRate
  let netQuoteProceeds := takeProfitPrice * (1 - exitFeeCostRate)
  ensure (averagePrice ≤ netQuoteProceeds)
    "OkxEmaAtrMakerTrend take-profit price does not recover fee-adjusted average cost"

/-- Size and price of the take profit for a position. -/
def takeProfitOrderShape (quantity averagePrice : Decimal) : Result TakeProfitOrderShape := do
  let state ← self.exchangeState
  let price ← quantizeDecimalUp (← self.takeProfitPrice averagePrice) (← state.instrument.tickSize)
  self.ensureTakeProfitClearsExitFee averagePrice price
  return { size := ← quantizeDecimalDown quantity (← state.instrument.lotSize), price := price }

/-- The order found is the one that the position asks for. -/
def takeProfitOrderMatchesPosition (order : OkxOrder) (position : OpenPosition) :
    Result Bool := do
  let state ← self.exchangeState
  let lotSize ← state.instrument.lotSize
  let tickSize ← state.instrument.tickSize
  let expectedShape ← self.takeProfitOrderShape position.quantity position.averagePrice
  let requestedSize ← order.requestedSize
  if decimalWithinHalfStep requestedSize expectedShape.size lotSize = false then return false
  if order.price.isBlank then return false
  let requestedPrice ← parseDecimal "OKX take-profit order px" order.price
  self.ensureTakeProfitClearsExitFee position.averagePrice requestedPrice
  return decimalWithinHalfStep requestedPrice expectedShape.price tickSize

/-- The same for the stop loss. -/
def stopLossOrderMatchesPosition (stopLossOrder : TrackedAlgoOrder) (position : OpenPosition) :
    Result Bool := do
  let state ← self.exchangeState
  let lotSize ← state.instrument.lotSize
  let tickSize ← state.instrument.tickSize
  let expectedSize ← quantizeDecimalDown position.quantity lotSize
  let expectedTrigger ← quantizeDecimalDown position.stopLossTrigger tickSize
  return decimalWithinHalfStep stopLossOrder.size expectedSize lotSize &&
    decimalWithinHalfStep stopLossOrder.triggerPrice expectedTrigger tickSize

/-- The position after one more entry fill, and whether there was one before. -/
def nextOpenPosition (quantity averagePrice : Decimal) : Result (Bool × OpenPosition) := do
  let state ← self.exchangeState
  let position ← match state.position with
    | some position => do
        let newQuantity := position.quantity + quantity
        let averagePrice :=
          (position.averagePrice * position.quantity + averagePrice * quantity) / newQuantity
        pure { quantity := newQuantity, averagePrice := averagePrice,
               stopLossTrigger := ← self.stopLossTrigger averagePrice : OpenPosition }
    | none => do
        pure { quantity := quantity, averagePrice := averagePrice,
               stopLossTrigger := ← self.stopLossTrigger averagePrice : OpenPosition }
  return (state.position.isSome, position)

end Runner

theorem stopLossTrigger_eq_ok {F : Type} [F64 F] {self : Runner F}
    {averagePrice trigger : Decimal} :
    self.stopLossTrigger averagePrice = .ok trigger ↔
      0 < averagePrice ∧ ∃ atr, self.signalAtrDecimal = .ok atr ∧
        0 < averagePrice - self.stopLossAtrMultiple * atr ∧
        averagePrice - self.stopLossAtrMultiple * atr = trigger := by
  simp only [Runner.stopLossTrigger, bind_eq_ok, ensure_eq_ok, pure_eq_ok, exists_const]

end OkxTrading
