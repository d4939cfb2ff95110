import OkxTrading.Strategy.Reconstruct

/-!
# Entry submission

`entry_submission.rs`: when a new post-only entry may be placed, how large, and its submission.
-/

namespace OkxTrading

open Effect

variable {F W : Type} [F64 F] (client : OkxClient F W)

namespace Runner

variable (self : Runner F)

def checkedEntryFeeCostRate : Result Decimal :=
  match self.entryFeeCostRate with
  | some entryFeeCostRate => .ok entryFeeCostRate
  | none => .error "OkxEmaAtrMakerTrend entry fee rate is not initialized"

/-- `entry_quantity`: what the quote amount buys with its fee, in whole lots. -/
def entryQuantity (price : Decimal) : Result Decimal := do
  ensure (0 < price) "OkxEmaAtrMakerTrend entry price must be positive"
  let entryFeeCostRate ← self.checkedEntryFeeCostRate
  ensure (0 ≤ entryFeeCostRate ∧ entryFeeCostRate < 1)
    "OkxEmaAtrMakerTrend entry fee cost rate must be non-negative and below one"
  let quantity := match self.maxQuoteNotional with
    | some maxQuoteNotional =>
        min self.quantity (maxQuoteNotional / (price * (1 + entryFeeCostRate)))
    | none => self.quantity
  ensure (0 < quantity) "OkxEmaAtrMakerTrend entry quantity must be positive"
  return quantity

/-- The order with its fee stays within the configured amount. -/
def ensureEntryNotionalWithinCap (size price : Decimal) : Result Unit := do
  let some maxQuoteNotional := self.maxQuoteNotional | return ()
  let entryFeeCostRate ← self.checkedEntryFeeCostRate
  let notional := size * price * (1 + entryFeeCostRate)
  ensure (notional ≤ maxQuoteNotional)
    "OkxEmaAtrMakerTrend entry notional exceeds max_quote_notional"

/-- The signal allows an entry and nothing is open. -/
def entryPreconditionsMet : Result Bool := do
  let state ← self.exchangeState
  return self.signal.entryAllowed && state.entryOrder.isNone && state.position.isNone &&
    state.takeProfitOrder.isNone && state.stopLossExitOrder.isNone &&
    state.stopLossPending.isNone

end Runner

/-- `evaluate_entry`: a post-only order the signal's offset below the bid, where nothing is open. -/
def evaluateEntry : Run F W Unit := do
  if ← (← runner).entryPreconditionsMet then
    let ticker ← ask client (.ticker (← instrumentId))
    let bid ← ticker.bidDecimal
    let some rawPrice ← (← runner).signal.entryPriceFromBid bid | return ()
    let state ← exchange
    let price ← quantizeDecimalDown rawPrice (← state.instrument.tickSize)
    let quantity ← (← runner).entryQuantity price
    let size ← quantizeDecimalDown quantity (← state.instrument.lotSize)
    ensure ((← state.instrument.minSize) ≤ size)
      "OkxEmaAtrMakerTrend entry size is below OKX minSz"
    let entryFeeCostRate ← (← runner).checkedEntryFeeCostRate
    let netProtectableSize ←
      quantizeDecimalDown (size * (1 - entryFeeCostRate)) (← state.instrument.lotSize)
    ensure ((← state.instrument.minSize) ≤ netProtectableSize)
      "OkxEmaAtrMakerTrend entry size after maker fee is below OKX minSz"
    state.instrument.ensureLimitSize size "OkxEmaAtrMakerTrend entry size"
    (← runner).ensureEntryNotionalWithinCap size price
    let quoteNotional := size * price
    ensureLimitQuoteAmount client quoteNotional "OkxEmaAtrMakerTrend entry quote notional"
    let clientOrderId ← newClientOrderId client .entry
    ask client (.placeOrder (← instrumentId) .buy .postOnly size (some price) clientOrderId)
    exchangeMut fun state => { state with entryOrder := some (.submitted clientOrderId) }

end OkxTrading
