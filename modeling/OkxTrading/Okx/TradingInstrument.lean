import OkxTrading.Okx.Types

/-!
# Validated instruments

`okx/trading_instrument.rs`: the instrument context a strategy is started with, the comparison of
a fresh public row with it, and the USD order-amount limit.

* `ValidatedTradingInstrument.ensurePublicRefreshMatches` — a public refresh may not contradict
  the context the strategy was validated against.
* `ValidatedTradingInstrument.ensureLimitQuoteAmount` — the USD limit of a limit order.
-/

namespace OkxTrading

open Effect

/-- `is_okx_asset_code`. -/
def isOkxAssetCode (value : Text) : Bool :=
  decide (2 ≤ value.length ∧ value.length ≤ 12) && value.all fun ch => ch.isUpper || ch.isDigit

namespace OkxInstrument

variable (self : OkxInstrument)

/-- The fee group of an instrument. -/
def feeGroupId : Result Text := do
  validateFeeGroupId "OKX instrument groupId" self.groupId
  return self.groupId

/-- The loop of `trade_quote_currency_set`: the codes seen so far, in any order. -/
def tradeQuoteCurrencyLoop : List Text → List Text → Result (List Text)
  | [], currencies => .ok currencies
  | currency :: rest, currencies => do
      ensure (isOkxAssetCode currency)
        "OKX instrument tradeQuoteCcyList entry must use an uppercase OKX asset code"
      ensure (currency ∉ currencies)
        "OKX instrument tradeQuoteCcyList contains duplicate currency"
      tradeQuoteCurrencyLoop rest (currency :: currencies)

/-- The currencies an instrument may be traded in, each once. -/
def tradeQuoteCurrencySet : Result (List Text) := do
  ensure (self.tradeQuoteCurrencies ≠ []) "OKX instrument omitted tradeQuoteCcyList"
  tradeQuoteCurrencyLoop self.tradeQuoteCurrencies []

end OkxInstrument

/-- Equality of the sets two duplicate-free lists stand for. -/
def sameCurrencies (a b : List Text) : Prop := (∀ c ∈ a, c ∈ b) ∧ ∀ c ∈ b, c ∈ a

instance (a b : List Text) : Decidable (sameCurrencies a b) := by
  unfold sameCurrencies; infer_instance

/-- Where a USD rate comes from. -/
inductive ValidatedQuoteUsdSource where
  | identity
  | index (instId : Text)
  deriving DecidableEq, Repr

/-- A USD rate with its source. -/
structure ValidatedQuoteUsdRate where
  quoteCcy : Text
  source : ValidatedQuoteUsdSource
  usdPerQuote : Decimal
  deriving DecidableEq, Repr

/-- An instrument whose rows were found to agree. -/
structure ValidatedTradingInstrument where
  instrument : OkxInstrument
  quoteUsdSource : Option ValidatedQuoteUsdSource
  deriving DecidableEq, Repr

/-- Reads both rows in the order of the source: an unreadable public row is reported first. -/
def ensureSame {α : Type} [DecidableEq α] (read : OkxInstrument → Result α)
    (publicRow account : OkxInstrument) (message : Message) : Result Unit := do
  ensure ((← read publicRow) = (← read account)) message

/-- The public row and the account's row agree wherever both speak. -/
def validateOverlappingMetadata (publicRow account : OkxInstrument) : Result Unit := do
  let identity : Message := "OKX public/account instrument identity metadata disagrees"
  ensure (publicRow.instId = account.instId ∧ publicRow.instType = account.instType ∧
    publicRow.state = account.state ∧ publicRow.baseCcy = account.baseCcy ∧
    publicRow.quoteCcy = account.quoteCcy)
    identity
  ensureSame OkxInstrument.feeGroupId publicRow account identity
  ensure (sameCurrencies (← publicRow.tradeQuoteCurrencySet) (← account.tradeQuoteCurrencySet))
    "OKX public/account tradeQuoteCcyList metadata disagrees"
  let limits : Message := "OKX public/account precision or order-limit metadata disagrees"
  ensureSame OkxInstrument.tickSize publicRow account limits
  ensureSame OkxInstrument.lotSize publicRow account limits
  ensureSame OkxInstrument.minSize publicRow account limits
  ensureSame OkxInstrument.maxLimitSize publicRow account limits
  ensureSame OkxInstrument.maxLimitAmount publicRow account limits
  ensureSame OkxInstrument.maxMarketSizeUsdt publicRow account limits
  ensureSame OkxInstrument.maxMarketAmount publicRow account limits
  ensureSame OkxInstrument.maxTriggerSize publicRow account limits
  ensureSame OkxInstrument.priceLimitPercentages publicRow account
    "OKX public/account price-limit percentage metadata disagrees"
  ensureSame OkxInstrument.websocketInstIdCode publicRow account
    "OKX public/account instIdCode metadata disagrees"

namespace ValidatedTradingInstrument

variable (self : ValidatedTradingInstrument)

/-- An amount of the quote currency is within a limit in USD. -/
def ensureQuoteAmountWithinUsdLimit (quoteAmount : Decimal)
    (quoteUsdRate : ValidatedQuoteUsdRate) (maximumUsdAmount : Option Decimal)
    (okxField context : Message) : Result Unit := do
  let some maximumUsdAmount := maximumUsdAmount | return ()
  ensure (0 < quoteAmount) (context ++ " must be positive")
  let some expectedSource := self.quoteUsdSource
    | .error "validated trading instrument omitted required USD conversion source"
  ensure (quoteUsdRate.quoteCcy = self.instrument.quoteCcy ∧
    quoteUsdRate.source = expectedSource)
    "fresh USD conversion evidence contradicts validated quote currency"
  let usdAmount := quoteAmount * quoteUsdRate.usdPerQuote
  ensure (usdAmount ≤ maximumUsdAmount) (context ++ " USD amount exceeds OKX " ++ okxField)

/-- The same for the limit of limit orders. -/
def ensureLimitQuoteAmount (quoteAmount : Decimal) (quoteUsdRate : ValidatedQuoteUsdRate)
    (context : Message) : Result Unit := do
  self.ensureQuoteAmountWithinUsdLimit quoteAmount quoteUsdRate
    (← self.instrument.maxLimitAmount) "maxLmtAmt" context

/-- A later public row agrees with the validated one. -/
def ensurePublicRefreshMatches (current : OkxInstrument) : Result Unit := do
  current.ensureLive
  validateOverlappingMetadata self.instrument current

end ValidatedTradingInstrument

end OkxTrading
