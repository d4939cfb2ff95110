import OkxTrading.Okx.Pagination
import OkxTrading.Okx.RateLimit
import OkxTrading.Okx.TradingInstrument

/-!
# Evidence for a trading instrument

The checks `okx/trading_instrument.rs` and `okx/capability.rs` make of what the exchange answers
before orders for an instrument are admitted, with the payloads they read.

* `ValidatedTradingContext.fromExchangeEvidence` — the instrument, its account and its balances.
* `ValidatedCapabilityGeneration.cashSpot` — the generation the evidence admits.
* `ValidatedSpotPriceLimit` — the exchange's limits on the price of an order.
-/

namespace OkxTrading

open Effect

/-! ## What was requested -/

/-- The instrument types a configuration may ask for. -/
inductive RequestedInstrumentType where
  | spot
  | margin
  | swap
  | futures
  | option
  | events
  deriving DecidableEq, Repr

def RequestedInstrumentType.asOkx : RequestedInstrumentType → Text
  | .spot => spotText
  | .margin => "MARGIN".toList
  | .swap => "SWAP".toList
  | .futures => "FUTURES".toList
  | .option => "OPTION".toList
  | .events => "EVENTS".toList

/-- The trade modes a configuration may ask for. -/
inductive RequestedTradeMode where
  | cash
  | cross
  | isolated
  | spotIsolated
  deriving DecidableEq, Repr

def RequestedTradeMode.asOkx : RequestedTradeMode → Text
  | .cash => "cash".toList
  | .cross => "cross".toList
  | .isolated => "isolated".toList
  | .spotIsolated => "spot_isolated".toList

/-- What a strategy wants to trade, as configured. -/
structure RequestedTradingInstrument where
  instrument : Text
  instType : RequestedInstrumentType
  tdMode : RequestedTradeMode
  deriving DecidableEq, Repr

/-- `validate_okx_spot_symbol`. -/
def validateOkxSpotSymbol (context : Message) (value : Text) : Result Unit := do
  ensure (Text.isBlank value = false) (context ++ " must not contain empty symbols")
  ensure (Text.isTrimmed value)
    (context ++ " symbol must not contain leading or trailing whitespace")
  match value.splitOn '-' with
  | [base, quote] =>
      ensure (isOkxAssetCode base ∧ isOkxAssetCode quote)
        (context ++ " symbol must use uppercase OKX spot format BASE-QUOTE")
  | [_] => .error (context ++ " symbol must use uppercase OKX spot format BASE-QUOTE")
  | _ => .error (context ++ " symbol must use OKX spot format BASE-QUOTE")

/-- `validate_requested_trading_instrument`: only cash trading of spot pairs is supported. -/
def validateRequestedTradingInstrument (requested : RequestedTradingInstrument) : Result Unit := do
  let instrument := requested.instrument
  ensure (instrument ≠ []) "strategy instrument must not be empty"
  ensure (Text.isTrimmed instrument)
    "strategy instrument must not contain leading or trailing whitespace"
  ensure ((instrument.map Char.utf8Size).sum ≤ 64)
    "strategy instrument must not exceed the documented 64-byte identifier boundary"
  ensure (instrument.all fun ch => decide (32 ≤ ch.toNat ∧ ch.toNat < 127))
    "strategy instrument must contain canonical printable ASCII only"
  validateOkxSpotSymbol "strategy instrument" instrument
  match requested.instType, requested.tdMode with
  | .spot, .cash => .ok ()
  | .spot, .cross =>
      .error "OKX SPOT + cross is roadmap-only for acctLv 3 and is not admitted by this runtime"
  | .spot, _ => .error "OKX SPOT trade mode is unsupported; only tdMode cash is admitted"
  | _, _ => .error "OKX instrument tuple is unsupported; only SPOT + cash is admitted"

/-- A request that was checked. -/
structure RequestedCapability where
  tradingInstrument : RequestedTradingInstrument
  deriving DecidableEq, Repr

def RequestedCapability.fromTradingInstrument (requested : RequestedTradingInstrument) :
    Result RequestedCapability := do
  validateRequestedTradingInstrument requested
  return ⟨requested⟩

/-! ## The account -/

/-- The account levels OKX documents. -/
inductive AccountLevelDiagnostic where
  | one
  | two
  | three
  | four
  deriving DecidableEq, Repr

def AccountLevelDiagnostic.parse (value : Text) : Result AccountLevelDiagnostic :=
  if value = ['1'] then .ok .one
  else if value = ['2'] then .ok .two
  else if value = ['3'] then .ok .three
  else if value = ['4'] then .ok .four
  else .error "OKX account configuration acctLv is missing, malformed, or undocumented"

/-- A row of the account configuration. -/
structure OkxAccountConfig where
  accountLevel : Text
  perm : Text
  autoLoan : Bool
  enableSpotBorrow : Bool
  spotBorrowAutoRepay : Bool
  feeType : Text
  deriving DecidableEq, Repr

/-- An account level and when it was observed. -/
structure AccountLevelDiagnosticSnapshot where
  value : AccountLevelDiagnostic
  observedAt : Instant
  deriving DecidableEq, Repr

namespace AccountLevelDiagnosticSnapshot

/-- The level of an account configuration, observed now. -/
def observe (account : OkxAccountConfig) (now : Instant) :
    Result AccountLevelDiagnosticSnapshot := do
  return ⟨← AccountLevelDiagnostic.parse account.accountLevel, now⟩

/-- A level observed too long ago cannot support a validation. -/
def ensureFresh (self : AccountLevelDiagnosticSnapshot) (now maximumAge : ℕ) : Result Unit :=
  ensure (now - self.observedAt ≤ maximumAge)
    "OKX account-level diagnostic snapshot became stale before capability validation completed"

end AccountLevelDiagnosticSnapshot

/-- `str::trim`. -/
def Text.trim (text : Text) : Text :=
  ((text.dropWhile isWhitespace).reverse.dropWhile isWhitespace).reverse

namespace OkxAccountConfig

variable (self : OkxAccountConfig)

/-- The permissions of the key include trading. -/
def hasTradePermission : Bool :=
  (self.perm.splitOn ',').any fun permission =>
    decide ((Text.trim permission).map Char.toLower = "trade".toList)

/-- The fee types that the accounting supports. -/
def spotFeeType : Result Unit :=
  ensure (self.feeType = ['0'] ∨ self.feeType = ['1'])
    "OKX account feeType is unsupported; expected 0 (received currency) or 1 (quote currency)"

/-- The account may trade spot at all. -/
def ensureSpotTradingEnabled : Result Unit := do
  let _ ← AccountLevelDiagnostic.parse self.accountLevel
  ensure self.hasTradePermission "OKX API key permissions do not include trade"
  ensure (self.autoLoan = false ∧ self.enableSpotBorrow = false ∧ self.spotBorrowAutoRepay = false)
    "OKX account borrow/auto-loan settings are enabled; this runtime requires cash trading"
  self.spotFeeType

end OkxAccountConfig

/-! ## Sizing, balances and fees -/

/-- A row of the maximum order sizes. -/
structure OkxMaximumOrderSize where
  instId : Text
  ccy : Text
  maxBuy : DecimalText
  maxSell : DecimalText
  deriving DecidableEq, Repr

namespace OkxMaximumOrderSize

variable (self : OkxMaximumOrderSize)

/-- The margin currency is blank or the base currency. -/
def ensureCashSpotMarginCurrency (expectedBaseCcy : Text) : Result Unit :=
  ensure (self.ccy = [] ∨ self.ccy = expectedBaseCcy)
    "OKX cash-SPOT max-size margin currency must be empty or match validated base currency"

def maxBuyBase : Result Decimal :=
  parseNonNegativeDecimal "OKX maximum order size maxBuy" self.maxBuy

def maxSellQuote : Result Decimal :=
  parseNonNegativeDecimal "OKX maximum order size maxSell" self.maxSell

end OkxMaximumOrderSize

/-- A row of the maximum tradable amounts. -/
structure OkxMaximumAvailableSize where
  instId : Text
  availableBuy : DecimalText
  availableSell : DecimalText
  deriving DecidableEq, Repr

namespace OkxMaximumAvailableSize

variable (self : OkxMaximumAvailableSize)

def availableBuyQuote : Result Decimal :=
  parseNonNegativeDecimal "OKX maximum available tradable amount availBuy" self.availableBuy

def availableSellBase : Result Decimal :=
  parseNonNegativeDecimal "OKX maximum available tradable amount availSell" self.availableSell

end OkxMaximumAvailableSize

/-- A balance as the endpoint returns it: with the fields only the evidence looks at. -/
structure OkxBalanceDetailRow extends OkxBalanceDetail where
  availableBalance : DecimalText
  frozenBalance : DecimalText
  deriving DecidableEq, Repr

namespace OkxBalanceDetailRow

variable (self : OkxBalanceDetailRow)

def available : Result Decimal :=
  parseNonNegativeDecimal "OKX balance availBal" self.availableBalance

def frozen : Result Decimal := do
  ensure (self.frozenBalance.isBlank = false) "OKX balance frozenBal must be provided"
  parseNonNegativeDecimal "OKX balance frozenBal" self.frozenBalance

/-- Every amount of the row can be read. -/
def validate : Result Unit := do
  ensure (Text.isBlank self.ccy = false) "OKX balance ccy must be provided"
  let _ ← self.available
  let _ ← self.total
  let _ ← self.frozen

end OkxBalanceDetailRow

/-- A row of the balances. -/
structure OkxBalanceRow where
  details : List OkxBalanceDetailRow
  deriving DecidableEq, Repr

def OkxBalanceRow.validate (self : OkxBalanceRow) : Result Unit :=
  self.details.forM OkxBalanceDetailRow.validate

/-- What is available of a currency; none where it is not listed, an error where it is twice. -/
def availableBalance (balances : List OkxBalanceRow) (currency : Text) : Result Decimal :=
  match (balances.flatMap (·.details)).filter fun detail => decide (detail.ccy = currency) with
  | [] => .ok 0
  | detail :: rest => do
      let value ← detail.available
      ensure (rest = []) "OKX account balance returned duplicate rows"
      return value

/-- The rates of a fee group. -/
structure OkxTradeFeeGroup where
  groupId : Text
  maker : DecimalText
  taker : DecimalText
  deriving DecidableEq, Repr

/-- A row of the fee rates. -/
structure OkxTradeFeeResponse where
  instType : Text
  feeGroups : List OkxTradeFeeGroup
  deriving DecidableEq, Repr

/-- The rate of the group expected, which has to be there once. -/
def OkxTradeFeeResponse.intoSpotGroupRate (self : OkxTradeFeeResponse) (expectedGroupId : Text) :
    Result OkxTradeFeeRate := do
  ensure (self.instType = spotText) "OKX fee-rate response returned instType; expected SPOT"
  validateFeeGroupId "validated OKX instrument groupId" expectedGroupId
  match self.feeGroups.filter fun group => decide (group.groupId = expectedGroupId) with
  | [group] => do
      let rate : OkxTradeFeeRate :=
        { instType := self.instType, groupId := group.groupId, maker := group.maker,
          taker := group.taker }
      let _ ← rate.normalizedMakerCostRate
      let _ ← rate.normalizedTakerCostRate
      return rate
  | _ => .error "OKX returned feeGroup rows not matching groupId exactly once"

/-! ## Prices -/

/-- `ensure_fresh_rest_timestamp` up to its age check, which is the one failure callers retry. -/
def restTimestampAge (context : Message) (generatedAtMs serverNowMs : ℤ) : Result ℤ := do
  ensure (0 < serverNowMs) "synchronized OKX server time must be positive"
  ensure (0 < generatedAtMs) (context ++ " must be positive")
  ensure (generatedAtMs ≤ serverNowMs) (context ++ " is in the future")
  return serverNowMs - generatedAtMs

/-- A row of the index tickers. -/
structure OkxIndexTicker where
  instId : Text
  indexPrice : DecimalText
  timestampMs : Option ℤ
  deriving DecidableEq, Repr

namespace OkxIndexTicker

variable (self : OkxIndexTicker)

def price : Result Decimal := parsePositiveDecimal "OKX index ticker idxPx" self.indexPrice

/-- The time of an index ticker. -/
def timestamp : Result ℤ := do
  let some timestampMs := self.timestampMs | .error "OKX index ticker ts must be Unix milliseconds"
  ensure (0 < timestampMs) "OKX index ticker ts must be positive Unix milliseconds"
  return timestampMs

end OkxIndexTicker

namespace ValidatedQuoteUsdRate

/-- USD in USD. -/
def identity (quoteCcy : Text) : Result ValidatedQuoteUsdRate := do
  ensure (quoteCcy = usdText) "USD identity conversion requires exact quote currency USD"
  return ⟨quoteCcy, .identity, 1⟩

/-- The index that prices a currency in USD. -/
def indexInstId (quoteCcy : Text) : Text := quoteCcy ++ '-' :: usdText

/-- `from_index_ticker`, with the source timestamp of the rate. -/
def fromIndexTicker (quoteCcy : Text) (ticker : OkxIndexTicker) :
    Result (ValidatedQuoteUsdRate × ℤ) := do
  ensure (quoteCcy ≠ usdText) "USD quote currency must use identity conversion"
  ensure (ticker.instId = indexInstId quoteCcy)
    "OKX index ticker returned another instrument for validated quote currency"
  return (⟨quoteCcy, .index (indexInstId quoteCcy), ← ticker.price⟩, ← ticker.timestamp)

end ValidatedQuoteUsdRate

/-- A row of the price limits. -/
structure OkxPriceLimit where
  instType : Text
  instId : Text
  buyLimit : DecimalText
  sellLimit : DecimalText
  timestampMs : Option ℤ
  enabled : Bool
  deriving DecidableEq, Repr

/-- The limits in force for an instrument. -/
structure ValidatedSpotPriceLimit where
  instId : Text
  buyLimit : Option Decimal
  sellLimit : Option Decimal
  sourceTimestampMs : ℤ
  deriving DecidableEq, Repr

/-- A limit that is enabled has to be a positive decimal. -/
def parsePositivePriceLimit (field : Message) (value : DecimalText) : Result Decimal := do
  ensure (value.isBlank = false)
    ("OKX price-limit " ++ field ++ " must be non-empty and trimmed when enabled")
  match value with
  | .value d => do
      ensure (0 < d) ("OKX price-limit " ++ field ++ " must be positive")
      return d
  | _ => .error ("OKX price-limit " ++ field ++ " must be a decimal value")

namespace ValidatedSpotPriceLimit

/-- `from_response`: the row of the instrument, recent, with both limits where they are enabled. -/
def fromResponse (expectedInstId : Text) (row : OkxPriceLimit) (serverNowMs : ℤ)
    (maxStaleness : ℕ) : Result ValidatedSpotPriceLimit := do
  ensure (row.instType = spotText ∨ row.instType = "MARGIN".toList)
    "OKX price-limit response returned unsupported instType"
  ensure (row.instId = expectedInstId) "OKX price-limit response returned another instrument"
  ensure (0 < serverNowMs) "synchronized OKX server time must be positive"
  let some sourceTimestampMs := row.timestampMs
    | .error "OKX price-limit ts must be Unix milliseconds"
  ensure (0 < sourceTimestampMs) "OKX price-limit ts must be positive"
  ensure (sourceTimestampMs ≤ serverNowMs) "OKX price-limit ts is in the future"
  ensure (serverNowMs - sourceTimestampMs ≤ maxStaleness) "OKX price-limit ts is stale"
  if row.enabled then
    let buyLimit ← parsePositivePriceLimit "buyLmt" row.buyLimit
    let sellLimit ← parsePositivePriceLimit "sellLmt" row.sellLimit
    return ⟨row.instId, some buyLimit, some sellLimit, sourceTimestampMs⟩
  else
    ensure (row.buyLimit = .empty ∧ row.sellLimit = .empty)
      "disabled OKX price-limit evidence must return empty buyLmt and sellLmt"
    return ⟨row.instId, none, none, sourceTimestampMs⟩

/-- A price within the limits, on the side that is limited. -/
def ensurePrice (self : ValidatedSpotPriceLimit) (side : OrderSide) (price : Decimal)
    (context : Message) : Result Unit := do
  ensure (0 < price) (context ++ " price must be positive")
  match side with
  | .buy =>
      ensure (∀ limit ∈ self.buyLimit, price ≤ limit)
        (context ++ " buy price exceeds fresh OKX buyLmt")
  | .sell =>
      ensure (∀ limit ∈ self.sellLimit, limit ≤ price)
        (context ++ " sell price is below fresh OKX sellLmt")

end ValidatedSpotPriceLimit

/-! ## The instrument -/

namespace OkxInstrument

variable (self : OkxInstrument)

/-- Every limit of an instrument can be read. -/
def validateOrderLimits : Result Unit := do
  let _ ← self.maxLimitSize
  let _ ← self.maxLimitAmount
  let _ ← self.maxMarketSizeUsdt
  let _ ← self.maxMarketAmount
  let _ ← self.maxTriggerSize
  let _ ← self.priceLimitPercentages

/-- The currency is one the instrument is traded in. -/
def ensureTradeQuoteCurrency (quote : Text) : Result Unit := do
  let currencies ← self.tradeQuoteCurrencySet
  ensure (quote ∈ currencies) "OKX instrument tradeQuoteCcyList does not include the currency"

/-- Some limit of the instrument is in USD. -/
def hasUsdOrderAmountLimit : Result Bool := do
  return (← self.maxLimitAmount).isSome || (← self.maxMarketAmount).isSome

end OkxInstrument

/-- The instrument types that pass validation. -/
inductive ValidatedInstrumentType where
  | spot
  deriving DecidableEq, Repr

def ValidatedInstrumentType.asOkx : ValidatedInstrumentType → Text
  | .spot => spotText

/-- The trade modes that pass validation. -/
inductive ValidatedTradeMode where
  | cash
  deriving DecidableEq, Repr

def ValidatedTradeMode.asOkx : ValidatedTradeMode → Text
  | .cash => "cash".toList

/-- `ValidatedTradingInstrument` with the fields the client reads of it. -/
structure ValidatedTradingContext extends ValidatedTradingInstrument where
  tradeQuoteCcy : Text
  instType : ValidatedInstrumentType
  tdMode : ValidatedTradeMode
  deriving DecidableEq, Repr

/-- The answers of the exchange that a validation rests on. -/
structure TradingInstrumentExchangeEvidence where
  publicRow : OkxInstrument
  account : OkxInstrument
  accountConfig : OkxAccountConfig
  price : Decimal
  maximum : OkxMaximumOrderSize
  available : OkxMaximumAvailableSize
  balances : List OkxBalanceRow
  quoteUsdRate : Option ValidatedQuoteUsdRate

/-- A row of the instrument has to fit what was requested. -/
def validateInstrumentRow (requested : RequestedTradingInstrument) (instrument : OkxInstrument)
    (source : Message) : Result Unit := do
  ensure (instrument.instId = requested.instrument)
    ("OKX " ++ source ++ " instrument returned another instrument")
  ensure (instrument.instType = requested.instType.asOkx)
    ("OKX " ++ source ++ " instrument returned another instType")
  instrument.ensureLive
  let _ ← instrument.feeGroupId
  ensure (requested.instrument = instrument.baseCcy ++ '-' :: instrument.quoteCcy ∧
      '-' ∉ instrument.baseCcy)
    ("OKX " ++ source ++ " instrument currencies contradict its identifier")
  let _ ← instrument.tickSize
  let _ ← instrument.lotSize
  let _ ← instrument.minSize
  instrument.validateOrderLimits
  let _ ← instrument.websocketInstIdCode

/-- Where the USD rate of the quote currency has to come from. -/
def expectedQuoteUsdSource (instrument : OkxInstrument) : ValidatedQuoteUsdSource :=
  if instrument.quoteCcy = usdText then .identity
  else .index (ValidatedQuoteUsdRate.indexInstId instrument.quoteCcy)

/-- A rate of the quote currency is there exactly where a limit is in USD. -/
def validateQuoteUsdRate (instrument : OkxInstrument)
    (quoteUsdRate : Option ValidatedQuoteUsdRate) : Result (Option ValidatedQuoteUsdSource) := do
  if (← instrument.hasUsdOrderAmountLimit) = false then
    ensure (quoteUsdRate = none)
      "OKX USD conversion evidence was supplied without a USD-denominated order limit"
    return none
  else
    let some quoteUsdRate := quoteUsdRate
      | .error "OKX USD-denominated order limits require quote-to-USD evidence"
    ensure (quoteUsdRate.quoteCcy = instrument.quoteCcy)
      "OKX USD conversion evidence was for another quote currency"
    ensure (quoteUsdRate.source = expectedQuoteUsdSource instrument)
      "OKX USD conversion evidence source contradicted quote currency"
    return some (expectedQuoteUsdSource instrument)

/-- The sizing answers are of the instrument and within the balances. -/
def validateSizingAndBalanceEvidence (instrument : OkxInstrument) (price : Decimal)
    (maximum : OkxMaximumOrderSize) (available : OkxMaximumAvailableSize)
    (balances : List OkxBalanceRow) : Result Unit := do
  ensure (0 < price) "OKX sizing evidence price must be positive"
  ensure (maximum.instId = instrument.instId ∧ available.instId = instrument.instId)
    "OKX sizing evidence returned a contradictory instrument identity"
  maximum.ensureCashSpotMarginCurrency instrument.baseCcy
  let maxBuyBase ← maximum.maxBuyBase
  let maxSellQuote ← maximum.maxSellQuote
  let availableBuyQuote ← available.availableBuyQuote
  let availableSellBase ← available.availableSellBase
  let quoteAvailable ← availableBalance balances instrument.quoteCcy
  let baseAvailable ← availableBalance balances instrument.baseCcy
  ensure (availableBuyQuote ≤ quoteAvailable)
    "OKX max-avail-size availBuy exceeds cash available balance"
  ensure (availableSellBase ≤ baseAvailable)
    "OKX max-avail-size availSell exceeds cash available balance"
  ensure (maxBuyBase * price ≤ availableBuyQuote)
    "OKX max-size maxBuy contradicts max-avail-size availBuy"
  ensure (maxSellQuote / price ≤ availableSellBase)
    "OKX max-size maxSell contradicts max-avail-size availSell"

/-- `from_exchange_evidence`, every check in the order of the source. -/
def ValidatedTradingContext.fromExchangeEvidence (requested : RequestedTradingInstrument)
    (evidence : TradingInstrumentExchangeEvidence) : Result ValidatedTradingContext := do
  validateRequestedTradingInstrument requested
  ensure (requested.instType = .spot ∧ requested.tdMode = .cash)
    "only a requested SPOT + cash tuple can enter OKX runtime validation"
  evidence.accountConfig.ensureSpotTradingEnabled
  validateInstrumentRow requested evidence.publicRow "public"
  validateInstrumentRow requested evidence.account "account"
  validateOverlappingMetadata evidence.publicRow evidence.account
  let tradeQuoteCcy := evidence.publicRow.quoteCcy
  evidence.publicRow.ensureTradeQuoteCurrency tradeQuoteCcy
  evidence.account.ensureTradeQuoteCurrency tradeQuoteCcy
  let quoteUsdSource ← validateQuoteUsdRate evidence.publicRow evidence.quoteUsdRate
  validateSizingAndBalanceEvidence evidence.publicRow evidence.price evidence.maximum
    evidence.available evidence.balances
  return { instrument := evidence.publicRow, quoteUsdSource, tradeQuoteCcy, instType := .spot,
           tdMode := .cash }

/-- The instrument of the evidence is the published one. -/
theorem ValidatedTradingContext.fromExchangeEvidence_instrument
    {requested : RequestedTradingInstrument} {evidence : TradingInstrumentExchangeEvidence}
    {context : ValidatedTradingContext}
    (h : fromExchangeEvidence requested evidence = .ok context) :
    context.instrument = evidence.publicRow := by
  simp only [fromExchangeEvidence, bind_eq_ok, pure_eq_ok] at h
  obtain ⟨_, -, _, -, _, -, _, -, _, -, _, -, _, -, _, -, _, -, _, -, rfl⟩ := h
  rfl

/-! ## The generation -/

/-- A validation with the account level and the fees it rests on. -/
structure ValidatedCapabilityGeneration where
  requested : RequestedCapability
  context : ValidatedTradingContext
  accountLevel : AccountLevelDiagnosticSnapshot
  fee : OkxTradeFeeRate
  deriving DecidableEq, Repr

/-- A generation from its parts, which have to fit together. -/
def ValidatedCapabilityGeneration.cashSpot (requested : RequestedCapability)
    (context : ValidatedTradingContext) (accountLevel : AccountLevelDiagnosticSnapshot)
    (fee : OkxTradeFeeRate) (maximumAge now : ℕ) : Result ValidatedCapabilityGeneration := do
  accountLevel.ensureFresh now maximumAge
  ensure (requested.tradingInstrument.instrument = context.instrument.instId ∧
      requested.tradingInstrument.instType.asOkx = context.instType.asOkx ∧
      requested.tradingInstrument.tdMode.asOkx = context.tdMode.asOkx)
    "validated cash-SPOT context contradicts the requested capability identity"
  fee.ensureSpot
  ensure (fee.groupId = (← context.instrument.feeGroupId))
    "OKX fee group contradicts validated instrument groupId"
  let _ ← fee.normalizedMakerCostRate
  let _ ← fee.normalizedTakerCostRate
  return ⟨requested, context, accountLevel, fee⟩

/-- A generation is of the instrument that was requested. -/
theorem ValidatedCapabilityGeneration.cashSpot_instId {requested : RequestedCapability}
    {context : ValidatedTradingContext} {accountLevel : AccountLevelDiagnosticSnapshot}
    {fee : OkxTradeFeeRate} {maximumAge now : ℕ} {generation : ValidatedCapabilityGeneration}
    (h : cashSpot requested context accountLevel fee maximumAge now = .ok generation) :
    generation.context.instrument.instId = requested.tradingInstrument.instrument ∧
      generation.requested = requested ∧ generation.context = context ∧
      generation.accountLevel = accountLevel := by
  simp only [cashSpot, bind_eq_ok, ensure_eq_ok, pure_eq_ok] at h
  obtain ⟨_, -, _, ⟨hinst, -, -⟩, _, -, _, -, _, -, _, -, _, -, rfl⟩ := h
  exact ⟨hinst.symm, rfl, rfl, rfl⟩

end OkxTrading
