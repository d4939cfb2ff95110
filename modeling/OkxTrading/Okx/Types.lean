import OkxTrading.Okx.Decimal

/-!
# Exchange payloads and SPOT accounting

The records of `okx/types.rs` as the trading strategy reads them, with their field readers and the
fee-adjusted accounting of orders and fills.  A text field with a closed vocabulary (`side`,
`ordType`, `state`) is the value the code recognises, with the remaining texts kept apart.

* `OkxOrder.cumulativeSpotAccounting`, `OkxFill.spotAccounting` — what an order or one fill moved.
-/

namespace OkxTrading

open Effect

/-- The side of an order. -/
inductive OrderSide where
  | buy
  | sell
  deriving DecidableEq, Repr

/-- The kinds of orders that the client sends. -/
inductive OrderKind where
  | limit
  | market
  | postOnly
  deriving DecidableEq, Repr

/-- The `state` text of an order. -/
inductive OrderState where
  | live
  | partiallyFilled
  | filled
  | canceled
  | mmpCanceled
  | other (text : Text)
  deriving DecidableEq, Repr

/-- The `state` text of an algo order. -/
inductive AlgoState where
  | live
  | pause
  | effective
  | canceled
  | orderFailed
  | other (text : Text)
  deriving DecidableEq, Repr

/-- `instType`, `state` and currency texts of the instrument stay texts: the code compares them. -/
def spotText : Text := ['S', 'P', 'O', 'T']
def liveText : Text := ['l', 'i', 'v', 'e']
def usdText : Text := ['U', 'S', 'D']
def usdtText : Text := ['U', 'S', 'D', 'T']

/-! ## Instruments -/

/-- `OkxInstrument`: a row of the instruments endpoint, with its fields as texts. -/
structure OkxInstrument where
  instType : Text
  instId : Text
  groupId : Text
  instIdCode : Option Nat
  state : Text
  baseCcy : Text
  quoteCcy : Text
  tradeQuoteCurrencies : List Text
  tickSz : DecimalText
  lotSz : DecimalText
  minSz : DecimalText
  maxLmtSz : DecimalText
  maxLmtAmt : DecimalText
  maxMktSz : DecimalText
  maxMktAmt : DecimalText
  maxTriggerSz : DecimalText
  initPxLmtPct : DecimalText
  floatPxLmtPct : DecimalText
  maxPxLmtPct : DecimalText
  deriving DecidableEq, Repr

/-- A size within a maximum, where there is one. -/
def ensureMaxSize (context : Message) (size : Decimal) (maxSize : Option Decimal)
    (okxField : Message) : Result Unit :=
  match maxSize with
  | none => .ok ()
  | some maxSize => ensure (size ≤ maxSize) (context ++ " exceeds OKX " ++ okxField)

namespace OkxInstrument

variable (self : OkxInstrument)

def tickSize : Result Decimal := parsePositiveDecimal "OKX instrument tickSz" self.tickSz
def lotSize : Result Decimal := parsePositiveDecimal "OKX instrument lotSz" self.lotSz
def minSize : Result Decimal := parsePositiveDecimal "OKX instrument minSz" self.minSz

def maxLimitSize : Result (Option Decimal) :=
  parseOptionalPositiveDecimal "OKX instrument maxLmtSz" self.maxLmtSz

def maxLimitAmount : Result (Option Decimal) :=
  parseOptionalPositiveDecimal "OKX instrument maxLmtAmt" self.maxLmtAmt

/-- Given in USDT, unlike the sizes of the other orders. -/
def maxMarketSizeUsdt : Result (Option Decimal) :=
  parseOptionalPositiveDecimal "OKX instrument maxMktSz" self.maxMktSz

def maxMarketAmount : Result (Option Decimal) :=
  parseOptionalPositiveDecimal "OKX instrument maxMktAmt" self.maxMktAmt

def maxTriggerSize : Result (Option Decimal) :=
  parseOptionalPositiveDecimal "OKX instrument maxTriggerSz" self.maxTriggerSz

/-- Only a live instrument may be traded. -/
def ensureLive : Result Unit :=
  ensure (self.state = liveText) "OKX instrument state is not live"

/-- `websocket_inst_id_code`. -/
def websocketInstIdCode : Result (Option Nat) := do
  let some instIdCode := self.instIdCode | return none
  ensure (0 < instIdCode) "OKX instrument instIdCode must be positive"
  return some instIdCode

/-- The three percentages around the price, the first of them optional. -/
def priceLimitPercentages : Result (Option Decimal × Decimal × Decimal) := do
  let initial ← if self.initPxLmtPct = .empty then pure none
    else some <$> parsePositiveDecimal "OKX instrument initPxLmtPct" self.initPxLmtPct
  let float ← parsePositiveDecimal "OKX instrument floatPxLmtPct" self.floatPxLmtPct
  let maximum ← parsePositiveDecimal "OKX instrument maxPxLmtPct" self.maxPxLmtPct
  return (initial, float, maximum)

/-- A size within the maximum of limit orders. -/
def ensureLimitSize (size : Decimal) (context : Message) : Result Unit := do
  ensureMaxSize context size (← self.maxLimitSize) "maxLmtSz"

/-- A size within the maximum of trigger orders. -/
def ensureTriggerSize (size : Decimal) (context : Message) : Result Unit := do
  ensureMaxSize context size (← self.maxTriggerSize) "maxTriggerSz"

/-- A SPOT market sell in base currency against the USDT-denominated `maxMktSz`. -/
def ensureSpotMarketSellSize (baseSize referencePrice : Decimal) (context : Message) :
    Result Unit := do
  ensure (self.instType = spotText)
    (context ++ " maxMktSz validation requires a SPOT instrument")
  ensure (0 < baseSize) (context ++ " must be positive")
  ensure (0 < referencePrice) (context ++ " reference price must be positive")
  let some maxMarketSizeUsdt ← self.maxMarketSizeUsdt | return ()
  ensure (self.quoteCcy = usdtText)
    "OKX instrument maxMktSz is USDT-denominated but quoteCcy cannot be converted"
  let usdtNotional := baseSize * referencePrice
  ensureMaxSize (context ++ " USDT notional") usdtNotional (some maxMarketSizeUsdt) "maxMktSz"

end OkxInstrument

/-! ## Orders and fills -/

/-- What a fill or an order changed in the account, fees included. -/
structure OkxSpotFillAccounting where
  baseChange : Decimal
  quoteChange : Decimal
  deriving DecidableEq, Repr

namespace OkxSpotFillAccounting

/-- `OkxSpotFillAccounting::default()`. -/
def zero : OkxSpotFillAccounting := ⟨0, 0⟩

end OkxSpotFillAccounting

/-- `OkxOrder`: an order as REST and the orders channel return it. -/
structure OkxOrder where
  clientOrderId : Text
  side : Option OrderSide
  orderType : Option OrderKind
  price : DecimalText
  state : OrderState
  averagePrice : DecimalText
  accumulatedFillSize : DecimalText
  fee : DecimalText
  feeCurrency : Text
  rebate : DecimalText
  rebateCurrency : Text
  sz : DecimalText
  createdAt : Option Int
  deriving DecidableEq, Repr

/-- `OkxFill`: a fill of an order. -/
structure OkxFill where
  orderId : Text
  clientOrderId : Text
  billId : Text
  tradeId : Text
  sideText : Text
  side : Option OrderSide
  fillSzText : Text
  fillSz : DecimalText
  fillPx : DecimalText
  fee : DecimalText
  feeCurrency : Text
  fillTimeText : Text
  eventTimeText : Text
  deriving DecidableEq, Repr

/-- `OkxAlgoOrder`: a trigger order. -/
structure OkxAlgoOrder where
  algoId : Text
  clientOrderId : Text
  side : Option OrderSide
  orderType : Text
  triggerPx : DecimalText
  orderPrice : Text
  state : AlgoState
  sz : DecimalText
  deriving DecidableEq, Repr

/-- A buy adds base and costs quote, a sell the other way round. -/
def ensureSpotAccountingDirection (context : Message) (side : Option OrderSide)
    (accounting : OkxSpotFillAccounting) : Result Unit :=
  match side with
  | none => .error (context ++ " has undocumented side")
  | some .buy =>
      ensure (0 < accounting.baseChange ∧ accounting.quoteChange < 0)
        (context ++ " buy accounting must receive positive base and spend positive quote")
  | some .sell =>
      ensure (accounting.baseChange < 0 ∧ 0 < accounting.quoteChange)
        (context ++ " sell accounting must spend positive base and receive positive quote")

/-- A fee in the base changes the base, one in the quote the quote; another currency is an error. -/
def applySpotCurrencyAdjustment (context field : Message) (accounting : OkxSpotFillAccounting)
    (amount : Decimal) (currency baseCurrency quoteCurrency : Text) :
    Result OkxSpotFillAccounting := do
  ensure (currency = baseCurrency ∨ currency = quoteCurrency)
    (context ++ " " ++ field ++ " does not match base or quote")
  if currency = baseCurrency then
    return { accounting with baseChange := accounting.baseChange + amount }
  else
    return { accounting with quoteChange := accounting.quoteChange + amount }

/-- A rebate may be left out; else it is booked like a fee. -/
def applySpotRebate (context : Message) (accounting : OkxSpotFillAccounting)
    (rebate : DecimalText) (rebateCurrency baseCurrency quoteCurrency : Text) :
    Result OkxSpotFillAccounting := do
  let rebate ← if rebate.isBlank then pure 0
    else parseNonNegativeDecimal (context ++ " rebate") rebate
  if rebate = 0 ∧ Text.isBlank rebateCurrency then return accounting
  applySpotCurrencyAdjustment context "rebateCcy" accounting rebate rebateCurrency baseCurrency
    quoteCurrency

/-- `spot_fill_accounting`: what size, price and fee of a fill change. -/
def spotFillAccounting (context : Message) (side : Option OrderSide)
    (fillSize fillPrice : Decimal) (fee : DecimalText) (feeCurrency : Text)
    (baseCurrency quoteCurrency : Text) : Result OkxSpotFillAccounting := do
  ensure (¬ Text.isBlank baseCurrency ∧ ¬ Text.isBlank quoteCurrency)
    (context ++ " SPOT accounting requires base and quote currencies")
  ensure (baseCurrency ≠ quoteCurrency)
    (context ++ " SPOT accounting requires distinct base and quote currencies")
  let some side := side | .error (context ++ " has undocumented side")
  let feeAmount ← parseDecimal (context ++ " fee") fee
  let notional := fillSize * fillPrice
  let gross : OkxSpotFillAccounting := match side with
    | .buy => ⟨fillSize, -notional⟩
    | .sell => ⟨-fillSize, notional⟩
  let accounting ← applySpotCurrencyAdjustment context "feeCcy" gross feeAmount feeCurrency
    baseCurrency quoteCurrency
  ensureSpotAccountingDirection context (some side) accounting
  return accounting

namespace OkxOrder

variable (self : OkxOrder)

def fillSize : Result Decimal :=
  parseNonNegativeDecimal "OKX order accFillSz" self.accumulatedFillSize

/-- A zero price is read as none where nothing was filled. -/
def averageFillPrice : Result (Option Decimal) := do
  if self.averagePrice.isBlank then return none
  let averagePrice ← parseNonNegativeDecimal "OKX order avgPx" self.averagePrice
  if averagePrice = 0 then
    ensure ((← self.fillSize) = 0)
      "OKX order avgPx must be positive when accFillSz is positive"
    return none
  return some averagePrice

def parsedSide : Option OrderSide := self.side
def parsedKind : Option OrderKind := self.orderType

/-- `cumulative_spot_accounting`: what an order changed by all its fills. -/
def cumulativeSpotAccounting (baseCurrency quoteCurrency : Text) :
    Result OkxSpotFillAccounting := do
  let fillSize ← self.fillSize
  if fillSize = 0 then return .zero
  let some fillPrice ← self.averageFillPrice | .error "OKX filled order is missing avgPx"
  let accounting ← spotFillAccounting "OKX order" self.parsedSide fillSize fillPrice self.fee
    self.feeCurrency baseCurrency quoteCurrency
  let accounting ← applySpotRebate "OKX order" accounting self.rebate self.rebateCurrency
    baseCurrency quoteCurrency
  ensureSpotAccountingDirection "OKX order" self.parsedSide accounting
  return accounting

def createdAtMs : Result Int := parseTimestampMs "OKX order cTime" self.createdAt

/-- The order may still be filled. -/
def isLive : Bool :=
  match self.state with
  | .live | .partiallyFilled => true
  | _ => false

/-- The order is over. -/
def isTerminal : Bool :=
  match self.state with
  | .filled | .canceled | .mmpCanceled => true
  | _ => false

/-- The order ended as cancelled. -/
def isTerminalWithoutFill : Bool :=
  match self.state with
  | .canceled | .mmpCanceled => true
  | _ => false

def requestedSize : Result Decimal := parsePositiveDecimal "OKX order sz" self.sz

end OkxOrder

namespace OkxFill

variable (self : OkxFill)

def fillSize : Result Decimal := parsePositiveDecimal "OKX fill fillSz" self.fillSz
def fillPrice : Result Decimal := parsePositiveDecimal "OKX fill fillPx" self.fillPx

def parsedSide : Option OrderSide := self.side

/-- `spot_accounting`: what one fill changed. -/
def spotAccounting (baseCurrency quoteCurrency : Text) : Result OkxSpotFillAccounting := do
  spotFillAccounting "OKX fill" self.parsedSide (← self.fillSize) (← self.fillPrice) self.fee
    self.feeCurrency baseCurrency quoteCurrency

/-- The time of the fill, or of its event where that is missing. -/
def preferredFillTimeMs : Text :=
  if Text.isBlank self.fillTimeText then self.eventTimeText else self.fillTimeText

/-- `dedupe_key`: the first of the ids that is there, else all fields together. -/
def dedupeKey : Text :=
  if ¬ Text.isBlank self.billId then self.billId
  else if ¬ Text.isBlank self.tradeId then self.tradeId
  else if Text.isBlank self.orderId ∧ Text.isBlank self.clientOrderId ∧
      Text.isBlank self.sideText ∧ Text.isBlank self.preferredFillTimeMs ∧
      Text.isBlank self.fillSzText then []
  else self.orderId ++ ':' :: self.clientOrderId ++ ':' :: self.sideText ++
    ':' :: self.preferredFillTimeMs ++ ':' :: self.fillSzText

end OkxFill

namespace OkxAlgoOrder

variable (self : OkxAlgoOrder)

def isLive : Bool :=
  match self.state with
  | .live | .pause => true
  | _ => false

def isEffective : Bool := decide (self.state = .effective)

/-- The trigger order ended without an order. -/
def isTerminalWithoutExecution : Bool :=
  match self.state with
  | .canceled | .orderFailed => true
  | _ => false

def triggerPrice : Result Decimal :=
  parsePositiveDecimal "OKX algo order triggerPx" self.triggerPx

def requestedSize : Result Decimal := parsePositiveDecimal "OKX algo order sz" self.sz

def parsedSide : Option OrderSide := self.side

/-- A trigger order that sends a market order. -/
def isTriggerMarketOrder : Bool :=
  decide (self.orderType = ['t', 'r', 'i', 'g', 'g', 'e', 'r'] ∧ self.orderPrice = ['-', '1'])

end OkxAlgoOrder

/-! ## Tickers, balances, fees and candles -/

/-- `OkxTicker`, as far as the strategy reads it. -/
structure OkxTicker where
  bidPx : DecimalText
  askPx : DecimalText
  last : DecimalText
  deriving DecidableEq, Repr

namespace OkxTicker

variable (self : OkxTicker)

def bidDecimal : Result Decimal := parsePositiveDecimal "OKX ticker bidPx" self.bidPx
def askDecimal : Result Decimal := parsePositiveDecimal "OKX ticker askPx" self.askPx
def lastDecimal : Result Decimal := parsePositiveDecimal "OKX ticker last" self.last

end OkxTicker

/-- The balance of one currency. -/
structure OkxBalanceDetail where
  ccy : Text
  cashBalance : DecimalText
  deriving DecidableEq, Repr

/-- The cash balance, which has to be there. -/
def OkxBalanceDetail.total (self : OkxBalanceDetail) : Result Decimal := do
  ensure (self.cashBalance.isBlank = false) "OKX balance cashBal must be provided"
  parseNonNegativeDecimal "OKX balance cashBal" self.cashBalance

/-- A row of the balances. -/
structure OkxBalance where
  details : List OkxBalanceDetail
  deriving DecidableEq, Repr

/-- The rates of the group an instrument is in. -/
structure OkxTradeFeeRate where
  instType : Text
  groupId : Text
  maker : DecimalText
  taker : DecimalText
  deriving DecidableEq, Repr

/-- The `u64` an all-digit text denotes, if it fits. -/
def parseDigitsU64 (text : Text) : Option Nat :=
  if text.all Char.isDigit ∧ text ≠ [] then
    let n := text.foldl (fun n c => 10 * n + (c.toNat - '0'.toNat)) 0
    if n < 2 ^ 64 then some n else none
  else none

/-- `u64::from_str`. -/
def parseU64 : Text → Option ℕ
  | '+' :: digits => parseDigitsU64 digits
  | digits => parseDigitsU64 digits

/-- `i64::from_str`. -/
def parseI64 (text : Text) : Option ℤ := do
  let value ← match text with
    | '-' :: digits => (parseDigitsU64 digits).map fun n => -(n : ℤ)
    | '+' :: digits => (parseDigitsU64 digits).map fun n => (n : ℤ)
    | digits => (parseDigitsU64 digits).map fun n => (n : ℤ)
  if -2 ^ 63 ≤ value ∧ value < 2 ^ 63 then some value else none

/-- `value == value.trim()`. -/
def Text.isTrimmed (text : Text) : Bool :=
  !(text.head?.any isWhitespace) && !(text.getLast?.any isWhitespace)

section Alphanum

variable {value : Text}

theorem isWhitespace_of_mem_alphanum (h : value.all Char.isAlphanum = true) {ch : Char}
    (hch : ch ∈ value) : isWhitespace ch = false :=
  isWhitespace_of_isAlphanum (List.all_eq_true.1 h ch hch)

/-- Letters and digits are not blank. -/
theorem Text.isBlank_of_alphanum (h : value.all Char.isAlphanum = true) (hne : value ≠ []) :
    Text.isBlank value = false := by
  obtain ⟨ch, hch⟩ := List.exists_mem_of_ne_nil value hne
  exact List.all_eq_false.2
    ⟨ch, hch, by rw [isWhitespace_of_mem_alphanum h hch]; exact Bool.false_ne_true⟩

/-- Nor is there anything to trim of them. -/
theorem Text.isTrimmed_of_alphanum (h : value.all Char.isAlphanum = true) :
    Text.isTrimmed value = true := by
  have hhead : value.head?.any isWhitespace = false := by
    cases hhead : value.head? with
    | none => rfl
    | some ch => exact isWhitespace_of_mem_alphanum h (List.mem_of_mem_head? hhead)
  have hlast : value.getLast?.any isWhitespace = false := by
    cases hlast : value.getLast? with
    | none => rfl
    | some ch => exact isWhitespace_of_mem_alphanum h (List.mem_of_getLast? hlast)
  simp [Text.isTrimmed, hhead, hlast]

end Alphanum

/-- A fee group as OKX writes it. -/
def validateFeeGroupId (context : Message) (value : Text) : Result Unit := do
  ensure (value ≠ []) (context ++ " must be provided")
  ensure (Text.isTrimmed value) (context ++ " must not contain surrounding whitespace")
  ensure (value.all Char.isDigit) (context ++ " must contain only ASCII decimal digits")
  let some parsed := parseDigitsU64 value
    | .error (context ++ " must fit in an unsigned 64-bit integer")
  ensure (0 < parsed) (context ++ " must be positive")

namespace OkxTradeFeeRate

variable (self : OkxTradeFeeRate)

/-- The rates are for spot trading. -/
def ensureSpot : Result Unit := do
  ensure (self.instType = spotText) "OKX fee-rate response returned instType; expected SPOT"
  validateFeeGroupId "OKX fee rate groupId" self.groupId

/-- OKX's sign convention as positive cost and negative rebate. -/
def normalizedMakerCostRate : Result Decimal := do
  return -(← parseDecimal "OKX fee maker" self.maker)

/-- OKX writes a cost as a negative rate. -/
def normalizedTakerCostRate : Result Decimal := do
  return -(← parseDecimal "OKX fee taker" self.taker)

end OkxTradeFeeRate

/-- A candle; `F` is the type of the indicator floats. -/
structure MarketBar (F : Type) where
  tsMs : Int
  high : F
  low : F
  close : F
  confirm : Bool
  deriving DecidableEq, Repr

/-! ## Directions of accepted accounting -/

end OkxTrading
