import OkxTrading.Effect.Task
import OkxTrading.Okx.ClientState

/-!
# The calls of the client

`okx/client.rs`: the calls as tasks.  Between two of their requests they run on the shared state;
what the exchange, the pacer and the server clock answer is left open.  A paginated read and the
lookup of a cached ticker are one request each, and so is a private request with its reservation
and its signing.

* `ClientOp`, `RestRequest` — what the calls ask: a segment on the shared state, or an answer.
* `placeOrder`, `amendOrder`, `placeTriggerOrder`, `cancelOrder`, … — the commands.
* `instrumentForType`, `tickerWithMaxAge` — the reads that consult the metadata latch.
* `accountConfig`, `validateTradingInstrument` — the calls that grant and revoke capabilities.
* `clientSystem` — any number of these calls beside messages, the engine and the clock.
-/

namespace OkxTrading

open Effect

/-! ## Errors -/

/-- An error, with what callers look for in its chain. -/
structure OkxError where
  message : Message
  apiCode : Option Text
  staleTimestamp : Bool
  deriving DecidableEq, Repr

namespace OkxError

/-- An error without an API code, and not ambiguous. -/
def failed (message : Message) : OkxError := ⟨message, none, false⟩

/-- `anyhow::Error::context`. -/
def context (self : OkxError) (message : Message) : OkxError :=
  { self with message := message ++ ": " ++ self.message }

/-- `has_okx_api_error_code`. -/
def hasApiCode (self : OkxError) (code : Text) : Bool := decide (self.apiCode = some code)

end OkxError

/-! ## Payloads -/

/-- A ticker as the endpoint returns it. -/
structure OkxTickerRow extends OkxTicker where
  instType : Text
  instId : Text
  deriving DecidableEq, Repr

/-- Every price of a ticker can be read. -/
def OkxTickerRow.validatePrices (self : OkxTickerRow) : Result Unit := do
  let _ ← self.bidDecimal
  let _ ← self.askDecimal
  let _ ← self.lastDecimal

/-- A ticker over REST with the time of the answer. -/
structure OkxRestTicker where
  ticker : OkxTickerRow
  timestamp : Option ℤ
  deriving DecidableEq, Repr

/-- An acknowledgement of an order command. -/
structure OkxOrderAck where
  orderId : Text
  clientOrderId : Text
  statusCode : Text
  deriving DecidableEq, Repr

/-- The acknowledgement of an algo order, before it is checked. -/
structure OkxAlgoAckRow where
  algoId : Text
  clientOrderId : Text
  statusCode : Text
  deriving DecidableEq, Repr

/-- The body of a request that places an order. -/
structure PlaceOrderRequest where
  instId : Text
  tdMode : Text
  side : OrderSide
  orderType : OrderKind
  sz : DecimalText
  price : Option DecimalText
  targetCurrency : Option Text
  tradeQuoteCurrency : Text
  clientOrderId : Text
  deriving DecidableEq, Repr

/-- The body of a request that places a trigger order. -/
structure PlaceTriggerOrderRequest where
  instId : Text
  tdMode : Text
  side : OrderSide
  sz : DecimalText
  triggerPrice : DecimalText
  tradeQuoteCurrency : Text
  clientOrderId : Text
  deriving DecidableEq, Repr

/-- An amendment as a caller asks for it. -/
structure OkxOrderAmend where
  instId : Text
  side : OrderSide
  clientOrderId : Text
  newSize : Option DecimalText
  newPrice : Option DecimalText
  deriving DecidableEq, Repr

/-- The body of a request that amends an order. -/
structure AmendOrderRequest where
  instId : Text
  clientOrderId : Text
  newSize : Option DecimalText
  newPrice : Option DecimalText
  deriving DecidableEq, Repr

/-! ## Requests -/

/-- A segment on the shared state. -/
inductive ClientOp where
  | now
  | marketDataMaxStaleness
  | ensureInstrumentMetadataSafetyLatchClear (instId : Text)
  | latchInstrumentMetadataFailure (instId : Text) (error : Message)
  | ensureFreshInstrumentHintMatchesSnapshot (instId : Text)
  | ensureFreshInstrumentHintMatchesRestSnapshot (snapshot : OkxInstrument)
  | rememberInstrumentSnapshot (instrument : OkxInstrument)
  | validatedTradingInstrumentIfPresent (instId : Text)
  | validatedOrderRoute (instId : Text)
  | instrumentFeeGroupId (instId : Text)
  | instrumentTypeForFeeGroup (instId expectedGroupId : Text)
  | observeAccountLevelDiagnostic (accountConfig : OkxAccountConfig)
  | matchingObservedAccountLevelDiagnostic (accountConfig : OkxAccountConfig)
  | revokeCapabilityGenerations
  | rememberValidatedCapabilityGeneration (generation : ValidatedCapabilityGeneration)
  deriving DecidableEq

namespace ClientOp

/-- What a segment returns where it succeeds. -/
@[reducible] def Value : ClientOp → Type
  | now => Instant
  | marketDataMaxStaleness => ℕ
  | ensureInstrumentMetadataSafetyLatchClear _ => Unit
  | latchInstrumentMetadataFailure _ _ => Message
  | ensureFreshInstrumentHintMatchesSnapshot _ => Unit
  | ensureFreshInstrumentHintMatchesRestSnapshot _ => Unit
  | rememberInstrumentSnapshot _ => Unit
  | validatedTradingInstrumentIfPresent _ => Option ValidatedTradingContext
  | validatedOrderRoute _ => Text × Text
  | instrumentFeeGroupId _ => Text
  | instrumentTypeForFeeGroup _ _ => Text
  | observeAccountLevelDiagnostic _ => AccountLevelDiagnosticSnapshot
  | matchingObservedAccountLevelDiagnostic _ => AccountLevelDiagnosticSnapshot
  | revokeCapabilityGenerations => Unit
  | rememberValidatedCapabilityGeneration _ => Unit

/-- A segment on the shared state. -/
def run : (op : ClientOp) → ClientProg op.Value
  | now => return (← Prog.get).now
  | marketDataMaxStaleness => return (← Prog.get).marketDataMaxStaleness
  | ensureInstrumentMetadataSafetyLatchClear instId =>
      OkxTrading.ensureInstrumentMetadataSafetyLatchClear instId
  | latchInstrumentMetadataFailure instId error =>
      OkxTrading.latchInstrumentMetadataFailure instId error
  | ensureFreshInstrumentHintMatchesSnapshot instId =>
      OkxTrading.ensureFreshInstrumentHintMatchesSnapshot instId
  | ensureFreshInstrumentHintMatchesRestSnapshot snapshot =>
      OkxTrading.ensureFreshInstrumentHintMatchesRestSnapshot snapshot
  | rememberInstrumentSnapshot instrument => OkxTrading.rememberInstrumentSnapshot instrument
  | validatedTradingInstrumentIfPresent instId =>
      OkxTrading.validatedTradingInstrumentIfPresent instId
  | validatedOrderRoute instId => OkxTrading.validatedOrderRoute instId
  | instrumentFeeGroupId instId => OkxTrading.instrumentFeeGroupId instId
  | instrumentTypeForFeeGroup instId expectedGroupId =>
      OkxTrading.instrumentTypeForFeeGroup instId expectedGroupId
  | observeAccountLevelDiagnostic accountConfig =>
      OkxTrading.observeAccountLevelDiagnostic accountConfig
  | matchingObservedAccountLevelDiagnostic accountConfig =>
      OkxTrading.matchingObservedAccountLevelDiagnostic accountConfig
  | revokeCapabilityGenerations => OkxTrading.revokeCapabilityGenerations
  | rememberValidatedCapabilityGeneration generation =>
      OkxTrading.rememberValidatedCapabilityGeneration generation

end ClientOp

/-- What is answered from outside. -/
inductive RestRequest where
  /-- `reserve_private_request` and `rate_limit_pacer.wait`. -/
  | reserve (path : String) (instId : Text)
  | sleep (ms : ℕ)
  /-- `server_time_clock.unix_millis`. -/
  | serverTimeMs
  | refreshServerTimeIfExpiring
  | privateRequestTiming
  | freshTicker (instId : Text) (maxStaleness : ℕ)
  | publicInstruments (instType instId : Text)
  | accountInstruments (instType : Text) (instId : Option Text)
  | marketTicker (instId : Text)
  | indexTickers (instId : Text)
  | priceLimit (instId : Text)
  | accountConfig
  | accountBalance
  | maxSize (instId tdMode : Text) (price : DecimalText) (tradeQuoteCcy : Text)
  | maxAvailSize (instId tdMode tradeQuoteCcy : Text)
  | tradeFee (instType instId : Text)
  | order (instId clientOrderId : Text)
  | orderAlgoByClientOrderId (clientOrderId : Text)
  | openAlgoOrders (instId : Text)
  | algoOrderHistoryById (instId algoId : Text)
  | placeOrder (body : PlaceOrderRequest)
  | amendOrder (body : AmendOrderRequest)
  | orderAlgo (body : PlaceTriggerOrderRequest)
  | cancelOrder (instId clientOrderId : Text)
  | cancelAlgos (instId algoId : Text)
  deriving DecidableEq

namespace RestRequest

/-- What the exchange answers where it answers. -/
@[reducible] def Value : RestRequest → Type
  | reserve _ _ => Unit
  | sleep _ => Unit
  | serverTimeMs => Option ℤ
  | refreshServerTimeIfExpiring => Unit
  | privateRequestTiming => ℤ
  | freshTicker _ _ => Option OkxTickerRow
  | publicInstruments _ _ => List OkxInstrument
  | accountInstruments _ _ => List OkxInstrument
  | marketTicker _ => List OkxRestTicker
  | indexTickers _ => List OkxIndexTicker
  | priceLimit _ => List OkxPriceLimit
  | accountConfig => List OkxAccountConfig
  | accountBalance => List OkxBalanceRow
  | maxSize _ _ _ _ => List OkxMaximumOrderSize
  | maxAvailSize _ _ _ => List OkxMaximumAvailableSize
  | tradeFee _ _ => List OkxTradeFeeResponse
  | order _ _ => List OkxOrderRow
  | orderAlgoByClientOrderId _ => List OkxAlgoOrderRow
  | openAlgoOrders _ => List OkxAlgoOrderRow
  | algoOrderHistoryById _ _ => Option OkxAlgoOrderRow
  | placeOrder _ => List OkxOrderAck
  | amendOrder _ => List OkxOrderAck
  | orderAlgo _ => List OkxAlgoAckRow
  | cancelOrder _ _ => List OkxOrderAck
  | cancelAlgos _ _ => List OkxAlgoAckRow

/-- It creates or amends an order. -/
def isExposure : RestRequest → Bool
  | placeOrder _ => true
  | amendOrder _ => true
  | orderAlgo _ => true
  | _ => false

/-- It only takes a place in a rate limit. -/
def isReserve : RestRequest → Bool
  | reserve _ _ => true
  | _ => false

end RestRequest

/-- A segment of the client's own code, or a request to the exchange. -/
abbrev ClientRequest := ClientOp ⊕ RestRequest

/-- The answer to either. -/
@[reducible] def ClientRequest.Reply : ClientRequest → Type
  | .inl op => Result op.Value
  | .inr query => Except OkxError query.Value

/-- A call of the client. -/
abbrev ClientTask (α : Type) := Task OkxError ClientRequest ClientRequest.Reply α

/-- A check of what was answered. -/
def failing {α : Type} (x : Result α) : ClientTask α := Task.ofExcept (x.mapError OkxError.failed)

/-- A segment; its error ends the call. -/
def perform (op : ClientOp) : ClientTask op.Value := do
  let reply : Result op.Value ← Task.ask (Sum.inl op)
  failing reply

/-- A request to the exchange; its error ends the call. -/
def request (query : RestRequest) : ClientTask query.Value := do
  let reply : Except OkxError query.Value ← Task.ask (Sum.inr query)
  Task.ofExcept reply

/-- The call fails with a text. -/
def fail {α : Type} (message : Message) : ClientTask α := Task.stop (OkxError.failed message)

section Upholds

variable {can : (q : ClientRequest) → q.Reply → Prop} {A : ClientRequest → Prop}

theorem perform_upholds {op : ClientOp} {P : Except OkxError op.Value → Prop} (hA : A (.inl op))
    (h : ∀ reply : Result op.Value, can (.inl op) reply → P (reply.mapError OkxError.failed)) :
    (perform op).Upholds can A P :=
  ⟨hA, fun answer hcan => h answer hcan⟩

theorem request_upholds {query : RestRequest} {P : Except OkxError query.Value → Prop}
    (hA : A (.inr query)) (h : ∀ reply, P reply) : (request query).Upholds can A P :=
  ⟨hA, fun answer _ => h answer⟩

end Upholds

/-- `ensure!(rows.len() == 1)` and the row. -/
def single {α : Type} (rows : List α) (message : Message) : Result α :=
  match rows with
  | [row] => .ok row
  | _ => .error message

/-! ## Reads that consult the latch -/

def spotInstrumentPath : String := "/api/v5/trade/order"
def amendOrderPath : String := "/api/v5/trade/amend-order"
def cancelOrderPath : String := "/api/v5/trade/cancel-order"

/-- The checks of `instrument_for_type` on the response itself. -/
def checkInstrumentResponse (requestedInstType instId : Text) (instruments : List OkxInstrument) :
    Result OkxInstrument := do
  let instrument ← single instruments "OKX returned instrument specs"
  ensure (instrument.instId = instId) "OKX returned instrument spec for another instrument"
  ensure (instrument.instType = requestedInstType) "OKX returned another instType"
  ensure (instrument.baseCcy ++ '-' :: instrument.quoteCcy = instId)
    "OKX instrument returned currencies that do not compose the exact requested identity"
  instrument.ensureTradeQuoteCurrency instrument.quoteCcy
  let _ ← instrument.feeGroupId
  let _ ← instrument.tickSize
  let _ ← instrument.lotSize
  let _ ← instrument.minSize
  instrument.ensureLive
  instrument.validateOrderLimits
  return instrument

theorem checkInstrumentResponse_instId {instType other : Text} {rows : List OkxInstrument}
    {row : OkxInstrument} (h : checkInstrumentResponse instType other rows = .ok row) :
    row.instId = other := by
  simp only [checkInstrumentResponse, bind_eq_ok, ensure_eq_ok, pure_eq_ok] at h
  obtain ⟨row, -, _, hinst, _, -, _, -, _, -, _, -, _, -, _, -, _, -, _, -, _, -, rfl⟩ := h
  exact hinst

/-- The validation of `instrument_for_type`. -/
def validateInstrumentResponse (requestedInstType instId : Text)
    (validatedContext : Option ValidatedTradingContext) (instruments : List OkxInstrument) :
    ClientTask OkxInstrument := do
  let instrument ← failing (checkInstrumentResponse requestedInstType instId instruments)
  perform (.ensureFreshInstrumentHintMatchesRestSnapshot instrument)
  match validatedContext with
  | none => pure ()
  | some validated => failing (validated.ensurePublicRefreshMatches instrument)
  perform (.rememberInstrumentSnapshot instrument)
  return instrument

/-- `instruments_for_type`: a row that contradicts what was validated before sets the latch. -/
def instrumentForType (requestedInstType instId : Text) : ClientTask OkxInstrument := do
  perform (.ensureInstrumentMetadataSafetyLatchClear instId)
  let validatedContext ← perform (.validatedTradingInstrumentIfPresent instId)
  let instruments ← request (.publicInstruments requestedInstType instId)
  match ← Task.attempt
      (validateInstrumentResponse requestedInstType instId validatedContext instruments) with
  | .ok instrument => return instrument
  | .error error =>
      if validatedContext.isSome then
        fail (← perform (.latchInstrumentMetadataFailure instId error.message))
      else Task.stop error

/-- An answer too old to use; callers may ask again. -/
def ensureFreshRestTimestamp (context : Message) (generatedAtMs serverNowMs : ℤ)
    (maxStaleness : ℕ) : ClientTask Unit := do
  let ageMs ← failing (restTimestampAge context generatedAtMs serverNowMs)
  if ageMs ≤ maxStaleness then return ()
  else Task.stop { OkxError.failed (context ++ " is stale") with staleTimestamp := true }

/-- The cached ticker where it is fresh, else one over REST. -/
def tickerWithMaxAge (instId : Text) (maxStaleness : ℕ) : ClientTask OkxTickerRow := do
  perform (.ensureFreshInstrumentHintMatchesSnapshot instId)
  match ← request (.freshTicker instId maxStaleness) with
  | some ticker => return ticker
  | none => do
      let tickers ← request (.marketTicker instId)
      let restTicker ← failing (single tickers "OKX returned tickers")
      let ticker := restTicker.ticker
      failing (ensure (ticker.instId = instId) "OKX returned ticker for another instrument")
      failing (ensureSpotInstType ticker.instType "ticker")
      failing ticker.validatePrices
      let some serverNowMs ← request .serverTimeMs
        | fail "OKX REST ticker freshness requires synchronized server time"
      let some timestamp := restTicker.timestamp
        | fail "OKX REST ticker timestamp must be Unix milliseconds"
      ensureFreshRestTimestamp "OKX REST ticker timestamp" timestamp serverNowMs maxStaleness
      return ticker

/-- `ticker`, with the configured staleness. -/
def ticker (instId : Text) : ClientTask OkxTickerRow := do
  tickerWithMaxAge instId (← perform .marketDataMaxStaleness)

def okxStaleMarketEvidenceMaxAttempts : ℕ := 3
def okxStaleMarketEvidenceRetryDelayMs : ℕ := 250
def okxStartupTickerMaxAgeMs : ℕ := 5000
def okxIndexTickerMaxAgeMs : ℕ := 5000
def okxTradingTupleEvidenceMaxAgeMs : ℕ := 30000

/-- The attempts of `startup_ticker` and of `quote_usd_rate_for_quote`, after the first. -/
def retryStale {α : Type} (evidence : ClientTask α) : ℕ → ClientTask α
  | 0 => evidence
  | attempts + 1 => do
      match ← evidence.attempt with
      | .ok value => return value
      | .error error =>
          if error.staleTimestamp then
            request (.sleep okxStaleMarketEvidenceRetryDelayMs)
            retryStale evidence attempts
          else Task.stop error

/-- A ticker for the validation, asked for again while it is stale. -/
def startupTicker (instId : Text) : ClientTask OkxTickerRow :=
  retryStale (tickerWithMaxAge instId okxStartupTickerMaxAgeMs)
    (okxStaleMarketEvidenceMaxAttempts - 1)

/-- The USD rate of a currency from its index. -/
def quoteUsdRateFromIndex (quoteCcy : Text) : ClientTask ValidatedQuoteUsdRate := do
  let rows ← request (.indexTickers (ValidatedQuoteUsdRate.indexInstId quoteCcy))
  let row ← failing (single rows "OKX returned index tickers")
  let (rate, sourceTimestampMs) ← failing (ValidatedQuoteUsdRate.fromIndexTicker quoteCcy row)
  let some serverNowMs ← request .serverTimeMs
    | fail "OKX index ticker freshness requires synchronized server time"
  ensureFreshRestTimestamp "OKX REST index ticker timestamp" sourceTimestampMs serverNowMs
    okxIndexTickerMaxAgeMs
  return rate

/-- The USD rate of a currency; USD needs no index. -/
def quoteUsdRateForQuote (quoteCcy : Text) : ClientTask ValidatedQuoteUsdRate :=
  if quoteCcy = usdText then failing (ValidatedQuoteUsdRate.identity quoteCcy)
  else retryStale (quoteUsdRateFromIndex quoteCcy) (okxStaleMarketEvidenceMaxAttempts - 1)

/-- The price limits in force, read now. -/
def freshSpotPriceLimit (instId : Text) : ClientTask ValidatedSpotPriceLimit := do
  let _ ← perform (.validatedOrderRoute instId)
  perform (.ensureFreshInstrumentHintMatchesSnapshot instId)
  request .refreshServerTimeIfExpiring
  let rows ← request (.priceLimit instId)
  let row ← failing (single rows "OKX returned price-limit rows")
  let some serverNowMs ← request .serverTimeMs
    | fail "OKX price-limit freshness requires synchronized server time"
  let maxStaleness ← perform .marketDataMaxStaleness
  failing (ValidatedSpotPriceLimit.fromResponse instId row serverNowMs maxStaleness)

/-- A price is within the limits read now. -/
def ensureFreshSpotOrderPrice (instId : Text) (side : OrderSide) (price : DecimalText)
    (context : Message) : ClientTask Unit := do
  let price ← failing (parsePositiveDecimalField context price)
  let limit ← freshSpotPriceLimit instId
  failing (limit.ensurePrice side price context)

/-! ## Lookups after a submission -/

/-- A text that has to be there and trimmed. -/
def ensureTrimmedNonEmpty (label : Message) (value : Text) : Result Unit := do
  ensure (Text.isBlank value = false) (label ++ " must not be empty")
  ensure (Text.isTrimmed value) (label ++ " must be trimmed")

/-- The one acknowledgement, which has to be of the order asked about. -/
def singleOrderAck (acknowledgements : List OkxOrderAck) (clientOrderId : Text)
    (context : Message) : Result OkxOrderAck := do
  let acknowledgement ← single acknowledgements ("OKX returned " ++ context ++ " acknowledgements")
  let acknowledgement ←
    if Text.isBlank acknowledgement.clientOrderId ∧ acknowledgement.statusCode ≠ ['0'] then
      pure { acknowledgement with clientOrderId := clientOrderId }
    else do
      ensure (acknowledgement.clientOrderId = clientOrderId)
        ("OKX " ++ context ++ " acknowledgement returned another clOrdId")
      pure acknowledgement
  if acknowledgement.statusCode = ['0'] then
    ensure (Text.isBlank acknowledgement.orderId = false)
      ("OKX " ++ context ++ " acknowledgement omitted ordId")
  return acknowledgement

/-- `single_algo_ack` for a requested client order id. -/
def singleAlgoAckByClientOrderId (acknowledgements : List OkxAlgoAckRow) (clientOrderId : Text)
    (context : Message) : Result OkxAlgoAckRow := do
  let acknowledgement ← single acknowledgements ("OKX returned " ++ context ++ " acknowledgements")
  ensure (Text.isBlank acknowledgement.clientOrderId ∨
      acknowledgement.clientOrderId = clientOrderId)
    ("OKX " ++ context ++ " acknowledgement returned another algoClOrdId")
  if acknowledgement.statusCode = ['0'] then
    ensure (Text.isBlank acknowledgement.algoId = false)
      ("OKX " ++ context ++ " acknowledgement omitted algoId")
    ensure (acknowledgement.clientOrderId = clientOrderId)
      ("OKX " ++ context ++ " acknowledgement returned another algoClOrdId")
  return acknowledgement

/-- `single_algo_ack` for a requested algo id. -/
def singleAlgoAckByAlgoId (acknowledgements : List OkxAlgoAckRow) (algoId : Text)
    (context : Message) : Result OkxAlgoAckRow := do
  let acknowledgement ← single acknowledgements ("OKX returned " ++ context ++ " acknowledgements")
  ensure (Text.isBlank acknowledgement.algoId ∨ acknowledgement.algoId = algoId)
    ("OKX " ++ context ++ " acknowledgement returned another algoId")
  if acknowledgement.statusCode = ['0'] then
    ensure (Text.isBlank acknowledgement.algoId = false)
      ("OKX " ++ context ++ " acknowledgement omitted algoId")
    ensure (acknowledgement.algoId = algoId)
      ("OKX " ++ context ++ " acknowledgement returned another algoId")
  return acknowledgement

/-- The error of an acknowledgement with a failing code. -/
def orderAckRejection (acknowledgement : OkxOrderAck) : OkxError :=
  ⟨"OKX order mutation rejected: " ++ String.ofList acknowledgement.statusCode, some ['0'], false⟩

/-- What an order that was found stands for. -/
def reconciledOrderAck (order : OkxOrderRow) : OkxOrderAck :=
  ⟨order.orderId, order.clientOrderId, ['0']⟩

/-- What a trigger order that was found stands for. -/
def reconciledAlgoAck (order : OkxAlgoOrderRow) : OkxAlgoAckRow :=
  ⟨order.algoId, order.clientOrderId, ['0']⟩

/-- The checks of `order` on the one row there is. -/
def checkOrderLookup (instId clientOrderId : Text) (order : OkxOrderRow) : Result Unit := do
  ensureOrderMatchesInstrument instId "order lookup" order
  ensure (order.clientOrderId = clientOrderId) "OKX returned order with another clOrdId"

/-- `order`: code 51603 says that there is none. -/
def order (instId clientOrderId : Text) : ClientTask (Option OkxOrderRow) := do
  match ← (request (.order instId clientOrderId)).attempt with
  | .error error => if error.hasApiCode "51603".toList then return none else Task.stop error
  | .ok [] => return none
  | .ok [order] => do
      failing (checkOrderLookup instId clientOrderId order)
      return some order
  | .ok _ => fail "OKX returned orders"

/-- What an order that is looked up has to look like. -/
structure OkxOrderSubmitReconciliation where
  instId : Text
  side : OrderSide
  kind : OrderKind
  size : DecimalText
  price : Option DecimalText
  clientOrderId : Text
  deriving DecidableEq, Repr

/-- What `reconcile_order_submit_failure` asks of the order it finds. -/
def verifyReconciledOrderSubmit (requested : OkxOrderSubmitReconciliation) (order : OkxOrderRow) :
    Result Unit := do
  ensure (order.parsedSide = some requested.side) "reconciliation lookup returned another side"
  ensure (order.parsedKind = some requested.kind) "reconciliation lookup returned another ordType"
  ensure ((← order.requestedSize) =
    (← parsePositiveDecimalField "OKX submit expected sz" requested.size))
    "reconciliation lookup returned another sz"
  match requested.price with
  | none => return ()
  | some expectedPrice =>
      ensure ((← parsePositiveDecimalField "OKX submit reconciled px" order.price) =
        (← parsePositiveDecimalField "OKX submit expected px" expectedPrice))
        "reconciliation lookup returned another px"

/-- `reconcile_order_submit_failure`: a failed submission succeeded where the order is found as
submitted. -/
def reconcileOrderSubmitFailure (requested : OkxOrderSubmitReconciliation)
    (submitErr : OkxError) : ClientTask OkxOrderAck := do
  match ← (order requested.instId requested.clientOrderId).attempt with
  | .ok (some order) =>
      match verifyReconciledOrderSubmit requested order with
      | .ok () => return reconciledOrderAck order
      | .error reason => Task.stop (submitErr.context reason)
  | .ok none =>
      Task.stop (submitErr.context
        "OKX order submit failed and reconciliation lookup did not find the order")
  | .error _ =>
      Task.stop (submitErr.context "OKX order submit failed and reconciliation lookup failed")

/-- The checks of an amendment before it is sent. -/
def OkxOrderAmend.validate (amend : OkxOrderAmend) : Result Unit := do
  ensureTrimmedNonEmpty "OKX amend instId" amend.instId
  ensureTrimmedNonEmpty "OKX amend clOrdId" amend.clientOrderId
  ensure (amend.newSize.isSome ∨ amend.newPrice.isSome)
    "OKX amend order requires new_size or new_price"
  if let some newSize := amend.newSize then
    let _ ← parsePositiveDecimalField "OKX amend newSz" newSize
  if let some newPrice := amend.newPrice then
    let _ ← parsePositiveDecimalField "OKX amend newPx" newPrice

/-- An order that is found has to be as the amendment asked for. -/
def verifyReconciledOrderAmend (order : OkxOrderRow) (amend : OkxOrderAmend) : Result Unit := do
  ensureOrderMatchesInstrument amend.instId "amend reconciliation" order
  ensure (order.parsedSide = some amend.side) "OKX amend reconciliation returned another side"
  ensure (order.clientOrderId = amend.clientOrderId)
    "OKX amend reconciliation returned another clOrdId"
  match amend.newSize with
  | none => pure ()
  | some newSize =>
      ensure ((← order.requestedSize) =
        (← parsePositiveDecimalField "OKX amend expected newSz" newSize))
        "OKX amend reconciliation returned another sz"
  match amend.newPrice with
  | none => pure ()
  | some newPrice =>
      ensure ((← parsePositiveDecimalField "OKX amend reconciled px" order.price) =
        (← parsePositiveDecimalField "OKX amend expected newPx" newPrice))
        "OKX amend reconciliation returned another px"

/-- `reconcile_order_amend_failure`: a failed amendment succeeded where the order is as asked
for. -/
def reconcileOrderAmendFailure (amend : OkxOrderAmend) (amendErr : OkxError) :
    ClientTask OkxOrderAck := do
  match ← (order amend.instId amend.clientOrderId).attempt with
  | .ok (some order) =>
      match verifyReconciledOrderAmend order amend with
      | .ok () => return reconciledOrderAck order
      | .error reason => Task.stop (amendErr.context reason)
  | .ok none =>
      Task.stop (amendErr.context
        "OKX order amend failed and reconciliation lookup did not find the order")
  | .error _ =>
      Task.stop (amendErr.context "OKX order amend failed and reconciliation lookup failed")

/-- A trigger order by its id; more than one is an error. -/
def algoOrderByClientOrderId (instId clientOrderId : Text) :
    ClientTask (Option OkxAlgoOrderRow) := do
  match ← request (.orderAlgoByClientOrderId clientOrderId) with
  | [] => return none
  | [order] => do
      failing (ensureAlgoOrderMatchesInstrument instId "algo order lookup" order)
      failing (ensure (order.clientOrderId = clientOrderId)
        "OKX returned algo with another algoClOrdId")
      return some order
  | _ => fail "OKX returned algo orders"

/-- What `reconcile_algo_submit_failure` asks of the order it finds. -/
def verifyReconciledAlgoSubmit (side : OrderSide) (size triggerPrice : DecimalText)
    (order : OkxAlgoOrderRow) : Result Unit := do
  ensure order.isLive "reconciliation lookup returned another state instead of live protection"
  ensure (order.parsedSide = some side) "reconciliation lookup returned another side"
  ensure order.isTriggerMarketOrder "reconciliation lookup returned no trigger market order"
  let requestedSize ← parseDecimal "OKX requested algo size" size
  let requestedTriggerPrice ← parseDecimal "OKX requested algo triggerPx" triggerPrice
  ensure ((← order.requestedSize) = requestedSize) "reconciliation lookup returned another size"
  ensure ((← order.triggerPrice) = requestedTriggerPrice)
    "reconciliation lookup returned another triggerPx"

/-- `reconcile_algo_submit_failure`, the same for trigger orders. -/
def reconcileAlgoSubmitFailure (instId : Text) (side : OrderSide)
    (size triggerPrice : DecimalText) (clientOrderId : Text) (submitErr : OkxError) :
    ClientTask OkxAlgoAckRow := do
  match ← (algoOrderByClientOrderId instId clientOrderId).attempt with
  | .ok (some order) =>
      match verifyReconciledAlgoSubmit side size triggerPrice order with
      | .ok () => return reconciledAlgoAck order
      | .error reason => Task.stop (submitErr.context reason)
  | .ok none =>
      Task.stop (submitErr.context
        "OKX algo order submit failed and reconciliation lookup did not find the algo order")
  | .error _ =>
      Task.stop (submitErr.context "OKX algo order submit failed and reconciliation lookup failed")

/-- Nothing is left to cancel of an order. -/
def orderCancelTargetIsTerminalOrMissing (instId clientOrderId : Text) : ClientTask Bool := do
  match ← order instId clientOrderId with
  | none => return true
  | some order => return order.isTerminal

/-- Nothing is left to cancel of a trigger order. -/
def algoCancelTargetIsTerminalOrMissing (instId algoId : Text) : ClientTask Bool := do
  let orders ← request (.openAlgoOrders instId)
  if orders.any fun order => decide (order.algoId = algoId) && order.isLive then return false
  else
    match ← request (.algoOrderHistoryById instId algoId) with
    | none => return true
    | some order => return order.isEffective || order.isTerminalWithoutExecution

/-! ## Commands -/

/-- `spot_market_target_currency`. -/
def spotMarketTargetCurrency (side : OrderSide) (kind : OrderKind) : Option Text :=
  match side, kind with
  | .buy, .market => some "quote_ccy".toList
  | .sell, .market => some "base_ccy".toList
  | _, _ => none

/-- The submission of `place_order`: an error of the request itself is handed on, one before it
ends the call. -/
def submitOrder (body : PlaceOrderRequest) : ClientTask (Except OkxError (List OkxOrderAck)) := do
  if body.orderType = .market then
    perform (.ensureFreshInstrumentHintMatchesSnapshot body.instId)
    (request (.placeOrder body)).attempt
  else
    let some price := body.price | fail "OKX limit/post-only order requires px"
    request (.reserve spotInstrumentPath body.instId)
    perform (.ensureFreshInstrumentHintMatchesSnapshot body.instId)
    ensureFreshSpotOrderPrice body.instId body.side price "OKX order px"
    (request (.placeOrder body)).attempt

/-- `place_order`: an answer that says neither yes nor no is looked up. -/
def placeOrder (instId : Text) (side : OrderSide) (kind : OrderKind) (size : DecimalText)
    (price : Option DecimalText) (clientOrderId : Text) : ClientTask OkxOrderAck := do
  let (tdMode, tradeQuoteCurrency) ← perform (.validatedOrderRoute instId)
  let requested : OkxOrderSubmitReconciliation :=
    { instId, side, kind, size, price, clientOrderId }
  let submitted ← submitOrder
    { instId, tdMode, side, orderType := kind, sz := size, price,
      targetCurrency := spotMarketTargetCurrency side kind, tradeQuoteCurrency, clientOrderId }
  match submitted with
  | .error err => reconcileOrderSubmitFailure requested err
  | .ok acknowledgements =>
      match singleOrderAck acknowledgements clientOrderId "order" with
      | .error err => reconcileOrderSubmitFailure requested (.failed err)
      | .ok acknowledgement =>
          if acknowledgement.statusCode = ['0'] then return acknowledgement
          else reconcileOrderSubmitFailure requested (orderAckRejection acknowledgement)

/-- `cancel_order`: a refusal counts as success where nothing is left to cancel. -/
def cancelOrder (instId clientOrderId : Text) : ClientTask Unit := do
  let _ ← perform (.validatedOrderRoute instId)
  match ← (request (.cancelOrder instId clientOrderId)).attempt with
  | .error error =>
      if error.hasApiCode ['1'] then
        if ← orderCancelTargetIsTerminalOrMissing instId clientOrderId then return ()
        else Task.stop (error.context
          "OKX cancel returned an aggregate API error while REST still reports the order live")
      else Task.stop error
  | .ok acknowledgements => do
      let acknowledgement ← failing (singleOrderAck acknowledgements clientOrderId "cancel")
      if acknowledgement.statusCode = ['0'] then return ()
      else if ← orderCancelTargetIsTerminalOrMissing instId clientOrderId then return ()
      else Task.stop (orderAckRejection acknowledgement)

/-- The submission of `amend_order`. -/
def submitAmend (amend : OkxOrderAmend) : ClientTask (Except OkxError (List OkxOrderAck)) := do
  let body : AmendOrderRequest :=
    ⟨amend.instId, amend.clientOrderId, amend.newSize, amend.newPrice⟩
  match amend.newPrice with
  | some newPrice => do
      request (.reserve amendOrderPath amend.instId)
      perform (.ensureFreshInstrumentHintMatchesSnapshot amend.instId)
      ensureFreshSpotOrderPrice amend.instId amend.side newPrice "OKX amend newPx"
      (request (.amendOrder body)).attempt
  | none => do
      perform (.ensureFreshInstrumentHintMatchesSnapshot amend.instId)
      (request (.amendOrder body)).attempt

/-- `amend_order`, with the same lookup. -/
def amendOrder (amend : OkxOrderAmend) : ClientTask OkxOrderAck := do
  let _ ← perform (.validatedOrderRoute amend.instId)
  failing amend.validate
  match ← submitAmend amend with
  | .error err => reconcileOrderAmendFailure amend err
  | .ok acknowledgements => do
      let acknowledgement ← failing (singleOrderAck acknowledgements amend.clientOrderId "amend")
      if acknowledgement.statusCode ≠ ['0'] then
        reconcileOrderAmendFailure amend (orderAckRejection acknowledgement)
      else
        match ← (order amend.instId amend.clientOrderId).attempt with
        | .ok (some order) => do
            failing (verifyReconciledOrderAmend order amend)
            return reconciledOrderAck order
        | .ok none =>
            fail "OKX order amend was accepted but confirmation lookup did not find the order"
        | .error lookupErr => Task.stop (lookupErr.context
            "OKX order amend was accepted but confirmation lookup failed")

/-- `place_trigger_order`. -/
def placeTriggerOrder (instId : Text) (side : OrderSide) (size triggerPrice : DecimalText)
    (clientOrderId : Text) : ClientTask OkxAlgoAckRow := do
  let (tdMode, tradeQuoteCurrency) ← perform (.validatedOrderRoute instId)
  perform (.ensureFreshInstrumentHintMatchesSnapshot instId)
  let submitted ← (request (.orderAlgo
    { instId, tdMode, side, sz := size, triggerPrice, tradeQuoteCurrency, clientOrderId })).attempt
  match submitted with
  | .error err => reconcileAlgoSubmitFailure instId side size triggerPrice clientOrderId err
  | .ok acknowledgements => do
      let acknowledgement ←
        failing (singleAlgoAckByClientOrderId acknowledgements clientOrderId "algo order")
      let err := OkxError.failed "OKX algo order rejected"
      if acknowledgement.statusCode = ['0'] then return acknowledgement
      else if acknowledgement.statusCode = "51065".toList then
        reconcileAlgoSubmitFailure instId side size triggerPrice clientOrderId err
      else Task.stop err

/-- `cancel_algo_order`: a refusal counts as success where nothing is left to cancel. -/
def cancelAlgoOrder (instId algoId : Text) : ClientTask Unit := do
  let _ ← perform (.validatedOrderRoute instId)
  match ← (request (.cancelAlgos instId algoId)).attempt with
  | .error error =>
      if error.hasApiCode ['1'] then
        match ← (algoCancelTargetIsTerminalOrMissing instId algoId).attempt with
        | .ok true => return ()
        | .ok false => Task.stop (error.context
            "OKX cancel algo returned an aggregate API error while REST still reports it live")
        | .error _ => Task.stop (error.context
            "OKX cancel algo returned an aggregate API error and REST reconciliation failed")
      else Task.stop error
  | .ok acknowledgements => do
      let acknowledgement ← failing (singleAlgoAckByAlgoId acknowledgements algoId "cancel algo")
      if acknowledgement.statusCode = ['0'] then return ()
      else if ← algoCancelTargetIsTerminalOrMissing instId algoId then return ()
      else fail "OKX cancel algo rejected"

/-- The value of the `expTime` header of a trade command. -/
def okxOrderExpiryWindowMs : ℤ := 2000

/-- What has to hold before an order goes over the session, and until when it may wait. -/
def prepareWebsocketPlaceOrder (instId : Text) (side : OrderSide) (kind : OrderKind)
    (price : Option DecimalText) : ClientTask ℤ := do
  failing (ensure (kind = .limit ∨ kind = .postOnly)
    "OKX WebSocket place preparation supports only limit or post-only orders")
  let some price := price | fail "OKX WebSocket limit/post-only order requires px"
  request (.reserve spotInstrumentPath instId)
  perform (.ensureFreshInstrumentHintMatchesSnapshot instId)
  ensureFreshSpotOrderPrice instId side price "OKX WebSocket order px"
  return (← request .privateRequestTiming) + okxOrderExpiryWindowMs

/-- A cancellation only waits for its turn under the rate limit. -/
def prepareWebsocketCancelOrder (instId : Text) : ClientTask Unit :=
  request (.reserve cancelOrderPath instId)

/-- What has to hold before an amendment goes over the session. -/
def prepareWebsocketAmendOrder (instId : Text) (side : OrderSide)
    (newPrice : Option DecimalText) : ClientTask ℤ := do
  request (.reserve amendOrderPath instId)
  perform (.ensureFreshInstrumentHintMatchesSnapshot instId)
  match newPrice with
  | none => pure ()
  | some newPrice => ensureFreshSpotOrderPrice instId side newPrice "OKX WebSocket amend newPx"
  return (← request .privateRequestTiming) + okxOrderExpiryWindowMs

/-! ## Capabilities -/

/-- `balances`, each row checked. -/
def balances : ClientTask (List OkxBalanceRow) := do
  let balances ← request .accountBalance
  failing (balances.forM OkxBalanceRow.validate)
  return balances

/-- `account_config`: the level is observed at once, and a failure revokes every validation. -/
def accountConfig : ClientTask OkxAccountConfig := do
  let result ← Task.attempt (do
    let configs ← request .accountConfig
    let config ← failing (single configs "OKX returned account configuration rows")
    let _ ← perform (.observeAccountLevelDiagnostic config)
    return config)
  match result with
  | .ok config => return config
  | .error error => do
      perform .revokeCapabilityGenerations
      Task.stop error

/-- The fees of the instrument's group. -/
def spotTradeFeeForGroup (instId expectedGroupId : Text) : ClientTask OkxTradeFeeRate := do
  let instType ← perform (.instrumentTypeForFeeGroup instId expectedGroupId)
  let fees ← request (.tradeFee instType instId)
  let fee ← failing (single fees "OKX returned SPOT fee-rate rows")
  failing (fee.intoSpotGroupRate expectedGroupId)

/-- `spot_trade_fee`. -/
def spotTradeFee (instId : Text) : ClientTask OkxTradeFeeRate := do
  spotTradeFeeForGroup instId (← perform (.instrumentFeeGroupId instId))

/-- `maximum_order_size`: the row of the instrument, and of no other. -/
def maximumOrderSize (instId tdMode : Text) (price : DecimalText) (tradeQuoteCurrency : Text) :
    ClientTask OkxMaximumOrderSize := do
  let _ ← failing (parsePositiveDecimalField "OKX maximum order size px" price)
  failing (ensure (Text.isBlank tradeQuoteCurrency = false)
    "OKX maximum order size tradeQuoteCcy must not be empty")
  let rows ← request (.maxSize instId tdMode price tradeQuoteCurrency)
  let row ← failing (single rows "OKX returned maximum order size rows")
  failing (ensure (row.instId = instId) "OKX maximum order size returned another instId")
  let _ ← failing row.maxBuyBase
  let _ ← failing row.maxSellQuote
  return row

/-- `maximum_available_size`: the row of the instrument, and of no other. -/
def maximumAvailableSize (instId tdMode tradeQuoteCurrency : Text) :
    ClientTask OkxMaximumAvailableSize := do
  failing (ensure (Text.isBlank tradeQuoteCurrency = false)
    "OKX maximum available size tradeQuoteCcy must not be empty")
  let rows ← request (.maxAvailSize instId tdMode tradeQuoteCurrency)
  let row ← failing (single rows "OKX returned maximum available size rows")
  failing (ensure (row.instId = instId) "OKX maximum available size returned another instId")
  let _ ← failing row.availableBuyQuote
  let _ ← failing row.availableSellBase
  return row

/-- The account's row of the instrument that was requested. -/
def requestedAccountInstrument (requested : RequestedTradingInstrument) :
    ClientTask OkxInstrument := do
  let instType := requested.instType.asOkx
  let exact : List OkxInstrument → List OkxInstrument := List.filter fun row =>
    decide (row.instId = requested.instrument)
  let rows := exact (← request (.accountInstruments instType (some requested.instrument)))
  let rows ← if rows = [] then do pure (exact (← request (.accountInstruments instType none)))
    else pure rows
  failing (single rows "OKX account instruments returned exact rows")

/-- The evidence of `validate_trading_instrument_generation`, up to the check of the whole. -/
def tradingInstrumentEvidence (requested : RequestedTradingInstrument)
    (accountConfig : OkxAccountConfig) (evidenceStartedAt : Instant) :
    ClientTask ValidatedTradingContext := do
  let publicRow ← instrumentForType requested.instType.asOkx requested.instrument
  let account ← requestedAccountInstrument requested
  let ticker ← startupTicker requested.instrument
  let price ← failing ticker.lastDecimal
  let tradeQuoteCcy := publicRow.quoteCcy
  let quoteUsdRate ← if ← failing publicRow.hasUsdOrderAmountLimit
    then some <$> quoteUsdRateForQuote tradeQuoteCcy else pure none
  let maximum ← maximumOrderSize requested.instrument requested.tdMode.asOkx ticker.last
    tradeQuoteCcy
  let available ← maximumAvailableSize requested.instrument requested.tdMode.asOkx tradeQuoteCcy
  let balances ← balances
  let now ← perform .now
  failing (ensure (now - evidenceStartedAt ≤ okxTradingTupleEvidenceMaxAgeMs)
    "OKX requested trading tuple evidence became stale before startup validation completed")
  failing (ValidatedTradingContext.fromExchangeEvidence requested
    { publicRow, account, accountConfig, price, maximum, available, balances, quoteUsdRate })

/-- `validate_trading_instrument_generation`, up to the caching of the generation. -/
def gatherCapabilityGeneration (requested : RequestedTradingInstrument)
    (accountConfig : OkxAccountConfig) : ClientTask ValidatedCapabilityGeneration := do
  let evidenceStartedAt ← perform .now
  let requestedCapability ← failing (RequestedCapability.fromTradingInstrument requested)
  let accountLevel ← perform (.matchingObservedAccountLevelDiagnostic accountConfig)
  let validated ← tradingInstrumentEvidence requested accountConfig evidenceStartedAt
  let groupId ← failing validated.instrument.feeGroupId
  let fee ← spotTradeFeeForGroup validated.instrument.instId groupId
  let now ← perform .now
  failing (ValidatedCapabilityGeneration.cashSpot requestedCapability validated accountLevel fee
    okxTradingTupleEvidenceMaxAgeMs now)

/-- A validation from the answers gathered now, remembered. -/
def validateTradingInstrumentGeneration (requested : RequestedTradingInstrument)
    (accountConfig : OkxAccountConfig) : ClientTask ValidatedCapabilityGeneration := do
  let generation ← gatherCapabilityGeneration requested accountConfig
  perform (.rememberValidatedCapabilityGeneration generation)
  return generation

/-- `validate_trading_instrument`, with the errors it adds. -/
def validateTradingInstrument (requested : RequestedTradingInstrument)
    (accountConfig : OkxAccountConfig) : ClientTask ValidatedCapabilityGeneration := do
  match ← (validateTradingInstrumentGeneration requested accountConfig).attempt with
  | .ok generation => return generation
  | .error error => do
      perform .revokeCapabilityGenerations
      Task.stop error

/-! ## All calls beside each other -/

/-- The calls of the client that run beside each other. -/
inductive ClientCall where
  | instruments (instType instId : Text)
  | ticker (instId : Text)
  | placeOrder (instId : Text) (side : OrderSide) (kind : OrderKind) (size : DecimalText)
      (price : Option DecimalText) (clientOrderId : Text)
  | amendOrder (amend : OkxOrderAmend)
  | placeTriggerOrder (instId : Text) (side : OrderSide) (size triggerPrice : DecimalText)
      (clientOrderId : Text)
  | cancelOrder (instId clientOrderId : Text)
  | cancelAlgoOrder (instId algoId : Text)
  | prepareWebsocketPlaceOrder (instId : Text) (side : OrderSide) (kind : OrderKind)
      (price : Option DecimalText)
  | prepareWebsocketAmendOrder (instId : Text) (side : OrderSide) (newPrice : Option DecimalText)
  | prepareWebsocketCancelOrder (instId : Text)
  | websocketOrderRoute (instId : Text)
  | order (instId clientOrderId : Text)
  | balances
  | spotTradeFee (instId : Text)
  | accountConfig
  | validateTradingInstrument (requested : RequestedTradingInstrument)
      (accountConfig : OkxAccountConfig)
  deriving DecidableEq

/-- A call whose value nobody looks at any more. -/
def discardValue {α : Type} (task : ClientTask α) : ClientTask Unit := do
  let _ ← task
  return ()

/-- The task of a call; what it returns does not matter here. -/
def ClientCall.task : ClientCall → ClientTask Unit
  | .instruments instType instId => discardValue (instrumentForType instType instId)
  | .ticker instId => discardValue (OkxTrading.ticker instId)
  | .placeOrder instId side kind size price clientOrderId =>
      discardValue (OkxTrading.placeOrder instId side kind size price clientOrderId)
  | .amendOrder amend => discardValue (OkxTrading.amendOrder amend)
  | .placeTriggerOrder instId side size triggerPrice clientOrderId =>
      discardValue (OkxTrading.placeTriggerOrder instId side size triggerPrice clientOrderId)
  | .cancelOrder instId clientOrderId => OkxTrading.cancelOrder instId clientOrderId
  | .cancelAlgoOrder instId algoId => OkxTrading.cancelAlgoOrder instId algoId
  | .prepareWebsocketPlaceOrder instId side kind price =>
      discardValue (OkxTrading.prepareWebsocketPlaceOrder instId side kind price)
  | .prepareWebsocketAmendOrder instId side newPrice =>
      discardValue (OkxTrading.prepareWebsocketAmendOrder instId side newPrice)
  | .prepareWebsocketCancelOrder instId => OkxTrading.prepareWebsocketCancelOrder instId
  | .websocketOrderRoute instId => discardValue (perform (.validatedOrderRoute instId))
  | .order instId clientOrderId => discardValue (OkxTrading.order instId clientOrderId)
  | .balances => discardValue OkxTrading.balances
  | .spotTradeFee instId => discardValue (OkxTrading.spotTradeFee instId)
  | .accountConfig => discardValue OkxTrading.accountConfig
  | .validateTradingInstrument requested config =>
      discardValue (OkxTrading.validateTradingInstrument requested config)

/-- What happens beside the calls. -/
inductive ClientEvent where
  | elapse (ms : ℕ)
  | publicInstruments (walks : ℕ → InstrumentHintWalk) (message : PublicInstrumentsMessage)
  | readiness (ready : Bool)
  /-- The engine takes the next event; where it may not dispatch, the event is dropped. -/
  | takePublicRuntimeEvent

/-- What happens beside the calls: time passes, and messages reach the caches. -/
def clientOutside (s : ClientState) : ClientEvent → Option ClientState
  | .elapse ms => some { s with now := s.now + ms }
  | .publicInstruments walks message =>
      if message.receivedAt ≤ s.now then some (applyPublicInstruments walks message s) else none
  | .readiness ready => some { s with dispatchReady := ready }
  | .takePublicRuntimeEvent =>
      match s.publicRuntimeEvents with
      | [] => none
      | instId :: rest =>
          some { s with
            publicRuntimeEvents := rest
            dispatchedUpdates :=
              if s.dispatchReady then s.dispatchedUpdates ++ [instId] else s.dispatchedUpdates }

/-- The client as calls over one shared state. -/
def clientSystem : System OkxError ClientState ClientEvent ClientCall ClientRequest
    ClientRequest.Reply where
  segment
    | .inl op => some op.run
    | .inr _ => none
  outside := clientOutside
  program := ClientCall.task

abbrev ClientPool := Pool OkxError ClientState ClientCall ClientRequest ClientRequest.Reply
abbrev ClientTurn := Turn ClientEvent ClientCall ClientRequest ClientRequest.Reply

end OkxTrading
