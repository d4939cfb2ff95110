import OkxTrading.Okx.RestClient

/-!
# What the calls ask

For a set of segments, a call of the client asks only what the set allows: one lemma for each
function of `okx/client.rs`.  Few segments tell the calls apart: the checks of the metadata of one
instrument, and the caching of a generation.

* `Asks` — whatever it is answered, the task performs only segments of the set.
* `ClientOp.plain` — the segments that every set considered here has.
* `AdmitsChecks` — the set has the metadata checks of an instrument.
-/

namespace OkxTrading

open Effect

/-- The segments that are about no metadata latch and cache no generation. -/
def ClientOp.plain : ClientOp → Bool
  | .ensureInstrumentMetadataSafetyLatchClear _ => false
  | .latchInstrumentMetadataFailure _ _ => false
  | .ensureFreshInstrumentHintMatchesSnapshot _ => false
  | .ensureFreshInstrumentHintMatchesRestSnapshot _ => false
  | .rememberValidatedCapabilityGeneration _ => false
  | _ => true

/-- The segments that are about the metadata of the instrument. -/
structure AdmitsChecks (A : ClientOp → Prop) (instId : Text) : Prop where
  clear : A (.ensureInstrumentMetadataSafetyLatchClear instId)
  latch : ∀ error, A (.latchInstrumentMetadataFailure instId error)
  check : A (.ensureFreshInstrumentHintMatchesSnapshot instId)
  row : ∀ row, row.instId = instId → A (.ensureFreshInstrumentHintMatchesRestSnapshot row)

/-- The segment the request stands for is in the set. -/
def SegmentIn (A : ClientOp → Prop) : ClientRequest → Prop
  | .inl op => A op
  | .inr _ => True

variable {α β : Type} {A : ClientOp → Prop}

/-- Whatever it is answered, the task performs only segments of the set. -/
abbrev Asks (A : ClientOp → Prop) (task : ClientTask α) : Prop :=
  task.Upholds (fun _ _ => True) (SegmentIn A) fun _ => True

theorem asks_pure (a : α) : Asks A (pure a : ClientTask α) := trivial

theorem asks_stop (e : OkxError) : Asks A (Task.stop e : ClientTask α) := trivial

theorem asks_fail (message : Message) : Asks A (fail message : ClientTask α) := trivial

theorem asks_failing (x : Result α) : Asks A (failing x) := trivial

theorem asks_request (query : RestRequest) : Asks A (request query) :=
  request_upholds trivial fun _ => trivial

theorem asks_perform {op : ClientOp} (h : A op) : Asks A (perform op) :=
  perform_upholds h fun _ _ => trivial

theorem Asks.bind {x : ClientTask α} {f : α → ClientTask β} (hx : Asks A x)
    (hf : ∀ a, Asks A (f a)) : Asks A (x >>= f) :=
  Task.Upholds.bind hx (fun a _ => hf a) fun _ _ => trivial

theorem Asks.map {x : ClientTask α} (f : α → β) (hx : Asks A x) :
    Asks A (f <$> x) :=
  hx.bind fun _ => asks_pure _

theorem Asks.attempt {x : ClientTask α} (hx : Asks A x) : Asks A x.attempt :=
  (Task.Upholds.attempt hx).mono (fun _ _ h => h) (fun _ h => h) fun _ _ => trivial

/-! ## Requests only -/

theorem asks_order (other clientOrderId : Text) :
    Asks A (order other clientOrderId) := by
  refine .bind (asks_request _).attempt fun reply => ?_
  split
  · split
    · exact asks_pure _
    · exact asks_stop _
  · exact asks_pure _
  · exact .bind (asks_failing _) fun _ => asks_pure _
  · exact asks_fail _

theorem asks_reconcileOrderSubmit (requested : OkxOrderSubmitReconciliation) (e : OkxError) :
    Asks A (reconcileOrderSubmitFailure requested e) := by
  refine .bind (asks_order _ _).attempt fun reply => ?_
  split
  · split
    · exact asks_pure _
    · exact asks_stop _
  · exact asks_stop _
  · exact asks_stop _

theorem asks_reconcileOrderAmend (amend : OkxOrderAmend) (e : OkxError) :
    Asks A (reconcileOrderAmendFailure amend e) := by
  refine .bind (asks_order _ _).attempt fun reply => ?_
  split
  · split
    · exact asks_pure _
    · exact asks_stop _
  · exact asks_stop _
  · exact asks_stop _

theorem asks_algoLookup (other clientOrderId : Text) :
    Asks A (algoOrderByClientOrderId other clientOrderId) := by
  refine .bind (asks_request _) fun orders => ?_
  split
  · exact asks_pure _
  · exact .bind (asks_failing _) fun _ => .bind (asks_failing _) fun _ => asks_pure _
  · exact asks_fail _

theorem asks_reconcileAlgoSubmit (other : Text) (side : OrderSide)
    (size triggerPrice : DecimalText) (clientOrderId : Text) (e : OkxError) :
    Asks A (reconcileAlgoSubmitFailure other side size triggerPrice clientOrderId e) := by
  refine .bind (asks_algoLookup _ _).attempt fun reply => ?_
  split
  · split
    · exact asks_pure _
    · exact asks_stop _
  · exact asks_stop _
  · exact asks_stop _

theorem asks_cancelTarget (other clientOrderId : Text) :
    Asks A (orderCancelTargetIsTerminalOrMissing other clientOrderId) := by
  refine .bind (asks_order _ _) fun found => ?_
  split <;> exact asks_pure _

theorem asks_algoCancelTarget (other algoId : Text) :
    Asks A (algoCancelTargetIsTerminalOrMissing other algoId) := by
  refine .bind (asks_request _) fun orders => ?_
  split
  · exact asks_pure _
  · refine .bind (asks_request _) fun found => ?_
    split <;> exact asks_pure _

theorem asks_retryStale {evidence : ClientTask α} (h : Asks A evidence) (attempts : ℕ) :
    Asks A (retryStale evidence attempts) := by
  induction attempts with
  | zero => exact h
  | succ attempts ih =>
      refine .bind h.attempt fun reply => ?_
      split
      · exact asks_pure _
      · split
        · exact .bind (asks_request _) fun _ => ih
        · exact asks_stop _

theorem asks_freshTimestamp (context : Message) (generatedAtMs serverNowMs : ℤ)
    (maxStaleness : ℕ) :
    Asks A (ensureFreshRestTimestamp context generatedAtMs serverNowMs maxStaleness) := by
  refine .bind (asks_failing _) fun ageMs => ?_
  split
  · exact asks_pure _
  · exact asks_stop _

theorem asks_quoteUsdRate (quoteCcy : Text) : Asks A (quoteUsdRateForQuote quoteCcy) := by
  unfold quoteUsdRateForQuote
  split
  · exact asks_failing _
  · refine asks_retryStale (.bind (asks_request _) fun rows => .bind (asks_failing _)
      fun row => .bind (asks_failing _) fun rate => .bind (asks_request _)
      fun serverNowMs => ?_) _
    split
    · exact .bind (asks_freshTimestamp _ _ _ _) fun _ => asks_pure _
    · exact asks_fail _

theorem asks_balances : Asks A balances :=
  .bind (asks_request _) fun _ => .bind (asks_failing _) fun _ => asks_pure _

theorem asks_maximumOrderSize (other tdMode : Text) (price : DecimalText)
    (tradeQuoteCurrency : Text) :
    Asks A (maximumOrderSize other tdMode price tradeQuoteCurrency) :=
  .bind (asks_failing _) fun _ => .bind (asks_failing _) fun _ =>
    .bind (asks_request _) fun _ => .bind (asks_failing _) fun _ =>
    .bind (asks_failing _) fun _ => .bind (asks_failing _) fun _ =>
    .bind (asks_failing _) fun _ => asks_pure _

theorem asks_maximumAvailableSize (other tdMode tradeQuoteCurrency : Text) :
    Asks A (maximumAvailableSize other tdMode tradeQuoteCurrency) :=
  .bind (asks_failing _) fun _ => .bind (asks_request _) fun _ =>
    .bind (asks_failing _) fun _ => .bind (asks_failing _) fun _ =>
    .bind (asks_failing _) fun _ => .bind (asks_failing _) fun _ => asks_pure _

theorem asks_requestedAccount (requested : RequestedTradingInstrument) :
    Asks A (requestedAccountInstrument requested) := by
  refine .bind (asks_request _) fun rows => ?_
  dsimp only
  split
  · exact .bind (asks_request _) fun _ => .bind (asks_pure _) fun _ => asks_failing _
  · exact .bind (asks_pure _) fun _ => asks_failing _

/-! ## Calls without metadata checks -/

section Plain

variable (hA : ∀ op : ClientOp, op.plain = true → A op)

include hA

theorem asks_cancelOrder (other clientOrderId : Text) :
    Asks A (cancelOrder other clientOrderId) := by
  refine .bind (asks_perform (hA _ rfl)) fun _ => .bind (asks_request _).attempt fun reply => ?_
  split
  · split
    · refine .bind (asks_cancelTarget _ _) fun gone => ?_
      split
      · exact asks_pure _
      · exact asks_stop _
    · exact asks_stop _
  · refine .bind (asks_failing _) fun acknowledgement => ?_
    split
    · exact asks_pure _
    · refine .bind (asks_cancelTarget _ _) fun gone => ?_
      split
      · exact asks_pure _
      · exact asks_stop _

theorem asks_cancelAlgoOrder (other algoId : Text) :
    Asks A (cancelAlgoOrder other algoId) := by
  refine .bind (asks_perform (hA _ rfl)) fun _ => .bind (asks_request _).attempt fun reply => ?_
  split
  · split
    · refine .bind (asks_algoCancelTarget _ _).attempt fun gone => ?_
      split
      · exact asks_pure _
      · exact asks_stop _
      · exact asks_stop _
    · exact asks_stop _
  · refine .bind (asks_failing _) fun acknowledgement => ?_
    split
    · exact asks_pure _
    · refine .bind (asks_algoCancelTarget _ _) fun gone => ?_
      split
      · exact asks_pure _
      · exact asks_fail _

theorem asks_tradeFeeForGroup (other expectedGroupId : Text) :
    Asks A (spotTradeFeeForGroup other expectedGroupId) :=
  .bind (asks_perform (hA _ rfl)) fun _ => .bind (asks_request _) fun _ =>
    .bind (asks_failing _) fun _ => asks_failing _

theorem asks_accountConfig : Asks A accountConfig := by
  refine .bind (Asks.attempt (.bind (asks_request _) fun configs =>
    .bind (asks_failing _) fun config => .bind (asks_perform (hA _ rfl)) fun _ =>
    asks_pure _)) fun reply => ?_
  split
  · exact asks_pure _
  · exact .bind (asks_perform (hA _ rfl)) fun _ => asks_stop _

/-! ## Calls with metadata checks -/

section Checks

variable {other : Text} (h : AdmitsChecks A other)

include h

theorem asks_price (side : OrderSide) (price : DecimalText) (context : Message) :
    Asks A (ensureFreshSpotOrderPrice other side price context) := by
  have hlimit : Asks A (freshSpotPriceLimit other) := by
    refine .bind (asks_perform (hA _ rfl)) fun _ => .bind (asks_perform h.check) fun _ =>
      .bind (asks_request _) fun _ => .bind (asks_request _) fun rows =>
      .bind (asks_failing _) fun row => .bind (asks_request _) fun serverNowMs => ?_
    split
    · exact .bind (asks_perform (hA _ rfl)) fun _ => asks_failing _
    · exact asks_fail _
  exact .bind (asks_failing _) fun _ => .bind hlimit fun _ => asks_failing _

omit hA in
theorem asks_ticker (maxStaleness : ℕ) : Asks A (tickerWithMaxAge other maxStaleness) := by
  refine .bind (asks_perform h.check) fun _ => .bind (asks_request _) fun cached => ?_
  split
  · exact asks_pure _
  · refine .bind (asks_request _) fun tickers => .bind (asks_failing _) fun restTicker =>
      .bind (asks_failing _) fun _ => .bind (asks_failing _) fun _ =>
      .bind (asks_failing _) fun _ => .bind (asks_request _) fun serverNowMs => ?_
    split
    · split
      · refine .bind (.bind (asks_failing _) fun ageMs => ?_) fun _ => asks_pure _
        split
        · exact asks_pure _
        · exact asks_stop _
      · exact asks_fail _
    · exact asks_fail _

theorem asks_instrumentResponse (instType : Text) (validated : Option ValidatedTradingContext)
    (rows : List OkxInstrument) :
    Asks A (validateInstrumentResponse instType other validated rows) := by
  refine Task.Upholds.bind (P := fun r => ∀ row, r = .ok row → row.instId = other) (.ofExcept ?_)
    (fun row hrow => ?_) fun _ _ => trivial
  · intro row hrow
    exact checkInstrumentResponse_instId (mapError_eq_ok.1 hrow)
  · refine Asks.bind (asks_perform (h.row row (hrow row rfl))) fun _ => ?_
    cases validated with
    | none => exact .bind (asks_perform (hA _ rfl)) fun _ => asks_pure _
    | some validated =>
        exact .bind (asks_failing _) fun _ => .bind (asks_perform (hA _ rfl)) fun _ =>
          asks_pure _

theorem asks_instruments (instType : Text) :
    Asks A (instrumentForType instType other) := by
  refine .bind (asks_perform h.clear) fun _ => .bind (asks_perform (hA _ rfl)) fun validated =>
    .bind (asks_request _) fun rows =>
    .bind (asks_instrumentResponse hA h instType validated rows).attempt fun checked => ?_
  split
  · exact asks_pure _
  · split
    · exact .bind (asks_perform (h.latch _)) fun _ => asks_fail _
    · exact asks_stop _

theorem asks_place (side : OrderSide) (kind : OrderKind) (size : DecimalText)
    (price : Option DecimalText) (clientOrderId : Text) :
    Asks A (placeOrder other side kind size price clientOrderId) := by
  refine .bind (asks_perform (hA _ rfl)) fun route => .bind ?_ fun submitted => ?_
  · unfold submitOrder
    split
    · exact .bind (asks_perform h.check) fun _ => (asks_request _).attempt
    · split
      · exact .bind (asks_request _) fun _ => .bind (asks_perform h.check) fun _ =>
          .bind (asks_price hA h _ _ _) fun _ => (asks_request _).attempt
      · exact asks_fail _
  · split
    · exact asks_reconcileOrderSubmit _ _
    · split
      · exact asks_reconcileOrderSubmit _ _
      · split
        · exact asks_pure _
        · exact asks_reconcileOrderSubmit _ _

theorem asks_trigger (side : OrderSide) (size triggerPrice : DecimalText)
    (clientOrderId : Text) :
    Asks A (placeTriggerOrder other side size triggerPrice clientOrderId) := by
  refine .bind (asks_perform (hA _ rfl)) fun route => .bind (asks_perform h.check) fun _ =>
    .bind (asks_request _).attempt fun submitted => ?_
  split
  · exact asks_reconcileAlgoSubmit _ _ _ _ _ _
  · refine .bind (asks_failing _) fun acknowledgement => ?_
    split
    · exact asks_pure _
    · split
      · exact asks_reconcileAlgoSubmit _ _ _ _ _ _
      · exact asks_stop _

theorem asks_prepareWebsocketPlace (side : OrderSide) (kind : OrderKind)
    (price : Option DecimalText) :
    Asks A (prepareWebsocketPlaceOrder other side kind price) := by
  refine .bind (asks_failing _) fun _ => ?_
  split
  · exact .bind (asks_request _) fun _ => .bind (asks_perform h.check) fun _ =>
      .bind (asks_price hA h _ _ _) fun _ => .bind (asks_request _) fun _ => asks_pure _
  · exact asks_fail _

theorem asks_prepareWebsocketAmend (side : OrderSide) (newPrice : Option DecimalText) :
    Asks A (prepareWebsocketAmendOrder other side newPrice) := by
  have hrest : ∀ u : Unit, Asks A (do
      return (← request .privateRequestTiming) + okxOrderExpiryWindowMs) :=
    fun _ => .bind (asks_request _) fun _ => asks_pure _
  refine .bind (asks_request _) fun _ => .bind (asks_perform h.check) fun _ => ?_
  cases newPrice with
  | none => exact hrest ()
  | some newPrice => exact .bind (asks_price hA h _ _ _) hrest

end Checks

theorem asks_amend {amend : OkxOrderAmend} (h : AdmitsChecks A amend.instId) :
    Asks A (amendOrder amend) := by
  refine .bind (asks_perform (hA _ rfl)) fun _ => .bind (asks_failing _) fun _ =>
    .bind ?_ fun submitted => ?_
  · unfold submitAmend
    dsimp only
    split
    · exact .bind (asks_request _) fun _ => .bind (asks_perform h.check) fun _ =>
        .bind (asks_price hA h _ _ _) fun _ => (asks_request _).attempt
    · exact .bind (asks_perform h.check) fun _ => (asks_request _).attempt
  · split
    · exact asks_reconcileOrderAmend _ _
    · refine .bind (asks_failing _) fun acknowledgement => ?_
      split
      · exact asks_reconcileOrderAmend _ _
      · refine .bind (asks_order _ _).attempt fun found => ?_
        split
        · exact .bind (asks_failing _) fun _ => asks_pure _
        · exact asks_fail _
        · exact asks_stop _

theorem asks_evidence {requested : RequestedTradingInstrument}
    (h : AdmitsChecks A requested.instrument) (accountConfig : OkxAccountConfig)
    (startedAt : Instant) :
    Asks A (tradingInstrumentEvidence requested accountConfig startedAt) := by
  refine .bind (asks_instruments hA h _) fun publicRow => .bind (asks_requestedAccount _)
    fun account => .bind (asks_retryStale (asks_ticker h _) _) fun ticker =>
    .bind (asks_failing _) fun price => .bind (asks_failing _) fun hasLimit => ?_
  have hrest : ∀ rate, Asks A (do
      let maximum ← maximumOrderSize requested.instrument requested.tdMode.asOkx ticker.last
        publicRow.quoteCcy
      let available ← maximumAvailableSize requested.instrument requested.tdMode.asOkx
        publicRow.quoteCcy
      let balances ← balances
      let now ← perform .now
      failing (ensure (now - startedAt ≤ okxTradingTupleEvidenceMaxAgeMs)
        "OKX requested trading tuple evidence became stale before startup validation completed")
      failing (ValidatedTradingContext.fromExchangeEvidence requested
        ⟨publicRow, account, accountConfig, price, maximum, available, balances, rate⟩)) := by
    intro rate
    exact .bind (asks_maximumOrderSize _ _ _ _) fun _ =>
      .bind (asks_maximumAvailableSize _ _ _) fun _ => .bind asks_balances fun _ =>
      .bind (asks_perform (hA _ rfl)) fun _ => .bind (asks_failing _) fun _ =>
      asks_failing _
  split
  · exact .bind ((asks_quoteUsdRate _).map some) hrest
  · exact .bind (asks_pure _) hrest

/-- The evidence that is gathered is of the instrument that was requested. -/
theorem gather_upholds {requested : RequestedTradingInstrument}
    (h : AdmitsChecks A requested.instrument) (accountConfig : OkxAccountConfig) :
    (gatherCapabilityGeneration requested accountConfig).Upholds (fun _ _ => True) (SegmentIn A)
      fun r => ∀ generation, r = .ok generation →
        generation.context.instrument.instId = requested.instrument := by
  have herr : ∀ (e : OkxError) (generation : ValidatedCapabilityGeneration),
      Except.error e = .ok generation →
        generation.context.instrument.instId = requested.instrument := fun _ _ h => by cases h
  have hcapability : (failing (RequestedCapability.fromTradingInstrument requested)).Upholds
      (fun _ _ => True) (SegmentIn A) fun r => ∀ c, r = .ok c → c = ⟨requested⟩ := by
    refine .ofExcept fun c hc => ?_
    simp only [mapError_eq_ok, RequestedCapability.fromTradingInstrument, bind_eq_ok,
      pure_eq_ok] at hc
    obtain ⟨_, -, rfl⟩ := hc
    rfl
  refine .bind (asks_perform (hA _ rfl)) (fun startedAt _ => ?_) fun e _ => herr e
  refine .bind hcapability (fun capability hc => ?_) fun e _ => herr e
  refine .bind (asks_perform (hA _ rfl)) (fun accountLevel _ => ?_) fun e _ => herr e
  refine .bind (asks_evidence hA h accountConfig startedAt) (fun validated _ => ?_) fun e _ =>
    herr e
  refine .bind (asks_failing _) (fun groupId _ => ?_) fun e _ => herr e
  refine .bind (asks_tradeFeeForGroup hA _ _) (fun fee _ => ?_) fun e _ => herr e
  refine .bind (asks_perform (hA _ rfl)) (fun now _ => .ofExcept fun generation hg => ?_)
    fun e _ => herr e
  rw [(ValidatedCapabilityGeneration.cashSpot_instId (mapError_eq_ok.1 hg)).1, hc capability rfl]

theorem asks_gather {requested : RequestedTradingInstrument}
    (h : AdmitsChecks A requested.instrument) (accountConfig : OkxAccountConfig) :
    Asks A (gatherCapabilityGeneration requested accountConfig) :=
  (gather_upholds hA h accountConfig).mono (fun _ _ h => h) (fun _ h => h) fun _ _ => trivial

theorem asks_validate {requested : RequestedTradingInstrument}
    (h : AdmitsChecks A requested.instrument)
    (hcaches : ∀ generation, A (.rememberValidatedCapabilityGeneration generation))
    (accountConfig : OkxAccountConfig) :
    Asks A (validateTradingInstrument requested accountConfig) := by
  refine .bind (Asks.attempt (.bind (asks_gather hA h accountConfig) fun generation =>
    .bind (asks_perform (hcaches generation)) fun _ => asks_pure _)) fun reply => ?_
  split
  · exact asks_pure _
  · exact .bind (asks_perform (hA _ rfl)) fun _ => asks_stop _

/-- The instrument whose metadata the call checks. -/
def ClientCall.checkedInstId : ClientCall → Option Text
  | .instruments _ instId => some instId
  | .ticker instId => some instId
  | .placeOrder instId _ _ _ _ _ => some instId
  | .amendOrder amend => some amend.instId
  | .placeTriggerOrder instId _ _ _ _ => some instId
  | .prepareWebsocketPlaceOrder instId _ _ _ => some instId
  | .prepareWebsocketAmendOrder instId _ _ => some instId
  | .validateTradingInstrument requested _ => some requested.instrument
  | _ => none

/-- **What a call asks**: its checks are of one instrument, and only a validation caches. -/
theorem asks_task {call : ClientCall}
    (hchecks : ∀ instId, call.checkedInstId = some instId → AdmitsChecks A instId)
    (hcaches : ∀ requested config, call = .validateTradingInstrument requested config →
      ∀ generation, A (.rememberValidatedCapabilityGeneration generation)) :
    Asks A call.task := by
  have hdiscard : ∀ {α : Type} {task : ClientTask α}, Asks A task → Asks A (discardValue task) :=
    fun htask => htask.bind fun _ => asks_pure _
  cases call with
  | instruments => exact hdiscard (asks_instruments hA (hchecks _ rfl) _)
  | ticker =>
      exact hdiscard (.bind (asks_perform (hA _ rfl)) fun _ => asks_ticker (hchecks _ rfl) _)
  | placeOrder => exact hdiscard (asks_place hA (hchecks _ rfl) _ _ _ _ _)
  | amendOrder => exact hdiscard (asks_amend hA (hchecks _ rfl))
  | placeTriggerOrder => exact hdiscard (asks_trigger hA (hchecks _ rfl) _ _ _ _)
  | cancelOrder => exact asks_cancelOrder hA _ _
  | cancelAlgoOrder => exact asks_cancelAlgoOrder hA _ _
  | prepareWebsocketPlaceOrder =>
      exact hdiscard (asks_prepareWebsocketPlace hA (hchecks _ rfl) _ _ _)
  | prepareWebsocketAmendOrder =>
      exact hdiscard (asks_prepareWebsocketAmend hA (hchecks _ rfl) _ _)
  | prepareWebsocketCancelOrder => exact asks_request _
  | websocketOrderRoute => exact hdiscard (asks_perform (hA _ rfl))
  | order => exact hdiscard (asks_order _ _)
  | balances => exact hdiscard asks_balances
  | spotTradeFee =>
      exact hdiscard (.bind (asks_perform (hA _ rfl)) fun _ => asks_tradeFeeForGroup hA _ _)
  | accountConfig => exact hdiscard (asks_accountConfig hA)
  | validateTradingInstrument requested config =>
      exact hdiscard (asks_validate hA (hchecks _ rfl) (hcaches requested config rfl) _)

end Plain

end OkxTrading
