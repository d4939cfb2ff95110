import OkxTrading.Okx.TradingClient
import OkxTrading.Properties.AckCorrelation
import OkxTrading.Properties.AmbiguousSubmissions

/-!
# What a command may hand over

A command goes out over the WebSocket session or over REST, and over REST after the session failed
it without sending it.

* `step_leaves` — a command fails as not sent only before its frame is written, and as ambiguous
  only after it.
* `TradingCall.Submits` — the mutation is the one the call was asked for.
* `commandProtocol` — what a call may still hand over, depending on how its command ended.
* `Tame`, `HarmlessTask`, `PlainTask` — the parts of the calls that hand nothing over.
* `Recovers` — what a call makes of the end of its command.
* `task_follows` — every call keeps to its protocol, whatever it is answered.
-/

namespace OkxTrading

open Effect

/-! ## The session -/

/-- The frame of a command that ended like this was written. -/
def wasWritten : CommandOutcome → Bool
  | .error (.notSent _) => false
  | _ => true

namespace TradingSession

variable {session : TradingSession} {expected : OkxWebsocketExpectedOrderAck}
  {phase : CommandPhase}

/-- The command of the session reads its acknowledgement, or ended with its frame written; or
neither. -/
def Leaves (expected : OkxWebsocketExpectedOrderAck) (written : Bool)
    (result : TradingSession × Option CommandOutcome) : Prop :=
  (∃ phase, result.2 = none ∧ result.1.running = some (expected, phase) ∧
    decide (phase = .readingAck) = written) ∨
  ∃ outcome, result.2 = some outcome ∧ result.1.running = none ∧ wasWritten outcome = written

theorem leaves_wait : Leaves expected (decide (phase = .readingAck))
    (session.wait expected phase) :=
  .inl ⟨phase, rfl, rfl, rfl⟩

theorem leaves_finish (outcome : CommandOutcome) :
    Leaves expected (wasWritten outcome) (session.finish outcome) :=
  .inr ⟨outcome, rfl, rfl, rfl⟩

theorem readAck_leaves (session : TradingSession) (message : TradingMessage) :
    Leaves expected true (session.readAck expected message) := by
  cases message with
  | text payload =>
      cases payload with
      | pong => exact leaves_wait
      | malformed => exact leaves_finish _
      | json op response parsed =>
          simp only [readAck]
          split
          · exact leaves_finish (.ok _)
          · exact leaves_wait
          · exact leaves_finish (.error (.ambiguous _))
  | ping replied =>
      cases replied with
      | true => exact leaves_wait
      | false => exact leaves_finish (.error (.ambiguous _))
  | close => exact leaves_finish (.error (.ambiguous _))
  | pong | binary | frame => exact leaves_wait

theorem waitForTextPong_leaves (session : TradingSession) (message : TradingMessage) :
    Leaves expected false (session.waitForTextPong expected message) := by
  cases message with
  | text payload =>
      cases payload with
      | pong | malformed | json => exact leaves_wait
  | ping replied =>
      cases replied with
      | true => exact leaves_wait
      | false => exact leaves_finish (.error (.notSent _))
  | close => exact leaves_finish (.error (.notSent _))
  | pong | binary | frame => exact leaves_wait

/-- What happens to a command from outside. -/
def IsWire : SessionEvent → Prop
  | .sent _ => True
  | .arrival _ _ => True
  | .timeout => True
  | _ => False

/-- The event is the end of the send of the command's frame. -/
def writes : SessionEvent → CommandPhase → Bool
  | .sent true, .sending => true
  | _, _ => false

/-- **The frame of a command is written where its send succeeds**: what fails before that was not
sent, and what fails after it is in doubt. -/
theorem step_leaves {event : SessionEvent} (h : session.running = some (expected, phase))
    (hevent : IsWire event) :
    Leaves expected (decide (phase = .readingAck) || writes event phase) (session.step event) := by
  have hstays : ∀ written, decide (phase = .readingAck) = written →
      Leaves expected written (session, none) := fun written hwritten =>
    .inl ⟨phase, rfl, h, hwritten⟩
  cases event with
  | issue | call | abandon => exact hevent.elim
  | sent ok =>
      simp only [TradingSession.step, onSent, h]
      cases phase with
      | readingAck | idlePong => exact hstays _ (by cases ok <;> rfl)
      | idlePing =>
          cases ok with
          | true => exact leaves_wait
          | false => exact leaves_finish (.error (.notSent _))
      | sending =>
          cases ok with
          | true => exact leaves_wait
          | false => exact leaves_finish (.error (.notSent _))
  | timeout =>
      simp only [TradingSession.step, onTimeout, h]
      cases phase with
      | idlePong => exact leaves_finish (.error (.notSent _))
      | readingAck => exact leaves_finish (.error (.ambiguous _))
      | idlePing | sending => exact hstays _ rfl
  | arrival arrival now =>
      simp only [TradingSession.step, onArrival, h]
      cases phase with
      | idlePing | sending => exact hstays _ rfl
      | idlePong =>
          cases arrival with
          | message message => exact waitForTextPong_leaves _ _
          | readError | closed => exact leaves_finish (.error (.notSent _))
      | readingAck =>
          cases arrival with
          | message message => exact readAck_leaves _ _
          | readError | closed => exact leaves_finish (.error (.ambiguous _))

/-- A command that is called has not written its frame. -/
theorem call_leaves (h : session.running = none) (request : OkxWebsocketOrderRequest)
    (now : Instant) : Leaves (request.expected (nextWebsocketRequestId
      session.websocketRequestNonce request.operation request.clientOrderId).1) false
      (session.call request now) := by
  simp only [TradingSession.call, h]
  split
  · exact .inr ⟨_, rfl, rfl, rfl⟩
  · split <;> exact leaves_wait

end TradingSession

/-! ## What a call may hand over -/

/-- It goes over the session, or creates or amends an order over REST. -/
def Submission.counts : Submission → Bool
  | .websocket _ => true
  | .rest query => query.isExposure

/-- How often call `k` has handed something over. -/
def charged (k : ℕ) (log : List (ℕ × Submission)) : ℕ :=
  log.countP fun entry => decide (entry.1 = k) && entry.2.counts

namespace TradingCall

/-- The mutation is the one the call was asked for. -/
def Submits : TradingCall → Submission → Prop
  | .placeOrder command, .websocket (.place request) =>
      request.side = command.side ∧ request.kind = command.kind ∧
        request.size = command.size.text ∧ request.price = command.price.map (·.text) ∧
        request.clientOrderId = command.clientOrderId ∧ request.tag = okxCancelAllAfterTag.toList
  | .placeOrder command, .rest (.placeOrder body) =>
      body.instId = command.instId ∧ body.side = command.side ∧ body.orderType = command.kind ∧
        body.sz = command.size.decimal ∧ body.price = command.price.map (·.decimal) ∧
        body.targetCurrency = spotMarketTargetCurrency command.side command.kind ∧
        body.clientOrderId = command.clientOrderId
  | .amendOrder command, .websocket (.amend request) =>
      request.clientOrderId = command.clientOrderId ∧
        request.newSize = command.newSize.map (·.text) ∧
        request.newPrice = command.newPrice.map (·.text)
  | .amendOrder command, .rest (.amendOrder body) =>
      body = ⟨command.instId, command.clientOrderId, command.newSize.map (·.decimal),
        command.newPrice.map (·.decimal)⟩
  | .cancelOrder _ clientOrderId, .websocket (.cancel request) =>
      request.clientOrderId = clientOrderId
  | .rest (.placeOrder instId side kind size price clientOrderId), .rest (.placeOrder body) =>
      body.instId = instId ∧ body.side = side ∧ body.orderType = kind ∧ body.sz = size ∧
        body.price = price ∧ body.targetCurrency = spotMarketTargetCurrency side kind ∧
        body.clientOrderId = clientOrderId
  | .rest (.amendOrder amend), .rest (.amendOrder body) =>
      body = ⟨amend.instId, amend.clientOrderId, amend.newSize, amend.newPrice⟩
  | .rest (.placeTriggerOrder instId side size triggerPrice clientOrderId),
      .rest (.orderAlgo body) =>
      body.instId = instId ∧ body.side = side ∧ body.sz = size ∧
        body.triggerPrice = triggerPrice ∧ body.clientOrderId = clientOrderId
  | _, _ => False

end TradingCall

/-- How far a command has come. -/
inductive CommandState where
  | unsent
  /-- It has the session, or has had it and does not know yet how that ended. -/
  | begun
  | sent
  deriving DecidableEq, Repr

/-- It is no part of a command over the session. -/
def SessionFree : TradingRequest → Prop
  | .segment (.beginCommand _) => False
  | .segment .commandOutcome => False
  | _ => True

/-- A command is handed over once, and again only where its frame was not written. -/
def commandProtocol (own : Submission → Prop) :
    Task.Protocol TradingRequest TradingRequest.Reply CommandState where
  allows
    | .unsent, .segment .commandOutcome => False
    | .unsent, .segment (.beginCommand request) => own (.websocket request)
    | .unsent, .rest (.inr query) => query.isExposure = true → own (.rest query)
    | .unsent, _ => True
    | .begun, q => q = .segment .commandOutcome
    | .sent, .rest (.inr query) => query.isExposure = false
    | .sent, q => SessionFree q
  next
    | .unsent, .segment (.beginCommand _), .ok () => .begun
    | .unsent, .rest (.inr query), _ => if query.isExposure then .sent else .unsent
    | .begun, .segment .commandOutcome, outcome => if wasWritten outcome then .sent else .unsent
    | t, _, _ => t
  mayEnd t := t ≠ .begun

/-- A call hands over what it was asked for, and where it was asked for nothing, nothing. -/
abbrev TradingCall.protocol (call : TradingCall) :
    Task.Protocol TradingRequest TradingRequest.Reply CommandState :=
  commandProtocol call.Submits

/-! ## The calls of the REST client -/

/-- Nothing is created or amended. -/
def CreatesNothing : ClientRequest → Prop
  | .inl _ => True
  | .inr query => query.isExposure = false

/-- A command over REST is handed over once. -/
def restProtocol (own : RestRequest → Prop) :
    Task.Protocol ClientRequest ClientRequest.Reply CommandState where
  allows
    | .unsent, .inr query => query.isExposure = true → own query
    | .sent, .inr query => query.isExposure = false
    | t, _ => t ≠ .begun
  next
    | .unsent, .inr query, _ => if query.isExposure then .sent else .unsent
    | t, _, _ => t
  mayEnd t := t ≠ .begun

section Rest

variable {α β : Type} {own : RestRequest → Prop} {t : CommandState}

theorem neutral_of_createsNothing {q : ClientRequest} (h : CreatesNothing q) (ht : t ≠ .begun) :
    (restProtocol own).Neutral t q := by
  cases q with
  | inl op => cases t with
    | begun => exact absurd rfl ht
    | unsent | sent => exact ⟨ht, fun _ => rfl⟩
  | inr query => cases t with
    | begun => exact absurd rfl ht
    | unsent =>
        refine ⟨fun hexposure => ?_, fun _ => if_neg (ne_true_of_eq_false h)⟩
        rw [h] at hexposure
        cases hexposure
    | sent => exact ⟨h, fun _ => rfl⟩

/-- The task creates and amends nothing. -/
abbrev Tame (task : ClientTask α) : Prop :=
  task.Upholds anyAnswer CreatesNothing fun _ => True

theorem Tame.bind {x : ClientTask α} {f : α → ClientTask β} (hx : Tame x)
    (hf : ∀ a, Tame (f a)) : Tame (x >>= f) :=
  Task.Upholds.bind hx (fun a _ => hf a) fun _ _ => trivial

theorem Tame.attempt {x : ClientTask α} (hx : Tame x) : Tame x.attempt :=
  (Task.Upholds.attempt hx).mono (fun _ _ h => h) (fun _ h => h) fun _ _ => trivial

theorem Tame.follows {x : ClientTask α} (hx : Tame x) (ht : t ≠ .begun) :
    (restProtocol own).Follows t x :=
  Task.Protocol.follows_of_neutral ht
    (hx.mono (fun _ _ h => h) (fun _ h => neutral_of_createsNothing h ht) fun _ h => h)

/-- What creates nothing leaves the command to the rest. -/
theorem Tame.follows_bind {x : ClientTask α} {f : α → ClientTask β} (hx : Tame x)
    (ht : t ≠ .begun) (hf : ∀ a, (restProtocol own).Follows t (f a)) :
    (restProtocol own).Follows t (x >>= f) :=
  Task.Protocol.follows_bind ht
    (hx.mono (fun _ _ h => h) (fun _ h => neutral_of_createsNothing h ht) fun _ h => h)
    fun a _ => hf a

theorem tame_perform (op : ClientOp) : Tame (perform op) :=
  perform_upholds trivial fun _ _ => trivial

theorem tame_failing (x : Result α) : Tame (failing x) := .ofExcept trivial

theorem tame_request (query : RestRequest) (h : query.isExposure = false) : Tame (request query) :=
  request_upholds h fun _ => trivial

theorem tame_order (instId clientOrderId : Text) : Tame (order instId clientOrderId) := by
  refine .bind (tame_request (.order _ _) rfl).attempt fun reply => ?_
  split
  · split <;> trivial
  · trivial
  · exact .bind (tame_failing _) fun _ => trivial
  · trivial

theorem tame_reconcileOrderSubmit (requested : OkxOrderSubmitReconciliation) (err : OkxError) :
    Tame (reconcileOrderSubmitFailure requested err) := by
  refine .bind (tame_order _ _).attempt fun reply => ?_
  split
  · split <;> trivial
  · trivial
  · trivial

theorem tame_reconcileOrderAmend (amend : OkxOrderAmend) (err : OkxError) :
    Tame (reconcileOrderAmendFailure amend err) := by
  refine .bind (tame_order _ _).attempt fun reply => ?_
  split
  · split <;> trivial
  · trivial
  · trivial

theorem tame_settleOrder (requested : OkxOrderSubmitReconciliation)
    (response : Except OkxError (List OkxOrderAck)) :
    Tame (settleOrderSubmit requested response) := by
  unfold settleOrderSubmit
  split
  · exact tame_reconcileOrderSubmit _ _
  · split
    · exact tame_reconcileOrderSubmit _ _
    · split
      · trivial
      · exact tame_reconcileOrderSubmit _ _

theorem tame_reconcileAlgo (requested : AlgoSubmission) (err : OkxError) :
    Tame (reconcileAlgoSubmitFailure requested.instId requested.side requested.size
      requested.triggerPrice requested.clientOrderId err) := by
  have hlookup : Tame (algoOrderByClientOrderId requested.instId requested.clientOrderId) := by
    refine .bind (tame_request (.orderAlgoByClientOrderId _) rfl) fun rows => ?_
    split
    · trivial
    · exact .bind (tame_failing _) fun _ => .bind (tame_failing _) fun _ => trivial
    · trivial
  refine .bind hlookup.attempt fun reply => ?_
  split
  · split <;> trivial
  · trivial
  · trivial

theorem tame_settleAlgo (requested : AlgoSubmission)
    (response : Except OkxError (List OkxAlgoAckRow)) :
    Tame (settleAlgoSubmit requested response) := by
  unfold settleAlgoSubmit
  split
  · exact tame_reconcileAlgo _ _
  · refine .bind (tame_failing _) fun acknowledgement => ?_
    split
    · trivial
    · split
      · exact tame_reconcileAlgo _ _
      · trivial

theorem tame_price (instId : Text) (side : OrderSide) (price : DecimalText) (context : Message) :
    Tame (ensureFreshSpotOrderPrice instId side price context) := by
  have hlimit : Tame (freshSpotPriceLimit instId) := by
    refine .bind (tame_perform _) fun _ => .bind (tame_perform _) fun _ =>
      .bind (tame_request .refreshServerTimeIfExpiring rfl) fun _ =>
      .bind (tame_request (.priceLimit _) rfl) fun _ => .bind (tame_failing _) fun _ =>
      .bind (tame_request .serverTimeMs rfl) fun reply => ?_
    split
    · exact .bind (tame_perform _) fun _ => tame_failing _
    · trivial
  exact .bind (tame_failing _) fun _ => .bind hlimit fun _ => tame_failing _

theorem tame_cancelOrder (instId clientOrderId : Text) :
    Tame (cancelOrder instId clientOrderId) := by
  have htarget : Tame (orderCancelTargetIsTerminalOrMissing instId clientOrderId) := by
    refine .bind (tame_order _ _) fun found => ?_
    split <;> trivial
  refine .bind (tame_perform _) fun _ =>
    .bind (tame_request (.cancelOrder _ _) rfl).attempt fun reply => ?_
  split
  · split
    · refine .bind htarget fun settled => ?_
      split <;> trivial
    · trivial
  · refine .bind (tame_failing _) fun acknowledgement => ?_
    split
    · trivial
    · refine .bind htarget fun settled => ?_
      split <;> trivial

theorem tame_cancelAlgoOrder (instId algoId : Text) : Tame (cancelAlgoOrder instId algoId) := by
  have htarget : Tame (algoCancelTargetIsTerminalOrMissing instId algoId) := by
    refine .bind (tame_request (.openAlgoOrders _) rfl) fun orders => ?_
    split
    · trivial
    · refine .bind (tame_request (.algoOrderHistoryById _ _) rfl) fun found => ?_
      split <;> trivial
  refine .bind (tame_perform _) fun _ =>
    .bind (tame_request (.cancelAlgos _ _) rfl).attempt fun reply => ?_
  split
  · split
    · refine .bind htarget.attempt fun settled => ?_
      split <;> trivial
    · trivial
  · refine .bind (tame_failing _) fun acknowledgement => ?_
    split
    · trivial
    · refine .bind htarget fun settled => ?_
      split <;> trivial

theorem tame_prepareWebsocketPlace (instId : Text) (side : OrderSide) (kind : OrderKind)
    (price : Option DecimalText) : Tame (prepareWebsocketPlaceOrder instId side kind price) := by
  refine .bind (tame_failing _) fun _ => ?_
  split
  · exact .bind (tame_request (.reserve _ _) rfl) fun _ => .bind (tame_perform _) fun _ =>
      .bind (tame_price _ _ _ _) fun _ => .bind (tame_request .privateRequestTiming rfl) fun _ =>
      trivial
  · trivial

theorem tame_prepareWebsocketAmend (instId : Text) (side : OrderSide)
    (newPrice : Option DecimalText) : Tame (prepareWebsocketAmendOrder instId side newPrice) := by
  have htiming : Tame (do return (← request .privateRequestTiming) + okxOrderExpiryWindowMs) :=
    .bind (tame_request .privateRequestTiming rfl) fun _ => trivial
  refine .bind (tame_request (.reserve _ _) rfl) fun _ => .bind (tame_perform _) fun _ => ?_
  cases newPrice with
  | none => exact htiming
  | some newPrice => exact .bind (tame_price _ _ _ _) fun _ => htiming

theorem tame_validatedInstIdCode (instId : Text) : Tame (validatedInstIdCode instId) := by
  have hvalidated : Tame (validatedTradingInstrument instId) := by
    refine .bind (tame_perform _) fun validated => ?_
    split <;> trivial
  refine .bind hvalidated fun validated => .bind (tame_failing _) fun code => ?_
  split <;> trivial

theorem tame_websocketLoginTimestamp : Tame websocketLoginTimestamp := by
  refine .bind (tame_request .privateRequestTiming rfl).attempt fun reply => ?_
  split
  · trivial
  · exact tame_failing _

theorem tame_retryStale {evidence : ClientTask α} (h : Tame evidence) (attempts : ℕ) :
    Tame (retryStale evidence attempts) := by
  induction attempts with
  | zero => exact h
  | succ attempts ih =>
      refine .bind h.attempt fun reply => ?_
      split
      · trivial
      · split
        · exact .bind (tame_request (.sleep _) rfl) fun _ => ih
        · trivial

theorem tame_instruments (instType instId : Text) : Tame (instrumentForType instType instId) := by
  have hresponse : ∀ validated rows,
      Tame (validateInstrumentResponse instType instId validated rows) := by
    intro validated rows
    refine .bind (tame_failing _) fun row => .bind (tame_perform _) fun _ => ?_
    cases validated with
    | none => exact .bind (tame_perform _) fun _ => trivial
    | some validated =>
      exact .bind (tame_failing _) fun _ => .bind (tame_perform _) fun _ => trivial
  refine .bind (tame_perform _) fun _ => .bind (tame_perform _) fun validated =>
    .bind (tame_request (.publicInstruments _ _) rfl) fun rows =>
    .bind (hresponse validated rows).attempt fun checked => ?_
  split
  · trivial
  · split
    · exact .bind (tame_perform _) fun _ => trivial
    · trivial

theorem tame_ticker (instId : Text) (maxStaleness : ℕ) :
    Tame (tickerWithMaxAge instId maxStaleness) := by
  refine .bind (tame_perform _) fun _ => .bind (tame_request (.freshTicker _ _) rfl)
    fun cached => ?_
  split
  · trivial
  · refine .bind (tame_request (.marketTicker _) rfl) fun tickers => .bind (tame_failing _)
      fun restTicker => .bind (tame_failing _) fun _ => .bind (tame_failing _) fun _ =>
      .bind (tame_failing _) fun _ => .bind (tame_request .serverTimeMs rfl) fun serverNowMs => ?_
    split
    · split
      · refine .bind (.bind (tame_failing _) fun ageMs => ?_) fun _ => trivial
        split <;> trivial
      · trivial
    · trivial

theorem tame_accountConfig : Tame accountConfig := by
  refine .bind (Tame.attempt (.bind (tame_request .accountConfig rfl) fun configs =>
    .bind (tame_failing _) fun config => .bind (tame_perform _) fun _ => trivial)) fun reply => ?_
  split
  · trivial
  · exact .bind (tame_perform _) fun _ => trivial

theorem tame_balances : Tame balances :=
  .bind (tame_request .accountBalance rfl) fun _ => .bind (tame_failing _) fun _ => trivial

theorem tame_tradeFeeForGroup (instId expectedGroupId : Text) :
    Tame (spotTradeFeeForGroup instId expectedGroupId) :=
  .bind (tame_perform _) fun _ => .bind (tame_request (.tradeFee _ _) rfl) fun _ =>
    .bind (tame_failing _) fun _ => tame_failing _

theorem tame_quoteUsdRate (quoteCcy : Text) : Tame (quoteUsdRateForQuote quoteCcy) := by
  unfold quoteUsdRateForQuote
  split
  · exact tame_failing _
  · refine tame_retryStale (.bind (tame_request (.indexTickers _) rfl) fun rows =>
      .bind (tame_failing _) fun row => .bind (tame_failing _) fun rate =>
      .bind (tame_request .serverTimeMs rfl) fun serverNowMs => ?_) _
    split
    · refine .bind (.bind (tame_failing _) fun ageMs => ?_) fun _ => trivial
      split <;> trivial
    · trivial

theorem tame_requestedAccount (requested : RequestedTradingInstrument) :
    Tame (requestedAccountInstrument requested) := by
  refine .bind (tame_request (.accountInstruments _ _) rfl) fun rows => ?_
  dsimp only
  split
  · exact .bind (tame_request (.accountInstruments _ _) rfl) fun _ =>
      .bind (x := pure _) trivial fun _ => tame_failing _
  · exact .bind (x := pure _) trivial fun _ => tame_failing _

theorem tame_maximumOrderSize (instId tdMode : Text) (price : DecimalText)
    (tradeQuoteCurrency : Text) :
    Tame (maximumOrderSize instId tdMode price tradeQuoteCurrency) :=
  .bind (tame_failing _) fun _ => .bind (tame_failing _) fun _ =>
    .bind (tame_request (.maxSize _ _ _ _) rfl) fun _ => .bind (tame_failing _) fun _ =>
    .bind (tame_failing _) fun _ => .bind (tame_failing _) fun _ =>
    .bind (tame_failing _) fun _ => trivial

theorem tame_maximumAvailableSize (instId tdMode tradeQuoteCurrency : Text) :
    Tame (maximumAvailableSize instId tdMode tradeQuoteCurrency) :=
  .bind (tame_failing _) fun _ => .bind (tame_request (.maxAvailSize _ _ _) rfl) fun _ =>
    .bind (tame_failing _) fun _ => .bind (tame_failing _) fun _ =>
    .bind (tame_failing _) fun _ => .bind (tame_failing _) fun _ => trivial

section Validation

variable {can : (q : ClientRequest) → q.Reply → Prop} {A : ClientRequest → Prop}
  {P : OkxInstrument → Prop}

/-- After what creates nothing the rest upholds what it upholds on its own. -/
theorem Tame.upholds_bind {x : ClientTask α} {f : α → ClientTask β} {R : Except OkxError β → Prop}
    (hx : Tame x) (hA : ∀ q, CreatesNothing q → A q) (hf : ∀ a, (f a).Upholds can A R)
    (herr : ∀ e, R (.error e)) : (x >>= f).Upholds can A R :=
  .bind (hx.mono (fun _ _ _ => trivial) hA fun _ h => h) (fun a _ => hf a) fun e _ => herr e

/-- The instrument of the evidence is the one that was read. -/
theorem evidence_upholds {requested : RequestedTradingInstrument}
    (hA : ∀ q, CreatesNothing q → A q) (accountConfig : OkxAccountConfig) (startedAt : Instant)
    (h : (instrumentForType requested.instType.asOkx requested.instrument).Upholds can A
      fun r => ∀ row, r = .ok row → P row) :
    (tradingInstrumentEvidence requested accountConfig startedAt).Upholds can A
      fun r => ∀ context, r = .ok context → P context.instrument := by
  have herr : ∀ (e : OkxError) (context : ValidatedTradingContext),
      Except.error e = .ok context → P context.instrument := by rintro e context ⟨⟩
  refine .bind h (fun publicRow hrow => ?_) fun e _ => herr e
  refine (tame_requestedAccount _).upholds_bind hA (fun account => ?_) herr
  refine (tame_retryStale (tame_ticker _ _) _).upholds_bind hA (fun ticker => ?_) herr
  refine (tame_failing _).upholds_bind hA (fun price => ?_) herr
  refine (tame_failing _).upholds_bind hA (fun hasLimit => ?_) herr
  have hrest : ∀ rate, (do
      let maximum ← maximumOrderSize requested.instrument requested.tdMode.asOkx ticker.last
        publicRow.quoteCcy
      let available ← maximumAvailableSize requested.instrument requested.tdMode.asOkx
        publicRow.quoteCcy
      let balances ← balances
      let now ← perform .now
      failing (ensure (now - startedAt ≤ okxTradingTupleEvidenceMaxAgeMs)
        "OKX requested trading tuple evidence became stale before startup validation completed")
      failing (ValidatedTradingContext.fromExchangeEvidence requested ⟨publicRow, account,
        accountConfig, price, maximum, available, balances, rate⟩) : ClientTask _).Upholds can A
        fun r => ∀ context, r = .ok context → P context.instrument := by
    intro rate
    refine (tame_maximumOrderSize _ _ _ _).upholds_bind hA (fun maximum => ?_) herr
    refine (tame_maximumAvailableSize _ _ _).upholds_bind hA (fun available => ?_) herr
    refine tame_balances.upholds_bind hA (fun balances => ?_) herr
    refine (tame_perform _).upholds_bind hA (fun now => ?_) herr
    refine (tame_failing _).upholds_bind hA (fun _ => .ofExcept fun context hcontext => ?_) herr
    rw [ValidatedTradingContext.fromExchangeEvidence_instrument (mapError_eq_ok.1 hcontext)]
    exact hrow publicRow rfl
  split
  · exact ((tame_quoteUsdRate _).bind (f := fun rate => pure (some rate))
      fun _ => trivial).upholds_bind hA hrest herr
  · exact Tame.upholds_bind (x := pure _) trivial hA hrest herr

/-- The instrument of a generation is the one that was read. -/
theorem validate_upholds {requested : RequestedTradingInstrument}
    (hA : ∀ q, CreatesNothing q → A q) (accountConfig : OkxAccountConfig)
    (h : (instrumentForType requested.instType.asOkx requested.instrument).Upholds can A
      fun r => ∀ row, r = .ok row → P row) :
    (OkxTrading.validateTradingInstrument requested accountConfig).Upholds can A
      fun r => ∀ generation, r = .ok generation → P generation.context.instrument := by
  have herr : ∀ (e : OkxError) (generation : ValidatedCapabilityGeneration),
      Except.error e = .ok generation → P generation.context.instrument := by
    rintro e generation ⟨⟩
  have hgather : (gatherCapabilityGeneration requested accountConfig).Upholds can A
      fun r => ∀ generation, r = .ok generation → P generation.context.instrument := by
    refine (tame_perform _).upholds_bind hA (fun startedAt => ?_) herr
    refine (tame_failing _).upholds_bind hA (fun capability => ?_) herr
    refine (tame_perform _).upholds_bind hA (fun accountLevel => ?_) herr
    refine .bind (evidence_upholds hA accountConfig startedAt h) (fun validated hvalidated => ?_)
      fun e _ => herr e
    refine (tame_failing _).upholds_bind hA (fun groupId => ?_) herr
    refine (tame_tradeFeeForGroup _ _).upholds_bind hA (fun fee => ?_) herr
    refine (tame_perform _).upholds_bind hA (fun now => .ofExcept fun generation hg => ?_) herr
    rw [(ValidatedCapabilityGeneration.cashSpot_instId (mapError_eq_ok.1 hg)).2.2.1]
    exact hvalidated validated rfl
  have hgeneration : (validateTradingInstrumentGeneration requested accountConfig).Upholds can A
      fun r => ∀ generation, r = .ok generation → P generation.context.instrument := by
    refine .bind hgather (fun generation hg => ?_) fun e _ => herr e
    refine (tame_perform _).upholds_bind hA (fun _ => ?_) herr
    rintro _ ⟨⟩
    exact hg generation rfl
  refine .bind hgeneration.attempt ?_ ?_
  · rintro _ ⟨outcome, ⟨⟩, hread⟩
    split
    · exact hread
    · exact (tame_perform _).upholds_bind hA (fun _ => herr _) herr
  · rintro e ⟨outcome, ⟨⟩, -⟩

end Validation

theorem tame_validate (requested : RequestedTradingInstrument) (accountConfig : OkxAccountConfig) :
    Tame (OkxTrading.validateTradingInstrument requested accountConfig) :=
  (validate_upholds (P := fun _ => True) (fun _ h => h) accountConfig ((tame_instruments _ _).mono
    (fun _ _ h => h) (fun _ h => h) fun _ _ _ _ => trivial)).mono (fun _ _ h => h) (fun _ h => h)
      fun _ _ => trivial

/-- The submission itself, and what creates nothing after it. -/
theorem follows_submission {query : RestRequest} {f : Except OkxError query.Value → ClientTask α}
    (hown : own query) (hexposure : query.isExposure = true) (hf : ∀ reply, Tame (f reply)) :
    (restProtocol own).Follows .unsent ((request query).attempt >>= f) := by
  refine ⟨fun _ => hown, fun reply => ?_⟩
  show (restProtocol own).Follows (if query.isExposure then .sent else .unsent) _
  rw [if_pos hexposure]
  exact (hf reply).follows (by rintro ⟨⟩)

theorem place_follows (requested : OkxOrderSubmitReconciliation)
    (hown : ∀ route, own (.placeOrder (requested.body route))) :
    (restProtocol own).Follows .unsent requested.place := by
  have hunsent : CommandState.unsent ≠ .begun := by rintro ⟨⟩
  have hsubmit : ∀ route, (restProtocol own).Follows .unsent
      ((request (.placeOrder (requested.body route))).attempt >>= settleOrderSubmit requested) :=
    fun route => follows_submission (hown route) rfl (tame_settleOrder requested)
  rw [place_eq]
  refine (tame_perform _).follows_bind hunsent fun route => ?_
  unfold submitOrder
  split
  · rw [Task.bind_assoc]
    exact (tame_perform _).follows_bind hunsent fun _ => hsubmit route
  · split
    · simp only [Task.bind_assoc]
      exact (tame_request (.reserve _ _) rfl).follows_bind hunsent fun _ =>
        (tame_perform _).follows_bind hunsent fun _ =>
        (tame_price _ _ _ _).follows_bind hunsent fun _ => hsubmit route
    · exact hunsent

theorem trigger_follows (requested : AlgoSubmission)
    (hown : ∀ tdMode tradeQuoteCurrency, own (.orderAlgo
      { instId := requested.instId, tdMode, side := requested.side, sz := requested.size,
        triggerPrice := requested.triggerPrice, tradeQuoteCurrency,
        clientOrderId := requested.clientOrderId })) :
    (restProtocol own).Follows .unsent requested.place := by
  have hunsent : CommandState.unsent ≠ .begun := by rintro ⟨⟩
  rw [placeTrigger_eq]
  exact (tame_perform _).follows_bind hunsent fun route =>
    (tame_perform _).follows_bind hunsent fun _ =>
    follows_submission (hown route.1 route.2) rfl (tame_settleAlgo requested)

theorem follows_submitAmend {amend : OkxOrderAmend}
    {f : Except OkxError (List OkxOrderAck) → ClientTask α}
    (hown : own (.amendOrder ⟨amend.instId, amend.clientOrderId, amend.newSize, amend.newPrice⟩))
    (hf : ∀ reply, Tame (f reply)) :
    (restProtocol own).Follows .unsent (submitAmend amend >>= f) := by
  have hunsent : CommandState.unsent ≠ .begun := by rintro ⟨⟩
  unfold submitAmend
  cases hprice : amend.newPrice with
  | none =>
      rw [hprice] at hown
      simp only [Task.bind_assoc]
      exact (tame_perform _).follows_bind hunsent fun _ => follows_submission hown rfl hf
  | some newPrice =>
      rw [hprice] at hown
      simp only [Task.bind_assoc]
      exact (tame_request (.reserve _ _) rfl).follows_bind hunsent fun _ =>
        (tame_perform _).follows_bind hunsent fun _ =>
        (tame_price _ _ _ _).follows_bind hunsent fun _ => follows_submission hown rfl hf

theorem amend_follows (amend : OkxOrderAmend)
    (hown : own (.amendOrder ⟨amend.instId, amend.clientOrderId, amend.newSize, amend.newPrice⟩)) :
    (restProtocol own).Follows .unsent (amendOrder amend) := by
  have hunsent : CommandState.unsent ≠ .begun := by rintro ⟨⟩
  refine (tame_perform _).follows_bind hunsent fun _ =>
    (tame_failing _).follows_bind hunsent fun _ =>
    follows_submitAmend hown fun reply => ?_
  split
  · exact tame_reconcileOrderAmend _ _
  · refine .bind (tame_failing _) fun acknowledgement => ?_
    split
    · exact tame_reconcileOrderAmend _ _
    · refine .bind (tame_order _ _).attempt fun reply => ?_
      split
      · exact .bind (tame_failing _) fun _ => trivial
      · trivial
      · trivial

end Rest

/-! ## The calls of the trading client -/

section Trading

variable {ε α β : Type} {own : Submission → Prop} {t : CommandState}

theorem follows_viaRest {task : ClientTask α}
    (h : (restProtocol fun query => own (.rest query)).Follows t task) :
    (commandProtocol own).Follows t (viaRest task) := by
  refine Task.Protocol.follows_lift ?_ ?_ (fun _ h => h) h
  · intro t q hq
    cases q with
    | inl op => cases t with
      | begun => exact absurd rfl hq
      | unsent | sent => trivial
    | inr query => cases t with
      | begun => exact absurd rfl hq
      | unsent | sent => exact hq
  · intro t q answer hq
    cases q with
    | inl op => cases t <;> rfl
    | inr query => cases t <;> rfl

/-- Nothing is created or amended, and the session is not asked for. -/
def Harmless : TradingRequest → Prop
  | .rest (.inr query) => query.isExposure = false
  | q => SessionFree q

theorem neutral_of_harmless {q : TradingRequest} (h : Harmless q) (ht : t ≠ .begun) :
    (commandProtocol own).Neutral t q := by
  cases q with
  | rest request => cases request with
    | inl op => cases t with
      | begun => exact absurd rfl ht
      | unsent | sent => exact ⟨trivial, fun _ => rfl⟩
    | inr query => cases t with
      | begun => exact absurd rfl ht
      | unsent =>
          refine ⟨fun hexposure => ?_, fun _ => if_neg (ne_true_of_eq_false h)⟩
          rw [Harmless] at h
          rw [h] at hexposure
          cases hexposure
      | sent => exact ⟨h, fun _ => rfl⟩
  | connect timestamp => cases t with
    | begun => exact absurd rfl ht
    | unsent | sent => exact ⟨trivial, fun _ => rfl⟩
  | segment op =>
      cases t with
      | begun => exact absurd rfl ht
      | unsent | sent =>
          cases op with
          | beginCommand | commandOutcome => exact h.elim
          | _ => exact ⟨trivial, fun _ => rfl⟩

/-- It is harmless, and no code is remembered. -/
def Plain : TradingRequest → Prop
  | .segment (.rememberInstIdCode _ _) => False
  | q => Harmless q

theorem Plain.harmless {q : TradingRequest} (h : Plain q) : Harmless q := by
  cases q with
  | connect timestamp => trivial
  | rest request => exact h
  | segment op => cases op with
    | rememberInstIdCode => exact h.elim
    | _ => exact h

/-- The task asks only what `A` allows, whatever it is answered. -/
abbrev AsksOnly (A : TradingRequest → Prop)
    (task : Task ε TradingRequest TradingRequest.Reply α) : Prop :=
  task.Upholds (fun _ _ => True) A fun _ => True

section AsksOnly

variable {A : TradingRequest → Prop} {x : Task ε TradingRequest TradingRequest.Reply α}

theorem AsksOnly.bind {f : α → Task ε TradingRequest TradingRequest.Reply β} (hx : AsksOnly A x)
    (hf : ∀ a, AsksOnly A (f a)) : AsksOnly A (x >>= f) :=
  Task.Upholds.bind hx (fun a _ => hf a) fun _ _ => trivial

theorem AsksOnly.handle {ε' : Type} {k : Except ε α → Task ε' TradingRequest TradingRequest.Reply β}
    (hx : AsksOnly A x) (hk : ∀ r, AsksOnly A (k r)) : AsksOnly A (x.handle k) :=
  Task.Upholds.handle hx fun r _ => hk r

theorem AsksOnly.mapErr {ε' : Type} (hx : AsksOnly A x) (f : ε → ε') : AsksOnly A (mapErr f x) :=
  hx.handle fun _ => trivial

theorem asksOnly_shared {op : TradingOp} (h : A (.segment op)) :
    AsksOnly (ε := ε) A (onShared op) :=
  ⟨h, fun _ _ => trivial⟩

end AsksOnly

/-- Nothing is handed over by the task. -/
abbrev HarmlessTask (task : Task ε TradingRequest TradingRequest.Reply α) : Prop :=
  AsksOnly Harmless task

/-- A task that sends no command. -/
abbrev PlainTask (task : Task ε TradingRequest TradingRequest.Reply α) : Prop :=
  AsksOnly Plain task

theorem PlainTask.harmless {x : Task ε TradingRequest TradingRequest.Reply α} (h : PlainTask x) :
    HarmlessTask x :=
  Task.Upholds.mono h (fun _ _ h => h) (fun _ => Plain.harmless) fun _ h => h

theorem Tame.viaRest {task : ClientTask α} (h : Tame task) : PlainTask (viaRest task) :=
  Task.Upholds.lift h (fun _ _ _ => trivial) fun q hq => by
    cases q with
    | inl op => trivial
    | inr query => exact hq

theorem plain_configured : PlainTask (ε := ε) (onShared .configured) := asksOnly_shared trivial

theorem plain_connect : PlainTask connectWebsocketOrderCommands := by
  have hstore : PlainTask (ε := OkxError)
      (do let connectedAt ← onShared .instantNow; onShared (.storeSession connectedAt)) :=
    .bind (asksOnly_shared trivial) fun _ => asksOnly_shared trivial
  refine .bind (tame_websocketLoginTimestamp.viaRest.mapErr _) fun timestamp => ⟨trivial, ?_⟩
  intro connected _
  cases connected with
  | ok u => exact hstore
  | error e => trivial

theorem plain_markUnavailable :
    PlainTask (ε := ε) markWebsocketOrderCommandsUnavailable :=
  .bind (asksOnly_shared trivial) fun _ => asksOnly_shared trivial

theorem plain_ensureSession : PlainTask ensureWebsocketOrderSessionAvailable := by
  refine .bind (asksOnly_shared trivial) fun available => ?_
  split
  · trivial
  · refine .bind (asksOnly_shared trivial) fun attempted => ?_
    split
    · refine plain_connect.handle fun connected => ?_
      split
      · trivial
      · exact .bind plain_markUnavailable fun _ => trivial
    · trivial

theorem harmless_instIdCode (instId : Text) : HarmlessTask (websocketInstIdCode instId) := by
  refine .bind (asksOnly_shared trivial) fun cached => ?_
  split
  · trivial
  · exact .bind ((tame_validatedInstIdCode _).viaRest.harmless.mapErr _) fun code =>
      .bind (asksOnly_shared trivial) fun _ => trivial

/-- What hands nothing over leaves the command to what follows, also where it fails. -/
theorem HarmlessTask.follows_handle {ε' : Type}
    {x : Task ε TradingRequest TradingRequest.Reply α}
    {k : Except ε α → Task ε' TradingRequest TradingRequest.Reply β} (hx : HarmlessTask x)
    (ht : t ≠ .begun) (hk : ∀ r, (commandProtocol own).Follows t (k r)) :
    (commandProtocol own).Follows t (x.handle k) :=
  Task.Protocol.follows_handle
    (hx.mono (fun _ _ h => h) (fun _ h => neutral_of_harmless h ht) fun _ h => h) fun r _ => hk r

theorem HarmlessTask.follows_bind {x : Task ε TradingRequest TradingRequest.Reply α}
    {f : α → Task ε TradingRequest TradingRequest.Reply β} (hx : HarmlessTask x)
    (ht : t ≠ .begun) (hf : ∀ a, (commandProtocol own).Follows t (f a)) :
    (commandProtocol own).Follows t (x >>= f) :=
  Task.Protocol.follows_bind ht
    (hx.mono (fun _ _ h => h) (fun _ h => neutral_of_harmless h ht) fun _ h => h) fun a _ => hf a

/-- What follows a command: after one that was not written everything is open, and after one that
was written nothing more is handed over. -/
structure Recovers (own : Submission → Prop)
    (k : Except OkxWebsocketOrderCommandError α → TradingTask β) : Prop where
  unsent : ∀ r, (commandProtocol own).Follows .unsent (k r)
  acknowledged : ∀ a, (commandProtocol own).Follows .sent (k (.ok a))
  ambiguous : ∀ error, (commandProtocol own).Follows .sent (k (.error (.ambiguous error)))

/-- A part of a command over the session that hands nothing over. -/
theorem Recovers.step {x : SessionTask α} {f : α → SessionTask β} {γ : Type}
    {k : Except OkxWebsocketOrderCommandError β → TradingTask γ} (hk : Recovers own k)
    (hx : HarmlessTask x) (hf : ∀ a, (commandProtocol own).Follows .unsent ((f a).handle k)) :
    (commandProtocol own).Follows .unsent ((x >>= f).handle k) := by
  rw [Task.handle_bind]
  refine hx.follows_handle (by rintro ⟨⟩) fun r => ?_
  cases r with
  | ok a => exact hf a
  | error e => exact hk.unsent _

/-- The command itself. -/
theorem Recovers.command {k : Except OkxWebsocketOrderCommandError OkxOrderAck → TradingTask β}
    (hk : Recovers own k) {request : OkxWebsocketOrderRequest} (hown : own (.websocket request)) :
    (commandProtocol own).Follows .unsent ((sessionCommand request).handle k) := by
  refine ⟨hown, fun begun => ?_⟩
  cases begun with
  | error error => exact hk.unsent (.error (.unavailable (.failed error)))
  | ok u =>
      refine ⟨rfl, fun outcome => ?_⟩
      cases outcome with
      | ok acknowledgement => exact hk.acknowledged acknowledgement
      | error error => cases error with
        | notSent error => exact hk.unsent (.error (.unavailable (.failed error)))
        | ambiguous error => exact hk.ambiguous (.failed error)

theorem recovers_place {command : OkxRegularOrderCommand}
    (hown : ∀ route, own (.rest (.placeOrder (command.reconciliation.body route)))) :
    Recovers own (OkxTradingClient.placeOrderFallback command) where
  unsent r := by
    cases r with
    | ok acknowledgement => rintro ⟨⟩
    | error error => cases error with
      | unavailable error => exact follows_viaRest (place_follows command.reconciliation hown)
      | preparationRejected error => rintro ⟨⟩
      | ambiguous error =>
          exact follows_viaRest ((tame_reconcileOrderSubmit _ _).follows (by rintro ⟨⟩))
  acknowledged _ := by rintro ⟨⟩
  ambiguous error := follows_viaRest ((tame_reconcileOrderSubmit _ _).follows (by rintro ⟨⟩))

theorem recovers_amend (amend : OkxOrderAmend)
    (hown : own (.rest (.amendOrder
      ⟨amend.instId, amend.clientOrderId, amend.newSize, amend.newPrice⟩))) :
    Recovers own (OkxTradingClient.amendOrderFallback amend) where
  unsent r := by
    cases r with
    | ok acknowledgement => rintro ⟨⟩
    | error error => cases error with
      | unavailable error => exact follows_viaRest (amend_follows amend hown)
      | preparationRejected error => rintro ⟨⟩
      | ambiguous error =>
          exact follows_viaRest ((tame_reconcileOrderAmend _ _).follows (by rintro ⟨⟩))
  acknowledged _ := by rintro ⟨⟩
  ambiguous error := follows_viaRest ((tame_reconcileOrderAmend _ _).follows (by rintro ⟨⟩))

theorem recovers_cancel (own : Submission → Prop) (instId clientOrderId : Text) :
    Recovers own (OkxTradingClient.cancelOrderFallback instId clientOrderId) where
  unsent r := by
    cases r with
    | ok u => rintro ⟨⟩
    | error error => cases error with
      | preparationRejected error => rintro ⟨⟩
      | unavailable error | ambiguous error =>
          exact follows_viaRest ((tame_cancelOrder _ _).follows (by rintro ⟨⟩))
  acknowledged _ := by rintro ⟨⟩
  ambiguous _ := follows_viaRest ((tame_cancelOrder _ _).follows (by rintro ⟨⟩))

theorem placeOrder_follows {command : OkxRegularOrderCommand}
    (hrest : ∀ route, own (.rest (.placeOrder (command.reconciliation.body route))))
    (hsession : ∀ id instIdCode expTime tdMode tradeQuoteCurrency, own (.websocket (.place
      { id, instIdCode, expTime, side := command.side, kind := command.kind,
        size := command.size.text, price := command.price.map (·.text), tdMode, tradeQuoteCurrency,
        clientOrderId := command.clientOrderId, tag := okxCancelAllAfterTag.toList }))) :
    (commandProtocol own).Follows .unsent (OkxTradingClient.placeOrder command) := by
  have hunsent : CommandState.unsent ≠ .begun := by rintro ⟨⟩
  have hplace : (commandProtocol own).Follows .unsent (OkxTradingClient.restPlaceOrder command) :=
    follows_viaRest (place_follows command.reconciliation hrest)
  have hk := recovers_place hrest
  have hcommand : (commandProtocol own).Follows .unsent ((placeOrderWithWebsocket command).handle
      (OkxTradingClient.placeOrderFallback command)) :=
    hk.step plain_ensureSession.harmless fun _ => hk.step (harmless_instIdCode _) fun code =>
      hk.step ((tame_prepareWebsocketPlace _ _ _ _).viaRest.harmless.mapErr _) fun expTime =>
        hk.step ((tame_perform _).viaRest.harmless.mapErr _) fun route =>
          hk.command (hsession _ _ _ _ _)
  refine plain_configured.harmless.follows_bind hunsent fun configured => ?_
  split
  · split
    · exact hplace
    · exact hcommand
    · exact hcommand
  · exact hplace

theorem amendOrder_follows {command : OrderAmendCommand}
    (hrest : own (.rest (.amendOrder ⟨command.instId, command.clientOrderId,
      command.newSize.map (·.decimal), command.newPrice.map (·.decimal)⟩)))
    (hsession : ∀ id instIdCode expTime requestId, own (.websocket (.amend
      { id, instIdCode, expTime, clientOrderId := command.clientOrderId, requestId,
        newSize := command.newSize.map (·.text), newPrice := command.newPrice.map (·.text) }))) :
    (commandProtocol own).Follows .unsent (OkxTradingClient.amendOrder command) := by
  have hunsent : CommandState.unsent ≠ .begun := by rintro ⟨⟩
  have hk := recovers_amend command.amend hrest
  have hvalidate : HarmlessTask (Task.ofExcept (ε := OkxError)
      (command.amend.validate.mapError OkxError.failed)) := .ofExcept trivial
  refine hvalidate.follows_bind hunsent fun _ =>
    plain_configured.harmless.follows_bind hunsent fun configured => ?_
  split
  · exact hk.step plain_ensureSession.harmless fun _ => hk.step (harmless_instIdCode _) fun code =>
      hk.step ((tame_prepareWebsocketAmend _ _ _).viaRest.harmless.mapErr _) fun expTime =>
      hk.command (hsession _ _ _ _)
  · exact follows_viaRest (amend_follows command.amend hrest)

theorem cancelOrder_follows {instId clientOrderId : Text}
    (hsession : ∀ id instIdCode, own (.websocket (.cancel { id, instIdCode, clientOrderId }))) :
    (commandProtocol own).Follows .unsent (OkxTradingClient.cancelOrder instId clientOrderId) := by
  have hunsent : CommandState.unsent ≠ .begun := by rintro ⟨⟩
  have hk := recovers_cancel own instId clientOrderId
  have hprepare : HarmlessTask (viaRest (prepareWebsocketCancelOrder instId)) :=
    (Tame.viaRest (tame_request (.reserve _ _) rfl)).harmless
  refine plain_configured.harmless.follows_bind hunsent fun configured => ?_
  split
  · refine hk.step plain_ensureSession.harmless fun _ => hk.step (harmless_instIdCode _) fun code =>
      hk.step (hprepare.mapErr _) fun _ => ?_
    rw [Task.handle_bind]
    refine Recovers.command ⟨fun r => ?_, fun _ => hk.acknowledged (), fun error => ?_⟩
      (hsession [] code)
    · cases r with
      | ok acknowledgement => exact hk.unsent (.ok ())
      | error error => exact hk.unsent (.error error)
    · exact hk.ambiguous error
  · exact follows_viaRest ((tame_cancelOrder _ _).follows hunsent)

theorem harmless_remember (instrument : OkxInstrument) :
    HarmlessTask (OkxTradingClient.rememberInstIdCode instrument) := by
  refine .bind plain_configured.harmless fun configured => ?_
  split
  · split
    · trivial
    · trivial
    · exact asksOnly_shared trivial
  · trivial

theorem plain_prepareOrderCommandPath :
    PlainTask OkxTradingClient.prepareOrderCommandPath := by
  have htiming : Tame (request .privateRequestTiming) := tame_request _ rfl
  have hattempted : PlainTask (ε := OkxError) (onShared .storePrepareAttempted) :=
    asksOnly_shared trivial
  refine .bind plain_configured fun configured => ?_
  split
  · refine .bind hattempted fun _ =>
      (AsksOnly.bind htiming.viaRest fun _ => plain_connect).handle fun connected => ?_
    split
    · trivial
    · exact .bind plain_markUnavailable fun _ => trivial
  · trivial

theorem harmless_instruments (instId : Text) :
    HarmlessTask (OkxTradingClient.instruments instId) := by
  refine .bind (Tame.viaRest (.bind (tame_perform _) fun validated => ?_)).harmless
    fun instrument =>
    .bind (harmless_remember _) fun _ => trivial
  split
  · exact tame_instruments _ _
  · trivial

theorem harmless_validate (requested : RequestedTradingInstrument)
    (accountConfig : OkxAccountConfig) :
    HarmlessTask (OkxTradingClient.validateTradingInstrument requested accountConfig) :=
  .bind (tame_validate _ _).viaRest.harmless fun _ => .bind (harmless_remember _) fun _ => trivial

/-- The calls of the REST client itself. -/
theorem client_follows (call : ClientCall) :
    (commandProtocol (TradingCall.rest call).Submits).Follows .unsent (viaRest call.task) := by
  have hunsent : CommandState.unsent ≠ .begun := by rintro ⟨⟩
  have htame : ∀ {own : Submission → Prop} {task : ClientTask Unit}, Tame task →
      (commandProtocol own).Follows .unsent (viaRest task) :=
    fun h => follows_viaRest (h.follows hunsent)
  have hdiscard : ∀ {own : Submission → Prop} {α : Type} {task : ClientTask α}, Tame task →
      (commandProtocol own).Follows .unsent (viaRest (discardValue task)) :=
    fun h => htame (h.bind fun _ => trivial)
  have hsubmits : ∀ {own : Submission → Prop} {α : Type} {task : ClientTask α},
      (restProtocol fun query => own (.rest query)).Follows .unsent task →
      (commandProtocol own).Follows .unsent (viaRest (discardValue task)) :=
    fun h => follows_viaRest (Task.Protocol.follows_map h fun _ _ h => h)
  cases call with
  | instruments => exact hdiscard (tame_instruments _ _)
  | ticker => exact hdiscard (.bind (tame_perform _) fun _ => tame_ticker _ _)
  | placeOrder instId side kind size price clientOrderId =>
      exact hsubmits (place_follows ⟨instId, side, kind, size, price, clientOrderId⟩
        fun _ => ⟨rfl, rfl, rfl, rfl, rfl, rfl, rfl⟩)
  | amendOrder amend => exact hsubmits (amend_follows amend rfl)
  | placeTriggerOrder instId side size triggerPrice clientOrderId =>
      exact hsubmits (trigger_follows ⟨instId, side, size, triggerPrice, clientOrderId⟩
        fun _ _ => ⟨rfl, rfl, rfl, rfl, rfl⟩)
  | cancelOrder => exact htame (tame_cancelOrder _ _)
  | cancelAlgoOrder => exact htame (tame_cancelAlgoOrder _ _)
  | prepareWebsocketPlaceOrder => exact hdiscard (tame_prepareWebsocketPlace _ _ _ _)
  | prepareWebsocketAmendOrder => exact hdiscard (tame_prepareWebsocketAmend _ _ _)
  | prepareWebsocketCancelOrder => exact htame (tame_request (.reserve _ _) rfl)
  | websocketOrderRoute => exact hdiscard (tame_perform _)
  | order => exact hdiscard (tame_order _ _)
  | balances => exact hdiscard tame_balances
  | spotTradeFee =>
      exact hdiscard (.bind (tame_perform _) fun _ => tame_tradeFeeForGroup _ _)
  | accountConfig => exact hdiscard tame_accountConfig
  | validateTradingInstrument requested accountConfig => exact hdiscard (tame_validate _ _)

end Trading

/-- **Every call keeps to its protocol.** -/
theorem task_follows (call : TradingCall) : call.protocol.Follows .unsent call.task := by
  have hreturn : ∀ {α : Type} {own : Submission → Prop} {task : TradingTask α}
      {f : α → Option OkxOrderAck}, (commandProtocol own).Follows .unsent task →
        (commandProtocol own).Follows .unsent (do let a ← task; return f a : TradingTask _) :=
    fun h => Task.Protocol.follows_map h fun _ _ h => h
  have hplain : ∀ {α : Type} {own : Submission → Prop} {task : TradingTask α}, HarmlessTask task →
      (commandProtocol own).Follows .unsent
        (do let _ ← task; return none : TradingTask (Option OkxOrderAck)) :=
    fun h => h.follows_bind (by rintro ⟨⟩) fun _ => by rintro ⟨⟩
  cases call with
  | prepareOrderCommandPath => exact hplain plain_prepareOrderCommandPath.harmless
  | placeOrder command =>
      exact hreturn (placeOrder_follows (fun _ => ⟨rfl, rfl, rfl, rfl, rfl, rfl, rfl⟩)
        fun _ _ _ _ _ => ⟨rfl, rfl, rfl, rfl, rfl, rfl⟩)
  | cancelOrder instId clientOrderId => exact hreturn (cancelOrder_follows fun _ _ => rfl)
  | amendOrder command =>
      exact hreturn (amendOrder_follows rfl fun _ _ _ _ => ⟨rfl, rfl, rfl⟩)
  | instruments instId => exact hplain (harmless_instruments instId)
  | validateTradingInstrument requested accountConfig =>
      exact hplain (harmless_validate requested accountConfig)
  | rest call => exact hreturn (client_follows call)

end OkxTrading
