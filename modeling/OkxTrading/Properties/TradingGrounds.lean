import OkxTrading.Properties.CommandProtocol

/-!
# What a request of a call rests on

A command names its instrument by a code, and a new order also by its route.  Neither is an
argument of the call: it reads them of the client.  A trigger order counts as ended only where it
was not found among the live ones first.

* `Ground`, `Ground.ToldBy` — what a call is told, and by which answer.
* `TradingCall.grounds` — what a request of the call rests on.
* `websocketInstIdCode_grounded`, `place_grounded`, `read_instruments`, … — each part of a call is
  told first what it asks for.
* `call_asks` — **every call asks only for what it was told**, whatever it is answered.
-/

namespace OkxTrading

open Effect

/-! ## Grounds -/

/-- What a call is told before it asks for more. -/
inductive Ground where
  /-- The instrument has the code: the client holds it, or the validated instrument gives it. -/
  | code (instId : Text) (instIdCode : ℕ)
  /-- The code was read, of the validated instrument or at the exchange. -/
  | read (instId : Text) (instIdCode : ℕ)
  /-- The route that was validated for the instrument. -/
  | route (instId tdMode tradeQuoteCurrency : Text)
  /-- The trigger order is not among the live ones. -/
  | notLive (instId algoId : Text)
  deriving DecidableEq, Repr

/-- The context holds the code of the instrument. -/
def ValidatedTradingContext.HasCode (context : ValidatedTradingContext) (instIdCode : ℕ) : Prop :=
  context.instrument.websocketInstIdCode = .ok (some instIdCode)

/-- The answer says so. -/
def Ground.ToldBy : Ground → (q : TradingRequest) → q.Reply → Prop
  | .code instId instIdCode, .segment (.cachedInstIdCode asked), answer =>
      asked = instId ∧ answer = some instIdCode
  | .code instId instIdCode, .rest (.inl (.validatedTradingInstrumentIfPresent asked)), answer =>
      asked = instId ∧ ∃ context, answer = .ok (some context) ∧ context.HasCode instIdCode
  | .read instId instIdCode, .rest (.inl (.validatedTradingInstrumentIfPresent asked)), answer =>
      asked = instId ∧ ∃ context, answer = .ok (some context) ∧ context.HasCode instIdCode
  | .read instId instIdCode, .rest (.inr (.publicInstruments _ _)), reply =>
      ∃ rows, reply = .ok rows ∧ ∃ row ∈ rows, row.instId = instId ∧
        row.websocketInstIdCode = .ok (some instIdCode)
  | .route instId tdMode tradeQuoteCurrency, .rest (.inl (.validatedOrderRoute asked)), answer =>
      asked = instId ∧ answer = .ok (tdMode, tradeQuoteCurrency)
  | .notLive instId algoId, .rest (.inr (.openAlgoOrders asked)), reply =>
      asked = instId ∧ ∃ orders, reply = .ok orders ∧
        ∀ order ∈ orders, order.algoId = algoId → order.isLive = false
  | _, _, _ => False

/-- What the call is told before it asks for this. -/
def TradingCall.grounds : TradingCall → TradingRequest → List Ground
  | _, .segment (.rememberInstIdCode instId instIdCode) => [.read instId instIdCode]
  | .placeOrder command, .segment (.beginCommand (.place request)) =>
      [.code command.instId request.instIdCode,
        .route command.instId request.tdMode request.tradeQuoteCurrency]
  | .placeOrder command, .rest (.inr (.placeOrder body)) =>
      [.route command.instId body.tdMode body.tradeQuoteCurrency]
  | .amendOrder command, .segment (.beginCommand (.amend request)) =>
      [.code command.instId request.instIdCode]
  | .cancelOrder instId _, .segment (.beginCommand (.cancel request)) =>
      [.code instId request.instIdCode]
  | .rest (.placeOrder instId _ _ _ _ _), .rest (.inr (.placeOrder body)) =>
      [.route instId body.tdMode body.tradeQuoteCurrency]
  | .rest (.placeTriggerOrder instId _ _ _ _), .rest (.inr (.orderAlgo body)) =>
      [.route instId body.tdMode body.tradeQuoteCurrency]
  | .rest (.cancelAlgoOrder _ _), .rest (.inr (.algoOrderHistoryById instId algoId)) =>
      [.notLive instId algoId]
  | _, _ => []

/-- It does not cancel a trigger order. -/
def TradingCall.CancelsNoAlgo (call : TradingCall) : Prop :=
  ∀ instId algoId, call ≠ .rest (.cancelAlgoOrder instId algoId)

/-- Plain requests rest on nothing, but for those of the cancel of a trigger order. -/
theorem grounds_of_plain {call : TradingCall} {q : TradingRequest} (hcall : call.CancelsNoAlgo)
    (h : Plain q) : call.grounds q = [] := by
  unfold TradingCall.grounds
  split
  · exact h.elim
  · exact h.elim
  · cases h
  · exact h.elim
  · exact h.elim
  · cases h
  · cases h
  · exact absurd rfl (hcall _ _)
  · rfl

/-- No request to the REST client rests on anything. -/
def TradingCall.restGroundless : TradingCall → Bool
  | .placeOrder _ => false
  | .rest (.placeOrder ..) => false
  | .rest (.placeTriggerOrder ..) => false
  | .rest (.cancelAlgoOrder _ _) => false
  | _ => true

theorem grounds_rest {call : TradingCall} (h : call.restGroundless = true) (q : ClientRequest) :
    call.grounds (.rest q) = [] := by
  generalize hrequest : TradingRequest.rest q = request
  unfold TradingCall.grounds
  split
  · cases hrequest
  · cases h
  · cases h
  · cases hrequest
  · cases hrequest
  · cases h
  · cases h
  · cases h
  · rfl

/-! ## What a part of a call is told -/

/-- Where what is told is in `W`, the task asks only for what rests on `W`, and ends with `P`. -/
abbrev Grounded {ε α : Type} (call : TradingCall) (W : Ground → Prop)
    (task : Task ε TradingRequest TradingRequest.Reply α) (P : Except ε α → Prop) : Prop :=
  task.Upholds (fun q answer => ∀ ground : Ground, ground.ToldBy q answer → W ground)
    (fun q => ∀ ground ∈ call.grounds q, W ground) P

/-- The same of a call of the REST client. -/
abbrev RestGrounded {α : Type} (call : TradingCall) (W : Ground → Prop) (task : ClientTask α)
    (P : Except OkxError α → Prop) : Prop :=
  task.Upholds (fun q answer => ∀ ground : Ground, ground.ToldBy (.rest q) answer → W ground)
    (fun q => ∀ ground ∈ call.grounds (.rest q), W ground) P

section Parts

variable {ε α β : Type} {call : TradingCall} {W : Ground → Prop}

theorem RestGrounded.viaRest {task : ClientTask α} {P : Except OkxError α → Prop}
    (h : RestGrounded call W task P) : Grounded call W (viaRest task) P :=
  Task.Upholds.lift h (fun _ _ h => h) fun _ h => h

theorem Grounded.mapErr {ε' : Type} {task : Task ε TradingRequest TradingRequest.Reply α}
    {P : α → Prop} (f : ε → ε') (h : Grounded call W task fun r => ∀ a, r = .ok a → P a) :
    Grounded call W (mapErr f task) fun r => ∀ a, r = .ok a → P a := by
  refine Task.Upholds.handle h fun r hr => ?_
  cases r with
  | ok a =>
      rintro _ ⟨⟩
      exact hr a rfl
  | error e => rintro a ⟨⟩

/-- A part that hands nothing over rests on nothing. -/
theorem PlainTask.grounded {task : Task ε TradingRequest TradingRequest.Reply α}
    (h : PlainTask task) (hcall : call.CancelsNoAlgo) : Grounded call W task fun _ => True := by
  refine Task.Upholds.mono h (fun _ _ _ => trivial) (fun q hq ground hground => ?_) fun _ h => h
  rw [grounds_of_plain hcall hq] at hground
  cases hground

/-- What creates nothing rests on nothing. -/
theorem groundless (hcall : call.CancelsNoAlgo) (q : ClientRequest) (hq : CreatesNothing q) :
    ∀ ground ∈ call.grounds (.rest q), W ground := by
  have hplain : Plain (.rest q) := by
    cases q with
    | inl op => trivial
    | inr query => exact hq
  rw [grounds_of_plain hcall hplain]
  rintro _ ⟨⟩

theorem Tame.grounded {task : ClientTask α} (h : Tame task) (hcall : call.CancelsNoAlgo) :
    RestGrounded call W task fun _ => True :=
  Task.Upholds.mono h (fun _ _ _ => trivial) (groundless hcall) fun _ h => h

theorem restGrounded_trivial (h : call.restGroundless = true) (task : ClientTask α) :
    RestGrounded call W task fun _ => True := by
  refine Task.Upholds.mono (Task.upholds_trivial task) (fun _ _ h => h) (fun q _ => ?_) fun _ h => h
  rw [grounds_rest h q]
  rintro _ ⟨⟩

/-- The context a call reads gives the code of its instrument. -/
theorem readContext_grounded (instId : Text) :
    RestGrounded call W (perform (.validatedTradingInstrumentIfPresent instId)) fun r =>
      ∀ context, r = .ok (some context) → ∀ instIdCode, context.HasCode instIdCode →
        W (.code instId instIdCode) ∧ W (.read instId instIdCode) := by
  refine perform_upholds (by rintro _ ⟨⟩) fun reply hreply context hcontext instIdCode hcode => ?_
  cases reply with
  | error message => cases hcontext
  | ok found =>
      cases hcontext
      exact ⟨hreply (.code instId instIdCode) ⟨rfl, context, rfl, hcode⟩,
        hreply (.read instId instIdCode) ⟨rfl, context, rfl, hcode⟩⟩

theorem validatedInstIdCode_grounded (instId : Text) :
    RestGrounded call W (validatedInstIdCode instId) fun r => ∀ instIdCode, r = .ok instIdCode →
      W (.code instId instIdCode) ∧ W (.read instId instIdCode) := by
  have herr : ∀ (e : OkxError) (instIdCode : ℕ), Except.error e = .ok instIdCode →
      W (.code instId instIdCode) ∧ W (.read instId instIdCode) := by rintro e instIdCode ⟨⟩
  have hvalidated : RestGrounded call W (validatedTradingInstrument instId) fun r =>
      ∀ context, r = .ok context → ∀ instIdCode, context.HasCode instIdCode →
        W (.code instId instIdCode) ∧ W (.read instId instIdCode) := by
    refine .bind (readContext_grounded instId) (fun found hfound => ?_) fun e _ => by
      rintro context ⟨⟩
    split
    · rename_i context
      rintro _ ⟨⟩
      exact hfound context rfl
    · rintro context ⟨⟩
  refine .bind hvalidated (fun context hcontext => ?_) fun e _ => herr e
  refine .bind (.ofExcept (P := fun r => r =
    context.instrument.websocketInstIdCode.mapError OkxError.failed) rfl) (fun code hcode => ?_)
    fun e _ => herr e
  split
  · rename_i instIdCode
    rintro _ ⟨⟩
    exact hcontext context rfl instIdCode (mapError_eq_ok.1 hcode.symm)
  · exact herr _

/-- The code a call finds for its instrument. -/
theorem websocketInstIdCode_grounded (instId : Text) :
    Grounded call W (websocketInstIdCode instId)
      fun r => ∀ instIdCode, r = .ok instIdCode → W (.code instId instIdCode) := by
  refine .bind (P := fun r => ∀ instIdCode, r = .ok (some instIdCode) →
    W (.code instId instIdCode)) ⟨by rintro _ ⟨⟩, ?_⟩ (fun cached hcached => ?_) fun e _ => by
      rintro _ ⟨⟩
  · rintro answer hanswer instIdCode ⟨⟩
    exact hanswer (.code instId instIdCode) ⟨rfl, rfl⟩
  · split
    · rename_i instIdCode
      rintro _ ⟨⟩
      exact hcached instIdCode rfl
    · refine .bind (Grounded.mapErr _ (validatedInstIdCode_grounded instId).viaRest)
        (fun instIdCode hcode => ?_) fun e _ => by rintro _ ⟨⟩
      obtain ⟨hcode, hread⟩ := hcode instIdCode rfl
      refine ⟨fun ground hground => ?_, fun _ _ => ?_⟩
      · rw [List.mem_singleton.1 hground]
        exact hread
      · rintro _ ⟨⟩
        exact hcode

/-- The route a call finds for its instrument. -/
theorem route_grounded (instId : Text) :
    RestGrounded call W (perform (.validatedOrderRoute instId)) fun r =>
      ∀ route, r = .ok route → W (.route instId route.1 route.2) := by
  refine perform_upholds (by rintro _ ⟨⟩) fun reply hreply route hroute => ?_
  cases reply with
  | error message => cases hroute
  | ok found =>
      cases hroute
      exact hreply (.route instId route.1 route.2) ⟨rfl, rfl⟩

/-- The command itself rests on what was told before it. -/
theorem sessionCommand_grounded {request : OkxWebsocketOrderRequest}
    (h : ∀ ground ∈ call.grounds (.segment (.beginCommand request)), W ground) :
    Grounded call W (sessionCommand request) fun _ => True := by
  refine ⟨h, fun began _ => ?_⟩
  cases began with
  | error error => trivial
  | ok u =>
      refine ⟨fun ground hground => ?_, fun outcome _ => ?_⟩
      · cases hground
      · cases outcome <;> trivial

/-! ## The calls of the REST client -/

/-- An order rests on its route. -/
theorem place_grounded (requested : OkxOrderSubmitReconciliation) (hcall : call.CancelsNoAlgo)
    (h : ∀ route, W (.route requested.instId route.1 route.2) → ∀ ground ∈
      call.grounds (.rest (.inr (.placeOrder (requested.body route)))), W ground) :
    RestGrounded call W requested.place fun _ => True := by
  have hsubmit : ∀ route, W (.route requested.instId route.1 route.2) → RestGrounded call W
      ((request (.placeOrder (requested.body route))).attempt >>= settleOrderSubmit requested)
      fun _ => True :=
    fun route hroute => ⟨h route hroute, fun reply _ => (tame_settleOrder _ reply).grounded hcall⟩
  rw [place_eq]
  refine .bind (route_grounded _) (fun route hroute => ?_) fun _ _ => trivial
  have hbody := hsubmit route (hroute route rfl)
  unfold submitOrder
  split
  · rw [Task.bind_assoc]
    exact (tame_perform _).upholds_bind (groundless hcall) (fun _ => hbody) fun _ => trivial
  · split
    · simp only [Task.bind_assoc]
      refine (tame_request (.reserve _ _) rfl).upholds_bind (groundless hcall) (fun _ => ?_)
        fun _ => trivial
      refine (tame_perform _).upholds_bind (groundless hcall) (fun _ => ?_) fun _ => trivial
      exact (tame_price _ _ _ _).upholds_bind (groundless hcall) (fun _ => hbody) fun _ => trivial
    · trivial

/-- A trigger order rests on its route. -/
theorem trigger_grounded (requested : AlgoSubmission) (hcall : call.CancelsNoAlgo)
    (h : ∀ tdMode tradeQuoteCurrency, W (.route requested.instId tdMode tradeQuoteCurrency) →
      ∀ ground ∈ call.grounds (.rest (.inr (.orderAlgo
        { instId := requested.instId, tdMode, side := requested.side, sz := requested.size,
          triggerPrice := requested.triggerPrice, tradeQuoteCurrency,
          clientOrderId := requested.clientOrderId }))), W ground) :
    RestGrounded call W requested.place fun _ => True := by
  rw [placeTrigger_eq]
  refine .bind (route_grounded _) (fun route hroute => ?_) fun _ _ => trivial
  refine (tame_perform _).upholds_bind (groundless hcall) (fun _ => ?_) fun _ => trivial
  exact ⟨h _ _ (hroute route rfl), fun reply _ => (tame_settleAlgo _ reply).grounded hcall⟩

/-- The history of a trigger order is asked for only where the open list was read and does not show
it live. -/
theorem cancelAlgo_grounded (instId algoId : Text) :
    RestGrounded (.rest (.cancelAlgoOrder instId algoId)) W (cancelAlgoOrder instId algoId)
      fun _ => True := by
  have htarget : RestGrounded (.rest (.cancelAlgoOrder instId algoId)) W
      (algoCancelTargetIsTerminalOrMissing instId algoId) fun _ => True := by
    refine ⟨by rintro _ ⟨⟩, fun reply hreply => ?_⟩
    cases reply with
    | error error => trivial
    | ok orders =>
        show RestGrounded _ W (if _ then _ else _) _
        split
        · trivial
        · rename_i hlive
          refine ⟨fun ground hground => ?_, fun found _ => ?_⟩
          · rw [List.mem_singleton.1 hground]
            refine hreply (.notLive instId algoId) ⟨rfl, orders, rfl, fun order horder hid => ?_⟩
            simp only [List.any_eq_true, Bool.and_eq_true, decide_eq_true_eq, not_exists,
              not_and, Bool.not_eq_true] at hlive
            exact hlive order horder hid
          · cases found with
            | error error => trivial
            | ok held => cases held <;> trivial
  refine ⟨by rintro _ ⟨⟩, fun route _ => ?_⟩
  cases route with
  | error message => trivial
  | ok route =>
      refine ⟨by rintro _ ⟨⟩, fun reply _ => ?_⟩
      cases reply with
      | error error =>
          show RestGrounded _ W (if error.hasApiCode ['1'] then _ else _) _
          split
          · refine .bind htarget.attempt (fun settled _ => ?_) fun _ _ => trivial
            split <;> trivial
          · trivial
      | ok acknowledgements =>
          show RestGrounded _ W (failing (singleAlgoAckByAlgoId acknowledgements algoId
            "cancel algo") >>= _) _
          refine .bind (.ofExcept (P := fun _ => True) trivial) (fun acknowledgement _ => ?_)
            fun _ _ => trivial
          split
          · trivial
          · refine .bind htarget (fun settled _ => ?_) fun _ _ => trivial
            split <;> trivial

/-- The codes that come with an instrument were read. -/
def HasRead (W : Ground → Prop) (instrument : OkxInstrument) : Prop :=
  ∀ instIdCode, instrument.websocketInstIdCode = .ok (some instIdCode) →
    W (.read instrument.instId instIdCode)

theorem checkInstrumentResponse_mem {instType instId : Text} {rows : List OkxInstrument}
    {row : OkxInstrument} (h : checkInstrumentResponse instType instId rows = .ok row) :
    row ∈ rows := by
  simp only [checkInstrumentResponse, bind_eq_ok, single_eq_ok, pure_eq_ok] at h
  obtain ⟨row, rfl, _, -, _, -, _, -, _, -, _, -, _, -, _, -, _, -, _, -, _, -, rfl⟩ := h
  exact List.mem_singleton_self _

theorem read_instruments (hcall : call.CancelsNoAlgo) (instType instId : Text) :
    RestGrounded call W (instrumentForType instType instId) fun r =>
      ∀ instrument, r = .ok instrument → HasRead W instrument := by
  have herr : ∀ (e : OkxError) (instrument : OkxInstrument),
      Except.error e = .ok instrument → HasRead W instrument := by rintro e instrument ⟨⟩
  have hchecked : ∀ validated rows, (∀ row ∈ rows, HasRead W row) →
      RestGrounded call W (validateInstrumentResponse instType instId validated rows) fun r =>
        ∀ instrument, r = .ok instrument → HasRead W instrument := by
    intro validated rows hrows
    refine .bind (.ofExcept (P := fun r => ∀ instrument, r = .ok instrument → instrument ∈ rows)
      fun instrument hinstrument => ?_) (fun instrument hinstrument => ?_) fun e _ => herr e
    · exact checkInstrumentResponse_mem (mapError_eq_ok.1 hinstrument)
    · refine (tame_perform _).upholds_bind (groundless hcall) (fun _ => ?_) herr
      have hremember : RestGrounded call W (perform (.rememberInstrumentSnapshot instrument) >>=
          fun _ => pure instrument) fun r => ∀ found, r = .ok found → HasRead W found := by
        refine (tame_perform _).upholds_bind (groundless hcall) (fun _ => ?_) herr
        rintro _ ⟨⟩
        exact hrows instrument (hinstrument instrument rfl)
      cases validated with
      | none => exact hremember
      | some validated =>
          exact (tame_failing _).upholds_bind (groundless hcall) (fun _ => hremember) herr
  refine (tame_perform _).upholds_bind (groundless hcall) (fun _ => ?_) herr
  refine (tame_perform _).upholds_bind (groundless hcall) (fun validated => ?_) herr
  refine .bind (P := fun r => ∀ rows, r = .ok rows → ∀ row ∈ rows, HasRead W row)
    ⟨groundless hcall _ rfl, ?_⟩ (fun rows hrows => ?_) fun e _ => herr e
  · rintro reply hreply rows rfl row hrow instIdCode hcode
    exact hreply (.read row.instId instIdCode) ⟨rows, rfl, row, hrow, rfl, hcode⟩
  · refine .bind (hchecked validated rows (hrows rows rfl)).attempt ?_ ?_
    · rintro _ ⟨outcome, ⟨⟩, hread⟩
      split
      · exact hread
      · split
        · exact (tame_perform _).upholds_bind (groundless hcall) (fun _ => herr _) herr
        · exact herr _
    · rintro e ⟨outcome, ⟨⟩, -⟩

/-! ## The calls of the trading client -/

/-- What is remembered was read. -/
theorem remember_grounded {instrument : OkxInstrument} (hcall : call.CancelsNoAlgo)
    (hread : HasRead W instrument) :
    Grounded call W (OkxTradingClient.rememberInstIdCode instrument) fun _ => True := by
  refine .bind (plain_configured.grounded hcall) (fun configured _ => ?_) fun _ _ => trivial
  split
  · split
    · trivial
    · trivial
    · rename_i instIdCode hcode
      refine ⟨fun ground hground => ?_, fun _ _ => trivial⟩
      rw [List.mem_singleton.1 hground]
      exact hread instIdCode hcode
  · trivial

theorem instruments_grounded (hcall : call.CancelsNoAlgo) (instId : Text) :
    Grounded call W (OkxTradingClient.instruments instId) fun _ => True := by
  refine .bind (RestGrounded.viaRest (P := fun r => ∀ instrument, r = .ok instrument →
    HasRead W instrument) ?_) (fun instrument hread => ?_) fun _ _ => trivial
  · refine (tame_perform _).upholds_bind (groundless hcall) (fun validated => ?_) fun e => by
      rintro instrument ⟨⟩
    split
    · exact read_instruments hcall _ _
    · rintro instrument ⟨⟩
  · exact .bind (remember_grounded hcall (hread instrument rfl)) (fun _ _ => trivial)
      fun _ _ => trivial

theorem validate_grounded (hcall : call.CancelsNoAlgo) (requested : RequestedTradingInstrument)
    (accountConfig : OkxAccountConfig) :
    Grounded call W (OkxTradingClient.validateTradingInstrument requested accountConfig)
      fun _ => True := by
  refine .bind (RestGrounded.viaRest (validate_upholds (groundless hcall) accountConfig
    (read_instruments hcall _ _))) (fun generation hread => ?_) fun _ _ => trivial
  exact .bind (remember_grounded hcall (hread generation rfl)) (fun _ _ => trivial)
    fun _ _ => trivial

/-- A new order names its instrument by the code and the route that were told. -/
theorem placeOrder_grounded (command : OkxRegularOrderCommand) :
    Grounded (.placeOrder command) W (OkxTradingClient.placeOrder command) fun _ => True := by
  have hcall : (TradingCall.placeOrder command).CancelsNoAlgo := by rintro _ _ ⟨⟩
  have hplace : Grounded (.placeOrder command) W (OkxTradingClient.restPlaceOrder command)
      fun _ => True := by
    refine (place_grounded command.reconciliation hcall ?_).viaRest
    intro route hroute ground hground
    rw [List.mem_singleton.1 hground]
    exact hroute
  have hsession : Grounded (.placeOrder command) W (placeOrderWithWebsocket command)
      fun _ => True := by
    refine .bind (plain_ensureSession.grounded hcall) (fun _ _ => ?_) fun _ _ => trivial
    refine .bind (websocketInstIdCode_grounded _) (fun instIdCode hcode => ?_) fun _ _ => trivial
    refine .bind (PlainTask.grounded ((tame_prepareWebsocketPlace _ _ _ _).viaRest.mapErr _) hcall)
      (fun expTime _ => ?_) fun _ _ => trivial
    refine .bind (Grounded.mapErr _ (route_grounded _).viaRest) (fun route hroute => ?_)
      fun _ _ => trivial
    refine sessionCommand_grounded fun ground hground => ?_
    rcases List.mem_cons.1 hground with rfl | hground
    · exact hcode instIdCode rfl
    · rw [List.mem_singleton.1 hground]
      exact hroute route rfl
  have hcommand : Grounded (.placeOrder command) W ((placeOrderWithWebsocket command).handle
      (OkxTradingClient.placeOrderFallback command)) fun _ => True := by
    refine Task.Upholds.handle hsession fun outcome _ => ?_
    cases outcome with
    | ok acknowledgement => trivial
    | error error => cases error with
      | unavailable error => exact hplace
      | preparationRejected error => trivial
      | ambiguous error => exact (tame_reconcileOrderSubmit _ _).viaRest.grounded hcall
  refine .bind (plain_configured.grounded hcall) (fun configured _ => ?_) fun _ _ => trivial
  split
  · split
    · exact hplace
    · exact hcommand
    · exact hcommand
  · exact hplace

theorem amendOrder_grounded (command : OrderAmendCommand) :
    Grounded (.amendOrder command) W (OkxTradingClient.amendOrder command) fun _ => True := by
  have hcall : (TradingCall.amendOrder command).CancelsNoAlgo := by rintro _ _ ⟨⟩
  have hrest : Grounded (.amendOrder command) W (viaRest (OkxTrading.amendOrder command.amend))
      fun _ => True := (restGrounded_trivial rfl _).viaRest
  have hsession : Grounded (.amendOrder command) W (amendOrderWithWebsocket command)
      fun _ => True := by
    refine .bind (plain_ensureSession.grounded hcall) (fun _ _ => ?_) fun _ _ => trivial
    refine .bind (websocketInstIdCode_grounded _) (fun instIdCode hcode => ?_) fun _ _ => trivial
    refine .bind (PlainTask.grounded ((tame_prepareWebsocketAmend _ _ _).viaRest.mapErr _) hcall)
      (fun expTime _ => ?_) fun _ _ => trivial
    refine sessionCommand_grounded fun ground hground => ?_
    rw [List.mem_singleton.1 hground]
    exact hcode instIdCode rfl
  refine .bind (.ofExcept (P := fun _ => True) trivial) (fun _ _ => ?_) fun _ _ => trivial
  refine .bind (plain_configured.grounded hcall) (fun configured _ => ?_) fun _ _ => trivial
  split
  · refine Task.Upholds.handle hsession fun outcome _ => ?_
    cases outcome with
    | ok acknowledgement => trivial
    | error error => cases error with
      | unavailable error => exact hrest
      | preparationRejected error => trivial
      | ambiguous error => exact (tame_reconcileOrderAmend _ _).viaRest.grounded hcall
  · exact hrest

theorem cancelOrder_grounded (instId clientOrderId : Text) :
    Grounded (.cancelOrder instId clientOrderId) W
      (OkxTradingClient.cancelOrder instId clientOrderId) fun _ => True := by
  have hcall : (TradingCall.cancelOrder instId clientOrderId).CancelsNoAlgo := by rintro _ _ ⟨⟩
  have hrest : Grounded (.cancelOrder instId clientOrderId) W
      (viaRest (OkxTrading.cancelOrder instId clientOrderId)) fun _ => True :=
    (restGrounded_trivial rfl _).viaRest
  have hprepare : PlainTask (viaRest (prepareWebsocketCancelOrder instId)) :=
    Tame.viaRest (tame_request (.reserve _ _) rfl)
  have hsession : Grounded (.cancelOrder instId clientOrderId) W
      (cancelOrderWithWebsocket instId clientOrderId) fun _ => True := by
    refine .bind (plain_ensureSession.grounded hcall) (fun _ _ => ?_) fun _ _ => trivial
    refine .bind (websocketInstIdCode_grounded _) (fun instIdCode hcode => ?_) fun _ _ => trivial
    refine .bind (PlainTask.grounded (hprepare.mapErr _) hcall) (fun _ _ => ?_) fun _ _ => trivial
    refine .bind (sessionCommand_grounded fun ground hground => ?_) (fun _ _ => trivial)
      fun _ _ => trivial
    rw [List.mem_singleton.1 hground]
    exact hcode instIdCode rfl
  refine .bind (plain_configured.grounded hcall) (fun configured _ => ?_) fun _ _ => trivial
  split
  · refine Task.Upholds.handle hsession fun outcome _ => ?_
    cases outcome with
    | ok u => trivial
    | error error => cases error with
      | unavailable error | ambiguous error => exact hrest
      | preparationRejected error => trivial
  · exact hrest

/-- The calls of the REST client itself. -/
theorem client_grounded (call : ClientCall) :
    Grounded (.rest call) W (viaRest call.task) fun _ => True := by
  have hdiscard : ∀ {call : TradingCall} {α : Type} {task : ClientTask α},
      RestGrounded call W task (fun _ => True) →
      Grounded call W (viaRest (discardValue task)) fun _ => True :=
    fun h => RestGrounded.viaRest (Task.Upholds.bind (f := fun _ => pure ()) h
      (fun _ _ => trivial) fun _ _ => trivial)
  cases call with
  | placeOrder instId side kind size price clientOrderId =>
      refine hdiscard (place_grounded ⟨instId, side, kind, size, price, clientOrderId⟩
        (by rintro _ _ ⟨⟩) fun route hroute ground hground => ?_)
      rw [List.mem_singleton.1 hground]
      exact hroute
  | placeTriggerOrder instId side size triggerPrice clientOrderId =>
      refine hdiscard (trigger_grounded ⟨instId, side, size, triggerPrice, clientOrderId⟩
        (by rintro _ _ ⟨⟩) fun tdMode tradeQuoteCurrency hroute ground hground => ?_)
      rw [List.mem_singleton.1 hground]
      exact hroute
  | cancelAlgoOrder instId algoId => exact (cancelAlgo_grounded instId algoId).viaRest
  | _ => exact (restGrounded_trivial rfl _).viaRest

end Parts

/-- **Every call asks only for what it was told.** -/
theorem call_asks (call : TradingCall) :
    call.task.AsksOn Ground.ToldBy fun q ground => ground ∈ call.grounds q := by
  intro W
  have hreturn : ∀ {α : Type} {task : TradingTask α} {f : α → Option OkxOrderAck},
      Grounded call W task (fun _ => True) →
      Grounded call W (do let a ← task; return f a : TradingTask _) fun _ => True :=
    fun h => .bind h (fun _ _ => trivial) fun _ _ => trivial
  cases call with
  | prepareOrderCommandPath =>
      exact hreturn (plain_prepareOrderCommandPath.grounded (by rintro _ _ ⟨⟩))
  | placeOrder command => exact hreturn (placeOrder_grounded command)
  | cancelOrder instId clientOrderId => exact hreturn (cancelOrder_grounded instId clientOrderId)
  | amendOrder command => exact hreturn (amendOrder_grounded command)
  | instruments instId => exact hreturn (instruments_grounded (by rintro _ _ ⟨⟩) instId)
  | validateTradingInstrument requested accountConfig =>
      exact hreturn (validate_grounded (by rintro _ _ ⟨⟩) requested accountConfig)
  | rest call => exact hreturn (client_grounded call)

end OkxTrading
