import OkxTrading.Effect.Guarded
import OkxTrading.Websocket.TradingSession

/-!
# The trading client

`okx/trading_client.rs`: order commands go out over a WebSocket session where one is available, and
over REST otherwise.  Any number of calls share one session, whose lock a command holds from its
first await to its end; a call may be dropped wherever it waits.

* `OkxWebsocketOrderCommands`, `TradingState` — what the calls share.
* `TradingOp`, `TradingRequest` — what a call asks: a segment on the shared state, or an answer.
* `ensureWebsocketOrderSessionAvailable`, `websocketInstIdCode`, `placeOrderWithWebsocket`, … — a
  command over the session.
* `OkxTradingClient.placeOrder`, `cancelOrder`, `amendOrder` — the fallback to REST, and the
  reconciliation of a command whose acknowledgement is missing.
* `tradingSystem` — any number of calls beside messages, the engine and the clock.

Latencies are not part of it.
-/

namespace OkxTrading

open Effect

/-! ## Arguments -/

/-- A numeric argument of a command: the text that is sent, and what it reads as. -/
structure OrderNumber where
  text : Text
  decimal : DecimalText
  deriving DecidableEq, Repr

/-- `OkxRegularOrderCommand`: an order as a caller asks for it. -/
structure OkxRegularOrderCommand where
  instId : Text
  side : OrderSide
  kind : OrderKind
  size : OrderNumber
  price : Option OrderNumber
  clientOrderId : Text
  deriving DecidableEq, Repr

/-- An `OkxOrderAmend` with the texts of its numbers. -/
structure OrderAmendCommand where
  instId : Text
  side : OrderSide
  clientOrderId : Text
  newSize : Option OrderNumber
  newPrice : Option OrderNumber
  deriving DecidableEq, Repr

/-- What the order has to look like where it is looked up. -/
def OkxRegularOrderCommand.reconciliation (command : OkxRegularOrderCommand) :
    OkxOrderSubmitReconciliation where
  instId := command.instId
  side := command.side
  kind := command.kind
  size := command.size.decimal
  price := command.price.map (·.decimal)
  clientOrderId := command.clientOrderId

/-- The amendment without the texts of its numbers. -/
def OrderAmendCommand.amend (command : OrderAmendCommand) : OkxOrderAmend where
  instId := command.instId
  side := command.side
  clientOrderId := command.clientOrderId
  newSize := command.newSize.map (·.decimal)
  newPrice := command.newPrice.map (·.decimal)

/-! ## What the calls share -/

/-- The command that holds the session, and the call it belongs to. -/
structure HeldCommand where
  job : ℕ
  request : OkxWebsocketOrderRequest
  deriving DecidableEq, Repr

/-- `held` is the lock of the session: who has it. -/
structure OkxWebsocketOrderCommands where
  session : Option TradingSession
  held : Option HeldCommand
  available : Bool
  prepareAttempted : Bool
  deriving DecidableEq

/-- The REST client beside the session for order commands. -/
structure TradingState where
  rest : ClientState
  /-- `websocket_order_commands` is there. -/
  configured : Bool
  commands : OkxWebsocketOrderCommands
  websocketInstIdCodes : Text → Option ℕ
  websocketRequestNonce : ℕ
  /-- What a call has not yet taken of its finished command. -/
  outcomes : ℕ → Option CommandOutcome

namespace OkxWebsocketOrderCommands

/-- No session yet. -/
def new : OkxWebsocketOrderCommands where
  session := none
  held := none
  available := false
  prepareAttempted := false

end OkxWebsocketOrderCommands

namespace TradingState

variable (s : TradingState)

def new (rest : ClientState) (configured : Bool) : TradingState where
  rest := rest
  configured := configured
  commands := .new
  websocketInstIdCodes := fun _ => none
  websocketRequestNonce := 1
  outcomes := fun _ => none

/-- What a command leaves behind when it ends: the lock is free, and where the command failed the
session is given up. -/
def finishCommand (job : ℕ) (session : TradingSession) (outcome : CommandOutcome) : TradingState :=
  { s with
    commands := match outcome with
      | .ok _ => { s.commands with session := some session, held := none }
      | .error _ => { s.commands with session := none, held := none, available := false }
    outcomes := Function.update s.outcomes job (some outcome) }

/-- The session after an event, and the end of the command where it ended with it. -/
def afterSession (held : HeldCommand) : TradingSession × Option CommandOutcome → TradingState
  | (session, none) =>
      { s with commands := { s.commands with session := some session, held := some held } }
  | (session, some outcome) => s.finishCommand held.job session outcome

/-- `websocket_order_session` and the command on it, up to its first await. -/
def beginCommand (job : ℕ) (request : OkxWebsocketOrderRequest) :
    Option (Result Unit × TradingState) :=
  if s.commands.held.isSome then none
  else match s.commands.session with
    | none =>
        some (.error "OKX WebSocket order session is not connected; using REST fallback",
          { s with commands := { s.commands with available := false } })
    | some session =>
        let called := { session with websocketRequestNonce := s.websocketRequestNonce }.call
          request s.rest.now
        let s := { s with websocketRequestNonce := called.1.websocketRequestNonce }
        some (.ok (), s.afterSession ⟨job, request⟩ called)

/-- Something happens to the command that holds the session. -/
def onSession (event : SessionEvent) : Option TradingState :=
  match s.commands.held, s.commands.session with
  | some held, some session => some (s.afterSession held (session.step event))
  | _, _ => none

end TradingState

/-! ## Requests -/

/-- A segment on the shared state. -/
inductive TradingOp where
  | configured
  | loadAvailable
  | loadPrepareAttempted
  | storePrepareAttempted
  | storeUnavailable
  /-- `*session = None`, with the lock. -/
  | clearSession
  /-- `Instant::now`. -/
  | instantNow
  /-- `*session = Some(connected)`, with the lock, and `available`. -/
  | storeSession (connectedAt : Instant)
  | cachedInstIdCode (instId : Text)
  | rememberInstIdCode (instId : Text) (instIdCode : ℕ)
  | beginCommand (request : OkxWebsocketOrderRequest)
  | commandOutcome
  deriving DecidableEq, Repr

namespace TradingOp

/-- What a segment returns where it succeeds. -/
@[reducible] def Value : TradingOp → Type
  | configured => Bool
  | loadAvailable => Bool
  | loadPrepareAttempted => Bool
  | storePrepareAttempted => Unit
  | storeUnavailable => Unit
  | clearSession => Unit
  | instantNow => Instant
  | storeSession _ => Unit
  | cachedInstIdCode _ => Option ℕ
  | rememberInstIdCode _ _ => Unit
  | beginCommand _ => Result Unit
  | commandOutcome => CommandOutcome

/-- The segment of a call; `none` while it waits for the lock, or for its command. -/
def run : (op : TradingOp) → ℕ → TradingState → Option (op.Value × TradingState)
  | configured, _, s => some (s.configured, s)
  | loadAvailable, _, s => some (s.commands.available, s)
  | loadPrepareAttempted, _, s => some (s.commands.prepareAttempted, s)
  | storePrepareAttempted, _, s =>
      some ((), { s with commands := { s.commands with prepareAttempted := true } })
  | storeUnavailable, _, s =>
      some ((), { s with commands := { s.commands with available := false } })
  | clearSession, _, s =>
      if s.commands.held.isSome then none
      else some ((), { s with commands := { s.commands with session := none } })
  | instantNow, _, s => some (s.rest.now, s)
  | storeSession connectedAt, _, s =>
      if s.commands.held.isSome then none
      else
        let session := TradingSession.connected s.websocketRequestNonce connectedAt
        some ((), { s with
          commands := { s.commands with session := some session, available := true } })
  | cachedInstIdCode instId, _, s => some (s.websocketInstIdCodes instId, s)
  | rememberInstIdCode instId instIdCode, _, s =>
      let websocketInstIdCodes := Function.update s.websocketInstIdCodes instId (some instIdCode)
      some ((), { s with websocketInstIdCodes })
  | beginCommand request, job, s => s.beginCommand job request
  | commandOutcome, job, s =>
      (s.outcomes job).map fun outcome =>
        (outcome, { s with outcomes := Function.update s.outcomes job none })

end TradingOp

/-- What a call waits for. -/
inductive TradingRequest where
  | segment (op : TradingOp)
  /-- A request of the REST client. -/
  | rest (request : ClientRequest)
  /-- `OkxWebsocketTradingCommandSession::connect`, with its login. -/
  | connect (loginTimestamp : ℤ)
  deriving DecidableEq

/-- The answer to it. -/
@[reducible] def TradingRequest.Reply : TradingRequest → Type
  | .segment op => op.Value
  | .rest request => request.Reply
  | .connect _ => Except OkxError Unit

/-- A call of the trading client. -/
abbrev TradingTask (α : Type) := Task OkxError TradingRequest TradingRequest.Reply α

/-- `OkxWebsocketOrderCommandError`: how far a command over the session came. -/
inductive OkxWebsocketOrderCommandError where
  | unavailable (error : OkxError)
  | preparationRejected (error : OkxError)
  | ambiguous (error : OkxError)
  deriving DecidableEq, Repr

/-- A command over the session. -/
abbrev SessionTask (α : Type) :=
  Task OkxWebsocketOrderCommandError TradingRequest TradingRequest.Reply α

/-- A segment on the shared state. -/
def onShared {ε : Type} (op : TradingOp) : Task ε TradingRequest TradingRequest.Reply op.Value :=
  Task.ask (TradingRequest.segment op)

/-- A call of the REST client. -/
def viaRest {α : Type} (task : ClientTask α) : TradingTask α :=
  task.lift TradingRequest.rest fun _ answer => answer

/-- `map_err`. -/
def mapErr {ε ε' α : Type} (f : ε → ε')
    (task : Task ε TradingRequest TradingRequest.Reply α) :
    Task ε' TradingRequest TradingRequest.Reply α :=
  task.handle fun outcome => .done (outcome.mapError f)

/-! ## The session -/

/-- The login counts in seconds. -/
def websocketLoginTimestampFromUnixMillis (unixMillis : ℤ) : Result ℤ := do
  let unixSeconds := unixMillis.tdiv 1000
  ensure (0 < unixSeconds) "OKX WebSocket login timestamp must be positive"
  return unixSeconds

/-- A timestamp of the exchange's clock, for the login. -/
def websocketLoginTimestamp : ClientTask ℤ := do
  match ← (request .privateRequestTiming).attempt with
  | .error error => Task.stop (error.context "failed syncing OKX server time for WebSocket login")
  | .ok unixMillis => failing (websocketLoginTimestampFromUnixMillis unixMillis)

/-- A new session takes the place of the old one. -/
def connectWebsocketOrderCommands : TradingTask Unit := do
  let loginTimestamp ← mapErr (·.context
    "failed obtaining OKX server-time-backed WebSocket login timestamp for order command session")
    (viaRest websocketLoginTimestamp)
  let connected : Except OkxError Unit ← Task.ask (TradingRequest.connect loginTimestamp)
  Task.ofExcept connected
  let connectedAt ← onShared .instantNow
  onShared (.storeSession connectedAt)

/-- The session is given up; commands go over REST until there is a new one. -/
def markWebsocketOrderCommandsUnavailable {ε : Type} :
    Task ε TradingRequest TradingRequest.Reply Unit := do
  onShared .storeUnavailable
  onShared .clearSession

/-- The clock is read before the session is connected. -/
def prepareWebsocketOrderCommands : TradingTask Unit := do
  let _ ← viaRest (request .privateRequestTiming)
  connectWebsocketOrderCommands

/-- A session that was given up is connected again, once it was prepared. -/
def ensureWebsocketOrderSessionAvailable : SessionTask Unit := do
  if ← onShared .loadAvailable then return ()
  else if ← onShared .loadPrepareAttempted then
    connectWebsocketOrderCommands.handle fun
      | .ok () => return ()
      | .error error => do
          markWebsocketOrderCommandsUnavailable
          Task.stop (.unavailable (error.context
            "failed reconnecting OKX WebSocket order command session; using REST fallback"))
  else Task.stop (.unavailable (.failed
    "OKX WebSocket order command path is not prepared; using REST fallback"))

/-- `validated_trading_instrument`. -/
def validatedTradingInstrument (instId : Text) : ClientTask ValidatedTradingContext := do
  let some validated ← perform (.validatedTradingInstrumentIfPresent instId)
    | fail "OKX trading tuple was not validated before the requested operation"
  return validated

/-- The `instIdCode` of a validated instrument that is not yet in the cache. -/
def validatedInstIdCode (instId : Text) : ClientTask ℕ := do
  let validated ← validatedTradingInstrument instId
  let some instIdCode ← failing validated.instrument.websocketInstIdCode
    | fail "OKX instrument omitted instIdCode required for WebSocket order commands"
  return instIdCode

/-- The code held for an instrument, else that of its validated row. -/
def websocketInstIdCode (instId : Text) : SessionTask ℕ := do
  match ← onShared (.cachedInstIdCode instId) with
  | some instIdCode => return instIdCode
  | none => do
      let instIdCode ← mapErr .unavailable (viaRest (validatedInstIdCode instId))
      onShared (.rememberInstIdCode instId instIdCode)
      return instIdCode

/-- Whether REST may take over after an error of the session. -/
def mapWebsocketCommandError : OkxWebsocketCommandError → OkxWebsocketOrderCommandError
  | .notSent error => .unavailable (.failed error)
  | .ambiguous error => .ambiguous (.failed error)

/-- A command from the lock of the session to its end. -/
def sessionCommand (request : OkxWebsocketOrderRequest) : SessionTask OkxOrderAck := do
  match ← onShared (.beginCommand request) with
  | .error error => Task.stop (.unavailable (.failed error))
  | .ok () =>
      match ← onShared .commandOutcome with
      | .ok acknowledgement => return acknowledgement
      | .error error => Task.stop (mapWebsocketCommandError error)

/-- `expTime`, as it is sent. -/
def expTimeText (unixMillis : ℤ) : Text := (toString unixMillis).toList

/-- An order over the session. -/
def placeOrderWithWebsocket (command : OkxRegularOrderCommand) : SessionTask OkxOrderAck := do
  ensureWebsocketOrderSessionAvailable
  let instIdCode ← websocketInstIdCode command.instId
  let expTime ← mapErr .preparationRejected (viaRest (prepareWebsocketPlaceOrder command.instId
    command.side command.kind (command.price.map (·.decimal))))
  let (tdMode, tradeQuoteCurrency) ← mapErr .preparationRejected
    (viaRest (perform (.validatedOrderRoute command.instId)))
  -- The id of a command is issued where it holds the session.
  sessionCommand (.place {
    id := []
    instIdCode
    expTime := expTimeText expTime
    side := command.side
    kind := command.kind
    size := command.size.text
    price := command.price.map (·.text)
    tdMode
    tradeQuoteCurrency
    clientOrderId := command.clientOrderId
    tag := okxCancelAllAfterTag.toList })

/-- An amendment over the session. -/
def amendOrderWithWebsocket (amend : OrderAmendCommand) : SessionTask OkxOrderAck := do
  ensureWebsocketOrderSessionAvailable
  let instIdCode ← websocketInstIdCode amend.instId
  let expTime ← mapErr .preparationRejected (viaRest (prepareWebsocketAmendOrder amend.instId
    amend.side (amend.newPrice.map (·.decimal))))
  sessionCommand (.amend {
    id := []
    instIdCode
    expTime := expTimeText expTime
    clientOrderId := amend.clientOrderId
    requestId := []
    newSize := amend.newSize.map (·.text)
    newPrice := amend.newPrice.map (·.text) })

/-- A cancellation over the session. -/
def cancelOrderWithWebsocket (instId clientOrderId : Text) : SessionTask Unit := do
  ensureWebsocketOrderSessionAvailable
  let instIdCode ← websocketInstIdCode instId
  mapErr .unavailable (viaRest (prepareWebsocketCancelOrder instId))
  let _ ← sessionCommand (.cancel { id := [], instIdCode, clientOrderId })
  return ()

/-! ## The client -/

namespace OkxTradingClient

/-- `prepare_order_command_path`: a failure gives the session up. -/
def prepareOrderCommandPath : TradingTask Unit := do
  if ← onShared .configured then
    onShared .storePrepareAttempted
    prepareWebsocketOrderCommands.handle fun
      | .ok () => return ()
      | .error error => do
          markWebsocketOrderCommandsUnavailable
          Task.stop error
  else return ()

/-- The `instIdCode` of what was read is kept where commands are configured. -/
def rememberInstIdCode (instrument : OkxInstrument) : TradingTask Unit := do
  if ← onShared .configured then
    match instrument.websocketInstIdCode with
    | .error message => Task.stop (.failed message)
    | .ok none => return ()
    | .ok (some instIdCode) => onShared (.rememberInstIdCode instrument.instId instIdCode)
  else return ()

/-- `instruments`; the code of the row is remembered. -/
def instruments (instId : Text) : TradingTask OkxInstrument := do
  let instrument ← viaRest (do
    match ← perform (.validatedTradingInstrumentIfPresent instId) with
    | some validated => instrumentForType validated.instType.asOkx instId
    | none => fail "OKX trading tuple was not validated before metadata refresh")
  rememberInstIdCode instrument
  return instrument

/-- `validate_trading_instrument`; the code of the row is remembered. -/
def validateTradingInstrument (requested : RequestedTradingInstrument)
    (accountConfig : OkxAccountConfig) : TradingTask ValidatedCapabilityGeneration := do
  let validated ← viaRest (OkxTrading.validateTradingInstrument requested accountConfig)
  rememberInstIdCode validated.context.instrument
  return validated

/-- `place_order` of the REST client. -/
def restPlaceOrder (command : OkxRegularOrderCommand) : TradingTask OkxOrderAck :=
  viaRest (OkxTrading.placeOrder command.instId command.side command.kind command.size.decimal
    (command.price.map (·.decimal)) command.clientOrderId)

/-- What `place_order` makes of the end of its command. -/
def placeOrderFallback (command : OkxRegularOrderCommand) :
    Except OkxWebsocketOrderCommandError OkxOrderAck → TradingTask OkxOrderAck
  | .ok acknowledgement => return acknowledgement
  | .error (.unavailable _) => restPlaceOrder command
  | .error (.preparationRejected error) => Task.stop (error.context
      "OKX WebSocket order preparation failed before command submission; refusing REST fallback")
  | .error (.ambiguous error) =>
      viaRest (reconcileOrderSubmitFailure command.reconciliation error)

/-- `place_order`: market orders and a client without a session go over REST. -/
def placeOrder (command : OkxRegularOrderCommand) : TradingTask OkxOrderAck := do
  if ← onShared .configured then
    match command.kind with
    | .market => restPlaceOrder command
    | .limit | .postOnly =>
        (placeOrderWithWebsocket command).handle (placeOrderFallback command)
  else restPlaceOrder command

/-- What `cancel_order` makes of the end of its command. -/
def cancelOrderFallback (instId clientOrderId : Text) :
    Except OkxWebsocketOrderCommandError Unit → TradingTask Unit
  | .ok () => return ()
  | .error (.unavailable _) => viaRest (OkxTrading.cancelOrder instId clientOrderId)
  | .error (.preparationRejected error) => Task.stop (error.context
      "OKX WebSocket cancel preparation failed before command submission; refusing REST fallback")
  | .error (.ambiguous _) => viaRest (OkxTrading.cancelOrder instId clientOrderId)

/-- `cancel_order`, with REST behind the session. -/
def cancelOrder (instId clientOrderId : Text) : TradingTask Unit := do
  if ← onShared .configured then
    (cancelOrderWithWebsocket instId clientOrderId).handle
      (cancelOrderFallback instId clientOrderId)
  else viaRest (OkxTrading.cancelOrder instId clientOrderId)

/-- What `amend_order` makes of the end of its command. -/
def amendOrderFallback (amend : OkxOrderAmend) :
    Except OkxWebsocketOrderCommandError OkxOrderAck → TradingTask OkxOrderAck
  | .ok acknowledgement => return acknowledgement
  | .error (.unavailable _) => viaRest (OkxTrading.amendOrder amend)
  | .error (.preparationRejected error) => Task.stop (error.context
      "OKX WebSocket amend preparation failed before command submission; refusing REST fallback")
  | .error (.ambiguous error) => viaRest (reconcileOrderAmendFailure amend error)

/-- `amend_order`, with REST behind the session. -/
def amendOrder (command : OrderAmendCommand) : TradingTask OkxOrderAck := do
  Task.ofExcept (command.amend.validate.mapError OkxError.failed)
  if ← onShared .configured then
    (amendOrderWithWebsocket command).handle (amendOrderFallback command.amend)
  else viaRest (OkxTrading.amendOrder command.amend)

end OkxTradingClient

/-! ## All calls beside each other -/

/-- The calls of the trading client that run beside each other. -/
inductive TradingCall where
  | prepareOrderCommandPath
  | placeOrder (command : OkxRegularOrderCommand)
  | cancelOrder (instId clientOrderId : Text)
  | amendOrder (command : OrderAmendCommand)
  | instruments (instId : Text)
  | validateTradingInstrument (requested : RequestedTradingInstrument)
      (accountConfig : OkxAccountConfig)
  /-- Calls that the REST client answers alone, and the calls of its other users. -/
  | rest (call : ClientCall)
  deriving DecidableEq

/-- The acknowledgement of a call, where it returns one. -/
def TradingCall.task : TradingCall → TradingTask (Option OkxOrderAck)
  | .prepareOrderCommandPath => do
      OkxTradingClient.prepareOrderCommandPath
      return none
  | .placeOrder command => do
      return some (← OkxTradingClient.placeOrder command)
  | .cancelOrder instId clientOrderId => do
      OkxTradingClient.cancelOrder instId clientOrderId
      return none
  | .amendOrder command => do
      return some (← OkxTradingClient.amendOrder command)
  | .instruments instId => do
      let _ ← OkxTradingClient.instruments instId
      return none
  | .validateTradingInstrument requested accountConfig => do
      let _ ← OkxTradingClient.validateTradingInstrument requested accountConfig
      return none
  | .rest call => do
      viaRest call.task
      return none

/-- What happens beside the calls. -/
inductive TradingEvent where
  | client (event : ClientEvent)
  /-- The send a command waits for is done. -/
  | sent (ok : Bool)
  | arrival (arrival : TradingArrival)
  | timeout

/-- What happens beside the calls: to the REST client, and to the session. -/
def tradingOutside (s : TradingState) : TradingEvent → Option TradingState
  | .client event => (clientOutside s.rest event).map fun rest => { s with rest }
  | .sent ok => s.onSession (.sent ok)
  | .arrival arrival => s.onSession (.arrival arrival s.rest.now)
  | .timeout => s.onSession .timeout

/-- A call that is dropped lets go of the session, which stays as it is. -/
def tradingDropped (job : ℕ) (s : TradingState) : TradingState :=
  match s.commands.held with
  | none => s
  | some held =>
      if held.job = job then
        { s with commands := { s.commands with
            held := none
            session := s.commands.session.map fun session => (session.step .abandon).1 } }
      else s

/-- The segments, of this client and of the REST client. -/
def tradingSegment : (q : TradingRequest) →
    Option (ℕ → TradingState → Option (q.Reply × TradingState))
  | .segment op => some op.run
  | .rest (.inl op) => some fun _ s =>
      let (answer, rest) := op.run s.rest
      some (answer, { s with rest })
  | .rest (.inr _) => none
  | .connect _ => none

/-- The trading client as calls over one shared state. -/
def tradingSystem : Guarded.System OkxError TradingState TradingEvent TradingCall TradingRequest
    TradingRequest.Reply (Option OkxOrderAck) where
  segment := tradingSegment
  outside := tradingOutside
  program := TradingCall.task
  dropped job _ := tradingDropped job

abbrev TradingPool := Guarded.Pool OkxError TradingState TradingCall TradingRequest
  TradingRequest.Reply (Option OkxOrderAck)
abbrev TradingTurn := Guarded.Turn TradingEvent TradingCall TradingRequest TradingRequest.Reply

/-! ## What reaches the exchange -/

/-- A mutation that is handed over. -/
inductive Submission where
  | websocket (request : OkxWebsocketOrderRequest)
  | rest (query : RestRequest)
  deriving DecidableEq

/-- It creates or amends an order. -/
def Submission.isExposure : Submission → Bool
  | .websocket (.place _) => true
  | .websocket (.amend _) => true
  | .websocket (.cancel _) => false
  | .rest query => query.isExposure

/-- The command whose frame has been written when a send is done. -/
def TradingState.sending (s : TradingState) : Option HeldCommand :=
  match s.commands.held, s.commands.session with
  | some held, some session =>
      match session.running with
      | some (_, .sending) => some held
      | _ => none
  | _, _ => none

/-- What a turn hands over, and for which call: a frame that was sent, and a REST request that was
answered.  A call that is dropped may have handed over what it was sending or waited for. -/
def handedOver (pool : TradingPool) : TradingTurn → List (ℕ × Submission)
  | .outside (.sent true) =>
      (pool.shared.sending.map fun held => (held.job, .websocket held.request)).toList
  | .answer k ⟨.rest (.inr query), _⟩ => [(k, .rest query)]
  | .drop k =>
      match Guarded.System.waiting pool k with
      | some (.rest (.inr query)) => [(k, .rest query)]
      | _ =>
          match pool.shared.sending with
          | some held => if held.job = k then [(k, .websocket held.request)] else []
          | none => []
  | _ => []

end OkxTrading
