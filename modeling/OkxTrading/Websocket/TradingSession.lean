import OkxTrading.Websocket.Trading

/-!
# A session for order commands

`OkxWebsocketTradingCommandSession` of `okx/websocket/trading_session.rs` once it is logged in.  A
command holds the session from its call to its end, and may be abandoned wherever it waits; what it
has read of the stream stays read.

* `TradingSession` — the session, and at which await the running command stands.
* `handleTextAck`, `readAck`, `waitForTextPong` — what a message does to it.
* `TradingSession.step` — a call, a finished send, a message, a timeout or an abandonment.
* `TradingSession.run`, `issuedIds`, `readIds` — any run, the ids issued and the ids read in it.
-/

namespace OkxTrading

open Effect

def defaultIdlePingAfterMs : ℕ := 25000

/-! ## What arrives -/

/-- A text: the keepalive answer, or JSON with the `op` it names and the response it reads as, once
as a value that was parsed before and once directly. -/
inductive TradingText where
  | pong
  | malformed
  | json (op : Option Text) (response parsed : Option OkxWebsocketOrderCommandResponse)
  deriving DecidableEq, Repr

/-- `replied` says whether the answer to a ping could be sent. -/
inductive TradingMessage where
  | text (payload : TradingText)
  | ping (replied : Bool)
  | pong
  | close
  | binary
  | frame
  deriving DecidableEq, Repr

/-- What the socket brings. -/
inductive TradingArrival where
  | message (message : TradingMessage)
  | readError
  | closed
  deriving DecidableEq, Repr

/-- Only an answer to an order command is read as one. -/
def parseCommandResponse : TradingText → Result (Option OkxWebsocketOrderCommandResponse)
  | .json op response _ =>
      if op = some OkxWebsocketOrderOperation.placeOrder.asOkx ∨
          op = some OkxWebsocketOrderOperation.amendOrder.asOkx ∨
          op = some OkxWebsocketOrderOperation.cancelOrder.asOkx then
        match response with
        | some response => .ok (some response)
        | none => .error "failed parsing OKX WebSocket trading command acknowledgement"
      else .ok none
  | _ => .error "failed parsing OKX WebSocket trading command text frame"

/-! ## Commands -/

/-- A command; its `id` is the one issued for it, and so is the `requestId` of an amend. -/
inductive OkxWebsocketOrderRequest where
  | place (request : OkxWebsocketPlaceOrder)
  | amend (request : OkxWebsocketAmendOrder)
  | cancel (request : OkxWebsocketCancelOrder)
  deriving DecidableEq, Repr

namespace OkxWebsocketOrderRequest

/-- The operation of a request. -/
def operation : OkxWebsocketOrderRequest → OkxWebsocketOrderOperation
  | .place _ => .placeOrder
  | .amend _ => .amendOrder
  | .cancel _ => .cancelOrder

/-- The client order id of a request. -/
def clientOrderId : OkxWebsocketOrderRequest → Text
  | .place request => request.clientOrderId
  | .amend request => request.clientOrderId
  | .cancel request => request.clientOrderId

/-- The command of a request under an id. -/
def command (self : OkxWebsocketOrderRequest) (id : Text) : Result OkxWebsocketCommand :=
  match self with
  | .place request => placeOrderCommand { request with id }
  | .amend request => amendOrderCommand { request with id, requestId := id }
  | .cancel request => cancelOrderCommand { request with id }

/-- The answer that a request waits for. -/
def expected (self : OkxWebsocketOrderRequest) (id : Text) : OkxWebsocketExpectedOrderAck where
  id := id
  operation := self.operation
  clientOrderId := self.clientOrderId
  requestId := match self with
    | .amend _ => some id
    | _ => none

end OkxWebsocketOrderRequest

/-- Whether the command may have reached the exchange. -/
inductive OkxWebsocketCommandError where
  | notSent (error : Message)
  | ambiguous (error : Message)
  deriving DecidableEq, Repr

/-- What a command returns. -/
abbrev CommandOutcome := Except OkxWebsocketCommandError OkxOrderAck

/-- Where a command waits. -/
inductive CommandPhase where
  | idlePing
  | idlePong
  | sending
  | readingAck
  deriving DecidableEq, Repr

/-! ## The session -/

/-- The session, the nonce of its client, and the command that holds it. -/
structure TradingSession where
  websocketRequestNonce : ℕ
  ackTracker : OkxWebsocketAckTracker
  lastReceivedAt : Instant
  running : Option (OkxWebsocketExpectedOrderAck × CommandPhase)
  deriving DecidableEq

/-- What happens to a session. -/
inductive SessionEvent where
  /-- An id is issued for a command that gets no further. -/
  | issue (operation : OkxWebsocketOrderOperation) (clientOrderId : Text)
  | call (request : OkxWebsocketOrderRequest) (now : Instant)
  /-- The send a command waits for is done. -/
  | sent (ok : Bool)
  | arrival (arrival : TradingArrival) (now : Instant)
  | timeout
  | abandon
  deriving DecidableEq, Repr

namespace TradingSession

variable (self : TradingSession)

/-- The session after its login. -/
def connected (websocketRequestNonce : ℕ) (now : Instant) : TradingSession where
  websocketRequestNonce
  ackTracker := .default
  lastReceivedAt := now
  running := none

/-- The command waits in a phase. -/
def wait (expected : OkxWebsocketExpectedOrderAck) (phase : CommandPhase) :
    TradingSession × Option CommandOutcome :=
  ({ self with running := some (expected, phase) }, none)

/-- The command is over. -/
def finish (outcome : CommandOutcome) : TradingSession × Option CommandOutcome :=
  ({ self with running := none }, some outcome)

/-- The acknowledgement a text holds, if it is one of the command, and the tracker it leaves. -/
def handleTextAck (payload : TradingText) (expected : OkxWebsocketExpectedOrderAck) :
    Result (Option OkxOrderAck) × OkxWebsocketAckTracker :=
  match parseCommandResponse payload with
  | .error e => (.error e, self.ackTracker)
  | .ok none => (.ok none, self.ackTracker)
  | .ok (some response) =>
      match self.ackTracker.record response.id with
      | .error e => (.error e, self.ackTracker)
      | .ok (seen, tracker) =>
          if response.id ≠ expected.id then (.ok none, tracker)
          else match seen with
            | .duplicate => (.ok none, tracker)
            | .firstSeen =>
                let parsed := match payload with
                  | .json _ _ parsed => parsed
                  | _ => none
                ((parseOrderCommandAck parsed expected).map some, tracker)

/-- A message while the command waits for its acknowledgement. -/
def readAck (expected : OkxWebsocketExpectedOrderAck) : TradingMessage →
    TradingSession × Option CommandOutcome
  | .text .pong => self.wait expected .readingAck
  | .text payload =>
      let (result, ackTracker) := self.handleTextAck payload expected
      let self := { self with ackTracker }
      match result with
      | .ok (some acknowledgement) => self.finish (.ok acknowledgement)
      | .ok none => self.wait expected .readingAck
      | .error e => self.finish (.error (.ambiguous e))
  | .ping true => self.wait expected .readingAck
  | .ping false =>
      self.finish (.error (.ambiguous "failed replying to OKX WebSocket trading command ping"))
  | .close =>
      self.finish (.error (.ambiguous
        "OKX WebSocket trading command stream closed before acknowledgement"))
  | .binary | .pong | .frame => self.wait expected .readingAck

/-- A message while the command waits for the answer to its idle ping. -/
def waitForTextPong (expected : OkxWebsocketExpectedOrderAck) : TradingMessage →
    TradingSession × Option CommandOutcome
  | .text .pong => self.wait expected .sending
  | .ping true => self.wait expected .idlePong
  | .ping false =>
      self.finish (.error (.notSent "failed replying to OKX WebSocket trading command ping"))
  | .pong => self.wait expected .sending
  | .close =>
      self.finish (.error (.notSent "OKX WebSocket trading command stream closed before idle pong"))
  | .text _ | .binary | .frame => self.wait expected .idlePong

/-- An arrival is read only by a command that waits for one. -/
def onArrival (arrival : TradingArrival) (now : Instant) : TradingSession × Option CommandOutcome :=
  match self.running with
  | some (expected, .idlePong) =>
      match arrival with
      | .message message => { self with lastReceivedAt := now }.waitForTextPong expected message
      | .readError =>
          self.finish (.error (.notSent "failed reading OKX WebSocket trading command message"))
      | .closed =>
          self.finish (.error (.notSent
            "OKX WebSocket trading command stream closed before acknowledgement"))
  | some (expected, .readingAck) =>
      match arrival with
      | .message message => { self with lastReceivedAt := now }.readAck expected message
      | .readError =>
          self.finish (.error (.ambiguous "failed reading OKX WebSocket trading command message"))
      | .closed =>
          self.finish (.error (.ambiguous
            "OKX WebSocket trading command stream closed before acknowledgement"))
  | _ => (self, none)

/-- A call of `place_order`, `amend_order` or `cancel_order`; a running command holds the
session. -/
def call (request : OkxWebsocketOrderRequest) (now : Instant) :
    TradingSession × Option CommandOutcome :=
  match self.running with
  | some _ => (self, none)
  | none =>
      let (id, websocketRequestNonce) := nextWebsocketRequestId self.websocketRequestNonce
        request.operation request.clientOrderId
      let self := { self with websocketRequestNonce }
      match request.command id with
      | .error e => (self, some (.error (.notSent e)))
      | .ok _ =>
          self.wait (request.expected id)
            (if now - self.lastReceivedAt < defaultIdlePingAfterMs then .sending else .idlePing)

/-- The socket took what was sent, or failed. -/
def onSent (ok : Bool) : TradingSession × Option CommandOutcome :=
  match self.running with
  | some (expected, .idlePing) =>
      if ok then self.wait expected .idlePong
      else self.finish (.error (.notSent
        "failed sending OKX WebSocket trading command idle ping"))
  | some (expected, .sending) =>
      if ok then self.wait expected .readingAck
      else self.finish (.error (.notSent "failed sending OKX WebSocket command"))
  | _ => (self, none)

/-- The time for what the command waits for is over. -/
def onTimeout : TradingSession × Option CommandOutcome :=
  match self.running with
  | some (_, .idlePong) =>
      self.finish (.error (.notSent
        "timed out waiting for OKX WebSocket trading command idle pong"))
  | some (_, .readingAck) =>
      self.finish (.error (.ambiguous "timed out waiting for OKX WebSocket acknowledgement"))
  | _ => (self, none)

/-- One event, and what the command returns if it ends with it. -/
def step : SessionEvent → TradingSession × Option CommandOutcome
  | .issue operation clientOrderId =>
      ({ self with websocketRequestNonce :=
          (nextWebsocketRequestId self.websocketRequestNonce operation clientOrderId).2 }, none)
  | .call request now => self.call request now
  | .sent ok => self.onSent ok
  | .arrival arrival now => self.onArrival arrival now
  | .timeout => self.onTimeout
  | .abandon => ({ self with running := none }, none)

/-- A session after a run of events. -/
def run (events : List SessionEvent) : TradingSession :=
  events.foldl (fun session event => (session.step event).1) self

/-! ## What happened -/

/-- The id an event issues. -/
def issuedId? : SessionEvent → Option Text
  | .issue operation clientOrderId =>
      some (nextWebsocketRequestId self.websocketRequestNonce operation clientOrderId).1
  | .call request _ =>
      if self.running.isSome then none
      else some (nextWebsocketRequestId self.websocketRequestNonce request.operation
        request.clientOrderId).1
  | _ => none

/-- The id of the response a command reads while it waits for its acknowledgement. -/
def readId? : SessionEvent → Option Text
  | .arrival (.message (.text payload)) _ =>
      match self.running, parseCommandResponse payload with
      | some (_, .readingAck), .ok (some response) => some response.id
      | _, _ => none
  | _ => none

/-- What each event of a run gives, in order. -/
def collect (observe : TradingSession → SessionEvent → Option Text) :
    TradingSession → List SessionEvent → List Text
  | _, [] => []
  | session, event :: rest =>
      (observe session event).toList ++ collect observe (session.step event).1 rest

/-- The ids issued in a run. -/
def issuedIds (events : List SessionEvent) : List Text := collect issuedId? self events

/-- The ids of the responses read in a run. -/
def readIds (events : List SessionEvent) : List Text := collect readId? self events

end TradingSession

end OkxTrading
