import OkxTrading.Websocket.SubscriptionRequest

/-!
# The subscription handshake

`okx/websocket/subscription.rs`, and what a stream does after it sent its subscription: it waits for
the acknowledgements, and reads messages until it ends.  The public and the private stream differ in
the refusals they settle for, in their texts, and in how they apply a message; `apply` stands for
that, with whatever its calls meet.

* `parseSubscriptionEvent`, `acknowledgeSubscription` — one text.
* `nextWebsocketMessage` — the keepalive in front of every message.
* `StreamSession.waitForSubscriptionAcks` — a text while acknowledgements are pending.
* `StreamSession.step`, `StreamSession.run` — one arrival, and whatever arrives.
-/

namespace OkxTrading

open Effect

/-! ## Texts -/

/-- A message as the handshake reads it. -/
structure OkxWebsocketSubscriptionMessage (Data : Type) where
  event : Option Text
  code : Option Text
  msg : Option Text
  arg : Option OkxWebsocketSubscriptionAck
  data : Option Data
  deriving DecidableEq

/-- What a message means for the handshake. -/
inductive OkxWebsocketSubscriptionEvent where
  | acknowledged (ack : OkxWebsocketSubscriptionAck)
  | control
  | data (ack : OkxWebsocketSubscriptionAck)
  | error (code msg : Text) (arg : Option OkxWebsocketSubscriptionAck)
  | other
  deriving DecidableEq, Repr

def okxWebsocketSubscribeEvent : Text := "subscribe".toList
def okxWebsocketErrorEvent : Text := "error".toList
def okxWebsocketChannelConnCountEvent : Text := "channel-conn-count".toList

/-- `none` is a text that is no message. -/
def parseSubscriptionEvent {Data : Type} (payload : Option (OkxWebsocketSubscriptionMessage Data))
    (context : Message) : Result OkxWebsocketSubscriptionEvent := do
  let some message := payload
    | .error ("failed parsing OKX " ++ context ++ " WebSocket protocol JSON")
  rejectWebsocketNotice message.event message.code context
  if message.event = some okxWebsocketSubscribeEvent then
    let some ack := message.arg
      | .error ("OKX " ++ context ++ " WebSocket subscribe acknowledgement omitted arg")
    return .acknowledged ack
  else if message.event = some okxWebsocketErrorEvent then
    return .error (message.code.getD []) (message.msg.getD []) message.arg
  else if message.event = some okxWebsocketChannelConnCountEvent then return .control
  else if message.event = none ∧ message.data.isSome = true then
    let some ack := message.arg
      | .error ("OKX " ++ context ++
          " WebSocket data frame omitted arg during subscription ACK wait")
    return .data ack
  else return .other

/-- An acknowledgement settles its argument, once. -/
def acknowledgeSubscription (pending : Finset OkxWebsocketSubscriptionAck)
    (ack : OkxWebsocketSubscriptionAck) (context : Message) :
    Result (Finset OkxWebsocketSubscriptionAck) :=
  if ack ∈ pending then .ok (pending.erase ack)
  else .error ("OKX " ++ context ++ " WebSocket acknowledged unexpected subscription")

/-! ## Messages -/

/-- A text: the keepalive answer, or JSON, which may be no message. -/
inductive TextPayload (Data : Type) where
  | pong
  | json (message : Option (OkxWebsocketSubscriptionMessage Data))
  deriving DecidableEq

/-- A message of the stream; `replied` says whether the answer to a ping could be sent. -/
inductive WebsocketMessage (Data : Type) where
  | text (payload : TextPayload Data)
  | ping (replied : Bool)
  | pong
  | close
  | binary
  | frame
  deriving DecidableEq

/-- What a stream meets while it reads. -/
inductive Arrival (Data : Type) where
  | message (message : WebsocketMessage Data)
  | readError
  /-- The stream ended. -/
  | closed
  /-- Nothing came for the idle time, or for the time of the answer; `sent` says whether the ping
  could be sent. -/
  | idle (sent : Bool)
  /-- The acknowledgements took too long. -/
  | ackTimeout
  deriving DecidableEq

/-- What a read of the stream gives. -/
inductive Delivery (Data : Type) where
  | message (message : WebsocketMessage Data)
  | closed
  /-- Only the keepalive took note. -/
  | waiting
  deriving DecidableEq

/-- `next_websocket_message_with_keepalive_and_timing`, which waits for an answer after an idle
ping. -/
def nextWebsocketMessage {Data : Type} (context : Message) (awaitingPong : Bool) :
    Arrival Data → Result (Delivery Data)
  | .ackTimeout => .ok .waiting
  | .readError =>
      if awaitingPong then .error ("failed reading OKX " ++ context ++ " WebSocket idle pong")
      else .error ("failed reading OKX " ++ context ++ " WebSocket message")
  | .closed =>
      if awaitingPong then .error ("OKX " ++ context ++ " WebSocket stream closed before idle pong")
      else .ok .closed
  | .idle sent =>
      if awaitingPong then
        .error ("timed out waiting for OKX " ++ context ++ " WebSocket idle pong")
      else if sent then .ok .waiting
      else .error ("failed sending OKX " ++ context ++ " WebSocket idle ping")
  | .message message =>
      if awaitingPong = false then .ok (.message message)
      else match message with
        | .text payload => .ok (.message (.text payload))
        | .pong => .ok (.message .pong)
        | .ping true => .ok .waiting
        | .ping false => .error ("failed replying to OKX " ++ context ++ " WebSocket ping")
        | .close => .error ("OKX " ++ context ++ " WebSocket stream closed before idle pong")
        | .binary | .frame =>
            .error ("OKX " ++ context ++ " WebSocket returned non-pong message after idle ping")

/-- Whether the stream waits for the answer to an idle ping after an arrival it survived. -/
def awaitsPong {Data : Type} (awaitingPong : Bool) : Arrival Data → Bool
  | .idle _ => true
  | .message (.ping _) => awaitingPong
  | .ackTimeout => awaitingPong
  | _ => false

/-! ## The stream -/

/-- What the two streams differ in. -/
structure StreamRules where
  context : Message
  /-- `context` of the reads. -/
  readContext : Message
  /-- The refusals that settle an argument. -/
  settlesRefusal : Text → Option OkxWebsocketSubscriptionAck → Bool

/-- The rules of a public stream: no refusal settles anything. -/
def publicStreamRules : StreamRules where
  context := "public"
  readContext := "public market data"
  settlesRefusal := fun _ _ => false

/-- The rules of a private stream: a refusal of the optional fills is settled for. -/
def privateStreamRules (kind : OkxPrivateStreamKind) : StreamRules where
  context := kind.label
  readContext := kind.label
  settlesRefusal := fun code arg =>
    decide (code = "64003".toList) &&
      arg.any fun ack => decide (ack.channel = okxPrivateFillsChannel)

/-- How a message is applied to the cache and reported, the number says at which call. -/
abbrev ApplyMessage (Data Cache : Type) :=
  ℕ → Cache → OkxWebsocketSubscriptionMessage Data → Result Unit × Cache

/-- What a stream keeps after its request.  `subscribed` is set where the health report
`SubscriptionAckSucceeded` is made; `outcome` is there once the stream has ended. -/
structure StreamSession (Cache : Type) where
  pending : Finset OkxWebsocketSubscriptionAck
  acknowledged : Finset OkxWebsocketSubscriptionAck
  awaitingPong : Bool
  subscribed : Bool
  calls : ℕ
  cache : Cache
  outcome : Option (Result Unit)

namespace StreamSession

variable {Data Cache : Type} (rules : StreamRules) (apply : ApplyMessage Data Cache)

/-- The session after its request was sent. -/
def start (acks : Finset OkxWebsocketSubscriptionAck) (cache : Cache) : StreamSession Cache where
  pending := acks
  acknowledged := ∅
  awaitingPong := false
  subscribed := decide (acks = ∅)
  calls := 0
  cache
  outcome := none

/-- The stream ends; its error is reported to health. -/
def fail (session : StreamSession Cache) (e : Message) : StreamSession Cache :=
  { session with outcome := some (.error e) }

/-- An argument is acknowledged, or refused where that settles it. -/
def settle (session : StreamSession Cache) (ack : OkxWebsocketSubscriptionAck) :
    StreamSession Cache :=
  match acknowledgeSubscription session.pending ack rules.context with
  | .error e => session.fail e
  | .ok pending =>
      { session with
        pending
        acknowledged := insert ack session.acknowledged
        subscribed := decide (pending = ∅) }

/-- `apply_…_message_and_report`; a text that is no message fails. -/
def applyText (session : StreamSession Cache)
    (payload : Option (OkxWebsocketSubscriptionMessage Data)) : StreamSession Cache :=
  match payload with
  | none => session.fail ("failed parsing OKX " ++ rules.context ++ " WebSocket message")
  | some message =>
      let (result, cache) := apply session.calls session.cache message
      let session := { session with cache, calls := session.calls + 1 }
      match result with
      | .ok () => session
      | .error e => session.fail e

/-- A text while acknowledgements are pending. -/
def waitForSubscriptionAcks (session : StreamSession Cache)
    (payload : Option (OkxWebsocketSubscriptionMessage Data)) : StreamSession Cache :=
  match parseSubscriptionEvent payload rules.context with
  | .error e => session.fail e
  | .ok (.acknowledged ack) => session.settle rules ack
  | .ok .control => session
  | .ok (.data ack) =>
      if ack ∉ session.acknowledged then
        session.fail ("OKX " ++ rules.context ++ " WebSocket received data before subscription ACK")
      else session.applyText rules apply payload
  | .ok (.error code _ arg) =>
      match arg with
      | some ack =>
          if rules.settlesRefusal code (some ack) then session.settle rules ack
          else session.fail ("OKX " ++ rules.context ++ " WebSocket error")
      | none => session.fail ("OKX " ++ rules.context ++ " WebSocket error")
  | .ok .other =>
      session.fail ("OKX " ++ rules.context ++
        " WebSocket received non-ACK text before subscription ACK")

/-- The end of the stream, which is an error while acknowledgements are pending. -/
def onClosed (session : StreamSession Cache) : StreamSession Cache :=
  if session.subscribed then { session with outcome := some (.ok ()) }
  else session.fail ("OKX " ++ rules.context ++ " WebSocket stream closed before subscription ACK")

/-- A message of either loop. -/
def onMessage (session : StreamSession Cache) : WebsocketMessage Data → StreamSession Cache
  | .text .pong => session
  | .text (.json payload) =>
      if session.subscribed then session.applyText rules apply payload
      else session.waitForSubscriptionAcks rules apply payload
  | .ping true => session
  | .ping false => session.fail ("failed replying to OKX " ++ rules.context ++ " WebSocket ping")
  | .close => session.onClosed rules
  | .pong | .binary | .frame => session

/-- What a read of the stream gives, and the message it delivers. -/
def read (session : StreamSession Cache) (arrival : Arrival Data) : StreamSession Cache :=
  match nextWebsocketMessage rules.readContext session.awaitingPong arrival with
  | .error e => session.fail e
  | .ok delivery =>
      let session := { session with awaitingPong := awaitsPong session.awaitingPong arrival }
      match delivery with
      | .waiting => session
      | .closed => session.onClosed rules
      | .message message => session.onMessage rules apply message

/-- One arrival; a stream that has ended meets none. -/
def step (session : StreamSession Cache) (arrival : Arrival Data) : StreamSession Cache :=
  if session.outcome.isSome then session
  else match arrival with
    | .ackTimeout =>
        if session.subscribed then session
        else session.fail
          ("timed out waiting for OKX " ++ rules.context ++ " WebSocket subscription ACK")
    | arrival => session.read rules apply arrival

/-- Whatever arrives, one after another. -/
def run (session : StreamSession Cache) (arrivals : List (Arrival Data)) : StreamSession Cache :=
  arrivals.foldl (step rules apply) session

end StreamSession

/-! ## Applying a private message -/

/-- The message as the private events read it. -/
def OkxWebsocketSubscriptionMessage.toPrivate
    (message : OkxWebsocketSubscriptionMessage OkxPrivateData) : OkxWebsocketPrivateMessage where
  event := message.event
  code := message.code
  arg := message.arg.map fun arg => ⟨arg.channel, arg.instType, arg.instId⟩
  data := message.data

/-- `apply_private_event_message_and_report`.  At each call `walks` are those of the updates,
`receivedAt` is the clock, and `report` what becomes of the events. -/
def applyPrivateEventMessageAndReport (authority : OkxPrivateEventAuthority)
    (walks : ℕ → ℕ → PrivateWalks) (receivedAt : ℕ → Instant)
    (report : ℕ → List OkxPrivateRuntimeEvent → Result Unit) :
    ApplyMessage OkxPrivateData OkxPrivateEventState := fun call cache message =>
  match applyPrivateEventMessageInner authority (walks call) cache (some message.toPrivate)
      (receivedAt call) with
  | (.error e, cache) => (.error e, cache)
  | (.ok applied, cache) => (report call applied.runtimeEvents, cache)

end OkxTrading
