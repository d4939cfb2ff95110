import OkxTrading.Market.Level2
import OkxTrading.Runtime.Health
import OkxTrading.Websocket.Subscription

/-!
# The stream tasks and the runtime queues

`run_public_market_stream` and `run_private_stream`, which open one session after another, and
`okx/websocket/runtime_event.rs`, which carries what a session announces to the engine.  The tasks
share the caches and the bounded queues, and run in any order.

* `OkxWebsocketReconnectPolicy` — how long a task sleeps between its sessions.
* `StreamTaskConfig` — what the tasks differ in.
* `StreamTask`, `StreamSystem` — one task with what its sessions did, and all of them.
* `streamStep` — a task goes on by one step, a delivery succeeds or is given up, the engine takes an
  event, or time passes.

Reports to health are recorded where they are made; how long one takes is left out.
-/

namespace OkxTrading

open Effect

/-- `NON_LOSSY_EVENT_DELIVERY_TIMEOUT`. -/
def nonLossyEventDeliveryTimeoutMs : ℕ := 250

/-! ## Reconnecting -/

/-- `Duration::MAX` in milliseconds. -/
def durationMaxMs : ℕ := (2 ^ 64 - 1) * 1000 + 999

/-- `OkxWebsocketReconnectPolicy`, with what its constructor checks. -/
structure OkxWebsocketReconnectPolicy where
  initialBackoff : ℕ
  maxBackoff : ℕ
  initial_pos : 0 < initialBackoff
  initial_le_max : initialBackoff ≤ maxBackoff
  max_le : maxBackoff ≤ durationMaxMs
  deriving DecidableEq

/-- How a session ended. -/
structure OkxWebsocketStreamRunOutcome where
  subscribed : Bool
  error : Option Message
  deriving DecidableEq, Repr

namespace OkxWebsocketReconnectPolicy

/-- Half a second, up to ten. -/
def default : OkxWebsocketReconnectPolicy :=
  ⟨500, 10000, by decide, by decide, by norm_num [durationMaxMs]⟩

/-- Every duration is within `durationMaxMs`. -/
def new (initialBackoff maxBackoff : ℕ) (hmax : maxBackoff ≤ durationMaxMs) :
    Result OkxWebsocketReconnectPolicy :=
  if hzero : initialBackoff = 0 then
    .error "OKX WebSocket reconnect initial backoff must be non-zero"
  else if hle : initialBackoff ≤ maxBackoff then
    .ok ⟨initialBackoff, maxBackoff, Nat.pos_of_ne_zero hzero, hle, hmax⟩
  else .error
    "OKX WebSocket reconnect max backoff must be greater than or equal to initial backoff"

variable (self : OkxWebsocketReconnectPolicy)

/-- Twice as long, up to the bound; `saturating_mul` first. -/
def nextBackoff (current : ℕ) : ℕ := min (min (current * 2) durationMaxMs) self.maxBackoff

/-- A session that was subscribed starts the delays again. -/
def backoffAfterStreamRun (current : ℕ) (outcome : OkxWebsocketStreamRunOutcome) : ℕ :=
  if outcome.subscribed then self.initialBackoff else self.nextBackoff current

end OkxWebsocketReconnectPolicy

/-- The report of the outcome of a session. -/
def OkxWebsocketStreamRunOutcome.report (outcome : OkxWebsocketStreamRunOutcome) :
    List OkxWebsocketHealthEventKind :=
  match outcome.subscribed, outcome.error.isSome with
  | true, false => [.streamDisconnectedAfterSubscription]
  | true, true => [.streamFailedAfterSubscription]
  | false, true => [.streamFailedBeforeSubscription]
  | false, false => []

/-! ## Messages -/

/-- What applying a message did: its result with the events to report, the events of the rows the
cache accepted, and the cache. -/
structure AppliedMessage (Cache Event : Type) where
  result : Result (List Event)
  accepted : List Event
  cache : Cache
  /-- A message that succeeds reports what was accepted. -/
  announced : ∀ events, result = .ok events → events = accepted

/-- What a session leaves of its last message. -/
structure Applied (Cache Event : Type) where
  cache : Cache
  accepted : List Event
  events : List Event

/-- What the tasks differ in.  `Meets` is what the insertions of a message meet, such as the order
in which a hash map is walked; a message whose arithmetic panics ends the process. -/
structure StreamTaskConfig (Data Cache Event Queue Meets : Type) where
  rules : StreamRules
  acks : Finset OkxWebsocketSubscriptionAck
  hasLogin : Bool
  policy : OkxWebsocketReconnectPolicy
  /-- Before the connection is opened. -/
  prepare : Cache → Result Unit × Cache
  apply : Meets → Instant → Cache → OkxWebsocketSubscriptionMessage Data →
    Option (AppliedMessage Cache Event)
  /-- After the session has ended. -/
  release : Cache → Cache
  queue : Queue

/-- The session with another cache. -/
def StreamSession.withCache {Cache Cache' : Type} (session : StreamSession Cache) (cache : Cache') :
    StreamSession Cache' where
  pending := session.pending
  acknowledged := session.acknowledged
  awaitingPong := session.awaitingPong
  subscribed := session.subscribed
  calls := session.calls
  cache := cache
  outcome := session.outcome

namespace StreamTaskConfig

variable {Data Cache Event Queue Meets : Type}
  (config : StreamTaskConfig Data Cache Event Queue Meets) (meets : Meets) (now : Instant)

/-- `apply_…_message_inner` as the session calls it; no cache is left where it panics. -/
def applyMessage : ApplyMessage Data (Option (Applied Cache Event)) := fun _ state message =>
  match state.bind fun applied => config.apply meets now applied.cache message with
  | none => (.ok (), none)
  | some message =>
      (message.result.map fun _ => (), some ⟨message.cache, message.accepted,
        match message.result with
        | .ok events => events
        | .error _ => []⟩)

/-- One arrival: the session after it, and what it left of its message. -/
def readArrival (cache : Cache) (session : StreamSession Unit) (arrival : Arrival Data) :
    Option (StreamSession Unit × Applied Cache Event) :=
  let after := StreamSession.step config.rules (config.applyMessage meets now)
    (session.withCache (some ⟨cache, [], []⟩)) arrival
  after.cache.map fun applied => (after.withCache (), applied)

end StreamTaskConfig

/-! ## Tasks -/

/-- What a session has done: how many messages it has applied to the cache, whether they had events
or not, the events of the rows it had accepted, those of them it put into the queue, and its
reports. -/
structure SessionRecord (Event : Type) where
  applied : ℕ
  accepted : List Event
  enqueued : List Event
  reports : List OkxWebsocketHealthEventKind
  deriving DecidableEq

/-- The record of a session that has not begun. -/
def SessionRecord.blank {Event : Type} : SessionRecord Event := ⟨0, [], [], []⟩

/-- The session has applied no message, and accepted no row. -/
def SessionRecord.Untouched {Event : Type} (self : SessionRecord Event) : Prop :=
  self.applied = 0 ∧ self.accepted = []

theorem SessionRecord.untouched_blank {Event : Type} : (blank : SessionRecord Event).Untouched :=
  ⟨rfl, rfl⟩

/-- A session that is over, with the reconnection that was scheduled. -/
structure FinishedSession (Event : Type) extends SessionRecord Event where
  outcome : OkxWebsocketStreamRunOutcome
  attempt : ℕ
  delay : ℕ
  deriving DecidableEq

/-- How far the session of a task is. -/
inductive StreamPhase (Event : Type) where
  | starting
  | connecting
  | loggingIn
  | subscribing
  /-- Reading messages, or waiting since some time for the first of the remaining events to find
  room in the queue. -/
  | reading (session : StreamSession Unit) (delivering : List Event) (since : ℕ)
  | sleeping (wake : ℕ)

/-- A stream's task, with what its sessions did. -/
structure StreamTask (Event : Type) where
  phase : StreamPhase Event
  backoff : ℕ
  reconnectAttempt : ℕ
  current : SessionRecord Event
  past : List (FinishedSession Event)

namespace StreamTask

variable {Event : Type} (task : StreamTask Event) (policy : OkxWebsocketReconnectPolicy) (now : ℕ)

/-- The task before its first session. -/
def new : StreamTask Event := ⟨.starting, policy.initialBackoff, 0, .blank, []⟩

/-- A report of the session. -/
def report (kind : OkxWebsocketHealthEventKind) : StreamTask Event :=
  { task with current := { task.current with reports := task.current.reports ++ [kind] } }

/-- The end of a session: its outcome is reported, and the next one is scheduled. -/
def finish (outcome : OkxWebsocketStreamRunOutcome) : StreamTask Event where
  phase := .sleeping (now + task.backoff)
  backoff := policy.backoffAfterStreamRun task.backoff outcome
  reconnectAttempt := saturatingSucc task.reconnectAttempt
  current := .blank
  past := task.past ++ [{
    task.current with
    reports := task.current.reports ++ outcome.report ++ [.reconnectScheduled]
    outcome
    attempt := saturatingSucc task.reconnectAttempt
    delay := task.backoff }]

/-- An error before the acknowledgements are waited for. -/
def fail (e : Message) : StreamTask Event := task.finish policy now ⟨false, some e⟩

/-- An error while messages are read; while acknowledgements are pending it is reported as
theirs. -/
def failReading (subscribed : Bool) (e : Message) : StreamTask Event :=
  (if subscribed then task else task.report .subscriptionAckFailed).finish policy now
    ⟨subscribed, some e⟩

/-- The subscription is reported where it begins. -/
def reportSubscribed (before after : Bool) : StreamTask Event :=
  if before = false ∧ after = true then task.report .subscriptionAckSucceeded else task

/-- The task that has read an arrival: with the session after it, and what it left of its
message. -/
def hasRead {Cache : Type} (session : StreamSession Unit) (delivering : List Event) (since : ℕ)
    (after : StreamSession Unit × Applied Cache Event) : StreamTask Event :=
  let task := task.reportSubscribed session.subscribed after.1.subscribed
  { task with
    phase := .reading after.1 (delivering ++ after.2.events)
      (if delivering.isEmpty then now else since)
    current := { task.current with
      applied := task.current.applied + (after.1.calls - session.calls)
      accepted := task.current.accepted ++ after.2.accepted } }

/-- What a task makes of an arrival, which may end its session. -/
def arrived {Cache : Type} (session : StreamSession Unit) (delivering : List Event) (since : ℕ)
    (after : StreamSession Unit × Applied Cache Event) : StreamTask Event :=
  let task := task.hasRead now session delivering since after
  match after.1.outcome with
  | none => task
  | some (.ok ()) => task.finish policy now ⟨after.1.subscribed, none⟩
  | some (.error e) => task.failReading policy now after.1.subscribed e

/-- The event it waited with is in the queue. -/
def enqueued (session : StreamSession Unit) (event : Event) (rest : List Event) :
    StreamTask Event :=
  { task with
    phase := .reading session rest now
    current := { task.current with enqueued := task.current.enqueued ++ [event] } }

end StreamTask

/-- The time for the acknowledgements is over. -/
def Arrival.isAckTimeout {Data : Type} : Arrival Data → Bool
  | .ackTimeout => true
  | _ => false

/-- How a login ends; a login that was not sent is no failed login. -/
inductive LoginAnswer where
  | acknowledged
  | notSent (e : Message)
  | failed (e : Message)
  deriving DecidableEq, Repr

/-! ## The system -/

/-- The tasks with their caches and queues.  `enqueued` and `taken` are what was ever put into a
queue, and by whom, and what the engine took. -/
structure StreamSystem (ι Queue Cache Event : Type) where
  now : ℕ
  cache : Cache
  queues : Queue → List Event
  closed : Queue → Bool
  enqueued : Queue → List (ι × Event)
  taken : Queue → List Event
  tasks : ι → StreamTask Event

/-- A step of a task, of the engine or of the clock. -/
inductive StreamAction (ι Queue Data Meets : Type) where
  | elapse (ms : ℕ)
  /-- A session begins. -/
  | open (task : ι)
  | connect (task : ι) (error : Option Message)
  | login (task : ι) (answer : LoginAnswer)
  | subscribe (task : ι) (error : Option Message)
  | arrive (task : ι) (meets : Meets) (arrival : Arrival Data)
  /-- The event a task waits with finds room. -/
  | enqueue (task : ι)
  /-- Its time is over. -/
  | expire (task : ι)
  /-- The receiver is gone. -/
  | refuse (task : ι)
  | take (queue : Queue)
  | close (queue : Queue)

namespace StreamSystem

variable {ι Queue Data Cache Event Meets : Type} [DecidableEq ι] [DecidableEq Queue]

/-- The tasks before their first sessions. -/
def start (config : ι → StreamTaskConfig Data Cache Event Queue Meets) (cache : Cache) :
    StreamSystem ι Queue Cache Event where
  now := 0
  cache
  queues := fun _ => []
  closed := fun _ => false
  enqueued := fun _ => []
  taken := fun _ => []
  tasks := fun i => .new (config i).policy

variable (self : StreamSystem ι Queue Cache Event)
  (config : ι → StreamTaskConfig Data Cache Event Queue Meets) (i : ι)

/-- The system after a task moved. -/
def setTask (task : StreamTask Event) : StreamSystem ι Queue Cache Event :=
  { self with tasks := Function.update self.tasks i task }

/-- The task after the end of its session. -/
def endSession (task : StreamTask Event) : StreamSystem ι Queue Cache Event :=
  { self.setTask i task with cache := (config i).release self.cache }

/-- A session begins: the cache is prepared, then the connection is asked for. -/
def openSession : StreamSystem ι Queue Cache Event :=
  match (config i).prepare self.cache with
  | (.error e, cache) =>
      endSession { self with cache } config i ((self.tasks i).fail (config i).policy self.now e)
  | (.ok (), cache) =>
      setTask { self with cache } i
        { (self.tasks i).report .connectAttempt with phase := .connecting }

/-- A task after an arrival. -/
def arrived (session : StreamSession Unit) (delivering : List Event) (since : ℕ)
    (after : StreamSession Unit × Applied Cache Event) : StreamSystem ι Queue Cache Event :=
  let task := (self.tasks i).arrived (config i).policy self.now session delivering since after
  let self := { self with cache := after.2.cache }
  if after.1.outcome.isNone then self.setTask i task else self.endSession config i task

/-- The event a task waits with is put into its queue. -/
def enqueueEvent (session : StreamSession Unit) (event : Event) (rest : List Event) :
    StreamSystem ι Queue Cache Event :=
  let queue := (config i).queue
  { self.setTask i ((self.tasks i).enqueued self.now session event rest) with
    queues := Function.update self.queues queue (self.queues queue ++ [event])
    enqueued := Function.update self.enqueued queue (self.enqueued queue ++ [(i, event)]) }

end StreamSystem

section Step

variable {ι Queue Data Cache Event Meets : Type} [DecidableEq ι] [DecidableEq Queue]
  (config : ι → StreamTaskConfig Data Cache Event Queue Meets) (capacity : Queue → ℕ)
  (self : StreamSystem ι Queue Cache Event)

/-- The step of a task that waits with an event. -/
def deliveryStep (i : ι) (proceed : StreamSession Unit → Event → List Event → ℕ →
    Option (StreamSystem ι Queue Cache Event)) : Option (StreamSystem ι Queue Cache Event) :=
  match (self.tasks i).phase with
  | .reading session (event :: rest) since => proceed session event rest since
  | _ => none

/-- One step; `none` where it cannot be taken. -/
def streamStep : StreamAction ι Queue Data Meets → Option (StreamSystem ι Queue Cache Event)
  | .elapse ms => some { self with now := self.now + ms }
  | .open i =>
      match (self.tasks i).phase with
      | .starting => some (self.openSession config i)
      | .sleeping wake => if wake ≤ self.now then some (self.openSession config i) else none
      | _ => none
  | .connect i error =>
      match (self.tasks i).phase, error with
      | .connecting, some e =>
          some (self.endSession config i ((self.tasks i).fail (config i).policy self.now e))
      | .connecting, none =>
          some (self.setTask i { (self.tasks i).report .connected with
            phase := if (config i).hasLogin then .loggingIn else .subscribing })
      | _, _ => none
  | .login i answer =>
      match (self.tasks i).phase, answer with
      | .loggingIn, .acknowledged =>
          some (self.setTask i
            { (self.tasks i).report .loginAckSucceeded with phase := .subscribing })
      | .loggingIn, .notSent e =>
          some (self.endSession config i ((self.tasks i).fail (config i).policy self.now e))
      | .loggingIn, .failed e =>
          some (self.endSession config i
            (((self.tasks i).report .loginFailed).fail (config i).policy self.now e))
      | _, _ => none
  | .subscribe i error =>
      match (self.tasks i).phase, error with
      | .subscribing, some e =>
          some (self.endSession config i ((self.tasks i).fail (config i).policy self.now e))
      | .subscribing, none =>
          let session := StreamSession.start (config i).acks ()
          some (self.setTask i
            { (self.tasks i).reportSubscribed false session.subscribed with
              phase := .reading session [] self.now })
      | _, _ => none
  | .arrive i meets arrival =>
      match (self.tasks i).phase with
      | .reading session delivering since =>
          -- nothing is read while an event waits, but the time for the acknowledgements runs on
          if delivering.isEmpty || arrival.isAckTimeout then
            ((config i).readArrival meets self.now self.cache session arrival).map
              (self.arrived config i session delivering since)
          else none
      | _ => none
  | .enqueue i => deliveryStep self i fun session event rest _ =>
      if self.closed (config i).queue = false ∧
          (self.queues (config i).queue).length < capacity (config i).queue then
        some (self.enqueueEvent config i session event rest)
      else none
  | .expire i => deliveryStep self i fun session _ _ since =>
      if capacity (config i).queue ≤ (self.queues (config i).queue).length ∧
          since + nonLossyEventDeliveryTimeoutMs ≤ self.now then
        some (self.endSession config i ((self.tasks i).failReading (config i).policy self.now
          session.subscribed
          "non-lossy OKX event delivery failed; runtime must reconcile or fail closed"))
      else none
  | .refuse i => deliveryStep self i fun session _ _ _ =>
      if self.closed (config i).queue then
        some (self.endSession config i ((self.tasks i).failReading (config i).policy self.now
          session.subscribed "bounded OKX channel closed"))
      else none
  | .take queue =>
      match self.queues queue with
      | event :: rest =>
          if self.closed queue = false then
            some { self with
              queues := Function.update self.queues queue rest
              taken := Function.update self.taken queue (self.taken queue ++ [event]) }
          else none
      | [] => none
  | .close queue => some { self with closed := Function.update self.closed queue true }

/-- Steps one after another, where every one is possible. -/
def streamRun : StreamSystem ι Queue Cache Event → List (StreamAction ι Queue Data Meets) →
    Option (StreamSystem ι Queue Cache Event)
  | self, [] => some self
  | self, action :: rest => (streamStep config capacity self action).bind (streamRun · rest)

variable {config capacity} {self}

/-- What every step keeps holds after every run. -/
theorem streamRun_invariant {P : StreamSystem ι Queue Cache Event → Prop}
    {actions : List (StreamAction ι Queue Data Meets)} {next : StreamSystem ι Queue Cache Event}
    (h : streamRun config capacity self actions = some next) (start : P self)
    (step : ∀ self action next, P self → streamStep config capacity self action = some next →
      P next) : P next := by
  induction actions generalizing self with
  | nil =>
    cases h
    exact start
  | cons action rest ih =>
    obtain ⟨mid, hmid, hrest⟩ := Option.bind_eq_some_iff.1 h
    exact ih hrest (step self action mid start hmid)

end Step

end OkxTrading
