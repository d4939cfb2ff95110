import OkxTrading.Runtime.Engine

/-!
# Reports of the stream tasks

The reporter of `okx/websocket/health.rs`, the bounded channel to the engine, and the streams of
`app/okx_stream_config.rs` that report into it.

* `OkxPublicMarketStreamConfig`, `OkxPrivateStreamConfig` — who is configured, with what identity.
* `HealthSystem` — the channel between the tasks and the engine, with the clock.
* `healthStep` — a task reports, a report ends, or the engine goes on, in any order.
-/

namespace OkxTrading

/-! ## The configured streams -/

/-- What the identity is made of. -/
structure OkxPublicMarketStreamConfig where
  instrumentIds : Finset Text
  subscribeTickers : Bool
  subscribeInstruments : Bool
  candleChannels : List Text
  deriving DecidableEq

/-- The identity a public stream reports under. -/
def OkxPublicMarketStreamConfig.healthIdentity (self : OkxPublicMarketStreamConfig) :
    OkxWebsocketStreamIdentity :=
  if self.subscribeTickers || self.subscribeInstruments then
    ⟨.publicKind, .publicMarketData, self.instrumentIds.card⟩
  else ⟨.businessKind, .publicCandles, self.instrumentIds.card⟩

/-- A private stream, as far as its identity goes. -/
structure OkxPrivateStreamConfig where
  kind : OkxPrivateStreamKind
  instrumentIds : Finset Text
  deriving DecidableEq

/-- The identity a private stream reports under. -/
def OkxPrivateStreamConfig.healthIdentity (self : OkxPrivateStreamConfig) :
    OkxWebsocketStreamIdentity :=
  match self.kind with
  | .trading => ⟨.privateKind, .privateTrading, self.instrumentIds.card⟩
  | .business => ⟨.businessKind, .privateAlgoOrders, self.instrumentIds.card⟩

/-- `build_market_stream_configs` for a profile with strategies, where its checks pass. -/
def buildMarketStreamConfigs (instrumentIds : Finset Text) (candleChannels : List Text) :
    List OkxPublicMarketStreamConfig :=
  ⟨instrumentIds, true, true, []⟩ ::
    if candleChannels.isEmpty then [] else [⟨instrumentIds, false, false, candleChannels⟩]

/-- `build_private_stream_configs`, likewise. -/
def buildPrivateStreamConfigs (instrumentIds : Finset Text) : List OkxPrivateStreamConfig :=
  [⟨.trading, instrumentIds⟩, ⟨.business, instrumentIds⟩]

/-- The identities the tracker is started with. -/
def healthIdentities (instrumentIds : Finset Text) (candleChannels : List Text) :
    List OkxWebsocketStreamIdentity :=
  (buildMarketStreamConfigs instrumentIds candleChannels).map (·.healthIdentity) ++
    (buildPrivateStreamConfigs instrumentIds).map (·.healthIdentity)

/-! ## The channel -/

/-- `OKX_WEBSOCKET_HEALTH_CRITICAL_DELIVERY_TIMEOUT`. -/
def okxWebsocketHealthCriticalDeliveryTimeoutMs : ℕ := 250

/-- A critical report that waits for room. -/
structure CriticalReport where
  event : OkxWebsocketHealthEvent
  sinceMs : ℕ
  deriving DecidableEq, Repr

/-- The tasks, the channel and the engine.  `drained` is what the engine has taken and not yet
decided on; `reports` are the reports that ended, in that order, and whether they found room. -/
structure HealthSystem where
  nowMs : ℕ
  waiting : List CriticalReport
  queue : List OkxWebsocketHealthEvent
  drained : List OkxWebsocketHealthEvent
  loop : RunLoop
  reports : List (OkxWebsocketHealthEvent × Bool)
  deriving DecidableEq

namespace HealthSystem

/-- Nothing was reported and the loop has not started. -/
def start (strategies : List Text) (streams : Finset OkxWebsocketStreamIdentity) :
    HealthSystem where
  nowMs := 0
  waiting := []
  queue := []
  drained := []
  loop := .start strategies streams
  reports := []

variable (self : HealthSystem)

/-- The places of the channel that hold no event. -/
def room : ℕ := websocketHealthChannelCapacity - self.queue.length

/-- A report that found room. -/
def enqueue (event : OkxWebsocketHealthEvent) : HealthSystem :=
  { self with queue := self.queue ++ [event], reports := self.reports ++ [(event, true)] }

/-- A report that did not, and is only logged. -/
def drop (event : OkxWebsocketHealthEvent) : HealthSystem :=
  { self with reports := self.reports ++ [(event, false)] }

/-- `OkxWebsocketHealthReporter::report`.  Free places belong to the reports that wait, in order; a
best-effort report only takes one that is left. -/
def report (event : OkxWebsocketHealthEvent) : HealthSystem :=
  if event.kind.isCritical then { self with waiting := self.waiting ++ [⟨event, self.nowMs⟩] }
  else if self.waiting.length < self.room then self.enqueue event
  else self.drop event

/-- A task reports one event after another. -/
def canReport (event : OkxWebsocketHealthEvent) : Prop :=
  ∀ report ∈ self.waiting, report.event.stream ≠ event.stream

instance (event : OkxWebsocketHealthEvent) : Decidable (self.canReport event) :=
  inferInstanceAs (Decidable (∀ report ∈ _, _))

end HealthSystem

/-- A step of the channel or of the loop. -/
inductive HealthAction where
  /-- Time passes. -/
  | elapse (ms : ℕ)
  | report (event : OkxWebsocketHealthEvent)
  /-- A critical report takes its place in the channel. -/
  | deliver (index : ℕ)
  /-- The time of a critical report is over. -/
  | expire (index : ℕ)
  /-- The engine takes an event. -/
  | receive
  /-- The channel was found empty, or enough was taken. -/
  | decide (outcomes : ℕ → TickOutcome)
  /-- Another arm of the loop. -/
  | arm (input : EngineInput)

def EngineInput.isWebsocketHealth : EngineInput → Bool
  | .websocketHealth .. => true
  | _ => false

/-- One step; `none` where it cannot be taken. -/
def healthStep (self : HealthSystem) : HealthAction → Option (List EngineLog × HealthSystem)
  | .elapse ms => some ([], { self with nowMs := self.nowMs + ms })
  | .report event => if self.canReport event then some ([], self.report event) else none
  | .deliver index =>
      match self.waiting[index]? with
      | some report =>
          if index < self.room then
            some ([], { self with waiting := self.waiting.eraseIdx index }.enqueue report.event)
          else none
      | none => none
  | .expire index =>
      match self.waiting[index]? with
      | some report =>
          if self.room ≤ index ∧
              report.sinceMs + okxWebsocketHealthCriticalDeliveryTimeoutMs ≤ self.nowMs then
            some ([], { self with waiting := self.waiting.eraseIdx index }.drop report.event)
          else none
      | none => none
  | .receive =>
      match self.queue with
      | event :: rest =>
          if self.loop.running ∧ self.drained.length ≤ websocketHealthChannelCapacity then
            some ([], { self with queue := rest, drained := self.drained ++ [event] })
          else none
      | [] => none
  | .decide outcomes =>
      match self.drained with
      | first :: rest => (step self.loop (.websocketHealth (some first) rest outcomes)).map
          fun round => (round.1.2, { self with drained := [], loop := round.2 })
      | [] => none
  | .arm input =>
      if self.drained = [] ∧ input.isWebsocketHealth = false then
        (step self.loop input).map fun round => (round.1.2, { self with loop := round.2 })
      else none

end OkxTrading
