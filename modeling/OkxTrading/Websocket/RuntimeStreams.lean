import OkxTrading.Properties.PrivateAtomicity
import OkxTrading.Websocket.PublicEvents
import OkxTrading.Websocket.StreamTasks

/-!
# The streams of the runtime

The public and the private streams as tasks over the two caches and the two queues of
`OkxRuntimeEventReporter`.  The Level-2 features go through a `watch` channel, which keeps the
newest only and never waits; it is left out.

* `RuntimeCaches`, `RuntimeEvent`, `RuntimeQueue` — what the tasks share.
* `RuntimeStreamConfig.task` — the task of a configured stream.
* `runtimeRun` — a run of all of them.
-/

namespace OkxTrading

open Effect

/-- `PUBLIC_RUNTIME_EVENT_CHANNEL_CAPACITY` and `PRIVATE_RUNTIME_EVENT_CHANNEL_CAPACITY`. -/
def runtimeEventChannelCapacity : ℕ := 64

/-- The two channels to the engine. -/
inductive RuntimeQueue where
  | market
  | account
  deriving DecidableEq, Repr

/-- What goes through them. -/
inductive RuntimeEvent where
  | market (event : OkxPublicRuntimeEvent)
  | account (event : OkxPrivateRuntimeEvent)
  deriving DecidableEq, Repr

/-- The `data` of a message, as either kind of stream reads it. -/
structure RuntimeData where
  market : OkxPublicData
  account : OkxPrivateData
  deriving DecidableEq

/-- The caches that all streams share. -/
structure RuntimeCaches (F : Type) where
  market : OkxMarketDataState F
  account : OkxPrivateEventState

/-- The caches before any message. -/
def RuntimeCaches.default {F : Type} : RuntimeCaches F := ⟨.default, .default⟩

/-- What the insertions of a message meet. -/
structure RuntimeMeets (F : Type) where
  market : MarketMeets F
  account : ℕ → PrivateWalks

/-- The message with its data read otherwise. -/
def OkxWebsocketSubscriptionMessage.mapData {Data Data' : Type} (f : Data → Data')
    (message : OkxWebsocketSubscriptionMessage Data) : OkxWebsocketSubscriptionMessage Data' where
  event := message.event
  code := message.code
  msg := message.msg
  arg := message.arg
  data := message.data.map f

/-- A configured stream, with the part of the configuration its reconnections follow. -/
inductive RuntimeStreamConfig where
  | market (config : OkxPublicMarketSubscription) (policy : OkxWebsocketReconnectPolicy)
  | account (config : OkxPrivateSubscription) (policy : OkxWebsocketReconnectPolicy)

/-! ## Applying a message -/

section Apply

variable {F : Type} [F64 F]

/-- `apply_public_market_data_message_and_report`, up to the reports. -/
def applyMarketMessage (numerics : MarketNumerics F) (level2InstrumentIds : List Text)
    (meets : MarketMeets F) (now : Instant) (caches : RuntimeCaches F)
    (message : OkxWebsocketSubscriptionMessage OkxPublicData) :
    Option (AppliedMessage (RuntimeCaches F) RuntimeEvent) :=
  (applyPublicMarketData level2InstrumentIds numerics meets now caches.market message).map
    fun (result, applied, market) =>
      let events := applied.publicEvents.map .market
      { result := result.map fun _ => events
        accepted := events
        cache := { caches with market }
        announced := by
          intro announced h
          cases result with
          | error e => cases h
          | ok u => cases h; rfl }

/-- What a message announces are the rows the cache accepted. -/
theorem applyPrivateHints_announces {walks : ℕ → PrivateWalks} {cache : OkxPrivateEventState}
    {rows : List OkxPrivateEventHint} {events : List OkxPrivateRuntimeEvent}
    (h : (applyPrivateHints walks cache rows).1 = .ok events) :
    events = (acceptedRows walks cache rows).map OkxPrivateEventHint.runtimeEvent := by
  by_cases hvalid : ∀ event ∈ rows, event.checked.isOk = true
  · exact Except.ok.inj (h.symm.trans (applyPrivateHints_ok walks cache rows hvalid))
  · simp only [not_forall, Bool.not_eq_true] at hvalid
    obtain ⟨event, hmem, hinvalid⟩ := hvalid
    obtain ⟨e, he⟩ := applyPrivateHints_error walks cache rows hmem hinvalid
    cases he.symm.trans h

theorem applyPrivateEventMessageInner_announces {authority : OkxPrivateEventAuthority}
    {walks : ℕ → PrivateWalks} {cache : OkxPrivateEventState}
    {payload : Option OkxWebsocketPrivateMessage} {receivedAt : Instant}
    {applied : AppliedPrivateEvents}
    (h : (applyPrivateEventMessageInner authority walks cache payload receivedAt).1 = .ok applied) :
    applied.runtimeEvents =
      (acceptedRows walks cache (privateRows authority payload receivedAt)).map
        OkxPrivateEventHint.runtimeEvent := by
  unfold applyPrivateEventMessageInner at h
  unfold privateRows
  cases hrows : parsePrivateEventMessageWithAuthority authority payload receivedAt with
  | error e =>
    rw [hrows] at h
    cases h
  | ok rows =>
    rw [hrows] at h
    cases hevents : (applyPrivateHints walks cache rows).1 with
    | error e => simp only [hevents, Except.map, reduceCtorEq] at h
    | ok events =>
      simp only [hevents, Except.map, Except.ok.injEq] at h
      rw [← h]
      exact applyPrivateHints_announces hevents

/-- `apply_private_event_message_and_report`, up to the reports. -/
def applyAccountMessage (authority : OkxPrivateEventAuthority) (walks : ℕ → PrivateWalks)
    (now : Instant) (caches : RuntimeCaches F)
    (message : OkxWebsocketSubscriptionMessage OkxPrivateData) :
    AppliedMessage (RuntimeCaches F) RuntimeEvent :=
  let applied := applyPrivateEventMessageInner authority walks caches.account
    (some message.toPrivate) now
  { result := applied.1.map fun applied => applied.runtimeEvents.map .account
    accepted := (acceptedRows walks caches.account
      (privateRows authority (some message.toPrivate) now)).map fun row => .account row.runtimeEvent
    cache := { caches with account := applied.2 }
    announced := by
      intro announced h
      cases hresult : applied.1 with
      | error e => simp only [hresult, Except.map, reduceCtorEq] at h
      | ok events =>
        simp only [hresult, Except.map, Except.ok.injEq] at h
        rw [← h, applyPrivateEventMessageInner_announces hresult, List.map_map]
        rfl }

end Apply

/-! ## The tasks -/

variable {F : Type} [F64 F]

/-- `run_public_market_stream`. -/
def marketStreamTask (numerics : MarketNumerics F) (config : OkxPublicMarketSubscription)
    (policy : OkxWebsocketReconnectPolicy) :
    StreamTaskConfig RuntimeData (RuntimeCaches F) RuntimeEvent RuntimeQueue (RuntimeMeets F) where
  rules := publicStreamRules
  acks := publicMarketSubscriptionAcks config
  hasLogin := false
  policy
  prepare caches :=
    match caches.market.configureLevel2Instruments config.level2InstrumentIds with
    | (.error e, market) => (.error e, { caches with market })
    | (.ok (), market) => (.ok (), { caches with
        market := if config.subscribeInstruments then market.protectInstruments config.instrumentIds
          else market })
  apply meets now caches message :=
    applyMarketMessage numerics config.level2InstrumentIds meets.market
    now caches (message.mapData RuntimeData.market)
  release caches := { caches with
    market := caches.market.invalidateLevel2ForReconnect config.level2InstrumentIds }
  queue := .market

/-- `run_private_stream`. -/
def privateStreamTask (config : OkxPrivateSubscription) (policy : OkxWebsocketReconnectPolicy) :
    StreamTaskConfig RuntimeData (RuntimeCaches F) RuntimeEvent RuntimeQueue (RuntimeMeets F) where
  rules := privateStreamRules config.kind
  acks := privateStreamSubscriptionAcks config
  hasLogin := true
  policy
  prepare caches := (.ok (), caches)
  apply meets now caches message := some (applyAccountMessage config.eventAuthority meets.account
    now caches (message.mapData RuntimeData.account))
  release caches := caches
  queue := .account

/-- The task of a stream. -/
def RuntimeStreamConfig.task (numerics : MarketNumerics F) : RuntimeStreamConfig →
    StreamTaskConfig RuntimeData (RuntimeCaches F) RuntimeEvent RuntimeQueue (RuntimeMeets F)
  | .market config policy => marketStreamTask numerics config policy
  | .account config policy => privateStreamTask config policy

variable {ι : Type} [DecidableEq ι] (numerics : MarketNumerics F)
  (streams : ι → RuntimeStreamConfig)

/-- Steps of the streams of the runtime. -/
def runtimeSteps (self : StreamSystem ι RuntimeQueue (RuntimeCaches F) RuntimeEvent)
    (actions : List (StreamAction ι RuntimeQueue RuntimeData (RuntimeMeets F))) :
    Option (StreamSystem ι RuntimeQueue (RuntimeCaches F) RuntimeEvent) :=
  streamRun (fun i => (streams i).task numerics) (fun _ => runtimeEventChannelCapacity) self actions

/-- A run of the streams, from the start of the process. -/
def runtimeRun (actions : List (StreamAction ι RuntimeQueue RuntimeData (RuntimeMeets F))) :
    Option (StreamSystem ι RuntimeQueue (RuntimeCaches F) RuntimeEvent) :=
  runtimeSteps numerics streams (.start (fun i => (streams i).task numerics) .default) actions

end OkxTrading
