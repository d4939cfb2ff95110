import OkxTrading.Properties.DispatchGating
import OkxTrading.Runtime.HealthChannel

/-!
# The engine's view of the streams

Over every interleaving of the stream tasks' reports, the clock and the engine.  The channel may
refuse a report, so the view follows the reports that found room.

* `healthIdentities_nodup` — no two configured streams report under one identity.
* `Delivers` — every report that found room is processed, taken or queued, in order.
* `view_follows_deliveries` — what the view is whenever the channel is drained.
-/

namespace OkxTrading

open Collections Effect

/-! ## Identities -/

theorem healthIdentities_nodup {instrumentIds : Finset Text} {candleChannels : List Text} :
    (healthIdentities instrumentIds candleChannels).Nodup := by
  unfold healthIdentities buildMarketStreamConfigs buildPrivateStreamConfigs
  split <;> simp [OkxPublicMarketStreamConfig.healthIdentity, OkxPrivateStreamConfig.healthIdentity]

/-- An event changes the readiness of its own stream only. -/
theorem mem_ready_record_other {tracker : WebsocketHealthTracker} {event : OkxWebsocketHealthEvent}
    {stream : OkxWebsocketStreamIdentity} (hother : event.stream ≠ stream) :
    stream ∈ (tracker.record event).readyStreams ↔ stream ∈ tracker.readyStreams := by
  unfold WebsocketHealthTracker.record
  split_ifs <;> simp [Ne.symm hother]

/-! ## Reports -/

/-- The events that found room, in the order in which they did. -/
def delivered (reports : List (OkxWebsocketHealthEvent × Bool)) : List OkxWebsocketHealthEvent :=
  (reports.filter fun report => report.2).map (·.1)

/-- The last report of a stream that ended. -/
def lastReport? (reports : List (OkxWebsocketHealthEvent × Bool))
    (stream : OkxWebsocketStreamIdentity) : Option (OkxWebsocketHealthEvent × Bool) :=
  reports.reverse.find? fun report => decide (report.1.stream = stream)

/-- The last event of a stream that found room. -/
def lastDelivered? (reports : List (OkxWebsocketHealthEvent × Bool))
    (stream : OkxWebsocketStreamIdentity) : Option OkxWebsocketHealthEvent :=
  (delivered reports).reverse.find? fun event => decide (event.stream = stream)

/-- No report waits, and the engine has taken and processed every event. -/
def HealthSystem.Drained (system : HealthSystem) : Prop :=
  system.waiting = [] ∧ system.queue = [] ∧ system.drained = []

instance (system : HealthSystem) : Decidable system.Drained := inferInstanceAs (Decidable (_ ∧ _))

variable {reports : List (OkxWebsocketHealthEvent × Bool)} {event : OkxWebsocketHealthEvent}
  {streams : Finset OkxWebsocketStreamIdentity} {stream : OkxWebsocketStreamIdentity}
  {strategies : List Text} {log out : List EngineLog} {system next : HealthSystem}

theorem delivered_concat_true :
    delivered (reports ++ [(event, true)]) = delivered reports ++ [event] := by
  simp [delivered]

theorem delivered_concat_false : delivered (reports ++ [(event, false)]) = delivered reports := by
  simp [delivered]

/-- Where the last report of a stream found room, it is the last of its events that did. -/
theorem lastDelivered?_of_lastReport? (h : lastReport? reports stream = some (event, true)) :
    lastDelivered? reports stream = some event := by
  unfold lastReport? at h
  unfold lastDelivered? delivered
  obtain ⟨hstream, later, earlier, hsplit, hlater⟩ := List.find?_eq_some_iff_append.1 h
  rw [← List.map_reverse, ← List.filter_reverse, hsplit]
  rw [List.filter_append, List.filter_cons_of_pos rfl, List.map_append, List.map_cons]
  rw [List.find?_append, List.find?_eq_none.2, Option.none_or]
  · exact List.find?_cons_of_pos hstream
  · intro other hother
    obtain ⟨report, hreport, rfl⟩ := List.mem_map.1 hother
    simpa using hlater report (List.mem_of_mem_filter hreport)

/-! ## What the engine processes -/

/-- The reports the engine read. -/
def processedEvents (log : List EngineLog) : List OkxWebsocketHealthEvent :=
  log.filterMap EngineLog.event?

theorem processedEvents_append {more : List EngineLog} :
    processedEvents (log ++ more) = processedEvents log ++ processedEvents more :=
  List.filterMap_append

theorem processedEvents_map {events : List OkxWebsocketHealthEvent} :
    processedEvents (events.map .processed) = events := by
  induction events with
  | nil => rfl
  | cons event rest ih => exact congrArg (event :: ·) ih

/-- A dispatch processes no event. -/
theorem processedEvents_dispatch {loop : RunLoop} {dispatch : StrategyDispatch}
    {offered : Option ConfirmedCandle} {outcomes : ℕ → TickOutcome} :
    processedEvents (loop.strategyDispatchDecision dispatch offered outcomes).2.2 = [] := by
  unfold RunLoop.strategyDispatchDecision
  split <;> rfl

theorem processedEvents_reconciliation {loop : RunLoop} {outcomes : ℕ → TickOutcome} :
    processedEvents (loop.websocketReconciliationDecision outcomes).2.2 = [] := by
  unfold RunLoop.websocketReconciliationDecision
  simp only
  split <;> exact processedEvents_dispatch

theorem processedEvents_publicEvent {loop : RunLoop} {event : Option OkxPublicRuntimeEvent}
    {outcomes : ℕ → TickOutcome} :
    processedEvents (loop.publicRuntimeEventDecision event outcomes).2.2 = [] := by
  rcases event with _ | (candle | ⟨instrumentId, receivedAt⟩)
  · rfl
  · unfold RunLoop.publicRuntimeEventDecision
    simp only
    split
    · exact processedEvents_dispatch
    · simp only [TradingEngine.deferConfirmedCandle]
      split
      · rfl
      · split
        · rfl
        · split <;> rfl
  · exact processedEvents_dispatch

theorem processedEvents_pending {loop : RunLoop} {outcomes : ℕ → TickOutcome} :
    processedEvents (loop.pendingConfirmedCandleDecision outcomes).2.2 = [] := by
  unfold RunLoop.pendingConfirmedCandleDecision
  split
  · rfl
  · exact processedEvents_publicEvent

theorem processedEvents_health {loop : RunLoop} {first : OkxWebsocketHealthEvent}
    {queued : List OkxWebsocketHealthEvent} {outcomes : ℕ → TickOutcome} :
    processedEvents (loop.websocketHealthDecision (some first) queued outcomes).2.2 =
      TradingEngine.drainedEvents first queued := by
  unfold RunLoop.websocketHealthDecision
  simp only
  rw [processedEvents_append, processedEvents_map]
  split
  · exact List.append_nil _
  · split
    · rw [processedEvents_reconciliation, List.append_nil]
    · exact List.append_nil _

/-- The events an arm of the loop is given. -/
def EngineInput.events : EngineInput → List OkxWebsocketHealthEvent
  | .websocketHealth (some first) queued _ => TradingEngine.drainedEvents first queued
  | _ => []

/-- The arm of the stream events processes what it was given; no other arm processes events. -/
theorem processedEvents_select {loop : RunLoop} {input : EngineInput} {decided : Decided}
    (h : select loop input = some decided) :
    processedEvents decided.2.2 = input.events := by
  cases input with
  | heartbeatFailure failure =>
      cases h
      cases failure <;> rfl
  | serverTimeRefreshFailure failure outcomes =>
      cases h
      cases failure with
      | none => rfl
      | some error => exact processedEvents_dispatch
  | ctrlC =>
      cases h
      rfl
  | startObservation =>
      cases h
      rfl
  | observationCompleted observation =>
      cases h
      cases observation <;> rfl
  | privateEvent event outcomes =>
      cases h
      cases event with
      | none => rfl
      | some event => exact processedEvents_dispatch
  | reconciliationTimer outcomes =>
      cases h
      unfold RunLoop.reconciliationTimerDecision
      split
      · exact processedEvents_reconciliation
      · exact processedEvents_dispatch
  | websocketHealth event queued outcomes =>
      cases h
      cases event with
      | none => rfl
      | some first => exact processedEvents_health
  | pendingConfirmedCandle outcomes =>
      simp only [select] at h
      split at h
      · cases h
        exact processedEvents_pending
      · cases h
  | publicEvent event outcomes =>
      simp only [select] at h
      split at h
      · cases h
      · cases h
        rw [processedEvents_append, processedEvents_publicEvent]
        rcases event with _ | (candle | ⟨instrumentId, receivedAt⟩) <;> rfl
  | level2 closed =>
      simp only [select] at h
      split at h
      · cases h
      · split at h
        · cases h
          rfl
        · cases h
          rfl

/-! ## Runs -/

/-- The log of the engine in a run of the system. -/
def systemLog (run : List (HealthAction × List EngineLog)) : List EngineLog :=
  run.flatMap (·.2)

/-- What holds of the system and the log of its run: the engine's part, and that every report that
found room is processed, taken or queued. -/
structure Delivers (streams : Finset OkxWebsocketStreamIdentity) (strategies : List Text)
    (system : HealthSystem) (log : List EngineLog) : Prop where
  tracks : LoopTracks streams strategies system.loop log
  fewTaken : system.drained.length ≤ websocketHealthChannelCapacity + 1
  complete : delivered system.reports = processedEvents log ++ system.drained ++ system.queue

theorem Delivers.enqueue (h : Delivers streams strategies system log) :
    Delivers streams strategies (system.enqueue event) log where
  tracks := h.tracks
  fewTaken := h.fewTaken
  complete := by
    show delivered (system.reports ++ [(event, true)]) =
      processedEvents log ++ system.drained ++ (system.queue ++ [event])
    rw [delivered_concat_true, h.complete, List.append_assoc]

theorem Delivers.drop (h : Delivers streams strategies system log) :
    Delivers streams strategies (system.drop event) log where
  tracks := h.tracks
  fewTaken := h.fewTaken
  complete := delivered_concat_false.trans h.complete

theorem Delivers.erase (h : Delivers streams strategies system log) {index : ℕ} :
    Delivers streams strategies { system with waiting := system.waiting.eraseIdx index } log :=
  ⟨h.tracks, h.fewTaken, h.complete⟩

/-- A round of the engine keeps it, where it processes what was taken. -/
theorem Delivers.round (h : Delivers streams strategies system log) {input : EngineInput}
    {answer : Result RuntimeLoopDecision × List EngineLog} {loop : RunLoop}
    (hstep : step system.loop input = some (answer, loop))
    (hprocessed : processedEvents answer.2 = system.drained) :
    Delivers streams strategies { system with drained := [], loop } (log ++ answer.2) where
  tracks := (step_tracks h.tracks hstep).1
  fewTaken := Nat.zero_le _
  complete := by
    rw [processedEvents_append, hprocessed, List.append_nil]
    exact h.complete

theorem processedEvents_step {loop next : RunLoop} {input : EngineInput}
    {answer : Result RuntimeLoopDecision × List EngineLog}
    (hstep : step loop input = some (answer, next)) :
    processedEvents answer.2 = input.events := by
  unfold step at hstep
  split at hstep
  · obtain ⟨decided, hselect, hnext⟩ := Option.map_eq_some_iff.1 hstep
    cases hnext
    exact processedEvents_select hselect
  · cases hstep

/-- One action. -/
theorem healthStep_delivers (h : Delivers streams strategies system log) {action : HealthAction}
    (hstep : healthStep system action = some (out, next)) :
    Delivers streams strategies next (log ++ out) := by
  cases action with
  | elapse ms =>
      cases hstep
      rw [List.append_nil]
      exact ⟨h.tracks, h.fewTaken, h.complete⟩
  | report event =>
      simp only [healthStep] at hstep
      split at hstep
      · cases hstep
        rw [List.append_nil]
        unfold HealthSystem.report
        split_ifs
        · exact ⟨h.tracks, h.fewTaken, h.complete⟩
        · exact h.enqueue
        · exact h.drop
      · cases hstep
  | deliver index =>
      simp only [healthStep] at hstep
      split at hstep
      · split at hstep
        · cases hstep
          rw [List.append_nil]
          exact h.erase.enqueue
        · cases hstep
      · cases hstep
  | expire index =>
      simp only [healthStep] at hstep
      split at hstep
      · split at hstep
        · cases hstep
          rw [List.append_nil]
          exact h.erase.drop
        · cases hstep
      · cases hstep
  | receive =>
      simp only [healthStep] at hstep
      split at hstep
      · rename_i event rest hqueue
        split at hstep
        · rename_i hroom
          cases hstep
          rw [List.append_nil]
          refine ⟨h.tracks, ?_, ?_⟩
          · rw [List.length_append, List.length_singleton]
            exact Nat.succ_le_succ hroom.2
          · have hcomplete := h.complete
            rw [hqueue] at hcomplete
            rw [hcomplete]
            simp
        · cases hstep
      · cases hstep
  | decide outcomes =>
      simp only [healthStep] at hstep
      split at hstep
      · rename_i first rest hdrained
        obtain ⟨round, hround, hnext⟩ := Option.map_eq_some_iff.1 hstep
        cases hnext
        refine h.round hround ?_
        rw [processedEvents_step hround, hdrained]
        have hfew := h.fewTaken
        rw [hdrained, List.length_cons] at hfew
        exact congrArg (first :: ·) (List.take_of_length_le (Nat.le_of_succ_le_succ hfew))
      · cases hstep
  | arm input =>
      simp only [healthStep] at hstep
      split at hstep
      · rename_i harm
        obtain ⟨round, hround, hnext⟩ := Option.map_eq_some_iff.1 hstep
        cases hnext
        have hnone : processedEvents round.1.2 = system.drained := by
          rw [processedEvents_step hround, harm.1]
          cases input <;> first | rfl | cases harm.2
        have hkept := h.round hround hnone
        rw [← harm.1] at hkept
        exact hkept
      · cases hstep

theorem run_delivers {actions : List HealthAction} {run : List (HealthAction × List EngineLog)}
    (h : trace healthStep (HealthSystem.start strategies streams) actions = some (run, system)) :
    Delivers streams strategies system (systemLog run) := by
  refine trace_induction (P := fun run system => Delivers streams strategies system (systemLog run))
    ⟨start_tracks, Nat.zero_le _, rfl⟩ ?_ h
  intro run system action out next _ hdelivers hstep
  have hlog : systemLog (run ++ [(action, out)]) = systemLog run ++ out := by simp [systemLog]
  rw [hlog]
  exact healthStep_delivers hdelivers hstep

/-- The view the engine has where the channel is drained. -/
structure FollowsDeliveries (streams : Finset OkxWebsocketStreamIdentity) (system : HealthSystem)
    (log : List EngineLog) : Prop where
  /-- A stream is ready where the last of its events that found room is an acknowledgement. -/
  ready : ∀ stream ∈ streams, stream ∈ system.loop.engine.websocketHealthTracker.readyStreams ↔
    ∃ event, lastDelivered? system.reports stream = some event ∧
      event.kind = .subscriptionAckSucceeded
  /-- Where the last report of a stream found room, its readiness says what was reported. -/
  reported : ∀ stream ∈ streams, ∀ event, lastReport? system.reports stream = some (event, true) →
    (stream ∈ system.loop.engine.websocketHealthTracker.readyStreams ↔
      event.kind = .subscriptionAckSucceeded)
  /-- Every event that found room was processed, in order. -/
  processed : processedEvents log = delivered system.reports
  /-- A reconciliation is pending, or every event that asks for one was followed by it. -/
  reconciliation : system.loop.engine.websocketReconcileRequested = true ∨
    Followed (fun _ => True) log

theorem Delivers.followsDeliveries (h : Delivers streams strategies system log)
    (hdrained : system.Drained) : FollowsDeliveries streams system log := by
  have hprocessed : processedEvents log = delivered system.reports := by
    rw [h.complete, hdrained.2.1, hdrained.2.2, List.append_nil, List.append_nil]
  have hready : ∀ stream ∈ streams,
      stream ∈ system.loop.engine.websocketHealthTracker.readyStreams ↔
        ∃ event, lastDelivered? system.reports stream = some event ∧
          event.kind = .subscriptionAckSucceeded := by
    intro stream hstream
    rw [h.tracks.gate.ready stream hstream]
    unfold latestEvent? lastDelivered?
    rw [← hprocessed]
    rfl
  refine ⟨hready, fun stream hstream event hlast => ?_, hprocessed, ?_⟩
  · rw [hready stream hstream, lastDelivered?_of_lastReport? hlast]
    simp
  · cases hrequested : system.loop.engine.websocketReconcileRequested with
    | true => exact .inl rfl
    | false => exact .inr (h.tracks.gate.dispatched hrequested)

/-- **The view follows the deliveries**, in every interleaving: whenever the channel is drained, a
stream is ready exactly where the last of its events that found room is an acknowledgement, and a
reconciliation was made or is pending for every disconnect that found room.  The configured streams
have distinct identities, and the events of one change nothing of another. -/
theorem view_follows_deliveries {instrumentIds : Finset Text} {candleChannels : List Text}
    {actions : List HealthAction} {run : List (HealthAction × List EngineLog)}
    (h : trace healthStep (HealthSystem.start strategies
      (healthIdentities instrumentIds candleChannels).toFinset) actions = some (run, system)) :
    (system.Drained → FollowsDeliveries (healthIdentities instrumentIds candleChannels).toFinset
        system (systemLog run)) ∧
      (healthIdentities instrumentIds candleChannels).Nodup ∧
      ∀ (event : OkxWebsocketHealthEvent) (stream : OkxWebsocketStreamIdentity),
        event.stream ≠ stream →
          (stream ∈ (system.loop.engine.websocketHealthTracker.record event).readyStreams ↔
            stream ∈ system.loop.engine.websocketHealthTracker.readyStreams) :=
  ⟨(run_delivers h).followsDeliveries, healthIdentities_nodup, fun _ _ => mem_ready_record_other⟩

/-! ### Runs -/

def demoInstruments : Finset Text := {"BTC-USDT".toList}

def demoIdentities : List OkxWebsocketStreamIdentity :=
  healthIdentities demoInstruments ["candle1m".toList]

def demoMarket : OkxWebsocketStreamIdentity := ⟨.publicKind, .publicMarketData, 1⟩

/-- A critical report that takes its place at once. -/
def reported (kind : OkxWebsocketHealthEventKind) (stream : OkxWebsocketStreamIdentity) :
    List HealthAction := [.report ⟨kind, stream⟩, .deliver 0]

/-- Every stream is acknowledged, and the engine reconciles. -/
def acknowledged : List HealthAction :=
  demoIdentities.flatMap (reported .subscriptionAckSucceeded) ++
    List.replicate 4 .receive ++ [.decide fun _ => .ok]

/-- A stream that comes back does not get through. -/
def failedAttempt (stream : OkxWebsocketStreamIdentity) : List HealthAction :=
  [.report ⟨.reconnectScheduled, stream⟩, .elapse 1000, .report ⟨.connectAttempt, stream⟩] ++
    reported .streamFailedBeforeSubscription stream

/-- While the engine is busy, the market stream fails to come back until the channel is full; then
the candle stream fails, waits in vain for room, and schedules its reconnection. -/
def saturated : List HealthAction :=
  acknowledged ++ reported .streamDisconnectedAfterSubscription demoMarket ++
    (List.replicate 21 (failedAttempt demoMarket)).flatten ++
    [.report ⟨.streamDisconnectedAfterSubscription, demoStream⟩, .elapse 250, .expire 0,
      .report ⟨.reconnectScheduled, demoStream⟩] ++
    List.replicate 64 .receive ++ [.decide fun _ => .ok]

/-- The theorem at a run in which every stream is acknowledged. -/
theorem view_follows_deliveries_acknowledged : ∃ run system,
    trace healthStep (HealthSystem.start ["BTC-USDT".toList] demoIdentities.toFinset) acknowledged =
      some (run, system) ∧ system.Drained ∧
      demoStream ∈ system.loop.engine.websocketHealthTracker.readyStreams ∧
      FollowsDeliveries demoIdentities.toFinset system (systemLog run) := by
  have hrun : ((trace healthStep (HealthSystem.start ["BTC-USDT".toList] demoIdentities.toFinset)
      acknowledged).map fun last => decide (last.2.Drained ∧
        demoStream ∈ last.2.loop.engine.websocketHealthTracker.readyStreams)) = some true := by
    decide +kernel
  obtain ⟨⟨run, system⟩, hrun, hdrained⟩ := Option.map_eq_some_iff.1 hrun
  have hdrained := of_decide_eq_true hdrained
  exact ⟨run, system, hrun, hdrained.1, hdrained.2, (view_follows_deliveries hrun).1 hdrained.1⟩

/-- The candle stream is ready in the engine's view, although it failed and last reported that it
will reconnect. -/
theorem ready_after_lost_reports : ∃ run system,
    trace healthStep (HealthSystem.start ["BTC-USDT".toList] demoIdentities.toFinset) saturated =
      some (run, system) ∧ system.Drained ∧
      lastReport? system.reports demoStream = some (⟨.reconnectScheduled, demoStream⟩, false) ∧
      ¬ (demoStream ∈ system.loop.engine.websocketHealthTracker.readyStreams ↔
        ∃ event found, lastReport? system.reports demoStream = some (event, found) ∧
          event.kind = .subscriptionAckSucceeded) := by
  have hrun : ((trace healthStep (HealthSystem.start ["BTC-USDT".toList] demoIdentities.toFinset)
      saturated).map fun last => decide (last.2.Drained ∧
        lastReport? last.2.reports demoStream = some (⟨.reconnectScheduled, demoStream⟩, false) ∧
        demoStream ∈ last.2.loop.engine.websocketHealthTracker.readyStreams)) = some true := by
    decide +kernel
  obtain ⟨⟨run, system⟩, hrun, hlast⟩ := Option.map_eq_some_iff.1 hrun
  obtain ⟨hdrained, hreport, hready⟩ := of_decide_eq_true hlast
  refine ⟨run, system, hrun, hdrained, hreport, fun hview => ?_⟩
  obtain ⟨event, found, hevent, hkind⟩ := hview.1 hready
  rw [hreport] at hevent
  cases hevent
  cases hkind

end OkxTrading
