import OkxTrading.Properties.EventDelivery
import OkxTrading.Properties.StreamHealth
import OkxTrading.Properties.SubscriptionHandshake

/-!
# Health and sessions

What the engine believes of a stream against what its task is doing.  The tracker keeps one status
for each stream, which depends on the reports of that stream alone; the reports of a task follow its
sessions.

* `StreamStatus` — the status of one stream; `status_foldl` — the tracker keeps one for each.
* `StreamTask.status_reported` — the status its own reports lead to.
* `health_tracker_tracks_sessions` — the tracker, over any interleaving of the reports of all tasks.
* `engine_view_matches_sessions` — the engine behind its channel, where no report was lost.
-/

namespace OkxTrading

open Effect

/-! ## The status of a stream -/

/-- What the tracker holds of one stream. -/
structure StreamStatus where
  ready : Bool
  everReady : Bool
  failedBeforeReady : Bool
  deriving DecidableEq, Repr

namespace StreamStatus

def initial : StreamStatus := ⟨false, false, false⟩

/-- One event of the stream. -/
def record (self : StreamStatus) (kind : OkxWebsocketHealthEventKind) : StreamStatus :=
  if kind = .subscriptionAckSucceeded then ⟨true, true, false⟩
  else ⟨false, self.everReady, self.failedBeforeReady || (kind.failsBeforeReady && !self.everReady)⟩

/-- A stream is ready where its last event is an acknowledgement. -/
theorem ready_foldl {status : StreamStatus} {kinds : List OkxWebsocketHealthEventKind} :
    (kinds.foldl record status).ready =
      (kinds.getLast?.elim status.ready fun kind => decide (kind = .subscriptionAckSucceeded)) := by
  induction kinds using List.reverseRecOn with
  | nil => rfl
  | append_singleton kinds kind ih =>
    rw [List.foldl_concat, List.getLast?_concat, Option.elim_some, record]
    split_ifs with hkind
    · exact (decide_eq_true hkind).symm
    · exact (decide_eq_false hkind).symm

end StreamStatus

namespace WebsocketHealthTracker

variable {self : WebsocketHealthTracker} {stream : OkxWebsocketStreamIdentity}

/-- What the tracker keeps of a stream. -/
def status (self : WebsocketHealthTracker) (stream : OkxWebsocketStreamIdentity) :
    StreamStatus where
  ready := decide (stream ∈ self.readyStreams)
  everReady := decide (stream ∈ self.everReadyStreams)
  failedBeforeReady := decide (stream ∈ self.failedBeforeReadyStreams)

/-- An event changes the status of its own stream only. -/
theorem status_record (hexpected : stream ∈ self.expectedStreams)
    {event : OkxWebsocketHealthEvent} :
    (self.record event).status stream =
      if event.stream = stream then (self.status stream).record event.kind
      else self.status stream := by
  unfold record status StreamStatus.record
  by_cases hstream : event.stream = stream
  · subst hstream
    simp only [hexpected, not_true_eq_false, if_false, if_true]
    split_ifs with hack hfails
    · simp
    · simp [hfails.1, hfails.2]
    · rcases not_and_or.1 hfails with hkind | hever
      · simp [hkind]
      · simp [not_not.1 hever]
  · have hother : stream ≠ event.stream := fun h => hstream h.symm
    simp only [if_neg hstream]
    split_ifs <;> simp [hother]

/-- **The status of a stream follows its own events**, whatever comes in between. -/
theorem status_foldl (hexpected : stream ∈ self.expectedStreams)
    (events : List OkxWebsocketHealthEvent) :
    (events.foldl record self).status stream =
      ((events.filter fun event => decide (event.stream = stream)).map (·.kind)).foldl
        StreamStatus.record (self.status stream) := by
  induction events generalizing self with
  | nil => rfl
  | cons event rest ih =>
    rw [List.foldl_cons, ih (expectedStreams_record.symm ▸ hexpected), status_record hexpected]
    by_cases hstream : event.stream = stream
    · rw [if_pos hstream, List.filter_cons_of_pos (by simpa using hstream), List.map_cons,
        List.foldl_cons]
    · rw [if_neg hstream, List.filter_cons_of_neg (by simpa using hstream)]

theorem mandatoryStreams_foldl (events : List OkxWebsocketHealthEvent) :
    (events.foldl record self).mandatoryStreams = self.mandatoryStreams := by
  induction events generalizing self with
  | nil => rfl
  | cons event rest ih => rw [List.foldl_cons, ih, mandatoryStreams_record]

end WebsocketHealthTracker

/-! ## The reports of a task -/

namespace StreamTask

variable {Event : Type} {task : StreamTask Event} {hasLogin : Bool}

/-- What a task has reported. -/
def reported (task : StreamTask Event) : List OkxWebsocketHealthEventKind :=
  task.past.flatMap (·.reports) ++ task.current.reports

/-- The session of the task is subscribed. -/
def subscribedNow (task : StreamTask Event) : Bool := decide (task.phase.stage = .subscribed)

/-- A session of the task was subscribed, or is. -/
def everSubscribed (task : StreamTask Event) : Bool :=
  task.past.any (·.outcome.subscribed) || task.subscribedNow

/-- The status after sessions of which it is known whether they were subscribed. -/
def statusAfter (subscribed : List Bool) : StreamStatus :=
  ⟨false, subscribed.any id, !subscribed.any id && !subscribed.isEmpty⟩

/-- A session that came to a stage. -/
theorem foldl_stage (hasLogin ever nonempty : Bool) (stage : SessionStage) :
    (stage.reports hasLogin).foldl StreamStatus.record ⟨false, ever, !ever && nonempty⟩ =
      ⟨decide (stage = .subscribed), ever || decide (stage = .subscribed),
        !(ever || decide (stage = .subscribed)) && nonempty⟩ := by
  cases hasLogin <;> cases ever <;> cases nonempty <;> cases stage <;> decide

/-- A session that ended there; before it was subscribed, with an error. -/
theorem foldl_ended (ever nonempty : Bool) {stage : SessionStage}
    {failure : List OkxWebsocketHealthEventKind} (hfailure : failure ∈ stage.failures)
    {error : Option Message} (herror : stage ≠ .subscribed → error.isSome = true) :
    (failure ++ OkxWebsocketStreamRunOutcome.report ⟨decide (stage = .subscribed), error⟩ ++
        [OkxWebsocketHealthEventKind.reconnectScheduled]).foldl StreamStatus.record
      ⟨decide (stage = .subscribed), ever || decide (stage = .subscribed),
        !(ever || decide (stage = .subscribed)) && nonempty⟩ =
      ⟨false, ever || decide (stage = .subscribed), !(ever || decide (stage = .subscribed))⟩ := by
  cases error with
  | none =>
    obtain rfl : stage = .subscribed := by
      by_contra hstage
      cases herror hstage
    obtain rfl := List.mem_singleton.1 hfailure
    cases ever <;> rfl
  | some e =>
    revert failure
    cases stage <;> cases ever <;> cases nonempty <;>
      simp [SessionStage.failures, OkxWebsocketStreamRunOutcome.report, StreamStatus.record,
        OkxWebsocketHealthEventKind.failsBeforeReady]

/-- A session that is over. -/
theorem status_session {session : FinishedSession Event} (h : session.Sound hasLogin)
    (subscribed : List Bool) :
    session.reports.foldl StreamStatus.record (statusAfter subscribed) =
      statusAfter (subscribed ++ [session.outcome.subscribed]) := by
  obtain ⟨stage, failure, hfailure, hreports, hstage, -⟩ := h.reports
  -- only a session that was subscribed ends without an error
  have herror : stage ≠ .subscribed → session.outcome.error.isSome = true := by
    intro hnot
    cases herror : session.outcome.error with
    | none =>
      exact absurd ((h.complete herror).1.symm.trans (hstage.trans (decide_eq_false hnot))) nofun
    | some e => rfl
  have houtcome : session.outcome = ⟨decide (stage = .subscribed), session.outcome.error⟩ := by
    rw [← hstage]
  rw [hreports, List.append_assoc, List.append_assoc, List.foldl_append, statusAfter, foldl_stage,
    ← List.append_assoc, houtcome, foldl_ended _ _ hfailure herror]
  simp [statusAfter]

theorem status_past (h : ∀ session ∈ task.past, session.Sound hasLogin) :
    (task.past.flatMap (·.reports)).foldl StreamStatus.record .initial =
      statusAfter (task.past.map (·.outcome.subscribed)) := by
  generalize task.past = past at h
  induction past using List.reverseRecOn with
  | nil => rfl
  | append_singleton past session ih =>
    rw [List.flatMap_append, List.flatMap_singleton, List.foldl_append,
      ih fun other hother => h other (List.mem_append_left _ hother),
      status_session (h session (by simp)), List.map_append]
    rfl

/-- **The reports of a task tell its status**: ready while its session is subscribed, failed where
it has had sessions and none was subscribed. -/
theorem status_reported (h : task.Sound hasLogin) :
    task.reported.foldl StreamStatus.record .initial =
      ⟨task.subscribedNow, task.everSubscribed, !task.everSubscribed && !task.past.isEmpty⟩ := by
  unfold reported everSubscribed subscribedNow
  rw [List.foldl_append, status_past h.past, h.reports]
  unfold statusAfter
  rw [List.any_map, List.isEmpty_map]
  exact foldl_stage _ _ _ _

end StreamTask

/-! ## The tracker and the engine -/

section Runs

variable {F ι : Type} [F64 F] [DecidableEq ι]

/-- What a tracker of the streams of the tasks says of them. -/
structure TracksSessions (identity : ι → OkxWebsocketStreamIdentity)
    (tasks : ι → StreamTask RuntimeEvent) (tracker : WebsocketHealthTracker) : Prop where
  /-- Ready are the streams whose session is subscribed. -/
  ready : ∀ i, identity i ∈ tracker.readyStreams ↔ (tasks i).subscribedNow = true
  /-- Failed are those that have had sessions, and never a subscribed one. -/
  failed : ∀ i, identity i ∈ tracker.failedBeforeReadyStreams ↔
    (tasks i).everSubscribed = false ∧ (tasks i).past ≠ []
  startup : tracker.startupReadinessError.isSome = true ↔
    ∃ i, (tasks i).everSubscribed = false ∧ (tasks i).past ≠ []
  allReady : tracker.allMandatoryStreamsReady ↔ ∀ i, (tasks i).subscribedNow = true

/-- A task that is subscribed was subscribed. -/
theorem StreamTask.everSubscribed_of_now {Event : Type} {task : StreamTask Event}
    (h : task.subscribedNow = true) : task.everSubscribed = true := by
  rw [everSubscribed, h, Bool.or_true]

/-- **The tracker tells what the sessions do**, in whatever order the reports of the tasks come, as
long as each task's own come all and in order. -/
theorem health_tracker_tracks_sessions (numerics : MarketNumerics F)
    (streams : ι → RuntimeStreamConfig)
    (actions : List (StreamAction ι RuntimeQueue RuntimeData (RuntimeMeets F)))
    (next : StreamSystem ι RuntimeQueue (RuntimeCaches F) RuntimeEvent)
    (hrun : runtimeRun numerics streams actions = some next)
    (identity : ι → OkxWebsocketStreamIdentity) (expected : Finset OkxWebsocketStreamIdentity)
    (hexpected : ∀ stream, stream ∈ expected ↔ ∃ i, identity i = stream)
    (events : List OkxWebsocketHealthEvent)
    (hevents : ∀ i, (events.filter fun event => decide (event.stream = identity i)).map (·.kind) =
      (next.tasks i).reported) :
    TracksSessions identity next.tasks
        (events.foldl WebsocketHealthTracker.record (.new expected)) := by
  have hstatus : ∀ i, (events.foldl WebsocketHealthTracker.record (.new expected)).status
    (identity i) =
      ⟨(next.tasks i).subscribedNow, (next.tasks i).everSubscribed,
        !(next.tasks i).everSubscribed && !(next.tasks i).past.isEmpty⟩ := by
    intro i
    rw [WebsocketHealthTracker.status_foldl ((hexpected _).2 ⟨i, rfl⟩), hevents]
    exact StreamTask.status_reported (streamRun_sound hrun i)
  have hmandatory : (events.foldl WebsocketHealthTracker.record (.new expected)).mandatoryStreams =
      expected := WebsocketHealthTracker.mandatoryStreams_foldl events
  generalize events.foldl WebsocketHealthTracker.record (.new expected) = tracker
    at hstatus hmandatory
  have hready : ∀ i, identity i ∈ tracker.readyStreams ↔ (next.tasks i).subscribedNow = true := by
    intro i
    have hone : decide (identity i ∈ tracker.readyStreams) = (next.tasks i).subscribedNow :=
      congrArg StreamStatus.ready (hstatus i)
    rw [← hone]
    exact decide_eq_true_iff.symm
  have hfailed : ∀ i, identity i ∈ tracker.failedBeforeReadyStreams ↔
      (next.tasks i).everSubscribed = false ∧ (next.tasks i).past ≠ [] := by
    intro i
    have hone : decide (identity i ∈ tracker.failedBeforeReadyStreams) =
        (!(next.tasks i).everSubscribed && !(next.tasks i).past.isEmpty) :=
      congrArg StreamStatus.failedBeforeReady (hstatus i)
    rw [← decide_eq_true_iff (p := identity i ∈ tracker.failedBeforeReadyStreams), hone]
    simp
  refine ⟨hready, hfailed, ?_, ?_⟩
  · rw [WebsocketHealthTracker.startupReadinessError_isSome, hmandatory]
    constructor
    · rintro ⟨stream, hmem, hbefore, -⟩
      obtain ⟨i, rfl⟩ := (hexpected stream).1 hmem
      exact ⟨i, (hfailed i).1 hbefore⟩
    · rintro ⟨i, hnever, hpast⟩
      refine ⟨identity i, (hexpected _).2 ⟨i, rfl⟩, (hfailed i).2 ⟨hnever, hpast⟩, fun hnow => ?_⟩
      have hever := StreamTask.everSubscribed_of_now ((hready i).1 hnow)
      cases hnever.symm.trans hever
  · unfold WebsocketHealthTracker.allMandatoryStreamsReady
    rw [hmandatory]
    constructor
    · exact fun hall i => (hready i).1 (hall ((hexpected _).2 ⟨i, rfl⟩))
    · intro hall stream hmem
      obtain ⟨i, rfl⟩ := (hexpected stream).1 hmem
      exact (hready i).2 (hall i)

def booksIdentity : OkxWebsocketStreamIdentity := ⟨.publicKind, .publicMarketData, 1⟩

/-- A public stream and a private one. -/
def twoStreams : Bool → RuntimeStreamConfig
  | true => .market btcBooks .default
  | false => .account btcPrivateStream .default

def twoIdentities : Bool → OkxWebsocketStreamIdentity
  | true => booksIdentity
  | false => ⟨.privateKind, .privateTrading, 1⟩

/-- The login of the private stream is refused while the public one subscribes. -/
def loginRefused : List (StreamAction Bool RuntimeQueue RuntimeData (RuntimeMeets ℚ)) :=
  [.open false, .open true, .connect true none, .connect false none, .subscribe true none,
    .login false (.failed ""), .arrive true entryMeets (marketAck btcBooksArg),
    .arrive true entryMeets (marketAck spotInstrumentsArg)]

/-- Their reports, those of the one between those of the other. -/
def mixedReports : List OkxWebsocketHealthEvent :=
  [⟨.connectAttempt, twoIdentities true⟩, ⟨.connectAttempt, twoIdentities false⟩,
    ⟨.connected, twoIdentities false⟩, ⟨.loginFailed, twoIdentities false⟩,
    ⟨.connected, twoIdentities true⟩, ⟨.streamFailedBeforeSubscription, twoIdentities false⟩,
    ⟨.subscriptionAckSucceeded, twoIdentities true⟩, ⟨.reconnectScheduled, twoIdentities false⟩]

/-- The theorem at that run: the public stream is ready, and the private one stops the startup. -/
theorem health_tracker_tracks_sessions_loginRefused : ∃ next,
    runtimeRun wholeNumerics twoStreams loginRefused = some next ∧
      (next.tasks true).subscribedNow = true ∧ (next.tasks false).everSubscribed = false ∧
      TracksSessions twoIdentities next.tasks (mixedReports.foldl WebsocketHealthTracker.record
        (.new (Finset.univ.image twoIdentities))) := by
  have hruns : ((runtimeRun wholeNumerics twoStreams loginRefused).map fun next =>
      decide ((∀ i, (mixedReports.filter fun event => decide (event.stream = twoIdentities i)).map
        (·.kind) = (next.tasks i).reported) ∧ (next.tasks true).subscribedNow = true ∧
          (next.tasks false).everSubscribed = false)) = some true := by
    decide +kernel
  obtain ⟨next, hnext, hreached⟩ := Option.map_eq_some_iff.1 hruns
  obtain ⟨hreported, hready, hnever⟩ := of_decide_eq_true hreached
  refine ⟨next, hnext, hready, hnever,
    health_tracker_tracks_sessions _ _ _ next hnext _ _ (fun stream => ?_) _ hreported⟩
  simp only [Finset.mem_image, Finset.mem_univ, true_and]

/-- What a task that is subscribed has reported. -/
def subscribedReports : List OkxWebsocketHealthEventKind :=
  [.connectAttempt, .connected, .subscriptionAckSucceeded]

/-- The last event of a stream that found room, where all its reports did. -/
theorem lastDelivered?_of_reports {reports : List (OkxWebsocketHealthEvent × Bool)}
    {stream : OkxWebsocketStreamIdentity} {kinds : List OkxWebsocketHealthEventKind}
    (h : (reports.filter fun report => decide (report.1.stream = stream)) =
      kinds.map fun kind => (⟨kind, stream⟩, true)) :
    lastDelivered? reports stream = kinds.getLast?.map fun kind => ⟨kind, stream⟩ := by
  have hdelivered : (delivered reports).filter (fun event => decide (event.stream = stream)) =
      kinds.map fun kind => ⟨kind, stream⟩ := by
    have hcommute : (delivered reports).filter (fun event => decide (event.stream = stream)) =
        delivered (reports.filter fun report => decide (report.1.stream = stream)) := by
      unfold delivered
      rw [List.filter_map, List.filter_filter, List.filter_filter]
      congr 1
      exact List.filter_congr fun report _ => Bool.and_comm _ _
    rw [hcommute, h]
    unfold delivered
    rw [List.filter_eq_self.2, List.map_map]
    · rfl
    · intro report hreport
      obtain ⟨kind, -, rfl⟩ := List.mem_map.1 hreport
      rfl
  unfold lastDelivered?
  rw [← List.head?_filter, List.filter_reverse, List.head?_reverse, hdelivered, List.getLast?_map]

/-- **The engine sees the sessions as they are**: whenever its channel is drained, a stream whose
reports were all delivered is ready in its view exactly while its task's session is subscribed. -/
theorem engine_view_matches_sessions (numerics : MarketNumerics F)
    (streams : ι → RuntimeStreamConfig)
    (actions : List (StreamAction ι RuntimeQueue RuntimeData (RuntimeMeets F)))
    (next : StreamSystem ι RuntimeQueue (RuntimeCaches F) RuntimeEvent)
    (hrun : runtimeRun numerics streams actions = some next) (strategies : List Text)
    (expected : Finset OkxWebsocketStreamIdentity) (healthActions : List HealthAction)
    (run : List (HealthAction × List EngineLog)) (system : HealthSystem)
    (hhealth : trace healthStep (HealthSystem.start strategies expected) healthActions =
      some (run, system))
    (hdrained : system.Drained) (i : ι) (stream : OkxWebsocketStreamIdentity)
    (hstream : stream ∈ expected)
    (hreports : (system.reports.filter fun report => decide (report.1.stream = stream)) =
      (next.tasks i).reported.map fun kind => (⟨kind, stream⟩, true)) :
    stream ∈ system.loop.engine.websocketHealthTracker.readyStreams ↔
      (next.tasks i).subscribedNow = true := by
  rw [((run_delivers hhealth).followsDeliveries hdrained).ready stream hstream,
    lastDelivered?_of_reports hreports]
  have hstatus : ((next.tasks i).reported.foldl StreamStatus.record .initial).ready =
      (next.tasks i).subscribedNow :=
    congrArg StreamStatus.ready (StreamTask.status_reported (streamRun_sound hrun i))
  rw [← hstatus, StreamStatus.ready_foldl]
  cases (next.tasks i).reported.getLast? with
  | none => simp [StreamStatus.initial]
  | some kind => simp

/-- The reports of a task that is subscribed, taken by the engine. -/
def subscribedHealth : List HealthAction :=
  [.report ⟨.connectAttempt, booksIdentity⟩, .report ⟨.connected, booksIdentity⟩] ++
    reported .subscriptionAckSucceeded booksIdentity ++ List.replicate 3 .receive ++
    [.decide fun _ => .ok]

theorem engine_view_matches_sessions_books : ∃ next run system,
    runtimeRun wholeNumerics booksStreams booksActions = some next ∧
      trace healthStep (HealthSystem.start ["BTC-USDT".toList] {booksIdentity}) subscribedHealth =
        some (run, system) ∧
      (booksIdentity ∈ system.loop.engine.websocketHealthTracker.readyStreams ↔
        (next.tasks ()).subscribedNow = true) := by
  have hruns : ((runtimeRun wholeNumerics booksStreams booksActions).map fun next =>
      (next.tasks ()).reported) = some subscribedReports := by
    decide +kernel
  have hhealth : ((trace healthStep (HealthSystem.start ["BTC-USDT".toList] {booksIdentity})
      subscribedHealth).map fun last => decide (last.2.Drained ∧
        (last.2.reports.filter fun report => decide (report.1.stream = booksIdentity)) =
          subscribedReports.map fun kind => (⟨kind, booksIdentity⟩, true))) = some true := by
    decide +kernel
  obtain ⟨next, hnext, hreported⟩ := Option.map_eq_some_iff.1 hruns
  obtain ⟨⟨run, system⟩, hrun, hended⟩ := Option.map_eq_some_iff.1 hhealth
  obtain ⟨hdrained, hreports⟩ := of_decide_eq_true hended
  refine ⟨next, run, system, hnext, hrun,
    engine_view_matches_sessions _ _ _ next hnext _ _ _ run system
    hrun hdrained () booksIdentity (Finset.mem_singleton_self _) ?_⟩
  rw [hreported]
  exact hreports

end Runs

end OkxTrading
