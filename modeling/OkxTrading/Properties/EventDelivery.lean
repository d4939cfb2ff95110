import OkxTrading.Properties.MarketCache

/-!
# What reaches the engine

The tasks of all streams put their events into bounded queues while the engine takes them out, in
any order.  The engine takes what was put in, in that order; what a task put in is, session after
session, what the session had accepted, up to the error that ended it.

* `StreamTask.queued` — what a task has put into its queue.
* `Delivered` — the invariant of the queues.
* `Stopped` — a session with an event that waits for room.
* `runtime_events_delivered`, `waiting_event_stops_session` — over every run of the runtime's
  streams.
* `runtime_sessions_follow_protocol`, `runtime_reconnects_paced` — the sessions over every run.
-/

namespace OkxTrading

open Effect

namespace StreamTask

variable {Data Cache Event Queue Meets : Type} {task next : StreamTask Event}
  {config : StreamTaskConfig Data Cache Event Queue Meets} {policy : OkxWebsocketReconnectPolicy}
  {now : ℕ}

/-- What a task has put into its queue, session after session. -/
def queued (task : StreamTask Event) : List Event :=
  task.past.flatMap (·.enqueued) ++ task.current.enqueued

theorem queued_finish (outcome : OkxWebsocketStreamRunOutcome) :
    (task.finish policy now outcome).queued = task.queued := by
  simp only [queued, finish, SessionRecord.blank, List.flatMap_append, List.flatMap_singleton,
    List.append_nil]

theorem queued_reportSubscribed (before after : Bool) :
    (task.reportSubscribed before after).queued = task.queued := by
  unfold reportSubscribed
  split <;> rfl

theorem queued_failReading (subscribed : Bool) (e : Message) :
    (task.failReading policy now subscribed e).queued = task.queued := by
  unfold failReading
  cases subscribed <;> exact queued_finish _

theorem queued_arrived (session : StreamSession Unit) (delivering : List Event) (since : ℕ)
    (after : StreamSession Unit × Applied Cache Event) :
    (task.arrived policy now session delivering since after).queued = task.queued := by
  have hread : (task.hasRead now session delivering since after).queued = task.queued :=
    queued_reportSubscribed session.subscribed after.1.subscribed
  unfold arrived
  dsimp only
  rcases after.1.outcome with _ | (e | ⟨⟩)
  · exact hread
  · exact (queued_failReading _ _).trans hread
  · exact (queued_finish _).trans hread

/-- Only a delivery puts an event into a queue. -/
theorem queued_move (hmove : TaskMove config now task next) : next.queued = task.queued := by
  cases hmove with
  | refuse | disconnect | notSent | notSubscribed => exact queued_finish _
  | loginFailed e hphase => exact @queued_finish Event (task.report .loginFailed) _ _ _
  | begin | connect | logIn => rfl
  | subscribe hphase => exact queued_reportSubscribed _ _
  | read => exact queued_arrived _ _ _ _
  | giveUp => exact queued_failReading _ _

theorem queued_enqueued (session : StreamSession Unit) (event : Event) (rest : List Event) :
    (task.enqueued now session event rest).queued = task.queued ++ [event] :=
  (List.append_assoc _ _ _).symm

end StreamTask

/-! ## The queues -/

section Queues

variable {ι Queue Data Cache Event Meets : Type} [DecidableEq ι] [DecidableEq Queue]
  {config : ι → StreamTaskConfig Data Cache Event Queue Meets} {capacity : Queue → ℕ}
  {self next : StreamSystem ι Queue Cache Event} {cache : Cache}

/-- What one task has put into a queue. -/
def StreamSystem.putBy (self : StreamSystem ι Queue Cache Event) (queue : Queue) (i : ι) :
    List Event :=
  ((self.enqueued queue).filter fun entry => decide (entry.1 = i)).map (·.2)

/-- The queues hold what was put into them and not taken yet, within their bounds. -/
structure Delivered (config : ι → StreamTaskConfig Data Cache Event Queue Meets)
    (capacity : Queue → ℕ) (system : StreamSystem ι Queue Cache Event) : Prop where
  bounded : ∀ queue, (system.queues queue).length ≤ capacity queue
  /-- First in, first out; nothing is lost and nothing is there twice. -/
  fifo : ∀ queue, (system.enqueued queue).map (·.2) = system.taken queue ++ system.queues queue
  /-- A task puts events into its own queue only. -/
  own : ∀ queue, ∀ entry ∈ system.enqueued queue, (config entry.1).queue = queue
  sessions : ∀ i, system.putBy (config i).queue i = (system.tasks i).queued

omit [DecidableEq Queue] in
theorem Delivered.start : Delivered config capacity (.start config cache) :=
  ⟨fun _ => Nat.zero_le _, fun _ => rfl, fun _ _ => nofun, fun _ => rfl⟩

theorem Delivered.enqueue (h : Delivered config capacity self) {i : ι}
    {session : StreamSession Unit}
    {event : Event} {rest : List Event}
    (hroom : (self.queues (config i).queue).length < capacity (config i).queue) :
    Delivered config capacity (self.enqueueEvent config i session event rest) where
  bounded queue := by
    change (Function.update self.queues (config i).queue _ queue).length ≤ _
    by_cases hqueue : queue = (config i).queue
    · subst hqueue
      rw [Function.update_self, List.length_append]
      exact hroom
    · rw [Function.update_of_ne hqueue]
      exact h.bounded queue
  fifo queue := by
    change (Function.update self.enqueued (config i).queue _ queue).map _ =
      self.taken queue ++ Function.update self.queues (config i).queue _ queue
    by_cases hqueue : queue = (config i).queue
    · subst hqueue
      rw [Function.update_self, Function.update_self, List.map_append, h.fifo, List.append_assoc]
      rfl
    · rw [Function.update_of_ne hqueue, Function.update_of_ne hqueue]
      exact h.fifo queue
  own queue entry hentry := by
    change entry ∈ Function.update self.enqueued (config i).queue _ queue at hentry
    by_cases hqueue : queue = (config i).queue
    · subst hqueue
      rw [Function.update_self, List.mem_append, List.mem_singleton] at hentry
      rcases hentry with hentry | rfl
      · exact h.own _ entry hentry
      · rfl
    · rw [Function.update_of_ne hqueue] at hentry
      exact h.own queue entry hentry
  sessions j := by
    have hsessions := h.sessions j
    unfold StreamSystem.putBy at hsessions ⊢
    change ((Function.update self.enqueued (config i).queue _ (config j).queue).filter _).map _ =
      (Function.update self.tasks i _ j).queued
    by_cases hij : j = i
    · subst hij
      rw [Function.update_self, Function.update_self, List.filter_append, List.map_append,
        hsessions,
        StreamTask.queued_enqueued]
      simp
    · rw [Function.update_of_ne hij, ← hsessions]
      by_cases hqueue : (config j).queue = (config i).queue
      · have hne : ¬ i = j := fun heq => hij heq.symm
        rw [hqueue, Function.update_self, List.filter_append]
        simp [hne]
      · rw [Function.update_of_ne hqueue]

theorem Delivered.take (h : Delivered config capacity self) {queue : Queue} {event : Event}
    {rest : List Event} (hqueue : self.queues queue = event :: rest) :
    Delivered config capacity { self with
      queues := Function.update self.queues queue rest
      taken := Function.update self.taken queue (self.taken queue ++ [event]) } where
  bounded other := by
    have hbounded := h.bounded other
    by_cases hother : other = queue
    · subst hother
      rw [hqueue, List.length_cons] at hbounded
      simp only [Function.update_self]
      omega
    · simpa only [Function.update_of_ne hother] using hbounded
  fifo other := by
    have hfifo := h.fifo other
    by_cases hother : other = queue
    · subst hother
      simp only [Function.update_self]
      rw [hfifo, hqueue, List.append_assoc]
      rfl
    · simpa only [Function.update_of_ne hother] using hfifo
  own := h.own
  sessions := h.sessions

/-- **Every step keeps the queues.** -/
theorem Delivered.step (h : Delivered config capacity self)
    {action : StreamAction ι Queue Data Meets}
    (hstep : streamStep config capacity self action = some next) :
    Delivered config capacity next := by
  cases streamStep_move hstep with
  | elapse ms => exact ⟨h.bounded, h.fifo, h.own, h.sessions⟩
  | move i task cache hmove hcache =>
    refine ⟨h.bounded, h.fifo, h.own, fun j => (h.sessions j).trans ?_⟩
    change _ = (Function.update self.tasks i task j).queued
    by_cases hij : j = i
    · subst hij
      rw [Function.update_self, StreamTask.queued_move hmove]
    · rw [Function.update_of_ne hij]
  | enqueue i hphase hroom => exact h.enqueue hroom
  | take queue hqueue => exact h.take hqueue
  | close queue => exact ⟨h.bounded, h.fifo, h.own, h.sessions⟩

theorem streamRun_delivered {actions : List (StreamAction ι Queue Data Meets)}
    (h : streamRun config capacity (.start config cache) actions = some next) :
    Delivered config capacity next :=
  streamRun_invariant h .start fun _ _ _ hself hstep => hself.step hstep

end Queues

/-! ## An event that waits -/

/-- The sessions of a task, the current one last. -/
def StreamTask.sessions {Event : Type} (task : StreamTask Event) : List (SessionRecord Event) :=
  task.past.map (·.toSessionRecord) ++ [task.current]

/-- The session has applied no message, accepted no row and put no event into the queue since. -/
def SessionRecord.SameAs {Event : Type} (self before : SessionRecord Event) : Prop :=
  self.applied = before.applied ∧ self.accepted = before.accepted ∧
    self.enqueued = before.enqueued

/-- A session that had an event to deliver, some sessions ago or still. -/
inductive Stopped {Event : Type} (n : ℕ) (before : SessionRecord Event) (event : Event)
    (task : StreamTask Event) : Prop where
  /-- It waits, and has applied and accepted nothing more. -/
  | waiting {session rest since} (hn : task.past.length = n) (hsame : task.current.SameAs before)
      (hphase : task.phase = .reading session (event :: rest) since) : Stopped n before event task
  /-- It ended with an error, and had applied and accepted nothing more. -/
  | ended {session} (hpast : task.past[n]? = some session) (hsame : session.SameAs before)
      (herror : session.outcome.error.isSome = true) : Stopped n before event task
  /-- The event is in the queue. -/
  | delivered {record} (hsession : task.sessions[n]? = some record)
      (henqueued : before.enqueued ++ [event] <+: record.enqueued) : Stopped n before event task

theorem StreamTask.sessions_current {Event : Type} {task : StreamTask Event} :
    task.sessions[task.past.length]? = some task.current := by
  simp [StreamTask.sessions]

section Stopped

variable {Data Cache Event Queue Meets : Type} {task next : StreamTask Event}
  {config : StreamTaskConfig Data Cache Event Queue Meets} {policy : OkxWebsocketReconnectPolicy}
  {now n : ℕ} {before : SessionRecord Event} {event : Event}

namespace StreamTask

/-- A task goes on within its session, or ends it: what was put into the queue stays. -/
structure GoesOn (task next : StreamTask Event) : Prop where
  past : task.past <+: next.past
  sessions : task.sessions.map (·.enqueued) <+: next.sessions.map (·.enqueued)

theorem GoesOn.same (hpast : next.past = task.past)
    (hcurrent : next.current.enqueued = task.current.enqueued) : task.GoesOn next where
  past := by rw [hpast]
  sessions := by
    simp only [StreamTask.sessions, hpast, hcurrent, List.map_append, List.map_cons, List.map_nil]
    exact List.prefix_rfl

theorem GoesOn.finish (outcome : OkxWebsocketStreamRunOutcome) :
    task.GoesOn (task.finish policy now outcome) where
  past := List.prefix_append _ _
  sessions := by
    simp only [StreamTask.sessions, StreamTask.finish, List.map_append, List.map_cons, List.map_nil]
    exact List.prefix_append _ _

theorem GoesOn.trans {last : StreamTask Event} (h : task.GoesOn next) (h' : next.GoesOn last) :
    task.GoesOn last :=
  ⟨h.past.trans h'.past, h.sessions.trans h'.sessions⟩

theorem GoesOn.report (kind : OkxWebsocketHealthEventKind) : task.GoesOn (task.report kind) :=
  .same rfl rfl

theorem GoesOn.failReading (subscribed : Bool) (e : Message) :
    task.GoesOn (task.failReading policy now subscribed e) := by
  cases subscribed with
  | true => exact .finish _
  | false => exact (GoesOn.report .subscriptionAckFailed).trans (.finish _)

theorem GoesOn.reportSubscribed (before after : Bool) :
    task.GoesOn (task.reportSubscribed before after) := by
  unfold StreamTask.reportSubscribed
  split
  · exact .report _
  · exact .same rfl rfl

theorem GoesOn.arrived (session : StreamSession Unit) (delivering : List Event) (since : ℕ)
    (after : StreamSession Unit × Applied Cache Event) :
    task.GoesOn (task.arrived policy now session delivering since after) := by
  have hread : task.GoesOn (task.hasRead now session delivering since after) :=
    (GoesOn.reportSubscribed session.subscribed after.1.subscribed).trans (.same rfl rfl)
  unfold StreamTask.arrived
  dsimp only
  rcases after.1.outcome with _ | (e | ⟨⟩)
  · exact hread
  · exact hread.trans (.failReading _ _)
  · exact hread.trans (.finish _)

theorem GoesOn.move (hmove : TaskMove config now task next) : task.GoesOn next := by
  cases hmove with
  | refuse | disconnect | notSent | notSubscribed => exact .finish _
  | loginFailed e hphase => exact (GoesOn.report .loginFailed).trans (.finish _)
  | begin | connect | logIn => exact .same rfl rfl
  | subscribe hphase => exact (GoesOn.reportSubscribed _ _).trans (.same rfl rfl)
  | read => exact .arrived _ _ _ _
  | giveUp => exact .failReading _ _

end StreamTask

open StreamTask

theorem SessionRecord.SameAs.trans {a b c : SessionRecord Event} (h : a.SameAs b)
    (h' : b.SameAs c) : a.SameAs c :=
  ⟨h.1.trans h'.1, h.2.1.trans h'.2.1, h.2.2.trans h'.2.2⟩

/-- An arrival of which nothing is applied leaves the record of the session. -/
theorem StreamTask.hasRead_unapplied {Cache : Type} (task : StreamTask Event) (now : ℕ)
    {session : StreamSession Unit} {after : StreamSession Unit × Applied Cache Event}
    (delivering : List Event) (since : ℕ) (haccepted : after.2.accepted = [])
    (hcalls : after.1.calls = session.calls) :
    (task.hasRead now session delivering since after).past = task.past ∧
      (task.hasRead now session delivering since after).current.SameAs task.current := by
  have hreported : ∀ before after, (task.reportSubscribed before after).past = task.past ∧
      (task.reportSubscribed before after).current.SameAs task.current := by
    intro before after
    unfold StreamTask.reportSubscribed
    split <;> exact ⟨rfl, rfl, rfl, rfl⟩
  obtain ⟨hpast, happlied, hsame, hput⟩ := hreported session.subscribed after.1.subscribed
  refine ⟨hpast, ?_, ?_, hput⟩
  · simp only [StreamTask.hasRead, hcalls, Nat.sub_self, Nat.add_zero, happlied]
  · simp only [StreamTask.hasRead, haccepted, List.append_nil, hsame]

/-- What is in the queue is there for good. -/
theorem Stopped.delivered_mono {record : SessionRecord Event}
    (hsession : task.sessions[n]? = some record)
    (henqueued : before.enqueued ++ [event] <+: record.enqueued)
    (hsessions : task.sessions.map (·.enqueued) <+: next.sessions.map (·.enqueued)) :
    Stopped n before event next := by
  obtain ⟨more, hmore⟩ := hsessions
  have hmapped : (task.sessions.map (·.enqueued))[n]? = some record.enqueued := by
    rw [List.getElem?_map, hsession, Option.map_some]
  have hkept : (next.sessions.map (·.enqueued))[n]? = some record.enqueued := by
    rw [← hmore, List.getElem?_append_left (List.getElem?_eq_some_iff.1 hmapped).1, hmapped]
  rw [List.getElem?_map] at hkept
  obtain ⟨after, hafter, hsame⟩ := Option.map_eq_some_iff.1 hkept
  exact .delivered hafter (hsame ▸ henqueued)

/-- A session that ends with an error while an event waits. -/
theorem Stopped.failReading (hn : task.past.length = n) (hsame : task.current.SameAs before)
    (subscribed : Bool) (e : Message) :
    Stopped n before event (task.failReading policy now subscribed e) := by
  cases subscribed with
  | true => exact .ended (by rw [← hn]; exact List.getElem?_concat_length) hsame rfl
  | false => exact .ended (by rw [← hn]; exact List.getElem?_concat_length) hsame rfl

theorem Stopped.move (h : Stopped n before event task) (hsound : task.Sound config.hasLogin)
    (hmove : TaskMove config now task next) : Stopped n before event next := by
  have hgoesOn := StreamTask.GoesOn.move hmove
  cases h with
  | ended hpast hsame herror =>
    obtain ⟨more, hmore⟩ := hgoesOn.past
    refine .ended ?_ hsame herror
    rw [← hmore, List.getElem?_append_left (List.getElem?_eq_some_iff.1 hpast).1, hpast]
  | delivered hsession henqueued =>
    exact .delivered_mono hsession henqueued hgoesOn.sessions
  | waiting hn hsame hphase =>
    -- the task can only give up, or run out of time for the acknowledgements
    cases hmove with
    | refuse e hopens | begin hopens =>
      rw [hphase] at hopens
      exact hopens.elim
    | disconnect _ hother | connect hother | logIn hother | notSent _ hother | loginFailed _ hother
    | notSubscribed _ hother | subscribe hother => cases hphase.symm.trans hother
    | giveUp e hother => exact .failReading hn hsame _ e
    | read hother meets cache arrival hidle after hread =>
      cases hphase.symm.trans hother
      have hlive := hsound.live _ _ _ hphase
      have htimeout := hidle.resolve_left (List.cons_ne_nil _ _)
      obtain ⟨hnothing, hcalls, hended⟩ :=
        StreamTaskConfig.readArrival_isAckTimeout hlive htimeout hread
      obtain ⟨hpast, hread⟩ := hasRead_unapplied task now
        (event :: ‹List Event›) ‹ℕ› hnothing hcalls
      unfold StreamTask.arrived
      dsimp only
      rcases houtcome : after.1.outcome with _ | (e | ⟨⟩)
      · exact .waiting (hpast ▸ hn) (hread.trans hsame) rfl
      · exact Stopped.failReading (hpast ▸ hn) (hread.trans hsame) _ e
      · exact absurd houtcome hended

theorem Stopped.enqueued (h : Stopped n before event task) {session : StreamSession Unit}
    {first : Event} {rest : List Event} {since : ℕ}
    (hphase : task.phase = .reading session (first :: rest) since) :
    Stopped n before event (task.enqueued now session first rest) := by
  have hcurrent : (task.enqueued now session first rest).sessions[task.past.length]? =
      some (task.enqueued now session first rest).current := sessions_current
  cases h with
  | ended hpast hsame herror => exact .ended hpast hsame herror
  | waiting hn hsame hwaits =>
    cases hphase.symm.trans hwaits
    refine .delivered (hn ▸ hcurrent) ?_
    rw [← hsame.2.2]
    exact List.prefix_rfl
  | delivered hsession henqueued =>
    obtain ⟨hlt, hold⟩ | ⟨hn, rfl⟩ := getElem?_concat_cases hsession
    · exact .delivered ((List.getElem?_append_left hlt).trans hold) henqueued
    · rw [List.length_map] at hn
      exact .delivered (hn ▸ hcurrent) (henqueued.trans (List.prefix_append _ _))

end Stopped

/-! ## Every run of the runtime's streams -/

/-- A session that is over has put what it accepted into its queue, in order, up to an error that
was reported. -/
structure FinishedSession.Settled {Event : Type} (session : FinishedSession Event) : Prop where
  inOrder : session.enqueued <+: session.accepted
  complete : session.enqueued = session.accepted ∨
    session.outcome.error.isSome = true ∧
      (.streamFailedAfterSubscription ∈ session.reports ∨
        .streamFailedBeforeSubscription ∈ session.reports)

theorem FinishedSession.Sound.settled {Event : Type} {hasLogin : Bool}
    {session : FinishedSession Event}
    (h : session.Sound hasLogin) : session.Settled where
  inOrder := h.delivered
  complete := by
    cases herror : session.outcome.error with
    | none => exact .inl (h.complete herror).2
    | some e =>
      refine .inr ⟨rfl, ?_⟩
      obtain ⟨stage, failure, -, hreports, -⟩ := h.reports
      rw [hreports]
      cases hsubscribed : session.outcome.subscribed with
      | true =>
        have hreport : session.outcome.report = [.streamFailedAfterSubscription] := by
          simp [OkxWebsocketStreamRunOutcome.report, hsubscribed, herror]
        exact .inl (by simp [hreport])
      | false =>
        have hreport : session.outcome.report = [.streamFailedBeforeSubscription] := by
          simp [OkxWebsocketStreamRunOutcome.report, hsubscribed, herror]
        exact .inr (by simp [hreport])

section Runtime

variable {F ι : Type} [F64 F] [DecidableEq ι]

/-- **What reaches the engine**, whatever is pushed and however the tasks go on: the queues stay
within their bounds and the engine takes first what was put in first; what a task put in is what its
sessions put in, one after another; and a session that is over put in what it had accepted, in that
order, or ended with an error that it reported. -/
theorem runtime_events_delivered (numerics : MarketNumerics F) (streams : ι → RuntimeStreamConfig)
    (actions : List (StreamAction ι RuntimeQueue RuntimeData (RuntimeMeets F)))
    (next : StreamSystem ι RuntimeQueue (RuntimeCaches F) RuntimeEvent)
    (hrun : runtimeRun numerics streams actions = some next) :
    Delivered (fun i => (streams i).task numerics) (fun _ => runtimeEventChannelCapacity) next ∧
      ∀ i, (∀ session ∈ (next.tasks i).past, session.Settled) ∧
        (next.tasks i).current.accepted =
          (next.tasks i).current.enqueued ++ (next.tasks i).phase.delivering := by
  refine ⟨streamRun_delivered hrun, fun i => ?_⟩
  have hsound := streamRun_sound hrun i
  exact ⟨fun session hsession => (hsound.past session hsession).settled, hsound.delivering⟩

/-- Two updates of the instrument are delivered and the first is taken; then the stream ends, and
the next session is refused its connection. -/
def deliveredActions : List (StreamAction Unit RuntimeQueue RuntimeData (RuntimeMeets ℚ)) :=
  booksActions ++ [.enqueue (), .take .market, .arrive () entryMeets (btcInstrumentPush 9),
    .enqueue (), .arrive () entryMeets .closed, .elapse 500, .open (), .connect () (some "")]

/-- The event of either. -/
def btcUpdated : RuntimeEvent := .market (.instrumentUpdated OkxLevel2Book.btcUsdt 0)

theorem runtime_events_delivered_books : ∃ next,
    runtimeRun wholeNumerics booksStreams deliveredActions = some next ∧
      next.taken .market = [btcUpdated] ∧ next.queues .market = [btcUpdated] ∧
      (next.tasks ()).past.map (·.enqueued) = [[btcUpdated, btcUpdated], []] ∧
      Delivered (fun i => (booksStreams i).task wholeNumerics)
        (fun _ => runtimeEventChannelCapacity)
        next ∧
      ∀ i, (∀ session ∈ (next.tasks i).past, session.Settled) ∧
        (next.tasks i).current.accepted =
          (next.tasks i).current.enqueued ++ (next.tasks i).phase.delivering := by
  have hruns : ((runtimeRun wholeNumerics booksStreams deliveredActions).map fun next =>
      (next.taken .market, next.queues .market, (next.tasks ()).past.map (·.enqueued))) =
        some ([btcUpdated], [btcUpdated], [[btcUpdated, btcUpdated], []]) := by
    decide +kernel
  obtain ⟨next, hnext, hreached⟩ := Option.map_eq_some_iff.1 hruns
  obtain ⟨htaken, hrest⟩ := Prod.mk.inj hreached
  obtain ⟨hqueue, hpast⟩ := Prod.mk.inj hrest
  exact ⟨next, hnext, htaken, hqueue, hpast, runtime_events_delivered _ _ _ next hnext⟩

/-- **While an event waits for room nothing more is applied**: later the event is in the queue, or
it waits still, or the session is over with an error; and until then the session has applied no
message, with or without events, and accepted nothing more. -/
theorem waiting_event_stops_session (numerics : MarketNumerics F)
    (streams : ι → RuntimeStreamConfig)
    (earlier later : List (StreamAction ι RuntimeQueue RuntimeData (RuntimeMeets F)))
    (mid next : StreamSystem ι RuntimeQueue (RuntimeCaches F) RuntimeEvent)
    (hmid : runtimeRun numerics streams earlier = some mid)
    (hnext : runtimeSteps numerics streams mid later = some next) (i : ι)
    (session : StreamSession Unit) (event : RuntimeEvent) (rest : List RuntimeEvent) (since : ℕ)
    (hphase : (mid.tasks i).phase = .reading session (event :: rest) since) :
    Stopped (mid.tasks i).past.length (mid.tasks i).current event (next.tasks i) := by
  have hstart := streamRun_sound hmid i
  refine (streamRun_task (i := i)
    (P := fun _ task => task.Sound ((streams i).task numerics).hasLogin ∧
    Stopped (mid.tasks i).past.length (mid.tasks i).current event task) hnext
      ⟨hstart, .waiting rfl ⟨rfl, rfl, rfl⟩ hphase⟩ ?_ ?_ ?_).2
  · exact fun _ _ _ _ h => h
  · exact fun _ _ _ h hmove => ⟨h.1.move hmove, h.2.move h.1 hmove⟩
  · exact fun _ _ _ _ _ _ h hphase => ⟨h.1.enqueued hphase, h.2.enqueued hphase⟩

/-- The theorem where the task gives up, as the receiver is gone. -/
theorem waiting_event_stops_session_closed : ∃ mid next event,
    runtimeRun wholeNumerics booksStreams booksActions = some mid ∧
      runtimeSteps wholeNumerics booksStreams mid [.close .market, .refuse ()] = some next ∧
      Stopped (mid.tasks ()).past.length (mid.tasks ()).current event (next.tasks ()) := by
  have hruns : ((runtimeRun wholeNumerics booksStreams booksActions).bind fun mid =>
      (mid.tasks ()).phase.delivering.head?.bind fun _ =>
        (runtimeSteps wholeNumerics booksStreams mid
          [.close .market, .refuse ()])).isSome = true := by
    decide +kernel
  obtain ⟨next, hruns⟩ := Option.isSome_iff_exists.1 hruns
  obtain ⟨mid, hmid, hrest⟩ := Option.bind_eq_some_iff.1 hruns
  obtain ⟨event, hevent, hnext⟩ := Option.bind_eq_some_iff.1 hrest
  obtain ⟨rest, hdelivering⟩ := List.head?_eq_some_iff.1 hevent
  cases hphase : (mid.tasks ()).phase with
  | reading session delivering since =>
    rw [hphase] at hdelivering
    obtain rfl : delivering = event :: rest := hdelivering
    exact ⟨mid, next, event, hmid, hnext,
      waiting_event_stops_session wholeNumerics booksStreams _ _ mid
      next hmid hnext () session event rest since hphase⟩
  | starting | connecting | loggingIn | subscribing | sleeping =>
    rw [hphase] at hdelivering
    cases hdelivering

/-- **Every session follows the protocol**: its reports are those of the stages it came to, with the
failure there; rows are accepted after it began to read only; without an error it was subscribed and
all it accepted was put into the queue. -/
theorem runtime_sessions_follow_protocol (numerics : MarketNumerics F)
    (streams : ι → RuntimeStreamConfig)
    (actions : List (StreamAction ι RuntimeQueue RuntimeData (RuntimeMeets F)))
    (next : StreamSystem ι RuntimeQueue (RuntimeCaches F) RuntimeEvent)
    (hrun : runtimeRun numerics streams actions = some next) (i : ι) :
    (next.tasks i).Sound ((streams i).task numerics).hasLogin :=
  streamRun_sound hrun i

/-- The theorem at a run with a session that ended and one that never was connected. -/
theorem runtime_sessions_follow_protocol_books : ∃ next,
    runtimeRun wholeNumerics booksStreams deliveredActions = some next ∧
      (next.tasks ()).past.map (fun session => (session.applied, session.outcome.error.isSome)) =
        [(3, false), (0, true)] ∧
      (next.tasks ()).Sound false := by
  have hruns : ((runtimeRun wholeNumerics booksStreams deliveredActions).map fun next =>
      (next.tasks ()).past.map fun session => (session.applied, session.outcome.error.isSome)) =
        some [(3, false), (0, true)] := by
    decide +kernel
  obtain ⟨next, hnext, hpast⟩ := Option.map_eq_some_iff.1 hruns
  exact ⟨next, hnext, hpast, runtime_sessions_follow_protocol _ _ _ next hnext ()⟩

/-- **Every task reconnects as slowly as its policy asks for**: its sessions are numbered, the sleep
after one doubles with each that was not subscribed since the last that was, up to the bound, and
all the sleeps fit into the time that passed. -/
theorem runtime_reconnects_paced (numerics : MarketNumerics F) (streams : ι → RuntimeStreamConfig)
    (actions : List (StreamAction ι RuntimeQueue RuntimeData (RuntimeMeets F)))
    (next : StreamSystem ι RuntimeQueue (RuntimeCaches F) RuntimeEvent)
    (hrun : runtimeRun numerics streams actions = some next) (i : ι) :
    (next.tasks i).Paced ((streams i).task numerics).policy next.now :=
  streamRun_paced hrun i

/-- Sessions whose connection fails, as soon as one may be opened. -/
def refusedActions : List (StreamAction Unit RuntimeQueue RuntimeData (RuntimeMeets ℚ)) :=
  [.open (), .connect () (some ""), .elapse 500, .open (), .connect () (some ""), .elapse 1000,
    .open (), .connect () (some "")]

theorem runtime_reconnects_paced_refused : ∃ next,
    runtimeRun wholeNumerics booksStreams refusedActions = some next ∧
      (next.tasks ()).Paced .default next.now := by
  have hruns : (runtimeRun wholeNumerics booksStreams refusedActions).isSome = true := by
    decide +kernel
  obtain ⟨next, hnext⟩ := Option.isSome_iff_exists.1 hruns
  exact ⟨next, hnext, runtime_reconnects_paced _ _ _ next hnext ()⟩

end Runtime

end OkxTrading
