import OkxTrading.Properties.SubscriptionHandshake
import OkxTrading.Websocket.StreamTasks

/-!
# The sessions of a stream task

Whatever the tasks meet and in whatever order they go on, the sessions of each follow one protocol:
what it reports tells how far a session came, what a session had accepted reaches the queue up to
the error that ended it, and sessions are opened no faster than the policy allows.

* `StreamSession.step_cases`, `Reads` — everything an arrival can do to a session that goes on.
* `TaskMove`, `StreamMove` — everything a step can do to a task, and to the system.
* `StreamTask.Sound`, `StreamTask.Paced` — the invariants of one task.
* `streamRun_sound`, `streamRun_paced` — after every run.
-/

namespace OkxTrading

open Effect

/-! ## One arrival -/

section Arrival

variable {Data Cache : Type} {session : StreamSession Cache}

/-- A read delivers the message that arrived. -/
theorem eq_of_nextWebsocketMessage {context : Message} {awaitingPong : Bool}
    {arrival : Arrival Data} {message : WebsocketMessage Data}
    (h : nextWebsocketMessage context awaitingPong arrival = .ok (.message message)) :
    arrival = .message message := by
  cases arrival with
  | message other =>
    cases awaitingPong with
    | false => simpa [nextWebsocketMessage] using h
    | true =>
      cases other with
      | ping replied => cases replied <;> grind [nextWebsocketMessage]
      | text | pong | close | binary | frame => grind [nextWebsocketMessage]
  | readError | closed | idle | ackTimeout => grind [nextWebsocketMessage]

/-- The stream ends well where it is subscribed, and otherwise with an error. -/
theorem StreamSession.onClosed_cases (rules : StreamRules) :
    (∃ e, session.onClosed rules = session.fail e) ∨
      session.subscribed = true ∧
        session.onClosed rules = { session with outcome := some (.ok ()) } := by
  unfold onClosed
  cases session.subscribed with
  | true => exact .inr ⟨rfl, rfl⟩
  | false => exact .inl ⟨_, rfl⟩

variable (session) in
/-- An argument is settled, or the stream fails. -/
theorem StreamSession.settle_cases (rules : StreamRules) (ack : OkxWebsocketSubscriptionAck) :
    (∃ e, session.settle rules ack = session.fail e) ∨
      ∃ pending acknowledged, session.settle rules ack =
        { session with pending, acknowledged, subscribed := decide (pending = ∅) } := by
  unfold settle
  cases acknowledgeSubscription session.pending ack rules.context with
  | error e => exact .inl ⟨e, rfl⟩
  | ok pending => exact .inr ⟨pending, _, rfl⟩

/-- Everything a message can do to a stream. -/
theorem StreamSession.onMessage_cases (rules : StreamRules) (apply : ApplyMessage Data Cache)
    (message : WebsocketMessage Data) :
    (∃ e, session.onMessage rules apply message = session.fail e) ∨
      session.onMessage rules apply message = session ∨
      (session.subscribed = true ∧ session.onMessage rules apply message =
        { session with outcome := some (.ok ()) }) ∨
      (∃ ack, session.subscribed = false ∧
        session.onMessage rules apply message = session.settle rules ack) ∨
      ∃ payload, message = .text (.json (some payload)) ∧
        session.onMessage rules apply message = session.applyText rules apply (some payload) := by
  cases message with
  | text text =>
    cases text with
    | pong => exact .inr (.inl rfl)
    | json payload =>
      cases hsubscribed : session.subscribed with
      | true =>
        have happly : session.onMessage rules apply (.text (.json payload)) =
            session.applyText rules apply payload := if_pos hsubscribed
        cases payload with
        | none => exact .inl ⟨_, happly⟩
        | some payload => exact .inr (.inr (.inr (.inr ⟨payload, rfl, happly⟩)))
      | false =>
        have hwait : session.onMessage rules apply (.text (.json payload)) =
            session.waitForSubscriptionAcks rules apply payload :=
          if_neg (Bool.eq_false_iff.1 hsubscribed)
        rcases waitForSubscriptionAcks_cases payload with ⟨e, hfail⟩ | ⟨_, ack, -, -, hsettle⟩ |
          ⟨_, -, -, hsame⟩ | ⟨payload, _, rfl, -, -, -, happly⟩
        · exact .inl ⟨e, hwait.trans hfail⟩
        · exact .inr (.inr (.inr (.inl ⟨ack, rfl, hwait.trans hsettle⟩)))
        · exact .inr (.inl (hwait.trans hsame))
        · exact .inr (.inr (.inr (.inr ⟨payload, rfl, hwait.trans happly⟩)))
  | ping replied =>
    cases replied with
    | true => exact .inr (.inl rfl)
    | false => exact .inl ⟨_, rfl⟩
  | close =>
    rcases session.onClosed_cases rules with hfail | hend
    · exact .inl hfail
    · exact .inr (.inr (.inl hend))
  | pong | binary | frame => exact .inr (.inl rfl)

variable (session) in
/-- **Everything an arrival can do to a stream that has not ended.** -/
theorem StreamSession.step_cases (rules : StreamRules) (apply : ApplyMessage Data Cache)
    (houtcome : session.outcome = none) (arrival : Arrival Data) :
    ∃ awaitingPong, let next : StreamSession Cache := { session with awaitingPong }
      (∃ e, session.step rules apply arrival = next.fail e) ∨
      session.step rules apply arrival = next ∨
      (session.subscribed = true ∧
        session.step rules apply arrival = { next with outcome := some (.ok ()) }) ∨
      (∃ ack, session.subscribed = false ∧
        session.step rules apply arrival = next.settle rules ack) ∨
      ∃ payload, arrival = .message (.text (.json (some payload))) ∧
        session.step rules apply arrival = next.applyText rules apply (some payload) := by
  by_cases htimeout : arrival = .ackTimeout
  · subst htimeout
    obtain ⟨pending, acknowledged, awaitingPong, subscribed, calls, cache, outcome⟩ := session
    obtain rfl : outcome = none := houtcome
    cases subscribed with
    | true => exact ⟨awaitingPong, .inr (.inl rfl)⟩
    | false => exact ⟨awaitingPong, .inl ⟨_, rfl⟩⟩
  · have hread : session.step rules apply arrival = session.read rules apply arrival := by
      cases arrival <;> simp_all [step]
    rw [hread, StreamSession.read]
    cases hdelivery : nextWebsocketMessage rules.readContext session.awaitingPong arrival with
    | error e => exact ⟨session.awaitingPong, .inl ⟨e, rfl⟩⟩
    | ok delivery =>
      refine ⟨awaitsPong session.awaitingPong arrival, ?_⟩
      cases delivery with
      | waiting => exact .inr (.inl rfl)
      | closed =>
        rcases StreamSession.onClosed_cases rules with hfail | hend
        · exact .inl hfail
        · exact .inr (.inr (.inl hend))
      | message message =>
        obtain rfl := eq_of_nextWebsocketMessage hdelivery
        rcases StreamSession.onMessage_cases rules apply message with
          hfail | hsame | hend | hsettle | ⟨payload, rfl, happly⟩
        · exact .inl hfail
        · exact .inr (.inl hsame)
        · exact .inr (.inr (.inl hend))
        · exact .inr (.inr (.inr (.inl hsettle)))
        · exact .inr (.inr (.inr (.inr ⟨payload, rfl, happly⟩)))

end Arrival

/-- What a task can do to the cache while its session goes on. -/
inductive CacheMove {Data Cache Event Queue Meets : Type}
    (config : StreamTaskConfig Data Cache Event Queue Meets) (cache : Cache) : Cache → Prop where
  | keep : CacheMove config cache cache
  | prepare : CacheMove config cache (config.prepare cache).2
  | apply {meets now message applied} (h : config.apply meets now cache message = some applied) :
      CacheMove config cache applied.cache

/-- What an arrival leaves of a session that goes on; `applied` is what was applied of it. -/
structure Reads {Data Cache Event Queue Meets : Type}
    (config : StreamTaskConfig Data Cache Event Queue Meets) (cache : Cache)
    (session after : StreamSession Unit) (applied : Applied Cache Event) : Prop where
  /-- The subscription begins with a message that carries no rows. -/
  subscribed : after.subscribed = session.subscribed ∨ session.subscribed = false ∧
    after.subscribed = true ∧ after.outcome = none ∧ applied.accepted = []
  /-- What was accepted is announced, unless it ends the session. -/
  announced : applied.events = applied.accepted ∨
    applied.events = [] ∧ ∃ e, after.outcome = some (.error e)
  /-- The stream ends well after the subscription only. -/
  ended : after.outcome = some (.ok ()) → session.subscribed = true ∧ applied.accepted = []
  cache : CacheMove config cache applied.cache

namespace StreamTaskConfig

variable {Data Cache Event Queue Meets : Type}
  {config : StreamTaskConfig Data Cache Event Queue Meets} {meets : Meets} {now : Instant}
  {cache : Cache} {session after : StreamSession Unit} {arrival : Arrival Data}
  {applied : Applied Cache Event}

/-- An arrival that is no message of its own leaves the cache. -/
theorem readArrival_unapplied {unapplied : StreamSession (Option (Applied Cache Event))}
    (hstep : StreamSession.step config.rules (config.applyMessage meets now)
      (session.withCache (some ⟨cache, [], []⟩)) arrival = unapplied)
    (hcache : unapplied.cache = some ⟨cache, [], []⟩)
    (h : config.readArrival meets now cache session arrival = some (after, applied)) :
    after = unapplied.withCache () ∧ applied = ⟨cache, [], []⟩ := by
  simp only [readArrival, hstep, hcache, Option.map_some, Option.some.injEq, Prod.mk.injEq] at h
  exact ⟨h.1.symm, h.2.symm⟩

theorem readArrival_reads (houtcome : session.outcome = none)
    (h : config.readArrival meets now cache session arrival = some (after, applied)) :
    Reads config cache session after applied := by
  obtain ⟨awaitingPong, ⟨e, hstep⟩ | hstep | ⟨hsubscribed, hstep⟩ | ⟨ack, hsubscribed, hstep⟩ |
    ⟨message, rfl, hstep⟩⟩ := StreamSession.step_cases (session.withCache (some ⟨cache, [], []⟩))
      config.rules (config.applyMessage meets now) houtcome arrival
  · obtain ⟨rfl, rfl⟩ := readArrival_unapplied hstep rfl h
    exact ⟨.inl rfl, .inl rfl, by rintro ⟨⟩, .keep⟩
  · obtain ⟨rfl, rfl⟩ := readArrival_unapplied hstep rfl h
    refine ⟨.inl rfl, .inl rfl, fun hended => ?_, .keep⟩
    cases houtcome.symm.trans hended
  · obtain ⟨rfl, rfl⟩ := readArrival_unapplied hstep rfl h
    exact ⟨.inl rfl, .inl rfl, fun _ => ⟨hsubscribed, rfl⟩, .keep⟩
  · obtain ⟨e, hsettle⟩ | ⟨pending, acknowledged, hsettle⟩ := StreamSession.settle_cases
      { session.withCache (some (⟨cache, [], []⟩ : Applied Cache Event)) with awaitingPong }
      config.rules ack <;> rw [hsettle] at hstep
    · obtain ⟨rfl, rfl⟩ := readArrival_unapplied hstep rfl h
      exact ⟨.inl rfl, .inl rfl, by rintro ⟨⟩, .keep⟩
    · obtain ⟨rfl, rfl⟩ := readArrival_unapplied hstep rfl h
      refine ⟨?_, .inl rfl, fun hended => (by cases houtcome.symm.trans hended), .keep⟩
      by_cases hpending : pending = ∅
      · exact .inr ⟨hsubscribed, decide_eq_true hpending, houtcome, rfl⟩
      · exact .inl ((decide_eq_false hpending).trans hsubscribed.symm)
  · simp only [readArrival, hstep] at h
    cases hmessage : config.apply meets now cache message with
    | none =>
      simp only [StreamSession.applyText, applyMessage, StreamSession.withCache, Option.bind_some,
        hmessage, Option.map_none, reduceCtorEq] at h
    | some message =>
      obtain ⟨result, accepted, cache', announced⟩ := message
      simp only [StreamSession.applyText, applyMessage, StreamSession.withCache, Option.bind_some,
        hmessage] at h
      cases result with
      | ok events =>
        obtain ⟨rfl, rfl⟩ := Prod.mk.inj (Option.some.inj h)
        refine ⟨.inl rfl, .inl (announced events rfl), fun hended => ?_, .apply hmessage⟩
        cases houtcome.symm.trans hended
      | error e =>
        obtain ⟨rfl, rfl⟩ := Prod.mk.inj (Option.some.inj h)
        exact ⟨.inl rfl, .inr ⟨rfl, e, rfl⟩, by rintro ⟨⟩, .apply hmessage⟩

theorem readArrival_cache
    (h : config.readArrival meets now cache session arrival = some (after, applied)) :
    CacheMove config cache applied.cache := by
  cases houtcome : session.outcome with
  | none => exact (readArrival_reads houtcome h).cache
  | some result =>
    have hended : StreamSession.step config.rules (config.applyMessage meets now)
        (session.withCache (some ⟨cache, [], []⟩)) arrival =
          session.withCache (some ⟨cache, [], []⟩) :=
            if_pos (by rw [StreamSession.withCache, houtcome]; rfl)
    exact (readArrival_unapplied hended rfl h).2 ▸ .keep

/-- When the time for the acknowledgements is over nothing is applied, and the stream ends badly if
it ends. -/
theorem readArrival_isAckTimeout (houtcome : session.outcome = none)
    (htimeout : arrival.isAckTimeout = true)
    (h : config.readArrival meets now cache session arrival = some (after, applied)) :
    applied.accepted = [] ∧ after.calls = session.calls ∧ after.outcome ≠ some (.ok ()) := by
  obtain rfl : arrival = .ackTimeout := by cases arrival <;> simp_all [Arrival.isAckTimeout]
  obtain ⟨pending, acknowledged, awaitingPong, subscribed, calls, u, outcome⟩ := session
  obtain rfl : outcome = none := houtcome
  cases subscribed <;>
    (obtain ⟨rfl, rfl⟩ := Prod.mk.inj (Option.some.inj h); exact ⟨rfl, rfl, nofun⟩)

end StreamTaskConfig

/-! ## What a step can do -/

/-- A session can begin. -/
def StreamPhase.Opens {Event : Type} (now : ℕ) : StreamPhase Event → Prop
  | .starting => True
  | .sleeping wake => wake ≤ now
  | _ => False

def StreamPhase.isReading {Event : Type} : StreamPhase Event → Bool
  | .reading _ _ _ => true
  | _ => false

def StreamPhase.isSleeping {Event : Type} : StreamPhase Event → Bool
  | .sleeping _ => true
  | _ => false

section Moves

variable {ι Queue Data Cache Event Meets : Type}

/-- What a move did to the cache, by the phase of the task after it: only a session that reads
applies messages, and a session that ends releases what it used. -/
def CacheAfter (config : StreamTaskConfig Data Cache Event Queue Meets) (cache : Cache) :
    StreamPhase Event → Cache → Prop
  | .sleeping _, cache' => ∃ used, CacheMove config cache used ∧ cache' = config.release used
  | .reading _ _ _, cache' => CacheMove config cache cache'
  | _, cache' => cache' = cache ∨ cache' = (config.prepare cache).2

/-- Everything a step can do to a task, but for the events it puts into its queue. -/
inductive TaskMove (config : StreamTaskConfig Data Cache Event Queue Meets) (now : ℕ)
    (task : StreamTask Event) : StreamTask Event → Prop where
  | refuse (e : Message) (hphase : task.phase.Opens now) :
      TaskMove config now task (task.fail config.policy now e)
  | begin (hphase : task.phase.Opens now) :
      TaskMove config now task { task.report .connectAttempt with phase := .connecting }
  | disconnect (e : Message) (hphase : task.phase = .connecting) :
      TaskMove config now task (task.fail config.policy now e)
  | connect (hphase : task.phase = .connecting) :
      TaskMove config now task { task.report .connected with
        phase := if config.hasLogin then .loggingIn else .subscribing }
  | logIn (hphase : task.phase = .loggingIn) :
      TaskMove config now task { task.report .loginAckSucceeded with phase := .subscribing }
  | notSent (e : Message) (hphase : task.phase = .loggingIn) :
      TaskMove config now task (task.fail config.policy now e)
  | loginFailed (e : Message) (hphase : task.phase = .loggingIn) :
      TaskMove config now task ((task.report .loginFailed).fail config.policy now e)
  | notSubscribed (e : Message) (hphase : task.phase = .subscribing) :
      TaskMove config now task (task.fail config.policy now e)
  | subscribe (hphase : task.phase = .subscribing) :
      TaskMove config now task
        { task.reportSubscribed false (StreamSession.start config.acks ()).subscribed with
          phase := .reading (StreamSession.start config.acks ()) [] now }
  | read {session delivering since} (hphase : task.phase = .reading session delivering since)
      (meets : Meets) (cache : Cache) (arrival : Arrival Data)
      (hidle : delivering = [] ∨ arrival.isAckTimeout = true)
      (after : StreamSession Unit × Applied Cache Event)
      (hread : config.readArrival meets now cache session arrival = some after) :
      TaskMove config now task (task.arrived config.policy now session delivering since after)
  | giveUp {session event rest since} (e : Message)
      (hphase : task.phase = .reading session (event :: rest) since) :
      TaskMove config now task (task.failReading config.policy now session.subscribed e)

/-- A session that reads goes on to read, or ends. -/
theorem TaskMove.of_isReading {config : StreamTaskConfig Data Cache Event Queue Meets} {now : ℕ}
    {task next : StreamTask Event} (hmove : TaskMove config now task next)
    (h : task.phase.isReading = true) :
    next.phase.isReading = true ∨ next.phase.isSleeping = true := by
  cases hmove with
  | refuse | giveUp => exact .inr rfl
  | begin hphase =>
    unfold StreamPhase.Opens at hphase
    split at hphase <;> simp_all [StreamPhase.isReading]
  | disconnect _ hphase | connect hphase | logIn hphase | notSent _ hphase | loginFailed _ hphase
  | notSubscribed _ hphase | subscribe hphase =>
    rw [hphase] at h
    cases h
  | read _ _ _ _ _ after =>
    unfold StreamTask.arrived
    dsimp only
    rcases after.1.outcome with _ | (e | ⟨⟩)
    · exact .inl rfl
    · exact .inr rfl
    · exact .inr rfl

section Delivery

variable {self next : StreamSystem ι Queue Cache Event}

/-- A task waits with an event where its delivery goes on. -/
theorem deliveryStep_eq_some {i : ι} {proceed : StreamSession Unit → Event → List Event → ℕ →
    Option (StreamSystem ι Queue Cache Event)} (h : deliveryStep self i proceed = some next) :
    ∃ session event rest since, (self.tasks i).phase = .reading session (event :: rest) since ∧
      proceed session event rest since = some next := by
  unfold deliveryStep at h
  split at h
  · rename_i session event rest since hphase
    exact ⟨session, event, rest, since, hphase, h⟩
  · cases h

end Delivery

variable [DecidableEq ι] [DecidableEq Queue]

/-- Everything a step can do. -/
inductive StreamMove (config : ι → StreamTaskConfig Data Cache Event Queue Meets)
    (capacity : Queue → ℕ) (self : StreamSystem ι Queue Cache Event) :
    StreamSystem ι Queue Cache Event → Prop where
  | elapse (ms : ℕ) : StreamMove config capacity self { self with now := self.now + ms }
  | move (i : ι) (task : StreamTask Event) (cache : Cache)
      (hmove : TaskMove (config i) self.now (self.tasks i) task)
      (hcache : CacheAfter (config i) self.cache task.phase cache) :
      StreamMove config capacity self { self.setTask i task with cache }
  | enqueue (i : ι) {session event rest since}
      (hphase : (self.tasks i).phase = .reading session (event :: rest) since)
      (hroom : (self.queues (config i).queue).length < capacity (config i).queue) :
      StreamMove config capacity self (self.enqueueEvent config i session event rest)
  | take (queue : Queue) {event rest} (hqueue : self.queues queue = event :: rest) :
      StreamMove config capacity self { self with
        queues := Function.update self.queues queue rest
        taken := Function.update self.taken queue (self.taken queue ++ [event]) }
  | close (queue : Queue) : StreamMove config capacity self
      { self with closed := Function.update self.closed queue true }

variable {config : ι → StreamTaskConfig Data Cache Event Queue Meets} {capacity : Queue → ℕ}
  {self next : StreamSystem ι Queue Cache Event}

theorem openSession_move {i : ι} (hphase : (self.tasks i).phase.Opens self.now) :
    StreamMove config capacity self (self.openSession config i) := by
  unfold StreamSystem.openSession
  have hprepared : CacheMove (config i) self.cache ((config i).prepare self.cache).2 := .prepare
  cases hprepare : (config i).prepare self.cache with
  | mk result cache =>
    rw [hprepare] at hprepared
    cases result with
    | error e => exact .move i _ _ (.refuse e hphase) ⟨_, hprepared, rfl⟩
    | ok u => exact .move i _ cache (.begin hphase) (.inr (congrArg Prod.snd hprepare).symm)

/-- **Every step is one of the moves.** -/
theorem streamStep_move {action : StreamAction ι Queue Data Meets}
    (h : streamStep config capacity self action = some next) :
    StreamMove config capacity self next := by
  cases action with
  | elapse ms => cases h; exact .elapse ms
  | «open» i =>
    simp only [streamStep] at h
    split at h
    · rename_i hphase
      cases h
      exact openSession_move (hphase ▸ trivial)
    · rename_i wake hphase
      split at h
      · rename_i hwake
        cases h
        exact openSession_move (by rw [hphase]; exact hwake)
      · cases h
    · cases h
  | connect i error =>
    simp only [streamStep] at h
    split at h
    · rename_i e hphase
      cases h
      exact .move i _ _ (.disconnect e hphase) ⟨_, .keep, rfl⟩
    · rename_i hphase
      cases h
      refine .move i _ self.cache (.connect hphase) ?_
      cases (config i).hasLogin <;> exact .inl rfl
    · cases h
  | login i answer =>
    simp only [streamStep] at h
    split at h
    · rename_i hphase
      cases h
      exact .move i _ self.cache (.logIn hphase) (.inl rfl)
    · rename_i e hphase
      cases h
      exact .move i _ _ (.notSent e hphase) ⟨_, .keep, rfl⟩
    · rename_i e hphase
      cases h
      exact .move i _ _ (.loginFailed e hphase) ⟨_, .keep, rfl⟩
    · cases h
  | subscribe i error =>
    simp only [streamStep] at h
    split at h
    · rename_i e hphase
      cases h
      exact .move i _ _ (.notSubscribed e hphase) ⟨_, .keep, rfl⟩
    · rename_i hphase
      cases h
      exact .move i _ self.cache (.subscribe hphase) .keep
    · cases h
  | arrive i meets arrival =>
    simp only [streamStep] at h
    split at h
    · rename_i session delivering since hphase
      split at h
      · rename_i hidle
        obtain ⟨after, hread, rfl⟩ := Option.map_eq_some_iff.1 h
        have hmove : TaskMove (config i) self.now (self.tasks i) _ :=
          .read hphase meets self.cache arrival
          (by simpa using hidle) after hread
        have hcache := StreamTaskConfig.readArrival_cache hread
        unfold StreamSystem.arrived
        dsimp only
        split
        · rename_i hlive
          refine .move i _ after.2.cache hmove ?_
          rw [Option.isNone_iff_eq_none] at hlive
          simp only [StreamTask.arrived, hlive]
          exact hcache
        · rename_i hended
          refine .move i _ _ hmove ?_
          unfold StreamTask.arrived
          rcases houtcome : after.1.outcome with _ | (e | ⟨⟩)
          · rw [houtcome] at hended
            exact absurd rfl hended
          · exact ⟨_, hcache, rfl⟩
          · exact ⟨_, hcache, rfl⟩
      · cases h
    · cases h
  | enqueue i =>
    obtain ⟨session, event, rest, since, hphase, hproceed⟩ := deliveryStep_eq_some h
    split at hproceed
    · rename_i hroom
      cases hproceed
      exact .enqueue i hphase hroom.2
    · cases hproceed
  | expire i =>
    obtain ⟨session, event, rest, since, hphase, hproceed⟩ := deliveryStep_eq_some h
    split at hproceed
    · cases hproceed
      exact .move i _ _ (.giveUp _ hphase) ⟨_, .keep, rfl⟩
    · cases hproceed
  | refuse i =>
    obtain ⟨session, event, rest, since, hphase, hproceed⟩ := deliveryStep_eq_some h
    split at hproceed
    · cases hproceed
      exact .move i _ _ (.giveUp _ hphase) ⟨_, .keep, rfl⟩
    · cases hproceed
  | take queue =>
    simp only [streamStep] at h
    split at h
    · rename_i event rest hqueue
      split at h
      · cases h
        exact .take queue hqueue
      · cases h
    · cases h
  | close queue => cases h; exact .close queue

end Moves

/-! ## Sessions -/

/-- How far a session came. -/
inductive SessionStage where
  | opening
  | connecting
  | loggingIn
  | subscribing
  /-- The acknowledgements are waited for. -/
  | waiting
  | subscribed
  deriving DecidableEq, Repr

namespace SessionStage

/-- What a session reports until it is there. -/
def reports (hasLogin : Bool) : SessionStage → List OkxWebsocketHealthEventKind
  | .opening => []
  | .connecting => [.connectAttempt]
  | .loggingIn => [.connectAttempt, .connected]
  | .subscribing | .waiting =>
      [.connectAttempt, .connected] ++ if hasLogin then [.loginAckSucceeded] else []
  | .subscribed =>
      ([.connectAttempt, .connected] ++ if hasLogin then [.loginAckSucceeded] else []) ++
        [.subscriptionAckSucceeded]

/-- What a session may report of the failure there. -/
def failures : SessionStage → List (List OkxWebsocketHealthEventKind)
  | .loggingIn => [[], [.loginFailed]]
  | .waiting => [[.subscriptionAckFailed]]
  | _ => [[]]

/-- Messages are read. -/
def reads : SessionStage → Bool
  | .waiting | .subscribed => true
  | _ => false

end SessionStage

namespace StreamPhase

variable {Event : Type}

/-- How far the session came, by its phase. -/
def stage : StreamPhase Event → SessionStage
  | .starting | .sleeping _ => .opening
  | .connecting => .connecting
  | .loggingIn => .loggingIn
  | .subscribing => .subscribing
  | .reading session _ _ => if session.subscribed then .subscribed else .waiting

/-- The events that wait for room. -/
def delivering : StreamPhase Event → List Event
  | .reading _ delivering _ => delivering
  | _ => []

end StreamPhase

/-- A session that is over followed the protocol. -/
structure FinishedSession.Sound {Event : Type} (hasLogin : Bool) (session : FinishedSession Event) :
    Prop where
  /-- Its reports are those of a stage it came to, with the failure there. -/
  reports : ∃ stage : SessionStage, ∃ failure ∈ stage.failures,
    session.reports = stage.reports hasLogin ++ failure ++ session.outcome.report ++
      [.reconnectScheduled] ∧
    session.outcome.subscribed = decide (stage = .subscribed) ∧
    (stage = .loggingIn → hasLogin = true) ∧ (stage.reads = false → session.Untouched)
  /-- Nothing is put into the queue that was not accepted, nor out of order. -/
  delivered : session.enqueued <+: session.accepted
  /-- Without an error everything was. -/
  complete : session.outcome.error = none →
    session.outcome.subscribed = true ∧ session.enqueued = session.accepted

namespace StreamTask

/-- The sessions of a task follow the protocol, the current one as far as it came. -/
structure Sound {Event : Type} (hasLogin : Bool) (task : StreamTask Event) : Prop where
  past : ∀ session ∈ task.past, session.Sound hasLogin
  reports : task.current.reports = task.phase.stage.reports hasLogin
  login : task.phase = .loggingIn → hasLogin = true
  /-- What was accepted is in the queue, or waits for it. -/
  delivering : task.current.accepted = task.current.enqueued ++ task.phase.delivering
  idle : task.phase.stage.reads = false → task.current.Untouched
  live : ∀ session delivering since, task.phase = .reading session delivering since →
    session.outcome = none

variable {Data Cache Event Queue Meets : Type} {hasLogin : Bool} {task : StreamTask Event}
  {policy : OkxWebsocketReconnectPolicy} {now : ℕ}

theorem Sound.new (hasLogin : Bool) (policy : OkxWebsocketReconnectPolicy) :
    (StreamTask.new policy : StreamTask Event).Sound hasLogin where
  past := nofun
  reports := rfl
  login := nofun
  delivering := rfl
  idle _ := SessionRecord.untouched_blank
  live := nofun

/-- A session that followed the protocol to a stage ends there. -/
theorem Sound.finish (past : ∀ session ∈ task.past, session.Sound hasLogin)
    {outcome : OkxWebsocketStreamRunOutcome} (stage : SessionStage)
    (failure : List OkxWebsocketHealthEventKind) (hfailure : failure ∈ stage.failures)
    (hreports : task.current.reports = stage.reports hasLogin ++ failure)
    (hsubscribed : outcome.subscribed = decide (stage = .subscribed))
    (hlogin : stage = .loggingIn → hasLogin = true)
    (hidle : stage.reads = false → task.current.Untouched)
    (hdelivered : task.current.enqueued <+: task.current.accepted)
    (hcomplete : outcome.error = none →
      outcome.subscribed = true ∧ task.current.enqueued = task.current.accepted) :
    (task.finish policy now outcome).Sound hasLogin where
  past session hsession := by
    rcases List.mem_append.1 hsession with hsession | hsession
    · exact past session hsession
    · rw [List.mem_singleton.1 hsession]
      exact ⟨⟨stage, failure, hfailure, by simp only [hreports], hsubscribed, hlogin, hidle⟩,
        hdelivered, hcomplete⟩
  reports := rfl
  login := nofun
  delivering := rfl
  idle _ := SessionRecord.untouched_blank
  live := nofun

/-- An error before messages are read. -/
theorem Sound.fail (h : task.Sound hasLogin) {stage : SessionStage}
    (hstage : task.phase.stage = stage) (hreads : stage.reads = false)
    (hsilent : [] ∈ stage.failures) (hlogin : stage = .loggingIn → hasLogin = true) (e : Message) :
    (task.fail policy now e).Sound hasLogin := by
  have huntouched : task.current.Untouched := h.idle (by rw [hstage, hreads])
  have hne : stage ≠ .subscribed := fun h => by rw [h] at hreads; cases hreads
  refine .finish h.past stage [] hsilent ?_ (decide_eq_false hne).symm hlogin (fun _ => huntouched)
    ?_ nofun
  · rw [h.reports, hstage, List.append_nil]
  · rw [h.delivering]
    exact List.prefix_append _ _

theorem stage_of_opens (h : task.phase.Opens now) : task.phase.stage = .opening := by
  unfold StreamPhase.Opens at h
  split at h
  · rename_i hphase; rw [hphase]; rfl
  · rename_i hphase; rw [hphase]; rfl
  · exact h.elim

/-- An error while messages are read. -/
theorem Sound.failReading (past : ∀ session ∈ task.past, session.Sound hasLogin) {subscribed : Bool}
    (hreports : task.current.reports =
      (if subscribed then SessionStage.subscribed else .waiting).reports hasLogin)
    (hdelivered : task.current.enqueued <+: task.current.accepted) (e : Message) :
    (task.failReading policy now subscribed e).Sound hasLogin := by
  cases subscribed with
  | true =>
    refine .finish past .subscribed [] (List.mem_singleton.2 rfl) ?_ rfl nofun nofun
      hdelivered nofun
    rw [List.append_nil]
    exact hreports
  | false =>
    refine Sound.finish ?_ .waiting [.subscriptionAckFailed] (List.mem_singleton.2 rfl) ?_ rfl
      nofun nofun
      ?_ nofun
    · exact past
    · exact congrArg (· ++ [.subscriptionAckFailed]) hreports
    · exact hdelivered

theorem Sound.enqueued_eq_nil (h : task.Sound hasLogin) (hreads : task.phase.stage.reads = false) :
    task.current.enqueued = [] :=
  (List.append_eq_nil_iff.1 (h.delivering.symm.trans (h.idle hreads).2)).1

/-- A session before its messages are read. -/
theorem Sound.before (past : ∀ session ∈ task.past, session.Sound hasLogin)
    (hreads : task.phase.stage.reads = false)
    (hreports : task.current.reports = task.phase.stage.reports hasLogin)
    (hlogin : task.phase = .loggingIn → hasLogin = true)
    (huntouched : task.current.Untouched) (henqueued : task.current.enqueued = []) :
    task.Sound hasLogin where
  past
  reports := hreports
  login := hlogin
  delivering := by
    rw [huntouched.2, henqueued]
    cases hphase : task.phase with
    | reading session =>
      rw [hphase] at hreads
      cases hs : session.subscribed <;> simp [StreamPhase.stage, SessionStage.reads, hs] at hreads
    | starting | connecting | loggingIn | subscribing | sleeping => rfl
  idle _ := huntouched
  live session _ _ hphase := by
    rw [hphase] at hreads
    cases hs : session.subscribed <;> simp [StreamPhase.stage, SessionStage.reads, hs] at hreads

/-- A session whose messages are read. -/
theorem Sound.reading {session : StreamSession Unit} {delivering : List Event} {since : ℕ}
    (hphase : task.phase = .reading session delivering since)
    (past : ∀ session ∈ task.past, session.Sound hasLogin) (houtcome : session.outcome = none)
    (hreports : task.current.reports =
      (if session.subscribed then SessionStage.subscribed else .waiting).reports hasLogin)
    (hdelivering : task.current.accepted = task.current.enqueued ++ delivering) :
    task.Sound hasLogin where
  past
  reports := by rw [hphase]; exact hreports
  login h := by rw [hphase] at h; cases h
  delivering := by rw [hphase]; exact hdelivering
  idle hreads := by
    rw [hphase] at hreads
    cases hs : session.subscribed <;> simp [StreamPhase.stage, SessionStage.reads, hs] at hreads
  live _ _ _ h := by
    cases hphase.symm.trans h
    exact houtcome

theorem reportSubscribed_of_eq {before after : Bool} (h : after = before) :
    task.reportSubscribed before after = task := by
  unfold reportSubscribed
  cases after <;> simp_all

/-- What an arrival leaves of a task. -/
theorem Sound.arrived (h : task.Sound hasLogin) {session : StreamSession Unit}
    {delivering : List Event} {since : ℕ} {after : StreamSession Unit × Applied Cache Event}
    {config : StreamTaskConfig Data Cache Event Queue Meets} {cache : Cache}
    (hphase : task.phase = .reading session delivering since)
    (hreads : Reads config cache session after.1 after.2)
    (hidle : delivering = [] ∨ after.1.outcome ≠ some (.ok ())) :
    (task.arrived policy now session delivering since after).Sound hasLogin := by
  obtain ⟨after, applied⟩ := after
  -- before and after the arrival the reports are those of the stage
  have hreports := h.reports
  have hdelivering := h.delivering
  rw [hphase] at hreports hdelivering
  have hsame : after.outcome ≠ none → after.subscribed = session.subscribed := fun hended =>
    hreads.subscribed.resolve_right fun hnew => hended hnew.2.2.1
  have hprefix : task.current.enqueued <+: task.current.accepted ++ applied.accepted := by
    rw [hdelivering, List.append_assoc]
    exact List.prefix_append _ _
  rcases houtcome : after.outcome with _ | (e | ⟨⟩)
  · have hevents : applied.events = applied.accepted :=
      hreads.announced.resolve_right fun ⟨_, e, he⟩ => by
      rw [houtcome] at he
      cases he
    simp only [StreamTask.arrived, StreamTask.hasRead, houtcome]
    rcases hreads.subscribed with hsubscribed | ⟨hbefore, hafter, -, -⟩
    · rw [reportSubscribed_of_eq hsubscribed]
      refine Sound.reading rfl h.past houtcome ?_ ?_
      · rw [hsubscribed]
        exact hreports
      · rw [hevents, ← List.append_assoc]
        exact congrArg (· ++ applied.accepted) hdelivering
    · have hreported : task.reportSubscribed session.subscribed after.subscribed =
          task.report .subscriptionAckSucceeded := if_pos ⟨hbefore, hafter⟩
      rw [hreported]
      refine Sound.reading rfl h.past houtcome ?_ ?_
      · rw [hafter]
        refine congrArg (· ++ [.subscriptionAckSucceeded]) (hreports.trans ?_)
        simp only [StreamPhase.stage, hbefore]
        rfl
      · rw [hevents, ← List.append_assoc]
        exact congrArg (· ++ applied.accepted) hdelivering
  · simp only [StreamTask.arrived, StreamTask.hasRead, houtcome]
    rw [reportSubscribed_of_eq (hsame (by simp [houtcome]))]
    refine Sound.failReading ?_ ?_ ?_ e
    · exact h.past
    · rw [hsame (by simp [houtcome])]
      exact hreports
    · exact hprefix
  · obtain ⟨hsubscribed, haccepted⟩ := hreads.ended houtcome
    have hafter := hsame (by simp [houtcome])
    simp only [StreamTask.arrived, StreamTask.hasRead, houtcome]
    rw [reportSubscribed_of_eq hafter, hafter, hsubscribed]
    refine Sound.finish ?_ .subscribed [] (List.mem_singleton.2 rfl) ?_ rfl nofun nofun ?_
      fun _ => ⟨rfl, ?_⟩
    · exact h.past
    · rw [List.append_nil]
      simp only [StreamPhase.stage, hsubscribed] at hreports
      exact hreports
    · exact hprefix
    · have hnone : delivering = [] := hidle.resolve_right fun hother => hother houtcome
      have hempty : applied.accepted = [] := haccepted
      simp only [hdelivering, hnone, hempty, StreamPhase.delivering, List.append_nil]

variable {config : StreamTaskConfig Data Cache Event Queue Meets} {next : StreamTask Event}

/-- **Every move keeps the protocol.** -/
theorem Sound.move (h : task.Sound config.hasLogin) (hmove : TaskMove config now task next) :
    next.Sound config.hasLogin := by
  cases hmove with
  | refuse e hphase =>
    exact h.fail (stage_of_opens hphase) rfl (List.mem_singleton.2 rfl) nofun e
  | begin hphase =>
    have hreports := h.reports
    rw [stage_of_opens hphase] at hreports
    have hattempt : task.current.reports ++ [.connectAttempt] = [.connectAttempt] :=
      congrArg (· ++ [.connectAttempt]) hreports
    refine Sound.before h.past rfl hattempt nofun ?_ ?_
    · exact h.idle (by rw [stage_of_opens hphase]; rfl)
    · exact h.enqueued_eq_nil (by rw [stage_of_opens hphase]; rfl)
  | disconnect e hphase =>
    exact h.fail (congrArg StreamPhase.stage hphase) rfl (List.mem_singleton.2 rfl) nofun e
  | connect hphase =>
    have hreports := h.reports
    rw [hphase] at hreports
    have huntouched := h.idle (by rw [hphase]; rfl)
    have henqueued := h.enqueued_eq_nil (by rw [hphase]; rfl)
    have hconnected : task.current.reports ++ [.connected] = [.connectAttempt, .connected] :=
      congrArg (· ++ [.connected]) hreports
    have past := h.past
    cases hlogin : config.hasLogin with
    | true => exact .before (hlogin ▸ past) rfl hconnected (fun _ => rfl) huntouched henqueued
    | false => exact .before (hlogin ▸ past) rfl hconnected nofun huntouched henqueued
  | logIn hphase =>
    have hreports := h.reports
    rw [hphase] at hreports
    refine Sound.before h.past rfl ?_ nofun (h.idle (by rw [hphase]; rfl))
      (h.enqueued_eq_nil (by rw [hphase]; rfl))
    simp only [StreamPhase.stage, SessionStage.reports, h.login hphase, if_true]
    exact congrArg (· ++ [.loginAckSucceeded]) hreports
  | notSent e hphase =>
    exact h.fail (congrArg StreamPhase.stage hphase) rfl (List.mem_cons_self)
      (fun _ => h.login hphase) e
  | loginFailed e hphase =>
    have hreports := h.reports
    rw [hphase] at hreports
    have huntouched := h.idle (by rw [hphase]; rfl)
    have henqueued := h.enqueued_eq_nil (by rw [hphase]; rfl)
    refine Sound.finish ?_ .loggingIn [.loginFailed] (by decide) ?_ rfl
      (fun _ => h.login hphase) (fun _ => huntouched) ?_ nofun
    · exact h.past
    · exact congrArg (· ++ [.loginFailed]) hreports
    · exact ⟨[], (List.append_nil _).trans (henqueued.trans huntouched.2.symm)⟩
  | notSubscribed e hphase =>
    exact h.fail (congrArg StreamPhase.stage hphase) rfl (List.mem_singleton.2 rfl) nofun e
  | subscribe hphase =>
    have hreports := h.reports
    rw [hphase] at hreports
    have huntouched := h.idle (by rw [hphase]; rfl)
    have henqueued := h.enqueued_eq_nil (by rw [hphase]; rfl)
    have hcurrent : task.current.accepted = task.current.enqueued ++ [] := by
      rw [huntouched.2, henqueued, List.append_nil]
    cases hsubscribed : (StreamSession.start config.acks ()).subscribed with
    | false =>
      refine Sound.reading rfl h.past rfl ?_ hcurrent
      rw [hsubscribed]
      exact hreports
    | true =>
      refine Sound.reading rfl h.past rfl ?_ hcurrent
      rw [hsubscribed]
      exact congrArg (· ++ [.subscriptionAckSucceeded]) hreports
  | read hphase meets cache arrival hidle after hread =>
    refine h.arrived hphase (StreamTaskConfig.readArrival_reads (h.live _ _ _ hphase) hread) ?_
    exact hidle.imp_right fun htimeout =>
      (StreamTaskConfig.readArrival_isAckTimeout (h.live _ _ _ hphase) htimeout hread).2.2
  | giveUp e hphase =>
    have hreports := h.reports
    rw [hphase] at hreports
    refine Sound.failReading h.past hreports ?_ e
    rw [h.delivering]
    exact List.prefix_append _ _

/-- An event that is put into the queue was the next one to be delivered. -/
theorem Sound.enqueued (h : task.Sound hasLogin) {session : StreamSession Unit} {event : Event}
    {rest : List Event} {since : ℕ} (hphase : task.phase = .reading session (event :: rest) since) :
    (task.enqueued now session event rest).Sound hasLogin := by
  have hreports := h.reports
  have hdelivering := h.delivering
  rw [hphase] at hreports hdelivering
  refine Sound.reading rfl h.past (h.live _ _ _ hphase) hreports ?_
  change task.current.accepted = task.current.enqueued ++ [event] ++ rest
  rw [hdelivering, List.append_assoc]
  rfl

end StreamTask

/-! ## Reconnecting -/

namespace OkxWebsocketReconnectPolicy

variable (self : OkxWebsocketReconnectPolicy)

/-- The sleep after sessions of which it is known whether they were subscribed: it doubles with each
one since the last that was. -/
def delayAfter (subscribed : List Bool) : ℕ :=
  min (self.initialBackoff * 2 ^ (subscribed.reverse.takeWhile not).length) self.maxBackoff

theorem delayAfter_nil : self.delayAfter [] = self.initialBackoff := by
  simp only [delayAfter, List.reverse_nil, List.takeWhile_nil, List.length_nil, pow_zero, mul_one]
  exact min_eq_left self.initial_le_max

theorem delayAfter_concat (subscribed : List Bool) (outcome : OkxWebsocketStreamRunOutcome) :
    self.delayAfter (subscribed ++ [outcome.subscribed]) =
      self.backoffAfterStreamRun (self.delayAfter subscribed) outcome := by
  unfold backoffAfterStreamRun
  cases outcome.subscribed with
  | true =>
    rw [if_pos rfl, ← self.delayAfter_nil]
    simp only [delayAfter, List.reverse_append, List.reverse_cons, List.reverse_nil,
      List.nil_append,
      List.cons_append, List.takeWhile_cons, Bool.not_true, Bool.false_eq_true, if_false,
      List.takeWhile_nil]
  | false =>
    have hmax := self.max_le
    rw [if_neg Bool.false_ne_true]
    simp only [delayAfter, nextBackoff, List.reverse_append, List.reverse_cons, List.reverse_nil,
      List.nil_append, List.cons_append, List.takeWhile_cons, Bool.not_false, if_true,
      List.length_cons, pow_succ, ← mul_assoc]
    -- doubling before the cap is taken is doubling after it
    omega

end OkxWebsocketReconnectPolicy

namespace StreamTask

variable {Data Cache Event Queue Meets : Type} {task next : StreamTask Event}
  {policy : OkxWebsocketReconnectPolicy} {now now' : ℕ}

/-- When the last sleep of a task is over; what it does goes on. -/
def awake (task : StreamTask Event) (now : ℕ) : ℕ :=
  match task.phase with
  | .sleeping wake => wake
  | _ => now

/-- The sessions of a task are numbered and follow each other as slowly as the policy asks for. -/
structure Paced (policy : OkxWebsocketReconnectPolicy) (now : ℕ) (task : StreamTask Event) :
    Prop where
  attempt : task.reconnectAttempt = min task.past.length (2 ^ 64 - 1)
  backoff : task.backoff = policy.delayAfter (task.past.map (·.outcome.subscribed))
  attempts : ∀ (n : ℕ) (session : FinishedSession Event), task.past[n]? = some session →
    session.attempt = min (n + 1) (2 ^ 64 - 1)
  delays : ∀ (n : ℕ) (session : FinishedSession Event), task.past[n]? = some session →
    session.delay = policy.delayAfter ((task.past.take n).map (·.outcome.subscribed))
  /-- The sleeps fit into the time. -/
  slept : (task.past.map (·.delay)).sum ≤ task.awake now
  starting : task.phase = .starting → task.past = []

theorem Paced.new (policy : OkxWebsocketReconnectPolicy) :
    (StreamTask.new policy : StreamTask Event).Paced policy 0 :=
  ⟨rfl, policy.delayAfter_nil.symm, nofun, nofun, le_rfl, fun _ => rfl⟩

theorem Paced.mono (h : task.Paced policy now) (hnow : now ≤ now') : task.Paced policy now' where
  attempt := h.attempt
  backoff := h.backoff
  attempts := h.attempts
  delays := h.delays
  slept := by
    refine h.slept.trans ?_
    unfold awake
    split
    · exact le_rfl
    · exact hnow
  starting := h.starting

/-- A task goes on within its session. -/
theorem Paced.goOn (h : task.Paced policy now) (hpast : next.past = task.past)
    (hbackoff : next.backoff = task.backoff)
    (hattempt : next.reconnectAttempt = task.reconnectAttempt)
    (hawake : task.awake now ≤ next.awake now) (hstarting : next.phase ≠ .starting) :
    next.Paced policy now where
  attempt := by rw [hpast, hattempt, h.attempt]
  backoff := by rw [hpast, hbackoff, h.backoff]
  attempts := by rw [hpast]; exact h.attempts
  delays := by rw [hpast]; exact h.delays
  slept := by rw [hpast]; exact h.slept.trans hawake
  starting hphase := absurd hphase hstarting

theorem getElem?_concat_cases {α : Type} {l : List α} {x y : α} {n : ℕ}
    (h : (l ++ [x])[n]? = some y) : (n < l.length ∧ l[n]? = some y) ∨ n = l.length ∧ y = x := by
  rcases lt_trichotomy n l.length with hlt | rfl | hgt
  · rw [List.getElem?_append_left hlt] at h
    exact .inl ⟨hlt, h⟩
  · rw [List.getElem?_concat_length] at h
    exact .inr ⟨rfl, (Option.some.inj h).symm⟩
  · rw [List.getElem?_eq_none (by simpa using Nat.succ_le_of_lt hgt)] at h
    cases h

/-- The end of a session. -/
theorem Paced.finish (h : task.Paced policy now) (hawake : task.awake now ≤ now)
    (outcome : OkxWebsocketStreamRunOutcome) :
    (task.finish policy now outcome).Paced policy now where
  attempt := by
    simp only [StreamTask.finish, h.attempt, saturatingSucc, List.length_append,
      List.length_singleton]
    omega
  backoff := by
    simp only [StreamTask.finish, h.backoff, List.map_append, List.map_cons, List.map_nil,
      policy.delayAfter_concat]
  attempts n session hsession := by
    obtain ⟨-, hold⟩ | ⟨rfl, rfl⟩ := getElem?_concat_cases hsession
    · exact h.attempts n session hold
    · simp only [h.attempt, saturatingSucc]
      omega
  delays n session hsession := by
    obtain ⟨hlt, hold⟩ | ⟨rfl, rfl⟩ := getElem?_concat_cases hsession
    · simp only [StreamTask.finish, List.take_append_of_le_length hlt.le]
      exact h.delays n session hold
    · simp only [StreamTask.finish, List.take_left']
      exact h.backoff
  slept := by
    have hslept := h.slept.trans hawake
    simp only [StreamTask.finish, List.map_append, List.map_cons, List.map_nil, List.sum_append,
      List.sum_cons, List.sum_nil, add_zero, awake]
    omega
  starting := nofun

theorem Paced.report (h : task.Paced policy now) (kind : OkxWebsocketHealthEventKind) :
    (task.report kind).Paced policy now :=
  ⟨h.attempt, h.backoff, h.attempts, h.delays, h.slept, h.starting⟩

theorem awake_of_opens (h : task.phase.Opens now) : task.awake now ≤ now := by
  unfold StreamPhase.Opens at h
  unfold awake
  split at h
  · rename_i hphase; rw [hphase]
  · rename_i hphase; rw [hphase]; exact h
  · exact h.elim

theorem Paced.failReading (h : task.Paced policy now) (hawake : task.awake now ≤ now)
    (subscribed : Bool) (e : Message) :
    (task.failReading policy now subscribed e).Paced policy now := by
  cases subscribed with
  | true => exact h.finish hawake _
  | false => exact (h.report .subscriptionAckFailed).finish hawake _

theorem Paced.reportSubscribed (h : task.Paced policy now) (before after : Bool) :
    (task.reportSubscribed before after).Paced policy now := by
  unfold StreamTask.reportSubscribed
  split
  · exact h.report _
  · exact h

theorem awake_reportSubscribed (before after : Bool) :
    (task.reportSubscribed before after).awake now = task.awake now := by
  unfold StreamTask.reportSubscribed
  split <;> rfl

theorem Paced.arrived {Cache : Type} (h : task.Paced policy now) (hawake : task.awake now = now)
    (session : StreamSession Unit) (delivering : List Event) (since : ℕ)
    (after : StreamSession Unit × Applied Cache Event) :
    (task.arrived policy now session delivering since after).Paced policy now := by
  have hreported := h.reportSubscribed session.subscribed after.1.subscribed
  have hread : (task.hasRead now session delivering since after).Paced policy now := by
    refine hreported.goOn rfl rfl rfl ?_ nofun
    rw [awake_reportSubscribed, hawake]
    exact le_rfl
  unfold StreamTask.arrived
  dsimp only
  rcases after.1.outcome with _ | (e | ⟨⟩)
  · exact hread
  · exact hread.failReading le_rfl _ _
  · exact hread.finish le_rfl _

variable {config : StreamTaskConfig Data Cache Event Queue Meets}

/-- **Every move keeps the pace.** -/
theorem Paced.move (h : task.Paced config.policy now) (hmove : TaskMove config now task next) :
    next.Paced config.policy now := by
  cases hmove with
  | refuse e hphase => exact h.finish (awake_of_opens hphase) _
  | begin hphase => exact h.goOn rfl rfl rfl (awake_of_opens hphase) nofun
  | disconnect e hphase => exact h.finish (by rw [awake, hphase]) _
  | connect hphase =>
    refine h.goOn rfl rfl rfl ?_ ?_ <;> cases config.hasLogin <;> simp [awake, hphase]
  | logIn hphase => exact h.goOn rfl rfl rfl (by simp [awake, hphase]) nofun
  | notSent e hphase => exact h.finish (by rw [awake, hphase]) _
  | loginFailed e hphase =>
    exact (h.report .loginFailed).finish (by simp [awake, hphase, StreamTask.report]) _
  | notSubscribed e hphase => exact h.finish (by rw [awake, hphase]) _
  | subscribe hphase =>
    refine (h.reportSubscribed false _).goOn rfl rfl rfl ?_ nofun
    rw [awake_reportSubscribed]
    simp [awake, hphase]
  | read hphase meets cache arrival hidle after hread =>
    exact h.arrived (by simp [awake, hphase]) _ _ _ _
  | giveUp e hphase => exact h.failReading (by simp [awake, hphase]) _ _

theorem Paced.enqueued (h : task.Paced policy now) {session : StreamSession Unit} {event : Event}
    {rest : List Event} {since : ℕ} (hphase : task.phase = .reading session (event :: rest) since) :
    (task.enqueued now session event rest).Paced policy now :=
  h.goOn rfl rfl rfl (by simp [awake, hphase, StreamTask.enqueued]) nofun

end StreamTask

/-! ## Runs -/

section Runs

variable {ι Queue Data Cache Event Meets : Type} [DecidableEq ι] [DecidableEq Queue]
  {config : ι → StreamTaskConfig Data Cache Event Queue Meets} {capacity : Queue → ℕ}
  {self next : StreamSystem ι Queue Cache Event}

/-- **What the moves of a task, its deliveries and the clock keep of a task holds after every
run.** -/
theorem streamRun_task {i : ι} {P : ℕ → StreamTask Event → Prop}
    {actions : List (StreamAction ι Queue Data Meets)}
    (h : streamRun config capacity self actions = some next) (start : P self.now (self.tasks i))
    (mono : ∀ now now' task, now ≤ now' → P now task → P now' task)
    (move : ∀ now task task', P now task → TaskMove (config i) now task task' → P now task')
    (enqueued : ∀ now task session event rest since, P now task →
      task.phase = .reading session (event :: rest) since →
      P now (task.enqueued now session event rest)) : P next.now (next.tasks i) := by
  refine streamRun_invariant (P := fun self => P self.now (self.tasks i)) h start ?_
  intro self action next hself hstep
  cases streamStep_move hstep with
  | elapse ms => exact mono _ _ _ (Nat.le_add_right _ _) hself
  | move j task cache hmove hcache =>
    change P self.now (Function.update self.tasks j task i)
    by_cases hij : i = j
    · subst hij
      rw [Function.update_self]
      exact move _ _ _ hself hmove
    · rw [Function.update_of_ne hij]
      exact hself
  | enqueue j hphase hroom =>
    change P self.now (Function.update self.tasks j _ i)
    by_cases hij : i = j
    · subst hij
      rw [Function.update_self]
      exact enqueued _ _ _ _ _ _ hself hphase
    · rw [Function.update_of_ne hij]
      exact hself
  | take queue hqueue => exact hself
  | close queue => exact hself

variable {cache : Cache}

/-- **What the tasks keep of the cache holds after every run.** -/
theorem streamRun_cache {P : Cache → Prop} {actions : List (StreamAction ι Queue Data Meets)}
    (h : streamRun config capacity self actions = some next) (start : P self.cache)
    (prepare : ∀ i cache, P cache → P ((config i).prepare cache).2)
    (apply : ∀ i meets now cache message applied, P cache →
      (config i).apply meets now cache message = some applied → P applied.cache)
    (release : ∀ i cache, P cache → P ((config i).release cache)) : P next.cache := by
  refine streamRun_invariant (P := fun self => P self.cache) h start ?_
  intro self action next hself hstep
  cases streamStep_move hstep with
  | move i task cache hmove hcache =>
    have hused : ∀ used, CacheMove (config i) self.cache used → P used := by
      rintro _ (_ | _ | happly)
      · exact hself
      · exact prepare i _ hself
      · exact apply i _ _ _ _ _ hself happly
    change P cache
    unfold CacheAfter at hcache
    split at hcache
    · obtain ⟨used, hmove, rfl⟩ := hcache
      exact release i _ (hused used hmove)
    · exact hused _ hcache
    · rcases hcache with rfl | rfl
      · exact hself
      · exact prepare i _ hself
  | elapse | enqueue | take | close => exact hself

/-- After every run the sessions of every task followed the protocol. -/
theorem streamRun_sound {actions : List (StreamAction ι Queue Data Meets)}
    (h : streamRun config capacity (.start config cache) actions = some next) (i : ι) :
    (next.tasks i).Sound (config i).hasLogin :=
  streamRun_task (P := fun _ task => task.Sound (config i).hasLogin) h (.new _ _)
    (fun _ _ _ _ h => h) (fun _ _ _ h hmove => h.move hmove)
    fun _ _ _ _ _ _ h hphase => h.enqueued hphase

/-- After every run every task kept the pace of its policy. -/
theorem streamRun_paced {actions : List (StreamAction ι Queue Data Meets)}
    (h : streamRun config capacity (.start config cache) actions = some next) (i : ι) :
    (next.tasks i).Paced (config i).policy next.now :=
  streamRun_task h (.new _) (fun _ _ _ hnow h => h.mono hnow) (fun _ _ _ h hmove => h.move hmove)
    fun _ _ _ _ _ _ h hphase => h.enqueued hphase

end Runs

end OkxTrading
