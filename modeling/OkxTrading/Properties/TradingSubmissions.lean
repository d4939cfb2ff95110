import OkxTrading.Properties.TradingGrounds
import OkxTrading.Properties.MetadataLatch

/-!
# What the trading client hands over

Whatever calls run beside each other on the trading client, whatever the session and the exchange
answer, and wherever calls are dropped:

* `TradingState.LockSound`, `Standing` — who has the session, and how each call stands.
* `outside_standing`, `segment_standing`, … — what each kind of turn does to them.
* `Accounts` — the calls, the lock of the session and what was handed over agree, in every run.
* `Justified` — the calls were told what their commands rest on, in every run.
* `commands_submitted_once` — **each command is handed over at most once**, as it was asked for.
-/

namespace OkxTrading

open Effect

/-- A segment that is no part of a command leaves the protocol where it is. -/
theorem next_segment {call : TradingCall} {q : TradingRequest}
    {run : ℕ → TradingState → Option (q.Reply × TradingState)} {t : CommandState}
    (hrun : tradingSegment q = some run) (hq : SessionFree q) (hallows : call.protocol.allows t q)
    (answer : q.Reply) : call.protocol.next t q answer = t := by
  cases t with
  | begun =>
      cases hallows
      exact hq.elim
  | unsent | sent =>
      cases q with
      | connect timestamp => rfl
      | rest request => cases request with
        | inl op => rfl
        | inr query => cases hrun
      | segment op => cases op with
        | beginCommand request => exact hq.elim
        | _ => rfl

/-! ## The lock of the session -/

namespace TradingState

variable {s s' : TradingState} {k : ℕ} {held : HeldCommand}

/-- Call `k` has the session. -/
def Holds (s : TradingState) (k : ℕ) : Prop := ∃ held, s.commands.held = some held ∧ held.job = k

/-- A command runs on the session exactly while a call holds it. -/
structure LockSound (s : TradingState) : Prop where
  held : ∀ held, s.commands.held = some held → ∃ session running,
    s.commands.session = some session ∧ session.running = some running
  free : s.commands.held = none → ∀ session, s.commands.session = some session →
    session.running = none

/-- How a call stands that is at `t`, with what it has handed over so far. -/
inductive Standing (s : TradingState) (own : OkxWebsocketOrderRequest → Prop) (k : ℕ) :
    CommandState → ℕ → Prop where
  | unsent (hfree : ¬ s.Holds k) (hnone : s.outcomes k = none) : Standing s own k .unsent 0
  | sent (hfree : ¬ s.Holds k) (hnone : s.outcomes k = none) : Standing s own k .sent 1
  | running {held : HeldCommand} {session : TradingSession}
      {expected : OkxWebsocketExpectedOrderAck} {phase : CommandPhase}
      (hheld : s.commands.held = some held) (hjob : held.job = k) (hown : own held.request)
      (hsession : s.commands.session = some session)
      (hrunning : session.running = some (expected, phase)) (hnone : s.outcomes k = none) :
      Standing s own k .begun (decide (phase = .readingAck)).toNat
  | ended {outcome : CommandOutcome} (hfree : ¬ s.Holds k)
      (houtcome : s.outcomes k = some outcome) :
      Standing s own k .begun (wasWritten outcome).toNat

variable {own : OkxWebsocketOrderRequest → Prop} {t : CommandState} {n : ℕ}

theorem holds_iff (h : s.commands.held = some held) : s.Holds k ↔ held.job = k := by
  constructor
  · rintro ⟨_, hheld, hjob⟩
    rw [h] at hheld
    cases hheld
    exact hjob
  · intro hjob
    exact ⟨held, h, hjob⟩

theorem not_holds_of_none (h : s.commands.held = none) : ¬ s.Holds k := by
  rintro ⟨held, hheld, -⟩
  rw [h] at hheld
  cases hheld

theorem standing_le (h : Standing s own k t n) : n ≤ 1 := by
  cases h with
  | unsent => exact Nat.zero_le 1
  | sent => exact le_rfl
  | running => exact Bool.toNat_le _
  | ended => exact Bool.toNat_le _

/-- A call stands as it stood where neither the session nor its outcome is touched. -/
theorem Standing.frame (h : Standing s own k t n) (hcommands : s'.commands.held = s.commands.held)
    (hsession : s.Holds k → s'.commands.session = s.commands.session)
    (houtcome : s'.outcomes k = s.outcomes k) : Standing s' own k t n := by
  have hholds : s'.Holds k ↔ s.Holds k := by rw [Holds, Holds, hcommands]
  cases h with
  | unsent hfree hnone => exact .unsent (mt hholds.1 hfree) (houtcome.trans hnone)
  | sent hfree hnone => exact .sent (mt hholds.1 hfree) (houtcome.trans hnone)
  | running hheld hjob hown hcurrent hrunning hnone =>
      exact .running (hcommands.trans hheld) hjob hown
        ((hsession ⟨_, hheld, hjob⟩).trans hcurrent) hrunning (houtcome.trans hnone)
  | ended hfree hsome => exact .ended (mt hholds.1 hfree) (houtcome.trans hsome)

/-- A call that holds nothing stands as it stood where it does not come to hold the session and its
outcome is not touched. -/
theorem Standing.other (h : Standing s own k t n) (hfree : ¬ s.Holds k) (hfree' : ¬ s'.Holds k)
    (houtcome : s'.outcomes k = s.outcomes k) : Standing s' own k t n := by
  cases h with
  | unsent _ hnone => exact .unsent hfree' (houtcome.trans hnone)
  | sent _ hnone => exact .sent hfree' (houtcome.trans hnone)
  | running hheld hjob => exact absurd ⟨_, hheld, hjob⟩ hfree
  | ended _ hsome => exact .ended hfree' (houtcome.trans hsome)

/-- Call `k` stands as it stood. -/
structure Unmoved (s s' : TradingState) (k : ℕ) : Prop where
  standing : ∀ own t n, Standing s own k t n → Standing s' own k t n
  free : ¬ s.Holds k → ¬ s'.Holds k
  outcome : s'.outcomes k = s.outcomes k

theorem Unmoved.of_free (hfree : ¬ s.Holds k) (hfree' : ¬ s'.Holds k)
    (houtcome : s'.outcomes k = s.outcomes k) : Unmoved s s' k :=
  ⟨fun _ _ _ h => h.other hfree hfree' houtcome, fun _ => hfree', houtcome⟩

/-- All the begin of a command does: there is no session, or the command is called on it. -/
theorem beginCommand_eq_some {j : ℕ} {request : OkxWebsocketOrderRequest} {answer : Result Unit}
    (h : s.beginCommand j request = some (answer, s')) :
    s.commands.held = none ∧
    ((s.commands.session = none ∧ (∃ e, answer = .error e) ∧
        s' = { s with commands := { s.commands with available := false } }) ∨
      ∃ session called, s.commands.session = some session ∧
        called = { session with websocketRequestNonce := s.websocketRequestNonce }.call request
          s.rest.now ∧ answer = .ok () ∧
        s' = { s with websocketRequestNonce := called.1.websocketRequestNonce }.afterSession
          ⟨j, request⟩ called) := by
  unfold beginCommand at h
  split at h
  · cases h
  · rename_i hheld
    rw [Bool.not_eq_true, Option.isSome_eq_false_iff, Option.isNone_iff_eq_none] at hheld
    refine ⟨hheld, ?_⟩
    split at h
    · rename_i hsession
      cases h
      exact .inl ⟨hsession, ⟨_, rfl⟩, rfl⟩
    · rename_i session hsession
      cases h
      exact .inr ⟨session, _, hsession, rfl, rfl, rfl⟩

/-- An event of the session is one of the command that holds it. -/
theorem onSession_eq_some {event : SessionEvent} (h : s.onSession event = some s') :
    ∃ held session, s.commands.held = some held ∧ s.commands.session = some session ∧
      s' = s.afterSession held (session.step event) := by
  unfold onSession at h
  split at h
  · rename_i held session hheld hsession
    cases h
    exact ⟨held, session, hheld, hsession, rfl⟩
  · cases h

/-- What an event of the session, or the begin of a command, leaves. -/
theorem afterSession_sound (held : HeldCommand) {expected : OkxWebsocketExpectedOrderAck}
    {written : Bool}
    {result : TradingSession × Option CommandOutcome}
    (h : TradingSession.Leaves expected written result) :
    (s.afterSession held result).LockSound ∧
    (∀ k, k ≠ held.job → ¬ s.Holds k → Unmoved s (s.afterSession held result) k) ∧
    (∀ own, own held.request → s.outcomes held.job = none →
      Standing (s.afterSession held result) own held.job .begun written.toNat) := by
  obtain ⟨session, outcome⟩ := result
  rcases h with ⟨phase, hnone, hrunning, rfl⟩ | ⟨ended, hsome, hrunning, rfl⟩
  · cases hnone
    have hheld : (s.afterSession held (session, none)).commands.held = some held := rfl
    refine ⟨⟨fun _ _ => ⟨session, _, rfl, hrunning⟩, fun hfree => ?_⟩, ?_, ?_⟩
    · rw [hheld] at hfree
      cases hfree
    · intro k hk hfree
      exact .of_free hfree (fun hholds => hk ((holds_iff hheld).1 hholds).symm) rfl
    · intro own hown hnone
      exact .running hheld rfl hown rfl hrunning hnone
  · cases hsome
    have hfreed : (s.afterSession held (session, some ended)).commands.held = none := by
      cases ended <;> rfl
    refine ⟨⟨fun other hother => ?_, fun _ current hcurrent => ?_⟩, ?_, ?_⟩
    · rw [hfreed] at hother
      cases hother
    · cases ended with
      | ok acknowledgement =>
          cases hcurrent
          exact hrunning
      | error error => cases hcurrent
    · intro k hk hfree
      exact .of_free hfree (not_holds_of_none hfreed) (Function.update_of_ne hk _ _)
    · intro own _ _
      exact .ended (not_holds_of_none hfreed) (Function.update_self _ _ _)

/-- Neither the session of a running command nor what was given back is touched. -/
structure SameLock (s s' : TradingState) : Prop where
  held : s'.commands.held = s.commands.held
  session : s.commands.held.isSome = true → s'.commands.session = s.commands.session
  outcomes : s'.outcomes = s.outcomes
  idle : ∀ session, s'.commands.session = some session →
    s.commands.session = some session ∨ session.running = none

theorem SameLock.sound (h : SameLock s s') (hlock : s.LockSound) : s'.LockSound := by
  constructor
  · intro held hheld
    rw [h.held] at hheld
    obtain ⟨session, running, hsession, hrunning⟩ := hlock.held held hheld
    exact ⟨session, running, (h.session (by rw [hheld]; rfl)).trans hsession, hrunning⟩
  · intro hnone session hsession
    rw [h.held] at hnone
    rcases h.idle session hsession with hold | hidle
    · exact hlock.free hnone session hold
    · exact hidle

theorem SameLock.unmoved (h : SameLock s s') (k : ℕ) : Unmoved s s' k where
  standing _ _ _ hstanding := hstanding.frame h.held
    (fun ⟨_, hheld, _⟩ => h.session (by rw [hheld]; rfl)) (by rw [h.outcomes])
  free hfree := by
    rintro ⟨held, hheld, hjob⟩
    exact hfree ⟨held, h.held.symm.trans hheld, hjob⟩
  outcome := by rw [h.outcomes]

theorem sameLock_of_eq (hcommands : s'.commands = s.commands)
    (houtcomes : s'.outcomes = s.outcomes) :
    SameLock s s' :=
  ⟨by rw [hcommands], fun _ => by rw [hcommands], houtcomes,
    fun session h => .inl (by rwa [hcommands] at h)⟩

/-- A segment that is no part of a command leaves every command alone. -/
theorem segment_sameLock {q : TradingRequest}
    {run : ℕ → TradingState → Option (q.Reply × TradingState)}
    {answer : q.Reply} {j : ℕ} (hq : SessionFree q) (hrun : tradingSegment q = some run)
    (h : run j s = some (answer, s')) : SameLock s s' := by
  cases q with
  | connect timestamp => cases hrun
  | rest request =>
      cases request with
      | inr query => cases hrun
      | inl op =>
          cases hrun
          cases h
          exact sameLock_of_eq rfl rfl
  | segment op =>
      cases hrun
      cases op with
      | beginCommand | commandOutcome => exact hq.elim
      | configured | loadAvailable | loadPrepareAttempted | instantNow | cachedInstIdCode
      | rememberInstIdCode =>
          cases h
          exact sameLock_of_eq rfl rfl
      | storePrepareAttempted | storeUnavailable =>
          cases h
          exact ⟨rfl, fun _ => rfl, rfl, fun _ h => .inl h⟩
      | clearSession =>
          simp only [TradingOp.run] at h
          split at h
          · cases h
          · rename_i hheld
            cases h
            exact ⟨rfl, fun hsome => absurd hsome hheld, rfl, fun _ hsession => by cases hsession⟩
      | storeSession =>
          simp only [TradingOp.run] at h
          split at h
          · cases h
          · rename_i hheld
            cases h
            refine ⟨rfl, fun hsome => absurd hsome hheld, rfl, fun session hsession => .inr ?_⟩
            cases hsession
            rfl

/-- The begin of a command: the session is not there, or the command now holds it. -/
theorem beginCommand_cases {j : ℕ} {request : OkxWebsocketOrderRequest} {answer : Result Unit}
    (h : s.beginCommand j request = some (answer, s')) (hlock : s.LockSound) :
    s.commands.held = none ∧ (((∃ e, answer = .error e) ∧ SameLock s s') ∨
      (answer = .ok () ∧ s'.LockSound ∧
        (∀ k, k ≠ j → Unmoved s s' k) ∧
        ∀ own, own request → s.outcomes j = none → Standing s' own j .begun 0)) := by
  obtain ⟨hnone, ⟨-, ⟨e, rfl⟩, rfl⟩ | ⟨session, _, hsession, rfl, rfl, rfl⟩⟩ :=
    beginCommand_eq_some h
  · exact ⟨hnone, .inl ⟨⟨e, rfl⟩, rfl, fun _ => rfl, rfl, fun _ h => .inl h⟩⟩
  · have hidle : { session with
        websocketRequestNonce := s.websocketRequestNonce }.running = none :=
      hlock.free hnone session hsession
    obtain ⟨hsound, hothers, hself⟩ := afterSession_sound
      (s := { s with websocketRequestNonce := ({ session with
        websocketRequestNonce := s.websocketRequestNonce }.call request
          s.rest.now).1.websocketRequestNonce })
      ⟨j, request⟩ (TradingSession.call_leaves hidle request s.rest.now)
    have hsame : SameLock s { s with websocketRequestNonce := ({ session with
        websocketRequestNonce := s.websocketRequestNonce }.call request
          s.rest.now).1.websocketRequestNonce } := sameLock_of_eq rfl rfl
    refine ⟨hnone, .inr ⟨rfl, hsound, fun k hk => ?_, hself⟩⟩
    have hmoved := hothers k hk (not_holds_of_none hnone)
    have hstill := hsame.unmoved k
    exact ⟨fun own t n h => hmoved.standing own t n (hstill.standing own t n h),
      fun h => hmoved.free (hstill.free h), hmoved.outcome.trans hstill.outcome⟩

theorem writes_toNat (event : SessionEvent) (phase : CommandPhase) :
    (decide (phase = .readingAck) || TradingSession.writes event phase).toNat =
      (decide (phase = .readingAck)).toNat + (TradingSession.writes event phase).toNat := by
  have hreading : TradingSession.writes event .readingAck = false := by
    unfold TradingSession.writes
    split
    · rename_i h
      cases h
    · rfl
  cases phase with
  | readingAck => rw [hreading]; rfl
  | idlePing | idlePong | sending => simp

/-- What an event does to the command that holds the session, and to the others. -/
theorem onSession_sound {event : SessionEvent} (h : s.onSession event = some s')
    (hevent : TradingSession.IsWire event) (hlock : s.LockSound) :
    s'.LockSound ∧ ∃ held session expected phase, s.commands.held = some held ∧
      s.commands.session = some session ∧ session.running = some (expected, phase) ∧
      (∀ k, k ≠ held.job → Unmoved s s' k) ∧
      ∀ own t n, Standing s own held.job t n →
        Standing s' own held.job t (n + (TradingSession.writes event phase).toNat) := by
  obtain ⟨held, session, hheld, hsession, rfl⟩ := onSession_eq_some h
  obtain ⟨_, ⟨expected, phase⟩, hsome, hrunning⟩ := hlock.held held hheld
  rw [hsession] at hsome
  cases hsome
  obtain ⟨hsound, hothers, hself⟩ := afterSession_sound (s := s) held
    (TradingSession.step_leaves hrunning hevent)
  refine ⟨hsound, held, session, expected, phase, hheld, hsession, hrunning, ?_, ?_⟩
  · intro k hk
    exact hothers k hk (fun hholds => hk ((holds_iff hheld).1 hholds).symm)
  · intro own t n hstanding
    have hholds : s.Holds held.job := ⟨held, hheld, rfl⟩
    cases hstanding with
    | unsent hfree | sent hfree | ended hfree => exact absurd hholds hfree
    | running hother _ hown hcurrent hphase hnone =>
        rw [hheld] at hother
        cases hother
        rw [hsession] at hcurrent
        cases hcurrent
        rw [hrunning] at hphase
        cases hphase
        rw [← writes_toNat]
        exact hself own hown hnone

/-- What the call that holds the session hands over where its send is done. -/
theorem charged_sent (jobs : List (Guarded.Job OkxError TradingCall TradingRequest
    TradingRequest.Reply (Option OkxOrderAck))) {session : TradingSession}
    {expected : OkxWebsocketExpectedOrderAck} {phase : CommandPhase}
    (hheld : s.commands.held = some held) (hsession : s.commands.session = some session)
    (hrunning : session.running = some (expected, phase)) (k : ℕ) :
    charged k (handedOver ⟨s, jobs⟩ (.outside (.sent true))) =
      if k = held.job then (TradingSession.writes (.sent true) phase).toNat else 0 := by
  have hsending : s.sending = if phase = .sending then some held else none := by
    simp only [sending, hheld, hsession, hrunning]
    cases phase <;> rfl
  simp only [handedOver, hsending, charged]
  by_cases hk : k = held.job
  · subst hk
    cases phase <;> simp [TradingSession.writes, Submission.counts]
  · have hne : ¬ held.job = k := fun h => hk h.symm
    cases phase <;> simp [hk, hne]

/-- **Events from outside**: the frame of the command that holds the session is handed over where
its send is done, and nothing else changes for any call. -/
theorem outside_standing {event : TradingEvent} (h : tradingOutside s event = some s')
    (hlock : s.LockSound) (jobs : List (Guarded.Job OkxError TradingCall TradingRequest
      TradingRequest.Reply (Option OkxOrderAck))) :
    s'.LockSound ∧
    (∀ own k t n, Standing s own k t n →
      Standing s' own k t (n + charged k (handedOver ⟨s, jobs⟩ (.outside event)))) ∧
    ∀ k, ¬ s.Holds k →
      Unmoved s s' k ∧ charged k (handedOver ⟨s, jobs⟩ (.outside event)) = 0 := by
  have hquiet : ∀ event, TradingSession.IsWire event → event ≠ .sent true →
      s.onSession event = some s' → s'.LockSound ∧
        (∀ own k t n, Standing s own k t n → Standing s' own k t n) ∧
        ∀ k, ¬ s.Holds k → Unmoved s s' k := by
    intro event hevent hne hsome
    obtain ⟨hsound, held, session, expected, phase, hheld, -, -, hothers, hself⟩ :=
      onSession_sound hsome hevent hlock
    refine ⟨hsound, fun own k t n hstanding => ?_, fun k hfree => hothers k ?_⟩
    · by_cases hk : k = held.job
      · subst hk
        have hsame := hself own t n hstanding
        have hwrites : TradingSession.writes event phase = false := by
          unfold TradingSession.writes
          split
          · exact absurd rfl hne
          · rfl
        rwa [hwrites] at hsame
      · exact (hothers k hk).standing own t n hstanding
    · rintro rfl
      exact hfree ⟨held, hheld, rfl⟩
  cases event with
  | client event =>
      obtain ⟨rest, -, rfl⟩ := Option.map_eq_some_iff.1 h
      have hsame : SameLock s { s with rest } := sameLock_of_eq rfl rfl
      exact ⟨hsame.sound hlock, fun own k t n => (hsame.unmoved k).standing own t n,
        fun k _ => ⟨hsame.unmoved k, rfl⟩⟩
  | arrival arrival =>
      obtain ⟨hsound, hstanding, hfree⟩ :=
        hquiet (.arrival arrival s.rest.now) trivial (by rintro ⟨⟩) h
      exact ⟨hsound, hstanding, fun k hk => ⟨hfree k hk, rfl⟩⟩
  | timeout =>
      obtain ⟨hsound, hstanding, hfree⟩ := hquiet .timeout trivial (by rintro ⟨⟩) h
      exact ⟨hsound, hstanding, fun k hk => ⟨hfree k hk, rfl⟩⟩
  | sent ok =>
      cases ok with
      | false =>
          obtain ⟨hsound, hstanding, hfree⟩ := hquiet (.sent false) trivial (by rintro ⟨⟩) h
          exact ⟨hsound, hstanding, fun k hk => ⟨hfree k hk, rfl⟩⟩
      | true =>
          obtain ⟨hsound, held, session, expected, phase, hheld, hsession, hrunning, hothers,
            hself⟩ := onSession_sound h trivial hlock
          have hcharged := charged_sent jobs hheld hsession hrunning
          refine ⟨hsound, fun own k t n hstanding => ?_, fun k hfree => ?_⟩
          · rw [hcharged]
            by_cases hk : k = held.job
            · rw [if_pos hk]
              subst hk
              exact hself own t n hstanding
            · rw [if_neg hk]
              exact (hothers k hk).standing own t n hstanding
          · have hk : k ≠ held.job := by
              rintro rfl
              exact hfree ⟨held, hheld, rfl⟩
            rw [hcharged, if_neg hk]
            exact ⟨hothers k hk, rfl⟩

/-- **Segments**: a call that begins a command gets the session, and gives back how it ended; no
other call is touched. -/
theorem segment_standing {q : TradingRequest}
    {run : ℕ → TradingState → Option (q.Reply × TradingState)}
    {answer : q.Reply} {j : ℕ} (hrun : tradingSegment q = some run)
    (h : run j s = some (answer, s')) (hlock : s.LockSound) :
    s'.LockSound ∧ (∀ k, k ≠ j → Unmoved s s' k) ∧
    ∀ (call : TradingCall) t n, call.protocol.allows t q →
      Standing s (fun request => call.Submits (.websocket request)) j t n →
      Standing s' (fun request => call.Submits (.websocket request)) j
        (call.protocol.next t q answer) n := by
  have hplain : SessionFree q → s'.LockSound ∧ (∀ k, k ≠ j → Unmoved s s' k) ∧
      ∀ (call : TradingCall) t n, call.protocol.allows t q →
        Standing s (fun request => call.Submits (.websocket request)) j t n →
        Standing s' (fun request => call.Submits (.websocket request)) j
          (call.protocol.next t q answer) n := by
    intro hq
    have hsame := segment_sameLock hq hrun h
    refine ⟨hsame.sound hlock, fun k _ => hsame.unmoved k, ?_⟩
    intro call t n hallows hstanding
    rw [next_segment hrun hq hallows]
    exact (hsame.unmoved j).standing _ t n hstanding
  cases q with
  | connect timestamp => cases hrun
  | rest request => exact hplain trivial
  | segment op =>
      cases op with
      | beginCommand request =>
          cases hrun
          obtain ⟨hheld, ⟨⟨e, rfl⟩, hsame⟩ | ⟨rfl, hsound, hothers, hself⟩⟩ :=
            beginCommand_cases h hlock
          · refine ⟨hsame.sound hlock, fun k _ => hsame.unmoved k, ?_⟩
            intro call t n hallows hstanding
            cases t with
            | unsent => exact (hsame.unmoved j).standing _ _ n hstanding
            | begun => cases hallows
            | sent => exact hallows.elim
          · refine ⟨hsound, hothers, ?_⟩
            intro call t n hallows hstanding
            cases t with
            | unsent =>
                cases hstanding with
                | unsent _ hnone => exact hself _ hallows hnone
            | begun => cases hallows
            | sent => exact hallows.elim
      | commandOutcome =>
          cases hrun
          obtain ⟨outcome, houtcome, hstep⟩ := Option.map_eq_some_iff.1 h
          cases hstep
          have hholds : ∀ k, TradingState.Holds
              { s with outcomes := Function.update s.outcomes j none } k ↔ s.Holds k :=
            fun _ => Iff.rfl
          refine ⟨⟨hlock.held, hlock.free⟩, ?_, ?_⟩
          · intro k hk
            have houtcome := Function.update_of_ne hk (none : Option CommandOutcome) s.outcomes
            exact ⟨fun own t n h => h.frame rfl (fun _ => rfl) houtcome,
              mt (hholds k).1, houtcome⟩
          · intro call t n hallows hstanding
            cases t with
            | unsent | sent => exact hallows.elim
            | begun =>
                cases hstanding with
                | running _ _ _ _ _ hnone =>
                    rw [hnone] at houtcome
                    cases houtcome
                | ended hfree hsome =>
                    rw [houtcome] at hsome
                    cases hsome
                    have hnone := Function.update_self j (none : Option CommandOutcome) s.outcomes
                    show Standing _ _ j (if wasWritten answer then .sent else .unsent) _
                    cases hwritten : wasWritten answer with
                    | true => exact .sent (mt (hholds j).1 hfree) hnone
                    | false => exact .unsent (mt (hholds j).1 hfree) hnone
      | _ => exact hplain trivial

/-- **Answers**: a request that creates or amends is handed over. -/
theorem answer_standing {q : TradingRequest} {answer : q.Reply} {j : ℕ} {call : TradingCall}
    (hnone : tradingSegment q = none) (hallows : call.protocol.allows t q)
    (hstanding : Standing s own j t n)
    (jobs : List (Guarded.Job OkxError TradingCall TradingRequest TradingRequest.Reply
      (Option OkxOrderAck))) :
    Standing s own j (call.protocol.next t q answer)
      (n + charged j (handedOver ⟨s, jobs⟩ (.answer j ⟨q, answer⟩))) := by
  cases q with
  | segment op => cases hnone
  | connect timestamp =>
      cases t with
      | begun => cases hallows
      | unsent | sent => exact hstanding
  | rest request =>
      cases request with
      | inl op => cases hnone
      | inr query =>
          have hcharged :
              charged j (handedOver ⟨s, jobs⟩ (.answer j ⟨.rest (.inr query), answer⟩)) =
              query.isExposure.toNat := by
            simp only [handedOver, charged, Submission.counts, List.countP_singleton,
              decide_true, Bool.true_and]
            cases query.isExposure <;> rfl
          rw [hcharged]
          cases t with
          | begun => cases hallows
          | unsent =>
              show Standing s own j (if query.isExposure then .sent else .unsent) _
              cases hstanding with
              | unsent hfree houtcome =>
                  cases query.isExposure with
                  | true => exact .sent hfree houtcome
                  | false => exact .unsent hfree houtcome
          | sent =>
              have hexposure : query.isExposure = false := hallows
              rw [hexposure]
              exact hstanding

/-- A call that is dropped lets go of the session, and no other call is touched. -/
theorem dropped_standing (j : ℕ) (hlock : s.LockSound) :
    (tradingDropped j s).LockSound ∧ ¬ (tradingDropped j s).Holds j ∧
      ∀ k, k ≠ j → Unmoved s (tradingDropped j s) k := by
  have hsame : ∀ k, Unmoved s s k := (sameLock_of_eq rfl rfl : SameLock s s).unmoved
  unfold tradingDropped
  split
  · rename_i hnone
    exact ⟨hlock, not_holds_of_none hnone, fun k _ => hsame k⟩
  · rename_i held hheld
    split
    · rename_i hjob
      refine ⟨⟨fun _ h => (by cases h), fun _ session hsession => ?_⟩, not_holds_of_none rfl, ?_⟩
      · obtain ⟨current, -, rfl⟩ := Option.map_eq_some_iff.1 hsession
        rfl
      · intro k hk
        refine .of_free (fun hholds => hk ?_) (not_holds_of_none rfl) rfl
        exact ((holds_iff hheld).1 hholds).symm.trans hjob
    · rename_i hjob
      exact ⟨hlock, mt (holds_iff hheld).1 hjob, fun k _ => hsame k⟩

end TradingState

/-! ## Whole runs -/

theorem charged_append (k : ℕ) (log more : List (ℕ × Submission)) :
    charged k (log ++ more) = charged k log + charged k more :=
  List.countP_append ..

/-- What a call hands over is charged to it alone. -/
theorem charged_other {k j : ℕ} {log : List (ℕ × Submission)} (h : ∀ entry ∈ log, entry.1 = j)
    (hk : k ≠ j) : charged k log = 0 := by
  refine List.countP_eq_zero.2 fun entry hentry => ?_
  rw [h entry hentry, decide_eq_false hk.symm]
  exact Bool.false_ne_true

/-- The calls, the lock of the session and what was handed over agree. -/
structure Accounts (log : List (ℕ × Submission)) (pool : TradingPool) : Prop where
  lock : pool.shared.LockSound
  jobs : ∀ k call task, pool.jobs[k]? = some ⟨call, some task⟩ → ∃ t,
    call.protocol.Follows t task ∧
    pool.shared.Standing (fun request => call.Submits (.websocket request)) k t (charged k log)
  dropped : ∀ k call, pool.jobs[k]? = some ⟨call, none⟩ →
    ¬ pool.shared.Holds k ∧ charged k log ≤ 1
  fresh : ∀ k, pool.jobs.length ≤ k →
    ¬ pool.shared.Holds k ∧ pool.shared.outcomes k = none ∧ charged k log = 0
  own : ∀ entry ∈ log, entry.2.counts = true → ∃ job, pool.jobs[entry.1]? = some job ∧
    job.call.Submits entry.2

section Runs

variable {pool next last : TradingPool} {turn : TradingTurn} {turns : List TradingTurn}
  {log : List (ℕ × Submission)}

/-- The call that holds the session waits for a command of its own. -/
theorem Accounts.holder {held : HeldCommand} (h : Accounts log pool)
    (hheld : pool.shared.commands.held = some held) : ∃ call rest,
      pool.jobs[held.job]? = some ⟨call, some (.await (.segment .commandOutcome) rest)⟩ ∧
        call.Submits (.websocket held.request) := by
  have hholds : pool.shared.Holds held.job := ⟨held, hheld, rfl⟩
  cases hjob : pool.jobs[held.job]? with
  | none => exact absurd hholds (h.fresh _ (List.getElem?_eq_none_iff.1 hjob)).1
  | some job =>
      obtain ⟨call, rest⟩ := job
      cases rest with
      | none => exact absurd hholds (h.dropped _ _ hjob).1
      | some task =>
          obtain ⟨t, hfollows, hstanding⟩ := h.jobs _ _ _ hjob
          generalize charged held.job log = n at hstanding
          cases hstanding with
          | unsent hfree | sent hfree | ended hfree => exact absurd hholds hfree
          | running hother _ hown =>
              rw [hheld] at hother
              cases hother
              cases task with
              | done outcome => exact absurd rfl hfollows
              | await q rest =>
                  obtain rfl : q = .segment .commandOutcome := hfollows.1
                  exact ⟨call, rest, rfl, hown⟩

/-- A call that waits for the answer to a mutation was asked for it. -/
theorem submits_of_allows {call : TradingCall} {t : CommandState} {query : RestRequest}
    (hallows : call.protocol.allows t (.rest (.inr query))) (hexposure : query.isExposure = true) :
    call.Submits (.rest query) := by
  cases t with
  | unsent => exact hallows hexposure
  | begun => cases hallows
  | sent =>
      have hnone : query.isExposure = false := hallows
      rw [hexposure] at hnone
      cases hnone

theorem sending_held {s : TradingState} {held : HeldCommand} (h : s.sending = some held) :
    s.commands.held = some held := by
  unfold TradingState.sending at h
  split at h
  · rename_i hheld _
    split at h
    · cases h
      exact hheld
    · cases h
  · cases h

/-- All a turn can hand over: the frame that is being sent, or a request that a call waits for. -/
theorem handedOver_cases {entry : ℕ × Submission}
    (hstep : tradingSystem.step pool turn = some next) (h : entry ∈ handedOver pool turn) :
    (∃ held, pool.shared.sending = some held ∧ entry = (held.job, .websocket held.request)) ∨
    ∃ k call query rest, entry = (k, .rest query) ∧
      pool.jobs[k]? = some ⟨call, some (.await (.rest (.inr query)) rest)⟩ := by
  unfold handedOver at h
  split at h
  · simp only [Option.mem_toList, Option.map_eq_some_iff] at h
    obtain ⟨held, hheld, rfl⟩ := h
    exact .inl ⟨held, hheld, rfl⟩
  · rename_i k query reply
    obtain ⟨call, rest, hjob, -⟩ := Guarded.System.resume_eq_some.1 hstep
    exact .inr ⟨k, call, query, rest, List.mem_singleton.1 h, hjob⟩
  · rename_i k
    split at h
    · rename_i query hquery
      obtain ⟨call, rest, hjob⟩ := Guarded.System.waiting_eq_some.1 hquery
      exact .inr ⟨k, call, query, rest, List.mem_singleton.1 h, hjob⟩
    · split at h
      · rename_i held hheld
        split at h
        · rename_i hj
          exact .inl ⟨held, hheld, by rw [List.mem_singleton.1 h, hj]⟩
        · cases h
      · cases h
  · cases h

/-- What a turn hands over is of the call that is charged for it. -/
theorem Accounts.submits (h : Accounts log pool)
    (hstep : tradingSystem.step pool turn = some next) :
    ∀ entry ∈ handedOver pool turn, entry.2.counts = true →
      ∃ job, pool.jobs[entry.1]? = some job ∧ job.call.Submits entry.2 := by
  intro entry hentry hcounts
  rcases handedOver_cases hstep hentry with ⟨held, hsending, rfl⟩ |
    ⟨k, call, query, rest, rfl, hjob⟩
  · obtain ⟨call, rest, hjob, hown⟩ := h.holder (sending_held hsending)
    exact ⟨_, hjob, hown⟩
  · obtain ⟨t, hfollows, -⟩ := h.jobs _ _ _ hjob
    exact ⟨_, hjob, submits_of_allows hfollows.1 hcounts⟩

theorem accounts_outside {event : TradingEvent} {shared : TradingState} (h : Accounts log pool)
    (hshared : tradingOutside pool.shared event = some shared)
    (hown : ∀ entry ∈ log ++ handedOver pool (.outside event), entry.2.counts = true →
      ∃ job, pool.jobs[entry.1]? = some job ∧ job.call.Submits entry.2) :
    Accounts (log ++ handedOver pool (.outside event)) ⟨shared, pool.jobs⟩ := by
  obtain ⟨hsound, hstanding, hfree⟩ :=
    TradingState.outside_standing hshared h.lock pool.jobs
  refine ⟨hsound, ?_, ?_, ?_, hown⟩
  · intro k call task hjob
    obtain ⟨t, hfollows, hold⟩ := h.jobs k call task hjob
    refine ⟨t, hfollows, ?_⟩
    rw [charged_append]
    exact hstanding _ k t _ hold
  · intro k call hjob
    obtain ⟨hk, hcharged⟩ := h.dropped k call hjob
    obtain ⟨hmoved, hzero⟩ := hfree k hk
    refine ⟨hmoved.free hk, ?_⟩
    rw [charged_append, hzero]
    exact hcharged
  · intro k hk
    obtain ⟨hholds, hnone, hcharged⟩ := h.fresh k hk
    obtain ⟨hmoved, hzero⟩ := hfree k hholds
    refine ⟨hmoved.free hholds, hmoved.outcome.trans hnone, ?_⟩
    rw [charged_append, hzero, hcharged]

theorem accounts_start {call : TradingCall} (h : Accounts log pool)
    (hown : ∀ entry ∈ log, entry.2.counts = true →
      ∃ job, (pool.jobs ++ [⟨call, some call.task⟩])[entry.1]? = some job ∧
        job.call.Submits entry.2) :
    Accounts log ⟨pool.shared, pool.jobs ++ [⟨call, some call.task⟩]⟩ := by
  have hlast : ∀ {k : ℕ} {job}, (pool.jobs ++ [⟨call, some call.task⟩])[k]? = some job →
      pool.jobs[k]? = some job ∨ k = pool.jobs.length ∧ job = ⟨call, some call.task⟩ := by
    intro k job hjob
    rcases Nat.lt_trichotomy k pool.jobs.length with hk | rfl | hk
    · rw [List.getElem?_append_left hk] at hjob
      exact .inl hjob
    · rw [List.getElem?_concat_length] at hjob
      exact .inr ⟨rfl, (Option.some.inj hjob).symm⟩
    · rw [List.getElem?_eq_none (by rw [List.length_append]; exact hk)] at hjob
      cases hjob
  refine ⟨h.lock, ?_, ?_, ?_, hown⟩
  · intro k other task hjob
    rcases hlast hjob with hold | ⟨rfl, hnew⟩
    · exact h.jobs k other task hold
    · cases hnew
      obtain ⟨hfree, hnone, hcharged⟩ := h.fresh _ le_rfl
      refine ⟨.unsent, task_follows call, ?_⟩
      rw [hcharged]
      exact .unsent hfree hnone
  · intro k other hjob
    rcases hlast hjob with hold | ⟨-, hnew⟩
    · exact h.dropped k other hold
    · cases hnew
  · intro k hk
    rw [List.length_append] at hk
    exact h.fresh k (Nat.le_of_succ_le hk)

/-- **A turn of one call** leaves the others as they are. -/
theorem accounts_turn {j : ℕ} {call : TradingCall}
    {old new : Option (TradingTask (Option OkxOrderAck))} {shared : TradingState}
    {more : List (ℕ × Submission)} (h : Accounts log pool) (hold : pool.jobs[j]? = some ⟨call, old⟩)
    (hlock : shared.LockSound) (hmoved : ∀ k, k ≠ j → TradingState.Unmoved pool.shared shared k)
    (hmore : ∀ entry ∈ more, entry.1 = j)
    (hrunning : ∀ task, new = some task → ∃ t, call.protocol.Follows t task ∧
      shared.Standing (fun request => call.Submits (.websocket request)) j t
        (charged j (log ++ more)))
    (hdropped : new = none → ¬ shared.Holds j ∧ charged j (log ++ more) ≤ 1)
    (hown : ∀ entry ∈ log ++ more, entry.2.counts = true →
      ∃ job, (pool.jobs.set j ⟨call, new⟩)[entry.1]? = some job ∧ job.call.Submits entry.2) :
    Accounts (log ++ more) ⟨shared, pool.jobs.set j ⟨call, new⟩⟩ := by
  have hset : ∀ {k : ℕ} {job}, (pool.jobs.set j ⟨call, new⟩)[k]? = some job →
      (k ≠ j ∧ pool.jobs[k]? = some job) ∨ k = j ∧ job = ⟨call, new⟩ := by
    intro k job hjob
    by_cases hk : j = k
    · subst hk
      rw [List.getElem?_set_self (List.getElem?_eq_some_iff.1 hold).1] at hjob
      exact .inr ⟨rfl, (Option.some.inj hjob).symm⟩
    · rw [List.getElem?_set_ne hk] at hjob
      exact .inl ⟨fun h => hk h.symm, hjob⟩
  have hsame : ∀ k, k ≠ j → charged k (log ++ more) = charged k log := by
    intro k hk
    rw [charged_append, charged_other hmore hk, Nat.add_zero]
  refine ⟨hlock, ?_, ?_, ?_, hown⟩
  · intro k other task hjob
    rcases hset hjob with ⟨hk, hother⟩ | ⟨rfl, hnew⟩
    · obtain ⟨t, hfollows, hstanding⟩ := h.jobs k other task hother
      refine ⟨t, hfollows, ?_⟩
      rw [hsame k hk]
      exact (hmoved k hk).standing _ t _ hstanding
    · cases hnew
      exact hrunning task rfl
  · intro k other hjob
    rcases hset hjob with ⟨hk, hother⟩ | ⟨rfl, hnew⟩
    · obtain ⟨hfree, hcharged⟩ := h.dropped k other hother
      exact ⟨(hmoved k hk).free hfree, by rwa [hsame k hk]⟩
    · cases hnew
      exact hdropped rfl
  · intro k hk
    have hlength : pool.jobs.length ≤ k := by
      rw [List.length_set] at hk
      exact hk
    have hne : k ≠ j := by
      rintro rfl
      exact absurd (List.getElem?_eq_some_iff.1 hold).1 (Nat.not_lt.2 hlength)
    obtain ⟨hfree, hnone, hcharged⟩ := h.fresh k hlength
    exact ⟨(hmoved k hne).free hfree, (hmoved k hne).outcome.trans hnone,
      by rw [hsame k hne, hcharged]⟩

/-- What is handed over in the turn of one call is its own. -/
theorem handedOver_own {j : ℕ} :
    (∀ entry ∈ handedOver pool (.segment j), entry.1 = j) ∧
    (∀ reply, ∀ entry ∈ handedOver pool (.answer j reply), entry.1 = j) ∧
    ∀ entry ∈ handedOver pool (.drop j), entry.1 = j := by
  refine ⟨fun entry hentry => (by cases hentry), fun reply entry hentry => ?_,
    fun entry hentry => ?_⟩
  · obtain ⟨q, answer⟩ := reply
    cases q with
    | segment op => cases hentry
    | connect timestamp => cases hentry
    | rest request => cases request with
      | inl op => cases hentry
      | inr query => rw [List.mem_singleton.1 hentry]
  · simp only [handedOver] at hentry
    split at hentry
    · rw [List.mem_singleton.1 hentry]
    · split at hentry
      · split at hentry
        · rw [List.mem_singleton.1 hentry]
        · cases hentry
      · cases hentry

/-- A call that is dropped may have handed over what it was sending or waited for, and no more. -/
theorem charged_drop {j : ℕ} {call : TradingCall} {q : TradingRequest} {t : CommandState} {n : ℕ}
    {own : OkxWebsocketOrderRequest → Prop} {rest : q.Reply → TradingTask (Option OkxOrderAck)}
    (hjob : pool.jobs[j]? = some ⟨call, some (.await q rest)⟩)
    (hallows : call.protocol.allows t q) (hstanding : pool.shared.Standing own j t n) :
    n + charged j (handedOver pool (.drop j)) ≤ 1 := by
  have hwaiting : Guarded.System.waiting pool j = some q :=
    Guarded.System.waiting_eq_some.2 ⟨call, rest, hjob⟩
  rw [handedOver, hwaiting]
  split
  · rename_i query hquery
    obtain rfl := Option.some.inj hquery
    have hcharged : charged j [(j, Submission.rest query)] = query.isExposure.toNat := by
      simp only [charged, Submission.counts, List.countP_singleton, decide_true, Bool.true_and]
      cases query.isExposure <;> rfl
    rw [hcharged]
    cases t with
    | begun => cases hallows
    | unsent =>
        cases hstanding with
        | unsent => exact (Nat.zero_add _).trans_le (Bool.toNat_le _)
    | sent =>
        have hexposure : query.isExposure = false := hallows
        rw [hexposure]
        exact TradingState.standing_le hstanding
  · -- The frame that is being sent counts where its call is the one that is dropped.
    split
    · rename_i held hheld
      split
      · rename_i hj
        have hholds : pool.shared.Holds j := ⟨held, sending_held hheld, hj⟩
        cases hstanding with
        | unsent hfree | sent hfree | ended hfree => exact absurd hholds hfree
        | running hother _ _ hsession hrunning =>
            simp only [TradingState.sending, hother, hsession, hrunning] at hheld
            split at hheld
            · rename_i hphase
              cases hphase
              simp [charged, Submission.counts]
            · cases hheld
      · exact TradingState.standing_le hstanding
    · exact TradingState.standing_le hstanding

theorem accounts_step (h : Accounts log pool) (hstep : tradingSystem.step pool turn = some next) :
    Accounts (log ++ handedOver pool turn) next := by
  have hown : ∀ entry ∈ log ++ handedOver pool turn, entry.2.counts = true →
      ∃ job, next.jobs[entry.1]? = some job ∧ job.call.Submits entry.2 := by
    intro entry hentry hcounts
    have hbefore : ∃ job, pool.jobs[entry.1]? = some job ∧ job.call.Submits entry.2 := by
      rcases List.mem_append.1 hentry with hold | hnew
      · exact h.own entry hold hcounts
      · exact h.submits hstep entry hnew hcounts
    obtain ⟨job, hjob, hsubmits⟩ := hbefore
    obtain ⟨job', hjob', hcall⟩ := Guarded.System.job_kept hstep hjob
    exact ⟨job', hjob', by rwa [hcall]⟩
  rcases Guarded.System.step_cases hstep with ⟨event, shared, rfl, hshared, rfl⟩ |
    ⟨call, rfl, rfl⟩ |
    ⟨j, call, q, rest, run, answer, shared, rfl, hjob, hrun, hsome, rfl⟩ |
    ⟨j, call, q, rest, answer, rfl, hjob, hnone, rfl⟩ | ⟨j, call, q, rest, rfl, hjob, rfl⟩
  · exact accounts_outside h hshared hown
  · rw [show handedOver pool (.start call) = [] from rfl, List.append_nil]
    rw [show handedOver pool (.start call) = [] from rfl, List.append_nil] at hown
    exact accounts_start h hown
  · obtain ⟨hlock, hmoved, hself⟩ := TradingState.segment_standing hrun hsome h.lock
    obtain ⟨t, hfollows, hstanding⟩ := h.jobs j call _ hjob
    refine accounts_turn h hjob hlock hmoved handedOver_own.1 ?_ (by rintro ⟨⟩) hown
    rintro _ ⟨⟩
    refine ⟨_, hfollows.2 answer, ?_⟩
    rw [show handedOver pool (.segment j) = [] from rfl, List.append_nil]
    exact hself call t _ hfollows.1 hstanding
  · obtain ⟨t, hfollows, hstanding⟩ := h.jobs j call _ hjob
    refine accounts_turn h hjob h.lock
      (fun k _ => (TradingState.sameLock_of_eq rfl rfl : TradingState.SameLock _ _).unmoved k)
      (handedOver_own.2.1 _) ?_ (by rintro ⟨⟩) hown
    rintro _ ⟨⟩
    refine ⟨_, hfollows.2 answer, ?_⟩
    rw [charged_append]
    exact TradingState.answer_standing hnone hfollows.1 hstanding pool.jobs
  · obtain ⟨hlock, hfree, hmoved⟩ := TradingState.dropped_standing j h.lock
    obtain ⟨t, hfollows, hstanding⟩ := h.jobs j call _ hjob
    refine accounts_turn h hjob hlock hmoved handedOver_own.2.2 (by rintro _ ⟨⟩)
      (fun _ => ⟨hfree, ?_⟩)
      hown
    rw [charged_append]
    exact charged_drop hjob hfollows.1 hstanding

/-- **In every run** from a state in which no call is under way. -/
theorem accounts_run {s : TradingState} (hlock : s.LockSound) (hfree : s.commands.held = none)
    (houtcomes : s.outcomes = fun _ => none) (h : tradingSystem.run ⟨s, []⟩ turns = some last) :
    Accounts (tradingSystem.observed handedOver ⟨s, []⟩ turns) last := by
  have hstart : Accounts [] (⟨s, []⟩ : TradingPool) := by
    refine ⟨hlock, fun _ _ _ h => (by cases h), fun _ _ h => (by cases h), fun k _ => ?_,
      fun _ h => (by cases h)⟩
    exact ⟨TradingState.not_holds_of_none hfree, by rw [houtcomes], rfl⟩
  exact Guarded.System.run_history (J := Accounts) handedOver []
    (fun _ _ _ _ h hstep => accounts_step h hstep) h hstart

theorem lockSound_new (rest : ClientState) (configured : Bool) :
    (TradingState.new rest configured).LockSound :=
  ⟨fun _ h => (by cases h), fun _ _ h => (by cases h)⟩

/-! ### What the commands rest on -/

/-- Call `k` was told what the request rests on. -/
def Justifies (s : TradingState) (turns : List TradingTurn) (pool : TradingPool) (k : ℕ)
    (q : TradingRequest) : Prop :=
  ∃ job, pool.jobs[k]? = some job ∧
    ∀ ground ∈ job.call.grounds q, tradingSystem.WasTold s turns k ground.ToldBy

/-- The request by which a call hands something over. -/
def Submission.request : Submission → TradingRequest
  | .websocket request => .segment (.beginCommand request)
  | .rest query => .rest (.inr query)

/-- What is held, handed over and remembered rests on what was told. -/
structure Justified (s : TradingState) (turns : List TradingTurn) (pool : TradingPool) : Prop where
  held : ∀ held, pool.shared.commands.held = some held →
    Justifies s turns pool held.job (.segment (.beginCommand held.request))
  handed : ∀ entry ∈ tradingSystem.observed handedOver ⟨s, []⟩ turns,
    Justifies s turns pool entry.1 entry.2.request
  codes : ∀ instId instIdCode, pool.shared.websocketInstIdCodes instId = some instIdCode →
    ∃ k, tradingSystem.WasTold s turns k (Ground.read instId instIdCode).ToldBy

theorem Justifies.step {s : TradingState} {k : ℕ} {q : TradingRequest}
    (h : Justifies s turns pool k q) (hstep : tradingSystem.step pool turn = some next) :
    Justifies s (turns ++ [turn]) next k q := by
  obtain ⟨job, hjob, htold⟩ := h
  obtain ⟨job', hjob', hcall⟩ := Guarded.System.job_kept hstep hjob
  refine ⟨job', hjob', fun ground hground => (htold ground ?_).append [turn]⟩
  rwa [← hcall]

/-- A call that waits was told what its request rests on. -/
theorem justifies_waiting {s : TradingState} {k : ℕ} {q : TradingRequest}
    (h : tradingSystem.run ⟨s, []⟩ turns = some pool)
    (hwaiting : Guarded.System.waiting pool k = some q) : Justifies s turns pool k q := by
  obtain ⟨call, rest, hjob⟩ := Guarded.System.waiting_eq_some.1 hwaiting
  exact ⟨_, hjob, fun _ hground => Guarded.System.run_asks (call_asks call) h hjob hground⟩

theorem afterSession_held {s : TradingState} {held other : HeldCommand}
    {result : TradingSession × Option CommandOutcome}
    (h : (s.afterSession held result).commands.held = some other) : other = held := by
  obtain ⟨session, outcome⟩ := result
  cases outcome with
  | none =>
      cases h
      rfl
  | some ended => cases ended <;> cases h

theorem afterSession_codes {s : TradingState} {held : HeldCommand}
    {result : TradingSession × Option CommandOutcome} :
    (s.afterSession held result).websocketInstIdCodes = s.websocketInstIdCodes := by
  obtain ⟨session, outcome⟩ := result
  cases outcome <;> rfl

/-- Events keep the command that holds the session, or end it, and remember no code. -/
theorem outside_kept {s s' : TradingState} {event : TradingEvent}
    (h : tradingOutside s event = some s') :
    (∀ held, s'.commands.held = some held → s.commands.held = some held) ∧
      s'.websocketInstIdCodes = s.websocketInstIdCodes := by
  have hsession : ∀ event, s.onSession event = some s' →
      (∀ held, s'.commands.held = some held → s.commands.held = some held) ∧
        s'.websocketInstIdCodes = s.websocketInstIdCodes := by
    intro event hevent
    obtain ⟨held, session, hheld, -, rfl⟩ := TradingState.onSession_eq_some hevent
    refine ⟨fun other hother => ?_, afterSession_codes⟩
    rw [afterSession_held hother, hheld]
  cases event with
  | client event =>
      obtain ⟨rest, -, rfl⟩ := Option.map_eq_some_iff.1 h
      exact ⟨fun _ h => h, rfl⟩
  | sent ok => exact hsession _ h
  | arrival arrival => exact hsession _ h
  | timeout => exact hsession _ h

/-- A segment brings a command only by beginning it, and a code only by remembering it. -/
theorem segment_kept {s s' : TradingState} {q : TradingRequest} {answer : q.Reply} {j : ℕ}
    {run : ℕ → TradingState → Option (q.Reply × TradingState)} (hrun : tradingSegment q = some run)
    (h : run j s = some (answer, s')) :
    (∀ held, s'.commands.held = some held → s.commands.held = some held ∨
      held.job = j ∧ q = .segment (.beginCommand held.request)) ∧
    ∀ instId instIdCode, s'.websocketInstIdCodes instId = some instIdCode →
      s.websocketInstIdCodes instId = some instIdCode ∨
        q = .segment (.rememberInstIdCode instId instIdCode) := by
  cases q with
  | connect timestamp => cases hrun
  | rest request =>
      cases request with
      | inr query => cases hrun
      | inl op =>
          cases hrun
          cases h
          exact ⟨fun _ h => .inl h, fun _ _ h => .inl h⟩
  | segment op =>
      cases hrun
      cases op with
      | configured | loadAvailable | loadPrepareAttempted | instantNow | cachedInstIdCode
      | storePrepareAttempted | storeUnavailable =>
          cases h
          exact ⟨fun _ h => .inl h, fun _ _ h => .inl h⟩
      | clearSession | storeSession =>
          simp only [TradingOp.run] at h
          split at h
          · cases h
          · cases h
            exact ⟨fun _ h => .inl h, fun _ _ h => .inl h⟩
      | rememberInstIdCode remembered code =>
          cases h
          refine ⟨fun _ h => .inl h, fun instId instIdCode hcode => ?_⟩
          change Function.update s.websocketInstIdCodes remembered (some code) instId = _ at hcode
          by_cases hinst : instId = remembered
          · subst hinst
            rw [Function.update_self] at hcode
            cases hcode
            exact .inr rfl
          · rw [Function.update_of_ne hinst] at hcode
            exact .inl hcode
      | commandOutcome =>
          obtain ⟨outcome, -, hstep⟩ := Option.map_eq_some_iff.1 h
          cases hstep
          exact ⟨fun _ h => .inl h, fun _ _ h => .inl h⟩
      | beginCommand request =>
          obtain ⟨-, ⟨-, -, rfl⟩ | ⟨session, called, -, -, -, rfl⟩⟩ :=
            TradingState.beginCommand_eq_some h
          · exact ⟨fun _ h => .inl h, fun _ _ h => .inl h⟩
          · refine ⟨fun held hheld => ?_, fun instId instIdCode hcode => ?_⟩
            · rw [afterSession_held hheld]
              exact .inr ⟨rfl, rfl⟩
            · rw [afterSession_codes] at hcode
              exact .inl hcode

theorem dropped_kept {s : TradingState} (j : ℕ) :
    (∀ held, (tradingDropped j s).commands.held = some held → s.commands.held = some held) ∧
      (tradingDropped j s).websocketInstIdCodes = s.websocketInstIdCodes := by
  unfold tradingDropped
  split
  · exact ⟨fun _ h => h, rfl⟩
  · split
    · exact ⟨fun _ h => (by cases h), rfl⟩
    · exact ⟨fun _ h => h, rfl⟩

/-- A turn brings a command only where its call begins it, and a code only where one remembers
it. -/
theorem step_kept (hstep : tradingSystem.step pool turn = some next) :
    (∀ held, next.shared.commands.held = some held → pool.shared.commands.held = some held ∨
      Guarded.System.waiting pool held.job = some (.segment (.beginCommand held.request))) ∧
    ∀ instId instIdCode, next.shared.websocketInstIdCodes instId = some instIdCode →
      pool.shared.websocketInstIdCodes instId = some instIdCode ∨ ∃ k,
        Guarded.System.waiting pool k =
          some (.segment (.rememberInstIdCode instId instIdCode)) := by
  rcases Guarded.System.step_cases hstep with ⟨event, shared, -, hshared, rfl⟩ | ⟨call, -, rfl⟩ |
    ⟨j, call, q, rest, run, answer, shared, -, hjob, hrun, hsome, rfl⟩ |
    ⟨j, call, q, rest, answer, -, -, -, rfl⟩ | ⟨j, call, q, rest, -, -, rfl⟩
  · obtain ⟨hheld, hcodes⟩ := outside_kept hshared
    refine ⟨fun held h => .inl (hheld held h), fun instId instIdCode h => .inl ?_⟩
    rwa [← hcodes]
  · exact ⟨fun _ h => .inl h, fun _ _ h => .inl h⟩
  · obtain ⟨hheld, hcodes⟩ := segment_kept hrun hsome
    refine ⟨fun held h => (hheld held h).imp_right ?_, fun instId instIdCode h =>
      (hcodes instId instIdCode h).imp_right ?_⟩
    · rintro ⟨rfl, rfl⟩
      exact Guarded.System.waiting_eq_some.2 ⟨call, rest, hjob⟩
    · rintro rfl
      exact ⟨j, Guarded.System.waiting_eq_some.2 ⟨call, rest, hjob⟩⟩
  · exact ⟨fun _ h => .inl h, fun _ _ h => .inl h⟩
  · obtain ⟨hheld, hcodes⟩ := dropped_kept (s := pool.shared) j
    refine ⟨fun held h => .inl (hheld held h), fun instId instIdCode h => .inl ?_⟩
    rwa [← hcodes]

/-- **In every run** of a client that holds no code yet and whose session nobody has. -/
theorem justified_run {s : TradingState} (hfree : s.commands.held = none)
    (hcodes : s.websocketInstIdCodes = fun _ => none)
    (h : tradingSystem.run ⟨s, []⟩ turns = some last) : Justified s turns last := by
  refine Guarded.System.run_turns (J := Justified s) ?_ h ?_
  · intro before mid turn next hmid hbefore hstep
    obtain ⟨hheld, hcode⟩ := step_kept hstep
    refine ⟨fun held hnext => ?_, fun entry hentry => ?_, fun instId instIdCode hnext => ?_⟩
    · rcases hheld held hnext with hold | hwaiting
      · exact (hbefore.held held hold).step hstep
      · exact (justifies_waiting hmid hwaiting).step hstep
    · rw [Guarded.System.observed_append hmid, Guarded.System.observed_cons hstep,
        Guarded.System.observed, List.append_nil] at hentry
      rcases List.mem_append.1 hentry with hold | hnew
      · exact (hbefore.handed entry hold).step hstep
      · rcases handedOver_cases hstep hnew with ⟨held, hsending, rfl⟩ |
          ⟨k, call, query, rest, rfl, hjob⟩
        · exact (hbefore.held held (sending_held hsending)).step hstep
        · exact (justifies_waiting hmid
            (Guarded.System.waiting_eq_some.2 ⟨call, rest, hjob⟩)).step hstep
    · rcases hcode instId instIdCode hnext with hold | ⟨k, hwaiting⟩
      · obtain ⟨k, htold⟩ := hbefore.codes instId instIdCode hold
        exact ⟨k, htold.append _⟩
      · obtain ⟨job, -, htold⟩ := justifies_waiting hmid hwaiting
        refine ⟨k, (htold (.read instId instIdCode) ?_).append _⟩
        rw [TradingCall.grounds]
        exact List.mem_singleton.2 rfl
  · refine ⟨fun held hheld => ?_, fun _ hentry => (by cases hentry), fun instId _ hcode => ?_⟩
    · rw [hfree] at hheld
      cases hheld
    · rw [hcodes] at hcode
      cases hcode

/-- **Each command is handed over at most once**, over the session and over REST together, and as
it was asked for: with the code and the route that its call was told for its instrument, where the
client holds only codes that were read.  This holds in every run of a trading client, whatever calls
it serves beside each other, whatever the session and the exchange answer, and wherever calls are
dropped. -/
theorem commands_submitted_once {rest : ClientState} {configured : Bool}
    (h : tradingSystem.run ⟨.new rest configured, []⟩ turns = some last) :
    (∀ k, charged k (tradingSystem.observed handedOver ⟨.new rest configured, []⟩ turns) ≤ 1) ∧
    (∀ entry ∈ tradingSystem.observed handedOver ⟨.new rest configured, []⟩ turns,
      entry.2.counts = true →
        ∃ job, last.jobs[entry.1]? = some job ∧ job.call.Submits entry.2 ∧
          ∀ ground ∈ job.call.grounds entry.2.request,
            tradingSystem.WasTold (.new rest configured) turns entry.1 ground.ToldBy) ∧
    ∀ instId instIdCode, last.shared.websocketInstIdCodes instId = some instIdCode →
      ∃ k, tradingSystem.WasTold (.new rest configured) turns k
        (Ground.read instId instIdCode).ToldBy := by
  have haccounts : Accounts (tradingSystem.observed handedOver ⟨.new rest configured, []⟩ turns)
      last := accounts_run (lockSound_new rest configured) rfl rfl h
  have hjustified : Justified (.new rest configured) turns last := justified_run rfl rfl h
  refine ⟨fun k => ?_, fun entry hentry hcounts => ?_, hjustified.codes⟩
  · cases hjob : last.jobs[k]? with
    | none =>
        obtain ⟨-, -, hzero⟩ := haccounts.fresh k (List.getElem?_eq_none_iff.1 hjob)
        rw [hzero]
        exact Nat.zero_le 1
    | some job =>
        obtain ⟨call, task⟩ := job
        cases task with
        | none => exact (haccounts.dropped k call hjob).2
        | some task =>
            obtain ⟨t, -, hstanding⟩ := haccounts.jobs k call task hjob
            exact TradingState.standing_le hstanding
  · obtain ⟨job, hjob, hsubmits⟩ := haccounts.own entry hentry hcounts
    obtain ⟨job', hjob', htold⟩ := hjustified.handed entry hentry
    cases hjob.symm.trans hjob'
    exact ⟨job, hjob, hsubmits, htold⟩

end Runs

/-! ## A command in doubt -/

def sampleCommand : OkxRegularOrderCommand where
  instId := sampleInstId
  side := .buy
  kind := .limit
  size := ⟨['5'], .value 5⟩
  price := some ⟨['9'], .value 9⟩
  clientOrderId := "order".toList

/-- The order of the sample command, as it is found at the exchange. -/
def sampleHeldOrder : OkxOrderRow where
  clientOrderId := "order".toList
  side := some .buy
  orderType := some .limit
  price := .value 9
  state := .live
  averagePrice := .empty
  accumulatedFillSize := .value 0
  fee := .value 0
  feeCurrency := []
  rebate := .value 0
  rebateCurrency := []
  sz := .value 5
  createdAt := some 1
  orderId := ['8']
  instId := sampleInstId
  instType := spotText

/-- The sample exchange, where the order is found. -/
def sampleAnswers : (q : TradingRequest) → Option q.Reply
  | .segment _ => none
  | .connect _ => some (.ok ())
  | .rest (.inr .privateRequestTiming) => some (.ok 5000)
  | .rest (.inr (.priceLimit instId)) =>
      some (.ok [⟨spotText, instId, .value 11, .value 8, some 1, true⟩])
  | .rest (.inr (.order _ _)) => some (.ok [sampleHeldOrder])
  | .rest request => some (sampleExchange request)

/-- The account is read, the instrument validated and the session connected. -/
def sampleConnecting : List (TradingPool → List TradingTurn) :=
  [fun _ => [.start (.rest .accountConfig)], tradingSystem.turnsOf sampleAnswers 0 9,
    fun _ => [.start (.validateTradingInstrument sampleRequested sampleConfig)],
    tradingSystem.turnsOf sampleAnswers 1 50,
    fun _ => [.start .prepareOrderCommandPath], tradingSystem.turnsOf sampleAnswers 2 20]

/-- An order is sent over the session, and its acknowledgement does not arrive in time. -/
def sampleInDoubt : List (TradingPool → List TradingTurn) :=
  sampleConnecting ++ [fun _ => [.start (.placeOrder sampleCommand)],
    tradingSystem.turnsOf sampleAnswers 3 40, fun _ => [.outside (.sent true), .outside .timeout],
    tradingSystem.turnsOf sampleAnswers 3 20]

def sampleTrading : TradingPool := ⟨.new (.new 0 1000 [sampleInstId]) true, []⟩

/-- How a call ended, if it has. -/
def tradingOutcome (pool : TradingPool) (k : ℕ) : Option (Except OkxError (Option OkxOrderAck)) :=
  (pool.jobs[k]?.bind (·.rest)).bind (·.outcome?)

/-- The order was handed over once, with what its call was told, and the call returns what was
found. -/
theorem commands_submitted_once_inDoubt : ∃ last entry,
    tradingSystem.run sampleTrading (tradingSystem.script sampleInDoubt sampleTrading) = some last ∧
      tradingOutcome last 3 = some (.ok (some (reconciledOrderAck sampleHeldOrder))) ∧
      entry ∈ tradingSystem.observed handedOver sampleTrading
        (tradingSystem.script sampleInDoubt sampleTrading) ∧ entry.1 = 3 ∧
      (TradingCall.placeOrder sampleCommand).Submits entry.2 ∧
      (∀ ground ∈ (TradingCall.placeOrder sampleCommand).grounds entry.2.request,
        tradingSystem.WasTold sampleTrading.shared
          (tradingSystem.script sampleInDoubt sampleTrading) 3 ground.ToldBy) ∧
      ∀ k, charged k (tradingSystem.observed handedOver sampleTrading
        (tradingSystem.script sampleInDoubt sampleTrading)) ≤ 1 := by
  have hruns : (tradingSystem.run sampleTrading
      (tradingSystem.script sampleInDoubt sampleTrading)).any fun last =>
        decide (tradingOutcome last 3 = some (.ok (some (reconciledOrderAck sampleHeldOrder))) ∧
          last.jobs[3]?.map (·.call) = some (.placeOrder sampleCommand)) := by decide +kernel
  have hlog : 0 < charged 3 (tradingSystem.observed handedOver sampleTrading
      (tradingSystem.script sampleInDoubt sampleTrading)) := by decide +kernel
  obtain ⟨last, hlast, hended⟩ := (Option.any_eq_true _ _).1 hruns
  obtain ⟨houtcome, hcall⟩ := of_decide_eq_true hended
  obtain ⟨⟨k, submission⟩, hentry, hcounts⟩ := List.countP_pos_iff.1 hlog
  obtain ⟨hk, hcounts⟩ := Bool.and_eq_true_iff.1 hcounts
  obtain rfl : k = 3 := of_decide_eq_true hk
  obtain ⟨hcharged, hsubmitted, -⟩ := commands_submitted_once hlast
  obtain ⟨job, hjob, hsubmits, htold⟩ := hsubmitted _ hentry hcounts
  rw [hjob] at hcall
  obtain ⟨call, task⟩ := job
  obtain rfl : call = .placeOrder sampleCommand := Option.some.inj hcall
  exact ⟨last, _, hlast, houtcome, hentry, rfl, hsubmits, htold, hcharged⟩

end OkxTrading
