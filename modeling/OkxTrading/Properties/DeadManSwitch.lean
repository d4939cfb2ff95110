import Mathlib.Data.List.Basic
import OkxTrading.Effect.Trace
import OkxTrading.Runtime.CancelAllAfter

/-!
# The dead-man switch

Over every run of the engine, the heartbeat, the exchange and the clock.

* `timeout_agree` — the configuration and the runtime accept the same intervals.
* `PhaseLog` — the log of the engine in each phase; a disarm only follows a clean shutdown.
* `Spacing` — what a timer that is due says of the last refresh.
* `Flight` — after the disarm nothing in flight arms the switch.
* `switch_armed_when_needed` — the properties together.
-/

namespace OkxTrading

open Effect

/-! ## The timeout -/

/-- **Both copies of the timeout agree.** -/
theorem timeout_agree {pollIntervalMs seconds : ℕ} :
    cancelAllAfterTimeoutSeconds pollIntervalMs = .ok seconds ↔
      cancelAllAfterTimeout pollIntervalMs = .ok ⟨seconds⟩ := by
  unfold cancelAllAfterTimeoutSeconds cancelAllAfterTimeout OkxCancelAllAfterTimeout.new
  split
  · simp
  · rename_i requested _
    have hmin : okxCancelAllAfterMinTimeoutSecs ≤ max requested okxCancelAllAfterMinTimeoutSecs :=
      le_max_right _ _
    by_cases hmax : max requested okxCancelAllAfterMinTimeoutSecs ≤ okxCancelAllAfterMaxTimeoutSecs
    · simp [hmin, hmax]
    · simp [hmax]

theorem seconds_bounds {pollIntervalMs : ℕ} {timeout : OkxCancelAllAfterTimeout}
    (h : cancelAllAfterTimeout pollIntervalMs = .ok timeout) : 10 ≤ timeout.seconds := by
  unfold cancelAllAfterTimeout at h
  split at h
  · cases h
  · rename_i requested _
    unfold OkxCancelAllAfterTimeout.new at h
    by_cases hmax : max requested okxCancelAllAfterMinTimeoutSecs ≤ okxCancelAllAfterMaxTimeoutSecs
    · rw [if_pos ⟨le_max_right _ _, hmax⟩] at h
      cases h
      exact le_max_right _ _
    · rw [if_neg fun hbounds => hmax hbounds.2] at h
      cases h

/-- Two periods, with the lag of their timers and the tolerance of the interval, are shorter than
the timeout. -/
def TimersInTime (timerLagMs : ℕ) (timeout : OkxCancelAllAfterTimeout) : Prop :=
  2 * cancelAllAfterHeartbeatPeriodMs timeout + 2 * timerLagMs + 5 <
    timeout.seconds * millisPerSecond

/-- Every accepted timeout leaves room for a lag of a second and a half. -/
theorem timersInTime_of_accepted {pollIntervalMs timerLagMs : ℕ}
    {timeout : OkxCancelAllAfterTimeout} (h : cancelAllAfterTimeout pollIntervalMs = .ok timeout)
    (hlag : timerLagMs ≤ 1500) : TimersInTime timerLagMs timeout := by
  have hseconds := seconds_bounds h
  unfold TimersInTime cancelAllAfterHeartbeatPeriodMs cancelAllAfterRefreshMultiplier
    millisPerSecond
  omega

/-! ## Shutdown and disarm -/

/-- A shutdown in which everything succeeded. -/
def cleanShutdown (strategies : ℕ) : List SwitchLog :=
  .operatorShutdown :: List.replicate strategies (.strategyShutdown (.ok ())) ++
    [.serverTimeRefresherStopped (.ok ()), .heartbeatStopped (.ok ())]

/-- No disarm was sent. -/
def NoDisarm (system : SwitchSystem) : Prop := ∀ request ∈ system.sent, request.kind ≠ .disarm

/-- The log in each phase, as far as it decides on a disarm. -/
def PhaseLog (system : SwitchSystem) (log : List SwitchLog) : Prop :=
  match system.phase with
  | .created | .arming _ | .running => log = [] ∧ NoDisarm system
  | .shuttingDownStrategies left error => left ≤ system.strategies ∧
      (error = none → log = .operatorShutdown ::
        List.replicate (system.strategies - left) (.strategyShutdown (.ok ()))) ∧ NoDisarm system
  | .stoppingHeartbeat error | .joiningHeartbeat error =>
      (error = none → log = .operatorShutdown ::
        List.replicate system.strategies (.strategyShutdown (.ok ())) ++
          [.serverTimeRefresherStopped (.ok ())]) ∧ NoDisarm system
  | .cleanedUp error => (error = none → log = cleanShutdown system.strategies) ∧ NoDisarm system
  | .disarming _ => log = cleanShutdown system.strategies ++ [.disarmSent]
  | .returned _ => NoDisarm system ∨
      ∃ result, log = cleanShutdown system.strategies ++ [.disarmSent, .finished result]

variable {timerLagMs : ℕ} {system next : SwitchSystem} {log out : List SwitchLog}
  {heartbeat : Heartbeat}

theorem keepFirst_eq_none {error : Option Message} {result : Result Unit} :
    keepFirst error result = none ↔ error = none ∧ result = .ok () := by
  cases result with
  | ok u => cases u; simp [keepFirst]
  | error err => simp [keepFirst]

theorem NoDisarm.send {kind : SwitchRequestKind} (h : NoDisarm system) (hkind : kind ≠ .disarm) :
    NoDisarm (system.send kind) := by
  intro request hrequest
  rcases List.mem_append.1 hrequest with hrequest | hrequest
  · exact h request hrequest
  · rw [List.mem_singleton.1 hrequest]
    exact hkind

/-- What a step of the heartbeat can do: it changes itself, sends a refresh, or takes an answer. -/
theorem heartbeatStep_cases {action : HeartbeatAction}
    (h : heartbeatStep system heartbeat action = some next) :
    (∃ heartbeat', next = { system with heartbeat := some heartbeat' }) ∨
    (∃ heartbeat', next = { system.send .refresh with
      unanswered := system.unanswered ++ [system.sent.length], heartbeat := some heartbeat' }) ∨
    ∃ heartbeat' request, request ∉ system.inFlight ∧ next = { system with
      unanswered := system.unanswered.erase request, heartbeat := some heartbeat' } := by
  cases action with
  | tick =>
      simp only [heartbeatStep] at h
      split at h
      · cases h
        exact .inl ⟨_, rfl⟩
      · cases h
  | sendRefresh =>
      simp only [heartbeatStep] at h
      split at h
      · cases h
        exact .inr (.inl ⟨_, rfl⟩)
      · cases h
  | refreshAnswered accepted =>
      simp only [heartbeatStep] at h
      split at h
      · split at h
        · rename_i hanswered
          cases h
          exact .inr (.inr ⟨_, _, hanswered, rfl⟩)
        · cases h
      · cases h
  | refreshFailed =>
      simp only [heartbeatStep] at h
      split at h
      · cases h
        exact .inl ⟨_, rfl⟩
      · cases h
  | stopTaken =>
      simp only [heartbeatStep] at h
      split at h
      · cases h
        exact .inl ⟨_, rfl⟩
      · cases h

/-- The log of a phase does not depend on the heartbeat, the exchange or the clock, and a refresh is
no disarm. -/
theorem PhaseLog.ofSame (h : PhaseLog system log) (hphase : next.phase = system.phase)
    (hstrategies : next.strategies = system.strategies) (hsent : NoDisarm system → NoDisarm next) :
    PhaseLog next log := by
  unfold PhaseLog at h ⊢
  rw [hphase]
  split <;> simp only [*] at h ⊢ <;> tauto

theorem finishShutdown_eq {result : Result Unit}
    (h : system.finishShutdown result = some (out, next)) :
    out = [.finished result] ∧ next = system.returning result := by
  cases h
  exact ⟨rfl, rfl⟩

/-- A step of the engine. -/
theorem engineStep_phaseLog {action : EngineAction} (h : PhaseLog system log)
    (hstep : engineStep system action = some (out, next)) : PhaseLog next (log ++ out) := by
  unfold PhaseLog at h
  cases action with
  | startup =>
      simp only [engineStep] at hstep
      split at hstep
      · rename_i hphase
        rw [hphase] at h
        split at hstep
        · cases hstep
          rw [List.append_nil]
          exact h
        · cases hstep
          rw [List.append_nil]
          exact ⟨h.1, h.2.send (by decide)⟩
      · cases hstep
  | armAnswered =>
      simp only [engineStep] at hstep
      split at hstep
      · rename_i hphase _
        rw [hphase] at h
        split at hstep
        · cases hstep
          rw [List.append_nil]
          exact h
        · cases hstep
      · cases hstep
  | fatal error =>
      simp only [engineStep] at hstep
      split at hstep
      · rename_i hphase
        rw [hphase] at h
        cases hstep
        exact .inl h.2
      · rename_i hphase
        rw [hphase] at h
        cases hstep
        exact .inl h.2
      · rename_i hphase
        rw [hphase] at h
        cases hstep
        exact .inl h.2
      · cases hstep
  | escape error =>
      simp only [engineStep] at hstep
      split at hstep
      · rename_i hphase
        rw [hphase] at h
        cases hstep
        exact .inl h.2
      · cases hstep
  | ctrlC =>
      simp only [engineStep] at hstep
      split at hstep
      · rename_i hphase
        rw [hphase] at h
        cases hstep
        refine ⟨le_rfl, fun _ => ?_, h.2⟩
        rw [h.1, Nat.sub_self]
        rfl
      · cases hstep
  | strategyShutdown result =>
      simp only [engineStep] at hstep
      split at hstep
      · rename_i left error hphase
        rw [hphase] at h
        obtain ⟨hleft, hlog, hsent⟩ := h
        cases hstep
        refine ⟨Nat.le_of_succ_le hleft, fun hnone => ?_, hsent⟩
        obtain ⟨hnone, rfl⟩ := keepFirst_eq_none.1 hnone
        have hdone : system.strategies - left = system.strategies - (left + 1) + 1 := by omega
        rw [hlog hnone, hdone, List.replicate_succ', List.cons_append]
      · cases hstep
  | stopServerTimeRefresher result =>
      simp only [engineStep] at hstep
      split at hstep
      · rename_i error hphase
        rw [hphase] at h
        obtain ⟨-, hlog, hsent⟩ := h
        cases hstep
        refine ⟨fun hnone => ?_, hsent⟩
        obtain ⟨hnone, rfl⟩ := keepFirst_eq_none.1 hnone
        rw [hlog hnone, Nat.sub_zero]
      · cases hstep
  | signalHeartbeat =>
      simp only [engineStep] at hstep
      split at hstep
      · rename_i error hphase
        rw [hphase] at h
        split at hstep
        · cases hstep
          refine ⟨fun hnone => ?_, h.2⟩
          rw [h.1 hnone, List.append_assoc]
          rfl
        · cases hstep
          rw [List.append_nil]
          exact h
      · cases hstep
  | joinHeartbeat panicked =>
      simp only [engineStep] at hstep
      split at hstep
      · rename_i error heartbeat hphase _
        rw [hphase] at h
        split at hstep
        · cases hstep
          refine ⟨fun hnone => ?_, h.2⟩
          obtain ⟨hnone, hresult⟩ := keepFirst_eq_none.1 hnone
          rw [h.1 hnone, hresult, List.append_assoc]
          rfl
        · cases hstep
      · cases hstep
  | disarm =>
      simp only [engineStep] at hstep
      split at hstep
      · rename_i hphase
        rw [hphase] at h
        split at hstep
        · obtain ⟨rfl, rfl⟩ := finishShutdown_eq hstep
          exact .inl h.2
        · cases hstep
          exact congrArg (· ++ [SwitchLog.disarmSent]) (h.1 rfl)
      · rename_i error hphase
        rw [hphase] at h
        obtain ⟨rfl, rfl⟩ := finishShutdown_eq hstep
        exact .inl h.2
      · cases hstep
  | disarmAnswered accepted =>
      simp only [engineStep] at hstep
      split at hstep
      · rename_i request hphase
        rw [hphase] at h
        split at hstep
        · split at hstep
          · obtain ⟨rfl, rfl⟩ := finishShutdown_eq hstep
            exact .inr ⟨_, by rw [h, List.append_assoc]; rfl⟩
          · obtain ⟨rfl, rfl⟩ := finishShutdown_eq hstep
            exact .inr ⟨_, by rw [h, List.append_assoc]; rfl⟩
        · cases hstep
      · cases hstep
  | disarmFailed =>
      simp only [engineStep] at hstep
      split at hstep
      · rename_i request hphase
        rw [hphase] at h
        obtain ⟨rfl, rfl⟩ := finishShutdown_eq hstep
        exact .inr ⟨_, by rw [h, List.append_assoc]; rfl⟩
      · cases hstep

/-- Any step. -/
theorem switchStep_phaseLog {action : SwitchAction} (h : PhaseLog system log)
    (hstep : switchStep timerLagMs system action = some (out, next)) :
    PhaseLog next (log ++ out) := by
  cases action with
  | elapse ms =>
      simp only [switchStep] at hstep
      split at hstep
      · cases hstep
        rw [List.append_nil]
        exact h.ofSame rfl rfl fun hsent => hsent
      · cases hstep
  | process request =>
      simp only [switchStep] at hstep
      split at hstep
      · split at hstep
        · cases hstep
          rw [List.append_nil]
          exact h.ofSame rfl rfl fun hsent => hsent
        · cases hstep
      · cases hstep
  | heartbeat action =>
      simp only [switchStep] at hstep
      split at hstep
      · obtain ⟨after, hafter, hnext⟩ := Option.map_eq_some_iff.1 hstep
        cases hnext
        rw [List.append_nil]
        rcases heartbeatStep_cases hafter with ⟨_, rfl⟩ | ⟨_, rfl⟩ | ⟨_, _, -, rfl⟩
        · exact h.ofSame rfl rfl fun hsent => hsent
        · exact h.ofSame rfl rfl fun hsent => hsent.send (by decide)
        · exact h.ofSame rfl rfl fun hsent => hsent
      · cases hstep
  | engine action => exact engineStep_phaseLog h hstep

/-! ## Requests in flight -/

/-- A request in flight that is no disarm. -/
def Arms (system : SwitchSystem) (request : ℕ) : Prop :=
  request ∈ system.inFlight ∧ ∃ sent, system.sent[request]? = some sent ∧ sent.kind ≠ .disarm

/-- The disarm was sent, or nothing had to be disarmed. -/
def PastDisarm (system : SwitchSystem) : Prop :=
  (∃ request, system.phase = .disarming request) ∨ system.phase = .returned (.ok ())

/-- What is in flight: before the engine returns, an arming request only as long as somebody waits
for its answer; after the disarm, none. -/
structure Flight (system : SwitchSystem) : Prop where
  nodup : system.inFlight.Nodup
  bound : ∀ request ∈ system.inFlight, request < system.sent.length
  awaited : (∀ result, system.phase ≠ .returned result) → ∀ request, Arms system request →
    request ∈ system.unanswered ∨ system.phase = .arming request
  alone : (∃ error, system.phase = .cleanedUp error) ∨ PastDisarm system → system.heartbeat = none
  settled : PastDisarm system → ∀ request, ¬ Arms system request
  disarming : ∀ request, system.phase = .disarming request →
    (∃ sent, system.sent[request]? = some sent ∧ sent.kind = .disarm) ∧
      (request ∉ system.inFlight → system.armed = false)
  disarmed : system.phase = .returned (.ok ()) → system.armed = false
  unused : system.cancelAllAfterTimeout = none →
    system.sent = [] ∧ system.armed = false ∧ system.heartbeat = none

namespace Flight

theorem start {strategies : ℕ} {timeout : Option OkxCancelAllAfterTimeout} :
    Flight (SwitchSystem.start strategies timeout) := by
  constructor <;> simp [SwitchSystem.start, Arms, PastDisarm]

/-- The requests are the same, and the phase is not past a disarm. -/
theorem ofSame (h : Flight system) (hsent : next.sent = system.sent)
    (hflight : next.inFlight = system.inFlight) (hunanswered : next.unanswered = system.unanswered)
    (hphase : ∀ request, system.phase = .arming request → Arms system request →
      next.phase = .arming request ∨ ∃ result, next.phase = .returned result)
    (hreturned : ∀ result, system.phase = .returned result → next.phase = .returned result)
    (hpast : ¬ PastDisarm next)
    (halone : ∀ error, next.phase = .cleanedUp error → next.heartbeat = none)
    (hunused : next.cancelAllAfterTimeout = none →
      next.sent = [] ∧ next.armed = false ∧ next.heartbeat = none) : Flight next := by
  have harms : ∀ request, Arms next request ↔ Arms system request := fun request => by
    unfold Arms
    rw [hsent, hflight]
  constructor
  · rw [hflight]
    exact h.nodup
  · rw [hflight, hsent]
    exact h.bound
  · intro hrunning request hrequest
    have hbefore := (harms request).1 hrequest
    rw [hunanswered]
    rcases h.awaited (fun result hresult => hrunning result (hreturned result hresult)) request
      hbefore with hwaiting | hwaiting
    · exact .inl hwaiting
    · rcases hphase request hwaiting hbefore with hsame | ⟨result, hresult⟩
      · exact .inr hsame
      · exact absurd hresult (hrunning result)
  · rintro (⟨error, herror⟩ | hdisarm)
    · exact halone error herror
    · exact absurd hdisarm hpast
  · exact fun hdisarm => absurd hdisarm hpast
  · exact fun request hrequest => absurd (.inl ⟨request, hrequest⟩) hpast
  · exact fun hreturned => absurd (.inr hreturned) hpast
  · exact hunused

theorem arms_send {kind : SwitchRequestKind} (h : Flight system) {request : ℕ} :
    Arms (system.send kind) request ↔
      Arms system request ∨ request = system.sent.length ∧ kind ≠ .disarm := by
  unfold Arms SwitchSystem.send
  simp only [List.mem_append, List.mem_singleton]
  constructor
  · rintro ⟨hmem | rfl, sent, hsent, hkind⟩
    · rw [List.getElem?_append_left (h.bound request hmem)] at hsent
      exact .inl ⟨hmem, sent, hsent, hkind⟩
    · rw [List.getElem?_append_right le_rfl, Nat.sub_self] at hsent
      cases hsent
      exact .inr ⟨rfl, hkind⟩
  · rintro (⟨hmem, sent, hsent, hkind⟩ | ⟨rfl, hkind⟩)
    · rw [List.getElem?_append_left (h.bound request hmem)]
      exact ⟨.inl hmem, sent, hsent, hkind⟩
    · rw [List.getElem?_append_right le_rfl, Nat.sub_self]
      exact ⟨.inr rfl, _, rfl, hkind⟩

theorem nodup_send (h : Flight system) (kind : SwitchRequestKind) :
    (system.send kind).inFlight.Nodup := by
  refine List.nodup_append.2 ⟨h.nodup, List.nodup_singleton _, fun a ha b hb => ?_⟩
  have hbound := h.bound a ha
  rw [List.mem_singleton.1 hb]
  omega

theorem bound_send (h : Flight system) (kind : SwitchRequestKind) :
    ∀ request ∈ (system.send kind).inFlight, request < (system.send kind).sent.length := by
  intro request hrequest
  simp only [SwitchSystem.send, List.length_append, List.length_singleton]
  rcases List.mem_append.1 hrequest with hrequest | hrequest
  · exact Nat.lt_succ_of_lt (h.bound request hrequest)
  · rw [List.mem_singleton.1 hrequest]
    exact Nat.lt_succ_self _

theorem not_past_of_heartbeat (h : Flight system) (hheartbeat : system.heartbeat = some heartbeat) :
    ¬ PastDisarm system := by
  intro hpast
  rw [h.alone (.inr hpast)] at hheartbeat
  cases hheartbeat

/-- The exchange processes a request. -/
theorem process (h : Flight system) {request : ℕ} {sent : SwitchRequest}
    (hsent : system.sent[request]? = some sent) (hmem : request ∈ system.inFlight) :
    Flight { system with
      inFlight := system.inFlight.erase request, armed := decide (sent.kind ≠ .disarm) } := by
  have harms : ∀ other, Arms { system with
      inFlight := system.inFlight.erase request, armed := decide (sent.kind ≠ .disarm) } other →
        Arms system other :=
    fun other hother => ⟨List.mem_of_mem_erase hother.1, hother.2⟩
  have hkind : PastDisarm system → sent.kind = .disarm := by
    intro hpast
    by_contra hkind
    exact h.settled hpast request ⟨hmem, sent, hsent, hkind⟩
  constructor
  · exact h.nodup.erase request
  · exact fun other hother => h.bound other (List.mem_of_mem_erase hother)
  · exact fun hrunning other hother => h.awaited hrunning other (harms other hother)
  · exact h.alone
  · exact fun hpast other hother => h.settled hpast other (harms other hother)
  · intro other hphase
    refine ⟨(h.disarming other hphase).1, fun _ => ?_⟩
    simp [hkind (.inl ⟨other, hphase⟩)]
  · intro hphase
    simp [hkind (.inr hphase)]
  · intro hnone
    rw [(h.unused hnone).1] at hsent
    simp at hsent

/-- A step of the heartbeat. -/
theorem heartbeatStep {action : HeartbeatAction} (h : Flight system)
    (hheartbeat : system.heartbeat = some heartbeat)
    (hstep : OkxTrading.heartbeatStep system heartbeat action = some next) : Flight next := by
  have hpast := h.not_past_of_heartbeat hheartbeat
  have hclean : ∀ error, system.phase ≠ .cleanedUp error := by
    intro error hphase
    rw [h.alone (.inl ⟨error, hphase⟩)] at hheartbeat
    cases hheartbeat
  have hused : system.cancelAllAfterTimeout ≠ none := by
    intro hnone
    rw [(h.unused hnone).2.2] at hheartbeat
    cases hheartbeat
  rcases heartbeatStep_cases hstep with ⟨_, rfl⟩ | ⟨_, rfl⟩ | ⟨_, request, hanswered, rfl⟩
  · exact h.ofSame rfl rfl rfl (fun _ hphase _ => .inl hphase) (fun _ hphase => hphase) hpast
      (fun error hphase => absurd hphase (hclean error)) fun hnone => absurd hnone hused
  · constructor
    · exact h.nodup_send .refresh
    · exact h.bound_send .refresh
    · intro hrunning request hrequest
      rcases h.arms_send.1 hrequest with hbefore | ⟨rfl, -⟩
      · exact (h.awaited hrunning request hbefore).imp_left fun hmem => List.mem_append_left _ hmem
      · exact .inl (List.mem_append_right _ (List.mem_singleton_self _))
    · rintro (⟨error, hphase⟩ | hdisarm)
      · exact absurd hphase (hclean error)
      · exact absurd hdisarm hpast
    · exact fun hdisarm => absurd hdisarm hpast
    · exact fun request hphase => absurd (.inl ⟨request, hphase⟩) hpast
    · exact fun hphase => absurd (.inr hphase) hpast
    · exact fun hnone => absurd hnone hused
  · constructor
    · exact h.nodup
    · exact h.bound
    · intro hrunning other hother
      refine (h.awaited hrunning other hother).imp_left fun hwaiting => ?_
      have hother : other ≠ request := by
        rintro rfl
        exact hanswered hother.1
      exact (List.mem_erase_of_ne hother).2 hwaiting
    · rintro (⟨error, hphase⟩ | hdisarm)
      · exact absurd hphase (hclean error)
      · exact absurd hdisarm hpast
    · exact fun hdisarm => absurd hdisarm hpast
    · exact fun request hphase => absurd (.inl ⟨request, hphase⟩) hpast
    · exact fun hphase => absurd (.inr hphase) hpast
    · exact fun hnone => absurd hnone hused

/-- The engine returns with an error: nothing is promised of the switch. -/
theorem returning_error (h : Flight system) {error : Message} :
    Flight (system.returning (.error error)) := by
  have hpast : ¬ PastDisarm (system.returning (.error error)) := by
    rintro (⟨request, hphase⟩ | hphase)
    · cases hphase
    · cases hphase
  constructor
  · exact h.nodup
  · exact h.bound
  · exact fun hrunning => absurd rfl (hrunning (.error error))
  · exact fun _ => rfl
  · exact fun hdisarm => absurd hdisarm hpast
  · exact fun request hphase => by cases hphase
  · exact fun hphase => by cases hphase
  · exact fun hnone => ⟨(h.unused hnone).1, (h.unused hnone).2.1, rfl⟩

/-- The engine returns after a disarm that was processed. -/
theorem returning_ok (h : Flight system) (hsettled : ∀ request, ¬ Arms system request)
    (harmed : system.armed = false) {armed armAttempted : Bool} :
    Flight (SwitchSystem.returning { system with
      cancelAllAfterArmed := armed, cancelAllAfterArmAttempted := armAttempted } (.ok ())) := by
  constructor
  · exact h.nodup
  · exact h.bound
  · exact fun hrunning => absurd rfl (hrunning (.ok ()))
  · exact fun _ => rfl
  · exact fun _ => hsettled
  · exact fun request hphase => by cases hphase
  · exact fun _ => harmed
  · exact fun hnone => ⟨(h.unused hnone).1, harmed, rfl⟩

/-- A phase between the arming and the disarm. -/
theorem between (h : Flight system) {phase : EnginePhase}
    (hbefore : ∀ request, system.phase ≠ .arming request)
    (hrunning : ∀ result, system.phase ≠ .returned result)
    (hphase : ∀ error, phase ≠ .cleanedUp error) (hpast : ¬ PastDisarm { system with phase }) :
    Flight { system with phase } :=
  h.ofSame rfl rfl rfl (fun request harming _ => absurd harming (hbefore request))
    (fun result hresult => absurd hresult (hrunning result)) hpast
    (fun error herror => absurd herror (hphase error)) h.unused

/-- The arming request of the startup. -/
theorem arm (h : Flight system) {timeout : OkxCancelAllAfterTimeout}
    (htimeout : system.cancelAllAfterTimeout = some timeout) (hphase : system.phase = .created) :
    Flight { system.send .arm with
      cancelAllAfterArmAttempted := true, phase := .arming system.sent.length } := by
  constructor
  · exact h.nodup_send .arm
  · exact h.bound_send .arm
  · intro _ request hrequest
    rcases h.arms_send.1 hrequest with hbefore | ⟨rfl, -⟩
    · refine .inl ((h.awaited (by simp [hphase]) request hbefore).resolve_right ?_)
      simp [hphase]
    · exact .inr rfl
  · simp [PastDisarm]
  · simp [PastDisarm]
  · exact fun request harming => by cases harming
  · exact fun hreturned => by cases hreturned
  · intro hnone
    rw [show system.cancelAllAfterTimeout = none from hnone] at htimeout
    cases htimeout

/-- The heartbeat is gone before the disarm. -/
theorem cleanedUp (h : Flight system) {error : Option Message}
    (hbefore : ∀ request, system.phase ≠ .arming request)
    (hrunning : ∀ result, system.phase ≠ .returned result) (hheartbeat : system.heartbeat = none) :
    Flight { system with phase := .cleanedUp error } :=
  h.ofSame rfl rfl rfl (fun request harming _ => absurd harming (hbefore request))
    (fun result hresult => absurd hresult (hrunning result)) (by simp [PastDisarm])
    (fun _ _ => hheartbeat) h.unused

/-- The disarm, where nothing in flight arms the switch. -/
theorem disarm (h : Flight system) {timeout : OkxCancelAllAfterTimeout}
    (htimeout : system.cancelAllAfterTimeout = some timeout) (hheartbeat : system.heartbeat = none)
    (hsettled : ∀ request, ¬ Arms system request) :
    Flight { system.send .disarm with phase := .disarming system.sent.length } := by
  have hnothing : ∀ request, ¬ Arms (system.send .disarm) request := by
    intro request hrequest
    rcases h.arms_send.1 hrequest with hbefore | ⟨-, hkind⟩
    · exact hsettled request hbefore
    · exact hkind rfl
  constructor
  · exact h.nodup_send .disarm
  · exact h.bound_send .disarm
  · exact fun _ request hrequest => absurd hrequest (hnothing request)
  · exact fun _ => hheartbeat
  · exact fun _ => hnothing
  · rintro request ⟨⟩
    refine ⟨⟨⟨.disarm, system.nowMs⟩, ?_, rfl⟩, fun hmem => ?_⟩
    · simp [SwitchSystem.send]
    · exact absurd (List.mem_append_right _ (List.mem_singleton_self _)) hmem
  · exact fun hreturned => by cases hreturned
  · intro hnone
    rw [show system.cancelAllAfterTimeout = none from hnone] at htimeout
    cases htimeout

/-- A step of the engine; the disarm is only sent where no refresh waits for its answer. -/
theorem engineStep {action : EngineAction} (h : Flight system)
    (hanswered : action = .disarm → system.unanswered = [])
    (hstep : OkxTrading.engineStep system action = some (out, next)) : Flight next := by
  cases action with
  | startup =>
      simp only [OkxTrading.engineStep] at hstep
      split at hstep
      · rename_i hphase
        split at hstep
        · cases hstep
          exact h.between (by simp [hphase]) (by simp [hphase]) (by simp) (by simp [PastDisarm])
        · rename_i timeout htimeout
          cases hstep
          exact h.arm htimeout hphase
      · cases hstep
  | armAnswered =>
      simp only [OkxTrading.engineStep] at hstep
      split at hstep
      · rename_i request timeout hphase htimeout
        split at hstep
        · rename_i hprocessed
          cases hstep
          refine h.ofSame rfl rfl rfl (fun other hother harms => ?_)
            (fun result hresult => by simp [hphase] at hresult) (by simp [PastDisarm])
            (fun error herror => by cases herror) (fun hnone => by simp [htimeout] at hnone)
          -- The request that is awaited was processed.
          rw [hphase] at hother
          cases hother
          exact absurd harms.1 hprocessed
        · cases hstep
      · cases hstep
  | fatal error =>
      simp only [OkxTrading.engineStep] at hstep
      split at hstep <;> cases hstep <;> exact h.returning_error
  | escape error =>
      simp only [OkxTrading.engineStep] at hstep
      split at hstep
      · cases hstep
        exact h.returning_error
      · cases hstep
  | ctrlC =>
      simp only [OkxTrading.engineStep] at hstep
      split at hstep
      · rename_i hphase
        cases hstep
        exact h.between (by simp [hphase]) (by simp [hphase]) (by simp) (by simp [PastDisarm])
      · cases hstep
  | strategyShutdown result =>
      simp only [OkxTrading.engineStep] at hstep
      split at hstep
      · rename_i hphase
        cases hstep
        exact h.between (by simp [hphase]) (by simp [hphase]) (by simp) (by simp [PastDisarm])
      · cases hstep
  | stopServerTimeRefresher result =>
      simp only [OkxTrading.engineStep] at hstep
      split at hstep
      · rename_i hphase
        cases hstep
        exact h.between (by simp [hphase]) (by simp [hphase]) (by simp) (by simp [PastDisarm])
      · cases hstep
  | signalHeartbeat =>
      simp only [OkxTrading.engineStep] at hstep
      split at hstep
      · rename_i error hphase
        split at hstep
        · rename_i hheartbeat
          cases hstep
          exact h.cleanedUp (by simp [hphase]) (by simp [hphase]) hheartbeat
        · rename_i heartbeat hheartbeat
          cases hstep
          refine h.ofSame rfl rfl rfl (fun other hother => by simp [hphase] at hother)
            (fun result hresult => by simp [hphase] at hresult) (by simp [PastDisarm])
            (fun error herror => by cases herror) fun hnone => ?_
          rw [(h.unused hnone).2.2] at hheartbeat
          cases hheartbeat
      · cases hstep
  | joinHeartbeat panicked =>
      simp only [OkxTrading.engineStep] at hstep
      split at hstep
      · rename_i error heartbeat hphase _
        split at hstep
        · cases hstep
          refine h.ofSame rfl rfl rfl (fun other hother => by simp [hphase] at hother)
            (fun result hresult => by simp [hphase] at hresult) (by simp [PastDisarm])
            (fun _ _ => rfl) fun hnone => ⟨(h.unused hnone).1, (h.unused hnone).2.1, rfl⟩
        · cases hstep
      · cases hstep
  | disarm =>
      simp only [OkxTrading.engineStep] at hstep
      split at hstep
      · rename_i hphase
        have hsettled : ∀ request, ¬ Arms system request := by
          intro request harms
          rcases h.awaited (by simp [hphase]) request harms with hwaiting | hwaiting
          · rw [hanswered rfl] at hwaiting
            cases hwaiting
          · rw [hphase] at hwaiting
            cases hwaiting
        split at hstep
        · rename_i hnone
          obtain ⟨-, rfl⟩ := finishShutdown_eq hstep
          exact h.returning_ok hsettled (h.unused hnone).2.1
        · rename_i timeout htimeout
          cases hstep
          exact h.disarm htimeout (h.alone (.inl ⟨_, hphase⟩)) hsettled
      · obtain ⟨-, rfl⟩ := finishShutdown_eq hstep
        exact h.returning_error
      · cases hstep
  | disarmAnswered accepted =>
      simp only [OkxTrading.engineStep] at hstep
      split at hstep
      · rename_i request hphase
        split at hstep
        · rename_i hprocessed
          split at hstep
          · obtain ⟨-, rfl⟩ := finishShutdown_eq hstep
            exact h.returning_ok (h.settled (.inl ⟨_, hphase⟩))
              ((h.disarming request hphase).2 hprocessed)
          · obtain ⟨-, rfl⟩ := finishShutdown_eq hstep
            exact h.returning_error
        · cases hstep
      · cases hstep
  | disarmFailed =>
      simp only [OkxTrading.engineStep] at hstep
      split at hstep
      · obtain ⟨-, rfl⟩ := finishShutdown_eq hstep
        exact h.returning_error
      · cases hstep

/-- Any step. -/
theorem switchStep {action : SwitchAction} (h : Flight system)
    (hanswered : action = .engine .disarm → system.unanswered = [])
    (hstep : OkxTrading.switchStep timerLagMs system action = some (out, next)) : Flight next := by
  cases action with
  | elapse ms =>
      simp only [OkxTrading.switchStep] at hstep
      split at hstep
      · cases hstep
        exact ⟨h.nodup, h.bound, h.awaited, h.alone, h.settled, h.disarming, h.disarmed, h.unused⟩
      · cases hstep
  | process request =>
      simp only [OkxTrading.switchStep] at hstep
      split at hstep
      · rename_i sent hsent
        split at hstep
        · rename_i hmem
          cases hstep
          exact h.process hsent hmem
        · cases hstep
      · cases hstep
  | heartbeat action =>
      simp only [OkxTrading.switchStep] at hstep
      split at hstep
      · rename_i heartbeat hheartbeat
        obtain ⟨after, hafter, hnext⟩ := Option.map_eq_some_iff.1 hstep
        cases hnext
        exact h.heartbeatStep hheartbeat hafter
      · cases hstep
  | engine action => exact h.engineStep (fun hdisarm => hanswered (congrArg _ hdisarm)) hstep

end Flight

/-! ## The distance of the refreshes -/

/-- When the heartbeat sent its refreshes. -/
def refreshTimes (sent : List SwitchRequest) : List ℕ :=
  (sent.filter fun request => decide (request.kind = .refresh)).map (·.atMs)

/-- Consecutive refreshes are less than the timeout apart. -/
def Spaced (timeout : OkxCancelAllAfterTimeout) (times : List ℕ) : Prop :=
  times.IsChain fun earlier later => later < earlier + timeout.seconds * millisPerSecond

/-- The last refresh, if any, was at a time like this. -/
def LastRefresh (times : List ℕ) (P : ℕ → Prop) : Prop := ∀ time ∈ times.getLast?, P time

/-- What the timers of the heartbeat say of its last refresh. -/
def Timers (timerLagMs : ℕ) (system : SwitchSystem) (heartbeat : Heartbeat) : Prop :=
  let period := cancelAllAfterHeartbeatPeriodMs heartbeat.timeout
  let last := LastRefresh (refreshTimes system.sent)
  match heartbeat.phase with
  | .waiting => system.nowMs ≤ heartbeat.dueMs + timerLagMs + 5 ∧
      last fun time => heartbeat.dueMs ≤ time + period
  | .refreshing deadlineMs none => system.nowMs ≤ deadlineMs + timerLagMs ∧
      heartbeat.dueMs ≤ system.nowMs + period ∧ deadlineMs ≤ heartbeat.dueMs + 5 ∧
      last fun time => deadlineMs ≤ time + 2 * period + timerLagMs + 5
  | .refreshing deadlineMs (some _) => system.nowMs ≤ deadlineMs + timerLagMs ∧
      deadlineMs ≤ heartbeat.dueMs + 5 ∧ last fun time => heartbeat.dueMs ≤ time + period
  | .ended => True

/-- The refreshes are spaced, and the timers keep them so. -/
structure Spacing (timerLagMs : ℕ) (system : SwitchSystem) : Prop where
  spaced : ∀ timeout ∈ system.cancelAllAfterTimeout, Spaced timeout (refreshTimes system.sent)
  timers : ∀ heartbeat ∈ system.heartbeat, heartbeat.timeout ∈ system.cancelAllAfterTimeout ∧
    Timers timerLagMs system heartbeat
  unrefreshed : system.phase = .created ∨ (∃ request, system.phase = .arming request) →
    refreshTimes system.sent = [] ∧ system.heartbeat = none

theorem refreshTimes_send {kind : SwitchRequestKind} :
    refreshTimes (system.send kind).sent =
      refreshTimes system.sent ++ if kind = .refresh then [system.nowMs] else [] := by
  unfold refreshTimes SwitchSystem.send
  rw [List.filter_append, List.map_append]
  split <;> simp [*]

theorem Spaced.concat {timeout : OkxCancelAllAfterTimeout} {times : List ℕ} {now : ℕ}
    (h : Spaced timeout times)
    (hlast : LastRefresh times fun time => now < time + timeout.seconds * millisPerSecond) :
    Spaced timeout (times ++ [now]) := by
  refine List.isChain_append.2 ⟨h, List.isChain_singleton _, fun time htime later hlater => ?_⟩
  cases hlater
  exact hlast time htime

theorem lastRefresh_concat {times : List ℕ} {now : ℕ} {P : ℕ → Prop} (h : P now) :
    LastRefresh (times ++ [now]) P := by
  intro time htime
  rw [List.getLast?_concat] at htime
  cases htime
  exact h

namespace Spacing

theorem start {strategies : ℕ} {timeout : Option OkxCancelAllAfterTimeout} :
    Spacing timerLagMs (SwitchSystem.start strategies timeout) where
  spaced _ _ := List.IsChain.nil
  timers heartbeat h := by cases h
  unrefreshed _ := ⟨rfl, rfl⟩

/-- Time passes while the heartbeat is awake. -/
theorem elapse (h : Spacing timerLagMs system) {ms : ℕ}
    (hawake : ∀ heartbeat ∈ system.heartbeat, heartbeat.awakeAt timerLagMs (system.nowMs + ms)) :
    Spacing timerLagMs { system with nowMs := system.nowMs + ms } where
  spaced := h.spaced
  timers := by
    intro heartbeat hheartbeat
    have hnow := hawake heartbeat hheartbeat
    obtain ⟨htimeout, htimers⟩ := h.timers heartbeat hheartbeat
    refine ⟨htimeout, ?_⟩
    unfold Heartbeat.awakeAt at hnow
    unfold Timers at htimers ⊢
    split at htimers
    · rename_i hphase
      simp only [hphase] at hnow ⊢
      exact ⟨by omega, htimers.2⟩
    · rename_i deadlineMs hphase
      simp only [hphase] at hnow ⊢
      exact ⟨by omega, by omega, htimers.2.2⟩
    · rename_i deadlineMs request hphase
      simp only [hphase] at hnow ⊢
      exact ⟨by omega, htimers.2⟩
    · exact trivial
  unrefreshed := h.unrefreshed

/-- A step of the heartbeat. -/
theorem heartbeatStep {action : HeartbeatAction} (h : Spacing timerLagMs system)
    (hlag : ∀ timeout ∈ system.cancelAllAfterTimeout, TimersInTime timerLagMs timeout)
    (hheartbeat : system.heartbeat = some heartbeat)
    (hstep : OkxTrading.heartbeatStep system heartbeat action = some next) :
    Spacing timerLagMs next := by
  obtain ⟨htimeout, htimers⟩ := h.timers heartbeat hheartbeat
  have hrefreshed : ¬ (system.phase = .created ∨ ∃ request, system.phase = .arming request) := by
    intro hunrefreshed
    rw [(h.unrefreshed hunrefreshed).2] at hheartbeat
    cases hheartbeat
  -- A step that sends nothing only has to say what the timers of the heartbeat are.
  have hquiet : ∀ (heartbeat' : Heartbeat) (unanswered : List ℕ),
      heartbeat'.timeout = heartbeat.timeout →
        Timers timerLagMs { system with unanswered, heartbeat := some heartbeat' } heartbeat' →
          Spacing timerLagMs { system with unanswered, heartbeat := some heartbeat' } := by
    intro heartbeat' unanswered hsame htimers'
    refine ⟨h.spaced, ?_, fun hunrefreshed => absurd hunrefreshed hrefreshed⟩
    rintro _ ⟨⟩
    rw [hsame]
    exact ⟨htimeout, htimers'⟩
  unfold Timers at htimers
  cases action with
  | tick =>
      simp only [OkxTrading.heartbeatStep] at hstep
      split at hstep
      · rename_i hdue
        obtain ⟨hphase, hdue⟩ := hdue
        simp only [hphase] at htimers
        obtain ⟨hnow, hlast⟩ := htimers
        cases hstep
        refine hquiet _ _ rfl ?_
        simp only [Timers, cancelAllAfterHeartbeatRefreshDeadlineMs, nextTickMs]
        refine ⟨by omega, ?_, ?_, fun time htime => ?_⟩
        · split <;> omega
        · split <;> omega
        · have hbefore := hlast time htime
          omega
      · cases hstep
  | sendRefresh =>
      simp only [OkxTrading.heartbeatStep] at hstep
      split at hstep
      · rename_i deadlineMs hphase
        simp only [hphase] at htimers
        obtain ⟨hnow, hdue, hdeadline, hlast⟩ := htimers
        cases hstep
        have htimes : refreshTimes (system.send .refresh).sent =
            refreshTimes system.sent ++ [system.nowMs] := refreshTimes_send
        refine ⟨fun timeout hmem => ?_, ?_, fun hunrefreshed => absurd hunrefreshed hrefreshed⟩
        · have hsame : heartbeat.timeout = timeout := Option.mem_unique htimeout hmem
          have hmargin := hlag _ htimeout
          show Spaced timeout (refreshTimes (system.send .refresh).sent)
          rw [htimes]
          refine (h.spaced timeout hmem).concat fun time htime => ?_
          have hbefore := hlast time htime
          rw [← hsame]
          unfold TimersInTime at hmargin
          omega
        · rintro _ ⟨⟩
          refine ⟨htimeout, hnow, hdeadline, ?_⟩
          show LastRefresh (refreshTimes (system.send .refresh).sent) _
          rw [htimes]
          exact lastRefresh_concat hdue
      · cases hstep
  | refreshAnswered accepted =>
      simp only [OkxTrading.heartbeatStep] at hstep
      split at hstep
      · rename_i deadlineMs request hphase
        simp only [hphase] at htimers
        obtain ⟨hnow, hdeadline, hlast⟩ := htimers
        split at hstep
        · cases hstep
          refine hquiet _ _ rfl ?_
          cases accepted with
          | true => exact ⟨by show system.nowMs ≤ heartbeat.dueMs + timerLagMs + 5; omega, hlast⟩
          | false => trivial
        · cases hstep
      · cases hstep
  | refreshFailed =>
      simp only [OkxTrading.heartbeatStep] at hstep
      split at hstep
      · cases hstep
        exact hquiet _ _ rfl trivial
      · cases hstep
  | stopTaken =>
      simp only [OkxTrading.heartbeatStep] at hstep
      split at hstep
      · cases hstep
        exact hquiet _ _ rfl trivial
      · cases hstep

/-- The exchange changes nothing of it. -/
theorem process (h : Spacing timerLagMs system) {inFlight : List ℕ} {armed : Bool} :
    Spacing timerLagMs { system with inFlight, armed } := ⟨h.spaced, h.timers, h.unrefreshed⟩

/-- A step that sends no refresh, and leaves the heartbeat's timers alone or ends it. -/
theorem ofSame (h : Spacing timerLagMs system) (hnow : next.nowMs = system.nowMs)
    (htimes : refreshTimes next.sent = refreshTimes system.sent)
    (htimeout : next.cancelAllAfterTimeout = system.cancelAllAfterTimeout)
    (hheartbeat : ∀ heartbeat' ∈ next.heartbeat, ∃ heartbeat ∈ system.heartbeat,
      heartbeat'.timeout = heartbeat.timeout ∧ heartbeat'.dueMs = heartbeat.dueMs ∧
        heartbeat'.phase = heartbeat.phase)
    (hphase : next.phase = .created ∨ (∃ request, next.phase = .arming request) →
      system.phase = .created ∨ ∃ request, system.phase = .arming request) :
    Spacing timerLagMs next where
  spaced := by
    rw [htimeout, htimes]
    exact h.spaced
  timers := by
    intro heartbeat' hmem'
    obtain ⟨heartbeat, hmem, hsame, hdue, hphase⟩ := hheartbeat heartbeat' hmem'
    obtain ⟨htimeout', htimers⟩ := h.timers heartbeat hmem
    unfold Timers at htimers ⊢
    rw [htimeout, hsame, hnow, htimes, hdue, hphase]
    exact ⟨htimeout', htimers⟩
  unrefreshed := by
    intro hunrefreshed
    obtain ⟨hnone, hstopped⟩ := h.unrefreshed (hphase hunrefreshed)
    refine ⟨htimes.trans hnone, Option.eq_none_iff_forall_not_mem.2 fun heartbeat' hmem' => ?_⟩
    obtain ⟨heartbeat, hmem, -⟩ := hheartbeat heartbeat' hmem'
    rw [hstopped] at hmem
    cases hmem

/-- A new phase, and the heartbeat as it was or gone. -/
theorem phase (h : Spacing timerLagMs system) {phase : EnginePhase}
    (hphase : phase ≠ .created ∧ ∀ request, phase ≠ .arming request) :
    Spacing timerLagMs { system with phase } :=
  h.ofSame rfl rfl rfl (fun heartbeat hmem => ⟨heartbeat, hmem, rfl, rfl, rfl⟩)
    fun hunrefreshed => by
    rcases hunrefreshed with hcreated | ⟨request, harming⟩
    · exact absurd hcreated hphase.1
    · exact absurd harming (hphase.2 request)

theorem returning (h : Spacing timerLagMs system) {result : Result Unit}
    {armed armAttempted : Bool} :
    Spacing timerLagMs (SwitchSystem.returning { system with
      cancelAllAfterArmed := armed, cancelAllAfterArmAttempted := armAttempted } result) :=
  h.ofSame rfl rfl rfl (fun heartbeat hmem => by cases hmem) fun hunrefreshed => by
    rcases hunrefreshed with hcreated | ⟨request, harming⟩
    · cases hcreated
    · cases harming

/-- A step of the engine. -/
theorem engineStep {action : EngineAction} (h : Spacing timerLagMs system)
    (hstep : OkxTrading.engineStep system action = some (out, next)) : Spacing timerLagMs next := by
  cases action with
  | startup =>
      simp only [OkxTrading.engineStep] at hstep
      split at hstep
      · rename_i hphase
        split at hstep
        · cases hstep
          exact h.phase (by simp)
        · cases hstep
          exact h.ofSame rfl (refreshTimes_send.trans (List.append_nil _)) rfl
            (fun heartbeat hmem => ⟨heartbeat, hmem, rfl, rfl, rfl⟩) fun _ => .inl hphase
      · cases hstep
  | armAnswered =>
      simp only [OkxTrading.engineStep] at hstep
      split at hstep
      · rename_i request timeout hphase htimeout
        have hnone := (h.unrefreshed (.inr ⟨request, hphase⟩)).1
        split at hstep
        · cases hstep
          refine ⟨h.spaced, ?_, fun hunrefreshed => by simp at hunrefreshed⟩
          rintro _ ⟨⟩
          refine ⟨htimeout, ?_, fun time htime => ?_⟩
          · show system.nowMs ≤ system.nowMs + cancelAllAfterHeartbeatPeriodMs timeout +
              timerLagMs + 5
            omega
          · change time ∈ (refreshTimes system.sent).getLast? at htime
            rw [hnone] at htime
            cases htime
        · cases hstep
      · cases hstep
  | fatal error =>
      simp only [OkxTrading.engineStep] at hstep
      split at hstep <;> cases hstep <;> exact h.returning
  | escape error =>
      simp only [OkxTrading.engineStep] at hstep
      split at hstep
      · cases hstep
        exact h.returning
      · cases hstep
  | ctrlC =>
      simp only [OkxTrading.engineStep] at hstep
      split at hstep
      · cases hstep
        exact h.phase (by simp)
      · cases hstep
  | strategyShutdown result =>
      simp only [OkxTrading.engineStep] at hstep
      split at hstep
      · cases hstep
        exact h.phase (by simp)
      · cases hstep
  | stopServerTimeRefresher result =>
      simp only [OkxTrading.engineStep] at hstep
      split at hstep
      · cases hstep
        exact h.phase (by simp)
      · cases hstep
  | signalHeartbeat =>
      simp only [OkxTrading.engineStep] at hstep
      split at hstep
      · split at hstep
        · cases hstep
          exact h.phase (by simp)
        · rename_i heartbeat hheartbeat
          cases hstep
          refine h.ofSame rfl rfl rfl ?_ fun hunrefreshed => by simp at hunrefreshed
          rintro _ ⟨⟩
          exact ⟨heartbeat, hheartbeat, rfl, rfl, rfl⟩
      · cases hstep
  | joinHeartbeat panicked =>
      simp only [OkxTrading.engineStep] at hstep
      split at hstep
      · split at hstep
        · cases hstep
          exact h.ofSame rfl rfl rfl (fun heartbeat hmem => by cases hmem)
            fun hunrefreshed => by simp at hunrefreshed
        · cases hstep
      · cases hstep
  | disarm =>
      simp only [OkxTrading.engineStep] at hstep
      split at hstep
      · split at hstep
        · obtain ⟨-, rfl⟩ := finishShutdown_eq hstep
          exact h.returning
        · cases hstep
          exact h.ofSame rfl (refreshTimes_send.trans (List.append_nil _)) rfl
            (fun heartbeat hmem => ⟨heartbeat, hmem, rfl, rfl, rfl⟩)
            fun hunrefreshed => by simp at hunrefreshed
      · obtain ⟨-, rfl⟩ := finishShutdown_eq hstep
        exact h.returning
      · cases hstep
  | disarmAnswered accepted =>
      simp only [OkxTrading.engineStep] at hstep
      split at hstep
      · split at hstep
        · split at hstep
          · obtain ⟨-, rfl⟩ := finishShutdown_eq hstep
            exact h.returning
          · obtain ⟨-, rfl⟩ := finishShutdown_eq hstep
            exact h.returning
        · cases hstep
      · cases hstep
  | disarmFailed =>
      simp only [OkxTrading.engineStep] at hstep
      split at hstep
      · obtain ⟨-, rfl⟩ := finishShutdown_eq hstep
        exact h.returning
      · cases hstep

/-- Any step. -/
theorem switchStep {action : SwitchAction} (h : Spacing timerLagMs system)
    (hlag : ∀ timeout ∈ system.cancelAllAfterTimeout, TimersInTime timerLagMs timeout)
    (hstep : OkxTrading.switchStep timerLagMs system action = some (out, next)) :
    Spacing timerLagMs next := by
  cases action with
  | elapse ms =>
      simp only [OkxTrading.switchStep] at hstep
      split at hstep
      · rename_i hawake
        cases hstep
        exact h.elapse hawake
      · cases hstep
  | process request =>
      simp only [OkxTrading.switchStep] at hstep
      split at hstep
      · split at hstep
        · cases hstep
          exact h.process
        · cases hstep
      · cases hstep
  | heartbeat action =>
      simp only [OkxTrading.switchStep] at hstep
      split at hstep
      · rename_i heartbeat hheartbeat
        obtain ⟨after, hafter, hnext⟩ := Option.map_eq_some_iff.1 hstep
        cases hnext
        exact h.heartbeatStep hlag hheartbeat hafter
      · cases hstep
  | engine action => exact h.engineStep hstep

end Spacing

/-! ## Runs -/

/-- The timeout and the strategies stay what they were. -/
theorem switchStep_constant {action : SwitchAction}
    (hstep : switchStep timerLagMs system action = some (out, next)) :
    next.cancelAllAfterTimeout = system.cancelAllAfterTimeout ∧
      next.strategies = system.strategies := by
  cases action with
  | elapse ms =>
      simp only [switchStep] at hstep
      split at hstep <;> cases hstep
      exact ⟨rfl, rfl⟩
  | process request =>
      simp only [switchStep] at hstep
      split at hstep
      · split at hstep <;> cases hstep
        exact ⟨rfl, rfl⟩
      · cases hstep
  | heartbeat action =>
      simp only [switchStep] at hstep
      split at hstep
      · obtain ⟨after, hafter, hnext⟩ := Option.map_eq_some_iff.1 hstep
        cases hnext
        rcases heartbeatStep_cases hafter with ⟨_, rfl⟩ | ⟨_, rfl⟩ | ⟨_, _, -, rfl⟩
        · exact ⟨rfl, rfl⟩
        · exact ⟨rfl, rfl⟩
        · exact ⟨rfl, rfl⟩
      · cases hstep
  | engine action =>
      simp only [switchStep] at hstep
      unfold engineStep SwitchSystem.finishShutdown at hstep
      cases action <;> simp only at hstep <;> (repeat' split at hstep) <;> cases hstep <;>
        exact ⟨rfl, rfl⟩

/-- What the engine did in a run. -/
def switchLog (run : List (SwitchAction × List SwitchLog)) : List SwitchLog := run.flatMap (·.2)

/-- A disarm was only sent by an operator shutdown in which everything succeeded, and then the
engine does nothing but return. -/
def DisarmsAfterCleanup (strategies : ℕ) (system : SwitchSystem) (log : List SwitchLog) : Prop :=
  (∃ request ∈ system.sent, request.kind = .disarm) →
    log = cleanShutdown strategies ++ [.disarmSent] ∨
      ∃ result, log = cleanShutdown strategies ++ [.disarmSent, .finished result]

theorem PhaseLog.disarmsAfterCleanup (h : PhaseLog system log) :
    DisarmsAfterCleanup system.strategies system log := by
  rintro ⟨request, hmem, hkind⟩
  have hsent : ¬ NoDisarm system := fun hsent => hsent request hmem hkind
  unfold PhaseLog at h
  split at h
  · exact absurd h.2 hsent
  · exact absurd h.2 hsent
  · exact absurd h.2 hsent
  · exact absurd h.2.2 hsent
  · exact absurd h.2 hsent
  · exact absurd h.2 hsent
  · exact absurd h.2 hsent
  · exact .inl h
  · exact .inr (h.resolve_left hsent)

/-- After the shutdown returned without an error, the switch is not armed, and no request that the
exchange may still process arms it. -/
def LeftDisarmed (system : SwitchSystem) : Prop :=
  system.phase = .returned (.ok ()) → system.armed = false ∧ ∀ request, ¬ Arms system request

/-- Whenever the disarm is sent, every refresh that was sent has been answered. -/
def RefreshesAnswered (timerLagMs : ℕ) : SwitchSystem → List SwitchAction → Prop
  | _, [] => True
  | system, action :: rest => (action = .engine .disarm → system.unanswered = []) ∧
      ∀ reply ∈ switchStep timerLagMs system action, RefreshesAnswered timerLagMs reply.2 rest

instance decidableRefreshesAnswered (timerLagMs : ℕ) :
    (system : SwitchSystem) → (actions : List SwitchAction) →
    Decidable (RefreshesAnswered timerLagMs system actions)
  | _, [] => inferInstanceAs (Decidable True)
  | system, action :: rest =>
      have : DecidablePred fun reply : List SwitchLog × SwitchSystem =>
        RefreshesAnswered timerLagMs reply.2 rest := fun reply =>
          decidableRefreshesAnswered timerLagMs reply.2 rest
      inferInstanceAs (Decidable (_ ∧ ∀ reply ∈ switchStep timerLagMs system action,
        RefreshesAnswered timerLagMs reply.2 rest))

theorem run_flight {actions : List SwitchAction} {run : List (SwitchAction × List SwitchLog)}
    (hflight : Flight system) (hanswered : RefreshesAnswered timerLagMs system actions)
    (h : trace (switchStep timerLagMs) system actions = some (run, next)) : Flight next := by
  induction actions generalizing system run with
  | nil =>
      cases h
      exact hflight
  | cons action rest ih =>
      obtain ⟨out, mid, later, hstep, hlater, -⟩ := trace_cons.1 h
      exact ih (hflight.switchStep hanswered.1 hstep) (hanswered.2 _ hstep) hlater

theorem start_phaseLog {strategies : ℕ} {timeout : Option OkxCancelAllAfterTimeout} :
    PhaseLog (SwitchSystem.start strategies timeout) [] :=
  ⟨rfl, fun request hmem => by cases hmem⟩

/-- The log of a run, which keeps the timeout and the strategies. -/
theorem run_phaseLog {strategies : ℕ} {timeout : Option OkxCancelAllAfterTimeout}
    {actions : List SwitchAction} {run : List (SwitchAction × List SwitchLog)}
    (h : trace (switchStep timerLagMs) (SwitchSystem.start strategies timeout) actions =
      some (run, system)) :
    system.cancelAllAfterTimeout = timeout ∧ system.strategies = strategies ∧
      PhaseLog system (switchLog run) := by
  refine trace_induction (P := fun run system => system.cancelAllAfterTimeout = timeout ∧
    system.strategies = strategies ∧ PhaseLog system (switchLog run))
    ⟨rfl, rfl, start_phaseLog⟩ ?_ h
  rintro run system action out next - ⟨htimeout, hstrategies, hlog⟩ hstep
  have hmore : switchLog (run ++ [(action, out)]) = switchLog run ++ out := by simp [switchLog]
  obtain ⟨hsame, hcount⟩ := switchStep_constant hstep
  rw [hmore]
  exact ⟨hsame.trans htimeout, hcount.trans hstrategies, switchStep_phaseLog hlog hstep⟩

/-- Timers that fire in time keep the refreshes of a run spaced. -/
theorem run_spacing {strategies : ℕ} {timeout : Option OkxCancelAllAfterTimeout}
    (hlag : ∀ accepted ∈ timeout, TimersInTime timerLagMs accepted) {actions : List SwitchAction}
    {run : List (SwitchAction × List SwitchLog)}
    (h : trace (switchStep timerLagMs) (SwitchSystem.start strategies timeout) actions =
      some (run, system)) : Spacing timerLagMs system := by
  have hrun : system.cancelAllAfterTimeout = timeout ∧ Spacing timerLagMs system := by
    refine trace_induction (P := fun _ system => system.cancelAllAfterTimeout = timeout ∧
      Spacing timerLagMs system) ⟨rfl, Spacing.start⟩ ?_ h
    rintro run system action out next - ⟨htimeout, hspacing⟩ hstep
    exact ⟨(switchStep_constant hstep).1.trans htimeout,
      hspacing.switchStep (htimeout ▸ hlag) hstep⟩
  exact hrun.2

/-- **The switch is armed when it should be**, in every run: a disarm is only sent after a clean
shutdown; where the timers fire in time, consecutive refreshes are less than the timeout apart; and
where no refresh is left unanswered when the disarm is sent, nothing of this process leaves the
switch armed after the shutdown returned.  The configuration accepts the intervals that the runtime
accepts, with the same timeout. -/
theorem switch_armed_when_needed {timerLagMs strategies : ℕ}
    {timeout : Option OkxCancelAllAfterTimeout} {actions : List SwitchAction}
    {run : List (SwitchAction × List SwitchLog)}
    (h : trace (switchStep timerLagMs) (SwitchSystem.start strategies timeout) actions =
      some (run, system)) :
    DisarmsAfterCleanup strategies system (switchLog run) ∧
      (RefreshesAnswered timerLagMs (SwitchSystem.start strategies timeout) actions →
        LeftDisarmed system) ∧
      (∀ accepted ∈ timeout, TimersInTime timerLagMs accepted →
        Spaced accepted (refreshTimes system.sent)) ∧
      ∀ pollIntervalMs seconds, cancelAllAfterTimeoutSeconds pollIntervalMs = .ok seconds ↔
        cancelAllAfterTimeout pollIntervalMs = .ok ⟨seconds⟩ := by
  obtain ⟨htimeout, hstrategies, hlog⟩ := run_phaseLog h
  refine ⟨hstrategies ▸ hlog.disarmsAfterCleanup, fun hanswered hreturned => ?_,
    fun accepted hmem hlag => ?_, fun _ _ => timeout_agree⟩
  · have hflight := run_flight Flight.start hanswered h
    exact ⟨hflight.disarmed hreturned, hflight.settled (.inr hreturned)⟩
  · have hspacing := run_spacing (fun other hother => Option.mem_unique hmem hother ▸ hlag) h
    exact hspacing.spaced accepted (htimeout ▸ hmem)

/-! ### Runs -/

/-- The engine starts, and the heartbeat sends its first refresh after a third of 15 seconds. -/
def firstRefresh : List SwitchAction :=
  [.engine .startup, .process 0, .engine .armAnswered, .elapse 5000, .heartbeat .tick,
    .heartbeat .sendRefresh]

/-- The operator stops the engine with its one strategy; the disarm is request 2. -/
def operatorStop : List SwitchAction :=
  [.engine .ctrlC, .engine (.strategyShutdown (.ok ())),
    .engine (.stopServerTimeRefresher (.ok ())), .engine .signalHeartbeat, .heartbeat .stopTaken,
    .engine (.joinHeartbeat false), .engine .disarm, .process 2, .engine (.disarmAnswered true)]

/-- The theorem where the refresh is answered before the operator stops the engine. -/
theorem switch_armed_when_needed_answered : ∃ run system,
    trace (switchStep 1000) (SwitchSystem.start 1 (some ⟨15⟩))
        (firstRefresh ++ [.process 1, .heartbeat (.refreshAnswered true)] ++ operatorStop) =
      some (run, system) ∧ system.phase = .returned (.ok ()) ∧ system.armed = false ∧
      Spaced ⟨15⟩ (refreshTimes system.sent) := by
  have hdefined : ((trace (switchStep 1000) (SwitchSystem.start 1 (some ⟨15⟩))
      (firstRefresh ++ [.process 1, .heartbeat (.refreshAnswered true)] ++ operatorStop)).map
        fun last => last.2.phase) = some (.returned (.ok ())) := by
    decide +kernel
  obtain ⟨⟨run, system⟩, hrun, hphase⟩ := Option.map_eq_some_iff.1 hdefined
  have hswitch := switch_armed_when_needed hrun
  have haccepted : cancelAllAfterTimeout 5000 = .ok ⟨15⟩ := by decide +kernel
  have hlag : TimersInTime 1000 ⟨15⟩ := timersInTime_of_accepted haccepted (by decide)
  exact ⟨run, system, hrun, hphase, (hswitch.2.1 (by decide +kernel) hphase).1,
    hswitch.2.2.1 _ rfl hlag⟩

/-- The stop signal cuts off a refresh that was sent; the exchange processes it after the disarm,
and the switch is armed although the shutdown returned without an error. -/
theorem armed_after_shutdown : ∃ run system,
    trace (switchStep 1000) (SwitchSystem.start 1 (some ⟨15⟩))
        (firstRefresh ++ operatorStop ++ [.process 1]) = some (run, system) ∧
        ¬ LeftDisarmed system := by
  have hdefined : ((trace (switchStep 1000) (SwitchSystem.start 1 (some ⟨15⟩))
      (firstRefresh ++ operatorStop ++ [.process 1])).map
        fun last => (last.2.phase, last.2.armed)) = some (.returned (.ok ()), true) := by
    decide +kernel
  obtain ⟨⟨run, system⟩, hrun, hlast⟩ := Option.map_eq_some_iff.1 hdefined
  obtain ⟨hphase, harmed⟩ := Prod.mk.inj hlast
  refine ⟨run, system, hrun, fun hleft => ?_⟩
  rw [(hleft hphase).1] at harmed
  cases harmed

end OkxTrading
