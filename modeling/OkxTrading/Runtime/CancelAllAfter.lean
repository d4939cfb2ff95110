import OkxTrading.Okx.Decimal

/-!
# The dead-man switch

The timeout of `config/validation.rs` and `app/cancel_all_after_heartbeat.rs`, the heartbeat task,
and the arming, shutdown and fatal exit of the engine in `app/live.rs`, beside an exchange that
processes the requests in any order.

Requests are known by their place in `sent`.  Timers fire when they are due or up to
`timerLagMs` later, whatever that is.

* `cancelAllAfterTimeoutSeconds`, `cancelAllAfterTimeout` — the two copies of the timeout.
* `Heartbeat` — the task with its interval and the refresh in progress.
* `switchStep` — one step of the engine, the heartbeat, the exchange or the clock.
-/

namespace OkxTrading

/-! ## The timeout -/

def millisPerSecond : ℕ := 1000
def cancelAllAfterRefreshMultiplier : ℕ := 3
def okxCancelAllAfterMinTimeoutSecs : ℕ := 10
def okxCancelAllAfterMaxTimeoutSecs : ℕ := 120

/-- `u64::checked_mul`. -/
def checkedMulU64 (a b : ℕ) : Option ℕ := if a * b < 2 ^ 64 then some (a * b) else none

def divCeil (a b : ℕ) : ℕ := (a + b - 1) / b

/-- `cancel_all_after_timeout_seconds` of the configuration. -/
def cancelAllAfterTimeoutSeconds (pollIntervalMs : ℕ) : Result ℕ :=
  match checkedMulU64 (divCeil pollIntervalMs millisPerSecond) cancelAllAfterRefreshMultiplier with
  | none => .error "runtime.poll_interval_ms is too large for OKX cancel-all-after timeout"
  | some requested =>
      let requestedTimeout := max requested okxCancelAllAfterMinTimeoutSecs
      if requestedTimeout ≤ okxCancelAllAfterMaxTimeoutSecs then .ok requestedTimeout
      else .error "runtime.poll_interval_ms is too large for OKX cancel-all-after refresh"

/-- `OkxCancelAllAfterTimeout`, in seconds. -/
structure OkxCancelAllAfterTimeout where
  seconds : ℕ
  deriving DecidableEq, Repr

/-- A timeout within the bounds OKX documents. -/
def OkxCancelAllAfterTimeout.new (seconds : ℕ) : Result OkxCancelAllAfterTimeout :=
  if okxCancelAllAfterMinTimeoutSecs ≤ seconds ∧ seconds ≤ okxCancelAllAfterMaxTimeoutSecs then
    .ok ⟨seconds⟩
  else .error "OKX cancel-all-after timeout must be between 10 and 120 seconds"

/-- `cancel_all_after_timeout` of the runtime. -/
def cancelAllAfterTimeout (pollIntervalMs : ℕ) : Result OkxCancelAllAfterTimeout :=
  match checkedMulU64 (divCeil pollIntervalMs millisPerSecond) cancelAllAfterRefreshMultiplier with
  | none => .error "runtime.poll_interval_ms is too large for OKX cancel-all-after timeout"
  | some requested =>
      match OkxCancelAllAfterTimeout.new (max requested okxCancelAllAfterMinTimeoutSecs) with
      | .ok timeout => .ok timeout
      | .error _ => .error "runtime.poll_interval_ms is too large for OKX cancel-all-after refresh"

/-- A third of the timeout passes between two refreshes. -/
def cancelAllAfterHeartbeatPeriodMs (timeout : OkxCancelAllAfterTimeout) : ℕ :=
  max (timeout.seconds * millisPerSecond / cancelAllAfterRefreshMultiplier) 1

/-- A refresh may take one period. -/
def cancelAllAfterHeartbeatRefreshDeadlineMs (timeout : OkxCancelAllAfterTimeout) : ℕ :=
  cancelAllAfterHeartbeatPeriodMs timeout

/-! ## The heartbeat -/

/-- How far the heartbeat task is. -/
inductive HeartbeatPhase where
  /-- Waiting for the tick or the stop signal. -/
  | waiting
  /-- A refresh until its deadline, and its request where it was sent. -/
  | refreshing (deadlineMs : ℕ) (request : Option ℕ)
  | ended
  deriving DecidableEq, Repr

/-- The heartbeat task. -/
structure Heartbeat where
  timeout : OkxCancelAllAfterTimeout
  /-- The next tick of the interval. -/
  dueMs : ℕ
  phase : HeartbeatPhase
  stopSignalled : Bool
  deriving DecidableEq, Repr

/-- `run_cancel_all_after_heartbeat` after the interval's first tick. -/
def Heartbeat.spawn (timeout : OkxCancelAllAfterTimeout) (nowMs : ℕ) : Heartbeat where
  timeout
  dueMs := nowMs + cancelAllAfterHeartbeatPeriodMs timeout
  phase := .waiting
  stopSignalled := false

/-- The next tick of an interval with `MissedTickBehavior::Delay`: a tick that is over five
milliseconds late moves the ones after it. -/
def nextTickMs (dueMs nowMs periodMs : ℕ) : ℕ :=
  if dueMs + 5 < nowMs then nowMs + periodMs else dueMs + periodMs

/-- The heartbeat does not sleep over its timers, which fire at most `timerLagMs` late. -/
def Heartbeat.awakeAt (self : Heartbeat) (timerLagMs nowMs : ℕ) : Prop :=
  match self.phase with
  | .waiting => nowMs ≤ self.dueMs + timerLagMs
  | .refreshing deadlineMs _ => nowMs ≤ deadlineMs + timerLagMs
  | .ended => True

instance (self : Heartbeat) (timerLagMs nowMs : ℕ) : Decidable (self.awakeAt timerLagMs nowMs) := by
  unfold Heartbeat.awakeAt
  split <;> infer_instance

/-! ## The system -/

/-- The requests that set the switch. -/
inductive SwitchRequestKind where
  | arm
  | refresh
  | disarm
  deriving DecidableEq, Repr

/-- A request and when it was sent. -/
structure SwitchRequest where
  kind : SwitchRequestKind
  atMs : ℕ
  deriving DecidableEq, Repr

/-- Where the engine is. -/
inductive EnginePhase where
  | created
  | arming (request : ℕ)
  | running
  /-- The strategies that are left, then the server-time refresher. -/
  | shuttingDownStrategies (left : ℕ) (error : Option Message)
  | stoppingHeartbeat (error : Option Message)
  | joiningHeartbeat (error : Option Message)
  | cleanedUp (error : Option Message)
  | disarming (request : ℕ)
  | returned (result : Result Unit)
  deriving DecidableEq

/-- The engine, its heartbeat, the requests under way and the switch at the exchange. -/
structure SwitchSystem where
  nowMs : ℕ
  strategies : ℕ
  cancelAllAfterTimeout : Option OkxCancelAllAfterTimeout
  cancelAllAfterArmed : Bool
  cancelAllAfterArmAttempted : Bool
  heartbeat : Option Heartbeat
  phase : EnginePhase
  /-- What was sent. -/
  sent : List SwitchRequest
  /-- What the exchange has still to process. -/
  inFlight : List ℕ
  /-- The refreshes the heartbeat sent and has no answer to. -/
  unanswered : List ℕ
  /-- Whether the switch is armed at the exchange. -/
  armed : Bool
  deriving DecidableEq

/-- What the engine did. -/
inductive SwitchLog where
  | operatorShutdown
  | strategyShutdown (result : Result Unit)
  | serverTimeRefresherStopped (result : Result Unit)
  | heartbeatStopped (result : Result Unit)
  | disarmSent
  | failedClosed
  | finished (result : Result Unit)
  deriving DecidableEq

namespace SwitchSystem

/-- The system before the engine starts. -/
def start (strategies : ℕ) (timeout : Option OkxCancelAllAfterTimeout) : SwitchSystem where
  nowMs := 0
  strategies
  cancelAllAfterTimeout := timeout
  cancelAllAfterArmed := false
  cancelAllAfterArmAttempted := false
  heartbeat := none
  phase := .created
  sent := []
  inFlight := []
  unanswered := []
  armed := false

variable (self : SwitchSystem)

/-- A request leaves; the exchange has not processed it. -/
def send (kind : SwitchRequestKind) : SwitchSystem :=
  { self with
    sent := self.sent ++ [⟨kind, self.nowMs⟩]
    inFlight := self.inFlight ++ [self.sent.length] }

/-- The engine is gone, and its tasks with it. -/
def returning (result : Result Unit) : SwitchSystem :=
  { self with phase := .returned result, heartbeat := none }

/-- The end of `shutdown_for_operator`. -/
def finishShutdown (result : Result Unit) : Option (List SwitchLog × SwitchSystem) :=
  some ([.finished result], self.returning result)

end SwitchSystem

/-- What the heartbeat task does next. -/
inductive HeartbeatAction where
  | tick
  | sendRefresh
  | refreshAnswered (accepted : Bool)
  /-- The deadline passed, or the refresh failed by itself. -/
  | refreshFailed
  | stopTaken
  deriving DecidableEq

/-- What the engine does next. -/
inductive EngineAction where
  | startup
  | armAnswered
  | fatal (error : Message)
  /-- `run_loop` ends with the error of a decision. -/
  | escape (error : Message)
  | ctrlC
  | strategyShutdown (result : Result Unit)
  | stopServerTimeRefresher (result : Result Unit)
  | signalHeartbeat
  | joinHeartbeat (panicked : Bool)
  | disarm
  | disarmAnswered (accepted : Bool)
  | disarmFailed
  deriving DecidableEq

/-- A step of one of the parts. -/
inductive SwitchAction where
  | elapse (ms : ℕ)
  /-- The exchange processes a request. -/
  | process (request : ℕ)
  | heartbeat (action : HeartbeatAction)
  | engine (action : EngineAction)
  deriving DecidableEq

/-- One more result of `shutdown_for_operator`; the first error is kept. -/
def keepFirst (error : Option Message) : Result Unit → Option Message
  | .ok () => error
  | .error err => error.or (some err)

def ambiguousShutdown : Message := "OKX strategy shutdown cleanup finished with ambiguous state"

/-- What the heartbeat does. -/
def heartbeatStep (self : SwitchSystem) (heartbeat : Heartbeat) :
    HeartbeatAction → Option SwitchSystem
  | .tick =>
      let period := cancelAllAfterHeartbeatPeriodMs heartbeat.timeout
      if heartbeat.phase = .waiting ∧ heartbeat.dueMs ≤ self.nowMs then
        some { self with heartbeat := some { heartbeat with
          dueMs := nextTickMs heartbeat.dueMs self.nowMs period
          phase := .refreshing
            (self.nowMs + cancelAllAfterHeartbeatRefreshDeadlineMs heartbeat.timeout) none } }
      else none
  | .sendRefresh =>
      match heartbeat.phase with
      | .refreshing deadlineMs none =>
          let next := self.send .refresh
          some { next with
            unanswered := self.unanswered ++ [self.sent.length]
            heartbeat := some { heartbeat with
              phase := .refreshing deadlineMs (some self.sent.length) } }
      | _ => none
  | .refreshAnswered accepted =>
      match heartbeat.phase with
      | .refreshing _ (some request) =>
          if request ∉ self.inFlight then
            some { self with
              unanswered := self.unanswered.erase request
              heartbeat := some { heartbeat with
                phase := if accepted then .waiting else .ended } }
          else none
      | _ => none
  | .refreshFailed =>
      match heartbeat.phase with
      | .refreshing _ _ =>
          some { self with heartbeat := some { heartbeat with phase := .ended } }
      | _ => none
  | .stopTaken =>
      if heartbeat.stopSignalled ∧ heartbeat.phase ≠ .ended then
        some { self with heartbeat := some { heartbeat with phase := .ended } }
      else none

/-- What the engine does: `startup`, `run_loop`, `shutdown_for_operator`,
`fail_closed_for_fatal_error`. -/
def engineStep (self : SwitchSystem) : EngineAction → Option (List SwitchLog × SwitchSystem)
  | .startup =>
      if self.phase = .created then
        match self.cancelAllAfterTimeout with
        | none => some ([], { self with phase := .running })
        | some _ =>
            let next := self.send .arm
            some ([], { next with
              cancelAllAfterArmAttempted := true, phase := .arming self.sent.length })
      else none
  | .armAnswered =>
      match self.phase, self.cancelAllAfterTimeout with
      | .arming request, some timeout =>
          if request ∉ self.inFlight then
            some ([], { self with
              cancelAllAfterArmed := true
              heartbeat := some (.spawn timeout self.nowMs)
              phase := .running })
          else none
      | _, _ => none
  | .fatal error =>
      match self.phase with
      | .created | .arming _ | .running => some ([.failedClosed], self.returning (.error error))
      | _ => none
  | .escape error =>
      if self.phase = .running then some ([], self.returning (.error error)) else none
  | .ctrlC =>
      if self.phase = .running then
        some ([.operatorShutdown],
          { self with phase := .shuttingDownStrategies self.strategies none })
      else none
  | .strategyShutdown result =>
      match self.phase with
      | .shuttingDownStrategies (left + 1) error =>
          some ([.strategyShutdown result],
            { self with phase := .shuttingDownStrategies left (keepFirst error result) })
      | _ => none
  | .stopServerTimeRefresher result =>
      match self.phase with
      | .shuttingDownStrategies 0 error =>
          some ([.serverTimeRefresherStopped result],
            { self with phase := .stoppingHeartbeat (keepFirst error result) })
      | _ => none
  | .signalHeartbeat =>
      match self.phase with
      | .stoppingHeartbeat error =>
          match self.heartbeat with
          | none => some ([.heartbeatStopped (.ok ())], { self with phase := .cleanedUp error })
          | some heartbeat => some ([], { self with
              heartbeat := some { heartbeat with stopSignalled := true }
              phase := .joiningHeartbeat error })
      | _ => none
  | .joinHeartbeat panicked =>
      match self.phase, self.heartbeat with
      | .joiningHeartbeat error, some heartbeat =>
          let result : Result Unit :=
            if panicked then .error "OKX Cancel-All-After heartbeat task panicked" else .ok ()
          if panicked ∨ heartbeat.phase = .ended then
            some ([.heartbeatStopped result],
              { self with heartbeat := none, phase := .cleanedUp (keepFirst error result) })
          else none
      | _, _ => none
  | .disarm =>
      match self.phase with
      | .cleanedUp none =>
          match self.cancelAllAfterTimeout with
          | none =>
              let next : SwitchSystem := { self with
                cancelAllAfterArmed := false, cancelAllAfterArmAttempted := false }
              next.finishShutdown (.ok ())
          | some _ =>
              let next := self.send .disarm
              some ([.disarmSent], { next with phase := .disarming self.sent.length })
      | .cleanedUp (some error) => self.finishShutdown (.error (ambiguousShutdown ++ ": " ++ error))
      | _ => none
  | .disarmAnswered accepted =>
      match self.phase with
      | .disarming request =>
          if request ∉ self.inFlight then
            if accepted then
              let next : SwitchSystem := { self with
                cancelAllAfterArmed := false, cancelAllAfterArmAttempted := false }
              next.finishShutdown (.ok ())
            else self.finishShutdown (.error ambiguousShutdown)
          else none
      | _ => none
  | .disarmFailed =>
      match self.phase with
      | .disarming _ => self.finishShutdown (.error ambiguousShutdown)
      | _ => none

/-- One step, with timers that fire at most `timerLagMs` late. -/
def switchStep (timerLagMs : ℕ) (self : SwitchSystem) :
    SwitchAction → Option (List SwitchLog × SwitchSystem)
  | .elapse ms =>
      if ∀ heartbeat ∈ self.heartbeat, heartbeat.awakeAt timerLagMs (self.nowMs + ms) then
        some ([], { self with nowMs := self.nowMs + ms })
      else none
  | .process request =>
      match self.sent[request]? with
      | some sent =>
          if request ∈ self.inFlight then
            some ([], { self with
              inFlight := self.inFlight.erase request
              armed := decide (sent.kind ≠ .disarm) })
          else none
      | none => none
  | .heartbeat action =>
      match self.heartbeat with
      | some heartbeat => (heartbeatStep self heartbeat action).map fun next => ([], next)
      | none => none
  | .engine action => engineStep self action

end OkxTrading
