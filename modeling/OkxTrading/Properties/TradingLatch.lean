import OkxTrading.Properties.TradingSubmissions

/-!
# The metadata latch and the commands

While the latch of an instrument is set, the trading client hands over nothing for it: a command
that would go over the session fails in its preparation, is not begun, and is not tried over REST.

* `WhileLatched`, `FailsLatched` — what a call can be answered while the latch is set, and that it
  fails then without handing anything over.
* `ensureSession_unavailable`, `instIdCode_unavailable` — a part of a command that fails before its
  preparation leaves it to REST, which refuses it as well.
* `checked_failsLatched` — every call that checks the latch fails.
* `handing_asks` — what is handed over was asked for by the call it is charged to.
* `latch_withholds` — **nothing is handed over for the instrument**, in every run from then on.
-/

namespace OkxTrading

open Effect

/-! ## What fails -/

/-- What can be answered while the latch is set. -/
def WhileLatched (instId : Text) (reason : Message) : (q : TradingRequest) → q.Reply → Prop
  | .rest request, answer => clientSystem.Can (·.LatchedFor instId reason) request answer
  | _, _ => True

section Fails

variable {α β ε : Type} {instId : Text} {reason : Message}

/-- While the latch is set the task hands nothing over, and fails. -/
abbrev FailsLatched (instId : Text) (reason : Message) (task : TradingTask α) : Prop :=
  task.Upholds (WhileLatched instId reason) Harmless fun r => ∃ e, r = .error e

theorem HarmlessTask.then_latched {x : TradingTask α} {f : α → TradingTask β} (hx : HarmlessTask x)
    (hf : ∀ a, FailsLatched instId reason (f a)) : FailsLatched instId reason (x >>= f) :=
  Task.Upholds.bind (hx.mono (fun _ _ _ => trivial) (fun _ h => h) fun _ h => h)
    (fun a _ => hf a) fun e _ => ⟨e, rfl⟩

theorem FailsLatched.before {x : TradingTask α} (hx : FailsLatched instId reason x)
    (f : α → TradingTask β) : FailsLatched instId reason (x >>= f) :=
  Task.Upholds.bind hx (fun _ h => by obtain ⟨_, h⟩ := h; cases h) fun e _ => ⟨e, rfl⟩

theorem viaRest_failsLatched {task : ClientTask α}
    (h : Refuses (clientSystem.Can fun s => s.LatchedFor instId reason) task) :
    FailsLatched instId reason (viaRest task) :=
  Task.Upholds.lift h (fun _ _ hcan => hcan) fun q hq => by
    cases q with
    | inl op => trivial
    | inr query => cases query with
      | reserve => rfl
      | _ => cases hq

/-! ## Commands over the session -/

/-- A segment of the trading client itself always gives an answer. -/
theorem shared_bind {op : TradingOp} {can : (q : TradingRequest) → q.Reply → Prop}
    {f : op.Value → Task ε TradingRequest TradingRequest.Reply α} {P : Except ε α → Prop}
    (h : SessionFree (.segment op)) (hf : ∀ answer, (f answer).Upholds can Harmless P) :
    (onShared op >>= f).Upholds can Harmless P :=
  ⟨h, fun answer _ => hf answer⟩

/-- It hands nothing over, and where it fails the command goes over REST. -/
abbrev LeavesToRest (task : SessionTask α) : Prop :=
  task.Upholds (fun _ _ => True) Harmless fun r =>
    ∀ e, r = .error e → ∃ error, e = .unavailable error

theorem ensureSession_unavailable : LeavesToRest ensureWebsocketOrderSessionAvailable := by
  refine shared_bind trivial fun available => ?_
  split
  · rintro e ⟨⟩
  · refine shared_bind trivial fun attempted => ?_
    split
    · refine Task.Upholds.handle plain_connect.harmless fun connected _ => ?_
      split
      · rintro e ⟨⟩
      · refine ⟨trivial, fun _ _ => ⟨trivial, fun _ _ => ?_⟩⟩
        rintro _ ⟨⟩
        exact ⟨_, rfl⟩
    · rintro _ ⟨⟩
      exact ⟨_, rfl⟩

theorem instIdCode_unavailable (other : Text) : LeavesToRest (websocketInstIdCode other) := by
  refine shared_bind trivial fun cached => ?_
  split
  · rintro e ⟨⟩
  · have hread : LeavesToRest (mapErr .unavailable (viaRest (validatedInstIdCode other))) := by
      refine Task.Upholds.handle (tame_validatedInstIdCode other).viaRest.harmless fun r _ => ?_
      cases r with
      | ok code => rintro e ⟨⟩
      | error error =>
          rintro _ ⟨⟩
          exact ⟨error, rfl⟩
    refine .bind hread (fun code _ => shared_bind trivial fun _ => ?_) fun e he => he
    rintro e ⟨⟩

/-- **A command whose preparation is refused** is not begun, and what comes after it has the last
word. -/
theorem command_failsLatched {other : Text} {δ : Type} {prepare : ClientTask δ}
    {f : ℕ → δ → SessionTask α} {k : Except OkxWebsocketOrderCommandError α → TradingTask β}
    (hprepare : Refuses (clientSystem.Can fun s => s.LatchedFor instId reason) prepare)
    (hunavailable : ∀ error, FailsLatched instId reason (k (.error (.unavailable error))))
    (hrejected : ∀ error, FailsLatched instId reason (k (.error (.preparationRejected error)))) :
    FailsLatched instId reason ((ensureWebsocketOrderSessionAvailable >>= fun _ =>
      websocketInstIdCode other >>= fun code =>
      mapErr .preparationRejected (viaRest prepare) >>= f code).handle k) := by
  have hleaves : ∀ {δ : Type} {x : SessionTask δ}, LeavesToRest x →
      x.Upholds (WhileLatched instId reason) Harmless fun r => ∀ e, r = .error e →
        (∃ error, e = .unavailable error) ∨ ∃ error, e = .preparationRejected error :=
    fun hx => hx.mono (fun _ _ _ => trivial) (fun _ h => h) fun _ h e he => .inl (h e he)
  have hrefused : (mapErr OkxWebsocketOrderCommandError.preparationRejected
      (viaRest prepare)).Upholds (WhileLatched instId reason) Harmless
        fun r => ∃ error, r = .error (.preparationRejected error) := by
    refine Task.Upholds.handle (viaRest_failsLatched hprepare) ?_
    rintro _ ⟨error, rfl⟩
    exact ⟨error, rfl⟩
  have hcommand : (ensureWebsocketOrderSessionAvailable >>= fun _ =>
      websocketInstIdCode other >>= fun code =>
      mapErr .preparationRejected (viaRest prepare) >>= f code).Upholds
        (WhileLatched instId reason) Harmless fun r => ∃ e, r = .error e ∧
          ((∃ error, e = .unavailable error) ∨ ∃ error, e = .preparationRejected error) := by
    refine .bind (hleaves ensureSession_unavailable) (fun _ _ => ?_) fun e he => ⟨e, rfl, he e rfl⟩
    refine .bind (hleaves (instIdCode_unavailable other)) (fun code _ => ?_)
      fun e he => ⟨e, rfl, he e rfl⟩
    refine .bind hrefused ?_ ?_
    · rintro _ ⟨_, ⟨⟩⟩
    · rintro _ ⟨error, ⟨⟩⟩
      exact ⟨_, rfl, .inr ⟨error, rfl⟩⟩
  refine Task.Upholds.handle hcommand ?_
  rintro _ ⟨_, rfl, ⟨error, rfl⟩ | ⟨error, rfl⟩⟩
  · exact hunavailable error
  · exact hrejected error

/-! ## The calls -/

theorem checkFails_latched :
    CheckFails (clientSystem.Can fun s => s.LatchedFor instId reason) instId :=
  checkFails_of_blocked fun _ hs => .inr ⟨reason, hs⟩

theorem clientPlace_failsLatched (command : OkxRegularOrderCommand) :
    FailsLatched command.instId reason (OkxTradingClient.placeOrder command) := by
  have hrest : FailsLatched command.instId reason (OkxTradingClient.restPlaceOrder command) :=
    viaRest_failsLatched (placeOrder_refuses checkFails_latched _ _ _ _ _)
  refine plain_configured.harmless.then_latched fun configured => ?_
  split
  · split
    · exact hrest
    all_goals
      exact command_failsLatched (prepareWebsocketPlaceOrder_refuses checkFails_latched _ _ _)
        (fun _ => hrest) fun _ => ⟨_, rfl⟩
  · exact hrest

theorem clientAmend_failsLatched (command : OrderAmendCommand) :
    FailsLatched command.instId reason (OkxTradingClient.amendOrder command) := by
  have hrest : FailsLatched command.instId reason (viaRest (amendOrder command.amend)) :=
    viaRest_failsLatched (amendOrder_refuses checkFails_latched)
  have hvalidate : HarmlessTask (Task.ofExcept (ε := OkxError)
      (command.amend.validate.mapError OkxError.failed)) := .ofExcept trivial
  refine hvalidate.then_latched fun _ => plain_configured.harmless.then_latched fun configured => ?_
  split
  · exact command_failsLatched (prepareWebsocketAmendOrder_refuses checkFails_latched _ _)
      (fun _ => hrest) fun _ => ⟨_, rfl⟩
  · exact hrest

end Fails

/-- The calls that check the latch of the instrument: all that place or amend an order of it, and
the lookups that a submission depends on. -/
def TradingCall.Checked (instId : Text) : TradingCall → Prop
  | .placeOrder command => command.instId = instId
  | .amendOrder command => command.instId = instId
  | .rest call => call.Checked instId
  | _ => False

theorem checked_failsLatched {instId : Text} {reason : Message} {call : TradingCall}
    (h : call.Checked instId) : FailsLatched instId reason call.task := by
  cases call with
  | placeOrder command =>
      cases h
      exact (clientPlace_failsLatched command).before _
  | amendOrder command =>
      cases h
      exact (clientAmend_failsLatched command).before _
  | rest call =>
      exact (viaRest_failsLatched (checked_refuses checkFails_latched h)).before _
  | _ => exact absurd h id

/-! ## What keeps the latch -/

section Keeps

variable {s s' : TradingState} {instId : Text} {reason : Message}

theorem afterSession_rest (s : TradingState) (held : HeldCommand)
    (result : TradingSession × Option CommandOutcome) :
    (s.afterSession held result).rest = s.rest := by
  obtain ⟨session, outcome⟩ := result
  cases outcome <;> rfl

theorem onSession_rest {event : SessionEvent} (h : s.onSession event = some s') :
    s'.rest = s.rest := by
  obtain ⟨held, session, -, -, rfl⟩ := TradingState.onSession_eq_some h
  exact afterSession_rest _ _ _

/-- The segments of the trading client itself leave the REST client alone. -/
theorem op_rest {op : TradingOp} {j : ℕ} {answer : op.Value} (h : op.run j s = some (answer, s')) :
    s'.rest = s.rest := by
  cases op with
  | beginCommand request =>
      obtain ⟨-, ⟨-, -, rfl⟩ | ⟨session, called, -, -, -, rfl⟩⟩ :=
        TradingState.beginCommand_eq_some h
      · rfl
      · exact afterSession_rest _ _ _
  | commandOutcome =>
      obtain ⟨outcome, -, hstep⟩ := Option.map_eq_some_iff.1 h
      cases hstep
      rfl
  | clearSession | storeSession =>
      simp only [TradingOp.run] at h
      split at h
      · cases h
      · cases h
        rfl
  | _ =>
      cases h
      rfl

theorem segment_keeps_latch {q : TradingRequest} {answer : q.Reply} {j : ℕ}
    {run : ℕ → TradingState → Option (q.Reply × TradingState)} (hrun : tradingSegment q = some run)
    (h : run j s = some (answer, s')) (hlatched : s.rest.LatchedFor instId reason) :
    s'.rest.LatchedFor instId reason ∧ WhileLatched instId reason q answer := by
  cases q with
  | connect timestamp => cases hrun
  | segment op =>
      cases hrun
      rw [op_rest h]
      exact ⟨hlatched, trivial⟩
  | rest request =>
      cases request with
      | inr query => cases hrun
      | inl op =>
          cases hrun
          cases h
          refine ⟨op_keeps_latch op hlatched, fun run hrun => ?_⟩
          cases hrun
          exact ⟨s.rest, hlatched, rfl⟩

theorem outside_keeps_latch {event : TradingEvent} (h : tradingOutside s event = some s')
    (hlatched : s.rest.LatchedFor instId reason) : s'.rest.LatchedFor instId reason := by
  cases event with
  | client event =>
      obtain ⟨rest, hrest, rfl⟩ := Option.map_eq_some_iff.1 h
      have hblind : OutsideBlind (·.instrumentMetadataSafetyLatches) := fun _ _ _ _ _ _ => rfl
      show rest.LatchedFor instId reason
      rw [ClientState.LatchedFor, outside_keeps hblind hrest]
      exact hlatched
  | sent | arrival | timeout => rwa [onSession_rest h]

theorem dropped_rest (j : ℕ) (s : TradingState) : (tradingDropped j s).rest = s.rest := by
  unfold tradingDropped
  split
  · rfl
  · split <;> rfl

end Keeps

/-! ## Whole runs -/

/-- Since call `n` nothing was handed over for the instrument, and nothing will be. -/
structure Withheld (instId : Text) (reason : Message) (n : ℕ) (earlier log : List (ℕ × Submission))
    (pool : TradingPool) : Prop where
  accounts : Accounts (earlier ++ log) pool
  latched : pool.shared.rest.LatchedFor instId reason
  jobs : ∀ k call task, n ≤ k → pool.jobs[k]? = some ⟨call, some task⟩ → call.Checked instId →
    FailsLatched instId reason task
  nothing : ∀ entry ∈ log, entry.2.counts = true → n ≤ entry.1 →
    ∃ job, pool.jobs[entry.1]? = some job ∧ ¬ job.call.Checked instId

section Runs

variable {pool next last : TradingPool} {turn : TradingTurn} {turns before : List TradingTurn}
  {instId : Text} {reason : Message} {n : ℕ} {earlier log : List (ℕ × Submission)}

/-- What is handed over was asked for by the call it is charged to. -/
theorem handing_asks (h : Accounts log pool) (hstep : tradingSystem.step pool turn = some next) :
    ∀ entry ∈ handedOver pool turn, entry.2.counts = true → ∃ call q rest,
      pool.jobs[entry.1]? = some ⟨call, some (.await q rest)⟩ ∧ ¬ Harmless q := by
  intro entry hentry hcounts
  rcases handedOver_cases hstep hentry with ⟨held, hsending, rfl⟩ |
    ⟨k, call, query, rest, rfl, hjob⟩
  · obtain ⟨call, rest, hjob, -⟩ := h.holder (sending_held hsending)
    exact ⟨call, _, rest, hjob, id⟩
  · refine ⟨call, _, rest, hjob, fun hharmless => ?_⟩
    have hnone : query.isExposure = false := hharmless
    rw [Submission.counts, hnone] at hcounts
    cases hcounts

/-- **A turn** hands nothing over for the instrument. -/
theorem withheld_step (h : Withheld instId reason n earlier log pool)
    (hstep : tradingSystem.step pool turn = some next) :
    Withheld instId reason n earlier (log ++ handedOver pool turn) next := by
  refine ⟨?_, ?_, ?_, ?_⟩
  · rw [← List.append_assoc]
    exact accounts_step h.accounts hstep
  · rcases Guarded.System.step_cases hstep with ⟨event, shared, rfl, hshared, rfl⟩ |
      ⟨call, rfl, rfl⟩ | ⟨j, call, q, rest, run, answer, shared, rfl, -, hrun, hsome, rfl⟩ |
      ⟨j, call, q, rest, answer, rfl, -, -, rfl⟩ | ⟨j, call, q, rest, rfl, -, rfl⟩
    · exact outside_keeps_latch hshared h.latched
    · exact h.latched
    · exact (segment_keeps_latch hrun hsome h.latched).1
    · exact h.latched
    · show (tradingDropped j pool.shared).rest.LatchedFor instId reason
      rw [dropped_rest]
      exact h.latched
  · intro k call task hk hjob hcall
    rcases Guarded.System.job_step hstep hjob with hold | ⟨-, -, hnew⟩ |
      ⟨q, later, answer, hold, hnew, hhow⟩ | ⟨q, later, -, -, hnew⟩
    · exact h.jobs k call task hk hold hcall
    · cases hnew
      exact checked_failsLatched hcall
    · cases hnew
      refine (h.jobs k call _ hk hold hcall).2 answer ?_
      rcases hhow with ⟨run, -, hrun, hsome⟩ | ⟨-, hnone⟩
      · exact (segment_keeps_latch hrun hsome h.latched).2
      · cases q with
        | segment op => cases hnone
        | connect timestamp => trivial
        | rest request => cases request with
          | inl op => cases hnone
          | inr query => exact fun run hrun => (by cases hrun)
    · cases hnew
  · intro entry hentry hcounts hn
    have hbefore : ∃ job, pool.jobs[entry.1]? = some job ∧ ¬ job.call.Checked instId := by
      rcases List.mem_append.1 hentry with hold | hnew
      · exact h.nothing entry hold hcounts hn
      · obtain ⟨call, q, rest, hjob, hasks⟩ := handing_asks h.accounts hstep entry hnew hcounts
        exact ⟨_, hjob, fun hcall => hasks (h.jobs _ call _ hn hjob hcall).1⟩
    obtain ⟨job, hjob, hcall⟩ := hbefore
    obtain ⟨job', hjob', hsame⟩ := Guarded.System.job_kept hstep hjob
    exact ⟨job', hjob', by rwa [hsame]⟩

/-- **A latched instrument gets no order**: from a point of a run at which the latch of the
instrument is set, the latch stays, every later call that places or amends an order of the
instrument fails, and none of them hands anything over, neither over the session nor over REST,
whatever calls run beside them. -/
theorem latch_withholds {rest : ClientState} {configured : Bool}
    (hpool : tradingSystem.run ⟨.new rest configured, []⟩ before = some pool)
    (hlatched : pool.shared.rest.LatchedFor instId reason)
    (h : tradingSystem.run pool turns = some last) :
    last.shared.rest.LatchedFor instId reason ∧
    (∀ k call outcome, pool.jobs.length ≤ k → last.jobs[k]? = some ⟨call, some (.done outcome)⟩ →
      call.Checked instId → ∃ e, outcome = .error e) ∧
    ∀ entry ∈ tradingSystem.observed handedOver pool turns, entry.2.counts = true →
      pool.jobs.length ≤ entry.1 →
        ∃ job, last.jobs[entry.1]? = some job ∧ ¬ job.call.Checked instId := by
  have hstart : Withheld instId reason pool.jobs.length
      (tradingSystem.observed handedOver ⟨.new rest configured, []⟩ before) [] pool := by
    refine ⟨?_, hlatched, fun k call task hk hjob => ?_, fun _ hentry => (by cases hentry)⟩
    · rw [List.append_nil]
      exact accounts_run (lockSound_new rest configured) rfl rfl hpool
    · rw [List.getElem?_eq_none hk] at hjob
      cases hjob
  have hend := Guarded.System.run_history (J := Withheld instId reason pool.jobs.length
    (tradingSystem.observed handedOver ⟨.new rest configured, []⟩ before)) handedOver []
    (fun _ _ _ _ h hstep => withheld_step h hstep) h hstart
  exact ⟨hend.latched, fun k call outcome hk hjob hcall => hend.jobs k call _ hk hjob hcall,
    hend.nothing⟩

end Runs

/-! ## An order for a latched instrument -/

/-- A message contradicts the row of the instrument, and a ticker lookup finds it. -/
def sampleLatching : List (TradingPool → List TradingTurn) :=
  sampleConnecting ++ [fun _ => [.outside (.client (.publicInstruments (fun _ => sampleWalk)
      ⟨some spotText, some [sampleUpdate (.value 5)], 0⟩))],
    fun _ => [.start (.rest (.ticker sampleInstId))], tradingSystem.turnsOf sampleAnswers 3 9]

/-- An order for the instrument. -/
def sampleRefused : List (TradingPool → List TradingTurn) :=
  [fun _ => [.start (.placeOrder sampleCommand)], tradingSystem.turnsOf sampleAnswers 4 40]

/-- The order fails, and nothing is handed over for it. -/
theorem latch_withholds_refused : ∃ pool reason last, tradingSystem.run sampleTrading
      (tradingSystem.script sampleLatching sampleTrading) = some pool ∧
    tradingSystem.run pool (tradingSystem.script sampleRefused pool) = some last ∧
    (∃ e, tradingOutcome last 4 = some (.error e)) ∧
    last.shared.rest.LatchedFor sampleInstId reason ∧
    ∀ entry ∈ tradingSystem.observed handedOver pool (tradingSystem.script sampleRefused pool),
      entry.2.counts = true → pool.jobs.length ≤ entry.1 →
        ∃ job, last.jobs[entry.1]? = some job ∧ ¬ job.call.Checked sampleInstId := by
  have hruns : (tradingSystem.run sampleTrading
      (tradingSystem.script sampleLatching sampleTrading)).any fun pool =>
        (pool.shared.rest.instrumentMetadataSafetyLatches sampleInstId).isSome &&
          (tradingSystem.run pool (tradingSystem.script sampleRefused pool)).any fun last =>
            (tradingOutcome last 4).any fun outcome => !outcome.isOk := by decide +kernel
  obtain ⟨pool, hpool, hboth⟩ := (Option.any_eq_true _ _).1 hruns
  obtain ⟨hlatch, hrefused⟩ := Bool.and_eq_true_iff.1 hboth
  obtain ⟨reason, hreason⟩ := Option.isSome_iff_exists.1 hlatch
  obtain ⟨last, hlast, hended⟩ := (Option.any_eq_true _ _).1 hrefused
  obtain ⟨outcome, houtcome, herror⟩ := (Option.any_eq_true _ _).1 hended
  obtain ⟨hlatched, -, hnothing⟩ := latch_withholds hpool hreason hlast
  refine ⟨pool, reason, last, hpool, hlast, ?_, hlatched, hnothing⟩
  cases outcome with
  | error e => exact ⟨e, houtcome⟩
  | ok u => cases herror

end OkxTrading
