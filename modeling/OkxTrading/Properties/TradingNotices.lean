import OkxTrading.Properties.TradingEvidence

/-!
# What the exchange said

Over whole runs of a trading client: what each call was told, and that its success rests on it.

* `Notice`, `noticed` — what a turn tells, and to which call.
* `TradingCall.Confirms` — the notice is about the mutation the call was asked for, and says what
  the call returns.
* `TradingState.Evident`, `Evidence` — what holds of the commands and of what was told so far;
  `Evident.onSession`, `Evident.segment`, … — what each kind of turn does to it.
* `success_confirmed` — **every success was told**, in every run.
-/

namespace OkxTrading

open Effect

/-! ## Notices -/

/-- What a call is told, of its own command and by the exchange. -/
inductive Notice where
  /-- The command begins under the id. -/
  | issued (request : OkxWebsocketOrderRequest) (id : Text)
  /-- The response to a command, read while the command waits for it under its id. -/
  | acknowledged (request : OkxWebsocketOrderRequest) (id : Text)
      (response : OkxWebsocketOrderCommandResponse)
  | answered (query : RestRequest) (reply : Except OkxError query.Value)

/-- The command that waits for its acknowledgement, and its id. -/
def TradingState.reading (s : TradingState) : Option (HeldCommand × Text) :=
  match s.commands.held, s.commands.session with
  | some held, some session =>
      match session.running with
      | some (expected, .readingAck) => some (held, expected.id)
      | _ => none
  | _, _ => none

/-- The id under which a command begins. -/
def TradingState.begun (s : TradingState) (k : ℕ) : TradingRequest → List (ℕ × Notice)
  | .segment (.beginCommand request) => (s.commands.session.map fun _ =>
      (k, .issued request (nextWebsocketRequestId s.websocketRequestNonce request.operation
        request.clientOrderId).1)).toList
  | _ => []

/-- What a turn tells, and to which call. -/
def noticed (pool : TradingPool) : TradingTurn → List (ℕ × Notice)
  | .segment k => (Guarded.System.waiting pool k).elim [] (pool.shared.begun k)
  | .outside (.arrival (.message (.text (.json _ _ (some response))))) =>
      (pool.shared.reading.map fun (held, id) =>
        (held.job, .acknowledged held.request id response)).toList
  | .answer k ⟨.rest (.inr query), reply⟩ => [(k, .answered query reply)]
  | _ => []

/-- The response acknowledges the request that was sent under the id, and reads as the
acknowledgement. -/
structure AcknowledgedBy (request : OkxWebsocketOrderRequest) (id : Text)
    (response : OkxWebsocketOrderCommandResponse) (acknowledgement : OkxOrderAck) : Prop where
  acknowledges : Acknowledges (request.expected id) response
  reads : parseOrderCommandAck (some response) (request.expected id) = .ok acknowledgement

/-- The notice is about the mutation the call was asked for, which rests on what the call was told,
and says what the call returns. -/
def TradingCall.Confirms (call : TradingCall) (told : Ground → Prop) (value : Option OkxOrderAck) :
    Notice → Prop
  | .issued _ _ => False
  | .acknowledged request id response => call.Submits (.websocket request) ∧
      (∀ ground ∈ call.grounds (.segment (.beginCommand request)), told ground) ∧
      ∃ acknowledgement, AcknowledgedBy request id response acknowledgement ∧
        call.Returns value acknowledgement
  | .answered query reply => (query.isExposure = true → call.Submits (.rest query)) ∧
      (∀ ground ∈ call.grounds (.rest (.inr query)), told ground) ∧
      call.AnsweredBy value query reply

namespace TradingState

variable {s s' : TradingState} {log more : List (ℕ × Notice)} {held : HeldCommand}

/-- The command that runs was begun under its id, and one that ended well was acknowledged. -/
structure Evident (s : TradingState) (log : List (ℕ × Notice)) : Prop where
  running : ∀ held session expected phase, s.commands.held = some held →
    s.commands.session = some session → session.running = some (expected, phase) →
    expected = held.request.expected expected.id ∧
      (held.job, Notice.issued held.request expected.id) ∈ log
  outcomes : ∀ k acknowledgement, s.outcomes k = some (.ok acknowledgement) →
    ∃ request id response, (k, Notice.acknowledged request id response) ∈ log ∧
      AcknowledgedBy request id response acknowledgement

theorem Evident.append (h : s.Evident log) : s.Evident (log ++ more) := by
  constructor
  · intro held session expected phase hheld hsession hrunning
    obtain ⟨hexpected, hissued⟩ := h.running held session expected phase hheld hsession hrunning
    exact ⟨hexpected, List.mem_append_left _ hissued⟩
  · intro k acknowledgement houtcome
    obtain ⟨request, id, response, hmem, hack⟩ := h.outcomes k acknowledgement houtcome
    exact ⟨request, id, response, List.mem_append_left _ hmem, hack⟩

theorem SameLock.evident (hsame : SameLock s s') (h : s.Evident log) : s'.Evident log := by
  constructor
  · intro held session expected phase hheld hsession hrunning
    rw [hsame.held] at hheld
    rw [hsame.session (by rw [hheld]; rfl)] at hsession
    exact h.running held session expected phase hheld hsession hrunning
  · rw [hsame.outcomes]
    exact h.outcomes

/-- What an event of the session, or the begin of a command, leaves. -/
theorem Evident.afterSession (h : s.Evident log) (held : HeldCommand)
    {result : TradingSession × Option CommandOutcome}
    (hrunning : ∀ expected phase, result.1.running = some (expected, phase) →
      expected = held.request.expected expected.id ∧
        (held.job, Notice.issued held.request expected.id) ∈ log)
    (hok : ∀ acknowledgement, result.2 = some (.ok acknowledgement) → ∃ id response,
      (held.job, Notice.acknowledged held.request id response) ∈ log ∧
        AcknowledgedBy held.request id response acknowledgement) :
    (s.afterSession held result).Evident log := by
  obtain ⟨session, outcome⟩ := result
  cases outcome with
  | none =>
      refine ⟨?_, h.outcomes⟩
      rintro _ _ expected phase ⟨⟩ ⟨⟩ hphase
      exact hrunning expected phase hphase
  | some ended =>
      constructor
      · intro held session expected phase hheld
        cases ended <;> cases hheld
      · intro k acknowledgement houtcome
        change Function.update s.outcomes held.job (some ended) k = _ at houtcome
        by_cases hk : k = held.job
        · subst hk
          rw [Function.update_self] at houtcome
          obtain ⟨id, response, hmem, hack⟩ := hok acknowledgement houtcome
          exact ⟨held.request, id, response, hmem, hack⟩
        · rw [Function.update_of_ne hk] at houtcome
          exact h.outcomes k acknowledgement houtcome

/-- **The session**: a command ends well only with a notice. -/
theorem Evident.onSession {event : SessionEvent} (jobs) (h : s.Evident log)
    (hsome : s.onSession event = some s') (hevent : TradingSession.IsWire event)
    (hmore : ∀ op response parsed now,
      event = .arrival (.message (.text (.json op response (some parsed)))) now →
      more = noticed ⟨s, jobs⟩ (.outside (.arrival (.message (.text
        (.json op response (some parsed))))))) : s'.Evident (log ++ more) := by
  obtain ⟨held, session, hheld, hsession, rfl⟩ := onSession_eq_some hsome
  refine h.append.afterSession held (fun expected phase hrunning => ?_)
    fun acknowledgement hok => ?_
  · rcases step_running hrunning with ⟨phase', hold⟩ | ⟨request, now, rfl, -⟩
    · exact h.append.running held session expected phase' hheld hsession hold
    · exact hevent.elim
  · obtain ⟨expected, op, response, parsed, now, hrunning, rfl, hack, hparse⟩ := step_ok hok
    obtain ⟨hexpected, -⟩ := h.running held session expected .readingAck hheld hsession hrunning
    have hreading : s.reading = some (held, expected.id) := by
      simp only [reading, hheld, hsession, hrunning]
    rw [hexpected] at hack hparse
    refine ⟨expected.id, parsed, List.mem_append_right _ ?_, hack, hparse⟩
    rw [hmore op response parsed now rfl, noticed, hreading]
    exact List.mem_singleton.2 rfl

/-- A command that begins waits under its id, or ends badly. -/
theorem call_evident {session : TradingSession} {request : OkxWebsocketOrderRequest} {now : Instant}
    (hidle : session.running = none) :
    (∀ expected phase, (session.call request now).1.running = some (expected, phase) →
      expected = request.expected (nextWebsocketRequestId session.websocketRequestNonce
        request.operation request.clientOrderId).1) ∧
    ∀ acknowledgement, (session.call request now).2 ≠ some (.ok acknowledgement) := by
  have hstep : session.call request now = session.step (.call request now) := rfl
  rw [hstep]
  constructor
  · intro expected phase hrunning
    rcases step_running hrunning with ⟨phase', hold⟩ | ⟨called, now, hevent, -, rfl⟩
    · cases hidle.symm.trans hold
    · cases hevent
      rfl
  · intro acknowledgement hok
    obtain ⟨_, _, _, _, _, -, hevent, -⟩ := step_ok hok
    cases hevent

/-- **Segments** give no call more than it was told. -/
theorem Evident.segment {q : TradingRequest} {answer : q.Reply} {j : ℕ}
    {run : ℕ → TradingState → Option (q.Reply × TradingState)} (h : s.Evident log)
    (hlock : s.LockSound) (hrun : tradingSegment q = some run)
    (hsome : run j s = some (answer, s')) : s'.Evident (log ++ s.begun j q) := by
  have hplain : SessionFree q → s'.Evident (log ++ s.begun j q) := fun hq =>
    (segment_sameLock hq hrun hsome).evident h.append
  cases q with
  | connect timestamp => cases hrun
  | rest request => exact hplain trivial
  | segment op =>
      cases op with
      | beginCommand request =>
          cases hrun
          obtain ⟨hnone, ⟨-, -, rfl⟩ | ⟨session, _, hsession, rfl, -, rfl⟩⟩ :=
            beginCommand_eq_some hsome
          · exact Evident.append ⟨h.running, h.outcomes⟩
          · have hidle : { session with
                websocketRequestNonce := s.websocketRequestNonce }.running = none :=
              hlock.free hnone session hsession
            obtain ⟨hrunning, hbad⟩ := call_evident hidle
            refine Evident.afterSession ?_ ⟨j, request⟩ (fun expected phase hphase => ?_)
              fun acknowledgement hok => absurd hok (hbad acknowledgement)
            · exact Evident.append ⟨h.running, h.outcomes⟩
            · obtain rfl := hrunning expected phase hphase
              refine ⟨rfl, List.mem_append_right _ ?_⟩
              rw [begun, hsession]
              exact List.mem_singleton.2 rfl
      | commandOutcome =>
          cases hrun
          obtain ⟨outcome, -, hstep⟩ := Option.map_eq_some_iff.1 hsome
          cases hstep
          refine Evident.append ⟨h.running, fun k acknowledgement houtcome => ?_⟩
          change Function.update s.outcomes j none k = _ at houtcome
          by_cases hk : k = j
          · rw [hk, Function.update_self] at houtcome
            cases houtcome
          · rw [Function.update_of_ne hk] at houtcome
            exact h.outcomes k acknowledgement houtcome
      | _ => exact hplain trivial

theorem Evident.dropped (h : s.Evident log) (j : ℕ) : (tradingDropped j s).Evident log := by
  unfold tradingDropped
  split
  · exact h
  · split
    · exact ⟨fun _ _ _ _ hheld => (by cases hheld), h.outcomes⟩
    · exact h

/-- **Events from outside.** -/
theorem Evident.outside {event : TradingEvent} {jobs} (h : s.Evident log)
    (hsome : tradingOutside s event = some s') :
    s'.Evident (log ++ noticed ⟨s, jobs⟩ (.outside event)) := by
  cases event with
  | client event =>
      obtain ⟨rest, -, rfl⟩ := Option.map_eq_some_iff.1 hsome
      exact Evident.append ⟨h.running, h.outcomes⟩
  | sent ok => exact h.onSession jobs hsome trivial (by rintro _ _ _ _ ⟨⟩)
  | timeout => exact h.onSession jobs hsome trivial (by rintro _ _ _ _ ⟨⟩)
  | arrival arrival =>
      refine h.onSession jobs hsome trivial ?_
      rintro op response parsed now hevent
      cases hevent
      rfl

end TradingState

/-! ## Whole runs -/

/-- What the calls were told, beside what they handed over. -/
structure Evidence (log : List (ℕ × Notice)) (pool : TradingPool) : Prop where
  accounts : ∃ handed, Accounts handed pool
  evident : pool.shared.Evident log
  own : ∀ k request id response, (k, Notice.acknowledged request id response) ∈ log →
    (k, Notice.issued request id) ∈ log ∧
      ∃ job, pool.jobs[k]? = some job ∧ job.call.Submits (.websocket request)

section Runs

variable {pool next last : TradingPool} {turn : TradingTurn} {turns : List TradingTurn}
  {log : List (ℕ × Notice)}

theorem reading_eq_some {s : TradingState} {held : HeldCommand} {id : Text}
    (h : s.reading = some (held, id)) : ∃ session expected, s.commands.held = some held ∧
      s.commands.session = some session ∧ session.running = some (expected, .readingAck) ∧
      id = expected.id := by
  unfold TradingState.reading at h
  split at h
  · rename_i held' session hheld hsession
    split at h
    · rename_i expected hrunning
      cases h
      exact ⟨session, expected, hheld, hsession, hrunning, rfl⟩
    · cases h
  · cases h

/-- A response is read by the command that waits for it. -/
theorem noticed_acknowledged {k : ℕ} {request : OkxWebsocketOrderRequest} {id : Text}
    {response : OkxWebsocketOrderCommandResponse}
    (h : (k, Notice.acknowledged request id response) ∈ noticed pool turn) :
    ∃ held, pool.shared.reading = some (held, id) ∧ k = held.job ∧ request = held.request := by
  unfold noticed at h
  split at h
  · rename_i j
    cases hwaiting : Guarded.System.waiting pool j with
    | none =>
        rw [hwaiting] at h
        cases h
    | some q =>
        rw [hwaiting, Option.elim_some] at h
        unfold TradingState.begun at h
        split at h
        · simp only [Option.mem_toList, Option.map_eq_some_iff] at h
          obtain ⟨_, -, heq⟩ := h
          cases heq
        · cases h
  · simp only [Option.mem_toList, Option.map_eq_some_iff] at h
    obtain ⟨⟨held, id⟩, hreading, hheard⟩ := h
    cases hheard
    exact ⟨held, hreading, rfl, rfl⟩
  · cases List.mem_singleton.1 h
  · cases h

/-- An acknowledgement is read under an id that was issued to the call. -/
theorem noticed_issued {k : ℕ} {request : OkxWebsocketOrderRequest} {id : Text}
    {response : OkxWebsocketOrderCommandResponse} (h : pool.shared.Evident log)
    (hnotice : (k, Notice.acknowledged request id response) ∈ noticed pool turn) :
    (k, Notice.issued request id) ∈ log := by
  obtain ⟨held, hreading, rfl, rfl⟩ := noticed_acknowledged hnotice
  obtain ⟨session, expected, hheld, hsession, hrunning, rfl⟩ := reading_eq_some hreading
  exact (h.running held session expected .readingAck hheld hsession hrunning).2

/-- **A turn** keeps what the calls rest on. -/
theorem evidence_step (h : Evidence log pool) (hstep : tradingSystem.step pool turn = some next) :
    Evidence (log ++ noticed pool turn) next := by
  obtain ⟨handed, haccounts⟩ := h.accounts
  refine ⟨⟨_, accounts_step haccounts hstep⟩, ?_, ?_⟩
  · rcases Guarded.System.step_cases hstep with ⟨event, shared, rfl, hshared, rfl⟩ |
      ⟨call, rfl, rfl⟩ | ⟨j, call, q, rest, run, answer, shared, rfl, hjob, hrun, hsome, rfl⟩ |
      ⟨j, call, q, rest, answer, rfl, -, -, rfl⟩ | ⟨j, call, q, rest, rfl, -, rfl⟩
    · exact h.evident.outside hshared
    · exact h.evident.append
    · rw [noticed, Guarded.System.waiting_eq_some.2 ⟨call, rest, hjob⟩]
      exact h.evident.segment haccounts.lock hrun hsome
    · exact h.evident.append
    · exact (h.evident.dropped j).append
  · intro k request id response hnotice
    have hbefore : (k, Notice.issued request id) ∈ log ∧
        ∃ job, pool.jobs[k]? = some job ∧ job.call.Submits (.websocket request) := by
      rcases List.mem_append.1 hnotice with hold | hnew
      · exact h.own k request id response hold
      · refine ⟨noticed_issued h.evident hnew, ?_⟩
        obtain ⟨held, hreading, rfl, rfl⟩ := noticed_acknowledged hnew
        obtain ⟨_, _, hheld, -⟩ := reading_eq_some hreading
        obtain ⟨call, task, hjob, hsubmits⟩ := haccounts.holder hheld
        exact ⟨_, hjob, hsubmits⟩
    obtain ⟨hissued, job, hjob, hsubmits⟩ := hbefore
    obtain ⟨job', hjob', hcall⟩ := Guarded.System.job_kept hstep hjob
    exact ⟨List.mem_append_left _ hissued, job', hjob', by rwa [hcall]⟩

/-- **In every run** from a state in which no call is under way. -/
theorem evidence_run {rest : ClientState} {configured : Bool}
    (h : tradingSystem.run ⟨.new rest configured, []⟩ turns = some last) :
    Evidence (tradingSystem.observed noticed ⟨.new rest configured, []⟩ turns) last := by
  have hstart : Evidence [] (⟨.new rest configured, []⟩ : TradingPool) := by
    have hempty : tradingSystem.run (⟨.new rest configured, []⟩ : TradingPool) [] = some _ := rfl
    refine ⟨⟨_, accounts_run (lockSound_new rest configured) rfl rfl hempty⟩,
      ⟨fun _ _ _ _ hheld => (by cases hheld), fun _ _ houtcome => (by cases houtcome)⟩,
      fun _ _ _ _ hnotice => (by cases hnotice)⟩
  exact Guarded.System.run_history (J := Evidence) noticed []
    (fun _ _ _ _ h hstep => evidence_step h hstep) h hstart

/-- The command that was acknowledged rests on what its call was told. -/
theorem acknowledged_justified {s : TradingState} (hfree : s.commands.held = none)
    (hcodes : s.websocketInstIdCodes = fun _ => none)
    (h : tradingSystem.run ⟨s, []⟩ turns = some last) {k : ℕ} {request : OkxWebsocketOrderRequest}
    {id : Text} {response : OkxWebsocketOrderCommandResponse}
    (hnotice : (k, Notice.acknowledged request id response) ∈
      tradingSystem.observed noticed ⟨s, []⟩ turns) :
    Justifies s turns last k (.segment (.beginCommand request)) := by
  refine Guarded.System.run_turns (J := fun turns pool =>
    (k, Notice.acknowledged request id response) ∈ tradingSystem.observed noticed ⟨s, []⟩ turns →
      Justifies s turns pool k (.segment (.beginCommand request))) ?_ h
      (fun hnone => (by cases hnone))
    hnotice
  intro before mid turn next hmid hbefore hstep hseen
  rw [Guarded.System.observed_append hmid, Guarded.System.observed_cons hstep,
    Guarded.System.observed, List.append_nil] at hseen
  rcases List.mem_append.1 hseen with hold | hnew
  · exact (hbefore hold).step hstep
  · obtain ⟨held, hreading, rfl, rfl⟩ := noticed_acknowledged hnew
    obtain ⟨_, _, hheld, -⟩ := reading_eq_some hreading
    exact ((justified_run hfree hcodes hmid).held held hheld).step hstep

/-- **Every success was told**: a command that returns a success was told so by the exchange, by an
acknowledgement of its own command or by an answer over REST, in every run of a trading client,
whatever calls it serves beside each other. -/
theorem success_confirmed {rest : ClientState} {configured : Bool} {k : ℕ} {call : TradingCall}
    {value : Option OkxOrderAck} (hcommand : call.isCommand = true)
    (h : tradingSystem.run ⟨.new rest configured, []⟩ turns = some last)
    (hjob : last.jobs[k]? = some ⟨call, some (.done (.ok value))⟩) :
    ∃ notice, (k, notice) ∈ tradingSystem.observed noticed ⟨.new rest configured, []⟩ turns ∧
      call.Confirms
        (fun ground => tradingSystem.WasTold (.new rest configured) turns k ground.ToldBy)
        value notice := by
  obtain ⟨before, turn, after, mid, q, answer, rfl, hmid, htells, htold⟩ :=
    Guarded.System.run_rests (call_rests call hcommand) h hjob
  have hevidence := evidence_run hmid
  obtain ⟨mid', hmid', hafter⟩ := Guarded.System.run_append.1 h
  cases hmid.symm.trans hmid'
  have hcall : ∀ {job}, mid.jobs[k]? = some job → call = job.call := fun hold =>
    Guarded.System.run_job_kept hafter hold hjob
  have hgrounds : ∀ {q}, Justifies (.new rest configured) before mid k q →
      ∀ ground ∈ call.grounds q, tradingSystem.WasTold (.new rest configured)
        (before ++ turn :: after) k ground.ToldBy := by
    rintro q ⟨job, hold, hknown⟩ ground hground
    rw [hcall hold] at hground
    exact (hknown ground hground).append _
  rcases htells with ⟨run, shared, rfl, hrun, hsome⟩ | ⟨rfl, hnone⟩
  · cases q with
    | connect timestamp => cases hrun
    | rest request => cases request with
      | inl op => cases htold
      | inr query => cases hrun
    | segment op => cases op with
      | commandOutcome =>
          cases hrun
          obtain ⟨acknowledgement, rfl, hreturns⟩ := htold
          obtain ⟨outcome, houtcome, hstep⟩ := Option.map_eq_some_iff.1 hsome
          cases hstep
          obtain ⟨request, id, response, hnotice, hack⟩ :=
            hevidence.evident.outcomes k acknowledgement houtcome
          obtain ⟨-, job, hold, hsubmits⟩ := hevidence.own k request id response hnotice
          rw [← hcall hold] at hsubmits
          exact ⟨_, Guarded.System.observed_prefix hmid hnotice, hsubmits,
            hgrounds (acknowledged_justified rfl rfl hmid hnotice), acknowledgement, hack, hreturns⟩
      | _ => cases htold
  · cases q with
    | connect timestamp => cases htold
    | segment op => cases hnone
    | rest request => cases request with
      | inl op => cases hnone
      | inr query =>
          obtain ⟨next, hstep, -⟩ := Guarded.System.run_cons.1 hafter
          obtain ⟨call', rest', hold, -⟩ := Guarded.System.resume_eq_some.1 hstep
          refine ⟨.answered query answer, Guarded.System.observed_turn hmid
            (List.mem_singleton.2 rfl), fun hexposure => ?_, hgrounds (justifies_waiting hmid
              (Guarded.System.waiting_eq_some.2 ⟨call', rest', hold⟩)), htold⟩
          obtain ⟨handed, haccounts⟩ := hevidence.accounts
          obtain ⟨t, hfollows, -⟩ := haccounts.jobs k call' _ hold
          rw [hcall hold]
          exact submits_of_allows hfollows.1 hexposure

end Runs

/-! ## An acknowledged command -/

def sampleResponse (id : Text) : OkxWebsocketOrderCommandResponse where
  id := id
  op := "order".toList
  code := ['0']
  data := [{
    clientOrderId := "order".toList
    orderId := ['8']
    requestId := []
    statusCode := ['0'] }]

/-- The response to the command that waits for it arrives. -/
def sampleArrival (pool : TradingPool) : List TradingTurn :=
  (pool.shared.reading.map fun (_, id) => .outside (.arrival (.message (.text (.json
    (some "order".toList) (some (sampleResponse id)) (some (sampleResponse id))))))).toList

/-- An order is sent over the session, and acknowledged. -/
def sampleAcknowledged : List (TradingPool → List TradingTurn) :=
  sampleConnecting ++ [fun _ => [.start (.placeOrder sampleCommand)],
    tradingSystem.turnsOf sampleAnswers 3 40, fun _ => [.outside (.sent true)], sampleArrival,
    tradingSystem.turnsOf sampleAnswers 3 20]

/-- The call a job is of, and how it ended. -/
def endedCall (pool : TradingPool) (k : ℕ) :
    Option (TradingCall × Except OkxError (Option OkxOrderAck)) :=
  pool.jobs[k]?.bind fun job => (job.rest.bind (·.outcome?)).map (job.call, ·)

theorem endedCall_eq_some {pool : TradingPool} {k : ℕ} {call : TradingCall}
    {outcome : Except OkxError (Option OkxOrderAck)} (h : endedCall pool k = some (call, outcome)) :
    pool.jobs[k]? = some ⟨call, some (.done outcome)⟩ := by
  obtain ⟨⟨call', rest⟩, hjob, hended⟩ := Option.bind_eq_some_iff.1 h
  obtain ⟨outcome', houtcome, heq⟩ := Option.map_eq_some_iff.1 hended
  cases heq
  obtain ⟨task, rfl, hdone⟩ := Option.bind_eq_some_iff.1 houtcome
  cases task with
  | done ended =>
      cases hdone
      exact hjob
  | await q next => cases hdone

def sampleAck : OkxOrderAck where
  orderId := ['8']
  clientOrderId := "order".toList
  statusCode := ['0']

/-- The call returns what the response says. -/
theorem success_confirmed_acknowledged : ∃ last notice,
    tradingSystem.run sampleTrading (tradingSystem.script sampleAcknowledged sampleTrading) =
      some last ∧
    (3, notice) ∈ tradingSystem.observed noticed sampleTrading
      (tradingSystem.script sampleAcknowledged sampleTrading) ∧
    (TradingCall.placeOrder sampleCommand).Confirms (fun ground => tradingSystem.WasTold
      sampleTrading.shared (tradingSystem.script sampleAcknowledged sampleTrading) 3 ground.ToldBy)
      (some sampleAck) notice := by
  have hruns : (tradingSystem.run sampleTrading
      (tradingSystem.script sampleAcknowledged sampleTrading)).any fun last =>
        decide (endedCall last 3 = some (.placeOrder sampleCommand, .ok (some sampleAck))) := by
    decide +kernel
  obtain ⟨last, hlast, hended⟩ := (Option.any_eq_true _ _).1 hruns
  obtain ⟨notice, hnotice, hconfirms⟩ :=
    success_confirmed rfl hlast (endedCall_eq_some (of_decide_eq_true hended))
  exact ⟨last, notice, hlast, hnotice, hconfirms⟩

end OkxTrading
