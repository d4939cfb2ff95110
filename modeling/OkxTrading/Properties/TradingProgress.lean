import OkxTrading.Properties.TradingSubmissions

/-!
# No call of the trading client is stuck

A call waits for an answer from outside, for the lock of the session, or for its own command.  The
lock is only ever held by a call whose command is under way, and one failed send or one timeout ends
that command wherever it stands.

* `session_ends` — the command that holds the session can be ended by one event.
* `calls_go_on` — **every call that has not ended can go on**, in every state that a run reaches.
-/

namespace OkxTrading

open Effect

/-- What ends a command that waits: its send fails, or the time for an answer is over. -/
def givesUp : CommandPhase → TradingEvent
  | .idlePing | .sending => .sent false
  | .idlePong | .readingAck => .timeout

/-- **One event ends the command that holds the session**, and frees the session. -/
theorem session_ends {s : TradingState} {held : HeldCommand} (hlock : s.LockSound)
    (hheld : s.commands.held = some held) : ∃ phase s', tradingOutside s (givesUp phase) = some s' ∧
      s'.commands.held = none ∧ (s'.outcomes held.job).isSome = true := by
  obtain ⟨session, ⟨expected, phase⟩, hsession, hrunning⟩ := hlock.held held hheld
  have hends : ∀ {event : SessionEvent} {error : OkxWebsocketCommandError},
      session.step event = session.finish (.error error) → ∃ s', s.onSession event = some s' ∧
        s'.commands.held = none ∧ (s'.outcomes held.job).isSome = true := by
    intro event error hstep
    refine ⟨s.afterSession held (session.step event), ?_, ?_, ?_⟩
    · simp only [TradingState.onSession, hheld, hsession]
    · rw [hstep]
      rfl
    · rw [hstep]
      show (Function.update s.outcomes held.job _ held.job).isSome = true
      rw [Function.update_self]
      rfl
  refine ⟨phase, ?_⟩
  cases phase with
  | idlePing | sending =>
      exact hends (by simp only [TradingSession.step, TradingSession.onSent, hrunning]; rfl)
  | idlePong | readingAck =>
      exact hends (by simp only [TradingSession.step, TradingSession.onTimeout, hrunning]; rfl)

section Progress

variable {pool : TradingPool} {turns : List TradingTurn} {k : ℕ} {q : TradingRequest}
  {log : List (ℕ × Submission)}

/-- The call can go on: it is answered from outside, its segment runs, or its segment runs once the
command that holds the session has been given up. -/
def CanGoOn (pool : TradingPool) (k : ℕ) (q : TradingRequest) : Prop :=
  (tradingSegment q = none ∧
    ∀ reply, (tradingSystem.step pool (.answer k ⟨q, reply⟩)).isSome = true) ∨
  (tradingSystem.step pool (.segment k)).isSome = true ∨
  ∃ phase next, tradingSystem.step pool (.outside (givesUp phase)) = some next ∧
    (tradingSystem.step next (.segment k)).isSome = true

/-- The session is held by a call that waits for its own command. -/
theorem Accounts.holder_waits {held : HeldCommand} (haccounts : Accounts log pool)
    (hheld : pool.shared.commands.held = some held) :
    Guarded.System.waiting pool held.job = some (.segment .commandOutcome) := by
  obtain ⟨call, later, hjob, -⟩ := haccounts.holder hheld
  exact Guarded.System.waiting_eq_some.2 ⟨call, later, hjob⟩

/-- Where every call keeps its account, one that waits can go on. -/
theorem Accounts.canGoOn (haccounts : Accounts log pool)
    (hwaiting : Guarded.System.waiting pool k = some q) : CanGoOn pool k q := by
  obtain ⟨call, later, hjob⟩ := Guarded.System.waiting_eq_some.1 hwaiting
  -- A segment that runs is a turn of the pool, also after an event.
  have hruns : ∀ {run}, tradingSegment q = some run → (run k pool.shared).isSome = true →
      CanGoOn pool k q := fun hrun hsome =>
    .inr (.inl ((Guarded.System.step_segment_isSome hjob hrun).trans hsome))
  have hafter : ∀ {run} {held : HeldCommand}, tradingSegment q = some run →
      pool.shared.commands.held = some held → (∀ s' : TradingState, s'.commands.held = none →
        (s'.outcomes held.job).isSome = true → (run k s').isSome = true) → CanGoOn pool k q := by
    intro run held hrun hheld hnext
    obtain ⟨phase, s', hevent, hfree, houtcome⟩ := session_ends haccounts.lock hheld
    have hfreed : (tradingSystem.step ⟨s', pool.jobs⟩ (.segment k)).isSome = (run k s').isSome :=
      Guarded.System.step_segment_isSome hjob hrun
    refine .inr (.inr ⟨phase, ⟨s', pool.jobs⟩, ?_, ?_⟩)
    · exact Option.map_eq_some_iff.2 ⟨s', hevent, rfl⟩
    · exact hfreed.trans (hnext s' hfree houtcome)
  cases q with
  | connect timestamp => exact .inl ⟨rfl, Guarded.System.step_answer_isSome hjob rfl⟩
  | rest request =>
      cases request with
      | inl op => exact hruns rfl rfl
      | inr query => exact .inl ⟨rfl, Guarded.System.step_answer_isSome hjob rfl⟩
  | segment op =>
      have hlocks : ∀ {run}, tradingSegment (.segment op) = some run →
          (∀ s' : TradingState, s'.commands.held = none → (run k s').isSome = true) →
          CanGoOn pool k (.segment op) := by
        intro run hrun hfree
        cases hheld : pool.shared.commands.held with
        | none => exact hruns hrun (hfree _ hheld)
        | some held => exact hafter hrun hheld fun s' hnone _ => hfree s' hnone
      cases op with
      | clearSession | storeSession =>
          refine hlocks rfl fun s' hnone => ?_
          simp only [TradingOp.run, hnone, Option.isSome_none, Bool.false_eq_true, if_false,
            Option.isSome_some]
      | beginCommand request =>
          refine hlocks rfl fun s' hnone => ?_
          simp only [TradingOp.run, TradingState.beginCommand, hnone, Option.isSome_none,
            Bool.false_eq_true, if_false]
          split <;> rfl
      | commandOutcome =>
          obtain ⟨t, hfollows, hstanding⟩ := haccounts.jobs k call _ hjob
          have hbegun : t = .begun := by
            cases t with
            | begun => rfl
            | unsent | sent => exact hfollows.1.elim
          subst hbegun
          generalize charged k log = n at hstanding
          cases hstanding with
          | running hheld hholder =>
              refine hafter rfl hheld fun s' _ houtcome => ?_
              rw [hholder] at houtcome
              show ((s'.outcomes k).map _).isSome = true
              rwa [Option.isSome_map]
          | ended _ houtcome =>
              refine hruns rfl ?_
              show ((pool.shared.outcomes k).map _).isSome = true
              rw [houtcome]
              rfl
      | _ => exact hruns rfl rfl

/-- **No call is stuck**: in every state a run of the trading client reaches, the session is held by
a call that waits for its own command if by any, and every call that has not ended can go on, at
most one failed send or one timeout away. -/
theorem calls_go_on {rest : ClientState} {configured : Bool}
    (h : tradingSystem.run ⟨.new rest configured, []⟩ turns = some pool) :
    (∀ held ∈ pool.shared.commands.held,
      Guarded.System.waiting pool held.job = some (.segment .commandOutcome)) ∧
      ∀ k q, Guarded.System.waiting pool k = some q → CanGoOn pool k q := by
  have haccounts := accounts_run (lockSound_new rest configured) rfl rfl h
  exact ⟨fun _ hheld => haccounts.holder_waits hheld,
    fun _ _ hwaiting => haccounts.canGoOn hwaiting⟩

end Progress

/-- A cancel is asked for while an order waits for its acknowledgement. -/
def sampleBehind : List (TradingPool → List TradingTurn) :=
  sampleConnecting ++ [fun _ => [.start (.placeOrder sampleCommand)],
    tradingSystem.turnsOf sampleAnswers 3 40, fun _ => [.outside (.sent true)],
    fun _ => [.start (.cancelOrder sampleInstId "order".toList)],
    tradingSystem.turnsOf sampleAnswers 4 3]

/-- The cancel waits for the session, which the order holds, and goes on once the order has given
up. -/
theorem calls_go_on_behind : ∃ pool q, tradingSystem.run sampleTrading
      (tradingSystem.script sampleBehind sampleTrading) = some pool ∧
    Guarded.System.waiting pool 3 = some (.segment .commandOutcome) ∧
    Guarded.System.waiting pool 4 = some q ∧
    (tradingSystem.step pool (.segment 4)).isSome = false ∧ CanGoOn pool 4 q := by
  have hruns : (tradingSystem.run sampleTrading
      (tradingSystem.script sampleBehind sampleTrading)).any fun pool =>
        decide (pool.shared.commands.held.map (·.job) = some 3) &&
          ((Guarded.System.waiting pool 4).isSome &&
            !(tradingSystem.step pool (.segment 4)).isSome) := by decide +kernel
  obtain ⟨pool, hpool, hall⟩ := (Option.any_eq_true _ _).1 hruns
  obtain ⟨hheld, hboth⟩ := Bool.and_eq_true_iff.1 hall
  obtain ⟨hsome, hstuck⟩ := Bool.and_eq_true_iff.1 hboth
  obtain ⟨held, hholds, hjob⟩ := Option.map_eq_some_iff.1 (of_decide_eq_true hheld)
  obtain ⟨q, hq⟩ := Option.isSome_iff_exists.1 hsome
  rw [Bool.not_eq_true'] at hstuck
  obtain ⟨hlock, hgoes⟩ := calls_go_on hpool
  exact ⟨pool, q, hpool, hjob ▸ hlock held hholds, hq, hstuck, hgoes 4 q hq⟩

end OkxTrading
