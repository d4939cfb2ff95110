import OkxTrading.Websocket.TradingSession

/-!
# Acknowledgements and their commands

Whatever is called on a session, abandoned and read, a command ends well only with a response that
carries its id, and the responses of other commands neither end it nor fail it.

* `step_running`, `step_seen`, `step_nonce` — what one event does to the session.
* `called_of_running`, `seen_of_run`, `nonce_run` — what holds after any run.
* `acks_correlated` — the correlation, over any run.
-/

namespace OkxTrading

open Effect TradingSession

/-! ## One event -/

section Step

variable {session : TradingSession} {event : SessionEvent}
  {expected : OkxWebsocketExpectedOrderAck} {phase : CommandPhase}

/-- What a text does to a command that waits for its acknowledgement. -/
theorem handleTextAck_cases (session : TradingSession) (payload : TradingText)
    (expected : OkxWebsocketExpectedOrderAck) :
    ((∃ e, parseCommandResponse payload = .error e ∧
        session.handleTextAck payload expected = (.error e, session.ackTracker)) ∨
      (parseCommandResponse payload = .ok none ∧
        session.handleTextAck payload expected = (.ok none, session.ackTracker))) ∨
    ∃ response, parseCommandResponse payload = .ok (some response) ∧
      ((∃ e, ensureRequestId response.id "OKX WebSocket acknowledgement id" = .error e ∧
        session.handleTextAck payload expected = (.error e, session.ackTracker)) ∨
      ∃ tracker, tracker.seenRequestIds ⊆ insert response.id session.ackTracker.seenRequestIds ∧
        ((response.id ≠ expected.id ∧
            session.handleTextAck payload expected = (.ok none, tracker)) ∨
          (response.id = expected.id ∧ response.id ∈ session.ackTracker.seenRequestIds ∧
            session.handleTextAck payload expected = (.ok none, tracker)) ∨
          (response.id = expected.id ∧ response.id ∉ session.ackTracker.seenRequestIds ∧
            ∃ op parsed, payload = .json op (some response) parsed ∧
              session.handleTextAck payload expected =
                ((parseOrderCommandAck parsed expected).map some, tracker)))) := by
  cases hparse : parseCommandResponse payload with
  | error e => exact .inl (.inl ⟨e, rfl, by simp only [handleTextAck, hparse]⟩)
  | ok response =>
    cases response with
    | none => exact .inl (.inr ⟨rfl, by simp only [handleTextAck, hparse]⟩)
    | some response =>
      refine .inr ⟨response, rfl, ?_⟩
      rcases session.ackTracker.record_cases response.id with ⟨e, he, hrecord⟩ |
        ⟨hseen, hrecord⟩ | ⟨hnew, tracker, hrecord, hsubset⟩
      · exact .inl ⟨e, he, by simp only [handleTextAck, hparse, hrecord]⟩
      · refine .inr ⟨session.ackTracker, Finset.subset_insert _ _, ?_⟩
        by_cases hid : response.id = expected.id
        · exact .inr (.inl ⟨hid, hseen, by
            simp only [handleTextAck, hparse, hrecord, if_neg (not_not.2 hid)]⟩)
        · exact .inl ⟨hid, by simp only [handleTextAck, hparse, hrecord, if_pos hid]⟩
      · refine .inr ⟨tracker, hsubset, ?_⟩
        by_cases hid : response.id = expected.id
        · refine .inr (.inr ⟨hid, hnew, ?_⟩)
          cases payload with
          | pong => cases hparse
          | malformed => cases hparse
          | json op inner parsed =>
            have hinner : inner = some response := by
              simp only [parseCommandResponse] at hparse
              split at hparse
              · cases inner with
                | none => cases hparse
                | some inner => exact congrArg some (Option.some.inj (Except.ok.inj hparse))
              · cases hparse
            refine ⟨op, parsed, by rw [hinner], ?_⟩
            simp only [handleTextAck, hparse, hrecord, if_neg (not_not.2 hid)]
        · exact .inl ⟨hid, by simp only [handleTextAck, hparse, hrecord, if_pos hid]⟩

/-- The command that holds the session goes on without a result, or lets it go. -/
def KeepsOrEnds (current : OkxWebsocketExpectedOrderAck)
    (result : TradingSession × Option CommandOutcome) : Prop :=
  (result.2 = none ∧ ∃ phase, result.1.running = some (current, phase)) ∨ result.1.running = none

theorem keepsOrEnds_wait (session : TradingSession) (current : OkxWebsocketExpectedOrderAck)
    (phase : CommandPhase) : KeepsOrEnds current (session.wait current phase) :=
  .inl ⟨rfl, phase, rfl⟩

theorem keepsOrEnds_finish (session : TradingSession) (current : OkxWebsocketExpectedOrderAck)
    (outcome : CommandOutcome) : KeepsOrEnds current (session.finish outcome) :=
  .inr rfl

theorem keepsOrEnds_readAck (session : TradingSession) (current : OkxWebsocketExpectedOrderAck)
    (message : TradingMessage) : KeepsOrEnds current (session.readAck current message) := by
  cases message with
  | text payload =>
    cases payload with
    | pong => exact keepsOrEnds_wait _ _ _
    | malformed => exact keepsOrEnds_finish _ _ _
    | json op response parsed =>
      simp only [readAck]
      split
      · exact keepsOrEnds_finish _ _ _
      · exact keepsOrEnds_wait _ _ _
      · exact keepsOrEnds_finish _ _ _
  | ping replied =>
    cases replied with
    | true => exact keepsOrEnds_wait _ _ _
    | false => exact keepsOrEnds_finish _ _ _
  | close => exact keepsOrEnds_finish _ _ _
  | pong | binary | frame => exact keepsOrEnds_wait _ _ _

theorem keepsOrEnds_waitForTextPong (session : TradingSession)
    (current : OkxWebsocketExpectedOrderAck) (message : TradingMessage) :
    KeepsOrEnds current (session.waitForTextPong current message) := by
  cases message with
  | text payload => cases payload <;> exact keepsOrEnds_wait _ _ _
  | ping replied =>
    cases replied with
    | true => exact keepsOrEnds_wait _ _ _
    | false => exact keepsOrEnds_finish _ _ _
  | close => exact keepsOrEnds_finish _ _ _
  | pong | binary | frame => exact keepsOrEnds_wait _ _ _

/-- An event leaves a command in its session, or ends it. -/
theorem keepsOrEnds_step {current : OkxWebsocketExpectedOrderAck}
    (h : session.running = some (current, phase)) (event : SessionEvent) :
    KeepsOrEnds current (session.step event) := by
  have hsame : KeepsOrEnds current (session, none) := .inl ⟨rfl, phase, h⟩
  cases event with
  | issue operation clientOrderId => exact .inl ⟨rfl, phase, h⟩
  | call request now =>
    simp only [TradingSession.step, TradingSession.call, h]
    exact hsame
  | abandon => exact .inr rfl
  | sent ok =>
    cases phase <;> simp only [TradingSession.step, onSent, h]
    case idlePing => cases ok with
      | true => exact keepsOrEnds_wait _ _ _
      | false => exact keepsOrEnds_finish _ _ _
    case sending => cases ok with
      | true => exact keepsOrEnds_wait _ _ _
      | false => exact keepsOrEnds_finish _ _ _
    all_goals exact hsame
  | timeout =>
    cases phase <;> simp only [TradingSession.step, onTimeout, h]
    case idlePong => exact keepsOrEnds_finish _ _ _
    case readingAck => exact keepsOrEnds_finish _ _ _
    all_goals exact hsame
  | arrival arrival now =>
    cases phase <;> simp only [TradingSession.step, onArrival, h]
    case idlePong => cases arrival with
      | message message => exact keepsOrEnds_waitForTextPong _ _ _
      | readError => exact keepsOrEnds_finish _ _ _
      | closed => exact keepsOrEnds_finish _ _ _
    case readingAck => cases arrival with
      | message message => exact keepsOrEnds_readAck _ _ _
      | readError => exact keepsOrEnds_finish _ _ _
      | closed => exact keepsOrEnds_finish _ _ _
    all_goals exact hsame

/-- After an event the session is held by the command that held it, or by the one called with it. -/
theorem step_running (h : (session.step event).1.running = some (expected, phase)) :
    (∃ phase', session.running = some (expected, phase')) ∨
      ∃ request now, event = .call request now ∧ session.running = none ∧
        expected = request.expected (nextWebsocketRequestId session.websocketRequestNonce
          request.operation request.clientOrderId).1 := by
  cases hrunning : session.running with
  | none =>
    cases event with
    | call request now =>
      simp only [TradingSession.step, TradingSession.call, hrunning] at h
      split at h
      · cases h
      · exact .inr ⟨request, now, rfl, rfl, (Prod.mk.inj (Option.some.inj h)).1.symm⟩
    | issue => exact absurd (hrunning.symm.trans h) (by simp)
    | sent => simp only [TradingSession.step, onSent, hrunning, reduceCtorEq] at h
    | arrival => simp only [TradingSession.step, onArrival, hrunning, reduceCtorEq] at h
    | timeout => simp only [TradingSession.step, onTimeout, hrunning, reduceCtorEq] at h
    | abandon => cases h
  | some running =>
    obtain ⟨current, phase'⟩ := running
    refine .inl ⟨phase', ?_⟩
    rcases keepsOrEnds_step hrunning event with ⟨-, phase'', hkeeps⟩ | hends
    · obtain rfl := (Prod.mk.inj (Option.some.inj (hkeeps.symm.trans h))).1
      rfl
    · rw [hends] at h
      cases h

/-- A result lets the session go. -/
theorem step_outcome {outcome : CommandOutcome} (h : (session.step event).2 = some outcome) :
    (session.step event).1.running = none ∧
      (session.running.isSome = true ∨ ∃ request now, event = .call request now) := by
  cases hrunning : session.running with
  | none =>
    cases event with
    | call request now =>
      refine ⟨?_, .inr ⟨request, now, rfl⟩⟩
      simp only [TradingSession.step, TradingSession.call, hrunning] at h ⊢
      split at h
      · rfl
      · cases h
    | issue => cases h
    | sent => simp only [TradingSession.step, onSent, hrunning, reduceCtorEq] at h
    | arrival => simp only [TradingSession.step, onArrival, hrunning, reduceCtorEq] at h
    | timeout => simp only [TradingSession.step, onTimeout, hrunning, reduceCtorEq] at h
    | abandon => cases h
  | some running =>
    refine ⟨?_, .inl rfl⟩
    obtain ⟨current, phase⟩ := running
    rcases keepsOrEnds_step hrunning event with ⟨hnone, -⟩ | hends
    · rw [hnone] at h
      cases h
    · exact hends

theorem waitForTextPong_ackTracker (session : TradingSession)
    (current : OkxWebsocketExpectedOrderAck) (message : TradingMessage) :
    (session.waitForTextPong current message).1.ackTracker = session.ackTracker := by
  cases message with
  | text payload => cases payload <;> rfl
  | ping replied => cases replied <;> rfl
  | _ => rfl

/-- Only an id that is read becomes known to the duplicate filter. -/
theorem readAck_seen (session : TradingSession) (current : OkxWebsocketExpectedOrderAck)
    (h : session.running = some (current, .readingAck)) (message : TradingMessage) (now : Instant) :
    (session.readAck current message).1.ackTracker.seenRequestIds ⊆
      (session.readId? (.arrival (.message message) now)).toList.toFinset ∪
        session.ackTracker.seenRequestIds := by
  cases message with
  | text payload =>
    have htext : payload ≠ .pong → (session.readAck current (.text payload)).1.ackTracker =
        (session.handleTextAck payload current).2 := by
      intro hpong
      cases payload with
      | pong => exact absurd rfl hpong
      | malformed => rfl
      | json op response parsed =>
        simp only [readAck]
        split <;> rfl
    by_cases hpong : payload = .pong
    · rw [hpong]
      exact Finset.subset_union_right
    rw [htext hpong]
    rcases handleTextAck_cases session payload current with (⟨_, -, hhandle⟩ | ⟨-, hhandle⟩) |
      ⟨response, hparse, ⟨_, -, hhandle⟩ | ⟨tracker, hsubset, hcases⟩⟩
    · rw [hhandle]
      exact Finset.subset_union_right
    · rw [hhandle]
      exact Finset.subset_union_right
    · rw [hhandle]
      exact Finset.subset_union_right
    · have htracker : (session.handleTextAck payload current).2 = tracker := by
        rcases hcases with ⟨-, hhandle⟩ | ⟨-, -, hhandle⟩ | ⟨-, -, _, _, -, hhandle⟩ <;>
          rw [hhandle]
      have hread : session.readId? (.arrival (.message (.text payload)) now) =
          some response.id := by
        simp only [readId?, h, hparse]
      rw [htracker, hread, Option.toList_some, List.toFinset_cons, List.toFinset_nil,
        insert_empty_eq, ← Finset.insert_eq]
      exact hsubset
  | ping replied => cases replied <;> exact Finset.subset_union_right
  | _ => exact Finset.subset_union_right

theorem step_seen (session : TradingSession) (event : SessionEvent) :
    (session.step event).1.ackTracker.seenRequestIds ⊆
      (session.readId? event).toList.toFinset ∪ session.ackTracker.seenRequestIds := by
  have hsame : ∀ session' : TradingSession, session'.ackTracker = session.ackTracker →
      session'.ackTracker.seenRequestIds ⊆
        (session.readId? event).toList.toFinset ∪ session.ackTracker.seenRequestIds := by
    intro session' h
    rw [h]
    exact Finset.subset_union_right
  cases event with
  | issue => exact hsame _ rfl
  | abandon => exact hsame _ rfl
  | call request now =>
    refine hsame _ ?_
    simp only [TradingSession.step, TradingSession.call]
    split
    · rfl
    · split <;> rfl
  | sent ok =>
    refine hsame _ ?_
    simp only [TradingSession.step, onSent]
    split
    · split <;> rfl
    · split <;> rfl
    · rfl
  | timeout =>
    refine hsame _ ?_
    simp only [TradingSession.step, onTimeout]
    split <;> rfl
  | arrival arrival now =>
    simp only [TradingSession.step, onArrival]
    split
    · refine hsame _ ?_
      split
      · exact waitForTextPong_ackTracker _ _ _
      · rfl
      · rfl
    · rename_i expected hrunning
      split
      · rename_i message
        exact readAck_seen { session with lastReceivedAt := now } expected hrunning message now
      · exact hsame _ rfl
      · exact hsame _ rfl
    · exact hsame _ rfl

/-- The nonce moves on with every id. -/
theorem step_nonce (session : TradingSession) (event : SessionEvent) :
    (session.step event).1.websocketRequestNonce =
      if (session.issuedId? event).isSome then (session.websocketRequestNonce + 1) % 2 ^ 64
      else session.websocketRequestNonce := by
  cases event with
  | issue => rfl
  | abandon => rfl
  | call request now =>
    cases hrunning : session.running with
    | some running => simp [TradingSession.step, TradingSession.call, issuedId?, hrunning]
    | none =>
      simp only [TradingSession.step, TradingSession.call, issuedId?, hrunning, Option.isSome_none,
        Bool.false_eq_true, if_false,
        Option.isSome_some, if_true]
      split <;> rfl
  | sent ok =>
    simp only [TradingSession.step, onSent]
    split
    · split <;> rfl
    · split <;> rfl
    · rfl
  | timeout =>
    simp only [TradingSession.step, onTimeout]
    split <;> rfl
  | arrival arrival now =>
    simp only [TradingSession.step, onArrival]
    have hpong : ∀ (session : TradingSession) current message,
        (session.waitForTextPong current message).1.websocketRequestNonce =
          session.websocketRequestNonce := by
      intro session current message
      cases message with
      | text payload => cases payload <;> rfl
      | ping replied => cases replied <;> rfl
      | _ => rfl
    have hack : ∀ (session : TradingSession) current message,
        (session.readAck current message).1.websocketRequestNonce =
          session.websocketRequestNonce := by
      intro session current message
      cases message with
      | text payload =>
        cases payload with
        | json op response parsed =>
          simp only [readAck]
          split <;> rfl
        | _ => rfl
      | ping replied => cases replied <;> rfl
      | _ => rfl
    split
    · split
      · exact hpong _ _ _
      · rfl
      · rfl
    · split
      · exact hack _ _ _
      · rfl
      · rfl
    · rfl

theorem waitForTextPong_ne_ok (session : TradingSession) (current : OkxWebsocketExpectedOrderAck)
    (message : TradingMessage) (acknowledgement : OkxOrderAck) :
    (session.waitForTextPong current message).2 ≠ some (.ok acknowledgement) := by
  cases message with
  | text payload => cases payload <;> nofun
  | ping replied => cases replied <;> nofun
  | _ => nofun

/-- A text that ends a command well acknowledges it. -/
theorem readAck_ok {current : OkxWebsocketExpectedOrderAck} {message : TradingMessage}
    {acknowledgement : OkxOrderAck}
    (h : (session.readAck current message).2 = some (.ok acknowledgement)) :
    ∃ op response parsed, message = .text (.json op response (some parsed)) ∧
      Acknowledges current parsed ∧
      parseOrderCommandAck (some parsed) current = .ok acknowledgement := by
  cases message with
  | text payload =>
    cases payload with
    | pong => cases h
    | malformed => cases h
    | json op response parsed =>
      simp only [readAck] at h
      rcases handleTextAck_cases session (.json op response parsed) current with
        (⟨_, -, hhandle⟩ | ⟨-, hhandle⟩) | ⟨_, -, ⟨_, -, hhandle⟩ | ⟨_, -, hcases⟩⟩
      · rw [hhandle] at h
        cases h
      · rw [hhandle] at h
        cases h
      · rw [hhandle] at h
        cases h
      · rcases hcases with ⟨-, hhandle⟩ | ⟨-, -, hhandle⟩ | ⟨-, -, _, _, hpayload, hhandle⟩
        · rw [hhandle] at h
          cases h
        · rw [hhandle] at h
          cases h
        · cases hpayload
          rw [hhandle] at h
          cases hparse : parseOrderCommandAck parsed current with
          | error e =>
            rw [hparse] at h
            cases h
          | ok found =>
            rw [hparse] at h
            cases h
            obtain ⟨parsed, rfl, hacknowledges⟩ := parseOrderCommandAck_ok hparse
            exact ⟨op, _, parsed, rfl, hacknowledges, hparse⟩
  | ping replied => cases replied <;> cases h
  | _ => cases h

/-- A command ends well only with a text it reads while it waits for its acknowledgement. -/
theorem step_ok {acknowledgement : OkxOrderAck}
    (h : (session.step event).2 = some (.ok acknowledgement)) :
    ∃ expected op response parsed now, session.running = some (expected, .readingAck) ∧
      event = .arrival (.message (.text (.json op response (some parsed)))) now ∧
      Acknowledges expected parsed ∧
      parseOrderCommandAck (some parsed) expected = .ok acknowledgement := by
  cases event with
  | issue => cases h
  | abandon => cases h
  | call request now =>
    simp only [TradingSession.step, TradingSession.call] at h
    split at h
    · cases h
    · split at h <;> cases h
  | sent ok =>
    simp only [TradingSession.step, onSent] at h
    split at h
    · split at h <;> cases h
    · split at h <;> cases h
    · cases h
  | timeout =>
    simp only [TradingSession.step, onTimeout] at h
    split at h <;> cases h
  | arrival arrival now =>
    simp only [TradingSession.step, onArrival] at h
    split at h
    · split at h
      · exact absurd h (waitForTextPong_ne_ok _ _ _ _)
      · cases h
      · cases h
    · rename_i expected hrunning
      split at h
      · obtain ⟨op, response, parsed, rfl, hacknowledges, hparse⟩ := readAck_ok h
        exact ⟨expected, op, response, parsed, now, hrunning, rfl, hacknowledges, hparse⟩
      · cases h
      · cases h
    · cases h

theorem step_readingAck (hrunning : session.running = some (expected, .readingAck))
    (message : TradingMessage) (now : Instant) :
    session.step (.arrival (.message message) now) =
      ({ session with lastReceivedAt := now } : TradingSession).readAck expected message := by
  cases session
  cases hrunning
  rfl

/-- A response with a valid id that is not the one of the running command leaves it as it is. -/
theorem step_late {payload : TradingText} {response : OkxWebsocketOrderCommandResponse}
    {now : Instant} (hrunning : session.running = some (expected, phase))
    (hparse : parseCommandResponse payload = .ok (some response))
    (hvalid : ensureRequestId response.id "OKX WebSocket acknowledgement id" = .ok ())
    (hid : response.id ≠ expected.id) :
    (session.step (.arrival (.message (.text payload)) now)).2 = none ∧
      (session.step (.arrival (.message (.text payload)) now)).1.running =
        some (expected, phase) := by
  cases payload with
  | pong => cases hparse
  | malformed => cases hparse
  | json op inner parsed =>
    cases phase with
    | idlePing => simp only [TradingSession.step, onArrival, hrunning, and_self]
    | sending => simp only [TradingSession.step, onArrival, hrunning, and_self]
    | idlePong =>
      simp only [TradingSession.step, onArrival, hrunning, waitForTextPong, TradingSession.wait,
        and_self]
    | readingAck =>
      rw [step_readingAck hrunning]
      simp only [readAck]
      rcases handleTextAck_cases { session with lastReceivedAt := now } (.json op inner parsed)
        expected with (⟨_, hother, -⟩ | ⟨hother, -⟩) | ⟨found, hfound, hcases⟩
      · rw [hparse] at hother
        cases hother
      · rw [hparse] at hother
        cases hother
      · obtain rfl : found = response :=
          Option.some.inj (Except.ok.inj (hfound.symm.trans hparse))
        rcases hcases with ⟨_, herror, -⟩ | ⟨tracker, -, hcases⟩
        · rw [hvalid] at herror
          cases herror
        · rcases hcases with ⟨-, hhandle⟩ | ⟨hsame, -⟩ | ⟨hsame, -⟩
          · rw [hhandle]
            exact ⟨rfl, rfl⟩
          · exact absurd hsame hid
          · exact absurd hsame hid

/-- A response with the id of the running command that the duplicate filter does not know ends
it. -/
theorem step_first {payload : TradingText} {response : OkxWebsocketOrderCommandResponse}
    {now : Instant} (hrunning : session.running = some (expected, .readingAck))
    (hparse : parseCommandResponse payload = .ok (some response))
    (hvalid : ensureRequestId response.id "OKX WebSocket acknowledgement id" = .ok ())
    (hid : response.id = expected.id) (hnew : expected.id ∉ session.ackTracker.seenRequestIds) :
    ∃ op parsed, payload = .json op (some response) parsed ∧
      (session.step (.arrival (.message (.text payload)) now)).2 =
        some ((parseOrderCommandAck parsed expected).mapError .ambiguous) := by
  rcases handleTextAck_cases { session with lastReceivedAt := now } payload expected with
    (⟨_, hother, -⟩ | ⟨hother, -⟩) | ⟨found, hfound, hcases⟩
  · rw [hparse] at hother
    cases hother
  · rw [hparse] at hother
    cases hother
  · obtain rfl : found = response := Option.some.inj (Except.ok.inj (hfound.symm.trans hparse))
    rcases hcases with ⟨_, herror, -⟩ | ⟨tracker, -, hcases⟩
    · rw [hvalid] at herror
      cases herror
    · rcases hcases with ⟨hother, -⟩ | ⟨-, hseen, -⟩ | ⟨-, -, op, parsed, rfl, hhandle⟩
      · exact absurd hid hother
      · exact absurd (hid ▸ hseen) hnew
      · refine ⟨op, parsed, rfl, ?_⟩
        rw [step_readingAck hrunning]
        simp only [readAck, hhandle]
        cases parseOrderCommandAck parsed expected <;> rfl

end Step

/-! ## Runs -/

section Run

variable {session : TradingSession} {events before : List SessionEvent}
  {expected : OkxWebsocketExpectedOrderAck} {phase : CommandPhase}

@[simp] theorem run_nil (session : TradingSession) : session.run [] = session := rfl

theorem run_concat (session : TradingSession) (before : List SessionEvent) (event : SessionEvent) :
    session.run (before ++ [event]) = ((session.run before).step event).1 := by
  rw [TradingSession.run, List.foldl_append]
  rfl

theorem collect_concat (observe : TradingSession → SessionEvent → Option Text)
    (session : TradingSession) (before : List SessionEvent) (event : SessionEvent) :
    collect observe session (before ++ [event]) =
      collect observe session before ++ (observe (session.run before) event).toList := by
  induction before generalizing session with
  | nil => simp [collect]
  | cons first rest ih =>
    rw [List.cons_append, collect, ih, collect, List.append_assoc]
    rfl

/-- The command was called before, on a free session, with the id issued for it then. -/
def Called (session : TradingSession) (before : List SessionEvent)
    (expected : OkxWebsocketExpectedOrderAck) : Prop :=
  ∃ earlier request now rest, before = earlier ++ .call request now :: rest ∧
    (session.run earlier).running = none ∧
    expected = request.expected (nextWebsocketRequestId (session.run earlier).websocketRequestNonce
      request.operation request.clientOrderId).1

/-- The command that holds a session was called on it. -/
theorem called_of_running (hfree : session.running = none)
    (h : (session.run before).running = some (expected, phase)) :
    Called session before expected := by
  induction before using List.reverseRecOn generalizing phase with
  | nil => rw [run_nil, hfree] at h; cases h
  | append_singleton before event ih =>
    rw [run_concat] at h
    rcases step_running h with ⟨phase', hrunning⟩ | ⟨request, now, rfl, hrunning, hexpected⟩
    · obtain ⟨earlier, request, now, rest, rfl, hcalled⟩ := ih hrunning
      exact ⟨earlier, request, now, rest ++ [event], by simp, hcalled⟩
    · exact ⟨before, request, now, [], rfl, hrunning, hexpected⟩

/-- Its id is one of those issued. -/
theorem Called.issued (h : Called session before expected) :
    expected.id ∈ session.issuedIds before := by
  obtain ⟨earlier, request, now, rest, rfl, hrunning, rfl⟩ := h
  induction rest using List.reverseRecOn with
  | nil =>
    rw [issuedIds, collect_concat]
    refine List.mem_append_right _ ?_
    simp [issuedId?, hrunning, OkxWebsocketOrderRequest.expected]
  | append_singleton rest event ih =>
    rw [← List.cons_append, ← List.append_assoc, issuedIds, collect_concat]
    exact List.mem_append_left _ ih

theorem issuedId_eq_some {event : SessionEvent} {id : Text}
    (h : session.issuedId? event = some id) :
    ∃ operation clientOrderId,
      id = (nextWebsocketRequestId session.websocketRequestNonce operation clientOrderId).1 := by
  cases event with
  | issue operation clientOrderId => exact ⟨operation, clientOrderId, (Option.some.inj h).symm⟩
  | call request now =>
    simp only [issuedId?] at h
    split at h
    · cases h
    · exact ⟨request.operation, request.clientOrderId, (Option.some.inj h).symm⟩
  | _ => cases h

/-- The nonce counts the ids. -/
theorem nonce_run (session : TradingSession) (events : List SessionEvent) :
    (session.run events).websocketRequestNonce % 2 ^ 60 =
      (session.websocketRequestNonce + (session.issuedIds events).length) % 2 ^ 60 := by
  induction events using List.reverseRecOn with
  | nil => rfl
  | append_singleton before event ih =>
    rw [run_concat, step_nonce, issuedIds, collect_concat, List.length_append, ← issuedIds]
    cases (session.run before).issuedId? event with
    | none => simpa using ih
    | some id =>
      simp only [Option.isSome_some, if_true, Option.toList_some, List.length_singleton]
      omega

/-- Every id is the one of some nonce, counted from the first. -/
theorem mem_issuedIds {id : Text} (h : id ∈ session.issuedIds events) :
    ∃ nonce operation clientOrderId, id = (nextWebsocketRequestId nonce operation clientOrderId).1 ∧
      ∃ k < (session.issuedIds events).length,
        nonce % 2 ^ 60 = (session.websocketRequestNonce + k) % 2 ^ 60 := by
  induction events using List.reverseRecOn with
  | nil => exact absurd h List.not_mem_nil
  | append_singleton before event ih =>
    rw [issuedIds, collect_concat, ← issuedIds] at h ⊢
    rw [List.length_append]
    rcases List.mem_append.1 h with h | h
    · obtain ⟨nonce, operation, clientOrderId, hid, k, hk, hnonce⟩ := ih h
      exact ⟨nonce, operation, clientOrderId, hid, k, by omega, hnonce⟩
    · have hissued := Option.mem_toList.1 h
      obtain ⟨operation, clientOrderId, hid⟩ := issuedId_eq_some hissued
      have hlength : ((session.run before).issuedId? event).toList.length = 1 := by
        rw [Option.mem_def.1 hissued]
        rfl
      exact ⟨_, operation, clientOrderId, hid, (session.issuedIds before).length, by omega,
        nonce_run session before⟩

/-- Fewer than 2^60 ids are pairwise distinct. -/
theorem nodup_issuedIds (h : (session.issuedIds events).length < 2 ^ 60) :
    (session.issuedIds events).Nodup := by
  induction events using List.reverseRecOn with
  | nil => exact List.nodup_nil
  | append_singleton before event ih =>
    rw [issuedIds, collect_concat, ← issuedIds] at h ⊢
    rw [List.length_append] at h
    have hbefore := ih (by omega)
    cases hissued : (session.run before).issuedId? event with
    | none => simpa using hbefore
    | some id =>
      refine List.nodup_append.2 ⟨hbefore, List.nodup_singleton _, ?_⟩
      rintro earlier hearlier _ hid rfl
      obtain rfl := List.mem_singleton.1 hid
      obtain ⟨operation, clientOrderId, hnext⟩ := issuedId_eq_some hissued
      obtain ⟨nonce, operation', clientOrderId', hearlier, k, hk, hnonce⟩ := mem_issuedIds hearlier
      have hmasked := websocketRequestId_inj (hearlier.symm.trans hnext)
      rw [and_nonceMask, and_nonceMask, Nat.mod_mod, Nat.mod_mod, hnonce,
        nonce_run session before] at hmasked
      rw [hissued, Option.toList_some, List.length_singleton] at h
      omega

/-- The duplicate filter knows only ids that were read. -/
theorem seen_run (hstart : session.ackTracker = .default) (events : List SessionEvent) :
    (session.run events).ackTracker.seenRequestIds ⊆ (session.readIds events).toFinset := by
  induction events using List.reverseRecOn with
  | nil =>
    rw [run_nil, hstart]
    exact Finset.empty_subset _
  | append_singleton before event ih =>
    rw [run_concat, readIds, collect_concat, List.toFinset_append, ← readIds]
    refine (step_seen _ event).trans ?_
    rw [Finset.union_comm]
    exact Finset.union_subset_union_left ih

end Run

/-! ## Correlation -/

/-- What holds at an event of a run.

* A command ends well only with a response it reads while it waits for its acknowledgement, and that
  acknowledges what the command called is owed.
* A result lets the session go, so that no other command ends with the same event.
* A response with the id of another command, however late, leaves the running one as it is.
* The first response with the id of the running command ends it. -/
structure EventCorrelated (session : TradingSession) (before : List SessionEvent)
    (event : SessionEvent) : Prop where
  acknowledged : ∀ acknowledgement,
    ((session.run before).step event).2 = some (.ok acknowledgement) →
    ∃ expected op response parsed now, (session.run before).running = some (expected, .readingAck) ∧
      Called session before expected ∧
      event = .arrival (.message (.text (.json op response (some parsed)))) now ∧
      Acknowledges expected parsed
  ends_one : ∀ outcome, ((session.run before).step event).2 = some outcome →
    (session.run (before ++ [event])).running = none ∧
      ((session.run before).running.isSome = true ∨ ∃ request now, event = .call request now)
  late_ignored : ∀ expected phase payload response now,
    (session.run before).running = some (expected, phase) →
    event = .arrival (.message (.text payload)) now →
    parseCommandResponse payload = .ok (some response) →
    response.id ∈ session.issuedIds before → response.id ≠ expected.id →
    ((session.run before).step event).2 = none ∧
      (session.run (before ++ [event])).running = some (expected, phase)
  first_ends : ∀ expected payload response now,
    (session.run before).running = some (expected, .readingAck) →
    event = .arrival (.message (.text payload)) now →
    parseCommandResponse payload = .ok (some response) →
    response.id = expected.id → expected.id ∉ session.readIds before →
    ∃ op parsed, payload = .json op (some response) parsed ∧
      ((session.run before).step event).2 =
        some ((parseOrderCommandAck parsed expected).mapError .ambiguous)

/-- The ids are short and alphanumeric, and fewer than 2^60 of them are pairwise distinct. -/
structure IdsDistinct (session : TradingSession) (events : List SessionEvent) : Prop where
  shape : ∀ id ∈ session.issuedIds events, id.length ≤ 32 ∧ id.all Char.isAlphanum = true
  distinct : (session.issuedIds events).length < 2 ^ 60 → (session.issuedIds events).Nodup

/-- **The acknowledgements of every run are correlated.** -/
theorem acks_correlated (nonce : ℕ) (now : Instant) (before : List SessionEvent)
    (event : SessionEvent) :
    IdsDistinct (.connected nonce now) before ∧
      EventCorrelated (.connected nonce now) before event := by
  have hvalid : ∀ id, id ∈ (TradingSession.connected nonce now).issuedIds before →
      ensureRequestId id "OKX WebSocket acknowledgement id" = .ok () := by
    intro id hid
    obtain ⟨nonce, operation, clientOrderId, rfl, -⟩ := mem_issuedIds hid
    exact ensureRequestId_next _ nonce operation clientOrderId
  refine ⟨⟨?_, nodup_issuedIds⟩, ?_, ?_, ?_, ?_⟩
  · intro id hid
    obtain ⟨nonce, operation, clientOrderId, rfl, -⟩ := mem_issuedIds hid
    obtain ⟨hlength, halphanum⟩ := nextWebsocketRequestId_shape nonce operation clientOrderId
    exact ⟨hlength.le, halphanum⟩
  · intro acknowledgement hok
    obtain ⟨expected, op, response, parsed, now', hrunning, hevent, hacknowledges, -⟩ :=
      step_ok hok
    exact ⟨expected, op, response, parsed, now', hrunning, called_of_running rfl hrunning, hevent,
      hacknowledges⟩
  · intro outcome houtcome
    rw [run_concat]
    exact step_outcome houtcome
  · rintro expected phase payload response now' hrunning rfl hparse hissued hid
    rw [run_concat]
    exact step_late hrunning hparse (hvalid _ hissued) hid
  · rintro expected payload response now' hrunning rfl hparse hid hunread
    have hissued := (called_of_running rfl hrunning).issued
    refine step_first hrunning hparse (hvalid _ (hid ▸ hissued)) hid fun hseen => hunread ?_
    exact List.mem_toFinset.1 (seen_run rfl before hseen)

/-! ### What goes wrong -/

/-- A cancel of the order. -/
def cancelEntry : OkxWebsocketOrderRequest := .cancel ⟨[], 7, "entry1".toList⟩

/-- An acknowledgement of the cancel with the id. -/
def cancelAck (id : Text) : SessionEvent :=
  let response : OkxWebsocketOrderCommandResponse :=
    ⟨id, "cancel-order".toList, "0".toList, [⟨"9".toList, "entry1".toList, [], "0".toList⟩]⟩
  .arrival (.message (.text (.json (some "cancel-order".toList) (some response) (some response)))) 0

/-- A late acknowledgement whose row is no row of an acknowledgement. -/
def malformedAck : SessionEvent :=
  .arrival (.message (.text (.json (some "cancel-order".toList) none none))) 0

/-- The id of the second cancel of a client. -/
def secondCancelId : Text := (nextWebsocketRequestId 2 .cancelOrder "entry1".toList).1

/-- A message carries the id of the next command already; the command is abandoned, and the next one
is sent. -/
def foreignIdRun : List SessionEvent :=
  [.call cancelEntry 0, .sent true, cancelAck secondCancelId, .abandon, .call cancelEntry 0,
    .sent true]

/-- A command is abandoned, and the next one is sent. -/
def abandonedRun : List SessionEvent :=
  [.call cancelEntry 0, .sent true, .abandon, .call cancelEntry 0, .sent true]

/-- The acknowledgement of a command is taken for a duplicate where a message read before carried
its id; and a late acknowledgement that does not parse fails the command after. -/
theorem acks_not_correlated :
    (((TradingSession.connected 1 0).run foreignIdRun).step (cancelAck secondCancelId)).2 = none ∧
    ((TradingSession.connected 1 0).run foreignIdRun).running =
      some (cancelEntry.expected secondCancelId, .readingAck) ∧
    (((TradingSession.connected 1 0).run abandonedRun).step malformedAck).2 =
      some (.error
          (.ambiguous "failed parsing OKX WebSocket trading command acknowledgement")) := by
  decide +kernel

end OkxTrading
