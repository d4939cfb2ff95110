import OkxTrading.Properties.PrivateAtomicity
import OkxTrading.Websocket.Subscription

/-!
# The handshake of a stream

Until a stream is subscribed, its pending acknowledgements are those of the request that no message
has settled, and a message is applied only for an argument that one has.

* `Waiting` — the invariant while acknowledgements are pending.
* `waiting_step` — everything an arrival can do to a stream that waits.
* `subscription_handshake_sound` — readiness, data and refusals over any run.
-/

namespace OkxTrading

open Effect StreamSession

variable {Data Cache : Type}

/-! ## What a message says -/

namespace OkxWebsocketSubscriptionMessage

variable (rules : StreamRules) (message : OkxWebsocketSubscriptionMessage Data)

/-- The argument a message acknowledges. -/
def acknowledges : Option OkxWebsocketSubscriptionAck :=
  if message.event = some okxWebsocketSubscribeEvent then message.arg else none

/-- The argument a message refuses, where the stream settles for that. -/
def refuses : Option OkxWebsocketSubscriptionAck :=
  if message.event = some okxWebsocketErrorEvent ∧
      rules.settlesRefusal (message.code.getD []) message.arg = true then message.arg else none

/-- What a message settles: an acknowledgement, or a refusal that is settled for. -/
def settles : Option OkxWebsocketSubscriptionAck :=
  message.acknowledges.or (message.refuses rules)

/-- The channel argument of the rows a message carries. -/
def dataArg : Option OkxWebsocketSubscriptionAck :=
  if message.event = none ∧ message.data.isSome = true then message.arg else none

end OkxWebsocketSubscriptionMessage

namespace Arrival

/-- The message of an arrival. -/
def json? : Arrival Data → Option (OkxWebsocketSubscriptionMessage Data)
  | .message (.text (.json payload)) => payload
  | _ => none

/-- What an arrival settles. -/
def settles (rules : StreamRules) (arrival : Arrival Data) : Option OkxWebsocketSubscriptionAck :=
  arrival.json?.bind (·.settles rules)

/-- The argument whose rows an arrival brings. -/
def dataArg (arrival : Arrival Data) : Option OkxWebsocketSubscriptionAck :=
  arrival.json?.bind (·.dataArg)

end Arrival

/-- A text no stream goes on after, where `args` are requested and `settled` are settled. -/
inductive Breaks (rules : StreamRules) (args settled : List OkxWebsocketSubscriptionAck) :
    Option (OkxWebsocketSubscriptionMessage Data) → Prop where
  | malformed : Breaks rules args settled none
  | omittedArg {message} (hevent : message.event = some okxWebsocketSubscribeEvent)
      (harg : message.arg = none) : Breaks rules args settled (some message)
  | foreign {message ack} (hsettles : message.settles rules = some ack) (hack : ack ∉ args) :
      Breaks rules args settled (some message)
  | repeated {message ack} (hsettles : message.settles rules = some ack) (hack : ack ∈ settled) :
      Breaks rules args settled (some message)
  | errorEvent {message} (hevent : message.event = some okxWebsocketErrorEvent)
      (hrefuses : message.refuses rules = none) : Breaks rules args settled (some message)
  | earlyData {message} (hevent : message.event = none) (hdata : message.data.isSome = true)
      (hack : ∀ ack ∈ settled, message.dataArg ≠ some ack) :
        Breaks rules args settled (some message)
  | otherText {message} (hsubscribe : message.event ≠ some okxWebsocketSubscribeEvent)
      (herror : message.event ≠ some okxWebsocketErrorEvent)
      (hcontrol : message.event ≠ some okxWebsocketChannelConnCountEvent)
      (hdata : message.event = none → message.data = none) :
        Breaks rules args settled (some message)

/-! ## One text -/

section Text

variable {rules : StreamRules} {apply : ApplyMessage Data Cache} {session : StreamSession Cache}

/-- How a message parses, by what it says. -/
theorem parseSubscriptionEvent_cases (message : OkxWebsocketSubscriptionMessage Data)
    (context : Message) :
    (∃ e, parseSubscriptionEvent (some message) context = .error e) ∨
    (∃ ack, message.event = some okxWebsocketSubscribeEvent ∧ message.arg = some ack ∧
      parseSubscriptionEvent (some message) context = .ok (.acknowledged ack)) ∨
    (message.event = some okxWebsocketErrorEvent ∧
      parseSubscriptionEvent (some message) context =
        .ok (.error (message.code.getD []) (message.msg.getD []) message.arg)) ∨
    (message.event = some okxWebsocketChannelConnCountEvent ∧
      parseSubscriptionEvent (some message) context = .ok .control) ∨
    (∃ ack, message.event = none ∧ message.data.isSome = true ∧ message.arg = some ack ∧
      parseSubscriptionEvent (some message) context = .ok (.data ack)) ∨
    parseSubscriptionEvent (some message) context = .ok .other := by
  cases hnotice : rejectWebsocketNotice message.event message.code context with
  | error e => exact .inl ⟨e, by simp only [parseSubscriptionEvent, hnotice]; rfl⟩
  | ok u =>
    by_cases hsubscribe : message.event = some okxWebsocketSubscribeEvent
    · cases harg : message.arg with
      | none =>
        exact .inl ⟨_, by simp only [parseSubscriptionEvent, hnotice, if_pos hsubscribe, harg]; rfl⟩
      | some ack =>
        exact .inr (.inl ⟨ack, hsubscribe, rfl, by
          simp only [parseSubscriptionEvent, hnotice, if_pos hsubscribe, harg]; rfl⟩)
    · by_cases herror : message.event = some okxWebsocketErrorEvent
      · exact .inr (.inr (.inl ⟨herror, by
          simp only [parseSubscriptionEvent, hnotice, if_neg hsubscribe, if_pos herror]; rfl⟩))
      · by_cases hcontrol : message.event = some okxWebsocketChannelConnCountEvent
        · exact .inr (.inr (.inr (.inl ⟨hcontrol, by
            simp only [parseSubscriptionEvent, hnotice, if_neg hsubscribe, if_neg herror,
              if_pos hcontrol]; rfl⟩)))
        · by_cases hdata : message.event = none ∧ message.data.isSome = true
          · cases harg : message.arg with
            | none =>
              exact .inl ⟨_, by
                simp only [parseSubscriptionEvent, hnotice, if_neg hsubscribe, if_neg herror,
                  if_neg hcontrol, if_pos hdata, harg]; rfl⟩
            | some ack =>
              exact .inr (.inr (.inr (.inr (.inl ⟨ack, hdata.1, hdata.2, rfl, by
                simp only [parseSubscriptionEvent, hnotice, if_neg hsubscribe, if_neg herror,
                  if_neg hcontrol, if_pos hdata, harg]; rfl⟩))))
          · exact .inr (.inr (.inr (.inr (.inr (by
              simp only [parseSubscriptionEvent, hnotice, if_neg hsubscribe, if_neg herror,
                if_neg hcontrol, if_neg hdata]; rfl)))))

/-- A text fails the stream, settles an argument, is a control notice, or is applied for an argument
that is settled. -/
theorem waitForSubscriptionAcks_cases
    (payload : Option (OkxWebsocketSubscriptionMessage Data)) :
    (∃ e, session.waitForSubscriptionAcks rules apply payload = session.fail e) ∨
    (∃ message ack, payload = some message ∧ message.settles rules = some ack ∧
      session.waitForSubscriptionAcks rules apply payload = session.settle rules ack) ∨
    (∃ message, payload = some message ∧
      message.event = some okxWebsocketChannelConnCountEvent ∧
      session.waitForSubscriptionAcks rules apply payload = session) ∨
    (∃ message ack, payload = some message ∧ message.event = none ∧
      message.dataArg = some ack ∧ ack ∈ session.acknowledged ∧
      session.waitForSubscriptionAcks rules apply payload =
          session.applyText rules apply payload) := by
  cases payload with
  | none => exact .inl ⟨_, rfl⟩
  | some message =>
    unfold waitForSubscriptionAcks
    rcases parseSubscriptionEvent_cases message rules.context with ⟨e, h⟩ | ⟨ack, hevent, harg, h⟩ |
      ⟨hevent, h⟩ | ⟨hevent, h⟩ | ⟨ack, hevent, hdata, harg, h⟩ | h
    · exact .inl ⟨e, by rw [h]⟩
    · refine .inr (.inl ⟨message, ack, rfl, ?_, by rw [h]⟩)
      simp only [OkxWebsocketSubscriptionMessage.settles,
        OkxWebsocketSubscriptionMessage.acknowledges, if_pos hevent, harg, Option.some_or]
    · cases harg : message.arg with
      | none => exact .inl ⟨_, by rw [h, harg]⟩
      | some ack =>
        cases hrefusal : rules.settlesRefusal (message.code.getD []) (some ack) with
        | false =>
          exact .inl ⟨"OKX " ++ rules.context ++ " WebSocket error", by
            rw [h, harg]; simp only [hrefusal, Bool.false_eq_true, if_false]⟩
        | true =>
          refine .inr (.inl ⟨message, ack, rfl, ?_, by rw [h, harg]; simp only [hrefusal, if_true]⟩)
          have hne : some okxWebsocketErrorEvent ≠ some okxWebsocketSubscribeEvent := by decide
          simp only [OkxWebsocketSubscriptionMessage.settles,
            OkxWebsocketSubscriptionMessage.acknowledges, OkxWebsocketSubscriptionMessage.refuses,
            harg, hevent, hrefusal, if_neg hne, and_self, if_true, Option.none_or]
    · exact .inr (.inr (.inl ⟨message, rfl, hevent, by rw [h]⟩))
    · by_cases hack : ack ∈ session.acknowledged
      · refine .inr (.inr (.inr ⟨message, ack, rfl, hevent, ?_, hack, by rw [h]; simp [hack]⟩))
        simp only [OkxWebsocketSubscriptionMessage.dataArg, hevent, hdata, harg, and_self, if_true]
      · exact .inl ⟨"OKX " ++ rules.context ++
            " WebSocket received data before subscription ACK", by
          rw [h]; simp only [hack, not_false_eq_true, if_true]⟩
    · exact .inl ⟨_, by rw [h]⟩

/-- Applying a message leaves the acknowledgements alone. -/
theorem applyText_cases (rules : StreamRules) (apply : ApplyMessage Data Cache)
    (session : StreamSession Cache) (message : OkxWebsocketSubscriptionMessage Data) :
    ∃ calls cache, (∃ e, session.applyText rules apply (some message) =
        ({ session with calls, cache } : StreamSession Cache).fail e) ∨
      session.applyText rules apply (some message) = { session with calls, cache } := by
  rcases hresult : apply session.calls session.cache message with ⟨result, cache⟩
  refine ⟨session.calls + 1, cache, ?_⟩
  cases result with
  | ok u => exact .inr (by simp only [applyText, hresult])
  | error e => exact .inl ⟨e, by simp only [applyText, hresult]⟩

end Text

/-! ## A stream that waits -/

/-- The invariant while acknowledgements are pending: they are those of the request that are not
settled. -/
structure Waiting (acks : Finset OkxWebsocketSubscriptionAck)
    (settled : List OkxWebsocketSubscriptionAck) (session : StreamSession Cache) : Prop where
  outcome : session.outcome = none
  subscribed : session.subscribed = false
  nodup : settled.Nodup
  acknowledged : session.acknowledged = settled.toFinset
  pending : session.pending = acks \ settled.toFinset
  subset : settled.toFinset ⊆ acks

/-- The stream ended with an error before it was subscribed. -/
def FailedBeforeReady (session : StreamSession Cache) : Prop :=
  session.subscribed = false ∧ ∃ e, session.outcome = some (.error e)

section Step

variable {rules : StreamRules} {apply : ApplyMessage Data Cache} {session : StreamSession Cache}
  {acks : Finset OkxWebsocketSubscriptionAck} {settled : List OkxWebsocketSubscriptionAck}

theorem Waiting.fail (h : Waiting acks settled session) (e : Message) :
    FailedBeforeReady (session.fail e) :=
  ⟨h.subscribed, e, rfl⟩

theorem Waiting.setAwaiting (h : Waiting acks settled session) (awaitingPong : Bool) :
    Waiting acks settled { session with awaitingPong } :=
  ⟨h.outcome, h.subscribed, h.nodup, h.acknowledged, h.pending, h.subset⟩

theorem Waiting.setCache (h : Waiting acks settled session) (calls : ℕ) (cache : Cache) :
    Waiting acks settled { session with calls, cache } :=
  ⟨h.outcome, h.subscribed, h.nodup, h.acknowledged, h.pending, h.subset⟩

/-- An argument that is foreign, or settled already, fails the stream. -/
theorem Waiting.settle_fails (h : Waiting acks settled session) {ack : OkxWebsocketSubscriptionAck}
    (hack : ack ∉ acks ∨ ack ∈ settled) : FailedBeforeReady (session.settle rules ack) := by
  have hpending : ack ∉ session.pending := by
    rw [h.pending, Finset.mem_sdiff, List.mem_toFinset]
    rintro ⟨hrequested, hopen⟩
    exact hack.elim (· hrequested) hopen
  simp only [settle, acknowledgeSubscription, if_neg hpending]
  exact h.fail _

/-- A requested argument that is open is settled, and the last one makes the stream ready. -/
theorem Waiting.settle (h : Waiting acks settled session) {ack : OkxWebsocketSubscriptionAck}
    (hrequested : ack ∈ acks) (hopen : ack ∉ settled) :
    Waiting acks (settled ++ [ack]) (session.settle rules ack) ∨
      ((session.settle rules ack).subscribed = true ∧ (settled ++ [ack]).Nodup ∧
        (settled ++ [ack]).toFinset = acks) := by
  have hpending : ack ∈ session.pending := by
    rw [h.pending, Finset.mem_sdiff, List.mem_toFinset]
    exact ⟨hrequested, hopen⟩
  have hnodup : (settled ++ [ack]).Nodup := by
    refine List.nodup_append.2 ⟨h.nodup, List.nodup_singleton _, ?_⟩
    rintro other hother _ hmem rfl
    exact hopen (List.mem_singleton.1 hmem ▸ hother)
  have hsettled : (settled ++ [ack]).toFinset = insert ack settled.toFinset := by
    rw [List.toFinset_append, List.toFinset_cons, List.toFinset_nil, insert_empty_eq,
      Finset.union_comm, ← Finset.insert_eq]
  have hrest : session.pending.erase ack = acks \ (settled ++ [ack]).toFinset := by
    rw [h.pending, hsettled, Finset.sdiff_insert]
  have hsubset : (settled ++ [ack]).toFinset ⊆ acks := by
    rw [hsettled]
    exact Finset.insert_subset hrequested h.subset
  simp only [StreamSession.settle, acknowledgeSubscription, if_pos hpending]
  by_cases hlast : session.pending.erase ack = ∅
  · refine .inr ⟨decide_eq_true hlast, hnodup, hsubset.antisymm ?_⟩
    exact Finset.sdiff_eq_empty_iff_subset.1 (hrest ▸ hlast)
  · refine .inl ⟨h.outcome, decide_eq_false hlast, hnodup, ?_, hrest, hsubset⟩
    rw [hsettled, ← h.acknowledged]

/-- **Everything an arrival can do to a stream that waits**: it fails the stream, or only the
keepalive or the control notices take note of it, or it settles an argument, or it carries rows of
an argument that is settled. -/
theorem waiting_step (rules : StreamRules) (apply : ApplyMessage Data Cache)
    (h : Waiting acks settled session) (arrival : Arrival Data) :
    ∃ awaitingPong, let next : StreamSession Cache := { session with awaitingPong }
      (∃ e, session.step rules apply arrival = next.fail e) ∨
      ((∀ message, arrival.json? = some message →
          message.event = some okxWebsocketChannelConnCountEvent) ∧
        (arrival ≠ .message (.text (.json none))) ∧ session.step rules apply arrival = next) ∨
      (∃ message ack, arrival = .message (.text (.json (some message))) ∧
        message.settles rules = some ack ∧
        session.step rules apply arrival = next.settle rules ack) ∨
      (∃ message ack, arrival = .message (.text (.json (some message))) ∧ message.event = none ∧
        message.dataArg = some ack ∧ ack ∈ settled ∧
        session.step rules apply arrival = next.applyText rules apply (some message)) := by
  obtain ⟨pending, acknowledged, awaitingPong, subscribed, calls, cache, outcome⟩ := session
  obtain rfl : outcome = none := h.outcome
  obtain rfl : subscribed = false := h.subscribed
  cases arrival with
  | ackTimeout => exact ⟨awaitingPong, .inl ⟨_, rfl⟩⟩
  | readError => cases awaitingPong <;> exact ⟨_, .inl ⟨_, rfl⟩⟩
  | closed =>
    cases awaitingPong with
    | true => exact ⟨true, .inl ⟨_, rfl⟩⟩
    | false => exact ⟨false, .inl ⟨_, rfl⟩⟩
  | idle sent =>
    cases awaitingPong with
    | true => exact ⟨true, .inl ⟨_, rfl⟩⟩
    | false =>
      cases sent with
      | true => exact ⟨true, .inr (.inl ⟨nofun, nofun, rfl⟩)⟩
      | false => exact ⟨false, .inl ⟨_, rfl⟩⟩
  | message message =>
    cases message with
    | text payload =>
      refine ⟨false, ?_⟩
      cases payload with
      | pong =>
        refine .inr (.inl ⟨nofun, nofun, ?_⟩)
        cases awaitingPong <;> rfl
      | json payload =>
        have hstep : StreamSession.step rules apply
            ⟨pending, acknowledged, awaitingPong, false, calls, cache, none⟩
              (.message (.text (.json payload))) =
            waitForSubscriptionAcks rules apply
              ⟨pending, acknowledged, false, false, calls, cache, none⟩ payload := by
          cases awaitingPong <;> rfl
        rw [hstep]
        rcases waitForSubscriptionAcks_cases payload with hfail |
          ⟨message, ack, rfl, hsettles, hnext⟩ | ⟨message, rfl, hevent, hnext⟩ |
          ⟨message, ack, rfl, hevent, hdata, hack, hnext⟩
        · exact .inl hfail
        · exact .inr (.inr (.inl ⟨message, ack, rfl, hsettles, hnext⟩))
        · refine .inr (.inl ⟨fun other hother => ?_, nofun, hnext⟩)
          exact Option.some.inj hother ▸ hevent
        · refine .inr (.inr (.inr ⟨message, ack, rfl, hevent, hdata, ?_, hnext⟩))
          have hacknowledged : acknowledged = settled.toFinset := h.acknowledged
          rwa [hacknowledged, List.mem_toFinset] at hack
    | ping replied =>
      cases replied with
      | true => cases awaitingPong <;> exact ⟨_, .inr (.inl ⟨nofun, nofun, rfl⟩)⟩
      | false => cases awaitingPong <;> exact ⟨_, .inl ⟨_, rfl⟩⟩
    | pong => cases awaitingPong <;> exact ⟨_, .inr (.inl ⟨nofun, nofun, rfl⟩)⟩
    | close => cases awaitingPong <;> exact ⟨_, .inl ⟨_, rfl⟩⟩
    | binary =>
      cases awaitingPong with
      | true => exact ⟨true, .inl ⟨_, rfl⟩⟩
      | false => exact ⟨false, .inr (.inl ⟨nofun, nofun, rfl⟩)⟩
    | frame =>
      cases awaitingPong with
      | true => exact ⟨true, .inl ⟨_, rfl⟩⟩
      | false => exact ⟨false, .inr (.inl ⟨nofun, nofun, rfl⟩)⟩

theorem settles_of_control {message : OkxWebsocketSubscriptionMessage Data}
    (hevent : message.event = some okxWebsocketChannelConnCountEvent) :
    message.settles rules = none := by
  simp only [OkxWebsocketSubscriptionMessage.settles, OkxWebsocketSubscriptionMessage.acknowledges,
    OkxWebsocketSubscriptionMessage.refuses, hevent]
  rw [if_neg (by decide), if_neg fun h => absurd h.1 (by decide), Option.none_or]

theorem settles_of_event_none {message : OkxWebsocketSubscriptionMessage Data}
    (hevent : message.event = none) : message.settles rules = none := by
  simp only [OkxWebsocketSubscriptionMessage.settles, OkxWebsocketSubscriptionMessage.acknowledges,
    OkxWebsocketSubscriptionMessage.refuses, hevent, reduceCtorEq, false_and, if_false,
    Option.none_or]

/-- A stream that waits goes on waiting, fails, or is ready with every argument settled once. -/
theorem Waiting.next (rules : StreamRules) (apply : ApplyMessage Data Cache)
    (h : Waiting acks settled session) (arrival : Arrival Data) :
    FailedBeforeReady (session.step rules apply arrival) ∨
      Waiting acks (settled ++ (arrival.settles rules).toList) (session.step rules apply arrival) ∨
      ((session.step rules apply arrival).subscribed = true ∧
        (settled ++ (arrival.settles rules).toList).Nodup ∧
        (settled ++ (arrival.settles rules).toList).toFinset = acks) := by
  obtain ⟨awaitingPong, hstep⟩ := waiting_step rules apply h arrival
  have hnext := h.setAwaiting awaitingPong
  rcases hstep with ⟨e, hstep⟩ | ⟨hcontrol, -, hstep⟩ | ⟨message, ack, rfl, hsettles, hstep⟩ |
    ⟨message, ack, rfl, hevent, -, -, hstep⟩
  · exact .inl (hstep ▸ hnext.fail e)
  · have hnone : arrival.settles rules = none := by
      cases hjson : arrival.json? with
      | none => rw [Arrival.settles, hjson]; rfl
      | some message =>
        rw [Arrival.settles, hjson]
        exact settles_of_control (hcontrol message hjson)
    rw [hnone, Option.toList_none, List.append_nil, hstep]
    exact .inr (.inl hnext)
  · have hsome : Arrival.settles rules (.message (.text (.json (some message)))) = some ack :=
      hsettles
    rw [hsome, Option.toList_some, hstep]
    by_cases hack : ack ∉ acks ∨ ack ∈ settled
    · exact .inl (hnext.settle_fails hack)
    · obtain ⟨hrequested, hopen⟩ := not_or.1 hack
      exact .inr (hnext.settle (not_not.1 hrequested) hopen)
  · have hnone : Arrival.settles rules (.message (.text (.json (some message)))) = none :=
      settles_of_event_none hevent
    rw [hnone, Option.toList_none, List.append_nil, hstep]
    obtain ⟨calls, cache, ⟨e, happly⟩ | happly⟩ := applyText_cases rules apply
      { session with awaitingPong } message
    · exact .inl (happly ▸ (hnext.setCache calls cache).fail e)
    · exact .inr (.inl (happly ▸ hnext.setCache calls cache))

/-- Only rows of an argument that is settled change the cache. -/
theorem Waiting.cache_step (h : Waiting acks settled session) {arrival : Arrival Data}
    (hcache : (session.step rules apply arrival).cache ≠ session.cache) :
    ∃ ack ∈ settled, arrival.dataArg = some ack := by
  obtain ⟨awaitingPong, hstep⟩ := waiting_step rules apply h arrival
  rcases hstep with ⟨e, hstep⟩ | ⟨-, -, hstep⟩ | ⟨message, ack, rfl, -, hstep⟩ |
    ⟨message, ack, rfl, -, hdata, hack, -⟩
  · exact absurd (by rw [hstep]; rfl) hcache
  · exact absurd (by rw [hstep]) hcache
  · refine absurd ?_ hcache
    rw [hstep, StreamSession.settle]
    split <;> rfl
  · exact ⟨ack, hack, hdata⟩

/-- A text that breaks the handshake fails the stream. -/
theorem Waiting.breaks (apply : ApplyMessage Data Cache)
    {args : List OkxWebsocketSubscriptionAck}
    (h : Waiting args.toFinset settled session)
    {payload : Option (OkxWebsocketSubscriptionMessage Data)}
    (hbreaks : Breaks rules args settled payload) :
    FailedBeforeReady (session.step rules apply (.message (.text (.json payload)))) := by
  obtain ⟨awaitingPong, hstep⟩ :=
    waiting_step rules apply h (.message (.text (.json payload)))
  have hnext := h.setAwaiting awaitingPong
  rcases hstep with ⟨e, hstep⟩ | ⟨hcontrol, hmessage, -⟩ |
    ⟨message, ack, hmessage, hsettles, hstep⟩ |
    ⟨message, ack, hmessage, hevent, hdata, hack, -⟩
  · exact hstep ▸ hnext.fail e
  · have hevent : ∀ message, payload = some message →
        message.event = some okxWebsocketChannelConnCountEvent := fun message hpayload =>
      hcontrol message hpayload
    cases hbreaks with
    | malformed => exact absurd rfl hmessage
    | omittedArg hsubscribe =>
      rw [hevent _ rfl] at hsubscribe
      exact absurd hsubscribe (by decide)
    | foreign hsettles => rw [settles_of_control (hevent _ rfl)] at hsettles; cases hsettles
    | repeated hsettles => rw [settles_of_control (hevent _ rfl)] at hsettles; cases hsettles
    | errorEvent herror =>
      rw [hevent _ rfl] at herror
      exact absurd herror (by decide)
    | earlyData hnone => rw [hevent _ rfl] at hnone; cases hnone
    | otherText _ _ hother => exact absurd (hevent _ rfl) hother
  · cases hmessage
    rw [hstep]
    cases hbreaks with
    | omittedArg hsubscribe harg =>
      rw [OkxWebsocketSubscriptionMessage.settles, OkxWebsocketSubscriptionMessage.acknowledges,
        OkxWebsocketSubscriptionMessage.refuses, harg] at hsettles
      simp at hsettles
    | foreign hsettles' hack =>
      obtain rfl := Option.some.inj (hsettles.symm.trans hsettles')
      exact hnext.settle_fails (.inl (by rwa [List.mem_toFinset]))
    | repeated hsettles' hack =>
      obtain rfl := Option.some.inj (hsettles.symm.trans hsettles')
      exact hnext.settle_fails (.inr hack)
    | errorEvent herror hrefuses =>
      rw [OkxWebsocketSubscriptionMessage.settles, hrefuses, Option.or_none,
        OkxWebsocketSubscriptionMessage.acknowledges, herror, if_neg (by decide)] at hsettles
      cases hsettles
    | earlyData hevent => rw [settles_of_event_none hevent] at hsettles; cases hsettles
    | otherText hsubscribe herror =>
      rw [OkxWebsocketSubscriptionMessage.settles, OkxWebsocketSubscriptionMessage.acknowledges,
        OkxWebsocketSubscriptionMessage.refuses, if_neg hsubscribe,
        if_neg fun h => herror h.1] at hsettles
      cases hsettles
  · cases hmessage
    cases hbreaks with
    | omittedArg hsubscribe => rw [hevent] at hsubscribe; cases hsubscribe
    | foreign hsettles => rw [settles_of_event_none hevent] at hsettles; cases hsettles
    | repeated hsettles => rw [settles_of_event_none hevent] at hsettles; cases hsettles
    | errorEvent herror => rw [hevent] at herror; cases herror
    | earlyData _ _ hopen => exact absurd hdata (hopen ack hack)
    | otherText _ _ _ hnone =>
      rw [OkxWebsocketSubscriptionMessage.dataArg, hnone hevent] at hdata
      simp at hdata

end Step

/-! ## Runs -/

section Run

variable {rules : StreamRules} {apply : ApplyMessage Data Cache} {session : StreamSession Cache}
  {acks : Finset OkxWebsocketSubscriptionAck}

theorem run_append (session : StreamSession Cache) (before after : List (Arrival Data)) :
    session.run rules apply (before ++ after) =
      (session.run rules apply before).run rules apply after :=
  List.foldl_append

/-- A stream that ended stays as it is. -/
theorem FailedBeforeReady.run (rules : StreamRules) (apply : ApplyMessage Data Cache)
    (h : FailedBeforeReady session) (arrivals : List (Arrival Data)) :
    session.run rules apply arrivals = session := by
  obtain ⟨e, hend⟩ := h.2
  induction arrivals with
  | nil => rfl
  | cons arrival rest ih =>
    have hstep : session.step rules apply arrival = session := by
      simp only [StreamSession.step, hend, Option.isSome_some, if_true]
    rw [StreamSession.run, List.foldl_cons, hstep]
    exact ih

/-- A stream that is subscribed stays so. -/
theorem subscribed_step (h : session.subscribed = true) (arrival : Arrival Data) :
    (session.step rules apply arrival).subscribed = true := by
  have happly : ∀ (session : StreamSession Cache) payload, session.subscribed = true →
      (session.applyText rules apply payload).subscribed = true := by
    intro session payload h
    cases payload with
    | none => exact h
    | some message =>
      obtain ⟨calls, cache, ⟨e, happly⟩ | happly⟩ :=
        applyText_cases rules apply session message <;>
      rw [happly] <;>
      exact h
  have hclosed : ∀ session : StreamSession Cache, session.subscribed = true →
      (session.onClosed rules).subscribed = true := by
    intro session h
    simp only [onClosed, h, if_true]
  unfold StreamSession.step
  split
  · exact h
  · split
    · simp only [h]
    · unfold StreamSession.read
      split
      · exact h
      · split
        · exact h
        · exact hclosed _ h
        · rename_i message _
          unfold onMessage
          split
          · exact h
          · rw [if_pos h]
            exact happly _ _ h
          · exact h
          · exact h
          · exact hclosed _ h
          all_goals exact h

/-- What holds after any arrivals: the stream failed, or waits, or became ready after some of them
with every argument settled once. -/
def HandshakeState (rules : StreamRules) (acks : Finset OkxWebsocketSubscriptionAck)
    (arrivals : List (Arrival Data)) (session : StreamSession Cache) : Prop :=
  FailedBeforeReady session ∨ Waiting acks (arrivals.filterMap (·.settles rules)) session ∨
    (session.subscribed = true ∧ ∃ before rest, arrivals = before ++ rest ∧
      (before.filterMap (·.settles rules)).Nodup ∧
      (before.filterMap (·.settles rules)).toFinset = acks)

theorem handshakeState_run (rules : StreamRules) (apply : ApplyMessage Data Cache)
    (acks : Finset OkxWebsocketSubscriptionAck) (cache : Cache)
    (arrivals : List (Arrival Data)) :
    HandshakeState rules acks arrivals
        ((StreamSession.start acks cache).run rules apply arrivals) := by
  induction arrivals using List.reverseRecOn with
  | nil =>
    by_cases hacks : acks = ∅
    · refine .inr (.inr ⟨decide_eq_true hacks, [], [], rfl, List.nodup_nil, ?_⟩)
      rw [hacks]
      rfl
    · have hpending : acks = acks \ ([] : List OkxWebsocketSubscriptionAck).toFinset := by simp
      exact .inr (.inl ⟨rfl, decide_eq_false hacks, List.nodup_nil, rfl, hpending,
        Finset.empty_subset _⟩)
  | append_singleton arrivals arrival ih =>
    rw [run_append]
    have hsettled : (arrivals ++ [arrival]).filterMap (·.settles rules) =
        arrivals.filterMap (·.settles rules) ++ (arrival.settles rules).toList := by
      rw [List.filterMap_append]
      cases harrival : arrival.settles rules <;> simp [harrival]
    rcases ih with hfailed | hwaiting | ⟨hsubscribed, before, rest, rfl, hnodup, hall⟩
    · rw [hfailed.run rules apply]
      exact .inl hfailed
    · rcases hwaiting.next rules apply arrival with h | h | ⟨h, hnodup, hall⟩
      · exact .inl h
      · exact .inr (.inl (hsettled ▸ h))
      · exact .inr (.inr ⟨h, arrivals ++ [arrival], [], (List.append_nil _).symm,
          hsettled ▸ hnodup, hsettled ▸ hall⟩)
    · exact .inr (.inr ⟨subscribed_step hsubscribed arrival, before, rest ++ [arrival],
        List.append_assoc _ _ _, hnodup, hall⟩)

end Run

/-! ## The handshake -/

/-- What a stream with its request keeps to, whatever its messages do to its cache.

* It is ready only after some arrivals that settle every argument of the request once.
* Its cache changes only by rows of an argument that an earlier message settled, until it is ready.
* A text that breaks the handshake ends it, never to be ready. -/
structure HandshakeSound (rules : StreamRules) (request : OkxWebsocketSubscribeRequest)
    (acks : Finset OkxWebsocketSubscriptionAck) : Prop where
  agrees : RequestAgrees request acks
  ready : ∀ (Data Cache : Type) (apply : ApplyMessage Data Cache) (cache : Cache)
    (arrivals : List (Arrival Data)),
    ((StreamSession.start acks cache).run rules apply arrivals).subscribed = true →
    ∃ before rest, arrivals = before ++ rest ∧
      (before.filterMap (·.settles rules)).Perm request.args
  data : ∀ (Data Cache : Type) (apply : ApplyMessage Data Cache) (cache : Cache)
    (before : List (Arrival Data)) (arrival : Arrival Data),
    ((StreamSession.start acks cache).run rules apply (before ++ [arrival])).cache ≠
      ((StreamSession.start acks cache).run rules apply before).cache →
    ((StreamSession.start acks cache).run rules apply before).subscribed = true ∨
      ∃ ack ∈ before.filterMap (·.settles rules), arrival.dataArg = some ack
  breaks : ∀ (Data Cache : Type) (apply : ApplyMessage Data Cache) (cache : Cache)
    (before after : List (Arrival Data)) (payload : Option (OkxWebsocketSubscriptionMessage Data)),
    ((StreamSession.start acks cache).run rules apply before).subscribed = false →
    Breaks rules request.args (before.filterMap (·.settles rules)) payload →
    FailedBeforeReady ((StreamSession.start acks cache).run rules apply
      (before ++ .message (.text (.json payload)) :: after))

/-- A stream whose request and expectations agree is sound. -/
theorem handshakeSound_of_agrees (rules : StreamRules) {request : OkxWebsocketSubscribeRequest}
    {acks : Finset OkxWebsocketSubscriptionAck} (h : RequestAgrees request acks) :
    HandshakeSound rules request acks := by
  refine ⟨h, ?_, ?_, ?_⟩
  · intro Data Cache apply cache arrivals hready
    rcases handshakeState_run rules apply acks cache arrivals with hstate |
      hstate | ⟨-, before, rest, hsplit, hnodup, hall⟩
    · exact absurd hready (by rw [hstate.1]; exact Bool.false_ne_true)
    · exact absurd hready (by rw [hstate.subscribed]; exact Bool.false_ne_true)
    · refine ⟨before, rest, hsplit, ?_⟩
      exact List.perm_of_nodup_nodup_toFinset_eq hnodup h.nodup (hall.trans h.expected)
  · intro Data Cache apply cache before arrival hcache
    rw [run_append] at hcache
    rcases handshakeState_run rules apply acks cache before with hstate |
      hstate | ⟨hsubscribed, -⟩
    · exact absurd (by rw [hstate.run rules apply]) hcache
    · exact .inr (hstate.cache_step hcache)
    · exact .inl hsubscribed
  · intro Data Cache apply cache before after payload hwaits hbreaks
    rw [run_append]
    rcases handshakeState_run rules apply acks cache before with hstate |
      hstate | ⟨hsubscribed, -⟩
    · rw [hstate.run rules apply]
      exact hstate
    · rw [h.expected] at hstate ⊢
      have hfailed := hstate.breaks apply hbreaks
      have hrest := hfailed.run rules apply after
      rw [StreamSession.run, List.foldl_cons, ← StreamSession.run, hrest]
      exact hfailed
    · exact absurd hsubscribed (by rw [hwaits]; exact Bool.false_ne_true)

/-- **The handshake of every public and private stream is sound.** -/
theorem subscription_handshake_sound :
    (∀ config : OkxPublicMarketSubscription, ∃ request,
      publicMarketSubscription config.instrumentIds config.instrumentType config.subscribeTickers
        config.subscribeInstruments config.candleChannels config.level2InstrumentIds =
          .ok request ∧
      HandshakeSound publicStreamRules request (publicMarketSubscriptionAcks config)) ∧
    ∀ config : OkxPrivateSubscription, ∃ request,
      privateStreamSubscription config = .ok request ∧
      HandshakeSound (privateStreamRules config.kind) request
        (privateStreamSubscriptionAcks config) := by
  refine ⟨fun config => ?_, fun config => ?_⟩
  · obtain ⟨request, hrequest, hagrees⟩ := publicMarketSubscription_acks config
    exact ⟨request, hrequest, handshakeSound_of_agrees _ hagrees⟩
  · obtain ⟨request, hrequest, hagrees⟩ := privateStreamSubscription_acks config
    exact ⟨request, hrequest, handshakeSound_of_agrees _ hagrees⟩

/-! ### What a stream goes on after -/

/-- The private stream of one instrument. -/
def btcPrivateStream : OkxPrivateSubscription where
  kind := .trading
  instrumentIds := ["BTC-USDT".toList]
  instrumentType := spotText
  algoSubscriptionSelector := .spot
  fillsSubscription := .enabled
  instruments_nodup := List.nodup_singleton _
  instruments_ne_nil := List.cons_ne_nil _ _
  instrumentType_eq := rfl

/-- The stream after some arrivals; nobody observes its events. -/
def btcPrivateRun (arrivals : List (Arrival OkxPrivateData)) :
    StreamSession OkxPrivateEventState :=
  (StreamSession.start (privateStreamSubscriptionAcks btcPrivateStream) .default).run
    (privateStreamRules .trading)
    (applyPrivateEventMessageAndReport btcPrivateStream.eventAuthority (fun _ => entryWalks)
      (fun _ => 0) fun _ _ => .ok ()) arrivals

/-- Rows reach the cache only after a message acknowledged exactly their channel argument. -/
def AppliedAfterAck (before : List (Arrival OkxPrivateData)) (arrival : Arrival OkxPrivateData) :
    Prop :=
  (btcPrivateRun (before ++ [arrival])).cache ≠ (btcPrivateRun before).cache →
    ∃ earlier ∈ before, arrival.dataArg.isSome = true ∧
      (earlier.json?.bind (·.acknowledges)) = arrival.dataArg

def jsonArrival (event code : Option Text) (arg : Option OkxWebsocketSubscriptionAck)
    (data : Option OkxPrivateData) : Arrival OkxPrivateData :=
  .message (.text (.json (some { event, code, msg := none, arg, data })))

def ackArrival (arg : OkxWebsocketSubscriptionAck) : Arrival OkxPrivateData :=
  jsonArrival (some okxWebsocketSubscribeEvent) none (some arg) none

def btcFillsArg : OkxWebsocketSubscriptionAck :=
  .instrument okxPrivateFillsChannel "BTC-USDT".toList

def fillsRefusal : Arrival OkxPrivateData :=
  jsonArrival (some okxWebsocketErrorEvent) (some "64003".toList) (some btcFillsArg) none

def pushedFill (instId : Text) : OkxPrivateFill where
  orderId := "7".toList
  clientOrderId := "entry1".toList
  billId := []
  tradeId := "9".toList
  sideText := "buy".toList
  side := some .buy
  fillSzText := "1".toList
  fillSz := .value 1
  fillPx := .value 100
  fee := .blank
  feeCurrency := []
  fillTimeText := []
  eventTimeText := "1710000000124".toList
  instType := spotText
  instId := instId

/-- A message with one fill of the instrument. -/
def fillArrival (instId : Text) : Arrival OkxPrivateData :=
  jsonArrival none none (some (.instrument okxPrivateFillsChannel instId))
    (some
      { orders := none, fills := some [pushedFill instId], accounts := none, algoOrders := none })

def controlArrival : Arrival OkxPrivateData :=
  jsonArrival (some okxWebsocketChannelConnCountEvent) none none none

/-- One more fill in the cache, for an argument no message acknowledged. -/
theorem not_appliedAfterAck {before : List (Arrival OkxPrivateData)}
    {arrival : Arrival OkxPrivateData}
    (hfills : (btcPrivateRun (before ++ [arrival])).cache.fillsByDedupeKey.entries.length ≠
      (btcPrivateRun before).cache.fillsByDedupeKey.entries.length)
    (hacks : ∀ earlier ∈ before, (earlier.json?.bind (·.acknowledges)) ≠ arrival.dataArg) :
    ¬ AppliedAfterAck before arrival := by
  intro h
  obtain ⟨earlier, hmem, -, hack⟩ := h fun hcache =>
    hfills (congrArg (fun cache => cache.fillsByDedupeKey.entries.length) hcache)
  exact hacks earlier hmem hack

/-- Rows are applied for a fills argument that was refused, and once the stream is ready for one
that was never requested; and a `channel-conn-count` text does not end the stream that waits. -/
theorem handshake_exceptions :
    ¬ AppliedAfterAck [fillsRefusal] (fillArrival "BTC-USDT".toList) ∧
    ¬ AppliedAfterAck
      [ackArrival .account, ackArrival (.typed okxPrivateOrdersChannel "BTC-USDT".toList spotText),
        ackArrival btcFillsArg]
      (fillArrival "ETH-USDT".toList) ∧
    (btcPrivateRun [controlArrival]).outcome = none :=
  ⟨not_appliedAfterAck (by decide +kernel) (by decide +kernel),
    not_appliedAfterAck (by decide +kernel) (by decide +kernel), by decide +kernel⟩

end OkxTrading
