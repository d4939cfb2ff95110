import OkxTrading.Properties.TradingNotices

/-!
# Ids over all sessions

The nonce of the trading client goes on from session to session, so that no id comes back while
fewer than 2^60 are issued.

* `idsIssued`, `Numbered` — the ids issued so far, and the next nonce.
* `numbered_step` — a turn issues the next id, or none.
* `issued_once` — distinct ids are issued for one command each.
* `acknowledgements_matched` — **no acknowledgement is taken for another command**, over all the
  sessions of a client.
-/

namespace OkxTrading

open Effect

/-- The id that a notice issued. -/
def Notice.issuedId? : Notice → Option Text
  | .issued _ id => some id
  | _ => none

/-- The ids issued, in order. -/
def idsIssued (log : List (ℕ × Notice)) : List Text := log.filterMap (·.2.issuedId?)

theorem idsIssued_append (log more : List (ℕ × Notice)) :
    idsIssued (log ++ more) = idsIssued log ++ idsIssued more := List.filterMap_append

/-- The ids issued so far, of a client whose next nonce is `nonce`. -/
structure Numbered (nonce : ℕ) (ids : List Text) : Prop where
  nonce : nonce = (1 + ids.length) % 2 ^ 64
  issued : ∀ id ∈ ids, ∃ n operation clientOrderId, n < ids.length ∧
    id = (nextWebsocketRequestId ((1 + n) % 2 ^ 64) operation clientOrderId).1
  distinct : ids.length < 2 ^ 60 → ids.Nodup

theorem Numbered.next {nonce : ℕ} {ids : List Text} (h : Numbered nonce ids)
    (operation : OkxWebsocketOrderOperation) (clientOrderId : Text) :
    Numbered ((nonce + 1) % 2 ^ 64)
      (ids ++ [(nextWebsocketRequestId nonce operation clientOrderId).1]) := by
  have hlength : (ids ++ [(nextWebsocketRequestId nonce operation clientOrderId).1]).length =
      ids.length + 1 := by rw [List.length_append, List.length_singleton]
  have hnonce := h.nonce
  refine ⟨by rw [hlength]; omega, fun id hid => ?_, fun hcount => ?_⟩
  · rw [hlength]
    rcases List.mem_append.1 hid with hold | hnew
    · obtain ⟨n, operation', clientOrderId', hn, hid⟩ := h.issued id hold
      exact ⟨n, operation', clientOrderId', by omega, hid⟩
    · refine ⟨ids.length, operation, clientOrderId, by omega, ?_⟩
      rw [List.mem_singleton.1 hnew, ← hnonce]
  · rw [hlength] at hcount
    refine List.nodup_append.2 ⟨h.distinct (by omega), List.nodup_singleton _, ?_⟩
    rintro earlier hearlier _ hid rfl
    obtain ⟨n, operation', clientOrderId', hn, hsame⟩ := h.issued earlier hearlier
    have hmasked := websocketRequestId_inj (hsame.symm.trans (List.mem_singleton.1 hid))
    rw [and_nonceMask, and_nonceMask, Nat.mod_mod, Nat.mod_mod, hnonce] at hmasked
    omega

/-- A segment that is no part of a command issues no id. -/
theorem segment_nonce {s s' : TradingState} {q : TradingRequest} {answer : q.Reply} {j : ℕ}
    {run : ℕ → TradingState → Option (q.Reply × TradingState)} (hq : SessionFree q)
    (hrun : tradingSegment q = some run) (h : run j s = some (answer, s')) :
    s'.websocketRequestNonce = s.websocketRequestNonce := by
  cases q with
  | connect timestamp => cases hrun
  | rest request => cases request with
    | inl op =>
        cases hrun
        cases h
        rfl
    | inr query => cases hrun
  | segment op =>
      cases hrun
      cases op with
      | beginCommand | commandOutcome => exact hq.elim
      | clearSession | storeSession =>
          simp only [TradingOp.run] at h
          split at h
          · cases h
          · cases h
            rfl
      | _ =>
          cases h
          rfl

theorem afterSession_nonce (s : TradingState) (held : HeldCommand)
    (result : TradingSession × Option CommandOutcome) :
    (s.afterSession held result).websocketRequestNonce = s.websocketRequestNonce := by
  obtain ⟨session, outcome⟩ := result
  cases outcome <;> rfl

theorem onSession_nonce {s s' : TradingState} {event : SessionEvent}
    (h : s.onSession event = some s') : s'.websocketRequestNonce = s.websocketRequestNonce := by
  obtain ⟨held, session, -, -, rfl⟩ := TradingState.onSession_eq_some h
  exact afterSession_nonce _ _ _

theorem outside_nonce {s s' : TradingState} {event : TradingEvent}
    (h : tradingOutside s event = some s') :
    s'.websocketRequestNonce = s.websocketRequestNonce := by
  cases event with
  | client event =>
      obtain ⟨rest, -, rfl⟩ := Option.map_eq_some_iff.1 h
      rfl
  | sent | arrival | timeout => exact onSession_nonce h

theorem call_nonce {session : TradingSession} {request : OkxWebsocketOrderRequest} {now : Instant}
    (hidle : session.running = none) :
    (session.call request now).1.websocketRequestNonce =
      (session.websocketRequestNonce + 1) % 2 ^ 64 := by
  simp only [TradingSession.call, hidle]
  split <;> rfl

/-- **A segment** issues the next id where it begins a command. -/
theorem segment_numbered {s s' : TradingState} {q : TradingRequest} {answer : q.Reply} {j : ℕ}
    {run : ℕ → TradingState → Option (q.Reply × TradingState)} {ids : List Text}
    (hlock : s.LockSound) (hrun : tradingSegment q = some run)
    (hsome : run j s = some (answer, s')) (h : Numbered s.websocketRequestNonce ids) :
    Numbered s'.websocketRequestNonce (ids ++ idsIssued (s.begun j q)) := by
  have hplain : s.begun j q = [] → SessionFree q →
      Numbered s'.websocketRequestNonce (ids ++ idsIssued (s.begun j q)) := by
    intro hnone hq
    rw [segment_nonce hq hrun hsome, hnone]
    exact (List.append_nil ids).symm ▸ h
  cases q with
  | connect timestamp => cases hrun
  | rest request => exact hplain rfl trivial
  | segment op =>
      cases op with
      | beginCommand request =>
          cases hrun
          obtain ⟨hnone, ⟨hsession, -, rfl⟩ | ⟨session, _, hsession, rfl, -, rfl⟩⟩ :=
            TradingState.beginCommand_eq_some hsome
          · rw [TradingState.begun, hsession]
            exact (List.append_nil ids).symm ▸ h
          · have hidle : { session with
                websocketRequestNonce := s.websocketRequestNonce }.running = none :=
              hlock.free hnone session hsession
            rw [afterSession_nonce, call_nonce hidle, TradingState.begun, hsession]
            exact h.next request.operation request.clientOrderId
      | commandOutcome =>
          cases hrun
          obtain ⟨outcome, -, hstep⟩ := Option.map_eq_some_iff.1 hsome
          cases hstep
          exact (List.append_nil ids).symm ▸ h
      | _ => exact hplain rfl trivial

theorem dropped_nonce (j : ℕ) (s : TradingState) :
    (tradingDropped j s).websocketRequestNonce = s.websocketRequestNonce := by
  unfold tradingDropped
  split
  · rfl
  · split <;> rfl

/-- **A turn** issues the next id, or none. -/
theorem numbered_step {pool next : TradingPool} {turn : TradingTurn} {log : List (ℕ × Notice)}
    (hlock : pool.shared.LockSound) (hstep : tradingSystem.step pool turn = some next)
    (h : Numbered pool.shared.websocketRequestNonce (idsIssued log)) :
    Numbered next.shared.websocketRequestNonce (idsIssued (log ++ noticed pool turn)) := by
  have hplain : ∀ {nonce : ℕ}, nonce = pool.shared.websocketRequestNonce →
      idsIssued (noticed pool turn) = [] →
      Numbered nonce (idsIssued (log ++ noticed pool turn)) := by
    intro nonce hnonce hnone
    rw [idsIssued_append, hnone, List.append_nil, hnonce]
    exact h
  rcases Guarded.System.step_cases hstep with ⟨event, shared, rfl, hshared, rfl⟩ |
    ⟨call, rfl, rfl⟩ | ⟨j, call, q, rest, run, answer, shared, rfl, hjob, hrun, hsome, rfl⟩ |
    ⟨j, call, q, rest, answer, rfl, -, hnone, rfl⟩ | ⟨j, call, q, rest, rfl, -, rfl⟩
  · refine hplain (outside_nonce hshared) ?_
    unfold noticed
    split
    · rename_i heq
      cases heq
    · cases pool.shared.reading <;> rfl
    · rename_i heq
      cases heq
    · rfl
  · exact hplain rfl rfl
  · rw [idsIssued_append, noticed, Guarded.System.waiting_eq_some.2 ⟨call, rest, hjob⟩]
    exact segment_numbered hlock hrun hsome h
  · refine hplain rfl ?_
    cases q with
    | segment op => cases hnone
    | connect timestamp => rfl
    | rest request => cases request <;> rfl
  · exact hplain (dropped_nonce j pool.shared) rfl

section Ids

variable {last : TradingPool} {turns : List TradingTurn} {rest : ClientState} {configured : Bool}

theorem numbered_run (h : tradingSystem.run ⟨.new rest configured, []⟩ turns = some last) :
    Numbered last.shared.websocketRequestNonce
      (idsIssued (tradingSystem.observed noticed ⟨.new rest configured, []⟩ turns)) := by
  have hempty : tradingSystem.run (⟨.new rest configured, []⟩ : TradingPool) [] = some _ := rfl
  have hnumbered : Numbered 1 [] :=
    ⟨rfl, fun _ hid => (by cases hid), fun _ => List.nodup_nil⟩
  refine (Guarded.System.run_history (J := fun log pool => Evidence log pool ∧
    Numbered pool.shared.websocketRequestNonce (idsIssued log)) noticed [] ?_ h
    ⟨evidence_run hempty, hnumbered⟩).2
  rintro log pool turn next ⟨hevidence, hnumbers⟩ hstep
  obtain ⟨handed, haccounts⟩ := hevidence.accounts
  exact ⟨evidence_step hevidence hstep, numbered_step haccounts.lock hstep hnumbers⟩

/-- Distinct ids are issued for one command each. -/
theorem issued_once {log : List (ℕ × Notice)} (h : (idsIssued log).Nodup) {k j : ℕ}
    {request asked : OkxWebsocketOrderRequest} {id : Text}
    (hmem : (k, Notice.issued request id) ∈ log) (hother : (j, Notice.issued asked id) ∈ log) :
    j = k ∧ asked = request := by
  have hdistinct : log.Pairwise fun a b => ∀ c, a.2.issuedId? = some c →
      ∀ c', b.2.issuedId? = some c' → c ≠ c' := List.pairwise_filterMap.1 h
  by_contra hne
  have hpair : (k, Notice.issued request id) ≠ (j, .issued asked id) := by
    rintro ⟨⟩
    exact hne ⟨rfl, rfl⟩
  have hsymm : Std.Symm fun a b : ℕ × Notice => ∀ c, a.2.issuedId? = some c →
      ∀ c', b.2.issuedId? = some c' → c ≠ c' :=
    ⟨fun a b hab c hc c' hc' => (hab c' hc' c hc).symm⟩
  exact hdistinct.forall hmem hother hpair id rfl id rfl rfl

/-- **No acknowledgement is taken for another command**: over all the sessions of a client, while
fewer than 2^60 ids are issued, a call reads under an id that was issued to it and to no other
command, and what it takes for its acknowledgement carries no id that was issued to another. -/
theorem acknowledgements_matched
    (h : tradingSystem.run ⟨.new rest configured, []⟩ turns = some last)
    (hcount : (idsIssued (tradingSystem.observed noticed ⟨.new rest configured, []⟩
      turns)).length < 2 ^ 60) {k : ℕ} {request : OkxWebsocketOrderRequest} {id : Text}
    {response : OkxWebsocketOrderCommandResponse}
    (hread : (k, Notice.acknowledged request id response) ∈
      tradingSystem.observed noticed ⟨.new rest configured, []⟩ turns) :
    (∀ j asked, (j, Notice.issued asked id) ∈
        tradingSystem.observed noticed ⟨.new rest configured, []⟩ turns ↔
      j = k ∧ asked = request) ∧
    ∀ acknowledgement, AcknowledgedBy request id response acknowledgement → ∀ j asked,
      (j, Notice.issued asked response.id) ∈
        tradingSystem.observed noticed ⟨.new rest configured, []⟩ turns ↔
          j = k ∧ asked = request := by
  have hown : ∀ j asked, (j, Notice.issued asked id) ∈
      tradingSystem.observed noticed ⟨.new rest configured, []⟩ turns ↔
        j = k ∧ asked = request := by
    intro j asked
    have hissued := ((evidence_run h).own k request id response hread).1
    constructor
    · exact issued_once ((numbered_run h).distinct hcount) hissued
    · rintro ⟨rfl, rfl⟩
      exact hissued
  refine ⟨hown, fun acknowledgement hack => ?_⟩
  have hid : response.id = id := hack.acknowledges.id
  rw [hid]
  exact hown

end Ids

/-- The acknowledgement a response is taken for. -/
def Notice.accepted? : Notice → Option OkxOrderAck
  | .acknowledged request id response =>
      (parseOrderCommandAck (some response) (request.expected id)).toOption
  | _ => none

theorem acknowledgedBy_of_accepted {request : OkxWebsocketOrderRequest} {id : Text}
    {response : OkxWebsocketOrderCommandResponse} {acknowledgement : OkxOrderAck}
    (h : (Notice.acknowledged request id response).accepted? = some acknowledgement) :
    AcknowledgedBy request id response acknowledgement := by
  have hparse : parseOrderCommandAck (some response) (request.expected id) =
      .ok acknowledgement := by
    cases hresult : parseOrderCommandAck (some response) (request.expected id) with
    | error e =>
        rw [Notice.accepted?, hresult] at h
        cases h
    | ok found =>
        rw [Notice.accepted?, hresult] at h
        cases h
        rfl
  obtain ⟨_, heq, hack⟩ := parseOrderCommandAck_ok hparse
  cases heq
  exact ⟨hack, hparse⟩

/-- The id that the response carries was issued to the call that read it alone. -/
theorem acknowledgements_matched_acknowledged : ∃ k request id response acknowledgement,
    (k, Notice.acknowledged request id response) ∈ tradingSystem.observed noticed sampleTrading
      (tradingSystem.script sampleAcknowledged sampleTrading) ∧
    AcknowledgedBy request id response acknowledgement ∧
    ∀ j asked, (j, Notice.issued asked response.id) ∈ tradingSystem.observed noticed sampleTrading
        (tradingSystem.script sampleAcknowledged sampleTrading) ↔ j = k ∧ asked = request := by
  have hruns : (tradingSystem.run sampleTrading
      (tradingSystem.script sampleAcknowledged sampleTrading)).isSome = true := by decide +kernel
  have hcount : (idsIssued (tradingSystem.observed noticed sampleTrading
      (tradingSystem.script sampleAcknowledged sampleTrading))).length < 2 ^ 60 := by
    decide +kernel
  have hread : (tradingSystem.observed noticed sampleTrading (tradingSystem.script
      sampleAcknowledged sampleTrading)).any (·.2.accepted?.isSome) = true := by decide +kernel
  obtain ⟨last, hlast⟩ := Option.isSome_iff_exists.1 hruns
  obtain ⟨⟨k, notice⟩, hnotice, hkind⟩ := List.any_eq_true.1 hread
  obtain ⟨acknowledgement, haccepted⟩ := Option.isSome_iff_exists.1 hkind
  cases notice with
  | issued | answered => cases haccepted
  | acknowledged request id response =>
      have hack := acknowledgedBy_of_accepted haccepted
      exact ⟨k, request, id, response, acknowledgement, hnotice, hack,
        (acknowledgements_matched hlast hcount hnotice).2 acknowledgement hack⟩

end OkxTrading
