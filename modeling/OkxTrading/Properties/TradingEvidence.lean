import OkxTrading.Properties.TradingSubmissions

/-!
# What a success rests on

A call of the trading client that returns a success was told so by the exchange, by the end of its
command or over REST.

* `PlacedBy`, `AmendedBy`, `CancelledBy`, … — the answers over REST that say so.
* `place_rests`, `amend_rests`, `cancel_rests`, … — the calls of the REST client return nothing
  else.
* `clientPlace_rests`, `clientAmend_rests`, `clientCancel_rests` — the same with a command over the
  session, and with the fallback after it.
* `TradingCall.Told`, `call_rests` — **every command returns what it was told**.
-/

namespace OkxTrading

open Effect

/-! ## The answers over REST -/

/-- The answer names the order that was submitted. -/
def PlacedBy (requested : OkxOrderSubmitReconciliation) (acknowledgement : OkxOrderAck) :
    (query : RestRequest) → Except OkxError query.Value → Prop
  | .placeOrder _, reply => reply = .ok [acknowledgement] ∧
      acknowledgement.Accepts requested.clientOrderId
  | .order instId clientOrderId, reply => instId = requested.instId ∧
      clientOrderId = requested.clientOrderId ∧ ∃ held, reply = .ok [held] ∧
        HoldsOrder requested held ∧ acknowledgement = reconciledOrderAck held
  | _, _ => False

/-- The answer shows the order with what was amended. -/
def AmendedBy (amend : OkxOrderAmend) (acknowledgement : OkxOrderAck) :
    (query : RestRequest) → Except OkxError query.Value → Prop
  | .order instId clientOrderId, reply => instId = amend.instId ∧
      clientOrderId = amend.clientOrderId ∧ ∃ held, reply = .ok [held] ∧
        checkOrderLookup amend.instId amend.clientOrderId held = .ok () ∧
        verifyReconciledOrderAmend held amend = .ok () ∧ acknowledgement = reconciledOrderAck held
  | _, _ => False

/-- There is no such order, or it has ended. -/
def OrderGone (instId clientOrderId : Text) : Except OkxError (List OkxOrderRow) → Prop
  | .ok [] => True
  | .error error => error.hasApiCode "51603".toList = true
  | .ok [held] => checkOrderLookup instId clientOrderId held = .ok () ∧ held.isTerminal = true
  | _ => False

/-- The answer accepts the cancel, or shows that there is nothing to cancel. -/
def CancelledBy (instId clientOrderId : Text) :
    (query : RestRequest) → Except OkxError query.Value → Prop
  | .cancelOrder asked requested, reply => asked = instId ∧ requested = clientOrderId ∧
      ∃ acknowledgement, reply = .ok [acknowledgement] ∧ acknowledgement.Accepts clientOrderId
  | .order queried requested, reply => queried = instId ∧ requested = clientOrderId ∧
      OrderGone instId clientOrderId reply
  | _, _ => False

/-- The answer names the trigger order that was submitted. -/
def TriggeredBy (requested : AlgoSubmission) (acknowledgement : OkxAlgoAckRow) :
    (query : RestRequest) → Except OkxError query.Value → Prop
  | .orderAlgo _, reply => reply = .ok [acknowledgement] ∧
      acknowledgement.Accepts requested.clientOrderId
  | .orderAlgoByClientOrderId clientOrderId, reply => clientOrderId = requested.clientOrderId ∧
      ∃ held, reply = .ok [held] ∧ HoldsAlgoOrder requested held ∧
        acknowledgement = reconciledAlgoAck held
  | _, _ => False

/-- The answer accepts the cancel of the trigger order, or shows no order in the history that did
not end; the history is asked for only where the open list did not show the order live
(`TradingCall.grounds`). -/
def AlgoCancelledBy (instId algoId : Text) :
    (query : RestRequest) → Except OkxError query.Value → Prop
  | .cancelAlgos asked requested, reply => asked = instId ∧ requested = algoId ∧
      ∃ acknowledgement, reply = .ok [acknowledgement] ∧ acknowledgement.algoId = algoId ∧
        acknowledgement.statusCode = ['0']
  | .algoOrderHistoryById queried requested, reply => queried = instId ∧ requested = algoId ∧
      (reply = .ok none ∨ ∃ held, reply = .ok (some held) ∧
        (held.isEffective || held.isTerminalWithoutExecution) = true)
  | _, _ => False

/-- An answer over REST. -/
def OverRest {α : Type} (told : α → (query : RestRequest) → Except OkxError query.Value → Prop)
    (a : α) : (q : ClientRequest) → q.Reply → Prop
  | .inl _, _ => False
  | .inr query, reply => told a query reply

/-! ## The calls of the REST client -/

section Rest

variable {W : OkxOrderAck → Prop} {instId clientOrderId : Text}

theorem singleAlgoAckById_accepted {acknowledgements : List OkxAlgoAckRow}
    {acknowledgement : OkxAlgoAckRow} {algoId : Text} {context : Message}
    (h : singleAlgoAckByAlgoId acknowledgements algoId context = .ok acknowledgement)
    (hzero : acknowledgement.statusCode = ['0']) :
    acknowledgements = [acknowledgement] ∧ acknowledgement.algoId = algoId := by
  simp only [singleAlgoAckByAlgoId, bind_eq_ok, single_eq_ok, ensure_eq_ok] at h
  obtain ⟨row, rfl, _, -, h⟩ := h
  split at h
  · simp only [bind_eq_ok, ensure_eq_ok, pure_eq_ok] at h
    obtain ⟨_, -, _, hid, rfl⟩ := h
    exact ⟨rfl, hid⟩
  · rename_i hnonzero
    cases h
    exact absurd hzero hnonzero

/-- What a lookup makes of its answer. -/
theorem order_told {can : (q : ClientRequest) → q.Reply → Prop}
    {N : Except OkxError (List OkxOrderRow) → Prop}
    (hcan : ∀ reply, can (.inr (.order instId clientOrderId)) reply → N reply) :
    (order instId clientOrderId).Upholds can (fun _ => True) fun r =>
      (∀ held, r = .ok (some held) →
        checkOrderLookup instId clientOrderId held = .ok () ∧ N (.ok [held])) ∧
      (r = .ok none → N (.ok []) ∨ ∃ error, error.hasApiCode "51603".toList = true ∧
        N (.error error)) := by
  refine ⟨trivial, fun reply hreply => ?_⟩
  have hN := hcan reply hreply
  cases reply with
  | error error =>
      show Task.Upholds _ _ _ (if error.hasApiCode "51603".toList then _ else _)
      split
      · rename_i hmissing
        refine ⟨fun held hheld => ?_, fun _ => .inr ⟨error, hmissing, hN⟩⟩
        cases hheld
      · refine ⟨fun held hheld => ?_, fun hnone => ?_⟩
        · cases hheld
        · cases hnone
  | ok rows =>
      cases rows with
      | nil =>
          refine ⟨fun held hheld => ?_, fun _ => .inl hN⟩
          cases hheld
      | cons held rest =>
          cases rest with
          | nil =>
              show Task.Upholds _ _ _ (failing (checkOrderLookup instId clientOrderId held) >>=
                fun _ => pure (some held))
              cases hcheck : checkOrderLookup instId clientOrderId held with
              | error reason =>
                  refine ⟨fun held hheld => ?_, fun hnone => ?_⟩
                  · cases hheld
                  · cases hnone
              | ok u =>
                  refine ⟨fun found hfound => ?_, fun hnone => ?_⟩
                  · cases hfound
                    exact ⟨hcheck, hN⟩
                  · cases hnone
          | cons second more =>
              refine ⟨fun held hheld => ?_, fun hnone => ?_⟩
              · cases hheld
              · cases hnone

theorem reconcileSubmit_rests (requested : OkxOrderSubmitReconciliation) (err : OkxError) :
    (reconcileOrderSubmitFailure requested err).RestsOn (OverRest (PlacedBy requested)) := by
  intro W
  refine .bind (order_told fun reply hreply => hreply).attempt ?_ ?_
  · rintro _ ⟨outcome, ⟨⟩, hfound, -⟩
    split
    · rename_i held
      obtain ⟨hcheck, hW⟩ := hfound held rfl
      split
      · rename_i hverify
        rintro _ ⟨⟩
        exact hW _ ⟨rfl, rfl, held, rfl, holdsOrder_iff.2 ⟨hcheck, hverify⟩, rfl⟩
      · rintro a ⟨⟩
    · rintro a ⟨⟩
    · rintro a ⟨⟩
  · rintro e ⟨outcome, ⟨⟩, -⟩

theorem settleSubmit_rests (requested : OkxOrderSubmitReconciliation) (body : PlaceOrderRequest)
    (response : Except OkxError (List OkxOrderAck))
    (hW : ∀ a, PlacedBy requested a (.placeOrder body) response → W a) :
    (settleOrderSubmit requested response).Upholds
      (fun q answer => ∀ a, OverRest (PlacedBy requested) a q answer → W a) (fun _ => True)
      fun r => ∀ a, r = .ok a → W a := by
  cases response with
  | error err => exact reconcileSubmit_rests requested err W
  | ok acknowledgements =>
      simp only [settleOrderSubmit]
      split
      · exact reconcileSubmit_rests requested _ W
      · rename_i acknowledgement hack
        split
        · rename_i hzero
          obtain ⟨rfl, haccepts⟩ := singleOrderAck_accepted.1 ⟨hack, hzero⟩
          rintro _ ⟨⟩
          exact hW _ ⟨rfl, haccepts⟩
        · exact reconcileSubmit_rests requested _ W

theorem place_rests (requested : OkxOrderSubmitReconciliation) :
    requested.place.RestsOn (OverRest (PlacedBy requested)) := by
  have hsubmit : ∀ route, ((request (.placeOrder (requested.body route))).attempt >>=
      settleOrderSubmit requested).RestsOn (OverRest (PlacedBy requested)) :=
    fun route W => ⟨trivial, fun response hW => settleSubmit_rests requested _ response hW⟩
  rw [place_eq]
  refine .after fun route => ?_
  unfold submitOrder
  split
  · rw [Task.bind_assoc]
    exact .after fun _ => hsubmit route
  · split
    · simp only [Task.bind_assoc]
      exact .after fun _ => .after fun _ => .after fun _ => hsubmit route
    · exact Task.restsOn_stop _

theorem reconcileAmend_rests (amend : OkxOrderAmend) (err : OkxError) :
    (reconcileOrderAmendFailure amend err).RestsOn (OverRest (AmendedBy amend)) := by
  intro W
  refine .bind (order_told fun reply hreply => hreply).attempt ?_ ?_
  · rintro _ ⟨outcome, ⟨⟩, hfound, -⟩
    split
    · rename_i held
      obtain ⟨hcheck, hW⟩ := hfound held rfl
      split
      · rename_i hverify
        rintro _ ⟨⟩
        exact hW _ ⟨rfl, rfl, held, rfl, hcheck, hverify, rfl⟩
      · rintro a ⟨⟩
    · rintro a ⟨⟩
    · rintro a ⟨⟩
  · rintro e ⟨outcome, ⟨⟩, -⟩

/-- An amend is read back, also where it was accepted. -/
theorem amend_rests (amend : OkxOrderAmend) :
    (amendOrder amend).RestsOn (OverRest (AmendedBy amend)) := by
  refine .after fun _ => .after fun _ => .after fun reply => ?_
  split
  · exact reconcileAmend_rests amend _
  · refine .after fun acknowledgement => ?_
    split
    · exact reconcileAmend_rests amend _
    · intro W
      refine .bind (order_told fun reply hreply => hreply).attempt ?_ ?_
      · rintro _ ⟨outcome, ⟨⟩, hfound, -⟩
        split
        · rename_i held
          obtain ⟨hcheck, hW⟩ := hfound held rfl
          cases hverify : verifyReconciledOrderAmend held amend with
          | error reason => rintro a ⟨⟩
          | ok u =>
              rintro _ ⟨⟩
              exact hW _ ⟨rfl, rfl, held, rfl, hcheck, hverify, rfl⟩
        · rintro a ⟨⟩
        · rintro a ⟨⟩
      · rintro e ⟨outcome, ⟨⟩, -⟩

/-- The lookup of a cancelled order that reports it gone. -/
theorem cancelTarget_rests {W : Unit → Prop} {e : OkxError} (instId clientOrderId : Text) :
    (do if ← orderCancelTargetIsTerminalOrMissing instId clientOrderId then return ()
        else Task.stop e : ClientTask Unit).Upholds
      (fun q answer => ∀ a, OverRest (fun _ => CancelledBy instId clientOrderId) a q answer → W a)
      (fun _ => True) fun r => ∀ a, r = .ok a → W a := by
  have htarget : (orderCancelTargetIsTerminalOrMissing instId clientOrderId).Upholds
      (fun q answer => ∀ a, OverRest (fun _ => CancelledBy instId clientOrderId) a q answer → W a)
      (fun _ => True) fun r => r = .ok true → W () := by
    refine .bind (order_told fun reply hreply => hreply) ?_ ?_
    · rintro found ⟨hfound, hnone⟩
      cases found with
      | none =>
          rintro -
          rcases hnone rfl with hW | ⟨error, hmissing, hW⟩
          · exact hW () ⟨rfl, rfl, trivial⟩
          · exact hW () ⟨rfl, rfl, hmissing⟩
      | some held =>
          intro hterminal
          obtain ⟨hcheck, hW⟩ := hfound held rfl
          exact hW () ⟨rfl, rfl, hcheck, Except.ok.inj hterminal⟩
    · rintro e - ⟨⟩
  refine .bind htarget (fun gone hgone => ?_) fun e _ => ?_
  · split
    · rename_i htrue
      rintro ⟨⟩ -
      exact hgone (congrArg _ htrue)
    · rintro a ⟨⟩
  · rintro a ⟨⟩

theorem cancel_rests (instId clientOrderId : Text) :
    (cancelOrder instId clientOrderId).RestsOn
      (OverRest fun _ => CancelledBy instId clientOrderId) := by
  refine .after fun _ W => ⟨trivial, fun reply hW => ?_⟩
  cases reply with
  | error error =>
      show Task.Upholds _ _ _ (if error.hasApiCode ['1'] then _ else _)
      split
      · exact cancelTarget_rests instId clientOrderId
      · rintro a ⟨⟩
  | ok acknowledgements =>
      show Task.Upholds _ _ _ (failing (singleOrderAck acknowledgements clientOrderId "cancel") >>=
        fun acknowledgement => if acknowledgement.statusCode = ['0'] then _ else _)
      cases hack : singleOrderAck acknowledgements clientOrderId "cancel" with
      | error reason => rintro a ⟨⟩
      | ok acknowledgement =>
          show Task.Upholds _ _ _ (if acknowledgement.statusCode = ['0'] then _ else _)
          split
          · rename_i hzero
            rintro ⟨⟩ -
            obtain ⟨rfl, haccepts⟩ := singleOrderAck_accepted.1 ⟨hack, hzero⟩
            exact hW () ⟨rfl, rfl, acknowledgement, rfl, haccepts⟩
          · exact cancelTarget_rests instId clientOrderId

theorem reconcileTrigger_rests (requested : AlgoSubmission) (err : OkxError) :
    (reconcileAlgoSubmitFailure requested.instId requested.side requested.size
      requested.triggerPrice requested.clientOrderId err).RestsOn
      (OverRest (TriggeredBy requested)) := by
  intro W
  have hlookup : (algoOrderByClientOrderId requested.instId requested.clientOrderId).Upholds
      (fun q answer => ∀ a, OverRest (TriggeredBy requested) a q answer → W a) (fun _ => True)
      fun r => ∀ held, r = .ok (some held) → verifyReconciledAlgoSubmit requested.side
        requested.size requested.triggerPrice held = .ok () → W (reconciledAlgoAck held) := by
    refine .bind (P := fun r => ∀ rows, r = .ok rows → ∀ a, TriggeredBy requested a
      (.orderAlgoByClientOrderId requested.clientOrderId) (.ok rows) → W a) ⟨trivial, ?_⟩ ?_ ?_
    · rintro reply hW rows ⟨⟩
      exact hW
    · intro rows hrows
      split
      · rintro held ⟨⟩
      · rename_i held
        cases hmatches :
            ensureAlgoOrderMatchesInstrument requested.instId "algo order lookup" held with
        | error reason => rintro found ⟨⟩
        | ok u =>
            by_cases hid : held.clientOrderId = requested.clientOrderId
            · have hcheck : ensure (held.clientOrderId = requested.clientOrderId)
                "OKX returned algo with another algoClOrdId" = .ok () := ensure_eq_ok.2 hid
              show Task.Upholds _ _ _ (failing (ensure _ _) >>= fun _ => pure (some held))
              rw [hcheck]
              rintro _ ⟨⟩ hverify
              exact hrows _ rfl _ ⟨rfl, held, rfl, holdsAlgoOrder_iff.2 ⟨hmatches, hid, hverify⟩,
                rfl⟩
            · have hcheck : ensure (held.clientOrderId = requested.clientOrderId)
                "OKX returned algo with another algoClOrdId" =
                  .error "OKX returned algo with another algoClOrdId" := if_neg hid
              show Task.Upholds _ _ _ (failing (ensure _ _) >>= fun _ => pure (some held))
              rw [hcheck]
              rintro found ⟨⟩
      · rintro held ⟨⟩
    · rintro e - held ⟨⟩
  refine .bind hlookup.attempt ?_ ?_
  · rintro _ ⟨outcome, ⟨⟩, hfound⟩
    split
    · rename_i held
      split
      · rename_i hverify
        rintro _ ⟨⟩
        exact hfound held rfl hverify
      · rintro a ⟨⟩
    · rintro a ⟨⟩
    · rintro a ⟨⟩
  · rintro e ⟨outcome, ⟨⟩, -⟩

theorem trigger_rests (requested : AlgoSubmission) :
    requested.place.RestsOn (OverRest (TriggeredBy requested)) := by
  rw [placeTrigger_eq]
  refine .after fun route => .after fun _ W => ⟨trivial, fun response hW => ?_⟩
  cases response with
  | error err => exact reconcileTrigger_rests requested err W
  | ok acknowledgements =>
      show Task.Upholds _ _ _ (settleAlgoSubmit requested (.ok acknowledgements))
      simp only [settleAlgoSubmit]
      cases hack : singleAlgoAckByClientOrderId acknowledgements requested.clientOrderId
        "algo order" with
      | error reason => rintro a ⟨⟩
      | ok acknowledgement =>
          obtain ⟨rfl, -, haccepts⟩ := singleAlgoAck_eq_ok.1 hack
          show Task.Upholds _ _ _ (if acknowledgement.statusCode = ['0'] then _ else _)
          split
          · rename_i hzero
            rintro _ ⟨⟩
            exact hW _ ⟨rfl, haccepts hzero⟩
          · split
            · exact reconcileTrigger_rests requested _ W
            · rintro a ⟨⟩

/-- The lookup of a cancelled trigger order that reports it gone. -/
theorem algoTarget_told {W : Unit → Prop} (instId algoId : Text) :
    (algoCancelTargetIsTerminalOrMissing instId algoId).Upholds
      (fun q answer => ∀ a, OverRest (fun _ => AlgoCancelledBy instId algoId) a q answer → W a)
      (fun _ => True) fun r => r = .ok true → W () := by
  refine .bind (Task.upholds_trivial (request (.openAlgoOrders instId))) (fun orders _ => ?_)
    fun e _ => by rintro ⟨⟩
  split
  · rintro ⟨⟩
  · refine .bind (P := fun r => ∀ found, r = .ok found → ∀ a, OverRest
      (fun _ => AlgoCancelledBy instId algoId) a (.inr (.algoOrderHistoryById instId algoId))
        (.ok found) → W a) ⟨trivial, ?_⟩ ?_ fun e _ => by rintro ⟨⟩
    · rintro reply hW found rfl
      exact hW
    · intro found hfound
      split
      · rintro -
        exact hfound none rfl () ⟨rfl, rfl, .inl rfl⟩
      · rename_i held
        intro hended
        exact hfound (some held) rfl () ⟨rfl, rfl, .inr ⟨held, rfl, Except.ok.inj hended⟩⟩

theorem cancelAlgo_rests (instId algoId : Text) :
    (cancelAlgoOrder instId algoId).RestsOn (OverRest fun _ => AlgoCancelledBy instId algoId) := by
  refine .after fun _ W => ⟨trivial, fun reply hW => ?_⟩
  cases reply with
  | error error =>
      show Task.Upholds _ _ _ (if error.hasApiCode ['1'] then _ else _)
      split
      · refine .bind (algoTarget_told instId algoId).attempt ?_ ?_
        · rintro _ ⟨outcome, ⟨⟩, hgone⟩
          split
          · rintro ⟨⟩ -
            exact hgone rfl
          · rintro a ⟨⟩
          · rintro a ⟨⟩
        · rintro e ⟨outcome, ⟨⟩, -⟩
      · rintro a ⟨⟩
  | ok acknowledgements =>
      show Task.Upholds _ _ _ (failing (singleAlgoAckByAlgoId acknowledgements algoId
        "cancel algo") >>= fun acknowledgement =>
          if acknowledgement.statusCode = ['0'] then _ else _)
      cases hack : singleAlgoAckByAlgoId acknowledgements algoId "cancel algo" with
      | error reason => rintro a ⟨⟩
      | ok acknowledgement =>
          show Task.Upholds _ _ _ (if acknowledgement.statusCode = ['0'] then _ else _)
          split
          · rename_i hzero
            rintro ⟨⟩ -
            obtain ⟨rfl, hid⟩ := singleAlgoAckById_accepted hack hzero
            exact hW () ⟨rfl, rfl, acknowledgement, rfl, hid, hzero⟩
          · refine .bind (algoTarget_told instId algoId) (fun gone hgone => ?_) fun e _ => ?_
            · split
              · rename_i htrue
                rintro ⟨⟩ -
                exact hgone (congrArg _ htrue)
              · rintro a ⟨⟩
            · rintro a ⟨⟩

end Rest

/-! ## The calls of the trading client -/

/-- What a call returns is told by the outcome of its command, or over REST. -/
def OverSessionOrRest {α : Type} (returned : α → OkxOrderAck → Prop)
    (told : α → (query : RestRequest) → Except OkxError query.Value → Prop) (a : α) :
    (q : TradingRequest) → q.Reply → Prop
  | .segment .commandOutcome, outcome => ∃ acknowledgement, outcome = .ok acknowledgement ∧
      returned a acknowledgement
  | .rest request, answer => OverRest told a request answer
  | _, _ => False

/-- The same told in other words. -/
theorem OverSessionOrRest.imp {α β : Type} {returned : α → OkxOrderAck → Prop}
    {returned' : β → OkxOrderAck → Prop}
    {told : α → (query : RestRequest) → Except OkxError query.Value → Prop}
    {told' : β → (query : RestRequest) → Except OkxError query.Value → Prop} {a : α} {b : β}
    {q : TradingRequest} {answer : q.Reply} (h : OverSessionOrRest returned told a q answer)
    (hreturned : ∀ acknowledgement, returned a acknowledgement → returned' b acknowledgement)
    (htold : ∀ query reply, told a query reply → told' b query reply) :
    OverSessionOrRest returned' told' b q answer := by
  cases q with
  | connect timestamp => exact h
  | rest request => cases request with
    | inl op => exact h
    | inr query => exact htold query answer h
  | segment op => cases op with
    | commandOutcome =>
        obtain ⟨acknowledgement, houtcome, hack⟩ := h
        exact ⟨acknowledgement, houtcome, hreturned acknowledgement hack⟩
    | _ => exact h

section Client

variable {α : Type}
  {told : α → (query : RestRequest) → Except OkxError query.Value → Prop}

theorem viaRest_rests (returned : α → OkxOrderAck → Prop) {task : ClientTask α}
    (h : task.RestsOn (OverRest told)) :
    (viaRest task).RestsOn (OverSessionOrRest returned told) :=
  h.lift fun _ _ _ htold => htold

theorem sessionCommand_rests
    (told : OkxOrderAck → (query : RestRequest) → Except OkxError query.Value → Prop)
    (request : OkxWebsocketOrderRequest) :
    (sessionCommand request).RestsOn (OverSessionOrRest Eq told) := by
  refine .after fun began => ?_
  cases began with
  | error e => exact Task.restsOn_stop _
  | ok u =>
      refine fun W => ⟨trivial, fun outcome hW => ?_⟩
      cases outcome with
      | error e => rintro a ⟨⟩
      | ok acknowledgement =>
          rintro _ ⟨⟩
          exact hW _ ⟨acknowledgement, rfl, rfl⟩

theorem clientPlace_rests (command : OkxRegularOrderCommand) :
    (OkxTradingClient.placeOrder command).RestsOn
      (OverSessionOrRest Eq (PlacedBy command.reconciliation)) := by
  have hrest : (OkxTradingClient.restPlaceOrder command).RestsOn
      (OverSessionOrRest Eq (PlacedBy command.reconciliation)) :=
    viaRest_rests _ (place_rests command.reconciliation)
  refine .after fun configured => ?_
  split
  · split
    · exact hrest
    all_goals
      refine .handle (.after fun _ => .after fun _ => .after fun _ => .after fun _ =>
        sessionCommand_rests _ _) (fun _ => rfl) fun error => ?_
      cases error with
      | unavailable error => exact hrest
      | preparationRejected error => exact Task.restsOn_stop _
      | ambiguous error =>
        exact viaRest_rests _ (reconcileSubmit_rests command.reconciliation error)
  · exact hrest

theorem clientAmend_rests (command : OrderAmendCommand) :
    (OkxTradingClient.amendOrder command).RestsOn
      (OverSessionOrRest Eq (AmendedBy command.amend)) := by
  refine .after fun _ => .after fun configured => ?_
  split
  · refine .handle (.after fun _ => .after fun _ => .after fun _ => sessionCommand_rests _ _)
      (fun _ => rfl) fun error => ?_
    cases error with
    | unavailable error => exact viaRest_rests _ (amend_rests command.amend)
    | preparationRejected error => exact Task.restsOn_stop _
    | ambiguous error => exact viaRest_rests _ (reconcileAmend_rests command.amend error)
  · exact viaRest_rests _ (amend_rests command.amend)

theorem clientCancel_rests (instId clientOrderId : Text) :
    (OkxTradingClient.cancelOrder instId clientOrderId).RestsOn
      (OverSessionOrRest (fun _ _ => True) fun _ => CancelledBy instId clientOrderId) := by
  have hrest : (viaRest (OkxTrading.cancelOrder instId clientOrderId)).RestsOn
      (OverSessionOrRest (fun _ _ => True) fun _ => CancelledBy instId clientOrderId) :=
    viaRest_rests _ (cancel_rests instId clientOrderId)
  refine .after fun configured => ?_
  split
  · refine .handle (.after fun _ => .after fun _ => .after fun _ => ?_) (fun _ => rfl)
      fun error => ?_
    · exact (sessionCommand_rests (fun _ _ _ => False) _).map fun _ q answer h =>
        h.imp (fun _ _ => trivial) fun _ _ => False.elim
    · cases error with
      | unavailable error | ambiguous error => exact hrest
      | preparationRejected error => exact Task.restsOn_stop _
  · exact hrest

end Client

/-! ## What the calls are told -/

/-- It changes something at the exchange. -/
def ClientCall.isCommand : ClientCall → Bool
  | .placeOrder .. | .amendOrder _ | .placeTriggerOrder .. | .cancelOrder _ _
  | .cancelAlgoOrder _ _ => true
  | _ => false

namespace TradingCall

/-- The call places, cancels or amends an order. -/
def isCommand : TradingCall → Bool
  | .placeOrder _ | .cancelOrder _ _ | .amendOrder _ => true
  | .rest call => call.isCommand
  | _ => false

/-- What a call returns after its command was acknowledged. -/
def Returns : TradingCall → Option OkxOrderAck → OkxOrderAck → Prop
  | .placeOrder _, value, acknowledgement => value = some acknowledgement
  | .amendOrder _, value, acknowledgement => value = some acknowledgement
  | .cancelOrder _ _, value, _ => value = none
  | _, _, _ => False

/-- The answer over REST says what the call returns. -/
def AnsweredBy (value : Option OkxOrderAck) (query : RestRequest)
    (reply : Except OkxError query.Value) : TradingCall → Prop
  | .placeOrder command => ∃ acknowledgement, value = some acknowledgement ∧
      PlacedBy command.reconciliation acknowledgement query reply
  | .amendOrder command => ∃ acknowledgement, value = some acknowledgement ∧
      AmendedBy command.amend acknowledgement query reply
  | .cancelOrder instId clientOrderId => value = none ∧ CancelledBy instId clientOrderId query reply
  | .rest (.placeOrder instId side kind size price clientOrderId) =>
      value = none ∧ ∃ acknowledgement,
        PlacedBy ⟨instId, side, kind, size, price, clientOrderId⟩ acknowledgement query reply
  | .rest (.amendOrder amend) =>
      value = none ∧ ∃ acknowledgement, AmendedBy amend acknowledgement query reply
  | .rest (.placeTriggerOrder instId side size triggerPrice clientOrderId) =>
      value = none ∧ ∃ acknowledgement,
        TriggeredBy ⟨instId, side, size, triggerPrice, clientOrderId⟩ acknowledgement query reply
  | .rest (.cancelOrder instId clientOrderId) =>
      value = none ∧ CancelledBy instId clientOrderId query reply
  | .rest (.cancelAlgoOrder instId algoId) =>
      value = none ∧ AlgoCancelledBy instId algoId query reply
  | _ => False

/-- What a call returns, by the outcome of its command or over REST. -/
abbrev Told (call : TradingCall) : Option OkxOrderAck → (q : TradingRequest) → q.Reply → Prop :=
  OverSessionOrRest call.Returns fun value query reply => call.AnsweredBy value query reply

end TradingCall

/-- **Every command returns what it was told.** -/
theorem call_rests (call : TradingCall) (hcommand : call.isCommand = true) :
    call.task.RestsOn call.Told := by
  have hrest : ∀ {α : Type} {task : ClientTask α}
      {told : α → (query : RestRequest) → Except OkxError query.Value → Prop},
      task.RestsOn (OverRest told) → (∀ a query reply, told a query reply →
        call.AnsweredBy none query reply) →
      (viaRest (discardValue task) >>= fun _ => pure none).RestsOn call.Told := by
    intro α task told htask htold
    have hdiscard : (discardValue task).RestsOn (OverRest fun _ query reply =>
        ∃ a, told a query reply) :=
      htask.map fun a q answer h => by
        cases q with
        | inl op => exact h
        | inr query => exact ⟨a, h⟩
    exact (viaRest_rests (fun _ _ => False) hdiscard).map fun _ q answer h =>
      h.imp (fun _ => False.elim) fun query reply ⟨a, ha⟩ => htold a query reply ha
  cases call with
  | placeOrder command =>
      exact (clientPlace_rests command).map fun a q answer h =>
        h.imp (fun _ => congrArg some) fun query reply hreply => ⟨a, rfl, hreply⟩
  | amendOrder command =>
      exact (clientAmend_rests command).map fun a q answer h =>
        h.imp (fun _ => congrArg some) fun query reply hreply => ⟨a, rfl, hreply⟩
  | cancelOrder instId clientOrderId =>
      exact (clientCancel_rests instId clientOrderId).map fun a q answer h =>
        h.imp (fun _ _ => rfl) fun query reply hreply => ⟨rfl, hreply⟩
  | rest call =>
      cases call with
      | placeOrder instId side kind size price clientOrderId =>
          exact hrest (place_rests ⟨instId, side, kind, size, price, clientOrderId⟩)
            fun a query reply h => ⟨rfl, a, h⟩
      | amendOrder amend =>
          exact hrest (amend_rests amend) fun a query reply h => ⟨rfl, a, h⟩
      | placeTriggerOrder instId side size triggerPrice clientOrderId =>
          exact hrest (trigger_rests ⟨instId, side, size, triggerPrice, clientOrderId⟩)
            fun a query reply h => ⟨rfl, a, h⟩
      | cancelOrder instId clientOrderId =>
          exact (viaRest_rests (fun _ _ => False) (cancel_rests instId clientOrderId)).map
            fun _ q answer h => h.imp (fun _ => False.elim) fun query reply hreply => ⟨rfl, hreply⟩
      | cancelAlgoOrder instId algoId =>
          exact (viaRest_rests (fun _ _ => False) (cancelAlgo_rests instId algoId)).map
            fun _ q answer h => h.imp (fun _ => False.elim) fun query reply hreply => ⟨rfl, hreply⟩
      | _ => cases hcommand
  | _ => cases hcommand

end OkxTrading
