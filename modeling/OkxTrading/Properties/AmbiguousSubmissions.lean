import OkxTrading.Okx.Asks

/-!
# Ambiguous submissions

What `place_order` and `place_trigger_order` make of the response to a submission, when the exchange
holds the order that was submitted and the lookup shows it.

* `HoldsOrder`, `HoldsAlgoOrder` — the exchange holds what was submitted.
* `settleOrderSubmit`, `settleAlgoSubmit` — the two functions after their submission.
* `NamesHeldOrder`, `SettlesAlgo` — the responses after which they end with the held order.
* `submissions_settled` — **exactly these responses**, and no success without a confirmation.
* `trigger_order_lost` — a trigger order that is live, and reported as a failure without a lookup.
-/

namespace OkxTrading

open Effect

/-! ## Orders at the exchange -/

/-- Both texts are the same positive decimal. -/
def SamePositive (a b : DecimalText) : Prop := ∃ d, 0 < d ∧ a = .value d ∧ b = .value d

/-- The order is the submitted one, in every field that was requested. -/
structure HoldsOrder (requested : OkxOrderSubmitReconciliation) (order : OkxOrderRow) : Prop where
  instId : order.instId = requested.instId
  instType : order.instType = spotText
  documented : (order.isLive || order.isTerminal) = true
  clientOrderId : order.clientOrderId = requested.clientOrderId
  side : order.parsedSide = some requested.side
  kind : order.parsedKind = some requested.kind
  size : SamePositive order.sz requested.size
  price : ∀ price, requested.price = some price → SamePositive order.price price

/-- The arguments of `place_trigger_order`. -/
structure AlgoSubmission where
  instId : Text
  side : OrderSide
  size : DecimalText
  triggerPrice : DecimalText
  clientOrderId : Text

/-- The algo order is live and the submitted one, in every field that was requested. -/
structure HoldsAlgoOrder (requested : AlgoSubmission) (order : OkxAlgoOrderRow) : Prop where
  instId : order.instId = requested.instId
  instType : order.instType = spotText
  live : order.isLive = true
  clientOrderId : order.clientOrderId = requested.clientOrderId
  side : order.parsedSide = some requested.side
  kind : order.isTriggerMarketOrder = true
  size : SamePositive order.sz requested.size
  triggerPrice : SamePositive order.triggerPx requested.triggerPrice

theorem samePositive_of {label context : Message} {a b : DecimalText} {d : Decimal}
    (ha : parsePositiveDecimal context a = .ok d)
    (hb : parsePositiveDecimalField label b = .ok d) : SamePositive a b :=
  ⟨d, (parsePositiveDecimal_eq_ok.1 ha).2, (parsePositiveDecimal_eq_ok.1 ha).1,
    (parsePositiveDecimalField_eq_ok.1 hb).1⟩

theorem samePositiveField_iff {label context : Message} {a b : DecimalText} {message : Message} :
    (do ensure ((← parsePositiveDecimalField context a) = (← parsePositiveDecimalField label b))
          message : Result Unit) = .ok () ↔ SamePositive a b := by
  simp only [bind_eq_ok, ensure_eq_ok, parsePositiveDecimalField_eq_ok]
  constructor
  · rintro ⟨x, ⟨rfl, hpos⟩, _, ⟨rfl, -⟩, rfl⟩
    exact ⟨x, hpos, rfl, rfl⟩
  · rintro ⟨d, hpos, rfl, rfl⟩
    exact ⟨d, ⟨rfl, hpos⟩, d, ⟨rfl, hpos⟩, rfl⟩

theorem ensureOrderMatchesInstrument_eq_ok {instId : Text} {context : Message}
    {order : OkxOrderRow} : ensureOrderMatchesInstrument instId context order = .ok () ↔
      order.instId = instId ∧ order.instType = spotText ∧
        (order.isLive || order.isTerminal) = true := by
  simp only [ensureOrderMatchesInstrument, ensureSpotInstType, OkxOrder.ensureDocumentedState,
    bind_eq_ok, ensure_eq_ok, exists_const]

theorem checkOrderLookup_eq_ok {instId clientOrderId : Text} {order : OkxOrderRow} :
    checkOrderLookup instId clientOrderId order = .ok () ↔
      (order.instId = instId ∧ order.instType = spotText ∧
        (order.isLive || order.isTerminal) = true) ∧ order.clientOrderId = clientOrderId := by
  rw [← ensureOrderMatchesInstrument_eq_ok, checkOrderLookup, bind_eq_ok]
  constructor
  · rintro ⟨_, hmatches, hid⟩
    exact ⟨hmatches, ensure_eq_ok.1 hid⟩
  · rintro ⟨hmatches, hid⟩
    exact ⟨(), hmatches, ensure_eq_ok.2 hid⟩

theorem verifyReconciledOrderSubmit_eq_ok {requested : OkxOrderSubmitReconciliation}
    {order : OkxOrderRow} : verifyReconciledOrderSubmit requested order = .ok () ↔
      order.parsedSide = some requested.side ∧ order.parsedKind = some requested.kind ∧
        SamePositive order.sz requested.size ∧
        ∀ price, requested.price = some price → SamePositive order.price price := by
  simp only [verifyReconciledOrderSubmit, bind_eq_ok, ensure_eq_ok]
  constructor
  · rintro ⟨_, hside, _, hkind, size, hsize, expected, hexpected, _, rfl, hprice⟩
    refine ⟨hside, hkind, samePositive_of hsize hexpected, ?_⟩
    intro price hrequested
    rw [hrequested] at hprice
    exact samePositiveField_iff.1 hprice
  · rintro ⟨hside, hkind, ⟨d, hpos, hsize, hexpected⟩, hprice⟩
    refine ⟨(), hside, (), hkind, d, parsePositiveDecimal_eq_ok.2 ⟨hsize, hpos⟩, d,
      parsePositiveDecimalField_eq_ok.2 ⟨hexpected, hpos⟩, (), rfl, ?_⟩
    cases hrequested : requested.price with
    | none => rfl
    | some price => exact samePositiveField_iff.2 (hprice price hrequested)

/-- **What the lookup and the reconciliation of a submission accept.** -/
theorem holdsOrder_iff {requested : OkxOrderSubmitReconciliation} {order : OkxOrderRow} :
    HoldsOrder requested order ↔
      checkOrderLookup requested.instId requested.clientOrderId order = .ok () ∧
        verifyReconciledOrderSubmit requested order = .ok () := by
  rw [checkOrderLookup_eq_ok, verifyReconciledOrderSubmit_eq_ok]
  constructor
  · intro h
    exact ⟨⟨⟨h.instId, h.instType, h.documented⟩, h.clientOrderId⟩, h.side, h.kind, h.size, h.price⟩
  · rintro ⟨⟨⟨hinst, htype, hstate⟩, hid⟩, hside, hkind, hsize, hprice⟩
    exact ⟨hinst, htype, hstate, hid, hside, hkind, hsize, hprice⟩

theorem ensureAlgoOrderMatchesInstrument_eq_ok {instId : Text} {context : Message}
    {order : OkxAlgoOrderRow} (hlive : order.isLive = true) :
    ensureAlgoOrderMatchesInstrument instId context order = .ok () ↔
      order.instId = instId ∧ order.instType = spotText := by
  have hstate : order.toOkxAlgoOrder.ensureDocumentedState context = .ok () := by
    rw [OkxAlgoOrder.ensureDocumentedState, ensure_eq_ok]
    cases hs : order.state with
    | other => rw [OkxAlgoOrder.isLive, hs] at hlive; cases hlive
    | _ => rfl
  simp only [ensureAlgoOrderMatchesInstrument, ensureSpotInstType, bind_eq_ok, ensure_eq_ok,
    hstate, exists_const, and_true]

theorem verifyReconciledAlgoSubmit_eq_ok {side : OrderSide} {size triggerPrice : DecimalText}
    {order : OkxAlgoOrderRow} :
    verifyReconciledAlgoSubmit side size triggerPrice order = .ok () ↔
      order.isLive = true ∧ order.parsedSide = some side ∧ order.isTriggerMarketOrder = true ∧
        SamePositive order.sz size ∧ SamePositive order.triggerPx triggerPrice := by
  simp only [verifyReconciledAlgoSubmit, bind_eq_ok, ensure_eq_ok, parseDecimal_eq_ok,
    OkxAlgoOrder.requestedSize, OkxAlgoOrder.triggerPrice, parsePositiveDecimal_eq_ok]
  constructor
  · rintro ⟨_, hlive, _, hside, _, hkind, d, hd, t, ht, _, ⟨hsz, hpos⟩, _, rfl, _, ⟨hpx, hposT⟩,
      rfl⟩
    exact ⟨hlive, hside, hkind, ⟨_, hpos, hsz, hd⟩, ⟨_, hposT, hpx, ht⟩⟩
  · rintro ⟨hlive, hside, hkind, ⟨d, hpos, hsz, hd⟩, ⟨t, hposT, hpx, ht⟩⟩
    exact ⟨(), hlive, (), hside, (), hkind, d, hd, t, ht, d, ⟨hsz, hpos⟩, (), rfl, t, ⟨hpx, hposT⟩,
      rfl⟩

/-- **What the lookup and the reconciliation of a trigger submission accept.** -/
theorem holdsAlgoOrder_iff {requested : AlgoSubmission} {order : OkxAlgoOrderRow} :
    HoldsAlgoOrder requested order ↔
      ensureAlgoOrderMatchesInstrument requested.instId "algo order lookup" order = .ok () ∧
        order.clientOrderId = requested.clientOrderId ∧
        verifyReconciledAlgoSubmit requested.side requested.size requested.triggerPrice order =
          .ok () := by
  rw [verifyReconciledAlgoSubmit_eq_ok]
  constructor
  · intro h
    exact ⟨(ensureAlgoOrderMatchesInstrument_eq_ok h.live).2 ⟨h.instId, h.instType⟩,
      h.clientOrderId, h.live, h.side, h.kind, h.size, h.triggerPrice⟩
  · rintro ⟨hmatches, hid, hlive, hside, hkind, hsize, hprice⟩
    obtain ⟨hinst, htype⟩ := (ensureAlgoOrderMatchesInstrument_eq_ok hlive).1 hmatches
    exact ⟨hinst, htype, hlive, hid, hside, hkind, hsize, hprice⟩

/-! ## After the submission -/

/-- `place_order` after its submission. -/
def settleOrderSubmit (requested : OkxOrderSubmitReconciliation) :
    Except OkxError (List OkxOrderAck) → ClientTask OkxOrderAck
  | .error err => reconcileOrderSubmitFailure requested err
  | .ok acknowledgements =>
      match singleOrderAck acknowledgements requested.clientOrderId "order" with
      | .error err => reconcileOrderSubmitFailure requested (.failed err)
      | .ok acknowledgement =>
          if acknowledgement.statusCode = ['0'] then return acknowledgement
          else reconcileOrderSubmitFailure requested (orderAckRejection acknowledgement)

/-- `place_trigger_order` after its submission. -/
def settleAlgoSubmit (requested : AlgoSubmission) :
    Except OkxError (List OkxAlgoAckRow) → ClientTask OkxAlgoAckRow
  | .error err => reconcileAlgoSubmitFailure requested.instId requested.side requested.size
      requested.triggerPrice requested.clientOrderId err
  | .ok acknowledgements => do
      let acknowledgement ←
        failing (singleAlgoAckByClientOrderId acknowledgements requested.clientOrderId "algo order")
      let err := OkxError.failed "OKX algo order rejected"
      if acknowledgement.statusCode = ['0'] then return acknowledgement
      else if acknowledgement.statusCode = "51065".toList then
        reconcileAlgoSubmitFailure requested.instId requested.side requested.size
          requested.triggerPrice requested.clientOrderId err
      else Task.stop err

/-- The acknowledgement is of the submitted order, which it names and accepts. -/
def OkxOrderAck.Accepts (acknowledgement : OkxOrderAck) (clientOrderId : Text) : Prop :=
  acknowledgement.clientOrderId = clientOrderId ∧ acknowledgement.statusCode = ['0'] ∧
    Text.isBlank acknowledgement.orderId = false

/-- The acknowledgement accepts the submission. -/
def OkxAlgoAckRow.Accepts (acknowledgement : OkxAlgoAckRow) (clientOrderId : Text) : Prop :=
  acknowledgement.clientOrderId = clientOrderId ∧ acknowledgement.statusCode = ['0'] ∧
    Text.isBlank acknowledgement.algoId = false

/-- The acknowledgement rejects the submitted order for a client id that is already in use. -/
def OkxAlgoAckRow.RejectsDuplicate (acknowledgement : OkxAlgoAckRow) (clientOrderId : Text) :
    Prop :=
  (Text.isBlank acknowledgement.clientOrderId = true ∨
    acknowledgement.clientOrderId = clientOrderId) ∧ acknowledgement.statusCode = "51065".toList

theorem single_eq_ok {α : Type} {rows : List α} {message : Message} {row : α} :
    single rows message = .ok row ↔ rows = [row] := by
  unfold single
  split
  · rw [Except.ok.injEq, List.cons.injEq]
    exact ⟨fun h => ⟨h, rfl⟩, fun h => h.1⟩
  · rename_i hne
    constructor
    · rintro ⟨⟩
    · rintro rfl
      exact absurd rfl (hne row)

theorem singleOrderAck_accepted {acknowledgements : List OkxOrderAck}
    {acknowledgement : OkxOrderAck} {clientOrderId : Text} {context : Message} :
    singleOrderAck acknowledgements clientOrderId context = .ok acknowledgement ∧
        acknowledgement.statusCode = ['0'] ↔
      acknowledgements = [acknowledgement] ∧ acknowledgement.Accepts clientOrderId := by
  simp only [singleOrderAck, bind_eq_ok, single_eq_ok]
  constructor
  · rintro ⟨⟨row, rfl, h⟩, hstatus⟩
    split at h
    · rename_i hblank
      simp only [pure_bind, hblank.2, if_false, pure_eq_ok] at h
      subst h
      exact absurd hstatus hblank.2
    · obtain ⟨_, hclient, h⟩ := bind_eq_ok.1 h
      rw [ensure_eq_ok] at hclient
      by_cases hzero : row.statusCode = ['0']
      · simp only [pure_bind, hzero, if_true, bind_eq_ok, ensure_eq_ok, pure_eq_ok] at h
        obtain ⟨_, hid, rfl⟩ := h
        exact ⟨rfl, hclient, hstatus, hid⟩
      · simp only [pure_bind, hzero, if_false, pure_eq_ok] at h
        subst h
        exact absurd hstatus hzero
  · rintro ⟨rfl, hclient, hstatus, hid⟩
    refine ⟨⟨acknowledgement, rfl, ?_⟩, hstatus⟩
    rw [if_neg (by simp [hstatus])]
    simp only [pure_bind, hstatus, if_true, bind_eq_ok, ensure_eq_ok]
    exact ⟨(), hclient, (), hid, rfl⟩

theorem singleAlgoAck_eq_ok {acknowledgements : List OkxAlgoAckRow}
    {acknowledgement : OkxAlgoAckRow} {clientOrderId : Text} {context : Message} :
    singleAlgoAckByClientOrderId acknowledgements clientOrderId context = .ok acknowledgement ↔
      acknowledgements = [acknowledgement] ∧
        (Text.isBlank acknowledgement.clientOrderId = true ∨
          acknowledgement.clientOrderId = clientOrderId) ∧
        (acknowledgement.statusCode = ['0'] → acknowledgement.Accepts clientOrderId) := by
  simp only [singleAlgoAckByClientOrderId, bind_eq_ok, single_eq_ok, ensure_eq_ok]
  constructor
  · rintro ⟨row, rfl, _, hclient, h⟩
    split at h
    · rename_i hzero
      simp only [bind_eq_ok, ensure_eq_ok, pure_eq_ok] at h
      obtain ⟨_, hid, _, hexact, rfl⟩ := h
      exact ⟨rfl, hclient, fun _ => ⟨hexact, hzero, hid⟩⟩
    · rename_i hnonzero
      cases h
      exact ⟨rfl, hclient, fun hzero => absurd hzero hnonzero⟩
  · rintro ⟨rfl, hclient, haccepts⟩
    refine ⟨acknowledgement, rfl, (), hclient, ?_⟩
    split
    · rename_i hzero
      obtain ⟨hexact, -, hid⟩ := haccepts hzero
      simp only [bind_eq_ok, ensure_eq_ok]
      exact ⟨(), hid, (), hexact, rfl⟩
    · rfl

/-! ## Lookups -/

/-- The lookup of a regular order shows this one. -/
def OrderLookupShows (order : OkxOrderRow) : (q : ClientRequest) → q.Reply → Prop
  | .inr (.order _ _), reply => reply = .ok [order]
  | _, _ => True

/-- The lookup of an algo order shows this one. -/
def AlgoLookupShows (order : OkxAlgoOrderRow) : (q : ClientRequest) → q.Reply → Prop
  | .inr (.orderAlgoByClientOrderId _), reply => reply = .ok [order]
  | _, _ => True

/-- The request is the lookup of the submitted order. -/
def IsOrderLookup (requested : OkxOrderSubmitReconciliation) (q : ClientRequest) : Prop :=
  q = .inr (.order requested.instId requested.clientOrderId)

/-- The request is the lookup of the submitted algo order. -/
def IsAlgoLookup (requested : AlgoSubmission) (q : ClientRequest) : Prop :=
  q = .inr (.orderAlgoByClientOrderId requested.clientOrderId)

theorem reconcileOrderSubmit_finds {requested : OkxOrderSubmitReconciliation} {held : OkxOrderRow}
    (h : HoldsOrder requested held) (err : OkxError) :
    (reconcileOrderSubmitFailure requested err).Upholds (OrderLookupShows held)
      (IsOrderLookup requested) fun r => r = .ok (reconciledOrderAck held) := by
  obtain ⟨hlookup, hverify⟩ := holdsOrder_iff.1 h
  have hfound : (order requested.instId requested.clientOrderId).Upholds (OrderLookupShows held)
      (IsOrderLookup requested) fun r => r = .ok (some held) := by
    refine ⟨rfl, fun answer hanswer => ?_⟩
    cases hanswer
    show Task.Upholds _ _ _ (failing (checkOrderLookup _ _ held) >>= fun _ => pure (some held))
    rw [hlookup]
    rfl
  refine .bind hfound.attempt ?_ ?_
  · rintro _ ⟨outcome, ⟨⟩, rfl⟩
    simp only [hverify]
    rfl
  · rintro e ⟨outcome, ⟨⟩, -⟩

theorem reconcileAlgoSubmit_finds {requested : AlgoSubmission} {held : OkxAlgoOrderRow}
    (h : HoldsAlgoOrder requested held) (err : OkxError) :
    (reconcileAlgoSubmitFailure requested.instId requested.side requested.size
      requested.triggerPrice requested.clientOrderId err).Upholds (AlgoLookupShows held)
      (IsAlgoLookup requested) fun r => r = .ok (reconciledAlgoAck held) := by
  obtain ⟨hmatches, hid, hverify⟩ := holdsAlgoOrder_iff.1 h
  have hfound : (algoOrderByClientOrderId requested.instId requested.clientOrderId).Upholds
      (AlgoLookupShows held) (IsAlgoLookup requested) fun r => r = .ok (some held) := by
    refine ⟨rfl, fun answer hanswer => ?_⟩
    cases hanswer
    have hid : ensure (held.clientOrderId = requested.clientOrderId)
      "OKX returned algo with another algoClOrdId" = .ok () := ensure_eq_ok.2 hid
    show Task.Upholds _ _ _ (failing (ensureAlgoOrderMatchesInstrument _ _ held) >>= fun _ =>
      failing (ensure (held.clientOrderId = requested.clientOrderId) _) >>= fun _ =>
        pure (some held))
    rw [hmatches, hid]
    rfl
  refine .bind hfound.attempt ?_ ?_
  · rintro _ ⟨outcome, ⟨⟩, rfl⟩
    simp only [hverify]
    rfl
  · rintro e ⟨outcome, ⟨⟩, -⟩

/-- An acknowledgement that accepts the submitted order names the order that is held. -/
def NamesHeldOrder (requested : OkxOrderSubmitReconciliation)
    (response : Except OkxError (List OkxOrderAck)) (held : OkxOrderRow) : Prop :=
  ∀ acknowledgement, response = .ok [acknowledgement] →
    acknowledgement.Accepts requested.clientOrderId → acknowledgement.orderId = held.orderId

/-- The response is an error, an acknowledgement that names the order that is held, or a rejection
for a client id that is already in use. -/
def SettlesAlgo (requested : AlgoSubmission) (response : Except OkxError (List OkxAlgoAckRow))
    (held : OkxAlgoOrderRow) : Prop :=
  (∃ err, response = .error err) ∨
    ∃ acknowledgement, response = .ok [acknowledgement] ∧
      (acknowledgement.Accepts requested.clientOrderId ∧ acknowledgement.algoId = held.algoId ∨
        acknowledgement.RejectsDuplicate requested.clientOrderId)

theorem settleOrderSubmit_iff {requested : OkxOrderSubmitReconciliation} {held : OkxOrderRow}
    (h : HoldsOrder requested held) (response : Except OkxError (List OkxOrderAck)) :
    (settleOrderSubmit requested response).Upholds (OrderLookupShows held)
        (IsOrderLookup requested)
        (fun r => ∃ acknowledgement, r = .ok acknowledgement ∧
          acknowledgement.orderId = held.orderId) ↔
      NamesHeldOrder requested response held := by
  have hfinds : ∀ err, (reconcileOrderSubmitFailure requested err).Upholds (OrderLookupShows held)
      (IsOrderLookup requested) fun r => ∃ acknowledgement, r = .ok acknowledgement ∧
        acknowledgement.orderId = held.orderId := fun err =>
    (reconcileOrderSubmit_finds h err).mono (fun _ _ hcan => hcan) (fun _ hA => hA)
      fun r hr => ⟨_, hr, rfl⟩
  cases response with
  | error err => exact ⟨fun _ _ hresponse => (nomatch hresponse), fun _ => hfinds err⟩
  | ok acknowledgements =>
      cases hack : singleOrderAck acknowledgements requested.clientOrderId "order" with
      | error err =>
          simp only [settleOrderSubmit, hack]
          refine ⟨fun _ acknowledgement hresponse haccepts => ?_, fun _ => hfinds _⟩
          cases hresponse
          have hok : singleOrderAck [acknowledgement] requested.clientOrderId "order" =
            .ok acknowledgement := (singleOrderAck_accepted.2 ⟨rfl, haccepts⟩).1
          rw [hok] at hack
          cases hack
      | ok acknowledgement =>
          simp only [settleOrderSubmit, hack]
          split
          · rename_i hzero
            obtain ⟨rfl, haccepts⟩ := singleOrderAck_accepted.1 ⟨hack, hzero⟩
            constructor
            · rintro ⟨_, ⟨⟩, hid⟩ _ ⟨⟩ -
              exact hid
            · intro hnames
              exact ⟨_, rfl, hnames _ rfl haccepts⟩
          · rename_i hnonzero
            refine ⟨fun _ accepted hresponse haccepts => ?_, fun _ => hfinds _⟩
            cases hresponse
            have hok : singleOrderAck [accepted] requested.clientOrderId "order" = .ok accepted :=
              (singleOrderAck_accepted.2 ⟨rfl, haccepts⟩).1
            rw [hok] at hack
            cases hack
            exact absurd haccepts.2.1 hnonzero

theorem settleAlgoSubmit_iff {requested : AlgoSubmission} {held : OkxAlgoOrderRow}
    (h : HoldsAlgoOrder requested held) (response : Except OkxError (List OkxAlgoAckRow)) :
    (settleAlgoSubmit requested response).Upholds (AlgoLookupShows held) (IsAlgoLookup requested)
        (fun r => ∃ acknowledgement, r = .ok acknowledgement ∧
          acknowledgement.algoId = held.algoId) ↔
      SettlesAlgo requested response held := by
  have hfinds : ∀ err, (reconcileAlgoSubmitFailure requested.instId requested.side requested.size
      requested.triggerPrice requested.clientOrderId err).Upholds (AlgoLookupShows held)
      (IsAlgoLookup requested) fun r => ∃ acknowledgement, r = .ok acknowledgement ∧
        acknowledgement.algoId = held.algoId := fun err =>
    (reconcileAlgoSubmit_finds h err).mono (fun _ _ hcan => hcan) (fun _ hA => hA)
      fun r hr => ⟨_, hr, rfl⟩
  cases response with
  | error err => exact ⟨fun _ => .inl ⟨err, rfl⟩, fun _ => hfinds err⟩
  | ok acknowledgements =>
      cases hack : singleAlgoAckByClientOrderId acknowledgements requested.clientOrderId
        "algo order" with
      | error err =>
          simp only [settleAlgoSubmit, hack]
          constructor
          · rintro ⟨_, ⟨⟩, -⟩
          · rintro (⟨_, ⟨⟩⟩ | ⟨acknowledgement, ⟨⟩, hsettles⟩)
            have hclient : Text.isBlank acknowledgement.clientOrderId = true ∨
                acknowledgement.clientOrderId = requested.clientOrderId :=
              hsettles.elim (fun haccepts => .inr haccepts.1.1) fun hrejects => hrejects.1
            have haccepts : acknowledgement.statusCode = ['0'] →
                acknowledgement.Accepts requested.clientOrderId := by
              intro hzero
              rcases hsettles with ⟨haccepts, -⟩ | ⟨-, hduplicate⟩
              · exact haccepts
              · rw [hduplicate] at hzero
                cases hzero
            have hok : singleAlgoAckByClientOrderId [acknowledgement] requested.clientOrderId
                "algo order" = .ok acknowledgement :=
              singleAlgoAck_eq_ok.2 ⟨rfl, hclient, haccepts⟩
            rw [hok] at hack
            cases hack
      | ok acknowledgement =>
          obtain ⟨rfl, hclient, haccepts⟩ := singleAlgoAck_eq_ok.1 hack
          simp only [settleAlgoSubmit, hack]
          show Task.Upholds _ _ _ (if acknowledgement.statusCode = ['0'] then _ else _) ↔ _
          split
          · rename_i hzero
            constructor
            · rintro ⟨_, ⟨⟩, hid⟩
              exact .inr ⟨_, rfl, .inl ⟨haccepts hzero, hid⟩⟩
            · rintro (⟨_, ⟨⟩⟩ | ⟨_, ⟨⟩, ⟨-, hid⟩ | hrejects⟩)
              · exact ⟨_, rfl, hid⟩
              · rw [hrejects.2] at hzero
                cases hzero
          · rename_i hnonzero
            split
            · rename_i hduplicate
              exact ⟨fun _ => .inr ⟨_, rfl, .inr ⟨hclient, hduplicate⟩⟩, fun _ => hfinds _⟩
            · rename_i hother
              constructor
              · rintro ⟨_, ⟨⟩, -⟩
              · rintro (⟨_, ⟨⟩⟩ | ⟨_, ⟨⟩, ⟨haccepted, -⟩ | hrejects⟩)
                · exact absurd haccepted.2.1 hnonzero
                · exact absurd hrejects.2 hother

/-! ## Confirmations -/

/-- The answer confirms the submitted order: an acknowledgement with its client id and status 0, or
a lookup that shows it. -/
def ConfirmsOrder (requested : OkxOrderSubmitReconciliation) : (q : ClientRequest) → q.Reply → Prop
  | .inr (.placeOrder _), reply => ∃ acknowledgement, reply = .ok [acknowledgement] ∧
      acknowledgement.clientOrderId = requested.clientOrderId ∧ acknowledgement.statusCode = ['0']
  | .inr (.order _ _), reply => ∃ order, reply = .ok [order] ∧ HoldsOrder requested order
  | _, _ => False

/-- The answer confirms the trigger order that was asked for. -/
def ConfirmsAlgoOrder (requested : AlgoSubmission) : (q : ClientRequest) → q.Reply → Prop
  | .inr (.orderAlgo _), reply => ∃ acknowledgement, reply = .ok [acknowledgement] ∧
      acknowledgement.clientOrderId = requested.clientOrderId ∧ acknowledgement.statusCode = ['0']
  | .inr (.orderAlgoByClientOrderId _), reply =>
      ∃ order, reply = .ok [order] ∧ HoldsAlgoOrder requested order
  | _, _ => False

/-- The task fails where no answer confirms the order. -/
abbrev FailsUnconfirmed {α : Type} (confirms : (q : ClientRequest) → q.Reply → Prop)
    (task : ClientTask α) : Prop :=
  task.Upholds (fun q reply => ¬ confirms q reply) (fun _ => True) fun r => ∃ e, r = .error e

section Unconfirmed

variable {α β : Type} {confirms : (q : ClientRequest) → q.Reply → Prop}

theorem FailsUnconfirmed.after {x : ClientTask α} {f : α → ClientTask β}
    (hf : ∀ a, FailsUnconfirmed confirms (f a)) : FailsUnconfirmed confirms (x >>= f) :=
  Task.Upholds.bind (Task.upholds_trivial x) (fun a _ => hf a) fun e _ => ⟨e, rfl⟩

theorem FailsUnconfirmed.bind {x : ClientTask α} {f : α → ClientTask β}
    {P : Except OkxError α → Prop}
    (hx : x.Upholds (fun q reply => ¬ confirms q reply) (fun _ => True) P)
    (hf : ∀ a, P (.ok a) → FailsUnconfirmed confirms (f a)) : FailsUnconfirmed confirms (x >>= f) :=
  Task.Upholds.bind hx hf fun e _ => ⟨e, rfl⟩

end Unconfirmed

theorem order_unconfirmed (requested : OkxOrderSubmitReconciliation) :
    (order requested.instId requested.clientOrderId).Upholds
      (fun q reply => ¬ ConfirmsOrder requested q reply) (fun _ => True) fun r =>
        ∀ found, r = .ok (some found) → verifyReconciledOrderSubmit requested found ≠ .ok () := by
  refine .bind (P := fun r => ∀ rows, r = .ok (.ok rows) → ∀ found, rows = [found] →
    ¬ HoldsOrder requested found) ⟨trivial, ?_⟩ ?_ (fun _ _ _ h => nomatch h)
  · rintro answer hcan rows ⟨⟩ found rfl hholds
    exact hcan ⟨found, rfl, hholds⟩
  · intro reply hreply
    split
    · split
      · rintro found ⟨⟩
      · rintro found ⟨⟩
    · rintro found ⟨⟩
    · rename_i row
      cases hlookup : checkOrderLookup requested.instId requested.clientOrderId row with
      | error e => rintro found ⟨⟩
      | ok _ =>
          rintro found ⟨⟩ hverify
          exact hreply _ rfl row rfl (holdsOrder_iff.2 ⟨hlookup, hverify⟩)
    · rintro found ⟨⟩

theorem reconcileOrderSubmit_unconfirmed (requested : OkxOrderSubmitReconciliation)
    (err : OkxError) :
    FailsUnconfirmed (ConfirmsOrder requested) (reconcileOrderSubmitFailure requested err) := by
  refine .bind (order_unconfirmed requested).attempt ?_
  rintro _ ⟨outcome, ⟨⟩, hfound⟩
  split
  · rename_i found
    split
    · rename_i hverify
      exact absurd hverify (hfound found rfl)
    · exact ⟨_, rfl⟩
  · exact ⟨_, rfl⟩
  · exact ⟨_, rfl⟩

theorem algoLookup_unconfirmed (requested : AlgoSubmission) :
    (algoOrderByClientOrderId requested.instId requested.clientOrderId).Upholds
      (fun q reply => ¬ ConfirmsAlgoOrder requested q reply) (fun _ => True) fun r =>
        ∀ found, r = .ok (some found) → verifyReconciledAlgoSubmit requested.side requested.size
          requested.triggerPrice found ≠ .ok () := by
  refine .bind (P := fun r => ∀ rows, r = .ok rows → ∀ found, rows = [found] →
    ¬ HoldsAlgoOrder requested found) ⟨trivial, ?_⟩ ?_ (fun _ _ _ h => nomatch h)
  · rintro answer hcan rows hrows found rfl hholds
    subst hrows
    exact hcan ⟨found, rfl, hholds⟩
  · intro rows hrows
    split
    · rintro found ⟨⟩
    · rename_i row
      cases hmatches :
          ensureAlgoOrderMatchesInstrument requested.instId "algo order lookup" row with
      | error e => rintro found ⟨⟩
      | ok _ =>
          have hclient : (failing (ensure (row.clientOrderId = requested.clientOrderId)
                "OKX returned algo with another algoClOrdId") >>= fun _ =>
                  (pure (some row) : ClientTask _)).Upholds
              (fun q reply => ¬ ConfirmsAlgoOrder requested q reply) (fun _ => True) fun r =>
                ∀ found, r = .ok (some found) → verifyReconciledAlgoSubmit requested.side
                  requested.size requested.triggerPrice found ≠ .ok () := by
            cases hid : ensure (row.clientOrderId = requested.clientOrderId)
              "OKX returned algo with another algoClOrdId" with
            | error e => rintro found ⟨⟩
            | ok _ =>
                rintro found ⟨⟩ hverify
                exact hrows _ rfl row rfl
                  (holdsAlgoOrder_iff.2 ⟨hmatches, ensure_eq_ok.1 hid, hverify⟩)
          exact hclient
    · rintro found ⟨⟩

theorem reconcileAlgoSubmit_unconfirmed (requested : AlgoSubmission) (err : OkxError) :
    FailsUnconfirmed (ConfirmsAlgoOrder requested)
      (reconcileAlgoSubmitFailure requested.instId requested.side requested.size
        requested.triggerPrice requested.clientOrderId err) := by
  refine .bind (algoLookup_unconfirmed requested).attempt ?_
  rintro _ ⟨outcome, ⟨⟩, hfound⟩
  split
  · rename_i found
    split
    · rename_i hverify
      exact absurd hverify (hfound found rfl)
    · exact ⟨_, rfl⟩
  · exact ⟨_, rfl⟩
  · exact ⟨_, rfl⟩

theorem settleOrderSubmit_unconfirmed {requested : OkxOrderSubmitReconciliation}
    {response : Except OkxError (List OkxOrderAck)}
    (h : ∀ acknowledgement, response = .ok [acknowledgement] →
      ¬ acknowledgement.Accepts requested.clientOrderId) :
    FailsUnconfirmed (ConfirmsOrder requested) (settleOrderSubmit requested response) := by
  unfold settleOrderSubmit
  split
  · exact reconcileOrderSubmit_unconfirmed requested _
  · split
    · exact reconcileOrderSubmit_unconfirmed requested _
    · rename_i hack
      split
      · rename_i hzero
        obtain ⟨rfl, haccepts⟩ := singleOrderAck_accepted.1 ⟨hack, hzero⟩
        exact absurd haccepts (h _ rfl)
      · exact reconcileOrderSubmit_unconfirmed requested _

theorem settleAlgoSubmit_unconfirmed {requested : AlgoSubmission}
    {response : Except OkxError (List OkxAlgoAckRow)}
    (h : ∀ acknowledgement, response = .ok [acknowledgement] →
      ¬ acknowledgement.Accepts requested.clientOrderId) :
    FailsUnconfirmed (ConfirmsAlgoOrder requested) (settleAlgoSubmit requested response) := by
  cases response with
  | error err => exact reconcileAlgoSubmit_unconfirmed requested err
  | ok acknowledgements =>
      cases hack : singleAlgoAckByClientOrderId acknowledgements requested.clientOrderId
        "algo order" with
      | error err =>
          simp only [settleAlgoSubmit, hack]
          exact ⟨_, rfl⟩
      | ok acknowledgement =>
          obtain ⟨rfl, -, haccepts⟩ := singleAlgoAck_eq_ok.1 hack
          simp only [settleAlgoSubmit, hack]
          show FailsUnconfirmed _ (if acknowledgement.statusCode = ['0'] then _ else _)
          split
          · rename_i hzero
            exact absurd (haccepts hzero) (h _ rfl)
          · split
            · exact reconcileAlgoSubmit_unconfirmed requested _
            · exact ⟨_, rfl⟩

/-! ## Whole calls -/

/-- The call of `place_order`. -/
def OkxOrderSubmitReconciliation.place (requested : OkxOrderSubmitReconciliation) :
    ClientTask OkxOrderAck :=
  placeOrder requested.instId requested.side requested.kind requested.size requested.price
    requested.clientOrderId

/-- The call of `place_trigger_order`. -/
def AlgoSubmission.place (requested : AlgoSubmission) : ClientTask OkxAlgoAckRow :=
  placeTriggerOrder requested.instId requested.side requested.size requested.triggerPrice
    requested.clientOrderId

/-- The body of the submission, for the route that was looked up. -/
def OkxOrderSubmitReconciliation.body (requested : OkxOrderSubmitReconciliation)
    (route : Text × Text) : PlaceOrderRequest :=
  { instId := requested.instId, tdMode := route.1, side := requested.side
    orderType := requested.kind, sz := requested.size, price := requested.price
    targetCurrency := spotMarketTargetCurrency requested.side requested.kind
    tradeQuoteCurrency := route.2, clientOrderId := requested.clientOrderId }

theorem place_eq (requested : OkxOrderSubmitReconciliation) :
    requested.place = perform (.validatedOrderRoute requested.instId) >>= fun route =>
      submitOrder (requested.body route) >>= settleOrderSubmit requested := by
  refine congrArg (_ >>= ·) (funext fun route => congrArg (_ >>= ·) (funext fun submitted => ?_))
  cases submitted <;> rfl

theorem placeTrigger_eq (requested : AlgoSubmission) :
    requested.place = perform (.validatedOrderRoute requested.instId) >>= fun route =>
      perform (.ensureFreshInstrumentHintMatchesSnapshot requested.instId) >>= fun _ =>
        (request (.orderAlgo
          { instId := requested.instId, tdMode := route.1, side := requested.side
            sz := requested.size, triggerPrice := requested.triggerPrice
            tradeQuoteCurrency := route.2
            clientOrderId := requested.clientOrderId })).attempt >>=
        settleAlgoSubmit requested := by
  refine congrArg (_ >>= ·) (funext fun route => congrArg (_ >>= ·) (funext fun _ =>
    congrArg (_ >>= ·) (funext fun submitted => ?_)))
  cases submitted <;> rfl

/-- The submission ended without an acknowledgement that accepts the order. -/
def OrderUnaccepted (clientOrderId : Text)
    (r : Except OkxError (Except OkxError (List OkxOrderAck))) : Prop :=
  ∀ acknowledgement, r = .ok (.ok [acknowledgement]) → ¬ acknowledgement.Accepts clientOrderId

theorem submitOrder_unconfirmed (requested : OkxOrderSubmitReconciliation) (route : Text × Text) :
    (submitOrder (requested.body route)).Upholds
      (fun q reply => ¬ ConfirmsOrder requested q reply) (fun _ => True)
      (OrderUnaccepted requested.clientOrderId) := by
  have hsubmit : ((request (.placeOrder (requested.body route))).attempt).Upholds
      (fun q reply => ¬ ConfirmsOrder requested q reply) (fun _ => True)
      (OrderUnaccepted requested.clientOrderId) := by
    refine ⟨trivial, ?_⟩
    rintro response hcan acknowledgement ⟨⟩ haccepts
    exact hcan ⟨acknowledgement, rfl, haccepts.1, haccepts.2.1⟩
  have hafter : ∀ {α : Type} (x : ClientTask α)
      {f : α → ClientTask (Except OkxError (List OkxOrderAck))},
      (∀ a, (f a).Upholds (fun q reply => ¬ ConfirmsOrder requested q reply) (fun _ => True)
        (OrderUnaccepted requested.clientOrderId)) →
      (x >>= f).Upholds (fun q reply => ¬ ConfirmsOrder requested q reply) (fun _ => True)
        (OrderUnaccepted requested.clientOrderId) :=
    fun x _ hf => .bind (Task.upholds_trivial x) (fun a _ => hf a) fun _ _ _ h => nomatch h
  unfold submitOrder
  split
  · exact hafter _ fun _ => hsubmit
  · split
    · exact hafter _ fun _ => hafter _ fun _ => hafter _ fun _ => hsubmit
    · rintro response ⟨⟩

theorem place_unconfirmed (requested : OkxOrderSubmitReconciliation) :
    FailsUnconfirmed (ConfirmsOrder requested) requested.place := by
  rw [place_eq]
  refine .after fun route => .bind (submitOrder_unconfirmed requested route) ?_
  intro response hresponse
  refine settleOrderSubmit_unconfirmed fun acknowledgement hack => ?_
  exact hresponse acknowledgement (congrArg Except.ok hack)

theorem placeTrigger_unconfirmed (requested : AlgoSubmission) :
    FailsUnconfirmed (ConfirmsAlgoOrder requested) requested.place := by
  rw [placeTrigger_eq]
  refine .after fun route => .after fun _ => ⟨trivial, ?_⟩
  intro response hcan
  refine settleAlgoSubmit_unconfirmed fun acknowledgement hack haccepts => ?_
  exact hcan ⟨acknowledgement, hack, haccepts.1, haccepts.2.1⟩

/-! ## What is left at the submission -/

/-- Whatever is answered. -/
abbrev anyAnswer : (q : ClientRequest) → q.Reply → Prop := fun _ _ => True

/-- The request submits nothing. -/
def SubmitsNothing : ClientRequest → Prop
  | .inr (.placeOrder _) => False
  | .inr (.orderAlgo _) => False
  | _ => True

section SubmitsNone

variable {α β : Type}

/-- The task submits nothing. -/
abbrev SubmitsNone (task : ClientTask α) : Prop :=
  task.Upholds anyAnswer SubmitsNothing fun _ => True

theorem SubmitsNone.bind {x : ClientTask α} {f : α → ClientTask β} (hx : SubmitsNone x)
    (hf : ∀ a, SubmitsNone (f a)) : SubmitsNone (x >>= f) :=
  Task.Upholds.bind hx (fun a _ => hf a) fun _ _ => trivial

theorem SubmitsNone.attempt {x : ClientTask α} (hx : SubmitsNone x) : SubmitsNone x.attempt :=
  (Task.Upholds.attempt hx).mono (fun _ _ h => h) (fun _ h => h) fun _ _ => trivial

theorem submitsNone_perform (op : ClientOp) : SubmitsNone (perform op) :=
  perform_upholds trivial fun _ _ => trivial

theorem submitsNone_failing (x : Result α) : SubmitsNone (failing x) := .ofExcept trivial

theorem submitsNone_request (query : RestRequest) (h : SubmitsNothing (.inr query)) :
    SubmitsNone (request query) :=
  request_upholds h fun _ => trivial

theorem submitsNone_order (instId clientOrderId : Text) :
    SubmitsNone (order instId clientOrderId) := by
  refine .bind (submitsNone_request (.order _ _) trivial).attempt fun reply => ?_
  split
  · split <;> trivial
  · trivial
  · exact .bind (submitsNone_failing _) fun _ => trivial
  · trivial

theorem submitsNone_reconcileOrder (requested : OkxOrderSubmitReconciliation) (err : OkxError) :
    SubmitsNone (reconcileOrderSubmitFailure requested err) := by
  refine .bind (submitsNone_order _ _).attempt fun reply => ?_
  split
  · split <;> trivial
  · trivial
  · trivial

theorem submitsNone_reconcileAlgo (requested : AlgoSubmission) (err : OkxError) :
    SubmitsNone (reconcileAlgoSubmitFailure requested.instId requested.side requested.size
      requested.triggerPrice requested.clientOrderId err) := by
  have hlookup : SubmitsNone
      (algoOrderByClientOrderId requested.instId requested.clientOrderId) := by
    refine .bind (submitsNone_request (.orderAlgoByClientOrderId _) trivial) fun rows => ?_
    split
    · trivial
    · exact .bind (submitsNone_failing _) fun _ => .bind (submitsNone_failing _) fun _ => trivial
    · trivial
  refine .bind hlookup.attempt fun reply => ?_
  split
  · split <;> trivial
  · trivial
  · trivial

theorem submitsNone_settleOrder (requested : OkxOrderSubmitReconciliation)
    (response : Except OkxError (List OkxOrderAck)) :
    SubmitsNone (settleOrderSubmit requested response) := by
  unfold settleOrderSubmit
  split
  · exact submitsNone_reconcileOrder _ _
  · split
    · exact submitsNone_reconcileOrder _ _
    · split
      · trivial
      · exact submitsNone_reconcileOrder _ _

theorem submitsNone_settleAlgo (requested : AlgoSubmission)
    (response : Except OkxError (List OkxAlgoAckRow)) :
    SubmitsNone (settleAlgoSubmit requested response) := by
  unfold settleAlgoSubmit
  split
  · exact submitsNone_reconcileAlgo _ _
  · refine .bind (submitsNone_failing _) fun acknowledgement => ?_
    split
    · trivial
    · split
      · exact submitsNone_reconcileAlgo _ _
      · trivial

theorem submitsNone_price (instId : Text) (side : OrderSide) (price : DecimalText)
    (context : Message) : SubmitsNone (ensureFreshSpotOrderPrice instId side price context) := by
  have hlimit : SubmitsNone (freshSpotPriceLimit instId) := by
    refine .bind (submitsNone_perform _) fun _ => .bind (submitsNone_perform _) fun _ =>
      .bind (submitsNone_request .refreshServerTimeIfExpiring trivial) fun _ =>
      .bind (submitsNone_request (.priceLimit _) trivial) fun _ =>
      .bind (submitsNone_failing _) fun _ =>
      .bind (submitsNone_request .serverTimeMs trivial) fun reply => ?_
    split
    · exact .bind (submitsNone_perform _) fun _ => submitsNone_failing _
    · trivial
  exact .bind (submitsNone_failing _) fun _ => .bind hlimit fun _ => submitsNone_failing _

end SubmitsNone

/-- What is left of the call where it submits the order goes on with `settle`. -/
def SettlesWith (settle : Except OkxError (List OkxOrderAck) → ClientTask OkxOrderAck)
    (rest : ClientTask OkxOrderAck) : Prop :=
  ∀ body next, rest = .await (.inr (.placeOrder body)) next → next = settle

/-- A task that sends a trigger order settles it in one way. -/
def AlgoSettlesWith (settle : Except OkxError (List OkxAlgoAckRow) → ClientTask OkxAlgoAckRow)
    (rest : ClientTask OkxAlgoAckRow) : Prop :=
  ∀ body next, rest = .await (.inr (.orderAlgo body)) next → next = settle

section Always

variable {α β : Type} {S : ClientTask β → Prop}

/-- A part of a call that submits nothing leaves a property of its submissions to the rest. -/
theorem always_after {x : ClientTask α} {f : α → ClientTask β} (hx : SubmitsNone x)
    (hawait : ∀ q next, SubmitsNothing q → S (.await q next)) (hdone : ∀ r, S (.done r))
    (hf : ∀ a, (f a).Always anyAnswer S) : (x >>= f).Always anyAnswer S :=
  .bind hx (fun q _ hq _ => hawait q _ hq) (fun a _ => hf a) fun _ _ => hdone _

theorem always_of_submitsNone {x : ClientTask β} (hx : SubmitsNone x)
    (hawait : ∀ q next, SubmitsNothing q → S (.await q next)) (hdone : ∀ r, S (.done r)) :
    x.Always anyAnswer S :=
  .of_upholds hx hawait fun r _ => hdone r

end Always

theorem settlesWith_await {settle : Except OkxError (List OkxOrderAck) → ClientTask OkxOrderAck}
    (q : ClientRequest) (next : q.Reply → ClientTask OkxOrderAck) (hq : SubmitsNothing q) :
    SettlesWith settle (.await q next) := by
  rintro body _ ⟨⟩
  exact hq.elim

theorem settlesWith_done {settle : Except OkxError (List OkxOrderAck) → ClientTask OkxOrderAck}
    (r : Except OkxError OkxOrderAck) : SettlesWith settle (.done r) := by
  rintro body next ⟨⟩

theorem algoSettlesWith_await
    {settle : Except OkxError (List OkxAlgoAckRow) → ClientTask OkxAlgoAckRow}
    (q : ClientRequest) (next : q.Reply → ClientTask OkxAlgoAckRow) (hq : SubmitsNothing q) :
    AlgoSettlesWith settle (.await q next) := by
  rintro body _ ⟨⟩
  exact hq.elim

theorem algoSettlesWith_done
    {settle : Except OkxError (List OkxAlgoAckRow) → ClientTask OkxAlgoAckRow}
    (r : Except OkxError OkxAlgoAckRow) : AlgoSettlesWith settle (.done r) := by
  rintro body next ⟨⟩

theorem place_settles (requested : OkxOrderSubmitReconciliation) :
    requested.place.Always anyAnswer (SettlesWith (settleOrderSubmit requested)) := by
  have hsubmit : ∀ route, ((request (.placeOrder (requested.body route))).attempt >>=
      settleOrderSubmit requested).Always anyAnswer
        (SettlesWith (settleOrderSubmit requested)) := by
    intro route
    refine ⟨?_, fun response _ => always_of_submitsNone
      (submitsNone_settleOrder requested response) settlesWith_await settlesWith_done⟩
    rintro body next ⟨⟩
    rfl
  rw [place_eq]
  refine always_after (submitsNone_perform _) settlesWith_await settlesWith_done fun route => ?_
  unfold submitOrder
  split
  · rw [Task.bind_assoc]
    exact always_after (submitsNone_perform _) settlesWith_await settlesWith_done fun _ =>
      hsubmit route
  · split
    · simp only [Task.bind_assoc]
      exact always_after (submitsNone_request (.reserve _ _) trivial) settlesWith_await
        settlesWith_done fun _ =>
        always_after (submitsNone_perform _) settlesWith_await settlesWith_done fun _ =>
        always_after (submitsNone_price _ _ _ _) settlesWith_await settlesWith_done fun _ =>
          hsubmit route
    · exact settlesWith_done _

theorem placeTrigger_settles (requested : AlgoSubmission) :
    requested.place.Always anyAnswer (AlgoSettlesWith (settleAlgoSubmit requested)) := by
  rw [placeTrigger_eq]
  refine always_after (submitsNone_perform _) algoSettlesWith_await algoSettlesWith_done
    fun route =>
    always_after (submitsNone_perform _) algoSettlesWith_await algoSettlesWith_done fun _ =>
    ⟨?_, fun response _ => always_of_submitsNone (submitsNone_settleAlgo requested response)
      algoSettlesWith_await algoSettlesWith_done⟩
  rintro body next ⟨⟩
  rfl

/-- What `place_order` does with every response to its submission, and what it never does without a
confirmation. -/
structure PlaceSettled (requested : OkxOrderSubmitReconciliation) : Prop where
  settles : requested.place.Always anyAnswer fun rest => ∀ body next,
    rest = .await (.inr (.placeOrder body)) next → ∀ response held, HoldsOrder requested held →
      ((next response).Upholds (OrderLookupShows held) (IsOrderLookup requested)
        (fun r => ∃ acknowledgement, r = .ok acknowledgement ∧
          acknowledgement.orderId = held.orderId) ↔ NamesHeldOrder requested response held)
  unconfirmed : FailsUnconfirmed (ConfirmsOrder requested) requested.place

/-- The same for `place_trigger_order`. -/
structure TriggerSettled (requested : AlgoSubmission) : Prop where
  settles : requested.place.Always anyAnswer fun rest => ∀ body next,
    rest = .await (.inr (.orderAlgo body)) next → ∀ response held, HoldsAlgoOrder requested held →
      ((next response).Upholds (AlgoLookupShows held) (IsAlgoLookup requested)
        (fun r => ∃ acknowledgement, r = .ok acknowledgement ∧
          acknowledgement.algoId = held.algoId) ↔ SettlesAlgo requested response held)
  unconfirmed : FailsUnconfirmed (ConfirmsAlgoOrder requested) requested.place

/-- **The responses after which a submission ends with the order that is held.** -/
theorem submissions_settled (requested : OkxOrderSubmitReconciliation) (trigger : AlgoSubmission) :
    PlaceSettled requested ∧ TriggerSettled trigger := by
  refine ⟨⟨?_, place_unconfirmed requested⟩, ⟨?_, placeTrigger_unconfirmed trigger⟩⟩
  · refine (place_settles requested).mono fun rest hrest => ?_
    intro body next hnext response held hheld
    rw [hrest body next hnext]
    exact settleOrderSubmit_iff hheld response
  · refine (placeTrigger_settles trigger).mono fun rest hrest => ?_
    intro body next hnext response held hheld
    rw [hrest body next hnext]
    exact settleAlgoSubmit_iff hheld response

/-- A trigger submission that ends with the order that is held, whatever it is answered. -/
def NeverLost (requested : AlgoSubmission) : Prop :=
  requested.place.Always anyAnswer fun rest => ∀ body next,
    rest = .await (.inr (.orderAlgo body)) next → ∀ response held, HoldsAlgoOrder requested held →
      (next response).Upholds (AlgoLookupShows held) (fun _ => True) fun r =>
        ∃ acknowledgement, r = .ok acknowledgement ∧ acknowledgement.algoId = held.algoId

def stopSubmission : AlgoSubmission :=
  ⟨"BTC-USDT".toList, .sell, .value 2, .value 90, "stop1".toList⟩

def heldStop : OkxAlgoOrderRow :=
  { algoId := ['7'], clientOrderId := "stop1".toList, side := some .sell
    orderType := "trigger".toList, triggerPx := .value 90, orderPrice := "-1".toList
    state := .live, sz := .value 2, instId := "BTC-USDT".toList, instType := spotText }

theorem heldStop_held : HoldsAlgoOrder stopSubmission heldStop :=
  ⟨rfl, rfl, rfl, rfl, rfl, rfl, ⟨2, by decide, rfl, rfl⟩, ⟨90, by decide, rfl, rfl⟩⟩

/-- **The stop is live at the exchange, the response to its submission holds no acknowledgement, and
the call fails without asking for the stop.** -/
theorem trigger_order_lost : HoldsAlgoOrder stopSubmission heldStop ∧
    (∃ e, settleAlgoSubmit stopSubmission (.ok []) = .done (.error e)) ∧
    ¬ NeverLost stopSubmission := by
  refine ⟨heldStop_held, ⟨_, rfl⟩, fun h => ?_⟩
  have hroute := h.2 (.ok ("cash".toList, "USDT".toList)) trivial
  have hcheck := hroute.2 (.ok ()) trivial
  obtain ⟨_, ⟨⟩, -⟩ := hcheck.1 _ _ rfl (.ok []) heldStop heldStop_held

end OkxTrading
