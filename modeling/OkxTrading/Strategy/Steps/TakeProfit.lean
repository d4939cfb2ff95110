import OkxTrading.Strategy.Steps.Rules

/-!
# Steps of the protective orders

The placement of a stop trigger and of a take-profit, and everything the refresh of a take-profit
does.

* `StopEnsured`, `TakeProfitEnsured` — what a caller may rely on after protection was ensured.
* `matches_of_quantized` — a trigger placed for a position matches it.
* `refreshTakeProfitOrder_leads` — the refresh, in the scope `.exits`.
-/

namespace OkxTrading

open Effect OrderId

variable {F W : Type} {client : OkxClient F W} {scope : Scope} {s : Ctx F W} {st : ExchangeState}

/-! ## Protection -/

theorem ensureLimitQuoteAmount_leads (h : s.runner.exchange = some st) (quoteAmount : Decimal)
    (context : Message) :
    Leads (Step client scope) (ensureLimitQuoteAmount client quoteAmount context) s
      (Leaves s st) := by
  have hs : Leaves s st () s := Leaves.self h
  unfold ensureLimitQuoteAmount
  rw [leads_runner_bind]
  split
  · refine leads_lift_bind ?_
    intro limit _
    split
    · exact leads_ask_bind h trivial fun _ _ => leads_lift fun _ _ => hs
    · exact Leads.pure hs
  · exact Leads.stop _

/-- The trigger was placed for this position: its size and price are the quantized ones. -/
def QuantizedFor (instrument : OkxInstrument) (position : OpenPosition) (o : TrackedAlgoOrder) :
    Prop :=
  ∃ lotSize tickSize, instrument.lotSize = .ok lotSize ∧ instrument.tickSize = .ok tickSize ∧
    quantizeDecimalDown position.quantity lotSize = .ok o.size ∧
    quantizeDecimalDown position.stopLossTrigger tickSize = .ok o.triggerPrice

theorem placeStopLossOrder_leads (h : s.runner.exchange = some st)
    (idle : st.stopLossOrder = none) (protectable : st.Protectable) (position : OpenPosition) :
    Leads (Step client scope) (placeStopLossOrder client position) s (fun a t => ∃ o,
      Leaves s (st.withStopLoss (some o)) a t ∧ QuantizedFor st.instrument position o) := by
  unfold placeStopLossOrder
  refine leads_exchange_bind h (leads_lift_bind fun lotSize hlot => ?_)
  refine leads_lift_bind fun size hsize => leads_lift_bind fun minSize _ => ?_
  refine leads_lift_bind fun _ _ => leads_lift_bind fun _ _ => ?_
  refine leads_lift_bind fun tickSize htick => leads_lift_bind fun triggerPrice htrigger => ?_
  refine leads_newClientOrderId_bind fun id w purpose => ?_
  rw [leads_instrumentId_bind]
  refine leads_ask_bind h ⟨idle, protectable⟩ fun _ w => ?_
  exact leads_exchangeMut h rfl (.stop h (.submitted idle protectable rfl))
    ⟨_, rfl, lotSize, tickSize, hlot, htick, hsize, htrigger⟩

/-- The stop trigger of a position: being cancelled, or of its size and trigger. -/
def StopCovers (self : Runner F) (position : OpenPosition) (o : TrackedAlgoOrder) : Prop :=
  o.cancelRequested = true ∨ self.stopLossOrderMatchesPosition o position = .ok true

theorem decimalWithinHalfStep_self {value step : Decimal} (h : 0 < step) :
    decimalWithinHalfStep value value step = true := by
  unfold decimalWithinHalfStep half
  simp only [le_refl, if_true, sub_self, decide_eq_true_eq]
  positivity

/-- A trigger placed for the position matches it. -/
theorem matches_of_quantized {self : Runner F} {position : OpenPosition} {o : TrackedAlgoOrder}
    (h : self.exchange = some st) (ho : QuantizedFor st.instrument position o) :
    self.stopLossOrderMatchesPosition o position = .ok true := by
  obtain ⟨lotSize, tickSize, hlot, htick, hsize, htrigger⟩ := ho
  have hl : 0 < lotSize := (parsePositiveDecimal_eq_ok.1 hlot).2
  have ht : 0 < tickSize := (parsePositiveDecimal_eq_ok.1 htick).2
  simp only [Runner.stopLossOrderMatchesPosition, Runner.exchangeState, h, hlot, htick, hsize,
    htrigger, ok_bind, decimalWithinHalfStep_self hl, decimalWithinHalfStep_self ht]
  rfl

/-- Where `ensure_stop_loss_order` returned: a position that may be protected has a stop trigger
that covers it. -/
structure StopEnsured (s : Ctx F W) (st : ExchangeState) (t : Ctx F W)
    (o : Option TrackedAlgoOrder) : Prop where
  leaves : Leaves s (st.withStopLoss o) () t
  kept : st.stopLossOrder.isSome → o.isSome
  covers : st.Protectable → ∀ p, st.position = some p → ∃ stop, o = some stop ∧
    StopCovers t.runner p stop

theorem ensureStopLossOrder_leads (h : s.runner.exchange = some st) :
    Leads (Step client scope) (ensureStopLossOrder client) s
      fun _ t => ∃ o, StopEnsured s st t o := by
  have same : Leaves s (st.withStopLoss st.stopLossOrder) () s := Leaves.self h
  unfold ensureStopLossOrder
  rw [leads_exchange?_bind, h]
  dsimp only
  cases hp : st.position with
  | none => exact Leads.pure ⟨_, same, id, fun _ p hp' => by rw [hp] at hp'; cases hp'⟩
  | some position =>
      dsimp only
      split
      · rename_i hidle
        refine Leads.pure ⟨_, same, id, fun hpr => ?_⟩
        rcases hidle with hidle | hidle
        · rw [hpr.pending] at hidle; cases hidle
        · rw [hpr.exit] at hidle; cases hidle
      · rename_i hidle
        simp only [Option.isSome_iff_ne_none, ne_eq, not_or, not_not] at hidle
        obtain ⟨hpending, hexit⟩ := hidle
        have hpr : st.Protectable := ⟨by rw [hp]; rfl, hexit, hpending⟩
        cases ho : st.stopLossOrder with
        | none =>
            refine (placeStopLossOrder_leads h ho hpr position).mono ?_
            rintro _ t ⟨o, ht, hq⟩
            refine ⟨some o, ht, fun _ => rfl, fun _ p hp' => ⟨o, rfl, .inr ?_⟩⟩
            cases hp.symm.trans hp'
            exact matches_of_quantized ht.exchange hq
        | some o =>
            rw [ho] at same
            dsimp only
            split
            · rename_i hc
              exact Leads.pure ⟨some o, same, fun _ => rfl, fun _ p _ => ⟨o, rfl, .inl hc⟩⟩
            · rw [leads_runner_bind]
              refine leads_lift_bind ?_
              intro ok hok
              split
              · rename_i hm
                subst hm
                refine Leads.pure ⟨some o, same, fun _ => rfl, fun _ p hp' => ⟨o, rfl, .inr ?_⟩⟩
                cases hp.symm.trans hp'
                exact hok
              · refine (cancelStopLossOrder_leads h).mono ?_
                intro _ t ht
                rw [ho] at ht
                exact ⟨_, ht, fun _ => rfl, fun _ p _ => ⟨o.cancelled, rfl, .inl rfl⟩⟩

/-! ## Accounting of exit fills -/

theorem wp_clearPositionState {P : Except Stop Unit → Ctx F W → Prop}
    (h : s.runner.exchange = some st) :
    wp clearPositionState s P ↔
      P (.ok ()) ((s.noted .cleared).withExchange (some st.clear)) := by
  unfold clearPositionState
  rw [wp_bind_note, wp_modify, show (s.noted .cleared).runner.exchange = some st from h]
  rfl

theorem clearPositionState_leads (hscope : scope.exits = true) (h : s.runner.exchange = some st)
    (flat : st.position = none) :
    Leads (Step client scope) clearPositionState s
      (fun _ t => t.runner.exchange = some st.clear) :=
  (wp_clearPositionState h).2 ⟨.single (.cleared hscope h flat), fun _ _ => rfl⟩

theorem cumulativeFillDelta_eq_ok {context : Message} {fillSize last delta : Decimal} :
    cumulativeFillDelta context fillSize last = .ok delta ↔
      0 ≤ fillSize ∧ 0 ≤ last ∧ last ≤ fillSize ∧ fillSize - last = delta := by
  simp only [cumulativeFillDelta, bind_eq_ok, ensure_eq_ok, pure_eq_ok, exists_const]

theorem exitAccountingDelta_eq_ok {a : OkxSpotFillAccounting} {o : TrackedOrder}
    {amount : Decimal} (h : exitAccountingDelta a o = .ok amount) :
    amount = o.lastAccountedBaseChange - a.baseChange ∧ 0 < amount := by
  simp only [exitAccountingDelta, bind_eq_ok, ensure_eq_ok, pure_eq_ok, exists_const] at h
  obtain ⟨h1, _, rfl⟩ := h
  exact ⟨by ring, by linarith⟩

/-- The state right after the note of an exit fill and the change of the position. -/
abbrev reducedState (s : Ctx F W) (st : ExchangeState) (id : Text) (amount minSize : Decimal) :
    Ctx F W :=
  (s.noted (.exitFill id amount)).withExchange (some (st.reduce amount minSize))

theorem wp_bind_applyPositionReducingFill {β : Type} {f : Bool → Run F W β} {id : Text}
    {amount : Decimal} {Q : Except Stop β → Ctx F W → Prop} (h : s.runner.exchange = some st)
    (hf : ∀ minSize, st.instrument.minSize = .ok minSize →
      wp (f st.position.isSome) (reducedState s st id amount minSize) Q)
    (herr : ∀ m, Q (.error (.failed m)) s) :
    wp (applyPositionReducingFill id amount >>= f) s Q := by
  rw [wp_bind]
  unfold applyPositionReducingFill
  rw [wp_bind_exchange h]
  refine wp_bind_lift (fun minSize hmin => ?_) fun m _ => herr m
  rw [wp_bind_note, wp_bind_exchange (show (s.noted _).runner.exchange = some st from h)]
  specialize hf minSize hmin
  cases hp : st.position with
  | none =>
      rw [hp] at hf
      have : reducedState s st id amount minSize = s.noted (.exitFill id amount) := by
        unfold reducedState ExchangeState.reduce
        rw [hp, ← withExchange_self (s := s.noted (.exitFill id amount)) h]
        cases st
        cases hp
        rfl
      rw [this] at hf
      exact hf
  | some position =>
      rw [hp] at hf
      dsimp only
      rw [wp_bind_exchangeMut (show (s.noted _).runner.exchange = some st from h)]
      rw [wp_pure, andThen_ok]
      unfold reducedState ExchangeState.reduce at hf
      rw [hp] at hf
      exact hf

/-- The tracked take-profit has accounted all of the report `order`. -/
structure TakeProfitAccounted (t : Ctx F W) (order : OkxOrder) (o : TrackedOrder)
    (fill : Decimal) (a : OkxSpotFillAccounting) (st : ExchangeState) : Prop where
  exchange : t.runner.exchange = some st
  tracked : st.takeProfitOrder = some o
  filled : o.lastFillSize = fill
  report : Reported t.log o.clientOrderId order fill
  accounting : order.cumulativeSpotAccounting st.instrument.baseCcy st.instrument.quoteCcy = .ok a

/-- After a run of the scope `.stop` the take-profit has still accounted its report. -/
theorem TakeProfitAccounted.frame {t : Ctx F W} {order : OkxOrder} {o : TrackedOrder}
    {fill : Decimal} {a : OkxSpotFillAccounting} (h : TakeProfitAccounted s order o fill a st)
    (hf : StopFrame s t) : ∃ st', TakeProfitAccounted t order o fill a st' := by
  obtain ⟨⟨stop, ht⟩, -, hl⟩ := hf st h.exchange
  exact ⟨_, ht, h.tracked, h.filled, ⟨(hl _).trans h.report.answer, h.report.fillSize⟩,
    h.accounting⟩

theorem takeProfitAccounted_of_fill {o : TrackedOrder} {order : OkxOrder}
    {fill amount minSize : Decimal} {a : OkxSpotFillAccounting} {id : Text}
    (report : Reported s.log o.clientOrderId order fill)
    (ha : order.cumulativeSpotAccounting st.instrument.baseCcy st.instrument.quoteCcy = .ok a) :
    TakeProfitAccounted
      ((reducedState s st id amount minSize).withExchange
        (some ((st.reduce amount minSize).withTakeProfit (some (o.accounted fill a)))))
      order (o.accounted fill a) fill a
      ((st.reduce amount minSize).withTakeProfit (some (o.accounted fill a))) :=
  ⟨rfl, rfl, rfl, ⟨report.answer, report.fillSize⟩, ha⟩

theorem accountTakeProfitFill_leads {o : TrackedOrder} {order : OkxOrder}
    {fill delta : Decimal} {a : OkxSpotFillAccounting} {context : Message}
    (h : s.runner.exchange = some st) (ho : st.takeProfitOrder = some o)
    (report : Reported s.log o.clientOrderId order fill)
    (hdelta : cumulativeFillDelta context fill o.lastFillSize = .ok delta)
    (ha : order.cumulativeSpotAccounting st.instrument.baseCcy st.instrument.quoteCcy = .ok a) :
    Leads (Step client .refresh) (accountTakeProfitFill client o fill delta a) s fun _ t =>
      ∃ st' o', o'.clientOrderId = o.clientOrderId ∧ TakeProfitAccounted t order o' fill a st' := by
  obtain ⟨-, -, hle, rfl⟩ := cumulativeFillDelta_eq_ok.1 hdelta
  unfold accountTakeProfitFill
  split
  · rename_i hpos
    refine leads_lift_bind fun amount hamount => ?_
    obtain ⟨rfl, -⟩ := exitAccountingDelta_eq_ok hamount
    refine wp_bind_applyPositionReducingFill h (fun minSize hmin => ?_)
      fun m => ⟨.refl, fun b hb => by cases hb⟩
    unfold updateTakeProfitTracking
    refine wp_bind_exchangeMut_of
      ((st.reduce (o.lastAccountedBaseChange - a.baseChange) minSize).withTakeProfit
        (some (o.accounted fill a))) (withExchange_exchange _)
      (by simp [ExchangeState.withTakeProfit, ExchangeState.reduce, ho]) ?_
    -- The two changes are one step: the fill is accounted where the position is reduced.
    refine Leads.after (.single (.account rfl h
      (.takeProfitFill ho ⟨report, ha, sub_pos.1 hpos⟩ hmin))) ?_
    split
    · refine (leads_widen (Scope.stop_le _) (leads_stopFrame (P := Any) ?_)).mono ?_
      · refine Leads.bind (cancelStopLossOrder_leads (withExchange_exchange _)) fun _ u hu => ?_
        exact (ensureStopLossOrder_leads hu.exchange).mono fun _ _ _ => trivial
      · intro _ u hu
        obtain ⟨st', h'⟩ := (takeProfitAccounted_of_fill report ha).frame hu.2
        exact ⟨st', o.accounted fill a, rfl, h'⟩
    · exact Leads.pure ⟨_, o.accounted fill a, rfl, takeProfitAccounted_of_fill report ha⟩
  · rename_i hpos
    have heq : o.lastFillSize = fill := le_antisymm hle (by linarith)
    exact Leads.pure ⟨st, o, rfl, h, ho, heq, report, ha⟩

variable [F64 F]

/-! ## The take-profit order -/

theorem placeTakeProfit_leads (hscope : scope.exits = true) (h : s.runner.exchange = some st)
    (idle : st.takeProfitOrder = none) (protectable : st.Protectable)
    (quantity averagePrice : Decimal) :
    Leads (Step client scope) (placeTakeProfit client quantity averagePrice) s (fun a t => ∃ id,
      Leaves s (st.withTakeProfit (some (.submitted id))) a t) := by
  unfold placeTakeProfit
  rw [leads_runner_bind]
  refine leads_lift_bind fun target _ => leads_exchange_bind h ?_
  refine leads_lift_bind fun minSize _ => leads_lift_bind fun _ _ => leads_lift_bind fun _ _ => ?_
  refine Leads.bind (ensureLimitQuoteAmount_leads h _ _) ?_
  intro _ t ht
  refine leads_newClientOrderId_bind fun id w purpose => ?_
  rw [leads_instrumentId_bind]
  refine leads_ask_bind ht.exchange ⟨hscope, idle, protectable, purpose⟩ fun _ w => ?_
  exact leads_exchangeMut ht.exchange rfl
    (.change hscope ht.exchange (.takeProfitSubmitted purpose ⟨_, _, rfl, rfl⟩ idle protectable))
    ⟨id, ht.trans (b := ()) rfl⟩

/-- Where `ensure_take_profit_order` returned: a position that may be protected has a
take-profit. -/
structure TakeProfitEnsured (s : Ctx F W) (st : ExchangeState) (t : Ctx F W)
    (tp : Option TrackedOrder) : Prop where
  leaves : Leaves s (st.withTakeProfit tp) () t
  kept : st.takeProfitOrder.isSome → tp = st.takeProfitOrder
  protects : st.Protectable → tp.isSome

theorem ensureTakeProfitOrder_leads (hscope : scope.exits = true)
    (h : s.runner.exchange = some st) :
    Leads (Step client scope) (ensureTakeProfitOrder client) s fun _ t =>
      ∃ tp, TakeProfitEnsured s st t tp := by
  have same : Leaves s (st.withTakeProfit st.takeProfitOrder) () s := Leaves.self h
  unfold ensureTakeProfitOrder
  rw [leads_exchange?_bind, h]
  dsimp only
  cases hp : st.position with
  | none =>
      refine Leads.pure ⟨_, same, fun _ => rfl, fun hpr => ?_⟩
      have := hpr.position
      rw [hp] at this
      cases this
  | some position =>
      dsimp only
      split
      · rename_i hidle
        refine Leads.pure ⟨_, same, fun _ => rfl, fun hpr => ?_⟩
        rcases hidle with hidle | hidle | hidle
        · exact hidle
        · rw [hpr.exit] at hidle; cases hidle
        · rw [hpr.pending] at hidle; cases hidle
      · rename_i hidle
        simp only [Option.isSome_iff_ne_none, ne_eq, not_or, not_not] at hidle
        obtain ⟨hidle, hexit, hpending⟩ := hidle
        refine (placeTakeProfit_leads hscope h hidle ⟨by rw [hp]; rfl, hexit, hpending⟩ _ _).mono ?_
        rintro _ t ⟨id, ht⟩
        exact ⟨_, ht, fun hsome => (by rw [hidle] at hsome; cases hsome), fun _ => rfl⟩

theorem amendTakeProfitOrder_leads (hscope : scope.exits = true) (h : s.runner.exchange = some st) :
    Leads (Step client scope) (amendTakeProfitOrder client) s Any := by
  unfold amendTakeProfitOrder
  rw [leads_exchange?_bind, h]
  dsimp only
  split
  · split
    · split
      · exact Leads.pure trivial
      · split
        · exact (cancelTakeProfitOrder_leads hscope h).mono fun _ _ _ => trivial
        · rw [leads_runner_bind]
          refine leads_lift_bind fun target _ => leads_lift_bind fun _ _ => ?_
          refine Leads.bind (ensureLimitQuoteAmount_leads h _ _) ?_
          intro _ t ht
          exact (leads_instrumentId_bind _).2 (leads_ask ht.exchange trivial fun _ _ _ => trivial)
    · exact Leads.pure trivial
  · exact Leads.pure trivial

theorem keepLiveTakeProfit_leads {o : TrackedOrder} {order : OkxOrder} {fill : Decimal}
    {a : OkxSpotFillAccounting} (tracked : TrackedOrder)
    (hid : o.clientOrderId = tracked.clientOrderId)
    (h : TakeProfitAccounted s order o fill a st) :
    Leads (Step client .refresh) (keepLiveTakeProfit client tracked order fill a) s Any := by
  have hupdate :
      Leads (Step client .refresh) (updateTakeProfitTracking tracked.clientOrderId fill a) s
      Any := by
    rw [← hid, ← h.filled]
    refine leads_exchangeMut h.exchange (by rw [h.tracked, updateIf_some]) ?_ trivial
    exact .change rfl h.exchange
      (.takeProfitAccounted h.tracked (by rw [h.filled]; exact h.report) h.accounting)
  unfold keepLiveTakeProfit
  split
  · exact hupdate
  · refine leads_exchange_bind h.exchange ?_
    split
    · exact (cancelTakeProfitOrder_leads rfl h.exchange).mono fun _ _ _ => trivial
    · rw [leads_runner_bind]
      refine leads_lift_bind fun ok _ => ?_
      split
      · exact hupdate
      · exact amendTakeProfitOrder_leads rfl h.exchange

theorem settleTakeProfit_leads {o : TrackedOrder} {order : OkxOrder} {fill delta : Decimal}
    {a : OkxSpotFillAccounting} (hs : Tagged s) (h : TakeProfitAccounted s order o fill a st)
    (hlive : order.isLive = false) :
    Leads (Step client .refresh) (settleTakeProfit client order delta) s Any := by
  unfold settleTakeProfit
  refine leads_bind (P := Any) hs ?_ ?_
  · split
    · refine leads_exchangeMut h.exchange rfl (.change rfl h.exchange ?_) trivial
      exact .takeProfitClosed h.tracked (by rw [h.filled]; exact h.report) hlive
    · exact Leads.pure trivial
  · rintro _ t - ⟨st', h', htag⟩
    refine leads_exchange_bind h' ?_
    split
    · rename_i hflat
      have hflat : st'.position = none := by simpa using hflat
      refine Leads.bind (cancelStopLossOrder_leads h') fun _ u hu => ?_
      exact (clearPositionState_leads rfl hu.exchange hflat).mono fun _ _ _ => trivial
    · split
      · refine Leads.bind (ensureTakeProfitOrder_leads rfl h') ?_
        rintro _ u ⟨tp, hu⟩
        exact (ensureStopLossOrder_leads hu.leaves.exchange).mono fun _ _ _ => trivial
      · exact Leads.pure trivial

theorem resubmitMissingTakeProfit_leads {o : TrackedOrder} (h : s.runner.exchange = some st)
    (ho : st.takeProfitOrder = some o) (hans : lastReport s.log o.clientOrderId = some none) :
    Leads (Step client .refresh) (resubmitMissingTakeProfit client) s Any := by
  unfold resubmitMissingTakeProfit
  refine leads_exchangeMut_bind h rfl (.change rfl h (.takeProfitMissing ho hans)) ?_
  refine leads_exchange_bind (withExchange_exchange _) ?_
  split
  · exact (ensureTakeProfitOrder_leads (by decide) (withExchange_exchange _)).mono
      fun _ _ _ => trivial
  · exact Leads.pure trivial

theorem refreshTakeProfitOrder_leads (hs : Tagged s) :
    Leads (Step client .refresh) (refreshTakeProfitOrder client) s Any := by
  obtain ⟨st, h, htag⟩ := hs
  unfold refreshTakeProfitOrder
  rw [leads_exchange?_bind, h]
  cases ho : st.takeProfitOrder with
  | none => simp only [Option.bind_some, ho]; exact Leads.pure trivial
  | some o =>
      simp only [Option.bind_some, ho]
      have hid := htag.takeProfit
      rw [ho] at hid
      rw [leads_instrumentId_bind]
      refine leads_ask_bind h (.inr (.inl ⟨rfl, ⟨o, ho, rfl⟩, hid⟩)) fun answer w => ?_
      split
      · exact resubmitMissingTakeProfit_leads h ho (lastReport_order _ _ _ _ _)
      · rename_i order
        refine leads_lift_bind fun fill hfill => leads_lift_bind fun delta hdelta => ?_
        refine leads_exchange_bind (by exact h) (leads_lift_bind fun a ha => ?_)
        have report : Reported (s.answered (.order s.runner.instrumentId o.clientOrderId)
            (.ok (some order)) w).log o.clientOrderId order fill :=
          ⟨lastReport_order _ _ _ _ _, hfill⟩
        refine leads_bind ⟨st, h, htag⟩ (accountTakeProfitFill_leads h ho report hdelta ha) ?_
        rintro _ t ⟨st', o', hid, hacc⟩ ht
        split
        · exact keepLiveTakeProfit_leads o hid hacc
        · rename_i hlive
          exact settleTakeProfit_leads ht hacc (by simpa using hlive)

end OkxTrading
