import OkxTrading.Strategy.Steps.Entry

/-!
# Steps of the stop-loss

The stop trigger, the market exit, and the local stop-loss that releases the take-profit and sells
at the market.

* `refreshStopLossOrder_leads`, `refreshStopLossExitOrder_leads`.
* `evaluateStopLoss_leads` — where it returns, a pending stop-loss has an exit (`HasExit`).
-/

namespace OkxTrading

open Effect OrderId

variable {F W : Type} {client : OkxClient F W} {scope : Scope} {s : Ctx F W} {st : ExchangeState}

/-! ## The account balance and the stop trigger -/

theorem reconstructStrategyBalance_leads (h : s.runner.exchange = some st)
    (balances : List OkxBalance) :
    Leads (Step client scope) (reconstructStrategyBalance balances) s (Leaves s st) := by
  unfold reconstructStrategyBalance
  refine leads_exchange_bind h (leads_lift_bind fun _ _ => ?_)
  rw [leads_runner_bind]
  refine leads_lift_bind fun _ _ => leads_lift_bind fun _ _ => leads_lift fun _ _ => ?_
  exact Leaves.self h

/-- What `reconcile_position_quantity_from_balance` leaves of the exchange state. -/
def BalanceReconciled (st : ExchangeState) (a : Option OpenPosition) (t : Ctx F W) : Prop :=
  match a with
  | some p => t.runner.exchange = some { st with position := some p }
  | none => t.runner.exchange = some st.clear ∨ (st.position = none ∧ t.runner.exchange = some st)

/-- A balance that replaces the quantity is noted. -/
theorem hasBalance_note {t : Ctx F W} (hst : ∃ new, t.log = new ++ s.log)
    {ex : Option ExchangeState}
    {q : Decimal} {u : Ctx F W} (hu : ∃ new, u.log = new ++ .note ex (.balance q) :: t.log) :
    HasBalance s u := by
  obtain ⟨new, hu⟩ := hu
  exact hasBalance_of_append hst
    ⟨new ++ [_], by rw [hu, List.append_assoc]; rfl, ex, q,
      List.mem_append_right _ (List.mem_singleton_self _)⟩

theorem reconcilePositionQuantityFromBalance_leads (hscope : scope.exits = true)
    (h : s.runner.exchange = some st) :
    Leads (Step client scope) (reconcilePositionQuantityFromBalance client) s fun a t =>
      BalanceReconciled st a t ∧ (st.position.isSome → HasBalance s t) := by
  unfold reconcilePositionQuantityFromBalance
  refine leads_exchange_bind h ?_
  split
  · rename_i position hp
    refine leads_ask_bind h trivial fun balances w => ?_
    have hanswered : (s.answered .balances (.ok balances) w).runner.exchange = some st := h
    have hbalance := leads_noFillLeft rfl
      (reconstructStrategyBalance_leads hanswered balances : Leads (Step client .stop) _ _ _)
    refine Leads.bind (leads_widen (Scope.stop_le _) hbalance) ?_
    rintro balance t ⟨ht, new, hlog, -⟩
    have hst : ∃ new, t.log = new ++ s.log :=
      ⟨new ++ [_], by rw [hlog, answered_log, List.append_assoc]; rfl⟩
    show wp _ t _
    rw [wp_bind_note]
    split
    · rename_i hq
      -- The note and the clear are one step: the balance emptied the position.
      rw [wp_bind]
      refine (wp_clearPositionState (by exact ht.exchange)).2 ?_
      rw [andThen_ok]
      have hstep : Step client scope t _ := .emptied hscope ht.exchange (by rw [hp]; rfl) hq
      refine Leads.after (.single hstep) ?_
      exact Leads.pure ⟨.inl rfl, fun _ => hasBalance_note hst ⟨[_], rfl⟩⟩
    · rename_i hq
      rw [not_le] at hq
      refine wp_bind_exchangeMut_of _ (by exact ht.exchange) rfl ?_
      refine Leads.after (.single (.balance hscope ht.exchange hp hq (min_le_right _ _))) ?_
      exact Leads.pure ⟨rfl, fun _ => hasBalance_note hst ⟨[], rfl⟩⟩
  · rename_i hp
    have hp := Option.eq_none_iff_forall_ne_some.2 hp
    refine Leads.pure ⟨.inr ⟨hp, h⟩, fun hpos => ?_⟩
    rw [hp] at hpos
    cases hpos

theorem reconcileTriggeredStopLossOrder_leads (hs : Tagged s) :
    Leads (Step client .quiet) (reconcileTriggeredStopLossOrder client) s Any := by
  obtain ⟨st, h, htag⟩ := hs
  unfold reconcileTriggeredStopLossOrder
  rw [leads_exchange?_bind, h]
  refine leads_bind (P := Any) ⟨st, h, htag⟩ ?_ ?_
  · split
    · rename_i o ho
      refine Leads.bind (cancelIfLive_leads h _) fun ok t ht => ?_
      split
      · exact (markTakeProfitCancelRequested_leads (by decide) ht.exchange ho).mono
          fun _ _ _ => trivial
      · exact Leads.pure trivial
    · exact Leads.pure trivial
  · rintro _ t - ⟨st', h', -⟩
    refine Leads.bind (reconcilePositionQuantityFromBalance_leads (by decide) h') ?_
    rintro reconciled u ⟨hu, -⟩
    cases reconciled with
    | some p => exact leads_exchangeMut hu rfl (.change (by decide) hu (.stopTriggered rfl)) trivial
    | none =>
        rcases hu with hu | ⟨hp, hu⟩
        · exact (clearPositionState_leads rfl hu rfl).mono fun _ _ _ => trivial
        · exact (clearPositionState_leads rfl hu hp).mono fun _ _ _ => trivial

theorem keepOpenStopLoss_leads [F64 F] {o : TrackedAlgoOrder} {order : OkxAlgoOrder}
    (h : s.runner.exchange = some st) (ho : st.stopLossOrder = some o)
    (hid : order.algoId = o.algoId) :
    Leads (Step client .quiet) (keepOpenStopLoss client o order) s Any := by
  unfold keepOpenStopLoss
  refine leads_lift_bind fun tracked htracked => ?_
  have same : tracked.algoId = o.algoId ∧ tracked.cancelRequested = o.cancelRequested := by
    simp only [trackedStopLossAlgo, bind_eq_ok, pure_eq_ok] at htracked
    obtain ⟨_, _, _, _, _, _, _, _, _, _, rfl⟩ := htracked
    exact ⟨hid, rfl⟩
  refine leads_exchangeMut_bind h rfl (.change (by decide) h (.stopReported ho same)) ?_
  refine leads_exchange_bind (withExchange_exchange _) ?_
  dsimp only
  split
  · rename_i position hp
    split
    · rename_i hcond
      rw [leads_instrumentId_bind]
      refine leads_ask_bind (withExchange_exchange _) trivial fun _ _ => ?_
      refine leads_lift_bind fun _ _ => ?_
      split
      · refine leads_exchangeMut_bind (withExchange_exchange _) rfl
          (.change (by decide) (withExchange_exchange _) (.priceRecovered ?_ ?_)) ?_
        · show st.position.isSome = true
          rw [hp]; rfl
        · exact Option.isNone_iff_eq_none.1 hcond.2.1
        · exact (ensureTakeProfitOrder_leads (by decide) (withExchange_exchange _)).mono
            fun _ _ _ => trivial
      · exact Leads.pure trivial
    · exact Leads.pure trivial
  · exact Leads.pure trivial

theorem settleMissingStopLoss_leads (hs : Tagged s) (position : OpenPosition) :
    Leads (Step client .quiet) (settleMissingStopLoss client position) s Any := by
  obtain ⟨st, h, htag⟩ := hs
  unfold settleMissingStopLoss
  refine leads_exchange_bind h ?_
  rw [leads_instrumentId_bind]
  refine leads_ask_bind h trivial fun _ _ => leads_lift_bind fun _ _ => ?_
  split
  · exact reconcileTriggeredStopLossOrder_leads ⟨st, h, htag⟩
  · exact leads_exchangeMut h rfl (.change (by decide) h .stopDropped) trivial

theorem settleClosedStopLoss_leads (hs : Tagged s) (o : TrackedAlgoOrder)
    (position : OpenPosition) :
    Leads (Step client .quiet) (settleClosedStopLoss client o position) s Any := by
  obtain ⟨st, h, htag⟩ := hs
  unfold settleClosedStopLoss
  rw [leads_instrumentId_bind]
  refine leads_ask_bind h trivial fun algoHistory _ => ?_
  split
  · refine leads_lift_bind fun _ _ => ?_
    split
    · rw [leads_instrumentId_bind]
      refine leads_ask_bind h trivial fun _ _ => leads_lift_bind fun _ _ => ?_
      exact reconcileTriggeredStopLossOrder_leads ⟨st, h, htag⟩
    · refine leads_bind (P := Any) ⟨st, h, htag⟩ ?_ fun _ t _ ht =>
        settleMissingStopLoss_leads ht position
      split
      · exact leads_exchangeMut h rfl (.change (by decide) h .stopDropped) trivial
      · exact Leads.pure trivial
  · exact settleMissingStopLoss_leads (by exact ⟨st, h, htag⟩) position

theorem refreshStopLossOrder_leads [F64 F] (hs : Tagged s) :
    Leads (Step client .quiet) (refreshStopLossOrder client) s Any := by
  obtain ⟨st, h, htag⟩ := hs
  unfold refreshStopLossOrder
  rw [leads_exchange?_bind, h]
  cases ho : st.stopLossOrder with
  | none => simp only [Option.bind_some, ho]; exact Leads.pure trivial
  | some o =>
      simp only [Option.bind_some, ho]
      rw [leads_instrumentId_bind]
      refine leads_ask_bind h trivial fun openAlgoOrders _ => ?_
      split
      · rename_i order hfind
        have hid : order.algoId = o.algoId := by simpa using List.find?_some hfind
        exact keepOpenStopLoss_leads h ho hid
      · refine leads_exchange_bind (by exact h) ?_
        split
        · exact settleClosedStopLoss_leads (by exact ⟨st, h, htag⟩) o _
        · exact leads_exchangeMut h rfl (.change (by decide) h .stopDropped) trivial

/-! ## The market exit -/

/-- What follows once a closed market exit is no longer tracked. -/
theorem retryAfterExit_leads (h : s.runner.exchange = some st) (order : OkxOrder) :
    Leads (Step client .refresh) (do
      if (← exchange).position.isNone then clearPositionState
      else if order.isTerminalWithoutFill ∨ order.isTerminal then
        exchangeMut fun state => { state with stopLossPending := some .exitReconciliation })
      s Any := by
  refine leads_exchange_bind h ?_
  split
  · rename_i hp
    exact (clearPositionState_leads rfl h (by simpa using hp)).mono fun _ _ _ => trivial
  · rename_i hp
    split
    · refine leads_exchangeMut h rfl (.change (by decide) h (.exitRetried ?_)) trivial
      simpa [Option.isSome_iff_ne_none] using hp
    · exact Leads.pure trivial

theorem accountStopLossExit_leads {o : TrackedOrder} {order : OkxOrder} {fill delta : Decimal}
    {a : OkxSpotFillAccounting} {context : Message} (h : s.runner.exchange = some st)
    (ho : st.stopLossExitOrder = some o) (report : Reported s.log o.clientOrderId order fill)
    (hdelta : cumulativeFillDelta context fill o.lastFillSize = .ok delta)
    (ha : order.cumulativeSpotAccounting st.instrument.baseCcy st.instrument.quoteCcy = .ok a) :
    Leads (Step client .refresh) (accountStopLossExit o order fill delta a) s Any := by
  obtain ⟨-, -, hle, rfl⟩ := cumulativeFillDelta_eq_ok.1 hdelta
  unfold accountStopLossExit updateStopLossExitTracking settleStopLossExit
  by_cases hpos : 0 < fill - o.lastFillSize
  · rw [if_pos hpos]
    unfold Leads
    rw [wp_bind]
    refine wp_bind_lift (fun amount hamount => ?_) fun _ _ => ⟨.refl, fun b hb => by cases hb⟩
    obtain ⟨rfl, -⟩ := exitAccountingDelta_eq_ok hamount
    refine wp_bind_applyPositionReducingFill h (fun minSize hmin => ?_)
      fun _ => ⟨.refl, fun b hb => by cases hb⟩
    rw [wp_pure, andThen_ok]
    have new : NewFill s.log st o order fill a := ⟨report, ha, sub_pos.1 hpos⟩
    -- The change of the position and of the tracked exit are one step.
    split
    · rename_i hlive
      refine (wp_exchangeMut (withExchange_exchange _) _).2 ⟨.single ?_, fun _ _ => trivial⟩
      have : Step client .refresh s _ := .account rfl h (.exitFill ho new hmin hlive)
      simpa [ExchangeState.withExit, ExchangeState.reduce, ho] using this
    · rename_i hlive
      refine wp_bind_exchangeMut_of _ (withExchange_exchange _) rfl ?_
      refine Leads.after (.single (.account (by decide) h
        (.exitFillClosed ho new hmin (by simpa using hlive)))) ?_
      exact retryAfterExit_leads (withExchange_exchange _) order
  · rw [if_neg hpos]
    have heq : o.lastFillSize = fill := le_antisymm hle (by linarith)
    subst heq
    refine Leads.bind (P := fun _ t => t = s) (Leads.pure rfl) ?_
    rintro _ _ rfl
    split
    · exact leads_exchangeMut h (by rw [ho, updateIf_some])
        (.change (by decide) h (.exitAccounted ho report ha)) trivial
    · rename_i hlive
      refine leads_exchangeMut_bind h rfl
        (.change (by decide) h (.exitClosed ho report (by simpa using hlive))) ?_
      exact retryAfterExit_leads (withExchange_exchange _) order

theorem reconcileMissingStopLossExit_leads {o : TrackedOrder} (h : s.runner.exchange = some st)
    (ho : st.stopLossExitOrder = some o) (hans : lastReport s.log o.clientOrderId = some none) :
    Leads (Step client .refresh) (reconcileMissingStopLossExit client) s Any := by
  unfold reconcileMissingStopLossExit
  refine leads_exchangeMut_bind h rfl (.change (by decide) h (.exitMissing ho hans)) ?_
  refine Leads.bind (reconcilePositionQuantityFromBalance_leads (by decide)
    (withExchange_exchange _)) ?_
  rintro reconciled t ⟨ht, -⟩
  cases reconciled with
  | some p => exact leads_exchangeMut ht rfl (.change (by decide) ht (.exitRetried rfl)) trivial
  | none => exact Leads.pure trivial

theorem refreshStopLossExitOrder_leads (hs : Tagged s) :
    Leads (Step client .refresh) (refreshStopLossExitOrder client) s Any := by
  obtain ⟨st, h, htag⟩ := hs
  unfold refreshStopLossExitOrder
  rw [leads_exchange?_bind, h]
  cases ho : st.stopLossExitOrder with
  | none => simp only [Option.bind_some, ho]; exact Leads.pure trivial
  | some o =>
      simp only [Option.bind_some, ho]
      have hid := htag.exit
      rw [ho] at hid
      rw [leads_instrumentId_bind]
      refine leads_ask_bind h (.inr (.inr ⟨rfl, ⟨o, ho, rfl⟩, hid⟩)) fun answer w => ?_
      split
      · exact reconcileMissingStopLossExit_leads h ho (lastReport_order _ _ _ _ _)
      · rename_i order
        refine leads_lift_bind fun fill hfill => leads_lift_bind fun delta hdelta => ?_
        refine leads_exchange_bind (by exact h) (leads_lift_bind fun a ha => ?_)
        have report : Reported (s.answered (.order s.runner.instrumentId o.clientOrderId)
            (.ok (some order)) w).log o.clientOrderId order fill :=
          ⟨lastReport_order _ _ _ _ _, hfill⟩
        exact accountStopLossExit_leads (by exact h) ho report hdelta ha

/-! ## The local stop-loss -/

/-- The reason `now` of the state in which `evaluate_stop_loss`, having read `pending`, goes on
past the threshold. -/
structure Crossed (pending now : Option StopLossPendingReason) : Prop where
  isSome : now.isSome
  new : pending = none → now = some .localThreshold

/-- What `releaseTakeProfit` answers: `true` without a take-profit, `false` where one is left or
the position is gone. -/
def Released (pending : Option StopLossPendingReason) (b : Bool) (t : Ctx F W) : Prop :=
  ∃ st, t.runner.exchange = some st ∧ Crossed pending st.stopLossPending ∧
    (b = true → st.takeProfitOrder = none) ∧
    (b = false → st.takeProfitOrder.isSome ∨ st.position = none)

/-- Where `releaseTakeProfit`, called in the state `st`, has left a fill to the balance, a
stop-loss was pending, and `evaluate_stop_loss` goes on if there is a position. -/
def LeftReleased (s : Ctx F W) (st : ExchangeState) (pending : Option StopLossPendingReason)
    (b : Bool) (t : Ctx F W) : Prop :=
  NoFillLeft s t ∨ pending.isSome ∧ b = st.position.isSome ∧
    t.runner.exchange = some (st.withTakeProfit none) ∧
    ∃ new, t.log = new ++ s.log ∧ ∀ ex id, Event.note ex (.fillLeft id) ∈ new → ex = some st

/-- A closed take-profit is dropped; its new fill is accounted unless a stop-loss was pending. -/
theorem dropClosedTakeProfit_leads {o : TrackedOrder} {order : OkxOrder} {fill delta : Decimal}
    {pending : Option StopLossPendingReason} {context : Message}
    (h : s.runner.exchange = some st) (ho : st.takeProfitOrder = some o)
    (report : Reported s.log o.clientOrderId order fill) (hlive : order.isLive = false)
    (hdelta : cumulativeFillDelta context fill o.lastFillSize = .ok delta)
    (hc : Crossed pending st.stopLossPending) :
    Leads (Step client .release) (dropClosedTakeProfit pending o order delta) s fun b t =>
      Released pending b t ∧ LeftReleased s st pending b t := by
  obtain ⟨-, -, hle, rfl⟩ := cumulativeFillDelta_eq_ok.1 hdelta
  have hdone : ∀ {t : Ctx F W} {st' : ExchangeState}, t.runner.exchange = some st' →
      st'.takeProfitOrder = none → Crossed pending st'.stopLossPending →
      LeftReleased s st pending st'.position.isSome t →
      Leads (Step client .release) (do return (← exchange).position.isSome) t fun b t =>
        Released pending b t ∧ LeftReleased s st pending b t := by
    intro t st' ht htp hc' hleft
    refine leads_exchange_bind ht
      (Leads.pure ⟨⟨st', ht, hc', fun _ => htp, fun hb => .inr ?_⟩, hleft⟩)
    simpa using hb
  unfold dropClosedTakeProfit
  by_cases hcond : 0 < fill - o.lastFillSize ∧ pending.isNone
  · rw [if_pos hcond]
    obtain ⟨hpos, hpend⟩ := hcond
    unfold Leads
    rw [wp_bind, wp_bind_exchange h]
    refine wp_bind_lift (fun a ha => ?_) fun _ _ => ⟨.refl, fun b hb => by cases hb⟩
    refine wp_bind_lift (fun amount hamount => ?_) fun _ _ => ⟨.refl, fun b hb => by cases hb⟩
    obtain ⟨rfl, -⟩ := exitAccountingDelta_eq_ok hamount
    refine wp_bind_applyPositionReducingFill h (fun minSize hmin => ?_)
      fun _ => ⟨.refl, fun b hb => by cases hb⟩
    rw [wp_pure, andThen_ok, wp_bind_note]
    refine wp_bind_exchangeMut_of _ (withExchange_exchange _) rfl ?_
    -- The fill and the drop of the order are one step.
    refine Leads.after (.single (.release rfl h (.filled ho ⟨report, ha, sub_pos.1 hpos⟩ hmin hlive
      (hc.new (by simpa using hpend))))) ?_
    refine hdone (withExchange_exchange _) rfl hc (.inl (.trans
      (t := s.noted (.exitFill o.clientOrderId (o.lastAccountedBaseChange - a.baseChange))) ?_ ?_))
    · exact noFillLeft_note rfl fun id hn => by cases hn
    · exact noFillLeft_note rfl fun id hn => by cases hn
  · rw [if_neg hcond]
    by_cases hpos : 0 < fill - o.lastFillSize
    · rw [if_pos hpos]
      have hpend : pending.isSome := by
        rw [Option.isSome_iff_ne_none]
        rintro rfl
        exact hcond ⟨hpos, rfl⟩
      show wp _ s _
      rw [wp_bind_note, wp_bind_note]
      refine wp_bind_exchangeMut_of _ (by exact h) rfl ?_
      refine Leads.after (.single (.release rfl h
        (.left ho report hlive (sub_pos.1 hpos) hc.isSome))) ?_
      refine hdone (withExchange_exchange _) rfl hc
        (.inr ⟨hpend, rfl, rfl, [_, _], rfl, fun ex id hmem => ?_⟩)
      rcases List.mem_pair.1 hmem with hmem | hmem
      · cases hmem
      · cases hmem
        exact h
    · rw [if_neg hpos]
      have heq : o.lastFillSize = fill := le_antisymm hle (by linarith)
      subst heq
      refine Leads.bind (P := fun _ t => t = s) (Leads.pure rfl) ?_
      rintro _ _ rfl
      show wp _ _ _
      rw [wp_bind_note]
      refine wp_bind_exchangeMut_of _ (by exact h) rfl ?_
      refine Leads.after (.single (.release rfl h (.unfilled ho report hlive))) ?_
      exact hdone (withExchange_exchange _) rfl hc
        (.inl (noFillLeft_note rfl fun id hn => by cases hn))

/-- A take-profit that is not closed is left to be cancelled. -/
theorem cancelForRelease_leads {o : TrackedOrder} (h : s.runner.exchange = some st)
    (ho : st.takeProfitOrder = some o) {pending : Option StopLossPendingReason}
    (hc : Crossed pending st.stopLossPending) :
    (Leads (Step client .release) (do
      (if ← cancelIfLive client o.clientOrderId then
        markTakeProfitCancelRequested o.clientOrderId
      else pure ())
      return false) s fun b t => Released pending b t ∧ NoFillLeft s t) ∧
    Leads (Step client .release) (do
      (if o.cancelRequested = false then do
        ask client (.cancelOrder (← instrumentId) o.clientOrderId)
        markTakeProfitCancelRequested o.clientOrderId
      else pure ())
      return false) s fun b t => Released pending b t ∧ NoFillLeft s t := by
  have kept : ∀ {t : Ctx F W} {tp}, t.runner.exchange = some (st.withTakeProfit (some tp)) →
      Leads (Step client .quiet) (pure false : Run F W Bool) t (Released pending) := fun ht =>
    Leads.pure ⟨_, ht, hc, fun hb => (by cases hb), fun _ => .inl rfl⟩
  have hsame : some st = some (st.withTakeProfit (some o)) := by
    rw [← ho]; rfl
  constructor
  · refine leads_widen Scope.quiet_le_release (leads_noFillLeft rfl ?_)
    refine Leads.bind (cancelIfLive_leads h _) fun ok t ht => ?_
    refine Leads.bind (P := fun _ t => ∃ tp,
      t.runner.exchange = some (st.withTakeProfit (some tp))) ?_ fun _ t ⟨tp, ht⟩ => kept ht
    split
    · exact (markTakeProfitCancelRequested_leads rfl ht.exchange ho).mono
        fun _ _ hu => ⟨_, hu.exchange⟩
    · exact Leads.pure ⟨o, ht.exchange.trans hsame⟩
  · refine leads_widen Scope.quiet_le_release (leads_noFillLeft rfl ?_)
    refine Leads.bind (P := fun _ t => ∃ tp,
      t.runner.exchange = some (st.withTakeProfit (some tp))) ?_ fun _ t ⟨tp, ht⟩ => kept ht
    split
    · rw [leads_instrumentId_bind]
      refine leads_ask_bind h trivial fun _ _ => ?_
      exact (markTakeProfitCancelRequested_leads rfl (by exact h) ho).mono
        fun _ _ hu => ⟨_, hu.exchange⟩
    · exact Leads.pure ⟨o, h.trans hsame⟩

theorem releaseTakeProfit_leads (hs : Tagged s) (h : s.runner.exchange = some st)
    {pending : Option StopLossPendingReason} (hc : Crossed pending st.stopLossPending) :
    Leads (Step client .release) (releaseTakeProfit client pending) s fun b t =>
      Released pending b t ∧ LeftReleased s st pending b t := by
  obtain ⟨st', h', htag⟩ := hs
  cases h.symm.trans h'
  unfold releaseTakeProfit
  rw [leads_exchange?_bind, h]
  cases ho : st.takeProfitOrder with
  | none =>
      simp only [Option.bind_some, ho]
      exact Leads.pure ⟨⟨st, h, hc, fun _ => ho, fun hb => by cases hb⟩, .inl (.refl s)⟩
  | some o =>
      simp only [Option.bind_some, ho]
      have hid := htag.takeProfit
      rw [ho] at hid
      rw [leads_instrumentId_bind]
      refine leads_ask_bind h (.inr (.inl ⟨rfl, ⟨o, ho, rfl⟩, hid⟩)) fun answer w => ?_
      -- The lookup leaves no fill to the balance.
      have hcall : NoFillLeft s (s.answered (.order s.runner.instrumentId o.clientOrderId)
          (.ok answer) w) := by
        refine ⟨[_], rfl, fun ex id hmem => ?_⟩
        cases List.mem_singleton.1 hmem
      split
      · -- The order is unknown: cancel it all the same.
        exact (cancelForRelease_leads (by exact h) ho hc).1.mono
          fun _ _ ht => ⟨ht.1, .inl (hcall.trans ht.2)⟩
      · rename_i order
        split
        · exact (cancelForRelease_leads (by exact h) ho hc).2.mono
            fun _ _ ht => ⟨ht.1, .inl (hcall.trans ht.2)⟩
        · rename_i hlive
          refine leads_lift_bind fun fill hfill => leads_lift_bind fun delta hdelta => ?_
          refine (dropClosedTakeProfit_leads (by exact h) ho ⟨lastReport_order _ _ _ _ _, hfill⟩
            (by simpa using hlive) hdelta hc).mono fun b t ht => ⟨ht.1, ?_⟩
          rcases ht.2 with hno | ⟨hpend, hb, hx, new, hlog, hnew⟩
          · exact .inl (hcall.trans hno)
          · obtain ⟨call, hcall, hno⟩ := hcall
            refine .inr ⟨hpend, hb, hx, new ++ call, ?_, fun ex id hmem => ?_⟩
            · rw [hlog, hcall, List.append_assoc]
            · rcases List.mem_append.1 hmem with hmem | hmem
              · exact hnew ex id hmem
              · exact absurd hmem (hno ex id)

/-- A position with a pending stop-loss has an order left that may close it. -/
def HasExit (st : ExchangeState) : Prop :=
  st.position.isSome → st.stopLossPending.isSome →
    st.stopLossExitOrder.isSome ∨ st.stopLossOrder.isSome ∨ st.takeProfitOrder.isSome

theorem placeMarketExit_leads (h : s.runner.exchange = some st)
    (htp : st.takeProfitOrder = none) (hstop : st.stopLossOrder = none)
    (hexit : st.stopLossExitOrder = none) (reference : Option Decimal) :
    Leads (Step client .quiet) (placeMarketExit client reference) s fun _ t =>
      ∃ st', t.runner.exchange = some st' ∧ HasExit st' := by
  unfold placeMarketExit
  refine leads_exchange_bind h ?_
  split
  · rename_i position hp
    have hpos : st.position.isSome := by rw [hp]; rfl
    refine leads_exchange_bind h (leads_lift_bind fun _ _ => leads_lift_bind fun _ _ => ?_)
    refine leads_lift_bind fun _ _ => leads_lift_bind fun _ _ => ?_
    refine Leads.bind (P := fun _ t => t.runner = s.runner) ?_ ?_
    · unfold marketReference
      split
      · exact Leads.pure rfl
      · rw [leads_instrumentId_bind]
        exact leads_ask_bind h trivial fun _ _ => leads_lift fun _ _ => rfl
    · intro price t ht
      refine leads_lift_bind fun _ _ => leads_newClientOrderId_bind fun id w purpose => ?_
      have h' : t.runner.exchange = some st := by rw [ht]; exact h
      refine (leads_instrumentId_bind _).2 ?_
      refine leads_ask_bind (by exact h') ⟨rfl, hpos, htp, hstop, hexit, purpose⟩ fun _ w => ?_
      exact leads_exchangeMut (by exact h') rfl
        (.change (by decide) h' (.exitSubmitted purpose ⟨_, _, rfl, rfl⟩ hpos htp hstop hexit))
        ⟨_, rfl, fun _ _ => .inl rfl⟩
  · rename_i hp
    refine Leads.pure ⟨st, h, fun hpos => ?_⟩
    rw [Option.eq_none_iff_forall_ne_some.2 hp] at hpos
    cases hpos

/-- With a stop-loss pending, no trigger and no market exit, the balance is read before the market
exit is placed. -/
theorem exitAtMarket_leads (h : s.runner.exchange = some st) (htp : st.takeProfitOrder = none)
    (pending : Option StopLossPendingReason) (reference : Option Decimal) :
    Leads (Step client .quiet) (exitAtMarket client pending reference) s fun _ t =>
      (∃ st', t.runner.exchange = some st' ∧ HasExit st') ∧
      (pending.isSome → st.stopLossOrder = none → st.stopLossExitOrder = none →
        st.position.isSome → HasBalance s t) := by
  unfold exitAtMarket
  refine leads_exchange_bind h ?_
  split
  · rename_i hstop
    refine Leads.pure ⟨⟨st, h, fun _ _ => .inr (.inl hstop)⟩, fun _ hnone => ?_⟩
    rw [hnone] at hstop
    cases hstop
  · rename_i hstop
    have hstop : st.stopLossOrder = none := by simpa using hstop
    refine leads_exchange_bind h ?_
    split
    · rename_i hexit
      refine Leads.pure ⟨⟨st, h, fun _ _ => .inl hexit⟩, fun _ _ hnone => ?_⟩
      rw [hnone] at hexit
      cases hexit
    · rename_i hexit
      have hexit : st.stopLossExitOrder = none := by simpa using hexit
      split
      · refine Leads.bind (reconcilePositionQuantityFromBalance_leads (by decide) h) ?_
        rintro reconciled t ⟨ht, hbalance⟩
        cases reconciled with
        | some p =>
            refine ((placeMarketExit_leads ht htp hstop hexit reference).and_invariant
              (I := fun u => st.position.isSome → HasBalance s u) ?_ hbalance).mono ?_
            · exact fun _ _ hstep hu hpos => (hu hpos).trans_append (step_append hstep)
            · exact fun _ _ hu => ⟨hu.1, fun _ _ _ hpos => hu.2 hpos⟩
        | none =>
            refine Leads.pure ⟨?_, fun _ _ _ hpos => hbalance hpos⟩
            rcases ht with ht | ⟨hp, ht⟩
            · exact ⟨_, ht, fun hpos => by cases hpos⟩
            · refine ⟨_, ht, fun hpos => ?_⟩
              rw [hp] at hpos
              cases hpos
      · rename_i hpend
        exact (placeMarketExit_leads h htp hstop hexit reference).mono
          fun _ _ ht => ⟨ht, fun hsome => absurd hsome hpend⟩

theorem stopLossReference_leads (client : OkxClient F W) (h : s.runner.exchange = some st)
    (position : OpenPosition) (pending : Option StopLossPendingReason) :
    Leads (Step client scope) (stopLossReference client position pending) s fun _ t =>
      t.runner = s.runner := by
  unfold stopLossReference
  split
  · exact Leads.pure rfl
  · rw [leads_instrumentId_bind]
    refine leads_ask_bind h trivial fun _ _ => leads_lift_bind fun _ _ => ?_
    exact leads_lift_bind fun _ _ => Leads.pure rfl

/-- **After `evaluate_stop_loss` a pending stop-loss leaves a position with an exit**, and a fill it
left to the balance has been followed by one where neither trigger nor market exit was there. -/
theorem evaluateStopLoss_leads (hs : Tagged s) :
    Leads (Step client .release) (evaluateStopLoss client) s fun _ t =>
      (∃ st, t.runner.exchange = some st ∧ HasExit st) ∧ LeftBalanced s t := by
  have hrefl : LeftBalanced s s := (NoFillLeft.refl s).leftBalanced
  obtain ⟨st, h, htag⟩ := hs
  unfold evaluateStopLoss
  rw [leads_exchange?_bind, h]
  cases hp : st.position with
  | none =>
      simp only [Option.bind_some, hp]
      refine Leads.pure ⟨⟨st, h, fun hpos => ?_⟩, hrefl⟩
      rw [hp] at hpos
      cases hpos
  | some position =>
      simp only [Option.bind_some, hp]
      rw [leads_exchange?_bind, h, Option.bind_some]
      have hreference := leads_widen (Scope.stop_le .release) (leads_noFillLeft rfl
        (stopLossReference_leads client h position st.stopLossPending))
      refine leads_bind ⟨st, h, htag⟩ hreference ?_
      rintro ⟨last, reference⟩ t ⟨ht, hno⟩ -
      have h' : t.runner.exchange = some st := by rw [ht]; exact h
      have htag' : Tagged t := ⟨st, h', by rw [ht]; exact htag⟩
      dsimp only
      split
      · rename_i hbelow
        refine Leads.pure ⟨⟨st, h', fun _ hpend => ?_⟩, hno.leftBalanced⟩
        have := hbelow.1
        rw [Option.isNone_iff_eq_none.1 this] at hpend
        cases hpend
      · refine leads_bind (P := fun _ u => ∃ st', u.runner.exchange = some st' ∧
          st'.position = st.position ∧ NoFillLeft s u ∧
          Crossed st.stopLossPending st'.stopLossPending) htag' ?_ ?_
        · split
          · rename_i hnone
            have hnone := Option.isNone_iff_eq_none.1 hnone
            refine leads_exchangeMut h' rfl (.change (by decide) h'
              (.thresholdCrossed (by rw [hp]; rfl) hnone)) ?_
            exact ⟨_, rfl, rfl, hno, rfl, fun _ => rfl⟩
          · rename_i hsome
            refine Leads.pure ⟨st, h', rfl, hno, ?_, fun hn => ?_⟩
            · simpa [Option.isSome_iff_ne_none] using hsome
            · rw [hn] at hsome
              exact absurd rfl hsome
        · rintro _ u ⟨st', hu, hpos, hno, hc⟩ htagu
          refine Leads.bind (releaseTakeProfit_leads htagu hu hc) ?_
          rintro b v ⟨⟨st'', hv, hc', htrue, hfalse⟩, hleft⟩
          have hbv : b = false → LeftBalanced s v := by
            rintro rfl
            rcases hleft with hleft | ⟨-, hb, -⟩
            · exact (hno.trans hleft).leftBalanced
            · rw [hpos, hp] at hb
              cases hb
          cases b with
          | true =>
              refine leads_widen Scope.quiet_le_release ((leads_noFillLeft rfl
                (exitAtMarket_leads hv (htrue rfl) _ _)).mono ?_)
              rintro _ w ⟨⟨hexit, hbalance⟩, hnow⟩
              refine ⟨hexit, hno.leftBalanced.trans ?_⟩
              rcases hleft with hleft | ⟨hpend, -, hx, new, hlog, hnew⟩
              · exact (hleft.trans hnow).leftBalanced
              · cases hv.symm.trans hx
                obtain ⟨added, hadded, hnone⟩ := hnow
                refine ⟨added ++ new, by rw [hadded, hlog, List.append_assoc], ?_⟩
                intro stl id hmem hstop hexit
                rcases List.mem_append.1 hmem with hmem | hmem
                · exact absurd hmem (hnone _ id)
                · cases hnew _ id hmem
                  obtain ⟨new', hlog', ex, q, hq⟩ := hbalance hpend hstop hexit (by
                    show st'.position.isSome
                    rw [hpos, hp]; rfl)
                  rw [List.append_cancel_right (hlog'.symm.trans hadded)] at hq
                  exact ⟨ex, q, List.mem_append_left _ hq⟩
          | false =>
              refine Leads.pure ⟨⟨st'', hv, fun hpos _ => ?_⟩, hbv rfl⟩
              rcases hfalse rfl with htp | hnone
              · exact .inr (.inr htp)
              · rw [hnone] at hpos
                cases hpos

end OkxTrading
