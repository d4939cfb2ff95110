import OkxTrading.Strategy.Steps.StopLoss

/-!
# Ticks as steps

* `Protected` — what a tick that returns leaves behind of an open position.
* `tick_leads` — the three tick operations of an initialized runner are sequences of steps.
-/

namespace OkxTrading

open Effect OrderId

variable {F W : Type} {client : OkxClient F W} {scope : Scope} {s : Ctx F W} {st : ExchangeState}

/-! ## The entry -/

theorem entryPreconditionsMet_eq_ok {self : Runner F} (h : self.exchange = some st) {b : Bool}
    (hb : self.entryPreconditionsMet = .ok b) : b = true → st.Idle := by
  simp only [Runner.entryPreconditionsMet, Runner.exchangeState, h, ok_bind, pure_eq_ok] at hb
  subst hb
  simp only [Bool.and_eq_true, Option.isNone_iff_eq_none, and_imp]
  intro _ h1 h2 h3 h4 h5
  exact ⟨h1, h2, h3, h4, h5⟩

theorem evaluateEntry_leads (h : s.runner.exchange = some st) :
    Leads (Step client .submit) (evaluateEntry client) s fun _ t =>
      ∃ st', t.runner.exchange = some st' ∧
        (st' = st ∨ st.position = none ∧ ∃ o, st' = { st with entryOrder := some o }) := by
  have same : ∃ st', s.runner.exchange = some st' ∧
      (st' = st ∨ st.position = none ∧ ∃ o, st' = { st with entryOrder := some o }) :=
    ⟨st, h, .inl rfl⟩
  unfold evaluateEntry
  rw [leads_runner_bind]
  refine leads_lift_bind fun ok hok => ?_
  split
  · rename_i htrue
    have idle := entryPreconditionsMet_eq_ok h hok htrue
    rw [leads_instrumentId_bind]
    refine leads_ask_bind h trivial fun _ _ => leads_lift_bind fun _ _ => ?_
    rw [leads_runner_bind]
    refine leads_lift_bind fun rawPrice _ => ?_
    split
    · refine leads_exchange_bind (by exact h) (leads_lift_bind fun _ _ => ?_)
      refine leads_lift_bind fun _ _ => ?_
      rw [leads_runner_bind]
      refine leads_lift_bind fun _ _ => leads_lift_bind fun _ _ => leads_lift_bind fun _ _ => ?_
      refine leads_lift_bind fun _ _ => leads_lift_bind fun _ _ => ?_
      rw [leads_runner_bind]
      refine leads_lift_bind fun _ _ => leads_lift_bind fun _ _ => leads_lift_bind fun _ _ => ?_
      refine leads_lift_bind fun _ _ => leads_lift_bind fun _ _ => leads_lift_bind fun _ _ => ?_
      rw [leads_runner_bind]
      refine leads_lift_bind fun _ _ => ?_
      refine Leads.bind (ensureLimitQuoteAmount_leads (by exact h) _ _) fun _ t ht => ?_
      refine leads_newClientOrderId_bind fun id w purpose => ?_
      refine (leads_instrumentId_bind _).2 ?_
      refine leads_ask_bind (by exact ht.exchange) ⟨rfl, idle, purpose⟩ fun _ w => ?_
      exact leads_exchangeMut (by exact ht.exchange) rfl
        (.submitted rfl ht.exchange ⟨_, _, rfl, rfl⟩ idle purpose)
        ⟨_, rfl, .inr ⟨idle.position, _, rfl⟩⟩
    · exact Leads.pure same
  · exact Leads.pure same

/-- An open position is protected: by a take-profit and a stop trigger that covers it or is being
cancelled, or, with a market exit or a pending stop-loss, by one of its three exits. -/
def Protected (self : Runner F) : Prop :=
  ∀ st p, self.exchange = some st → st.position = some p →
    (st.stopLossPending = none ∧ st.stopLossExitOrder = none →
      st.takeProfitOrder.isSome ∧ ∃ o, st.stopLossOrder = some o ∧ StopCovers self p o) ∧
    (¬ (st.stopLossPending = none ∧ st.stopLossExitOrder = none) →
      st.stopLossExitOrder.isSome ∨ st.stopLossOrder.isSome ∨ st.takeProfitOrder.isSome)

/-- Whether a stop trigger matches depends on the instrument only. -/
theorem stopCovers_congr {self self' : Runner F} {st' : ExchangeState}
    (h : self.exchange = some st) (h' : self'.exchange = some st')
    (hi : st'.instrument = st.instrument) (p : OpenPosition) (o : TrackedAlgoOrder) :
    StopCovers self' p o ↔ StopCovers self p o := by
  simp only [StopCovers, Runner.stopLossOrderMatchesPosition, Runner.exchangeState, h, h', ok_bind,
    hi]

theorem evaluateEntry_protected (hs : Tagged s) (hp : Protected s.runner) :
    Leads (Step client .submit) (evaluateEntry client) s fun _ t => Protected t.runner := by
  obtain ⟨st, h, -⟩ := hs
  refine (evaluateEntry_leads h).mono ?_
  rintro _ t ⟨st', h', hsame | ⟨hnone, o, rfl⟩⟩
  · subst hsame
    intro st' p hst' hpos
    cases h'.symm.trans hst'
    obtain ⟨h1, h2⟩ := hp st' p h hpos
    refine ⟨fun hc => ?_, h2⟩
    obtain ⟨htp, stop, hstop, hcov⟩ := h1 hc
    exact ⟨htp, stop, hstop, (stopCovers_congr h h' rfl p stop).2 hcov⟩
  · intro st' p hst' hpos
    cases h'.symm.trans hst'
    rw [show _ = st.position from rfl, hnone] at hpos
    cases hpos

/-! ## Ticks -/

variable [F64 F]

theorem refreshBar_leads (h : s.runner.exchange = some st) (bar : MarketBar F) :
    Leads (Step client .quiet) (refreshBar (W := W) bar) s fun _ t =>
      ∃ ts, t.runner.exchange = some { st with lastBarTsMs := ts } := by
  unfold refreshBar
  refine leads_exchange_bind h ?_
  split
  · exact Leads.pure ⟨st.lastBarTsMs, h⟩
  · refine leads_exchangeMut_bind h rfl (.change (by decide) h (.bar bar.tsMs)) ?_
    refine (wp_modify _).2 ⟨.single (.signal _ _), fun _ _ => ⟨some bar.tsMs, rfl⟩⟩

theorem refreshBarsLoop_leads (bars : List (MarketBar F)) :
    ∀ (s : Ctx F W) (st : ExchangeState), s.runner.exchange = some st →
      Leads (Step client .quiet) (refreshBarsLoop bars) s fun _ t =>
        ∃ ts, t.runner.exchange = some { st with lastBarTsMs := ts } := by
  induction bars with
  | nil => exact fun s st h => Leads.pure ⟨st.lastBarTsMs, h⟩
  | cons bar rest ih =>
      intro s st h
      refine Leads.bind (refreshBar_leads h bar) ?_
      rintro _ t ⟨ts, ht⟩
      exact ih t { st with lastBarTsMs := ts } ht

/-- New candles leave the orders and the position alone. -/
theorem refreshBars_leads (h : s.runner.exchange = some st) :
    Leads (Step client .quiet) (refreshBars client) s fun _ t =>
      ∃ ts, t.runner.exchange = some { st with lastBarTsMs := ts } := by
  unfold refreshBars
  rw [leads_instrumentId_bind]
  exact leads_ask_bind h trivial fun _ _ => refreshBarsLoop_leads _ _ st h

theorem refreshTrackedOrders_leads (hs : Tagged s) :
    Leads (Step client .fill) (refreshTrackedOrders client) s Any := by
  unfold refreshTrackedOrders
  refine leads_bind hs (refreshEntryOrder_leads hs hs.choose_spec.1) fun _ t _ ht =>
    leads_widen Scope.refresh_le_fill ?_
  refine leads_bind ht (refreshTakeProfitOrder_leads ht) fun _ u _ hu => ?_
  refine leads_bind hu (leads_widen Scope.quiet_le_refresh (refreshStopLossOrder_leads hu))
    fun _ v _ hv => ?_
  exact refreshStopLossExitOrder_leads hv

/-- `ensure_take_profit_order` and then `ensure_stop_loss_order` protect the position of a state
in which a pending stop-loss has an exit. -/
theorem ensurePositionProtection_leads (h : s.runner.exchange = some st) :
    Leads (Step client .quiet) (ensurePositionProtection client) s fun _ t =>
      HasExit st → Protected t.runner := by
  unfold ensurePositionProtection
  refine Leads.bind (ensureTakeProfitOrder_leads rfl h) ?_
  rintro _ t ⟨tp, htp⟩
  refine (ensureStopLossOrder_leads htp.leaves.exchange).mono ?_
  rintro _ u ⟨o, ho⟩ hexit st' p hst' hp
  cases ho.leaves.exchange.symm.trans hst'
  constructor
  · rintro ⟨hpending, hex⟩
    have hpr : st.Protectable := ⟨Option.isSome_iff_exists.2 ⟨p, hp⟩, hex, hpending⟩
    obtain ⟨stop, rfl, hcov⟩ := ho.covers ⟨hpr.position, hex, hpending⟩ p hp
    exact ⟨htp.protects hpr, stop, rfl, hcov⟩
  · intro hnot
    by_cases hpending : st.stopLossPending = none
    · refine .inl ?_
      have hex : st.stopLossExitOrder ≠ none := fun hex => hnot ⟨hpending, hex⟩
      exact Option.isSome_iff_ne_none.2 hex
    · rcases hexit (Option.isSome_iff_exists.2 ⟨p, hp⟩) (Option.isSome_iff_ne_none.2 hpending)
        with hex | hstop | htake
      · exact .inl hex
      · exact .inr (.inl (ho.kept hstop))
      · refine .inr (.inr ?_)
        show tp.isSome
        rw [htp.kept htake]
        exact htake

theorem enforceTickExitProtection_leads (hs : Tagged s) :
    Leads (Step client .release) (enforceTickExitProtection client) s fun _ t =>
      Protected t.runner := by
  unfold enforceTickExitProtection
  obtain ⟨st, h, htag⟩ := hs
  refine leads_bind ⟨st, h, htag⟩ (ensureStopLossOrder_leads h) fun _ t _ ht => ?_
  refine leads_bind ht (evaluateStopLoss_leads ht) ?_
  rintro _ u ⟨⟨st', h', hexit⟩, -⟩ -
  exact (leads_widen Scope.quiet_le_release (ensurePositionProtection_leads h')).mono
    fun _ _ hv => hv hexit

/-- What `on_private_event` does once the runner is initialized. -/
theorem privateEventTick_leads (hs : Tagged s) :
    Leads (Step client .all) (do
      refreshTrackedOrders client
      enforceTickExitProtection client) s fun _ t => Protected t.runner := by
  refine leads_bind hs (leads_widen (Scope.le_all _) (refreshTrackedOrders_leads hs))
    fun _ t _ ht => ?_
  exact leads_widen (Scope.le_all _) (enforceTickExitProtection_leads ht)

/-- What `on_reconcile_timer` does once the runner is initialized. -/
theorem reconcileTimerTick_leads (hs : Tagged s) :
    Leads (Step client .all) (do
      refreshBars client
      refreshTrackedOrders client
      enforceTickExitProtection client) s fun _ t => Protected t.runner :=
  leads_bind hs (leads_widen (Scope.le_all _) (refreshBars_leads hs.choose_spec.1)) fun _ _ _ ht =>
    privateEventTick_leads ht

/-- What `on_confirmed_candle` does once the runner is initialized. -/
theorem confirmedCandleTick_leads (hs : Tagged s) :
    Leads (Step client .all) (do
      refreshBars client
      refreshTrackedOrders client
      enforceTickExitProtection client
      evaluateEntry client) s fun _ t => Protected t.runner := by
  refine leads_bind hs (leads_widen (Scope.le_all _) (refreshBars_leads hs.choose_spec.1))
    fun _ t _ ht => ?_
  refine leads_bind ht (leads_widen (Scope.le_all _) (refreshTrackedOrders_leads ht))
    fun _ u _ hu => ?_
  refine leads_bind hu (leads_widen (Scope.le_all _) (enforceTickExitProtection_leads hu))
    fun _ v hp hv => ?_
  exact leads_widen (Scope.le_all _) (evaluateEntry_protected hv hp)

theorem ensureInitialized_bind (hs : Tagged s) {Q : Unit → Ctx F W → Prop}
    {f : Unit → Run F W Unit} (hf : Leads (Step client scope) (f ()) s Q) :
    Leads (Step client scope) (ensureInitialized client >>= f) s Q := by
  obtain ⟨st, h, -⟩ := hs
  refine Leads.bind (P := fun _ t => t = s) ?_ ?_
  · unfold ensureInitialized
    rw [leads_exchange?_bind, h]
    exact Leads.pure rfl
  · rintro _ _ rfl
    exact hf

/-- **A tick of an initialized runner is a sequence of steps, and leaves an open position
protected where it returns.** -/
theorem tick_leads {op : Operation} (hop : op.isTick = true) (hs : Tagged s) :
    Leads (Step client .all) (op.run client) s fun _ t => Protected t.runner := by
  cases op with
  | onConfirmedCandle => exact ensureInitialized_bind hs (confirmedCandleTick_leads hs)
  | onPrivateEvent => exact ensureInitialized_bind hs (privateEventTick_leads hs)
  | onReconcileTimer => exact ensureInitialized_bind hs (reconcileTimerTick_leads hs)
  | initializeRunner | onInstrumentUpdate | reconcileAfterInterruptedTick => cases hop

/-! ## What holds where a tick returns -/

/-- What a tick makes true with the refresh of the entry order and keeps from there on. -/
structure TickRule (client : OkxClient F W) (A B : Ctx F W → Prop) : Prop where
  entry : ∀ t, Tagged t → A t →
    Leads (Step client .fill) (refreshEntryOrder client) t fun _ u => B u
  refresh : ∀ t u, Step client .refresh t u → B t → B u
  evaluate : ∀ t, Tagged t → B t →
    Leads (Step client .release) (evaluateStopLoss client) t fun _ u => B u
  submit : ∀ t u, Step client .submit t u → B t → B u

namespace TickRule

variable {A B : Ctx F W → Prop}

/-- A part of the tick that keeps to the scope `.refresh`. -/
theorem keeps {α : Type} {x : Run F W α} {P : α → Ctx F W → Prop} (h : TickRule client A B)
    (hs : B s) (hx : Leads (Step client .refresh) x s P) :
    Leads (Step client .refresh) x s fun _ t => B t :=
  (hx.and_invariant h.refresh hs).mono fun _ _ ht => ht.2

theorem refreshTrackedOrders (h : TickRule client A B) (hs : Tagged s) (hA : A s) :
    Leads (Step client .fill) (refreshTrackedOrders client) s fun _ t => B t := by
  unfold OkxTrading.refreshTrackedOrders
  refine leads_bind hs (h.entry s hs hA) fun _ t hB ht => leads_widen Scope.refresh_le_fill ?_
  refine leads_bind ht (h.keeps hB (refreshTakeProfitOrder_leads ht)) fun _ u hB hu => ?_
  refine leads_bind hu (h.keeps hB (leads_widen Scope.quiet_le_refresh
    (refreshStopLossOrder_leads hu))) fun _ v hB hv => ?_
  exact h.keeps hB (refreshStopLossExitOrder_leads hv)

theorem enforceTickExitProtection (h : TickRule client A B) (hs : Tagged s) (hB : B s) :
    Leads (Step client .all) (enforceTickExitProtection client) s fun _ t => B t := by
  unfold OkxTrading.enforceTickExitProtection
  refine leads_bind hs (leads_widen (Scope.le_all .refresh)
    (h.keeps hB (ensureStopLossOrder_leads hs.choose_spec.1))) fun _ t hB ht => ?_
  refine leads_bind ht (leads_widen (Scope.le_all _) (h.evaluate t ht hB)) fun _ u hB hu => ?_
  exact leads_widen (Scope.le_all .refresh) (h.keeps hB
    (leads_widen Scope.quiet_le_refresh (ensurePositionProtection_leads hu.choose_spec.1)))

theorem privateEventTick (h : TickRule client A B) (hs : Tagged s) (hA : A s) :
    Leads (Step client .all) (do
      OkxTrading.refreshTrackedOrders client
      OkxTrading.enforceTickExitProtection client) s fun _ t => B t :=
  leads_bind hs (leads_widen (Scope.le_all _) (h.refreshTrackedOrders hs hA))
    fun _ _ hB ht => h.enforceTickExitProtection ht hB

/-- **Where a tick returns, what its rule makes true holds.** -/
theorem tick (h : TickRule client A B) {op : Operation} (hop : op.isTick = true) (hs : Tagged s)
    (hA : A s) (hbars : Leads (Step client .quiet) (refreshBars client) s fun _ t => A t) :
    Leads (Step client .all) (op.run client) s fun _ t => B t := by
  have hbars := leads_widen (Scope.le_all _) hbars
  cases op with
  | onConfirmedCandle =>
      refine ensureInitialized_bind hs (leads_bind hs hbars fun _ t hA ht => ?_)
      refine leads_bind ht (leads_widen (Scope.le_all _) (h.refreshTrackedOrders ht hA))
        fun _ u hB hu => ?_
      refine leads_bind hu (h.enforceTickExitProtection hu hB) fun _ v hB hv => ?_
      refine leads_widen (Scope.le_all _) (((evaluateEntry_leads hv.choose_spec.1).and_invariant
        h.submit hB).mono fun _ _ ht => ht.2)
  | onPrivateEvent => exact ensureInitialized_bind hs (h.privateEventTick hs hA)
  | onReconcileTimer =>
      exact ensureInitialized_bind hs (leads_bind hs hbars fun _ t hA ht =>
        h.privateEventTick ht hA)
  | initializeRunner | onInstrumentUpdate | reconcileAfterInterruptedTick => cases hop

end TickRule

end OkxTrading
