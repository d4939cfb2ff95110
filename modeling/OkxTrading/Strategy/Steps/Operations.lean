import OkxTrading.Strategy.Steps.Ticks

/-!
# Operations as steps

Start-up, instrument updates and the reconciliation after an interrupted tick do what ticks do, and
three things more: they read the exchange without a state, install the start-up state, and replace
the state by what `reconstruct_exchange_state` found.

* `OperationStep` — one step of any operation; `operationStep_wellTagged` is its invariant.
* `reconstructExchangeState_leads` — a reconstruction that returns leaves a tagged state in which
  a pending stop-loss has a market exit.
* `operation_leads` — every operation, from any state.
* `runOperations` — operations one after another; `runOperations_steps`, `runTicks_steps`.
-/

namespace OkxTrading

open Effect OrderId

variable {F W : Type} {client : OkxClient F W} {s : Ctx F W} {st : ExchangeState}

/-! ## Steps -/

/-- The call only reads. -/
def Call.IsRead : Call → Prop
  | .placeOrder _ _ _ _ _ _ | .cancelOrder _ _ | .amendOrder _ _ _ _ _
  | .placeTriggerOrder _ _ _ _ _ | .cancelAlgoOrder _ _ => False
  | _ => True

/-- The orders found live have ids of their purposes. -/
structure LiveOrders.Tagged (tag : Text) (live : LiveOrders) : Prop where
  entry : HasTag tag .entry live.entryOrder
  takeProfit : HasTag tag .takeProfit live.takeProfitOrder
  exit : HasTag tag .stopLoss live.stopLossExitOrder

/-- One step of an operation with this client. -/
inductive OperationStep (client : OkxClient F W) : Ctx F W → Ctx F W → Prop
  | tick {s t : Ctx F W} (h : Step client .all s t) : OperationStep client s t
  | read (s : Ctx F W) (c : Call) (reads : c.IsRead) :
      OperationStep client s
        (s.answered c (client.perform c s.world).1 (client.perform c s.world).2)
  | configured (s : Ctx F W) (self : Runner F) (id : self.instanceId = s.runner.instanceId)
      (exchange : self.exchange = s.runner.exchange) :
        OperationStep client s { s with runner := self }
  | startup (s : Ctx F W) (instrument : OkxInstrument) (lastBarTsMs : Option Int) :
      OperationStep client s (s.withExchange (some (.startup instrument lastBarTsMs)))
  | refreshed {s : Ctx F W} {st : ExchangeState} (h : s.runner.exchange = some st)
      (instrument : OkxInstrument) :
      OperationStep client s (s.withExchange (some { st with instrument := instrument }))
  | reconstructed {s : Ctx F W} {st : ExchangeState} (h : s.runner.exchange = some st)
      (live : LiveOrders) (position : Option OpenPosition)
      (tagged : live.Tagged (strategyTag s.runner.instanceId)) :
      OperationStep client s
        ((s.withExchange (some (st.reconstruct live position))).noted .reconstructed)

/-- The tracked orders, if the runner is initialized, have ids of their purposes. -/
def WellTagged (s : Ctx F W) : Prop :=
  ∀ st, s.runner.exchange = some st → st.Tagged (strategyTag s.runner.instanceId)

theorem WellTagged.tagged (hs : WellTagged s) (h : s.runner.exchange = some st) : Tagged s :=
  ⟨st, h, hs st h⟩

theorem Tagged.wellTagged (hs : Tagged s) : WellTagged s := by
  obtain ⟨st, h, ht⟩ := hs
  intro st' h'
  cases h.symm.trans h'
  exact ht

/-- The runner has an exchange state. -/
def Initialized (s : Ctx F W) : Prop := ∃ st, s.runner.exchange = some st

theorem step_initialized {scope : Scope} {t : Ctx F W} (h : Step client scope s t)
    (hs : Initialized s) : Initialized t := by
  cases h with
  | call | clock | counter | signal => exact hs
  | release _ h hr => exact ⟨_, (release_exchange hr).2.choose_spec⟩
  | stop | change | account | balance | emptied | cleared | entry | entryFill | submitted =>
      exact ⟨_, rfl⟩

theorem operationStep_initialized {t : Ctx F W} (h : OperationStep client s t)
    (hs : Initialized s) :
    Initialized t := by
  cases h with
  | tick h => exact step_initialized h hs
  | read => exact hs
  | configured self id exchange =>
      obtain ⟨st, h⟩ := hs
      exact ⟨st, exchange.trans h⟩
  | startup | refreshed | reconstructed => exact ⟨_, rfl⟩

theorem step_exchange {scope : Scope} {t : Ctx F W} (h : Step client scope s t)
    (hn : s.runner.exchange = none) : t.runner.exchange = none := by
  cases h with
  | clock | counter | signal => exact hn
  | call h | stop h | change _ h | account _ h | release _ h | balance _ h | emptied _ h
  | cleared _ h | entry _ h | entryFill _ h | submitted _ h => rw [hn] at h; cases h

theorem refreshed_wellTagged (hs : WellTagged s) (h : s.runner.exchange = some st)
    (instrument : OkxInstrument) :
    WellTagged (s.withExchange (some { st with instrument := instrument })) := by
  intro st' hst
  cases hst
  exact ⟨(hs _ h).entry, (hs _ h).takeProfit, (hs _ h).exit⟩

/-- **Each step keeps the ids of the tracked orders apart by purpose.** -/
theorem operationStep_wellTagged {t : Ctx F W} (h : OperationStep client s t) (hs : WellTagged s) :
    WellTagged t := by
  cases h with
  | tick h =>
      cases hx : s.runner.exchange with
      | none =>
          intro st hst
          rw [step_exchange h hx] at hst
          cases hst
      | some st => exact (step_tagged h (hs.tagged hx)).wellTagged
  | read => exact hs
  | configured self id exchange =>
      intro st hst
      rw [id]
      exact hs st (exchange.symm.trans hst)
  | startup =>
      intro st hst
      cases hst
      exact ⟨trivial, trivial, trivial⟩
  | refreshed h instrument => exact refreshed_wellTagged hs h instrument
  | reconstructed h live position tagged =>
      intro st hst
      cases hst
      exact ⟨tagged.entry, tagged.takeProfit, tagged.exit⟩

/-! ## Rules -/

section Rules

variable {α β : Type} {P : α → Ctx F W → Prop} {Q : β → Ctx F W → Prop}

theorem leads_of_tick {x : Run F W α} (h : Leads (Step client .all) x s P) :
    Leads (OperationStep client) x s P := h.mono_rel fun _ _ => .tick

theorem leads_read_bind {c : Call} {f : c.Reply F → Run F W β} (reads : c.IsRead)
    (hf : ∀ a w, Leads (OperationStep client) (f a) (s.answered c (.ok a) w) Q) :
    Leads (OperationStep client) (ask client c >>= f) s Q := by
  refine Leads.bind (P := fun a t => ∃ w, t = s.answered c (.ok a) w) ?_ ?_
  · refine ⟨.single (.read s c reads), fun a ha => ?_⟩
    have ha : (client.perform c s.world).1 = .ok a := ha
    exact ⟨_, congrArg (s.answered c · _) ha⟩
  · rintro a _ ⟨w, rfl⟩
    exact hf a w

theorem leads_configured_bind {g : Runner F → Runner F} {f : Unit → Run F W β}
    (id : (g s.runner).instanceId = s.runner.instanceId)
    (exchange : (g s.runner).exchange = s.runner.exchange)
    (hf : Leads (OperationStep client) (f ()) { s with runner := g s.runner } Q) :
    Leads (OperationStep client) (runnerMut g >>= f) s Q :=
  (wp_bind_runnerMut g f).2 (Leads.after (.single (.configured s _ id exchange)) hf)

/-- Sequence two parts; the orders are tagged between them. -/
theorem leads_bind_wellTagged {x : Run F W α} {f : α → Run F W β} (hs : WellTagged s)
    (hx : Leads (OperationStep client) x s P)
    (hf : ∀ a t, P a t → WellTagged t → Leads (OperationStep client) (f a) t Q) :
    Leads (OperationStep client) (x >>= f) s Q :=
  Leads.bind (hx.and_invariant (fun _ _ h => operationStep_wellTagged h) hs)
    fun a t ht => hf a t ht.1 ht.2

end Rules

/-! ## Reconstruction -/

theorem findLiveStrategyOrder_hasTag {openOrders : List OkxOrder} {tag : Text}
    {purpose : OrderPurpose} {side : OrderSide} {instrument : OkxInstrument}
    {o : Option TrackedOrder}
    (h : findLiveStrategyOrder openOrders tag purpose side instrument = .ok o) :
    HasTag tag purpose o := by
  unfold findLiveStrategyOrder at h
  dsimp only at h
  split at h
  · rw [pure_eq_ok] at h
    subst h
    trivial
  · cases h
  · rename_i order hfilter
    simp only [bind_eq_ok, pure_eq_ok] at h
    obtain ⟨_, _, _, _, _, _, rfl⟩ := h
    have := (List.mem_filter.1 (hfilter ▸ List.mem_singleton_self order)).2
    simp only [Bool.and_eq_true, decide_eq_true_eq] at this
    exact parse_hasPurpose this.2.1

theorem findLiveOrders_tagged {self : Runner F} {openOrders : List OkxOrder}
    {openAlgoOrders : List OkxAlgoOrder} {live : LiveOrders}
    (h : findLiveOrders self openOrders openAlgoOrders = .ok live) :
    live.Tagged (strategyTag self.instanceId) := by
  simp only [findLiveOrders, bind_eq_ok, pure_eq_ok] at h
  obtain ⟨_, _, _, _, entry, hentry, takeProfit, htakeProfit, exit, hexit, _, _, _, _, _, _, rfl⟩ :=
    h
  exact ⟨findLiveStrategyOrder_hasTag hentry, findLiveStrategyOrder_hasTag htakeProfit,
    findLiveStrategyOrder_hasTag hexit⟩

/-- The runner is the one of `s`. -/
def SameRunner {α : Type} (s : Ctx F W) : α → Ctx F W → Prop := fun _ t => t.runner = s.runner

theorem appendTargetedLoop_leads (tag : Text) (ids : List Text) :
    ∀ (orderEvidence : List OkxOrder) (seen : List Text) (s : Ctx F W),
      Leads (OperationStep client) (appendTargetedLoop client tag ids orderEvidence seen) s
        (SameRunner s) := by
  induction ids with
  | nil => exact fun _ _ _ => Leads.pure rfl
  | cons id rest ih =>
      intro orderEvidence seen s
      unfold appendTargetedLoop
      split
      · exact ih _ _ s
      · rw [leads_instrumentId_bind]
        refine leads_read_bind trivial fun answer w => ?_
        cases answer with
        | none => exact ih _ _ _
        | some order => exact ih _ _ _

theorem appendTargetedStrategyOrderEvidence_leads (orderEvidence : List OkxOrder) (tag : Text) :
    Leads (OperationStep client) (appendTargetedStrategyOrderEvidence client orderEvidence tag) s
      (SameRunner s) := by
  unfold appendTargetedStrategyOrderEvidence
  rw [leads_exchange?_bind]
  split
  · exact appendTargetedLoop_leads _ _ _ _ s
  · exact Leads.pure rfl

theorem appendBroadHistoryFallbackEvidence_leads (orderEvidence : List OkxOrder) (tag : Text) :
    Leads (OperationStep client) (appendBroadHistoryFallbackEvidence client orderEvidence tag) s
      (SameRunner s) := by
  unfold appendBroadHistoryFallbackEvidence
  rw [leads_instrumentId_bind]
  refine leads_read_bind trivial fun _ _ => ?_
  exact (leads_instrumentId_bind _).2 (leads_read_bind trivial fun _ _ => Leads.pure rfl)

theorem reconstructStrategyBalance_sameRunner (h : s.runner.exchange = some st)
    (balances : List OkxBalance) :
    Leads (OperationStep client) (reconstructStrategyBalance balances) s (SameRunner s) := by
  unfold reconstructStrategyBalance
  refine leads_exchange_bind h (leads_lift_bind fun _ _ => ?_)
  rw [leads_runner_bind]
  exact leads_lift_bind fun _ _ => leads_lift_bind fun _ _ => leads_lift fun _ _ => rfl

variable [F64 F]

theorem reconstructPosition_leads (h : s.runner.exchange = some st) (openOrders : List OkxOrder)
    (tag : Text) (balance : StrategyBalance) :
    Leads (OperationStep client) (reconstructPosition client openOrders tag balance) s
      (SameRunner s) := by
  have hx : ∀ {t : Ctx F W}, t.runner = s.runner → t.runner.exchange = some st :=
    fun ht => by rw [ht]; exact h
  unfold reconstructPosition
  refine leads_exchange_bind h (leads_lift_bind fun _ _ => ?_)
  refine Leads.bind (P := SameRunner s) ?_ fun orderEvidence t ht => ?_
  · split
    · exact appendTargetedStrategyOrderEvidence_leads _ _
    · exact Leads.pure rfl
  refine leads_exchange_bind (hx ht) (leads_lift_bind fun fillEvidence _ => ?_)
  rw [leads_runner_bind]
  refine leads_lift_bind fun reconstruction _ => ?_
  split
  · refine Leads.bind (appendBroadHistoryFallbackEvidence_leads _ _) ?_
    rintro ⟨orderEvidence, orderFills⟩ u hu
    have hu' : u.runner = s.runner := hu.trans ht
    refine leads_exchange_bind (hx hu') (leads_lift_bind fun _ _ => ?_)
    rw [leads_runner_bind]
    refine leads_lift_bind fun _ _ => ?_
    rw [leads_runner_bind]
    exact leads_lift fun _ _ => hu'
  · rw [leads_runner_bind]
    exact leads_lift fun _ _ => ht

/-- **A reconstruction that returns leaves what it found at the exchange**, tagged by purpose, and
a pending stop-loss only with a market exit. -/
theorem reconstructExchangeState_leads (h : s.runner.exchange = some st) :
    Leads (OperationStep client) (reconstructExchangeState client) s fun _ t =>
      ∃ live position, t.runner.exchange = some (st.reconstruct live position) := by
  unfold reconstructExchangeState
  rw [leads_instrumentId_bind]
  refine leads_read_bind trivial fun openOrders _ => ?_
  rw [leads_instrumentId_bind]
  refine leads_read_bind trivial fun openAlgoOrders _ => ?_
  rw [leads_runner_bind, leads_runner_bind]
  refine leads_lift_bind fun live hlive => leads_read_bind trivial fun balances _ => ?_
  refine Leads.bind (reconstructStrategyBalance_sameRunner (by exact h) _) fun balance t ht => ?_
  have ht' : t.runner.exchange = some st := by rw [ht]; exact h
  refine Leads.bind (reconstructPosition_leads ht' _ _ _) fun position u hu => ?_
  have hu' : u.runner.exchange = some st := by rw [hu]; exact ht'
  have hi : u.runner.instanceId = s.runner.instanceId := by rw [hu, ht]; rfl
  refine leads_lift_bind fun _ _ => ?_
  rw [leads_runner_bind]
  refine leads_lift_bind fun _ _ => ?_
  refine (wp_bind_exchangeMut hu' _ _).2 ?_
  have tagged : live.Tagged (strategyTag u.runner.instanceId) := by
    rw [hi]; exact findLiveOrders_tagged hlive
  exact ⟨.single (.reconstructed hu' live position tagged), fun _ _ => ⟨live, position, rfl⟩⟩

omit [F64 F] in
theorem reconstruct_hasExit (live : LiveOrders) (position : Option OpenPosition) :
    HasExit (st.reconstruct live position) := by
  intro _ hpending
  refine .inl ?_
  unfold ExchangeState.reconstruct at hpending ⊢
  dsimp only at hpending ⊢
  split at hpending
  · assumption
  · cases hpending

/-- A reconstruction and then protection of what it found. -/
theorem reconstructAndProtect_leads (hs : WellTagged s) (h : s.runner.exchange = some st) :
    Leads (OperationStep client) (do
      reconstructExchangeState client
      ensurePositionProtection client) s fun _ t => Protected t.runner := by
  refine leads_bind_wellTagged hs (reconstructExchangeState_leads h) ?_
  rintro _ t ⟨live, position, ht⟩ htag
  exact leads_of_tick ((leads_widen (Scope.le_all _) (ensurePositionProtection_leads ht)).mono
    fun _ _ hu => hu (reconstruct_hasExit live position))

/-! ## Start-up -/

theorem applyStartupWarmup_leads :
    Leads (OperationStep client) (applyStartupWarmup client) s Any := by
  unfold applyStartupWarmup
  rw [leads_instrumentId_bind]
  refine leads_read_bind trivial fun bars _ => leads_configured_bind rfl rfl ?_
  rw [leads_runner_bind]
  exact leads_lift_bind fun _ _ => Leads.pure trivial

theorem prepareStartupExchangeState_leads :
    Leads (OperationStep client) (prepareStartupExchangeState client) s fun _ t =>
      ∃ st, t.runner.exchange = some st := by
  unfold prepareStartupExchangeState
  rw [leads_runner_bind]
  split
  · rw [leads_instrumentId_bind]
    refine leads_read_bind trivial fun fee _ => ?_
    rw [leads_runner_bind]
    refine leads_lift_bind fun configured hc => ?_
    have hconfigured : configured.instanceId = s.runner.instanceId ∧
        configured.exchange = s.runner.exchange := by
      simp only [Runner.configureFeeSchedule, bind_eq_ok, pure_eq_ok] at hc
      obtain ⟨_, _, _, _, _, _, _, _, _, _, rfl⟩ := hc
      exact ⟨rfl, rfl⟩
    refine leads_configured_bind hconfigured.1 hconfigured.2 ?_
    refine Leads.bind applyStartupWarmup_leads fun lastBarTsMs t _ => ?_
    exact ⟨.single (.startup t _ lastBarTsMs), fun _ _ => ⟨_, rfl⟩⟩
  · exact Leads.stop _

theorem initializeRunner_leads (hs : WellTagged s) :
    Leads (OperationStep client) (initializeRunner client) s fun _ t =>
      Protected t.runner ∧ Initialized t := by
  unfold initializeRunner
  refine leads_bind_wellTagged hs prepareStartupExchangeState_leads fun _ t ht htag => ?_
  obtain ⟨st, h⟩ := ht
  exact (reconstructAndProtect_leads htag h).and_invariant
    (fun _ _ => operationStep_initialized) ⟨st, h⟩

theorem ensureInitialized_leads (hs : WellTagged s) :
    Leads (OperationStep client) (ensureInitialized client) s fun _ t => Initialized t := by
  unfold ensureInitialized
  rw [leads_exchange?_bind]
  split
  · exact (initializeRunner_leads hs).mono fun _ _ ht => ht.2
  · rename_i h
    exact Leads.pure (Option.ne_none_iff_exists'.1 (by simpa using h))

/-! ## Operations -/

theorem onInstrumentUpdate_leads (hs : WellTagged s) :
    Leads (OperationStep client) (onInstrumentUpdate client) s fun _ t => Protected t.runner := by
  unfold onInstrumentUpdate
  refine leads_bind_wellTagged hs (ensureInitialized_leads hs) ?_
  rintro _ t ⟨st, h⟩ ht
  rw [leads_instrumentId_bind]
  refine leads_read_bind trivial fun instrument _ => ?_
  rw [leads_runner_bind]
  split
  · refine leads_lift_bind fun _ _ => ?_
    refine (wp_bind_exchangeMut (by exact h) _ _).2 ?_
    refine Leads.after (.single (.refreshed (by exact h) _)) ?_
    refine reconstructAndProtect_leads (s := Ctx.withExchange _ _) ?_ (withExchange_exchange _)
    exact refreshed_wellTagged (by exact ht) (by exact h) _
  · exact Leads.stop _

/-- An interrupted tick is followed by a reconstruction, the refresh of everything it found, the
local stop-loss and protection. -/
theorem reconcileAfterInterruptedTick_leads (hs : WellTagged s) :
    Leads (OperationStep client) (reconcileAfterInterruptedTick client) s fun _ t =>
      Protected t.runner := by
  unfold reconcileAfterInterruptedTick
  rw [leads_exchange?_bind]
  split
  · exact (initializeRunner_leads hs).mono fun _ _ ht => ht.1
  · rename_i h
    obtain ⟨st, h⟩ := Option.ne_none_iff_exists'.1 (show s.runner.exchange ≠ none by simpa using h)
    refine leads_bind_wellTagged hs (reconstructExchangeState_leads h) ?_
    rintro _ t ⟨live, position, ht⟩ htag
    refine leads_of_tick ?_
    have htag := htag.tagged ht
    refine leads_bind htag (leads_widen (Scope.le_all _) (refreshEntryOrder_leads htag ht))
      fun _ u _ hu => ?_
    refine leads_bind hu (leads_widen (Scope.le_all _) (refreshTakeProfitOrder_leads hu))
      fun _ v _ hv => ?_
    refine leads_bind hv (leads_widen (Scope.le_all _) (refreshStopLossOrder_leads hv))
      fun _ w _ hw => ?_
    refine leads_bind hw (leads_widen (Scope.le_all _) (refreshStopLossExitOrder_leads hw))
      fun _ x _ hx => ?_
    refine leads_bind hx (leads_widen (Scope.le_all _) (evaluateStopLoss_leads hx)) ?_
    rintro _ y ⟨⟨st', h', hexit⟩, -⟩ -
    exact (leads_widen (Scope.le_all _) (ensurePositionProtection_leads h')).mono
      fun _ _ hz => hz hexit

/-- A tick of a runner that may have to be initialized first. -/
theorem initializedTick_leads {f : Unit → Run F W Unit} (hs : WellTagged s)
    (hf : ∀ t, Tagged t → Leads (Step client .all) (f ()) t fun _ u => Protected u.runner) :
    Leads (OperationStep client) (ensureInitialized client >>= f) s
      fun _ t => Protected t.runner := by
  refine leads_bind_wellTagged hs (ensureInitialized_leads hs) ?_
  rintro _ t ⟨st, h⟩ ht
  exact leads_of_tick (hf t (ht.tagged h))

/-- **Every operation is a sequence of steps, and leaves an open position protected where it
returns.** -/
theorem operation_leads (op : Operation) (hs : WellTagged s) :
    Leads (OperationStep client) (op.run client) s fun _ t => Protected t.runner := by
  cases op with
  | initializeRunner => exact (initializeRunner_leads hs).mono fun _ _ ht => ht.1
  | onConfirmedCandle => exact initializedTick_leads hs fun t ht => confirmedCandleTick_leads ht
  | onPrivateEvent => exact initializedTick_leads hs fun t ht => privateEventTick_leads ht
  | onReconcileTimer => exact initializedTick_leads hs fun t ht => reconcileTimerTick_leads ht
  | onInstrumentUpdate => exact onInstrumentUpdate_leads hs
  | reconcileAfterInterruptedTick => exact reconcileAfterInterruptedTick_leads hs

/-! ## Runs -/

/-- Operations one after another.  One that failed or was cut off is followed by the next one
from the state it had reached. -/
def runOperations (client : OkxClient F W) (ops : List Operation) (s : Ctx F W) :
    Ctx F W :=
  ops.foldl (fun t op => (op.run client t).2) s

/-- A runner that has done nothing yet. -/
structure Fresh (s : Ctx F W) : Prop where
  exchange : s.runner.exchange = none
  log : s.log = []

omit [F64 F] in
theorem Fresh.wellTagged (h : Fresh s) : WellTagged s := by
  intro st hst
  rw [h.exchange] at hst
  cases hst

/-- **A run is a sequence of steps.** -/
theorem runOperations_steps (client : OkxClient F W) (ops : List Operation)
    (hs : WellTagged s) :
    Relation.ReflTransGen (OperationStep client) s (runOperations client ops s) ∧
      WellTagged (runOperations client ops s) := by
  induction ops generalizing s with
  | nil => exact ⟨.refl, hs⟩
  | cons op ops ih =>
      have hop : Relation.ReflTransGen (OperationStep client) s (op.run client s).2 :=
        (operation_leads op hs).steps
      have htagged := steps_invariant (fun _ _ h => operationStep_wellTagged h) hop hs
      obtain ⟨hrest, hend⟩ := ih htagged
      exact ⟨hop.trans hrest, hend⟩

/-- **A run of ticks of an initialized runner is a sequence of tick steps.** -/
theorem runTicks_steps (client : OkxClient F W) (ops : List Operation)
    (hops : ∀ op ∈ ops, op.isTick = true) (hs : Tagged s) :
    Relation.ReflTransGen (Step client .all) s (runOperations client ops s) ∧
      Tagged (runOperations client ops s) := by
  induction ops generalizing s with
  | nil => exact ⟨.refl, hs⟩
  | cons op ops ih =>
      obtain ⟨hop, hops⟩ := List.forall_mem_cons.1 hops
      have hsteps : Relation.ReflTransGen (Step client .all) s (op.run client s).2 :=
        (tick_leads hop hs).steps
      obtain ⟨hrest, hend⟩ := ih hops (steps_invariant (fun _ _ h => step_tagged h) hsteps hs)
      exact ⟨hsteps.trans hrest, hend⟩

end OkxTrading
