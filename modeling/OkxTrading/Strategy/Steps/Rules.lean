import OkxTrading.Strategy.Step

/-!
# Rules of steps

How the primitive programs of a tick make steps, and the cancels of the four tracked orders.

* `leads_ask`, `leads_exchangeMut`, `leads_bind`, … — one rule for each primitive program.
* `leads_stopFrame`, `leads_entryFrame` — what a run of a narrow scope leaves alone.
-/

namespace OkxTrading

open Effect OrderId

variable {F W : Type} {client : OkxClient F W} {scope : Scope} {s : Ctx F W} {st : ExchangeState}

/-! ## Rules -/

/-- Nothing is claimed where a run returns. -/
abbrev Any {α : Type} : α → Ctx F W → Prop := fun _ _ => True

/-- The runner is that of `s` with this exchange state. -/
def Leaves {α : Type} (s : Ctx F W) (st : ExchangeState) : α → Ctx F W → Prop :=
  fun _ t => t.runner = (s.withExchange (some st)).runner

theorem Leaves.self {α : Type} {a : α} (h : s.runner.exchange = some st) : Leaves s st a s := by
  unfold Leaves
  rw [withExchange_self h]

theorem Leaves.exchange {α : Type} {a : α} {t : Ctx F W} (h : Leaves s st a t) :
    t.runner.exchange = some st := by
  unfold Leaves at h
  rw [h]; rfl

theorem Leaves.instanceId {α : Type} {a : α} {t : Ctx F W} (h : Leaves s st a t) :
    t.runner.instanceId = s.runner.instanceId := by
  unfold Leaves at h
  rw [h]; rfl

theorem Leaves.trans {α β : Type} {a : α} {b : β} {st' : ExchangeState} {t u : Ctx F W}
    (h : Leaves s st a t) (h' : Leaves t st' b u) : Leaves s st' b u := by
  unfold Leaves at h h' ⊢
  rw [h']
  unfold Ctx.withExchange
  rw [h]; rfl

section Rules

variable {α β : Type} {R : Ctx F W → Ctx F W → Prop} {P : α → Ctx F W → Prop}
  {Q : β → Ctx F W → Prop}

@[simp] theorem leads_runner_bind (f : Runner F → Run F W β) :
    Leads R (runner >>= f) s Q ↔ Leads R (f s.runner) s Q := Iff.rfl

@[simp] theorem leads_instrumentId_bind (f : Text → Run F W β) :
    Leads R (instrumentId >>= f) s Q ↔ Leads R (f s.runner.instrumentId) s Q := Iff.rfl

@[simp] theorem leads_exchange?_bind (f : Option ExchangeState → Run F W β) :
    Leads R (exchange? >>= f) s Q ↔ Leads R (f s.runner.exchange) s Q := Iff.rfl

theorem leads_exchange_bind (h : s.runner.exchange = some st) {f : ExchangeState → Run F W β}
    (hf : Leads R (f st) s Q) : Leads R (exchange >>= f) s Q := (wp_bind_exchange h f).2 hf

theorem leads_lift {r : Result α} (h : ∀ a, r = .ok a → P a s) :
    Leads R (liftM r : Run F W α) s P :=
  wp_lift (fun a ha => ⟨.refl, fun b hb => by cases hb; exact h a ha⟩)
    fun _ _ => ⟨.refl, fun b hb => by cases hb⟩

theorem leads_lift_bind {r : Result α} {f : α → Run F W β}
    (hf : ∀ a, r = .ok a → Leads R (f a) s Q) :
    Leads R ((liftM r : Run F W α) >>= f) s Q :=
  wp_bind_lift hf fun _ _ => ⟨.refl, fun b hb => by cases hb⟩

theorem leads_ask {c : Call} {P : c.Reply F → Ctx F W → Prop} (h : s.runner.exchange = some st)
    (guard : CallGuard scope (strategyTag s.runner.instanceId) st c)
    (hP : ∀ a w, client.perform c s.world = (.ok a, w) → P a (s.answered c (.ok a) w)) :
    Leads (Step client scope) (ask client c) s P := by
  refine ⟨.single (.call h c guard), ?_⟩
  intro a ha
  have ha : (client.perform c s.world).1 = .ok a := ha
  have := hP a (client.perform c s.world).2 (Prod.ext ha rfl)
  rw [← ha] at this
  exact this

theorem leads_ask_bind {c : Call} {f : c.Reply F → Run F W β} (h : s.runner.exchange = some st)
    (guard : CallGuard scope (strategyTag s.runner.instanceId) st c)
    (hf : ∀ a w, Leads (Step client scope) (f a) (s.answered c (.ok a) w) Q) :
    Leads (Step client scope) (ask client c >>= f) s Q :=
  Leads.bind (leads_ask (P := fun a t => Leads (Step client scope) (f a) t Q) h guard
    fun a w _ => hf a w) fun _ _ ht => ht

theorem leads_exchangeMut {g : ExchangeState → ExchangeState} {st' : ExchangeState}
    {P : Unit → Ctx F W → Prop} (h : s.runner.exchange = some st) (hg : g st = st')
    (step : Step client scope s (s.withExchange (some st')))
    (hP : P () (s.withExchange (some st'))) : Leads (Step client scope) (exchangeMut g) s P := by
  subst hg
  exact (wp_exchangeMut h g).2 ⟨.single step, fun _ _ => hP⟩

theorem leads_exchangeMut_bind {g : ExchangeState → ExchangeState} {st' : ExchangeState}
    {f : Unit → Run F W β} (h : s.runner.exchange = some st) (hg : g st = st')
    (step : Step client scope s (s.withExchange (some st')))
    (hf : Leads (Step client scope) (f ()) (s.withExchange (some st')) Q) :
    Leads (Step client scope) (exchangeMut g >>= f) s Q := by
  subst hg
  exact (wp_bind_exchangeMut h g f).2 (Leads.after (.single step) hf)

theorem leads_unixTimeMs_bind {f : Int → Run F W β}
    (hf : ∀ now w, Leads (Step client scope) (f now) { s with world := w } Q) :
    Leads (Step client scope) (unixTimeMs client >>= f) s Q := by
  refine Leads.bind (P := fun _ t => ∃ w, t = { s with world := w }) ?_ ?_
  · unfold unixTimeMs Leads wp
    dsimp only
    split
    · exact ⟨.single (.clock s), fun _ _ => ⟨_, rfl⟩⟩
    · exact ⟨.single (.clock s), fun _ _ => ⟨_, rfl⟩⟩
  · rintro now _ ⟨w, rfl⟩
    exact hf now w

theorem leads_newClientOrderId_bind {purpose : OrderPurpose} {f : Text → Run F W β}
    (hf : ∀ id w, HasPurpose (strategyTag s.runner.instanceId) purpose id →
      Leads (Step client scope) (f id) { s with world := w } Q) :
    Leads (Step client scope) (newClientOrderId client purpose >>= f) s Q := by
  refine Leads.bind (P := fun id t => HasPurpose (strategyTag s.runner.instanceId) purpose id ∧
    ∃ w, t = { s with world := w }) ?_ ?_
  · refine ⟨.tail (.single (.clock s)) (.counter _), fun id hid => ?_⟩
    cases hid
    exact ⟨clientOrderId_hasPurpose _ _ _ _, _, rfl⟩
  · rintro id _ ⟨hid, w, rfl⟩
    exact hf id w hid

/-- Sequence two parts; the orders are tagged again between them. -/
theorem leads_bind {x : Run F W α} {f : α → Run F W β} (hs : Tagged s)
    (hx : Leads (Step client scope) x s P)
    (hf : ∀ a t, P a t → Tagged t → Leads (Step client scope) (f a) t Q) :
    Leads (Step client scope) (x >>= f) s Q :=
  Leads.bind (hx.and_invariant (fun _ _ h => step_tagged h) hs) fun a t ht => hf a t ht.1 ht.2

/-- The same run in a wider scope. -/
theorem leads_widen {a b : Scope} (hab : a.Le b) {x : Run F W α}
    (h : Leads (Step client a) x s P) : Leads (Step client b) x s P :=
  h.mono_rel fun _ _ => Step.mono hab

/-- A run in the scope `.stop` keeps to its frame. -/
theorem leads_stopFrame {x : Run F W α} (h : Leads (Step client .stop) x s P) :
    Leads (Step client .stop) x s fun a t => P a t ∧ StopFrame s t :=
  h.and_invariant (fun _ _ htu hst => hst.trans (stopFrame_of_step htu)) (StopFrame.refl s)

/-- A run that leaves the entry order to others keeps to its frame. -/
theorem leads_entryFrame {x : Run F W α} (hentry : scope.entry = false)
    (hsubmits : scope.submits = false) (h : Leads (Step client scope) x s P) :
    Leads (Step client scope) x s fun a t => P a t ∧ EntryFrame s t :=
  h.and_invariant (fun _ _ htu hst => hst.trans (entryFrame_of_step hentry hsubmits htu))
    (EntryFrame.refl s)

/-- A run that releases no take-profit leaves no fill to the balance. -/
theorem leads_noFillLeft {x : Run F W α} (hreleases : scope.releases = false)
    (h : Leads (Step client scope) x s P) :
    Leads (Step client scope) x s fun a t => P a t ∧ NoFillLeft s t := by
  refine h.and_invariant (fun t u htu hst => ?_) (.refl s)
  rcases step_log htu with hlog | ⟨hallowed, -⟩
  · exact hst.trans hlog
  · rw [hreleases] at hallowed
    cases hallowed

end Rules

@[simp] theorem updateIf_some (o : TrackedOrder) (f : TrackedOrder → TrackedOrder) :
    TrackedOrder.updateIf o.clientOrderId f (some o) = some (f o) := by
  simp [TrackedOrder.updateIf]

/-! ## Cancels -/

theorem cancelIfLive_leads (h : s.runner.exchange = some st) (id : Text) :
    Leads (Step client scope) (cancelIfLive client id) s (Leaves s st) := by
  unfold cancelIfLive
  rw [leads_instrumentId_bind]
  refine Leads.bind (P := fun _ t => t.runner = s.runner) ?_ ?_
  · exact ⟨.single (.call h _ trivial), fun r hr => by cases hr; rfl⟩
  · intro a t ht
    have hl : ∀ b : Bool, Leaves s st b t := fun b => ht.trans (Leaves.self (a := b) h)
    split
    · exact Leads.pure (hl _)
    · exact Leads.pure (hl _)
    · exact Leads.stop _

theorem markTakeProfitCancelRequested_leads {o : TrackedOrder} (hscope : scope.exits = true)
    (h : s.runner.exchange = some st) (ho : st.takeProfitOrder = some o) :
    Leads (Step client scope) (markTakeProfitCancelRequested o.clientOrderId) s
      (Leaves s (st.withTakeProfit (some o.cancelled))) :=
  leads_exchangeMut h (by rw [ho, updateIf_some])
    (.change hscope h (.takeProfitCancelled ho)) rfl

theorem cancelled_of_requested {o : TrackedOrder} (h : o.cancelRequested = true) :
    o.cancelled = o := by
  cases o; cases h; rfl

theorem cancelTakeProfitOrder_leads (hscope : scope.exits = true)
    (h : s.runner.exchange = some st) :
    Leads (Step client scope) (cancelTakeProfitOrder client) s
      (Leaves s (st.withTakeProfit (st.takeProfitOrder.map .cancelled))) := by
  have same {tp} (htp : tp = st.takeProfitOrder) : Leaves s (st.withTakeProfit tp) () s := by
    subst htp; exact Leaves.self h
  unfold cancelTakeProfitOrder
  rw [leads_exchange?_bind, h]
  cases ho : st.takeProfitOrder with
  | none =>
      simp only [Option.bind_some, ho]
      exact Leads.pure (same ho.symm)
  | some o =>
      simp only [Option.bind_some, ho]
      split
      · rename_i hc
        exact Leads.pure (same (by rw [Option.map_some, cancelled_of_requested hc, ho]))
      · rw [leads_instrumentId_bind]
        refine leads_ask_bind h trivial fun _ w => ?_
        exact markTakeProfitCancelRequested_leads hscope h ho

/-- The stop trigger with its cancel requested. -/
def TrackedAlgoOrder.cancelled (o : TrackedAlgoOrder) : TrackedAlgoOrder :=
  { o with cancelRequested := true }

theorem cancelStopLossOrder_leads (h : s.runner.exchange = some st) :
    Leads (Step client scope) (cancelStopLossOrder client) s
      (Leaves s (st.withStopLoss (st.stopLossOrder.map .cancelled))) := by
  have same {o} (ho : o = st.stopLossOrder) : Leaves s (st.withStopLoss o) () s := by
    subst ho; exact Leaves.self h
  unfold cancelStopLossOrder
  rw [leads_exchange?_bind, h]
  cases ho : st.stopLossOrder with
  | none =>
      simp only [Option.bind_some, ho]
      exact Leads.pure (same ho.symm)
  | some o =>
      simp only [Option.bind_some, ho]
      split
      · rename_i hc
        have : o.cancelled = o := by cases o; cases hc; rfl
        exact Leads.pure (same (by rw [Option.map_some, this, ho]))
      · rw [leads_instrumentId_bind]
        refine leads_ask_bind h trivial fun _ w => ?_
        exact leads_exchangeMut h (by simp [ho]) (.stop h (.cancelled ho)) rfl

/-- Nothing but a cancel was added to the log. -/
def CancelsAtMost (s t : Ctx F W) : Prop :=
  t.log = s.log ∨ ∃ ex instId id r, t.log = .call ex (.cancelOrder instId id) r :: s.log

theorem cancelTrackedEntryOrder_leads (h : s.runner.exchange = some st) (id : Text) :
    Leads (Step client .fill) (cancelTrackedEntryOrder client id) s fun _ t =>
      CancelsAtMost s t := by
  unfold cancelTrackedEntryOrder
  refine leads_exchange_bind h ?_
  cases ho : st.entryOrder with
  | none => exact Leads.pure (.inl rfl)
  | some o =>
      dsimp only
      split
      · exact Leads.pure (.inl rfl)
      · rename_i hid
        have hid : o.clientOrderId = id := by
          simp only [ne_eq, not_or, not_not] at hid
          exact hid.1
        subst hid
        rw [leads_instrumentId_bind]
        refine leads_ask_bind h trivial fun _ w => ?_
        exact leads_exchangeMut h (by rw [ho, updateIf_some]) (.entry rfl h (.cancelled ho))
          (.inr ⟨_, _, _, _, rfl⟩)

end OkxTrading
