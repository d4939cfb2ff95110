import OkxTrading.Strategy.Steps.TakeProfit

/-!
# Steps of the entry order

* `refreshEntryOrder_leads` — the entry order is looked up, its new fill opens or enlarges the
  position, and it is dropped only where the answer says it is no longer live.
-/

namespace OkxTrading

open Effect OrderId

variable {F W : Type} {client : OkxClient F W} {scope : Scope} {s : Ctx F W} {st : ExchangeState}

/-! ## The entry order -/

theorem entryAccountingDelta_eq_ok {a : OkxSpotFillAccounting} {o : TrackedOrder}
    {r : Decimal × Decimal} (h : entryAccountingDelta a o = .ok r) :
    r.1 = a.baseChange - o.lastAccountedBaseChange ∧ 0 < r.1 := by
  simp only [entryAccountingDelta, bind_eq_ok, ensure_eq_ok, pure_eq_ok, exists_const] at h
  obtain ⟨h1, _, _, rfl⟩ := h
  exact ⟨rfl, h1⟩

/-- After the entry's new fill is accounted the entry is still tracked under its id, or dropped,
and the report is still its last answer. -/
def EntryAnswered (t : Ctx F W) (id : Text) (order : OkxOrder) : Prop :=
  lastReport t.log id = some (some order) ∧
    ∃ st, t.runner.exchange = some st ∧ (∀ o, st.entryOrder = some o → o.clientOrderId = id)

theorem keepLiveEntry_leads (h : s.runner.exchange = some st) (id : Text) (order : OkxOrder)
    (fill : Decimal) :
    Leads (Step client .fill) (keepLiveEntry client id order fill) s fun _ t =>
      CancelsAtMost s t := by
  unfold keepLiveEntry
  refine leads_lift_bind fun _ _ => leads_unixTimeMs_bind fun _ _ => ?_
  rw [leads_runner_bind]
  refine leads_lift_bind fun _ _ => ?_
  rw [leads_runner_bind]
  split
  · exact cancelTrackedEntryOrder_leads (by exact h) id
  · exact Leads.pure (.inl rfl)

theorem settleEntry_leads {id : Text} {order : OkxOrder} (h : EntryAnswered s id order)
    (hlive : order.isLive = false) (fill : Decimal) :
    Leads (Step client .fill) (settleEntry order fill) s fun _ t => CancelsAtMost s t := by
  obtain ⟨hans, st, hst, hid⟩ := h
  unfold settleEntry
  split
  · cases ho : st.entryOrder with
    | none =>
        -- A fill of the take-profit has dropped the entry order already.
        have hsame : ({ st with entryOrder := none } : ExchangeState) = st := by
          cases st; cases ho; rfl
        refine (wp_exchangeMut hst _).2 ⟨?_, fun _ _ => .inl rfl⟩
        rw [hsame, withExchange_self hst]
    | some o =>
        refine leads_exchangeMut hst rfl (.entry rfl hst (.closed ho ?_ hlive)) (.inl rfl)
        rw [hid o ho]; exact hans
  · exact Leads.pure (.inl rfl)

variable [F64 F]

theorem nextOpenPosition_eq_ok {self : Runner F} {quantity averagePrice : Decimal}
    {r : Bool × OpenPosition} (h : self.exchange = some st)
    (hr : self.nextOpenPosition quantity averagePrice = .ok r) :
    r.1 = st.position.isSome ∧
      r.2.quantity = st.position.elim 0 OpenPosition.quantity + quantity := by
  simp only [Runner.nextOpenPosition, Runner.exchangeState, h, ok_bind] at hr
  cases hp : st.position with
  | none =>
      simp only [hp, bind_eq_ok, pure_eq_ok] at hr
      obtain ⟨_, _, _, rfl, rfl⟩ := hr
      exact ⟨rfl, by simp⟩
  | some p =>
      simp only [hp, bind_eq_ok, pure_eq_ok] at hr
      obtain ⟨_, _, _, rfl, rfl⟩ := hr
      exact ⟨rfl, rfl⟩

/-- The part of `open_position` after the position is set. -/
theorem protectOpenedPosition_leads (hs : Tagged s) (hadPosition : Bool) :
    Leads (Step client .refresh) (do
      ensureStopLossOrder client
      (if hadPosition then refreshTakeProfitOrder client else pure ())
      ensureTakeProfitOrder client) s Any := by
  obtain ⟨st, h, htag⟩ := hs
  refine leads_bind ⟨st, h, htag⟩ (ensureStopLossOrder_leads h) fun _ t _ ht => ?_
  refine leads_bind (P := Any) ht ?_ ?_
  · split
    · exact refreshTakeProfitOrder_leads ht
    · exact Leads.pure trivial
  · rintro _ u - ⟨st', h', -⟩
    exact (ensureTakeProfitOrder_leads (by decide) h').mono fun _ _ _ => trivial

/-- The report is accounted: it has no new fill, or its fill was accounted in one step, followed by
steps that leave the entry alone. -/
def EntryReportAccounted (client : OkxClient F W) (s : Ctx F W) (st : ExchangeState)
    (o : TrackedOrder) (fill : Decimal) (t : Ctx F W) : Prop :=
  (o.lastFillSize = fill ∧ t = s) ∨ ∃ n st', EntryAccount s.log st n st' ∧
    Relation.ReflTransGen (Step client .refresh) ((s.noted n).withExchange (some st')) t

theorem accountEntryFill_leads {o : TrackedOrder} {order : OkxOrder} {fill delta : Decimal}
    {price : Option Decimal} {context : Message} (h : s.runner.exchange = some st)
    (htag : st.Tagged (strategyTag s.runner.instanceId)) (ho : st.entryOrder = some o)
    (report : Reported s.log o.clientOrderId order fill)
    (hdelta : cumulativeFillDelta context fill o.lastFillSize = .ok delta) :
    Leads (Step client .fill) (accountEntryFill client o order fill delta price) s fun _ t =>
      EntryAnswered t o.clientOrderId order ∧ EntryReportAccounted client s st o fill t := by
  obtain ⟨-, -, hle, rfl⟩ := cumulativeFillDelta_eq_ok.1 hdelta
  have hid : HasPurpose (strategyTag s.runner.instanceId) .entry o.clientOrderId := by
    have := htag.entry
    rwa [ho] at this
  unfold accountEntryFill
  split
  · rename_i hpos
    refine leads_exchange_bind h (leads_lift_bind fun a ha => leads_lift_bind fun r hr => ?_)
    obtain ⟨hamount, hamount_pos⟩ := entryAccountingDelta_eq_ok hr
    rw [leads_runner_bind]
    refine leads_lift_bind fun p hp => ?_
    obtain ⟨-, hquantity⟩ := nextOpenPosition_eq_ok h hp
    rw [hamount] at hamount_pos hquantity ⊢
    show wp _ s _
    rw [wp_bind_note]
    unfold updateEntryTracking
    refine wp_bind_exchangeMut_of { st with entryOrder := some (o.entryAccounted fill a price) }
      h (by rw [ho, updateIf_some]; rfl) ?_
    unfold openPosition
    refine wp_bind_exchangeMut_of
      { st with entryOrder := some (o.entryAccounted fill a price), position := some p.2 }
      (withExchange_exchange _) rfl ?_
    -- Tracking and position change in one step.
    have haccount : EntryAccount s.log st
        (.entryFill o.clientOrderId (a.baseChange - o.lastAccountedBaseChange))
        { st with entryOrder := some (o.entryAccounted fill a price), position := some p.2 } :=
      .fill ho ⟨report, ha, sub_pos.1 hpos⟩ hamount_pos hquantity
    have hstep : Step client .fill s _ := .entryFill rfl h haccount
    refine Leads.after (.single hstep) ?_
    refine leads_widen Scope.refresh_le_fill ((leads_entryFrame rfl rfl
      (protectOpenedPosition_leads (step_tagged hstep ⟨st, h, htag⟩) p.1)).with_steps.mono ?_)
    rintro _ t ⟨⟨-, ht⟩, hsteps⟩
    obtain ⟨⟨st', h', he⟩, -, hl⟩ := ht _ (withExchange_exchange _)
    refine ⟨⟨(hl _ hid).trans report.answer, st', h', fun o' ho' => ?_⟩,
      .inr ⟨_, _, haccount, hsteps⟩⟩
    rcases he with he | he
    · rw [he] at ho'; cases ho'; rfl
    · rw [he] at ho'; cases ho'
  · rename_i hpos
    refine Leads.pure ⟨⟨report.answer, st, h, fun o' ho' => ?_⟩,
      .inl ⟨le_antisymm hle (by linarith), rfl⟩⟩
    rw [ho] at ho'; cases ho'; rfl

/-- What `refresh_entry_order` has done with the order it tracked: asked, accounted the report, and
then cancelled or dropped the order. -/
def EntryRefreshed (client : OkxClient F W) (s : Ctx F W) (st : ExchangeState) (o : TrackedOrder)
    (t : Ctx F W) : Prop :=
  lastReport t.log o.clientOrderId = some none ∨ ∃ u v order fill,
    Step client .fill s u ∧ u.runner = s.runner ∧ Reported u.log o.clientOrderId order fill ∧
      EntryReportAccounted client u st o fill v ∧ CancelsAtMost v t

theorem refreshEntryOrder_leads (hs : Tagged s) (h : s.runner.exchange = some st) :
    Leads (Step client .fill) (refreshEntryOrder client) s fun _ t =>
      ∀ o, st.entryOrder = some o → EntryRefreshed client s st o t := by
  obtain ⟨_, hst, htag⟩ := hs
  cases hst.symm.trans h
  unfold refreshEntryOrder
  rw [leads_exchange?_bind, h]
  cases ho : st.entryOrder with
  | none =>
      simp only [Option.bind_some, ho]
      exact Leads.pure fun o hnone => by cases hnone
  | some o =>
      simp only [Option.bind_some, ho]
      have hid := htag.entry
      rw [ho] at hid
      rw [leads_instrumentId_bind]
      have guard : CallGuard .fill (strategyTag s.runner.instanceId) st
          (.order s.runner.instrumentId o.clientOrderId) := .inl ⟨rfl, ⟨o, ho, rfl⟩, hid⟩
      refine Leads.bind (P := fun answer t => Step client .fill s t ∧ t.runner = s.runner ∧
        lastReport t.log o.clientOrderId = some answer) ?_ ?_
      · refine leads_ask h guard fun answer w hw => ⟨?_, rfl, lastReport_order _ _ _ _ _⟩
        have hstep : Step client .fill s _ := Step.call h _ guard
        rw [hw] at hstep
        exact hstep
      rintro answer u ⟨hstep, hrunner, hanswer⟩
      have hu : u.runner.exchange = some st := by rw [hrunner]; exact h
      cases answer with
      | none =>
          refine Leads.pure fun o' ho' => ?_
          cases ho'
          exact Or.inl hanswer
      | some order =>
          refine leads_lift_bind fun fill hfill => leads_lift_bind fun delta hdelta => ?_
          refine leads_lift_bind fun price _ => ?_
          have report : Reported u.log o.clientOrderId order fill := ⟨hanswer, hfill⟩
          refine Leads.bind
            (accountEntryFill_leads hu (by rw [hrunner]; exact htag) ho report hdelta)
            fun _ v hv => ?_
          have done : ∀ t, CancelsAtMost v t → ∀ o', some o = some o' →
              EntryRefreshed client s st o' t := by
            rintro t ht o' ho'
            cases ho'
            exact .inr ⟨u, v, order, fill, hstep, hrunner, report, hv.2, ht⟩
          split
          · obtain ⟨⟨-, st', h', -⟩, -⟩ := hv
            exact (keepLiveEntry_leads h' _ _ _).mono fun _ t ht => done t ht
          · rename_i hlive
            exact (settleEntry_leads hv.1 (by simpa using hlive) _).mono fun _ t ht => done t ht

end OkxTrading
