import OkxTrading.Strategy.Scripted
import OkxTrading.Strategy.Steps.Operations

/-!
# Every submitted order is admissible

Whatever the client answers: each entry, take-profit, stop trigger and market exit a run submits
has the size, the price and the trigger its instrument, its fees and its position allow.

* `Call.Admissible` — what an order must satisfy in the state and at the point of the log where it
  is submitted.
* `Sound` — the invariant: admissible so far, and every stop trigger below its average price.
* `placeTakeProfit_sound`, `placeStopLossOrder_sound`, … — the five places that submit.
* `runLifecycle_admissible` — the result over whole runs, shutdown included.
-/

namespace OkxTrading

open Effect OrderId

set_option linter.unusedSectionVars false

variable {F W : Type}

/-! ## Admissible orders -/

/-- A whole number of steps. -/
def MultipleOf (step value : Decimal) : Prop := ∃ k : ℤ, k * step = value

/-- The ticker a client answered with. -/
def Event.ticker : Event F → Option OkxTicker
  | .call _ (.ticker _) (.ok ticker) => some ticker
  | _ => none

/-- The runner as a fee answer configures it; an answer it refuses leaves the rates. -/
def Event.configured (start : Runner F) : Event F → Option (Runner F)
  | .call _ (.spotTradeFee _) (.ok fee) => (start.configureFeeSchedule fee).toOption
  | _ => none

/-- The maker and the taker cost rate in force after this log. -/
def feeRates (start : Runner F) (log : List (Event F)) : Option Decimal × Option Decimal :=
  let configured := (log.findSome? (Event.configured start)).getD start
  (configured.entryFeeCostRate, configured.exitFeeCostRate)

/-- A buy below the last bid, of a size that can still be sold after the maker fee, and within the
notional cap. -/
structure EntryAdmissible (start : Runner F) (log : List (Event F)) (st : ExchangeState)
    (size price : Decimal) : Prop where
  tick : ∃ tickSize, st.instrument.tickSize = .ok tickSize ∧ MultipleOf tickSize price
  bid : ∃ ticker bid, log.findSome? Event.ticker = some ticker ∧ ticker.bidDecimal = .ok bid ∧
    price < bid
  sized : ∃ lotSize minSize fee, st.instrument.lotSize = .ok lotSize ∧
    st.instrument.minSize = .ok minSize ∧ (feeRates start log).1 = some fee ∧
    MultipleOf lotSize size ∧ minSize ≤ size ∧
    minSize ≤ ⌊size * (1 - fee) / lotSize⌋ * lotSize
  notional : ∀ maxQuoteNotional, start.maxQuoteNotional = some maxQuoteNotional →
    ∃ fee, (feeRates start log).1 = some fee ∧ size * price * (1 + fee) ≤ maxQuoteNotional

/-- A sell of no more than the position, at a price that recovers its average after the fee. -/
structure TakeProfitAdmissible (start : Runner F) (log : List (Event F))
    (st : ExchangeState) (size price : Decimal) : Prop where
  sized : ∃ lotSize p, st.instrument.lotSize = .ok lotSize ∧ st.position = some p ∧
    MultipleOf lotSize size ∧ size ≤ p.quantity
  priced : ∃ tickSize fee p, st.instrument.tickSize = .ok tickSize ∧
    (feeRates start log).2 = some fee ∧ st.position = some p ∧ MultipleOf tickSize price ∧
    p.averagePrice ≤ price * (1 - fee)

/-- A sell of at least the minimum size and no more than the position. -/
def ExitAdmissible (st : ExchangeState) (size : Decimal) : Prop :=
  ∃ lotSize minSize p, st.instrument.lotSize = .ok lotSize ∧
    st.instrument.minSize = .ok minSize ∧ st.position = some p ∧
    MultipleOf lotSize size ∧ minSize ≤ size ∧ size ≤ p.quantity

/-- A trigger below the average price of the position. -/
def TriggerAdmissible (st : ExchangeState) (triggerPrice : Decimal) : Prop :=
  ∃ tickSize p, st.instrument.tickSize = .ok tickSize ∧ st.position = some p ∧
    MultipleOf tickSize triggerPrice ∧ triggerPrice < p.averagePrice

/-- The calls that submit or change an order. -/
def Call.submits : Call → Bool
  | .placeOrder _ _ _ _ _ _ | .amendOrder _ _ _ _ _ | .placeTriggerOrder _ _ _ _ _ => true
  | _ => false

/-- What the four kinds of orders must satisfy; no other order is submitted. -/
def Call.Admissible (start : Runner F) (log : List (Event F)) (st : ExchangeState) :
    Call → Prop
  | .placeOrder _ .buy .postOnly size (some price) _ => EntryAdmissible start log st size price
  | .placeOrder _ .sell .limit size (some price) _
  | .amendOrder _ .sell _ (some size) (some price) => TakeProfitAdmissible start log st size price
  | .placeOrder _ .sell .market size none _ => ExitAdmissible st size
  | .placeTriggerOrder _ .sell size triggerPrice _ =>
      ExitAdmissible st size ∧ TriggerAdmissible st triggerPrice
  | _ => False

/-- The call sends an order. -/
def Event.submits : Event F → Bool
  | .call _ c _ => c.submits
  | .note _ _ => false

/-- A submission has a state to be admissible in. -/
def Event.Admissible (start : Runner F) (log : List (Event F)) : Event F → Prop
  | .call ex c _ => c.submits = true → ∃ st, ex = some st ∧ c.Admissible start log st
  | .note _ _ => True

/-- Each entry is admissible after the entries before it. -/
def AllAdmissible (start : Runner F) (log : List (Event F)) : Prop :=
  ∀ e older, e :: older <:+ log → e.Admissible start older

/-- Exact conversion: a positive value becomes a positive decimal. -/
def F64.Exact (F : Type) [F64 F] : Prop :=
  ∀ (x : F) (d : Decimal), F64.lt (F64.ofNat 0) x = true → F64.toDecimal x = some d → 0 < d

theorem exact_rat : F64.Exact ℚ := by
  intro x d hx hd
  obtain rfl : x = d := Option.some.inj hd
  have hx : decide (((0 : ℕ) : ℚ) < x) = true := hx
  simpa using hx

/-! ## The invariant -/

/-- The stop trigger lies below the average price. -/
def OpenPosition.Priced (self : OpenPosition) : Prop := self.stopLossTrigger < self.averagePrice

/-- The average price of a position is positive. -/
def ExchangeState.Priced (self : ExchangeState) : Prop := ∀ p ∈ self.position, p.Priced

/-- The settings of the runner are those of `start`, its fees those of the log, and every
submission so far was admissible. -/
structure Sound (start : Runner F) (s : Ctx F W) : Prop where
  multiple : 0 < s.runner.stopLossAtrMultiple
  cap : s.runner.maxQuoteNotional = start.maxQuoteNotional
  fees : (s.runner.entryFeeCostRate, s.runner.exitFeeCostRate) = feeRates start s.log
  priced : ∀ st ∈ s.runner.exchange, st.Priced
  calls : AllAdmissible start s.log

section Rules

variable {client : OkxClient F W} {start : Runner F} {s : Ctx F W} {α β : Type}

theorem allAdmissible_cons {e : Event F} {log : List (Event F)} (he : e.Admissible start log)
    (hlog : AllAdmissible start log) : AllAdmissible start (e :: log) := by
  intro e' older h
  rcases List.suffix_cons_iff.1 h with heq | h
  · cases heq
    exact he
  · exact hlog e' older h

theorem feeRates_cons {e : Event F} {log : List (Event F)} (he : e.configured start = none) :
    feeRates start (e :: log) = feeRates start log := by
  unfold feeRates
  rw [List.findSome?_cons, he]

/-- The calls that are neither submissions nor requests for the fees. -/
def Call.plain : Call → Bool
  | .placeOrder _ _ _ _ _ _ | .amendOrder _ _ _ _ _ | .placeTriggerOrder _ _ _ _ _ => false
  | .spotTradeFee _ => false
  | _ => true

theorem configured_of_ne_fee {c : Call} (hc : ∀ instId, c ≠ .spotTradeFee instId)
    (ex : Option ExchangeState) (r : Except Stop (c.Reply F)) :
    (Event.call ex c r).configured start = none := by
  cases c with
  | spotTradeFee instId => exact absurd rfl (hc instId)
  | _ => rfl

/-- An answer keeps the invariant where its call was admissible. -/
theorem Sound.answered {c : Call} {r : Except Stop (c.Reply F)} {w : W} (hs : Sound start s)
    (hc : ∀ instId, c ≠ .spotTradeFee instId)
    (he : (Event.call s.runner.exchange c r).Admissible start s.log) :
    Sound start (s.answered c r w) where
  multiple := hs.multiple
  cap := hs.cap
  fees := hs.fees.trans (feeRates_cons (configured_of_ne_fee hc _ _)).symm
  priced := hs.priced
  calls := allAdmissible_cons he hs.calls

theorem Sound.plain {c : Call} (r : Except Stop (c.Reply F)) (w : W) (hs : Sound start s)
    (hc : c.plain = true) : Sound start (s.answered c r w) := by
  refine hs.answered ?_ ?_
  · rintro instId rfl
    cases hc
  · intro hsub
    have : c.submits = false := by cases c <;> first | rfl | cases hc
    rw [this] at hsub
    cases hsub

theorem Sound.noted (hs : Sound start s) (n : Note) : Sound start (s.noted n) where
  multiple := hs.multiple
  cap := hs.cap
  fees := hs.fees.trans (feeRates_cons rfl).symm
  priced := hs.priced
  calls := allAdmissible_cons trivial hs.calls

theorem Sound.world (hs : Sound start s) (w : W) : Sound start { s with world := w } :=
  ⟨hs.multiple, hs.cap, hs.fees, hs.priced, hs.calls⟩

theorem Sound.withExchange {st : ExchangeState} (hs : Sound start s) (hst : st.Priced) :
    Sound start (s.withExchange (some st)) :=
  ⟨hs.multiple, hs.cap, hs.fees, fun _ h => by cases h; exact hst, hs.calls⟩

/-- The programs that keep the invariant. -/
abbrev Keeps (start : Runner F) (x : Run F W α) : Prop := Preserves (Sound start) x

theorem keeps_lift (r : Result α) : Keeps start (liftM r : Run F W α) :=
  fun _ hs => wp_lift (fun _ _ => hs) fun _ _ => hs

theorem keeps_lift_bind {r : Result α} {f : α → Run F W β}
    (hf : ∀ a, r = .ok a → Keeps start (f a)) : Keeps start ((liftM r : Run F W α) >>= f) :=
  fun s hs => wp_bind_lift (fun a ha => hf a ha s hs) fun _ _ => hs

theorem keeps_runner_bind {f : Runner F → Run F W β}
    (hf : ∀ self, 0 < self.stopLossAtrMultiple → Keeps start (f self)) :
    Keeps start (runner >>= f) :=
  fun s hs => hf s.runner hs.multiple s hs

theorem keeps_instrumentId_bind {f : Text → Run F W β} (hf : ∀ instId, Keeps start (f instId)) :
    Keeps start (instrumentId >>= f) :=
  fun s hs => hf s.runner.instrumentId s hs

theorem keeps_exchange?_bind {f : Option ExchangeState → Run F W β}
    (hf : ∀ ex, (∀ st ∈ ex, st.Priced) → Keeps start (f ex)) : Keeps start (exchange? >>= f) :=
  fun s hs => hf s.runner.exchange hs.priced s hs

theorem wp_bind_exchange_of {f : ExchangeState → Run F W β}
    {Q : Except Stop β → Ctx F W → Prop}
    (hsome : ∀ st, s.runner.exchange = some st → wp (f st) s Q) (hnone : ∀ e, Q (.error e) s) :
    wp (exchange >>= f) s Q := by
  cases h : s.runner.exchange with
  | some st => exact (wp_bind_exchange h f).2 (hsome st h)
  | none =>
      rw [wp_bind]
      unfold wp exchange
      rw [h]
      exact hnone _

theorem keeps_exchange_bind {f : ExchangeState → Run F W β}
    (hf : ∀ st, st.Priced → Keeps start (f st)) : Keeps start (exchange >>= f) :=
  fun s hs => wp_bind_exchange_of (fun st h => hf st (hs.priced st h) s hs) fun _ => hs

theorem keeps_exchangeMut {g : ExchangeState → ExchangeState}
    (hg : ∀ st, st.Priced → (g st).Priced) : Keeps (W := W) start (exchangeMut g) := by
  intro s hs
  cases h : s.runner.exchange with
  | some st => exact (wp_exchangeMut h g).2 (hs.withExchange (hg st (hs.priced st h)))
  | none =>
      unfold wp exchangeMut
      rw [h]
      exact hs

theorem keeps_note (n : Note) : Keeps (W := W) start (note n) := fun _ hs => hs.noted n

theorem keeps_ask {c : Call} (hc : c.plain = true) : Keeps start (ask client c) :=
  fun _ hs => hs.plain _ _ hc

theorem keeps_unixTimeMs : Keeps start (unixTimeMs client) := by
  intro s hs
  unfold wp unixTimeMs
  dsimp only
  split
  · exact hs.world _
  · exact hs.world _

/-- A request that neither submits nor configures fees, and what follows its answer. -/
theorem keeps_ask_bind {c : Call} {f : c.Reply F → Run F W β} (hc : c.plain = true)
    (hf : ∀ a, Keeps start (f a)) : Keeps start (ask client c >>= f) :=
  .bind (keeps_ask hc) hf

end Rules

/-! ## Sizes and prices -/

theorem quantizeDecimalDown_multipleOf {value step d : Decimal}
    (h : quantizeDecimalDown value step = .ok d) : MultipleOf step d :=
  ⟨_, (quantizeDecimalDown_eq_ok.1 h).2⟩

theorem quantizeDecimalUp_multipleOf {value step d : Decimal}
    (h : quantizeDecimalUp value step = .ok d) : MultipleOf step d :=
  ⟨_, (quantizeDecimalUp_eq_ok.1 h).2⟩

theorem lotSize_pos {instrument : OkxInstrument} {lotSize : Decimal}
    (h : instrument.lotSize = .ok lotSize) : 0 < lotSize := (parsePositiveDecimal_eq_ok.1 h).2

theorem tickSize_pos {instrument : OkxInstrument} {tickSize : Decimal}
    (h : instrument.tickSize = .ok tickSize) : 0 < tickSize := (parsePositiveDecimal_eq_ok.1 h).2

theorem exitAdmissible_of_quantized {st : ExchangeState} {p : OpenPosition}
    {lotSize minSize size : Decimal} (hlot : st.instrument.lotSize = .ok lotSize)
    (hmin : st.instrument.minSize = .ok minSize) (hp : st.position = some p)
    (hsize : quantizeDecimalDown p.quantity lotSize = .ok size) (hle : minSize ≤ size) :
    ExitAdmissible st size :=
  ⟨lotSize, minSize, p, hlot, hmin, hp, quantizeDecimalDown_multipleOf hsize, hle,
    quantizeDecimalDown_le (lotSize_pos hlot) hsize⟩

theorem exchangeState_eq_ok {st : ExchangeState} {self : Runner F} : self.exchangeState = .ok st ↔
    self.exchange = some st := by
  unfold Runner.exchangeState
  split <;> simp_all

theorem checkedExitFeeCostRate_eq_ok {F : Type} {self : Runner F} {fee : Decimal}
    (h : self.checkedExitFeeCostRate = .ok fee) : self.exitFeeCostRate = some fee := by
  unfold Runner.checkedExitFeeCostRate at h
  split at h
  · rename_i rate hrate
    simp only [bind_eq_ok, ensure_eq_ok, exists_const, pure_eq_ok] at h
    rw [hrate, h.2]
  · cases h

theorem checkedEntryFeeCostRate_eq_ok {F : Type} {self : Runner F} {fee : Decimal}
    (h : self.checkedEntryFeeCostRate = .ok fee) : self.entryFeeCostRate = some fee := by
  unfold Runner.checkedEntryFeeCostRate at h
  split at h
  · cases h
    assumption
  · cases h

theorem entryPriceFromBid_lt {F : Type} {self : SignalState F} {bid price : Decimal}
    (h : self.entryPriceFromBid bid = .ok (some price)) : price < bid := by
  unfold SignalState.entryPriceFromBid at h
  split at h
  · rename_i offset _
    simp only [bind_eq_ok, ensure_eq_ok, exists_const, pure_eq_ok] at h
    obtain ⟨hpos, h⟩ := h
    split at h
    · cases h
      linarith
    · cases h
  · cases h

theorem entryNotional_le {F : Type} {self : Runner F} {size price cap : Decimal}
    (hcap : self.maxQuoteNotional = some cap)
    (h : self.ensureEntryNotionalWithinCap size price = .ok ()) :
    ∃ fee, self.entryFeeCostRate = some fee ∧ size * price * (1 + fee) ≤ cap := by
  simp only [Runner.ensureEntryNotionalWithinCap, hcap, bind_eq_ok, ensure_eq_ok] at h
  obtain ⟨fee, hfee, hle⟩ := h
  exact ⟨fee, checkedEntryFeeCostRate_eq_ok hfee, hle⟩

section Shapes

variable [F64 F] {client : OkxClient F W} {start : Runner F} {s : Ctx F W} {st : ExchangeState}
  {p : OpenPosition} {α β : Type}

/-- A take-profit shape is admissible for the position it is made for. -/
theorem takeProfitOrderShape_admissible {target : TakeProfitOrderShape} (hs : Sound start s)
    (h : s.runner.exchange = some st) (hp : st.position = some p)
    (htarget : s.runner.takeProfitOrderShape p.quantity p.averagePrice = .ok target) :
    TakeProfitAdmissible start s.log st target.size target.price := by
  simp only [Runner.takeProfitOrderShape, bind_eq_ok, pure_eq_ok, exchangeState_eq_ok, h,
    Option.some.injEq] at htarget
  obtain ⟨st', rfl, raw, hraw, tickSize, htick, price, hprice, _, hclears, lotSize, hlot, size,
    hsize, rfl⟩ := htarget
  simp only [Runner.ensureTakeProfitClearsExitFee, bind_eq_ok, ensure_eq_ok, exists_const]
    at hclears
  obtain ⟨-, -, fee, hfee, hle⟩ := hclears
  have hrate : (feeRates start s.log).2 = some fee := by
    rw [← hs.fees]
    exact checkedExitFeeCostRate_eq_ok hfee
  exact {
    sized := ⟨lotSize, p, hlot, hp, quantizeDecimalDown_multipleOf hsize,
      quantizeDecimalDown_le (lotSize_pos hlot) hsize⟩
    priced := ⟨tickSize, fee, p, htick, hrate, hp, quantizeDecimalUp_multipleOf hprice, hle⟩ }

/-- The trigger of a new position lies below its average price. -/
theorem stopLossTrigger_lt {self : Runner F} (hexact : F64.Exact F)
    (hmultiple : 0 < self.stopLossAtrMultiple) {averagePrice trigger : Decimal}
    (h : self.stopLossTrigger averagePrice = .ok trigger) : trigger < averagePrice := by
  obtain ⟨-, atr, hatr, -, rfl⟩ := stopLossTrigger_eq_ok.1 h
  have hatr_pos : 0 < atr := by
    unfold Runner.signalAtrDecimal at hatr
    split at hatr
    · simp only [bind_eq_ok, ensure_eq_ok, exists_const, Bool.and_eq_true] at hatr
      obtain ⟨⟨⟨-, hlt⟩, -⟩, hatr⟩ := hatr
      split at hatr
      · rename_i hdec
        cases hatr
        exact hexact _ _ hlt hdec
      · cases hatr
    · cases hatr
  have := mul_pos hmultiple hatr_pos
  linarith

theorem nextOpenPosition_priced {self : Runner F} (hexact : F64.Exact F)
    (hmultiple : 0 < self.stopLossAtrMultiple) {quantity averagePrice : Decimal} {had : Bool}
    (h : self.nextOpenPosition quantity averagePrice = .ok (had, p)) : p.Priced := by
  simp only [Runner.nextOpenPosition, bind_eq_ok] at h
  obtain ⟨st, -, h⟩ := h
  split at h
  · simp only [bind_eq_ok, pure_eq_ok] at h
    obtain ⟨trigger, htrigger, _, rfl, h⟩ := h
    cases h
    exact stopLossTrigger_lt hexact hmultiple htrigger
  · simp only [bind_eq_ok, pure_eq_ok] at h
    obtain ⟨trigger, htrigger, _, rfl, h⟩ := h
    cases h
    exact stopLossTrigger_lt hexact hmultiple htrigger

end Shapes

/-! ## Changes and cancels that submit nothing -/

section Cancels

variable [F64 F] {client : OkxClient F W} {start : Runner F}

theorem clearPositionState_keeps : Keeps (W := W) start clearPositionState := by
  intro s hs
  unfold clearPositionState
  rw [wp_bind_note, wp_modify]
  have hs := hs.noted .cleared
  refine ⟨hs.multiple, hs.cap, hs.fees, ?_, hs.calls⟩
  intro st hst p hp
  obtain ⟨st', -, rfl⟩ := Option.map_eq_some_iff.1 hst
  cases hp

theorem reduced_priced {p p' : OpenPosition} {amount minSize : Decimal} (hp : p.Priced)
    (h : p' ∈ p.reduced amount minSize) : p'.Priced := by
  simp only [OpenPosition.reduced, Option.mem_def, Option.ite_none_left_eq_some,
    Option.some.injEq] at h
  obtain ⟨-, rfl⟩ := h
  exact hp

theorem applyPositionReducingFill_keeps (id : Text) (amount : Decimal) :
    Keeps (W := W) start (applyPositionReducingFill id amount) := by
  refine keeps_exchange_bind fun st _ => keeps_lift_bind fun minSize _ => .bind (keeps_note _)
    fun _ => keeps_exchange_bind fun st hst => ?_
  split
  · rename_i p hp
    refine .bind (keeps_exchangeMut fun _ _ p' hp' => ?_) fun _ => .pure _
    exact reduced_priced (hst p hp) hp'
  · exact .pure _

theorem updateEntryTracking_keeps (id : Text) (fill : Decimal) (price : Option Decimal)
    (a : OkxSpotFillAccounting) (requested : Bool) :
    Keeps (W := W) start (updateEntryTracking id fill price a requested) :=
  keeps_exchangeMut fun _ h => h

theorem updateTakeProfitTracking_keeps (id : Text) (fill : Decimal) (a : OkxSpotFillAccounting) :
    Keeps (W := W) start (updateTakeProfitTracking id fill a) :=
  keeps_exchangeMut fun _ h => h

theorem updateStopLossExitTracking_keeps (id : Text) (fill : Decimal)
    (a : OkxSpotFillAccounting) : Keeps (W := W) start (updateStopLossExitTracking id fill a) :=
  keeps_exchangeMut fun _ h => h

theorem markTakeProfitCancelRequested_keeps (id : Text) :
    Keeps (W := W) start (markTakeProfitCancelRequested id) :=
  keeps_exchangeMut fun _ h => h

theorem cancelIfLive_keeps (id : Text) : Keeps start (cancelIfLive client id) := by
  refine keeps_instrumentId_bind fun _ => .bind (Preserves.attempt (keeps_ask rfl)) fun r => ?_
  split
  · exact .pure _
  · exact .pure _
  · exact .stop _

theorem cancelTrackedEntryOrder_keeps (id : Text) :
    Keeps start (cancelTrackedEntryOrder client id) := by
  refine keeps_exchange_bind fun st _ => ?_
  split
  · split
    · exact .pure _
    · exact keeps_instrumentId_bind fun _ => keeps_ask_bind rfl fun _ =>
        keeps_exchangeMut fun _ h => h
  · exact .pure _

theorem cancelTakeProfitOrder_keeps : Keeps start (cancelTakeProfitOrder client) := by
  refine keeps_exchange?_bind fun ex _ => ?_
  split
  · split
    · exact .pure _
    · exact keeps_instrumentId_bind fun _ => keeps_ask_bind rfl fun _ =>
        markTakeProfitCancelRequested_keeps _
  · exact .pure _

theorem cancelStopLossOrder_keeps : Keeps start (cancelStopLossOrder client) := by
  refine keeps_exchange?_bind fun ex _ => ?_
  split
  · split
    · exact .pure _
    · exact keeps_instrumentId_bind fun _ => keeps_ask_bind rfl fun _ =>
        keeps_exchangeMut fun _ h => h
  · exact .pure _

theorem cancelStopLossExitOrder_keeps : Keeps start (cancelStopLossExitOrder client) := by
  refine keeps_exchange?_bind fun ex _ => ?_
  split
  · split
    · exact .pure _
    · exact keeps_instrumentId_bind fun _ => keeps_ask_bind rfl fun _ =>
        keeps_exchangeMut fun _ h => h
  · exact .pure _

end Cancels

/-! ## The five submissions -/

section Submissions

variable [F64 F] {client : OkxClient F W} {start : Runner F} {s : Ctx F W} {st : ExchangeState}
  {p : OpenPosition}

/-- The invariant holds, and neither the runner nor the last ticker changed. -/
structure Unmoved (start : Runner F) (s t : Ctx F W) : Prop where
  sound : Sound start t
  runner : t.runner = s.runner
  ticker : t.log.findSome? Event.ticker = s.log.findSome? Event.ticker

theorem ensureLimitQuoteAmount_unmoved (hs : Sound start s) (amount : Decimal)
    (context : Message) :
    wp (ensureLimitQuoteAmount client amount context) s fun _ t => Unmoved start s t := by
  have hself : Unmoved start s s := ⟨hs, rfl, rfl⟩
  unfold ensureLimitQuoteAmount
  rw [wp_bind_runner]
  split
  · refine wp_bind_lift (fun limit _ => ?_) fun _ _ => hself
    split
    · refine wp_bind_ask (fun rate w => ?_) fun e w => ⟨hs.plain _ w rfl, rfl, rfl⟩
      have hasked : Unmoved start s (s.answered _ (.ok rate) w) := ⟨hs.plain _ w rfl, rfl, rfl⟩
      exact wp_lift (fun _ _ => hasked) fun _ _ => hasked
    · exact hself
  · exact hself

theorem placeTakeProfit_sound (hs : Sound start s) (h : s.runner.exchange = some st)
    (hp : st.position = some p) :
    wp (placeTakeProfit client p.quantity p.averagePrice) s fun _ t => Sound start t := by
  unfold placeTakeProfit
  rw [wp_bind_runner]
  refine wp_bind_lift (fun target htarget => ?_) fun _ _ => hs
  refine (wp_bind_exchange h _).2 ?_
  refine wp_bind_lift (fun minSize _ => ?_) fun _ _ => hs
  refine wp_bind_lift (fun _ _ => ?_) fun _ _ => hs
  refine wp_bind_lift (fun _ _ => ?_) fun _ _ => hs
  refine wp_bind_of (ensureLimitQuoteAmount_unmoved hs _ _) ?_ fun _ _ ht => ht.sound
  intro _ t ht
  refine wp_bind_newClientOrderId fun id w _ => ?_
  rw [wp_bind_instrumentId]
  have hadm := takeProfitOrderShape_admissible ht.sound (ht.runner ▸ h) hp (ht.runner ▸ htarget)
  have hplaced := fun r w' => (ht.sound.world w).answered (w := w') (r := r)
    (c := .placeOrder t.runner.instrumentId .sell .limit target.size (some target.price) id)
    (fun _ hc => by cases hc) fun _ => ⟨st, ht.runner ▸ h, hadm⟩
  refine wp_bind_ask (fun _ w' => ?_) fun _ w' => hplaced _ w'
  refine keeps_exchangeMut ?_ _ (hplaced _ w')
  exact fun _ hst => hst

theorem amendTakeProfitOrder_keeps : Keeps start (amendTakeProfitOrder client) := by
  intro s hs
  unfold amendTakeProfitOrder
  rw [wp_bind_exchange?]
  split
  · rename_i state h
    split
    · rename_i p hp
      split
      · split
        · exact hs
        · split
          · exact cancelTakeProfitOrder_keeps s hs
          · rw [wp_bind_runner]
            refine wp_bind_lift (fun target htarget => ?_) fun _ _ => hs
            refine wp_bind_lift (fun _ _ => ?_) fun _ _ => hs
            refine wp_bind_of (ensureLimitQuoteAmount_unmoved hs _ _) ?_ fun _ _ ht => ht.sound
            intro _ t ht
            refine (wp_bind_instrumentId _).2 ?_
            have hadm := takeProfitOrderShape_admissible ht.sound (ht.runner ▸ h) hp
              (ht.runner ▸ htarget)
            refine wp_ask fun r w => ht.sound.answered (fun _ hc => by cases hc) fun _ => ?_
            exact ⟨state, ht.runner ▸ h, hadm⟩
      · exact hs
    · exact hs
  · exact hs

theorem placeStopLossOrder_sound (hs : Sound start s) (h : s.runner.exchange = some st)
    (hp : st.position = some p) :
    wp (placeStopLossOrder client p) s fun _ t => Sound start t := by
  unfold placeStopLossOrder
  refine (wp_bind_exchange h _).2 ?_
  refine wp_bind_lift (fun lotSize hlot => ?_) fun _ _ => hs
  refine wp_bind_lift (fun size hsize => ?_) fun _ _ => hs
  refine wp_bind_lift (fun minSize hmin => ?_) fun _ _ => hs
  refine wp_bind_lift (fun _ hle => ?_) fun _ _ => hs
  refine wp_bind_lift (fun _ _ => ?_) fun _ _ => hs
  refine wp_bind_lift (fun tickSize htick => ?_) fun _ _ => hs
  refine wp_bind_lift (fun trigger htrigger => ?_) fun _ _ => hs
  refine wp_bind_newClientOrderId fun id w _ => ?_
  rw [wp_bind_instrumentId]
  have hexit := exitAdmissible_of_quantized hlot hmin hp hsize (ensure_eq_ok.1 hle)
  have hbelow : TriggerAdmissible st trigger :=
    ⟨tickSize, p, htick, hp, quantizeDecimalDown_multipleOf htrigger,
      (quantizeDecimalDown_le (tickSize_pos htick) htrigger).trans_lt (hs.priced st h p hp)⟩
  have hplaced := fun r w' => (hs.world w).answered (w := w') (r := r)
    (c := .placeTriggerOrder s.runner.instrumentId .sell size trigger id)
    (fun _ hc => by cases hc) fun _ => ⟨st, h, hexit, hbelow⟩
  refine wp_bind_ask (fun _ w' => ?_) fun _ w' => hplaced _ w'
  refine keeps_exchangeMut ?_ _ (hplaced _ w')
  exact fun _ hst => hst

theorem marketReference_unmoved (hs : Sound start s) (price : Option Decimal) :
    wp (marketReference client price) s fun _ t => Sound start t ∧ t.runner = s.runner := by
  unfold marketReference
  split
  · exact ⟨hs, rfl⟩
  · rw [wp_bind_instrumentId]
    refine wp_bind_ask (fun ticker w => ?_) fun e w => ⟨hs.plain _ w rfl, rfl⟩
    have hasked : Sound start (s.answered _ (.ok ticker) w) := hs.plain _ w rfl
    exact wp_lift (fun _ _ => ⟨hasked, rfl⟩) fun _ _ => ⟨hasked, rfl⟩

theorem placeMarketExit_keeps (price : Option Decimal) :
    Keeps start (placeMarketExit client price) := by
  intro s hs
  unfold placeMarketExit
  refine wp_bind_exchange_of (fun st h => ?_) fun _ => hs
  split
  · rename_i p hp
    refine (wp_bind_exchange h _).2 ?_
    refine wp_bind_lift (fun lotSize hlot => ?_) fun _ _ => hs
    refine wp_bind_lift (fun size hsize => ?_) fun _ _ => hs
    refine wp_bind_lift (fun minSize hmin => ?_) fun _ _ => hs
    refine wp_bind_lift (fun _ hle => ?_) fun _ _ => hs
    refine wp_bind_of (marketReference_unmoved hs price) ?_ fun _ _ ht => ht.1
    intro _ t ⟨ht, hr⟩
    refine wp_bind_lift (fun _ _ => ?_) fun _ _ => ht
    refine wp_bind_newClientOrderId fun id w _ => ?_
    rw [wp_bind_instrumentId]
    have hexit := exitAdmissible_of_quantized hlot hmin hp hsize (ensure_eq_ok.1 hle)
    have hplaced := fun r w' => (ht.world w).answered (w := w') (r := r)
      (c := .placeOrder t.runner.instrumentId .sell .market size none id)
      (fun _ hc => by cases hc) fun _ => ⟨st, hr ▸ h, hexit⟩
    refine wp_bind_ask (fun _ w' => ?_) fun _ w' => hplaced _ w'
    refine keeps_exchangeMut ?_ _ (hplaced _ w')
    exact fun _ hst => hst
  · exact hs

omit [F64 F] in
/-- What `evaluate_entry` has checked when it submits. -/
theorem entryAdmissible_of_checks {ticker : OkxTicker} {bid rawPrice price quantity size fee
    tickSize lotSize minSize net : Decimal} (hs : Sound start s)
    (hticker : s.log.findSome? Event.ticker = some ticker) (hbid : ticker.bidDecimal = .ok bid)
    (hraw : s.runner.signal.entryPriceFromBid bid = .ok (some rawPrice))
    (htick : st.instrument.tickSize = .ok tickSize)
    (hprice : quantizeDecimalDown rawPrice tickSize = .ok price)
    (hlot : st.instrument.lotSize = .ok lotSize)
    (hsize : quantizeDecimalDown quantity lotSize = .ok size)
    (hmin : st.instrument.minSize = .ok minSize) (hle : minSize ≤ size)
    (hfee : s.runner.checkedEntryFeeCostRate = .ok fee)
    (hnet : quantizeDecimalDown (size * (1 - fee)) lotSize = .ok net) (hnetle : minSize ≤ net)
    (hcap : s.runner.ensureEntryNotionalWithinCap size price = .ok ()) :
    EntryAdmissible start s.log st size price where
  tick := ⟨tickSize, htick, quantizeDecimalDown_multipleOf hprice⟩
  bid := ⟨ticker, bid, hticker, hbid,
    (quantizeDecimalDown_le (tickSize_pos htick) hprice).trans_lt (entryPriceFromBid_lt hraw)⟩
  sized := by
    have hrate : (feeRates start s.log).1 = some fee := by
      rw [← hs.fees]
      exact checkedEntryFeeCostRate_eq_ok hfee
    refine ⟨lotSize, minSize, fee, hlot, hmin, hrate, quantizeDecimalDown_multipleOf hsize, hle, ?_⟩
    rw [(quantizeDecimalDown_eq_ok.1 hnet).2]
    exact hnetle
  notional := by
    intro cap hcap'
    rw [← hs.fees]
    exact entryNotional_le (hs.cap.trans hcap') hcap

theorem evaluateEntry_keeps : Keeps start (evaluateEntry client) := by
  intro s hs
  unfold evaluateEntry
  rw [wp_bind_runner]
  refine wp_bind_lift (fun met _ => ?_) fun _ _ => hs
  split
  · rw [wp_bind_instrumentId]
    refine wp_bind_ask (fun ticker w => ?_) fun _ w => hs.plain _ w rfl
    have hasked : Sound start (s.answered _ (.ok ticker) w) := hs.plain _ w rfl
    refine wp_bind_lift (fun bid hbid => ?_) fun _ _ => hasked
    rw [wp_bind_runner]
    refine wp_bind_lift (fun rawPrice? hraw => ?_) fun _ _ => hasked
    split
    · refine wp_bind_exchange_of (fun st h => ?_) fun _ => hasked
      refine wp_bind_lift (fun tickSize htick => ?_) fun _ _ => hasked
      refine wp_bind_lift (fun price hprice => ?_) fun _ _ => hasked
      rw [wp_bind_runner]
      refine wp_bind_lift (fun quantity _ => ?_) fun _ _ => hasked
      refine wp_bind_lift (fun lotSize hlot => ?_) fun _ _ => hasked
      refine wp_bind_lift (fun size hsize => ?_) fun _ _ => hasked
      refine wp_bind_lift (fun minSize hmin => ?_) fun _ _ => hasked
      refine wp_bind_lift (fun _ hle => ?_) fun _ _ => hasked
      rw [wp_bind_runner]
      refine wp_bind_lift (fun fee hfee => ?_) fun _ _ => hasked
      refine wp_bind_lift (fun lotSize' hlot' => ?_) fun _ _ => hasked
      obtain rfl : lotSize = lotSize' := Except.ok.inj (hlot.symm.trans hlot')
      refine wp_bind_lift (fun net hnet => ?_) fun _ _ => hasked
      refine wp_bind_lift (fun minSize' hmin' => ?_) fun _ _ => hasked
      obtain rfl : minSize = minSize' := Except.ok.inj (hmin.symm.trans hmin')
      refine wp_bind_lift (fun _ hnetle => ?_) fun _ _ => hasked
      refine wp_bind_lift (fun _ _ => ?_) fun _ _ => hasked
      rw [wp_bind_runner]
      refine wp_bind_lift (fun _ hcap => ?_) fun _ _ => hasked
      refine wp_bind_of (ensureLimitQuoteAmount_unmoved hasked _ _) ?_ fun _ _ ht => ht.sound
      intro _ t ht
      refine wp_bind_newClientOrderId fun id w' _ => ?_
      rw [wp_bind_instrumentId]
      have hadm : EntryAdmissible start t.log st size price := by
        refine entryAdmissible_of_checks ht.sound (ht.ticker.trans rfl) hbid ?_ htick hprice
          hlot hsize hmin (ensure_eq_ok.1 hle) ?_ hnet (ensure_eq_ok.1 hnetle) ?_
        · rw [ht.runner]; exact hraw
        · rw [ht.runner]; exact hfee
        · rw [ht.runner]; exact hcap
      have hplaced := fun r w'' => (ht.sound.world w').answered (w := w'') (r := r)
        (c := .placeOrder t.runner.instrumentId .buy .postOnly size (some price) id)
        (fun _ hc => by cases hc) fun _ => ⟨st, by rw [ht.runner]; exact h, hadm⟩
      refine wp_bind_ask (fun _ w'' => ?_) fun _ w'' => hplaced _ w''
      refine keeps_exchangeMut ?_ _ (hplaced _ w'')
      exact fun _ hst => hst
    · exact hasked
  · exact hs

end Submissions

/-! ## Protection and fills -/

section Orders

variable [F64 F] {client : OkxClient F W} {start : Runner F}

theorem ensureTakeProfitOrder_keeps : Keeps start (ensureTakeProfitOrder client) := by
  intro s hs
  unfold ensureTakeProfitOrder
  rw [wp_bind_exchange?]
  split
  · rename_i st h
    split
    · rename_i p hp
      split
      · exact hs
      · exact placeTakeProfit_sound hs h hp
    · exact hs
  · exact hs

theorem ensureStopLossOrder_keeps : Keeps start (ensureStopLossOrder client) := by
  intro s hs
  unfold ensureStopLossOrder
  rw [wp_bind_exchange?]
  split
  · rename_i st h
    split
    · rename_i p hp
      split
      · exact hs
      · split
        · split
          · exact hs
          · refine keeps_runner_bind (fun self _ => keeps_lift_bind fun matched _ => ?_) s hs
            split
            · exact .pure _
            · exact cancelStopLossOrder_keeps
        · exact placeStopLossOrder_sound hs h hp
    · exact hs
  · exact hs

theorem ensurePositionProtection_keeps : Keeps start (ensurePositionProtection client) :=
  .bind ensureTakeProfitOrder_keeps fun _ => ensureStopLossOrder_keeps

theorem accountTakeProfitFill_keeps (tracked : TrackedOrder) (fill delta : Decimal)
    (a : OkxSpotFillAccounting) :
    Keeps start (accountTakeProfitFill client tracked fill delta a) := by
  unfold accountTakeProfitFill
  split
  · refine keeps_lift_bind fun amount _ => .bind (applyPositionReducingFill_keeps _ _)
      fun changed => .bind (updateTakeProfitTracking_keeps _ _ _) fun _ => ?_
    split
    · exact .bind cancelStopLossOrder_keeps fun _ => ensureStopLossOrder_keeps
    · exact .pure _
  · exact .pure _

theorem keepLiveTakeProfit_keeps (tracked : TrackedOrder) (order : OkxOrder) (fill : Decimal)
    (a : OkxSpotFillAccounting) :
    Keeps start (keepLiveTakeProfit client tracked order fill a) := by
  unfold keepLiveTakeProfit
  split
  · exact updateTakeProfitTracking_keeps _ _ _
  · refine keeps_exchange_bind fun st _ => ?_
    split
    · exact cancelTakeProfitOrder_keeps
    · refine keeps_runner_bind fun self _ => keeps_lift_bind fun matched _ => ?_
      split
      · exact updateTakeProfitTracking_keeps _ _ _
      · exact amendTakeProfitOrder_keeps

/-- A state change under a condition. -/
theorem keeps_exchangeMut_if {c : Prop} [Decidable c] {g : ExchangeState → ExchangeState}
    (hg : ∀ st, st.Priced → (g st).Priced) :
    Keeps (W := W) start (if c then exchangeMut g else pure ()) := by
  split
  · exact keeps_exchangeMut hg
  · exact .pure _

theorem settleTakeProfit_keeps (order : OkxOrder) (delta : Decimal) :
    Keeps start (settleTakeProfit client order delta) := by
  refine .bind (keeps_exchangeMut_if fun _ h => h) fun _ => keeps_exchange_bind fun st _ => ?_
  split
  · exact .bind cancelStopLossOrder_keeps fun _ => clearPositionState_keeps
  · split
    · exact .bind ensureTakeProfitOrder_keeps fun _ => ensureStopLossOrder_keeps
    · exact .pure _

theorem resubmitMissingTakeProfit_keeps : Keeps start (resubmitMissingTakeProfit client) := by
  refine .bind (keeps_exchangeMut fun _ h => h) fun _ => keeps_exchange_bind fun st _ => ?_
  split
  · exact ensureTakeProfitOrder_keeps
  · exact .pure _

theorem refreshTakeProfitOrder_keeps : Keeps start (refreshTakeProfitOrder client) := by
  refine keeps_exchange?_bind fun ex _ => ?_
  split
  · refine keeps_instrumentId_bind fun _ => keeps_ask_bind rfl fun answer => ?_
    split
    · exact resubmitMissingTakeProfit_keeps
    · refine keeps_lift_bind fun fill _ => keeps_lift_bind fun delta _ =>
        keeps_exchange_bind fun st _ => keeps_lift_bind fun a _ =>
        .bind (accountTakeProfitFill_keeps _ _ _ _) fun _ => ?_
      split
      · exact keepLiveTakeProfit_keeps _ _ _ _
      · exact settleTakeProfit_keeps _ _
  · exact .pure _

theorem openPosition_keeps {p : OpenPosition} (hp : p.Priced) (had : Bool) :
    Keeps start (openPosition client had p) := by
  refine .bind (keeps_exchangeMut fun _ _ p' hp' => by cases hp'; exact hp) fun _ =>
    .bind ensureStopLossOrder_keeps fun _ => .bind ?_ fun _ => ensureTakeProfitOrder_keeps
  split
  · exact refreshTakeProfitOrder_keeps
  · exact .pure _

theorem accountEntryFill_keeps (hexact : F64.Exact F) (tracked : TrackedOrder) (order : OkxOrder)
    (fill delta : Decimal) (price : Option Decimal) :
    Keeps start (accountEntryFill client tracked order fill delta price) := by
  unfold accountEntryFill
  split
  · refine keeps_exchange_bind fun st _ => keeps_lift_bind fun a _ =>
      keeps_lift_bind fun netFill _ => keeps_runner_bind fun self hself =>
      keeps_lift_bind fun next hnext => .bind (keeps_note _) fun _ =>
      .bind (updateEntryTracking_keeps _ _ _ _ _) fun _ => ?_
    exact openPosition_keeps (nextOpenPosition_priced hexact hself hnext) _
  · exact .pure _

theorem keepLiveEntry_keeps (id : Text) (order : OkxOrder) (fill : Decimal) :
    Keeps start (keepLiveEntry client id order fill) := by
  refine keeps_lift_bind fun created _ => .bind keeps_unixTimeMs fun now =>
    keeps_runner_bind fun self _ => keeps_lift_bind fun expired _ =>
      keeps_runner_bind fun self _ => ?_
  split
  · exact cancelTrackedEntryOrder_keeps _
  · exact .pure _

theorem settleEntry_keeps (order : OkxOrder) (fill : Decimal) :
    Keeps (W := W) start (settleEntry order fill) :=
  keeps_exchangeMut_if fun _ h => h

theorem refreshEntryOrder_keeps (hexact : F64.Exact F) :
    Keeps start (refreshEntryOrder client) := by
  refine keeps_exchange?_bind fun ex _ => ?_
  split
  · refine keeps_instrumentId_bind fun _ => keeps_ask_bind rfl fun answer => ?_
    split
    · refine keeps_lift_bind fun fill _ => keeps_lift_bind fun delta _ =>
        keeps_lift_bind fun price _ => .bind (accountEntryFill_keeps hexact _ _ _ _ _) fun _ => ?_
      split
      · exact keepLiveEntry_keeps _ _ _
      · exact settleEntry_keeps _ _
    · exact .pure _
  · exact .pure _

/-! ## The balance, the stop trigger and the market exit -/

theorem reconstructStrategyBalance_keeps (balances : List OkxBalance) :
    Keeps (W := W) start (reconstructStrategyBalance balances) :=
  keeps_exchange_bind fun _ _ => keeps_lift_bind fun _ _ => keeps_runner_bind fun _ _ =>
    keeps_lift_bind fun _ _ => keeps_lift_bind fun _ _ => keeps_lift _

theorem reconcilePositionQuantityFromBalance_keeps :
    Keeps start (reconcilePositionQuantityFromBalance client) := by
  refine keeps_exchange_bind fun st hst => ?_
  split
  · rename_i p hp
    refine keeps_ask_bind rfl fun balances => .bind (reconstructStrategyBalance_keeps _)
      fun balance => .bind (keeps_note _) fun _ => ?_
    split
    · exact .bind clearPositionState_keeps fun _ => .pure _
    · refine .bind (keeps_exchangeMut fun _ _ p' hp' => ?_) fun _ => .pure _
      cases hp'
      exact hst p hp
  · exact .pure _

theorem reconcileTriggeredStopLossOrder_keeps :
    Keeps start (reconcileTriggeredStopLossOrder client) := by
  refine keeps_exchange?_bind fun ex _ => .bind ?_ fun _ =>
    .bind reconcilePositionQuantityFromBalance_keeps fun position => ?_
  · split
    · refine .bind (cancelIfLive_keeps _) fun cancelled => ?_
      split
      · exact markTakeProfitCancelRequested_keeps _
      · exact .pure _
    · exact .pure _
  · split
    · exact keeps_exchangeMut fun _ h => h
    · exact clearPositionState_keeps

theorem keepOpenStopLoss_keeps (tracked : TrackedAlgoOrder) (order : OkxAlgoOrder) :
    Keeps start (keepOpenStopLoss client tracked order) := by
  refine keeps_lift_bind fun tracked' _ => .bind (keeps_exchangeMut fun _ h => h) fun _ =>
    keeps_exchange_bind fun st _ => ?_
  split
  · split
    · refine keeps_instrumentId_bind fun _ => keeps_ask_bind rfl fun ticker =>
        keeps_lift_bind fun last _ => ?_
      split
      · exact .bind (keeps_exchangeMut fun _ h => h) fun _ => ensureTakeProfitOrder_keeps
      · exact .pure _
    · exact .pure _
  · exact .pure _

theorem settleMissingStopLoss_keeps (p : OpenPosition) :
    Keeps start (settleMissingStopLoss client p) := by
  refine keeps_exchange_bind fun st _ => keeps_instrumentId_bind fun _ =>
    keeps_ask_bind rfl fun ticker => keeps_lift_bind fun last _ => ?_
  split
  · exact reconcileTriggeredStopLossOrder_keeps
  · exact keeps_exchangeMut fun _ h => h

theorem settleClosedStopLoss_keeps (tracked : TrackedAlgoOrder) (p : OpenPosition) :
    Keeps start (settleClosedStopLoss client tracked p) := by
  refine keeps_instrumentId_bind fun _ => keeps_ask_bind rfl fun history => ?_
  split
  · refine keeps_lift_bind fun _ _ => ?_
    split
    · exact keeps_instrumentId_bind fun _ => keeps_ask_bind rfl fun ticker =>
        keeps_lift_bind fun last _ => reconcileTriggeredStopLossOrder_keeps
    · exact .bind (keeps_exchangeMut_if fun _ h => h) fun _ => settleMissingStopLoss_keeps _
  · exact settleMissingStopLoss_keeps _

theorem refreshStopLossOrder_keeps : Keeps start (refreshStopLossOrder client) := by
  refine keeps_exchange?_bind fun ex _ => ?_
  split
  · refine keeps_instrumentId_bind fun _ => keeps_ask_bind rfl fun algos => ?_
    split
    · exact keepOpenStopLoss_keeps _ _
    · refine keeps_exchange_bind fun st _ => ?_
      split
      · exact settleClosedStopLoss_keeps _ _
      · exact keeps_exchangeMut fun _ h => h
  · exact .pure _

theorem settleStopLossExit_keeps (order : OkxOrder) :
    Keeps (W := W) start (settleStopLossExit order) := by
  refine .bind (keeps_exchangeMut fun _ h => h) fun _ => keeps_exchange_bind fun st _ => ?_
  split
  · exact clearPositionState_keeps
  · exact keeps_exchangeMut_if fun _ h => h

theorem accountStopLossExit_keeps (tracked : TrackedOrder) (order : OkxOrder)
    (fill delta : Decimal) (a : OkxSpotFillAccounting) :
    Keeps (W := W) start (accountStopLossExit tracked order fill delta a) := by
  refine .bind ?_ fun _ => ?_
  · split
    · exact keeps_lift_bind fun amount _ => .bind (applyPositionReducingFill_keeps _ _)
        fun _ => .pure _
    · exact .pure _
  · split
    · exact updateStopLossExitTracking_keeps _ _ _
    · exact settleStopLossExit_keeps _

theorem reconcileMissingStopLossExit_keeps :
    Keeps start (reconcileMissingStopLossExit client) :=
  .bind (keeps_exchangeMut fun _ h => h) fun _ =>
    .bind reconcilePositionQuantityFromBalance_keeps fun _ => keeps_exchangeMut_if fun _ h => h

theorem refreshStopLossExitOrder_keeps : Keeps start (refreshStopLossExitOrder client) := by
  refine keeps_exchange?_bind fun ex _ => ?_
  split
  · refine keeps_instrumentId_bind fun _ => keeps_ask_bind rfl fun answer => ?_
    split
    · exact reconcileMissingStopLossExit_keeps
    · exact keeps_lift_bind fun fill _ => keeps_lift_bind fun delta _ =>
        keeps_exchange_bind fun st _ => keeps_lift_bind fun a _ =>
          accountStopLossExit_keeps _ _ _ _ _
  · exact .pure _

/-! ## The local stop-loss -/

theorem dropClosedTakeProfit_keeps (pending : Option StopLossPendingReason)
    (tracked : TrackedOrder) (order : OkxOrder) (delta : Decimal) :
    Keeps (W := W) start (dropClosedTakeProfit pending tracked order delta) := by
  refine .bind ?_ fun _ => .bind (keeps_note _) fun _ => .bind (keeps_exchangeMut fun _ h => h)
    fun _ => keeps_exchange_bind fun st _ => .pure _
  split
  · exact keeps_exchange_bind fun st _ => keeps_lift_bind fun a _ => keeps_lift_bind fun amount _ =>
      .bind (applyPositionReducingFill_keeps _ _) fun _ => .pure _
  · split
    · exact keeps_note _
    · exact .pure _

theorem releaseTakeProfit_keeps (pending : Option StopLossPendingReason) :
    Keeps start (releaseTakeProfit client pending) := by
  refine keeps_exchange?_bind fun ex _ => ?_
  split
  · refine keeps_instrumentId_bind fun _ => keeps_ask_bind rfl fun answer => ?_
    split
    · refine .bind (cancelIfLive_keeps _) fun cancelled => .bind ?_ fun _ => .pure _
      split
      · exact markTakeProfitCancelRequested_keeps _
      · exact .pure _
    · split
      · refine .bind ?_ fun _ => .pure _
        split
        · exact keeps_instrumentId_bind fun _ => keeps_ask_bind rfl fun _ =>
            markTakeProfitCancelRequested_keeps _
        · exact .pure _
      · exact keeps_lift_bind fun fill _ => keeps_lift_bind fun delta _ =>
          dropClosedTakeProfit_keeps _ _ _ _
  · exact .pure _

theorem exitAtMarket_keeps (pending : Option StopLossPendingReason) (price : Option Decimal) :
    Keeps start (exitAtMarket client pending price) := by
  refine keeps_exchange_bind fun st _ => ?_
  split
  · exact .pure _
  · refine keeps_exchange_bind fun st _ => ?_
    split
    · exact .pure _
    · split
      · refine .bind reconcilePositionQuantityFromBalance_keeps fun reconciled => ?_
        split
        · exact .pure _
        · exact placeMarketExit_keeps _
      · exact placeMarketExit_keeps _

theorem stopLossReference_keeps (p : OpenPosition) (pending : Option StopLossPendingReason) :
    Keeps start (stopLossReference client p pending) := by
  unfold stopLossReference
  split
  · exact .pure _
  · exact keeps_instrumentId_bind fun _ => keeps_ask_bind rfl fun ticker =>
      keeps_lift_bind fun last _ => keeps_lift_bind fun ask _ => .pure _

theorem evaluateStopLoss_keeps : Keeps start (evaluateStopLoss client) := by
  refine keeps_exchange?_bind fun ex _ => ?_
  split
  · refine keeps_exchange?_bind fun ex _ => .bind (stopLossReference_keeps _ _) fun reference => ?_
    dsimp only
    split
    · exact .pure _
    · refine .bind (keeps_exchangeMut_if fun _ h => h) fun _ =>
        .bind (releaseTakeProfit_keeps _) fun released => ?_
      split
      · exact exitAtMarket_keeps _ _
      · exact .pure _
  · exact .pure _

end Orders

/-! ## Reconstruction -/

section Reconstruction

variable [F64 F] {client : OkxClient F W} {start : Runner F}

theorem appendTargetedLoop_keeps (tag : Text) : ∀ (ids : List Text) (evidence : List OkxOrder)
    (seen : List Text), Keeps start (appendTargetedLoop client tag ids evidence seen) := by
  intro ids
  induction ids with
  | nil => exact fun _ _ => .pure _
  | cons id rest ih =>
      intro evidence seen
      unfold appendTargetedLoop
      split
      · exact ih _ _
      · refine keeps_instrumentId_bind fun _ => keeps_ask_bind rfl fun answer => ?_
        split
        · exact ih _ _
        · exact ih _ _

theorem appendTargetedStrategyOrderEvidence_keeps (evidence : List OkxOrder) (tag : Text) :
    Keeps start (appendTargetedStrategyOrderEvidence client evidence tag) := by
  refine keeps_exchange?_bind fun ex _ => ?_
  split
  · exact appendTargetedLoop_keeps _ _ _ _
  · exact .pure _

theorem appendBroadHistoryFallbackEvidence_keeps (evidence : List OkxOrder) (tag : Text) :
    Keeps start (appendBroadHistoryFallbackEvidence client evidence tag) :=
  keeps_instrumentId_bind fun _ => keeps_ask_bind rfl fun _ => keeps_instrumentId_bind fun _ =>
    keeps_ask_bind rfl fun _ => .pure _

/-- The position, where there is one, has its trigger below its average price. -/
def PositionReconstruction.Priced : PositionReconstruction → Prop
  | .reconstructed p => p.Priced
  | _ => True

theorem reconstructPositionFromEvidence_priced {self : Runner F} (hexact : F64.Exact F)
    (hself : 0 < self.stopLossAtrMultiple) {balance : StrategyBalance}
    {evidence : List StrategyFillEvidence} {attempt : PositionEvidenceAttempt}
    {found : PositionReconstruction}
    (h : self.reconstructPositionFromEvidence balance evidence attempt = .ok found) :
    found.Priced := by
  simp only [Runner.reconstructPositionFromEvidence, bind_eq_ok] at h
  obtain ⟨owned, -, st, -, lotSize, -, h⟩ := h
  generalize (if owned ≤ balance.total then balance.total - owned else owned - balance.total) =
    distance at h
  split at h
  · split at h
    · cases h
      trivial
    · cases h
      trivial
  · obtain ⟨average, -, h⟩ := bind_eq_ok.1 h
    split at h
    · cases h
      trivial
    · cases h
      trivial
    · cases h
    · split at h
      · cases h
        trivial
      · simp only [bind_eq_ok, pure_eq_ok] at h
        obtain ⟨trigger, htrigger, rfl⟩ := h
        exact stopLossTrigger_lt hexact hself htrigger

omit [F64 F] in
theorem finalizeReconstructedPosition_priced {self : Runner F} {balance : StrategyBalance}
    {found : PositionReconstruction} {position : Option OpenPosition} (hfound : found.Priced)
    (h : self.finalizeReconstructedPosition balance found = .ok position) :
    ∀ p ∈ position, p.Priced := by
  unfold Runner.finalizeReconstructedPosition at h
  split at h
  · cases h
    intro p hp
    cases hp
  · cases h
    intro p hp
    cases hp
    exact hfound
  · cases h
  · obtain ⟨_, -, h⟩ := bind_eq_ok.1 h
    split at h
    · cases h
    · cases h

theorem reconstructPosition_sound (hexact : F64.Exact F) {s : Ctx F W} (hs : Sound start s)
    (openOrders : List OkxOrder) (tag : Text) (balance : StrategyBalance) :
    wp (reconstructPosition client openOrders tag balance) s fun r t =>
      Sound start t ∧ ∀ position, r = .ok position → ∀ p ∈ position, p.Priced := by
  have hstop : ∀ {t : Ctx F W} (e : Stop), Sound start t → Sound start t ∧
      ∀ position : Option OpenPosition, Except.error e = .ok position → ∀ p ∈ position, p.Priced :=
    fun e ht => ⟨ht, fun _ h => by cases h⟩
  unfold reconstructPosition
  refine wp_bind_exchange_of (fun st h => ?_) fun e => hstop e hs
  refine wp_bind_lift (fun lotSize _ => ?_) fun _ _ => hstop _ hs
  refine wp_bind_of (Q := fun _ t => Sound start t) ?_ (fun evidence t ht => ?_)
    fun e t ht => hstop e ht
  · split
    · exact appendTargetedStrategyOrderEvidence_keeps _ _ s hs
    · exact hs
  refine wp_bind_exchange_of (fun st h => ?_) fun e => hstop e ht
  refine wp_bind_lift (fun fills _ => ?_) fun _ _ => hstop _ ht
  rw [wp_bind_runner]
  refine wp_bind_lift (fun found hfound => ?_) fun _ _ => hstop _ ht
  have hpriced := reconstructPositionFromEvidence_priced hexact ht.multiple hfound
  split
  · refine wp_bind_of (appendBroadHistoryFallbackEvidence_keeps _ _ t ht) (fun more u hu => ?_)
      fun e u hu => hstop e hu
    refine wp_bind_exchange_of (fun st h => ?_) fun e => hstop e hu
    refine wp_bind_lift (fun fills _ => ?_) fun _ _ => hstop _ hu
    rw [wp_bind_runner]
    refine wp_bind_lift (fun found hfound => ?_) fun _ _ => hstop _ hu
    have hpriced := reconstructPositionFromEvidence_priced hexact hu.multiple hfound
    rw [wp_bind_runner]
    refine wp_lift (fun position hposition => ⟨hu, fun _ h => ?_⟩) fun _ _ => hstop _ hu
    cases h
    exact finalizeReconstructedPosition_priced hpriced hposition
  · rw [wp_bind_runner]
    refine wp_lift (fun position hposition => ⟨ht, fun _ h => ?_⟩) fun _ _ => hstop _ ht
    cases h
    exact finalizeReconstructedPosition_priced hpriced hposition

theorem reconstructExchangeState_keeps (hexact : F64.Exact F) :
    Keeps start (reconstructExchangeState client) := by
  refine keeps_instrumentId_bind fun _ => keeps_ask_bind rfl fun openOrders =>
    keeps_instrumentId_bind fun _ => keeps_ask_bind rfl fun openAlgoOrders =>
    keeps_runner_bind fun self _ => keeps_runner_bind fun self _ => keeps_lift_bind fun live _ =>
    keeps_ask_bind rfl fun balances => .bind (reconstructStrategyBalance_keeps _)
      fun balance => fun s hs => ?_
  refine wp_bind_of (reconstructPosition_sound hexact hs _ _ _) ?_ fun _ _ ht => ht.1
  intro position t ⟨ht, hposition⟩
  refine (keeps_lift_bind fun _ _ => keeps_runner_bind fun self _ => keeps_lift_bind fun _ _ =>
    .bind (keeps_exchangeMut fun _ _ => ?_) fun _ => keeps_note _) t ht
  exact hposition position rfl

end Reconstruction

/-! ## Operations -/

section Operations

variable [F64 F] {client : OkxClient F W} {start : Runner F}

omit [F64 F] in
/-- The rates a fee answer sets do not depend on the runner it configures. -/
theorem configureFeeSchedule_congr {self self' : Runner F} {fee : OkxTradeFeeRate}
    (other : Runner F) (h : self.configureFeeSchedule fee = .ok self') :
    ∃ other', other.configureFeeSchedule fee = .ok other' ∧
      other'.entryFeeCostRate = self'.entryFeeCostRate ∧
      other'.exitFeeCostRate = self'.exitFeeCostRate ∧
      self'.stopLossAtrMultiple = self.stopLossAtrMultiple ∧
      self'.maxQuoteNotional = self.maxQuoteNotional ∧ self'.exchange = self.exchange := by
  simp only [Runner.configureFeeSchedule, SignalState.setRoundTripCostRate, bind_eq_ok,
    ensure_eq_ok, exists_const, pure_eq_ok] at h
  obtain ⟨spot, hspot, maker, hmaker, taker, htaker, hbelow, signal, ⟨hsum, rfl⟩, rfl⟩ := h
  refine ⟨{ other with
    signal := { other.signal with roundTripCostRate := some (max maker 0 + max taker 0) }
    entryFeeCostRate := some (max maker 0)
    exitFeeCostRate := some (max taker 0) }, ?_, rfl, rfl, rfl, rfl, rfl⟩
  simp only [Runner.configureFeeSchedule, SignalState.setRoundTripCostRate, bind_eq_ok,
    ensure_eq_ok, exists_const, pure_eq_ok]
  exact ⟨spot, hspot, maker, hmaker, taker, htaker, hbelow, _, ⟨hsum, rfl⟩, rfl⟩

theorem configureFeeSchedule_error {self other : Runner F} {fee : OkxTradeFeeRate} {m : Message}
    (h : self.configureFeeSchedule fee = .error m) :
    (other.configureFeeSchedule fee).toOption = none := by
  cases hother : other.configureFeeSchedule fee with
  | error m => rfl
  | ok other' =>
      obtain ⟨self', hself, -⟩ := configureFeeSchedule_congr self hother
      cases h.symm.trans hself

omit [F64 F] in
theorem keeps_runnerMut {g : Runner F → Runner F}
    (hg : ∀ self, (g self).stopLossAtrMultiple = self.stopLossAtrMultiple ∧
      (g self).maxQuoteNotional = self.maxQuoteNotional ∧
      (g self).entryFeeCostRate = self.entryFeeCostRate ∧
      (g self).exitFeeCostRate = self.exitFeeCostRate)
    (hexchange : ∀ self, (∀ st ∈ self.exchange, st.Priced) → ∀ st ∈ (g self).exchange, st.Priced) :
    Keeps (W := W) start (runnerMut g) := by
  intro s hs
  obtain ⟨hmultiple, hcap, hentry, hexit⟩ := hg s.runner
  exact ⟨hmultiple ▸ hs.multiple, hcap.trans hs.cap,
    (Prod.ext hentry hexit).trans hs.fees, hexchange _ hs.priced, hs.calls⟩

theorem applyStartupWarmup_keeps : Keeps start (applyStartupWarmup client) :=
  keeps_instrumentId_bind fun _ => keeps_ask_bind rfl fun _ =>
    .bind (keeps_runnerMut (fun _ => ⟨rfl, rfl, rfl, rfl⟩) fun _ h => h) fun _ =>
    keeps_runner_bind fun _ _ => keeps_lift_bind fun _ _ => .pure _

theorem Sound.configured {s : Ctx F W} {self' : Runner F} {fee : OkxTradeFeeRate}
    (hs : Sound start s) (h : s.runner.configureFeeSchedule fee = .ok self') (instId : Text)
    (w : W) :
    Sound start { s.answered (.spotTradeFee instId) (.ok fee) w with runner := self' } := by
  obtain ⟨other, hother, hentry, hexit, hmultiple, hcap, hexchange⟩ :=
    configureFeeSchedule_congr start h
  refine ⟨hmultiple ▸ hs.multiple, hcap.trans hs.cap, ?_, hexchange ▸ hs.priced,
    allAdmissible_cons (fun h => by cases h) hs.calls⟩
  have hrates : Event.configured start (.call s.runner.exchange (.spotTradeFee instId) (.ok fee)) =
      some other := by
    show (start.configureFeeSchedule fee).toOption = some other
    rw [hother]
    rfl
  unfold feeRates
  rw [answered_log, List.findSome?_cons, hrates]
  exact Prod.ext hentry.symm hexit.symm

/-- Between the fee answer and the configuration the rates of the runner lag behind the log. -/
theorem prepareStartupExchangeState_keeps : Keeps start (prepareStartupExchangeState client) := by
  intro s hs
  unfold prepareStartupExchangeState
  rw [wp_bind_runner]
  split
  · rename_i validated hvalidated
    rw [wp_bind_instrumentId]
    refine wp_bind_ask (fun fee w => ?_) fun e w => ?_
    · rw [wp_bind_runner]
      refine wp_bind_lift (fun configured hconfigured => ?_) fun m hm => ?_
      · rw [wp_bind_runnerMut]
        refine Preserves.bind applyStartupWarmup_keeps (fun _ => ?_) _
          (hs.configured hconfigured _ w)
        refine keeps_runnerMut (fun _ => ⟨rfl, rfl, rfl, rfl⟩) fun _ _ st hst p hp => ?_
        cases hst
        cases hp
      · refine ⟨hs.multiple, hs.cap, hs.fees.trans (feeRates_cons ?_).symm, hs.priced,
          allAdmissible_cons (fun h => by cases h) hs.calls⟩
        exact configureFeeSchedule_error hm
    · exact ⟨hs.multiple, hs.cap, hs.fees.trans (feeRates_cons rfl).symm, hs.priced,
        allAdmissible_cons (fun h => by cases h) hs.calls⟩
  · exact hs

theorem initializeRunner_keeps (hexact : F64.Exact F) : Keeps start (initializeRunner client) :=
  .bind prepareStartupExchangeState_keeps fun _ =>
    .bind (reconstructExchangeState_keeps hexact) fun _ => ensurePositionProtection_keeps

theorem ensureInitialized_keeps (hexact : F64.Exact F) :
    Keeps start (ensureInitialized client) := by
  refine keeps_exchange?_bind fun ex _ => ?_
  split
  · exact initializeRunner_keeps hexact
  · exact .pure _

theorem refreshBar_keeps (bar : MarketBar F) : Keeps (W := W) start (refreshBar bar) := by
  refine keeps_exchange_bind fun st _ => ?_
  split
  · exact .pure _
  · exact .bind (keeps_exchangeMut fun _ h => h) fun _ =>
      keeps_runnerMut (fun _ => ⟨rfl, rfl, rfl, rfl⟩) fun _ h => h

theorem refreshBarsLoop_keeps (bars : List (MarketBar F)) :
    Keeps (W := W) start (refreshBarsLoop bars) := by
  induction bars with
  | nil => exact .pure _
  | cons bar rest ih => exact .bind (refreshBar_keeps bar) fun _ => ih

theorem refreshBars_keeps : Keeps start (refreshBars client) :=
  keeps_instrumentId_bind fun _ => keeps_ask_bind rfl fun _ => refreshBarsLoop_keeps _

theorem refreshTrackedOrders_keeps (hexact : F64.Exact F) :
    Keeps start (refreshTrackedOrders client) :=
  .bind (refreshEntryOrder_keeps hexact) fun _ => .bind refreshTakeProfitOrder_keeps fun _ =>
    .bind refreshStopLossOrder_keeps fun _ => refreshStopLossExitOrder_keeps

theorem enforceTickExitProtection_keeps : Keeps start (enforceTickExitProtection client) :=
  .bind ensureStopLossOrder_keeps fun _ => .bind evaluateStopLoss_keeps fun _ =>
    ensurePositionProtection_keeps

theorem onInstrumentUpdate_keeps (hexact : F64.Exact F) :
    Keeps start (onInstrumentUpdate client) := by
  refine .bind (ensureInitialized_keeps hexact) fun _ => keeps_instrumentId_bind fun _ =>
    keeps_ask_bind rfl fun instrument => keeps_runner_bind fun self _ => ?_
  split
  · exact keeps_lift_bind fun _ _ => .bind (keeps_exchangeMut fun _ h => h) fun _ =>
      .bind (reconstructExchangeState_keeps hexact) fun _ => ensurePositionProtection_keeps
  · exact .stop _

theorem reconcileAfterInterruptedTick_keeps (hexact : F64.Exact F) :
    Keeps start (reconcileAfterInterruptedTick client) := by
  refine keeps_exchange?_bind fun ex _ => ?_
  split
  · exact initializeRunner_keeps hexact
  · exact .bind (reconstructExchangeState_keeps hexact) fun _ =>
      .bind (refreshEntryOrder_keeps hexact) fun _ => .bind refreshTakeProfitOrder_keeps fun _ =>
      .bind refreshStopLossOrder_keeps fun _ => .bind refreshStopLossExitOrder_keeps fun _ =>
      .bind evaluateStopLoss_keeps fun _ => .bind ensureTakeProfitOrder_keeps fun _ =>
      ensureStopLossOrder_keeps

/-- Each operation keeps the invariant, however it ends. -/
theorem operation_keeps (hexact : F64.Exact F) (op : Operation) :
    Keeps start (op.run client) := by
  have hrefresh {f : Unit → Run F W Unit} (hf : ∀ u, Keeps start (f u)) :
      Keeps start (ensureInitialized client >>= f) := .bind (ensureInitialized_keeps hexact) hf
  cases op with
  | initializeRunner => exact initializeRunner_keeps hexact
  | onConfirmedCandle =>
      exact hrefresh fun _ => .bind refreshBars_keeps fun _ =>
        .bind (refreshTrackedOrders_keeps hexact) fun _ =>
        .bind enforceTickExitProtection_keeps fun _ => evaluateEntry_keeps
  | onPrivateEvent =>
      exact hrefresh fun _ => .bind (refreshTrackedOrders_keeps hexact) fun _ =>
        enforceTickExitProtection_keeps
  | onReconcileTimer =>
      exact hrefresh fun _ => .bind refreshBars_keeps fun _ =>
        .bind (refreshTrackedOrders_keeps hexact) fun _ => enforceTickExitProtection_keeps
  | onInstrumentUpdate => exact onInstrumentUpdate_keeps hexact
  | reconcileAfterInterruptedTick => exact reconcileAfterInterruptedTick_keeps hexact

/-! ## Shutdown -/

theorem regularOrderIsLive_keeps (id : Text) : Keeps start (regularOrderIsLive client id) :=
  keeps_instrumentId_bind fun _ => keeps_ask_bind rfl fun _ => .pure _

theorem ensureNotLive_keeps (id : Text) (m : Message) :
    Keeps start (ensureNotLive client id m) :=
  .bind (regularOrderIsLive_keeps id) fun _ => keeps_lift _

theorem cancelShutdownEntryOrder_keeps (hexact : F64.Exact F) :
    Keeps start (cancelShutdownEntryOrder client) := by
  refine keeps_exchange_bind fun st _ => ?_
  split
  · refine .bind (cancelTrackedEntryOrder_keeps _) fun _ =>
      .bind (refreshEntryOrder_keeps hexact) fun _ => .bind (ensureNotLive_keeps _ _) fun _ =>
      keeps_exchange_bind fun st _ => ?_
    split
    · exact .pure _
    · exact keeps_exchangeMut fun _ h => h
  · exact .pure _

theorem shutdownWithoutPosition_keeps : Keeps start (shutdownWithoutPosition client) := by
  refine keeps_exchange_bind fun st _ => .bind ?_ fun _ => keeps_exchange_bind fun st _ =>
    .bind ?_ fun _ => keeps_exchange_bind fun st _ => .bind ?_ fun _ => clearPositionState_keeps
  · split
    · exact .bind cancelTakeProfitOrder_keeps fun _ => .bind (ensureNotLive_keeps _ _) fun _ =>
        keeps_exchangeMut fun _ h => h
    · exact .pure _
  · split
    · exact .bind cancelStopLossOrder_keeps fun _ => .bind refreshStopLossOrder_keeps fun _ =>
        keeps_exchange_bind fun _ _ => keeps_lift _
    · exact .pure _
  · split
    · exact .bind cancelStopLossExitOrder_keeps fun _ => .bind (ensureNotLive_keeps _ _) fun _ =>
        keeps_exchangeMut fun _ h => h
    · exact .pure _

theorem releaseShutdownTakeProfit_keeps (tracked : TrackedOrder) :
    Keeps start (releaseShutdownTakeProfit client tracked) := by
  refine .bind (regularOrderIsLive_keeps _) fun live => ?_
  split
  · exact .bind cancelTakeProfitOrder_keeps fun _ => .stop _
  · exact refreshTakeProfitOrder_keeps

theorem reconcileShutdownPendingStopLoss_keeps :
    Keeps start (reconcileShutdownPendingStopLoss client) := by
  refine keeps_exchange?_bind fun ex _ => ?_
  split
  · split
    · exact .pure _
    · refine .bind ?_ fun _ => keeps_exchange_bind fun st _ => ?_
      · split
        · exact releaseShutdownTakeProfit_keeps _
        · exact .pure _
      · split
        · exact .pure _
        · exact evaluateStopLoss_keeps
  · exact .pure _

theorem protectShutdownPosition_keeps : Keeps start (protectShutdownPosition client) :=
  .bind ensureTakeProfitOrder_keeps fun _ => .bind ensureStopLossOrder_keeps fun _ =>
    keeps_exchange_bind fun _ _ => keeps_lift_bind fun _ _ => keeps_lift _

theorem shutdownWithPosition_keeps : Keeps start (shutdownWithPosition client) := by
  refine .bind refreshTakeProfitOrder_keeps fun _ => .bind refreshStopLossOrder_keeps fun _ =>
    .bind refreshStopLossExitOrder_keeps fun _ => .bind evaluateStopLoss_keeps fun _ =>
    .bind reconcileShutdownPendingStopLoss_keeps fun _ => keeps_exchange_bind fun st _ => ?_
  split
  · exact shutdownWithoutPosition_keeps
  · exact protectShutdownPosition_keeps

theorem shutdown_keeps (hexact : F64.Exact F) : Keeps start (shutdown client) := by
  refine .bind (ensureInitialized_keeps hexact) fun _ =>
    .bind (refreshTrackedOrders_keeps hexact) fun _ =>
    .bind (cancelShutdownEntryOrder_keeps hexact) fun _ => keeps_exchange_bind fun st _ => ?_
  split
  · exact shutdownWithoutPosition_keeps
  · exact shutdownWithPosition_keeps

/-! ## Whole runs -/

/-- The operations of a runner, its shutdown among them. -/
inductive Lifecycle where
  | operation (op : Operation)
  | shutdown
  deriving DecidableEq, Repr

/-- An operation or the shutdown. -/
def Lifecycle.run (client : OkxClient F W) : Lifecycle → Run F W Unit
  | .operation op => op.run client
  | .shutdown => OkxTrading.shutdown client

/-- Operations and shutdowns one after another, each from the state the one before it reached. -/
def runLifecycle (client : OkxClient F W) (ops : List Lifecycle) (s : Ctx F W) : Ctx F W :=
  ops.foldl (fun t op => (op.run client t).2) s

theorem runLifecycle_sound (hexact : F64.Exact F) (ops : List Lifecycle) :
    ∀ s : Ctx F W, Sound start s → Sound start (runLifecycle client ops s) := by
  induction ops with
  | nil => exact fun _ hs => hs
  | cons op rest ih =>
      intro s hs
      refine ih _ ?_
      cases op with
      | operation op => exact operation_keeps hexact op s hs
      | shutdown => exact shutdown_keeps hexact s hs

/-- **Every order a run submits is admissible.**  From a fresh runner, with any client and whatever
became of the operations before it, an order is submitted only in a state whose position and
instrument allow it, at the fees and the bid the client answered last. -/
theorem runLifecycle_admissible (client : OkxClient F W) (hexact : F64.Exact F) (s : Ctx F W)
    (hs : Fresh s) (hmultiple : 0 < s.runner.stopLossAtrMultiple) (ops : List Lifecycle) :
    AllAdmissible s.runner (runLifecycle client ops s).log := by
  refine (runLifecycle_sound hexact ops s ⟨hmultiple, rfl, ?_, ?_, ?_⟩).calls
  · rw [hs.log]
    rfl
  · intro st hst
    rw [hs.exchange] at hst
    cases hst
  · intro e older h
    rw [hs.log] at h
    cases List.suffix_nil.1 h

end Operations

/-- The entry of the first minute is filled in the second: five orders are submitted, as the stop
trigger and the take-profit are placed twice where the exchange does not list them. -/
theorem runLifecycle_admissible_filledEntry :
    (runLifecycle (scripted filledEntry) [.operation .initializeRunner,
      .operation .onConfirmedCandle, .operation .onConfirmedCandle] demoStart).log.countP
      Event.submits = 5 ∧
    AllAdmissible demoRunner (runLifecycle (scripted filledEntry) [.operation .initializeRunner,
      .operation .onConfirmedCandle, .operation .onConfirmedCandle] demoStart).log :=
  ⟨by decide +kernel, runLifecycle_admissible (scripted filledEntry) exact_rat demoStart ⟨rfl, rfl⟩
    (by decide +kernel) _⟩

end OkxTrading
