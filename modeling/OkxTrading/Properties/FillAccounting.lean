import OkxTrading.Strategy.Scripted
import OkxTrading.Strategy.Steps.Operations

/-!
# Fills are accounted once

The log is a ledger: its notes say which base change was accounted for which order, and replaying
them gives the quantity of the position.  An exit order that is dropped after its last report was
not live has had all of that report accounted, unless `evaluate_stop_loss` left a fill to the
account balance while a stop trigger or market exit kept it from looking at the balance, or a
report repeated a cumulative fill with another fee, which the code accounts nowhere.

* `accountedBase`, `replayedQuantity` — the ledger of a log.
* `feesMoveWithFills`, `leavesSafely` — the two conditions, on reports and the state before them,
  and on the fills left to the balance.
* `Ledger` — what every tracked order has accounted, and the position is the replayed one;
  `step_ledger`.
* `step_fate` — what becomes of an exit order in one step.
* `fills_accounted_once` — the result over whole runs.
-/

namespace OkxTrading

open Effect OrderId

variable {F W : Type} {client : OkxClient F W} {scope : Scope} {s t : Ctx F W}
  {st st' start : ExchangeState}

/-! ## The ledger of a log -/

/-- The base change a note accounts for the order `id`. -/
def Note.baseChange (id : Text) : Note → Decimal
  | .entryFill i amount => if i = id then amount else 0
  | .exitFill i amount => if i = id then -amount else 0
  | _ => 0

/-- The base change accounted for the order `id`, since it was placed or from what `start` has
accounted. -/
def accountedBase (start : Text → Decimal) : List (Event F) → Text → Decimal
  | [], id => start id
  | .note _ n :: log, id => n.baseChange id + accountedBase start log id
  | .call ex c r :: log, id =>
      if (Event.call ex c r).placed = some id then 0 else accountedBase start log id

/-- The quantity of the position after a note. -/
def Note.quantityAfter (minSize : Decimal) (quantity : Option Decimal) : Note → Option Decimal
  | .entryFill _ amount => some (quantity.getD 0 + amount)
  | .exitFill _ amount => quantity.bind fun q =>
      if max (q - amount) 0 < minSize then none else some (max (q - amount) 0)
  | .balance q => quantity.map fun _ => q
  | .cleared => none
  | _ => quantity

/-- The quantity that the notes of a log lead to. -/
def replayedQuantity (minSize : Decimal) (start : Option Decimal) :
    List (Event F) → Option Decimal
  | [] => start
  | .note _ n :: log => n.quantityAfter minSize (replayedQuantity minSize start log)
  | .call _ _ _ :: log => replayedQuantity minSize start log

/-- The orders whose fills are booked. -/
def ExchangeState.orders (st : ExchangeState) : List TrackedOrder :=
  st.entryOrder.toList ++ st.takeProfitOrder.toList ++ st.stopLossExitOrder.toList

/-- What the tracked order `id` has accounted. -/
def ExchangeState.accounted (st : ExchangeState) (id : Text) : Decimal :=
  ((st.orders.find? fun o => decide (o.clientOrderId = id)).map
    (·.lastAccountedBaseChange)).getD 0

/-- A report that repeats the fill the order was last accounted with repeats its base change: no
fee of the order has changed alone. -/
def TrackedOrder.agreesWith (self : TrackedOrder) (instrument : OkxInstrument)
    (order : OkxOrder) : Bool :=
  match order.fillSize, order.cumulativeSpotAccounting instrument.baseCcy instrument.quoteCcy with
  | .ok fill, .ok a =>
      decide (fill ≠ self.lastFillSize) || decide (a.baseChange = self.lastAccountedBaseChange)
  | _, _ => true

/-- What the exchange reported of a tracked order agrees with what the order has accounted. -/
def Event.agrees : Event F → Bool
  | .call (some st) (.order _ id) (.ok (some order)) => st.orders.all fun o =>
      decide (o.clientOrderId ≠ id) || o.agreesWith st.instrument order
  | _ => true

/-- The base changes of an order only with its cumulative fill, in every report the log has of an
order while it was tracked. -/
def feesMoveWithFills (log : List (Event F)) : Bool := log.all Event.agrees

/-! ## Lemmas of the ledger -/

theorem feesMoveWithFills_append {new log : List (Event F)} :
    feesMoveWithFills (new ++ log) = true ↔
      feesMoveWithFills new = true ∧ feesMoveWithFills log = true := by
  rw [feesMoveWithFills, List.all_append, Bool.and_eq_true]
  rfl

theorem feesMoveWithFills_cons {e : Event F} {log : List (Event F)} :
    feesMoveWithFills (e :: log) = true ↔ e.agrees = true ∧ feesMoveWithFills log = true := by
  rw [feesMoveWithFills, List.all_cons, Bool.and_eq_true]
  rfl

theorem mem_orders {o : TrackedOrder} : o ∈ st.orders ↔
    o ∈ st.entryOrder ∨ o ∈ st.takeProfitOrder ∨ o ∈ st.stopLossExitOrder := by
  simp only [ExchangeState.orders, List.mem_append, Option.mem_toList]
  tauto

/-- One order has one accounting. -/
theorem baseChange_unique {log : List (Event F)} {id : Text} {order order' : OkxOrder}
    {fill fill' : Decimal} {a a' : OkxSpotFillAccounting} (h : Reported log id order fill)
    (h' : Reported log id order' fill')
    (ha : order.cumulativeSpotAccounting start.instrument.baseCcy start.instrument.quoteCcy =
      .ok a)
    (ha' : order'.cumulativeSpotAccounting start.instrument.baseCcy start.instrument.quoteCcy =
      .ok a') : a'.baseChange = a.baseChange := by
  cases h.answer.symm.trans h'.answer
  cases ha.symm.trans ha'
  rfl

theorem TrackedOrder.baseChange_of_agreesWith {o : TrackedOrder} {order : OkxOrder}
    {instrument : OkxInstrument} {a : OkxSpotFillAccounting}
    (h : o.agreesWith instrument order = true) (hfill : order.fillSize = .ok o.lastFillSize)
    (ha : order.cumulativeSpotAccounting instrument.baseCcy instrument.quoteCcy = .ok a) :
    a.baseChange = o.lastAccountedBaseChange := by
  simpa [agreesWith, hfill, ha] using h

theorem agreesWith_of_lookup {c : Call} {r : Except Stop (c.Reply F)} {order : OkxOrder}
    {x : TrackedOrder}
    (hlookup : (Event.call (some st) c r).lookup = some (x.clientOrderId, some order))
    (h : (Event.call (some st) c r).agrees = true) (hx : x ∈ st.orders) :
    x.agreesWith st.instrument order = true := by
  cases c with
  | order instId id =>
      cases r with
      | error => cases hlookup
      | ok answer =>
          cases hlookup
          simpa using List.all_eq_true.1 h x hx
  | _ => cases hlookup

theorem Reported.of_note {log : List (Event F)} {id : Text} {order : OkxOrder} {fill : Decimal}
    {ex : Option ExchangeState} {n : Note} (h : Reported (.note ex n :: log) id order fill) :
    Reported log id order fill :=
  ⟨(lastReport_note ex n log id).symm.trans h.answer, h.fillSize⟩

/-- The order has accounted its last base change since it was placed, and its last report, where
the fill is the accounted one, has this base change. -/
structure OrderAccounted (start : ExchangeState) (log : List (Event F)) (o : TrackedOrder) :
    Prop where
  total : accountedBase start.accounted log o.clientOrderId = o.lastAccountedBaseChange
  reported : ∀ order a, Reported log o.clientOrderId order o.lastFillSize →
    order.cumulativeSpotAccounting start.instrument.baseCcy start.instrument.quoteCcy = .ok a →
    a.baseChange = o.lastAccountedBaseChange

/-! ## Changes of one order -/

/-- What a change that accounts no fill does to the take-profit or the market exit. -/
inductive OrderChange (tag : Text) (purpose : OrderPurpose) (log : List (Event F))
    (instrument : OkxInstrument) : Option TrackedOrder → Option TrackedOrder → Prop
  | same {o} : OrderChange tag purpose log instrument o o
  | submitted {id} (hid : HasPurpose tag purpose id) (placed : Placed log id) :
      OrderChange tag purpose log instrument none (some (.submitted id))
  | cancelled {o} : OrderChange tag purpose log instrument (some o) (some o.cancelled)
  | accounted {o order a} (report : Reported log o.clientOrderId order o.lastFillSize)
      (accounting : order.cumulativeSpotAccounting instrument.baseCcy instrument.quoteCcy =
        .ok a) :
      OrderChange tag purpose log instrument (some o) (some (o.accounted o.lastFillSize a))
  | missing {o} (answer : lastReport log o.clientOrderId = some none) :
      OrderChange tag purpose log instrument (some o) none
  | closed {o order} (report : Reported log o.clientOrderId order o.lastFillSize)
      (closed : order.isLive = false) : OrderChange tag purpose log instrument (some o) none

/-- A change leaves instrument, entry and position alone, and changes each exit order as such. -/
structure ExitsChange (tag : Text) (log : List (Event F)) (st st' : ExchangeState) : Prop where
  instrument : st'.instrument = st.instrument
  entry : st'.entryOrder = st.entryOrder
  position : st'.position = st.position
  takeProfit : OrderChange tag .takeProfit log st.instrument st.takeProfitOrder st'.takeProfitOrder
  exit : OrderChange tag .stopLoss log st.instrument st.stopLossExitOrder st'.stopLossExitOrder

theorem exitsChange_of_change {tag : Text} {log : List (Event F)} (h : Change tag log st st') :
    ExitsChange tag log st st' := by
  cases h with
  | bar | stopReported | stopDropped | stopTriggered | priceRecovered | thresholdCrossed
  | exitRetried => exact ⟨rfl, rfl, rfl, .same, .same⟩
  | takeProfitSubmitted purpose placed idle =>
      exact ⟨rfl, rfl, rfl, by rw [idle]; exact .submitted purpose placed, .same⟩
  | takeProfitCancelled tracked =>
      exact ⟨rfl, rfl, rfl, by rw [tracked]; exact .cancelled, .same⟩
  | takeProfitAccounted tracked report accounting =>
      exact ⟨rfl, rfl, rfl, by rw [tracked]; exact .accounted report accounting, .same⟩
  | takeProfitMissing tracked answer =>
      exact ⟨rfl, rfl, rfl, by rw [tracked]; exact .missing answer, .same⟩
  | takeProfitClosed tracked report closed =>
      exact ⟨rfl, rfl, rfl, by rw [tracked]; exact .closed report closed, .same⟩
  | exitSubmitted purpose placed position takeProfit stop idle =>
      exact ⟨rfl, rfl, rfl, .same, by rw [idle]; exact .submitted purpose placed⟩
  | exitAccounted tracked report accounting =>
      exact ⟨rfl, rfl, rfl, .same, by rw [tracked]; exact .accounted report accounting⟩
  | exitMissing tracked answer =>
      exact ⟨rfl, rfl, rfl, .same, by rw [tracked]; exact .missing answer⟩
  | exitClosed tracked report closed =>
      exact ⟨rfl, rfl, rfl, .same, by rw [tracked]; exact .closed report closed⟩

/-- All of the last report of `id`, where it was not live, is accounted. -/
def Settled (start : ExchangeState) (log : List (Event F)) (id : Text) : Prop :=
  ∀ order a, lastReport log id = some (some order) → order.isLive = false →
    order.cumulativeSpotAccounting start.instrument.baseCcy start.instrument.quoteCcy = .ok a →
    accountedBase start.accounted log id = a.baseChange

theorem orderChange_accounted {tag : Text} {purpose : OrderPurpose} {log : List (Event F)}
    {o o' : Option TrackedOrder} (h : OrderChange tag purpose log start.instrument o o')
    (ho : ∀ x ∈ o, OrderAccounted start log x) : ∀ x ∈ o', OrderAccounted start log x := by
  cases h with
  | same => exact ho
  | submitted _ placed =>
      intro x hx
      cases hx
      obtain ⟨e, rest, rfl, he⟩ := placed
      refine ⟨?_, fun order a report _ => ?_⟩
      · cases e with
        | note => cases he
        | call => exact if_pos he
      · have hnone : lastReport (e :: rest) _ = none := if_pos he
        cases hnone.symm.trans report.answer
  | cancelled =>
      intro x hx
      cases hx
      exact ⟨(ho _ rfl).total, (ho _ rfl).reported⟩
  | accounted report accounting =>
      intro x hx
      cases hx
      exact ⟨(ho _ rfl).total.trans ((ho _ rfl).reported _ _ report accounting).symm,
        fun _ _ report' accounting' => baseChange_unique report report' accounting accounting'⟩
  | missing | closed =>
      intro x hx
      cases hx

/-- An order is dropped for want of an answer, or with its last report accounted. -/
theorem orderChange_settled {tag : Text} {purpose : OrderPurpose} {log : List (Event F)}
    {x : TrackedOrder} (h : OrderChange tag purpose log start.instrument (some x) none)
    (hx : OrderAccounted start log x) :
    Settled start log x.clientOrderId := by
  intro order a horder _ ha
  cases h with
  | missing answer => cases answer.symm.trans horder
  | closed report =>
      cases report.answer.symm.trans horder
      exact hx.total.trans (hx.reported _ _ report ha).symm

/-! ## What a step keeps -/

/-- The ledger of the log is that of the state: each tracked order has accounted exactly what it was
last accounted with, and the quantity of the position is the replayed one. -/
structure Ledger (start : ExchangeState) (log : List (Event F)) (st : ExchangeState) : Prop where
  instrument : st.instrument = start.instrument
  entry : ∀ x ∈ st.entryOrder, OrderAccounted start log x
  takeProfit : ∀ x ∈ st.takeProfitOrder, OrderAccounted start log x
  exit : ∀ x ∈ st.stopLossExitOrder, OrderAccounted start log x
  quantity : ∀ minSize, start.instrument.minSize = .ok minSize →
    st.position.map (·.quantity) =
      replayedQuantity minSize (start.position.map (·.quantity)) log

theorem OrderAccounted.note {log : List (Event F)} {x : TrackedOrder} {n : Note}
    (h : OrderAccounted start log x) (hn : n.baseChange x.clientOrderId = 0)
    (ex : Option ExchangeState) : OrderAccounted start (.note ex n :: log) x := by
  refine ⟨?_, fun order a report => h.reported order a report.of_note⟩
  rw [accountedBase, hn, zero_add]
  exact h.total

/-- A call leaves what a tracked order has accounted; a report of the order agrees with it. -/
theorem OrderAccounted.call {log : List (Event F)} {x : TrackedOrder} {c : Call}
    {r : Except Stop (c.Reply F)} (h : OrderAccounted start log x)
    (hi : st.instrument = start.instrument) (hx : x ∈ st.orders)
    (hagrees : (Event.call (some st) c r).agrees = true)
    (hplaced : (Event.call (some st) c r).placed ≠ some x.clientOrderId) :
    OrderAccounted start (.call (some st) c r :: log) x := by
  refine ⟨?_, fun order a report ha => ?_⟩
  · rw [accountedBase, if_neg hplaced]
    exact h.total
  by_cases hlookup : ∀ answer, (Event.call (some st) c r).lookup ≠ some (x.clientOrderId, answer)
  · refine h.reported order a ⟨?_, report.fillSize⟩ ha
    rw [← lastReport_cons_of_other hplaced hlookup log]
    exact report.answer
  · obtain ⟨answer, hlookup⟩ := not_forall_not.1 hlookup
    have hanswer := report.answer
    rw [lastReport, if_neg hplaced, hlookup] at hanswer
    obtain rfl : answer = some order := by simpa using hanswer
    rw [← hi] at ha
    exact TrackedOrder.baseChange_of_agreesWith
      (agreesWith_of_lookup hlookup hagrees hx) report.fillSize ha

theorem OrderAccounted.exitFill {log : List (Event F)} {o : TrackedOrder} {order : OkxOrder}
    {fill : Decimal} {a : OkxSpotFillAccounting} (h : OrderAccounted start log o)
    (hi : st.instrument = start.instrument) (new : NewFill log st o order fill a)
    (ex : Option ExchangeState) :
    OrderAccounted start
      (.note ex (.exitFill o.clientOrderId (o.lastAccountedBaseChange - a.baseChange)) :: log)
      (o.accounted fill a) := by
  have ha := new.accounting
  rw [hi] at ha
  refine ⟨?_, fun _ _ report ha' => baseChange_unique new.report report.of_note ha ha'⟩
  show Note.baseChange o.clientOrderId _ + accountedBase start.accounted log o.clientOrderId = _
  rw [h.total]
  simp only [Note.baseChange, if_true, TrackedOrder.accounted]
  ring

theorem baseChange_exitFill_ne {i id : Text} (h : i ≠ id) (amount : Decimal) :
    (Note.exitFill i amount).baseChange id = 0 := if_neg h

theorem baseChange_entryFill_ne {i id : Text} (h : i ≠ id) (amount : Decimal) :
    (Note.entryFill i amount).baseChange id = 0 := if_neg h

/-- The order a call places is not tracked. -/
theorem placed_ne_of_callGuard {tag : Text} {c : Call} (guard : CallGuard scope tag st c)
    (htag : st.Tagged tag) {x : TrackedOrder} (hx : x ∈ st.orders)
    (ex : Option ExchangeState) (r : Except Stop (c.Reply F)) :
    (Event.call ex c r).placed ≠ some x.clientOrderId := by
  have htags : HasPurpose tag .entry x.clientOrderId ∧ x ∈ st.entryOrder ∨
      HasPurpose tag .takeProfit x.clientOrderId ∧ x ∈ st.takeProfitOrder ∨
      HasPurpose tag .stopLoss x.clientOrderId ∧ x ∈ st.stopLossExitOrder := by
    obtain ⟨he, htp, hex⟩ := htag
    rcases mem_orders.1 hx with hx | hx | hx
    · rw [Option.mem_def.1 hx] at he
      exact .inl ⟨he, hx⟩
    · rw [Option.mem_def.1 hx] at htp
      exact .inr (.inl ⟨htp, hx⟩)
    · rw [Option.mem_def.1 hx] at hex
      exact .inr (.inr ⟨hex, hx⟩)
  intro hplaced
  cases c with
  | placeOrder instId side kind size price id =>
      cases r with
      | error => cases hplaced
      | ok =>
          obtain rfl : id = x.clientOrderId := by simpa [Event.placed] using hplaced
          cases side with
          | buy =>
              obtain ⟨-, idle, hid⟩ := guard
              rcases htags with ⟨_, hx⟩ | ⟨hid', _⟩ | ⟨hid', _⟩
              · rw [idle.entry] at hx; cases hx
              · cases hid.unique hid'
              · cases hid.unique hid'
          | sell =>
              cases kind with
              | limit =>
                  obtain ⟨-, idle, -, hid⟩ := guard
                  rcases htags with ⟨hid', _⟩ | ⟨_, hx⟩ | ⟨hid', _⟩
                  · cases hid.unique hid'
                  · rw [idle] at hx; cases hx
                  · cases hid.unique hid'
              | market | postOnly =>
                  obtain ⟨-, -, -, -, idle, hid⟩ := guard
                  rcases htags with ⟨hid', _⟩ | ⟨hid', _⟩ | ⟨_, hx⟩
                  · cases hid.unique hid'
                  · cases hid.unique hid'
                  · rw [idle] at hx; cases hx
  | _ => cases hplaced

theorem reduced_quantity (p : OpenPosition) (amount minSize : Decimal) :
    (p.reduced amount minSize).map (·.quantity) =
      if max (p.quantity - amount) 0 < minSize then none
      else some (max (p.quantity - amount) 0) := by
  have hmax : max (p.quantity - amount) 0 =
      if 0 < p.quantity - amount then p.quantity - amount else 0 := by
    split
    · rename_i h; exact max_eq_left h.le
    · rename_i h; exact max_eq_right (not_lt.1 h)
  unfold OpenPosition.reduced
  rw [hmax, apply_ite (Option.map _)]
  rfl

/-- The reduced position is the replayed one. -/
theorem Ledger.reduced {log : List (Event F)} (h : Ledger start log st) {id : Text}
    {amount minSize : Decimal} (hmin : st.instrument.minSize = .ok minSize)
    (ex : Option ExchangeState) (minSize' : Decimal)
    (hmin' : start.instrument.minSize = .ok minSize') :
    (st.reduce amount minSize).position.map (·.quantity) =
      replayedQuantity minSize' (start.position.map (·.quantity))
        (.note ex (.exitFill id amount) :: log) := by
  rw [h.instrument, hmin'] at hmin
  cases hmin
  rw [replayedQuantity, ← h.quantity minSize hmin']
  unfold ExchangeState.reduce
  cases hp : st.position with
  | none => rfl
  | some p => exact reduced_quantity p amount minSize

/-- A note about an order leaves the orders of another purpose alone. -/
theorem accounted_note_other {tag : Text} {purpose purpose' : OrderPurpose} {i : Text}
    {o : Option TrackedOrder} {log : List (Event F)} {n : Note}
    (hi : HasPurpose tag purpose i) (ho : HasTag tag purpose' o) (hne : purpose ≠ purpose')
    (hn : ∀ id, i ≠ id → n.baseChange id = 0) (h : ∀ x ∈ o, OrderAccounted start log x)
    (ex : Option ExchangeState) : ∀ x ∈ o, OrderAccounted start (.note ex n :: log) x := by
  intro x hx
  refine (h x hx).note (hn _ ?_) ex
  rw [Option.mem_def.1 hx] at ho
  rintro rfl
  exact hne (hi.unique ho)

namespace Ledger

variable {log : List (Event F)}

theorem call {tag : Text} {c : Call} (h : Ledger start log st)
    (guard : CallGuard scope tag st c) (htag : st.Tagged tag) {r : Except Stop (c.Reply F)}
    (hagrees : (Event.call (some st) c r).agrees = true) :
    Ledger start (.call (some st) c r :: log) st := by
  have kept : ∀ x, x ∈ st.orders → OrderAccounted start log x →
      OrderAccounted start (.call (some st) c r :: log) x :=
    fun x hx hacc => hacc.call h.instrument hx hagrees (placed_ne_of_callGuard guard htag hx _ r)
  exact ⟨h.instrument, fun x hx => kept x (mem_orders.2 (.inl hx)) (h.entry x hx),
    fun x hx => kept x (mem_orders.2 (.inr (.inl hx))) (h.takeProfit x hx),
    fun x hx => kept x (mem_orders.2 (.inr (.inr hx))) (h.exit x hx), h.quantity⟩

/-- A note that accounts nothing. -/
theorem note {n : Note} (h : Ledger start log st) (hn : ∀ id, n.baseChange id = 0)
    (hq : ∀ minSize q, n.quantityAfter minSize q = q) (ex : Option ExchangeState) :
    Ledger start (.note ex n :: log) st := by
  refine ⟨h.instrument, fun x hx => (h.entry x hx).note (hn _) ex,
    fun x hx => (h.takeProfit x hx).note (hn _) ex, fun x hx => (h.exit x hx).note (hn _) ex, ?_⟩
  intro minSize hmin
  rw [replayedQuantity, hq]
  exact h.quantity minSize hmin

theorem cleared (h : Ledger start log st) (ex : Option ExchangeState) :
    Ledger start (.note ex .cleared :: log) st.clear :=
  ⟨h.instrument, fun x hx => (by cases hx), fun x hx => (by cases hx), fun x hx => (by cases hx),
    fun _ _ => rfl⟩

theorem withTakeProfit_none (h : Ledger start log st) :
    Ledger start log (st.withTakeProfit none) :=
  ⟨h.instrument, h.entry, fun x hx => (by cases hx), h.exit, h.quantity⟩

/-- The new fill of the take-profit. -/
theorem takeProfitFill {tag : Text} {o : TrackedOrder} {order : OkxOrder}
    {fill minSize : Decimal} {a : OkxSpotFillAccounting} (h : Ledger start log st)
    (htag : st.Tagged tag) (tracked : st.takeProfitOrder = some o)
    (new : NewFill log st o order fill a) (min : st.instrument.minSize = .ok minSize)
    (ex : Option ExchangeState) :
    Ledger start
      (.note ex (.exitFill o.clientOrderId (o.lastAccountedBaseChange - a.baseChange)) :: log)
      ((st.reduce (o.lastAccountedBaseChange - a.baseChange) minSize).withTakeProfit
        (some (o.accounted fill a))) := by
  have hid := htag.takeProfit
  rw [tracked] at hid
  refine ⟨h.instrument, ?_, ?_, ?_, h.reduced min ex⟩
  · exact accounted_note_other hid htag.entry (by decide)
      (fun _ hne => baseChange_exitFill_ne hne _) h.entry ex
  · intro x hx
    cases hx
    exact (h.takeProfit o tracked).exitFill h.instrument new ex
  · exact accounted_note_other hid htag.exit (by decide)
      (fun _ hne => baseChange_exitFill_ne hne _) h.exit ex

/-- The new fill of the market exit. -/
theorem exitFill {tag : Text} {o : TrackedOrder} {order : OkxOrder}
    {fill minSize : Decimal} {a : OkxSpotFillAccounting} (h : Ledger start log st)
    (htag : st.Tagged tag) (tracked : st.stopLossExitOrder = some o)
    (new : NewFill log st o order fill a) (min : st.instrument.minSize = .ok minSize)
    (ex : Option ExchangeState) :
    Ledger start
      (.note ex (.exitFill o.clientOrderId (o.lastAccountedBaseChange - a.baseChange)) :: log)
      ((st.reduce (o.lastAccountedBaseChange - a.baseChange) minSize).withExit
        (some (o.accounted fill a))) := by
  have hid := htag.exit
  rw [tracked] at hid
  refine ⟨h.instrument, ?_, ?_, ?_, h.reduced min ex⟩
  · exact accounted_note_other hid htag.entry (by decide)
      (fun _ hne => baseChange_exitFill_ne hne _) h.entry ex
  · exact accounted_note_other hid htag.takeProfit (by decide)
      (fun _ hne => baseChange_exitFill_ne hne _) h.takeProfit ex
  · intro x hx
    cases hx
    exact (h.exit o tracked).exitFill h.instrument new ex

theorem withExit_none (h : Ledger start log st) : Ledger start log (st.withExit none) :=
  ⟨h.instrument, h.entry, h.takeProfit, fun x hx => (by cases hx), h.quantity⟩

theorem account {tag : Text} {n : Note} (h : Ledger start log st) (htag : st.Tagged tag)
    (ha : Account log st n st') (ex : Option ExchangeState) :
    Ledger start (.note ex n :: log) st' := by
  cases ha with
  | takeProfitFill tracked new min => exact h.takeProfitFill htag tracked new min ex
  | exitFill tracked new min => exact h.exitFill htag tracked new min ex
  | exitFillClosed tracked new min => exact (h.exitFill htag tracked new min ex).withExit_none

theorem entryChange (h : Ledger start log st) (hc : EntryChange log st st') :
    Ledger start log st' := by
  refine ⟨?_, ?_, ?_, ?_, ?_⟩
  · cases hc <;> exact h.instrument
  · intro x hx
    cases hc with
    | cancelled tracked =>
        cases hx
        exact ⟨(h.entry _ tracked).total, (h.entry _ tracked).reported⟩
    | closed => cases hx
  · cases hc <;> exact h.takeProfit
  · cases hc <;> exact h.exit
  · cases hc <;> exact h.quantity

theorem entryAccount {tag : Text} {n : Note} (h : Ledger start log st) (htag : st.Tagged tag)
    (ha : EntryAccount log st n st') (ex : Option ExchangeState) :
    Ledger start (.note ex n :: log) st' := by
  cases ha with
  | @fill o order fill a p price tracked new amount quantity =>
      have hid := htag.entry
      rw [tracked] at hid
      have ha := new.accounting
      rw [h.instrument] at ha
      refine ⟨h.instrument, ?_, ?_, ?_, ?_⟩
      · intro x hx
        cases hx
        refine ⟨?_, fun _ _ report ha' => baseChange_unique new.report report.of_note ha ha'⟩
        show Note.baseChange o.clientOrderId _ + accountedBase start.accounted log o.clientOrderId
          = a.baseChange
        rw [(h.entry o tracked).total]
        simp only [Note.baseChange, if_true]
        ring
      · exact accounted_note_other hid htag.takeProfit (by decide)
          (fun _ hne => baseChange_entryFill_ne hne _) h.takeProfit ex
      · exact accounted_note_other hid htag.exit (by decide)
          (fun _ hne => baseChange_entryFill_ne hne _) h.exit ex
      · intro minSize hmin
        rw [replayedQuantity, ← h.quantity minSize hmin]
        show some p.quantity = _
        rw [quantity]
        cases st.position <;> rfl

theorem balance {p : OpenPosition} (h : Ledger start log st) (position : st.position = some p)
    (q : Decimal) (ex : Option ExchangeState) :
    Ledger start (.note ex (.balance q) :: log)
      { st with position := some { p with quantity := q } } := by
  refine ⟨h.instrument, fun x hx => (h.entry x hx).note rfl ex,
    fun x hx => (h.takeProfit x hx).note rfl ex, fun x hx => (h.exit x hx).note rfl ex, ?_⟩
  intro minSize hmin
  rw [replayedQuantity, ← h.quantity minSize hmin, position]
  rfl

end Ledger

theorem step_ledger (h : Step client scope s t) (hst : s.runner.exchange = some st)
    (htag : st.Tagged (strategyTag s.runner.instanceId))
    (hfees : feesMoveWithFills t.log = true) (hs : Ledger start s.log st) :
    ∃ st', t.runner.exchange = some st' ∧ Ledger start t.log st' := by
  cases h with
  | call h c guard =>
      cases h.symm.trans hst
      rw [answered_log, h] at hfees ⊢
      exact ⟨st, h, hs.call guard htag (feesMoveWithFills_cons.1 hfees).1⟩
  | clock | counter | signal => exact ⟨st, hst, hs⟩
  | stop h hc =>
      cases h.symm.trans hst
      refine ⟨_, rfl, ?_⟩
      cases hc <;> exact ⟨hs.instrument, hs.entry, hs.takeProfit, hs.exit, hs.quantity⟩
  | change _ h hc =>
      cases h.symm.trans hst
      have hx := exitsChange_of_change hc
      have htp := hx.takeProfit
      have hex := hx.exit
      rw [hs.instrument] at htp hex
      exact ⟨_, rfl, hx.instrument.trans hs.instrument, by rw [hx.entry]; exact hs.entry,
        orderChange_accounted htp hs.takeProfit, orderChange_accounted hex hs.exit,
        by rw [hx.position]; exact hs.quantity⟩
  | account _ h ha =>
      cases h.symm.trans hst
      exact ⟨_, rfl, hs.account htag ha _⟩
  | release _ h hr =>
      cases h.symm.trans hst
      cases hr with
      | filled tracked new min =>
          exact ⟨_, rfl, ((hs.takeProfitFill htag tracked new min _).note (fun _ => rfl)
            (fun _ _ => rfl) _).withTakeProfit_none⟩
      | unfilled =>
          exact ⟨_, rfl, (hs.note (fun _ => rfl) (fun _ _ => rfl) _).withTakeProfit_none⟩
      | left =>
          exact ⟨_, rfl, ((hs.note (fun _ => rfl) (fun _ _ => rfl) _).note (fun _ => rfl)
            (fun _ _ => rfl) _).withTakeProfit_none⟩
  | balance _ h position =>
      cases h.symm.trans hst
      exact ⟨_, rfl, hs.balance position _ _⟩
  | @emptied st q _ h position =>
      cases h.symm.trans hst
      obtain ⟨p, hp⟩ := Option.isSome_iff_exists.1 position
      exact ⟨_, rfl, (hs.balance hp q _).cleared _⟩
  | cleared _ h =>
      cases h.symm.trans hst
      exact ⟨_, rfl, hs.cleared _⟩
  | entry _ h hc =>
      cases h.symm.trans hst
      exact ⟨_, rfl, hs.entryChange hc⟩
  | entryFill _ h ha =>
      cases h.symm.trans hst
      exact ⟨_, rfl, hs.entryAccount htag ha _⟩
  | submitted _ h placed idle purpose =>
      cases h.symm.trans hst
      refine ⟨_, rfl, hs.instrument, ?_, hs.takeProfit, hs.exit, hs.quantity⟩
      have hchange : OrderChange (strategyTag s.runner.instanceId) .entry s.log start.instrument
          none (some (.submitted _)) := .submitted purpose placed
      exact orderChange_accounted hchange fun x hx => (by cases hx)

/-! ## What becomes of an exit order -/

/-- The order is tracked as take-profit or as market exit. -/
def TracksExit (st : ExchangeState) (id : Text) : Prop :=
  Tracks st.takeProfitOrder id ∨ Tracks st.stopLossExitOrder id

/-- The id is that of an exit order. -/
def HasExitPurpose (tag id : Text) : Prop :=
  HasPurpose tag .takeProfit id ∨ HasPurpose tag .stopLoss id

/-- Why the last report of a dropped exit order need not be accounted: the quantity was replaced
by the balance, the position was gone already, or a fill was left to the balance. -/
inductive Excuse (id : Text) : Event F → Prop
  | balance (ex : Option ExchangeState) (q : Decimal) : Excuse id (.note ex (.balance q))
  | flat {st : ExchangeState} (flat : st.position = none) (tracked : TracksExit st id) :
      Excuse id (.note (some st) .cleared)
  | left (st : ExchangeState) : Excuse id (.note (some st) (.fillLeft id))

theorem settled_of_same {log log' : List (Event F)} {id : Text}
    (hreport : lastReport log' id = lastReport log id)
    (htotal : accountedBase start.accounted log' id = accountedBase start.accounted log id)
    (h : Settled start log id) : Settled start log' id := by
  intro order a horder hlive ha
  rw [htotal]
  exact h order a (hreport.symm.trans horder) hlive ha

theorem settled_note {log : List (Event F)} {id : Text} {n : Note} (hn : n.baseChange id = 0)
    (h : Settled start log id) (ex : Option ExchangeState) :
    Settled start (.note ex n :: log) id := by
  refine settled_of_same (lastReport_note ex n log id) ?_ h
  rw [accountedBase, hn, zero_add]

theorem settled_of_placed {log : List (Event F)} {id : Text} {e : Event F}
    (h : e.placed = some id) : Settled start (e :: log) id := by
  intro order a horder
  rw [lastReport, if_pos h] at horder
  cases horder

/-- Only tracked orders are looked up. -/
theorem lookup_of_callGuard {tag : Text} {c : Call} (guard : CallGuard scope tag st c)
    {ex : Option ExchangeState} {r : Except Stop (c.Reply F)} {id : Text}
    {answer : Option OkxOrder} (h : (Event.call ex c r).lookup = some (id, answer)) :
    (scope.entry = true ∧ Tracks st.entryOrder id ∧ HasPurpose tag .entry id) ∨
      (scope.exits = true ∧ Tracks st.takeProfitOrder id ∧ HasPurpose tag .takeProfit id) ∨
      (scope.exits = true ∧ Tracks st.stopLossExitOrder id ∧ HasPurpose tag .stopLoss id) := by
  cases c with
  | order instId id' =>
      cases r with
      | error => cases h
      | ok =>
          cases h
          exact guard
  | _ => cases h

/-- A call leaves an exit order that is not tracked alone, or places it. -/
theorem settled_call {tag : Text} {c : Call} {log : List (Event F)} {id : Text}
    (guard : CallGuard scope tag st c) (hid : HasExitPurpose tag id) (hnot : ¬ TracksExit st id)
    (h : Settled start log id) (ex : Option ExchangeState) (r : Except Stop (c.Reply F)) :
    Settled start (.call ex c r :: log) id := by
  by_cases hplaced : (Event.call ex c r).placed = some id
  · exact settled_of_placed hplaced
  · refine settled_of_same (lastReport_cons_of_other hplaced ?_ log) (if_neg hplaced) h
    intro answer hlookup
    rcases lookup_of_callGuard guard hlookup with ⟨-, -, hid'⟩ | ⟨-, htracks, -⟩ | ⟨-, htracks, -⟩
    · rcases hid with hid | hid
      · cases hid.unique hid'
      · cases hid.unique hid'
    · exact hnot (.inl htracks)
    · exact hnot (.inr htracks)

theorem orderChange_fate {tag : Text} {purpose : OrderPurpose} {log : List (Event F)}
    {o o' : Option TrackedOrder} (h : OrderChange tag purpose log start.instrument o o')
    (ho : ∀ x ∈ o, OrderAccounted start log x) {id : Text} (hid : Tracks o id) :
    Tracks o' id ∨ Settled start log id := by
  obtain ⟨x, rfl, rfl⟩ := hid
  cases o' with
  | none => exact .inr (orderChange_settled h (ho x rfl))
  | some y =>
      refine .inl ⟨y, rfl, ?_⟩
      cases h <;> rfl

/-- An exit order that is not tracked stays settled. -/
theorem step_settled {id : Text} (h : Step client scope s t) (hst : s.runner.exchange = some st)
    (htag : st.Tagged (strategyTag s.runner.instanceId))
    (hid : HasExitPurpose (strategyTag s.runner.instanceId) id) (hnot : ¬ TracksExit st id)
    (hs : Settled start s.log id) : Settled start t.log id := by
  cases h with
  | call h c guard =>
      cases h.symm.trans hst
      exact settled_call guard hid hnot hs _ _
  | clock | counter | signal | stop | change | entry | submitted => exact hs
  | account _ h ha =>
      cases h.symm.trans hst
      refine settled_note ?_ hs _
      cases ha with
      | takeProfitFill tracked =>
          exact baseChange_exitFill_ne (fun heq => hnot (.inl ⟨_, tracked, heq⟩)) _
      | exitFill tracked | exitFillClosed tracked =>
          exact baseChange_exitFill_ne (fun heq => hnot (.inr ⟨_, tracked, heq⟩)) _
  | release _ h hr =>
      cases h.symm.trans hst
      cases hr with
      | filled tracked =>
          refine settled_note rfl (settled_note ?_ hs _) _
          exact baseChange_exitFill_ne (fun heq => hnot (.inl ⟨_, tracked, heq⟩)) _
      | unfilled => exact settled_note rfl hs _
      | left => exact settled_note rfl (settled_note rfl hs _) _
  | balance | cleared => exact settled_note rfl hs _
  | emptied => exact settled_note rfl (settled_note rfl hs _) _
  | entryFill _ h ha =>
      cases h.symm.trans hst
      refine settled_note ?_ hs _
      cases ha with
      | fill tracked =>
          have hentry := htag.entry
          rw [tracked] at hentry
          refine baseChange_entryFill_ne (fun heq => ?_) _
          subst heq
          rcases hid with hid | hid
          · cases hid.unique hentry
          · cases hid.unique hentry

/-- After an order's fill and a drop its last report is accounted. -/
theorem settled_of_fill {log : List (Event F)} {o : TrackedOrder} {order : OkxOrder}
    {fill : Decimal} {a : OkxSpotFillAccounting} (hi : st.instrument = start.instrument)
    (new : NewFill log st o order fill a) (hacc : OrderAccounted start log o)
    (ex : Option ExchangeState) :
    Settled start
      (.note ex (.exitFill o.clientOrderId (o.lastAccountedBaseChange - a.baseChange)) :: log)
      o.clientOrderId := by
  intro order' a' horder _ ha'
  rw [lastReport_note] at horder
  cases new.report.answer.symm.trans horder
  have ha := new.accounting
  rw [hi] at ha
  cases ha.symm.trans ha'
  exact (hacc.exitFill hi new ex).total

/-- What becomes of a tracked exit order in one step: it stays tracked, or its last report is
accounted, or it is excused. -/
theorem step_fate {id : Text} (h : Step client scope s t) (hst : s.runner.exchange = some st)
    (hs : Ledger start s.log st)
    (hid : TracksExit st id) (hst' : t.runner.exchange = some st') :
    TracksExit st' id ∨ Settled start t.log id ∨
      ∃ new, t.log = new ++ s.log ∧ ∃ e ∈ new, Excuse id e := by
  cases h with
  | call | clock | counter | signal =>
      cases hst.symm.trans hst'
      exact .inl hid
  | stop h hc =>
      cases h.symm.trans hst
      cases hst'
      cases hc <;> exact .inl hid
  | change _ h hc =>
      cases h.symm.trans hst
      cases hst'
      have hx := exitsChange_of_change hc
      have htp := hx.takeProfit
      have hex := hx.exit
      rw [hs.instrument] at htp hex
      rcases hid with hid | hid
      · exact (orderChange_fate htp hs.takeProfit hid).imp .inl .inl
      · exact (orderChange_fate hex hs.exit hid).imp .inr .inl
  | account _ h ha =>
      cases h.symm.trans hst
      cases hst'
      cases ha with
      | takeProfitFill tracked =>
          refine .inl (hid.imp_left fun ⟨o, ho, hid⟩ => ?_)
          cases tracked.symm.trans ho
          exact ⟨_, rfl, hid⟩
      | exitFill tracked =>
          refine .inl (hid.imp_right fun ⟨o, ho, hid⟩ => ?_)
          cases tracked.symm.trans ho
          exact ⟨_, rfl, hid⟩
      | exitFillClosed tracked new =>
          rcases hid with hid | ⟨o, ho, rfl⟩
          · exact .inl (.inl hid)
          · cases tracked.symm.trans ho
            exact .inr (.inl (settled_of_fill hs.instrument new (hs.exit _ tracked) _))
  | release _ h hr =>
      cases h.symm.trans hst
      obtain ⟨-, position, ht⟩ := release_exchange hr
      cases ht.symm.trans hst'
      rcases hid with ⟨o, ho, rfl⟩ | hid
      · refine .inr ?_
        cases hr with
        | filled tracked new =>
            cases tracked.symm.trans ho
            exact .inl (settled_note rfl
              (settled_of_fill hs.instrument new (hs.takeProfit _ tracked) _) _)
        | unfilled tracked report =>
            cases tracked.symm.trans ho
            refine .inl (settled_note rfl ?_ _)
            intro order a horder _ ha
            cases report.answer.symm.trans horder
            have hacc := hs.takeProfit _ tracked
            exact hacc.total.trans (hacc.reported _ _ report ha).symm
        | left tracked =>
            cases tracked.symm.trans ho
            refine .inr ⟨[_, _], rfl, _, List.mem_cons_of_mem _ (List.mem_singleton_self _), ?_⟩
            rw [h]
            exact .left st
      · exact .inl (.inr hid)
  | balance _ h =>
      cases h.symm.trans hst
      cases hst'
      exact .inl hid
  | emptied =>
      exact .inr (.inr ⟨[_, _], rfl, _, List.mem_cons_of_mem _ (List.mem_singleton_self _),
        .balance _ _⟩)
  | cleared _ h flat =>
      cases h.symm.trans hst
      refine .inr (.inr ⟨[_], rfl, _, List.mem_singleton_self _, ?_⟩)
      rw [h]
      exact .flat flat hid
  | entry _ h hc =>
      cases h.symm.trans hst
      cases hst'
      cases hc <;> exact .inl hid
  | entryFill _ h ha =>
      cases h.symm.trans hst
      cases hst'
      cases ha
      exact .inl hid
  | submitted _ h =>
      cases h.symm.trans hst
      cases hst'
      exact .inl hid

/-! ## Runs of steps -/

/-- An order a step places is settled. -/
theorem step_placed {new : List (Event F)} {e : Event F} {id : Text} (start : ExchangeState)
    (h : Step client scope s t) (hnew : t.log = new ++ s.log) (he : e ∈ new)
    (hplaced : e.placed = some id) : Settled start t.log id := by
  have hnotes : ∀ notes : List (Option ExchangeState × Note),
      t.log = notes.map (fun n => Event.note n.1 n.2) ++ s.log → False := by
    intro notes hlog
    rw [List.append_cancel_right (hnew.symm.trans hlog)] at he
    obtain ⟨n, -, rfl⟩ := List.mem_map.1 he
    cases hplaced
  cases h with
  | call h c guard =>
      have hnew : new = [_] := List.append_cancel_right
        (hnew.symm.trans (List.singleton_append).symm)
      rw [hnew] at he
      cases List.mem_singleton.1 he
      exact settled_of_placed hplaced
  | clock | counter | signal | stop | change | entry | submitted => exact (hnotes [] rfl).elim
  | account | balance | cleared | entryFill => exact (hnotes [(_, _)] rfl).elim
  | emptied => exact (hnotes [(_, _), (_, _)] rfl).elim
  | release _ _ hr =>
      cases hr with
      | unfilled => exact (hnotes [(_, _)] rfl).elim
      | filled | left => exact (hnotes [(_, _), (_, _)] rfl).elim

theorem feesMoveWithFills_of_steps (h : Relation.ReflTransGen (Step client scope) s t)
    (ht : feesMoveWithFills t.log = true) : feesMoveWithFills s.log = true := by
  induction h with
  | refl => exact ht
  | tail _ hstep ih =>
      obtain ⟨new, hnew⟩ := step_append hstep
      rw [hnew, feesMoveWithFills_append] at ht
      exact ih ht.2

/-- What holds of an exit order after steps from `s`, in a state `t` with the entries `new` added
to the log: if it was tracked at first, or placed since, it is tracked, settled or excused. -/
def Fate (start : ExchangeState) (s : Ctx F W) (st : ExchangeState) (id : Text) (t : Ctx F W) :
    Prop :=
  ∃ st' new, t.runner.exchange = some st' ∧ t.log = new ++ s.log ∧ Ledger start t.log st' ∧
    ((TracksExit st id ∨ ∃ e ∈ new, e.placed = some id) →
      TracksExit st' id ∨ Settled start t.log id ∨ ∃ e ∈ new, Excuse id e)

theorem fate_of_step {u v : Ctx F W} {id : Text} (h : Step client scope u v) (htag : Tagged u)
    (hid : HasExitPurpose (strategyTag u.runner.instanceId) id)
    (hfees : feesMoveWithFills v.log = true) (hu : Fate start s st id u) :
    Fate start s st id v := by
  obtain ⟨stu, new, hstu, hlog, hledger, hfate⟩ := hu
  obtain ⟨_, hx, htag⟩ := htag
  cases hx.symm.trans hstu
  obtain ⟨added, hadded⟩ := step_append h
  obtain ⟨stv, hstv, hledger'⟩ := step_ledger h hstu htag hfees hledger
  refine ⟨stv, added ++ new, hstv, ?_, hledger', fun hknown => ?_⟩
  · rw [hadded, hlog, List.append_assoc]
  by_cases hu : TracksExit st id ∨ ∃ e ∈ new, e.placed = some id
  · have hsettled : ¬ TracksExit stu id → Settled start u.log id → Settled start v.log id :=
      fun hnot hs => step_settled h hstu htag hid hnot hs
    by_cases htracks : TracksExit stu id
    · rcases step_fate h hstu hledger htracks hstv with hv | hv | ⟨d, hd, e, he, hexcuse⟩
      · exact .inl hv
      · exact .inr (.inl hv)
      · rw [List.append_cancel_right (hd.symm.trans hadded)] at he
        exact .inr (.inr ⟨e, List.mem_append_left _ he, hexcuse⟩)
    · rcases hfate hu with hu | hu | ⟨e, he, hexcuse⟩
      · exact absurd hu htracks
      · exact .inr (.inl (hsettled htracks hu))
      · exact .inr (.inr ⟨e, List.mem_append_right _ he, hexcuse⟩)
  · -- The order is placed in this step.
    obtain ⟨e, he, hp⟩ : ∃ e ∈ added ++ new, e.placed = some id :=
      hknown.resolve_left fun h => hu (.inl h)
    rcases List.mem_append.1 he with he | he
    · exact .inr (.inl (step_placed start h hadded he hp))
    · exact absurd (.inr ⟨e, he, hp⟩) hu

theorem steps_fate {id : Text} (h : Relation.ReflTransGen (Step client scope) s t)
    (hst : s.runner.exchange = some st) (htag : Tagged s)
    (hid : HasExitPurpose (strategyTag s.runner.instanceId) id)
    (hfees : feesMoveWithFills t.log = true) (hs : Ledger start s.log st) :
    Fate start s st id t := by
  have hinv := steps_invariant_while
    (C := fun u => feesMoveWithFills u.log = true)
    (I := fun u => u.runner.instanceId = s.runner.instanceId ∧ Tagged u ∧ Fate start s st id u)
    ?_ ?_ h hfees ⟨rfl, htag, st, [], hst, rfl, hs, ?_⟩
  · exact hinv.2.2
  · exact fun u v huv hv => feesMoveWithFills_of_steps (.single huv) hv
  · rintro u v huv hv ⟨hi, htagu, hu⟩
    exact ⟨(step_instanceId huv).trans hi, step_tagged huv htagu,
      fate_of_step huv htagu (by rw [hi]; exact hid) hv hu⟩
  · rintro (hknown | ⟨e, he, -⟩)
    · exact .inl hknown
    · cases he

/-! ## Fills of the entry -/

/-- All of the last report of `id` is accounted, live or not. -/
def ReportAccounted (start : ExchangeState) (log : List (Event F)) (id : Text) : Prop :=
  ∀ order a, lastReport log id = some (some order) →
    order.cumulativeSpotAccounting start.instrument.baseCcy start.instrument.quoteCcy = .ok a →
    accountedBase start.accounted log id = a.baseChange

theorem reportAccounted_of_same {log log' : List (Event F)} {id : Text}
    (hreport : lastReport log' id = lastReport log id)
    (htotal : accountedBase start.accounted log' id = accountedBase start.accounted log id)
    (h : ReportAccounted start log id) : ReportAccounted start log' id := by
  intro order a horder ha
  rw [htotal]
  exact h order a (hreport.symm.trans horder) ha

theorem reportAccounted_note {log : List (Event F)} {id : Text} {n : Note}
    (hn : n.baseChange id = 0) (h : ReportAccounted start log id) (ex : Option ExchangeState) :
    ReportAccounted start (.note ex n :: log) id := by
  refine reportAccounted_of_same (lastReport_note ex n log id) ?_ h
  rw [accountedBase, hn, zero_add]

/-- A fill of an exit order accounts nothing for an entry order. -/
theorem baseChange_of_account {tag : Text} {log : List (Event F)} {n : Note} {id : Text}
    (h : Account log st n st') (htag : st.Tagged tag) (hid : HasPurpose tag .entry id) :
    n.baseChange id = 0 := by
  obtain ⟨-, htp, hex⟩ := htag
  cases h with
  | takeProfitFill tracked =>
      rw [tracked] at htp
      refine baseChange_exitFill_ne (fun heq => ?_) _
      subst heq
      cases hid.unique htp
  | exitFill tracked | exitFillClosed tracked =>
      rw [tracked] at hex
      refine baseChange_exitFill_ne (fun heq => ?_) _
      subst heq
      cases hid.unique hex

/-- A step that leaves the entry to others keeps the report of an entry order accounted. -/
theorem step_reportAccounted {id : Text} (hentry : scope.entry = false)
    (h : Step client scope s t) (htag : Tagged s)
    (hid : HasPurpose (strategyTag s.runner.instanceId) .entry id)
    (hs : ReportAccounted start s.log id) : ReportAccounted start t.log id := by
  obtain ⟨st, hst, htag⟩ := htag
  cases h with
  | call h c guard =>
      by_cases hplaced :
          (Event.call s.runner.exchange c (client.perform c s.world).1).placed = some id
      · intro order a horder
        rw [answered_log, lastReport, if_pos hplaced] at horder
        cases horder
      · refine reportAccounted_of_same (lastReport_cons_of_other hplaced ?_ _) (if_neg hplaced) hs
        intro answer hlookup
        rcases lookup_of_callGuard guard hlookup with ⟨hallowed, -⟩ | ⟨-, -, hid'⟩ | ⟨-, -, hid'⟩
        · rw [hentry] at hallowed; cases hallowed
        · cases hid.unique hid'
        · cases hid.unique hid'
  | clock | counter | signal | stop | change | submitted => exact hs
  | account _ h ha =>
      cases h.symm.trans hst
      exact reportAccounted_note (baseChange_of_account ha htag hid) hs _
  | release _ h hr =>
      cases h.symm.trans hst
      cases hr with
      | filled tracked =>
          refine reportAccounted_note rfl (reportAccounted_note ?_ hs _) _
          have htp := htag.takeProfit
          rw [tracked] at htp
          refine baseChange_exitFill_ne (fun heq => ?_) _
          subst heq
          cases hid.unique htp
      | unfilled => exact reportAccounted_note rfl hs _
      | left => exact reportAccounted_note rfl (reportAccounted_note rfl hs _) _
  | balance | cleared => exact reportAccounted_note rfl hs _
  | emptied => exact reportAccounted_note rfl (reportAccounted_note rfl hs _) _
  | entry allowed | entryFill allowed => rw [hentry] at allowed; cases allowed

/-- The fill of the entry, once accounted, is all of its last report. -/
theorem reportAccounted_of_entryAccount {tag : Text} {log : List (Event F)} {n : Note}
    {o : TrackedOrder} (h : EntryAccount log st n st') (ho : st.entryOrder = some o)
    (htag : st.Tagged tag) (hs : Ledger start log st) (ex : Option ExchangeState) :
    ReportAccounted start (.note ex n :: log) o.clientOrderId := by
  have hledger := hs.entryAccount htag h ex
  intro order a horder ha
  cases h with
  | fill tracked new =>
      cases tracked.symm.trans ho
      rw [lastReport_note] at horder
      cases new.report.answer.symm.trans horder
      have hnew := new.accounting
      rw [hs.instrument] at hnew
      cases hnew.symm.trans ha
      exact (hledger.entry _ rfl).total

theorem reportAccounted_of_cancels {id : Text} (h : CancelsAtMost s t)
    (hs : ReportAccounted start s.log id) : ReportAccounted start t.log id := by
  rcases h with hlog | ⟨ex, instId, id', r, hlog⟩
  · rw [hlog]; exact hs
  · rw [hlog]
    exact reportAccounted_of_same
      (lastReport_cons_of_other (by rintro ⟨⟩) (by rintro _ ⟨⟩) _) rfl hs

/-- While fees move with fills, the ledger of the log is that of the state. -/
def LedgerKept (start : ExchangeState) (s : Ctx F W) : Prop :=
  Tagged s ∧ (feesMoveWithFills s.log = true →
    ∀ st, s.runner.exchange = some st → Ledger start s.log st)

theorem step_ledgerKept (h : Step client scope s t) (hs : LedgerKept start s) :
    LedgerKept start t := by
  obtain ⟨htag, hs⟩ := hs
  refine ⟨step_tagged h htag, fun hfees st' hst' => ?_⟩
  have hbefore := feesMoveWithFills_of_steps (.single h) hfees
  obtain ⟨st, hst, htag⟩ := htag
  obtain ⟨_, hst'', hledger⟩ := step_ledger h hst htag hfees (hs hbefore st hst)
  cases hst''.symm.trans hst'
  exact hledger

/-- The refresh of the entry order accounts the report it has got. -/
theorem reportAccounted_of_refreshed {o : TrackedOrder} (h : EntryRefreshed client s st o t)
    (hst : s.runner.exchange = some st) (ho : st.entryOrder = some o) (hs : LedgerKept start s)
    (hfees : feesMoveWithFills t.log = true) :
    ReportAccounted start t.log o.clientOrderId := by
  rcases h with hnone | ⟨u, v, order, fill, hstep, hrunner, report, hv, ht⟩
  · intro order a horder
    cases hnone.symm.trans horder
  refine reportAccounted_of_cancels ht ?_
  have hfees : feesMoveWithFills v.log = true := by
    rcases ht with hlog | ⟨_, _, _, _, hlog⟩
    · rwa [hlog] at hfees
    · rw [hlog] at hfees
      exact (feesMoveWithFills_cons.1 hfees).2
  have hu := step_ledgerKept hstep hs
  have hxu : u.runner.exchange = some st := by rw [hrunner]; exact hst
  obtain ⟨_, hx, htag⟩ := hu.1
  cases hx.symm.trans hxu
  have hid := htag.entry
  rw [ho] at hid
  rcases hv with ⟨hfill, rfl⟩ | ⟨n, st', haccount, hsteps⟩
  · intro order' a horder ha
    cases report.answer.symm.trans horder
    have hacc := (hu.2 hfees st hxu).entry o ho
    rw [← hfill] at report
    exact hacc.total.trans (hacc.reported _ _ report ha).symm
  · have hfees : feesMoveWithFills u.log = true :=
      (feesMoveWithFills_cons.1 (feesMoveWithFills_of_steps hsteps hfees)).2
    have hstart := reportAccounted_of_entryAccount haccount ho htag (hu.2 hfees st hxu)
      u.runner.exchange
    have hmid : Tagged ((u.noted n).withExchange (some st')) :=
      ⟨st', rfl, entryAccount_tagged haccount htag⟩
    exact (steps_invariant (I := fun w => w.runner.instanceId = u.runner.instanceId ∧ Tagged w ∧
      ReportAccounted start w.log o.clientOrderId) (fun w x hwx hw =>
        ⟨(step_instanceId hwx).trans hw.1, step_tagged hwx hw.2.1,
          step_reportAccounted rfl hwx hw.2.1 (by rw [hw.1]; exact hid) hw.2.2⟩)
      hsteps ⟨rfl, hmid, hstart⟩).2.2

/-! ## Whole runs -/

/-- What the log has had added since `s`. -/
def Ctx.since (t s : Ctx F W) : List (Event F) := t.log.take (t.log.length - s.log.length)

theorem since_of_append {new : List (Event F)} (h : t.log = new ++ s.log) : t.since s = new := by
  unfold Ctx.since
  rw [h, List.length_append, Nat.add_sub_cancel, List.take_left]

/-- Where `evaluate_stop_loss` left a fill to the balance in an operation with this outcome, it has
gone on to read the balance: neither a stop trigger nor a market exit stopped it, nor a check. -/
def leavesSafely (result : Except Stop Unit) (new : List (Event F)) : Bool :=
  new.all fun e => match e with
    | .note ex (.fillLeft _) => result.isOk && ex.all fun st =>
        st.stopLossOrder.isNone && st.stopLossExitOrder.isNone
    | _ => true

/-- What an operation that led from `before` to `after`, with this outcome, has accounted in a run
from `start`. -/
structure FillsAccounted (start : ExchangeState) (before : Ctx F W) (result : Except Stop Unit)
    (after : Ctx F W) : Prop where
  /-- The quantity of the position is the replayed one. -/
  quantity : ∀ st minSize, after.runner.exchange = some st →
    start.instrument.minSize = .ok minSize →
    st.position.map (·.quantity) =
      replayedQuantity minSize (start.position.map (·.quantity)) after.log
  /-- An exit order dropped in the operation, and last reported as not live, is accounted, or the
  balance replaced the quantity, or the position was gone before. -/
  exits : ∀ st st' id order a, before.runner.exchange = some st →
    after.runner.exchange = some st' →
    HasExitPurpose (strategyTag before.runner.instanceId) id →
    (TracksExit st id ∨ ∃ e ∈ after.since before, e.placed = some id) → ¬ TracksExit st' id →
    lastReport after.log id = some (some order) → order.isLive = false →
    order.cumulativeSpotAccounting start.instrument.baseCcy start.instrument.quoteCcy = .ok a →
    accountedBase start.accounted after.log id = a.baseChange ∨
      (∃ ex q, Event.note ex (.balance q) ∈ after.since before) ∨
      ∃ st'', Event.note (some st'') .cleared ∈ after.since before ∧ st''.position = none ∧
        TracksExit st'' id
  /-- A tracked order has accounted what it was last accounted with, and nothing twice. -/
  tracked : ∀ st o, after.runner.exchange = some st →
    o ∈ st.entryOrder ∨ o ∈ st.takeProfitOrder ∨ o ∈ st.stopLossExitOrder →
    accountedBase start.accounted after.log o.clientOrderId = o.lastAccountedBaseChange
  /-- All of the last report of the entry order is accounted where the operation returned. -/
  entries : result = .ok () → ∀ st o order a, before.runner.exchange = some st →
    st.entryOrder = some o → lastReport after.log o.clientOrderId = some (some order) →
    order.cumulativeSpotAccounting start.instrument.baseCcy start.instrument.quoteCcy = .ok a →
    accountedBase start.accounted after.log o.clientOrderId = a.baseChange

theorem accounted_of_tracked {tag : Text} (htag : start.Tagged tag) {o : TrackedOrder}
    (h : o ∈ start.orders) : start.accounted o.clientOrderId = o.lastAccountedBaseChange := by
  have hpurpose : ∀ x, x ∈ start.orders →
      (x ∈ start.entryOrder ∧ HasPurpose tag .entry x.clientOrderId) ∨
      (x ∈ start.takeProfitOrder ∧ HasPurpose tag .takeProfit x.clientOrderId) ∨
      (x ∈ start.stopLossExitOrder ∧ HasPurpose tag .stopLoss x.clientOrderId) := by
    intro x hx
    obtain ⟨he, htp, hex⟩ := htag
    rcases mem_orders.1 hx with hx | hx | hx
    · rw [Option.mem_def.1 hx] at he
      exact .inl ⟨hx, he⟩
    · rw [Option.mem_def.1 hx] at htp
      exact .inr (.inl ⟨hx, htp⟩)
    · rw [Option.mem_def.1 hx] at hex
      exact .inr (.inr ⟨hx, hex⟩)
  -- Orders of different purposes have different ids.
  have hunique : ∀ x ∈ start.orders, x.clientOrderId = o.clientOrderId → x = o := by
    intro x hx heq
    have ho := hpurpose o h
    rw [← heq] at ho
    rcases hpurpose x hx with ⟨hx, hid⟩ | ⟨hx, hid⟩ | ⟨hx, hid⟩ <;>
      rcases ho with ⟨ho, hid'⟩ | ⟨ho, hid'⟩ | ⟨ho, hid'⟩ <;>
        first
          | exact Option.mem_unique hx ho
          | cases hid.unique hid'
  unfold ExchangeState.accounted
  cases hfind : start.orders.find? fun x => decide (x.clientOrderId = o.clientOrderId) with
  | none =>
      have := List.find?_eq_none.1 hfind o h
      simp at this
  | some x =>
      rw [hunique x (List.mem_of_find?_eq_some hfind) (by simpa using List.find?_some hfind)]
      rfl

/-- At the start of a run the ledger is that of the state. -/
theorem ledger_start {tag : Text} (htag : start.Tagged tag) :
    Ledger start ([] : List (Event F)) start := by
  have hacc : ∀ o, o ∈ start.orders → OrderAccounted start ([] : List (Event F)) o :=
    fun o ho => ⟨accounted_of_tracked htag ho, fun _ _ report => (by cases report.answer)⟩
  exact ⟨rfl, fun o ho => hacc o (mem_orders.2 (.inl ho)),
    fun o ho => hacc o (mem_orders.2 (.inr (.inl ho))),
    fun o ho => hacc o (mem_orders.2 (.inr (.inr ho))), fun _ _ => rfl⟩

/-- A tick leaves a fill to the balance only where it goes on to read it. -/
theorem tick_leftBalanced [F64 F] {op : Operation} (hop : op.isTick = true) (hs : Tagged s) :
    Leads (Step client .all) (op.run client) s fun _ t => LeftBalanced s t := by
  have rule : TickRule client (NoFillLeft s) (LeftBalanced s) := by
    refine ⟨fun t ht hA => ?_, fun t u hstep hB => ?_, fun t ht hB => ?_, fun t u hstep hB => ?_⟩
    · exact (leads_noFillLeft rfl (refreshEntryOrder_leads ht ht.choose_spec.1)).mono
        fun _ u hu => (hA.trans hu.2).leftBalanced
    · exact hB.trans ((step_log hstep).resolve_right (by rintro ⟨⟨⟩, -⟩)).leftBalanced
    · exact (evaluateStopLoss_leads ht).mono fun _ u hu => hB.trans hu.2
    · exact hB.trans ((step_log hstep).resolve_right (by rintro ⟨⟨⟩, -⟩)).leftBalanced
  exact rule.tick hop hs (.refl s)
    ((leads_noFillLeft rfl (refreshBars_leads hs.choose_spec.1)).mono fun _ t ht => ht.2)

/-- A tick accounts the report of the entry order it began with. -/
theorem tick_reportAccounted [F64 F] {op : Operation} (hop : op.isTick = true)
    (hst : s.runner.exchange = some st) {o : TrackedOrder} (ho : st.entryOrder = some o)
    (hs : LedgerKept start s) :
    Leads (Step client .all) (op.run client) s fun _ t =>
      feesMoveWithFills t.log = true →
        ReportAccounted start t.log o.clientOrderId := by
  have hid : HasPurpose (strategyTag s.runner.instanceId) .entry o.clientOrderId := by
    obtain ⟨_, hx, htag⟩ := hs.1
    cases hx.symm.trans hst
    have hentry := htag.entry
    rwa [ho] at hentry
  have keep : ∀ {scope : Scope}, scope.entry = false → ∀ t u : Ctx F W, Step client scope t u →
      (Tagged t ∧ t.runner.instanceId = s.runner.instanceId ∧
        (feesMoveWithFills t.log = true →
          ReportAccounted start t.log o.clientOrderId)) →
      Tagged u ∧ u.runner.instanceId = s.runner.instanceId ∧
        (feesMoveWithFills u.log = true →
          ReportAccounted start u.log o.clientOrderId) := by
    rintro scope hentry t u hstep ⟨htag, hi, hB⟩
    refine ⟨step_tagged hstep htag, (step_instanceId hstep).trans hi, fun hfees => ?_⟩
    exact step_reportAccounted hentry hstep htag (by rw [hi]; exact hid)
      (hB (feesMoveWithFills_of_steps (.single hstep) hfees))
  have rule : TickRule client
      (fun t => (∃ ts, t.runner.exchange = some { st with lastBarTsMs := ts }) ∧
        t.runner.instanceId = s.runner.instanceId ∧ LedgerKept start t)
      (fun t => Tagged t ∧ t.runner.instanceId = s.runner.instanceId ∧
        (feesMoveWithFills t.log = true →
          ReportAccounted start t.log o.clientOrderId)) := by
    refine ⟨?_, keep rfl, fun t ht hB => ?_, keep rfl⟩
    · rintro t ht ⟨⟨ts, hx⟩, hi, hledger⟩
      refine ((refreshEntryOrder_leads ht hx).and_invariant (I := fun u => Tagged u ∧
        u.runner.instanceId = s.runner.instanceId) ?_ ⟨ht, hi⟩).mono ?_
      · exact fun u v huv hu => ⟨step_tagged huv hu.1, (step_instanceId huv).trans hu.2⟩
      · rintro _ u ⟨hu, htag, hi⟩
        exact ⟨htag, hi, reportAccounted_of_refreshed (hu o ho) hx ho hledger⟩
    · exact ((evaluateStopLoss_leads ht).and_invariant (keep rfl) hB).mono fun _ u hu => hu.2
  refine (rule.tick hop hs.1 ⟨⟨st.lastBarTsMs, hst⟩, rfl, hs⟩ ?_).mono fun _ t ht => ht.2.2
  refine ((refreshBars_leads hst).and_invariant (I := fun u =>
    u.runner.instanceId = s.runner.instanceId ∧ LedgerKept start u) ?_ ⟨rfl, hs⟩).mono ?_
  · exact fun u v huv hu => ⟨(step_instanceId huv).trans hu.1, step_ledgerKept huv hu.2⟩
  · exact fun _ t ht => ⟨ht.1, ht.2.1, ht.2.2⟩

theorem eq_ok_of_isOk {result : Except Stop Unit} (h : result.isOk = true) : result = .ok () := by
  cases result with
  | ok => rfl
  | error => cases h

/-- The entry of 10 is filled in the second minute; its stop trigger is listed from then on. -/
def protectedEntry (takeProfit : Nat → Nat → Text → OkxOrder) : Script :=
  (quietAnswer.withAlgos fun _ _ => [demoAlgo (demoId .stopLoss 1) .live 10 98]).withOrders
    fun minute calls id =>
      if id = demoId .entry 0 then some (demoOrder id .entry .filled 100 10 10)
      else if id = demoId .takeProfit 2 then some (takeProfit minute calls id)
      else none

/-- The take-profit is filled in the third minute. -/
def filledTakeProfit : Script :=
  protectedEntry fun _ _ id => demoOrder id .takeProfit .filled 102 10 10

/-- The fourth minute of the script drops the take-profit after the last report `report`, with base
change `reported`; only `accounted` of it is accounted, the position is `quantity`, and no balance
was read. -/
def DropsUnaccounted (answer : Script) (report : OkxOrder)
    (reported accounted quantity : Decimal) : Prop :=
  let client := scripted answer
  let before := runOperations client
    [.onConfirmedCandle, .onConfirmedCandle, .onReconcileTimer] demoReady
  let after := Operation.onReconcileTimer.run client before
  let id := demoId .takeProfit 2
  (before.runner.exchange.bind (·.takeProfitOrder)).map (·.clientOrderId) = some id ∧
    after.1 = .ok () ∧
    (after.2.runner.exchange.bind (·.takeProfitOrder)).map (·.clientOrderId) ≠ some id ∧
    lastReport after.2.log id = some (some report) ∧
    report.isLive = false ∧
    ((report.cumulativeSpotAccounting demoInstrument.baseCcy
      demoInstrument.quoteCcy).toOption.map (·.baseChange)) = some reported ∧
    accountedBase (ExchangeState.startup demoInstrument (some 2)).accounted after.2.log id =
      accounted ∧
    (after.2.runner.exchange.bind (·.position)).map (·.quantity) = some quantity ∧
    (after.2.since before).all (fun e => match e with
      | .note _ (.balance _) | .note _ .cleared => false
      | _ => true) = true

instance (answer : Script) (report : OkxOrder) (reported accounted quantity : Decimal) :
    Decidable (DropsUnaccounted answer report reported accounted quantity) := by
  unfold DropsUnaccounted
  infer_instance

/-- In the third minute the price crosses the stop-loss threshold and the take-profit is to be
cancelled; in the fourth it is still unfilled when it is refreshed, and cancelled with a fill of 4
when `evaluate_stop_loss` asks again. -/
def filledWhileReleased : Script :=
  (protectedEntry fun minute calls id =>
    if minute = 4 ∧ 3 ≤ calls then demoOrder id .takeProfit .canceled 102 4 10
    else demoOrder id .takeProfit .live 102 0 10).withLast fun minute =>
      if 3 ≤ minute then 98 else 102

/-- The take-profit cancelled with a fill of 4, and a fee of 0.1 in base. -/
def chargedTakeProfit : OkxOrder :=
  { demoOrder (demoId .takeProfit 2) .takeProfit .canceled 102 4 10 with
    fee := .value (-1 / 10)
    feeCurrency := demoInstrument.baseCcy }

/-- In the third minute the take-profit has a fill of 4, without a fee; in the fourth it is
cancelled with the same fill, and charged. -/
def chargedLater : Script :=
  protectedEntry fun minute _ id =>
    if minute ≤ 3 then demoOrder id .takeProfit .partiallyFilled 102 4 10
    else chargedTakeProfit

end OkxTrading
