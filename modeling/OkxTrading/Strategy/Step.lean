import OkxTrading.Strategy.Operations

/-!
# What a tick can do

One relation for everything a tick of an initialized runner does to its state and its log: client
calls, changes of the tracked orders and of the pending stop-loss, and the accounting of fills.
Each case carries what the source has checked where it happens.

* `lastReport` — the last answer for an order since it was submitted.
* `Change`, `Account`, `Release`, `EntryChange`, `EntryAccount` — the changes of the exchange
  state, with their notes in the log.
* `Scope`, `Step` — one step of a tick; a narrow scope leaves out whole kinds of steps.
* `Tagged` — every tracked order has an id of its own purpose; `step_tagged`: each step keeps it.
-/

namespace OkxTrading

open Effect OrderId

variable {F W : Type}

/-! ## Answers in the log -/

/-- The lookup of an order that was answered. -/
def Event.lookup : Event F → Option (Text × Option OkxOrder)
  | .call _ (.order _ id) (.ok answer) => some (id, answer)
  | _ => none

/-- The id of an order whose submission was accepted. -/
def Event.placed : Event F → Option Text
  | .call _ (.placeOrder _ _ _ _ _ id) (.ok _) => some id
  | _ => none

/-- The last answer to a lookup of the order `id` since it was submitted. -/
def lastReport : List (Event F) → Text → Option (Option OkxOrder)
  | [], _ => none
  | e :: log, id =>
      if e.placed = some id then none
      else match e.lookup with
        | some (i, answer) => if i = id then some answer else lastReport log id
        | none => lastReport log id

theorem lastReport_cons_of_other {e : Event F} {id : Text} (hplaced : e.placed ≠ some id)
    (hlookup : ∀ answer, e.lookup ≠ some (id, answer)) (log : List (Event F)) :
    lastReport (e :: log) id = lastReport log id := by
  rw [lastReport, if_neg hplaced]
  split
  · rename_i i answer he
    rw [if_neg]
    rintro rfl
    exact hlookup answer he
  · rfl

@[simp] theorem lastReport_note (ex : Option ExchangeState) (n : Note) (log : List (Event F))
    (id : Text) : lastReport (.note ex n :: log) id = lastReport log id :=
  lastReport_cons_of_other (by rintro ⟨⟩) (by rintro _ ⟨⟩) log

@[simp] theorem lastReport_order (ex : Option ExchangeState) (instId id : Text)
    (answer : Option OkxOrder) (log : List (Event F)) :
    lastReport (.call ex (.order instId id) (.ok answer) :: log) id = some answer := by
  simp [lastReport, Event.lookup, Event.placed]

theorem lastReport_order_ne {id id' : Text} (h : id' ≠ id) (ex : Option ExchangeState)
    (instId : Text) (r : Except Stop ((Call.order instId id').Reply F)) (log : List (Event F)) :
    lastReport (.call ex (.order instId id') r :: log) id = lastReport log id := by
  refine lastReport_cons_of_other (by rintro ⟨⟩) ?_ log
  intro answer he
  cases r with
  | ok a => cases he; exact h rfl
  | error e => cases he

theorem lastReport_placeOrder_ne {id id' : Text} (h : id' ≠ id) (ex : Option ExchangeState)
    (instId : Text) (side : OrderSide) (kind : OrderKind) (size : Decimal) (price : Option Decimal)
    (r : Except Stop ((Call.placeOrder instId side kind size price id').Reply F))
    (log : List (Event F)) :
    lastReport (.call ex (.placeOrder instId side kind size price id') r :: log) id =
      lastReport log id := by
  refine lastReport_cons_of_other ?_ (by rintro _ ⟨⟩) log
  intro he
  cases r with
  | ok a => cases he; exact h rfl
  | error e => cases he

/-- The submission of the order is the newest entry of the log. -/
def Placed (log : List (Event F)) (id : Text) : Prop :=
  ∃ e rest, log = e :: rest ∧ e.placed = some id

/-! ## Changes of the exchange state -/

/-- No order but a stop trigger is tracked, and there is no position: an entry may be placed. -/
structure ExchangeState.Idle (st : ExchangeState) : Prop where
  entry : st.entryOrder = none
  position : st.position = none
  takeProfit : st.takeProfitOrder = none
  exit : st.stopLossExitOrder = none
  pending : st.stopLossPending = none

/-- There is a position, and neither a market exit nor a pending stop-loss. -/
structure ExchangeState.Protectable (st : ExchangeState) : Prop where
  position : st.position.isSome
  exit : st.stopLossExitOrder = none
  pending : st.stopLossPending = none

/-- `order` is the last answer for `id`, with cumulative fill `fill`. -/
structure Reported (log : List (Event F)) (id : Text) (order : OkxOrder) (fill : Decimal) :
    Prop where
  answer : lastReport log id = some (some order)
  fillSize : order.fillSize = .ok fill

/-- A change that accounts no fill. -/
inductive Change (tag : Text) (log : List (Event F)) : ExchangeState → ExchangeState → Prop
  | bar {st} (ts : Int) : Change tag log st { st with lastBarTsMs := some ts }
  | takeProfitSubmitted {st id} (purpose : HasPurpose tag .takeProfit id) (placed : Placed log id)
      (idle : st.takeProfitOrder = none) (protectable : st.Protectable) :
      Change tag log st { st with takeProfitOrder := some (.submitted id) }
  | takeProfitCancelled {st o} (tracked : st.takeProfitOrder = some o) :
      Change tag log st { st with takeProfitOrder := some o.cancelled }
  | takeProfitAccounted {st o order a} (tracked : st.takeProfitOrder = some o)
      (report : Reported log o.clientOrderId order o.lastFillSize)
      (accounting : order.cumulativeSpotAccounting st.instrument.baseCcy
        st.instrument.quoteCcy = .ok a) :
      Change tag log st
        { st with takeProfitOrder := some (o.accounted o.lastFillSize a) }
  | takeProfitMissing {st o} (tracked : st.takeProfitOrder = some o)
      (answer : lastReport log o.clientOrderId = some none) :
      Change tag log st { st with takeProfitOrder := none }
  | takeProfitClosed {st o order} (tracked : st.takeProfitOrder = some o)
      (report : Reported log o.clientOrderId order o.lastFillSize)
      (closed : order.isLive = false) :
      Change tag log st { st with takeProfitOrder := none }
  | stopReported {st o o'} (tracked : st.stopLossOrder = some o)
      (same : o'.algoId = o.algoId ∧ o'.cancelRequested = o.cancelRequested) :
      Change tag log st { st with stopLossOrder := some o' }
  | stopDropped {st} : Change tag log st { st with stopLossOrder := none }
  | stopTriggered {st} (position : st.position.isSome) :
      Change tag log st
        { st with stopLossOrder := none, stopLossPending := some .exitReconciliation }
  | priceRecovered {st} (position : st.position.isSome) (exit : st.stopLossExitOrder = none) :
      Change tag log st { st with stopLossPending := none }
  | thresholdCrossed {st} (position : st.position.isSome) (pending : st.stopLossPending = none) :
      Change tag log st { st with stopLossPending := some .localThreshold }
  | exitSubmitted {st id} (purpose : HasPurpose tag .stopLoss id) (placed : Placed log id)
      (position : st.position.isSome) (takeProfit : st.takeProfitOrder = none)
      (stop : st.stopLossOrder = none) (idle : st.stopLossExitOrder = none) :
      Change tag log st
        { st with
          stopLossPending := some .exitReconciliation
          stopLossExitOrder := some (.submitted id) }
  | exitAccounted {st o order a} (tracked : st.stopLossExitOrder = some o)
      (report : Reported log o.clientOrderId order o.lastFillSize)
      (accounting : order.cumulativeSpotAccounting st.instrument.baseCcy
        st.instrument.quoteCcy = .ok a) :
      Change tag log st
        { st with stopLossExitOrder := some (o.accounted o.lastFillSize a) }
  | exitMissing {st o} (tracked : st.stopLossExitOrder = some o)
      (answer : lastReport log o.clientOrderId = some none) :
      Change tag log st { st with stopLossExitOrder := none }
  | exitClosed {st o order} (tracked : st.stopLossExitOrder = some o)
      (report : Reported log o.clientOrderId order o.lastFillSize)
      (closed : order.isLive = false) :
      Change tag log st { st with stopLossExitOrder := none }
  | exitRetried {st} (position : st.position.isSome) :
      Change tag log st { st with stopLossPending := some .exitReconciliation }

/-- A new stop trigger, or the cancel of the tracked one. -/
inductive StopChange : ExchangeState → ExchangeState → Prop
  | submitted {st o} (idle : st.stopLossOrder = none) (protectable : st.Protectable)
      (fresh : o.cancelRequested = false) :
      StopChange st { st with stopLossOrder := some o }
  | cancelled {st o} (tracked : st.stopLossOrder = some o) :
      StopChange st { st with stopLossOrder := some { o with cancelRequested := true } }

/-- A change of the entry order that accounts no fill. -/
inductive EntryChange (log : List (Event F)) : ExchangeState → ExchangeState → Prop
  | cancelled {st o} (tracked : st.entryOrder = some o) :
      EntryChange log st { st with entryOrder := some o.cancelled }
  | closed {st o order} (tracked : st.entryOrder = some o)
      (answer : lastReport log o.clientOrderId = some (some order))
      (closed : order.isLive = false) : EntryChange log st { st with entryOrder := none }

def ExchangeState.withTakeProfit (st : ExchangeState) (o : Option TrackedOrder) : ExchangeState :=
  { st with takeProfitOrder := o }

def ExchangeState.withStopLoss (st : ExchangeState) (o : Option TrackedAlgoOrder) :
    ExchangeState :=
  { st with stopLossOrder := o }

def ExchangeState.withExit (st : ExchangeState) (o : Option TrackedOrder) : ExchangeState :=
  { st with stopLossExitOrder := o }

/-- The position with `amount` less. -/
def ExchangeState.reduce (st : ExchangeState) (amount minSize : Decimal) : ExchangeState :=
  { st with position := st.position.bind (·.reduced amount minSize) }

/-- The report of a fill of the tracked order `o` beyond what was accounted. -/
structure NewFill (log : List (Event F)) (st : ExchangeState) (o : TrackedOrder)
    (order : OkxOrder) (fill : Decimal) (a : OkxSpotFillAccounting) : Prop where
  report : Reported log o.clientOrderId order fill
  accounting : order.cumulativeSpotAccounting st.instrument.baseCcy st.instrument.quoteCcy = .ok a
  more : o.lastFillSize < fill

/-- A fill of an exit order reduces the position. -/
inductive Account (log : List (Event F)) : ExchangeState → Note → ExchangeState → Prop
  | takeProfitFill {st o order fill a minSize} (tracked : st.takeProfitOrder = some o)
      (new : NewFill log st o order fill a) (min : st.instrument.minSize = .ok minSize) :
      Account log st (.exitFill o.clientOrderId (o.lastAccountedBaseChange - a.baseChange))
        ((st.reduce (o.lastAccountedBaseChange - a.baseChange) minSize).withTakeProfit
          (some (o.accounted fill a)))
  | exitFill {st o order fill a minSize} (tracked : st.stopLossExitOrder = some o)
      (new : NewFill log st o order fill a) (min : st.instrument.minSize = .ok minSize)
      (live : order.isLive = true) :
      Account log st (.exitFill o.clientOrderId (o.lastAccountedBaseChange - a.baseChange))
        ((st.reduce (o.lastAccountedBaseChange - a.baseChange) minSize).withExit
          (some (o.accounted fill a)))
  | exitFillClosed {st o order fill a minSize} (tracked : st.stopLossExitOrder = some o)
      (new : NewFill log st o order fill a) (min : st.instrument.minSize = .ok minSize)
      (closed : order.isLive = false) :
      Account log st (.exitFill o.clientOrderId (o.lastAccountedBaseChange - a.baseChange))
        ((st.reduce (o.lastAccountedBaseChange - a.baseChange) minSize).withExit
          none)

/-- The entry order after one more report, as `update_entry_tracking` leaves it. -/
def TrackedOrder.entryAccounted (self : TrackedOrder) (fill : Decimal)
    (a : OkxSpotFillAccounting) (price : Option Decimal) : TrackedOrder :=
  { self.accounted fill a with lastAverageFillPrice := price }

/-- A fill of the entry order opens or enlarges the position. -/
inductive EntryAccount (log : List (Event F)) : ExchangeState → Note → ExchangeState → Prop
  | fill {st o order fill a p price} (tracked : st.entryOrder = some o)
      (new : NewFill log st o order fill a)
      (amount : 0 < a.baseChange - o.lastAccountedBaseChange)
      (quantity : p.quantity = st.position.elim 0 OpenPosition.quantity +
        (a.baseChange - o.lastAccountedBaseChange)) :
      EntryAccount log st
        (.entryFill o.clientOrderId (a.baseChange - o.lastAccountedBaseChange))
        { st with
          entryOrder := some (o.entryAccounted fill a price)
          position := some p }

/-! ## Steps -/

/-- `evaluate_stop_loss` drops a closed take-profit: with its new fill accounted, without one, or
with a new fill that is left to the balance because a stop-loss was pending. -/
inductive Release (s : Ctx F W) (st : ExchangeState) : Ctx F W → Prop
  | filled {o order fill a minSize} (tracked : st.takeProfitOrder = some o)
      (new : NewFill s.log st o order fill a) (min : st.instrument.minSize = .ok minSize)
      (closed : order.isLive = false) (pending : st.stopLossPending = some .localThreshold) :
      Release s st
        (((((s.noted (.exitFill o.clientOrderId
          (o.lastAccountedBaseChange - a.baseChange))).withExchange
          (some (st.reduce (o.lastAccountedBaseChange - a.baseChange) minSize))).noted
          (.released o.clientOrderId))).withExchange
          (some ((st.reduce (o.lastAccountedBaseChange - a.baseChange) minSize).withTakeProfit
            none)))
  | unfilled {o order} (tracked : st.takeProfitOrder = some o)
      (report : Reported s.log o.clientOrderId order o.lastFillSize)
      (closed : order.isLive = false) :
      Release s st
        ((s.noted (.released o.clientOrderId)).withExchange (some (st.withTakeProfit none)))
  | left {o order fill} (tracked : st.takeProfitOrder = some o)
      (report : Reported s.log o.clientOrderId order fill) (closed : order.isLive = false)
      (more : o.lastFillSize < fill) (pending : st.stopLossPending.isSome) :
      Release s st
        (((s.noted (.fillLeft o.clientOrderId)).noted (.released o.clientOrderId)).withExchange
          (some (st.withTakeProfit none)))

/-- What kinds of steps a part of a tick may make, beyond those of the stop trigger. -/
structure Scope where
  /-- Take-profit, market exit, pending stop-loss, and the balance. -/
  exits : Bool
  /-- Fills of exit orders. -/
  reduces : Bool
  /-- The take-profit is dropped before a market exit. -/
  releases : Bool
  /-- Lookups, fills and cancels of the entry order. -/
  entry : Bool
  /-- New entry orders. -/
  submits : Bool
  deriving DecidableEq

namespace Scope

/-- Nothing but the stop trigger changes. -/
def stop : Scope := ⟨false, false, false, false, false⟩

/-- Exits change, but no fill of theirs is accounted. -/
def quiet : Scope := ⟨true, false, false, false, false⟩

/-- Exits change and their fills are accounted. -/
def refresh : Scope := ⟨true, true, false, false, false⟩

/-- `evaluate_stop_loss`. -/
def release : Scope := ⟨true, false, true, false, false⟩

/-- `refresh_entry_order` and what it calls. -/
def fill : Scope := ⟨true, true, false, true, false⟩

/-- `evaluate_entry`. -/
def submit : Scope := ⟨false, false, false, false, true⟩

/-- A whole tick. -/
def all : Scope := ⟨true, true, true, true, true⟩

/-- Whatever `a` allows, `b` allows. -/
structure Le (a b : Scope) : Prop where
  exits : a.exits = true → b.exits = true
  reduces : a.reduces = true → b.reduces = true
  releases : a.releases = true → b.releases = true
  entry : a.entry = true → b.entry = true
  submits : a.submits = true → b.submits = true

theorem le_all (a : Scope) : a.Le .all :=
  ⟨fun _ => rfl, fun _ => rfl, fun _ => rfl, fun _ => rfl, fun _ => rfl⟩

theorem stop_le (a : Scope) : stop.Le a :=
  ⟨fun h => (by cases h), fun h => (by cases h), fun h => (by cases h), fun h => (by cases h),
    fun h => (by cases h)⟩

theorem quiet_le_refresh : quiet.Le refresh :=
  ⟨fun _ => rfl, fun h => (by cases h), fun h => (by cases h), fun h => (by cases h),
    fun h => (by cases h)⟩

theorem quiet_le_release : quiet.Le release :=
  ⟨fun _ => rfl, fun h => (by cases h), fun _ => rfl, fun h => (by cases h), fun h => (by cases h)⟩

theorem refresh_le_fill : refresh.Le fill :=
  ⟨fun _ => rfl, fun _ => rfl, fun h => (by cases h), fun h => (by cases h), fun h => (by cases h)⟩

end Scope

/-- The order with this id is tracked here. -/
def Tracks (tracked : Option TrackedOrder) (id : Text) : Prop :=
  ∃ o, tracked = some o ∧ o.clientOrderId = id

/-- What the source has checked where it makes a call; only tracked orders are looked up. -/
def CallGuard (scope : Scope) (tag : Text) (st : ExchangeState) : Call → Prop
  | .placeOrder _ .buy _ _ _ id => scope.submits = true ∧ st.Idle ∧ HasPurpose tag .entry id
  | .placeOrder _ .sell .limit _ _ id =>
      scope.exits = true ∧ st.takeProfitOrder = none ∧ st.Protectable ∧
        HasPurpose tag .takeProfit id
  | .placeOrder _ .sell _ _ _ id =>
      scope.exits = true ∧ st.position.isSome ∧ st.takeProfitOrder = none ∧
        st.stopLossOrder = none ∧ st.stopLossExitOrder = none ∧ HasPurpose tag .stopLoss id
  | .placeTriggerOrder _ _ _ _ _ => st.stopLossOrder = none ∧ st.Protectable
  | .order _ id =>
      (scope.entry = true ∧ Tracks st.entryOrder id ∧ HasPurpose tag .entry id) ∨
      (scope.exits = true ∧ Tracks st.takeProfitOrder id ∧ HasPurpose tag .takeProfit id) ∨
      (scope.exits = true ∧ Tracks st.stopLossExitOrder id ∧ HasPurpose tag .stopLoss id)
  | _ => True

theorem CallGuard.mono {a b : Scope} (hab : a.Le b) {tag : Text} {st : ExchangeState} {c : Call}
    (h : CallGuard a tag st c) : CallGuard b tag st c := by
  unfold CallGuard at h ⊢
  split at h
  · exact ⟨hab.submits h.1, h.2⟩
  · exact ⟨hab.exits h.1, h.2⟩
  · exact ⟨hab.exits h.1, h.2⟩
  · exact h
  · exact h.imp (fun h => ⟨hab.entry h.1, h.2⟩)
      (Or.imp (fun h => ⟨hab.exits h.1, h.2⟩) fun h => ⟨hab.exits h.1, h.2⟩)
  · trivial

/-- One step of a tick with this client. -/
inductive Step (client : OkxClient F W) (scope : Scope) : Ctx F W → Ctx F W → Prop
  | call {s : Ctx F W} {st : ExchangeState} (h : s.runner.exchange = some st) (c : Call)
      (guard : CallGuard scope (strategyTag s.runner.instanceId) st c) :
      Step client scope s
        (s.answered c (client.perform c s.world).1 (client.perform c s.world).2)
  | clock (s : Ctx F W) : Step client scope s { s with world := (client.nowMs s.world).2 }
  | counter (s : Ctx F W) :
      Step client scope s { s with world := (client.nextSequence s.world).2 }
  | signal (s : Ctx F W) (signal : SignalState F) :
      Step client scope s { s with runner := { s.runner with signal := signal } }
  | stop {s : Ctx F W} {st st' : ExchangeState} (h : s.runner.exchange = some st)
      (change : StopChange st st') : Step client scope s (s.withExchange (some st'))
  | change {s : Ctx F W} {st st' : ExchangeState} (allowed : scope.exits = true)
      (h : s.runner.exchange = some st)
      (change : Change (strategyTag s.runner.instanceId) s.log st st') :
      Step client scope s (s.withExchange (some st'))
  | account {s : Ctx F W} {st st' : ExchangeState} {n : Note} (allowed : scope.reduces = true)
      (h : s.runner.exchange = some st) (account : Account s.log st n st') :
      Step client scope s ((s.noted n).withExchange (some st'))
  | release {s t : Ctx F W} {st : ExchangeState} (allowed : scope.releases = true)
      (h : s.runner.exchange = some st) (release : Release s st t) : Step client scope s t
  | balance {s : Ctx F W} {st : ExchangeState} {p : OpenPosition} {q : Decimal}
      (allowed : scope.exits = true) (h : s.runner.exchange = some st)
      (position : st.position = some p) (pos : 0 < q) (le : q ≤ p.quantity) :
      Step client scope s ((s.noted (.balance q)).withExchange
        (some { st with position := some { p with quantity := q } }))
  | emptied {s : Ctx F W} {st : ExchangeState} {q : Decimal} (allowed : scope.exits = true)
      (h : s.runner.exchange = some st) (position : st.position.isSome) (empty : q ≤ 0) :
      Step client scope s (((s.noted (.balance q)).noted .cleared).withExchange (some st.clear))
  | cleared {s : Ctx F W} {st : ExchangeState} (allowed : scope.exits = true)
      (h : s.runner.exchange = some st) (flat : st.position = none) :
      Step client scope s ((s.noted .cleared).withExchange (some st.clear))
  | entry {s : Ctx F W} {st st' : ExchangeState} (allowed : scope.entry = true)
      (h : s.runner.exchange = some st) (change : EntryChange s.log st st') :
      Step client scope s (s.withExchange (some st'))
  | entryFill {s : Ctx F W} {st st' : ExchangeState} {n : Note} (allowed : scope.entry = true)
      (h : s.runner.exchange = some st) (account : EntryAccount s.log st n st') :
      Step client scope s ((s.noted n).withExchange (some st'))
  | submitted {s : Ctx F W} {st : ExchangeState} {id : Text} (allowed : scope.submits = true)
      (h : s.runner.exchange = some st) (placed : Placed s.log id) (idle : st.Idle)
      (purpose : HasPurpose (strategyTag s.runner.instanceId) .entry id) :
      Step client scope s (s.withExchange (some { st with entryOrder := some (.submitted id) }))

theorem Step.mono {client : OkxClient F W} {a b : Scope} (hab : a.Le b) {s t : Ctx F W}
    (h : Step client a s t) : Step client b s t := by
  cases h with
  | call h c guard => exact .call h c (guard.mono hab)
  | clock => exact .clock s
  | counter => exact .counter s
  | signal signal => exact .signal s signal
  | stop h change => exact .stop h change
  | change allowed h change => exact .change (hab.exits allowed) h change
  | account allowed h account => exact .account (hab.reduces allowed) h account
  | release allowed h release => exact .release (hab.releases allowed) h release
  | balance allowed h position pos le => exact .balance (hab.exits allowed) h position pos le
  | emptied allowed h position empty => exact .emptied (hab.exits allowed) h position empty
  | cleared allowed h flat => exact .cleared (hab.exits allowed) h flat
  | entry allowed h change => exact .entry (hab.entry allowed) h change
  | entryFill allowed h account => exact .entryFill (hab.entry allowed) h account
  | submitted allowed h placed idle purpose =>
      exact .submitted (hab.submits allowed) h placed idle purpose

/-! ## Ids of the tracked orders -/

/-- The order, if there is one, has an id of this purpose. -/
def HasTag (tag : Text) (purpose : OrderPurpose) : Option TrackedOrder → Prop
  | none => True
  | some o => HasPurpose tag purpose o.clientOrderId

/-- Every tracked order has an id of its own purpose. -/
structure ExchangeState.Tagged (tag : Text) (st : ExchangeState) : Prop where
  entry : HasTag tag .entry st.entryOrder
  takeProfit : HasTag tag .takeProfit st.takeProfitOrder
  exit : HasTag tag .stopLoss st.stopLossExitOrder

/-- The runner is initialized and its tracked orders have ids of their purposes. -/
def Tagged (s : Ctx F W) : Prop :=
  ∃ st, s.runner.exchange = some st ∧ st.Tagged (strategyTag s.runner.instanceId)

theorem change_tagged {tag : Text} {log : List (Event F)} {st st' : ExchangeState}
    (h : Change tag log st st') (ht : st.Tagged tag) : st'.Tagged tag := by
  obtain ⟨he, htp, hx⟩ := ht
  cases h with
  | takeProfitSubmitted purpose => exact ⟨he, purpose, hx⟩
  | takeProfitCancelled tracked | takeProfitAccounted tracked =>
      rw [tracked] at htp
      exact ⟨he, htp, hx⟩
  | takeProfitMissing | takeProfitClosed => exact ⟨he, trivial, hx⟩
  | exitSubmitted purpose => exact ⟨he, htp, purpose⟩
  | exitAccounted tracked =>
      rw [tracked] at hx
      exact ⟨he, htp, hx⟩
  | exitMissing | exitClosed => exact ⟨he, htp, trivial⟩
  | bar | stopReported | stopDropped | stopTriggered | priceRecovered
  | thresholdCrossed | exitRetried => exact ⟨he, htp, hx⟩

theorem stopChange_tagged {tag : Text} {st st' : ExchangeState} (h : StopChange st st')
    (ht : st.Tagged tag) : st'.Tagged tag := by
  cases h <;> exact ⟨ht.entry, ht.takeProfit, ht.exit⟩

theorem account_tagged {tag : Text} {log : List (Event F)} {st st' : ExchangeState} {n : Note}
    (h : Account log st n st') (ht : st.Tagged tag) : st'.Tagged tag := by
  obtain ⟨he, htp, hx⟩ := ht
  cases h with
  | takeProfitFill tracked =>
      rw [tracked] at htp
      exact ⟨he, htp, hx⟩
  | exitFill tracked =>
      rw [tracked] at hx
      exact ⟨he, htp, hx⟩
  | exitFillClosed => exact ⟨he, htp, trivial⟩

theorem entryChange_tagged {tag : Text} {log : List (Event F)} {st st' : ExchangeState}
    (h : EntryChange log st st') (ht : st.Tagged tag) : st'.Tagged tag := by
  obtain ⟨he, htp, hx⟩ := ht
  cases h with
  | cancelled tracked =>
      rw [tracked] at he
      exact ⟨he, htp, hx⟩
  | closed => exact ⟨trivial, htp, hx⟩

theorem entryAccount_tagged {tag : Text} {log : List (Event F)} {st st' : ExchangeState}
    {n : Note} (h : EntryAccount log st n st') (ht : st.Tagged tag) : st'.Tagged tag := by
  obtain ⟨he, htp, hx⟩ := ht
  cases h with
  | fill tracked =>
      rw [tracked] at he
      exact ⟨he, htp, hx⟩

/-- What a release of the take-profit leaves: the position, reduced or not, and no take-profit. -/
theorem release_exchange {s t : Ctx F W} {st : ExchangeState} (h : Release s st t) :
    t.runner.instanceId = s.runner.instanceId ∧ ∃ position,
      t.runner.exchange = some { st with takeProfitOrder := none, position := position } := by
  cases h with
  | filled => exact ⟨rfl, _, rfl⟩
  | unfilled | left => exact ⟨rfl, st.position, rfl⟩

/-- **Each step keeps the ids of the tracked orders apart by purpose.** -/
theorem step_tagged {client : OkxClient F W} {scope : Scope} {s t : Ctx F W}
    (h : Step client scope s t) (hs : Tagged s) : Tagged t := by
  obtain ⟨st, hst, ht⟩ := hs
  cases h with
  | call | clock | counter | signal => exact ⟨st, hst, ht⟩
  | stop h hc => cases h.symm.trans hst; exact ⟨_, rfl, stopChange_tagged hc ht⟩
  | change _ h hc => cases h.symm.trans hst; exact ⟨_, rfl, change_tagged hc ht⟩
  | account _ h ha => cases h.symm.trans hst; exact ⟨_, rfl, account_tagged ha ht⟩
  | release _ h hr =>
      cases h.symm.trans hst
      obtain ⟨hi, position, ht'⟩ := release_exchange hr
      exact ⟨_, ht', by rw [hi]; exact ⟨ht.entry, trivial, ht.exit⟩⟩
  | balance _ h => cases h.symm.trans hst; exact ⟨_, rfl, ⟨ht.entry, ht.takeProfit, ht.exit⟩⟩
  | emptied _ h | cleared _ h => exact ⟨_, rfl, ⟨trivial, trivial, trivial⟩⟩
  | entry _ h hc => cases h.symm.trans hst; exact ⟨_, rfl, entryChange_tagged hc ht⟩
  | entryFill _ h ha => cases h.symm.trans hst; exact ⟨_, rfl, entryAccount_tagged ha ht⟩
  | submitted _ h _ _ purpose =>
      cases h.symm.trans hst
      exact ⟨_, rfl, ⟨purpose, ht.takeProfit, ht.exit⟩⟩

/-! ## Frames of the scopes -/

/-- Nothing but the stop trigger may differ, and no order was looked up or placed. -/
def StopFrame (s t : Ctx F W) : Prop :=
  ∀ st, s.runner.exchange = some st →
    (∃ o, t.runner.exchange = some { st with stopLossOrder := o }) ∧
    t.runner.instanceId = s.runner.instanceId ∧
    ∀ id, lastReport t.log id = lastReport s.log id

theorem StopFrame.refl (s : Ctx F W) : StopFrame s s :=
  fun st h => ⟨⟨st.stopLossOrder, h⟩, rfl, fun _ => rfl⟩

theorem StopFrame.trans {s t u : Ctx F W} (h : StopFrame s t) (h' : StopFrame t u) :
    StopFrame s u := by
  intro st hst
  obtain ⟨⟨o, ht⟩, hi, hl⟩ := h st hst
  obtain ⟨⟨o', hu⟩, hi', hl'⟩ := h' _ ht
  exact ⟨⟨o', hu⟩, hi'.trans hi, fun id => (hl' id).trans (hl id)⟩

/-- What is looked up and placed in a scope; the rest of the calls leaves the reports alone. -/
theorem lastReport_call {scope : Scope} {tag : Text} {st : ExchangeState} {c : Call}
    (guard : CallGuard scope tag st c) (ex : Option ExchangeState) (r : Except Stop (c.Reply F))
    (log : List (Event F)) (id : Text) :
    lastReport (.call ex c r :: log) id = lastReport log id ∨
      (scope.exits = true ∧ (HasPurpose tag .takeProfit id ∨ HasPurpose tag .stopLoss id)) ∨
      (scope.entry = true ∧ Tracks st.entryOrder id ∧ HasPurpose tag .entry id) ∨
      (scope.submits = true ∧ st.Idle ∧ HasPurpose tag .entry id) := by
  cases c with
  | order instId id' =>
      by_cases hne : id' = id
      · subst hne
        rcases guard with h | ⟨he, -, hp⟩ | ⟨he, -, hp⟩
        · exact .inr (.inr (.inl h))
        · exact .inr (.inl ⟨he, .inl hp⟩)
        · exact .inr (.inl ⟨he, .inr hp⟩)
      · exact .inl (lastReport_order_ne hne _ _ _ _)
  | placeOrder instId side kind size price id' =>
      by_cases hne : id' = id
      · subst hne
        cases side with
        | buy => exact .inr (.inr (.inr guard))
        | sell =>
            cases kind with
            | limit => exact .inr (.inl ⟨guard.1, .inl guard.2.2.2⟩)
            | market | postOnly => exact .inr (.inl ⟨guard.1, .inr guard.2.2.2.2.2⟩)
      · exact .inl (lastReport_placeOrder_ne hne _ _ _ _ _ _ _ _)
  | _ => exact .inl (lastReport_cons_of_other (by rintro ⟨⟩) (by rintro _ ⟨⟩) log)

theorem stopFrame_of_step {client : OkxClient F W} {s t : Ctx F W} (h : Step client .stop s t) :
    StopFrame s t := by
  intro st hst
  cases h with
  | call h c guard =>
      refine ⟨⟨_, hst⟩, rfl, fun id => ?_⟩
      rcases lastReport_call guard s.runner.exchange (client.perform c s.world).1 s.log id with
        hsame | ⟨h, -⟩ | ⟨h, -⟩ | ⟨h, -⟩
      · exact hsame
      all_goals cases h
  | clock | counter | signal => exact ⟨⟨_, hst⟩, rfl, fun _ => rfl⟩
  | stop h hc =>
      cases h.symm.trans hst
      cases hc <;> exact ⟨⟨_, rfl⟩, rfl, fun _ => rfl⟩
  | change allowed | account allowed | release allowed | balance allowed | emptied allowed
  | cleared allowed | entry allowed | entryFill allowed | submitted allowed => cases allowed

/-- The entry order is the same or dropped, and no entry order was looked up or placed. -/
def EntryFrame (s t : Ctx F W) : Prop :=
  ∀ st, s.runner.exchange = some st →
    (∃ st', t.runner.exchange = some st' ∧
      (st'.entryOrder = st.entryOrder ∨ st'.entryOrder = none)) ∧
    t.runner.instanceId = s.runner.instanceId ∧
    ∀ id, HasPurpose (strategyTag s.runner.instanceId) .entry id →
      lastReport t.log id = lastReport s.log id

theorem EntryFrame.refl (s : Ctx F W) : EntryFrame s s :=
  fun st h => ⟨⟨st, h, .inl rfl⟩, rfl, fun _ _ => rfl⟩

theorem EntryFrame.trans {s t u : Ctx F W} (h : EntryFrame s t) (h' : EntryFrame t u) :
    EntryFrame s u := by
  intro st hst
  obtain ⟨⟨st', ht, he⟩, hi, hl⟩ := h st hst
  obtain ⟨⟨st'', hu, he'⟩, hi', hl'⟩ := h' _ ht
  refine ⟨⟨st'', hu, ?_⟩, hi'.trans hi, fun id hid => ?_⟩
  · rcases he' with he' | he'
    · rw [he']; exact he
    · exact .inr he'
  · exact (hl' id (by rw [hi]; exact hid)).trans (hl id hid)

theorem change_entryOrder {tag : Text} {log : List (Event F)} {st st' : ExchangeState}
    (h : Change tag log st st') : st'.entryOrder = st.entryOrder := by
  cases h <;> rfl

theorem account_entryOrder {log : List (Event F)} {st st' : ExchangeState} {n : Note}
    (h : Account log st n st') : st'.entryOrder = st.entryOrder := by
  cases h <;> rfl

theorem stopChange_entryOrder {st st' : ExchangeState} (h : StopChange st st') :
    st'.entryOrder = st.entryOrder := by
  cases h <;> rfl

theorem release_log {s t : Ctx F W} {st : ExchangeState} (h : Release s st t) (id : Text) :
    lastReport t.log id = lastReport s.log id := by
  cases h <;> simp

theorem entryFrame_of_step {client : OkxClient F W} {scope : Scope} (hentry : scope.entry = false)
    (hsubmits : scope.submits = false) {s t : Ctx F W} (h : Step client scope s t) :
    EntryFrame s t := by
  intro st hst
  cases h with
  | call h c guard =>
      refine ⟨⟨st, hst, .inl rfl⟩, rfl, fun id hid => ?_⟩
      rcases lastReport_call guard s.runner.exchange (client.perform c s.world).1 s.log id with
        hsame | ⟨-, hid' | hid'⟩ | ⟨h, -⟩ | ⟨h, -⟩
      · exact hsame
      · cases hid.unique hid'
      · cases hid.unique hid'
      · rw [hentry] at h; cases h
      · rw [hsubmits] at h; cases h
  | clock | counter | signal => exact ⟨⟨st, hst, .inl rfl⟩, rfl, fun _ _ => rfl⟩
  | stop h hc =>
      cases h.symm.trans hst
      exact ⟨⟨_, rfl, .inl (stopChange_entryOrder hc)⟩, rfl, fun _ _ => rfl⟩
  | change _ h hc =>
      cases h.symm.trans hst
      exact ⟨⟨_, rfl, .inl (change_entryOrder hc)⟩, rfl, fun _ _ => rfl⟩
  | account _ h ha =>
      cases h.symm.trans hst
      exact ⟨⟨_, rfl, .inl (account_entryOrder ha)⟩, rfl, fun id _ => lastReport_note _ _ _ id⟩
  | release _ h hr =>
      cases h.symm.trans hst
      obtain ⟨hi, position, ht⟩ := release_exchange hr
      exact ⟨⟨_, ht, .inl rfl⟩, hi, fun id _ => release_log hr id⟩
  | balance _ h =>
      cases h.symm.trans hst
      exact ⟨⟨_, rfl, .inl rfl⟩, rfl, fun id _ => lastReport_note _ _ _ id⟩
  | emptied _ h => exact ⟨⟨_, rfl, .inr rfl⟩, rfl, fun id _ => by simp⟩
  | cleared _ h => exact ⟨⟨_, rfl, .inr rfl⟩, rfl, fun id _ => by simp⟩
  | entry allowed | entryFill allowed => rw [hentry] at allowed; cases allowed
  | submitted allowed => rw [hsubmits] at allowed; cases allowed

/-! ## The log of a step -/

theorem step_instanceId {client : OkxClient F W} {scope : Scope} {s t : Ctx F W}
    (h : Step client scope s t) : t.runner.instanceId = s.runner.instanceId := by
  cases h with
  | release _ _ hr => exact (release_exchange hr).1
  | _ => rfl

/-- The log of `s` with entries before it, and no fill was left to the balance. -/
def NoFillLeft (s t : Ctx F W) : Prop :=
  ∃ new, t.log = new ++ s.log ∧ ∀ ex id, Event.note ex (.fillLeft id) ∉ new

theorem NoFillLeft.refl (s : Ctx F W) : NoFillLeft s s := ⟨[], rfl, fun _ _ h => by cases h⟩

theorem NoFillLeft.trans {s t u : Ctx F W} (h : NoFillLeft s t) (h' : NoFillLeft t u) :
    NoFillLeft s u := by
  obtain ⟨new, hlog, hnew⟩ := h
  obtain ⟨new', hlog', hnew'⟩ := h'
  refine ⟨new' ++ new, by rw [hlog', hlog, List.append_assoc], fun ex id hmem => ?_⟩
  rcases List.mem_append.1 hmem with hmem | hmem
  · exact hnew' ex id hmem
  · exact hnew ex id hmem

/-- The log of `s` with entries before it, among them a balance that replaced the quantity. -/
def HasBalance (s t : Ctx F W) : Prop :=
  ∃ new, t.log = new ++ s.log ∧ ∃ ex q, Event.note ex (.balance q) ∈ new

theorem HasBalance.trans_append {s t u : Ctx F W} (h : HasBalance s t)
    (h' : ∃ new, u.log = new ++ t.log) : HasBalance s u := by
  obtain ⟨new, hlog, ex, q, hmem⟩ := h
  obtain ⟨new', hlog'⟩ := h'
  exact ⟨new' ++ new, by rw [hlog', hlog, List.append_assoc], ex, q, List.mem_append_right _ hmem⟩

theorem hasBalance_of_append {s t u : Ctx F W} (h : ∃ new, t.log = new ++ s.log)
    (h' : HasBalance t u) : HasBalance s u := by
  obtain ⟨new, hlog⟩ := h
  obtain ⟨new', hlog', ex, q, hmem⟩ := h'
  exact ⟨new' ++ new, by rw [hlog', hlog, List.append_assoc], ex, q, List.mem_append_left _ hmem⟩

/-- A fill left to the balance without a stop trigger and a market exit is followed by a balance. -/
def LeftBalanced (s t : Ctx F W) : Prop :=
  ∃ new, t.log = new ++ s.log ∧ ∀ st id, Event.note (some st) (.fillLeft id) ∈ new →
    st.stopLossOrder = none → st.stopLossExitOrder = none →
    ∃ ex q, Event.note ex (.balance q) ∈ new

theorem NoFillLeft.leftBalanced {s t : Ctx F W} (h : NoFillLeft s t) : LeftBalanced s t := by
  obtain ⟨new, hlog, hno⟩ := h
  exact ⟨new, hlog, fun st id hmem => absurd hmem (hno _ id)⟩

theorem HasBalance.leftBalanced {s t : Ctx F W} (h : HasBalance s t) : LeftBalanced s t := by
  obtain ⟨new, hlog, hmem⟩ := h
  exact ⟨new, hlog, fun _ _ _ _ _ => hmem⟩

theorem LeftBalanced.trans {s t u : Ctx F W} (h : LeftBalanced s t) (h' : LeftBalanced t u) :
    LeftBalanced s u := by
  obtain ⟨new, hlog, hnew⟩ := h
  obtain ⟨new', hlog', hnew'⟩ := h'
  refine ⟨new' ++ new, by rw [hlog', hlog, List.append_assoc], fun st id hmem hstop hexit => ?_⟩
  rcases List.mem_append.1 hmem with hmem | hmem
  · obtain ⟨ex, q, hq⟩ := hnew' st id hmem hstop hexit
    exact ⟨ex, q, List.mem_append_left _ hq⟩
  · obtain ⟨ex, q, hq⟩ := hnew st id hmem hstop hexit
    exact ⟨ex, q, List.mem_append_right _ hq⟩

theorem noFillLeft_note {s t : Ctx F W} {ex : Option ExchangeState} {n : Note}
    (h : t.log = .note ex n :: s.log) (hn : ∀ id, n ≠ .fillLeft id) : NoFillLeft s t := by
  refine ⟨[_], h, fun ex id hmem => ?_⟩
  cases List.mem_singleton.1 hmem
  exact hn id rfl

/-- A step only adds to the log; only a release leaves a fill to the balance. -/
theorem step_log {client : OkxClient F W} {scope : Scope} {s t : Ctx F W}
    (h : Step client scope s t) : NoFillLeft s t ∨
      scope.releases = true ∧ ∃ new, t.log = new ++ s.log := by
  cases h with
  | call =>
      refine .inl ⟨[_], rfl, fun ex id hmem => ?_⟩
      cases List.mem_singleton.1 hmem
  | clock | counter | signal | stop | change | entry | submitted => exact .inl (.refl s)
  | account _ _ ha =>
      refine .inl (noFillLeft_note rfl fun id hn => ?_)
      cases ha <;> cases hn
  | release allowed _ hr =>
      refine .inr ⟨allowed, ?_⟩
      cases hr with
      | unfilled => exact ⟨[_], rfl⟩
      | filled | left => exact ⟨[_, _], rfl⟩
  | balance | cleared => exact .inl (noFillLeft_note rfl fun id hn => by cases hn)
  | @emptied _ q =>
      refine .inl (.trans (t := s.noted (.balance q)) ?_ ?_)
      · exact noFillLeft_note rfl fun id hn => by cases hn
      · exact noFillLeft_note rfl fun id hn => by cases hn
  | entryFill _ _ ha =>
      refine .inl (noFillLeft_note rfl fun id hn => ?_)
      cases ha
      cases hn

theorem step_append {client : OkxClient F W} {scope : Scope} {s t : Ctx F W}
    (h : Step client scope s t) : ∃ new, t.log = new ++ s.log := by
  rcases step_log h with ⟨new, hlog, -⟩ | ⟨-, hnew⟩
  · exact ⟨new, hlog⟩
  · exact hnew

end OkxTrading
