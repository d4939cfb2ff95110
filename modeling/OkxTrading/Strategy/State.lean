import OkxTrading.Okx.Client
import OkxTrading.Strategy.OrderId
import OkxTrading.Strategy.Signal

/-!
# The runner and its record of a run

The state of `OkxEmaAtrMakerTrendRunner`, and the programs its methods are: each reads and writes
the runner, calls the client, and stops where a call or a check fails or the tick is cut off.

* `ExchangeState` — tracked orders, position and pending stop-loss.
* `Ctx` — runner, the client's world, and the log.  The log is no part of the source: it keeps
  every client call with its answer and the exchange state it was made in, and a `Note` where a
  fill is accounted or the position is replaced or dropped.
* `ask`, `exchange`, `exchangeMut`, `note` — the primitive programs, each with its `wp` rule.
-/

namespace OkxTrading

open Effect

/-! ## State of the strategy -/

/-- Why the stop loss is decided. -/
inductive StopLossPendingReason where
  | localThreshold
  | exitReconciliation
  deriving DecidableEq, Repr

/-- An order with what was booked of it. -/
structure TrackedOrder where
  clientOrderId : Text
  lastFillSize : Decimal
  lastAverageFillPrice : Option Decimal
  lastAccountedBaseChange : Decimal
  lastAccountedQuoteChange : Decimal
  cancelRequested : Bool
  deriving DecidableEq, Repr

/-- A tracked order as it is right after its submission. -/
def TrackedOrder.submitted (clientOrderId : Text) : TrackedOrder where
  clientOrderId := clientOrderId
  lastFillSize := 0
  lastAverageFillPrice := none
  lastAccountedBaseChange := 0
  lastAccountedQuoteChange := 0
  cancelRequested := false

/-- The changes below reach a tracked order only under the id they were made for. -/
def TrackedOrder.updateIf (clientOrderId : Text) (f : TrackedOrder → TrackedOrder)
    (tracked : Option TrackedOrder) : Option TrackedOrder :=
  tracked.map fun order => if order.clientOrderId = clientOrderId then f order else order

/-- The order after a report was booked. -/
def TrackedOrder.accounted (lastFillSize : Decimal) (accounting : OkxSpotFillAccounting)
    (self : TrackedOrder) : TrackedOrder :=
  { self with
    lastFillSize := lastFillSize
    lastAccountedBaseChange := accounting.baseChange
    lastAccountedQuoteChange := accounting.quoteChange }

def TrackedOrder.cancelled (self : TrackedOrder) : TrackedOrder :=
  { self with cancelRequested := true }

/-- The stop loss at the exchange. -/
structure TrackedAlgoOrder where
  algoId : Text
  clientOrderId : Text
  size : Decimal
  triggerPrice : Decimal
  cancelRequested : Bool
  deriving DecidableEq, Repr

/-- The position: a quantity and its average price. -/
structure OpenPosition where
  quantity : Decimal
  averagePrice : Decimal
  stopLossTrigger : Decimal
  deriving DecidableEq, Repr

/-- Size and price of a take profit. -/
structure TakeProfitOrderShape where
  size : Decimal
  price : Decimal
  deriving DecidableEq, Repr

/-- `ExchangeState`: what the runner believes of the exchange. -/
structure ExchangeState where
  instrument : OkxInstrument
  lastBarTsMs : Option Int
  entryOrder : Option TrackedOrder
  takeProfitOrder : Option TrackedOrder
  stopLossOrder : Option TrackedAlgoOrder
  stopLossExitOrder : Option TrackedOrder
  position : Option OpenPosition
  stopLossPending : Option StopLossPendingReason
  deriving DecidableEq, Repr

/-- The state `prepare_startup_exchange_state` installs: nothing tracked, no position. -/
def ExchangeState.startup (instrument : OkxInstrument) (lastBarTsMs : Option Int) :
    ExchangeState where
  instrument := instrument
  lastBarTsMs := lastBarTsMs
  entryOrder := none
  takeProfitOrder := none
  stopLossOrder := none
  stopLossExitOrder := none
  position := none
  stopLossPending := none

/-- `OkxEmaAtrMakerTrendRunner`, its configuration with its state. -/
structure Runner (F : Type) where
  instanceId : Text
  configuredStrategyTags : List Text
  instrumentId : Text
  validatedInstrument : Option ValidatedTradingInstrument
  quantity : Decimal
  operatorOwnedBaseBalance : Decimal
  maxEntryOrderAgeMs : Nat
  maxQuoteNotional : Option Decimal
  takeProfitAtrMultiple : Decimal
  stopLossAtrMultiple : Decimal
  entryFeeCostRate : Option Decimal
  exitFeeCostRate : Option Decimal
  signal : SignalState F
  exchange : Option ExchangeState

def exchangeNotInitialized : Message := "OkxEmaAtrMakerTrend exchange state is not initialized"

/-- `self.exchange()`. -/
def Runner.exchangeState {F : Type} (self : Runner F) : Result ExchangeState :=
  match self.exchange with
  | some state => .ok state
  | none => .error exchangeNotInitialized

/-! ## The record of a run -/

/-- What the position bookkeeping did, in the words of the functions that do it. -/
inductive Note where
  /-- `open_position` after `amount` more base of the entry order was accounted. -/
  | entryFill (clientOrderId : Text) (amount : Decimal)
  /-- `apply_position_reducing_fill` for `amount` base of a take-profit or market exit. -/
  | exitFill (clientOrderId : Text) (amount : Decimal)
  /-- `evaluate_stop_loss` drops a closed take-profit with a stop-loss pending: a fill that is not
  accounted is left to the balance. -/
  | fillLeft (clientOrderId : Text)
  /-- `evaluate_stop_loss` dropped a closed take-profit. -/
  | released (clientOrderId : Text)
  /-- `reconcile_position_quantity_from_balance` replaced the quantity, by nothing where it is not
  positive. -/
  | balance (quantity : Decimal)
  /-- `clear_position_state`. -/
  | cleared
  /-- `reconstruct_exchange_state` installed the state it read from the exchange. -/
  | reconstructed
  deriving DecidableEq, Repr

/-- One entry of the log, with the exchange state before it. -/
inductive Event (F : Type) where
  | call (exchange : Option ExchangeState) (c : Call) (reply : Except Stop (c.Reply F))
  | note (exchange : Option ExchangeState) (n : Note)

/-- The state a run is in; the log has its newest entry first. -/
structure Ctx (F W : Type) where
  runner : Runner F
  world : W
  log : List (Event F)

/-- A run of the runner against a client. -/
abbrev Run (F W α : Type) := Prog Stop (Ctx F W) α

variable {F W α : Type}

/-! ## Primitive programs -/

/-- Go on with the value of a check, or stop with its message. -/
def Result.run : Result α → Run F W α
  | .ok a => pure a
  | .error message => Prog.stop (.failed message)

instance : MonadLift Result (Run F W) := ⟨Result.run⟩

/-- `&self`. -/
def runner : Run F W (Runner F) := fun s => (.ok s.runner, s)

def instrumentId : Run F W Text := fun s => (.ok s.runner.instrumentId, s)

/-- A change of the runner outside its exchange state. -/
def runnerMut (f : Runner F → Runner F) : Run F W Unit :=
  Prog.modify fun s => { s with runner := f s.runner }

/-- `self.exchange.as_ref()`. -/
def exchange? : Run F W (Option ExchangeState) := fun s => (.ok s.runner.exchange, s)

/-- `self.exchange()?`. -/
def exchange : Run F W ExchangeState := fun s =>
  match s.runner.exchange with
  | some state => (.ok state, s)
  | none => (.error (.failed exchangeNotInitialized), s)

/-- The runner of `s` with another exchange state. -/
def Ctx.withExchange (s : Ctx F W) (state : Option ExchangeState) : Ctx F W :=
  { s with runner := { s.runner with exchange := state } }

/-- A change through `self.exchange_mut()?`. -/
def exchangeMut (f : ExchangeState → ExchangeState) : Run F W Unit := fun s =>
  match s.runner.exchange with
  | some state => (.ok (), s.withExchange (some (f state)))
  | none => (.error (.failed exchangeNotInitialized), s)

/-- The state after a call: the answer is in the log. -/
def Ctx.answered (s : Ctx F W) (c : Call) (reply : Except Stop (c.Reply F)) (w : W) : Ctx F W :=
  { s with world := w, log := .call s.runner.exchange c reply :: s.log }

def Ctx.noted (s : Ctx F W) (n : Note) : Ctx F W :=
  { s with log := .note s.runner.exchange n :: s.log }

/-- A client call. -/
def ask (client : OkxClient F W) (c : Call) : Run F W (c.Reply F) := fun s =>
  let reply := client.perform c s.world
  (reply.1, s.answered c reply.1 reply.2)

def note (n : Note) : Run F W Unit := Prog.modify (·.noted n)

/-- `unix_time_ms`. -/
def unixTimeMs (client : OkxClient F W) : Run F W Int := fun s =>
  let now := client.nowMs s.world
  if -2 ^ 63 ≤ now.1 ∧ now.1 < 2 ^ 63 then (.ok now.1, { s with world := now.2 })
  else (.error (.failed "current UTC timestamp milliseconds exceed i64"), { s with world := now.2 })

/-- `client_order_id`: the clock and the process-wide counter. -/
def newClientOrderId (client : OkxClient F W) (purpose : OrderPurpose) : Run F W Text := fun s =>
  let now := client.nowMs s.world
  let sequence := client.nextSequence now.2
  (.ok (OrderId.clientOrderId s.runner.instanceId purpose now.1 sequence.1),
    { s with world := sequence.2 })

/-! ## Rules of the primitive programs -/

section Rules

variable {β : Type} {client : OkxClient F W} {s : Ctx F W} {Q : Except Stop β → Ctx F W → Prop}

@[simp] theorem withExchange_exchange (state : Option ExchangeState) :
    (s.withExchange state).runner.exchange = state := rfl

@[simp] theorem withExchange_log (state : Option ExchangeState) :
    (s.withExchange state).log = s.log := rfl

@[simp] theorem withExchange_instanceId (state : Option ExchangeState) :
    (s.withExchange state).runner.instanceId = s.runner.instanceId := rfl

@[simp] theorem withExchange_withExchange (state state' : Option ExchangeState) :
    (s.withExchange state).withExchange state' = s.withExchange state' := rfl

theorem withExchange_self {state : Option ExchangeState} (h : s.runner.exchange = state) :
    s.withExchange state = s := by subst h; rfl

@[simp] theorem answered_runner (c : Call) (r : Except Stop (c.Reply F)) (w : W) :
    (s.answered c r w).runner = s.runner := rfl

@[simp] theorem answered_log (c : Call) (r : Except Stop (c.Reply F)) (w : W) :
    (s.answered c r w).log = .call s.runner.exchange c r :: s.log := rfl

@[simp] theorem noted_runner (n : Note) : (s.noted n).runner = s.runner := rfl

@[simp] theorem noted_log (n : Note) :
    (s.noted n).log = .note s.runner.exchange n :: s.log := rfl

@[simp] theorem wp_bind_runner (f : Runner F → Run F W β) :
    wp (runner >>= f) s Q ↔ wp (f s.runner) s Q := Iff.rfl

@[simp] theorem wp_bind_instrumentId (f : Text → Run F W β) :
    wp (instrumentId >>= f) s Q ↔ wp (f s.runner.instrumentId) s Q := Iff.rfl

@[simp] theorem wp_bind_exchange? (f : Option ExchangeState → Run F W β) :
    wp (exchange? >>= f) s Q ↔ wp (f s.runner.exchange) s Q := Iff.rfl

@[simp] theorem wp_bind_note (n : Note) (f : Unit → Run F W β) :
    wp (note n >>= f) s Q ↔ wp (f ()) (s.noted n) Q := Iff.rfl

@[simp] theorem wp_bind_runnerMut (g : Runner F → Runner F) (f : Unit → Run F W β) :
    wp (runnerMut g >>= f) s Q ↔ wp (f ()) { s with runner := g s.runner } Q := Iff.rfl

theorem wp_bind_exchange {state : ExchangeState} (h : s.runner.exchange = some state)
    (f : ExchangeState → Run F W β) : wp (exchange >>= f) s Q ↔ wp (f state) s Q := by
  rw [wp_bind]
  unfold wp exchange
  rw [h]
  rfl

theorem wp_bind_exchangeMut {state : ExchangeState} (h : s.runner.exchange = some state)
    (g : ExchangeState → ExchangeState) (f : Unit → Run F W β) :
    wp (exchangeMut g >>= f) s Q ↔ wp (f ()) (s.withExchange (some (g state))) Q := by
  rw [wp_bind]
  unfold wp exchangeMut
  rw [h]
  rfl

theorem wp_bind_exchangeMut_of {state : ExchangeState} (state' : ExchangeState)
    {g : ExchangeState → ExchangeState} {f : Unit → Run F W β} (h : s.runner.exchange = some state)
    (hg : g state = state')
    (hf : wp (f ()) (s.withExchange (some state')) Q) : wp (exchangeMut g >>= f) s Q := by
  subst hg
  exact (wp_bind_exchangeMut h g f).2 hf

theorem wp_exchangeMut {P : Except Stop Unit → Ctx F W → Prop} {state : ExchangeState}
    (h : s.runner.exchange = some state) (g : ExchangeState → ExchangeState) :
    wp (exchangeMut g) s P ↔ P (.ok ()) (s.withExchange (some (g state))) := by
  unfold wp exchangeMut
  rw [h]

theorem wp_lift {P : Except Stop α → Ctx F W → Prop} {r : Result α}
    (hok : ∀ a, r = .ok a → P (.ok a) s)
    (herr : ∀ m, r = .error m → P (.error (.failed m)) s) :
    wp (liftM r : Run F W α) s P := by
  cases r with
  | ok a => exact hok a rfl
  | error m => exact herr m rfl

theorem wp_bind_lift {r : Result α} {f : α → Run F W β}
    (hok : ∀ a, r = .ok a → wp (f a) s Q)
    (herr : ∀ m, r = .error m → Q (.error (.failed m)) s) :
    wp ((liftM r : Run F W α) >>= f) s Q := by
  rw [wp_bind]
  exact wp_lift hok herr

theorem wp_ask {c : Call} {P : Except Stop (c.Reply F) → Ctx F W → Prop}
    (h : ∀ r w, P r (s.answered c r w)) : wp (ask client c) s P := h _ _

theorem wp_bind_ask {c : Call} {f : c.Reply F → Run F W β}
    (hok : ∀ a w, wp (f a) (s.answered c (.ok a) w) Q)
    (herr : ∀ e w, Q (.error e) (s.answered c (.error e) w)) :
    wp (ask client c >>= f) s Q := by
  rw [wp_bind]
  refine wp_ask ?_
  intro r w
  cases r with
  | ok a => exact hok a w
  | error e => exact herr e w

theorem wp_bind_newClientOrderId {purpose : OrderPurpose} {f : Text → Run F W β}
    (h : ∀ id w, OrderId.HasPurpose (OrderId.strategyTag s.runner.instanceId) purpose id →
      wp (f id) { s with world := w } Q) :
    wp (newClientOrderId client purpose >>= f) s Q :=
  h _ _ (OrderId.clientOrderId_hasPurpose _ _ _ _)

end Rules

end OkxTrading
