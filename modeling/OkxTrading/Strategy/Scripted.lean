import OkxTrading.Strategy.Step

/-!
# Scripted exchanges

A client whose answers are written down in advance, and one small configured strategy, for the
runs that show a hypothesis can be met or a property can fail.

* `scripted` — the client; a script may depend on the minute and on the calls made in it.
* `quietAnswer` — what an exchange without orders or balances of the strategy answers.
* `demoRunner` — a fresh runner: ATR 2 after the warm-up, entries of 10 at one below the bid,
  take-profit and stop at one ATR.
-/

namespace OkxTrading

/-- Where a script is: a minute begins with the request for live candles. -/
structure Beat where
  minute : Nat
  calls : Nat
  sequence : Nat
  deriving DecidableEq, Repr

/-- A call of `live_candles` begins the next minute. -/
def Beat.next (self : Beat) : Call → Beat
  | .liveCandles _ _ _ => { self with minute := self.minute + 1, calls := 0 }
  | _ => { self with calls := self.calls + 1 }

/-- The answers of a script, by minute and number of calls since it began. -/
abbrev Script := Nat → Nat → (c : Call) → Except Stop (c.Reply ℚ)

/-- A client that answers by minute and call. -/
def scripted (answer : Script) : OkxClient ℚ Beat where
  perform c b := (answer (b.next c).minute (b.next c).calls c, b.next c)
  nowMs b := (1000, b)
  nextSequence b := (b.sequence, { b with sequence := b.sequence + 1 })

/-- A script with other answers to lookups of orders. -/
def Script.withOrders (answer : Script) (orders : Nat → Nat → Text → Option OkxOrder) : Script :=
  fun minute calls c => match c with
    | .order _ id => .ok (orders minute calls id)
    | c => answer minute calls c

/-- A script with other open trigger orders. -/
def Script.withAlgos (answer : Script) (algos : Nat → Nat → List OkxAlgoOrder) : Script :=
  fun minute calls c => match c with
    | .openAlgoOrders _ => .ok (algos minute calls)
    | c => answer minute calls c

/-- A script with other last prices. -/
def Script.withLast (answer : Script) (last : Nat → Decimal) : Script :=
  fun minute calls c => match c with
    | .ticker _ => .ok ⟨.value 101, .value 102, .value (last minute)⟩
    | c => answer minute calls c

/-! ## A small strategy -/

def demoInstrument : OkxInstrument where
  instType := spotText
  instId := ['B', 'T', 'C', '-', 'U', 'S', 'D', 'T']
  groupId := ['1']
  instIdCode := none
  state := liveText
  baseCcy := ['B', 'T', 'C']
  quoteCcy := usdtText
  tradeQuoteCurrencies := [usdtText]
  tickSz := .value 1
  lotSz := .value 1
  minSz := .value 1
  maxLmtSz := .empty
  maxLmtAmt := .empty
  maxMktSz := .empty
  maxMktAmt := .empty
  maxTriggerSz := .empty
  initPxLmtPct := .empty
  floatPxLmtPct := .value (1 / 10)
  maxPxLmtPct := .value (1 / 10)

def demoRunner : Runner ℚ where
  instanceId := ['e', 'm', 'a']
  configuredStrategyTags := [OrderId.strategyTag ['e', 'm', 'a']]
  instrumentId := demoInstrument.instId
  validatedInstrument := some ⟨demoInstrument, none⟩
  quantity := 10
  operatorOwnedBaseBalance := 0
  maxEntryOrderAgeMs := 60000
  maxQuoteNotional := none
  takeProfitAtrMultiple := 1
  stopLossAtrMultiple := 1
  entryFeeCostRate := some 0
  exitFeeCostRate := some 0
  signal := .new 1 2 2 (1 / 2) 1 100
  exchange := none

/-- The start of a scripted run. -/
def demoStart : Ctx ℚ Beat := ⟨demoRunner, ⟨0, 0, 0⟩, []⟩

/-- The id of the `sequence`-th order of the strategy. -/
def demoId (purpose : OrderPurpose) (sequence : Nat) : Text :=
  OrderId.clientOrderId demoRunner.instanceId purpose 1000 sequence

/-- Every request is accepted, the warm-up candles have ATR 2 and close at 102, and there is
neither an order nor a balance of the strategy. -/
def quietAnswer : Script := fun _ _ c => match c with
  | .instruments _ => .ok demoInstrument
  | .candles _ _ _ => .ok [⟨2, 102, 101, 102, true⟩, ⟨1, 101, 99, 100, true⟩]
  | .liveCandles _ _ _ => .ok []
  | .ticker _ => .ok ⟨.value 101, .value 102, .value 102⟩
  | .freshQuoteUsdRate _ => .error (.failed "no rate")
  | .balances => .ok []
  | .spotTradeFee _ => .ok ⟨spotText, ['1'], .value 0, .value 0⟩
  | .openOrders _ => .ok []
  | .orderHistory _ => .ok []
  | .orderFills _ => .ok []
  | .openAlgoOrders _ => .ok []
  | .algoOrderHistory _ => .ok []
  | .placeOrder _ _ _ _ _ _ => .ok ()
  | .cancelOrder _ _ => .ok ()
  | .amendOrder _ _ _ _ _ => .ok ()
  | .placeTriggerOrder _ _ _ _ _ => .ok ⟨['a']⟩
  | .cancelAlgoOrder _ _ => .ok ()
  | .order _ _ => .ok none

/-- A report of an order of size `size` at `price`, of which `filled` is filled. -/
def demoOrder (id : Text) (purpose : OrderPurpose) (state : OrderState)
    (price filled size : Decimal) : OkxOrder where
  clientOrderId := id
  side := some purpose.side
  orderType := some purpose.kind
  price := .value price
  state := state
  averagePrice := if filled = 0 then .empty else .value price
  accumulatedFillSize := .value filled
  fee := .value 0
  feeCurrency := usdtText
  rebate := .empty
  rebateCurrency := []
  sz := .value size
  createdAt := some 1000

/-- The stop trigger `a` as the exchange lists it. -/
def demoAlgo (id : Text) (state : AlgoState) (size trigger : Decimal) : OkxAlgoOrder where
  algoId := ['a']
  clientOrderId := id
  side := some .sell
  orderType := ['t', 'r', 'i', 'g', 'g', 'e', 'r']
  triggerPx := .value trigger
  orderPrice := ['-', '1']
  state := state
  sz := .value size

/-- The small strategy after its start-up, with the record of the run beginning there. -/
def demoReady : Ctx ℚ Beat :=
  { (initializeRunner (scripted quietAnswer) demoStart).2 with log := [] }

theorem demoReady_exchange :
    demoReady.runner.exchange = some (.startup demoInstrument (some 2)) := by
  decide +kernel

theorem demoReady_tagged : Tagged demoReady :=
  ⟨_, demoReady_exchange, trivial, trivial, trivial⟩

/-- The entry placed in the first minute is filled in the second. -/
def filledEntry : Script :=
  quietAnswer.withOrders fun minute _ id =>
    if minute = 2 ∧ id = demoId .entry 0 then some (demoOrder id .entry .filled 100 10 10) else none

end OkxTrading
