import OkxTrading.Market.Features

/-!
# The replay book

`OrderBook` of `okx-market-model/replay_book.rs`: it takes whatever levels an archive holds, counts
what is wrong with them, and is trusted only after a snapshot with nothing wrong since.

* `applySide`, `applyLevels`, `finishApply` — one event.
* `apply`, `applyHistorical`, `reset`, `markUntrusted` — the calls, and `OrderBook.answer` — any of
  them.
* `bestBid`, `bestAsk`, `midpoint`, `microprice`, `depthImbalance` — what is read from it.
-/

namespace OkxTrading

open Collections

/-- The two crates' types for a level and an action have the same fields. -/
abbrev LevelUpdate := OkxLevel2Level

abbrev BookAction := OkxLevel2Action

/-- What `SequencedBookEventView` shows of an event. -/
structure SequencedBookEvent where
  instrumentId : OkxSpotInstrumentId
  action : BookAction
  asks : List LevelUpdate
  bids : List LevelUpdate
  sequenceEpoch : ℕ
  sequenceId : ℤ
  deriving DecidableEq, Repr

/-- What `HistoricalBookEventView` shows of an event. -/
structure HistoricalBookEvent where
  instrumentId : OkxSpotInstrumentId
  action : BookAction
  asks : List LevelUpdate
  bids : List LevelUpdate
  researchEpoch : ℕ
  deriving DecidableEq, Repr

/-- `OrderBook` of the replay: levels, trust, and what trust rests on. -/
structure OrderBook where
  instrumentId : OkxSpotInstrumentId
  bids : BookSide
  asks : BookSide
  trusted : Bool
  hasSnapshot : Bool
  sequenceEpoch : Option ℕ
  sequenceId : Option ℤ
  deriving DecidableEq

/-- The defects an event was counted with. -/
structure ApplyOutcome where
  invalidLevels : ℕ
  unknownRemovals : ℕ
  duplicateLevels : ℕ
  nonMonotonicSnapshotSides : ℕ
  updateBeforeSnapshot : ℕ
  depthOverflow : ℕ
  emptySides : ℕ
  crossed : ℕ
  deriving DecidableEq, Repr

/-- `ApplyOutcome::default()`. -/
def ApplyOutcome.none : ApplyOutcome := ⟨0, 0, 0, 0, 0, 0, 0, 0⟩

/-- The only error of the replay book. -/
inductive OkxReplayBookError where
  | instrumentMismatch (expected received : OkxSpotInstrumentId)
  deriving DecidableEq, Repr

/-- A level without its order count. -/
structure TopLevel where
  price : Decimal
  quantity : Decimal
  deriving DecidableEq, Repr

/-- `levels.windows(2).all(..)`. -/
def strictlyIncreasing : List LevelUpdate → Bool
  | first :: second :: rest =>
      decide (first.price < second.price) && strictlyIncreasing (second :: rest)
  | _ => true

/-- The order of the bids of a message. -/
def strictlyDecreasing : List LevelUpdate → Bool
  | first :: second :: rest =>
      decide (second.price < first.price) && strictlyDecreasing (second :: rest)
  | _ => true

namespace OrderBook

/-- The empty book, not trusted. -/
def new (instrumentId : OkxSpotInstrumentId) : OrderBook where
  instrumentId
  bids := SortedMap.empty
  asks := SortedMap.empty
  trusted := false
  hasSnapshot := false
  sequenceEpoch := none
  sequenceId := none

/-- An empty book that waits for a snapshot. -/
def reset (book : OrderBook) : OrderBook :=
  { book with
    bids := SortedMap.empty, asks := SortedMap.empty, trusted := false, hasSnapshot := false,
    sequenceEpoch := none, sequenceId := none }

/-- The book whose levels stay but are not to be believed. -/
def markUntrusted (book : OrderBook) : OrderBook := { book with trusted := false }

/-! ## One event -/

/-- The loop of `apply_side`, with the prices seen before. -/
def applySide : BookSide → List Decimal → ApplyOutcome → List LevelUpdate →
    BookSide × ApplyOutcome
  | side, _, outcome, [] => (side, outcome)
  | side, seen, outcome, update :: rest =>
      if update.price ∈ seen then
        applySide side seen { outcome with duplicateLevels := outcome.duplicateLevels + 1 } rest
      else if update.price ≤ 0 ∨ update.quantity < 0 then
        applySide side (update.price :: seen)
          { outcome with invalidLevels := outcome.invalidLevels + 1 } rest
      else if update.quantity = 0 then
        if (side.get? update.price).isNone then
          applySide side (update.price :: seen)
            { outcome with unknownRemovals := outcome.unknownRemovals + 1 } rest
        else applySide (side.erase update.price) (update.price :: seen) outcome rest
      else applySide (side.insert update.price ⟨update.quantity, update.orderCount⟩)
        (update.price :: seen) outcome rest

/-- What an action does before its levels. -/
def openEvent (book : OrderBook) (action : BookAction) (asks bids : List LevelUpdate) :
    OrderBook × ApplyOutcome :=
  if action = .snapshot then
    ({ book with
        bids := SortedMap.empty, asks := SortedMap.empty, trusted := true, hasSnapshot := true },
      { ApplyOutcome.none with
        nonMonotonicSnapshotSides :=
          (if strictlyIncreasing asks then 0 else 1) + if strictlyDecreasing bids then 0 else 1 })
  else if book.hasSnapshot = false then
    ({ book with trusted := false }, { ApplyOutcome.none with updateBeforeSnapshot := 1 })
  else (book, ApplyOutcome.none)

/-- `apply_levels`: every level of the event, whatever it is; defects are counted. -/
def applyLevels (book : OrderBook) (action : BookAction) (asks bids : List LevelUpdate) :
    OrderBook × ApplyOutcome :=
  let opened := book.openEvent action asks bids
  let (newAsks, outcome) := applySide opened.1.asks [] opened.2 asks
  let (newBids, outcome) := applySide opened.1.bids [] outcome bids
  ({ opened.1 with asks := newAsks, bids := newBids }, outcome)

/-- The best bid is not below the best ask. -/
def isCrossed (book : OrderBook) : Bool :=
  match book.bids.last?, book.asks.first? with
  | some bid, some ask => decide (ask.1 ≤ bid.1)
  | _, _ => false

/-- The counters that take trust back. -/
def takesTrust (outcome : ApplyOutcome) : Prop :=
  0 < outcome.invalidLevels ∨ 0 < outcome.duplicateLevels ∨
    0 < outcome.nonMonotonicSnapshotSides ∨ 0 < outcome.updateBeforeSnapshot ∨
    0 < outcome.depthOverflow

instance (outcome : ApplyOutcome) : Decidable (takesTrust outcome) :=
  inferInstanceAs (Decidable (_ ∨ _ ∨ _ ∨ _ ∨ _))

/-- A side with more than 400 levels is a defect. -/
def countOverflow (book : OrderBook) (outcome : ApplyOutcome) : ApplyOutcome :=
  if 400 < book.bids.size ∨ 400 < book.asks.size then
    { outcome with depthOverflow := outcome.depthOverflow + 1 }
  else outcome

/-- The defects of the whole book, and the trust they cost. -/
def finishApply (book : OrderBook) (outcome : ApplyOutcome) : OrderBook × ApplyOutcome :=
  let outcome := book.countOverflow outcome
  let book := if takesTrust outcome then { book with trusted := false } else book
  if book.bids.isEmpty || book.asks.isEmpty then
    ({ book with trusted := false }, { outcome with emptySides := outcome.emptySides + 1 })
  else if book.isCrossed then
    ({ book with trusted := false }, { outcome with crossed := outcome.crossed + 1 })
  else (book, outcome)

/-! ## The calls -/

/-- An event of another instrument is refused. -/
def ensureInstrument (book : OrderBook) (received : OkxSpotInstrumentId) :
    Except OkxReplayBookError Unit :=
  if received = book.instrumentId then .ok ()
  else .error (.instrumentMismatch book.instrumentId received)

/-- The levels of an event, under an identity: what both ways to apply one do. -/
def applyEvent (book : OrderBook) (action : BookAction) (asks bids : List LevelUpdate)
    (sequenceEpoch : ℕ) (sequenceId : Option ℤ) : OrderBook × ApplyOutcome :=
  let applied := book.applyLevels action asks bids
  finishApply { applied.1 with sequenceEpoch := some sequenceEpoch, sequenceId } applied.2

/-- `apply`: an event of the recorded stream with its sequence ids. -/
def apply (book : OrderBook) (event : SequencedBookEvent) :
    Except OkxReplayBookError ApplyOutcome × OrderBook :=
  match book.ensureInstrument event.instrumentId with
  | .error e => (.error e, book)
  | .ok () =>
      let applied := book.applyEvent event.action event.asks event.bids event.sequenceEpoch
        (some event.sequenceId)
      (.ok applied.2, applied.1)

/-- Archives have no sequence ids: the epoch alone is kept. -/
def applyHistorical (book : OrderBook) (event : HistoricalBookEvent) :
    Except OkxReplayBookError ApplyOutcome × OrderBook :=
  match book.ensureInstrument event.instrumentId with
  | .error e => (.error e, book)
  | .ok () =>
      let applied := book.applyEvent event.action event.asks event.bids event.researchEpoch none
      (.ok applied.2, applied.1)

/-! ## What is read -/

/-- The highest bid. -/
def bestBid (book : OrderBook) : Option TopLevel :=
  book.bids.last?.map fun level => ⟨level.1, level.2.quantity⟩

/-- The lowest ask. -/
def bestAsk (book : OrderBook) : Option TopLevel :=
  book.asks.first?.map fun level => ⟨level.1, level.2.quantity⟩

section Reads

variable (ops : DecimalOps) (book : OrderBook)

/-- `none` where the subtraction panics; the code's own `None` is inside. -/
def spread : Option (Option Decimal) :=
  match book.bestAsk, book.bestBid with
  | some ask, some bid => (ops.sub ask.price bid.price).map some
  | _, _ => some none

/-- The midpoint where both sides have levels; the outer `none` is a panic. -/
def midpoint : Option (Option Decimal) :=
  match book.bestAsk, book.bestBid with
  | some ask, some bid => do
      let total ← ops.add ask.price bid.price
      let mid ← ops.div total 2
      return some mid
  | _, _ => some none

/-- The best prices weighted with the quantities of the other side. -/
def microprice : Option (Option Decimal) :=
  match book.bestBid, book.bestAsk with
  | some bid, some ask => do
      let quantity ← ops.add bid.quantity ask.quantity
      if 0 < quantity then
        let askWeighted ← ops.mul ask.price bid.quantity
        let bidWeighted ← ops.mul bid.price ask.quantity
        let weighted ← ops.add askWeighted bidWeighted
        let price ← ops.div weighted quantity
        return some price
      else return none
  | _, _ => some none

/-- The imbalance of the first levels. -/
def depthImbalance (levels : ℕ) : Option (Option Decimal) := do
  let bid ← quantitySum ops ((bestBidsFirst book.bids).take levels)
  let ask ← quantitySum ops ((bestAsksFirst book.asks).take levels)
  let total ← ops.add bid ask
  if 0 < levels ∧ 0 < total then
    let difference ← ops.sub bid ask
    let ratio ← ops.div difference total
    return some ratio
  else return none

end Reads

/-! ## Runs -/

/-- The calls a replay makes. -/
inductive Call where
  | apply (event : SequencedBookEvent)
  | applyHistorical (event : HistoricalBookEvent)
  | reset
  | markUntrusted
  deriving DecidableEq, Repr

/-- What a call answers: nothing, or what an event led to. -/
def answer (book : OrderBook) :
    Call → Option (Option (Except OkxReplayBookError ApplyOutcome) × OrderBook)
  | .apply event => some (some (book.apply event).1, (book.apply event).2)
  | .applyHistorical event =>
      some (some (book.applyHistorical event).1, (book.applyHistorical event).2)
  | .reset => some (none, book.reset)
  | .markUntrusted => some (none, book.markUntrusted)

end OrderBook

end OkxTrading
