import OkxTrading.Market.Features

/-!
# The Level-2 book

`OkxLevel2Book` of `okx-market-model/level2.rs`: reconstruction of the `books` channel.

A call that panics ends the process, so a call returns `none` there and there is no book after it.

* `buildSnapshotSide`, `applySide`, `trimToDepth`, `validateBook` — the sides.
* `calculateFeatures` — the features of a book, and the rolling window after it.
* `applyWithClock`, `invalidate` — the calls, and `run` — any sequence of them.
-/

namespace OkxTrading

open Collections

/-- Why `OkxLevel2Book` refuses an update. -/
inductive OkxLevel2BookError where
  | instrumentMismatch (expected received : OkxSpotInstrumentId)
  | updateBeforeSnapshot
  | sequenceGap (expectedPrevious actualPrevious sequenceId : ℤ)
  | regressingSequence (current incoming : ℤ)
  | duplicatePrice (price : Decimal)
  | unknownRemoval (price : Decimal)
  | emptySide
  | crossedBook (bestBid bestAsk : Decimal)
  | depthOverflow
  | zeroDenominator (feature : Message)
  deriving DecidableEq, Repr

/-- `OkxLevel2Update`: a checked message with the times it was received and parsed. -/
structure OkxLevel2Update where
  instrumentId : OkxSpotInstrumentId
  action : OkxLevel2Action
  data : OkxLevel2Data
  receivedAt : Instant
  parsedAt : Instant
  deriving DecidableEq, Repr

/-- The update of a checked message. -/
def OkxLevel2Update.fromValidated (message : ValidatedBooksMessage)
    (receivedAt parsedAt : Instant) : OkxLevel2Update where
  instrumentId := message.instrumentId
  action := message.action
  data := message.data
  receivedAt
  parsedAt

/-- The features of the best prices. -/
structure TopFeatures where
  bestBid : Decimal
  bestAsk : Decimal
  mid : Decimal
  spread : Decimal
  classicMicroprice : Decimal
  deriving DecidableEq, Repr

/-- The imbalances of a snapshot of features. -/
structure ImbalanceFeatures where
  imbalanceL1 : Decimal
  imbalanceL3 : Decimal
  imbalanceL5 : Decimal
  imbalanceL10 : Decimal
  imbalanceL25 : Decimal
  imbalanceL50 : Decimal
  imbalanceL100 : Decimal
  imbalanceL200 : Decimal
  imbalanceL400 : Decimal
  deriving DecidableEq, Repr

/-- The depth features of a snapshot. -/
structure DepthFeatures where
  multiLevelMicroprice : Decimal
  micropriceDisplacement : Decimal
  distanceWeightedImbalance : Decimal
  notionalImbalance : Decimal
  nearBookDepth : OkxNearBookDepth
  depthMove1bps : OkxDepthMove
  depthMove2bps : OkxDepthMove
  depthMove5bps : OkxDepthMove
  depthMove10bps : OkxDepthMove
  depthSlope : OkxDepthSlope
  liquidityVacuum : Decimal
  deriving DecidableEq, Repr

/-- `OkxLevel2FeatureSnapshot`, in three parts by what they are computed from. -/
structure OkxLevel2FeatureSnapshot extends TopFeatures, ImbalanceFeatures, DepthFeatures where
  instrumentId : OkxSpotInstrumentId
  epoch : ℕ
  generation : ℕ
  sequenceId : ℤ
  exchangeTsMs : ℤ
  receivedAt : Instant
  parsedAt : Instant
  bookAppliedAt : Instant
  featuresReadyAt : Instant
  bidLevelCount : ℕ
  askLevelCount : ℕ
  imbalanceVelocityPerSecond : Decimal
  imbalancePersistence : Decimal
  shortHorizonBookVolatilityBps : Decimal
  deriving DecidableEq, Repr

/-- `OkxLevel2Book`: the sides, what validity rests on, and the rolling window. -/
structure OkxLevel2Book where
  instrumentId : OkxSpotInstrumentId
  bids : BookSide
  asks : BookSide
  valid : Bool
  epoch : ℕ
  generation : ℕ
  sequenceId : Option ℤ
  features : Option OkxLevel2FeatureSnapshot
  /-- The points of the rolling window, the oldest first. -/
  rolling : List RollingFeaturePoint
  deriving DecidableEq

/-- What an accepted update came to. -/
inductive OkxLevel2ApplyOutcome where
  | features (features : OkxLevel2FeatureSnapshot)
  | heartbeat
  deriving DecidableEq, Repr

/-- What a call returns. -/
abbrev ApplyResult := Except OkxLevel2BookError OkxLevel2ApplyOutcome

/-! ## Sides -/

/-- The loop of `build_snapshot_side`. -/
def buildSnapshotSideFrom : BookSide → List OkxLevel2Level → Except OkxLevel2BookError BookSide
  | side, [] => .ok side
  | side, update :: rest =>
      if update.quantity = 0 then buildSnapshotSideFrom side rest
      else if (side.get? update.price).isSome then .error (.duplicatePrice update.price)
      else buildSnapshotSideFrom
        (side.insert update.price ⟨update.quantity, update.orderCount⟩) rest

/-- A side from the levels of a snapshot, in which a price may stand only once. -/
def buildSnapshotSide (updates : List OkxLevel2Level) : Except OkxLevel2BookError BookSide :=
  buildSnapshotSideFrom SortedMap.empty updates

/-- The loop of `apply_side`, with the prices seen before. -/
def applySideFrom : BookSide → List Decimal → List OkxLevel2Level →
    Except OkxLevel2BookError BookSide
  | side, _, [] => .ok side
  | side, seen, update :: rest =>
      if update.price ∈ seen then .error (.duplicatePrice update.price)
      else if update.quantity = 0 then
        if (side.get? update.price).isNone then .error (.unknownRemoval update.price)
        else applySideFrom (side.erase update.price) (update.price :: seen) rest
      else applySideFrom (side.insert update.price ⟨update.quantity, update.orderCount⟩)
        (update.price :: seen) rest

/-- A side after an update: levels are set or removed, each price once. -/
def applySide (side : BookSide) (updates : List OkxLevel2Level) :
    Except OkxLevel2BookError BookSide :=
  applySideFrom side [] updates

/-- Which side of the book. -/
inductive BookSideName where
  | bid
  | ask
  deriving DecidableEq, Repr

/-- The level `trim_to_depth` removes next: the worst price. -/
def worstLevel (side : BookSide) : BookSideName → Option PricedLevel
  | .bid => side.first?
  | .ask => side.last?

/-- `while side.len() > OKX_LEVEL2_MAX_DEPTH`, with this many rounds to go at most. -/
def trimRounds (name : BookSideName) : ℕ → BookSide → BookSide
  | 0, side => side
  | rounds + 1, side =>
      if okxLevel2MaxDepth < side.size then
        match worstLevel side name with
        | none => side
        | some level => trimRounds name rounds (side.erase level.1)
      else side

/-- The worst levels leave until the side fits the depth of the channel. -/
def trimToDepth (side : BookSide) (name : BookSideName) : BookSide :=
  trimRounds name side.size side

/-- Both sides have levels, and the best bid stays below the best ask. -/
def validateBook (bids asks : BookSide) : Except OkxLevel2BookError Unit :=
  match bids.last?, asks.first? with
  | some bestBid, some bestAsk =>
      if bestAsk.1 ≤ bestBid.1 then .error (.crossedBook bestBid.1 bestAsk.1) else .ok ()
  | _, _ => .error .emptySide

/-- `u64::saturating_add(1)`. -/
def saturatingSucc (n : ℕ) : ℕ := min (n + 1) (2 ^ 64 - 1)

namespace OkxLevel2Book

/-- The book before its first snapshot. -/
def new (instrumentId : OkxSpotInstrumentId) : OkxLevel2Book where
  instrumentId
  bids := SortedMap.empty
  asks := SortedMap.empty
  valid := false
  epoch := 0
  generation := 0
  sequenceId := none
  features := none
  rolling := []

/-- What `invalidate` leaves: no levels and no trust; the counters go on. -/
def invalidate (book : OkxLevel2Book) : OkxLevel2Book :=
  { book with
    bids := SortedMap.empty, asks := SortedMap.empty, valid := false, sequenceId := none,
    features := none, rolling := [] }

/-- `features()`: only those of a valid book. -/
def currentFeatures (book : OkxLevel2Book) : Option OkxLevel2FeatureSnapshot :=
  if book.valid then book.features else none

section Features

variable (ops : DecimalOps)

/-- The first part of `calculate_features`, and its only errors besides an empty side. -/
def topFeatures (bid ask : PricedLevel) : Option (Except OkxLevel2BookError TopFeatures) := do
  let spread ← ops.sub ask.1 bid.1
  let total ← ops.add ask.1 bid.1
  let mid ← ops.div total 2
  let topQuantity ← ops.add bid.2.quantity ask.2.quantity
  if topQuantity ≤ 0 then return .error (.zeroDenominator "classic microprice")
  else
    let askWeighted ← ops.mul ask.1 bid.2.quantity
    let bidWeighted ← ops.mul bid.1 ask.2.quantity
    let weighted ← ops.add askWeighted bidWeighted
    let classicMicroprice ← ops.div weighted topQuantity
    return .ok { bestBid := bid.1, bestAsk := ask.1, mid, spread, classicMicroprice }

/-- All imbalances of a snapshot; `none` where an operator panics. -/
def imbalanceFeatures (bids asks : BookSide) : Option ImbalanceFeatures := do
  let imbalanceL1 ← imbalance ops bids asks 1
  let imbalanceL3 ← imbalance ops bids asks 3
  let imbalanceL5 ← imbalance ops bids asks 5
  let imbalanceL10 ← imbalance ops bids asks 10
  let imbalanceL25 ← imbalance ops bids asks 25
  let imbalanceL50 ← imbalance ops bids asks 50
  let imbalanceL100 ← imbalance ops bids asks 100
  let imbalanceL200 ← imbalance ops bids asks 200
  let imbalanceL400 ← imbalance ops bids asks 400
  return { imbalanceL1, imbalanceL3, imbalanceL5, imbalanceL10, imbalanceL25, imbalanceL50,
           imbalanceL100, imbalanceL200, imbalanceL400 }

/-- The features of the whole depth, from the mid and the spread. -/
def depthFeatures (bids asks : BookSide) (mid spread : Decimal) : Option DepthFeatures := do
  let distanceWeightedImbalance ← distanceWeightedImbalance ops bids asks
  let scaledSpread ← ops.mul spread distanceWeightedImbalance
  let halfSpread ← ops.div scaledSpread 2
  let multiLevelMicroprice ← ops.add mid halfSpread
  let nearBookDepth ← nearBookDepth ops bids asks 10
  let depthSlope ← depthSlope ops bids asks mid 10
  let liquidityVacuum ← liquidityVacuum ops bids asks
  let micropriceDisplacement ← ops.sub multiLevelMicroprice mid
  let notionalImbalance ← notionalImbalance ops bids asks okxLevel2MaxDepth
  let depthMove1bps ← depthToMove ops bids asks mid 1
  let depthMove2bps ← depthToMove ops bids asks mid 2
  let depthMove5bps ← depthToMove ops bids asks mid 5
  let depthMove10bps ← depthToMove ops bids asks mid 10
  return { multiLevelMicroprice, micropriceDisplacement, distanceWeightedImbalance,
           notionalImbalance, nearBookDepth, depthMove1bps, depthMove2bps, depthMove5bps,
           depthMove10bps, depthSlope, liquidityVacuum }

/-- The features of the book, and its rolling window after them; the order in which the source
calculates them does not matter, since none depends on a later one and a panic ends the process. -/
def calculateFeatures (book : OkxLevel2Book) (update : OkxLevel2Update)
    (bookAppliedAt featuresReadyAt : Instant) :
    Option (Except OkxLevel2BookError (OkxLevel2FeatureSnapshot × List RollingFeaturePoint)) :=
  match book.bids.last?, book.asks.first? with
  | some bid, some ask => do
      match ← topFeatures ops bid ask with
      | .error e => return .error e
      | .ok top =>
          let imbalances ← imbalanceFeatures ops book.bids book.asks
          let depth ← depthFeatures ops book.bids book.asks top.mid top.spread
          let ((velocity, persistence, volatility), rolling) ←
            rollingFeatures ops book.rolling top.mid imbalances.imbalanceL10 update.receivedAt
          return .ok ({
            toTopFeatures := top, toImbalanceFeatures := imbalances, toDepthFeatures := depth,
            instrumentId := book.instrumentId, epoch := book.epoch,
            generation := book.generation, sequenceId := update.data.sequenceId,
            exchangeTsMs := update.data.ts, receivedAt := update.receivedAt,
            parsedAt := update.parsedAt, bookAppliedAt, featuresReadyAt,
            bidLevelCount := book.bids.size, askLevelCount := book.asks.size,
            imbalanceVelocityPerSecond := velocity, imbalancePersistence := persistence,
            shortHorizonBookVolatilityBps := volatility }, rolling)
  | _, _ => some (.error .emptySide)

end Features

/-! ## The calls -/

/-- The book a snapshot leaves for `calculate_features`. -/
def snapshotBook (book : OkxLevel2Book) (data : OkxLevel2Data) :
    Except OkxLevel2BookError OkxLevel2Book :=
  if okxLevel2MaxDepth < data.asks.length ∨ okxLevel2MaxDepth < data.bids.length then
    .error .depthOverflow
  else do
    let bids ← buildSnapshotSide data.bids
    let asks ← buildSnapshotSide data.asks
    validateBook bids asks
    return { book with
      bids, asks, valid := true, epoch := saturatingSucc book.epoch,
      generation := saturatingSucc book.generation, sequenceId := some data.sequenceId,
      rolling := [] }

/-- The book an update leaves for `calculate_features`, from the current sequence id on. -/
def incrementBook (book : OkxLevel2Book) (current : ℤ) (data : OkxLevel2Data) :
    Except OkxLevel2BookError OkxLevel2Book :=
  if data.previousSequenceId ≠ current then
    .error (.sequenceGap current data.previousSequenceId data.sequenceId)
  else if data.sequenceId ≤ current then
    .error (.regressingSequence current data.sequenceId)
  else do
    let bids ← applySide book.bids data.bids
    let asks ← applySide book.asks data.asks
    let bids := trimToDepth bids .bid
    let asks := trimToDepth asks .ask
    validateBook bids asks
    return { book with
      bids, asks, generation := saturatingSucc book.generation,
      sequenceId := some data.sequenceId }

/-- An update that only says the book is still current. -/
def isHeartbeat (data : OkxLevel2Data) (current : ℤ) : Prop :=
  data.asks = [] ∧ data.bids = [] ∧ data.sequenceId = current ∧ data.previousSequenceId = current

instance (data : OkxLevel2Data) (current : ℤ) : Decidable (isHeartbeat data current) :=
  inferInstanceAs (Decidable (_ ∧ _ ∧ _ ∧ _))

section Calls

variable (ops : DecimalOps)

/-- Calculate and keep the features, or forget the book where that fails. -/
def finishFeatures (book : OkxLevel2Book) (update : OkxLevel2Update)
    (bookAppliedAt featuresReadyAt : Instant) : Option (ApplyResult × OkxLevel2Book) := do
  match ← book.calculateFeatures ops update bookAppliedAt featuresReadyAt with
  | .error e => return (.error e, book.invalidate)
  | .ok (features, rolling) =>
      return (.ok (.features features), { book with features := some features, rolling })

/-- A snapshot replaces the book, or invalidates it. -/
def applySnapshot (book : OkxLevel2Book) (update : OkxLevel2Update)
    (bookAppliedAt featuresReadyAt : Instant) : Option (ApplyResult × OkxLevel2Book) :=
  match book.snapshotBook update.data with
  | .error e => some (.error e, book.invalidate)
  | .ok next => next.finishFeatures ops update bookAppliedAt featuresReadyAt

/-- An update on top of a valid book; one that does not fit invalidates it. -/
def applyIncrement (book : OkxLevel2Book) (update : OkxLevel2Update)
    (bookAppliedAt featuresReadyAt : Instant) : Option (ApplyResult × OkxLevel2Book) :=
  if book.valid = false then some (.error .updateBeforeSnapshot, book)
  else match book.sequenceId with
    | none => some (.error .updateBeforeSnapshot, book)
    | some current =>
        if isHeartbeat update.data current then some (.ok .heartbeat, book)
        else match book.incrementBook current update.data with
          | .error e => some (.error e, book.invalidate)
          | .ok next => next.finishFeatures ops update bookAppliedAt featuresReadyAt

/-- The clock is observed twice: when the book is applied and when the features are ready. -/
def applyWithClock (book : OkxLevel2Book) (update : OkxLevel2Update)
    (bookAppliedAt featuresReadyAt : Instant) : Option (ApplyResult × OkxLevel2Book) :=
  if update.instrumentId ≠ book.instrumentId then
    some (.error (.instrumentMismatch book.instrumentId update.instrumentId), book)
  else match update.action with
    | .snapshot => book.applySnapshot ops update bookAppliedAt featuresReadyAt
    | .update => book.applyIncrement ops update bookAppliedAt featuresReadyAt

/-- `apply`: with the time of parsing for both clocks. -/
def apply (book : OkxLevel2Book) (update : OkxLevel2Update) :
    Option (ApplyResult × OkxLevel2Book) :=
  book.applyWithClock ops update update.parsedAt update.parsedAt

end Calls

end OkxLevel2Book

end OkxTrading
