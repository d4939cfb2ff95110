import OkxTrading.Collections.OldestEviction
import OkxTrading.Market.BooksParser
import OkxTrading.Market.Level2
import OkxTrading.Okx.RestClient
import OkxTrading.Runtime.Engine
import OkxTrading.Websocket.Subscription

/-!
# Public market data

The messages of a public stream and `OkxMarketDataCache` of `okx/websocket.rs`, with all its tables.
What the latency metrics record of it is left out.

* `parsePublicMarketData` — the rows of a message, one arm for each channel.
* `OkxMarketDataState` — the cache: tickers, candles, instruments and books.
* `insertTicker`, `insertCandle`, `insertInstrument`, `applyLevel2` — one row into the cache.
* `applyPublicMarketData` — a message, and the runtime events it leads to.
* `configureLevel2Instruments`, `protectInstruments`, `invalidateLevel2ForReconnect` — the beginning
  and the end of a session.

A level of a book whose arithmetic panics ends the process; there the result is `none`.
-/

namespace OkxTrading

open Collections Effect

variable {F : Type} [F64 F]

/-! ## Messages -/

/-- A row of the tickers channel. -/
structure OkxWebsocketTickerData extends OkxTickerRow where
  ts : TimestampText
  deriving DecidableEq, Repr

/-- The `data` of a message, read as rows of each channel, with the `action` beside it; `none` where
it is no rows of that channel. -/
structure OkxPublicData where
  action : Option Text
  tickers : Option (List OkxWebsocketTickerData)
  candles : OkxCandleData
  instruments : Option (List OkxWebsocketInstrumentUpdate)
  books : Result (List BooksRow)
  deriving DecidableEq

/-- A ticker with its time and when it arrived. -/
structure OkxMarketTickerHint where
  ticker : OkxTickerRow
  sourceTsMs : Option ℤ
  receivedAt : Instant
  deriving DecidableEq, Repr

/-- A hint of one of the public kinds. -/
inductive OkxMarketDataHint (F : Type) where
  | ticker (hint : OkxMarketTickerHint)
  | candle (hint : OkxMarketCandleHint F)
  | instrument (hint : OkxInstrumentUpdateHint)
  | level2 (update : OkxLevel2Update)

/-- What the standard library and `rust_decimal` compute. -/
structure MarketNumerics (F : Type) where
  parseF64 : Text → Option F
  decimals : DecimalReader
  ops : DecimalOps

/-- `impl Display for OkxPublicProtocolError`, without the values. -/
def OkxPublicProtocolError.message : OkxPublicProtocolError → Message
  | .unsupportedAction _ => "unsupported OKX books action"
  | .unsupportedChannel _ => "unsupported OKX public channel"
  | .malformedSpotInstrument _ reason => "malformed OKX SPOT instrument: " ++ reason
  | .instrumentMismatch _ _ => "OKX public instrument mismatch"
  | .malformedPayload message => "malformed OKX public payload: " ++ message
  | .unexpectedRowCount _ => "OKX public message did not contain exactly one row"
  | .duplicatePrice _ => "OKX public books side contained duplicate price"

/-- `impl Display for OkxLevel2BookError`, without the values. -/
def OkxLevel2BookError.message : OkxLevel2BookError → Message
  | .instrumentMismatch _ _ => "OKX Level-2 book instrument mismatch"
  | .updateBeforeSnapshot => "OKX books update arrived before an authoritative snapshot"
  | .sequenceGap _ _ _ => "OKX books sequence gap"
  | .regressingSequence _ _ => "OKX books seqId did not advance current seqId"
  | .duplicatePrice _ => "OKX books side contained duplicate price"
  | .unknownRemoval _ => "OKX books removed unknown price"
  | .emptySide => "OKX books book has an empty side"
  | .crossedBook _ _ => "OKX books book is crossed"
  | .depthOverflow => "OKX books snapshot exceeded the maximum depth"
  | .zeroDenominator feature => "OKX books " ++ feature ++ " has a zero denominator"

/-! ## Parsing -/

section Parse

variable (numerics : MarketNumerics F) (receivedAt parsedAt : Instant)

/-- The row of a ticker. -/
def parseTickerRow (arg : OkxWebsocketSubscriptionAck) (row : OkxWebsocketTickerData) :
    Result OkxMarketTickerHint := do
  ensure (arg.instId.all fun instId => decide (instId = row.instId))
    "OKX public WebSocket ticker did not match arg instrument"
  row.toOkxTickerRow.validatePrices
  ensure (row.instType = spotText) "OKX WebSocket ticker has non-SPOT instType"
  let sourceTsMs ← parseOptionalTsMs "OKX WebSocket ticker ts" row.ts
  return { ticker := row.toOkxTickerRow, sourceTsMs, receivedAt }

/-- The rows of a tickers message as hints. -/
def parseTickerArm (arg : OkxWebsocketSubscriptionAck) (data : OkxPublicData) :
    Result (List OkxMarketTickerHint) := do
  let some rows := data.tickers | .error "failed parsing OKX public ticker update"
  rows.mapM (parseTickerRow receivedAt arg)

/-- The arm of the books. -/
def parseBooksArm (arg : OkxWebsocketSubscriptionAck) (data : OkxPublicData) :
    Result OkxLevel2Update := do
  let some instId := arg.instId | .error "OKX books data omitted arg instId"
  (validateSpotInstrumentId instId).mapError fun _ =>
    "OKX books data instrument is not canonical SPOT"
  let some action := data.action | .error "OKX books data omitted action"
  let message ← (parseBooksMessage numerics.decimals instId okxLevel2BooksChannel instId action
    data.books).mapError OkxPublicProtocolError.message
  return .fromValidated message receivedAt parsedAt

/-- The rows of a message of a channel. -/
def parsePublicData (arg : OkxWebsocketSubscriptionAck) (data : OkxPublicData) :
    Result (List (OkxMarketDataHint F)) :=
  if arg.channel = okxPublicTickersChannel then do
    let hints ← parseTickerArm receivedAt arg data
    return hints.map .ticker
  else if (okxPublicCandleBarForChannel arg.channel).isOk then do
    let hints ← parseCandleArm numerics.parseF64 ⟨arg.channel, arg.instId⟩ data.candles receivedAt
    return hints.map .candle
  else if arg.channel = okxPublicInstrumentsChannel then do
    let hints ← parsePublicInstruments ⟨arg.instType, data.instruments, receivedAt⟩
    return hints.map .instrument
  else if arg.channel = okxLevel2BooksChannel then do
    let update ← parseBooksArm numerics receivedAt parsedAt arg data
    return [.level2 update]
  else .error "OKX public WebSocket channel is not supported"

/-- `parse_public_market_data_message`. -/
def parsePublicMarketData (message : OkxWebsocketSubscriptionMessage OkxPublicData) :
    Result (List (OkxMarketDataHint F)) := do
  rejectWebsocketNotice message.event message.code "public"
  if message.event = some okxWebsocketErrorEvent then .error "OKX public WebSocket error"
  else if message.event.isSome then return []
  else
    let some data := message.data | return []
    let some arg := message.arg | .error "OKX public WebSocket data omitted arg"
    parsePublicData numerics receivedAt parsedAt arg data

end Parse

/-! ## The cache -/

/-- `runtime_event_reporter` and the latency metrics are no data of the cache. -/
structure OkxMarketDataState (F : Type) where
  tickersByInstId : Table Text OkxMarketTickerHint
  candlesByInstIdAndChannel : CandleCache F
  instrumentsByInstId : InstrumentHints
  protectedInstrumentIds : List Text
  level2BooksByInstrument : SortedMap Text OkxLevel2Book

/-- What an insertion meets: the order each hash map is walked in, and two readings of the clock. -/
structure MarketInsertion (F : Type) where
  tickers : TableWalk Text OkxMarketTickerHint
  candles : HashWalk F
  instruments : InstrumentHintWalk
  bookAppliedAt : Instant
  featuresReadyAt : Instant

namespace OkxMarketDataState

/-- The cache before any message. -/
def default : OkxMarketDataState F := ⟨∅, ∅, .empty, [], SortedMap.empty⟩

variable (self : OkxMarketDataState F) (met : MarketInsertion F)

/-- `protect_instruments`; the set in its order. -/
def protectInstruments (instrumentIds : List Text) : OkxMarketDataState F :=
  { self with protectedInstrumentIds := inOrder (self.protectedInstrumentIds ++ instrumentIds) }

/-- A book is made where there is none; an id that is not canonical ends the loop. -/
def configureLevel2Instruments (self : OkxMarketDataState F) :
    List Text → Result Unit × OkxMarketDataState F
  | [] => (.ok (), self)
  | instrumentId :: rest =>
      match validateSpotInstrumentId instrumentId with
      | .error _ => (.error "configured OKX Level-2 instrument is not canonical SPOT", self)
      | .ok () =>
          match self.level2BooksByInstrument.get? instrumentId with
          | some _ => configureLevel2Instruments self rest
          | none => configureLevel2Instruments { self with
              level2BooksByInstrument :=
                self.level2BooksByInstrument.insert instrumentId (.new instrumentId) } rest

/-- The books of these instruments are given up before a session begins. -/
def invalidateLevel2ForReconnect (instrumentIds : List Text) : OkxMarketDataState F :=
  instrumentIds.foldl (fun self instrumentId =>
    match validateSpotInstrumentId instrumentId, self.level2BooksByInstrument.get? instrumentId with
    | .ok (), some book => { self with
        level2BooksByInstrument :=
          self.level2BooksByInstrument.insert instrumentId book.invalidate }
    | _, _ => self) self

/-- `insert_ticker_hint`. -/
def insertTicker (hint : OkxMarketTickerHint) : OkxMarketDataState F :=
  let currentTsMs := (self.tickersByInstId.lookup hint.ticker.instId).bind (·.sourceTsMs)
  if shouldIgnoreHint currentTsMs hint.sourceTsMs then self
  else { self with
    tickersByInstId := evictOldest okxMarketDataCacheMaxHintsPerKind (fun hint => hint.receivedAt)
      met.tickers (self.tickersByInstId.insert hint.ticker.instId hint) }

/-- Whether the bar is newly confirmed. -/
def insertCandle (hint : OkxMarketCandleHint F) : Bool × OkxMarketDataState F :=
  let (inserted, candlesByInstIdAndChannel) :=
    insertCandleHint met.candles self.candlesByInstIdAndChannel hint
  (inserted, { self with candlesByInstIdAndChannel })

/-- The instrument hint into the cache. -/
def insertInstrument (hint : OkxInstrumentUpdateHint) :
    OkxInstrumentHintDisposition × OkxMarketDataState F :=
  let (disposition, instrumentsByInstId) :=
    insertInstrumentHint met.instruments self.protectedInstrumentIds self.instrumentsByInstId hint
  (disposition, { self with instrumentsByInstId })

/-- The update into the book of its instrument; `none` where the arithmetic panics. -/
def applyLevel2 (ops : DecimalOps) (update : OkxLevel2Update) :
    Option (Result OkxLevel2ApplyOutcome × OkxMarketDataState F) :=
  match self.level2BooksByInstrument.get? update.instrumentId with
  | none => some (.error "OKX Level-2 update for unconfigured instrument", self)
  | some book =>
      (book.applyWithClock ops update met.bookAppliedAt met.featuresReadyAt).map
        fun (outcome, book) => (outcome.mapError OkxLevel2BookError.message, { self with
          level2BooksByInstrument :=
            self.level2BooksByInstrument.insert update.instrumentId book })

/-! ### Readers -/

variable (now : Instant) (instId : Text) (maxStaleness : ℕ)

/-- The ticker held, where it arrived lately enough. -/
def freshTicker : Option OkxTickerRow :=
  (self.tickersByInstId.lookup instId).bind fun hint =>
    if now - hint.receivedAt ≤ maxStaleness then some hint.ticker else none

/-- The features of a valid book, where they arrived lately enough. -/
def freshLevel2Features : Option OkxLevel2FeatureSnapshot :=
  match validateSpotInstrumentId instId with
  | .error _ => none
  | .ok () =>
      (self.level2BooksByInstrument.get? instId).bind fun book =>
        book.currentFeatures.filter fun features =>
          decide (now - features.receivedAt ≤ maxStaleness)

end OkxMarketDataState

/-! ## Applying a message -/

/-- The events and the features of rows that were applied. -/
structure AppliedMarketData where
  publicEvents : List OkxPublicRuntimeEvent
  level2Features : List OkxLevel2FeatureSnapshot
  deriving DecidableEq

namespace AppliedMarketData

def nothing : AppliedMarketData := ⟨[], []⟩

def append (self more : AppliedMarketData) : AppliedMarketData :=
  ⟨self.publicEvents ++ more.publicEvents, self.level2Features ++ more.level2Features⟩

end AppliedMarketData

/-- What a message meets: the time it was parsed at, and what each of its insertions meets. -/
structure MarketMeets (F : Type) where
  parsedAt : Instant
  insertion : ℕ → MarketInsertion F

section Apply

variable (ops : DecimalOps) (level2InstrumentIds : List Text)

/-- One row of a message. -/
def applyMarketHint (met : MarketInsertion F) (state : OkxMarketDataState F) :
    OkxMarketDataHint F → Option (Result AppliedMarketData × OkxMarketDataState F)
  | .ticker hint => some (.ok .nothing, state.insertTicker met hint)
  | .candle hint =>
      let runtimeEvent := if hint.bar.confirm
        then some (.confirmedCandle ⟨hint.instId, hint.bar.tsMs, hint.receivedAt⟩) else none
      let (inserted, state) := state.insertCandle met hint
      some (.ok ⟨(if inserted then runtimeEvent else none).toList, []⟩, state)
  | .instrument hint =>
      let runtimeEvent := .instrumentUpdated hint.instrument.instId hint.receivedAt
      let (disposition, state) := state.insertInstrument met hint
      some (.ok ⟨if disposition.requiresRestRevalidation then [runtimeEvent] else [], []⟩, state)
  | .level2 update =>
      if update.instrumentId ∉ level2InstrumentIds then
        some (.error "OKX Level-2 update was not requested by this stream", state)
      else (state.applyLevel2 met ops update).map fun (outcome, state) =>
        (outcome.map fun
          | .features features => ⟨[], [features]⟩
          | .heartbeat => .nothing, state)

/-- The rows of a message one after another, up to the first that fails; what was applied before it
is lost with it. -/
def applyMarketHints : (ℕ → MarketInsertion F) → OkxMarketDataState F → List (OkxMarketDataHint F) →
    Option (Result Unit × AppliedMarketData × OkxMarketDataState F)
  | _, state, [] => some (.ok (), .nothing, state)
  | met, state, hint :: rest => do
      match ← applyMarketHint ops level2InstrumentIds (met 0) state hint with
      | (.error e, state) => some (.error e, .nothing, state)
      | (.ok applied, state) =>
          let (result, more, state) ← applyMarketHints (fun n => met (n + 1)) state rest
          return (result, applied.append more, state)

/-- `apply_public_market_data_message_inner`: its result, what was applied, and the cache. -/
def applyPublicMarketData (numerics : MarketNumerics F) (meets : MarketMeets F)
    (receivedAt : Instant)
    (state : OkxMarketDataState F) (message : OkxWebsocketSubscriptionMessage OkxPublicData) :
    Option (Result Unit × AppliedMarketData × OkxMarketDataState F) :=
  match parsePublicMarketData numerics receivedAt meets.parsedAt message with
  | .error e => some (.error e, .nothing, state)
  | .ok hints => applyMarketHints numerics.ops level2InstrumentIds meets.insertion state hints

end Apply

end OkxTrading
