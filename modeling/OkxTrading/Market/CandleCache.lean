import Mathlib.Data.List.AList
import Mathlib.Data.List.MinMax
import OkxTrading.Collections.SortedMap
import OkxTrading.Okx.RateLimit
import OkxTrading.Strategy.Signal

/-!
# The candle cache

The candle messages of `okx/websocket.rs` and the part of `OkxMarketDataCache` they change.
Payloads of other channels neither change the candles nor emit a candle event; they are left out.

`f64::from_str` is a parameter.  The order in which a hash map is walked is not specified, so a
`HashWalk` is part of every insertion: any order of the entries, and a clock reading.

* `parsePublicMarketDataMessage` — the rows of a candle message, checked.
* `insertCandleHint` — one candle into the cache, with both evictions.
* `applyPublicMarketDataMessageInner` — a message, and the events it emits.
-/

namespace OkxTrading

open Collections Effect

def okxMarketCandleCacheMaxBars : ℕ := 32
def okxMarketDataCacheMaxHintsPerKind : ℕ := 1024

/-! ## Channels -/

def okxPublicCandle1sChannel : Text := "candle1s".toList
def okxPublicCandle1mChannel : Text := "candle1m".toList
def okxPublicCandle5mChannel : Text := "candle5m".toList

/-- The bar a candle channel carries; any other channel is an error. -/
def okxPublicCandleBarForChannel (channel : Text) : Result Text :=
  if channel = okxPublicCandle1mChannel then .ok "1m".toList
  else if channel = okxPublicCandle1sChannel then .ok "1s".toList
  else if channel = okxPublicCandle5mChannel then .ok "5m".toList
  else .error "OKX WebSocket candle channel is not supported by this runtime"

/-! ## Bars -/

/-- A bar with its open price, which only the checks read. -/
structure OkxCandleBar (F : Type) extends MarketBar F where
  openPrice : F

variable {F : Type} [F64 F]

/-- A price of a bar has to be a finite number above zero. -/
def ensurePositiveFiniteCandleValue (context name : Message) (value : F) : Result Unit :=
  ensure (F64.isFinite value ∧ F64.lt (F64.ofNat 0) value)
    (context ++ " " ++ name ++ " must be finite and positive")

/-- `MarketBar::validate`. -/
def OkxCandleBar.validate (self : OkxCandleBar F) (context : Message) : Result Unit := do
  ensure (0 < self.tsMs) (context ++ " ts must be positive")
  ensurePositiveFiniteCandleValue context "open" self.openPrice
  ensurePositiveFiniteCandleValue context "high" self.high
  ensurePositiveFiniteCandleValue context "low" self.low
  ensurePositiveFiniteCandleValue context "close" self.close
  ensure (F64.le self.openPrice self.high) (context ++ " high must be at least open")
  ensure (F64.le self.close self.high) (context ++ " high must be at least close")
  ensure (F64.le self.low self.high) (context ++ " high must be at least low")
  ensure (F64.le self.low self.openPrice) (context ++ " low must be at most open")
  ensure (F64.le self.low self.close) (context ++ " low must be at most close")
  ensure (F64.le self.low self.high) (context ++ " low must be at most high")

/-- A field that has to be an integer. -/
def parseRequiredI64 (context : Message) (value : Text) : Result ℤ :=
  match parseI64 value with
  | some value => .ok value
  | none => .error ("invalid " ++ context)

section Parse

variable (parseF64 : Text → Option F)

/-- A field that has to be a finite number above zero. -/
def parsePositiveF64 (context : Message) (value : Text) : Result F := do
  let some parsed := parseF64 value | .error ("invalid " ++ context)
  ensure (F64.isFinite parsed ∧ F64.lt (F64.ofNat 0) parsed)
    (context ++ " must be finite and positive")
  return parsed

/-- A field that has to be a finite number, zero allowed. -/
def parseNonNegativeF64 (context : Message) (value : Text) : Result F := do
  let some parsed := parseF64 value | .error ("invalid " ++ context)
  ensure (F64.isFinite parsed ∧ F64.le (F64.ofNat 0) parsed)
    (context ++ " must be finite and non-negative")
  return parsed

/-- A candle row in the order OKX documents; further fields are ignored. -/
def parseCandleData : List Text → Result (OkxCandleBar F)
  | ts :: opened :: high :: low :: close :: volume :: volumeCcy :: volumeCcyQuote ::
      confirm :: _ => do
      let tsMs ← parseRequiredI64 "OKX WebSocket candle ts" ts
      ensure (0 < tsMs) "OKX WebSocket candle ts must be positive"
      let openPrice ← parsePositiveF64 parseF64 "OKX WebSocket candle open" opened
      let high ← parsePositiveF64 parseF64 "OKX WebSocket candle high" high
      let low ← parsePositiveF64 parseF64 "OKX WebSocket candle low" low
      let close ← parsePositiveF64 parseF64 "OKX WebSocket candle close" close
      let _ ← parseNonNegativeF64 parseF64 "OKX WebSocket candle volume" volume
      let _ ← parseNonNegativeF64 parseF64 "OKX WebSocket candle volumeCcy" volumeCcy
      let _ ← parseNonNegativeF64 parseF64 "OKX WebSocket candle volumeCcyQuote" volumeCcyQuote
      ensure (confirm = ['0'] ∨ confirm = ['1'])
        "OKX WebSocket candle confirm flag must be 0 or 1"
      let bar : OkxCandleBar F :=
        { tsMs, openPrice, high, low, close, confirm := decide (confirm = ['1']) }
      bar.validate "OKX WebSocket candle"
      return bar
  | _ => .error "OKX WebSocket candle payload must contain at least 9 fields"

end Parse

/-! ## Messages -/

/-- The `arg` of a public message. -/
structure OkxWebsocketPublicArg where
  channel : Text
  instId : Option Text
  deriving DecidableEq, Repr

/-- The `data` of a message: rows of texts, or JSON that is none. -/
inductive OkxCandleData where
  | rows (rows : List (List Text))
  | malformed
  deriving DecidableEq, Repr

/-- A public message, with the fields the candle path reads. -/
structure OkxWebsocketPublicMessage where
  event : Option Text
  code : Option Text
  arg : Option OkxWebsocketPublicArg
  data : Option OkxCandleData
  deriving DecidableEq, Repr

/-- A bar of one instrument and channel, as the cache takes it. -/
structure OkxMarketCandleHint (F : Type) where
  instId : Text
  channel : Text
  bar : OkxCandleBar F
  sourceTsMs : Option ℤ
  receivedAt : Instant

def okxWebsocketNoticeEvent : Text := "notice".toList
def okxWebsocketServiceUpgradeNoticeCode : Text := "64008".toList

/-- A notice ends the session whatever its code; only the text differs. -/
def rejectWebsocketNotice (event code : Option Text) (context : Message) : Result Unit :=
  if event ≠ some okxWebsocketNoticeEvent then .ok ()
  else match code with
    | some code =>
        if code = okxWebsocketServiceUpgradeNoticeCode then
          .error ("OKX " ++ context ++ " WebSocket service upgrade notice requires reconnect")
        else if code ≠ [] then
          .error ("OKX " ++ context ++ " WebSocket received unsupported notice code")
        else .error ("OKX " ++ context ++ " WebSocket notice omitted its required code")
    | none => .error ("OKX " ++ context ++ " WebSocket notice omitted its required code")

/-- The arm of a candle channel. -/
def parseCandleArm (parseF64 : Text → Option F) (arg : OkxWebsocketPublicArg)
    (data : OkxCandleData) (receivedAt : Instant) : Result (List (OkxMarketCandleHint F)) := do
  let _ ← okxPublicCandleBarForChannel arg.channel
  let some instId := arg.instId | .error "OKX public WebSocket candle data omitted arg instId"
  ensure (Text.isBlank instId = false) "OKX WebSocket candle omitted instId"
  match data with
  | .malformed => .error "failed parsing OKX public candle update"
  | .rows rows =>
      let bars ← rows.mapM (parseCandleData parseF64)
      return bars.map fun bar =>
        { instId, channel := arg.channel, bar, sourceTsMs := some bar.tsMs, receivedAt }

/-- The rows of a candle message; `none` is a payload that is no message. -/
def parsePublicMarketDataMessage (parseF64 : Text → Option F)
    (payload : Option OkxWebsocketPublicMessage) (receivedAt : Instant) :
    Result (List (OkxMarketCandleHint F)) := do
  let some message := payload | .error "failed parsing OKX public WebSocket message"
  rejectWebsocketNotice message.event message.code "public"
  if message.event = some "error".toList then .error "OKX public WebSocket error"
  else if message.event.isSome then return []
  else
    let some data := message.data | return []
    let some arg := message.arg | .error "OKX public WebSocket data omitted arg"
    parseCandleArm parseF64 arg data receivedAt

/-! ## The cache -/

/-- The bars of one instrument and channel, by their timestamps. -/
abbrev CandleSeries (F : Type) := SortedMap ℤ (OkxMarketCandleHint F)

/-- `candles_by_inst_id_and_channel`. -/
abbrev CandleCache (F : Type) := AList fun _ : Text × Text => CandleSeries F

/-- What an insertion meets: the clock, and the order the hash map is walked in. -/
structure HashWalk (F : Type) where
  now : Instant
  walk : CandleCache F → List (Sigma fun _ : Text × Text => CandleSeries F)
  perm : ∀ cache, (walk cache).Perm cache.entries

/-- A row older than the one held, or without a time, is ignored. -/
def shouldIgnoreHint (currentTsMs incomingTsMs : Option ℤ) : Bool :=
  match incomingTsMs with
  | some incoming => currentTsMs.any fun current => decide (incoming < current)
  | none => true

/-- When the newest bar of a series arrived; a series without bars counts as of now. -/
def latestCandleSeriesReceivedAt (now : Instant) (bars : CandleSeries F) : Instant :=
  ((bars.entries.map (·.2.receivedAt)).max?).getD now

/-- `evict_oldest_market_data_hints`, for at most `rounds` evictions. -/
def evictRounds (walk : HashWalk F) : ℕ → CandleCache F → CandleCache F
  | 0, hints => hints
  | rounds + 1, hints =>
      if okxMarketDataCacheMaxHintsPerKind < hints.entries.length then
        match (walk.walk hints).argmin fun entry =>
            latestCandleSeriesReceivedAt walk.now entry.2 with
        | none => hints
        | some oldest => evictRounds walk rounds (hints.erase oldest.1)
      else hints

/-- The series received longest ago leave until the cache fits. -/
def evictOldestMarketDataHints (walk : HashWalk F) (hints : CandleCache F) : CandleCache F :=
  evictRounds walk hints.entries.length hints

/-- The loop that drops the oldest bars, for at most `rounds` of them. -/
def dropRounds : ℕ → CandleSeries F → CandleSeries F
  | 0, bars => bars
  | rounds + 1, bars =>
      if okxMarketCandleCacheMaxBars < bars.size then
        match bars.first? with
        | none => bars
        | some first => dropRounds rounds (bars.erase first.1)
      else bars

/-- The oldest bars leave until the series fits. -/
def dropOldestBars (bars : CandleSeries F) : CandleSeries F := dropRounds bars.size bars

/-- Whether the bar is newly confirmed, and the cache with it. -/
def insertCandleHint (walk : HashWalk F) (cache : CandleCache F) (hint : OkxMarketCandleHint F) :
    Bool × CandleCache F :=
  let key := (hint.instId, hint.channel)
  let bars := (cache.lookup key).getD SortedMap.empty
  let cache := cache.insert key bars
  let current := bars.get? hint.bar.tsMs
  let currentTsMs := current.bind (·.sourceTsMs)
  if shouldIgnoreHint currentTsMs hint.sourceTsMs then (false, cache)
  else
    let newlyConfirmed := hint.bar.confirm && current.all fun current => !current.bar.confirm
    let bars := dropOldestBars (bars.insert hint.bar.tsMs hint)
    (newlyConfirmed, evictOldestMarketDataHints walk (cache.insert key bars))

/-! ## Applying a message -/

/-- The `ConfirmedCandle` event. -/
structure ConfirmedCandle where
  instrumentId : Text
  barTsMs : ℤ
  receivedAt : Instant
  deriving DecidableEq, Repr

/-- The hints of a message one after another; the walk is the one of each insertion. -/
def applyCandleHints (walks : ℕ → HashWalk F) (cache : CandleCache F) :
    List (OkxMarketCandleHint F) → List ConfirmedCandle × CandleCache F
  | [] => ([], cache)
  | hint :: rest =>
      let runtimeEvent := if hint.bar.confirm
        then some ⟨hint.instId, hint.bar.tsMs, hint.receivedAt⟩ else none
      let (inserted, cache) := insertCandleHint (walks 0) cache hint
      let (events, cache) := applyCandleHints (fun n => walks (n + 1)) cache rest
      ((if inserted then runtimeEvent else none).toList ++ events, cache)

/-- What a message came to: the rows it held and the confirmed bars it announces. -/
structure AppliedPublicMarketData where
  count : ℕ
  publicEvents : List ConfirmedCandle
  deriving DecidableEq, Repr

/-- A failed message leaves the cache as it is. -/
def applyPublicMarketDataMessageInner (parseF64 : Text → Option F) (walks : ℕ → HashWalk F)
    (cache : CandleCache F) (payload : Option OkxWebsocketPublicMessage) (receivedAt : Instant) :
    Result AppliedPublicMarketData × CandleCache F :=
  match parsePublicMarketDataMessage parseF64 payload receivedAt with
  | .error e => (.error e, cache)
  | .ok hints =>
      let (publicEvents, cache) := applyCandleHints walks cache hints
      (.ok ⟨hints.length, publicEvents⟩, cache)

/-! ## What a message holds -/

section Parse

variable {parseF64 : Text → Option F} {hint : OkxMarketCandleHint F}
  {hints : List (OkxMarketCandleHint F)} {receivedAt : Instant}

/-- The hints of a message name its channel and the start of their bars. -/
theorem mem_parseCandleArm {arg : OkxWebsocketPublicArg} {data : OkxCandleData}
    (h : parseCandleArm parseF64 arg data receivedAt = .ok hints) (hhint : hint ∈ hints) :
    hint.sourceTsMs = some hint.bar.tsMs ∧ hint.channel = arg.channel := by
  simp only [parseCandleArm, bind_eq_ok] at h
  obtain ⟨_, -, h⟩ := h
  split at h
  · simp only [bind_eq_ok] at h
    obtain ⟨_, -, h⟩ := h
    split at h
    · cases h
    · simp only [bind_eq_ok, pure_eq_ok] at h
      obtain ⟨bars, -, rfl⟩ := h
      obtain ⟨bar, -, rfl⟩ := List.mem_map.1 hhint
      exact ⟨rfl, rfl⟩
  · cases h

theorem mem_parsePublicMarketDataMessage {message : OkxWebsocketPublicMessage}
    (h : parsePublicMarketDataMessage parseF64 (some message) receivedAt = .ok hints)
    (hhint : hint ∈ hints) :
    hint.sourceTsMs = some hint.bar.tsMs ∧ message.arg.map (·.channel) = some hint.channel := by
  simp only [parsePublicMarketDataMessage, bind_eq_ok] at h
  obtain ⟨_, -, h⟩ := h
  split at h
  · cases h
  · split at h
    · cases h
      exact absurd hhint List.not_mem_nil
    · split at h
      · split at h
        · rename_i arg harg
          obtain ⟨hstamp, hchannel⟩ := mem_parseCandleArm h hhint
          exact ⟨hstamp, by rw [harg, hchannel]; rfl⟩
        · cases h
      · cases h
        exact absurd hhint List.not_mem_nil

end Parse

/-! ## Sizes of a table -/

section Sizes

variable {α β : Type} [DecidableEq α] {table : AList fun _ : α => β} {a : α} {b : β}

theorem length_erase_of_mem (h : a ∈ table.keys) :
    (table.erase a).entries.length = table.entries.length - 1 := by
  have hkeys := congrArg List.length (AList.keys_erase a table)
  rw [List.length_erase_of_mem h] at hkeys
  simpa only [AList.keys, List.keys, List.length_map] using hkeys

theorem length_insert_of_mem (h : a ∈ table.keys) :
    (table.insert a b).entries.length = table.entries.length := by
  have hpos : 0 < table.keys.length := List.length_pos_of_mem h
  have hkeys := congrArg List.length (AList.keys_insert (b := b) (a := a) table)
  rw [List.length_cons, List.length_erase_of_mem h, Nat.sub_add_cancel hpos] at hkeys
  simpa only [AList.keys, List.keys, List.length_map] using hkeys

end Sizes

/-! ## What the loops compute -/

section Loops

variable {bars : CandleSeries F} {walk : HashWalk F} {hints : CandleCache F} {key : Text × Text}
  {n : ℕ}

omit [F64 F] in
theorem dropRounds_eq (h : bars.size ≤ n + okxMarketCandleCacheMaxBars) :
    dropRounds n bars = bars.lastN okxMarketCandleCacheMaxBars := by
  induction n generalizing bars with
  | zero =>
      rw [Nat.zero_add] at h
      exact (SortedMap.lastN_of_size_le h).symm
  | succ n ih =>
      unfold dropRounds
      split
      · rename_i hfull
        have hne : bars.entries ≠ [] :=
          SortedMap.size_pos.1 (lt_of_le_of_lt (Nat.zero_le _) hfull)
        cases hfirst : bars.first? with
        | none => exact absurd (List.head?_eq_none_iff.1 hfirst) hne
        | some first =>
            have hless : (bars.erase first.1).size < bars.size :=
              SortedMap.size_erase_of_mem (SortedMap.mem_of_first? hfirst)
            show dropRounds n (bars.erase first.1) = _
            rw [ih (by omega), SortedMap.lastN_erase_first hfirst hfull]
      · rename_i hfits
        exact (SortedMap.lastN_of_size_le (not_lt.1 hfits)).symm

omit [F64 F] in
/-- The newest bars stay. -/
theorem dropOldestBars_eq : dropOldestBars bars = bars.lastN okxMarketCandleCacheMaxBars :=
  dropRounds_eq (Nat.le_add_right _ _)

omit [F64 F] in
theorem lookup_evictRounds (h : (evictRounds walk n hints).lookup key = some bars) :
    hints.lookup key = some bars := by
  induction n generalizing hints with
  | zero => exact h
  | succ n ih =>
      unfold evictRounds at h
      split at h
      · split at h
        · exact h
        · rename_i oldest _
          have hleft := ih h
          by_cases hkey : key = oldest.1
          · rw [hkey, AList.lookup_erase] at hleft
            exact absurd hleft (by simp)
          · rwa [AList.lookup_erase_ne hkey] at hleft
      · exact h

omit [F64 F] in
/-- Eviction changes no series that stays. -/
theorem lookup_evictOldestMarketDataHints
    (h : (evictOldestMarketDataHints walk hints).lookup key = some bars) :
    hints.lookup key = some bars :=
  lookup_evictRounds h

omit [F64 F] in
theorem evictRounds_of_length_le (h : hints.entries.length ≤ okxMarketDataCacheMaxHintsPerKind) :
    evictRounds walk n hints = hints := by
  cases n with
  | zero => rfl
  | succ n => exact if_neg (not_lt.2 h)

omit [F64 F] in
theorem evictOldestMarketDataHints_of_length_le
    (h : hints.entries.length ≤ okxMarketDataCacheMaxHintsPerKind) :
    evictOldestMarketDataHints walk hints = hints :=
  evictRounds_of_length_le h

omit [F64 F] in
theorem length_evictRounds_le
    (h : hints.entries.length ≤ n + okxMarketDataCacheMaxHintsPerKind) :
    (evictRounds walk n hints).entries.length ≤ okxMarketDataCacheMaxHintsPerKind := by
  induction n generalizing hints with
  | zero =>
      rw [Nat.zero_add] at h
      exact h
  | succ n ih =>
      unfold evictRounds
      split
      · rename_i hfull
        split
        · rename_i hnone
          -- the walk meets every entry, so there is an oldest one
          have hempty : walk.walk hints = [] := List.argmin_eq_none.1 hnone
          have hlength := (walk.perm hints).length_eq
          rw [hempty] at hlength
          rw [← hlength] at hfull
          exact absurd hfull (Nat.not_lt_zero _)
        · rename_i oldest hsome
          have hmem : oldest ∈ hints.entries :=
            (walk.perm hints).mem_iff.1 (List.argmin_mem hsome)
          have hless := length_erase_of_mem (List.mem_map_of_mem hmem : oldest.1 ∈ hints.keys)
          refine ih ?_
          omega
      · rename_i hfits
        exact not_lt.1 hfits

omit [F64 F] in
/-- The cache keeps within its bound. -/
theorem length_evictOldestMarketDataHints_le :
    (evictOldestMarketDataHints walk hints).entries.length ≤ okxMarketDataCacheMaxHintsPerKind :=
  length_evictRounds_le (Nat.le_add_right _ _)

end Loops

end OkxTrading
