import OkxTrading.Market.CandleCache
import OkxTrading.Okx.Pagination
import OkxTrading.Okx.TradingInstrument

/-!
# Private event messages

The messages of `okx/websocket/private.rs` and `OkxPrivateEventCache`, which keeps the newest hint
of every order, fill and algo order, and of the account.

* `parsePrivateEventMessageWithAuthority` — the rows of a message, with the checks made of all.
* `updateOrder`, `updateFill`, `updateAlgoOrder`, `updateAccount` — one hint into the cache, with
  the checks made of each.
* `applyPrivateEventMessageInner` — a message, and the runtime events it leads to.
* `updateHint_cases` — everything an update can do.
-/

namespace OkxTrading

open Effect

def okxPrivateOrdersChannel : Text := "orders".toList
def okxPrivateFillsChannel : Text := "fills".toList
def okxPrivateAccountChannel : Text := "account".toList
def okxBusinessAlgoOrdersChannel : Text := "orders-algo".toList
def okxPrivateEventCacheMaxHintsPerKind : ℕ := 1024

/-! ## Rows -/

/-- An order with what only the private stream reads of it. -/
structure OkxPrivateOrder extends OkxOrder where
  instType : Text
  instId : Text
  orderId : Text
  createdAtText : Text
  updatedAtText : Text
  deriving DecidableEq, Repr

/-- A row of the fills channel. -/
structure OkxPrivateFill extends OkxFill where
  instType : Text
  instId : Text
  deriving DecidableEq, Repr

/-- `orderPriceValue` is the decimal `orderPrice` denotes. -/
structure OkxPrivateAlgoOrder extends OkxAlgoOrder where
  instType : Text
  instId : Text
  tdMode : Text
  orderPriceValue : DecimalText
  createdAtText : Text
  updatedAtText : Text
  deriving DecidableEq, Repr

/-- The balance of a currency as the account channel sends it. -/
structure OkxPrivateBalanceDetail extends OkxBalanceDetail where
  availableBalance : DecimalText
  frozenBalance : DecimalText
  deriving DecidableEq, Repr

/-- A row of the account channel. -/
structure OkxWebsocketAccountData where
  details : List OkxPrivateBalanceDetail
  updatedAtText : Text
  deriving DecidableEq, Repr

namespace OkxPrivateBalanceDetail

variable (self : OkxPrivateBalanceDetail)

def available : Result Decimal :=
  parseNonNegativeDecimal "OKX balance availBal" self.availableBalance

def frozen : Result Decimal := do
  ensure (self.frozenBalance.isBlank = false) "OKX balance frozenBal must be provided"
  parseNonNegativeDecimal "OKX balance frozenBal" self.frozenBalance

end OkxPrivateBalanceDetail

/-! ## Messages -/

/-- The `arg` of a private message. -/
structure OkxWebsocketPrivateArg where
  channel : Text
  instType : Option Text
  instId : Option Text
  deriving DecidableEq, Repr

/-- The `data` of a message, as rows of each kind; `none` where it is no rows of that kind. -/
structure OkxPrivateData where
  orders : Option (List OkxPrivateOrder)
  fills : Option (List OkxPrivateFill)
  accounts : Option (List OkxWebsocketAccountData)
  algoOrders : Option (List OkxPrivateAlgoOrder)
  deriving DecidableEq, Repr

/-- A private message, with the fields its path reads. -/
structure OkxWebsocketPrivateMessage where
  event : Option Text
  code : Option Text
  arg : Option OkxWebsocketPrivateArg
  data : Option OkxPrivateData
  deriving DecidableEq, Repr

/-- A row with its source timestamp and the time it was received. -/
structure OkxPrivateHint (Row : Type) where
  row : Row
  sourceTsMs : Option ℤ
  receivedAt : Instant
  deriving DecidableEq, Repr

abbrev OkxPrivateOrderHint := OkxPrivateHint OkxPrivateOrder
abbrev OkxPrivateFillHint := OkxPrivateHint OkxPrivateFill
abbrev OkxPrivateAlgoOrderHint := OkxPrivateHint OkxPrivateAlgoOrder
abbrev OkxPrivateAccountHint := OkxPrivateHint (List OkxPrivateBalanceDetail)

/-- A hint of one of the four kinds. -/
inductive OkxPrivateEventHint where
  | order (hint : OkxPrivateOrderHint)
  | fill (hint : OkxPrivateFillHint)
  | algoOrder (hint : OkxPrivateAlgoOrderHint)
  | account (hint : OkxPrivateAccountHint)
  deriving DecidableEq, Repr

/-- The instrument type that trigger orders are subscribed with. -/
inductive OkxAlgoSubscriptionSelector where
  | spot
  | any
  deriving DecidableEq, Repr

def OkxAlgoSubscriptionSelector.asOkx : OkxAlgoSubscriptionSelector → Text
  | .spot => spotText
  | .any => "ANY".toList

/-- The two private endpoints. -/
inductive OkxPrivateStreamKind where
  | trading
  | business
  deriving DecidableEq, Repr

def OkxPrivateStreamKind.label : OkxPrivateStreamKind → Message
  | .trading => "private"
  | .business => "business"

/-- What a private stream was configured for. -/
structure OkxPrivateEventAuthority where
  instrumentIds : List Text
  instrumentType : Text
  algoSubscriptionSelector : OkxAlgoSubscriptionSelector
  streamKind : OkxPrivateStreamKind
  deriving DecidableEq, Repr

/-! ## Checks -/

/-- `ensure_spot_inst_type` of `private.rs`. -/
def ensurePrivateSpotInstType (instType : Text) (context : Message) : Result Unit :=
  ensure (Text.isBlank instType = true ∨ instType = spotText)
    ("OKX private WebSocket " ++ context ++ " has non-SPOT instType")

/-- A row has to name a spot pair. -/
def ensureSpotInstrumentId (instId : Text) (context : Message) : Result Unit := do
  let parts := instId.splitOn '-'
  let base := parts[0]?.getD []
  let quote := parts[1]?.getD []
  ensure (parts[2]? = none ∧ base ≠ [] ∧ quote ≠ [])
    ("OKX private WebSocket " ++ context ++ " must use SPOT BASE-QUOTE instrument format")
  ensure (isOkxAssetCode base = true ∧ isOkxAssetCode quote = true)
    ("OKX private WebSocket " ++ context ++ " must use uppercase SPOT asset codes")

/-- A row has to be of the instrument its `arg` names, where it names one. -/
def ensureArgMatchesInstrument (arg : OkxWebsocketPrivateArg) (instId : Text) : Result Unit := do
  ensure (arg.instId = none ∨ arg.instId = some instId)
    "OKX private WebSocket row did not match arg instrument"
  ensureSpotInstrumentId instId "arg"
  match arg.instType with
  | some instType => ensurePrivateSpotInstType instType "arg"
  | none => return ()

/-- `parse_optional_ts_ms` of `private.rs`. -/
def parsePrivateTsMs (context : Message) (value : Text) : Result (Option ℤ) := do
  if Text.isBlank value then return none
  let some tsMs := parseI64 value | .error ("invalid " ++ context)
  ensure (0 < tsMs) (context ++ " must be positive")
  return some tsMs

def ensurePositiveDecimal (context : Message) (value : DecimalText) : Result Unit := do
  let _ ← parsePositiveDecimal context value

/-- A field that may be blank and else has to be a decimal above zero. -/
def ensureOptionalPositiveDecimal (context : Message) (value : DecimalText) : Result Unit :=
  if value.isBlank then .ok () else ensurePositiveDecimal context value

/-- The time of the update of an order, else of its creation. -/
def privateOrderSourceTsMs (order : OkxPrivateOrder) : Result (Option ℤ) :=
  if Text.isBlank order.updatedAtText = false then
    parsePrivateTsMs "OKX private order uTime" order.updatedAtText
  else parsePrivateTsMs "OKX private order cTime" order.createdAtText

/-- The same for trigger orders. -/
def privateAlgoOrderSourceTsMs (algoOrder : OkxPrivateAlgoOrder) : Result (Option ℤ) :=
  if Text.isBlank algoOrder.updatedAtText = false then
    parsePrivateTsMs "OKX private algo order uTime" algoOrder.updatedAtText
  else parsePrivateTsMs "OKX private algo order cTime" algoOrder.createdAtText

/-- A trigger order has to be one the stream was subscribed for. -/
def OkxPrivateEventAuthority.ensureAlgoOrderMatches (self : OkxPrivateEventAuthority)
    (arg : OkxWebsocketPrivateArg) (algoOrder : OkxPrivateAlgoOrder) : Result Unit := do
  ensure (self.instrumentType = spotText)
    "current OKX private algo-order authority admits only validated SPOT"
  ensure (arg.instType = some self.algoSubscriptionSelector.asOkx)
    "OKX private algo-order push selector did not match expected"
  ensure (arg.instId = some algoOrder.instId)
    "OKX private algo-order row did not match exact arg instrument"
  ensure (algoOrder.instId ∈ self.instrumentIds)
    "OKX private algo-order push returned unconfigured instrument"
  ensure (algoOrder.instType = spotText) "OKX private algo-order has non-SPOT instType"
  ensure (Text.isBlank algoOrder.tdMode = true ∨ algoOrder.tdMode = "cash".toList)
    "OKX private algo-order has unsupported tdMode"
  ensureSpotInstrumentId algoOrder.instId "algo order"

/-! ## Parsing -/

/-- `parse_websocket_data`. -/
def parseWebsocketData {Row : Type} (data : Option (List Row)) (context : Message) :
    Result (List Row) :=
  match data with
  | some rows => .ok rows
  | none => .error context

/-- The rows of a message as hints, by its channel. -/
def parseDataArm (authority : OkxPrivateEventAuthority) (arg : OkxWebsocketPrivateArg)
    (data : OkxPrivateData) (receivedAt : Instant) : Result (List OkxPrivateEventHint) := do
  if arg.channel = okxPrivateOrdersChannel then
    let rows ← parseWebsocketData data.orders "failed parsing OKX private order update"
    rows.mapM fun order => do
      ensureArgMatchesInstrument arg order.instId
      return .order ⟨order, ← privateOrderSourceTsMs order, receivedAt⟩
  else if arg.channel = okxPrivateFillsChannel then
    let rows ← parseWebsocketData data.fills "failed parsing OKX private fill update"
    rows.mapM fun fill => do
      ensureArgMatchesInstrument arg fill.instId
      return .fill ⟨fill, ← parsePrivateTsMs "OKX private fill ts" fill.eventTimeText, receivedAt⟩
  else if arg.channel = okxPrivateAccountChannel then
    let rows ← parseWebsocketData data.accounts "failed parsing OKX private account update"
    rows.mapM fun account => do
      return .account ⟨account.details,
        ← parsePrivateTsMs "OKX private account uTime" account.updatedAtText, receivedAt⟩
  else if arg.channel = okxBusinessAlgoOrdersChannel then
    let rows ← parseWebsocketData data.algoOrders "failed parsing OKX private algo order update"
    rows.mapM fun algoOrder => do
      authority.ensureAlgoOrderMatches arg algoOrder
      return .algoOrder ⟨algoOrder, ← privateAlgoOrderSourceTsMs algoOrder, receivedAt⟩
  else .error "OKX private WebSocket channel is not supported"

/-- The rows of a message; `none` is a payload that is no message. -/
def parsePrivateEventMessageWithAuthority (authority : OkxPrivateEventAuthority)
    (payload : Option OkxWebsocketPrivateMessage) (receivedAt : Instant) :
    Result (List OkxPrivateEventHint) := do
  let some message := payload | .error "failed parsing OKX private WebSocket message"
  rejectWebsocketNotice message.event message.code authority.streamKind.label
  if message.event = some "error".toList then
    if message.code = some "64003".toList ∧
        message.arg.any (fun arg => decide (arg.channel = okxPrivateFillsChannel)) then return []
    else .error "OKX private WebSocket error"
  else if message.event.isSome then return []
  else
    let some data := message.data | return []
    let some arg := message.arg | .error "OKX private WebSocket data omitted arg"
    parseDataArm authority arg data receivedAt

/-! ## The cache -/

/-- A hash map of hints. -/
abbrev PrivateHints (Key Row : Type) := AList fun _ : Key => OkxPrivateHint Row

/-- The order a hash map of hints is walked in: any order of its entries. -/
structure PrivateHintWalk (Key Row : Type) where
  walk : PrivateHints Key Row → List (Sigma fun _ : Key => OkxPrivateHint Row)
  perm : ∀ hints, (walk hints).Perm hints.entries

/-- The walks of the evictions an update makes. -/
structure PrivateWalks where
  orders : PrivateHintWalk (Text × Text) OkxPrivateOrder
  fills : PrivateHintWalk Text OkxPrivateFill
  algoOrders : PrivateHintWalk (Text × Text) OkxPrivateAlgoOrder

section Evict

variable {Key Row : Type} [DecidableEq Key]

/-- `evict_oldest_private_hints`, for at most `rounds` evictions. -/
def evictPrivateRounds (walk : PrivateHintWalk Key Row) :
    ℕ → PrivateHints Key Row → PrivateHints Key Row
  | 0, hints => hints
  | rounds + 1, hints =>
      if okxPrivateEventCacheMaxHintsPerKind < hints.entries.length then
        match (walk.walk hints).argmin fun entry => entry.2.receivedAt with
        | none => hints
        | some oldest => evictPrivateRounds walk rounds (hints.erase oldest.1)
      else hints

/-- The oldest hints leave until the cache fits. -/
def evictOldestPrivateHints (walk : PrivateHintWalk Key Row) (hints : PrivateHints Key Row) :
    PrivateHints Key Row :=
  evictPrivateRounds walk hints.entries.length hints

/-- The source timestamp of the hint a key has. -/
def PrivateHints.currentTsMs (hints : PrivateHints Key Row) (key : Key) : Option ℤ :=
  (hints.lookup key).bind (·.sourceTsMs)

end Evict

/-- `OkxPrivateEventState`: the newest hints by their keys. -/
structure OkxPrivateEventState where
  ordersByClientId : PrivateHints (Text × Text) OkxPrivateOrder
  fillsByDedupeKey : PrivateHints Text OkxPrivateFill
  algoOrdersById : PrivateHints (Text × Text) OkxPrivateAlgoOrder
  account : Option OkxPrivateAccountHint
  deriving DecidableEq

/-- The cache before any message. -/
def OkxPrivateEventState.default : OkxPrivateEventState := ⟨∅, ∅, ∅, none⟩

/-! ## The checks of an update -/

/-- The checks of an order before it is kept. -/
def ensureOrderHint (order : OkxPrivateOrder) : Result Unit := do
  ensurePrivateSpotInstType order.instType "order"
  ensureSpotInstrumentId order.instId "order"
  ensure (Text.isBlank order.instId = false) "OKX private WebSocket order omitted instId"
  ensure (Text.isBlank order.clientOrderId = false) "OKX private WebSocket order omitted clOrdId"
  order.ensureDocumentedState "private WebSocket order"
  let _ ← order.fillSize
  let _ ← order.averageFillPrice
  let _ ← order.requestedSize

/-- The checks of a fill before it is kept. -/
def ensureFillHint (fill : OkxPrivateFill) : Result Unit := do
  ensurePrivateSpotInstType fill.instType "fill"
  ensureSpotInstrumentId fill.instId "fill"
  ensure (Text.isBlank fill.instId = false) "OKX private WebSocket fill omitted instId"
  let _ ← fill.fillSize
  let _ ← fill.fillPrice
  ensure (Text.isBlank fill.dedupeKey = false) "OKX private WebSocket fill omitted dedupe fields"

/-- The checks of a trigger order before it is kept. -/
def ensureAlgoOrderHint (algoOrder : OkxPrivateAlgoOrder) : Result Unit := do
  ensurePrivateSpotInstType algoOrder.instType "algo order"
  ensureSpotInstrumentId algoOrder.instId "algo order"
  ensure (Text.isBlank algoOrder.instId = false) "OKX private WebSocket algo order omitted instId"
  ensure (Text.isBlank algoOrder.algoId = false) "OKX private WebSocket algo order omitted algoId"
  algoOrder.ensureDocumentedState "private WebSocket algo order"
  ensureOptionalPositiveDecimal "OKX private WebSocket algo order triggerPx" algoOrder.triggerPx
  ensureOptionalPositiveDecimal "OKX private WebSocket algo order sz" algoOrder.sz
  if Text.isBlank algoOrder.orderPrice = false ∧ algoOrder.orderPrice ≠ "-1".toList then
    ensurePositiveDecimal "OKX private WebSocket algo order ordPx" algoOrder.orderPriceValue

/-- The checks of a balance before it is kept. -/
def ensureBalanceDetail (detail : OkxPrivateBalanceDetail) : Result Unit := do
  ensure (Text.isBlank detail.ccy = false) "OKX private WebSocket account update omitted ccy"
  let _ ← detail.available
  let _ ← detail.total
  let _ ← detail.frozen

/-! ## Updates -/

/-- What the updates share: the checks of the row, the timestamp of the hint it replaces, and the
cache with it inserted. -/
def updateHint (checked : Result Unit) (currentTsMs incomingTsMs : Option ℤ)
    (cache inserted : OkxPrivateEventState) : Result Bool × OkxPrivateEventState :=
  match checked with
  | .error e => (.error e, cache)
  | .ok () =>
      if shouldIgnoreHint currentTsMs incomingTsMs then (.ok false, cache) else (.ok true, inserted)

namespace OkxPrivateEventState

variable (cache : OkxPrivateEventState) (walks : PrivateWalks)

/-- An order goes under its instrument and client order id. -/
def updateOrder (hint : OkxPrivateOrderHint) : Result Bool × OkxPrivateEventState :=
  let key := (hint.row.instId, hint.row.clientOrderId)
  updateHint (ensureOrderHint hint.row) (cache.ordersByClientId.currentTsMs key) hint.sourceTsMs
    cache
    { cache with
      ordersByClientId :=
        evictOldestPrivateHints walks.orders (cache.ordersByClientId.insert key hint) }

/-- A fill goes under its deduplication key. -/
def updateFill (hint : OkxPrivateFillHint) : Result Bool × OkxPrivateEventState :=
  let key := hint.row.dedupeKey
  updateHint (ensureFillHint hint.row) (cache.fillsByDedupeKey.currentTsMs key) hint.sourceTsMs
    cache
    { cache with
      fillsByDedupeKey :=
        evictOldestPrivateHints walks.fills (cache.fillsByDedupeKey.insert key hint) }

/-- A trigger order goes under its instrument and id. -/
def updateAlgoOrder (hint : OkxPrivateAlgoOrderHint) : Result Bool × OkxPrivateEventState :=
  let key := (hint.row.instId, hint.row.algoId)
  updateHint (ensureAlgoOrderHint hint.row) (cache.algoOrdersById.currentTsMs key) hint.sourceTsMs
    cache
    { cache with
      algoOrdersById :=
        evictOldestPrivateHints walks.algoOrders (cache.algoOrdersById.insert key hint) }

/-- The balances replace those before; an empty row changes nothing. -/
def updateAccount (hint : OkxPrivateAccountHint) : Result Bool × OkxPrivateEventState :=
  if hint.row = [] then (.ok false, cache)
  else
    updateHint (hint.row.forM ensureBalanceDetail) (cache.account.bind (·.sourceTsMs))
      hint.sourceTsMs cache { cache with account := some hint }

end OkxPrivateEventState

/-! ## Applying a message -/

/-- What the engine is told of a row. -/
inductive OkxPrivateRuntimeEventKind where
  | order (instrumentId clientOrderId : Text)
  | fill (instrumentId clientOrderId : Text)
  | algoOrder (instrumentId : Text)
  | account
  deriving DecidableEq, Repr

/-- `OkxPrivateRuntimeEvent`. -/
structure OkxPrivateRuntimeEvent where
  kind : OkxPrivateRuntimeEventKind
  receivedAt : Instant
  deriving DecidableEq, Repr

namespace OkxPrivateEventHint

/-- The event of a row that was kept. -/
def runtimeEvent : OkxPrivateEventHint → OkxPrivateRuntimeEvent
  | .order hint => ⟨.order hint.row.instId hint.row.clientOrderId, hint.receivedAt⟩
  | .fill hint => ⟨.fill hint.row.instId hint.row.clientOrderId, hint.receivedAt⟩
  | .algoOrder hint => ⟨.algoOrder hint.row.instId, hint.receivedAt⟩
  | .account hint => ⟨.account, hint.receivedAt⟩

/-- The update a row makes. -/
def update (event : OkxPrivateEventHint) (walks : PrivateWalks) (cache : OkxPrivateEventState) :
    Result Bool × OkxPrivateEventState :=
  match event with
  | .order hint => cache.updateOrder walks hint
  | .fill hint => cache.updateFill walks hint
  | .algoOrder hint => cache.updateAlgoOrder walks hint
  | .account hint => cache.updateAccount hint

end OkxPrivateEventHint

/-- The rows of a message one after another; the walks are those of each update. -/
def applyPrivateHints (walks : ℕ → PrivateWalks) (cache : OkxPrivateEventState) :
    List OkxPrivateEventHint → Result (List OkxPrivateRuntimeEvent) × OkxPrivateEventState
  | [] => (.ok [], cache)
  | event :: rest =>
      match event.update (walks 0) cache with
      | (.error e, cache) => (.error e, cache)
      | (.ok accepted, cache) =>
          let (events, cache) := applyPrivateHints (fun n => walks (n + 1)) cache rest
          (events.map fun events => (if accepted then [event.runtimeEvent] else []) ++ events,
            cache)

/-- What a message came to. -/
structure AppliedPrivateEvents where
  count : ℕ
  runtimeEvents : List OkxPrivateRuntimeEvent
  deriving DecidableEq, Repr

/-- `apply_private_event_message_inner`: every row is read before the first is kept. -/
def applyPrivateEventMessageInner (authority : OkxPrivateEventAuthority) (walks : ℕ → PrivateWalks)
    (cache : OkxPrivateEventState) (payload : Option OkxWebsocketPrivateMessage)
    (receivedAt : Instant) : Result AppliedPrivateEvents × OkxPrivateEventState :=
  match parsePrivateEventMessageWithAuthority authority payload receivedAt with
  | .error e => (.error e, cache)
  | .ok hints =>
      let (runtimeEvents, cache) := applyPrivateHints walks cache hints
      (runtimeEvents.map fun runtimeEvents => ⟨hints.length, runtimeEvents⟩, cache)

/-! ## What an update can do -/

namespace OkxPrivateEventHint

variable (event : OkxPrivateEventHint) (cache : OkxPrivateEventState)

/-- The checks an update makes of its row; an account row without details meets none. -/
def checked : OkxPrivateEventHint → Result Unit
  | .order hint => ensureOrderHint hint.row
  | .fill hint => ensureFillHint hint.row
  | .algoOrder hint => ensureAlgoOrderHint hint.row
  | .account hint => hint.row.forM ensureBalanceDetail

/-- Whether the cache holds a newer row, or the row carries nothing. -/
def isIgnored (cache : OkxPrivateEventState) : OkxPrivateEventHint → Bool
  | .order hint =>
      shouldIgnoreHint
        (cache.ordersByClientId.currentTsMs (hint.row.instId, hint.row.clientOrderId))
        hint.sourceTsMs
  | .fill hint =>
      shouldIgnoreHint (cache.fillsByDedupeKey.currentTsMs hint.row.dedupeKey) hint.sourceTsMs
  | .algoOrder hint =>
      shouldIgnoreHint (cache.algoOrdersById.currentTsMs (hint.row.instId, hint.row.algoId))
        hint.sourceTsMs
  | .account hint =>
      decide (hint.row = []) ||
        shouldIgnoreHint (cache.account.bind (·.sourceTsMs)) hint.sourceTsMs

end OkxPrivateEventHint

/-- **An update rejects the row, ignores it, or accepts it**, and changes the cache only then. -/
theorem updateHint_cases (checked : Result Unit) (currentTsMs incomingTsMs : Option ℤ)
    (cache inserted : OkxPrivateEventState) :
    (∃ e, checked = .error e ∧
      updateHint checked currentTsMs incomingTsMs cache inserted = (.error e, cache)) ∨
    (checked = .ok () ∧ shouldIgnoreHint currentTsMs incomingTsMs = true ∧
      updateHint checked currentTsMs incomingTsMs cache inserted = (.ok false, cache)) ∨
    (checked = .ok () ∧ shouldIgnoreHint currentTsMs incomingTsMs = false ∧
      updateHint checked currentTsMs incomingTsMs cache inserted = (.ok true, inserted)) := by
  unfold updateHint
  cases checked with
  | error e => exact .inl ⟨e, rfl, rfl⟩
  | ok u =>
    cases hignore : shouldIgnoreHint currentTsMs incomingTsMs with
    | true => exact .inr (.inl ⟨rfl, rfl, rfl⟩)
    | false => exact .inr (.inr ⟨rfl, rfl, rfl⟩)

namespace OkxPrivateEventHint

variable (event : OkxPrivateEventHint) (walks : PrivateWalks) (cache : OkxPrivateEventState)

/-- The same of a row of any kind. -/
theorem update_cases :
    (∃ e, event.checked = .error e ∧ event.update walks cache = (.error e, cache)) ∨
    (event.checked = .ok () ∧ event.isIgnored cache = true ∧
      event.update walks cache = (.ok false, cache)) ∨
    (event.checked = .ok () ∧ event.isIgnored cache = false ∧
      ∃ cache', event.update walks cache = (.ok true, cache')) := by
  cases event with
  | order hint =>
    rcases updateHint_cases (ensureOrderHint hint.row) _ hint.sourceTsMs cache _ with h | h | h
    · exact .inl h
    · exact .inr (.inl h)
    · exact .inr (.inr ⟨h.1, h.2.1, _, h.2.2⟩)
  | fill hint =>
    rcases updateHint_cases (ensureFillHint hint.row) _ hint.sourceTsMs cache _ with h | h | h
    · exact .inl h
    · exact .inr (.inl h)
    · exact .inr (.inr ⟨h.1, h.2.1, _, h.2.2⟩)
  | algoOrder hint =>
    rcases updateHint_cases (ensureAlgoOrderHint hint.row) _ hint.sourceTsMs cache _ with h | h | h
    · exact .inl h
    · exact .inr (.inl h)
    · exact .inr (.inr ⟨h.1, h.2.1, _, h.2.2⟩)
  | account hint =>
    by_cases hrow : hint.row = []
    · exact .inr (.inl ⟨by simp [checked, hrow, pure, Except.pure], by simp [isIgnored, hrow],
        by simp [update, OkxPrivateEventState.updateAccount, hrow]⟩)
    · have hupdate : update (.account hint) walks cache =
          updateHint (hint.row.forM ensureBalanceDetail) (cache.account.bind (·.sourceTsMs))
            hint.sourceTsMs cache { cache with account := some hint } := by
        simp only [update, OkxPrivateEventState.updateAccount, if_neg hrow]
      have hignored : isIgnored cache (.account hint) =
          shouldIgnoreHint (cache.account.bind (·.sourceTsMs)) hint.sourceTsMs := by
        simp only [isIgnored, hrow, decide_false, Bool.false_or]
      rw [hupdate, hignored]
      rcases updateHint_cases (hint.row.forM ensureBalanceDetail)
        (cache.account.bind (·.sourceTsMs))
        hint.sourceTsMs cache { cache with account := some hint } with h | h | h
      · exact .inl h
      · exact .inr (.inl h)
      · exact .inr (.inr ⟨h.1, h.2.1, _, h.2.2⟩)

end OkxPrivateEventHint

end OkxTrading
