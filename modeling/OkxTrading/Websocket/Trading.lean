import OkxTrading.Okx.RestClient

/-!
# Order commands over WebSocket

`okx/websocket/trading.rs`: the commands with their checks, the check of an acknowledgement, and the
tracker of the acknowledgements a session has seen; and the request ids of `trading_client.rs`.

* `placeOrderCommand`, `amendOrderCommand`, `cancelOrderCommand` — what is sent.
* `OkxWebsocketAckTracker.record` — the duplicate filter.
* `parseOrderCommandAck` — what counts as an acknowledgement of a command.
* `websocketRequestId` — the ids, and when two of them are equal.
-/

namespace OkxTrading

open Effect

def okxWebsocketRequestIdMaxLen : ℕ := 32
def okxClientOrderIdMaxLen : ℕ := 32
def okxOrderTagMaxLen : ℕ := 16
def okxWebsocketAckTrackerMaxIds : ℕ := 256
def okxPriceAmendTypeReject : Text := "0".toList

/-- The order commands of the session. -/
inductive OkxWebsocketOrderOperation where
  | placeOrder
  | amendOrder
  | cancelOrder
  deriving DecidableEq, Repr

/-- The `op` of a command. -/
def OkxWebsocketOrderOperation.asOkx : OkxWebsocketOrderOperation → Text
  | .placeOrder => "order".toList
  | .amendOrder => "amend-order".toList
  | .cancelOrder => "cancel-order".toList

/-! ## Checks -/

def ensureInstIdCode (instIdCode : ℕ) : Result Unit :=
  ensure (0 < instIdCode) "OKX WebSocket instIdCode must be positive"

def ensureAsciiAlphanumeric (label : Message) (value : Text) : Result Unit :=
  ensure (value.all Char.isAlphanum = true) (label ++ " must be ASCII alphanumeric")

/-- The id of a request as OKX takes it. -/
def ensureRequestId (value : Text) (label : Message) : Result Unit := do
  ensureTrimmedNonEmpty label value
  ensureAsciiAlphanumeric label value
  ensure (value.length ≤ okxWebsocketRequestIdMaxLen) (label ++ " must not exceed 32 characters")

/-- A client order id as OKX takes it. -/
def ensureClientOrderId (value : Text) : Result Unit := do
  ensureTrimmedNonEmpty "OKX WebSocket clOrdId" value
  ensureAsciiAlphanumeric "OKX WebSocket clOrdId" value
  ensure (value.length ≤ okxClientOrderIdMaxLen)
    "OKX WebSocket clOrdId must not exceed 32 characters"

/-- A tag is limited in bytes. -/
def ensureOrderTag (value : Text) : Result Unit := do
  ensureTrimmedNonEmpty "OKX WebSocket order tag" value
  ensure ((value.map Char.utf8Size).sum ≤ okxOrderTagMaxLen)
    "OKX WebSocket order tag must not exceed 16 characters"

/-- A time after which OKX drops the command. -/
def ensureOrderExpTime (value : Text) : Result Unit := do
  ensureTrimmedNonEmpty "OKX WebSocket order expTime" value
  ensure (value.all Char.isDigit = true)
    "OKX WebSocket order expTime must be an unsigned millisecond timestamp"

/-! ## Commands -/

/-- An order as the session sends it. -/
structure OkxWebsocketPlaceOrder where
  id : Text
  instIdCode : ℕ
  expTime : Text
  side : OrderSide
  kind : OrderKind
  size : Text
  price : Option Text
  tdMode : Text
  tradeQuoteCurrency : Text
  clientOrderId : Text
  tag : Text
  deriving DecidableEq, Repr

/-- An amendment as the session sends it. -/
structure OkxWebsocketAmendOrder where
  id : Text
  instIdCode : ℕ
  expTime : Text
  clientOrderId : Text
  requestId : Text
  newSize : Option Text
  newPrice : Option Text
  deriving DecidableEq, Repr

/-- A cancellation as the session sends it. -/
structure OkxWebsocketCancelOrder where
  id : Text
  instIdCode : ℕ
  clientOrderId : Text
  deriving DecidableEq, Repr

/-- The one argument of a command. -/
inductive OkxWebsocketCommandArg where
  | place (instIdCode : ℕ) (tdMode : Text) (side : OrderSide) (orderType : OrderKind)
      (sz price priceAmendType tradeQuoteCurrency tag clientOrderId : Text)
  | amend (instIdCode : ℕ) (clientOrderId requestId : Text) (newSize newPrice : Option Text)
      (priceAmendType : Text)
  | cancel (instIdCode : ℕ) (clientOrderId : Text)
  deriving DecidableEq, Repr

/-- The JSON of a command. -/
structure OkxWebsocketCommand where
  id : Text
  op : Text
  expTime : Option Text
  arg : OkxWebsocketCommandArg
  deriving DecidableEq, Repr

/-- `place_order_command_json`. -/
def placeOrderCommand (request : OkxWebsocketPlaceOrder) : Result OkxWebsocketCommand := do
  ensureRequestId request.id "OKX WebSocket order id"
  ensureInstIdCode request.instIdCode
  ensureOrderExpTime request.expTime
  ensureClientOrderId request.clientOrderId
  ensureTrimmedNonEmpty "OKX WebSocket order size" request.size
  ensureTrimmedNonEmpty "OKX WebSocket order tradeQuoteCcy" request.tradeQuoteCurrency
  ensure (request.tdMode = "cash".toList)
    "OKX WebSocket order tdMode must be validated cash for the current runtime"
  ensureOrderTag request.tag
  ensure (request.kind = .limit ∨ request.kind = .postOnly)
    "OKX WebSocket place order supports only limit or post-only orders"
  let some price := request.price | .error "OKX WebSocket limit/post-only order requires px"
  ensureTrimmedNonEmpty "OKX WebSocket order price" price
  return {
    id := request.id
    op := OkxWebsocketOrderOperation.placeOrder.asOkx
    expTime := some request.expTime
    arg := .place request.instIdCode request.tdMode request.side request.kind request.size price
      okxPriceAmendTypeReject request.tradeQuoteCurrency request.tag request.clientOrderId }

/-- `amend_order_command_json`. -/
def amendOrderCommand (request : OkxWebsocketAmendOrder) : Result OkxWebsocketCommand := do
  ensureRequestId request.id "OKX WebSocket amend order id"
  ensureRequestId request.requestId "OKX WebSocket amend request id"
  ensureInstIdCode request.instIdCode
  ensureOrderExpTime request.expTime
  ensureClientOrderId request.clientOrderId
  ensure (request.newSize.isSome = true ∨ request.newPrice.isSome = true)
    "OKX WebSocket amend order requires newSz or newPx"
  request.newSize.forM (ensureTrimmedNonEmpty "OKX WebSocket amend newSz")
  request.newPrice.forM (ensureTrimmedNonEmpty "OKX WebSocket amend newPx")
  return {
    id := request.id
    op := OkxWebsocketOrderOperation.amendOrder.asOkx
    expTime := some request.expTime
    arg := .amend request.instIdCode request.clientOrderId request.requestId request.newSize
      request.newPrice okxPriceAmendTypeReject }

/-- `cancel_order_command_json`. -/
def cancelOrderCommand (request : OkxWebsocketCancelOrder) : Result OkxWebsocketCommand := do
  ensureRequestId request.id "OKX WebSocket cancel order id"
  ensureInstIdCode request.instIdCode
  ensureClientOrderId request.clientOrderId
  return {
    id := request.id
    op := OkxWebsocketOrderOperation.cancelOrder.asOkx
    expTime := none
    arg := .cancel request.instIdCode request.clientOrderId }

/-! ## The duplicate filter -/

/-- Whether an id was seen before. -/
inductive OkxWebsocketAckRecord where
  | firstSeen
  | duplicate
  deriving DecidableEq, Repr

/-- `OkxWebsocketAckTracker`: the ids seen last, in the order they came. -/
structure OkxWebsocketAckTracker where
  seenRequestIds : Finset Text
  insertionOrder : List Text
  deriving DecidableEq

namespace OkxWebsocketAckTracker

/-- No id was seen. -/
def default : OkxWebsocketAckTracker := ⟨∅, []⟩

/-- The loop that forgets the oldest ids, for at most `rounds` of them. -/
def forgetRounds : ℕ → OkxWebsocketAckTracker → OkxWebsocketAckTracker
  | 0, tracker => tracker
  | rounds + 1, tracker =>
      if okxWebsocketAckTrackerMaxIds < tracker.insertionOrder.length then
        match tracker.insertionOrder with
        | [] => forgetRounds rounds tracker
        | evicted :: rest => forgetRounds rounds ⟨tracker.seenRequestIds.erase evicted, rest⟩
      else tracker

/-- `record`: beyond its bound the tracker forgets the oldest id. -/
def record (tracker : OkxWebsocketAckTracker) (requestId : Text) :
    Result (OkxWebsocketAckRecord × OkxWebsocketAckTracker) := do
  ensureRequestId requestId "OKX WebSocket acknowledgement id"
  if requestId ∈ tracker.seenRequestIds then return (.duplicate, tracker)
  else
    let tracker : OkxWebsocketAckTracker :=
      ⟨insert requestId tracker.seenRequestIds, tracker.insertionOrder ++ [requestId]⟩
    return (.firstSeen, forgetRounds tracker.insertionOrder.length tracker)

end OkxWebsocketAckTracker

/-! ## Acknowledgements -/

/-- The row of an acknowledgement. -/
structure OkxWebsocketOrderAckRow where
  orderId : Text
  clientOrderId : Text
  requestId : Text
  statusCode : Text
  deriving DecidableEq, Repr

/-- An answer to a command. -/
structure OkxWebsocketOrderCommandResponse where
  id : Text
  op : Text
  code : Text
  data : List OkxWebsocketOrderAckRow
  deriving DecidableEq, Repr

/-- What the answer to a command has to look like. -/
structure OkxWebsocketExpectedOrderAck where
  id : Text
  operation : OkxWebsocketOrderOperation
  clientOrderId : Text
  requestId : Option Text
  deriving DecidableEq, Repr

/-- `none` is a payload that is no response. -/
def parseOrderCommandAck (payload : Option OkxWebsocketOrderCommandResponse)
    (expected : OkxWebsocketExpectedOrderAck) : Result OkxOrderAck := do
  ensureRequestId expected.id "OKX WebSocket expected acknowledgement id"
  ensureClientOrderId expected.clientOrderId
  let some response := payload
    | .error "failed parsing OKX WebSocket order command acknowledgement"
  ensure (response.id = expected.id) "OKX WebSocket acknowledgement id did not match requested"
  ensure (response.op = expected.operation.asOkx)
    "OKX WebSocket acknowledgement op did not match expected"
  ensure (response.code = "0".toList ∨ response.data ≠ []) "OKX WebSocket command rejected"
  let [row] := response.data
    | .error "OKX WebSocket command did not return one acknowledgement row"
  expected.requestId.forM fun requestId =>
    ensure (row.requestId = requestId) "OKX WebSocket acknowledgement returned another reqId"
  ensure (Text.isBlank row.clientOrderId = true ∨ row.clientOrderId = expected.clientOrderId)
    "OKX WebSocket acknowledgement returned another clOrdId"
  ensure (row.statusCode = "0".toList) "OKX WebSocket command rejected by sCode"
  ensure (response.code = "0".toList) "OKX WebSocket command rejected"
  ensure (Text.isBlank row.orderId = false) "OKX WebSocket acknowledgement omitted ordId"
  return {
    orderId := row.orderId
    clientOrderId :=
      if Text.isBlank row.clientOrderId then expected.clientOrderId else row.clientOrderId
    statusCode := row.statusCode }

/-! ## Request ids -/

def okxWebsocketRequestNonceMask : ℕ := 0x0fffffffffffffff

/-- `{n:0width$x}` of a number below `16 ^ width`. -/
def hexDigits : ℕ → ℕ → Text
  | 0, _ => []
  | width + 1, n => hexDigits width (n / 16) ++ [Nat.digitChar (n % 16)]

/-- The FNV-1a hash. -/
def fnv1a64 (bytes : List UInt8) : UInt64 :=
  bytes.foldl (fun hash byte => (hash ^^^ byte.toUInt64) * 0x00000100000001b3) 0xcbf29ce484222325

/-- The first character of a request id tells its operation. -/
def requestPrefix : OkxWebsocketOrderOperation → Char
  | .placeOrder => 'p'
  | .amendOrder => 'a'
  | .cancelOrder => 'c'

/-- An id from the operation, the nonce and a hash of the client order id. -/
def websocketRequestId (requestPrefix : Char) (nonce : ℕ) (clientOrderId : Text) : Text :=
  let nonce := nonce &&& okxWebsocketRequestNonceMask
  requestPrefix :: (hexDigits 15 nonce ++
    hexDigits 16 (fnv1a64 (clientOrderId.flatMap String.utf8EncodeChar)).toNat)

/-- `next_websocket_request_id`, with the nonce that follows. -/
def nextWebsocketRequestId (nonce : ℕ) (operation : OkxWebsocketOrderOperation)
    (clientOrderId : Text) : Text × ℕ :=
  (websocketRequestId (requestPrefix operation) (nonce &&& okxWebsocketRequestNonceMask)
    clientOrderId, (nonce + 1) % 2 ^ 64)

/-! ### Which ids are equal -/

@[simp] theorem length_hexDigits (width n : ℕ) : (hexDigits width n).length = width := by
  induction width generalizing n with
  | zero => rfl
  | succ width ih => rw [hexDigits, List.length_append, ih, List.length_singleton]

theorem digitChar_inj : ∀ a < 16, ∀ b < 16, Nat.digitChar a = Nat.digitChar b → a = b := by
  decide

theorem isAlphanum_digitChar : ∀ a < 16, (Nat.digitChar a).isAlphanum = true := by
  decide

theorem isAlphanum_hexDigits (width n : ℕ) : (hexDigits width n).all Char.isAlphanum = true := by
  induction width generalizing n with
  | zero => rfl
  | succ width ih =>
    rw [hexDigits, List.all_append, ih, Bool.true_and, List.all_cons, List.all_nil, Bool.and_true]
    exact isAlphanum_digitChar _ (Nat.mod_lt _ (by decide))

/-- Digits tell the numbers below `16 ^ width` apart. -/
theorem hexDigits_inj {width a b : ℕ} (h : hexDigits width a = hexDigits width b) :
    a % 16 ^ width = b % 16 ^ width := by
  induction width generalizing a b with
  | zero => simp [Nat.mod_one]
  | succ width ih =>
    obtain ⟨hhigh, hlow⟩ := List.append_inj h (by simp)
    have hdigit : a % 16 = b % 16 :=
      digitChar_inj _ (Nat.mod_lt _ (by decide)) _ (Nat.mod_lt _ (by decide))
        (List.cons.inj hlow).1
    have hrest := ih hhigh
    rw [pow_succ', Nat.mod_mul, Nat.mod_mul, hdigit, hrest]

theorem and_nonceMask (nonce : ℕ) : nonce &&& okxWebsocketRequestNonceMask = nonce % 2 ^ 60 :=
  Nat.and_two_pow_sub_one_eq_mod nonce 60

/-- Equal ids have equal masked nonces. -/
theorem websocketRequestId_inj {first second : Char} {nonce nonce' : ℕ}
    {clientOrderId clientOrderId' : Text}
    (h : websocketRequestId first nonce clientOrderId =
      websocketRequestId second nonce' clientOrderId') : nonce % 2 ^ 60 = nonce' % 2 ^ 60 := by
  have hnonce := (List.append_inj (List.cons.inj h).2 (by simp)).1
  have hmod := hexDigits_inj hnonce
  rwa [and_nonceMask, and_nonceMask, show (16 : ℕ) ^ 15 = 2 ^ 60 by norm_num, Nat.mod_mod,
    Nat.mod_mod] at hmod

/-- An id is 32 ASCII letters and digits. -/
theorem nextWebsocketRequestId_shape (nonce : ℕ) (operation : OkxWebsocketOrderOperation)
    (clientOrderId : Text) :
    (nextWebsocketRequestId nonce operation clientOrderId).1.length = 32 ∧
      (nextWebsocketRequestId nonce operation clientOrderId).1.all Char.isAlphanum = true := by
  constructor
  · simp [nextWebsocketRequestId, websocketRequestId]
  · have hprefix : (requestPrefix operation).isAlphanum = true := by
      cases operation <;> decide
    simp only [nextWebsocketRequestId, websocketRequestId, List.all_cons, List.all_append, hprefix,
      isAlphanum_hexDigits, Bool.and_self]

/-! ## What the checks say -/

/-- A short text of letters and digits is an id. -/
theorem ensureRequestId_of_alphanum {value : Text} (label : Message) (hne : value ≠ [])
    (halphanum : value.all Char.isAlphanum = true) (hlength : value.length ≤ 32) :
    ensureRequestId value label = .ok () := by
  have hblank := Text.isBlank_of_alphanum halphanum hne
  have htrimmed := Text.isTrimmed_of_alphanum halphanum
  simp only [ensureRequestId, ensureTrimmedNonEmpty, ensureAsciiAlphanumeric, bind_eq_ok,
    ensure_eq_ok, exists_const]
  exact ⟨⟨hblank, htrimmed⟩, halphanum, hlength⟩

/-- Every id the client issues passes the check of an id. -/
theorem ensureRequestId_next (label : Message) (nonce : ℕ) (operation : OkxWebsocketOrderOperation)
    (clientOrderId : Text) :
    ensureRequestId (nextWebsocketRequestId nonce operation clientOrderId).1 label = .ok () := by
  obtain ⟨hlength, halphanum⟩ := nextWebsocketRequestId_shape nonce operation clientOrderId
  exact ensureRequestId_of_alphanum label (List.ne_nil_of_length_eq_add_one hlength) halphanum
    hlength.le

namespace OkxWebsocketAckTracker

variable {tracker tracker' : OkxWebsocketAckTracker} {requestId : Text}

theorem forgetRounds_subset (rounds : ℕ) (tracker : OkxWebsocketAckTracker) :
    (forgetRounds rounds tracker).seenRequestIds ⊆ tracker.seenRequestIds := by
  induction rounds generalizing tracker with
  | zero => exact Finset.Subset.refl _
  | succ rounds ih =>
    unfold forgetRounds
    split
    · split
      · exact ih tracker
      · exact (ih _).trans (Finset.erase_subset _ _)
    · exact Finset.Subset.refl _

/-- What recording an id does: an id that is no id is an error, a known one changes nothing, and a
new one is at most added. -/
theorem record_cases (tracker : OkxWebsocketAckTracker) (requestId : Text) :
    (∃ e, ensureRequestId requestId "OKX WebSocket acknowledgement id" = .error e ∧
      tracker.record requestId = .error e) ∨
    (requestId ∈ tracker.seenRequestIds ∧
      tracker.record requestId = .ok (.duplicate, tracker)) ∨
    (requestId ∉ tracker.seenRequestIds ∧ ∃ tracker',
      tracker.record requestId = .ok (.firstSeen, tracker') ∧
      tracker'.seenRequestIds ⊆ insert requestId tracker.seenRequestIds) := by
  cases hid : ensureRequestId requestId "OKX WebSocket acknowledgement id" with
  | error e => exact .inl ⟨e, rfl, by rw [record, hid]; rfl⟩
  | ok u =>
    by_cases hseen : requestId ∈ tracker.seenRequestIds
    · exact .inr (.inl ⟨hseen, by rw [record, hid]; exact if_pos hseen⟩)
    · refine .inr (.inr ⟨hseen, _, by rw [record, hid]; exact if_neg hseen, ?_⟩)
      exact forgetRounds_subset _ _

end OkxWebsocketAckTracker

/-- The response acknowledges what is expected. -/
structure Acknowledges (expected : OkxWebsocketExpectedOrderAck)
    (response : OkxWebsocketOrderCommandResponse) : Prop where
  id : response.id = expected.id
  op : response.op = expected.operation.asOkx
  code : response.code = "0".toList
  row : ∃ row, response.data = [row] ∧ row.statusCode = "0".toList ∧
    Text.isBlank row.orderId = false ∧
    (row.clientOrderId = expected.clientOrderId ∨ Text.isBlank row.clientOrderId = true) ∧
    ∀ requestId, expected.requestId = some requestId → row.requestId = requestId

theorem parseOrderCommandAck_ok {payload : Option OkxWebsocketOrderCommandResponse}
    {expected : OkxWebsocketExpectedOrderAck} {acknowledgement : OkxOrderAck}
    (h : parseOrderCommandAck payload expected = .ok acknowledgement) :
    ∃ response, payload = some response ∧ Acknowledges expected response := by
  simp only [parseOrderCommandAck, bind_eq_ok] at h
  obtain ⟨_, -, _, -, h⟩ := h
  split at h
  · rename_i response
    simp only [bind_eq_ok, ensure_eq_ok, exists_const] at h
    obtain ⟨hid, hop, -, h⟩ := h
    split at h
    · rename_i row hdata
      simp only [bind_eq_ok, ensure_eq_ok, exists_const] at h
      obtain ⟨_, hrequest, hclient, hstatus, hcode, horder, -⟩ := h
      refine ⟨response, rfl, hid, hop, hcode, row, hdata, hstatus, horder, hclient.symm, ?_⟩
      intro requestId hsome
      rw [hsome] at hrequest
      exact ensure_eq_ok.1 hrequest
    · cases h
  · cases h

end OkxTrading
