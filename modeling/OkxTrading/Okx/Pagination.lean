import OkxTrading.Okx.Types

/-!
# Paginated reads

`queries.rs` and the five cursor loops of `okx/client.rs`: open orders, order history, fills, open
algo orders and algo history.

* `PageLoop` — what the loops differ in; `appendPages` is the loop.
* `openOrders`, `orderHistory`, `orderFills`, `openAlgoOrders`, `algoOrderHistory` — the reads.

The requests made are part of the state, for what is said about their number.
-/

namespace OkxTrading

open Effect

/-! ## Queries -/

/-- The pairs `okx_query` encodes. -/
abbrev Query := List (String × Text)

/-- A request over REST. -/
structure Request where
  path : String
  query : Query
  deriving DecidableEq, Repr

def okxOrderHistoryPageLimit : ℕ := 100
def okxOpenOrdersPageLimit : ℕ := 100
def okxOrderFillsPageLimit : ℕ := 100
def okxOpenAlgoOrdersPageLimit : ℕ := 100
def okxAlgoHistoryPageLimit : ℕ := 100

def okxOrderHistoryMaxPages : ℕ := 20
def okxOpenOrdersMaxPages : ℕ := 20
def okxOrderFillsMaxPages : ℕ := 20
def okxOpenAlgoOrdersMaxPages : ℕ := 20
def okxAlgoHistoryMaxPages : ℕ := 20

/-- The limit of a page as a query value. -/
def limitText (limit : ℕ) : Text := (toString limit).toList

/-- `pairs.extend(after.map(|after| ("after", after)))`. -/
def extendAfter (pairs : Query) (after : Option Text) : Query :=
  pairs ++ (after.map fun after => ("after", after)).toList

/-- The query of a page of open orders. -/
def openOrdersQuery (instType instId : Text) (after : Option Text) : Query :=
  extendAfter [("instType", instType), ("instId", instId),
    ("limit", limitText okxOpenOrdersPageLimit)] after

/-- The query of a page of the order history. -/
def orderHistoryQuery (instType instId : Text) (after : Option Text) : Query :=
  extendAfter [("instType", instType), ("instId", instId),
    ("limit", limitText okxOrderHistoryPageLimit)] after

/-- The query of a page of fills. -/
def orderFillsQuery (instType instId : Text) (after : Option Text) : Query :=
  extendAfter [("instType", instType), ("instId", instId),
    ("limit", limitText okxOrderFillsPageLimit)] after

def triggerText : Text := ['t', 'r', 'i', 'g', 'g', 'e', 'r']

/-- The query of a page of open trigger orders. -/
def openAlgoOrdersQuery (instType instId : Text) (after : Option Text) : Query :=
  extendAfter [("instType", instType), ("instId", instId), ("ordType", triggerText),
    ("limit", limitText okxOpenAlgoOrdersPageLimit)] after

/-- What the history of trigger orders is asked for. -/
inductive AlgoHistoryFilter where
  | state (state : Text)
  | algoId (algoId : Text)
  deriving DecidableEq, Repr

/-- The query of a page of that history. -/
def algoOrderHistoryQuery (instType instId : Text) (filter : AlgoHistoryFilter)
    (after : Option Text) : Query :=
  let filtered := match filter with
    | .state state => ("state", state)
    | .algoId algoId => ("algoId", algoId)
  extendAfter [("instType", instType), ("instId", instId), ("ordType", triggerText), filtered,
    ("limit", limitText okxAlgoHistoryPageLimit)] after

/-! ## Rows -/

/-- An order as the endpoints return it: with the fields only the reads look at. -/
structure OkxOrderRow extends OkxOrder where
  orderId : Text
  instId : Text
  instType : Text
  deriving DecidableEq, Repr

/-- A fill as the endpoints return it. -/
structure OkxFillRow extends OkxFill where
  instId : Text
  instType : Text
  deriving DecidableEq, Repr

/-- A trigger order as the endpoints return it. -/
structure OkxAlgoOrderRow extends OkxAlgoOrder where
  instId : Text
  instType : Text
  deriving DecidableEq, Repr

/-- A row in a state that OKX does not document fails the read. -/
def OkxOrder.ensureDocumentedState (self : OkxOrder) (context : Message) : Result Unit :=
  ensure (self.isLive || self.isTerminal)
    ("OKX " ++ context ++ " returned order with undocumented state")

/-- The states of an algo order `AlgoState` has no name for, and the code still accepts. -/
def otherAlgoStates : List Text :=
  ["partially_effective".toList, "partially_failed".toList]

/-- The same for trigger orders. -/
def OkxAlgoOrder.ensureDocumentedState (self : OkxAlgoOrder) (context : Message) : Result Unit :=
  let documented := match self.state with
    | .other text => decide (text ∈ otherAlgoStates)
    | _ => true
  ensure (documented = true) ("OKX " ++ context ++ " returned algo with undocumented state")

/-- A row of another instrument type fails the read. -/
def ensureSpotInstType (instType : Text) (context : Message) : Result Unit :=
  ensure (instType = spotText) ("OKX " ++ context ++ " returned instType; expected SPOT")

/-- A row of another instrument fails the read. -/
def ensureOrderMatchesInstrument (instId : Text) (context : Message) (order : OkxOrderRow) :
    Result Unit := do
  ensure (order.instId = instId) ("OKX " ++ context ++ " returned order for another instrument")
  ensureSpotInstType order.instType context
  order.ensureDocumentedState context

/-- The same for fills. -/
def ensureFillMatchesInstrument (instId : Text) (context : Message) (fill : OkxFillRow) :
    Result Unit := do
  ensure (fill.instId = instId) ("OKX " ++ context ++ " returned fill for another instrument")
  ensureSpotInstType fill.instType context

/-- The same for trigger orders. -/
def ensureAlgoOrderMatchesInstrument (instId : Text) (context : Message)
    (order : OkxAlgoOrderRow) : Result Unit := do
  ensure (order.instId = instId) ("OKX " ++ context ++ " returned algo for another instrument")
  ensureSpotInstType order.instType context
  order.ensureDocumentedState context

/-! ## The cursor loop -/

/-- What one of the loops asks for and checks. -/
structure PageLoop (R : Type) where
  path : String
  query : Option Text → Query
  pageLimit : ℕ
  maxPages : ℕ
  /-- The page is refused where a row fails this. -/
  ensureMatches : R → Result Unit
  cursor : R → Text
  /-- Rows with a key seen before are left out. -/
  key : R → Text
  ensureIdentity : R → Result Unit
  missingCursor : Message
  repeatedCursor : Message
  exceeded : Message

/-- Requests made, and whatever the exchange keeps. -/
structure RestState (W : Type) where
  world : W
  requests : List Request

/-- `private_request` for one kind of rows. -/
abbrev RestGet (R W : Type) := Request → W → Result (List R) × W

variable {R W : Type}

/-- A request, recorded, and its answer. -/
def privateRequest (get : RestGet R W) (request : Request) :
    Prog Message (RestState W) (List R) := fun s =>
  let reply := get request s.world
  (reply.1, { world := reply.2, requests := s.requests ++ [request] })

/-- A check that reads nothing from the exchange. -/
def liftResult {α : Type} : Result α → Prog Message (RestState W) α
  | .ok a => pure a
  | .error message => Prog.stop message

namespace PageLoop

variable (self : PageLoop R)

/-- `for row in page`; the set of seen keys is kept as a list. -/
def appendRows : List R → List R × List Text → Result (List R × List Text)
  | [], found => .ok found
  | row :: rest, (rows, seen) => do
      self.ensureIdentity row
      if self.key row ∈ seen then appendRows rest (rows, seen)
      else appendRows rest (rows ++ [row], seen ++ [self.key row])

/-- Every row of a page is checked before any is kept. -/
def ensureRowsMatch : List R → Result Unit
  | [] => .ok ()
  | row :: rest => do
      self.ensureMatches row
      ensureRowsMatch rest

/-- What the loop does with a page: the rows found so far, and the cursor to go on with. -/
def acceptPage (after : Option Text) (page : List R) (found : List R × List Text) :
    Result ((List R × List Text) × Option Text) := do
  self.ensureRowsMatch page
  if page = [] then return (found, none)
  let nextAfter := if page.length = self.pageLimit then page.getLast?.map self.cursor else none
  let found ← self.appendRows page found
  let some nextAfter := nextAfter | return (found, none)
  ensure (Text.isBlank nextAfter = false) self.missingCursor
  ensure (after ≠ some nextAfter) self.repeatedCursor
  return (found, some nextAfter)

/-- The loop, with this many pages left. -/
def appendPages (get : RestGet R W) : ℕ → Option Text → List R × List Text →
    Prog Message (RestState W) (List R × List Text)
  | 0, _, _ => Prog.stop self.exceeded
  | pages + 1, after, found => do
      let page ← privateRequest get ⟨self.path, self.query after⟩
      let (found, nextAfter) ← liftResult (self.acceptPage after page found)
      let some nextAfter := nextAfter | return found
      appendPages get pages (some nextAfter) found

/-- The loop from its start, after what other loops have found. -/
def run (get : RestGet R W) (found : List R × List Text) :
    Prog Message (RestState W) (List R × List Text) :=
  self.appendPages get self.maxPages none found

end PageLoop

/-! ## The five reads -/

/-- What the reads use of the client: hints from private streams only lead to warnings. -/
structure OkxRestClient (W : Type) where
  validatedInstrumentType : Text → Result Text
  orders : RestGet OkxOrderRow W
  fills : RestGet OkxFillRow W
  algoOrders : RestGet OkxAlgoOrderRow W

/-- The pages of the open orders. -/
def openOrdersLoop (instType instId : Text) : PageLoop OkxOrderRow where
  path := "/api/v5/trade/orders-pending"
  query := openOrdersQuery instType instId
  pageLimit := okxOpenOrdersPageLimit
  maxPages := okxOpenOrdersMaxPages
  ensureMatches := ensureOrderMatchesInstrument instId "open orders"
  cursor := (·.orderId)
  key := (·.orderId)
  ensureIdentity order := ensure (Text.isBlank order.orderId = false)
    "OKX open orders returned order with empty ordId"
  missingCursor := "OKX open orders page is missing pagination cursor"
  repeatedCursor := "OKX open orders pagination cursor repeated"
  exceeded := "OKX open orders pagination exceeded 20 pages; refusing to use partial open orders"

/-- The pages of one of the two order histories. -/
def orderHistoryLoop (path : String) (context : Message) (instType instId : Text) :
    PageLoop OkxOrderRow where
  path := path
  query := orderHistoryQuery instType instId
  pageLimit := okxOrderHistoryPageLimit
  maxPages := okxOrderHistoryMaxPages
  ensureMatches := ensureOrderMatchesInstrument instId context
  cursor := (·.orderId)
  key := (·.orderId)
  ensureIdentity order := ensure (Text.isBlank order.orderId = false)
    ("OKX " ++ context ++ " returned order with empty ordId")
  missingCursor := "OKX " ++ context ++ " page is missing pagination cursor"
  repeatedCursor := "OKX " ++ context ++ " pagination cursor repeated"
  exceeded := "OKX " ++ context ++ " pagination exceeded 20 pages; refusing to use partial history"

/-- Fills are told apart by `dedupe_key`, and paged by `billId`. -/
def orderFillsLoop (path : String) (context : Message) (instType instId : Text) :
    PageLoop OkxFillRow where
  path := path
  query := orderFillsQuery instType instId
  pageLimit := okxOrderFillsPageLimit
  maxPages := okxOrderFillsMaxPages
  ensureMatches := ensureFillMatchesInstrument instId context
  cursor := (·.billId)
  key := (·.dedupeKey)
  ensureIdentity fill := ensure (Text.isBlank fill.dedupeKey = false)
    ("OKX " ++ context ++ " returned fill with no stable identity")
  missingCursor := "OKX " ++ context ++ " page is missing billId pagination cursor"
  repeatedCursor := "OKX " ++ context ++ " pagination cursor repeated"
  exceeded := "OKX " ++ context ++ " pagination exceeded 20 pages; refusing to use partial fills"

/-- The pages of the open trigger orders. -/
def openAlgoOrdersLoop (instType instId : Text) : PageLoop OkxAlgoOrderRow where
  path := "/api/v5/trade/orders-algo-pending"
  query := openAlgoOrdersQuery instType instId
  pageLimit := okxOpenAlgoOrdersPageLimit
  maxPages := okxOpenAlgoOrdersMaxPages
  ensureMatches := ensureAlgoOrderMatchesInstrument instId "open algo orders"
  cursor := (·.algoId)
  key := (·.algoId)
  ensureIdentity order := ensure (Text.isBlank order.algoId = false)
    "OKX open algo orders returned algo with empty algoId"
  missingCursor := "OKX open algo orders page is missing pagination cursor"
  repeatedCursor := "OKX open algo orders pagination cursor repeated"
  exceeded :=
    "OKX open algo orders pagination exceeded 20 pages; refusing to use partial open algo orders"

/-- The one loop that does not ask its rows for an id. -/
def algoOrderHistoryLoop (state instType instId : Text) : PageLoop OkxAlgoOrderRow where
  path := "/api/v5/trade/orders-algo-history"
  query := algoOrderHistoryQuery instType instId (.state state)
  pageLimit := okxAlgoHistoryPageLimit
  maxPages := okxAlgoHistoryMaxPages
  ensureMatches := ensureAlgoOrderMatchesInstrument instId "algo order history"
  cursor := (·.algoId)
  key := (·.algoId)
  ensureIdentity _ := .ok ()
  missingCursor := "OKX algo order history page is missing pagination cursor"
  repeatedCursor := "OKX algo order history pagination cursor repeated"
  exceeded := "OKX algo order history pagination exceeded 20 pages; refusing to use partial history"

namespace OkxRestClient

variable (self : OkxRestClient W) (instId : Text)

/-- `open_orders`. -/
def openOrders : Prog Message (RestState W) (List OkxOrderRow) := do
  let instType ← liftResult (self.validatedInstrumentType instId)
  let (orders, _) ← (openOrdersLoop instType instId).run self.orders ([], [])
  return orders

/-- What one history endpoint adds to the rows found before. -/
def appendOrderHistoryEndpoint (path : String) (context : Message)
    (found : List OkxOrderRow × List Text) :
    Prog Message (RestState W) (List OkxOrderRow × List Text) := do
  let instType ← liftResult (self.validatedInstrumentType instId)
  (orderHistoryLoop path context instType instId).run self.orders found

/-- `order_history`: the recent orders, then the archive. -/
def orderHistory : Prog Message (RestState W) (List OkxOrderRow) := do
  let found ← self.appendOrderHistoryEndpoint instId "/api/v5/trade/orders-history"
    "order history" ([], [])
  let (orders, _) ← self.appendOrderHistoryEndpoint instId "/api/v5/trade/orders-history-archive"
    "order history archive" found
  return orders

/-- What one fills endpoint adds to the rows found before. -/
def appendOrderFillsEndpoint (path : String) (context : Message)
    (found : List OkxFillRow × List Text) :
    Prog Message (RestState W) (List OkxFillRow × List Text) := do
  let instType ← liftResult (self.validatedInstrumentType instId)
  (orderFillsLoop path context instType instId).run self.fills found

/-- `order_fills`: the recent fills, then the archive. -/
def orderFills : Prog Message (RestState W) (List OkxFillRow) := do
  let found ← self.appendOrderFillsEndpoint instId "/api/v5/trade/fills" "order fills" ([], [])
  let (fills, _) ← self.appendOrderFillsEndpoint instId "/api/v5/trade/fills-history"
    "order fills history" found
  return fills

/-- `open_algo_orders`. -/
def openAlgoOrders : Prog Message (RestState W) (List OkxAlgoOrderRow) := do
  let instType ← liftResult (self.validatedInstrumentType instId)
  let (orders, _) ← (openAlgoOrdersLoop instType instId).run self.algoOrders ([], [])
  return orders

/-- The states the history of trigger orders is read for. -/
def okxAlgoHistoryStates : List Text :=
  ["effective".toList, "canceled".toList, "order_failed".toList]

/-- What the history of one state adds. -/
def appendAlgoOrderHistoryState (state : Text) (found : List OkxAlgoOrderRow × List Text) :
    Prog Message (RestState W) (List OkxAlgoOrderRow × List Text) := do
  let instType ← liftResult (self.validatedInstrumentType instId)
  (algoOrderHistoryLoop state instType instId).run self.algoOrders found

/-- What the histories of several states add, one after another. -/
def appendAlgoOrderHistoryStates : List Text → List OkxAlgoOrderRow × List Text →
    Prog Message (RestState W) (List OkxAlgoOrderRow × List Text)
  | [], found => pure found
  | state :: rest, found => do
      let found ← self.appendAlgoOrderHistoryState instId state found
      appendAlgoOrderHistoryStates rest found

/-- `algo_order_history`. -/
def algoOrderHistory : Prog Message (RestState W) (List OkxAlgoOrderRow) := do
  let (orders, _) ← self.appendAlgoOrderHistoryStates instId okxAlgoHistoryStates ([], [])
  return orders

end OkxRestClient

end OkxTrading
