import OkxTrading.Okx.Decimal

/-!
# The rate limit pacer

`RateLimitPacer` of `okx/client.rs`: requests of one bucket are spaced so that no window holds more
than the bucket's limit, and a bucket the exchange rejected rests for a while.  Instants and
durations are nanoseconds.

* `okxRateLimitBucket` — the bucket a request belongs to, from the table of endpoint limits.
* `RateLimitPacerState.reserveOrWait`, `recordRateLimitAt` — the two operations.
* `PacerCall`, `trace` — calls one after another, with their outcomes.
-/

namespace OkxTrading

open Effect

abbrev Instant := ℕ
abbrev Duration := ℕ

def millis (n : ℕ) : Duration := n * 10 ^ 6
def secs (n : ℕ) : Duration := n * 10 ^ 9

def okxRateLimitCooldown : Duration := secs 2
def okxRateLimitWindow : Duration := secs 2
def okxRateLimitPacingSafetyMargin : Duration := millis 50
def okxCancelAllAfterRateLimitWindow : Duration := secs 1
def okxCancelAllAfterTag : String := "okxrusttrading"

/-! ## Buckets -/

/-- `RateLimitBucket`: a key with how many requests a window may hold. -/
structure RateLimitBucket where
  key : String
  limit : ℕ
  window : Duration
  deriving DecidableEq, Repr

def RateLimitBucket.new (key : String) (limit : ℕ) : RateLimitBucket :=
  ⟨key, limit, okxRateLimitWindow⟩

def RateLimitBucket.withWindow (key : String) (limit : ℕ) (window : Duration) :
    RateLimitBucket := ⟨key, limit, window⟩

/-- Whose requests a limit counts. -/
inductive RateLimitScope where
  | ip
  | ipInstrumentType
  | user
  | userInstrumentType
  | userInstrument
  | userTag
  deriving DecidableEq, Repr

/-- A row of the table of limits. -/
structure OkxRateLimitRule where
  method : String
  path : String
  limit : ℕ
  scope : RateLimitScope
  deriving DecidableEq, Repr

/-- `OKX_RATE_LIMIT_RULES`, without the row that is compiled for tests only. -/
def okxRateLimitRules : List OkxRateLimitRule :=
  [⟨"GET", "/api/v5/public/time", 10, .ip⟩,
   ⟨"GET", "/api/v5/public/instruments", 20, .ipInstrumentType⟩,
   ⟨"GET", "/api/v5/public/price-limit", 20, .ip⟩,
   ⟨"GET", "/api/v5/public/market-data-history", 5, .ip⟩,
   ⟨"GET", "/api/v5/market/candles", 40, .ip⟩,
   ⟨"GET", "/api/v5/market/history-candles", 20, .ip⟩,
   ⟨"GET", "/api/v5/market/history-trades", 20, .ip⟩,
   ⟨"GET", "/api/v5/market/ticker", 20, .ip⟩,
   ⟨"GET", "/api/v5/market/index-tickers", 20, .ip⟩,
   ⟨"GET", "/api/v5/market/books", 40, .ip⟩,
   ⟨"GET", "/api/v5/account/instruments", 20, .userInstrumentType⟩,
   ⟨"GET", "/api/v5/account/config", 5, .user⟩,
   ⟨"GET", "/api/v5/account/balance", 10, .user⟩,
   ⟨"GET", "/api/v5/account/trade-fee", 5, .user⟩,
   ⟨"GET", "/api/v5/account/max-size", 20, .user⟩,
   ⟨"GET", "/api/v5/account/max-avail-size", 20, .user⟩,
   ⟨"GET", "/api/v5/trade/order", 60, .userInstrument⟩,
   ⟨"GET", "/api/v5/trade/order-algo", 20, .user⟩,
   ⟨"GET", "/api/v5/trade/orders-pending", 60, .user⟩,
   ⟨"GET", "/api/v5/trade/orders-history", 40, .user⟩,
   ⟨"GET", "/api/v5/trade/orders-history-archive", 20, .user⟩,
   ⟨"GET", "/api/v5/trade/fills", 60, .user⟩,
   ⟨"GET", "/api/v5/trade/fills-history", 10, .user⟩,
   ⟨"POST", "/api/v5/trade/order", 60, .userInstrument⟩,
   ⟨"POST", "/api/v5/trade/cancel-order", 60, .userInstrument⟩,
   ⟨"POST", "/api/v5/trade/amend-order", 60, .userInstrument⟩,
   ⟨"POST", "/api/v5/trade/order-algo", 20, .userInstrument⟩,
   ⟨"POST", "/api/v5/trade/cancel-algos", 20, .userInstrument⟩,
   ⟨"POST", "/api/v5/trade/cancel-all-after", 1, .userTag⟩,
   ⟨"GET", "/api/v5/trade/orders-algo-pending", 20, .user⟩,
   ⟨"GET", "/api/v5/trade/orders-algo-history", 20, .user⟩]

/-- A value that a key is built from has to be there and not blank. -/
def requiredRateLimitValue (context field : Message) (value : Option String) : Result String := do
  let some value := value | .error (context ++ " requires OKX " ++ field)
  ensure (Text.isBlank value.toList = false) (context ++ " requires non-empty OKX " ++ field)
  return value

/-- `field.split_once('=')`, where the name is this one. -/
def queryField (name : String) (field : List Char) : Option String :=
  match field.dropWhile (· ≠ '=') with
  | _ :: value =>
      if String.ofList (field.takeWhile (· ≠ '=')) = name then some (String.ofList value) else none
  | [] => none

/-- The value of a field of a query string. -/
def queryValue (query : Option String) (name : String) : Option String := do
  (← query).toList.splitOn '&' |>.findSome? (queryField name)

/-- The key of a rule for one scope. -/
def OkxRateLimitRule.scopeKey (self : OkxRateLimitRule) (scope : String) : String :=
  self.method ++ " " ++ self.path ++ "|" ++ scope

/-- The bucket of a request under its rule. -/
def OkxRateLimitRule.bucket (self : OkxRateLimitRule) (query bodyInstId : Option String) :
    Result RateLimitBucket := do
  match self.scope with
  | .ip => return .new (self.scopeKey "ip") self.limit
  | .ipInstrumentType => do
      let instrumentType ← requiredRateLimitValue "OKX IP + Instrument Type rate limit" "instType"
        (queryValue query "instType")
      return .new (self.scopeKey ("ip+instType:" ++ instrumentType)) self.limit
  | .user => return .new (self.scopeKey "user") self.limit
  | .userInstrumentType => do
      let instrumentType ← requiredRateLimitValue "OKX User ID + Instrument Type rate limit"
        "instType" (queryValue query "instType")
      return .new (self.scopeKey ("user+instType:" ++ instrumentType)) self.limit
  | .userInstrument => do
      let instId ← requiredRateLimitValue "OKX User ID + Instrument ID rate limit" "instId"
        (bodyInstId <|> queryValue query "instId")
      return .new (self.scopeKey ("user+instId:" ++ instId)) self.limit
  | .userTag =>
      return .withWindow (self.scopeKey ("user+tag:" ++ okxCancelAllAfterTag)) self.limit
        okxCancelAllAfterRateLimitWindow

/-- `okx_rate_limit_bucket`: the bucket of a request; an endpoint without a rule is an error. -/
def okxRateLimitBucket (method path : String) (query bodyInstId : Option String) :
    Result RateLimitBucket := do
  let some rule := okxRateLimitRules.find? fun rule =>
      decide (rule.method = method) && decide (rule.path = path)
    | .error ("missing OKX rate limit rule for " ++ method ++ " " ++ path)
  rule.bucket query bodyInstId

/-! ## The pacer -/

/-- The two maps; a key without an entry has no request. -/
structure RateLimitPacerState where
  cooldowns : String → Option Instant
  requests : String → List Instant

namespace RateLimitPacerState

def empty : RateLimitPacerState := ⟨fun _ => none, fun _ => []⟩

variable (self : RateLimitPacerState) (bucket : RateLimitBucket) (now : Instant)

/-- After a refusal by the exchange the key rests for the cooldown. -/
def recordRateLimitAt : RateLimitPacerState :=
  { self with
    cooldowns := Function.update self.cooldowns bucket.key (some (now + okxRateLimitCooldown)) }

/-- The times of the requests that count for a bucket. -/
def withRequests (requests : List Instant) : RateLimitPacerState :=
  { self with requests := Function.update self.requests bucket.key requests }

/-- The loop over the front of the queue. -/
def evict (pacingWindow : Duration) (requests : List Instant) : List Instant :=
  requests.dropWhile fun requestAt => decide (pacingWindow ≤ now - requestAt)

/-- The part of `reserve_or_wait` after the cooldown. -/
def pace : Result (Option Duration) × RateLimitPacerState :=
  let pacingWindow := bucket.window + okxRateLimitPacingSafetyMargin
  let requests := evict now pacingWindow (self.requests bucket.key)
  if requests.length < bucket.limit then
    (.ok none, self.withRequests bucket (requests ++ [now]))
  else match requests.head? with
    | some oldest =>
        (.ok (some (oldest + pacingWindow - now)), self.withRequests bucket requests)
    | none =>
        (.error "OKX rate limit bucket is full without a recorded request",
          self.withRequests bucket requests)

/-- Nothing where the request is reserved, else the time to wait. -/
def reserveOrWait : Result (Option Duration) × RateLimitPacerState :=
  if bucket.limit = 0 then
    (.error ("OKX rate limit bucket " ++ bucket.key ++ " must have a positive limit"), self)
  else match self.cooldowns bucket.key with
    | some untilAt =>
        if now < untilAt then (.ok (some (untilAt - now)), self)
        else pace { self with cooldowns := Function.update self.cooldowns bucket.key none }
          bucket now
    | none => self.pace bucket now

end RateLimitPacerState

/-! ## Calls one after another -/

/-- The calls of the pacer. -/
inductive PacerCall where
  | reserveOrWait (bucket : RateLimitBucket) (now : Instant)
  | recordRateLimitAt (bucket : RateLimitBucket) (now : Instant)
  deriving DecidableEq, Repr

namespace PacerCall

def bucket : PacerCall → RateLimitBucket
  | .reserveOrWait bucket _ | .recordRateLimitAt bucket _ => bucket

def now : PacerCall → Instant
  | .reserveOrWait _ now | .recordRateLimitAt _ now => now

def key (self : PacerCall) : String := self.bucket.key

end PacerCall

/-- What the caller is told; a recorded rate limit has no answer. -/
inductive PacerOutcome where
  | reserved
  | wait (remaining : Duration)
  | failed (message : Message)
  | recorded
  deriving DecidableEq, Repr

def PacerOutcome.ofResult : Result (Option Duration) → PacerOutcome
  | .ok none => .reserved
  | .ok (some remaining) => .wait remaining
  | .error message => .failed message

namespace RateLimitPacerState

/-- A call of the pacer. -/
def apply (self : RateLimitPacerState) : PacerCall → PacerOutcome × RateLimitPacerState
  | .reserveOrWait bucket now =>
      (.ofResult (self.reserveOrWait bucket now).1, (self.reserveOrWait bucket now).2)
  | .recordRateLimitAt bucket now => (.recorded, self.recordRateLimitAt bucket now)

/-- The calls with their outcomes. -/
def trace (self : RateLimitPacerState) : List PacerCall → List (PacerCall × PacerOutcome)
  | [] => []
  | call :: rest => (call, (self.apply call).1) :: trace (self.apply call).2 rest

/-- The state after the calls. -/
def after (self : RateLimitPacerState) : List PacerCall → RateLimitPacerState
  | [] => self
  | call :: rest => after (self.apply call).2 rest

end RateLimitPacerState

end OkxTrading
