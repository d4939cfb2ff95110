import OkxTrading.Market.CandleCache
import OkxTrading.Strategy.Operations

/-!
# Live candles

`live_candles` of `okx/client.rs`: the bars of an instrument from the fresh hints of the cache, or
from a REST response, of which a recent one is remembered, with the hints over it.

The REST response is an argument.  While it is awaited other calls and messages may change the
cache, so the state the call goes on with is an argument too.

* `mergeLiveCandleHints` — two lists of bars by their timestamps, the later over the earlier.
* `rememberLiveCandleRestFallback`, `recentLiveCandleRestFallback` — the remembered responses.
* `liveCandles` — the call.
-/

namespace OkxTrading

open Collections Effect

variable {F : Type} [F64 F]

/-- The candle channel of a bar; any other bar is an error. -/
def okxPublicCandleChannelForBar (bar : Text) : Result Text :=
  if bar = "1m".toList then .ok okxPublicCandle1mChannel
  else if bar = "1s".toList then .ok okxPublicCandle1sChannel
  else if bar = "5m".toList then .ok okxPublicCandle5mChannel
  else .error "OKX WebSocket candle bar is not supported by this runtime"

def okxLiveCandleRestFallbackCacheMaxKeys : ℕ := 64

/-! ## State -/

/-- What a fallback is remembered for. -/
structure LiveCandleFallbackKey where
  instId : Text
  bar : Text
  limit : ℕ
  deriving DecidableEq, Repr

/-- Candles fetched over REST and when. -/
structure LiveCandleFallback (F : Type) where
  candles : List (OkxCandleBar F)
  fetchedAt : Instant

/-- `recent_live_candle_rest_fallbacks`. -/
abbrev LiveCandleFallbacks (F : Type) := AList fun _ : LiveCandleFallbackKey => LiveCandleFallback F

/-- The part of the client the call looks at. -/
structure LiveCandleState (F : Type) where
  now : Instant
  marketDataMaxStaleness : ℕ
  candles : CandleCache F
  recentLiveCandleRestFallbacks : LiveCandleFallbacks F

/-- The order the hash map of the remembered responses is walked in. -/
structure FallbackWalk (F : Type) where
  walk : LiveCandleFallbacks F → List (Sigma fun _ : LiveCandleFallbackKey => LiveCandleFallback F)
  perm : ∀ fallbacks, (walk fallbacks).Perm fallbacks.entries

/-- `fresh_candles`. -/
def LiveCandleState.freshCandles (self : LiveCandleState F) (instId channel : Text) :
    List (OkxCandleBar F) :=
  match self.candles.lookup (instId, channel) with
  | none => []
  | some bars =>
      ((bars.entries.map (·.2)).filter fun hint =>
        decide (self.now - hint.receivedAt ≤ self.marketDataMaxStaleness)).map (·.bar)

/-! ## Remembered responses -/

/-- A fallback young enough to be used again; an old one is forgotten. -/
def recentLiveCandleRestFallback (key : LiveCandleFallbackKey) (s : LiveCandleState F) :
    Option (List (OkxCandleBar F)) × LiveCandleState F :=
  match s.recentLiveCandleRestFallbacks.lookup key with
  | none => (none, s)
  | some fallback =>
      if s.now - fallback.fetchedAt ≤ s.marketDataMaxStaleness then (some fallback.candles, s)
      else (none, { s with
        recentLiveCandleRestFallbacks := s.recentLiveCandleRestFallbacks.erase key })

/-- The fallbacks that are not too old. -/
def pruneExpiredLiveCandleFallbacks (fallbacks : LiveCandleFallbacks F) (now : Instant)
    (maxAge : ℕ) : LiveCandleFallbacks F :=
  ⟨fallbacks.entries.filter fun entry => decide (now - entry.2.fetchedAt ≤ maxAge),
    fallbacks.nodupKeys.sublist List.filter_sublist⟩

/-- The loop over `evict_oldest_live_candle_fallback`, for at most `rounds` evictions. -/
def evictFallbackRounds (walk : FallbackWalk F) : ℕ → LiveCandleFallbacks F → LiveCandleFallbacks F
  | 0, fallbacks => fallbacks
  | rounds + 1, fallbacks =>
      if okxLiveCandleRestFallbackCacheMaxKeys < fallbacks.entries.length then
        match (walk.walk fallbacks).argmin fun entry => entry.2.fetchedAt with
        | none => fallbacks
        | some oldest => evictFallbackRounds walk rounds (fallbacks.erase oldest.1)
      else fallbacks

/-- A fallback is remembered after the old ones were dropped. -/
def rememberLiveCandleRestFallback (walk : FallbackWalk F) (key : LiveCandleFallbackKey)
    (candles : List (OkxCandleBar F)) (s : LiveCandleState F) : LiveCandleState F :=
  let fallbacks := (pruneExpiredLiveCandleFallbacks s.recentLiveCandleRestFallbacks s.now
    s.marketDataMaxStaleness).insert key ⟨candles, s.now⟩
  { s with
    recentLiveCandleRestFallbacks := evictFallbackRounds walk fallbacks.entries.length fallbacks }

/-! ## The call -/

/-- `candles`, after the response of the endpoint. -/
def checkCandles (candles : List (OkxCandleBar F)) : Result (List (OkxCandleBar F)) := do
  candles.forM fun candle => candle.validate "OKX REST candle"
  return candles.insertionSort fun a b => a.tsMs ≤ b.tsMs

/-- The bars by their timestamps. -/
def candlesByTsMs (candles : List (OkxCandleBar F)) : SortedMap ℤ (OkxCandleBar F) :=
  .collect (·.tsMs) candles

/-- `merge_live_candle_hints`: the hints lie over the candles from REST, newest bars kept. -/
def mergeLiveCandleHints (restCandles websocketHints : List (OkxCandleBar F)) (limit : ℕ) :
    List (OkxCandleBar F) :=
  ((candlesByTsMs (restCandles ++ websocketHints)).lastN limit).entries.map (·.2)

/-- The cached bars, where there are as many as were asked for. -/
def freshLiveCandlesFromCache (s : LiveCandleState F) (instId channel : Text) (limit : ℕ) :
    Option (List (OkxCandleBar F)) :=
  let hints := s.freshCandles instId channel
  if limit ≤ hints.length then some (mergeLiveCandleHints [] hints limit) else none

/-- `live_candles`: `response` is what the endpoint answers, where it is asked, and `resumed` the
state at that moment. -/
def liveCandles (instId bar : Text) (limit : ℕ) (walk : FallbackWalk F)
    (response : Result (List (OkxCandleBar F))) (resumed s : LiveCandleState F) :
    Result (List (OkxCandleBar F)) × LiveCandleState F :=
  match okxPublicCandleChannelForBar bar with
  | .error _ => (response >>= checkCandles, resumed)
  | .ok channel =>
      match freshLiveCandlesFromCache s instId channel limit with
      | some candles => (.ok candles, s)
      | none =>
          match recentLiveCandleRestFallback ⟨instId, bar, limit⟩ s with
          | (some candles, s) =>
              (.ok (mergeLiveCandleHints candles (s.freshCandles instId channel) limit), s)
          | (none, _) =>
              match response >>= checkCandles with
              | .error e => (.error e, resumed)
              | .ok candles =>
                  let s := rememberLiveCandleRestFallback walk ⟨instId, bar, limit⟩ candles resumed
                  (.ok (mergeLiveCandleHints candles (s.freshCandles instId channel) limit), s)

end OkxTrading
