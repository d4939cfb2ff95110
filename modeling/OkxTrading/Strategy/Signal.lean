import Mathlib.Data.List.Sort
import OkxTrading.Okx.Types

/-!
# Indicator state

`signal.rs`: EMA and ATR over confirmed candles, and the entry signal read off them.  The
indicators are `f64` in the source; here they are any type with the operations of `F64`, so
nothing below depends on rounding.

* `SignalState.updateFromBar` — one confirmed candle.
* `SignalState.entryAllowed`, `SignalState.lastAtr` — what the strategy reads.
-/

namespace OkxTrading

open Effect

/-- The `f64` operations the indicators use, and the checked conversion to a decimal. -/
class F64 (F : Type) where
  ofNat : Nat → F
  add : F → F → F
  sub : F → F → F
  mul : F → F → F
  div : F → F → F
  max : F → F → F
  abs : F → F
  lt : F → F → Bool
  le : F → F → Bool
  isFinite : F → Bool
  isNormal : F → Bool
  toDecimal : F → Option Decimal

/-- Exact arithmetic: no rounding, and every value but zero is normal. -/
instance : F64 ℚ where
  ofNat n := n
  add := (· + ·)
  sub := (· - ·)
  mul := (· * ·)
  div := (· / ·)
  max := max
  abs x := if x < 0 then -x else x
  lt x y := decide (x < y)
  le x y := decide (x ≤ y)
  isFinite _ := true
  isNormal x := decide (x ≠ 0)
  toDecimal := some

variable {F : Type} [F64 F]

/-! ## EMA and ATR -/

/-- An exponential moving average. -/
structure Ema (F : Type) where
  period : Nat
  multiplier : F
  samples : Nat
  seedSum : F
  value : Option F

namespace Ema

def new (period : Nat) : Ema F where
  period := period
  multiplier := F64.div (F64.ofNat 2) (F64.add (F64.ofNat period) (F64.ofNat 1))
  samples := 0
  seedSum := F64.ofNat 0
  value := none

/-- A close enters the average. -/
def update (self : Ema F) (close : F) : Ema F :=
  let self := { self with samples := self.samples + 1 }
  if self.samples < self.period then { self with seedSum := F64.add self.seedSum close }
  else if self.samples = self.period then
    let seedSum := F64.add self.seedSum close
    { self with seedSum := seedSum, value := some (F64.div seedSum (F64.ofNat self.period)) }
  else match self.value with
    | none => self
    | some previous =>
        { self with
          value := some (F64.add (F64.mul (F64.sub close previous) self.multiplier) previous) }

end Ema

/-- An average true range. -/
structure Atr (F : Type) where
  period : Nat
  samples : Nat
  seedSum : F
  value : Option F
  previousClose : Option F

namespace Atr

def new (period : Nat) : Atr F where
  period := period
  samples := 0
  seedSum := F64.ofNat 0
  value := none
  previousClose := none

/-- The range of a bar, from the close before it where there is one. -/
def trueRange (previousClose : Option F) (high low : F) : F :=
  match previousClose with
  | some previousClose =>
      F64.max (F64.max (F64.sub high low) (F64.abs (F64.sub high previousClose)))
        (F64.abs (F64.sub low previousClose))
  | none => F64.sub high low

def update (self : Atr F) (high low close : F) : Atr F :=
  let trueRange := trueRange self.previousClose high low
  let self := { self with previousClose := some close, samples := self.samples + 1 }
  if self.samples < self.period then { self with seedSum := F64.add self.seedSum trueRange }
  else if self.samples = self.period then
    let seedSum := F64.add self.seedSum trueRange
    { self with seedSum := seedSum, value := some (F64.div seedSum (F64.ofNat self.period)) }
  else match self.value with
    | none => self
    | some previous =>
        let period : F := F64.ofNat self.period
        { self with
          value := some (F64.div (F64.add (F64.mul previous (F64.sub period (F64.ofNat 1)))
            trueRange) period) }

end Atr

/-! ## Conversions at the order boundary -/

/-- `!x.is_finite() || x <= 0.0 || !x.is_normal()`. -/
def notPositiveNormal (x : F) : Bool :=
  !F64.isFinite x || F64.le x (F64.ofNat 0) || !F64.isNormal x

/-- How far below the bid an entry goes, within its bounds. -/
def entryOffsetDistance (close atr : F)
    (entryOffsetAtrMultiple minEntryOffsetBps maxEntryOffsetBps : Decimal) : Option Decimal := do
  if notPositiveNormal close || notPositiveNormal atr then none
  else
    let close ← F64.toDecimal close
    let atr ← F64.toDecimal atr
    let rawOffset := atr * entryOffsetAtrMultiple
    let floorOffset := close * minEntryOffsetBps / 10000
    let ceilingOffset := close * maxEntryOffsetBps / 10000
    if floorOffset ≤ 0 ∨ ceilingOffset < floorOffset then none
    else some (min (max rawOffset floorOffset) ceilingOffset)

/-- The range is wide enough to pay for a round trip. -/
def volatilityClearsFeeThreshold (close atr : F) (roundTripCostRate : Decimal) : Bool :=
  if notPositiveNormal close || notPositiveNormal atr then false
  else match F64.toDecimal close, F64.toDecimal atr with
    | some close, some atr =>
        if roundTripCostRate < 0 ∨ 1 ≤ roundTripCostRate then false
        else decide (5 / 2 * roundTripCostRate ≤ atr / close)
    | _, _ => false

/-! ## The signal -/

/-- `SignalState`: the averages and what they say. -/
structure SignalState (F : Type) where
  entryOffsetAtrMultiple : Decimal
  minEntryOffsetBps : Decimal
  maxEntryOffsetBps : Decimal
  emaFast : Ema F
  emaSlow : Ema F
  atr : Atr F
  roundTripCostRate : Option Decimal
  macroTrendBullish : Bool
  isVolatilitySufficient : Bool
  currentAtrOffset : Option Decimal
  lastClose : Option F
  lastAtr : Option F

namespace SignalState

def new (fastEmaPeriod slowEmaPeriod atrPeriod : Nat)
    (entryOffsetAtrMultiple minEntryOffsetBps maxEntryOffsetBps : Decimal) : SignalState F where
  entryOffsetAtrMultiple := entryOffsetAtrMultiple
  minEntryOffsetBps := minEntryOffsetBps
  maxEntryOffsetBps := maxEntryOffsetBps
  emaFast := .new fastEmaPeriod
  emaSlow := .new slowEmaPeriod
  atr := .new atrPeriod
  roundTripCostRate := none
  macroTrendBullish := false
  isVolatilitySufficient := false
  currentAtrOffset := none
  lastClose := none
  lastAtr := none

variable (self : SignalState F)

/-- A bar that gives no signal. -/
def clearMacroSignal : SignalState F :=
  { self with
    macroTrendBullish := false, isVolatilitySufficient := false, currentAtrOffset := none }

/-- The trend is up and wide enough. -/
def entryAllowedWithoutOffset : Bool := self.macroTrendBullish && self.isVolatilitySufficient

def entryAllowed : Bool := self.entryAllowedWithoutOffset && self.currentAtrOffset.isSome

def ready : Bool := self.lastClose.isSome && self.lastAtr.isSome

/-- The new state, and whether the candle updated the signal. -/
def updateFromBar (bar : MarketBar F) : SignalState F × Bool :=
  if !F64.isFinite bar.close || F64.le bar.close (F64.ofNat 0) || !F64.isFinite bar.high ||
      !F64.isFinite bar.low || F64.lt bar.high bar.low then
    (self.clearMacroSignal, false)
  else
    let self := { self with
      emaFast := self.emaFast.update bar.close
      emaSlow := self.emaSlow.update bar.close
      atr := self.atr.update bar.high bar.low bar.close }
    match self.emaFast.value, self.emaSlow.value, self.atr.value with
    | some fast, some slow, some atr =>
        let self := { self with
          lastClose := some bar.close
          lastAtr := some atr
          macroTrendBullish := F64.lt slow fast && F64.lt slow bar.close
          isVolatilitySufficient :=
            self.roundTripCostRate.any (volatilityClearsFeeThreshold bar.close atr) }
        let offset :=
          if self.entryAllowedWithoutOffset then
            entryOffsetDistance bar.close atr self.entryOffsetAtrMultiple self.minEntryOffsetBps
              self.maxEntryOffsetBps
          else none
        ({ self with currentAtrOffset := offset }, true)
    | _, _, _ => (self.clearMacroSignal, false)

/-- The cost of a round trip, which has to be a rate. -/
def setRoundTripCostRate (costRate : Decimal) : Result (SignalState F) := do
  ensure (0 ≤ costRate ∧ costRate < 1)
    "OkxEmaAtrMakerTrend round-trip cost rate must be non-negative and below one"
  return { self with roundTripCostRate := some costRate }

/-- The price of an entry, where the signal gives an offset. -/
def entryPriceFromBid (bid : Decimal) : Result (Option Decimal) := do
  let some offset := self.currentAtrOffset | return none
  ensure (0 < offset) "OkxEmaAtrMakerTrend entry offset must be positive"
  let price := bid - offset
  return if 0 < price then some price else none

end SignalState

/-- The confirmed candles by time; the sort is stable. -/
def confirmedBarsChronological (bars : List (MarketBar F)) : List (MarketBar F) :=
  (bars.filter (·.confirm)).insertionSort fun a b => a.tsMs ≤ b.tsMs

end OkxTrading
