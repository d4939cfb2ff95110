import OkxTrading.Market.BooksMessage
import OkxTrading.Collections.SortedMap
import OkxTrading.Okx.RateLimit

/-!
# Features of a Level-2 book

The feature formulas of `okx-market-model/level2.rs`, over the two sides of a book.

`rust_decimal` panics where a result does not fit its 96-bit mantissa, and rounds where it fits
only so.  Its operators are a parameter: `DecimalOps` gives for each the decimal it returns, or
`none` where it panics, and a formula with a panic in it has no value.

* `BookLevel`, `BookSide` — a side of a book, by price; `PositiveSide` — what both books keep of
  one.
* `DecimalOps` — the operators of `rust_decimal`.
* `signedRatio`, `positiveRatio`, `sideDepth`, `imbalance`, … — the helpers, one for one.
* `rollingFeatures` — velocity, persistence and volatility over the last 32 points.
-/

namespace OkxTrading

open Collections

/-- What a side of a book keeps of a level, beside its price. -/
structure BookLevel where
  quantity : Decimal
  orderCount : ℕ
  deriving DecidableEq, Repr

/-- `BTreeMap<Decimal, BookLevel>`. -/
abbrev BookSide := SortedMap Decimal BookLevel

/-- Every price and every quantity is positive. -/
def PositiveSide (side : BookSide) : Prop :=
  ∀ level ∈ side.entries, 0 < level.1 ∧ 0 < level.2.quantity

section PositiveSide

variable {side : BookSide} {price : Decimal} {level : BookLevel}

theorem positiveSide_empty : PositiveSide SortedMap.empty := by
  intro level h
  cases h

theorem PositiveSide.insert (h : PositiveSide side) (hprice : 0 < price)
    (hquantity : 0 < level.quantity) : PositiveSide (side.insert price level) := by
  intro e he
  rcases SortedMap.mem_insert.1 he with rfl | ⟨he, -⟩
  · exact ⟨hprice, hquantity⟩
  · exact h e he

theorem PositiveSide.erase (h : PositiveSide side) : PositiveSide (side.erase price) :=
  fun e he => h e (SortedMap.mem_erase.1 he).1

end PositiveSide

/-- What the operators of `rust_decimal` return; `none` where they panic. -/
structure DecimalOps where
  add : Decimal → Decimal → Option Decimal
  sub : Decimal → Decimal → Option Decimal
  mul : Decimal → Decimal → Option Decimal
  div : Decimal → Decimal → Option Decimal

/-- The sum of positive decimals is positive, where there is one. -/
def DecimalOps.AddPositive (ops : DecimalOps) : Prop :=
  ∀ a b c, 0 < a → 0 < b → ops.add a b = some c → 0 < c

/-- Operators that never panic and never round. -/
def DecimalOps.exact : DecimalOps where
  add a b := some (a + b)
  sub a b := some (a - b)
  mul a b := some (a * b)
  div a b := if b = 0 then none else some (a / b)

theorem DecimalOps.addPositive_exact : DecimalOps.exact.AddPositive := by
  intro a b c ha hb h
  cases h
  exact add_pos ha hb

theorem DecimalOps.exact_div {a b : Decimal} (hb : b ≠ 0) : exact.div a b = some (a / b) :=
  if_neg hb

def featureRollingWindow : ℕ := 32
def basisPointsPerUnit : ℕ := 10000

/-- Depth within the first levels of both sides. -/
structure OkxNearBookDepth where
  bidQuantityL10 : Decimal
  askQuantityL10 : Decimal
  bidNotionalL10 : Decimal
  askNotionalL10 : Decimal
  deriving DecidableEq, Repr

/-- The quantity within a distance of the midpoint. -/
structure OkxDepthMove where
  bidQuantity : Decimal
  askQuantity : Decimal
  bidNotional : Decimal
  askNotional : Decimal
  deriving DecidableEq, Repr

/-- How far the price moves for each unit of the base, per side. -/
structure OkxDepthSlope where
  bidBpsPerBaseUnit : Decimal
  askBpsPerBaseUnit : Decimal
  deriving DecidableEq, Repr

/-- What the rolling window keeps of a snapshot. -/
structure RollingFeaturePoint where
  mid : Decimal
  imbalanceL10 : Decimal
  receivedAt : Instant
  deriving DecidableEq, Repr

/-- A price and what is offered at it. -/
abbrev PricedLevel := Decimal × BookLevel

section Helpers

variable (ops : DecimalOps)

/-- `Iterator::sum`. -/
def decimalSum (values : List Decimal) : Option Decimal := values.foldlM ops.add 0

/-- The difference of two sides over their sum; an empty book is balanced. -/
def signedRatio (bid ask : Decimal) : Option Decimal := do
  let total ← ops.add bid ask
  if total ≤ 0 then return 0
  else
    let difference ← ops.sub bid ask
    ops.div difference total

/-- The ratio of two positive amounts, else zero. -/
def positiveRatio (numerator denominator : Decimal) : Option Decimal :=
  if numerator ≤ 0 ∨ denominator ≤ 0 then some 0 else ops.div numerator denominator

/-- Quantity and notional of the levels. -/
def sideDepth (levels : List PricedLevel) : Option (Decimal × Decimal) :=
  levels.foldlM (fun (depth : Decimal × Decimal) (level : PricedLevel) => do
    let quantity ← ops.add depth.1 level.2.quantity
    let product ← ops.mul level.1 level.2.quantity
    let notional ← ops.add depth.2 product
    return (quantity, notional)) (0, 0)

/-- The sign of a decimal. -/
def decimalSign (value : Decimal) : ℤ :=
  if 0 < value then 1 else if value < 0 then -1 else 0

/-- The size of a return in basis points. -/
def absoluteReturnBps (previous current : Decimal) : Option Decimal :=
  if previous ≤ 0 then some 0
  else do
    let difference ← ops.sub current previous
    let share ← ops.div |difference| previous
    ops.mul share (basisPointsPerUnit : ℚ)

/-- `side.iter().rev()` of the bids. -/
def bestBidsFirst (bids : BookSide) : List PricedLevel := bids.entries.reverse

/-- `side.iter()` of the asks. -/
def bestAsksFirst (asks : BookSide) : List PricedLevel := asks.entries

/-- The quantity of some levels, summed in order. -/
def quantitySum (levels : List PricedLevel) : Option Decimal :=
  decimalSum ops (levels.map (·.2.quantity))

/-- The notional of some levels, summed in order. -/
def notionalSum (levels : List PricedLevel) : Option Decimal := do
  let notionals ← levels.mapM fun level => ops.mul level.1 level.2.quantity
  decimalSum ops notionals

/-- Quantities, each over its place counted from the top. -/
def distanceWeightedSum (levels : List PricedLevel) : Option Decimal := do
  let weighted ← levels.zipIdx.mapM fun level =>
    ops.div level.1.2.quantity ((level.2 + 1 : ℕ) : ℚ)
  decimalSum ops weighted

end Helpers

section Features

variable (ops : DecimalOps) (bids asks : BookSide)

/-- Quantity imbalance of the first levels. -/
def imbalance (levels : ℕ) : Option Decimal := do
  let bid ← quantitySum ops ((bestBidsFirst bids).take levels)
  let ask ← quantitySum ops ((bestAsksFirst asks).take levels)
  signedRatio ops bid ask

/-- Imbalance of the whole book, nearer levels counting more. -/
def distanceWeightedImbalance : Option Decimal := do
  let bid ← distanceWeightedSum ops ((bestBidsFirst bids).take okxLevel2MaxDepth)
  let ask ← distanceWeightedSum ops ((bestAsksFirst asks).take okxLevel2MaxDepth)
  signedRatio ops bid ask

/-- Notional imbalance of the first levels. -/
def notionalImbalance (levels : ℕ) : Option Decimal := do
  let bid ← notionalSum ops ((bestBidsFirst bids).take levels)
  let ask ← notionalSum ops ((bestAsksFirst asks).take levels)
  signedRatio ops bid ask

/-- Quantity and notional of both sides within the first levels. -/
def nearBookDepth (levels : ℕ) : Option OkxNearBookDepth := do
  let (bidQuantityL10, bidNotionalL10) ← sideDepth ops ((bestBidsFirst bids).take levels)
  let (askQuantityL10, askNotionalL10) ← sideDepth ops ((bestAsksFirst asks).take levels)
  return { bidQuantityL10, askQuantityL10, bidNotionalL10, askNotionalL10 }

/-- What lies between the midpoint and the prices so many basis points away. -/
def depthToMove (mid : Decimal) (basisPoints : ℕ) : Option OkxDepthMove := do
  let fraction ← ops.div (basisPoints : ℚ) (basisPointsPerUnit : ℚ)
  let bidShare ← ops.sub 1 fraction
  let bidFloor ← ops.mul mid bidShare
  let askShare ← ops.add 1 fraction
  let askCeiling ← ops.mul mid askShare
  let (bidQuantity, bidNotional) ← sideDepth ops
    ((bestBidsFirst bids).takeWhile fun level => decide (bidFloor ≤ level.1))
  let (askQuantity, askNotional) ← sideDepth ops
    ((bestAsksFirst asks).takeWhile fun level => decide (level.1 ≤ askCeiling))
  return { bidQuantity, askQuantity, bidNotional, askNotional }

/-- The price of the last of the nearest levels. -/
def edge (levels : List PricedLevel) (n : ℕ) (mid : Decimal) : Decimal :=
  ((levels[n - 1]?).or levels.getLast?).elim mid (·.1)

/-- The distance of the last level from the midpoint over the quantity up to it. -/
def depthSlope (mid : Decimal) (levels : ℕ) : Option OkxDepthSlope := do
  let bidQuantity ← quantitySum ops ((bestBidsFirst bids).take levels)
  let askQuantity ← quantitySum ops ((bestAsksFirst asks).take levels)
  let bidEdge := edge (bestBidsFirst bids) levels mid
  let askEdge := edge (bestAsksFirst asks) levels mid
  let bidDistance ← ops.sub mid bidEdge
  let bidScaled ← ops.mul bidDistance (basisPointsPerUnit : ℚ)
  let bidNotional ← ops.mul mid bidQuantity
  let bidBpsPerBaseUnit ← positiveRatio ops bidScaled bidNotional
  let askDistance ← ops.sub askEdge mid
  let askScaled ← ops.mul askDistance (basisPointsPerUnit : ℚ)
  let askNotional ← ops.mul mid askQuantity
  let askBpsPerBaseUnit ← positiveRatio ops askScaled askNotional
  return { bidBpsPerBaseUnit, askBpsPerBaseUnit }

/-- One less the smaller share that the first 5 levels have in the notional of the first 50. -/
def liquidityVacuum : Option Decimal := do
  let nearBid ← notionalSum ops ((bestBidsFirst bids).take 5)
  let nearAsk ← notionalSum ops ((bestAsksFirst asks).take 5)
  let deepBid ← notionalSum ops ((bestBidsFirst bids).take 50)
  let deepAsk ← notionalSum ops ((bestAsksFirst asks).take 50)
  let bidShare ← positiveRatio ops nearBid deepBid
  let askShare ← positiveRatio ops nearAsk deepAsk
  let vacuum ← ops.sub 1 (min bidShare askShare)
  return max 0 (min vacuum 1)

end Features

/-! ## Rolling features -/

section Rolling

variable (ops : DecimalOps)

/-- Change of the imbalance per second since the last point. -/
def velocity (points : List RollingFeaturePoint) (imbalanceL10 : Decimal) (receivedAt : Instant) :
    Option Decimal :=
  match points.getLast? with
  | none => some 0
  | some previous =>
      let elapsedMicros := min ((receivedAt - previous.receivedAt) / 1000) (2 ^ 64 - 1)
      if elapsedMicros = 0 then some 0
      else do
        let change ← ops.sub imbalanceL10 previous.imbalanceL10
        let scaled ← ops.mul change 1000000
        ops.div scaled (elapsedMicros : ℚ)

/-- Share of the points whose imbalance has a sign that have the current one. -/
def persistence (points : List RollingFeaturePoint) (imbalanceL10 : Decimal) : Option Decimal :=
  let current := decimalSign imbalanceL10
  let signs := (points.map fun point => decimalSign point.imbalanceL10).filter (· ≠ 0)
  let own := if current = 0 then 0 else 1
  let observed := signs.length + own
  let matching := (signs.filter (· = current)).length + own
  if observed = 0 then some 0 else ops.div (matching : ℚ) (observed : ℚ)

/-- The sum of the returns from each mid to the next, and their number. -/
def volatilitySum : List Decimal → Decimal × ℕ → Option (Decimal × ℕ)
  | previous :: mid :: rest, (total, count) => do
      let move ← absoluteReturnBps ops previous mid
      let total ← ops.add total move
      volatilitySum (mid :: rest) (total, count + 1)
  | _, found => some found

/-- The mean absolute return over the window and the new midpoint. -/
def volatility (points : List RollingFeaturePoint) (mid : Decimal) : Option Decimal := do
  let (total, count) ← volatilitySum ops (points.map (·.mid) ++ [mid]) (0, 0)
  if count = 0 then return 0 else ops.div total (count : ℚ)

/-- The window with a new point, the oldest one out of it where it is full. -/
def pushPoint (points : List RollingFeaturePoint) (point : RollingFeaturePoint) :
    List RollingFeaturePoint :=
  (if points.length = featureRollingWindow then points.tail else points) ++ [point]

/-- Velocity, persistence and volatility, and the window after it. -/
def rollingFeatures (points : List RollingFeaturePoint) (mid imbalanceL10 : Decimal)
    (receivedAt : Instant) : Option ((Decimal × Decimal × Decimal) × List RollingFeaturePoint) := do
  let velocity ← velocity ops points imbalanceL10 receivedAt
  let persistence ← persistence ops points imbalanceL10
  let volatility ← volatility ops points mid
  return ((velocity, persistence, volatility), pushPoint points { mid, imbalanceL10, receivedAt })

end Rolling

/-! ## The window -/

theorem length_pushPoint {points : List RollingFeaturePoint} {point : RollingFeaturePoint}
    (h : points.length ≤ featureRollingWindow) :
    1 ≤ (pushPoint points point).length ∧
      (pushPoint points point).length ≤ featureRollingWindow := by
  unfold pushPoint
  unfold featureRollingWindow at h ⊢
  split <;> simp <;> omega

end OkxTrading
