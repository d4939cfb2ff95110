import OkxTrading.Effect.MayPanic
import OkxTrading.Market.RustDecimal
import OkxTrading.Strategy.Evidence

/-!
# Fill evidence with the operators of `rust_decimal`

The accounting of `okx/types.rs` and the evidence built from it, with the operators a parameter: a
result is rounded to the format, and one out of range panics.

* `DecimalOps.spotFillAccounting`, `DecimalOps.strategyFillEvidence`, … — the functions, one for
  one.
* `evidenceReadings` — net position and average entry price of some rows.
* `ExactSums.strategyFillEvidence`, … — exact operators compute what `Okx.Types` and
  `Strategy.Evidence` say.
* `Below.evidenceReadings` — operators that panic less often read the same.
* `checked`, `checked_below` — operators that panic instead of rounding, and those of the format.
-/

namespace OkxTrading

open Effect MayPanic OrderId ScaledDecimal

/-- A computation on decimals. -/
abbrev Checked (α : Type) := MayPanic Message α

namespace DecimalOps

variable (ops : DecimalOps)

/-! ## Accounting -/

/-- A fee in the base changes the base, one in the quote the quote. -/
def applySpotCurrencyAdjustment (context field : Message) (accounting : OkxSpotFillAccounting)
    (amount : Decimal) (currency baseCurrency quoteCurrency : Text) :
    Checked OkxSpotFillAccounting := do
  ensure (currency = baseCurrency ∨ currency = quoteCurrency)
    (context ++ " " ++ field ++ " does not match base or quote")
  if currency = baseCurrency then
    return { accounting with baseChange := ← ops.add accounting.baseChange amount }
  else
    return { accounting with quoteChange := ← ops.add accounting.quoteChange amount }

/-- A rebate may be left out; else it is booked like a fee. -/
def applySpotRebate (context : Message) (accounting : OkxSpotFillAccounting)
    (rebate : DecimalText) (rebateCurrency baseCurrency quoteCurrency : Text) :
    Checked OkxSpotFillAccounting := do
  let rebate ← if rebate.isBlank then pure 0
    else parseNonNegativeDecimal (context ++ " rebate") rebate
  if rebate = 0 ∧ Text.isBlank rebateCurrency then return accounting
  ops.applySpotCurrencyAdjustment context "rebateCcy" accounting rebate rebateCurrency baseCurrency
    quoteCurrency

/-- What size, price and fee of a fill change. -/
def spotFillAccounting (context : Message) (side : Option OrderSide)
    (fillSize fillPrice : Decimal) (fee : DecimalText) (feeCurrency : Text)
    (baseCurrency quoteCurrency : Text) : Checked OkxSpotFillAccounting := do
  ensure (¬ Text.isBlank baseCurrency ∧ ¬ Text.isBlank quoteCurrency)
    (context ++ " SPOT accounting requires base and quote currencies")
  ensure (baseCurrency ≠ quoteCurrency)
    (context ++ " SPOT accounting requires distinct base and quote currencies")
  let some side := side | throw (context ++ " has undocumented side")
  let feeAmount ← parseDecimal (context ++ " fee") fee
  let notional ← ops.mul fillSize fillPrice
  let gross : OkxSpotFillAccounting := match side with
    | .buy => ⟨fillSize, -notional⟩
    | .sell => ⟨-fillSize, notional⟩
  let accounting ← ops.applySpotCurrencyAdjustment context "feeCcy" gross feeAmount feeCurrency
    baseCurrency quoteCurrency
  ensureSpotAccountingDirection context (some side) accounting
  return accounting

/-- `OkxOrder::cumulative_spot_accounting`. -/
def cumulativeSpotAccounting (order : OkxOrder) (baseCurrency quoteCurrency : Text) :
    Checked OkxSpotFillAccounting := do
  let fillSize ← order.fillSize
  if fillSize = 0 then return .zero
  let some fillPrice ← order.averageFillPrice | throw "OKX filled order is missing avgPx"
  let accounting ← ops.spotFillAccounting "OKX order" order.parsedSide fillSize fillPrice order.fee
    order.feeCurrency baseCurrency quoteCurrency
  let accounting ← ops.applySpotRebate "OKX order" accounting order.rebate order.rebateCurrency
    baseCurrency quoteCurrency
  ensureSpotAccountingDirection "OKX order" order.parsedSide accounting
  return accounting

/-- `OkxFill::spot_accounting`. -/
def spotAccounting (fill : OkxFill) (baseCurrency quoteCurrency : Text) :
    Checked OkxSpotFillAccounting := do
  ops.spotFillAccounting "OKX fill" fill.parsedSide (← fill.fillSize) (← fill.fillPrice) fill.fee
    fill.feeCurrency baseCurrency quoteCurrency

/-! ## Evidence -/

/-- The first loop of `strategy_fill_evidence`. -/
def fillEvidenceOfFills (strategyTag : Text) (instrument : OkxInstrument) :
    List OkxFill → List StrategyFillEvidence → List Text → List Text →
    Checked (List StrategyFillEvidence × List Text)
  | [], evidence, _, fillClientOrderIds => return (evidence, fillClientOrderIds)
  | fill :: rest, evidence, seenFillIds, fillClientOrderIds =>
      match parseStrategyClientOrderId fill.clientOrderId strategyTag with
      | none =>
          fillEvidenceOfFills strategyTag instrument rest evidence seenFillIds fillClientOrderIds
      | some purpose => do
          let fillId := fill.dedupeKey
          ensure (fillId ≠ []) "strategy-tagged OKX fill has no stable identity"
          if fillId ∈ seenFillIds then
            fillEvidenceOfFills strategyTag instrument rest evidence seenFillIds
              fillClientOrderIds
          else
            let some side := fill.parsedSide
              | throw "strategy-tagged OKX fill has unexpected side"
            ensureExpectedFillSide purpose side
            let accounting ← ops.spotAccounting fill instrument.baseCcy instrument.quoteCcy
            fillEvidenceOfFills strategyTag instrument rest
              (evidence ++ [⟨purpose, side, some accounting⟩]) (fillId :: seenFillIds)
              (fill.clientOrderId :: fillClientOrderIds)

/-- The second loop. -/
def fillEvidenceOfOrders (strategyTag : Text) (instrument : OkxInstrument)
    (fillClientOrderIds : List Text) :
    List OkxOrder → List StrategyFillEvidence → Checked (List StrategyFillEvidence)
  | [], evidence => return evidence
  | order :: rest, evidence =>
      match parseStrategyClientOrderId order.clientOrderId strategyTag with
      | none => fillEvidenceOfOrders strategyTag instrument fillClientOrderIds rest evidence
      | some purpose =>
          if order.clientOrderId ∈ fillClientOrderIds then
            fillEvidenceOfOrders strategyTag instrument fillClientOrderIds rest evidence
          else do
            let fillSize ← order.fillSize
            if fillSize ≤ 0 then
              fillEvidenceOfOrders strategyTag instrument fillClientOrderIds rest evidence
            else
              let some side := order.parsedSide
                | throw "strategy-tagged OKX order has unexpected side"
              ensureExpectedFillSide purpose side
              let accounting ← if (← order.averageFillPrice).isSome then
                  some <$> ops.cumulativeSpotAccounting order instrument.baseCcy
                    instrument.quoteCcy
                else pure none
              fillEvidenceOfOrders strategyTag instrument fillClientOrderIds rest
                (evidence ++ [⟨purpose, side, accounting⟩])

/-- The evidence of fills first, then of the orders no fill was seen of. -/
def strategyFillEvidence (orders : List OkxOrder) (fills : List OkxFill) (strategyTag : Text)
    (instrument : OkxInstrument) : Checked (List StrategyFillEvidence) := do
  let (evidence, fillClientOrderIds) ←
    ops.fillEvidenceOfFills strategyTag instrument fills [] [] []
  ops.fillEvidenceOfOrders strategyTag instrument fillClientOrderIds orders evidence

/-! ## Inventory and cost basis -/

/-- The loop of `strategy_entry_average_price`. -/
def entryTotals :
    List StrategyFillEvidence → Decimal → Decimal → Checked (Option (Decimal × Decimal))
  | [], quantity, quoteCost => return some (quantity, quoteCost)
  | fill :: rest, quantity, quoteCost =>
      if fill.purpose = .entry ∧ fill.side = .buy then
        match fill.accounting with
        | none => return none
        | some accounting => do
            let quantity ← ops.add quantity accounting.baseChange
            let quoteCost ← ops.sub quoteCost accounting.quoteChange
            entryTotals rest quantity quoteCost
      else entryTotals rest quantity quoteCost

/-- What `strategy_entry_average_price` makes of the totals. -/
def averageOfTotals : Option (Decimal × Decimal) → Checked EntryAveragePriceStatus
  | none => return .missingPrice
  | some (quantity, quoteCost) => do
      if quantity ≤ 0 then return .noEntryFill
      ensure (0 < quoteCost) "OKX strategy entry quote cost must be positive"
      let averagePrice ← ops.div quoteCost quantity
      ensure (0 < averagePrice) "OKX strategy entry average price must be positive"
      return .reconstructed averagePrice

/-- The quotient of the totals, rounded. -/
def strategyEntryAveragePrice (evidence : List StrategyFillEvidence) :
    Checked EntryAveragePriceStatus := do
  ops.averageOfTotals (← ops.entryTotals evidence 0 0)

/-- The loop of `strategy_net_filled_position`. -/
def netFilledLoop : List StrategyFillEvidence → Decimal → Checked Decimal
  | [], quantity => return quantity
  | fill :: rest, quantity =>
      match fill.accounting with
      | none => throw "strategy-tagged OKX fill is missing fee-adjusted accounting"
      | some accounting =>
          if fill.side = fill.purpose.side then do
            netFilledLoop rest (← ops.add quantity accounting.baseChange)
          else throw "strategy-tagged OKX fill has unexpected side for purpose"

/-- The sum of what the rows moved, never below zero. -/
def strategyNetFilledPosition (evidence : List StrategyFillEvidence) : Checked Decimal := do
  return max (← ops.netFilledLoop evidence 0) 0

/-- Net position and average entry price of the evidence of some rows. -/
def evidenceReadings (orders : List OkxOrder) (fills : List OkxFill) (strategyTag : Text)
    (instrument : OkxInstrument) : Checked (Result Decimal × Result EntryAveragePriceStatus) := do
  let evidence ← ops.strategyFillEvidence orders fills strategyTag instrument
  return (← (ops.strategyNetFilledPosition evidence).attempt,
    ← (ops.strategyEntryAveragePrice evidence).attempt)

/-! ## Exact sums -/

/-- Sums, differences and products are exact. -/
structure ExactSums : Prop where
  add : ∀ a b, ops.add a b = some (a + b)
  sub : ∀ a b, ops.sub a b = some (a - b)
  mul : ∀ a b, ops.mul a b = some (a * b)

theorem exactSums_exact : exact.ExactSums where
  add _ _ := rfl
  sub _ _ := rfl
  mul _ _ := rfl

namespace ExactSums

variable {ops} (hops : ops.ExactSums)

include hops

theorem applySpotCurrencyAdjustment (context field : Message) (accounting : OkxSpotFillAccounting)
    (amount : Decimal) (currency baseCurrency quoteCurrency : Text) :
    ops.applySpotCurrencyAdjustment context field accounting amount currency baseCurrency
        quoteCurrency =
      liftM (OkxTrading.applySpotCurrencyAdjustment context field accounting amount currency
        baseCurrency quoteCurrency) := by
  unfold DecimalOps.applySpotCurrencyAdjustment OkxTrading.applySpotCurrencyAdjustment
  rw [liftM_bind]
  congr 1
  funext _
  by_cases hbase : currency = baseCurrency
  · rw [if_pos hbase, if_pos hbase, hops.add]
    rfl
  · rw [if_neg hbase, if_neg hbase, hops.add]
    rfl

theorem applySpotRebate (context : Message) (accounting : OkxSpotFillAccounting)
    (rebate : DecimalText) (rebateCurrency baseCurrency quoteCurrency : Text) :
    ops.applySpotRebate context accounting rebate rebateCurrency baseCurrency quoteCurrency =
      liftM (OkxTrading.applySpotRebate context accounting rebate rebateCurrency baseCurrency
        quoteCurrency) := by
  have hrest : ∀ amount : Decimal,
      (if amount = 0 ∧ Text.isBlank rebateCurrency then pure accounting
        else ops.applySpotCurrencyAdjustment context "rebateCcy" accounting amount rebateCurrency
          baseCurrency quoteCurrency) =
      (liftM (if amount = 0 ∧ Text.isBlank rebateCurrency then pure accounting
        else OkxTrading.applySpotCurrencyAdjustment context "rebateCcy" accounting amount
          rebateCurrency baseCurrency quoteCurrency : Result OkxSpotFillAccounting) :
        Checked OkxSpotFillAccounting) := by
    intro amount
    split
    · rfl
    · exact hops.applySpotCurrencyAdjustment _ _ _ _ _ _ _
  unfold DecimalOps.applySpotRebate OkxTrading.applySpotRebate
  by_cases hblank : rebate.isBlank = true
  · rw [if_pos hblank, if_pos hblank]
    exact hrest 0
  · rw [if_neg hblank, if_neg hblank]
    dsimp only
    rw [liftM_bind]
    exact bind_congr hrest

theorem spotFillAccounting (context : Message) (side : Option OrderSide)
    (fillSize fillPrice : Decimal) (fee : DecimalText)
    (feeCurrency baseCurrency quoteCurrency : Text) :
    ops.spotFillAccounting context side fillSize fillPrice fee feeCurrency baseCurrency
        quoteCurrency =
      liftM (OkxTrading.spotFillAccounting context side fillSize fillPrice fee feeCurrency
        baseCurrency quoteCurrency) := by
  unfold DecimalOps.spotFillAccounting OkxTrading.spotFillAccounting
  rw [liftM_bind]
  refine bind_congr fun _ => ?_
  rw [liftM_bind]
  refine bind_congr fun _ => ?_
  cases side with
  | none => rfl
  | some side =>
      dsimp only
      rw [liftM_bind]
      refine bind_congr fun feeAmount => ?_
      rw [hops.mul, liftM_some, pure_bind, liftM_bind]
      rw [hops.applySpotCurrencyAdjustment]
      refine bind_congr fun accounting => ?_
      rw [liftM_bind]
      rfl

theorem cumulativeSpotAccounting (order : OkxOrder) (baseCurrency quoteCurrency : Text) :
    ops.cumulativeSpotAccounting order baseCurrency quoteCurrency =
      liftM (order.cumulativeSpotAccounting baseCurrency quoteCurrency) := by
  unfold DecimalOps.cumulativeSpotAccounting OkxOrder.cumulativeSpotAccounting
  rw [liftM_bind]
  refine bind_congr fun fillSize => ?_
  by_cases hzero : fillSize = 0
  · rw [if_pos hzero, if_pos hzero]
    rfl
  · rw [if_neg hzero, if_neg hzero, liftM_bind]
    refine bind_congr fun price? => ?_
    cases price? with
    | none => rfl
    | some price =>
        dsimp only
        rw [liftM_bind, hops.spotFillAccounting]
        refine bind_congr fun gross => ?_
        rw [liftM_bind, hops.applySpotRebate]
        refine bind_congr fun accounting => ?_
        rw [liftM_bind]
        rfl

theorem spotAccounting (fill : OkxFill) (baseCurrency quoteCurrency : Text) :
    ops.spotAccounting fill baseCurrency quoteCurrency =
      liftM (fill.spotAccounting baseCurrency quoteCurrency) := by
  unfold DecimalOps.spotAccounting OkxFill.spotAccounting
  simp only [liftM_bind, hops.spotFillAccounting]

theorem fillEvidenceOfFills (strategyTag : Text) (instrument : OkxInstrument)
    (fills : List OkxFill) :
    ∀ (evidence : List StrategyFillEvidence) (seen ids : List Text),
      ops.fillEvidenceOfFills strategyTag instrument fills evidence seen ids =
        liftM (OkxTrading.fillEvidenceOfFills strategyTag instrument fills evidence seen ids) := by
  induction fills with
  | nil => exact fun _ _ _ => rfl
  | cons fill rest ih =>
      intro evidence seen ids
      unfold DecimalOps.fillEvidenceOfFills OkxTrading.fillEvidenceOfFills
      cases parseStrategyClientOrderId fill.clientOrderId strategyTag with
      | none => exact ih _ _ _
      | some purpose =>
          dsimp only
          rw [liftM_bind]
          refine bind_congr fun _ => ?_
          by_cases hseen : fill.dedupeKey ∈ seen
          · rw [if_pos hseen, if_pos hseen]
            exact ih _ _ _
          · rw [if_neg hseen, if_neg hseen]
            cases fill.parsedSide with
            | none => rfl
            | some side =>
                dsimp only
                rw [liftM_bind]
                refine bind_congr fun _ => ?_
                rw [liftM_bind, hops.spotAccounting]
                exact bind_congr fun _ => ih _ _ _

theorem fillEvidenceOfOrders (strategyTag : Text) (instrument : OkxInstrument) (ids : List Text)
    (orders : List OkxOrder) :
    ∀ evidence : List StrategyFillEvidence,
      ops.fillEvidenceOfOrders strategyTag instrument ids orders evidence =
        liftM (OkxTrading.fillEvidenceOfOrders strategyTag instrument ids orders evidence) := by
  induction orders with
  | nil => exact fun _ => rfl
  | cons order rest ih =>
      intro evidence
      unfold DecimalOps.fillEvidenceOfOrders OkxTrading.fillEvidenceOfOrders
      cases parseStrategyClientOrderId order.clientOrderId strategyTag with
      | none => exact ih _
      | some purpose =>
          dsimp only
          by_cases hid : order.clientOrderId ∈ ids
          · rw [if_pos hid, if_pos hid]
            exact ih _
          · rw [if_neg hid, if_neg hid, liftM_bind]
            refine bind_congr fun size => ?_
            by_cases hsize : size ≤ 0
            · rw [if_pos hsize, if_pos hsize]
              exact ih _
            · rw [if_neg hsize, if_neg hsize]
              cases order.parsedSide with
              | none => rfl
              | some side =>
                  dsimp only
                  rw [liftM_bind]
                  refine bind_congr fun _ => ?_
                  rw [liftM_bind]
                  refine bind_congr fun price => ?_
                  cases price with
                  | none => exact ih _
                  | some price =>
                      simp only [Option.isSome_some, if_true]
                      rw [liftM_bind, liftM_map, hops.cumulativeSpotAccounting]
                      exact bind_congr fun _ => ih _

/-- **Exact operators compute the exact evidence.** -/
theorem strategyFillEvidence (orders : List OkxOrder) (fills : List OkxFill) (strategyTag : Text)
    (instrument : OkxInstrument) :
    ops.strategyFillEvidence orders fills strategyTag instrument =
      liftM (OkxTrading.strategyFillEvidence orders fills strategyTag instrument) := by
  unfold DecimalOps.strategyFillEvidence OkxTrading.strategyFillEvidence
  rw [liftM_bind, hops.fillEvidenceOfFills]
  exact bind_congr fun _ => hops.fillEvidenceOfOrders _ _ _ _ _

theorem entryTotals (evidence : List StrategyFillEvidence) :
    ∀ quantity quoteCost : Decimal, ops.entryTotals evidence quantity quoteCost =
      pure ((OkxTrading.entryTotals evidence).map fun totals =>
        (quantity + totals.1, quoteCost + totals.2)) := by
  induction evidence with
  | nil =>
      intro quantity quoteCost
      simp only [DecimalOps.entryTotals, OkxTrading.entryTotals, Option.map_some, add_zero]
  | cons fill rest ih =>
      intro quantity quoteCost
      unfold DecimalOps.entryTotals OkxTrading.entryTotals
      by_cases hentry : fill.purpose = .entry ∧ fill.side = .buy
      · rw [if_pos hentry, if_pos hentry]
        cases fill.accounting with
        | none => rfl
        | some accounting =>
            dsimp only
            rw [hops.add, liftM_some, pure_bind, hops.sub, liftM_some, pure_bind, ih]
            cases OkxTrading.entryTotals rest with
            | none => rfl
            | some totals =>
                simp only [Option.map_some, add_assoc, sub_eq_add_neg]
                rw [add_comm totals.2]
      · rw [if_neg hentry, if_neg hentry]
        exact ih _ _

theorem netFilledLoop (evidence : List StrategyFillEvidence) :
    ∀ quantity : Decimal, ops.netFilledLoop evidence quantity =
      liftM (OkxTrading.netFilledLoop evidence quantity) := by
  induction evidence with
  | nil => exact fun _ => rfl
  | cons fill rest ih =>
      intro quantity
      unfold DecimalOps.netFilledLoop OkxTrading.netFilledLoop
      cases fill.accounting with
      | none => rfl
      | some accounting =>
          dsimp only
          by_cases hside : fill.side = fill.purpose.side
          · rw [if_pos hside, if_pos hside, hops.add, liftM_some, pure_bind]
            exact ih _
          · rw [if_neg hside, if_neg hside]
            rfl

theorem strategyNetFilledPosition (evidence : List StrategyFillEvidence) :
    ops.strategyNetFilledPosition evidence =
      liftM (OkxTrading.strategyNetFilledPosition evidence) := by
  unfold DecimalOps.strategyNetFilledPosition OkxTrading.strategyNetFilledPosition
  rw [liftM_bind, hops.netFilledLoop]
  rfl

theorem strategyEntryAveragePrice (evidence : List StrategyFillEvidence) :
    ops.strategyEntryAveragePrice evidence =
      ops.averageOfTotals (OkxTrading.entryTotals evidence) := by
  unfold DecimalOps.strategyEntryAveragePrice
  rw [hops.entryTotals, pure_bind]
  simp only [zero_add, Prod.mk.eta, Option.map_id']

end ExactSums

/-- With an exact quotient too, the average is the exact one. -/
theorem strategyEntryAveragePrice_exact (evidence : List StrategyFillEvidence) :
    exact.strategyEntryAveragePrice evidence =
      liftM (OkxTrading.strategyEntryAveragePrice evidence) := by
  rw [exactSums_exact.strategyEntryAveragePrice]
  unfold OkxTrading.strategyEntryAveragePrice
  cases OkxTrading.entryTotals evidence with
  | none => rfl
  | some totals =>
      obtain ⟨quantity, quoteCost⟩ := totals
      unfold averageOfTotals
      dsimp only
      by_cases hquantity : quantity ≤ 0
      · rw [if_pos hquantity, if_pos hquantity]
        rfl
      · rw [if_neg hquantity, if_neg hquantity, liftM_bind]
        refine bind_congr fun _ => ?_
        rw [exact_div (not_le.1 hquantity).ne', liftM_some, pure_bind, liftM_bind]
        rfl

/-! ## Operators that panic more often -/

/-- Where an operator of `ops` returns, that of `ops'` returns the same. -/
structure Below (ops ops' : DecimalOps) : Prop where
  add : ∀ a b c, ops.add a b = some c → ops'.add a b = some c
  sub : ∀ a b c, ops.sub a b = some c → ops'.sub a b = some c
  mul : ∀ a b c, ops.mul a b = some c → ops'.mul a b = some c
  div : ∀ a b c, ops.div a b = some c → ops'.div a b = some c

namespace Below

variable {ops} {ops' : DecimalOps} (h : ops.Below ops')

include h

theorem applySpotCurrencyAdjustment (context field : Message) (accounting : OkxSpotFillAccounting)
    (amount : Decimal) (currency baseCurrency quoteCurrency : Text) :
    MayPanic.Below
      (ops.applySpotCurrencyAdjustment context field accounting amount currency baseCurrency
        quoteCurrency)
      (ops'.applySpotCurrencyAdjustment context field accounting amount currency baseCurrency
        quoteCurrency) := by
  unfold DecimalOps.applySpotCurrencyAdjustment
  refine (MayPanic.Below.refl _).bind fun _ => ?_
  split
  · exact (MayPanic.Below.liftM (h.add _ _)).bind fun _ => .refl _
  · exact (MayPanic.Below.liftM (h.add _ _)).bind fun _ => .refl _

theorem applySpotRebate (context : Message) (accounting : OkxSpotFillAccounting)
    (rebate : DecimalText) (rebateCurrency baseCurrency quoteCurrency : Text) :
    MayPanic.Below
      (ops.applySpotRebate context accounting rebate rebateCurrency baseCurrency quoteCurrency)
      (ops'.applySpotRebate context accounting rebate rebateCurrency baseCurrency
        quoteCurrency) := by
  have hrest : ∀ amount : Decimal, MayPanic.Below
      (if amount = 0 ∧ Text.isBlank rebateCurrency then pure accounting
        else ops.applySpotCurrencyAdjustment context "rebateCcy" accounting amount rebateCurrency
          baseCurrency quoteCurrency)
      (if amount = 0 ∧ Text.isBlank rebateCurrency then pure accounting
        else ops'.applySpotCurrencyAdjustment context "rebateCcy" accounting amount rebateCurrency
          baseCurrency quoteCurrency) := by
    intro amount
    split
    · exact .refl _
    · exact h.applySpotCurrencyAdjustment _ _ _ _ _ _ _
  unfold DecimalOps.applySpotRebate
  by_cases hblank : rebate.isBlank = true
  · rw [if_pos hblank, if_pos hblank]
    exact hrest 0
  · rw [if_neg hblank, if_neg hblank]
    exact (MayPanic.Below.refl _).bind hrest

theorem spotFillAccounting (context : Message) (side : Option OrderSide)
    (fillSize fillPrice : Decimal) (fee : DecimalText)
    (feeCurrency baseCurrency quoteCurrency : Text) :
    MayPanic.Below
      (ops.spotFillAccounting context side fillSize fillPrice fee feeCurrency baseCurrency
        quoteCurrency)
      (ops'.spotFillAccounting context side fillSize fillPrice fee feeCurrency baseCurrency
        quoteCurrency) := by
  unfold DecimalOps.spotFillAccounting
  refine (MayPanic.Below.refl _).bind fun _ => (MayPanic.Below.refl _).bind fun _ => ?_
  cases side with
  | none => exact .refl _
  | some side =>
      refine (MayPanic.Below.refl _).bind fun feeAmount => ?_
      refine (MayPanic.Below.liftM (h.mul _ _)).bind fun notional => ?_
      refine (h.applySpotCurrencyAdjustment _ _ _ _ _ _ _).bind fun accounting => ?_
      exact .refl _

theorem cumulativeSpotAccounting (order : OkxOrder) (baseCurrency quoteCurrency : Text) :
    MayPanic.Below (ops.cumulativeSpotAccounting order baseCurrency quoteCurrency)
      (ops'.cumulativeSpotAccounting order baseCurrency quoteCurrency) := by
  unfold DecimalOps.cumulativeSpotAccounting
  refine (MayPanic.Below.refl _).bind fun fillSize => ?_
  split
  · exact .refl _
  · refine (MayPanic.Below.refl _).bind fun price? => ?_
    cases price? with
    | none => exact .refl _
    | some price =>
        refine (h.spotFillAccounting _ _ _ _ _ _ _ _).bind fun gross => ?_
        refine (h.applySpotRebate _ _ _ _ _ _).bind fun accounting => ?_
        exact .refl _

theorem spotAccounting (fill : OkxFill) (baseCurrency quoteCurrency : Text) :
    MayPanic.Below (ops.spotAccounting fill baseCurrency quoteCurrency)
      (ops'.spotAccounting fill baseCurrency quoteCurrency) := by
  unfold DecimalOps.spotAccounting
  exact (MayPanic.Below.refl _).bind fun _ => (MayPanic.Below.refl _).bind fun _ =>
    h.spotFillAccounting _ _ _ _ _ _ _ _

theorem fillEvidenceOfFills (strategyTag : Text) (instrument : OkxInstrument)
    (fills : List OkxFill) :
    ∀ (evidence : List StrategyFillEvidence) (seen ids : List Text),
      MayPanic.Below (ops.fillEvidenceOfFills strategyTag instrument fills evidence seen ids)
        (ops'.fillEvidenceOfFills strategyTag instrument fills evidence seen ids) := by
  induction fills with
  | nil => exact fun _ _ _ => .refl _
  | cons fill rest ih =>
      intro evidence seen ids
      unfold DecimalOps.fillEvidenceOfFills
      cases parseStrategyClientOrderId fill.clientOrderId strategyTag with
      | none => exact ih _ _ _
      | some purpose =>
          refine (MayPanic.Below.refl _).bind fun _ => ?_
          by_cases hseen : fill.dedupeKey ∈ seen
          · rw [if_pos hseen, if_pos hseen]
            exact ih _ _ _
          · rw [if_neg hseen, if_neg hseen]
            cases fill.parsedSide with
            | none => exact .refl _
            | some side =>
                refine (MayPanic.Below.refl _).bind fun _ => ?_
                exact (h.spotAccounting _ _ _).bind fun _ => ih _ _ _

theorem fillEvidenceOfOrders (strategyTag : Text) (instrument : OkxInstrument) (ids : List Text)
    (orders : List OkxOrder) :
    ∀ evidence : List StrategyFillEvidence,
      MayPanic.Below (ops.fillEvidenceOfOrders strategyTag instrument ids orders evidence)
        (ops'.fillEvidenceOfOrders strategyTag instrument ids orders evidence) := by
  induction orders with
  | nil => exact fun _ => .refl _
  | cons order rest ih =>
      intro evidence
      unfold DecimalOps.fillEvidenceOfOrders
      cases parseStrategyClientOrderId order.clientOrderId strategyTag with
      | none => exact ih _
      | some purpose =>
          dsimp only
          by_cases hid : order.clientOrderId ∈ ids
          · rw [if_pos hid, if_pos hid]
            exact ih _
          · rw [if_neg hid, if_neg hid]
            refine (MayPanic.Below.refl _).bind fun size => ?_
            by_cases hsize : size ≤ 0
            · rw [if_pos hsize, if_pos hsize]
              exact ih _
            · rw [if_neg hsize, if_neg hsize]
              cases order.parsedSide with
              | none => exact .refl _
              | some side =>
                  refine (MayPanic.Below.refl _).bind fun _ => ?_
                  refine (MayPanic.Below.refl _).bind fun price => ?_
                  cases price with
                  | none => exact ih _
                  | some price =>
                      simp only [Option.isSome_some, if_true, map_eq_pure_bind]
                      refine MayPanic.Below.bind ?_ fun _ => ih _
                      exact (h.cumulativeSpotAccounting _ _ _).bind fun _ => .refl _

theorem strategyFillEvidence (orders : List OkxOrder) (fills : List OkxFill) (strategyTag : Text)
    (instrument : OkxInstrument) :
    MayPanic.Below (ops.strategyFillEvidence orders fills strategyTag instrument)
      (ops'.strategyFillEvidence orders fills strategyTag instrument) := by
  unfold DecimalOps.strategyFillEvidence
  exact (h.fillEvidenceOfFills _ _ _ _ _ _).bind fun _ => h.fillEvidenceOfOrders _ _ _ _ _

theorem entryTotals (evidence : List StrategyFillEvidence) :
    ∀ quantity quoteCost : Decimal, MayPanic.Below (ops.entryTotals evidence quantity quoteCost)
      (ops'.entryTotals evidence quantity quoteCost) := by
  induction evidence with
  | nil => exact fun _ _ => .refl _
  | cons fill rest ih =>
      intro quantity quoteCost
      unfold DecimalOps.entryTotals
      by_cases hentry : fill.purpose = .entry ∧ fill.side = .buy
      · rw [if_pos hentry, if_pos hentry]
        cases fill.accounting with
        | none => exact .refl _
        | some accounting =>
            refine (MayPanic.Below.liftM (h.add _ _)).bind fun _ => ?_
            exact (MayPanic.Below.liftM (h.sub _ _)).bind fun _ => ih _ _
      · rw [if_neg hentry, if_neg hentry]
        exact ih _ _

theorem averageOfTotals (totals : Option (Decimal × Decimal)) :
    MayPanic.Below (ops.averageOfTotals totals) (ops'.averageOfTotals totals) := by
  cases totals with
  | none => exact .refl _
  | some totals =>
      unfold DecimalOps.averageOfTotals
      dsimp only
      split
      · exact .refl _
      · refine (MayPanic.Below.refl _).bind fun _ => ?_
        exact (MayPanic.Below.liftM (h.div _ _)).bind fun _ => .refl _

theorem netFilledLoop (evidence : List StrategyFillEvidence) :
    ∀ quantity : Decimal, MayPanic.Below (ops.netFilledLoop evidence quantity)
      (ops'.netFilledLoop evidence quantity) := by
  induction evidence with
  | nil => exact fun _ => .refl _
  | cons fill rest ih =>
      intro quantity
      unfold DecimalOps.netFilledLoop
      cases fill.accounting with
      | none => exact .refl _
      | some accounting =>
          dsimp only
          split
          · exact (MayPanic.Below.liftM (h.add _ _)).bind fun _ => ih _
          · exact .refl _

/-- **A computation of fewer panics reads the same.** -/
theorem evidenceReadings (orders : List OkxOrder) (fills : List OkxFill) (strategyTag : Text)
    (instrument : OkxInstrument) :
    MayPanic.Below (ops.evidenceReadings orders fills strategyTag instrument)
      (ops'.evidenceReadings orders fills strategyTag instrument) := by
  unfold DecimalOps.evidenceReadings
  refine (h.strategyFillEvidence _ _ _ _).bind fun evidence => ?_
  have hposition : MayPanic.Below (ops.strategyNetFilledPosition evidence)
      (ops'.strategyNetFilledPosition evidence) := (h.netFilledLoop _ _).bind fun _ => .refl _
  have haverage : MayPanic.Below (ops.strategyEntryAveragePrice evidence)
      (ops'.strategyEntryAveragePrice evidence) :=
    (h.entryTotals _ _ _).bind fun _ => h.averageOfTotals _
  exact hposition.attempt.bind fun _ => haverage.attempt.bind fun _ => .refl _

end Below

/-! ## Operators that round nothing -/

/-- The value, where it is one of the format. -/
def unrounded (x : Decimal) : Option Decimal :=
  if decimalFormat.round x = some x then some x else none

/-- A sum, difference or product of decimals, where it is exact; quotients are those of `ops`. -/
def checked : DecimalOps where
  add a b := do unrounded ((← unrounded a) + (← unrounded b))
  sub a b := do unrounded ((← unrounded a) - (← unrounded b))
  mul a b := do unrounded ((← unrounded a) * (← unrounded b))
  div := ops.div

/-- Exact sums, differences and products with the quotients of `ops`. -/
def withExactSums : DecimalOps := { exact with div := ops.div }

theorem exactSums_withExactSums : ops.withExactSums.ExactSums where
  add _ _ := rfl
  sub _ _ := rfl
  mul _ _ := rfl

variable {ops}

theorem unrounded_eq_some {x c : Decimal} : unrounded x = some c ↔ IsDecimal x ∧ c = x := by
  unfold unrounded
  constructor
  · intro h
    by_cases hround : decimalFormat.round x = some x
    · rw [if_pos hround] at h
      have hrounds := Format.rounds_of_round (by norm_num [decimalFormat]) hround
      exact ⟨hrounds.representable, (Option.some.inj h).symm⟩
    · rw [if_neg hround] at h
      cases h
  · rintro ⟨hx, rfl⟩
    have hevaluates := Format.evaluates_round (f := decimalFormat) (by norm_num [decimalFormat]) c
    obtain ⟨r, hr, hrounds⟩ := hevaluates.fits hx.abs.le_top
    rw [if_pos (hrounds.eq hx ▸ hr)]

/-- A checked operation is one on decimals with an exact result. -/
theorem checked_eq_some {f : Decimal → Decimal → Decimal} {a b c : Decimal}
    (h : (do unrounded (f (← unrounded a) (← unrounded b))) = some c) :
    IsDecimal a ∧ IsDecimal b ∧ IsDecimal c ∧ c = f a b := by
  simp only [Option.bind_eq_bind, Option.bind_eq_some_iff, unrounded_eq_some] at h
  obtain ⟨_, ⟨ha, rfl⟩, _, ⟨hb, rfl⟩, hc, rfl⟩ := h
  exact ⟨ha, hb, hc, rfl⟩

theorem checked_below_withExactSums (ops : DecimalOps) : ops.checked.Below ops.withExactSums where
  add a b c h := by
    obtain ⟨-, -, -, rfl⟩ := checked_eq_some (f := fun x y => x + y) h
    rfl
  sub a b c h := by
    obtain ⟨-, -, -, rfl⟩ := checked_eq_some (f := fun x y => x - y) h
    rfl
  mul a b c h := by
    obtain ⟨-, -, -, rfl⟩ := checked_eq_some (f := fun x y => x * y) h
    rfl
  div _ _ _ h := h

/-- What evaluates to a decimal is that decimal. -/
theorem evaluates_eq {x : Decimal} {result : Option Decimal} (hx : IsDecimal x)
    (h : decimalFormat.Evaluates x result) : result = some x := by
  obtain ⟨c, hc, hrounds⟩ := h.fits hx.abs.le_top
  rw [hc, hrounds.eq hx]

/-- **What is exact is computed as it is.** -/
theorem checked_below (hops : ops.Rounded) : ops.checked.Below ops where
  add a b c h := by
    obtain ⟨ha, hb, hc, rfl⟩ := checked_eq_some (f := fun x y => x + y) h
    exact evaluates_eq hc (hops.add a b ha hb)
  sub a b c h := by
    obtain ⟨ha, hb, hc, rfl⟩ := checked_eq_some (f := fun x y => x - y) h
    exact evaluates_eq hc (hops.sub a b ha hb)
  mul a b c h := by
    obtain ⟨ha, hb, hc, rfl⟩ := checked_eq_some (f := fun x y => x * y) h
    exact evaluates_eq hc (hops.mul a b ha hb)
  div _ _ _ h := h

end DecimalOps

end OkxTrading
