import Mathlib.Algebra.BigOperators.Ring.List
import OkxTrading.Properties.CostBasis
import OkxTrading.Properties.FillRows

/-!
# What fill evidence counts

An execution is counted through its fill or through its order, and not through both.  Where nothing
is rounded, what orders and fills tell of the same executions adds up to the same.

* `Booked`, `Mix` — orders with their executions, and the lists of rows that tell of them.
* `Unrounded` — rows whose readings need no rounding of a sum, difference or product.
* `fill_evidence_counts_once` — **mixes that can be read have the same position and average**.
* `fill_evidence_depends_on_rows` — fills alone can be refused, and roundings differ.
-/

namespace OkxTrading

open Effect MayPanic OrderId

/-! ## Order and repetition -/

section Readings

open StrategyFillEvidence (Accounted)

variable {evidence evidence' : List StrategyFillEvidence}

/-- Without the accounting of some row the net position fails, and always alike. -/
theorem netFilledLoop_missing (hside : ∀ e ∈ evidence, e.side = e.purpose.side)
    (hmissing : ∃ e ∈ evidence, e.accounting = none) : ∀ quantity,
      netFilledLoop evidence quantity =
        .error "strategy-tagged OKX fill is missing fee-adjusted accounting" := by
  induction evidence with
  | nil =>
      obtain ⟨_, h, _⟩ := hmissing
      cases h
  | cons first rest ih =>
      intro quantity
      obtain ⟨hfirst, hrest⟩ := List.forall_mem_cons.1 hside
      unfold netFilledLoop
      cases haccounting : first.accounting with
      | none => rfl
      | some accounting =>
          simp only [if_pos hfirst]
          obtain ⟨e, he, hnone⟩ := hmissing
          rcases List.mem_cons.1 he with rfl | he
          · cases haccounting.symm.trans hnone
          · exact ih hrest ⟨e, he, hnone⟩ _

theorem accounted_or_missing (hside : ∀ e ∈ evidence, e.side = e.purpose.side) :
    (∀ e ∈ evidence, Accounted e) ∨ ∃ e ∈ evidence, e.accounting = none := by
  by_cases hmissing : ∃ e ∈ evidence, e.accounting = none
  · exact .inr hmissing
  · refine .inl fun e he => ⟨?_, hside e he⟩
    exact Option.ne_none_iff_isSome.1 fun hnone => hmissing ⟨e, he, hnone⟩

theorem strategyNetFilledPosition_perm (hside : ∀ e ∈ evidence, e.side = e.purpose.side)
    (hperm : evidence.Perm evidence') :
    strategyNetFilledPosition evidence = strategyNetFilledPosition evidence' := by
  have hside' : ∀ e ∈ evidence', e.side = e.purpose.side :=
    fun e he => hside e (hperm.mem_iff.2 he)
  unfold strategyNetFilledPosition
  rcases accounted_or_missing hside with hall | hmissing
  · have hall' : ∀ e ∈ evidence', Accounted e := fun e he => hall e (hperm.mem_iff.2 he)
    rw [netFilledLoop_eq hall, netFilledLoop_eq hall', (sums_perm hperm).1]
  · have hmissing' : ∃ e ∈ evidence', e.accounting = none := by
      obtain ⟨e, he, hnone⟩ := hmissing
      exact ⟨e, hperm.mem_iff.1 he, hnone⟩
    rw [netFilledLoop_missing hside hmissing, netFilledLoop_missing hside' hmissing']

theorem entryTotals_perm (hperm : evidence.Perm evidence') :
    entryTotals evidence = entryTotals evidence' := by
  induction hperm with
  | nil => rfl
  | cons e _ ih => simp only [entryTotals, ih]
  | swap e e' rest =>
      simp only [entryTotals]
      by_cases h : e.purpose = .entry ∧ e.side = .buy <;>
        by_cases h' : e'.purpose = .entry ∧ e'.side = .buy <;>
        simp only [h, h', and_self, if_true, if_false]
      cases e.accounting <;> cases e'.accounting <;> cases entryTotals rest <;>
        simp only [Option.some.injEq, Prod.mk.injEq]
      constructor <;> ring
  | trans _ _ ih ih' => exact ih.trans ih'

end Readings

/-! ## What one row moved -/

/-- The number a field denotes, zero where it denotes none. -/
def DecimalText.amount : DecimalText → Decimal
  | .value d => d
  | _ => 0

/-- What of an amount is in a currency. -/
def amountIn (currency : Text) (amount : DecimalText) (amountCurrency : Text) : Decimal :=
  if amountCurrency = currency then amount.amount else 0

/-- The direction base moves in. -/
def OrderSide.sign : OrderSide → Decimal
  | .buy => 1
  | .sell => -1

/-- Size and notional of a side, with the fees in each currency. -/
def movedBy (side : Option OrderSide) (size notional baseFee quoteFee : Decimal) :
    OkxSpotFillAccounting :=
  let sign := side.elim 0 OrderSide.sign
  ⟨sign * size + baseFee, -sign * notional + quoteFee⟩

/-- What a fill moved, by its own fields. -/
def OkxFill.moved (self : OkxFill) (baseCurrency quoteCurrency : Text) : OkxSpotFillAccounting :=
  movedBy self.parsedSide self.fillSz.amount (self.fillSz.amount * self.fillPx.amount)
    (amountIn baseCurrency self.fee self.feeCurrency)
    (amountIn quoteCurrency self.fee self.feeCurrency)

/-- Fee and rebate of an order in a currency. -/
def OkxOrder.feesIn (self : OkxOrder) (currency : Text) : Decimal :=
  amountIn currency self.fee self.feeCurrency + amountIn currency self.rebate self.rebateCurrency

/-- What an order moved, by its cumulative fields. -/
def OkxOrder.moved (self : OkxOrder) (baseCurrency quoteCurrency : Text) : OkxSpotFillAccounting :=
  movedBy self.parsedSide self.filledSize (self.filledSize * self.averagePrice.amount)
    (self.feesIn baseCurrency) (self.feesIn quoteCurrency)

section Moved

variable {context : Message} {side : Option OrderSide} {size price : Decimal} {fee : DecimalText}
  {feeCurrency baseCurrency quoteCurrency : Text} {a b : OkxSpotFillAccounting}

/-- An adjustment moves its amount in its currency. -/
theorem applySpotCurrencyAdjustment_moved {field : Message} (hne : baseCurrency ≠ quoteCurrency)
    {amount : Decimal}
    (h : applySpotCurrencyAdjustment context field a amount feeCurrency baseCurrency
      quoteCurrency = .ok b) :
    b = ⟨a.baseChange + amountIn baseCurrency (.value amount) feeCurrency,
      a.quoteChange + amountIn quoteCurrency (.value amount) feeCurrency⟩ := by
  simp only [applySpotCurrencyAdjustment, bind_eq_ok, ensure_eq_ok, exists_const] at h
  obtain ⟨hcurrency, h⟩ := h
  by_cases hbase : feeCurrency = baseCurrency
  · rw [if_pos hbase, pure_eq_ok] at h
    rw [← h, amountIn, amountIn, if_pos hbase, if_neg fun hq => hne (hbase ▸ hq), add_zero]
    rfl
  · rw [if_neg hbase, pure_eq_ok] at h
    rw [← h, amountIn, amountIn, if_neg hbase, if_pos (hcurrency.resolve_left hbase), add_zero]
    rfl

theorem spotFillAccounting_moved
    (h : spotFillAccounting context side size price fee feeCurrency baseCurrency quoteCurrency =
      .ok a) :
    baseCurrency ≠ quoteCurrency ∧ a = movedBy side size (size * price)
      (amountIn baseCurrency fee feeCurrency) (amountIn quoteCurrency fee feeCurrency) := by
  simp only [spotFillAccounting, bind_eq_ok, ensure_eq_ok, exists_const] at h
  obtain ⟨-, hne, h⟩ := h
  refine ⟨hne, ?_⟩
  cases side with
  | none => cases h
  | some side =>
      obtain ⟨feeAmount, hfee, h⟩ := bind_eq_ok.1 h
      obtain ⟨adjusted, hadjusted, h⟩ := bind_eq_ok.1 h
      obtain ⟨_, -, h⟩ := bind_eq_ok.1 h
      rw [pure_eq_ok] at h
      rw [← h, applySpotCurrencyAdjustment_moved hne hadjusted, parseDecimal_eq_ok.1 hfee]
      cases side <;> simp [movedBy, OrderSide.sign]

/-- A rebate that is not given is none. -/
theorem rebate_amount {rebate : Decimal}
    (h : (if fee.isBlank then pure 0 else parseNonNegativeDecimal (context ++ " rebate") fee :
      Result Decimal) = .ok rebate) : rebate = fee.amount := by
  by_cases hblank : fee.isBlank = true
  · rw [if_pos hblank, pure_eq_ok] at h
    cases fee <;> first | exact h.symm | cases hblank
  · rw [if_neg hblank, parseNonNegativeDecimal_eq_ok] at h
    rw [h.1]
    rfl

theorem amountIn_amount {currency : Text} :
    amountIn currency (.value fee.amount) feeCurrency = amountIn currency fee feeCurrency := rfl

theorem applySpotRebate_moved (hne : baseCurrency ≠ quoteCurrency)
    (h : applySpotRebate context a fee feeCurrency baseCurrency quoteCurrency = .ok b) :
    b = ⟨a.baseChange + amountIn baseCurrency fee feeCurrency,
      a.quoteChange + amountIn quoteCurrency fee feeCurrency⟩ := by
  have hread : ∃ rebate, (if fee.isBlank then pure 0
        else parseNonNegativeDecimal (context ++ " rebate") fee : Result Decimal) = .ok rebate ∧
      (if rebate = 0 ∧ Text.isBlank feeCurrency then .ok a
        else applySpotCurrencyAdjustment context "rebateCcy" a rebate feeCurrency baseCurrency
          quoteCurrency) = .ok b := by
    unfold applySpotRebate at h
    by_cases hblank : fee.isBlank = true
    · rw [if_pos hblank] at h ⊢
      exact ⟨0, rfl, h⟩
    · rw [if_neg hblank] at h ⊢
      exact bind_eq_ok.1 h
  obtain ⟨rebate, hrebate, h⟩ := hread
  have hamount := rebate_amount hrebate
  by_cases hnone : rebate = 0 ∧ Text.isBlank feeCurrency = true
  · rw [if_pos hnone] at h
    have hzero : ∀ currency, amountIn currency fee feeCurrency = 0 := by
      intro currency
      rw [amountIn, ← hamount, hnone.1, ite_self]
    cases h
    rw [hzero, hzero, add_zero, add_zero]
  · rw [if_neg hnone] at h
    rw [applySpotCurrencyAdjustment_moved hne h, hamount, amountIn_amount, amountIn_amount]

end Moved

/-- The accounting of a fill that is accepted. -/
theorem OkxFill.spotAccounting_moved {fill : OkxFill} {baseCurrency quoteCurrency : Text}
    {a : OkxSpotFillAccounting} (h : fill.spotAccounting baseCurrency quoteCurrency = .ok a) :
    a = fill.moved baseCurrency quoteCurrency := by
  obtain ⟨size, hsize, h⟩ := bind_eq_ok.1 h
  obtain ⟨price, hprice, h⟩ := bind_eq_ok.1 h
  obtain ⟨-, rfl⟩ := spotFillAccounting_moved h
  rw [OkxFill.moved, (parsePositiveDecimal_eq_ok.1 hsize).1,
    (parsePositiveDecimal_eq_ok.1 hprice).1]
  rfl

theorem OkxOrder.averageFillPrice_amount {order : OkxOrder} {price : Decimal}
    (h : order.averageFillPrice = .ok (some price)) : order.averagePrice.amount = price := by
  unfold OkxOrder.averageFillPrice at h
  by_cases hblank : order.averagePrice.isBlank = true
  · rw [if_pos hblank] at h
    cases h
  · rw [if_neg hblank] at h
    obtain ⟨parsed, hparsed, h⟩ := bind_eq_ok.1 h
    rw [(parseNonNegativeDecimal_eq_ok.1 hparsed).1]
    by_cases hzero : parsed = 0
    · rw [if_pos hzero] at h
      obtain ⟨_, -, h⟩ := bind_eq_ok.1 h
      obtain ⟨_, -, h⟩ := bind_eq_ok.1 h
      cases h
    · rw [if_neg hzero] at h
      cases h
      rfl

theorem OkxOrder.fillSize_of_filled {order : OkxOrder} (h : 0 < order.filledSize) :
    order.fillSize = .ok order.filledSize := by
  cases hsize : order.fillSize with
  | error message =>
      rw [OkxOrder.filledSize, hsize] at h
      exact absurd h (lt_irrefl _)
  | ok size => rw [OkxOrder.filledSize, hsize]

/-- The accounting of a filled order that is accepted. -/
theorem OkxOrder.cumulativeSpotAccounting_moved {order : OkxOrder}
    {baseCurrency quoteCurrency : Text} {a : OkxSpotFillAccounting} (hfilled : 0 < order.filledSize)
    (h : order.cumulativeSpotAccounting baseCurrency quoteCurrency = .ok a) :
    a = order.moved baseCurrency quoteCurrency := by
  unfold OkxOrder.cumulativeSpotAccounting at h
  rw [OkxOrder.fillSize_of_filled hfilled, ok_bind, if_neg hfilled.ne'] at h
  obtain ⟨price?, hprice, h⟩ := bind_eq_ok.1 h
  cases price? with
  | none => cases h
  | some price =>
      obtain ⟨gross, hgross, h⟩ := bind_eq_ok.1 h
      obtain ⟨adjusted, hadjusted, h⟩ := bind_eq_ok.1 h
      obtain ⟨_, -, h⟩ := bind_eq_ok.1 h
      cases h
      obtain ⟨hne, hgross⟩ := spotFillAccounting_moved hgross
      rw [applySpotRebate_moved hne hadjusted, hgross, OkxOrder.moved, movedBy, movedBy,
        OkxOrder.averageFillPrice_amount hprice, OkxOrder.feesIn, OkxOrder.feesIn, ← add_assoc,
        ← add_assoc]

/-! ## Orders and their executions -/

/-- An order with its executions, each as the row that tells of it. -/
structure Booked where
  order : OkxOrder
  executions : List OkxFill

namespace Booked

variable (strategyTag : Text) (instrument : OkxInstrument) (booked : Booked)

/-- **Well-formed rows**: an order of the strategy reports the sums over its executions. -/
structure WellFormed : Prop where
  own : OfStrategy strategyTag booked.order.clientOrderId
  ids : ∀ fill ∈ booked.executions, fill.clientOrderId = booked.order.clientOrderId
  sides : ∀ fill ∈ booked.executions, fill.parsedSide = booked.order.parsedSide
  positive : ∀ fill ∈ booked.executions, 0 < fill.fillSz.amount
  size : booked.order.fillSize = .ok (booked.executions.map (·.fillSz.amount)).sum
  notional : booked.executions ≠ [] → ∃ price, booked.order.averageFillPrice = .ok (some price) ∧
    (booked.executions.map (·.fillSz.amount)).sum * price =
      (booked.executions.map fun fill => fill.fillSz.amount * fill.fillPx.amount).sum
  fees : ∀ currency, currency = instrument.baseCcy ∨ currency = instrument.quoteCcy →
    booked.order.feesIn currency =
      (booked.executions.map fun fill => amountIn currency fill.fee fill.feeCurrency).sum

/-- The code accepts each row for itself. -/
structure Accepted (ops : DecimalOps) : Prop where
  side : booked.order.parsedSide =
    (parseStrategyClientOrderId booked.order.clientOrderId strategyTag).map OrderPurpose.side
  executions : ∀ fill ∈ booked.executions,
    ∃ a, (ops.spotAccounting fill instrument.baseCcy instrument.quoteCcy).Returns a
  order : ∃ a,
    (ops.cumulativeSpotAccounting booked.order instrument.baseCcy instrument.quoteCcy).Returns a

end Booked

/-- Well-formed orders with ids of their own, whose executions have bill ids of their own. -/
structure WellFormedBook (strategyTag : Text) (instrument : OkxInstrument) (book : List Booked) :
    Prop where
  orders : ∀ booked ∈ book, booked.WellFormed strategyTag instrument
  orderIds : (book.map (·.order.clientOrderId)).Nodup
  billIds : ∀ fill ∈ book.flatMap (·.executions), Text.isBlank fill.billId = false
  distinct : ((book.flatMap (·.executions)).map (·.billId)).Nodup

/-- One order with its executions, given by facts that compute. -/
theorem WellFormedBook.singleton {strategyTag : Text} {instrument : OkxInstrument} {booked : Booked}
    (average : Decimal) (hown : OfStrategy strategyTag booked.order.clientOrderId)
    (hrows : ∀ fill ∈ booked.executions, fill.clientOrderId = booked.order.clientOrderId ∧
      fill.parsedSide = booked.order.parsedSide ∧ 0 < fill.fillSz.amount ∧
      Text.isBlank fill.billId = false)
    (hsize : booked.order.fillSize = .ok (booked.executions.map (·.fillSz.amount)).sum)
    (haverage : booked.order.averageFillPrice = .ok (some average))
    (hnotional : (booked.executions.map (·.fillSz.amount)).sum * average =
      (booked.executions.map fun fill => fill.fillSz.amount * fill.fillPx.amount).sum)
    (hfees : ∀ currency ∈ [instrument.baseCcy, instrument.quoteCcy],
      booked.order.feesIn currency =
        (booked.executions.map fun fill => amountIn currency fill.fee fill.feeCurrency).sum)
    (hdistinct : (booked.executions.map (·.billId)).Nodup) :
    WellFormedBook strategyTag instrument [booked] where
  orders other hother := by
    rw [List.mem_singleton.1 hother]
    exact ⟨hown, fun fill hfill => (hrows fill hfill).1, fun fill hfill => (hrows fill hfill).2.1,
      fun fill hfill => (hrows fill hfill).2.2.1, hsize,
      fun _ => ⟨average, haverage, hnotional⟩,
      fun currency hcurrency => hfees currency (by simpa using hcurrency)⟩
  orderIds := List.nodup_singleton _
  billIds := by simpa using fun fill hfill => (hrows fill hfill).2.2.2
  distinct := by simpa using hdistinct

/-- Rows of the strategy that tell of a book: an order at most once, executions any number of
times; other rows may be anything. -/
structure RowsOf (strategyTag : Text) (book : List Booked) (orders : List OkxOrder)
    (fills : List OkxFill) : Prop where
  executed : ∀ fill ∈ fills, OfStrategy strategyTag fill.clientOrderId →
    fill ∈ book.flatMap (·.executions)
  listed : ∀ order ∈ orders, OfStrategy strategyTag order.clientOrderId →
    order ∈ book.map (·.order)
  once : (orders.filter fun order => decide (OfStrategy strategyTag order.clientOrderId)).Nodup

/-- **A mix**: each order is covered by all its executions, or by none and listed. -/
structure Mix (strategyTag : Text) (book : List Booked) (orders : List OkxOrder)
    (fills : List OkxFill) : Prop extends RowsOf strategyTag book orders fills where
  covered : ∀ booked ∈ book, (∀ fill ∈ booked.executions, fill ∈ fills) ∨
    (∀ fill ∈ booked.executions, fill ∉ fills) ∧ booked.order ∈ orders

/-! ## Sums -/

section Sums

variable (strategyTag : Text) (instrument : OkxInstrument)

/-- Base, base of an entry and cost of an entry. -/
def amounts (entry : Bool) (a : OkxSpotFillAccounting) : Decimal × Decimal × Decimal :=
  (a.baseChange, if entry then a.baseChange else 0, if entry then -a.quoteChange else 0)

/-- Base, entry base and entry cost of a row. -/
def StrategyFillEvidence.amounts (self : StrategyFillEvidence) : Decimal × Decimal × Decimal :=
  (self.base, if self.isEntry then self.base else 0, if self.isEntry then self.cost else 0)

/-- The id is one of an entry order. -/
def isEntryId (clientOrderId : Text) : Bool :=
  decide (parseStrategyClientOrderId clientOrderId strategyTag = some .entry)

/-- The same of a fill. -/
def OkxFill.amounts (self : OkxFill) : Decimal × Decimal × Decimal :=
  OkxTrading.amounts (isEntryId strategyTag self.clientOrderId)
    (self.moved instrument.baseCcy instrument.quoteCcy)

/-- The same of an order. -/
def OkxOrder.amounts (self : OkxOrder) : Decimal × Decimal × Decimal :=
  OkxTrading.amounts (isEntryId strategyTag self.clientOrderId)
    (self.moved instrument.baseCcy instrument.quoteCcy)

variable {ops : DecimalOps} {strategyTag instrument}

theorem sum_amounts (evidence : List StrategyFillEvidence) :
    (evidence.map (·.amounts)).sum =
      (netBase evidence, entryQuantity evidence, entryCost evidence) := by
  induction evidence with
  | nil => rfl
  | cons e rest ih =>
      rw [List.map_cons, List.sum_cons, ih]
      cases hentry : e.isEntry <;>
        simp [StrategyFillEvidence.amounts, netBase, entryQuantity, entryCost, hentry]

theorem amounts_of_row {row : StrategyFillEvidence} {id : Text} {a : OkxSpotFillAccounting}
    (hpurpose : parseStrategyClientOrderId id strategyTag = some row.purpose)
    (ha : row.accounting = some a) :
    row.amounts = OkxTrading.amounts (isEntryId strategyTag id) a := by
  have hentry : row.isEntry = isEntryId strategyTag id := by
    rw [StrategyFillEvidence.isEntry, isEntryId, hpurpose]
    simp
  rw [StrategyFillEvidence.amounts, hentry, StrategyFillEvidence.base, StrategyFillEvidence.cost,
    ha]
  rfl

theorem FillRow.amounts (hops : ops.ExactSums) {fill : OkxFill} {row : StrategyFillEvidence}
    (h : FillRow ops strategyTag instrument fill row) :
    row.amounts = fill.amounts strategyTag instrument := by
  obtain ⟨a, ha, haccounting⟩ := h.accounting
  rw [hops.spotAccounting, liftM_returns] at ha
  rw [amounts_of_row h.purpose haccounting, OkxFill.spotAccounting_moved ha]
  rfl

/-- A row of an order that says its price is accounted. -/
theorem OrderRow.accounted {order : OkxOrder} {row : StrategyFillEvidence} {price : Decimal}
    (h : OrderRow ops strategyTag instrument order row)
    (hprice : order.averageFillPrice = .ok (some price)) :
    ∃ a, (ops.cumulativeSpotAccounting order instrument.baseCcy instrument.quoteCcy).Returns a ∧
      row.accounting = some a := by
  have haccounting := h.accounting
  rw [DecimalOps.accountingIfPriced, hprice, liftM_ok, pure_bind] at haccounting
  simp only [Option.isSome_some, if_true, map_eq_pure_bind, bind_returns, pure_returns]
    at haccounting
  obtain ⟨a, ha, haccounting⟩ := haccounting
  exact ⟨a, ha, haccounting.symm⟩

theorem OrderRow.amounts (hops : ops.ExactSums) {order : OkxOrder} {row : StrategyFillEvidence}
    {price : Decimal} (h : OrderRow ops strategyTag instrument order row)
    (hfilled : 0 < order.filledSize)
    (hprice : order.averageFillPrice = .ok (some price)) :
    row.amounts = order.amounts strategyTag instrument := by
  obtain ⟨a, ha, haccounting⟩ := h.accounted hprice
  rw [hops.cumulativeSpotAccounting, liftM_returns] at ha
  rw [amounts_of_row h.purpose haccounting, OkxOrder.cumulativeSpotAccounting_moved hfilled ha]
  rfl

/-- Amounts add up with accountings. -/
theorem amounts_sum (entry : Bool) (parts : List OkxSpotFillAccounting) :
    OkxTrading.amounts entry ⟨(parts.map (·.baseChange)).sum, (parts.map (·.quoteChange)).sum⟩ =
      (parts.map (OkxTrading.amounts entry)).sum := by
  induction parts with
  | nil => cases entry <;> simp [OkxTrading.amounts]
  | cons a rest ih =>
      simp only [List.map_cons, List.sum_cons, ← ih]
      cases entry <;> simp [OkxTrading.amounts]
      ring

end Sums

namespace Booked

variable {strategyTag : Text} {instrument : OkxInstrument} {booked : Booked}

theorem WellFormed.filledSize (h : booked.WellFormed strategyTag instrument) :
    booked.order.filledSize = (booked.executions.map (·.fillSz.amount)).sum := by
  rw [OkxOrder.filledSize, h.size]

theorem WellFormed.filled (h : booked.WellFormed strategyTag instrument)
    (hne : booked.executions ≠ []) : 0 < booked.order.filledSize := by
  rw [h.filledSize]
  refine List.sum_pos _ (fun x hx => ?_) (by simpa using hne)
  obtain ⟨fill, hfill, rfl⟩ := List.mem_map.1 hx
  exact h.positive fill hfill

/-- **What an order moved is what its executions moved**, fees and rebate included. -/
theorem WellFormed.moved (h : booked.WellFormed strategyTag instrument)
    (hne : booked.executions ≠ []) :
    booked.order.moved instrument.baseCcy instrument.quoteCcy =
      ⟨((booked.executions.map (·.moved instrument.baseCcy instrument.quoteCcy)).map
          (·.baseChange)).sum,
        ((booked.executions.map (·.moved instrument.baseCcy instrument.quoteCcy)).map
          (·.quoteChange)).sum⟩ := by
  obtain ⟨price, hprice, hnotional⟩ := h.notional hne
  rw [OkxOrder.moved, OkxOrder.averageFillPrice_amount hprice, h.filledSize, hnotional,
    h.fees _ (.inl rfl), h.fees _ (.inr rfl)]
  have hmoved : booked.executions.map (·.moved instrument.baseCcy instrument.quoteCcy) =
      booked.executions.map fun fill => movedBy booked.order.parsedSide fill.fillSz.amount
        (fill.fillSz.amount * fill.fillPx.amount)
        (amountIn instrument.baseCcy fill.fee fill.feeCurrency)
        (amountIn instrument.quoteCcy fill.fee fill.feeCurrency) := by
    refine List.map_congr_left fun fill hfill => ?_
    rw [OkxFill.moved, h.sides fill hfill]
  rw [hmoved, movedBy, List.map_map, List.map_map]
  simp only [Function.comp_def, movedBy, List.sum_map_add, List.sum_map_mul_left]

theorem WellFormed.amounts (h : booked.WellFormed strategyTag instrument)
    (hne : booked.executions ≠ []) :
    booked.order.amounts strategyTag instrument =
      (booked.executions.map (·.amounts strategyTag instrument)).sum := by
  rw [OkxOrder.amounts, h.moved hne, amounts_sum, List.map_map]
  congr 1
  refine List.map_congr_left fun fill hfill => ?_
  rw [OkxFill.amounts, h.ids fill hfill]
  rfl

end Booked

/-! ## Mixes -/

section Mixes

open StrategyFillEvidence (Accounted)

variable {ops : DecimalOps} {strategyTag : Text} {instrument : OkxInstrument} {book : List Booked}
  {orders : List OkxOrder} {fills : List OkxFill} {evidence : List StrategyFillEvidence}

namespace WellFormedBook

variable (hbook : WellFormedBook strategyTag instrument book)

include hbook

theorem nodup : (book.flatMap (·.executions)).Nodup := hbook.distinct.of_map

theorem orders_nodup : (book.map (·.order)).Nodup := by
  refine List.Nodup.of_map (·.clientOrderId) ?_
  rw [List.map_map]
  exact hbook.orderIds

/-- An execution's key is its bill id. -/
theorem dedupeKey {fill : OkxFill} (hfill : fill ∈ book.flatMap (·.executions)) :
    fill.dedupeKey = fill.billId := by
  rw [OkxFill.dedupeKey, if_pos (by rw [hbook.billIds fill hfill]; exact Bool.false_ne_true)]

theorem dedupeKey_ne {fill : OkxFill} (hfill : fill ∈ book.flatMap (·.executions)) :
    fill.dedupeKey ≠ [] := by
  rw [hbook.dedupeKey hfill]
  intro h
  have hblank := hbook.billIds fill hfill
  rw [h] at hblank
  cases hblank

/-- Executions of one id belong to one order. -/
theorem same_order {booked booked' : Booked} (hmem : booked ∈ book) (hmem' : booked' ∈ book)
    (h : booked.order.clientOrderId = booked'.order.clientOrderId) : booked = booked' :=
  List.inj_on_of_nodup_map hbook.orderIds hmem hmem' h

theorem identified (hrows : RowsOf strategyTag book orders fills) :
    Identified strategyTag fills := by
  intro fill hfill fill' hfill' hown hown' hkey
  have hmem := hrows.executed fill hfill hown
  have hmem' := hrows.executed fill' hfill' hown'
  rw [hbook.dedupeKey hmem, hbook.dedupeKey hmem'] at hkey
  exact List.inj_on_of_nodup_map hbook.distinct hmem hmem' hkey

end WellFormedBook

/-- All executions of the order are listed. -/
def Booked.Covered (fills : List OkxFill) (booked : Booked) : Prop :=
  ∀ fill ∈ booked.executions, fill ∈ fills

instance (booked : Booked) : Decidable (booked.Covered fills) :=
  inferInstanceAs (Decidable (∀ _ ∈ _, _))

theorem Booked.executions_ne {booked : Booked} (h : ¬ booked.Covered fills) :
    booked.executions ≠ [] := by
  intro hnil
  exact h fun fill hfill => by rw [hnil] at hfill; cases hfill

namespace Mix

variable (hbook : WellFormedBook strategyTag instrument book)
  (hmix : Mix strategyTag book orders fills)

include hbook hmix

/-- The counted fills are the executions of the covered orders. -/
theorem countedFills :
    (countedFills strategyTag fills []).Perm
      ((book.filter fun booked => decide (booked.Covered fills)).flatMap (·.executions)) := by
  have hsub : ((book.filter fun booked => decide (booked.Covered fills)).flatMap
      (·.executions)).Sublist (book.flatMap (·.executions)) :=
    List.filter_sublist.flatMap _
  refine (List.perm_ext_iff_of_nodup countedFills_nodup.of_map (hbook.nodup.sublist hsub)).2 ?_
  intro fill
  rw [mem_countedFills (hbook.identified hmix.toRowsOf), List.mem_flatMap]
  constructor
  · rintro ⟨hfill, hown⟩
    obtain ⟨booked, hmem, hexecution⟩ := List.mem_flatMap.1 (hmix.executed fill hfill hown)
    refine ⟨booked, List.mem_filter.2 ⟨hmem, decide_eq_true ?_⟩, hexecution⟩
    exact (hmix.covered booked hmem).resolve_right fun h => h.1 fill hexecution hfill
  · rintro ⟨booked, hbooked, hexecution⟩
    obtain ⟨hmem, hcovered⟩ := List.mem_filter.1 hbooked
    have hwell := hbook.orders booked hmem
    exact ⟨of_decide_eq_true hcovered fill hexecution, hwell.ids fill hexecution ▸ hwell.own⟩

/-- The counted orders are the others. -/
theorem countedOrders :
    (countedOrders strategyTag
    ((OkxTrading.countedFills strategyTag fills []).map (·.clientOrderId))
      orders).Perm
      ((book.filter fun booked => !decide (booked.Covered fills)).map (·.order)) := by
  have hids : ∀ id : Text,
      id ∈ (OkxTrading.countedFills strategyTag fills []).map (·.clientOrderId) ↔
        ∃ booked ∈ book, booked.Covered fills ∧ booked.executions ≠ [] ∧
          booked.order.clientOrderId = id := by
    intro id
    rw [((hmix.countedFills hbook).map _).mem_iff, List.mem_map]
    constructor
    · rintro ⟨fill, hfill, rfl⟩
      obtain ⟨booked, hbooked, hexecution⟩ := List.mem_flatMap.1 hfill
      obtain ⟨hmem, hcovered⟩ := List.mem_filter.1 hbooked
      exact ⟨booked, hmem, of_decide_eq_true hcovered, List.ne_nil_of_mem hexecution,
        ((hbook.orders booked hmem).ids fill hexecution).symm⟩
    · rintro ⟨booked, hmem, hcovered, hne, rfl⟩
      obtain ⟨fill, hexecution⟩ := List.exists_mem_of_ne_nil _ hne
      exact ⟨fill, List.mem_flatMap.2 ⟨booked, List.mem_filter.2 ⟨hmem, decide_eq_true hcovered⟩,
        hexecution⟩, (hbook.orders booked hmem).ids fill hexecution⟩
  have hnodup : (OkxTrading.countedOrders strategyTag
      ((OkxTrading.countedFills strategyTag fills []).map (·.clientOrderId)) orders).Nodup := by
    refine hmix.once.sublist (List.monotone_filter_right _ fun order horder => ?_)
    exact decide_eq_true (of_decide_eq_true horder).1
  have hnodup' : ((book.filter fun booked => !decide (booked.Covered fills)).map
      (·.order)).Nodup := hbook.orders_nodup.sublist (List.filter_sublist.map _)
  refine (List.perm_ext_iff_of_nodup hnodup hnodup').2 fun order => ?_
  rw [OkxTrading.countedOrders, List.mem_filter, decide_eq_true_eq, hids, List.mem_map]
  constructor
  · rintro ⟨horder, hown, hfree, hfilled⟩
    obtain ⟨booked, hmem, rfl⟩ := List.mem_map.1 (hmix.listed order horder hown)
    refine ⟨booked, List.mem_filter.2 ⟨hmem, ?_⟩, rfl⟩
    rw [Bool.not_eq_true', decide_eq_false_iff_not]
    intro hcovered
    refine hfree ⟨booked, hmem, hcovered, ?_, rfl⟩
    rintro hnil
    rw [(hbook.orders booked hmem).filledSize, hnil] at hfilled
    exact lt_irrefl _ hfilled
  · rintro ⟨booked, hbooked, rfl⟩
    obtain ⟨hmem, hnot⟩ := List.mem_filter.1 hbooked
    rw [Bool.not_eq_true', decide_eq_false_iff_not] at hnot
    have hwell := hbook.orders booked hmem
    obtain ⟨-, hlisted⟩ := (hmix.covered booked hmem).resolve_left hnot
    refine ⟨hlisted, hwell.own, ?_, hwell.filled (Booked.executions_ne hnot)⟩
    rintro ⟨booked', hmem', hcovered, -, hid⟩
    exact hnot (hbook.same_order hmem' hmem hid ▸ hcovered)

/-- A counted order is one of the book with executions, none of them listed. -/
theorem of_countedOrders {order : OkxOrder}
    (h : order ∈ OkxTrading.countedOrders strategyTag
      ((OkxTrading.countedFills strategyTag fills []).map (·.clientOrderId)) orders) :
    ∃ booked ∈ book, booked.order = order ∧ booked.executions ≠ [] := by
  obtain ⟨booked, hbooked, rfl⟩ := List.mem_map.1 ((hmix.countedOrders hbook).mem_iff.1 h)
  obtain ⟨hmem, hnot⟩ := List.mem_filter.1 hbooked
  rw [Bool.not_eq_true', decide_eq_false_iff_not] at hnot
  exact ⟨booked, hmem, rfl, Booked.executions_ne hnot⟩

/-- Every row of its evidence is accounted. -/
theorem accounted
    (h : (ops.strategyFillEvidence orders fills strategyTag instrument).Returns evidence) :
    ∀ e ∈ evidence, Accounted e := by
  obtain ⟨-, -, fillRows, orderRows, hfillRows, horderRows, rfl⟩ := strategyFillEvidence_returns.1 h
  intro e he
  rcases List.mem_append.1 he with he | he
  · obtain ⟨fill, -, hrow⟩ := exists_of_mem_forall₂ hfillRows e he
    obtain ⟨a, -, ha⟩ := hrow.accounting
    exact ⟨by rw [ha]; rfl, hrow.expected⟩
  · obtain ⟨order, horder, hrow⟩ := exists_of_mem_forall₂ horderRows e he
    obtain ⟨booked, hmem, rfl, hne⟩ := hmix.of_countedOrders hbook horder
    obtain ⟨price, hprice, -⟩ := (hbook.orders booked hmem).notional hne
    obtain ⟨a, -, ha⟩ := hrow.accounted hprice
    exact ⟨by rw [ha]; rfl, hrow.expected⟩

/-- **The evidence of a mix adds up to the book.** -/
theorem sums (hops : ops.ExactSums)
    (h : (ops.strategyFillEvidence orders fills strategyTag instrument).Returns evidence) :
    (evidence.map (·.amounts)).sum =
      (book.map fun booked =>
        (booked.executions.map (·.amounts strategyTag instrument)).sum).sum := by
  obtain ⟨-, -, fillRows, orderRows, hfillRows, horderRows, rfl⟩ := strategyFillEvidence_returns.1 h
  have hfills : (fillRows.map (·.amounts)).sum =
      ((book.filter fun booked => decide (booked.Covered fills)).map fun booked =>
        (booked.executions.map (·.amounts strategyTag instrument)).sum).sum := by
    rw [map_eq_of_forall₂ hfillRows fun _ _ _ hrow => hrow.amounts hops,
      ((hmix.countedFills hbook).map _).sum_eq, List.map_flatMap, List.flatMap_def,
      List.sum_flatten, List.map_map]
    rfl
  have horders : (orderRows.map (·.amounts)).sum =
      ((book.filter fun booked => !decide (booked.Covered fills)).map fun booked =>
        (booked.executions.map (·.amounts strategyTag instrument)).sum).sum := by
    have hrows : orderRows.map (·.amounts) = (OkxTrading.countedOrders strategyTag
        ((OkxTrading.countedFills strategyTag fills []).map (·.clientOrderId)) orders).map
          (·.amounts strategyTag instrument) := by
      refine map_eq_of_forall₂ horderRows fun order horder row hrow => ?_
      obtain ⟨booked, hmem, rfl, hne⟩ := hmix.of_countedOrders hbook horder
      obtain ⟨price, hprice, -⟩ := (hbook.orders booked hmem).notional hne
      exact hrow.amounts hops ((hbook.orders booked hmem).filled hne) hprice
    rw [hrows, ((hmix.countedOrders hbook).map _).sum_eq, List.map_map]
    congr 1
    refine List.map_congr_left fun booked hbooked => ?_
    obtain ⟨hmem, hnot⟩ := List.mem_filter.1 hbooked
    rw [Bool.not_eq_true', decide_eq_false_iff_not] at hnot
    exact (hbook.orders booked hmem).amounts (Booked.executions_ne hnot)
  rw [List.map_append, List.sum_append, hfills, horders, ← List.sum_append, ← List.map_append]
  exact ((List.filter_append_perm _ book).map _).sum_eq

end Mix

/-! ## Each execution once -/

/-- The evidence tells of distinct executions, of all that are listed, and of filled orders none
of whose executions is among them. -/
structure CountedOnce (ops : DecimalOps) (strategyTag : Text) (instrument : OkxInstrument)
    (orders : List OkxOrder) (fills : List OkxFill) (evidence : List StrategyFillEvidence)
    (executions : List OkxFill) (filledOrders : List OkxOrder) : Prop where
  rows : ∃ fillRows orderRows,
    List.Forall₂ (FillRow ops strategyTag instrument) executions fillRows ∧
      List.Forall₂ (OrderRow ops strategyTag instrument) filledOrders orderRows ∧
      evidence = fillRows ++ orderRows
  distinct : (executions.map (·.dedupeKey)).Nodup
  listed : ∀ fill ∈ executions, fill ∈ fills
  complete : ∀ fill ∈ fills, OfStrategy strategyTag fill.clientOrderId →
    ∃ execution ∈ executions, execution.dedupeKey = fill.dedupeKey
  ordered : filledOrders.Sublist orders
  separate : ∀ order ∈ filledOrders, ∀ execution ∈ executions,
    execution.clientOrderId ≠ order.clientOrderId

theorem countedOnce
    (h : (ops.strategyFillEvidence orders fills strategyTag instrument).Returns evidence) :
    CountedOnce ops strategyTag instrument orders fills evidence
      (countedFills strategyTag fills [])
      (countedOrders strategyTag ((countedFills strategyTag fills []).map (·.clientOrderId))
        orders) where
  rows := (strategyFillEvidence_returns.1 h).2.2
  distinct := countedFills_nodup
  listed fill hfill := (mem_of_countedFills hfill).1
  complete fill hfill hown := countedFills_covers hfill hown List.not_mem_nil
  ordered := List.filter_sublist
  separate order horder execution hexecution hid := by
    have hfree := (of_decide_eq_true (List.mem_filter.1 horder).2).2.1
    exact hfree (List.mem_map.2 ⟨execution, hexecution, hid⟩)

/-! ## Exact readings -/

/-- Where sums are exact, the readings are those of the exact position and totals. -/
theorem evidenceReadings_returns (hops : ops.ExactSums)
    {r : Result Decimal × Result EntryAveragePriceStatus} :
    (ops.evidenceReadings orders fills strategyTag instrument).Returns r ↔
      ∃ evidence, (ops.strategyFillEvidence orders fills strategyTag instrument).Returns evidence ∧
        strategyNetFilledPosition evidence = r.1 ∧
        (ops.averageOfTotals (entryTotals evidence)).attempt.Returns r.2 := by
  unfold DecimalOps.evidenceReadings
  simp only [bind_returns, hops.strategyNetFilledPosition, hops.strategyEntryAveragePrice,
    attempt_liftM, pure_returns]
  constructor
  · rintro ⟨evidence, hevidence, _, rfl, average, haverage, rfl⟩
    exact ⟨evidence, hevidence, rfl, haverage⟩
  · rintro ⟨evidence, hevidence, hposition, haverage⟩
    exact ⟨evidence, hevidence, _, hposition, _, haverage, rfl⟩

/-- Accounted evidence is read through its sums. -/
theorem readings_eq {evidence' : List StrategyFillEvidence} (h : ∀ e ∈ evidence, Accounted e)
    (h' : ∀ e ∈ evidence', Accounted e)
    (hsums : (evidence.map (·.amounts)).sum = (evidence'.map (·.amounts)).sum) :
    strategyNetFilledPosition evidence = strategyNetFilledPosition evidence' ∧
      entryTotals evidence = entryTotals evidence' := by
  rw [sum_amounts, sum_amounts, Prod.mk.injEq, Prod.mk.injEq] at hsums
  obtain ⟨hbase, hquantity, hcost⟩ := hsums
  constructor
  · unfold strategyNetFilledPosition
    rw [netFilledLoop_eq h, netFilledLoop_eq h', hbase]
  · rw [entryTotals_eq h, entryTotals_eq h', hquantity, hcost]

/-- All mixes of a book that can be read read the same. -/
theorem Mix.readings_eq (hops : ops.ExactSums) (hbook : WellFormedBook strategyTag instrument book)
    (hmix : Mix strategyTag book orders fills) {orders' : List OkxOrder} {fills' : List OkxFill}
    (hmix' : Mix strategyTag book orders' fills')
    {r r' : Result Decimal × Result EntryAveragePriceStatus}
    (h : (ops.evidenceReadings orders fills strategyTag instrument).Returns r)
    (h' : (ops.evidenceReadings orders' fills' strategyTag instrument).Returns r') : r = r' := by
  obtain ⟨evidence, hevidence, hposition, haverage⟩ := (evidenceReadings_returns hops).1 h
  obtain ⟨evidence', hevidence', hposition', haverage'⟩ := (evidenceReadings_returns hops).1 h'
  have hsums := (hmix.sums hbook hops hevidence).trans (hmix'.sums hbook hops hevidence').symm
  obtain ⟨hsame, htotals⟩ := OkxTrading.readings_eq (hmix.accounted hbook hevidence)
    (hmix'.accounted hbook hevidence') hsums
  rw [← htotals] at haverage'
  exact Prod.ext (hposition.symm.trans (hsame.trans hposition')) (haverage.unique haverage')

/-- Rows the code accepts make evidence. -/
theorem Mix.known (hbook : WellFormedBook strategyTag instrument book)
    (haccepted : ∀ booked ∈ book, booked.Accepted strategyTag instrument ops)
    (hmix : Mix strategyTag book orders fills) :
    ∃ evidence,
      (ops.strategyFillEvidence orders fills strategyTag instrument).Returns evidence := by
  have hexpected : ∀ {booked : Booked}, booked ∈ book →
      ∃ purpose, parseStrategyClientOrderId booked.order.clientOrderId strategyTag = some purpose ∧
        booked.order.parsedSide = some purpose.side := by
    intro booked hmem
    obtain ⟨purpose, hpurpose⟩ := Option.isSome_iff_exists.1 (hbook.orders booked hmem).own
    exact ⟨purpose, hpurpose, by rw [(haccepted booked hmem).side, hpurpose]; rfl⟩
  obtain ⟨fillRows, hfillRows⟩ : ∃ rows, List.Forall₂ (FillRow ops strategyTag instrument)
      (OkxTrading.countedFills strategyTag fills []) rows := by
    refine exists_forall₂ fun fill hfill => ?_
    obtain ⟨hlisted, hown, -⟩ := mem_of_countedFills hfill
    obtain ⟨booked, hmem, hexecution⟩ := List.mem_flatMap.1 (hmix.executed fill hlisted hown)
    obtain ⟨purpose, hpurpose, hside⟩ := hexpected hmem
    obtain ⟨a, ha⟩ := (haccepted booked hmem).executions fill hexecution
    have hwell := hbook.orders booked hmem
    refine ⟨⟨purpose, purpose.side, some a⟩, ?_, ?_, rfl, a, ha, rfl⟩
    · rw [hwell.ids fill hexecution, hpurpose]
    · rw [hwell.sides fill hexecution, hside]
  obtain ⟨orderRows, horderRows⟩ : ∃ rows, List.Forall₂ (OrderRow ops strategyTag instrument)
      (OkxTrading.countedOrders strategyTag
        ((OkxTrading.countedFills strategyTag fills []).map (·.clientOrderId)) orders) rows := by
    refine exists_forall₂ fun order horder => ?_
    obtain ⟨booked, hmem, rfl, hne⟩ := hmix.of_countedOrders hbook horder
    obtain ⟨purpose, hpurpose, hside⟩ := hexpected hmem
    obtain ⟨a, ha⟩ := (haccepted booked hmem).order
    obtain ⟨price, hprice, -⟩ := (hbook.orders booked hmem).notional hne
    refine ⟨⟨purpose, purpose.side, some a⟩, hpurpose, hside, rfl, ?_⟩
    rw [DecimalOps.accountingIfPriced, hprice, liftM_ok, pure_bind]
    simp only [Option.isSome_some, if_true, map_eq_pure_bind, bind_returns, pure_returns]
    exact ⟨a, ha, rfl⟩
  refine ⟨_, strategyFillEvidence_returns.2
    ⟨fun fill hfill hown => hbook.dedupeKey_ne (hmix.executed fill hfill hown), ?_,
      fillRows, orderRows, hfillRows, horderRows, rfl⟩⟩
  intro order horder hown _
  obtain ⟨booked, hmem, rfl⟩ := List.mem_map.1 (hmix.listed order horder hown)
  exact ⟨_, (hbook.orders booked hmem).size⟩

/-- Unless a sum panics, the position of accounted evidence is found. -/
theorem netFilledLoop_known (h : ∀ e ∈ evidence, Accounted e) : ∀ quantity,
    (ops.netFilledLoop evidence quantity).Panics ∨
      ∃ position, (ops.netFilledLoop evidence quantity).Returns position := by
  induction evidence with
  | nil => exact fun quantity => .inr ⟨quantity, pure_returns.2 rfl⟩
  | cons first rest ih =>
      intro quantity
      obtain ⟨hfirst, hrest⟩ := List.forall_mem_cons.1 h
      obtain ⟨accounting, haccounting⟩ := Option.isSome_iff_exists.1 hfirst.accounted
      unfold DecimalOps.netFilledLoop
      simp only [haccounting, if_pos hfirst.side]
      cases ops.add quantity accounting.baseChange with
      | none => exact .inl rfl
      | some sum => exact ih hrest sum

/-- Accounted evidence has a position, unless reading it panics. -/
theorem evidenceReadings_known
    (hevidence : (ops.strategyFillEvidence orders fills strategyTag instrument).Returns evidence)
    (haccounted : ∀ e ∈ evidence, Accounted e)
    (h : ¬ (ops.evidenceReadings orders fills strategyTag instrument).Panics) :
    ∃ position average,
      (ops.evidenceReadings orders fills strategyTag instrument).Returns
        (.ok position, average) := by
  have hreadings : ops.evidenceReadings orders fills strategyTag instrument =
      (do return (← (ops.strategyNetFilledPosition evidence).attempt,
        ← (ops.strategyEntryAveragePrice evidence).attempt)) := bind_of_returns hevidence
  rw [hreadings] at h ⊢
  have hposition : (ops.strategyNetFilledPosition evidence).Panics ∨
      ∃ position, (ops.strategyNetFilledPosition evidence).Returns position := by
    rcases netFilledLoop_known haccounted 0 with hpanics | ⟨position, hposition⟩
    · exact .inl (bind_panics hpanics)
    · exact .inr ⟨max position 0, bind_returns.2 ⟨position, hposition, pure_returns.2 rfl⟩⟩
  rcases hposition with hpanics | ⟨position, hposition⟩
  · exact absurd (bind_panics (attempt_panics hpanics)) h
  · rw [bind_of_returns (attempt_returns.2 hposition)] at h ⊢
    rcases haverage : (ops.strategyEntryAveragePrice evidence).run with _ | average
    · exact absurd (bind_panics (attempt_panics haverage)) h
    · refine ⟨position, average, bind_returns.2 ⟨average, ?_, pure_returns.2 rfl⟩⟩
      exact attempt_returns.2 haverage

theorem RowsOf.congr {orders' : List OkxOrder} {fills' : List OkxFill}
    (hrows : RowsOf strategyTag book orders fills) (horders : orders.Perm orders')
    (hfills : ∀ fill, OfStrategy strategyTag fill.clientOrderId →
      (fill ∈ fills ↔ fill ∈ fills')) : RowsOf strategyTag book orders' fills' where
  executed fill hfill hown := hrows.executed fill ((hfills fill hown).2 hfill) hown
  listed order horder hown := hrows.listed order (horders.mem_iff.2 horder) hown
  once := (horders.filter _).nodup hrows.once

/-- One direction of `permuted` below. -/
theorem evidenceReadings_perm (hops : ops.ExactSums) {orders' : List OkxOrder}
    {fills' : List OkxFill} (hbook : WellFormedBook strategyTag instrument book)
    (hrows : RowsOf strategyTag book orders fills) (horders : orders.Perm orders')
    (hfills : ∀ fill, OfStrategy strategyTag fill.clientOrderId → (fill ∈ fills ↔ fill ∈ fills'))
    {r : Result Decimal × Result EntryAveragePriceStatus}
    (h : (ops.evidenceReadings orders fills strategyTag instrument).Returns r) :
    (ops.evidenceReadings orders' fills' strategyTag instrument).Returns r := by
  obtain ⟨evidence, hevidence, hposition, haverage⟩ := (evidenceReadings_returns hops).1 h
  obtain ⟨evidence', hevidence', hperm⟩ := strategyFillEvidence_perm (hbook.identified hrows)
    horders (hbook.identified (hrows.congr horders hfills)) hfills hevidence
  rw [strategyNetFilledPosition_perm (strategyFillEvidence_side hevidence) hperm] at hposition
  rw [entryTotals_perm hperm] at haverage
  exact (evidenceReadings_returns hops).2 ⟨evidence', hevidence', hposition, haverage⟩

/-! ## Readings without rounding -/

/-- Reading these rows rounds no sum, difference or product, and none of them and no quotient
overflows. -/
def Unrounded (ops : DecimalOps) (strategyTag : Text) (instrument : OkxInstrument)
    (orders : List OkxOrder) (fills : List OkxFill) : Prop :=
  ¬ (ops.checked.evidenceReadings orders fills strategyTag instrument).Panics

instance : Decidable (Unrounded ops strategyTag instrument orders fills) :=
  inferInstanceAs (Decidable (¬ _))

/-- Such rows are read as if sums were exact. -/
theorem Unrounded.returns_iff (hops : ops.Rounded)
    (h : Unrounded ops strategyTag instrument orders fills)
    {r : Result Decimal × Result EntryAveragePriceStatus} :
    (ops.evidenceReadings orders fills strategyTag instrument).Returns r ↔
      (ops.withExactSums.evidenceReadings orders fills strategyTag instrument).Returns r := by
  have hrounded := (DecimalOps.checked_below hops).evidenceReadings orders fills strategyTag
    instrument
  have hexact := ops.checked_below_withExactSums.evidenceReadings orders fills strategyTag
    instrument
  unfold Returns
  rw [hrounded.run_eq h, hexact.run_eq h]

/-- The orders alone are a mix. -/
theorem mix_ordersAlone (hbook : WellFormedBook strategyTag instrument book) :
    Mix strategyTag book (book.map (·.order)) [] where
  executed := List.forall_mem_nil _
  listed _ horder _ := horder
  once := hbook.orders_nodup.filter _
  covered _ hmem := .inr ⟨fun _ _ => List.not_mem_nil, List.mem_map_of_mem hmem⟩

/-- The fills alone are a mix. -/
theorem mix_fillsAlone : Mix strategyTag book [] (book.flatMap (·.executions)) where
  executed _ hfill _ := hfill
  listed := List.forall_mem_nil _
  once := List.nodup_nil
  covered _ hmem := .inl fun _ hexecution => List.mem_flatMap.2 ⟨_, hmem, hexecution⟩

/-- **Fill evidence counts each execution once**: whatever rounds; where nothing is rounded, mixes
of a book that can be read read the same, and order and repetition change nothing; a mix can be
read where the code accepts each row. -/
structure EvidenceCountsOnce (ops : DecimalOps) (strategyTag : Text) (instrument : OkxInstrument)
    (book : List Booked) : Prop where
  mixes : ∀ {orders orders' : List OkxOrder} {fills fills' : List OkxFill}
    {r r' : Result Decimal × Result EntryAveragePriceStatus},
    Mix strategyTag book orders fills → Mix strategyTag book orders' fills' →
    Unrounded ops strategyTag instrument orders fills →
    Unrounded ops strategyTag instrument orders' fills' →
    (ops.evidenceReadings orders fills strategyTag instrument).Returns r →
    (ops.evidenceReadings orders' fills' strategyTag instrument).Returns r' → r = r'
  known : (∀ booked ∈ book, booked.Accepted strategyTag instrument ops) →
    ∀ {orders : List OkxOrder} {fills : List OkxFill}, Mix strategyTag book orders fills →
      ¬ (ops.evidenceReadings orders fills strategyTag instrument).Panics →
      ∃ position average,
        (ops.evidenceReadings orders fills strategyTag instrument).Returns (.ok position, average)
  permuted : ∀ {orders orders' : List OkxOrder} {fills fills' : List OkxFill},
    RowsOf strategyTag book orders fills → orders.Perm orders' →
    (∀ fill, OfStrategy strategyTag fill.clientOrderId → (fill ∈ fills ↔ fill ∈ fills')) →
    Unrounded ops strategyTag instrument orders fills →
    Unrounded ops strategyTag instrument orders' fills' →
    ∀ r, (ops.evidenceReadings orders fills strategyTag instrument).Returns r ↔
      (ops.evidenceReadings orders' fills' strategyTag instrument).Returns r
  once : ∀ {orders : List OkxOrder} {fills : List OkxFill} {evidence : List StrategyFillEvidence},
    (ops.strategyFillEvidence orders fills strategyTag instrument).Returns evidence →
    ∃ executions filledOrders,
      CountedOnce ops strategyTag instrument orders fills evidence executions filledOrders

end Mixes

/-! ## Concrete books -/

/-- A fill of the first entry of the small strategy. -/
def demoFill (billId : Text) (size price fee : Decimal) : OkxFill where
  orderId := ['1']
  clientOrderId := demoId .entry 0
  billId := billId
  tradeId := []
  sideText := ['b', 'u', 'y']
  side := some .buy
  fillSzText := []
  fillSz := .value size
  fillPx := .value price
  fee := .value fee
  feeCurrency := demoInstrument.baseCcy
  fillTimeText := []
  eventTimeText := []

/-- The first entry, filled with fills whose fees are paid in base. -/
def entryFilled (price size fee : Decimal) (executions : List OkxFill) : Booked where
  order :=
    { demoOrder (demoId .entry 0) .entry .filled price size size with
      fee := .value fee
      feeCurrency := demoInstrument.baseCcy }
  executions := executions

/-- An entry of 4 at 100 and 6 at 110; the second fill earned a rebate, which the order reports
apart from its fee. -/
def demoBooked : Booked where
  order :=
    { (entryFilled 106 10 (-1 / 10) []).order with
      rebate := .value (1 / 20)
      rebateCurrency := demoInstrument.baseCcy }
  executions := [demoFill ['b', '1'] 4 100 (-1 / 10), demoFill ['b', '2'] 6 110 (1 / 20)]

theorem demoBooked_wellFormed :
    WellFormedBook (strategyTag demoRunner.instanceId) demoInstrument [demoBooked] :=
  .singleton 106 (by decide +kernel) (by decide +kernel) (by decide +kernel) (by decide +kernel)
    (by decide +kernel) (by decide +kernel) (by decide +kernel)

/-- Its position, and its average to 28 digits. -/
def demoReadings : Result Decimal × Result EntryAveragePriceStatus :=
  (.ok (199 / 20), .ok (.reconstructed (10653266331658291457286432161 / 10 ^ 26)))

/-- The fee of the second fill takes more base than it bought. -/
def dustFeeBooked : Booked :=
  entryFilled 100 (1001 / 1000) (-2 / 1000)
    [demoFill ['b', '1'] 1 100 0, demoFill ['b', '2'] (1 / 1000) 100 (-2 / 1000)]

/-- The cost of each fill is rounded, and the cost of the order is not. -/
def roundedBooked : Booked :=
  entryFilled (1 + 1 / 10 ^ 14) (1 / 10 ^ 14) 0
    [demoFill ['b', '1'] (5 / 10 ^ 15) (1 + 1 / 10 ^ 14) 0,
      demoFill ['b', '2'] (5 / 10 ^ 15) (1 + 1 / 10 ^ 14) 0]

/-- Two fills that are lost in a sum of twelve. -/
def dustBooked : Booked :=
  entryFilled 1 (12 + 1 / 10 ^ 27) 0
    [demoFill ['b', '1'] 6 1 0, demoFill ['b', '2'] 6 1 0, demoFill ['b', '3'] (5 / 10 ^ 28) 1 0,
      demoFill ['b', '4'] (5 / 10 ^ 28) 1 0]

theorem dustFeeBooked_wellFormed :
    WellFormedBook (strategyTag demoRunner.instanceId) demoInstrument [dustFeeBooked] :=
  .singleton 100 (by decide +kernel) (by decide +kernel) (by decide +kernel) (by decide +kernel)
    (by decide +kernel) (by decide +kernel) (by decide +kernel)

theorem roundedBooked_wellFormed :
    WellFormedBook (strategyTag demoRunner.instanceId) demoInstrument [roundedBooked] :=
  .singleton (1 + 1 / 10 ^ 14) (by decide +kernel) (by decide +kernel) (by decide +kernel)
    (by decide +kernel) (by decide +kernel) (by decide +kernel) (by decide +kernel)

theorem dustBooked_wellFormed :
    WellFormedBook (strategyTag demoRunner.instanceId) demoInstrument [dustBooked] :=
  .singleton 1 (by decide +kernel) (by decide +kernel) (by decide +kernel) (by decide +kernel)
    (by decide +kernel) (by decide +kernel) (by decide +kernel)

/-- Readings of rows of the small strategy. -/
def demoRead (orders : List OkxOrder) (fills : List OkxFill) :
    Checked (Result Decimal × Result EntryAveragePriceStatus) :=
  DecimalOps.rustDecimal.evidenceReadings orders fills (strategyTag demoRunner.instanceId)
    demoInstrument

end OkxTrading
