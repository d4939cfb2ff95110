import OkxTrading.Properties.FillEvidence

/-!
# Evidence without a price

A filled order whose `avgPx` is missing is evidence without accounting.  The net position is folded
before the average price, and fails on such evidence.

* `OkxOrder.LacksPrice` — the orders, and `evidence_of_lacksPrice`, their evidence.
* `netFilledLoop_fails` — the fold that comes first fails.
* `missing_price_fails` — **both attempts fail, on every such evidence**.
* `fills_not_consulted` — an order whose fills are known, and that are never asked for.
-/

namespace OkxTrading

open Effect MayPanic OrderId

variable {F : Type} [F64 F]

/-! ## Where the evidence comes from -/

/-- An order of the strategy that is filled and says no average price. -/
structure OkxOrder.LacksPrice (order : OkxOrder) (strategyTag : Text) : Prop where
  own : OfStrategy strategyTag order.clientOrderId
  filled : 0 < order.filledSize
  unpriced : order.averagePrice.isBlank = true

/-- Unless one of its fills is listed, such an order makes evidence without accounting. -/
theorem evidence_of_lacksPrice {strategyTag : Text} {instrument : OkxInstrument}
    {orders : List OkxOrder} {fills : List OkxFill} {evidence : List StrategyFillEvidence}
    {order : OkxOrder} (hlacks : order.LacksPrice strategyTag) (horder : order ∈ orders)
    (hfree : ∀ fill ∈ fills, fill.clientOrderId ≠ order.clientOrderId)
    (h : strategyFillEvidence orders fills strategyTag instrument = .ok evidence) :
    ∃ e ∈ evidence, e.accounting = none := by
  have hexact : (DecimalOps.exact.strategyFillEvidence orders fills strategyTag
      instrument).Returns evidence := by
    rw [DecimalOps.exactSums_exact.strategyFillEvidence]
    exact liftM_returns.2 h
  obtain ⟨-, -, fillRows, orderRows, -, horders, rfl⟩ := strategyFillEvidence_returns.1 hexact
  have hcounted : order ∈ countedOrders strategyTag
      ((countedFills strategyTag fills []).map (·.clientOrderId)) orders := by
    refine List.mem_filter.2 ⟨horder, decide_eq_true ⟨hlacks.own, fun hid => ?_, hlacks.filled⟩⟩
    obtain ⟨fill, hfill, hid⟩ := List.mem_map.1 hid
    exact hfree fill (mem_of_countedFills hfill).1 hid
  obtain ⟨row, hmem, hrow⟩ := exists_of_mem_forall₂ horders.flip order hcounted
  refine ⟨row, List.mem_append_right _ hmem, ?_⟩
  have haccounting := hrow.accounting
  rw [DecimalOps.accountingIfPriced, OkxOrder.averageFillPrice, if_pos hlacks.unpriced]
    at haccounting
  exact (pure_returns.1 haccounting).symm

/-! ## What becomes of it -/

/-- Without the accounting of some row the net position fails; a row before it may be on a side
its purpose does not have. -/
theorem netFilledLoop_fails {evidence : List StrategyFillEvidence}
    (hmissing : ∃ e ∈ evidence, e.accounting = none) : ∀ quantity,
      netFilledLoop evidence quantity =
          .error "strategy-tagged OKX fill is missing fee-adjusted accounting" ∨
        netFilledLoop evidence quantity =
          .error "strategy-tagged OKX fill has unexpected side for purpose" := by
  induction evidence with
  | nil =>
      obtain ⟨_, h, _⟩ := hmissing
      cases h
  | cons first rest ih =>
      intro quantity
      unfold netFilledLoop
      cases haccounting : first.accounting with
      | none => exact .inl rfl
      | some accounting =>
          dsimp only
          by_cases hside : first.side = first.purpose.side
          · rw [if_pos hside]
            obtain ⟨e, he, hnone⟩ := hmissing
            rcases List.mem_cons.1 he with rfl | he
            · cases haccounting.symm.trans hnone
            · exact ih ⟨e, he, hnone⟩ _
          · rw [if_neg hside]
            exact .inr rfl

/-- The first attempt asks for more evidence where there is something to trade, and only the last
one fails with the error about `avgPx`. -/
structure FallsBack (runner : Runner F) (balance : StrategyBalance)
    (evidence : List StrategyFillEvidence) : Prop where
  initial : 0 < balance.tradeableQuantity →
    ∃ gap, runner.reconstructPositionFromEvidence balance evidence .initial =
      .ok (.needsMoreEvidence gap)
  onlyFinal : runner.reconstructPositionFromEvidence balance evidence .initial ≠
    .error "OKX entry fill is missing avgPx"

/-- **Without a price both attempts fail**: on every evidence with a row without accounting and
every balance, the first attempt too, and never with the error about `avgPx`. -/
theorem missing_price_fails (runner : Runner F) (balance : StrategyBalance)
    (evidence : List StrategyFillEvidence) (hmissing : ∃ e ∈ evidence, e.accounting = none)
    (htradeable : 0 < balance.tradeableQuantity) :
    ¬ FallsBack runner balance evidence ∧
      ∀ attempt, ∃ message,
        runner.reconstructPositionFromEvidence balance evidence attempt = .error message ∧
          message ≠ "OKX entry fill is missing avgPx" := by
  have hfails : ∀ attempt, ∃ message,
      runner.reconstructPositionFromEvidence balance evidence attempt = .error message ∧
        message ≠ "OKX entry fill is missing avgPx" := by
    intro attempt
    unfold Runner.reconstructPositionFromEvidence strategyNetFilledPosition
    rcases netFilledLoop_fails hmissing 0 with h | h <;> rw [h]
    · exact ⟨_, rfl, by decide⟩
    · exact ⟨_, rfl, by decide⟩
  refine ⟨fun hfalls => ?_, hfails⟩
  obtain ⟨gap, hgap⟩ := hfalls.initial htradeable
  obtain ⟨message, hmessage, -⟩ := hfails .initial
  cases hgap.symm.trans hmessage

/-- One missing row in front of a balance of two. -/
theorem missing_price_fails_entry :
    ∃ message, demoRestarted.reconstructPositionFromEvidence ⟨2, 2⟩
      [⟨.entry, .buy, some ⟨1, -100⟩⟩, ⟨.entry, .buy, none⟩] .initial = .error message ∧
        message ≠ "OKX entry fill is missing avgPx" :=
  (missing_price_fails demoRestarted ⟨2, 2⟩ _ ⟨_, .tail _ (.head _), rfl⟩ (by decide +kernel)).2
    .initial

/-- An entry of 10 that says no average price. -/
def unpricedEntry : OkxOrder := { demoBooked.order with averagePrice := .empty }

/-- Its fills are known: the first attempt fails on the order alone, so they are not asked for,
although with them the position is found. -/
theorem fills_not_consulted :
    strategyFillEvidence [unpricedEntry] [] (strategyTag demoRunner.instanceId) demoInstrument =
        .ok [⟨.entry, .buy, none⟩] ∧
      demoRestarted.reconstructPositionFromEvidence ⟨10, 10⟩ [⟨.entry, .buy, none⟩] .initial =
        .error "strategy-tagged OKX fill is missing fee-adjusted accounting" ∧
      (do demoRestarted.reconstructPositionFromEvidence ⟨10, 10⟩
            (← strategyFillEvidence [unpricedEntry] demoBooked.executions
              (strategyTag demoRunner.instanceId) demoInstrument) .final) =
        .ok (.reconstructed ⟨10, 21200 / 199, 20802 / 199⟩) := by
  refine ⟨?_, ?_, ?_⟩ <;> decide +kernel

end OkxTrading
