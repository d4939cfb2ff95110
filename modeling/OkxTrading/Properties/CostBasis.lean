import Mathlib.Algebra.BigOperators.Group.List.Basic
import Mathlib.Algebra.Order.BigOperators.Group.List
import Mathlib.Algebra.Order.Ring.Star
import Mathlib.Data.Rat.Star
import OkxTrading.Strategy.Reconstruct
import OkxTrading.Strategy.Scripted

/-!
# The cost basis after a restart

The live path averages the entry fills since the position was last flat; reconstruction averages
every entry fill in the evidence.  Here both are computed for the same history.

* `RoundTrip`, `OpenEntry`, `History` — closed trades, and the entry orders still open, each with
  the reports the live path saw and the fills the evidence lists.
* `Runner.liveEntries` — `next_open_position` folded over the reports.
* `reconstructPositionFromEvidence_agrees_iff` — when the restart finds the live position.
-/

namespace OkxTrading

open Effect

variable {F : Type} [F64 F]

/-! ## Sums of evidence -/

namespace StrategyFillEvidence

/-- Fee-adjusted base of the fill. -/
def base (self : StrategyFillEvidence) : Decimal := self.accounting.elim 0 (·.baseChange)

/-- Fee-adjusted quote spent by the fill. -/
def cost (self : StrategyFillEvidence) : Decimal := self.accounting.elim 0 fun a => -a.quoteChange

def isEntry (self : StrategyFillEvidence) : Bool := decide (self.purpose = .entry)

/-- A fill with accounting, on the side of its purpose. -/
structure Accounted (fill : StrategyFillEvidence) : Prop where
  accounted : fill.accounting.isSome
  side : fill.side = fill.purpose.side

/-- A fill with accounting, on the side of its purpose and in the direction of its side. -/
structure Settled (fill : StrategyFillEvidence) : Prop where
  accounted : fill.accounting.isSome
  side : fill.side = fill.purpose.side
  entry : fill.isEntry → 0 < fill.base ∧ 0 < fill.cost
  exit : fill.isEntry = false → fill.base < 0

theorem Settled.isAccounted {fill : StrategyFillEvidence} (h : Settled fill) : Accounted fill :=
  ⟨h.accounted, h.side⟩

end StrategyFillEvidence

open StrategyFillEvidence (Accounted Settled)

/-- What the rows moved of the base. -/
def netBase (evidence : List StrategyFillEvidence) : Decimal := (evidence.map (·.base)).sum

/-- What the entries bought. -/
def entryQuantity (evidence : List StrategyFillEvidence) : Decimal :=
  ((evidence.filter (·.isEntry)).map (·.base)).sum

/-- What the entries cost. -/
def entryCost (evidence : List StrategyFillEvidence) : Decimal :=
  ((evidence.filter (·.isEntry)).map (·.cost)).sum

theorem netFilledLoop_eq {evidence : List StrategyFillEvidence} :
    ∀ (_ : ∀ f ∈ evidence, Accounted f) (quantity : Decimal),
      netFilledLoop evidence quantity = .ok (quantity + netBase evidence) := by
  induction evidence with
  | nil => intro _ quantity; simp [netFilledLoop, netBase]
  | cons fill rest ih =>
      intro h quantity
      obtain ⟨hfill, hrest⟩ := List.forall_mem_cons.1 h
      obtain ⟨a, ha⟩ := Option.isSome_iff_exists.1 hfill.accounted
      have hbase : fill.base = a.baseChange := by
        unfold StrategyFillEvidence.base; rw [ha]; rfl
      unfold netFilledLoop
      simp only [ha, hfill.side, if_true]
      rw [ih hrest, ← hbase, add_assoc]
      rfl

theorem entryTotals_eq {evidence : List StrategyFillEvidence} :
    (∀ f ∈ evidence, Accounted f) →
      entryTotals evidence = some (entryQuantity evidence, entryCost evidence) := by
  induction evidence with
  | nil => intro _; rfl
  | cons fill rest ih =>
      intro h
      obtain ⟨hfill, hrest⟩ := List.forall_mem_cons.1 h
      obtain ⟨a, ha⟩ := Option.isSome_iff_exists.1 hfill.accounted
      unfold entryTotals
      by_cases hentry : fill.purpose = .entry
      · have hside : fill.side = .buy := by rw [hfill.side, hentry]; rfl
        have hisEntry : fill.isEntry = true := decide_eq_true hentry
        simp only [hentry, hside, and_self, if_true, ha, ih hrest]
        simp [entryQuantity, entryCost, hisEntry, StrategyFillEvidence.base,
          StrategyFillEvidence.cost, ha, sub_eq_neg_add]
      · have hisEntry : fill.isEntry = false := decide_eq_false hentry
        simp only [hentry, false_and, if_false, ih hrest]
        simp [entryQuantity, entryCost, hisEntry]

/-- Evidence is read in any order. -/
theorem sums_perm {evidence evidence' : List StrategyFillEvidence} (h : evidence.Perm evidence') :
    netBase evidence = netBase evidence' ∧ entryQuantity evidence = entryQuantity evidence' ∧
      entryCost evidence = entryCost evidence' :=
  ⟨(h.map _).sum_eq, ((h.filter _).map _).sum_eq, ((h.filter _).map _).sum_eq⟩

theorem sums_append (evidence evidence' : List StrategyFillEvidence) :
    netBase (evidence ++ evidence') = netBase evidence + netBase evidence' ∧
      entryQuantity (evidence ++ evidence') = entryQuantity evidence + entryQuantity evidence' ∧
      entryCost (evidence ++ evidence') = entryCost evidence + entryCost evidence' := by
  simp [netBase, entryQuantity, entryCost]

theorem entrySums_nonneg {evidence : List StrategyFillEvidence} (h : ∀ f ∈ evidence, Settled f) :
    0 ≤ entryQuantity evidence ∧ 0 ≤ entryCost evidence := by
  constructor
  · refine List.sum_nonneg fun x hx => ?_
    obtain ⟨f, hf, rfl⟩ := List.mem_map.1 hx
    obtain ⟨hmem, hentry⟩ := List.mem_filter.1 hf
    exact ((h f hmem).entry hentry).1.le
  · refine List.sum_nonneg fun x hx => ?_
    obtain ⟨f, hf, rfl⟩ := List.mem_map.1 hx
    obtain ⟨hmem, hentry⟩ := List.mem_filter.1 hf
    exact ((h f hmem).entry hentry).2.le

/-! ## Histories -/

/-- Base received and quote spent by a part of an entry order. -/
structure Increment where
  base : Decimal
  cost : Decimal
  base_pos : 0 < base
  cost_pos : 0 < cost

/-- The row of a fill of an entry. -/
def Increment.evidence (self : Increment) : StrategyFillEvidence where
  purpose := .entry
  side := .buy
  accounting := some ⟨self.base, -self.cost⟩

theorem Increment.evidence_settled (self : Increment) : Settled self.evidence where
  accounted := rfl
  side := rfl
  entry _ := ⟨self.base_pos, by
    show 0 < -(-self.cost)
    rw [neg_neg]; exact self.cost_pos⟩
  exit h := by cases h

def totalBase (parts : List Increment) : Decimal := (parts.map (·.base)).sum
def totalCost (parts : List Increment) : Decimal := (parts.map (·.cost)).sum

/-- A closed trade: whatever its entries bought, its exits sold. -/
structure RoundTrip where
  fills : List StrategyFillEvidence
  settled : ∀ f ∈ fills, Settled f
  flat : netBase fills = 0

/-- An entry order of the open position: the reports the live path accounted, and its fills as the
evidence lists them (a single one where it only has the order). -/
structure OpenEntry where
  reports : List Increment
  fills : List Increment
  nonempty : fills ≠ []
  base : totalBase reports = totalBase fills
  cost : totalCost reports = totalCost fills

/-- Any number of closed trades and then at least one entry order that is still held. -/
structure History where
  roundTrips : List RoundTrip
  openEntries : List OpenEntry
  nonempty : openEntries ≠ []

namespace History

variable (self : History)

def closedEvidence : List StrategyFillEvidence := self.roundTrips.flatMap (·.fills)
def openFills : List Increment := self.openEntries.flatMap (·.fills)
def evidence : List StrategyFillEvidence := self.closedEvidence ++ self.openFills.map (·.evidence)
def reports : List Increment := self.openEntries.flatMap (·.reports)

/-- Base and quote of the entries of earlier trades. -/
def closedQuantity : Decimal := entryQuantity self.closedEvidence

/-- What the entries of the round trips cost. -/
def closedCost : Decimal := entryCost self.closedEvidence

/-- Base and quote of the entries still held. -/
def openQuantity : Decimal := totalBase self.openFills

/-- What the entries of the open position cost. -/
def openCost : Decimal := totalCost self.openFills

theorem evidence_settled : ∀ f ∈ self.evidence, Settled f := by
  intro f hf
  rcases List.mem_append.1 hf with hf | hf
  · obtain ⟨trip, _, hf⟩ := List.mem_flatMap.1 hf
    exact trip.settled f hf
  · obtain ⟨part, _, rfl⟩ := List.mem_map.1 hf
    exact part.evidence_settled

theorem closed_settled : ∀ f ∈ self.closedEvidence, Settled f :=
  fun f hf => self.evidence_settled f (List.mem_append_left _ hf)

theorem closed_netBase : netBase self.closedEvidence = 0 := by
  unfold closedEvidence
  induction self.roundTrips with
  | nil => rfl
  | cons trip rest ih =>
      rw [List.flatMap_cons, (sums_append _ _).1, trip.flat, ih, add_zero]

theorem openSums (parts : List Increment) :
    netBase (parts.map (·.evidence)) = totalBase parts ∧
      entryQuantity (parts.map (·.evidence)) = totalBase parts ∧
      entryCost (parts.map (·.evidence)) = totalCost parts := by
  have hfilter : (parts.map (·.evidence)).filter (·.isEntry) = parts.map (·.evidence) := by
    rw [List.filter_eq_self]
    intro f hf
    obtain ⟨part, _, rfl⟩ := List.mem_map.1 hf
    rfl
  simp only [netBase, entryQuantity, entryCost, totalBase, totalCost, hfilter, List.map_map]
  refine ⟨rfl, rfl, ?_⟩
  congr 1
  refine List.map_congr_left fun part _ => ?_
  show -(-part.cost) = part.cost
  rw [neg_neg]

theorem reports_total :
    totalBase self.reports = self.openQuantity ∧ totalCost self.reports = self.openCost := by
  unfold reports openQuantity openCost openFills
  induction self.openEntries with
  | nil => exact ⟨rfl, rfl⟩
  | cons entry rest ih =>
      obtain ⟨hbase, hcost⟩ := ih
      simp only [List.flatMap_cons, totalBase, totalCost, List.map_append, List.sum_append] at *
      exact ⟨by rw [hbase]; exact congrArg (· + _) entry.base,
        by rw [hcost]; exact congrArg (· + _) entry.cost⟩

theorem openFills_ne : self.openFills ≠ [] := by
  obtain ⟨entry, hentry⟩ := List.exists_mem_of_ne_nil _ self.nonempty
  obtain ⟨part, hpart⟩ := List.exists_mem_of_ne_nil _ entry.nonempty
  exact List.ne_nil_of_mem (List.mem_flatMap.2 ⟨entry, hentry, hpart⟩)

theorem open_pos : 0 < self.openQuantity ∧ 0 < self.openCost := by
  constructor
  · refine List.sum_pos _ (fun x hx => ?_) (by simpa using self.openFills_ne)
    obtain ⟨part, _, rfl⟩ := List.mem_map.1 hx
    exact part.base_pos
  · refine List.sum_pos _ (fun x hx => ?_) (by simpa using self.openFills_ne)
    obtain ⟨part, _, rfl⟩ := List.mem_map.1 hx
    exact part.cost_pos

end History

/-! ## The live path -/

namespace Runner

variable (self : Runner F)

/-- The runner with the indicators of some moment, holding `position`. -/
def holding (signal : SignalState F) (position : Option OpenPosition) : Runner F :=
  { self with
    signal := signal
    exchange := self.exchange.map fun state => { state with position := position } }

/-- `next_open_position` for one report after another, each at the indicators of its moment. -/
def liveEntries : Option OpenPosition → List (SignalState F × Increment) →
    Result (Option OpenPosition)
  | position, [] => .ok position
  | position, (signal, part) :: rest => do
      let (_, next) ← (self.holding signal position).nextOpenPosition part.base
        (part.cost / part.base)
      liveEntries (some next) rest

end Runner

/-- Quantity and quote cost of what is held. -/
def heldQuantity (position : Option OpenPosition) : Decimal := position.elim 0 (·.quantity)

/-- The cost the position stands for. -/
def heldCost (position : Option OpenPosition) : Decimal :=
  position.elim 0 fun p => p.averagePrice * p.quantity

/-- One report adds its base and its cost. -/
theorem nextOpenPosition_held {self : Runner F} {st : ExchangeState}
    {position : Option OpenPosition}
    {signal : SignalState F} {part : Increment} {r : Bool × OpenPosition}
    (hst : self.exchange = some st) (hpos : 0 ≤ heldQuantity position)
    (h : (self.holding signal position).nextOpenPosition part.base (part.cost / part.base) =
      .ok r) :
    r.2.quantity = heldQuantity position + part.base ∧
      r.2.averagePrice * r.2.quantity = heldCost position + part.cost := by
  have hb := part.base_pos
  simp only [Runner.nextOpenPosition, Runner.exchangeState, Runner.holding, hst, Option.map_some,
    ok_bind] at h
  cases position with
  | none =>
      simp only [bind_eq_ok, pure_eq_ok] at h
      obtain ⟨_, _, _, rfl, rfl⟩ := h
      constructor
      · simp [heldQuantity]
      · simp [heldCost, div_mul_cancel₀ _ hb.ne']
  | some p =>
      simp only [bind_eq_ok, pure_eq_ok] at h
      obtain ⟨_, _, _, rfl, rfl⟩ := h
      have hq : 0 < p.quantity + part.base := add_pos_of_nonneg_of_pos hpos hb
      refine ⟨rfl, ?_⟩
      show _ / _ * (p.quantity + part.base) = p.averagePrice * p.quantity + part.cost
      rw [div_mul_cancel₀ _ hq.ne', div_mul_cancel₀ _ hb.ne']

theorem liveEntries_held {self : Runner F} {st : ExchangeState} (hst : self.exchange = some st)
    (reports : List (SignalState F × Increment)) :
    ∀ {position live : Option OpenPosition}, 0 ≤ heldQuantity position →
      self.liveEntries position reports = .ok live →
      heldQuantity live = heldQuantity position + totalBase (reports.map Prod.snd) ∧
        heldCost live = heldCost position + totalCost (reports.map Prod.snd) := by
  induction reports with
  | nil =>
      intro position live _ h
      cases h
      simp [totalBase, totalCost]
  | cons report rest ih =>
      intro position live hpos h
      obtain ⟨signal, part⟩ := report
      simp only [Runner.liveEntries, bind_eq_ok] at h
      obtain ⟨r, hr, h⟩ := h
      obtain ⟨hq, hc⟩ := nextOpenPosition_held hst hpos hr
      have hnext : 0 ≤ heldQuantity (some r.2) := by
        show 0 ≤ r.2.quantity
        rw [hq]
        exact add_nonneg hpos part.base_pos.le
      obtain ⟨hq', hc'⟩ := ih hnext h
      have hq : heldQuantity (some r.2) = heldQuantity position + part.base := hq
      have hc : heldCost (some r.2) = heldCost position + part.cost := hc
      rw [hq', hc', hq, hc]
      simp [totalBase, totalCost, add_assoc]

/-- What the live path holds after the reports of a history. -/
theorem liveEntries_history {self : Runner F} {st : ExchangeState} (hst : self.exchange = some st)
    {history : History} {reports : List (SignalState F × Increment)} {live : OpenPosition}
    (hreports : reports.map Prod.snd = history.reports)
    (hlive : self.liveEntries none reports = .ok (some live)) :
    live.quantity = history.openQuantity ∧
      live.averagePrice = history.openCost / history.openQuantity := by
  have hnone : 0 ≤ heldQuantity none := le_rfl
  obtain ⟨hq, hc⟩ := liveEntries_held hst reports hnone hlive
  obtain ⟨hbase, hcost⟩ := history.reports_total
  rw [hreports, hbase] at hq
  rw [hreports, hcost] at hc
  have hq : live.quantity = history.openQuantity := hq.trans (zero_add _)
  have hc : live.averagePrice * live.quantity = history.openCost := hc.trans (zero_add _)
  refine ⟨hq, ?_⟩
  rw [eq_div_iff history.open_pos.1.ne', ← hc, hq]

/-! ## Reconstruction -/

/-- When a restart finds what the live path holds: enough is held to be traded at all, earlier
trades bought at the same average (or there are none), and the current ATR leaves a stop trigger
at the average of the open entries. -/
structure History.Agrees (history : History) (self : Runner F) (lotSize minSize : Decimal) :
    Prop where
  tradeable : lotSize ≤ history.openQuantity ∧ minSize ≤ history.openQuantity
  costBasis : history.closedCost * history.openQuantity =
    history.openCost * history.closedQuantity
  trigger : ∃ atr, self.signalAtrDecimal = .ok atr ∧
    self.stopLossAtrMultiple * atr < history.openCost / history.openQuantity

/-- The share of the account that is the strategy's, where the rest is the operator's. -/
theorem strategyBalance_eq_ok {operator quantity lotSize minSize : Decimal} {b : StrategyBalance}
    (hquantity : 0 < quantity)
    (h : strategyBalanceAfterOperatorBaseline (operator + quantity) operator lotSize minSize =
      .ok b) :
    b.total = quantity ∧
      b.tradeableQuantity = if quantity < minSize then 0 else ⌊quantity / lotSize⌋ * lotSize := by
  simp only [strategyBalanceAfterOperatorBaseline, bind_eq_ok, ensure_eq_ok, exists_const,
    add_sub_cancel_left] at h
  obtain ⟨_, _, h⟩ := h
  by_cases hmin : quantity < minSize
  · rw [if_pos (.inr hmin), pure_eq_ok] at h
    subst h
    exact ⟨rfl, (if_pos hmin).symm⟩
  · rw [if_neg (by rintro (h0 | h0); exacts [absurd hquantity (not_lt.2 h0), hmin h0])] at h
    obtain ⟨d, hd, h⟩ := bind_eq_ok.1 h
    rw [pure_eq_ok] at h
    subst h
    refine ⟨rfl, ?_⟩
    rw [if_neg hmin]
    exact (quantizeDecimalDown_eq_ok.1 hd).2.symm

/-- Something tradeable is left exactly from one lot and the minimum size on. -/
theorem tradeable_pos_iff {quantity lotSize minSize : Decimal} (hlot : 0 < lotSize) :
    0 < (if quantity < minSize then 0 else ⌊quantity / lotSize⌋ * lotSize : Decimal) ↔
      lotSize ≤ quantity ∧ minSize ≤ quantity := by
  have hfloor : 0 < (⌊quantity / lotSize⌋ * lotSize : Decimal) ↔ lotSize ≤ quantity := by
    rw [mul_pos_iff_of_pos_right hlot, Int.cast_pos, Int.floor_pos, one_le_div hlot]
  split
  · rename_i h
    simp [not_le.2 h]
  · rename_i h
    rw [hfloor]
    simp [not_lt.1 h]

section Evidence

variable {self : Runner F} {st : ExchangeState} {lotSize : Decimal} {history : History}
  {evidence : List StrategyFillEvidence} {balance : StrategyBalance}

theorem strategyNetFilledPosition_history (hperm : evidence.Perm history.evidence) :
    strategyNetFilledPosition evidence = .ok history.openQuantity := by
  have hsettled : ∀ f ∈ evidence, Settled f :=
    fun f hf => history.evidence_settled f (hperm.mem_iff.1 hf)
  have hnet : netBase evidence = history.openQuantity := by
    rw [(sums_perm hperm).1, History.evidence, (sums_append _ _).1, history.closed_netBase,
      (History.openSums _).1, zero_add]
    rfl
  unfold strategyNetFilledPosition
  rw [netFilledLoop_eq fun f hf => (hsettled f hf).isAccounted, zero_add, hnet, ok_bind]
  exact congrArg Except.ok (max_eq_left history.open_pos.1.le)

theorem strategyEntryAveragePrice_history (hperm : evidence.Perm history.evidence) :
    strategyEntryAveragePrice evidence =
      .ok (.reconstructed ((history.closedCost + history.openCost) /
        (history.closedQuantity + history.openQuantity))) := by
  have hsettled : ∀ f ∈ evidence, Settled f :=
    fun f hf => history.evidence_settled f (hperm.mem_iff.1 hf)
  obtain ⟨hclosedQ, hclosedC⟩ := entrySums_nonneg history.closed_settled
  have hQ : 0 < history.closedQuantity + history.openQuantity :=
    add_pos_of_nonneg_of_pos hclosedQ history.open_pos.1
  have hC : 0 < history.closedCost + history.openCost :=
    add_pos_of_nonneg_of_pos hclosedC history.open_pos.2
  have hquantity : entryQuantity evidence = history.closedQuantity + history.openQuantity := by
    rw [(sums_perm hperm).2.1, History.evidence, (sums_append _ _).2.1, (History.openSums _).2.1]
    rfl
  have hcost : entryCost evidence = history.closedCost + history.openCost := by
    rw [(sums_perm hperm).2.2, History.evidence, (sums_append _ _).2.2, (History.openSums _).2.2]
    rfl
  unfold strategyEntryAveragePrice
  rw [entryTotals_eq fun f hf => (hsettled f hf).isAccounted, hquantity, hcost]
  dsimp only
  rw [if_neg (not_le.2 hQ), ensure, if_pos hC, ok_bind, ensure, if_pos (div_pos hC hQ)]
  rfl

/-- What reconstruction makes of the evidence of a history and its balance. -/
theorem reconstructPositionFromEvidence_history (hst : self.exchange = some st)
    (hlot : st.instrument.lotSize = .ok lotSize) (hperm : evidence.Perm history.evidence)
    (htotal : balance.total = history.openQuantity) (attempt : PositionEvidenceAttempt) :
    self.reconstructPositionFromEvidence balance evidence attempt =
      if balance.tradeableQuantity ≤ 0 then .ok .noPosition
      else do
        let averagePrice := (history.closedCost + history.openCost) /
          (history.closedQuantity + history.openQuantity)
        return .reconstructed
          { quantity := balance.tradeableQuantity
            averagePrice := averagePrice
            stopLossTrigger := ← self.stopLossTrigger averagePrice } := by
  have hlot_pos : 0 < lotSize := (parsePositiveDecimal_eq_ok.1 hlot).2
  unfold Runner.reconstructPositionFromEvidence Runner.exchangeState
  simp only [strategyNetFilledPosition_history hperm, hst, hlot, ok_bind, htotal, le_refl, if_true,
    sub_self, strategyEntryAveragePrice_history hperm, if_neg (not_le.2 hlot_pos)]
  split
  · rfl
  · cases attempt <;> rfl

end Evidence

/-- **A restart agrees with the live path exactly where earlier trades do not change the average.**
For every history, in any order of its evidence: reconstruction finds a position with the live
average price and the live quantity in whole lots if and only if the history `Agrees`. -/
theorem reconstructPositionFromEvidence_agrees_iff (self : Runner F) (st : ExchangeState)
    (lotSize minSize operator : Decimal) (hst : self.exchange = some st)
    (hlot : st.instrument.lotSize = .ok lotSize) (history : History)
    (evidence : List StrategyFillEvidence) (hperm : evidence.Perm history.evidence)
    (reports : List (SignalState F × Increment)) (live : OpenPosition)
    (hreports : reports.map Prod.snd = history.reports)
    (hlive : self.liveEntries none reports = .ok (some live)) (balance : StrategyBalance)
    (hbalance : strategyBalanceAfterOperatorBaseline (operator + live.quantity) operator lotSize
      minSize = .ok balance) (attempt : PositionEvidenceAttempt) :
    (∃ p, self.reconstructPositionFromEvidence balance evidence attempt = .ok (.reconstructed p) ∧
      p.averagePrice = live.averagePrice ∧
      quantizeDecimalDown live.quantity lotSize = .ok p.quantity) ↔
    history.Agrees self lotSize minSize := by
  have hlot_pos : 0 < lotSize := (parsePositiveDecimal_eq_ok.1 hlot).2
  obtain ⟨hquantity, haverage⟩ := liveEntries_history hst hreports hlive
  obtain ⟨hQ, hC⟩ := history.open_pos
  obtain ⟨hclosedQ, hclosedC⟩ := entrySums_nonneg history.closed_settled
  rw [hquantity] at hbalance
  obtain ⟨htotal, htradeable⟩ := strategyBalance_eq_ok hQ hbalance
  have hpos : 0 < balance.tradeableQuantity ↔
      lotSize ≤ history.openQuantity ∧ minSize ≤ history.openQuantity := by
    rw [htradeable]; exact tradeable_pos_iff hlot_pos
  have hsum : 0 < history.closedQuantity + history.openQuantity :=
    add_pos_of_nonneg_of_pos hclosedQ hQ
  -- The two averages are equal exactly where the two cost ratios are.
  have hbasis : (history.closedCost + history.openCost) /
        (history.closedQuantity + history.openQuantity) = history.openCost / history.openQuantity ↔
      history.closedCost * history.openQuantity = history.openCost * history.closedQuantity := by
    rw [div_eq_div_iff hsum.ne' hQ.ne']
    constructor <;> intro h <;> linarith
  rw [reconstructPositionFromEvidence_history hst hlot hperm htotal, haverage, hquantity]
  constructor
  · rintro ⟨p, hp, hprice, -⟩
    split at hp
    · cases hp
    · rename_i hnot
      simp only [bind_eq_ok, pure_eq_ok, PositionReconstruction.reconstructed.injEq] at hp
      obtain ⟨trigger, htrigger, rfl⟩ := hp
      have hprice : (history.closedCost + history.openCost) /
        (history.closedQuantity + history.openQuantity) = history.openCost / history.openQuantity :=
        hprice
      rw [hprice] at htrigger
      obtain ⟨-, atr, hatr, habove, -⟩ := stopLossTrigger_eq_ok.1 htrigger
      exact ⟨hpos.1 (not_le.1 hnot), hbasis.1 hprice, atr, hatr, sub_pos.1 habove⟩
  · rintro ⟨htrade, hcost, atr, hatr, habove⟩
    rw [if_neg (not_le.2 (hpos.2 htrade)), hbasis.2 hcost]
    have htrigger : self.stopLossTrigger (history.openCost / history.openQuantity) =
        .ok (history.openCost / history.openQuantity - self.stopLossAtrMultiple * atr) :=
      stopLossTrigger_eq_ok.2 ⟨div_pos hC hQ, atr, hatr, sub_pos.2 habove, rfl⟩
    dsimp only
    rw [htrigger]
    refine ⟨_, rfl, rfl, quantizeDecimalDown_eq_ok.2 ⟨hQ, ?_⟩⟩
    show _ = balance.tradeableQuantity
    rw [htradeable, if_neg (not_lt.2 htrade.2)]

/-! ## Two concrete histories -/

/-- One bought at `entryPrice` and sold at `exitPrice`. -/
def demoRoundTrip (entryPrice exitPrice : Decimal) (h : 0 < entryPrice) : RoundTrip where
  fills := [⟨.entry, .buy, some ⟨1, -entryPrice⟩⟩, ⟨.takeProfit, .sell, some ⟨-1, exitPrice⟩⟩]
  settled := by
    intro f hf
    simp only [List.mem_cons, List.not_mem_nil, or_false] at hf
    rcases hf with rfl | rfl
    · exact ⟨rfl, rfl, fun _ => ⟨one_pos, by simpa [StrategyFillEvidence.cost] using h⟩,
        fun h => by cases h⟩
    · exact ⟨rfl, rfl, fun h => (by cases h), fun _ => neg_one_lt_zero⟩
  flat := by norm_num [netBase, StrategyFillEvidence.base]

/-- A trade bought at 100 and sold at 102, and then one bought at `price` and held. -/
def demoHistory (price : Decimal) (h : 0 < price) : History where
  roundTrips := [demoRoundTrip 100 102 (by norm_num)]
  openEntries := [⟨[⟨1, price, one_pos, h⟩], [⟨1, price, one_pos, h⟩], by simp, rfl, rfl⟩]
  nonempty := by simp

/-- The small strategy after a warm-up with ATR 2, before it reconstructs. -/
def demoRestarted : Runner ℚ :=
  { demoRunner with
    signal := { demoRunner.signal with lastClose := some 102, lastAtr := some 2 }
    exchange := some (.startup demoInstrument none) }

/-- A history that agrees: both trades were bought at 100. -/
theorem reconstructPositionFromEvidence_agrees_sameBasis :
    ∃ p, demoRestarted.reconstructPositionFromEvidence ⟨1, 1⟩
        (demoHistory 100 (by norm_num)).evidence .final = .ok (.reconstructed p) ∧
      p.averagePrice = 100 ∧ quantizeDecimalDown 1 1 = .ok p.quantity :=
  (reconstructPositionFromEvidence_agrees_iff demoRestarted (.startup demoInstrument none) 1 1 0 rfl
    (by decide +kernel) (demoHistory 100 (by norm_num)) _ (List.Perm.refl _)
    [(demoRestarted.signal, ⟨1, 100, one_pos, by norm_num⟩)] ⟨1, 100, 98⟩ rfl (by decide +kernel)
    ⟨1, 1⟩ (by decide +kernel) .final).2
    ⟨by constructor <;> decide +kernel, by decide +kernel, 2, by decide +kernel, by decide +kernel⟩

/-- The live path holds one at 200; the restart holds it at 150, the average with the trade that
was closed before. -/
theorem reconstructPositionFromEvidence_averages_closed_trades :
    demoRestarted.liveEntries none
        [(demoRestarted.signal, ⟨1, 200, one_pos, by norm_num⟩)] = .ok (some ⟨1, 200, 198⟩) ∧
      demoRestarted.reconstructPositionFromEvidence ⟨1, 1⟩
        (demoHistory 200 (by norm_num)).evidence .final = .ok (.reconstructed ⟨1, 150, 148⟩) := by
  constructor <;> decide +kernel

end OkxTrading
