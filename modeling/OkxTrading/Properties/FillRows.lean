import Mathlib.Data.List.Perm.Basic
import OkxTrading.Strategy.DecimalEvidence

/-!
# Rows of fill evidence

`strategy_fill_evidence` counts the first row of every execution, and then the filled orders of
which no row was counted.  Nothing here depends on what the operators of decimals return.

* `FillRow`, `OrderRow` — the evidence of one row, and `strategyFillEvidence_returns`, of all.
* `countedFills_nodup`, `countedFills_covers` — every execution is counted, and once.
* `strategyFillEvidence_perm` — neither order nor repetition of the rows matters.
-/

namespace OkxTrading

open Effect MayPanic OrderId

theorem exists_of_mem_forall₂ {α β : Type} {R : α → β → Prop} {as : List α} {bs : List β}
    (h : List.Forall₂ R as bs) : ∀ b ∈ bs, ∃ a ∈ as, R a b := by
  induction h with
  | nil => exact List.forall_mem_nil _
  | cons hab _ ih =>
      refine List.forall_mem_cons.2 ⟨⟨_, .head _, hab⟩, fun b hb => ?_⟩
      obtain ⟨a, ha, hR⟩ := ih b hb
      exact ⟨a, .tail _ ha, hR⟩

theorem map_eq_of_forall₂ {α β γ : Type} {R : α → β → Prop} {f : α → γ} {g : β → γ} {as : List α}
    {bs : List β} (h : List.Forall₂ R as bs) :
    (∀ a ∈ as, ∀ b, R a b → g b = f a) → bs.map g = as.map f := by
  induction h with
  | nil => exact fun _ => rfl
  | cons hab _ ih =>
      intro hfg
      obtain ⟨hfirst, hrest⟩ := List.forall_mem_cons.1 hfg
      rw [List.map_cons, List.map_cons, hfirst _ hab, ih hrest]

theorem exists_forall₂ {α β : Type} {R : α → β → Prop} {as : List α}
    (h : ∀ a ∈ as, ∃ b, R a b) : ∃ bs, List.Forall₂ R as bs := by
  induction as with
  | nil => exact ⟨[], .nil⟩
  | cons a rest ih =>
      obtain ⟨⟨b, hb⟩, hrest⟩ := List.forall_mem_cons.1 h
      obtain ⟨bs, hbs⟩ := ih hrest
      exact ⟨b :: bs, .cons hb hbs⟩

/-! ## Rows of the strategy -/

/-- The id belongs to the strategy with this tag. -/
def OfStrategy (strategyTag clientOrderId : Text) : Prop :=
  (parseStrategyClientOrderId clientOrderId strategyTag).isSome = true

instance (strategyTag clientOrderId : Text) : Decidable (OfStrategy strategyTag clientOrderId) :=
  inferInstanceAs (Decidable (_ = true))

theorem ofStrategy_of_purpose {strategyTag id : Text} {purpose : OrderPurpose}
    (h : parseStrategyClientOrderId id strategyTag = some purpose) : OfStrategy strategyTag id := by
  rw [OfStrategy, h]
  rfl

theorem not_ofStrategy {strategyTag id : Text}
    (h : parseStrategyClientOrderId id strategyTag = none) :
    ¬ OfStrategy strategyTag id := by
  rw [OfStrategy, h]
  exact Bool.false_ne_true

section Rows

variable (ops : DecimalOps) (strategyTag : Text) (instrument : OkxInstrument)

/-- The evidence of a fill. -/
structure FillRow (fill : OkxFill) (row : StrategyFillEvidence) : Prop where
  purpose : parseStrategyClientOrderId fill.clientOrderId strategyTag = some row.purpose
  side : fill.parsedSide = some row.side
  expected : row.side = row.purpose.side
  accounting : ∃ a, (ops.spotAccounting fill instrument.baseCcy instrument.quoteCcy).Returns a ∧
    row.accounting = some a

/-- The accounting of an order, where it says an average price. -/
def DecimalOps.accountingIfPriced (order : OkxOrder) (baseCurrency quoteCurrency : Text) :
    Checked (Option OkxSpotFillAccounting) := do
  if (← order.averageFillPrice).isSome then
    some <$> ops.cumulativeSpotAccounting order baseCurrency quoteCurrency
  else pure none

/-- The evidence of an order. -/
structure OrderRow (order : OkxOrder) (row : StrategyFillEvidence) : Prop where
  purpose : parseStrategyClientOrderId order.clientOrderId strategyTag = some row.purpose
  side : order.parsedSide = some row.side
  expected : row.side = row.purpose.side
  accounting : (ops.accountingIfPriced order instrument.baseCcy instrument.quoteCcy).Returns
    row.accounting

/-- The first row of every execution; `seen` are the keys of the rows before. -/
def countedFills : List OkxFill → List Text → List OkxFill
  | [], _ => []
  | fill :: rest, seen =>
      if OfStrategy strategyTag fill.clientOrderId ∧ fill.dedupeKey ∉ seen then
        fill :: countedFills rest (fill.dedupeKey :: seen)
      else countedFills rest seen

/-- `accFillSz`, where it can be read. -/
def OkxOrder.filledSize (order : OkxOrder) : Decimal :=
  match order.fillSize with
  | .ok size => size
  | .error _ => 0

/-- The filled orders of which no fill was counted. -/
def countedOrders (ids : List Text) (orders : List OkxOrder) : List OkxOrder :=
  orders.filter fun order =>
    decide (OfStrategy strategyTag order.clientOrderId ∧ order.clientOrderId ∉ ids ∧
      0 < order.filledSize)

end Rows

section Loops

variable {ops : DecimalOps} {strategyTag : Text} {instrument : OkxInstrument}

/-- One step of the first loop. -/
theorem fillEvidenceOfFills_cons {fill : OkxFill} {rest : List OkxFill}
    {evidence : List StrategyFillEvidence} {seen ids : List Text}
    {r : List StrategyFillEvidence × List Text} {purpose : OrderPurpose}
    (hpurpose : parseStrategyClientOrderId fill.clientOrderId strategyTag = some purpose)
    (hseen : fill.dedupeKey ∉ seen) :
    (ops.fillEvidenceOfFills strategyTag instrument (fill :: rest) evidence seen ids).Returns r ↔
      fill.dedupeKey ≠ [] ∧ ∃ row, FillRow ops strategyTag instrument fill row ∧
        (ops.fillEvidenceOfFills strategyTag instrument rest (evidence ++ [row])
          (fill.dedupeKey :: seen) (fill.clientOrderId :: ids)).Returns r := by
  rw [DecimalOps.fillEvidenceOfFills]
  simp only [hpurpose, if_neg hseen, bind_returns, liftM_returns, ensure_eq_ok, exists_const]
  constructor
  · rintro ⟨hkey, h⟩
    refine ⟨hkey, ?_⟩
    cases hside : fill.parsedSide with
    | none => rw [hside] at h; cases h
    | some side =>
        simp only [hside, bind_returns, liftM_returns, ensureExpectedFillSide, ensure_eq_ok,
          exists_const] at h
        obtain ⟨hexpected, a, ha, h⟩ := h
        exact ⟨⟨purpose, side, some a⟩, ⟨hpurpose, hside, hexpected, a, ha, rfl⟩, h⟩
  · rintro ⟨hkey, ⟨purpose', side, accounting⟩, ⟨hp, hside, hexpected, a, ha, rfl⟩, h⟩
    have hsame : purpose = purpose' := Option.some.inj (hpurpose.symm.trans hp)
    have hside : fill.parsedSide = some side := hside
    have hexpected : side = purpose.side := hsame ▸ hexpected
    rw [← hsame] at h
    refine ⟨hkey, ?_⟩
    simp only [hside, bind_returns, liftM_returns, ensureExpectedFillSide, ensure_eq_ok,
      exists_const]
    exact ⟨hexpected, a, ha, h⟩

/-- **The first loop**: the counted fills, row by row. -/
theorem fillEvidenceOfFills_returns {fills : List OkxFill} :
    ∀ {evidence : List StrategyFillEvidence} {seen ids : List Text}
      {r : List StrategyFillEvidence × List Text},
      (ops.fillEvidenceOfFills strategyTag instrument fills evidence seen ids).Returns r ↔
        (∀ fill ∈ fills, OfStrategy strategyTag fill.clientOrderId → fill.dedupeKey ≠ []) ∧
          ∃ rows, List.Forall₂ (FillRow ops strategyTag instrument)
              (countedFills strategyTag fills seen) rows ∧
            r = (evidence ++ rows,
              ((countedFills strategyTag fills seen).map (·.clientOrderId)).reverse ++ ids) := by
  induction fills with
  | nil =>
      intro evidence seen ids r
      rw [DecimalOps.fillEvidenceOfFills, pure_returns]
      constructor
      · rintro rfl
        exact ⟨List.forall_mem_nil _, [], .nil, by simp [countedFills]⟩
      · rintro ⟨-, rows, hrows, rfl⟩
        rw [List.forall₂_nil_left_iff.1 hrows, List.append_nil]
        rfl
  | cons fill rest ih =>
      intro evidence seen ids r
      cases hpurpose : parseStrategyClientOrderId fill.clientOrderId strategyTag with
      | none =>
          have hown := not_ofStrategy hpurpose
          have hcounted : countedFills strategyTag (fill :: rest) seen =
              countedFills strategyTag rest seen := if_neg fun h => hown h.1
          unfold DecimalOps.fillEvidenceOfFills
          simp only [hpurpose, ih, hcounted, List.forall_mem_cons, hown, false_imp_iff, true_and]
      | some purpose =>
          have hown := ofStrategy_of_purpose hpurpose
          by_cases hseen : fill.dedupeKey ∈ seen
          · have hcounted : countedFills strategyTag (fill :: rest) seen =
                countedFills strategyTag rest seen := if_neg fun h => h.2 hseen
            unfold DecimalOps.fillEvidenceOfFills
            simp only [hpurpose, if_pos hseen, bind_returns, liftM_returns, ensure_eq_ok,
              exists_const, ih, hcounted, List.forall_mem_cons, hown, true_imp_iff, and_assoc]
          · have hcounted : countedFills strategyTag (fill :: rest) seen =
                fill :: countedFills strategyTag rest (fill.dedupeKey :: seen) :=
              if_pos ⟨hown, hseen⟩
            rw [fillEvidenceOfFills_cons hpurpose hseen, hcounted]
            simp only [ih, List.forall_mem_cons, hown, true_imp_iff]
            constructor
            · rintro ⟨hkey, row, hrow, hkeys, rows, hrows, rfl⟩
              exact ⟨⟨hkey, hkeys⟩, row :: rows, .cons hrow hrows, by simp⟩
            · rintro ⟨⟨hkey, hkeys⟩, _, hrows, rfl⟩
              cases hrows with
              | cons hrow hrows => exact ⟨hkey, _, hrow, hkeys, _, hrows, by simp⟩

/-- One step of the second loop. -/
theorem fillEvidenceOfOrders_cons {ids : List Text} {order : OkxOrder} {rest : List OkxOrder}
    {evidence found : List StrategyFillEvidence} {purpose : OrderPurpose} {size : Decimal}
    (hpurpose : parseStrategyClientOrderId order.clientOrderId strategyTag = some purpose)
    (hid : order.clientOrderId ∉ ids) (hsize : order.fillSize = .ok size) (hpos : 0 < size) :
    (ops.fillEvidenceOfOrders strategyTag instrument ids (order :: rest) evidence).Returns found ↔
      ∃ row, OrderRow ops strategyTag instrument order row ∧
        (ops.fillEvidenceOfOrders strategyTag instrument ids rest
          (evidence ++ [row])).Returns found := by
  rw [DecimalOps.fillEvidenceOfOrders]
  simp only [hpurpose, if_neg hid, hsize, liftM_ok, pure_bind, if_neg (not_le.2 hpos)]
  have hrow : ∀ {side : OrderSide} {accounting : Option OkxSpotFillAccounting},
      order.parsedSide = some side → side = purpose.side →
      (ops.accountingIfPriced order instrument.baseCcy instrument.quoteCcy).Returns accounting →
      OrderRow ops strategyTag instrument order ⟨purpose, side, accounting⟩ :=
    fun hside hexpected haccounting => ⟨hpurpose, hside, hexpected, haccounting⟩
  constructor
  · intro h
    cases hside : order.parsedSide with
    | none => rw [hside] at h; cases h
    | some side =>
        rw [hside] at h
        obtain ⟨_, hexpected, h⟩ := bind_returns.1 h
        obtain ⟨price, hprice, h⟩ := bind_returns.1 h
        have hexpected := ensure_eq_ok.1 (liftM_returns.1 hexpected)
        cases price with
        | none =>
            exact ⟨_, hrow hside hexpected (by
              rw [DecimalOps.accountingIfPriced]
              exact bind_returns.2 ⟨none, hprice, pure_returns.2 rfl⟩), h⟩
        | some price =>
            obtain ⟨accounting, haccounting, h⟩ := bind_returns.1 h
            exact ⟨_, hrow hside hexpected (by
              rw [DecimalOps.accountingIfPriced]
              exact bind_returns.2 ⟨some price, hprice, haccounting⟩), h⟩
  · rintro ⟨⟨purpose', side, accounting⟩, ⟨hp, hside, hexpected, haccounting⟩, h⟩
    have hsame : purpose = purpose' := Option.some.inj (hpurpose.symm.trans hp)
    have hside : order.parsedSide = some side := hside
    have hexpected : ensureExpectedFillSide purpose side = .ok () :=
      ensure_eq_ok.2 (hsame ▸ hexpected)
    obtain ⟨price, hprice, haccounting⟩ := bind_returns.1 haccounting
    rw [← hsame] at h
    simp only [hside, hexpected, liftM_ok, pure_bind]
    refine bind_returns.2 ⟨price, hprice, ?_⟩
    cases price with
    | none =>
        cases pure_returns.1 haccounting
        exact h
    | some price => exact bind_returns.2 ⟨accounting, haccounting, h⟩

/-- **The second loop**: the counted orders, row by row. -/
theorem fillEvidenceOfOrders_returns {ids : List Text} {orders : List OkxOrder} :
    ∀ {evidence found : List StrategyFillEvidence},
      (ops.fillEvidenceOfOrders strategyTag instrument ids orders evidence).Returns found ↔
        (∀ order ∈ orders, OfStrategy strategyTag order.clientOrderId →
          order.clientOrderId ∉ ids → ∃ size, order.fillSize = .ok size) ∧
          ∃ rows, List.Forall₂ (OrderRow ops strategyTag instrument)
              (countedOrders strategyTag ids orders) rows ∧ found = evidence ++ rows := by
  induction orders with
  | nil =>
      intro evidence found
      rw [DecimalOps.fillEvidenceOfOrders, pure_returns]
      constructor
      · rintro rfl
        exact ⟨List.forall_mem_nil _, [], .nil, by simp⟩
      · rintro ⟨-, rows, hrows, rfl⟩
        rw [List.forall₂_nil_left_iff.1 hrows, List.append_nil]
  | cons order rest ih =>
      intro evidence found
      by_cases hcounted : OfStrategy strategyTag order.clientOrderId ∧ order.clientOrderId ∉ ids
      · obtain ⟨hown, hid⟩ := hcounted
        obtain ⟨purpose, hpurpose⟩ := Option.isSome_iff_exists.1 hown
        cases hsize : order.fillSize with
        | error message =>
            constructor
            · intro h
              rw [DecimalOps.fillEvidenceOfOrders] at h
              simp only [hpurpose, if_neg hid, hsize] at h
              cases h
            · rintro ⟨h, -⟩
              obtain ⟨size, h⟩ := h order (.head _) hown hid
              cases hsize.symm.trans h
        | ok size =>
            have hfilled : order.filledSize = size := by rw [OkxOrder.filledSize, hsize]
            have hreads : OfStrategy strategyTag order.clientOrderId → order.clientOrderId ∉ ids →
                ∃ size, order.fillSize = .ok size := fun _ _ => ⟨size, hsize⟩
            by_cases hpos : 0 < size
            · have hkeep : countedOrders strategyTag ids (order :: rest) =
                  order :: countedOrders strategyTag ids rest :=
                List.filter_cons_of_pos (decide_eq_true ⟨hown, hid, hfilled ▸ hpos⟩)
              rw [fillEvidenceOfOrders_cons hpurpose hid hsize hpos, hkeep, List.forall_mem_cons]
              simp only [ih]
              constructor
              · rintro ⟨row, hrow, hall, rows, hrows, rfl⟩
                exact ⟨⟨hreads, hall⟩, row :: rows, .cons hrow hrows, by simp⟩
              · rintro ⟨⟨-, hall⟩, _, hrows, rfl⟩
                cases hrows with
                | cons hrow hrows => exact ⟨_, hrow, hall, _, hrows, by simp⟩
            · have hskip : countedOrders strategyTag ids (order :: rest) =
                  countedOrders strategyTag ids rest :=
                List.filter_cons_of_neg (by simp [hfilled, hpos])
              rw [DecimalOps.fillEvidenceOfOrders, hskip, List.forall_mem_cons]
              simp only [hpurpose, if_neg hid, hsize, liftM_ok, pure_bind, if_pos (not_lt.1 hpos),
                ih]
              exact and_congr_left fun _ => ⟨fun h => ⟨fun _ _ => ⟨size, rfl⟩, h⟩, And.right⟩
      · have hskip : countedOrders strategyTag ids (order :: rest) =
            countedOrders strategyTag ids rest :=
          List.filter_cons_of_neg (by
            rw [decide_eq_true_eq]
            exact fun h => hcounted ⟨h.1, h.2.1⟩)
        have hloop : ops.fillEvidenceOfOrders strategyTag instrument ids (order :: rest) evidence =
            ops.fillEvidenceOfOrders strategyTag instrument ids rest evidence := by
          rw [DecimalOps.fillEvidenceOfOrders]
          cases hpurpose : parseStrategyClientOrderId order.clientOrderId strategyTag with
          | none => rfl
          | some purpose =>
              exact if_pos (not_not.1 fun hid => hcounted ⟨ofStrategy_of_purpose hpurpose, hid⟩)
        rw [hloop, hskip, List.forall_mem_cons, ih]
        exact and_congr_left fun _ =>
          ⟨fun h => ⟨fun hown hid => absurd ⟨hown, hid⟩ hcounted, h⟩, And.right⟩

/-- **Evidence**: rows of the counted fills, and then rows of the counted orders. -/
theorem strategyFillEvidence_returns {orders : List OkxOrder} {fills : List OkxFill}
    {evidence : List StrategyFillEvidence} :
    (ops.strategyFillEvidence orders fills strategyTag instrument).Returns evidence ↔
      (∀ fill ∈ fills, OfStrategy strategyTag fill.clientOrderId → fill.dedupeKey ≠ []) ∧
      (∀ order ∈ orders, OfStrategy strategyTag order.clientOrderId →
        order.clientOrderId ∉ (countedFills strategyTag fills []).map (·.clientOrderId) →
          ∃ size, order.fillSize = .ok size) ∧
      ∃ fillRows orderRows,
        List.Forall₂ (FillRow ops strategyTag instrument) (countedFills strategyTag fills [])
          fillRows ∧
        List.Forall₂ (OrderRow ops strategyTag instrument)
          (countedOrders strategyTag
            ((countedFills strategyTag fills []).map (·.clientOrderId)) orders) orderRows ∧
        evidence = fillRows ++ orderRows := by
  have hids : ∀ id : Text,
      id ∈ ((countedFills strategyTag fills []).map (·.clientOrderId)).reverse ++ [] ↔
        id ∈ (countedFills strategyTag fills []).map (·.clientOrderId) := by
    intro id
    rw [List.append_nil, List.mem_reverse]
  have hcounted : countedOrders strategyTag
      (((countedFills strategyTag fills []).map (·.clientOrderId)).reverse ++ []) orders =
      countedOrders strategyTag ((countedFills strategyTag fills []).map (·.clientOrderId))
        orders := by
    refine List.filter_congr fun order _ => ?_
    simp only [hids]
  unfold DecimalOps.strategyFillEvidence
  simp only [bind_returns, fillEvidenceOfFills_returns, List.nil_append]
  constructor
  · rintro ⟨_, ⟨hkeys, fillRows, hfills, rfl⟩, h⟩
    obtain ⟨hsizes, orderRows, horders, rfl⟩ := fillEvidenceOfOrders_returns.1 h
    simp only [hids, hcounted] at hsizes horders
    exact ⟨hkeys, hsizes, fillRows, orderRows, hfills, horders, rfl⟩
  · rintro ⟨hkeys, hsizes, fillRows, orderRows, hfills, horders, rfl⟩
    refine ⟨_, ⟨hkeys, fillRows, hfills, rfl⟩, fillEvidenceOfOrders_returns.2 ?_⟩
    simp only [hids, hcounted]
    exact ⟨hsizes, orderRows, horders, rfl⟩

end Loops

/-! ## Counted fills -/

section Counted

variable {strategyTag : Text}

theorem countedFills_cons_of_counted {fill : OkxFill} {rest : List OkxFill} {seen : List Text}
    (h : OfStrategy strategyTag fill.clientOrderId ∧ fill.dedupeKey ∉ seen) :
    countedFills strategyTag (fill :: rest) seen =
      fill :: countedFills strategyTag rest (fill.dedupeKey :: seen) := if_pos h

theorem countedFills_cons_of_skipped {fill : OkxFill} {rest : List OkxFill} {seen : List Text}
    (h : ¬ (OfStrategy strategyTag fill.clientOrderId ∧ fill.dedupeKey ∉ seen)) :
    countedFills strategyTag (fill :: rest) seen = countedFills strategyTag rest seen := if_neg h

theorem mem_of_countedFills {fills : List OkxFill} {fill : OkxFill} :
    ∀ {seen : List Text}, fill ∈ countedFills strategyTag fills seen →
      fill ∈ fills ∧ OfStrategy strategyTag fill.clientOrderId ∧ fill.dedupeKey ∉ seen := by
  induction fills with
  | nil => intro _ h; cases h
  | cons first rest ih =>
      intro seen h
      by_cases hfirst : OfStrategy strategyTag first.clientOrderId ∧ first.dedupeKey ∉ seen
      · rw [countedFills_cons_of_counted hfirst] at h
        rcases List.mem_cons.1 h with rfl | h
        · exact ⟨.head _, hfirst⟩
        · obtain ⟨hmem, hown, hseen⟩ := ih h
          exact ⟨.tail _ hmem, hown, fun hs => hseen (.tail _ hs)⟩
      · rw [countedFills_cons_of_skipped hfirst] at h
        obtain ⟨hmem, hrest⟩ := ih h
        exact ⟨.tail _ hmem, hrest⟩

/-- No execution is counted twice. -/
theorem countedFills_nodup {fills : List OkxFill} :
    ∀ {seen : List Text}, ((countedFills strategyTag fills seen).map (·.dedupeKey)).Nodup := by
  induction fills with
  | nil => exact List.nodup_nil
  | cons first rest ih =>
      intro seen
      by_cases hfirst : OfStrategy strategyTag first.clientOrderId ∧ first.dedupeKey ∉ seen
      · rw [countedFills_cons_of_counted hfirst, List.map_cons, List.nodup_cons]
        refine ⟨fun h => ?_, ih⟩
        obtain ⟨fill, hfill, hkey⟩ := List.mem_map.1 h
        exact (mem_of_countedFills hfill).2.2 (hkey ▸ .head _)
      · rw [countedFills_cons_of_skipped hfirst]
        exact ih

/-- Every execution of the strategy is counted. -/
theorem countedFills_covers {fills : List OkxFill} {fill : OkxFill} :
    ∀ {seen : List Text}, fill ∈ fills → OfStrategy strategyTag fill.clientOrderId →
      fill.dedupeKey ∉ seen →
      ∃ counted ∈ countedFills strategyTag fills seen, counted.dedupeKey = fill.dedupeKey := by
  induction fills with
  | nil => intro _ h; cases h
  | cons first rest ih =>
      intro seen hmem hown hseen
      by_cases hfirst : OfStrategy strategyTag first.clientOrderId ∧ first.dedupeKey ∉ seen
      · rw [countedFills_cons_of_counted hfirst]
        by_cases hkey : first.dedupeKey = fill.dedupeKey
        · exact ⟨first, .head _, hkey⟩
        · have hrest : fill ∈ rest := (List.mem_cons.1 hmem).resolve_left fun h => hkey (h ▸ rfl)
          obtain ⟨counted, hcounted, heq⟩ := ih hrest hown
            (List.not_mem_cons_of_ne_of_not_mem (Ne.symm hkey) hseen)
          exact ⟨counted, .tail _ hcounted, heq⟩
      · rw [countedFills_cons_of_skipped hfirst]
        have hrest : fill ∈ rest :=
          (List.mem_cons.1 hmem).resolve_left fun h => hfirst (h ▸ ⟨hown, hseen⟩)
        exact ih hrest hown hseen

/-- Rows of the strategy with the same key are the same row. -/
def Identified (strategyTag : Text) (fills : List OkxFill) : Prop :=
  ∀ fill ∈ fills, ∀ fill' ∈ fills, OfStrategy strategyTag fill.clientOrderId →
    OfStrategy strategyTag fill'.clientOrderId → fill.dedupeKey = fill'.dedupeKey → fill = fill'

theorem mem_countedFills {fills : List OkxFill} (hid : Identified strategyTag fills)
    {fill : OkxFill} :
    fill ∈ countedFills strategyTag fills [] ↔
      fill ∈ fills ∧ OfStrategy strategyTag fill.clientOrderId := by
  constructor
  · intro h
    obtain ⟨hmem, hown, -⟩ := mem_of_countedFills h
    exact ⟨hmem, hown⟩
  · rintro ⟨hmem, hown⟩
    obtain ⟨counted, hcounted, hkey⟩ := countedFills_covers hmem hown List.not_mem_nil
    obtain ⟨hmem', hown', -⟩ := mem_of_countedFills hcounted
    exact hid counted hmem' fill hmem hown' hown hkey ▸ hcounted

theorem countedFills_perm {fills fills' : List OkxFill} (hid : Identified strategyTag fills)
    (hid' : Identified strategyTag fills')
    (hsame : ∀ fill, OfStrategy strategyTag fill.clientOrderId → (fill ∈ fills ↔ fill ∈ fills')) :
    (countedFills strategyTag fills []).Perm (countedFills strategyTag fills' []) := by
  refine (List.perm_ext_iff_of_nodup countedFills_nodup.of_map countedFills_nodup.of_map).2 ?_
  intro fill
  rw [mem_countedFills hid, mem_countedFills hid']
  exact and_congr_left fun hown => hsame fill hown

end Counted

/-! ## Order and repetition -/

section Rows

variable {ops : DecimalOps} {strategyTag : Text} {instrument : OkxInstrument}
  {orders orders' : List OkxOrder}
  {fills fills' : List OkxFill} {evidence : List StrategyFillEvidence}

/-- Rows of evidence are on the side of their purpose. -/
theorem strategyFillEvidence_side
    (h : (ops.strategyFillEvidence orders fills strategyTag instrument).Returns evidence) :
    ∀ e ∈ evidence, e.side = e.purpose.side := by
  obtain ⟨-, -, fillRows, orderRows, hfills, horders, rfl⟩ := strategyFillEvidence_returns.1 h
  intro e he
  rcases List.mem_append.1 he with he | he
  · obtain ⟨fill, -, hrow⟩ := exists_of_mem_forall₂ hfills e he
    exact hrow.expected
  · obtain ⟨order, -, hrow⟩ := exists_of_mem_forall₂ horders e he
    exact hrow.expected

theorem countedOrders_perm {ids ids' : List Text} (horders : orders.Perm orders')
    (hids : ∀ id, id ∈ ids ↔ id ∈ ids') :
    (countedOrders strategyTag ids orders).Perm (countedOrders strategyTag ids' orders') := by
  have hcongr : countedOrders strategyTag ids orders = countedOrders strategyTag ids' orders := by
    refine List.filter_congr fun order _ => ?_
    simp only [hids]
  rw [hcongr]
  exact horders.filter _

/-- **Neither the order of the rows nor repeated fills matter.** -/
theorem strategyFillEvidence_perm (hid : Identified strategyTag fills)
    (horders : orders.Perm orders') (hid' : Identified strategyTag fills')
    (hfills : ∀ fill, OfStrategy strategyTag fill.clientOrderId → (fill ∈ fills ↔ fill ∈ fills'))
    (h : (ops.strategyFillEvidence orders fills strategyTag instrument).Returns evidence) :
    ∃ evidence',
      (ops.strategyFillEvidence orders' fills' strategyTag instrument).Returns evidence' ∧
      evidence.Perm evidence' := by
  obtain ⟨hkeys, hsizes, fillRows, orderRows, hfillRows, horderRows, rfl⟩ :=
    strategyFillEvidence_returns.1 h
  have hcounted := countedFills_perm hid hid' hfills
  have hids : ∀ id : Text, id ∈ (countedFills strategyTag fills []).map (·.clientOrderId) ↔
      id ∈ (countedFills strategyTag fills' []).map (·.clientOrderId) :=
    fun id => (hcounted.map _).mem_iff
  obtain ⟨fillRows', hfillRows', hfillPerm⟩ := List.perm_comp_forall₂ hcounted.symm hfillRows
  obtain ⟨orderRows', horderRows', horderPerm⟩ :=
    List.perm_comp_forall₂ (countedOrders_perm horders hids).symm horderRows
  refine ⟨fillRows' ++ orderRows', strategyFillEvidence_returns.2 ⟨?_, ?_, fillRows', orderRows',
    hfillRows', horderRows', rfl⟩, (hfillPerm.append horderPerm).symm⟩
  · intro fill hfill hown
    exact hkeys fill ((hfills fill hown).2 hfill) hown
  · intro order horder hown hfree
    exact hsizes order (horders.mem_iff.2 horder) hown fun h => hfree ((hids _).1 h)

end Rows

end OkxTrading
