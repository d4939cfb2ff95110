import OkxTrading.Properties.RollingWindow

/-!
# Bounds of the features

What the features of a valid book can be, where decimals do not round.

* `quantitySum_exact`, `notionalSum_exact`, … — the helpers as sums and quotients.
* `signedRatio_bounds`, `microprice_between` — the inequalities behind them.
* `FeaturesSound` — the bounds; `calculateFeatures_sound` — one calculation.
* `features_sound` — **every emitted snapshot keeps them**.
-/

namespace OkxTrading

open Collections

/-! ## Helpers without rounding -/

section Exact

variable {levels : List PricedLevel} {a b : Decimal}

/-- Quantity and notional of the levels, added up. -/
def totalQuantity (levels : List PricedLevel) : Decimal := (levels.map (·.2.quantity)).sum

/-- The notional of some levels. -/
def totalNotional (levels : List PricedLevel) : Decimal :=
  (levels.map fun level => level.1 * level.2.quantity).sum

/-- The quantities, each over its place counted from the top. -/
def totalWeighted (levels : List PricedLevel) : Decimal :=
  (levels.zipIdx.map fun level => level.1.2.quantity / ((level.2 + 1 : ℕ) : ℚ)).sum

theorem foldlM_add_exact (values : List Decimal) (total : Decimal) :
    values.foldlM DecimalOps.exact.add total = some (total + values.sum) := by
  induction values generalizing total with
  | nil => simp
  | cons value rest ih =>
      rw [List.foldlM_cons, List.sum_cons, ← add_assoc]
      exact ih (total + value)

theorem decimalSum_exact (values : List Decimal) :
    decimalSum .exact values = some values.sum := by
  rw [decimalSum, foldlM_add_exact, zero_add]

theorem mapM_some {α β : Type} {f : α → Option β} {g : α → β} {xs : List α}
    (h : ∀ x ∈ xs, f x = some (g x)) : xs.mapM f = some (xs.map g) := by
  induction xs with
  | nil => rfl
  | cons x rest ih =>
      obtain ⟨hx, hrest⟩ := List.forall_mem_cons.1 h
      rw [List.mapM_cons, hx, ih hrest]
      rfl

theorem quantitySum_exact : quantitySum .exact levels = some (totalQuantity levels) :=
  decimalSum_exact _

theorem notionalSum_exact : notionalSum .exact levels = some (totalNotional levels) := by
  have hmap : levels.mapM (fun level => DecimalOps.exact.mul level.1 level.2.quantity) =
      some (levels.map fun level => level.1 * level.2.quantity) := mapM_some fun _ _ => rfl
  rw [notionalSum, hmap]
  exact decimalSum_exact _

theorem distanceWeightedSum_exact :
    distanceWeightedSum .exact levels = some (totalWeighted levels) := by
  have hmap : levels.zipIdx.mapM (fun level =>
        DecimalOps.exact.div level.1.2.quantity ((level.2 + 1 : ℕ) : ℚ)) =
      some (levels.zipIdx.map fun level => level.1.2.quantity / ((level.2 + 1 : ℕ) : ℚ)) :=
    mapM_some fun _ _ => DecimalOps.exact_div (Nat.cast_ne_zero.2 (Nat.succ_ne_zero _))
  rw [distanceWeightedSum, hmap]
  exact decimalSum_exact _

theorem sideDepth_exact :
    sideDepth .exact levels = some (totalQuantity levels, totalNotional levels) := by
  have hfrom : ∀ (levels : List PricedLevel) (depth : Decimal × Decimal),
      levels.foldlM (fun (depth : Decimal × Decimal) (level : PricedLevel) => do
        let quantity ← DecimalOps.exact.add depth.1 level.2.quantity
        let product ← DecimalOps.exact.mul level.1 level.2.quantity
        let notional ← DecimalOps.exact.add depth.2 product
        return (quantity, notional)) depth =
      some (depth.1 + totalQuantity levels, depth.2 + totalNotional levels) := by
    intro levels
    induction levels with
    | nil => intro depth; simp [totalQuantity, totalNotional]
    | cons level rest ih =>
        intro depth
        rw [List.foldlM_cons]
        refine (ih (depth.1 + level.2.quantity, depth.2 + level.1 * level.2.quantity)).trans ?_
        simp [totalQuantity, totalNotional, add_assoc]
  rw [sideDepth, hfrom, zero_add, zero_add]

theorem signedRatio_exact (hpos : 0 < a + b) :
    signedRatio .exact a b = some ((a - b) / (a + b)) := by
  unfold signedRatio
  show (if a + b ≤ 0 then some 0 else DecimalOps.exact.div (a - b) (a + b)) = _
  rw [if_neg (not_le.2 hpos), DecimalOps.exact_div hpos.ne']

/-- A ratio of a part to a whole is not negative. -/
theorem positiveRatio_nonneg {r : Decimal} (h : positiveRatio .exact a b = some r) : 0 ≤ r := by
  unfold positiveRatio at h
  split at h
  · cases h
    exact le_rfl
  · rename_i hpos
    obtain ⟨ha, hb⟩ := not_or.1 hpos
    rw [DecimalOps.exact_div (not_le.1 hb).ne'] at h
    cases h
    exact div_nonneg (not_le.1 ha).le (not_le.1 hb).le

/-! ## Inequalities -/

/-- A signed ratio of positive amounts is strictly between minus one and one. -/
theorem signed_ratio_bounds (ha : 0 < a) (hb : 0 < b) :
    -1 < (a - b) / (a + b) ∧ (a - b) / (a + b) < 1 := by
  have hpos : 0 < a + b := add_pos ha hb
  rw [lt_div_iff₀ hpos, div_lt_iff₀ hpos]
  constructor <;> linarith

/-- A price weighted by positive quantities is between the prices. -/
theorem weighted_between {bid ask p q : Decimal} (hspread : bid < ask) (hp : 0 < p) (hq : 0 < q) :
    bid < (ask * p + bid * q) / (p + q) ∧ (ask * p + bid * q) / (p + q) < ask := by
  have hpos : 0 < p + q := add_pos hp hq
  rw [lt_div_iff₀ hpos, div_lt_iff₀ hpos]
  constructor
  · have := mul_lt_mul_of_pos_right hspread hp
    linarith
  · have := mul_lt_mul_of_pos_right hspread hq
    linarith

/-- So is the mid, moved by less than half the spread. -/
theorem moved_mid_between {bid ask share : Decimal} (hspread : bid < ask) (hlower : -1 < share)
    (hupper : share < 1) :
    bid < (ask + bid) / 2 + (ask - bid) * share / 2 ∧
      (ask + bid) / 2 + (ask - bid) * share / 2 < ask := by
  have hpos : 0 < ask - bid := sub_pos.2 hspread
  have hlow := mul_lt_mul_of_pos_left hlower hpos
  have hup := mul_lt_mul_of_pos_left hupper hpos
  constructor <;> linarith

end Exact

/-! ## Levels of a side -/

section Levels

variable {levels front : List PricedLevel}

/-- Levels with positive prices and quantities. -/
def PositiveLevels (levels : List PricedLevel) : Prop :=
  ∀ level ∈ levels, 0 < level.1 ∧ 0 < level.2.quantity

theorem PositiveLevels.sublist (h : PositiveLevels levels) (hfront : front.Sublist levels) :
    PositiveLevels front := fun level hlevel => h level (hfront.mem hlevel)

theorem totalQuantity_pos (h : PositiveLevels levels) (hne : levels ≠ []) :
    0 < totalQuantity levels := by
  refine List.sum_pos _ (fun x hx => ?_) (by simpa using hne)
  obtain ⟨level, hlevel, rfl⟩ := List.mem_map.1 hx
  exact (h level hlevel).2

theorem totalNotional_pos (h : PositiveLevels levels) (hne : levels ≠ []) :
    0 < totalNotional levels := by
  refine List.sum_pos _ (fun x hx => ?_) (by simpa using hne)
  obtain ⟨level, hlevel, rfl⟩ := List.mem_map.1 hx
  exact mul_pos (h level hlevel).1 (h level hlevel).2

theorem totalWeighted_pos (h : PositiveLevels levels) (hne : levels ≠ []) :
    0 < totalWeighted levels := by
  refine List.sum_pos _ (fun x hx => ?_) (by simpa using hne)
  obtain ⟨⟨level, index⟩, hlevel, rfl⟩ := List.mem_map.1 hx
  exact div_pos (h level (List.fst_mem_of_mem_zipIdx hlevel)).2 (Nat.cast_pos.2 index.succ_pos)

/-- More levels hold more. -/
theorem totals_mono (h : PositiveLevels levels) (hfront : front.Sublist levels) :
    totalQuantity front ≤ totalQuantity levels ∧ totalNotional front ≤ totalNotional levels := by
  constructor
  · refine (hfront.map _).sum_le_sum fun x hx => ?_
    obtain ⟨level, hlevel, rfl⟩ := List.mem_map.1 hx
    exact (h level hlevel).2.le
  · refine (hfront.map _).sum_le_sum fun x hx => ?_
    obtain ⟨level, hlevel, rfl⟩ := List.mem_map.1 hx
    exact (mul_pos (h level hlevel).1 (h level hlevel).2).le

/-- A wider range of prices takes in more levels. -/
theorem takeWhile_sublist {p q : PricedLevel → Bool}
    (hpq : ∀ level, p level = true → q level = true)
    (levels : List PricedLevel) : (levels.takeWhile p).Sublist (levels.takeWhile q) := by
  have hboth : (levels.takeWhile q).takeWhile p = levels.takeWhile p := by
    rw [List.takeWhile_takeWhile]
    congr 1
    funext level
    cases hp : p level with
    | false => simp
    | true => simp [hpq level hp]
  rw [← hboth]
  exact List.takeWhile_sublist _

theorem positiveLevels_bids {side : BookSide} (h : PositiveSide side) :
    PositiveLevels (bestBidsFirst side) := fun level hlevel => h level (List.mem_reverse.1 hlevel)

theorem positiveLevels_asks {side : BookSide} (h : PositiveSide side) :
    PositiveLevels (bestAsksFirst side) := h

end Levels

/-! ## The bounds -/

namespace OkxLevel2Book

open Effect

/-- No more on either side. -/
structure Within (inner outer : OkxDepthMove) : Prop where
  bidQuantity : inner.bidQuantity ≤ outer.bidQuantity
  askQuantity : inner.askQuantity ≤ outer.askQuantity
  bidNotional : inner.bidNotional ≤ outer.bidNotional
  askNotional : inner.askNotional ≤ outer.askNotional

/-- All that a book holds. -/
def sideTotals (book : OkxLevel2Book) : OkxDepthMove where
  bidQuantity := totalQuantity (bestBidsFirst book.bids)
  askQuantity := totalQuantity (bestAsksFirst book.asks)
  bidNotional := totalNotional (bestBidsFirst book.bids)
  askNotional := totalNotional (bestAsksFirst book.asks)

/-- The imbalances of features: by number of levels, by distance and by notional. -/
def imbalancesOf (features : OkxLevel2FeatureSnapshot) : List Decimal :=
  [features.imbalanceL1, features.imbalanceL3, features.imbalanceL5, features.imbalanceL10,
    features.imbalanceL25, features.imbalanceL50, features.imbalanceL100, features.imbalanceL200,
    features.imbalanceL400, features.distanceWeightedImbalance, features.notionalImbalance]

/-- **The bounds of features** of a book. -/
structure FeaturesSound (book : OkxLevel2Book) (features : OkxLevel2FeatureSnapshot) : Prop where
  imbalances : ∀ share ∈ imbalancesOf features, -1 ≤ share ∧ share ≤ 1
  classicMicroprice : features.bestBid < features.classicMicroprice ∧
    features.classicMicroprice < features.bestAsk
  multiLevelMicroprice : features.bestBid < features.multiLevelMicroprice ∧
    features.multiLevelMicroprice < features.bestAsk
  liquidityVacuum : 0 ≤ features.liquidityVacuum ∧ features.liquidityVacuum ≤ 1
  imbalancePersistence : 0 ≤ features.imbalancePersistence ∧ features.imbalancePersistence ≤ 1
  depthSlope : 0 ≤ features.depthSlope.bidBpsPerBaseUnit ∧
    0 ≤ features.depthSlope.askBpsPerBaseUnit
  volatility : 0 ≤ features.shortHorizonBookVolatilityBps
  depthMove1bps : Within features.depthMove1bps features.depthMove2bps
  depthMove2bps : Within features.depthMove2bps features.depthMove5bps
  depthMove5bps : Within features.depthMove5bps features.depthMove10bps
  depthMove10bps : Within features.depthMove10bps book.sideTotals

variable {bids asks : BookSide} {bid ask : PricedLevel} {mid spread : Decimal}

/-- Filled sides with positive levels. -/
structure Filled (bids asks : BookSide) : Prop where
  positiveBids : PositiveLevels (bestBidsFirst bids)
  positiveAsks : PositiveLevels (bestAsksFirst asks)
  bids_ne : bestBidsFirst bids ≠ []
  asks_ne : bestAsksFirst asks ≠ []

theorem take_ne_nil {levels : List PricedLevel} {n : ℕ} (hne : levels ≠ []) (hn : 0 < n) :
    levels.take n ≠ [] := by
  rw [Ne, List.take_eq_nil_iff]
  exact fun h => h.elim hn.ne' hne

theorem imbalance_bounds (h : Filled bids asks) {n : ℕ} (hn : 0 < n) {share : Decimal}
    (hshare : imbalance .exact bids asks n = some share) : -1 ≤ share ∧ share ≤ 1 := by
  have hbid := totalQuantity_pos (h.positiveBids.sublist (List.take_sublist n _))
    (take_ne_nil h.bids_ne hn)
  have hask := totalQuantity_pos (h.positiveAsks.sublist (List.take_sublist n _))
    (take_ne_nil h.asks_ne hn)
  simp only [imbalance, quantitySum_exact, Option.bind_eq_bind, Option.bind_some] at hshare
  rw [signedRatio_exact (add_pos hbid hask)] at hshare
  cases hshare
  exact ⟨(signed_ratio_bounds hbid hask).1.le, (signed_ratio_bounds hbid hask).2.le⟩

theorem notionalImbalance_bounds (h : Filled bids asks) {n : ℕ} (hn : 0 < n) {share : Decimal}
    (hshare : notionalImbalance .exact bids asks n = some share) : -1 ≤ share ∧ share ≤ 1 := by
  have hbid := totalNotional_pos (h.positiveBids.sublist (List.take_sublist n _))
    (take_ne_nil h.bids_ne hn)
  have hask := totalNotional_pos (h.positiveAsks.sublist (List.take_sublist n _))
    (take_ne_nil h.asks_ne hn)
  simp only [notionalImbalance, notionalSum_exact, Option.bind_eq_bind, Option.bind_some] at hshare
  rw [signedRatio_exact (add_pos hbid hask)] at hshare
  cases hshare
  exact ⟨(signed_ratio_bounds hbid hask).1.le, (signed_ratio_bounds hbid hask).2.le⟩

theorem distanceWeightedImbalance_bounds (h : Filled bids asks) {share : Decimal}
    (hshare : distanceWeightedImbalance .exact bids asks = some share) :
    -1 < share ∧ share < 1 := by
  have hdepth : 0 < okxLevel2MaxDepth := by norm_num [okxLevel2MaxDepth]
  have hbid := totalWeighted_pos (h.positiveBids.sublist (List.take_sublist okxLevel2MaxDepth _))
    (take_ne_nil h.bids_ne hdepth)
  have hask := totalWeighted_pos (h.positiveAsks.sublist (List.take_sublist okxLevel2MaxDepth _))
    (take_ne_nil h.asks_ne hdepth)
  simp only [distanceWeightedImbalance, distanceWeightedSum_exact, Option.bind_eq_bind,
    Option.bind_some] at hshare
  rw [signedRatio_exact (add_pos hbid hask)] at hshare
  cases hshare
  exact signed_ratio_bounds hbid hask

theorem depthSlope_nonneg {levels : ℕ} {slope : OkxDepthSlope}
    (h : depthSlope .exact bids asks mid levels = some slope) :
    0 ≤ slope.bidBpsPerBaseUnit ∧ 0 ≤ slope.askBpsPerBaseUnit := by
  simp only [depthSlope, Option.bind_eq_bind, Option.bind_eq_some_iff] at h
  obtain ⟨_, -, _, -, _, -, _, -, _, -, bidSlope, hbid, _, -, _, -, _, -, askSlope, hask, h⟩ := h
  cases h
  exact ⟨positiveRatio_nonneg hbid, positiveRatio_nonneg hask⟩

theorem liquidityVacuum_bounds {vacuum : Decimal}
    (h : liquidityVacuum .exact bids asks = some vacuum) : 0 ≤ vacuum ∧ vacuum ≤ 1 := by
  simp only [liquidityVacuum, Option.bind_eq_bind, Option.bind_eq_some_iff] at h
  obtain ⟨_, -, _, -, _, -, _, -, _, -, _, -, _, -, h⟩ := h
  cases h
  exact ⟨le_max_left _ _, max_le zero_le_one (min_le_right _ _)⟩

/-- The bids and asks within some basis points of the mid. -/
def nearBids (bids : BookSide) (mid : Decimal) (basisPoints : ℕ) : List PricedLevel :=
  (bestBidsFirst bids).takeWhile fun level =>
    decide (mid * (1 - (basisPoints : ℚ) / 10000) ≤ level.1)

/-- The asks within a distance of the midpoint. -/
def nearAsks (asks : BookSide) (mid : Decimal) (basisPoints : ℕ) : List PricedLevel :=
  (bestAsksFirst asks).takeWhile fun level =>
    decide (level.1 ≤ mid * (1 + (basisPoints : ℚ) / 10000))

theorem depthToMove_exact {basisPoints : ℕ} {move : OkxDepthMove}
    (h : depthToMove .exact bids asks mid basisPoints = some move) :
    move = { bidQuantity := totalQuantity (nearBids bids mid basisPoints)
             askQuantity := totalQuantity (nearAsks asks mid basisPoints)
             bidNotional := totalNotional (nearBids bids mid basisPoints)
             askNotional := totalNotional (nearAsks asks mid basisPoints) } := by
  have hscale : ((basisPointsPerUnit : ℕ) : ℚ) = 10000 := by norm_num [basisPointsPerUnit]
  unfold depthToMove at h
  rw [hscale, DecimalOps.exact_div (by norm_num)] at h
  simp only [DecimalOps.exact, Option.bind_eq_bind, Option.bind_some] at h
  rw [← DecimalOps.exact, sideDepth_exact, sideDepth_exact] at h
  exact (Option.some.inj h).symm

/-- More basis points take in more of both sides. -/
theorem within_of_le (h : Filled bids asks) (hmid : 0 ≤ mid) {m n : ℕ} (hmn : m ≤ n)
    {inner outer : OkxDepthMove} (hinner : depthToMove .exact bids asks mid m = some inner)
    (houter : depthToMove .exact bids asks mid n = some outer) : Within inner outer := by
  have hcast : (m : ℚ) / 10000 ≤ (n : ℚ) / 10000 := by
    have : (m : ℚ) ≤ n := Nat.cast_le.2 hmn
    linarith
  have hbids : (nearBids bids mid m).Sublist (nearBids bids mid n) := by
    refine takeWhile_sublist (fun level hlevel => ?_) _
    rw [decide_eq_true_eq] at hlevel ⊢
    exact (mul_le_mul_of_nonneg_left (by linarith) hmid).trans hlevel
  have hasks : (nearAsks asks mid m).Sublist (nearAsks asks mid n) := by
    refine takeWhile_sublist (fun level hlevel => ?_) _
    rw [decide_eq_true_eq] at hlevel ⊢
    exact hlevel.trans (mul_le_mul_of_nonneg_left (by linarith) hmid)
  have hbidTotals := totals_mono (h.positiveBids.sublist (List.takeWhile_sublist _)) hbids
  have haskTotals := totals_mono (h.positiveAsks.sublist (List.takeWhile_sublist _)) hasks
  rw [depthToMove_exact hinner, depthToMove_exact houter]
  exact ⟨hbidTotals.1, haskTotals.1, hbidTotals.2, haskTotals.2⟩

theorem within_totals {book : OkxLevel2Book} (h : Filled book.bids book.asks) {n : ℕ}
    {move : OkxDepthMove} (hmove : depthToMove .exact book.bids book.asks mid n = some move) :
    Within move book.sideTotals := by
  have hbids := totals_mono h.positiveBids (List.takeWhile_sublist fun level =>
    decide (mid * (1 - (n : ℚ) / 10000) ≤ level.1))
  have hasks := totals_mono h.positiveAsks (List.takeWhile_sublist fun level =>
    decide (level.1 ≤ mid * (1 + (n : ℚ) / 10000)))
  rw [depthToMove_exact hmove]
  exact ⟨hbids.1, hasks.1, hbids.2, hasks.2⟩

/-- Mid, spread and microprice of the best levels. -/
theorem topFeatures_exact {top : TopFeatures}
    (hpos : 0 < bid.2.quantity + ask.2.quantity)
    (h : topFeatures .exact bid ask = some (.ok top)) :
    top = { bestBid := bid.1, bestAsk := ask.1, mid := (ask.1 + bid.1) / 2
            spread := ask.1 - bid.1
            classicMicroprice := (ask.1 * bid.2.quantity + bid.1 * ask.2.quantity) /
              (bid.2.quantity + ask.2.quantity) } := by
  unfold topFeatures at h
  rw [show DecimalOps.exact.sub = fun a b => some (a - b) from rfl,
    show DecimalOps.exact.add = fun a b => some (a + b) from rfl,
    show DecimalOps.exact.mul = fun a b => some (a * b) from rfl] at h
  simp only [Option.bind_eq_bind, Option.bind_some, DecimalOps.exact_div two_ne_zero,
    if_neg (not_le.2 hpos), DecimalOps.exact_div hpos.ne'] at h
  cases h
  rfl

theorem depthFeatures_parts {depth : DepthFeatures}
    (h : depthFeatures .exact bids asks mid spread = some depth) :
    distanceWeightedImbalance .exact bids asks = some depth.distanceWeightedImbalance ∧
      depth.multiLevelMicroprice = mid + spread * depth.distanceWeightedImbalance / 2 ∧
      notionalImbalance .exact bids asks okxLevel2MaxDepth = some depth.notionalImbalance ∧
      depthToMove .exact bids asks mid 1 = some depth.depthMove1bps ∧
      depthToMove .exact bids asks mid 2 = some depth.depthMove2bps ∧
      depthToMove .exact bids asks mid 5 = some depth.depthMove5bps ∧
      depthToMove .exact bids asks mid 10 = some depth.depthMove10bps ∧
      depthSlope .exact bids asks mid 10 = some depth.depthSlope ∧
      liquidityVacuum .exact bids asks = some depth.liquidityVacuum := by
  obtain ⟨weighted, hweighted, h⟩ := Option.bind_eq_some_iff.1 h
  obtain ⟨scaled, hscaled, h⟩ := Option.bind_eq_some_iff.1 h
  obtain ⟨half, hhalf, h⟩ := Option.bind_eq_some_iff.1 h
  obtain ⟨price, hprice, h⟩ := Option.bind_eq_some_iff.1 h
  obtain ⟨_, -, h⟩ := Option.bind_eq_some_iff.1 h
  obtain ⟨slope, hslope, h⟩ := Option.bind_eq_some_iff.1 h
  obtain ⟨vacuum, hvacuum, h⟩ := Option.bind_eq_some_iff.1 h
  obtain ⟨_, -, h⟩ := Option.bind_eq_some_iff.1 h
  obtain ⟨notional, hnotional, h⟩ := Option.bind_eq_some_iff.1 h
  obtain ⟨one, hone, h⟩ := Option.bind_eq_some_iff.1 h
  obtain ⟨two, htwo, h⟩ := Option.bind_eq_some_iff.1 h
  obtain ⟨five, hfive, h⟩ := Option.bind_eq_some_iff.1 h
  obtain ⟨ten, hten, h⟩ := Option.bind_eq_some_iff.1 h
  cases h
  refine ⟨hweighted, ?_, hnotional, hone, htwo, hfive, hten, hslope, hvacuum⟩
  rw [DecimalOps.exact_div two_ne_zero] at hhalf
  cases hscaled
  cases hhalf
  cases hprice
  rfl

theorem imbalanceFeatures_bounds (h : Filled bids asks) {imbalances : ImbalanceFeatures}
    (himbalances : imbalanceFeatures .exact bids asks = some imbalances) :
    ∀ share ∈ [imbalances.imbalanceL1, imbalances.imbalanceL3, imbalances.imbalanceL5,
      imbalances.imbalanceL10, imbalances.imbalanceL25, imbalances.imbalanceL50,
      imbalances.imbalanceL100, imbalances.imbalanceL200, imbalances.imbalanceL400],
      -1 ≤ share ∧ share ≤ 1 := by
  simp only [imbalanceFeatures, Option.bind_eq_bind, Option.bind_eq_some_iff] at himbalances
  obtain ⟨l1, h1, l3, h3, l5, h5, l10, h10, l25, h25, l50, h50, l100, h100, l200, h200, l400, h400,
    himbalances⟩ := himbalances
  cases himbalances
  simp only [List.forall_mem_cons, List.not_mem_nil, false_imp_iff, implies_true, and_true]
  exact ⟨imbalance_bounds h (by norm_num) h1, imbalance_bounds h (by norm_num) h3,
    imbalance_bounds h (by norm_num) h5, imbalance_bounds h (by norm_num) h10,
    imbalance_bounds h (by norm_num) h25, imbalance_bounds h (by norm_num) h50,
    imbalance_bounds h (by norm_num) h100, imbalance_bounds h (by norm_num) h200,
    imbalance_bounds h (by norm_num) h400⟩

/-- A share of some events is between zero and one, and a mean of returns is not negative. -/
theorem ExactlyRecent.bounds {history : List RollingFeaturePoint}
    {features : OkxLevel2FeatureSnapshot} (h : ExactlyRecent history features) :
    (0 ≤ features.imbalancePersistence ∧ features.imbalancePersistence ≤ 1) ∧
      0 ≤ features.shortHorizonBookVolatilityBps := by
  rw [h.persistence, h.volatility]
  refine ⟨⟨div_nonneg (Nat.cast_nonneg _) (Nat.cast_nonneg _), ?_⟩,
    div_nonneg (List.sum_nonneg fun x hx => ?_) (Nat.cast_nonneg _)⟩
  · exact div_le_one_of_le₀ (Nat.cast_le.2 (List.length_filter_le _ _)) (Nat.cast_nonneg _)
  · obtain ⟨pair, -, rfl⟩ := List.mem_map.1 hx
    unfold returnBps
    split
    · exact le_rfl
    · rename_i hpos
      exact mul_nonneg (div_nonneg (abs_nonneg _) (not_le.1 hpos).le) (by norm_num)

theorem Live.filled {ops : DecimalOps} {book : OkxLevel2Book} (h : Live ops book) :
    Filled book.bids book.asks := by
  obtain ⟨bid, ask, hbid, hask, -⟩ := h.uncrossed
  refine ⟨positiveLevels_bids h.positiveBids, positiveLevels_asks h.positiveAsks, ?_, ?_⟩
  · exact List.ne_nil_of_mem (List.mem_reverse.2 (SortedMap.mem_of_last? hbid))
  · exact List.ne_nil_of_mem (SortedMap.mem_of_first? hask)

/-! ## Emitted features -/

variable {ops : DecimalOps} {book book' : OkxLevel2Book} {call : Call}
  {features : OkxLevel2FeatureSnapshot}

/-- Emitted features are those of the book after the call. -/
theorem emitted_parts (hcall : call.Validated) (h : Coherent ops book)
    (hanswer : book.answer ops call = some (some (.ok (.features features)), book')) :
    Live ops book' ∧ FeaturesOf ops book'.bids book'.asks features ∧
      depthFeatures ops book'.bids book'.asks features.mid features.spread =
        some features.toDepthFeatures := by
  have hcoherent := coherent_answer hcall h hanswer
  cases call with
  | invalidate => cases hanswer
  | apply update bookAppliedAt featuresReadyAt =>
      obtain ⟨result, hresult, happly⟩ := answer_apply hanswer
      have hresult : result = .ok (.features features) := (Option.some.inj hresult).symm
      subst hresult
      cases apply_cases happly with
      | snapshot next features rolling haction hnext hfeatures =>
          obtain ⟨hof, -⟩ := calculateFeatures_of_ok hfeatures
          obtain ⟨hdepth, -⟩ := calculateFeatures_parts hfeatures
          exact ⟨live_of_ready (ready_of_snapshotBook hcall hnext) hfeatures, hof, hdepth⟩
      | increment current next features rolling haction hvalid hsequence hnext hfeatures =>
          obtain ⟨hof, -⟩ := calculateFeatures_of_ok hfeatures
          obtain ⟨hdepth, -⟩ := calculateFeatures_parts hfeatures
          exact ⟨live_of_ready (ready_of_incrementBook hcall (h.live hvalid) hnext) hfeatures, hof,
            hdepth⟩

/-- The bounds that need the sides alone. -/
theorem features_sound_of_parts (hlive : Live .exact book)
    (hof : FeaturesOf .exact book.bids book.asks features)
    (hdepth : depthFeatures .exact book.bids book.asks features.mid features.spread =
      some features.toDepthFeatures)
    (hrolling : (0 ≤ features.imbalancePersistence ∧ features.imbalancePersistence ≤ 1) ∧
      0 ≤ features.shortHorizonBookVolatilityBps) : FeaturesSound book features := by
  have hfilled := hlive.filled
  obtain ⟨bid, ask, hbid, hask, htop⟩ := hof.top
  obtain ⟨bid', ask', hbid', hask', hspread⟩ := hlive.uncrossed
  cases hbid.symm.trans hbid'
  cases hask.symm.trans hask'
  have hbidLevel := hlive.positiveBids bid (SortedMap.mem_of_last? hbid)
  have haskLevel := hlive.positiveAsks ask (SortedMap.mem_of_first? hask)
  have hexact := topFeatures_exact (add_pos hbidLevel.2 haskLevel.2) htop
  have hbest : features.bestBid = bid.1 ∧ features.bestAsk = ask.1 := topFeatures_best htop
  have hmid : features.mid = (ask.1 + bid.1) / 2 := congrArg TopFeatures.mid hexact
  have hspreadEq : features.spread = ask.1 - bid.1 := congrArg TopFeatures.spread hexact
  have hclassic : features.classicMicroprice = (ask.1 * bid.2.quantity + bid.1 * ask.2.quantity) /
      (bid.2.quantity + ask.2.quantity) := congrArg TopFeatures.classicMicroprice hexact
  obtain ⟨hweighted, hprice, hnotional, hone, htwo, hfive, hten, hslope, hvacuum⟩ :=
    depthFeatures_parts hdepth
  have hbounds := distanceWeightedImbalance_bounds hfilled hweighted
  have hmid0 : 0 ≤ features.mid := by
    rw [hmid]
    have := hbidLevel.1
    have := haskLevel.1
    linarith
  have hmulti : features.multiLevelMicroprice =
      (ask.1 + bid.1) / 2 + (ask.1 - bid.1) * features.distanceWeightedImbalance / 2 := by
    rw [← hmid, ← hspreadEq]
    exact hprice
  refine ⟨?_, ?_, ?_, liquidityVacuum_bounds hvacuum, hrolling.1, depthSlope_nonneg hslope,
    hrolling.2, within_of_le hfilled hmid0 (by norm_num) hone htwo,
    within_of_le hfilled hmid0 (by norm_num) htwo hfive,
    within_of_le hfilled hmid0 (by norm_num) hfive hten, within_totals hfilled hten⟩
  · have hdepthMax : 0 < okxLevel2MaxDepth := by norm_num [okxLevel2MaxDepth]
    intro share hshare
    rcases List.mem_append.1 (show share ∈ [features.imbalanceL1, features.imbalanceL3,
        features.imbalanceL5, features.imbalanceL10, features.imbalanceL25, features.imbalanceL50,
        features.imbalanceL100, features.imbalanceL200, features.imbalanceL400] ++
        [features.distanceWeightedImbalance, features.notionalImbalance] from hshare)
      with hshare | hshare
    · exact imbalanceFeatures_bounds hfilled hof.imbalances share hshare
    · simp only [List.mem_cons, List.not_mem_nil, or_false] at hshare
      rcases hshare with rfl | rfl
      · exact ⟨hbounds.1.le, hbounds.2.le⟩
      · exact notionalImbalance_bounds hfilled hdepthMax hnotional
  · rw [hbest.1, hbest.2, hclassic]
    exact weighted_between hspread hbidLevel.2 haskLevel.2
  · rw [hbest.1, hbest.2, hmulti]
    exact moved_mid_between hspread hbounds.1 hbounds.2

/-- **Features are sound** where decimals do not round: every snapshot of features that a book
emits, after any validated messages and invalidations, keeps the bounds. -/
theorem features_sound (instrumentId : OkxSpotInstrumentId) (calls : List Call)
    (hcalls : ∀ call ∈ calls, call.Validated) (run : List Entry) (book : OkxLevel2Book)
    (hrun : trace (answer .exact) (new instrumentId) calls = some (run, book)) (call : Call)
    (hcall : call.Validated) (features : OkxLevel2FeatureSnapshot) (book' : OkxLevel2Book)
    (hanswer : book.answer .exact call = some (some (.ok (.features features)), book')) :
    FeaturesSound book' features := by
  have hcoherent : Coherent .exact book := trace_invariant (.inr (cleared_new instrumentId))
    (fun _ call _ _ hmem h hanswer => coherent_answer (hcalls call hmem) h hanswer) hrun
  have hrecent := (windowed_answer (windowed_trace hrun) hanswer).2 features rfl
  obtain ⟨hlive, hof, hdepth⟩ := emitted_parts hcall hcoherent hanswer
  exact features_sound_of_parts hlive hof hdepth hrecent.exactly.bounds

/-- The features of the update after the recovery. -/
theorem features_sound_demo : ∃ run features book,
    trace (answer .exact) (new []) demoCalls = some run ∧
      run.2.answer .exact (.apply demoLater 0 0) = some (some (.ok (.features features)), book) ∧
        FeaturesSound book features := by
  have hruns : ((trace (answer .exact) (new []) demoCalls).bind fun run =>
      (run.2.answer .exact (.apply demoLater 0 0)).bind fun reply => emitted reply.1).isSome =
        true := by
    decide +kernel
  obtain ⟨features, hfeatures⟩ := Option.isSome_iff_exists.1 hruns
  obtain ⟨⟨run, before⟩, hrun, hanswers⟩ := Option.bind_eq_some_iff.1 hfeatures
  obtain ⟨⟨reply, book⟩, hanswer, hemitted⟩ := Option.bind_eq_some_iff.1 hanswers
  cases emitted_eq_some hemitted
  have hlater : demoLater.data.Validated := by decide +kernel
  exact ⟨(run, before), features, book, hrun, hanswer, features_sound [] demoCalls
    demoCalls_validated run before hrun (.apply demoLater 0 0) hlater features book hanswer⟩

end OkxLevel2Book

end OkxTrading
