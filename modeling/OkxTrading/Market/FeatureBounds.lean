import Mathlib.Tactic.Linarith
import OkxTrading.Market.FeatureRange
import OkxTrading.Market.Level2

/-!
# The mid, the slopes and the volatility in range

The formulas that divide by a quantity or by a price.  What they return is near the exact value, so
a limit a little below the greatest decimal, on exact values only, keeps them in range.

* `MidOf` — the mid, and how far it is from the exact one.
* `topFeatures_fits`, `slopeSide_fits`, `volatility_fits` — the formulas.
-/

namespace OkxTrading

open ScaledDecimal

variable {ops : DecimalOps} {a b c m mid : Decimal}

/-- A limit for exact values that leaves room for rounding. -/
def limit : Decimal := 2 ^ 96 - 2 ^ 32

theorem limit_le_top : limit ≤ decimalFormat.top := by
  rw [decimalFormat_top]
  norm_num [limit]

/-- Rounding a value in range, in numbers. -/
theorem le_of_rounds (h : decimalFormat.Rounds a c) (ha : 0 ≤ a) (htop : a ≤ decimalFormat.top) :
    c ≤ a + 2 / 10 ^ 28 * a + 1 / 10 ^ 28 := by
  have herror := h.le_error ha htop
  have hrel := mul_le_mul_of_nonneg_right relative_le ha
  rw [decimalFormat_unit] at herror
  linarith

theorem ge_of_rounds (h : decimalFormat.Rounds a c) (ha : 0 ≤ a) (htop : a ≤ decimalFormat.top) :
    a - 2 / 10 ^ 28 * a - 1 / 10 ^ 28 ≤ c := by
  have herror := h.error_le ha htop
  have hrel := mul_le_mul_of_nonneg_right relative_le ha
  rw [decimalFormat_unit] at herror
  linarith

theorem le_of_rounds_onGrid (h : decimalFormat.Rounds a c) (hgrid : decimalFormat.OnGrid a)
    (ha : 0 ≤ a) (htop : a ≤ decimalFormat.top) : c ≤ a + 2 / 10 ^ 28 * a := by
  have herror := h.le_error_of_onGrid hgrid ha htop
  have hrel := mul_le_mul_of_nonneg_right relative_le ha
  linarith

theorem ge_of_rounds_onGrid (h : decimalFormat.Rounds a c) (hgrid : decimalFormat.OnGrid a)
    (ha : 0 ≤ a) (htop : a ≤ decimalFormat.top) : a - 2 / 10 ^ 28 * a ≤ c := by
  have herror := h.error_le_of_onGrid hgrid ha htop
  have hrel := mul_le_mul_of_nonneg_right relative_le ha
  linarith

theorem unit_le_of_pos (h : IsDecimal a) (hpos : 0 < a) : 1 / 10 ^ 28 ≤ a := by
  rw [← decimalFormat_unit]
  exact Format.Representable.unit_le h hpos

/-! ## The best prices -/

/-- A mid close to the exact one. -/
structure MidOf (m mid : Decimal) : Prop where
  isDecimal : IsDecimal mid
  unit_le : 1 / 10 ^ 28 ≤ mid
  double_le : 2 * mid ≤ limit
  close : |mid - m| ≤ 6 / 10 ^ 28 * m + 1 / 10 ^ 28

theorem isDecimal_two : IsDecimal 2 := by exact_mod_cast isDecimal_natCast (n := 2) (by norm_num)

theorem mid_fits (hops : ops.Rounded) (ha : IsDecimal a) (hb : IsDecimal b) (ha0 : 0 < a)
    (hb0 : 0 < b) (hsum : a + b ≤ limit) :
    ∃ total mid, ops.add a b = some total ∧ ops.div total 2 = some mid ∧
        MidOf ((a + b) / 2) mid := by
  have hexact : 0 ≤ a + b := (add_pos ha0 hb0).le
  have htop := hsum.trans limit_le_top
  obtain ⟨total, hadd, htotal⟩ := (hops.add a b ha hb).fits (by rwa [abs_of_nonneg hexact])
  have hgrid := Format.OnGrid.add (Format.Representable.onGrid ha) (Format.Representable.onGrid hb)
  have habove := le_of_rounds_onGrid htotal hgrid hexact htop
  have hbelow := ge_of_rounds_onGrid htotal hgrid hexact htop
  have htotalLe : total ≤ limit := by
    have := htotal.le_nat (n := 2 ^ 96 - 2 ^ 32) (by norm_num [decimalFormat])
      (by rw [limit] at hsum; push_cast; linarith)
    rw [limit]
    push_cast at this
    linarith
  have haTotal := htotal.ge a ha (by linarith)
  have hbTotal := htotal.ge b hb (by linarith)
  have htotal0 : 0 ≤ total / 2 := by linarith
  obtain ⟨mid, hdiv, hmid⟩ :=
    (hops.div total 2 htotal.representable isDecimal_two (by norm_num)).fits
    (by rw [abs_of_nonneg htotal0]; linarith [limit_le_top])
  have hmidAbove := le_of_rounds hmid htotal0 (by linarith [limit_le_top])
  have hmidBelow := ge_of_rounds hmid htotal0 (by linarith [limit_le_top])
  refine ⟨total, mid, hadd, hdiv, hmid.representable, ?_, ?_, ?_⟩
  · -- the sum of two prices is at least two units
    have hunitA := unit_le_of_pos ha ha0
    have hunitB := unit_le_of_pos hb hb0
    have htwoUnits : IsDecimal (2 / 10 ^ 28) :=
      ⟨2, 28, le_rfl, by norm_num [decimalFormat], by norm_num⟩
    have hunits := htotal.ge _ htwoUnits (by linarith)
    have hmidUnit := hmid.unit_le (by rw [decimalFormat_unit]; linarith)
    rwa [decimalFormat_unit] at hmidUnit
  · have := hmid.le_nat (n := 2 ^ 95 - 2 ^ 31) (by norm_num [decimalFormat])
      (by rw [limit] at htotalLe; push_cast; linarith)
    rw [limit]
    push_cast at this
    linarith
  · rw [abs_le]
    constructor <;> linarith

/-- A quotient of sums rounded on the way, by the sum of the quantities. -/
theorem microprice_le {x y q first second weighted top quantity : Decimal}
    (hq : 2 / 10 ^ 28 ≤ q) (hxy : x + y ≤ a * q)
    (ha : a ≤ 3 / 5 * top) (htop : 10 ≤ top)
    (hfirst : first ≤ x + 2 / 10 ^ 28 * x + 1 / 10 ^ 28)
    (hsecond : second ≤ y + 2 / 10 ^ 28 * y + 1 / 10 ^ 28)
    (hweighted : weighted ≤ (first + second) + 2 / 10 ^ 28 * (first + second))
    (hquantity : q - 2 / 10 ^ 28 * q ≤ quantity) : weighted ≤ top * quantity := by
  have hproduct : a * q ≤ 3 / 5 * top * q := mul_le_mul_of_nonneg_right ha (by linarith)
  have hsmall : 10 * q ≤ top * q := mul_le_mul_of_nonneg_right htop (by linarith)
  have hlow : top * (q - 2 / 10 ^ 28 * q) ≤ top * quantity :=
    mul_le_mul_of_nonneg_left hquantity (by linarith)
  nlinarith

/-- What the best prices and their quantities have to keep to. -/
structure TopInRange (bid ask : PricedLevel) : Prop where
  bidLevel : DecimalLevel bid
  askLevel : DecimalLevel ask
  uncrossed : bid.1 < ask.1
  prices : ask.1 + bid.1 ≤ limit
  askPrice : ask.1 ≤ 3 / 5 * decimalFormat.top
  quantities : bid.2.quantity + ask.2.quantity ≤ decimalFormat.top
  crossed : ask.1 * bid.2.quantity + bid.1 * ask.2.quantity ≤ limit

theorem topFeatures_fits (hops : ops.Rounded) {bid ask : PricedLevel} (h : TopInRange bid ask) :
    ∃ top, OkxLevel2Book.topFeatures ops bid ask = some (.ok top) ∧
      MidOf ((ask.1 + bid.1) / 2) top.mid ∧ IsDecimal top.spread ∧ 0 ≤ top.spread ∧
      top.spread ≤ limit := by
  have hbidPrice := h.bidLevel.pricePos
  have hbidQuantity := h.bidLevel.quantityPos
  have haskPrice := h.askLevel.pricePos
  have haskQuantity := h.askLevel.quantityPos
  have hnumbers : limit = 2 ^ 96 - 2 ^ 32 := rfl
  have htopNumber := decimalFormat_top
  have hspreadPos : 0 ≤ ask.1 - bid.1 := by linarith [h.uncrossed]
  obtain ⟨spread, hsub, hspread⟩ := (hops.sub _ _ h.askLevel.price h.bidLevel.price).fits (by
    rw [abs_of_nonneg hspreadPos]
    linarith [h.prices])
  obtain ⟨total, mid, hadd, hdiv, hmid⟩ :=
    mid_fits hops h.askLevel.price h.bidLevel.price haskPrice hbidPrice
    h.prices
  have hquantity0 : 0 ≤ bid.2.quantity + ask.2.quantity := by linarith
  obtain ⟨topQuantity, haddQ, htopQuantity⟩ :=
    (hops.add _ _ h.bidLevel.quantity h.askLevel.quantity).fits
    (by rw [abs_of_nonneg hquantity0]; exact h.quantities)
  have hquantityBelow := ge_of_rounds_onGrid htopQuantity
    (Format.OnGrid.add (Format.Representable.onGrid h.bidLevel.quantity)
      (Format.Representable.onGrid h.askLevel.quantity)) hquantity0 h.quantities
  have hquantityPos : 0 < topQuantity := by linarith
  have hx : 0 ≤ ask.1 * bid.2.quantity := (mul_pos haskPrice hbidQuantity).le
  have hy : 0 ≤ bid.1 * ask.2.quantity := (mul_pos hbidPrice haskQuantity).le
  obtain ⟨askWeighted, hmulAsk, haskWeighted⟩ :=
    (hops.mul _ _ h.askLevel.price h.bidLevel.quantity).fits
    (by rw [abs_of_nonneg hx]; linarith [h.crossed])
  obtain ⟨bidWeighted, hmulBid, hbidWeighted⟩ :=
    (hops.mul _ _ h.bidLevel.price h.askLevel.quantity).fits
    (by rw [abs_of_nonneg hy]; linarith [h.crossed])
  have hfirst := le_of_rounds haskWeighted hx (by linarith [h.crossed])
  have hsecond := le_of_rounds hbidWeighted hy (by linarith [h.crossed])
  have hweighted0 : 0 ≤ askWeighted + bidWeighted :=
    add_nonneg (haskWeighted.nonneg hx) (hbidWeighted.nonneg hy)
  have hweightedTop : askWeighted + bidWeighted ≤ decimalFormat.top := by linarith [h.crossed]
  obtain ⟨weighted, haddW, hweighted⟩ := (hops.add _ _ haskWeighted.representable
    hbidWeighted.representable).fits (by rw [abs_of_nonneg hweighted0]; exact hweightedTop)
  have hweightedAbove := le_of_rounds_onGrid hweighted
    (haskWeighted.representable.onGrid.add hbidWeighted.representable.onGrid)
    hweighted0 hweightedTop
  have hunits : 2 / 10 ^ 28 ≤ bid.2.quantity + ask.2.quantity := by
    have := unit_le_of_pos h.bidLevel.quantity hbidQuantity
    have := unit_le_of_pos h.askLevel.quantity haskQuantity
    linarith
  have hweights : ask.1 * bid.2.quantity + bid.1 * ask.2.quantity ≤
      ask.1 * (bid.2.quantity + ask.2.quantity) := by
    nlinarith [h.uncrossed]
  have hle := microprice_le hunits hweights h.askPrice (by rw [htopNumber]; norm_num) hfirst hsecond
    hweightedAbove hquantityBelow
  have hquotient0 : 0 ≤ weighted / topQuantity :=
    div_nonneg (hweighted.nonneg hweighted0) hquantityPos.le
  obtain ⟨classic, hdivW, -⟩ := (hops.div _ _ hweighted.representable htopQuantity.representable
    hquantityPos.ne').fits (by
      rw [abs_of_nonneg hquotient0, div_le_iff₀ hquantityPos]
      exact hle)
  have hspreadLe := hspread.le_nat (n := 2 ^ 96 - 2 ^ 32) (by norm_num [decimalFormat])
    (by push_cast; linarith [h.prices])
  refine ⟨⟨bid.1, ask.1, mid, spread, classic⟩, ?_, hmid, hspread.representable,
    hspread.nonneg hspreadPos, ?_⟩
  · simp [OkxLevel2Book.topFeatures, hsub, hadd, hdiv, haddQ, hmulAsk, hmulBid, haddW, hdivW,
      not_le.2 hquantityPos]
  · rw [hnumbers]
    push_cast at hspreadLe
    linarith

/-! ## Slopes -/

section Slope

variable {dist total s d scaled den : Decimal}

/-- The product of the mid and a quantity sum, after rounding, is not far below the exact one. -/
theorem product_le_den (htotal0 : 0 ≤ total)
    (hmid : m - 6 / 10 ^ 28 * m - 1 / 10 ^ 28 ≤ mid) (hs : total - 40 / 10 ^ 28 * total ≤ s)
    (hden : mid * s - 2 / 10 ^ 28 * (mid * s) - 1 / 10 ^ 28 ≤ den)
    (hlarge : 1 / 10 ^ 28 < (m - 3 / 10 ^ 28) * total - 2 / 10 ^ 28) :
    (1 - 70 / 10 ^ 28) * ((m - 3 / 10 ^ 28) * total - 2 / 10 ^ 28) ≤ den := by
  have hpos : 0 < (m - 3 / 10 ^ 28) * total := by linarith
  have hm : 0 < m - 3 / 10 ^ 28 := pos_of_mul_pos_left hpos htotal0
  have hshare : (1 - 6 / 10 ^ 28) * (m - 3 / 10 ^ 28) ≤ mid := by linarith
  have hquantity : (1 - 40 / 10 ^ 28) * total ≤ s := by linarith
  have hproduct :
      ((1 - 6 / 10 ^ 28) * (m - 3 / 10 ^ 28)) * ((1 - 40 / 10 ^ 28) * total) ≤ mid * s :=
    mul_le_mul hshare hquantity (by positivity) (by linarith)
  nlinarith

/-- The distance of the edge, in basis points, over the product is in range. -/
theorem slope_le (hmidUnit : 1 / 10 ^ 28 ≤ mid)
    (hmid : |mid - m| ≤ 6 / 10 ^ 28 * m + 1 / 10 ^ 28) (htotal0 : 0 ≤ total)
    (hs : total - 40 / 10 ^ 28 * total ≤ s) (hsUnit : 1 / 10 ^ 28 ≤ s)
    (hd : d ≤ (dist + 6 / 10 ^ 28 * m + 1 / 10 ^ 28) +
      2 / 10 ^ 28 * (dist + 6 / 10 ^ 28 * m + 1 / 10 ^ 28) + 1 / 10 ^ 28)
    (hscaled : scaled ≤ d * 10000 + 2 / 10 ^ 28 * (d * 10000) + 1 / 10 ^ 28)
    (hden : mid * s - 2 / 10 ^ 28 * (mid * s) - 1 / 10 ^ 28 ≤ den) (hdenUnit : 1 / 10 ^ 28 ≤ den)
    (hslope : 10000 * dist ≤
      limit * max (1 / 10 ^ 28) ((m - 3 / 10 ^ 28) * total - 2 / 10 ^ 28)) :
    scaled ≤ (2 ^ 96 - 1) * den := by
  have hmidBounds := abs_le.1 hmid
  -- the mid is small where the product is
  have hproduct : mid * (1 / 10 ^ 28) ≤ mid * s := mul_le_mul_of_nonneg_left hsUnit (by linarith)
  have hmSmall : m / 10 ^ 28 ≤ 5 * den := by linarith
  have hdistance : 10000 * dist ≤ (limit + 1000) * den := by
    rcases max_choice (1 / 10 ^ 28) ((m - 3 / 10 ^ 28) * total - 2 / 10 ^ 28) with hmax | hmax
    · rw [hmax, limit] at hslope
      rw [limit]
      linarith
    · rw [hmax] at hslope
      rcases le_or_gt ((m - 3 / 10 ^ 28) * total - 2 / 10 ^ 28) (1 / 10 ^ 28) with hsmall | hlarge
      · rw [limit] at hslope ⊢
        linarith
      · have hle := product_le_den htotal0 (by linarith [hmidBounds.1]) hs hden hlarge
        rw [limit] at hslope ⊢
        linarith
  rw [limit] at hdistance
  linarith

/-- What the edge and the quantities of a side have to keep to. -/
structure SlopeInRange (m dist total : Decimal) : Prop where
  midNonneg : 0 ≤ m
  midLe : m ≤ 2 ^ 95
  distNonneg : 0 ≤ dist
  distLe : 10000 * dist ≤ limit
  totalPos : 0 < total
  totalLe : total ≤ 2 ^ 96
  product : m * total ≤ limit
  slope : 10000 * dist ≤ limit * max (1 / 10 ^ 28) ((m - 3 / 10 ^ 28) * total - 2 / 10 ^ 28)

theorem slopeSide_fits (hops : ops.Rounded) {values : List Decimal} {p q : Decimal}
    (h : SlopeInRange m dist values.sum) (hmid : MidOf m mid) (hp : IsDecimal p) (hq : IsDecimal q)
    (hdist : |(p - q) - dist| ≤ 6 / 10 ^ 28 * m + 1 / 10 ^ 28)
    (hs : SumOf values s) (hlength : values.length ≤ 10) :
    ∃ d scaled den r, ops.sub p q = some d ∧ ops.mul d (basisPointsPerUnit : ℚ) = some scaled ∧
      ops.mul mid s = some den ∧ positiveRatio ops scaled den = some r := by
  have hnumber : (basisPointsPerUnit : ℚ) = 10000 := by norm_num [basisPointsPerUnit]
  have hbasis : IsDecimal (basisPointsPerUnit : ℚ) :=
    isDecimal_natCast (by norm_num [basisPointsPerUnit])
  have hlimit : limit = 2 ^ 96 - 2 ^ 32 := rfl
  have htop := decimalFormat_top
  have hdistBounds := abs_le.1 hdist
  have hm0 := h.midNonneg
  have hm := h.midLe
  have hdist0 := h.distNonneg
  have hreach := h.distLe
  -- the distance
  have hpTop := Format.Representable.le_top hp
  have hqTop := Format.Representable.le_top hq
  obtain ⟨d, hsub, hd⟩ := (hops.sub p q hp hq).fits (abs_le.2 ⟨by linarith, by linarith⟩)
  have hdAbove : d ≤ (dist + 6 / 10 ^ 28 * m + 1 / 10 ^ 28) +
      2 / 10 ^ 28 * (dist + 6 / 10 ^ 28 * m + 1 / 10 ^ 28) + 1 / 10 ^ 28 := by
    rcases le_total 0 (p - q) with hnonneg | hnonpos
    · have := le_of_rounds hd hnonneg (by linarith)
      linarith
    · have := hd.nonpos hnonpos
      linarith
  have hdBelow : -25 ≤ d := by
    have := hd.ge (-25) (Format.Representable.neg
      (by exact_mod_cast isDecimal_natCast (n := 25) (by norm_num))) (by linarith)
    exact this
  -- the distance in basis points
  obtain ⟨scaled, hmul, hscaled⟩ := (hops.mul d _ hd.representable hbasis).fits (by
    rw [hnumber, abs_le]
    constructor <;> linarith)
  rw [hnumber] at hscaled
  -- the product with the mid
  have hclose := abs_le.1 hs.close
  have hcast : (values.length : ℚ) ≤ 10 := by exact_mod_cast hlength
  have hrel := relative_le
  have hrel0 := Format.relative_nonneg (f := decimalFormat)
  have htotal0 := h.totalPos
  have htotal := h.totalLe
  have herror : 2 * values.length * decimalFormat.relative * values.sum ≤
      40 / 10 ^ 28 * values.sum := by
    have : 2 * (values.length : ℚ) * decimalFormat.relative ≤ 40 / 10 ^ 28 := by nlinarith
    exact mul_le_mul_of_nonneg_right this htotal0.le
  have hsPos : 0 < s := by linarith
  have hsUnit := unit_le_of_pos hs.isDecimal hsPos
  have hmidBounds := abs_le.1 hmid.close
  have hmidPos : 0 < mid := lt_of_lt_of_le (by norm_num) hmid.unit_le
  have hproduct0 : 0 ≤ mid * s := (mul_pos hmidPos hsPos).le
  have hproduct : mid * s ≤ decimalFormat.top := by
    have hle : mid * s ≤ (m + 6 / 10 ^ 28 * m + 1 / 10 ^ 28) *
        (values.sum + 40 / 10 ^ 28 * values.sum) :=
      mul_le_mul (by linarith) (by linarith) hsPos.le (by linarith)
    have hexpand : (m + 6 / 10 ^ 28 * m + 1 / 10 ^ 28) *
        (values.sum + 40 / 10 ^ 28 * values.sum) =
        (1 + 6 / 10 ^ 28) * (1 + 40 / 10 ^ 28) * (m * values.sum) +
          1 / 10 ^ 28 * (1 + 40 / 10 ^ 28) * values.sum := by ring
    linarith only [hle, hexpand, h.product, htotal, htop, hlimit]
  obtain ⟨den, hmulDen, hden⟩ := (hops.mul mid s hmid.isDecimal hs.isDecimal).fits
    (by rwa [abs_of_nonneg hproduct0])
  have hdenBelow := ge_of_rounds hden hproduct0 hproduct
  -- the slope
  obtain ⟨r, hr, -⟩ := positiveRatio_fits hops (n := 2 ^ 96 - 1) hscaled.representable
    hden.representable (by norm_num) fun hscaledPos hdenPos => by
      have hdPos : 0 < d := by
        by_contra hneg
        have := hscaled.nonpos (by linarith [not_lt.1 hneg])
        linarith
      have hscaledAbove := le_of_rounds hscaled (by linarith) (by linarith)
      rw [div_le_iff₀ hdenPos]
      push_cast
      have := slope_le hmid.unit_le hmid.close htotal0.le (by linarith) hsUnit hdAbove hscaledAbove
        hdenBelow (unit_le_of_pos hden.representable hdenPos) h.slope
      linarith
  exact ⟨d, scaled, den, r, hsub, hmul, hmulDen, hr⟩

/-- The edge is the price of a level, or the mid where there is none. -/
theorem isDecimal_edge {levels : List PricedLevel} {n : ℕ}
    (hlevels : ∀ level ∈ levels, DecimalLevel level) (hmid : IsDecimal mid) :
    IsDecimal (edge levels n mid) := by
  unfold edge
  cases hlevel : (levels[n - 1]?).or levels.getLast? with
  | none => exact hmid
  | some level =>
      refine (hlevels level ?_).price
      rcases Option.or_eq_some_iff.1 hlevel with hget | ⟨-, hlast⟩
      · exact List.mem_of_getElem? hget
      · exact List.mem_of_getLast? hlast

theorem depthSlope_fits (hops : ops.Rounded) {bids asks : BookSide} {levels : ℕ}
    (haddable : Addable (bestBidsFirst bids) (bestAsksFirst asks)) (hlevels : levels ≤ 10)
    (hmid : MidOf m mid)
    (hbid : SlopeInRange m (m - edge (bestBidsFirst bids) levels mid)
      (quantities ((bestBidsFirst bids).take levels)).sum)
    (hask : SlopeInRange m (edge (bestAsksFirst asks) levels mid - m)
      (quantities ((bestAsksFirst asks).take levels)).sum) :
    ∃ slope, depthSlope ops bids asks mid levels = some slope := by
  have hclose := hmid.close
  obtain ⟨bidQuantity, hbidSum, hbidOf⟩ := quantitySum_fits hops
    (haddable.bidSide.sublist (List.take_sublist levels (bestBidsFirst bids)))
  obtain ⟨askQuantity, haskSum, haskOf⟩ := quantitySum_fits hops
    (haddable.askSide.sublist (List.take_sublist levels (bestAsksFirst asks)))
  have hbidEdge := isDecimal_edge (n := levels) haddable.bidSide.decimal hmid.isDecimal
  have haskEdge := isDecimal_edge (n := levels) haddable.askSide.decimal hmid.isDecimal
  have hlength : ∀ side : List PricedLevel, (quantities (side.take levels)).length ≤ 10 := by
    intro side
    rw [quantities, List.length_map, List.length_take]
    omega
  obtain ⟨bidDistance, bidScaled, bidNotional, bidSlope, hsubBid, hmulBid, hdenBid, hratioBid⟩ :=
    slopeSide_fits hops hbid hmid hmid.isDecimal hbidEdge
      (by rwa [sub_sub_sub_cancel_right]) hbidOf (hlength _)
  obtain ⟨askDistance, askScaled, askNotional, askSlope, hsubAsk, hmulAsk, hdenAsk, hratioAsk⟩ :=
    slopeSide_fits hops hask hmid haskEdge hmid.isDecimal
      (by rwa [sub_sub_sub_cancel_left, abs_sub_comm]) haskOf (hlength _)
  exact ⟨⟨bidSlope, askSlope⟩, by simp [depthSlope, hbidSum, haskSum, hsubBid, hmulBid, hdenBid,
    hratioBid, hsubAsk, hmulAsk, hdenAsk, hratioAsk]⟩

end Slope

/-! ## Rolling features -/

/-- A point of the window, with decimals in range. -/
structure DecimalPoint (point : RollingFeaturePoint) : Prop where
  mid : IsDecimal point.mid
  midPos : 0 < point.mid
  imbalance : IsDecimal point.imbalanceL10
  share : |point.imbalanceL10| ≤ 1

section Rolling

variable {points : List RollingFeaturePoint} {imbalanceL10 : Decimal} {receivedAt : Instant}

theorem velocity_fits (hops : ops.Rounded) (hpoints : ∀ point ∈ points, DecimalPoint point)
    (himbalance : IsDecimal imbalanceL10) (hshare : |imbalanceL10| ≤ 1) :
    ∃ v, velocity ops points imbalanceL10 receivedAt = some v := by
  unfold velocity
  cases hlast : points.getLast? with
  | none => exact ⟨0, rfl⟩
  | some previous =>
      have hprevious := hpoints previous (List.mem_of_getLast? hlast)
      set elapsedMicros := min ((receivedAt - previous.receivedAt) / 1000) (2 ^ 64 - 1) with hmicros
      by_cases hzero : elapsedMicros = 0
      · exact ⟨0, if_pos hzero⟩
      · have htop := decimalFormat_top
        have hmicrosLt : elapsedMicros < 2 ^ 96 :=
          lt_of_le_of_lt (min_le_right _ _) (by norm_num)
        have hmicrosOne : (1 : ℚ) ≤ elapsedMicros := by
          exact_mod_cast Nat.one_le_iff_ne_zero.2 hzero
        have hmillion : IsDecimal 1000000 := by
          exact_mod_cast isDecimal_natCast (n := 1000000) (by norm_num)
        have hchange : |imbalanceL10 - previous.imbalanceL10| ≤ 2 := by
          have := abs_sub imbalanceL10 previous.imbalanceL10
          have := hprevious.share
          linarith
        obtain ⟨change, hsub, hround⟩ := (hops.sub _ _ himbalance hprevious.imbalance).fits
          (hchange.trans (by rw [htop]; norm_num))
        have hchangeLe := hround.magnitude_le isDecimal_two hchange
        have hscale : |change * 1000000| ≤ 2000000 := by
          rw [abs_mul, abs_of_pos (by norm_num : (0 : ℚ) < 1000000)]
          linarith
        obtain ⟨scaled, hmul, hscaled⟩ := (hops.mul _ _ hround.representable hmillion).fits
          (hscale.trans (by rw [htop]; norm_num))
        have hscaledLe := hscaled.magnitude_le (r := 2000000)
          (by exact_mod_cast isDecimal_natCast (n := 2000000) (by norm_num)) hscale
        obtain ⟨v, hdiv, -⟩ := (hops.div _ _ hscaled.representable (isDecimal_natCast hmicrosLt)
          (by positivity)).fits (by
            rw [abs_div, abs_of_pos (by linarith : (0 : ℚ) < elapsedMicros), htop]
            exact (div_le_self (abs_nonneg _) hmicrosOne).trans (hscaledLe.trans (by norm_num)))
        refine ⟨v, ?_⟩
        show (if elapsedMicros = 0 then some 0 else _) = some v
        rw [if_neg hzero]
        simp only [hsub, hmul, Option.bind_eq_bind, Option.bind_some]
        exact hdiv

theorem countShare_fits (hops : ops.Rounded) {matching observed : ℕ} (hle : matching ≤ observed)
    (hobserved : observed < 2 ^ 96) :
    ∃ v, (if observed = 0 then some 0 else ops.div (matching : ℚ) (observed : ℚ)) = some v := by
  by_cases hzero : observed = 0
  · exact ⟨0, if_pos hzero⟩
  · rw [if_neg hzero]
    have hpos : (0 : ℚ) < observed := by exact_mod_cast Nat.pos_of_ne_zero hzero
    have hcast : (matching : ℚ) ≤ observed := by exact_mod_cast hle
    obtain ⟨v, hv, -⟩ := (hops.div _ _ (isDecimal_natCast (lt_of_le_of_lt hle hobserved))
      (isDecimal_natCast hobserved) hpos.ne').fits (by
        rw [abs_of_nonneg (div_nonneg (Nat.cast_nonneg _) hpos.le), decimalFormat_top]
        exact ((div_le_one hpos).2 hcast).trans (by norm_num))
    exact ⟨v, hv⟩

theorem persistence_fits (hops : ops.Rounded) (hlength : points.length ≤ featureRollingWindow) :
    ∃ v, persistence ops points imbalanceL10 = some v := by
  have hwindow : featureRollingWindow = 32 := rfl
  have hsigns := List.length_filter_le (fun sign : ℤ => decide (sign ≠ 0))
    (points.map fun point => decimalSign point.imbalanceL10)
  rw [List.length_map] at hsigns
  refine countShare_fits hops (Nat.add_le_add_right (List.length_filter_le _ _) _) ?_
  split_ifs <;> omega

/-- The returns from each mid to the next, in basis points. -/
def returnsBps : List Decimal → List Decimal
  | previous :: current :: rest =>
      10000 * |current - previous| / previous :: returnsBps (current :: rest)
  | _ => []

theorem absoluteReturnBps_fits (hops : ops.Rounded) {previous current : Decimal}
    (hprevious : IsDecimal previous) (hcurrent : IsDecimal current) (hprevious0 : 0 < previous)
    (hcurrent0 : 0 < current)
    (hreturn : 10000 * |current - previous| / previous ≤ 2 ^ 96 - 2 ^ 20) :
    ∃ move, absoluteReturnBps ops previous current = some move ∧ IsDecimal move ∧ 0 ≤ move ∧
      move ≤ 10000 * |current - previous| / previous + 100 := by
  have htop := decimalFormat_top
  have hnumber : (basisPointsPerUnit : ℚ) = 10000 := by norm_num [basisPointsPerUnit]
  have hbasis : IsDecimal (basisPointsPerUnit : ℚ) :=
    isDecimal_natCast (by norm_num [basisPointsPerUnit])
  have hpreviousTop := Format.Representable.le_top hprevious
  have hcurrentTop := Format.Representable.le_top hcurrent
  have hrange : |current - previous| ≤ decimalFormat.top := abs_le.2 ⟨by linarith, by linarith⟩
  obtain ⟨difference, hsub, hround⟩ := (hops.sub current previous hcurrent hprevious).fits hrange
  have hgrid := Format.OnGrid.sub (Format.Representable.onGrid hcurrent)
    (Format.Representable.onGrid hprevious)
  have hdifference : |difference| ≤ (1 + 2 / 10 ^ 28) * |current - previous| := by
    rcases le_total 0 (current - previous) with hup | hdown
    · rw [abs_of_nonneg (hround.nonneg hup), abs_of_nonneg hup] at *
      have := le_of_rounds_onGrid hround hgrid hup hrange
      linarith
    · rw [abs_of_nonpos (hround.nonpos hdown), abs_of_nonpos hdown] at *
      have := le_of_rounds_onGrid hround.neg hgrid.neg (by linarith) hrange
      linarith
  set x := |current - previous| / previous with hx
  have hxReturn : 10000 * |current - previous| / previous = 10000 * x := by rw [hx, mul_div_assoc]
  rw [hxReturn] at hreturn ⊢
  have hx0 : 0 ≤ x := div_nonneg (abs_nonneg _) hprevious0.le
  have hquotient0 : 0 ≤ |difference| / previous := div_nonneg (abs_nonneg _) hprevious0.le
  have hquotient : |difference| / previous ≤ (1 + 2 / 10 ^ 28) * x := by
    rw [hx, ← mul_div_assoc]
    exact div_le_div_of_nonneg_right hdifference hprevious0.le
  obtain ⟨share, hdiv, hshare⟩ := (hops.div _ _ (Format.Representable.abs hround.representable)
    hprevious hprevious0.ne').fits (by rw [abs_of_nonneg hquotient0]; linarith)
  have hshareLe := le_of_rounds hshare hquotient0 (by linarith)
  have hshare0 := hshare.nonneg hquotient0
  obtain ⟨move, hmul, hmove⟩ := (hops.mul _ _ hshare.representable hbasis).fits (by
    rw [hnumber, abs_of_nonneg (by linarith)]
    linarith)
  rw [hnumber] at hmove
  have hmoveLe := le_of_rounds hmove (by linarith) (by linarith)
  refine ⟨move, ?_, hmove.representable, hmove.nonneg (by linarith), by linarith⟩
  simp [absoluteReturnBps, not_le.2 hprevious0, hsub, hdiv, hmul]

/-- A price of the window. -/
structure DecimalMid (mid : Decimal) : Prop where
  isDecimal : IsDecimal mid
  pos : 0 < mid

/-- Whole numbers above the returns, with room for their rounding. -/
def returnBudget (mids : List Decimal) : ℕ := ((returnsBps mids).map fun r => ⌈r⌉₊ + 100).sum

theorem volatilitySum_fits (hops : ops.Rounded) {mids : List Decimal} {t : Decimal} {n k : ℕ}
    (hmids : ∀ mid ∈ mids, DecimalMid mid) (htotal : IsDecimal t) (htotal0 : 0 ≤ t)
    (hn : t ≤ n) (hbudget : n + returnBudget mids ≤ 2 ^ 96 - 2 ^ 20)
    (hcount : k + mids.length < 2 ^ 96) :
    ∃ total' count', volatilitySum ops mids (t, k) = some (total', count') ∧
      IsDecimal total' ∧ 0 ≤ total' ∧ count' < 2 ^ 96 := by
  induction mids generalizing t n k with
  | nil => exact ⟨t, k, rfl, htotal, htotal0, by simpa using hcount⟩
  | cons previous rest ih =>
      cases rest with
      | nil => exact ⟨t, k, rfl, htotal, htotal0, by omega⟩
      | cons current rest =>
          have hprevious := hmids previous (by simp)
          have hcurrent := hmids current (by simp)
          have hsplit : returnBudget (previous :: current :: rest) =
              (⌈10000 * |current - previous| / previous⌉₊ + 100) +
                  returnBudget (current :: rest) := by
            simp [returnBudget, returnsBps]
          rw [hsplit] at hbudget
          have hceil := Nat.le_ceil (10000 * |current - previous| / previous)
          have hreturn : 10000 * |current - previous| / previous ≤ 2 ^ 96 - 2 ^ 20 := by
            refine hceil.trans ?_
            have : ⌈10000 * |current - previous| / previous⌉₊ ≤ 2 ^ 96 - 2 ^ 20 := by omega
            have : (⌈10000 * |current - previous| / previous⌉₊ : ℚ) ≤
                ((2 ^ 96 - 2 ^ 20 : ℕ) : ℚ) := by
              exact_mod_cast this
            norm_num at this ⊢
            exact this
          obtain ⟨move, hmove, hmoveDecimal, hmove0, hmoveLe⟩ := absoluteReturnBps_fits hops
            hprevious.isDecimal hcurrent.isDecimal hprevious.pos hcurrent.pos hreturn
          have hnext : t + move ≤
              ((n + (⌈10000 * |current - previous| / previous⌉₊ + 100) : ℕ) : ℚ) := by
            push_cast
            linarith
          have hsum0 := add_nonneg htotal0 hmove0
          obtain ⟨sum, hadd, hsum⟩ := (hops.add _ _ htotal hmoveDecimal).fits (by
            rw [abs_of_nonneg hsum0]
            exact hnext.trans (natCast_le_top (by omega)))
          obtain ⟨total', count', hrest, hfacts⟩ := ih (t := sum) (k := k + 1)
            (fun mid hmid => hmids mid (List.mem_cons_of_mem _ hmid)) hsum.representable
            (hsum.nonneg hsum0) (hsum.le_nat (lt_of_le_of_lt (b := 2 ^ 96 - 2 ^ 20) (by omega)
              (by norm_num [decimalFormat])) hnext) (by omega)
            (by simp only [List.length_cons] at hcount ⊢; omega)
          exact ⟨total', count', by simp [volatilitySum, hmove, hadd, hrest], hfacts⟩

theorem returnsBps_nonneg {mids : List Decimal} (hmids : ∀ mid ∈ mids, 0 < mid) :
    ∀ r ∈ returnsBps mids, 0 ≤ r := by
  induction mids with
  | nil => simp [returnsBps]
  | cons previous rest ih =>
      cases rest with
      | nil => simp [returnsBps]
      | cons current rest =>
          intro r hr
          have hprevious := hmids previous (by simp)
          rcases List.mem_cons.1 hr with rfl | hr
          · positivity
          · exact ih (fun mid hmid => hmids mid (List.mem_cons_of_mem _ hmid)) r hr

theorem length_returnsBps_le (mids : List Decimal) : (returnsBps mids).length ≤ mids.length := by
  induction mids with
  | nil => simp [returnsBps]
  | cons previous rest ih =>
      cases rest with
      | nil => simp [returnsBps]
      | cons current rest =>
          simp only [returnsBps, List.length_cons] at ih ⊢
          omega

/-- The rounding of the last mid moves the last return by a share and a few units of it. -/
theorem sum_returnsBps_le {mids : List Decimal} (hmids : ∀ mid ∈ mids, DecimalMid mid)
    (hmid : MidOf m mid) (hsum : (returnsBps (mids ++ [m])).sum ≤ limit) :
    (returnsBps (mids ++ [mid])).sum ≤ (returnsBps (mids ++ [m])).sum + 20000 := by
  induction mids with
  | nil => simp [returnsBps]
  | cons previous rest ih =>
      have hprevious := hmids previous List.mem_cons_self
      have hpos := hprevious.pos
      cases rest with
      | nil =>
          simp only [List.cons_append, List.nil_append, returnsBps, List.sum_cons, List.sum_nil,
            add_zero] at hsum ⊢
          have hunit := unit_le_of_pos hprevious.isDecimal hpos
          have hclose := hmid.close
          have htriangle : |mid - previous| ≤ |m - previous| + |mid - m| := by
            have := abs_sub_le mid m previous
            linarith
          have hfar : m ≤ previous + |m - previous| := by
            have := le_abs_self (m - previous)
            linarith
          rw [div_le_iff₀ hpos] at hsum
          rw [div_add' _ _ _ hpos.ne', div_le_div_iff_of_pos_right hpos]
          rw [limit] at hsum
          linarith
      | cons current rest =>
          have hnonneg : 0 ≤ 10000 * |current - previous| / previous := by positivity
          simp only [List.cons_append, returnsBps, List.sum_cons] at hsum ih ⊢
          have hrest := ih (fun mid hmid => hmids mid (List.mem_cons_of_mem _ hmid)) (by linarith)
          linarith

theorem sum_map_ceil_le {values : List Decimal} (h : ∀ v ∈ values, 0 ≤ v) :
    (((values.map fun v => ⌈v⌉₊ + 100).sum : ℕ) : ℚ) ≤ values.sum + 101 * values.length := by
  induction values with
  | nil => simp
  | cons v rest ih =>
      have hv := (Nat.ceil_lt_add_one (h v List.mem_cons_self)).le
      have hrest := ih fun w hw => h w (List.mem_cons_of_mem _ hw)
      simp only [List.map_cons, List.sum_cons, List.length_cons]
      push_cast at hrest ⊢
      linarith

theorem volatility_fits (hops : ops.Rounded) (hpoints : ∀ point ∈ points, DecimalPoint point)
    (hlength : points.length ≤ featureRollingWindow) (hmid : MidOf m mid)
    (hsum : (returnsBps (points.map (·.mid) ++ [m])).sum ≤ limit) :
    ∃ v, volatility ops points mid = some v := by
  have hwindow : featureRollingWindow = 32 := rfl
  have hmidPos : 0 < mid := lt_of_lt_of_le (by norm_num) hmid.unit_le
  have hold : ∀ mid ∈ points.map (·.mid), DecimalMid mid := by
    intro mid hmem
    obtain ⟨point, hpoint, rfl⟩ := List.mem_map.1 hmem
    exact ⟨(hpoints point hpoint).mid, (hpoints point hpoint).midPos⟩
  have hmids : ∀ price ∈ points.map (·.mid) ++ [mid], DecimalMid price := by
    intro price hprice
    rcases List.mem_append.1 hprice with hprice | hprice
    · exact hold price hprice
    · rw [List.mem_singleton.1 hprice]
      exact ⟨hmid.isDecimal, hmidPos⟩
  have hmoved := sum_returnsBps_le hold hmid hsum
  have hcount := length_returnsBps_le (points.map (·.mid) ++ [mid])
  have hcount' : ((returnsBps (points.map (·.mid) ++ [mid])).length : ℚ) ≤ 33 := by
    simp only [List.length_append, List.length_map, List.length_singleton] at hcount
    exact_mod_cast hcount.trans (by omega)
  have hbudget : returnBudget (points.map (·.mid) ++ [mid]) ≤ 2 ^ 96 - 2 ^ 20 := by
    have hle := sum_map_ceil_le (returnsBps_nonneg fun price hprice => (hmids price hprice).pos)
    rw [limit] at hsum
    have hnumber : ((2 ^ 96 - 2 ^ 20 : ℕ) : ℚ) = 2 ^ 96 - 2 ^ 20 := by norm_num
    have : (returnBudget (points.map (·.mid) ++ [mid]) : ℚ) ≤ ((2 ^ 96 - 2 ^ 20 : ℕ) : ℚ) := by
      rw [hnumber, returnBudget]
      linarith
    exact_mod_cast this
  obtain ⟨total, count, hvolatility, htotal, htotal0, hcountLt⟩ := volatilitySum_fits hops (n := 0)
    (t := 0) (k := 0) hmids Format.representable_zero le_rfl (by simp) (by omega)
    (by simp only [List.length_append, List.length_map, List.length_singleton]; omega)
  unfold volatility
  simp only [hvolatility, Option.bind_eq_bind, Option.bind_some]
  by_cases hzero : count = 0
  · exact ⟨0, if_pos hzero⟩
  · rw [if_neg hzero]
    have hone : (1 : ℚ) ≤ count := by exact_mod_cast Nat.one_le_iff_ne_zero.2 hzero
    have htotalTop := Format.Representable.le_top htotal
    obtain ⟨v, hv, -⟩ := (hops.div _ _ htotal (isDecimal_natCast hcountLt) (by linarith)).fits (by
      rw [abs_of_nonneg (div_nonneg htotal0 (by linarith))]
      exact (div_le_self htotal0 hone).trans htotalTop)
    exact ⟨v, hv⟩

end Rolling

end OkxTrading
