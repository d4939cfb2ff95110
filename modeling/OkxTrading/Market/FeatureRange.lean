import Mathlib.Algebra.BigOperators.Group.List.Lemmas
import Mathlib.Algebra.Order.BigOperators.Group.List
import OkxTrading.Market.RustDecimal

/-!
# Where the feature formulas do not panic

Every operation of the formulas, one formula after the other: from bounds on the prices and the
quantities to a result in range.  A bound that is a whole number survives rounding, so sums are
bounded by the sums of the next whole numbers.

* `SumOf`, `decimalSum_fits` — a sum, how far it is from the exact one, and that it exists.
* `signedRatio_fits`, `positiveRatio_fits` — shares.
* `quantitySum_fits`, `notionalSum_fits`, `sideDepth_fits`, … — the sums of a side.
-/

namespace OkxTrading

open ScaledDecimal

variable {ops : DecimalOps} {a b c : Decimal} {n : ℕ} {levels front : List PricedLevel}

/-! ## Sums -/

/-- The next whole numbers of the values, added up. -/
def ceilSum (values : List Decimal) : ℕ := (values.map fun v => ⌈v⌉₊).sum

@[simp] theorem ceilSum_cons {values : List Decimal} :
    ceilSum (a :: values) = ⌈a⌉₊ + ceilSum values := by
  simp [ceilSum]

theorem ceilSum_concat {values : List Decimal} :
    ceilSum (values ++ [a]) = ceilSum values + ⌈a⌉₊ := by
  simp [ceilSum]

theorem ceilSum_le {values : List Decimal} (h : ∀ v ∈ values, 0 ≤ v) :
    (ceilSum values : ℚ) ≤ values.sum + values.length := by
  induction values with
  | nil => simp [ceilSum]
  | cons v rest ih =>
      have hv := (Nat.ceil_lt_add_one (h v List.mem_cons_self)).le
      have hrest := ih fun w hw => h w (List.mem_cons_of_mem _ hw)
      rw [ceilSum_cons, List.sum_cons, List.length_cons]
      push_cast
      linarith

/-- A calculated sum: below the whole numbers, and close to the exact sum. -/
structure SumOf (values : List Decimal) (s : Decimal) : Prop where
  isDecimal : IsDecimal s
  nonneg : 0 ≤ s
  le_ceilSum : s ≤ ceilSum values
  close : |s - values.sum| ≤ 2 * values.length * decimalFormat.relative * values.sum

theorem sumOf_nil : SumOf [] 0 where
  isDecimal := Format.representable_zero
  nonneg := le_rfl
  le_ceilSum := by simp [ceilSum]
  close := by simp

/-- One more addition. -/
theorem SumOf.add {values : List Decimal} {s v t : Decimal} (h : SumOf values s) (hv : IsDecimal v)
    (hnonneg : 0 ≤ v) (hvalues : 0 ≤ values.sum) (hfits : ceilSum (values ++ [v]) < 2 ^ 96)
    (hlength : values.length ≤ 1000) (hround : decimalFormat.Rounds (s + v) t) :
    SumOf (values ++ [v]) t := by
  have hle : s + v ≤ (ceilSum (values ++ [v]) : ℚ) := by
    rw [ceilSum_concat, Nat.cast_add]
    exact add_le_add h.le_ceilSum (Nat.le_ceil v)
  have hexact : 0 ≤ s + v := add_nonneg h.nonneg hnonneg
  have htop : s + v ≤ decimalFormat.top := by
    have : ((ceilSum (values ++ [v]) : ℕ) : ℚ) + 1 ≤ 2 ^ 96 := by exact_mod_cast hfits
    rw [decimalFormat_top]
    linarith
  have hgrid := h.isDecimal.onGrid.add hv.onGrid
  have habove := hround.le_error_of_onGrid hgrid hexact htop
  have hbelow := hround.error_le_of_onGrid hgrid hexact htop
  refine ⟨hround.representable, hround.nonneg hexact, hround.le_nat hfits hle, ?_⟩
  have hrel := Format.relative_nonneg (f := decimalFormat)
  have hshare : 2 * (values.length : ℚ) * decimalFormat.relative ≤ 1 := by
    have hcast : (values.length : ℚ) ≤ 1000 := by exact_mod_cast hlength
    have := relative_le
    nlinarith
  have hclose := abs_le.1 h.close
  have hdouble : s ≤ 2 * values.sum := by nlinarith [hclose.2]
  have hold : 0 ≤ 2 * (values.length : ℚ) * decimalFormat.relative * v := by positivity
  have hnew : decimalFormat.relative * (s + v) ≤ 2 * decimalFormat.relative * (values.sum + v) := by
    nlinarith
  simp only [List.sum_append, List.sum_singleton, List.length_append, List.length_singleton]
  push_cast
  rw [abs_le]
  constructor <;> nlinarith [hclose.1, hclose.2]

theorem foldlM_fits (hops : ops.Rounded) {values more : List Decimal} {s : Decimal}
    (h : SumOf values s) (hvalues : ∀ v ∈ values ++ more, IsDecimal v ∧ 0 ≤ v)
    (hfits : ceilSum (values ++ more) < 2 ^ 96) (hlength : (values ++ more).length ≤ 1000) :
    ∃ t, more.foldlM ops.add s = some t ∧ SumOf (values ++ more) t ∧ s ≤ t := by
  induction more generalizing values s with
  | nil => exact ⟨s, rfl, by rwa [List.append_nil], le_rfl⟩
  | cons v rest ih =>
      obtain ⟨hv, hnonneg⟩ := hvalues v (by simp)
      have hsplit : values ++ v :: rest = (values ++ [v]) ++ rest := by simp
      have hsum : 0 ≤ values.sum := List.sum_nonneg fun w hw =>
        (hvalues w (List.mem_append_left _ hw)).2
      have hfirst : ceilSum (values ++ [v]) < 2 ^ 96 := by
        refine lt_of_le_of_lt ?_ hfits
        simp [ceilSum]
      have hle : s + v ≤ (ceilSum (values ++ [v]) : ℚ) := by
        rw [ceilSum_concat, Nat.cast_add]
        exact add_le_add h.le_ceilSum (Nat.le_ceil v)
      have htop : |s + v| ≤ decimalFormat.top := by
        have : ((ceilSum (values ++ [v]) : ℕ) : ℚ) + 1 ≤ 2 ^ 96 := by exact_mod_cast hfirst
        rw [decimalFormat_top, abs_of_nonneg (add_nonneg h.nonneg hnonneg)]
        linarith
      obtain ⟨t, ht, hround⟩ := (hops.add s v h.isDecimal hv).fits htop
      have hshort : values.length ≤ 1000 := by
        rw [List.length_append] at hlength
        omega
      have hnext := h.add hv hnonneg hsum hfirst hshort hround
      rw [hsplit] at hvalues hfits hlength ⊢
      obtain ⟨u, hu, hsumOf, hmore⟩ := ih hnext hvalues hfits hlength
      refine ⟨u, ?_, hsumOf, (hround.ge s h.isDecimal (by linarith)).trans hmore⟩
      rw [List.foldlM_cons, ht]
      exact hu

/-- **A sum** of decimals exists where the sum of the next whole numbers is in range. -/
theorem decimalSum_fits (hops : ops.Rounded) {values : List Decimal}
    (hvalues : ∀ v ∈ values, IsDecimal v ∧ 0 ≤ v) (hfits : ceilSum values < 2 ^ 96)
    (hlength : values.length ≤ 1000) : ∃ s, decimalSum ops values = some s ∧ SumOf values s := by
  obtain ⟨s, hs, hsumOf, -⟩ : ∃ s, values.foldlM ops.add 0 = some s ∧ SumOf ([] ++ values) s ∧
      0 ≤ s := foldlM_fits hops sumOf_nil hvalues hfits hlength
  exact ⟨s, hs, hsumOf⟩

/-- Further values do not make a sum less. -/
theorem decimalSum_le_append (hops : ops.Rounded) {values more : List Decimal} {s t : Decimal}
    (hvalues : ∀ v ∈ values ++ more, IsDecimal v ∧ 0 ≤ v)
    (hfits : ceilSum (values ++ more) < 2 ^ 96) (hlength : (values ++ more).length ≤ 1000)
    (hs : decimalSum ops values = some s) (ht : decimalSum ops (values ++ more) = some t) :
    s ≤ t := by
  have hfront : ceilSum values < 2 ^ 96 := by
    refine lt_of_le_of_lt ?_ hfits
    simp [ceilSum]
  have hshort : values.length ≤ 1000 := by
    rw [List.length_append] at hlength
    omega
  obtain ⟨s', hs', hsumOf⟩ := decimalSum_fits hops
    (fun v hv => hvalues v (List.mem_append_left _ hv)) hfront hshort
  rw [hs, Option.some.injEq] at hs'
  subst hs'
  obtain ⟨t', ht', -, hle⟩ := foldlM_fits hops hsumOf hvalues hfits hlength
  unfold decimalSum at hs ht
  rw [List.foldlM_append, hs] at ht
  have : some t = some t' := ht.symm.trans ht'
  rw [Option.some.injEq] at this
  rwa [this]

/-- Values calculated one by one, each below a bound of its own. -/
theorem mapM_fits {α : Type} {xs : List α} {f : α → Option Decimal} {g : α → Decimal}
    (h : ∀ x ∈ xs, ∃ v, f x = some v ∧ IsDecimal v ∧ 0 ≤ v ∧ ⌈v⌉₊ ≤ ⌈g x⌉₊) :
    ∃ vs, xs.mapM f = some vs ∧ (∀ v ∈ vs, IsDecimal v ∧ 0 ≤ v) ∧
      ceilSum vs ≤ ceilSum (xs.map g) ∧ vs.length = xs.length := by
  induction xs with
  | nil => exact ⟨[], rfl, by simp, le_rfl, rfl⟩
  | cons x rest ih =>
      obtain ⟨v, hv, hdecimal, hnonneg, hceil⟩ := h x List.mem_cons_self
      obtain ⟨vs, hvs, hall, hsum, hlength⟩ := ih fun y hy => h y (List.mem_cons_of_mem _ hy)
      refine ⟨v :: vs, by simp [hv, hvs], ?_, ?_, by simp [hlength]⟩
      · intro w hw
        rcases List.mem_cons.1 hw with rfl | hw
        · exact ⟨hdecimal, hnonneg⟩
        · exact hall w hw
      · rw [List.map_cons, ceilSum_cons, ceilSum_cons]
        exact add_le_add hceil hsum

theorem ceil_le_ceilSum {values : List Decimal} (h : a ∈ values) : ⌈a⌉₊ ≤ ceilSum values :=
  List.single_le_sum (by simp) _ (List.mem_map_of_mem h)

theorem le_top_of_ceil (h : ⌈a⌉₊ < 2 ^ 96) : a ≤ decimalFormat.top := by
  have hcast : ((⌈a⌉₊ : ℕ) : ℚ) + 1 ≤ 2 ^ 96 := by exact_mod_cast h
  have := Nat.le_ceil a
  rw [decimalFormat_top]
  linarith

theorem ceil_le_of_rounds (h : decimalFormat.Rounds a c) (hfits : ⌈a⌉₊ < 2 ^ 96) :
    ⌈c⌉₊ ≤ ⌈a⌉₊ :=
  Nat.ceil_le.2 (h.le_nat hfits (Nat.le_ceil a))

/-! ## Shares -/

theorem natCast_le_top (h : n < 2 ^ 96) : (n : ℚ) ≤ decimalFormat.top := by
  have : (n : ℚ) + 1 ≤ 2 ^ 96 := by exact_mod_cast h
  rw [decimalFormat_top]
  linarith

/-- A signed ratio is at most one. -/
theorem signedRatio_fits (hops : ops.Rounded) (ha : IsDecimal a) (hb : IsDecimal b) (ha0 : 0 ≤ a)
    (hb0 : 0 ≤ b) (hsum : a + b ≤ decimalFormat.top) :
    ∃ r, signedRatio ops a b = some r ∧ IsDecimal r ∧ |r| ≤ 1 := by
  have hone : IsDecimal 1 := by exact_mod_cast isDecimal_natCast (n := 1) (by norm_num)
  have hexact : |a + b| ≤ decimalFormat.top := by rwa [abs_of_nonneg (add_nonneg ha0 hb0)]
  obtain ⟨total, htotal, hround⟩ := (hops.add a b ha hb).fits hexact
  unfold signedRatio
  simp only [htotal, Option.bind_eq_bind, Option.bind_some]
  split
  · exact ⟨0, rfl, Format.representable_zero, by simp⟩
  · rename_i hpos
    have hpos := not_le.1 hpos
    -- each side is below the total, however it was rounded
    have haTotal := hround.ge a ha (by linarith)
    have hbTotal := hround.ge b hb (by linarith)
    have hdifference : |a - b| ≤ total := abs_le.2 ⟨by linarith, by linarith⟩
    obtain ⟨difference, hsub, hrounds⟩ := (hops.sub a b ha hb).fits
      (hdifference.trans hround.representable.le_top)
    have hle := hrounds.magnitude_le hround.representable hdifference
    have hshare : |difference / total| ≤ 1 := by
      rw [abs_div, abs_of_pos hpos, div_le_one hpos]
      exact hle
    obtain ⟨r, hr, hshared⟩ :=
      (hops.div _ _ hrounds.representable hround.representable hpos.ne').fits
      (hshare.trans (by rw [decimalFormat_top]; norm_num))
    exact ⟨r, by simp [hsub, hr], hshared.representable, hshared.magnitude_le hone hshare⟩

/-- A positive ratio exists where it is in range. -/
theorem positiveRatio_fits (hops : ops.Rounded) (ha : IsDecimal a) (hb : IsDecimal b)
    (hn : n < 2 ^ 96) (h : 0 < a → 0 < b → a / b ≤ n) :
    ∃ r, positiveRatio ops a b = some r ∧ IsDecimal r ∧ 0 ≤ r ∧ r ≤ n := by
  unfold positiveRatio
  split
  · exact ⟨0, rfl, Format.representable_zero, le_rfl, Nat.cast_nonneg n⟩
  · rename_i hpos
    obtain ⟨ha0, hb0⟩ := not_or.1 hpos
    have ha0 := not_le.1 ha0
    have hb0 := not_le.1 hb0
    have hle := h ha0 hb0
    have hnonneg : 0 ≤ a / b := (div_pos ha0 hb0).le
    obtain ⟨r, hr, hround⟩ := (hops.div a b ha hb hb0.ne').fits
      (by rw [abs_of_nonneg hnonneg]; exact hle.trans (natCast_le_top hn))
    exact ⟨r, hr, hround.representable, hround.nonneg hnonneg, hround.le_nat hn hle⟩

/-! ## The sums of a side -/

/-- A level with decimals in it, both positive. -/
structure DecimalLevel (level : PricedLevel) : Prop where
  price : IsDecimal level.1
  quantity : IsDecimal level.2.quantity
  pricePos : 0 < level.1
  quantityPos : 0 < level.2.quantity

/-- The quantities of some levels. -/
def quantities (levels : List PricedLevel) : List Decimal := levels.map (·.2.quantity)

/-- Price times quantity of some levels. -/
def notionals (levels : List PricedLevel) : List Decimal :=
  levels.map fun level => level.1 * level.2.quantity

/-- Levels whose quantities and notionals can be added up. -/
structure Summable (levels : List PricedLevel) : Prop where
  decimal : ∀ level ∈ levels, DecimalLevel level
  quantityCeil : ceilSum (quantities levels) < 2 ^ 96
  notionalCeil : ceilSum (notionals levels) < 2 ^ 96
  length : levels.length ≤ okxLevel2MaxDepth

theorem Summable.sublist (h : Summable levels) (hfront : front.Sublist levels) :
    Summable front where
  decimal level hlevel := h.decimal level (hfront.subset hlevel)
  quantityCeil := lt_of_le_of_lt (((hfront.map _).map _).sum_le_sum fun _ _ => Nat.zero_le _)
    h.quantityCeil
  notionalCeil := lt_of_le_of_lt (((hfront.map _).map _).sum_le_sum fun _ _ => Nat.zero_le _)
    h.notionalCeil
  length := hfront.length_le.trans h.length

theorem Summable.quantity (h : Summable levels) : ∀ v ∈ quantities levels, IsDecimal v ∧ 0 ≤ v := by
  intro v hv
  obtain ⟨level, hlevel, rfl⟩ := List.mem_map.1 hv
  exact ⟨(h.decimal level hlevel).quantity, (h.decimal level hlevel).quantityPos.le⟩

theorem Summable.length_le (h : Summable levels) : levels.length ≤ 1000 :=
  h.length.trans (by unfold okxLevel2MaxDepth; omega)

theorem quantitySum_fits (hops : ops.Rounded) (h : Summable levels) :
    ∃ s, quantitySum ops levels = some s ∧ SumOf (quantities levels) s :=
  decimalSum_fits hops h.quantity h.quantityCeil (by simpa [quantities] using h.length_le)

theorem notionalValues_fits (hops : ops.Rounded) (h : Summable levels) :
    ∃ vs, levels.mapM (fun level => ops.mul level.1 level.2.quantity) = some vs ∧
      (∀ v ∈ vs, IsDecimal v ∧ 0 ≤ v) ∧ ceilSum vs ≤ ceilSum (notionals levels) ∧
      vs.length = levels.length := by
  refine mapM_fits fun level hlevel => ?_
  have hd := h.decimal level hlevel
  have hnonneg : 0 ≤ level.1 * level.2.quantity := (mul_pos hd.pricePos hd.quantityPos).le
  have hmem : level.1 * level.2.quantity ∈ notionals levels := List.mem_map.2 ⟨level, hlevel, rfl⟩
  have hceil := lt_of_le_of_lt (ceil_le_ceilSum hmem) h.notionalCeil
  obtain ⟨v, hv, hround⟩ := (hops.mul _ _ hd.price hd.quantity).fits
    (by rw [abs_of_nonneg hnonneg]; exact le_top_of_ceil hceil)
  exact ⟨v, hv, hround.representable, hround.nonneg hnonneg, ceil_le_of_rounds hround hceil⟩

theorem notionalSum_fits (hops : ops.Rounded) (h : Summable levels) :
    ∃ s, notionalSum ops levels = some s ∧ IsDecimal s ∧ 0 ≤ s ∧
      s ≤ ceilSum (notionals levels) := by
  obtain ⟨vs, hvs, hall, hceil, hlength⟩ := notionalValues_fits hops h
  obtain ⟨s, hs, hsum⟩ := decimalSum_fits hops hall (lt_of_le_of_lt hceil h.notionalCeil)
    (by rw [hlength]; exact h.length_le)
  refine ⟨s, by simp [notionalSum, hvs, hs], hsum.isDecimal, hsum.nonneg, ?_⟩
  exact hsum.le_ceilSum.trans (by exact_mod_cast hceil)

/-- The notional of the first levels is not more than that of all. -/
theorem notionalSum_le_append (hops : ops.Rounded) {rest : List PricedLevel}
    (h : Summable (front ++ rest)) (hs : notionalSum ops front = some a)
    (ht : notionalSum ops (front ++ rest) = some b) : a ≤ b := by
  obtain ⟨vs, hvs, hall, hceil, hlength⟩ := notionalValues_fits hops h
  rw [List.mapM_append] at hvs
  simp only [Option.bind_eq_bind, Option.bind_eq_some_iff, Option.pure_def,
    Option.some.injEq] at hvs
  obtain ⟨firsts, hfirsts, lasts, hlasts, rfl⟩ := hvs
  simp only [notionalSum, hfirsts, Option.bind_eq_bind, Option.bind_some] at hs
  simp only [notionalSum, List.mapM_append, hfirsts, hlasts, Option.bind_eq_bind, Option.bind_some,
    Option.pure_def] at ht
  exact decimalSum_le_append hops hall (lt_of_le_of_lt hceil h.notionalCeil)
    (by rw [hlength]; exact h.length_le) hs ht

theorem distanceWeightedSum_fits (hops : ops.Rounded) (h : Summable levels) :
    ∃ s, distanceWeightedSum ops levels = some s ∧ IsDecimal s ∧ 0 ≤ s ∧
      s ≤ ceilSum (quantities levels) := by
  have hvalues : ∀ indexed ∈ levels.zipIdx, ∃ v,
      ops.div indexed.1.2.quantity ((indexed.2 + 1 : ℕ) : ℚ) = some v ∧ IsDecimal v ∧ 0 ≤ v ∧
        ⌈v⌉₊ ≤ ⌈indexed.1.2.quantity⌉₊ := by
    rintro ⟨level, i⟩ hindexed
    obtain ⟨hlevel, hi⟩ := List.mem_zipIdx_iff_getElem?.1 hindexed |> fun hget =>
      (⟨List.mem_of_getElem? hget, (List.getElem?_eq_some_iff.1 hget).1⟩ :
        level ∈ levels ∧ i < levels.length)
    have hd := h.decimal level hlevel
    have hq := hd.quantityPos
    have hindex : IsDecimal ((i + 1 : ℕ) : ℚ) :=
      isDecimal_natCast (lt_of_le_of_lt (hi.trans_le h.length_le : i + 1 ≤ 1000) (by norm_num))
    have hpos : (1 : ℚ) ≤ ((i + 1 : ℕ) : ℚ) := by
      push_cast
      have : (0 : ℚ) ≤ i := Nat.cast_nonneg i
      linarith
    have hnonneg : 0 ≤ level.2.quantity / ((i + 1 : ℕ) : ℚ) := by positivity
    have hle : level.2.quantity / ((i + 1 : ℕ) : ℚ) ≤ level.2.quantity := div_le_self hq.le hpos
    obtain ⟨v, hv, hround⟩ := (hops.div _ _ hd.quantity hindex (by positivity)).fits
      (by rw [abs_of_nonneg hnonneg]; exact hle.trans hd.quantity.le_top)
    exact ⟨v, hv, hround.representable, hround.nonneg hnonneg,
      Nat.ceil_mono (hround.le _ hd.quantity hle)⟩
  obtain ⟨vs, hvs, hall, hceil, hlength⟩ :=
    mapM_fits (g := fun indexed : PricedLevel × ℕ => indexed.1.2.quantity) hvalues
  have hmap : levels.zipIdx.map (fun indexed : PricedLevel × ℕ => indexed.1.2.quantity) =
      quantities levels := by
    have hfst := congrArg (List.map fun level : PricedLevel => level.2.quantity)
      (List.zipIdx_map_fst 0 levels)
    rwa [List.map_map] at hfst
  rw [hmap] at hceil
  obtain ⟨s, hs, hsum⟩ := decimalSum_fits hops hall (lt_of_le_of_lt hceil h.quantityCeil)
    (by rw [hlength, List.length_zipIdx]; exact h.length_le)
  refine ⟨s, by simp only [distanceWeightedSum, hvs, hs, Option.bind_eq_bind, Option.bind_some],
    hsum.isDecimal, hsum.nonneg, ?_⟩
  exact hsum.le_ceilSum.trans (by exact_mod_cast hceil)

theorem sideDepthFrom_fits (hops : ops.Rounded) {m : ℕ} (ha : IsDecimal a) (ha0 : 0 ≤ a)
    (han : a ≤ n) (hb : IsDecimal b) (hb0 : 0 ≤ b) (hbm : b ≤ m)
    (hdecimal : ∀ level ∈ levels, DecimalLevel level)
    (hquantity : n + ceilSum (quantities levels) < 2 ^ 96)
    (hnotional : m + ceilSum (notionals levels) < 2 ^ 96) :
    ∃ depth, levels.foldlM (fun (depth : Decimal × Decimal) (level : PricedLevel) => do
      let quantity ← ops.add depth.1 level.2.quantity
      let product ← ops.mul level.1 level.2.quantity
      let notional ← ops.add depth.2 product
      return (quantity, notional)) (a, b) = some depth := by
  induction levels generalizing a b n m with
  | nil => exact ⟨_, rfl⟩
  | cons level rest ih =>
      have hd := hdecimal level List.mem_cons_self
      have hq := hd.quantityPos.le
      have hp : 0 ≤ level.1 * level.2.quantity := (mul_pos hd.pricePos hd.quantityPos).le
      simp only [quantities, notionals, List.map_cons, ceilSum_cons] at hquantity hnotional
      have hqceil := Nat.le_ceil level.2.quantity
      have hpceil := Nat.le_ceil (level.1 * level.2.quantity)
      have hnextQ : a + level.2.quantity ≤ ((n + ⌈level.2.quantity⌉₊ : ℕ) : ℚ) := by
        push_cast
        exact add_le_add han hqceil
      obtain ⟨quantity, haddQ, hroundQ⟩ := (hops.add _ _ ha hd.quantity).fits (by
        rw [abs_of_nonneg (add_nonneg ha0 hq)]
        exact hnextQ.trans (natCast_le_top (by omega)))
      obtain ⟨product, hmul, hroundP⟩ := (hops.mul _ _ hd.price hd.quantity).fits (by
        rw [abs_of_nonneg hp]
        exact le_top_of_ceil (by omega))
      have hproduct : product ≤ ((⌈level.1 * level.2.quantity⌉₊ : ℕ) : ℚ) :=
        hroundP.le_nat (lt_of_le_of_lt (by omega) hnotional) hpceil
      have hproduct0 := hroundP.nonneg hp
      have hnextN : b + product ≤ ((m + ⌈level.1 * level.2.quantity⌉₊ : ℕ) : ℚ) := by
        push_cast
        exact add_le_add hbm hproduct
      obtain ⟨notional, haddN, hroundN⟩ := (hops.add _ _ hb hroundP.representable).fits (by
        rw [abs_of_nonneg (add_nonneg hb0 hproduct0)]
        exact hnextN.trans (natCast_le_top (by omega)))
      obtain ⟨depth, hdepth⟩ := ih hroundQ.representable (hroundQ.nonneg (add_nonneg ha0 hq))
        (hroundQ.le_nat (lt_of_le_of_lt (by omega) hquantity) hnextQ) hroundN.representable
        (hroundN.nonneg (add_nonneg hb0 hproduct0))
        (hroundN.le_nat (lt_of_le_of_lt (by omega) hnotional) hnextN)
        (fun l hl => hdecimal l (List.mem_cons_of_mem _ hl))
        (by simpa only [quantities, Nat.add_assoc] using hquantity)
        (by simpa only [notionals, Nat.add_assoc] using hnotional)
      have hstep : (do
          let quantity ← ops.add a level.2.quantity
          let product ← ops.mul level.1 level.2.quantity
          let notional ← ops.add b product
          return (quantity, notional)) = some (quantity, notional) := by
        simp [haddQ, hmul, haddN]
      refine ⟨depth, ?_⟩
      rw [List.foldlM_cons]
      exact (congrArg (· >>= _) hstep).trans hdepth

theorem sideDepth_fits (hops : ops.Rounded) (h : Summable levels) :
    ∃ depth, sideDepth ops levels = some depth :=
  sideDepthFrom_fits hops (n := 0) (m := 0) Format.representable_zero le_rfl (by simp)
    Format.representable_zero le_rfl (by simp) h.decimal (by simpa using h.quantityCeil)
    (by simpa using h.notionalCeil)

/-! ## The features of the whole depth -/

/-- Both sides, and both together, can be added up. -/
structure Addable (bids asks : List PricedLevel) : Prop where
  bidSide : Summable bids
  askSide : Summable asks
  quantityCeil : ceilSum (quantities bids) + ceilSum (quantities asks) < 2 ^ 96
  notionalCeil : ceilSum (notionals bids) + ceilSum (notionals asks) < 2 ^ 96

section Features

variable {bids asks : BookSide} {mid : Decimal}

theorem ceilSum_quantities_le (h : front.Sublist levels) :
    ceilSum (quantities front) ≤ ceilSum (quantities levels) :=
  ((h.map _).map _).sum_le_sum fun _ _ => Nat.zero_le _

theorem ceilSum_notionals_le (h : front.Sublist levels) :
    ceilSum (notionals front) ≤ ceilSum (notionals levels) :=
  ((h.map _).map _).sum_le_sum fun _ _ => Nat.zero_le _

/-- Two sums that are together below a whole number in range. -/
theorem add_le_top {m : ℕ} (ha : a ≤ n) (hb : b ≤ m) (h : n + m < 2 ^ 96) :
    a + b ≤ decimalFormat.top := by
  have hle : a + b ≤ ((n + m : ℕ) : ℚ) := by
    push_cast
    exact add_le_add ha hb
  exact hle.trans (natCast_le_top h)

variable (hops : ops.Rounded) (h : Addable (bestBidsFirst bids) (bestAsksFirst asks))
include hops h

/-- Any imbalance of quantities is a share. -/
theorem imbalance_fits (levels : ℕ) :
    ∃ r, imbalance ops bids asks levels = some r ∧ IsDecimal r ∧ |r| ≤ 1 := by
  have hbids := List.take_sublist levels (bestBidsFirst bids)
  have hasks := List.take_sublist levels (bestAsksFirst asks)
  obtain ⟨bid, hbid, hbidSum⟩ := quantitySum_fits hops (h.bidSide.sublist hbids)
  obtain ⟨ask, hask, haskSum⟩ := quantitySum_fits hops (h.askSide.sublist hasks)
  have hsum : ceilSum (quantities ((bestBidsFirst bids).take levels)) +
      ceilSum (quantities ((bestAsksFirst asks).take levels)) < 2 ^ 96 :=
    lt_of_le_of_lt (add_le_add (ceilSum_quantities_le hbids) (ceilSum_quantities_le hasks))
      h.quantityCeil
  obtain ⟨r, hr, hdecimal, hle⟩ := signedRatio_fits hops hbidSum.isDecimal haskSum.isDecimal
    hbidSum.nonneg haskSum.nonneg (add_le_top hbidSum.le_ceilSum haskSum.le_ceilSum hsum)
  exact ⟨r, by simp [imbalance, hbid, hask, hr], hdecimal, hle⟩

theorem distanceWeightedImbalance_fits :
    ∃ r, distanceWeightedImbalance ops bids asks = some r ∧ IsDecimal r ∧ |r| ≤ 1 := by
  have hbids := List.take_sublist okxLevel2MaxDepth (bestBidsFirst bids)
  have hasks := List.take_sublist okxLevel2MaxDepth (bestAsksFirst asks)
  obtain ⟨bid, hbid, hbidDecimal, hbid0, hbidCeil⟩ :=
    distanceWeightedSum_fits hops (h.bidSide.sublist hbids)
  obtain ⟨ask, hask, haskDecimal, hask0, haskCeil⟩ :=
    distanceWeightedSum_fits hops (h.askSide.sublist hasks)
  have hsum := lt_of_le_of_lt
    (add_le_add (ceilSum_quantities_le hbids) (ceilSum_quantities_le hasks)) h.quantityCeil
  obtain ⟨r, hr, hdecimal, hle⟩ := signedRatio_fits hops hbidDecimal haskDecimal hbid0 hask0
    (add_le_top hbidCeil haskCeil hsum)
  refine ⟨r, ?_, hdecimal, hle⟩
  simp only [distanceWeightedImbalance, hbid, hask, hr, Option.bind_eq_bind, Option.bind_some]

theorem notionalImbalance_fits (levels : ℕ) :
    ∃ r, notionalImbalance ops bids asks levels = some r := by
  have hbids := List.take_sublist levels (bestBidsFirst bids)
  have hasks := List.take_sublist levels (bestAsksFirst asks)
  obtain ⟨bid, hbid, hbidDecimal, hbid0, hbidCeil⟩ :=
    notionalSum_fits hops (h.bidSide.sublist hbids)
  obtain ⟨ask, hask, haskDecimal, hask0, haskCeil⟩ :=
    notionalSum_fits hops (h.askSide.sublist hasks)
  have hsum := lt_of_le_of_lt
    (add_le_add (ceilSum_notionals_le hbids) (ceilSum_notionals_le hasks)) h.notionalCeil
  obtain ⟨r, hr, -⟩ := signedRatio_fits hops hbidDecimal haskDecimal hbid0 hask0
    (add_le_top hbidCeil haskCeil hsum)
  exact ⟨r, by simp [notionalImbalance, hbid, hask, hr]⟩

theorem nearBookDepth_fits (levels : ℕ) :
    ∃ depth, nearBookDepth ops bids asks levels = some depth := by
  obtain ⟨bid, hbid⟩ := sideDepth_fits hops
    (h.bidSide.sublist (List.take_sublist levels (bestBidsFirst bids)))
  obtain ⟨ask, hask⟩ := sideDepth_fits hops
    (h.askSide.sublist (List.take_sublist levels (bestAsksFirst asks)))
  exact ⟨_, by simp [nearBookDepth, hbid, hask]; rfl⟩

/-- The moves, from a mid that leaves room for them. -/
theorem depthToMove_fits {basisPoints : ℕ} (hpoints : basisPoints ≤ basisPointsPerUnit)
    (hmid : IsDecimal mid) (hmid0 : 0 ≤ mid) (hmidTop : 2 * mid ≤ decimalFormat.top) :
    ∃ depth, depthToMove ops bids asks mid basisPoints = some depth := by
  have hone : IsDecimal 1 := by exact_mod_cast isDecimal_natCast (n := 1) (by norm_num)
  have hbasis : IsDecimal (basisPointsPerUnit : ℚ) :=
    isDecimal_natCast (by norm_num [basisPointsPerUnit])
  have hpos : (0 : ℚ) < basisPointsPerUnit := by norm_num [basisPointsPerUnit]
  have hnumber : IsDecimal (basisPoints : ℚ) :=
    isDecimal_natCast (lt_of_le_of_lt hpoints (by norm_num [basisPointsPerUnit]))
  have hshare0 : (0 : ℚ) ≤ basisPoints / basisPointsPerUnit := by positivity
  have hshare1 : (basisPoints : ℚ) / basisPointsPerUnit ≤ 1 := by
    rw [div_le_one hpos]
    exact_mod_cast hpoints
  have htwoTop : (2 : ℚ) ≤ decimalFormat.top := by rw [decimalFormat_top]; norm_num
  obtain ⟨fraction, hdiv, hfraction⟩ := (hops.div _ _ hnumber hbasis hpos.ne').fits
    (by rw [abs_of_nonneg hshare0]; linarith)
  have hfraction0 := hfraction.nonneg hshare0
  have hfraction1 := hfraction.le 1 hone hshare1
  obtain ⟨bidShare, hsub, hbidShare⟩ := (hops.sub _ _ hone hfraction.representable).fits
    (by rw [abs_of_nonneg (by linarith)]; linarith)
  have hbidShare0 := hbidShare.nonneg (by linarith)
  have hbidShare1 := hbidShare.le 1 hone (by linarith)
  obtain ⟨bidFloor, hmulBid, -⟩ := (hops.mul _ _ hmid hbidShare.representable).fits
    (by rw [abs_of_nonneg (mul_nonneg hmid0 hbidShare0)]; nlinarith)
  obtain ⟨askShare, hadd, haskShare⟩ := (hops.add _ _ hone hfraction.representable).fits
    (by rw [abs_of_nonneg (by linarith)]; linarith)
  have haskShare0 := haskShare.nonneg (by linarith)
  have haskShare2 : askShare ≤ 2 := by
    exact_mod_cast haskShare.le_nat (n := 2) (by norm_num [decimalFormat]) (by push_cast; linarith)
  obtain ⟨askCeiling, hmulAsk, -⟩ := (hops.mul _ _ hmid haskShare.representable).fits
    (by rw [abs_of_nonneg (mul_nonneg hmid0 haskShare0)]; nlinarith)
  obtain ⟨bid, hbid⟩ := sideDepth_fits hops (h.bidSide.sublist
    (List.takeWhile_sublist (l := bestBidsFirst bids) fun level => decide (bidFloor ≤ level.1)))
  obtain ⟨ask, hask⟩ := sideDepth_fits hops (h.askSide.sublist
    (List.takeWhile_sublist (l := bestAsksFirst asks) fun level => decide (level.1 ≤ askCeiling)))
  refine Option.isSome_iff_exists.1 ?_
  simp [depthToMove, hdiv, hsub, hmulBid, hadd, hmulAsk, hbid, hask]

omit h in
/-- The nearest levels hold a share of the notional of more of them. -/
theorem nearShare_fits {side : List PricedLevel} (hside : Summable side) :
    ∃ near deep share, notionalSum ops (side.take 5) = some near ∧
      notionalSum ops (side.take 50) = some deep ∧ positiveRatio ops near deep = some share ∧
      IsDecimal share ∧ 0 ≤ share ∧ share ≤ 1 := by
  obtain ⟨near, hnear, hnearDecimal, hnear0, -⟩ :=
    notionalSum_fits hops (hside.sublist (List.take_sublist 5 side))
  obtain ⟨deep, hdeep, hdeepDecimal, hdeep0, -⟩ :=
    notionalSum_fits hops (hside.sublist (List.take_sublist 50 side))
  have hsplit : side.take 50 = side.take 5 ++ (side.take 50).drop 5 := by
    calc side.take 50 = (side.take 50).take 5 ++ (side.take 50).drop 5 :=
          (List.take_append_drop 5 _).symm
      _ = side.take 5 ++ (side.take 50).drop 5 := by
          rw [List.take_take]
          rfl
  have hle : near ≤ deep := by
    have hdeep' := hdeep
    rw [hsplit] at hdeep'
    refine notionalSum_le_append hops ?_ hnear hdeep'
    rw [← hsplit]
    exact hside.sublist (List.take_sublist 50 side)
  obtain ⟨share, hshare, hdecimal, hshare0, hshare1⟩ := positiveRatio_fits hops (n := 1)
    hnearDecimal hdeepDecimal (by norm_num) fun _ hpos => by
      rw [Nat.cast_one, div_le_one hpos]
      exact hle
  exact ⟨near, deep, share, hnear, hdeep, hshare, hdecimal, hshare0, by simpa using hshare1⟩

theorem liquidityVacuum_fits : ∃ r, liquidityVacuum ops bids asks = some r := by
  have hone : IsDecimal 1 := by exact_mod_cast isDecimal_natCast (n := 1) (by norm_num)
  obtain ⟨nearBid, deepBid, bidShare, hnearBid, hdeepBid, hbidShare, hbidDecimal, hbid0, hbid1⟩ :=
    nearShare_fits hops h.bidSide
  obtain ⟨nearAsk, deepAsk, askShare, hnearAsk, hdeepAsk, haskShare, haskDecimal, hask0, hask1⟩ :=
    nearShare_fits hops h.askSide
  have hmin : IsDecimal (min bidShare askShare) := by
    rcases min_choice bidShare askShare with hmin | hmin <;> rw [hmin]
    · exact hbidDecimal
    · exact haskDecimal
  have hmin0 : 0 ≤ min bidShare askShare := le_min hbid0 hask0
  have hmin1 : min bidShare askShare ≤ 1 := (min_le_left _ _).trans hbid1
  obtain ⟨vacuum, hsub, -⟩ := (hops.sub _ _ hone hmin).fits (by
    rw [abs_of_nonneg (by linarith), decimalFormat_top]
    linarith)
  refine Option.isSome_iff_exists.1 ?_
  simp [liquidityVacuum, hnearBid, hdeepBid, hbidShare, hnearAsk, hdeepAsk, haskShare, hsub]

end Features

end OkxTrading
