import OkxTrading.Market.RustDecimal
import OkxTrading.Okx.Decimal

/-!
# Quantization

`quantize_decimal_down` and `quantize_decimal_up` in the arithmetic of `rust_decimal`.  The quotient
is rounded to a `Decimal` before its whole part is taken, and the product once more.

* `DecimalOps.quantizeDecimalDown`, `DecimalOps.quantizeDecimalUp` — the two functions.
* `RoundsDown`, `RoundsUp` — the next multiple of the step, on the side the name says.
* `QuotientBelow`, `QuotientAbove` — the quotient is not rounded across an integer.
* `quantize_directed` — **exactly when both functions keep to their side**.
* `quantize_crosses` — a value is rounded down to more than it is, and one up to less.
* `quotient_of_digits` — amounts and steps of up to fourteen digits are never affected.
* `quantizeDecimalDown_exact`, `quantizeDecimalUp_exact` — there the functions of `Okx.Decimal`,
  which calculate exactly, give the same.
-/

namespace OkxTrading

open ScaledDecimal

/-- `quantize_decimal_down`; no result is a panic of an operator. -/
def DecimalOps.quantizeDecimalDown (ops : DecimalOps) (value step : Decimal) :
    Option (Result Decimal) :=
  if 0 < value then do
    let quotient ← ops.div value step
    let product ← ops.mul ⌊quotient⌋ step
    return .ok product
  else some (.error "value must be positive")

/-- `quantize_decimal_up`. -/
def DecimalOps.quantizeDecimalUp (ops : DecimalOps) (value step : Decimal) :
    Option (Result Decimal) :=
  if 0 < value then do
    let quotient ← ops.div value step
    let product ← ops.mul ⌈quotient⌉ step
    return .ok product
  else some (.error "value must be positive")

/-- Products and quotients are rounded to the nearest decimal, of two the one with the even
mantissa. -/
structure DecimalOps.RoundsNearest (ops : DecimalOps) : Prop where
  mul : ∀ a b, IsDecimal a → IsDecimal b → ops.mul a b = decimalFormat.round (a * b)
  div : ∀ a b, IsDecimal a → IsDecimal b → b ≠ 0 → ops.div a b = decimalFormat.round (a / b)

theorem DecimalOps.roundsNearest_rustDecimal : DecimalOps.rustDecimal.RoundsNearest where
  mul _ _ _ _ := rfl
  div _ _ _ _ hb := if_neg hb

/-! ## The next multiple -/

/-- The greatest multiple of the step that is not above the value. -/
def RoundsDown (value step result : Decimal) : Prop :=
  ∃ k : ℤ, result = k * step ∧ k * step ≤ value ∧ value < (k + 1) * step

/-- The least multiple of the step that is not below the value. -/
def RoundsUp (value step result : Decimal) : Prop :=
  ∃ m : ℤ, result = m * step ∧ (m - 1) * step < value ∧ value ≤ m * step

section Multiples

variable {value step result down up : Decimal}

theorem roundsDown_iff (hstep : 0 < step) :
    RoundsDown value step result ↔ result = ⌊value / step⌋ * step := by
  constructor
  · rintro ⟨k, rfl, hle, hlt⟩
    have hfloor : ⌊value / step⌋ = k :=
      Int.floor_eq_iff.2 ⟨(le_div_iff₀ hstep).2 hle, (div_lt_iff₀ hstep).2 hlt⟩
    rw [hfloor]
  · intro h
    exact ⟨_, h, (le_div_iff₀ hstep).1 (Int.floor_le _),
      (div_lt_iff₀ hstep).1 (Int.lt_floor_add_one _)⟩

theorem roundsUp_iff (hstep : 0 < step) :
    RoundsUp value step result ↔ result = ⌈value / step⌉ * step := by
  constructor
  · rintro ⟨m, rfl, hlt, hle⟩
    have hceil : ⌈value / step⌉ = m :=
      Int.ceil_eq_iff.2 ⟨(lt_div_iff₀ hstep).2 hlt, (div_le_iff₀ hstep).2 hle⟩
    rw [hceil]
  · intro h
    refine ⟨_, h, (lt_div_iff₀ hstep).1 ?_, (div_le_iff₀ hstep).1 (Int.le_ceil _)⟩
    linarith [Int.ceil_lt_add_one (value / step)]

/-- The two neighbours are one exactly at a multiple. -/
theorem down_eq_up_iff (hstep : 0 < step) (hdown : RoundsDown value step down)
    (hup : RoundsUp value step up) : down = up ↔ ∃ k : ℤ, value = k * step := by
  obtain ⟨k, rfl, hle, hlt⟩ := hdown
  obtain ⟨m, rfl, hlt', hle'⟩ := hup
  constructor
  · intro h
    exact ⟨k, le_antisymm (h ▸ hle') hle⟩
  · rintro ⟨j, rfl⟩
    have hjk : j < k + 1 := by exact_mod_cast lt_of_mul_lt_mul_right hlt hstep.le
    have hkj : k ≤ j := by exact_mod_cast le_of_mul_le_mul_right hle hstep
    have hmj : m - 1 < j := by exact_mod_cast lt_of_mul_lt_mul_right hlt' hstep.le
    have hjm : j ≤ m := by exact_mod_cast le_of_mul_le_mul_right hle' hstep
    have hk : k = m := by omega
    rw [hk]

end Multiples

/-! ## Which quotients are rounded across an integer -/

/-- The quotient is not rounded up to the next integer, and the multiple below the value is a
`Decimal`. -/
def QuotientBelow (value step : Decimal) : Prop :=
  decimalFormat.Apart (value / step) (⌊value / step⌋ + 1) ∧ IsDecimal (⌊value / step⌋ * step)

/-- The quotient is not rounded down to the integer before, and the multiple above the value is a
`Decimal`. -/
def QuotientAbove (value step : Decimal) : Prop :=
  decimalFormat.Apart (value / step) (⌈value / step⌉ - 1) ∧ IsDecimal (⌈value / step⌉ * step)

theorem decimalFormat_bound : decimalFormat.bound % 10 = 6 := by norm_num [decimalFormat]

section Quantize

variable {ops : DecimalOps} {value step down up : Decimal}

theorem quantizeDecimalDown_cases (hpos : 0 < value)
    (h : ops.quantizeDecimalDown value step = some (.ok down)) :
    ∃ q, ops.div value step = some q ∧ ops.mul ⌊q⌋ step = some down := by
  rw [DecimalOps.quantizeDecimalDown, if_pos hpos] at h
  obtain ⟨q, hq, h⟩ := Option.bind_eq_some_iff.1 h
  obtain ⟨product, hproduct, h⟩ := Option.bind_eq_some_iff.1 h
  cases h
  exact ⟨q, hq, hproduct⟩

theorem quantizeDecimalUp_cases (hpos : 0 < value)
    (h : ops.quantizeDecimalUp value step = some (.ok up)) :
    ∃ q, ops.div value step = some q ∧ ops.mul ⌈q⌉ step = some up := by
  rw [DecimalOps.quantizeDecimalUp, if_pos hpos] at h
  obtain ⟨q, hq, h⟩ := Option.bind_eq_some_iff.1 h
  obtain ⟨product, hproduct, h⟩ := Option.bind_eq_some_iff.1 h
  cases h
  exact ⟨q, hq, hproduct⟩

/-- **Down is down** exactly where the quotient stays below the next integer. -/
theorem quantizeDecimalDown_iff (hops : ops.RoundsNearest) (hvalue : IsDecimal value)
    (hpos : 0 < value) (hstep : IsDecimal step) (hstep_pos : 0 < step)
    (h : ops.quantizeDecimalDown value step = some (.ok down)) :
    RoundsDown value step down ↔ QuotientBelow value step := by
  obtain ⟨q, hq, hproduct⟩ := quantizeDecimalDown_cases hpos h
  have hx : 0 ≤ value / step := (div_pos hpos hstep_pos).le
  rw [hops.div _ _ hvalue hstep hstep_pos.ne'] at hq
  have hrounds := Format.rounds_of_round decimalFormat_bound hq
  obtain ⟨hfloor_le, hle_floor⟩ := Format.floor_le_round decimalFormat_bound hx hq
  have hq_nonneg : 0 ≤ q := hrounds.nonneg hx
  rw [hops.mul _ _ (hrounds.representable.floor hq_nonneg) hstep] at hproduct
  have hdown := Format.rounds_of_round decimalFormat_bound hproduct
  rw [roundsDown_iff hstep_pos, QuotientBelow,
    ← Format.floor_round_eq_iff decimalFormat_bound hx hq]
  constructor
  · rintro rfl
    refine ⟨?_, hdown.representable⟩
    by_contra hne
    -- the next multiple is above the value, and so is what it is rounded to
    have hqx : q = ⌊value / step⌋ + 1 := by
      by_contra hnot
      exact hne (Int.floor_eq_iff.2 ⟨hfloor_le, lt_of_le_of_ne hle_floor hnot⟩)
    have hfloor : ⌊q⌋ = ⌊value / step⌋ + 1 := by
      rw [hqx, ← Int.cast_one, ← Int.cast_add, Int.floor_intCast]
    have hlt : value < (⌊value / step⌋ + 1) * step :=
      (div_lt_iff₀ hstep_pos).1 (Int.lt_floor_add_one _)
    have hge : value ≤ ⌊value / step⌋ * step := hdown.ge _ hvalue (by
      rw [hfloor]
      push_cast
      exact hlt.le)
    have hle : (⌊value / step⌋ : ℚ) * step ≤ value := (le_div_iff₀ hstep_pos).1 (Int.floor_le _)
    have hceil : ⌈value / step⌉ = ⌊value / step⌋ := by
      have hint : value / step = (⌊value / step⌋ : ℤ) := by
        rw [div_eq_iff hstep_pos.ne']
        exact le_antisymm hge hle
      rw [hint, Int.ceil_intCast, Int.floor_intCast]
    have hq_le := (Format.ceil_sub_one_le_round decimalFormat_bound hx hq).2
    rw [hceil] at hq_le
    linarith
  · rintro ⟨hfloor, hrepresentable⟩
    rw [hfloor] at hdown
    exact hdown.eq hrepresentable

/-- **Up is up** exactly where the quotient stays above the integer before. -/
theorem quantizeDecimalUp_iff (hops : ops.RoundsNearest) (hvalue : IsDecimal value)
    (hpos : 0 < value) (hstep : IsDecimal step) (hstep_pos : 0 < step)
    (h : ops.quantizeDecimalUp value step = some (.ok up)) :
    RoundsUp value step up ↔ QuotientAbove value step := by
  obtain ⟨q, hq, hproduct⟩ := quantizeDecimalUp_cases hpos h
  have hx : 0 ≤ value / step := (div_pos hpos hstep_pos).le
  rw [hops.div _ _ hvalue hstep hstep_pos.ne'] at hq
  have hrounds := Format.rounds_of_round decimalFormat_bound hq
  obtain ⟨hceil_le, hle_ceil⟩ := Format.ceil_sub_one_le_round decimalFormat_bound hx hq
  have hq_nonneg : 0 ≤ q := hrounds.nonneg hx
  rw [hops.mul _ _ (hrounds.representable.ceil hq_nonneg) hstep] at hproduct
  have hup := Format.rounds_of_round decimalFormat_bound hproduct
  rw [roundsUp_iff hstep_pos, QuotientAbove, ← Format.ceil_round_eq_iff decimalFormat_bound hx hq]
  constructor
  · rintro rfl
    refine ⟨?_, hup.representable⟩
    by_contra hne
    -- the multiple before is below the value, and so is what it is rounded to
    have hqx : q = ⌈value / step⌉ - 1 := by
      by_contra hnot
      exact hne (Int.ceil_eq_iff.2 ⟨lt_of_le_of_ne hceil_le (Ne.symm hnot), hle_ceil⟩)
    have hceil : ⌈q⌉ = ⌈value / step⌉ - 1 := by
      rw [hqx, ← Int.cast_one, ← Int.cast_sub, Int.ceil_intCast]
    have hlt : (⌈value / step⌉ - 1) * step < value := by
      rw [← lt_div_iff₀ hstep_pos]
      linarith [Int.ceil_lt_add_one (value / step)]
    have hle : ⌈value / step⌉ * step ≤ value := hup.le _ hvalue (by
      rw [hceil]
      push_cast
      exact hlt.le)
    have hge : value ≤ ⌈value / step⌉ * step := (div_le_iff₀ hstep_pos).1 (Int.le_ceil _)
    have hfloor : ⌊value / step⌋ = ⌈value / step⌉ := by
      have hint : value / step = (⌈value / step⌉ : ℤ) := by
        rw [div_eq_iff hstep_pos.ne']
        exact le_antisymm hge hle
      rw [hint, Int.ceil_intCast, Int.floor_intCast]
    have hq_ge := (Format.floor_le_round decimalFormat_bound hx hq).1
    rw [hfloor] at hq_ge
    linarith
  · rintro ⟨hceil, hrepresentable⟩
    rw [hceil] at hup
    exact hup.eq hrepresentable

/-- Both functions keep to their side, and agree exactly on the multiples. -/
structure Directed (value step down up : Decimal) : Prop where
  roundsDown : RoundsDown value step down
  roundsUp : RoundsUp value step up
  agree : down = up ↔ ∃ k : ℤ, value = k * step

/-- **Exactly when quantization keeps to its direction.** -/
theorem quantize_directed (hops : ops.RoundsNearest) (hvalue : IsDecimal value)
    (hpos : 0 < value) (hstep : IsDecimal step) (hstep_pos : 0 < step)
    (hdown : ops.quantizeDecimalDown value step = some (.ok down))
    (hup : ops.quantizeDecimalUp value step = some (.ok up)) :
    Directed value step down up ↔ QuotientBelow value step ∧ QuotientAbove value step := by
  have hdown_iff := quantizeDecimalDown_iff hops hvalue hpos hstep hstep_pos hdown
  have hup_iff := quantizeDecimalUp_iff hops hvalue hpos hstep hstep_pos hup
  constructor
  · intro h
    exact ⟨hdown_iff.1 h.roundsDown, hup_iff.1 h.roundsUp⟩
  · rintro ⟨hbelow, habove⟩
    have hdown' := hdown_iff.2 hbelow
    have hup' := hup_iff.2 habove
    exact ⟨hdown', hup', down_eq_up_iff hstep_pos hdown' hup'⟩

end Quantize

theorem quantize_directed_seven :
    (Directed 7 2 6 8 ↔ QuotientBelow 7 2 ∧ QuotientAbove 7 2) ∧ Directed 7 2 6 8 := by
  refine ⟨quantize_directed DecimalOps.roundsNearest_rustDecimal
    (isDecimal_natCast (n := 7) (by norm_num)) (by norm_num)
    (isDecimal_natCast (n := 2) (by norm_num)) (by norm_num) (by decide +kernel)
    (by decide +kernel), ⟨3, by norm_num⟩, ⟨4, by norm_num⟩, ?_⟩
  constructor
  · intro h
    norm_num at h
  · rintro ⟨k, hk⟩
    have : (7 : ℤ) = k * 2 := by exact_mod_cast hk
    omega

/-- One in the last place below 3, in steps of 3, is rounded down to 3, and one in the last place
above 3 is rounded up to 3. -/
theorem quantize_crosses :
    DecimalOps.rustDecimal.quantizeDecimalDown (3 - 1 / 10 ^ 28) 3 = some (.ok 3) ∧
    ¬ RoundsDown (3 - 1 / 10 ^ 28) 3 3 ∧
    DecimalOps.rustDecimal.quantizeDecimalUp (3 + 1 / 10 ^ 28) 3 = some (.ok 3) ∧
    ¬ RoundsUp (3 + 1 / 10 ^ 28) 3 3 ∧
    IsDecimal (3 - 1 / 10 ^ 28) ∧ IsDecimal (3 + 1 / 10 ^ 28) ∧ IsDecimal 3 := by
  refine ⟨by decide +kernel, ?_, by decide +kernel, ?_, ?_, ?_, isDecimal_natCast (by norm_num)⟩
  · rintro ⟨k, hk, hle, -⟩
    rw [← hk] at hle
    norm_num at hle
  · rintro ⟨m, hm, -, hle⟩
    rw [← hm] at hle
    norm_num at hle
  · exact ⟨3 * 10 ^ 28 - 1, 28, le_rfl, by norm_num [decimalFormat], by norm_num⟩
  · exact ⟨3 * 10 ^ 28 + 1, 28, le_rfl, by norm_num [decimalFormat], by norm_num⟩

/-! ## Short decimals -/

/-- A quotient of two short decimals that is no integer is apart from every integer. -/
theorem apart_of_digits {a b : ℕ} (ha : a ≤ 10 ^ 14) (hb : 0 < b) (hb14 : b ≤ 10 ^ 14) {k : ℤ}
    (hk : (a : ℚ) / b ≠ k) : decimalFormat.Apart ((a : ℚ) / b) k := by
  have hbq : (0 : ℚ) < b := by exact_mod_cast hb
  have hscale : 14 ≤ decimalFormat.scaleOf ((a : ℚ) / b) := by
    refine Nat.le_findGreatest (by norm_num [decimalFormat]) ?_
    have hle : (a : ℚ) / b ≤ 10 ^ 14 := by
      rw [div_le_iff₀ hbq]
      have h1 : (1 : ℚ) ≤ b := by exact_mod_cast hb
      have h2 : (a : ℚ) ≤ 10 ^ 14 := by exact_mod_cast ha
      nlinarith
    have hprod : (a : ℚ) / b * 10 ^ 14 ≤ 10 ^ 14 * 10 ^ 14 :=
      mul_le_mul_of_nonneg_right hle (by positivity)
    refine hprod.trans_lt ?_
    norm_num [decimalFormat]
  -- numerators of distinct fractions over `b` differ by one at least
  have hdist : 1 / (b : ℚ) ≤ |(a : ℚ) / b - k| := by
    have hne : (a : ℤ) - k * b ≠ 0 := by
      intro h
      apply hk
      rw [div_eq_iff hbq.ne']
      have : (a : ℤ) = k * b := by omega
      exact_mod_cast this
    have hone : (1 : ℚ) ≤ |(a : ℚ) - k * b| := by
      have := Int.one_le_abs hne
      exact_mod_cast this
    have hsplit : (a : ℚ) / b - k = (a - k * b) / b := by field_simp
    rw [hsplit, abs_div, abs_of_pos hbq]
    exact div_le_div_of_nonneg_right hone hbq.le
  have hpow : (10 : ℚ) ^ 14 ≤ 10 ^ decimalFormat.scaleOf ((a : ℚ) / b) :=
    pow_le_pow_right₀ (by norm_num) hscale
  refine .inl ?_
  calc (1 / 2 : ℚ) < 1 / b * 10 ^ 14 := by
        rw [one_div_mul_eq_div, lt_div_iff₀ hbq]
        have : (b : ℚ) ≤ 10 ^ 14 := by exact_mod_cast hb14
        linarith
    _ ≤ |(a : ℚ) / b - k| * 10 ^ decimalFormat.scaleOf ((a : ℚ) / b) :=
        mul_le_mul hdist hpow (by positivity) (abs_nonneg _)

/-- **Amounts and steps of up to fourteen digits** are quantized in the direction of the name. -/
theorem quotient_of_digits {a b i : ℕ} (hi : i ≤ 28) (ha : a ≤ 10 ^ 14) (hb : 0 < b)
    (hb14 : b ≤ 10 ^ 14) :
    QuotientBelow (a / 10 ^ i) (b / 10 ^ i) ∧ QuotientAbove (a / 10 ^ i) (b / 10 ^ i) := by
  have hbq : (0 : ℚ) < b := by exact_mod_cast hb
  have hx : (a / 10 ^ i : ℚ) / (b / 10 ^ i) = a / b := by field_simp
  have hnonneg : (0 : ℚ) ≤ (a : ℚ) / b := by positivity
  unfold QuotientBelow QuotientAbove
  rw [hx]
  refine ⟨⟨apart_of_digits ha hb hb14 ?_, ⟨⌊(a : ℚ) / b⌋ * b, i, hi, ?_, ?_⟩⟩,
    apart_of_digits ha hb hb14 ?_, ⟨⌈(a : ℚ) / b⌉ * b, i, hi, ?_, ?_⟩⟩
  · push_cast
    exact (Int.lt_floor_add_one _).ne
  · have hle : (⌊(a : ℚ) / b⌋ : ℚ) * b ≤ a := (le_div_iff₀ hbq).1 (Int.floor_le _)
    have hcast : ⌊(a : ℚ) / b⌋ * b ≤ (a : ℤ) := by exact_mod_cast hle
    have h0 : 0 ≤ ⌊(a : ℚ) / b⌋ * (b : ℤ) := mul_nonneg (Int.floor_nonneg.2 hnonneg) (by omega)
    rw [abs_of_nonneg h0]
    show _ < ((2 ^ 96 : ℕ) : ℤ)
    norm_num at ha ⊢
    omega
  · push_cast
    ring
  · push_cast
    linarith [Int.ceil_lt_add_one ((a : ℚ) / b)]
  · have hlt : (⌈(a : ℚ) / b⌉ : ℚ) * b < a + b := by
      have := Int.ceil_lt_add_one ((a : ℚ) / b)
      have hmul := mul_lt_mul_of_pos_right this hbq
      rwa [add_mul, div_mul_cancel₀ _ hbq.ne', one_mul] at hmul
    have hcast : ⌈(a : ℚ) / b⌉ * b < (a : ℤ) + b := by exact_mod_cast hlt
    have h0 : 0 ≤ ⌈(a : ℚ) / b⌉ * (b : ℤ) := mul_nonneg (Int.ceil_nonneg hnonneg) (by omega)
    rw [abs_of_nonneg h0]
    show _ < ((2 ^ 96 : ℕ) : ℤ)
    norm_num at ha hb14 ⊢
    omega
  · push_cast
    ring

/-! ## Exact decimals -/

section Exact

variable {ops : DecimalOps} {value step result : Decimal}

/-- Where the quotient stays below the next integer, the function of exact decimals gives the
same. -/
theorem quantizeDecimalDown_exact (hops : ops.RoundsNearest) (hvalue : IsDecimal value)
    (hpos : 0 < value) (hstep : IsDecimal step) (hstep_pos : 0 < step)
    (hbelow : QuotientBelow value step)
    (h : ops.quantizeDecimalDown value step = some (.ok result)) :
    quantizeDecimalDown value step = .ok result := by
  have hdown := (quantizeDecimalDown_iff hops hvalue hpos hstep hstep_pos h).2 hbelow
  exact quantizeDecimalDown_eq_ok.2 ⟨hpos, ((roundsDown_iff hstep_pos).1 hdown).symm⟩

/-- Where the quotient stays above the integer before, so does the one that rounds up. -/
theorem quantizeDecimalUp_exact (hops : ops.RoundsNearest) (hvalue : IsDecimal value)
    (hpos : 0 < value) (hstep : IsDecimal step) (hstep_pos : 0 < step)
    (habove : QuotientAbove value step)
    (h : ops.quantizeDecimalUp value step = some (.ok result)) :
    quantizeDecimalUp value step = .ok result := by
  have hup := (quantizeDecimalUp_iff hops hvalue hpos hstep hstep_pos h).2 habove
  exact quantizeDecimalUp_eq_ok.2 ⟨hpos, ((roundsUp_iff hstep_pos).1 hup).symm⟩

end Exact

end OkxTrading
