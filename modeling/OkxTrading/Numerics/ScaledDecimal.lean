import Mathlib.Algebra.Order.Floor.Ring
import Mathlib.Data.Rat.Floor
import Mathlib.Tactic.FieldSimp
import Mathlib.Tactic.Linarith
import Mathlib.Tactic.Positivity
import Mathlib.Tactic.Ring

/-!
# Decimals with a bounded mantissa

Numbers `m / 10 ^ s` with a mantissa below a bound and at most so many fractional digits, and
roundings that never pass a number of the format.

* `Representable`, `Rounds` — the format, and what a rounded result is.
* `Rounds.le_nat`, `Rounds.magnitude_le` — bounds that are numbers of the format survive rounding.
* `Rounds.le_error`, `Rounds.error_le` — a rounding moves a value by a share `relative` of it and by
  one unit of the last place.
* `Rounds.le_error_of_onGrid` — on multiples of the unit, such as sums, by the share only.
* `round`, `evaluates_round` — rounding to the nearest number at the finest scale that fits.
-/

namespace ScaledDecimal

/-- Mantissas below `bound`, at most `digits` fractional digits. -/
structure Format where
  bound : ℕ
  digits : ℕ
  one_lt : 1 < bound

namespace Format

variable {f : Format} {x y c r : ℚ} {n : ℕ}

/-- The numbers of the format: a bounded mantissa over a power of ten. -/
def Representable (f : Format) (x : ℚ) : Prop :=
  ∃ (m : ℤ) (s : ℕ), s ≤ f.digits ∧ |m| < f.bound ∧ x = m / 10 ^ s

/-- One in the last place. -/
def unit (f : Format) : ℚ := 1 / 10 ^ f.digits

/-- The greatest number. -/
def top (f : Format) : ℚ := f.bound - 1

/-- The share by which a rounding moves a value. -/
def relative (f : Format) : ℚ := 10 / f.top

/-- A result no number of the format lies strictly between it and the exact value. -/
structure Rounds (f : Format) (x c : ℚ) : Prop where
  representable : f.Representable c
  le : ∀ r, f.Representable r → x ≤ r → c ≤ r
  ge : ∀ r, f.Representable r → r ≤ x → r ≤ c

theorem unit_pos : 0 < f.unit := by
  unfold unit
  positivity

theorem top_pos : 0 < f.top := by
  have h : (1 : ℚ) < f.bound := by exact_mod_cast f.one_lt
  unfold top
  linarith

theorem relative_nonneg : 0 ≤ f.relative := (div_pos (by norm_num) top_pos).le

/-! ## Numbers of the format -/

theorem representable_natCast (h : n < f.bound) : f.Representable (n : ℚ) := by
  refine ⟨n, 0, Nat.zero_le _, ?_, by simp⟩
  rw [abs_of_nonneg (Int.natCast_nonneg n)]
  exact_mod_cast h

theorem representable_zero : f.Representable 0 := by
  have h := representable_natCast (f := f) (n := 0) (lt_trans Nat.zero_lt_one f.one_lt)
  rwa [Nat.cast_zero] at h

theorem Representable.neg (h : f.Representable x) : f.Representable (-x) := by
  obtain ⟨m, s, hs, hm, rfl⟩ := h
  refine ⟨-m, s, hs, by rwa [abs_neg], ?_⟩
  push_cast
  ring

theorem Representable.abs (h : f.Representable x) : f.Representable |x| := by
  rcases abs_choice x with hx | hx <;> rw [hx]
  · exact h
  · exact h.neg

theorem Representable.le_top (h : f.Representable x) : x ≤ f.top := by
  obtain ⟨m, s, -, hm, rfl⟩ := h
  have hpow : (1 : ℚ) ≤ 10 ^ s := one_le_pow₀ (by norm_num)
  have hmant : (m : ℚ) ≤ f.top := by
    have hle : m + 1 ≤ f.bound := (lt_of_le_of_lt (le_abs_self m) hm)
    have : (m : ℚ) + 1 ≤ f.bound := by exact_mod_cast hle
    unfold top
    linarith
  rw [div_le_iff₀ (by positivity)]
  nlinarith [top_pos (f := f)]

/-- A multiple of the unit. -/
def OnGrid (f : Format) (x : ℚ) : Prop := ∃ k : ℤ, x = k * f.unit

theorem Representable.onGrid (h : f.Representable x) : f.OnGrid x := by
  obtain ⟨m, s, hs, -, rfl⟩ := h
  refine ⟨m * 10 ^ (f.digits - s), ?_⟩
  have hpow : (10 : ℚ) ^ f.digits = 10 ^ (f.digits - s) * 10 ^ s := by
    rw [← pow_add, Nat.sub_add_cancel hs]
  unfold unit
  rw [hpow]
  push_cast
  field_simp

theorem OnGrid.add (hx : f.OnGrid x) (hy : f.OnGrid y) : f.OnGrid (x + y) := by
  obtain ⟨k, rfl⟩ := hx
  obtain ⟨l, rfl⟩ := hy
  exact ⟨k + l, by push_cast; ring⟩

theorem OnGrid.neg (hx : f.OnGrid x) : f.OnGrid (-x) := by
  obtain ⟨k, rfl⟩ := hx
  exact ⟨-k, by push_cast; ring⟩

theorem OnGrid.sub (hx : f.OnGrid x) (hy : f.OnGrid y) : f.OnGrid (x - y) := by
  rw [sub_eq_add_neg]
  exact hx.add hy.neg

theorem OnGrid.unit_le (hx : f.OnGrid x) (hpos : 0 < x) : f.unit ≤ x := by
  obtain ⟨k, rfl⟩ := hx
  have hk : (0 : ℚ) < k := pos_of_mul_pos_left hpos unit_pos.le
  have hone : (1 : ℚ) ≤ k := by exact_mod_cast (Int.cast_pos.1 hk : (0 : ℤ) < k)
  nlinarith [unit_pos (f := f)]

theorem Representable.unit_le (hx : f.Representable x) (hpos : 0 < x) : f.unit ≤ x :=
  hx.onGrid.unit_le hpos

theorem representable_unit : f.Representable f.unit := by
  refine ⟨1, f.digits, le_rfl, ?_, ?_⟩
  · rw [abs_one]
    exact_mod_cast f.one_lt
  · unfold unit
    push_cast
    rfl

/-! ## The spacing of the format -/

/-- The finest scale at which a value fits, with its spacing. -/
theorem exists_scale (htop : x ≤ f.top) (d : ℕ) :
    ∃ s ≤ d, ⌈x * 10 ^ s⌉ < f.bound ∧ (s = d ∨ 1 / 10 ^ s ≤ f.relative * x) := by
  induction d with
  | zero =>
      refine ⟨0, le_rfl, ?_, .inl rfl⟩
      have hceil : ⌈x * 10 ^ 0⌉ ≤ (f.bound : ℤ) - 1 := by
        rw [Int.ceil_le]
        push_cast
        rw [pow_zero, mul_one]
        exact htop
      exact lt_of_le_of_lt hceil (sub_one_lt _)
  | succ d ih =>
      by_cases hfits : ⌈x * 10 ^ (d + 1)⌉ < f.bound
      · exact ⟨d + 1, le_rfl, hfits, .inl rfl⟩
      · obtain ⟨s, hs, hbound, hspacing⟩ := ih
        refine ⟨s, hs.trans (Nat.le_succ d), hbound, .inr ?_⟩
        rcases hspacing with rfl | hspacing
        · -- the value needs more digits than there are at the next scale
          have hbig : f.top < x * 10 ^ (s + 1) := by
            have hlt : (f.bound : ℤ) - 1 < ⌈x * 10 ^ (s + 1)⌉ :=
              lt_of_lt_of_le (sub_one_lt _) (not_lt.1 hfits)
            have := Int.lt_ceil.1 hlt
            push_cast at this
            exact this
          unfold relative
          rw [div_mul_eq_mul_div, div_le_div_iff₀ (by positivity) top_pos, pow_succ] at *
          nlinarith
        · exact hspacing

/-- The next number up at a scale. -/
theorem exists_ceil (hx : 0 ≤ x) {s : ℕ} (hs : s ≤ f.digits) (hfits : ⌈x * 10 ^ s⌉ < f.bound) :
    ∃ r, f.Representable r ∧ x ≤ r ∧ r ≤ x + 1 / 10 ^ s := by
  have hpow : (0 : ℚ) < 10 ^ s := by positivity
  refine ⟨⌈x * 10 ^ s⌉ / 10 ^ s, ⟨⌈x * 10 ^ s⌉, s, hs, ?_, rfl⟩, ?_, ?_⟩
  · rwa [abs_of_nonneg (Int.ceil_nonneg (by positivity))]
  · rw [le_div_iff₀ hpow]
    exact Int.le_ceil _
  · rw [div_le_iff₀ hpow, add_mul, one_div, inv_mul_cancel₀ hpow.ne']
    exact (Int.ceil_lt_add_one _).le

/-- The next number down at a scale. -/
theorem exists_floor (hx : 0 ≤ x) {s : ℕ} (hs : s ≤ f.digits) (hfits : ⌈x * 10 ^ s⌉ < f.bound) :
    ∃ r, f.Representable r ∧ r ≤ x ∧ x - 1 / 10 ^ s ≤ r := by
  have hpow : (0 : ℚ) < 10 ^ s := by positivity
  refine ⟨⌊x * 10 ^ s⌋ / 10 ^ s, ⟨⌊x * 10 ^ s⌋, s, hs, ?_, rfl⟩, ?_, ?_⟩
  · rw [abs_of_nonneg (Int.floor_nonneg.2 (by positivity))]
    exact lt_of_le_of_lt (Int.floor_le_ceil _) hfits
  · rw [div_le_iff₀ hpow]
    exact Int.floor_le _
  · rw [le_div_iff₀ hpow, sub_mul, one_div, inv_mul_cancel₀ hpow.ne']
    have := Int.lt_floor_add_one (x * 10 ^ s)
    linarith

/-- The spacing at the finest scale is the unit or a share of the value. -/
theorem spacing_le (hx : 0 ≤ x) {s : ℕ} (h : s = f.digits ∨ 1 / 10 ^ s ≤ f.relative * x) :
    (1 : ℚ) / 10 ^ s ≤ f.relative * x + f.unit := by
  have hshare : 0 ≤ f.relative * x := mul_nonneg relative_nonneg hx
  have hunit := unit_pos (f := f)
  rcases h with rfl | h
  · exact le_add_of_nonneg_left hshare
  · linarith

/-- A number of the format above a value, and close to it. -/
theorem exists_above (hx : 0 ≤ x) (htop : x ≤ f.top) :
    ∃ r, f.Representable r ∧ x ≤ r ∧ r ≤ x + f.relative * x + f.unit := by
  obtain ⟨s, hs, hbound, hspacing⟩ := exists_scale htop f.digits
  obtain ⟨r, hr, hxr, hclose⟩ := exists_ceil hx hs hbound
  have hle := spacing_le hx hspacing
  exact ⟨r, hr, hxr, by linarith⟩

/-- A number of the format below a value, and close to it. -/
theorem exists_below (hx : 0 ≤ x) (htop : x ≤ f.top) :
    ∃ r, f.Representable r ∧ r ≤ x ∧ x - f.relative * x - f.unit ≤ r := by
  obtain ⟨s, hs, hbound, hspacing⟩ := exists_scale htop f.digits
  obtain ⟨r, hr, hrx, hclose⟩ := exists_floor hx hs hbound
  have hle := spacing_le hx hspacing
  exact ⟨r, hr, hrx, by linarith⟩

theorem OnGrid.representable (hx : f.OnGrid x) (hnonneg : 0 ≤ x)
    (hfits : ⌈x * 10 ^ f.digits⌉ < f.bound) : f.Representable x := by
  obtain ⟨k, rfl⟩ := hx
  have hpow : (0 : ℚ) < 10 ^ f.digits := by positivity
  have hmant : (k : ℚ) * f.unit * 10 ^ f.digits = k := by
    unfold unit
    field_simp
  rw [hmant, Int.ceil_intCast] at hfits
  have hk : 0 ≤ k := by
    have : (0 : ℚ) ≤ k := nonneg_of_mul_nonneg_left hnonneg unit_pos
    exact_mod_cast this
  refine ⟨k, f.digits, le_rfl, by rwa [abs_of_nonneg hk], ?_⟩
  unfold unit
  ring

/-- On the grid of the unit, only the share is left. -/
theorem OnGrid.exists_above (hgrid : f.OnGrid x) (hx : 0 ≤ x) (htop : x ≤ f.top) :
    ∃ r, f.Representable r ∧ x ≤ r ∧ r ≤ x + f.relative * x := by
  have hshare : 0 ≤ f.relative * x := mul_nonneg relative_nonneg hx
  obtain ⟨s, hs, hbound, rfl | hspacing⟩ := exists_scale htop f.digits
  · exact ⟨x, hgrid.representable hx hbound, le_rfl, by linarith⟩
  · obtain ⟨r, hr, hxr, hclose⟩ := exists_ceil hx hs hbound
    exact ⟨r, hr, hxr, by linarith⟩

theorem OnGrid.exists_below (hgrid : f.OnGrid x) (hx : 0 ≤ x) (htop : x ≤ f.top) :
    ∃ r, f.Representable r ∧ r ≤ x ∧ x - f.relative * x ≤ r := by
  have hshare : 0 ≤ f.relative * x := mul_nonneg relative_nonneg hx
  obtain ⟨s, hs, hbound, rfl | hspacing⟩ := exists_scale htop f.digits
  · exact ⟨x, hgrid.representable hx hbound, le_rfl, by linarith⟩
  · obtain ⟨r, hr, hrx, hclose⟩ := exists_floor hx hs hbound
    exact ⟨r, hr, hrx, by linarith⟩

/-! ## Rounding -/

theorem Rounds.eq (h : f.Rounds x c) (hx : f.Representable x) : c = x :=
  le_antisymm (h.le x hx le_rfl) (h.ge x hx le_rfl)

theorem Rounds.neg (h : f.Rounds x c) : f.Rounds (-x) (-c) where
  representable := h.representable.neg
  le r hr hxr := by
    have := h.ge (-r) hr.neg (by linarith)
    linarith
  ge r hr hrx := by
    have := h.le (-r) hr.neg (by linarith)
    linarith

theorem Rounds.nonneg (h : f.Rounds x c) (hx : 0 ≤ x) : 0 ≤ c := h.ge 0 representable_zero hx

theorem Rounds.nonpos (h : f.Rounds x c) (hx : x ≤ 0) : c ≤ 0 := h.le 0 representable_zero hx

theorem Rounds.magnitude_le (h : f.Rounds x c) (hr : f.Representable r) (hx : |x| ≤ r) :
    |c| ≤ r := by
  rw [abs_le] at hx ⊢
  exact ⟨h.ge _ hr.neg hx.1, h.le r hr hx.2⟩

theorem Rounds.le_nat (h : f.Rounds x c) (hn : n < f.bound) (hx : x ≤ n) : c ≤ n :=
  h.le n (representable_natCast hn) hx

theorem Rounds.unit_le (h : f.Rounds x c) (hx : f.unit ≤ x) : f.unit ≤ c :=
  h.ge _ representable_unit hx

theorem Rounds.le_error (h : f.Rounds x c) (hx : 0 ≤ x) (htop : x ≤ f.top) :
    c ≤ x + f.relative * x + f.unit := by
  obtain ⟨r, hr, hxr, hclose⟩ := exists_above hx htop
  exact (h.le r hr hxr).trans hclose

theorem Rounds.error_le (h : f.Rounds x c) (hx : 0 ≤ x) (htop : x ≤ f.top) :
    x - f.relative * x - f.unit ≤ c := by
  obtain ⟨r, hr, hrx, hclose⟩ := Format.exists_below hx htop
  exact hclose.trans (h.ge r hr hrx)

theorem Rounds.le_error_of_onGrid (h : f.Rounds x c) (hgrid : f.OnGrid x) (hx : 0 ≤ x)
    (htop : x ≤ f.top) : c ≤ x + f.relative * x := by
  obtain ⟨r, hr, hxr, hclose⟩ := hgrid.exists_above hx htop
  exact (h.le r hr hxr).trans hclose

theorem Rounds.error_le_of_onGrid (h : f.Rounds x c) (hgrid : f.OnGrid x) (hx : 0 ≤ x)
    (htop : x ≤ f.top) : x - f.relative * x ≤ c := by
  obtain ⟨r, hr, hrx, hclose⟩ := hgrid.exists_below hx htop
  exact hclose.trans (h.ge r hr hrx)

/-- What an operation with this exact result returns: a rounded number, or nothing where no number
of the format is close. -/
structure Evaluates (f : Format) (x : ℚ) (result : Option ℚ) : Prop where
  fits : |x| ≤ f.top → ∃ c, result = some c ∧ f.Rounds x c
  overflows : f.bound ≤ |x| → result = none

/-! ## Rounding to the nearest -/

/-- The nearest integer, the even one of two. -/
def nearestEven (y : ℚ) : ℤ :=
  if y - ⌊y⌋ < 1 / 2 then ⌊y⌋
  else if 1 / 2 < y - ⌊y⌋ then ⌊y⌋ + 1
  else if ⌊y⌋ % 2 = 0 then ⌊y⌋ else ⌊y⌋ + 1

theorem nearestEven_le {y : ℚ} {k : ℤ} (h : y < k + 1 / 2) : nearestEven y ≤ k := by
  have hfloor : ⌊y⌋ ≤ k := by
    rw [← Int.lt_add_one_iff, Int.floor_lt]
    push_cast
    linarith
  unfold nearestEven
  split
  · exact hfloor
  · rename_i hhalf
    -- a fraction of one half or more leaves room for the next integer
    have hnext : ⌊y⌋ + 1 ≤ k := by
      rw [Int.add_one_le_iff, ← Int.cast_lt (R := ℚ)]
      linarith [not_lt.1 hhalf]
    split_ifs <;> omega

theorem le_nearestEven {y : ℚ} {k : ℤ} (h : k - 1 / 2 < y) : k ≤ nearestEven y := by
  have hnext : k ≤ ⌊y⌋ + 1 := by
    rw [← sub_le_iff_le_add, Int.le_floor]
    push_cast
    linarith
  unfold nearestEven
  split
  · rename_i hhalf
    rw [← Int.lt_add_one_iff, ← Int.cast_lt (R := ℚ)]
    push_cast
    linarith
  · split
    · exact hnext
    · rename_i hnotless hnotmore
      have hfloor : k ≤ ⌊y⌋ := by
        rw [← Int.lt_add_one_iff, ← Int.cast_lt (R := ℚ)]
        push_cast
        linarith [not_lt.1 hnotmore]
      split_ifs
      · exact hfloor
      · exact hnext

/-- The nearest number at the finest scale that fits, from `d` digits down. -/
def roundFrom (f : Format) : ℕ → ℚ → Option ℚ
  | 0, x => if |nearestEven x| < f.bound then some (nearestEven x) else none
  | d + 1, x =>
      if |nearestEven (x * 10 ^ (d + 1))| < f.bound
      then some (nearestEven (x * 10 ^ (d + 1)) / 10 ^ (d + 1))
      else roundFrom f d x

/-- The nearest number of the format; `none` beyond its range. -/
def round (f : Format) (x : ℚ) : Option ℚ := f.roundFrom f.digits x

theorem roundFrom_of_le_top (h : |x| ≤ f.top) (d : ℕ) : ∃ c, f.roundFrom d x = some c := by
  induction d with
  | zero =>
      have hx := abs_le.1 h
      unfold top at hx
      have hle : nearestEven x ≤ (f.bound : ℤ) - 1 := nearestEven_le (by push_cast; linarith)
      have hge : -((f.bound : ℤ) - 1) ≤ nearestEven x := le_nearestEven (by push_cast; linarith)
      have hfits : |nearestEven x| < f.bound := by
        rw [abs_lt]
        omega
      exact ⟨_, if_pos hfits⟩
  | succ d ih =>
      unfold roundFrom
      split
      · exact ⟨_, rfl⟩
      · exact ih

theorem bound_le_nearestEven (h : f.bound ≤ |x|) (s : ℕ) :
    (f.bound : ℤ) ≤ |nearestEven (x * 10 ^ s)| := by
  have hpow : (1 : ℚ) ≤ 10 ^ s := one_le_pow₀ (by norm_num)
  have hbound : (0 : ℚ) ≤ f.bound := Nat.cast_nonneg _
  rcases le_abs.1 h with hx | hx
  · exact le_abs.2 (.inl (le_nearestEven (by push_cast; nlinarith)))
  · have := nearestEven_le (y := x * 10 ^ s) (k := -f.bound) (by push_cast; nlinarith)
    exact le_abs.2 (.inr (by omega))

theorem roundFrom_of_bound_le (h : f.bound ≤ |x|) (d : ℕ) : f.roundFrom d x = none := by
  induction d with
  | zero =>
      have hbig := bound_le_nearestEven h 0
      rw [pow_zero, mul_one] at hbig
      exact if_neg (not_lt.2 hbig)
  | succ d ih =>
      unfold roundFrom
      rw [if_neg (not_lt.2 (bound_le_nearestEven h (d + 1)))]
      exact ih

/-- The scale a value was rounded at: the one above it is too fine. -/
theorem roundFrom_eq_some (d : ℕ) (h : f.roundFrom d x = some c) :
    ∃ s ≤ d, |nearestEven (x * 10 ^ s)| < f.bound ∧ c = nearestEven (x * 10 ^ s) / 10 ^ s ∧
      (s < d → (f.bound : ℤ) ≤ |nearestEven (x * 10 ^ (s + 1))|) := by
  induction d with
  | zero =>
      unfold roundFrom at h
      split at h
      · rename_i hfits
        cases h
        refine ⟨0, le_rfl, by simpa using hfits, by simp, fun h => absurd h (lt_irrefl 0)⟩
      · cases h
  | succ d ih =>
      unfold roundFrom at h
      split at h
      · rename_i hfits
        cases h
        exact ⟨d + 1, le_rfl, hfits, rfl, fun h => absurd h (lt_irrefl _)⟩
      · rename_i hfull
        obtain ⟨s, hs, hfits, hc, hfiner⟩ := ih h
        refine ⟨s, hs.trans (Nat.le_succ d), hfits, hc, fun _ => ?_⟩
        rcases hs.eq_or_lt with rfl | hlt
        · exact not_lt.1 hfull
        · exact hfiner hlt

/-- A nearest integer, ties either way. -/
structure Nearest (y : ℚ) (m : ℤ) : Prop where
  le : ∀ k : ℤ, y < k + 1 / 2 → m ≤ k
  ge : ∀ k : ℤ, k - 1 / 2 < y → k ≤ m

theorem nearest_nearestEven (y : ℚ) : Nearest y (nearestEven y) :=
  ⟨fun _ => nearestEven_le, fun _ => le_nearestEven⟩

theorem Nearest.neg {y : ℚ} {m : ℤ} (h : Nearest y m) : Nearest (-y) (-m) where
  le k hk := by
    have := h.ge (-k) (by push_cast; linarith)
    omega
  ge k hk := by
    have := h.le (-k) (by push_cast; linarith)
    omega

theorem abs_mantissa_le {m : ℤ} {s t : ℕ} (hm : |m| < f.bound) (hst : s ≤ t) :
    |(m : ℚ) / 10 ^ t| ≤ f.top / 10 ^ s := by
  have hle : |(m : ℚ)| ≤ f.top := by
    have : |m| + 1 ≤ (f.bound : ℤ) := hm
    have : (|m| : ℚ) + 1 ≤ f.bound := by exact_mod_cast this
    unfold top
    linarith
  have hpow : (10 : ℚ) ^ s ≤ 10 ^ t := pow_le_pow_right₀ (by norm_num) hst
  rw [abs_div, abs_of_pos (by positivity : (0 : ℚ) < 10 ^ t)]
  exact div_le_div₀ top_pos.le hle (by positivity) hpow

/-- No number of the format lies between a value and the nearest number at the finest scale that
fits.  One scale finer the value is past the last mantissa, and as that ends in a 5, rounding one
digit earlier goes away from zero. -/
theorem le_of_nearest (hbound : f.bound % 10 = 6) {s : ℕ} {m : ℤ} (hm : Nearest (x * 10 ^ s) m)
    (hfiner : s < f.digits → ∃ n : ℤ, Nearest (x * 10 ^ (s + 1)) n ∧ (f.bound : ℤ) ≤ |n|)
    (hr : f.Representable r) (hxr : x ≤ r) : (m : ℚ) / 10 ^ s ≤ r := by
  obtain ⟨k, t, ht, hk, rfl⟩ := hr
  have hpow : (0 : ℚ) < 10 ^ s := by positivity
  rcases le_or_gt t s with hts | hst
  · -- a number of this scale
    have hsplit : (10 : ℚ) ^ s = 10 ^ (s - t) * 10 ^ t := by
      rw [← pow_add, Nat.sub_add_cancel hts]
    have hscaled : (k : ℚ) / 10 ^ t * 10 ^ s = ((k * 10 ^ (s - t) : ℤ) : ℚ) := by
      rw [hsplit]
      push_cast
      field_simp
    have hle : x * 10 ^ s ≤ ((k * 10 ^ (s - t) : ℤ) : ℚ) := by
      rw [← hscaled]
      exact mul_le_mul_of_nonneg_right hxr hpow.le
    have hmk := hm.le (k * 10 ^ (s - t)) (by linarith)
    rw [div_le_iff₀ hpow, hscaled]
    exact_mod_cast hmk
  · -- a number of a finer scale, where the value did not fit
    obtain ⟨n, hn, hlarge⟩ := hfiner (hst.trans_le ht)
    have hbounds := abs_le.1 (abs_mantissa_le (s := s + 1) hk hst)
    have hfine : (0 : ℚ) < 10 ^ (s + 1) := by positivity
    rcases le_abs.1 hlarge with hlarge | hlarge
    · have hx : (f.bound : ℚ) - 1 / 2 ≤ x * 10 ^ (s + 1) := by
        by_contra hlt
        have := hn.le (f.bound - 1) (by push_cast; linarith [not_le.1 hlt])
        omega
      have htop : f.top / 10 ^ (s + 1) < x := by
        rw [div_lt_iff₀ hfine]
        unfold top
        linarith
      linarith [hbounds.2]
    · have hx : x * 10 ^ (s + 1) ≤ -(f.bound : ℚ) + 1 / 2 := by
        by_contra hlt
        have := hn.ge (-f.bound + 1) (by push_cast; linarith [not_le.1 hlt])
        omega
      obtain ⟨q, hq⟩ : ∃ q : ℕ, f.bound = 10 * q + 6 := ⟨f.bound / 10, by omega⟩
      have hqcast : (f.bound : ℚ) = 10 * q + 6 := by exact_mod_cast hq
      have hmq := hm.le (-(q + 1)) (by
        rw [pow_succ] at hx
        push_cast
        linarith)
      have hmcast : (m : ℚ) ≤ -(q + 1) := by exact_mod_cast hmq
      have hle : (m : ℚ) / 10 ^ s ≤ -(f.top / 10 ^ (s + 1)) := by
        unfold top
        rw [← neg_div, div_le_div_iff₀ hpow hfine, pow_succ]
        nlinarith
      linarith [hbounds.1]

/-- A rounded value has no number of the format strictly between it and the exact one. -/
theorem rounds_of_round (hbound : f.bound % 10 = 6) (h : f.round x = some c) : f.Rounds x c := by
  obtain ⟨s, hs, hfits, rfl, hfiner⟩ := roundFrom_eq_some f.digits h
  have hnearest := nearest_nearestEven (x * 10 ^ s)
  have hnext : s < f.digits → ∃ n : ℤ, Nearest (x * 10 ^ (s + 1)) n ∧ (f.bound : ℤ) ≤ |n| :=
    fun hlt => ⟨_, nearest_nearestEven _, hfiner hlt⟩
  refine ⟨⟨_, s, hs, hfits, rfl⟩, fun r hr hxr => le_of_nearest hbound hnearest hnext hr hxr,
    fun r hr hrx => ?_⟩
  have hmirror := le_of_nearest (x := -x) (r := -r) hbound (by rw [neg_mul]; exact hnearest.neg)
    (fun hlt => by
      obtain ⟨n, hn, hlarge⟩ := hnext hlt
      exact ⟨-n, by rw [neg_mul]; exact hn.neg, by rwa [abs_neg]⟩) hr.neg (by linarith)
  push_cast at hmirror
  rw [neg_div] at hmirror
  linarith

/-- **The rounding** to the nearest number at the finest scale that fits. -/
theorem evaluates_round (hbound : f.bound % 10 = 6) (x : ℚ) : f.Evaluates x (f.round x) where
  overflows h := roundFrom_of_bound_le h f.digits
  fits h := by
    obtain ⟨c, hc⟩ := roundFrom_of_le_top h f.digits
    exact ⟨c, hc, rounds_of_round hbound hc⟩

/-! ## Rounding onto an integer -/

theorem nearestEven_eq_iff {y : ℚ} {k : ℤ} :
    nearestEven y = k ↔ |y - k| < 1 / 2 ∨ |y - k| = 1 / 2 ∧ k % 2 = 0 := by
  constructor
  · intro h
    have hlo : ((k : ℤ) : ℚ) - 1 / 2 ≤ y := by
      by_contra hlt
      have := nearestEven_le (y := y) (k := k - 1) (by push_cast; linarith [not_le.1 hlt])
      omega
    have hhi : y ≤ (k : ℚ) + 1 / 2 := by
      by_contra hlt
      have := le_nearestEven (y := y) (k := k + 1) (by push_cast; linarith [not_le.1 hlt])
      omega
    rcases (abs_le.2 ⟨by linarith, by linarith⟩ : |y - k| ≤ 1 / 2).lt_or_eq with hlt | heq
    · exact .inl hlt
    · refine .inr ⟨heq, ?_⟩
      rcases abs_eq (by norm_num : (0 : ℚ) ≤ 1 / 2) |>.1 heq with htie | htie
      · have hfloor : ⌊y⌋ = k := by
          rw [Int.floor_eq_iff]
          constructor <;> linarith
        unfold nearestEven at h
        rw [hfloor, if_neg (by linarith), if_neg (by linarith)] at h
        split at h
        · assumption
        · omega
      · have hfloor : ⌊y⌋ = k - 1 := by
          rw [Int.floor_eq_iff]
          push_cast
          constructor <;> linarith
        unfold nearestEven at h
        rw [hfloor, if_neg (by push_cast; linarith), if_neg (by push_cast; linarith)] at h
        split at h
        · omega
        · omega
  · rintro (hlt | ⟨heq, heven⟩)
    · obtain ⟨hlo, hhi⟩ := abs_lt.1 hlt
      exact le_antisymm (nearestEven_le (by linarith)) (le_nearestEven (by linarith))
    · rcases abs_eq (by norm_num : (0 : ℚ) ≤ 1 / 2) |>.1 heq with htie | htie
      · have hfloor : ⌊y⌋ = k := by
          rw [Int.floor_eq_iff]
          constructor <;> linarith
        unfold nearestEven
        rw [hfloor, if_neg (by linarith), if_neg (by linarith), if_pos heven]
      · have hfloor : ⌊y⌋ = k - 1 := by
          rw [Int.floor_eq_iff]
          push_cast
          constructor <;> linarith
        unfold nearestEven
        rw [hfloor, if_neg (by push_cast; linarith), if_neg (by push_cast; linarith),
          if_neg (by omega)]
        omega

/-- The digits a non-negative value is rounded at: the finest scale at which it fits. -/
def scaleOf (f : Format) (x : ℚ) : ℕ :=
  Nat.findGreatest (fun d => x * 10 ^ d < f.bound - 1 / 2) f.digits

/-- The value does not round to the integer: it is more than half a unit of its last place away,
or just half of one where the integer's mantissa is odd. -/
def Apart (f : Format) (x : ℚ) (k : ℤ) : Prop :=
  1 / 2 < |x - k| * 10 ^ f.scaleOf x ∨
    |x - k| * 10 ^ f.scaleOf x = 1 / 2 ∧ k * 10 ^ f.scaleOf x % 2 ≠ 0

theorem abs_nearestEven_lt (heven : f.bound % 2 = 0) {y : ℚ} (hy : 0 ≤ y) :
    |nearestEven y| < (f.bound : ℤ) ↔ y < f.bound - 1 / 2 := by
  have hnonneg : 0 ≤ nearestEven y := le_nearestEven (by push_cast; linarith)
  rw [abs_of_nonneg hnonneg]
  constructor
  · intro h
    by_contra hle
    rcases (not_lt.1 hle).lt_or_eq with hlt | heq
    · have := le_nearestEven (y := y) (k := f.bound) (by push_cast; linarith)
      omega
    · have htie : nearestEven y = f.bound := nearestEven_eq_iff.2 (.inr ⟨by
        rw [← heq]; push_cast; rw [abs_of_nonpos (by linarith)]; ring, by omega⟩)
      omega
  · intro h
    have := nearestEven_le (y := y) (k := f.bound - 1) (by push_cast; linarith)
    omega

theorem roundFrom_eq (heven : f.bound % 2 = 0) (hx : 0 ≤ x) (d : ℕ) (h : f.roundFrom d x = some q) :
    q = nearestEven (x * 10 ^ Nat.findGreatest (fun d => x * 10 ^ d < f.bound - 1 / 2) d) /
      10 ^ Nat.findGreatest (fun d => x * 10 ^ d < f.bound - 1 / 2) d := by
  induction d with
  | zero =>
      unfold roundFrom at h
      split at h
      · cases h
        simp
      · cases h
  | succ d ih =>
      have hfits := abs_nearestEven_lt heven (by positivity : 0 ≤ x * 10 ^ (d + 1))
      unfold roundFrom at h
      split at h
      · rename_i hlt
        cases h
        rw [Nat.findGreatest_eq (hfits.1 hlt)]
      · rename_i hge
        rw [Nat.findGreatest_of_not (fun hlt => hge (hfits.2 hlt))]
        exact ih h

/-- **The rounded value is an integer exactly where the value is not apart from it.** -/
theorem round_eq_intCast_iff (heven : f.bound % 2 = 0) (hx : 0 ≤ x) (h : f.round x = some q)
    (k : ℤ) : q = k ↔ ¬ f.Apart x k := by
  have hq : q = nearestEven (x * 10 ^ f.scaleOf x) / 10 ^ f.scaleOf x := roundFrom_eq heven hx _ h
  have hpow : (0 : ℚ) < 10 ^ f.scaleOf x := by positivity
  have habs : |x * 10 ^ f.scaleOf x - ((k * 10 ^ f.scaleOf x : ℤ) : ℚ)| =
      |x - k| * 10 ^ f.scaleOf x := by
    push_cast
    rw [← sub_mul, abs_mul, abs_of_pos hpow]
  have hiff : q = k ↔ nearestEven (x * 10 ^ f.scaleOf x) = k * 10 ^ f.scaleOf x := by
    rw [hq, div_eq_iff hpow.ne']
    exact_mod_cast Iff.rfl
  rw [hiff, nearestEven_eq_iff, habs, Apart]
  constructor
  · rintro (hlt | ⟨heq, hmod⟩) (hgt | ⟨htie, hodd⟩)
    · linarith
    · linarith
    · linarith
    · exact hodd hmod
  · intro h
    rcases lt_trichotomy (|x - k| * 10 ^ f.scaleOf x) (1 / 2) with hlt | heq | hgt
    · exact .inl hlt
    · exact .inr ⟨heq, by by_contra hodd; exact h (.inr ⟨heq, hodd⟩)⟩
    · exact absurd (.inl hgt) h

/-- The whole part of a non-negative number is one of the format. -/
theorem Representable.floor (h : f.Representable x) (hx : 0 ≤ x) : f.Representable (⌊x⌋ : ℤ) := by
  obtain ⟨m, s, -, hm, rfl⟩ := h
  have hfloor : 0 ≤ ⌊(m : ℚ) / 10 ^ s⌋ := Int.floor_nonneg.2 hx
  have hle : ⌊(m : ℚ) / 10 ^ s⌋ ≤ |m| := by
    have hdiv : (m : ℚ) / 10 ^ s ≤ |(m : ℚ)| := by
      rw [div_le_iff₀ (by positivity)]
      have hpow : (1 : ℚ) ≤ 10 ^ s := one_le_pow₀ (by norm_num)
      nlinarith [le_abs_self (m : ℚ), abs_nonneg (m : ℚ)]
    have hcast : ((⌊(m : ℚ) / 10 ^ s⌋ : ℤ) : ℚ) ≤ ((|m| : ℤ) : ℚ) := by
      push_cast
      exact (Int.floor_le _).trans hdiv
    exact_mod_cast hcast
  exact ⟨_, 0, Nat.zero_le _, by rw [abs_of_nonneg hfloor]; omega, by simp⟩

theorem Representable.ceil (h : f.Representable x) (hx : 0 ≤ x) : f.Representable (⌈x⌉ : ℤ) := by
  obtain ⟨m, s, -, hm, rfl⟩ := h
  have hceil : 0 ≤ ⌈(m : ℚ) / 10 ^ s⌉ := Int.ceil_nonneg hx
  have hle : ⌈(m : ℚ) / 10 ^ s⌉ ≤ |m| := by
    rw [Int.ceil_le, div_le_iff₀ (by positivity)]
    have hpow : (1 : ℚ) ≤ 10 ^ s := one_le_pow₀ (by norm_num)
    push_cast
    nlinarith [le_abs_self (m : ℚ), abs_nonneg (m : ℚ)]
  exact ⟨_, 0, Nat.zero_le _, by rw [abs_of_nonneg hceil]; omega, by simp⟩

/-- The integers around a value bound what it is rounded to. -/
theorem floor_le_round (hbound : f.bound % 10 = 6) (hx : 0 ≤ x) (h : f.round x = some c) :
    (⌊x⌋ : ℚ) ≤ c ∧ c ≤ ⌊x⌋ + 1 := by
  have hrounds := rounds_of_round hbound h
  have hfloor : 0 ≤ ⌊x⌋ := Int.floor_nonneg.2 hx
  have hlt : x < f.bound := by
    by_contra hle
    rw [round, roundFrom_of_bound_le ((not_lt.1 hle).trans (le_abs_self x))] at h
    cases h
  have hfits : ⌊x⌋ < f.bound := by
    rw [Int.floor_lt]
    exact_mod_cast hlt
  obtain ⟨n, hn⟩ := Int.eq_ofNat_of_zero_le hfloor
  rw [hn] at hfits ⊢
  constructor
  · refine hrounds.ge _ (representable_natCast (by exact_mod_cast hfits)) ?_
    exact_mod_cast hn ▸ Int.floor_le x
  · rcases (Nat.succ_le_of_lt (by exact_mod_cast hfits) : n + 1 ≤ f.bound).lt_or_eq
      with hsucc | hsucc
    · have hle := hrounds.le _ (representable_natCast hsucc) (by
        push_cast
        exact_mod_cast (hn ▸ Int.lt_floor_add_one x).le)
      exact_mod_cast hle
    · have htop := hrounds.representable.le_top
      unfold top at htop
      have hcast : ((n : ℚ) + 1) = f.bound := by exact_mod_cast hsucc
      push_cast
      linarith

theorem ceil_sub_one_le_round (hbound : f.bound % 10 = 6) (hx : 0 ≤ x) (h : f.round x = some c) :
    (⌈x⌉ : ℚ) - 1 ≤ c ∧ c ≤ ⌈x⌉ := by
  obtain ⟨hge, hle⟩ := floor_le_round hbound hx h
  rcases (Int.floor_le x).lt_or_eq with hlt | heq
  · have hceil : ⌈x⌉ = ⌊x⌋ + 1 := by
      rw [Int.ceil_eq_iff]
      push_cast
      constructor <;> linarith [Int.lt_floor_add_one x]
    rw [hceil]
    push_cast
    constructor <;> linarith
  · -- an integer is rounded to itself
    obtain ⟨n, hn⟩ := Int.eq_ofNat_of_zero_le (Int.floor_nonneg.2 hx)
    have hbelow : x < f.bound := by
      by_contra hle
      rw [round, roundFrom_of_bound_le ((not_lt.1 hle).trans (le_abs_self x))] at h
      cases h
    have hxn : x = (n : ℚ) := by
      rw [← heq, hn]
      simp
    have hfits : n < f.bound := by
      rw [hxn] at hbelow
      exact_mod_cast hbelow
    have hc : c = x := (rounds_of_round hbound h).eq (hxn ▸ representable_natCast hfits)
    rw [hc, hxn, Int.ceil_natCast]
    constructor <;> push_cast <;> linarith

/-- **The whole part survives the rounding** where the value is apart from the next integer. -/
theorem floor_round_eq_iff (hbound : f.bound % 10 = 6) (hx : 0 ≤ x) (h : f.round x = some c) :
    ⌊c⌋ = ⌊x⌋ ↔ f.Apart x (⌊x⌋ + 1) := by
  obtain ⟨hge, hle⟩ := floor_le_round hbound hx h
  have hnext := round_eq_intCast_iff (by omega) hx h (⌊x⌋ + 1)
  push_cast at hnext
  rw [← not_iff_not, ← hnext]
  constructor
  · intro hne
    by_contra hnot
    exact hne (Int.floor_eq_iff.2 ⟨hge, lt_of_le_of_ne hle hnot⟩)
  · rintro hc heq
    have hlt := Int.lt_floor_add_one c
    rw [heq] at hlt
    linarith

theorem ceil_round_eq_iff (hbound : f.bound % 10 = 6) (hx : 0 ≤ x) (h : f.round x = some c) :
    ⌈c⌉ = ⌈x⌉ ↔ f.Apart x (⌈x⌉ - 1) := by
  obtain ⟨hge, hle⟩ := ceil_sub_one_le_round hbound hx h
  have hprevious := round_eq_intCast_iff (by omega) hx h (⌈x⌉ - 1)
  push_cast at hprevious
  rw [← not_iff_not, ← hprevious]
  constructor
  · intro hne
    by_contra hnot
    exact hne (Int.ceil_eq_iff.2 ⟨lt_of_le_of_ne hge (Ne.symm hnot), hle⟩)
  · rintro hc heq
    have hlt := Int.ceil_lt_add_one c
    rw [heq] at hlt
    linarith

end Format

end ScaledDecimal
