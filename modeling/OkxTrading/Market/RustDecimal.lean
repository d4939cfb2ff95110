import OkxTrading.Market.Features
import OkxTrading.Numerics.ScaledDecimal

/-!
# The operators of `rust_decimal`

A `Decimal` has a 96-bit mantissa and at most 28 fractional digits.  An operator rounds its exact
result to the format, and panics where that is out of range.

* `DecimalOps.Rounded` — what the features rely on.
* `DecimalOps.rustDecimal`, `rounded_rustDecimal` — rounding to the nearest, ties to even.
-/

namespace OkxTrading

open ScaledDecimal

/-- The format of `rust_decimal::Decimal`. -/
def decimalFormat : Format where
  bound := 2 ^ 96
  digits := 28
  one_lt := by norm_num

/-- A value a `Decimal` can have. -/
def IsDecimal (x : Decimal) : Prop := decimalFormat.Representable x

theorem decimalFormat_top : decimalFormat.top = 2 ^ 96 - 1 := by
  norm_num [Format.top, decimalFormat]

theorem decimalFormat_unit : decimalFormat.unit = 1 / 10 ^ 28 := rfl

theorem relative_le : decimalFormat.relative ≤ 2 / 10 ^ 28 := by
  norm_num [Format.relative, decimalFormat_top]

theorem isDecimal_natCast {n : ℕ} (h : n < 2 ^ 96) : IsDecimal (n : ℚ) :=
  Format.representable_natCast h

/-- The operators panic out of range and round to the format within it. -/
structure DecimalOps.Rounded (ops : DecimalOps) : Prop where
  add : ∀ a b, IsDecimal a → IsDecimal b → decimalFormat.Evaluates (a + b) (ops.add a b)
  sub : ∀ a b, IsDecimal a → IsDecimal b → decimalFormat.Evaluates (a - b) (ops.sub a b)
  mul : ∀ a b, IsDecimal a → IsDecimal b → decimalFormat.Evaluates (a * b) (ops.mul a b)
  div : ∀ a b, IsDecimal a → IsDecimal b → b ≠ 0 → decimalFormat.Evaluates (a / b) (ops.div a b)
  divZero : ∀ a, ops.div a 0 = none

/-- Rounding to the nearest decimal, of two the one with the even mantissa. -/
def DecimalOps.rustDecimal : DecimalOps where
  add a b := decimalFormat.round (a + b)
  sub a b := decimalFormat.round (a - b)
  mul a b := decimalFormat.round (a * b)
  div a b := if b = 0 then none else decimalFormat.round (a / b)

theorem DecimalOps.rounded_rustDecimal : DecimalOps.rustDecimal.Rounded where
  add a b _ _ := Format.evaluates_round (by norm_num [decimalFormat]) _
  sub a b _ _ := Format.evaluates_round (by norm_num [decimalFormat]) _
  mul a b _ _ := Format.evaluates_round (by norm_num [decimalFormat]) _
  div a b _ _ hb := by
    show decimalFormat.Evaluates _ (if b = 0 then none else _)
    rw [if_neg hb]
    exact Format.evaluates_round (by norm_num [decimalFormat]) _
  divZero a := by simp [rustDecimal]

end OkxTrading
