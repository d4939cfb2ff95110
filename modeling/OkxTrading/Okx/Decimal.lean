import Mathlib.Algebra.Order.Floor.Ring
import Mathlib.Data.Rat.Floor
import Mathlib.Tactic.Linarith
import Mathlib.Tactic.Positivity
import Mathlib.Tactic.FieldSimp
import OkxTrading.Effect.Program

/-!
# Decimals, text fields and quantization

`Decimal` is exact: the rational number a `rust_decimal` value denotes.  The 96-bit mantissa and
the rounding of results are not part of it; where a result depends on them, the operators are the
parameter `DecimalOps`.

A numeric field of an exchange payload arrives as text.  The code only ever asks whether the text
is empty or blank and which decimal it parses to, so `DecimalText` keeps exactly these.

* `parseDecimal`, `parsePositiveDecimal`, … — the field readers of `okx/types.rs`.
* `quantizeDecimalDown`, `quantizeDecimalUp` — rounding to a step, with their exact bounds.
-/

namespace OkxTrading

open Effect

/-- An exact decimal value. -/
abbrev Decimal := ℚ

/-- Identifiers and other texts the code compares and takes apart. -/
abbrev Text := List Char

/-- One proof for every test of texts. -/
instance : LawfulBEq Text := inferInstance

/-- `char::is_whitespace`: the characters that `str::trim` removes. -/
def isWhitespace (c : Char) : Bool :=
  let n := c.toNat
  decide (0x9 ≤ n ∧ n ≤ 0xd) || decide (0x2000 ≤ n ∧ n ≤ 0x200a) ||
    n ∈ [0x20, 0x85, 0xa0, 0x1680, 0x2028, 0x2029, 0x202f, 0x205f, 0x3000]

theorem toNat_of_isAlphanum {ch : Char} (h : ch.isAlphanum = true) :
    (48 ≤ ch.toNat ∧ ch.toNat ≤ 57) ∨ (65 ≤ ch.toNat ∧ ch.toNat ≤ 90) ∨
      (97 ≤ ch.toNat ∧ ch.toNat ≤ 122) := by
  delta Char.isAlphanum Char.isAlpha Char.isUpper Char.isLower Char.isDigit at h
  simp only [Bool.or_eq_true, Bool.and_eq_true, decide_eq_true_eq, ge_iff_le,
    UInt32.le_iff_toNat_le] at h
  rcases h with (h | h) | h
  · exact .inr (.inl h)
  · exact .inr (.inr h)
  · exact .inl h

theorem isWhitespace_of_isAlphanum {ch : Char} (h : ch.isAlphanum = true) :
    isWhitespace ch = false := by
  have hcode := toNat_of_isAlphanum h
  unfold isWhitespace
  generalize ch.toNat = n at hcode
  rw [Bool.eq_false_iff]
  intro hspace
  simp only [Bool.or_eq_true, decide_eq_true_eq, List.mem_cons, List.not_mem_nil, or_false]
    at hspace
  omega

/-- `text.trim().is_empty()`. -/
def Text.isBlank (text : Text) : Bool := text.all isWhitespace

/-- The message of a failed check; the values the source formats into it are left out. -/
abbrev Message := String

/-- `anyhow::Result`. -/
abbrev Result (α : Type) := Except Message α

/-- `ensure!`. -/
def ensure (p : Prop) [Decidable p] (message : Message) : Result Unit :=
  if p then .ok () else .error message

@[simp] theorem ensure_eq_ok {p : Prop} [Decidable p] {message : Message} {u : Unit} :
    ensure p message = .ok u ↔ p := by
  unfold ensure
  split <;> simp_all

/-- A numeric text field: empty, only blanks, not a decimal, or the decimal it parses to. -/
inductive DecimalText where
  | empty
  | blank
  | malformed
  | value (d : Decimal)
  deriving DecidableEq, Repr

namespace DecimalText

/-- `text.trim().is_empty()`. -/
def isBlank : DecimalText → Bool
  | .empty | .blank => true
  | _ => false

end DecimalText

/-! ## Field readers -/

/-- A field that has to be a decimal. -/
def parseDecimal (context : Message) : DecimalText → Result Decimal
  | .value d => .ok d
  | _ => .error (context ++ " must be a decimal")

/-- A field that has to be a decimal above zero. -/
def parsePositiveDecimal (context : Message) (text : DecimalText) : Result Decimal := do
  let parsed ← parseDecimal context text
  ensure (0 < parsed) (context ++ " must be positive")
  return parsed

/-- A field that has to be a decimal, zero allowed. -/
def parseNonNegativeDecimal (context : Message) (text : DecimalText) : Result Decimal := do
  let parsed ← parseDecimal context text
  ensure (0 ≤ parsed) (context ++ " must be non-negative")
  return parsed

/-- A field that may be blank and else has to be a decimal above zero. -/
def parseOptionalPositiveDecimal (context : Message) (text : DecimalText) :
    Result (Option Decimal) := do
  if text.isBlank then return none
  return some (← parsePositiveDecimal context text)

/-- `parse_timestamp_ms`; the field is the integer its text parses to, if any. -/
def parseTimestampMs (context : Message) (text : Option Int) : Result Int := do
  let some timestamp := text | .error (context ++ " must be an integer timestamp")
  ensure (0 < timestamp) (context ++ " must be positive")
  return timestamp

theorem parseDecimal_eq_ok {context : Message} {text : DecimalText} {d : Decimal} :
    parseDecimal context text = .ok d ↔ text = .value d := by
  cases text <;> simp [parseDecimal]

theorem parsePositiveDecimal_eq_ok {context : Message} {text : DecimalText} {d : Decimal} :
    parsePositiveDecimal context text = .ok d ↔ text = .value d ∧ 0 < d := by
  simp only [parsePositiveDecimal, bind_eq_ok, parseDecimal_eq_ok, ensure_eq_ok, pure_eq_ok]
  constructor
  · rintro ⟨v, rfl, _, hv, rfl⟩; exact ⟨rfl, hv⟩
  · rintro ⟨rfl, hd⟩; exact ⟨d, rfl, (), hd, rfl⟩

theorem parseNonNegativeDecimal_eq_ok {context : Message} {text : DecimalText} {d : Decimal} :
    parseNonNegativeDecimal context text = .ok d ↔ text = .value d ∧ 0 ≤ d := by
  simp only [parseNonNegativeDecimal, bind_eq_ok, parseDecimal_eq_ok, ensure_eq_ok, pure_eq_ok]
  constructor
  · rintro ⟨v, rfl, _, hv, rfl⟩; exact ⟨rfl, hv⟩
  · rintro ⟨rfl, hd⟩; exact ⟨d, rfl, (), hd, rfl⟩

/-! ## Quantization -/

/-- `quantize_decimal_down` in exact arithmetic, for a positive step; `quantizeDecimalDown_exact`
says where `rust_decimal` gives the same. -/
def quantizeDecimalDown (value step : Decimal) : Result Decimal := do
  ensure (0 < value) "value must be positive"
  return ⌊value / step⌋ * step

/-- `quantize_decimal_up` in exact arithmetic, for a positive step; see
`quantizeDecimalUp_exact`. -/
def quantizeDecimalUp (value step : Decimal) : Result Decimal := do
  ensure (0 < value) "value must be positive"
  return ⌈value / step⌉ * step

theorem quantizeDecimalDown_eq_ok {value step d : Decimal} :
    quantizeDecimalDown value step = .ok d ↔ 0 < value ∧ ⌊value / step⌋ * step = d := by
  simp only [quantizeDecimalDown, bind_eq_ok, ensure_eq_ok, pure_eq_ok, exists_const]

theorem quantizeDecimalUp_eq_ok {value step d : Decimal} :
    quantizeDecimalUp value step = .ok d ↔ 0 < value ∧ ⌈value / step⌉ * step = d := by
  simp only [quantizeDecimalUp, bind_eq_ok, ensure_eq_ok, pure_eq_ok, exists_const]

theorem quantizeDecimalDown_le {value step d : Decimal} (hs : 0 < step)
    (h : quantizeDecimalDown value step = .ok d) : d ≤ value := by
  obtain ⟨_, rfl⟩ := quantizeDecimalDown_eq_ok.1 h
  calc (⌊value / step⌋ : ℚ) * step ≤ value / step * step :=
        mul_le_mul_of_nonneg_right (Int.floor_le _) hs.le
    _ = value := div_mul_cancel₀ _ hs.ne'

end OkxTrading
