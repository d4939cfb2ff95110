import Mathlib.Data.Nat.Digits.Lemmas
import OkxTrading.Strategy.Evidence

/-!
# Order ids identify their order

The text of a client order id determines the ownership tag, the purpose, the clock and the
counter it was made from, and its parser finds the purpose for exactly the tag it carries.

* `base36Value_base36` — base 36 can be read back, so it is injective.
* `clientOrderId_length_le`, `clientOrderId_alphanum` — the exact budget of 32 characters.
* `parse_clientOrderId` — ownership is exact; `clientOrderId_injective` — the fields are.
* `clientOrderId_codec` — all of it, with the legacy grammar.
-/

namespace OkxTrading

namespace OrderId

/-! ## Base 36 -/

/-- The value of a base 36 digit. -/
def digitValue (c : Char) : Nat := if c.toNat < 58 then c.toNat - 48 else c.toNat - 55

/-- The value of a text in base 36. -/
def base36Value (text : Text) : Nat := Nat.ofDigits 36 (text.reverse.map digitValue)

theorem digitValue_base36Digit {d : Nat} (h : d < 36) : digitValue (base36Digit d) = d :=
  (by decide : ∀ d : Fin 36, digitValue (base36Digit d) = d) ⟨d, h⟩

theorem base36Digit_alphanum {d : Nat} (h : d < 36) : (base36Digit d).isAlphanum = true :=
  (by decide : ∀ d : Fin 36, (base36Digit d).isAlphanum = true) ⟨d, h⟩

/-- The digits of `value`, most significant first. -/
def base36Digits (value : Nat) : Text := (Nat.digits 36 value).reverse.map base36Digit

theorem base36Loop_eq (fuel : Nat) : ∀ value encoded, value ≤ fuel →
    base36Loop fuel value encoded = base36Digits value ++ encoded := by
  induction fuel with
  | zero =>
      intro value encoded h
      obtain rfl : value = 0 := by omega
      rfl
  | succ fuel ih =>
      intro value encoded h
      unfold base36Loop
      split
      · rename_i hzero
        subst hzero
        rfl
      · rename_i hzero
        rw [ih _ _ (by omega)]
        unfold base36Digits
        rw [Nat.digits_def' (by decide) (Nat.pos_of_ne_zero hzero)]
        simp

theorem base36_of_pos {value : Nat} (h : value ≠ 0) : base36 value = base36Digits value := by
  unfold base36
  rw [if_neg h, base36Loop_eq _ _ _ le_rfl, List.append_nil]

/-- Base 36 can be read back. -/
theorem base36Value_base36 (value : Nat) : base36Value (base36 value) = value := by
  by_cases h : value = 0
  · subst h
    decide
  · rw [base36_of_pos h]
    unfold base36Value base36Digits
    rw [← List.map_reverse, List.reverse_reverse, List.map_map]
    have hdigits : (Nat.digits 36 value).map (digitValue ∘ base36Digit) = Nat.digits 36 value := by
      refine (List.map_congr_left fun d hd => ?_).trans (List.map_id _)
      exact digitValue_base36Digit (Nat.digits_lt_base (by decide) hd)
    rw [hdigits, Nat.ofDigits_digits]

theorem base36_injective {m n : Nat} (h : base36 m = base36 n) : m = n := by
  rw [← base36Value_base36 m, h, base36Value_base36]

theorem base36_alphanum (value : Nat) : ∀ c ∈ base36 value, c.isAlphanum = true := by
  by_cases h : value = 0
  · subst h
    exact List.all_eq_true.1 (by decide : (base36 0).all Char.isAlphanum = true)
  · rw [base36_of_pos h]
    intro c hc
    obtain ⟨d, hd, rfl⟩ := List.mem_map.1 hc
    exact base36Digit_alphanum (Nat.digits_lt_base (by decide) (List.mem_reverse.1 hd))

/-- A number below a power of 36 takes no more digits than the exponent. -/
theorem base36_length_le {value width : Nat} (hwidth : 0 < width) (h : value < 36 ^ width) :
    (base36 value).length ≤ width := by
  by_cases hzero : value = 0
  · subst hzero
    exact hwidth
  · rw [base36_of_pos hzero]
    unfold base36Digits
    rw [List.length_map, List.length_reverse]
    exact (Nat.digits_length_le_iff (by decide) value).2 h

theorem base36_length_pos (value : Nat) : 0 < (base36 value).length := by
  by_cases hzero : value = 0
  · subst hzero
    decide
  · rw [base36_of_pos hzero]
    unfold base36Digits
    rw [List.length_map, List.length_reverse]
    exact List.length_pos_iff.2 (Nat.digits_ne_nil_iff_ne_zero.2 hzero)

/-! ## Four digits -/

theorem fourDigits_length (n : Nat) : (fourDigits n).length = 4 := rfl

theorem fourDigits_alphanum (n : Nat) : ∀ c ∈ fourDigits n, c.isAlphanum = true := by
  intro c hc
  obtain ⟨d, hd, rfl⟩ := List.mem_map.1 hc
  refine base36Digit_alphanum ?_
  simp only [List.mem_cons, List.not_mem_nil, or_false] at hd
  omega

theorem base36Digit_injective {d e : Nat} (hd : d < 36) (he : e < 36)
    (h : base36Digit d = base36Digit e) : d = e := by
  rw [← digitValue_base36Digit hd, h, digitValue_base36Digit he]

theorem fourDigits_injective {m n : Nat} (hm : m < 10000) (hn : n < 10000)
    (h : fourDigits m = fourDigits n) : m = n := by
  simp only [fourDigits, List.map_cons, List.map_nil, List.cons.injEq, and_true] at h
  obtain ⟨h1, h2, h3, h4⟩ := h
  have h1 := base36Digit_injective (by omega) (by omega) h1
  have h2 := base36Digit_injective (by omega) (by omega) h2
  have h3 := base36Digit_injective (by omega) (by omega) h3
  have h4 := base36Digit_injective (by omega) (by omega) h4
  omega

/-! ## Tags -/

theorem strategyTagPrefix_length (strategyId : Text) :
    (strategyTagPrefix strategyId).length = strategyTagPrefixLen := by
  have hpad : ∀ tag : Text, tag.length ≤ strategyTagPrefixLen →
      (tag ++ List.replicate (strategyTagPrefixLen - tag.length) '0').length =
        strategyTagPrefixLen := by
    intro tag htag
    rw [List.length_append, List.length_replicate]
    omega
  unfold strategyTagPrefix
  refine hpad _ ?_
  split
  · decide
  · rw [List.length_map]
    exact List.length_take_le _ _

theorem toNat_lt_of_alphanum {c : Char} (h : c.isAlphanum = true) : c.toNat < 128 := by
  have hcode := toNat_of_isAlphanum h
  omega

theorem toUpper_alphanum {c : Char} (h : c.isAlphanum = true) : c.toUpper.isAlphanum = true := by
  have hascii : ∀ n : Fin 128, (Char.ofNat n).isAlphanum = true →
      (Char.ofNat n).toUpper.isAlphanum = true := by decide
  have hc := hascii ⟨c.toNat, toNat_lt_of_alphanum h⟩
  rw [Char.ofNat_toNat] at hc
  exact hc h

theorem strategyTagPrefix_alphanum (strategyId : Text) :
    ∀ c ∈ strategyTagPrefix strategyId, c.isAlphanum = true := by
  intro c hc
  unfold strategyTagPrefix at hc
  rcases List.mem_append.1 hc with hc | hc
  · split at hc
    · exact List.all_eq_true.1 (by decide : ['S', 'T', 'R'].all Char.isAlphanum = true) c hc
    · obtain ⟨d, hd, rfl⟩ := List.mem_map.1 hc
      exact toUpper_alphanum (List.mem_filter.1 (List.mem_of_mem_take hd)).2
  · rw [List.eq_of_mem_replicate hc]
    decide

theorem paddedBase36_length {value width : Nat} (hwidth : 0 < width) (h : value < 36 ^ width) :
    (paddedBase36 value width).length = width := by
  have hle := base36_length_le hwidth h
  unfold paddedBase36
  dsimp only
  split
  · omega
  · rw [List.length_append, List.length_replicate]
    omega

theorem paddedBase36_alphanum (value width : Nat) :
    ∀ c ∈ paddedBase36 value width, c.isAlphanum = true := by
  intro c hc
  unfold paddedBase36 at hc
  dsimp only at hc
  split at hc
  · exact base36_alphanum value c hc
  · rcases List.mem_append.1 hc with hc | hc
    · rw [List.eq_of_mem_replicate hc]
      decide
    · exact base36_alphanum value c hc

/-- A hash of 32 bits has at most seven digits, so a tag has eleven characters. -/
theorem strategyTag_length (strategyId : Text) :
    (strategyTag strategyId).length = strategyTagLen := by
  unfold strategyTag
  rw [List.length_append, strategyTagPrefix_length, paddedBase36_length (by decide)]
  · rfl
  · have := (fnv1a32 (utf8Bytes strategyId)).toNat_lt
    have : 2 ^ 32 < 36 ^ strategyTagHashLen := by decide
    omega

theorem strategyTag_alphanum (strategyId : Text) :
    ∀ c ∈ strategyTag strategyId, c.isAlphanum = true := by
  intro c hc
  rcases List.mem_append.1 hc with hc | hc
  · exact strategyTagPrefix_alphanum strategyId c hc
  · exact paddedBase36_alphanum _ _ c hc

theorem validStrategyTag_strategyTag (strategyId : Text) :
    validStrategyTag (strategyTag strategyId) = true := by
  unfold validStrategyTag
  rw [strategyTag_length, List.all_eq_true.2 (strategyTag_alphanum strategyId)]
  rfl

/-! ## The id -/

theorem asCode_alphanum (purpose : OrderPurpose) : purpose.asCode.isAlphanum = true := by
  cases purpose <;> rfl

/-- The part of an id after the code of the purpose. -/
def generatedSuffix (nowMs : Int) (sequence : Nat) : Text :=
  base36 (u64OrDefault nowMs) ++ fourDigits (sequence % 10000)

theorem clientOrderId_eq (strategyId : Text) (purpose : OrderPurpose) (nowMs : Int)
    (sequence : Nat) :
    clientOrderId strategyId purpose nowMs sequence =
      orderIdPrefix ++
          (strategyTag strategyId ++ purpose.asCode :: generatedSuffix nowMs sequence) := by
  simp [clientOrderId, generatedSuffix]

theorem u64OrDefault_lt (nowMs : Int) : u64OrDefault nowMs < 2 ^ 64 := by
  unfold u64OrDefault
  split
  · omega
  · decide

/-- A clock of 64 bits takes at most thirteen digits. -/
theorem generatedSuffix_length (nowMs : Int) (sequence : Nat) :
    minSuffixLen ≤ (generatedSuffix nowMs sequence).length ∧
      (generatedSuffix nowMs sequence).length ≤ maxSuffixLen := by
  have hpos := base36_length_pos (u64OrDefault nowMs)
  have hlt : u64OrDefault nowMs < 36 ^ 13 := by
    have := u64OrDefault_lt nowMs
    have : 2 ^ 64 < 36 ^ 13 := by decide
    omega
  have hle := base36_length_le (by decide) hlt
  unfold generatedSuffix
  rw [List.length_append, fourDigits_length]
  constructor
  · show 5 ≤ _
    omega
  · show _ ≤ 17
    omega

theorem generatedSuffix_alphanum (nowMs : Int) (sequence : Nat) :
    ∀ c ∈ generatedSuffix nowMs sequence, c.isAlphanum = true := by
  intro c hc
  rcases List.mem_append.1 hc with hc | hc
  · exact base36_alphanum _ c hc
  · exact fourDigits_alphanum _ c hc

theorem clientOrderId_length_le (strategyId : Text) (purpose : OrderPurpose) (nowMs : Int)
    (sequence : Nat) :
    (clientOrderId strategyId purpose nowMs sequence).length ≤ clientOrderIdMaxLen := by
  have hmax :
      orderIdPrefix.length + (strategyTagLen + (maxSuffixLen + 1)) = clientOrderIdMaxLen := by
    decide
  have hsuffix := (generatedSuffix_length nowMs sequence).2
  rw [clientOrderId_eq, List.length_append, List.length_append, List.length_cons,
    strategyTag_length]
  omega

theorem clientOrderId_alphanum (strategyId : Text) (purpose : OrderPurpose) (nowMs : Int)
    (sequence : Nat) :
    ∀ c ∈ clientOrderId strategyId purpose nowMs sequence, c.isAlphanum = true := by
  intro c hc
  rw [clientOrderId_eq] at hc
  rcases List.mem_append.1 hc with hc | hc
  · exact List.all_eq_true.1 (by decide : orderIdPrefix.all Char.isAlphanum = true) c hc
  · rcases List.mem_append.1 hc with hc | hc
    · exact strategyTag_alphanum strategyId c hc
    · rcases List.mem_cons.1 hc with rfl | hc
      · exact asCode_alphanum purpose
      · exact generatedSuffix_alphanum nowMs sequence c hc

theorem parsePurposeCode_asCode (purpose : OrderPurpose) :
    parsePurposeCode purpose.asCode = some purpose := by
  cases purpose <;> rfl

theorem parseOrderSuffix_generated (purpose : OrderPurpose) (nowMs : Int) (sequence : Nat) :
    parseOrderSuffix (purpose.asCode :: generatedSuffix nowMs sequence) maxSuffixLen =
      some purpose := by
  obtain ⟨hmin, hmax⟩ := generatedSuffix_length nowMs sequence
  have halnum := List.all_eq_true.2 (generatedSuffix_alphanum nowMs sequence)
  unfold parseOrderSuffix
  dsimp only
  rw [parsePurposeCode_asCode]
  exact if_pos ⟨hmin, hmax, halnum⟩

theorem stripPrefix_append (pre rest : Text) : stripPrefix pre (pre ++ rest) = some rest :=
  stripPrefix_eq_some.2 rfl

/-- **Ownership is exact**: the parser finds the purpose under the tag of the id, and nothing under
the tag of a strategy with another one. -/
theorem parse_clientOrderId (a b : Text) (purpose : OrderPurpose) (nowMs : Int) (sequence : Nat) :
    parseStrategyClientOrderId (clientOrderId a purpose nowMs sequence) (strategyTag b) =
      if strategyTag a = strategyTag b then some purpose else none := by
  unfold parseStrategyClientOrderId
  rw [if_neg (by rw [validStrategyTag_strategyTag]; decide), clientOrderId_eq, stripPrefix_append]
  show (stripPrefix (strategyTag b) _).bind _ = _
  split
  · rename_i htag
    rw [htag, stripPrefix_append]
    exact parseOrderSuffix_generated purpose nowMs sequence
  · rename_i htag
    cases hstrip : stripPrefix (strategyTag b)
        (strategyTag a ++ purpose.asCode :: generatedSuffix nowMs sequence) with
    | none => rfl
    | some rest =>
        -- Tags have one length, so a tag that is a prefix is the tag of the id.
        have happ := stripPrefix_eq_some.1 hstrip
        have hlen : (strategyTag a).length = (strategyTag b).length := by
          rw [strategyTag_length, strategyTag_length]
        exact absurd (List.append_inj happ hlen).1 htag

/-- **The id determines its fields.** -/
theorem clientOrderId_injective {a b : Text} {p q : OrderPurpose} {t u : Int} {m n : Nat}
    (h : clientOrderId a p t m = clientOrderId b q u n) :
    strategyTag a = strategyTag b ∧ p = q ∧ u64OrDefault t = u64OrDefault u ∧
      m % 10000 = n % 10000 := by
  rw [clientOrderId_eq, clientOrderId_eq, List.append_cancel_left_eq] at h
  have hlen : (strategyTag a).length = (strategyTag b).length := by
    rw [strategyTag_length, strategyTag_length]
  obtain ⟨htag, hrest⟩ := List.append_inj h hlen
  obtain ⟨hcode, hsuffix⟩ := List.cons.inj hrest
  obtain ⟨htime, hcounter⟩ := List.append_inj' hsuffix rfl
  refine ⟨htag, OrderPurpose.asCode_injective hcode, base36_injective htime, ?_⟩
  exact fourDigits_injective (Nat.mod_lt _ (by decide)) (Nat.mod_lt _ (by decide)) hcounter

/-- An id of a configured strategy is no legacy id, whatever the legacy tag. -/
theorem liveLegacyStrategyId_clientOrderId {a : Text} {configured : List Text}
    (h : strategyTag a ∈ configured) (purpose : OrderPurpose) (nowMs : Int) (sequence : Nat)
    (tag legacyTag : Text) :
    liveLegacyStrategyId (clientOrderId a purpose nowMs sequence) tag legacyTag configured =
      false := by
  have hany : (configured.any fun tag =>
      (parseStrategyClientOrderId (clientOrderId a purpose nowMs sequence) tag).isSome) = true := by
    refine List.any_eq_true.2 ⟨_, h, ?_⟩
    rw [parse_clientOrderId, if_pos rfl]
    rfl
  unfold liveLegacyStrategyId
  rw [hany]
  simp

/-- A clock of 64 bits is kept as it is. -/
theorem u64OrDefault_toNat (t : UInt64) : u64OrDefault (t.toNat : Int) = t.toNat := by
  have := t.toNat_lt
  unfold u64OrDefault
  rw [if_pos ⟨by omega, by omega⟩, Int.toNat_natCast]

end OrderId

/-- **Order identity codec**: a generated id keeps to 32 alphanumeric characters, is parsed by
exactly the strategies with its tag, determines tag, purpose, clock and counter, and is never
taken for a legacy id where its tag is configured. -/
theorem clientOrderId_codec (a : Text) (p : OrderPurpose) (t : UInt64) (n : Nat) :
    ((OrderId.clientOrderId a p t.toNat n).length ≤ 32 ∧
      ∀ c ∈ OrderId.clientOrderId a p t.toNat n, c.isAlphanum = true) ∧
    (∀ b, OrderId.parseStrategyClientOrderId (OrderId.clientOrderId a p t.toNat n)
        (OrderId.strategyTag b) =
      if OrderId.strategyTag a = OrderId.strategyTag b then some p else none) ∧
    (∀ b q (u : UInt64) m,
      OrderId.clientOrderId a p t.toNat n = OrderId.clientOrderId b q u.toNat m →
      OrderId.strategyTag a = OrderId.strategyTag b ∧ p = q ∧ t = u ∧ n % 10000 = m % 10000) ∧
    (∀ tag legacyTag configured, OrderId.strategyTag a ∈ configured →
      liveLegacyStrategyId (OrderId.clientOrderId a p t.toNat n) tag legacyTag configured =
        false) := by
  refine ⟨⟨OrderId.clientOrderId_length_le .., OrderId.clientOrderId_alphanum a p _ n⟩,
    fun b => OrderId.parse_clientOrderId .., fun b q u m h => ?_,
    fun tag legacyTag configured h => OrderId.liveLegacyStrategyId_clientOrderId h ..⟩
  obtain ⟨htag, hp, ht, hn⟩ := OrderId.clientOrderId_injective h
  rw [OrderId.u64OrDefault_toNat, OrderId.u64OrDefault_toNat] at ht
  exact ⟨htag, hp, UInt64.toNat_inj.1 ht, hn⟩

/-- An id of the strategy `ema` is no legacy id where its tag is configured. -/
theorem clientOrderId_codec_ema :
    liveLegacyStrategyId (OrderId.clientOrderId ['e', 'm', 'a'] .entry (1000 : UInt64).toNat 7)
      (OrderId.strategyTag ['x']) (OrderId.legacyStrategyTag ['e', 'm', 'a'])
      [OrderId.strategyTag ['e', 'm', 'a']] = false :=
  (clientOrderId_codec ['e', 'm', 'a'] .entry 1000 7).2.2.2 _ _ _ (List.mem_singleton_self _)

end OkxTrading
