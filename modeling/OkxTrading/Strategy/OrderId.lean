import OkxTrading.Okx.Types

/-!
# Client order ids

`order_id.rs`: a client order id is `ROX`, the strategy's eleven-character ownership tag, one
character for the purpose, the clock in base 36 and four digits of a process-wide counter.

* `clientOrderId`, `strategyTag`, `parseStrategyClientOrderId` — the codec.
* `HasPurpose` — an id begins with prefix, tag and purpose code; generated ids and ids the parser
  accepts both do, and ids of different purposes differ (`HasPurpose.ne`).
-/

namespace OkxTrading

/-- What an order is for. -/
inductive OrderPurpose where
  | entry
  | takeProfit
  | stopLoss
  deriving DecidableEq, Repr

/-- `as_code`. -/
def OrderPurpose.asCode : OrderPurpose → Char
  | .entry => 'B'
  | .takeProfit => 'T'
  | .stopLoss => 'S'

theorem OrderPurpose.asCode_injective {p q : OrderPurpose} (h : p.asCode = q.asCode) : p = q := by
  cases p <;> cases q <;> first | rfl | exact absurd h (by decide)

namespace OrderId

def clientOrderIdMaxLen : Nat := 32
def orderIdPrefix : Text := ['R', 'O', 'X']
def strategyTagPrefixLen : Nat := 4
def strategyTagHashLen : Nat := 7
def strategyTagLen : Nat := strategyTagPrefixLen + strategyTagHashLen
def legacyStrategyTagMaxLen : Nat := 8
def legacyStrategyTagFallback : Text := ['S', 'T', 'R', 'A', 'T']
def purposeCodeLen : Nat := 1
def minSuffixLen : Nat := 5
def maxSuffixLen : Nat :=
  clientOrderIdMaxLen - orderIdPrefix.length - strategyTagLen - purposeCodeLen

/-! ## Base 36 -/

/-- A digit, upper case. -/
def base36Digit (digit : Nat) : Char :=
  if digit < 10 then Char.ofNat ('0'.toNat + digit) else Char.ofNat ('A'.toNat + digit - 10)

/-- The digits of `value` put before those already encoded; each round divides by 36, so `value`
rounds are enough. -/
def base36Loop : Nat → Nat → Text → Text
  | 0, _, encoded => encoded
  | fuel + 1, value, encoded =>
      if value = 0 then encoded
      else base36Loop fuel (value / 36) (base36Digit (value % 36) :: encoded)

/-- A number in base 36. -/
def base36 (value : Nat) : Text :=
  if value = 0 then ['0'] else base36Loop value value []

/-- Filled with zeros on the left. -/
def paddedBase36 (value width : Nat) : Text :=
  let encoded := base36 value
  if width ≤ encoded.length then encoded
  else List.replicate (width - encoded.length) '0' ++ encoded

/-! ## Tags -/

/-- The FNV-1a hash. -/
def fnv1a32 (bytes : List UInt8) : UInt32 :=
  bytes.foldl (fun hash byte => (hash ^^^ byte.toUInt32) * 0x01000193) 0x811c9dc5

def utf8Bytes (text : Text) : List UInt8 := text.flatMap String.utf8EncodeChar

/-- Up to four characters of the name, upper case and padded. -/
def strategyTagPrefix (strategyId : Text) : Text :=
  let tag := ((strategyId.filter Char.isAlphanum).take strategyTagPrefixLen).map Char.toUpper
  let tag := if tag = [] then ['S', 'T', 'R'] else tag
  tag ++ List.replicate (strategyTagPrefixLen - tag.length) '0'

/-- `strategy_tag`: the prefix and a hash of the whole name. -/
def strategyTag (strategyId : Text) : Text :=
  strategyTagPrefix strategyId ++
    paddedBase36 (fnv1a32 (utf8Bytes strategyId)).toNat strategyTagHashLen

/-- The tag of the old scheme, without a hash. -/
def legacyStrategyTag (strategyId : Text) : Text :=
  let tag := ((strategyId.filter Char.isAlphanum).take legacyStrategyTagMaxLen).map Char.toUpper
  if tag = [] then legacyStrategyTagFallback else tag

/-! ## Generating and parsing ids -/

/-- `u64::try_from(now_ms).unwrap_or_default()`. -/
def u64OrDefault (nowMs : Int) : Nat :=
  if 0 ≤ nowMs ∧ nowMs < 2 ^ 64 then nowMs.toNat else 0

/-- `{n:04}`. -/
def fourDigits (n : Nat) : Text :=
  [n / 1000 % 10, n / 100 % 10, n / 10 % 10, n % 10].map base36Digit

/-- `client_order_id` at clock `nowMs` and counter value `sequence`. -/
def clientOrderId (strategyId : Text) (purpose : OrderPurpose) (nowMs : Int) (sequence : Nat) :
    Text :=
  orderIdPrefix ++ strategyTag strategyId ++ purpose.asCode ::
    (base36 (u64OrDefault nowMs) ++ fourDigits (sequence % 10000))

/-- `strip_prefix`. -/
def stripPrefix (pre text : Text) : Option Text :=
  if pre.isPrefixOf text then some (text.drop pre.length) else none

/-- The purpose of a code. -/
def parsePurposeCode : Char → Option OrderPurpose
  | 'B' => some .entry
  | 'T' => some .takeProfit
  | 'S' => some .stopLoss
  | _ => none

/-- The purpose that begins the suffix of a generated id. -/
def parseOrderSuffix (suffix : Text) (maxLen : Nat) : Option OrderPurpose :=
  match suffix with
  | [] => none
  | code :: generated =>
      match parsePurposeCode code with
      | none => none
      | some purpose =>
          if minSuffixLen ≤ generated.length ∧ generated.length ≤ maxLen ∧
              generated.all Char.isAlphanum then some purpose
          else none

/-- The shape of a tag. -/
def validStrategyTag (tag : Text) : Bool :=
  decide (tag.length = strategyTagLen) && tag.all Char.isAlphanum

/-- The shape of a tag of the old scheme. -/
def validLegacyStrategyTag (tag : Text) : Bool :=
  decide (1 ≤ tag.length ∧ tag.length ≤ legacyStrategyTagMaxLen) && tag.all Char.isAlphanum

/-- `parse_strategy_client_order_id`: the purpose, where the id is one of the tag. -/
def parseStrategyClientOrderId (clientOrderId tag : Text) : Option OrderPurpose :=
  if validStrategyTag tag = false then none
  else do
    let suffix ← stripPrefix orderIdPrefix clientOrderId
    let suffix ← stripPrefix tag suffix
    parseOrderSuffix suffix maxSuffixLen

/-- The same for the old scheme. -/
def parseLegacyStrategyClientOrderId (clientOrderId legacyTag : Text) : Option OrderPurpose :=
  if validLegacyStrategyTag legacyTag = false then none
  else do
    let suffix ← stripPrefix orderIdPrefix clientOrderId
    let suffix ← stripPrefix legacyTag suffix
    parseOrderSuffix suffix
      (clientOrderIdMaxLen - orderIdPrefix.length - legacyTag.length - purposeCodeLen)

/-! ## The purpose an id carries -/

/-- The id begins with the prefix, the tag and the code of `purpose`. -/
def HasPurpose (tag : Text) (purpose : OrderPurpose) (id : Text) : Prop :=
  (orderIdPrefix ++ tag ++ [purpose.asCode]) <+: id

theorem HasPurpose.unique {tag : Text} {p q : OrderPurpose} {id : Text}
    (hp : HasPurpose tag p id) (hq : HasPurpose tag q id) : p = q := by
  obtain ⟨s, rfl⟩ := hp
  obtain ⟨t, ht⟩ := hq
  simp only [List.append_assoc, List.append_cancel_left_eq, List.singleton_append,
    List.cons.injEq] at ht
  exact OrderPurpose.asCode_injective ht.1.symm

theorem HasPurpose.ne {tag : Text} {p q : OrderPurpose} {a b : Text} (hpq : p ≠ q)
    (ha : HasPurpose tag p a) (hb : HasPurpose tag q b) : a ≠ b := by
  rintro rfl
  exact hpq (ha.unique hb)

theorem clientOrderId_hasPurpose (strategyId : Text) (purpose : OrderPurpose) (nowMs : Int)
    (sequence : Nat) :
    HasPurpose (strategyTag strategyId) purpose (clientOrderId strategyId purpose nowMs sequence) :=
  ⟨base36 (u64OrDefault nowMs) ++ fourDigits (sequence % 10000), by simp [clientOrderId]⟩

theorem stripPrefix_eq_some {pre text rest : Text} :
    stripPrefix pre text = some rest ↔ text = pre ++ rest := by
  unfold stripPrefix
  split
  · rename_i h
    obtain ⟨t, rfl⟩ := List.isPrefixOf_iff_prefix.1 h
    simp [eq_comm]
  · rename_i h
    simp only [reduceCtorEq, false_iff]
    rintro rfl
    exact h (List.isPrefixOf_iff_prefix.2 (List.prefix_append _ _))

theorem parsePurposeCode_eq_some {c : Char} {p : OrderPurpose} (h : parsePurposeCode c = some p) :
    c = p.asCode := by
  unfold parsePurposeCode at h
  split at h <;> first | (cases h; rfl) | cases h

theorem parseOrderSuffix_eq_some {suffix : Text} {n : Nat} {p : OrderPurpose}
    (h : parseOrderSuffix suffix n = some p) : ∃ rest, suffix = p.asCode :: rest := by
  unfold parseOrderSuffix at h
  split at h
  · cases h
  · split at h
    · cases h
    · rename_i hp
      split at h
      · cases h; exact ⟨_, by rw [parsePurposeCode_eq_some hp]⟩
      · cases h

/-- An id the parser accepts carries the purpose it returns. -/
theorem parse_hasPurpose {id tag : Text} {p : OrderPurpose}
    (h : parseStrategyClientOrderId id tag = some p) : HasPurpose tag p id := by
  unfold parseStrategyClientOrderId at h
  split at h
  · cases h
  · simp only [Option.bind_eq_bind, Option.bind_eq_some_iff, stripPrefix_eq_some] at h
    obtain ⟨_, rfl, _, rfl, hs⟩ := h
    obtain ⟨rest, rfl⟩ := parseOrderSuffix_eq_some hs
    exact ⟨rest, by simp⟩

end OrderId

end OkxTrading
