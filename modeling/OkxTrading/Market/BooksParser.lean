import OkxTrading.Market.BooksMessage
import OkxTrading.Market.RustDecimal
import OkxTrading.Okx.Types

/-!
# The parser of the `books` channel

`parse_books_message` of `okx-public-protocol`, with the readers of its rows.

The text of a payload is read by `serde_json` and its decimals by `rust_decimal`.  The model starts
from the rows and the texts in them, and takes the reader of decimals as a parameter.

* `DecimalReader` — `Decimal::from_str`.
* `OkxLevel2Level.deserialize`, `OkxLevel2Data.deserialize`, `parseBooksMessage` — the parser.
* `parsed_of_parseBooksMessage` — what holds of every message it accepts.
-/

namespace OkxTrading

open Effect

/-- `Decimal::from_str`: whatever it returns is a decimal. -/
structure DecimalReader where
  read : Text → Option Decimal
  isDecimal : ∀ {text : Text} {d : Decimal}, read text = some d → IsDecimal d

/-- `OkxPublicProtocolError`, with the values its texts name. -/
inductive OkxPublicProtocolError where
  | unsupportedAction (value : Text)
  | unsupportedChannel (value : Text)
  | malformedSpotInstrument (value : Text) (reason : Message)
  | instrumentMismatch (expected received : OkxSpotInstrumentId)
  | malformedPayload (message : Message)
  | unexpectedRowCount (count : ℕ)
  | duplicatePrice (price : Decimal)
  deriving DecidableEq, Repr

/-- A row as `serde_json` reads it. -/
structure BooksRow where
  asks : List (List Text)
  bids : List (List Text)
  ts : Text
  seqId : ℤ
  prevSeqId : ℤ
  deriving DecidableEq, Repr

/-! ## Instruments -/

def okxSpotInstrumentIdMaxLen : ℕ := 32

/-- `u8::is_ascii_whitespace`. -/
def isAsciiWhitespace (c : Char) : Bool := c ∈ [' ', '\t', '\n', '\x0C', '\r']

/-- The characters of an asset name. -/
def isAssetChar (c : Char) : Bool := c.isUpper || c.isDigit

/-- `validate_spot_instrument_id`: `BASE-QUOTE` in upper case, within its length. -/
def validateSpotInstrumentId (value : Text) : Except OkxPublicProtocolError Unit :=
  let malformed := fun reason => .error (.malformedSpotInstrument value reason)
  if value = [] then malformed "identifier must not be empty"
  else if okxSpotInstrumentIdMaxLen < (value.map Char.utf8Size).sum then
    malformed "identifier exceeds the 32-byte maximum"
  else if value.any fun c => decide (128 ≤ c.toNat) then
    malformed "identifier must contain ASCII characters only"
  else if value.any isAsciiWhitespace then malformed "identifier must not contain whitespace"
  else
    match value.splitOn '-' with
    | [base, quote] =>
        if base = [] ∨ quote = [] then
          malformed "identifier must contain exactly one separator and two non-empty assets"
        else if ¬ (base.all isAssetChar ∧ quote.all isAssetChar) then
          malformed "asset components must contain uppercase ASCII letters or digits only"
        else if base = quote then malformed "base and quote assets must differ"
        else .ok ()
    | _ => malformed "identifier must contain exactly one separator and two non-empty assets"

/-! ## Rows -/

section Rows

variable (reader : DecimalReader)

namespace OkxLevel2Level

/-- The checks of a level once its texts are read. -/
def checked (price quantity : Decimal) (deprecated count : Text) : Result OkxLevel2Level := do
  ensure (0 < price) "OKX books price must be positive"
  ensure (0 ≤ quantity) "OKX books quantity must be non-negative"
  ensure (deprecated = ['0']) "OKX books deprecated level field must be zero"
  let some orderCount := parseU64 count | .error "OKX books order count must be an integer"
  ensure (¬ (quantity = 0 ∧ orderCount ≠ 0)) "OKX books removal must have zero order count"
  ensure (¬ (0 < quantity ∧ orderCount = 0)) "OKX books live level must have positive order count"
  return { price, quantity, orderCount }

/-- A level as OKX sends it: price, quantity, a field no longer used, and the order count. -/
def deserialize : List Text → Result OkxLevel2Level
  | [price, quantity, deprecated, count] => do
      let some price := reader.read price | .error "OKX books price must be a Decimal"
      let some quantity := reader.read quantity | .error "OKX books quantity must be a Decimal"
      checked price quantity deprecated count
  | _ => .error "OKX books level must contain price, quantity, deprecated field, and order count"

end OkxLevel2Level

/-- The `ts` of a row. -/
def positiveI64String (value : Text) : Result ℤ := do
  let some value := parseI64 value | .error "OKX books timestamp must be an integer string"
  ensure (0 < value) "OKX books timestamp must be positive"
  return value

/-- The levels of both sides; the first that cannot be read fails the row. -/
def OkxLevel2Data.deserialize (row : BooksRow) : Result OkxLevel2Data := do
  let asks ← row.asks.mapM (OkxLevel2Level.deserialize reader)
  let bids ← row.bids.mapM (OkxLevel2Level.deserialize reader)
  let ts ← positiveI64String row.ts
  return { asks, bids, ts, sequenceId := row.seqId, previousSequenceId := row.prevSeqId }

end Rows

/-! ## Messages -/

/-- The two actions the channel documents. -/
def OkxLevel2Action.parse (value : Text) : Except OkxPublicProtocolError OkxLevel2Action :=
  if value = "snapshot".toList then .ok .snapshot
  else if value = "update".toList then .ok .update
  else .error (.unsupportedAction value)

/-- The first price that is listed again, with the prices seen before. -/
def repeatedPrice : List Decimal → List OkxLevel2Level → Option Decimal
  | _, [] => none
  | seen, level :: rest =>
      if level.price ∈ seen then some level.price else repeatedPrice (level.price :: seen) rest

/-- `reject_duplicate_book_levels`: the asks first. -/
def rejectDuplicateBookLevels (message : ValidatedBooksMessage) :
    Except OkxPublicProtocolError Unit :=
  match (repeatedPrice [] message.data.asks).or (repeatedPrice [] message.data.bids) with
  | some price => .error (.duplicatePrice price)
  | none => .ok ()

/-- The rows of a payload; `serde_json` stops at the first it cannot read. -/
def parseRows (reader : DecimalReader) (rows : Result (List BooksRow)) :
    Except OkxPublicProtocolError (List OkxLevel2Data) :=
  match rows.bind fun rows => rows.mapM (OkxLevel2Data.deserialize reader) with
  | .error message => .error (.malformedPayload message)
  | .ok rows => .ok rows

/-- `parse_books_message`; `dataJson` is what `serde_json` reads the payload as, or its error. -/
def parseBooksMessage (reader : DecimalReader) (expectedInstrument : OkxSpotInstrumentId)
    (channel receivedInstrument action : Text) (dataJson : Result (List BooksRow)) :
    Except OkxPublicProtocolError ValidatedBooksMessage :=
  if channel ≠ "books".toList then .error (.unsupportedChannel channel)
  else if receivedInstrument ≠ expectedInstrument then do
    validateSpotInstrumentId receivedInstrument
    .error (.instrumentMismatch expectedInstrument receivedInstrument)
  else do
    let action ← OkxLevel2Action.parse action
    let rows ← parseRows reader dataJson
    match rows with
    | [data] =>
        let message : ValidatedBooksMessage := { instrumentId := expectedInstrument, action, data }
        rejectDuplicateBookLevels message
        return message
    | rows => .error (.unexpectedRowCount rows.length)

/-! ## What is accepted -/

/-- A level with decimals in it. -/
structure OkxLevel2Level.Parsed (level : OkxLevel2Level) : Prop extends level.Valid where
  decimalPrice : IsDecimal level.price
  decimalQuantity : IsDecimal level.quantity

/-- Validated data, with decimals in its levels. -/
structure OkxLevel2Data.Parsed (data : OkxLevel2Data) : Prop where
  validated : data.Validated
  asks : ∀ level ∈ data.asks, level.Parsed
  bids : ∀ level ∈ data.bids, level.Parsed

variable {reader : DecimalReader} {seen : List Decimal} {levels : List OkxLevel2Level}

theorem mem_of_mapM {α β : Type} {f : α → Result β} {xs : List α} {ys : List β}
    (h : xs.mapM f = .ok ys) : ∀ y ∈ ys, ∃ x ∈ xs, f x = .ok y := by
  induction xs generalizing ys with
  | nil =>
      cases h
      simp
  | cons x rest ih =>
      simp only [List.mapM_cons, bind_eq_ok, pure_eq_ok] at h
      obtain ⟨y, hy, later, hlater, rfl⟩ := h
      intro z hz
      rcases List.mem_cons.1 hz with rfl | hz
      · exact ⟨x, List.mem_cons_self, hy⟩
      · obtain ⟨x', hx', hfx⟩ := ih hlater z hz
        exact ⟨x', List.mem_cons_of_mem _ hx', hfx⟩

theorem mapM_eq_ok {α β : Type} (f : α → Result β) (g : α → β) (xs : List α)
    (h : ∀ x ∈ xs, f x = .ok (g x)) : xs.mapM f = .ok (xs.map g) := by
  induction xs with
  | nil => rfl
  | cons x rest ih =>
      have hrest := ih fun y hy => h y (List.mem_cons_of_mem _ hy)
      rw [List.mapM_cons, h x List.mem_cons_self, hrest]
      rfl

theorem parsed_of_deserialize {texts : List Text} {level : OkxLevel2Level}
    (h : OkxLevel2Level.deserialize reader texts = .ok level) : level.Parsed := by
  unfold OkxLevel2Level.deserialize at h
  split at h
  · split at h
    · rename_i price hprice
      split at h
      · rename_i quantity hquantity
        unfold OkxLevel2Level.checked at h
        simp only [bind_eq_ok, ensure_eq_ok] at h
        obtain ⟨_, hpositive, _, hnonneg, _, -, h⟩ := h
        split at h
        · simp only [bind_eq_ok, ensure_eq_ok, pure_eq_ok] at h
          obtain ⟨_, -, _, -, rfl⟩ := h
          exact ⟨⟨hpositive, hnonneg⟩, reader.isDecimal hprice, reader.isDecimal hquantity⟩
        · cases h
      · cases h
    · cases h
  · cases h

theorem repeatedPrice_eq_none : repeatedPrice seen levels = none ↔
    (levels.map (·.price)).Nodup ∧ ∀ level ∈ levels, level.price ∉ seen := by
  induction levels generalizing seen with
  | nil => simp [repeatedPrice]
  | cons level rest ih =>
      rw [repeatedPrice]
      split
      · rename_i hseen
        simp [hseen]
      · rename_i hfresh
        rw [ih]
        simp only [List.map_cons, List.nodup_cons, List.mem_map, List.mem_cons, not_exists, not_and,
          forall_eq_or_imp, not_or]
        constructor
        · rintro ⟨hnodup, hother⟩
          exact ⟨⟨fun other hmem => (hother other hmem).1, hnodup⟩, hfresh,
            fun other hmem => (hother other hmem).2⟩
        · rintro ⟨⟨hne, hnodup⟩, -, hother⟩
          exact ⟨hnodup, fun other hmem => ⟨hne other hmem, hother other hmem⟩⟩

theorem parsed_of_data_deserialize {row : BooksRow} {data : OkxLevel2Data}
    (h : OkxLevel2Data.deserialize reader row = .ok data) :
    (∀ level ∈ data.asks, level.Parsed) ∧ ∀ level ∈ data.bids, level.Parsed := by
  simp only [OkxLevel2Data.deserialize, bind_eq_ok, pure_eq_ok] at h
  obtain ⟨asks, hasks, bids, hbids, ts, -, rfl⟩ := h
  constructor
  · intro level hlevel
    obtain ⟨texts, -, hlevel⟩ := mem_of_mapM hasks level hlevel
    exact parsed_of_deserialize hlevel
  · intro level hlevel
    obtain ⟨texts, -, hlevel⟩ := mem_of_mapM hbids level hlevel
    exact parsed_of_deserialize hlevel

theorem parsed_of_parseRows {rows : Result (List BooksRow)} {parsed : List OkxLevel2Data}
    (h : parseRows reader rows = .ok parsed) : ∀ data ∈ parsed,
      (∀ level ∈ data.asks, level.Parsed) ∧ ∀ level ∈ data.bids, level.Parsed := by
  unfold parseRows at h
  split at h
  · cases h
  · rename_i hrows
    cases h
    obtain ⟨rows, -, hrows⟩ := bind_eq_ok.1 hrows
    intro data hdata
    obtain ⟨row, -, hrow⟩ := mem_of_mapM hrows data hdata
    exact parsed_of_data_deserialize hrow

theorem nodup_of_rejectDuplicateBookLevels {message : ValidatedBooksMessage} {u : Unit}
    (h : rejectDuplicateBookLevels message = .ok u) :
    (message.data.asks.map (·.price)).Nodup ∧ (message.data.bids.map (·.price)).Nodup := by
  unfold rejectDuplicateBookLevels at h
  split at h
  · cases h
  · rename_i hnone
    rw [Option.or_eq_none_iff] at hnone
    exact ⟨(repeatedPrice_eq_none.1 hnone.1).1, (repeatedPrice_eq_none.1 hnone.2).1⟩

/-- **Every accepted message is validated**, and its levels have decimals in them. -/
theorem parsed_of_parseBooksMessage {expected : OkxSpotInstrumentId}
    {channel received action : Text}
    {dataJson : Result (List BooksRow)} {message : ValidatedBooksMessage}
    (h : parseBooksMessage reader expected channel received action dataJson = .ok message) :
    message.data.Parsed := by
  unfold parseBooksMessage at h
  split at h
  · cases h
  · split at h
    · obtain ⟨_, -, h⟩ := bind_eq_ok.1 h
      cases h
    · simp only [bind_eq_ok] at h
      obtain ⟨action, -, rows, hrows, h⟩ := h
      split at h
      · rename_i data
        simp only [bind_eq_ok, pure_eq_ok] at h
        obtain ⟨_, hunique, rfl⟩ := h
        obtain ⟨hasks, hbids⟩ := parsed_of_parseRows hrows data List.mem_cons_self
        obtain ⟨haskPrices, hbidPrices⟩ := nodup_of_rejectDuplicateBookLevels hunique
        exact ⟨⟨fun level hlevel => (hasks level hlevel).toValid,
          fun level hlevel => (hbids level hlevel).toValid, haskPrices, hbidPrices⟩, hasks, hbids⟩
      · cases h

end OkxTrading
