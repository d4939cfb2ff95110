import OkxTrading.Okx.Decimal

/-!
# Messages of the `books` channel

The payload types of `okx-public-protocol` for the order book channel.

* `OkxLevel2Level`, `OkxLevel2Data`, `ValidatedBooksMessage` — a price level, a row, a message.
* `OkxLevel2Data.Validated` — what the parser has checked of every row it accepts.
-/

namespace OkxTrading

def okxLevel2MaxDepth : ℕ := 400

/-- The canonical text of a SPOT instrument; only compared. -/
abbrev OkxSpotInstrumentId := Text

/-- The `action` of a books message. -/
inductive OkxLevel2Action where
  | snapshot
  | update
  deriving DecidableEq, Repr

/-- A price level as it is sent; quantity zero removes the level. -/
structure OkxLevel2Level where
  price : Decimal
  quantity : Decimal
  orderCount : ℕ
  deriving DecidableEq, Repr

/-- The one row of a books message after its fields were read. -/
structure OkxLevel2Data where
  asks : List OkxLevel2Level
  bids : List OkxLevel2Level
  ts : ℤ
  sequenceId : ℤ
  previousSequenceId : ℤ
  deriving DecidableEq, Repr

/-- `ValidatedBooksMessage`: a books message that passed every check. -/
structure ValidatedBooksMessage where
  instrumentId : OkxSpotInstrumentId
  action : OkxLevel2Action
  data : OkxLevel2Data
  deriving DecidableEq, Repr

/-- A level with a positive price and no negative quantity. -/
structure OkxLevel2Level.Valid (level : OkxLevel2Level) : Prop where
  price : 0 < level.price
  quantity : 0 ≤ level.quantity

/-- Valid levels, and no price twice on one side. -/
structure OkxLevel2Data.Validated (data : OkxLevel2Data) : Prop where
  asks : ∀ level ∈ data.asks, level.Valid
  bids : ∀ level ∈ data.bids, level.Valid
  askPrices : (data.asks.map (·.price)).Nodup
  bidPrices : (data.bids.map (·.price)).Nodup

instance (level : OkxLevel2Level) : Decidable level.Valid :=
  decidable_of_iff (0 < level.price ∧ 0 ≤ level.quantity) ⟨fun h => ⟨h.1, h.2⟩, fun h => ⟨h.1, h.2⟩⟩

instance (data : OkxLevel2Data) : Decidable data.Validated :=
  decidable_of_iff ((∀ level ∈ data.asks, level.Valid) ∧ (∀ level ∈ data.bids, level.Valid) ∧
      (data.asks.map (·.price)).Nodup ∧ (data.bids.map (·.price)).Nodup)
    ⟨fun h => ⟨h.1, h.2.1, h.2.2.1, h.2.2.2⟩,
      fun h => ⟨h.asks, h.bids, h.askPrices, h.bidPrices⟩⟩

end OkxTrading
