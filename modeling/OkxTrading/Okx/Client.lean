import OkxTrading.Okx.TradingInstrument

/-!
# The exchange client

The calls of the trait `OkxClient` and what each answers with.  An implementation is any function
that may also change a world of its own, so a statement about every client is a statement about
every sequence of answers, errors and cut-offs.

* `Call`, `Call.Reply` — the calls a strategy makes.
* `Stop` — a call answered with an error, or the tick was cut off while it was under way.
* `OkxClient` — a client together with the clock and the counter client order ids are made from.
-/

namespace OkxTrading

/-- Why a tick does not go on. -/
inductive Stop where
  | failed (message : Message)
  | abandoned
  deriving DecidableEq, Repr

/-- A call of the client; sizes and prices are the decimals their texts were made from. -/
inductive Call where
  | instruments (instId : Text)
  | candles (instId bar : Text) (limit : Nat)
  | liveCandles (instId bar : Text) (limit : Nat)
  | ticker (instId : Text)
  | freshQuoteUsdRate (instrument : ValidatedTradingInstrument)
  | balances
  | spotTradeFee (instId : Text)
  | openOrders (instId : Text)
  | orderHistory (instId : Text)
  | orderFills (instId : Text)
  | openAlgoOrders (instId : Text)
  | algoOrderHistory (instId : Text)
  | placeOrder (instId : Text) (side : OrderSide) (kind : OrderKind) (size : Decimal)
      (price : Option Decimal) (clientOrderId : Text)
  | cancelOrder (instId clientOrderId : Text)
  | amendOrder (instId : Text) (side : OrderSide) (clientOrderId : Text)
      (newSize newPrice : Option Decimal)
  | placeTriggerOrder (instId : Text) (side : OrderSide) (size triggerPrice : Decimal)
      (clientOrderId : Text)
  | cancelAlgoOrder (instId algoId : Text)
  | order (instId clientOrderId : Text)
  deriving DecidableEq, Repr

/-- The acknowledgement of a trigger order names the algo order. -/
structure OkxAlgoOrderAck where
  algoId : Text
  deriving DecidableEq, Repr

/-- What a call returns; acknowledgements nothing reads are left out. -/
def Call.Reply (F : Type) : Call → Type
  | .instruments _ => OkxInstrument
  | .candles _ _ _ => List (MarketBar F)
  | .liveCandles _ _ _ => List (MarketBar F)
  | .ticker _ => OkxTicker
  | .freshQuoteUsdRate _ => ValidatedQuoteUsdRate
  | .balances => List OkxBalance
  | .spotTradeFee _ => OkxTradeFeeRate
  | .openOrders _ => List OkxOrder
  | .orderHistory _ => List OkxOrder
  | .orderFills _ => List OkxFill
  | .openAlgoOrders _ => List OkxAlgoOrder
  | .algoOrderHistory _ => List OkxAlgoOrder
  | .placeOrder _ _ _ _ _ _ => Unit
  | .cancelOrder _ _ => Unit
  | .amendOrder _ _ _ _ _ => Unit
  | .placeTriggerOrder _ _ _ _ _ => OkxAlgoOrderAck
  | .cancelAlgoOrder _ _ => Unit
  | .order _ _ => Option OkxOrder

structure OkxClient (F W : Type) where
  perform : (c : Call) → W → Except Stop (c.Reply F) × W
  nowMs : W → Int × W
  nextSequence : W → Nat × W

end OkxTrading
