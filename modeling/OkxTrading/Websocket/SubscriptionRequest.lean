import Mathlib.Data.Char
import Mathlib.Data.Finset.Basic
import Mathlib.Data.List.Lex
import Mathlib.Data.List.Sort
import OkxTrading.Websocket.PrivateEvents

/-!
# Subscription requests

What the streams of `okx/websocket.rs` and `okx/websocket/private.rs` subscribe to: the arguments of
the request, and the acknowledgements that are expected for it, which the code builds apart.

* `OkxPublicMarketSubscription`, `OkxPrivateSubscription` — the fields of the stream configurations
  that matter here, with what their constructors check.
* `publicMarketSubscription`, `privateStreamSubscription` — the requests.
* `publicMarketSubscriptionAcks`, `privateStreamSubscriptionAcks` — the expected acknowledgements.
* `publicMarketSubscription_acks`, `privateStreamSubscription_acks` — they agree.
-/

namespace OkxTrading

open Effect

def okxPublicTickersChannel : Text := "tickers".toList
def okxPublicInstrumentsChannel : Text := "instruments".toList
def okxLevel2BooksChannel : Text := "books".toList

/-! ## Configurations -/

/-- The strings of a `BTreeSet`, in its order. -/
def inOrder {α : Type} [LinearOrder α] (values : List α) : List α :=
  values.dedup.insertionSort (· ≤ ·)

theorem nodup_inOrder {α : Type} [LinearOrder α] (values : List α) : (inOrder values).Nodup :=
  (List.perm_insertionSort (· ≤ ·) values.dedup).nodup_iff.2 values.nodup_dedup

theorem mem_inOrder {α : Type} [LinearOrder α] {values : List α} {a : α} :
    a ∈ inOrder values ↔ a ∈ values := by
  rw [inOrder, (List.perm_insertionSort (· ≤ ·) values.dedup).mem_iff, List.mem_dedup]

/-- `validate_spot_instrument_id`.  An identifier that is not ASCII is refused whatever its length,
so that the length in characters is the one in bytes. -/
def isSpotInstrumentId (value : Text) : Bool :=
  let parts := value.splitOn '-'
  let base := parts[0]?.getD []
  let quote := parts[1]?.getD []
  let validAsset (asset : Text) := asset.all fun ch => ch.isUpper || ch.isDigit
  decide (value ≠ [] ∧ value.length ≤ 32) && value.all (fun ch => decide (ch.toNat < 128)) &&
    !value.any isWhitespace && decide (parts[2]? = none ∧ base ≠ [] ∧ quote ≠ []) &&
    validAsset base && validAsset quote && decide (base ≠ quote)

/-- A channel `okx_public_candle_bar_for_channel` knows. -/
abbrev CandleChannel := { channel : Text // (okxPublicCandleBarForChannel channel).isOk = true }

/-- A candle channel that the cache can read. -/
def parseCandleChannel (channel : Text) : Result CandleChannel :=
  if Text.isBlank channel = true ∨ Text.isTrimmed channel = false then
    .error "OKX public WebSocket candle channel must be non-empty and trimmed"
  else if h : (okxPublicCandleBarForChannel channel).isOk = true then .ok ⟨channel, h⟩
  else .error "OKX public WebSocket candle channel is not supported by this runtime"

/-- The fields of `OkxPublicMarketStreamConfig` a subscription is made of. -/
structure OkxPublicMarketSubscription where
  instrumentIds : List Text
  instrumentType : Text
  subscribeTickers : Bool
  subscribeInstruments : Bool
  candleChannels : List CandleChannel
  level2InstrumentIds : List Text
  instruments_nodup : instrumentIds.Nodup
  instruments_ne_nil : instrumentIds ≠ []
  instrumentType_eq : instrumentType = spotText
  candleChannels_nodup : candleChannels.Nodup
  level2_nodup : level2InstrumentIds.Nodup
  subscribes : (subscribeTickers || subscribeInstruments || !candleChannels.isEmpty ||
    !level2InstrumentIds.isEmpty) = true

theorem inOrder_ne_nil {α : Type} [LinearOrder α] {values : List α} (h : values ≠ []) :
    inOrder values ≠ [] := by
  obtain ⟨a, ha⟩ := List.exists_mem_of_ne_nil values h
  exact List.ne_nil_of_mem (mem_inOrder.2 ha)

/-- `with_reconnect_policy_and_level2`, with its checks. -/
def OkxPublicMarketSubscription.withReconnectPolicyAndLevel2 (url : Text)
    (instrumentIds : List Text) (subscribeTickers subscribeInstruments : Bool)
    (candleChannels level2InstrumentIds : List Text) : Result OkxPublicMarketSubscription := do
  ensure (Text.isBlank url = false) "OKX public WebSocket URL must not be empty"
  if hids : instrumentIds = [] then
    .error "OKX public WebSocket stream requires at least one instrument"
  else
    instrumentIds.forM fun instrumentId =>
      ensure (isSpotInstrumentId instrumentId = true)
        "OKX public WebSocket instrument id must be canonical SPOT"
    let channels ← candleChannels.mapM parseCandleChannel
    level2InstrumentIds.forM fun instrumentId => do
      ensure (isSpotInstrumentId instrumentId = true)
        "OKX Level-2 instrument id must be canonical SPOT"
      ensure (instrumentId ∈ instrumentIds)
        "OKX Level-2 instrument must also belong to the stream instrument set"
    if hsubscribes : (subscribeTickers || subscribeInstruments || !(inOrder channels).isEmpty ||
        !(inOrder level2InstrumentIds).isEmpty) = true then
      return {
        instrumentIds := inOrder instrumentIds
        instrumentType := spotText
        subscribeTickers
        subscribeInstruments
        candleChannels := inOrder channels
        level2InstrumentIds := inOrder level2InstrumentIds
        instruments_nodup := nodup_inOrder _
        instruments_ne_nil := inOrder_ne_nil hids
        instrumentType_eq := rfl
        candleChannels_nodup := nodup_inOrder _
        level2_nodup := nodup_inOrder _
        subscribes := hsubscribes }
    else
      .error "OKX WebSocket market stream must subscribe to tickers, instruments, candles, or books"

/-- The domains of the API. -/
inductive OkxApiDomain where
  | eea
  | global
  | usAu
  deriving DecidableEq, Repr

/-- The EEA domain takes only SPOT. -/
def OkxAlgoSubscriptionSelector.fromApiDomain : OkxApiDomain → OkxAlgoSubscriptionSelector
  | .eea => .spot
  | .global | .usAu => .any

/-- Whether the fills channel is asked for. -/
inductive OkxPrivateFillsSubscription where
  | enabled
  | disabled
  deriving DecidableEq, Repr

/-- The fields of `OkxPrivateStreamConfig` a subscription is made of. -/
structure OkxPrivateSubscription where
  kind : OkxPrivateStreamKind
  instrumentIds : List Text
  instrumentType : Text
  algoSubscriptionSelector : OkxAlgoSubscriptionSelector
  fillsSubscription : OkxPrivateFillsSubscription
  instruments_nodup : instrumentIds.Nodup
  instruments_ne_nil : instrumentIds ≠ []
  instrumentType_eq : instrumentType = spotText

namespace OkxPrivateSubscription

/-- `with_reconnect_policy`, with its checks. -/
def withReconnectPolicy (url : Text) (kind : OkxPrivateStreamKind) (instrumentIds : List Text)
    (apiDomain : OkxApiDomain) : Result OkxPrivateSubscription := do
  ensure (Text.isBlank url = false) "OKX private WebSocket URL must not be empty"
  if hids : instrumentIds = [] then
    .error "OKX private WebSocket stream requires at least one instrument"
  else
    instrumentIds.forM fun instrumentId =>
      ensure (Text.isBlank instrumentId = false ∧ Text.isTrimmed instrumentId = true)
        "OKX private WebSocket instrument id must be non-empty and trimmed"
    return {
      kind
      instrumentIds := inOrder instrumentIds
      instrumentType := spotText
      algoSubscriptionSelector := .fromApiDomain apiDomain
      fillsSubscription := match kind with
        | .trading => .enabled
        | .business => .disabled
      instruments_nodup := nodup_inOrder _
      instruments_ne_nil := inOrder_ne_nil hids
      instrumentType_eq := rfl }

/-- The same stream without the fills channel. -/
def withoutOptionalFills (self : OkxPrivateSubscription) : OkxPrivateSubscription :=
  { self with fillsSubscription := .disabled }

/-- `OkxPrivateEventAuthority::from`. -/
def eventAuthority (self : OkxPrivateSubscription) : OkxPrivateEventAuthority where
  instrumentIds := self.instrumentIds
  instrumentType := self.instrumentType
  algoSubscriptionSelector := self.algoSubscriptionSelector
  streamKind := self.kind

end OkxPrivateSubscription

/-! ## Requests -/

/-- An argument of a request, and the acknowledgement of one. -/
structure OkxWebsocketSubscriptionAck where
  channel : Text
  instId : Option Text
  instType : Option Text
  deriving DecidableEq, Repr

/-- A request has arguments of the same three fields. -/
abbrev OkxWebsocketSubscribeArg := OkxWebsocketSubscriptionAck

namespace OkxWebsocketSubscriptionAck

/-- The argument of the account channel. -/
def account : OkxWebsocketSubscribeArg := ⟨okxPrivateAccountChannel, none, none⟩

/-- An argument with an instrument and its type. -/
def typed (channel instId instType : Text) : OkxWebsocketSubscribeArg :=
  ⟨channel, some instId, some instType⟩

/-- An argument with an instrument. -/
def instrument (channel instId : Text) : OkxWebsocketSubscribeArg := ⟨channel, some instId, none⟩

end OkxWebsocketSubscriptionAck

/-- A request to subscribe. -/
structure OkxWebsocketSubscribeRequest where
  op : Text
  args : List OkxWebsocketSubscribeArg
  deriving DecidableEq, Repr

def subscribeOp : Text := "subscribe".toList

/-- The arguments about one instrument. -/
def publicInstrumentArgs (subscribeTickers : Bool) (candleChannels : List CandleChannel)
    (instrumentId : Text) : List OkxWebsocketSubscribeArg :=
  (if subscribeTickers then [⟨okxPublicTickersChannel, some instrumentId, none⟩] else []) ++
    candleChannels.map fun channel => ⟨channel.1, some instrumentId, none⟩

/-- `public_market_subscription`: the arguments of a public stream. -/
def publicMarketSubscription (instrumentIds : List Text) (instrumentType : Text)
    (subscribeTickers subscribeInstruments : Bool) (candleChannels : List CandleChannel)
    (level2InstrumentIds : List Text) : Result OkxWebsocketSubscribeRequest := do
  ensure (instrumentIds ≠ [])
    "OKX public WebSocket market subscription requires at least one instrument"
  ensure (instrumentType = spotText)
    "current OKX public WebSocket subscription admits only validated SPOT"
  ensure ((subscribeTickers || subscribeInstruments || !candleChannels.isEmpty ||
      !level2InstrumentIds.isEmpty) = true)
    "OKX public WebSocket market subscription requires tickers, instruments, candles, or books"
  return ⟨subscribeOp,
    (if subscribeInstruments then [⟨okxPublicInstrumentsChannel, none, some instrumentType⟩]
      else []) ++
    (instrumentIds.flatMap (publicInstrumentArgs subscribeTickers candleChannels) ++
      level2InstrumentIds.map (.instrument okxLevel2BooksChannel))⟩

/-- The arguments about one instrument. -/
def privateInstrumentArgs (config : OkxPrivateSubscription) (instrumentId : Text) :
    List OkxWebsocketSubscribeArg :=
  .typed okxPrivateOrdersChannel instrumentId config.instrumentType ::
    if config.fillsSubscription = .enabled then
      [.instrument okxPrivateFillsChannel instrumentId] else []

/-- `private_stream_subscription`: the arguments of a private stream. -/
def privateStreamSubscription (config : OkxPrivateSubscription) :
    Result OkxWebsocketSubscribeRequest := do
  ensure (config.instrumentIds ≠ [])
    "OKX private WebSocket subscription requires at least one instrument"
  ensure (config.instrumentType = spotText)
    "current OKX private WebSocket subscription admits only validated SPOT"
  match config.kind with
  | .trading =>
      return ⟨subscribeOp, .account :: config.instrumentIds.flatMap (privateInstrumentArgs config)⟩
  | .business =>
      return ⟨subscribeOp, config.instrumentIds.map fun instrumentId =>
        .typed okxBusinessAlgoOrdersChannel instrumentId config.algoSubscriptionSelector.asOkx⟩

/-! ## Expected acknowledgements -/

/-- The acknowledgements a public stream waits for. -/
def publicMarketSubscriptionAcks (config : OkxPublicMarketSubscription) :
    Finset OkxWebsocketSubscriptionAck :=
  let acks : Finset OkxWebsocketSubscriptionAck :=
    if config.subscribeInstruments then
      insert ⟨okxPublicInstrumentsChannel, none, some config.instrumentType⟩ ∅ else ∅
  let acks := config.instrumentIds.foldl (fun acks instrumentId =>
    let acks := if config.subscribeTickers then
      insert ⟨okxPublicTickersChannel, some instrumentId, none⟩ acks else acks
    config.candleChannels.foldl (fun acks channel =>
      insert ⟨channel.1, some instrumentId, none⟩ acks) acks) acks
  config.level2InstrumentIds.foldl (fun acks instrumentId =>
    insert ⟨okxLevel2BooksChannel, some instrumentId, none⟩ acks) acks

/-- The acknowledgements a private stream waits for. -/
def privateStreamSubscriptionAcks (config : OkxPrivateSubscription) :
    Finset OkxWebsocketSubscriptionAck :=
  match config.kind with
  | .trading =>
      config.instrumentIds.foldl (fun acks instrumentId =>
        let acks := insert
          ⟨okxPrivateOrdersChannel, some instrumentId, some config.instrumentType⟩ acks
        if config.fillsSubscription = .enabled then
          insert ⟨okxPrivateFillsChannel, some instrumentId, none⟩ acks else acks)
        (insert ⟨okxPrivateAccountChannel, none, none⟩ ∅)
  | .business =>
      config.instrumentIds.foldl (fun acks instrumentId =>
        insert ⟨okxBusinessAlgoOrdersChannel, some instrumentId,
          some config.algoSubscriptionSelector.asOkx⟩ acks) ∅

/-! ## Requests and expectations agree -/

section Agree

variable {α β : Type} [DecidableEq β]

/-- A loop whose rounds each add some elements adds them all. -/
theorem foldl_toFinset {added : α → List β} {round : Finset β → α → Finset β}
    (hround : ∀ acks a, round acks a = acks ∪ (added a).toFinset) (values : List α)
    (acks : Finset β) : values.foldl round acks = acks ∪ (values.flatMap added).toFinset := by
  induction values generalizing acks with
  | nil => simp
  | cons a rest ih =>
    rw [List.foldl_cons, ih, hround, List.flatMap_cons, List.toFinset_append, Finset.union_assoc]

theorem foldl_insert_toFinset (f : α → β) (values : List α) (acks : Finset β) :
    values.foldl (fun acks a => insert (f a) acks) acks = acks ∪ (values.map f).toFinset := by
  have hround : ∀ (acks : Finset β) a, insert (f a) acks = acks ∪ [f a].toFinset := by
    intro acks a
    ext b
    simp
  rw [foldl_toFinset hround, List.map_eq_flatMap]

end Agree

/-- A request and the acknowledgements expected for it. -/
structure RequestAgrees (request : OkxWebsocketSubscribeRequest)
    (acks : Finset OkxWebsocketSubscriptionAck) : Prop where
  nodup : request.args.Nodup
  expected : acks = request.args.toFinset

/-- No candle channel is one of the other channels. -/
theorem CandleChannel.ne_of_isOk_eq_false (channel : CandleChannel) {other : Text}
    (h : (okxPublicCandleBarForChannel other).isOk = false) : channel.1 ≠ other := by
  intro heq
  have hsupported := channel.2
  rw [heq, h] at hsupported
  cases hsupported

theorem tickers_not_candles :
    (okxPublicCandleBarForChannel okxPublicTickersChannel).isOk = false := by
  decide

theorem books_not_candles : (okxPublicCandleBarForChannel okxLevel2BooksChannel).isOk = false := by
  decide

/-- What an argument about an instrument is. -/
theorem mem_publicInstrumentArgs {subscribeTickers : Bool} {candleChannels : List CandleChannel}
    {instrumentId : Text} {arg : OkxWebsocketSubscribeArg}
    (h : arg ∈ publicInstrumentArgs subscribeTickers candleChannels instrumentId) :
    arg.instId = some instrumentId ∧
      (arg.channel = okxPublicTickersChannel ∨
        ∃ channel ∈ candleChannels, arg.channel = channel.1) := by
  rcases List.mem_append.1 h with h | h
  · split at h
    · obtain rfl := List.mem_singleton.1 h
      exact ⟨rfl, .inl rfl⟩
    · exact absurd h List.not_mem_nil
  · obtain ⟨channel, hchannel, rfl⟩ := List.mem_map.1 h
    exact ⟨rfl, .inr ⟨channel, hchannel, rfl⟩⟩

theorem nodup_publicInstrumentArgs (subscribeTickers : Bool) {candleChannels : List CandleChannel}
    (hnodup : candleChannels.Nodup) (instrumentId : Text) :
    (publicInstrumentArgs subscribeTickers candleChannels instrumentId).Nodup := by
  refine List.nodup_append.2 ⟨?_, ?_, ?_⟩
  · split
    · exact List.nodup_singleton _
    · exact List.nodup_nil
  · refine hnodup.map fun first second h => Subtype.ext ?_
    exact congrArg OkxWebsocketSubscriptionAck.channel h
  · rintro arg harg other hother rfl
    obtain ⟨channel, -, rfl⟩ := List.mem_map.1 hother
    split at harg
    · have heq := congrArg OkxWebsocketSubscriptionAck.channel (List.mem_singleton.1 harg)
      exact channel.ne_of_isOk_eq_false tickers_not_candles heq
    · exact absurd harg List.not_mem_nil

/-- Arguments about different instruments differ. -/
theorem nodup_flatMap_args {added : Text → List OkxWebsocketSubscribeArg}
    (hadded : ∀ instrumentId, (added instrumentId).Nodup)
    (hinst : ∀ instrumentId, ∀ arg ∈ added instrumentId, arg.instId = some instrumentId)
    {instrumentIds : List Text} (hnodup : instrumentIds.Nodup) :
    (instrumentIds.flatMap added).Nodup := by
  refine List.nodup_flatMap.2 ⟨fun instrumentId _ => hadded instrumentId, ?_⟩
  refine hnodup.imp fun {first second} hne arg hfirst hsecond => hne ?_
  exact Option.some.inj ((hinst first arg hfirst).symm.trans (hinst second arg hsecond))

theorem nodup_map_args {make : Text → OkxWebsocketSubscribeArg}
    (hmake : ∀ instrumentId, (make instrumentId).instId = some instrumentId)
    {instrumentIds : List Text} (hnodup : instrumentIds.Nodup) :
    (instrumentIds.map make).Nodup := by
  refine hnodup.map fun first second h => Option.some.inj ?_
  rw [← hmake first, ← hmake second, h]

/-- **A public request is made of the acknowledgements that are expected for it, each once.** -/
theorem publicMarketSubscription_acks (config : OkxPublicMarketSubscription) :
    ∃ request, publicMarketSubscription config.instrumentIds config.instrumentType
        config.subscribeTickers config.subscribeInstruments config.candleChannels
        config.level2InstrumentIds = .ok request ∧
      RequestAgrees request (publicMarketSubscriptionAcks config) := by
  refine ⟨_, by
    simp only [publicMarketSubscription, bind_eq_ok, ensure_eq_ok, exists_const, pure_eq_ok]
    exact ⟨config.instruments_ne_nil, config.instrumentType_eq, config.subscribes, rfl⟩, ?_, ?_⟩
  · refine List.nodup_append.2 ⟨?_, List.nodup_append.2 ⟨?_, ?_, ?_⟩, ?_⟩
    · split
      · exact List.nodup_singleton _
      · exact List.nodup_nil
    · exact nodup_flatMap_args
        (nodup_publicInstrumentArgs config.subscribeTickers config.candleChannels_nodup)
        (fun _ _ harg => (mem_publicInstrumentArgs harg).1) config.instruments_nodup
    · exact nodup_map_args (fun _ => rfl) config.level2_nodup
    · rintro arg harg other hother rfl
      obtain ⟨_, -, rfl⟩ := List.mem_map.1 hother
      obtain ⟨_, -, hargs⟩ := List.mem_flatMap.1 harg
      rcases (mem_publicInstrumentArgs hargs).2 with h | ⟨channel, -, h⟩
      · exact absurd h (show okxLevel2BooksChannel ≠ okxPublicTickersChannel by decide)
      · exact channel.ne_of_isOk_eq_false books_not_candles h.symm
    · -- The instruments channel is the only one without an instrument.
      rintro arg harg other hother rfl
      split at harg
      · obtain rfl := List.mem_singleton.1 harg
        rcases List.mem_append.1 hother with h | h
        · obtain ⟨_, -, hargs⟩ := List.mem_flatMap.1 h
          cases (mem_publicInstrumentArgs hargs).1
        · obtain ⟨_, -, heq⟩ := List.mem_map.1 h
          cases heq
      · exact absurd harg List.not_mem_nil
  · have hround : ∀ (acks : Finset OkxWebsocketSubscriptionAck) (instrumentId : Text),
        config.candleChannels.foldl (fun acks channel =>
            insert ⟨channel.1, some instrumentId, none⟩ acks)
          (if config.subscribeTickers then
            insert ⟨okxPublicTickersChannel, some instrumentId, none⟩ acks else acks) =
        acks ∪ (publicInstrumentArgs config.subscribeTickers config.candleChannels
          instrumentId).toFinset := by
      intro acks instrumentId
      rw [foldl_insert_toFinset fun channel : CandleChannel =>
        (⟨channel.1, some instrumentId, none⟩ : OkxWebsocketSubscriptionAck)]
      rw [publicInstrumentArgs, List.toFinset_append, ← Finset.union_assoc]
      split <;> simp
    simp only [publicMarketSubscriptionAcks]
    rw [foldl_insert_toFinset fun instrumentId =>
      (⟨okxLevel2BooksChannel, some instrumentId, none⟩ : OkxWebsocketSubscriptionAck),
      foldl_toFinset hround, List.toFinset_append, List.toFinset_append, ← Finset.union_assoc]
    congr 2
    split <;> rfl

/-- **A private request is made of the acknowledgements that are expected for it, each once.** -/
theorem privateStreamSubscription_acks (config : OkxPrivateSubscription) :
    ∃ request, privateStreamSubscription config = .ok request ∧
      RequestAgrees request (privateStreamSubscriptionAcks config) := by
  cases hkind : config.kind with
  | trading =>
    have hinst : ∀ instrumentId, ∀ arg ∈ privateInstrumentArgs config instrumentId,
        arg.instId = some instrumentId := by
      intro instrumentId arg harg
      unfold privateInstrumentArgs at harg
      split at harg <;> simp only [List.mem_cons, List.not_mem_nil, or_false] at harg
      · rcases harg with rfl | rfl <;> rfl
      · rw [harg]
        rfl
    refine ⟨_, by
      simp only [privateStreamSubscription, bind_eq_ok, ensure_eq_ok, exists_const, hkind,
        pure_eq_ok]
      exact ⟨config.instruments_ne_nil, config.instrumentType_eq, rfl⟩, ?_, ?_⟩
    · refine List.nodup_cons.2 ⟨fun hmem => ?_, ?_⟩
      · obtain ⟨instrumentId, -, h⟩ := List.mem_flatMap.1 hmem
        cases hinst instrumentId _ h
      · refine nodup_flatMap_args (fun instrumentId => ?_) hinst config.instruments_nodup
        unfold privateInstrumentArgs
        split
        · refine List.nodup_cons.2 ⟨fun h => ?_, List.nodup_singleton _⟩
          exact absurd (congrArg OkxWebsocketSubscriptionAck.channel (List.mem_singleton.1 h))
            (show okxPrivateOrdersChannel ≠ okxPrivateFillsChannel by decide)
        · exact List.nodup_singleton _
    · have hround : ∀ (acks : Finset OkxWebsocketSubscriptionAck) (instrumentId : Text),
          (if config.fillsSubscription = .enabled then
            insert ⟨okxPrivateFillsChannel, some instrumentId, none⟩
              (insert ⟨okxPrivateOrdersChannel, some instrumentId, some config.instrumentType⟩ acks)
          else insert ⟨okxPrivateOrdersChannel, some instrumentId, some config.instrumentType⟩
            acks) =
          acks ∪ (privateInstrumentArgs config instrumentId).toFinset := by
        intro acks instrumentId
        unfold privateInstrumentArgs
        ext arg
        split <;>
          simp [OkxWebsocketSubscriptionAck.typed, OkxWebsocketSubscriptionAck.instrument]
        all_goals tauto
      simp only [privateStreamSubscriptionAcks, hkind]
      rw [foldl_toFinset hround, List.toFinset_cons, Finset.insert_union, Finset.empty_union]
      rfl
  | business =>
    refine ⟨_, by
      simp only [privateStreamSubscription, bind_eq_ok, ensure_eq_ok, exists_const, hkind,
        pure_eq_ok]
      exact ⟨config.instruments_ne_nil, config.instrumentType_eq, rfl⟩, ?_, ?_⟩
    · exact nodup_map_args (fun _ => rfl) config.instruments_nodup
    · simp only [privateStreamSubscriptionAcks, hkind]
      rw [foldl_insert_toFinset fun instrumentId => (⟨okxBusinessAlgoOrdersChannel,
        some instrumentId, some config.algoSubscriptionSelector.asOkx⟩ :
          OkxWebsocketSubscriptionAck), Finset.empty_union]
      rfl

end OkxTrading
