import OkxTrading.Market.CandleCache
import OkxTrading.Okx.Evidence

/-!
# What the calls of the client share

The caches of `OkxRestClient` and of `OkxMarketDataCache` that decide whether an order may be sent,
with the synchronous functions of `okx/client.rs` on them, and the handling of a public instrument
message in `okx/websocket.rs`.

* `InstrumentHints` — the cached instrument messages, by their instrument.
* `ClientState` — the caches, the clock, and what the engine has been told.
* `latchInstrumentMetadataFailure`, `ensureFreshInstrumentHintMatchesSnapshot` — the metadata latch.
* `rememberValidatedCapabilityGeneration` — the last check before a generation is cached.
* `applyPublicInstruments` — a public instrument message.
-/

namespace OkxTrading

open Effect

/-! ## Instrument messages -/

/-- A numeric text of an instrument message, read as a decimal by the client and as an `f64` where
the message is checked. -/
structure HintText where
  decimal : DecimalText
  /-- It parses to a finite positive `f64`. -/
  positiveF64 : Bool
  deriving DecidableEq, Repr

/-- An optional timestamp text. -/
inductive TimestampText where
  | blank
  | malformed
  | value (tsMs : ℤ)
  deriving DecidableEq, Repr

/-- `OkxWebsocketInstrumentUpdate`: a row of the instruments channel, as the checks read it. -/
structure OkxWebsocketInstrumentUpdate where
  instType : Text
  instId : Text
  groupId : Text
  state : Text
  tickSize : HintText
  lotSize : HintText
  minSize : HintText
  maxLimitSize : HintText
  maxLimitAmount : HintText
  maxMarketSize : HintText
  maxMarketAmount : HintText
  maxTriggerSize : HintText
  continuousTradingSwitchTime : TimestampText
  /-- The `effTime` of each entry. -/
  upcomingChanges : List TimestampText
  deriving DecidableEq, Repr

namespace OkxWebsocketInstrumentUpdate

variable (self : OkxWebsocketInstrumentUpdate)

/-- Only a live instrument may be traded. -/
def ensureLive : Result Unit :=
  ensure (self.state = liveText) "OKX WebSocket instrument state is not live"

end OkxWebsocketInstrumentUpdate

/-- A timestamp that may be left blank. -/
def parseOptionalTsMs (context : Message) : TimestampText → Result (Option ℤ)
  | .blank => .ok none
  | .malformed => .error ("invalid " ++ context)
  | .value tsMs => do
      ensure (0 < tsMs) (context ++ " must be positive")
      return some tsMs

/-- The loop over the announced changes: the latest time there is. -/
def latestEffectiveTime (sourceTsMs : Option ℤ) : List TimestampText → Result (Option ℤ)
  | [] => .ok sourceTsMs
  | change :: rest => do
      match ← parseOptionalTsMs "OKX WebSocket instrument upcChg effTime" change with
      | none => latestEffectiveTime sourceTsMs rest
      | some effectiveTime =>
          latestEffectiveTime (some (sourceTsMs.elim effectiveTime (max · effectiveTime))) rest

/-- `instrument_update_source_ts_ms`: the latest of the times a row carries. -/
def instrumentUpdateSourceTsMs (instrument : OkxWebsocketInstrumentUpdate) :
    Result (Option ℤ) := do
  let sourceTsMs ← parseOptionalTsMs "OKX WebSocket instrument contTdSwTime"
    instrument.continuousTradingSwitchTime
  latestEffectiveTime sourceTsMs instrument.upcomingChanges

/-- A field that has to be a finite number above zero. -/
def ensurePositiveF64 (context : Message) (value : HintText) : Result Unit :=
  ensure value.positiveF64 (context ++ " must be finite and positive")

/-- The same for a field that may be left blank. -/
def ensureOptionalPositiveF64 (context : Message) (value : HintText) : Result Unit :=
  if value.decimal.isBlank then .ok () else ensurePositiveF64 context value

/-- `validate_instrument_update`, every check in the order of the source. -/
def validateInstrumentUpdate (instrument : OkxWebsocketInstrumentUpdate) : Result Unit := do
  ensure (instrument.instType = spotText) "OKX WebSocket instrument has non-SPOT instType"
  ensure (Text.isBlank instrument.instId = false ∧ Text.isTrimmed instrument.instId)
    "OKX WebSocket instrument update omitted trimmed instId"
  ensure (Text.isBlank instrument.state = false ∧ Text.isTrimmed instrument.state)
    "OKX WebSocket instrument omitted trimmed state"
  ensurePositiveF64 "OKX WebSocket instrument tickSz" instrument.tickSize
  ensurePositiveF64 "OKX WebSocket instrument lotSz" instrument.lotSize
  ensurePositiveF64 "OKX WebSocket instrument minSz" instrument.minSize
  ensureOptionalPositiveF64 "OKX WebSocket instrument maxLmtSz" instrument.maxLimitSize
  ensureOptionalPositiveF64 "OKX WebSocket instrument maxLmtAmt" instrument.maxLimitAmount
  ensureOptionalPositiveF64 "OKX WebSocket instrument maxMktSz" instrument.maxMarketSize
  ensureOptionalPositiveF64 "OKX WebSocket instrument maxMktAmt" instrument.maxMarketAmount
  ensureOptionalPositiveF64 "OKX WebSocket instrument maxTriggerSz" instrument.maxTriggerSize

/-- A row of the instruments channel with its time and when it arrived. -/
structure OkxInstrumentUpdateHint where
  instrument : OkxWebsocketInstrumentUpdate
  sourceTsMs : Option ℤ
  receivedAt : Instant
  deriving DecidableEq, Repr

/-- `instruments_by_inst_id`: every hint stands under its own instrument. -/
structure InstrumentHints where
  entries : AList fun _ : Text => OkxInstrumentUpdateHint
  keyed : ∀ instId hint, entries.lookup instId = some hint → hint.instrument.instId = instId

namespace InstrumentHints

def empty : InstrumentHints := ⟨∅, fun _ _ h => by simp at h⟩

/-- The hint of an instrument. -/
def get? (self : InstrumentHints) (instId : Text) : Option OkxInstrumentUpdateHint :=
  self.entries.lookup instId

theorem instId_of_get? {self : InstrumentHints} {instId : Text} {hint : OkxInstrumentUpdateHint}
    (h : self.get? instId = some hint) : hint.instrument.instId = instId :=
  self.keyed instId hint h

/-- A hint goes under the instrument it names. -/
def insert (self : InstrumentHints) (hint : OkxInstrumentUpdateHint) : InstrumentHints where
  entries := self.entries.insert hint.instrument.instId hint
  keyed := by
    intro instId found h
    by_cases heq : instId = hint.instrument.instId
    · rw [heq, AList.lookup_insert] at h
      cases h
      exact heq.symm
    · rw [AList.lookup_insert_ne heq] at h
      exact self.keyed instId found h

/-- The cache without an instrument. -/
def erase (self : InstrumentHints) (key : Text) : InstrumentHints where
  entries := self.entries.erase key
  keyed := by
    intro instId found h
    by_cases heq : instId = key
    · rw [heq, AList.lookup_erase] at h
      cases h
    · rw [AList.lookup_erase_ne heq] at h
      exact self.keyed instId found h

@[simp] theorem get?_insert (self : InstrumentHints) (hint : OkxInstrumentUpdateHint) :
    (self.insert hint).get? hint.instrument.instId = some hint := AList.lookup_insert _

end InstrumentHints

/-- The order the hash map of the hints is walked in. -/
structure InstrumentHintWalk where
  walk : InstrumentHints → List (Sigma fun _ : Text => OkxInstrumentUpdateHint)
  perm : ∀ hints, (walk hints).Perm hints.entries.entries

/-- `evict_oldest_market_data_hints_except`, for at most `rounds` evictions. -/
def evictRoundsExcept (walk : InstrumentHintWalk) (protectedKeys : List Text) :
    ℕ → InstrumentHints → InstrumentHints
  | 0, hints => hints
  | rounds + 1, hints =>
      if okxMarketDataCacheMaxHintsPerKind < hints.entries.entries.length then
        let oldestUnprotected := ((walk.walk hints).filter fun entry =>
          decide (entry.1 ∉ protectedKeys)).argmin fun entry => entry.2.receivedAt
        match oldestUnprotected.or ((walk.walk hints).argmin fun entry => entry.2.receivedAt) with
        | none => hints
        | some oldest => evictRoundsExcept walk protectedKeys rounds (hints.erase oldest.1)
      else hints

/-- The oldest hints of instruments that nobody protects leave until the cache fits. -/
def evictOldestMarketDataHintsExcept (walk : InstrumentHintWalk) (protectedKeys : List Text)
    (hints : InstrumentHints) : InstrumentHints :=
  evictRoundsExcept walk protectedKeys hints.entries.entries.length hints

/-- What became of an instrument hint. -/
inductive OkxInstrumentHintDisposition where
  | cached
  | restRevalidationRequired
  | ignoredStale
  deriving DecidableEq, Repr

/-- Only a stale hint asks for no new reading over REST. -/
def OkxInstrumentHintDisposition.requiresRestRevalidation : OkxInstrumentHintDisposition → Bool
  | .cached => true
  | .restRevalidationRequired => true
  | .ignoredStale => false

/-- `insert_instrument_hint`: a hint without a time, or older than the one held, is not kept. -/
def insertInstrumentHint (walk : InstrumentHintWalk) (protectedInstrumentIds : List Text)
    (hints : InstrumentHints) (hint : OkxInstrumentUpdateHint) :
    OkxInstrumentHintDisposition × InstrumentHints :=
  if hint.sourceTsMs.isNone then (.restRevalidationRequired, hints)
  else
    let currentTsMs := (hints.get? hint.instrument.instId).bind (·.sourceTsMs)
    if shouldIgnoreHint currentTsMs hint.sourceTsMs then (.ignoredStale, hints)
    else (.cached, evictOldestMarketDataHintsExcept walk protectedInstrumentIds (hints.insert hint))

/-! ## The state -/

/-- The parts of `OkxClient` that its calls share, with the clock. -/
structure ClientState where
  now : Instant
  marketDataMaxStaleness : ℕ
  instrumentHints : InstrumentHints
  protectedInstrumentIds : List Text
  instrumentSnapshots : Text → Option OkxInstrument
  instrumentMetadataSafetyLatches : Text → Option Message
  validatedCapabilityGenerations : Text → Option ValidatedCapabilityGeneration
  accountLevelDiagnostic : Option AccountLevelDiagnosticSnapshot
  /-- The engine may dispatch: all mandatory streams are ready, no reconciliation is due. -/
  dispatchReady : Bool
  /-- The `InstrumentUpdated` events the engine has not taken yet. -/
  publicRuntimeEvents : List Text
  /-- The instruments whose update was dispatched to a strategy. -/
  dispatchedUpdates : List Text

/-- A client at the start of its process. -/
def ClientState.new (now marketDataMaxStaleness : ℕ) (protectedInstrumentIds : List Text) :
    ClientState where
  now := now
  marketDataMaxStaleness := marketDataMaxStaleness
  instrumentHints := .empty
  protectedInstrumentIds := protectedInstrumentIds
  instrumentSnapshots := fun _ => none
  instrumentMetadataSafetyLatches := fun _ => none
  validatedCapabilityGenerations := fun _ => none
  accountLevelDiagnostic := none
  dispatchReady := false
  publicRuntimeEvents := []
  dispatchedUpdates := []

/-- A synchronous function of the client. -/
abbrev ClientProg (α : Type) := Prog Message ClientState α

/-- A check that does not read the state. -/
def orStop {α : Type} (x : Result α) : ClientProg α := fun s => (x, s)

namespace ClientState

variable (self : ClientState)

/-- `fresh_instrument`. -/
def freshInstrument (instId : Text) : Option OkxWebsocketInstrumentUpdate :=
  (self.instrumentHints.get? instId).bind fun hint =>
    if self.now - hint.receivedAt ≤ self.marketDataMaxStaleness then some hint.instrument else none

/-- The latch of one instrument. -/
def latch (instId : Text) (reason : Message) : ClientState :=
  { self with instrumentMetadataSafetyLatches :=
      Function.update self.instrumentMetadataSafetyLatches instId (some reason) }

/-- The state after an instrument was remembered. -/
def withSnapshot (instrument : OkxInstrument) : ClientState :=
  { self with instrumentSnapshots :=
      Function.update self.instrumentSnapshots instrument.instId (some instrument) }

/-- The state after a validation was remembered. -/
def withGeneration (generation : ValidatedCapabilityGeneration) : ClientState :=
  let instId := generation.context.instrument.instId
  { self with validatedCapabilityGenerations :=
      Function.update self.validatedCapabilityGenerations instId (some generation) }

/-- The state after every validation was revoked. -/
def withoutGenerations : ClientState :=
  { self with validatedCapabilityGenerations := fun _ => none }

/-- The state after an account level was observed. -/
def withDiagnostic (snapshot : AccountLevelDiagnosticSnapshot) : ClientState :=
  { self with accountLevelDiagnostic := some snapshot }

end ClientState

/-! ## The metadata latch -/

/-- The error of a call that meets the latch. -/
def latchIsSet (reason : Message) : Message :=
  "OKX instrument metadata safety latch is set: " ++ reason ++
    "; process restart requires fresh authoritative instrument reconciliation"

/-- A call about a latched instrument fails. -/
def ensureInstrumentMetadataSafetyLatchClear (instId : Text) : ClientProg Unit := do
  match (← Prog.get).instrumentMetadataSafetyLatches instId with
  | some reason => Prog.stop (latchIsSet reason)
  | none => return ()

/-- The first reason stays; the error names it. -/
def latchInstrumentMetadataFailure (instId : Text) (error : Message) : ClientProg Message := do
  match (← Prog.get).instrumentMetadataSafetyLatches instId with
  | some reason => return latchIsSet reason
  | none => do
      Prog.modify fun s => s.latch instId error
      return latchIsSet error

/-- `parse_positive_decimal_field`. -/
def parsePositiveDecimalField (label : Message) : DecimalText → Result Decimal
  | .empty => .error (label ++ " must not be empty")
  | .blank => .error (label ++ " must not be empty")
  | .malformed => .error (label ++ " must be a decimal value")
  | .value d => do
      ensure (0 < d) (label ++ " must be positive")
      return d

theorem parsePositiveDecimalField_eq_ok {label : Message} {text : DecimalText} {d : Decimal} :
    parsePositiveDecimalField label text = .ok d ↔ text = .value d ∧ 0 < d := by
  cases text with
  | value v =>
      simp only [parsePositiveDecimalField, bind_eq_ok, ensure_eq_ok, pure_eq_ok,
        DecimalText.value.injEq]
      constructor
      · rintro ⟨_, hv, rfl⟩
        exact ⟨rfl, hv⟩
      · rintro ⟨rfl, hd⟩
        exact ⟨(), hd, rfl⟩
  | empty => simp [parsePositiveDecimalField]
  | blank => simp [parsePositiveDecimalField]
  | malformed => simp [parsePositiveDecimalField]

/-- A decimal of a hint that may be left blank. -/
def parseOptionalInstrumentHintDecimal (context : Message) (value : DecimalText) :
    Result (Option Decimal) := do
  if value.isBlank then return none
  return some (← parsePositiveDecimalField context value)

/-- `ensure_required_instrument_hint_decimal_matches`, after the reads of both sides. -/
def ensureRequiredHintMatches (field : Message) (snapshot : Result Decimal) (hint : HintText) :
    Result Unit := do
  ensure ((← snapshot) =
      (← parsePositiveDecimalField ("OKX WebSocket instrument " ++ field) hint.decimal))
    ("OKX WebSocket instrument hint changed " ++ field ++ " from REST snapshot")

/-- `ensure_optional_instrument_hint_decimal_matches`, after the reads of both sides. -/
def ensureOptionalHintMatches (field : Message) (snapshot : Result (Option Decimal))
    (hint : HintText) : Result Unit := do
  let snapshot ← snapshot
  match ← parseOptionalInstrumentHintDecimal ("OKX WebSocket instrument " ++ field)
      hint.decimal with
  | none => return ()
  | some hint =>
      ensure (snapshot = some hint)
        ("OKX WebSocket instrument hint changed " ++ field ++ " from REST snapshot")

/-- `ensure_instrument_hint_matches_rest_snapshot`: field by field, as far as the hint carries
them. -/
def ensureInstrumentHintMatchesRestSnapshot (hint : OkxWebsocketInstrumentUpdate)
    (snapshot : OkxInstrument) : Result Unit := do
  ensure (hint.instId = snapshot.instId)
    "OKX WebSocket instrument hint returned another instrument than the REST snapshot"
  ensureSpotInstType hint.instType "WebSocket instrument hint"
  ensure (hint.groupId = (← snapshot.feeGroupId))
    "OKX WebSocket instrument groupId disagrees with REST snapshot"
  ensureRequiredHintMatches "tickSz" snapshot.tickSize hint.tickSize
  ensureRequiredHintMatches "lotSz" snapshot.lotSize hint.lotSize
  ensureRequiredHintMatches "minSz" snapshot.minSize hint.minSize
  ensureOptionalHintMatches "maxLmtSz" snapshot.maxLimitSize hint.maxLimitSize
  ensureOptionalHintMatches "maxLmtAmt" snapshot.maxLimitAmount hint.maxLimitAmount
  ensureOptionalHintMatches "maxMktSz" snapshot.maxMarketSizeUsdt hint.maxMarketSize
  ensureOptionalHintMatches "maxMktAmt" snapshot.maxMarketAmount hint.maxMarketAmount
  ensureOptionalHintMatches "maxTriggerSz" snapshot.maxTriggerSize hint.maxTriggerSize

/-- Latch a failed check and stop with the error of the latch. -/
def latchOnError (instId : Text) (check : Result Unit) : ClientProg Unit :=
  match check with
  | .ok () => return ()
  | .error error => do Prog.stop (← latchInstrumentMetadataFailure instId error)

/-- The fresh hint against the remembered snapshot; a contradiction sets the latch. -/
def ensureFreshInstrumentHintMatchesSnapshot (instId : Text) : ClientProg Unit := do
  ensureInstrumentMetadataSafetyLatchClear instId
  match (← Prog.get).freshInstrument instId with
  | none => return ()
  | some instrument => do
      latchOnError instId instrument.ensureLive
      match (← Prog.get).instrumentSnapshots instrument.instId with
      | none => return ()
      | some snapshot =>
          latchOnError instId (ensureInstrumentHintMatchesRestSnapshot instrument snapshot)

/-- The fresh hint against the snapshot just read; a contradiction sets the latch. -/
def ensureFreshInstrumentHintMatchesRestSnapshot (snapshot : OkxInstrument) : ClientProg Unit := do
  ensureInstrumentMetadataSafetyLatchClear snapshot.instId
  match (← Prog.get).freshInstrument snapshot.instId with
  | none => return ()
  | some instrument => do
      latchOnError snapshot.instId instrument.ensureLive
      latchOnError snapshot.instId (ensureInstrumentHintMatchesRestSnapshot instrument snapshot)

/-- A snapshot is kept for later comparisons. -/
def rememberInstrumentSnapshot (instrument : OkxInstrument) : ClientProg Unit :=
  Prog.modify fun s => s.withSnapshot instrument

/-! ## Capability generations -/

/-- Nothing counts as validated any more. -/
def revokeCapabilityGenerations : ClientProg Unit :=
  Prog.modify ClientState.withoutGenerations

def diagnosticChanged : Message :=
  "OKX account-level diagnostic changed; capability readiness was revoked and requires a fresh " ++
    "complete evidence generation"

def diagnosticNotObserved : Message :=
  "OKX account-level diagnostic was not observed at the authenticated REST response boundary"

def diagnosticChangedBeforeValidation : Message :=
  "OKX account-level diagnostic changed before capability validation; readiness was revoked and " ++
    "requires a fresh complete evidence generation"

/-- An account level that differs from the one before revokes every validation and fails. -/
def observeAccountLevelDiagnostic (accountConfig : OkxAccountConfig) :
    ClientProg AccountLevelDiagnosticSnapshot := do
  let snapshot ← orStop (AccountLevelDiagnosticSnapshot.observe accountConfig (← Prog.get).now)
  let changed := (← Prog.get).accountLevelDiagnostic.any fun current =>
    decide (current.value ≠ snapshot.value)
  Prog.modify fun s => s.withDiagnostic snapshot
  if changed then
    revokeCapabilityGenerations
    Prog.stop diagnosticChanged
  else return snapshot

/-- The level observed when the answer came, which has to be that of the answer. -/
def matchingObservedAccountLevelDiagnostic (accountConfig : OkxAccountConfig) :
    ClientProg AccountLevelDiagnosticSnapshot := do
  let expected ← orStop (AccountLevelDiagnostic.parse accountConfig.accountLevel)
  match (← Prog.get).accountLevelDiagnostic with
  | none => Prog.stop diagnosticNotObserved
  | some snapshot =>
      if snapshot.value ≠ expected then
        revokeCapabilityGenerations
        Prog.stop diagnosticChangedBeforeValidation
      else return snapshot

/-- A generation may only replace one of the same tuple. -/
def ensureSameTuple (existing generation : ValidatedCapabilityGeneration) : Result Unit := do
  let message : Message := "OKX validated trading tuple changed during startup"
  ensure (existing.requested = generation.requested ∧
    existing.context.instType = generation.context.instType ∧
    existing.context.tdMode = generation.context.tdMode ∧
    existing.context.tradeQuoteCcy = generation.context.tradeQuoteCcy) message
  ensure ((← existing.context.instrument.feeGroupId) =
    (← generation.context.instrument.feeGroupId)) message
  ensure ((← existing.context.instrument.websocketInstIdCode) =
    (← generation.context.instrument.websocketInstIdCode)) message

/-- `remember_validated_capability_generation`: only for the level observed last. -/
def rememberValidatedCapabilityGeneration (generation : ValidatedCapabilityGeneration) :
    ClientProg Unit := do
  let instId := generation.context.instrument.instId
  match (← Prog.get).accountLevelDiagnostic with
  | none => Prog.stop "OKX account-level diagnostic was not observed before capability caching"
  | some current => do
      orStop (ensure (current.value = generation.accountLevel.value)
        "OKX account-level diagnostic changed before capability caching")
      match (← Prog.get).validatedCapabilityGenerations instId with
      | none => pure ()
      | some existing => do
          orStop (ensureSameTuple existing generation)
          orStop (existing.context.ensurePublicRefreshMatches generation.context.instrument)
      Prog.modify fun s => s.withGeneration generation

/-- What was validated of an instrument, if anything. -/
def validatedTradingInstrumentIfPresent (instId : Text) :
    ClientProg (Option ValidatedTradingContext) := do
  return ((← Prog.get).validatedCapabilityGenerations instId).map (·.context)

/-- The trade mode and quote currency that orders are sent with. -/
def validatedOrderRoute (instId : Text) : ClientProg (Text × Text) := do
  match ← validatedTradingInstrumentIfPresent instId with
  | some validated => return (validated.tdMode.asOkx, validated.tradeQuoteCcy)
  | none => Prog.stop "OKX trading tuple was not validated before order mutation"

/-- The fee group of the validated instrument, or of the remembered snapshot. -/
def instrumentFeeGroupId (instId : Text) : ClientProg Text := do
  match ← validatedTradingInstrumentIfPresent instId with
  | some validated => orStop validated.instrument.feeGroupId
  | none =>
      match (← Prog.get).instrumentSnapshots instId with
      | some snapshot => orStop snapshot.feeGroupId
      | none => Prog.stop "OKX instrument fee group was not validated before the fee-rate request"

/-- The instrument type for a request of fees; the group has to be the validated one. -/
def instrumentTypeForFeeGroup (instId expectedGroupId : Text) : ClientProg Text := do
  match ← validatedTradingInstrumentIfPresent instId with
  | some validated => do
      orStop (do ensure ((← validated.instrument.feeGroupId) = expectedGroupId)
                  "OKX requested fee group contradicts validated groupId")
      return validated.instType.asOkx
  | none =>
      match (← Prog.get).instrumentSnapshots instId with
      | some snapshot => do
          orStop (ensureSpotInstType snapshot.instType "instrument fee-group authority")
          orStop (do ensure ((← snapshot.feeGroupId) = expectedGroupId)
                      "OKX requested fee group contradicts instrument groupId")
          return snapshot.instType
      | none => Prog.stop "OKX instrument metadata was not validated before the fee-rate request"

/-! ## What the segments of the capabilities do -/

section Capabilities

variable (s : ClientState)

/-- What `observeAccountLevelDiagnostic` does with the level it has read. -/
def ClientState.observed (snapshot : AccountLevelDiagnosticSnapshot) :
    Result AccountLevelDiagnosticSnapshot × ClientState :=
  if s.accountLevelDiagnostic.any fun current => decide (current.value ≠ snapshot.value) then
    (.error diagnosticChanged,
      (s.withDiagnostic snapshot).withoutGenerations)
  else (.ok snapshot, s.withDiagnostic snapshot)

theorem observeAccountLevelDiagnostic_eq (config : OkxAccountConfig) :
    observeAccountLevelDiagnostic config s =
      match AccountLevelDiagnosticSnapshot.observe config s.now with
      | .error e => (.error e, s)
      | .ok snapshot => s.observed snapshot := by
  have hget : (Prog.get : ClientProg ClientState) s = (.ok s, s) := rfl
  unfold observeAccountLevelDiagnostic
  rw [Prog.bind_apply_ok hget]
  cases hobserve : AccountLevelDiagnosticSnapshot.observe config s.now with
  | error e => rfl
  | ok snapshot =>
      have hok : orStop (.ok snapshot : Result AccountLevelDiagnosticSnapshot) s =
        (.ok snapshot, s) := rfl
      rw [Prog.bind_apply_ok hok, Prog.bind_apply_ok hget]
      show _ = s.observed snapshot
      unfold ClientState.observed
      cases s.accountLevelDiagnostic.any fun current =>
        decide (current.value ≠ snapshot.value) <;> rfl

/-- What `matchingObservedAccountLevelDiagnostic` does with the level it expects. -/
def ClientState.matchingObserved (expected : AccountLevelDiagnostic) :
    Option AccountLevelDiagnosticSnapshot → Result AccountLevelDiagnosticSnapshot × ClientState
  | none =>
      (.error diagnosticNotObserved, s)
  | some snapshot =>
      if snapshot.value ≠ expected then
        (.error diagnosticChangedBeforeValidation,
          s.withoutGenerations)
      else (.ok snapshot, s)

theorem matchingObservedAccountLevelDiagnostic_eq (config : OkxAccountConfig) :
    matchingObservedAccountLevelDiagnostic config s =
      match AccountLevelDiagnostic.parse config.accountLevel with
      | .error e => (.error e, s)
      | .ok expected => s.matchingObserved expected s.accountLevelDiagnostic := by
  have hget : (Prog.get : ClientProg ClientState) s = (.ok s, s) := rfl
  unfold matchingObservedAccountLevelDiagnostic
  cases AccountLevelDiagnostic.parse config.accountLevel with
  | error e => rfl
  | ok expected =>
      have hok : orStop (.ok expected : Result AccountLevelDiagnostic) s = (.ok expected, s) := rfl
      rw [Prog.bind_apply_ok hok, Prog.bind_apply_ok hget]
      cases s.accountLevelDiagnostic with
      | none => rfl
      | some snapshot =>
          unfold ClientState.matchingObserved
          by_cases hvalue : snapshot.value ≠ expected
          · simp only [if_pos hvalue]
            rfl
          · simp only [if_neg hvalue]
            rfl

/-- What stands in the way of caching a generation. -/
def cachingCheck (diagnostic : Option AccountLevelDiagnosticSnapshot)
    (existing : Option ValidatedCapabilityGeneration)
    (generation : ValidatedCapabilityGeneration) : Result Unit :=
  match diagnostic with
  | none => .error "OKX account-level diagnostic was not observed before capability caching"
  | some current => do
      ensure (current.value = generation.accountLevel.value)
        "OKX account-level diagnostic changed before capability caching"
      match existing with
      | none => return ()
      | some existing => do
          ensureSameTuple existing generation
          existing.context.ensurePublicRefreshMatches generation.context.instrument

theorem rememberValidatedCapabilityGeneration_eq (generation : ValidatedCapabilityGeneration) :
    rememberValidatedCapabilityGeneration generation s =
      match cachingCheck s.accountLevelDiagnostic
          (s.validatedCapabilityGenerations generation.context.instrument.instId) generation with
      | .error e => (.error e, s)
      | .ok () => (.ok (), s.withGeneration generation) := by
  have hget : (Prog.get : ClientProg ClientState) s = (.ok s, s) := rfl
  unfold rememberValidatedCapabilityGeneration cachingCheck
  rw [Prog.bind_apply_ok hget]
  cases s.accountLevelDiagnostic with
  | none => rfl
  | some current =>
      show Prog.bind (orStop (ensure _ _)) _ s = _
      dsimp only
      cases hvalue : ensure (current.value = generation.accountLevel.value)
          "OKX account-level diagnostic changed before capability caching" with
      | error e => rfl
      | ok u =>
          have hok : orStop (.ok u : Result Unit) s = (.ok u, s) := rfl
          refine (Prog.bind_apply_ok hok).trans ((Prog.bind_apply_ok hget).trans ?_)
          cases s.validatedCapabilityGenerations generation.context.instrument.instId with
          | none => rfl
          | some existing =>
              show Prog.bind (orStop (ensureSameTuple existing generation)) _ s = _
              simp only [ok_bind]
              cases ensureSameTuple existing generation with
              | error e => rfl
              | ok u =>
                  simp only [ok_bind]
                  show Prog.bind (orStop (existing.context.ensurePublicRefreshMatches _)) _ s = _
                  cases existing.context.ensurePublicRefreshMatches
                    generation.context.instrument <;> rfl

end Capabilities

/-! ## Public messages -/

/-- A message of the `instruments` channel; rows that do not parse are `none`. -/
structure PublicInstrumentsMessage where
  instType : Option Text
  rows : Option (List OkxWebsocketInstrumentUpdate)
  receivedAt : Instant

/-- The arm of `parse_public_market_data_message` for the `instruments` channel. -/
def parsePublicInstruments (message : PublicInstrumentsMessage) :
    Result (List OkxInstrumentUpdateHint) := do
  let some instType := message.instType
    | .error "OKX public WebSocket instrument data omitted arg instType"
  ensure (instType = spotText) "OKX public WebSocket instruments arg has non-SPOT instType"
  let some rows := message.rows | .error "failed parsing OKX public instrument update"
  rows.mapM fun instrument => do
    ensure (instrument.instType = instType)
      "OKX public WebSocket instrument did not match arg instType"
    let sourceTsMs ← instrumentUpdateSourceTsMs instrument
    validateInstrumentUpdate instrument
    return { instrument, sourceTsMs, receivedAt := message.receivedAt }

/-- One hint of a message, with the event it calls for. -/
def applyInstrumentHint (walk : InstrumentHintWalk) (s : ClientState)
    (hint : OkxInstrumentUpdateHint) : ClientState :=
  let (disposition, hints) :=
    insertInstrumentHint walk s.protectedInstrumentIds s.instrumentHints hint
  { s with
    instrumentHints := hints
    publicRuntimeEvents := if disposition.requiresRestRevalidation
      then s.publicRuntimeEvents ++ [hint.instrument.instId] else s.publicRuntimeEvents }

/-- The hints of a message one after another. -/
def applyInstrumentHints (walks : ℕ → InstrumentHintWalk) (s : ClientState) :
    List OkxInstrumentUpdateHint → ClientState
  | [] => s
  | hint :: rest =>
      applyInstrumentHints (fun n => walks (n + 1)) (applyInstrumentHint (walks 0) s hint) rest

/-- A message with an error in it changes nothing. -/
def applyPublicInstruments (walks : ℕ → InstrumentHintWalk) (message : PublicInstrumentsMessage)
    (s : ClientState) : ClientState :=
  match parsePublicInstruments message with
  | .error _ => s
  | .ok hints => applyInstrumentHints walks s hints

end OkxTrading
