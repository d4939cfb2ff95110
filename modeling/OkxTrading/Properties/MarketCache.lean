import OkxTrading.Properties.CandleDelivery
import OkxTrading.Properties.Level2Range
import OkxTrading.Properties.Level2State
import OkxTrading.Properties.MetadataLatch
import OkxTrading.Properties.StreamLifecycle
import OkxTrading.Websocket.RuntimeStreams

/-!
# The market data cache over any run

All streams of the runtime share one cache.  Whatever the exchange sends, and however sessions end
and begin, the cache keeps within its bounds, every row in it has passed its checks, every book is
one of the two coherent states, and a book is valid only while a session reads that asked for it.

* `OkxMarketDataHint.Checked` — what the parser has checked of a row.
* `MarketSound` — the invariant; `MarketSound.hint` — one row.
* `marketCache_sound` — every run.
* `level2_features_need_session` — the features of a book need a session that reads.
* `protected_instrument_kept` — the hint of a protected instrument is never evicted.
-/

namespace OkxTrading

open Collections Effect

variable {F : Type} [F64 F]

/-! ## Parsed rows -/

/-- What the parser has checked of a row. -/
def OkxMarketDataHint.Checked : OkxMarketDataHint F → Prop
  | .ticker hint => hint.ticker.validatePrices = .ok () ∧ hint.ticker.instType = spotText
  | .candle hint => hint.Stamped
  | .instrument hint => validateInstrumentUpdate hint.instrument = .ok ()
  | .level2 update => update.data.Validated

section Parse

variable {numerics : MarketNumerics F} {receivedAt parsedAt : Instant}
  {message : OkxWebsocketSubscriptionMessage OkxPublicData} {hints : List (OkxMarketDataHint F)}

theorem checked_of_parseTickerRow {arg : OkxWebsocketSubscriptionAck} {row : OkxWebsocketTickerData}
    {hint : OkxMarketTickerHint} (h : parseTickerRow receivedAt arg row = .ok hint) :
    hint.ticker.validatePrices = .ok () ∧ hint.ticker.instType = spotText := by
  simp only [parseTickerRow, bind_eq_ok, ensure_eq_ok, pure_eq_ok] at h
  obtain ⟨_, -, ⟨⟩, hprices, _, htype, _, -, rfl⟩ := h
  exact ⟨hprices, htype⟩

theorem checked_of_parsePublicInstruments {message : PublicInstrumentsMessage}
    {hints : List OkxInstrumentUpdateHint} (h : parsePublicInstruments message = .ok hints) :
    ∀ hint ∈ hints, validateInstrumentUpdate hint.instrument = .ok () := by
  unfold parsePublicInstruments at h
  split at h
  · simp only [bind_eq_ok] at h
    obtain ⟨_, -, h⟩ := h
    split at h
    · intro hint hmem
      obtain ⟨instrument, -, hrow⟩ := mem_of_mapM h hint hmem
      simp only [bind_eq_ok, pure_eq_ok] at hrow
      obtain ⟨_, -, _, -, ⟨⟩, hvalid, rfl⟩ := hrow
      exact hvalid
    · cases h
  · cases h

omit [F64 F] in
theorem checked_of_parseBooksArm {arg : OkxWebsocketSubscriptionAck} {data : OkxPublicData}
    {update : OkxLevel2Update}
    (h : parseBooksArm numerics receivedAt parsedAt arg data = .ok update) :
    update.data.Validated := by
  unfold parseBooksArm at h
  split at h
  · simp only [bind_eq_ok] at h
    obtain ⟨_, -, h⟩ := h
    split at h
    · simp only [bind_eq_ok, pure_eq_ok] at h
      obtain ⟨message, hmessage, rfl⟩ := h
      cases hparsed :
          parseBooksMessage numerics.decimals _ okxLevel2BooksChannel _ _ data.books with
      | error e => rw [hparsed] at hmessage; cases hmessage
      | ok parsed =>
        rw [hparsed] at hmessage
        cases hmessage
        exact (parsed_of_parseBooksMessage hparsed).validated
    · cases h
  · cases h

/-- **Every row of a message is checked.** -/
theorem checked_of_parsePublicMarketData
    (h : parsePublicMarketData numerics receivedAt parsedAt message = .ok hints) :
    ∀ hint ∈ hints, hint.Checked := by
  simp only [parsePublicMarketData, bind_eq_ok] at h
  obtain ⟨_, -, h⟩ := h
  split_ifs at h
  · cases h; simp
  · split at h
    · split at h
      · rename_i arg harg
        unfold parsePublicData at h
        intro hint hmem
        split_ifs at h with htickers hcandles hinstruments hbooks
        · simp only [parseTickerArm, bind_eq_ok, pure_eq_ok] at h
          obtain ⟨rows, hrows, rfl⟩ := h
          obtain ⟨row, hrow, rfl⟩ := List.mem_map.1 hmem
          split at hrows
          · obtain ⟨_, -, hparsed⟩ := mem_of_mapM hrows row hrow
            exact checked_of_parseTickerRow hparsed
          · cases hrows
        · simp only [bind_eq_ok, pure_eq_ok] at h
          obtain ⟨rows, hrows, rfl⟩ := h
          obtain ⟨row, hrow, rfl⟩ := List.mem_map.1 hmem
          exact (mem_parseCandleArm hrows hrow).1
        · simp only [bind_eq_ok, pure_eq_ok] at h
          obtain ⟨rows, hrows, rfl⟩ := h
          obtain ⟨row, hrow, rfl⟩ := List.mem_map.1 hmem
          exact checked_of_parsePublicInstruments hrows row hrow
        · simp only [bind_eq_ok, pure_eq_ok] at h
          obtain ⟨update, hupdate, rfl⟩ := h
          rw [List.mem_singleton.1 hmem]
          exact checked_of_parseBooksArm hupdate
      · cases h
    · cases h; simp

end Parse

/-! ## Instrument hints -/

section Instruments

variable {walk : InstrumentHintWalk} {protectedKeys : List Text} {hints : InstrumentHints}
  {rounds : ℕ}
  {instId : Text} {hint : OkxInstrumentUpdateHint}

theorem InstrumentHints.get?_erase {key : Text} : (hints.erase key).get? instId =
    if instId = key then none else hints.get? instId := by
  unfold get? erase
  split_ifs with heq
  · rw [heq, AList.lookup_erase]
  · exact AList.lookup_erase_ne heq

variable (walk protectedKeys rounds) in
/-- While the table is too large, one of its entries is the oldest that may go. -/
theorem evictRoundsExcept_succ
    (h : okxMarketDataCacheMaxHintsPerKind < hints.entries.entries.length) : ∃ oldest,
    oldest ∈ hints.entries.entries ∧
      (oldest.1 ∈ protectedKeys → ∀ entry ∈ hints.entries.entries, entry.1 ∈ protectedKeys) ∧
      evictRoundsExcept walk protectedKeys (rounds + 1) hints =
        evictRoundsExcept walk protectedKeys rounds (hints.erase oldest.1) := by
  have hmem : ∀ entry, entry ∈ walk.walk hints ↔ entry ∈ hints.entries.entries := fun _ =>
    (walk.perm hints).mem_iff
  have hne : walk.walk hints ≠ [] := by
    intro hempty
    have hlength := (walk.perm hints).length_eq
    rw [hempty, List.length_nil] at hlength
    omega
  cases hunprotected :
      ((walk.walk hints).filter fun entry => decide (entry.1 ∉ protectedKeys)).argmin
      fun entry => entry.2.receivedAt with
  | some oldest =>
    obtain ⟨hwalk, hfree⟩ := List.mem_filter.1 (List.argmin_mem hunprotected)
    refine ⟨oldest, (hmem _).1 hwalk, fun hprotected => ?_, ?_⟩
    · exact absurd hprotected (of_decide_eq_true hfree)
    · simp only [evictRoundsExcept, if_pos h, hunprotected, Option.some_or]
  | none =>
    have hall : ∀ entry ∈ hints.entries.entries, entry.1 ∈ protectedKeys := by
      intro entry hentry
      have hempty := List.filter_eq_nil_iff.1 (List.argmin_eq_none.1 hunprotected) entry
        ((hmem entry).2 hentry)
      simpa using hempty
    cases holdest : (walk.walk hints).argmin fun entry => entry.2.receivedAt with
    | none => exact absurd (List.argmin_eq_none.1 holdest) hne
    | some oldest =>
      refine ⟨oldest, (hmem _).1 (List.argmin_mem holdest), fun _ => hall, ?_⟩
      simp only [evictRoundsExcept, if_pos h, hunprotected, holdest, Option.none_or]

theorem evictRoundsExcept_of_length_le
    (h : hints.entries.entries.length ≤ okxMarketDataCacheMaxHintsPerKind) :
    evictRoundsExcept walk protectedKeys rounds hints = hints := by
  cases rounds with
  | zero => rfl
  | succ rounds => exact if_neg (not_lt.2 h)

/-- Eviction changes no hint that stays. -/
theorem get?_evictRoundsExcept
    (h : (evictRoundsExcept walk protectedKeys rounds hints).get? instId = some hint) :
    hints.get? instId = some hint := by
  induction rounds generalizing hints with
  | zero => exact h
  | succ rounds ih =>
    rcases le_or_gt hints.entries.entries.length okxMarketDataCacheMaxHintsPerKind
      with hfits | hfull
    · rwa [evictRoundsExcept_of_length_le hfits] at h
    · obtain ⟨oldest, -, -, hstep⟩ := evictRoundsExcept_succ walk protectedKeys rounds hfull
      have hleft := ih (hstep ▸ h)
      rw [InstrumentHints.get?_erase] at hleft
      split_ifs at hleft
      exact hleft

theorem length_erase_oldest {oldest : Sigma fun _ : Text => OkxInstrumentUpdateHint}
    (h : oldest ∈ hints.entries.entries) :
    (hints.erase oldest.1).entries.entries.length = hints.entries.entries.length - 1 :=
  length_erase_of_mem (List.mem_map_of_mem h)

theorem length_evictRoundsExcept
    (h : hints.entries.entries.length ≤ rounds + okxMarketDataCacheMaxHintsPerKind) :
    (evictRoundsExcept walk protectedKeys rounds hints).entries.entries.length ≤
      okxMarketDataCacheMaxHintsPerKind := by
  induction rounds generalizing hints with
  | zero => simpa only [evictRoundsExcept, Nat.zero_add] using h
  | succ rounds ih =>
    rcases le_or_gt hints.entries.entries.length okxMarketDataCacheMaxHintsPerKind
      with hfits | hfull
    · rwa [evictRoundsExcept_of_length_le hfits]
    · obtain ⟨oldest, hmem, -, hstep⟩ := evictRoundsExcept_succ walk protectedKeys rounds hfull
      rw [hstep]
      refine ih ?_
      rw [length_erase_oldest hmem]
      omega

/-- **The hint of a protected instrument stays** where the table has room for all of them. -/
theorem get?_evictRoundsExcept_protected
    (hprotected : protectedKeys.length ≤ okxMarketDataCacheMaxHintsPerKind)
    (hmem : instId ∈ protectedKeys) :
    (evictRoundsExcept walk protectedKeys rounds hints).get? instId = hints.get? instId := by
  induction rounds generalizing hints with
  | zero => rfl
  | succ rounds ih =>
    rcases le_or_gt hints.entries.entries.length okxMarketDataCacheMaxHintsPerKind
      with hfits | hfull
    · rw [evictRoundsExcept_of_length_le hfits]
    · obtain ⟨oldest, -, hall, hstep⟩ := evictRoundsExcept_succ walk protectedKeys rounds hfull
      rw [hstep, ih, InstrumentHints.get?_erase, if_neg]
      rintro rfl
      -- more keys than protected ones, and all of them protected
      have hsubset : hints.entries.keys ⊆ protectedKeys := by
        intro key hkey
        obtain ⟨entry, hentry, rfl⟩ := List.mem_map.1 hkey
        exact hall hmem entry hentry
      have hle := (hints.entries.nodupKeys.subperm hsubset).length_le
      simp only [List.keys, List.length_map] at hle
      omega

end Instruments

/-! ## The invariant -/

/-- The cache is within its bounds, its rows have passed their checks, and its books are
coherent. -/
structure MarketSound (ops : DecimalOps) (state : OkxMarketDataState F) : Prop where
  tickers : state.tickersByInstId.entries.length ≤ okxMarketDataCacheMaxHintsPerKind
  ticker : ∀ instId hint, state.tickersByInstId.lookup instId = some hint →
    hint.ticker.instId = instId ∧ hint.ticker.validatePrices = .ok () ∧
      hint.ticker.instType = spotText ∧ hint.sourceTsMs.isSome = true
  candles : Kept state.candlesByInstIdAndChannel
  instruments : state.instrumentsByInstId.entries.entries.length ≤ okxMarketDataCacheMaxHintsPerKind
  instrument : ∀ instId hint, state.instrumentsByInstId.get? instId = some hint →
    hint.instrument.instId = instId ∧ validateInstrumentUpdate hint.instrument = .ok () ∧
      hint.sourceTsMs.isSome = true
  book : ∀ instId book, state.level2BooksByInstrument.get? instId = some book →
    validateSpotInstrumentId instId = .ok () ∧ book.instrumentId = instId ∧
      OkxLevel2Book.Coherent ops book

section Sound

variable {ops : DecimalOps} {state : OkxMarketDataState F} {met : MarketInsertion F}

theorem shouldIgnoreHint_isSome {currentTsMs incomingTsMs : Option ℤ}
    (h : shouldIgnoreHint currentTsMs incomingTsMs = false) : incomingTsMs.isSome = true := by
  cases incomingTsMs with
  | none => cases h
  | some tsMs => rfl

omit [F64 F] in
theorem MarketSound.default : MarketSound ops (.default : OkxMarketDataState F) where
  tickers := Nat.zero_le _
  ticker _ _ h := by simp [OkxMarketDataState.default] at h
  candles := .empty
  instruments := Nat.zero_le _
  instrument _ _ h := by
    simp [OkxMarketDataState.default, InstrumentHints.empty, InstrumentHints.get?] at h
  book _ _ h := by simp [OkxMarketDataState.default] at h

omit [F64 F] in
/-- A book that is put under its own instrument. -/
theorem MarketSound.setBook (h : MarketSound ops state) {instId : Text} {book : OkxLevel2Book}
    (hcanonical : validateSpotInstrumentId instId = .ok ())
    (hinstrument : book.instrumentId = instId) (hcoherent : OkxLevel2Book.Coherent ops book) :
    MarketSound ops { state with
      level2BooksByInstrument := state.level2BooksByInstrument.insert instId book } where
  tickers := h.tickers
  ticker := h.ticker
  candles := h.candles
  instruments := h.instruments
  instrument := h.instrument
  book other found hfound := by
    rw [SortedMap.get?_insert] at hfound
    split_ifs at hfound with heq
    · cases hfound
      exact ⟨heq ▸ hcanonical, heq ▸ hinstrument, hcoherent⟩
    · exact h.book other found hfound

omit [F64 F] in
theorem MarketSound.ticker_insert (h : MarketSound ops state) {hint : OkxMarketTickerHint}
    (hprices : hint.ticker.validatePrices = .ok ()) (htype : hint.ticker.instType = spotText) :
    MarketSound ops (state.insertTicker met hint) := by
  unfold OkxMarketDataState.insertTicker
  dsimp only
  split_ifs with hignored
  · exact h
  · refine ⟨length_evictOldest.trans_le (min_le_right _ _), fun instId found hfound => ?_,
      h.candles, h.instruments, h.instrument,
      h.book⟩
    have hlookup := lookup_evictOldest hfound
    by_cases hkey : instId = hint.ticker.instId
    · rw [hkey, AList.lookup_insert, Option.some.injEq] at hlookup
      rw [← hlookup]
      exact ⟨hkey.symm, hprices, htype, shouldIgnoreHint_isSome (Bool.eq_false_iff.2 hignored)⟩
    · rw [AList.lookup_insert_ne hkey] at hlookup
      exact h.ticker instId found hlookup

omit [F64 F] in
theorem MarketSound.instrument_insert (h : MarketSound ops state) {hint : OkxInstrumentUpdateHint}
    (hvalid : validateInstrumentUpdate hint.instrument = .ok ()) :
    MarketSound ops (state.insertInstrument met hint).2 := by
  unfold OkxMarketDataState.insertInstrument insertInstrumentHint
  dsimp only
  split_ifs with hstamp hignored
  · exact h
  · exact h
  · refine ⟨h.tickers, h.ticker, h.candles, ?_, fun instId found hfound => ?_, h.book⟩
    · exact length_evictRoundsExcept (Nat.le_add_right _ _)
    · refine ⟨InstrumentHints.instId_of_get? hfound, ?_⟩
      have hlookup := get?_evictRoundsExcept hfound
      by_cases hkey : instId = hint.instrument.instId
      · rw [hkey, InstrumentHints.get?_insert, Option.some.injEq] at hlookup
        rw [← hlookup]
        exact ⟨hvalid, shouldIgnoreHint_isSome (Bool.eq_false_iff.2 hignored)⟩
      · have hother : (state.instrumentsByInstId.insert hint).get? instId =
            state.instrumentsByInstId.get? instId := AList.lookup_insert_ne hkey
        exact (h.instrument instId found (hother.symm.trans hlookup)).2

omit [F64 F] in
/-- A row of a book changes the book of its instrument at most, which the stream asked for. -/
theorem applyMarketHint_level2 {level2InstrumentIds : List Text} {update : OkxLevel2Update}
    {result : Result AppliedMarketData} {state' : OkxMarketDataState F}
    (h : applyMarketHint ops level2InstrumentIds met state (.level2 update) =
      some (result, state')) :
    state' = state ∨ ∃ book outcome book', update.instrumentId ∈ level2InstrumentIds ∧
      state.level2BooksByInstrument.get? update.instrumentId = some book ∧
      book.applyWithClock ops update met.bookAppliedAt met.featuresReadyAt = some (outcome, book') ∧
      state' = { state with level2BooksByInstrument :=
        state.level2BooksByInstrument.insert update.instrumentId book' } := by
  simp only [applyMarketHint] at h
  split at h
  · cases h
    exact .inl rfl
  · rename_i hrequested
    obtain ⟨⟨outcome, next⟩, hlevel2, heq⟩ := Option.map_eq_some_iff.1 h
    cases heq
    unfold OkxMarketDataState.applyLevel2 at hlevel2
    split at hlevel2
    · cases hlevel2
      exact .inl rfl
    · rename_i book hbook
      obtain ⟨⟨outcome', book'⟩, happly, heq⟩ := Option.map_eq_some_iff.1 hlevel2
      cases heq
      exact .inr ⟨book, outcome', book', not_not.1 hrequested, hbook, happly, rfl⟩

omit [F64 F] in
/-- Every row that is applied, or fails, keeps the cache sound. -/
theorem MarketSound.hint (h : MarketSound ops state) {level2InstrumentIds : List Text}
    {hint : OkxMarketDataHint F} (hchecked : hint.Checked) {result : Result AppliedMarketData}
    {state' : OkxMarketDataState F}
    (happly : applyMarketHint ops level2InstrumentIds met state hint = some (result, state')) :
    MarketSound ops state' := by
  cases hint with
  | ticker hint =>
    cases happly
    exact h.ticker_insert hchecked.1 hchecked.2
  | candle hint =>
    cases happly
    exact ⟨h.tickers, h.ticker, h.candles.insert hchecked met.candles, h.instruments, h.instrument,
      h.book⟩
  | instrument hint =>
    cases happly
    exact h.instrument_insert hchecked
  | level2 update =>
    rcases applyMarketHint_level2 happly with rfl | ⟨book, outcome, book', -, hbook, hbook', rfl⟩
    · exact h
    · obtain ⟨hcanonical, hinstrument, hcoherent⟩ := h.book _ _ hbook
      exact h.setBook hcanonical ((OkxLevel2Book.instrumentId_apply hbook').trans hinstrument)
        (OkxLevel2Book.coherent_apply hchecked hcoherent hbook')

end Sound

/-! ## Messages and runs -/

section Messages

variable {numerics : MarketNumerics F} {level2InstrumentIds : List Text}
  {state state' : OkxMarketDataState F}

omit [F64 F] in
/-- **What every checked row keeps, every message keeps.** -/
theorem applyMarketHints_keeps {P : OkxMarketDataState F → Prop} {ops : DecimalOps}
    (keeps : ∀ met state hint result state', OkxMarketDataHint.Checked hint → P state →
      applyMarketHint ops level2InstrumentIds met state hint = some (result, state') → P state')
    {met : ℕ → MarketInsertion F} {hints : List (OkxMarketDataHint F)} {result : Result Unit}
    {applied : AppliedMarketData} (hchecked : ∀ hint ∈ hints, hint.Checked) (h : P state)
    (happly : applyMarketHints ops level2InstrumentIds met state hints =
      some (result, applied, state')) : P state' := by
  induction hints generalizing met state result applied with
  | nil => cases happly; exact h
  | cons hint rest ih =>
    simp only [applyMarketHints, Option.bind_eq_bind, Option.bind_eq_some_iff] at happly
    obtain ⟨⟨outcome, next⟩, hnext, happly⟩ := happly
    have hkept := keeps _ _ _ _ _ (hchecked hint List.mem_cons_self) h hnext
    cases outcome with
    | error e => cases happly; exact hkept
    | ok first =>
      simp only [Option.bind_eq_some_iff] at happly
      obtain ⟨⟨result', more, last⟩, hlast, heq⟩ := happly
      cases heq
      exact ih (fun hint hmem => hchecked hint (List.mem_cons_of_mem _ hmem)) hkept hlast

theorem applyPublicMarketData_keeps {P : OkxMarketDataState F → Prop}
    (keeps : ∀ met state hint result state', OkxMarketDataHint.Checked hint → P state →
      applyMarketHint numerics.ops level2InstrumentIds met state hint = some (result, state') →
      P state')
    {meets : MarketMeets F} {receivedAt : Instant}
    {message : OkxWebsocketSubscriptionMessage OkxPublicData} {result : Result Unit}
    {applied : AppliedMarketData} (h : P state)
    (happly : applyPublicMarketData level2InstrumentIds numerics meets receivedAt state message =
      some (result, applied, state')) : P state' := by
  unfold applyPublicMarketData at happly
  cases hparse : parsePublicMarketData numerics receivedAt meets.parsedAt message with
  | error e =>
    rw [hparse] at happly
    cases happly
    exact h
  | ok hints =>
    rw [hparse] at happly
    exact applyMarketHints_keeps keeps (checked_of_parsePublicMarketData hparse) h happly

end Messages

/-- The instruments a stream asks the books of. -/
def RuntimeStreamConfig.level2InstrumentIds : RuntimeStreamConfig → List Text
  | .market config _ => config.level2InstrumentIds
  | .account _ _ => []

/-- What the parts of the tasks keep of the market data cache. -/
structure KeepsMarket {ι : Type} (numerics : MarketNumerics F) (streams : ι → RuntimeStreamConfig)
    (P : OkxMarketDataState F → Prop) : Prop where
  hint : ∀ level2InstrumentIds met state hint result state', OkxMarketDataHint.Checked hint →
    P state → applyMarketHint numerics.ops level2InstrumentIds met state hint =
      some (result, state') →
    P state'
  protect : ∀ i config policy state, streams i = .market config policy →
    config.subscribeInstruments = true → P state → P (state.protectInstruments config.instrumentIds)
  configure : ∀ state instrumentId, P state → validateSpotInstrumentId instrumentId = .ok () →
    state.level2BooksByInstrument.get? instrumentId = none →
    P { state with level2BooksByInstrument :=
      state.level2BooksByInstrument.insert instrumentId (.new instrumentId) }
  invalidate : ∀ state instrumentId book, P state →
    state.level2BooksByInstrument.get? instrumentId = some book →
    P { state with level2BooksByInstrument :=
      state.level2BooksByInstrument.insert instrumentId book.invalidate }

section KeepsMarket

variable {ι : Type} {numerics : MarketNumerics F} {streams : ι → RuntimeStreamConfig}
  {P : OkxMarketDataState F → Prop} {state : OkxMarketDataState F}

omit [F64 F] in
theorem KeepsMarket.configureAll (keeps : KeepsMarket numerics streams P) (h : P state)
    (instrumentIds : List Text) : P (state.configureLevel2Instruments instrumentIds).2 := by
  induction instrumentIds generalizing state with
  | nil => exact h
  | cons instrumentId rest ih =>
    unfold OkxMarketDataState.configureLevel2Instruments
    split
    · exact h
    · rename_i hcanonical
      split
      · exact ih h
      · rename_i hnone
        exact ih (keeps.configure _ _ h hcanonical hnone)

omit [F64 F] in
theorem KeepsMarket.invalidateAll (keeps : KeepsMarket numerics streams P) (h : P state)
    (instrumentIds : List Text) : P (state.invalidateLevel2ForReconnect instrumentIds) := by
  unfold OkxMarketDataState.invalidateLevel2ForReconnect
  induction instrumentIds generalizing state with
  | nil => exact h
  | cons instrumentId rest ih =>
    rw [List.foldl_cons]
    refine ih ?_
    split
    · rename_i hbook
      exact keeps.invalidate _ _ _ h hbook
    · exact h

theorem KeepsMarket.prepared (keeps : KeepsMarket numerics streams P) {i : ι}
    {caches : RuntimeCaches F} (h : P caches.market) :
    P (((streams i).task numerics).prepare caches).2.market := by
  cases hstream : streams i with
  | market config policy =>
    have hconfigured := keeps.configureAll h config.level2InstrumentIds
    simp only [RuntimeStreamConfig.task, marketStreamTask]
    split
    · rename_i hconfigure
      rw [hconfigure] at hconfigured
      exact hconfigured
    · rename_i hconfigure
      rw [hconfigure] at hconfigured
      dsimp only
      split_ifs with hinstruments
      · exact keeps.protect i config policy _ hstream hinstruments hconfigured
      · exact hconfigured
  | account config policy => exact h

theorem KeepsMarket.released (keeps : KeepsMarket numerics streams P) {i : ι}
    {caches : RuntimeCaches F} (h : P caches.market) :
    P (((streams i).task numerics).release caches).market := by
  cases streams i with
  | market config policy => exact keeps.invalidateAll h _
  | account config policy => exact h

/-- What a message of a stream applies to the cache. -/
theorem keeps_of_apply {caches : RuntimeCaches F} {config : RuntimeStreamConfig}
    {meets : RuntimeMeets F} {now : Instant} {message : OkxWebsocketSubscriptionMessage RuntimeData}
    {applied : AppliedMessage (RuntimeCaches F) RuntimeEvent}
    (keeps : ∀ met state hint result state', OkxMarketDataHint.Checked hint → P state →
      applyMarketHint numerics.ops config.level2InstrumentIds met state hint =
        some (result, state') →
      P state') (h : P caches.market)
    (happly : (config.task numerics).apply meets now caches message = some applied) :
    P applied.cache.market := by
  cases config with
  | market config policy =>
    obtain ⟨⟨result, data, market⟩, hmarket, rfl⟩ := Option.map_eq_some_iff.1 happly
    exact applyPublicMarketData_keeps keeps h hmarket
  | account config policy =>
    cases happly
    exact h

variable [DecidableEq ι] {capacity : RuntimeQueue → ℕ}
  {self next : StreamSystem ι RuntimeQueue (RuntimeCaches F) RuntimeEvent}

/-- **What the tasks keep of the market data cache holds after every run.** -/
theorem streamRun_market (keeps : KeepsMarket numerics streams P)
    {actions : List (StreamAction ι RuntimeQueue RuntimeData (RuntimeMeets F))}
    (h : streamRun (fun i => (streams i).task numerics) capacity self actions = some next)
    (start : P self.cache.market) : P next.cache.market :=
  streamRun_cache (P := fun caches => P caches.market) h start
    (fun _ _ hcaches => keeps.prepared hcaches)
    (fun _ _ _ _ _ _ hcaches happly => keeps_of_apply (keeps.hint _) hcaches happly)
    fun _ _ hcaches => keeps.released hcaches

omit [F64 F] [DecidableEq ι] in
theorem MarketSound.keeps : KeepsMarket numerics streams (MarketSound numerics.ops) where
  hint _ _ _ _ _ _ hchecked h happly := h.hint hchecked happly
  protect _ _ _ _ _ _ h := ⟨h.tickers, h.ticker, h.candles, h.instruments, h.instrument, h.book⟩
  configure _ instrumentId h hcanonical _ :=
    h.setBook hcanonical rfl (.inr (OkxLevel2Book.cleared_new instrumentId))
  invalidate _ _ book h hbook :=
    h.setBook (h.book _ _ hbook).1 (h.book _ _ hbook).2.1
      (.inr (OkxLevel2Book.cleared_invalidate book))

end KeepsMarket

/-! ## Books and sessions -/

/-- The book of an instrument is valid. -/
def OkxMarketDataState.BookValid (state : OkxMarketDataState F) (instId : Text) : Prop :=
  ∃ book, state.level2BooksByInstrument.get? instId = some book ∧ book.valid = true

section Books

variable {numerics : MarketNumerics F} {state : OkxMarketDataState F} {instId : Text}
  {caches : RuntimeCaches F} {config : RuntimeStreamConfig}

omit [F64 F] in
theorem bookValid_setBook {other : Text} {book : OkxLevel2Book} (h : OkxMarketDataState.BookValid
      { state with level2BooksByInstrument := state.level2BooksByInstrument.insert other book }
      instId) :
    state.BookValid instId ∨ instId = other ∧ book.valid = true := by
  obtain ⟨found, hfound, hvalid⟩ := h
  rw [SortedMap.get?_insert] at hfound
  split_ifs at hfound with heq
  · cases hfound
    exact .inr ⟨heq, hvalid⟩
  · exact .inl ⟨found, hfound, hvalid⟩

omit [F64 F] in
/-- A row makes a book valid only where the stream asked for it. -/
theorem bookValid_hint {level2InstrumentIds : List Text} {met : MarketInsertion F}
    {hint : OkxMarketDataHint F} {result : Result AppliedMarketData} {state' : OkxMarketDataState F}
    (happly : applyMarketHint numerics.ops level2InstrumentIds met state hint =
      some (result, state'))
    (h : state'.BookValid instId) : state.BookValid instId ∨ instId ∈ level2InstrumentIds := by
  cases hint with
  | ticker hint =>
    cases happly
    unfold OkxMarketDataState.insertTicker at h
    dsimp only at h
    split_ifs at h <;> exact .inl h
  | candle hint => cases happly; exact .inl h
  | instrument hint => cases happly; exact .inl h
  | level2 update =>
    rcases applyMarketHint_level2 happly with rfl | ⟨book, outcome, book', hrequested, -, -, rfl⟩
    · exact .inl h
    · rcases bookValid_setBook h with hold | ⟨rfl, -⟩
      · exact .inl hold
      · exact .inr hrequested

theorem bookValid_apply {meets : RuntimeMeets F} {now : Instant}
    {message : OkxWebsocketSubscriptionMessage RuntimeData}
    {applied : AppliedMessage (RuntimeCaches F) RuntimeEvent}
    (happly : (config.task numerics).apply meets now caches message = some applied)
    (h : applied.cache.market.BookValid instId) :
    caches.market.BookValid instId ∨ instId ∈ config.level2InstrumentIds := by
  refine keeps_of_apply (P := fun state => state.BookValid instId →
    caches.market.BookValid instId ∨ instId ∈ config.level2InstrumentIds) ?_ .inl happly h
  intro met state hint result state' _ hstate hhint hvalid
  exact (bookValid_hint hhint hvalid).elim hstate .inr

omit [F64 F] in
theorem bookValid_configure (instrumentIds : List Text)
    (h : (state.configureLevel2Instruments instrumentIds).2.BookValid instId) :
    state.BookValid instId := by
  induction instrumentIds generalizing state with
  | nil => exact h
  | cons instrumentId rest ih =>
    unfold OkxMarketDataState.configureLevel2Instruments at h
    split at h
    · exact h
    · split at h
      · exact ih h
      · rcases bookValid_setBook (ih h) with hold | ⟨-, hnew⟩
        · exact hold
        · cases hnew

theorem bookValid_prepare (h : ((config.task numerics).prepare caches).2.market.BookValid instId) :
    caches.market.BookValid instId := by
  cases config with
  | market config policy =>
    refine bookValid_configure config.level2InstrumentIds ?_
    simp only [RuntimeStreamConfig.task, marketStreamTask] at h
    split at h
    · rename_i hconfigure
      rw [hconfigure]
      exact h
    · rename_i hconfigure
      rw [hconfigure]
      dsimp only at h
      split_ifs at h <;> exact h
  | account config policy => exact h

omit [F64 F] in
/-- The books that are invalidated are invalid. -/
theorem bookValid_invalidate (hcanonical : ∀ instId book,
      state.level2BooksByInstrument.get? instId = some book →
      validateSpotInstrumentId instId = .ok ()) {instrumentIds : List Text}
    (h : (state.invalidateLevel2ForReconnect instrumentIds).BookValid instId) :
    state.BookValid instId ∧ instId ∉ instrumentIds := by
  unfold OkxMarketDataState.invalidateLevel2ForReconnect at h
  induction instrumentIds generalizing state with
  | nil => exact ⟨h, List.not_mem_nil⟩
  | cons instrumentId rest ih =>
    rw [List.foldl_cons] at h
    cases hbook : state.level2BooksByInstrument.get? instrumentId with
    | none =>
      simp only [hbook] at h
      obtain ⟨hvalid, hrest⟩ := ih hcanonical (by split at h <;> simp_all)
      refine ⟨hvalid, ?_⟩
      rw [List.mem_cons, not_or]
      refine ⟨?_, hrest⟩
      rintro rfl
      obtain ⟨book, hget, -⟩ := hvalid
      cases hbook.symm.trans hget
    | some book =>
      simp only [hbook, hcanonical _ _ hbook] at h
      obtain ⟨hvalid, hrest⟩ := ih (by
        intro other found hfound
        rw [SortedMap.get?_insert] at hfound
        split_ifs at hfound with heq
        · rw [heq]
          exact hcanonical _ _ hbook
        · exact hcanonical _ _ hfound) h
      have hne : instId ≠ instrumentId := by
        rintro rfl
        obtain ⟨found, hfound, hfoundValid⟩ := hvalid
        rw [SortedMap.get?_insert, if_pos rfl] at hfound
        cases hfound
        cases hfoundValid
      rcases bookValid_setBook hvalid with hold | ⟨heq, -⟩
      · exact ⟨hold, List.not_mem_cons_of_ne_of_not_mem hne hrest⟩
      · exact absurd heq hne

theorem bookValid_release (hsound : MarketSound numerics.ops caches.market)
    (h : ((config.task numerics).release caches).market.BookValid instId) :
    caches.market.BookValid instId ∧ instId ∉ config.level2InstrumentIds := by
  cases config with
  | market config policy =>
    exact bookValid_invalidate (fun instId book hbook => (hsound.book instId book hbook).1) h
  | account config policy => exact ⟨h, List.not_mem_nil⟩

/-- While a session goes on, it makes books valid that it asked for only. -/
theorem bookValid_cacheMove {used : RuntimeCaches F}
    (hmove : CacheMove (config.task numerics) caches used)
    (h : used.market.BookValid instId) :
    caches.market.BookValid instId ∨ instId ∈ config.level2InstrumentIds := by
  cases hmove with
  | keep => exact .inl h
  | prepare => exact .inl (bookValid_prepare h)
  | apply happly => exact bookValid_apply happly h

theorem MarketSound.cacheMove {used : RuntimeCaches F}
    (hsound : MarketSound numerics.ops caches.market)
    (hmove : CacheMove (config.task numerics) caches used) :
    MarketSound numerics.ops used.market := by
  cases hmove with
  | keep => exact hsound
  | prepare =>
    have keeps : KeepsMarket numerics (fun _ : Unit => config) (MarketSound numerics.ops) :=
      MarketSound.keeps
    exact keeps.prepared (i := ()) hsound
  | apply happly => exact keeps_of_apply (fun _ _ _ _ _ hchecked h => h.hint hchecked) hsound happly

end Books

section Sessions

variable {ι : Type} [DecidableEq ι] {numerics : MarketNumerics F}
  {streams : ι → RuntimeStreamConfig}
  {capacity : RuntimeQueue → ℕ}
  {self next : StreamSystem ι RuntimeQueue (RuntimeCaches F) RuntimeEvent}

/-- A valid book belongs to a stream that asked for it and reads. -/
def BooksNeedSessions (streams : ι → RuntimeStreamConfig)
    (self : StreamSystem ι RuntimeQueue (RuntimeCaches F) RuntimeEvent) : Prop :=
  ∀ instId, self.cache.market.BookValid instId →
    ∃ i, instId ∈ (streams i).level2InstrumentIds ∧ (self.tasks i).phase.isReading = true

/-- **Every step keeps the books to the sessions.** -/
theorem BooksNeedSessions.step (h : BooksNeedSessions streams self)
    (hsound : MarketSound numerics.ops self.cache.market)
    {action : StreamAction ι RuntimeQueue RuntimeData (RuntimeMeets F)}
    (hstep : streamStep (fun i => (streams i).task numerics) capacity self action = some next) :
    BooksNeedSessions streams next := by
  cases streamStep_move hstep with
  | elapse | take | close => exact h
  | enqueue i hphase hroom =>
    intro instId hvalid
    obtain ⟨j, hmem, hreading⟩ := h instId hvalid
    refine ⟨j, hmem, ?_⟩
    change (Function.update self.tasks i _ j).phase.isReading = true
    by_cases hij : j = i
    · subst hij
      rw [Function.update_self]
      rfl
    · rwa [Function.update_of_ne hij]
  | move i task cache hmove hcache =>
    intro instId hvalid
    change cache.market.BookValid instId at hvalid
    -- a session that read before still reads, unless it is the one that ended
    have hstays : self.cache.market.BookValid instId →
        (task.phase.isSleeping = true → instId ∉ (streams i).level2InstrumentIds) →
        ∃ j, instId ∈ (streams j).level2InstrumentIds ∧
          (Function.update self.tasks i task j).phase.isReading = true := by
      intro hold hended
      obtain ⟨j, hmem, hreading⟩ := h instId hold
      refine ⟨j, hmem, ?_⟩
      by_cases hij : j = i
      · subst hij
        rw [Function.update_self]
        exact (hmove.of_isReading hreading).resolve_right fun hsleeping => hended hsleeping hmem
      · rwa [Function.update_of_ne hij]
    cases hphase : task.phase with
    | sleeping wake =>
      rw [hphase] at hcache
      obtain ⟨used, hused, rfl⟩ := hcache
      obtain ⟨hvalid, hnot⟩ := bookValid_release (hsound.cacheMove hused) hvalid
      exact hstays ((bookValid_cacheMove hused hvalid).resolve_right hnot) fun _ => hnot
    | reading session delivering since =>
      rw [hphase] at hcache
      rcases bookValid_cacheMove hcache hvalid with hold | hmem
      · exact hstays hold fun hsleeping => by rw [hphase] at hsleeping; cases hsleeping
      · refine ⟨i, hmem, ?_⟩
        change (Function.update self.tasks i task i).phase.isReading = true
        rw [Function.update_self, hphase]
        rfl
    | starting | connecting | loggingIn | subscribing =>
      rw [hphase] at hcache
      refine hstays ?_ fun hsleeping => by rw [hphase] at hsleeping; cases hsleeping
      rcases hcache with rfl | rfl
      · exact hvalid
      · exact bookValid_prepare hvalid

end Sessions

/-! ## Protected instruments -/

/-- The protected instruments are among some. -/
structure ProtectsAmong (ids : List Text) (state : OkxMarketDataState F) : Prop where
  subset : state.protectedInstrumentIds ⊆ ids
  nodup : state.protectedInstrumentIds.Nodup

/-- The hint of an instrument that is protected, or a newer one, is there. -/
structure HoldsHint (ids : List Text) (instId : Text) (tsMs : ℤ) (state : OkxMarketDataState F) :
    Prop extends ProtectsAmong ids state where
  listed : instId ∈ state.protectedInstrumentIds
  kept : ∃ hint keptTsMs, state.instrumentsByInstId.get? instId = some hint ∧
    hint.sourceTsMs = some keptTsMs ∧ tsMs ≤ keptTsMs

section Protected

variable {ι : Type} {numerics : MarketNumerics F} {streams : ι → RuntimeStreamConfig}
  {ids : List Text} {instId : Text} {tsMs : ℤ} {state : OkxMarketDataState F}

omit [F64 F] in
theorem ProtectsAmong.protect (h : ProtectsAmong ids state) {instrumentIds : List Text}
    (hsubset : instrumentIds ⊆ ids) :
    ProtectsAmong ids (state.protectInstruments instrumentIds) where
  subset := by
    intro id hid
    rcases List.mem_append.1 (mem_inOrder.1 hid) with hold | hnew
    · exact h.subset hold
    · exact hsubset hnew
  nodup := nodup_inOrder _

omit [F64 F] in
/-- No row changes what is protected. -/
theorem protectedInstrumentIds_hint {level2InstrumentIds : List Text} {met : MarketInsertion F}
    {hint : OkxMarketDataHint F} {ops : DecimalOps} {result : Result AppliedMarketData}
    {state' : OkxMarketDataState F}
    (happly : applyMarketHint ops level2InstrumentIds met state hint = some (result, state')) :
    state'.protectedInstrumentIds = state.protectedInstrumentIds := by
  cases hint with
  | ticker hint =>
    cases happly
    unfold OkxMarketDataState.insertTicker
    dsimp only
    split_ifs <;> rfl
  | candle hint => cases happly; rfl
  | instrument hint => cases happly; rfl
  | level2 update =>
    rcases applyMarketHint_level2 happly with rfl | ⟨book, outcome, book', -, -, -, rfl⟩ <;> rfl

omit [F64 F] in
theorem ProtectsAmong.hint (h : ProtectsAmong ids state) {level2InstrumentIds : List Text}
    {met : MarketInsertion F} {hint : OkxMarketDataHint F} {ops : DecimalOps}
    {result : Result AppliedMarketData} {state' : OkxMarketDataState F}
    (happly : applyMarketHint ops level2InstrumentIds met state hint = some (result, state')) :
    ProtectsAmong ids state' := by
  have hsame := protectedInstrumentIds_hint happly
  exact ⟨hsame ▸ h.subset, hsame ▸ h.nodup⟩

omit [F64 F] in
theorem ProtectsAmong.keeps (hstreams : ∀ i config policy, streams i = .market config policy →
      config.subscribeInstruments = true → config.instrumentIds ⊆ ids) :
    KeepsMarket numerics streams (ProtectsAmong (F := F) ids) where
  hint _ _ _ _ _ _ _ h happly := h.hint happly
  protect i config policy _ hstream hinstruments h :=
    h.protect (hstreams i config policy hstream hinstruments)
  configure _ _ h _ _ := ⟨h.subset, h.nodup⟩
  invalidate _ _ _ h _ := ⟨h.subset, h.nodup⟩

/-- A hint that is not ignored is no older than the one it replaces. -/
theorem le_of_shouldIgnoreHint {current incoming : ℤ}
    (h : shouldIgnoreHint (some current) (some incoming) = false) : current ≤ incoming := by
  simpa [shouldIgnoreHint] using h

omit [F64 F] in
theorem HoldsHint.instrument_insert (hfits : ids.length ≤ okxMarketDataCacheMaxHintsPerKind)
    (h : HoldsHint ids instId tsMs state) {met : MarketInsertion F}
    {hint : OkxInstrumentUpdateHint} :
    HoldsHint ids instId tsMs (state.insertInstrument met hint).2 := by
  unfold OkxMarketDataState.insertInstrument insertInstrumentHint
  dsimp only
  split_ifs with hstamp hignored
  · exact h
  · exact h
  · refine ⟨⟨h.subset, h.nodup⟩, h.listed, ?_⟩
    obtain ⟨old, oldTsMs, hold, holdTs, hle⟩ := h.kept
    have hroom : state.protectedInstrumentIds.length ≤ okxMarketDataCacheMaxHintsPerKind :=
      (h.nodup.subperm h.subset).length_le.trans hfits
    have hstays : ∀ hints : InstrumentHints, (evictOldestMarketDataHintsExcept met.instruments
        state.protectedInstrumentIds hints).get? instId = hints.get? instId := fun hints =>
      get?_evictRoundsExcept_protected hroom h.listed
    simp only [hstays]
    by_cases hkey : instId = hint.instrument.instId
    · have hinserted : (state.instrumentsByInstId.insert hint).get? instId = some hint :=
        hkey ▸ InstrumentHints.get?_insert _ hint
      obtain ⟨newTsMs, hnew⟩ := Option.isSome_iff_exists.1
        (shouldIgnoreHint_isSome (Bool.eq_false_iff.2 hignored))
      rw [← hkey, hold, Option.bind_some, holdTs, hnew] at hignored
      exact ⟨hint, newTsMs, hinserted, hnew,
        hle.trans (le_of_shouldIgnoreHint (Bool.eq_false_iff.2 hignored))⟩
    · have hother : (state.instrumentsByInstId.insert hint).get? instId =
          state.instrumentsByInstId.get? instId := AList.lookup_insert_ne hkey
      exact ⟨old, oldTsMs, hother.trans hold, holdTs, hle⟩

omit [F64 F] in
theorem HoldsHint.keeps (hfits : ids.length ≤ okxMarketDataCacheMaxHintsPerKind)
    (hstreams : ∀ i config policy, streams i = .market config policy →
      config.subscribeInstruments = true → config.instrumentIds ⊆ ids) :
    KeepsMarket numerics streams (HoldsHint (F := F) ids instId tsMs) where
  hint level2InstrumentIds met state hint result state' _ h happly := by
    have hamong := h.toProtectsAmong.hint happly
    have hprotected := (protectedInstrumentIds_hint happly).symm ▸ h.listed
    cases hint with
    | ticker hint =>
      refine ⟨hamong, hprotected, ?_⟩
      cases happly
      unfold OkxMarketDataState.insertTicker
      dsimp only
      split_ifs <;> exact h.kept
    | candle hint =>
      refine ⟨hamong, hprotected, ?_⟩
      cases happly
      exact h.kept
    | instrument hint =>
      cases happly
      exact h.instrument_insert hfits
    | level2 update =>
      refine ⟨hamong, hprotected, ?_⟩
      rcases applyMarketHint_level2 happly with rfl | ⟨book, outcome, book', -, -, -, rfl⟩
      · exact h.kept
      · exact h.kept
  protect i config policy _ hstream hinstruments h :=
    ⟨h.toProtectsAmong.protect (hstreams i config policy hstream hinstruments),
      mem_inOrder.2 (List.mem_append_left _ h.listed), h.kept⟩
  configure _ _ h _ _ := ⟨⟨h.subset, h.nodup⟩, h.listed, h.kept⟩
  invalidate _ _ _ h _ := ⟨⟨h.subset, h.nodup⟩, h.listed, h.kept⟩

end Protected

/-! ## A stream of books and instruments -/

/-- A public stream of BTC-USDT. -/
def btcBooks : OkxPublicMarketSubscription where
  instrumentIds := [OkxLevel2Book.btcUsdt]
  instrumentType := spotText
  subscribeTickers := false
  subscribeInstruments := true
  candleChannels := []
  level2InstrumentIds := [OkxLevel2Book.btcUsdt]
  instruments_nodup := by decide
  instruments_ne_nil := by decide
  instrumentType_eq := rfl
  candleChannels_nodup := .nil
  level2_nodup := by decide
  subscribes := rfl

/-- The one stream of the runs below. -/
def booksStreams : Unit → RuntimeStreamConfig := fun _ => .market btcBooks .default

/-- Texts of whole numbers, computed with exactly. -/
def wholeNumerics : MarketNumerics ℚ := ⟨parseWholeF64, OkxLevel2Book.wholeDecimal, .exact⟩

/-- Every hash map is walked in the order of its entries. -/
def entryMeets : RuntimeMeets ℚ where
  market := {
    parsedAt := 0
    insertion := fun _ => {
      tickers := .entries _ _
      candles := (barPush '1').walks 0
      instruments := sampleWalk
      bookAppliedAt := 0
      featuresReadyAt := 0 } }
  account := entryWalks

def marketArrival (event : Option Text) (arg : OkxWebsocketSubscriptionAck)
    (market : Option OkxPublicData) : Arrival RuntimeData :=
  .message (.text (.json (some {
    event, code := none, msg := none, arg := some arg
    data := market.map fun market => ⟨market, ⟨none, none, none, none⟩⟩ })))

def marketAck (arg : OkxWebsocketSubscriptionAck) : Arrival RuntimeData :=
  marketArrival (some okxWebsocketSubscribeEvent) arg none

def btcBooksArg : OkxWebsocketSubscriptionAck :=
  ⟨okxLevel2BooksChannel, some OkxLevel2Book.btcUsdt, none⟩

def spotInstrumentsArg : OkxWebsocketSubscriptionAck :=
  ⟨okxPublicInstrumentsChannel, none, some spotText⟩

/-- A snapshot of one level a side. -/
def btcSnapshot : Arrival RuntimeData :=
  marketArrival none btcBooksArg (some ⟨some "snapshot".toList, none, .malformed, none,
    .ok [OkxLevel2Book.oneLevelRow "100" "1" "101" "2"]⟩)

def btcInstrument (tsMs : ℤ) : OkxWebsocketInstrumentUpdate where
  instType := spotText
  instId := OkxLevel2Book.btcUsdt
  groupId := []
  state := "live".toList
  tickSize := ⟨.value 1, true⟩
  lotSize := ⟨.value 1, true⟩
  minSize := ⟨.value 1, true⟩
  maxLimitSize := ⟨.value 1, true⟩
  maxLimitAmount := ⟨.value 1, true⟩
  maxMarketSize := ⟨.value 1, true⟩
  maxMarketAmount := ⟨.value 1, true⟩
  maxTriggerSize := ⟨.value 1, true⟩
  continuousTradingSwitchTime := .value tsMs
  upcomingChanges := []

def btcInstrumentPush (tsMs : ℤ) : Arrival RuntimeData :=
  marketArrival none spotInstrumentsArg
    (some ⟨none, none, .malformed, some [btcInstrument tsMs], .error ""⟩)

/-- A session that is subscribed and gets a snapshot. -/
def booksActions : List (StreamAction Unit RuntimeQueue RuntimeData (RuntimeMeets ℚ)) :=
  [.open (), .connect () none, .subscribe () none, .arrive () entryMeets (marketAck btcBooksArg),
    .arrive () entryMeets (marketAck spotInstrumentsArg), .arrive () entryMeets btcSnapshot,
    .arrive () entryMeets (btcInstrumentPush 7)]

/-! ## Every run -/

section Runs

variable {ι : Type} [DecidableEq ι]

/-- **The market data cache is sound after every run.** -/
theorem marketCache_sound (numerics : MarketNumerics F) (streams : ι → RuntimeStreamConfig)
    (actions : List (StreamAction ι RuntimeQueue RuntimeData (RuntimeMeets F)))
    (next : StreamSystem ι RuntimeQueue (RuntimeCaches F) RuntimeEvent)
    (hrun : runtimeRun numerics streams actions = some next) :
    MarketSound numerics.ops next.cache.market :=
  streamRun_market MarketSound.keeps hrun MarketSound.default

theorem marketCache_sound_books :
    ∃ next, runtimeRun wholeNumerics booksStreams booksActions = some next ∧
    MarketSound .exact next.cache.market := by
  have hruns : (runtimeRun wholeNumerics booksStreams booksActions).isSome = true := by
    decide +kernel
  obtain ⟨next, hnext⟩ := Option.isSome_iff_exists.1 hruns
  exact ⟨next, hnext, marketCache_sound _ _ _ next hnext⟩

/-- After every run the valid books belong to sessions that read. -/
theorem runtimeRun_booksNeedSessions {numerics : MarketNumerics F}
    {streams : ι → RuntimeStreamConfig}
    {actions : List (StreamAction ι RuntimeQueue RuntimeData (RuntimeMeets F))}
    {next : StreamSystem ι RuntimeQueue (RuntimeCaches F) RuntimeEvent}
    (hrun : runtimeRun numerics streams actions = some next) :
    MarketSound numerics.ops next.cache.market ∧ BooksNeedSessions streams next := by
  refine streamRun_invariant (P := fun system =>
    MarketSound numerics.ops system.cache.market ∧ BooksNeedSessions streams system) hrun ?_ ?_
  · refine ⟨MarketSound.default, ?_⟩
    rintro instId ⟨book, hbook, -⟩
    cases SortedMap.get?_empty.symm.trans hbook
  · rintro system action next ⟨hsound, hbooks⟩ hstep
    have hone : streamRun (fun i => (streams i).task numerics)
        (fun _ => runtimeEventChannelCapacity)
        system [action] = some next := by
      simp only [streamRun, hstep, Option.bind_some]
    exact ⟨streamRun_market MarketSound.keeps hone hsound, hbooks.step hsound hstep⟩

/-- **Features need a session**: what is read of a book is computed from the sides it holds now, and
a stream that asked for the book reads. -/
theorem level2_features_need_session (numerics : MarketNumerics F)
    (streams : ι → RuntimeStreamConfig)
    (actions : List (StreamAction ι RuntimeQueue RuntimeData (RuntimeMeets F)))
    (next : StreamSystem ι RuntimeQueue (RuntimeCaches F) RuntimeEvent)
    (hrun : runtimeRun numerics streams actions = some next) (now : Instant) (instId : Text)
    (maxStaleness : ℕ) (features : OkxLevel2FeatureSnapshot)
    (hfeatures : next.cache.market.freshLevel2Features now instId maxStaleness = some features) :
    (∃ book, next.cache.market.level2BooksByInstrument.get? instId = some book ∧
        OkxLevel2Book.FeaturesOf numerics.ops book.bids book.asks features) ∧
      ∃ i, instId ∈ (streams i).level2InstrumentIds ∧ (next.tasks i).phase.isReading = true := by
  obtain ⟨hsound, hbooks⟩ := runtimeRun_booksNeedSessions hrun
  unfold OkxMarketDataState.freshLevel2Features at hfeatures
  split at hfeatures
  · cases hfeatures
  · obtain ⟨book, hbook, hfresh⟩ := Option.bind_eq_some_iff.1 hfeatures
    obtain ⟨hcurrent, -⟩ := Option.filter_eq_some_iff.1 hfresh
    unfold OkxLevel2Book.currentFeatures at hcurrent
    split_ifs at hcurrent with hvalid
    obtain ⟨own, hown, hof, -⟩ := ((hsound.book instId book hbook).2.2.live hvalid).features
    rw [hown] at hcurrent
    cases hcurrent
    exact ⟨⟨book, hbook, hof⟩, hbooks instId ⟨book, hbook, hvalid⟩⟩

theorem level2_features_need_session_books : ∃ next features,
    runtimeRun wholeNumerics booksStreams booksActions = some next ∧
      next.cache.market.freshLevel2Features 0 OkxLevel2Book.btcUsdt 0 = some features ∧
      (∃ book, next.cache.market.level2BooksByInstrument.get? OkxLevel2Book.btcUsdt = some book ∧
        OkxLevel2Book.FeaturesOf .exact book.bids book.asks features) ∧
      ∃ i, OkxLevel2Book.btcUsdt ∈ (booksStreams i).level2InstrumentIds ∧
        (next.tasks i).phase.isReading = true := by
  have hruns : ((runtimeRun wholeNumerics booksStreams booksActions).bind fun next =>
      next.cache.market.freshLevel2Features 0 OkxLevel2Book.btcUsdt 0).isSome = true := by
    decide +kernel
  obtain ⟨features, hfeatures⟩ := Option.isSome_iff_exists.1 hruns
  obtain ⟨next, hnext, hfresh⟩ := Option.bind_eq_some_iff.1 hfeatures
  exact ⟨next, features, hnext, hfresh,
    level2_features_need_session _ _ _ next hnext _ _ _ features hfresh⟩

/-- **The hint of a protected instrument is never evicted**: whatever is pushed afterwards, it is
there, or a newer one of the same instrument. -/
theorem protected_instrument_kept (numerics : MarketNumerics F) (streams : ι → RuntimeStreamConfig)
    (ids : List Text) (hfits : ids.length ≤ okxMarketDataCacheMaxHintsPerKind)
    (hstreams : ∀ i config policy, streams i = .market config policy →
      config.subscribeInstruments = true → config.instrumentIds ⊆ ids)
    (earlier later : List (StreamAction ι RuntimeQueue RuntimeData (RuntimeMeets F)))
    (mid next : StreamSystem ι RuntimeQueue (RuntimeCaches F) RuntimeEvent)
    (hmid : runtimeRun numerics streams earlier = some mid)
    (hnext : runtimeSteps numerics streams mid later = some next) (instId : Text)
    (hprotected : instId ∈ mid.cache.market.protectedInstrumentIds) (hint : OkxInstrumentUpdateHint)
    (hcached : mid.cache.market.instrumentsByInstId.get? instId = some hint) :
    ∃ tsMs kept keptTsMs, hint.sourceTsMs = some tsMs ∧
      next.cache.market.instrumentsByInstId.get? instId = some kept ∧
      kept.sourceTsMs = some keptTsMs ∧ tsMs ≤ keptTsMs := by
  have hsound := streamRun_market MarketSound.keeps hmid MarketSound.default
  have hamong := streamRun_market (ProtectsAmong.keeps hstreams) hmid
    ⟨List.nil_subset _, List.nodup_nil⟩
  obtain ⟨tsMs, htsMs⟩ := Option.isSome_iff_exists.1 (hsound.instrument instId hint hcached).2.2
  have hholds : HoldsHint ids instId tsMs mid.cache.market :=
    ⟨hamong, hprotected, hint, tsMs, hcached, htsMs, le_rfl⟩
  obtain ⟨kept, keptTsMs, hkept⟩ :=
    (streamRun_market (HoldsHint.keeps hfits hstreams) hnext hholds).kept
  exact ⟨tsMs, kept, keptTsMs, htsMs, hkept⟩

end Runs

/-! ## More instruments than the cache holds -/

section Message

variable {ι Queue Data Cache Event Meets : Type} [DecidableEq ι] [DecidableEq Queue]
  (config : ι → StreamTaskConfig Data Cache Event Queue Meets) (capacity : Queue → ℕ)
  {self : StreamSystem ι Queue Cache Event} {i : ι} {session : StreamSession Unit} {since : ℕ}

/-- A message that a subscribed session applies without an error. -/
theorem streamStep_message (meets : Meets) (message : OkxWebsocketSubscriptionMessage Data)
    {applied : AppliedMessage Cache Event} {events : List Event}
    (hphase : (self.tasks i).phase = .reading session [] since)
    (hsession : session.outcome = none ∧ session.subscribed = true ∧ session.awaitingPong = false)
    (happly : (config i).apply meets self.now self.cache message = some applied)
    (hresult : applied.result = .ok events) :
    ∃ next, streamStep config capacity self
        (.arrive i meets (.message (.text (.json (some message))))) = some next ∧
      next.cache = applied.cache ∧
      (next.tasks i).current.accepted = (self.tasks i).current.accepted ++ applied.accepted := by
  obtain ⟨houtcome, hsubscribed, hpong⟩ := hsession
  have hread : (config i).readArrival meets self.now self.cache session
      (.message (.text (.json (some message)))) =
        some ({ session with calls := session.calls + 1 },
          ⟨applied.cache, applied.accepted, events⟩) := by
    simp [StreamTaskConfig.readArrival, StreamSession.step, StreamSession.withCache, houtcome,
      StreamSession.read, nextWebsocketMessage, hpong, StreamSession.onMessage, hsubscribed,
      StreamSession.applyText, StreamTaskConfig.applyMessage, happly, hresult, awaitsPong,
      Except.map]
  have hstep : streamStep config capacity self
      (.arrive i meets (.message (.text (.json (some message))))) =
        some (self.arrived config i session [] since ({ session with calls := session.calls + 1 },
          ⟨applied.cache, applied.accepted, events⟩)) := by
    rw [streamStep, hphase]
    simp only [List.isEmpty_nil, Bool.true_or, if_true, hread, Option.map_some]
  refine ⟨_, hstep, ?_, ?_⟩
  · simp only [StreamSystem.arrived, houtcome, Option.isNone_none, if_true, StreamSystem.setTask]
  · simp [StreamSystem.arrived, houtcome, StreamSystem.setTask, StreamTask.arrived,
      StreamTask.hasRead, StreamTask.reportSubscribed, hsubscribed]

end Message

/-- Ids that are as long as there are instruments before. -/
def otherInstId (i : ℕ) : Text := List.replicate (i + 1) 'A'

def otherInstrument (i : ℕ) : OkxWebsocketInstrumentUpdate :=
  { btcInstrument 8 with instId := otherInstId i }

/-- A message with that many other instruments. -/
def instrumentFlood (n : ℕ) : OkxWebsocketSubscriptionMessage RuntimeData where
  event := none
  code := none
  msg := none
  arg := some spotInstrumentsArg
  data := some ⟨⟨none, none, .malformed, some ((List.range n).map otherInstrument), .error ""⟩,
    ⟨none, none, none, none⟩⟩

theorem otherInstId_alphanum (i : ℕ) : (otherInstId i).all Char.isAlphanum = true :=
  List.all_eq_true.2 fun _ hch => (List.eq_of_mem_replicate hch).symm ▸ rfl

theorem validate_otherInstrument (i : ℕ) :
    validateInstrumentUpdate (otherInstrument i) = .ok () := by
  have hid : Text.isBlank (otherInstId i) = false ∧ Text.isTrimmed (otherInstId i) :=
    ⟨Text.isBlank_of_alphanum (otherInstId_alphanum i) (List.cons_ne_nil _ _),
      Text.isTrimmed_of_alphanum (otherInstId_alphanum i)⟩
  -- the other checks are those of the row it is made from
  have hbtc : validateInstrumentUpdate (btcInstrument 8) = .ok () := by decide +kernel
  obtain ⟨_, htype, hbtc⟩ := bind_eq_ok.1 hbtc
  obtain ⟨_, -, hrest⟩ := bind_eq_ok.1 hbtc
  exact bind_eq_ok.2 ⟨(), htype, bind_eq_ok.2 ⟨(), ensure_eq_ok.2 hid, hrest⟩⟩

theorem parse_instrumentFlood (numerics : MarketNumerics F) (receivedAt parsedAt : Instant)
    (n : ℕ) :
    parsePublicMarketData numerics receivedAt parsedAt
        ((instrumentFlood n).mapData RuntimeData.market) =
      .ok ((List.range n).map fun i => .instrument ⟨otherInstrument i, some 8, receivedAt⟩) := by
  have hrows : parsePublicInstruments ⟨some spotText, some ((List.range n).map otherInstrument),
      receivedAt⟩ = .ok ((List.range n).map fun i => ⟨otherInstrument i, some 8, receivedAt⟩) := by
    refine bind_eq_ok.2 ⟨(), rfl, ?_⟩
    have hmap := mapM_eq_ok
      (fun instrument : OkxWebsocketInstrumentUpdate => do
        ensure (instrument.instType = spotText)
          "OKX public WebSocket instrument did not match arg instType"
        let sourceTsMs ← instrumentUpdateSourceTsMs instrument
        validateInstrumentUpdate instrument
        return { instrument, sourceTsMs, receivedAt })
      (fun instrument => (⟨instrument, some 8, receivedAt⟩ : OkxInstrumentUpdateHint))
      ((List.range n).map otherInstrument) ?_
    · rw [List.map_map] at hmap
      exact hmap
    · rintro _ hmem
      obtain ⟨i, -, rfl⟩ := List.mem_map.1 hmem
      refine bind_eq_ok.2 ⟨(), rfl, bind_eq_ok.2 ⟨some 8, rfl, bind_eq_ok.2 ⟨(),
        validate_otherInstrument i, rfl⟩⟩⟩
  have hparse : parsePublicMarketData numerics receivedAt parsedAt
      ((instrumentFlood n).mapData RuntimeData.market) =
        (parsePublicInstruments ⟨some spotText, some ((List.range n).map otherInstrument),
          receivedAt⟩).bind fun hints => .ok (hints.map .instrument) := by
    rfl
  rw [hparse, hrows]
  show Except.ok _ = _
  rw [List.map_map]
  rfl

/-- No instrument has a hint that is later. -/
def NoneAfter (tsMs : ℤ) (state : OkxMarketDataState F) : Prop :=
  ∀ instId hint, state.instrumentsByInstId.get? instId = some hint →
    ∀ own, hint.sourceTsMs = some own → own ≤ tsMs

omit [F64 F] in
/-- A hint that no other is later than is cached. -/
theorem NoneAfter.insertInstrument {tsMs : ℤ} {state : OkxMarketDataState F}
    (h : NoneAfter tsMs state) (met : MarketInsertion F) {hint : OkxInstrumentUpdateHint}
    (hhint : hint.sourceTsMs = some tsMs) :
    (state.insertInstrument met hint).1 = .cached ∧
      NoneAfter tsMs (state.insertInstrument met hint).2 := by
  have hfresh : shouldIgnoreHint ((state.instrumentsByInstId.get? hint.instrument.instId).bind
      (·.sourceTsMs)) (some tsMs) = false := by
    cases hcurrent : state.instrumentsByInstId.get? hint.instrument.instId with
    | none => rfl
    | some current =>
      cases hown : current.sourceTsMs with
      | none => simp [hown, shouldIgnoreHint]
      | some own => simpa [hown, shouldIgnoreHint] using h _ current hcurrent own hown
  unfold OkxMarketDataState.insertInstrument insertInstrumentHint
  simp only [hhint, hfresh, Option.isNone_some, Bool.false_eq_true, if_false, true_and]
  intro instId kept hkept own hown
  have hbefore := get?_evictRoundsExcept hkept
  by_cases hkey : instId = hint.instrument.instId
  · rw [hkey, InstrumentHints.get?_insert] at hbefore
    cases hbefore
    exact (Option.some.inj (hown.symm.trans hhint)).le
  · exact h instId kept ((AList.lookup_insert_ne hkey).symm.trans hbefore) own hown

omit [F64 F] in
theorem NoneAfter.applyMarketHints (ops : DecimalOps) (level2InstrumentIds : List Text) {tsMs : ℤ}
    {state : OkxMarketDataState F} (h : NoneAfter tsMs state) (met : ℕ → MarketInsertion F)
    (hints : List OkxInstrumentUpdateHint)
    (hhints : ∀ hint ∈ hints, hint.sourceTsMs = some tsMs) :
    ∃ applied after, OkxTrading.applyMarketHints ops level2InstrumentIds met state
        (hints.map .instrument) = some (.ok (), applied, after) ∧
      applied.publicEvents.length = hints.length := by
  induction hints generalizing met state with
  | nil => exact ⟨_, _, rfl, rfl⟩
  | cons hint rest ih =>
    obtain ⟨hcached, hafter⟩ := h.insertInstrument (met 0) (hhints hint List.mem_cons_self)
    obtain ⟨applied, after, hrest, hlength⟩ := ih hafter (fun n => met (n + 1))
      fun other hother => hhints other (List.mem_cons_of_mem _ hother)
    have hone : applyMarketHint ops level2InstrumentIds (met 0) state (.instrument hint) =
        some (.ok ⟨[.instrumentUpdated hint.instrument.instId hint.receivedAt], []⟩,
          (state.insertInstrument (met 0) hint).2) := by
      simp only [applyMarketHint, hcached, OkxInstrumentHintDisposition.requiresRestRevalidation,
        if_true]
    refine ⟨AppliedMarketData.append
      ⟨[.instrumentUpdated hint.instrument.instId hint.receivedAt], []⟩ applied, after, ?_, ?_⟩
    · simp only [List.map_cons, OkxTrading.applyMarketHints, hone, hrest, Option.bind_eq_bind,
        Option.bind_some]
      rfl
    · simp only [AppliedMarketData.append, List.length_append, hlength, List.length_cons,
        List.length_nil]
      omega

/-- A stream applies a message of other instruments whole. -/
theorem apply_instrumentFlood (numerics : MarketNumerics F) (level2InstrumentIds : List Text)
    (meets : MarketMeets F) (now : Instant) {caches : RuntimeCaches F}
    (h : NoneAfter 8 caches.market) (n : ℕ) :
    ∃ applied events, applyMarketMessage numerics level2InstrumentIds meets now caches
        ((instrumentFlood n).mapData RuntimeData.market) = some applied ∧
      applied.result = .ok events ∧ applied.accepted.length = n := by
  obtain ⟨applied, after, happly, hlength⟩ := h.applyMarketHints numerics.ops level2InstrumentIds
    meets.insertion ((List.range n).map fun i => ⟨otherInstrument i, some 8, now⟩) (by simp)
  have hpublic : applyPublicMarketData level2InstrumentIds numerics meets now caches.market
      ((instrumentFlood n).mapData RuntimeData.market) = some (.ok (), applied, after) := by
    rw [applyPublicMarketData, parse_instrumentFlood]
    rw [List.map_map] at happly
    exact happly
  have hmessage : ∃ message, applyMarketMessage numerics level2InstrumentIds meets now caches
      ((instrumentFlood n).mapData RuntimeData.market) = some message ∧
        message.result = .ok (applied.publicEvents.map .market) ∧
        message.accepted = applied.publicEvents.map .market := by
    unfold applyMarketMessage
    rw [hpublic]
    exact ⟨_, rfl, rfl, rfl⟩
  obtain ⟨message, hmessage, hresult, haccepted⟩ := hmessage
  refine ⟨message, _, hmessage, hresult, ?_⟩
  rw [haccepted, List.length_map, hlength, List.length_map, List.length_range]

/-- The session of a task that reads and has nothing to deliver. -/
def StreamPhase.idle? {Event : Type} : StreamPhase Event → Option (StreamSession Unit)
  | .reading session [] _ => some session
  | _ => none

theorem StreamPhase.idle?_eq_some {Event : Type} {phase : StreamPhase Event}
    {session : StreamSession Unit} (h : phase.idle? = some session) :
    ∃ since, phase = .reading session [] since := by
  cases phase with
  | reading session delivering since =>
    cases delivering with
    | nil => cases h; exact ⟨since, rfl⟩
    | cons => cases h
  | _ => cases h

theorem runtimeSteps_concat {ι : Type} [DecidableEq ι] {numerics : MarketNumerics F}
    {streams : ι → RuntimeStreamConfig}
    {self mid : StreamSystem ι RuntimeQueue (RuntimeCaches F) RuntimeEvent}
    {actions : List (StreamAction ι RuntimeQueue RuntimeData (RuntimeMeets F))}
    (h : runtimeSteps numerics streams self actions = some mid)
    (action : StreamAction ι RuntimeQueue RuntimeData (RuntimeMeets F)) :
    runtimeSteps numerics streams self (actions ++ [action]) =
      streamStep (fun i => (streams i).task numerics) (fun _ => runtimeEventChannelCapacity) mid
        action := by
  induction actions generalizing self with
  | nil =>
    cases h
    exact Option.bind_fun_some _
  | cons first rest ih =>
    obtain ⟨next, hfirst, hrest⟩ := Option.bind_eq_some_iff.1 h
    exact (congrArg (Option.bind · _) hfirst).trans (ih hrest)

/-- The instrument stream gets the flood. -/
def floodActions (n : ℕ) : List (StreamAction Unit RuntimeQueue RuntimeData (RuntimeMeets ℚ)) :=
  [.enqueue (), .arrive () entryMeets (.message (.text (.json (some (instrumentFlood n)))))]

theorem runtimeSteps_flood (n : ℕ) : ∃ mid hint next,
    runtimeRun wholeNumerics booksStreams booksActions = some mid ∧
      mid.cache.market.instrumentsByInstId.get? OkxLevel2Book.btcUsdt = some hint ∧
      OkxLevel2Book.btcUsdt ∈ mid.cache.market.protectedInstrumentIds ∧
      runtimeSteps wholeNumerics booksStreams mid (floodActions n) = some next ∧
      (next.tasks ()).current.accepted.length = n + 1 := by
  have hruns : (((runtimeRun wholeNumerics booksStreams booksActions).bind fun mid =>
      (mid.cache.market.instrumentsByInstId.get? OkxLevel2Book.btcUsdt).bind fun _ =>
      (runtimeSteps wholeNumerics booksStreams mid [.enqueue ()]).bind fun ready =>
        (ready.tasks ()).phase.idle?.map fun session =>
          decide ((session.outcome = none ∧ session.subscribed = true ∧
              session.awaitingPong = false) ∧
            OkxLevel2Book.btcUsdt ∈ mid.cache.market.protectedInstrumentIds ∧
            (ready.tasks ()).current.accepted.length = 1 ∧
            ∀ entry ∈ ready.cache.market.instrumentsByInstId.entries.entries,
              entry.2.sourceTsMs = some 7)) = some true) := by
    decide +kernel
  obtain ⟨mid, hmid, hruns⟩ := Option.bind_eq_some_iff.1 hruns
  obtain ⟨hint, hcached, hruns⟩ := Option.bind_eq_some_iff.1 hruns
  obtain ⟨ready, hready, hruns⟩ := Option.bind_eq_some_iff.1 hruns
  obtain ⟨session, hidle, hruns⟩ := Option.map_eq_some_iff.1 hruns
  obtain ⟨hsession, hprotected, haccepted, hstamps⟩ := of_decide_eq_true hruns
  obtain ⟨since, hphase⟩ := StreamPhase.idle?_eq_some hidle
  have hnone : NoneAfter 8 ready.cache.market := by
    intro instId kept hkept own hown
    rw [hstamps _ (AList.mem_lookup_iff.1 hkept)] at hown
    cases hown
    decide
  obtain ⟨applied, events, happly, hresult, hlength⟩ := apply_instrumentFlood wholeNumerics
    btcBooks.level2InstrumentIds entryMeets.market ready.now hnone n
  obtain ⟨next, hstep, -, hnext⟩ := streamStep_message
    (fun i => (booksStreams i).task wholeNumerics) (fun _ => runtimeEventChannelCapacity) entryMeets
    (instrumentFlood n) hphase hsession happly hresult
  have hsteps := (runtimeSteps_concat hready _).trans hstep
  refine ⟨mid, hint, next, hmid, hcached, hprotected, hsteps, ?_⟩
  rw [hnext, List.length_append, haccepted, hlength, Nat.add_comm]

theorem otherInstId_injective : Function.Injective otherInstId := fun i j h => by
  simpa [otherInstId] using congrArg List.length h

omit [F64 F] in
/-- Of the cached instrument and as many others as the cache holds, one is lost. -/
theorem exists_lost {ops : DecimalOps} {state : OkxMarketDataState F} (h : MarketSound ops state)
    (hbtc : (state.instrumentsByInstId.get? OkxLevel2Book.btcUsdt).isSome = true) :
    ∃ i < okxMarketDataCacheMaxHintsPerKind,
      state.instrumentsByInstId.get? (otherInstId i) = none := by
  have hdistinct : (OkxLevel2Book.btcUsdt ::
      (List.range okxMarketDataCacheMaxHintsPerKind).map otherInstId).Nodup := by
    refine List.nodup_cons.2 ⟨fun hmem => ?_, List.nodup_range.map otherInstId_injective⟩
    obtain ⟨i, -, hid⟩ := List.mem_map.1 hmem
    have hfirst := congrArg List.head? hid
    cases hfirst
  obtain ⟨id, hid, hlost⟩ := Collections.exists_lookup_eq_none hdistinct
    (h.instruments.trans_lt (by simp))
  rcases List.mem_cons.1 hid with rfl | hid
  · exact absurd hlost (Option.isSome_iff_ne_none.1 hbtc)
  · obtain ⟨i, hi, rfl⟩ := List.mem_map.1 hid
    exact ⟨i, List.mem_range.1 hi, hlost⟩

/-- The theorem where so many other instruments are pushed that one of them is lost. -/
theorem protected_instrument_kept_flood : ∃ mid hint next,
    runtimeRun wholeNumerics booksStreams booksActions = some mid ∧
      mid.cache.market.instrumentsByInstId.get? OkxLevel2Book.btcUsdt = some hint ∧
      runtimeSteps wholeNumerics booksStreams mid
        (floodActions okxMarketDataCacheMaxHintsPerKind) = some next ∧
      (∃ i < okxMarketDataCacheMaxHintsPerKind,
        next.cache.market.instrumentsByInstId.get? (otherInstId i) = none) ∧
      (next.tasks ()).current.accepted.length = okxMarketDataCacheMaxHintsPerKind + 1 ∧
      ∃ tsMs kept keptTsMs, hint.sourceTsMs = some tsMs ∧
        next.cache.market.instrumentsByInstId.get? OkxLevel2Book.btcUsdt = some kept ∧
        kept.sourceTsMs = some keptTsMs ∧ tsMs ≤ keptTsMs := by
  obtain ⟨mid, hint, next, hmid, hcached, hprotected, hnext, haccepted⟩ :=
    runtimeSteps_flood okxMarketDataCacheMaxHintsPerKind
  have hstreams : ∀ i config policy, booksStreams i = .market config policy →
      config.subscribeInstruments = true → config.instrumentIds ⊆ [OkxLevel2Book.btcUsdt] := by
    rintro i config policy heq -
    cases heq
    exact List.Subset.refl _
  obtain ⟨tsMs, kept, keptTsMs, htsMs, hbtc, hkeptTsMs, hle⟩ := protected_instrument_kept
    wholeNumerics booksStreams [OkxLevel2Book.btcUsdt] (by decide) hstreams _ _ mid next hmid hnext
      _ hprotected hint hcached
  have hsound := streamRun_market MarketSound.keeps hnext
    (streamRun_market MarketSound.keeps hmid MarketSound.default)
  exact ⟨mid, hint, next, hmid, hcached, hnext,
    exists_lost hsound (Option.isSome_iff_exists.2 ⟨kept, hbtc⟩), haccepted, tsMs, kept, keptTsMs,
    htsMs, hbtc, hkeptTsMs, hle⟩

end OkxTrading
