import OkxTrading.Market.ReplayBook
import OkxTrading.Effect.Trace

/-!
# Trust in the replay book

Trust is set in one place, by a snapshot, and taken back in four.  Whatever the events hold, a book
that is trusted has had a snapshot since it was made or reset, and nothing wrong since that one.

* `finishApply_trusted` — what trust after an event says about the event.
* `Evidence` — what trust says about a run; `evidence_answer` — every call keeps it.
* `replayBook_trust` — the result, for every run.
-/

namespace OkxTrading

open Collections Effect

/-- Nothing was wrong with the event; removals of unknown prices are counted elsewhere. -/
structure ApplyOutcome.Clean (outcome : ApplyOutcome) : Prop where
  invalidLevels : outcome.invalidLevels = 0
  duplicateLevels : outcome.duplicateLevels = 0
  nonMonotonicSnapshotSides : outcome.nonMonotonicSnapshotSides = 0
  updateBeforeSnapshot : outcome.updateBeforeSnapshot = 0
  depthOverflow : outcome.depthOverflow = 0
  emptySides : outcome.emptySides = 0
  crossed : outcome.crossed = 0

namespace OrderBook

variable {book : OrderBook} {outcome : ApplyOutcome} {action : BookAction}
  {asks bids levels : List LevelUpdate} {side : BookSide} {seen : List Decimal}

/-- Two sides that are filled, not too deep, and do not cross. -/
structure Sound (book : OrderBook) : Prop where
  bids : 1 ≤ book.bids.size ∧ book.bids.size ≤ 400
  asks : 1 ≤ book.asks.size ∧ book.asks.size ≤ 400
  uncrossed : ∃ bid ask, book.bestBid = some bid ∧ book.bestAsk = some ask ∧ bid.price < ask.price

/-- Every level has a positive price and quantity. -/
structure Positive (book : OrderBook) : Prop where
  bids : PositiveSide book.bids
  asks : PositiveSide book.asks

/-! ## One event -/

theorem applySide_positive (h : PositiveSide side) :
    PositiveSide (applySide side seen outcome levels).1 := by
  induction levels generalizing side seen outcome with
  | nil => exact h
  | cons update rest ih =>
      rw [applySide]
      split
      · exact ih h
      · split
        · exact ih h
        · rename_i hvalid
          have hprice : 0 < update.price := lt_of_not_ge fun hle => hvalid (.inl hle)
          have hnonneg : 0 ≤ update.quantity := le_of_not_gt fun hlt => hvalid (.inr hlt)
          split
          · split
            · exact ih h
            · exact ih h.erase
          · rename_i hzero
            exact ih (h.insert hprice (lt_of_le_of_ne hnonneg (Ne.symm hzero)))

/-- The levels of an event leave the counters of the whole book alone. -/
theorem applySide_counters :
    (applySide side seen outcome levels).2.emptySides = outcome.emptySides ∧
      (applySide side seen outcome levels).2.crossed = outcome.crossed := by
  induction levels generalizing side seen outcome with
  | nil => exact ⟨rfl, rfl⟩
  | cons update rest ih =>
      rw [applySide]
      split
      · exact ih
      · split
        · exact ih
        · split
          · split
            · exact ih
            · exact ih
          · exact ih

theorem openEvent_counters (book : OrderBook) (action : BookAction) (asks bids : List LevelUpdate) :
    (book.openEvent action asks bids).2.emptySides = 0 ∧
      (book.openEvent action asks bids).2.crossed = 0 := by
  unfold openEvent
  split
  · exact ⟨rfl, rfl⟩
  · split <;> exact ⟨rfl, rfl⟩

theorem openEvent_positive (h : book.Positive) : (book.openEvent action asks bids).1.Positive := by
  unfold openEvent
  split
  · exact ⟨positiveSide_empty, positiveSide_empty⟩
  · split <;> exact ⟨h.bids, h.asks⟩

/-- An action that is not a snapshot gives no trust. -/
theorem openEvent_trusted (h : (book.openEvent action asks bids).1.trusted = true) :
    action = .snapshot ∨ book.trusted = true := by
  unfold openEvent at h
  split at h
  · rename_i hsnapshot
    exact .inl hsnapshot
  · split at h
    · cases h
    · exact .inr h

theorem applyLevels_counters (book : OrderBook) (action : BookAction)
    (asks bids : List LevelUpdate) :
    (book.applyLevels action asks bids).2.emptySides = 0 ∧
      (book.applyLevels action asks bids).2.crossed = 0 := by
  obtain ⟨hempty, hcrossed⟩ := openEvent_counters book action asks bids
  unfold applyLevels
  constructor
  · simp only [applySide_counters.1, hempty]
  · simp only [applySide_counters.2, hcrossed]

theorem finishApply_sides (book : OrderBook) (outcome : ApplyOutcome) :
    (book.finishApply outcome).1.bids = book.bids ∧
      (book.finishApply outcome).1.asks = book.asks ∧
      (book.finishApply outcome).1.instrumentId = book.instrumentId := by
  unfold finishApply
  dsimp only
  split
  all_goals
    split
    · exact ⟨rfl, rfl, rfl⟩
    · split <;> exact ⟨rfl, rfl, rfl⟩

theorem countOverflow_eq (h : (book.countOverflow outcome).depthOverflow = 0) :
    book.bids.size ≤ 400 ∧ book.asks.size ≤ 400 ∧ book.countOverflow outcome = outcome := by
  unfold countOverflow at h ⊢
  split at h
  · cases h
  · rename_i hdepth
    rw [if_neg hdepth]
    exact ⟨by omega, by omega, rfl⟩

/-- Filled sides that do not cross, in the words of the book. -/
theorem sound_of_checks (hbids : book.bids.size ≤ 400) (hasks : book.asks.size ≤ 400)
    (hfilled : ¬ (book.bids.isEmpty || book.asks.isEmpty) = true)
    (huncrossed : ¬ book.isCrossed = true) : book.Sound := by
  simp only [Bool.or_eq_true, not_or, Bool.not_eq_true, SortedMap.isEmpty_eq_false] at hfilled
  obtain ⟨hbid, hask⟩ := hfilled
  have hlast := List.getLast?_eq_some_getLast hbid
  have hfirst := List.head?_eq_some_head hask
  refine ⟨⟨SortedMap.size_pos.2 hbid, hbids⟩, ⟨SortedMap.size_pos.2 hask, hasks⟩, _, _,
    congrArg _ hlast, congrArg _ hfirst, ?_⟩
  unfold isCrossed SortedMap.last? SortedMap.first? at huncrossed
  rw [hlast, hfirst] at huncrossed
  exact lt_of_not_ge fun hle => huncrossed (decide_eq_true hle)

/-- What trust after an event says of the book, of the event, and of the book before it. -/
theorem finishApply_trusted (hempty : outcome.emptySides = 0) (hcrossed : outcome.crossed = 0)
    (h : (book.finishApply outcome).1.trusted = true) :
    book.trusted = true ∧ (book.finishApply outcome).2.Clean ∧
      (book.finishApply outcome).1.Sound := by
  unfold finishApply at h ⊢
  dsimp only at h ⊢
  split at h
  · split at h
    · cases h
    · split at h <;> cases h
  · rename_i htrust
    rw [if_neg htrust]
    split at h
    · cases h
    · rename_i hfilled
      split at h
      · cases h
      · rename_i huncrossed
        rw [if_neg hfilled, if_neg huncrossed]
        unfold takesTrust at htrust
        have hnone : (book.countOverflow outcome).depthOverflow = 0 := by omega
        obtain ⟨hbids, hasks, heq⟩ := countOverflow_eq hnone
        rw [heq] at htrust ⊢
        simp only [Nat.pos_iff_ne_zero, not_or, ne_eq, not_not] at htrust
        obtain ⟨hinvalid, hduplicate, horder, hearly, hdepth⟩ := htrust
        exact ⟨h, ⟨hinvalid, hduplicate, horder, hearly, hdepth, hempty, hcrossed⟩,
          sound_of_checks hbids hasks hfilled huncrossed⟩

theorem applyEvent_positive {epoch : ℕ} {id : Option ℤ} (h : book.Positive) :
    (book.applyEvent action asks bids epoch id).1.Positive := by
  have hopen : (book.openEvent action asks bids).1.Positive := openEvent_positive h
  have hsides := finishApply_sides
    { (book.applyLevels action asks bids).1 with sequenceEpoch := some epoch, sequenceId := id }
    (book.applyLevels action asks bids).2
  constructor
  · show PositiveSide (finishApply _ _).1.bids
    rw [hsides.1]
    exact applySide_positive hopen.bids
  · show PositiveSide (finishApply _ _).1.asks
    rw [hsides.2.1]
    exact applySide_positive hopen.asks

theorem applyEvent_instrument {epoch : ℕ} {id : Option ℤ} :
    (book.applyEvent action asks bids epoch id).1.instrumentId = book.instrumentId := by
  have hopen : (book.openEvent action asks bids).1.instrumentId = book.instrumentId := by
    unfold openEvent
    split
    · rfl
    · split <;> rfl
  have hlevels : (book.applyLevels action asks bids).1.instrumentId = book.instrumentId := hopen
  unfold applyEvent
  rw [(finishApply_sides _ _).2.2, hlevels]

/-- What trust after an event says of it: nothing was wrong with it, the book is sound, and where
it was not a snapshot the book was trusted before. -/
theorem applyEvent_trusted {epoch : ℕ} {id : Option ℤ}
    (h : (book.applyEvent action asks bids epoch id).1.trusted = true) :
    (action = .snapshot ∨ book.trusted = true) ∧
      (book.applyEvent action asks bids epoch id).2.Clean ∧
      (book.applyEvent action asks bids epoch id).1.Sound := by
  obtain ⟨hempty, hcrossed⟩ := applyLevels_counters book action asks bids
  obtain ⟨htrusted, hclean, hsound⟩ := finishApply_trusted hempty hcrossed h
  exact ⟨openEvent_trusted htrusted, hclean, hsound⟩

/-! ## Runs -/

/-- An entry of a run: a call and what it answered. -/
abbrev Entry := Call × Option (Except OkxReplayBookError ApplyOutcome)

/-- The book took in a snapshot. -/
def Entry.IsSnapshot (entry : Entry) : Prop :=
  (∃ outcome, entry.2 = some (.ok outcome)) ∧
    ((∃ event, entry.1 = .apply event ∧ event.action = .snapshot) ∨
      ∃ event, entry.1 = .applyHistorical event ∧ event.action = .snapshot)

/-- Nothing was wrong with the event, if there was one. -/
def Entry.IsClean (entry : Entry) : Prop := ∀ outcome, entry.2 = some (.ok outcome) → outcome.Clean

/-- A snapshot was taken in; since then there was no other, the book was neither reset nor marked,
and no event, the snapshot's included, had anything wrong with it. -/
def Evidence (run : List Entry) : Prop :=
  ∃ earlier snapshot later, run = earlier ++ snapshot :: later ∧ snapshot.IsSnapshot ∧
    (∀ entry ∈ later, ¬ entry.IsSnapshot ∧ entry.1 ≠ .reset ∧ entry.1 ≠ .markUntrusted) ∧
    ∀ entry ∈ snapshot :: later, entry.IsClean

variable {run : List Entry} {entry : Entry}

theorem evidence_snapshot (hsnapshot : entry.IsSnapshot) (hclean : entry.IsClean) :
    Evidence (run ++ [entry]) :=
  ⟨run, entry, [], rfl, hsnapshot, by simp, by simpa using hclean⟩

theorem Evidence.later (h : Evidence run)
    (hkeeps : ¬ entry.IsSnapshot ∧ entry.1 ≠ .reset ∧ entry.1 ≠ .markUntrusted)
    (hclean : entry.IsClean) : Evidence (run ++ [entry]) := by
  obtain ⟨earlier, snapshot, later, rfl, hsnapshot, hlater, hcleans⟩ := h
  refine ⟨earlier, snapshot, later ++ [entry], by simp, hsnapshot, ?_, ?_⟩
  · intro e he
    rcases List.mem_append.1 he with he | he
    · exact hlater e he
    · rw [List.mem_singleton.1 he]
      exact hkeeps
  · intro e he
    rw [← List.cons_append] at he
    rcases List.mem_append.1 he with he | he
    · exact hcleans e he
    · rw [List.mem_singleton.1 he]
      exact hclean

/-- What every call keeps: positive levels, and what trust says of the run. -/
structure Kept (instrumentId : OkxSpotInstrumentId) (run : List Entry) (book : OrderBook) :
    Prop where
  instrument : book.instrumentId = instrumentId
  positive : book.Positive
  trusted : book.trusted = true → Evidence run ∧ book.Sound

variable {instrumentId : OkxSpotInstrumentId}

theorem kept_new : Kept instrumentId [] (new instrumentId) :=
  ⟨rfl, ⟨positiveSide_empty, positiveSide_empty⟩, fun h => by cases h⟩

/-- A call without an outcome that leaves the book alone. -/
theorem Kept.rejected (h : Kept instrumentId run book) {e : OkxReplayBookError}
    (hanswer : entry.2 = some (.error e)) (hreset : entry.1 ≠ .reset)
    (hmark : entry.1 ≠ .markUntrusted) : Kept instrumentId (run ++ [entry]) book := by
  refine ⟨h.instrument, h.positive, fun htrust => ?_⟩
  obtain ⟨hevidence, hsound⟩ := h.trusted htrust
  refine ⟨hevidence.later ⟨?_, hreset, hmark⟩ ?_, hsound⟩
  · rintro ⟨⟨outcome, heq⟩, -⟩
    rw [hanswer] at heq
    cases heq
  · intro outcome heq
    rw [hanswer] at heq
    cases heq

/-- An event of either kind that the book takes in. -/
theorem Kept.event (h : Kept instrumentId run book) {epoch : ℕ} {id : Option ℤ}
    (hanswer : entry.2 = some (.ok (book.applyEvent action asks bids epoch id).2))
    (hreset : entry.1 ≠ .reset) (hmark : entry.1 ≠ .markUntrusted)
    (hsnapshot : action = .snapshot ↔ entry.IsSnapshot) :
    Kept instrumentId (run ++ [entry]) (book.applyEvent action asks bids epoch id).1 := by
  refine ⟨applyEvent_instrument.trans h.instrument, applyEvent_positive h.positive,
    fun htrust => ?_⟩
  obtain ⟨hbefore, hclean, hsound⟩ := applyEvent_trusted htrust
  have hentry : entry.IsClean := by
    intro outcome heq
    rw [hanswer] at heq
    cases heq
    exact hclean
  refine ⟨?_, hsound⟩
  by_cases haction : action = .snapshot
  · exact evidence_snapshot (hsnapshot.1 haction) hentry
  · have htrusted := hbefore.resolve_left haction
    exact (h.trusted htrusted).1.later ⟨fun hs => haction (hsnapshot.2 hs), hreset, hmark⟩ hentry

theorem ensureInstrument_cases (book : OrderBook) (received : OkxSpotInstrumentId) :
    received = book.instrumentId ∧ book.ensureInstrument received = .ok () ∨
      received ≠ book.instrumentId ∧ book.ensureInstrument received =
        .error (.instrumentMismatch book.instrumentId received) := by
  unfold ensureInstrument
  by_cases h : received = book.instrumentId
  · exact .inl ⟨h, if_pos h⟩
  · exact .inr ⟨h, if_neg h⟩

/-- Every call keeps it. -/
theorem kept_answer {call : Call} {reply : Option (Except OkxReplayBookError ApplyOutcome)}
    {book' : OrderBook} (h : Kept instrumentId run book)
    (hanswer : book.answer call = some (reply, book')) :
    Kept instrumentId (run ++ [(call, reply)]) book' := by
  cases call with
  | apply event =>
      simp only [answer, apply, Option.some.injEq, Prod.mk.injEq] at hanswer
      obtain ⟨rfl, rfl⟩ := hanswer
      rcases ensureInstrument_cases book event.instrumentId with ⟨-, heq⟩ | ⟨-, heq⟩
      · rw [heq]
        refine h.event rfl (by simp) (by simp) ?_
        simp [Entry.IsSnapshot]
      · rw [heq]
        exact h.rejected rfl (by simp) (by simp)
  | applyHistorical event =>
      simp only [answer, applyHistorical, Option.some.injEq, Prod.mk.injEq] at hanswer
      obtain ⟨rfl, rfl⟩ := hanswer
      rcases ensureInstrument_cases book event.instrumentId with ⟨-, heq⟩ | ⟨-, heq⟩
      · rw [heq]
        refine h.event rfl (by simp) (by simp) ?_
        simp [Entry.IsSnapshot]
      · rw [heq]
        exact h.rejected rfl (by simp) (by simp)
  | reset =>
      cases hanswer
      exact ⟨h.instrument, ⟨positiveSide_empty, positiveSide_empty⟩, fun htrust => by cases htrust⟩
  | markUntrusted =>
      cases hanswer
      exact ⟨h.instrument, ⟨h.positive.bids, h.positive.asks⟩, fun htrust => by cases htrust⟩

/-- What every run of a new book says of it. -/
structure TrustSound (instrumentId : OkxSpotInstrumentId) (run : List Entry) (book : OrderBook) :
    Prop where
  positive : book.Positive
  evidence : book.trusted = true → Evidence run
  sound : book.trusted = true → book.Sound
  /-- An event for another instrument is refused, and changes nothing. -/
  refused : ∀ event : SequencedBookEvent, event.instrumentId ≠ instrumentId →
    book.apply event = (.error (.instrumentMismatch instrumentId event.instrumentId), book)
  refusedHistorical : ∀ event : HistoricalBookEvent, event.instrumentId ≠ instrumentId →
    book.applyHistorical event =
      (.error (.instrumentMismatch instrumentId event.instrumentId), book)

theorem trustSound_of_kept (h : Kept instrumentId run book) :
    TrustSound instrumentId run book where
  positive := h.positive
  evidence htrust := (h.trusted htrust).1
  sound htrust := (h.trusted htrust).2
  refused event hne := by
    rcases ensureInstrument_cases book event.instrumentId with ⟨heq, -⟩ | ⟨-, heq⟩
    · exact absurd (heq.trans h.instrument) hne
    · simp only [apply, heq, h.instrument]
  refusedHistorical event hne := by
    rcases ensureInstrument_cases book event.instrumentId with ⟨heq, -⟩ | ⟨-, heq⟩
    · exact absurd (heq.trans h.instrument) hne
    · simp only [applyHistorical, heq, h.instrument]

/-- **Trust in the replay book is sound**: for every sequence of calls, whatever levels their events
hold. -/
theorem replayBook_trust (instrumentId : OkxSpotInstrumentId) (calls : List Call) :
    ∃ run book, trace answer (new instrumentId) calls = some (run, book) ∧
      TrustSound instrumentId run book := by
  have htotal : ∀ (book : OrderBook) (call : Call), ∃ reply book',
      book.answer call = some (reply, book') := by
    intro book call
    cases call <;> exact ⟨_, _, rfl⟩
  obtain ⟨run, book, hrun⟩ := trace_total htotal (new instrumentId) calls
  refine ⟨run, book, hrun, trustSound_of_kept ?_⟩
  exact trace_induction kept_new (fun _ _ _ _ _ _ => kept_answer) hrun

end OrderBook

end OkxTrading
