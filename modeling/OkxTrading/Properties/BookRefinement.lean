import OkxTrading.Properties.Level2State
import OkxTrading.Properties.ReplayTrust

/-!
# The live book and the replay book agree

The two books were written apart.  Fed the same messages, whatever they refuse and recover from on
the way, they hold the same sides whenever the one is valid and the other is trusted.

* `applySide_eq` — on validated levels the replay book sets them, as the live one does.
* `Agree` — the relation; `agree_feed` — every message keeps it.
* `books_agree` — every run, and what is read from the books after it.
-/

namespace OkxTrading

open Collections Effect

variable {ops : DecimalOps} {side : BookSide} {seen : List Decimal} {outcome : ApplyOutcome}
  {levels asks bids : List OkxLevel2Level} {update : OkxLevel2Update}

/-! ## Sides -/

/-- A level that is not there can be removed at any time. -/
theorem setLevels_nonzero (hunique : (levels.map (·.price)).Nodup)
    (hunknown : ∀ level ∈ levels, level.quantity = 0 → side.get? level.price = none) :
    setLevels side levels =
      setLevels side (levels.filter fun level => decide (level.quantity ≠ 0)) := by
  induction levels generalizing side with
  | nil => rfl
  | cons level rest ih =>
      rw [List.map_cons, List.nodup_cons] at hunique
      have hrest : ∀ other ∈ rest, other.quantity = 0 →
          (setLevel side level).get? other.price = none := by
        intro other hother hzero
        have hne : other.price ≠ level.price := fun heq =>
          hunique.1 (heq ▸ List.mem_map_of_mem hother)
        rw [get?_setLevel, if_neg hne]
        exact hunknown other (List.mem_cons_of_mem _ hother) hzero
      by_cases hzero : level.quantity = 0
      · have hsame : setLevel side level = side := by
          rw [setLevel, if_pos hzero]
          exact SortedMap.erase_of_get?_eq_none (hunknown level List.mem_cons_self hzero)
        rw [hsame] at hrest
        rw [List.filter_cons_of_neg (by simpa using hzero), setLevels_cons, hsame]
        exact ih hunique.2 hrest
      · rw [List.filter_cons_of_pos (by simpa using hzero), setLevels_cons, setLevels_cons]
        exact ih hunique.2 hrest

/-- On validated levels both books' snapshots hold the same side. -/
theorem setLevels_empty (hunique : (levels.map (·.price)).Nodup) :
    setLevels SortedMap.empty levels = snapshotLevels levels :=
  setLevels_nonzero hunique fun _ _ _ => rfl

namespace OrderBook

variable {book : OrderBook} {action : BookAction} {epoch : ℕ} {id : Option ℤ}

/-- On validated levels the replay book sets them. -/
theorem applySide_eq (hvalid : ∀ level ∈ levels, level.Valid)
    (hunique : (levels.map (·.price)).Nodup) (hseen : ∀ level ∈ levels, level.price ∉ seen) :
    (applySide side seen outcome levels).1 = setLevels side levels := by
  induction levels generalizing side seen outcome with
  | nil => rfl
  | cons level rest ih =>
      rw [List.map_cons, List.nodup_cons] at hunique
      have hlevel := hvalid level List.mem_cons_self
      have hrest : ∀ other ∈ rest, other.price ∉ level.price :: seen := by
        intro other hother hmem
        rcases List.mem_cons.1 hmem with heq | hmem
        · exact hunique.1 (heq ▸ List.mem_map_of_mem hother)
        · exact hseen other (List.mem_cons_of_mem _ hother) hmem
      have hih : ∀ side outcome, (applySide side (level.price :: seen) outcome rest).1 =
          setLevels side rest := fun _ _ =>
        ih (fun other hother => hvalid other (List.mem_cons_of_mem _ hother)) hunique.2 hrest
      have hpositive : ¬ (level.price ≤ 0 ∨ level.quantity < 0) := by
        rintro (h | h)
        · exact not_le_of_gt hlevel.price h
        · exact not_lt_of_ge hlevel.quantity h
      rw [applySide, if_neg (hseen level List.mem_cons_self), if_neg hpositive, setLevels_cons,
        setLevel]
      split
      · split
        · rename_i hunknown
          rw [hih, SortedMap.erase_of_get?_eq_none (by simpa using hunknown)]
        · exact hih _ _
      · exact hih _ _

/-- What the levels of an event are set on: nothing for a snapshot. -/
def ground (action : BookAction) (side : BookSide) : BookSide :=
  if action = .snapshot then SortedMap.empty else side

@[simp] theorem ground_snapshot (side : BookSide) : ground .snapshot side = SortedMap.empty := rfl

@[simp] theorem ground_update (side : BookSide) : ground .update side = side := rfl

theorem openEvent_sides (book : OrderBook) (action : BookAction) (asks bids : List LevelUpdate) :
    (book.openEvent action asks bids).1.bids = ground action book.bids ∧
      (book.openEvent action asks bids).1.asks = ground action book.asks := by
  unfold openEvent ground
  split
  · exact ⟨rfl, rfl⟩
  · split <;> exact ⟨rfl, rfl⟩

theorem applyEvent_sides {data : OkxLevel2Data} (hdata : data.Validated) :
    (book.applyEvent action data.asks data.bids epoch id).1.bids =
        setLevels (ground action book.bids) data.bids ∧
      (book.applyEvent action data.asks data.bids epoch id).1.asks =
        setLevels (ground action book.asks) data.asks := by
  obtain ⟨hbids, hasks, -⟩ := finishApply_sides
    { (book.applyLevels action data.asks data.bids).1 with
      sequenceEpoch := some epoch, sequenceId := id }
    (book.applyLevels action data.asks data.bids).2
  obtain ⟨hopenBids, hopenAsks⟩ := openEvent_sides book action data.asks data.bids
  constructor
  · refine hbids.trans ?_
    rw [← hopenBids]
    exact applySide_eq hdata.bids hdata.bidPrices fun _ _ h => by cases h
  · refine hasks.trans ?_
    rw [← hopenAsks]
    exact applySide_eq hdata.asks hdata.askPrices fun _ _ h => by cases h

end OrderBook

/-! ## The same messages -/

/-- A message as both books get it: the replay book knows it under an epoch and a sequence id of
its own. -/
structure FedMessage where
  update : OkxLevel2Update
  bookAppliedAt : Instant
  featuresReadyAt : Instant
  sequenceEpoch : ℕ
  sequenceId : ℤ
  deriving DecidableEq, Repr

/-- The message as the replay reads it. -/
def FedMessage.event (message : FedMessage) : SequencedBookEvent where
  instrumentId := message.update.instrumentId
  action := message.update.action
  asks := message.update.data.asks
  bids := message.update.data.bids
  sequenceEpoch := message.sequenceEpoch
  sequenceId := message.sequenceId

/-- Both books take the message. -/
def feed (ops : DecimalOps) (books : OkxLevel2Book × OrderBook) (message : FedMessage) :
    Option ((ApplyResult × Except OkxReplayBookError ApplyOutcome) × OkxLevel2Book × OrderBook) :=
  (books.1.applyWithClock ops message.update message.bookAppliedAt message.featuresReadyAt).map
    fun live =>
      let replay := books.2.apply message.event
      ((live.1, replay.1), live.2, replay.2)

/-- Where the one is valid and the other trusted, the sides are the same. -/
structure Agree (ops : DecimalOps) (live : OkxLevel2Book) (replay : OrderBook) : Prop where
  instrument : live.instrumentId = replay.instrumentId
  coherent : live.Coherent ops
  sides : live.valid = true → replay.trusted = true →
    live.bids = replay.bids ∧ live.asks = replay.asks

variable {live live' : OkxLevel2Book} {replay : OrderBook} {message : FedMessage}
  {result : ApplyResult}

/-- What an event the replay book trusts afterwards has done to its sides. -/
theorem trusted_apply (hdata : message.update.data.Validated)
    (hinstrument : message.update.instrumentId = replay.instrumentId)
    (htrusted : (replay.apply message.event).2.trusted = true) :
    (message.update.action = .snapshot ∨ replay.trusted = true) ∧
      (replay.apply message.event).2.Sound ∧
      (replay.apply message.event).2.bids =
        setLevels (OrderBook.ground message.update.action replay.bids) message.update.data.bids ∧
      (replay.apply message.event).2.asks =
        setLevels (OrderBook.ground message.update.action replay.asks)
            message.update.data.asks := by
  rcases OrderBook.ensureInstrument_cases replay message.event.instrumentId with
    ⟨-, heq⟩ | ⟨hne, -⟩
  · simp only [OrderBook.apply, heq] at htrusted ⊢
    obtain ⟨hbefore, -, hsound⟩ := OrderBook.applyEvent_trusted htrusted
    exact ⟨hbefore, hsound, OrderBook.applyEvent_sides hdata⟩
  · exact absurd hinstrument hne

theorem apply_instrument : (replay.apply message.event).2.instrumentId = replay.instrumentId := by
  rcases OrderBook.ensureInstrument_cases replay message.event.instrumentId with
    ⟨-, heq⟩ | ⟨-, heq⟩
  · simp only [OrderBook.apply, heq]
    exact OrderBook.applyEvent_instrument
  · simp only [OrderBook.apply, heq]

/-- Every message keeps the agreement. -/
theorem agree_apply (hdata : message.update.data.Validated) (h : Agree ops live replay)
    (happly : live.applyWithClock ops message.update message.bookAppliedAt
      message.featuresReadyAt = some (result, live')) :
    Agree ops live' (replay.apply message.event).2 := by
  have hcoherent := OkxLevel2Book.coherent_apply hdata h.coherent happly
  have hid : live'.instrumentId = (replay.apply message.event).2.instrumentId := by
    rw [OkxLevel2Book.instrumentId_apply happly, apply_instrument, h.instrument]
  refine ⟨hid, hcoherent, fun hvalid htrusted => ?_⟩
  by_cases hinstrument : message.update.instrumentId = replay.instrumentId
  · obtain ⟨hbefore, hsound, hbids, hasks⟩ := trusted_apply hdata hinstrument htrusted
    cases OkxLevel2Book.apply_cases happly with
    | mismatch hne => exact absurd (hinstrument.trans h.instrument.symm) hne
    | early haction hnone => exact absurd hnone (h.coherent.not_early hvalid)
    | heartbeat current haction _ hsequence hheartbeat =>
        rw [haction, OrderBook.ground_update, hheartbeat.2.1] at hbids
        rw [haction, OrderBook.ground_update, hheartbeat.1] at hasks
        have hsides := h.sides hvalid (hbefore.resolve_left (by simp [haction]))
        exact ⟨hsides.1.trans hbids.symm, hsides.2.trans hasks.symm⟩
    | rejected => cases hvalid
    | uncalculated => cases hvalid
    | snapshot next features rolling haction hnext =>
        rw [haction, OrderBook.ground_snapshot, setLevels_empty hdata.bidPrices] at hbids
        rw [haction, OrderBook.ground_snapshot, setLevels_empty hdata.askPrices] at hasks
        obtain ⟨-, -, -, rfl⟩ := OkxLevel2Book.snapshotBook_of_ok hnext
        exact ⟨hbids.symm, hasks.symm⟩
    | increment current next features rolling haction hvalid' hsequence hnext =>
        rw [haction, OrderBook.ground_update] at hbids hasks
        have hsides := h.sides hvalid' (hbefore.resolve_left (by simp [haction]))
        obtain ⟨-, -, -, -, -, rfl⟩ := OkxLevel2Book.incrementBook_eq_ok.1 hnext
        rw [← hsides.1] at hbids
        rw [← hsides.2] at hasks
        -- the replay book is trusted, so there is nothing to trim
        have hbidSize := hsound.bids.2
        have haskSize := hsound.asks.2
        rw [hbids] at hbidSize
        rw [hasks] at haskSize
        exact ⟨(best_of_size_le hbidSize .bid).trans hbids.symm,
          (best_of_size_le haskSize .ask).trans hasks.symm⟩
  · have hreplay : (replay.apply message.event).2 = replay := by
      rcases OrderBook.ensureInstrument_cases replay message.event.instrumentId with
        ⟨heq, -⟩ | ⟨-, heq⟩
      · exact absurd heq hinstrument
      · simp only [OrderBook.apply, heq]
    have hlive : live' = live := by
      have hne : message.update.instrumentId ≠ live.instrumentId := h.instrument ▸ hinstrument
      have hforeign : live.applyWithClock ops message.update message.bookAppliedAt
          message.featuresReadyAt = _ := if_pos hne
      rw [hforeign] at happly
      cases happly
      rfl
    rw [hreplay] at htrusted ⊢
    rw [hlive] at hvalid ⊢
    exact h.sides hvalid htrusted

/-! ## What is read -/

namespace OkxLevel2FeatureSnapshot

/-- The depths that have a feature, with it. -/
def depthImbalances (features : OkxLevel2FeatureSnapshot) : List (ℕ × Decimal) :=
  [(1, features.imbalanceL1), (3, features.imbalanceL3), (5, features.imbalanceL5),
    (10, features.imbalanceL10), (25, features.imbalanceL25), (50, features.imbalanceL50),
    (100, features.imbalanceL100), (200, features.imbalanceL200), (400, features.imbalanceL400)]

end OkxLevel2FeatureSnapshot

theorem imbalance_of_features {bids asks : BookSide} {features : OkxLevel2FeatureSnapshot}
    (h : OkxLevel2Book.imbalanceFeatures ops bids asks = some features.toImbalanceFeatures) :
    ∀ depth ∈ features.depthImbalances, imbalance ops bids asks depth.1 = some depth.2 := by
  simp only [OkxLevel2Book.imbalanceFeatures, Option.bind_eq_bind, Option.bind_eq_some_iff] at h
  obtain ⟨_, h1, _, h3, _, h5, _, h10, _, h25, _, h50, _, h100, _, h200, _, h400, h⟩ := h
  have heq := Option.some.inj h
  simp only [OkxLevel2FeatureSnapshot.depthImbalances, ← heq, List.forall_mem_cons]
  exact ⟨h1, h3, h5, h10, h25, h50, h100, h200, h400, by simp⟩

/-- Where the replay book has an imbalance, the live book has the same. -/
theorem imbalance_of_depthImbalance {bids asks : BookSide} {levels : ℕ} {value : Decimal}
    (hbids : bids = replay.bids) (hasks : asks = replay.asks)
    (h : replay.depthImbalance ops levels = some (some value)) :
    imbalance ops bids asks levels = some value := by
  subst hbids hasks
  simp only [OrderBook.depthImbalance, Option.bind_eq_bind, Option.bind_eq_some_iff] at h
  obtain ⟨bid, hbid, ask, hask, total, htotal, h⟩ := h
  split at h
  · rename_i hpositive
    simp only [Option.bind_eq_some_iff] at h
    obtain ⟨difference, hdifference, ratio, hratio, h⟩ := h
    cases h
    simp only [imbalance, signedRatio, hbid, hask, htotal, hdifference, hratio, Option.bind_eq_bind,
      Option.bind_some, if_neg (not_le_of_gt hpositive.2)]
  · cases h

/-- What is read from two books that agree. -/
structure SameReadings (ops : DecimalOps) (live : OkxLevel2Book) (replay : OrderBook)
    (features : OkxLevel2FeatureSnapshot) : Prop where
  bestBid : replay.bestBid.map (·.price) = some features.bestBid
  bestAsk : replay.bestAsk.map (·.price) = some features.bestAsk
  midpoint : replay.midpoint ops = some (some features.mid)
  spread : replay.spread ops = some (some features.spread)
  microprice : replay.microprice ops = some (some features.classicMicroprice)
  imbalance : ∀ levels value, replay.depthImbalance ops levels = some (some value) →
    imbalance ops live.bids live.asks levels = some value
  features : ∀ depth ∈ features.depthImbalances, ∀ value,
    replay.depthImbalance ops depth.1 = some (some value) → depth.2 = value

theorem sameReadings {features : OkxLevel2FeatureSnapshot}
    (hbids : live.bids = replay.bids) (hasks : live.asks = replay.asks)
    (h : OkxLevel2Book.FeaturesOf ops live.bids live.asks features) :
    SameReadings ops live replay features := by
  obtain ⟨bid, ask, hbid, hask, htop⟩ := h.top
  have hreplayBid : replay.bestBid = some ⟨bid.1, bid.2.quantity⟩ := by
    rw [OrderBook.bestBid, ← hbids, hbid]
    rfl
  have hreplayAsk : replay.bestAsk = some ⟨ask.1, ask.2.quantity⟩ := by
    rw [OrderBook.bestAsk, ← hasks, hask]
    rfl
  have hbest := OkxLevel2Book.topFeatures_best htop
  simp only [OkxLevel2Book.topFeatures, Option.bind_eq_bind, Option.bind_eq_some_iff] at htop
  obtain ⟨spread, hspread, total, htotal, mid, hmid, quantity, hquantity, htop⟩ := htop
  split at htop
  · cases htop
  · rename_i hpositive
    simp only [Option.bind_eq_some_iff] at htop
    obtain ⟨askWeighted, haskWeighted, bidWeighted, hbidWeighted, weighted, hweighted, price,
      hprice, htop⟩ := htop
    have heq := Except.ok.inj (Option.some.inj htop)
    have hmidpoint : features.mid = mid := by rw [← heq]
    have hspread' : features.spread = spread := by rw [← heq]
    have hmicroprice : features.classicMicroprice = price := by rw [← heq]
    refine ⟨?_, ?_, ?_, ?_, ?_, ?_, ?_⟩
    · rw [hreplayBid, hbest.1]
      rfl
    · rw [hreplayAsk, hbest.2]
      rfl
    · simp [OrderBook.midpoint, hreplayBid, hreplayAsk, htotal, hmid, hmidpoint]
    · simp [OrderBook.spread, hreplayBid, hreplayAsk, hspread, hspread']
    · simp [OrderBook.microprice, hreplayBid, hreplayAsk, hquantity, lt_of_not_ge hpositive,
        haskWeighted, hbidWeighted, hweighted, hprice, hmicroprice]
    · exact fun levels value => imbalance_of_depthImbalance hbids hasks
    · intro depth hdepth value hvalue
      have hfeature := imbalance_of_features h.imbalances depth hdepth
      rw [imbalance_of_depthImbalance hbids hasks hvalue] at hfeature
      exact (Option.some.inj hfeature).symm

/-! ## Every run -/

/-- **The live book and the replay book agree**: after any messages, if the one is valid and the
other is trusted, they hold the same sides, and the same is read from them. -/
theorem books_agree (ops : DecimalOps) (instrumentId : OkxSpotInstrumentId)
    (messages : List FedMessage) (hmessages : ∀ message ∈ messages, message.update.data.Validated)
    (run : List (FedMessage × ApplyResult × Except OkxReplayBookError ApplyOutcome))
    (live : OkxLevel2Book) (replay : OrderBook)
    (hrun : trace (feed ops) (OkxLevel2Book.new instrumentId, OrderBook.new instrumentId) messages =
      some (run, (live, replay)))
    (hvalid : live.valid = true) (htrusted : replay.trusted = true) :
    live.bids = replay.bids ∧ live.asks = replay.asks ∧
      ∃ features, live.currentFeatures = some features ∧
        SameReadings ops live replay features := by
  have hnew : Agree ops (OkxLevel2Book.new instrumentId) (OrderBook.new instrumentId) :=
    ⟨rfl, .inr (OkxLevel2Book.cleared_new instrumentId), fun h => by cases h⟩
  have hagree : Agree ops live replay := by
    refine trace_invariant (I := fun books => Agree ops books.1 books.2) hnew ?_ hrun
    rintro ⟨live, replay⟩ message answer ⟨live', replay'⟩ hmem h hanswer
    obtain ⟨⟨result, next⟩, happly, heq⟩ := Option.map_eq_some_iff.1 hanswer
    cases heq
    exact agree_apply (hmessages message hmem) h happly
  obtain ⟨hbids, hasks⟩ := hagree.sides hvalid htrusted
  obtain ⟨features, hfeatures, hof, -⟩ := (hagree.coherent.live hvalid).features
  have hcurrent : live.currentFeatures = some features := by
    rw [OkxLevel2Book.currentFeatures, if_pos hvalid, hfeatures]
  exact ⟨hbids, hasks, features, hcurrent, sameReadings hbids hasks hof⟩

/-- A snapshot with its update, a refusal, and the recovery with its update, as both books get
them. -/
def demoMessages : List FedMessage :=
  [⟨OkxLevel2Book.demoSnapshot, 0, 0, 1, 1⟩, ⟨OkxLevel2Book.demoUpdate, 0, 0, 1, 2⟩,
    ⟨OkxLevel2Book.demoGap, 0, 0, 1, 3⟩, ⟨OkxLevel2Book.demoRecovery, 0, 0, 2, 1⟩,
    ⟨OkxLevel2Book.demoLater, 0, 0, 2, 2⟩]

theorem books_agree_demo : ∃ run live replay,
    trace (feed .exact) (OkxLevel2Book.new [], OrderBook.new []) demoMessages =
        some (run, (live, replay)) ∧
      run.countP (fun entry => entry.2.1.toOption.isNone) = 1 ∧
      live.bids = replay.bids ∧ live.asks = replay.asks ∧
        ∃ features, live.currentFeatures = some features ∧
          SameReadings .exact live replay features := by
  have hruns : ((trace (feed .exact) (OkxLevel2Book.new [], OrderBook.new []) demoMessages).map
      fun ended => (ended.2.1.valid, ended.2.2.trusted,
        ended.1.countP fun entry => entry.2.1.toOption.isNone)) = some (true, true, 1) := by
    decide +kernel
  obtain ⟨⟨run, live, replay⟩, hrun, hended⟩ := Option.map_eq_some_iff.1 hruns
  obtain ⟨hvalid, hended⟩ := Prod.mk.inj hended
  obtain ⟨htrusted, hrefused⟩ := Prod.mk.inj hended
  have hmessages : ∀ message ∈ demoMessages, message.update.data.Validated := by
    decide +kernel
  exact ⟨run, live, replay, hrun, hrefused, books_agree .exact [] _ hmessages run live replay hrun
    hvalid htrusted⟩

end OkxTrading
