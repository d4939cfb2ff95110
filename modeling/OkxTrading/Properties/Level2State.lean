import OkxTrading.Market.Reconstruction
import OkxTrading.Effect.Trace

/-!
# The state of a Level-2 book

A book is either valid, with filled sides, a sequence id, features and a rolling window that belong
together, or it is empty.  No call can leave it between the two, however it ends.

* `FeaturesOf` — what the features of a book are.
* `Coherent` — the two states; `coherent_apply` — every call keeps to them.
* `level2Book_coherent` — every reachable state.
-/

namespace OkxTrading.OkxLevel2Book

open Collections Effect

variable {ops : DecimalOps} {book next book' : OkxLevel2Book} {update : OkxLevel2Update}
  {bookAppliedAt featuresReadyAt : Instant} {features : OkxLevel2FeatureSnapshot}
  {rolling : List RollingFeaturePoint} {bids asks : BookSide} {bid ask : PricedLevel}
  {e : OkxLevel2BookError}

/-! ## Features -/

theorem topFeatures_best {top : TopFeatures} (h : topFeatures ops bid ask = some (.ok top)) :
    top.bestBid = bid.1 ∧ top.bestAsk = ask.1 := by
  simp only [topFeatures, Option.bind_eq_bind, Option.bind_eq_some_iff] at h
  obtain ⟨spread, -, total, -, mid, -, topQuantity, -, h⟩ := h
  split at h
  · cases h
  · simp only [Option.bind_eq_some_iff] at h
    obtain ⟨_, -, _, -, _, -, _, -, h⟩ := h
    cases h
    exact ⟨rfl, rfl⟩

/-- Where the sum of positive decimals is positive, the quantities at the top are no denominator
of zero. -/
theorem topFeatures_ne_error
    (hadd : ops.AddPositive) (hbid : 0 < bid.2.quantity)
    (hask : 0 < ask.2.quantity) :
    topFeatures ops bid ask ≠ some (.error e) := by
  intro h
  simp only [topFeatures, Option.bind_eq_bind, Option.bind_eq_some_iff] at h
  obtain ⟨spread, -, total, -, mid, -, topQuantity, htop, h⟩ := h
  rw [if_neg (not_le_of_gt (hadd _ _ _ hbid hask htop))] at h
  simp only [Option.bind_eq_some_iff] at h
  obtain ⟨_, -, _, -, _, -, _, -, h⟩ := h
  cases h

/-- Features that were calculated from these sides. -/
structure FeaturesOf (ops : DecimalOps) (bids asks : BookSide)
    (features : OkxLevel2FeatureSnapshot) : Prop where
  bidLevelCount : features.bidLevelCount = bids.size
  askLevelCount : features.askLevelCount = asks.size
  bestBid : bids.last?.map (·.1) = some features.bestBid
  bestAsk : asks.first?.map (·.1) = some features.bestAsk
  top : ∃ bid ask, bids.last? = some bid ∧ asks.first? = some ask ∧
    topFeatures ops bid ask = some (.ok features.toTopFeatures)
  imbalances : imbalanceFeatures ops bids asks = some features.toImbalanceFeatures

theorem calculateFeatures_of_ok
    (h : book.calculateFeatures ops update bookAppliedAt featuresReadyAt =
      some (.ok (features, rolling))) :
    FeaturesOf ops book.bids book.asks features ∧ features.epoch = book.epoch ∧
      features.generation = book.generation ∧ features.sequenceId = update.data.sequenceId ∧
      ∃ point, rolling = pushPoint book.rolling point := by
  unfold calculateFeatures at h
  split at h
  · rename_i bid ask hbid hask
    simp only [Option.bind_eq_bind, Option.bind_eq_some_iff] at h
    obtain ⟨calculated, htop, h⟩ := h
    cases calculated with
    | error e => cases h
    | ok top =>
        simp only [Option.bind_eq_some_iff] at h
        obtain ⟨imbalances, himbalances, depth, -, ⟨values, window⟩, hrolling, h⟩ := h
        cases h
        simp only [rollingFeatures, Option.bind_eq_bind, Option.bind_eq_some_iff] at hrolling
        obtain ⟨_, -, _, -, _, -, hrolling⟩ := hrolling
        cases hrolling
        obtain ⟨hbestBid, hbestAsk⟩ := topFeatures_best htop
        have hbid' : book.bids.last?.map (·.1) = some top.bestBid := by rw [hbid, hbestBid]; rfl
        have hask' : book.asks.first?.map (·.1) = some top.bestAsk := by rw [hask, hbestAsk]; rfl
        exact ⟨⟨rfl, rfl, hbid', hask', ⟨bid, ask, hbid, hask, htop⟩, himbalances⟩, rfl, rfl, rfl,
          _, rfl⟩
  · cases h

/-- The parts features are calculated from. -/
theorem calculateFeatures_parts
    (h : book.calculateFeatures ops update bookAppliedAt featuresReadyAt =
      some (.ok (features, rolling))) :
    depthFeatures ops book.bids book.asks features.mid features.spread =
        some features.toDepthFeatures ∧
      features.receivedAt = update.receivedAt ∧
      rollingFeatures ops book.rolling features.mid features.imbalanceL10 features.receivedAt =
        some ((features.imbalanceVelocityPerSecond, features.imbalancePersistence,
          features.shortHorizonBookVolatilityBps), rolling) := by
  unfold calculateFeatures at h
  split at h
  · simp only [Option.bind_eq_bind, Option.bind_eq_some_iff] at h
    obtain ⟨calculated, -, h⟩ := h
    cases calculated with
    | error e => cases h
    | ok top =>
        simp only [Option.bind_eq_some_iff] at h
        obtain ⟨imbalances, -, depth, hdepth, ⟨values, window⟩, hrolling, h⟩ := h
        cases h
        exact ⟨hdepth, rfl, hrolling⟩
  · cases h

theorem calculateFeatures_ne_error
    (hadd : ops.AddPositive) (huncrossed : Uncrossed book.bids book.asks)
    (hbids : PositiveSide book.bids)
    (hasks : PositiveSide book.asks) :
    book.calculateFeatures ops update bookAppliedAt featuresReadyAt ≠ some (.error e) := by
  obtain ⟨bid, ask, hbid, hask, -⟩ := huncrossed
  intro h
  unfold calculateFeatures at h
  rw [hbid, hask] at h
  simp only [Option.bind_eq_bind, Option.bind_eq_some_iff] at h
  obtain ⟨calculated, htop, h⟩ := h
  cases calculated with
  | error e =>
      exact topFeatures_ne_error hadd (hbids bid (SortedMap.mem_of_last? hbid)).2
        (hasks ask (SortedMap.mem_of_first? hask)).2 htop
  | ok top =>
      simp only [Option.bind_eq_some_iff] at h
      obtain ⟨_, -, _, -, _, -, h⟩ := h
      cases h

/-! ## The two states -/

/-- What a valid book holds. -/
structure Live (ops : DecimalOps) (book : OkxLevel2Book) : Prop where
  valid : book.valid = true
  bids : book.bids.size ≤ okxLevel2MaxDepth
  asks : book.asks.size ≤ okxLevel2MaxDepth
  positiveBids : PositiveSide book.bids
  positiveAsks : PositiveSide book.asks
  uncrossed : Uncrossed book.bids book.asks
  features : ∃ features, book.features = some features ∧
    FeaturesOf ops book.bids book.asks features ∧ features.epoch = book.epoch ∧
      features.generation = book.generation ∧ book.sequenceId = some features.sequenceId
  rolling : 1 ≤ book.rolling.length ∧ book.rolling.length ≤ featureRollingWindow

/-- What a book that is not valid holds: nothing. -/
structure Cleared (book : OkxLevel2Book) : Prop where
  valid : book.valid = false
  bids : book.bids = SortedMap.empty
  asks : book.asks = SortedMap.empty
  sequenceId : book.sequenceId = none
  features : book.features = none
  rolling : book.rolling = []

/-- A book is live or empty, never in between. -/
def Coherent (ops : DecimalOps) (book : OkxLevel2Book) : Prop := Live ops book ∨ Cleared book

theorem cleared_invalidate (book : OkxLevel2Book) : Cleared book.invalidate :=
  ⟨rfl, rfl, rfl, rfl, rfl, rfl⟩

theorem cleared_new (instrumentId : OkxSpotInstrumentId) : Cleared (new instrumentId) :=
  ⟨rfl, rfl, rfl, rfl, rfl, rfl⟩

theorem Coherent.live (h : Coherent ops book) (hvalid : book.valid = true) : Live ops book := by
  rcases h with h | h
  · exact h
  · rw [h.valid] at hvalid
    cases hvalid

/-- A valid book has a sequence id. -/
theorem Coherent.not_early (h : Coherent ops book) (hvalid : book.valid = true) :
    ¬ (book.valid = false ∨ book.sequenceId = none) := by
  obtain ⟨features, -, -, -, -, hsequence⟩ := (h.live hvalid).features
  simp [hvalid, hsequence]

/-- What is to hold of a book before its features are calculated. -/
structure Ready (book : OkxLevel2Book) (sequenceId : ℤ) : Prop where
  valid : book.valid = true
  bids : book.bids.size ≤ okxLevel2MaxDepth
  asks : book.asks.size ≤ okxLevel2MaxDepth
  positiveBids : PositiveSide book.bids
  positiveAsks : PositiveSide book.asks
  uncrossed : Uncrossed book.bids book.asks
  sequenceId : book.sequenceId = some sequenceId
  rolling : book.rolling.length ≤ featureRollingWindow

theorem ready_of_snapshotBook {data : OkxLevel2Data} (hdata : data.Validated)
    (h : book.snapshotBook data = .ok next) : Ready next data.sequenceId := by
  obtain ⟨hbids, hasks, huncrossed, rfl⟩ := snapshotBook_of_ok h
  exact ⟨rfl, hbids, hasks, positiveSide_snapshotLevels hdata.bids,
    positiveSide_snapshotLevels hdata.asks, huncrossed, rfl, Nat.zero_le _⟩

theorem ready_of_incrementBook {data : OkxLevel2Data} {current : ℤ} (hdata : data.Validated)
    (hlive : Live ops book) (h : book.incrementBook current data = .ok next) :
    Ready next data.sequenceId := by
  obtain ⟨-, -, -, -, huncrossed, rfl⟩ := incrementBook_eq_ok.1 h
  have hbids := positiveSide_setLevels hlive.positiveBids hdata.bids
  have hasks := positiveSide_setLevels hlive.positiveAsks hdata.asks
  have hbidSize := size_best_le (setLevels book.bids data.bids) .bid
  have haskSize := size_best_le (setLevels book.asks data.asks) .ask
  exact ⟨hlive.valid, hbidSize, haskSize, positiveSide_best hbids .bid,
    positiveSide_best hasks .ask,
    huncrossed, rfl, hlive.rolling.2⟩

theorem live_of_ready (h : Ready next update.data.sequenceId)
    (hfeatures : next.calculateFeatures ops update bookAppliedAt featuresReadyAt =
      some (.ok (features, rolling))) :
    Live ops { next with features := some features, rolling } := by
  obtain ⟨hof, hepoch, hgeneration, hsequence, point, rfl⟩ := calculateFeatures_of_ok hfeatures
  exact ⟨h.valid, h.bids, h.asks, h.positiveBids, h.positiveAsks, h.uncrossed,
    ⟨features, rfl, hof, hepoch, hgeneration, hsequence ▸ h.sequenceId⟩, length_pushPoint h.rolling⟩

/-! ## Calls -/

variable {result : ApplyResult}

/-- Every message keeps a book to the two states. -/
theorem coherent_apply (hdata : update.data.Validated) (h : Coherent ops book)
    (happly : book.applyWithClock ops update bookAppliedAt featuresReadyAt = some (result, book')) :
    Coherent ops book' := by
  cases apply_cases happly with
  | mismatch => exact h
  | early => exact h
  | heartbeat => exact h
  | rejected => exact .inr (cleared_invalidate _)
  | uncalculated => exact .inr (cleared_invalidate _)
  | snapshot next features rolling haction hnext hfeatures =>
      exact .inl (live_of_ready (ready_of_snapshotBook hdata hnext) hfeatures)
  | increment current next features rolling haction hvalid hsequence hnext hfeatures =>
      exact .inl (live_of_ready (ready_of_incrementBook hdata (h.live hvalid) hnext) hfeatures)

/-! ## Runs -/

/-- The calls of the stream. -/
inductive Call where
  | apply (update : OkxLevel2Update) (bookAppliedAt featuresReadyAt : Instant)
  | invalidate
  deriving DecidableEq, Repr

/-- What a call answers. -/
def answer (ops : DecimalOps) (book : OkxLevel2Book) :
    Call → Option (Option ApplyResult × OkxLevel2Book)
  | .apply update bookAppliedAt featuresReadyAt =>
      (book.applyWithClock ops update bookAppliedAt featuresReadyAt).map fun reply =>
        (some reply.1, reply.2)
  | .invalidate => some (none, book.invalidate)

/-- A call whose message, if it has one, is validated. -/
def Call.Validated : Call → Prop
  | .apply update _ _ => update.data.Validated
  | .invalidate => True

variable {call : Call} {reply : Option ApplyResult}

theorem answer_apply (h : book.answer ops (.apply update bookAppliedAt featuresReadyAt) =
    some (reply, book')) : ∃ result, reply = some result ∧
      book.applyWithClock ops update bookAppliedAt featuresReadyAt = some (result, book') := by
  obtain ⟨⟨result, next⟩, happly, heq⟩ := Option.map_eq_some_iff.1 h
  cases heq
  exact ⟨result, rfl, happly⟩

theorem coherent_answer (hcall : call.Validated) (h : Coherent ops book)
    (hanswer : book.answer ops call = some (reply, book')) : Coherent ops book' := by
  cases call with
  | apply update bookAppliedAt featuresReadyAt =>
      obtain ⟨result, -, happly⟩ := answer_apply hanswer
      exact coherent_apply hcall h happly
  | invalidate =>
      cases hanswer
      exact .inr (cleared_invalidate book)

/-! ## Counters -/

theorem le_saturatingSucc {n : ℕ} (h : n ≤ 2 ^ 64 - 1) : n ≤ saturatingSucc n := by
  unfold saturatingSucc
  omega

/-- The counters are 64-bit numbers. -/
structure Counted (book : OkxLevel2Book) : Prop where
  epoch : book.epoch ≤ 2 ^ 64 - 1
  generation : book.generation ≤ 2 ^ 64 - 1

/-- The counters of one book are not behind those of another. -/
structure NotBehind (book book' : OkxLevel2Book) : Prop where
  counted : Counted book'
  epoch : book.epoch ≤ book'.epoch
  generation : book.generation ≤ book'.generation

theorem notBehind_refl (h : Counted book) : NotBehind book book := ⟨h, le_rfl, le_rfl⟩

theorem notBehind_snapshotBook {data : OkxLevel2Data} (h : Counted book)
    (hnext : book.snapshotBook data = .ok next) : NotBehind book next := by
  obtain ⟨-, -, -, rfl⟩ := snapshotBook_of_ok hnext
  exact ⟨⟨min_le_right _ _, min_le_right _ _⟩, le_saturatingSucc h.epoch,
    le_saturatingSucc h.generation⟩

theorem notBehind_incrementBook {data : OkxLevel2Data} {current : ℤ} (h : Counted book)
    (hnext : book.incrementBook current data = .ok next) : NotBehind book next := by
  obtain ⟨-, -, -, -, -, rfl⟩ := incrementBook_eq_ok.1 hnext
  exact ⟨⟨h.epoch, min_le_right _ _⟩, le_rfl, le_saturatingSucc h.generation⟩

theorem NotBehind.congr (h : NotBehind book next) (hepoch : book'.epoch = next.epoch)
    (hgeneration : book'.generation = next.generation) : NotBehind book book' :=
  ⟨⟨hepoch ▸ h.counted.epoch, hgeneration ▸ h.counted.generation⟩, hepoch ▸ h.epoch,
    hgeneration ▸ h.generation⟩

theorem notBehind_answer (h : Counted book)
    (hanswer : book.answer ops call = some (reply, book')) : NotBehind book book' := by
  cases call with
  | apply update bookAppliedAt featuresReadyAt =>
      obtain ⟨result, -, happly⟩ := answer_apply hanswer
      cases apply_cases happly with
      | mismatch => exact notBehind_refl h
      | early => exact notBehind_refl h
      | heartbeat => exact notBehind_refl h
      | rejected => exact (notBehind_refl h).congr rfl rfl
      | uncalculated e next hnext hfeatures =>
          rcases hnext with hnext | ⟨current, -, hnext⟩
          · exact (notBehind_snapshotBook h hnext).congr rfl rfl
          · exact (notBehind_incrementBook h hnext).congr rfl rfl
      | snapshot next features rolling haction hnext hfeatures =>
          exact (notBehind_snapshotBook h hnext).congr rfl rfl
      | increment current next features rolling haction hvalid hsequence hnext hfeatures =>
          exact (notBehind_incrementBook h hnext).congr rfl rfl
  | invalidate =>
      cases hanswer
      exact (notBehind_refl h).congr rfl rfl

variable {calls : List Call} {run : List (Call × Option ApplyResult)}

theorem notBehind_trace (h : Counted book)
    (hrun : trace (answer ops) book calls = some (run, book')) : NotBehind book book' := by
  refine trace_invariant (notBehind_refl h) ?_ hrun
  intro mid call reply last _ hmid hanswer
  have hlast := notBehind_answer hmid.counted hanswer
  exact ⟨hlast.counted, hmid.epoch.trans hlast.epoch, hmid.generation.trans hlast.generation⟩

/-! ## Every reachable state -/

/-- The book `calculate_features` is called on by a message. -/
def Calculates (book : OkxLevel2Book) (data : OkxLevel2Data) (next : OkxLevel2Book) : Prop :=
  book.snapshotBook data = .ok next ∨ ∃ current, book.valid = true ∧
    book.sequenceId = some current ∧ book.incrementBook current data = .ok next

theorem Coherent.calculates {data : OkxLevel2Data} (h : Coherent ops book) (hdata : data.Validated)
    (hnext : Calculates book data next) : Ready next data.sequenceId := by
  rcases hnext with hnext | ⟨current, hvalid, -, hnext⟩
  · exact ready_of_snapshotBook hdata hnext
  · exact ready_of_incrementBook hdata (h.live hvalid) hnext

/-- What holds in every reachable state. -/
structure StateSound (ops : DecimalOps) (book : OkxLevel2Book) : Prop where
  coherent : Coherent ops book
  counters : ∀ calls run book', trace (answer ops) book calls = some (run, book') →
    book.epoch ≤ book'.epoch ∧ book.generation ≤ book'.generation
  calculates : ∀ (update : OkxLevel2Update) (next : OkxLevel2Book)
    (bookAppliedAt featuresReadyAt : Instant) (e : OkxLevel2BookError), update.data.Validated →
      Calculates book update.data next →
        next.calculateFeatures ops update bookAppliedAt featuresReadyAt ≠ some (.error e)

/-- **A Level-2 book is valid and complete, or empty**, in every state that validated messages and
invalidations lead to; its counters never decrease, and its features never fail. -/
theorem level2Book_coherent (ops : DecimalOps) (hadd : ops.AddPositive)
    (instrumentId : OkxSpotInstrumentId) (calls : List Call)
    (hcalls : ∀ call ∈ calls, call.Validated) (run : List (Call × Option ApplyResult))
    (book : OkxLevel2Book) (hrun : trace (answer ops) (new instrumentId) calls = some (run, book)) :
    StateSound ops book := by
  have hnew : Counted (new instrumentId) := ⟨Nat.zero_le _, Nat.zero_le _⟩
  have hcoherent : Coherent ops book := trace_invariant (.inr (cleared_new instrumentId))
    (fun _ call _ _ hmem h hanswer => coherent_answer (hcalls call hmem) h hanswer) hrun
  have hcounted : Counted book := (notBehind_trace hnew hrun).counted
  refine ⟨hcoherent, fun calls run book' h => ?_, ?_⟩
  · have hlater := notBehind_trace hcounted h
    exact ⟨hlater.epoch, hlater.generation⟩
  · intro update next bookAppliedAt featuresReadyAt e hdata hnext
    have hready := hcoherent.calculates hdata hnext
    exact calculateFeatures_ne_error hadd hready.uncrossed hready.positiveBids hready.positiveAsks

/-! ## A small book -/

/-- A snapshot of one bid and one ask. -/
def demoSnapshot : OkxLevel2Update where
  instrumentId := []
  action := .snapshot
  data := { asks := [⟨101, 2, 1⟩], bids := [⟨100, 1, 1⟩], ts := 1, sequenceId := 7,
            previousSequenceId := -1 }
  receivedAt := 0
  parsedAt := 0

/-- An update after the snapshot: one more bid, and the ask replaced. -/
def demoUpdate : OkxLevel2Update where
  instrumentId := []
  action := .update
  data := { asks := [⟨101, 3, 1⟩], bids := [⟨99, 4, 2⟩], ts := 2, sequenceId := 9,
            previousSequenceId := 7 }
  receivedAt := 1000000
  parsedAt := 1000000

/-- An update before which one was lost. -/
def demoGap : OkxLevel2Update where
  instrumentId := []
  action := .update
  data := { asks := [], bids := [⟨98, 1, 1⟩], ts := 3, sequenceId := 12, previousSequenceId := 11 }
  receivedAt := 2000000
  parsedAt := 2000000

/-- The snapshot that the book recovers with. -/
def demoRecovery : OkxLevel2Update where
  instrumentId := []
  action := .snapshot
  data := { asks := [⟨102, 1, 2⟩, ⟨103, 4, 1⟩], bids := [⟨100, 3, 1⟩, ⟨98, 1, 1⟩], ts := 4,
            sequenceId := 20, previousSequenceId := -1 }
  receivedAt := 3000000
  parsedAt := 3000000

/-- An update after it: the best ask is gone. -/
def demoLater : OkxLevel2Update where
  instrumentId := []
  action := .update
  data := { asks := [⟨102, 0, 0⟩], bids := [⟨101, 2, 1⟩], ts := 5, sequenceId := 21,
            previousSequenceId := 20 }
  receivedAt := 4000000
  parsedAt := 4000000

/-- A snapshot with its update, a refusal, and the recovery. -/
def demoCalls : List Call :=
  [.apply demoSnapshot 0 0, .apply demoUpdate 0 0, .apply demoGap 0 0, .apply demoRecovery 0 0]

theorem demoCalls_validated : ∀ call ∈ demoCalls, call.Validated := by
  intro call hcall
  simp only [demoCalls, List.mem_cons, List.not_mem_nil, or_false] at hcall
  rcases hcall with rfl | rfl | rfl | rfl
  · show demoSnapshot.data.Validated
    decide +kernel
  · show demoUpdate.data.Validated
    decide +kernel
  · show demoGap.data.Validated
    decide +kernel
  · show demoRecovery.data.Validated
    decide +kernel

/-- The book after the recovery, one refusal later than its first snapshot. -/
theorem level2Book_coherent_demo : ∃ run book,
    trace (answer .exact) (new []) demoCalls = some (run, book) ∧ book.valid = true ∧
      run.countP (fun entry => entry.2.any (·.toOption.isNone)) = 1 ∧ StateSound .exact book := by
  have hruns : ((trace (answer .exact) (new []) demoCalls).map fun ended =>
      (ended.2.valid, ended.1.countP fun entry => entry.2.any (·.toOption.isNone))) =
        some (true, 1) := by
    decide +kernel
  obtain ⟨⟨run, book⟩, hrun, hended⟩ := Option.map_eq_some_iff.1 hruns
  obtain ⟨hvalid, hrefused⟩ := Prod.mk.inj hended
  exact ⟨run, book, hrun, hvalid, hrefused, level2Book_coherent .exact DecimalOps.addPositive_exact
    [] _ demoCalls_validated run book hrun⟩

end OkxTrading.OkxLevel2Book
