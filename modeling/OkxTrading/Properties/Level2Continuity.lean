import OkxTrading.Properties.Level2State

/-!
# Exact reconstruction with strict continuity

A valid book is its last snapshot and the updates since, each of which went on from the one before
it.  Whatever does not go on clears the book, and nothing is taken again before a new snapshot.

* `Reconstructed` — what a valid book is; `reconstructed_answer` — every call keeps it.
* `Defective` — the updates that are refused; `apply_defective` — how.
* `level2Book_reconstructed` — both, for every run.
-/

namespace OkxTrading.OkxLevel2Book

open Collections Effect

variable {ops : DecimalOps} {book next book' : OkxLevel2Book} {update snapshot : OkxLevel2Update}
  {bookAppliedAt featuresReadyAt : Instant} {result : ApplyResult} {call : Call}
  {reply : Option ApplyResult} {instrumentId : OkxSpotInstrumentId}

/-- An entry of a run: a call and what it answered. -/
abbrev Entry := Call × Option ApplyResult

/-- The message a book took, with features for it. -/
def accepted : Entry → Option OkxLevel2Update
  | (.apply update _ _, some (.ok (.features _))) => some update
  | _ => none

/-- The book took a snapshot. -/
def AcceptedSnapshot (entry : Entry) : Prop :=
  ∃ update, accepted entry = some update ∧ update.action = .snapshot

/-- The entry is an update that was accepted. -/
def AcceptedUpdate (entry : Entry) : Prop :=
  ∃ update, accepted entry = some update ∧ update.action = .update

/-- An update without levels, answered as a heartbeat. -/
def Heartbeat (entry : Entry) : Prop :=
  ∃ update bookAppliedAt featuresReadyAt, entry.1 = .apply update bookAppliedAt featuresReadyAt ∧
    update.action = .update ∧ update.data.asks = [] ∧ update.data.bids = [] ∧
    entry.2 = some (.ok .heartbeat)

/-- A message for another instrument, refused as that. -/
def Foreign (instrumentId : OkxSpotInstrumentId) (entry : Entry) : Prop :=
  ∃ update bookAppliedAt featuresReadyAt, entry.1 = .apply update bookAppliedAt featuresReadyAt ∧
    update.instrumentId ≠ instrumentId ∧
    entry.2 = some (.error (.instrumentMismatch instrumentId update.instrumentId))

/-- The sides after the messages taken since a snapshot. -/
def foldBids (snapshot : OkxLevel2Update) (updates : List OkxLevel2Update) : BookSide :=
  updates.foldl (fun side update => best (setLevels side update.data.bids) .bid)
    (snapshotLevels snapshot.data.bids)

/-- The asks that a snapshot and the updates after it lead to. -/
def foldAsks (snapshot : OkxLevel2Update) (updates : List OkxLevel2Update) : BookSide :=
  updates.foldl (fun side update => best (setLevels side update.data.asks) .ask)
    (snapshotLevels snapshot.data.asks)

/-- Each message goes on from the one before it. -/
def Continues (before after : OkxLevel2Update) : Prop :=
  after.data.previousSequenceId = before.data.sequenceId ∧
    before.data.sequenceId < after.data.sequenceId

/-- The last snapshot a book took, and what the run did to it since. -/
structure ReconstructedFrom (instrumentId : OkxSpotInstrumentId) (snapshot : OkxLevel2Update)
    (later : List Entry) (book : OkxLevel2Book) : Prop where
  action : snapshot.action = .snapshot
  others : ∀ entry ∈ later, AcceptedUpdate entry ∨ Heartbeat entry ∨ Foreign instrumentId entry
  chain : (snapshot :: later.filterMap accepted).IsChain Continues
  sequenceId : book.sequenceId =
    (snapshot :: later.filterMap accepted).getLast?.map (·.data.sequenceId)
  bids : book.bids = foldBids snapshot (later.filterMap accepted)
  asks : book.asks = foldAsks snapshot (later.filterMap accepted)

/-- The run contains a snapshot that the book is reconstructed from. -/
def Reconstructed (instrumentId : OkxSpotInstrumentId) (run : List Entry)
    (book : OkxLevel2Book) : Prop :=
  ∃ earlier entry snapshot later, run = earlier ++ entry :: later ∧
    accepted entry = some snapshot ∧ ReconstructedFrom instrumentId snapshot later book

variable {run later : List Entry} {entry : Entry}

/-! ## One call -/

/-- An entry that leaves the book alone. -/
theorem ReconstructedFrom.same (h : ReconstructedFrom instrumentId snapshot later book)
    (hentry : Heartbeat entry ∨ Foreign instrumentId entry) (hnone : accepted entry = none) :
    ReconstructedFrom instrumentId snapshot (later ++ [entry]) book := by
  have hfilter : (later ++ [entry]).filterMap accepted = later.filterMap accepted := by
    simp [List.filterMap_append, hnone]
  refine ⟨h.action, ?_, hfilter ▸ h.chain, hfilter ▸ h.sequenceId, hfilter ▸ h.bids,
    hfilter ▸ h.asks⟩
  intro e he
  rcases List.mem_append.1 he with he | he
  · exact h.others e he
  · rw [List.mem_singleton.1 he]
    exact .inr hentry

/-- An update that goes on. -/
theorem ReconstructedFrom.goOn (h : ReconstructedFrom instrumentId snapshot later book)
    {current : ℤ} (hsequence : book.sequenceId = some current)
    (haccepted : accepted entry = some update) (haction : update.action = .update)
    (hprevious : update.data.previousSequenceId = current)
    (hcurrent : current < update.data.sequenceId)
    (hbids : book'.bids = book.updatedBids update.data)
    (hasks : book'.asks = book.updatedAsks update.data)
    (hsequence' : book'.sequenceId = some update.data.sequenceId) :
    ReconstructedFrom instrumentId snapshot (later ++ [entry]) book' := by
  have hfilter : (later ++ [entry]).filterMap accepted = later.filterMap accepted ++ [update] := by
    simp [List.filterMap_append, haccepted]
  refine ⟨h.action, ?_, ?_, ?_, ?_, ?_⟩
  · intro e he
    rcases List.mem_append.1 he with he | he
    · exact h.others e he
    · rw [List.mem_singleton.1 he]
      exact .inl ⟨update, haccepted, haction⟩
  · rw [hfilter, ← List.cons_append, List.isChain_append]
    refine ⟨h.chain, List.isChain_singleton _, fun x hx y hy => ?_⟩
    have hlast : x.data.sequenceId = current := by
      have hbook := h.sequenceId
      rw [hsequence, Option.mem_def.1 hx] at hbook
      exact (Option.some.inj hbook).symm
    have hy : update = y := by simpa using hy
    subst hy
    exact ⟨hprevious.trans hlast.symm, hlast ▸ hcurrent⟩
  · rw [hfilter, ← List.cons_append, List.getLast?_concat]
    exact hsequence'
  · rw [hfilter, hbids, updatedBids, h.bids]
    simp [foldBids, List.foldl_append]
  · rw [hfilter, hasks, updatedAsks, h.asks]
    simp [foldAsks, List.foldl_append]

/-- What every call keeps. -/
structure Kept (ops : DecimalOps) (instrumentId : OkxSpotInstrumentId) (run : List Entry)
    (book : OkxLevel2Book) : Prop where
  instrument : book.instrumentId = instrumentId
  coherent : Coherent ops book
  reconstructed : book.valid = true → Reconstructed instrumentId run book

theorem kept_invalidate (hinstrument : book.instrumentId = instrumentId) :
    Kept ops instrumentId run book.invalidate :=
  ⟨hinstrument, .inr (cleared_invalidate book), fun h => by cases h⟩

/-- A call that leaves the book alone. -/
theorem Kept.same (h : Kept ops instrumentId run book)
    (hentry : book.valid = true → Heartbeat entry ∨ Foreign instrumentId entry)
    (hnone : accepted entry = none) : Kept ops instrumentId (run ++ [entry]) book := by
  refine ⟨h.instrument, h.coherent, fun hvalid => ?_⟩
  obtain ⟨earlier, first, snapshot, later, rfl, hfirst, hfrom⟩ := h.reconstructed hvalid
  exact ⟨earlier, first, snapshot, later ++ [entry], by simp, hfirst,
    hfrom.same (hentry hvalid) hnone⟩

theorem kept_apply (hdata : update.data.Validated) (h : Kept ops instrumentId run book)
    (happly : book.applyWithClock ops update bookAppliedAt featuresReadyAt = some (result, book')) :
    Kept ops instrumentId (run ++ [(.apply update bookAppliedAt featuresReadyAt, some result)])
      book' := by
  have hcoherent := coherent_apply hdata h.coherent happly
  cases apply_cases happly with
  | mismatch hinstrument =>
      rw [h.instrument] at hinstrument ⊢
      exact h.same (fun _ => .inr ⟨update, _, _, rfl, hinstrument, rfl⟩) rfl
  | early haction hnone =>
      exact h.same (fun hvalid => absurd hnone (h.coherent.not_early hvalid)) rfl
  | heartbeat current haction hvalid hsequence hheartbeat =>
      exact h.same (fun _ => .inl ⟨update, _, _, rfl, haction, hheartbeat.1, hheartbeat.2.1, rfl⟩)
        rfl
  | rejected => exact kept_invalidate h.instrument
  | uncalculated e next hnext hfeatures =>
      have hnext : next.invalidate.instrumentId = book.instrumentId := instrumentId_apply happly
      exact kept_invalidate (hnext.trans h.instrument)
  | snapshot next features rolling haction hnext hfeatures =>
      obtain ⟨-, -, -, rfl⟩ := snapshotBook_of_ok hnext
      exact ⟨h.instrument, hcoherent, fun _ => ⟨run, _, update, [], rfl, rfl,
        ⟨haction, by simp, List.isChain_singleton _, rfl, rfl, rfl⟩⟩⟩
  | increment current next features rolling haction hvalid hsequence hnext hfeatures =>
      obtain ⟨hprevious, hcurrent, -, -, -, rfl⟩ := incrementBook_eq_ok.1 hnext
      refine ⟨h.instrument, hcoherent, fun _ => ?_⟩
      obtain ⟨earlier, first, snapshot, later, rfl, hfirst, hfrom⟩ := h.reconstructed hvalid
      exact ⟨earlier, first, snapshot, later ++ [_],
        List.append_assoc earlier (first :: later) [_], hfirst,
        hfrom.goOn hsequence rfl haction hprevious hcurrent rfl rfl rfl⟩

theorem kept_answer (hcall : call.Validated) (h : Kept ops instrumentId run book)
    (hanswer : book.answer ops call = some (reply, book')) :
    Kept ops instrumentId (run ++ [(call, reply)]) book' := by
  cases call with
  | apply update bookAppliedAt featuresReadyAt =>
      obtain ⟨result, rfl, happly⟩ := answer_apply hanswer
      exact kept_apply hcall h happly
  | invalidate =>
      cases hanswer
      exact kept_invalidate h.instrument

/-! ## Refusals -/

/-- An update that does not go on from the current sequence id; a heartbeat is not one. -/
def BreaksChain (data : OkxLevel2Data) (current : ℤ) : Prop :=
  data.previousSequenceId ≠ current ∨ data.sequenceId ≤ current ∧ ¬ isHeartbeat data current

/-- An update that lists a price twice. -/
def RepeatsPrice (data : OkxLevel2Data) : Prop :=
  ¬ (data.bids.map (·.price)).Nodup ∨ ¬ (data.asks.map (·.price)).Nodup

/-- An update that removes a price its side does not have. -/
def RemovesUnknown (book : OkxLevel2Book) (data : OkxLevel2Data) : Prop :=
  (∃ level ∈ data.bids, level.quantity = 0 ∧ book.bids.get? level.price = none) ∨
    ∃ level ∈ data.asks, level.quantity = 0 ∧ book.asks.get? level.price = none

/-- An update that is to be refused. -/
def Defective (book : OkxLevel2Book) (current : ℤ) (data : OkxLevel2Data) : Prop :=
  BreaksChain data current ∨ RepeatsPrice data ∨ RemovesUnknown book data ∨
    ¬ Uncrossed (book.updatedBids data) (book.updatedAsks data)

theorem setLevels_of_heartbeat {data : OkxLevel2Data} {current : ℤ} (hlive : Live ops book)
    (h : isHeartbeat data current) :
    book.updatedBids data = book.bids ∧ book.updatedAsks data = book.asks := by
  unfold updatedBids updatedAsks
  rw [h.1, h.2.1]
  exact ⟨best_of_size_le hlive.bids .bid, best_of_size_le hlive.asks .ask⟩

/-- A heartbeat is never defective. -/
theorem not_isHeartbeat_of_defective {data : OkxLevel2Data} {current : ℤ} (hlive : Live ops book)
    (hdefective : Defective book current data) : ¬ isHeartbeat data current := by
  intro h
  rcases hdefective with hbreaks | hrepeats | hremoves | hcrossed
  · rcases hbreaks with hprevious | hsequence
    · exact hprevious h.2.2.2
    · exact hsequence.2 h
  · unfold RepeatsPrice at hrepeats
    rw [h.1, h.2.1] at hrepeats
    simp at hrepeats
  · unfold RemovesUnknown at hremoves
    rw [h.1, h.2.1] at hremoves
    simp at hremoves
  · obtain ⟨hbids, hasks⟩ := setLevels_of_heartbeat hlive h
    rw [hbids, hasks] at hcrossed
    exact hcrossed hlive.uncrossed

/-- A defective update leads to no book. -/
theorem incrementBook_of_defective {data : OkxLevel2Data} {current : ℤ}
    (hdefective : Defective book current data) :
    ∃ e, book.incrementBook current data = .error e := by
  cases hnext : book.incrementBook current data with
  | error e => exact ⟨e, rfl⟩
  | ok next =>
      obtain ⟨hprevious, hcurrent, hbids, hasks, huncrossed, -⟩ := incrementBook_eq_ok.1 hnext
      rcases hdefective with hbreaks | hrepeats | hremoves | hcrossed
      · rcases hbreaks with hne | hle
        · exact absurd hprevious hne
        · exact absurd hcurrent (not_lt_of_ge hle.1)
      · rcases hrepeats with h | h
        · exact absurd hbids.unique h
        · exact absurd hasks.unique h
      · rcases hremoves with ⟨level, hlevel, hzero, hnone⟩ | ⟨level, hlevel, hzero, hnone⟩
        · have hknown := hbids.known level hlevel hzero
          rw [hnone] at hknown
          cases hknown
        · have hknown := hasks.known level hlevel hzero
          rw [hnone] at hknown
          cases hknown
      · exact absurd huncrossed hcrossed

/-- **A defective update is refused as a whole**: it clears the book and leaves its counters. -/
theorem apply_defective (hlive : Live ops book) {current : ℤ}
    (hsequence : book.sequenceId = some current)
    (hinstrument : update.instrumentId = book.instrumentId) (haction : update.action = .update)
    (hdefective : Defective book current update.data) : ∃ e,
      book.applyWithClock ops update bookAppliedAt featuresReadyAt =
        some (.error e, book.invalidate) := by
  have hheartbeat := not_isHeartbeat_of_defective hlive hdefective
  obtain ⟨e, he⟩ := incrementBook_of_defective hdefective
  refine ⟨e, ?_⟩
  unfold applyWithClock
  rw [if_neg (not_not.2 hinstrument), haction]
  dsimp only
  unfold applyIncrement
  rw [if_neg (by simp [hlive.valid]), hsequence]
  dsimp only
  rw [if_neg hheartbeat, he]

theorem apply_foreign (hbook : book.instrumentId = instrumentId)
    (hinstrument : update.instrumentId ≠ instrumentId) :
    book.applyWithClock ops update bookAppliedAt featuresReadyAt =
      some (.error (.instrumentMismatch instrumentId update.instrumentId), book) := by
  subst hbook
  exact if_pos hinstrument

theorem apply_early (hinstrument : update.instrumentId = book.instrumentId)
    (haction : update.action = .update) (hinvalid : book.valid = false) :
    book.applyWithClock ops update bookAppliedAt featuresReadyAt =
      some (.error .updateBeforeSnapshot, book) := by
  unfold applyWithClock
  rw [if_neg (not_not.2 hinstrument), haction]
  exact if_pos hinvalid

/-! ## After a refusal -/

/-- Every update that was taken has a snapshot before it. -/
def SnapshotsFirst (run : List Entry) : Prop :=
  ∀ earlier entry later, run = earlier ++ entry :: later → AcceptedUpdate entry →
    ∃ snapshot ∈ earlier, AcceptedSnapshot snapshot

theorem SnapshotsFirst.concat (hnew : accepted entry = none ∨ AcceptedSnapshot entry ∨
      ∃ snapshot ∈ run, AcceptedSnapshot snapshot) (h : SnapshotsFirst run) :
    SnapshotsFirst (run ++ [entry]) := by
  intro earlier e later heq haccepted
  rcases List.eq_nil_or_concat later with rfl | ⟨front, last, rfl⟩
  · obtain ⟨rfl, hlast⟩ := List.append_inj' heq rfl
    obtain rfl := (List.cons.inj hlast).1
    obtain ⟨update, hupdate, haction⟩ := haccepted
    rcases hnew with hnone | ⟨update', hupdate', haction'⟩ | hsnapshot
    · rw [hnone] at hupdate
      cases hupdate
    · rw [hupdate] at hupdate'
      cases hupdate'
      rw [haction] at haction'
      cases haction'
    · exact hsnapshot
  · have hfront : run ++ [entry] = (earlier ++ e :: front) ++ [last] := by simpa using heq
    exact h earlier e front (List.append_inj' hfront rfl).1 haccepted

/-- What a call answers: nothing is taken, or a snapshot is, or a valid book takes an update. -/
theorem answer_accepted (hanswer : book.answer ops call = some (reply, book')) :
    accepted (call, reply) = none ∧ (book'.valid = true → book.valid = true) ∨
      AcceptedSnapshot (call, reply) ∨ book.valid = true := by
  cases call with
  | apply update bookAppliedAt featuresReadyAt =>
      obtain ⟨result, rfl, happly⟩ := answer_apply hanswer
      cases apply_cases happly with
      | mismatch => exact .inl ⟨rfl, id⟩
      | early => exact .inl ⟨rfl, id⟩
      | heartbeat => exact .inl ⟨rfl, id⟩
      | rejected => exact .inl ⟨rfl, fun h => by cases h⟩
      | uncalculated => exact .inl ⟨rfl, fun h => by cases h⟩
      | snapshot next features rolling haction => exact .inr (.inl ⟨update, rfl, haction⟩)
      | increment current next features rolling haction hvalid => exact .inr (.inr hvalid)
  | invalidate =>
      cases hanswer
      exact .inl ⟨rfl, fun h => by cases h⟩

/-- From a book that is not valid, no update is taken before a snapshot. -/
theorem snapshotsFirst_trace {calls : List Call} (hinvalid : book.valid = false)
    (hrun : trace (answer ops) book calls = some (run, book')) : SnapshotsFirst run := by
  refine (trace_induction (P := fun run (book : OkxLevel2Book) => SnapshotsFirst run ∧
    (book.valid = true → ∃ snapshot ∈ run, AcceptedSnapshot snapshot)) ⟨?_, ?_⟩ ?_ hrun).1
  · intro earlier entry later heq
    cases earlier <;> cases heq
  · intro hvalid
    rw [hinvalid] at hvalid
    cases hvalid
  · rintro run book call reply book' - ⟨hfirst, hsnapshot⟩ hanswer
    have hmore : (∃ snapshot ∈ run, AcceptedSnapshot snapshot) →
        ∃ snapshot ∈ run ++ [(call, reply)], AcceptedSnapshot snapshot := by
      rintro ⟨snapshot, hmem, hs⟩
      exact ⟨snapshot, List.mem_append_left _ hmem, hs⟩
    rcases answer_accepted hanswer with ⟨hnone, hvalid⟩ | hnew | hvalid
    · exact ⟨SnapshotsFirst.concat (.inl hnone) hfirst, fun h => hmore (hsnapshot (hvalid h))⟩
    · exact ⟨SnapshotsFirst.concat (.inr (.inl hnew)) hfirst,
        fun _ => ⟨_, List.mem_append_right _ List.mem_cons_self, hnew⟩⟩
    · exact ⟨SnapshotsFirst.concat (.inr (.inr (hsnapshot hvalid))) hfirst,
        fun _ => hmore (hsnapshot hvalid)⟩

/-! ## Every run -/

/-- What every run says of the book it leads to, and what that book refuses. -/
structure ContinuitySound (ops : DecimalOps) (instrumentId : OkxSpotInstrumentId)
    (run : List Entry) (book : OkxLevel2Book) : Prop where
  reconstructed : book.valid = true → Reconstructed instrumentId run book
  /-- The sequence ids of the messages taken since the snapshot increase. -/
  increasing : ∀ snapshot later, ReconstructedFrom instrumentId snapshot later book →
    ((snapshot :: later.filterMap accepted).map (·.data.sequenceId)).Pairwise (· < ·)
  defective : ∀ (update : OkxLevel2Update) (current : ℤ) (bookAppliedAt featuresReadyAt : Instant),
    book.valid = true → book.sequenceId = some current → update.instrumentId = instrumentId →
      update.action = .update → Defective book current update.data → ∃ e,
        book.applyWithClock ops update bookAppliedAt featuresReadyAt =
          some (.error e, book.invalidate)
  cleared : Cleared book.invalidate ∧ book.invalidate.epoch = book.epoch ∧
    book.invalidate.generation = book.generation
  /-- Nothing is taken after a refusal before a snapshot is. -/
  snapshotsFirst : ∀ (calls : List Call) (later : List Entry) (book' : OkxLevel2Book),
    trace (answer ops) book.invalidate calls = some (later, book') → SnapshotsFirst later
  foreign : ∀ (update : OkxLevel2Update) (bookAppliedAt featuresReadyAt : Instant),
    update.instrumentId ≠ instrumentId →
      book.applyWithClock ops update bookAppliedAt featuresReadyAt =
        some (.error (.instrumentMismatch instrumentId update.instrumentId), book)
  early : ∀ (update : OkxLevel2Update) (bookAppliedAt featuresReadyAt : Instant),
    book.valid = false → update.instrumentId = instrumentId → update.action = .update →
      book.applyWithClock ops update bookAppliedAt featuresReadyAt =
        some (.error .updateBeforeSnapshot, book)

theorem ReconstructedFrom.increasing (h : ReconstructedFrom instrumentId snapshot later book) :
    ((snapshot :: later.filterMap accepted).map (·.data.sequenceId)).Pairwise (· < ·) := by
  rw [← List.isChain_iff_pairwise, List.isChain_map]
  exact h.chain.imp fun _ _ hcontinues => hcontinues.2

/-- **A valid book is reconstructed exactly and without a gap**, in every run of validated messages
and invalidations, and what would leave a gap is refused as a whole. -/
theorem level2Book_reconstructed (ops : DecimalOps) (instrumentId : OkxSpotInstrumentId)
    (calls : List Call) (hcalls : ∀ call ∈ calls, call.Validated) (run : List Entry)
    (book : OkxLevel2Book) (hrun : trace (answer ops) (new instrumentId) calls = some (run, book)) :
    ContinuitySound ops instrumentId run book := by
  have hnew : Kept ops instrumentId [] (new instrumentId) :=
    ⟨rfl, .inr (cleared_new instrumentId), fun h => by cases h⟩
  have hkept : Kept ops instrumentId run book :=
    trace_induction hnew
      (fun _ _ call _ _ hmem h hanswer => kept_answer (hcalls call hmem) h hanswer)
      hrun
  have hinstrument := hkept.instrument
  refine ⟨hkept.reconstructed, fun _ _ h => h.increasing, ?_, ⟨cleared_invalidate book, rfl, rfl⟩,
    fun _ _ _ h => snapshotsFirst_trace rfl h, ?_, ?_⟩
  · intro update current bookAppliedAt featuresReadyAt hvalid hsequence hid haction hdefective
    exact apply_defective (hkept.coherent.live hvalid) hsequence
      (hid.trans hinstrument.symm) haction
      hdefective
  · intro update bookAppliedAt featuresReadyAt hid
    exact apply_foreign hinstrument hid
  · intro update bookAppliedAt featuresReadyAt hinvalid hid haction
    exact apply_early (hid.trans hinstrument.symm) haction hinvalid

/-- The book after the recovery. -/
theorem level2Book_reconstructed_demo : ∃ run book,
    trace (answer .exact) (new []) demoCalls = some (run, book) ∧ book.valid = true ∧
      ContinuitySound .exact [] run book := by
  have hruns : ((trace (answer .exact) (new []) demoCalls).map (·.2.valid)) = some true := by
    decide +kernel
  obtain ⟨⟨run, book⟩, hrun, hvalid⟩ := Option.map_eq_some_iff.1 hruns
  exact ⟨run, book, hrun, hvalid,
    level2Book_reconstructed .exact [] _ demoCalls_validated run book hrun⟩

end OkxTrading.OkxLevel2Book
