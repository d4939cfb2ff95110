import OkxTrading.Market.Level2

/-!
# What the sides of a book should be

The levels of a message as an operation on a side, without the checks: each listed price is
replaced, or removed where its quantity is zero, and the best prices are kept.

* `setLevels`, `snapshotLevels`, `best` — the operations.
* `buildSnapshotSide_eq`, `applySide_eq_ok`, `trimToDepth_eq` — the code computes them, and exactly
  when it reports an error instead.
* `OkxLevel2Book.apply_cases` — everything a call can do.
-/

namespace OkxTrading

open Collections

variable {side side' : BookSide} {seen : List Decimal} {levels : List OkxLevel2Level}
  {update : OkxLevel2Level} {price : Decimal}

/-- The listed price is replaced, or removed where its quantity is zero. -/
def setLevel (side : BookSide) (level : OkxLevel2Level) : BookSide :=
  if level.quantity = 0 then side.erase level.price
  else side.insert level.price ⟨level.quantity, level.orderCount⟩

/-- The levels of a message set one after another. -/
def setLevels (side : BookSide) (levels : List OkxLevel2Level) : BookSide :=
  levels.foldl setLevel side

/-- The levels of a snapshot that have a quantity. -/
def snapshotLevels (levels : List OkxLevel2Level) : BookSide :=
  setLevels SortedMap.empty (levels.filter fun level => decide (level.quantity ≠ 0))

/-- The best prices, as many as a book holds: the highest bids, the lowest asks. -/
def best (side : BookSide) : BookSideName → BookSide
  | .bid => side.lastN okxLevel2MaxDepth
  | .ask => side.firstN okxLevel2MaxDepth

@[simp] theorem setLevels_nil (side : BookSide) : setLevels side [] = side := rfl

@[simp] theorem setLevels_cons (side : BookSide) (level : OkxLevel2Level)
    (rest : List OkxLevel2Level) :
    setLevels side (level :: rest) = setLevels (setLevel side level) rest := rfl

theorem get?_setLevel : (setLevel side update).get? price = if price = update.price then
    if update.quantity = 0 then none else some ⟨update.quantity, update.orderCount⟩
    else side.get? price := by
  unfold setLevel
  split <;> simp

/-- What every level of the side and every listed level with a quantity has, the levels after it
have. -/
theorem forall_setLevels {P : PricedLevel → Prop} (hside : ∀ e ∈ side.entries, P e)
    (h : ∀ level ∈ levels, level.quantity ≠ 0 →
      P (level.price, ⟨level.quantity, level.orderCount⟩)) :
    ∀ e ∈ (setLevels side levels).entries, P e := by
  induction levels generalizing side with
  | nil => exact hside
  | cons update rest ih =>
      have hupdate := h update List.mem_cons_self
      refine ih (fun e he => ?_) fun level hlevel => h level (List.mem_cons_of_mem _ hlevel)
      unfold setLevel at he
      split at he
      · exact hside e (SortedMap.mem_erase.1 he).1
      · rename_i hzero
        rcases SortedMap.mem_insert.1 he with rfl | ⟨he, -⟩
        · exact hupdate hzero
        · exact hside e he

theorem forall_snapshotLevels {P : PricedLevel → Prop}
    (h : ∀ level ∈ levels, level.quantity ≠ 0 →
      P (level.price, ⟨level.quantity, level.orderCount⟩)) :
    ∀ e ∈ (snapshotLevels levels).entries, P e :=
  forall_setLevels (by simp) fun level hlevel => h level (List.mem_of_mem_filter hlevel)

theorem forall_best {P : PricedLevel → Prop} (h : ∀ e ∈ side.entries, P e) (name : BookSideName) :
    ∀ e ∈ (best side name).entries, P e := by
  cases name with
  | bid => exact fun e he => h e (SortedMap.mem_of_mem_lastN he)
  | ask => exact fun e he => h e (SortedMap.mem_of_mem_firstN he)

theorem OkxLevel2Level.Valid.positive (h : update.Valid) (hzero : update.quantity ≠ 0) :
    0 < update.price ∧ 0 < update.quantity :=
  ⟨h.price, lt_of_le_of_ne h.quantity (Ne.symm hzero)⟩

theorem positiveSide_setLevels (hside : PositiveSide side) (h : ∀ level ∈ levels, level.Valid) :
    PositiveSide (setLevels side levels) :=
  forall_setLevels hside fun level hlevel => (h level hlevel).positive

theorem positiveSide_snapshotLevels (h : ∀ level ∈ levels, level.Valid) :
    PositiveSide (snapshotLevels levels) :=
  forall_snapshotLevels fun level hlevel => (h level hlevel).positive

theorem positiveSide_best (h : PositiveSide side) (name : BookSideName) :
    PositiveSide (best side name) :=
  forall_best h name

theorem size_best_le (side : BookSide) (name : BookSideName) :
    (best side name).size ≤ okxLevel2MaxDepth := by
  cases name with
  | bid => exact SortedMap.size_lastN_le
  | ask => exact SortedMap.size_firstN_le

theorem best_of_size_le (h : side.size ≤ okxLevel2MaxDepth) (name : BookSideName) :
    best side name = side := by
  cases name with
  | bid => exact SortedMap.lastN_of_size_le h
  | ask => exact SortedMap.firstN_of_size_le h

/-! ## Snapshots -/

theorem buildSnapshotSideFrom_eq (h : buildSnapshotSideFrom side levels = .ok side') :
    side' = setLevels side (levels.filter fun level => decide (level.quantity ≠ 0)) := by
  induction levels generalizing side with
  | nil =>
      cases h
      rfl
  | cons update rest ih =>
      rw [buildSnapshotSideFrom] at h
      split at h
      · rename_i hzero
        rw [List.filter_cons_of_neg (by simpa using hzero)]
        exact ih h
      · rename_i hzero
        split at h
        · cases h
        · rw [List.filter_cons_of_pos (by simpa using hzero), setLevels_cons, setLevel,
            if_neg hzero]
          exact ih h

/-- A side the code builds from a snapshot is the levels of the snapshot. -/
theorem buildSnapshotSide_eq (h : buildSnapshotSide levels = .ok side') :
    side' = snapshotLevels levels :=
  buildSnapshotSideFrom_eq h

theorem size_setLevels_le (side : BookSide) (levels : List OkxLevel2Level) :
    (setLevels side levels).size ≤ side.size + levels.length := by
  induction levels generalizing side with
  | nil => exact le_rfl
  | cons update rest ih =>
      have hfirst : (setLevel side update).size ≤ side.size + 1 := by
        unfold setLevel
        split
        · exact SortedMap.size_erase_le.trans (Nat.le_succ _)
        · exact SortedMap.size_insert_le
      have hrest := ih (setLevel side update)
      rw [setLevels_cons, List.length_cons]
      omega

theorem size_snapshotLevels_le (levels : List OkxLevel2Level) :
    (snapshotLevels levels).size ≤ levels.length := by
  have hsize := size_setLevels_le SortedMap.empty
    (levels.filter fun level => decide (level.quantity ≠ 0))
  have hfilter :=
    List.length_filter_le (fun level : OkxLevel2Level => decide (level.quantity ≠ 0)) levels
  have hempty : (SortedMap.empty : BookSide).size = 0 := rfl
  unfold snapshotLevels
  omega

/-! ## Updates -/

/-- An update lists no price twice and removes only prices that are there. -/
structure Applicable (side : BookSide) (levels : List OkxLevel2Level) : Prop where
  unique : (levels.map (·.price)).Nodup
  known : ∀ level ∈ levels, level.quantity = 0 → (side.get? level.price).isSome

theorem Applicable.rest {rest : List OkxLevel2Level}
    (h : Applicable side (update :: rest)) : Applicable (setLevel side update) rest := by
  have hunique := h.unique
  rw [List.map_cons, List.nodup_cons] at hunique
  refine ⟨hunique.2, fun level hlevel hzero => ?_⟩
  have hne : level.price ≠ update.price := fun heq =>
    hunique.1 (heq ▸ List.mem_map_of_mem hlevel)
  rw [get?_setLevel, if_neg hne]
  exact h.known level (List.mem_cons_of_mem _ hlevel) hzero

/-- One level of an update. -/
theorem applySideFrom_cons {rest : List OkxLevel2Level} :
    applySideFrom side seen (update :: rest) = .ok side' ↔ update.price ∉ seen ∧
      (update.quantity = 0 → (side.get? update.price).isSome) ∧
        applySideFrom (setLevel side update) (update.price :: seen) rest = .ok side' := by
  rw [applySideFrom, setLevel]
  by_cases hseen : update.price ∈ seen
  · simp [hseen]
  · rw [if_neg hseen]
    by_cases hzero : update.quantity = 0
    · rw [if_pos hzero, if_pos hzero]
      cases hget : side.get? update.price <;> simp [hseen, hzero]
    · simp [hzero, hseen]

/-- An update is applied where it lists no price twice, none seen before, and removes only prices
that are there; then the result is its levels set. -/
theorem applySideFrom_eq_ok : applySideFrom side seen levels = .ok side' ↔
    Applicable side levels ∧ (∀ level ∈ levels, level.price ∉ seen) ∧
      side' = setLevels side levels := by
  induction levels generalizing side seen with
  | nil =>
      constructor
      · intro h
        cases h
        exact ⟨⟨List.nodup_nil, by simp⟩, by simp, rfl⟩
      · rintro ⟨-, -, rfl⟩
        rfl
  | cons update rest ih =>
      rw [applySideFrom_cons, ih, setLevels_cons]
      constructor
      · rintro ⟨hfresh, hknown, happlicable, hseen, rfl⟩
        have hother : ∀ level ∈ rest, level.price ≠ update.price := fun level hlevel heq =>
          hseen level hlevel (heq ▸ List.mem_cons_self)
        refine ⟨⟨?_, ?_⟩, ?_, rfl⟩
        · rw [List.map_cons, List.nodup_cons]
          refine ⟨fun hmem => ?_, happlicable.unique⟩
          obtain ⟨level, hlevel, heq⟩ := List.mem_map.1 hmem
          exact hother level hlevel heq
        · intro level hlevel hzero
          rcases List.mem_cons.1 hlevel with rfl | hlevel
          · exact hknown hzero
          · have hget := happlicable.known level hlevel hzero
            rwa [get?_setLevel, if_neg (hother level hlevel)] at hget
        · intro level hlevel
          rcases List.mem_cons.1 hlevel with rfl | hlevel
          · exact hfresh
          · exact fun hmem => hseen level hlevel (List.mem_cons_of_mem _ hmem)
      · rintro ⟨happlicable, hseen, rfl⟩
        have hunique := happlicable.unique
        rw [List.map_cons, List.nodup_cons] at hunique
        refine ⟨hseen update List.mem_cons_self, happlicable.known update List.mem_cons_self,
          happlicable.rest, fun level hlevel hmem => ?_, rfl⟩
        rcases List.mem_cons.1 hmem with heq | hmem
        · exact hunique.1 (heq ▸ List.mem_map_of_mem hlevel)
        · exact hseen level (List.mem_cons_of_mem _ hlevel) hmem

/-- The code applies exactly the updates that are applicable, and sets their levels. -/
theorem applySide_eq_ok : applySide side levels = .ok side' ↔
    Applicable side levels ∧ side' = setLevels side levels := by
  simp [applySide, applySideFrom_eq_ok]

/-! ## Trimming -/

theorem worstLevel_ne_none {name : BookSideName} (h : okxLevel2MaxDepth < side.size) :
    worstLevel side name ≠ none := by
  have hne : side.entries ≠ [] := SortedMap.size_pos.1 (Nat.zero_lt_of_lt h)
  cases name with
  | bid => simpa [worstLevel, SortedMap.first?] using hne
  | ask => simpa [worstLevel, SortedMap.last?] using hne

/-- Without its worst price a side that is too deep has the same best ones. -/
theorem best_erase_worst {name : BookSideName} {level : PricedLevel}
    (hworst : worstLevel side name = some level) (h : okxLevel2MaxDepth < side.size) :
    level ∈ side.entries ∧ best (side.erase level.1) name = best side name := by
  cases name with
  | bid => exact ⟨SortedMap.mem_of_first? hworst, SortedMap.lastN_erase_first hworst h⟩
  | ask => exact ⟨SortedMap.mem_of_last? hworst, SortedMap.firstN_erase_last hworst h⟩

theorem trimRounds_eq (name : BookSideName) : ∀ (rounds : ℕ) (side : BookSide),
    side.size ≤ okxLevel2MaxDepth + rounds → trimRounds name rounds side = best side name := by
  intro rounds
  induction rounds with
  | zero => exact fun side h => (best_of_size_le h name).symm
  | succ rounds ih =>
      intro side h
      rw [trimRounds]
      split
      · rename_i hdeep
        cases hworst : worstLevel side name with
        | none => exact absurd hworst (worstLevel_ne_none hdeep)
        | some level =>
            obtain ⟨hmem, hbest⟩ := best_erase_worst hworst hdeep
            have hsize := SortedMap.size_erase_of_mem hmem
            exact (ih _ (by omega)).trans hbest
      · rename_i hfits
        exact (best_of_size_le (le_of_not_gt hfits) name).symm

/-- Trimming keeps the best prices. -/
theorem trimToDepth_eq (side : BookSide) (name : BookSideName) :
    trimToDepth side name = best side name :=
  trimRounds_eq name _ _ (Nat.le_add_left _ _)

/-- Both sides are filled, and the best bid is below the best ask. -/
def Uncrossed (bids asks : BookSide) : Prop :=
  ∃ bestBid bestAsk, bids.last? = some bestBid ∧ asks.first? = some bestAsk ∧ bestBid.1 < bestAsk.1

theorem validateBook_eq_ok {bids asks : BookSide} {u : Unit} :
    validateBook bids asks = .ok u ↔ Uncrossed bids asks := by
  unfold validateBook Uncrossed
  cases bids.last? with
  | none => simp
  | some bestBid =>
      cases asks.first? with
      | none => simp
      | some bestAsk => simp

namespace OkxLevel2Book

open Effect

variable {book next : OkxLevel2Book} {data : OkxLevel2Data} {current : ℤ}

/-- The sides an update leads to. -/
def updatedBids (book : OkxLevel2Book) (data : OkxLevel2Data) : BookSide :=
  best (setLevels book.bids data.bids) .bid

/-- The asks that an update leaves, within the depth. -/
def updatedAsks (book : OkxLevel2Book) (data : OkxLevel2Data) : BookSide :=
  best (setLevels book.asks data.asks) .ask

/-- What a snapshot the book takes leaves for the features. -/
theorem snapshotBook_of_ok (h : book.snapshotBook data = .ok next) :
    (snapshotLevels data.bids).size ≤ okxLevel2MaxDepth ∧
      (snapshotLevels data.asks).size ≤ okxLevel2MaxDepth ∧
      Uncrossed (snapshotLevels data.bids) (snapshotLevels data.asks) ∧
      next = { book with
        bids := snapshotLevels data.bids, asks := snapshotLevels data.asks, valid := true,
        epoch := saturatingSucc book.epoch, generation := saturatingSucc book.generation,
        sequenceId := some data.sequenceId, rolling := [] } := by
  unfold snapshotBook at h
  split at h
  · cases h
  · rename_i hdepth
    simp only [bind_eq_ok, pure_eq_ok] at h
    obtain ⟨bids, hbids, asks, hasks, u, hvalid, rfl⟩ := h
    obtain rfl := buildSnapshotSide_eq hbids
    obtain rfl := buildSnapshotSide_eq hasks
    have hbidSize := size_snapshotLevels_le data.bids
    have haskSize := size_snapshotLevels_le data.asks
    exact ⟨by omega, by omega, validateBook_eq_ok.1 hvalid, rfl⟩

/-- An update is taken exactly where it goes on from the current sequence id, is applicable to both
sides, and leads to sides that are filled and do not cross. -/
theorem incrementBook_eq_ok : book.incrementBook current data = .ok next ↔
    data.previousSequenceId = current ∧ current < data.sequenceId ∧
      Applicable book.bids data.bids ∧ Applicable book.asks data.asks ∧
      Uncrossed (book.updatedBids data) (book.updatedAsks data) ∧
      next = { book with
        bids := book.updatedBids data, asks := book.updatedAsks data,
        generation := saturatingSucc book.generation, sequenceId := some data.sequenceId } := by
  unfold incrementBook updatedBids updatedAsks
  by_cases hprevious : data.previousSequenceId = current
  · by_cases hsequence : data.sequenceId ≤ current
    · simp [hprevious, hsequence]
    · rw [if_neg (not_not.2 hprevious), if_neg hsequence]
      simp only [bind_eq_ok, pure_eq_ok, applySide_eq_ok, trimToDepth_eq, validateBook_eq_ok]
      constructor
      · rintro ⟨bids, ⟨hbids, rfl⟩, asks, ⟨hasks, rfl⟩, -, hvalid, rfl⟩
        exact ⟨hprevious, lt_of_not_ge hsequence, hbids, hasks, hvalid, rfl⟩
      · rintro ⟨-, -, hbids, hasks, hvalid, rfl⟩
        exact ⟨_, ⟨hbids, rfl⟩, _, ⟨hasks, rfl⟩, (), hvalid, rfl⟩
  · simp [hprevious]

/-! ## Everything a call can do -/

variable (ops : DecimalOps)

/-- What a message can do to a book, and what the call returns. -/
inductive Applied (book : OkxLevel2Book) (update : OkxLevel2Update)
    (bookAppliedAt featuresReadyAt : Instant) : ApplyResult → OkxLevel2Book → Prop
  | mismatch (hinstrument : update.instrumentId ≠ book.instrumentId) :
      Applied book update bookAppliedAt featuresReadyAt
        (.error (.instrumentMismatch book.instrumentId update.instrumentId)) book
  | early (haction : update.action = .update)
      (hnone : book.valid = false ∨ book.sequenceId = none) :
      Applied book update bookAppliedAt featuresReadyAt (.error .updateBeforeSnapshot) book
  | heartbeat (current : ℤ) (haction : update.action = .update) (hvalid : book.valid = true)
      (hsequence : book.sequenceId = some current) (hheartbeat : isHeartbeat update.data current) :
      Applied book update bookAppliedAt featuresReadyAt (.ok .heartbeat) book
  | rejected (e : OkxLevel2BookError) (hinstrument : update.instrumentId = book.instrumentId) :
      Applied book update bookAppliedAt featuresReadyAt (.error e) book.invalidate
  | uncalculated (e : OkxLevel2BookError) (next : OkxLevel2Book)
      (hnext : book.snapshotBook update.data = .ok next ∨ ∃ current,
        book.valid = true ∧ book.incrementBook current update.data = .ok next)
      (hfeatures : next.calculateFeatures ops update bookAppliedAt featuresReadyAt =
        some (.error e)) :
      Applied book update bookAppliedAt featuresReadyAt (.error e) next.invalidate
  | snapshot (next : OkxLevel2Book) (features : OkxLevel2FeatureSnapshot)
      (rolling : List RollingFeaturePoint) (haction : update.action = .snapshot)
      (hnext : book.snapshotBook update.data = .ok next)
      (hfeatures : next.calculateFeatures ops update bookAppliedAt featuresReadyAt =
        some (.ok (features, rolling))) :
      Applied book update bookAppliedAt featuresReadyAt (.ok (.features features))
        { next with features := some features, rolling }
  | increment (current : ℤ) (next : OkxLevel2Book) (features : OkxLevel2FeatureSnapshot)
      (rolling : List RollingFeaturePoint) (haction : update.action = .update)
      (hvalid : book.valid = true) (hsequence : book.sequenceId = some current)
      (hnext : book.incrementBook current update.data = .ok next)
      (hfeatures : next.calculateFeatures ops update bookAppliedAt featuresReadyAt =
        some (.ok (features, rolling))) :
      Applied book update bookAppliedAt featuresReadyAt (.ok (.features features))
        { next with features := some features, rolling }

variable {ops} {update : OkxLevel2Update} {bookAppliedAt featuresReadyAt : Instant}
  {result : ApplyResult} {book' : OkxLevel2Book}

theorem finishFeatures_cases
    (h : next.finishFeatures ops update bookAppliedAt featuresReadyAt = some (result, book')) :
    (∃ e, next.calculateFeatures ops update bookAppliedAt featuresReadyAt = some (.error e) ∧
      result = .error e ∧ book' = next.invalidate) ∨ ∃ features rolling,
      next.calculateFeatures ops update bookAppliedAt featuresReadyAt =
        some (.ok (features, rolling)) ∧ result = .ok (.features features) ∧
        book' = { next with features := some features, rolling } := by
  unfold finishFeatures at h
  cases hfeatures : next.calculateFeatures ops update bookAppliedAt featuresReadyAt with
  | none =>
      rw [hfeatures] at h
      cases h
  | some calculated =>
      rw [hfeatures] at h
      cases calculated with
      | error e =>
          cases h
          exact .inl ⟨e, rfl, rfl, rfl⟩
      | ok calculated =>
          cases h
          exact .inr ⟨_, _, rfl, rfl, rfl⟩

/-- **Everything a call can do.** -/
theorem apply_cases
    (h : book.applyWithClock ops update bookAppliedAt featuresReadyAt = some (result, book')) :
    Applied ops book update bookAppliedAt featuresReadyAt result book' := by
  unfold applyWithClock at h
  split at h
  · rename_i hinstrument
    cases h
    exact .mismatch hinstrument
  · rename_i hinstrument
    have hinstrument := not_not.1 hinstrument
    split at h
    · rename_i haction
      unfold applySnapshot at h
      split at h
      · cases h
        exact .rejected _ hinstrument
      · rename_i next hnext
        rcases finishFeatures_cases h with ⟨e, hf, rfl, rfl⟩ | ⟨features, rolling, hf, rfl, rfl⟩
        · exact .uncalculated e next (.inl hnext) hf
        · exact .snapshot next features rolling haction hnext hf
    · rename_i haction
      unfold applyIncrement at h
      split at h
      · rename_i hinvalid
        cases h
        exact .early haction (.inl hinvalid)
      · rename_i hvalid
        have hvalid := eq_true_of_ne_false hvalid
        split at h
        · rename_i hnone
          cases h
          exact .early haction (.inr hnone)
        · rename_i current hsequence
          split at h
          · rename_i hheartbeat
            cases h
            exact .heartbeat current haction hvalid hsequence hheartbeat
          · split at h
            · cases h
              exact .rejected _ hinstrument
            · rename_i next hnext
              rcases finishFeatures_cases h with ⟨e, hf, rfl, rfl⟩ |
                ⟨features, rolling, hf, rfl, rfl⟩
              · exact .uncalculated e next (.inr ⟨current, hvalid, hnext⟩) hf
              · exact .increment current next features rolling haction hvalid hsequence hnext hf

/-- A book stays with its instrument. -/
theorem instrumentId_apply
    (h : book.applyWithClock ops update bookAppliedAt featuresReadyAt = some (result, book')) :
    book'.instrumentId = book.instrumentId := by
  cases apply_cases h with
  | mismatch => rfl
  | early => rfl
  | heartbeat => rfl
  | rejected => rfl
  | uncalculated e next hnext =>
      rcases hnext with hnext | ⟨current, -, hnext⟩
      · obtain ⟨-, -, -, rfl⟩ := snapshotBook_of_ok hnext
        rfl
      · obtain ⟨-, -, -, -, -, rfl⟩ := incrementBook_eq_ok.1 hnext
        rfl
  | snapshot next features rolling haction hnext =>
      obtain ⟨-, -, -, rfl⟩ := snapshotBook_of_ok hnext
      rfl
  | increment current next features rolling haction hvalid hsequence hnext =>
      obtain ⟨-, -, -, -, -, rfl⟩ := incrementBook_eq_ok.1 hnext
      rfl

end OkxLevel2Book

end OkxTrading
