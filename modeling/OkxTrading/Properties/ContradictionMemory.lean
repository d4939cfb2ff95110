import OkxTrading.Properties.MetadataLatch

/-!
# What becomes of a contradicting message

A message that contradicts the remembered row blocks orders through the cache of messages until a
check sets the latch.  It is never evicted there, but it expires, it gives way to a newer message,
and one without a timestamp is not cached at all.

* `InstrumentHints.get?_evict` — the message of a configured instrument is not evicted.
* `Remembers` — the steps after which the message still counts.
* `contradiction_remembered` — **in every run of such steps all later orders are refused**.
* `contradiction_forgotten` — the runs in which it is lost.
-/

namespace OkxTrading

open Effect

/-! ## The cache -/

namespace InstrumentHints

variable {hints : InstrumentHints} {protectedKeys : List Text} {instId : Text}

/-- The message is cached: it has a timestamp, and the cached one is not newer. -/
def Accepts (hints : InstrumentHints) (hint : OkxInstrumentUpdateHint) : Prop :=
  hint.sourceTsMs.isSome = true ∧
    shouldIgnoreHint ((hints.get? hint.instrument.instId).bind (·.sourceTsMs)) hint.sourceTsMs =
      false

theorem get?_erase_ne {key : Text} (h : instId ≠ key) :
    (hints.erase key).get? instId = hints.get? instId :=
  AList.lookup_erase_ne h

theorem get?_insert_ne {hint : OkxInstrumentUpdateHint} (h : instId ≠ hint.instrument.instId) :
    (hints.insert hint).get? instId = hints.get? instId :=
  AList.lookup_insert_ne h

/-- With room for all protected keys, a full cache holds one that is not protected. -/
theorem exists_unprotected (hmax : protectedKeys.length ≤ okxMarketDataCacheMaxHintsPerKind)
    (hfull : okxMarketDataCacheMaxHintsPerKind < hints.entries.entries.length) :
    ∃ entry ∈ hints.entries.entries, entry.1 ∉ protectedKeys := by
  by_contra hall
  push Not at hall
  have hsubset : hints.entries.keys ⊆ protectedKeys := by
    intro key hkey
    obtain ⟨entry, hentry, rfl⟩ := List.mem_map.1 hkey
    exact hall entry hentry
  have hkeys : hints.entries.keys.length = hints.entries.entries.length := List.length_map _
  have hlength := (List.Nodup.subperm hints.entries.keys_nodup hsubset).length_le
  omega

/-- **The message of a protected instrument is never evicted.** -/
theorem get?_evict (walk : InstrumentHintWalk) (hinst : instId ∈ protectedKeys)
    (hmax : protectedKeys.length ≤ okxMarketDataCacheMaxHintsPerKind) (rounds : ℕ)
    (hints : InstrumentHints) :
    (evictRoundsExcept walk protectedKeys rounds hints).get? instId = hints.get? instId := by
  induction rounds generalizing hints with
  | zero => rfl
  | succ rounds ih =>
      rw [evictRoundsExcept]
      split
      · rename_i hfull
        obtain ⟨entry, hentry, hunprotected⟩ := exists_unprotected hmax hfull
        have hmem : entry ∈ (walk.walk hints).filter fun entry =>
            decide (entry.1 ∉ protectedKeys) :=
          List.mem_filter.2 ⟨(walk.perm hints).mem_iff.2 hentry, by simpa using hunprotected⟩
        cases holdest : ((walk.walk hints).filter fun entry =>
            decide (entry.1 ∉ protectedKeys)).argmin fun entry => entry.2.receivedAt with
        | none =>
            rw [List.argmin_eq_none.1 holdest] at hmem
            cases hmem
        | some oldest =>
            have hout : oldest.1 ∉ protectedKeys := by
              simpa using (List.mem_filter.1 (List.argmin_mem holdest)).2
            have hne : instId ≠ oldest.1 := fun heq => hout (heq ▸ hinst)
            show (evictRoundsExcept walk protectedKeys rounds
              (hints.erase oldest.1)).get? instId = _
            rw [ih, get?_erase_ne hne]
      · rfl

end InstrumentHints

/-! ## A message -/

section Message

variable {walks : ℕ → InstrumentHintWalk} {s : ClientState} {instId : Text}

/-- The instrument is configured, and there is room for all that are. -/
def ClientState.Configured (s : ClientState) (instId : Text) : Prop :=
  instId ∈ s.protectedInstrumentIds ∧
    s.protectedInstrumentIds.length ≤ okxMarketDataCacheMaxHintsPerKind

/-- What the cache holds for a configured instrument after one hint. -/
theorem get?_applyInstrumentHint (walk : InstrumentHintWalk) (hint : OkxInstrumentUpdateHint)
    (h : s.Configured instId) :
    (hint.instrument.instId = instId ∧ s.instrumentHints.Accepts hint ∧
      (applyInstrumentHint walk s hint).instrumentHints.get? instId = some hint) ∨
    (¬ (hint.instrument.instId = instId ∧ s.instrumentHints.Accepts hint) ∧
      (applyInstrumentHint walk s hint).instrumentHints.get? instId =
        s.instrumentHints.get? instId) := by
  obtain ⟨hinst, hmax⟩ := h
  show (hint.instrument.instId = instId ∧ _ ∧
      (insertInstrumentHint walk s.protectedInstrumentIds s.instrumentHints
        hint).2.get? instId = _) ∨
    (_ ∧ (insertInstrumentHint walk s.protectedInstrumentIds s.instrumentHints hint).2.get? instId =
      _)
  unfold insertInstrumentHint InstrumentHints.Accepts
  split
  · rename_i hnone
    refine .inr ⟨?_, rfl⟩
    rintro ⟨-, hsome, -⟩
    rw [Option.isNone_iff_eq_none.1 hnone] at hsome
    cases hsome
  · rename_i hsome
    dsimp only
    split
    · rename_i hstale
      refine .inr ⟨?_, rfl⟩
      rintro ⟨-, -, hfresh⟩
      rw [hstale] at hfresh
      cases hfresh
    · rename_i hfresh
      have hget := InstrumentHints.get?_evict walk hinst hmax
        (s.instrumentHints.insert hint).entries.entries.length (s.instrumentHints.insert hint)
      by_cases heq : hint.instrument.instId = instId
      · refine .inl ⟨heq, ⟨?_, by simpa using hfresh⟩, hget.trans ?_⟩
        · cases hts : hint.sourceTsMs with
          | none => rw [hts] at hsome; exact absurd rfl hsome
          | some ts => rfl
        · rw [← heq]
          exact InstrumentHints.get?_insert _ _
      · exact .inr ⟨fun hcached => heq hcached.1,
          hget.trans (InstrumentHints.get?_insert_ne (Ne.symm heq))⟩

/-- Every row of the message that is cached for the instrument is fresh, and is not live or
contradicts the remembered row. -/
def RowsAlarm (walks : ℕ → InstrumentHintWalk) (instId : Text) (s : ClientState) :
    List OkxInstrumentUpdateHint → Prop
  | [] => True
  | hint :: rest =>
      (hint.instrument.instId = instId → s.instrumentHints.Accepts hint →
        s.now - hint.receivedAt ≤ s.marketDataMaxStaleness ∧
          Alarming hint.instrument (s.instrumentSnapshots instId)) ∧
      RowsAlarm (fun n => walks (n + 1)) instId (applyInstrumentHint (walks 0) s hint) rest

/-- Some row of the message is cached for the instrument. -/
def SomeRowCached (walks : ℕ → InstrumentHintWalk) (instId : Text) (s : ClientState) :
    List OkxInstrumentUpdateHint → Prop
  | [] => False
  | hint :: rest =>
      (hint.instrument.instId = instId ∧ s.instrumentHints.Accepts hint) ∨
      SomeRowCached (fun n => walks (n + 1)) instId (applyInstrumentHint (walks 0) s hint) rest

theorem contradicted_of_get? {hint : OkxInstrumentUpdateHint}
    (hget : s.instrumentHints.get? instId = some hint)
    (hfresh : s.now - hint.receivedAt ≤ s.marketDataMaxStaleness)
    (halarm : Alarming hint.instrument (s.instrumentSnapshots instId)) :
    s.Contradicted instId := by
  refine ⟨hint.instrument, ?_, halarm⟩
  rw [ClientState.freshInstrument, hget]
  exact if_pos hfresh

/-- A hint that leaves the cached message of the instrument alone. -/
theorem blocked_of_get?_eq {t : ClientState} (h : s.Blocked instId)
    (hget : t.instrumentHints.get? instId = s.instrumentHints.get? instId) (hnow : t.now = s.now)
    (hmax : t.marketDataMaxStaleness = s.marketDataMaxStaleness)
    (hsnapshots : t.instrumentSnapshots = s.instrumentSnapshots)
    (hlatches : t.instrumentMetadataSafetyLatches = s.instrumentMetadataSafetyLatches) :
    t.Blocked instId := by
  rcases h with ⟨hint, hfresh, halarm⟩ | ⟨reason, hreason⟩
  · refine .inl ⟨hint, ?_, hsnapshots ▸ halarm⟩
    rw [← hfresh, ClientState.freshInstrument, ClientState.freshInstrument, hget, hnow, hmax]
  · exact .inr ⟨reason, by rw [ClientState.LatchedFor, hlatches]; exact hreason⟩

/-- Whether the instrument was blocked or a row is cached for it, it is blocked after a message
whose cached rows alarm. -/
theorem blocked_applyInstrumentHints {hints : List OkxInstrumentUpdateHint}
    (hconfigured : s.Configured instId) (halarm : RowsAlarm walks instId s hints)
    (h : s.Blocked instId ∨ SomeRowCached walks instId s hints) :
    (applyInstrumentHints walks s hints).Blocked instId := by
  induction hints generalizing walks s with
  | nil =>
      rcases h with h | h
      · exact h
      · exact h.elim
  | cons hint rest ih =>
      refine ih (s := applyInstrumentHint (walks 0) s hint) hconfigured halarm.2 ?_
      rcases get?_applyInstrumentHint (walks 0) hint hconfigured with
        ⟨heq, haccepts, hget⟩ | ⟨hkept, hget⟩
      · obtain ⟨hfresh, hrow⟩ := halarm.1 heq haccepts
        exact .inl (.inl (contradicted_of_get? hget hfresh hrow))
      · rcases h with h | h | h
        · exact .inl (blocked_of_get?_eq h hget rfl rfl rfl rfl)
        · exact absurd h hkept
        · exact .inr h

end Message

/-! ## Steps that remember -/

section Remember

variable {s : ClientState} {instId : Text} {pool received next last : ClientPool}
  {turn : ClientTurn} {turns : List ClientTurn}

/-- Until the latch is set: the cached message does not expire, every message cached in its place
alarms as well, and a row that is remembered is contradicted by it too. -/
def Remembers (instId : Text) (pool : ClientPool) (turn : ClientTurn) : Prop :=
  pool.shared.instrumentMetadataSafetyLatches instId = none →
    match turn with
    | .outside (.elapse ms) => ∀ hint, pool.shared.instrumentHints.get? instId = some hint →
        pool.shared.now + ms - hint.receivedAt ≤ pool.shared.marketDataMaxStaleness
    | .outside (.publicInstruments walks message) =>
        ∀ hints, parsePublicInstruments message = .ok hints →
          RowsAlarm walks instId pool.shared hints
    | .segment k => ∀ row,
        System.waiting pool k = some (.inl (.rememberInstrumentSnapshot row)) →
          row.instId = instId → ∀ hint, pool.shared.freshInstrument instId = some hint →
            Alarming hint (some row)
    | _ => True

theorem configured_blind : CapabilityBlind fun s => s.Configured instId :=
  ⟨fun _ _ h => h, fun _ _ h => h⟩

theorem blocked_blind : CapabilityBlind fun s => s.Blocked instId :=
  ⟨fun _ _ h => h, fun _ _ h => h⟩

/-- Setting any latch blocks no less. -/
theorem blocked_latch {other : Text} {error : Message} (h : s.Blocked instId) :
    (s.latch other error).Blocked instId := by
  rcases h with h | ⟨reason, hreason⟩
  · exact .inl h
  · by_cases heq : instId = other
    · subst heq
      exact .inr ⟨error, Function.update_self _ _ _⟩
    · exact .inr ⟨reason, (Function.update_of_ne heq _ _).trans hreason⟩

theorem latching_op_keeps {I : ClientState → Prop} (hlatch : ∀ s other error, I s →
    I (s.latch other error)) {op : ClientOp} (hop : op.mayLatch = true) (h : I s) :
    I (op.run s).2 := by
  have hcheck : ∀ {other snapshot outcome}, CheckOutcome s other snapshot outcome →
      I outcome.2 := by
    intro other snapshot outcome houtcome
    cases houtcome with
    | latched => exact h
    | passes => exact h
    | latches => exact hlatch _ _ _ h
  cases op with
  | latchInstrumentMetadataFailure other error =>
      show I (latchInstrumentMetadataFailure other error s).2
      rw [latchInstrumentMetadataFailure_eq]
      dsimp only
      split
      · exact h
      · exact hlatch _ _ _ h
  | ensureFreshInstrumentHintMatchesSnapshot other =>
      exact hcheck (ensureFreshInstrumentHintMatchesSnapshot_outcome other s)
  | ensureFreshInstrumentHintMatchesRestSnapshot row =>
      exact hcheck (ensureFreshInstrumentHintMatchesRestSnapshot_outcome row s)
  | _ => cases hop

theorem op_keeps_configured (op : ClientOp) (h : s.Configured instId) :
    (op.run s).2.Configured instId := by
  cases hop : op.mayLatch with
  | false => exact op_preserves configured_blind hop (fun _ _ _ h => h) s h
  | true => exact latching_op_keeps (I := fun s => s.Configured instId) (fun _ _ _ h => h) hop h

/-- A row that is remembered leaves the instrument blocked where the message contradicts it too. -/
theorem blocked_withSnapshot {row : OkxInstrument} (h : s.Blocked instId)
    (hrow : s.instrumentMetadataSafetyLatches instId = none → row.instId = instId →
      ∀ hint, s.freshInstrument instId = some hint → Alarming hint (some row)) :
    (s.withSnapshot row).Blocked instId := by
  cases hlatch : s.instrumentMetadataSafetyLatches instId with
  | some reason => exact .inr ⟨reason, hlatch⟩
  | none =>
      rcases h with ⟨hint, hfresh, halarm⟩ | ⟨reason, hreason⟩
      · refine .inl ⟨hint, hfresh, ?_⟩
        by_cases heq : row.instId = instId
        · have hself : (s.withSnapshot row).instrumentSnapshots instId = some row := by
            rw [← heq]
            exact Function.update_self _ _ _
          rw [hself]
          exact hrow hlatch heq hint hfresh
        · have hother : (s.withSnapshot row).instrumentSnapshots instId =
            s.instrumentSnapshots instId := Function.update_of_ne (Ne.symm heq) _ _
          rwa [hother]
      · rw [ClientState.LatchedFor, hlatch] at hreason
        cases hreason

theorem outside_keeps_configured {event : ClientEvent} {t : ClientState}
    (h : clientOutside s event = some t) (hs : s.Configured instId) : t.Configured instId := by
  have hblind : OutsideBlind (·.protectedInstrumentIds) := fun _ _ _ _ _ _ => rfl
  rw [ClientState.Configured, outside_keeps hblind h]
  exact hs

/-- An event that remembers leaves a configured instrument blocked. -/
theorem outside_remembers {event : ClientEvent} {t : ClientState}
    (h : clientOutside pool.shared event = some t) (hturn : Remembers instId pool (.outside event))
    (hconfigured : pool.shared.Configured instId) (hblocked : pool.shared.Blocked instId) :
    t.Blocked instId := by
  cases hlatch : pool.shared.instrumentMetadataSafetyLatches instId with
  | some reason =>
      have hblind : OutsideBlind (·.instrumentMetadataSafetyLatches) := fun _ _ _ _ _ _ => rfl
      refine .inr ⟨reason, ?_⟩
      rw [ClientState.LatchedFor, outside_keeps hblind h]
      exact hlatch
  | none =>
      have hcond := hturn hlatch
      cases event with
      | elapse ms =>
          cases h
          rcases hblocked with ⟨hint, hfresh, halarm⟩ | ⟨reason, hreason⟩
          · obtain ⟨found, hfound, hsome⟩ := Option.bind_eq_some_iff.1 hfresh
            split at hsome
            · cases hsome
              exact .inl (contradicted_of_get? hfound (hcond found hfound) halarm)
            · cases hsome
          · exact .inr ⟨reason, hreason⟩
      | readiness ready =>
          cases h
          exact blocked_of_get?_eq hblocked rfl rfl rfl rfl rfl
      | publicInstruments walks message =>
          simp only [clientOutside] at h
          split at h
          · cases h
            unfold applyPublicInstruments
            split
            · exact hblocked
            · rename_i hints hparse
              exact blocked_applyInstrumentHints hconfigured (hcond hints hparse) (.inl hblocked)
          · cases h
      | takePublicRuntimeEvent =>
          simp only [clientOutside] at h
          split at h
          · cases h
          · cases h
            exact blocked_of_get?_eq hblocked rfl rfl rfl rfl rfl

/-- What a step that remembers keeps. -/
theorem step_remembers (h : clientSystem.step pool turn = some next)
    (hturn : Remembers instId pool turn)
    (hI : pool.shared.Configured instId ∧ pool.shared.Blocked instId) :
    next.shared.Configured instId ∧ next.shared.Blocked instId := by
  obtain ⟨hconfigured, hblocked⟩ := hI
  rcases System.step_cases h with ⟨event, shared, rfl, hshared, rfl⟩ | ⟨call, -, rfl⟩ |
    ⟨k, call, q, rest, run, rfl, hjob, hrun, rfl⟩ | ⟨k, call, q, rest, answer, -, -, -, rfl⟩
  · exact ⟨outside_keeps_configured hshared hconfigured,
      outside_remembers hshared hturn hconfigured hblocked⟩
  · exact ⟨hconfigured, hblocked⟩
  · cases q with
    | inr query => cases hrun
    | inl op =>
        cases hrun
        refine ⟨op_keeps_configured op hconfigured, ?_⟩
        cases hop : op.mayLatch with
        | true =>
            exact latching_op_keeps (I := fun s => s.Blocked instId)
              (fun _ _ _ h => blocked_latch h) hop hblocked
        | false =>
            cases op with
            | rememberInstrumentSnapshot row =>
                have hwaiting : System.waiting pool k =
                    some (.inl (.rememberInstrumentSnapshot row)) := by
                  rw [System.waiting, hjob]
                  rfl
                exact blocked_withSnapshot hblocked fun hlatch => hturn hlatch row hwaiting
            | _ => exact op_preserves blocked_blind hop (fun _ h => by cases h) _ hblocked
  · exact ⟨hconfigured, hblocked⟩

/-- **A contradicting message is remembered.**  Once a message of a configured instrument is cached
that is not live or contradicts the remembered row, in every run of steps that remember, every call
started after it that creates or amends an order of the instrument, or looks up its ticker, sends
nothing but its reservations and fails. -/
theorem contradiction_remembered {walks : ℕ → InstrumentHintWalk}
    {message : PublicInstrumentsMessage} {hints : List OkxInstrumentUpdateHint}
    (hconfigured : pool.shared.Configured instId)
    (hreceived : clientSystem.step pool (.outside (.publicInstruments walks message)) =
      some received)
    (hparse : parsePublicInstruments message = .ok hints)
    (halarm : RowsAlarm walks instId pool.shared hints)
    (hcached : SomeRowCached walks instId pool.shared hints)
    (hrun : clientSystem.run received turns = some last)
    (halong : clientSystem.Along (fun pool turn _ => Remembers instId pool turn) received turns) :
    ∀ k call rest, received.jobs.length ≤ k → last.jobs[k]? = some ⟨call, rest⟩ →
      call.Checked instId → Refused rest := by
  have hblocked : received.shared.Configured instId ∧ received.shared.Blocked instId := by
    obtain ⟨shared, hshared, rfl⟩ := Option.map_eq_some_iff.1 hreceived
    have hevent : clientOutside pool.shared (.publicInstruments walks message) = some shared :=
      hshared
    refine ⟨outside_keeps_configured hevent hconfigured, ?_⟩
    simp only [clientOutside] at hevent
    split at hevent
    · cases hevent
      unfold applyPublicInstruments
      rw [hparse]
      exact blocked_applyInstrumentHints hconfigured halarm (.inr hcached)
    · cases hevent
  exact (blocked_calls (I := fun s => s.Configured instId ∧ s.Blocked instId)
    (fun _ _ _ hturn hstep hI => step_remembers hstep hturn hI)
    (fun _ hcall => checked_refuses (checkFails_of_blocked fun _ hs => hs.2) hcall) hrun halong
    hblocked).2

end Remember

/-! ## A run that remembers -/

/-- A market order of the sample instrument. -/
def sampleOrder : ClientCall :=
  .placeOrder sampleInstId .buy .market (.value 5) none "order".toList

/-- What the sample instrument is after it was validated. -/
def SampleReady (pool : ClientPool) : Prop :=
  (sampleInstId ∈ pool.shared.protectedInstrumentIds ∧
    pool.shared.protectedInstrumentIds.length ≤ okxMarketDataCacheMaxHintsPerKind) ∧
  pool.shared.instrumentSnapshots sampleInstId = some sampleRow ∧
  pool.shared.instrumentHints.get? sampleInstId = none

instance (pool : ClientPool) : Decidable (SampleReady pool) :=
  inferInstanceAs (Decidable (_ ∧ _ ∧ _))

theorem contradiction_remembered_order : ∃ pool received last rest,
    clientSystem.run sampleStart (clientSystem.script sampleStartup sampleStart) = some pool ∧
      clientSystem.step pool (sampleMessage (.value 5)) = some received ∧
      clientSystem.run received [.start sampleOrder, .segment 2, .segment 2] = some last ∧
      last.jobs[2]? = some ⟨sampleOrder, rest⟩ ∧ Refused rest := by
  have hruns : (clientSystem.run sampleStart (clientSystem.script sampleStartup sampleStart)).any
      fun pool => decide (SampleReady pool ∧ pool.shared.now = 0 ∧
          pool.shared.marketDataMaxStaleness = 1000) &&
        (clientSystem.step pool (sampleMessage (.value 5))).any fun received =>
          decide (received.jobs.length = 2) &&
          (clientSystem.step received (.start sampleOrder)).any fun started =>
            decide (System.waiting started 2 = some (.inl (.validatedOrderRoute sampleInstId))) &&
            (clientSystem.step started (.segment 2)).any fun routed =>
              decide (System.waiting routed 2 = some (.inl
                (.ensureFreshInstrumentHintMatchesSnapshot sampleInstId))) &&
              (clientSystem.step routed (.segment 2)).any fun last =>
                decide (last.jobs[2]?.map (·.call) = some sampleOrder) := by
    decide +kernel
  simp only [Option.any_eq_true, Bool.and_eq_true, decide_eq_true_eq] at hruns
  obtain ⟨pool, hpool, ⟨⟨hconfigured, hsnapshot, hnone⟩, hnow, hmax⟩, received, hreceived, hlength,
    started, hstarted, hroute, routed, hrouted, hcheck, last, hlast, hcall⟩ := hruns
  obtain ⟨⟨call, rest⟩, hjob, hcall⟩ := Option.map_eq_some_iff.1 hcall
  cases hcall
  have hrun : clientSystem.run received [.start sampleOrder, .segment 2, .segment 2] = some last :=
    System.run_cons.2 ⟨started, hstarted, System.run_cons.2 ⟨routed, hrouted,
      System.run_cons.2 ⟨last, hlast, rfl⟩⟩⟩
  refine ⟨pool, received, last, rest, hpool, hreceived, hrun, hjob, ?_⟩
  refine contradiction_remembered hconfigured hreceived rfl ⟨?_, trivial⟩ (.inl ⟨rfl, rfl, ?_⟩) hrun
    ?_ 2 sampleOrder rest (le_of_eq hlength) hjob rfl
  · intro _ _
    refine ⟨?_, ?_⟩
    · rw [hnow, hmax]
      exact Nat.zero_le _
    · rw [hsnapshot]
      exact .inr ⟨_, rfl, .inl (show DecimalText.value 2 ≠ .value 1 by decide)⟩
  · show shouldIgnoreHint ((pool.shared.instrumentHints.get? sampleInstId).bind _) _ = false
    rw [hnone]
    rfl
  · refine System.along_cons hstarted (fun _ => trivial) (System.along_cons hrouted ?_
      (System.along_cons hlast ?_ trivial))
    · intro _ row hrow
      rw [hroute] at hrow
      cases hrow
    · intro _ row hrow
      rw [hcheck] at hrow
      cases hrow

/-! ## Runs that forget -/

/-- After the message, up to the end of an order: the engine drops the event of a message without a
timestamp; a message with one gets too old. -/
def forgettingRun : TimestampText → ClientPool → List ClientTurn
  | .value _ => clientSystem.script [fun _ => [.outside (.elapse 1001), .start sampleOrder],
      clientSystem.turnsOf sampleExchange 2 9]
  | _ => clientSystem.script [fun _ => [.outside .takePublicRuntimeEvent, .start sampleOrder],
      clientSystem.turnsOf sampleExchange 2 9]

/-- The order of the third job was accepted. -/
def thirdSucceeded (pool : ClientPool) : Prop :=
  pool.jobs[2]?.map (fun job => (job.call, job.rest.outcome?)) = some (sampleOrder, some (.ok ()))

instance (pool : ClientPool) : Decidable (thirdSucceeded pool) :=
  inferInstanceAs (Decidable (_ = _))

/-- A call is started that fetches the row of an instrument. -/
def startsFetch : ClientTurn → Bool
  | .start (.instruments _ _) => true
  | .start (.validateTradingInstrument _ _) => true
  | _ => false

/-- The message contradicts the row remembered for the instrument, nothing is cached yet, and the
order after it is sent and accepted with no row fetched in between. -/
def Forgotten (switchTime : TimestampText) : Prop :=
  Contradicts (sampleUpdate switchTime) sampleRow ∧ ∃ pool received last,
    clientSystem.run sampleStart (clientSystem.script sampleStartup sampleStart) = some pool ∧
    SampleReady pool ∧
    clientSystem.step pool (sampleMessage switchTime) = some received ∧
    clientSystem.run received (forgettingRun switchTime received) = some last ∧
    (forgettingRun switchTime received).any startsFetch = false ∧ thirdSucceeded last

theorem forgotten_of_run {switchTime : TimestampText}
    (h : (clientSystem.run sampleStart (clientSystem.script sampleStartup sampleStart)).any
      fun pool => decide (SampleReady pool) &&
        (clientSystem.step pool (sampleMessage switchTime)).any fun received =>
          (clientSystem.run received (forgettingRun switchTime received)).any fun last =>
            decide ((forgettingRun switchTime received).any startsFetch = false ∧
              thirdSucceeded last)) : Forgotten switchTime := by
  have htick : DecimalText.value 2 ≠ .value 1 := by decide
  simp only [Option.any_eq_true, Bool.and_eq_true, decide_eq_true_eq] at h
  obtain ⟨pool, hpool, hready, received, hreceived, last, hlast, hfetch, hthird⟩ := h
  exact ⟨.inl htick, pool, received, last, hpool, hready, hreceived, hlast, hfetch, hthird⟩

/-- **A contradicting message is forgotten.**  Without a timestamp, the engine drops its event; with
one, more than the maximum staleness passes. -/
theorem contradiction_forgotten : Forgotten .blank ∧ Forgotten (.value 5) :=
  ⟨forgotten_of_run (by decide +kernel), forgotten_of_run (by decide +kernel)⟩

end OkxTrading
