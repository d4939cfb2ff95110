import OkxTrading.Properties.MetadataLatch

/-!
# Capability generations

A generation admits the orders of an instrument.  A failed account query, a changed account level
and a failed validation revoke all generations; a validation under way at that moment may still
cache its own, for what it compares is the account level and not its age.

* `GenerationsCurrent` — cached generations have the observed account level.
* `CapabilityOutcome` — all that a segment other than the caching can do to them.
* `capability_generations` — **every interleaving of the calls**.
* `stale_generation_admitted` — a validation from before a revocation opens the order route.
-/

namespace OkxTrading

open Effect

/-! ## The segments -/

section Segments

variable {s t : ClientState} {instId : Text} {generation : ValidatedCapabilityGeneration}

/-- Every cached generation was validated at the observed account level. -/
def GenerationsCurrent (s : ClientState) : Prop :=
  ∀ instId generation, s.validatedCapabilityGenerations instId = some generation →
    s.accountLevelDiagnostic.map (·.value) = some generation.accountLevel.value

/-- What a segment that caches no generation leaves of the generations: it keeps them, it revokes
them all, or it observes the level they have. -/
inductive CapabilityOutcome (s t : ClientState) : Prop
  | keeps (hgenerations : t.validatedCapabilityGenerations = s.validatedCapabilityGenerations)
      (hlevel : t.accountLevelDiagnostic = s.accountLevelDiagnostic)
  | revokes (hgenerations : t.validatedCapabilityGenerations = fun _ => none)
  | observes (snapshot : AccountLevelDiagnosticSnapshot)
      (hgenerations : t.validatedCapabilityGenerations = s.validatedCapabilityGenerations)
      (hlevel : t.accountLevelDiagnostic = some snapshot)
      (hsame : ∀ current, s.accountLevelDiagnostic = some current →
        current.value = snapshot.value)

theorem CapabilityOutcome.of_eq (h : t = s) : CapabilityOutcome s t := by
  subst h
  exact .keeps rfl rfl

theorem CheckOutcome.capabilities {other : Text} {snapshot : Option OkxInstrument}
    {outcome : Result Unit × ClientState} (h : CheckOutcome s other snapshot outcome) :
    CapabilityOutcome s outcome.2 := by
  cases h with
  | latched => exact .keeps rfl rfl
  | passes => exact .keeps rfl rfl
  | latches => exact .keeps rfl rfl

theorem observed_capabilities (snapshot : AccountLevelDiagnosticSnapshot) :
    CapabilityOutcome s (s.observed snapshot).2 := by
  unfold ClientState.observed
  split
  · exact .revokes rfl
  · rename_i hsame
    refine .observes snapshot rfl rfl ?_
    intro current hcurrent
    by_contra hne
    apply hsame
    rw [hcurrent]
    simpa using hne

theorem matchingObserved_capabilities (expected : AccountLevelDiagnostic)
    (diagnostic : Option AccountLevelDiagnosticSnapshot) :
    CapabilityOutcome s (s.matchingObserved expected diagnostic).2 := by
  cases diagnostic with
  | none => exact .keeps rfl rfl
  | some snapshot =>
      unfold ClientState.matchingObserved
      dsimp only
      split
      · exact .revokes rfl
      · exact .keeps rfl rfl

/-- A segment that only looks at the state. -/
theorem op_reads {α : Type} {x : ClientProg α} (h : Preserves (· = s) x) : (x s).2 = s := h s rfl

/-- **All that a segment other than the caching does to the generations.** -/
theorem op_capabilities (op : ClientOp)
    (hop : ∀ generation, op ≠ .rememberValidatedCapabilityGeneration generation) :
    CapabilityOutcome s (op.run s).2 := by
  cases op with
  | now => exact .keeps rfl rfl
  | marketDataMaxStaleness => exact .keeps rfl rfl
  | ensureInstrumentMetadataSafetyLatchClear other =>
      refine .of_eq ?_
      show (ensureInstrumentMetadataSafetyLatchClear other s).2 = s
      rw [ensureInstrumentMetadataSafetyLatchClear_eq]
  | latchInstrumentMetadataFailure other error =>
      show CapabilityOutcome s (latchInstrumentMetadataFailure other error s).2
      rw [latchInstrumentMetadataFailure_eq]
      dsimp only
      split
      · exact .keeps rfl rfl
      · exact .keeps rfl rfl
  | ensureFreshInstrumentHintMatchesSnapshot other =>
      exact (ensureFreshInstrumentHintMatchesSnapshot_outcome other s).capabilities
  | ensureFreshInstrumentHintMatchesRestSnapshot row =>
      exact (ensureFreshInstrumentHintMatchesRestSnapshot_outcome row s).capabilities
  | rememberInstrumentSnapshot row => exact .keeps rfl rfl
  | validatedTradingInstrumentIfPresent => exact .keeps rfl rfl
  | validatedOrderRoute => exact .of_eq (op_reads (orderRoute_preserves _))
  | instrumentFeeGroupId => exact .of_eq (op_reads (feeGroupId_preserves _))
  | instrumentTypeForFeeGroup => exact .of_eq (op_reads (typeForFeeGroup_preserves _ _))
  | observeAccountLevelDiagnostic config =>
      show CapabilityOutcome s (observeAccountLevelDiagnostic config s).2
      rw [observeAccountLevelDiagnostic_eq]
      split
      · exact .keeps rfl rfl
      · exact observed_capabilities _
  | matchingObservedAccountLevelDiagnostic config =>
      show CapabilityOutcome s (matchingObservedAccountLevelDiagnostic config s).2
      rw [matchingObservedAccountLevelDiagnostic_eq]
      split
      · exact .keeps rfl rfl
      · exact matchingObserved_capabilities _ _
  | revokeCapabilityGenerations => exact .revokes rfl
  | rememberValidatedCapabilityGeneration => exact absurd rfl (hop _)

/-- What the caching of a generation does: it fails and changes nothing, or the checks have passed
and the generation stands under its instrument. -/
theorem remember_cases (generation : ValidatedCapabilityGeneration) (s : ClientState) :
    (∃ e, rememberValidatedCapabilityGeneration generation s = (.error e, s)) ∨
    (cachingCheck s.accountLevelDiagnostic
        (s.validatedCapabilityGenerations generation.context.instrument.instId) generation =
          .ok () ∧
      rememberValidatedCapabilityGeneration generation s =
          (.ok (), s.withGeneration generation)) := by
  rw [rememberValidatedCapabilityGeneration_eq]
  split
  · rename_i e _
    exact .inl ⟨e, rfl⟩
  · rename_i hcheck
    exact .inr ⟨hcheck, rfl⟩

theorem level_of_cachingCheck {diagnostic : Option AccountLevelDiagnosticSnapshot}
    {existing : Option ValidatedCapabilityGeneration}
    (h : cachingCheck diagnostic existing generation = .ok ()) :
    diagnostic.map (·.value) = some generation.accountLevel.value := by
  cases diagnostic with
  | none => cases h
  | some current =>
      simp only [cachingCheck, bind_eq_ok, ensure_eq_ok] at h
      obtain ⟨_, hvalue, -⟩ := h
      exact congrArg some hvalue

/-- Nothing but the caching adds a generation. -/
theorem CapabilityOutcome.cached (h : CapabilityOutcome s t)
    (hcached : t.validatedCapabilityGenerations instId = some generation) :
    s.validatedCapabilityGenerations instId = some generation := by
  cases h with
  | keeps hgenerations _ => rwa [hgenerations] at hcached
  | revokes hgenerations =>
      rw [hgenerations] at hcached
      cases hcached
  | observes _ hgenerations _ _ => rwa [hgenerations] at hcached

theorem CapabilityOutcome.current (h : CapabilityOutcome s t) (hs : GenerationsCurrent s) :
    GenerationsCurrent t := by
  intro instId generation hcached
  have hlevel := hs instId generation (h.cached hcached)
  cases h with
  | keeps _ hdiagnostic => rwa [hdiagnostic]
  | revokes hgenerations =>
      rw [hgenerations] at hcached
      cases hcached
  | observes snapshot _ hdiagnostic hsame =>
      obtain ⟨current, hcurrent, hvalue⟩ := Option.map_eq_some_iff.1 hlevel
      rw [hdiagnostic, Option.map_some, ← hsame current hcurrent, hvalue]

theorem withGeneration_current (hs : GenerationsCurrent s)
    (hlevel : s.accountLevelDiagnostic.map (·.value) = some generation.accountLevel.value) :
    GenerationsCurrent (s.withGeneration generation) := by
  intro instId found hfound
  by_cases heq : instId = generation.context.instrument.instId
  · subst heq
    have hself : (s.withGeneration generation).validatedCapabilityGenerations
      generation.context.instrument.instId = some generation := Function.update_self _ _ _
    rw [hself] at hfound
    cases hfound
    exact hlevel
  · have hother : (s.withGeneration generation).validatedCapabilityGenerations instId =
      s.validatedCapabilityGenerations instId := Function.update_of_ne heq _ _
    rw [hother] at hfound
    exact hs instId found hfound

/-- **Every segment keeps the generations at the observed account level.** -/
theorem op_current (op : ClientOp) (hs : GenerationsCurrent s) :
    GenerationsCurrent (op.run s).2 := by
  by_cases hop : ∃ generation, op = .rememberValidatedCapabilityGeneration generation
  · obtain ⟨generation, rfl⟩ := hop
    show GenerationsCurrent (rememberValidatedCapabilityGeneration generation s).2
    rcases remember_cases generation s with ⟨e, hrun⟩ | ⟨hcheck, hrun⟩
    · rw [hrun]
      exact hs
    · rw [hrun]
      exact withGeneration_current hs (level_of_cachingCheck hcheck)
  · exact (op_capabilities op fun generation heq => hop ⟨generation, heq⟩).current hs

end Segments

/-! ## The calls that grant and revoke -/

section Calls

/-- An account query or a validation. -/
def ClientCall.revokesOnFailure : ClientCall → Bool
  | .accountConfig => true
  | .validateTradingInstrument _ _ => true
  | _ => false

/-- What a job may wait for: it caches a generation only as the last step of a validation, of the
instrument that was requested; an account query or a validation fails only after the revocation, and
a validation succeeds only after the caching. -/
structure JobPoint (call : ClientCall) (rest : ClientTask Unit) : Prop where
  caches : ∀ generation next,
    rest = .await (.inl (.rememberValidatedCapabilityGeneration generation)) next →
      (∃ requested config, call = .validateTradingInstrument requested config ∧
        generation.context.instrument.instId = requested.instrument) ∧
          next (.ok ()) = .done (.ok ())
  fails : call.revokesOnFailure = true → ∀ q next answer e, rest = .await q next →
    next answer = .done (.error e) → q = .inl .revokeCapabilityGenerations
  succeeds : ∀ requested config, call = .validateTradingInstrument requested config →
    ∀ q next answer, rest = .await q next → next answer = .done (.ok ()) →
      ∃ generation, (⟨q, answer⟩ : Σ q : ClientRequest, q.Reply) =
        ⟨.inl (.rememberValidatedCapabilityGeneration generation), .ok ()⟩

/-- The segments that cache no generation. -/
def CachesNothing (op : ClientOp) : Prop :=
  ∀ generation, op ≠ .rememberValidatedCapabilityGeneration generation

theorem cachesNothing_of_plain (op : ClientOp) (h : op.plain = true) : CachesNothing op := by
  rintro generation rfl
  cases h

theorem admitsChecks_cachesNothing (instId : Text) : AdmitsChecks CachesNothing instId where
  clear := fun _ h => by cases h
  latch := fun _ _ h => by cases h
  check := fun _ h => by cases h
  row := fun _ _ _ h => by cases h

theorem jobPoint_done (call : ClientCall) (r : Except OkxError Unit) : JobPoint call (.done r) where
  caches := fun _ _ h => by cases h
  fails := fun _ _ _ _ _ h => by cases h
  succeeds := fun _ _ _ _ _ _ h => by cases h

/-- A job of another call. -/
theorem jobPoint_of_cachesNothing {call : ClientCall} (hcall : call.revokesOnFailure = false)
    {q : ClientRequest} {next : q.Reply → ClientTask Unit} (hq : SegmentIn CachesNothing q) :
    JobPoint call (.await q next) where
  caches := by
    rintro generation next ⟨⟩
    exact absurd rfl (hq generation)
  fails := fun h => by rw [hcall] at h; cases h
  succeeds := by
    rintro requested config rfl
    cases hcall

/-- The revocation, after which a job fails. -/
theorem always_revoke {α : Type} (call : ClientCall) (error : OkxError) (d : α → ClientTask Unit) :
    ((do perform .revokeCapabilityGenerations; Task.stop error : ClientTask α) >>= d).Always
      (fun _ _ => True) (JobPoint call) := by
  refine ⟨⟨?_, ?_, ?_⟩, ?_⟩
  · rintro generation next ⟨⟩
  · rintro - q next answer e ⟨⟩ -
    rfl
  · rintro requested config - q next answer ⟨⟩ h
    cases answer with
    | ok u => cases h
    | error e => cases h
  · intro answer _
    cases answer with
    | ok u => exact jobPoint_done call _
    | error e => exact jobPoint_done call _

/-- What is attempted never ends in an error of the job. -/
theorem attempt_upholds {α : Type} {P : Except OkxError α → Prop} {x : ClientTask α}
    (h : x.Upholds (fun _ _ => True) (SegmentIn CachesNothing) P) :
    x.attempt.Upholds (fun _ _ => True) (SegmentIn CachesNothing) fun r =>
      ∃ outcome, r = .ok outcome ∧ P outcome :=
  Task.Upholds.attempt h

theorem ended_of_attempt {α : Type} {P : Except OkxError α → Prop}
    {y : ClientTask (Except OkxError α)} {f : Except OkxError α → ClientTask Unit}
    {r : Except OkxError Unit}
    (hy : y.Upholds (fun _ _ => True) (SegmentIn CachesNothing) fun r =>
      ∃ outcome, r = .ok outcome ∧ P outcome) (h : (y >>= f) = .done r) :
    ∃ outcome, f outcome = .done r := by
  rcases Task.bind_eq_done h with ⟨outcome, -, hf⟩ | ⟨e, rfl⟩
  · exact ⟨outcome, hf⟩
  · obtain ⟨_, he, -⟩ := hy
    cases he

/-- A job that attempts something and then goes on in any case, or ends well. -/
theorem always_attempt {α : Type} {call : ClientCall} {P : Except OkxError α → Prop}
    {x : ClientTask α} {f : Except OkxError α → ClientTask Unit}
    (hx : x.Upholds (fun _ _ => True) (SegmentIn CachesNothing) P)
    (hf : ∀ outcome r, f outcome = .done r → r = .ok () ∧
      ∀ requested config, call ≠ .validateTradingInstrument requested config)
    (hgoOn : ∀ outcome, P outcome → (f outcome).Always (fun _ _ => True) (JobPoint call)) :
    (x.attempt >>= f).Always (fun _ _ => True) (JobPoint call) := by
  refine Task.Always.bind (attempt_upholds hx) ?_ ?_ ?_
  · intro q next hq hnext
    refine ⟨?_, ?_, ?_⟩
    · rintro generation _ ⟨⟩
      exact absurd rfl (hq generation)
    · rintro - _ _ answer e ⟨⟩ hdone
      obtain ⟨outcome, houtcome⟩ := ended_of_attempt (hnext answer trivial) hdone
      cases (hf outcome _ houtcome).1
    · rintro requested config hcall _ _ answer ⟨⟩ hdone
      obtain ⟨outcome, houtcome⟩ := ended_of_attempt (hnext answer trivial) hdone
      exact absurd hcall ((hf outcome _ houtcome).2 requested config)
  · rintro outcome ⟨_, ⟨⟩, houtcome⟩
    exact hgoOn outcome houtcome
  · rintro e ⟨_, ⟨⟩, -⟩

theorem always_accountConfig :
    (ClientCall.accountConfig).task.Always (fun _ _ => True) (JobPoint .accountConfig) := by
  show (accountConfig >>= fun _ => pure ()).Always _ _
  unfold accountConfig
  rw [Task.bind_assoc]
  refine always_attempt (P := fun _ => True) ?_ ?_ ?_
  · have hobserve : ∀ config, CachesNothing (.observeAccountLevelDiagnostic config) :=
      fun config => cachesNothing_of_plain _ rfl
    exact Asks.bind (asks_request _) fun configs => .bind (asks_failing _) fun config =>
      .bind (asks_perform (hobserve config)) fun _ => asks_pure _
  · intro outcome r h
    cases outcome with
    | ok config =>
        cases h
        exact ⟨rfl, fun _ _ h => by cases h⟩
    | error e => cases h
  · intro outcome _
    cases outcome with
    | ok config => exact jobPoint_done _ _
    | error e => exact always_revoke _ e _

theorem always_validate (requested : RequestedTradingInstrument) (config : OkxAccountConfig) :
    (ClientCall.validateTradingInstrument requested config).task.Always (fun _ _ => True)
      (JobPoint (.validateTradingInstrument requested config)) := by
  show (validateTradingInstrument requested config >>= fun _ => pure ()).Always _ _
  unfold validateTradingInstrument validateTradingInstrumentGeneration
  rw [Task.attempt_bind, Task.bind_assoc, Task.bind_assoc]
  refine always_attempt (gather_upholds cachesNothing_of_plain
    (admitsChecks_cachesNothing requested.instrument) config) ?_ ?_
  · intro outcome r h
    cases outcome with
    | ok generation => cases h
    | error e => cases h
  · intro outcome hinst
    cases outcome with
    | error e => exact always_revoke _ e _
    | ok generation =>
        refine ⟨⟨?_, ?_, ?_⟩, ?_⟩
        · rintro found next ⟨⟩
          exact ⟨⟨requested, config, rfl, hinst generation rfl⟩, rfl⟩
        · rintro - q next answer e ⟨⟩ h
          cases answer with
          | ok u => cases h
          | error e => cases h
        · rintro _ _ ⟨⟩ q next answer ⟨⟩ h
          cases answer with
          | ok u => exact ⟨generation, rfl⟩
          | error e => cases h
        · intro answer _
          cases answer with
          | ok u => exact jobPoint_done _ _
          | error e => exact always_revoke _ _ _

/-- **Every job is at such a point at any time.** -/
theorem always_task (call : ClientCall) :
    call.task.Always (fun _ _ => True) (JobPoint call) := by
  by_cases hvalidate : ∃ requested config, call = .validateTradingInstrument requested config
  · obtain ⟨requested, config, rfl⟩ := hvalidate
    exact always_validate requested config
  · by_cases haccount : call = .accountConfig
    · subst haccount
      exact always_accountConfig
    · have hcall : call.revokesOnFailure = false := by
        cases call with
        | accountConfig => exact absurd rfl haccount
        | validateTradingInstrument requested config => exact absurd ⟨_, _, rfl⟩ hvalidate
        | _ => rfl
      have hasks : Asks CachesNothing call.task := asks_task cachesNothing_of_plain
        (fun instId _ => admitsChecks_cachesNothing instId)
        fun requested config h => absurd ⟨requested, config, h⟩ hvalidate
      exact .of_upholds hasks (fun q next hq => jobPoint_of_cachesNothing hcall hq) fun r _ =>
        jobPoint_done call r

end Calls

/-! ## Tuples -/

/-- The generations agree in all that an order takes from them. -/
structure SameTuple (a b : ValidatedCapabilityGeneration) : Prop where
  requested : a.requested = b.requested
  instType : a.context.instType = b.context.instType
  tdMode : a.context.tdMode = b.context.tdMode
  tradeQuoteCcy : a.context.tradeQuoteCcy = b.context.tradeQuoteCcy
  feeGroupId : a.context.instrument.feeGroupId = b.context.instrument.feeGroupId
  instIdCode : a.context.instrument.websocketInstIdCode = b.context.instrument.websocketInstIdCode

theorem SameTuple.refl (a : ValidatedCapabilityGeneration) : SameTuple a a :=
  ⟨rfl, rfl, rfl, rfl, rfl, rfl⟩

theorem SameTuple.trans {a b c : ValidatedCapabilityGeneration} (h : SameTuple a b)
    (h' : SameTuple b c) : SameTuple a c where
  requested := h.requested.trans h'.requested
  instType := h.instType.trans h'.instType
  tdMode := h.tdMode.trans h'.tdMode
  tradeQuoteCcy := h.tradeQuoteCcy.trans h'.tradeQuoteCcy
  feeGroupId := h.feeGroupId.trans h'.feeGroupId
  instIdCode := h.instIdCode.trans h'.instIdCode

theorem sameTuple_of_ensureSameTuple {existing generation : ValidatedCapabilityGeneration}
    {u : Unit} (h : ensureSameTuple existing generation = .ok u) :
    SameTuple existing generation := by
  unfold ensureSameTuple at h
  obtain ⟨_, htuple, h⟩ := bind_eq_ok.1 h
  obtain ⟨hrequested, hinst, hmode, hquote⟩ := ensure_eq_ok.1 htuple
  obtain ⟨group, hgroup, h⟩ := bind_eq_ok.1 h
  obtain ⟨group', hgroup', h⟩ := bind_eq_ok.1 h
  obtain ⟨_, hgroups, h⟩ := bind_eq_ok.1 h
  obtain ⟨code, hcode, h⟩ := bind_eq_ok.1 h
  obtain ⟨code', hcode', h⟩ := bind_eq_ok.1 h
  refine ⟨hrequested, hinst, hmode, hquote, ?_, ?_⟩
  · rw [hgroup, hgroup', ensure_eq_ok.1 hgroups]
  · rw [hcode, hcode', ensure_eq_ok.1 h]

/-- A generation only replaces one of the same tuple. -/
theorem sameTuple_of_cachingCheck {diagnostic : Option AccountLevelDiagnosticSnapshot}
    {existing generation : ValidatedCapabilityGeneration}
    (h : cachingCheck diagnostic (some existing) generation = .ok ()) :
    SameTuple existing generation := by
  cases diagnostic with
  | none => cases h
  | some current =>
      obtain ⟨_, -, h⟩ := bind_eq_ok.1 h
      obtain ⟨_, htuple, -⟩ := bind_eq_ok.1 h
      exact sameTuple_of_ensureSameTuple htuple

/-! ## Whole runs -/

section Runs

variable {s : ClientState} {pool next last : ClientPool} {turn : ClientTurn}
  {turns : List ClientTurn} {instId : Text}

/-- All that a step does to the generations: as a segment that caches none, or by the last step of a
validation. -/
theorem step_capabilities (hjobs : ∀ (k : ℕ) call rest, pool.jobs[k]? = some ⟨call, rest⟩ →
      rest.Always (fun _ _ => True) (JobPoint call))
    (h : clientSystem.step pool turn = some next) :
    CapabilityOutcome pool.shared next.shared ∨
    ∃ (k : ℕ) (requested : RequestedTradingInstrument) (config : OkxAccountConfig)
      (rest : ClientTask Unit) (generation : ValidatedCapabilityGeneration),
      pool.jobs[k]? = some ⟨.validateTradingInstrument requested config, rest⟩ ∧
      rest.outcome? = none ∧
      next.jobs[k]? = some ⟨.validateTradingInstrument requested config, .done (.ok ())⟩ ∧
      generation.context.instrument.instId = requested.instrument ∧
      cachingCheck pool.shared.accountLevelDiagnostic
        (pool.shared.validatedCapabilityGenerations requested.instrument) generation = .ok () ∧
      next.shared = pool.shared.withGeneration generation := by
  rcases System.step_cases h with ⟨event, shared, rfl, hshared, rfl⟩ | ⟨call, -, rfl⟩ |
    ⟨k, call, q, rest, run, rfl, hjob, hrun, rfl⟩ | ⟨k, call, q, rest, answer, -, -, -, rfl⟩
  · have hgenerations : OutsideBlind (·.validatedCapabilityGenerations) := fun _ _ _ _ _ _ => rfl
    have hlevel : OutsideBlind (·.accountLevelDiagnostic) := fun _ _ _ _ _ _ => rfl
    exact .inl (.keeps (outside_keeps hgenerations hshared) (outside_keeps hlevel hshared))
  · exact .inl (.keeps rfl rfl)
  · cases q with
    | inr query => cases hrun
    | inl op =>
        cases hrun
        by_cases hop : ∃ generation, op = .rememberValidatedCapabilityGeneration generation
        · obtain ⟨generation, rfl⟩ := hop
          obtain ⟨⟨requested, config, rfl, hinst⟩, hend⟩ :=
            (hjobs k call _ hjob).now.caches generation rest rfl
          rcases remember_cases generation pool.shared with ⟨e, hrun⟩ | ⟨hcheck, hrun⟩
          · refine .inl (.of_eq ?_)
            show (rememberValidatedCapabilityGeneration generation pool.shared).2 = pool.shared
            rw [hrun]
          · refine .inr ⟨k, requested, config, _, generation, hjob, rfl, ?_, hinst,
              hinst ▸ hcheck, ?_⟩
            · have hlength := (List.getElem?_eq_some_iff.1 hjob).1
              show (pool.jobs.set k ⟨_, rest (rememberValidatedCapabilityGeneration generation
                pool.shared).1⟩)[k]? = _
              rw [List.getElem?_set_self hlength, hrun, hend]
            · show (rememberValidatedCapabilityGeneration generation pool.shared).2 = _
              rw [hrun]
        · exact .inl (op_capabilities op fun generation heq => hop ⟨generation, heq⟩)
  · exact .inl (.keeps rfl rfl)

theorem step_keeps_current (h : clientSystem.step pool turn = some next)
    (hs : GenerationsCurrent pool.shared) : GenerationsCurrent next.shared := by
  refine System.step_keeps_shared (I := GenerationsCurrent) ?_ ?_ h hs
  · intro q run s hrun hs
    cases q with
    | inl op =>
        cases hrun
        exact op_current op hs
    | inr query => cases hrun
  · intro s event t hevent hs
    have hgenerations : OutsideBlind (·.validatedCapabilityGenerations) := fun _ _ _ _ _ _ => rfl
    have hlevel : OutsideBlind (·.accountLevelDiagnostic) := fun _ _ _ _ _ _ => rfl
    intro instId generation hcached
    rw [outside_keeps hgenerations hevent] at hcached
    rw [outside_keeps hlevel hevent]
    exact hs instId generation hcached

/-- The levels of the generations of a reachable pool, and its jobs. -/
theorem reachable_capabilities (hs : GenerationsCurrent s)
    (h : clientSystem.run ⟨s, []⟩ turns = some pool) :
    GenerationsCurrent pool.shared ∧ ∀ (k : ℕ) call rest,
      pool.jobs[k]? = some ⟨call, rest⟩ → rest.Always (fun _ _ => True) (JobPoint call) := by
  obtain ⟨hlast, hjobs⟩ := System.run_keeps_jobs (n := 0) (I := GenerationsCurrent)
    (C := fun _ _ _ => True)
    (T := fun call rest => rest.Always (fun _ _ => True) (JobPoint call))
    (fun _ _ _ _ hstep hI => step_keeps_current hstep hI) always_task
    (fun call q rest answer hrest _ => hrest.2 answer trivial) h
    System.along_trivial hs fun k call rest _ hget => by simp at hget
  exact ⟨hlast, fun k call rest => hjobs k call rest (Nat.zero_le k)⟩

/-- A validation of the instrument that was under way in the pool, or started after it, has
succeeded. -/
def ServedSince (pool last : ClientPool) (instId : Text) : Prop :=
  ∃ (k : ℕ) (requested : RequestedTradingInstrument) (config : OkxAccountConfig),
    last.jobs[k]? = some ⟨.validateTradingInstrument requested config, .done (.ok ())⟩ ∧
      requested.instrument = instId ∧
      ∀ job, pool.jobs[k]? = some job → job.rest.outcome? = none

/-- What a run from a pool without generations keeps. -/
structure Serving (pool mid : ClientPool) : Prop where
  jobs : ∀ (k : ℕ) call rest, mid.jobs[k]? = some ⟨call, rest⟩ →
    rest.Always (fun _ _ => True) (JobPoint call)
  ended : ∀ (k : ℕ) job, pool.jobs[k]? = some job → job.rest.outcome? ≠ none →
    mid.jobs[k]? = some job
  served : ∀ instId, mid.shared.validatedCapabilityGenerations instId ≠ none →
    ServedSince pool mid instId

theorem ServedSince.step {mid : ClientPool} (h : ServedSince pool mid instId)
    (hstep : clientSystem.step mid turn = some next) : ServedSince pool next instId := by
  obtain ⟨k, requested, config, hjob, hinst, hunderway⟩ := h
  exact ⟨k, requested, config, System.step_keeps_ended hstep hjob (fun h => by cases h), hinst,
    hunderway⟩

theorem always_step {mid : ClientPool} (hjobs : ∀ (k : ℕ) call rest,
      mid.jobs[k]? = some ⟨call, rest⟩ → rest.Always (fun _ _ => True) (JobPoint call))
    (hstep : clientSystem.step mid turn = some next) (k : ℕ) (call : ClientCall)
    (rest : ClientTask Unit) (hget : next.jobs[k]? = some ⟨call, rest⟩) :
    rest.Always (fun _ _ => True) (JobPoint call) := by
  have hrun : clientSystem.run mid [turn] = some next := System.run_cons.2 ⟨next, hstep, rfl⟩
  obtain ⟨-, hnext⟩ := System.run_keeps_jobs (n := 0) (I := fun _ => True)
    (C := fun _ _ _ => True)
    (T := fun call rest => rest.Always (fun _ _ => True) (JobPoint call))
    (fun _ _ _ _ _ _ => trivial) always_task
    (fun call q rest answer hrest _ => hrest.2 answer trivial) hrun System.along_trivial trivial
    fun k call rest _ => hjobs k call rest
  exact hnext k call rest (Nat.zero_le k) hget

theorem Serving.step {mid : ClientPool} (h : Serving pool mid)
    (hstep : clientSystem.step mid turn = some next) : Serving pool next where
  jobs := always_step h.jobs hstep
  ended := fun k job hjob hended => System.step_keeps_ended hstep (h.ended k job hjob hended) hended
  served := by
    intro instId hcached
    rcases step_capabilities h.jobs hstep with houtcome |
      ⟨k, requested, config, rest, generation, hjob, hwaiting, hdone, hinst, -, hshared⟩
    · obtain ⟨generation, hgeneration⟩ := Option.ne_none_iff_exists'.1 hcached
      have hbefore := houtcome.cached hgeneration
      exact (h.served instId (by rw [hbefore]; exact Option.some_ne_none _)).step hstep
    · by_cases heq : instId = requested.instrument
      · refine ⟨k, requested, config, hdone, heq.symm, ?_⟩
        intro job hpool
        by_contra hended
        have hmid := h.ended k job hpool hended
        rw [hjob] at hmid
        cases hmid
        exact hended hwaiting
      · have hother : next.shared.validatedCapabilityGenerations instId =
            mid.shared.validatedCapabilityGenerations instId := by
          rw [hshared]
          exact Function.update_of_ne (hinst ▸ heq) _ _
        exact (h.served instId (hother ▸ hcached)).step hstep

/-- From a pool without generations on, whatever is cached was validated since. -/
theorem serving_of_run (hs : GenerationsCurrent s)
    (hreach : clientSystem.run ⟨s, []⟩ turns = some pool)
    (hempty : ∀ instId, pool.shared.validatedCapabilityGenerations instId = none)
    {after : List ClientTurn} (h : clientSystem.run pool after = some last) :
    Serving pool last := by
  refine System.run_induction (C := fun _ _ _ => True) (J := Serving pool)
    (fun _ _ _ _ hmid hstep => hmid.step hstep) h System.along_trivial ?_
  exact ⟨(reachable_capabilities hs hreach).2, fun _ _ hjob _ => hjob,
    fun instId hcached => absurd (hempty instId) hcached⟩

/-- An account query or a validation fails, or the observed level changes. -/
def Revocation (pool next : ClientPool) : Prop :=
  (∃ (k : ℕ) (call : ClientCall) (rest : ClientTask Unit) (e : OkxError),
    call.revokesOnFailure = true ∧ pool.jobs[k]? = some ⟨call, rest⟩ ∧ rest.outcome? = none ∧
      next.jobs[k]? = some ⟨call, .done (.error e)⟩) ∨
  ∃ before now, pool.shared.accountLevelDiagnostic = some before ∧
    next.shared.accountLevelDiagnostic = some now ∧ before.value ≠ now.value

/-- The step in which a job ends is one of its own. -/
theorem ending_step {k : ℕ} {call : ClientCall} {rest : ClientTask Unit} {r : Except OkxError Unit}
    (h : clientSystem.step pool turn = some next) (hjob : pool.jobs[k]? = some ⟨call, rest⟩)
    (hrest : rest.outcome? = none) (hended : next.jobs[k]? = some ⟨call, .done r⟩) :
    ∃ (q : ClientRequest) (later : q.Reply → ClientTask Unit) (answer : q.Reply),
      rest = .await q later ∧ later answer = .done r ∧
        ∀ op, q = .inl op → next.shared = (op.run pool.shared).2 ∧
          (⟨q, answer⟩ : Σ q : ClientRequest, q.Reply) = ⟨.inl op, (op.run pool.shared).1⟩ := by
  have hself : ∀ (j : ℕ) asker (q : ClientRequest) later,
      pool.jobs[j]? = some ⟨asker, .await q later⟩ →
      ∀ answer, (pool.jobs.set j ⟨asker, later answer⟩)[k]? = some ⟨call, .done r⟩ →
        j = k ∧ rest = .await q later ∧ later answer = .done r := by
    intro j asker q later hj answer hget
    by_cases heq : j = k
    · subst heq
      rw [List.getElem?_set_self (List.getElem?_eq_some_iff.1 hj).1] at hget
      rw [hjob] at hj
      cases hj
      exact ⟨rfl, rfl, (Job.mk.inj (Option.some.inj hget)).2⟩
    · rw [List.getElem?_set_ne heq, hjob] at hget
      cases hget
      cases hrest
  rcases System.step_cases h with ⟨event, shared, -, -, rfl⟩ | ⟨started, -, rfl⟩ |
    ⟨j, asker, q, later, run, -, hj, hrun, rfl⟩ | ⟨j, asker, q, later, answer, -, hj, hnone, rfl⟩
  · rw [hjob] at hended
    cases hended
    cases hrest
  · rw [List.getElem?_append_left (List.getElem?_eq_some_iff.1 hjob).1, hjob] at hended
    cases hended
    cases hrest
  · obtain ⟨-, hq, hdone⟩ := hself j asker q later hj _ hended
    refine ⟨q, later, _, hq, hdone, ?_⟩
    rintro op rfl
    cases hrun
    exact ⟨rfl, rfl⟩
  · obtain ⟨-, hq, hdone⟩ := hself j asker q later hj _ hended
    refine ⟨q, later, _, hq, hdone, ?_⟩
    rintro op rfl
    cases hnone

/-- **A revocation leaves no generation.** -/
theorem empty_of_revocation (hs : GenerationsCurrent s)
    (hreach : clientSystem.run ⟨s, []⟩ turns = some pool)
    (hstep : clientSystem.step pool turn = some next) (h : Revocation pool next) :
    ∀ instId, next.shared.validatedCapabilityGenerations instId = none := by
  have hjobs := (reachable_capabilities hs hreach).2
  intro instId
  rcases h with ⟨k, call, rest, e, hcall, hjob, hrest, hended⟩ | ⟨before, now, hbefore, hnow, hne⟩
  · obtain ⟨q, later, answer, rfl, hdone, hshared⟩ := ending_step hstep hjob hrest hended
    have hq := (hjobs k call _ hjob).now.fails hcall q later answer e rfl hdone
    rw [(hshared _ hq).1]
    rfl
  · rcases step_capabilities hjobs hstep with houtcome |
      ⟨_, _, _, _, generation, -, -, -, -, -, hshared⟩
    · cases houtcome with
      | keeps _ hlevel =>
          rw [hlevel, hbefore] at hnow
          cases hnow
          exact absurd rfl hne
      | revokes hgenerations => rw [hgenerations]
      | observes snapshot _ hlevel hsame =>
          rw [hnow] at hlevel
          cases hlevel
          exact absurd (hsame before hbefore) hne
    · rw [hshared] at hnow
      rw [show (pool.shared.withGeneration generation).accountLevelDiagnostic =
        pool.shared.accountLevelDiagnostic from rfl, hbefore] at hnow
      cases hnow
      exact absurd rfl hne

/-- The order route of an instrument is open exactly where a generation is cached. -/
theorem orderRoute_ok {route : Text × Text} (h : (validatedOrderRoute instId s).1 = .ok route) :
    s.validatedCapabilityGenerations instId ≠ none := by
  intro hnone
  have hread : validatedTradingInstrumentIfPresent instId s = (.ok none, s) := by
    show (Except.ok ((s.validatedCapabilityGenerations instId).map (·.context)), s) = _
    rw [hnone]
    rfl
  unfold validatedOrderRoute at h
  rw [Prog.bind_apply_ok hread] at h
  cases h

/-- While a generation stays cached, another of the instrument only replaces it with the same
tuple. -/
theorem same_tuple_of_run (hs : GenerationsCurrent s)
    (hreach : clientSystem.run ⟨s, []⟩ turns = some pool)
    {generation : ValidatedCapabilityGeneration}
    (hcached : pool.shared.validatedCapabilityGenerations instId = some generation)
    {after : List ClientTurn} (h : clientSystem.run pool after = some last)
    (halong : clientSystem.Along (fun _ _ next =>
      next.shared.validatedCapabilityGenerations instId ≠ none) pool after) :
    ∃ later, last.shared.validatedCapabilityGenerations instId = some later ∧
      SameTuple generation later := by
  refine (System.run_induction (J := fun mid =>
    (∀ (k : ℕ) call rest, mid.jobs[k]? = some ⟨call, rest⟩ →
      rest.Always (fun _ _ => True) (JobPoint call)) ∧
    ∃ later, mid.shared.validatedCapabilityGenerations instId = some later ∧
      SameTuple generation later) ?_ h halong
    ⟨(reachable_capabilities hs hreach).2, generation, hcached, .refl _⟩).2
  rintro mid turn next hstays ⟨hjobs, later, hlater, hsame⟩ hstep
  refine ⟨always_step hjobs hstep, ?_⟩
  rcases step_capabilities hjobs hstep with houtcome |
    ⟨_, requested, _, _, found, -, -, -, hinst, hcheck, hshared⟩
  · obtain ⟨found, hfound⟩ := Option.ne_none_iff_exists'.1 hstays
    have hmid := houtcome.cached hfound
    rw [hlater] at hmid
    cases hmid
    exact ⟨later, hfound, hsame⟩
  · by_cases heq : instId = requested.instrument
    · subst heq
      rw [hlater] at hcheck
      refine ⟨found, ?_, hsame.trans (sameTuple_of_cachingCheck hcheck)⟩
      rw [hshared, ← hinst]
      exact Function.update_self _ _ _
    · refine ⟨later, ?_, hsame⟩
      rw [hshared]
      exact (Function.update_of_ne (hinst ▸ heq) _ _).trans hlater

/-- A validation that succeeds leaves a generation of its instrument. -/
theorem cached_of_success (hs : GenerationsCurrent s)
    (hreach : clientSystem.run ⟨s, []⟩ turns = some pool)
    (hstep : clientSystem.step pool turn = some next) {k : ℕ}
    {requested : RequestedTradingInstrument} {config : OkxAccountConfig} {rest : ClientTask Unit}
    (hjob : pool.jobs[k]? = some ⟨.validateTradingInstrument requested config, rest⟩)
    (hrest : rest.outcome? = none)
    (hended : next.jobs[k]? = some ⟨.validateTradingInstrument requested config, .done (.ok ())⟩) :
    next.shared.validatedCapabilityGenerations requested.instrument ≠ none := by
  have hpoint := ((reachable_capabilities hs hreach).2 k _ _ hjob).now
  obtain ⟨q, later, answer, rfl, hdone, hshared⟩ := ending_step hstep hjob hrest hended
  obtain ⟨generation, hq⟩ := hpoint.succeeds requested config rfl q later answer rfl hdone
  cases hq
  obtain ⟨⟨_, _, hcall, hinst⟩, -⟩ := hpoint.caches generation later rfl
  cases hcall
  obtain ⟨hnext, hanswer⟩ := hshared _ rfl
  rcases remember_cases generation pool.shared with ⟨e, hrun⟩ | ⟨-, hrun⟩
  · have hreply : (⟨.inl (.rememberValidatedCapabilityGeneration generation), .ok ()⟩ :
        Σ q : ClientRequest, q.Reply) = ⟨.inl (.rememberValidatedCapabilityGeneration generation),
          (rememberValidatedCapabilityGeneration generation pool.shared).1⟩ := hanswer
    rw [hrun] at hreply
    cases hreply
  · have hshared : next.shared = pool.shared.withGeneration generation := by
      rw [hnext]
      show (rememberValidatedCapabilityGeneration generation pool.shared).2 = _
      rw [hrun]
    rw [hshared, ← hinst]
    show Function.update pool.shared.validatedCapabilityGenerations
      generation.context.instrument.instId (some generation)
      generation.context.instrument.instId ≠ none
    rw [Function.update_self]
    exact Option.some_ne_none _

/-- **Capability generations over every interleaving of the calls.**

* Every cached generation has the level of the current diagnostic.
* A failed account query, a failed validation and a changed level leave no generation.
* After that an order route is open only for an instrument of which a validation has succeeded that
  was under way at that moment or started later; and a validation that succeeds leaves a generation.
* As long as a generation stays cached, the one of a later validation has the same tuple. -/
theorem capability_generations (hs : GenerationsCurrent s)
    (hreach : clientSystem.run ⟨s, []⟩ turns = some pool) :
    GenerationsCurrent pool.shared ∧
    (∀ turn next, clientSystem.step pool turn = some next → Revocation pool next →
      ∀ instId, next.shared.validatedCapabilityGenerations instId = none) ∧
    ((∀ instId, pool.shared.validatedCapabilityGenerations instId = none) →
      ∀ after last, clientSystem.run pool after = some last → ∀ instId route,
        (validatedOrderRoute instId last.shared).1 = .ok route → ServedSince pool last instId) ∧
    (∀ turn next (k : ℕ) requested config rest, clientSystem.step pool turn = some next →
      pool.jobs[k]? = some ⟨.validateTradingInstrument requested config, rest⟩ →
      rest.outcome? = none →
      next.jobs[k]? = some ⟨.validateTradingInstrument requested config, .done (.ok ())⟩ →
        next.shared.validatedCapabilityGenerations requested.instrument ≠ none) ∧
    (∀ instId generation after last,
      pool.shared.validatedCapabilityGenerations instId = some generation →
      clientSystem.run pool after = some last →
      clientSystem.Along (fun _ _ next =>
        next.shared.validatedCapabilityGenerations instId ≠ none) pool after →
        ∃ later, last.shared.validatedCapabilityGenerations instId = some later ∧
          SameTuple generation later) := by
  refine ⟨(reachable_capabilities hs hreach).1, ?_, ?_, ?_, ?_⟩
  · intro turn next hstep hrevocation
    exact empty_of_revocation hs hreach hstep hrevocation
  · intro hempty after last hrun instId route hroute
    exact (serving_of_run hs hreach hempty hrun).served instId (orderRoute_ok hroute)
  · intro turn next k requested config rest hstep hjob hrest hended
    exact cached_of_success hs hreach hstep hjob hrest hended
  · intro instId generation after last hcached hrun halong
    exact same_tuple_of_run hs hreach hcached hrun halong

end Runs

theorem generationsCurrent_new (now marketDataMaxStaleness : ℕ) (ids : List Text) :
    GenerationsCurrent (.new now marketDataMaxStaleness ids) := fun _ _ h => by cases h

theorem capability_generations_startup : ∃ pool,
    clientSystem.run sampleStart (clientSystem.script sampleStartup sampleStart) = some pool ∧
      pool.shared.validatedCapabilityGenerations sampleInstId ≠ none ∧
      GenerationsCurrent pool.shared := by
  have hruns : (clientSystem.run sampleStart (clientSystem.script sampleStartup sampleStart)).any
      fun pool => (pool.shared.validatedCapabilityGenerations sampleInstId).isSome := by
    decide +kernel
  obtain ⟨pool, hpool, hsome⟩ := (Option.any_eq_true _ _).1 hruns
  exact ⟨pool, hpool, Option.isSome_iff_ne_none.1 hsome,
    (capability_generations (generationsCurrent_new _ _ _) hpool).1⟩

/-! ## Runs with a revocation -/

/-- An exchange that is not reached. -/
def failingExchange : (q : ClientRequest) → q.Reply
  | .inl _ => .error "not asked from outside"
  | .inr _ => .error (.failed "connection reset")

/-- The account is read and a validation started, up to the caching. -/
def almostValidated : List (ClientPool → List ClientTurn) :=
  [fun _ => [.start .accountConfig], clientSystem.turnsOf sampleExchange 0 9,
    fun _ => [.start (.validateTradingInstrument sampleRequested sampleConfig)],
    clientSystem.turnsOf sampleExchange 1 17]

/-- An account query fails. -/
def failedQuery (job : ℕ) : List (ClientPool → List ClientTurn) :=
  [fun _ => [.start .accountConfig], clientSystem.turnsOf failingExchange job 9]

/-- The instrument in another fee group, under another code. -/
def otherRow : OkxInstrument := { sampleRow with groupId := ['2'], instIdCode := some 8 }

/-- How a job ended, if it has. -/
def jobOutcome (pool : ClientPool) (job : ℕ) : Option (Except OkxError Unit) :=
  pool.jobs[job]?.bind (·.rest.outcome?)

/-- A validation is under way when an account query fails; it caches its generation after that, and
the order route opens with no validation started since. -/
def OpenedByOld : Prop := ∃ revoked last,
  clientSystem.run sampleStart
    (clientSystem.script (almostValidated ++ failedQuery 2) sampleStart) =
    some revoked ∧
  jobOutcome revoked 2 = some (.error (.failed "connection reset")) ∧
  revoked.shared.validatedCapabilityGenerations sampleInstId = none ∧
  clientSystem.run revoked [.segment 1, .start (.websocketOrderRoute sampleInstId), .segment 3] =
    some last ∧
  jobOutcome last 1 = some (.ok ()) ∧ jobOutcome last 3 = some (.ok ())

/-- Of two successful validations of an instrument, with a failed account query in between, the
second leaves another fee group and code. -/
def ReplacedByOther : Prop := ∃ first last a b,
  clientSystem.run sampleStart (clientSystem.script sampleStartup sampleStart) = some first ∧
  jobOutcome first 1 = some (.ok ()) ∧
  first.shared.validatedCapabilityGenerations sampleInstId = some a ∧
  clientSystem.run first (clientSystem.script (failedQuery 2 ++
    [fun _ => [.start (.validateTradingInstrument sampleRequested sampleConfig)],
      clientSystem.turnsOf (exchangeWith otherRow) 3 40]) first) = some last ∧
  jobOutcome last 3 = some (.ok ()) ∧
  last.shared.validatedCapabilityGenerations sampleInstId = some b ∧
  a.context.instrument.groupId ≠ b.context.instrument.groupId ∧
  a.context.instrument.instIdCode ≠ b.context.instrument.instIdCode

theorem stale_generation_admitted : OpenedByOld ∧ ReplacedByOther := by
  have hopened : (clientSystem.run sampleStart
      (clientSystem.script (almostValidated ++ failedQuery 2) sampleStart)).any fun revoked =>
        decide (jobOutcome revoked 2 = some (.error (.failed "connection reset")) ∧
          revoked.shared.validatedCapabilityGenerations sampleInstId = none) &&
        (clientSystem.run revoked
          [.segment 1, .start (.websocketOrderRoute sampleInstId), .segment 3]).any fun last =>
            decide (jobOutcome last 1 = some (.ok ()) ∧ jobOutcome last 3 = some (.ok ())) := by
    decide +kernel
  have hreplaced :
      (clientSystem.run sampleStart (clientSystem.script sampleStartup sampleStart)).any
      fun first => decide (jobOutcome first 1 = some (.ok ())) &&
        (first.shared.validatedCapabilityGenerations sampleInstId).any fun a =>
        (clientSystem.run first (clientSystem.script (failedQuery 2 ++
          [fun _ => [.start (.validateTradingInstrument sampleRequested sampleConfig)],
            clientSystem.turnsOf (exchangeWith otherRow) 3 40]) first)).any fun last =>
          decide (jobOutcome last 3 = some (.ok ())) &&
          (last.shared.validatedCapabilityGenerations sampleInstId).any fun b =>
            decide (a.context.instrument.groupId ≠ b.context.instrument.groupId ∧
              a.context.instrument.instIdCode ≠ b.context.instrument.instIdCode) := by
    decide +kernel
  simp only [Option.any_eq_true, Bool.and_eq_true, decide_eq_true_eq] at hopened hreplaced
  obtain ⟨revoked, hrun, ⟨hfailed, hnone⟩, last, hlast, hvalidated, hroute⟩ := hopened
  obtain ⟨first, hfirst, hok, a, ha, later, hlater, hok', b, hb, hgroup, hcode⟩ := hreplaced
  exact ⟨⟨revoked, last, hrun, hfailed, hnone, hlast, hvalidated, hroute⟩,
    first, later, a, b, hfirst, hok, ha, hlater, hok', hb, hgroup, hcode⟩

end OkxTrading
