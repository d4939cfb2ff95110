import OkxTrading.Okx.Asks

/-!
# The metadata latch

Contradictory instrument metadata sets a latch of the instrument.  Nothing removes it or changes its
reason, and while it is set every call that could create or amend an order of the instrument fails
before it asks for anything but its turn in the rate limit.

* `Contradicts` — a message and a REST row differ in a field that both state.
* `ClientState.Contradicted` — a fresh message is not live, or contradicts the remembered row.
* `op_keeps_latch`, `op_latch_comm` — what the segments do with a latch.
* `Refuses` — a task that fails without sending anything.
* `metadata_latch` — **every run of the client's calls**.
-/

namespace OkxTrading

open Effect

/-! ## Contradictions -/

/-- A limit that the message states, and that is not the one of the row. -/
def LimitContradicts (hint : HintText) (snapshot : DecimalText) : Prop :=
  hint.decimal.isBlank = false ∧ hint.decimal ≠ snapshot

/-- The message differs from the row in tick, lot, minimum or a limit it states. -/
def Contradicts (hint : OkxWebsocketInstrumentUpdate) (snapshot : OkxInstrument) : Prop :=
  hint.tickSize.decimal ≠ snapshot.tickSz ∨ hint.lotSize.decimal ≠ snapshot.lotSz ∨
    hint.minSize.decimal ≠ snapshot.minSz ∨ LimitContradicts hint.maxLimitSize snapshot.maxLmtSz ∨
    LimitContradicts hint.maxLimitAmount snapshot.maxLmtAmt ∨
    LimitContradicts hint.maxMarketSize snapshot.maxMktSz ∨
    LimitContradicts hint.maxMarketAmount snapshot.maxMktAmt ∨
    LimitContradicts hint.maxTriggerSize snapshot.maxTriggerSz

instance (hint : HintText) (snapshot : DecimalText) : Decidable (LimitContradicts hint snapshot) :=
  inferInstanceAs (Decidable (_ ∧ _))

instance (hint : OkxWebsocketInstrumentUpdate) (snapshot : OkxInstrument) :
    Decidable (Contradicts hint snapshot) :=
  inferInstanceAs (Decidable (_ ∨ _ ∨ _ ∨ _ ∨ _ ∨ _ ∨ _ ∨ _))

/-- The message is not live or contradicts the row, if there is one. -/
def Alarming (hint : OkxWebsocketInstrumentUpdate) (snapshot : Option OkxInstrument) : Prop :=
  hint.state ≠ liveText ∨ ∃ row, snapshot = some row ∧ Contradicts hint row

/-- A fresh message is not live or contradicts the remembered row. -/
def ClientState.Contradicted (s : ClientState) (instId : Text) : Prop :=
  ∃ hint, s.freshInstrument instId = some hint ∧ Alarming hint (s.instrumentSnapshots instId)

theorem ensureRequiredHintMatches_ok {field context : Message} {text : DecimalText}
    {hint : HintText} {u : Unit}
    (h : ensureRequiredHintMatches field (parsePositiveDecimal context text) hint = .ok u) :
    hint.decimal = text := by
  simp only [ensureRequiredHintMatches, bind_eq_ok, ensure_eq_ok] at h
  obtain ⟨a, ha, b, hb, rfl⟩ := h
  rw [(parsePositiveDecimalField_eq_ok.1 hb).1, (parsePositiveDecimal_eq_ok.1 ha).1]

theorem ensureOptionalHintMatches_ok {field context : Message} {text : DecimalText}
    {hint : HintText} {u : Unit}
    (h : ensureOptionalHintMatches field (parseOptionalPositiveDecimal context text) hint = .ok u) :
    ¬ LimitContradicts hint text := by
  rintro ⟨hblank, hne⟩
  apply hne
  simp only [ensureOptionalHintMatches, parseOptionalInstrumentHintDecimal, hblank,
    Bool.false_eq_true,
    if_false, bind_eq_ok] at h
  obtain ⟨snapshot, hsnapshot, found, ⟨d, hd, hfound⟩, h⟩ := h
  cases hfound
  obtain ⟨htext, -⟩ := parsePositiveDecimalField_eq_ok.1 hd
  rw [ensure_eq_ok] at h
  subst h
  unfold parseOptionalPositiveDecimal at hsnapshot
  split at hsnapshot
  · cases hsnapshot
  · simp only [bind_eq_ok, pure_eq_ok] at hsnapshot
    obtain ⟨v, hv, hsome⟩ := hsnapshot
    cases hsome
    rw [htext, (parsePositiveDecimal_eq_ok.1 hv).1]

/-- A message that passes the comparison contradicts nothing. -/
theorem not_contradicts_of_matches {hint : OkxWebsocketInstrumentUpdate} {snapshot : OkxInstrument}
    {u : Unit} (h : ensureInstrumentHintMatchesRestSnapshot hint snapshot = .ok u) :
    ¬ Contradicts hint snapshot := by
  simp only [ensureInstrumentHintMatchesRestSnapshot, bind_eq_ok] at h
  obtain ⟨_, -, _, -, _, -, _, -, _, htick, _, hlot, _, hmin, _, hlimitSz, _, hlimitAmt, _,
    hmarketSz,
    _, hmarketAmt, htrigger⟩ := h
  rintro (h | h | h | h | h | h | h | h)
  · exact h (ensureRequiredHintMatches_ok htick)
  · exact h (ensureRequiredHintMatches_ok hlot)
  · exact h (ensureRequiredHintMatches_ok hmin)
  · exact ensureOptionalHintMatches_ok hlimitSz h
  · exact ensureOptionalHintMatches_ok hlimitAmt h
  · exact ensureOptionalHintMatches_ok hmarketSz h
  · exact ensureOptionalHintMatches_ok hmarketAmt h
  · exact ensureOptionalHintMatches_ok htrigger h

theorem live_of_ensureLive {hint : OkxWebsocketInstrumentUpdate} {u : Unit}
    (h : hint.ensureLive = .ok u) : hint.state = liveText := by
  simpa only [OkxWebsocketInstrumentUpdate.ensureLive, ensure_eq_ok] using h

theorem instId_of_freshInstrument {s : ClientState} {instId : Text}
    {hint : OkxWebsocketInstrumentUpdate} (h : s.freshInstrument instId = some hint) :
    hint.instId = instId := by
  unfold ClientState.freshInstrument at h
  obtain ⟨found, hfound, h⟩ := Option.bind_eq_some_iff.1 h
  split at h
  · cases h
    exact InstrumentHints.instId_of_get? hfound
  · cases h

/-! ## The segments -/

section Segments

variable {s : ClientState} {instId : Text} {reason error : Message}

/-- The latch of the instrument is set, for this reason. -/
def ClientState.LatchedFor (s : ClientState) (instId : Text) (reason : Message) : Prop :=
  s.instrumentMetadataSafetyLatches instId = some reason

theorem ensureInstrumentMetadataSafetyLatchClear_eq (instId : Text) (s : ClientState) :
    ensureInstrumentMetadataSafetyLatchClear instId s =
      (match s.instrumentMetadataSafetyLatches instId with
        | some reason => .error (latchIsSet reason)
        | none => .ok (), s) := by
  show (match s.instrumentMetadataSafetyLatches instId with
    | some reason => Prog.stop (latchIsSet reason)
    | none => pure () : ClientProg Unit) s = _
  cases s.instrumentMetadataSafetyLatches instId <;> rfl

theorem latchInstrumentMetadataFailure_eq :
    latchInstrumentMetadataFailure instId error s =
      (.ok (latchIsSet ((s.instrumentMetadataSafetyLatches instId).getD error)),
        if (s.instrumentMetadataSafetyLatches instId).isSome then s else s.latch instId error) := by
  show (match s.instrumentMetadataSafetyLatches instId with
    | some reason => pure (latchIsSet reason)
    | none => do
        Prog.modify fun s => s.latch instId error
        return latchIsSet error : ClientProg Message) s = _
  cases s.instrumentMetadataSafetyLatches instId <;> rfl

theorem latchOnError_error (h : s.instrumentMetadataSafetyLatches instId = none) :
    latchOnError instId (.error error) s = (.error (latchIsSet error), s.latch instId error) := by
  have hlatch : latchInstrumentMetadataFailure instId error s =
      (.ok (latchIsSet error), s.latch instId error) := by
    rw [latchInstrumentMetadataFailure_eq, h]
    rfl
  exact Prog.bind_apply_ok hlatch

/-- The comparison with a row, where there is one. -/
def matchesRow (hint : OkxWebsocketInstrumentUpdate) : Option OkxInstrument → Result Unit
  | none => .ok ()
  | some row => ensureInstrumentHintMatchesRestSnapshot hint row

/-- What a check against a row finds wrong with a message. -/
def hintFailure (hint : OkxWebsocketInstrumentUpdate) (snapshot : Option OkxInstrument) :
    Result Unit := do
  hint.ensureLive
  matchesRow hint snapshot

theorem hintFailure_of_alarming {hint : OkxWebsocketInstrumentUpdate}
    {snapshot : Option OkxInstrument} (h : Alarming hint snapshot) :
    ∃ error, hintFailure hint snapshot = .error error := by
  cases hcheck : hintFailure hint snapshot with
  | error error => exact ⟨error, rfl⟩
  | ok u =>
      simp only [hintFailure, bind_eq_ok] at hcheck
      obtain ⟨_, hlive, hrest⟩ := hcheck
      rcases h with hstate | ⟨row, rfl, hrow⟩
      · exact absurd (live_of_ensureLive hlive) hstate
      · exact absurd hrow (not_contradicts_of_matches hrest)

/-- What a check can do: fail on a latch, pass, or set the latch. -/
inductive CheckOutcome (s : ClientState) (instId : Text) (snapshot : Option OkxInstrument) :
    Result Unit × ClientState → Prop
  | latched {reason : Message} (h : s.LatchedFor instId reason) :
      CheckOutcome s instId snapshot (.error (latchIsSet reason), s)
  | passes (hclear : s.instrumentMetadataSafetyLatches instId = none)
      (hpass : ∀ hint, s.freshInstrument instId = some hint →
        hintFailure hint snapshot = .ok ()) :
      CheckOutcome s instId snapshot (.ok (), s)
  | latches {error : Message} (hclear : s.instrumentMetadataSafetyLatches instId = none) :
      CheckOutcome s instId snapshot (.error (latchIsSet error), s.latch instId error)

/-- The part of both checks after the latch and the message have been looked up. -/
theorem checkOutcome_of_hint {hint : OkxWebsocketInstrumentUpdate}
    {snapshot : Option OkxInstrument} {rest : ClientProg Unit}
    (hclear : s.instrumentMetadataSafetyLatches instId = none)
    (hfresh : s.freshInstrument instId = some hint)
    (hrest : rest s = latchOnError instId (matchesRow hint snapshot) s) :
    CheckOutcome s instId snapshot ((latchOnError instId hint.ensureLive >>= fun _ => rest) s) := by
  cases hlive : hint.ensureLive with
  | error error =>
      rw [Prog.bind_apply_error (latchOnError_error hclear)]
      exact .latches hclear
  | ok u =>
      have hpassed : latchOnError instId (.ok u) s = (.ok (), s) := rfl
      rw [Prog.bind_apply_ok hpassed, hrest]
      cases hmatch : matchesRow hint snapshot with
      | error error =>
          rw [latchOnError_error hclear]
          exact .latches hclear
      | ok u =>
          refine .passes hclear ?_
          intro found hfound
          rw [hfresh] at hfound
          cases hfound
          unfold hintFailure
          rw [hlive]
          exact hmatch

theorem ensureFreshInstrumentHintMatchesSnapshot_outcome (instId : Text) (s : ClientState) :
    CheckOutcome s instId (s.instrumentSnapshots instId)
      (ensureFreshInstrumentHintMatchesSnapshot instId s) := by
  have hclear := ensureInstrumentMetadataSafetyLatchClear_eq instId s
  unfold ensureFreshInstrumentHintMatchesSnapshot
  cases hlatch : s.instrumentMetadataSafetyLatches instId with
  | some reason =>
      rw [hlatch] at hclear
      rw [Prog.bind_apply_error hclear]
      exact .latched hlatch
  | none =>
      rw [hlatch] at hclear
      have hget : (Prog.get : ClientProg ClientState) s = (.ok s, s) := rfl
      rw [Prog.bind_apply_ok hclear, Prog.bind_apply_ok hget]
      cases hfresh : s.freshInstrument instId with
      | none => exact .passes hlatch fun hint h => by rw [hfresh] at h; cases h
      | some hint =>
          refine checkOutcome_of_hint hlatch hfresh ?_
          rw [Prog.bind_apply_ok hget, instId_of_freshInstrument hfresh]
          cases s.instrumentSnapshots instId <;> rfl

theorem ensureFreshInstrumentHintMatchesRestSnapshot_outcome (snapshot : OkxInstrument)
    (s : ClientState) :
    CheckOutcome s snapshot.instId (some snapshot)
      (ensureFreshInstrumentHintMatchesRestSnapshot snapshot s) := by
  have hclear := ensureInstrumentMetadataSafetyLatchClear_eq snapshot.instId s
  unfold ensureFreshInstrumentHintMatchesRestSnapshot
  cases hlatch : s.instrumentMetadataSafetyLatches snapshot.instId with
  | some reason =>
      rw [hlatch] at hclear
      rw [Prog.bind_apply_error hclear]
      exact .latched hlatch
  | none =>
      rw [hlatch] at hclear
      have hget : (Prog.get : ClientProg ClientState) s = (.ok s, s) := rfl
      rw [Prog.bind_apply_ok hclear, Prog.bind_apply_ok hget]
      cases hfresh : s.freshInstrument snapshot.instId with
      | none => exact .passes hlatch fun hint h => by rw [hfresh] at h; cases h
      | some hint => exact checkOutcome_of_hint hlatch hfresh rfl

end Segments

/-! ## What the segments keep -/

section Keep

variable {I : ClientState → Prop} {s : ClientState} {instId other : Text} {reason : Message}

theorem orStop_preserves {α : Type} (x : Result α) : Preserves I (orStop x) := fun _ h => h

/-- `I` does not look at the caches behind the capabilities. -/
structure CapabilityBlind (I : ClientState → Prop) : Prop where
  generations : ∀ s generations, I s → I { s with validatedCapabilityGenerations := generations }
  diagnostic : ∀ s diagnostic, I s → I { s with accountLevelDiagnostic := diagnostic }

/-- The segments that may set a latch. -/
def ClientOp.mayLatch : ClientOp → Bool
  | .latchInstrumentMetadataFailure _ _ => true
  | .ensureFreshInstrumentHintMatchesSnapshot _ => true
  | .ensureFreshInstrumentHintMatchesRestSnapshot _ => true
  | _ => false

theorem revoke_preserves (hI : CapabilityBlind I) : Preserves I revokeCapabilityGenerations :=
  Preserves.modify fun s h => hI.generations s _ h

theorem validatedTradingInstrumentIfPresent_preserves (instId : Text) :
    Preserves I (validatedTradingInstrumentIfPresent instId) :=
  Preserves.bind .get fun _ => .pure _

theorem observe_preserves (hI : CapabilityBlind I) (config : OkxAccountConfig) :
    Preserves I (observeAccountLevelDiagnostic config) := by
  refine .bind .get fun _ => .bind (orStop_preserves _) fun snapshot => .bind .get fun _ =>
    .bind (.modify fun s h => hI.diagnostic s _ h) fun _ => ?_
  split
  · exact .bind (revoke_preserves hI) fun _ => .stop _
  · exact .pure _

theorem matchingObserved_preserves (hI : CapabilityBlind I) (config : OkxAccountConfig) :
    Preserves I (matchingObservedAccountLevelDiagnostic config) := by
  refine .bind (orStop_preserves _) fun expected => .bind .get fun s => ?_
  split
  · exact .stop _
  · split
    · exact .bind (revoke_preserves hI) fun _ => .stop _
    · exact .pure _

theorem rememberGeneration_preserves (hI : CapabilityBlind I)
    (generation : ValidatedCapabilityGeneration) :
    Preserves I (rememberValidatedCapabilityGeneration generation) := by
  have hcache : ∀ s, I s → I (s.withGeneration generation) := fun s h => hI.generations s _ h
  refine .bind .get fun s => ?_
  split
  · exact .stop _
  · refine .bind (orStop_preserves _) fun _ => .bind .get fun s => ?_
    split
    · exact .modify hcache
    · exact .bind (orStop_preserves _) fun _ => .bind (orStop_preserves _) fun _ => .modify hcache

theorem feeGroupId_preserves (instId : Text) : Preserves I (instrumentFeeGroupId instId) := by
  refine .bind (validatedTradingInstrumentIfPresent_preserves _) fun validated => ?_
  split
  · exact orStop_preserves _
  · refine .bind .get fun s => ?_
    split
    · exact orStop_preserves _
    · exact .stop _

theorem typeForFeeGroup_preserves (instId expectedGroupId : Text) :
    Preserves I (instrumentTypeForFeeGroup instId expectedGroupId) := by
  refine .bind (validatedTradingInstrumentIfPresent_preserves _) fun validated => ?_
  split
  · exact .bind (orStop_preserves _) fun _ => .pure _
  · refine .bind .get fun s => ?_
    split
    · exact .bind (orStop_preserves _) fun _ => .bind (orStop_preserves _) fun _ => .pure _
    · exact .stop _

theorem orderRoute_preserves (instId : Text) : Preserves I (validatedOrderRoute instId) := by
  refine .bind (validatedTradingInstrumentIfPresent_preserves _) fun validated => ?_
  split
  · exact .pure _
  · exact .stop _

/-- The other segments keep what does not look at those caches. -/
theorem op_preserves (hI : CapabilityBlind I) {op : ClientOp} (hop : op.mayLatch = false)
    (hrow : ∀ row, op = .rememberInstrumentSnapshot row → ∀ s, I s → I (s.withSnapshot row)) :
    Preserves I op.run := by
  cases op with
  | now => exact .bind .get fun _ => .pure _
  | marketDataMaxStaleness => exact .bind .get fun _ => .pure _
  | ensureInstrumentMetadataSafetyLatchClear instId =>
      intro s h
      show I (ensureInstrumentMetadataSafetyLatchClear instId s).2
      rw [ensureInstrumentMetadataSafetyLatchClear_eq]
      exact h
  | latchInstrumentMetadataFailure => cases hop
  | ensureFreshInstrumentHintMatchesSnapshot => cases hop
  | ensureFreshInstrumentHintMatchesRestSnapshot => cases hop
  | rememberInstrumentSnapshot row => exact .modify (hrow row rfl)
  | validatedTradingInstrumentIfPresent => exact validatedTradingInstrumentIfPresent_preserves _
  | validatedOrderRoute => exact orderRoute_preserves _
  | instrumentFeeGroupId => exact feeGroupId_preserves _
  | instrumentTypeForFeeGroup => exact typeForFeeGroup_preserves _ _
  | observeAccountLevelDiagnostic => exact observe_preserves hI _
  | matchingObservedAccountLevelDiagnostic => exact matchingObserved_preserves hI _
  | revokeCapabilityGenerations => exact revoke_preserves hI
  | rememberValidatedCapabilityGeneration => exact rememberGeneration_preserves hI _

theorem latchedFor_blind : CapabilityBlind fun s => s.LatchedFor instId reason :=
  ⟨fun _ _ h => h, fun _ _ h => h⟩

/-- A new latch is of an instrument that had none. -/
theorem latchedFor_latch {error : Message} (h : s.LatchedFor instId reason)
    (hclear : s.instrumentMetadataSafetyLatches other = none) :
    (s.latch other error).LatchedFor instId reason := by
  have hne : instId ≠ other := by
    rintro rfl
    rw [ClientState.LatchedFor, hclear] at h
    cases h
  exact (Function.update_of_ne hne _ _).trans h

theorem CheckOutcome.keeps_latch {snapshot : Option OkxInstrument}
    {outcome : Result Unit × ClientState} (hcheck : CheckOutcome s other snapshot outcome)
    (h : s.LatchedFor instId reason) : outcome.2.LatchedFor instId reason := by
  cases hcheck with
  | latched => exact h
  | passes => exact h
  | latches hclear => exact latchedFor_latch h hclear

/-- **No segment removes a latch or changes its reason.** -/
theorem op_keeps_latch (op : ClientOp) (h : s.LatchedFor instId reason) :
    (op.run s).2.LatchedFor instId reason := by
  cases hop : op.mayLatch with
  | false => exact op_preserves latchedFor_blind hop (fun _ _ _ h => h) s h
  | true =>
      cases op with
      | latchInstrumentMetadataFailure other error =>
          show (latchInstrumentMetadataFailure other error s).2.LatchedFor instId reason
          rw [latchInstrumentMetadataFailure_eq]
          cases hother : s.instrumentMetadataSafetyLatches other with
          | none => exact latchedFor_latch h hother
          | some _ => exact h
      | ensureFreshInstrumentHintMatchesSnapshot other =>
          exact (ensureFreshInstrumentHintMatchesSnapshot_outcome other s).keeps_latch h
      | ensureFreshInstrumentHintMatchesRestSnapshot row =>
          exact (ensureFreshInstrumentHintMatchesRestSnapshot_outcome row s).keeps_latch h
      | _ => cases hop

end Keep

/-! ## What a latch does not change -/

section Spare

variable {instId : Text} {reason : Message}

/-- The segment is not about the latch of the instrument. -/
def ClientOp.Spares (instId : Text) : ClientOp → Prop
  | .ensureInstrumentMetadataSafetyLatchClear other => other ≠ instId
  | .latchInstrumentMetadataFailure other _ => other ≠ instId
  | .ensureFreshInstrumentHintMatchesSnapshot other => other ≠ instId
  | .ensureFreshInstrumentHintMatchesRestSnapshot row => row.instId ≠ instId
  | _ => True

/-- Setting the latch of an instrument. -/
def latching (instId : Text) (reason : Message) (s : ClientState) : ClientState :=
  s.latch instId reason

theorem orStop_commutes {α : Type} {f : ClientState → ClientState} (x : Result α) :
    Commutes f (orStop x) := fun _ => rfl

theorem validatedTradingInstrumentIfPresent_commutes (other : Text) :
    Commutes (latching instId reason) (validatedTradingInstrumentIfPresent other) :=
  Commutes.get_bind fun _ => rfl

theorem revoke_commutes : Commutes (latching instId reason) revokeCapabilityGenerations :=
  Commutes.modify fun _ => rfl

theorem observe_commutes (config : OkxAccountConfig) :
    Commutes (latching instId reason) (observeAccountLevelDiagnostic config) := by
  intro s
  rw [observeAccountLevelDiagnostic_eq, observeAccountLevelDiagnostic_eq]
  have hnow : (latching instId reason s).now = s.now := rfl
  rw [hnow]
  cases AccountLevelDiagnosticSnapshot.observe config s.now with
  | error e => rfl
  | ok snapshot =>
      show (if s.accountLevelDiagnostic.any fun current => decide (current.value ≠ snapshot.value)
        then _ else _) = _
      dsimp only
      unfold ClientState.observed
      split <;> rfl

theorem matchingObserved_commutes (config : OkxAccountConfig) :
    Commutes (latching instId reason) (matchingObservedAccountLevelDiagnostic config) := by
  intro s
  rw [matchingObservedAccountLevelDiagnostic_eq, matchingObservedAccountLevelDiagnostic_eq]
  cases AccountLevelDiagnostic.parse config.accountLevel with
  | error e => rfl
  | ok expected =>
      show (latching instId reason s).matchingObserved expected s.accountLevelDiagnostic = _
      dsimp only
      cases s.accountLevelDiagnostic with
      | none => rfl
      | some snapshot =>
          unfold ClientState.matchingObserved
          dsimp only
          split <;> rfl

theorem rememberGeneration_commutes (generation : ValidatedCapabilityGeneration) :
    Commutes (latching instId reason) (rememberValidatedCapabilityGeneration generation) := by
  intro s
  rw [rememberValidatedCapabilityGeneration_eq, rememberValidatedCapabilityGeneration_eq]
  have hdiagnostic : (latching instId reason s).accountLevelDiagnostic = s.accountLevelDiagnostic :=
    rfl
  have hcached : (latching instId reason s).validatedCapabilityGenerations =
    s.validatedCapabilityGenerations := rfl
  rw [hdiagnostic, hcached]
  cases cachingCheck s.accountLevelDiagnostic
    (s.validatedCapabilityGenerations generation.context.instrument.instId) generation <;> rfl

theorem orderRoute_commutes (other : Text) :
    Commutes (latching instId reason) (validatedOrderRoute other) := by
  refine .bind (validatedTradingInstrumentIfPresent_commutes other) fun validated => ?_
  split
  · exact .pure _
  · exact .stop _

theorem feeGroupId_commutes (other : Text) :
    Commutes (latching instId reason) (instrumentFeeGroupId other) := by
  refine .bind (validatedTradingInstrumentIfPresent_commutes other) fun validated => ?_
  split
  · exact orStop_commutes _
  · refine .get_bind fun s => ?_
    have hsnapshots : (latching instId reason s).instrumentSnapshots = s.instrumentSnapshots := rfl
    rw [hsnapshots]
    cases s.instrumentSnapshots other <;> rfl

theorem typeForFeeGroup_commutes (other expectedGroupId : Text) :
    Commutes (latching instId reason) (instrumentTypeForFeeGroup other expectedGroupId) := by
  refine .bind (validatedTradingInstrumentIfPresent_commutes other) fun validated => ?_
  split
  · exact .bind (orStop_commutes _) fun _ => .pure _
  · refine .get_bind fun s => ?_
    have hsnapshots : (latching instId reason s).instrumentSnapshots = s.instrumentSnapshots := rfl
    rw [hsnapshots]
    cases s.instrumentSnapshots other with
    | none => rfl
    | some snapshot =>
        exact Commutes.bind (orStop_commutes _) (fun _ =>
          Commutes.bind (orStop_commutes _) fun _ => .pure _) s

theorem latchClear_commutes {other : Text} (h : other ≠ instId) :
    Commutes (latching instId reason) (ensureInstrumentMetadataSafetyLatchClear other) := by
  intro s
  rw [ensureInstrumentMetadataSafetyLatchClear_eq, ensureInstrumentMetadataSafetyLatchClear_eq]
  have hother : (latching instId reason s).instrumentMetadataSafetyLatches other =
    s.instrumentMetadataSafetyLatches other := Function.update_of_ne h _ _
  rw [hother]

theorem latch_comm {other : Text} {error : Message} (h : other ≠ instId) (s : ClientState) :
    (latching instId reason s).latch other error = latching instId reason (s.latch other error) :=
  congrArg (fun latches => { s with instrumentMetadataSafetyLatches := latches })
    (Function.update_comm h.symm _ _ _)

theorem latchFailure_commutes {other : Text} {error : Message} (h : other ≠ instId) :
    Commutes (latching instId reason) (latchInstrumentMetadataFailure other error) := by
  intro s
  have hother : (latching instId reason s).instrumentMetadataSafetyLatches other =
    s.instrumentMetadataSafetyLatches other := Function.update_of_ne h _ _
  rw [latchInstrumentMetadataFailure_eq, latchInstrumentMetadataFailure_eq, hother, latch_comm h]
  split <;> rfl

theorem latchOnError_commutes {other : Text} {check : Result Unit} (h : other ≠ instId) :
    Commutes (latching instId reason) (latchOnError other check) := by
  cases check with
  | ok u => exact .pure _
  | error error => exact .bind (latchFailure_commutes h) fun _ => .stop _

theorem checkSnapshot_commutes {other : Text} (h : other ≠ instId) :
    Commutes (latching instId reason) (ensureFreshInstrumentHintMatchesSnapshot other) := by
  refine .bind (latchClear_commutes h) fun _ => .get_bind fun s => ?_
  have hfresh : (latching instId reason s).freshInstrument other = s.freshInstrument other := rfl
  rw [hfresh]
  cases hfresh : s.freshInstrument other with
  | none => rfl
  | some hint =>
      have hinst := instId_of_freshInstrument hfresh
      refine Commutes.bind (latchOnError_commutes h) (fun _ => .get_bind fun s => ?_) s
      have hsnapshots : (latching instId reason s).instrumentSnapshots = s.instrumentSnapshots :=
        rfl
      rw [hsnapshots]
      cases s.instrumentSnapshots hint.instId with
      | none => rfl
      | some snapshot => exact latchOnError_commutes h s

theorem checkRow_commutes {row : OkxInstrument} (h : row.instId ≠ instId) :
    Commutes (latching instId reason) (ensureFreshInstrumentHintMatchesRestSnapshot row) := by
  refine .bind (latchClear_commutes h) fun _ => .get_bind fun s => ?_
  have hfresh : (latching instId reason s).freshInstrument row.instId =
    s.freshInstrument row.instId := rfl
  rw [hfresh]
  cases s.freshInstrument row.instId with
  | none => rfl
  | some hint => exact Commutes.bind (latchOnError_commutes h) (fun _ => latchOnError_commutes h) s

/-- **A segment about other things does the same with and without the latch.** -/
theorem op_latch_comm {op : ClientOp} (h : op.Spares instId) :
    Commutes (latching instId reason) op.run := by
  cases op with
  | now => exact .get_bind fun _ => rfl
  | marketDataMaxStaleness => exact .get_bind fun _ => rfl
  | ensureInstrumentMetadataSafetyLatchClear => exact latchClear_commutes h
  | latchInstrumentMetadataFailure => exact latchFailure_commutes h
  | ensureFreshInstrumentHintMatchesSnapshot => exact checkSnapshot_commutes h
  | ensureFreshInstrumentHintMatchesRestSnapshot => exact checkRow_commutes h
  | rememberInstrumentSnapshot => exact .modify fun _ => rfl
  | validatedTradingInstrumentIfPresent => exact validatedTradingInstrumentIfPresent_commutes _
  | validatedOrderRoute => exact orderRoute_commutes _
  | instrumentFeeGroupId => exact feeGroupId_commutes _
  | instrumentTypeForFeeGroup => exact typeForFeeGroup_commutes _ _
  | observeAccountLevelDiagnostic => exact observe_commutes _
  | matchingObservedAccountLevelDiagnostic => exact matchingObserved_commutes _
  | revokeCapabilityGenerations => exact revoke_commutes
  | rememberValidatedCapabilityGeneration => exact rememberGeneration_commutes _

end Spare

/-! ## Calls that are refused -/

/-- Nothing is asked of the exchange. -/
def Quiet : ClientRequest → Prop
  | .inl _ => True
  | .inr query => query.isReserve = true

section Refuse

variable {α β : Type} {can : (q : ClientRequest) → q.Reply → Prop} {instId : Text}

/-- The task fails, and nothing is sent for it. -/
abbrev Refuses (can : (q : ClientRequest) → q.Reply → Prop) (task : ClientTask α) : Prop :=
  task.Upholds can Quiet fun r => ∃ e, r = .error e

/-- Nothing is sent for the task. -/
abbrev Sendless (can : (q : ClientRequest) → q.Reply → Prop) (task : ClientTask α) : Prop :=
  task.Upholds can Quiet fun _ => True

theorem Refuses.before {x : ClientTask α} (f : α → ClientTask β) (h : Refuses can x) :
    Refuses can (x >>= f) :=
  .bind h (fun _ ha => by obtain ⟨_, ha⟩ := ha; cases ha) fun e _ => ⟨e, rfl⟩

theorem Refuses.after {x : ClientTask α} {f : α → ClientTask β} (hx : Sendless can x)
    (hf : ∀ a, Refuses can (f a)) : Refuses can (x >>= f) :=
  .bind hx (fun a _ => hf a) fun e _ => ⟨e, rfl⟩

theorem sendless_perform (op : ClientOp) : Sendless can (perform op) :=
  perform_upholds trivial fun _ _ => trivial

theorem sendless_failing (x : Result α) : Sendless can (failing x) := .ofExcept trivial

theorem sendless_reserve (path : String) (instId : Text) :
    Sendless can (request (.reserve path instId)) :=
  request_upholds rfl fun _ => trivial

theorem refuses_fail (message : Message) : Refuses can (fail message : ClientTask α) :=
  .stop ⟨_, rfl⟩

/-- The check of the instrument's metadata does not pass. -/
def CheckFails (can : (q : ClientRequest) → q.Reply → Prop) (instId : Text) : Prop :=
  ∀ reply, can (.inl (.ensureFreshInstrumentHintMatchesSnapshot instId)) reply →
    ∃ e, reply = .error e

theorem CheckFails.refuses (h : CheckFails can instId) :
    Refuses can (perform (.ensureFreshInstrumentHintMatchesSnapshot instId)) :=
  perform_upholds trivial fun reply hreply => by
    obtain ⟨e, rfl⟩ := h reply hreply
    exact ⟨_, rfl⟩

theorem tickerWithMaxAge_refuses (h : CheckFails can instId) (maxStaleness : ℕ) :
    Refuses can (tickerWithMaxAge instId maxStaleness) :=
  .before _ h.refuses

theorem submitOrder_refuses {body : PlaceOrderRequest} (h : CheckFails can body.instId) :
    Refuses can (submitOrder body) := by
  unfold submitOrder
  split
  · exact .before _ h.refuses
  · split
    · exact .after (sendless_reserve _ _) fun _ => .before _ h.refuses
    · exact refuses_fail _

theorem placeOrder_refuses (h : CheckFails can instId) (side : OrderSide) (kind : OrderKind)
    (size : DecimalText) (price : Option DecimalText) (clientOrderId : Text) :
    Refuses can (placeOrder instId side kind size price clientOrderId) :=
  .after (sendless_perform _) fun _ => .before _ (submitOrder_refuses h)

theorem submitAmend_refuses {amend : OkxOrderAmend} (h : CheckFails can amend.instId) :
    Refuses can (submitAmend amend) := by
  unfold submitAmend
  dsimp only
  split
  · exact .after (sendless_reserve _ _) fun _ => .before _ h.refuses
  · exact .before _ h.refuses

theorem amendOrder_refuses {amend : OkxOrderAmend} (h : CheckFails can amend.instId) :
    Refuses can (amendOrder amend) :=
  .after (sendless_perform _) fun _ => .after (sendless_failing _) fun _ =>
    .before _ (submitAmend_refuses h)

theorem placeTriggerOrder_refuses (h : CheckFails can instId) (side : OrderSide)
    (size triggerPrice : DecimalText) (clientOrderId : Text) :
    Refuses can (placeTriggerOrder instId side size triggerPrice clientOrderId) :=
  .after (sendless_perform _) fun _ => .before _ h.refuses

theorem prepareWebsocketPlaceOrder_refuses (h : CheckFails can instId) (side : OrderSide)
    (kind : OrderKind) (price : Option DecimalText) :
    Refuses can (prepareWebsocketPlaceOrder instId side kind price) := by
  refine .after (sendless_failing _) fun _ => ?_
  split
  · exact .after (sendless_reserve _ _) fun _ => .before _ h.refuses
  · exact refuses_fail _

theorem prepareWebsocketAmendOrder_refuses (h : CheckFails can instId) (side : OrderSide)
    (newPrice : Option DecimalText) :
    Refuses can (prepareWebsocketAmendOrder instId side newPrice) :=
  .after (sendless_reserve _ _) fun _ => .before _ h.refuses

end Refuse

/-- The commands that create or amend an order of the instrument, and the ticker lookup. -/
def ClientCall.Checked (instId : Text) : ClientCall → Prop
  | .ticker other => other = instId
  | .placeOrder other _ _ _ _ _ => other = instId
  | .amendOrder amend => amend.instId = instId
  | .placeTriggerOrder other _ _ _ _ => other = instId
  | .prepareWebsocketPlaceOrder other _ _ _ => other = instId
  | .prepareWebsocketAmendOrder other _ _ => other = instId
  | _ => False

theorem checked_refuses {can : (q : ClientRequest) → q.Reply → Prop} {instId : Text}
    (h : CheckFails can instId) {call : ClientCall} (hcall : call.Checked instId) :
    Refuses can call.task := by
  cases call with
  | ticker =>
      cases hcall
      exact .before _ (.after (sendless_perform _) fun _ => tickerWithMaxAge_refuses h _)
  | placeOrder =>
      cases hcall
      exact .before _ (placeOrder_refuses h _ _ _ _ _)
  | amendOrder =>
      cases hcall
      exact .before _ (amendOrder_refuses h)
  | placeTriggerOrder =>
      cases hcall
      exact .before _ (placeTriggerOrder_refuses h _ _ _ _)
  | prepareWebsocketPlaceOrder =>
      cases hcall
      exact .before _ (prepareWebsocketPlaceOrder_refuses h _ _ _)
  | prepareWebsocketAmendOrder =>
      cases hcall
      exact .before _ (prepareWebsocketAmendOrder_refuses h _ _)
  | _ => exact absurd hcall id

/-! ## Calls about other things -/

section Sparing

variable {instId : Text}

/-- The task never turns to the latch of the instrument, whatever it is answered. -/
abbrev Sparing (instId : Text) (task : ClientTask Unit) : Prop := Asks (·.Spares instId) task

theorem spares_of_plain (op : ClientOp) (h : op.plain = true) : op.Spares instId := by
  cases op <;> trivial

theorem admitsChecks_of_ne {other : Text} (h : other ≠ instId) :
    AdmitsChecks (·.Spares instId) other where
  clear := h
  latch := fun _ => h
  check := h
  row := fun _ hrow heq => h (hrow.symm.trans heq)

end Sparing

/-- The call is about another instrument, or it cancels, reads orders or reads the account. -/
def ClientCall.Spares (instId : Text) (call : ClientCall) : Prop :=
  call.checkedInstId ≠ some instId

theorem spares_sparing {instId : Text} {call : ClientCall} (h : call.Spares instId) :
    Sparing instId call.task := by
  refine asks_task spares_of_plain (fun other hother => admitsChecks_of_ne ?_)
    fun _ _ _ _ => trivial
  rintro rfl
  exact h hother

/-! ## Whole runs -/

section Runs

variable {pool last : ClientPool} {turns : List ClientTurn} {instId : Text} {reason : Message}

/-- What is left of a refused call: it waits for no answer of the exchange, and if it has ended, it
has failed. -/
structure Refused (rest : ClientTask Unit) : Prop where
  quiet : ∀ q, rest.waiting? = some q → Quiet q
  failed : ∀ r, rest.outcome? = some r → ∃ e, r = .error e

theorem Refuses.refused {can : (q : ClientRequest) → q.Reply → Prop} {rest : ClientTask Unit}
    (h : Refuses can rest) : Refused rest := by
  cases rest with
  | done outcome => exact ⟨fun q hq => (by cases hq), fun r hr => by cases hr; exact h⟩
  | await q next => exact ⟨fun q hq => by cases hq; exact h.1, fun r hr => (by cases hr)⟩

/-- Calls that are refused wherever `I` holds are refused over every run that keeps it. -/
theorem blocked_calls {C : ClientPool → ClientTurn → ClientPool → Prop} {I : ClientState → Prop}
    {B : ClientCall → Prop}
    (keeps : ∀ pool turn next, C pool turn next → clientSystem.step pool turn = some next →
      I pool.shared → I next.shared)
    (refuses : ∀ call, B call → Refuses (clientSystem.Can I) call.task)
    (h : clientSystem.run pool turns = some last) (hC : clientSystem.Along C pool turns)
    (hI : I pool.shared) :
    I last.shared ∧ ∀ k call rest, pool.jobs.length ≤ k → last.jobs[k]? = some ⟨call, rest⟩ →
      B call → Refused rest := by
  have hnone : ∀ k call rest, pool.jobs.length ≤ k → pool.jobs[k]? = some ⟨call, rest⟩ →
      B call → Refuses (clientSystem.Can I) rest := by
    intro k call rest hk hget
    rw [List.getElem?_eq_none hk] at hget
    cases hget
  obtain ⟨hlast, hjobs⟩ := System.run_keeps_jobs keeps refuses
    (fun call q rest answer hrest hcan hB => (hrest hB).2 answer hcan) h hC hI hnone
  exact ⟨hlast, fun k call rest hk hget hB => (hjobs k call rest hk hget hB).refused⟩

/-- A part of the state that no event from outside is about. -/
def OutsideBlind {β : Type} (part : ClientState → β) : Prop :=
  ∀ s now hints ready events updates,
    part { s with now := now, instrumentHints := hints, dispatchReady := ready,
                  publicRuntimeEvents := events, dispatchedUpdates := updates } = part s

theorem applyInstrumentHints_keeps {β : Type} {part : ClientState → β} (h : OutsideBlind part)
    (walks : ℕ → InstrumentHintWalk) (hints : List OkxInstrumentUpdateHint) (s : ClientState) :
    part (applyInstrumentHints walks s hints) = part s := by
  induction hints generalizing walks s with
  | nil => rfl
  | cons hint rest ih => exact (ih _ _).trans (h s s.now _ s.dispatchReady _ s.dispatchedUpdates)

theorem outside_keeps {β : Type} {part : ClientState → β} (hpart : OutsideBlind part)
    {s t : ClientState} {event : ClientEvent} (h : clientOutside s event = some t) :
    part t = part s := by
  cases event with
  | elapse ms =>
      cases h
      exact hpart s _ s.instrumentHints s.dispatchReady s.publicRuntimeEvents s.dispatchedUpdates
  | readiness ready =>
      cases h
      exact hpart s s.now s.instrumentHints _ s.publicRuntimeEvents s.dispatchedUpdates
  | publicInstruments walks message =>
      simp only [clientOutside] at h
      split at h
      · cases h
        unfold applyPublicInstruments
        split
        · rfl
        · exact applyInstrumentHints_keeps hpart _ _ _
      · cases h
  | takePublicRuntimeEvent =>
      simp only [clientOutside] at h
      split at h
      · cases h
      · cases h
        exact hpart s s.now s.instrumentHints s.dispatchReady _ _

/-- **A latch stays for ever, with its reason.** -/
theorem step_keeps_latch {next : ClientPool} {turn : ClientTurn}
    (h : clientSystem.step pool turn = some next)
    (hlatched : pool.shared.LatchedFor instId reason) :
    next.shared.LatchedFor instId reason := by
  refine System.step_keeps_shared (I := fun s => s.LatchedFor instId reason) ?_ ?_ h hlatched
  · intro q run s hrun hs
    cases q with
    | inl op =>
        cases hrun
        exact op_keeps_latch op hs
    | inr query => cases hrun
  · intro s event t hevent hs
    have hblind : OutsideBlind (·.instrumentMetadataSafetyLatches) := fun _ _ _ _ _ _ => rfl
    rw [ClientState.LatchedFor, outside_keeps hblind hevent]
    exact hs

/-- The latch of the instrument is set, or its next check sets it. -/
def ClientState.Blocked (s : ClientState) (instId : Text) : Prop :=
  s.Contradicted instId ∨ ∃ reason, s.LatchedFor instId reason

/-- A check that finds an alarming message, or the latch, fails and leaves the latch set. -/
theorem CheckOutcome.blocks {s : ClientState} {snapshot : Option OkxInstrument}
    {outcome : Result Unit × ClientState} (hcheck : CheckOutcome s instId snapshot outcome)
    (h : (∃ hint, s.freshInstrument instId = some hint ∧ Alarming hint snapshot) ∨
      ∃ reason, s.LatchedFor instId reason) :
    (∃ e, outcome.1 = .error e) ∧ ∃ reason, outcome.2.LatchedFor instId reason := by
  cases hcheck with
  | latched hlatched => exact ⟨⟨_, rfl⟩, _, hlatched⟩
  | latches hclear => exact ⟨⟨_, rfl⟩, _, Function.update_self _ _ _⟩
  | passes hclear hpass =>
      rcases h with ⟨hint, hfresh, halarming⟩ | ⟨reason, hreason⟩
      · obtain ⟨e, he⟩ := hintFailure_of_alarming halarming
        have hok := hpass hint hfresh
        rw [he] at hok
        cases hok
      · rw [ClientState.LatchedFor, hclear] at hreason
        cases hreason

theorem checkFails_of_blocked {I : ClientState → Prop} (hI : ∀ s, I s → s.Blocked instId) :
    CheckFails (clientSystem.Can I) instId := by
  intro reply hcan
  obtain ⟨s, hs, rfl⟩ := hcan _ rfl
  exact ((ensureFreshInstrumentHintMatchesSnapshot_outcome instId s).blocks (hI s hs)).1

/-- The calls that consult the latch of the instrument. -/
def ClientCall.Guarded (instId : Text) : ClientCall → Prop
  | .instruments _ other => other = instId
  | call => call.Checked instId

theorem guarded_refuses {call : ClientCall} (h : call.Guarded instId) :
    Refuses (clientSystem.Can fun s => s.LatchedFor instId reason) call.task := by
  have hchecked : call.Checked instId →
      Refuses (clientSystem.Can fun s => s.LatchedFor instId reason) call.task :=
    checked_refuses (checkFails_of_blocked fun s hs => .inr ⟨reason, hs⟩)
  cases call with
  | instruments instType other =>
      cases h
      refine .before _ (.before _ (perform_upholds trivial fun reply hreply => ?_))
      obtain ⟨s, hs, rfl⟩ := hreply _ rfl
      show ∃ e, Except.mapError _ (ensureInstrumentMetadataSafetyLatchClear instId s).1 = .error e
      rw [ensureInstrumentMetadataSafetyLatchClear_eq, hs]
      exact ⟨_, rfl⟩
  | _ => exact hchecked h

/-- Every job of a reachable pool whose call is about other things leaves the latch alone. -/
theorem sparing_jobs {s : ClientState} (h : clientSystem.run ⟨s, []⟩ turns = some pool) (k : ℕ)
    (call : ClientCall) (rest : ClientTask Unit) (hget : pool.jobs[k]? = some ⟨call, rest⟩)
    (hcall : call.Spares instId) : Sparing instId rest := by
  obtain ⟨-, hjobs⟩ := System.run_keeps_jobs (n := 0) (I := fun _ => True)
    (C := fun _ _ _ => True) (T := fun call rest => call.Spares instId → Sparing instId rest)
    (fun _ _ _ _ _ _ => trivial) (fun call => spares_sparing)
    (fun call q rest answer hrest _ hcall => (hrest hcall).2 answer trivial) h
    System.along_trivial trivial fun k call rest _ hget => by simp at hget
  exact hjobs k call rest (Nat.zero_le k) hget hcall

/-- The pool with the latch of the instrument set. -/
def latchedPool (instId : Text) (reason : Message) : ClientPool → ClientPool :=
  System.mapShared (latching instId reason)

/-- The turn is of a call about other things, starts a call, or comes from outside. -/
def TurnSpares (instId : Text) (pool : ClientPool) : ClientTurn → Prop
  | .segment k => ∀ call rest, pool.jobs[k]? = some ⟨call, rest⟩ → call.Spares instId
  | _ => True

theorem applyInstrumentHints_latching (walks : ℕ → InstrumentHintWalk)
    (hints : List OkxInstrumentUpdateHint) (s : ClientState) :
    applyInstrumentHints walks (latching instId reason s) hints =
      latching instId reason (applyInstrumentHints walks s hints) := by
  induction hints generalizing walks s with
  | nil => rfl
  | cons hint rest ih => exact ih _ (applyInstrumentHint (walks 0) s hint)

theorem outside_latching (s : ClientState) (event : ClientEvent) :
    clientOutside (latching instId reason s) event =
      (clientOutside s event).map (latching instId reason) := by
  cases event with
  | elapse ms => rfl
  | readiness ready => rfl
  | publicInstruments walks message =>
      show (if message.receivedAt ≤ s.now then _ else _) = _
      simp only [clientOutside]
      split
      · unfold applyPublicInstruments
        split
        · rfl
        · exact congrArg some (applyInstrumentHints_latching _ _ _)
      · rfl
  | takePublicRuntimeEvent =>
      have hevents : (latching instId reason s).publicRuntimeEvents = s.publicRuntimeEvents := rfl
      simp only [clientOutside, hevents]
      cases s.publicRuntimeEvents <;> rfl

theorem step_latching {s : ClientState} {turn : ClientTurn} {before : List ClientTurn}
    (h : clientSystem.run ⟨s, []⟩ before = some pool) (hturn : TurnSpares instId pool turn) :
    clientSystem.step (latchedPool instId reason pool) turn =
      (clientSystem.step pool turn).map (latchedPool instId reason) := by
  refine System.step_commutes outside_latching ?_
  rintro k q run rfl hwaiting hrun t
  cases q with
  | inr query => cases hrun
  | inl op =>
      cases hrun
      obtain ⟨⟨call, rest⟩, hget, hrest⟩ := Option.bind_eq_some_iff.1 hwaiting
      have hspares := sparing_jobs h k call rest hget (hturn call rest hget)
      cases rest with
      | done outcome => cases hrest
      | await q next =>
          cases hrest
          exact op_latch_comm hspares.1 t

theorem run_latching {s : ClientState} {before after : List ClientTurn}
    (h : clientSystem.run ⟨s, []⟩ before = some pool)
    (hafter : clientSystem.Along (fun pool turn _ => TurnSpares instId pool turn) pool after) :
    clientSystem.run (latchedPool instId reason pool) after =
      (clientSystem.run pool after).map (latchedPool instId reason) := by
  induction after generalizing pool before with
  | nil => rfl
  | cons turn rest ih =>
      simp only [System.run]
      cases hstep : clientSystem.step pool turn with
      | none =>
          have hlatched : clientSystem.step (latchedPool instId reason pool) turn = none := by
            cases turn with
            | segment k =>
                rw [System.step_segment_eq_none] at hstep ⊢
                exact hstep
            | outside event =>
                have hturn : TurnSpares instId pool (.outside event) := trivial
                rw [step_latching h hturn, hstep]
                rfl
            | start call => cases hstep
            | answer k reply =>
                have hturn : TurnSpares instId pool (.answer k reply) := trivial
                rw [step_latching h hturn, hstep]
                rfl
          rw [hlatched]
          rfl
      | some next =>
          obtain ⟨hturn, hrest⟩ := hafter next hstep
          rw [step_latching h hturn, hstep]
          exact ih (System.run_snoc h hstep) hrest

/-- What the segment of a turn leaves behind. -/
theorem segment_shared {k : ℕ} {op : ClientOp} {next : ClientPool}
    (h : clientSystem.step pool (.segment k) = some next)
    (hwaiting : System.waiting pool k = some (.inl op)) : next.shared = (op.run pool.shared).2 := by
  rcases System.step_cases h with ⟨_, _, hturn, -, -⟩ | ⟨_, hturn, -⟩ |
    ⟨j, call, q, rest, run, hturn, hjob, hrun, rfl⟩ | ⟨_, _, _, _, _, hturn, -, -, -⟩
  · cases hturn
  · cases hturn
  · cases hturn
    rw [System.waiting, hjob] at hwaiting
    cases hwaiting
    cases hrun
    rfl
  · cases hturn

/-- **The metadata latch.**  In every run of the client's calls, from any state:

* a latch that is set stays, with its reason, and every call started from then on that creates or
  amends an order of the instrument, or looks up its ticker or its row, sends nothing but its
  reservations and fails;
* whatever happens to other instruments, to cancellations and to the account happens alike with and
  without the latch;
* a check that finds a fresh message that is not live, or that contradicts the remembered row (or
  the row just fetched), leaves the latch set; and as long as the message is fresh or the latch set,
  every command started from then on is refused. -/
theorem metadata_latch {s : ClientState} {before : List ClientTurn}
    (hpool : clientSystem.run ⟨s, []⟩ before = some pool) :
    (∀ reason after last, pool.shared.LatchedFor instId reason →
      clientSystem.run pool after = some last →
        last.shared.LatchedFor instId reason ∧
          ∀ k call rest, pool.jobs.length ≤ k → last.jobs[k]? = some ⟨call, rest⟩ →
            call.Guarded instId → Refused rest) ∧
    (∀ reason after,
      clientSystem.Along (fun pool turn _ => TurnSpares instId pool turn) pool after →
      clientSystem.run (latchedPool instId reason pool) after =
        (clientSystem.run pool after).map (latchedPool instId reason)) ∧
    (∀ k next, System.waiting pool k =
        some (.inl (.ensureFreshInstrumentHintMatchesSnapshot instId)) →
      pool.shared.Contradicted instId → clientSystem.step pool (.segment k) = some next →
        ∃ reason, next.shared.LatchedFor instId reason) ∧
    (∀ k row next hint,
      System.waiting pool k = some (.inl (.ensureFreshInstrumentHintMatchesRestSnapshot row)) →
      pool.shared.freshInstrument row.instId = some hint → Alarming hint (some row) →
      clientSystem.step pool (.segment k) = some next →
        ∃ reason, next.shared.LatchedFor row.instId reason) ∧
    (∀ after last, pool.shared.Blocked instId →
      clientSystem.Along (fun _ _ next => next.shared.Blocked instId) pool after →
      clientSystem.run pool after = some last →
        ∀ k call rest, pool.jobs.length ≤ k → last.jobs[k]? = some ⟨call, rest⟩ →
          call.Checked instId → Refused rest) := by
  refine ⟨?_, ?_, ?_, ?_, ?_⟩
  · intro reason after last hlatched hrun
    exact blocked_calls (C := fun _ _ _ => True) (I := fun s => s.LatchedFor instId reason)
      (fun _ _ _ _ hstep h => step_keeps_latch hstep h) (fun _ h => guarded_refuses h) hrun
      System.along_trivial hlatched
  · intro reason after halong
    exact run_latching hpool halong
  · intro k next hwaiting hcontradicted hstep
    rw [segment_shared hstep hwaiting]
    exact ((ensureFreshInstrumentHintMatchesSnapshot_outcome instId pool.shared).blocks
      (.inl hcontradicted)).2
  · intro k row next hint hwaiting hfresh halarming hstep
    rw [segment_shared hstep hwaiting]
    exact ((ensureFreshInstrumentHintMatchesRestSnapshot_outcome row pool.shared).blocks
      (.inl ⟨hint, hfresh, halarming⟩)).2
  · intro after last hblocked halong hrun
    exact (blocked_calls (I := fun s => s.Blocked instId) (fun _ _ _ hnext _ _ => hnext)
      (fun _ h => checked_refuses (checkFails_of_blocked fun _ hs => hs) h) hrun halong hblocked).2

end Runs

/-! ## A run -/

def sampleInstId : Text := "BTC-USDT".toList

def sampleRow : OkxInstrument where
  instType := spotText
  instId := sampleInstId
  groupId := ['1']
  instIdCode := some 7
  state := liveText
  baseCcy := "BTC".toList
  quoteCcy := "USDT".toList
  tradeQuoteCurrencies := ["USDT".toList]
  tickSz := .value 1
  lotSz := .value 1
  minSz := .value 1
  maxLmtSz := .value 100
  maxLmtAmt := .empty
  maxMktSz := .value 100
  maxMktAmt := .empty
  maxTriggerSz := .value 100
  initPxLmtPct := .empty
  floatPxLmtPct := .value 1
  maxPxLmtPct := .value 1

/-- A message with this tick, which is not the one of the row. -/
def sampleUpdate (switchTime : TimestampText) : OkxWebsocketInstrumentUpdate where
  instType := spotText
  instId := sampleInstId
  groupId := ['1']
  state := liveText
  tickSize := ⟨.value 2, true⟩
  lotSize := ⟨.value 1, true⟩
  minSize := ⟨.value 1, true⟩
  maxLimitSize := ⟨.empty, false⟩
  maxLimitAmount := ⟨.empty, false⟩
  maxMarketSize := ⟨.empty, false⟩
  maxMarketAmount := ⟨.empty, false⟩
  maxTriggerSize := ⟨.empty, false⟩
  continuousTradingSwitchTime := switchTime
  upcomingChanges := []

/-- The hints in the order they are stored in. -/
def sampleWalk : InstrumentHintWalk := ⟨fun hints => hints.entries.entries, fun _ => .refl _⟩

def sampleMessage (switchTime : TimestampText) : ClientTurn :=
  .outside (.publicInstruments (fun _ => sampleWalk)
    ⟨some spotText, some [sampleUpdate switchTime], 0⟩)

def sampleRequested : RequestedTradingInstrument := ⟨sampleInstId, .spot, .cash⟩

def sampleConfig : OkxAccountConfig := ⟨['1'], "trade".toList, false, false, false, ['0']⟩

def sampleTicker : OkxTickerRow where
  instType := spotText
  instId := sampleInstId
  bidPx := .value 9
  askPx := .value 11
  last := .value 10

def sampleBalance (ccy : Text) (balance : Decimal) : OkxBalanceDetailRow where
  ccy := ccy
  cashBalance := .value balance
  availableBalance := .value balance
  frozenBalance := .value 0

/-- An exchange with one instrument, that accepts whatever it is sent and finds no orders. -/
def exchangeWith (row : OkxInstrument) : (q : ClientRequest) → q.Reply
  | .inl _ => .error "not asked from outside"
  | .inr query =>
      match query with
      | .reserve _ _ => .ok ()
      | .sleep _ => .ok ()
      | .serverTimeMs => .ok (some 1)
      | .refreshServerTimeIfExpiring => .ok ()
      | .privateRequestTiming => .ok 1
      | .freshTicker _ _ => .ok (some sampleTicker)
      | .publicInstruments _ _ => .ok [row]
      | .accountInstruments _ _ => .ok [row]
      | .marketTicker _ => .ok []
      | .indexTickers _ => .ok []
      | .priceLimit _ => .ok []
      | .accountConfig => .ok [sampleConfig]
      | .accountBalance =>
          .ok [⟨[sampleBalance "BTC".toList 0, sampleBalance "USDT".toList 1000]⟩]
      | .maxSize _ _ _ _ => .ok [⟨sampleInstId, [], .value 100, .value 0⟩]
      | .maxAvailSize _ _ _ => .ok [⟨sampleInstId, .value 1000, .value 0⟩]
      | .tradeFee _ _ => .ok [⟨spotText, [⟨row.groupId, .value 0, .value 0⟩]⟩]
      | .order _ _ => .ok []
      | .orderAlgoByClientOrderId _ => .ok []
      | .openAlgoOrders _ => .ok []
      | .algoOrderHistoryById _ _ => .ok none
      | .placeOrder body => .ok [⟨['9'], body.clientOrderId, ['0']⟩]
      | .amendOrder body => .ok [⟨['9'], body.clientOrderId, ['0']⟩]
      | .orderAlgo body => .ok [⟨['9'], body.clientOrderId, ['0']⟩]
      | .cancelOrder _ clientOrderId => .ok [⟨['9'], clientOrderId, ['0']⟩]
      | .cancelAlgos _ algoId => .ok [⟨algoId, [], ['0']⟩]

def sampleExchange : (q : ClientRequest) → q.Reply := exchangeWith sampleRow

/-- The account is read and the instrument validated. -/
def sampleStartup : List (ClientPool → List ClientTurn) :=
  [fun _ => [.start .accountConfig], clientSystem.turnsOf sampleExchange 0 9,
    fun _ => [.start (.validateTradingInstrument sampleRequested sampleConfig)],
    clientSystem.turnsOf sampleExchange 1 40]

def sampleStart : ClientPool := ⟨.new 0 1000 [sampleInstId], []⟩

/-- The row of the instrument is looked up, a contradicting message arrives, and a ticker lookup
finds it. -/
def latchingRun : List ClientTurn :=
  [.start (.instruments spotText sampleInstId), .segment 0, .segment 0,
    .answer 0 ⟨.inr (.publicInstruments spotText sampleInstId), .ok [sampleRow]⟩,
    .segment 0, .segment 0, sampleMessage (.value 5),
    .start (.ticker sampleInstId), .segment 1]

theorem metadata_latch_contradiction : ∃ pool next : ClientPool,
    clientSystem.run sampleStart latchingRun = some pool ∧
      clientSystem.step pool (.segment 1) = some next ∧
      ∃ reason, next.shared.LatchedFor sampleInstId reason ∧
        ∀ after last, clientSystem.run next after = some last →
          last.shared.LatchedFor sampleInstId reason := by
  obtain ⟨pool, hpool⟩ : ∃ pool : ClientPool,
    clientSystem.run sampleStart latchingRun = some pool := ⟨_, rfl⟩
  have hfacts : ∀ found, clientSystem.run sampleStart latchingRun =
      some found → System.waiting found 1 =
        some (.inl (.ensureFreshInstrumentHintMatchesSnapshot sampleInstId)) ∧
      found.shared.freshInstrument sampleInstId = some (sampleUpdate (.value 5)) ∧
      found.shared.instrumentSnapshots sampleInstId = some sampleRow ∧
      (clientSystem.step found (.segment 1)).isSome = true := by
    rintro _ ⟨⟩
    exact ⟨rfl, rfl, rfl, rfl⟩
  obtain ⟨hwaiting, hfresh, hsnapshot, hstep⟩ := hfacts pool hpool
  obtain ⟨next, hnext⟩ := Option.isSome_iff_exists.1 hstep
  have hcontradicts : Contradicts (sampleUpdate (.value 5)) sampleRow := by decide
  obtain ⟨reason, hreason⟩ := (metadata_latch hpool).2.2.1 1 next hwaiting
    ⟨_, hfresh, .inr ⟨_, hsnapshot, hcontradicts⟩⟩ hnext
  refine ⟨pool, next, hpool, hnext, reason, hreason, ?_⟩
  intro after last hrun
  exact ((metadata_latch (System.run_snoc hpool hnext)).1 reason after last hreason hrun).1

end OkxTrading
