import Mathlib.Data.List.DropRight
import OkxTrading.Properties.Level2Continuity

/-!
# Rolling features and recent history

The window of a valid book holds the feature events since its last snapshot, the last 32 of them;
with the current one, the rolling features are those of the last 33.

* `sinceSnapshot` — the feature events of a run since its last snapshot.
* `persistenceOver`, `volatilityOver`, `velocityOver` — the rolling features of some events.
* `Windowed` — what the window of a book is; `windowed_answer` — every call keeps it.
* `rolling_recent` — **rolling features are those of the recent events**.
-/

namespace OkxTrading.OkxLevel2Book

open Effect

variable {ops : DecimalOps} {book next book' : OkxLevel2Book} {update : OkxLevel2Update}
  {bookAppliedAt featuresReadyAt : Instant} {features : OkxLevel2FeatureSnapshot}
  {run : List Entry} {entry : Entry} {call : Call} {reply : Option ApplyResult}
  {history window points : List RollingFeaturePoint} {point : RollingFeaturePoint}

/-! ## Recent history -/

/-- Mid, L10 imbalance and time of features. -/
def pointOf (features : OkxLevel2FeatureSnapshot) : RollingFeaturePoint :=
  ⟨features.mid, features.imbalanceL10, features.receivedAt⟩

/-- A snapshot with features begins the history again, an update with features goes on with it;
heartbeats, refused messages and invalidations are no part of it. -/
def historyAfter (history : List RollingFeaturePoint) : Entry → List RollingFeaturePoint
  | (.apply update _ _, some (.ok (.features features))) =>
      if update.action = .snapshot then [pointOf features] else history ++ [pointOf features]
  | _ => history

/-- The feature events since the last snapshot. -/
def sinceSnapshot (run : List Entry) : List RollingFeaturePoint := run.foldl historyAfter []

theorem sinceSnapshot_concat (run : List Entry) (entry : Entry) :
    sinceSnapshot (run ++ [entry]) = historyAfter (sinceSnapshot run) entry := by
  rw [sinceSnapshot, List.foldl_concat]
  rfl

/-- The last 33 events, or all where there are fewer. -/
def recent (history : List RollingFeaturePoint) : List RollingFeaturePoint :=
  history.rtake (featureRollingWindow + 1)

/-! ## Features of events -/

/-- The events whose L10 imbalance has a sign. -/
def signed (window : List RollingFeaturePoint) : List RollingFeaturePoint :=
  window.filter fun point => decide (decimalSign point.imbalanceL10 ≠ 0)

/-- Those of them that have the sign of the current one. -/
def matching (window : List RollingFeaturePoint) (current : RollingFeaturePoint) :
    List RollingFeaturePoint :=
  (signed window).filter fun point =>
    decide (decimalSign point.imbalanceL10 = decimalSign current.imbalanceL10)

/-- The share of the signed L10 imbalances that have the sign of the current one. -/
def persistenceOver (ops : DecimalOps) (window : List RollingFeaturePoint)
    (current : RollingFeaturePoint) : Option Decimal :=
  if (signed window).length = 0 then some 0
  else ops.div ((matching window current).length : ℚ) ((signed window).length : ℚ)

/-- A total with the absolute return of a pair of events. -/
def addReturn (ops : DecimalOps) (total : Decimal)
    (pair : RollingFeaturePoint × RollingFeaturePoint) : Option Decimal := do
  let move ← absoluteReturnBps ops pair.1.mid pair.2.mid
  ops.add total move

/-- The mean absolute return over the consecutive pairs. -/
def volatilityOver (ops : DecimalOps) (window : List RollingFeaturePoint) : Option Decimal := do
  let total ← (window.zip window.tail).foldlM (addReturn ops) 0
  if (window.zip window.tail).length = 0 then return 0
  else ops.div total ((window.zip window.tail).length : ℚ)

/-- The change per second since the preceding event. -/
def velocityOver (ops : DecimalOps) (previous : Option RollingFeaturePoint)
    (current : RollingFeaturePoint) : Option Decimal :=
  velocity ops previous.toList current.imbalanceL10 current.receivedAt

/-- The signed imbalances of the window and of the new event are those of both together. -/
theorem persistence_eq :
    persistence ops points point.imbalanceL10 = persistenceOver ops (points ++ [point]) point := by
  unfold persistence persistenceOver matching signed
  have hsigned : ((points.map fun point => decimalSign point.imbalanceL10).filter
      (· ≠ 0)).length = (points.filter fun point =>
        decide (decimalSign point.imbalanceL10 ≠ 0)).length := by
    rw [List.filter_map, List.length_map]
    rfl
  have hmatching : (((points.map fun point => decimalSign point.imbalanceL10).filter
      (· ≠ 0)).filter (· = decimalSign point.imbalanceL10)).length =
      ((points.filter fun point => decide (decimalSign point.imbalanceL10 ≠ 0)).filter fun other =>
        decide (decimalSign other.imbalanceL10 = decimalSign point.imbalanceL10)).length := by
    rw [List.filter_map, List.filter_map, List.length_map]
    rfl
  simp only [List.filter_append, List.length_append, hsigned, hmatching]
  by_cases hzero : decimalSign point.imbalanceL10 = 0 <;> simp [hzero]

/-- The loop adds up the returns of the pairs. -/
theorem volatilitySum_eq (first : RollingFeaturePoint) (rest : List RollingFeaturePoint)
    (total : Decimal) (count : ℕ) :
    volatilitySum ops ((first :: rest).map (·.mid)) (total, count) =
      (((first :: rest).zip rest).foldlM (addReturn ops) total).map
        fun total => (total, count + rest.length) := by
  induction rest generalizing first total count with
  | nil => simp [volatilitySum]
  | cons second rest ih =>
      simp only [List.map_cons, volatilitySum, List.zip_cons_cons, List.foldlM_cons, addReturn]
      cases absoluteReturnBps ops first.mid second.mid with
      | none => rfl
      | some move =>
          cases hadd : ops.add total move with
          | none => simp [hadd]
          | some next =>
              have h := ih second next (count + 1)
              rw [List.map_cons] at h
              simp only [Option.bind_eq_bind, Option.bind_some, hadd, h, List.length_cons]
              rw [Nat.add_right_comm, Nat.add_assoc count]

theorem volatility_eq :
    volatility ops points point.mid = volatilityOver ops (points ++ [point]) := by
  have hmids : points.map (·.mid) ++ [point.mid] = (points ++ [point]).map (·.mid) := by simp
  unfold volatility volatilityOver
  rw [hmids]
  obtain ⟨first, rest, hsplit⟩ := List.exists_cons_of_ne_nil
    (List.append_ne_nil_of_right_ne_nil points (List.cons_ne_nil point []))
  rw [hsplit, volatilitySum_eq, List.tail_cons]
  have hlength : ((first :: rest).zip rest).length = rest.length := by simp
  rw [hlength]
  cases ((first :: rest).zip rest).foldlM (addReturn ops) 0 with
  | none => rfl
  | some total => simp

theorem velocity_eq :
    velocity ops points point.imbalanceL10 point.receivedAt =
      velocityOver ops points.getLast? point := by
  unfold velocityOver velocity
  cases points.getLast? <;> rfl

/-! ## The window -/

/-- A full window loses its oldest point. -/
theorem pushPoint_rtake : pushPoint (history.rtake featureRollingWindow) point =
    (history ++ [point]).rtake featureRollingWindow := by
  have hpush : (history ++ [point]).rtake featureRollingWindow =
      history.rtake (featureRollingWindow - 1) ++ [point] := List.rtake_concat_succ _ _ point
  rw [hpush, pushPoint]
  congr 1
  have hwindow : featureRollingWindow = 32 := rfl
  by_cases hfull : (history.rtake featureRollingWindow).length = featureRollingWindow
  · rw [if_pos hfull]
    rw [List.rtake, List.length_drop] at hfull
    rw [List.rtake, List.rtake, List.tail_drop]
    congr 1
    omega
  · rw [if_neg hfull]
    rw [List.rtake, List.length_drop] at hfull
    rw [List.rtake, List.rtake]
    congr 1
    omega

/-- The last event is in the window. -/
theorem getLast?_rtake : (history.rtake featureRollingWindow).getLast? = history.getLast? := by
  have hwindow : featureRollingWindow = 32 := rfl
  rw [List.rtake, List.getLast?_drop]
  by_cases hnil : history = []
  · rw [hnil]
    rfl
  · have hpos := List.length_pos_iff.2 hnil
    rw [if_neg (by omega)]

/-- A valid book has the last events in its window. -/
def Windowed (run : List Entry) (book : OkxLevel2Book) : Prop :=
  book.valid = true → book.rolling = (sinceSnapshot run).rtake featureRollingWindow

/-- The current event and the window before it are the recent events. -/
theorem recent_concat : recent (history ++ [point]) =
    history.rtake featureRollingWindow ++ [point] := List.rtake_concat_succ _ _ point

/-- What the rolling features of an event are, by the events since the last snapshot; the event is
the last of them. -/
structure RecentOnly (ops : DecimalOps) (history : List RollingFeaturePoint)
    (features : OkxLevel2FeatureSnapshot) : Prop where
  current : history.getLast? = some (pointOf features)
  persistence : persistenceOver ops (recent history) (pointOf features) =
    some features.imbalancePersistence
  volatility : volatilityOver ops (recent history) = some features.shortHorizonBookVolatilityBps
  velocity : velocityOver ops history.dropLast.getLast? (pointOf features) =
    some features.imbalanceVelocityPerSecond

/-- The absolute return of a pair of events, in basis points. -/
def returnBps (pair : RollingFeaturePoint × RollingFeaturePoint) : Decimal :=
  if pair.1.mid ≤ 0 then 0 else |pair.2.mid - pair.1.mid| / pair.1.mid * 10000

/-- The change of the imbalance per second since the event before, with the time between them in
microseconds; zero for a first event and within one microsecond. -/
def changePerSecond : Option RollingFeaturePoint → RollingFeaturePoint → Decimal
  | none, _ => 0
  | some previous, current =>
      (current.imbalanceL10 - previous.imbalanceL10) * 1000000 /
        (min ((current.receivedAt - previous.receivedAt) / 1000) (2 ^ 64 - 1) : ℕ)

/-- What they are without rounding: a change per second, a share and a mean, zero where there is
nothing to share. -/
structure ExactlyRecent (history : List RollingFeaturePoint) (features : OkxLevel2FeatureSnapshot) :
    Prop where
  velocity : features.imbalanceVelocityPerSecond =
    changePerSecond history.dropLast.getLast? (pointOf features)
  persistence : features.imbalancePersistence =
    (matching (recent history) (pointOf features)).length / (signed (recent history)).length
  volatility : features.shortHorizonBookVolatilityBps =
    (((recent history).zip (recent history).tail).map returnBps).sum /
      ((recent history).zip (recent history).tail).length

theorem addReturn_exact (total : Decimal)
    (pair : RollingFeaturePoint × RollingFeaturePoint) :
    addReturn .exact total pair = some (total + returnBps pair) := by
  unfold addReturn absoluteReturnBps returnBps
  by_cases hzero : pair.1.mid ≤ 0
  · simp [hzero, DecimalOps.exact]
  · have hne : pair.1.mid ≠ 0 := fun h => hzero h.le
    simp [hzero, hne, DecimalOps.exact, basisPointsPerUnit]

theorem foldlM_addReturn_exact (pairs : List (RollingFeaturePoint × RollingFeaturePoint))
    (total : Decimal) :
    pairs.foldlM (addReturn .exact) total = some (total + (pairs.map returnBps).sum) := by
  induction pairs generalizing total with
  | nil => simp
  | cons pair rest ih =>
      rw [List.foldlM_cons, addReturn_exact]
      show rest.foldlM _ _ = _
      rw [ih, List.map_cons, List.sum_cons, add_assoc]

theorem velocityOver_exact (previous : Option RollingFeaturePoint)
    (current : RollingFeaturePoint) :
    velocityOver .exact previous current = some (changePerSecond previous current) := by
  cases previous with
  | none => rfl
  | some previous =>
      unfold velocityOver velocity changePerSecond
      simp only [Option.toList_some, List.getLast?_singleton]
      generalize min ((current.receivedAt - previous.receivedAt) / 1000) (2 ^ 64 - 1) = elapsed
      by_cases hzero : elapsed = 0
      · rw [if_pos hzero, hzero, Nat.cast_zero, div_zero]
      · have hne : (elapsed : ℚ) ≠ 0 := Nat.cast_ne_zero.2 hzero
        rw [if_neg hzero]
        exact DecimalOps.exact_div hne

theorem RecentOnly.exactly (h : RecentOnly .exact history features) :
    ExactlyRecent history features where
  velocity := by
    have hvalue := h.velocity
    rw [velocityOver_exact] at hvalue
    exact (Option.some.inj hvalue).symm
  persistence := by
    have hvalue := h.persistence
    unfold persistenceOver at hvalue
    by_cases hzero : (signed (recent history)).length = 0
    · rw [if_pos hzero] at hvalue
      rw [hzero, Nat.cast_zero, div_zero]
      exact (Option.some.inj hvalue).symm
    · have hne : ((signed (recent history)).length : ℚ) ≠ 0 := Nat.cast_ne_zero.2 hzero
      rw [if_neg hzero, DecimalOps.exact_div hne] at hvalue
      exact (Option.some.inj hvalue).symm
  volatility := by
    have hvalue := h.volatility
    unfold volatilityOver at hvalue
    rw [foldlM_addReturn_exact, zero_add] at hvalue
    simp only [Option.bind_eq_bind, Option.bind_some] at hvalue
    by_cases hzero : ((recent history).zip (recent history).tail).length = 0
    · rw [if_pos hzero] at hvalue
      rw [hzero, Nat.cast_zero, div_zero]
      exact (Option.some.inj hvalue).symm
    · have hne : (((recent history).zip (recent history).tail).length : ℚ) ≠ 0 :=
        Nat.cast_ne_zero.2 hzero
      rw [if_neg hzero, DecimalOps.exact_div hne] at hvalue
      exact (Option.some.inj hvalue).symm

/-- One calculation, on a book that has the last events in its window. -/
theorem calculateFeatures_recent {rolling : List RollingFeaturePoint}
    (hrolling : next.rolling = history.rtake featureRollingWindow)
    (h : next.calculateFeatures ops update bookAppliedAt featuresReadyAt =
      some (.ok (features, rolling))) :
    RecentOnly ops (history ++ [pointOf features]) features ∧
      rolling = (history ++ [pointOf features]).rtake featureRollingWindow := by
  obtain ⟨-, -, hvalues⟩ := calculateFeatures_parts h
  simp only [rollingFeatures, Option.bind_eq_bind, Option.bind_eq_some_iff] at hvalues
  obtain ⟨v, hv, p, hp, m, hm, hvalues⟩ := hvalues
  cases hvalues
  rw [hrolling] at hv hp hm
  refine ⟨⟨List.getLast?_concat, ?_, ?_, ?_⟩, ?_⟩
  · rw [recent_concat]
    exact persistence_eq.symm.trans hp
  · rw [recent_concat]
    exact volatility_eq.symm.trans hm
  · rw [List.dropLast_concat, ← getLast?_rtake]
    exact velocity_eq.symm.trans hv
  · rw [hrolling]
    exact pushPoint_rtake

/-! ## Runs -/

/-- A call without features leaves the history alone. -/
theorem Windowed.same (h : Windowed run book)
    (hentry : historyAfter (sinceSnapshot run) entry = sinceSnapshot run) :
    Windowed (run ++ [entry]) book := by
  intro hvalid
  rw [sinceSnapshot_concat, hentry]
  exact h hvalid

theorem windowed_invalidate (run : List Entry) (book : OkxLevel2Book) :
    Windowed run book.invalidate := fun hvalid => by cases hvalid

/-- Every call keeps the window, and its features, if it has some, are those of recent events. -/
theorem windowed_answer (h : Windowed run book)
    (hanswer : book.answer ops call = some (reply, book')) :
    Windowed (run ++ [(call, reply)]) book' ∧ ∀ features, reply = some (.ok (.features features)) →
      RecentOnly ops (sinceSnapshot (run ++ [(call, reply)])) features := by
  cases call with
  | invalidate =>
      cases hanswer
      exact ⟨windowed_invalidate _ book, fun features hreply => by cases hreply⟩
  | apply update bookAppliedAt featuresReadyAt =>
      obtain ⟨result, rfl, happly⟩ := answer_apply hanswer
      cases apply_cases happly with
      | mismatch => exact ⟨h.same rfl, fun features hreply => by cases hreply⟩
      | early => exact ⟨h.same rfl, fun features hreply => by cases hreply⟩
      | heartbeat => exact ⟨h.same rfl, fun features hreply => by cases hreply⟩
      | rejected => exact ⟨windowed_invalidate _ _, fun features hreply => by cases hreply⟩
      | uncalculated => exact ⟨windowed_invalidate _ _, fun features hreply => by cases hreply⟩
      | snapshot next features rolling haction hnext hfeatures =>
          obtain ⟨-, -, -, hbook⟩ := snapshotBook_of_ok hnext
          have hempty : next.rolling = List.rtake [] featureRollingWindow := by
            rw [hbook, List.rtake_nil]
          obtain ⟨hrecent, hrolling⟩ := calculateFeatures_recent hempty hfeatures
          rw [Windowed, sinceSnapshot_concat, historyAfter, if_pos haction]
          refine ⟨fun _ => hrolling, fun features' hreply => ?_⟩
          cases hreply
          exact hrecent
      | increment current next features rolling haction hvalid hsequence hnext hfeatures =>
          obtain ⟨-, -, -, -, -, hbook⟩ := incrementBook_eq_ok.1 hnext
          have hbefore : next.rolling = (sinceSnapshot run).rtake featureRollingWindow := by
            rw [hbook]
            exact h hvalid
          obtain ⟨hrecent, hrolling⟩ := calculateFeatures_recent hbefore hfeatures
          have hupdate : update.action ≠ .snapshot := by
            rw [haction]
            decide
          rw [Windowed, sinceSnapshot_concat, historyAfter, if_neg hupdate]
          refine ⟨fun _ => hrolling, fun features' hreply => ?_⟩
          cases hreply
          exact hrecent

theorem windowed_trace {calls : List Call} {instrumentId : OkxSpotInstrumentId}
    (hrun : trace (answer ops) (new instrumentId) calls = some (run, book)) :
    Windowed run book := by
  refine trace_induction (P := Windowed) (fun hvalid => by cases hvalid) ?_ hrun
  intro run book call reply book' _ h hanswer
  exact (windowed_answer h hanswer).1

/-- **Rolling features are those of the recent events**: whatever a book was called with before,
persistence and volatility are those of the last 33 feature events since its last snapshot, and the
velocity is that since the event before, as the operators calculate them; where they do not round,
velocity is exactly the change per second, persistence the share and volatility the mean. -/
theorem rolling_recent (ops : DecimalOps) (instrumentId : OkxSpotInstrumentId) (calls : List Call)
    (run : List Entry) (book : OkxLevel2Book)
    (hrun : trace (answer ops) (new instrumentId) calls = some (run, book)) (call : Call)
    (features : OkxLevel2FeatureSnapshot) (book' : OkxLevel2Book)
    (hanswer : book.answer ops call = some (some (.ok (.features features)), book')) :
    RecentOnly ops (sinceSnapshot (run ++ [(call, some (.ok (.features features)))])) features ∧
      (ops = .exact → ExactlyRecent
        (sinceSnapshot (run ++ [(call, some (.ok (.features features)))])) features) := by
  have hrecent := (windowed_answer (windowed_trace hrun) hanswer).2 features rfl
  refine ⟨hrecent, fun hops => ?_⟩
  subst hops
  exact hrecent.exactly

/-- The features a call answered with. -/
def emitted : Option ApplyResult → Option OkxLevel2FeatureSnapshot
  | some (.ok (.features features)) => some features
  | _ => none

theorem emitted_eq_some (h : emitted reply = some features) :
    reply = some (.ok (.features features)) := by
  unfold emitted at h
  split at h
  · cases h
    rfl
  · cases h

/-- The update of the book of one level a side: the persistence of its two events. -/
theorem rolling_recent_demo : ∃ run features,
    trace (answer .exact) (new []) [.apply demoSnapshot 0 0] = some run ∧
      features.imbalancePersistence = 1 / 2 ∧ RecentOnly .exact (sinceSnapshot (run.1 ++
        [(.apply demoUpdate 0 0, some (.ok (.features features)))])) features := by
  have hruns : ((trace (answer .exact) (new []) [.apply demoSnapshot 0 0]).bind fun run =>
      (run.2.answer .exact (.apply demoUpdate 0 0)).bind fun reply =>
        (emitted reply.1).map (·.imbalancePersistence)) = some (1 / 2) := by
    decide +kernel
  obtain ⟨⟨run, book⟩, hrun, hanswers⟩ := Option.bind_eq_some_iff.1 hruns
  obtain ⟨⟨reply, book'⟩, hanswer, hemitted⟩ := Option.bind_eq_some_iff.1 hanswers
  obtain ⟨features, hfeatures, hpersistence⟩ := Option.map_eq_some_iff.1 hemitted
  cases emitted_eq_some hfeatures
  exact ⟨(run, book), features, hrun, hpersistence,
    (rolling_recent .exact [] _ run book hrun _ features book' hanswer).1⟩

end OkxTrading.OkxLevel2Book
