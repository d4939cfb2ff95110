import OkxTrading.Collections.OldestEviction
import OkxTrading.Market.BooksParser
import OkxTrading.Properties.PrivateAtomicity

/-!
# The private event cache over any run

Messages arrive on the private streams, are refused, fail in the middle or are applied, and the
cache keeps at most so many hints of each kind.  Whatever arrives, the cache holds of every key the
last row it accepted; and it loses rows only by age.

* `HintKind` — the tables of the cache, and what an accepted row does to each.
* `runPrivate` — messages one after another: the rows accepted, and the cache.
* `runPrivate_induction` — what every accepted row keeps holds after every run.
* `privateCache_sound` — bounds, last rows, checks and order in time.
* `privateCache_newest` — with a clock that does not go back the newest rows are the ones kept.
-/

namespace OkxTrading

open Collections Effect

/-! ## Kinds of hints -/

namespace OkxPrivateEventHint

def receivedAt : OkxPrivateEventHint → Instant
  | .order hint => hint.receivedAt
  | .fill hint => hint.receivedAt
  | .algoOrder hint => hint.receivedAt
  | .account hint => hint.receivedAt

def order? : OkxPrivateEventHint → Option OkxPrivateOrderHint
  | .order hint => some hint
  | _ => none

def fill? : OkxPrivateEventHint → Option OkxPrivateFillHint
  | .fill hint => some hint
  | _ => none

def algoOrder? : OkxPrivateEventHint → Option OkxPrivateAlgoOrderHint
  | .algoOrder hint => some hint
  | _ => none

def account? : OkxPrivateEventHint → Option OkxPrivateAccountHint
  | .account hint => some hint
  | _ => none

end OkxPrivateEventHint

section Evict

variable {Key Row : Type} [DecidableEq Key]

/-- The walk of a table of hints. -/
def PrivateHintWalk.tableWalk (walk : PrivateHintWalk Key Row) :
    TableWalk Key (OkxPrivateHint Row) :=
  ⟨walk.walk, walk.perm⟩

theorem evictPrivateRounds_eq (walk : PrivateHintWalk Key Row) (rounds : ℕ)
    (hints : PrivateHints Key Row) : evictPrivateRounds walk rounds hints =
      evictOldestRounds okxPrivateEventCacheMaxHintsPerKind (·.receivedAt) walk.tableWalk rounds
        hints := by
  induction rounds generalizing hints with
  | zero => rfl
  | succ rounds ih =>
    have hwalk : walk.tableWalk.walk hints = walk.walk hints := rfl
    simp only [evictPrivateRounds, evictOldestRounds, ih, hwalk]
    cases (walk.walk hints).argmin fun entry => entry.2.receivedAt with
    | none => rfl
    | some oldest => rfl

theorem evictOldestPrivateHints_eq (walk : PrivateHintWalk Key Row) (hints : PrivateHints Key Row) :
    evictOldestPrivateHints walk hints =
      evictOldest okxPrivateEventCacheMaxHintsPerKind (·.receivedAt) walk.tableWalk hints :=
  evictPrivateRounds_eq walk _ hints

end Evict

/-- One table of the cache: its rows among all rows, their keys, and where they are. -/
structure HintKind (Key Row : Type) [DecidableEq Key] where
  hint? : OkxPrivateEventHint → Option (OkxPrivateHint Row)
  key : OkxPrivateHint Row → Key
  table : OkxPrivateEventState → PrivateHints Key Row
  empty : table .default = ∅
  /-- A row the cache accepts is newer than the one it replaces. -/
  accepted : ∀ event walks cache cache' hint, event.update walks cache = (.ok true, cache') →
    hint? event = some hint →
      shouldIgnoreHint ((table cache).currentTsMs (key hint)) hint.sourceTsMs = false ∧
        ∃ walk, table cache' = evictOldest okxPrivateEventCacheMaxHintsPerKind (·.receivedAt) walk
          ((table cache).insert (key hint) hint)
  /-- A row of another kind changes nothing. -/
  other : ∀ event walks cache cache', event.update walks cache = (.ok true, cache') →
    hint? event = none → table cache' = table cache
  receivedAt : ∀ event hint, hint? event = some hint → hint.receivedAt = event.receivedAt

/-- What an update that accepted its row did. -/
theorem updateHint_accepted {checked : Result Unit} {currentTsMs incomingTsMs : Option ℤ}
    {cache inserted cache' : OkxPrivateEventState}
    (h : updateHint checked currentTsMs incomingTsMs cache inserted = (.ok true, cache')) :
    shouldIgnoreHint currentTsMs incomingTsMs = false ∧ cache' = inserted := by
  rcases updateHint_cases checked currentTsMs incomingTsMs cache inserted with
    ⟨e, -, heq⟩ | ⟨-, -, heq⟩ | ⟨-, hfresh, heq⟩ <;> rw [heq, Prod.mk.injEq] at h
  · cases h.1
  · cases h.1
  · exact ⟨hfresh, h.2.symm⟩

theorem updateAccount_accepted {cache cache' : OkxPrivateEventState} {hint : OkxPrivateAccountHint}
    (h : cache.updateAccount hint = (.ok true, cache')) :
    shouldIgnoreHint (cache.account.bind (·.sourceTsMs)) hint.sourceTsMs = false ∧
      cache' = { cache with account := some hint } := by
  unfold OkxPrivateEventState.updateAccount at h
  split at h
  · cases (Prod.mk.injEq .. ▸ h).1
  · exact updateHint_accepted h

/-- An accepted row of another kind leaves a part of the cache as it is. -/
theorem update_other {α : Type} (part : OkxPrivateEventState → α) {event : OkxPrivateEventHint}
    {walks : PrivateWalks} {cache cache' : OkxPrivateEventState}
    (h : event.update walks cache = (.ok true, cache'))
    (horder : ∀ orders, event.order?.isSome →
      part { cache with ordersByClientId := orders } = part cache)
    (hfill : ∀ fills, event.fill?.isSome →
      part { cache with fillsByDedupeKey := fills } = part cache)
    (halgo : ∀ algoOrders, event.algoOrder?.isSome →
      part { cache with algoOrdersById := algoOrders } = part cache)
    (haccount : ∀ account, event.account?.isSome → part { cache with account } = part cache) :
    part cache' = part cache := by
  cases event with
  | order hint => rw [(updateHint_accepted h).2]; exact horder _ rfl
  | fill hint => rw [(updateHint_accepted h).2]; exact hfill _ rfl
  | algoOrder hint => rw [(updateHint_accepted h).2]; exact halgo _ rfl
  | account hint => rw [(updateAccount_accepted h).2]; exact haccount _ rfl

/-- The orders: keyed by instrument and client order id. -/
def orderKind : HintKind (Text × Text) OkxPrivateOrder where
  hint? := OkxPrivateEventHint.order?
  key hint := (hint.row.instId, hint.row.clientOrderId)
  table := (·.ordersByClientId)
  empty := rfl
  accepted := by
    rintro (_ | _ | _ | _) walks cache cache' hint h ⟨⟩
    obtain ⟨hfresh, rfl⟩ := updateHint_accepted h
    exact ⟨hfresh, _, evictOldestPrivateHints_eq _ _⟩
  other event walks cache cache' h hnone :=
    update_other (·.ordersByClientId) h (fun _ hsome => by simp [hnone] at hsome)
      (fun _ _ => rfl) (fun _ _ => rfl) fun _ _ => rfl
  receivedAt := by rintro (_ | _ | _ | _) hint ⟨⟩; rfl

/-- The fills: keyed by their deduplication key. -/
def fillKind : HintKind Text OkxPrivateFill where
  hint? := OkxPrivateEventHint.fill?
  key hint := hint.row.dedupeKey
  table := (·.fillsByDedupeKey)
  empty := rfl
  accepted := by
    rintro (_ | _ | _ | _) walks cache cache' hint h ⟨⟩
    obtain ⟨hfresh, rfl⟩ := updateHint_accepted h
    exact ⟨hfresh, _, evictOldestPrivateHints_eq _ _⟩
  other event walks cache cache' h hnone :=
    update_other (·.fillsByDedupeKey) h (fun _ _ => rfl)
      (fun _ hsome => by simp [hnone] at hsome) (fun _ _ => rfl) fun _ _ => rfl
  receivedAt := by rintro (_ | _ | _ | _) hint ⟨⟩; rfl

/-- The trigger orders: keyed by instrument and id. -/
def algoOrderKind : HintKind (Text × Text) OkxPrivateAlgoOrder where
  hint? := OkxPrivateEventHint.algoOrder?
  key hint := (hint.row.instId, hint.row.algoId)
  table := (·.algoOrdersById)
  empty := rfl
  accepted := by
    rintro (_ | _ | _ | _) walks cache cache' hint h ⟨⟩
    obtain ⟨hfresh, rfl⟩ := updateHint_accepted h
    exact ⟨hfresh, _, evictOldestPrivateHints_eq _ _⟩
  other event walks cache cache' h hnone :=
    update_other (·.algoOrdersById) h (fun _ _ => rfl) (fun _ _ => rfl)
      (fun _ hsome => by simp [hnone] at hsome) fun _ _ => rfl
  receivedAt := by rintro (_ | _ | _ | _) hint ⟨⟩; rfl

/-! ## Runs -/

/-- A message of a private stream, with what it meets. -/
structure PrivatePush where
  authority : OkxPrivateEventAuthority
  payload : Option OkxWebsocketPrivateMessage
  receivedAt : Instant
  walks : ℕ → PrivateWalks

namespace PrivatePush

variable (push : PrivatePush) (cache : OkxPrivateEventState)

/-- The rows of a push, none where it is refused whole. -/
def rows : List OkxPrivateEventHint := privateRows push.authority push.payload push.receivedAt

/-- The rows the cache accepts. -/
def accepted : List OkxPrivateEventHint := acceptedRows push.walks cache push.rows

/-- The cache after the message, whether it failed or not. -/
def apply : OkxPrivateEventState :=
  (applyPrivateEventMessageInner push.authority push.walks cache push.payload push.receivedAt).2

theorem apply_eq : push.apply cache = (applyPrivateHints push.walks cache push.rows).2 := by
  unfold apply rows privateRows applyPrivateEventMessageInner
  cases parsePrivateEventMessageWithAuthority push.authority push.payload push.receivedAt <;> rfl

end PrivatePush

/-- Messages one after another: the rows the cache accepted, and the cache after them. -/
def runPrivate (cache : OkxPrivateEventState) :
    List PrivatePush → List OkxPrivateEventHint × OkxPrivateEventState
  | [] => ([], cache)
  | push :: rest =>
      let (accepted, after) := runPrivate (push.apply cache) rest
      (push.accepted cache ++ accepted, after)

/-- The last message of a run. -/
theorem runPrivate_concat (cache : OkxPrivateEventState) (pushes : List PrivatePush)
    (push : PrivatePush) :
    runPrivate cache (pushes ++ [push]) =
      ((runPrivate cache pushes).1 ++ push.accepted (runPrivate cache pushes).2,
        push.apply (runPrivate cache pushes).2) := by
  induction pushes generalizing cache with
  | nil => simp [runPrivate]
  | cons first rest ih => simp only [List.cons_append, runPrivate, ih, List.append_assoc]

section Induction

variable {P : List OkxPrivateEventHint → OkxPrivateEventState → Prop}

/-- What every accepted row keeps holds after the rows of a message. -/
theorem acceptedRows_induction {walks : ℕ → PrivateWalks} {cache : OkxPrivateEventState}
    {rows front : List OkxPrivateEventHint} (start : P front cache)
    (next : ∀ accepted cache event walks cache', event ∈ rows → P accepted cache →
      event.checked = .ok () → event.update walks cache = (.ok true, cache') →
        P (accepted ++ [event]) cache') :
    P (front ++ acceptedRows walks cache rows) (applyPrivateHints walks cache rows).2 := by
  induction rows generalizing walks cache front with
  | nil => rwa [acceptedRows, List.append_nil]
  | cons event rest ih =>
    have hrest : ∀ {walks cache front}, P front cache →
        P (front ++ acceptedRows walks cache rest) (applyPrivateHints walks cache rest).2 :=
      fun start => ih start fun accepted cache row walks cache' hrow =>
        next accepted cache row walks cache' (List.mem_cons_of_mem _ hrow)
    rcases event.update_cases (walks 0) cache with ⟨e, -, hupdate⟩ | ⟨-, -, hupdate⟩ |
      ⟨hchecked, -, cache', hupdate⟩
    · simpa only [acceptedRows, applyPrivateHints, hupdate, List.append_nil] using start
    · simpa only [acceptedRows, applyPrivateHints, hupdate, Bool.false_eq_true, if_false,
        List.nil_append] using hrest start
    · have hnext :=
        next front cache event (walks 0) cache' List.mem_cons_self start hchecked hupdate
      simpa only [acceptedRows, applyPrivateHints, hupdate, if_true, ← List.append_assoc]
        using hrest hnext

/-- **What every accepted row keeps holds after every run.** -/
theorem runPrivate_induction (pushes : List PrivatePush) (cache : OkxPrivateEventState)
    (front : List OkxPrivateEventHint) (start : P front cache)
    (next : ∀ accepted cache event walks cache', (∃ push ∈ pushes, event ∈ push.rows) →
      P accepted cache → event.checked = .ok () → event.update walks cache = (.ok true, cache') →
        P (accepted ++ [event]) cache') :
    P (front ++ (runPrivate cache pushes).1) (runPrivate cache pushes).2 := by
  induction pushes generalizing cache front with
  | nil => rwa [runPrivate, List.append_nil]
  | cons push rest ih =>
    have hpush : P (front ++ push.accepted cache) (push.apply cache) := by
      rw [push.apply_eq]
      exact acceptedRows_induction start fun accepted cache event walks cache' hevent =>
        next accepted cache event walks cache' ⟨push, List.mem_cons_self, hevent⟩
    have hrest := ih _ _ hpush fun accepted cache event walks cache' hevent =>
      next accepted cache event walks cache' <| by
        obtain ⟨other, hother, hrow⟩ := hevent
        exact ⟨other, List.mem_cons_of_mem _ hother, hrow⟩
    rwa [List.append_assoc] at hrest

end Induction

/-- A row is received when its message is. -/
theorem receivedAt_of_parseDataArm {authority : OkxPrivateEventAuthority}
    {arg : OkxWebsocketPrivateArg} {data : OkxPrivateData} {receivedAt : Instant}
    {rows : List OkxPrivateEventHint} (h : parseDataArm authority arg data receivedAt = .ok rows)
    {event : OkxPrivateEventHint} (hevent : event ∈ rows) : event.receivedAt = receivedAt := by
  unfold parseDataArm at h
  split_ifs at h
  · obtain ⟨orders, -, h⟩ := bind_eq_ok.1 h
    obtain ⟨order, -, hrow⟩ := mem_of_mapM h event hevent
    obtain ⟨_, -, hrow⟩ := bind_eq_ok.1 hrow
    obtain ⟨ts, -, hrow⟩ := bind_eq_ok.1 hrow
    cases hrow
    rfl
  · obtain ⟨fills, -, h⟩ := bind_eq_ok.1 h
    obtain ⟨fill, -, hrow⟩ := mem_of_mapM h event hevent
    obtain ⟨_, -, hrow⟩ := bind_eq_ok.1 hrow
    obtain ⟨ts, -, hrow⟩ := bind_eq_ok.1 hrow
    cases hrow
    rfl
  · obtain ⟨accounts, -, h⟩ := bind_eq_ok.1 h
    obtain ⟨account, -, hrow⟩ := mem_of_mapM h event hevent
    obtain ⟨ts, -, hrow⟩ := bind_eq_ok.1 hrow
    cases hrow
    rfl
  · obtain ⟨algoOrders, -, h⟩ := bind_eq_ok.1 h
    obtain ⟨algoOrder, -, hrow⟩ := mem_of_mapM h event hevent
    obtain ⟨_, -, hrow⟩ := bind_eq_ok.1 hrow
    obtain ⟨ts, -, hrow⟩ := bind_eq_ok.1 hrow
    cases hrow
    rfl

theorem receivedAt_of_mem_rows {push : PrivatePush} {event : OkxPrivateEventHint}
    (h : event ∈ push.rows) : event.receivedAt = push.receivedAt := by
  unfold PrivatePush.rows privateRows at h
  split at h
  · exact absurd h List.not_mem_nil
  · rename_i rows hparse
    cases hpayload : push.payload with
    | none =>
      rw [hpayload] at hparse
      cases hparse
    | some message =>
      rw [hpayload] at hparse
      simp only [parsePrivateEventMessageWithAuthority, bind_eq_ok] at hparse
      obtain ⟨_, -, hparse⟩ := hparse
      split_ifs at hparse
      · cases hparse
        exact absurd h List.not_mem_nil
      · cases hparse
        exact absurd h List.not_mem_nil
      · split at hparse
        · split at hparse
          · exact receivedAt_of_parseDataArm hparse h
          · cases hparse
        · cases hparse
          exact absurd h List.not_mem_nil

/-- The accepted rows are rows of the messages. -/
theorem mem_runPrivate {pushes : List PrivatePush} {cache : OkxPrivateEventState}
    {event : OkxPrivateEventHint} (h : event ∈ (runPrivate cache pushes).1) :
    event.checked = .ok () ∧ ∃ push ∈ pushes, event ∈ push.rows := by
  have hall := runPrivate_induction pushes cache []
    (P := fun accepted _ => ∀ event ∈ accepted,
      event.checked = .ok () ∧ ∃ push ∈ pushes, event ∈ push.rows) (by simp) <| by
    intro accepted cache event walks cache' hevent ih hchecked _ other hother
    rcases List.mem_append.1 hother with hother | hother
    · exact ih other hother
    · rw [List.mem_singleton.1 hother]
      exact ⟨hchecked, hevent⟩
  exact hall event h

/-- Rows are accepted in the order in which their messages came. -/
theorem pairwise_receivedAt {pushes : List PrivatePush} {cache : OkxPrivateEventState}
    (h : pushes.Pairwise fun a b => a.receivedAt ≤ b.receivedAt) :
    (runPrivate cache pushes).1.Pairwise fun a b => a.receivedAt ≤ b.receivedAt := by
  induction pushes generalizing cache with
  | nil => exact List.Pairwise.nil
  | cons push rest ih =>
    have hfirst : ∀ event ∈ push.accepted cache, event.receivedAt = push.receivedAt := by
      intro event hevent
      have hone := @mem_runPrivate [push] cache event
        (by simpa [runPrivate] using hevent)
      obtain ⟨other, hother, hrow⟩ := hone.2
      rw [List.mem_singleton.1 hother] at hrow
      exact receivedAt_of_mem_rows hrow
    obtain ⟨hbefore, hrest⟩ := List.pairwise_cons.1 h
    refine List.pairwise_append.2 ⟨?_, ih hrest, ?_⟩
    · exact List.Pairwise.imp_of_mem (fun {a b} ha hb (_ : True) => by
        rw [hfirst a ha, hfirst b hb]) (List.pairwise_of_forall fun _ _ => trivial)
    · intro a ha b hb
      obtain ⟨-, other, hother, hrow⟩ := mem_runPrivate hb
      rw [hfirst a ha, receivedAt_of_mem_rows hrow]
      exact hbefore other hother

/-! ## One kind -/

/-- Both rows have a source timestamp, and that of the second is no earlier. -/
def NotBefore {Row : Type} (a b : OkxPrivateHint Row) : Prop :=
  ∃ s t, a.sourceTsMs = some s ∧ b.sourceTsMs = some t ∧ s ≤ t

theorem NotBefore.trans {Row : Type} {a b c : OkxPrivateHint Row} (h : NotBefore a b)
    (h' : NotBefore b c) : NotBefore a c := by
  obtain ⟨s, t, ha, hb, hle⟩ := h
  obtain ⟨s', t', hb', hc, hle'⟩ := h'
  rw [hb, Option.some.injEq] at hb'
  exact ⟨s, t', ha, hc, hle.trans (hb' ▸ hle')⟩

/-- A row that is not ignored has a timestamp, and comes no earlier than the row it replaces. -/
theorem notBefore_of_fresh {Row : Type} {current : Option (OkxPrivateHint Row)}
    {hint : OkxPrivateHint Row}
    (hfresh : shouldIgnoreHint (current.bind (·.sourceTsMs)) hint.sourceTsMs = false) :
    NotBefore hint hint ∧ ∀ old, current = some old → NotBefore old old → NotBefore old hint := by
  unfold shouldIgnoreHint at hfresh
  split at hfresh
  · rename_i t ht
    refine ⟨⟨t, t, ht, ht, le_rfl⟩, ?_⟩
    rintro old rfl ⟨s, -, hs, -, -⟩
    rw [Option.bind_some, hs] at hfresh
    exact ⟨s, t, hs, ht, not_lt.1 (by simpa using hfresh)⟩
  · cases hfresh

namespace HintKind

variable {Key Row : Type} [DecidableEq Key] (kind : HintKind Key Row)

/-- The rows of the kind. -/
def values (accepted : List OkxPrivateEventHint) : List (OkxPrivateHint Row) :=
  accepted.filterMap kind.hint?

/-- What one accepted row does to a property of the rows and the table of a kind. -/
theorem step {Q : List (OkxPrivateHint Row) → PrivateHints Key Row → Prop}
    {accepted : List OkxPrivateEventHint} {event : OkxPrivateEventHint} {walks : PrivateWalks}
    {cache cache' : OkxPrivateEventState} (hupdate : event.update walks cache = (.ok true, cache'))
    (h : Q (kind.values accepted) (kind.table cache))
    (hinsert : ∀ hint walk, kind.hint? event = some hint →
      shouldIgnoreHint ((kind.table cache).currentTsMs (kind.key hint)) hint.sourceTsMs = false →
        Q (kind.values accepted ++ [hint])
          (evictOldest okxPrivateEventCacheMaxHintsPerKind (·.receivedAt) walk
            ((kind.table cache).insert (kind.key hint) hint))) :
    Q (kind.values (accepted ++ [event])) (kind.table cache') := by
  have hvalues : kind.values (accepted ++ [event]) =
      kind.values accepted ++ (kind.hint? event).toList := by
    rw [values, List.filterMap_append]
    cases h : kind.hint? event <;> simp [h, values]
  rw [hvalues]
  cases hhint : kind.hint? event with
  | none =>
    rw [kind.other event walks cache cache' hupdate hhint]
    simpa using h
  | some hint =>
    obtain ⟨hfresh, walk, htable⟩ := kind.accepted event walks cache cache' hint hupdate hhint
    rw [htable]
    exact hinsert hint walk hhint hfresh

/-- Of no more keys than the bound the table holds every last row, and the rows of a key follow each
other in time. -/
structure Complete (values : List (OkxPrivateHint Row)) (table : PrivateHints Key Row) : Prop where
  all : RetainsAll kind.key values table
  last : ∀ hint ∈ values, ∀ last, lastOf kind.key values (kind.key hint) = some last →
    NotBefore hint last
  inTime : values.Pairwise fun a b => kind.key a = kind.key b → NotBefore a b

variable {kind} {rows : List (OkxPrivateHint Row)} {table : PrivateHints Key Row}
  {hint : OkxPrivateHint Row}

theorem Complete.insert {walk : TableWalk Key (OkxPrivateHint Row)} (h : kind.Complete rows table)
    (hrows : ∀ hint ∈ rows, NotBefore hint hint)
    (hfew : ((rows ++ [hint]).map kind.key).toFinset.card ≤ okxPrivateEventCacheMaxHintsPerKind)
    (hfresh : shouldIgnoreHint (table.currentTsMs (kind.key hint)) hint.sourceTsMs = false) :
    kind.Complete (rows ++ [hint]) (evictOldest okxPrivateEventCacheMaxHintsPerKind (·.receivedAt)
      walk (table.insert (kind.key hint) hint)) := by
  obtain ⟨hstamped, hreplaces⟩ := notBefore_of_fresh hfresh
  -- every earlier row of the key is no later than the one replaced
  have hafter : ∀ old ∈ rows, kind.key old = kind.key hint → NotBefore old hint := by
    intro old hold hkey
    obtain ⟨last, hlast⟩ := Option.isSome_iff_exists.1 (lastOf_isSome kind.key hold)
    have hlookup : table.lookup (kind.key hint) = some last := by rw [h.all, ← hkey, hlast]
    have hlastStamped := hrows last (lastOf_eq_some hlast).1
    exact (h.last old hold last hlast).trans (hreplaces last hlookup hlastStamped)
  refine ⟨h.all.insert hfew, ?_, ?_⟩
  · intro old hold last hlast
    rw [lastOf_concat] at hlast
    split at hlast
    · rename_i hkey
      cases hlast
      rcases List.mem_append.1 hold with hold | hold
      · exact hafter old hold hkey.symm
      · rw [List.mem_singleton.1 hold]
        exact hstamped
    · rename_i hkey
      rcases List.mem_append.1 hold with hold | hold
      · exact h.last old hold last hlast
      · rw [List.mem_singleton.1 hold] at hkey
        exact absurd rfl hkey
  · refine List.pairwise_append.2 ⟨h.inTime, List.pairwise_singleton _ _, ?_⟩
    intro old hold new hnew hkey
    rw [List.mem_singleton.1 hnew] at hkey ⊢
    exact hafter old hold hkey

/-- The rows of one kind in the cache. -/
structure Sound (kind : HintKind Key Row) (accepted : List OkxPrivateEventHint)
    (cache : OkxPrivateEventState) : Prop where
  retained : Retained okxPrivateEventCacheMaxHintsPerKind kind.key (kind.values accepted)
    (kind.table cache)
  /-- Every accepted row has a source timestamp. -/
  stamped : ∀ hint ∈ kind.values accepted, NotBefore hint hint
  complete : ((kind.values accepted).map kind.key).toFinset.card ≤
    okxPrivateEventCacheMaxHintsPerKind → kind.Complete (kind.values accepted) (kind.table cache)

theorem Sound.default : kind.Sound [] .default := by
  have hempty := kind.empty
  refine ⟨?_, by simp [values], fun _ => ⟨?_, by simp [values], List.Pairwise.nil⟩⟩
  · rw [hempty]
    exact .empty
  · rw [hempty]
    exact .empty

theorem Sound.next {accepted : List OkxPrivateEventHint} {event : OkxPrivateEventHint}
    {walks : PrivateWalks} {cache cache' : OkxPrivateEventState} (h : kind.Sound accepted cache)
    (hupdate : event.update walks cache = (.ok true, cache')) :
    kind.Sound (accepted ++ [event]) cache' where
  retained := kind.step (Q := fun rows table =>
    Retained okxPrivateEventCacheMaxHintsPerKind kind.key rows table) hupdate h.retained
      fun _ _ _ _ => h.retained.insert
  stamped := kind.step (Q := fun rows _ => ∀ hint ∈ rows, NotBefore hint hint) hupdate
    h.stamped <| by
    intro hint _ _ hfresh old hold
    rcases List.mem_append.1 hold with hold | hold
    · exact h.stamped old hold
    · rw [List.mem_singleton.1 hold]
      exact (notBefore_of_fresh hfresh).1
  complete := kind.step (Q := fun rows table =>
    (rows.map kind.key).toFinset.card ≤ okxPrivateEventCacheMaxHintsPerKind →
      kind.Complete rows table) hupdate h.complete <| by
    intro hint walk _ hfresh hfew
    have hbefore : ((kind.values accepted).map kind.key).toFinset.card ≤
        okxPrivateEventCacheMaxHintsPerKind := by
      refine (Finset.card_le_card ?_).trans hfew
      intro key hkey
      rw [List.mem_toFinset, List.map_append, List.mem_append]
      exact .inl (List.mem_toFinset.1 hkey)
    exact (h.complete hbefore).insert h.stamped hfew hfresh

end HintKind

/-! ## The cache -/

/-- The last account row accepted, each no earlier than those before it. -/
structure AccountSound (accepted : List OkxPrivateEventHint) (cache : OkxPrivateEventState) :
    Prop where
  last : cache.account = (accepted.filterMap (·.account?)).getLast?
  stamped : ∀ hint ∈ accepted.filterMap (·.account?), NotBefore hint hint
  inTime : (accepted.filterMap (·.account?)).Pairwise NotBefore

theorem AccountSound.next {accepted : List OkxPrivateEventHint} {event : OkxPrivateEventHint}
    {walks : PrivateWalks} {cache cache' : OkxPrivateEventState} (h : AccountSound accepted cache)
    (hupdate : event.update walks cache = (.ok true, cache')) :
    AccountSound (accepted ++ [event]) cache' := by
  cases hevent : event.account? with
  | none =>
    have hrows : (accepted ++ [event]).filterMap (·.account?) =
        accepted.filterMap (·.account?) := by
      rw [List.filterMap_append]
      simp [hevent]
    have hsame : cache'.account = cache.account :=
      update_other (·.account) hupdate (fun _ _ => rfl) (fun _ _ => rfl) (fun _ _ => rfl)
        fun _ hsome => by simp [hevent] at hsome
    exact ⟨by rw [hrows, hsame, h.last], by rw [hrows]; exact h.stamped,
      by rw [hrows]; exact h.inTime⟩
  | some hint =>
    have hrows : (accepted ++ [event]).filterMap (·.account?) =
        accepted.filterMap (·.account?) ++ [hint] := by
      rw [List.filterMap_append]
      simp [hevent]
    have haccount : event = .account hint := by
      cases event <;> cases hevent
      rfl
    subst haccount
    obtain ⟨hfresh, rfl⟩ := updateAccount_accepted hupdate
    obtain ⟨hstamped, hreplaces⟩ := notBefore_of_fresh hfresh
    refine ⟨by rw [hrows, List.getLast?_concat], ?_, ?_⟩
    · rw [hrows]
      intro old hold
      rcases List.mem_append.1 hold with hold | hold
      · exact h.stamped old hold
      · rw [List.mem_singleton.1 hold]
        exact hstamped
    · rw [hrows]
      refine List.pairwise_append.2 ⟨h.inTime, List.pairwise_singleton _ _, ?_⟩
      intro old hold new hnew
      rw [List.mem_singleton.1 hnew]
      -- the row replaced is the last of the earlier ones
      cases hlast : (accepted.filterMap (·.account?)).getLast? with
      | none => exact absurd (List.getLast?_eq_none_iff.1 hlast ▸ hold) List.not_mem_nil
      | some last =>
        have hmem := List.mem_of_getLast? hlast
        have hreplaced := hreplaces last (h.last.trans hlast) (h.stamped last hmem)
        obtain ⟨front, hfront⟩ := List.getLast?_eq_some_iff.1 hlast
        have htime := h.inTime
        rw [hfront] at hold htime
        rcases List.mem_append.1 hold with hold | hold
        · exact ((List.pairwise_append.1 htime).2.2 old hold last (List.mem_singleton_self _)).trans
            hreplaced
        · rw [List.mem_singleton.1 hold]
          exact hreplaced

/-- What holds of the rows accepted in a run and the cache after it. -/
structure PrivateCacheSound (accepted : List OkxPrivateEventHint) (cache : OkxPrivateEventState) :
    Prop where
  orders : orderKind.Sound accepted cache
  fills : fillKind.Sound accepted cache
  algoOrders : algoOrderKind.Sound accepted cache
  account : AccountSound accepted cache
  checked : ∀ event ∈ accepted, event.checked = .ok ()

/-- **The cache over any run**, whatever messages arrive and fail: no more hints of a kind than its
bound, each the last its key was given, and every accepted row checked and with a source timestamp;
and while no kind has more keys than the bound, nothing is lost and no key goes back in time. -/
theorem privateCache_sound (pushes : List PrivatePush) :
    PrivateCacheSound (runPrivate .default pushes).1 (runPrivate .default pushes).2 := by
  have hrun := runPrivate_induction pushes .default []
    (P := PrivateCacheSound)
    ⟨.default, .default, .default, ⟨rfl, by simp, List.Pairwise.nil⟩, by simp⟩ <| by
      intro accepted cache event walks cache' _ h hchecked hupdate
      refine ⟨h.orders.next hupdate, h.fills.next hupdate, h.algoOrders.next hupdate,
        h.account.next hupdate, fun other hother => ?_⟩
      rcases List.mem_append.1 hother with hother | hother
      · exact h.checked other hother
      · rw [List.mem_singleton.1 hother]
        exact hchecked
  exact hrun

/-- The newest rows of a kind are the ones in the cache. -/
def HintKind.Newest {Key Row : Type} [DecidableEq Key] (kind : HintKind Key Row)
    (accepted : List OkxPrivateEventHint) (cache : OkxPrivateEventState) : Prop :=
  RetainsNewest okxPrivateEventCacheMaxHintsPerKind (·.receivedAt) kind.key (kind.values accepted)
    (kind.table cache)

theorem HintKind.newest_run {Key Row : Type} [DecidableEq Key] (kind : HintKind Key Row)
    {pushes : List PrivatePush} (h : pushes.Pairwise fun a b => a.receivedAt ≤ b.receivedAt) :
    kind.Newest (runPrivate .default pushes).1 (runPrivate .default pushes).2 := by
  have hrun := runPrivate_induction pushes .default []
    (P := fun accepted cache => accepted.Pairwise (fun a b => a.receivedAt ≤ b.receivedAt) →
      kind.Newest accepted cache) ?_ ?_
  · exact hrun (pairwise_receivedAt h)
  · intro _
    show RetainsNewest _ _ _ (kind.values []) (kind.table .default)
    rw [kind.empty]
    exact .empty
  · intro accepted cache event walks cache' _ ih _ hupdate hordered
    obtain ⟨hbefore, -, hlatest⟩ := List.pairwise_append.1 hordered
    refine kind.step (Q := RetainsNewest okxPrivateEventCacheMaxHintsPerKind
      (fun hint => hint.receivedAt) kind.key) hupdate (ih hbefore) fun hint walk hhint _ => ?_
    refine (ih hbefore).insert fun old hold => ?_
    obtain ⟨row, hrow, hold⟩ := List.mem_filterMap.1 hold
    show old.receivedAt ≤ hint.receivedAt
    rw [kind.receivedAt row old hold, kind.receivedAt event hint hhint]
    exact hlatest row hrow event (List.mem_singleton_self _)

/-- **Rows are lost only by age**: where the clock does not go back, a key the cache has lost was
received no later than any it has, and the cache is full of its kind. -/
theorem privateCache_newest {pushes : List PrivatePush}
    (h : pushes.Pairwise fun a b => a.receivedAt ≤ b.receivedAt) :
    orderKind.Newest (runPrivate .default pushes).1 (runPrivate .default pushes).2 ∧
      fillKind.Newest (runPrivate .default pushes).1 (runPrivate .default pushes).2 ∧
      algoOrderKind.Newest (runPrivate .default pushes).1 (runPrivate .default pushes).2 :=
  ⟨orderKind.newest_run h, fillKind.newest_run h, algoOrderKind.newest_run h⟩

/-! ## More orders than the cache holds -/

/-- Ids that are as long as there are orders before. -/
def floodId (i : ℕ) : Text := List.replicate (i + 1) 'a'

def floodOrder (i : ℕ) : OkxPrivateOrderHint :=
  ⟨pushedOrder (floodId i) .live, some 1710000000123, i⟩

/-- A message with one new order, received at a time of its own. -/
def floodPush (i : ℕ) : PrivatePush where
  authority := btcAuthority
  payload := some { ordersMessage with
    data := some ⟨some [pushedOrder (floodId i) .live], none, none, none⟩ }
  receivedAt := i
  walks := entryWalks

theorem rows_floodPush (i : ℕ) : (floodPush i).rows = [.order (floodOrder i)] := by
  rfl

theorem checked_floodOrder (i : ℕ) :
    (OkxPrivateEventHint.order (floodOrder i)).checked = .ok () := by
  have hid : Text.isBlank (floodId i) = false := by
    simp [floodId, Text.isBlank, List.replicate_succ, isWhitespace]
  -- no other check reads the id
  show ensureOrderHint (pushedOrder (floodId i) .live) = .ok ()
  refine bind_eq_ok.2 ⟨(), rfl, bind_eq_ok.2 ⟨(), rfl, bind_eq_ok.2 ⟨(), rfl, ?_⟩⟩⟩
  refine bind_eq_ok.2 ⟨(), ?_, ?_⟩
  · exact ensure_eq_ok.2 hid
  · have hrest : (do
        (pushedOrder [] .live).ensureDocumentedState "private WebSocket order"
        let _ ← (pushedOrder [] .live).fillSize
        let _ ← (pushedOrder [] .live).averageFillPrice
        let _ ← (pushedOrder [] .live).requestedSize : Result Unit) = .ok () := by decide +kernel
    exact hrest

theorem isIgnored_floodOrder {cache : OkxPrivateEventState} (i : ℕ)
    (h : ∀ key hint, cache.ordersByClientId.lookup key = some hint →
      hint.sourceTsMs = some 1710000000123) :
    (OkxPrivateEventHint.order (floodOrder i)).isIgnored cache = false := by
  show shouldIgnoreHint (cache.ordersByClientId.currentTsMs _) (some 1710000000123) = false
  unfold PrivateHints.currentTsMs
  cases hlookup : cache.ordersByClientId.lookup _ with
  | none => rfl
  | some hint =>
    rw [Option.bind_some, h _ hint hlookup]
    rfl

theorem accepted_floodPush {cache : OkxPrivateEventState} (i : ℕ)
    (h : ∀ key hint, cache.ordersByClientId.lookup key = some hint →
      hint.sourceTsMs = some 1710000000123) :
    (floodPush i).accepted cache = [.order (floodOrder i)] := by
  have hignored := isIgnored_floodOrder i h
  rw [PrivatePush.accepted, rows_floodPush]
  rcases (OkxPrivateEventHint.order (floodOrder i)).update_cases (entryWalks 0) cache with
    ⟨e, hchecked, -⟩ | ⟨-, hignore, -⟩ | ⟨-, -, cache', hupdate⟩
  · rw [checked_floodOrder] at hchecked
    cases hchecked
  · rw [hignored] at hignore
    cases hignore
  · have hwalks : (floodPush i).walks = entryWalks := rfl
    simp only [acceptedRows, hwalks, hupdate, if_true, List.append_nil]

/-- That many new orders. -/
def orderFlood (n : ℕ) : List PrivatePush := (List.range n).map floodPush

theorem pairwise_orderFlood (n : ℕ) :
    (orderFlood n).Pairwise fun a b => a.receivedAt ≤ b.receivedAt :=
  List.pairwise_map.2 (List.pairwise_lt_range.imp fun h => h.le)

theorem accepted_orderFlood (n : ℕ) : (runPrivate .default (orderFlood n)).1 =
    (List.range n).map fun i => .order (floodOrder i) := by
  induction n with
  | zero => rfl
  | succ n ih =>
    have hstamped : ∀ key hint,
        (runPrivate .default (orderFlood n)).2.ordersByClientId.lookup key = some hint →
          hint.sourceTsMs = some 1710000000123 := by
      intro key hint hlookup
      have hlast := (orderKind.newest_run (pairwise_orderFlood n)).last key hint hlookup
      have hmem := (lastOf_eq_some hlast).1
      rw [ih] at hmem
      obtain ⟨event, hevent, hhint⟩ := List.mem_filterMap.1 hmem
      obtain ⟨i, -, rfl⟩ := List.mem_map.1 hevent
      cases hhint
      rfl
    have hflood : orderFlood (n + 1) = orderFlood n ++ [floodPush n] := by
      simp [orderFlood, List.range_succ]
    rw [hflood, runPrivate_concat, accepted_floodPush n hstamped, ih, List.range_succ,
      List.map_append]
    rfl

theorem floodOrder_key_injective : Function.Injective fun i => orderKind.key (floodOrder i) := by
  intro i j h
  have hid : floodId i = floodId j := (Prod.mk.inj h).2
  have hlength := congrArg List.length hid
  simpa [floodId] using hlength

/-- Of more orders than the bound one is lost. -/
theorem exists_lost_of_orderFlood {n : ℕ} (h : okxPrivateEventCacheMaxHintsPerKind < n) :
    ∃ i < n, (runPrivate .default (orderFlood n)).2.ordersByClientId.lookup
      (orderKind.key (floodOrder i)) = none := by
  have hbounded := (orderKind.newest_run (pairwise_orderFlood n)).bounded
  have hdistinct := (List.nodup_range (n := n)).map floodOrder_key_injective
  obtain ⟨key, hkey, hlost⟩ := exists_lookup_eq_none hdistinct
    (hbounded.trans_lt (h.trans_eq (by simp)))
  obtain ⟨i, hi, rfl⟩ := List.mem_map.1 hkey
  exact ⟨i, List.mem_range.1 hi, hlost⟩

/-- The theorem at more orders than the cache holds: all are accepted, and one is lost. -/
theorem privateCache_newest_orderFlood :
    (runPrivate .default (orderFlood 1025)).1.length = 1025 ∧
      (∃ i < 1025, (runPrivate .default (orderFlood 1025)).2.ordersByClientId.lookup
        (orderKind.key (floodOrder i)) = none) ∧
      orderKind.Newest (runPrivate .default (orderFlood 1025)).1
        (runPrivate .default (orderFlood 1025)).2 ∧
      fillKind.Newest (runPrivate .default (orderFlood 1025)).1
        (runPrivate .default (orderFlood 1025)).2 ∧
      algoOrderKind.Newest (runPrivate .default (orderFlood 1025)).1
        (runPrivate .default (orderFlood 1025)).2 := by
  refine ⟨?_, exists_lost_of_orderFlood (by decide), privateCache_newest (pairwise_orderFlood 1025)⟩
  rw [accepted_orderFlood, List.length_map, List.length_range]

end OkxTrading
