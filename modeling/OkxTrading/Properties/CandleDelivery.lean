import Mathlib.Data.List.Enum
import OkxTrading.Delivery.Memory
import OkxTrading.Market.CandleCache

/-!
# Delivery of confirmed candles

A confirmed candle is to be delivered once and to stay confirmed.  The cache is the only memory of
what was delivered, and it forgets: an equal timestamp replaces a bar whatever it says, and old bars
and old series are dropped.

* `Kept` — the bounds of the cache and the timestamps of its bars, over any run.
* `run_eq` — a run of messages delivers what the memory of the cache lets through.
* `mem_run_iff` — every confirmed candle is delivered.
* `confirmed_candles_delivered_once` — **the two exact conditions** for once, and for good.
-/

namespace OkxTrading

open Collections Delivery

variable {F : Type} [F64 F] {cache : CandleCache F} {hint new old : OkxMarketCandleHint F}
  {walk : HashWalk F}

/-- What a candle is about. -/
structure CandleSlot where
  instId : Text
  channel : Text
  tsMs : ℤ
  deriving DecidableEq, Repr

def CandleSlot.key (slot : CandleSlot) : Text × Text := (slot.instId, slot.channel)

/-- Where a bar belongs. -/
def OkxMarketCandleHint.slot (hint : OkxMarketCandleHint F) : CandleSlot :=
  ⟨hint.instId, hint.channel, hint.bar.tsMs⟩

/-- The bar the cache holds at a place. -/
def cachedBar (cache : CandleCache F) (slot : CandleSlot) : Option (OkxMarketCandleHint F) :=
  (cache.lookup slot.key).bind (·.get? slot.tsMs)

/-- A confirmed bar is cached. -/
def confirmed (cache : CandleCache F) (slot : CandleSlot) : Bool :=
  (cachedBar cache slot).any (·.bar.confirm)

omit [F64 F] in
theorem confirmed_eq_true {slot : CandleSlot} : confirmed cache slot = true ↔
    ∃ bar, cachedBar cache slot = some bar ∧ bar.bar.confirm = true :=
  Option.any_eq_true _ _

/-- A hint says when its bar began, as the hints of messages do. -/
def OkxMarketCandleHint.Stamped (hint : OkxMarketCandleHint F) : Prop :=
  hint.sourceTsMs = some hint.bar.tsMs

variable {slot : CandleSlot}

/-! ## One insertion -/

/-- The cache is within its bounds, and a bar is under its own timestamp. -/
structure Kept (cache : CandleCache F) : Prop where
  series : cache.entries.length ≤ okxMarketDataCacheMaxHintsPerKind
  bars : ∀ key bars, cache.lookup key = some bars → bars.size ≤ okxMarketCandleCacheMaxBars
  stamped : ∀ slot bar, cachedBar cache slot = some bar → bar.sourceTsMs = some slot.tsMs

omit [F64 F] in
theorem Kept.empty : Kept (∅ : CandleCache F) where
  series := Nat.zero_le _
  bars key bars h := by simp at h
  stamped slot bar h := by simp [cachedBar] at h

/-- The series of a hint with the hint in it. -/
def seriesWith (cache : CandleCache F) (hint : OkxMarketCandleHint F) : CandleSeries F :=
  ((((cache.lookup hint.slot.key).getD SortedMap.empty).insert hint.bar.tsMs hint).lastN
    okxMarketCandleCacheMaxBars)

omit [F64 F] in
theorem get?_series (cache : CandleCache F) (slot : CandleSlot) :
    ((cache.lookup slot.key).getD SortedMap.empty).get? slot.tsMs = cachedBar cache slot := by
  unfold cachedBar
  cases cache.lookup slot.key with
  | none => rfl
  | some bars => rfl

omit [F64 F] in
/-- A hint is never too late for the bar it replaces. -/
theorem insertCandleHint_eq (h : Kept cache) (hhint : hint.Stamped) :
    insertCandleHint walk cache hint = (hint.bar.confirm && !confirmed cache hint.slot,
      evictOldestMarketDataHints walk (cache.insert hint.slot.key (seriesWith cache hint))) := by
  have hcurrent := get?_series cache hint.slot
  have hfresh : shouldIgnoreHint ((cachedBar cache hint.slot).bind (·.sourceTsMs))
      hint.sourceTsMs = false := by
    rw [hhint]
    cases hbar : cachedBar cache hint.slot with
    | none => rfl
    | some bar =>
        have hstamp := h.stamped _ _ hbar
        simp [shouldIgnoreHint, hstamp, OkxMarketCandleHint.slot]
  have hall : (cachedBar cache hint.slot).all (fun current => !current.bar.confirm) =
      !confirmed cache hint.slot := by
    unfold confirmed
    cases cachedBar cache hint.slot <;> rfl
  simp only [OkxMarketCandleHint.slot, CandleSlot.key] at hcurrent hfresh hall
  simp only [insertCandleHint, OkxMarketCandleHint.slot, CandleSlot.key, seriesWith, hcurrent,
    hfresh, hall, dropOldestBars_eq, AList.insert_insert, Bool.false_eq_true, if_false]

omit [F64 F] in
/-- **One insertion**: a slot holds the hint if it is its own, else what it held. -/
theorem cachedBar_insertCandleHint (h : Kept cache) (hhint : hint.Stamped)
    (hnew : cachedBar (insertCandleHint walk cache hint).2 slot = some new) :
    if slot = hint.slot then new = hint else cachedBar cache slot = some new := by
  rw [insertCandleHint_eq h hhint] at hnew
  obtain ⟨bars, hbars, hget⟩ := Option.bind_eq_some_iff.1 hnew
  have hlookup := lookup_evictOldestMarketDataHints hbars
  by_cases hkey : slot.key = hint.slot.key
  · rw [hkey, AList.lookup_insert, Option.some.injEq] at hlookup
    rw [← hlookup] at hget
    have hinsert := SortedMap.get?_of_get?_lastN hget
    rw [SortedMap.get?_insert] at hinsert
    have hslot : slot = hint.slot ↔ slot.tsMs = hint.bar.tsMs := by
      obtain ⟨instId, channel, tsMs⟩ := slot
      simp only [CandleSlot.key, OkxMarketCandleHint.slot, Prod.mk.injEq] at hkey
      simp [OkxMarketCandleHint.slot, hkey]
    split at hinsert
    · rename_i hts
      rw [if_pos (hslot.2 hts)]
      exact (Option.some.inj hinsert).symm
    · rename_i hts
      rw [if_neg (hslot.not.2 hts), ← get?_series, hkey]
      exact hinsert
  · rw [AList.lookup_insert_ne hkey] at hlookup
    have hne : slot ≠ hint.slot := fun heq => hkey (congrArg CandleSlot.key heq)
    rw [if_neg hne]
    exact Option.bind_eq_some_iff.2 ⟨bars, hlookup, hget⟩

omit [F64 F] in
theorem Kept.insert (h : Kept cache) (hhint : hint.Stamped) (walk : HashWalk F) :
    Kept (insertCandleHint walk cache hint).2 where
  series := by
    rw [insertCandleHint_eq h hhint]
    exact length_evictOldestMarketDataHints_le
  bars key bars hbars := by
    rw [insertCandleHint_eq h hhint] at hbars
    have hlookup := lookup_evictOldestMarketDataHints hbars
    by_cases hkey : key = hint.slot.key
    · rw [hkey, AList.lookup_insert, Option.some.injEq] at hlookup
      rw [← hlookup]
      exact SortedMap.size_lastN_le
    · rw [AList.lookup_insert_ne hkey] at hlookup
      exact h.bars key bars hlookup
  stamped slot bar hbar := by
    have hcached := cachedBar_insertCandleHint h hhint hbar
    split at hcached
    · rename_i hslot
      rw [hcached, hslot]
      exact hhint
    · exact h.stamped slot bar hcached

omit [F64 F] in
/-- A hint that replaces a bar is cached: nothing has to go for it. -/
theorem cachedBar_replaced (h : Kept cache) (hhint : hint.Stamped)
    (hold : cachedBar cache hint.slot = some old) :
    cachedBar (insertCandleHint walk cache hint).2 hint.slot = some hint := by
  obtain ⟨bars, hbars, hget⟩ := Option.bind_eq_some_iff.1 hold
  have hmem : hint.slot.key ∈ cache.keys :=
    AList.lookup_isSome.1 (by rw [hbars]; rfl)
  have hfits : (cache.insert hint.slot.key (seriesWith cache hint)).entries.length ≤
      okxMarketDataCacheMaxHintsPerKind := by
    rw [length_insert_of_mem hmem]
    exact h.series
  have hsize : (bars.insert hint.bar.tsMs hint).size ≤ okxMarketCandleCacheMaxBars :=
    (SortedMap.size_insert_of_get? hget).trans_le (h.bars _ _ hbars)
  have hseries : seriesWith cache hint = bars.insert hint.bar.tsMs hint := by
    rw [seriesWith, hbars]
    exact SortedMap.lastN_of_size_le hsize
  rw [insertCandleHint_eq h hhint, evictOldestMarketDataHints_of_length_le hfits, hseries]
  simp [cachedBar, OkxMarketCandleHint.slot]

/-! ## Messages -/

/-- A message, when it came, and what its insertions meet. -/
structure CandlePush (F : Type) where
  payload : Option OkxWebsocketPublicMessage
  receivedAt : Instant
  walks : ℕ → HashWalk F

/-- The channel a payload names. -/
def CandlePush.channel (push : CandlePush F) : Text :=
  ((push.payload.bind (·.arg)).map (·.channel)).getD []

/-- A message through the cache: the slots of its events, and the cache after it. -/
def receive (parseF64 : Text → Option F) (cache : CandleCache F) (push : CandlePush F) :
    List CandleSlot × CandleCache F :=
  let (answer, cache) := applyPublicMarketDataMessageInner parseF64 push.walks cache push.payload
    push.receivedAt
  match answer with
  | .error _ => ([], cache)
  | .ok applied =>
      (applied.publicEvents.map fun event => ⟨event.instrumentId, push.channel, event.barTsMs⟩,
        cache)

/-- Messages one after another: every event emitted, and the cache at the end. -/
def run (parseF64 : Text → Option F) (cache : CandleCache F) :
    List (CandlePush F) → List CandleSlot × CandleCache F
  | [] => ([], cache)
  | push :: rest =>
      let (slots, cache) := receive parseF64 cache push
      let (more, cache) := run parseF64 cache rest
      (slots ++ more, cache)

/-- An insertion of a run. -/
abbrev CandleCall (F : Type) := HashWalk F × OkxMarketCandleHint F

/-- The insertions of a message: none if it is refused. -/
def CandlePush.calls (parseF64 : Text → Option F) (push : CandlePush F) : List (CandleCall F) :=
  match parsePublicMarketDataMessage parseF64 push.payload push.receivedAt with
  | .error _ => []
  | .ok hints => hints.mapIdx fun i hint => (push.walks i, hint)

/-- The insertions of a run. -/
def history (parseF64 : Text → Option F) (pushes : List (CandlePush F)) : List (CandleCall F) :=
  pushes.flatMap (·.calls parseF64)

/-- The cache after an insertion. -/
def insertCall (cache : CandleCache F) (call : CandleCall F) : CandleCache F :=
  (insertCandleHint call.1 cache call.2).2

/-- The cache after insertions into an empty one. -/
def cacheAfter (calls : List (CandleCall F)) : CandleCache F := calls.foldl insertCall ∅

omit [F64 F] in
theorem cacheAfter_concat {calls : List (CandleCall F)} {call : CandleCall F} :
    cacheAfter (calls ++ [call]) = (insertCandleHint call.1 (cacheAfter calls) call.2).2 := by
  simp [cacheAfter, insertCall]

/-- The slot a confirmed hint is about. -/
def confirmedSlot (call : CandleCall F) : Option CandleSlot :=
  if call.2.bar.confirm then some call.2.slot else none

omit [F64 F] in
theorem confirmedSlot_eq_some {call : CandleCall F} :
    confirmedSlot call = some slot ↔ call.2.bar.confirm = true ∧ call.2.slot = slot := by
  unfold confirmedSlot
  split <;> simp_all

/-! ## Runs -/

section Runs

variable {parseF64 : Text → Option F} {pushes : List (CandlePush F)} {push : CandlePush F}
  {calls : List (CandleCall F)} {call : CandleCall F}

theorem mem_calls (h : call ∈ push.calls parseF64) :
    call.2.Stamped ∧ call.2.channel = push.channel := by
  unfold CandlePush.calls at h
  split at h
  · exact absurd h List.not_mem_nil
  · rename_i hints hparse
    obtain ⟨i, hi, rfl⟩ := List.mem_mapIdx.1 h
    have hhint : hints[i] ∈ hints := List.getElem_mem hi
    cases hpayload : push.payload with
    | none =>
        rw [hpayload] at hparse
        cases hparse
    | some message =>
        rw [hpayload] at hparse
        obtain ⟨hstamp, hchannel⟩ := mem_parsePublicMarketDataMessage hparse hhint
        refine ⟨hstamp, ?_⟩
        simp [CandlePush.channel, hpayload, hchannel]

theorem mem_history (h : call ∈ history parseF64 pushes) : call.2.Stamped := by
  obtain ⟨push, -, hcall⟩ := List.mem_flatMap.1 h
  exact (mem_calls hcall).1

omit [F64 F] in
theorem Kept.foldl (h : Kept cache) (hcalls : ∀ call ∈ calls, call.2.Stamped) :
    Kept (calls.foldl insertCall cache) := by
  induction calls generalizing cache with
  | nil => exact h
  | cons call rest ih =>
      exact ih (h.insert (hcalls call List.mem_cons_self) call.1) fun c hc =>
        hcalls c (List.mem_cons_of_mem _ hc)

omit [F64 F] in
theorem Kept.cacheAfter (hcalls : ∀ call ∈ calls, call.2.Stamped) : Kept (cacheAfter calls) :=
  Kept.empty.foldl hcalls

omit [F64 F] in
theorem applyCandleHints_snd (walks : ℕ → HashWalk F) (hints : List (OkxMarketCandleHint F)) :
    (applyCandleHints walks cache hints).2 =
      (hints.mapIdx fun i hint => (walks i, hint)).foldl insertCall cache := by
  induction hints generalizing cache walks with
  | nil => rfl
  | cons hint rest ih =>
      rw [List.mapIdx_cons, List.foldl_cons]
      exact ih fun n => walks (n + 1)

omit [F64 F] in
/-- The hints of a message deliver what the memory of the cache lets through. -/
theorem applyCandleHints_fst {channel : Text} (walks : ℕ → HashWalk F)
    (hints : List (OkxMarketCandleHint F)) (h : Kept cache)
    (hhints : ∀ hint ∈ hints, hint.Stamped ∧ hint.channel = channel) :
    ((applyCandleHints walks cache hints).1.map fun event =>
        (⟨event.instrumentId, channel, event.barTsMs⟩ : CandleSlot)) =
      delivered insertCall confirmedSlot confirmed cache
        (hints.mapIdx fun i hint => (walks i, hint)) := by
  induction hints generalizing cache walks with
  | nil => rfl
  | cons hint rest ih =>
      obtain ⟨hstamp, hchannel⟩ := hhints hint List.mem_cons_self
      have hrest := ih (fun n => walks (n + 1)) (h.insert hstamp (walks 0)) fun c hc =>
        hhints c (List.mem_cons_of_mem _ hc)
      have hinserted : (insertCandleHint (walks 0) cache hint).1 =
          (hint.bar.confirm && !confirmed cache hint.slot) := by
        rw [insertCandleHint_eq h hstamp]
      have hslot : (⟨hint.instId, channel, hint.bar.tsMs⟩ : CandleSlot) = hint.slot := by
        rw [← hchannel]
        rfl
      rw [List.mapIdx_cons, delivered, applyCandleHints, List.map_append, hrest]
      refine congrArg (· ++ _) ?_
      simp only [hinserted, deliver, confirmedSlot]
      cases hint.bar.confirm <;> cases hseen : confirmed cache hint.slot <;>
        simp [hslot, hseen, Option.filter_some]

theorem receive_eq (h : Kept cache) :
    receive parseF64 cache push =
      (delivered insertCall confirmedSlot confirmed cache (push.calls parseF64),
        (push.calls parseF64).foldl insertCall cache) := by
  have hmem : ∀ call ∈ push.calls parseF64, call.2.Stamped ∧ call.2.channel = push.channel :=
    fun call hcall => mem_calls hcall
  unfold receive applyPublicMarketDataMessageInner
  unfold CandlePush.calls at hmem ⊢
  cases hparse : parsePublicMarketDataMessage parseF64 push.payload push.receivedAt with
  | error e => rfl
  | ok hints =>
      rw [hparse] at hmem
      have hhints : ∀ hint ∈ hints, hint.Stamped ∧ hint.channel = push.channel := by
        intro hint hhint
        obtain ⟨i, hi, rfl⟩ := List.getElem_of_mem hhint
        exact hmem (push.walks i, hints[i]) (List.mem_mapIdx.2 ⟨i, hi, rfl⟩)
      exact Prod.ext (applyCandleHints_fst push.walks hints h hhints)
        (applyCandleHints_snd push.walks hints)

/-- **A run** delivers what the memory of the cache lets through. -/
theorem run_eq (h : Kept cache) :
    run parseF64 cache pushes =
      (delivered insertCall confirmedSlot confirmed cache (history parseF64 pushes),
        (history parseF64 pushes).foldl insertCall cache) := by
  induction pushes generalizing cache with
  | nil => rfl
  | cons push rest ih =>
      have hkept : Kept ((push.calls parseF64).foldl insertCall cache) :=
        h.foldl fun call hcall => (mem_calls hcall).1
      have hhistory : history parseF64 (push :: rest) =
          push.calls parseF64 ++ history parseF64 rest := List.flatMap_cons
      rw [hhistory, delivered_append, List.foldl_append, run, receive_eq h]
      simp only [ih hkept]

omit [F64 F] in
/-- A confirmed bar in the cache came as a confirmed hint. -/
theorem mem_of_confirmed (hcalls : ∀ call ∈ calls, call.2.Stamped)
    (hconfirmed : confirmed (cacheAfter calls) slot = true) :
    slot ∈ calls.filterMap confirmedSlot := by
  induction calls using List.reverseRecOn with
  | nil => simp [confirmed, cachedBar, cacheAfter] at hconfirmed
  | append_singleton front call ih =>
      have hfront : ∀ c ∈ front, c.2.Stamped := fun c hc => hcalls c (List.mem_append_left _ hc)
      have hkept : Kept (cacheAfter front) := Kept.cacheAfter hfront
      have hstamp : call.2.Stamped := hcalls call (by simp)
      obtain ⟨bar, hbar, hconfirm⟩ := confirmed_eq_true.1 hconfirmed
      rw [cacheAfter_concat] at hbar
      have hcached := cachedBar_insertCandleHint hkept hstamp hbar
      rw [List.filterMap_append, List.mem_append]
      split at hcached
      · rename_i hslot
        rw [hcached] at hconfirm
        exact .inr (List.mem_filterMap.2
          ⟨call, List.mem_singleton_self call, confirmedSlot_eq_some.2 ⟨hconfirm, hslot.symm⟩⟩)
      · exact .inl (ih hfront (confirmed_eq_true.2 ⟨bar, hcached, hconfirm⟩))

omit [F64 F] in
theorem honest (hcalls : ∀ call ∈ calls, call.2.Stamped) :
    Honest insertCall confirmedSlot confirmed (∅ : CandleCache F) calls := by
  rintro earlier later slot rfl hknown
  exact mem_of_confirmed (fun call hcall => hcalls call (List.mem_append_left _ hcall)) hknown

/-- Every confirmed candle is delivered. -/
theorem mem_run_iff : slot ∈ (run parseF64 ∅ pushes).1 ↔
    ∃ call ∈ history parseF64 pushes, call.2.bar.confirm = true ∧ call.2.slot = slot := by
  rw [run_eq Kept.empty, mem_delivered (honest fun call => mem_history), List.mem_filterMap]
  simp only [confirmedSlot_eq_some]

/-! ## Once, and for good -/

/-- No insertion of a run leaves an unconfirmed bar where a confirmed one was. -/
def NeverUndone (calls : List (CandleCall F)) : Prop :=
  ∀ earlier call later, calls = earlier ++ call :: later →
    ∀ slot, confirmed (cacheAfter earlier) slot = true →
      ∀ new, cachedBar (cacheAfter (earlier ++ [call])) slot = some new → new.bar.confirm = true

/-- What a hint must find in the cache: no confirmed bar if it is not confirmed itself, and the
confirmed bar if one came for its slot before. -/
structure Admitted (earlier : List (CandleCall F)) (hint : OkxMarketCandleHint F) : Prop where
  unconfirmed : hint.bar.confirm = false → confirmed (cacheAfter earlier) hint.slot = false
  repeated : hint.bar.confirm = true → hint.slot ∈ earlier.filterMap confirmedSlot →
    confirmed (cacheAfter earlier) hint.slot = true

omit [F64 F] in
theorem neverUndone_iff (hcalls : ∀ call ∈ calls, call.2.Stamped) :
    NeverUndone calls ↔ ∀ earlier call later, calls = earlier ++ call :: later →
      call.2.bar.confirm = false → confirmed (cacheAfter earlier) call.2.slot = false := by
  have hstamped : ∀ earlier call later, calls = earlier ++ call :: later →
      call.2.Stamped ∧ Kept (cacheAfter earlier) := by
    rintro earlier call later rfl
    exact ⟨hcalls call (by simp),
      Kept.cacheAfter fun c hc => hcalls c (List.mem_append_left _ hc)⟩
  constructor
  · intro h earlier call later hsplit hunconfirmed
    obtain ⟨hstamp, hkept⟩ := hstamped earlier call later hsplit
    by_contra hseen
    rw [Bool.not_eq_false] at hseen
    -- the hint takes the place of the confirmed bar, and nothing is evicted for it
    obtain ⟨bar, hbar, -⟩ := confirmed_eq_true.1 hseen
    have hnew : cachedBar (cacheAfter (earlier ++ [call])) call.2.slot = some call.2 := by
      rw [cacheAfter_concat]
      exact cachedBar_replaced hkept hstamp hbar
    have hconfirm := h earlier call later hsplit call.2.slot hseen call.2 hnew
    rw [hunconfirmed] at hconfirm
    cases hconfirm
  · intro h earlier call later hsplit slot hseen new hnew
    obtain ⟨hstamp, hkept⟩ := hstamped earlier call later hsplit
    rw [cacheAfter_concat] at hnew
    have hcached := cachedBar_insertCandleHint hkept hstamp hnew
    split at hcached
    · rename_i hslot
      rw [hcached]
      by_contra hunconfirmed
      rw [Bool.not_eq_true] at hunconfirmed
      have hnone := h earlier call later hsplit hunconfirmed
      rw [hslot, hnone] at hseen
      cases hseen
    · obtain ⟨bar, hbar, hconfirm⟩ := confirmed_eq_true.1 hseen
      rw [hcached, Option.some.injEq] at hbar
      rw [hbar]
      exact hconfirm

/-- **Confirmed candles**: none is delivered twice and no confirmation is undone exactly when every
hint finds in the cache what it must. -/
theorem confirmed_candles_delivered_once (parseF64 : Text → Option F)
    (pushes : List (CandlePush F)) :
    (run parseF64 ∅ pushes).1.Nodup ∧ NeverUndone (history parseF64 pushes) ↔
      ∀ earlier call later, history parseF64 pushes = earlier ++ call :: later →
        Admitted earlier call.2 := by
  have hcalls : ∀ call ∈ history parseF64 pushes, call.2.Stamped := fun call => mem_history
  rw [run_eq Kept.empty, delivered_nodup_iff (honest hcalls), neverUndone_iff hcalls]
  constructor
  · rintro ⟨hrecalled, hundone⟩ earlier call later hsplit
    refine ⟨hundone earlier call later hsplit, fun hconfirm hearlier => ?_⟩
    exact hrecalled earlier call later call.2.slot hsplit
      (confirmedSlot_eq_some.2 ⟨hconfirm, rfl⟩) hearlier
  · intro h
    refine ⟨?_, fun earlier call later hsplit => (h earlier call later hsplit).unconfirmed⟩
    intro earlier call later slot hsplit hslot hearlier
    obtain ⟨hconfirm, rfl⟩ := confirmedSlot_eq_some.1 hslot
    exact (h earlier call later hsplit).repeated hconfirm hearlier

end Runs

/-! ## A confirmed bar pushed again unconfirmed -/

/-- A text of digits as the number it denotes. -/
def parseWholeF64 (text : Text) : Option ℚ := (parseDigitsU64 text).map fun n => (n : ℚ)

/-- One bar of BTC-USDT. -/
def barPush (confirm : Char) : CandlePush ℚ where
  payload := some {
    event := none
    code := none
    arg := some ⟨okxPublicCandle1mChannel, some "BTC-USDT".toList⟩
    data := some
      (.rows [[['6', '0'], ['9'], ['9'], ['9'], ['9'], ['1'], ['1'], ['1'], [confirm]]]) }
  receivedAt := 0
  walks _ := ⟨0, fun cache => cache.entries, fun _ => List.Perm.refl _⟩

/-- Confirmed, not confirmed, confirmed again. -/
def barPushes : List (CandlePush ℚ) := [barPush '1', barPush '0', barPush '1']

def barSlot : CandleSlot := ⟨"BTC-USDT".toList, okxPublicCandle1mChannel, 60⟩

/-- The bar is delivered twice, and its confirmation is undone in between. -/
theorem confirmed_candle_delivered_twice :
    ¬ (run parseWholeF64 ∅ barPushes).1.Nodup ∧
      ¬ NeverUndone (history parseWholeF64 barPushes) := by
  have htwice : (run parseWholeF64 ∅ barPushes).1 = [barSlot, barSlot] := by decide +kernel
  have hlength : 1 < (history parseWholeF64 barPushes).length := by decide +kernel
  have hsplit : history parseWholeF64 barPushes = (history parseWholeF64 barPushes).take 1 ++
      (history parseWholeF64 barPushes)[1] :: (history parseWholeF64 barPushes).drop 2 := by
    rw [← List.drop_eq_getElem_cons hlength, List.take_append_drop]
  have hseen :
      confirmed (cacheAfter ((history parseWholeF64 barPushes).take 1)) barSlot = true := by
    decide +kernel
  have hundone : (cachedBar (cacheAfter ((history parseWholeF64 barPushes).take 2)) barSlot).any
      (fun hint => !hint.bar.confirm) = true := by
    decide +kernel
  refine ⟨by simp [htwice], fun h => ?_⟩
  obtain ⟨new, hnew, hconfirm⟩ := (Option.any_eq_true _ _).1 hundone
  rw [← List.take_append_getElem hlength] at hnew
  rw [h _ _ _ hsplit barSlot hseen new hnew] at hconfirm
  cases hconfirm

end OkxTrading
