import OkxTrading.Okx.RateLimit
import OkxTrading.Pacing.SlidingWindow

/-!
# Rate limits are kept and waits end

Over any interleaving of reservations and recorded rate limits with a clock that does not run
backwards.

* `reserveOrWait_cases` — everything a reservation can do.
* `Paced` — the invariant of one key: its queue covers its reservations and never exceeds the limit.
* `trace_key` — what a key sees of a run depends on the calls for that key only.
* `okxRateLimitBucket_fixed` — the buckets of the client have one limit and window for each key.
* `pacer_guarantees` — window bound, rest after a rejection, independence of keys, and progress.
-/

namespace OkxTrading

open Effect Pacing

/-- The window reservations of the bucket are spaced by. -/
def RateLimitBucket.pacingWindow (self : RateLimitBucket) : Duration :=
  self.window + okxRateLimitPacingSafetyMargin

theorem RateLimitBucket.pacingWindow_pos (self : RateLimitBucket) : 0 < self.pacingWindow :=
  Nat.add_pos_right _ (by decide)

/-- The times the key was granted a reservation. -/
def grants (key : String) (events : List (PacerCall × PacerOutcome)) : List Instant :=
  events.filterMap fun e => if e.1.key = key ∧ e.2 = .reserved then some e.1.now else none

namespace RateLimitPacerState

variable {s t : RateLimitPacerState} {bucket : RateLimitBucket} {now : Instant} {key : String}

/-! ## One call -/

/-- No cooldown of the bucket is left. -/
def warmed (s : RateLimitPacerState) (bucket : RateLimitBucket) : RateLimitPacerState :=
  { s with cooldowns := Function.update s.cooldowns bucket.key none }

/-- The queue of the bucket after its expired front is gone. -/
def queue (s : RateLimitPacerState) (bucket : RateLimitBucket) (now : Instant) : List Instant :=
  (s.requests bucket.key).dropWhile fun x => decide (x + bucket.pacingWindow ≤ now)

theorem expired_iff {length x now : ℕ} (h : 0 < length) :
    length ≤ now - x ↔ x + length ≤ now := by omega

theorem evict_eq (s : RateLimitPacerState) (bucket : RateLimitBucket) (now : Instant) :
    evict now bucket.pacingWindow (s.requests bucket.key) = s.queue bucket now := by
  simp only [evict, queue, expired_iff bucket.pacingWindow_pos]

theorem reserveOrWait_rest {untilAt : Instant} (hlimit : 0 < bucket.limit)
    (hcool : s.cooldowns bucket.key = some untilAt) (hlt : now < untilAt) :
    s.reserveOrWait bucket now = (.ok (some (untilAt - now)), s) := by
  unfold reserveOrWait
  rw [if_neg hlimit.ne', hcool]
  exact if_pos hlt

theorem reserveOrWait_pace (hlimit : 0 < bucket.limit)
    (hcool : ∀ untilAt, s.cooldowns bucket.key = some untilAt → untilAt ≤ now) :
    s.reserveOrWait bucket now = (s.warmed bucket).pace bucket now := by
  unfold reserveOrWait
  rw [if_neg hlimit.ne']
  split
  · rename_i untilAt h
    exact if_neg (not_lt.2 (hcool untilAt h))
  · rename_i h
    have : s.warmed bucket = s := by
      unfold warmed
      rw [← h, Function.update_eq_self]
    rw [this]

/-- A reservation, after the cooldown. -/
theorem pace_reserved (hroom : (s.queue bucket now).length < bucket.limit) :
    s.pace bucket now = (.ok none, s.withRequests bucket (s.queue bucket now ++ [now])) := by
  have hevict := s.evict_eq bucket now
  unfold RateLimitBucket.pacingWindow at hevict
  unfold pace
  dsimp only
  rw [hevict, if_pos hroom]

/-- A refusal, after the cooldown: the oldest reservation has to expire. -/
theorem pace_refused {oldest : Instant} {rest : List Instant}
    (hqueue : s.queue bucket now = oldest :: rest)
    (hfull : bucket.limit ≤ (s.queue bucket now).length) :
    s.pace bucket now =
      (.ok (some (oldest + bucket.pacingWindow - now)),
        s.withRequests bucket (s.queue bucket now)) := by
  have hevict := s.evict_eq bucket now
  unfold RateLimitBucket.pacingWindow at hevict
  unfold pace
  dsimp only
  rw [hevict, if_neg (not_lt.2 hfull), hqueue]
  rfl

/-- **Everything a reservation can do.** -/
theorem reserveOrWait_cases (hlimit : 0 < bucket.limit) (s : RateLimitPacerState)
    (now : Instant) :
    (∃ untilAt, s.cooldowns bucket.key = some untilAt ∧ now < untilAt ∧
      s.reserveOrWait bucket now = (.ok (some (untilAt - now)), s)) ∨
    ((∀ untilAt, s.cooldowns bucket.key = some untilAt → untilAt ≤ now) ∧
      (s.queue bucket now).length < bucket.limit ∧
      s.reserveOrWait bucket now =
        (.ok none, (s.warmed bucket).withRequests bucket (s.queue bucket now ++ [now]))) ∨
    ∃ oldest rest, (∀ untilAt, s.cooldowns bucket.key = some untilAt → untilAt ≤ now) ∧
      s.queue bucket now = oldest :: rest ∧ bucket.limit ≤ (s.queue bucket now).length ∧
      s.reserveOrWait bucket now =
        (.ok (some (oldest + bucket.pacingWindow - now)),
          (s.warmed bucket).withRequests bucket (s.queue bucket now)) := by
  by_cases hcool : ∀ untilAt, s.cooldowns bucket.key = some untilAt → untilAt ≤ now
  · refine .inr ?_
    rw [reserveOrWait_pace hlimit hcool]
    have hqueue : (s.warmed bucket).queue bucket now = s.queue bucket now := rfl
    by_cases hroom : (s.queue bucket now).length < bucket.limit
    · exact .inl ⟨hcool, hroom, pace_reserved hroom⟩
    · have hfull := not_lt.1 hroom
      obtain ⟨oldest, rest, hcons⟩ : ∃ oldest rest, s.queue bucket now = oldest :: rest := by
        refine List.exists_cons_of_ne_nil fun hnil => ?_
        rw [hnil] at hfull
        exact absurd hlimit (not_lt.2 hfull)
      exact .inr ⟨oldest, rest, hcool, hcons, hfull, pace_refused hcons hfull⟩
  · push Not at hcool
    obtain ⟨untilAt, hcool, hlt⟩ := hcool
    exact .inl ⟨untilAt, hcool, hlt, reserveOrWait_rest hlimit hcool hlt⟩

theorem lt_of_queue_eq_cons {oldest : Instant} {rest : List Instant}
    (h : s.queue bucket now = oldest :: rest) : now < oldest + bucket.pacingWindow := by
  have hhead := List.head?_dropWhile_not (fun x => decide (x + bucket.pacingWindow ≤ now))
    (s.requests bucket.key)
  rw [show List.dropWhile _ _ = _ from h] at hhead
  exact not_le.1 (of_decide_eq_false hhead)

/-! ## Keys do not share state -/

/-- The two states agree on what is kept for the key. -/
structure SameAt (key : String) (s t : RateLimitPacerState) : Prop where
  cooldowns : s.cooldowns key = t.cooldowns key
  requests : s.requests key = t.requests key

theorem SameAt.refl (key : String) (s : RateLimitPacerState) : SameAt key s s := ⟨rfl, rfl⟩

theorem SameAt.symm (h : SameAt key s t) : SameAt key t s := ⟨h.cooldowns.symm, h.requests.symm⟩

theorem SameAt.trans {u : RateLimitPacerState} (h : SameAt key s t) (h' : SameAt key t u) :
    SameAt key s u := ⟨h.cooldowns.trans h'.cooldowns, h.requests.trans h'.requests⟩

theorem sameAt_withRequests (h : key ≠ bucket.key) (requests : List Instant) :
    SameAt key (s.withRequests bucket requests) s :=
  ⟨rfl, Function.update_of_ne h _ _⟩

theorem sameAt_warmed (h : key ≠ bucket.key) : SameAt key (s.warmed bucket) s :=
  ⟨Function.update_of_ne h _ _, rfl⟩

theorem withRequests_sameAt (h : SameAt bucket.key s t) (requests : List Instant) :
    SameAt bucket.key (s.withRequests bucket requests) (t.withRequests bucket requests) :=
  ⟨h.cooldowns, by simp [withRequests]⟩

theorem warmed_sameAt (h : SameAt bucket.key s t) :
    SameAt bucket.key (s.warmed bucket) (t.warmed bucket) :=
  ⟨by simp [warmed], h.requests⟩

/-- A call for another key leaves a key alone. -/
theorem apply_sameAt {call : PacerCall} (h : call.key ≠ key) : SameAt key (s.apply call).2 s := by
  cases call with
  | recordRateLimitAt bucket now => exact ⟨Function.update_of_ne (Ne.symm h) _ _, rfl⟩
  | reserveOrWait bucket now =>
      have h : key ≠ bucket.key := Ne.symm h
      by_cases hlimit : 0 < bucket.limit
      · have hcases := reserveOrWait_cases hlimit s now
        rcases hcases with ⟨_, -, -, heq⟩ | ⟨-, -, heq⟩ | ⟨_, _, -, -, -, heq⟩
        · exact (congrArg (SameAt key ·.2 s) heq).mpr (.refl key s)
        · exact (congrArg (SameAt key ·.2 s) heq).mpr
            ((sameAt_withRequests h _).trans (sameAt_warmed h))
        · exact (congrArg (SameAt key ·.2 s) heq).mpr
            ((sameAt_withRequests h _).trans (sameAt_warmed h))
      · have heq : s.reserveOrWait bucket now = (_, s) := if_pos (Nat.eq_zero_of_not_pos hlimit)
        exact (congrArg (SameAt key ·.2 s) heq).mpr (.refl key s)

theorem after_sameAt {others : List PacerCall} (h : ∀ c ∈ others, c.key ≠ key) :
    ∀ s : RateLimitPacerState, SameAt key (s.after others) s := by
  induction others with
  | nil => exact fun s => .refl key s
  | cons c rest ih =>
      intro s
      exact (ih (fun c hc => h c (List.mem_cons_of_mem _ hc)) _).trans
        (apply_sameAt (h c List.mem_cons_self))

/-- A call is answered, and the state of its key left, by what is kept for its key. -/
theorem reserveOrWait_congr (now : Instant) (h : SameAt bucket.key s t) :
    (s.reserveOrWait bucket now).1 = (t.reserveOrWait bucket now).1 ∧
      SameAt bucket.key (s.reserveOrWait bucket now).2 (t.reserveOrWait bucket now).2 := by
  have hqueue : s.queue bucket now = t.queue bucket now := by
    unfold queue
    rw [h.requests]
  by_cases hlimit : 0 < bucket.limit
  · rcases reserveOrWait_cases hlimit s now with ⟨untilAt, hcool, hlt, heq⟩ |
      ⟨hcool, hroom, heq⟩ | ⟨oldest, rest, hcool, hcons, hfull, heq⟩
    · rw [heq, reserveOrWait_rest hlimit (h.cooldowns ▸ hcool) hlt]
      exact ⟨rfl, h⟩
    · rw [h.cooldowns] at hcool
      have hroom' : ((t.warmed bucket).queue bucket now).length < bucket.limit := hqueue ▸ hroom
      rw [heq, reserveOrWait_pace hlimit hcool, pace_reserved hroom', hqueue]
      exact ⟨rfl, withRequests_sameAt (warmed_sameAt h) _⟩
    · rw [h.cooldowns] at hcool
      have hfull' : bucket.limit ≤ ((t.warmed bucket).queue bucket now).length := hqueue ▸ hfull
      have hcons' : (t.warmed bucket).queue bucket now = oldest :: rest := hqueue ▸ hcons
      rw [heq, reserveOrWait_pace hlimit hcool, pace_refused hcons' hfull', hqueue]
      exact ⟨rfl, withRequests_sameAt (warmed_sameAt h) _⟩
  · have hzero := Nat.eq_zero_of_not_pos hlimit
    have hs : s.reserveOrWait bucket now = (_, s) := if_pos hzero
    have ht : t.reserveOrWait bucket now = (_, t) := if_pos hzero
    rw [hs, ht]
    exact ⟨rfl, h⟩

theorem apply_congr {call : PacerCall} (h : SameAt call.key s t) :
    (s.apply call).1 = (t.apply call).1 ∧ SameAt call.key (s.apply call).2 (t.apply call).2 := by
  cases call with
  | recordRateLimitAt bucket now =>
      exact ⟨rfl, by simp [apply, recordRateLimitAt, PacerCall.key, PacerCall.bucket], h.requests⟩
  | reserveOrWait bucket now =>
      obtain ⟨hout, hsame⟩ := reserveOrWait_congr now h
      exact ⟨congrArg PacerOutcome.ofResult hout, hsame⟩

/-- **What a key sees of a run depends on the calls for that key only.** -/
theorem trace_key (key : String) (calls : List PacerCall) :
    ∀ s t : RateLimitPacerState, SameAt key s t →
      (s.trace calls).filter (fun e => decide (e.1.key = key)) =
        t.trace (calls.filter fun c => decide (c.key = key)) := by
  induction calls with
  | nil => exact fun _ _ _ => rfl
  | cons c rest ih =>
      intro s t h
      by_cases hkey : c.key = key
      · subst hkey
        obtain ⟨hout, hsame⟩ := apply_congr h
        rw [trace, List.filter_cons_of_pos (by simp), List.filter_cons_of_pos (by simp), trace,
          hout, ih _ _ hsame]
      · rw [trace, List.filter_cons_of_neg (by simpa using hkey),
          List.filter_cons_of_neg (by simpa using hkey)]
        exact ih _ _ ((apply_sameAt hkey).trans h)

/-! ## One key over a run -/

/-- What holds for a key with this limit and this window, at this time and after these grants. -/
structure Paced (limit : ℕ) (length : Duration) (key : String) (clock : Instant)
    (granted : List Instant) (s : RateLimitPacerState) : Prop where
  covers : Covers length clock granted (s.requests key)
  bounded : (s.requests key).length ≤ limit
  atMost : AtMost limit length granted

theorem Paced.empty (limit : ℕ) (length : Duration) (key : String) :
    Paced limit length key 0 [] .empty := ⟨.nil, Nat.zero_le _, .nil⟩

theorem Paced.of_sameAt {limit : ℕ} {length : Duration} {clock clock' : Instant}
    {granted : List Instant} (h : Paced limit length key clock granted s) (hle : clock ≤ clock')
    (hsame : SameAt key t s) : Paced limit length key clock' granted t :=
  ⟨by rw [hsame.requests]; exact h.covers.later hle, by rw [hsame.requests]; exact h.bounded,
    h.atMost⟩

/-- A reservation of the bucket keeps the invariant; only a grant adds to the times. -/
theorem Paced.reserveOrWait {clock : Instant} {granted : List Instant}
    (h : Paced bucket.limit bucket.pacingWindow bucket.key clock granted s)
    (hlimit : 0 < bucket.limit) (hle : clock ≤ now) :
    Paced bucket.limit bucket.pacingWindow bucket.key now
      (if (s.reserveOrWait bucket now).1 = .ok none then granted ++ [now] else granted)
      (s.reserveOrWait bucket now).2 := by
  have hcovers : Covers bucket.pacingWindow now granted (s.queue bucket now) :=
    (h.covers.later hle).evict
  have hbounded : (s.queue bucket now).length ≤ bucket.limit :=
    (List.length_dropWhile_le _ _).trans h.bounded
  rcases reserveOrWait_cases hlimit s now with ⟨untilAt, -, -, heq⟩ | ⟨-, hroom, heq⟩ |
    ⟨oldest, rest, -, -, -, heq⟩
  · rw [heq, if_neg (by rintro ⟨⟩)]
    exact h.of_sameAt hle (.refl _ s)
  · rw [heq, if_pos rfl]
    refine ⟨?_, ?_, h.atMost.push hcovers hroom⟩
    · simpa [withRequests] using hcovers.push now
    · simpa [withRequests] using Nat.succ_le_of_lt hroom
  · rw [heq, if_neg (by rintro ⟨⟩)]
    refine ⟨?_, ?_, h.atMost⟩
    · simpa [withRequests] using hcovers
    · simpa [withRequests] using hbounded

theorem ofResult_eq_reserved {r : Result (Option Duration)} :
    PacerOutcome.ofResult r = .reserved ↔ r = .ok none := by
  rcases r with m | _ | d <;> simp [PacerOutcome.ofResult]

/-- The grant of one call, if it is one for the key. -/
def granted (key : String) (call : PacerCall) (outcome : PacerOutcome) : List Instant :=
  if call.key = key ∧ outcome = .reserved then [call.now] else []

/-- One call keeps the invariant of a key whose bucket is fixed. -/
theorem Paced.apply {clock : Instant} {times : List Instant} {call : PacerCall}
    (h : Paced bucket.limit bucket.pacingWindow bucket.key clock times s)
    (hlimit : 0 < bucket.limit) (hle : clock ≤ call.now)
    (hfixed : call.key = bucket.key → call.bucket = bucket) :
    Paced bucket.limit bucket.pacingWindow bucket.key call.now
      (times ++ granted bucket.key call (s.apply call).1) (s.apply call).2 := by
  by_cases hkey : call.key = bucket.key
  · cases call with
    | recordRateLimitAt b now =>
        rw [granted, if_neg (by rintro ⟨-, ⟨⟩⟩), List.append_nil]
        exact ⟨h.covers.later hle, h.bounded, h.atMost⟩
    | reserveOrWait b now =>
        obtain rfl : b = bucket := hfixed hkey
        have hle : clock ≤ now := hle
        have hstep := h.reserveOrWait hlimit hle
        by_cases hok : (s.reserveOrWait b now).1 = .ok none
        · rw [if_pos hok] at hstep
          rw [granted, if_pos ⟨hkey, ofResult_eq_reserved.2 hok⟩]
          exact hstep
        · rw [if_neg hok] at hstep
          rw [granted, if_neg fun h => hok (ofResult_eq_reserved.1 h.2), List.append_nil]
          exact hstep
  · rw [granted, if_neg fun h => hkey h.1, List.append_nil]
    exact h.of_sameAt hle (apply_sameAt hkey)

theorem grants_cons (key : String) (call : PacerCall) (outcome : PacerOutcome)
    (events : List (PacerCall × PacerOutcome)) :
    grants key ((call, outcome) :: events) = granted key call outcome ++ grants key events := by
  unfold grants granted
  rw [List.filterMap_cons]
  by_cases h : call.key = key ∧ outcome = .reserved
  · simp only [if_pos h, List.cons_append, List.nil_append]
  · simp only [if_neg h, List.nil_append]

/-- The calls come in the order of their times. -/
abbrev Chronological (calls : List PacerCall) : Prop := calls.Pairwise fun c c' => c.now ≤ c'.now

/-- The calls for the key of this bucket are calls for this bucket. -/
abbrev Fixed (bucket : RateLimitBucket) (calls : List PacerCall) : Prop :=
  ∀ c ∈ calls, c.key = bucket.key → c.bucket = bucket

/-- The invariant of a key holds after any calls. -/
theorem Paced.run (hlimit : 0 < bucket.limit) (calls : List PacerCall) :
    ∀ {s : RateLimitPacerState} {clock : Instant} {times : List Instant},
      Paced bucket.limit bucket.pacingWindow bucket.key clock times s →
      (∀ c ∈ calls, clock ≤ c.now) → Chronological calls → Fixed bucket calls →
      ∃ clock', Paced bucket.limit bucket.pacingWindow bucket.key clock'
        (times ++ grants bucket.key (s.trace calls)) (s.after calls) := by
  induction calls with
  | nil =>
      intro s clock times h _ _ _
      exact ⟨clock, by simpa [grants, trace, after] using h⟩
  | cons c rest ih =>
      intro s clock times h hclock hchron hfixed
      obtain ⟨hfirst, hrest⟩ := List.pairwise_cons.1 hchron
      have hstep := h.apply hlimit (hclock c List.mem_cons_self) (hfixed c List.mem_cons_self)
      obtain ⟨clock', hend⟩ := ih hstep hfirst hrest fun c' hc' =>
        hfixed c' (List.mem_cons_of_mem _ hc')
      exact ⟨clock', by rw [trace, grants_cons, ← List.append_assoc]; exact hend⟩

/-! ## Rest after a rejection -/

/-- The key rests from a rate limit recorded at `r` until the cooldown is over. -/
def Resting (key : String) (r clock : Instant) (s : RateLimitPacerState) : Prop :=
  r + okxRateLimitCooldown ≤ clock ∨
    ∃ untilAt, s.cooldowns key = some untilAt ∧ r + okxRateLimitCooldown ≤ untilAt

theorem Resting.apply {r clock : Instant} {call : PacerCall} (h : Resting key r clock s)
    (hr : r ≤ clock) (hle : clock ≤ call.now) (hlimit : call.key = key → 0 < call.bucket.limit) :
    Resting key r call.now (s.apply call).2 ∧
      (call.key = key → (s.apply call).1 = .reserved → r + okxRateLimitCooldown ≤ call.now) := by
  rcases h with h | ⟨untilAt, hcool, hun⟩
  · exact ⟨.inl (h.trans hle), fun _ _ => h.trans hle⟩
  by_cases hkey : call.key = key
  · subst hkey
    cases call with
    | recordRateLimitAt b now =>
        refine ⟨.inr ⟨now + okxRateLimitCooldown, ?_, ?_⟩, fun _ h => by cases h⟩
        · simp [apply, recordRateLimitAt, PacerCall.key, PacerCall.bucket]
        · exact Nat.add_le_add_right (hr.trans hle) _
    | reserveOrWait b now =>
        have hlimit : 0 < b.limit := hlimit rfl
        have hcool : s.cooldowns b.key = some untilAt := hcool
        rcases reserveOrWait_cases hlimit s now with ⟨untilAt', hcool', hlt, heq⟩ |
          ⟨hpast, -, -⟩ | ⟨_, _, hpast, -, -, -⟩
        · refine ⟨.inr ⟨untilAt, ?_, hun⟩, fun _ hres => ?_⟩
          · show (s.reserveOrWait b now).2.cooldowns b.key = some untilAt
            rw [heq]
            exact hcool
          · have := ofResult_eq_reserved.1 hres
            rw [heq] at this
            cases this
        · exact ⟨.inl (hun.trans (hpast _ hcool)), fun _ _ => hun.trans (hpast _ hcool)⟩
        · exact ⟨.inl (hun.trans (hpast _ hcool)), fun _ _ => hun.trans (hpast _ hcool)⟩
  · refine ⟨.inr ⟨untilAt, ?_, hun⟩, fun h => absurd h hkey⟩
    rw [(apply_sameAt hkey).cooldowns]
    exact hcool

/-- No grant comes too early after a rate limit was recorded for its key. -/
theorem Resting.trace (calls : List PacerCall) :
    ∀ {s : RateLimitPacerState} {r clock : Instant}, Resting key r clock s → r ≤ clock →
      (∀ c ∈ calls, clock ≤ c.now) → Chronological calls →
      (∀ c ∈ calls, c.key = key → 0 < c.bucket.limit) →
      ∀ e ∈ s.trace calls, e.1.key = key → e.2 = .reserved →
          r + okxRateLimitCooldown ≤ e.1.now := by
  induction calls with
  | nil => exact fun _ _ _ _ _ e he => by cases he
  | cons c rest ih =>
      intro s r clock h hr hclock hchron hlimit e he hkey hres
      obtain ⟨hfirst, hrest⟩ := List.pairwise_cons.1 hchron
      have hle := hclock c List.mem_cons_self
      obtain ⟨hnext, hnow⟩ := h.apply hr hle (hlimit c List.mem_cons_self)
      rcases List.mem_cons.1 he with rfl | he
      · exact hnow hkey hres
      · exact ih hnext (hr.trans hle) hfirst hrest
          (fun c' hc' => hlimit c' (List.mem_cons_of_mem _ hc')) e he hkey hres

/-- The second event is no grant for the key of the first within its cooldown. -/
def Rested (key : String) (e e' : PacerCall × PacerOutcome) : Prop :=
  e.2 = .recorded → e.1.key = key → e'.1.key = key → e'.2 = .reserved →
    e.1.now + okxRateLimitCooldown ≤ e'.1.now

theorem trace_rested (calls : List PacerCall) : ∀ s : RateLimitPacerState, Chronological calls →
    (∀ c ∈ calls, c.key = key → 0 < c.bucket.limit) → (s.trace calls).Pairwise (Rested key) := by
  induction calls with
  | nil => exact fun _ _ _ => .nil
  | cons c rest ih =>
      intro s hchron hlimit
      obtain ⟨hfirst, hrest⟩ := List.pairwise_cons.1 hchron
      have hlimit' := fun c' hc' => hlimit c' (List.mem_cons_of_mem c hc')
      refine List.pairwise_cons.2 ⟨fun e' he' hrec hkey hkey' hres => ?_, ih _ hrest hlimit'⟩
      have hresting : Resting key c.now c.now (s.apply c).2 := by
        cases c with
        | reserveOrWait b now =>
            have hrec : PacerOutcome.ofResult (s.reserveOrWait b now).1 = .recorded := hrec
            rcases hout : (s.reserveOrWait b now).1 with m | _ | d <;>
              rw [hout] at hrec <;> cases hrec
        | recordRateLimitAt b now =>
            subst hkey
            refine .inr ⟨now + okxRateLimitCooldown, ?_, le_refl _⟩
            simp [apply, recordRateLimitAt, PacerCall.key, PacerCall.bucket]
      exact hresting.trace rest le_rfl hfirst hrest hlimit' e' he' hkey' hres

/-! ## Waits end -/

/-- A full queue has room again when its oldest reservation expires. -/
theorem reserve_after_expiry {oldest : Instant} {rest : List Instant} (hlimit : 0 < bucket.limit)
    (hcool : s.cooldowns bucket.key = none) (hqueue : s.requests bucket.key = oldest :: rest)
    (hbounded : (s.requests bucket.key).length ≤ bucket.limit) :
    (s.reserveOrWait bucket (oldest + bucket.pacingWindow)).1 = .ok none := by
  have hroom : ((s.warmed bucket).queue bucket (oldest + bucket.pacingWindow)).length <
      bucket.limit := by
    rw [hqueue] at hbounded
    unfold queue warmed
    dsimp only
    rw [hqueue, List.dropWhile_cons_of_pos (by simp)]
    exact (List.length_dropWhile_le _ _).trans_lt hbounded
  rw [reserveOrWait_pace hlimit (by rw [hcool]; rintro _ ⟨⟩), pace_reserved hroom]

/-- A reservation after another one that was refused for want of room succeeds. -/
theorem reserve_again {others : List PacerCall} {oldest : Instant} {rest : List Instant}
    (hlimit : 0 < bucket.limit) (hbounded : (s.requests bucket.key).length ≤ bucket.limit)
    (hothers : ∀ c ∈ others, c.key ≠ bucket.key) (hqueue : s.queue bucket now = oldest :: rest) :
    ((((s.warmed bucket).withRequests bucket (s.queue bucket now)).after others).reserveOrWait
      bucket (oldest + bucket.pacingWindow)).1 = .ok none := by
  have hsame := after_sameAt hothers ((s.warmed bucket).withRequests bucket (s.queue bucket now))
  have hrequests :
      ((s.warmed bucket).withRequests bucket (s.queue bucket now)).requests bucket.key =
      s.queue bucket now := by simp [withRequests]
  refine reserve_after_expiry hlimit ?_ (hsame.requests.trans (hrequests.trans hqueue)) ?_
  · rw [hsame.cooldowns]
    simp [withRequests, warmed]
  · rw [hsame.requests, hrequests]
    exact (List.length_dropWhile_le _ _).trans hbounded

/-- A refusal names a positive wait; after it, or after it and a second one, a reservation of the
bucket succeeds, whatever calls for other keys come between. -/
def RetriesSucceed (bucket : RateLimitBucket) (s : RateLimitPacerState) : Prop :=
  ∀ now, (s.reserveOrWait bucket now).1 = .ok none ∨
    ∃ d, (s.reserveOrWait bucket now).1 = .ok (some d) ∧ 0 < d ∧
      ∀ others : List PacerCall, (∀ c ∈ others, c.key ≠ bucket.key) →
        let s' := (s.reserveOrWait bucket now).2.after others
        (s'.reserveOrWait bucket (now + d)).1 = .ok none ∨
          ∃ d', (s'.reserveOrWait bucket (now + d)).1 = .ok (some d') ∧ 0 < d' ∧
            ∀ others' : List PacerCall, (∀ c ∈ others', c.key ≠ bucket.key) →
              (((s'.reserveOrWait bucket (now + d)).2.after others').reserveOrWait bucket
                (now + d + d')).1 = .ok none

theorem retriesSucceed (hlimit : 0 < bucket.limit)
    (hbounded : (s.requests bucket.key).length ≤ bucket.limit) : RetriesSucceed bucket s := by
  intro now
  rcases reserveOrWait_cases hlimit s now with ⟨untilAt, hcool, hlt, heq⟩ | ⟨-, -, heq⟩ |
    ⟨oldest, rest, -, hcons, -, heq⟩
  · refine .inr ⟨untilAt - now, by rw [heq], Nat.sub_pos_of_lt hlt, fun others hothers => ?_⟩
    rw [heq, Nat.add_sub_cancel' hlt.le]
    have hsame := after_sameAt hothers s
    generalize s.after others = s' at hsame
    have hbounded' : (s'.requests bucket.key).length ≤ bucket.limit := hsame.requests ▸ hbounded
    rcases reserveOrWait_cases hlimit s' untilAt with ⟨untilAt', hcool', hlt', -⟩ | ⟨-, -, heq'⟩ |
      ⟨oldest, rest, -, hcons', -, heq'⟩
    · rw [hsame.cooldowns, hcool] at hcool'
      cases hcool'
      exact absurd hlt' (lt_irrefl _)
    · exact .inl (by rw [heq'])
    · have hpos := lt_of_queue_eq_cons hcons'
      refine .inr ⟨oldest + bucket.pacingWindow - untilAt, by rw [heq'], Nat.sub_pos_of_lt hpos,
        fun others' hothers' => ?_⟩
      rw [heq', Nat.add_sub_cancel' hpos.le]
      exact reserve_again hlimit hbounded' hothers' hcons'
  · exact .inl (by rw [heq])
  · have hpos := lt_of_queue_eq_cons hcons
    refine .inr ⟨oldest + bucket.pacingWindow - now, by rw [heq], Nat.sub_pos_of_lt hpos,
      fun others hothers => .inl ?_⟩
    rw [heq, Nat.add_sub_cancel' hpos.le]
    exact reserve_again hlimit hbounded hothers hcons

end RateLimitPacerState

/-! ## The buckets of the client -/

theorem scopeKey_prefix {rule : OkxRateLimitRule} (h : rule ∈ okxRateLimitRules)
    (scope : String) : (rule.scopeKey scope).toList.takeWhile (· ≠ '|') =
      rule.method.toList ++ ' ' :: rule.path.toList := by
  have hclean : ∀ rule ∈ okxRateLimitRules,
      '|' ∉ rule.method.toList ++ ' ' :: rule.path.toList := by decide +kernel
  have hkey : (rule.scopeKey scope).toList =
      (rule.method.toList ++ ' ' :: rule.path.toList) ++ '|' :: scope.toList := by
    simp [OkxRateLimitRule.scopeKey]
  have hne : ∀ c ∈ rule.method.toList ++ ' ' :: rule.path.toList, c ≠ '|' :=
    fun c hc heq => hclean rule h (heq ▸ hc)
  rw [hkey, List.takeWhile_append_of_pos fun c hc => by simpa using hne c hc]
  simp

/-- The limit and the window of a bucket are those of its rule, whatever its key. -/
theorem bucket_eq_ok {rule : OkxRateLimitRule} {query bodyInstId : Option String}
    {bucket : RateLimitBucket} (h : rule.bucket query bodyInstId = .ok bucket) :
    bucket.limit = rule.limit ∧
      bucket.window = (if rule.scope = .userTag then okxCancelAllAfterRateLimitWindow
        else okxRateLimitWindow) ∧
      ∃ scope, bucket.key = rule.scopeKey scope := by
  unfold OkxRateLimitRule.bucket at h
  split at h
  all_goals
    rename_i hscope
    rw [hscope]
    simp only [bind_eq_ok, pure_eq_ok] at h
  · subst h; exact ⟨rfl, rfl, _, rfl⟩
  · obtain ⟨_, -, rfl⟩ := h; exact ⟨rfl, rfl, _, rfl⟩
  · subst h; exact ⟨rfl, rfl, _, rfl⟩
  · obtain ⟨_, -, rfl⟩ := h; exact ⟨rfl, rfl, _, rfl⟩
  · obtain ⟨_, -, rfl⟩ := h; exact ⟨rfl, rfl, _, rfl⟩
  · subst h; exact ⟨rfl, rfl, _, rfl⟩

theorem okxRateLimitBucket_rule {method path : String} {query bodyInstId : Option String}
    {bucket : RateLimitBucket} (h : okxRateLimitBucket method path query bodyInstId = .ok bucket) :
    ∃ rule ∈ okxRateLimitRules, rule.bucket query bodyInstId = .ok bucket := by
  unfold okxRateLimitBucket at h
  split at h
  · rename_i rule hfind
    exact ⟨rule, List.mem_of_find?_eq_some hfind, h⟩
  · cases h

/-- **The key of a request fixes its bucket**, and every bucket has a positive limit. -/
theorem okxRateLimitBucket_fixed {method path method' path' : String}
    {query bodyInstId query' bodyInstId' : Option String} {bucket bucket' : RateLimitBucket}
    (h : okxRateLimitBucket method path query bodyInstId = .ok bucket)
    (h' : okxRateLimitBucket method' path' query' bodyInstId' = .ok bucket') :
    0 < bucket.limit ∧ (bucket.key = bucket'.key → bucket = bucket') := by
  have hpositive : ∀ rule ∈ okxRateLimitRules, 0 < rule.limit := by decide
  have hdistinct : (okxRateLimitRules.map fun rule => rule.method ++ " " ++ rule.path).Nodup := by
    decide +kernel
  obtain ⟨rule, hmem, hbucket⟩ := okxRateLimitBucket_rule h
  obtain ⟨rule', hmem', hbucket'⟩ := okxRateLimitBucket_rule h'
  obtain ⟨hlimit, hwindow, scope, hkey⟩ := bucket_eq_ok hbucket
  obtain ⟨hlimit', hwindow', scope', hkey'⟩ := bucket_eq_ok hbucket'
  refine ⟨hlimit ▸ hpositive rule hmem, fun heq => ?_⟩
  have hname : rule.method ++ " " ++ rule.path = rule'.method ++ " " ++ rule'.path := by
    have hprefix := scopeKey_prefix hmem scope
    rw [← hkey, heq, hkey', scopeKey_prefix hmem' scope'] at hprefix
    exact String.toList_injective (by simpa using hprefix.symm)
  obtain rfl : rule = rule' := List.inj_on_of_nodup_map hdistinct hmem hmem' hname
  cases bucket
  cases bucket'
  simp only [RateLimitBucket.mk.injEq]
  exact ⟨heq, hlimit.trans hlimit'.symm, hwindow.trans hwindow'.symm⟩

/-! ## The guarantees -/

open RateLimitPacerState

/-- What the pacer promises the callers of a bucket after these calls. -/
structure PacerGuarantees (bucket : RateLimitBucket) (calls : List PacerCall) : Prop where
  /-- No window of the pacing length holds more grants than the limit. -/
  window : AtMost bucket.limit bucket.pacingWindow (grants bucket.key (empty.trace calls))
  /-- No grant within the cooldown after a recorded rate limit. -/
  rested : (empty.trace calls).Pairwise (Rested bucket.key)
  /-- The outcomes are those of the calls for the key alone. -/
  independent : (empty.trace calls).filter (fun e => decide (e.1.key = bucket.key)) =
    empty.trace (calls.filter fun c => decide (c.key = bucket.key))
  /-- A refused caller is served after at most two waits. -/
  progress : RetriesSucceed bucket (empty.after calls)

/-- **The pacer keeps its limits and makes progress.**  Over any interleaving of calls in the order
of their times, for every bucket whose limit and window are fixed. -/
theorem pacer_guarantees (bucket : RateLimitBucket) (hlimit : 0 < bucket.limit)
    (calls : List PacerCall) (hchron : Chronological calls) (hfixed : Fixed bucket calls) :
    PacerGuarantees bucket calls := by
  obtain ⟨clock, hpaced⟩ := Paced.run hlimit calls (.empty _ _ _) (fun _ _ => Nat.zero_le _)
    hchron hfixed
  refine ⟨hpaced.atMost, trace_rested calls _ hchron fun c hc hkey => ?_,
    trace_key _ calls _ _ (.refl _ _), retriesSucceed hlimit hpaced.bounded⟩
  rw [hfixed c hc hkey]
  exact hlimit

/-- A bucket of two in a tenth of a second, and one of another key. -/
theorem pacer_guarantees_burst :
    (empty.trace [.reserveOrWait ⟨"a", 2, millis 100⟩ 0,
      .reserveOrWait ⟨"a", 2, millis 100⟩ (millis 10), .recordRateLimitAt ⟨"b", 1, 0⟩ (millis 20),
      .reserveOrWait ⟨"a", 2, millis 100⟩ (millis 20)]).map Prod.snd =
      [.reserved, .reserved, .recorded, .wait (millis 130)] ∧
    PacerGuarantees ⟨"a", 2, millis 100⟩ [.reserveOrWait ⟨"a", 2, millis 100⟩ 0,
      .reserveOrWait ⟨"a", 2, millis 100⟩ (millis 10), .recordRateLimitAt ⟨"b", 1, 0⟩ (millis 20),
      .reserveOrWait ⟨"a", 2, millis 100⟩ (millis 20)] :=
  ⟨by decide +kernel, pacer_guarantees _ (by decide) _ (by decide +kernel) (by decide +kernel)⟩

end OkxTrading
