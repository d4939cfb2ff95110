import OkxTrading.Websocket.PrivateEvents

/-!
# A private message and its events

The rows of a private message reach the cache one by one, and each is checked once more on its way.
What the cache accepted is announced after the last row only, so a row that is rejected takes the
events of the rows before it along.

* `acceptedRows` — the rows the cache accepts, up to the first it rejects.
* `private_message_all_or_nothing` — when a message changes the cache exactly as it announces.
-/

namespace OkxTrading

open Effect OkxPrivateEventHint

/-- The rows of a message that is not refused whole. -/
def privateRows (authority : OkxPrivateEventAuthority) (payload : Option OkxWebsocketPrivateMessage)
    (receivedAt : Instant) : List OkxPrivateEventHint :=
  match parsePrivateEventMessageWithAuthority authority payload receivedAt with
  | .error _ => []
  | .ok rows => rows

/-- The rows whose hints the cache accepts, in order, up to the first row it rejects. -/
def acceptedRows (walks : ℕ → PrivateWalks) (cache : OkxPrivateEventState) :
    List OkxPrivateEventHint → List OkxPrivateEventHint
  | [] => []
  | event :: rest =>
      match event.update (walks 0) cache with
      | (.error _, _) => []
      | (.ok accepted, cache) =>
          (if accepted then [event] else []) ++ acceptedRows (fun n => walks (n + 1)) cache rest

/-- A message that fails leaves the cache as it is and no row in it; one that succeeds announces the
rows the cache accepted, in their order. -/
structure AllOrNothing (authority : OkxPrivateEventAuthority) (walks : ℕ → PrivateWalks)
    (cache : OkxPrivateEventState) (payload : Option OkxWebsocketPrivateMessage)
    (receivedAt : Instant) : Prop where
  failed : ∀ e after,
    applyPrivateEventMessageInner authority walks cache payload receivedAt = (.error e, after) →
    after = cache ∧ acceptedRows walks cache (privateRows authority payload receivedAt) = []
  applied : ∀ applied after,
    applyPrivateEventMessageInner authority walks cache payload receivedAt = (.ok applied, after) →
    applied.runtimeEvents =
      (acceptedRows walks cache (privateRows authority payload receivedAt)).map runtimeEvent

/-- No row is rejected, or all rows before the first that is are ignored. -/
def NothingBeforeRejection (cache : OkxPrivateEventState) (rows : List OkxPrivateEventHint) :
    Prop :=
  (∀ event ∈ rows, event.checked.isOk = true) ∨
  ∀ event ∈ rows.takeWhile (·.checked.isOk), event.isIgnored cache = true

/-! ## The run over the rows -/

section Run

variable (walks : ℕ → PrivateWalks) (cache : OkxPrivateEventState)
  (rows : List OkxPrivateEventHint)

/-- Rows that are all valid are announced as they are accepted. -/
theorem applyPrivateHints_ok (hvalid : ∀ event ∈ rows, event.checked.isOk = true) :
    (applyPrivateHints walks cache rows).1 =
      .ok ((acceptedRows walks cache rows).map runtimeEvent) := by
  induction rows generalizing walks cache with
  | nil => rfl
  | cons event rest ih =>
    have hevent := hvalid event List.mem_cons_self
    have hrest := ih (fun n => walks (n + 1))
    rcases event.update_cases (walks 0) cache with ⟨e, hchecked, -⟩ | ⟨-, -, hupdate⟩ |
      ⟨-, -, cache', hupdate⟩
    · simp [hchecked, Except.isOk, Except.toBool] at hevent
    · simp only [applyPrivateHints, acceptedRows, hupdate, Except.map,
        hrest cache fun event h => hvalid event (List.mem_cons_of_mem _ h)]
      rfl
    · simp only [applyPrivateHints, acceptedRows, hupdate, Except.map,
        hrest cache' fun event h => hvalid event (List.mem_cons_of_mem _ h)]
      rfl

/-- One invalid row fails the message. -/
theorem applyPrivateHints_error {event : OkxPrivateEventHint} (hmem : event ∈ rows)
    (hinvalid : event.checked.isOk = false) :
    ∃ e, (applyPrivateHints walks cache rows).1 = .error e := by
  induction rows generalizing walks cache with
  | nil => exact absurd hmem List.not_mem_nil
  | cons first rest ih =>
    rcases first.update_cases (walks 0) cache with ⟨e, -, hupdate⟩ | ⟨hchecked, -, hupdate⟩ |
      ⟨hchecked, -, cache', hupdate⟩
    · exact ⟨e, by simp only [applyPrivateHints, hupdate]⟩
    all_goals
      have hrest : event ∈ rest := by
        rcases List.mem_cons.1 hmem with rfl | h
        · rw [hchecked] at hinvalid
          cases hinvalid
        · exact h
    · obtain ⟨e, he⟩ := ih (fun n => walks (n + 1)) cache hrest
      exact ⟨e, by simp only [applyPrivateHints, hupdate, he, Except.map]⟩
    · obtain ⟨e, he⟩ := ih (fun n => walks (n + 1)) cache' hrest
      exact ⟨e, by simp only [applyPrivateHints, hupdate, he, Except.map]⟩

/-- Nothing is accepted exactly when every row before the first invalid one is ignored. -/
theorem acceptedRows_eq_nil :
    acceptedRows walks cache rows = [] ↔
      ∀ event ∈ rows.takeWhile (·.checked.isOk), event.isIgnored cache = true := by
  induction rows generalizing walks with
  | nil => simp [acceptedRows]
  | cons event rest ih =>
    rcases event.update_cases (walks 0) cache with ⟨e, hchecked, hupdate⟩ |
      ⟨hchecked, hignored, hupdate⟩ | ⟨hchecked, hignored, cache', hupdate⟩
    · simp [acceptedRows, hupdate, hchecked, Except.isOk, Except.toBool]
    · simp [acceptedRows, hupdate, hchecked, Except.isOk, Except.toBool, hignored,
        ih fun n => walks (n + 1)]
    · simp [acceptedRows, hupdate, hchecked, Except.isOk, Except.toBool, hignored]

/-- Only an accepted row changes the cache. -/
theorem cache_of_acceptedRows_nil (h : acceptedRows walks cache rows = []) :
    (applyPrivateHints walks cache rows).2 = cache := by
  induction rows generalizing walks with
  | nil => rfl
  | cons event rest ih =>
    rcases event.update_cases (walks 0) cache with ⟨e, -, hupdate⟩ | ⟨-, -, hupdate⟩ |
      ⟨-, -, cache', hupdate⟩
    · simp only [applyPrivateHints, hupdate]
    · simp only [acceptedRows, hupdate, Bool.false_eq_true, if_false, List.nil_append] at h
      simp only [applyPrivateHints, hupdate, ih (fun n => walks (n + 1)) h]
    · simp only [acceptedRows, hupdate, if_true, List.singleton_append, reduceCtorEq] at h

end Run

/-! ## The message -/

/-- **A private message is applied all or nothing exactly when no row before its first rejected row
is accepted.** -/
theorem private_message_all_or_nothing (authority : OkxPrivateEventAuthority)
    (walks : ℕ → PrivateWalks) (cache : OkxPrivateEventState)
    (payload : Option OkxWebsocketPrivateMessage) (receivedAt : Instant) :
    AllOrNothing authority walks cache payload receivedAt ↔
      NothingBeforeRejection cache (privateRows authority payload receivedAt) := by
  cases hparse : parsePrivateEventMessageWithAuthority authority payload receivedAt with
  | error e =>
    -- A payload refused whole has no rows.
    have hrows : privateRows authority payload receivedAt = [] := by simp only [privateRows, hparse]
    have hinner : applyPrivateEventMessageInner authority walks cache payload receivedAt =
        (.error e, cache) := by simp only [applyPrivateEventMessageInner, hparse]
    refine ⟨fun _ => .inl (by simp [hrows]), fun _ => ⟨fun e' after h => ?_, fun _ _ h => ?_⟩⟩
    · rw [hinner, Prod.mk.injEq] at h
      exact ⟨h.2.symm, by rw [hrows]; rfl⟩
    · rw [hinner] at h
      cases h
  | ok rows =>
    have hrows : privateRows authority payload receivedAt = rows := by
      simp only [privateRows, hparse]
    have hinner : applyPrivateEventMessageInner authority walks cache payload receivedAt =
        ((applyPrivateHints walks cache rows).1.map fun events => ⟨rows.length, events⟩,
          (applyPrivateHints walks cache rows).2) := by
      simp only [applyPrivateEventMessageInner, hparse]
    rw [hrows]
    by_cases hvalid : ∀ event ∈ rows, event.checked.isOk = true
    · refine ⟨fun _ => .inl hvalid, fun _ => ⟨fun e after h => ?_, fun applied after h => ?_⟩⟩ <;>
        rw [hinner, applyPrivateHints_ok walks cache rows hvalid, Prod.mk.injEq] at h
      · cases h.1
      · rw [hrows]
        have happlied := h.1
        simp only [Except.map, Except.ok.injEq] at happlied
        rw [← happlied]
    · have hinvalid := hvalid
      push Not at hinvalid
      obtain ⟨event, hmem, hinvalid⟩ := hinvalid
      obtain ⟨e, he⟩ := applyPrivateHints_error walks cache rows hmem (by simpa using hinvalid)
      rw [he] at hinner
      constructor
      · intro h
        have hnone := (h.failed e _ hinner).2
        rw [hrows] at hnone
        exact .inr ((acceptedRows_eq_nil walks cache rows).1 hnone)
      · rintro (h | h)
        · exact absurd h hvalid
        · have hnone := (acceptedRows_eq_nil walks cache rows).2 h
          refine ⟨fun e' after h' => ?_, fun applied after h' => ?_⟩
          · rw [hinner, Prod.mk.injEq] at h'
            rw [hrows]
            exact ⟨by rw [← h'.2, cache_of_acceptedRows_nil walks cache rows hnone], hnone⟩
          · rw [hinner] at h'
            cases h'

/-! ### A message with two orders -/

/-- A hash map walked in the order of its entries. -/
def entryWalk (Key Row : Type) : PrivateHintWalk Key Row := ⟨(·.entries), fun _ => .refl _⟩

def entryWalks : ℕ → PrivateWalks := fun _ => ⟨entryWalk _ _, entryWalk _ _, entryWalk _ _⟩

def btcAuthority : OkxPrivateEventAuthority where
  instrumentIds := ["BTC-USDT".toList]
  instrumentType := spotText
  algoSubscriptionSelector := .spot
  streamKind := .trading

def pushedOrder (clientOrderId : Text) (state : OrderState) : OkxPrivateOrder where
  clientOrderId := clientOrderId
  side := some .buy
  orderType := some .postOnly
  price := .value 100
  state := state
  averagePrice := .value 0
  accumulatedFillSize := .value 0
  fee := .blank
  feeCurrency := []
  rebate := .blank
  rebateCurrency := []
  sz := .value (1 / 500)
  createdAt := some 1710000000000
  instType := spotText
  instId := "BTC-USDT".toList
  orderId := "7".toList
  createdAtText := "1710000000000".toList
  updatedAtText := "1710000000123".toList

/-- Two orders of one instrument; the state of the second is none OKX documents. -/
def ordersMessage : OkxWebsocketPrivateMessage where
  event := none
  code := none
  arg := some ⟨okxPrivateOrdersChannel, some spotText, some "BTC-USDT".toList⟩
  data := some
    { orders := some [pushedOrder "entry1".toList .live,
        pushedOrder "entry2".toList (.other "pending_cancel".toList)]
      fills := none
      accounts := none
      algoOrders := none }

/-- The message fails, and its first order is in the cache with no event. -/
theorem failed_message_changes_cache :
    ¬ AllOrNothing btcAuthority entryWalks .default (some ordersMessage) 0 := by
  intro h
  have hfails : (applyPrivateEventMessageInner btcAuthority entryWalks .default
      (some ordersMessage) 0).1 =
        .error "OKX private WebSocket order returned order with undocumented state" := by
    decide +kernel
  have haccepted : acceptedRows entryWalks .default
      (privateRows btcAuthority (some ordersMessage) 0) ≠ [] := by
    decide +kernel
  exact haccepted (h.failed _ _ (Prod.ext hfails rfl)).2

end OkxTrading
