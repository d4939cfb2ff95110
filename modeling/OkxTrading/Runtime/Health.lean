import Mathlib.Data.Finset.Max
import Mathlib.Data.Prod.Lex
import OkxTrading.Okx.Decimal

/-!
# Health of the WebSocket streams

Lifecycle events of `okx/websocket/health.rs` and the readiness kept of them in
`app/websocket_health_tracker.rs`.  The parts of an event that are only logged are left out.

* `OkxWebsocketStreamIdentity`, `OkxWebsocketHealthEvent` — who reports, and what.
* `WebsocketHealthTracker` — the streams that are ready; `record` — one event.
* `startupReadinessError_isSome` — when the tracker stops the startup.
* `mem_ready_record` — a stream is ready where its last event was a subscription acknowledgement.
-/

namespace OkxTrading

/-- Which endpoint a stream connects to. -/
inductive OkxWebsocketStreamKind where
  | publicKind
  | privateKind
  | businessKind
  deriving DecidableEq, Repr

def OkxWebsocketStreamKind.asStr : OkxWebsocketStreamKind → Message
  | .publicKind => "public"
  | .privateKind => "private"
  | .businessKind => "business"

/-- What a stream carries. -/
inductive OkxWebsocketChannelClass where
  | publicMarketData
  | publicCandles
  | privateTrading
  | privateAlgoOrders
  deriving DecidableEq, Repr

def OkxWebsocketChannelClass.asStr : OkxWebsocketChannelClass → Message
  | .publicMarketData => "public_market_data"
  | .publicCandles => "public_candles"
  | .privateTrading => "private_trading"
  | .privateAlgoOrders => "private_algo_orders"

/-- `OkxWebsocketStreamIdentity`: what the reports of a stream are told apart by. -/
structure OkxWebsocketStreamIdentity where
  kind : OkxWebsocketStreamKind
  channelClass : OkxWebsocketChannelClass
  instrumentCount : ℕ
  deriving DecidableEq, Repr

namespace OkxWebsocketStreamIdentity

/-- The fields in their order, and of the kinds and classes the places in theirs. -/
def sortKey (self : OkxWebsocketStreamIdentity) : ℕ ×ₗ ℕ ×ₗ ℕ :=
  toLex (self.kind.ctorIdx, toLex (self.channelClass.ctorIdx, self.instrumentCount))

theorem sortKey_injective : Function.Injective sortKey := by
  rintro ⟨kind, channelClass, count⟩ ⟨kind', channelClass', count'⟩ h
  have hkey : (kind.ctorIdx, toLex (channelClass.ctorIdx, count)) =
      (kind'.ctorIdx, toLex (channelClass'.ctorIdx, count')) := h
  obtain ⟨hkind, hrest⟩ := Prod.mk.inj hkey
  have hpair : (channelClass.ctorIdx, count) = (channelClass'.ctorIdx, count') := hrest
  obtain ⟨hclass, rfl⟩ := Prod.mk.inj hpair
  have hk : kind = kind' := by revert hkind; cases kind <;> cases kind' <;> decide
  have hc : channelClass = channelClass' := by
    revert hclass
    cases channelClass <;> cases channelClass' <;> decide
  rw [hk, hc]

/-- The derived `Ord`. -/
instance : LinearOrder OkxWebsocketStreamIdentity := LinearOrder.lift' sortKey sortKey_injective

end OkxWebsocketStreamIdentity

/-- What a stream reports. -/
inductive OkxWebsocketHealthEventKind where
  | connectAttempt
  | connected
  | loginAckSucceeded
  | loginFailed
  | subscriptionAckSucceeded
  | subscriptionAckFailed
  | reconnectScheduled
  | streamDisconnectedAfterSubscription
  | streamFailedBeforeSubscription
  | streamFailedAfterSubscription
  | streamTaskPanicked
  | streamTaskExitedUnexpectedly
  deriving DecidableEq, Repr

namespace OkxWebsocketHealthEventKind

/-- `is_critical_websocket_health_event`. -/
def isCritical : OkxWebsocketHealthEventKind → Bool
  | .loginFailed | .subscriptionAckSucceeded | .subscriptionAckFailed
  | .streamDisconnectedAfterSubscription | .streamFailedBeforeSubscription
  | .streamFailedAfterSubscription | .streamTaskPanicked | .streamTaskExitedUnexpectedly => true
  | .connectAttempt | .connected | .loginAckSucceeded | .reconnectScheduled => false

/-- The events after which the engine asks for a reconciliation. -/
def requestsReconciliation : OkxWebsocketHealthEventKind → Bool
  | .subscriptionAckSucceeded | .streamDisconnectedAfterSubscription
  | .streamFailedAfterSubscription => true
  | _ => false

/-- The failures that count before a stream was ever ready. -/
def failsBeforeReady : OkxWebsocketHealthEventKind → Bool
  | .loginFailed | .subscriptionAckFailed | .streamFailedBeforeSubscription
  | .streamTaskPanicked | .streamTaskExitedUnexpectedly => true
  | _ => false

end OkxWebsocketHealthEventKind

/-- A report of a stream. -/
structure OkxWebsocketHealthEvent where
  kind : OkxWebsocketHealthEventKind
  stream : OkxWebsocketStreamIdentity
  deriving DecidableEq, Repr

/-- `WebsocketHealthTracker`, with sets for the hash sets of the source. -/
structure WebsocketHealthTracker where
  expectedStreams : Finset OkxWebsocketStreamIdentity
  mandatoryStreams : Finset OkxWebsocketStreamIdentity
  readyStreams : Finset OkxWebsocketStreamIdentity
  everReadyStreams : Finset OkxWebsocketStreamIdentity
  failedBeforeReadyStreams : Finset OkxWebsocketStreamIdentity
  deriving DecidableEq

namespace WebsocketHealthTracker

/-- The tracker before any report; every stream is mandatory. -/
def new (streams : Finset OkxWebsocketStreamIdentity) : WebsocketHealthTracker where
  expectedStreams := streams
  mandatoryStreams := streams
  readyStreams := ∅
  everReadyStreams := ∅
  failedBeforeReadyStreams := ∅

/-- `record`: a stream that is not expected changes nothing. -/
def record (self : WebsocketHealthTracker) (event : OkxWebsocketHealthEvent) :
    WebsocketHealthTracker :=
  if event.stream ∉ self.expectedStreams then self
  else if event.kind = .subscriptionAckSucceeded then
    { self with
      readyStreams := insert event.stream self.readyStreams
      everReadyStreams := insert event.stream self.everReadyStreams
      failedBeforeReadyStreams := self.failedBeforeReadyStreams.erase event.stream }
  else if event.kind.failsBeforeReady ∧ event.stream ∉ self.everReadyStreams then
    { self with
      readyStreams := self.readyStreams.erase event.stream
      failedBeforeReadyStreams := insert event.stream self.failedBeforeReadyStreams }
  else { self with readyStreams := self.readyStreams.erase event.stream }

/-- The streams that failed before they were ready. -/
def failedMandatoryStreams (self : WebsocketHealthTracker) : Finset OkxWebsocketStreamIdentity :=
  self.mandatoryStreams.filter fun stream =>
    stream ∈ self.failedBeforeReadyStreams ∧ stream ∉ self.readyStreams

/-- The first of the streams that failed; a `BTreeSet` is walked in order. -/
def firstFailed (self : WebsocketHealthTracker) : Option OkxWebsocketStreamIdentity :=
  self.failedMandatoryStreams.min

/-- The error names the first failed stream and how many there are. -/
def startupReadinessError (self : WebsocketHealthTracker) : Option Message :=
  self.firstFailed.map fun first =>
    s!"{self.failedMandatoryStreams.card} mandatory OKX WebSocket stream(s) failed before " ++
    s!"subscription readiness; first failed stream: OKX {first.kind.asStr} WebSocket " ++
    s!"{first.channelClass.asStr} with {first.instrumentCount} instrument(s)"

/-- Every mandatory stream is ready. -/
def allMandatoryStreamsReady (self : WebsocketHealthTracker) : Prop :=
  self.mandatoryStreams ⊆ self.readyStreams

instance (self : WebsocketHealthTracker) : Decidable self.allMandatoryStreamsReady :=
  inferInstanceAs (Decidable (self.mandatoryStreams ⊆ self.readyStreams))

variable {self : WebsocketHealthTracker} {event : OkxWebsocketHealthEvent}
  {stream : OkxWebsocketStreamIdentity}

/-- The startup is stopped where a stream that must be ready failed before it was. -/
theorem startupReadinessError_isSome : self.startupReadinessError.isSome = true ↔
    ∃ stream ∈ self.mandatoryStreams,
      stream ∈ self.failedBeforeReadyStreams ∧ stream ∉ self.readyStreams := by
  rw [startupReadinessError, Option.isSome_map, Option.isSome_iff_exists]
  constructor
  · rintro ⟨first, hfirst⟩
    exact ⟨first, Finset.mem_filter.1 (Finset.mem_of_min hfirst)⟩
  · rintro ⟨stream, hstream⟩
    exact Finset.min_of_mem (Finset.mem_filter.2 hstream)

@[simp] theorem expectedStreams_record :
    (self.record event).expectedStreams = self.expectedStreams := by
  unfold record
  split_ifs <;> rfl

@[simp] theorem mandatoryStreams_record :
    (self.record event).mandatoryStreams = self.mandatoryStreams := by
  unfold record
  split_ifs <;> rfl

/-- **Readiness follows the last event**: a stream is ready where it is an acknowledgement. -/
theorem mem_ready_record (hexpected : stream ∈ self.expectedStreams) :
    stream ∈ (self.record event).readyStreams ↔
      if event.stream = stream then event.kind = .subscriptionAckSucceeded
      else stream ∈ self.readyStreams := by
  unfold record
  by_cases hstream : event.stream = stream
  · subst hstream
    simp only [hexpected, not_true_eq_false, if_false, if_true]
    split_ifs <;> simp_all
  · have hother : stream ≠ event.stream := fun h => hstream h.symm
    split_ifs <;> simp [hother]

end WebsocketHealthTracker

/-- `websocket_task_lifecycle_error`. -/
def websocketTaskLifecycleError (event : OkxWebsocketHealthEvent) : Option Message :=
  let stream := s!"OKX {event.stream.kind.asStr} WebSocket {event.stream.channelClass.asStr} "
  match event.kind with
  | .streamTaskPanicked => some (stream ++ "stream task panicked")
  | .streamTaskExitedUnexpectedly => some (stream ++ "stream task exited unexpectedly")
  | _ => none

end OkxTrading
