import Mathlib.Algebra.Order.Monoid.Defs
import Mathlib.Data.List.TakeWhile

/-!
# Sliding windows

Times of events and the half-open windows of one length over them, for limiters that keep the
recent times in a queue.

* `AtMost` — no window, wherever it begins, holds more than a number of events.
* `Covers` — a queue that has only lost events too old to share a window with the present.
* `AtMost.push` — an event while the queue has room keeps every window within the limit.
-/

namespace Pacing

variable {T : Type} [Add T] [LinearOrder T] {limit : ℕ} {length now : T} {times queue : List T}

/-- The times in the window of this length that begins at `t`. -/
def window (length t : T) (times : List T) : List T :=
  times.filter fun x => decide (t ≤ x) && decide (x < t + length)

/-- No window holds more than `limit` of the times. -/
def AtMost (limit : ℕ) (length : T) (times : List T) : Prop :=
  ∀ t, (window length t times).length ≤ limit

/-- The queue ends the list of times, and what it has lost is older than a window. -/
def Covers (length now : T) (times queue : List T) : Prop :=
  ∃ old, times = old ++ queue ∧ ∀ x ∈ old, x + length ≤ now

theorem window_append (length t : T) (xs ys : List T) :
    window length t (xs ++ ys) = window length t xs ++ window length t ys := List.filter_append ..

theorem window_length_le (length t : T) (xs : List T) :
    (window length t xs).length ≤ xs.length := List.length_filter_le ..

theorem AtMost.nil : AtMost limit length [] := fun _ => Nat.zero_le _

theorem Covers.nil : Covers length now [] [] := ⟨[], rfl, fun _ h => by cases h⟩

theorem Covers.later {now' : T} (h : Covers length now times queue) (hle : now ≤ now') :
    Covers length now' times queue := by
  obtain ⟨old, heq, hold⟩ := h
  exact ⟨old, heq, fun x hx => (hold x hx).trans hle⟩

theorem Covers.push (h : Covers length now times queue) (x : T) :
    Covers length now (times ++ [x]) (queue ++ [x]) := by
  obtain ⟨old, rfl, hold⟩ := h
  exact ⟨old, List.append_assoc .., hold⟩

/-- Events that have left every window that is still open may leave the queue. -/
theorem Covers.evict (h : Covers length now times queue) :
    Covers length now times (queue.dropWhile fun x => decide (x + length ≤ now)) := by
  obtain ⟨old, rfl, hold⟩ := h
  refine ⟨old ++ queue.takeWhile fun x => decide (x + length ≤ now), ?_, fun x hx => ?_⟩
  · rw [List.append_assoc, List.takeWhile_append_dropWhile]
  · rcases List.mem_append.1 hx with hx | hx
    · exact hold x hx
    · have := List.mem_takeWhile_imp hx
      exact of_decide_eq_true this

/-- **An event while the queue has room keeps every window within the limit.** -/
theorem AtMost.push [AddRightReflectLT T] (h : AtMost limit length times)
    (hcovers : Covers length now times queue) (hroom : queue.length < limit) :
    AtMost limit length (times ++ [now]) := by
  intro t
  by_cases hin : t ≤ now ∧ now < t + length
  · obtain ⟨old, rfl, hold⟩ := hcovers
    have hempty : window length t old = [] := by
      refine List.filter_eq_nil_iff.2 fun x hx hwin => ?_
      simp only [Bool.and_eq_true, decide_eq_true_eq] at hwin
      have hbefore : x + length < t + length := (hold x hx).trans_lt hin.2
      exact absurd hwin.1 (not_le.2 (lt_of_add_lt_add_right hbefore))
    rw [window_append, window_append, hempty, List.nil_append, List.length_append]
    have hqueue := window_length_le length t queue
    have hlast := window_length_le length t [now]
    simp only [List.length_singleton] at hlast
    omega
  · have hlast : window length t [now] = [] := by
      refine List.filter_eq_nil_iff.2 fun x hx hwin => ?_
      cases List.mem_singleton.1 hx
      simp only [Bool.and_eq_true, decide_eq_true_eq] at hwin
      exact hin hwin
    rw [window_append, hlast, List.append_nil]
    exact h t

end Pacing
