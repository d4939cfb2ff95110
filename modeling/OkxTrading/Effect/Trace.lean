import Mathlib.Data.List.Basic

/-!
# Runs and what they answered

A system takes calls one after another and answers each; where a call has no answer the run ends
without a state.

* `trace` — the calls with their answers, and the state after them.
* `trace_induction` — what holds at the start and is kept by every call holds after every run.
-/

namespace Effect

variable {σ γ ρ : Type} {step : σ → γ → Option (ρ × σ)} {s s' : σ} {calls : List γ}
  {t : List (γ × ρ)}

/-- The calls with their answers, and the state after them. -/
def trace (step : σ → γ → Option (ρ × σ)) : σ → List γ → Option (List (γ × ρ) × σ)
  | s, [] => some ([], s)
  | s, call :: rest =>
      match step s call with
      | none => none
      | some (answer, next) => (trace step next rest).map fun later =>
          ((call, answer) :: later.1, later.2)

theorem trace_cons {call : γ} :
    trace step s (call :: calls) = some (t, s') ↔ ∃ answer next later,
      step s call = some (answer, next) ∧ trace step next calls = some (later, s') ∧
        t = (call, answer) :: later := by
  rw [trace]
  cases hstep : step s call with
  | none => simp
  | some reply =>
      obtain ⟨answer, next⟩ := reply
      simp only [Option.map_eq_some_iff, Option.some.injEq, Prod.mk.injEq]
      constructor
      · rintro ⟨⟨later, s''⟩, hlater, rfl, rfl⟩
        exact ⟨answer, next, later, ⟨rfl, rfl⟩, hlater, rfl⟩
      · rintro ⟨_, _, later, ⟨rfl, rfl⟩, hlater, rfl⟩
        exact ⟨(later, s'), hlater, rfl, rfl⟩

/-- What holds at the start and is kept by every call holds after every run. -/
theorem trace_induction {P : List (γ × ρ) → σ → Prop} (start : P [] s)
    (next : ∀ t s call answer s', call ∈ calls → P t s → step s call = some (answer, s') →
      P (t ++ [(call, answer)]) s')
    (h : trace step s calls = some (t, s')) : P t s' := by
  have hgeneral : ∀ (front : List (γ × ρ)) (rest : List γ) (s : σ) (t : List (γ × ρ)),
      (∀ call ∈ rest, call ∈ calls) → P front s → trace step s rest = some (t, s') →
        P (front ++ t) s' := by
    intro front rest
    induction rest generalizing front with
    | nil =>
        intro s t _ hP h
        cases h
        rwa [List.append_nil]
    | cons call rest ih =>
        intro s t hmem hP h
        obtain ⟨answer, mid, later, hstep, hlater, rfl⟩ := trace_cons.1 h
        have hrest := ih (front ++ [(call, answer)]) mid later
          (fun c hc => hmem c (List.mem_cons_of_mem _ hc))
          (next front s call answer mid (hmem call List.mem_cons_self) hP hstep) hlater
        rwa [List.append_assoc, List.singleton_append] at hrest
  exact hgeneral [] calls s t (fun _ h => h) start h

/-- An invariant of the state alone. -/
theorem trace_invariant {I : σ → Prop} (start : I s)
    (next : ∀ s call answer s', call ∈ calls → I s → step s call = some (answer, s') → I s')
    (h : trace step s calls = some (t, s')) : I s' :=
  trace_induction (P := fun _ s => I s) start (fun _ => next) h

/-- Where every call has an answer, every run has an end. -/
theorem trace_total (h : ∀ s call, ∃ answer s', step s call = some (answer, s')) (s : σ)
    (calls : List γ) : ∃ t s', trace step s calls = some (t, s') := by
  induction calls generalizing s with
  | nil => exact ⟨[], s, rfl⟩
  | cons call rest ih =>
      obtain ⟨answer, mid, hstep⟩ := h s call
      obtain ⟨t, s', hrest⟩ := ih mid
      exact ⟨_, s', trace_cons.2 ⟨answer, mid, t, hstep, hrest, rfl⟩⟩

end Effect
