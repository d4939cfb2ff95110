import Mathlib.Control.Monad.Basic

/-!
# Computations that fail or panic

A computation returns a value, fails with an `ε`, or panics: then it has no outcome at all.  Results
that cannot panic and operations that can are both lifted into it.

* `MayPanic` — the computations, with the usual monad operations of `ExceptT`.
* `bind_returns` — how a chain returns.
* `Below` — one computation ends as another does unless it panics; `Below.bind` composes.
-/

namespace Effect

/-- A computation that fails with an `ε` or panics. -/
abbrev MayPanic (ε α : Type) := ExceptT ε Option α

namespace MayPanic

variable {ε α β : Type}

/-- The computation returns this value. -/
def Returns (x : MayPanic ε α) (a : α) : Prop := x.run = some (.ok a)

/-- The computation has no outcome. -/
def Panics (x : MayPanic ε α) : Prop := x.run = none

instance [DecidableEq ε] [DecidableEq α] (x : MayPanic ε α) (a : α) : Decidable (x.Returns a) :=
  inferInstanceAs (Decidable (x.run = some (.ok a)))

instance (x : MayPanic ε α) : Decidable x.Panics :=
  decidable_of_iff (x.run.isNone = true) Option.isNone_iff_eq_none

/-- Hand a failure to the caller; a panic is not caught. -/
def attempt (x : MayPanic ε α) : MayPanic ε (Except ε α) := ExceptT.mk (x.run.map .ok)

/-! ## How a chain returns -/

theorem liftM_ok (a : α) : (liftM (.ok a : Except ε α) : MayPanic ε α) = pure a := rfl

theorem liftM_some (a : α) : (liftM (some a) : MayPanic ε α) = pure a := rfl

@[simp] theorem liftM_returns {r : Except ε α} {a : α} :
    (liftM r : MayPanic ε α).Returns a ↔ r = .ok a := by
  show some r = some (.ok a) ↔ r = .ok a
  rw [Option.some.injEq]

@[simp] theorem liftM_option_returns {o : Option α} {a : α} :
    (liftM o : MayPanic ε α).Returns a ↔ o = some a := by
  cases o with
  | none => exact iff_of_false (fun h => by cases h) (fun h => by cases h)
  | some b =>
      show some (Except.ok b) = some (.ok a) ↔ some b = some a
      simp only [Option.some.injEq, Except.ok.injEq]

@[simp] theorem pure_returns {a b : α} : (pure a : MayPanic ε α).Returns b ↔ a = b := by
  show some (Except.ok a) = some (.ok b) ↔ a = b
  simp only [Option.some.injEq, Except.ok.injEq]

theorem bind_returns {x : MayPanic ε α} {f : α → MayPanic ε β} {b : β} :
    (x >>= f).Returns b ↔ ∃ a, x.Returns a ∧ (f a).Returns b := by
  unfold Returns
  rw [ExceptT.run_bind]
  rcases x.run with _ | _ | a
  · exact iff_of_false (fun h => by cases h) (by rintro ⟨_, ⟨⟩, _⟩)
  · exact iff_of_false (fun h => by cases h) (by rintro ⟨_, ⟨⟩, _⟩)
  · constructor
    · exact fun h => ⟨a, rfl, h⟩
    · rintro ⟨_, ⟨⟩, h⟩
      exact h

theorem bind_of_returns {x : MayPanic ε α} {f : α → MayPanic ε β} {a : α} (h : x.Returns a) :
    x >>= f = f a := by
  refine ExceptT.ext ?_
  rw [ExceptT.run_bind, h]
  rfl

theorem bind_panics {x : MayPanic ε α} {f : α → MayPanic ε β} (h : x.Panics) :
    (x >>= f).Panics := by
  unfold Panics
  rw [ExceptT.run_bind, h]
  rfl

theorem Returns.unique {x : MayPanic ε α} {a b : α} (h : x.Returns a) (h' : x.Returns b) : a = b :=
  Except.ok.inj (Option.some.inj (h.symm.trans h'))

theorem attempt_liftM (r : Except ε α) :
    attempt (liftM r : MayPanic ε α) = pure r := rfl

theorem attempt_returns {x : MayPanic ε α} {r : Except ε α} :
    x.attempt.Returns r ↔ x.run = some r := by
  show x.run.map Except.ok = some (.ok r) ↔ x.run = some r
  simp only [Option.map_eq_some_iff, Except.ok.injEq, exists_eq_right]

theorem attempt_panics {x : MayPanic ε α} (h : x.Panics) : x.attempt.Panics := by
  show x.run.map Except.ok = none
  rw [h]
  rfl

/-! ## Computations that panic more often -/

/-- Where `x` does not panic, `y` ends as `x` does. -/
def Below (x y : MayPanic ε α) : Prop := ∀ r, x.run = some r → y.run = some r

variable {x y : MayPanic ε α}

theorem Below.refl (x : MayPanic ε α) : Below x x := fun _ h => h

theorem Below.run_eq (h : Below x y) (hx : ¬ x.Panics) : y.run = x.run := by
  obtain ⟨r, hr⟩ := Option.ne_none_iff_exists'.1 hx
  rw [hr, h r hr]

/-- An operation that panics more often. -/
theorem Below.liftM {o o' : Option α} (h : ∀ a, o = some a → o' = some a) :
    Below (ε := ε) (liftM o) (liftM o') := by
  intro r hr
  obtain ⟨a, ha, rfl⟩ := Option.map_eq_some_iff.1 hr
  exact Option.map_eq_some_iff.2 ⟨a, h a ha, rfl⟩

theorem Below.bind {f g : α → MayPanic ε β} (h : Below x y) (hfg : ∀ a, Below (f a) (g a)) :
    Below (x >>= f) (y >>= g) := by
  intro r hr
  rw [ExceptT.run_bind] at hr ⊢
  obtain ⟨outcome, hx, hr⟩ := Option.bind_eq_some_iff.1 hr
  refine Option.bind_eq_some_iff.2 ⟨outcome, h _ hx, ?_⟩
  cases outcome with
  | error e => exact hr
  | ok a => exact hfg a r hr

theorem Below.attempt (h : Below x y) : Below x.attempt y.attempt := by
  intro r hr
  obtain ⟨outcome, hx, rfl⟩ := Option.map_eq_some_iff.1 hr
  exact Option.map_eq_some_iff.2 ⟨outcome, h _ hx, rfl⟩

end MayPanic

end Effect
