import Mathlib.Logic.Relation
import Mathlib.Tactic.SplitIfs

/-!
# Stateful programs that may stop early

A program over a state `σ` returns a value or stops with an `ε`.  The state it has reached is
kept in both cases: a caller that goes on after a failure, or after a cut-off, goes on from there.

* `Prog` — the programs, with the usual monad operations.
* `wp` — what holds of the outcome and the state a run ends in; one rule for each operation.
* `Leads` — every run from a state ends in one that steps of a relation reach;
  `Leads.bind` composes, and `steps_invariant` carries what each step preserves to the end.
* `Preserves` — a program keeps an invariant however it ends; `Preserves.bind` composes.
* `Commutes` — a program neither sees nor disturbs what a function changes; `Commutes.bind`
  composes.
* `bind_eq_ok` — how a chain of checks without a state succeeds.
-/

namespace Effect

/-- A program over the state `σ`. -/
def Prog (ε σ α : Type) : Type := σ → Except ε α × σ

namespace Prog

variable {ε σ α β : Type}

/-- A program that only returns. -/
protected def pure (a : α) : Prog ε σ α := fun s => (.ok a, s)

/-- One program after another; a failure ends the whole. -/
protected def bind (x : Prog ε σ α) (f : α → Prog ε σ β) : Prog ε σ β := fun s =>
  match x s with
  | (.ok a, t) => f a t
  | (.error e, t) => (.error e, t)

instance : Monad (Prog ε σ) where
  pure := Prog.pure
  bind := Prog.bind

/-- Stop here. -/
def stop (e : ε) : Prog ε σ α := fun s => (.error e, s)

/-- Read the state. -/
def get : Prog ε σ σ := fun s => (.ok s, s)

/-- Change the state. -/
def modify (f : σ → σ) : Prog ε σ Unit := fun s => (.ok (), f s)

/-- Run `x` and hand its outcome to the caller instead of stopping. -/
def attempt (x : Prog ε σ α) : Prog ε σ (Except ε α) := fun s => (.ok (x s).1, (x s).2)

theorem bind_assoc {γ : Type} (x : Prog ε σ α) (f : α → Prog ε σ β) (g : β → Prog ε σ γ) :
    x >>= f >>= g = x >>= fun a => f a >>= g := by
  funext s
  show Prog.bind (Prog.bind x f) g s = Prog.bind x (fun a => Prog.bind (f a) g) s
  unfold Prog.bind
  rcases x s with ⟨_ | a, t⟩ <;> rfl

theorem bind_apply_ok {x : Prog ε σ α} {f : α → Prog ε σ β} {s t : σ} {a : α}
    (h : x s = (.ok a, t)) : (x >>= f) s = f a t := by
  show Prog.bind x f s = f a t
  unfold Prog.bind
  rw [h]

theorem bind_apply_error {x : Prog ε σ α} {f : α → Prog ε σ β} {s t : σ} {e : ε}
    (h : x s = (.error e, t)) : (x >>= f) s = (.error e, t) := by
  show Prog.bind x f s = (.error e, t)
  unfold Prog.bind
  rw [h]

end Prog

/-! ## What holds where a run ends -/

section Wp

variable {ε σ α β : Type}

/-- `Q` holds of the outcome of `x` from `s` and of the state it ends in. -/
def wp (x : Prog ε σ α) (s : σ) (Q : Except ε α → σ → Prop) : Prop := Q (x s).1 (x s).2

/-- Continue `Q` after the outcome of a first part. -/
def andThen (f : α → Prog ε σ β) (Q : Except ε β → σ → Prop) : Except ε α → σ → Prop
  | .ok a, t => wp (f a) t Q
  | .error e, t => Q (.error e) t

variable {x : Prog ε σ α} {s : σ} {Q R : Except ε α → σ → Prop}

theorem wp_mono (h : wp x s Q) (hQ : ∀ r t, Q r t → R r t) : wp x s R := hQ _ _ h

@[simp] theorem andThen_ok (f : α → Prog ε σ β) (P : Except ε β → σ → Prop) (a : α) (t : σ) :
    andThen f P (.ok a) t ↔ wp (f a) t P := Iff.rfl

@[simp] theorem andThen_error (f : α → Prog ε σ β) (P : Except ε β → σ → Prop) (e : ε) (t : σ) :
    andThen f P (.error e) t ↔ P (.error e) t := Iff.rfl

theorem wp_bind (f : α → Prog ε σ β) (P : Except ε β → σ → Prop) :
    wp (x >>= f) s P ↔ wp x s (andThen f P) := by
  show P (Prog.bind x f s).1 (Prog.bind x f s).2 ↔ andThen f P (x s).1 (x s).2
  unfold Prog.bind
  split
  · rename_i h; rw [h]; rfl
  · rename_i h; rw [h]; rfl

@[simp] theorem wp_pure (a : α) : wp (pure a : Prog ε σ α) s Q ↔ Q (.ok a) s := Iff.rfl

@[simp] theorem wp_stop (e : ε) : wp (Prog.stop e) s Q ↔ Q (.error e) s := Iff.rfl

@[simp] theorem wp_get {P : Except ε σ → σ → Prop} : wp Prog.get s P ↔ P (.ok s) s := Iff.rfl

@[simp] theorem wp_modify (f : σ → σ) {P : Except ε Unit → σ → Prop} :
    wp (Prog.modify f) s P ↔ P (.ok ()) (f s) := Iff.rfl

/-- Sequence a first part whose outcome is known through its own specification. -/
theorem wp_bind_of {f : α → Prog ε σ β} {P : Except ε β → σ → Prop} (h : wp x s Q)
    (hok : ∀ a t, Q (.ok a) t → wp (f a) t P) (herr : ∀ e t, Q (.error e) t → P (.error e) t) :
    wp (x >>= f) s P := by
  rw [wp_bind]
  refine wp_mono h ?_
  intro r t hQ
  cases r with
  | ok a => exact hok a t hQ
  | error e => exact herr e t hQ

end Wp

/-! ## Runs as sequences of steps -/

section Leads

variable {ε σ α β : Type} {R : σ → σ → Prop} {x : Prog ε σ α} {f : α → Prog ε σ β} {s t : σ}
  {P Q : α → σ → Prop} {P' : β → σ → Prop}

/-- Every run of `x` from `s` ends in a state that steps of `R` reach from `s`; where it returns
`a`, that state and `a` satisfy `P`. -/
def Leads (R : σ → σ → Prop) (x : Prog ε σ α) (s : σ) (P : α → σ → Prop) : Prop :=
  wp x s fun r t => Relation.ReflTransGen R s t ∧ ∀ a, r = .ok a → P a t

theorem Leads.steps (h : Leads R x s P) : Relation.ReflTransGen R s (x s).2 := h.1

theorem Leads.post {a : α} (h : Leads R x s P) (hx : x s = (.ok a, t)) : P a t := by
  have := h.2 a (by rw [hx])
  rwa [hx] at this

theorem Leads.pure {a : α} (h : P a s) : Leads R (Pure.pure a : Prog ε σ α) s P :=
  ⟨.refl, fun b hb => by cases hb; exact h⟩

theorem Leads.stop (e : ε) : Leads R (Prog.stop e : Prog ε σ α) s P :=
  ⟨.refl, fun b hb => by cases hb⟩

theorem Leads.mono (h : Leads R x s P) (hPQ : ∀ a t, P a t → Q a t) : Leads R x s Q :=
  wp_mono h fun _ _ ht => ⟨ht.1, fun a ha => hPQ a _ (ht.2 a ha)⟩

/-- The same run as steps of a wider relation. -/
theorem Leads.mono_rel {R' : σ → σ → Prop} (h : Leads R x s P) (hR : ∀ s t, R s t → R' s t) :
    Leads R' x s P :=
  wp_mono h fun _ _ ht => ⟨Relation.ReflTransGen.mono hR _ _ ht.1, ht.2⟩

/-- Some steps first, then `x` from where they end. -/
theorem Leads.after (h : Relation.ReflTransGen R s t) (hx : Leads R x t P) :
    wp x t fun r u => Relation.ReflTransGen R s u ∧ ∀ a, r = .ok a → P a u :=
  wp_mono hx fun _ _ hu => ⟨h.trans hu.1, hu.2⟩

theorem Leads.bind (hx : Leads R x s P) (hf : ∀ a t, P a t → Leads R (f a) t P') :
    Leads R (x >>= f) s P' := by
  unfold Leads
  rw [wp_bind]
  refine wp_mono hx ?_
  intro r t ⟨hst, hP⟩
  cases r with
  | ok a => exact Leads.after hst (hf a t (hP a rfl))
  | error e => exact ⟨hst, fun b hb => by cases hb⟩

/-- What every step preserves is preserved by any number of steps. -/
theorem steps_invariant {I : σ → Prop} (hstep : ∀ s t, R s t → I s → I t)
    (h : Relation.ReflTransGen R s t) (hs : I s) : I t := by
  induction h with
  | refl => exact hs
  | tail _ hab ih => exact hstep _ _ hab ih

/-- What every step preserves while `C` holds is preserved by any number of steps to a state with
`C`, where `C` holds before a step if it holds after it. -/
theorem steps_invariant_while {I C : σ → Prop} (hC : ∀ s t, R s t → C t → C s)
    (hstep : ∀ s t, R s t → C t → I s → I t) (h : Relation.ReflTransGen R s t) (ht : C t)
    (hs : I s) : I t := by
  induction h with
  | refl => exact hs
  | tail _ hab ih => exact hstep _ _ hab ht (ih (hC _ _ hab ht))

/-- What every step preserves also holds where a run returns. -/
theorem Leads.and_invariant {I : σ → Prop} (h : Leads R x s P)
    (hstep : ∀ s t, R s t → I s → I t) (hs : I s) : Leads R x s fun a t => P a t ∧ I t :=
  wp_mono h fun _ _ ht => ⟨ht.1, fun a ha => ⟨ht.2 a ha, steps_invariant hstep ht.1 hs⟩⟩

/-- The steps of a run are there where it returns, too. -/
theorem Leads.with_steps (h : Leads R x s P) :
    Leads R x s fun a t => P a t ∧ Relation.ReflTransGen R s t :=
  wp_mono h fun _ _ ht => ⟨ht.1, fun a ha => ⟨ht.2 a ha, ht.1⟩⟩

end Leads

/-! ## What every run keeps -/

section Preserves

variable {ε σ α β : Type} {I : σ → Prop} {x : Prog ε σ α} {f : α → Prog ε σ β}

/-- `x` keeps `I`, whether it returns or stops. -/
def Preserves (I : σ → Prop) (x : Prog ε σ α) : Prop := ∀ s, I s → wp x s fun _ t => I t

theorem Preserves.pure (a : α) : Preserves I (Pure.pure a : Prog ε σ α) := fun _ h => h

theorem Preserves.stop (e : ε) : Preserves I (Prog.stop e : Prog ε σ α) := fun _ h => h

theorem Preserves.get : Preserves I (Prog.get : Prog ε σ σ) := fun _ h => h

theorem Preserves.modify {f : σ → σ} (h : ∀ s, I s → I (f s)) :
    Preserves I (Prog.modify f : Prog ε σ Unit) := h

theorem Preserves.attempt (h : Preserves I x) : Preserves I x.attempt := h

theorem Preserves.bind (hx : Preserves I x) (hf : ∀ a, Preserves I (f a)) :
    Preserves I (x >>= f) :=
  fun s hs => wp_bind_of (hx s hs) (fun a t ht => hf a t ht) fun _ _ ht => ht

end Preserves

/-! ## What a run does not see -/

section Commutes

variable {ε σ α β : Type} {f : σ → σ} {x : Prog ε σ α} {k : α → Prog ε σ β}

/-- Changing the state by `f` before `x` or after it is the same, and `x` ends alike. -/
def Commutes (f : σ → σ) (x : Prog ε σ α) : Prop := ∀ s, x (f s) = ((x s).1, f (x s).2)

theorem Commutes.pure (a : α) : Commutes f (Pure.pure a : Prog ε σ α) := fun _ => rfl

theorem Commutes.stop (e : ε) : Commutes f (Prog.stop e : Prog ε σ α) := fun _ => rfl

theorem Commutes.modify {g : σ → σ} (h : ∀ s, g (f s) = f (g s)) :
    Commutes f (Prog.modify g : Prog ε σ Unit) := fun s => congrArg (Prod.mk (Except.ok ())) (h s)

theorem Commutes.bind (hx : Commutes f x) (hk : ∀ a, Commutes f (k a)) :
    Commutes f (x >>= k) := by
  intro s
  have hs := hx s
  rcases hrun : x s with ⟨outcome, t⟩
  rw [hrun] at hs
  cases outcome with
  | ok a => rw [Prog.bind_apply_ok hrun, Prog.bind_apply_ok hs, hk a t]
  | error e => rw [Prog.bind_apply_error hrun, Prog.bind_apply_error hs]

/-- What is read first may depend on the state as long as the rest does not tell. -/
theorem Commutes.get_bind {k : σ → Prog ε σ β}
    (hk : ∀ s, k (f s) (f s) = ((k s s).1, f (k s s).2)) : Commutes f (Prog.get >>= k) := hk

end Commutes

/-! ## Failing computations without a state -/

section Outcome

variable {ε α β : Type} {x : Except ε α} {f : α → Except ε β}

theorem bind_eq_ok {b : β} : (x >>= f) = .ok b ↔ ∃ a, x = .ok a ∧ f a = .ok b := by
  cases x with
  | ok a => simp [bind, Except.bind]
  | error e => simp [bind, Except.bind]

@[simp] theorem ok_bind (a : α) : ((Except.ok a : Except ε α) >>= f) = f a := rfl

@[simp] theorem error_bind (e : ε) : ((Except.error e : Except ε α) >>= f) = .error e := rfl

@[simp] theorem pure_eq_ok {a b : α} : ((pure a : Except ε α) = .ok b) ↔ a = b := by
  simp [pure, Except.pure]

@[simp] theorem mapError_eq_ok {ε' : Type} {f : ε → ε'} {a : α} :
    x.mapError f = .ok a ↔ x = .ok a := by
  cases x <;> simp [Except.mapError]

end Outcome

end Effect
