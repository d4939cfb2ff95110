import Mathlib.Data.List.Basic

/-!
# Cooperative tasks

A task asks one request after another and ends with a value or an error.  Some requests are
segments that run at once on a shared state; the others are answered from outside, by anything.
Any number of tasks take turns between their requests, and events from outside may come in between.

* `Task` — the programs, with the usual monad operations.
* `Task.Upholds` — what a task asks and how it ends, for the answers there can be.
* `Task.Always` — what holds of a task at every point of its way.
* `System.step`, `System.run` — the turns of a pool of tasks; `step_cases` is all a turn can do.
* `run_keeps_jobs` — an invariant of the shared state, and what it says of every task, over whole
  runs.
* `step_commutes` — a turn that neither sees nor disturbs what a function changes.
-/

namespace Effect

/-- A task: `ρ q` is what the request `q` is answered with. -/
inductive Task (ε γ : Type) (ρ : γ → Type) (α : Type) : Type where
  | done (outcome : Except ε α)
  | await (request : γ) (next : ρ request → Task ε γ ρ α)

namespace Task

variable {ε γ : Type} {ρ : γ → Type} {α β : Type}

/-- One task after another; a failure ends the whole. -/
protected def bind : Task ε γ ρ α → (α → Task ε γ ρ β) → Task ε γ ρ β
  | .done (.ok a), f => f a
  | .done (.error e), _ => .done (.error e)
  | .await q next, f => .await q fun answer => (next answer).bind f

instance : Monad (Task ε γ ρ) where
  pure a := .done (.ok a)
  bind := Task.bind

/-- End here. -/
def stop (e : ε) : Task ε γ ρ α := .done (.error e)

/-- End here where the computation failed. -/
def ofExcept (x : Except ε α) : Task ε γ ρ α := .done x

/-- Ask and go on with the answer. -/
def ask (q : γ) : Task ε γ ρ (ρ q) := .await q fun answer => .done (.ok answer)

/-- Run `x` and hand its outcome to the caller instead of ending. -/
def attempt : Task ε γ ρ α → Task ε γ ρ (Except ε α)
  | .done outcome => .done (.ok outcome)
  | .await q next => .await q fun answer => (next answer).attempt

/-- How a task ended, if it has. -/
def outcome? : Task ε γ ρ α → Option (Except ε α)
  | .done outcome => some outcome
  | .await _ _ => none

/-- The request a task waits for. -/
def waiting? : Task ε γ ρ α → Option γ
  | .done _ => none
  | .await q _ => some q

@[simp] theorem outcome?_done (r : Except ε α) : (done r : Task ε γ ρ α).outcome? = some r := rfl

@[simp] theorem waiting?_done (r : Except ε α) : (done r : Task ε γ ρ α).waiting? = none := rfl

@[simp] theorem outcome?_await (q : γ) (next : ρ q → Task ε γ ρ α) :
    (await q next).outcome? = none := rfl

@[simp] theorem waiting?_await (q : γ) (next : ρ q → Task ε γ ρ α) :
    (await q next).waiting? = some q := rfl

@[simp] theorem done_ok_bind (a : α) (f : α → Task ε γ ρ β) : (done (.ok a) >>= f) = f a := rfl

@[simp] theorem done_error_bind (e : ε) (f : α → Task ε γ ρ β) :
    (done (.error e) >>= f) = .done (.error e) := rfl

@[simp] theorem await_bind (q : γ) (next : ρ q → Task ε γ ρ α) (f : α → Task ε γ ρ β) :
    (await q next >>= f) = .await q fun answer => next answer >>= f := rfl

/-! ## What a task does -/

/-- Where requests are answered as `can` allows, the task asks only what `A` allows and ends
with `P`. -/
def Upholds (can : (q : γ) → ρ q → Prop) (A : γ → Prop) (P : Except ε α → Prop) :
    Task ε γ ρ α → Prop
  | .done outcome => P outcome
  | .await q next => A q ∧ ∀ answer, can q answer → (next answer).Upholds can A P

variable {can can' : (q : γ) → ρ q → Prop} {A B : γ → Prop} {P Q : Except ε α → Prop}
  {R : Except ε β → Prop} {x : Task ε γ ρ α} {f : α → Task ε γ ρ β}

theorem Upholds.mono (h : x.Upholds can A P) (hcan : ∀ q a, can' q a → can q a)
    (hA : ∀ q, A q → B q) (hP : ∀ r, P r → Q r) : x.Upholds can' B Q := by
  induction x with
  | done outcome => exact hP outcome h
  | await q next ih => exact ⟨hA q h.1, fun answer ha => ih answer (h.2 answer (hcan q answer ha))⟩

theorem Upholds.pure {a : α} (h : P (.ok a)) : (Pure.pure a : Task ε γ ρ α).Upholds can A P := h

theorem Upholds.stop {e : ε} (h : P (.error e)) : (stop e : Task ε γ ρ α).Upholds can A P := h

theorem Upholds.ofExcept {r : Except ε α} (h : P r) :
    (ofExcept r : Task ε γ ρ α).Upholds can A P := h

theorem Upholds.ask {q : γ} {P : Except ε (ρ q) → Prop} (hA : A q)
    (h : ∀ answer, can q answer → P (.ok answer)) : (ask q : Task ε γ ρ (ρ q)).Upholds can A P :=
  ⟨hA, h⟩

/-- Sequence a first part that is known through what it upholds. -/
theorem Upholds.bind (hx : x.Upholds can A P) (hok : ∀ a, P (.ok a) → (f a).Upholds can A R)
    (herr : ∀ e, P (.error e) → R (.error e)) : (x >>= f).Upholds can A R := by
  induction x with
  | done outcome =>
      cases outcome with
      | ok a => exact hok a hx
      | error e => exact herr e hx
  | await q next ih => exact ⟨hx.1, fun answer ha => ih answer (hx.2 answer ha)⟩

theorem Upholds.attempt (hx : x.Upholds can A fun r => P r) :
    x.attempt.Upholds can A fun r => ∃ outcome, r = .ok outcome ∧ P outcome := by
  induction x with
  | done outcome => exact ⟨outcome, rfl, hx⟩
  | await q next ih => exact ⟨hx.1, fun answer ha => ih answer (hx.2 answer ha)⟩

/-- Where every request may be asked and every end is fine, nothing is to be shown. -/
theorem upholds_trivial (x : Task ε γ ρ α) :
    x.Upholds can (fun _ => True) fun _ => True := by
  induction x with
  | done outcome => trivial
  | await q next ih => exact ⟨trivial, fun answer _ => ih answer⟩

/-- Two facts about how a task ends are one. -/
theorem Upholds.and (h : x.Upholds can A P) (h' : x.Upholds can B Q) :
    x.Upholds can (fun q => A q ∧ B q) fun r => P r ∧ Q r := by
  induction x with
  | done outcome => exact ⟨h, h'⟩
  | await q next ih =>
      exact ⟨⟨h.1, h'.1⟩, fun answer ha => ih answer (h.2 answer ha) (h'.2 answer ha)⟩

theorem bind_assoc {δ : Type} (x : Task ε γ ρ α) (f : α → Task ε γ ρ β) (g : β → Task ε γ ρ δ) :
    x >>= f >>= g = x >>= fun a => f a >>= g := by
  induction x with
  | done outcome => cases outcome <;> rfl
  | await q next ih => exact congrArg (await q) (funext ih)

theorem attempt_bind (x : Task ε γ ρ α) (f : α → Task ε γ ρ β) :
    (x >>= f).attempt = x.attempt >>= fun
      | .ok a => (f a).attempt
      | .error e => .done (.ok (.error e)) := by
  induction x with
  | done outcome => cases outcome <;> rfl
  | await q next ih => exact congrArg (await q) (funext ih)

/-! ## What is always left of a task -/

/-- Where requests are answered as `can` allows, whatever is left of the task meets `S`. -/
def Always (can : (q : γ) → ρ q → Prop) (S : Task ε γ ρ α → Prop) : Task ε γ ρ α → Prop
  | .done outcome => S (.done outcome)
  | .await q next => S (.await q next) ∧ ∀ answer, can q answer → (next answer).Always can S

theorem Always.now {S : Task ε γ ρ α → Prop} (h : x.Always can S) : S x := by
  cases x with
  | done outcome => exact h
  | await q next => exact h.1

theorem Always.mono {S T : Task ε γ ρ α → Prop} (h : x.Always can S) (hST : ∀ x, S x → T x) :
    x.Always can T := by
  induction x with
  | done outcome => exact hST _ h
  | await q next ih => exact ⟨hST _ h.1, fun answer ha => ih answer (h.2 answer ha)⟩

/-- Sequence a first part that is known through what it upholds. -/
theorem Always.bind {S : Task ε γ ρ β → Prop} (hx : x.Upholds can A P)
    (hask : ∀ (q : γ) (next : ρ q → Task ε γ ρ α), A q →
      (∀ answer, can q answer → (next answer).Upholds can A P) →
      S (.await q fun answer => next answer >>= f))
    (hok : ∀ a, P (.ok a) → (f a).Always can S) (herr : ∀ e, P (.error e) → S (.done (.error e))) :
    (x >>= f).Always can S := by
  induction x with
  | done outcome =>
      cases outcome with
      | ok a => exact hok a hx
      | error e => exact herr e hx
  | await q next ih =>
      exact ⟨hask q next hx.1 hx.2, fun answer ha => ih answer (hx.2 answer ha)⟩

/-- Where a sequence ends, its first part has ended. -/
theorem bind_eq_done {r : Except ε β} (h : (x >>= f) = .done r) :
    (∃ a, x = .done (.ok a) ∧ f a = .done r) ∨ ∃ e, x = .done (.error e) := by
  cases x with
  | done outcome =>
      cases outcome with
      | ok a => exact .inl ⟨a, rfl, h⟩
      | error e => exact .inr ⟨e, rfl⟩
  | await q next => cases h

/-- A task of which only its requests matter. -/
theorem Always.of_upholds {S : Task ε γ ρ α → Prop} (hx : x.Upholds can A P)
    (hask : ∀ q next, A q → S (.await q next)) (hdone : ∀ r, P r → S (.done r)) :
    x.Always can S := by
  induction x with
  | done outcome => exact hdone outcome hx
  | await q next ih => exact ⟨hask q _ hx.1, fun answer ha => ih answer (hx.2 answer ha)⟩

end Task

/-! ## Pools of tasks -/

/-- What tasks run in: the segments on the shared state, the events from outside and the program of
each call. -/
structure System (ε σ η κ γ : Type) (ρ : γ → Type) where
  segment : (q : γ) → Option (σ → ρ q × σ)
  outside : σ → η → Option σ
  program : κ → Task ε γ ρ Unit

/-- A call under way. -/
structure Job (ε κ γ : Type) (ρ : γ → Type) where
  call : κ
  rest : Task ε γ ρ Unit

/-- The running calls beside the state they share. -/
structure Pool (ε σ κ γ : Type) (ρ : γ → Type) where
  shared : σ
  jobs : List (Job ε κ γ ρ)

/-- A turn; a job is known by its place in the pool. -/
inductive Turn (η κ γ : Type) (ρ : γ → Type) where
  | outside (event : η)
  | start (call : κ)
  | segment (job : ℕ)
  | answer (job : ℕ) (reply : Σ q : γ, ρ q)

namespace System

variable {ε σ η κ γ : Type} {ρ : γ → Type} [DecidableEq γ] (system : System ε σ η κ γ ρ)

/-- The job goes on with an answer, where it waits for one. -/
def resume (pool : Pool ε σ κ γ ρ) (k : ℕ) (reply : Σ q : γ, ρ q) (shared : σ) :
    Option (Pool ε σ κ γ ρ) :=
  match pool.jobs[k]? with
  | none => none
  | some job =>
      match job.rest with
      | .done _ => none
      | .await q next =>
          if h : reply.1 = q then some ⟨shared, pool.jobs.set k ⟨job.call, next (h ▸ reply.2)⟩⟩
          else none

/-- The request a job waits for. -/
def waiting (pool : Pool ε σ κ γ ρ) (k : ℕ) : Option γ :=
  pool.jobs[k]?.bind fun job => job.rest.waiting?

/-- A turn of one call, or a change of the shared state from outside; `none` where it cannot
happen. -/
def step (pool : Pool ε σ κ γ ρ) : Turn η κ γ ρ → Option (Pool ε σ κ γ ρ)
  | .outside event => (system.outside pool.shared event).map fun shared => ⟨shared, pool.jobs⟩
  | .start call => some ⟨pool.shared, pool.jobs ++ [⟨call, system.program call⟩]⟩
  | .segment k =>
      match waiting pool k with
      | none => none
      | some q =>
          match system.segment q with
          | none => none
          | some run => resume pool k ⟨q, (run pool.shared).1⟩ (run pool.shared).2
  | .answer k reply =>
      match system.segment reply.1 with
      | some _ => none
      | none => resume pool k reply pool.shared

/-- A run: its turns one after another. -/
def run (pool : Pool ε σ κ γ ρ) : List (Turn η κ γ ρ) → Option (Pool ε σ κ γ ρ)
  | [] => some pool
  | turn :: rest =>
      match system.step pool turn with
      | none => none
      | some next => run next rest

/-- Every step of a run meets `C`. -/
def Along (C : Pool ε σ κ γ ρ → Turn η κ γ ρ → Pool ε σ κ γ ρ → Prop) (pool : Pool ε σ κ γ ρ) :
    List (Turn η κ γ ρ) → Prop
  | [] => True
  | turn :: rest =>
      ∀ next, system.step pool turn = some next → C pool turn next ∧ Along C next rest

variable {system} {pool next : Pool ε σ κ γ ρ} {turn : Turn η κ γ ρ} {turns : List (Turn η κ γ ρ)}

theorem resume_eq_some {k : ℕ} {reply : Σ q : γ, ρ q} {shared : σ} :
    resume pool k reply shared = some next ↔ ∃ call rest,
      pool.jobs[k]? = some ⟨call, .await reply.1 rest⟩ ∧
        next = ⟨shared, pool.jobs.set k ⟨call, rest reply.2⟩⟩ := by
  obtain ⟨q, answer⟩ := reply
  constructor
  · intro h
    unfold resume at h
    split at h
    · cases h
    · rename_i job hjob
      obtain ⟨call, rest⟩ := job
      split at h
      · cases h
      · rename_i q' rest' hrest
        split at h
        · rename_i heq
          cases heq
          cases hrest
          cases h
          exact ⟨call, rest', hjob, rfl⟩
        · cases h
  · rintro ⟨call, rest, hjob, rfl⟩
    unfold resume
    rw [hjob]
    simp

/-- All a turn can do. -/
theorem step_cases (h : system.step pool turn = some next) :
    (∃ event shared, turn = .outside event ∧ system.outside pool.shared event = some shared ∧
      next = ⟨shared, pool.jobs⟩) ∨
    (∃ call, turn = .start call ∧
      next = ⟨pool.shared, pool.jobs ++ [⟨call, system.program call⟩]⟩) ∨
    (∃ k call q rest run, turn = .segment k ∧ pool.jobs[k]? = some ⟨call, .await q rest⟩ ∧
      system.segment q = some run ∧
      next = ⟨(run pool.shared).2, pool.jobs.set k ⟨call, rest (run pool.shared).1⟩⟩) ∨
    (∃ k call q rest answer, turn = .answer k ⟨q, answer⟩ ∧
      pool.jobs[k]? = some ⟨call, .await q rest⟩ ∧ system.segment q = none ∧
      next = ⟨pool.shared, pool.jobs.set k ⟨call, rest answer⟩⟩) := by
  cases turn with
  | outside event =>
      obtain ⟨shared, hshared, rfl⟩ := Option.map_eq_some_iff.1 h
      exact .inl ⟨event, shared, rfl, hshared, rfl⟩
  | start call =>
      cases h
      exact .inr (.inl ⟨call, rfl, rfl⟩)
  | segment k =>
      simp only [step] at h
      split at h
      · cases h
      · split at h
        · cases h
        · rename_i q hwaiting _ run hrun
          obtain ⟨call, rest, hjob, rfl⟩ := resume_eq_some.1 h
          exact .inr (.inr (.inl ⟨k, call, q, rest, run, rfl, hjob, hrun, rfl⟩))
  | answer k reply =>
      simp only [step] at h
      split at h
      · cases h
      · rename_i hnone
        obtain ⟨call, rest, hjob, rfl⟩ := resume_eq_some.1 h
        exact .inr (.inr (.inr ⟨k, call, reply.1, rest, reply.2, rfl, hjob, hnone, rfl⟩))

/-- When a job cannot run its segment. -/
theorem step_segment_eq_none {k : ℕ} : system.step pool (.segment k) = none ↔
    ∀ q, waiting pool k = some q → system.segment q = none := by
  simp only [step]
  constructor
  · intro h q hwaiting
    rw [hwaiting] at h
    cases hrun : system.segment q with
    | none => rfl
    | some run =>
        simp only [hrun] at h
        obtain ⟨⟨call, rest⟩, hjob, hrest⟩ := Option.bind_eq_some_iff.1 hwaiting
        cases rest with
        | done outcome => cases hrest
        | await q next =>
            cases hrest
            have hsome : resume pool k ⟨q, (run pool.shared).1⟩ (run pool.shared).2 = some _ :=
              resume_eq_some.2 ⟨call, next, hjob, rfl⟩
            rw [hsome] at h
            cases h
  · intro h
    cases hwaiting : waiting pool k with
    | none => rfl
    | some q => simp only [h q hwaiting]

theorem run_cons {last : Pool ε σ κ γ ρ} : system.run pool (turn :: turns) = some last ↔
    ∃ next, system.step pool turn = some next ∧ system.run next turns = some last := by
  rw [run]
  cases system.step pool turn with
  | none => simp
  | some next => simp

/-- A run goes on from where its first part ended. -/
theorem run_append {more : List (Turn η κ γ ρ)} {last : Pool ε σ κ γ ρ} :
    system.run pool (turns ++ more) = some last ↔
      ∃ mid, system.run pool turns = some mid ∧ system.run mid more = some last := by
  induction turns generalizing pool with
  | nil => simp [run]
  | cons turn rest ih =>
      rw [List.cons_append, run_cons]
      constructor
      · rintro ⟨next, hstep, hrest⟩
        obtain ⟨mid, hmid, hlast⟩ := ih.1 hrest
        exact ⟨mid, run_cons.2 ⟨next, hstep, hmid⟩, hlast⟩
      · rintro ⟨mid, hmid, hlast⟩
        obtain ⟨next, hstep, hrest⟩ := run_cons.1 hmid
        exact ⟨next, hstep, ih.2 ⟨mid, hrest, hlast⟩⟩

theorem run_snoc {mid : Pool ε σ κ γ ρ} (h : system.run pool turns = some mid)
    (hstep : system.step mid turn = some next) : system.run pool (turns ++ [turn]) = some next :=
  run_append.2 ⟨mid, h, run_cons.2 ⟨next, hstep, rfl⟩⟩

theorem along_trivial : system.Along (fun _ _ _ => True) pool turns := by
  induction turns generalizing pool with
  | nil => trivial
  | cons turn rest ih => exact fun _ _ => ⟨trivial, ih⟩

theorem along_cons {C : Pool ε σ κ γ ρ → Turn η κ γ ρ → Pool ε σ κ γ ρ → Prop}
    (hstep : system.step pool turn = some next) (hC : C pool turn next)
    (h : system.Along C next turns) : system.Along C pool (turn :: turns) := by
  intro found hfound
  rw [hstep] at hfound
  cases hfound
  exact ⟨hC, h⟩

/-- A job that has ended stays as it is. -/
theorem step_keeps_ended {k : ℕ} {job : Job ε κ γ ρ} (h : system.step pool turn = some next)
    (hjob : pool.jobs[k]? = some job) (hended : job.rest.outcome? ≠ none) :
    next.jobs[k]? = some job := by
  have hset : ∀ j call q later, pool.jobs[j]? = some ⟨call, .await q later⟩ →
      ∀ replaced : Job ε κ γ ρ, (pool.jobs.set j replaced)[k]? = some job := by
    intro j call q later hj replaced
    have hne : j ≠ k := by
      rintro rfl
      rw [hj] at hjob
      cases hjob
      exact hended rfl
    rw [List.getElem?_set_ne hne]
    exact hjob
  rcases step_cases h with ⟨event, shared, -, -, rfl⟩ | ⟨call, -, rfl⟩ |
    ⟨j, call, q, later, run, -, hj, -, rfl⟩ | ⟨j, call, q, later, answer, -, hj, -, rfl⟩
  · exact hjob
  · exact List.getElem?_append_left (List.getElem?_eq_some_iff.1 hjob).1 ▸ hjob
  · exact hset j call q later hj _
  · exact hset j call q later hj _

/-! ## Whole runs -/

/-- What holds of the pool at the start and is kept by every step that meets `C` holds after a run
whose steps all meet it. -/
theorem run_induction {C : Pool ε σ κ γ ρ → Turn η κ γ ρ → Pool ε σ κ γ ρ → Prop}
    {J : Pool ε σ κ γ ρ → Prop} {last : Pool ε σ κ γ ρ}
    (step : ∀ pool turn next, C pool turn next → J pool → system.step pool turn = some next →
      J next)
    (h : system.run pool turns = some last) (hC : system.Along C pool turns) (start : J pool) :
    J last := by
  induction turns generalizing pool with
  | nil =>
      cases h
      exact start
  | cons turn rest ih =>
      obtain ⟨next, hstep, hrest⟩ := run_cons.1 h
      obtain ⟨hturn, hlater⟩ := hC next hstep
      exact ih hrest hlater (step pool turn next hturn start hstep)

/-- What holds of the shared state and is kept by every segment and every event. -/
theorem step_keeps_shared {I : σ → Prop}
    (hsegment : ∀ q run s, system.segment q = some run → I s → I (run s).2)
    (houtside : ∀ s event t, system.outside s event = some t → I s → I t)
    (h : system.step pool turn = some next) (hI : I pool.shared) : I next.shared := by
  rcases step_cases h with ⟨event, shared, -, hshared, rfl⟩ | ⟨call, -, rfl⟩ |
    ⟨k, call, q, rest, run, -, -, hrun, rfl⟩ | ⟨k, call, q, rest, answer, -, -, -, rfl⟩
  · exact houtside _ _ _ hshared hI
  · exact hI
  · exact hsegment q run _ hrun hI
  · exact hI

/-- What can be answered to a request while `I` holds of the shared state. -/
def Can (system : System ε σ η κ γ ρ) (I : σ → Prop) (q : γ) (answer : ρ q) : Prop :=
  ∀ run, system.segment q = some run → ∃ s, I s ∧ (run s).1 = answer

/-- An invariant of the shared state, and what stays true of the tasks from place `n` on while it
holds, over a whole run whose steps keep the invariant. -/
theorem run_keeps_jobs {C : Pool ε σ κ γ ρ → Turn η κ γ ρ → Pool ε σ κ γ ρ → Prop} {I : σ → Prop}
    {T : κ → Task ε γ ρ Unit → Prop} {n : ℕ} {last : Pool ε σ κ γ ρ}
    (shared : ∀ pool turn next, C pool turn next → system.step pool turn = some next →
      I pool.shared → I next.shared)
    (program : ∀ call, T call (system.program call))
    (goOn : ∀ call q rest answer, T call (.await q rest) → system.Can I q answer →
      T call (rest answer))
    (h : system.run pool turns = some last) (hC : system.Along C pool turns)
    (hI : I pool.shared)
    (hjobs : ∀ k call rest, n ≤ k → pool.jobs[k]? = some ⟨call, rest⟩ → T call rest) :
    I last.shared ∧ ∀ k call rest, n ≤ k → last.jobs[k]? = some ⟨call, rest⟩ → T call rest := by
  refine run_induction (C := C) (J := fun pool => I pool.shared ∧ ∀ k call rest, n ≤ k →
    pool.jobs[k]? = some ⟨call, rest⟩ → T call rest) ?_ h hC ⟨hI, hjobs⟩
  rintro pool turn next hC ⟨hI, hjobs⟩ hstep
  refine ⟨shared pool turn next hC hstep hI, ?_⟩
  intro k call rest hk hget
  rcases step_cases hstep with ⟨event, shared, -, -, rfl⟩ | ⟨started, -, rfl⟩ |
    ⟨j, asker, q, later, run, -, hjob, hrun, rfl⟩
      | ⟨j, asker, q, later, answer, -, hjob, hnone, rfl⟩
  · exact hjobs k call rest hk hget
  · rw [List.getElem?_append] at hget
    split at hget
    · exact hjobs k call rest hk hget
    · have hmem := List.mem_of_getElem? hget
      rw [List.mem_singleton] at hmem
      cases hmem
      exact program call
  · by_cases hj : j = k
    · subst hj
      rw [List.getElem?_set_self (List.getElem?_eq_some_iff.1 hjob).1] at hget
      cases hget
      refine goOn call q later _ (hjobs j call _ hk hjob) ?_
      intro run' hrun'
      rw [hrun] at hrun'
      cases hrun'
      exact ⟨pool.shared, hI, rfl⟩
    · rw [List.getElem?_set_ne hj] at hget
      exact hjobs k call rest hk hget
  · by_cases hj : j = k
    · subst hj
      rw [List.getElem?_set_self (List.getElem?_eq_some_iff.1 hjob).1] at hget
      cases hget
      refine goOn call q later answer (hjobs j call _ hk hjob) ?_
      intro run' hrun'
      rw [hnone] at hrun'
      cases hrun'
    · rw [List.getElem?_set_ne hj] at hget
      exact hjobs k call rest hk hget

/-! ## Scripts -/

/-- The next turn of a job, where requests are answered by `answers`. -/
def nextTurn (system : System ε σ η κ γ ρ) (answers : (q : γ) → ρ q) (k : ℕ)
    (pool : Pool ε σ κ γ ρ) : Option (Turn η κ γ ρ) :=
  (waiting pool k).map fun q =>
    match system.segment q with
    | some _ => .segment k
    | none => .answer k ⟨q, answers q⟩

/-- At most `n` turns of a job on its own. -/
def turnsOf (system : System ε σ η κ γ ρ) (answers : (q : γ) → ρ q) (k : ℕ) :
    ℕ → Pool ε σ κ γ ρ → List (Turn η κ γ ρ)
  | 0, _ => []
  | n + 1, pool =>
      match system.nextTurn answers k pool with
      | none => []
      | some turn => turn :: (system.step pool turn).elim [] (turnsOf system answers k n)

/-- The turns of a script: each entry says what to do next in the pool reached so far. -/
def script (system : System ε σ η κ γ ρ) :
    List (Pool ε σ κ γ ρ → List (Turn η κ γ ρ)) → Pool ε σ κ γ ρ → List (Turn η κ γ ρ)
  | [], _ => []
  | entry :: rest, pool =>
      entry pool ++ (system.run pool (entry pool)).elim [] (script system rest)

/-! ## What a turn does not see -/

/-- The pool with its shared state changed. -/
def mapShared (f : σ → σ) (pool : Pool ε σ κ γ ρ) : Pool ε σ κ γ ρ := ⟨f pool.shared, pool.jobs⟩

theorem resume_mapShared {f : σ → σ} {k : ℕ} {reply : Σ q : γ, ρ q} {shared : σ} :
    resume (mapShared f pool) k reply (f shared) =
      (resume pool k reply shared).map (mapShared f) := by
  show (match pool.jobs[k]? with | none => _ | some job => _) = _
  unfold resume
  cases pool.jobs[k]? with
  | none => rfl
  | some job =>
      dsimp only
      split
      · rfl
      · split <;> rfl

/-- Changing the shared state by `f` before a turn or after it is the same, where the events and
the segment of the turn do not see the difference. -/
theorem step_commutes {f : σ → σ}
    (houtside : ∀ s event, system.outside (f s) event = (system.outside s event).map f)
    (hsegment : ∀ k q run, turn = .segment k → waiting pool k = some q →
      system.segment q = some run → ∀ s, run (f s) = ((run s).1, f (run s).2)) :
    system.step (mapShared f pool) turn = (system.step pool turn).map (mapShared f) := by
  cases turn with
  | outside event =>
      show (system.outside (f pool.shared) event).map _ = _
      rw [houtside, step]
      cases system.outside pool.shared event <;> rfl
  | start call => rfl
  | segment k =>
      show (match waiting pool k with | none => none | some q => _) = _
      simp only [step]
      cases hwaiting : waiting pool k with
      | none => rfl
      | some q =>
          cases hrun : system.segment q with
          | none => simp only [hrun]; rfl
          | some run =>
              simp only [hrun]
              rw [← resume_mapShared]
              show resume _ _ ⟨q, (run (f pool.shared)).1⟩ (run (f pool.shared)).2 = _
              rw [hsegment k q run rfl hwaiting hrun]
  | answer k reply =>
      simp only [step]
      cases system.segment reply.1 with
      | none => exact resume_mapShared
      | some run => rfl

end System

end Effect
