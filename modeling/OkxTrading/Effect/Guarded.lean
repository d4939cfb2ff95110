import Mathlib.Data.List.Induction
import OkxTrading.Effect.Task

/-!
# Tasks that wait for each other

Tasks whose segments may have to wait, for a lock that another task holds or for something it
brings about, and which may be dropped wherever they wait.

* `Task.handle`, `Task.lift` — a task that is called by another, with its own errors and requests.
* `Task.RestsOn` — the task returns only values it was told.
* `Task.AsksOn` — the task asks for something only after it was told what that rests on.
* `Task.Protocol.Follows` — what a task may ask next depends on what it was answered.
* `Guarded.System.step`, `Guarded.System.run` — the turns of a pool; `step_cases` is all a turn can
  do.
* `run_history`, `run_turns` — what holds of the shared state, the tasks and what happened so far.
* `run_told`, `run_rests`, `run_asks` — what is left of a task is what it is after the answers it
  was given; a value that is returned was told, and so was what a request rests on.
* `script` — the turns of a fixed course of events.
-/

namespace Effect

namespace Task

variable {ε ε' γ γ' : Type} {ρ : γ → Type} {ρ' : γ' → Type} {α β : Type}

/-- Go on with the outcome of a task, whatever it is. -/
def handle (x : Task ε γ ρ α) (k : Except ε α → Task ε' γ ρ β) : Task ε' γ ρ β :=
  match x with
  | .done outcome => k outcome
  | .await q next => .await q fun answer => (next answer).handle k

/-- A task whose requests are asked as requests of another kind. -/
def lift (ask : γ → γ') (answered : ∀ q, ρ' (ask q) → ρ q) : Task ε γ ρ α → Task ε γ' ρ' α
  | .done outcome => .done outcome
  | .await q next => .await (ask q) fun answer => (next (answered q answer)).lift ask answered

theorem handle_bind {δ : Type} (x : Task ε γ ρ α) (f : α → Task ε γ ρ β)
    (k : Except ε β → Task ε' γ ρ δ) : (x >>= f).handle k = x.handle fun
      | .ok a => (f a).handle k
      | .error e => k (.error e) := by
  induction x with
  | done outcome => cases outcome <;> rfl
  | await q next ih => exact congrArg (await q) (funext ih)

section Upholds

variable {can : (q : γ) → ρ q → Prop} {can' : (q : γ') → ρ' q → Prop} {A : γ → Prop}
  {A' : γ' → Prop} {P : Except ε α → Prop} {Q : Except ε' β → Prop} {x : Task ε γ ρ α}

theorem Upholds.handle {k : Except ε α → Task ε' γ ρ β} (hx : x.Upholds can A P)
    (hk : ∀ r, P r → (k r).Upholds can A Q) : (x.handle k).Upholds can A Q := by
  induction x with
  | done outcome => exact hk outcome hx
  | await q next ih => exact ⟨hx.1, fun answer ha => ih answer (hx.2 answer ha)⟩

theorem Upholds.lift {ask : γ → γ'} {answered : ∀ q, ρ' (ask q) → ρ q}
    (hx : x.Upholds can A P) (hcan : ∀ q a, can' (ask q) a → can q (answered q a))
    (hA : ∀ q, A q → A' (ask q)) : (x.lift ask answered).Upholds can' A' P := by
  induction x with
  | done outcome => exact hx
  | await q next ih => exact ⟨hA q hx.1, fun answer ha => ih _ (hx.2 _ (hcan q answer ha))⟩

end Upholds

/-! ## What a value rests on -/

/-- The task returns only values it was told. -/
def RestsOn (told : α → (q : γ) → ρ q → Prop) (x : Task ε γ ρ α) : Prop :=
  ∀ W : α → Prop, x.Upholds (fun q answer => ∀ a, told a q answer → W a) (fun _ => True)
    fun r => ∀ a, r = .ok a → W a

section RestsOn

variable {told : α → (q : γ) → ρ q → Prop} {x : Task ε γ ρ α}

theorem restsOn_stop (e : ε) : (stop e : Task ε γ ρ α).RestsOn told := by
  rintro W a ⟨⟩

/-- A task whose value is returned, and whose errors are handled. -/
theorem RestsOn.handle {k : Except ε α → Task ε' γ ρ α} (hx : x.RestsOn told)
    (hok : ∀ a, k (.ok a) = pure a) (herror : ∀ e, (k (.error e)).RestsOn told) :
    (x.handle k).RestsOn told := by
  intro W
  refine (hx W).handle fun r hr => ?_
  cases r with
  | ok a =>
      rw [hok]
      rintro _ ⟨⟩
      exact hr a rfl
  | error e => exact herror e W

/-- Whatever comes first, the value is the one of the rest. -/
theorem RestsOn.after {y : Task ε γ ρ β} {f : β → Task ε γ ρ α} (hf : ∀ b, (f b).RestsOn told) :
    (y >>= f).RestsOn told := by
  intro W
  refine .bind (upholds_trivial y) (fun b _ => hf b W) fun e _ => ?_
  rintro a ⟨⟩

theorem RestsOn.map {told' : β → (q : γ) → ρ q → Prop} {g : α → β} (hx : x.RestsOn told)
    (hg : ∀ a q answer, told a q answer → told' (g a) q answer) :
    (x >>= fun a => pure (g a)).RestsOn told' := by
  intro W
  have hvalues : x.Upholds (fun q answer => ∀ b, told' b q answer → W b) (fun _ => True)
      fun r => ∀ a, r = .ok a → W (g a) :=
    (hx fun a => W (g a)).mono (fun q answer hW a ha => hW (g a) (hg a q answer ha))
      (fun _ h => h) fun _ h => h
  refine .bind hvalues (fun a ha => ?_) fun e _ => ?_
  · rintro _ ⟨⟩
    exact ha a rfl
  · rintro b ⟨⟩

theorem RestsOn.lift {told' : α → (q : γ') → ρ' q → Prop} {ask : γ → γ'}
    {answered : ∀ q, ρ' (ask q) → ρ q} (hx : x.RestsOn told)
    (htold : ∀ a q answer, told a q (answered q answer) → told' a (ask q) answer) :
    (x.lift ask answered).RestsOn told' := fun W =>
  Upholds.lift (hx W) (fun q answer hW a ha => hW a (htold a q answer ha)) fun _ h => h

end RestsOn

/-- The task asks for something only after it was told every fact this rests on. -/
def AsksOn {φ : Type} (told : φ → (q : γ) → ρ q → Prop) (needs : γ → φ → Prop)
    (x : Task ε γ ρ α) : Prop :=
  ∀ W : φ → Prop, x.Upholds (fun q answer => ∀ fact, told fact q answer → W fact)
    (fun q => ∀ fact, needs q fact → W fact) fun _ => True

/-! ## Protocols -/

/-- What a task may ask next, depending on what it was answered so far, and where it may end. -/
structure Protocol (γ : Type) (ρ : γ → Type) (τ : Type) where
  allows : τ → γ → Prop
  next : τ → (q : γ) → ρ q → τ
  mayEnd : τ → Prop

namespace Protocol

variable {τ : Type} (protocol : Protocol γ ρ τ)

/-- The task keeps to the protocol from `t` on, whatever it is answered. -/
def Follows : τ → Task ε γ ρ α → Prop
  | t, .done _ => protocol.mayEnd t
  | t, .await q next => protocol.allows t q ∧
      ∀ answer, Follows (protocol.next t q answer) (next answer)

/-- Asking `q` leaves the protocol where it is. -/
def Neutral (t : τ) (q : γ) : Prop := protocol.allows t q ∧ ∀ answer, protocol.next t q answer = t

variable {protocol} {t : τ} {x : Task ε γ ρ α} {P : Except ε α → Prop}

/-- After a part of which the protocol does not tell, the rest goes on from where it was. -/
theorem follows_handle {k : Except ε α → Task ε' γ ρ β}
    (hx : x.Upholds (fun _ _ => True) (protocol.Neutral t) P)
    (hk : ∀ r, P r → protocol.Follows t (k r)) : protocol.Follows t (x.handle k) := by
  induction x with
  | done outcome => exact hk outcome hx
  | await q next ih =>
      refine ⟨hx.1.1, fun answer => ?_⟩
      rw [hx.1.2 answer]
      exact ih answer (hx.2 answer trivial)

theorem follows_bind {f : α → Task ε γ ρ β} (hend : protocol.mayEnd t)
    (hx : x.Upholds (fun _ _ => True) (protocol.Neutral t) P)
    (hf : ∀ a, P (.ok a) → protocol.Follows t (f a)) : protocol.Follows t (x >>= f) := by
  induction x with
  | done outcome =>
      cases outcome with
      | ok a => exact hf a hx
      | error e => exact hend
  | await q next ih =>
      refine ⟨hx.1.1, fun answer => ?_⟩
      rw [hx.1.2 answer]
      exact ih answer (hx.2 answer trivial)

theorem follows_of_neutral (hend : protocol.mayEnd t)
    (hx : x.Upholds (fun _ _ => True) (protocol.Neutral t) P) : protocol.Follows t x := by
  induction x with
  | done outcome => exact hend
  | await q next ih =>
      refine ⟨hx.1.1, fun answer => ?_⟩
      rw [hx.1.2 answer]
      exact ih answer (hx.2 answer trivial)

/-- A task that is called with its requests renamed follows what the names stand for. -/
theorem follows_lift {ask : γ → γ'} {answered : ∀ q, ρ' (ask q) → ρ q} {outer : Protocol γ' ρ' τ}
    (hallows : ∀ t q, protocol.allows t q → outer.allows t (ask q))
    (hnext : ∀ t q answer, protocol.allows t q →
      outer.next t (ask q) answer = protocol.next t q (answered q answer))
    (hend : ∀ t, protocol.mayEnd t → outer.mayEnd t) (hx : protocol.Follows t x) :
    outer.Follows t (x.lift ask answered) := by
  induction x generalizing t with
  | done outcome => exact hend t hx
  | await q next ih =>
      refine ⟨hallows t q hx.1, fun answer => ?_⟩
      rw [hnext t q answer hx.1]
      exact ih _ (hx.2 _)

/-- A task that follows the protocol and is then looked at only for its value. -/
theorem follows_map {f : α → Task ε γ ρ β} (hx : protocol.Follows t x)
    (hf : ∀ a t, protocol.mayEnd t → protocol.Follows t (f a)) :
    protocol.Follows t (x >>= f) := by
  induction x generalizing t with
  | done outcome =>
      cases outcome with
      | ok a => exact hf a t hx
      | error e => exact hx
  | await q next ih => exact ⟨hx.1, fun answer => ih answer (hx.2 answer)⟩

end Protocol

end Task

namespace Guarded

/-- What the tasks run in.  A segment is told which task asks, and gives `none` while it has to
wait; a request without a segment is answered from outside. -/
structure System (ε σ η κ γ : Type) (ρ : γ → Type) (α : Type) where
  segment : (q : γ) → Option (ℕ → σ → Option (ρ q × σ))
  outside : σ → η → Option σ
  program : κ → Task ε γ ρ α
  /-- What is left of the shared state when a task that waits for `q` is dropped. -/
  dropped : ℕ → γ → σ → σ

/-- A call, and what is left to do of it; `none` once it was dropped. -/
structure Job (ε κ γ : Type) (ρ : γ → Type) (α : Type) where
  call : κ
  rest : Option (Task ε γ ρ α)

/-- The calls beside the state they share. -/
structure Pool (ε σ κ γ : Type) (ρ : γ → Type) (α : Type) where
  shared : σ
  jobs : List (Job ε κ γ ρ α)

/-- A turn; a job is known by its place in the pool. -/
inductive Turn (η κ γ : Type) (ρ : γ → Type) where
  | outside (event : η)
  | start (call : κ)
  | segment (job : ℕ)
  | answer (job : ℕ) (reply : Σ q : γ, ρ q)
  | drop (job : ℕ)

namespace System

variable {ε σ η κ γ : Type} {ρ : γ → Type} {α ω : Type} [DecidableEq γ]
  (system : System ε σ η κ γ ρ α)

/-- The request a job waits for. -/
def waiting (pool : Pool ε σ κ γ ρ α) (k : ℕ) : Option γ :=
  (pool.jobs[k]?.bind fun job => job.rest).bind fun rest => rest.waiting?

/-- The job goes on with an answer, where it waits for one. -/
def resume (pool : Pool ε σ κ γ ρ α) (k : ℕ) (reply : Σ q : γ, ρ q) (shared : σ) :
    Option (Pool ε σ κ γ ρ α) :=
  match pool.jobs[k]? with
  | some ⟨call, some (.await q next)⟩ =>
      if h : reply.1 = q then
        some ⟨shared, pool.jobs.set k ⟨call, some (next (h ▸ reply.2))⟩⟩
      else none
  | _ => none

/-- A turn of one call, or a change of the shared state from outside; `none` where it cannot
happen. -/
def step (pool : Pool ε σ κ γ ρ α) : Turn η κ γ ρ → Option (Pool ε σ κ γ ρ α)
  | .outside event => (system.outside pool.shared event).map fun shared => ⟨shared, pool.jobs⟩
  | .start call => some ⟨pool.shared, pool.jobs ++ [⟨call, some (system.program call)⟩]⟩
  | .segment k =>
      match waiting pool k with
      | none => none
      | some q =>
          match system.segment q with
          | none => none
          | some run =>
              (run k pool.shared).bind fun (answer, shared) => resume pool k ⟨q, answer⟩ shared
  | .answer k reply =>
      match system.segment reply.1 with
      | some _ => none
      | none => resume pool k reply pool.shared
  | .drop k =>
      match pool.jobs[k]? with
      | some ⟨call, some (.await q _)⟩ =>
          some ⟨system.dropped k q pool.shared, pool.jobs.set k ⟨call, none⟩⟩
      | _ => none

/-- A run: its turns one after another. -/
def run (pool : Pool ε σ κ γ ρ α) : List (Turn η κ γ ρ) → Option (Pool ε σ κ γ ρ α)
  | [] => some pool
  | turn :: rest => (system.step pool turn).bind fun next => run next rest

/-- What is observed in a run, turn by turn. -/
def observed (observe : Pool ε σ κ γ ρ α → Turn η κ γ ρ → List ω) (pool : Pool ε σ κ γ ρ α) :
    List (Turn η κ γ ρ) → List ω
  | [] => []
  | turn :: rest =>
      observe pool turn ++ (system.step pool turn).elim [] fun next => observed observe next rest

variable {system} {pool next last : Pool ε σ κ γ ρ α} {turn : Turn η κ γ ρ}
  {turns : List (Turn η κ γ ρ)} {observe : Pool ε σ κ γ ρ α → Turn η κ γ ρ → List ω}

theorem resume_eq_some {k : ℕ} {reply : Σ q : γ, ρ q} {shared : σ} :
    resume pool k reply shared = some next ↔ ∃ call rest,
      pool.jobs[k]? = some ⟨call, some (.await reply.1 rest)⟩ ∧
        next = ⟨shared, pool.jobs.set k ⟨call, some (rest reply.2)⟩⟩ := by
  obtain ⟨q, answer⟩ := reply
  constructor
  · intro h
    unfold resume at h
    split at h
    · rename_i call q' rest hjob
      split at h
      · rename_i heq
        cases heq
        cases h
        exact ⟨call, rest, hjob, rfl⟩
      · cases h
    · cases h
  · rintro ⟨call, rest, hjob, rfl⟩
    unfold resume
    simp only [hjob, dite_true]

omit [DecidableEq γ] in
theorem waiting_eq_some {k : ℕ} {q : γ} : waiting pool k = some q ↔
    ∃ call rest, pool.jobs[k]? = some ⟨call, some (.await q rest)⟩ := by
  simp only [waiting, Option.bind_eq_some_iff]
  constructor
  · rintro ⟨rest, ⟨⟨call, _⟩, hjob, rfl⟩, hwaiting⟩
    cases rest with
    | done outcome => cases hwaiting
    | await q' next =>
        cases hwaiting
        exact ⟨call, next, hjob⟩
  · rintro ⟨call, rest, hjob⟩
    exact ⟨_, ⟨_, hjob, rfl⟩, rfl⟩

/-- All a turn can do. -/
theorem step_cases (h : system.step pool turn = some next) :
    (∃ event shared, turn = .outside event ∧ system.outside pool.shared event = some shared ∧
      next = ⟨shared, pool.jobs⟩) ∨
    (∃ call, turn = .start call ∧
      next = ⟨pool.shared, pool.jobs ++ [⟨call, some (system.program call)⟩]⟩) ∨
    (∃ k call q rest run answer shared, turn = .segment k ∧
      pool.jobs[k]? = some ⟨call, some (.await q rest)⟩ ∧ system.segment q = some run ∧
      run k pool.shared = some (answer, shared) ∧
      next = ⟨shared, pool.jobs.set k ⟨call, some (rest answer)⟩⟩) ∨
    (∃ k call q rest answer, turn = .answer k ⟨q, answer⟩ ∧
      pool.jobs[k]? = some ⟨call, some (.await q rest)⟩ ∧ system.segment q = none ∧
      next = ⟨pool.shared, pool.jobs.set k ⟨call, some (rest answer)⟩⟩) ∨
    (∃ k call q rest, turn = .drop k ∧ pool.jobs[k]? = some ⟨call, some (.await q rest)⟩ ∧
      next = ⟨system.dropped k q pool.shared, pool.jobs.set k ⟨call, none⟩⟩) := by
  cases turn with
  | outside event =>
      obtain ⟨shared, hshared, rfl⟩ := Option.map_eq_some_iff.1 h
      exact .inl ⟨event, shared, rfl, hshared, rfl⟩
  | start call =>
      cases h
      exact .inr (.inl ⟨call, rfl, rfl⟩)
  | segment k =>
      simp only [step] at h
      split at h
      · cases h
      · split at h
        · cases h
        · rename_i q hwaiting _ run hrun
          obtain ⟨⟨answer, shared⟩, hsome, hresume⟩ := Option.bind_eq_some_iff.1 h
          obtain ⟨call, rest, hjob, rfl⟩ := resume_eq_some.1 hresume
          exact .inr (.inr (.inl
            ⟨k, call, q, rest, run, answer, shared, rfl, hjob, hrun, hsome, rfl⟩))
  | answer k reply =>
      simp only [step] at h
      split at h
      · cases h
      · rename_i hnone
        obtain ⟨call, rest, hjob, rfl⟩ := resume_eq_some.1 h
        exact .inr (.inr (.inr (.inl ⟨k, call, reply.1, rest, reply.2, rfl, hjob, hnone, rfl⟩)))
  | drop k =>
      simp only [step] at h
      split at h
      · rename_i call q rest hjob
        cases h
        exact .inr (.inr (.inr (.inr ⟨k, call, q, rest, rfl, hjob, rfl⟩)))
      · cases h

theorem run_cons : system.run pool (turn :: turns) = some last ↔
    ∃ next, system.step pool turn = some next ∧ system.run next turns = some last :=
  Option.bind_eq_some_iff

theorem observed_cons (h : system.step pool turn = some next) :
    system.observed observe pool (turn :: turns) =
      observe pool turn ++ system.observed observe next turns := by
  rw [observed, h]
  rfl

/-- A run goes on from where its first part ended. -/
theorem run_append {more : List (Turn η κ γ ρ)} :
    system.run pool (turns ++ more) = some last ↔
      ∃ mid, system.run pool turns = some mid ∧ system.run mid more = some last := by
  induction turns generalizing pool with
  | nil => simp [run]
  | cons turn rest ih =>
      rw [List.cons_append, run_cons]
      constructor
      · rintro ⟨next, hstep, hrest⟩
        obtain ⟨mid, hmid, hlast⟩ := ih.1 hrest
        exact ⟨mid, run_cons.2 ⟨next, hstep, hmid⟩, hlast⟩
      · rintro ⟨mid, hmid, hlast⟩
        obtain ⟨next, hstep, hrest⟩ := run_cons.1 hmid
        exact ⟨next, hstep, ih.2 ⟨mid, hrest, hlast⟩⟩

/-- The segment a job waits for is a turn where it runs. -/
theorem step_segment_isSome {k : ℕ} {call : κ} {q : γ} {rest : ρ q → Task ε γ ρ α}
    {run : ℕ → σ → Option (ρ q × σ)} (hjob : pool.jobs[k]? = some ⟨call, some (.await q rest)⟩)
    (hrun : system.segment q = some run) :
    (system.step pool (.segment k)).isSome = (run k pool.shared).isSome := by
  simp only [step, waiting_eq_some.2 ⟨call, rest, hjob⟩, hrun]
  cases hsome : run k pool.shared with
  | none => rfl
  | some result =>
      obtain ⟨answer, shared⟩ := result
      have hresume : resume pool k ⟨q, answer⟩ shared = some _ :=
        resume_eq_some.2 ⟨call, rest, hjob, rfl⟩
      rw [Option.bind_some, hresume]
      rfl

/-- A request without a segment can be answered in any way. -/
theorem step_answer_isSome {k : ℕ} {call : κ} {q : γ} {rest : ρ q → Task ε γ ρ α}
    (hjob : pool.jobs[k]? = some ⟨call, some (.await q rest)⟩) (hnone : system.segment q = none)
    (reply : ρ q) : (system.step pool (.answer k ⟨q, reply⟩)).isSome = true := by
  have hresume : resume pool k ⟨q, reply⟩ pool.shared = some _ :=
    resume_eq_some.2 ⟨call, rest, hjob, rfl⟩
  simp only [step, hnone, hresume, Option.isSome_some]

/-! ## Whole runs -/

/-- What holds at the start, of the pool and of what was observed, and is kept by every turn. -/
theorem run_history {J : List ω → Pool ε σ κ γ ρ α → Prop}
    (observe : Pool ε σ κ γ ρ α → Turn η κ γ ρ → List ω) (before : List ω)
    (turn : ∀ seen pool turn next, J seen pool → system.step pool turn = some next →
      J (seen ++ observe pool turn) next)
    (h : system.run pool turns = some last) (start : J before pool) :
    J (before ++ system.observed observe pool turns) last := by
  induction turns generalizing pool before with
  | nil =>
      cases h
      rwa [observed, List.append_nil]
  | cons first rest ih =>
      obtain ⟨next, hstep, hrest⟩ := run_cons.1 h
      rw [observed_cons hstep, ← List.append_assoc]
      exact ih _ hrest (turn before pool first next start hstep)

/-- The same for what also depends on the turns themselves. -/
theorem run_turns {J : List (Turn η κ γ ρ) → Pool ε σ κ γ ρ α → Prop}
    (turn : ∀ before mid turn next, system.run pool before = some mid → J before mid →
      system.step mid turn = some next → J (before ++ [turn]) next)
    (h : system.run pool turns = some last) (start : J [] pool) : J turns last := by
  induction turns using List.reverseRecOn generalizing last with
  | nil =>
      cases h
      exact start
  | append_singleton earlier final ih =>
      obtain ⟨mid, hmid, hturn⟩ := run_append.1 h
      obtain ⟨next, hstep, hnext⟩ := run_cons.1 hturn
      cases hnext
      exact turn earlier mid final _ hmid (ih hmid) hstep

/-- What a turn does to one job: it is started, goes on with an answer, is dropped, or stays. -/
theorem job_step {k : ℕ} {call : κ} {rest : Option (Task ε γ ρ α)}
    (h : system.step pool turn = some next) (hget : next.jobs[k]? = some ⟨call, rest⟩) :
    pool.jobs[k]? = some ⟨call, rest⟩ ∨
    (turn = .start call ∧ k = pool.jobs.length ∧ rest = some (system.program call)) ∨
    (∃ q later answer, pool.jobs[k]? = some ⟨call, some (.await q later)⟩ ∧
      rest = some (later answer) ∧
      ((∃ run, turn = .segment k ∧ system.segment q = some run ∧
          run k pool.shared = some (answer, next.shared)) ∨
        turn = .answer k ⟨q, answer⟩ ∧ system.segment q = none)) ∨
    (∃ q later, turn = .drop k ∧ pool.jobs[k]? = some ⟨call, some (.await q later)⟩ ∧
      rest = none) := by
  have hset : ∀ {j : ℕ} {old new : Job ε κ γ ρ α}, pool.jobs[j]? = some old →
      (pool.jobs.set j new)[k]? = some ⟨call, rest⟩ →
      pool.jobs[k]? = some ⟨call, rest⟩ ∨ j = k ∧ new = ⟨call, rest⟩ := by
    intro j old new hold hnew
    by_cases hj : j = k
    · subst hj
      rw [List.getElem?_set_self (List.getElem?_eq_some_iff.1 hold).1] at hnew
      exact .inr ⟨rfl, Option.some.inj hnew⟩
    · rw [List.getElem?_set_ne hj] at hnew
      exact .inl hnew
  rcases step_cases h with ⟨event, shared, rfl, -, rfl⟩ | ⟨started, rfl, rfl⟩ |
    ⟨j, asker, q, later, run, answer, shared, rfl, hjob, hrun, hsome, rfl⟩ |
    ⟨j, asker, q, later, answer, rfl, hjob, hnone, rfl⟩ | ⟨j, asker, q, later, rfl, hjob, rfl⟩
  · exact .inl hget
  · rcases Nat.lt_trichotomy k pool.jobs.length with hk | hk | hk
    · rw [List.getElem?_append_left hk] at hget
      exact .inl hget
    · subst hk
      rw [List.getElem?_concat_length] at hget
      cases hget
      exact .inr (.inl ⟨rfl, rfl, rfl⟩)
    · rw [List.getElem?_eq_none (by rw [List.length_append]; exact hk)] at hget
      cases hget
  · rcases hset hjob hget with hold | ⟨rfl, hnew⟩
    · exact .inl hold
    · cases hnew
      exact .inr (.inr (.inl ⟨q, later, answer, hjob, rfl, .inl ⟨run, rfl, hrun, hsome⟩⟩))
  · rcases hset hjob hget with hold | ⟨rfl, hnew⟩
    · exact .inl hold
    · cases hnew
      exact .inr (.inr (.inl ⟨q, later, answer, hjob, rfl, .inr ⟨rfl, hnone⟩⟩))
  · rcases hset hjob hget with hold | ⟨rfl, hnew⟩
    · exact .inl hold
    · cases hnew
      exact .inr (.inr (.inr ⟨q, later, rfl, hjob, rfl⟩))

/-- A job keeps its place and its call. -/
theorem job_kept {k : ℕ} {job : Job ε κ γ ρ α} (h : system.step pool turn = some next)
    (hjob : pool.jobs[k]? = some job) :
    ∃ job', next.jobs[k]? = some job' ∧ job'.call = job.call := by
  have hset : ∀ {j : ℕ} {call : κ} {old new : Option (Task ε γ ρ α)},
      pool.jobs[j]? = some ⟨call, old⟩ →
      ∃ job', (pool.jobs.set j ⟨call, new⟩)[k]? = some job' ∧ job'.call = job.call := by
    intro j call old new hold
    by_cases hj : j = k
    · subst hj
      rw [hjob] at hold
      cases hold
      exact ⟨_, List.getElem?_set_self (List.getElem?_eq_some_iff.1 hjob).1, rfl⟩
    · exact ⟨job, by rw [List.getElem?_set_ne hj, hjob], rfl⟩
  rcases step_cases h with ⟨event, shared, -, -, rfl⟩ | ⟨call, -, rfl⟩ |
    ⟨j, call, q, rest, run, answer, shared, -, hold, -, -, rfl⟩ |
    ⟨j, call, q, rest, answer, -, hold, -, rfl⟩ | ⟨j, call, q, rest, -, hold, rfl⟩
  · exact ⟨job, hjob, rfl⟩
  · exact ⟨job, (List.getElem?_append_left (List.getElem?_eq_some_iff.1 hjob).1).trans hjob, rfl⟩
  · exact hset hold
  · exact hset hold
  · exact hset hold

/-- The call of a job is the same in the whole run. -/
theorem run_job_kept {k : ℕ} {job job' : Job ε κ γ ρ α} (h : system.run pool turns = some last)
    (hjob : pool.jobs[k]? = some job) (hlast : last.jobs[k]? = some job') :
    job'.call = job.call := by
  induction turns generalizing pool job with
  | nil =>
      cases h
      rw [hjob] at hlast
      cases hlast
      rfl
  | cons turn rest ih =>
      obtain ⟨next, hstep, hrest⟩ := run_cons.1 h
      obtain ⟨kept, hkept, hcall⟩ := job_kept hstep hjob
      exact (ih hrest hkept).trans hcall

/-! ## What a job was told -/

/-- The turn answers job `k`. -/
def Tells (system : System ε σ η κ γ ρ α) (pool : Pool ε σ κ γ ρ α) (turn : Turn η κ γ ρ) (k : ℕ)
    (q : γ) (answer : ρ q) : Prop :=
  (∃ run shared, turn = .segment k ∧ system.segment q = some run ∧
      run k pool.shared = some (answer, shared)) ∨
    turn = .answer k ⟨q, answer⟩ ∧ system.segment q = none

/-- What is left of a job is what it is after the answers it was given. -/
theorem run_told {can : (q : γ) → ρ q → Prop} {A : γ → Prop} {P : Except ε α → Prop} {k : ℕ}
    {call : κ} {rest : Task ε γ ρ α} {s : σ} (program : (system.program call).Upholds can A P)
    (h : system.run ⟨s, []⟩ turns = some last) (hjob : last.jobs[k]? = some ⟨call, some rest⟩)
    (htold : ∀ before turn after mid, turns = before ++ turn :: after →
      system.run ⟨s, []⟩ before = some mid → ∀ q answer, system.Tells mid turn k q answer →
        can q answer) : rest.Upholds can A P := by
  induction turns using List.reverseRecOn generalizing last rest with
  | nil =>
      cases h
      cases hjob
  | append_singleton earlier turn ih =>
      obtain ⟨mid, hmid, hturn⟩ := run_append.1 h
      obtain ⟨next, hstep, hnext⟩ := run_cons.1 hturn
      cases hnext
      have hbefore : ∀ before turn' after mid, earlier = before ++ turn' :: after →
          system.run ⟨s, []⟩ before = some mid → ∀ q answer, system.Tells mid turn' k q answer →
            can q answer := by
        intro before turn' after mid heq
        exact htold before turn' (after ++ [turn]) mid (by rw [heq, List.append_assoc]; rfl)
      rcases job_step hstep hjob with hold | ⟨-, -, hrest⟩ |
        ⟨q, later, answer, hold, hrest, hhow⟩ | ⟨q, later, -, -, hrest⟩
      · exact ih hmid hold hbefore
      · cases hrest
        exact program
      · cases hrest
        refine (ih hmid hold hbefore).2 answer (htold earlier turn [] mid rfl hmid q answer ?_)
        rcases hhow with ⟨run, hsegment, hrun, hsome⟩ | hanswer
        · exact .inl ⟨run, _, hsegment, hrun, hsome⟩
        · exact .inr hanswer
      · cases hrest

/-- Job `k` was told so in a turn of the run. -/
def WasTold (system : System ε σ η κ γ ρ α) (s : σ) (turns : List (Turn η κ γ ρ)) (k : ℕ)
    (told : (q : γ) → ρ q → Prop) : Prop :=
  ∃ before turn after mid q answer, turns = before ++ turn :: after ∧
    system.run ⟨s, []⟩ before = some mid ∧ system.Tells mid turn k q answer ∧ told q answer

theorem WasTold.append {told : (q : γ) → ρ q → Prop} {k : ℕ} {s : σ}
    (h : system.WasTold s turns k told) (more : List (Turn η κ γ ρ)) :
    system.WasTold s (turns ++ more) k told := by
  obtain ⟨before, turn, after, mid, q, answer, rfl, hmid, htells, htold⟩ := h
  exact ⟨before, turn, after ++ more, mid, q, answer, by rw [List.append_assoc]; rfl, hmid, htells,
    htold⟩

/-- **A value that is returned was told**, in one of the turns of the run. -/
theorem run_rests {told : α → (q : γ) → ρ q → Prop} {k : ℕ} {call : κ} {a : α} {s : σ}
    (program : (system.program call).RestsOn told) (h : system.run ⟨s, []⟩ turns = some last)
    (hjob : last.jobs[k]? = some ⟨call, some (.done (.ok a))⟩) :
    system.WasTold s turns k (told a) := by
  have hvalue := run_told (program fun a => system.WasTold s turns k (told a)) h hjob
    fun before turn after mid hturns hmid q answer htells a ha =>
      ⟨before, turn, after, mid, q, answer, hturns, hmid, htells, ha⟩
  exact hvalue a rfl

/-- **What a request rests on was told**, before it is asked. -/
theorem run_asks {φ : Type} {told : φ → (q : γ) → ρ q → Prop} {needs : γ → φ → Prop} {k : ℕ}
    {call : κ} {q : γ} {rest : ρ q → Task ε γ ρ α} {s : σ} {fact : φ}
    (program : (system.program call).AsksOn told needs)
    (h : system.run ⟨s, []⟩ turns = some last)
    (hjob : last.jobs[k]? = some ⟨call, some (.await q rest)⟩) (hneeds : needs q fact) :
    system.WasTold s turns k (told fact) := by
  have hasks := run_told (program fun fact => system.WasTold s turns k (told fact)) h hjob
    fun before turn after mid hturns hmid q answer htells fact hfact =>
      ⟨before, turn, after, mid, q, answer, hturns, hmid, htells, hfact⟩
  exact hasks.1 fact hneeds

theorem observed_append {more : List (Turn η κ γ ρ)} {mid : Pool ε σ κ γ ρ α}
    (h : system.run pool turns = some mid) :
    system.observed observe pool (turns ++ more) =
      system.observed observe pool turns ++ system.observed observe mid more := by
  induction turns generalizing pool with
  | nil =>
      cases h
      rfl
  | cons turn rest ih =>
      obtain ⟨next, hstep, hrest⟩ := run_cons.1 h
      rw [List.cons_append, observed_cons hstep, observed_cons hstep, ih hrest, List.append_assoc]

/-- What is observed in a part of a run is observed in the run. -/
theorem observed_prefix {more : List (Turn η κ γ ρ)} {mid : Pool ε σ κ γ ρ α} {seen : ω}
    (h : system.run pool turns = some mid) (hseen : seen ∈ system.observed observe pool turns) :
    seen ∈ system.observed observe pool (turns ++ more) := by
  rw [observed_append h]
  exact List.mem_append_left _ hseen

/-- What is observed at a turn of a run is observed in the run. -/
theorem observed_turn {turn : Turn η κ γ ρ} {after : List (Turn η κ γ ρ)}
    {mid : Pool ε σ κ γ ρ α} {seen : ω} (h : system.run pool turns = some mid)
    (hseen : seen ∈ observe mid turn) :
    seen ∈ system.observed observe pool (turns ++ turn :: after) := by
  rw [observed_append h, observed]
  exact List.mem_append_right _ (List.mem_append_left _ hseen)

/-! ## Scripts -/

/-- The next turn of a job, where requests are answered by `answers`. -/
def nextTurn (system : System ε σ η κ γ ρ α) (answers : (q : γ) → Option (ρ q)) (k : ℕ)
    (pool : Pool ε σ κ γ ρ α) : Option (Turn η κ γ ρ) :=
  (waiting pool k).bind fun q =>
    match system.segment q with
    | some _ => some (.segment k)
    | none => (answers q).map fun answer => .answer k ⟨q, answer⟩

/-- At most `n` turns of a job on its own, until it has to wait. -/
def turnsOf (system : System ε σ η κ γ ρ α) (answers : (q : γ) → Option (ρ q)) (k : ℕ) :
    ℕ → Pool ε σ κ γ ρ α → List (Turn η κ γ ρ)
  | 0, _ => []
  | n + 1, pool =>
      match system.nextTurn answers k pool with
      | none => []
      | some turn => (system.step pool turn).elim [] fun next =>
          turn :: turnsOf system answers k n next

/-- The turns of a script: each entry says what to do next in the pool reached so far. -/
def script (system : System ε σ η κ γ ρ α) :
    List (Pool ε σ κ γ ρ α → List (Turn η κ γ ρ)) → Pool ε σ κ γ ρ α → List (Turn η κ γ ρ)
  | [], _ => []
  | entry :: rest, pool =>
      entry pool ++ (system.run pool (entry pool)).elim [] (script system rest)

end System

end Guarded

end Effect
