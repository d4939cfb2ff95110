import Mathlib.Data.List.Induction
import Mathlib.Data.List.Nodup

/-!
# Delivery with a memory that may forget

Inputs arrive one after another; an input about a slot is delivered unless the memory remembers the
slot.  The memory may forget, but what it remembers has arrived.

* `delivered` — the slots delivered in a run.
* `mem_delivered` — every slot that arrives is delivered.
* `delivered_nodup_iff` — none is delivered twice exactly when every slot that arrives again is
  still remembered.
-/

namespace Delivery

variable {σ ι κ : Type} {next : σ → ι → σ} {slot : ι → Option κ} {remembers : σ → κ → Bool}
  {s : σ} {inputs more : List ι} {i : ι} {k : κ}

/-- What one input delivers. -/
def deliver (slot : ι → Option κ) (remembers : σ → κ → Bool) (s : σ) (i : ι) : Option κ :=
  (slot i).filter fun k => !remembers s k

theorem deliver_eq_some :
    deliver slot remembers s i = some k ↔ slot i = some k ∧ remembers s k = false := by
  simp [deliver, Option.filter_eq_some_iff]

/-- The slots delivered, in order. -/
def delivered (next : σ → ι → σ) (slot : ι → Option κ) (remembers : σ → κ → Bool) :
    σ → List ι → List κ
  | _, [] => []
  | s, i :: rest =>
      (deliver slot remembers s i).toList ++ delivered next slot remembers (next s i) rest

theorem delivered_append :
    delivered next slot remembers s (inputs ++ more) =
      delivered next slot remembers s inputs ++
        delivered next slot remembers (inputs.foldl next s) more := by
  induction inputs generalizing s with
  | nil => rfl
  | cons i rest ih =>
      simp only [List.cons_append, delivered, ih, List.append_assoc, List.foldl_cons]

theorem delivered_concat :
    delivered next slot remembers s (inputs ++ [i]) =
      delivered next slot remembers s inputs ++
        (deliver slot remembers (inputs.foldl next s) i).toList := by
  rw [delivered_append]
  simp [delivered]

/-- What is remembered at any time has arrived. -/
def Honest (next : σ → ι → σ) (slot : ι → Option κ) (remembers : σ → κ → Bool) (s : σ)
    (inputs : List ι) : Prop :=
  ∀ earlier later k, inputs = earlier ++ later → remembers (earlier.foldl next s) k = true →
    k ∈ earlier.filterMap slot

theorem Honest.front (honest : Honest next slot remembers s (inputs ++ more)) :
    Honest next slot remembers s inputs := by
  intro earlier later k hsplit
  refine honest earlier (later ++ more) k ?_
  rw [hsplit, List.append_assoc]

theorem Honest.now (honest : Honest next slot remembers s (inputs ++ more))
    (hknown : remembers (inputs.foldl next s) k = true) : k ∈ inputs.filterMap slot :=
  honest inputs more k rfl hknown

/-- **Nothing is lost**: the slots delivered are the slots that arrive. -/
theorem mem_delivered (honest : Honest next slot remembers s inputs) :
    k ∈ delivered next slot remembers s inputs ↔ k ∈ inputs.filterMap slot := by
  induction inputs using List.reverseRecOn with
  | nil => simp [delivered]
  | append_singleton front i ih =>
      rw [delivered_concat, List.filterMap_append, List.mem_append, List.mem_append,
        ih honest.front, Option.mem_toList, deliver_eq_some]
      constructor
      · rintro (h | ⟨hslot, -⟩)
        · exact .inl h
        · exact .inr (List.mem_filterMap.2 ⟨i, List.mem_singleton_self i, hslot⟩)
      · rintro (h | h)
        · exact .inl h
        · obtain ⟨j, hj, hslot⟩ := List.mem_filterMap.1 h
          rw [List.mem_singleton.1 hj] at hslot
          -- a slot the memory knows has arrived already
          cases hknown : remembers (front.foldl next s) k with
          | true => exact .inl (honest.now hknown)
          | false => exact .inr ⟨hslot, rfl⟩

/-- Every slot that arrives again is still remembered. -/
def Recalled (next : σ → ι → σ) (slot : ι → Option κ) (remembers : σ → κ → Bool) (s : σ)
    (inputs : List ι) : Prop :=
  ∀ earlier i later k, inputs = earlier ++ i :: later → slot i = some k →
    k ∈ earlier.filterMap slot → remembers (earlier.foldl next s) k = true

theorem recalled_concat :
    Recalled next slot remembers s (inputs ++ [i]) ↔ Recalled next slot remembers s inputs ∧
      ∀ k, slot i = some k → k ∈ inputs.filterMap slot →
        remembers (inputs.foldl next s) k = true := by
  constructor
  · intro h
    refine ⟨fun earlier j later k hsplit => h earlier j (later ++ [i]) k ?_,
      fun k => h inputs i [] k rfl⟩
    rw [hsplit, List.append_assoc, List.cons_append]
  · rintro ⟨hfront, hlast⟩ earlier j later k hsplit
    rcases List.eq_nil_or_concat later with rfl | ⟨init, last, rfl⟩
    · obtain ⟨rfl, hj⟩ := List.append_inj' hsplit rfl
      cases hj
      exact hlast k
    · refine hfront earlier j init k ?_
      rw [List.concat_eq_append, ← List.cons_append, ← List.append_assoc] at hsplit
      exact (List.append_inj' hsplit rfl).1

/-- **Nothing is delivered twice** exactly when every slot that arrives again is still
remembered. -/
theorem delivered_nodup_iff (honest : Honest next slot remembers s inputs) :
    (delivered next slot remembers s inputs).Nodup ↔ Recalled next slot remembers s inputs := by
  induction inputs using List.reverseRecOn with
  | nil => simp [delivered, Recalled]
  | append_singleton front i ih =>
      have hnew : (∀ k, deliver slot remembers (front.foldl next s) i = some k →
            k ∉ delivered next slot remembers s front) ↔
          ∀ k, slot i = some k → k ∈ front.filterMap slot →
            remembers (front.foldl next s) k = true := by
        refine forall_congr' fun k => ?_
        rw [deliver_eq_some, mem_delivered honest.front]
        cases remembers (front.foldl next s) k <;> simp
      rw [delivered_concat, List.nodup_append, ih honest.front, recalled_concat, ← hnew]
      cases deliver slot remembers (front.foldl next s) i with
      | none => simp
      | some k =>
          simp only [Option.toList_some, List.nodup_singleton, List.mem_singleton,
            Option.some.injEq, true_and, forall_eq, forall_eq']
          exact and_congr_right fun _ =>
            ⟨fun h hk => h k hk rfl, fun h a ha heq => h (heq ▸ ha)⟩

end Delivery
