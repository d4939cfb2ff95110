import Mathlib.Data.List.TakeWhile
import Mathlib.Data.List.Nodup

/-!
# Lists read by cursor

A list of records with distinct cursors, read in pages that begin after a cursor, and lists joined
by a key.

* `page` — the records after a cursor, at most `limit` of them.
* `after_append` — the cursor of the last record read leaves exactly what was not read.
* `addNew` — the rows of another list whose keys are new; `mem_keys_addNew`, `nodup_addNew`.
-/

namespace Paging

variable {R K : Type} [DecidableEq K] {cursor key : R → K} {front tail records : List R} {x : R}

/-- The records strictly after the one with this cursor. -/
def after (cursor : R → K) (records : List R) (c : K) : List R :=
  (records.dropWhile fun r => decide (cursor r ≠ c)).tail

/-- The next records after the cursor, or the first ones, at most `limit` of them. -/
def page (limit : ℕ) (cursor : R → K) (records : List R) (c : Option K) : List R :=
  (c.elim records (after cursor records)).take limit

theorem after_append (hnodup : ((front ++ tail).map cursor).Nodup)
    (hlast : front.getLast? = some x) : after cursor (front ++ tail) (cursor x) = tail := by
  obtain ⟨init, rfl⟩ := List.getLast?_eq_some_iff.1 hlast
  have hinit : ∀ r ∈ init, cursor r ≠ cursor x := by
    intro r hr heq
    rw [List.append_assoc, List.map_append, List.nodup_append] at hnodup
    exact hnodup.2.2 (cursor r) (List.mem_map_of_mem hr) (cursor x) (by simp) heq
  unfold after
  rw [List.append_assoc, List.dropWhile_append_of_pos fun r hr => by simpa using hinit r hr]
  simp

/-- What a cursor after `front` leaves: all of it for the empty one. -/
def Resumes (cursor : R → K) (front : List R) (c : Option K) : Prop :=
  c = front.getLast?.map cursor

theorem page_of_resumes {limit : ℕ} {c : Option K} (hnodup : ((front ++ tail).map cursor).Nodup)
    (hc : Resumes cursor front c) : page limit cursor (front ++ tail) c = tail.take limit := by
  unfold Resumes at hc
  subst hc
  unfold page
  cases hlast : front.getLast? with
  | none =>
      rw [List.getLast?_eq_none_iff] at hlast
      subst hlast
      rfl
  | some x => exact congrArg (List.take limit) (after_append hnodup hlast)

/-! ## Rows with new keys -/

/-- `rows`, and the rows of `list` whose keys are not among theirs. -/
def addNew (key : R → K) (rows list : List R) : List R :=
  rows ++ list.filter fun r => decide (key r ∉ rows.map key)

@[simp] theorem addNew_nil (rows : List R) : addNew key rows [] = rows := by simp [addNew]

theorem addNew_cons {r : R} {rows list : List R} (hr : key r ∉ list.map key) :
    addNew key rows (r :: list) =
      addNew key (if key r ∈ rows.map key then rows else rows ++ [r]) list := by
  unfold addNew
  split
  · rename_i h
    rw [List.filter_cons_of_neg (by simpa using h)]
  · rename_i h
    rw [List.filter_cons_of_pos (by simpa using h), List.append_assoc, List.singleton_append]
    congr 2
    refine List.filter_congr fun r' hr' => ?_
    have hne : key r' ≠ key r := fun heq => hr (heq ▸ List.mem_map_of_mem hr')
    simp [hne]

theorem addNew_append {rows xs ys : List R} (hnodup : ((xs ++ ys).map key).Nodup) :
    addNew key rows (xs ++ ys) = addNew key (addNew key rows xs) ys := by
  unfold addNew
  rw [List.filter_append, List.append_assoc]
  congr 2
  refine List.filter_congr fun r hr => ?_
  rw [List.map_append, List.nodup_append] at hnodup
  have hfresh : key r ∉ (xs.filter fun r => decide (key r ∉ rows.map key)).map key := by
    intro hmem
    obtain ⟨x, hx, heq⟩ := List.mem_map.1 hmem
    exact hnodup.2.2 (key x) (List.mem_map_of_mem (List.mem_of_mem_filter hx)) (key r)
      (List.mem_map_of_mem hr) heq
  simp only [List.map_append, List.mem_append, hfresh, or_false]

theorem addNew_of_nil {list : List R} : addNew key [] list = list := by simp [addNew]

/-- The keys are those of both lists. -/
theorem mem_keys_addNew {rows list : List R} {k : K} :
    k ∈ (addNew key rows list).map key ↔ k ∈ rows.map key ∨ k ∈ list.map key := by
  simp only [addNew, List.map_append, List.mem_append, List.mem_map, List.mem_filter,
    decide_eq_true_eq]
  constructor
  · rintro (h | ⟨r, ⟨hr, -⟩, rfl⟩)
    · exact .inl h
    · exact .inr ⟨r, hr, rfl⟩
  · rintro (h | ⟨r, hr, rfl⟩)
    · exact .inl h
    · by_cases h : ∃ r' ∈ rows, key r' = key r
      · exact .inl h
      · exact .inr ⟨r, ⟨hr, h⟩, rfl⟩

/-- No key occurs twice. -/
theorem nodup_addNew {rows list : List R} (hrows : (rows.map key).Nodup)
    (hlist : (list.map key).Nodup) : ((addNew key rows list).map key).Nodup := by
  rw [addNew, List.map_append, List.nodup_append]
  refine ⟨hrows, hlist.sublist (List.Sublist.map key List.filter_sublist), ?_⟩
  intro k hk k' hk' heq
  obtain ⟨r, hr, rfl⟩ := List.mem_map.1 hk'
  have := of_decide_eq_true (List.mem_filter.1 hr).2
  exact this (heq ▸ hk)

end Paging
