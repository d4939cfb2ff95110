import Mathlib.Data.List.Sort
import Mathlib.Data.List.Nodup
import Mathlib.Order.Defs.LinearOrder

/-!
# Maps kept in the order of their keys

A list of entries whose keys increase: what an ordered tree map holds, in the order it is walked.

* `SortedMap` — the entries and the proof that their keys increase.
* `get?_insert`, `get?_erase` — what an update does.
* `first?_le`, `le_last?` — the ends are the least and the greatest key.
* `firstN`, `lastN` — the entries at one end, as `erase` of the other end leaves them.
* `collect`, `lastWith` — values that carry their keys, of which the last one of a key stays.
-/

namespace Collections

/-- Entries with increasing keys. -/
structure SortedMap (K V : Type) [LinearOrder K] where
  entries : List (K × V)
  sorted : entries.Pairwise fun a b => a.1 < b.1
  deriving DecidableEq

namespace SortedMap

variable {K V : Type} [LinearOrder K] {m m' : SortedMap K V} {k k' : K} {v : V} {e x : K × V}

/-- A map is its entries. -/
theorem ext_entries (h : m.entries = m'.entries) : m = m' := by
  cases m
  cases m'
  cases h
  rfl

def empty : SortedMap K V := ⟨[], List.Pairwise.nil⟩

def size (m : SortedMap K V) : ℕ := m.entries.length

def isEmpty (m : SortedMap K V) : Bool := m.entries.isEmpty

/-- The value under a key. -/
def get? (m : SortedMap K V) (k : K) : Option V :=
  (m.entries.find? fun e => decide (e.1 = k)).map (·.2)

/-- Put an entry in its place, over the one with its key. -/
def insert (m : SortedMap K V) (k : K) (v : V) : SortedMap K V where
  entries := m.entries.filter (fun e => decide (e.1 < k)) ++
    (k, v) :: m.entries.filter fun e => decide (k < e.1)
  sorted := by
    rw [List.pairwise_append, List.pairwise_cons]
    refine ⟨m.sorted.filter _, ⟨?_, m.sorted.filter _⟩, ?_⟩
    · intro e he
      exact of_decide_eq_true (List.mem_filter.1 he).2
    · intro a ha b hb
      have hlt : a.1 < k := of_decide_eq_true (List.mem_filter.1 ha).2
      rcases List.mem_cons.1 hb with rfl | hb
      · exact hlt
      · exact hlt.trans (of_decide_eq_true (List.mem_filter.1 hb).2)

/-- The map without a key. -/
def erase (m : SortedMap K V) (k : K) : SortedMap K V :=
  ⟨m.entries.filter fun e => decide (e.1 ≠ k), m.sorted.filter _⟩

/-- The entry with the least key. -/
def first? (m : SortedMap K V) : Option (K × V) := m.entries.head?

/-- The entry with the greatest key. -/
def last? (m : SortedMap K V) : Option (K × V) := m.entries.getLast?

/-- The entries with the least keys. -/
def firstN (m : SortedMap K V) (n : ℕ) : SortedMap K V :=
  ⟨m.entries.take n, m.sorted.sublist (List.take_sublist _ _)⟩

/-- The entries with the greatest keys. -/
def lastN (m : SortedMap K V) (n : ℕ) : SortedMap K V :=
  ⟨m.entries.drop (m.size - n), m.sorted.sublist (List.drop_sublist _ _)⟩

/-! ## Entries -/

/-- A key has one entry. -/
theorem eq_of_mem (h : e ∈ m.entries) (h' : x ∈ m.entries) (hkey : e.1 = x.1) : e = x := by
  have hone : m.entries.Pairwise fun a b => a.1 = b.1 → a = b :=
    m.sorted.imp fun hlt heq => absurd heq hlt.ne
  have hflip : m.entries.Pairwise (flip fun a b => a.1 = b.1 → a = b) :=
    m.sorted.imp fun hlt heq => absurd heq hlt.ne'
  exact hone.forall_of_forall_of_flip (fun _ _ _ => rfl) hflip h h' hkey

@[simp] theorem mem_empty : e ∈ (empty : SortedMap K V).entries ↔ False := by simp [empty]

@[simp] theorem mem_insert : e ∈ (m.insert k v).entries ↔ e = (k, v) ∨ e ∈ m.entries ∧ e.1 ≠ k := by
  have hsplit : e.1 ≠ k ↔ e.1 < k ∨ k < e.1 := lt_or_lt_iff_ne.symm
  simp only [insert, List.mem_append, List.mem_cons, List.mem_filter, decide_eq_true_eq, hsplit]
  tauto

@[simp] theorem mem_erase : e ∈ (m.erase k).entries ↔ e ∈ m.entries ∧ e.1 ≠ k := by
  simp [erase]

theorem ext_mem (h : ∀ e, e ∈ m.entries ↔ e ∈ m'.entries) : m = m' := by
  refine ext_entries (List.Perm.eq_of_pairwise
    (fun a b _ _ hab hba => absurd hab (lt_asymm hba)) m.sorted m'.sorted ?_)
  have hnodup : ∀ n : SortedMap K V, n.entries.Nodup := fun n =>
    n.sorted.imp fun hlt heq => absurd (congrArg Prod.fst heq) hlt.ne
  exact (List.perm_ext_iff_of_nodup (hnodup m) (hnodup m')).2 h

theorem get?_eq_some : m.get? k = some v ↔ (k, v) ∈ m.entries := by
  unfold get?
  rw [Option.map_eq_some_iff]
  constructor
  · rintro ⟨⟨k', v'⟩, hfind, rfl⟩
    have hkey : k' = k := by simpa using List.find?_some hfind
    exact hkey ▸ List.mem_of_find?_eq_some hfind
  · intro hmem
    cases hfind : m.entries.find? fun e => decide (e.1 = k) with
    | none => exact absurd (by simp) (List.find?_eq_none.1 hfind _ hmem)
    | some e =>
        have hkey : e.1 = k := by simpa using List.find?_some hfind
        exact ⟨e, rfl, congrArg Prod.snd (eq_of_mem (List.mem_of_find?_eq_some hfind) hmem hkey)⟩

theorem get?_eq_none : m.get? k = none ↔ ∀ e ∈ m.entries, e.1 ≠ k := by
  simp [get?]

@[simp] theorem get?_empty : (empty : SortedMap K V).get? k = none := rfl

@[simp] theorem get?_insert :
    (m.insert k v).get? k' = if k' = k then some v else m.get? k' := by
  ext w
  rw [get?_eq_some, mem_insert]
  split
  · rename_i h
    simp [h, eq_comm]
  · rename_i h
    simp [h, get?_eq_some]

@[simp] theorem get?_erase : (m.erase k).get? k' = if k' = k then none else m.get? k' := by
  ext w
  rw [get?_eq_some, mem_erase]
  split
  · rename_i h
    simp [h]
  · rename_i h
    simp [h, get?_eq_some]

/-- Erasing a key that is not there changes nothing. -/
theorem erase_of_get?_eq_none (h : m.get? k = none) : m.erase k = m := by
  refine ext_mem fun e => ?_
  rw [mem_erase]
  exact ⟨And.left, fun he => ⟨he, get?_eq_none.1 h e he⟩⟩

theorem size_erase_le : (m.erase k).size ≤ m.size := List.length_filter_le _ _

theorem size_insert_le : (m.insert k v).size ≤ m.size + 1 := by
  have hrest : (m.entries.filter fun e => decide (k < e.1)).length ≤
      (m.entries.filter fun e => !decide (e.1 < k)).length := by
    refine (List.monotone_filter_right _ fun e => ?_).length_le
    simpa using le_of_lt
  have hsplit := List.length_eq_length_filter_add (l := m.entries) fun e => decide (e.1 < k)
  simp only [insert, size, List.length_append, List.length_cons]
  omega

theorem nodup_keys (m : SortedMap K V) : (m.entries.map (·.1)).Nodup :=
  List.pairwise_map.2 (m.sorted.imp fun hlt => hlt.ne)

/-- Replacing an entry changes no size. -/
theorem size_insert_of_get? {w : V} (h : m.get? k = some w) : (m.insert k v).size = m.size := by
  have hkeys : ((m.insert k v).entries.map (·.1)).Perm (m.entries.map (·.1)) := by
    refine (List.perm_ext_iff_of_nodup (nodup_keys _) (nodup_keys _)).2 fun key => ?_
    simp only [List.mem_map, mem_insert]
    constructor
    · rintro ⟨e, rfl | ⟨he, -⟩, rfl⟩
      · exact ⟨(k, w), get?_eq_some.1 h, rfl⟩
      · exact ⟨e, he, rfl⟩
    · rintro ⟨e, he, rfl⟩
      by_cases hk : e.1 = k
      · exact ⟨(k, v), .inl rfl, hk.symm⟩
      · exact ⟨e, .inr ⟨he, hk⟩, rfl⟩
  simpa only [size, List.length_map] using hkeys.length_eq

/-! ## Ends -/

theorem mem_of_first? (h : m.first? = some x) : x ∈ m.entries := List.mem_of_head? h

theorem mem_of_last? (h : m.last? = some x) : x ∈ m.entries := List.mem_of_getLast? h

theorem first?_le (h : m.first? = some x) (he : e ∈ m.entries) : x.1 ≤ e.1 := by
  obtain ⟨rest, hrest⟩ := List.head?_eq_some_iff.1 h
  have hsorted := m.sorted
  rw [hrest] at he hsorted
  rcases List.mem_cons.1 he with rfl | he
  · exact le_rfl
  · exact (List.rel_of_pairwise_cons hsorted he).le

theorem le_last? (h : m.last? = some x) (he : e ∈ m.entries) : e.1 ≤ x.1 := by
  obtain ⟨init, hinit⟩ := List.getLast?_eq_some_iff.1 h
  have hsorted := m.sorted
  rw [hinit] at he hsorted
  rw [List.pairwise_append] at hsorted
  rcases List.mem_append.1 he with he | he
  · exact (hsorted.2.2 e he x List.mem_cons_self).le
  · rw [List.mem_singleton.1 he]

theorem isEmpty_eq_false : m.isEmpty = false ↔ m.entries ≠ [] := by
  simp [isEmpty]

theorem size_pos : 0 < m.size ↔ m.entries ≠ [] := List.length_pos_iff

/-- Erasing the first entry leaves the rest. -/
theorem entries_erase_first (h : m.first? = some x) : (m.erase x.1).entries = m.entries.tail := by
  obtain ⟨rest, hrest⟩ := List.head?_eq_some_iff.1 h
  have hsorted := m.sorted
  show m.entries.filter (fun e => decide (e.1 ≠ x.1)) = m.entries.tail
  rw [hrest] at hsorted ⊢
  have hne : ∀ e ∈ rest, decide (e.1 ≠ x.1) = true := fun e he =>
    decide_eq_true (List.rel_of_pairwise_cons hsorted he).ne'
  rw [List.filter_cons_of_neg (by simp), List.filter_eq_self.2 hne, List.tail_cons]

theorem entries_erase_last (h : m.last? = some x) :
    (m.erase x.1).entries = m.entries.dropLast := by
  obtain ⟨init, hinit⟩ := List.getLast?_eq_some_iff.1 h
  have hsorted := m.sorted
  show m.entries.filter (fun e => decide (e.1 ≠ x.1)) = m.entries.dropLast
  rw [hinit] at hsorted ⊢
  rw [List.pairwise_append] at hsorted
  have hne : ∀ e ∈ init, decide (e.1 ≠ x.1) = true := fun e he =>
    decide_eq_true (hsorted.2.2 e he x List.mem_cons_self).ne
  have hlast : [x].filter (fun e => decide (e.1 ≠ x.1)) = [] := by simp
  rw [List.filter_append, List.filter_eq_self.2 hne, hlast, List.append_nil,
    List.dropLast_concat]

theorem size_erase_of_mem (he : e ∈ m.entries) : (m.erase e.1).size < m.size := by
  have hdrop : ∃ x ∈ m.entries, ¬ decide (x.1 ≠ e.1) = true := ⟨e, he, by simp⟩
  exact List.length_filter_lt_length_iff_exists.2 hdrop

/-- Without the first entry, the last ones are the same. -/
theorem lastN_erase_first {n : ℕ} (h : m.first? = some x) (hn : n < m.size) :
    (m.erase x.1).lastN n = m.lastN n := by
  have hentries := entries_erase_first h
  have hsize : (m.erase x.1).size = m.size - 1 := by
    simp only [size, hentries, List.length_tail]
  have hskip : m.size - 1 - n + 1 = m.size - n := by omega
  refine ext_entries ?_
  simp only [lastN, hsize, hentries, ← List.drop_one, List.drop_drop]
  rw [Nat.add_comm 1, hskip]

/-- Without the last entry, the first ones are the same. -/
theorem firstN_erase_last {n : ℕ} (h : m.last? = some x) (hn : n < m.size) :
    (m.erase x.1).firstN n = m.firstN n := by
  have hentries := entries_erase_last h
  have hmin : min n (m.size - 1) = n := by omega
  refine ext_entries ?_
  simp only [firstN, hentries, List.dropLast_eq_take, List.take_take]
  exact congrArg (m.entries.take ·) hmin

@[simp] theorem firstN_of_size_le {n : ℕ} (h : m.size ≤ n) : m.firstN n = m :=
  ext_entries (List.take_of_length_le h)

@[simp] theorem lastN_of_size_le {n : ℕ} (h : m.size ≤ n) : m.lastN n = m := by
  have hzero : m.size - n = 0 := Nat.sub_eq_zero_of_le h
  exact ext_entries (by simp [lastN, hzero])

theorem mem_of_mem_firstN {n : ℕ} (h : e ∈ (m.firstN n).entries) : e ∈ m.entries :=
  List.mem_of_mem_take h

theorem mem_of_mem_lastN {n : ℕ} (h : e ∈ (m.lastN n).entries) : e ∈ m.entries :=
  List.mem_of_mem_drop h

theorem get?_of_get?_lastN {n : ℕ} (h : (m.lastN n).get? k = some v) : m.get? k = some v :=
  get?_eq_some.2 (mem_of_mem_lastN (get?_eq_some.1 h))

theorem size_firstN_le {n : ℕ} : (m.firstN n).size ≤ n := by
  simp [firstN, size]

theorem size_lastN_le {n : ℕ} : (m.lastN n).size ≤ n := by
  simp only [lastN, size, List.length_drop]
  omega

/-- The last entries are those with fewer entries behind them. -/
theorem mem_lastN {n : ℕ} : e ∈ (m.lastN n).entries ↔
    e ∈ m.entries ∧ (m.entries.filter fun x => decide (e.1 < x.1)).length < n := by
  have hbehind : ∀ before after, m.entries = before ++ e :: after →
      (m.entries.filter fun x => decide (e.1 < x.1)) = after := by
    intro before after hsplit
    have hsorted := m.sorted
    rw [hsplit, List.pairwise_append, List.pairwise_cons] at hsorted
    obtain ⟨-, ⟨hafter, -⟩, hbefore⟩ := hsorted
    have hnone : before.filter (fun x => decide (e.1 < x.1)) = [] := by
      refine List.filter_eq_nil_iff.2 fun x hx => ?_
      simpa using (hbefore x hx e List.mem_cons_self).le
    have hall : after.filter (fun x => decide (e.1 < x.1)) = after :=
      List.filter_eq_self.2 fun x hx => by simpa using hafter x hx
    rw [hsplit, List.filter_append, hnone, List.filter_cons_of_neg (by simp), hall, List.nil_append]
  constructor
  · intro he
    have hmem := mem_of_mem_lastN he
    refine ⟨hmem, ?_⟩
    obtain ⟨skipped, after, hdrop⟩ := List.append_of_mem he
    have hsplit : m.entries = (m.entries.take (m.size - n) ++ skipped) ++ e :: after := by
      rw [List.append_assoc, ← hdrop]
      exact (List.take_append_drop _ _).symm
    rw [hbehind _ _ hsplit]
    have hlength := congrArg List.length hdrop
    simp only [lastN, size, List.length_drop, List.length_append, List.length_cons] at hlength
    omega
  · rintro ⟨hmem, hlt⟩
    obtain ⟨before, after, hsplit⟩ := List.append_of_mem hmem
    rw [hbehind _ _ hsplit] at hlt
    have hsize : m.size = before.length + (after.length + 1) := by
      rw [size, hsplit, List.length_append, List.length_cons]
    show e ∈ m.entries.drop (m.size - n)
    rw [hsplit, List.drop_append, hsize]
    refine List.mem_append_right _ ?_
    have hzero : before.length + (after.length + 1) - n - before.length = 0 := by omega
    rw [hzero]
    exact List.mem_cons_self

/-! ## Values that carry their keys -/

/-- Every value under its key, a later one over an earlier one. -/
def collect (key : V → K) (values : List V) : SortedMap K V :=
  values.foldl (fun m value => m.insert (key value) value) empty

/-- The last of the values with a key. -/
def lastWith (key : V → K) (values : List V) (k : K) : Option V :=
  values.reverse.find? fun value => decide (key value = k)

variable {key : V → K} {values : List V}

theorem lastWith_eq_some_key (h : lastWith key values k = some v) : key v = k := by
  simpa using List.find?_some h

theorem mem_of_lastWith (h : lastWith key values k = some v) : v ∈ values :=
  List.mem_reverse.1 (List.mem_of_find?_eq_some h)

theorem lastWith_isSome : (lastWith key values k).isSome = true ↔ ∃ v ∈ values, key v = k := by
  simp [lastWith]

theorem lastWith_append (rest : List V) : lastWith key (values ++ rest) k =
    (lastWith key rest k).or (lastWith key values k) := by
  rw [lastWith, List.reverse_append, List.find?_append]
  rfl

theorem lastWith_cons : lastWith key (v :: values) k =
    (lastWith key values k).or (if key v = k then some v else none) := by
  rw [← List.singleton_append, lastWith_append]
  congr 1
  by_cases h : key v = k
  · simp [lastWith, h]
  · simp [lastWith, h]

@[simp] theorem get?_collect : (collect key values).get? k = lastWith key values k := by
  have hfold : ∀ m : SortedMap K V,
      (values.foldl (fun m value => m.insert (key value) value) m).get?
      k = (lastWith key values k).or (m.get? k) := by
    induction values with
    | nil => exact fun m => rfl
    | cons value rest ih =>
        intro m
        rw [List.foldl_cons, ih, lastWith_cons, get?_insert, Option.or_assoc]
        congr 1
        by_cases h : key value = k
        · simp [h]
        · simp [h, Ne.symm h]
  rw [collect, hfold, get?_empty, Option.or_none]

theorem mem_collect : e ∈ (collect key values).entries ↔ lastWith key values e.1 = some e.2 := by
  rw [← get?_collect, get?_eq_some]

end SortedMap

end Collections
