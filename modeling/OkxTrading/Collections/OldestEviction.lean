import Mathlib.Data.Finset.Card
import Mathlib.Data.List.AList
import Mathlib.Data.List.MinMax

/-!
# Tables that keep their newest entries

A hash table with a bound: beyond it the oldest entry is evicted.  The table is walked in an order
nobody knows, so of entries equally old any may go.

* `evictOldest` — evictions until the table is within its bound.
* `evictOldest_older` — what is evicted is no newer than what stays.
* `Retained`, `RetainsNewest`, `RetainsAll` — what a table holds of the values put into it, and the
  three step lemmas `Retained.insert`, `RetainsNewest.insert`, `RetainsAll.insert`.
-/

namespace Collections

/-- A hash table. -/
abbrev Table (K V : Type) := AList fun _ : K => V

/-- The order a table is walked in: any order of its entries. -/
structure TableWalk (K V : Type) where
  walk : Table K V → List (Sigma fun _ : K => V)
  perm : ∀ table, (walk table).Perm table.entries

/-- The table is walked in the order of its entries. -/
def TableWalk.entries (K V : Type) : TableWalk K V := ⟨(·.entries), fun _ => .refl _⟩

variable {K V T : Type} [DecidableEq K] [LinearOrder T]

/-! ## Eviction -/

/-- `while table.len() > max_len`, with this many rounds to go at most. -/
def evictOldestRounds (maxLen : ℕ) (stamp : V → T) (walk : TableWalk K V) :
    ℕ → Table K V → Table K V
  | 0, table => table
  | rounds + 1, table =>
      if maxLen < table.entries.length then
        match (walk.walk table).argmin fun entry => stamp entry.2 with
        | none => table
        | some oldest => evictOldestRounds maxLen stamp walk rounds (table.erase oldest.1)
      else table

/-- Oldest entries leave until the table fits. -/
def evictOldest (maxLen : ℕ) (stamp : V → T) (walk : TableWalk K V) (table : Table K V) :
    Table K V :=
  evictOldestRounds maxLen stamp walk table.entries.length table

section Evict

variable {maxLen rounds : ℕ} {stamp : V → T} {walk : TableWalk K V} {table : Table K V} {k k' : K}
  {v v' : V} {oldest : Sigma fun _ : K => V}

variable (stamp walk) in
omit [DecidableEq K] in
theorem argmin_walk_ne_none (h : maxLen < table.entries.length) :
    (walk.walk table).argmin (fun entry => stamp entry.2) ≠ none := by
  intro hnone
  have hempty : walk.walk table = [] := List.argmin_eq_none.1 hnone
  have hlength := (walk.perm table).length_eq
  rw [hempty, List.length_nil] at hlength
  omega

omit [DecidableEq K] in
theorem oldest_mem (h : (walk.walk table).argmin (fun entry => stamp entry.2) = some oldest) :
    oldest ∈ table.entries :=
  (walk.perm table).mem_iff.1 (List.argmin_mem h)

/-- The entry a round removes is no newer than any other. -/
theorem oldest_le (h : (walk.walk table).argmin (fun entry => stamp entry.2) = some oldest)
    (hlookup : table.lookup k = some v) : stamp oldest.2 ≤ stamp v := by
  have hmem : (⟨k, v⟩ : Sigma fun _ : K => V) ∈ walk.walk table :=
    (walk.perm table).mem_iff.2 (AList.mem_lookup_iff.1 hlookup)
  exact List.le_of_mem_argmin (f := fun entry : Sigma fun _ : K => V => stamp entry.2) hmem h

omit [LinearOrder T] in
theorem length_erase_oldest (h : oldest ∈ table.entries) :
    (table.erase oldest.1).entries.length + 1 = table.entries.length := by
  have hmem : oldest.1 ∈ table.keys := List.mem_map_of_mem h
  have hkeys := congrArg List.length (AList.keys_erase oldest.1 table)
  have hpos := List.length_pos_of_mem h
  rw [List.length_erase_of_mem hmem] at hkeys
  simp only [AList.keys, List.keys, List.length_map] at hkeys
  omega

theorem evictOldestRounds_of_length_le (h : table.entries.length ≤ maxLen) :
    evictOldestRounds maxLen stamp walk rounds table = table := by
  cases rounds with
  | zero => rfl
  | succ rounds => exact if_neg (not_lt.2 h)

variable (stamp walk rounds) in
/-- A round of a table beyond its bound. -/
theorem evictOldestRounds_succ (h : maxLen < table.entries.length) : ∃ oldest,
    (walk.walk table).argmin (fun entry => stamp entry.2) = some oldest ∧
      evictOldestRounds maxLen stamp walk (rounds + 1) table =
        evictOldestRounds maxLen stamp walk rounds (table.erase oldest.1) := by
  obtain ⟨oldest, holdest⟩ := Option.ne_none_iff_exists'.1 (argmin_walk_ne_none stamp walk h)
  refine ⟨oldest, holdest, ?_⟩
  rw [evictOldestRounds, if_pos h, holdest]

theorem length_evictOldestRounds (h : table.entries.length ≤ rounds + maxLen) :
    (evictOldestRounds maxLen stamp walk rounds table).entries.length =
      min table.entries.length maxLen := by
  induction rounds generalizing table with
  | zero =>
    rw [evictOldestRounds_of_length_le (by omega)]
    omega
  | succ rounds ih =>
    by_cases hfull : maxLen < table.entries.length
    · obtain ⟨oldest, holdest, hround⟩ := evictOldestRounds_succ rounds stamp walk hfull
      have hlength := length_erase_oldest (oldest_mem holdest)
      rw [hround, ih (by omega)]
      omega
    · rw [evictOldestRounds_of_length_le (not_lt.1 hfull)]
      omega

/-- Eviction changes no entry that stays. -/
theorem lookup_evictOldestRounds
    (h : (evictOldestRounds maxLen stamp walk rounds table).lookup k = some v) :
    table.lookup k = some v := by
  induction rounds generalizing table with
  | zero => exact h
  | succ rounds ih =>
    by_cases hfull : maxLen < table.entries.length
    · obtain ⟨oldest, -, hround⟩ := evictOldestRounds_succ rounds stamp walk hfull
      rw [hround] at h
      have hleft := ih h
      by_cases hkey : k = oldest.1
      · rw [hkey, AList.lookup_erase] at hleft
        cases hleft
      · rwa [AList.lookup_erase_ne hkey] at hleft
    · rwa [evictOldestRounds_of_length_le (not_lt.1 hfull)] at h

theorem evictOldestRounds_older (hlookup : table.lookup k = some v)
    (hgone : (evictOldestRounds maxLen stamp walk rounds table).lookup k = none)
    (hkept : (evictOldestRounds maxLen stamp walk rounds table).lookup k' = some v') :
    stamp v ≤ stamp v' := by
  induction rounds generalizing table with
  | zero =>
    rw [evictOldestRounds, hlookup] at hgone
    cases hgone
  | succ rounds ih =>
    by_cases hfull : maxLen < table.entries.length
    · obtain ⟨oldest, holdest, hround⟩ := evictOldestRounds_succ rounds stamp walk hfull
      rw [hround] at hgone hkept
      by_cases hkey : k = oldest.1
      · -- this round evicts the entry
        have hsame : table.lookup oldest.1 = some oldest.2 :=
          AList.mem_lookup_iff.2 (oldest_mem holdest)
        rw [hkey, hsame, Option.some.injEq] at hlookup
        have hbefore := lookup_evictOldestRounds hkept
        by_cases hkey' : k' = oldest.1
        · rw [hkey', AList.lookup_erase] at hbefore
          cases hbefore
        · rw [AList.lookup_erase_ne hkey'] at hbefore
          exact hlookup ▸ oldest_le holdest hbefore
      · exact ih (by rwa [AList.lookup_erase_ne hkey]) hgone hkept
    · rw [evictOldestRounds_of_length_le (not_lt.1 hfull), hlookup] at hgone
      cases hgone

@[simp] theorem length_evictOldest :
    (evictOldest maxLen stamp walk table).entries.length = min table.entries.length maxLen :=
  length_evictOldestRounds (Nat.le_add_right _ _)

theorem evictOldest_of_length_le (h : table.entries.length ≤ maxLen) :
    evictOldest maxLen stamp walk table = table :=
  evictOldestRounds_of_length_le h

theorem lookup_evictOldest (h : (evictOldest maxLen stamp walk table).lookup k = some v) :
    table.lookup k = some v :=
  lookup_evictOldestRounds h

/-- **What is evicted is no newer than what stays.** -/
theorem evictOldest_older (hlookup : table.lookup k = some v)
    (hgone : (evictOldest maxLen stamp walk table).lookup k = none)
    (hkept : (evictOldest maxLen stamp walk table).lookup k' = some v') : stamp v ≤ stamp v' :=
  evictOldestRounds_older hlookup hgone hkept

end Evict

/-! ## What a table holds of the values put into it -/

/-- The last of the values with a key. -/
def lastOf (key : V → K) (values : List V) (k : K) : Option V :=
  values.reverse.find? fun value => decide (key value = k)

section Retention

variable {maxLen : ℕ} {stamp : V → T} {walk : TableWalk K V} {table : Table K V} {key : V → K}
  {values : List V} {k k' : K} {v v' : V}

omit [LinearOrder T] in
@[simp] theorem lastOf_nil : lastOf key [] k = none := rfl

omit [LinearOrder T] in
theorem lastOf_concat : lastOf key (values ++ [v]) k =
    if key v = k then some v else lastOf key values k := by
  simp only [lastOf, List.reverse_append, List.reverse_singleton, List.singleton_append,
    List.find?_cons]
  by_cases h : key v = k
  · simp [h]
  · simp [h]

omit [LinearOrder T] in
theorem lastOf_eq_some (h : lastOf key values k = some v) : v ∈ values ∧ key v = k :=
  ⟨List.mem_reverse.1 (List.mem_of_find?_eq_some h), by simpa using List.find?_some h⟩

variable (key) in
omit [LinearOrder T] in
theorem lastOf_isSome (h : v ∈ values) : (lastOf key values (key v)).isSome = true := by
  rw [lastOf, List.find?_isSome]
  exact ⟨v, List.mem_reverse.2 h, by simp⟩

/-- A table within its bound that holds, for each of its keys, the last value put under it. -/
structure Retained (maxLen : ℕ) (key : V → K) (values : List V) (table : Table K V) : Prop where
  bounded : table.entries.length ≤ maxLen
  last : ∀ k v, table.lookup k = some v → lastOf key values k = some v

/-- The table holds the newest values: a key it has no more is no newer than any it has, and it is
full. -/
structure RetainsNewest (maxLen : ℕ) (stamp : V → T) (key : V → K) (values : List V)
    (table : Table K V) : Prop extends Retained maxLen key values table where
  newest : ∀ k v, lastOf key values k = some v → table.lookup k = none →
    table.entries.length = maxLen ∧ ∀ k' v', table.lookup k' = some v' → stamp v ≤ stamp v'

/-- The table holds the last value of every key. -/
def RetainsAll (key : V → K) (values : List V) (table : Table K V) : Prop :=
  ∀ k, table.lookup k = lastOf key values k

omit [LinearOrder T] in
theorem Retained.empty : Retained maxLen key [] (∅ : Table K V) :=
  ⟨Nat.zero_le _, fun k v h => by simp at h⟩

theorem RetainsNewest.empty : RetainsNewest maxLen stamp key [] (∅ : Table K V) :=
  ⟨.empty, fun k v h => by simp at h⟩

omit [LinearOrder T] in
theorem RetainsAll.empty : RetainsAll key [] (∅ : Table K V) := fun k => by simp

omit [LinearOrder T] in
theorem lookup_insert_lastOf (h : Retained maxLen key values table)
    (hlookup : (table.insert (key v) v).lookup k = some v') :
    lastOf key (values ++ [v]) k = some v' := by
  rw [lastOf_concat]
  by_cases hkey : key v = k
  · rw [if_pos hkey, ← hlookup, ← hkey, AList.lookup_insert]
  · rw [AList.lookup_insert_ne (Ne.symm hkey)] at hlookup
    rw [if_neg hkey]
    exact h.last k v' hlookup

/-- **One value more**: the table stays within its bound and holds the last values. -/
theorem Retained.insert (h : Retained maxLen key values table) :
    Retained maxLen key (values ++ [v]) (evictOldest maxLen stamp walk (table.insert (key v) v))
      where
  bounded := by
    rw [length_evictOldest]
    omega
  last k v' hlookup := lookup_insert_lastOf h (lookup_evictOldest hlookup)

/-- **One value more**, received no earlier than those before it: the table holds the newest. -/
theorem RetainsNewest.insert (h : RetainsNewest maxLen stamp key values table)
    (hnewest : ∀ value ∈ values, stamp value ≤ stamp v) :
    RetainsNewest maxLen stamp key (values ++ [v])
      (evictOldest maxLen stamp walk (table.insert (key v) v)) where
  toRetained := h.toRetained.insert
  newest k w hlast hgone := by
    have hinserted : ∀ k' v', (table.insert (key v) v).lookup k' = some v' →
        lastOf key (values ++ [v]) k' = some v' := fun k' v' => lookup_insert_lastOf h.toRetained
    cases hbefore : (table.insert (key v) v).lookup k with
    | some w' =>
      -- evicted now
      have hsame : w' = w := by
        have hlast' := hinserted k w' hbefore
        rw [hlast, Option.some.injEq] at hlast'
        exact hlast'.symm
      subst hsame
      refine ⟨?_, fun k' v' hkept => evictOldest_older hbefore hgone hkept⟩
      rw [length_evictOldest, min_eq_right]
      by_contra hfits
      rw [evictOldest_of_length_le (not_le.1 hfits).le, hbefore] at hgone
      cases hgone
    | none =>
      -- gone before
      have hkey : key v ≠ k := by
        rintro rfl
        rw [AList.lookup_insert] at hbefore
        cases hbefore
      rw [AList.lookup_insert_ne hkey.symm] at hbefore
      rw [lastOf_concat, if_neg hkey] at hlast
      obtain ⟨hfull, holder⟩ := h.newest k w hlast hbefore
      have hgrown : maxLen ≤ (table.insert (key v) v).entries.length := by
        have hkeys := congrArg List.length (AList.keys_insert (b := v) (a := key v) table)
        have herase : table.keys.length ≤ (table.keys.erase (key v)).length + 1 := by
          rw [List.length_erase]
          split <;> omega
        simp only [AList.keys, List.keys, List.length_map, List.length_cons] at hkeys herase
        omega
      refine ⟨by rw [length_evictOldest, min_eq_right hgrown], fun k' v' hkept => ?_⟩
      have hlookup := lookup_evictOldest hkept
      by_cases hkey' : key v = k'
      · rw [← hkey', AList.lookup_insert, Option.some.injEq] at hlookup
        rw [← hlookup]
        exact hnewest w (lastOf_eq_some hlast).1
      · rw [AList.lookup_insert_ne (Ne.symm hkey')] at hlookup
        exact holder k' v' hlookup

omit [LinearOrder T] in
/-- The keys of a table that holds the last values are keys of values. -/
theorem length_le_card_keys (h : ∀ k v, table.lookup k = some v → lastOf key values k = some v) :
    table.entries.length ≤ (values.map key).toFinset.card := by
  have hsub : table.keys.toFinset ⊆ (values.map key).toFinset := by
    intro k hk
    obtain ⟨v, hv⟩ := Option.isSome_iff_exists.1
      (AList.lookup_isSome.2 (AList.mem_keys.2 (List.mem_toFinset.1 hk)))
    obtain ⟨hmem, rfl⟩ := lastOf_eq_some (h k v hv)
    exact List.mem_toFinset.2 (List.mem_map_of_mem hmem)
  have hcard := Finset.card_le_card hsub
  rw [List.toFinset_card_of_nodup (l := table.keys) table.nodupKeys] at hcard
  simpa only [AList.keys, List.keys, List.length_map] using hcard

omit [LinearOrder T] in
/-- Of more keys than the table has entries one is not in it. -/
theorem exists_lookup_eq_none {keys : List K} (hdistinct : keys.Nodup)
    (hmore : table.entries.length < keys.length) : ∃ k ∈ keys, table.lookup k = none := by
  by_contra hall
  have hsub : keys ⊆ table.keys := fun k hk =>
    AList.mem_keys.1 (AList.lookup_isSome.1
      (Option.isSome_iff_ne_none.2 fun hnone => hall ⟨k, hk, hnone⟩))
  have hlength := (List.subperm_of_subset hdistinct hsub).length_le
  rw [AList.keys, List.keys, List.length_map] at hlength
  exact absurd hmore (not_lt.2 hlength)

/-- **One value more**, of no more keys than the bound: nothing is evicted. -/
theorem RetainsAll.insert (h : RetainsAll key values table)
    (hfew : ((values ++ [v]).map key).toFinset.card ≤ maxLen) :
    RetainsAll key (values ++ [v]) (evictOldest maxLen stamp walk (table.insert (key v) v)) := by
  have hall : RetainsAll key (values ++ [v]) (table.insert (key v) v) := by
    intro k
    rw [lastOf_concat]
    by_cases hkey : key v = k
    · rw [if_pos hkey, ← hkey, AList.lookup_insert]
    · rw [if_neg hkey, AList.lookup_insert_ne (Ne.symm hkey), h k]
  have hlength := length_le_card_keys fun k v' hlookup => (hall k).symm.trans hlookup
  rw [evictOldest_of_length_le (hlength.trans hfew)]
  exact hall

end Retention

end Collections
