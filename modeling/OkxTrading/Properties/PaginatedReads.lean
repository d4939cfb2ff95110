import OkxTrading.Okx.Pagination
import OkxTrading.Paging.Cursor

/-!
# Paginated reads are complete or fail

Against a server that holds a list and answers every cursor with the records after it, each read
returns the whole list or an error.

* `PageLoop.appendPages_sound` — what a loop returns is everything, and fits its pages.
* `PageLoop.appendPages_complete` — everything is returned where it fits.
* `PageLoop.appendPages_requests` — no loop makes more requests than it has pages.
* `OkxRestClient.reads_complete` — the five reads of the client.
* `ServerLists.client` — a server of given lists.
-/

namespace OkxTrading

open Effect Paging

variable {R W : Type}

/-! ## Rows and pages -/

namespace PageLoop

variable {self : PageLoop R} {records page rows : List R}

/-- The row passes what the loop asks of one. -/
structure Accepts (loop : PageLoop R) (row : R) : Prop where
  matched : loop.ensureMatches row = .ok ()
  identified : loop.ensureIdentity row = .ok ()
  cursor : Text.isBlank (loop.cursor row) = false

theorem appendRows_sound {found : List R × List Text} (hkeys : (page.map self.key).Nodup)
    (h : self.appendRows page (rows, rows.map self.key) = .ok found) :
    found = (addNew self.key rows page, (addNew self.key rows page).map self.key) := by
  induction page generalizing rows with
  | nil =>
      cases h
      rw [addNew_nil]
  | cons row rest ih =>
      rw [List.map_cons, List.nodup_cons] at hkeys
      simp only [appendRows, bind_eq_ok] at h
      obtain ⟨_, -, h⟩ := h
      rw [addNew_cons hkeys.1]
      split at h
      · rename_i hseen
        rw [if_pos hseen]
        exact ih hkeys.2 h
      · rename_i hseen
        rw [if_neg hseen]
        exact ih hkeys.2 (by rw [List.map_append]; exact h)

theorem appendRows_complete (hkeys : (page.map self.key).Nodup)
    (haccepts : ∀ row ∈ page, self.Accepts row) :
    self.appendRows page (rows, rows.map self.key) =
      .ok (addNew self.key rows page, (addNew self.key rows page).map self.key) := by
  induction page generalizing rows with
  | nil => rw [addNew_nil]; rfl
  | cons row rest ih =>
      rw [List.map_cons, List.nodup_cons] at hkeys
      have hrest : ∀ rows, self.appendRows rest (rows, rows.map self.key) =
          .ok (addNew self.key rows rest, (addNew self.key rows rest).map self.key) :=
        fun _ => ih hkeys.2 fun r hr => haccepts r (List.mem_cons_of_mem _ hr)
      rw [appendRows, (haccepts row List.mem_cons_self).identified, ok_bind, addNew_cons hkeys.1]
      split
      · exact hrest rows
      · have := hrest (rows ++ [row])
        rw [List.map_append] at this
        exact this

theorem ensureRowsMatch_complete (haccepts : ∀ row ∈ page, self.Accepts row) :
    self.ensureRowsMatch page = .ok () := by
  induction page with
  | nil => rfl
  | cons row rest ih =>
      rw [ensureRowsMatch, (haccepts row List.mem_cons_self).matched, ok_bind]
      exact ih fun r hr => haccepts r (List.mem_cons_of_mem _ hr)

/-- The cursor to go on with after a page: none after a short one. -/
def nextCursor (self : PageLoop R) (page : List R) : Option Text :=
  if page.length = self.pageLimit then page.getLast?.map self.cursor else none

theorem acceptPage_sound {c next : Option Text} {found : List R × List Text}
    (hlimit : 0 < self.pageLimit) (hkeys : (page.map self.key).Nodup)
    (h : self.acceptPage c page (rows, rows.map self.key) = .ok (found, next)) :
    found = (addNew self.key rows page, (addNew self.key rows page).map self.key) ∧
      next = self.nextCursor page := by
  simp only [acceptPage, bind_eq_ok] at h
  obtain ⟨_, -, h⟩ := h
  split at h
  · rename_i hempty
    subst hempty
    cases h
    rw [addNew_nil, nextCursor, if_neg (by simpa using hlimit.ne)]
    exact ⟨rfl, rfl⟩
  · simp only [bind_eq_ok] at h
    obtain ⟨found', hrows, h⟩ := h
    have hfound := appendRows_sound hkeys hrows
    unfold nextCursor
    generalize (if page.length = self.pageLimit then page.getLast?.map self.cursor else none) =
      nextAfter at h ⊢
    cases nextAfter with
    | some nextAfter =>
        simp only [bind_eq_ok, pure_eq_ok] at h
        obtain ⟨_, -, _, -, h⟩ := h
        cases h
        exact ⟨hfound, rfl⟩
    | none =>
        cases h
        exact ⟨hfound, rfl⟩

theorem acceptPage_complete {c : Option Text} (rows : List R) (hlimit : 0 < self.pageLimit)
    (hkeys : (page.map self.key).Nodup) (haccepts : ∀ row ∈ page, self.Accepts row)
    (hfresh : ∀ row ∈ page, c ≠ some (self.cursor row)) :
    self.acceptPage c page (rows, rows.map self.key) =
      .ok ((addNew self.key rows page, (addNew self.key rows page).map self.key),
        self.nextCursor page) := by
  rw [acceptPage, ensureRowsMatch_complete haccepts, ok_bind]
  split
  · rename_i hempty
    subst hempty
    rw [addNew_nil, nextCursor, if_neg (by simpa using hlimit.ne)]
    rfl
  · rw [appendRows_complete hkeys haccepts, ok_bind]
    unfold nextCursor
    generalize hnext : (if page.length = self.pageLimit then page.getLast?.map self.cursor
      else none) = nextAfter
    cases nextAfter with
    | some nextAfter =>
        obtain ⟨last, hmem, rfl⟩ : ∃ last ∈ page, self.cursor last = nextAfter := by
          split at hnext
          · obtain ⟨last, hlast, rfl⟩ := Option.map_eq_some_iff.1 hnext
            exact ⟨last, List.mem_of_getLast? hlast, rfl⟩
          · cases hnext
        dsimp only
        rw [ensure, if_pos (haccepts last hmem).cursor, ok_bind, ensure,
          if_pos (hfresh last hmem), ok_bind]
        rfl
    | none => rfl

/-! ## The loop -/

variable {get : RestGet R W} {c : Option Text} {found : List R × List Text} {s : RestState W}
  {front tail : List R} {n : ℕ}

/-- The state after one request. -/
def asked (self : PageLoop R) (get : RestGet R W) (c : Option Text) (s : RestState W) :
    RestState W :=
  ⟨(get ⟨self.path, self.query c⟩ s.world).2, s.requests ++ [⟨self.path, self.query c⟩]⟩

theorem appendPages_refused {m : Message}
    (hget : (get ⟨self.path, self.query c⟩ s.world).1 = .error m) :
    self.appendPages get (n + 1) c found s = (.error m, self.asked get c s) := by
  show Prog.bind (privateRequest get ⟨self.path, self.query c⟩) _ s = _
  unfold Prog.bind privateRequest
  simp only [hget]
  rfl

theorem appendPages_failed {m : Message}
    (hget : (get ⟨self.path, self.query c⟩ s.world).1 = .ok page)
    (haccept : self.acceptPage c page found = .error m) :
    self.appendPages get (n + 1) c found s = (.error m, self.asked get c s) := by
  show Prog.bind (privateRequest get ⟨self.path, self.query c⟩) _ s = _
  unfold Prog.bind privateRequest
  simp only [hget, haccept]
  rfl

theorem appendPages_last {found' : List R × List Text}
    (hget : (get ⟨self.path, self.query c⟩ s.world).1 = .ok page)
    (haccept : self.acceptPage c page found = .ok (found', none)) :
    self.appendPages get (n + 1) c found s = (.ok found', self.asked get c s) := by
  show Prog.bind (privateRequest get ⟨self.path, self.query c⟩) _ s = _
  unfold Prog.bind privateRequest
  simp only [hget, haccept]
  rfl

theorem appendPages_next {found' : List R × List Text} {next : Text}
    (hget : (get ⟨self.path, self.query c⟩ s.world).1 = .ok page)
    (haccept : self.acceptPage c page found = .ok (found', some next)) :
    self.appendPages get (n + 1) c found s =
      self.appendPages get n (some next) found' (self.asked get c s) := by
  show Prog.bind (privateRequest get ⟨self.path, self.query c⟩) _ s = _
  unfold Prog.bind privateRequest
  simp only [hget, haccept]
  rfl

/-- The server answers every cursor with the records after it. -/
def Serves (self : PageLoop R) (get : RestGet R W) (records : List R) : Prop :=
  ∀ c w, (get ⟨self.path, self.query c⟩ w).1 =
    .ok (Paging.page self.pageLimit self.cursor records c)

/-- A list of records a loop can tell apart. -/
structure Distinct (loop : PageLoop R) (records : List R) : Prop where
  cursors : (records.map loop.cursor).Nodup
  keys : (records.map loop.key).Nodup

/-- Where the loop is: `front` is read, `tail` is not. -/
structure Reading (loop : PageLoop R) (get : RestGet R W) (front tail : List R)
    (c : Option Text) : Prop where
  limit : 0 < loop.pageLimit
  serves : loop.Serves get (front ++ tail)
  distinct : loop.Distinct (front ++ tail)
  resumes : Resumes loop.cursor front c

theorem Reading.start (hlimit : 0 < self.pageLimit) (hserves : self.Serves get records)
    (hdistinct : self.Distinct records) : self.Reading get [] records none :=
  ⟨hlimit, hserves, hdistinct, rfl⟩

theorem Reading.answer (h : self.Reading get front tail c) (w : W) :
    (get ⟨self.path, self.query c⟩ w).1 = .ok (tail.take self.pageLimit) := by
  rw [h.serves, page_of_resumes h.distinct.cursors h.resumes]

theorem Reading.keys (h : self.Reading get front tail c) :
    ((tail.take self.pageLimit).map self.key).Nodup := by
  have hkeys := h.distinct.keys
  rw [List.map_append, List.nodup_append] at hkeys
  exact hkeys.2.1.sublist ((List.take_sublist _ _).map _)

/-- A full page is the next part of the list, and its cursor resumes behind it. -/
theorem Reading.next {next : Text} (h : self.Reading get front tail c)
    (hnext : self.nextCursor (tail.take self.pageLimit) = some next) :
    self.Reading get (front ++ tail.take self.pageLimit) (tail.drop self.pageLimit) (some next) ∧
      self.pageLimit + (tail.drop self.pageLimit).length = tail.length := by
  unfold nextCursor at hnext
  split at hnext
  · rename_i hfull
    have happend : front ++ tail.take self.pageLimit ++ tail.drop self.pageLimit =
        front ++ tail := by rw [List.append_assoc, List.take_append_drop]
    refine ⟨⟨h.limit, happend ▸ h.serves, happend ▸ h.distinct, ?_⟩, ?_⟩
    · unfold Resumes
      rw [List.getLast?_append_of_ne_nil]
      · exact hnext.symm
      · intro hnil
        rw [hnil] at hfull
        exact h.limit.ne hfull
    · rw [List.length_take] at hfull
      rw [List.length_drop]
      omega
  · cases hnext

/-- A short page is the rest of the list. -/
theorem Reading.last (h : self.Reading get front tail c)
    (hlast : self.nextCursor (tail.take self.pageLimit) = none) :
    tail.take self.pageLimit = tail ∧ tail.length < self.pageLimit := by
  unfold nextCursor at hlast
  have hshort : tail.length < self.pageLimit := by
    by_contra hlong
    have hfull : (tail.take self.pageLimit).length = self.pageLimit := by
      rw [List.length_take]
      omega
    rw [if_pos hfull, Option.map_eq_none_iff, List.getLast?_eq_none_iff] at hlast
    rw [hlast] at hfull
    exact h.limit.ne hfull
  exact ⟨List.take_of_length_le hshort.le, hshort⟩

theorem addNew_take_drop (h : self.Reading get front tail c) :
    addNew self.key (addNew self.key rows (tail.take self.pageLimit)) (tail.drop self.pageLimit) =
      addNew self.key rows tail := by
  have hkeys := h.distinct.keys
  rw [List.map_append, List.nodup_append] at hkeys
  rw [← addNew_append (by rw [List.take_append_drop]; exact hkeys.2.1), List.take_append_drop]

/-- **What a loop returns is everything**, and there was room for it. -/
theorem appendPages_sound : ∀ {n : ℕ} {front tail rows : List R} {c : Option Text}
    {found : List R × List Text} {s : RestState W}, self.Reading get front tail c →
    (self.appendPages get n c (rows, rows.map self.key) s).1 = .ok found →
    found = (addNew self.key rows tail, (addNew self.key rows tail).map self.key) ∧
      tail.length < self.pageLimit * n := by
  intro n
  induction n with
  | zero => intro front tail rows c found s _ h; cases h
  | succ n ih =>
      intro front tail rows c found s hreading h
      cases haccept : self.acceptPage c (tail.take self.pageLimit) (rows, rows.map self.key) with
      | error m =>
          rw [appendPages_failed (hreading.answer _) haccept] at h
          cases h
      | ok result =>
          obtain ⟨found', next⟩ := result
          obtain ⟨rfl, rfl⟩ := acceptPage_sound hreading.limit hreading.keys haccept
          cases hnext : self.nextCursor (tail.take self.pageLimit) with
          | none =>
              rw [hnext] at haccept
              rw [appendPages_last (hreading.answer _) haccept] at h
              obtain ⟨htake, hshort⟩ := hreading.last hnext
              cases h
              rw [htake, Nat.mul_succ]
              exact ⟨rfl, by omega⟩
          | some next =>
              rw [hnext] at haccept
              rw [appendPages_next (hreading.answer _) haccept] at h
              obtain ⟨hreading', hlength⟩ := hreading.next hnext
              obtain ⟨hfound, hroom⟩ := ih hreading' h
              rw [addNew_take_drop hreading] at hfound
              rw [Nat.mul_succ]
              exact ⟨hfound, by omega⟩

theorem Reading.fresh (h : self.Reading get front tail c) :
    ∀ row ∈ tail.take self.pageLimit, c ≠ some (self.cursor row) := by
  intro row hrow hc
  have hcursors := h.distinct.cursors
  have hresumes := h.resumes
  unfold Resumes at hresumes
  rw [hc] at hresumes
  obtain ⟨last, hlast, heq⟩ := Option.map_eq_some_iff.1 hresumes.symm
  rw [List.map_append, List.nodup_append] at hcursors
  exact hcursors.2.2 _ (List.mem_map_of_mem (List.mem_of_getLast? hlast)) _
    (List.mem_map_of_mem (List.mem_of_mem_take hrow)) heq

/-- **Everything is returned where there is room for it.** -/
theorem appendPages_complete : ∀ {n : ℕ} {front tail rows : List R} {c : Option Text}
    {s : RestState W}, self.Reading get front tail c → (∀ row ∈ tail, self.Accepts row) →
    tail.length < self.pageLimit * n →
    (self.appendPages get n c (rows, rows.map self.key) s).1 =
      .ok (addNew self.key rows tail, (addNew self.key rows tail).map self.key) := by
  intro n
  induction n with
  | zero => intro front tail rows c s _ _ h; cases h
  | succ n ih =>
      intro front tail rows c s hreading haccepts hroom
      have haccept := acceptPage_complete rows hreading.limit hreading.keys
        (fun row hrow => haccepts row (List.mem_of_mem_take hrow)) hreading.fresh
      cases hnext : self.nextCursor (tail.take self.pageLimit) with
      | none =>
          rw [hnext] at haccept
          rw [appendPages_last (hreading.answer _) haccept, (hreading.last hnext).1]
      | some next =>
          rw [hnext] at haccept
          obtain ⟨hreading', hlength⟩ := hreading.next hnext
          rw [Nat.mul_succ] at hroom
          rw [appendPages_next (hreading.answer _) haccept,
            ih hreading' (fun row hrow => haccepts row (List.mem_of_mem_drop hrow)) (by omega),
            addNew_take_drop hreading]

/-- **No loop makes more requests than it has pages**, whatever the server answers. -/
theorem appendPages_requests : ∀ {n : ℕ} {c : Option Text} {found : List R × List Text}
    {s : RestState W},
    (self.appendPages get n c found s).2.requests.length ≤ s.requests.length + n := by
  intro n
  induction n with
  | zero => exact fun {_ _ _} => le_refl _
  | succ n ih =>
      intro c found s
      have hasked : (self.asked get c s).requests.length = s.requests.length + 1 :=
        List.length_append
      cases hget : (get ⟨self.path, self.query c⟩ s.world).1 with
      | error m => rw [appendPages_refused hget]; dsimp only; omega
      | ok page =>
          cases haccept : self.acceptPage c page found with
          | error m => rw [appendPages_failed hget haccept]; dsimp only; omega
          | ok result =>
              obtain ⟨found', next⟩ := result
              cases next with
              | none => rw [appendPages_last hget haccept]; dsimp only; omega
              | some next =>
                  rw [appendPages_next hget haccept]
                  have hrest :
                      (self.appendPages get n (some next) found'
                        (self.asked get c s)).2.requests.length
                      ≤ (self.asked get c s).requests.length + n := ih
                  omega

end PageLoop

/-! ## One loop after another -/

/-- Adds all of something to the rows found before, or fails; where it does not fit, it fails. -/
structure Appends (key : R → Text) (fits valid : Prop) (add : List R → List R)
    (x : List R × List Text → Prog Message (RestState W) (List R × List Text)) : Prop where
  complete : valid → fits → ∀ rows s,
    (x (rows, rows.map key) s).1 = .ok (add rows, (add rows).map key)
  sound : ∀ rows s found, (x (rows, rows.map key) s).1 = .ok found →
    fits ∧ found = (add rows, (add rows).map key)

theorem PageLoop.appends {self : PageLoop R} {get : RestGet R W} {records : List R} {size : ℕ}
    (hlimit : 0 < self.pageLimit) (hsize : self.pageLimit * self.maxPages = size)
    (hserves : self.Serves get records) (hdistinct : self.Distinct records) :
    Appends self.key (records.length < size) (∀ row ∈ records, self.Accepts row)
      (fun rows => addNew self.key rows records) (self.run get) where
  complete hvalid hfits rows s :=
    appendPages_complete (Reading.start hlimit hserves hdistinct) hvalid (hsize ▸ hfits)
  sound rows s found h := by
    obtain ⟨hfound, hroom⟩ := appendPages_sound (Reading.start hlimit hserves hdistinct) h
    exact ⟨hsize ▸ hroom, hfound⟩

variable {key : R → Text} {fits fits' valid valid' : Prop} {add add' : List R → List R}
  {x y : List R × List Text → Prog Message (RestState W) (List R × List Text)}

theorem Appends.bind (hx : Appends key fits valid add x) (hy : Appends key fits' valid' add' y) :
    Appends key (fits ∧ fits') (valid ∧ valid') (fun rows => add' (add rows))
      (fun found => x found >>= y) where
  complete hvalid hfits rows s := by
    have hfirst := hx.complete hvalid.1 hfits.1 rows s
    show (Prog.bind (x (rows, rows.map key)) y s).1 = _
    unfold Prog.bind
    generalize x (rows, rows.map key) s = result at hfirst
    obtain ⟨_, t⟩ := result
    cases hfirst
    exact hy.complete hvalid.2 hfits.2 (add rows) t
  sound rows s found h := by
    have h : (Prog.bind (x (rows, rows.map key)) y s).1 = .ok found := h
    unfold Prog.bind at h
    have hfirst := hx.sound rows s
    generalize x (rows, rows.map key) s = result at h hfirst
    obtain ⟨_ | first, t⟩ := result
    · cases h
    · obtain ⟨hfits, rfl⟩ := hfirst first rfl
      obtain ⟨hfits', hfound⟩ := hy.sound (add rows) t found h
      exact ⟨⟨hfits, hfits'⟩, hfound⟩

/-- A check before it can only make it fail. -/
theorem Appends.checked {α : Type} (check : Result α)
    {x : α → List R × List Text → Prog Message (RestState W) (List R × List Text)}
    (hx : ∀ a, Appends key fits (valid) add (x a)) :
    Appends key fits ((∃ a, check = .ok a) ∧ valid) add
      (fun found => liftResult check >>= fun a => x a found) where
  complete hvalid hfits rows s := by
    obtain ⟨a, rfl⟩ := hvalid.1
    exact (hx a).complete hvalid.2 hfits rows s
  sound rows s found h := by
    cases check with
    | error m => cases h
    | ok a => exact (hx a).sound rows s found h

theorem Appends.pure : Appends key True True id
    (fun found => (pure found : Prog Message (RestState W) (List R × List Text))) where
  complete _ _ _ _ := rfl
  sound _ _ _ h := by cases h; exact ⟨trivial, rfl⟩

theorem Appends.congr (hx : Appends key fits valid add x) (hfits : fits' ↔ fits)
    (hvalid : valid' → valid) : Appends key fits' valid' add x where
  complete h h' := hx.complete (hvalid h) (hfits.1 h')
  sound rows s found h :=
    have ⟨hf, hfound⟩ := hx.sound rows s found h
    ⟨hfits.2 hf, hfound⟩

/-- All of it where it fits, an error where it does not, and never a part of it. -/
structure CompleteOrFails (fits valid : Prop) (all : List R) (result : Result (List R)) :
    Prop where
  complete : valid → fits → result = .ok all
  refused : ¬ fits → ∃ m, result = .error m
  whole : ∀ rows, result = .ok rows → rows = all

theorem Appends.read (hx : Appends key fits valid add x) (s : RestState W) :
    CompleteOrFails fits valid (add [])
      ((x ([], []) >>= fun found => Pure.pure found.1 :
        Prog Message (RestState W) (List R)) s).1 := by
  have hcomplete := fun hvalid hfits => hx.complete hvalid hfits [] s
  have hsound := hx.sound [] s
  show CompleteOrFails fits valid (add []) (Prog.bind (x ([], [])) _ s).1
  unfold Prog.bind
  simp only [List.map_nil] at hcomplete hsound
  generalize x ([], []) s = result at hcomplete hsound
  obtain ⟨m | found, t⟩ := result
  · refine ⟨fun hvalid hfits => ?_, fun _ => ⟨m, rfl⟩, fun _ h => ?_⟩
    · cases hcomplete hvalid hfits
    · cases h
  · obtain ⟨hfits, rfl⟩ := hsound found rfl
    refine ⟨fun _ _ => rfl, fun h => absurd hfits h, fun _ h => ?_⟩
    cases h
    rfl

theorem Appends.read_checked {α : Type} (check : Result α)
    {x : α → List R × List Text → Prog Message (RestState W) (List R × List Text)}
    (hx : ∀ a, Appends key fits valid add (x a)) (s : RestState W) :
    CompleteOrFails fits ((∃ a, check = .ok a) ∧ valid) (add [])
      ((liftResult check >>= fun a => x a ([], []) >>= fun found => Pure.pure found.1) s).1 := by
  have h := (Appends.checked check hx).read s
  rwa [Prog.bind_assoc] at h

theorem Appends.read_bind (hx : Appends key fits valid add x)
    (hy : Appends key fits' valid' add' y) (s : RestState W) :
    CompleteOrFails (fits ∧ fits') (valid ∧ valid') (add' (add []))
      ((x ([], []) >>= fun found => y found >>= fun found => Pure.pure found.1) s).1 := by
  have h := (hx.bind hy).read s
  rwa [Prog.bind_assoc] at h

/-! ## Servers -/

/-- A loop's requests: to this path, for this instrument, a hundred records at a time. -/
structure Request.Asks (request : Request) (path : String) (instId : Text) : Prop where
  path : request.path = path
  instId : request.query.lookup "instId" = some instId
  limit : request.query.lookup "limit" = some (limitText 100)

/-- A server that holds this list answers a query with the next records after its cursor, at most
a hundred of them. -/
def Holds (get : RestGet R W) (asked : Request → Prop) (cursor : R → Text)
    (records : List R) : Prop :=
  ∀ request, asked request → ∀ w,
    (get request w).1 = .ok (page 100 cursor records (request.query.lookup "after"))

/-- The lists an exchange holds for one instrument. -/
structure ServerLists where
  openOrders : List OkxOrderRow
  history : List OkxOrderRow
  historyArchive : List OkxOrderRow
  fills : List OkxFillRow
  fillsHistory : List OkxFillRow
  openAlgoOrders : List OkxAlgoOrderRow
  /-- By state. -/
  algoHistory : Text → List OkxAlgoOrderRow

namespace ServerLists

/-- The records of each list are distinct, and fills have bill ids. -/
structure Distinct (lists : ServerLists) : Prop where
  openOrders : (lists.openOrders.map (·.orderId)).Nodup
  history : (lists.history.map (·.orderId)).Nodup
  historyArchive : (lists.historyArchive.map (·.orderId)).Nodup
  fills : (lists.fills.map (·.billId)).Nodup
  fillsHistory : (lists.fillsHistory.map (·.billId)).Nodup
  fillIds : ∀ fill ∈ lists.fills, Text.isBlank fill.billId = false
  fillsHistoryIds : ∀ fill ∈ lists.fillsHistory, Text.isBlank fill.billId = false
  openAlgoOrders : (lists.openAlgoOrders.map (·.algoId)).Nodup
  algoHistory : ∀ state, ((lists.algoHistory state).map (·.algoId)).Nodup

/-- The client's server holds the lists. -/
structure HeldBy (lists : ServerLists) (client : OkxRestClient W) (instId : Text) : Prop where
  openOrders : Holds client.orders (·.Asks "/api/v5/trade/orders-pending" instId)
    (·.orderId) lists.openOrders
  history : Holds client.orders (·.Asks "/api/v5/trade/orders-history" instId)
    (·.orderId) lists.history
  historyArchive : Holds client.orders (·.Asks "/api/v5/trade/orders-history-archive" instId)
    (·.orderId) lists.historyArchive
  fills : Holds client.fills (·.Asks "/api/v5/trade/fills" instId) (·.billId) lists.fills
  fillsHistory : Holds client.fills (·.Asks "/api/v5/trade/fills-history" instId) (·.billId)
    lists.fillsHistory
  openAlgoOrders : Holds client.algoOrders (·.Asks "/api/v5/trade/orders-algo-pending" instId)
    (·.algoId) lists.openAlgoOrders
  algoHistory : ∀ state, Holds client.algoOrders
    (fun r => r.Asks "/api/v5/trade/orders-algo-history" instId ∧
      r.query.lookup "state" = some state) (·.algoId) (lists.algoHistory state)

end ServerLists

/-- An order the reads accept: of this instrument, in a state that is documented. -/
structure OkxOrderRow.Valid (order : OkxOrderRow) (instId : Text) : Prop where
  instId : order.instId = instId
  instType : order.instType = spotText
  state : (order.isLive || order.isTerminal) = true
  identified : Text.isBlank order.orderId = false

/-- A fill that a read may return. -/
structure OkxFillRow.Valid (fill : OkxFillRow) (instId : Text) : Prop where
  instId : fill.instId = instId
  instType : fill.instType = spotText
  identified : Text.isBlank fill.billId = false

/-- A trigger order that a read may return. -/
structure OkxAlgoOrderRow.Valid (order : OkxAlgoOrderRow) (instId : Text) : Prop where
  instId : order.instId = instId
  instType : order.instType = spotText
  state : ∀ text, order.state = .other text → text ∈ otherAlgoStates
  identified : Text.isBlank order.algoId = false

/-- The client lists the instrument. -/
def OkxRestClient.Lists (client : OkxRestClient W) (instId : Text) : Prop :=
  ∃ instType, client.validatedInstrumentType instId = .ok instType

/-! ## The loops of the five reads -/

theorem lookup_extendAfter {pairs : Query} (h : pairs.lookup "after" = none)
    (after : Option Text) : (extendAfter pairs after).lookup "after" = after := by
  unfold extendAfter
  rw [List.lookup_append, h]
  cases after <;> rfl

/-- Another field is found as without the cursor. -/
theorem lookup_extendAfter_of_some {pairs : Query} {field : String} {value : Text}
    (h : pairs.lookup field = some value) (after : Option Text) :
    (extendAfter pairs after).lookup field = some value := by
  unfold extendAfter
  rw [List.lookup_append, h]
  rfl

/-- Of a server that holds a list of distinct records, a loop reads all of it where it is shorter
than twenty pages. -/
theorem PageLoop.appends_of_holds (self : PageLoop R) {get : RestGet R W}
    {asked : Request → Prop} {Valid : R → Prop} {records : List R}
    (hlimit : self.pageLimit = 100) (hpages : self.maxPages = 20)
    (hheld : Holds get asked self.cursor records) (hasked : ∀ c, asked ⟨self.path, self.query c⟩)
    (hquery : ∀ c, (self.query c).lookup "after" = c) (hdistinct : self.Distinct records)
    (haccepts : ∀ row, Valid row → self.Accepts row) :
    Appends self.key (records.length < 2000) (∀ row ∈ records, Valid row)
      (fun rows => addNew self.key rows records) (self.run get) := by
  have hserves : self.Serves get records := fun c w => by
    rw [hheld _ (hasked c) w, hlimit, hquery c]
  exact (PageLoop.appends (by omega) (by rw [hlimit, hpages]) hserves hdistinct).congr Iff.rfl
    fun h row hrow => haccepts row (h row hrow)

variable {instId instType state : Text} {path : String} {context : Message}

theorem ensureOrderMatchesInstrument_of_valid {order : OkxOrderRow} (h : order.Valid instId) :
    ensureOrderMatchesInstrument instId context order = .ok () := by
  rw [ensureOrderMatchesInstrument, ensureSpotInstType, OkxOrder.ensureDocumentedState, ensure,
    if_pos h.instId, ensure, if_pos h.instType, ensure, if_pos h.state]
  rfl

theorem ensureFillMatchesInstrument_of_valid {fill : OkxFillRow} (h : fill.Valid instId) :
    ensureFillMatchesInstrument instId context fill = .ok () := by
  rw [ensureFillMatchesInstrument, ensureSpotInstType, ensure, if_pos h.instId, ensure,
    if_pos h.instType]
  rfl

theorem ensureAlgoOrderMatchesInstrument_of_valid {order : OkxAlgoOrderRow}
    (h : order.Valid instId) : ensureAlgoOrderMatchesInstrument instId context order = .ok () := by
  have hstate : order.toOkxAlgoOrder.ensureDocumentedState context = .ok () := by
    unfold OkxAlgoOrder.ensureDocumentedState
    split
    · rename_i text htext
      rw [ensure, if_pos (decide_eq_true (h.state text htext))]
    · rfl
  rw [ensureAlgoOrderMatchesInstrument, ensureSpotInstType, ensure, if_pos h.instId, ensure,
    if_pos h.instType, hstate]
  rfl

theorem dedupeKey_of_billId {fill : OkxFill} (h : Text.isBlank fill.billId = false) :
    fill.dedupeKey = fill.billId := by
  unfold OkxFill.dedupeKey
  rw [if_pos (by rw [h]; simp)]

theorem map_dedupeKey {fills : List OkxFillRow}
    (h : ∀ fill ∈ fills, Text.isBlank fill.billId = false) :
    fills.map (·.dedupeKey) = fills.map (·.billId) :=
  List.map_congr_left fun fill hfill => dedupeKey_of_billId (h fill hfill)

theorem openOrdersLoop_accepts {order : OkxOrderRow} (h : order.Valid instId) :
    (openOrdersLoop instType instId).Accepts order where
  matched := ensureOrderMatchesInstrument_of_valid h
  identified := if_pos h.identified
  cursor := h.identified

theorem orderHistoryLoop_accepts {order : OkxOrderRow} (h : order.Valid instId) :
    (orderHistoryLoop path context instType instId).Accepts order where
  matched := ensureOrderMatchesInstrument_of_valid h
  identified := if_pos h.identified
  cursor := h.identified

theorem orderFillsLoop_accepts {fill : OkxFillRow} (h : fill.Valid instId) :
    (orderFillsLoop path context instType instId).Accepts fill where
  matched := ensureFillMatchesInstrument_of_valid h
  identified := if_pos (by rw [dedupeKey_of_billId h.identified]; exact h.identified)
  cursor := h.identified

theorem openAlgoOrdersLoop_accepts {order : OkxAlgoOrderRow} (h : order.Valid instId) :
    (openAlgoOrdersLoop instType instId).Accepts order where
  matched := ensureAlgoOrderMatchesInstrument_of_valid h
  identified := if_pos h.identified
  cursor := h.identified

theorem algoOrderHistoryLoop_accepts {order : OkxAlgoOrderRow} (h : order.Valid instId) :
    (algoOrderHistoryLoop state instType instId).Accepts order where
  matched := ensureAlgoOrderMatchesInstrument_of_valid h
  identified := rfl
  cursor := h.identified

/-! ## The reads of the client -/

namespace OkxRestClient

variable {client : OkxRestClient W} {lists : ServerLists}

theorem openOrdersLoop_appends (instType : Text) (hdistinct : lists.Distinct)
    (hheld : lists.HeldBy client instId) :
    Appends (·.orderId) (lists.openOrders.length < 2000)
      (∀ order ∈ lists.openOrders, order.Valid instId)
      (fun rows => addNew (·.orderId) rows lists.openOrders)
      ((openOrdersLoop instType instId).run client.orders) :=
  (openOrdersLoop instType instId).appends_of_holds rfl rfl hheld.openOrders
    (fun c => ⟨rfl, lookup_extendAfter_of_some rfl c, lookup_extendAfter_of_some rfl c⟩)
    (lookup_extendAfter rfl) ⟨hdistinct.openOrders, hdistinct.openOrders⟩
    fun _ => openOrdersLoop_accepts

theorem openAlgoOrdersLoop_appends (instType : Text) (hdistinct : lists.Distinct)
    (hheld : lists.HeldBy client instId) :
    Appends (·.algoId) (lists.openAlgoOrders.length < 2000)
      (∀ order ∈ lists.openAlgoOrders, order.Valid instId)
      (fun rows => addNew (·.algoId) rows lists.openAlgoOrders)
      ((openAlgoOrdersLoop instType instId).run client.algoOrders) :=
  (openAlgoOrdersLoop instType instId).appends_of_holds rfl rfl hheld.openAlgoOrders
    (fun c => ⟨rfl, lookup_extendAfter_of_some rfl c, lookup_extendAfter_of_some rfl c⟩)
    (lookup_extendAfter rfl) ⟨hdistinct.openAlgoOrders, hdistinct.openAlgoOrders⟩
    fun _ => openAlgoOrdersLoop_accepts

theorem appendOrderHistoryEndpoint_appends {records : List OkxOrderRow} (context : Message)
    (hdistinct : (records.map (·.orderId)).Nodup)
    (hheld : Holds client.orders (·.Asks path instId) (·.orderId) records) :
    Appends (·.orderId) (records.length < 2000)
      (client.Lists instId ∧ ∀ order ∈ records, order.Valid instId)
      (fun rows => addNew (·.orderId) rows records)
      (client.appendOrderHistoryEndpoint instId path context) :=
  Appends.checked (client.validatedInstrumentType instId) fun instType =>
    (orderHistoryLoop path context instType instId).appends_of_holds rfl rfl hheld
      (fun c => ⟨rfl, lookup_extendAfter_of_some rfl c, lookup_extendAfter_of_some rfl c⟩)
      (lookup_extendAfter rfl) ⟨hdistinct, hdistinct⟩ fun _ => orderHistoryLoop_accepts

theorem appendOrderFillsEndpoint_appends {records : List OkxFillRow} (context : Message)
    (hdistinct : (records.map (·.billId)).Nodup)
    (hids : ∀ fill ∈ records, Text.isBlank fill.billId = false)
    (hheld : Holds client.fills (·.Asks path instId) (·.billId) records) :
    Appends (·.dedupeKey) (records.length < 2000)
      (client.Lists instId ∧ ∀ fill ∈ records, fill.Valid instId)
      (fun rows => addNew (·.dedupeKey) rows records)
      (client.appendOrderFillsEndpoint instId path context) :=
  Appends.checked (client.validatedInstrumentType instId) fun instType =>
    (orderFillsLoop path context instType instId).appends_of_holds rfl rfl hheld
      (fun c => ⟨rfl, lookup_extendAfter_of_some rfl c, lookup_extendAfter_of_some rfl c⟩)
      (lookup_extendAfter rfl)
      ⟨hdistinct, show (records.map (·.dedupeKey)).Nodup by rwa [map_dedupeKey hids]⟩
      fun _ => orderFillsLoop_accepts

theorem appendAlgoOrderHistoryState_appends (hdistinct : lists.Distinct)
    (hheld : lists.HeldBy client instId) :
    Appends (·.algoId) ((lists.algoHistory state).length < 2000)
      (client.Lists instId ∧ ∀ order ∈ lists.algoHistory state, order.Valid instId)
      (fun rows => addNew (·.algoId) rows (lists.algoHistory state))
      (client.appendAlgoOrderHistoryState instId state) :=
  Appends.checked (client.validatedInstrumentType instId) fun instType =>
    (algoOrderHistoryLoop state instType instId).appends_of_holds rfl rfl
      (hheld.algoHistory state)
      (fun c => ⟨⟨rfl, lookup_extendAfter_of_some rfl c, lookup_extendAfter_of_some rfl c⟩,
        lookup_extendAfter_of_some rfl c⟩)
      (lookup_extendAfter rfl) ⟨hdistinct.algoHistory state, hdistinct.algoHistory state⟩
      fun _ => algoOrderHistoryLoop_accepts

/-- The records of several states, each once. -/
def algoRecords (lists : ServerLists) (states : List Text) (rows : List OkxAlgoOrderRow) :
    List OkxAlgoOrderRow :=
  states.foldl (fun rows state => addNew (·.algoId) rows (lists.algoHistory state)) rows

theorem appendAlgoOrderHistoryStates_appends (hdistinct : lists.Distinct)
    (hheld : lists.HeldBy client instId) (states : List Text) :
    Appends (·.algoId) (∀ state ∈ states, (lists.algoHistory state).length < 2000)
      (∀ state ∈ states, client.Lists instId ∧
        ∀ order ∈ lists.algoHistory state, order.Valid instId)
      (algoRecords lists states) (client.appendAlgoOrderHistoryStates instId states) := by
  induction states with
  | nil => exact Appends.pure.congr (by simp) (by simp)
  | cons state rest ih =>
      exact ((appendAlgoOrderHistoryState_appends hdistinct hheld).bind ih).congr
        List.forall_mem_cons List.forall_mem_cons.1

/-- Two lists joined: every id of either list, once, and no record of neither. -/
structure JoinedBy (key : R → Text) (records more all : List R) : Prop where
  ids : ∀ id, id ∈ all.map key ↔ id ∈ records.map key ∨ id ∈ more.map key
  once : (all.map key).Nodup
  records : ∀ row ∈ all, row ∈ records ∨ row ∈ more

theorem joinedBy_addNew {key : R → Text} {records more : List R}
    (hrecords : (records.map key).Nodup) (hmore : (more.map key).Nodup) :
    JoinedBy key records more (addNew key records more) where
  ids _ := mem_keys_addNew
  once := nodup_addNew hrecords hmore
  records row hrow := by
    rcases List.mem_append.1 hrow with h | h
    · exact .inl h
    · exact .inr (List.mem_of_mem_filter h)

theorem JoinedBy.congr {key key' : R → Text} {records more all : List R}
    (h : JoinedBy key records more all) (hrecords : ∀ row ∈ records, key row = key' row)
    (hmore : ∀ row ∈ more, key row = key' row) : JoinedBy key' records more all := by
  have hall : all.map key = all.map key' := List.map_congr_left fun row hrow =>
    (h.records row hrow).elim (hrecords row) (hmore row)
  have hids := h.ids
  have honce := h.once
  rw [hall, List.map_congr_left hrecords, List.map_congr_left hmore] at hids
  rw [hall] at honce
  exact ⟨hids, honce, h.records⟩

/-- The reads of an instrument, from a server that holds these lists: each endpoint and state after
any rows found before it, and the five reads as a whole. -/
structure ReadsComplete (client : OkxRestClient W) (lists : ServerLists) (instId : Text) :
    Prop where
  openOrders : ∀ s, CompleteOrFails (lists.openOrders.length < 2000)
    (client.Lists instId ∧ ∀ order ∈ lists.openOrders, order.Valid instId)
    lists.openOrders (client.openOrders instId s).1
  historyEndpoint : Appends (·.orderId) (lists.history.length < 2000)
    (client.Lists instId ∧ ∀ order ∈ lists.history, order.Valid instId)
    (fun rows => addNew (·.orderId) rows lists.history)
    (client.appendOrderHistoryEndpoint instId "/api/v5/trade/orders-history" "order history")
  historyArchiveEndpoint : Appends (·.orderId) (lists.historyArchive.length < 2000)
    (client.Lists instId ∧ ∀ order ∈ lists.historyArchive, order.Valid instId)
    (fun rows => addNew (·.orderId) rows lists.historyArchive)
    (client.appendOrderHistoryEndpoint instId "/api/v5/trade/orders-history-archive"
      "order history archive")
  orderHistory : ∀ s, CompleteOrFails
    (lists.history.length < 2000 ∧ lists.historyArchive.length < 2000)
    ((client.Lists instId ∧ ∀ order ∈ lists.history, order.Valid instId) ∧
      client.Lists instId ∧ ∀ order ∈ lists.historyArchive, order.Valid instId)
    (addNew (·.orderId) lists.history lists.historyArchive) (client.orderHistory instId s).1
  fillsEndpoint : Appends (·.dedupeKey) (lists.fills.length < 2000)
    (client.Lists instId ∧ ∀ fill ∈ lists.fills, fill.Valid instId)
    (fun rows => addNew (·.dedupeKey) rows lists.fills)
    (client.appendOrderFillsEndpoint instId "/api/v5/trade/fills" "order fills")
  fillsHistoryEndpoint : Appends (·.dedupeKey) (lists.fillsHistory.length < 2000)
    (client.Lists instId ∧ ∀ fill ∈ lists.fillsHistory, fill.Valid instId)
    (fun rows => addNew (·.dedupeKey) rows lists.fillsHistory)
    (client.appendOrderFillsEndpoint instId "/api/v5/trade/fills-history" "order fills history")
  orderFills : ∀ s, CompleteOrFails
    (lists.fills.length < 2000 ∧ lists.fillsHistory.length < 2000)
    ((client.Lists instId ∧ ∀ fill ∈ lists.fills, fill.Valid instId) ∧
      client.Lists instId ∧ ∀ fill ∈ lists.fillsHistory, fill.Valid instId)
    (addNew (·.dedupeKey) lists.fills lists.fillsHistory) (client.orderFills instId s).1
  openAlgoOrders : ∀ s, CompleteOrFails (lists.openAlgoOrders.length < 2000)
    (client.Lists instId ∧ ∀ order ∈ lists.openAlgoOrders, order.Valid instId)
    lists.openAlgoOrders (client.openAlgoOrders instId s).1
  algoHistoryState : ∀ state, Appends (·.algoId) ((lists.algoHistory state).length < 2000)
    (client.Lists instId ∧ ∀ order ∈ lists.algoHistory state, order.Valid instId)
    (fun rows => addNew (·.algoId) rows (lists.algoHistory state))
    (client.appendAlgoOrderHistoryState instId state)
  /-- The two order lists joined. -/
  historyUnion : JoinedBy (·.orderId) lists.history lists.historyArchive
    (addNew (·.orderId) lists.history lists.historyArchive)
  fillsUnion : JoinedBy (·.billId) lists.fills lists.fillsHistory
    (addNew (·.dedupeKey) lists.fills lists.fillsHistory)
  algoOrderHistory : ∀ s, CompleteOrFails
    (∀ state ∈ okxAlgoHistoryStates, (lists.algoHistory state).length < 2000)
    (∀ state ∈ okxAlgoHistoryStates, client.Lists instId ∧
      ∀ order ∈ lists.algoHistory state, order.Valid instId)
    (algoRecords lists okxAlgoHistoryStates []) (client.algoOrderHistory instId s).1

theorem readsComplete (hdistinct : lists.Distinct) (hheld : lists.HeldBy client instId) :
    ReadsComplete client lists instId := by
  have hhistory := appendOrderHistoryEndpoint_appends "order history" hdistinct.history
    hheld.history
  have harchive := appendOrderHistoryEndpoint_appends "order history archive"
    hdistinct.historyArchive hheld.historyArchive
  have hfills := appendOrderFillsEndpoint_appends "order fills" hdistinct.fills
    hdistinct.fillIds hheld.fills
  have hfillsHistory := appendOrderFillsEndpoint_appends "order fills history"
    hdistinct.fillsHistory hdistinct.fillsHistoryIds hheld.fillsHistory
  refine ⟨fun s => ?_, hhistory, harchive, fun s => ?_, hfills, hfillsHistory, fun s => ?_,
    fun s => ?_, fun state => appendAlgoOrderHistoryState_appends hdistinct hheld, ?_, ?_,
    fun s => (appendAlgoOrderHistoryStates_appends hdistinct hheld _).read s⟩
  · have h := Appends.read_checked (client.validatedInstrumentType instId)
      (fun instType => openOrdersLoop_appends instType hdistinct hheld) s
    rwa [addNew_of_nil] at h
  · have h := hhistory.read_bind harchive s
    rwa [addNew_of_nil] at h
  · have h := hfills.read_bind hfillsHistory s
    rwa [addNew_of_nil] at h
  · have h := Appends.read_checked (client.validatedInstrumentType instId)
      (fun instType => openAlgoOrdersLoop_appends instType hdistinct hheld) s
    rwa [addNew_of_nil] at h
  · exact joinedBy_addNew hdistinct.history hdistinct.historyArchive
  · refine (joinedBy_addNew ?_ ?_).congr (fun fill h => dedupeKey_of_billId (hdistinct.fillIds _ h))
      fun fill h => dedupeKey_of_billId (hdistinct.fillsHistoryIds _ h)
    · rw [map_dedupeKey hdistinct.fillIds]
      exact hdistinct.fills
    · rw [map_dedupeKey hdistinct.fillsHistoryIds]
      exact hdistinct.fillsHistory

end OkxRestClient

/-! ## Numbers of requests -/

/-- However the server answers, at most `n` requests are made. -/
def MakesAtMost {α : Type} (n : ℕ) (x : Prog Message (RestState W) α) : Prop :=
  ∀ s, (x s).2.requests.length ≤ s.requests.length + n

namespace MakesAtMost

variable {α β : Type} {n m : ℕ}

protected theorem pure (a : α) : MakesAtMost 0 (pure a : Prog Message (RestState W) α) :=
  fun _ => le_refl _

protected theorem bind {x : Prog Message (RestState W) α} {f : α → Prog Message (RestState W) β}
    (hx : MakesAtMost n x) (hf : ∀ a, MakesAtMost m (f a)) : MakesAtMost (n + m) (x >>= f) := by
  intro s
  have hfirst := hx s
  show (Prog.bind x f s).2.requests.length ≤ _
  unfold Prog.bind
  generalize x s = result at hfirst
  obtain ⟨_ | a, t⟩ := result
  · dsimp only at hfirst ⊢
    omega
  · have hsecond := hf a t
    dsimp only at hfirst ⊢
    omega

/-- The check before a loop makes none. -/
theorem checked {check : Result α} {f : α → Prog Message (RestState W) β}
    (hf : ∀ a, MakesAtMost n (f a)) : MakesAtMost n (liftResult check >>= f) := by
  cases check with
  | error m => exact fun s => Nat.le_add_right _ _
  | ok a => exact hf a

theorem run {self : PageLoop R} {get : RestGet R W} {found : List R × List Text}
    (hpages : self.maxPages = n) : MakesAtMost n (self.run get found) :=
  fun _ => hpages ▸ PageLoop.appendPages_requests

end MakesAtMost

namespace OkxRestClient

variable {client : OkxRestClient W} {lists : ServerLists}

/-- Twenty requests for each endpoint, and for each state of the algo history. -/
structure RequestsBounded (client : OkxRestClient W) (instId : Text) : Prop where
  openOrders : MakesAtMost 20 (client.openOrders instId)
  historyEndpoint : ∀ path context found,
    MakesAtMost 20 (client.appendOrderHistoryEndpoint instId path context found)
  orderHistory : MakesAtMost (20 * 2) (client.orderHistory instId)
  fillsEndpoint : ∀ path context found,
    MakesAtMost 20 (client.appendOrderFillsEndpoint instId path context found)
  orderFills : MakesAtMost (20 * 2) (client.orderFills instId)
  openAlgoOrders : MakesAtMost 20 (client.openAlgoOrders instId)
  algoHistoryState : ∀ state found,
    MakesAtMost 20 (client.appendAlgoOrderHistoryState instId state found)
  algoOrderHistory :
    MakesAtMost (20 * okxAlgoHistoryStates.length) (client.algoOrderHistory instId)

theorem appendAlgoOrderHistoryStates_requests
    (hstate : ∀ state found,
      MakesAtMost 20 (client.appendAlgoOrderHistoryState instId state found)) :
    ∀ states found, MakesAtMost (20 * states.length)
      (client.appendAlgoOrderHistoryStates instId states found) := by
  intro states
  induction states with
  | nil => exact fun found => MakesAtMost.pure found
  | cons state rest ih =>
      intro found
      have hboth := (hstate state found).bind ih
      rwa [show 20 + 20 * rest.length = 20 * (state :: rest).length by
        rw [List.length_cons]; omega] at hboth

theorem requestsBounded : RequestsBounded client instId := by
  have hhistory : ∀ path context found,
      MakesAtMost 20 (client.appendOrderHistoryEndpoint instId path context found) :=
    fun _ _ _ => MakesAtMost.checked fun _ => MakesAtMost.run rfl
  have hfills : ∀ path context found,
      MakesAtMost 20 (client.appendOrderFillsEndpoint instId path context found) :=
    fun _ _ _ => MakesAtMost.checked fun _ => MakesAtMost.run rfl
  have hstate : ∀ state found,
      MakesAtMost 20 (client.appendAlgoOrderHistoryState instId state found) :=
    fun _ _ => MakesAtMost.checked fun _ => MakesAtMost.run rfl
  exact {
    openOrders := MakesAtMost.checked fun _ => (MakesAtMost.run rfl).bind fun found =>
      MakesAtMost.pure found.1
    historyEndpoint := hhistory
    orderHistory := (hhistory _ _ _).bind fun found => (hhistory _ _ found).bind fun found =>
      MakesAtMost.pure found.1
    fillsEndpoint := hfills
    orderFills := (hfills _ _ _).bind fun found => (hfills _ _ found).bind fun found =>
      MakesAtMost.pure found.1
    openAlgoOrders := MakesAtMost.checked fun _ => (MakesAtMost.run rfl).bind fun found =>
      MakesAtMost.pure found.1
    algoHistoryState := hstate
    algoOrderHistory := (appendAlgoOrderHistoryStates_requests hstate _ _).bind fun found =>
      MakesAtMost.pure found.1 }

/-- **Paginated reads are complete or fail**: from any server that holds lists of distinct records
each read returns every record once, or an error where a list has no room in twenty pages; and
whatever the server answers, no read makes more than twenty requests to an endpoint. -/
theorem reads_complete (client : OkxRestClient W) (instId : Text) :
    (∀ lists : ServerLists, lists.Distinct → lists.HeldBy client instId →
      ReadsComplete client lists instId) ∧ RequestsBounded client instId :=
  ⟨fun _ hdistinct hheld => readsComplete hdistinct hheld, requestsBounded⟩

end OkxRestClient

/-! ## A server of the lists -/

namespace ServerLists

/-- The server that holds the lists. -/
def client (lists : ServerLists) : OkxRestClient Unit where
  validatedInstrumentType _ := .ok spotText
  orders request w :=
    let records :=
      if request.path = "/api/v5/trade/orders-pending" then lists.openOrders
      else if request.path = "/api/v5/trade/orders-history" then lists.history
      else lists.historyArchive
    (.ok (page 100 (·.orderId) records (request.query.lookup "after")), w)
  fills request w :=
    let records :=
      if request.path = "/api/v5/trade/fills" then lists.fills else lists.fillsHistory
    (.ok (page 100 (·.billId) records (request.query.lookup "after")), w)
  algoOrders request w :=
    let records :=
      if request.path = "/api/v5/trade/orders-algo-pending" then lists.openAlgoOrders
      else lists.algoHistory ((request.query.lookup "state").getD [])
    (.ok (page 100 (·.algoId) records (request.query.lookup "after")), w)

theorem heldBy_client (lists : ServerLists) (instId : Text) : lists.HeldBy lists.client instId where
  openOrders request h w := by simp [client, h.path]
  history request h w := by simp [client, h.path]
  historyArchive request h w := by simp [client, h.path]
  fills request h w := by simp [client, h.path]
  fillsHistory request h w := by simp [client, h.path]
  openAlgoOrders request h w := by simp [client, h.path]
  algoHistory state request h w := by simp [client, h.1.path, h.2]

/-- Three orders, one of them in both lists of the history. -/
def overlapping : ServerLists where
  openOrders := []
  history := [order ['3'], order ['2']]
  historyArchive := [order ['2'], order ['1']]
  fills := []
  fillsHistory := []
  openAlgoOrders := []
  algoHistory _ := []
where
  order (id : Text) : OkxOrderRow :=
    { clientOrderId := [], side := some .buy, orderType := some .limit, price := .value 1,
      state := .filled, averagePrice := .value 1, accumulatedFillSize := .value 1,
      fee := .blank, feeCurrency := [], rebate := .blank, rebateCurrency := [], sz := .value 1,
      createdAt := none, orderId := id, instId := [], instType := spotText }

end ServerLists

/-- The order in both lists is returned once. -/
theorem reads_complete_overlapping :
    (ServerLists.overlapping.client.orderHistory [] ⟨(), []⟩).1 =
      .ok (["3", "2", "1"].map fun id => ServerLists.overlapping.order id.toList) := by
  have hdistinct : ServerLists.overlapping.Distinct :=
    { openOrders := by decide, history := by decide, historyArchive := by decide,
      fills := by decide, fillsHistory := by decide, fillIds := by decide,
      fillsHistoryIds := by decide, openAlgoOrders := by decide,
      algoHistory := fun _ => List.nodup_nil }
  have hreads := (OkxRestClient.reads_complete ServerLists.overlapping.client []).1
    ServerLists.overlapping hdistinct (ServerLists.heldBy_client _ _)
  have hlists : ServerLists.overlapping.client.Lists [] := ⟨spotText, rfl⟩
  have hvalid : ∀ id, Text.isBlank id = false →
      (ServerLists.overlapping.order id).Valid [] := fun id h => ⟨rfl, rfl, rfl, h⟩
  refine (hreads.orderHistory ⟨(), []⟩).complete ⟨⟨hlists, ?_⟩, hlists, ?_⟩ (by decide)
  · exact List.forall_mem_cons.2 ⟨hvalid _ (by decide), List.forall_mem_singleton.2
      (hvalid _ (by decide))⟩
  · exact List.forall_mem_cons.2 ⟨hvalid _ (by decide), List.forall_mem_singleton.2
      (hvalid _ (by decide))⟩

end OkxTrading
