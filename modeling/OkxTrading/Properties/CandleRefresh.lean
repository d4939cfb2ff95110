import Mathlib.Data.Finset.Card
import OkxTrading.Market.LiveCandles

/-!
# The candles a refresh feeds to the signal

REST bars and hints are merged by their timestamps, the newest ones are kept, and `refresh_bars`
feeds the confirmed ones that are newer than the last one it fed.

* `mem_merge`, `MergesNewest` — the newest timestamps, and for each the last bar written.
* `KeepsConfirmed`, `ConfirmedLast` — a confirmed bar stays confirmed, and when it does.
* `feedCandle`, `refreshBarsLoop_eq` — what the runner does with an answer.
* `live_candles_merged` — **the merge for all lists, and every sequence of refreshes**.
* `confirmed_bar_withheld` — an older hint hides the confirmed bar.
-/

namespace OkxTrading

open Collections Effect

variable {F : Type}

/-! ## The merge -/

section Merge

variable {rest hints bars : List (OkxCandleBar F)} {limit : ℕ} {b : OkxCandleBar F} {ts : ℤ}

/-- The distinct timestamps of a list of bars. -/
def timestamps (bars : List (OkxCandleBar F)) : Finset ℤ := (bars.map (·.tsMs)).toFinset

/-- How many timestamps are newer. -/
def newerThan (bars : List (OkxCandleBar F)) (ts : ℤ) : ℕ :=
  ((timestamps bars).filter (ts < ·)).card

/-- The last bar with a timestamp: the one that was written last. -/
def lastBar (bars : List (OkxCandleBar F)) (ts : ℤ) : Option (OkxCandleBar F) :=
  SortedMap.lastWith (·.tsMs) bars ts

theorem mem_timestamps : ts ∈ timestamps bars ↔ ∃ b ∈ bars, b.tsMs = ts := by
  simp [timestamps]

theorem mem_candlesByTsMs {e : ℤ × OkxCandleBar F} :
    e ∈ (candlesByTsMs bars).entries ↔ lastBar bars e.1 = some e.2 := SortedMap.mem_collect

theorem tsMs_of_lastBar (h : lastBar bars ts = some b) : b.tsMs = ts := by
  have hkey := SortedMap.lastWith_eq_some_key h
  exact hkey

theorem lastBar_isSome : (lastBar bars ts).isSome = true ↔ ts ∈ timestamps bars := by
  rw [mem_timestamps]
  exact SortedMap.lastWith_isSome

theorem keys_candlesByTsMs :
    ((candlesByTsMs bars).entries.map (·.1)).toFinset = timestamps bars := by
  ext ts
  rw [List.mem_toFinset, List.mem_map, ← lastBar_isSome, Option.isSome_iff_exists]
  constructor
  · rintro ⟨e, he, rfl⟩
    exact ⟨e.2, mem_candlesByTsMs.1 he⟩
  · rintro ⟨b, hb⟩
    exact ⟨(ts, b), mem_candlesByTsMs.2 hb, rfl⟩

theorem size_candlesByTsMs : (candlesByTsMs bars).size = (timestamps bars).card := by
  rw [← keys_candlesByTsMs, List.toFinset_card_of_nodup (SortedMap.nodup_keys _), List.length_map]
  rfl

theorem newer_candlesByTsMs :
    ((candlesByTsMs bars).entries.filter fun e => decide (ts < e.1)).length =
    newerThan bars ts := by
  have hnodup :
      (((candlesByTsMs bars).entries.filter fun e => decide (ts < e.1)).map (·.1)).Nodup :=
    (SortedMap.nodup_keys _).sublist (List.filter_sublist.map _)
  rw [newerThan, ← keys_candlesByTsMs, ← List.length_map (f := (·.1)),
    ← List.toFinset_card_of_nodup hnodup]
  congr 1
  ext t
  simp only [List.mem_toFinset, List.mem_map, List.mem_filter, Finset.mem_filter, decide_eq_true_eq]
  constructor
  · rintro ⟨e, ⟨he, hlt⟩, rfl⟩
    exact ⟨⟨e, he, rfl⟩, hlt⟩
  · rintro ⟨⟨e, he, rfl⟩, hlt⟩
    exact ⟨e, ⟨he, hlt⟩, rfl⟩

/-- **A returned bar** is the last one with its timestamp, which is one of the newest. -/
theorem mem_merge : b ∈ mergeLiveCandleHints rest hints limit ↔
    lastBar (rest ++ hints) b.tsMs = some b ∧ newerThan (rest ++ hints) b.tsMs < limit := by
  unfold mergeLiveCandleHints
  rw [List.mem_map]
  constructor
  · rintro ⟨⟨ts, found⟩, he, rfl⟩
    obtain ⟨hmem, hnewer⟩ := SortedMap.mem_lastN.1 he
    have hlast := mem_candlesByTsMs.1 hmem
    have hts := tsMs_of_lastBar hlast
    rw [newer_candlesByTsMs] at hnewer
    exact ⟨hts.symm ▸ hlast, hts.symm ▸ hnewer⟩
  · rintro ⟨hlast, hnewer⟩
    refine ⟨(b.tsMs, b), SortedMap.mem_lastN.2 ⟨mem_candlesByTsMs.2 hlast, ?_⟩, rfl⟩
    rwa [newer_candlesByTsMs]

/-- The bars of the newest timestamps, in their order. -/
structure MergesNewest (rest hints : List (OkxCandleBar F)) (limit : ℕ) : Prop where
  increasing : (mergeLiveCandleHints rest hints limit).Pairwise fun a b => a.tsMs < b.tsMs
  count : (mergeLiveCandleHints rest hints limit).length =
    min limit (timestamps (rest ++ hints)).card
  newest : ∀ ts, (∃ b ∈ mergeLiveCandleHints rest hints limit, b.tsMs = ts) ↔
    ts ∈ timestamps (rest ++ hints) ∧ newerThan (rest ++ hints) ts < limit
  source : ∀ b ∈ mergeLiveCandleHints rest hints limit, lastBar (rest ++ hints) b.tsMs = some b

theorem mergesNewest (rest hints : List (OkxCandleBar F)) (limit : ℕ) :
    MergesNewest rest hints limit where
  increasing := by
    have hsorted := ((candlesByTsMs (rest ++ hints)).lastN limit).sorted
    refine List.pairwise_map.2 (hsorted.imp_of_mem ?_)
    intro x y hx hy hlt
    have hkey : ∀ e ∈ ((candlesByTsMs (rest ++ hints)).lastN limit).entries, e.2.tsMs = e.1 :=
      fun e he => tsMs_of_lastBar (mem_candlesByTsMs.1 (SortedMap.mem_of_mem_lastN he))
    rw [hkey x hx, hkey y hy]
    exact hlt
  count := by
    rw [mergeLiveCandleHints, List.length_map, ← size_candlesByTsMs]
    show ((candlesByTsMs (rest ++ hints)).entries.drop _).length = _
    rw [List.length_drop]
    show (candlesByTsMs (rest ++ hints)).size - _ = _
    omega
  newest ts := by
    constructor
    · rintro ⟨b, hb, rfl⟩
      obtain ⟨hlast, hnewer⟩ := mem_merge.1 hb
      exact ⟨mem_timestamps.2 ⟨b, SortedMap.mem_of_lastWith hlast, rfl⟩, hnewer⟩
    · rintro ⟨hts, hnewer⟩
      obtain ⟨b, hb⟩ := Option.isSome_iff_exists.1 (lastBar_isSome.2 hts)
      obtain rfl := tsMs_of_lastBar hb
      exact ⟨b, mem_merge.2 ⟨hb, hnewer⟩, rfl⟩
  source b hb := (mem_merge.1 hb).1

/-- A returned bar is confirmed where a bar of the sources with its timestamp is. -/
def KeepsConfirmed (sources returned : List (OkxCandleBar F)) : Prop :=
  ∀ b ∈ returned, (∃ c ∈ sources, c.tsMs = b.tsMs ∧ c.confirm = true) → b.confirm = true

/-- Of the newest timestamps, where one has a confirmed bar, its last bar is confirmed. -/
def ConfirmedLast (sources : List (OkxCandleBar F)) (limit : ℕ) : Prop :=
  ∀ c ∈ sources, c.confirm = true → newerThan sources c.tsMs < limit →
    ∀ last, lastBar sources c.tsMs = some last → last.confirm = true

theorem keepsConfirmed_iff :
    KeepsConfirmed (rest ++ hints) (mergeLiveCandleHints rest hints limit) ↔
    ConfirmedLast (rest ++ hints) limit := by
  constructor
  · intro h c hc hconfirm hnewer last hlast
    have hts := tsMs_of_lastBar hlast
    refine h last (mem_merge.2 ⟨by rw [hts]; exact hlast, by rw [hts]; exact hnewer⟩) ?_
    exact ⟨c, hc, hts.symm, hconfirm⟩
  · rintro h b hb ⟨c, hc, hts, hconfirm⟩
    obtain ⟨hlast, hnewer⟩ := mem_merge.1 hb
    exact h c hc hconfirm (by rw [hts]; exact hnewer) b (by rw [hts]; exact hlast)

end Merge

/-! ## What is fed -/

section Feed

variable {last : Option ℤ} {bars : List (MarketBar F)} {bar : MarketBar F} {ts : ℤ}

/-- The timestamp is newer than the last one, if there is one. -/
def NewerThanLast (last : Option ℤ) (ts : ℤ) : Prop := ∀ t, last = some t → t < ts

instance (last : Option ℤ) (ts : ℤ) : Decidable (NewerThanLast last ts) :=
  decidable_of_iff (last.all fun t => decide (t < ts)) (by cases last <;> simp [NewerThanLast])

/-- The bars of an answer that are fed to the signal, and the last timestamp after them. -/
def feedCandle (last : Option ℤ) : List (MarketBar F) → List (MarketBar F) × Option ℤ
  | [] => ([], last)
  | bar :: rest =>
      if NewerThanLast last bar.tsMs then
        (bar :: (feedCandle (some bar.tsMs) rest).1, (feedCandle (some bar.tsMs) rest).2)
      else feedCandle last rest

/-- All that `feedCandle` does with bars in the order of their timestamps. -/
structure Feeds (last : Option ℤ) (bars fed : List (MarketBar F)) (final : Option ℤ) : Prop where
  increasing : fed.Pairwise fun a b => a.tsMs < b.tsMs
  newer : ∀ b ∈ fed, b ∈ bars ∧ NewerThanLast last b.tsMs
  final_newer : ∀ ts, NewerThanLast final ts → NewerThanLast last ts ∧ ∀ b ∈ fed, b.tsMs < ts
  complete : ∀ b ∈ bars, NewerThanLast last b.tsMs → ∃ f ∈ fed, f.tsMs = b.tsMs

theorem feedCandle_feeds (hsorted : bars.Pairwise fun a b => a.tsMs ≤ b.tsMs) (last : Option ℤ) :
    Feeds last bars (feedCandle last bars).1 (feedCandle last bars).2 := by
  induction bars generalizing last with
  | nil => exact ⟨.nil, by simp [feedCandle], fun ts h => ⟨h, by simp [feedCandle]⟩, by simp⟩
  | cons bar rest ih =>
      obtain ⟨hhead, hrest⟩ := List.pairwise_cons.1 hsorted
      unfold feedCandle
      split
      · rename_i hnewer
        have h := ih hrest (some bar.tsMs)
        refine ⟨?_, ?_, ?_, ?_⟩
        · exact List.pairwise_cons.2 ⟨fun b hb => (h.newer b hb).2 _ rfl, h.increasing⟩
        · intro b hb
          rcases List.mem_cons.1 hb with rfl | hb
          · exact ⟨List.mem_cons_self, hnewer⟩
          · obtain ⟨hmem, hlater⟩ := h.newer b hb
            exact ⟨List.mem_cons_of_mem _ hmem,
              fun t ht => (hnewer t ht).trans (hlater _ rfl)⟩
        · intro ts hts
          obtain ⟨hbar, hfed⟩ := h.final_newer ts hts
          refine ⟨fun t ht => (hnewer t ht).trans (hbar _ rfl), ?_⟩
          intro b hb
          rcases List.mem_cons.1 hb with rfl | hb
          · exact hbar _ rfl
          · exact hfed b hb
        · intro b hb hlast
          rcases List.mem_cons.1 hb with rfl | hb
          · exact ⟨b, List.mem_cons_self, rfl⟩
          · rcases (hhead b hb).lt_or_eq with hlt | heq
            · obtain ⟨f, hf, hts⟩ := h.complete b hb (by rintro t ⟨⟩; exact hlt)
              exact ⟨f, List.mem_cons_of_mem _ hf, hts⟩
            · exact ⟨bar, List.mem_cons_self, heq⟩
      · rename_i hold
        have h := ih hrest last
        refine ⟨h.increasing, fun b hb => ?_, h.final_newer, fun b hb hlast => ?_⟩
        · obtain ⟨hmem, hnewer⟩ := h.newer b hb
          exact ⟨List.mem_cons_of_mem _ hmem, hnewer⟩
        · rcases List.mem_cons.1 hb with rfl | hb
          · exact absurd hlast hold
          · exact h.complete b hb hlast

theorem mem_confirmedBars [F64 F] :
    bar ∈ confirmedBarsChronological bars ↔ bar ∈ bars ∧ bar.confirm = true := by
  rw [confirmedBarsChronological, List.mem_insertionSort, List.mem_filter]

theorem confirmedBars_sorted [F64 F] (bars : List (MarketBar F)) :
    (confirmedBarsChronological bars).Pairwise fun a b => a.tsMs ≤ b.tsMs := by
  have : Std.Total fun a b : MarketBar F => a.tsMs ≤ b.tsMs := ⟨fun a b => le_total _ _⟩
  have : IsTrans (MarketBar F) fun a b => a.tsMs ≤ b.tsMs := ⟨fun _ _ _ hab hbc => hab.trans hbc⟩
  exact List.pairwise_insertionSort _ _

end Feed

/-- The runner after it was fed. -/
def Runner.fed [F64 F] (self : Runner F) (state : ExchangeState) (bars : List (MarketBar F)) :
    Runner F :=
  { self with
    exchange := some { state with lastBarTsMs := (feedCandle state.lastBarTsMs bars).2 }
    signal := (feedCandle state.lastBarTsMs bars).1.foldl
      (fun signal bar => (signal.updateFromBar bar).1) self.signal }

theorem refreshBar_eq {W : Type} [F64 F] (bar : MarketBar F) (s : Ctx F W) (state : ExchangeState)
    (h : s.runner.exchange = some state) :
    refreshBar bar s = (.ok (), if NewerThanLast state.lastBarTsMs bar.tsMs then
      { s with runner := { s.runner with
        exchange := some { state with lastBarTsMs := some bar.tsMs }
        signal := (s.runner.signal.updateFromBar bar).1 } } else s) := by
  have hexchange : exchange s = (.ok state, s) := by
    unfold exchange
    rw [h]
  have hseen : (state.lastBarTsMs.any fun lastTsMs => decide (bar.tsMs ≤ lastTsMs)) = true ↔
      ¬ NewerThanLast state.lastBarTsMs bar.tsMs := by
    cases state.lastBarTsMs <;> simp [NewerThanLast]
  unfold refreshBar
  rw [Prog.bind_apply_ok hexchange]
  by_cases hnewer : NewerThanLast state.lastBarTsMs bar.tsMs
  · have hmut : exchangeMut (fun state => { state with lastBarTsMs := some bar.tsMs }) s =
        (.ok (), s.withExchange (some { state with lastBarTsMs := some bar.tsMs })) := by
      unfold exchangeMut
      rw [h]
    rw [if_neg (fun hany => hseen.1 hany hnewer), if_pos hnewer, Prog.bind_apply_ok hmut]
    rfl
  · rw [if_pos (hseen.2 hnewer), if_neg hnewer]
    rfl

/-- **The loop of `refresh_bars`** feeds these bars. -/
theorem refreshBarsLoop_eq {W : Type} [F64 F] (bars : List (MarketBar F)) (s : Ctx F W)
    (state : ExchangeState) (h : s.runner.exchange = some state) :
    refreshBarsLoop bars s = (.ok (), { s with runner := s.runner.fed state bars }) := by
  induction bars generalizing s state with
  | nil =>
      obtain ⟨runner, world, log⟩ := s
      obtain ⟨⟩ := runner
      cases h
      rfl
  | cons bar rest ih =>
      unfold refreshBarsLoop
      rw [Prog.bind_apply_ok (refreshBar_eq bar s state h)]
      split
      · rename_i hnewer
        rw [ih _ _ rfl, Runner.fed, Runner.fed, feedCandle, if_pos hnewer]
        rfl
      · rename_i hold
        rw [ih s state h, Runner.fed, Runner.fed, feedCandle, if_neg hold]

/-! ## Refreshes one after another -/

/-- What one refresh meets: the client, the response of the endpoint where it is asked, and the
client at that moment. -/
structure LiveCandleTurn (F : Type) where
  state : LiveCandleState F
  walk : FallbackWalk F
  response : Result (List (OkxCandleBar F))
  resumed : LiveCandleState F

/-- The bars a call has at hand: those of a REST response it remembers or gets, those it merges,
and the fresh hints over them. -/
structure CandleReads (F : Type) where
  known : List (OkxCandleBar F)
  rest : List (OkxCandleBar F)
  hints : List (OkxCandleBar F)

section Turns

variable [F64 F]

/-- The answer of `live_candles` for the bars of a minute. -/
def LiveCandleTurn.answer (instId : Text) (turn : LiveCandleTurn F) :
    Result (List (OkxCandleBar F)) :=
  (liveCandles instId okxEmaAtrMakerTrendBar 3 turn.walk turn.response turn.resumed turn.state).1

/-- What the call reads: the hints are enough, or a response is remembered, or one is fetched. -/
def LiveCandleTurn.reads (instId : Text) (turn : LiveCandleTurn F) : Result (CandleReads F) :=
  let key : LiveCandleFallbackKey := ⟨instId, okxEmaAtrMakerTrendBar, 3⟩
  let recent := (recentLiveCandleRestFallback key turn.state).1
  let hints := turn.state.freshCandles instId okxPublicCandle1mChannel
  if 3 ≤ hints.length then .ok ⟨recent.getD [], [], hints⟩
  else
    match recent with
    | some candles => .ok ⟨candles, candles, hints⟩
    | none => do
        let candles ← turn.response >>= checkCandles
        return ⟨candles, candles, (rememberLiveCandleRestFallback turn.walk key candles
          turn.resumed).freshCandles instId okxPublicCandle1mChannel⟩

theorem answer_eq (instId : Text) (turn : LiveCandleTurn F) : turn.answer instId =
    (turn.reads instId).map fun reads => mergeLiveCandleHints reads.rest reads.hints 3 := by
  have hchannel : okxPublicCandleChannelForBar okxEmaAtrMakerTrendBar =
    .ok okxPublicCandle1mChannel := rfl
  unfold LiveCandleTurn.answer LiveCandleTurn.reads liveCandles
  rw [hchannel]
  dsimp only
  unfold freshLiveCandlesFromCache
  by_cases henough : 3 ≤ (turn.state.freshCandles instId okxPublicCandle1mChannel).length
  · simp only [if_pos henough]
    rfl
  · simp only [if_neg henough]
    have hstate : (recentLiveCandleRestFallback ⟨instId, okxEmaAtrMakerTrendBar, 3⟩
        turn.state).2.freshCandles instId okxPublicCandle1mChannel =
          turn.state.freshCandles instId okxPublicCandle1mChannel := by
      unfold recentLiveCandleRestFallback
      split
      · rfl
      · split <;> rfl
    rw [← hstate]
    rcases recentLiveCandleRestFallback ⟨instId, okxEmaAtrMakerTrendBar, 3⟩ turn.state with
      ⟨_ | candles, s⟩
    · cases turn.response >>= checkCandles <;> rfl
    · rfl

/-- The bars fed to the signal, and the last timestamp after them. -/
def refreshTurn (instId : Text) (last : Option ℤ) (turn : LiveCandleTurn F) :
    List (MarketBar F) × Option ℤ :=
  match turn.answer instId with
  | .error _ => ([], last)
  | .ok bars => feedCandle last (confirmedBarsChronological (bars.map (·.toMarketBar)))

/-- The bars fed by refreshes one after another. -/
def refreshRun (instId : Text) (last : Option ℤ) : List (LiveCandleTurn F) → List (MarketBar F)
  | [] => []
  | turn :: rest =>
      (refreshTurn instId last turn).1 ++ refreshRun instId (refreshTurn instId last turn).2 rest

/-- A bar that a REST response known to the call has confirmed, with a timestamp that is returned
and newer than the last one fed, is fed. -/
def FeedsConfirmed (instId : Text) (last : Option ℤ) (turn : LiveCandleTurn F) : Prop :=
  ∀ reads bars, turn.reads instId = .ok reads → turn.answer instId = .ok bars →
    ∀ c ∈ reads.known, c.confirm = true → NewerThanLast last c.tsMs →
      (∃ b ∈ bars, b.tsMs = c.tsMs) →
        ∃ b ∈ (refreshTurn instId last turn).1, b.tsMs = c.tsMs

/-- No unconfirmed hint (or later row) has the timestamp of such a bar. -/
def HintsAgree (instId : Text) (last : Option ℤ) (turn : LiveCandleTurn F) : Prop :=
  ∀ reads, turn.reads instId = .ok reads →
    ∀ c ∈ reads.known, c.confirm = true → NewerThanLast last c.tsMs →
      newerThan (reads.rest ++ reads.hints) c.tsMs < 3 →
        ∀ b, lastBar (reads.rest ++ reads.hints) c.tsMs = some b → b.confirm = true

theorem feedsConfirmed_iff (instId : Text) (last : Option ℤ) (turn : LiveCandleTurn F) :
    FeedsConfirmed instId last turn ↔ HintsAgree instId last turn := by
  have hanswer := answer_eq instId turn
  have hturn : ∀ bars, turn.answer instId = .ok bars → (refreshTurn instId last turn) =
      feedCandle last (confirmedBarsChronological (bars.map (·.toMarketBar))) := by
    intro bars hbars
    rw [refreshTurn, hbars]
  constructor
  · intro h reads hreads c hc hconfirm hnewer hfew b hb
    rw [hreads] at hanswer
    have hts := tsMs_of_lastBar hb
    have hreturned : b ∈ mergeLiveCandleHints reads.rest reads.hints 3 :=
      mem_merge.2 ⟨by rw [hts]; exact hb, by rw [hts]; exact hfew⟩
    obtain ⟨f, hf, hfts⟩ := h reads _ hreads hanswer c hc hconfirm hnewer ⟨b, hreturned, hts⟩
    rw [hturn _ hanswer] at hf
    obtain ⟨hmem, -⟩ := (feedCandle_feeds (confirmedBars_sorted _) last).newer f hf
    obtain ⟨hmem, hfconfirm⟩ := mem_confirmedBars.1 hmem
    obtain ⟨g, hg, rfl⟩ := List.mem_map.1 hmem
    have hlast := (mem_merge.1 hg).1
    have hgts : g.tsMs = c.tsMs := hfts
    rw [hgts, hb] at hlast
    cases hlast
    exact hfconfirm
  · rintro h reads bars hreads hbars c hc hconfirm hnewer ⟨b, hb, hbts⟩
    rw [hreads, hbars] at hanswer
    cases hanswer
    obtain ⟨hlast, hfew⟩ := mem_merge.1 hb
    rw [hbts] at hlast hfew
    have hbconfirm := h reads hreads c hc hconfirm hnewer hfew b hlast
    have hmem : b.toMarketBar ∈ confirmedBarsChronological
        ((mergeLiveCandleHints reads.rest reads.hints 3).map (·.toMarketBar)) :=
      mem_confirmedBars.2 ⟨List.mem_map.2 ⟨b, hb, rfl⟩, hbconfirm⟩
    obtain ⟨f, hf, hfts⟩ := (feedCandle_feeds (confirmedBars_sorted _) last).complete _ hmem
      (by rw [hbts]; exact hnewer)
    rw [hturn _ hbars]
    exact ⟨f, hf, hfts.trans hbts⟩

theorem refreshRun_feeds (instId : Text) (turns : List (LiveCandleTurn F)) (last : Option ℤ) :
    (refreshRun instId last turns).Pairwise (fun a b => a.tsMs < b.tsMs) ∧
      ∀ b ∈ refreshRun instId last turns, b.confirm = true ∧ NewerThanLast last b.tsMs := by
  have hstep : ∀ (last : Option ℤ) (turn : LiveCandleTurn F),
      ((refreshTurn instId last turn).1.Pairwise fun a b => a.tsMs < b.tsMs) ∧
      (∀ b ∈ (refreshTurn instId last turn).1, b.confirm = true ∧ NewerThanLast last b.tsMs) ∧
      ∀ ts, NewerThanLast (refreshTurn instId last turn).2 ts →
        NewerThanLast last ts ∧ ∀ b ∈ (refreshTurn instId last turn).1, b.tsMs < ts := by
    intro last turn
    unfold refreshTurn
    split
    · exact ⟨.nil, by simp, fun ts h => ⟨h, by simp⟩⟩
    · rename_i bars _
      have h := feedCandle_feeds (confirmedBars_sorted (bars.map (·.toMarketBar))) last
      refine ⟨h.increasing, fun b hb => ?_, h.final_newer⟩
      obtain ⟨hmem, hnewer⟩ := h.newer b hb
      exact ⟨(mem_confirmedBars.1 hmem).2, hnewer⟩
  induction turns generalizing last with
  | nil => exact ⟨.nil, by simp [refreshRun]⟩
  | cons turn rest ih =>
      obtain ⟨hincreasing, hconfirmed, hfinal⟩ := hstep last turn
      obtain ⟨hrest, hlater⟩ := ih (refreshTurn instId last turn).2
      refine ⟨List.pairwise_append.2 ⟨hincreasing, hrest, ?_⟩, ?_⟩
      · intro a ha b hb
        exact (hfinal b.tsMs (hlater b hb).2).2 a ha
      · intro b hb
        rcases List.mem_append.1 hb with hb | hb
        · exact hconfirmed b hb
        · exact ⟨(hlater b hb).1, (hfinal b.tsMs (hlater b hb).2).1⟩

/-- Every refresh of the sequence meets `C`. -/
def AlongRefreshes (instId : Text) (C : Option ℤ → LiveCandleTurn F → Prop) (last : Option ℤ) :
    List (LiveCandleTurn F) → Prop
  | [] => True
  | turn :: rest => C last turn ∧ AlongRefreshes instId C (refreshTurn instId last turn).2 rest

theorem alongRefreshes_iff {instId : Text} {C D : Option ℤ → LiveCandleTurn F → Prop}
    (h : ∀ last turn, C last turn ↔ D last turn) (turns : List (LiveCandleTurn F))
    (last : Option ℤ) :
    AlongRefreshes instId C last turns ↔ AlongRefreshes instId D last turns := by
  induction turns generalizing last with
  | nil => exact Iff.rfl
  | cons turn rest ih => exact and_congr (h last turn) (ih _)

/-- What refreshes one after another feed to the signal. -/
structure RefreshesFeed (W : Type) (instId : Text) (last : Option ℤ)
    (turns : List (LiveCandleTurn F)) : Prop where
  loop : ∀ (bars : List (MarketBar F)) (s : Ctx F W) (state : ExchangeState),
    s.runner.exchange = some state → refreshBarsLoop (confirmedBarsChronological bars) s =
      (.ok (), { s with runner := s.runner.fed state (confirmedBarsChronological bars) })
  increasing : (refreshRun instId last turns).Pairwise fun a b => a.tsMs < b.tsMs
  confirmed : ∀ b ∈ refreshRun instId last turns, b.confirm = true ∧ NewerThanLast last b.tsMs
  complete : AlongRefreshes instId (FeedsConfirmed instId) last turns ↔
    AlongRefreshes instId (HintsAgree instId) last turns

/-- **The merge for all lists and limits, and every sequence of refreshes.** -/
theorem live_candles_merged (W : Type) (rest hints : List (OkxCandleBar F)) (limit : ℕ)
    (instId : Text) (last : Option ℤ) (turns : List (LiveCandleTurn F)) :
    MergesNewest rest hints limit ∧
      (KeepsConfirmed (rest ++ hints) (mergeLiveCandleHints rest hints limit) ↔
        ConfirmedLast (rest ++ hints) limit) ∧
      RefreshesFeed W instId last turns := by
  obtain ⟨hincreasing, hconfirmed⟩ := refreshRun_feeds instId turns last
  refine ⟨mergesNewest rest hints limit, keepsConfirmed_iff, ?_, hincreasing, hconfirmed, ?_⟩
  · exact fun bars s state h => refreshBarsLoop_eq _ s state h
  · exact alongRefreshes_iff (feedsConfirmed_iff instId) turns last

end Turns

/-! ## A bar that is withheld -/

def minuteBar (confirm : Bool) : OkxCandleBar ℚ :=
  { tsMs := 60000, openPrice := 9, high := 9, low := 9, close := 9, confirm }

def staleHint : OkxMarketCandleHint ℚ :=
  ⟨"BTC-USDT".toList, okxPublicCandle1mChannel, minuteBar false, some 60000, 5⟩

/-- A second after the hint was received. -/
def hintedState : LiveCandleState ℚ where
  now := 1005
  marketDataMaxStaleness := 3000
  candles := AList.insert ("BTC-USDT".toList, okxPublicCandle1mChannel)
    (SortedMap.empty.insert 60000 staleHint) ∅
  recentLiveCandleRestFallbacks := ∅

/-- The endpoint answers the same bar, confirmed. -/
def withholdingTurn : LiveCandleTurn ℚ :=
  ⟨hintedState, ⟨fun fallbacks => fallbacks.entries, fun _ => .refl _⟩, .ok [minuteBar true],
    hintedState⟩

/-- **The response confirms the bar, the older hint does not, and nothing is fed.** -/
theorem confirmed_bar_withheld :
    ¬ KeepsConfirmed ([minuteBar true] ++ [minuteBar false])
        (mergeLiveCandleHints [minuteBar true] [minuteBar false] 3) ∧
      ¬ FeedsConfirmed "BTC-USDT".toList none withholdingTurn ∧
      refreshTurn "BTC-USDT".toList none withholdingTurn = ([], none) := by
  refine ⟨fun h => ?_, fun h => ?_, by decide +kernel⟩
  · have hlast := keepsConfirmed_iff.1 h (minuteBar true) (by simp) rfl (by decide +kernel) _ rfl
    cases hlast
  · have hlast := (feedsConfirmed_iff _ _ _).1 h _ rfl (minuteBar true) (by simp) rfl
      (by rintro t ⟨⟩) (by decide +kernel) _ rfl
    cases hlast

end OkxTrading
