import Kmip.Client.LocateRules

/-!
# When the Locate search is complete

Fix the finite set `S` of the matching ids. A page that lists ids of `S` and whose usable total, if it has one, is the
size of `S` keeps the invariant `Searching` of the paging loop (`Searching.after`). From there:

* **Soundness of the flag** (`locateAll_confirmedComplete`): a search that confirms the list has all of `S`, and the
  fallback returns fewer than `maxIds` ids only when it confirms them.
* **Completeness** (`locateAll_complete_iff`): against a server that reports the size of `S` with every page, a search
  that returns has `maxIds` ids or all of `S`, except when the first page is empty: that exit of the loop does not look
  at the total that came with the page.
-/

namespace Kmip.Client

open Hoare

variable {Id : Type} [DecidableEq Id]

/-! ## Pages about a set -/

/-- What the answer to a request says about `S`: it lists ids of `S`, a usable total is the size of `S`, and a short
page at offset 0 without a usable total holds all of `S`. -/
structure Page (S : Finset Id) (offset pageSize : Nat) (got : List Id) (located : Option Nat) : Prop where
  subset : ∀ id ∈ got, id ∈ S
  total_eq : ∀ total, locatedTotal located got.length = some total → total = S.card
  short : offset = 0 → got.length < pageSize → locatedTotal located got.length = none → ∀ id ∈ S, id ∈ got

/-- The invariant of the paging loop. -/
structure Searching (S : Finset Id) (maxIds : Nat) (paging : Paging Id) : Prop where
  collected : Collected S maxIds paging.outcome
  total_eq : ∀ total, paging.knownTotal = some total → total = S.card
  unconfirmed : paging.outcome.confirmedComplete = false

section Steps

variable {S : Finset Id} {maxIds pageSize : Nat} {paging : Paging Id} {got : List Id} {located knownTotal : Option Nat}
  {outcome : LocateOutcome Id}

theorem Searching.start : Searching S maxIds {} := by
  refine ⟨Collected.empty, ?_, rfl⟩
  intro total h
  cases h

/-- A page keeps the invariant. -/
theorem Searching.after {offset : Nat} (h : Searching S maxIds paging) (hp : Page S offset pageSize got located) :
    Searching S maxIds (paging.after maxIds got located) := by
  refine ⟨h.collected.merge hp.subset, ?_, ?_⟩
  · intro total htotal
    exact total_or_eq h.total_eq hp.total_eq htotal
  · exact (mergeNewIds_confirmedComplete h.collected).trans h.unconfirmed

/-- When paging goes on or stalls, the invariant holds; when it is finished, a confirmed list is complete. -/
theorem pagingStep_searching (h : Searching S maxIds paging) (hp : Page S paging.offset pageSize got located) :
    match pagingStep maxIds pageSize paging got located with
    | .done paging' exit => Collected S maxIds paging'.outcome ∧ (exit ≠ .finished → Searching S maxIds paging') ∧
        (paging'.outcome.confirmedComplete → paging'.outcome.ids.toFinset = S)
    | .next paging' => Searching S maxIds paging' := by
  have hafter := h.after hp
  have hno : ∀ {paging' : Paging Id}, Searching S maxIds paging' → paging'.outcome.confirmedComplete →
      paging'.outcome.ids.toFinset = S := by
    intro paging' hs hc
    rw [hs.unconfirmed] at hc
    cases hc
  have hmove := pagingStep_move maxIds pageSize got located paging
  generalize pagingStep maxIds pageSize paging got located = step at hmove ⊢
  cases hmove with
  | ended | missing => exact ⟨h.collected, fun _ => h, hno h⟩
  | reached _ total ht hle =>
    refine ⟨hafter.collected.confirm true, fun hne => absurd rfl hne, fun _ => ?_⟩
    rw [hafter.total_eq total ht] at hle
    exact hafter.collected.complete_of_card_le hle
  | full | repeats | overrun => exact ⟨hafter.collected, fun _ => hafter, hno hafter⟩
  | short _ hroom _ hshort hnone =>
    -- a short page confirms the list only when it is the first one
    refine ⟨hafter.collected.confirm _, fun hne => absurd rfl hne, fun hfirst => ?_⟩
    have hzero : paging.offset = 0 := of_decide_eq_true hfirst
    have hunusable : locatedTotal located got.length = none := (Option.or_eq_none_iff.1 hnone).1
    exact h.collected.complete_of_page hp.subset hroom (hp.short hzero hshort hunusable)
  | next => exact hafter

/-- How the fallback returns: with `maxIds` ids, or with a confirmed list, which is complete. -/
def Settled (S : Finset Id) (maxIds : Nat) (outcome : LocateOutcome Id) : Prop :=
  outcome.ids.Nodup ∧ ((outcome.ids.length = maxIds ∧ outcome.confirmedComplete = false) ∨
    (outcome.confirmedComplete = true ∧ outcome.ids.toFinset = S))

/-- A page of the fallback settles the search, fails it or keeps the invariant. -/
theorem fallbackStep_settled (h : Collected S maxIds outcome) (hc : outcome.confirmedComplete = false)
    (hk : ∀ total, knownTotal = some total → total = S.card) (hp : Page S 0 pageSize got located) :
    match fallbackStep maxIds pageSize knownTotal outcome got located with
    | .done outcome' => Settled S maxIds outcome'
    | .fail _ => True
    | .retry outcome' => Collected S maxIds outcome' ∧ outcome'.confirmedComplete = false := by
  have hafter := h.merge hp.subset
  have hflag : (mergeNewIds outcome got maxIds).1.confirmedComplete = false :=
    (mergeNewIds_confirmedComplete h).trans hc
  have hmove := fallbackStep_move maxIds pageSize got located knownTotal outcome
  generalize fallbackStep maxIds pageSize knownTotal outcome got located = step at hmove ⊢
  cases hmove with
  | full hfull => exact ⟨hafter.nodup, .inl ⟨le_antisymm hafter.length_le hfull, hflag⟩⟩
  | reached _ total ht hle =>
    rw [total_or_eq hk hp.total_eq ht] at hle
    exact ⟨hafter.nodup, .inr ⟨rfl, hafter.complete_of_card_le hle⟩⟩
  | short hroom hshort hnone =>
    have hunusable : locatedTotal located got.length = none := (Option.or_eq_none_iff.1 hnone).1
    exact ⟨hafter.nodup, .inr ⟨rfl, h.complete_of_page hp.subset hroom (hp.short rfl hshort hunusable)⟩⟩
  | omits | fewer | repeats => trivial
  | retry => exact ⟨hafter, hflag⟩

end Steps

/-! ## Runs -/

section Runs

variable {server : LocateServer Id} {S : Finset Id} {maxIds : Nat} (filter : LocateFilter)

/-- The answers of a server are pages about `S`. -/
def Lists (server : LocateServer Id) (S : Finset Id) : Prop :=
  ∀ history query payload, server history query = .ok payload →
    Page S query.offset query.pageSize payload.uniqueIdentifiers payload.located

omit [DecidableEq Id] in
/-- A request for a page about `S`. A request for no ids is not sent. -/
theorem Lists.locatePage (hserver : Lists server S) {offset pageSize maxResponseSize : Nat} :
    Triple (fun _ => True) (locatePage server filter offset pageSize maxResponseSize)
      (fun page _ => Page S offset pageSize page.1 page.2) (fun _ _ => True) := by
  refine (locatePage_answer server filter ?_ ?_).conseq (fun _ h => h) (fun _ _ h => h) (fun _ _ _ => trivial)
  · rintro rfl
    refine ⟨fun _ h => absurd h List.not_mem_nil, ?_, ?_⟩
    · intro total h
      cases h
    · intro _ h
      exact absurd h (Nat.lt_irrefl 0)
  · intro history payload h
    exact hserver history _ payload h

/-- The fallback, from any state of the search. -/
theorem Lists.fallbackPhase (hserver : Lists server S) {paging : Paging Id} (h : Searching S maxIds paging) :
    Triple (fun _ => True) (fallbackPhase server filter maxIds paging) (fun outcome _ => Settled S maxIds outcome)
      (fun _ _ => True) := by
  refine (fallbackLoop_triple server filter maxIds
    (I := fun _ _ outcome _ => Collected S maxIds outcome ∧ outcome.confirmedComplete = false)
    (fun _ _ _ _ => trivial) ?_ _ _ _).conseq (fun _ _ => ⟨h.collected, h.unconfirmed⟩) (fun _ _ h => h)
    (fun _ _ h => h)
  intro fuel pageSize outcome
  refine triple_of_pre (fun _ h => h) fun hinv => ?_
  refine (hserver.locatePage filter).conseq (fun _ _ => trivial) ?_ (fun _ _ h => h)
  rintro ⟨got, located⟩ _ hp
  exact fallbackStep_settled hinv.1 hinv.2 h.total_eq hp

/-- The first phase: it stalls with the invariant, and what it confirms is complete. -/
theorem Lists.pagingPhase (hserver : Lists server S) (maxIds : Nat) :
    Triple (fun _ => True) (pagingPhase server filter maxIds)
      (fun r _ => (r.2 → Searching S maxIds r.1) ∧ (r.1.outcome.confirmedComplete → r.1.outcome.ids.toFinset = S))
      (fun _ _ => True) := by
  have hloop := pagingLoop_triple server filter maxIds (I := fun _ paging _ => Searching S maxIds paging)
    (Q := fun r _ => (r.2 ≠ .finished → Searching S maxIds r.1) ∧
      (r.1.outcome.confirmedComplete → r.1.outcome.ids.toFinset = S)) (E := fun _ _ => True) ?_ ?_
  · refine pagingPhase_triple server filter maxIds
      ((hloop _ {}).conseq (fun _ _ => Searching.start) ?_ (fun _ _ h => h))
    rintro ⟨paging, exit⟩ _ ⟨hsearching, hconfirmed⟩
    cases exit with
    | finished => exact ⟨nofun, hconfirmed⟩
    | stalled => exact ⟨fun _ => hsearching nofun, hconfirmed⟩
    | exhausted => exact ⟨fun _ => hsearching nofun, hconfirmed⟩
  · intro _ paging _ _ h
    refine ⟨fun _ => h, fun hc => ?_⟩
    rw [h.unconfirmed] at hc
    cases hc
  · intro _ paging _
    refine triple_of_pre (fun _ h => h) fun h => ?_
    refine (hserver.locatePage filter).conseq (fun _ _ => trivial) ?_ (fun _ _ h => h)
    rintro ⟨got, located⟩ _ hp
    have hstep := pagingStep_searching h hp
    revert hstep
    cases pagingStep maxIds (pagingPageSize maxIds paging) paging got located with
    | done paging' exit => exact fun hstep => hstep.2
    | next paging' => exact fun hstep => hstep

end Runs

/-! ## Soundness of the flag -/

/-- The answers of a server for the set `S`: they list ids of `S`; Located Items is left out, counts `S`, or is at most
the number of ids of the answer; and a page at offset 0 with fewer ids than asked for has all of `S`. -/
structure Genuine (S : Finset Id) (query : LocateQuery) (payload : LocateResponsePayload Id) : Prop where
  subset : ∀ id ∈ payload.uniqueIdentifiers, id ∈ S
  locatedItems : ∀ n, payload.locatedItems = some n →
    n.toInt = S.card ∨ n.toInt ≤ payload.uniqueIdentifiers.length
  short : query.offset = 0 → payload.uniqueIdentifiers.length < query.pageSize →
    ∀ id ∈ S, id ∈ payload.uniqueIdentifiers

omit [DecidableEq Id] in
theorem Genuine.page {S : Finset Id} {query : LocateQuery} {payload : LocateResponsePayload Id}
    (h : Genuine S query payload) :
    Page S query.offset query.pageSize payload.uniqueIdentifiers payload.located := by
  refine ⟨h.subset, ?_, fun hzero hshort _ => h.short hzero hshort⟩
  intro total htotal
  obtain ⟨hlocated, hlt⟩ := locatedTotal_eq_some.1 htotal
  obtain ⟨n, hitems, hn⟩ := located_eq_some hlocated
  rcases h.locatedItems n hitems with hcard | hle
  · omega
  · omega

/-- **Soundness of `confirmed_complete`.** A search that confirms its list has all of `S`, and when paging has stalled
and the fallback returns fewer than `maxIds` ids, it confirms them. -/
theorem locateAll_confirmedComplete (server : LocateServer Id) (filter : LocateFilter) (S : Finset Id) (maxIds : Nat)
    (hmax : 0 < maxIds)
    (hserver : ∀ history query payload, server history query = .ok payload → Genuine S query payload) :
    (∀ history outcome history', locateAll server filter maxIds history = .ok outcome history' →
      outcome.confirmedComplete = true → outcome.ids.toFinset = S) ∧
    (∀ history paging history' outcome history'',
      pagingPhase server filter maxIds history = .ok (paging, true) history' →
      fallbackPhase server filter maxIds paging history' = .ok outcome history'' → outcome.ids.length < maxIds →
        outcome.confirmedComplete = true ∧ outcome.ids.toFinset = S) := by
  have hlists : Lists server S := fun history query payload h => (hserver history query payload h).page
  have hpaging := hlists.pagingPhase filter maxIds
  constructor
  · intro history outcome history' hreturns
    have hsearch := locateAll_triple server filter maxIds hmax (J := fun paging _ => Searching S maxIds paging)
      (Q := fun outcome _ => outcome.confirmedComplete = true → outcome.ids.toFinset = S)
      (hpaging.conseq (fun _ h => h) ?_ (fun _ _ h => h)) ?_
    · exact hsearch.ok trivial hreturns
    · rintro ⟨paging, stalled⟩ _ ⟨hsearching, hconfirmed⟩
      cases stalled with
      | false => exact hconfirmed
      | true => exact hsearching rfl
    · intro paging
      refine triple_of_pre (fun _ h => h) fun hsearching => ?_
      refine (hlists.fallbackPhase filter hsearching).conseq (fun _ _ => trivial) ?_ (fun _ _ h => h)
      rintro outcome _ ⟨-, ⟨-, hflag⟩ | ⟨-, hcomplete⟩⟩ hconfirmed
      · rw [hflag] at hconfirmed
        cases hconfirmed
      · exact hcomplete
  · intro history paging history' outcome history'' hstalled hreturns hlt
    have hsearching : Searching S maxIds paging := (hpaging.ok trivial hstalled).1 rfl
    rcases ((hlists.fallbackPhase filter hsearching).ok trivial hreturns).2 with ⟨hfull, -⟩ | hsettled
    · exact absurd hfull (Nat.ne_of_lt hlt)
    · exact hsettled

/-- A server that lists one object twice on every page. -/
def repeatingServer : LocateServer Nat := fun _ _ => .ok ⟨[1, 1], none⟩

/-- The search for all objects of a type, without a filter. -/
def anyFilter : LocateFilter := ⟨true, Bytes.empty, 2⟩

/-- Paging stalls at the repeated id, and the fallback confirms the list. -/
theorem locateAll_confirmedComplete_repeating :
    (∃ outcome history, locateAll repeatingServer anyFilter 10 [] = .ok outcome history ∧
      outcome.confirmedComplete = true ∧ outcome.ids.toFinset = {1}) ∧
    ∃ paging history outcome history', pagingPhase repeatingServer anyFilter 10 [] = .ok (paging, true) history ∧
      fallbackPhase repeatingServer anyFilter 10 paging history = .ok outcome history' ∧ outcome.ids.length < 10 ∧
        outcome.confirmedComplete = true := by
  have hserver : ∀ history query payload, repeatingServer history query = .ok payload → Genuine {1} query payload := by
    intro history query payload h
    cases h
    exact ⟨by simp, fun n hn => by simp at hn, by simp⟩
  have h := locateAll_confirmedComplete repeatingServer anyFilter {1} 10 (by decide) hserver
  exact ⟨⟨_, _, rfl, rfl, h.1 [] _ _ rfl rfl⟩, _, _, _, _, rfl, rfl, by decide, (h.2 [] _ _ _ _ rfl rfl (by decide)).1⟩

/-! ## Completeness -/

/-- The answers of a server that reports the true total: distinct ids of `S`, with the size of `S` as Located Items. -/
structure ReportsTotal (S : Finset Id) (payload : LocateResponsePayload Id) : Prop where
  nodup : payload.uniqueIdentifiers.Nodup
  subset : ∀ id ∈ payload.uniqueIdentifiers, id ∈ S
  locatedItems : ∃ n, payload.locatedItems = some n ∧ n.toInt = S.card

section Total

variable {S : Finset Id} {maxIds pageSize : Nat} {paging : Paging Id} {got : List Id} {located : Option Nat}

/-- A page comes with a usable total, or it holds all of `S`. -/
theorem ReportsTotal.total_or_all {payload : LocateResponsePayload Id} (h : ReportsTotal S payload) :
    locatedTotal payload.located payload.uniqueIdentifiers.length = some S.card ∨
      ∀ id ∈ S, id ∈ payload.uniqueIdentifiers := by
  obtain ⟨n, hitems, hn⟩ := h.locatedItems
  have hlocated := located_of_toInt hitems hn
  by_cases hlt : payload.uniqueIdentifiers.length < S.card
  · exact .inl (locatedTotal_eq_some.2 ⟨hlocated, hlt⟩)
  · refine .inr fun id hid => ?_
    have hall : payload.uniqueIdentifiers.toFinset = S := by
      refine Finset.eq_of_subset_of_card_le (fun id hid => h.subset id (List.mem_toFinset.1 hid)) ?_
      rw [List.toFinset_card_of_nodup h.nodup]
      exact Nat.le_of_not_lt hlt
    rw [← hall] at hid
    exact List.mem_toFinset.1 hid

theorem ReportsTotal.page {payload : LocateResponsePayload Id} (h : ReportsTotal S payload) (offset pageSize : Nat) :
    Page S offset pageSize payload.uniqueIdentifiers payload.located := by
  refine ⟨h.subset, ?_, ?_⟩
  · intro total htotal
    obtain ⟨n, hitems, hn⟩ := h.locatedItems
    have hlocated := located_of_toInt hitems hn
    have hsome := (locatedTotal_eq_some.1 htotal).1
    rw [hlocated] at hsome
    exact (Option.some.inj hsome).symm
  · intro _ _ hnone
    rcases h.total_or_all with htotal | hall
    · rw [hnone] at htotal
      cases htotal
    · exact hall

/-- The search knows how many ids there are, or has them all. -/
def Informed (S : Finset Id) (paging : Paging Id) : Prop :=
  paging.knownTotal = some S.card ∨ paging.outcome.ids.toFinset = S

/-- After a page that leaves room the search is informed, if the page has a usable total or all of `S`. -/
theorem Searching.informed_after {offset : Nat} (h : Searching S maxIds paging)
    (hp : Page S offset pageSize got located)
    (htotal : locatedTotal located got.length = some S.card ∨ ∀ id ∈ S, id ∈ got)
    (hroom : (paging.after maxIds got located).outcome.ids.length < maxIds) :
    Informed S (paging.after maxIds got located) := by
  rcases htotal with htotal | hall
  · refine .inl ?_
    show (locatedTotal located got.length).or paging.knownTotal = some S.card
    rw [htotal]
    rfl
  · exact .inr (h.collected.complete_of_page hp.subset hroom hall)

/-- When paging is finished, the list is full or complete, provided that an empty page meets an informed search. -/
theorem pagingStep_complete (h : Searching S maxIds paging) (hp : Page S paging.offset pageSize got located)
    (htotal : locatedTotal located got.length = some S.card ∨ ∀ id ∈ S, id ∈ got)
    (hempty : got = [] → Informed S paging ∨ S = ∅) :
    match pagingStep maxIds pageSize paging got located with
    | .done paging' exit =>
      exit = .finished → paging'.outcome.ids.length = maxIds ∨ paging'.outcome.ids.toFinset = S
    | .next paging' => Informed S paging' := by
  have hafter := h.after hp
  have hmove := pagingStep_move maxIds pageSize got located paging
  generalize pagingStep maxIds pageSize paging got located = step at hmove ⊢
  cases hmove with
  | ended hgot hreached =>
    refine fun _ => .inr ?_
    rcases hempty hgot with (hknown | hcomplete) | rfl
    · exact h.collected.complete_of_card_le (hreached _ hknown)
    · exact hcomplete
    · exact Finset.subset_empty.1 h.collected.toFinset_subset
  | missing | repeats | overrun => nofun
  | reached _ total ht hle =>
    rw [hafter.total_eq total ht] at hle
    exact fun _ => .inr (hafter.collected.complete_of_card_le hle)
  | full _ hfull => exact fun _ => .inl (le_antisymm hafter.collected.length_le hfull)
  | short _ hroom _ _ hnone =>
    rcases h.informed_after hp htotal hroom with hknown | hcomplete
    · rw [hnone] at hknown
      cases hknown
    · exact fun _ => .inr hcomplete
  | next _ hroom => exact h.informed_after hp htotal hroom

end Total

/-- The first request of a search. -/
def firstQuery (filter : LocateFilter) (maxIds : Nat) : LocateQuery :=
  ⟨filter, 0, min maxIds maxItemsInBatch, defaultMaxResponseSize⟩

section Runs

variable {server : LocateServer Id} {S : Finset Id} {maxIds : Nat} (filter : LocateFilter)
  (hserver : ∀ history query payload, server history query = .ok payload → ReportsTotal S payload)

include hserver

/-- Paging that starts with `history`, when the first page is not empty or `S` is: it stalls with the invariant, or ends
with a list that is full or complete. -/
theorem pagingPhase_complete (history : List (LocateExchange Id))
    (hfirst : ¬(S.Nonempty ∧ ∃ payload, server history (firstQuery filter maxIds) = .ok payload ∧
      payload.uniqueIdentifiers = [])) :
    Triple (fun h => h = history) (pagingPhase server filter maxIds)
      (fun r _ =>
        if r.2 then Searching S maxIds r.1
        else r.1.outcome.ids.Nodup ∧ (r.1.outcome.ids.length = maxIds ∨ r.1.outcome.ids.toFinset = S))
      (fun _ _ => True) := by
  -- the search is informed, or it has not asked for anything yet
  have hloop := pagingLoop_triple server filter maxIds
    (I := fun _ paging h => Searching S maxIds paging ∧
      (Informed S paging ∨ (paging.offset = 0 ∧ paging.outcome.ids = [] ∧ h = history)))
    (Q := fun r _ => Collected S maxIds r.1.outcome ∧ (r.2 ≠ .finished → Searching S maxIds r.1) ∧
      (r.2 = .finished → r.1.outcome.ids.length = maxIds ∨ r.1.outcome.ids.toFinset = S))
    (E := fun _ _ => True) ?_ ?_
  · refine pagingPhase_triple server filter maxIds ((hloop _ {}).conseq ?_ ?_ (fun _ _ h => h))
    · rintro h rfl
      exact ⟨Searching.start, .inr ⟨rfl, rfl, rfl⟩⟩
    · rintro ⟨paging, exit⟩ _ ⟨hcollected, hsearching, hfinished⟩
      cases exit with
      | finished => exact ⟨hcollected.nodup, hfinished rfl⟩
      | stalled => exact hsearching nofun
      | exhausted =>
        by_cases hroom : paging.outcome.ids.length < maxIds
        · simp only [hroom, decide_true, if_true]
          exact hsearching nofun
        · simp only [hroom, decide_false]
          exact ⟨hcollected.nodup, .inl (le_antisymm hcollected.length_le (Nat.le_of_not_lt hroom))⟩
  · intro _ paging _ _ h
    exact ⟨h.1.collected, fun _ => h.1, nofun⟩
  · intro _ paging hroom
    refine locatePage_triple server filter ?_ ?_ (fun _ _ _ => trivial) (fun _ _ _ _ => trivial)
    · exact fun hzero => absurd hzero (pagingPageSize_pos hroom).ne'
    · rintro h payload ⟨hsearching, hstate⟩ hanswer
      have hreports := hserver _ _ _ hanswer
      have hempty : payload.uniqueIdentifiers = [] → Informed S paging ∨ S = ∅ := by
        intro hnil
        rcases hstate with hinformed | ⟨hoffset, hids, rfl⟩
        · exact .inl hinformed
        · refine .inr (Finset.not_nonempty_iff_eq_empty.1 fun hne => hfirst ⟨hne, payload, ?_, hnil⟩)
          rw [hoffset, pagingPageSize_eq hroom, hids] at hanswer
          exact hanswer
      have hkeeps := pagingStep_searching hsearching (hreports.page paging.offset (pagingPageSize maxIds paging))
      have hcomplete := pagingStep_complete hsearching (hreports.page _ (pagingPageSize maxIds paging))
        hreports.total_or_all hempty
      revert hkeeps hcomplete
      dsimp only
      cases pagingStep maxIds (pagingPageSize maxIds paging) paging payload.uniqueIdentifiers payload.located with
      | done paging' exit => exact fun hkeeps hcomplete => ⟨hkeeps.1, hkeeps.2.1, hcomplete⟩
      | next paging' => exact fun hkeeps hcomplete => ⟨hkeeps, .inl hcomplete⟩

omit hserver in
/-- An empty first page ends the search with an empty list, whatever total came with it. -/
theorem locateAll_of_empty_page (hmax : 0 < maxIds) {history : List (LocateExchange Id)}
    {payload : LocateResponsePayload Id} (hanswer : server history (firstQuery filter maxIds) = .ok payload)
    (hnil : payload.uniqueIdentifiers = []) :
    locateAll server filter maxIds history =
      .ok {} (history ++ [⟨firstQuery filter maxIds, .ok payload⟩]) := by
  have hpage : locatePage server filter 0 (min maxIds maxItemsInBatch) defaultMaxResponseSize history =
      .ok ([], payload.located) (history ++ [⟨firstQuery filter maxIds, .ok payload⟩]) := by
    have hpos : 0 < min maxIds maxItemsInBatch := by
      unfold maxItemsInBatch
      omega
    have hle : min maxIds maxItemsInBatch ≤ int32Max := by
      unfold maxItemsInBatch int32Max
      omega
    rw [← hnil]
    exact locatePage_ok server filter hpos (by decide) hle (by decide) hanswer
  have hloop : pagingLoop server filter maxIds maxBatchesInSearch {} history =
      .ok ({}, .finished) (history ++ [⟨firstQuery filter maxIds, .ok payload⟩]) := by
    rw [show maxBatchesInSearch = 255 + 1 from rfl]
    unfold pagingLoop Pages.pagingLoop
    rw [if_pos (by exact hmax), pagingPageSize_eq (by exact hmax)]
    exact bind_ok hpage
  have hphase : pagingPhase server filter maxIds history =
      .ok ({}, false) (history ++ [⟨firstQuery filter maxIds, .ok payload⟩]) := bind_ok hloop
  unfold locateAll Pages.locateAll
  rw [if_neg (Nat.pos_iff_ne_zero.1 hmax)]
  exact bind_ok hphase

end Runs

/-- **Completeness.** Against a server that reports the true total with every page, a search that returns has `maxIds`
ids or exactly those of `S`, if and only if the server does not answer the first request with an empty page although `S`
has elements. -/
theorem locateAll_complete_iff (server : LocateServer Id) (filter : LocateFilter) (S : Finset Id) (maxIds : Nat)
    (hmax : 0 < maxIds)
    (hserver : ∀ history query payload, server history query = .ok payload → ReportsTotal S payload)
    (history : List (LocateExchange Id)) :
    (∀ outcome history', locateAll server filter maxIds history = .ok outcome history' →
      outcome.ids.length = maxIds ∨ (outcome.ids.Nodup ∧ outcome.ids.toFinset = S)) ↔
    ¬(S.Nonempty ∧ ∃ payload, server history (firstQuery filter maxIds) = .ok payload ∧
      payload.uniqueIdentifiers = []) := by
  constructor
  · rintro hcomplete ⟨hne, payload, hanswer, hnil⟩
    rcases hcomplete _ _ (locateAll_of_empty_page filter hmax hanswer hnil) with hfull | ⟨-, hall⟩
    · exact absurd hfull (Nat.ne_of_lt hmax)
    · exact hne.ne_empty hall.symm
  · intro hfirst outcome history' hreturns
    have hlists : Lists server S := fun h query payload hanswer => (hserver h query payload hanswer).page _ _
    have hsearch := locateAll_triple server filter maxIds hmax (J := fun paging _ => Searching S maxIds paging)
      (Q := fun outcome _ => outcome.ids.Nodup ∧ (outcome.ids.length = maxIds ∨ outcome.ids.toFinset = S))
      (pagingPhase_complete filter hserver history hfirst) ?_
    · obtain ⟨hnodup, hfull | hall⟩ := hsearch.ok rfl hreturns
      · exact .inl hfull
      · exact .inr ⟨hnodup, hall⟩
    · intro paging
      refine triple_of_pre (fun _ h => h) fun hsearching => ?_
      refine (hlists.fallbackPhase filter hsearching).conseq (fun _ _ => trivial) ?_ (fun _ _ h => h)
      rintro outcome _ ⟨hnodup, ⟨hfull, -⟩ | ⟨-, hall⟩⟩
      · exact ⟨hnodup, .inl hfull⟩
      · exact ⟨hnodup, .inr hall⟩

/-- A server with one object that answers every request with its count and an empty page. -/
def countingServer : LocateServer Nat := fun _ _ => .ok ⟨[], some 1⟩

/-- The server reports one object with every page; the search returns an empty list. -/
theorem locateAll_returns_partial_list :
    (∀ history query payload, countingServer history query = .ok payload → ReportsTotal {1} payload) ∧
      ∃ outcome history, locateAll countingServer anyFilter 10 [] = .ok outcome history ∧
        ¬(outcome.ids.length = 10 ∨ (outcome.ids.Nodup ∧ outcome.ids.toFinset = {1})) := by
  refine ⟨?_, _, _, rfl, by decide⟩
  intro history query payload h
  cases h
  exact ⟨by simp, by simp, 1, rfl, by decide⟩

/-- A server with one object that answers every request with it and with the count. -/
def singletonServer : LocateServer Nat := fun _ _ => .ok ⟨[1], some 1⟩

theorem locateAll_complete_singleton :
    ∃ outcome history, locateAll singletonServer anyFilter 10 [] = .ok outcome history ∧
      (outcome.ids.length = 10 ∨ (outcome.ids.Nodup ∧ outcome.ids.toFinset = {1})) := by
  have hserver : ∀ history query payload, singletonServer history query = .ok payload → ReportsTotal {1} payload := by
    intro history query payload h
    cases h
    exact ⟨by simp, by simp, 1, rfl, by decide⟩
  refine ⟨_, _, rfl, (locateAll_complete_iff singletonServer anyFilter {1} 10 (by decide) hserver []).2 ?_ _ _ rfl⟩
  rintro ⟨-, payload, hanswer, hnil⟩
  cases hanswer
  cases hnil

end Kmip.Client
