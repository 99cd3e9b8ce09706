import Kmip.Client.LocateRules

/-!
# What the Locate search collects

`Visits` says where a search can be: before the next page of one of its loops, with what it has collected so far. At
each of these places the list is the list of the ids in the pages of this search, in the order in which they were first
seen and cut at `maxIds`, and `seen` is its set (`Visits.gathered`). The runs of `locateAll` and `opAll` end at such
places, so this holds of what they return, for any server (`locate_firstSeen`).
-/

namespace Kmip.Client

open Hoare

variable {Id : Type} [DecidableEq Id]

/-! ## Places of a search -/

/-- Where a search can be. -/
inductive Place (Id : Type) where
  /-- Before a page of the first phase. -/
  | paging (paging : Paging Id)
  /-- After the first phase. -/
  | paged (paging : Paging Id)
  /-- Before a page of the fallback. -/
  | fallback (knownTotal : Option Nat) (pageSize : Nat) (outcome : LocateOutcome Id)
  /-- Before a page of a pass of `probe_all`. -/
  | probing (probePageSize : Nat) (probing : Probing Id)
  /-- After the fallback, after a pass, or after the first phase when it does not stall. -/
  | found (outcome : LocateOutcome Id)

namespace Place

/-- What is collected at a place. -/
def outcome : Place Id → LocateOutcome Id
  | .paging p | .paged p => p.outcome
  | .fallback _ _ o | .found o => o
  | .probing _ p => p.outcome

/-- The request that is sent at a place. -/
def query (filter : LocateFilter) (maxIds : Nat) : Place Id → Option LocateQuery
  | .paging p => some ⟨filter, p.offset, pagingPageSize maxIds p, defaultMaxResponseSize⟩
  | .fallback _ pageSize _ => some ⟨filter, 0, pageSize, locateResponseSizeLimit pageSize⟩
  | .probing probePageSize p => some ⟨filter, p.offset, probePageSize, defaultMaxResponseSize⟩
  | .paged _ | .found _ => none

/-- The place after the page that was asked for, unless the search throws. -/
def after (maxIds : Nat) (got : List Id) (located : Option Nat) : Place Id → Option (Place Id)
  | .paging p =>
    match pagingStep maxIds (pagingPageSize maxIds p) p got located with
    | .done p' _ => some (.paged p')
    | .next p' => some (.paging p')
  | .fallback knownTotal pageSize o =>
    match fallbackStep maxIds pageSize knownTotal o got located with
    | .done o' => some (.found o')
    | .fail _ => none
    | .retry o' => some (.fallback knownTotal (nextPageSize maxIds pageSize) o')
  | .probing probePageSize p =>
    match probeStep maxIds probePageSize p got located with
    | .done o => some (.found o)
    | .next p' => some (.probing probePageSize p')
  | .paged _ | .found _ => none

end Place

/-- A search that starts with the history `start` can be at this place with this history. -/
inductive Visits (server : LocateServer Id) (filter : LocateFilter) (maxIds : Nat) (start : List (LocateExchange Id)) :
    Place Id → List (LocateExchange Id) → Prop where
  | start : Visits server filter maxIds start (.paging {}) start
  /-- A page is asked for and comes. -/
  | page {place place' : Place Id} {query : LocateQuery} {got : List Id} {located : Option Nat}
      {history history' : List (LocateExchange Id)} (hplace : Visits server filter maxIds start place history)
      (hquery : place.query filter maxIds = some query)
      (hpage : locatePage server query.filter query.offset query.pageSize query.maxResponseSize history =
        .ok (got, located) history')
      (hafter : place.after maxIds got located = some place') : Visits server filter maxIds start place' history'
  /-- The batches of the first phase are used up, or the list is full. -/
  | exhausted {paging : Paging Id} {history : List (LocateExchange Id)}
      (hplace : Visits server filter maxIds start (.paging paging) history) :
      Visits server filter maxIds start (.paged paging) history
  | stalled {paging : Paging Id} {history : List (LocateExchange Id)}
      (hplace : Visits server filter maxIds start (.paged paging) history) :
      Visits server filter maxIds start
        (.fallback paging.knownTotal (fallbackPageSize maxIds paging.outcome.ids.length) paging.outcome) history
  | finished {paging : Paging Id} {history : List (LocateExchange Id)}
      (hplace : Visits server filter maxIds start (.paged paging) history) :
      Visits server filter maxIds start (.found paging.outcome) history
  /-- A pass of `probe_all` starts. -/
  | probe {outcome : LocateOutcome Id} {history : List (LocateExchange Id)} (probePageSize : Nat)
      (hplace : Visits server filter maxIds start (.found outcome) history) :
      Visits server filter maxIds start (.probing probePageSize { outcome := outcome }) history
  /-- The batches of a pass are used up, or the list is full. -/
  | probed {probePageSize : Nat} {probing : Probing Id} {history : List (LocateExchange Id)}
      (hplace : Visits server filter maxIds start (.probing probePageSize probing) history) :
      Visits server filter maxIds start (.found probing.outcome) history

/-! ## What is collected at a place -/

omit [DecidableEq Id] in
/-- The page of an exchange. -/
def LocateExchange.page (x : LocateExchange Id) : List Id :=
  match x.answer with
  | .ok payload => payload.uniqueIdentifiers
  | .error _ => []

/-- The ids in the pages of some exchanges, in the order in which they came. -/
def offered (exchanges : List (LocateExchange Id)) : List Id := exchanges.flatMap (·.page)

/-- The outcome has the first `maxIds` of the ids in the pages of these exchanges, and their set. -/
structure Gathered (maxIds : Nat) (exchanges : List (LocateExchange Id)) (outcome : LocateOutcome Id) : Prop where
  ids_eq : outcome.ids = (List.appendNew [] (offered exchanges)).take maxIds
  seen_eq : outcome.seen = outcome.ids.toFinset

namespace Gathered

variable {maxIds : Nat} {exchanges : List (LocateExchange Id)} {outcome : LocateOutcome Id}

theorem length_le (h : Gathered maxIds exchanges outcome) : outcome.ids.length ≤ maxIds := by
  rw [h.ids_eq]
  exact List.length_take_le maxIds _

theorem nodup (h : Gathered maxIds exchanges outcome) : outcome.ids.Nodup := by
  rw [h.ids_eq]
  exact (List.nodup_appendNew _ List.nodup_nil).sublist (List.take_sublist maxIds _)

theorem mem_offered (h : Gathered maxIds exchanges outcome) {id : Id} (hid : id ∈ outcome.ids) :
    id ∈ offered exchanges := by
  rw [h.ids_eq] at hid
  rcases (List.mem_appendNew _ _).1 (List.mem_of_mem_take hid) with hnil | hid
  · exact absurd hnil List.not_mem_nil
  · exact hid

/-- The set is kept in every merge, after each of the ids. -/
theorem seen_merge (h : Gathered maxIds exchanges outcome) (page : List Id) :
    (mergeNewIds outcome page maxIds).1.seen = (mergeNewIds outcome page maxIds).1.ids.toFinset := by
  obtain ⟨hids, hseen, -⟩ := mergeLoop_spec maxIds page outcome false h.seen_eq h.length_le
  exact hseen.trans (congrArg List.toFinset hids.symm)

/-- A merge only appends. -/
theorem prefix_merge (h : Gathered maxIds exchanges outcome) (page : List Id) :
    outcome.ids <+: (mergeNewIds outcome page maxIds).1.ids := by
  have hids := (mergeLoop_spec maxIds page outcome false h.seen_eq h.length_le).1
  rw [mergeNewIds, hids]
  exact List.prefix_take_iff.2 ⟨List.prefix_appendNew page outcome.ids, h.length_le⟩

/-- The page of one more exchange is merged. -/
theorem merge (h : Gathered maxIds exchanges outcome) (x : LocateExchange Id) :
    Gathered maxIds (exchanges ++ [x]) (mergeNewIds outcome x.page maxIds).1 := by
  refine ⟨?_, h.seen_merge x.page⟩
  have hoffered : offered (exchanges ++ [x]) = offered exchanges ++ x.page := by
    simp [offered]
  rw [hoffered, ← List.take_appendNew_append, ← h.ids_eq]
  exact (mergeLoop_spec maxIds x.page outcome false h.seen_eq h.length_le).1

/-- The flag does not count. -/
theorem confirm (h : Gathered maxIds exchanges outcome) (flag : Bool) :
    Gathered maxIds exchanges { outcome with confirmedComplete := flag } := ⟨h.ids_eq, h.seen_eq⟩

end Gathered

/-- A page changes what is collected by a merge only. -/
theorem Place.outcome_after {maxIds : Nat} {exchanges : List (LocateExchange Id)} {got : List Id}
    {located : Option Nat} {place place' : Place Id} (hafter : place.after maxIds got located = some place')
    (h : Gathered maxIds exchanges (mergeNewIds place.outcome got maxIds).1) :
    Gathered maxIds exchanges place'.outcome := by
  cases place with
  | paging paging =>
    have hmove := pagingStep_move maxIds (pagingPageSize maxIds paging) got located paging
    simp only [Place.after] at hafter
    generalize pagingStep maxIds (pagingPageSize maxIds paging) paging got located = step at hmove hafter
    cases hmove with
    | ended hgot | missing hgot =>
      cases hafter
      rw [hgot] at h
      exact h
    | reached | short =>
      cases hafter
      exact h.confirm _
    | full | repeats | overrun | next =>
      cases hafter
      exact h
  | fallback knownTotal pageSize outcome =>
    have hmove := fallbackStep_move maxIds pageSize got located knownTotal outcome
    simp only [Place.after] at hafter
    generalize fallbackStep maxIds pageSize knownTotal outcome got located = step at hmove hafter
    cases hmove with
    | full | retry =>
      cases hafter
      exact h
    | reached | short =>
      cases hafter
      exact h.confirm _
    | omits | fewer | repeats => cases hafter
  | probing probePageSize probing =>
    have hmove := probeStep_move maxIds probePageSize got located probing
    simp only [Place.after] at hafter
    generalize probeStep maxIds probePageSize probing got located = step at hmove hafter
    cases hmove with
    | ended | next =>
      cases hafter
      exact h
  | paged _ | found _ => cases hafter

omit [DecidableEq Id] in
/-- A request that is answered adds an exchange with the page; a request for no ids adds nothing. -/
theorem locatePage_eq_ok {server : LocateServer Id} {filter : LocateFilter} {offset pageSize maxResponseSize : Nat}
    {history history' : List (LocateExchange Id)} {got : List Id} {located : Option Nat}
    (h : locatePage server filter offset pageSize maxResponseSize history = .ok (got, located) history') :
    (got = [] ∧ history' = history) ∨ ∃ x : LocateExchange Id, history' = history ++ [x] ∧ x.page = got := by
  have ht : Triple (fun s => s = history) (locatePage server filter offset pageSize maxResponseSize)
      (fun r s => (r.1 = [] ∧ s = history) ∨ ∃ x : LocateExchange Id, s = history ++ [x] ∧ x.page = r.1)
      (fun _ _ => True) := by
    refine locatePage_triple server filter ?_ ?_ (fun _ _ _ => trivial) (fun _ _ _ _ => trivial)
    · rintro - s rfl
      exact .inl ⟨rfl, rfl⟩
    · rintro s payload rfl -
      exact .inr ⟨_, rfl, rfl⟩
  exact ht.ok rfl h

section Runs

variable {server : LocateServer Id} {filter : LocateFilter} {maxIds : Nat} {start : List (LocateExchange Id)}

/-- At every place the search has gathered the pages of its exchanges. -/
theorem Visits.gathered {place : Place Id} {history : List (LocateExchange Id)}
    (h : Visits server filter maxIds start place history) :
    ∃ exchanges, history = start ++ exchanges ∧ Gathered maxIds exchanges place.outcome := by
  induction h with
  | start => exact ⟨[], (List.append_nil start).symm, by simp [offered, List.appendNew, Place.outcome], rfl⟩
  | page _ _ hpage hafter ih =>
    obtain ⟨exchanges, rfl, hgathered⟩ := ih
    rcases locatePage_eq_ok hpage with ⟨rfl, rfl⟩ | ⟨x, rfl, rfl⟩
    · exact ⟨exchanges, rfl, Place.outcome_after hafter hgathered⟩
    · exact ⟨exchanges ++ [x], List.append_assoc _ _ _, Place.outcome_after hafter (hgathered.merge x)⟩
  | exhausted _ ih | stalled _ ih | finished _ ih | probe _ _ ih | probed _ ih => exact ih

/-! ## Runs end at places -/

/-- A page that comes at a visited place. -/
theorem Visits.triple_page (place : Place Id) (query : LocateQuery) (hquery : place.query filter maxIds = some query)
    {Q : List Id × Option Nat → List (LocateExchange Id) → Prop}
    (hafter : ∀ got located history, (∀ place', place.after maxIds got located = some place' →
      Visits server filter maxIds start place' history) → Q (got, located) history) :
    Triple (Visits server filter maxIds start place)
      (locatePage server query.filter query.offset query.pageSize query.maxResponseSize) Q (fun _ _ => True) := by
  constructor
  intro history hplace
  cases hpage : locatePage server query.filter query.offset query.pageSize query.maxResponseSize history with
  | ok page history' => exact hafter page.1 page.2 history' fun place' h => hplace.page hquery hpage h
  | error => trivial

theorem Visits.triple_pagingPhase :
    Triple (fun history => history = start) (pagingPhase server filter maxIds)
      (fun r => Visits server filter maxIds start (.paged r.1)) (fun _ _ => True) := by
  refine pagingPhase_triple server filter maxIds ((pagingLoop_triple server filter maxIds
    (I := fun _ paging => Visits server filter maxIds start (.paging paging))
    (Q := fun r => Visits server filter maxIds start (.paged r.1))
    (fun _ _ _ _ h => h.exhausted) ?_ _ _).conseq ?_ ?_ (fun _ _ h => h))
  · intro _ paging _
    refine Visits.triple_page (.paging paging) ⟨filter, paging.offset, pagingPageSize maxIds paging, _⟩ rfl ?_
    intro got located history h
    simp only [Place.after] at h
    revert h
    dsimp only
    cases pagingStep maxIds (pagingPageSize maxIds paging) paging got located with
    | done paging' exit => exact fun h => h _ rfl
    | next paging' => exact fun h => h _ rfl
  · rintro history rfl
    exact .start
  · rintro ⟨paging, exit⟩ history h
    cases exit <;> exact h

theorem Visits.triple_fallbackPhase (paging : Paging Id) :
    Triple (Visits server filter maxIds start (.paged paging)) (fallbackPhase server filter maxIds paging)
      (fun outcome => Visits server filter maxIds start (.found outcome)) (fun _ _ => True) := by
  refine (fallbackLoop_triple server filter maxIds
    (I := fun _ pageSize outcome => Visits server filter maxIds start (.fallback paging.knownTotal pageSize outcome))
    (fun _ _ _ _ => trivial) ?_ _ _ _).conseq (fun _ h => h.stalled) (fun _ _ h => h) (fun _ _ h => h)
  intro _ pageSize outcome
  refine Visits.triple_page (.fallback paging.knownTotal pageSize outcome) ⟨filter, 0, pageSize, _⟩ rfl ?_
  intro got located history h
  simp only [Place.after] at h
  revert h
  dsimp only
  cases fallbackStep maxIds pageSize paging.knownTotal outcome got located with
  | done outcome' => exact fun h => h _ rfl
  | fail e => exact fun _ => trivial
  | retry outcome' => exact fun h => h _ rfl

theorem Visits.triple_locateAll (hmax : 0 < maxIds) :
    Triple (fun history => history = start) (locateAll server filter maxIds)
      (fun outcome => Visits server filter maxIds start (.found outcome)) (fun _ _ => True) := by
  refine locateAll_triple server filter maxIds hmax
    (Visits.triple_pagingPhase.conseq (fun _ h => h) ?_ (fun _ _ h => h)) Visits.triple_fallbackPhase
  rintro ⟨paging, stalled⟩ history h
  cases stalled with
  | false => exact h.finished
  | true => exact h

/-- The passes only append. -/
theorem Visits.triple_probePasses (sizes : List Nat) (outcome : LocateOutcome Id) :
    Triple (Visits server filter maxIds start (.found outcome)) (probePasses server filter maxIds sizes outcome)
      (fun outcome' history =>
        Visits server filter maxIds start (.found outcome') history ∧ outcome.ids <+: outcome'.ids)
      (fun _ _ => True) := by
  refine (probePasses_triple server filter maxIds
    (I := fun _ outcome' history => Visits server filter maxIds start (.found outcome') history ∧
      outcome.ids <+: outcome'.ids) (fun _ _ _ h => h) ?_ sizes outcome).conseq
    (fun _ h => ⟨h, List.prefix_refl _⟩) (fun _ _ h => h) (fun _ _ h => h)
  intro size _ outcome'
  refine (probeLoop_triple server filter maxIds
    (I := fun _ probing history => Visits server filter maxIds start (.probing size probing) history ∧
      outcome.ids <+: probing.outcome.ids) (fun _ _ _ h => ⟨h.1.probed, h.2⟩) ?_ _ _).conseq
    (fun _ h => ⟨h.1.probe size, h.2⟩) (fun _ _ h => h) (fun _ _ h => h)
  intro _ probing _
  refine triple_of_pre (A := (∃ exchanges, Gathered maxIds exchanges probing.outcome) ∧
    outcome.ids <+: probing.outcome.ids) (fun _ h => ?_) ?_
  · obtain ⟨exchanges, -, hgathered⟩ := h.1.gathered
    exact ⟨⟨exchanges, hgathered⟩, h.2⟩
  · rintro ⟨⟨exchanges, hgathered⟩, hprefix⟩
    refine (Visits.triple_page (.probing size probing) ⟨filter, probing.offset, size, _⟩ rfl ?_).conseq
      (fun _ h => h.1) (fun _ _ h => h) (fun _ _ h => h)
    intro got located history h
    have hmove := probeStep_move maxIds size got located probing
    simp only [Place.after] at h
    dsimp only
    generalize probeStep maxIds size probing got located = step at hmove h ⊢
    cases hmove with
    | ended => exact ⟨h _ rfl, hprefix.trans (hgathered.prefix_merge got)⟩
    | next => exact ⟨h _ rfl, hprefix.trans (hgathered.prefix_merge got)⟩

end Runs

/-! ## The results -/

/-- Distinct ids, at most `maxIds`, each of them in a page of these exchanges, in the order in which the pages have
shown them first. -/
structure Collects (maxIds : Nat) (exchanges : List (LocateExchange Id)) (ids : List Id) : Prop where
  nodup : ids.Nodup
  length_le : ids.length ≤ maxIds
  genuine : ∀ id ∈ ids, ∃ x ∈ exchanges, ∃ payload, x.answer = .ok payload ∧ id ∈ payload.uniqueIdentifiers
  ordered : ids <+: List.appendNew [] (offered exchanges)

theorem Gathered.collects {maxIds : Nat} {exchanges : List (LocateExchange Id)} {outcome : LocateOutcome Id}
    (h : Gathered maxIds exchanges outcome) : Collects maxIds exchanges outcome.ids := by
  refine ⟨h.nodup, h.length_le, fun id hid => ?_, ?_⟩
  · obtain ⟨x, hx, hpage⟩ := List.mem_flatMap.1 (h.mem_offered hid)
    refine ⟨x, hx, ?_⟩
    unfold LocateExchange.page at hpage
    cases hanswer : x.answer with
    | ok payload =>
      rw [hanswer] at hpage
      exact ⟨payload, rfl, hpage⟩
    | error e =>
      rw [hanswer] at hpage
      exact absurd hpage List.not_mem_nil
  · rw [h.ids_eq]
    exact List.take_prefix maxIds _

theorem Visits.collects {server : LocateServer Id} {filter : LocateFilter} {maxIds : Nat}
    {start history : List (LocateExchange Id)} {place : Place Id}
    (h : Visits server filter maxIds start place history) :
    ∃ exchanges, history = start ++ exchanges ∧ Collects maxIds exchanges place.outcome.ids := by
  obtain ⟨exchanges, hhistory, hgathered⟩ := h.gathered
  exact ⟨exchanges, hhistory, hgathered.collects⟩

/-- An empty list, without an exchange. -/
theorem Collects.nil (maxIds : Nat) : Collects maxIds ([] : List (LocateExchange Id)) [] :=
  ⟨List.nodup_nil, Nat.zero_le _, fun _ h => absurd h List.not_mem_nil, List.prefix_refl _⟩

/-- **Locate results are genuine.** Whatever the server does, the ids that `locateAll` or `opAll` returns are distinct,
at most `maxIds`, and from the pages of this call, in the order in which they were first seen. The list of `opAll`
extends the one of its `locateAll`. Wherever a search is, and after each id of a page it merges, `seen` is the set of
`ids`. -/
theorem locate_firstSeen (server : LocateServer Id) (filter : LocateFilter) (oType : UInt32) (maxIds : Nat)
    (history : List (LocateExchange Id)) :
    (∀ outcome history', locateAll server filter maxIds history = .ok outcome history' →
      (∃ exchanges, history' = history ++ exchanges ∧ Collects maxIds exchanges outcome.ids) ∧
        outcome.seen = outcome.ids.toFinset) ∧
    (∀ ids history', opAll server oType maxIds history = .ok ids history' →
      (∃ exchanges, history' = history ++ exchanges ∧ Collects maxIds exchanges ids) ∧
        ∃ outcome history₁, locateAll server (typeFilter oType) maxIds history = .ok outcome history₁ ∧
          outcome.ids <+: ids) ∧
    ∀ place history', Visits server filter maxIds history place history' →
      place.outcome.seen = place.outcome.ids.toFinset ∧ ∀ page,
        (mergeNewIds place.outcome page maxIds).1.seen = (mergeNewIds place.outcome page maxIds).1.ids.toFinset := by
  have hseen : ∀ place history', Visits server filter maxIds history place history' →
      place.outcome.seen = place.outcome.ids.toFinset ∧ ∀ page,
        (mergeNewIds place.outcome page maxIds).1.seen = (mergeNewIds place.outcome page maxIds).1.ids.toFinset := by
    intro place history' h
    obtain ⟨exchanges, -, hgathered⟩ := h.gathered
    exact ⟨hgathered.seen_eq, hgathered.seen_merge⟩
  rcases Nat.eq_zero_or_pos maxIds with rfl | hmax
  · refine ⟨fun outcome history' h => ?_, fun ids history' h => ?_, hseen⟩
    · cases h
      exact ⟨⟨[], (List.append_nil history).symm, .nil 0⟩, rfl⟩
    · cases h
      exact ⟨⟨[], (List.append_nil history).symm, .nil 0⟩, _, _, rfl, List.prefix_refl _⟩
  · refine ⟨fun outcome history' h => ?_, fun ids history' h => ?_, hseen⟩
    · have hvisits := (Visits.triple_locateAll hmax).ok rfl h
      exact ⟨hvisits.collects, (hseen _ _ hvisits).1⟩
    · unfold opAll Pages.opAll at h
      rw [if_neg hmax.ne'] at h
      obtain ⟨outcome, history₁, hsearch, h⟩ := bind_eq_ok h
      have hvisits := (Visits.triple_locateAll hmax).ok rfl hsearch
      split at h
      · cases h
        exact ⟨hvisits.collects, outcome, history', hsearch, List.prefix_refl _⟩
      · obtain ⟨outcome', history₂, hprobe, h⟩ := bind_eq_ok h
        cases h
        obtain ⟨hvisits', hprefix⟩ := (Visits.triple_probePasses probePageSizes outcome).ok hvisits hprobe
        exact ⟨hvisits'.collects, outcome, history₁, hsearch, hprefix⟩

/-- A server that lists an object twice on every page. -/
def doublingServer : LocateServer Nat := fun _ _ => .ok ⟨[2, 1, 2], none⟩

theorem locate_firstSeen_doubling :
    ∃ ids history, opAll doublingServer 2 5 [] = .ok ids history ∧ ids = [2, 1] ∧ Collects 5 history ids := by
  obtain ⟨⟨exchanges, hhistory, hcollects⟩, -⟩ := (locate_firstSeen doublingServer (typeFilter 2) 2 5 []).2.1 _ _ rfl
  refine ⟨_, _, rfl, rfl, ?_⟩
  rw [hhistory]
  exact hcollects

end Kmip.Client
