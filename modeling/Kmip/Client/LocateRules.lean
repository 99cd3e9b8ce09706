import Kmip.Client.Locate

/-!
# Rules for the Locate search

- what a merge adds (`mergeNewIds_ids`), and the invariant `Collected` that every merge keeps: the list holds distinct
  ids of a fixed set, at most `maxIds` of them, and `seen` is its set;
- what one page does to each of the three loops (`pagingStep_move`, `fallbackStep_move`, `probeStep_move`);
- one rule for each loop: a property that every page keeps holds when the loop ends (`pagingLoop_triple`,
  `fallbackLoop_triple`, `probeLoop_triple`);
- the fallback never runs out of iterations (`locateAll_ne_diverged`).
-/

namespace Kmip.Client

open Hoare

variable {Id : Type} [DecidableEq Id]

/-! ## Merging -/

/-- A merge appends the first occurrences of the page and cuts the list at `maxIds`. -/
theorem mergeLoop_spec (maxIds : Nat) : ∀ (page : List Id) (outcome : LocateOutcome Id) (addedAny : Bool),
    outcome.seen = outcome.ids.toFinset → outcome.ids.length ≤ maxIds →
      (mergeLoop maxIds page outcome addedAny).1.ids = (outcome.ids.appendNew page).take maxIds ∧
        (mergeLoop maxIds page outcome addedAny).1.seen = ((outcome.ids.appendNew page).take maxIds).toFinset ∧
        (mergeLoop maxIds page outcome addedAny).1.confirmedComplete = outcome.confirmedComplete
  | [], outcome, addedAny, hs, hl => by
    unfold mergeLoop List.appendNew
    rw [List.take_of_length_le hl]
    exact ⟨rfl, hs, rfl⟩
  | id :: page, outcome, addedAny, hs, hl => by
    unfold mergeLoop
    split
    case isTrue hfull =>
      -- the list is full: nothing of the rest of the page is taken
      have htake : (outcome.ids.appendNew (id :: page)).take maxIds = outcome.ids := by
        have hmax : maxIds = outcome.ids.length := le_antisymm hfull hl
        rw [hmax]
        exact (List.prefix_iff_eq_take.1 (List.prefix_appendNew (id :: page) outcome.ids)).symm
      rw [htake]
      exact ⟨rfl, hs, rfl⟩
    case isFalse hroom =>
      have hmem : id ∈ outcome.seen ↔ id ∈ outcome.ids := by rw [hs, List.mem_toFinset]
      unfold List.appendNew
      by_cases hid : id ∈ outcome.ids
      · rw [if_pos (hmem.2 hid), if_pos hid]
        exact mergeLoop_spec maxIds page outcome addedAny hs hl
      · rw [if_neg (fun h => hid (hmem.1 h)), if_neg hid]
        refine mergeLoop_spec maxIds page _ true ?_ ?_
        · simp [hs]
        · simp only [List.length_append, List.length_singleton]
          omega

/-- What a search has collected: distinct ids of `S`, at most `maxIds`, with their set. -/
structure Collected (S : Finset Id) (maxIds : Nat) (outcome : LocateOutcome Id) : Prop where
  nodup : outcome.ids.Nodup
  seen_eq : outcome.seen = outcome.ids.toFinset
  subset : ∀ id ∈ outcome.ids, id ∈ S
  length_le : outcome.ids.length ≤ maxIds

section Merge

variable {S : Finset Id} {maxIds : Nat} {outcome : LocateOutcome Id} {page : List Id}

theorem Collected.empty : Collected S maxIds {} :=
  ⟨List.nodup_nil, rfl, fun _ h => absurd h List.not_mem_nil, Nat.zero_le _⟩

/-- The flag is not part of what is collected. -/
theorem Collected.confirm (h : Collected S maxIds outcome) (flag : Bool) :
    Collected S maxIds { outcome with confirmedComplete := flag } :=
  ⟨h.nodup, h.seen_eq, h.subset, h.length_le⟩

theorem Collected.toFinset_subset (h : Collected S maxIds outcome) : outcome.ids.toFinset ⊆ S := by
  intro id hid
  exact h.subset id (List.mem_toFinset.1 hid)

/-- As many distinct ids as `S` has: all of `S`. -/
theorem Collected.complete_of_card_le (h : Collected S maxIds outcome) (hc : S.card ≤ outcome.ids.length) :
    outcome.ids.toFinset = S := by
  refine Finset.eq_of_subset_of_card_le h.toFinset_subset ?_
  rwa [List.toFinset_card_of_nodup h.nodup]

theorem mergeNewIds_ids (h : Collected S maxIds outcome) :
    (mergeNewIds outcome page maxIds).1.ids = (outcome.ids.appendNew page).take maxIds :=
  (mergeLoop_spec maxIds page outcome false h.seen_eq h.length_le).1

theorem mergeNewIds_confirmedComplete (h : Collected S maxIds outcome) :
    (mergeNewIds outcome page maxIds).1.confirmedComplete = outcome.confirmedComplete :=
  (mergeLoop_spec maxIds page outcome false h.seen_eq h.length_le).2.2

/-- A page of ids of `S` keeps the invariant. -/
theorem Collected.merge (h : Collected S maxIds outcome) (hp : ∀ id ∈ page, id ∈ S) :
    Collected S maxIds (mergeNewIds outcome page maxIds).1 := by
  refine ⟨?_, ?_, ?_, ?_⟩
  · rw [mergeNewIds_ids h]
    exact (List.nodup_appendNew page h.nodup).sublist (List.take_sublist maxIds _)
  · rw [mergeNewIds_ids h]
    exact (mergeLoop_spec maxIds page outcome false h.seen_eq h.length_le).2.1
  · intro id hid
    rw [mergeNewIds_ids h] at hid
    rcases (List.mem_appendNew page outcome.ids).1 (List.mem_of_mem_take hid) with hid | hid
    · exact h.subset id hid
    · exact hp id hid
  · rw [mergeNewIds_ids h]
    exact List.length_take_le maxIds _

/-- While there is room, a page that holds all of `S` completes the list. -/
theorem Collected.complete_of_page (h : Collected S maxIds outcome) (hp : ∀ id ∈ page, id ∈ S)
    (hroom : (mergeNewIds outcome page maxIds).1.ids.length < maxIds) (hall : ∀ id ∈ S, id ∈ page) :
    (mergeNewIds outcome page maxIds).1.ids.toFinset = S := by
  refine Finset.Subset.antisymm (h.merge hp).toFinset_subset ?_
  intro id hid
  rw [mergeNewIds_ids h, List.length_take] at hroom
  rw [List.mem_toFinset, mergeNewIds_ids h, List.take_of_length_le (by omega)]
  exact (List.mem_appendNew page outcome.ids).2 (.inr (hall id hid))

end Merge

/-! ## Located Items -/

omit [DecidableEq Id] in
theorem located_eq_some {payload : LocateResponsePayload Id} {total : Nat} (h : payload.located = some total) :
    ∃ n, payload.locatedItems = some n ∧ n.toInt = total := by
  unfold LocateResponsePayload.located at h
  obtain ⟨n, hn, hnat⟩ := Option.map_eq_some_iff.1 h
  obtain ⟨hitems, hnonneg⟩ := Option.filter_eq_some_iff.1 hn
  have hpos : (0 : Int) ≤ n.toInt := Int32.le_iff_toInt_le.1 (of_decide_eq_true hnonneg)
  exact ⟨n, hitems, by omega⟩

omit [DecidableEq Id] in
theorem located_of_toInt {payload : LocateResponsePayload Id} {n : Int32} {total : Nat}
    (hitems : payload.locatedItems = some n) (hn : n.toInt = total) : payload.located = some total := by
  have hpos : 0 ≤ n := by
    rw [Int32.le_iff_toInt_le, hn]
    exact Int.natCast_nonneg total
  unfold LocateResponsePayload.located
  rw [hitems, Option.filter_some, if_pos (decide_eq_true hpos), Option.map_some, hn, Int.toNat_natCast]

theorem locatedTotal_eq_some {located : Option Nat} {count total : Nat} :
    locatedTotal located count = some total ↔ located = some total ∧ count < total := by
  unfold locatedTotal
  simp [Option.filter_eq_some_iff]

/-- A total that is known after a page was reported by it or before it. -/
theorem total_or_eq {located knownTotal : Option Nat} {count n total : Nat}
    (hk : ∀ total, knownTotal = some total → total = n)
    (hp : ∀ total, locatedTotal located count = some total → total = n)
    (h : (locatedTotal located count).or knownTotal = some total) : total = n := by
  rcases Option.or_eq_some_iff.1 h with h | ⟨-, h⟩
  · exact hp total h
  · exact hk total h

/-! ## One page -/

section Steps

variable (maxIds pageSize : Nat) (got : List Id) (located : Option Nat)

/-- The paging variables after a page that is not empty. -/
def Paging.after (paging : Paging Id) : Paging Id :=
  ⟨(mergeNewIds paging.outcome got maxIds).1, sizeAdd paging.offset got.length,
    (locatedTotal located got.length).or paging.knownTotal⟩

/-- The paging variables with the flag of the outcome set to `flag`. -/
def Paging.confirm (paging : Paging Id) (flag : Bool) : Paging Id :=
  { paging with outcome := { paging.outcome with confirmedComplete := flag } }

/-- What a page can do to the paging loop. -/
inductive PagingMove (paging : Paging Id) : PagingStep Id → Prop where
  /-- The end of the list. -/
  | ended (hgot : got = []) (htotal : ∀ total ∈ paging.knownTotal, total ≤ paging.outcome.ids.length) :
      PagingMove paging (.done paging .finished)
  /-- An empty page, although ids are missing. -/
  | missing (hgot : got = []) (total : Nat) (htotal : paging.knownTotal = some total)
      (hlt : paging.outcome.ids.length < total) : PagingMove paging (.done paging .stalled)
  | reached (hgot : got ≠ []) (total : Nat) (htotal : (paging.after maxIds got located).knownTotal = some total)
      (hle : total ≤ (paging.after maxIds got located).outcome.ids.length) :
      PagingMove paging (.done ((paging.after maxIds got located).confirm true) .finished)
  | full (hgot : got ≠ []) (hfull : maxIds ≤ (paging.after maxIds got located).outcome.ids.length) :
      PagingMove paging (.done (paging.after maxIds got located) .finished)
  | repeats (hgot : got ≠ []) (hroom : (paging.after maxIds got located).outcome.ids.length < maxIds)
      (hrepeat : (paging.after maxIds got located).outcome.ids.length - paging.outcome.ids.length < got.length) :
      PagingMove paging (.done (paging.after maxIds got located) .stalled)
  /-- The offset has passed a total that is not reached. -/
  | overrun (hgot : got ≠ []) (hroom : (paging.after maxIds got located).outcome.ids.length < maxIds)
      (hnew : got.length ≤ (paging.after maxIds got located).outcome.ids.length - paging.outcome.ids.length)
      (total : Nat) (htotal : (paging.after maxIds got located).knownTotal = some total)
      (hlt : (paging.after maxIds got located).outcome.ids.length < total)
      (hle : total ≤ (paging.after maxIds got located).offset) :
      PagingMove paging (.done (paging.after maxIds got located) .stalled)
  | short (hgot : got ≠ []) (hroom : (paging.after maxIds got located).outcome.ids.length < maxIds)
      (hnew : got.length ≤ (paging.after maxIds got located).outcome.ids.length - paging.outcome.ids.length)
      (hshort : got.length < pageSize) (hnone : (paging.after maxIds got located).knownTotal = none) :
      PagingMove paging (.done ((paging.after maxIds got located).confirm (paging.offset = 0)) .finished)
  | next (hgot : got ≠ []) (hroom : (paging.after maxIds got located).outcome.ids.length < maxIds)
      (hnew : got.length ≤ (paging.after maxIds got located).outcome.ids.length - paging.outcome.ids.length)
      (htotal : ∀ total ∈ (paging.after maxIds got located).knownTotal,
        (paging.after maxIds got located).outcome.ids.length < total)
      (hgoes : pageSize ≤ got.length ∨ (paging.after maxIds got located).knownTotal ≠ none) :
      PagingMove paging (.next (paging.after maxIds got located))

theorem pagingStep_move (paging : Paging Id) :
    PagingMove maxIds pageSize got located paging (pagingStep maxIds pageSize paging got located) := by
  by_cases hgot : got = []
  · have hstep : pagingStep maxIds pageSize paging got located =
        .done paging (if paging.knownTotal.any (fun total => paging.outcome.ids.length < total)
          then .stalled else .finished) := by
      simp [pagingStep, hgot]
    rw [hstep]
    by_cases hany : paging.knownTotal.any (fun total => paging.outcome.ids.length < total)
    · rw [if_pos hany]
      obtain ⟨total, htotal, hlt⟩ := (Option.any_eq_true _ _).1 hany
      exact .missing hgot total htotal (of_decide_eq_true hlt)
    · rw [if_neg hany]
      refine .ended hgot fun total htotal => ?_
      rw [htotal] at hany
      simpa using hany
  · have hstep : pagingStep maxIds pageSize paging got located =
        if (paging.after maxIds got located).knownTotal.any
            (fun total => total ≤ (paging.after maxIds got located).outcome.ids.length) then
          .done ((paging.after maxIds got located).confirm true) .finished
        else if maxIds ≤ (paging.after maxIds got located).outcome.ids.length then
          .done (paging.after maxIds got located) .finished
        else if (paging.after maxIds got located).outcome.ids.length - paging.outcome.ids.length < got.length then
          .done (paging.after maxIds got located) .stalled
        else if (paging.after maxIds got located).knownTotal.any
            (fun total => total ≤ (paging.after maxIds got located).offset) then
          .done (paging.after maxIds got located) .stalled
        else if got.length < pageSize ∧ (paging.after maxIds got located).knownTotal = none then
          .done ((paging.after maxIds got located).confirm (paging.offset = 0)) .finished
        else .next (paging.after maxIds got located) := by
      simp only [pagingStep, List.isEmpty_iff, if_neg hgot]
      rfl
    rw [hstep]
    split_ifs with htotal hfull hrepeat hoffset hshort
    · obtain ⟨total, hk, hle⟩ := (Option.any_eq_true _ _).1 htotal
      exact .reached hgot total hk (of_decide_eq_true hle)
    · exact .full hgot hfull
    · exact .repeats hgot (Nat.lt_of_not_le hfull) hrepeat
    · obtain ⟨total, hk, hle⟩ := (Option.any_eq_true _ _).1 hoffset
      rw [hk] at htotal
      exact .overrun hgot (Nat.lt_of_not_le hfull) (Nat.le_of_not_lt hrepeat) total hk (by simpa using htotal)
        (of_decide_eq_true hle)
    · exact .short hgot (Nat.lt_of_not_le hfull) (Nat.le_of_not_lt hrepeat) hshort.1 hshort.2
    · refine .next hgot (Nat.lt_of_not_le hfull) (Nat.le_of_not_lt hrepeat) (fun total hk => ?_) ?_
      · rw [hk] at htotal
        simpa using htotal
      · rw [not_and_or, Nat.not_lt] at hshort
        exact hshort

/-- What a page can do to the fallback loop. -/
inductive FallbackMove (knownTotal : Option Nat) (outcome : LocateOutcome Id) : FallbackStep Id → Prop where
  | full (hfull : maxIds ≤ (mergeNewIds outcome got maxIds).1.ids.length) :
      FallbackMove knownTotal outcome (.done (mergeNewIds outcome got maxIds).1)
  | reached (hroom : (mergeNewIds outcome got maxIds).1.ids.length < maxIds) (total : Nat)
      (htotal : (locatedTotal located got.length).or knownTotal = some total)
      (hle : total ≤ (mergeNewIds outcome got maxIds).1.ids.length) :
      FallbackMove knownTotal outcome (.done { (mergeNewIds outcome got maxIds).1 with confirmedComplete := true })
  | short (hroom : (mergeNewIds outcome got maxIds).1.ids.length < maxIds) (hshort : got.length < pageSize)
      (hnone : (locatedTotal located got.length).or knownTotal = none) :
      FallbackMove knownTotal outcome (.done { (mergeNewIds outcome got maxIds).1 with confirmedComplete := true })
  /-- The page leaves out ids that are known. -/
  | omits (hshort : got.length < pageSize)
      (homits : (got.toFinset.filter (· ∈ outcome.seen)).card < outcome.ids.length) (text : String) :
      FallbackMove knownTotal outcome (.fail (.message text))
  /-- The whole list has fewer ids than the total. -/
  | fewer (hshort : got.length < pageSize) (total : Nat)
      (htotal : (locatedTotal located got.length).or knownTotal = some total)
      (hlt : (mergeNewIds outcome got maxIds).1.ids.length < total) (text : String) :
      FallbackMove knownTotal outcome (.fail (.message text))
  /-- A page of `maxIds` ids that are not distinct. -/
  | repeats (hroom : (mergeNewIds outcome got maxIds).1.ids.length < maxIds) (hgot : pageSize ≤ got.length)
      (hlast : maxIds ≤ pageSize) (text : String) : FallbackMove knownTotal outcome (.fail (.message text))
  | retry (hroom : (mergeNewIds outcome got maxIds).1.ids.length < maxIds) (hgot : pageSize ≤ got.length)
      (hlt : pageSize < maxIds) : FallbackMove knownTotal outcome (.retry (mergeNewIds outcome got maxIds).1)

theorem fallbackStep_move (knownTotal : Option Nat) (outcome : LocateOutcome Id) :
    FallbackMove maxIds pageSize got located knownTotal outcome
      (fallbackStep maxIds pageSize knownTotal outcome got located) := by
  simp only [fallbackStep]
  split_ifs with hfull htotal hshort homits hlast
  · exact .full hfull
  · obtain ⟨total, ht, hle⟩ := (Option.any_eq_true _ _).1 htotal
    exact .reached (Nat.lt_of_not_le hfull) total ht (of_decide_eq_true hle)
  · exact .omits hshort homits _
  · cases hnone : (locatedTotal located got.length).or knownTotal with
    | none => exact .short (Nat.lt_of_not_le hfull) hshort hnone
    | some total =>
      rw [hnone] at htotal
      exact .fewer hshort total hnone (by simpa using htotal) _
  · exact .repeats (Nat.lt_of_not_le hfull) (Nat.le_of_not_lt hshort) hlast _
  · exact .retry (Nat.lt_of_not_le hfull) (Nat.le_of_not_lt hshort) (Nat.lt_of_not_le hlast)

/-- What a page can do to a pass of `probe_all`. -/
inductive ProbeMove (probing : Probing Id) : ProbeStep Id → Prop where
  | ended : ProbeMove probing (.done (mergeNewIds probing.outcome got maxIds).1)
  | next : ProbeMove probing
      (.next ⟨(mergeNewIds probing.outcome got maxIds).1, sizeAdd probing.offset pageSize, got⟩)

theorem probeStep_move (probing : Probing Id) :
    ProbeMove maxIds pageSize got probing (probeStep maxIds pageSize probing got located) := by
  simp only [probeStep]
  split_ifs with hempty
  · rw [List.isEmpty_iff.1 hempty]
    exact .ended
  · exact .ended
  · exact .ended
  · exact .next

end Steps

/-! ## Runs -/

section Runs

variable (server : LocateServer Id) (filter : LocateFilter) (maxIds : Nat)

omit [DecidableEq Id] in
/-- The rule of a request. -/
theorem locatePage_triple {offset pageSize maxResponseSize : Nat} {P : List (LocateExchange Id) → Prop}
    {Q : List Id × Option Nat → List (LocateExchange Id) → Prop} {E : Abort → List (LocateExchange Id) → Prop}
    (hzero : pageSize = 0 → ∀ history, P history → Q ([], none) history)
    (hok : ∀ history payload, P history → server history ⟨filter, offset, pageSize, maxResponseSize⟩ = .ok payload →
      Q (payload.uniqueIdentifiers, payload.located)
        (history ++ [⟨⟨filter, offset, pageSize, maxResponseSize⟩, .ok payload⟩]))
    (hrefused : ∀ history text, P history → E (.message text) history)
    (herror : ∀ history e, P history → server history ⟨filter, offset, pageSize, maxResponseSize⟩ = .error e →
      E (.thrown e) (history ++ [⟨⟨filter, offset, pageSize, maxResponseSize⟩, .error e⟩])) :
    Triple P (locatePage server filter offset pageSize maxResponseSize) Q E := by
  unfold locatePage Pages.locatePage
  refine triple_ite (fun h => triple_pure (hzero h)) fun _ => ?_
  refine triple_ite (fun _ => triple_throw fun history => hrefused history _) fun _ => ?_
  refine triple_ite (fun _ => triple_throw fun history => hrefused history _) fun _ => ?_
  refine triple_ite (fun _ => triple_throw fun history => hrefused history _) fun _ => ?_
  refine triple_bind (Q := fun payload => Q (payload.uniqueIdentifiers, payload.located)) ?_
    (fun _ => triple_pure fun _ h => h)
  constructor
  intro history hP
  unfold exchange
  cases hs : server history ⟨filter, offset, pageSize, maxResponseSize⟩ with
  | ok payload => exact hok history payload hP hs
  | error e => exact herror history e hP hs

omit [DecidableEq Id] in
/-- A request that is sent and answered. -/
theorem locatePage_ok {offset pageSize maxResponseSize : Nat} {history : List (LocateExchange Id)}
    {payload : LocateResponsePayload Id} (hpos : 0 < pageSize) (hresponse : maxResponseSize ≤ int32Max)
    (hsize : pageSize ≤ int32Max) (hoffset : offset ≤ int32Max)
    (hanswer : server history ⟨filter, offset, pageSize, maxResponseSize⟩ = .ok payload) :
    locatePage server filter offset pageSize maxResponseSize history =
      .ok (payload.uniqueIdentifiers, payload.located)
        (history ++ [⟨⟨filter, offset, pageSize, maxResponseSize⟩, .ok payload⟩]) := by
  have hexchange : exchange server ⟨filter, offset, pageSize, maxResponseSize⟩ history =
      .ok payload (history ++ [⟨⟨filter, offset, pageSize, maxResponseSize⟩, .ok payload⟩]) := by
    unfold exchange
    rw [hanswer]
  unfold locatePage Pages.locatePage
  rw [if_neg (Nat.pos_iff_ne_zero.1 hpos), if_neg (Nat.not_lt.2 hresponse), if_neg (Nat.not_lt.2 hsize),
    if_neg (Nat.not_lt.2 hoffset)]
  exact bind_ok hexchange

omit [DecidableEq Id] in
/-- What every answer of the server satisfies, the page satisfies. -/
theorem locatePage_answer {offset pageSize maxResponseSize : Nat} {V : List Id → Option Nat → Prop}
    (hzero : pageSize = 0 → V [] none)
    (hok : ∀ history payload, server history ⟨filter, offset, pageSize, maxResponseSize⟩ = .ok payload →
      V payload.uniqueIdentifiers payload.located) :
    Triple (fun _ => True) (locatePage server filter offset pageSize maxResponseSize) (fun page _ => V page.1 page.2)
      (fun e _ => e ≠ .diverged) := by
  refine locatePage_triple server filter ?_ ?_ ?_ ?_
  · intro h _ _
    exact hzero h
  · intro history payload _ h
    exact hok history payload h
  · intro _ text _ h
    cases h
  · intro _ e _ _ h
    cases h

/-- The rule of the paging loop: every page keeps `I` or ends the loop with `Q`. The invariant may depend on the batches
that are left. -/
theorem pagingLoop_triple {I : Nat → Paging Id → List (LocateExchange Id) → Prop}
    {Q : Paging Id × PagingExit → List (LocateExchange Id) → Prop} {E : Abort → List (LocateExchange Id) → Prop}
    (hend : ∀ batches paging history, (batches = 0 ∨ maxIds ≤ paging.outcome.ids.length) →
      I batches paging history → Q (paging, .exhausted) history)
    (hstep : ∀ batches paging, paging.outcome.ids.length < maxIds →
      Triple (I (batches + 1) paging)
        (locatePage server filter paging.offset (pagingPageSize maxIds paging) defaultMaxResponseSize)
        (fun page history =>
          match pagingStep maxIds (pagingPageSize maxIds paging) paging page.1 page.2 with
          | .done paging' exit => Q (paging', exit) history
          | .next paging' => I batches paging' history) E) :
    ∀ batches paging, Triple (I batches paging) (pagingLoop server filter maxIds batches paging) Q E
  | 0, paging => triple_pure fun history => hend 0 paging history (.inl rfl)
  | batches + 1, paging => by
    unfold pagingLoop Pages.pagingLoop
    refine triple_ite (fun hroom => ?_) fun hfull =>
      triple_pure fun history => hend (batches + 1) paging history (.inr (Nat.le_of_not_lt hfull))
    refine triple_bind (hstep batches paging hroom) ?_
    rintro ⟨got, located⟩
    dsimp only
    cases pagingStep maxIds (pagingPageSize maxIds paging) paging got located with
    | done paging' exit => exact triple_pure fun _ h => h
    | next paging' => exact pagingLoop_triple hend hstep batches paging'

/-- The rule of the fallback loop. The invariant may depend on the iterations that are left and on the page size. -/
theorem fallbackLoop_triple {knownTotal : Option Nat}
    {I : Nat → Nat → LocateOutcome Id → List (LocateExchange Id) → Prop}
    {Q : LocateOutcome Id → List (LocateExchange Id) → Prop} {E : Abort → List (LocateExchange Id) → Prop}
    (hend : ∀ pageSize outcome history, I 0 pageSize outcome history → E .diverged history)
    (hstep : ∀ fuel pageSize outcome,
      Triple (I (fuel + 1) pageSize outcome)
        (locatePage server filter 0 pageSize (locateResponseSizeLimit pageSize))
        (fun page history =>
          match fallbackStep maxIds pageSize knownTotal outcome page.1 page.2 with
          | .done outcome' => Q outcome' history
          | .fail e => E e history
          | .retry outcome' => I fuel (nextPageSize maxIds pageSize) outcome' history) E) :
    ∀ fuel pageSize outcome,
      Triple (I fuel pageSize outcome) (fallbackLoop server filter maxIds knownTotal fuel pageSize outcome) Q E
  | 0, pageSize, outcome => triple_throw (hend pageSize outcome)
  | fuel + 1, pageSize, outcome => by
    unfold fallbackLoop Pages.fallbackLoop
    refine triple_bind (hstep fuel pageSize outcome) ?_
    rintro ⟨got, located⟩
    dsimp only
    cases fallbackStep maxIds pageSize knownTotal outcome got located with
    | done outcome' => exact triple_pure fun _ h => h
    | fail e => exact triple_throw fun _ h => h
    | retry outcome' => exact fallbackLoop_triple hend hstep fuel (nextPageSize maxIds pageSize) outcome'

/-- The rule of the first phase, from the rule of its loop. -/
theorem pagingPhase_triple {P : List (LocateExchange Id) → Prop}
    {Q : Paging Id × Bool → List (LocateExchange Id) → Prop} {E : Abort → List (LocateExchange Id) → Prop}
    (h : Triple P (pagingLoop server filter maxIds maxBatchesInSearch {})
      (fun r history =>
        match r.2 with
        | .finished => Q (r.1, false) history
        | .stalled => Q (r.1, true) history
        | .exhausted => Q (r.1, r.1.outcome.ids.length < maxIds) history) E) :
    Triple P (pagingPhase server filter maxIds) Q E := by
  unfold pagingPhase Pages.pagingPhase
  refine triple_bind h ?_
  rintro ⟨paging, exit⟩
  cases exit with
  | finished => exact triple_pure fun _ h => h
  | stalled => exact triple_pure fun _ h => h
  | exhausted => exact triple_pure fun _ h => h

/-- The rule of the search: paging ends with `Q`, or it stalls with `J` and the fallback goes on from there. -/
theorem locateAll_triple (hmax : 0 < maxIds) {P : List (LocateExchange Id) → Prop}
    {J : Paging Id → List (LocateExchange Id) → Prop} {Q : LocateOutcome Id → List (LocateExchange Id) → Prop}
    {E : Abort → List (LocateExchange Id) → Prop}
    (hpaging : Triple P (pagingPhase server filter maxIds)
      (fun r history => if r.2 then J r.1 history else Q r.1.outcome history) E)
    (hfallback : ∀ paging, Triple (J paging) (fallbackPhase server filter maxIds paging) Q E) :
    Triple P (locateAll server filter maxIds) Q E := by
  unfold locateAll Pages.locateAll
  refine triple_ite (fun h => absurd h (Nat.pos_iff_ne_zero.1 hmax)) fun _ => ?_
  refine triple_bind hpaging ?_
  rintro ⟨paging, stalled⟩
  cases stalled with
  | false => exact triple_pure fun _ h => h
  | true => exact hfallback paging

/-- The rule of a pass of `probe_all`. -/
theorem probeLoop_triple {probePageSize : Nat} {I : Nat → Probing Id → List (LocateExchange Id) → Prop}
    {Q : LocateOutcome Id → List (LocateExchange Id) → Prop} {E : Abort → List (LocateExchange Id) → Prop}
    (hend : ∀ batches probing history, I batches probing history → Q probing.outcome history)
    (hstep : ∀ batches probing, probing.outcome.ids.length < maxIds →
      Triple (I (batches + 1) probing)
        (locatePage server filter probing.offset probePageSize defaultMaxResponseSize)
        (fun page history =>
          match probeStep maxIds probePageSize probing page.1 page.2 with
          | .done outcome => Q outcome history
          | .next probing' => I batches probing' history) E) :
    ∀ batches probing, Triple (I batches probing) (probeLoop server filter maxIds probePageSize batches probing) Q E
  | 0, probing => triple_pure (hend 0 probing)
  | batches + 1, probing => by
    unfold probeLoop Pages.probeLoop
    refine triple_ite (fun hroom => ?_) fun _ => triple_pure (hend (batches + 1) probing)
    refine triple_bind (hstep batches probing hroom) ?_
    rintro ⟨page, located⟩
    dsimp only
    cases probeStep maxIds probePageSize probing page located with
    | done outcome => exact triple_pure fun _ h => h
    | next probing' => exact probeLoop_triple hend hstep batches probing'

/-- The rule of the passes: each of them keeps `I`, which may depend on the passes that are left. -/
theorem probePasses_triple {I : List Nat → LocateOutcome Id → List (LocateExchange Id) → Prop}
    {Q : LocateOutcome Id → List (LocateExchange Id) → Prop} {E : Abort → List (LocateExchange Id) → Prop}
    (hend : ∀ sizes outcome history, I sizes outcome history → Q outcome history)
    (hpass : ∀ size sizes outcome, Triple (I (size :: sizes) outcome)
      (probeLoop server filter maxIds size maxBatchesInSearch { outcome := outcome }) (I sizes) E) :
    ∀ sizes outcome, Triple (I sizes outcome) (probePasses server filter maxIds sizes outcome) Q E
  | [], outcome => triple_pure (hend [] outcome)
  | size :: sizes, outcome => by
    unfold probePasses Pages.probePasses
    refine triple_bind (hpass size sizes outcome) fun outcome' => ?_
    exact triple_ite (fun _ => triple_pure (hend sizes outcome')) fun _ =>
      probePasses_triple hend hpass sizes outcome'

/-- The rule of `op_all`: the search ends with `J`, and the passes go on from there. -/
theorem opAll_triple {oType : UInt32} (hmax : 0 < maxIds) {P : List (LocateExchange Id) → Prop}
    {J : LocateOutcome Id → List (LocateExchange Id) → Prop} {Q : List Id → List (LocateExchange Id) → Prop}
    {E : Abort → List (LocateExchange Id) → Prop}
    (hsearch : Triple P (locateAll server (typeFilter oType) maxIds) J E)
    (hdone : ∀ outcome history, J outcome history → Q outcome.ids history)
    (hprobe : ∀ outcome, outcome.ids.length < maxIds → outcome.confirmedComplete = false →
      Triple (J outcome) (probeAll server oType maxIds outcome) (fun outcome' => Q outcome'.ids) E) :
    Triple P (opAll server oType maxIds) Q E := by
  unfold opAll Pages.opAll
  refine triple_ite (fun h => absurd h (Nat.pos_iff_ne_zero.1 hmax)) fun _ => ?_
  refine triple_bind hsearch fun outcome => ?_
  refine triple_ite (fun _ => triple_pure (hdone outcome)) fun hunsure => ?_
  simp only [Bool.or_eq_true, decide_eq_true_eq, not_or, Nat.not_le, Bool.not_eq_true] at hunsure
  exact triple_bind (hprobe outcome hunsure.1 hunsure.2) fun _ => triple_pure fun _ h => h

/-! ## Termination -/

variable {maxIds}

omit [DecidableEq Id] in
/-- The subtraction does not wrap around: the loop asks for pages only while there is room. -/
theorem pagingPageSize_eq {paging : Paging Id} (hroom : paging.outcome.ids.length < maxIds) :
    pagingPageSize maxIds paging = min (maxIds - paging.outcome.ids.length) maxItemsInBatch := by
  unfold pagingPageSize
  rw [sizeSub_of_le hroom.le]

omit [DecidableEq Id] in
theorem pagingPageSize_pos {paging : Paging Id} (hroom : paging.outcome.ids.length < maxIds) :
    0 < pagingPageSize maxIds paging := by
  rw [pagingPageSize_eq hroom]
  unfold maxItemsInBatch
  omega

/-- The page doubles until it reaches `maxIds`; the product does not wrap around. -/
theorem nextPageSize_eq (hsize : maxIds < 2 ^ 64) (pageSize : Nat) :
    nextPageSize maxIds pageSize = min (pageSize * 2) maxIds := by
  unfold nextPageSize
  split
  · omega
  · have : pageSize * 2 < 2 ^ 64 := by omega
    unfold sizeMul sizeMod
    rw [Nat.mod_eq_of_lt this]
    omega

theorem fallbackPageSize_pos (hmax : 0 < maxIds) (known : Nat) : 0 < fallbackPageSize maxIds known := by
  unfold fallbackPageSize
  split
  · omega
  · have : 0 < sizeMul maxItemsInBatch 2 := by decide
    omega

/-- With this many iterations left, the pages that double from `pageSize` on reach `maxIds`. -/
def Reaches (maxIds fuel pageSize : Nat) : Prop := 0 < fuel ∧ 0 < pageSize ∧ maxIds ≤ pageSize * 2 ^ (fuel - 1)

theorem Reaches.next (hsize : maxIds < 2 ^ 64) {fuel pageSize : Nat} (h : Reaches maxIds (fuel + 1) pageSize)
    (hlt : pageSize < maxIds) : Reaches maxIds fuel (nextPageSize maxIds pageSize) := by
  obtain ⟨-, hpos, hreach⟩ := h
  cases fuel with
  | zero =>
    simp only [Nat.zero_add, Nat.sub_self, Nat.pow_zero, Nat.mul_one] at hreach
    exact absurd hlt (Nat.not_lt.2 hreach)
  | succ fuel =>
    rw [nextPageSize_eq hsize]
    refine ⟨Nat.succ_pos fuel, by omega, ?_⟩
    simp only [Nat.add_sub_cancel] at hreach ⊢
    rcases le_total (pageSize * 2) maxIds with hle | hle
    · rw [Nat.min_eq_left hle]
      calc maxIds ≤ pageSize * 2 ^ (fuel + 1) := hreach
        _ = pageSize * 2 * 2 ^ fuel := by rw [Nat.pow_succ', Nat.mul_assoc]
    · rw [Nat.min_eq_right hle]
      exact Nat.le_mul_of_pos_right maxIds (Nat.two_pow_pos fuel)

theorem reaches_fallbackPageSize (hmax : 0 < maxIds) (known : Nat) :
    Reaches maxIds (maxIds.log2 + 2) (fallbackPageSize maxIds known) := by
  refine ⟨Nat.succ_pos _, fallbackPageSize_pos hmax known, ?_⟩
  have hlog : maxIds < 2 ^ (maxIds.log2 + 1) := Nat.lt_log2_self
  calc maxIds ≤ 1 * 2 ^ (maxIds.log2 + 1) := by omega
    _ ≤ _ := Nat.mul_le_mul_right _ (fallbackPageSize_pos hmax known)

/-- The iterations of the fallback suffice: it ends after the page of `maxIds` ids at the latest. -/
theorem fallbackPhase_ne_diverged (hmax : 0 < maxIds) (hsize : maxIds < 2 ^ 64) (paging : Paging Id) :
    Triple (fun _ => True) (fallbackPhase server filter maxIds paging) (fun _ _ => True)
      (fun e _ => e ≠ .diverged) := by
  have hstep : ∀ fuel pageSize outcome, Triple (fun _ => Reaches maxIds (fuel + 1) pageSize)
      (locatePage server filter 0 pageSize (locateResponseSizeLimit pageSize))
      (fun page _ =>
        match fallbackStep maxIds pageSize paging.knownTotal outcome page.1 page.2 with
        | .done _ => True
        | .fail e => e ≠ .diverged
        | .retry _ => Reaches maxIds fuel (nextPageSize maxIds pageSize)) (fun e _ => e ≠ .diverged) := by
    intro fuel pageSize outcome
    refine triple_of_pre (fun _ h => h) fun hreach => ?_
    refine (locatePage_answer server filter (V := fun _ _ => True) (fun _ => trivial)
      (fun _ _ _ => trivial)).conseq (fun _ _ => trivial) ?_ (fun _ _ h => h)
    rintro ⟨got, located⟩ _ -
    have hmove := fallbackStep_move maxIds pageSize got located paging.knownTotal outcome
    dsimp only
    generalize fallbackStep maxIds pageSize paging.knownTotal outcome got located = step at hmove ⊢
    cases hmove with
    | full | reached | short => trivial
    | omits | fewer | repeats => nofun
    | retry _ _ hlt => exact hreach.next hsize hlt
  refine (fallbackLoop_triple server filter maxIds (I := fun fuel pageSize _ _ => Reaches maxIds fuel pageSize)
    (fun _ _ _ h => absurd h.1 (Nat.lt_irrefl 0)) hstep _ _ _).conseq (fun _ _ => ?_) (fun _ _ h => h) (fun _ _ h => h)
  exact reaches_fallbackPageSize hmax _

/-- The search returns or throws. -/
theorem locateAll_ne_diverged (hmax : 0 < maxIds) (hsize : maxIds < 2 ^ 64) :
    Triple (fun _ => True) (locateAll server filter maxIds) (fun _ _ => True) (fun e _ => e ≠ .diverged) := by
  refine locateAll_triple server filter maxIds hmax (J := fun _ _ => True) (pagingPhase_triple server filter maxIds ?_)
    (fallbackPhase_ne_diverged server filter hmax hsize)
  refine (pagingLoop_triple server filter maxIds (I := fun _ _ _ => True) (Q := fun _ _ => True)
    (fun _ _ _ _ _ => trivial) (fun _ paging _ => ?_) _ _).conseq (fun _ _ => trivial) ?_ (fun _ _ h => h)
  · refine (locatePage_answer server filter (V := fun _ _ => True) (fun _ => trivial)
      (fun _ _ _ => trivial)).conseq (fun _ _ => trivial) ?_ (fun _ _ h => h)
    rintro ⟨got, located⟩ _ -
    dsimp only
    split <;> trivial
  · rintro ⟨paging, exit⟩ _ -
    cases exit <;> simp

end Runs

end Kmip.Client
