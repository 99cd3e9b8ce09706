import Kmip.Client.LocateBounds

/-!
# Exact listings

A server has a list `L` of distinct ids and answers every request with a slice of it. Whether it honours the offset of
the request or ignores it, the search returns the first `maxIds` ids of `L` (`Serves.locateAll`): paging collects a
beginning of `L` and finishes only when it has enough, and the fallback goes on from any beginning of `L`.
-/

namespace Kmip.Client

open Hoare

variable {Id : Type} [DecidableEq Id]

/-! ## Servers with a list -/

/-- What a server reports as Located Items. -/
inductive LocatedItemsMode where
  | absent
  | total
  | pageCount

/-- Nothing, the size of the list, or the number of ids in the answer. -/
def LocatedItemsMode.Reports (L : List Id) (payload : LocateResponsePayload Id) : LocatedItemsMode → Prop
  | .absent => payload.locatedItems = none
  | .total => ∃ n, payload.locatedItems = some n ∧ n.toInt = L.length
  | .pageCount => ∃ n, payload.locatedItems = some n ∧ n.toInt = payload.uniqueIdentifiers.length

/-- The server answers every request that can be sent with the slice of `L` at the position for its offset. -/
def Serves (server : LocateServer Id) (L : List Id) (mode : LocatedItemsMode) (position : Nat → Nat) : Prop :=
  ∀ history query, query.offset ≤ int32Max → query.pageSize ≤ int32Max →
    ∃ payload, server history query = .ok payload ∧
      payload.uniqueIdentifiers = (L.drop (position query.offset)).take query.pageSize ∧ mode.Reports L payload

/-- The answer to `Locate(offset, pageSize)` is `L[offset, offset + pageSize)`. -/
def HonoursOffsets (server : LocateServer Id) (L : List Id) (mode : LocatedItemsMode) : Prop :=
  Serves server L mode fun offset => offset

/-- The answer to `Locate(offset, pageSize)` is `L[0, pageSize)`. -/
def IgnoresOffsets (server : LocateServer Id) (L : List Id) (mode : LocatedItemsMode) : Prop :=
  Serves server L mode fun _ => 0

omit [DecidableEq Id] in
/-- In every mode a usable total is the size of the list. -/
theorem LocatedItemsMode.Reports.total_eq {L : List Id} {payload : LocateResponsePayload Id}
    {mode : LocatedItemsMode} (h : mode.Reports L payload) {total : Nat}
    (htotal : locatedTotal payload.located payload.uniqueIdentifiers.length = some total) : total = L.length := by
  obtain ⟨hlocated, hlt⟩ := locatedTotal_eq_some.1 htotal
  obtain ⟨n, hitems, hn⟩ := located_eq_some hlocated
  cases mode with
  | absent =>
    rw [show payload.locatedItems = none from h] at hitems
    cases hitems
  | total =>
    obtain ⟨n', hitems', hn'⟩ := h
    rw [hitems] at hitems'
    cases hitems'
    omega
  | pageCount =>
    obtain ⟨n', hitems', hn'⟩ := h
    rw [hitems] at hitems'
    cases hitems'
    omega

/-! ## A beginning of the list -/

/-- The outcome is a beginning of `L` with its set. -/
structure Listed (L : List Id) (maxIds : Nat) (outcome : LocateOutcome Id) : Prop where
  begins : outcome.ids <+: L
  seen_eq : outcome.seen = outcome.ids.toFinset
  length_le : outcome.ids.length ≤ maxIds

section Listed

variable {L : List Id} {maxIds : Nat} {outcome : LocateOutcome Id}

theorem Listed.empty : Listed L maxIds {} := ⟨List.nil_prefix, rfl, Nat.zero_le _⟩

theorem Listed.confirm (h : Listed L maxIds outcome) (flag : Bool) :
    Listed L maxIds { outcome with confirmedComplete := flag } := ⟨h.begins, h.seen_eq, h.length_le⟩

/-- As many ids as there are, or as may be returned. -/
theorem Listed.eq_take (h : Listed L maxIds outcome)
    (henough : maxIds ≤ outcome.ids.length ∨ L.length ≤ outcome.ids.length) : outcome.ids = L.take maxIds := by
  have hids := List.prefix_iff_eq_take.1 h.begins
  rcases henough with hfull | hall
  · rw [hids, le_antisymm h.length_le hfull]
  · rw [hids, List.take_of_length_le hall, List.take_of_length_le (hall.trans h.length_le)]

/-- A slice that starts within the beginning extends it. -/
theorem Listed.merge_ids (hL : L.Nodup) (h : Listed L maxIds outcome) {j : Nat} (hj : j ≤ outcome.ids.length)
    (m : Nat) : (mergeNewIds outcome ((L.drop j).take m) maxIds).1.ids =
      L.take (min maxIds (max outcome.ids.length (j + m))) := by
  have hids := (mergeLoop_spec maxIds ((L.drop j).take m) outcome false h.seen_eq h.length_le).1
  have hbegin : outcome.ids = L.take outcome.ids.length := List.prefix_iff_eq_take.1 h.begins
  calc (mergeNewIds outcome ((L.drop j).take m) maxIds).1.ids
      = (outcome.ids.appendNew ((L.drop j).take m)).take maxIds := hids
    _ = ((L.take outcome.ids.length).appendNew ((L.drop j).take m)).take maxIds := by rw [← hbegin]
    _ = (L.take (max outcome.ids.length (j + m))).take maxIds := by rw [List.appendNew_slice hL hj]
    _ = L.take (min maxIds (max outcome.ids.length (j + m))) := List.take_take

theorem Listed.merge (hL : L.Nodup) (h : Listed L maxIds outcome) {j : Nat} (hj : j ≤ outcome.ids.length) (m : Nat) :
    Listed L maxIds (mergeNewIds outcome ((L.drop j).take m) maxIds).1 := by
  obtain ⟨hids, hseen, -⟩ := mergeLoop_spec maxIds ((L.drop j).take m) outcome false h.seen_eq h.length_le
  refine ⟨?_, hseen.trans (congrArg List.toFinset hids.symm), ?_⟩
  · rw [h.merge_ids hL hj]
    exact List.take_prefix _ _
  · rw [mergeNewIds, hids]
    exact List.length_take_le maxIds _

theorem Listed.merge_length (hL : L.Nodup) (h : Listed L maxIds outcome) {j : Nat} (hj : j ≤ outcome.ids.length)
    (m : Nat) : (mergeNewIds outcome ((L.drop j).take m) maxIds).1.ids.length =
      min (min maxIds (max outcome.ids.length (j + m))) L.length := by
  rw [h.merge_ids hL hj, List.length_take]

end Listed

/-! ## Pages -/

section Pages

variable {server : LocateServer Id} {L : List Id} {mode : LocatedItemsMode} {position : Nat → Nat}

omit [DecidableEq Id] in
/-- Every request that can be sent is answered with its slice. -/
theorem Serves.locatePage (hserver : Serves server L mode position) (filter : LocateFilter)
    {offset pageSize maxResponseSize : Nat} (hoffset : offset ≤ int32Max) (hpos : 0 < pageSize)
    (hsize : pageSize ≤ int32Max) (hresponse : maxResponseSize ≤ kmipMaxMessageHardLimit) :
    Triple (fun _ => True) (locatePage server filter offset pageSize maxResponseSize)
      (fun page _ => page.1 = (L.drop (position offset)).take pageSize ∧
        ∀ total, locatedTotal page.2 page.1.length = some total → total = L.length)
      (fun _ _ => False) := by
  constructor
  intro history _
  obtain ⟨payload, hanswer, hids, hreports⟩ :=
    hserver history ⟨filter, offset, pageSize, maxResponseSize⟩ hoffset hsize
  rw [locatePage_ok server filter hpos (hresponse.trans (by decide)) hsize hoffset hanswer]
  exact ⟨hids, fun total htotal => hreports.total_eq htotal⟩

end Pages

/-! ## Paging -/

/-- The paging variables after some pages: a beginning of `L`, and a total only if it is the size of `L`. -/
structure Begun (L : List Id) (maxIds : Nat) (paging : Paging Id) : Prop where
  listed : Listed L maxIds paging.outcome
  total_eq : ∀ total ∈ paging.knownTotal, total = L.length

/-- The invariant of the paging loop: the offset is where the beginning ends, and every batch so far was a full page. -/
structure Reading (L : List Id) (maxIds batches : Nat) (paging : Paging Id) : Prop extends Begun L maxIds paging where
  offset_eq : paging.offset = paging.outcome.ids.length
  length_eq : paging.outcome.ids.length + maxItemsInBatch * batches = maxItemsInBatch * maxBatchesInSearch

section Paging

variable {L : List Id} {maxIds batches : Nat} {paging : Paging Id} {located : Option Nat} {j : Nat}

theorem Reading.start : Reading L maxIds maxBatchesInSearch {} := ⟨⟨Listed.empty, nofun⟩, rfl, Nat.zero_add _⟩

variable {got : List Id} {m : Nat}

theorem Begun.after (hL : L.Nodup) (h : Begun L maxIds paging) (hj : j ≤ paging.outcome.ids.length)
    (hgot : got = (L.drop j).take m)
    (hlocated : ∀ total, locatedTotal located got.length = some total → total = L.length) :
    Begun L maxIds (paging.after maxIds got located) := by
  subst hgot
  exact ⟨h.listed.merge hL hj m, fun total htotal => total_or_eq h.total_eq hlocated htotal⟩

/-- What a page does that starts within the beginning. If it starts right after it, paging does not stall. -/
theorem Reading.step (hL : L.Nodup) (hmax : maxIds < 2 ^ 31) (h : Reading L maxIds (batches + 1) paging)
    (hroom : paging.outcome.ids.length < maxIds) (hj : j ≤ paging.outcome.ids.length)
    (hgot : got = (L.drop j).take (pagingPageSize maxIds paging))
    (hlocated : ∀ total, locatedTotal located got.length = some total → total = L.length) :
    match pagingStep maxIds (pagingPageSize maxIds paging) paging got located with
    | .done paging' .finished => Begun L maxIds paging' ∧ paging'.outcome.ids = L.take maxIds
    | .done paging' .stalled => Begun L maxIds paging' ∧ j < paging.outcome.ids.length
    | .done _ .exhausted => False
    | .next paging' => Reading L maxIds batches paging' := by
  have hbegun := h.toBegun.after hL hj hgot hlocated
  have hsize : pagingPageSize maxIds paging = min (maxIds - paging.outcome.ids.length) 256 := pagingPageSize_eq hroom
  -- the page fits into the room that is left
  have hlen : (paging.after maxIds got located).outcome.ids.length =
      min (max paging.outcome.ids.length (j + pagingPageSize maxIds paging)) L.length := by
    have hfits : max paging.outcome.ids.length (j + pagingPageSize maxIds paging) ≤ maxIds := by omega
    have hlen := h.listed.merge_length hL hj (pagingPageSize maxIds paging)
    rwa [← hgot, Nat.min_eq_right hfits] at hlen
  have hcount : got.length = min (pagingPageSize maxIds paging) (L.length - j) := by
    rw [hgot, List.length_take, List.length_drop]
  have hoffset : (paging.after maxIds got located).offset = paging.outcome.ids.length + got.length := by
    rw [← h.offset_eq]
    refine sizeAdd_of_lt ?_
    rw [h.offset_eq]
    omega
  have hmove := pagingStep_move maxIds (pagingPageSize maxIds paging) got located paging
  generalize pagingStep maxIds (pagingPageSize maxIds paging) paging got located = step at hmove ⊢
  cases hmove with
  | ended hempty =>
    -- the page starts at the end of the list
    rw [hempty, List.length_nil] at hcount
    exact ⟨h.toBegun, h.listed.eq_take (.inr (by omega))⟩
  | missing hempty total htotal hlt =>
    rw [hempty, List.length_nil] at hcount
    have := h.total_eq total htotal
    omega
  | reached _ total htotal hle =>
    have := hbegun.total_eq total htotal
    exact ⟨⟨hbegun.listed.confirm true, hbegun.total_eq⟩, hbegun.listed.eq_take (.inr (by omega))⟩
  | full _ hfull => exact ⟨hbegun, hbegun.listed.eq_take (.inl hfull)⟩
  | repeats _ _ hrepeat =>
    -- right after the beginning all ids of the page would be new
    exact ⟨hbegun, by omega⟩
  | overrun _ _ hnew total htotal hlt hle =>
    have := hbegun.total_eq total htotal
    omega
  | short _ _ hnew hshort =>
    exact ⟨⟨hbegun.listed.confirm _, hbegun.total_eq⟩, hbegun.listed.eq_take (.inr (by omega))⟩
  | next hne hroom' hnew htotal hgoes =>
    have hpos := List.length_pos_iff.2 hne
    have hfull : pagingPageSize maxIds paging ≤ got.length := by
      rcases hgoes with hfull | hsome
      · exact hfull
      · obtain ⟨total, hknown⟩ := Option.ne_none_iff_exists'.1 hsome
        have hlt := htotal total hknown
        have := hbegun.total_eq total hknown
        omega
    have hpage : got.length = pagingPageSize maxIds paging :=
      le_antisymm (hcount.trans_le (Nat.min_le_left _ _)) hfull
    have hgrown : (paging.after maxIds got located).outcome.ids.length = paging.outcome.ids.length + got.length := by
      clear hsize
      omega
    have hlength := h.length_eq
    refine ⟨hbegun, hoffset.trans hgrown.symm, ?_⟩
    rw [hgrown]
    clear hlen hcount
    simp only [maxItemsInBatch, maxBatchesInSearch] at hlength ⊢
    omega

end Paging

/-! ## The fallback -/

section Fallback

variable {L : List Id} {maxIds fuel pageSize : Nat} {outcome : LocateOutcome Id}

/-- The invariant of the fallback loop: the next page covers the beginning, and the iterations that are left suffice. -/
structure Covers (L : List Id) (maxIds fuel pageSize : Nat) (outcome : LocateOutcome Id) : Prop where
  listed : Listed L maxIds outcome
  covers : outcome.ids.length ≤ pageSize
  le : pageSize ≤ maxIds
  reaches : Reaches maxIds fuel pageSize

theorem Covers.start (hmax : 0 < maxIds) (hsize : maxIds < 2 ^ 64) (h : Listed L maxIds outcome) :
    Covers L maxIds (maxIds.log2 + 2) (fallbackPageSize maxIds outcome.ids.length) outcome := by
  refine ⟨h, ?_, fallbackPageSize_le _, ?_⟩
  · have := h.length_le
    rw [fallbackPageSize_eq hsize]
    split <;> omega
  · exact reaches_fallbackPageSize hmax _

/-- A page that covers the beginning holds all its ids. -/
theorem Listed.card_known (hL : L.Nodup) (h : Listed L maxIds outcome) (hcovers : outcome.ids.length ≤ pageSize) :
    ((L.take pageSize).toFinset.filter (· ∈ outcome.seen)).card = outcome.ids.length := by
  have hids : outcome.ids = L.take outcome.ids.length := List.prefix_iff_eq_take.1 h.begins
  have hsubset : outcome.ids ⊆ L.take pageSize := by
    rw [hids]
    exact List.take_subset_take_left L hcovers
  have hfilter : (L.take pageSize).toFinset.filter (· ∈ outcome.seen) = outcome.ids.toFinset := by
    ext id
    rw [Finset.mem_filter, h.seen_eq, List.mem_toFinset, List.mem_toFinset]
    exact ⟨fun hid => hid.2, fun hid => ⟨hsubset hid, hid⟩⟩
  rw [hfilter, List.toFinset_card_of_nodup (hL.sublist h.begins.sublist)]

/-- What a page from the start of `L` does: it settles the search, or the next page covers it. -/
theorem Covers.step (hL : L.Nodup) (hsize : maxIds < 2 ^ 64) (h : Covers L maxIds (fuel + 1) pageSize outcome)
    {got : List Id} (hgot : got = L.take pageSize) {located knownTotal : Option Nat}
    (hlocated : ∀ total, locatedTotal located got.length = some total → total = L.length)
    (hknown : ∀ total ∈ knownTotal, total = L.length) :
    match fallbackStep maxIds pageSize knownTotal outcome got located with
    | .done outcome' => Listed L maxIds outcome' ∧ outcome'.ids = L.take maxIds
    | .fail _ => False
    | .retry outcome' => Covers L maxIds fuel (nextPageSize maxIds pageSize) outcome' := by
  obtain ⟨hlisted, hcovers, hle, hreaches⟩ := h
  have hmerged : Listed L maxIds (mergeNewIds outcome got maxIds).1 := by
    rw [hgot]
    exact hlisted.merge hL (Nat.zero_le _) pageSize
  have hlen : (mergeNewIds outcome got maxIds).1.ids.length = min pageSize L.length := by
    have hlen := hlisted.merge_length hL (Nat.zero_le _) pageSize
    rw [List.drop_zero, Nat.zero_add, ← hgot] at hlen
    omega
  have hcount : got.length = min pageSize L.length := by rw [hgot, List.length_take]
  have htotal : ∀ total, (locatedTotal located got.length).or knownTotal = some total → total = L.length :=
    fun _ => total_or_eq hknown hlocated
  have hmove := fallbackStep_move maxIds pageSize got located knownTotal outcome
  generalize fallbackStep maxIds pageSize knownTotal outcome got located = step at hmove ⊢
  cases hmove with
  | full hfull => exact ⟨hmerged, hmerged.eq_take (.inl hfull)⟩
  | reached _ total hsome hreached =>
    have := htotal total hsome
    exact ⟨hmerged.confirm true, hmerged.eq_take (.inr (by omega))⟩
  | short _ hshort => exact ⟨hmerged.confirm true, hmerged.eq_take (.inr (by omega))⟩
  | omits _ homits =>
    -- the ids that are known are a beginning of the page
    rw [hgot, hlisted.card_known hL hcovers] at homits
    exact Nat.lt_irrefl _ homits
  | fewer hshort total hsome hlt =>
    have := htotal total hsome
    omega
  | repeats hroom hfull hlast => omega
  | retry _ _ hlt =>
    have hgrows := lt_nextPageSize hsize hreaches.2.1 hlt
    refine ⟨hmerged, by omega, ?_, hreaches.next hsize hlt⟩
    rw [nextPageSize_eq hsize]
    exact Nat.min_le_right _ _

end Fallback

/-! ## Searches -/

section Searches

variable {server : LocateServer Id} {L : List Id} {mode : LocatedItemsMode} {position : Nat → Nat} {maxIds : Nat}
  (hserver : Serves server L mode position) (hposition : ∀ offset, position offset ≤ offset) (hL : L.Nodup)
  (hmax : 0 < maxIds) (hsize : maxIds < 2 ^ 31) (filter : LocateFilter)

include hserver hposition hL hsize

/-- The paging loop: if it stalls, the server has answered with another position than the offset. -/
theorem Serves.pagingLoop :
    Triple (fun _ => True) (pagingLoop server filter maxIds maxBatchesInSearch {})
      (fun r _ => Begun L maxIds r.1 ∧ (r.2 = .finished → r.1.outcome.ids = L.take maxIds) ∧
        (r.2 = .stalled → ∃ offset, position offset < offset) ∧
        (r.2 = .exhausted → maxIds ≤ r.1.outcome.ids.length ∨ r.1.outcome.ids.length = 65536))
      (fun _ _ => False) := by
  refine (pagingLoop_triple server filter maxIds (I := fun batches paging _ => Reading L maxIds batches paging)
    ?_ ?_ _ _).conseq (fun _ _ => Reading.start) (fun _ _ h => h) (fun _ _ h => h)
  · rintro batches paging _ hend h
    refine ⟨h.toBegun, nofun, nofun, fun _ => hend.symm.imp_right ?_⟩
    rintro rfl
    exact h.length_eq
  · intro batches paging hroom
    refine triple_of_pre (fun _ h => h) fun h => ?_
    have hpage := pagingPageSize_eq hroom
    have hpos := pagingPageSize_pos hroom
    refine (hserver.locatePage filter (by rw [h.offset_eq]; unfold int32Max; omega) hpos
      (by unfold int32Max; omega) (by decide)).conseq (fun _ _ => trivial) ?_ (fun _ _ h => h)
    rintro ⟨got, located⟩ _ ⟨hgot, hlocated⟩
    have hj : position paging.offset ≤ paging.outcome.ids.length := (hposition _).trans_eq h.offset_eq
    have hstep := h.step hL hsize hroom hj hgot hlocated
    dsimp only
    cases hmove : pagingStep maxIds (pagingPageSize maxIds paging) paging got located with
    | done paging' exit =>
      rw [hmove] at hstep
      cases exit with
      | finished => exact ⟨hstep.1, fun _ => hstep.2, nofun, nofun⟩
      | stalled => exact ⟨hstep.1, nofun, fun _ => ⟨paging.offset, hstep.2.trans_eq h.offset_eq.symm⟩, nofun⟩
      | exhausted => exact hstep.elim
    | next paging' =>
      rw [hmove] at hstep
      exact hstep

/-- Paging ends with the listing, or it goes over to the fallback: because the server answers with another position, or
because there are more ids than the batches hold. -/
theorem Serves.pagingPhase :
    Triple (fun _ => True) (pagingPhase server filter maxIds)
      (fun r _ => Begun L maxIds r.1 ∧
        if r.2 then (∃ offset, position offset < offset) ∨ 65536 < maxIds ∧ 65536 ≤ L.length
        else r.1.outcome.ids = L.take maxIds)
      (fun _ _ => False) := by
  refine pagingPhase_triple server filter maxIds
    ((hserver.pagingLoop hposition hL hsize filter).conseq (fun _ h => h) ?_ (fun _ _ h => h))
  rintro ⟨paging, exit⟩ _ ⟨hbegun, hfinished, hstalled, hexhausted⟩
  cases exit with
  | finished => exact ⟨hbegun, hfinished rfl⟩
  | stalled => exact ⟨hbegun, .inl (hstalled rfl)⟩
  | exhausted =>
    refine ⟨hbegun, ?_⟩
    have hexit := hexhausted rfl
    dsimp only at hbegun hexit ⊢
    split
    case isTrue hroom =>
      have hroom : paging.outcome.ids.length < maxIds := of_decide_eq_true hroom
      have hle := hbegun.listed.begins.length_le
      exact .inr ⟨by omega, by omega⟩
    case isFalse hfull => exact hbegun.listed.eq_take (.inl (by simpa using hfull))

include hmax

/-- The fallback ends with the listing, from any beginning. -/
theorem Serves.fallbackPhase (paging : Paging Id) :
    Triple (fun _ => Begun L maxIds paging) (fallbackPhase server filter maxIds paging)
      (fun outcome _ => Listed L maxIds outcome ∧ outcome.ids = L.take maxIds) (fun _ _ => False) := by
  refine triple_of_pre (fun _ h => h) fun hbegun => ?_
  have hsize' : maxIds < 2 ^ 64 := by omega
  have hzero : position 0 = 0 := Nat.le_zero.1 (hposition 0)
  refine (fallbackLoop_triple server filter maxIds
    (I := fun fuel pageSize outcome _ => Covers L maxIds fuel pageSize outcome) ?_ ?_ _ _ _).conseq
    (fun _ _ => Covers.start hmax hsize' hbegun.listed) (fun _ _ h => h) (fun _ _ h => h)
  · intro _ _ _ h
    exact Nat.lt_irrefl 0 h.reaches.1
  · intro fuel pageSize outcome
    refine triple_of_pre (fun _ h => h) fun h => ?_
    refine (hserver.locatePage filter (Nat.zero_le _) h.reaches.2.1 (h.le.trans (by unfold int32Max; omega))
      (locateResponseSizeLimit_le _)).conseq (fun _ _ => trivial) ?_ (fun _ _ h => h)
    rintro ⟨got, located⟩ _ ⟨hgot, hlocated⟩
    rw [hzero, List.drop_zero] at hgot
    exact h.step hL hsize' hgot hlocated hbegun.total_eq

/-- **The search returns the first `maxIds` ids.** -/
theorem Serves.locateAll :
    Triple (fun _ => True) (locateAll server filter maxIds)
      (fun outcome _ => Listed L maxIds outcome ∧ outcome.ids = L.take maxIds) (fun _ _ => False) := by
  refine locateAll_triple server filter maxIds hmax (J := fun paging _ => Begun L maxIds paging)
    ((hserver.pagingPhase hposition hL hsize filter).conseq (fun _ h => h) ?_ (fun _ _ h => h))
    (hserver.fallbackPhase hposition hL hmax hsize filter)
  rintro ⟨paging, stalled⟩ _ ⟨hbegun, h⟩
  cases stalled with
  | false => exact ⟨hbegun.listed, h⟩
  | true => exact hbegun

end Searches

/-! ## Probing -/

section Probing

variable {server : LocateServer Id} {L : List Id} {mode : LocatedItemsMode} {position : Nat → Nat} {maxIds : Nat}

/-- The outcome is all of `L` with its set. -/
def Whole (L : List Id) (outcome : LocateOutcome Id) : Prop := outcome.ids = L ∧ outcome.seen = L.toFinset

/-- Once the list is whole, a page of its ids adds nothing. -/
theorem Whole.merge {outcome : LocateOutcome Id} (h : Whole L outcome) (hle : L.length ≤ maxIds) {page : List Id}
    (hpage : page ⊆ L) : Whole L (mergeNewIds outcome page maxIds).1 := by
  obtain ⟨hids, hseen⟩ := h
  subst hids
  obtain ⟨hids', hseen', -⟩ := mergeLoop_spec maxIds page outcome false hseen hle
  rw [List.appendNew_of_subset hpage, List.take_of_length_le hle] at hids' hseen'
  exact ⟨hids', hseen'⟩

variable (hserver : Serves server L mode position) (hle : L.length ≤ maxIds) (filter : LocateFilter)

include hserver hle

/-- A pass adds nothing. Its offsets stay within the batches. -/
theorem Serves.probeLoop {probePageSize : Nat} (hpos : 0 < probePageSize) (hpage : probePageSize ≤ 256)
    (outcome : LocateOutcome Id) :
    Triple (fun _ => Whole L outcome)
      (probeLoop server filter maxIds probePageSize maxBatchesInSearch { outcome := outcome })
      (fun outcome' _ => Whole L outcome') (fun _ _ => False) := by
  refine (probeLoop_triple server filter maxIds (I := fun batches probing _ => Whole L probing.outcome ∧
    probing.offset + 256 * batches ≤ 256 * maxBatchesInSearch) (fun _ _ _ h => h.1) ?_ _ _).conseq
    (fun _ h => ⟨h, (Nat.zero_add _).le⟩) (fun _ _ h => h) (fun _ _ h => h)
  intro batches probing _
  refine triple_of_pre (fun _ h => h) ?_
  rintro ⟨hwhole, hoffset⟩
  unfold maxBatchesInSearch at hoffset
  refine (hserver.locatePage filter (by unfold int32Max; omega) hpos (by unfold int32Max; omega)
    (by decide)).conseq (fun _ _ => trivial) ?_ (fun _ _ h => h)
  rintro ⟨got, located⟩ _ ⟨hgot, -⟩
  have hmerge : Whole L (mergeNewIds probing.outcome got maxIds).1 := by
    refine hwhole.merge hle ?_
    rw [show got = _ from hgot]
    exact fun _ hid => List.mem_of_mem_drop (List.mem_of_mem_take hid)
  have hmove := probeStep_move maxIds probePageSize got located probing
  dsimp only
  generalize probeStep maxIds probePageSize probing got located = step at hmove ⊢
  cases hmove with
  | ended => exact hmerge
  | next =>
    refine ⟨hmerge, ?_⟩
    dsimp only
    rw [sizeAdd_of_lt (by omega)]
    unfold maxBatchesInSearch
    omega

theorem Serves.probeAll (oType : UInt32) (outcome : LocateOutcome Id) :
    Triple (fun _ => Whole L outcome) (probeAll server oType maxIds outcome) (fun outcome' _ => Whole L outcome')
      (fun _ _ => False) := by
  refine (probePasses_triple server (typeFilter oType) maxIds (I := fun sizes outcome _ =>
    (∀ size ∈ sizes, 0 < size ∧ size ≤ 256) ∧ Whole L outcome) (fun _ _ _ h => h.2) ?_ _ _).conseq
    (fun _ h => ⟨by decide, h⟩) (fun _ _ h => h) (fun _ _ h => h)
  intro size sizes outcome
  refine triple_of_pre (fun _ h => h.1) fun hsizes => ?_
  obtain ⟨⟨hpos, hpage⟩, hrest⟩ := List.forall_mem_cons.1 hsizes
  exact (hserver.probeLoop hle (typeFilter oType) hpos hpage outcome).conseq (fun _ h => h.2)
    (fun _ _ h => ⟨hrest, h⟩) (fun _ _ h => h)

end Probing

/-- `op_all` returns what the search returns: the passes add nothing to a whole list. -/
theorem Serves.opAll {server : LocateServer Id} {L : List Id} {mode : LocatedItemsMode} {position : Nat → Nat}
    {maxIds : Nat} (hserver : Serves server L mode position) (hposition : ∀ offset, position offset ≤ offset)
    (hL : L.Nodup) (hmax : 0 < maxIds) (hsize : maxIds < 2 ^ 31) (oType : UInt32) :
    Triple (fun _ => True) (opAll server oType maxIds) (fun ids _ => ids = L.take maxIds) (fun _ _ => False) := by
  refine opAll_triple server maxIds hmax (hserver.locateAll hposition hL hmax hsize (typeFilter oType))
    (fun _ _ h => h.2) fun outcome hroom _ => ?_
  refine triple_of_pre (fun _ h => h) ?_
  rintro ⟨hlisted, hids⟩
  have hle : L.length ≤ maxIds := by
    rw [hids, List.length_take] at hroom
    omega
  rw [List.take_of_length_le hle] at hids ⊢
  refine (hserver.probeAll hle oType outcome).conseq (fun _ _ => ⟨hids, ?_⟩) (fun _ _ h => h.1) (fun _ _ h => h)
  rw [hlisted.seen_eq, hids]

/-! ## Exact listings -/

/-- A search whose paging does not stall sends no further request. -/
theorem locateAll_of_pagingPhase {σ : Type} {page : Pages.Page σ Id} {filter : LocateFilter} {maxIds : Nat}
    (hmax : 0 < maxIds) {paging : Paging Id} {s s' : σ}
    (h : Pages.pagingPhase page filter maxIds s = .ok (paging, false) s') :
    Pages.locateAll page filter maxIds s = .ok paging.outcome s' := by
  unfold Pages.locateAll
  rw [if_neg hmax.ne']
  exact bind_ok h

/-- **A server that honours offsets.** The search returns the first `maxIds` ids of its list, by paging alone when they
fit into the batches, and `opAll` returns the same. -/
theorem locate_honoursOffsets (server : LocateServer Id) (L : List Id) (mode : LocatedItemsMode)
    (filter : LocateFilter) (oType : UInt32) (maxIds : Nat) (history : List (LocateExchange Id)) (hL : L.Nodup)
    (hmax : 0 < maxIds) (hsize : maxIds < 2 ^ 31) (hserver : HonoursOffsets server L mode) :
    (∃ outcome history', locateAll server filter maxIds history = .ok outcome history' ∧
      outcome.ids = L.take (min maxIds L.length) ∧
      (maxIds ≤ 65536 ∨ L.length < 65536 →
        ∃ paging, pagingPhase server filter maxIds history = .ok (paging, false) history')) ∧
    ∃ history', opAll server oType maxIds history = .ok (L.take (min maxIds L.length)) history' := by
  have hposition : ∀ offset : Nat, offset ≤ offset := Nat.le_refl
  rw [← List.take_eq_take_min]
  constructor
  · obtain ⟨outcome, history', hsearch, -, hids⟩ :=
      (hserver.locateAll hposition hL hmax hsize filter).returns (s := history) trivial
    refine ⟨outcome, history', hsearch, hids, fun hfits => ?_⟩
    obtain ⟨⟨paging, stalled⟩, history₁, hpaging, -, hexit⟩ :=
      (hserver.pagingPhase hposition hL hsize filter).returns (s := history) trivial
    cases stalled with
    | false =>
      have hsame := hsearch.symm.trans (locateAll_of_pagingPhase hmax hpaging)
      cases hsame
      exact ⟨paging, hpaging⟩
    | true =>
      rcases hexit with ⟨offset, hlt⟩ | ⟨hids, hmany⟩
      · exact absurd hlt (Nat.lt_irrefl offset)
      · omega
  · obtain ⟨ids, history', hall, rfl⟩ := (hserver.opAll hposition hL hmax hsize oType).returns (s := history) trivial
    exact ⟨history', hall⟩

/-- A server with the ids below 600 that reports their number. -/
def honouringServer : LocateServer Nat := fun _ query =>
  .ok ⟨((List.range 600).drop query.offset).take query.pageSize, some 600⟩

theorem locate_honoursOffsets_range :
    (∃ outcome history', locateAll honouringServer (typeFilter 2) 500 [] = .ok outcome history' ∧
      outcome.ids = List.range 500) ∧
    ∃ history', opAll honouringServer 2 500 [] = .ok (List.range 500) history' := by
  have hserver : HonoursOffsets honouringServer (List.range 600) .total := fun _ _ _ _ =>
    ⟨_, rfl, rfl, 600, rfl, by rw [List.length_range]; decide⟩
  have h := locate_honoursOffsets honouringServer (List.range 600) .total (typeFilter 2) 2 500 [] List.nodup_range
    (by decide) (by decide) hserver
  rw [List.length_range, List.take_range] at h
  obtain ⟨⟨outcome, history', hsearch, hids, -⟩, hall⟩ := h
  exact ⟨⟨outcome, history', hsearch, hids⟩, hall⟩

/-- **A server that ignores offsets.** The search returns the first `maxIds` ids of its list. -/
theorem locate_ignoresOffsets (server : LocateServer Id) (L : List Id) (mode : LocatedItemsMode)
    (filter : LocateFilter) (maxIds : Nat) (history : List (LocateExchange Id)) (hL : L.Nodup) (hmax : 0 < maxIds)
    (hsize : maxIds < 2 ^ 31) (hserver : IgnoresOffsets server L mode) :
    ∃ outcome history', locateAll server filter maxIds history = .ok outcome history' ∧
      outcome.ids = L.take (min maxIds L.length) := by
  obtain ⟨outcome, history', hsearch, -, hids⟩ :=
    (hserver.locateAll Nat.zero_le hL hmax hsize filter).returns (s := history) trivial
  exact ⟨outcome, history', hsearch, hids.trans List.take_eq_take_min⟩

/-- A server with the ids below 300 that answers every request from the first id on. -/
def ignoringServer : LocateServer Nat := fun _ query => .ok ⟨(List.range 300).take query.pageSize, none⟩

theorem locate_ignoresOffsets_range :
    ∃ outcome history', locateAll ignoringServer (typeFilter 2) 1000 [] = .ok outcome history' ∧
      outcome.ids = List.range 300 := by
  have hserver : IgnoresOffsets ignoringServer (List.range 300) .absent := fun _ _ _ _ => ⟨_, rfl, rfl, rfl⟩
  have h := locate_ignoresOffsets ignoringServer (List.range 300) .absent (typeFilter 2) 1000 [] List.nodup_range
    (by decide) (by decide) hserver
  rwa [List.length_range, List.take_range] at h

end Kmip.Client
