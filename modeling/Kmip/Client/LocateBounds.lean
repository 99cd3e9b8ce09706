import Kmip.Client.LocateRules

/-!
# How many requests a search sends

Every page of the first phase that does not end it has a new id, and the pages of the fallback double until they reach
`maxIds`. So a search sends a bounded number of requests, whatever the server answers (`locate_requests`), and none of
the computations with sizes wraps around.
-/

namespace Kmip.Client

open Hoare

variable {Id : Type} [DecidableEq Id]

/-! ## Sizes -/

section Sizes

variable {maxIds : Nat}

theorem sizeMul_of_lt {a b : Nat} (h : a * b < 2 ^ 64) : sizeMul a b = a * b := Nat.mod_eq_of_lt h

/-- The first page of the fallback, without overflow. -/
theorem fallbackPageSize_eq (hsize : maxIds < 2 ^ 64) (known : Nat) :
    fallbackPageSize maxIds known =
      min (if known > maxIds / 2 then maxIds else max (maxItemsInBatch * 2) (known * 2)) maxIds := by
  unfold fallbackPageSize
  split
  · rfl
  · rw [sizeMul_of_lt (by decide), sizeMul_of_lt (by omega)]

theorem fallbackPageSize_le (known : Nat) : fallbackPageSize maxIds known ≤ maxIds := Nat.min_le_right _ _

/-- The pages of the fallback grow until they reach `maxIds`. -/
theorem lt_nextPageSize (hsize : maxIds < 2 ^ 64) {pageSize : Nat} (hpos : 0 < pageSize) (hlt : pageSize < maxIds) :
    pageSize < nextPageSize maxIds pageSize := by
  rw [nextPageSize_eq hsize]
  omega

theorem mul_locateResponseBytesPerId_le {pageSize : Nat}
    (h : ¬pageSize > kmipMaxMessageHardLimit / locateResponseBytesPerId) :
    pageSize * locateResponseBytesPerId ≤ kmipMaxMessageHardLimit :=
  (Nat.le_div_iff_mul_le (by decide)).1 (Nat.le_of_not_gt h)

/-- The limit of a response, without overflow. -/
theorem locateResponseSizeLimit_eq (pageSize : Nat) :
    locateResponseSizeLimit pageSize =
      if pageSize > kmipMaxMessageHardLimit / locateResponseBytesPerId then kmipMaxMessageHardLimit
      else max (pageSize * locateResponseBytesPerId) defaultMaxResponseSize := by
  unfold locateResponseSizeLimit
  split
  · rfl
  · rename_i hle
    rw [sizeMul_of_lt ((mul_locateResponseBytesPerId_le hle).trans_lt (by decide))]

theorem le_locateResponseSizeLimit (pageSize : Nat) : kmipMaxMessageSize ≤ locateResponseSizeLimit pageSize := by
  rw [locateResponseSizeLimit_eq]
  split
  · decide
  · exact Nat.le_max_right _ _

theorem locateResponseSizeLimit_le (pageSize : Nat) : locateResponseSizeLimit pageSize ≤ kmipMaxMessageHardLimit := by
  rw [locateResponseSizeLimit_eq]
  split
  · exact le_rfl
  · rename_i hle
    exact max_le (mul_locateResponseBytesPerId_le hle) (by decide)

end Sizes

/-! ## Requests -/

section Requests

variable (server : LocateServer Id) (filter : LocateFilter) {maxIds : Nat} (start : List (LocateExchange Id))

omit [DecidableEq Id] in
/-- A page takes at most one request, and it does not run forever. -/
theorem locatePage_request {offset pageSize maxResponseSize : Nat} {P R : List (LocateExchange Id) → Prop}
    (hnone : ∀ history, P history → R history)
    (hsent : ∀ history answer, P history → R (history ++ [⟨⟨filter, offset, pageSize, maxResponseSize⟩, answer⟩])) :
    Triple P (locatePage server filter offset pageSize maxResponseSize) (fun _ => R)
      (fun e history => e ≠ .diverged ∧ R history) := by
  refine locatePage_triple server filter ?_ ?_ ?_ ?_
  · exact fun _ history h => hnone history h
  · exact fun history _ h _ => hsent history _ h
  · exact fun history _ h => ⟨nofun, hnone history h⟩
  · exact fun history _ h _ => ⟨nofun, hsent history _ h⟩

/-- At most `n` requests were sent since `start`. -/
def Sent (n : Nat) (history : List (LocateExchange Id)) : Prop :=
  ∃ sent, history = start ++ sent ∧ sent.length ≤ n

variable {start}

omit [DecidableEq Id] in
theorem Sent.mono {m n : Nat} {history : List (LocateExchange Id)} (h : Sent start m history) (hle : m ≤ n) :
    Sent start n history := by
  obtain ⟨sent, hhistory, hlen⟩ := h
  exact ⟨sent, hhistory, hlen.trans hle⟩

omit [DecidableEq Id] in
theorem Sent.one_more {n : Nat} {history : List (LocateExchange Id)} (h : Sent start n history)
    (x : LocateExchange Id) : Sent start (n + 1) (history ++ [x]) := by
  obtain ⟨sent, rfl, hlen⟩ := h
  refine ⟨sent ++ [x], List.append_assoc _ _ _, ?_⟩
  rw [List.length_append, List.length_singleton]
  omega

variable (start)

/-- The first phase sends at most one request for each batch, and at most one for each id. -/
theorem pagingPhase_requests :
    Triple (fun history => history = start) (pagingPhase server filter maxIds)
      (fun _ => Sent start (min maxBatchesInSearch maxIds)) (fun _ => Sent start (min maxBatchesInSearch maxIds)) := by
  -- after `n` pages there are at least `n` ids
  refine pagingPhase_triple server filter maxIds ((pagingLoop_triple server filter maxIds
    (I := fun batches paging history => ∃ n, n + batches = maxBatchesInSearch ∧ n ≤ maxIds ∧
      n ≤ paging.outcome.ids.length ∧ Sent start n history)
    (Q := fun _ => Sent start (min maxBatchesInSearch maxIds)) ?_ ?_ _ _).conseq ?_ ?_ (fun _ _ h => h))
  · rintro batches paging history - ⟨n, hn, hle, -, hsent⟩
    exact hsent.mono (by omega)
  · intro batches paging hroom
    refine (locatePage_request server filter (R := fun history => ∃ n, n + batches = maxBatchesInSearch ∧
      n ≤ maxIds ∧ n ≤ paging.outcome.ids.length + 1 ∧ Sent start n history) ?_ ?_).conseq (fun _ h => h) ?_ ?_
    · rintro history ⟨n, hn, hle, hids, hsent⟩
      exact ⟨n + 1, by omega, by omega, by omega, hsent.mono (Nat.le_succ n)⟩
    · rintro history answer ⟨n, hn, hle, hids, hsent⟩
      exact ⟨n + 1, by omega, by omega, by omega, hsent.one_more _⟩
    · rintro ⟨got, located⟩ history ⟨n, hn, hle, hids, hsent⟩
      have hmove := pagingStep_move maxIds (pagingPageSize maxIds paging) got located paging
      dsimp only
      generalize pagingStep maxIds (pagingPageSize maxIds paging) paging got located = step at hmove ⊢
      cases hmove with
      | next hgot _ hnew =>
        -- the page has an id, and all its ids are new
        have hpos := List.length_pos_iff.2 hgot
        exact ⟨n, hn, hle, by omega, hsent⟩
      | _ => exact hsent.mono (by omega)
    · rintro e history ⟨-, n, hn, hle, -, hsent⟩
      exact hsent.mono (by omega)
  · rintro _ rfl
    exact ⟨0, Nat.zero_add _, Nat.zero_le _, Nat.zero_le _, [], (List.append_nil _).symm, le_rfl⟩
  · rintro ⟨paging, exit⟩ history h
    cases exit <;> exact h

/-- The requests of the fallback: at offset 0, with pages that double until they reach `maxIds`. -/
structure FallbackRequests (maxIds : Nat) (sent : List (LocateExchange Id)) : Prop where
  grows : (sent.map (·.query.pageSize)).IsChain (fun p p' => p < p' ∧ p' = min (p * 2) maxIds)
  pageSize : ∀ x ∈ sent, 0 < x.query.pageSize ∧ x.query.pageSize ≤ maxIds
  offset : ∀ x ∈ sent, x.query.offset = 0
  limit : ∀ x ∈ sent, kmipMaxMessageSize ≤ x.query.maxResponseSize ∧ x.query.maxResponseSize ≤ kmipMaxMessageHardLimit

/-- Before a page of the fallback, after `sent`. -/
structure Doubling (maxIds pageSize : Nat) (sent : List (LocateExchange Id)) : Prop where
  requests : FallbackRequests maxIds sent
  next : ∀ p ∈ (sent.map (·.query.pageSize)).getLast?, p < pageSize ∧ pageSize = min (p * 2) maxIds
  pos : 0 < pageSize
  le : pageSize ≤ maxIds
  power : min (2 ^ sent.length) maxIds ≤ pageSize
  length_le : sent.length ≤ Nat.clog 2 maxIds

namespace Doubling

variable {pageSize : Nat} {sent : List (LocateExchange Id)}

omit [DecidableEq Id]

theorem first (hmax : 0 < maxIds) (known : Nat) :
    Doubling maxIds (fallbackPageSize maxIds known) ([] : List (LocateExchange Id)) where
  requests := ⟨.nil, nofun, nofun, nofun⟩
  next := nofun
  pos := fallbackPageSize_pos hmax known
  le := fallbackPageSize_le known
  power := (Nat.min_le_left _ _).trans (fallbackPageSize_pos hmax known)
  length_le := Nat.zero_le _

/-- The request of a page. -/
theorem sends (h : Doubling maxIds pageSize sent) (answer : Except KmipException (LocateResponsePayload Id)) :
    FallbackRequests maxIds (sent ++ [⟨⟨filter, 0, pageSize, locateResponseSizeLimit pageSize⟩, answer⟩]) := by
  refine ⟨?_, ?_, ?_, ?_⟩
  · rw [List.map_append]
    exact h.requests.grows.append (.singleton _) fun p hp p' hp' => by cases hp'; exact h.next p hp
  · simp only [List.forall_mem_append, List.forall_mem_singleton]
    exact ⟨h.requests.pageSize, h.pos, h.le⟩
  · simp only [List.forall_mem_append, List.forall_mem_singleton]
    exact ⟨h.requests.offset, trivial⟩
  · simp only [List.forall_mem_append, List.forall_mem_singleton]
    exact ⟨h.requests.limit, le_locateResponseSizeLimit _, locateResponseSizeLimit_le _⟩

/-- The next page. -/
theorem retry (h : Doubling maxIds pageSize sent) (hsize : maxIds < 2 ^ 64) (hlt : pageSize < maxIds)
    (answer : Except KmipException (LocateResponsePayload Id)) :
    Doubling maxIds (nextPageSize maxIds pageSize)
      (sent ++ [⟨⟨filter, 0, pageSize, locateResponseSizeLimit pageSize⟩, answer⟩]) := by
  have hpow : 2 ^ sent.length ≤ pageSize := by
    have := h.power
    omega
  have hpos := h.pos
  refine ⟨h.sends filter answer, ?_, ?_, ?_, ?_, ?_⟩
  · intro p hp
    rw [List.map_append, List.getLast?_append] at hp
    cases hp
    exact ⟨lt_nextPageSize hsize hpos hlt, nextPageSize_eq hsize pageSize⟩
  · rw [nextPageSize_eq hsize]
    omega
  · rw [nextPageSize_eq hsize]
    exact Nat.min_le_right _ _
  · rw [nextPageSize_eq hsize, List.length_append, List.length_singleton, Nat.pow_succ]
    omega
  · rw [List.length_append, List.length_singleton, Nat.succ_le_iff, Nat.lt_clog_iff_pow_lt (by decide)]
    exact hpow.trans_lt hlt

end Doubling

/-- The fallback sends at most `⌈log₂ maxIds⌉ + 1` requests. -/
theorem fallbackPhase_requests (hmax : 0 < maxIds) (hsize : maxIds < 2 ^ 64) (paging : Paging Id) :
    Triple (fun history => history = start) (fallbackPhase server filter maxIds paging)
      (fun _ history => ∃ sent, history = start ++ sent ∧ sent.length ≤ Nat.clog 2 maxIds + 1 ∧
        FallbackRequests maxIds sent)
      (fun _ history => ∃ sent, history = start ++ sent ∧ sent.length ≤ Nat.clog 2 maxIds + 1 ∧
        FallbackRequests maxIds sent) := by
  have hunsent : ∀ {pageSize : Nat} {history : List (LocateExchange Id)},
      (∃ sent, history = start ++ sent ∧ Doubling maxIds pageSize sent) →
      ∃ sent, history = start ++ sent ∧ sent.length ≤ Nat.clog 2 maxIds + 1 ∧ FallbackRequests maxIds sent := by
    rintro pageSize history ⟨sent, rfl, h⟩
    exact ⟨sent, rfl, h.length_le.trans (Nat.le_succ _), h.requests⟩
  have hsent : ∀ {pageSize : Nat} {history : List (LocateExchange Id)} answer,
      (∃ sent, history = start ++ sent ∧ Doubling maxIds pageSize sent) →
      ∃ sent, history ++ [⟨⟨filter, 0, pageSize, locateResponseSizeLimit pageSize⟩, answer⟩] = start ++ sent ∧
        sent.length ≤ Nat.clog 2 maxIds + 1 ∧ FallbackRequests maxIds sent := by
    rintro pageSize history answer ⟨sent, rfl, h⟩
    refine ⟨_, List.append_assoc _ _ _, ?_, h.sends filter answer⟩
    rw [List.length_append, List.length_singleton]
    exact Nat.succ_le_succ h.length_le
  refine (fallbackLoop_triple server filter maxIds
    (I := fun _ pageSize _ history => ∃ sent, history = start ++ sent ∧ Doubling maxIds pageSize sent)
    (fun _ _ _ h => hunsent h) ?_ _ _ _).conseq ?_ (fun _ _ h => h) (fun _ _ h => h)
  · intro _ pageSize outcome
    refine locatePage_triple server filter ?_ ?_ (fun _ _ h => hunsent h) (fun _ _ h _ => hsent _ h)
    · rintro rfl _ ⟨sent, -, h⟩
      exact absurd h.pos (Nat.lt_irrefl 0)
    · intro history payload h _
      have hmove :=
        fallbackStep_move maxIds pageSize payload.uniqueIdentifiers payload.located paging.knownTotal outcome
      dsimp only
      generalize fallbackStep maxIds pageSize paging.knownTotal outcome payload.uniqueIdentifiers payload.located = step
        at hmove ⊢
      cases hmove with
      | retry _ _ hlt =>
        obtain ⟨sent, rfl, h⟩ := h
        exact ⟨_, List.append_assoc _ _ _, h.retry filter hsize hlt _⟩
      | _ => exact hsent _ h
  · rintro _ rfl
    exact ⟨[], (List.append_nil _).symm, .first hmax _⟩

variable {start}

/-- A pass of `probe_all` sends at most one request for each batch. -/
theorem probeLoop_requests (probePageSize n batches : Nat) (probing : Probing Id) :
    Triple (Sent start n) (probeLoop server filter maxIds probePageSize batches probing)
      (fun _ => Sent start (n + batches)) (fun e history => e ≠ .diverged ∧ Sent start (n + batches) history) := by
  refine (probeLoop_triple server filter maxIds
    (I := fun left _ history => ∃ k, k + left = n + batches ∧ Sent start k history) ?_ ?_ _ _).conseq
    (fun _ h => ⟨n, rfl, h⟩) (fun _ _ h => h) (fun _ _ h => h)
  · rintro left _ history ⟨k, hk, hsent⟩
    exact hsent.mono (by omega)
  · intro left probing _
    refine (locatePage_request server filter
      (R := fun history => ∃ k, k + left = n + batches ∧ Sent start k history) ?_ ?_).conseq (fun _ h => h) ?_ ?_
    · rintro history ⟨k, hk, hsent⟩
      exact ⟨k + 1, by omega, hsent.mono (Nat.le_succ k)⟩
    · rintro history answer ⟨k, hk, hsent⟩
      exact ⟨k + 1, by omega, hsent.one_more _⟩
    · rintro ⟨got, located⟩ history h
      obtain ⟨k, hk, hsent⟩ := h
      dsimp only
      cases probeStep maxIds probePageSize probing got located with
      | done outcome => exact hsent.mono (by omega)
      | next probing' => exact ⟨k, hk, hsent⟩
    · rintro e history ⟨he, k, hk, hsent⟩
      exact ⟨he, hsent.mono (by omega)⟩

/-- The passes send at most one request for each of their batches. -/
theorem probePasses_requests (n : Nat) (sizes : List Nat) (outcome : LocateOutcome Id) :
    Triple (Sent start n) (probePasses server filter maxIds sizes outcome)
      (fun _ => Sent start (n + maxBatchesInSearch * sizes.length))
      (fun e history => e ≠ .diverged ∧ Sent start (n + maxBatchesInSearch * sizes.length) history) := by
  refine (probePasses_triple server filter maxIds
    (I := fun left _ history => ∃ k, k + maxBatchesInSearch * left.length = n + maxBatchesInSearch * sizes.length ∧
      Sent start k history) ?_ ?_ _ _).conseq (fun _ h => ⟨n, rfl, h⟩) (fun _ _ h => h) (fun _ _ h => h)
  · rintro left _ history ⟨k, hk, hsent⟩
    exact hsent.mono (by omega)
  · intro size left outcome
    constructor
    rintro history ⟨k, hk, hsent⟩
    rw [List.length_cons, Nat.mul_succ] at hk
    refine ((probeLoop_requests server filter size k maxBatchesInSearch { outcome := outcome }).run history hsent).mono
      ?_ ?_
    · exact fun _ _ h => ⟨k + maxBatchesInSearch, by omega, h⟩
    · exact fun _ _ h => ⟨h.1, h.2.mono (by omega)⟩

end Requests

/-! ## Whole searches -/

theorem opAll_ne_diverged (server : LocateServer Id) (oType : UInt32) {maxIds : Nat} (hmax : 0 < maxIds)
    (hsize : maxIds < 2 ^ 64) :
    Triple (fun _ => True) (opAll server oType maxIds) (fun _ _ => True) (fun e _ => e ≠ .diverged) := by
  refine opAll_triple server maxIds hmax (locateAll_ne_diverged server (typeFilter oType) hmax hsize)
    (fun _ _ _ => trivial) fun outcome _ _ => ?_
  constructor
  intro history _
  refine ((probePasses_requests server (typeFilter oType) 0 probePageSizes outcome).run history
    ⟨[], (List.append_nil history).symm, le_rfl⟩).mono (fun _ _ _ => trivial) (fun _ _ h => h.1)

/-- The computations with sizes give the exact numbers, and the results are in their ranges. -/
structure ExactSizes (Id : Type) (maxIds : Nat) : Prop where
  pagingPageSize : ∀ paging : Paging Id, paging.outcome.ids.length < maxIds →
    pagingPageSize maxIds paging = min (maxIds - paging.outcome.ids.length) 256
  fallbackPageSize : ∀ known, fallbackPageSize maxIds known =
    min (if known > maxIds / 2 then maxIds else max (256 * 2) (known * 2)) maxIds
  fallbackPageSize_mem : 0 < maxIds → ∀ known, 0 < Client.fallbackPageSize maxIds known ∧
    Client.fallbackPageSize maxIds known ≤ maxIds
  nextPageSize : ∀ pageSize, nextPageSize maxIds pageSize = if pageSize > maxIds / 2 then maxIds else pageSize * 2
  nextPageSize_grows : ∀ pageSize, 0 < pageSize → pageSize < maxIds →
    pageSize < Client.nextPageSize maxIds pageSize ∧ Client.nextPageSize maxIds pageSize ≤ maxIds
  limit : ∀ pageSize, locateResponseSizeLimit pageSize =
    if pageSize > 4096 then 16 * 1024 * 1024 else max (pageSize * 4096) (1024 * 1024)
  limit_mem : ∀ pageSize, 1024 * 1024 ≤ locateResponseSizeLimit pageSize ∧
    locateResponseSizeLimit pageSize ≤ 16 * 1024 * 1024

omit [DecidableEq Id] in
theorem exactSizes {maxIds : Nat} (hsize : maxIds < 2 ^ 64) : ExactSizes Id maxIds where
  pagingPageSize _ hroom := pagingPageSize_eq hroom
  fallbackPageSize := fallbackPageSize_eq hsize
  fallbackPageSize_mem hmax known := ⟨fallbackPageSize_pos hmax known, fallbackPageSize_le known⟩
  nextPageSize pageSize := by
    rw [nextPageSize_eq hsize]
    split <;> omega
  nextPageSize_grows pageSize hpos hlt := by
    refine ⟨lt_nextPageSize hsize hpos hlt, ?_⟩
    rw [nextPageSize_eq hsize]
    exact Nat.min_le_right _ _
  limit := locateResponseSizeLimit_eq
  limit_mem pageSize := ⟨le_locateResponseSizeLimit pageSize, locateResponseSizeLimit_le pageSize⟩

/-- **A search sends a bounded number of requests.** Whatever the server does, the first phase sends at most
`min 256 maxIds` requests, the fallback at most `⌈log₂ maxIds⌉ + 1` with pages that grow up to `maxIds`, and `opAll` at
most 768 more; then they return or throw. No computation with sizes wraps around. -/
theorem locate_requests (server : LocateServer Id) (filter : LocateFilter) (oType : UInt32) (maxIds : Nat)
    (hsize : maxIds < 2 ^ 64) (history : List (LocateExchange Id)) :
    (∃ sent, finalState (pagingPhase server filter maxIds history) = history ++ sent ∧
      sent.length ≤ min 256 maxIds) ∧
    (∃ sent, finalState (locateAll server filter maxIds history) =
        finalState (pagingPhase server filter maxIds history) ++ sent ∧
      sent.length ≤ Nat.clog 2 maxIds + 1 ∧ FallbackRequests maxIds sent) ∧
    (∃ sent, finalState (opAll server oType maxIds history) =
        finalState (locateAll server (typeFilter oType) maxIds history) ++ sent ∧ sent.length ≤ 768) ∧
    (∀ history', locateAll server filter maxIds history ≠ .error .diverged history') ∧
    (∀ history', opAll server oType maxIds history ≠ .error .diverged history') ∧
    ExactSizes Id maxIds := by
  have hpaging := (@pagingPhase_requests Id _ server filter maxIds history).final rfl
  have hnone : FallbackRequests maxIds ([] : List (LocateExchange Id)) := ⟨.nil, nofun, nofun, nofun⟩
  rcases Nat.eq_zero_or_pos maxIds with rfl | hmax
  · refine ⟨hpaging, ⟨[], ?_, Nat.zero_le _, hnone⟩, ⟨[], (List.append_nil history).symm, Nat.zero_le _⟩, nofun, nofun,
      exactSizes hsize⟩
    rw [List.append_nil]
    rfl
  · refine ⟨hpaging, ?_, ?_, fun history' h => ?_, fun history' h => ?_, exactSizes hsize⟩
    · have hstart : ∀ s : List (LocateExchange Id), ∃ sent, s = s ++ sent ∧ sent.length ≤ Nat.clog 2 maxIds + 1 ∧
          FallbackRequests maxIds sent := fun s => ⟨[], (List.append_nil s).symm, Nat.zero_le _, hnone⟩
      refine (locateAll_triple server filter maxIds hmax
        (J := fun _ s => s = finalState (pagingPhase server filter maxIds history))
        ((triple_finalState _ history).conseq (fun _ h => h) ?_ ?_)
        (fallbackPhase_requests server filter _ hmax hsize)).final rfl
      · rintro ⟨paging, stalled⟩ s rfl
        cases stalled with
        | false => exact hstart _
        | true => rfl
      · rintro e s rfl
        exact hstart _
    · have hstart : ∀ s : List (LocateExchange Id), Sent s 768 s := fun s =>
        ⟨[], (List.append_nil s).symm, Nat.zero_le _⟩
      refine Triple.final (R := Sent (finalState (locateAll server (typeFilter oType) maxIds history)) 768)
        (opAll_triple server maxIds hmax
          (J := fun _ s => s = finalState (locateAll server (typeFilter oType) maxIds history))
          ((triple_finalState _ history).conseq (fun _ h => h) (fun _ _ h => h) ?_) ?_ ?_) rfl
      · rintro e s rfl
        exact hstart _
      · rintro outcome s rfl
        exact hstart _
      · intro outcome _ _
        refine (probePasses_requests server (typeFilter oType) 0 probePageSizes outcome).conseq ?_ (fun _ _ h => h)
          (fun _ _ h => h.2)
        rintro s rfl
        exact ⟨[], (List.append_nil _).symm, le_rfl⟩
    · exact (locateAll_ne_diverged server filter hmax hsize).error trivial h rfl
    · exact (opAll_ne_diverged server oType hmax hsize).error trivial h rfl

/-- A server that answers with full pages of one id. -/
def fullPageServer : LocateServer Nat := fun _ query => .ok ⟨List.replicate query.pageSize 7, none⟩

theorem locate_requests_fullPage :
    ∃ sent, finalState (locateAll fullPageServer (typeFilter 2) 1000 []) =
        finalState (pagingPhase fullPageServer (typeFilter 2) 1000 []) ++ sent ∧ sent.length ≤ 11 := by
  obtain ⟨-, ⟨sent, hsent, hlen, -⟩, -⟩ := locate_requests fullPageServer (typeFilter 2) 2 1000 (by decide) []
  have hlog : Nat.clog 2 1000 ≤ 10 := Nat.clog_le_of_le_pow (by decide)
  exact ⟨sent, hsent, by omega⟩

end Kmip.Client
