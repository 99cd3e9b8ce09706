import Kmip.Client.Locate
import Kmip.Lib.Congruence

/-!
# Searches with related pages

Two searches whose pages are related are related, for every relation that is a `Congruence` (`related_locateAll`,
`related_opAll`), and they read at most `locateRequests` or `allRequests` pages. Only the pages count that a search may
ask for: at most `maxIds` or 256 ids, with the limit of the response that goes with the number of ids (`Asked`).
-/

namespace Kmip.Client.Pages

open Hoare

/-- The pages of `locate_all`: those of the paging loop and, if it stalls, those of the fallback loop. -/
def locateRequests (maxIds : Nat) : Nat := maxBatchesInSearch + (maxIds.log2 + 2)

/-- The pages of `op_all`: those of `locate_all`, and the passes with smaller pages. -/
def allRequests (maxIds : Nat) : Nat := locateRequests maxIds + probePageSizes.length * maxBatchesInSearch

/-- A query of a search. -/
structure Asked (filter : LocateFilter) (maxIds : Nat) (query : LocateQuery) : Prop where
  filter_eq : query.filter = filter
  offset_le : query.offset ≤ int32Max
  pageSize_le : query.pageSize ≤ max maxIds maxItemsInBatch
  fits : query.pageSize ≤ int32Max
  limit_eq : query.maxResponseSize = locateResponseSizeLimit query.pageSize

/-! ## Page sizes -/

/-- A page of a batch has the default limit. -/
theorem locateResponseSizeLimit_of_le {pageSize : Nat} (h : pageSize ≤ maxItemsInBatch) :
    locateResponseSizeLimit pageSize = defaultMaxResponseSize := by
  have hsmall : ¬pageSize > kmipMaxMessageHardLimit / locateResponseBytesPerId :=
    Nat.not_lt.2 (h.trans (by decide))
  have hmul : pageSize * locateResponseBytesPerId ≤ defaultMaxResponseSize :=
    (Nat.mul_le_mul_right _ h).trans (by decide)
  rw [locateResponseSizeLimit, if_neg hsmall]
  exact max_eq_right ((Nat.mod_le _ _).trans hmul)

theorem pagingPageSize_le {Id : Type} (maxIds : Nat) (paging : Paging Id) :
    pagingPageSize maxIds paging ≤ maxItemsInBatch := Nat.min_le_right _ _

theorem fallbackPageSize_le (maxIds known : Nat) : fallbackPageSize maxIds known ≤ maxIds := Nat.min_le_right _ _

theorem nextPageSize_le (maxIds pageSize : Nat) : nextPageSize maxIds pageSize ≤ maxIds := by
  unfold nextPageSize
  split
  · exact Nat.le_refl _
  · have hle : sizeMul pageSize 2 ≤ pageSize * 2 := Nat.mod_le _ _
    omega

/-! ## The search -/

section Related

variable {σ τ Id : Type} [DecidableEq Id] {Rel : Nat → (α : Type) → EStateM Abort σ α → EStateM Abort τ α → Prop}
  (hRel : Congruence Rel) {page : Page σ Id} {page' : Page τ Id} {filter : LocateFilter} {maxIds : Nat}

include hRel

omit [DecidableEq Id] in
/-- Pages whose queries are related. -/
theorem related_locatePage {ask : Ask σ Id} {ask' : Ask τ Id}
    (hask : ∀ query, Asked filter maxIds query → Rel 1 _ (ask query) (ask' query)) (offset pageSize : Nat)
    (hle : pageSize ≤ max maxIds maxItemsInBatch) :
    Rel 1 _ (locatePage ask filter offset pageSize (locateResponseSizeLimit pageSize))
      (locatePage ask' filter offset pageSize (locateResponseSizeLimit pageSize)) := by
  refine Congruence.ite (fun _ => hRel.pure _ _) fun _ => Congruence.ite (fun _ => hRel.throw _ _) fun _ => ?_
  refine Congruence.ite (fun _ => hRel.throw _ _) fun hsize => ?_
  refine Congruence.ite (fun _ => hRel.throw _ _) fun hoffset => ?_
  exact hRel.bind (k := 0) (hask _ ⟨rfl, Nat.not_lt.1 hoffset, hle, Nat.not_lt.1 hsize, rfl⟩) fun _ => hRel.pure _ _

variable (hpage : ∀ offset pageSize, pageSize ≤ max maxIds maxItemsInBatch →
  Rel 1 _ (page filter offset pageSize (locateResponseSizeLimit pageSize))
    (page' filter offset pageSize (locateResponseSizeLimit pageSize)))

include hpage

omit hRel [DecidableEq Id] in
/-- The pages of a batch. -/
theorem related_batch (offset : Nat) {pageSize : Nat} (hle : pageSize ≤ maxItemsInBatch) :
    Rel 1 _ (page filter offset pageSize defaultMaxResponseSize)
      (page' filter offset pageSize defaultMaxResponseSize) := by
  have h := hpage offset pageSize (hle.trans (Nat.le_max_right _ _))
  rwa [locateResponseSizeLimit_of_le hle] at h

theorem related_pagingLoop : ∀ (batches : Nat) (paging : Paging Id),
    Rel batches _ (pagingLoop page filter maxIds batches paging) (pagingLoop page' filter maxIds batches paging) := by
  intro batches
  induction batches with
  | zero => exact fun _ => hRel.pure _ _
  | succ batches ih =>
    intro paging
    refine hRel.mono (n := 1 + batches) ?_ (Nat.add_comm _ _).le
    refine Congruence.ite (fun _ => ?_) fun _ => hRel.pure _ _
    refine hRel.bind (related_batch hpage _ (pagingPageSize_le maxIds paging)) fun got => ?_
    -- both searches make the same of the page
    dsimp only
    cases pagingStep maxIds (pagingPageSize maxIds paging) paging got.1 got.2 with
    | done paging' exit => exact hRel.pure _ (paging', exit)
    | next paging' => exact ih paging'

theorem related_fallbackLoop (knownTotal : Option Nat) : ∀ (fuel pageSize : Nat) (outcome : LocateOutcome Id),
    pageSize ≤ maxIds → Rel fuel _ (fallbackLoop page filter maxIds knownTotal fuel pageSize outcome)
      (fallbackLoop page' filter maxIds knownTotal fuel pageSize outcome) := by
  intro fuel
  induction fuel with
  | zero => exact fun _ _ _ => hRel.throw _ Abort.diverged
  | succ fuel ih =>
    intro pageSize outcome hle
    refine hRel.mono (n := 1 + fuel) ?_ (Nat.add_comm _ _).le
    refine hRel.bind (hpage _ _ (hle.trans (Nat.le_max_left _ _))) fun got => ?_
    dsimp only
    cases fallbackStep maxIds pageSize knownTotal outcome got.1 got.2 with
    | done outcome' => exact hRel.pure _ outcome'
    | fail e => exact hRel.throw _ e
    | retry outcome' => exact ih _ outcome' (nextPageSize_le maxIds pageSize)

theorem related_locateAll :
    Rel (locateRequests maxIds) _ (locateAll page filter maxIds) (locateAll page' filter maxIds) := by
  refine Congruence.ite (fun _ => hRel.pure _ _) fun _ => hRel.bind ?_ fun r => ?_
  · refine hRel.bind (k := 0) (related_pagingLoop hRel hpage _ _) fun r => ?_
    obtain ⟨paging, exit⟩ := r
    cases exit with
    | finished => exact hRel.pure _ (paging, false)
    | stalled => exact hRel.pure _ (paging, true)
    | exhausted => exact hRel.pure _ (paging, _)
  · refine Congruence.ite (fun _ => ?_) fun _ => hRel.pure _ _
    exact related_fallbackLoop hRel hpage _ _ _ _ (fallbackPageSize_le maxIds _)

theorem related_probeLoop {probePageSize : Nat} (hle : probePageSize ≤ maxItemsInBatch) :
    ∀ (batches : Nat) (probing : Probing Id),
      Rel batches _ (probeLoop page filter maxIds probePageSize batches probing)
        (probeLoop page' filter maxIds probePageSize batches probing) := by
  intro batches
  induction batches with
  | zero => exact fun probing => hRel.pure _ probing.outcome
  | succ batches ih =>
    intro probing
    refine hRel.mono (n := 1 + batches) ?_ (Nat.add_comm _ _).le
    refine Congruence.ite (fun _ => ?_) fun _ => hRel.pure _ probing.outcome
    refine hRel.bind (related_batch hpage _ hle) fun got => ?_
    dsimp only
    cases probeStep maxIds probePageSize probing got.1 got.2 with
    | done outcome => exact hRel.pure _ outcome
    | next probing' => exact ih probing'

theorem related_probePasses : ∀ (sizes : List Nat) (outcome : LocateOutcome Id),
    (∀ size ∈ sizes, size ≤ maxItemsInBatch) →
      Rel (sizes.length * maxBatchesInSearch) _ (probePasses page filter maxIds sizes outcome)
        (probePasses page' filter maxIds sizes outcome) := by
  intro sizes
  induction sizes with
  | nil => exact fun outcome _ => hRel.pure _ outcome
  | cons size sizes ih =>
    intro outcome hsizes
    rw [List.forall_mem_cons] at hsizes
    rw [List.length_cons, Nat.add_one_mul, Nat.add_comm]
    refine hRel.bind (related_probeLoop hRel hpage hsizes.1 _ _) fun outcome' => ?_
    exact Congruence.ite (fun _ => hRel.pure _ outcome') fun _ => ih outcome' hsizes.2

omit hpage in
theorem related_opAll {oType : UInt32} (hpage : ∀ offset pageSize, pageSize ≤ max maxIds maxItemsInBatch →
    Rel 1 _ (page (typeFilter oType) offset pageSize (locateResponseSizeLimit pageSize))
      (page' (typeFilter oType) offset pageSize (locateResponseSizeLimit pageSize))) :
    Rel (allRequests maxIds) _ (opAll page oType maxIds) (opAll page' oType maxIds) := by
  refine Congruence.ite (fun _ => hRel.pure _ []) fun _ => ?_
  refine hRel.bind (related_locateAll hRel hpage) fun outcome => ?_
  refine Congruence.ite (fun _ => hRel.pure _ outcome.ids) fun _ => ?_
  exact hRel.bind (k := 0) (related_probePasses hRel hpage probePageSizes outcome (by decide)) fun outcome' =>
    hRel.pure _ outcome'.ids

end Related

/-! ## What a search does to its state -/

section State

variable {σ Id : Type} [DecidableEq Id] {A : σ → σ → Prop} {μ : σ → Nat} {page : Page σ Id}

theorem moves_locateAll {filter : LocateFilter}
    (hpage : ∀ offset pageSize limit, Moves A (page filter offset pageSize limit)) (maxIds : Nat) :
    Moves A (locateAll page filter maxIds) :=
  @related_locateAll σ σ Id _ _ (congruence_moves A) page page filter maxIds fun _ _ _ => hpage _ _ _

theorem moves_opAll {oType : UInt32}
    (hpage : ∀ offset pageSize limit, Moves A (page (typeFilter oType) offset pageSize limit)) (maxIds : Nat) :
    Moves A (opAll page oType maxIds) :=
  @related_opAll σ σ Id _ _ (congruence_moves A) page page maxIds oType fun _ _ _ => hpage _ _ _

variable (hpage : ∀ filter offset pageSize limit, Costs μ 1 (page filter offset pageSize limit))

include hpage

theorem costs_locateAll (filter : LocateFilter) (maxIds : Nat) :
    Costs μ (locateRequests maxIds) (locateAll page filter maxIds) :=
  @related_locateAll σ σ Id _ _ (congruence_costs μ) page page filter maxIds fun _ _ _ => hpage _ _ _ _

theorem costs_opAll (oType : UInt32) (maxIds : Nat) : Costs μ (allRequests maxIds) (opAll page oType maxIds) :=
  @related_opAll σ σ Id _ _ (congruence_costs μ) page page maxIds oType fun _ _ _ => hpage _ _ _ _

end State

end Kmip.Client.Pages
