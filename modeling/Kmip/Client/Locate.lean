import Kmip.Core.Basics
import Kmip.Lib.FirstSeen
import Kmip.Lib.Hoare

/-!
# `KmipClient`: the Locate search

`locateAll` collects the identifiers of all matching objects. It reads the list page by page; when paging stalls, it
asks for one large page at offset 0 and doubles the page until the answer settles the search. `opAll` searches for all
objects of a type and reads the list again with smaller pages when nothing proves that it is complete.

The search uses the other side through `locate_page` only, and that is a parameter here (`Pages`), so that the search of
a client over messages is the same one. For most results the other side is a server, an arbitrary strategy: its answer
to a request may depend on everything that was exchanged before. The state of such a search is that history, and it is
kept when the search throws.
-/

namespace Kmip.Client

/-! ## The server -/

/-- What every request of a search repeats. -/
structure LocateFilter where
  byGroup : Bool
  filter : Bytes
  oType : UInt32
deriving DecidableEq

/-- A Locate request: the filter, Offset Items, Maximum Items and the Maximum Response Size of the header. -/
structure LocateQuery where
  filter : LocateFilter
  offset : Nat
  pageSize : Nat
  maxResponseSize : Nat
deriving DecidableEq

/-- `LocateResponsePayload`. -/
structure LocateResponsePayload (Id : Type) where
  uniqueIdentifiers : List Id
  locatedItems : Option Int32

/-- `located_items` as `locate_page` reports it: a negative count is left out. -/
def LocateResponsePayload.located {Id : Type} (payload : LocateResponsePayload Id) : Option Nat :=
  (payload.locatedItems.filter (fun n => 0 ≤ n)).map (·.toInt.toNat)

/-- A request and its answer, or the exception that the exchange or its parser threw. -/
structure LocateExchange (Id : Type) where
  query : LocateQuery
  answer : Except KmipException (LocateResponsePayload Id)

/-- A server: its answer to a request after a history of exchanges. -/
abbrev LocateServer (Id : Type) :=
  List (LocateExchange Id) → LocateQuery → Except KmipException (LocateResponsePayload Id)

/-- A part of a search. -/
abbrev Search (Id α : Type) := EStateM Abort (List (LocateExchange Id)) α

/-! ## Constants and helpers -/

/-- `MAX_BATCHES_IN_SEARCH`. -/
def maxBatchesInSearch : Nat := 256

/-- `MAX_ITEMS_IN_BATCH`. -/
def maxItemsInBatch : Nat := 256

/-- `DEFAULT_MAX_RESPONSE_SIZE`. -/
def defaultMaxResponseSize : Nat := kmipMaxMessageSize

/-- `LOCATE_RESPONSE_BYTES_PER_ID`. -/
def locateResponseBytesPerId : Nat := defaultMaxResponseSize / maxItemsInBatch

/-- `std::numeric_limits<int32_t>::max()`. -/
def int32Max : Nat := 2 ^ 31 - 1

/-- The response-size limit of a page: it grows with the page, from the default up to the hard limit. -/
def locateResponseSizeLimit (pageSize : Nat) : Nat :=
  if pageSize > kmipMaxMessageHardLimit / locateResponseBytesPerId then kmipMaxMessageHardLimit
  else max (sizeMul pageSize locateResponseBytesPerId) defaultMaxResponseSize

/-- Located Items as a total for the whole search: only when it exceeds the page that it came with. -/
def locatedTotal (locatedItems : Option Nat) (pageCount : Nat) : Option Nat :=
  locatedItems.filter (fun n => pageCount < n)

section Search

variable {Id : Type} [DecidableEq Id]

/-- `LocateOutcome`. -/
structure LocateOutcome (Id : Type) where
  ids : List Id := []
  seen : Finset Id := ∅
  confirmedComplete : Bool := false

/-- The loop of `merge_new_ids`. -/
def mergeLoop (maxIds : Nat) : List Id → LocateOutcome Id → Bool → LocateOutcome Id × Bool
  | [], outcome, addedAny => (outcome, addedAny)
  | id :: page, outcome, addedAny =>
    if outcome.ids.length ≥ maxIds then (outcome, addedAny)
    else if id ∈ outcome.seen then mergeLoop maxIds page outcome addedAny
    else mergeLoop maxIds page { outcome with ids := outcome.ids ++ [id], seen := insert id outcome.seen } true

/-- Append the ids of a page that were not seen before, up to `maxIds` in total; and whether anything was added. -/
def mergeNewIds (outcome : LocateOutcome Id) (page : List Id) (maxIds : Nat) : LocateOutcome Id × Bool :=
  mergeLoop maxIds page outcome false

namespace Pages

/-- How a query is answered, in a state of any type. -/
abbrev Ask (σ Id : Type) := LocateQuery → EStateM Abort σ (LocateResponsePayload Id)

/-- `locate_page` for a filter, an offset, a page size and a limit of the response: the ids and Located Items. -/
abbrev Page (σ Id : Type) := LocateFilter → Nat → Nat → Nat → EStateM Abort σ (List Id × Option Nat)

/-- One Locate request: the ids of the page and its Located Items. -/
def locatePage {σ Id : Type} (ask : Ask σ Id) (filter : LocateFilter) (offset pageSize maxResponseSize : Nat) :
    EStateM Abort σ (List Id × Option Nat) :=
  if pageSize = 0 then pure ([], none)
  else if maxResponseSize > int32Max then
    throw (.message ("setMaxResponseSize: size_t value " ++ toString maxResponseSize ++ " exceeds int32_t maximum (" ++
      toString int32Max ++ ")"))
  else if pageSize > int32Max then
    throw (.message ("LocateRequest: max_items value " ++ toString pageSize ++ " exceeds int32_t maximum (" ++
      toString int32Max ++ ")"))
  else if offset > int32Max then
    throw (.message ("LocateRequest: offset value " ++ toString offset ++ " exceeds int32_t maximum (" ++
      toString int32Max ++ ")"))
  else do
    let payload ← ask ⟨filter, offset, pageSize, maxResponseSize⟩
    pure (payload.uniqueIdentifiers, payload.located)

end Pages

/-! ## Paging -/

/-- The variables of the paging loop. -/
structure Paging (Id : Type) where
  outcome : LocateOutcome Id := {}
  offset : Nat := 0
  knownTotal : Option Nat := none

/-- How the paging loop ends: with `finished`, with `stalled`, or with neither when its condition fails. -/
inductive PagingExit where
  | finished
  | stalled
  | exhausted
deriving DecidableEq

/-- After a page, the loop ends or goes on. -/
inductive PagingStep (Id : Type) where
  | done (paging : Paging Id) (exit : PagingExit)
  | next (paging : Paging Id)

/-- The body of the paging loop after the answer `got` to a request of `pageSize` ids. -/
def pagingStep (maxIds pageSize : Nat) (paging : Paging Id) (got : List Id) (locatedItems : Option Nat) :
    PagingStep Id :=
  if got.isEmpty then
    -- the end of the list, unless a usable total says that ids are missing
    .done paging
      (if paging.knownTotal.any (fun total => paging.outcome.ids.length < total) then .stalled else .finished)
  else
    let knownBefore := paging.outcome.ids.length
    let outcome := (mergeNewIds paging.outcome got maxIds).1
    let firstPage := paging.offset = 0
    let offset := sizeAdd paging.offset got.length
    let knownTotal := (locatedTotal locatedItems got.length).or paging.knownTotal
    let paging' : Paging Id := ⟨outcome, offset, knownTotal⟩
    if knownTotal.any (fun total => total ≤ outcome.ids.length) then
      .done { paging' with outcome := { outcome with confirmedComplete := true } } .finished
    else if maxIds ≤ outcome.ids.length then .done paging' .finished
    -- the page repeats ids that were seen before
    else if outcome.ids.length - knownBefore < got.length then .done paging' .stalled
    -- the count of the server says that ids are still missing
    else if knownTotal.any (fun total => total ≤ offset) then .done paging' .stalled
    else if got.length < pageSize ∧ knownTotal = none then
      .done { paging' with outcome := { outcome with confirmedComplete := firstPage } } .finished
    else .next paging'

/-- The Maximum Items of the next request. -/
def pagingPageSize (maxIds : Nat) (paging : Paging Id) : Nat :=
  min (sizeSub maxIds paging.outcome.ids.length) maxItemsInBatch

namespace Pages

variable {σ : Type} (page : Page σ Id)

/-- The paging loop with the number of batches that are left. -/
def pagingLoop (filter : LocateFilter) (maxIds : Nat) : Nat → Paging Id → EStateM Abort σ (Paging Id × PagingExit)
  | 0, paging => pure (paging, .exhausted)
  | batches + 1, paging =>
    if paging.outcome.ids.length < maxIds then do
      let (got, locatedItems) ← page filter paging.offset (pagingPageSize maxIds paging) defaultMaxResponseSize
      match pagingStep maxIds (pagingPageSize maxIds paging) paging got locatedItems with
      | .done paging exit => pure (paging, exit)
      | .next paging => pagingLoop filter maxIds batches paging
    else pure (paging, .exhausted)

/-- The first phase of the search, and whether it stalled. -/
def pagingPhase (filter : LocateFilter) (maxIds : Nat) : EStateM Abort σ (Paging Id × Bool) := do
  let (paging, exit) ← pagingLoop page filter maxIds maxBatchesInSearch {}
  match exit with
  | .finished => pure (paging, false)
  | .stalled => pure (paging, true)
  | .exhausted => pure (paging, paging.outcome.ids.length < maxIds)

end Pages

/-! ## The single-page fallback -/

/-- After a page of the fallback, the search returns, throws or asks for a larger page. -/
inductive FallbackStep (Id : Type) where
  | done (outcome : LocateOutcome Id)
  | fail (e : Abort)
  | retry (outcome : LocateOutcome Id)

/-- The body of the fallback loop after the answer `got` to a request of `pageSize` ids. -/
def fallbackStep (maxIds pageSize : Nat) (knownTotal : Option Nat) (outcome : LocateOutcome Id) (got : List Id)
    (locatedItems : Option Nat) : FallbackStep Id :=
  let knownBefore := outcome.ids.length
  let knownInPage := (got.toFinset.filter (· ∈ outcome.seen)).card
  let outcome' := (mergeNewIds outcome got maxIds).1
  let total := (locatedTotal locatedItems got.length).or knownTotal
  if maxIds ≤ outcome'.ids.length then .done outcome'
  else if total.any (fun total => total ≤ outcome'.ids.length) then .done { outcome' with confirmedComplete := true }
  else if got.length < pageSize then
    if knownInPage < knownBefore then
      .fail (.message ("Locate: a single page at offset 0 omits " ++ toString (knownBefore - knownInPage) ++
        " of the " ++ toString knownBefore ++ " objects the server returned earlier; cannot determine the " ++
        "complete list"))
    else
      match total with
      | some total =>
        .fail (.message ("Locate: server reports " ++ toString total ++ " located objects but returned only " ++
          toString outcome'.ids.length ++ " distinct identifiers"))
      | none => .done { outcome' with confirmedComplete := true }
  else if maxIds ≤ pageSize then
    .fail (.message ("Locate: server returned a full page of " ++ toString pageSize ++
      " identifiers containing only " ++ toString outcome'.ids.length ++ " distinct values"))
  else .retry outcome'

/-- The first page of the fallback: at least twice the ids that are known, up to `maxIds`. -/
def fallbackPageSize (maxIds known : Nat) : Nat :=
  min (if known > maxIds / 2 then maxIds else max (sizeMul maxItemsInBatch 2) (sizeMul known 2)) maxIds

/-- The page after `pageSize`. -/
def nextPageSize (maxIds pageSize : Nat) : Nat :=
  if pageSize > maxIds / 2 then maxIds else sizeMul pageSize 2

namespace Pages

variable {σ : Type} (page : Page σ Id)

/-- The fallback loop. The source has no bound on its iterations: running out of them models a loop that never ends. -/
def fallbackLoop (filter : LocateFilter) (maxIds : Nat) (knownTotal : Option Nat) :
    Nat → Nat → LocateOutcome Id → EStateM Abort σ (LocateOutcome Id)
  | 0, _, _ => throw .diverged
  | fuel + 1, pageSize, outcome => do
    let (got, locatedItems) ← page filter 0 pageSize (locateResponseSizeLimit pageSize)
    match fallbackStep maxIds pageSize knownTotal outcome got locatedItems with
    | .done outcome => pure outcome
    | .fail e => throw e
    | .retry outcome => fallbackLoop filter maxIds knownTotal fuel (nextPageSize maxIds pageSize) outcome

/-- The second phase of the search, after paging has stalled. -/
def fallbackPhase (filter : LocateFilter) (maxIds : Nat) (paging : Paging Id) : EStateM Abort σ (LocateOutcome Id) :=
  fallbackLoop page filter maxIds paging.knownTotal (maxIds.log2 + 2)
    (fallbackPageSize maxIds paging.outcome.ids.length) paging.outcome

/-! ## The search -/

def locateAll (filter : LocateFilter) (maxIds : Nat) : EStateM Abort σ (LocateOutcome Id) :=
  if maxIds = 0 then pure { confirmedComplete := true }
  else do
    let (paging, stalled) ← pagingPhase page filter maxIds
    if stalled then fallbackPhase page filter maxIds paging
    else pure paging.outcome

end Pages

/-! ## Probing -/

/-- Whether two pages hold the same set of ids. -/
def sameIds (a b : List Id) : Bool := a.toFinset = b.toFinset

/-- The variables of a pass of `probe_all`. -/
structure Probing (Id : Type) where
  outcome : LocateOutcome Id
  offset : Nat := 0
  prevPage : List Id := []

/-- After a page of a pass, the pass ends or goes on. -/
inductive ProbeStep (Id : Type) where
  | done (outcome : LocateOutcome Id)
  | next (probing : Probing Id)

/-- The body of the loop of a pass after the answer `page`. -/
def probeStep (maxIds probePageSize : Nat) (probing : Probing Id) (page : List Id) (locatedItems : Option Nat) :
    ProbeStep Id :=
  if page.isEmpty then .done probing.outcome
  else
    let (outcome, addedAny) := mergeNewIds probing.outcome page maxIds
    let total := locatedTotal locatedItems page.length
    if total.any (fun total => total ≤ sizeAdd probing.offset probePageSize) then .done outcome
    else if !addedAny && (page.length < probePageSize || sameIds page probing.prevPage) then .done outcome
    else .next ⟨outcome, sizeAdd probing.offset probePageSize, page⟩

/-- `probe_page_sizes`. -/
def probePageSizes : List Nat := [256, 64, 16]

/-- The filter of a search for all objects of a type: the empty group. -/
def typeFilter (oType : UInt32) : LocateFilter := ⟨true, Bytes.empty, oType⟩

namespace Pages

variable {σ : Type} (page : Page σ Id)

/-- The loop of a pass with the number of batches that are left. -/
def probeLoop (filter : LocateFilter) (maxIds probePageSize : Nat) :
    Nat → Probing Id → EStateM Abort σ (LocateOutcome Id)
  | 0, probing => pure probing.outcome
  | batches + 1, probing =>
    if probing.outcome.ids.length < maxIds then do
      let (got, locatedItems) ← page filter probing.offset probePageSize defaultMaxResponseSize
      match probeStep maxIds probePageSize probing got locatedItems with
      | .done outcome => pure outcome
      | .next probing => probeLoop filter maxIds probePageSize batches probing
    else pure probing.outcome

/-- The passes with these page sizes. -/
def probePasses (filter : LocateFilter) (maxIds : Nat) :
    List Nat → LocateOutcome Id → EStateM Abort σ (LocateOutcome Id)
  | [], outcome => pure outcome
  | probePageSize :: sizes, outcome => do
    let outcome ← probeLoop page filter maxIds probePageSize maxBatchesInSearch { outcome := outcome }
    if maxIds ≤ outcome.ids.length then pure outcome else probePasses filter maxIds sizes outcome

def probeAll (oType : UInt32) (maxIds : Nat) (outcome : LocateOutcome Id) : EStateM Abort σ (LocateOutcome Id) :=
  probePasses page (typeFilter oType) maxIds probePageSizes outcome

def opAll (oType : UInt32) (maxIds : Nat) : EStateM Abort σ (List Id) :=
  if maxIds = 0 then pure []
  else do
    let outcome ← locateAll page (typeFilter oType) maxIds
    if maxIds ≤ outcome.ids.length || outcome.confirmedComplete then pure outcome.ids
    else do
      let outcome ← probeAll page oType maxIds outcome
      pure outcome.ids

end Pages

/-! ## The search against a server -/

variable (server : LocateServer Id)

/-- One exchange with the server. It is recorded whether it succeeds or not. -/
def exchange (query : LocateQuery) : Search Id (LocateResponsePayload Id) := fun history =>
  match server history query with
  | .ok payload => .ok payload (history ++ [⟨query, .ok payload⟩])
  | .error e => .error (.thrown e) (history ++ [⟨query, .error e⟩])

def locatePage (filter : LocateFilter) (offset pageSize maxResponseSize : Nat) : Search Id (List Id × Option Nat) :=
  Pages.locatePage (exchange server) filter offset pageSize maxResponseSize

abbrev pagingLoop (filter : LocateFilter) (maxIds batches : Nat) (paging : Paging Id) :
    Search Id (Paging Id × PagingExit) :=
  Pages.pagingLoop (locatePage server) filter maxIds batches paging

abbrev pagingPhase (filter : LocateFilter) (maxIds : Nat) : Search Id (Paging Id × Bool) :=
  Pages.pagingPhase (locatePage server) filter maxIds

abbrev fallbackLoop (filter : LocateFilter) (maxIds : Nat) (knownTotal : Option Nat) (fuel pageSize : Nat)
    (outcome : LocateOutcome Id) : Search Id (LocateOutcome Id) :=
  Pages.fallbackLoop (locatePage server) filter maxIds knownTotal fuel pageSize outcome

abbrev fallbackPhase (filter : LocateFilter) (maxIds : Nat) (paging : Paging Id) : Search Id (LocateOutcome Id) :=
  Pages.fallbackPhase (locatePage server) filter maxIds paging

abbrev locateAll (filter : LocateFilter) (maxIds : Nat) : Search Id (LocateOutcome Id) :=
  Pages.locateAll (locatePage server) filter maxIds

abbrev probeLoop (filter : LocateFilter) (maxIds probePageSize batches : Nat) (probing : Probing Id) :
    Search Id (LocateOutcome Id) :=
  Pages.probeLoop (locatePage server) filter maxIds probePageSize batches probing

abbrev probePasses (filter : LocateFilter) (maxIds : Nat) (sizes : List Nat) (outcome : LocateOutcome Id) :
    Search Id (LocateOutcome Id) :=
  Pages.probePasses (locatePage server) filter maxIds sizes outcome

abbrev probeAll (oType : UInt32) (maxIds : Nat) (outcome : LocateOutcome Id) : Search Id (LocateOutcome Id) :=
  Pages.probeAll (locatePage server) oType maxIds outcome

abbrev opAll (oType : UInt32) (maxIds : Nat) : Search Id (List Id) :=
  Pages.opAll (locatePage server) oType maxIds

end Search

end Kmip.Client
