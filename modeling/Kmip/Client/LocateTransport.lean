import Kmip.Client.LocateService
import Kmip.Client.SessionTransport

/-!
# Listings over `IOUtils`

A search of a client over `IOUtils`, whose transport does not fail and whose peer is a service: the stream of the
connection goes on with the answers of the service to the requests, in their order (`ServedBy`). If all answers are
within the limits of their requests, `op_locate_by_name`, `op_locate_by_group` and `op_all` return the first ids of the
service (`search_endToEnd`). A page that is longer than its limit is refused, and the search throws
(`locateAll_refused`).
-/

namespace Kmip.Client

open Hoare Relation IOUtils

/-- From `start` to `history` the peer of the connection is the service. -/
def ServedBy (env : Environment) (service : LocateService) (start history : List Exchanged) : Prop :=
  RepliesToAll env (fun call => service.reply call.request) ((history.drop start.length).map callOf)
    (stateAfter env start).view

namespace KmipClient

variable {c : KmipClient} {service : LocateService} {filter : LocateFilter} {maxIds : Nat}

/-! ## What a search sends -/

/-- The requests of a search. -/
def PageRequests (c : KmipClient) (filter : LocateFilter) (maxIds : Nat) (request : RequestMessage) : Prop :=
  ∃ query, Pages.Asked filter maxIds query ∧ request = c.pageRequest query

theorem emits_ask {query : LocateQuery} (hasked : Pages.Asked filter maxIds query) :
    Moves (c.Emits (c.PageRequests filter maxIds)) (c.ask query) := by
  constructor
  intro history
  cases hx : c.exchanged history (c.pageRequest query) with
  | error e =>
    unfold ask fetch
    rw [hx]
    exact .refl
  | ok x =>
    rw [finalState_ask hx]
    exact .single ⟨_, x, ⟨query, hasked, rfl⟩, hx, rfl⟩

theorem emits_locatePage (offset pageSize : Nat) (hle : pageSize ≤ max maxIds maxItemsInBatch) :
    Moves (c.Emits (c.PageRequests filter maxIds))
      (c.locatePage filter offset pageSize (locateResponseSizeLimit pageSize)) := by
  rw [locatePage_eq]
  exact @Pages.related_locatePage _ _ _ _ (congruence_moves _) _ _ c.ask c.ask (fun _ hasked => emits_ask hasked) offset
    pageSize hle

theorem emits_locateAll : Moves (c.Emits (c.PageRequests filter maxIds)) (c.locateAll filter maxIds) :=
  @Pages.related_locateAll _ _ _ _ _ (congruence_moves _) c.locatePage c.locatePage _ _ emits_locatePage

theorem emits_opAll {oType : UInt32} :
    Moves (c.Emits (c.PageRequests (typeFilter oType) maxIds)) (c.opAll oType maxIds) :=
  @Pages.related_opAll _ _ _ _ _ (congruence_moves _) c.locatePage c.locatePage _ _ emits_locatePage

/-- The limit of an exchange is the one that its request asks for. -/
theorem getMaxResponseSize_pageRequest {query : LocateQuery} (h : query.maxResponseSize ≤ int32Max) :
    (c.pageRequest query).getMaxResponseSize = query.maxResponseSize := by
  have hmax : Int32.maxValue.toInt = int32Max := by decide
  show (Int32.ofNat query.maxResponseSize).toInt64.toUInt64.toNat = _
  rw [Int32.toInt64_ofNat' (by omega), Int64.toUInt64_ofNat']
  exact UInt64.toNat_ofNat_of_lt' (h.trans_lt (by decide))

/-! ## What the service answers -/

/-- The answers that come over the transport are those of the service. -/
theorem answeredBy_of_servedBy {env : Environment} (hsmooth : env.Smooth) (hdeliver : Deliverable service filter maxIds)
    {start history : List Exchanged}
    (hmoves : ReflTransGen ((overTransport env c).Emits ((overTransport env c).PageRequests filter maxIds)) start
      history)
    (hserved : ServedBy env service start history) : AnsweredBy service start history := by
  obtain ⟨part, rfl, hperforms, hrequests⟩ := performs_of_emits hmoves
  unfold ServedBy at hserved
  unfold AnsweredBy
  rw [List.drop_left] at hserved ⊢
  have hserve : ∀ x ∈ part, ∃ response, service.serve x.sent = .ok response ∧
      IOUtils.Accepts (callOf x) (service.reply x.sent) := by
    intro x hx
    obtain ⟨query, hasked, hrequest⟩ := hrequests x hx
    obtain ⟨now, hs⟩ := hperforms.serialized x hx
    rw [hrequest] at hs
    obtain ⟨response, hserve, hcarries, hsize⟩ := hdeliver.serve hasked hs
    refine ⟨response, hserve, ?_⟩
    rw [LocateService.reply_of_serve hserve]
    refine ⟨hcarries.message, ?_⟩
    have hlimit : query.maxResponseSize ≤ kmipMaxMessageHardLimit := by
      rw [hasked.limit_eq]
      exact locateResponseSizeLimit_le _
    unfold callOf effectiveLimit
    dsimp only
    rw [hrequest, getMaxResponseSize_pageRequest (hlimit.trans (by decide)), min_eq_left hlimit]
    exact hsize.trans (Nat.le_add_left _ _)
  have hreceived := received_exchangeAll hsmooth (part.map callOf) (stateAfter env start) hperforms.sendable
    (List.forall_mem_map.2 fun x hx => (hserve x hx).elim fun _ h => h.2) hserved
  have hanswers : part.map (·.answer) = part.map fun x => vectorOf (service.reply x.sent) := by
    rw [hperforms.answers]
    have h := congrArg (List.map fun r : Except Abort Unit × List UInt8 => (do r.1; vectorOf r.2 : Except Abort Bytes))
      hreceived
    rw [List.map_map, List.map_map, List.map_map] at h
    exact h
  intro x hx
  obtain ⟨response, hresponse, -⟩ := hserve x hx
  rw [List.map_inj_left.1 hanswers x hx, hresponse, LocateService.reply_of_serve hresponse]
  exact vectorOf_of_lt response.size_lt

/-! ## The first page -/

section First

variable {σ Id : Type} [DecidableEq Id] {page : Pages.Page σ Id} {s s' : σ}

/-- A search whose first page throws. -/
theorem locateAll_of_error (hmax : 0 < maxIds) {e : Abort}
    (h : page filter 0 (pagingPageSize maxIds ({} : Paging Id)) defaultMaxResponseSize s = .error e s') :
    Pages.locateAll page filter maxIds s = .error e s' := by
  have hloop : Pages.pagingLoop page filter maxIds (255 + 1) {} s = .error e s' := by
    unfold Pages.pagingLoop
    rw [if_pos (show ({} : Paging Id).outcome.ids.length < maxIds from hmax)]
    exact bind_error h
  unfold Pages.locateAll
  rw [if_neg hmax.ne']
  exact bind_error (bind_error hloop)

/-- A search whose first page is the last one. -/
theorem locateAll_of_finished (hmax : 0 < maxIds) {got : List Id} {locatedItems : Option Nat} {paging : Paging Id}
    (h : page filter 0 (pagingPageSize maxIds ({} : Paging Id)) defaultMaxResponseSize s = .ok (got, locatedItems) s')
    (hstep : pagingStep maxIds (pagingPageSize maxIds ({} : Paging Id)) {} got locatedItems =
      .done paging .finished) :
    Pages.locateAll page filter maxIds s = .ok paging.outcome s' := by
  have hloop : Pages.pagingLoop page filter maxIds (255 + 1) {} s = .ok (paging, .finished) s' := by
    unfold Pages.pagingLoop
    rw [if_pos (show ({} : Paging Id).outcome.ids.length < maxIds from hmax)]
    refine (bind_ok h).trans ?_
    dsimp only
    rw [hstep]
    rfl
  exact locateAll_of_pagingPhase hmax (bind_ok hloop)

end First

/-- A request depends on the client through its version only. -/
theorem pageRequest_congr {c' : KmipClient} (h : c.version = c'.version) (query : LocateQuery) :
    c.pageRequest query = c'.pageRequest query := by
  unfold pageRequest limitedRequest request emptyRequest
  rw [h]

theorem pageRequest_overTransport (env : Environment) (query : LocateQuery) :
    (overTransport env c).pageRequest query = c.pageRequest query :=
  pageRequest_congr (by rw [overTransport]) query

/-- The first query of a search. -/
def firstQuery (filter : LocateFilter) (maxIds : Nat) : LocateQuery :=
  ⟨filter, 0, pagingPageSize maxIds ({} : Paging Bytes), defaultMaxResponseSize⟩

theorem asked_firstQuery (filter : LocateFilter) (maxIds : Nat) :
    Pages.Asked filter maxIds (firstQuery filter maxIds) := by
  have hle := Pages.pagingPageSize_le maxIds ({} : Paging Bytes)
  exact ⟨rfl, Nat.zero_le _, hle.trans (Nat.le_max_right _ _), hle.trans (by decide),
    (Pages.locateResponseSizeLimit_of_le hle).symm⟩

/-- The first page over messages. -/
theorem locatePage_first (hmax : 0 < maxIds) (history : List Exchanged) :
    c.locatePage filter 0 (pagingPageSize maxIds ({} : Paging Bytes)) defaultMaxResponseSize history =
      (c.ask (firstQuery filter maxIds) >>= fun payload => pure (payload.uniqueIdentifiers, payload.located))
        history := by
  have hle : pagingPageSize maxIds ({} : Paging Bytes) ≤ int32Max := (asked_firstQuery filter maxIds).fits
  have hpos : pagingPageSize maxIds ({} : Paging Bytes) ≠ 0 := by
    have hsub : sizeSub maxIds 0 = maxIds := if_pos (Nat.zero_le _)
    show min (sizeSub maxIds 0) maxItemsInBatch ≠ 0
    rw [hsub]
    exact (Nat.lt_min.2 ⟨hmax, by decide⟩).ne'
  rw [locatePage_eq, Pages.locatePage, if_neg hpos, if_neg (by decide), if_neg (Nat.not_lt.2 hle), if_neg (by decide)]
  rfl

/-- The limit of the first page. -/
theorem callOf_first {x : Exchanged} {history : List Exchanged}
    (hx : c.exchanged history (c.pageRequest (firstQuery filter maxIds)) = .ok x) :
    (callOf x).maxMessageSize = defaultMaxResponseSize := by
  unfold callOf
  dsimp only
  rw [exchanged_request hx]
  exact getMaxResponseSize_pageRequest (show defaultMaxResponseSize ≤ int32Max by decide)

section Transport

variable {env : Environment} {start : List Exchanged} {x : Exchanged}

/-- What comes over the transport. -/
theorem answer_eq_answered {request : RequestMessage} (hx : (overTransport env c).exchanged start request = .ok x) :
    x.answer = (IOUtils.perform env (stateAfter env start) (callOf x)).answered := by
  obtain ⟨bytes, -, hx⟩ := Except.bind_eq_ok_iff.1 hx
  cases hx
  rfl

theorem sendable_of_exchanged {request : RequestMessage} (hx : c.exchanged start request = .ok x) :
    Sendable (callOf x).request := by
  obtain ⟨bytes, hs, hx⟩ := Except.bind_eq_ok_iff.1 hx
  cases hx
  exact sendable_of_serialize hs

theorem servedBy_append {response : Bytes} (hserve : service.serve x.sent = .ok response) :
    ServedBy env service start (start ++ [x]) ↔
      window (env.peer (stateAfter env start).view.connection) (stateAfter env start).view.position
        response.bytes.length = response.bytes := by
  unfold ServedBy RepliesToAll
  rw [List.drop_left, List.map_singleton, List.flatMap_singleton]
  show window _ _ (service.reply x.sent).length = service.reply x.sent ↔ _
  rw [LocateService.reply_of_serve hserve]

/-- **A first page that is longer than its limit.** The message of the service is refused, and the search throws. -/
theorem locateAll_refused (hsmooth : env.Smooth) (hmax : 0 < maxIds) {response : Bytes}
    (hx : (overTransport env c).exchanged start ((overTransport env c).pageRequest (firstQuery filter maxIds)) = .ok x)
    (hserve : service.serve x.sent = .ok response) (hmessage : IsMessage response.bytes)
    (hlong : kmipMsgLengthBytes + defaultMaxResponseSize < response.size)
    (hserved : ServedBy env service start (start ++ [x])) :
    ∃ length, (overTransport env c).locateAll filter maxIds start =
      .error (tooLong length defaultMaxResponseSize) (start ++ [x]) := by
  rw [servedBy_append hserve] at hserved
  have hlimit := callOf_first hx
  have heffective : effectiveLimit defaultMaxResponseSize = defaultMaxResponseSize := by decide
  obtain ⟨length, s', hstep⟩ := perform_refused hsmooth (sendable_of_exchanged hx) hmessage hserved
    (by rw [hlimit, heffective]; exact hlong)
  have hanswer : x.answer = .error (tooLong length defaultMaxResponseSize) := by
    rw [answer_eq_answered hx, hstep, hlimit]
    rfl
  refine ⟨length, locateAll_of_error hmax ?_⟩
  rw [locatePage_first hmax]
  refine bind_error ?_
  rw [ask_of_exchanged hx, Exchanged.reads, hanswer]
  rfl

/-- A first page that is within its limit and is the last one. -/
theorem locateAll_received (hsmooth : env.Smooth) (hmax : 0 < maxIds) {response : Bytes}
    {payload : Kmip.LocateResponsePayload}
    (hx : (overTransport env c).exchanged start ((overTransport env c).pageRequest (firstQuery filter maxIds)) = .ok x)
    (hserve : service.serve x.sent = .ok response) (hcarries : Carries payload response)
    (hle : response.size ≤ defaultMaxResponseSize) (hserved : ServedBy env service start (start ++ [x]))
    {paging : Paging Bytes} (hstep : pagingStep maxIds (pagingPageSize maxIds ({} : Paging Bytes)) {}
        payload.uniqueIdentifiers
        (Client.LocateResponsePayload.located ⟨payload.uniqueIdentifiers, payload.locatedItems⟩) =
      .done paging .finished) :
    (overTransport env c).locateAll filter maxIds start = .ok paging.outcome (start ++ [x]) := by
  rw [servedBy_append hserve] at hserved
  have hlimit := callOf_first hx
  have heffective : effectiveLimit defaultMaxResponseSize = defaultMaxResponseSize := by decide
  obtain ⟨s', hperform, hat⟩ := perform_received hsmooth (sendable_of_exchanged hx) hcarries.message hserved
    (by rw [hlimit, heffective]; exact hle.trans (Nat.le_add_left _ _))
  have hanswer : x.answer = .ok response := by
    rw [answer_eq_answered hx, hperform]
    show vectorOf s'.responseBytes = _
    rw [hat.responseBytes]
    exact vectorOf_of_lt response.size_lt
  have hask : (overTransport env c).ask (firstQuery filter maxIds) start =
      .ok ⟨payload.uniqueIdentifiers, payload.locatedItems⟩ (start ++ [x]) := by
    rw [ask_of_exchanged hx, Exchanged.reads, hanswer, Except.ok_bind, hcarries.readPage_eq]
    rfl
  exact locateAll_of_finished hmax ((locatePage_first hmax _).trans (bind_ok hask)) hstep

end Transport

/-! ## A peer for one request -/

/-- The bytes of the first request of a search. -/
def firstBytes (c : KmipClient) (filter : LocateFilter) (maxIds : Nat) : List UInt8 :=
  ((c.pageRequest (firstQuery filter maxIds)).serialize (c.clock 0)).toOption.getD []

/-- A peer that sends what the service answers to a request, byte by byte. -/
def servingEnvironment (service : LocateService) (request : List UInt8) : Environment where
  peer _ i := (service.reply request).getD i 0
  schedule _ := .chunk 0

theorem smooth_servingEnvironment (request : List UInt8) : (servingEnvironment service request).Smooth :=
  fun _ => ⟨0, rfl⟩

/-- The first exchange of a search over this peer. -/
theorem exists_first (hfilter : filter.filter.size + 337 ≤ SerializationBuffer.reachableCapacity) (maxIds : Nat)
    (hids : ((service.slice (firstQuery filter maxIds)).map fun id => id.size + 15).sum + 196 ≤
      SerializationBuffer.reachableCapacity) :
    ∃ x response, (overTransport (servingEnvironment service (c.firstBytes filter maxIds)) c).exchanged []
        ((overTransport (servingEnvironment service (c.firstBytes filter maxIds)) c).pageRequest
          (firstQuery filter maxIds)) = .ok x ∧
      service.serve x.sent = .ok response ∧ Carries (service.payload (firstQuery filter maxIds)) response ∧
      ServedBy (servingEnvironment service (c.firstBytes filter maxIds)) service [] [x] := by
  obtain ⟨data, hs⟩ := @serialize_pageRequest c (firstQuery filter maxIds) hfilter (c.clock 0)
  have hbytes : c.firstBytes filter maxIds = data.bytes := by
    unfold firstBytes
    rw [hs]
    rfl
  rw [hbytes, pageRequest_overTransport]
  have hasked := asked_firstQuery filter maxIds
  obtain ⟨response, hserve, hcarries⟩ := @serve_pageRequest c service _ hasked.offset_le hasked.fits hids _ _ hs
  obtain ⟨x, hx, hsent⟩ :=
    @KmipClient.exists_exchanged (overTransport (servingEnvironment service data.bytes) c) [] _ _ hs
  have hreply := LocateService.reply_of_serve hserve
  rw [← hsent] at hserve
  refine ⟨x, response, hx, hserve, hcarries, (@servedBy_append service _ [] x response hserve).2 ?_⟩
  unfold servingEnvironment
  rw [hreply]
  exact window_getD _ _

/-- A client of version 2.0. -/
def plainClient : KmipClient where
  version := ⟨2, 0⟩
  io _ _ _ := .error .diverged
  clock _ := 0
  dateToString _ := Bytes.empty
  isSubjectPublicKeyInfo _ := false

/-- An id of 600000 bytes. -/
def longId (b : UInt8) : Bytes where
  bytes := List.replicate 600000 b
  size_lt := by
    rw [List.length_replicate]
    decide

theorem size_longId (b : UInt8) : (longId b).size = 600000 := List.length_replicate

/-- Two ids that are too long for one response. -/
def longService : LocateService where
  find _ := [longId 1, longId 2]
  mode := .absent
  position offset := offset

/-- The peer of a client that searches for its keys. -/
def longEnvironment : Environment := servingEnvironment longService (plainClient.firstBytes (typeFilter 2) 10)

/-- The service has two ids and honours offsets, and the transport does not fail. The answer to the first request is the
whole list, longer than the limit of a page, and both searches throw. -/
theorem locate_honoursOffsets_exceeds : [longId 1, longId 2].Nodup ∧
    HonoursOffsets (longService.server (typeFilter 2)) [longId 1, longId 2] .absent ∧ longEnvironment.Smooth ∧
    ∃ length history, ServedBy longEnvironment longService [] history ∧
      (overTransport longEnvironment plainClient).locateAll (typeFilter 2) 10 [] =
        .error (tooLong length defaultMaxResponseSize) history ∧
      (overTransport longEnvironment plainClient).opAll 2 10 [] =
        .error (tooLong length defaultMaxResponseSize) history := by
  have hne : longId 1 ≠ longId 2 := by
    intro h
    have hreplicate : List.replicate 600000 (1 : UInt8) = List.replicate 600000 2 := congrArg Bytes.bytes h
    rw [List.replicate_right_inj (by decide)] at hreplicate
    exact absurd hreplicate (by decide)
  have hslice : longService.slice (firstQuery (typeFilter 2) 10) = [longId 1, longId 2] := rfl
  have hids : ((longService.slice (firstQuery (typeFilter 2) 10)).map fun id => id.size + 15).sum + 196 ≤
      SerializationBuffer.reachableCapacity := by
    rw [hslice]
    simp only [List.map_cons, List.map_nil, List.sum_cons, List.sum_nil, size_longId]
    decide
  obtain ⟨x, response, hx, hserve, hcarries, hserved⟩ :=
    @exists_first plainClient longService (typeFilter 2) (by decide) 10 hids
  have hlong : kmipMsgLengthBytes + defaultMaxResponseSize < response.size := by
    refine lt_of_lt_of_le ?_ hcarries.le_size
    show _ < ((longService.slice (firstQuery (typeFilter 2) 10)).map Bytes.size).sum
    rw [hslice]
    simp only [List.map_cons, List.map_nil, List.sum_cons, List.sum_nil, size_longId]
    decide
  have hsmooth : longEnvironment.Smooth := smooth_servingEnvironment _
  obtain ⟨length, hrun⟩ := locateAll_refused hsmooth (by decide) hx hserve hcarries.message hlong hserved
  refine ⟨by simpa using hne, longService.serves_server (by decide), hsmooth, length, [x], hserved, hrun, ?_⟩
  unfold opAll Pages.opAll
  rw [if_neg (by decide)]
  exact bind_error hrun

/-! ## Listings -/

/-- **Listings are exact over the transport.** Over a transport that does not fail, to a peer that is a service whose
answers are within the limits of the requests, a client gets the ids of the service: for a name the first `65536`, for a
group and for a type the first `maxIds`, in the order of the service and each of them once. The service may start any
answer before the offset that it is asked for. -/
theorem search_endToEnd (env : Environment) (c : KmipClient) (service : LocateService) (hsmooth : env.Smooth)
    (hposition : ∀ offset, service.position offset ≤ offset) (hdistinct : ∀ criteria, (service.find criteria).Nodup)
    (oType : UInt32) (start : List Exchanged) :
    (∀ name, Deliverable service ⟨false, name, oType⟩ 65536 →
        ServedBy env service start (finalState ((overTransport env c).opLocateByName name oType start)) →
        ∃ history, (overTransport env c).opLocateByName name oType start =
          .ok ((service.find (LocateFilter.mk false name oType).criteria).take 65536) history) ∧
      ∀ maxIds, 0 < maxIds → maxIds < 2 ^ 31 →
        (∀ group, Deliverable service ⟨true, group, oType⟩ maxIds →
          ServedBy env service start (finalState ((overTransport env c).opLocateByGroup group oType maxIds start)) →
          ∃ history, (overTransport env c).opLocateByGroup group oType maxIds start =
            .ok ((service.find (LocateFilter.mk true group oType).criteria).take maxIds) history) ∧
        (Deliverable service (typeFilter oType) maxIds →
          ServedBy env service start (finalState ((overTransport env c).opAll oType maxIds start)) →
          ∃ history, (overTransport env c).opAll oType maxIds start =
            .ok ((service.find (typeFilter oType).criteria).take maxIds) history) := by
  have hall : ∀ {filter : LocateFilter} {maxIds : Nat}, Deliverable service filter maxIds → 0 < maxIds →
      maxIds < 2 ^ 31 →
      ServedBy env service start (finalState
        (((overTransport env c).locateAll filter maxIds >>= fun outcome => pure outcome.ids) start)) →
      ∃ history, ((overTransport env c).locateAll filter maxIds >>= fun outcome => pure outcome.ids) start =
        .ok ((service.find filter.criteria).take maxIds) history := by
    intro filter maxIds hdeliver hmax hsize hserved
    have hfinal : finalState
          (((overTransport env c).locateAll filter maxIds >>= fun outcome => pure outcome.ids) start) =
        finalState ((overTransport env c).locateAll filter maxIds start) := by
      rw [bind_apply]
      cases (overTransport env c).locateAll filter maxIds start <;> rfl
    rw [hfinal] at hserved
    obtain ⟨outcome, history, hrun, hids⟩ := locateAll_answered hdeliver hposition (hdistinct _) hmax hsize
      (answeredBy_of_servedBy hsmooth hdeliver (emits_locateAll.run start) hserved)
    rw [bind_ok hrun, hids]
    exact ⟨history, rfl⟩
  refine ⟨fun name hdeliver hserved => ?_, fun maxIds hmax hsize => ⟨fun group hdeliver hserved => ?_, ?_⟩⟩
  · exact @hall ⟨false, name, oType⟩ (maxBatchesInSearch * maxItemsInBatch) hdeliver (by decide) (by decide) hserved
  · exact hall hdeliver hmax hsize hserved
  · exact fun hdeliver hserved => opAll_answered hdeliver hposition (hdistinct _) hmax hsize
      (answeredBy_of_servedBy hsmooth hdeliver (emits_opAll.run start) hserved)

/-- Two keys of the group `g`; offsets are ignored. -/
def groupService : LocateService where
  find criteria := if criteria = ⟨some 2, none, some (.ofText "g")⟩ then [.ofText "k2", .ofText "k1"] else []
  mode := .pageCount
  position _ := 0

theorem search_endToEnd_groupService : ∃ history,
    (overTransport (servingEnvironment groupService (plainClient.firstBytes ⟨true, .ofText "g", 2⟩ 10))
      plainClient).opLocateByGroup (.ofText "g") 2 10 [] = .ok [.ofText "k2", .ofText "k1"] history := by
  have hdistinct : ∀ criteria, (groupService.find criteria).Nodup := by
    intro criteria
    unfold groupService
    dsimp only
    split
    · decide
    · exact List.nodup_nil
  have hfind : groupService.find (LocateFilter.mk true (.ofText "g") 2).criteria = [.ofText "k2", .ofText "k1"] := by
    decide
  have hdeliver : Deliverable groupService ⟨true, .ofText "g", 2⟩ 10 :=
    deliverable_of_sum_le (by decide) (by rw [hfind]; decide) 10
  have hslice : groupService.slice (firstQuery ⟨true, .ofText "g", 2⟩ 10) = [.ofText "k2", .ofText "k1"] := by
    unfold LocateService.slice firstQuery
    dsimp only
    rw [hfind]
    rfl
  have hpayload : groupService.payload (firstQuery ⟨true, .ofText "g", 2⟩ 10) =
      ⟨some 2, [.ofText "k2", .ofText "k1"]⟩ := by
    unfold LocateService.payload
    rw [hslice]
    rfl
  obtain ⟨x, response, hx, hserve, hcarries, hserved⟩ := @exists_first plainClient groupService ⟨true, .ofText "g", 2⟩
    (by decide) 10 (by rw [hslice]; decide)
  rw [hpayload] at hcarries
  have hsize : response.size ≤ defaultMaxResponseSize := hcarries.size_le.trans (by decide)
  obtain ⟨paging, hstep⟩ : ∃ paging, pagingStep 10 10 {} [Bytes.ofText "k2", .ofText "k1"] (some 2) =
      .done paging .finished := by
    have hne : Bytes.ofText "k1" ≠ .ofText "k2" := by decide
    simp [pagingStep, mergeNewIds, mergeLoop, hne, locatedTotal]
  have hrun := locateAll_received (smooth_servingEnvironment _) (by decide) hx hserve hcarries hsize hserved hstep
  obtain ⟨-, h⟩ := search_endToEnd _ plainClient groupService (smooth_servingEnvironment _) (fun _ => Nat.zero_le _)
    hdistinct 2 []
  obtain ⟨hgroup, -⟩ := h 10 (by decide) (by decide)
  obtain ⟨history, hall⟩ := hgroup (.ofText "g") hdeliver (by
    unfold opLocateByGroup
    rw [bind_ok hrun]
    exact hserved)
  rw [hfind] at hall
  exact ⟨history, hall⟩

end KmipClient

end Kmip.Client
