import Kmip.Client.LocateFirstSeen
import Kmip.Client.SessionRequests

/-!
# The Locate search over messages

The search of a client asks for each page with a message of its own. What the client sees of the other side is a server
in the sense of `Kmip.Client.Locate` (`pageServer`): its answer to a query is what the exchange of the request gives
after the requests before it. The search over messages refines the search against that server (`search_refines`), so
that what holds for every server holds on the wire: the ids that are returned are those of the responses of this call,
in the order in which they were first seen (`search_firstSeen`).
-/

namespace Kmip.Client

open Hoare

namespace KmipClient

variable (c : KmipClient)

/-! ## One page -/

/-- The request of a page. -/
def pageRequest (query : LocateQuery) : RequestMessage :=
  c.limitedRequest (Int32.ofNat query.maxResponseSize) [locateItem query.filter.byGroup query.filter.filter
    query.filter.oType query.pageSize query.offset c.version]

/-- The page in a response. -/
def readPage (rf : ResponseParser) : Except Abort (LocateResponsePayload Bytes) := do
  let (response, _) ← rf.getResponseByBatchItemId LocateResponseBatchItem.fromBatchItem 1
  .ok ⟨response.locatePayload.uniqueIdentifiers, response.locatePayload.locatedItems⟩

/-- The answer to a query after a history, and the history after it. A request that cannot be sent leaves no trace. -/
def fetch (history : List Exchanged) (query : LocateQuery) :
    Except Abort (LocateResponsePayload Bytes) × List Exchanged :=
  match c.exchanged history (c.pageRequest query) with
  | .error e => (.error e, history)
  | .ok x => (x.reads readPage, history ++ [x])

/-- A query over messages. -/
def ask : Pages.Ask (List Exchanged) Bytes := fun query history =>
  Session.of (c.fetch history query).1 (c.fetch history query).2

theorem ask_of_exchanged {c : KmipClient} {query : LocateQuery} {history : List Exchanged} {x : Exchanged}
    (h : c.exchanged history (c.pageRequest query) = .ok x) :
    c.ask query history = Session.of (x.reads readPage) (history ++ [x]) := by
  unfold ask fetch
  rw [h]

theorem finalState_ask {c : KmipClient} {query : LocateQuery} {history : List Exchanged} {x : Exchanged}
    (h : c.exchanged history (c.pageRequest query) = .ok x) : finalState (c.ask query history) = history ++ [x] := by
  rw [ask_of_exchanged h]
  cases x.reads readPage <;> rfl

/-- The exception for a number that is not an `int32_t`. -/
theorem limitText (text : String) :
    text ++ " exceeds int32_t maximum (" ++ toString int32Max ++ ")" =
      text ++ " exceeds int32_t maximum (2147483647)" := by
  rw [String.append_assoc, String.append_assoc]
  congr 1

/-- A page over messages is the answer to a query, if its numbers are in range. -/
theorem locatePage_eq (filter : LocateFilter) (offset pageSize maxResponseSize : Nat) :
    c.locatePage filter offset pageSize maxResponseSize =
      Pages.locatePage c.ask filter offset pageSize maxResponseSize := by
  unfold Pages.locatePage KmipClient.locatePage RequestMessage.setMaxResponseSize
  by_cases hpos : pageSize = 0
  · rw [if_pos hpos, if_pos hpos]
  rw [if_neg hpos, if_neg hpos, makeRequestMessage_eq, Session.of_ok_bind]
  by_cases hresponse : maxResponseSize > int32Max
  · rw [if_pos hresponse, if_pos (show maxResponseSize > 2147483647 from hresponse), limitText]
    rfl
  rw [if_neg hresponse, if_neg (show ¬maxResponseSize > 2147483647 from hresponse), Session.of_ok_bind]
  unfold LocateRequest
  by_cases hsize : pageSize > int32Max
  · rw [if_pos hsize, if_pos (show pageSize > 2147483647 from hsize), limitText]
    rfl
  rw [if_neg hsize, if_neg (show ¬pageSize > 2147483647 from hsize)]
  by_cases hoffset : offset > int32Max
  · rw [if_pos hoffset, if_pos (show offset > 2147483647 from hoffset), limitText]
    rfl
  rw [if_neg hoffset, if_neg (show ¬offset > 2147483647 from hoffset), Session.of_ok_bind]
  funext history
  have hsend := send_bind (c := c) (c.pageRequest ⟨filter, offset, pageSize, maxResponseSize⟩) readPage
    (fun payload => pure (payload.uniqueIdentifiers, payload.located)) history
  refine Eq.trans ?_ (hsend.trans ?_)
  · refine congrFun (bind_congr fun rf => ?_) history
    unfold readPage
    show Session.of (rf.getResponseByBatchItemId _ 1) >>= _ = _
    cases rf.getResponseByBatchItemId LocateResponseBatchItem.fromBatchItem 1 <;> rfl
  · rw [bind_apply]
    unfold ask fetch
    cases c.exchanged history (c.pageRequest ⟨filter, offset, pageSize, maxResponseSize⟩) with
    | error e => rfl
    | ok x => exact bind_apply _ _ _

/-! ## The server that the client sees -/

/-- The history after the queries of a search. -/
def replay (start : List Exchanged) (exchanges : List (LocateExchange Bytes)) : List Exchanged :=
  exchanges.foldl (fun history x => (c.fetch history x.query).2) start

/-- What the search catches of an exception. A loop that does not end has no counterpart; any exception will do. -/
def caught : Abort → KmipException
  | .thrown e => e
  | .diverged => ⟨.kmipException, kmipReasonGeneralFailure, ""⟩

/-- The answer that the search records. -/
def answerOf : Except Abort (LocateResponsePayload Bytes) → Except KmipException (LocateResponsePayload Bytes)
  | .ok payload => .ok payload
  | .error e => .error (caught e)

/-- A query is answered by its exchange, after the exchanges of the queries before it. The queries of a search have its
filter. -/
def pageServer (start : List Exchanged) (filter : LocateFilter) : LocateServer Bytes := fun exchanges query =>
  answerOf (c.fetch (c.replay start exchanges) { query with filter := filter }).1

/-- The ids in the answer to a request. -/
def pageIds (x : Exchanged) : List Bytes :=
  match answerOf (x.reads readPage) with
  | .ok payload => payload.uniqueIdentifiers
  | .error _ => []

/-- The history of a client and the history of its search: the queries lead to the messages, and the pages are the
same. -/
structure Recorded (start history : List Exchanged) (exchanges : List (LocateExchange Bytes)) : Prop where
  replay_eq : history = c.replay start exchanges
  pages : ∃ part, history = start ++ part ∧ offered exchanges = part.flatMap pageIds

theorem recorded_nil (start : List Exchanged) : c.Recorded start start [] :=
  ⟨rfl, [], (List.append_nil start).symm, rfl⟩

theorem replay_append (start : List Exchanged) (exchanges : List (LocateExchange Bytes)) (x : LocateExchange Bytes) :
    c.replay start (exchanges ++ [x]) = (c.fetch (c.replay start exchanges) x.query).2 :=
  List.foldl_append

theorem offered_append (exchanges : List (LocateExchange Bytes)) (x : LocateExchange Bytes) :
    offered (exchanges ++ [x]) = offered exchanges ++ x.page := by
  simp [offered]

theorem page_answerOf (query : LocateQuery) (x : Exchanged) :
    LocateExchange.page ⟨query, answerOf (x.reads readPage)⟩ = pageIds x := by
  unfold LocateExchange.page pageIds
  cases answerOf (x.reads readPage) <;> rfl

/-- One more query. -/
theorem Recorded.fetch {c : KmipClient} {start history : List Exchanged} {exchanges : List (LocateExchange Bytes)}
    (h : c.Recorded start history exchanges) (query : LocateQuery) :
    c.Recorded start (c.fetch history query).2 (exchanges ++ [⟨query, answerOf (c.fetch history query).1⟩]) := by
  constructor
  · rw [replay_append, ← h.replay_eq]
  · obtain ⟨part, hpart, hpages⟩ := h.pages
    rw [offered_append, hpages]
    unfold KmipClient.fetch
    cases c.exchanged history (c.pageRequest query) with
    | error e => exact ⟨part, hpart, List.append_nil _⟩
    | ok x =>
      refine ⟨part ++ [x], ?_, ?_⟩
      · rw [← List.append_assoc, ← hpart]
      · rw [List.flatMap_append, List.flatMap_singleton, ← page_answerOf query x]

/-! ## Refinement -/

/-- A query over messages is a query to the server. An answer that does not come has no counterpart. -/
theorem refines_ask (start : List Exchanged) (query : LocateQuery) :
    Refines (c.Recorded start) (· = .diverged) (c.ask query) (exchange (c.pageServer start query.filter) query) := by
  constructor
  intro history exchanges h
  have hnext := h.fetch query
  unfold ask exchange pageServer
  rw [← h.replay_eq]
  revert hnext
  generalize (c.fetch history query).2 = history'
  cases (c.fetch history query).1 with
  | ok payload => exact fun hnext => ⟨rfl, hnext⟩
  | error e =>
    cases e with
    | thrown e => exact fun hnext => .inl ⟨rfl, hnext⟩
    | diverged => exact fun _ => .inr rfl

/-- A page over messages is a page of the server. -/
theorem refines_locatePage (start : List Exchanged) (filter : LocateFilter) (maxIds offset pageSize : Nat)
    (hle : pageSize ≤ max maxIds maxItemsInBatch) :
    Refines (c.Recorded start) (· = .diverged)
      (c.locatePage filter offset pageSize (locateResponseSizeLimit pageSize))
      (Client.locatePage (c.pageServer start filter) filter offset pageSize (locateResponseSizeLimit pageSize)) := by
  rw [locatePage_eq]
  refine Pages.related_locatePage (congruence_refines _ _) (fun query hasked => ?_) offset pageSize hle
  rw [← hasked.filter_eq]
  exact c.refines_ask start query

theorem refines_locateAll (start : List Exchanged) (filter : LocateFilter) (maxIds : Nat) :
    Refines (c.Recorded start) (· = .diverged) (c.locateAll filter maxIds)
      (Client.locateAll (c.pageServer start filter) filter maxIds) :=
  Pages.related_locateAll (congruence_refines _ _) (c.refines_locatePage start filter maxIds)

theorem refines_opAll (start : List Exchanged) (oType : UInt32) (maxIds : Nat) :
    Refines (c.Recorded start) (· = .diverged) (c.opAll oType maxIds)
      (Client.opAll (c.pageServer start (typeFilter oType)) oType maxIds) :=
  Pages.related_opAll (congruence_refines _ _) (c.refines_locatePage start (typeFilter oType) maxIds)

/-- **The search over messages is the search against a server.** From related histories both return the same ids and
throw the same exceptions, and leave related histories. -/
theorem search_refines (start : List Exchanged) (filter : LocateFilter) (oType : UInt32) (maxIds : Nat) :
    Refines (c.Recorded start) (· = .diverged) (c.locateAll filter maxIds)
        (Client.locateAll (c.pageServer start filter) filter maxIds) ∧
      Refines (c.Recorded start) (· = .diverged) (c.opAll oType maxIds)
        (Client.opAll (c.pageServer start (typeFilter oType)) oType maxIds) :=
  ⟨c.refines_locateAll start filter maxIds, c.refines_opAll start oType maxIds⟩

/-! ## What is returned -/

/-- The first ids of the answers of a part of the history. -/
def Lists (maxIds : Nat) (history : List Exchanged) (ids : List Bytes) (history' : List Exchanged) : Prop :=
  ∃ part, history' = history ++ part ∧ ids = (List.appendNew [] (part.flatMap pageIds)).take maxIds

/-- What a search collects from its first exchange on. -/
theorem gathered_of_visits {server : LocateServer Bytes} {filter : LocateFilter} {maxIds : Nat} {place : Place Bytes}
    {exchanges : List (LocateExchange Bytes)} (h : Visits server filter maxIds [] place exchanges) :
    Gathered maxIds exchanges place.outcome := by
  obtain ⟨_, rfl, hgathered⟩ := h.gathered
  exact hgathered

theorem gathered_locateAll {server : LocateServer Bytes} {filter : LocateFilter} {maxIds : Nat}
    {exchanges : List (LocateExchange Bytes)} {outcome : LocateOutcome Bytes}
    (h : Client.locateAll server filter maxIds [] = .ok outcome exchanges) : Gathered maxIds exchanges outcome := by
  rcases Nat.eq_zero_or_pos maxIds with rfl | hmax
  · cases h
    exact ⟨rfl, rfl⟩
  · exact gathered_of_visits ((Visits.triple_locateAll hmax).ok rfl h)

theorem gathered_opAll {server : LocateServer Bytes} {oType : UInt32} {maxIds : Nat}
    {exchanges : List (LocateExchange Bytes)} {ids : List Bytes}
    (h : Client.opAll server oType maxIds [] = .ok ids exchanges) :
    ids = (List.appendNew [] (offered exchanges)).take maxIds := by
  rcases Nat.eq_zero_or_pos maxIds with rfl | hmax
  · cases h
    rfl
  · unfold Client.opAll Pages.opAll at h
    rw [if_neg hmax.ne'] at h
    obtain ⟨outcome, exchanges₁, hsearch, h⟩ := bind_eq_ok h
    have hvisits := (Visits.triple_locateAll hmax).ok rfl hsearch
    split at h
    · cases h
      exact (gathered_of_visits hvisits).ids_eq
    · obtain ⟨outcome', exchanges₂, hprobe, h⟩ := bind_eq_ok h
      cases h
      have hprobed := (Visits.triple_probePasses probePageSizes outcome).ok hvisits hprobe
      exact (gathered_of_visits hprobed.1).ids_eq

/-- **What a search over messages returns.** The ids of `locate_all` and of `op_all` are the ids in the answers to the
requests of this call, in the order in which they were first seen, up to `maxIds`; whatever the transport does. -/
theorem search_firstSeen (filter : LocateFilter) (oType : UInt32) (maxIds : Nat) (history : List Exchanged) :
    Triple (fun s => s = history) (c.locateAll filter maxIds) (fun outcome => Lists maxIds history outcome.ids)
        (fun _ _ => True) ∧
      Triple (fun s => s = history) (c.opAll oType maxIds) (Lists maxIds history) (fun _ _ => True) := by
  have hlists : ∀ {history' : List Exchanged} {exchanges : List (LocateExchange Bytes)} {ids : List Bytes},
      c.Recorded history history' exchanges → ids = (List.appendNew [] (offered exchanges)).take maxIds →
        Lists maxIds history ids history' := by
    intro history' exchanges ids hrecorded hids
    obtain ⟨part, hpart, hpages⟩ := hrecorded.pages
    exact ⟨part, hpart, by rw [hids, hpages]⟩
  constructor
  · constructor
    rintro history rfl
    cases hrun : c.locateAll filter maxIds history with
    | error => trivial
    | ok outcome history' =>
      obtain ⟨exchanges, hsearch, hrecorded⟩ :=
        (c.refines_locateAll history filter maxIds).ok (c.recorded_nil history) hrun
      exact hlists hrecorded (gathered_locateAll hsearch).ids_eq
  · constructor
    rintro history rfl
    cases hrun : c.opAll oType maxIds history with
    | error => trivial
    | ok ids history' =>
      obtain ⟨exchanges, hsearch, hrecorded⟩ :=
        (c.refines_opAll history oType maxIds).ok (c.recorded_nil history) hrun
      exact hlists hrecorded (gathered_opAll hsearch)

end KmipClient

end Kmip.Client
