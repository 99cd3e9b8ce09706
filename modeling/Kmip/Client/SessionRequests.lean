import Kmip.Client.Operations
import Kmip.Core.BatchItemIds
import Kmip.Core.RequestPayloads

/-!
# What a session sends

`Operation.Asks` are the requests that an operation is for: one item for a command or a query, Get and Get Attributes
for an object, Get with a format for a key that is asked for again, pages of a search. For every transport and every
list of operations:

- the history of a session is cut into one part for each operation, in their order; a part holds requests of its
  operation only, and of a command at most one (`performAll_parts`);
- a server that decodes the bytes of a request gets the items that the operation asks for, under the version of the
  client, with distinct ids, the number of the items and the time (`performAll_decode`).

Both follow from the steps that an operation moves the history by (`moves_perform`).
-/

namespace Kmip.Client

open Element Hoare
open Relation (ReflTransGen)

/-! ## What operations ask for -/

/-- The item of a command. -/
def Command.item (version : ProtocolVersion) : Command → Except Abort RequestBatchItem
  | registerKey name group k => RegisterKeyRequest name group k version
  | registerSecret name group secret =>
    .ok (RegisterSecretRequest name group secret.value secret.secretType version)
  | createAesKey name group keySize usageMask =>
    .ok (CreateSymmetricKeyRequest name group keySize.bits usageMask version)
  | activate id => .ok (SimpleIdRequest kmipOpActivate id)
  | revoke id reason message occurrenceTime => .ok (RevokeRequest id reason message occurrenceTime)
  | destroy id => .ok (SimpleIdRequest kmipOpDestroy id)

namespace Operation

/-- The item of an operation that sends a single one. -/
def single (version : ProtocolVersion) : Operation → Option (Except Abort RequestBatchItem)
  | change command => some (command.item version)
  | getAttributeList id => some (.ok (SimpleIdRequest kmipOpGetAttributeList id))
  | discoverVersions => some (.ok discoverVersionsItem)
  | query => some (.ok queryItem)
  | _ => none

/-- The id of an object that is fetched, and the names of its attributes. -/
def object : Operation → Option (Bytes × List Bytes)
  | getKey id allAttributes => some (id, defaultGetKeyAttrs allAttributes)
  | getSecret id allAttributes => some (id, defaultGetSecretAttrs allAttributes)
  | _ => none

/-- The filter of a search. -/
def filter : Operation → Option LocateFilter
  | locateByName name oType => some ⟨false, name, oType⟩
  | locateByGroup group oType _ => some ⟨true, group, oType⟩
  | locatePageByGroup group oType _ _ => some ⟨true, group, oType⟩
  | all oType _ => some (typeFilter oType)
  | allPage oType _ _ => some (typeFilter oType)
  | _ => none

/-- The largest number of requests that an operation sends: up to three attempts to fetch, each with up to two formats
to ask for again, and the pages of a search. -/
def maxRequests : Operation → Nat
  | getKey _ _ => 3 + (3 + 3)
  | getSecret _ _ | getAttributes _ _ => 1 + (1 + 1)
  | locateByName _ _ => Pages.locateRequests (maxBatchesInSearch * maxItemsInBatch)
  | locateByGroup _ _ maxIds => Pages.locateRequests maxIds
  | all _ maxIds => Pages.allRequests maxIds
  | _ => 1

/-- The items of a request that is sent for an operation. -/
inductive Asks (version : ProtocolVersion) (operation : Operation) : List RequestBatchItem → Prop
  | single {item} (h : operation.single version = some (.ok item)) : Asks version operation [item]
  | object {id names attempt} (h : operation.object = some (id, names)) (ha : attempt ∈ attempts names) :
      Asks version operation [GetRequest id none,
        GetAttributesRequest id attempt.selectors version attempt.legacyAttributeNamesForV2]
  | format {id allAttributes objectType format} (h : operation = getKey id allAttributes)
      (hf : format ∈ preferredKeyFormats objectType) : Asks version operation [GetRequest id (some format)]
  | attributes {id names attempt} (h : operation = getAttributes id names) (ha : attempt ∈ attempts names) :
      Asks version operation [GetAttributesRequest id attempt.selectors version attempt.legacyAttributeNamesForV2]
  | page {filter maxItems offset item} (h : operation.filter = some filter) (hpos : 0 < maxItems)
      (hitem : LocateRequest filter.byGroup filter.filter filter.oType maxItems offset version = .ok item) :
      Asks version operation [item]

end Operation

namespace KmipClient

variable (c : KmipClient)

/-- A request with the given items and Maximum Response Size. -/
def limitedRequest (limit : Int32) (items : List RequestBatchItem) : RequestMessage :=
  { c.request items with header := { protocolVersion := c.version, maximumResponseSize := some limit } }

/-- A request that is sent for an operation. -/
def RequestFor (operation : Operation) (m : RequestMessage) : Prop :=
  ∃ items limit, operation.Asks c.version items ∧ m = c.limitedRequest limit items

/-- The history grows by the exchange of a request with `Q`. -/
def Emits (Q : RequestMessage → Prop) (history history' : List Exchanged) : Prop :=
  ∃ request x, Q request ∧ c.exchanged history request = .ok x ∧ history' = history ++ [x]

end KmipClient

/-! ## The steps of an operation -/

section Moves

variable {A : List Exchanged → List Exchanged → Prop} {α β : Type}

theorem moves_of (x : Except Abort α) : Moves A (Session.of x) := by
  constructor
  intro history
  cases x with
  | ok a => exact .refl
  | error e => exact .refl

theorem moves_of_bind {x : Except Abort α} {f : α → Session β} (h : ∀ a, x = .ok a → Moves A (f a)) :
    Moves A (Session.of x >>= f) := by
  cases x with
  | ok a => exact h a rfl
  | error e => exact ⟨fun _ => .refl⟩

end Moves

namespace KmipClient

variable {c : KmipClient} {Q : RequestMessage → Prop} {operation : Operation} {α : Type}

theorem moves_send {request : RequestMessage} (h : Q request) : Moves (c.Emits Q) (c.send request) := by
  constructor
  intro history
  rw [c.send_eq]
  cases hx : c.exchanged history request with
  | error e => exact .refl
  | ok x =>
    have hfinal : finalState (Session.of (x.reads .ok) (history ++ [x])) = history ++ [x] := by
      cases x.reads .ok <;> rfl
    dsimp only
    rw [hfinal]
    exact .single ⟨request, x, h, hx, rfl⟩

/-- An operation with one item. -/
theorem moves_exchangeItem {item : ProtocolVersion → Except Abort RequestBatchItem}
    {fromBatchItem : ResponseBatchItem → Except Abort α} (h : ∀ i, item c.version = .ok i → Q (c.request [i])) :
    Moves (c.Emits Q) (c.exchangeItem item fromBatchItem) := by
  rw [exchangeItem, makeRequestMessage_eq, Session.of_ok_bind]
  refine moves_of_bind fun i hi => ?_
  refine (moves_send (h i hi)).bind fun rf => ?_
  exact (moves_of _).bind fun _ => moves_pure _

theorem moves_withRetries {A : List Exchanged → List Exchanged → Prop} {execute : Attempt → Session α}
    {names : List Bytes} (h : ∀ attempt ∈ attempts names, Moves A (execute attempt)) :
    Moves A (c.withRetries execute names) := by
  simp only [attempts, List.forall_mem_cons] at h
  obtain ⟨hfirst, hlegacy, hnone, -⟩ := h
  refine hfirst.tryCatch fun firstError => moves_ite (fun _ => moves_throw firstError) fun _ => ?_
  exact hlegacy.tryCatch fun secondError => moves_ite (fun _ => moves_throw secondError) fun _ => hnone

theorem moves_askFormats (id : Bytes) : ∀ {formats : List Int32}, (∀ format ∈ formats, Q (c.reGet id format)) →
    Moves (c.Emits Q) (c.askFormats id formats)
  | [], _ => moves_pure none
  | format :: formats, h => by
    rw [List.forall_mem_cons] at h
    rw [askFormats, makeRequestMessage_eq, Session.of_ok_bind]
    refine (moves_send (show Q (c.reGet id format) from h.1)).bind fun rf => ?_
    refine (moves_of _).bind fun key => ?_
    cases key with
    | none => exact moves_askFormats id h.2
    | some key => exact moves_pure (some key)

theorem moves_keyFromGetResponse (id : Bytes) (response : GetResponseBatchItem)
    (h : ∀ format ∈ preferredKeyFormats response.objectType, Q (c.reGet id format)) :
    Moves (c.Emits Q) (c.keyFromGetResponse id response) := by
  refine moves_ite (fun _ => moves_of _) fun _ => (moves_of _).bind fun key => ?_
  cases key with
  | some key => exact moves_pure key
  | none =>
    refine (moves_askFormats id h).bind fun key => ?_
    cases key with
    | some key => exact moves_pure key
    | none => exact moves_of _

/-! ### The requests -/

/-- Without a limit of its own a request has the default one. -/
theorem requestFor_of_asks {items : List RequestBatchItem} (h : operation.Asks c.version items)
    (hheader : (c.request items).header = c.emptyRequest.header) : c.RequestFor operation (c.request items) := by
  refine ⟨items, Int32.ofNat defaultMaxResponseSize, h, ?_⟩
  rw [limitedRequest]
  exact congrArg (fun header => { c.request items with header := header }) hheader

/-- The operations that send a single item. -/
theorem moves_single {item : ProtocolVersion → Except Abort RequestBatchItem}
    {fromBatchItem : ResponseBatchItem → Except Abort α} (h : operation.single c.version = some (item c.version)) :
    Moves (c.Emits (c.RequestFor operation)) (c.exchangeItem item fromBatchItem) :=
  moves_exchangeItem fun i hi => requestFor_of_asks (.single (by rw [h, hi])) rfl

theorem moves_getKeyAttempt {id : Bytes} {allAttributes : Bool} {attempt : Attempt}
    (h : attempt ∈ attempts (defaultGetKeyAttrs allAttributes)) :
    Moves (c.Emits (c.RequestFor (.getKey id allAttributes))) (c.getKeyAttempt id attempt) := by
  rw [getKeyAttempt, makeRequestMessage_eq, Session.of_ok_bind]
  refine (moves_send (requestFor_of_asks (.object rfl h) rfl)).bind fun rf => (moves_of _).bind fun read => ?_
  refine (moves_keyFromGetResponse id read.1 fun format hf => ?_).bind fun key => moves_pure _
  exact requestFor_of_asks (.format rfl hf) rfl

theorem moves_getSecretAttempt {id : Bytes} {allAttributes : Bool} {attempt : Attempt}
    (h : attempt ∈ attempts (defaultGetSecretAttrs allAttributes)) :
    Moves (c.Emits (c.RequestFor (.getSecret id allAttributes))) (c.getSecretAttempt id allAttributes attempt) := by
  rw [getSecretAttempt, makeRequestMessage_eq, Session.of_ok_bind]
  exact (moves_send (requestFor_of_asks (.object rfl h) rfl)).bind fun rf => moves_of _

theorem moves_getAttributesAttempt {id : Bytes} {names : List Bytes} {attempt : Attempt}
    (h : attempt ∈ attempts names) :
    Moves (c.Emits (c.RequestFor (.getAttributes id names))) (c.getAttributesAttempt id attempt) := by
  rw [getAttributesAttempt, makeRequestMessage_eq, Session.of_ok_bind]
  exact (moves_send (requestFor_of_asks (.attributes rfl h) rfl)).bind fun rf => moves_of _

theorem moves_opGetKey (id : Bytes) (allAttributes : Bool) :
    Moves (c.Emits (c.RequestFor (.getKey id allAttributes))) (c.opGetKey id allAttributes) :=
  moves_withRetries fun _ h => moves_getKeyAttempt h

theorem moves_opGetSecret (id : Bytes) (allAttributes : Bool) :
    Moves (c.Emits (c.RequestFor (.getSecret id allAttributes))) (c.opGetSecret id allAttributes) :=
  moves_withRetries fun _ h => moves_getSecretAttempt h

theorem moves_opGetAttributes (id : Bytes) (attrNames : List Bytes) :
    Moves (c.Emits (c.RequestFor (.getAttributes id attrNames))) (c.opGetAttributes id attrNames) :=
  moves_withRetries fun _ h => moves_getAttributesAttempt h

theorem moves_locatePage {filter : LocateFilter} (h : operation.filter = some filter)
    (offset pageSize maxResponseSize : Nat) :
    Moves (c.Emits (c.RequestFor operation)) (c.locatePage filter offset pageSize maxResponseSize) := by
  refine moves_ite (fun _ => moves_pure _) fun hpos => ?_
  rw [makeRequestMessage_eq, Session.of_ok_bind]
  refine moves_of_bind fun request hrequest => moves_of_bind fun item hitem => ?_
  unfold RequestMessage.setMaxResponseSize at hrequest
  split at hrequest
  · cases hrequest
  · cases hrequest
    have hasks : operation.Asks c.version [item] := .page h (Nat.pos_of_ne_zero hpos) hitem
    refine (moves_send ⟨[item], Int32.ofNat maxResponseSize, hasks, rfl⟩).bind fun rf => ?_
    exact (moves_of _).bind fun _ => moves_pure _

/-- Every operation moves the history by requests that it asks for. -/
theorem moves_perform (c : KmipClient) (operation : Operation) :
    Moves (c.Emits (c.RequestFor operation)) (c.perform operation) := by
  cases operation with
  | change command =>
    refine Moves.bind ?_ fun _ => moves_pure ()
    cases command <;> exact (moves_single rfl).bind fun _ => moves_pure _
  | getAttributeList | discoverVersions | query =>
    exact ((moves_single rfl).bind fun _ => moves_pure _).bind fun _ => moves_pure ()
  | getKey id allAttributes => exact (moves_opGetKey id allAttributes).bind fun _ => moves_pure ()
  | getSecret id allAttributes => exact (moves_opGetSecret id allAttributes).bind fun _ => moves_pure ()
  | getAttributes id attrNames => exact (moves_opGetAttributes id attrNames).bind fun _ => moves_pure ()
  | locateByName | locateByGroup =>
    exact ((Pages.moves_locateAll (moves_locatePage rfl) _).bind fun _ => moves_pure _).bind fun _ => moves_pure ()
  | locatePageByGroup | allPage => exact (moves_locatePage rfl _ _ _).bind fun _ => moves_pure ()
  | all oType maxIds => exact (Pages.moves_opAll (moves_locatePage rfl) maxIds).bind fun _ => moves_pure ()

/-! ## How many requests an operation sends -/

theorem costs_of {n : Nat} (x : Except Abort α) : Costs List.length n (Session.of x) := by
  constructor
  intro history
  cases x with
  | ok a => exact Nat.le_add_right _ _
  | error e => exact Nat.le_add_right _ _

theorem costs_send (request : RequestMessage) : Costs List.length 1 (c.send request) := by
  constructor
  intro history
  rw [c.send_eq]
  cases hx : c.exchanged history request with
  | error e => exact Nat.le_add_right _ _
  | ok x =>
    dsimp only
    cases x.reads .ok with
    | ok a => exact (List.length_append ..).le
    | error e => exact (List.length_append ..).le

theorem costs_exchangeItem (item : ProtocolVersion → Except Abort RequestBatchItem)
    (fromBatchItem : ResponseBatchItem → Except Abort α) :
    Costs List.length 1 (c.exchangeItem item fromBatchItem) := by
  rw [exchangeItem, makeRequestMessage_eq, Session.of_ok_bind]
  refine Costs.bind (n := 0) (k := 1) (costs_of _) fun i => Costs.bind (k := 0) (costs_send _) fun rf => ?_
  exact Costs.bind (n := 0) (k := 0) (costs_of _) fun _ => costs_pure _

theorem costs_locatePage (filter : LocateFilter) (offset pageSize maxResponseSize : Nat) :
    Costs List.length 1 (c.locatePage filter offset pageSize maxResponseSize) := by
  refine costs_ite (fun _ => costs_pure _) fun _ => ?_
  rw [makeRequestMessage_eq, Session.of_ok_bind]
  refine Costs.bind (n := 0) (k := 1) (costs_of _) fun request => Costs.bind (n := 0) (k := 1) (costs_of _) fun i => ?_
  exact Costs.bind (k := 0) (costs_send _) fun rf => Costs.bind (n := 0) (k := 0) (costs_of _) fun _ => costs_pure _

theorem costs_askFormats (id : Bytes) : ∀ formats : List Int32,
    Costs List.length formats.length (c.askFormats id formats)
  | [] => costs_pure none
  | format :: formats => by
    rw [askFormats, makeRequestMessage_eq, Session.of_ok_bind, List.length_cons, Nat.add_comm]
    refine (costs_send _).bind fun rf => Costs.mono (n := 0 + formats.length) ?_ (Nat.zero_add _).le
    refine (costs_of _).bind fun key => ?_
    cases key with
    | none => exact costs_askFormats id formats
    | some key => exact costs_pure (some key)

theorem costs_keyFromGetResponse (id : Bytes) (response : GetResponseBatchItem) :
    Costs List.length 2 (c.keyFromGetResponse id response) := by
  refine costs_ite (fun _ => costs_of _) fun _ => Costs.bind (n := 0) (k := 2) (costs_of _) fun key => ?_
  cases key with
  | some key => exact costs_pure key
  | none =>
    refine Costs.bind (n := 2) (k := 0) ((costs_askFormats id _).mono (length_preferredKeyFormats_le _)) fun key => ?_
    cases key with
    | some key => exact costs_pure key
    | none => exact costs_of _

theorem costs_withRetries {n : Nat} {execute : Attempt → Session α}
    (h : ∀ attempt, Costs List.length n (execute attempt)) (names : List Bytes) :
    Costs List.length (n + (n + n)) (c.withRetries execute names) := by
  refine (h _).tryCatch fun firstError => costs_ite (fun _ => costs_throw firstError) fun _ => ?_
  exact (h _).tryCatch fun secondError => costs_ite (fun _ => costs_throw secondError) fun _ => h _

theorem costs_getKeyAttempt (id : Bytes) (attempt : Attempt) :
    Costs List.length 3 (c.getKeyAttempt id attempt) := by
  rw [getKeyAttempt, makeRequestMessage_eq, Session.of_ok_bind]
  refine Costs.bind (n := 1) (k := 2) (costs_send _) fun rf => Costs.bind (n := 0) (k := 2) (costs_of _) fun read => ?_
  exact Costs.bind (k := 0) (costs_keyFromGetResponse id read.1) fun key => costs_pure _

theorem costs_getSecretAttempt (id : Bytes) (allAttributes : Bool) (attempt : Attempt) :
    Costs List.length 1 (c.getSecretAttempt id allAttributes attempt) := by
  rw [getSecretAttempt, makeRequestMessage_eq, Session.of_ok_bind]
  exact Costs.bind (k := 0) (costs_send _) fun rf => costs_of _

theorem costs_getAttributesAttempt (id : Bytes) (attempt : Attempt) :
    Costs List.length 1 (c.getAttributesAttempt id attempt) := by
  rw [getAttributesAttempt, makeRequestMessage_eq, Session.of_ok_bind]
  exact Costs.bind (k := 0) (costs_send _) fun rf => costs_of _

theorem costs_perform (c : KmipClient) (operation : Operation) :
    Costs List.length operation.maxRequests (c.perform operation) := by
  have hunit : ∀ {α : Type} {n : Nat} {m : Session α}, Costs List.length n m →
      Costs List.length n (m >>= fun _ => pure ()) := fun h => h.bind (k := 0) fun _ => costs_pure ()
  have hone : ∀ {α β : Type} {item : ProtocolVersion → Except Abort RequestBatchItem}
      {fromBatchItem : ResponseBatchItem → Except Abort α} {f : α → β},
      Costs List.length 1 (c.exchangeItem item fromBatchItem >>= fun a => pure (f a)) :=
    (costs_exchangeItem _ _).bind (k := 0) fun _ => costs_pure _
  cases operation with
  | change command => cases command <;> exact hunit hone
  | getAttributeList | discoverVersions | query => exact hunit hone
  | getKey id allAttributes => exact hunit (costs_withRetries (costs_getKeyAttempt id) _)
  | getSecret id allAttributes => exact hunit (costs_withRetries (costs_getSecretAttempt id allAttributes) _)
  | getAttributes id attrNames => exact hunit (costs_withRetries (costs_getAttributesAttempt id) _)
  | locateByName name oType =>
    have h := Pages.costs_locateAll (@costs_locatePage c) ⟨false, name, oType⟩ (maxBatchesInSearch * maxItemsInBatch)
    exact hunit (h.bind (k := 0) fun outcome => costs_pure outcome.ids)
  | locateByGroup group oType maxIds =>
    have h := Pages.costs_locateAll (@costs_locatePage c) ⟨true, group, oType⟩ maxIds
    exact hunit (h.bind (k := 0) fun outcome => costs_pure outcome.ids)
  | locatePageByGroup | allPage => exact hunit (costs_locatePage _ _ _ _)
  | all oType maxIds => exact hunit (Pages.costs_opAll costs_locatePage oType maxIds)

/-! ## Histories -/

/-- The exchanges of a run, each after those before it. -/
theorem exchanged_of_emits {history history' : List Exchanged} (h : ReflTransGen (c.Emits Q) history history') :
    ∃ part, history' = history ++ part ∧
      ∀ i x, part[i]? = some x → ∃ request, Q request ∧ c.exchanged (history ++ part.take i) request = .ok x := by
  induction h with
  | refl => exact ⟨[], (List.append_nil _).symm, by simp⟩
  | tail _ hstep ih =>
    obtain ⟨part, rfl, hpart⟩ := ih
    obtain ⟨request, y, hrequest, hy, rfl⟩ := hstep
    refine ⟨part ++ [y], List.append_assoc _ _ _, fun i x hx => ?_⟩
    rcases Nat.lt_or_ge i part.length with hi | hi
    · rw [List.getElem?_append_left hi] at hx
      rw [List.take_append_of_le_length hi.le]
      exact hpart i x hx
    · -- the exchange that was added
      rw [List.getElem?_append_right hi, List.getElem?_singleton] at hx
      obtain ⟨hzero, ⟨⟩⟩ := Option.ite_none_right_eq_some.1 hx
      rw [List.take_left' (by omega)]
      exact ⟨request, hrequest, hy⟩

/-- One part of the history for each operation. -/
theorem exists_parts (c : KmipClient) : ∀ (operations : List Operation) (history : List Exchanged),
    ∃ parts : List (List Exchanged), c.performAll operations history = history ++ parts.flatten ∧
      List.Forall₂ (fun operation part => (∀ x ∈ part, c.RequestFor operation x.request) ∧
        part.length ≤ operation.maxRequests) operations parts
  | [], history => ⟨[], (List.append_nil _).symm, .nil⟩
  | operation :: operations, history => by
    obtain ⟨part, hfinal, hpart⟩ := exchanged_of_emits ((moves_perform c operation).run history)
    obtain ⟨parts, hparts, hall⟩ := exists_parts c operations (finalState (c.perform operation history))
    refine ⟨part :: parts, ?_, .cons ⟨fun x hx => ?_, ?_⟩ hall⟩
    · rw [performAll, hparts, hfinal, List.flatten_cons, List.append_assoc]
    · obtain ⟨i, hi⟩ := List.mem_iff_getElem?.1 hx
      obtain ⟨request, hrequest, hexchanged⟩ := hpart i x hi
      rwa [exchanged_request hexchanged]
    · have hcost := (costs_perform c operation).run history
      rw [hfinal, List.length_append] at hcost
      omega

/-- A session sends requests for its operations only, in their order, and for each of them at most as many as the
operation may take; for a command that is one. -/
theorem performAll_parts (c : KmipClient) (operations : List Operation) :
    ∃ parts : List (List Exchanged), c.performAll operations [] = parts.flatten ∧
      List.Forall₂ (fun operation part => (∀ x ∈ part, c.RequestFor operation x.request) ∧
        part.length ≤ operation.maxRequests) operations parts :=
  exists_parts c operations []

/-! ## What a server decodes -/

theorem length_asks {version : ProtocolVersion} {items : List RequestBatchItem} (h : operation.Asks version items) :
    0 < items.length ∧ items.length ≤ 2 := by
  cases h <;> simp

theorem payloadOk_command {version : ProtocolVersion} {command : Command} {item : RequestBatchItem}
    (h : command.item version = .ok item) : ∀ p ∈ item.requestPayload, PayloadOk p := by
  cases command with
  | registerKey name group k => exact payloadOk_RegisterKeyRequest h
  | registerSecret name group secret =>
    cases h
    exact payloadOk_RegisterSecretRequest _ _ _ _ _
  | createAesKey name group keySize usageMask =>
    cases h
    exact payloadOk_CreateSymmetricKeyRequest _ _ _ _ _
  | activate | destroy =>
    cases h
    exact payloadOk_SimpleIdRequest _ _
  | revoke id reason message occurrenceTime =>
    cases h
    exact payloadOk_RevokeRequest _ _ _ _

/-- The codec carries every request. -/
theorem payloadOk_of_asks {version : ProtocolVersion} {items : List RequestBatchItem}
    (h : operation.Asks version items) : ∀ item ∈ items, ∀ p ∈ item.requestPayload, PayloadOk p := by
  cases h with
  | @single item h =>
    rw [List.forall_mem_singleton]
    cases operation with
    | change command => exact payloadOk_command (Option.some.inj h)
    | getAttributeList id =>
      cases h
      exact payloadOk_SimpleIdRequest _ _
    | discoverVersions =>
      cases h
      exact payloadOk_createStructure (n := 0) (by decide) nofun
    | query =>
      cases h
      exact payloadOk_createStructure (n := 0) (by decide)
        (List.forall_mem_map.2 fun _ _ => carried_createEnumeration (by decide) _)
    | _ => cases h
  | @object id names attempt h ha =>
    simp only [List.forall_mem_cons]
    exact ⟨payloadOk_GetRequest id none, payloadOk_GetAttributesRequest _ _ _ _, nofun⟩
  | format => exact List.forall_mem_singleton.2 (payloadOk_GetRequest _ _)
  | attributes => exact List.forall_mem_singleton.2 (payloadOk_GetAttributesRequest _ _ _ _)
  | page h hpos hitem => exact List.forall_mem_singleton.2 (payloadOk_LocateRequest hitem)

/-- Adding items changes their ids only. -/
theorem payloads_addBatchItems : ∀ (items : List RequestBatchItem) (m : RequestMessage),
    (items.foldl (fun m item => (m.addBatchItem item).2) m).batchItems.map (·.requestPayload) =
      m.batchItems.map (·.requestPayload) ++ items.map (·.requestPayload)
  | [], m => (List.append_nil _).symm
  | item :: items, m => by
    rw [List.foldl_cons, payloads_addBatchItems items, RequestMessage.addBatchItem, List.map_append, List.append_assoc]
    rfl

theorem payloadOk_request {items : List RequestBatchItem} (h : operation.Asks c.version items) :
    ∀ item ∈ (c.request items).batchItems, ∀ p ∈ item.requestPayload, PayloadOk p := by
  have hpayloads : (c.request items).batchItems.map (·.requestPayload) = items.map (·.requestPayload) :=
    payloads_addBatchItems items c.emptyRequest
  intro item hitem
  have hmem := List.mem_map_of_mem (f := (·.requestPayload)) hitem
  rw [hpayloads] at hmem
  obtain ⟨item', hitem', heq⟩ := List.mem_map.1 hmem
  rw [← heq]
  exact payloadOk_of_asks h item' hitem'

/-- The ids of a request count its items. -/
theorem assigned_request (c : KmipClient) (items : List RequestBatchItem) :
    RequestMessage.Assigned [] items.length (c.request items) := by
  have h := (RequestMessage.assigned_new c.makeRequestMessage_eq).addBatchItems items
  rwa [Nat.zero_add] at h

theorem length_batchItems_request (c : KmipClient) (items : List RequestBatchItem) :
    (c.request items).batchItems.length = items.length := by
  have h := congrArg List.length (c.assigned_request items).ids_eq
  simpa [RequestMessage.ids, RequestMessage.counted] using h

/-- What a server makes of the bytes of a request for an operation. -/
structure Receives (c : KmipClient) (operation : Operation) (now : Int64) (bytes : List UInt8)
    (received : RequestMessage) : Prop where
  decode : ∃ data : Bytes, data.bytes = bytes ∧ RequestMessage.decode data = .ok received
  items : ∃ items, operation.Asks c.version items ∧ received.batchItems = (c.request items).batchItems
  uniqueIds : received.UniqueIds
  protocolVersion : received.header.protocolVersion = c.version
  batchCount : received.header.batchCount.toInt = received.batchItems.length
  timeStamp : received.header.timeStamp = some now

/-- Whatever is serialized for an operation is received as such. -/
theorem RequestFor.receives {m : RequestMessage} (h : c.RequestFor operation m) {now : Int64} {bytes : List UInt8}
    (hs : m.serialize now = .ok bytes) : ∃ received, c.Receives operation now bytes received := by
  obtain ⟨items, limit, hasks, rfl⟩ := h
  obtain ⟨-, hle⟩ := length_asks hasks
  have hlength : (c.limitedRequest limit items).batchItems.length = items.length := c.length_batchItems_request items
  have hids : (c.request items).UniqueIds := by
    refine ((c.assigned_request items).unique_iff (List.forall_mem_nil _) .nil).2 ⟨?_, List.forall_mem_nil _⟩
    rw [List.length_nil, Nat.zero_add]
    exact hle.trans_lt (by decide)
  have hcount : (Int32.ofNat items.length).toInt = items.length :=
    Int32.toInt_ofNat_of_lt (hle.trans_lt (by decide))
  have hp : ∀ item ∈ (c.limitedRequest limit items).batchItems, ∀ p ∈ item.requestPayload, PayloadOk p :=
    payloadOk_request hasks
  have hitems : (c.limitedRequest limit items).batchItems = (c.request items).batchItems := rfl
  refine ⟨_, RequestMessage.exists_decode hp hs, ⟨items, hasks, hitems⟩, ⟨?_, ?_⟩, rfl, ?_, rfl⟩
  · exact hids.nonzero
  · exact hids.nodup
  · show (Int32.ofNat (c.limitedRequest limit items).batchItems.length).toInt = _
    rw [hlength, hcount]

/-- The steps of a whole session. -/
theorem performAll_emits (c : KmipClient) : ∀ (operations : List Operation) (history : List Exchanged),
    ReflTransGen (c.Emits fun m => ∃ operation ∈ operations, c.RequestFor operation m) history
      (c.performAll operations history)
  | [], _ => .refl
  | operation :: operations, history => by
    have hfirst := (moves_perform c operation).run history
    have hrest := performAll_emits c operations (finalState (c.perform operation history))
    refine (Relation.ReflTransGen.mono ?_ _ _ hfirst).trans (Relation.ReflTransGen.mono ?_ _ _ hrest)
    · rintro _ _ ⟨request, x, h, hx⟩
      exact ⟨request, x, ⟨operation, List.mem_cons_self, h⟩, hx⟩
    · rintro _ _ ⟨request, x, ⟨operation', hmem, h⟩, hx⟩
      exact ⟨request, x, ⟨operation', List.mem_cons_of_mem _ hmem, h⟩, hx⟩

/-- **What a session sends is what its operations ask for.** A server that decodes the bytes of the exchange at position
`i` gets a request for one of the operations, with the version of the client, unique ids, the number of its items and
the time of the exchange. -/
theorem performAll_decode (c : KmipClient) (operations : List Operation) (i : Nat) (x : Exchanged)
    (hx : (c.performAll operations [])[i]? = some x) :
    ∃ operation ∈ operations, ∃ received, c.Receives operation (c.clock i) x.sent received := by
  obtain ⟨part, hpart, hall⟩ := exchanged_of_emits (c.performAll_emits operations [])
  rw [hpart, List.nil_append] at hx
  obtain ⟨request, ⟨operation, hmem, hrequest⟩, hexchanged⟩ := hall i x hx
  refine ⟨operation, hmem, ?_⟩
  obtain ⟨bytes, hs, hx'⟩ := Except.bind_eq_ok_iff.1 hexchanged
  cases hx'
  have hi : ([] ++ part.take i).length = i := by
    obtain ⟨hlt, -⟩ := List.getElem?_eq_some_iff.1 hx
    rw [List.nil_append, List.length_take, Nat.min_eq_left hlt.le]
  rw [hi] at hs
  exact hrequest.receives hs

/-- The second request of a session whose server refuses everything. -/
theorem performAll_decode_refused : ∃ x,
    ((refused ⟨1, 4⟩ 3).performAll [.change (.activate (.ofText "k")), .query] [])[1]? = some x ∧
      ∃ operation ∈ [Operation.change (.activate (.ofText "k")), .query],
        ∃ received, (refused ⟨1, 4⟩ 3).Receives operation 0 x.sent received := by
  have hlength : ((refused ⟨1, 4⟩ 3).performAll [.change (.activate (.ofText "k")), .query] []).length = 2 := by
    decide +kernel
  have hx := List.getElem?_eq_getElem (hlength.symm ▸ Nat.one_lt_two)
  exact ⟨_, hx, performAll_decode _ _ 1 _ hx⟩

end KmipClient

end Kmip.Client
