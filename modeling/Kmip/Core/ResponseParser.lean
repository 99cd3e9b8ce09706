import Mathlib.Data.List.AList
import Kmip.Core.ErrorTexts
import Kmip.Core.Protocol
import Kmip.Core.Codec

/-!
# `ResponseParser`

The parser keeps the response bytes, parses them at the first access, and finds the response item of a request item by
its unique batch item id: first by the id that the server echoes, then by the position of the item in the request,
which the constructor has recorded for servers that echo no ids.

The fallback looks at the position only. `getResponseItemByBatchItemId_echo_iff` says exactly when the item that it
finds can be that of the request item.
-/

namespace Kmip

open Element

structure ResponseParser where
  responseBytes : Bytes
  responseMessage : ResponseMessage := {}
  isParsed : Bool := false
  operationHints : AList (fun _ : UInt32 => Int32) := ∅
  batchItemPositions : AList (fun _ : UInt32 => Nat) := ∅

namespace ResponseParser

/-! ## Construction -/

/-- The loop of the constructor over the batch items of the request. -/
def addHints (parser : ResponseParser) (pos : Nat) : List RequestBatchItem → ResponseParser
  | [] => parser
  | item :: items =>
    addHints
      { parser with
        operationHints := parser.operationHints.insert item.uniqueBatchItemId item.operation
        batchItemPositions := parser.batchItemPositions.insert item.uniqueBatchItemId pos }
      (pos + 1) items

/-- `ResponseParser(responseBytes, request)`. -/
def ofRequest (responseBytes : Bytes) (request : RequestMessage) : ResponseParser :=
  addHints { responseBytes := responseBytes } 0 request.batchItems

/-! ## Parsing and lookup -/

def parseResponse (parser : ResponseParser) : Except Abort ResponseParser :=
  if parser.responseBytes.bytes.isEmpty then .error (.message "Empty response from the server.")
  else do
    let (root, offset) ← (deserialize parser.responseBytes 0).result
    if offset ≠ parser.responseBytes.size then
      .error (.message "Trailing bytes found after KMIP response message.")
    else do
      let responseMessage ← ResponseMessage.fromElement root
      .ok { parser with responseMessage := responseMessage, isParsed := true }

def ensureParsed (parser : ResponseParser) : Except Abort ResponseParser :=
  if !parser.isParsed then parser.parseResponse else .ok parser

/-- The response item by index, and the parser after the access. -/
def getResponseItem (parser : ResponseParser) (itemIdx : Int) : Except Abort (ResponseBatchItem × ResponseParser) := do
  let parser ← parser.ensureParsed
  let items := parser.responseMessage.batchItems
  if items.isEmpty then .error (.message "No response batch items from the server.")
  else
    match if itemIdx < 0 then none else items[itemIdx.toNat]? with
    | none => .error (.message "Response batch item index is out of range.")
    | some item => .ok (item, parser)

/-- The response item for a unique batch item id, and the parser after the access. -/
def getResponseItemByBatchItemId (parser : ResponseParser) (batchItemId : UInt32) :
    Except Abort (ResponseBatchItem × ResponseParser) := do
  let parser ← parser.ensureParsed
  let items := parser.responseMessage.batchItems
  match items.find? (fun item => item.uniqueBatchItemId == batchItemId) with
  | some item => .ok (item, parser)
  | none =>
    match (parser.batchItemPositions.lookup batchItemId).bind (fun pos => items[pos]?) with
    | some item => .ok (item, parser)
    | none => .error (.message "Response batch item id was not found.")

/-- The operation to report for a response item: the one that it carries, or a hint from the request. -/
def effectiveOperation (parser : ResponseParser) (item : ResponseBatchItem) (requestedBatchItemId : Option UInt32) :
    Int32 :=
  if item.operation ≠ 0 then item.operation
  else
    match parser.operationHints.lookup item.uniqueBatchItemId with
    | some operation => operation
    | none => (requestedBatchItemId.bind (fun id => parser.operationHints.lookup id)).getD 0

/-! ## Typed access -/

def getResultReasonOrDefault (item : ResponseBatchItem) : Int :=
  (item.resultReason.map Int32.toInt).getD kmipReasonGeneralFailure

def formatOperationResult (value : ResponseBatchItem) (operation : Int32) : String :=
  "Message: " ++ textOf (value.resultMessage.getD Bytes.empty).bytes ++ "\nOperation: " ++
    operationToString operation ++ "; Result status: " ++ resultStatusToString value.resultStatus ++
    "; Result reason: " ++ kmipMessageForCode (getResultReasonOrDefault value) ++ " (" ++
    Int.repr (getResultReasonOrDefault value) ++ ")"

def ensureSuccess (parser : ResponseParser) (item : ResponseBatchItem) (requestedBatchItemId : Option UInt32) :
    Except Abort Unit :=
  if item.resultStatus ≠ kmipStatusSuccess then
    .error (.coded (getResultReasonOrDefault item)
      (formatOperationResult item (parser.effectiveOperation item requestedBatchItemId)))
  else .ok ()

structure OperationResult where
  operation : Int32
  resultStatus : Int32
  resultReason : Int
  resultMessage : Bytes

def getOperationResultByBatchItemId (parser : ResponseParser) (batchItemId : UInt32) :
    Except Abort (OperationResult × ResponseParser) := do
  let (item, parser) ← parser.getResponseItemByBatchItemId batchItemId
  .ok (⟨parser.effectiveOperation item (some batchItemId), item.resultStatus, getResultReasonOrDefault item,
    item.resultMessage.getD Bytes.empty⟩, parser)

/-- `getResponseByBatchItemId<TypedResponseBatchItem>`, for the `fromBatchItem` of the class. -/
def getResponseByBatchItemId {α : Type} (fromBatchItem : ResponseBatchItem → Except Abort α) (parser : ResponseParser)
    (batchItemId : UInt32) : Except Abort (α × ResponseParser) := do
  let (item, parser) ← parser.getResponseItemByBatchItemId batchItemId
  parser.ensureSuccess item (some batchItemId)
  .ok (← fromBatchItem item, parser)

/-! ## What the constructor records -/

/-- Ids that are not in the list keep their position. -/
theorem lookup_addHints_of_notMem {id : UInt32} :
    ∀ {items : List RequestBatchItem} {parser : ResponseParser} {pos : Nat}, id ∉ items.map (·.uniqueBatchItemId) →
      (parser.addHints pos items).batchItemPositions.lookup id = parser.batchItemPositions.lookup id
  | [], _, _, _ => rfl
  | item :: items, parser, pos, h => by
    rw [List.map_cons, List.mem_cons, not_or] at h
    rw [addHints, lookup_addHints_of_notMem h.2]
    exact AList.lookup_insert_ne h.1

/-- Distinct ids are recorded with their positions. -/
theorem lookup_addHints : ∀ {items : List RequestBatchItem} {parser : ResponseParser} {pos i : Nat}
    {item : RequestBatchItem}, (items.map (·.uniqueBatchItemId)).Nodup → items[i]? = some item →
      (parser.addHints pos items).batchItemPositions.lookup item.uniqueBatchItemId = some (pos + i)
  | [], _, _, _, _, _, h => by simp at h
  | first :: items, parser, pos, 0, item, hd, h => by
    cases h
    rw [List.map_cons, List.nodup_cons] at hd
    rw [addHints, lookup_addHints_of_notMem hd.1]
    exact AList.lookup_insert _
  | first :: items, parser, pos, i + 1, item, hd, h => by
    rw [List.map_cons, List.nodup_cons] at hd
    rw [addHints, lookup_addHints hd.2 h, Nat.add_assoc, Nat.add_comm 1 i]

/-- Parsing changes no position. -/
theorem ensureParsed_eq_ok {parser parser' : ResponseParser} (h : parser.ensureParsed = .ok parser') :
    parser'.isParsed = true ∧ parser'.batchItemPositions = parser.batchItemPositions := by
  rw [ensureParsed] at h
  split at h
  · rw [parseResponse] at h
    split at h
    · cases h
    · obtain ⟨⟨root, offset⟩, -, h⟩ := Except.bind_eq_ok_iff.1 h
      dsimp only at h
      split at h
      · cases h
      · obtain ⟨message, -, h⟩ := Except.bind_eq_ok_iff.1 h
        cases h
        exact ⟨rfl, rfl⟩
  · cases h
    exact ⟨by simp_all, rfl⟩

/-- The parser after parsing answers as the one before. -/
theorem getResponseItemByBatchItemId_of_parsed {parser parser' : ResponseParser} (h : parser.ensureParsed = .ok parser')
    (id : UInt32) : parser.getResponseItemByBatchItemId id = parser'.getResponseItemByBatchItemId id := by
  have hagain : parser'.ensureParsed = .ok parser' := by
    rw [ensureParsed, (ensureParsed_eq_ok h).1]
    rfl
  rw [getResponseItemByBatchItemId, getResponseItemByBatchItemId, h, hagain]

/-- A lookup leaves a parser that answers as before. -/
theorem getResponseItemByBatchItemId_after {parser parser' : ResponseParser} {id : UInt32} {item : ResponseBatchItem}
    (h : parser.getResponseItemByBatchItemId id = .ok (item, parser')) (id' : UInt32) :
    parser'.getResponseItemByBatchItemId id' = parser.getResponseItemByBatchItemId id' := by
  obtain ⟨parsed, hparsed, hfound⟩ := Except.bind_eq_ok_iff.1 h
  have hsame : parsed = parser' := by
    dsimp only at hfound
    split at hfound
    · cases hfound
      rfl
    · split at hfound
      · cases hfound
        rfl
      · cases hfound
  rw [← hsame, ← getResponseItemByBatchItemId_of_parsed hparsed]

/-! ## Attribution -/

/-- The lookup on a parsed response. -/
theorem getResponseItemByBatchItemId_eq {parser parser' : ResponseParser} {pos : Nat} {id : UInt32}
    (hp : parser.ensureParsed = .ok parser') (hl : parser.batchItemPositions.lookup id = some pos) :
    parser.getResponseItemByBatchItemId id =
      match parser'.responseMessage.batchItems.find? (fun r => r.uniqueBatchItemId == id) with
      | some r => .ok (r, parser')
      | none =>
        match parser'.responseMessage.batchItems[pos]? with
        | some r => .ok (r, parser')
        | none => .error (.message "Response batch item id was not found.") := by
  rw [getResponseItemByBatchItemId, hp, Except.ok_bind, (ensureParsed_eq_ok hp).2, hl]
  rfl

/-- **Attribution.** For a request whose ids are distinct and a response that parses, the item that is found for a
request item echoes its id or none if and only if some response item echoes the id, or the item at the position of the
request item, if there is one, echoes no id. -/
theorem getResponseItemByBatchItemId_echo_iff (request : RequestMessage)
    (hd : (request.batchItems.map (·.uniqueBatchItemId)).Nodup) (responseBytes : Bytes) (parsed : ResponseParser)
    (hp : (ofRequest responseBytes request).ensureParsed = .ok parsed) (pos : Nat) (item : RequestBatchItem)
    (hi : request.batchItems[pos]? = some item) :
    (∀ r parser', (ofRequest responseBytes request).getResponseItemByBatchItemId item.uniqueBatchItemId =
        .ok (r, parser') → r.uniqueBatchItemId = item.uniqueBatchItemId ∨ r.uniqueBatchItemId = 0) ↔
      (∃ r ∈ parsed.responseMessage.batchItems, r.uniqueBatchItemId = item.uniqueBatchItemId) ∨
        ∀ r, parsed.responseMessage.batchItems[pos]? = some r → r.uniqueBatchItemId = 0 := by
  have hl : (ofRequest responseBytes request).batchItemPositions.lookup item.uniqueBatchItemId = some pos := by
    rw [ofRequest, lookup_addHints hd hi, Nat.zero_add]
  rw [getResponseItemByBatchItemId_eq hp hl]
  cases hf : parsed.responseMessage.batchItems.find? (fun r => r.uniqueBatchItemId == item.uniqueBatchItemId) with
  | some r =>
    have hid : r.uniqueBatchItemId = item.uniqueBatchItemId := by simpa using List.find?_some hf
    refine iff_of_true ?_ (.inl ⟨r, List.mem_of_find?_eq_some hf, hid⟩)
    rintro _ _ ⟨rfl, rfl⟩
    exact .inl hid
  | none =>
    have hnone : ∀ r ∈ parsed.responseMessage.batchItems, r.uniqueBatchItemId ≠ item.uniqueBatchItemId := by
      simpa using hf
    cases hr : parsed.responseMessage.batchItems[pos]? with
    | none => exact iff_of_true (fun _ _ h => by cases h) (.inr fun _ h => by cases h)
    | some r =>
      have hne := hnone r (List.mem_of_getElem? hr)
      constructor
      · intro h
        rcases h r parsed rfl with h | h
        · exact absurd h hne
        · refine .inr ?_
          rintro _ ⟨rfl⟩
          exact h
      · rintro (⟨r', hm, he⟩ | h)
        · exact absurd he (hnone r' hm)
        · rintro _ _ ⟨rfl, rfl⟩
          exact .inr (h r rfl)

/-- A response with the single item `Operation Get, Unique Batch Item ID id, Result Status Success`. -/
def singleItemResponse (id : UInt8) : Bytes :=
  ⟨[0x42, 0x00, 0x7B, 0x01, 0, 0, 0, 120,
    0x42, 0x00, 0x7A, 0x01, 0, 0, 0, 56,
    0x42, 0x00, 0x69, 0x01, 0, 0, 0, 32,
    0x42, 0x00, 0x6A, 0x02, 0, 0, 0, 4, 0, 0, 0, 1, 0, 0, 0, 0,
    0x42, 0x00, 0x6B, 0x02, 0, 0, 0, 4, 0, 0, 0, 4, 0, 0, 0, 0,
    0x42, 0x00, 0x0D, 0x02, 0, 0, 0, 4, 0, 0, 0, 1, 0, 0, 0, 0,
    0x42, 0x00, 0x0F, 0x01, 0, 0, 0, 48,
    0x42, 0x00, 0x5C, 0x05, 0, 0, 0, 4, 0, 0, 0, 10, 0, 0, 0, 0,
    0x42, 0x00, 0x93, 0x08, 0, 0, 0, 4, 0, 0, 0, id, 0, 0, 0, 0,
    0x42, 0x00, 0x7F, 0x05, 0, 0, 0, 4, 0, 0, 0, 0, 0, 0, 0, 0], by simp⟩

/-- A request with the ids 1 and 2. -/
def twoItemRequest : RequestMessage := ⟨{}, [⟨1, 10, none⟩, ⟨2, 10, none⟩], 3⟩

/-- The server answers only the second item: its answer is returned for the first one. -/
theorem getResponseItemByBatchItemId_misattributes :
    ((ofRequest (singleItemResponse 2) twoItemRequest).getResponseItemByBatchItemId 1).toOption.map
      (fun r => r.1.uniqueBatchItemId) = some 2 := by
  decide +kernel

/-- The server answers only the first item: its answer is returned. -/
theorem getResponseItemByBatchItemId_echo_first :
    ∃ parsed, (ofRequest (singleItemResponse 1) twoItemRequest).ensureParsed = .ok parsed ∧
      ∀ r parser', (ofRequest (singleItemResponse 1) twoItemRequest).getResponseItemByBatchItemId 1 =
        .ok (r, parser') → r.uniqueBatchItemId = 1 ∨ r.uniqueBatchItemId = 0 := by
  have hids : (ofRequest (singleItemResponse 1) twoItemRequest).ensureParsed.toOption.map
      (fun p => p.responseMessage.batchItems.map (·.uniqueBatchItemId)) = some [1] := by
    decide +kernel
  cases hp : (ofRequest (singleItemResponse 1) twoItemRequest).ensureParsed with
  | error e =>
    rw [hp] at hids
    cases hids
  | ok parsed =>
    rw [hp] at hids
    have hids' : parsed.responseMessage.batchItems.map (·.uniqueBatchItemId) = [1] := Option.some.inj hids
    obtain ⟨r, hr, hid⟩ := List.mem_map.1 (hids'.symm ▸ List.mem_singleton_self 1)
    exact ⟨parsed, rfl, (getResponseItemByBatchItemId_echo_iff twoItemRequest (by decide) _ parsed hp 0
      ⟨1, 10, none⟩ rfl).2 (.inl ⟨r, hr, hid⟩)⟩

end ResponseParser

end Kmip
