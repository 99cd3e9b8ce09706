import Kmip.Client.Session
import Kmip.Core.Requests

/-!
# `KmipClient`: the format of a fetched key

A server returns an asymmetric key in a format of its own choice. `keyFromGetResponse` takes the first response if its
format is a preferred one, asks for each preferred format in turn otherwise, and falls back on the first response.
-/

namespace Kmip.Client

open Element

/-! ## Formats -/

def preferredKeyFormats (objectType : Int32) : List Int32 :=
  if objectType = kmipObjtypePrivateKey then [kmipKeyformatPkcs8]
  else if objectType = kmipObjtypePublicKey then [kmipKeyformatX509, kmipKeyformatPkcs8]
  else []

theorem length_preferredKeyFormats_le (objectType : Int32) : (preferredKeyFormats objectType).length ≤ 2 := by
  unfold preferredKeyFormats
  split
  · decide
  · split <;> decide

/-- `Key::from_core_key`. -/
def fromCoreKey (coreKey : Key) : Except Abort Key :=
  if coreKey.type = .unset then .error (.message "Unsupported key type in core->client conversion") else .ok coreKey

namespace KmipClient

variable (c : KmipClient)

/-- A public key under the PKCS#8 label has to be a SubjectPublicKeyInfo, and is recorded as X.509. -/
def inPreferredFormat (key : Key) : Option Key :=
  if key.type = .publicKey ∧ key.keyFormat = some kmipKeyformatPkcs8 then
    if c.isSubjectPublicKeyInfo key.value then some { key with keyFormat := some kmipKeyformatX509 } else none
  else some key

/-- The lambda `parse`. -/
def parseKey (response : GetResponseBatchItem) : Except Abort Key := do
  fromCoreKey (← KeyParser.parseGetKeyResponse c.dateToString response)

/-- The key of a response, if it declares one of the formats and can be returned as such. -/
def keyInFormats (formats : List Int32) (response : GetResponseBatchItem) : Except Abort (Option Key) := do
  match ← KeyParser.keyFormatType response with
  | none => .ok none
  | some got => if got ∈ formats then do .ok (c.inPreferredFormat (← c.parseKey response)) else .ok none

/-! ## Asking again -/

/-- What the loop makes of a response: none for a refusal, for another format, and for a key that is not converted. -/
def refetchedKey (format : Int32) (getItemId : UInt32) (rf : ResponseParser) : Except Abort (Option Key) := do
  let (result, rf) ← rf.getOperationResultByBatchItemId getItemId
  if result.resultStatus ≠ kmipStatusSuccess then .ok none
  else do
    let (refetched, _) ← rf.getResponseByBatchItemId GetResponseBatchItem.fromBatchItem getItemId
    c.keyInFormats [format] refetched

/-- The loop over the preferred formats. -/
def askFormats (id : Bytes) : List Int32 → Session (Option Key)
  | [] => pure none
  | format :: formats => do
    let request ← Session.of c.makeRequestMessage
    let (getItemId, request) := request.addBatchItem (GetRequest id (some format))
    let rf ← c.send request
    match ← Session.of (c.refetchedKey format getItemId rf) with
    | some key => pure (some key)
    | none => askFormats id formats

def keyFromGetResponse (id : Bytes) (response : GetResponseBatchItem) : Session Key := do
  let formats := preferredKeyFormats response.objectType
  if formats.isEmpty then Session.of (c.parseKey response)
  else
    match ← Session.of (c.keyInFormats formats response) with
    | some key => pure key
    | none =>
      match ← c.askFormats id formats with
      | some key => pure key
      -- no conversion: the format of the server is kept
      | none => Session.of (c.parseKey response)

end KmipClient

/-! ## Answers to a request for one object -/

/-- The server answered with a failure status. -/
def Exchanged.Refused (x : Exchanged) : Prop := ∃ item, x.Found 1 item ∧ item.resultStatus ≠ kmipStatusSuccess

namespace KmipClient

variable (c : KmipClient)

/-- A Get request for a format. -/
def reGet (id : Bytes) (format : Int32) : RequestMessage := c.request [GetRequest id (some format)]

/-- The response declares the format and its key can be returned. -/
def Accepts (format : Int32) (response : GetResponseBatchItem) (key : Key) : Prop :=
  KeyParser.keyFormatType response = .ok (some format) ∧
    ∃ parsed, c.parseKey response = .ok parsed ∧ c.inPreferredFormat parsed = some key

theorem keyInFormats_eq_some_iff {formats : List Int32} {response : GetResponseBatchItem} {key : Key} :
    c.keyInFormats formats response = .ok (some key) ↔ ∃ format ∈ formats, c.Accepts format response key := by
  unfold keyInFormats Accepts
  cases hgot : KeyParser.keyFormatType response with
  | error e => simp
  | ok got =>
    cases got with
    | none => simp
    | some got =>
      by_cases hmem : got ∈ formats
      · simp [hmem, Except.bind_eq_ok_iff]
      · simp [hmem]

/-- The status of the item decides, and is looked at only once. -/
theorem refetchedKey_eq (format : Int32) (getItemId : UInt32) (rf : ResponseParser) :
    c.refetchedKey format getItemId rf = (do
      let (item, _) ← rf.getResponseItemByBatchItemId getItemId
      if item.resultStatus ≠ kmipStatusSuccess then .ok none
      else do
        let response ← GetResponseBatchItem.fromBatchItem item
        c.keyInFormats [format] response) := by
  unfold refetchedKey ResponseParser.getOperationResultByBatchItemId
  cases hfound : rf.getResponseItemByBatchItemId getItemId with
  | error e => rfl
  | ok found =>
    obtain ⟨item, rf'⟩ := found
    simp only [Except.ok_bind]
    by_cases hstatus : item.resultStatus ≠ kmipStatusSuccess
    · rw [if_pos hstatus, if_pos hstatus]
    · have hsuccess : rf'.ensureSuccess item (some getItemId) = .ok () := if_neg hstatus
      rw [if_neg hstatus, if_neg hstatus, ResponseParser.getResponseByBatchItemId,
        ResponseParser.getResponseItemByBatchItemId_after hfound, hfound]
      simp only [Except.ok_bind, hsuccess]
      cases GetResponseBatchItem.fromBatchItem item <;> rfl

section Answers

variable {c : KmipClient} {x : Exchanged} {format : Int32}

theorem reads_of_refused (h : x.Refused) : x.reads (c.refetchedKey format 1) = .ok none := by
  obtain ⟨item, ⟨bytes, parser, hanswer, hfound⟩, hstatus⟩ := h
  rw [Exchanged.reads, hanswer, Except.ok_bind, refetchedKey_eq, hfound]
  exact if_pos hstatus

end Answers

/-! ## The loop -/

/-- The runs of the loop after a history: the formats that were asked for with their exchanges, and the result. -/
inductive Asked (id : Bytes) : List Exchanged → List Int32 → List (Int32 × Exchanged) → Except Abort (Option Key) → Prop
  | exhausted {history} : Asked id history [] [] (.ok none)
  | unsent {history format formats e} (hx : c.exchanged history (c.reGet id format) = .error e) :
      Asked id history (format :: formats) [] (.error e)
  | ended {history format formats x} (hx : c.exchanged history (c.reGet id format) = .ok x)
      (hread : x.reads (c.refetchedKey format 1) ≠ .ok none) :
      Asked id history (format :: formats) [(format, x)] (x.reads (c.refetchedKey format 1))
  | next {history format formats x asked result} (hx : c.exchanged history (c.reGet id format) = .ok x)
      (hread : x.reads (c.refetchedKey format 1) = .ok none) (h : Asked id (history ++ [x]) formats asked result) :
      Asked id history (format :: formats) ((format, x) :: asked) result

/-- One round of the loop. -/
theorem askFormats_cons (id : Bytes) (format : Int32) (formats : List Int32) (history : List Exchanged) :
    c.askFormats id (format :: formats) history =
      match c.exchanged history (c.reGet id format) with
      | .error e => .error e history
      | .ok x =>
        match x.reads (c.refetchedKey format 1) with
        | .ok none => c.askFormats id formats (history ++ [x])
        | result => Session.of result (history ++ [x]) := by
  rw [askFormats, makeRequestMessage_eq, Session.of_ok_bind]
  refine (send_bind (c.reGet id format) (c.refetchedKey format 1) _ history).trans ?_
  cases c.exchanged history (c.reGet id format) with
  | error e => rfl
  | ok x =>
    dsimp only
    cases x.reads (c.refetchedKey format 1) with
    | error e => rfl
    | ok key => cases key <;> rfl

theorem askFormats_run (id : Bytes) : ∀ (formats : List Int32) (history : List Exchanged), ∃ asked result,
    c.Asked id history formats asked result ∧
      c.askFormats id formats history = Session.of result (history ++ asked.map (·.2))
  | [], history => ⟨[], .ok none, .exhausted, by rw [List.map_nil, List.append_nil]; rfl⟩
  | format :: formats, history => by
    rw [askFormats_cons]
    cases hx : c.exchanged history (c.reGet id format) with
    | error e => exact ⟨[], .error e, .unsent hx, by rw [List.map_nil, List.append_nil]; rfl⟩
    | ok x =>
      dsimp only
      by_cases hread : x.reads (c.refetchedKey format 1) = .ok none
      · obtain ⟨asked, result, hasked, hrun⟩ := askFormats_run id formats (history ++ [x])
        refine ⟨(format, x) :: asked, result, .next hx hread hasked, ?_⟩
        rw [hread]
        dsimp only
        rw [hrun, List.append_assoc]
        rfl
      · refine ⟨[(format, x)], _, .ended hx hread, ?_⟩
        cases hr : x.reads (c.refetchedKey format 1) with
        | error e => rfl
        | ok key =>
          cases key with
          | none => exact absurd hr hread
          | some key => rfl

/-! ### What a run of the loop is -/

namespace Asked

variable {c : KmipClient} {id : Bytes} {history : List Exchanged} {formats : List Int32}
  {asked : List (Int32 × Exchanged)} {result : Except Abort (Option Key)}

theorem isPrefix (h : c.Asked id history formats asked result) : asked.map (·.1) <+: formats := by
  induction h with
  | exhausted => exact List.nil_prefix
  | unsent => exact List.nil_prefix
  | ended => exact ⟨_, rfl⟩
  | next _ _ _ ih => exact List.cons_prefix_cons.2 ⟨rfl, ih⟩

theorem exchanged_eq (h : c.Asked id history formats asked result) :
    ∀ p ∈ asked, ∃ before, c.exchanged before (c.reGet id p.1) = .ok p.2 := by
  induction h with
  | exhausted => simp
  | unsent => simp
  | @ended history _ _ _ hx => simpa using ⟨history, hx⟩
  | @next history _ _ _ _ _ hx _ _ ih => exact List.forall_mem_cons.2 ⟨⟨history, hx⟩, ih⟩

/-- How the loop ends: no format is left, a request cannot be sent, or the last answer ends it. -/
theorem ends (h : c.Asked id history formats asked result) :
    result = .ok none ∨ (∃ e before, ∃ format ∈ formats, c.exchanged before (c.reGet id format) = .error e ∧
      result = .error e) ∨
    ∃ p, asked.getLast? = some p ∧ p.2.reads (c.refetchedKey p.1 1) = result := by
  induction h with
  | exhausted => exact .inl rfl
  | @unsent history format formats e hx => exact .inr (.inl ⟨e, history, format, List.mem_cons_self, hx, rfl⟩)
  | ended hx hread => exact .inr (.inr ⟨_, rfl, rfl⟩)
  | next hx hread _ ih =>
    rcases ih with hnone | ⟨e, before, format, hmem, hunsent, hresult⟩ | ⟨p, hlast, hresult⟩
    · exact .inl hnone
    · exact .inr (.inl ⟨e, before, format, List.mem_cons_of_mem _ hmem, hunsent, hresult⟩)
    · refine .inr (.inr ⟨p, ?_, hresult⟩)
      rw [List.getLast?_cons, hlast]
      rfl

end Asked

/-! ## Labels -/

section Labels

variable {c : KmipClient} {item : ResponseBatchItem} {response : GetResponseBatchItem}
  (hr : GetResponseBatchItem.fromBatchItem item = .ok response)

include hr

end Labels

/-! ## The whole call -/

/-- The runs of the call: the formats that were asked for with their exchanges, and the outcome. -/
inductive Fetched (id : Bytes) (r₀ : GetResponseBatchItem) (history : List Exchanged) :
    List (Int32 × Exchanged) → Except Abort Key → Prop
  | unasked (hnil : preferredKeyFormats r₀.objectType = []) : Fetched id r₀ history [] (c.parseKey r₀)
  | unread {e} (hread : c.keyInFormats (preferredKeyFormats r₀.objectType) r₀ = .error e) :
      Fetched id r₀ history [] (.error e)
  | accepted {key} (hread : c.keyInFormats (preferredKeyFormats r₀.objectType) r₀ = .ok (some key)) :
      Fetched id r₀ history [] (.ok key)
  | asked {asked result} (hread : c.keyInFormats (preferredKeyFormats r₀.objectType) r₀ = .ok none)
      (h : c.Asked id history (preferredKeyFormats r₀.objectType) asked result) :
      Fetched id r₀ history asked (do
        match ← result with
        | some key => .ok key
        | none => c.parseKey r₀)

theorem keyFromGetResponse_run (id : Bytes) (r₀ : GetResponseBatchItem) (history : List Exchanged) :
    ∃ asked outcome, c.Fetched id r₀ history asked outcome ∧
      c.keyFromGetResponse id r₀ history = Session.of outcome (history ++ asked.map (·.2)) := by
  unfold keyFromGetResponse
  by_cases hnil : preferredKeyFormats r₀.objectType = []
  · refine ⟨[], _, .unasked hnil, ?_⟩
    simp only [hnil, List.isEmpty_nil, if_true, List.map_nil, List.append_nil]
  · simp only [List.isEmpty_iff, if_neg hnil]
    cases hread : c.keyInFormats (preferredKeyFormats r₀.objectType) r₀ with
    | error e => exact ⟨[], _, .unread hread, by rw [List.map_nil, List.append_nil]; rfl⟩
    | ok key =>
      cases key with
      | some key => exact ⟨[], _, .accepted hread, by rw [List.map_nil, List.append_nil]; rfl⟩
      | none =>
        obtain ⟨asked, result, hasked, hrun⟩ := c.askFormats_run id (preferredKeyFormats r₀.objectType) history
        refine ⟨asked, _, .asked hread hasked, ?_⟩
        show (c.askFormats id _ >>= _) history = _
        rw [Hoare.bind_apply, hrun]
        cases result with
        | error e => rfl
        | ok key => cases key <;> rfl

/-- A request for one of the formats cannot be serialized. -/
def Unsendable (id : Bytes) (formats : List Int32) (e : Abort) : Prop :=
  ∃ format ∈ formats, ∃ now, (c.reGet id format).serialize now = .error e

section Fetches

variable {c : KmipClient} {id : Bytes} {r₀ : GetResponseBatchItem} {history : List Exchanged}
  {asked : List (Int32 × Exchanged)} {outcome : Except Abort Key}

/-- The formats that were asked for are the first of the preferred ones. -/
theorem Fetched.isPrefix (h : c.Fetched id r₀ history asked outcome) :
    asked.map (·.1) <+: preferredKeyFormats r₀.objectType := by
  cases h with
  | asked _ h => exact h.isPrefix
  | _ => exact List.nil_prefix

theorem Fetched.request_eq (h : c.Fetched id r₀ history asked outcome) :
    ∀ p ∈ asked, p.2.request = c.reGet id p.1 := by
  cases h with
  | asked _ h =>
    intro p hp
    obtain ⟨before, hx⟩ := h.exchanged_eq p hp
    exact exchanged_request hx
  | _ => exact fun p hp => absurd hp List.not_mem_nil

theorem Fetched.first (h : c.Fetched id r₀ history asked outcome) {format : Int32}
    (hmem : format ∈ preferredKeyFormats r₀.objectType) {key : Key} (hkey : c.Accepts format r₀ key) :
    asked = [] ∧ outcome = .ok key := by
  have hread := c.keyInFormats_eq_some_iff.2 ⟨format, hmem, hkey⟩
  cases h with
  | unasked hnil =>
    rw [hnil] at hmem
    exact absurd hmem List.not_mem_nil
  | unread h => cases hread.symm.trans h
  | accepted h =>
    cases hread.symm.trans h
    exact ⟨rfl, rfl⟩
  | asked h => cases hread.symm.trans h

/-- A first response outside the preferred formats is not read as a key before the others are asked for. -/
theorem keyInFormats_of_notMem {format : Int32} {formats : List Int32}
    (hformat : KeyParser.keyFormatType r₀ = .ok (some format)) (hnot : format ∉ formats) :
    c.keyInFormats formats r₀ = .ok none := by
  unfold keyInFormats
  rw [hformat, Except.ok_bind]
  exact if_neg hnot

theorem Fetched.failure (h : c.Fetched id r₀ history asked outcome) {key : Key} {format : Int32}
    (hkey : c.parseKey r₀ = .ok key) (hformat : KeyParser.keyFormatType r₀ = .ok (some format))
    (hnot : format ∉ preferredKeyFormats r₀.objectType) {e : Abort} (he : outcome = .error e) :
    c.Unsendable id (preferredKeyFormats r₀.objectType) e ∨ ∃ p, asked.getLast? = some p ∧ ¬p.2.Refused := by
  have hread := keyInFormats_of_notMem (c := c) hformat hnot
  cases h with
  | unasked => cases hkey.symm.trans he
  | unread h => cases hread.symm.trans h
  | accepted => cases he
  | asked _ h =>
    rcases h.ends with hnone | ⟨e', before, format', hmem, hunsent, hresult⟩ | ⟨p, hlast, hresult⟩
    · rw [hnone] at he
      cases hkey.symm.trans he
    · rw [hresult] at he
      cases he
      exact .inl ⟨format', hmem, _, exchanged_eq_error hunsent⟩
    · refine .inr ⟨p, hlast, fun hrefused => ?_⟩
      rw [← hresult, reads_of_refused hrefused] at he
      cases hkey.symm.trans he

end Fetches

/-- A response that refuses a Get request with a Result Reason. -/
def refusal (reason : UInt8) : Bytes :=
  ⟨[0x42, 0x00, 0x7B, 0x01, 0, 0, 0, 136,
    0x42, 0x00, 0x7A, 0x01, 0, 0, 0, 56,
    0x42, 0x00, 0x69, 0x01, 0, 0, 0, 32,
    0x42, 0x00, 0x6A, 0x02, 0, 0, 0, 4, 0, 0, 0, 1, 0, 0, 0, 0,
    0x42, 0x00, 0x6B, 0x02, 0, 0, 0, 4, 0, 0, 0, 4, 0, 0, 0, 0,
    0x42, 0x00, 0x0D, 0x02, 0, 0, 0, 4, 0, 0, 0, 1, 0, 0, 0, 0,
    0x42, 0x00, 0x0F, 0x01, 0, 0, 0, 64,
    0x42, 0x00, 0x5C, 0x05, 0, 0, 0, 4, 0, 0, 0, 10, 0, 0, 0, 0,
    0x42, 0x00, 0x93, 0x08, 0, 0, 0, 4, 0, 0, 0, 1, 0, 0, 0, 0,
    0x42, 0x00, 0x7F, 0x05, 0, 0, 0, 4, 0, 0, 0, 1, 0, 0, 0, 0,
    0x42, 0x00, 0x7E, 0x05, 0, 0, 0, 4, 0, 0, 0, reason, 0, 0, 0, 0], by simp⟩

/-- A client whose server refuses every request. -/
def refused (version : ProtocolVersion) (reason : UInt8) : KmipClient where
  version := version
  io := fun _ _ _ => .ok (refusal reason)
  clock := fun _ => 0
  dateToString := fun _ => Bytes.empty
  isSubjectPublicKeyInfo := fun _ => false

end KmipClient

end Kmip.Client
