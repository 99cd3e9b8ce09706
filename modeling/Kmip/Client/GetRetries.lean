import Kmip.Client.GetOperations
import Kmip.Core.InternalErrors

/-!
# The retries of Get and Get Attributes

The handlers of the three operations look at the code of an exception only. Of all that an attempt can throw, only what
the server reports has one of their codes: the exceptions of the library have others (`Internal`), and so have those of
the transport (`DocumentedTransport`). So an attempt is repeated because the server refused it, and never after
`keyFromGetResponse` has asked for a key again (`get_operations_retry`).
-/

namespace Kmip.Client

open Except Hoare
open Abort (Internal)

/-! ## Codes -/

theorem not_retry_of_internal {e : Abort} (h : Internal e) : shouldRetry e = false := by
  cases h with
  | message => rfl
  | coded h =>
    simp only [internalCodes, List.mem_cons, List.not_mem_nil, or_false] at h
    rcases h with rfl | rfl | rfl | rfl | rfl <;> rfl
  | diverged => rfl

/-- The reasons for which an attempt is repeated. -/
def retryReasons : List Int := [kmipReasonInvalidMessage, kmipReasonInvalidField, kmipReasonFeatureNotSupported]

theorem shouldRetry_coded_iff {code : Int} {text : String} :
    shouldRetry (.coded code text) = true ↔ code ∈ retryReasons := by
  simp [shouldRetry, shouldRetryGetAttributesWithLegacyV2Encoding, Abort.coded, retryReasons]

/-- The server refused an item of the request, with one of these reasons. -/
def Exchanged.RefusedForRetry (x : Exchanged) : Prop :=
  ∃ id item, x.Found id item ∧ item.resultStatus ≠ kmipStatusSuccess ∧
    ResponseParser.getResultReasonOrDefault item ∈ retryReasons

/-- The transport fails with a `KmipIOException` whose code is not one of these reasons. -/
def KmipClient.DocumentedTransport (c : KmipClient) : Prop :=
  ∀ history bytes limit e, c.io history bytes limit = .error (.thrown e) →
    e.cls = .kmipIOException ∧ e.code ∉ retryReasons

namespace KmipClient

section Transport

variable {c : KmipClient} (hio : c.DocumentedTransport) {history : List Exchanged} {request : RequestMessage}
  {x : Exchanged}

include hio

theorem not_retry_of_answer (hx : c.exchanged history request = .ok x) {e : Abort} (h : x.answer = .error e) :
    shouldRetry e = false := by
  obtain ⟨bytes, -, hx⟩ := Except.bind_eq_ok_iff.1 hx
  cases hx
  cases e with
  | diverged => rfl
  | thrown e =>
    have hcode := (hio _ _ _ _ h).2
    simpa [shouldRetry, shouldRetryGetAttributesWithLegacyV2Encoding, retryReasons] using hcode

omit hio in
theorem not_retry_of_unsent {e : Abort} (hx : c.exchanged history request = .error e) : shouldRetry e = false :=
  not_retry_of_internal (request.internal_serialize _ e (exchanged_eq_error hx))

/-- The transport has failed with another code, or the answer is read. -/
theorem reads_eq_error {α : Type} {read : ResponseParser → Except Abort α} (hx : c.exchanged history request = .ok x)
    {e : Abort} (h : x.reads read = .error e) :
    shouldRetry e = false ∨ ∃ bytes, x.answer = .ok bytes ∧ read (.ofRequest bytes x.request) = .error e := by
  unfold Exchanged.reads at h
  cases hanswer : x.answer with
  | error e' =>
    rw [hanswer] at h
    cases h
    exact .inl (not_retry_of_answer hio hx hanswer)
  | ok bytes =>
    rw [hanswer, Except.ok_bind] at h
    exact .inr ⟨bytes, rfl, h⟩

/-- What is read from an answer fails for a retry only if the server refused. -/
theorem refusedForRetry_of_reads {α : Type} {read : ResponseParser → Except Abort α}
    (hread : ∀ rf, (read rf).Raises fun e => Internal e ∨ rf.Reports e) (hx : c.exchanged history request = .ok x)
    {e : Abort} (h : x.reads read = .error e) (hretry : shouldRetry e = true) : x.RefusedForRetry := by
  rcases reads_eq_error hio hx h with hno | ⟨bytes, hanswer, h⟩
  · rw [hno] at hretry
    cases hretry
  · rcases hread _ e h with hinternal | ⟨id, item, parser', text, hitem, hstatus, rfl⟩
    · rw [not_retry_of_internal hinternal] at hretry
      cases hretry
    · exact ⟨id, item, ⟨bytes, parser', hanswer, hitem⟩, hstatus, shouldRetry_coded_iff.1 hretry⟩

end Transport

/-! ## What the attempts read -/

variable (c : KmipClient)

theorem raises_readAttributesResponse (id : UInt32) (rf : ResponseParser) :
    (c.readAttributesResponse id rf).Raises fun e => Internal e ∨ rf.Reports e := by
  refine (rf.raises_getResponseByBatchItemId internal_getAttributesResponse id).bind fun ⟨response, _⟩ _ => ?_
  exact (AttributesParser.internal_parse c.dateToString _).mono fun _ => .inl

theorem raises_readKeyResponse (getId attributesId : UInt32) (rf : ResponseParser) :
    (c.readKeyResponse getId attributesId rf).Raises fun e => Internal e ∨ rf.Reports e := by
  refine (rf.raises_getResponseByBatchItemId internal_getResponse getId).bind fun ⟨getResponse, rf'⟩ hget => ?_
  refine ((rf'.raises_getResponseByBatchItemId internal_getAttributesResponse attributesId).mono fun e he =>
    he.imp_right (ResponseParser.Reports.of_after hget)).bind fun ⟨attrsResponse, _⟩ _ => ?_
  refine ((AttributesParser.internal_parse c.dateToString _).mono fun _ => .inl).bind fun serverAttrs _ => ?_
  exact Raises.ite (fun _ => (raises_error _).2 (.inl (.message _))) fun _ => raises_ok _

theorem internal_secretWithAttributes (allAttributes : Bool) (secret : Secret) (serverAttrs : Attributes) :
    (secretWithAttributes allAttributes secret serverAttrs).Raises Internal :=
  Raises.ite (fun _ => raises_ok _) fun _ => Raises.ite (fun _ => raises_message _) fun _ => raises_ok _

theorem raises_readSecretResponse (allAttributes : Bool) (getId attributesId : UInt32) (rf : ResponseParser) :
    (c.readSecretResponse allAttributes getId attributesId rf).Raises fun e => Internal e ∨ rf.Reports e := by
  refine (rf.raises_getResponseByBatchItemId internal_getResponse getId).bind fun ⟨getResponse, rf'⟩ hget => ?_
  refine ((KeyParser.internal_parseGetSecretResponse getResponse).mono fun _ => .inl).bind fun secret _ => ?_
  refine ((rf'.raises_getResponseByBatchItemId internal_getAttributesResponse attributesId).mono fun e he =>
    he.imp_right (ResponseParser.Reports.of_after hget)).bind fun ⟨attrsResponse, _⟩ _ => ?_
  refine ((AttributesParser.internal_parse c.dateToString _).mono fun _ => .inl).bind fun serverAttrs _ => ?_
  exact (internal_secretWithAttributes allAttributes secret serverAttrs).mono fun _ => .inl

/-! ## What asking again throws -/

theorem internal_parseKey (response : GetResponseBatchItem) : (c.parseKey response).Raises Internal := by
  refine (KeyParser.internal_parseGetKeyResponse c.dateToString response).bind fun key _ => ?_
  exact Raises.ite (fun _ => raises_message _) fun _ => raises_ok key

theorem internal_keyInFormats (formats : List Int32) (response : GetResponseBatchItem) :
    (c.keyInFormats formats response).Raises Internal := by
  refine (KeyParser.internal_keyFormatType response).bind fun got _ => ?_
  split
  · exact raises_ok none
  · exact Raises.ite (fun _ => raises_bind_ok.2 (c.internal_parseKey response)) fun _ => raises_ok none

theorem internal_refetchedKey (format : Int32) (getItemId : UInt32) (rf : ResponseParser) :
    (c.refetchedKey format getItemId rf).Raises Internal := by
  rw [refetchedKey_eq]
  refine (rf.internal_getResponseItemByBatchItemId getItemId).bind fun ⟨item, _⟩ _ => ?_
  refine Raises.ite (fun _ => raises_ok none) fun _ => ?_
  exact (internal_getResponse item).bind fun response _ => c.internal_keyInFormats [format] response

/-- A key that is asked for again is never a reason for another attempt. -/
theorem Fetched.not_retry {c : KmipClient} (hio : c.DocumentedTransport) {id : Bytes} {r₀ : GetResponseBatchItem}
    {history : List Exchanged} {asked : List (Int32 × Exchanged)} {outcome : Except Abort Key}
    (h : c.Fetched id r₀ history asked outcome) {e : Abort} (he : outcome = .error e) : shouldRetry e = false := by
  cases h with
  | unasked => exact not_retry_of_internal (c.internal_parseKey r₀ e he)
  | unread hread =>
    cases he
    exact not_retry_of_internal (c.internal_keyInFormats _ r₀ e hread)
  | accepted => cases he
  | @asked _ result _ h =>
    -- the fallback fails, or the loop does
    have hcases : c.parseKey r₀ = .error e ∨ result = .error e := by
      cases result with
      | error e' =>
        cases he
        exact .inr rfl
      | ok key =>
        cases key with
        | none => exact .inl he
        | some key => cases he
    rcases hcases with hparse | hloop
    · exact not_retry_of_internal (c.internal_parseKey r₀ e hparse)
    · rcases h.ends with hnone | ⟨e', before, format, -, hunsent, hresult⟩ | ⟨p, hlast, hresult⟩
      · cases hnone.symm.trans hloop
      · cases hresult.symm.trans hloop
        exact not_retry_of_unsent hunsent
      · obtain ⟨before, hx⟩ := h.exchanged_eq p (List.mem_of_getLast? hlast)
        rcases reads_eq_error hio hx (hresult.trans hloop) with hno | ⟨bytes, -, hread⟩
        · exact hno
        · exact not_retry_of_internal (c.internal_refetchedKey p.1 1 _ e hread)

/-! ## Attempt after attempt -/

/-- The attempts that were made, each after one that failed with a code for a retry, and the result of the last one. -/
inductive Runs {α : Type} (execute : Attempt → Session α) :
    List Attempt → List Exchanged → EStateM.Result Abort (List Exchanged) α → Prop
  | last {attempt history} : Runs execute [attempt] history (execute attempt history)
  | again {attempt rest history history' e result} (hfail : execute attempt history = .error e history')
      (hretry : shouldRetry e = true) (h : Runs execute rest history' result) :
      Runs execute (attempt :: rest) history result

theorem Runs.ne_nil {α : Type} {execute : Attempt → Session α} {made : List Attempt} {history : List Exchanged}
    {result : EStateM.Result Abort (List Exchanged) α} (h : Runs execute made history result) : made ≠ [] := by
  cases h with
  | last => exact List.cons_ne_nil _ _
  | again => exact List.cons_ne_nil _ _

theorem withRetries_runs {α : Type} (execute : Attempt → Session α) (names : List Bytes) (history : List Exchanged) :
    ∃ made, made <+: attempts names ∧ Runs execute made history (c.withRetries execute names history) ∧
      (1 < made.length → c.version.isAtLeast 2 0 = true) ∧ (2 < made.length → names ≠ []) := by
  unfold withRetries
  rw [tryCatch_apply]
  have hlast : ∀ {attempt history result}, execute attempt history = result → Runs execute [attempt] history result :=
    fun h => h ▸ .last
  cases h₁ : execute ⟨names, false⟩ history with
  | ok a history₁ => exact ⟨[⟨names, false⟩], ⟨_, rfl⟩, hlast h₁, by simp, by simp⟩
  | error e₁ history₁ =>
    dsimp only
    by_cases hfirst : c.version.isAtLeast 2 0 = true ∧ shouldRetry e₁ = true
    · rw [if_neg (by simp [hfirst]), tryCatch_apply]
      cases h₂ : execute ⟨names, true⟩ history₁ with
      | ok a history₂ =>
        exact ⟨[⟨names, false⟩, ⟨names, true⟩], ⟨_, rfl⟩, .again h₁ hfirst.2 (hlast h₂), fun _ => hfirst.1, by simp⟩
      | error e₂ history₂ =>
        dsimp only
        by_cases hsecond : names ≠ [] ∧ shouldRetry e₂ = true
        · rw [if_neg (by simp [hsecond])]
          exact ⟨attempts names, List.prefix_refl _, .again h₁ hfirst.2 (.again h₂ hsecond.2 .last),
            fun _ => hfirst.1, fun _ => hsecond.1⟩
        · rw [if_pos (by by_cases hnil : names = [] <;> simp_all)]
          exact ⟨[⟨names, false⟩, ⟨names, true⟩], ⟨_, rfl⟩, .again h₁ hfirst.2 (hlast h₂), fun _ => hfirst.1, by simp⟩
    · rw [if_pos (by by_cases hv : c.version.isAtLeast 2 0 = true <;> simp_all)]
      exact ⟨[⟨names, false⟩], ⟨_, rfl⟩, hlast h₁, by simp, by simp⟩

/-! ## What the attempts send -/

/-- The result is the exception of a request that cannot be serialized. -/
def Unserialized {α : Type} (request : RequestMessage) (result : EStateM.Result Abort (List Exchanged) α) : Prop :=
  ∃ e history now, request.serialize now = .error e ∧ result = .error e history

/-- What the attempts that were made send, in this order: one request each, up to one that cannot be serialized; then
the requests that `Extra` allows after the last of them. All but the last were refused with a reason for a retry. -/
structure Sends {α : Type} (request : Attempt → RequestMessage) (Extra : Exchanged → List Exchanged → Prop)
    (made : List Attempt) (history : List Exchanged) (result : EStateM.Result Abort (List Exchanged) α)
    (sent extras : List Exchanged) : Prop where
  final : finalState result = history ++ sent ++ extras
  requests : sent.map (·.request) = made.map request ∨
    ∃ before attempt, made = before ++ [attempt] ∧ sent.map (·.request) = before.map request ∧
      Unserialized (request attempt) result
  refused : ∀ x ∈ sent.take (made.length - 1), x.RefusedForRetry
  extra : extras = [] ∨ ∃ x, sent.getLast? = some x ∧ sent.length = made.length ∧ Extra x extras

section Sends

variable {α : Type} {request : Attempt → RequestMessage} {made : List Attempt} {history sent extras : List Exchanged}
  {result : EStateM.Result Abort (List Exchanged) α}

theorem Sends.length_le {Extra : Exchanged → List Exchanged → Prop}
    (h : Sends request Extra made history result sent extras) : sent.length ≤ made.length := by
  rcases h.requests with hsent | ⟨before, attempt, rfl, hsent, -⟩
  · have hlength := congrArg List.length hsent
    rw [List.length_map, List.length_map] at hlength
    exact hlength.le
  · have hlength := congrArg List.length hsent
    rw [List.length_map, List.length_map] at hlength
    rw [List.length_append, hlength]
    exact Nat.le_add_right _ _

theorem Sends.extras_eq_nil (h : Sends request (fun _ _ => False) made history result sent extras) : extras = [] := by
  rcases h.extra with hnil | ⟨_, _, _, hfalse⟩
  · exact hnil
  · exact hfalse.elim

end Sends

/-- An attempt that fails with a code for a retry was refused, and sent nothing else. -/
structure Tries {α : Type} (request : Attempt → RequestMessage) (Extra : Exchanged → List Exchanged → Prop)
    (attempt : Attempt) (history : List Exchanged) (result : EStateM.Result Abort (List Exchanged) α)
    (sent extras : List Exchanged) : Prop extends Sends request Extra [attempt] history result sent extras where
  retried : ∀ e history', result = .error e history' → shouldRetry e = true →
    ∃ x, sent = [x] ∧ extras = [] ∧ x.request = request attempt ∧ x.RefusedForRetry

/-- One attempt after the other. -/
theorem Runs.sends {α : Type} {execute : Attempt → Session α} {request : Attempt → RequestMessage}
    {Extra : Exchanged → List Exchanged → Prop}
    (hexecute : ∀ attempt history, ∃ sent extras,
      Tries request Extra attempt history (execute attempt history) sent extras)
    {made : List Attempt} {history : List Exchanged} {result : EStateM.Result Abort (List Exchanged) α}
    (h : Runs execute made history result) : ∃ sent extras, Sends request Extra made history result sent extras := by
  induction h with
  | @last attempt history =>
    obtain ⟨sent, extras, h⟩ := hexecute attempt history
    exact ⟨sent, extras, h.toSends⟩
  | @again attempt rest history history' e result hfail hretry hrest ih =>
    obtain ⟨_, _, htry⟩ := hexecute attempt history
    obtain ⟨x, rfl, rfl, hrequest, hrefused⟩ := htry.retried e history' hfail hretry
    have hhistory : history' = history ++ [x] := by
      have hfinal := htry.final
      rw [hfail, List.append_nil] at hfinal
      exact hfinal
    obtain ⟨sent, extras, ih⟩ := ih
    refine ⟨x :: sent, extras, ?_, ?_, ?_, ?_⟩
    · rw [ih.final, hhistory, List.append_assoc history]
      rfl
    · rcases ih.requests with hsent | ⟨before, attempt', rfl, hsent, hunserialized⟩
      · exact .inl (by rw [List.map_cons, List.map_cons, hrequest, hsent])
      · exact .inr ⟨attempt :: before, attempt', rfl, by rw [List.map_cons, List.map_cons, hrequest, hsent],
          hunserialized⟩
    · intro y hy
      obtain ⟨next, rest, rfl⟩ := List.exists_cons_of_ne_nil hrest.ne_nil
      rw [List.length_cons, Nat.add_sub_cancel, List.length_cons, List.take_succ_cons, List.mem_cons] at hy
      rcases hy with rfl | hy
      · exact hrefused
      · exact ih.refused y hy
    · refine ih.extra.imp_right fun ⟨y, hlast, hlength, hextra⟩ => ⟨y, ?_, by simp [hlength], hextra⟩
      rw [List.getLast?_cons, hlast]
      rfl

/-- What follows the answer to an attempt: it sends what `Extra` allows, and never fails with a code for a retry. -/
structure Follows {α : Type} (Extra : List Exchanged → Prop) (next : Session α) : Prop where
  run : ∀ history, ∃ extras, finalState (next history) = history ++ extras ∧ (extras = [] ∨ Extra extras) ∧
    ∀ e history', next history = .error e history' → shouldRetry e = false

theorem follows_pure {α : Type} {Extra : List Exchanged → Prop} (a : α) : Follows Extra (pure a) := by
  refine ⟨fun history => ⟨[], ?_, .inl rfl, ?_⟩⟩
  · rw [List.append_nil]
    rfl
  · intro e history' h
    cases h

/-- An attempt that sends a request, reads the answer and goes on. -/
theorem tries_of_send {c : KmipClient} (hio : c.DocumentedTransport) {α β : Type} {request : Attempt → RequestMessage}
    {Extra : Exchanged → List Exchanged → Prop} (attempt : Attempt) {read : ResponseParser → Except Abort α}
    (hread : ∀ rf, (read rf).Raises fun e => Internal e ∨ rf.Reports e) {next : α → Session β}
    (hnext : ∀ x a, x.reads read = .ok a → Follows (Extra x) (next a)) (history : List Exchanged) :
    ∃ sent extras, Tries request Extra attempt history
      ((c.send (request attempt) >>= fun rf => Session.of (read rf) >>= next) history) sent extras := by
  rw [send_bind]
  cases hx : c.exchanged history (request attempt) with
  | error e =>
    refine ⟨[], [], ⟨by simp [finalState], .inr ⟨[], attempt, rfl, rfl, ?_⟩, by simp, .inl rfl⟩, ?_⟩
    · exact ⟨e, history, _, exchanged_eq_error hx, rfl⟩
    · intro e' history' h hretry
      cases h
      rw [not_retry_of_unsent hx] at hretry
      cases hretry
  | ok x =>
    have hrequest := exchanged_request hx
    dsimp only
    cases hreads : x.reads read with
    | error e =>
      refine ⟨[x], [], ⟨(List.append_nil _).symm, .inl (by simp [hrequest]), by simp, .inl rfl⟩, ?_⟩
      intro e' history' h hretry
      cases h
      exact ⟨x, rfl, rfl, hrequest, refusedForRetry_of_reads hio hread hx hreads hretry⟩
    | ok a =>
      rw [Session.of_ok_bind]
      obtain ⟨extras, hfinal, hextra, hno⟩ := (hnext x a hreads).run (history ++ [x])
      refine ⟨[x], extras, ⟨hfinal, .inl (by simp [hrequest]), by simp, ?_⟩, ?_⟩
      · exact hextra.imp_right fun h => ⟨x, rfl, rfl, h⟩
      · intro e history' h hretry
        rw [hno e history' h] at hretry
        cases hretry

/-! ## The operations -/

/-- The request of an attempt for an object: Get and Get Attributes. -/
def objectRequest (id : Bytes) (attempt : Attempt) : RequestMessage :=
  c.request [GetRequest id none, GetAttributesRequest id attempt.selectors c.version attempt.legacyAttributeNamesForV2]

/-- The request of an attempt for attributes only. -/
def attributesRequest (id : Bytes) (attempt : Attempt) : RequestMessage :=
  c.request [GetAttributesRequest id attempt.selectors c.version attempt.legacyAttributeNamesForV2]

/-- In the answer to an attempt both Get and Get Attributes succeeded, and the attributes have the State; then the
preferred formats of the object are asked for. -/
structure RefetchesAfter (id : Bytes) (x : Exchanged) (extras : List Exchanged) : Prop where
  settled : ∃ getItem response attrsItem attrsResponse serverAttrs,
    (x.Found 1 getItem ∧ getItem.resultStatus = kmipStatusSuccess ∧
      GetResponseBatchItem.fromBatchItem getItem = .ok response) ∧
    (x.Found 2 attrsItem ∧ attrsItem.resultStatus = kmipStatusSuccess ∧
      GetAttributesResponseBatchItem.fromBatchItem attrsItem = .ok attrsResponse) ∧
    AttributesParser.parse c.dateToString attrsResponse.attributes = .ok serverAttrs ∧
    serverAttrs.hasAttribute kmipAttrNameState = true ∧
    extras.map (·.request) <+: (preferredKeyFormats response.objectType).map (c.reGet id)

section Operations

variable {c : KmipClient} (hio : c.DocumentedTransport) (id : Bytes) (attempt : Attempt) (history : List Exchanged)

include hio

theorem getAttributesAttempt_tries : ∃ sent extras, Tries (c.attributesRequest id) (fun _ _ => False) attempt history
    (c.getAttributesAttempt id attempt history) sent extras := by
  rw [getAttributesAttempt, makeRequestMessage_eq, Session.of_ok_bind]
  have h := @tries_of_send c hio _ _ (c.attributesRequest id) (fun _ _ => False) attempt _
    (c.raises_readAttributesResponse 1) pure (fun _ a _ => follows_pure a) history
  simp only [bind_pure] at h
  exact h

theorem getSecretAttempt_tries (allAttributes : Bool) : ∃ sent extras, Tries (c.objectRequest id) (fun _ _ => False)
    attempt history (c.getSecretAttempt id allAttributes attempt history) sent extras := by
  rw [getSecretAttempt, makeRequestMessage_eq, Session.of_ok_bind]
  have h := @tries_of_send c hio _ _ (c.objectRequest id) (fun _ _ => False) attempt _
    (c.raises_readSecretResponse allAttributes 1 2) pure (fun _ a _ => follows_pure a) history
  simp only [bind_pure] at h
  exact h

omit hio in
/-- A key response that is read: both items succeeded, and the State is there. -/
theorem readKeyResponse_eq_ok {x : Exchanged} {response : GetResponseBatchItem} {serverAttrs : Attributes}
    (h : x.reads (c.readKeyResponse 1 2) = .ok (response, serverAttrs)) {extras : List Exchanged}
    (hextras : extras.map (·.request) <+: (preferredKeyFormats response.objectType).map (c.reGet id)) :
    c.RefetchesAfter id x extras := by
  obtain ⟨bytes, hanswer, h⟩ := Except.bind_eq_ok_iff.1 h
  obtain ⟨⟨response', parser⟩, hget, h⟩ := Except.bind_eq_ok_iff.1 h
  obtain ⟨⟨attrsResponse, parser'⟩, hattrs, h⟩ := Except.bind_eq_ok_iff.1 h
  obtain ⟨serverAttrs', hparse, h⟩ := Except.bind_eq_ok_iff.1 h
  obtain ⟨getItem, hgetItem, hgetStatus, hgetFrom⟩ := ResponseParser.getResponseByBatchItemId_eq_ok hget
  obtain ⟨attrsItem, hattrsItem, hattrsStatus, hattrsFrom⟩ := ResponseParser.getResponseByBatchItemId_eq_ok hattrs
  rw [ResponseParser.getResponseItemByBatchItemId_after hgetItem] at hattrsItem
  split at h
  · cases h
  · rename_i hstate
    cases h
    exact ⟨getItem, response, attrsItem, attrsResponse, serverAttrs,
      ⟨⟨bytes, parser, hanswer, hgetItem⟩, hgetStatus, hgetFrom⟩,
      ⟨⟨bytes, parser', hanswer, hattrsItem⟩, hattrsStatus, hattrsFrom⟩, hparse, by simpa using hstate, hextras⟩

theorem getKeyAttempt_tries : ∃ sent extras, Tries (c.objectRequest id) (c.RefetchesAfter id) attempt history
    (c.getKeyAttempt id attempt history) sent extras := by
  rw [getKeyAttempt, makeRequestMessage_eq, Session.of_ok_bind]
  refine @tries_of_send c hio _ _ (c.objectRequest id) (c.RefetchesAfter id) attempt _
    (c.raises_readKeyResponse 1 2) _ (fun x ⟨response, serverAttrs⟩ hread => ⟨fun history => ?_⟩) history
  obtain ⟨asked, outcome, hfetched, hrun⟩ := c.keyFromGetResponse_run id response history
  have hnext : (c.keyFromGetResponse id response >>= fun key =>
      (pure { key with attributes := key.attributes.merge serverAttrs } : Session Key)) history =
      Session.of (outcome.map fun key => { key with attributes := key.attributes.merge serverAttrs })
        (history ++ asked.map (·.2)) := by
    rw [Hoare.bind_apply, hrun]
    cases outcome <;> rfl
  refine ⟨asked.map (·.2), ?_, .inr (readKeyResponse_eq_ok id hread ?_), ?_⟩
  · dsimp only
    rw [hnext]
    cases outcome <;> rfl
  · have hmap : (asked.map (·.2)).map (·.request) = (asked.map (·.1)).map (c.reGet id) := by
      rw [List.map_map, List.map_map]
      exact List.map_congr_left hfetched.request_eq
    rw [hmap]
    exact hfetched.isPrefix.map _
  · intro e history' h
    dsimp only at h
    rw [hnext] at h
    cases outcome with
    | error e' =>
      cases h
      exact hfetched.not_retry hio rfl
    | ok key => cases h

end Operations

/-! ## The discipline -/

/-- The attempts are made in order, a further one only from KMIP 2.0 on and after a refusal, and the last one without
selectors only if there were some. The result is that of the last one. -/
structure Retries {α : Type} (execute : Attempt → Session α) (request : Attempt → RequestMessage)
    (Extra : Exchanged → List Exchanged → Prop) (names : List Bytes) (history : List Exchanged)
    (result : EStateM.Result Abort (List Exchanged) α) (made : List Attempt) (sent extras : List Exchanged) : Prop
    extends Sends request Extra made history result sent extras where
  inOrder : made <+: attempts names
  outcome : Runs execute made history result
  version : 1 < made.length → c.version.isAtLeast 2 0 = true
  selectors : 2 < made.length → names ≠ []
  atMostThree : sent.length ≤ 3

theorem withRetries_retries {α : Type} {execute : Attempt → Session α} {request : Attempt → RequestMessage}
    {Extra : Exchanged → List Exchanged → Prop}
    (hexecute : ∀ attempt history, ∃ sent extras,
      Tries request Extra attempt history (execute attempt history) sent extras)
    (names : List Bytes) (history : List Exchanged) :
    ∃ made sent extras, c.Retries execute request Extra names history (c.withRetries execute names history) made sent
      extras := by
  obtain ⟨made, hprefix, hruns, hversion, hselectors⟩ := c.withRetries_runs execute names history
  obtain ⟨sent, extras, hsends⟩ := hruns.sends hexecute
  refine ⟨made, sent, extras, hsends, hprefix, hruns, hversion, hselectors, ?_⟩
  exact hsends.length_le.trans hprefix.length_le

theorem RefetchesAfter.length_le {c : KmipClient} {id : Bytes} {x : Exchanged} {extras : List Exchanged}
    (h : c.RefetchesAfter id x extras) : extras.length ≤ 2 := by
  obtain ⟨_, response, _, _, _, _, _, _, _, hprefix⟩ := h.settled
  have hlength := hprefix.length_le
  rw [List.length_map, List.length_map] at hlength
  exact hlength.trans (length_preferredKeyFormats_le response.objectType)

section Retries

variable {c : KmipClient} (hio : c.DocumentedTransport) (id : Bytes) (history : List Exchanged)

include hio

theorem opGetKey_retries (allAttributes : Bool) : ∃ made sent extras,
    c.Retries (c.getKeyAttempt id) (c.objectRequest id) (c.RefetchesAfter id) (defaultGetKeyAttrs allAttributes) history
      (c.opGetKey id allAttributes history) made sent extras ∧ extras.length ≤ 2 := by
  obtain ⟨made, sent, extras, h⟩ := c.withRetries_retries (getKeyAttempt_tries hio id)
    (defaultGetKeyAttrs allAttributes) history
  refine ⟨made, sent, extras, h, ?_⟩
  rcases h.extra with rfl | ⟨x, -, -, hafter⟩
  · exact Nat.zero_le 2
  · exact hafter.length_le

theorem opGetSecret_retries (allAttributes : Bool) : ∃ made sent,
    c.Retries (c.getSecretAttempt id allAttributes) (c.objectRequest id) (fun _ _ => False)
      (defaultGetSecretAttrs allAttributes) history (c.opGetSecret id allAttributes history) made sent [] := by
  obtain ⟨made, sent, extras, h⟩ := c.withRetries_retries
    (fun attempt history => getSecretAttempt_tries hio id attempt history allAttributes)
    (defaultGetSecretAttrs allAttributes) history
  obtain rfl := h.toSends.extras_eq_nil
  exact ⟨made, sent, h⟩

theorem opGetAttributes_retries (names : List Bytes) : ∃ made sent,
    c.Retries (c.getAttributesAttempt id) (c.attributesRequest id) (fun _ _ => False) names history
      (c.opGetAttributes id names history) made sent [] := by
  obtain ⟨made, sent, extras, h⟩ := c.withRetries_retries (getAttributesAttempt_tries hio id) names history
  obtain rfl := h.toSends.extras_eq_nil
  exact ⟨made, sent, h⟩

end Retries

end KmipClient

end Kmip.Client
