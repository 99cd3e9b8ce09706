import Kmip.Client.SessionRequests
import Kmip.Client.Transport

/-!
# Sessions over `IOUtils`

A session over a transport performs one exchange of `IOUtils` for each request that it sends, whatever its operations
are and however they end. What it sends is never empty and never too long for `IOUtils::send`
(`sendable_of_serialize`), so that a session stays in sync without further conditions (`performAll_inSync`). The
attempts of Get and Get Attributes are such exchanges, and no failure of the transport is taken for a refusal
(`get_operations_retry_overTransport`).
-/

namespace Kmip.Client

open Hoare Relation

namespace IOUtils

/-- The call of an exchange. -/
def callOf (x : Exchanged) : Call := ⟨x.sent, x.request.getMaxResponseSize⟩

theorem stateAfter_append (env : Environment) (start part : List Exchanged) :
    stateAfter env (start ++ part) =
      lastState (stateAfter env start) (exchangeAll env (part.map callOf) (stateAfter env start)) := by
  rw [lastState_exchangeAll, List.foldl_map]
  exact List.foldl_append

/-- What is serialized can be sent. -/
theorem sendable_of_serialize {m : RequestMessage} {now : Int64} {bytes : List UInt8}
    (h : m.serialize now = .ok bytes) : Sendable bytes := by
  obtain ⟨hne, hle⟩ := RequestMessage.serialize_length h
  exact ⟨hne, hle.trans_lt (by decide)⟩

/-- The answers of a part of a history are those of the exchanges of its calls, after what was exchanged before it. -/
structure Performs (env : Environment) (start part : List Exchanged) : Prop where
  serialized : ∀ x ∈ part, ∃ now, x.request.serialize now = .ok x.sent
  answers : part.map (·.answer) = (exchangeAll env (part.map callOf) (stateAfter env start)).map Step.answered

theorem Performs.sendable {env : Environment} {start part : List Exchanged} (h : Performs env start part) :
    ∀ call ∈ part.map callOf, Sendable call.request := by
  rw [List.forall_mem_map]
  intro x hx
  obtain ⟨_, hs⟩ := h.serialized x hx
  exact sendable_of_serialize hs

/-- One more exchange, whatever its request is. -/
theorem Performs.append {env : Environment} {c : KmipClient} {start part : List Exchanged} {request : RequestMessage}
    {x : Exchanged} (h : Performs env start part)
    (hx : (overTransport env c).exchanged (start ++ part) request = .ok x) : Performs env start (part ++ [x]) := by
  obtain ⟨bytes, hs, hx⟩ := Except.bind_eq_ok_iff.1 hx
  cases hx
  constructor
  · rw [List.forall_mem_append, List.forall_mem_singleton]
    exact ⟨h.serialized, _, hs⟩
  · rw [List.map_append, List.map_append, h.answers, List.map_singleton, List.map_singleton, exchangeAll_append,
      List.map_append, List.map_singleton, ← stateAfter_append]
    rfl

/-- What was exchanged since `start`. -/
theorem performs_of_emits {env : Environment} {c : KmipClient} {Q : RequestMessage → Prop}
    {start history : List Exchanged} (h : ReflTransGen ((overTransport env c).Emits Q) start history) :
    ∃ part, history = start ++ part ∧ Performs env start part ∧ ∀ x ∈ part, Q x.request := by
  refine Transition.invariant_of_reflTransGen
    (I := fun history => ∃ part, history = start ++ part ∧ Performs env start part ∧ ∀ x ∈ part, Q x.request)
    (fun history history' hpart hstep => ?_)
    ⟨[], (List.append_nil start).symm, ⟨List.forall_mem_nil _, rfl⟩, List.forall_mem_nil _⟩ h
  obtain ⟨part, rfl, hperforms, hall⟩ := hpart
  obtain ⟨request, x, hrequest, hx, rfl⟩ := hstep
  refine ⟨part ++ [x], List.append_assoc _ _ _, hperforms.append hx, List.forall_mem_append.2 ⟨hall, ?_⟩⟩
  rw [List.forall_mem_singleton, KmipClient.exchanged_request hx]
  exact hrequest

/-- What an operation adds to a history. -/
theorem performs_of_moves {env : Environment} {c : KmipClient} {Q : RequestMessage → Prop} {α : Type} {m : Session α}
    (h : Moves ((overTransport env c).Emits Q) m) {history part : List Exchanged}
    (hfinal : finalState (m history) = history ++ part) : Performs env history part := by
  obtain ⟨part', hpart', hperforms, -⟩ := performs_of_emits (h.run history)
  rw [hfinal] at hpart'
  rwa [List.append_cancel_left hpart']

end IOUtils

open IOUtils

/-- The exchanges of a session over a transport. -/
def sessionSteps (env : Environment) (c : KmipClient) (operations : List Operation) : List Step :=
  exchangeAll env (((overTransport env c).performAll operations []).map callOf) {}

/-- **Every session stays in sync.** For every environment, client and list of operations, the answers of the session
are those of a run of exchanges over one transport, in which

- every exchange that returns has received the next message of its stream, and every one that fails has closed the
  transport;
- the responses of a connection are its stream from the beginning, without a gap;
- nothing is read from a connection after an exchange on it has failed. -/
theorem performAll_inSync (env : Environment) (c : KmipClient) (operations : List Operation) :
    ((overTransport env c).performAll operations []).map (·.answer) =
        (sessionSteps env c operations).map Step.answered ∧
      (∀ step ∈ sessionSteps env c operations, step.Framed env) ∧
      (∀ connection, ∃ n, responsesOn connection (sessionSteps env c operations) = window (env.peer connection) 0 n) ∧
      (sessionSteps env c operations).Pairwise
        (fun a b => a.result ≠ .ok () → a.after.connection < b.before.view.connection) := by
  have h : Performs env [] ((overTransport env c).performAll operations []) := by
    obtain ⟨part, hpart, h, -⟩ := performs_of_emits ((overTransport env c).performAll_emits operations [])
    rwa [hpart]
  refine ⟨h.answers, ?_, fun connection => ?_, exchangeAll_pairwise env _ _ h.sendable⟩
  · exact forall_mem_exchangeAll env (fun s _ hcall => perform_framed env s hcall) _ _ h.sendable
  · obtain ⟨n, hn⟩ := responsesOn_exchangeAll env connection _ {} h.sendable
    refine ⟨n, hn.trans ?_⟩
    rw [show (({} : State).view.offset connection) = 0 by simp [State.view, View.offset]]

namespace KmipClient

/-- **Retries over `IOUtils`.** For every environment, however the connections behave and whatever comes from the
server, the three operations make their attempts in order, each further one only after the server has refused the one
before. What they send is exchanged over the transport, one request after the other, from where it was. -/
theorem get_operations_retry_overTransport (env : Environment) (c : KmipClient) (id : Bytes)
    (history : List Exchanged) :
    (∀ allAttributes, ∃ made sent extras, (overTransport env c).Retries ((overTransport env c).getKeyAttempt id)
      ((overTransport env c).objectRequest id) ((overTransport env c).RefetchesAfter id)
      (defaultGetKeyAttrs allAttributes) history ((overTransport env c).opGetKey id allAttributes history) made sent
      extras ∧ extras.length ≤ 2 ∧ Performs env history (sent ++ extras)) ∧
    (∀ allAttributes, ∃ made sent, (overTransport env c).Retries
      ((overTransport env c).getSecretAttempt id allAttributes) ((overTransport env c).objectRequest id)
      (fun _ _ => False) (defaultGetSecretAttrs allAttributes) history
      ((overTransport env c).opGetSecret id allAttributes history) made sent [] ∧ Performs env history sent) ∧
    (∀ names, ∃ made sent, (overTransport env c).Retries ((overTransport env c).getAttributesAttempt id)
      ((overTransport env c).attributesRequest id) (fun _ _ => False) names history
      ((overTransport env c).opGetAttributes id names history) made sent [] ∧ Performs env history sent) := by
  have hio := documentedTransport_overTransport env c
  refine ⟨fun allAttributes => ?_, fun allAttributes => ?_, fun names => ?_⟩
  · obtain ⟨made, sent, extras, h, hlength⟩ := opGetKey_retries hio id history allAttributes
    refine ⟨made, sent, extras, h, hlength, performs_of_moves (c := c) (moves_opGetKey id allAttributes) ?_⟩
    exact h.final.trans (List.append_assoc _ _ _)
  · obtain ⟨made, sent, h⟩ := opGetSecret_retries hio id history allAttributes
    refine ⟨made, sent, h, performs_of_moves (c := c) (moves_opGetSecret id allAttributes) ?_⟩
    exact h.final.trans (List.append_nil _)
  · obtain ⟨made, sent, h⟩ := opGetAttributes_retries hio id history names
    refine ⟨made, sent, h, performs_of_moves (c := c) (moves_opGetAttributes id names) ?_⟩
    exact h.final.trans (List.append_nil _)

end KmipClient

end Kmip.Client
