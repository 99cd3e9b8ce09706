import Kmip.Client.ExchangeFraming

/-!
# Replies to requests

The exchanges of a run stay in sync with a peer that replies to the requests of a connection in their order: every
exchange that returns has received the reply to its own request (`replied_exchangeAll`). Over a transport that does not
fail, a reply is received if it is within the limit of the exchange and refused if it is not (`perform_received`,
`perform_refused`), and if all of them are, the run stays on its connection and every exchange returns
(`received_exchangeAll`).
-/

namespace Kmip.Client.IOUtils

/-- A KMIP message: a header and as many bytes as it says. -/
structure IsMessage (message : List UInt8) : Prop where
  header : kmipMsgLengthBytes ≤ message.length
  length_eq : message.length = kmipMsgLengthBytes + BigEndian.value ((message.drop 4).take 4)

/-- The exchanges on connection `c` that have returned. -/
def returnedOn (c : Nat) (steps : List Step) : List Step :=
  steps.filter fun step => step.before.view.connection = c ∧ step.result.isOk = true

/-- The peer sends its replies on a connection in the order of the requests. -/
def RepliesInOrder (env : Environment) (reply : Step → List UInt8) (steps : List Step) (offset : Nat → Nat) : Prop :=
  ∀ c, window (env.peer c) (offset c) ((returnedOn c steps).flatMap reply).length = (returnedOn c steps).flatMap reply

/-- A message on a stream is as long as the stream says. -/
theorem IsMessage.length_eq_messageSize {stream : Nat → UInt8} {p : Nat} {message : List UInt8} (h : IsMessage message)
    (hstream : window stream p message.length = message) : message.length = messageSize stream p := by
  have hheader := h.header
  obtain ⟨n, hn⟩ := Nat.exists_eq_add_of_le hheader
  have hfield : (message.drop 4).take 4 = window stream (p + 4) 4 := by
    rw [← hstream, hn, show kmipMsgLengthBytes + n = 4 + (4 + n) from by rw [← Nat.add_assoc]; rfl, ← window_append,
      ← window_append, List.drop_left' (length_window ..), List.take_left' (length_window ..)]
  rw [h.length_eq, hfield]
  rfl

theorem returnedOn_cons_of_ne {c : Nat} {step : Step} (steps : List Step)
    (h : ¬(step.before.view.connection = c ∧ step.result.isOk = true)) :
    returnedOn c (step :: steps) = returnedOn c steps := List.filter_cons_of_neg (by simpa using h)

theorem returnedOn_eq_nil {c : Nat} {steps : List Step} (h : ∀ step ∈ steps, c < step.before.view.connection) :
    returnedOn c steps = [] := by
  refine List.filter_eq_nil_iff.2 fun step hmem => ?_
  have hlt := h step hmem
  simp only [decide_eq_true_eq, not_and]
  omega

/-- Every exchange that returns has received the reply to its request. -/
theorem replied_exchangeAll (env : Environment) {reply : Step → List UInt8}
    (hmessage : ∀ step, IsMessage (reply step)) :
    ∀ (calls : List Call) (s : State), (∀ call ∈ calls, Sendable call.request) →
      RepliesInOrder env reply (exchangeAll env calls s) s.view.offset →
      ∀ step ∈ exchangeAll env calls s, step.result = .ok () → step.after.responseBytes = reply step
  | [], _, _, _, _, hmem, _ => absurd hmem List.not_mem_nil
  | call :: calls, s, hcalls, hreplies, step, hmem, hok => by
    rw [List.forall_mem_cons] at hcalls
    unfold exchangeAll at hreplies hmem
    have hrest := replied_exchangeAll env hmessage calls (perform env s call).after hcalls.2
    have hlater := connection_le_of_mem_exchangeAll env calls (perform env s call).after hcalls.2
    generalize exchangeAll env calls (perform env s call).after = rest at hreplies hmem hrest hlater
    rcases perform_cases env s hcalls.1 with ⟨s', hstep, -, hat⟩ | ⟨e, s', hstep, hfailed⟩
    · rw [hstep] at hreplies hmem hrest
      have hhere := hreplies s.view.connection
      have hcons : returnedOn s.view.connection (⟨s, call, .ok (), s'⟩ :: rest) =
          ⟨s, call, .ok (), s'⟩ :: returnedOn s.view.connection rest :=
        List.filter_cons_of_pos (decide_eq_true ⟨rfl, rfl⟩)
      have hoffset : s.view.offset s.view.connection = s.view.position := if_pos rfl
      rw [hcons, List.flatMap_cons, List.length_append, ← window_append, hoffset] at hhere
      obtain ⟨hmine, hothers⟩ := List.append_inj hhere (length_window ..)
      have hsize := (hmessage _).length_eq_messageSize hmine
      rcases List.mem_cons.1 hmem with rfl | hmem
      · rw [hat.responseBytes, ← hsize]
        exact hmine
      · refine hrest (fun c => ?_) step hmem hok
        dsimp only
        rw [hat.view_eq]
        by_cases hc : s.view.connection = c
        · subst hc
          rw [← hsize]
          exact (congrArg (fun p => window _ p _) (if_pos rfl)).trans hothers
        · have hc' := hreplies c
          rw [returnedOn_cons_of_ne rest fun h => hc h.1] at hc'
          have hzero : s.view.offset c = 0 := if_neg hc
          rw [hzero] at hc'
          exact (congrArg (fun p => window _ p _) (if_neg hc)).trans hc'
    · rw [hstep] at hreplies hmem hrest hlater
      rcases List.mem_cons.1 hmem with rfl | hmem
      · cases hok
      · refine hrest (fun c => ?_) step hmem hok
        have hc' := hreplies c
        rw [returnedOn_cons_of_ne rest fun h => by cases h.2] at hc'
        have hzero : s'.view.offset c = 0 := by
          rw [State.view_of_closed hfailed.closed]
          exact ite_self _
        dsimp only
        rw [hzero]
        by_cases hoffset : s.view.offset c = 0
        · rwa [hoffset] at hc'
        · -- the connection that has failed is not used again
          have hframed := perform_framed env s hcalls.1
          rw [hstep] at hframed
          rw [returnedOn_eq_nil fun step hmem => ?_]
          · rfl
          · have hle := hlater step hmem
            rw [State.view_of_closed hfailed.closed] at hle
            rw [← State.connection_of_offset hoffset]
            exact Nat.lt_of_le_of_lt hframed.connection hle

/-! ## Replies over a transport that does not fail -/

/-- A reply that is not refused. -/
def Accepts (call : Call) (message : List UInt8) : Prop :=
  IsMessage message ∧ message.length ≤ kmipMsgLengthBytes + effectiveLimit call.maxMessageSize

section Smooth

variable {env : Environment} (hsmooth : env.Smooth) {s : State} {call : Call} (hcall : Sendable call.request)
  {message : List UInt8} (hmessage : IsMessage message)
  (hstream : window (env.peer s.view.connection) s.view.position message.length = message)

include hsmooth hcall hmessage hstream

/-- A reply within the limit is received, and the next exchange starts after it. -/
theorem perform_received (hle : message.length ≤ kmipMsgLengthBytes + effectiveLimit call.maxMessageSize) :
    ∃ s', perform env s call = ⟨s, call, .ok (), s'⟩ ∧
      At s.view.connection (s.view.position + message.length) (s.view.sent ++ call.request) message s' := by
  have hsize := hmessage.length_eq_messageSize hstream
  rcases perform_cases env s hcall with ⟨s', hstep, -, hat⟩ | ⟨e, s', -, -, ⟨-, hbroken⟩ | hrefused⟩
  · rw [← hsize, hstream] at hat
    exact ⟨s', hstep, hat⟩
  · exact absurd hsmooth hbroken.not_smooth
  · have hlong := hrefused.length
    rw [hsize, messageSize] at hle
    omega

/-- A longer one is refused. -/
theorem perform_refused (hlt : kmipMsgLengthBytes + effectiveLimit call.maxMessageSize < message.length) :
    ∃ length s', perform env s call = ⟨s, call, .error (tooLong length call.maxMessageSize), s'⟩ := by
  have hsize := hmessage.length_eq_messageSize hstream
  rcases perform_cases env s hcall with ⟨s', -, hle, -⟩ | ⟨e, s', hstep, -, ⟨-, hbroken⟩ | hrefused⟩
  · rw [hsize, messageSize] at hlt
    omega
  · exact absurd hsmooth hbroken.not_smooth
  · rw [hrefused.exception] at hstep
    exact ⟨_, s', hstep⟩

end Smooth

/-- The stream of the connection goes on with the replies to the calls, in their order. -/
def RepliesToAll (env : Environment) (reply : Call → List UInt8) (calls : List Call) (v : View) : Prop :=
  window (env.peer v.connection) v.position (calls.flatMap reply).length = calls.flatMap reply

/-- Every exchange receives the reply to its request. -/
theorem received_exchangeAll {env : Environment} (hsmooth : env.Smooth) {reply : Call → List UInt8} :
    ∀ (calls : List Call) (s : State), (∀ call ∈ calls, Sendable call.request) →
      (∀ call ∈ calls, Accepts call (reply call)) → RepliesToAll env reply calls s.view →
      (exchangeAll env calls s).map (fun step => (step.result, step.after.responseBytes)) =
        calls.map fun call => (.ok (), reply call)
  | [], _, _, _, _ => rfl
  | call :: calls, s, hcalls, haccepts, hreplies => by
    rw [List.forall_mem_cons] at hcalls haccepts
    unfold RepliesToAll at hreplies
    rw [List.flatMap_cons, List.length_append, ← window_append] at hreplies
    obtain ⟨hmine, hothers⟩ := List.append_inj hreplies (length_window ..)
    obtain ⟨s', hstep, hat⟩ := perform_received hsmooth hcalls.1 haccepts.1.1 hmine haccepts.1.2
    have hrest := received_exchangeAll hsmooth calls s' hcalls.2 haccepts.2 (by rw [hat.view_eq]; exact hothers)
    rw [exchangeAll, hstep, List.map_cons, List.map_cons, hrest, hat.responseBytes]

end Kmip.Client.IOUtils
