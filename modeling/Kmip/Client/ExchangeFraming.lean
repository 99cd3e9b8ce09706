import Kmip.Client.ExchangeRules

/-!
# Exchanges stay in sync

A run of exchanges, each on the connection that the one before left open or on a new one. For every environment:

- an exchange that returns has sent its request and has received the next message of the stream, and one that fails has
  thrown a `KmipIOException`, kept `response_bytes` and closed the transport (`perform_framed`);
- the responses of a connection are its stream from the beginning, cut into messages (`responsesOn_exchangeAll`), and a
  connection on which an exchange has failed is not used again (`exchangeAll_pairwise`);
- as long as the transport does not fail, the run is the one of an ideal transport, which delivers whole messages
  (`exchangeAll_ideal`): how the bytes were cut into pieces does not matter.
-/

namespace Kmip.Client.IOUtils

open Hoare

/-! ## Runs -/

/-- The arguments of one exchange. -/
structure Call where
  request : List UInt8
  maxMessageSize : Nat

/-- An exchange that took place. -/
structure Step where
  before : State
  call : Call
  result : Except Abort Unit
  after : State

/-- An exchange from how it ended. -/
def Step.of (s : State) (call : Call) : EStateM.Result Abort State Unit → Step
  | .ok a s' => ⟨s, call, .ok a, s'⟩
  | .error e s' => ⟨s, call, .error e, s'⟩

/-- One exchange. -/
def perform (env : Environment) (s : State) (call : Call) : Step :=
  Step.of s call (doExchange env call.request call.maxMessageSize s)

/-- The exchanges of a list of calls, one after the other. -/
def exchangeAll (env : Environment) : List Call → State → List Step
  | [], _ => []
  | call :: calls, s => perform env s call :: exchangeAll env calls (perform env s call).after

/-- The state after some exchanges. -/
def lastState (start : State) (steps : List Step) : State := (steps.getLast?.map (·.after)).getD start

theorem lastState_cons (start : State) (step : Step) (steps : List Step) :
    lastState start (step :: steps) = lastState step.after steps := by
  cases steps with
  | nil => rfl
  | cons step' steps =>
    unfold lastState
    rw [List.getLast?_cons_cons]
    cases h : (step' :: steps).getLast? with
    | none => cases List.getLast?_eq_none_iff.1 h
    | some last => rfl

theorem lastState_append (start : State) (steps : List Step) (step : Step) :
    lastState start (steps ++ [step]) = step.after := by
  unfold lastState
  rw [List.getLast?_append]
  rfl

theorem lastState_exchangeAll (env : Environment) (calls : List Call) (start : State) :
    lastState start (exchangeAll env calls start) = calls.foldl (fun s call => (perform env s call).after) start := by
  induction calls generalizing start with
  | nil => rfl
  | cons call calls ih => rw [exchangeAll, lastState_cons, ih, List.foldl_cons]

/-- One more exchange goes on where the others have ended. -/
theorem exchangeAll_append (env : Environment) (calls : List Call) (call : Call) (start : State) :
    exchangeAll env (calls ++ [call]) start =
      exchangeAll env calls start ++ [perform env (lastState start (exchangeAll env calls start)) call] := by
  induction calls generalizing start with
  | nil => rfl
  | cons first calls ih =>
    rw [List.cons_append, exchangeAll, exchangeAll, ih, lastState_cons]
    rfl

/-- What the exchanges after a state see of it: the connection that the next one is on, and where it starts there. After
`close()` it is a new connection. -/
structure View where
  connected : Bool
  connection : Nat
  position : Nat
  sent : List UInt8
  responseBytes : List UInt8

def State.view (s : State) : View :=
  if s.connected then ⟨true, s.connection, s.position, s.sent, s.responseBytes⟩
  else ⟨false, s.connection + 1, 0, [], s.responseBytes⟩

theorem State.view_of_closed {s : State} (h : s.connected = false) :
    s.view = ⟨false, s.connection + 1, 0, [], s.responseBytes⟩ := by
  unfold State.view
  rw [h]
  rfl

theorem At.view_eq {c p : Nat} {w r : List UInt8} {s : State} (h : At c p w r s) : s.view = ⟨true, c, p, w, r⟩ := by
  unfold State.view
  rw [if_pos h.connected, h.connection, h.position, h.sent, h.responseBytes]

theorem State.connection_le_view (s : State) : s.connection ≤ s.view.connection := by
  unfold State.view
  split
  · exact Nat.le_refl _
  · exact Nat.le_succ _

/-- Every state is ready for the next exchange. -/
theorem State.ready (s : State) :
    Ready s.connection s.view.connection s.view.position s.view.sent s.responseBytes s := by
  refine ⟨fun hopen => ?_, fun hclosed => ?_, Nat.le_refl _, rfl⟩
  · have hview : s.view = ⟨true, s.connection, s.position, s.sent, s.responseBytes⟩ := if_pos hopen
    rw [hview]
    exact ⟨hopen, rfl, rfl, rfl, rfl⟩
  · rw [State.view_of_closed hclosed]
    exact ⟨rfl, rfl, rfl⟩

/-! ## One exchange of a run -/

section Step

variable (env : Environment) (step : Step)

/-- The stream from which an exchange receives its response. -/
def Step.stream : Nat → UInt8 := env.peer step.before.view.connection

/-- The size of the message that an exchange finds on its stream. -/
def Step.size : Nat := messageSize (step.stream env) step.before.view.position

/-- An exchange that returns: it has sent exactly its request, the response is the next message of the stream, and the
transport stands right after it. -/
structure Step.Returned : Prop where
  length_le : lengthField (step.stream env) step.before.view.position ≤ effectiveLimit step.call.maxMessageSize
  responseBytes : step.after.responseBytes = window (step.stream env) step.before.view.position (step.size env)
  sent : step.after.sent = step.before.view.sent ++ step.call.request
  connected : step.after.connected = true
  connection : step.after.connection = step.before.view.connection
  position : step.after.position = step.before.view.position + step.size env

/-- An exchange that fails. -/
structure Step.Threw (e : Abort) : Prop where
  exception : ∃ code message, e = failure code message
  responseBytes : step.after.responseBytes = step.before.responseBytes
  connected : step.after.connected = false
  connection : step.before.connection ≤ step.after.connection

/-- What an exchange does to its stream. -/
def Step.Framed : Prop :=
  match step.result with
  | .ok _ => step.Returned env
  | .error e => step.Threw e

/-- The transport has failed during the exchange. -/
def Step.Interrupted : Prop := ∃ message, step.result = .error (failure kmipIoFailure message)

end Step

/-- The two ways an exchange ends. -/
theorem perform_cases (env : Environment) (s : State) {call : Call} (hcall : Sendable call.request) :
    (∃ s', perform env s call = ⟨s, call, .ok (), s'⟩ ∧
      lengthField (env.peer s.view.connection) s.view.position ≤ effectiveLimit call.maxMessageSize ∧
      At s.view.connection (s.view.position + messageSize (env.peer s.view.connection) s.view.position)
        (s.view.sent ++ call.request)
        (window (env.peer s.view.connection) s.view.position
          (messageSize (env.peer s.view.connection) s.view.position)) s') ∨
    ∃ e s', perform env s call = ⟨s, call, .error e, s'⟩ ∧
      Failed env s.connection s.view.connection s.view.position call.maxMessageSize s.responseBytes e s' := by
  cases hr : doExchange env call.request call.maxMessageSize s with
  | ok a s' =>
    exact .inl ⟨s', congrArg (Step.of s call) hr, (doExchange_triple s.connection_le_view hcall _).ok s.ready hr⟩
  | error e s' =>
    exact .inr ⟨e, s', congrArg (Step.of s call) hr, (doExchange_triple s.connection_le_view hcall _).error s.ready hr⟩

/-- One exchange of a run is framed. -/
theorem perform_framed (env : Environment) (s : State) {call : Call} (hcall : Sendable call.request) :
    (perform env s call).Framed env := by
  rcases perform_cases env s hcall with ⟨s', hstep, hle, hat⟩ | ⟨e, s', hstep, hfailed⟩
  · rw [hstep]
    exact ⟨hle, hat.responseBytes, hat.sent, hat.connected, hat.connection, hat.position⟩
  · rw [hstep]
    obtain ⟨hclosed, ⟨⟨message, rfl⟩, hbroken⟩ | hrefused⟩ := hfailed
    · exact ⟨⟨_, _, rfl⟩, hbroken.responseBytes, hclosed, hbroken.connection⟩
    · refine ⟨⟨_, _, hrefused.exception⟩, hrefused.responseBytes, hclosed, ?_⟩
      show s.connection ≤ s'.connection
      rw [hrefused.connection]
      exact s.connection_le_view

/-- An exchange does not go back to a connection before the one of its state. -/
theorem connection_le_perform (env : Environment) (s : State) {call : Call} (hcall : Sendable call.request) :
    s.view.connection ≤ (perform env s call).after.view.connection := by
  rcases perform_cases env s hcall with ⟨s', hstep, -, hat⟩ | ⟨e, s', hstep, hfailed⟩
  · rw [hstep, hat.view_eq]
  · rw [hstep, State.view_of_closed hfailed.closed]
    rcases hfailed.cause with ⟨-, hbroken⟩ | hrefused
    · have hle := hbroken.connection
      have hview : s.view.connection ≤ s.connection + 1 := by
        unfold State.view
        split
        · exact Nat.le_succ _
        · exact Nat.le_refl _
      show s.view.connection ≤ s'.connection + 1
      omega
    · show s.view.connection ≤ s'.connection + 1
      rw [hrefused.connection]
      exact Nat.le_succ _

/-! ## Whole runs -/

section Runs

variable (env : Environment)

/-- What holds of one exchange from any state holds of every exchange of a run. -/
theorem forall_mem_exchangeAll {P : Step → Prop}
    (h : ∀ (s : State) (call : Call), Sendable call.request → P (perform env s call)) :
    ∀ (calls : List Call) (s : State), (∀ call ∈ calls, Sendable call.request) →
      ∀ step ∈ exchangeAll env calls s, P step
  | [], _, _, _, hmem => absurd hmem List.not_mem_nil
  | call :: calls, s, hcalls, step, hmem => by
    rw [List.forall_mem_cons] at hcalls
    rcases List.mem_cons.1 hmem with rfl | hmem
    · exact h s call hcalls.1
    · exact forall_mem_exchangeAll h calls _ hcalls.2 step hmem

/-- The connections of a run come in order. -/
theorem connection_le_of_mem_exchangeAll : ∀ (calls : List Call) (s : State), (∀ call ∈ calls, Sendable call.request) →
    ∀ step ∈ exchangeAll env calls s, s.view.connection ≤ step.before.view.connection
  | [], _, _, _, hmem => absurd hmem List.not_mem_nil
  | call :: calls, s, hcalls, step, hmem => by
    rw [List.forall_mem_cons] at hcalls
    rcases List.mem_cons.1 hmem with rfl | hmem
    · rcases perform_cases env s hcalls.1 with ⟨s', hstep, -⟩ | ⟨e, s', hstep, -⟩
      · rw [hstep]
      · rw [hstep]
    · exact (connection_le_perform env s hcalls.1).trans
        (connection_le_of_mem_exchangeAll calls _ hcalls.2 step hmem)

/-- The exchanges after a failure are on connections that were opened after it. -/
theorem exchangeAll_pairwise : ∀ (calls : List Call) (s : State), (∀ call ∈ calls, Sendable call.request) →
    (exchangeAll env calls s).Pairwise (fun a b =>
      a.result ≠ .ok () → a.after.connection < b.before.view.connection)
  | [], _, _ => List.Pairwise.nil
  | call :: calls, s, hcalls => by
    rw [List.forall_mem_cons] at hcalls
    refine List.Pairwise.cons ?_ (exchangeAll_pairwise calls _ hcalls.2)
    intro step hmem hfails
    have hle := connection_le_of_mem_exchangeAll env calls _ hcalls.2 step hmem
    rcases perform_cases env s hcalls.1 with ⟨s', hstep, -⟩ | ⟨e, s', hstep, hfailed⟩
    · rw [hstep] at hfails
      exact absurd rfl hfails
    · rw [hstep, State.view_of_closed hfailed.closed] at hle
      rw [hstep]
      exact hle

end Runs

/-! ## The responses of a connection -/

/-- What an exchange returned. -/
def Step.response (step : Step) : List UInt8 :=
  match step.result with
  | .ok _ => step.after.responseBytes
  | .error _ => []

/-- The responses that were received on connection `c`, put together. -/
def responsesOn (c : Nat) (steps : List Step) : List UInt8 :=
  steps.flatMap fun step => if step.before.view.connection = c then step.response else []

/-- Where the next exchange on connection `c` starts. -/
def View.offset (v : View) (c : Nat) : Nat := if v.connection = c then v.position else 0

theorem responsesOn_cons (c : Nat) (step : Step) (steps : List Step) :
    responsesOn c (step :: steps) =
      (if step.before.view.connection = c then step.response else []) ++ responsesOn c steps :=
  List.flatMap_cons

theorem responsesOn_eq_nil {c : Nat} {steps : List Step} (h : ∀ step ∈ steps, c < step.before.view.connection) :
    responsesOn c steps = [] :=
  List.flatMap_eq_nil_iff.2 fun step hmem => if_neg (Nat.ne_of_gt (h step hmem))

/-- Only the connection that is open has been read from. -/
theorem State.connection_of_offset {s : State} {c : Nat} (h : s.view.offset c ≠ 0) : s.connection = c := by
  unfold View.offset State.view at h
  by_cases hopen : s.connected
  · rw [if_pos hopen] at h
    by_contra hne
    exact h (if_neg hne)
  · rw [if_neg hopen] at h
    split at h <;> exact absurd rfl h

/-- The responses of a connection are its stream, from where the run has found it, without a gap. -/
theorem responsesOn_exchangeAll (env : Environment) (c : Nat) : ∀ (calls : List Call) (s : State),
    (∀ call ∈ calls, Sendable call.request) →
      ∃ n, responsesOn c (exchangeAll env calls s) = window (env.peer c) (s.view.offset c) n
  | [], _, _ => ⟨0, rfl⟩
  | call :: calls, s, hcalls => by
    rw [List.forall_mem_cons] at hcalls
    obtain ⟨n, hn⟩ := responsesOn_exchangeAll env c calls (perform env s call).after hcalls.2
    have hconnections := connection_le_of_mem_exchangeAll env calls (perform env s call).after hcalls.2
    unfold exchangeAll
    rw [responsesOn_cons]
    rcases perform_cases env s hcalls.1 with ⟨s', hstep, -, hat⟩ | ⟨e, s', hstep, hfailed⟩
    · rw [hn, hstep, hat.view_eq]
      by_cases hc : s.view.connection = c
      · -- the message and what comes after it
        subst hc
        refine ⟨messageSize (env.peer s.view.connection) s.view.position + n, ?_⟩
        simp only [View.offset, if_true, Step.response, hat.responseBytes]
        exact window_append _ _ _ _
      · refine ⟨n, ?_⟩
        simp only [View.offset, if_neg hc, List.nil_append]
    · rw [hstep] at hn hconnections ⊢
      simp only [Step.response, ite_self, List.nil_append]
      by_cases hoffset : s.view.offset c = 0
      · refine ⟨n, ?_⟩
        rw [hn, State.view_of_closed hfailed.closed, hoffset]
        simp only [View.offset, ite_self]
      · -- the connection that has failed is not used again
        refine ⟨0, responsesOn_eq_nil fun step hmem => ?_⟩
        have hlater := hconnections step hmem
        rw [State.view_of_closed hfailed.closed] at hlater
        have hbefore : s.connection ≤ s'.connection := by
          have := perform_framed env s hcalls.1
          rw [hstep] at this
          exact this.connection
        rw [← State.connection_of_offset hoffset]
        exact hbefore.trans_lt hlater

/-! ## The ideal transport -/

/-- How an exchange ended, and where it left the transport. -/
def Step.outcome (step : Step) : Except Abort Unit × View := (step.result, step.after.view)

/-- An exchange over a transport that accepts a whole request and delivers a whole message at once. -/
def View.next (peer : Nat → Nat → UInt8) (v : View) (call : Call) : Except Abort Unit × View :=
  let stream := peer v.connection
  if lengthField stream v.position ≤ effectiveLimit call.maxMessageSize then
    (.ok (), ⟨true, v.connection, v.position + messageSize stream v.position, v.sent ++ call.request,
      window stream v.position (messageSize stream v.position)⟩)
  else
    (.error (tooLong (headerLength (window stream v.position kmipMsgLengthBytes)) call.maxMessageSize),
      ⟨false, v.connection + 1, 0, [], v.responseBytes⟩)

/-- A run over the ideal transport. -/
def idealAll (peer : Nat → Nat → UInt8) : List Call → View → List (Except Abort Unit × View)
  | [], _ => []
  | call :: calls, v => v.next peer call :: idealAll peer calls (v.next peer call).2

@[simp] theorem State.view_responseBytes (s : State) : s.view.responseBytes = s.responseBytes := by
  unfold State.view
  split <;> rfl

/-- An exchange during which the transport does not fail is the one over the ideal transport. -/
theorem perform_ideal (env : Environment) (s : State) {call : Call} (hcall : Sendable call.request)
    (h : ¬(perform env s call).Interrupted) : (perform env s call).outcome = s.view.next env.peer call := by
  unfold View.next
  rcases perform_cases env s hcall with ⟨s', hstep, hle, hat⟩ | ⟨e, s', hstep, hclosed, hthrown | hrefused⟩
  · rw [hstep]
    simp only [Step.outcome, hat.view_eq, if_pos hle]
  · rw [hstep] at h
    obtain ⟨⟨message, rfl⟩, -⟩ := hthrown
    exact absurd ⟨message, rfl⟩ h
  · rw [hstep]
    simp only [Step.outcome, State.view_of_closed hclosed, if_neg (Nat.not_le.2 hrefused.length),
      State.view_responseBytes, hrefused.exception, hrefused.connection, hrefused.responseBytes]

theorem exchangeAll_ideal (env : Environment) : ∀ (calls : List Call) (s : State),
    (∀ call ∈ calls, Sendable call.request) → (∀ step ∈ exchangeAll env calls s, ¬step.Interrupted) →
      (exchangeAll env calls s).map Step.outcome = idealAll env.peer calls s.view
  | [], _, _, _ => rfl
  | call :: calls, s, hcalls, h => by
    rw [List.forall_mem_cons] at hcalls
    unfold exchangeAll at h ⊢
    rw [List.forall_mem_cons] at h
    have hstep := perform_ideal env s hcalls.1 h.1
    rw [List.map_cons, exchangeAll_ideal env calls _ hcalls.2 h.2, idealAll, hstep, ← hstep]
    rfl

/-- Without failures of the transport no exchange is interrupted. -/
theorem not_interrupted_of_smooth {env : Environment} (hsmooth : env.Smooth) (s : State) {call : Call}
    (hcall : Sendable call.request) : ¬(perform env s call).Interrupted := by
  rintro ⟨message, hresult⟩
  rcases perform_cases env s hcall with ⟨s', hstep, -⟩ | ⟨e, s', hstep, -, ⟨-, hbroken⟩ | hrefused⟩
  · rw [hstep] at hresult
    cases hresult
  · exact hbroken.not_smooth hsmooth
  · rw [hstep, hrefused.exception] at hresult
    cases hresult

/-- Exchanges stay in sync. In every run:

- an exchange that returns has sent its request and has received the next message of its stream, within the limit, and
  one that fails has thrown a `KmipIOException`, kept `response_bytes` and closed the transport;
- the responses of a connection are its stream without a gap;
- no response is read from a connection that was there when an exchange failed;
- the outcomes are those of the ideal transport, whatever the pieces, as long as the transport does not fail. -/
theorem exchangeAll_framed (env : Environment) (calls : List Call) (s : State)
    (hcalls : ∀ call ∈ calls, Sendable call.request) :
    (∀ step ∈ exchangeAll env calls s, step.Framed env) ∧
    (∀ c, ∃ n, responsesOn c (exchangeAll env calls s) = window (env.peer c) (s.view.offset c) n) ∧
    (exchangeAll env calls s).Pairwise (fun a b => a.result ≠ .ok () → a.after.connection < b.before.view.connection) ∧
    ((∀ step ∈ exchangeAll env calls s, ¬step.Interrupted) →
      (exchangeAll env calls s).map Step.outcome = idealAll env.peer calls s.view) ∧
    (env.Smooth → ∀ step ∈ exchangeAll env calls s, ¬step.Interrupted) := by
  refine ⟨?_, ?_, exchangeAll_pairwise env calls s hcalls, exchangeAll_ideal env calls s hcalls, ?_⟩
  · exact forall_mem_exchangeAll env (fun s _ h => perform_framed env s h) calls s hcalls
  · intro c
    exact responsesOn_exchangeAll env c calls s hcalls
  · intro hsmooth
    exact forall_mem_exchangeAll env (fun s _ h => not_interrupted_of_smooth hsmooth s h) calls s hcalls

/-- A peer that sends a message of one byte over and over, through a transport that delivers three bytes at a time and
fails once, in the second header. -/
def failingEnvironment : Environment where
  peer _ i := [0x42, 0x00, 0x7B, 0x01, 0x00, 0x00, 0x00, 0x01, 0xFF].getD (i % 9) 0
  schedule n := if n = 10 then .fails 0 else .chunk 2

/-- The third exchange gets a whole message, on a new connection. -/
theorem exchangeAll_framed_failing :
    responsesOn 2 (exchangeAll failingEnvironment (List.replicate 3 ⟨[1, 2, 3, 4], 100⟩) {}) =
        [0x42, 0x00, 0x7B, 0x01, 0x00, 0x00, 0x00, 0x01, 0xFF] ∧
      ∃ n, responsesOn 2 (exchangeAll failingEnvironment (List.replicate 3 ⟨[1, 2, 3, 4], 100⟩) {}) =
        window (failingEnvironment.peer 2) 0 n := by
  refine ⟨by decide +kernel, (exchangeAll_framed failingEnvironment _ {} ?_).2.1 2⟩
  intro call hmem
  cases List.eq_of_mem_replicate hmem
  exact ⟨by decide, by decide⟩

end Kmip.Client.IOUtils
