import Kmip.Client.ExchangeTransports
import Kmip.Client.NetClientSafety
import Kmip.Lib.Prophecy

/-!
# `IOUtils` over `NetClientOpenSSL`

The results about exchanges are for the transports of `Kmip.Client.IOUtils`, whose behaviour is fixed in advance by an
environment. `NetClientOpenSSL` is one of them: for every run of `IOUtils` over it there is an environment under which
the run over the model ends in the same way, with the same messages and the same exceptions (`exchanges_realized`). The
connections of the environment are the BIOs of the transport in their order, with what the server sends on them, and
after every exchange the same bytes have been sent and received. So what holds of exchanges for every environment holds
over OpenSSL.
-/

namespace Kmip.Client.IOUtils

open Hoare

/-! ## One exchange after the other -/

section Attempts

variable {σ : Type}

/-- How an exchange has ended, for a caller that goes on after an exception. -/
def attempt (exchange : EStateM Abort σ (List UInt8)) : EStateM Abort σ (Except Abort (List UInt8)) :=
  tryCatch
    (do
      let response ← exchange
      pure (.ok response))
    fun e =>
      match e with
      | .diverged => throw .diverged
      | .thrown e => pure (.error (.thrown e))

/-- How the exchanges have ended, and the transport after each of them. -/
def attemptAll (exchange : Call → EStateM Abort σ (List UInt8)) :
    List Call → EStateM Abort σ (List (Except Abort (List UInt8) × σ))
  | [] => pure []
  | call :: calls => do
    let received ← attempt (exchange call)
    let s ← get
    let others ← attemptAll exchange calls
    pure ((received, s) :: others)

/-- What a caller gets from an exchange. -/
def Step.received (step : Step) : Except Abort (List UInt8) := step.result.map fun _ => step.after.responseBytes

/-- The response that `do_exchange` has stored. -/
def stored (env : Environment) (call : Call) : Exchange (List UInt8) := do
  doExchange env call.request call.maxMessageSize
  let s ← get
  pure s.responseBytes

/-- A response is stored and returned. -/
def store (response : List UInt8) : Exchange (List UInt8) := do
  modify fun s => { s with responseBytes := response }
  pure response

theorem get_of_deliver {m : Exchange Unit} {m' : Exchange (List UInt8)} {s : State} (h : m s = deliver (m' s)) :
    (m >>= fun _ => get >>= fun s => pure s.responseBytes : Exchange (List UInt8)) s = (m' >>= store) s := by
  cases hrun : m' s with
  | ok response s' =>
    rw [hrun] at h
    rw [bind_ok h, bind_ok hrun]
    rfl
  | error e s' =>
    rw [hrun] at h
    exact (bind_error h).trans (bind_error hrun).symm

theorem stored_apply (env : Environment) (call : Call) (s : State) :
    stored env call s = (env.transport.exchange call.request call.maxMessageSize >>= store) s :=
  get_of_deliver (doExchange_eq env call.request call.maxMessageSize s)

theorem attempt_eq_ok {exchange : EStateM Abort σ (List UInt8)} {s s' : σ} {received : Except Abort (List UInt8)}
    (h : attempt exchange s = .ok received s') :
    (∃ response, exchange s = .ok response s' ∧ received = .ok response) ∨
      ∃ e, exchange s = .error e s' ∧ received = .error e := by
  unfold attempt at h
  rw [tryCatch_apply, bind_apply] at h
  cases hrun : exchange s with
  | ok response s₁ =>
    rw [hrun] at h
    cases h
    exact .inl ⟨response, rfl, rfl⟩
  | error e s₁ =>
    rw [hrun] at h
    cases e with
    | diverged => cases h
    | thrown e =>
      cases h
      exact .inr ⟨_, rfl, rfl⟩

theorem attemptAll_cons {exchange : Call → EStateM Abort σ (List UInt8)} {call : Call} {s s' : σ}
    {received : Except Abort (List UInt8)} (h : attempt (exchange call) s = .ok received s') (calls : List Call) :
    attemptAll exchange (call :: calls) s =
      (attemptAll exchange calls >>= fun others => pure ((received, s') :: others)) s' :=
  (bind_ok h).trans (bind_ok rfl)

/-- Only a run that waits for ever does not come back. -/
theorem attempt_eq_error {exchange : EStateM Abort σ (List UInt8)} {s s' : σ} {e : Abort}
    (h : attempt exchange s = .error e s') : e = .diverged := by
  unfold attempt at h
  rw [tryCatch_apply] at h
  split at h
  · cases h
  · split at h <;> cases h
    rfl

theorem attemptAll_eq_error {exchange : Call → EStateM Abort σ (List UInt8)} {calls : List Call} {s s' : σ} {e : Abort}
    (h : attemptAll exchange calls s = .error e s') : e = .diverged := by
  induction calls generalizing s with
  | nil => cases h
  | cons call calls ih =>
    rcases bind_eq_error h with hfirst | ⟨_, s₁, -, h⟩
    · exact attempt_eq_error hfirst
    · rcases bind_eq_error h with hget | ⟨_, s₂, -, h⟩
      · cases hget
      · rcases bind_eq_error h with hothers | ⟨_, _, -, h⟩
        · exact ih hothers
        · cases h

theorem attempt_stored {env : Environment} {call : Call} {s s' : State} {received : Except Abort (List UInt8)}
    (h : attempt (stored env call) s = .ok received s') :
    received = (perform env s call).received ∧ s' = (perform env s call).after := by
  rcases attempt_eq_ok h with ⟨response, hstored, rfl⟩ | ⟨e, hstored, rfl⟩
  · obtain ⟨_, s₁, hrun, hget⟩ := bind_eq_ok hstored
    cases hget
    unfold perform
    rw [hrun]
    exact ⟨rfl, rfl⟩
  · rcases bind_eq_error hstored with hrun | ⟨_, s₁, -, hget⟩
    · unfold perform
      rw [hrun]
      exact ⟨rfl, rfl⟩
    · cases hget

end Attempts

/-! ## Choosing an environment -/

/-- A run has seen the outcomes of its operations, and the streams of the connections so far. -/
def horizon : Horizon Environment State where
  Agree s env env' := (∀ n, n < s.operations → env'.schedule n = env.schedule n) ∧
    ∀ c, c ≤ s.connection → env'.peer c = env.peer c
  agree_refl _ _ := ⟨fun _ _ => rfl, fun _ _ => rfl⟩
  agree_trans h h' := ⟨fun n hn => (h'.1 n hn).trans (h.1 n hn), fun c hc => (h'.2 c hc).trans (h.2 c hc)⟩
  Le s s' := s.operations ≤ s'.operations ∧ s.connection ≤ s'.connection
  le_refl _ := ⟨Nat.le_refl _, Nat.le_refl _⟩
  le_trans h h' := ⟨h.1.trans h'.1, h.2.trans h'.2⟩
  agree_mono hle h := ⟨fun n hn => h.1 n (hn.trans_le hle.1), fun c hc => h.2 c (hc.trans hle.2)⟩

/-- The next operation ends as chosen, and the next connection has the chosen stream. -/
def Environment.choose (env : Environment) (s : State) (outcome : Outcome) (stream : Nat → UInt8) : Environment where
  schedule := Function.update env.schedule s.operations outcome
  peer := Function.update env.peer (s.connection + 1) stream

theorem agree_choose (env : Environment) (s : State) (outcome : Outcome) (stream : Nat → UInt8) :
    horizon.Agree s env (env.choose s outcome stream) :=
  ⟨fun n hn => Function.update_of_ne (by omega) _ _, fun c hc => Function.update_of_ne (by omega) _ _⟩

end Kmip.Client.IOUtils

namespace Kmip.Client.NetClient

open Hoare
open IOUtils (horizon)

/-! ## Data over a BIO -/

section Data

variable (env : Environment) (config : Config)

/-- `NetClientOpenSSL` as a transport. -/
def transport : IOUtils.Transport Net := ⟨send env config, recv env config, close⟩

/-- The transport is connected after the connections `past`, and the BIO of the connection is `x`. -/
structure Current (past : List (Nat × SslBio)) (b : Nat) (x : SslBio) (s : State) : Prop
    extends Open env config b s where
  bios : s.bios b = some x
  past_eq : s.past = past

/-- The result of a call that has moved `n` bytes. -/
def Moved (ret : Int) (n : Nat) : Prop := 0 < n ∧ ret = n ∨ n = 0 ∧ ret ≤ 0

variable {env config} {past : List (Nat × SslBio)} {b : Nat} {x : SslBio} {E : Abort → State → Prop}

theorem Current.opened_eq {s : State} (h : Current env config past b x s) : s.opened = past ++ [(b, x)] := by
  unfold State.opened
  rw [h.past_eq, State.current_of_bio h.bio h.bios]
  rfl

theorem stable_current : Stable (Current env config past b x) := by
  constructor
  · exact fun s n h => ⟨stable_open.tick s n h.toOpen, h.bios, h.past_eq⟩
  · exact fun s ps h => ⟨stable_open.polls s ps h.toOpen, h.bios, h.past_eq⟩
  · exact fun s n h => ⟨stable_open.handshakes s n h.toOpen, h.bios, h.past_eq⟩

theorem currentBio_current :
    Triple (Current env config past b x) currentBio (fun b' s => b' = b ∧ Current env config past b x s) E := by
  constructor
  intro s hs
  have hopen := (currentBio_triple (E := E)).run s ⟨hs.safe, hs.isConnected⟩
  rw [currentBio_apply hs.bio hs.bios] at hopen ⊢
  exact ⟨rfl, hopen, hs.bios, hs.past_eq⟩

theorem bioCall_current {f : Nat → SslBio → SslBio}
    (hf : ∀ n options x, Secure env config options x → Secure env config options (f n x)) :
    Triple (Current env config past b x) (bioCall env b f)
      (fun ret s => ∃ n, ret = env.reply n ∧ Current env config past b (f n x) s) E := by
  constructor
  intro s hs
  have hopen := (bioCall_open (E := E) hf).run s hs.toOpen
  rw [bioCall_apply hs.bios] at hopen ⊢
  exact ⟨s.calls, rfl, hopen, Function.update_self .., hs.past_eq⟩

/-- The answer to `BIO_should_retry` changes nothing. -/
theorem bioAsk_current : Triple (Current env config past b x) (bioCall env b fun _ x => x)
    (fun _ => Current env config past b x) E :=
  (bioCall_current fun _ _ _ h => h).conseq (fun _ h => h) (fun _ _ ⟨_, _, h⟩ => h) fun _ _ h => h

theorem bioGet_current :
    Triple (Current env config past b x) (bioGet b) (fun y s => y = x ∧ Current env config past b x s) E := by
  constructor
  intro s hs
  rw [bioGet_apply hs.bios]
  exact ⟨rfl, hs⟩

/-- Only a call that has moved nothing times out. -/
theorem checkTimeout_current (ret : Int) (op : String) :
    Triple (Current env config past b x) (checkTimeout env config b ret op) (fun _ => Current env config past b x)
      (fun e s => IoFailure e ∧ ret ≤ 0 ∧ Current env config past b x s) := by
  unfold checkTimeout
  refine triple_ite (fun _ => triple_pure fun _ h => h) fun hret => triple_bind bioAsk_current fun _ => ?_
  refine triple_ite (fun _ => triple_pure fun _ h => h) fun _ => triple_bind (lastSocketError_triple stable_current)
    fun _ => orThrow_triple (fun _ _ he h => ⟨he, Int.not_lt.1 hret, h⟩) (fun _ _ h => h) _

theorem toNat_staticCastInt_le (size : Nat) : (IOUtils.staticCastInt size).toNat ≤ size := by
  unfold IOUtils.staticCastInt
  have hle : (size : Int).bmod (2 ^ 32) ≤ size % (2 ^ 32 : Nat) := by
    rw [Int.bmod_def]
    split <;> omega
  omega

theorem moved_le (ret : Int) (size : Nat) : moved ret (IOUtils.staticCastInt size).toNat ≤ size :=
  (Nat.min_le_right ..).trans (toNat_staticCastInt_le size)

/-- The result is the number of bytes, or it is not positive. -/
theorem moved_spec (ret : Int) (size : Nat) :
    Moved (if 0 < ret then (moved ret size : Int) else ret) (moved ret size) := by
  unfold Moved moved
  split <;> omega

theorem write_current (data : List UInt8) :
    Triple (Current env config past b x) (write env config data)
      (fun ret s => ∃ n, n ≤ data.length ∧ Moved ret n ∧
        Current env config past b { x with sent := x.sent ++ data.take n } s)
      (fun e s => IoFailure e ∧ Current env config past b x s) := by
  refine triple_bind currentBio_current fun b' => triple_and fun hb => ?_
  subst hb
  refine triple_bind (bioCall_current fun _ _ _ h => ⟨h.valid, h.verified, h.blocking, h.timeouts⟩) fun ret => ?_
  refine triple_exists fun n => triple_and fun hret => ?_
  subst hret
  have hmoved := moved_spec (env.reply n) (IOUtils.staticCastInt data.length).toNat
  refine triple_bind ((checkTimeout_current _ _).conseq (fun _ h => h) (fun _ _ h => h) ?_) fun _ => triple_pure ?_
  · rintro e s ⟨he, hret, hs⟩
    refine ⟨he, ?_⟩
    rcases hmoved with ⟨hpos, heq⟩ | ⟨hzero, -⟩
    · omega
    · rwa [hzero, List.take_zero, List.append_nil] at hs
  · exact fun s hs => ⟨_, moved_le _ _, hmoved, hs⟩

theorem read_current (size : Nat) :
    Triple (Current env config past b x) (read env config size)
      (fun r s => ∃ n, n ≤ size ∧ Moved r.1 n ∧ r.2 = window (env.incoming b) x.received n ∧
        Current env config past b { x with received := x.received + n } s)
      (fun e s => IoFailure e ∧ Current env config past b x s) := by
  refine triple_bind currentBio_current fun b' => triple_and fun hb => ?_
  subst hb
  refine triple_bind bioGet_current fun y => triple_and fun hy => ?_
  subst hy
  refine triple_bind (bioCall_current fun _ _ _ h => ⟨h.valid, h.verified, h.blocking, h.timeouts⟩) fun ret => ?_
  refine triple_exists fun n => triple_and fun hret => ?_
  subst hret
  have hmoved := moved_spec (env.reply n) (IOUtils.staticCastInt size).toNat
  refine triple_bind ((checkTimeout_current _ _).conseq (fun _ h => h) (fun _ _ h => h) ?_) fun _ => triple_pure ?_
  · rintro e s ⟨he, hret, hs⟩
    refine ⟨he, ?_⟩
    rcases hmoved with ⟨hpos, heq⟩ | ⟨hzero, -⟩
    · omega
    · rwa [hzero, Nat.add_zero] at hs
  · exact fun s hs => ⟨_, moved_le _ _, hmoved, rfl, hs⟩

end Data

/-! ## The transport and its model -/

section Tracking

variable (env : Environment) (config : Config)

/-- The model is where the transport is: its connections are the BIOs in their order, with what the server sends on
them, and the same bytes have gone over the last of them. -/
structure Mirrors (env' : IOUtils.Environment) (s : State) (t : IOUtils.State) : Prop where
  connected : t.connected = s.isConnected
  connection : t.connection = s.opened.length
  peers : ∀ i y, s.opened[i]? = some y → env'.peer (i + 1) = env.incoming y.1
  last : ∀ y, s.opened.getLast? = some y → t.sent = y.2.sent ∧ t.position = y.2.received

structure Tracks (env' : IOUtils.Environment) (s : State) (t : IOUtils.State) : Prop extends Mirrors env env' s t where
  safe : Safe env config s

def TracksOpen (env' : IOUtils.Environment) (s : State) (t : IOUtils.State) : Prop :=
  Tracks env config env' s t ∧ s.isConnected = true

def TracksClosed (env' : IOUtils.Environment) (s : State) (t : IOUtils.State) : Prop :=
  Tracks env config env' s t ∧ s.isConnected = false

/-- The model is on a connection with the stream of the BIO, after the same data. -/
structure Follows (past : List (Nat × SslBio)) (b : Nat) (x : SslBio) (env' : IOUtils.Environment) (s : State)
    (t : IOUtils.State) : Prop where
  current : Current env config past b x s
  connected : t.connected = true
  connection : t.connection = past.length + 1
  position : t.position = x.received
  sent : t.sent = x.sent
  pasts : ∀ i y, past[i]? = some y → env'.peer (i + 1) = env.incoming y.1
  peer : env'.peer t.connection = env.incoming b

variable {env config} {env₁ env₂ : IOUtils.Environment} {s : State} {t : IOUtils.State}

theorem Mirrors.agree (hagree : horizon.Agree t env₁ env₂) (h : Mirrors env env₁ s t) : Mirrors env env₂ s t where
  connected := h.connected
  connection := h.connection
  peers i y hy := by
    have hlt := (List.getElem?_eq_some_iff.1 hy).1
    exact (hagree.2 _ (by rw [h.connection]; exact hlt)).trans (h.peers i y hy)
  last := h.last

theorem Tracks.agree (env₁ env₂ : IOUtils.Environment) (s : State) (t : IOUtils.State)
    (hagree : horizon.Agree t env₁ env₂) (h : Tracks env config env₁ s t) : Tracks env config env₂ s t :=
  ⟨h.toMirrors.agree hagree, h.safe⟩

theorem TracksOpen.agree (env₁ env₂ : IOUtils.Environment) (s : State) (t : IOUtils.State)
    (hagree : horizon.Agree t env₁ env₂) (h : TracksOpen env config env₁ s t) : TracksOpen env config env₂ s t :=
  ⟨h.1.agree env₁ env₂ s t hagree, h.2⟩

/-- A model that tracks an open transport is on its connection. -/
theorem TracksOpen.follows (h : TracksOpen env config env₁ s t) :
    ∃ past b x, Follows env config past b x env₁ s t := by
  obtain ⟨htracks, hopen⟩ := h
  obtain ⟨⟨b, x, hb, hx, -⟩, -⟩ := htracks.safe.connected hopen
  have hcurrent : Current env config s.past b x s := ⟨⟨htracks.safe, hopen, hb⟩, hx, rfl⟩
  have hopened := hcurrent.opened_eq
  obtain ⟨hsent, hposition⟩ := htracks.last (b, x) (by rw [hopened, List.getLast?_concat])
  have hconnection : t.connection = s.past.length + 1 := by
    rw [htracks.connection, hopened, List.length_append]
    rfl
  refine ⟨s.past, b, x, hcurrent, htracks.connected.trans hopen, hconnection, hposition, hsent, fun i y hy => ?_, ?_⟩
  · refine htracks.peers i y ?_
    rw [hopened, List.getElem?_append_left (List.getElem?_eq_some_iff.1 hy).1]
    exact hy
  · rw [hconnection]
    refine htracks.peers s.past.length (b, x) ?_
    rw [hopened, List.getElem?_concat_length]

theorem Follows.tracksOpen {past : List (Nat × SslBio)} {b : Nat} {x : SslBio}
    (h : Follows env config past b x env₁ s t) : TracksOpen env config env₁ s t := by
  have hopened := h.current.opened_eq
  refine ⟨⟨⟨h.connected.trans h.current.isConnected.symm, ?_, fun i y hy => ?_, fun y hy => ?_⟩, h.current.safe⟩,
    h.current.isConnected⟩
  · rw [hopened, List.length_append]
    exact h.connection
  · rw [hopened] at hy
    rcases Nat.lt_or_ge i past.length with hlt | hle
    · rw [List.getElem?_append_left hlt] at hy
      exact h.pasts i y hy
    · obtain ⟨hi, -⟩ := List.getElem?_eq_some_iff.1 hy
      rw [List.length_append] at hi
      obtain rfl : i = past.length := Nat.le_antisymm (Nat.lt_succ_iff.1 hi) hle
      rw [List.getElem?_concat_length] at hy
      cases hy
      rw [← h.connection]
      exact h.peer
  · rw [hopened, List.getLast?_concat] at hy
    cases hy
    exact ⟨h.sent, h.position⟩

end Tracking

section Realization

variable {env : Environment} {config : Config}

/-- What the next operation of the model does under the environments with the chosen outcome and stream. -/
structure Answered {α : Type} (Q : α → IOUtils.Environment → State → IOUtils.State → Prop)
    (E : IOUtils.Environment → State → IOUtils.State → Prop) (x : EStateM.Result Abort State α)
    (next : IOUtils.Environment → IOUtils.Outcome → IOUtils.Exchange α) (env₀ : IOUtils.Environment)
    (t : IOUtils.State) (outcome : IOUtils.Outcome) (stream : Nat → UInt8)
    (r : EStateM.Result Abort IOUtils.State α) : Prop where
  later : horizon.Le { t with operations := t.operations + 1 } (finalState r)
  run : ∀ env₁, horizon.Agree t env₀ env₁ →
    (t.connection < (finalState r).connection → env₁.peer (t.connection + 1) = stream) →
    next env₁ outcome { t with operations := t.operations + 1 } = r ∧ Matches Q E env₁ x r

/-- The outcome of an operation and the stream of a new connection are chosen when they are first looked at. -/
theorem realizes_operate {α : Type} {P : IOUtils.Environment → State → IOUtils.State → Prop} {m : Net α}
    {next : IOUtils.Environment → IOUtils.Outcome → IOUtils.Exchange α}
    {Q : α → IOUtils.Environment → State → IOUtils.State → Prop}
    {E : IOUtils.Environment → State → IOUtils.State → Prop}
    (h : ∀ env₀ s t, P env₀ s t → (∃ e s', m s = .error e s' ∧ e = .diverged) ∨
      ∃ outcome stream r, Answered Q E (m s) next env₀ t outcome stream r) :
    Realizes horizon (· = .diverged) P m (fun env' => IOUtils.operate env' >>= next env') Q E := by
  constructor
  intro env₀ s t hs
  refine (h env₀ s t hs).imp_right ?_
  rintro ⟨outcome, stream, r, hlater, hrun⟩
  have hle : horizon.Le t (finalState r) := ⟨(Nat.le_succ _).trans hlater.1, hlater.2⟩
  refine ⟨env₀.choose t outcome stream, r, IOUtils.agree_choose .., hle, fun env₁ hagree => ?_⟩
  have hschedule : env₁.schedule t.operations = outcome :=
    (hagree.1 _ (Nat.lt_of_succ_le hlater.1)).trans (Function.update_self ..)
  have hoperate : IOUtils.operate env₁ t = .ok outcome { t with operations := t.operations + 1 } := by
    unfold IOUtils.operate
    rw [hschedule]
  rw [bind_ok hoperate]
  refine hrun env₁ (horizon.agree_trans (IOUtils.agree_choose ..) (horizon.agree_mono hle hagree)) fun hopened => ?_
  exact (hagree.2 _ hopened).trans (Function.update_self ..)

/-- `connect` opens the next connection or throws. -/
theorem realizes_connect :
    Realizes horizon (· = .diverged) (TracksClosed env config) (connect env config)
      (fun env' => IOUtils.connect env')
      (fun r env' s t => r = true ∧ TracksOpen env config env' s t) (Tracks env config) := by
  refine realizes_operate fun env₀ s t ⟨htracks, hclosed⟩ => ?_
  have hend := (connect_triple htracks.safe).run s rfl
  cases hrun : connect env config s with
  | ok r s' =>
    rw [hrun] at hend
    obtain ⟨rfl, hadopted⟩ := hend
    obtain ⟨b, x, hb, hx, hblank⟩ := hadopted.blank
    refine .inr ⟨.chunk 0, env.incoming b, .ok true
      { t with operations := t.operations + 1, connected := true, connection := t.connection + 1, position := 0,
               sent := [] }, ⟨Nat.le_refl _, Nat.le_succ _⟩, fun env₁ hagree hpeer => ⟨rfl, rfl, rfl, ?_⟩⟩
    have hfollows : Follows env config s.opened b x env₁ s'
        { t with operations := t.operations + 1, connected := true, connection := t.connection + 1, position := 0,
                 sent := [] } :=
      { current := ⟨⟨hadopted.safe, hadopted.isConnected, hb⟩, hx, hadopted.past⟩
        connected := rfl
        connection := congrArg (· + 1) htracks.connection
        position := hblank.2.symm
        sent := hblank.1.symm
        pasts := (htracks.toMirrors.agree hagree).peers
        peer := hpeer (Nat.lt_succ_self _) }
    exact hfollows.tracksOpen
  | error e s' =>
    rw [hrun] at hend
    obtain ⟨⟨message, rfl⟩ | rfl, hidle⟩ := hend
    · refine .inr ⟨.throws message, fun _ => 0, .error (IOUtils.failure kmipIoFailure message)
        { t with operations := t.operations + 1 }, ⟨Nat.le_refl _, Nat.le_refl _⟩, fun env₁ hagree _ =>
        ⟨rfl, rfl, ?_, hidle.safe htracks.safe⟩⟩
      have hmirrors := htracks.toMirrors.agree hagree
      obtain ⟨_, _, _, _, -, rfl⟩ := hidle
      exact ⟨hmirrors.connected, hmirrors.connection, hmirrors.peers, hmirrors.last⟩
    · exact .inl ⟨_, _, rfl, rfl⟩

theorem realizes_checkConnected :
    Realizes horizon (· = .diverged) (Tracks env config) (checkConnected env config)
      (fun env' => IOUtils.checkConnected env')
      (fun r env' s t => r = true ∧ TracksOpen env config env' s t) (Tracks env config) := by
  have hopen : Realizes horizon (· = .diverged) (TracksOpen env config) (checkConnected env config)
      (fun env' => IOUtils.checkConnected env')
      (fun r env' s t => r = true ∧ TracksOpen env config env' s t) (Tracks env config) := by
    refine Realizes.congr (realizes_pure (a := true) TracksOpen.agree fun _ _ _ h => ⟨rfl, h⟩) ?_
    exact fun env₀ s t h => ⟨if_pos h.2, fun env' => if_pos (h.1.connected.trans h.2)⟩
  have hclosed : Realizes horizon (· = .diverged) (TracksClosed env config) (checkConnected env config)
      (fun env' => IOUtils.checkConnected env')
      (fun r env' s t => r = true ∧ TracksOpen env config env' s t) (Tracks env config) := by
    refine realizes_connect.congr fun env₀ s t h => ⟨if_neg ?_, fun env' => if_neg ?_⟩
    · rw [h.2]
      exact Bool.false_ne_true
    · rw [h.1.connected, h.2]
      exact Bool.false_ne_true
  constructor
  intro env₀ s t h
  cases hconnected : s.isConnected with
  | true => exact hopen.choose env₀ s t ⟨h, hconnected⟩
  | false => exact hclosed.choose env₀ s t ⟨h, hconnected⟩

/-- The model is at the same place after an operation on the same connection. -/
theorem Follows.tracks {past : List (Nat × SslBio)} {b : Nat} {x x' : SslBio} {env₀ env₁ : IOUtils.Environment}
    {s s' : State} {t t' : IOUtils.State} (h : Follows env config past b x env₀ s t)
    (hagree : horizon.Agree t env₀ env₁) (hs' : Current env config past b x' s')
    (hconnected : t'.connected = t.connected) (hconnection : t'.connection = t.connection)
    (hposition : t'.position = x'.received) (hsent : t'.sent = x'.sent) :
    Tracks env config env₁ s' t' := by
  have hmirrors := h.tracksOpen.1.toMirrors.agree hagree
  have hpeers := hmirrors.peers
  rw [h.current.opened_eq] at hpeers
  have hfollows : Follows env config past b x' env₁ s' t' :=
    { current := hs'
      connected := hconnected.trans h.connected
      connection := hconnection.trans h.connection
      position := hposition
      sent := hsent
      pasts := fun i y hy => hpeers i y (by
        rw [List.getElem?_append_left (List.getElem?_eq_some_iff.1 hy).1]
        exact hy)
      peer := by
        rw [hconnection]
        exact (hagree.2 _ (Nat.le_refl _)).trans h.peer }
  exact hfollows.tracksOpen.1

/-- A timeout is an operation that throws. -/
theorem Follows.throws {α : Type} {past : List (Nat × SslBio)} {b : Nat} {x : SslBio} {env₀ : IOUtils.Environment}
    {s s' : State} {t : IOUtils.State} {e : Abort} {next : IOUtils.Environment → IOUtils.Outcome → IOUtils.Exchange α}
    {Q : α → IOUtils.Environment → State → IOUtils.State → Prop} (h : Follows env config past b x env₀ s t)
    (he : IoFailure e) (hs' : Current env config past b x s')
    (hnext : ∀ env₁ message, next env₁ (.throws message) = throw (IOUtils.failure kmipIoFailure message)) :
    (∃ e' s'', (.error e s' : EStateM.Result Abort State α) = .error e' s'' ∧ e' = .diverged) ∨
      ∃ outcome stream r, Answered Q (Tracks env config) (.error e s') next env₀ t outcome stream r := by
  rcases he with ⟨message, rfl⟩ | rfl
  · refine .inr ⟨.throws message, fun _ => 0, .error (IOUtils.failure kmipIoFailure message)
      { t with operations := t.operations + 1 }, ⟨Nat.le_refl _, Nat.le_refl _⟩, fun env₁ hagree _ => ⟨?_, rfl, ?_⟩⟩
    · rw [hnext]
      rfl
    · exact h.tracks hagree hs' rfl rfl h.position h.sent
  · exact .inl ⟨_, _, rfl, rfl⟩

/-- `BIO_write` moves a chunk, fails or times out. -/
theorem realizes_send (data : List UInt8) :
    Realizes horizon (· = .diverged) (Tracks env config) (send env config data) (fun env' => IOUtils.netSend env' data)
      (fun _ => Tracks env config) (Tracks env config) := by
  refine realizes_bind realizes_checkConnected fun r => ?_
  cases r with
  | false => exact ⟨fun _ _ _ h => by cases h.1⟩
  | true =>
    refine realizes_operate fun env₀ s t ⟨_, hopen⟩ => ?_
    obtain ⟨past, b, x, h⟩ := hopen.follows
    have hend := (write_current data).run s h.current
    simp only [if_true]
    cases hrun : write env config data s with
    | ok ret s' =>
      rw [hrun] at hend
      obtain ⟨n, hn, ⟨hpos, rfl⟩ | ⟨rfl, hret⟩, hs'⟩ := hend
      · have hchunk : min (n - 1 + 1) data.length = n := by omega
        refine .inr ⟨.chunk (n - 1), fun _ => 0, .ok n
          { t with operations := t.operations + 1, sent := t.sent ++ data.take n },
          ⟨Nat.le_refl _, Nat.le_refl _⟩, fun env₁ hagree _ => ⟨?_, rfl, ?_⟩⟩
        · show EStateM.Result.ok ((min (n - 1 + 1) data.length : Nat) : Int)
            { t with operations := t.operations + 1, sent := t.sent ++ data.take (min (n - 1 + 1) data.length) } = _
          rw [hchunk]
        · exact h.tracks hagree hs' rfl rfl h.position (congrArg (· ++ data.take n) h.sent)
      · have hfails : -((-ret).toNat : Int) = ret := by omega
        refine .inr ⟨.fails (-ret).toNat, fun _ => 0, .ok ret { t with operations := t.operations + 1 },
          ⟨Nat.le_refl _, Nat.le_refl _⟩, fun env₁ hagree _ => ⟨congrArg (EStateM.Result.ok · _) hfails, rfl, ?_⟩⟩
        exact h.tracks hagree hs' rfl rfl h.position (h.sent.trans (List.append_nil _).symm)
    | error e s' =>
      rw [hrun] at hend
      exact h.throws hend.1 hend.2 fun _ _ => rfl

/-- `BIO_read` moves the next bytes of the stream, fails or times out. -/
theorem realizes_recv (size : Nat) :
    Realizes horizon (· = .diverged) (Tracks env config) (recv env config size) (fun env' => IOUtils.netRecv env' size)
      (fun _ => Tracks env config) (Tracks env config) := by
  refine realizes_bind realizes_checkConnected fun r => ?_
  cases r with
  | false => exact ⟨fun _ _ _ h => by cases h.1⟩
  | true =>
    refine realizes_operate fun env₀ s t ⟨_, hopen⟩ => ?_
    obtain ⟨past, b, x, h⟩ := hopen.follows
    have hend := (read_current size).run s h.current
    simp only [if_true]
    cases hrun : read env config size s with
    | ok r s' =>
      obtain ⟨ret, bytes⟩ := r
      rw [hrun] at hend
      obtain ⟨n, hn, ⟨hpos, hret⟩ | ⟨rfl, hret⟩, hbytes, hs'⟩ := hend
      · have hchunk : min (n - 1 + 1) size = n := by omega
        dsimp only at hret hbytes
        subst hret hbytes
        refine .inr ⟨.chunk (n - 1), fun _ => 0, .ok (n, window (env.incoming b) x.received n)
          { t with operations := t.operations + 1, position := t.position + n },
          ⟨Nat.le_refl _, Nat.le_refl _⟩, fun env₁ hagree _ => ⟨?_, rfl, ?_⟩⟩
        · show EStateM.Result.ok (((min (n - 1 + 1) size : Nat) : Int),
            window (env₁.peer t.connection) t.position (min (n - 1 + 1) size))
            { t with operations := t.operations + 1, position := t.position + min (n - 1 + 1) size } = _
          rw [hchunk, (hagree.2 _ (Nat.le_refl _)).trans h.peer, h.position]
        · exact h.tracks hagree hs' rfl rfl (congrArg (· + n) h.position) h.sent
      · have hfails : -((-ret).toNat : Int) = ret := by
          dsimp only at hret
          omega
        refine .inr ⟨.fails (-ret).toNat, fun _ => 0, .ok (ret, bytes) { t with operations := t.operations + 1 },
          ⟨Nat.le_refl _, Nat.le_refl _⟩, fun env₁ hagree _ => ⟨?_, rfl, h.tracks hagree hs' rfl rfl h.position h.sent⟩⟩
        show EStateM.Result.ok (-((-ret).toNat : Int), []) _ = _
        rw [hfails]
        exact congrArg (fun bytes => EStateM.Result.ok (ret, bytes) _) hbytes.symm
    | error e s' =>
      rw [hrun] at hend
      exact h.throws hend.1 hend.2 fun _ _ => rfl

theorem realizes_close :
    Realizes horizon (· = .diverged) (Tracks env config) close (fun _ => IOUtils.close)
      (fun _ => Tracks env config) (Tracks env config) := by
  constructor
  intro env₀ s t h
  obtain ⟨s', hrun, hsafe, hclosed, hopened, -⟩ := close_safe h.safe
  rw [hrun]
  refine .inr ⟨env₀, .ok () { t with connected := false }, horizon.agree_refl t env₀, horizon.le_refl t,
    fun env₁ (hagree : horizon.Agree t env₀ env₁) => ⟨rfl, rfl, ⟨hclosed.symm, ?_, ?_, ?_⟩, hsafe⟩⟩
  all_goals rw [hopened]
  · exact h.connection
  · exact (h.toMirrors.agree hagree).peers
  · exact h.last

end Realization

/-! ## Exchanges -/

section Exchanges

variable {env : Environment} {config : Config}

theorem realizes_sendLoop (request : List UInt8) (dlen fuel totalSent : Nat) :
    Realizes horizon (· = .diverged) (Tracks env config)
      ((transport env config).sendLoop request dlen fuel totalSent)
      (fun env' => env'.transport.sendLoop request dlen fuel totalSent)
      (fun _ => Tracks env config) (Tracks env config) := by
  induction fuel generalizing totalSent with
  | zero =>
    exact realizes_ite (fun _ => realizes_throw Tracks.agree fun _ _ _ h => h)
      fun _ => realizes_pure Tracks.agree fun _ _ _ h => h
  | succ fuel ih =>
    refine realizes_ite (fun _ => ?_) fun _ => realizes_pure Tracks.agree fun _ _ _ h => h
    refine realizes_bind (realizes_send _) fun sent => ?_
    exact realizes_ite (fun _ => realizes_throw Tracks.agree fun _ _ _ h => h) fun _ => ih _

theorem realizes_readLoop (n fuel : Nat) (buf : List UInt8) :
    Realizes horizon (· = .diverged) (Tracks env config) ((transport env config).readLoop n fuel buf)
      (fun env' => env'.transport.readLoop n fuel buf) (fun _ => Tracks env config) (Tracks env config) := by
  induction fuel generalizing buf with
  | zero =>
    exact realizes_ite (fun _ => realizes_throw Tracks.agree fun _ _ _ h => h)
      fun _ => realizes_pure Tracks.agree fun _ _ _ h => h
  | succ fuel ih =>
    refine realizes_ite (fun _ => ?_) fun _ => realizes_pure Tracks.agree fun _ _ _ h => h
    refine realizes_bind (realizes_recv _) fun r => ?_
    exact realizes_ite (fun _ => realizes_throw Tracks.agree fun _ _ _ h => h) fun _ => ih _

theorem realizes_sendAll (request : List UInt8) :
    Realizes horizon (· = .diverged) (Tracks env config) ((transport env config).sendAll request)
      (fun env' => env'.transport.sendAll request) (fun _ => Tracks env config) (Tracks env config) :=
  realizes_ite (fun _ => realizes_throw Tracks.agree fun _ _ _ h => h) fun _ => realizes_sendLoop ..

theorem realizes_receiveMessage (maxMessageSize : Nat) :
    Realizes horizon (· = .diverged) (Tracks env config) ((transport env config).receiveMessage maxMessageSize)
      (fun env' => env'.transport.receiveMessage maxMessageSize) (fun _ => Tracks env config) (Tracks env config) := by
  refine realizes_bind (realizes_readLoop ..) fun header => realizes_ite
    (fun _ => realizes_throw Tracks.agree fun _ _ _ h => h) fun _ => ?_
  exact realizes_bind (realizes_readLoop ..) fun rest => realizes_pure Tracks.agree fun _ _ _ h => h

theorem realizes_closeAndRethrow (e : Abort) :
    Realizes horizon (· = .diverged) (Tracks env config)
      ((transport env config).closeAndRethrow e : Net (List UInt8)) (fun env' => env'.transport.closeAndRethrow e)
      (fun _ => Tracks env config) (Tracks env config) := by
  have hthrow {e : Abort} : Realizes horizon (· = .diverged) (Tracks env config) (throw e : Net (List UInt8))
      (fun _ => throw e) (fun _ => Tracks env config) (Tracks env config) :=
    realizes_throw Tracks.agree fun _ _ _ h => h
  cases e with
  | diverged => exact hthrow
  | thrown e =>
    obtain ⟨kind, code, message⟩ := e
    cases kind with
    | kmipException => exact hthrow
    | kmipIOException => exact realizes_bind realizes_close fun _ => hthrow

theorem realizes_exchange (request : List UInt8) (maxMessageSize : Nat) :
    Realizes horizon (· = .diverged) (Tracks env config) ((transport env config).exchange request maxMessageSize)
      (fun env' => env'.transport.exchange request maxMessageSize) (fun _ => Tracks env config)
      (Tracks env config) := by
  refine realizes_tryCatch (realizes_bind (realizes_sendAll request) fun _ => realizes_receiveMessage maxMessageSize) ?_
    realizes_closeAndRethrow
  rintro _ s rfl
  exact ⟨s, rfl⟩

/-- The response is stored beside what the transport knows of. -/
theorem realizes_stored (call : IOUtils.Call) :
    Realizes horizon (· = .diverged) (Tracks env config)
      ((transport env config).exchange call.request call.maxMessageSize) (fun env' => IOUtils.stored env' call)
      (fun _ => Tracks env config) (Tracks env config) := by
  have hstore (response : List UInt8) : Realizes horizon (· = .diverged) (Tracks env config)
      (pure response : Net (List UInt8)) (fun _ => IOUtils.store response) (fun _ => Tracks env config)
      (Tracks env config) := by
    constructor
    intro env₀ s t h
    refine .inr ⟨env₀, .ok response { t with responseBytes := response }, horizon.agree_refl t env₀, horizon.le_refl t,
      fun env₁ hagree => ⟨rfl, rfl, ?_⟩⟩
    have htracks := h.agree env₀ env₁ s t hagree
    exact ⟨⟨htracks.connected, htracks.connection, htracks.peers, htracks.last⟩, htracks.safe⟩
  refine (realizes_bind (realizes_exchange call.request call.maxMessageSize) hstore).congr fun _ s t _ => ⟨?_, ?_⟩
  · rw [bind_apply]
    cases (transport env config).exchange call.request call.maxMessageSize s <;> rfl
  · exact fun env' => IOUtils.stored_apply env' call t

theorem realizes_attempt {x : Net (List UInt8)} {x' : IOUtils.Environment → IOUtils.Exchange (List UInt8)}
    (h : Realizes horizon (· = .diverged) (Tracks env config) x x' (fun _ => Tracks env config) (Tracks env config)) :
    Realizes horizon (· = .diverged) (Tracks env config) (IOUtils.attempt x) (fun env' => IOUtils.attempt (x' env'))
      (fun _ => Tracks env config) (Tracks env config) := by
  refine realizes_tryCatch (realizes_bind h fun _ => realizes_pure Tracks.agree fun _ _ _ h => h) ?_ fun e => ?_
  · rintro _ s rfl
    exact ⟨s, rfl⟩
  · cases e with
    | diverged => exact realizes_throw Tracks.agree fun _ _ _ h => h
    | thrown e => exact realizes_pure Tracks.agree fun _ _ _ h => h

/-- An exchange over the transport and one over the model have ended in the same way, at the same place. -/
structure SameEnd (env : Environment) (env' : IOUtils.Environment) (ended : Except Abort (List UInt8) × State)
    (step : IOUtils.Step) : Prop extends Mirrors env env' ended.2 step.after where
  received : ended.1 = step.received

/-- The environment of a run is chosen exchange by exchange. -/
theorem attemptAll_realized (calls : List IOUtils.Call) {env₀ : IOUtils.Environment} {s : State} {t : IOUtils.State}
    (h : Tracks env config env₀ s t) :
    (∃ s', IOUtils.attemptAll (fun call => (transport env config).exchange call.request call.maxMessageSize) calls s =
      .error .diverged s') ∨
    ∃ ends s' env₁ t', IOUtils.attemptAll
        (fun call => (transport env config).exchange call.request call.maxMessageSize) calls s = .ok ends s' ∧
      ∀ env₂, horizon.Agree t' env₁ env₂ →
        horizon.Agree t env₀ env₂ ∧ List.Forall₂ (SameEnd env env₂) ends (IOUtils.exchangeAll env₂ calls t) := by
  induction calls generalizing env₀ s t with
  | nil => exact .inr ⟨[], s, env₀, t, rfl, fun env₂ hagree => ⟨hagree, .nil⟩⟩
  | cons call calls ih =>
    rcases (realizes_attempt (realizes_stored call)).choose env₀ s t h with
      ⟨e, s₁, hthrown, rfl⟩ | ⟨env₁, r, hagree, hr⟩
    · exact .inl ⟨s₁, bind_error hthrown⟩
    cases hfirst : IOUtils.attempt ((transport env config).exchange call.request call.maxMessageSize) s with
    | error e s₁ =>
      rw [IOUtils.attempt_eq_error hfirst] at hfirst
      exact .inl ⟨s₁, bind_error hfirst⟩
    | ok received s₁ =>
      rw [hfirst] at hr
      cases r with
      | error e t₁ => exact (hr.run env₁ (horizon.agree_refl _ env₁)).2.elim
      | ok received' t₁ =>
        obtain ⟨-, rfl, htracks⟩ := hr.run env₁ (horizon.agree_refl _ env₁)
        rcases ih htracks with ⟨s₂, hothers⟩ | ⟨others, s₂, env₂, t₂, hothers, hends⟩
        · exact .inl ⟨s₂, (IOUtils.attemptAll_cons hfirst calls).trans (bind_error hothers)⟩
        · refine .inr ⟨(received, s₁) :: others, s₂, env₂, t₂, ?_, fun env₃ hagree₃ => ?_⟩
          · exact (IOUtils.attemptAll_cons hfirst calls).trans (bind_ok hothers)
          obtain ⟨hseen, hrest⟩ := hends env₃ hagree₃
          obtain ⟨hrun, -, htracks₃⟩ := hr.run env₃ hseen
          obtain ⟨hreceived, hafter⟩ := IOUtils.attempt_stored hrun
          refine ⟨horizon.agree_trans hagree (horizon.agree_mono hr.later hseen), ?_⟩
          rw [IOUtils.exchangeAll, ← hafter]
          exact .cons ⟨hafter ▸ htracks₃.toMirrors, hreceived⟩ hrest

/-- When the exchanges over OpenSSL have ended, they have ended as in the model under some environment. -/
theorem attemptAll_model {options : TlsVerificationOptions} {calls : List IOUtils.Call} {s : State}
    {ends : List (Except Abort (List UInt8) × State)}
    (hrun : IOUtils.attemptAll (fun call => (transport env config).exchange call.request call.maxMessageSize) calls
      { tlsVerification := options } = .ok ends s) :
    ∃ env', List.Forall₂ (SameEnd env env') ends (IOUtils.exchangeAll env' calls {}) := by
  have hstart : Tracks env config ⟨fun _ _ => 0, fun _ => .fails 0⟩ { tlsVerification := options } {} :=
    ⟨⟨rfl, rfl, by rintro _ _ ⟨⟩, by rintro _ ⟨⟩⟩, safe_initial options⟩
  rcases attemptAll_realized calls hstart with ⟨s', hdiverged⟩ | ⟨ends', s', env', t, hrun', hends⟩
  · rw [hrun] at hdiverged
    cases hdiverged
  · rw [hrun] at hrun'
    cases hrun'
    exact ⟨env', (hends env' (horizon.agree_refl t env')).2⟩

/-- **The exchanges over OpenSSL are exchanges over the model.** Unless one of them waits for ever, there is an
environment under which the callers get the same responses and the same exceptions. Its connections are the BIOs of the
transport in their order, with what the server sends on them, and after every exchange the same bytes were sent and
received. -/
theorem exchanges_realized (env : Environment) (config : Config) (options : TlsVerificationOptions)
    (calls : List IOUtils.Call) :
    (∃ s, IOUtils.attemptAll (fun call => (transport env config).exchange call.request call.maxMessageSize) calls
      { tlsVerification := options } = .error .diverged s) ∨
    ∃ env' ends s, IOUtils.attemptAll
        (fun call => (transport env config).exchange call.request call.maxMessageSize) calls
        { tlsVerification := options } = .ok ends s ∧
      List.Forall₂ (SameEnd env env') ends (IOUtils.exchangeAll env' calls {}) := by
  cases hrun : IOUtils.attemptAll (fun call => (transport env config).exchange call.request call.maxMessageSize) calls
      { tlsVerification := options } with
  | error e s =>
    rw [IOUtils.attemptAll_eq_error hrun]
    exact .inl ⟨s, rfl⟩
  | ok ends s =>
    obtain ⟨env', hends⟩ := attemptAll_model hrun
    exact .inr ⟨env', ends, s, rfl, hends⟩

end Exchanges

end Kmip.Client.NetClient
