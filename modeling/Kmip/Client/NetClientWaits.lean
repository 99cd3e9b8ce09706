import Kmip.Client.NetClientExchanges
import Kmip.Lib.Settling

/-!
# How long `NetClientOpenSSL` waits

`connect` waits in one place only, in the calls of `poll` between two attempts of a handshake. The first call of a wait
has a finite timeout that fits in what is left of the time; after an interrupt the call is repeated as it was, and the
deadline is not looked at, so that a wait that is always interrupted does not end (`polls_bounded`). When the clock goes
on and `poll` is not interrupted for ever, `connect` ends (`connect_settles`), and so do exchanges (`exchanges_return`),
provided that the calls of OpenSSL and of the socket return.

Most parts of the transport do not wait at all (`Calm`): they make their calls and are done.
-/

namespace Kmip.Client.NetClient

open Hoare

/-! ## Parts that do not wait -/

section Calm

variable {α β : Type}

/-- At least `n` calls were made, and these calls of `poll`. -/
def Since (n : Nat) (ps : List Poll) (s : State) : Prop := n ≤ s.calls ∧ s.polls = ps

/-- A part that ends and does not call `poll`. -/
structure Calm (m : Net α) : Prop where
  run : ∀ n ps, Triple (Since n ps) m (fun _ => Since n ps) (fun e s => e ≠ .diverged ∧ Since n ps s)

variable {m m' : Net α} {env : Environment} {config : Config}

theorem calm_pure (a : α) : Calm (pure a : Net α) := ⟨fun _ _ => triple_pure fun _ h => h⟩

theorem Calm.bind {f : α → Net β} (hm : Calm m) (hf : ∀ a, Calm (f a)) : Calm (m >>= f) :=
  ⟨fun n ps => triple_bind (hm.run n ps) fun a => (hf a).run n ps⟩

theorem calm_ite {c : Prop} [Decidable c] (hm : c → Calm m) (hm' : ¬c → Calm m') : Calm (if c then m else m') :=
  ⟨fun n ps => triple_ite (fun hc => (hm hc).run n ps) fun hc => (hm' hc).run n ps⟩

theorem calm_modify {f : State → State} (h : ∀ s, (f s).calls = s.calls ∧ (f s).polls = s.polls) :
    Calm (modify f : Net Unit) := by
  refine ⟨fun n ps => triple_modify fun s hs => ?_⟩
  unfold Since
  rw [(h s).1, (h s).2]
  exact hs

/-- Members and objects change; then come other parts. -/
theorem calm_modify_bind {f : State → State} {next : Unit → Net α} (hnext : ∀ u, Calm (next u))
    (h : ∀ s, (f s).calls = s.calls ∧ (f s).polls = s.polls) : Calm ((modify f : Net Unit) >>= next) :=
  (calm_modify h).bind hnext

theorem calm_tick : Calm tick := ⟨fun _ _ => ⟨fun _ hs => ⟨hs.1.trans (Nat.le_succ _), hs.2⟩⟩⟩

theorem calm_throwIo (message : String) : Calm (throwIo message : Net α) :=
  ⟨fun _ _ => triple_throw fun _ hs => ⟨nofun, hs⟩⟩

theorem calm_ctxCall (c : Nat) (f : Nat → SslCtx → SslCtx) : Calm (ctxCall env c f) := by
  refine calm_tick.bind fun n => (calm_modify fun s => ?_).bind fun _ => calm_pure _
  split <;> exact ⟨rfl, rfl⟩

theorem calm_bioCall (b : Nat) (f : Nat → SslBio → SslBio) : Calm (bioCall env b f) := by
  refine calm_tick.bind fun n => (calm_modify fun s => ?_).bind fun _ => calm_pure _
  split <;> exact ⟨rfl, rfl⟩

theorem calm_bioGet (b : Nat) : Calm (bioGet b) := by
  refine ⟨fun n ps => ⟨fun s hs => ?_⟩⟩
  unfold bioGet
  split <;> exact hs

theorem calm_sslCtxNew : Calm (sslCtxNew env) :=
  calm_tick.bind fun _ => calm_ite (fun _ => calm_pure _) fun _ => ⟨fun _ _ => ⟨fun _ hs => hs⟩⟩

theorem calm_bioNewSslConnect (c : Nat) : Calm (bioNewSslConnect env c) := by
  refine calm_tick.bind fun i => ⟨fun n ps => ⟨fun s hs => ?_⟩⟩
  split
  · exact hs
  · split <;> exact hs

theorem calm_sslCtxFree (c : Nat) : Calm (sslCtxFree c) := by
  refine calm_modify fun s => ?_
  split <;> exact ⟨rfl, rfl⟩

theorem calm_bioFreeAll (b : Nat) : Calm (bioFreeAll b) := by
  refine calm_modify fun s => ?_
  split <;> exact ⟨rfl, rfl⟩

theorem calm_bioDoConnect (b : Nat) : Calm (bioDoConnect env b) := by
  refine calm_modify_bind (fun _ => calm_bioCall b _) ?_
  exact fun _ => ⟨rfl, rfl⟩

theorem calm_now : Calm (now env) := calm_tick.bind fun _ => calm_pure _

theorem calm_lastSocketError : Calm (lastSocketError env) := calm_tick.bind fun _ => calm_pure _

theorem calm_getOpenSslError : Calm (getOpenSslError env) := calm_tick.bind fun _ => calm_pure _

theorem calm_orThrow (condition : Bool) (message : String) : Calm (orThrow condition message) :=
  calm_ite (fun _ => calm_pure ()) fun _ => calm_throwIo message

theorem calm_orThrowSsl (condition : Bool) (before after : String) : Calm (orThrowSsl env condition before after) :=
  calm_ite (fun _ => calm_pure ()) fun _ => calm_getOpenSslError.bind fun _ => calm_throwIo _

theorem calm_orThrowSocket (condition : Bool) (before : String) : Calm (orThrowSocket env condition before) :=
  calm_ite (fun _ => calm_pure ()) fun _ => calm_lastSocketError.bind fun _ => calm_throwIo _

/-- A call that has to return what it should. -/
theorem calm_bioSet_orThrowSsl (b : Nat) (good : Int) (f : SslBio → SslBio) (before after : String) :
    Calm (bioSet env b good f >>= fun ret => orThrowSsl env (ret = good) before after) :=
  (calm_bioCall b _).bind fun _ => calm_orThrowSsl _ before after

theorem calm_configureServerName (ssl : Nat) (host : String) : Calm (configureServerName env ssl host) :=
  calm_ite (fun _ => calm_pure ()) fun _ => calm_bioSet_orThrowSsl ssl 1 _ _ _

theorem calm_configureExpectedPeer (ssl : Nat) (host : String) (options : TlsVerificationOptions) :
    Calm (configureExpectedPeer env ssl host options) :=
  calm_ite (fun _ => calm_pure ()) fun _ => calm_ite (fun _ => calm_bioSet_orThrowSsl ssl 1 _ _ _) fun _ =>
    calm_bioSet_orThrowSsl ssl 1 _ _ _

theorem calm_configureTlsVerification (ctx : Nat) (ssl : Option Nat) (host : String)
    (options : TlsVerificationOptions) : Calm (configureTlsVerification env ctx ssl host options) := by
  refine (calm_orThrow _ _).bind fun _ => (calm_ctxCall ctx _).bind fun _ => ?_
  refine calm_ite (fun _ => calm_pure ()) fun _ => ?_
  cases ssl with
  | none => exact calm_modify fun _ => ⟨rfl, rfl⟩
  | some ssl => exact (calm_configureServerName ssl host).bind fun _ => calm_configureExpectedPeer ssl host options

theorem calm_ensureTlsPeerVerified (ssl : Nat) (options : TlsVerificationOptions) :
    Calm (ensureTlsPeerVerified env ssl options) :=
  calm_ite (fun _ => calm_pure ()) fun _ => (calm_bioGet ssl).bind fun _ => (calm_orThrow _ _).bind fun _ =>
    calm_orThrow _ _

theorem calm_restoreSocketBlocking (b : Nat) : Calm (restoreSocketBlocking env b) :=
  (calm_bioGet b).bind fun _ => (calm_orThrow _ _).bind fun _ => (calm_bioCall b _).bind fun _ =>
    (calm_orThrowSocket _ _).bind fun _ => (calm_bioCall b _).bind fun _ => calm_orThrowSocket _ _

theorem calm_applySocketIoTimeout (b : Nat) : Calm (applySocketIoTimeout env config b) :=
  calm_ite (fun _ => calm_pure ()) fun _ => (calm_bioGet b).bind fun _ => calm_ite (fun _ => calm_pure ()) fun _ =>
    (calm_bioCall b _).bind fun _ => (calm_orThrowSocket _ _).bind fun _ => (calm_bioCall b _).bind fun _ =>
      calm_orThrowSocket _ _

theorem calm_loadFiles (c : Nat) : Calm (loadFiles env config c) :=
  (calm_ctxCall c _).bind fun _ => (calm_orThrowSsl _ _ _).bind fun _ => (calm_ctxCall c _).bind fun _ =>
    (calm_orThrowSsl _ _ _).bind fun _ => (calm_ctxCall c _).bind fun _ => (calm_orThrowSsl _ _ _).bind fun _ =>
      (calm_ctxCall c _).bind fun _ => calm_orThrowSsl _ _ _

theorem calm_setAddress (b : Nat) : Calm (setAddress env config b) :=
  (calm_bioCall b _).bind fun _ => (calm_bioCall b _).bind fun _ => (calm_bioCall b _).bind fun _ => calm_pure ()

theorem calm_get : Calm (get : Net State) := ⟨fun _ _ => ⟨fun _ hs => hs⟩⟩

theorem calm_resetBio : Calm resetBio := by
  refine calm_get.bind fun s => ?_
  cases s.bio with
  | none => exact calm_pure ()
  | some b =>
    refine calm_modify_bind (fun _ => calm_bioFreeAll b) ?_
    exact fun _ => ⟨rfl, rfl⟩

theorem calm_resetCtx : Calm resetCtx := by
  refine calm_get.bind fun s => ?_
  cases s.ctx with
  | none => exact calm_pure ()
  | some c =>
    refine calm_modify_bind (fun _ => calm_sslCtxFree c) ?_
    exact fun _ => ⟨rfl, rfl⟩

theorem calm_adopt (newBio newCtx : Nat) : Calm (adopt newBio newCtx) := by
  refine calm_resetBio.bind fun _ => calm_modify_bind (fun _ => calm_resetCtx.bind fun _ =>
    calm_modify_bind (fun _ => calm_modify ?_) ?_) ?_
  all_goals exact fun _ => ⟨rfl, rfl⟩

theorem calm_resetUnlessConnected : Calm resetUnlessConnected := by
  refine ⟨fun n ps => ⟨fun s hs => ?_⟩⟩
  unfold resetUnlessConnected
  split
  · exact hs
  · exact ((calm_resetBio.bind fun _ => calm_resetCtx).run n ps).run s hs

theorem calm_close : Calm close := by
  refine calm_modify_bind (fun _ => calm_resetBio.bind fun _ => calm_resetCtx) ?_
  exact fun _ => ⟨rfl, rfl⟩

theorem calm_currentBio : Calm currentBio := by
  refine ⟨fun n ps => ⟨fun s hs => ?_⟩⟩
  unfold currentBio
  split <;> exact hs

theorem calm_checkTimeout (b : Nat) (ret : Int) (op : String) : Calm (checkTimeout env config b ret op) :=
  calm_ite (fun _ => calm_pure ()) fun _ => (calm_bioCall b _).bind fun _ => calm_ite (fun _ => calm_pure ()) fun _ =>
    calm_lastSocketError.bind fun _ => calm_orThrow _ _

theorem calm_write (data : List UInt8) : Calm (write env config data) :=
  calm_currentBio.bind fun b => (calm_bioCall b _).bind fun _ => (calm_checkTimeout b _ _).bind fun _ => calm_pure _

theorem calm_read (size : Nat) : Calm (read env config size) :=
  calm_currentBio.bind fun b => (calm_bioGet b).bind fun _ => (calm_bioCall b _).bind fun _ =>
    (calm_checkTimeout b _ _).bind fun _ => calm_pure _

end Calm

/-! ## The timeouts of `poll` -/

/-- The timeout of the first call of `poll` in a wait: it is finite, and within the time that was left when the deadline
was looked at, up to a millisecond. -/
structure Poll.Bounded (config : Config) (p : Poll) : Prop where
  checked_lt : p.checked < p.deadline
  pos : 1 ≤ p.timeout
  le : p.timeout ≤ config.timeoutMs.toInt
  remaining : p.timeout * 1000000 ≤ max 1000000 (p.deadline - p.checked)

/-- A call that is made again is the call before it. -/
def Poll.Repeats (before : List Poll) (p : Poll) : Prop := ∃ q, before.getLast? = some q ∧ p = { q with again := true }

/-- The calls of `poll`, in their order. -/
structure Timed (config : Config) (polls : List Poll) : Prop where
  first : ∀ p ∈ polls, p.again = false → p.Bounded config
  again : ∀ before p after, polls = before ++ p :: after → p.again = true → p.Repeats before

theorem Timed.append {config : Config} {polls : List Poll} {p : Poll} (h : Timed config polls)
    (hfirst : p.again = false → p.Bounded config) (hagain : p.again = true → p.Repeats polls) :
    Timed config (polls ++ [p]) := by
  constructor
  · intro q hq
    rcases List.mem_append.1 hq with hq | hq
    · exact h.first q hq
    · rw [List.mem_singleton.1 hq]
      exact hfirst
  · intro before q after heq
    rcases List.eq_nil_or_concat after with rfl | ⟨after, r, rfl⟩
    · obtain ⟨rfl, hq⟩ := List.append_inj' heq rfl
      cases hq
      exact hagain
    · rw [List.concat_eq_append, ← List.cons_append, ← List.append_assoc] at heq
      exact h.again before q after (List.append_inj' heq rfl).1

section Polls

variable {env : Environment} {config : Config} {k : Nat}

/-- At least `k` calls were made, and the timeouts were within the time. -/
def Waits (config : Config) (k : Nat) (s : State) : Prop := k ≤ s.calls ∧ Timed config s.polls

theorem Calm.waits {α : Type} {m : Net α} (h : Calm m) (k : Nat) :
    Triple (Waits config k) m (fun _ => Waits config k) (fun _ => Waits config k) := by
  constructor
  intro s hs
  refine ((h.run k s.polls).run s ⟨hs.1, rfl⟩).mono (fun _ s' h => ⟨h.1, ?_⟩) fun _ s' h => ⟨h.2.1, ?_⟩
  · rw [h.2]
    exact hs.2
  · rw [h.2.2]
    exact hs.2

/-- Time does not go back. -/
theorem now_waits (k : Nat) :
    Triple (Waits config k) (now env) (fun time s => env.clock k ≤ time ∧ Waits config k s) (fun _ => Waits config k) :=
  ⟨fun _ hs => ⟨env.clock_mono hs.1, hs.1.trans (Nat.le_succ _), hs.2⟩⟩

/-- The next call of `poll`: the first one of a wait, or the one before it again. -/
def Due (config : Config) (poll : Poll) (s : State) : Prop :=
  (poll.again = false → poll.Bounded config) ∧ (poll.again = true → poll.Repeats s.polls)

theorem pollLoop_again {poll : Poll} (fuel : Nat) :
    Triple (fun s => Waits config k s ∧ Due config poll s) (pollLoop env poll fuel) (fun _ => Waits config k)
      (fun _ => Waits config k) := by
  induction fuel generalizing poll with
  | zero => exact triple_throw fun _ hs => hs.1
  | succ fuel ih =>
    refine triple_bind (Q := fun _ s => Waits config k s ∧ Due config poll s)
      ⟨fun s hs => ⟨⟨hs.1.1.trans (Nat.le_succ _), hs.1.2⟩, hs.2⟩⟩ fun n => ?_
    refine triple_bind (Q := fun _ s => Waits config k s ∧ Due config { poll with again := true } s)
      (triple_modify fun s hs => ⟨⟨hs.1.1, hs.1.2.append hs.2.1 hs.2.2⟩, nofun, fun _ => ⟨poll, ?_, rfl⟩⟩) fun _ => ?_
    · exact List.getLast?_concat
    · exact triple_ite (fun _ => ih) fun _ => triple_pure fun _ hs => hs.1

theorem pollLoop_waits {poll : Poll} (hfirst : poll.again = false) (hpoll : poll.Bounded config) (fuel : Nat) :
    Triple (Waits config k) (pollLoop env poll fuel) (fun _ => Waits config k) (fun _ => Waits config k) := by
  refine (pollLoop_again fuel).conseq (fun s hs => ⟨hs, fun _ => hpoll, fun hagain => ?_⟩) (fun _ _ hs => hs)
    fun _ _ hs => hs
  rw [hfirst] at hagain
  cases hagain

/-- The milliseconds that are left are an `int`. -/
theorem bounded_remaining {start time : Int} (htimeout : 0 < config.timeoutMs.toInt) (hstart : start ≤ time)
    (htime : time < start + config.timeoutMs.toInt * 1000000) (events : Nat) :
    Poll.Bounded config
      { deadline := start + config.timeoutMs.toInt * 1000000, checked := time
        timeout := (max 1 ((start + config.timeoutMs.toInt * 1000000 - time) / 1000000)).bmod (2 ^ 32)
        events := events } := by
  have hlt : config.timeoutMs.toInt < 2 ^ 31 := config.timeoutMs.toInt_lt
  have hbmod : (max 1 ((start + config.timeoutMs.toInt * 1000000 - time) / 1000000)).bmod (2 ^ 32) =
      max 1 ((start + config.timeoutMs.toInt * 1000000 - time) / 1000000) :=
    Int.bmod_eq_of_le (by omega) (by omega)
  constructor
  case checked_lt => exact htime
  all_goals
    dsimp only
    rw [hbmod]
    omega

theorem waitForBioRetry_waits (htimeout : 0 < config.timeoutMs.toInt) (b : Nat) (op : String) :
    Triple (Waits config k)
      (waitForBioRetry env config b (env.clock k + config.timeoutMs.toInt * 1000000) op)
      (fun _ => Waits config k) (fun _ => Waits config k) := by
  refine triple_bind ((calm_bioGet b).waits k) fun x => triple_bind ((calm_orThrow _ _).waits k) fun _ =>
    triple_bind (now_waits k) fun time => triple_and fun hstart => ?_
  refine triple_bind (Q := fun _ s => time < _ ∧ Waits config k s) (orThrow_triple (fun _ _ _ hs => hs)
    (fun hc s hs => ⟨of_decide_eq_true hc, hs⟩) _) fun _ => triple_and fun htime => ?_
  refine triple_bind ((calm_bioCall b _).waits k) fun shouldRead => triple_bind ((calm_bioCall b _).waits k) fun
    shouldWrite => triple_bind (pollLoop_waits rfl (bounded_remaining htimeout hstart htime _) _) fun _ => ?_
  exact triple_bind ((calm_orThrow _ _).waits k) fun _ => (calm_orThrowSocket _ _).waits k

theorem connectLoop_waits (htimeout : 0 < config.timeoutMs.toInt) (b fuel : Nat) :
    Triple (Waits config k) (connectLoop env config b (env.clock k + config.timeoutMs.toInt * 1000000) fuel)
      (fun _ => Waits config k) (fun _ => Waits config k) := by
  induction fuel with
  | zero => exact triple_throw fun _ hs => hs
  | succ fuel ih =>
    refine triple_bind ((calm_bioDoConnect b).waits k) fun _ => ?_
    refine triple_ite (fun _ => triple_pure fun _ hs => hs) fun _ => ?_
    exact triple_bind ((calm_bioCall b _).waits k) fun _ => triple_bind ((calm_orThrowSsl _ _ _).waits k) fun _ =>
      triple_bind (waitForBioRetry_waits htimeout b _) fun _ => ih

/-- The deadline is counted from a call of the clock that was made. -/
theorem establish_waits (b : Nat) :
    Triple (Waits config 0) (establish env config b) (fun _ => Waits config 0) (fun _ => Waits config 0) := by
  have hzero (k : Nat) (s : State) (hs : Waits config k s) : Waits config 0 s := ⟨Nat.zero_le _, hs.2⟩
  refine triple_ite (fun htimeout => ?_) fun _ => ?_
  · refine triple_bind ((calm_bioCall b _).waits 0) fun _ => triple_bind ((calm_orThrow _ _).waits 0) fun _ => ?_
    refine triple_bind (Q := fun start s => ∃ k, start = env.clock k ∧ Waits config k s)
      ⟨fun s hs => ⟨s.calls, rfl, Nat.le_succ _, hs.2⟩⟩ fun start => triple_exists fun k => triple_and fun hstart => ?_
    subst hstart
    refine Triple.conseq ?_ (fun _ hs => hs) (fun _ => hzero k) (fun _ => hzero k)
    exact triple_bind (connectLoop_waits htimeout b _) fun _ => triple_bind ((calm_restoreSocketBlocking b).waits k)
      fun _ => triple_bind ((calm_bioCall b _).waits k) fun _ => (calm_orThrow _ _).waits k
  · exact triple_bind ((calm_bioDoConnect b).waits 0) fun _ => (calm_orThrowSsl _ _ _).waits 0

theorem owning_waits {α : Type} {free : Net Unit} {scope : Net α} (hfree : Calm free)
    (h : Triple (Waits config 0) scope (fun _ => Waits config 0) (fun _ => Waits config 0)) :
    Triple (Waits config 0) (owning free scope) (fun _ => Waits config 0) (fun _ => Waits config 0) :=
  triple_tryCatch h fun _ => triple_bind (hfree.waits 0) fun _ => triple_throw fun _ hs => hs

theorem connect_waits :
    Triple (Waits config 0) (connect env config) (fun _ => Waits config 0) (fun _ => Waits config 0) := by
  refine triple_bind (calm_get.waits 0) fun _ => triple_bind (calm_resetUnlessConnected.waits 0) fun _ =>
    triple_bind (calm_sslCtxNew.waits 0) fun r => ?_
  cases r with
  | none => exact (calm_getOpenSslError.bind fun _ => calm_throwIo _).waits 0
  | some c =>
    refine owning_waits (calm_sslCtxFree c) (triple_bind ((calm_configureTlsVerification c none "" _).waits 0) fun _ =>
      triple_bind ((calm_loadFiles c).waits 0) fun _ => triple_bind ((calm_bioNewSslConnect c).waits 0) fun r => ?_)
    cases r with
    | none => exact (calm_getOpenSslError.bind fun _ => calm_throwIo _).waits 0
    | some b =>
      refine owning_waits (calm_bioFreeAll b) (triple_bind ?_ fun _ => triple_bind ((calm_adopt b c).waits 0) fun _ =>
        triple_pure fun _ hs => hs)
      refine triple_bind ((calm_bioCall b _).waits 0) fun _ => triple_bind ((calm_orThrowSsl _ _ _).waits 0) fun _ => ?_
      refine triple_bind ((calm_configureTlsVerification c _ _ _).waits 0) fun _ => ?_
      refine triple_bind ((calm_setAddress b).waits 0) fun _ => triple_bind (establish_waits b) fun _ => ?_
      exact triple_bind ((calm_ensureTlsPeerVerified b _).waits 0) fun _ => (calm_applySocketIoTimeout b).waits 0

theorem checkConnected_waits :
    Triple (Waits config 0) (checkConnected env config) (fun _ => Waits config 0) (fun _ => Waits config 0) := by
  constructor
  intro s hs
  unfold checkConnected
  split
  · exact hs
  · exact connect_waits.run s hs

theorem Call.perform_waits (call : Call) :
    Triple (Waits config 0) (call.perform env config) (fun _ => Waits config 0) (fun _ => Waits config 0) := by
  cases call with
  | connect => exact triple_bind connect_waits fun _ => triple_pure fun _ hs => hs
  | close => exact calm_close.waits 0
  | setTlsVerification options => exact ⟨fun _ hs => hs⟩
  | send data =>
    refine triple_bind (triple_bind checkConnected_waits fun r => ?_) fun _ => triple_pure fun _ hs => hs
    exact triple_ite (fun _ => (calm_write data).waits 0) fun _ => triple_pure fun _ hs => hs
  | recv size =>
    refine triple_bind (triple_bind checkConnected_waits fun r => ?_) fun _ => triple_pure fun _ hs => hs
    exact triple_ite (fun _ => (calm_read size).waits 0) fun _ => triple_pure fun _ hs => hs

end Polls

/-- Call `n`, if it is one of `poll`, is interrupted. -/
def Environment.Interrupts (env : Environment) (n : Nat) : Prop := env.reply n < 0 ∧ env.errno n = 4

instance (env : Environment) (n : Nat) : Decidable (env.Interrupts n) := inferInstanceAs (Decidable (_ ∧ _))

/-- After a call of `poll`. -/
def State.polled (s : State) (poll : Poll) : State := { s with calls := s.calls + 1, polls := s.polls ++ [poll] }

theorem pollLoop_succ (env : Environment) (poll : Poll) (fuel : Nat) (s : State) :
    pollLoop env poll (fuel + 1) s =
      if env.Interrupts s.calls then pollLoop env { poll with again := true } fuel (s.polled poll)
      else .ok (env.reply s.calls) (s.polled poll) := by
  by_cases h : env.Interrupts s.calls
  · rw [if_pos h]
    exact (bind_ok rfl).trans ((bind_ok rfl).trans (congrFun (if_pos h) _))
  · rw [if_neg h]
    exact (bind_ok rfl).trans ((bind_ok rfl).trans (congrFun (if_neg h) _))

/-- The deadline is not looked at between two calls of `poll`: while they are interrupted, it may pass. -/
theorem pollLoop_diverges (env : Environment) (poll : Poll) (fuel : Nat) (s : State)
    (h : ∀ n, s.calls ≤ n → env.Interrupts n) : ∃ s', pollLoop env poll fuel s = .error .diverged s' := by
  induction fuel generalizing poll s with
  | zero => exact ⟨s, rfl⟩
  | succ fuel ih =>
    rw [pollLoop_succ, if_pos (h _ le_rfl)]
    exact ih _ _ fun n hn => h n ((Nat.le_succ _).trans hn)

/-- **The waits of `connect`.** In every run, the first call of `poll` in a wait is made after the deadline was looked
at and not reached. It waits at least a millisecond and no longer than the timeout of the transport, and up to a
millisecond no longer than what was left until the deadline. A call after an interrupt is the one before it again: the
deadline is not looked at, and if every call is interrupted the wait does not end. -/
theorem polls_bounded (env : Environment) (config : Config) (options : TlsVerificationOptions) (calls : List Call) :
    Timed config (reached env config options calls).polls ∧
      ∀ poll patience s, (∀ n, s.calls ≤ n → env.Interrupts n) →
        ∃ s', pollLoop env poll patience s = .error .diverged s' := by
  refine ⟨?_, pollLoop_diverges env⟩
  suffices h : ∀ s, Waits config 0 s → Waits config 0 (run env config calls s) from
    (h { tlsVerification := options } ⟨Nat.zero_le _, nofun, by simp⟩).2
  induction calls with
  | nil => exact fun _ hs => hs
  | cons call calls ih => exact fun s hs => ih _ (call.perform_waits.final hs)

/-- A server that is slow to shake hands. -/
def slowServer : Environment where
  reply n := if n ∈ [16, 24, 26, 27] then 0 else 1
  errors _ := []
  clock n := n * 1000000
  clock_mono _ _ h := mul_le_mul_of_nonneg_right (Nat.cast_le.2 h) (by decide)
  errno _ := 11
  fd _ := 3
  certificate _ := true
  verifyResult _ := 0
  incoming _ _ := 0
  isIpAddress _ := false
  socketErrorString _ := "Resource temporarily unavailable"
  verifyErrorString _ := ""
  patience := 2

def slowConfig : Config := ⟨"kmip", "5696", "client.pem", "client.key", "ca.pem", 250⟩

theorem polls_bounded_slowServer :
    (reached slowServer slowConfig {} [.connect]).isConnected = true ∧
      ∃ p ∈ (reached slowServer slowConfig {} [.connect]).polls, p.Bounded slowConfig := by
  obtain ⟨p, hp, hfirst⟩ : ∃ p ∈ (reached slowServer slowConfig {} [.connect]).polls, p.again = false := by
    decide +kernel
  exact ⟨by decide +kernel, p, hp, (polls_bounded _ _ _ _).1.first p hp hfirst⟩

/-! ## Enough patience -/

/-- The same calls, with loops that are cut off later or earlier. -/
def Environment.within (env : Environment) (patience : Nat) : Environment := { env with patience := patience }

/-- Time goes on, and there is an end to the interrupts. -/
structure Environment.Fair (env : Environment) : Prop where
  elapses : ∀ time, ∃ n, time ≤ env.clock n
  resumes : ∀ n, ∃ m, n ≤ m ∧ ¬env.Interrupts m

section Settles

variable {α : Type} {env : Environment} {config : Config}

def Made (k : Nat) (s : State) : Prop := k ≤ s.calls

def Ended (e : Abort) (_ : State) : Prop := e ≠ .diverged

/-- Patience is nothing to a part that does not wait. -/
theorem settles_calm {m : Nat → Net α} (k : Nat) (h : ∀ patience, Calm (m patience))
    (heq : ∀ patience, m patience = m 0) : Settling (Made k) m (fun _ => Made k) Ended := by
  refine settling_of_triple ⟨fun s hs => ?_⟩ heq
  exact (((h 0).run k s.polls).run s ⟨hs, rfl⟩).mono (fun _ _ h => h.1) fun _ _ h => h.1

theorem orThrow_settles {P Q : State → Prop} {condition : Bool} (h : condition = true → ∀ s, P s → Q s)
    (message : String) : Settling P (fun _ => orThrow condition message) (fun _ => Q) Ended := by
  unfold orThrow
  exact settling_ite (fun hc => settling_pure (h hc)) fun _ => settling_throw fun _ _ => nofun

/-- A handler. -/
theorem settles_handler {m : Nat → Net α} {Q : α → State → Prop} {e : Abort}
    (h : e ≠ .diverged → Settling (Made 0) m Q Ended) : Settling (Ended e) m Q Ended :=
  ⟨fun s he => (h he).settle s (Nat.zero_le _)⟩

/-- `poll` is called until a call is not interrupted. -/
theorem pollLoop_settles (hfair : env.Fair) (poll : Poll) (k : Nat) :
    Settling (Made k) (fun patience => pollLoop (env.within patience) poll patience) (fun _ => Made k) Ended := by
  -- The call that is not interrupted is the `d`-th from here; `j` rounds are over.
  suffices h : ∀ d j poll s, Made k s → ¬env.Interrupts (s.calls + d) → ∃ r n, Ends (fun _ => Made k) Ended r ∧
      ∀ patience, n ≤ patience → pollLoop (env.within patience) poll (patience - j) s = r by
    constructor
    intro s hs
    obtain ⟨m, hm, hinterrupts⟩ := hfair.resumes s.calls
    obtain ⟨d, rfl⟩ := Nat.exists_eq_add_of_le hm
    exact h d 0 poll s hs hinterrupts
  intro d
  induction d with
  | zero =>
    intro j poll s hs hd
    refine ⟨.ok (env.reply s.calls) (s.polled poll), j + 1, hs.trans (Nat.le_succ _), fun patience hp => ?_⟩
    rw [show patience - j = patience - (j + 1) + 1 by omega, pollLoop_succ]
    exact if_neg hd
  | succ d ih =>
    intro j poll s hs hd
    by_cases hi : env.Interrupts s.calls
    · rw [← Nat.succ_add_eq_add_succ] at hd
      obtain ⟨r, n, hr, hrun⟩ := ih (j + 1) { poll with again := true } (s.polled poll) (hs.trans (Nat.le_succ _)) hd
      refine ⟨r, max n (j + 1), hr, fun patience hp => ?_⟩
      rw [show patience - j = patience - (j + 1) + 1 by omega, pollLoop_succ]
      exact (if_pos hi).trans (hrun patience (by omega))
    · refine ⟨.ok (env.reply s.calls) (s.polled poll), j + 1, hs.trans (Nat.le_succ _), fun patience hp => ?_⟩
      rw [show patience - j = patience - (j + 1) + 1 by omega, pollLoop_succ]
      exact if_neg hi

/-- After a wait, the deadline has not been reached when it was looked at. -/
theorem waitForBioRetry_settles (hfair : env.Fair) {deadline : Int} {M : Nat} (hM : deadline ≤ env.clock M) (b : Nat)
    (op : String) (k : Nat) :
    Settling (Made k) (fun patience => waitForBioRetry (env.within patience) config b deadline op)
      (fun _ s => k < M ∧ Made (k + 1) s) Ended := by
  have hnow : Settling (Made k) (fun patience => now (env.within patience))
      (fun time s => (time < deadline → k < M) ∧ Made (k + 1) s) Ended := by
    refine settling_of_triple (f := now env) ⟨fun s hs => ⟨fun htime => ?_, Nat.succ_le_succ hs⟩⟩ fun _ => rfl
    by_contra hk
    have := env.clock_mono ((not_lt.1 hk).trans hs)
    exact absurd (htime.trans_le hM) (not_lt.2 this)
  refine settling_bind (settles_calm k (fun _ => calm_bioGet b) fun _ => rfl) fun x =>
    settling_bind (settles_calm k (fun _ => calm_orThrow _ _) fun _ => rfl) fun _ =>
    settling_bind hnow fun time => settling_and fun hk => ?_
  refine settling_bind (Q := fun _ s => k < M ∧ Made (k + 1) s) (orThrow_settles ?_ _) fun _ =>
    settling_and fun hk => ?_
  · exact fun htime _ hs => ⟨hk (of_decide_eq_true htime), hs⟩
  refine settling_bind (settles_calm (k + 1) (fun _ => calm_bioCall b _) fun _ => rfl) fun shouldRead =>
    settling_bind (settles_calm (k + 1) (fun _ => calm_bioCall b _) fun _ => rfl) fun shouldWrite =>
    settling_bind (pollLoop_settles hfair _ (k + 1)) fun _ => ?_
  refine settling_bind (settles_calm (k + 1) (fun _ => calm_orThrow _ _) fun _ => rfl) fun _ => ?_
  exact (settles_calm (k + 1) (fun _ => calm_orThrowSocket _ _) fun _ => rfl).conseq (fun _ hs => hs)
    (fun _ _ hs => ⟨hk, hs⟩) fun _ _ he => he

/-- A round of the loop of `connect`: if there is another one, then call `M` is still to come. -/
theorem connectLoop_round (hfair : env.Fair) {deadline : Int} {M : Nat} (hM : deadline ≤ env.clock M) (b k j : Nat)
    (hrest : k < M → Settling (Made (k + 1))
      (fun patience => connectLoop (env.within patience) config b deadline (patience - (j + 1))) (fun _ => Made 0)
      Ended) :
    Settling (Made k) (fun patience => connectLoop (env.within patience) config b deadline (patience - j))
      (fun _ => Made 0) Ended := by
  have hround : Settling (Made k)
      (fun patience => connectLoop (env.within patience) config b deadline (patience - (j + 1) + 1)) (fun _ => Made 0)
      Ended := by
    refine settling_bind (settles_calm k (fun _ => calm_bioDoConnect b) fun _ => rfl) fun _ =>
      settling_ite (fun _ => settling_pure fun _ _ => Nat.zero_le _) fun _ => ?_
    exact settling_bind (settles_calm k (fun _ => calm_bioCall b _) fun _ => rfl) fun _ =>
      settling_bind (settles_calm k (fun _ => calm_orThrowSsl _ _ _) fun _ => rfl) fun _ =>
      settling_bind (waitForBioRetry_settles hfair hM b _ k) fun _ => settling_and hrest
  refine hround.of_eventually (j + 1) fun patience hp => ?_
  rw [show patience - j = patience - (j + 1) + 1 by omega]

/-- The handshake is done, refused, or the deadline is reached. -/
theorem connectLoop_settles (hfair : env.Fair) {deadline : Int} {M : Nat} (hM : deadline ≤ env.clock M) (b : Nat) :
    Settling (Made 0) (fun patience => connectLoop (env.within patience) config b deadline patience) (fun _ => Made 0)
      Ended := by
  -- Every round makes a call, so that at most `d` rounds come before call `M`.
  suffices h : ∀ d k j, M ≤ k + d → Settling (Made k)
      (fun patience => connectLoop (env.within patience) config b deadline (patience - j)) (fun _ => Made 0) Ended from
    h M 0 0 (by omega)
  intro d
  induction d with
  | zero => exact fun k j hd => connectLoop_round hfair hM b k j fun hk => absurd hk (by omega)
  | succ d ih => exact fun k j hd => connectLoop_round hfair hM b k j fun _ => ih (k + 1) (j + 1) (by omega)

theorem establish_settles (hfair : env.Fair) (b : Nat) :
    Settling (Made 0) (fun patience => establish (env.within patience) config b) (fun _ => Made 0) Ended := by
  refine settling_ite (fun _ => ?_) fun _ => ?_
  · refine settling_bind (settles_calm 0 (fun _ => calm_bioCall b _) fun _ => rfl) fun _ =>
      settling_bind (settles_calm 0 (fun _ => calm_orThrow _ _) fun _ => rfl) fun _ =>
      settling_bind (settles_calm 0 (fun _ => calm_now) fun _ => rfl) fun start => ?_
    obtain ⟨M, hM⟩ := hfair.elapses (start + config.timeoutMs.toInt * 1000000)
    exact settling_bind (connectLoop_settles hfair hM b) fun _ =>
      settling_bind (settles_calm 0 (fun _ => calm_restoreSocketBlocking b) fun _ => rfl) fun _ =>
      settling_bind (settles_calm 0 (fun _ => calm_bioCall b _) fun _ => rfl) fun _ =>
      settles_calm 0 (fun _ => calm_orThrow _ _) fun _ => rfl
  · exact settling_bind (settles_calm 0 (fun _ => calm_bioDoConnect b) fun _ => rfl) fun _ =>
      settles_calm 0 (fun _ => calm_orThrowSsl _ _ _) fun _ => rfl

theorem owning_settles {free : Net Unit} {scope : Nat → Net α} (hfree : Calm free)
    (h : Settling (Made 0) scope (fun _ => Made 0) Ended) :
    Settling (Made 0) (fun patience => owning free (scope patience)) (fun _ => Made 0) Ended := by
  refine settling_tryCatch h fun e => settles_handler fun he => ?_
  exact settling_bind (settles_calm 0 (fun _ => hfree) fun _ => rfl) fun _ => settling_throw fun _ _ => he

theorem setUpBio_settles (hfair : env.Fair) (c b : Nat) (options : TlsVerificationOptions) :
    Settling (Made 0) (fun patience => setUpBio (env.within patience) config c b options) (fun _ => Made 0) Ended :=
  settling_bind (settles_calm 0 (fun _ => calm_bioCall b _) fun _ => rfl) fun _ =>
    settling_bind (settles_calm 0 (fun _ => calm_orThrowSsl _ _ _) fun _ => rfl) fun _ =>
    settling_bind (settles_calm 0 (fun _ => calm_configureTlsVerification c _ _ _) fun _ => rfl) fun _ =>
    settling_bind (settles_calm 0 (fun _ => calm_setAddress b) fun _ => rfl) fun _ =>
    settling_bind (establish_settles hfair b) fun _ =>
    settling_bind (settles_calm 0 (fun _ => calm_ensureTlsPeerVerified b _) fun _ => rfl) fun _ =>
    settles_calm 0 (fun _ => calm_applySocketIoTimeout b) fun _ => rfl

theorem connect_settles (hfair : env.Fair) :
    Settling (Made 0) (fun patience => connect (env.within patience) config) (fun _ => Made 0) Ended := by
  refine settling_bind (settles_calm 0 (fun _ => calm_get) fun _ => rfl) fun s =>
    settling_bind (settles_calm 0 (fun _ => calm_resetUnlessConnected) fun _ => rfl) fun _ =>
    settling_bind (settles_calm 0 (fun _ => calm_sslCtxNew) fun _ => rfl) fun r => ?_
  cases r with
  | none => exact settles_calm 0 (fun _ => calm_getOpenSslError.bind fun _ => calm_throwIo _) fun _ => rfl
  | some c =>
    refine owning_settles (calm_sslCtxFree c) ?_
    refine settling_bind (settles_calm 0 (fun _ => calm_configureTlsVerification c none "" _) fun _ => rfl) fun _ =>
      settling_bind (settles_calm 0 (fun _ => calm_loadFiles c) fun _ => rfl) fun _ =>
      settling_bind (settles_calm 0 (fun _ => calm_bioNewSslConnect c) fun _ => rfl) fun r => ?_
    cases r with
    | none => exact settles_calm 0 (fun _ => calm_getOpenSslError.bind fun _ => calm_throwIo _) fun _ => rfl
    | some b =>
      refine owning_settles (calm_bioFreeAll b) (settling_bind (setUpBio_settles hfair c b _) fun _ => ?_)
      exact settles_calm 0 (fun _ => (calm_adopt b c).bind fun _ => calm_pure true) fun _ => rfl

theorem checkConnected_settles (hfair : env.Fair) :
    Settling (Made 0) (fun patience => checkConnected (env.within patience) config) (fun _ => Made 0) Ended := by
  constructor
  intro s hs
  cases hconnected : s.isConnected with
  | true => exact ⟨.ok true s, 0, hs, fun _ _ => if_pos hconnected⟩
  | false =>
    obtain ⟨r, n, hr, hrun⟩ := (connect_settles hfair).settle s hs
    refine ⟨r, n, hr, fun patience hp => (if_neg ?_).trans (hrun patience hp)⟩
    simp [hconnected]

theorem send_settles (hfair : env.Fair) (data : List UInt8) :
    Settling (Made 0) (fun patience => send (env.within patience) config data) (fun _ => Made 0) Ended :=
  settling_bind (checkConnected_settles hfair) fun _ => settling_ite
    (fun _ => settles_calm 0 (fun _ => calm_write data) fun _ => rfl) fun _ => settling_pure fun _ hs => hs

/-- A positive result comes with data. -/
theorem recv_settles (hfair : env.Fair) (size : Nat) :
    Settling (Made 0) (fun patience => recv (env.within patience) config size)
      (fun r s => (0 < r.1 → r.2 ≠ []) ∧ Made 0 s) Ended := by
  refine settling_bind (checkConnected_settles hfair) fun _ => settling_ite (fun _ => ?_) fun _ =>
    settling_pure fun _ hs => ⟨fun h => absurd h (by decide), hs⟩
  refine settling_bind (settles_calm 0 (fun _ => calm_currentBio) fun _ => rfl) fun b =>
    settling_bind (settles_calm 0 (fun _ => calm_bioGet b) fun _ => rfl) fun x =>
    settling_bind (settles_calm 0 (fun _ => calm_bioCall b _) fun _ => rfl) fun ret =>
    settling_bind (settles_calm 0 (fun _ => calm_checkTimeout b _ _) fun _ => rfl) fun _ =>
    settling_of_triple (f := pure (_, window (env.incoming b) x.received _))
      (triple_pure fun s hs => ⟨fun hpos => ?_, hs⟩) fun _ => rfl
  rcases moved_spec ret (IOUtils.staticCastInt size).toNat with ⟨hmoved, -⟩ | ⟨-, hret⟩
  · exact List.ne_nil_of_length_pos (by rwa [length_window])
  · exact absurd hpos (not_lt.2 hret)

/-- Every round sends something. -/
theorem sendLoop_settles (hfair : env.Fair) (request : List UInt8) (dlen fuel totalSent : Nat)
    (h : dlen ≤ totalSent + fuel) :
    Settling (Made 0) (fun patience => (transport (env.within patience) config).sendLoop request dlen fuel totalSent)
      (fun _ => Made 0) Ended := by
  induction fuel generalizing totalSent with
  | zero => exact settling_ite (fun hlt => absurd hlt (by omega)) fun _ => settling_pure fun _ hs => hs
  | succ fuel ih =>
    refine settling_ite (fun _ => settling_bind (send_settles hfair _) fun sent => ?_) fun _ =>
      settling_pure fun _ hs => hs
    exact settling_ite (fun _ => settling_throw fun _ _ => nofun) fun hsent => ih _ (by omega)

/-- Every round receives something. -/
theorem readLoop_settles (hfair : env.Fair) (n fuel : Nat) (buf : List UInt8) (h : n ≤ buf.length + fuel) :
    Settling (Made 0) (fun patience => (transport (env.within patience) config).readLoop n fuel buf)
      (fun _ => Made 0) Ended := by
  induction fuel generalizing buf with
  | zero => exact settling_ite (fun hlt => absurd hlt (by omega)) fun _ => settling_pure fun _ hs => hs
  | succ fuel ih =>
    refine settling_ite (fun _ => settling_bind (recv_settles hfair _) fun r => settling_and fun hr => settling_ite
      (fun _ => ?_) fun hpos => ih _ ?_) fun _ => settling_pure fun _ hs => hs
    · exact settling_throw fun _ _ => nofun
    · have := List.length_pos_iff.2 (hr (not_le.1 hpos))
      rw [List.length_append]
      omega

theorem exchange_settles (hfair : env.Fair) (request : List UInt8) (maxMessageSize : Nat) :
    Settling (Made 0) (fun patience => (transport (env.within patience) config).exchange request maxMessageSize)
      (fun _ => Made 0) Ended := by
  have hsend : Settling (Made 0) (fun patience => (transport (env.within patience) config).sendAll request)
      (fun _ => Made 0) Ended :=
    settling_ite (fun _ => settling_throw fun _ _ => nofun) fun _ => sendLoop_settles hfair _ _ _ _ (by omega)
  have hread (n : Nat) : Settling (Made 0) (fun patience => (transport (env.within patience) config).readExact n)
      (fun _ => Made 0) Ended :=
    readLoop_settles hfair n n [] (Nat.le_add_left ..)
  refine settling_tryCatch (settling_bind hsend fun _ => settling_bind (hread _) fun _ => settling_ite (fun _ => ?_)
    fun _ => settling_bind (hread _) fun _ => settling_pure fun _ hs => hs) fun e => settles_handler fun he => ?_
  · exact settling_throw fun _ _ => nofun
  · unfold IOUtils.Transport.closeAndRethrow
    split
    · exact settling_bind (settles_calm 0 (fun _ => calm_close) fun _ => rfl) fun _ => settling_throw fun _ _ => he
    · exact settling_throw fun _ _ => he

theorem attemptAll_settles (hfair : env.Fair) (calls : List IOUtils.Call) :
    Settling (Made 0)
      (fun patience => IOUtils.attemptAll
        (fun call => (transport (env.within patience) config).exchange call.request call.maxMessageSize) calls)
      (fun _ => Made 0) Ended := by
  induction calls with
  | nil => exact settling_pure fun _ hs => hs
  | cons call calls ih =>
    refine settling_bind (settling_tryCatch
        (settling_bind (exchange_settles hfair _ _) fun _ => settling_pure fun _ hs => hs)
        fun e => settles_handler fun he => ?_) fun _ =>
      settling_bind (settles_calm 0 (fun _ => calm_get) fun _ => rfl) fun _ =>
      settling_bind ih fun _ => settling_pure fun _ hs => hs
    cases e with
    | diverged => exact absurd rfl he
    | thrown e => exact settling_pure fun _ hs => hs

end Settles

/-- **Exchanges return.** If time goes on and there is an end to the interrupts, then all exchanges come to an end, and
they have ended as in the model under an environment whose connections are the BIOs of the transport. -/
theorem exchanges_return (env : Environment) (hfair : env.Fair) (config : Config) (options : TlsVerificationOptions)
    (calls : List IOUtils.Call) :
    ∃ env' ends s n, List.Forall₂ (SameEnd env env') ends (IOUtils.exchangeAll env' calls {}) ∧
      ∀ patience, n ≤ patience → IOUtils.attemptAll
        (fun call => (transport (env.within patience) config).exchange call.request call.maxMessageSize) calls
        { tlsVerification := options } = .ok ends s := by
  obtain ⟨r, n, hr, hrun⟩ := (attemptAll_settles hfair calls).settle { tlsVerification := options } (Nat.zero_le _)
  cases r with
  | error e s => exact absurd (IOUtils.attemptAll_eq_error (hrun n le_rfl)) hr
  | ok ends s =>
    obtain ⟨env', hends⟩ := attemptAll_model (hrun n le_rfl)
    refine ⟨env', ends, s, n, hends.imp fun _ _ h => ?_, hrun⟩
    exact ⟨⟨h.connected, h.connection, h.peers, h.last⟩, h.received⟩

theorem fair_slowServer : slowServer.Fair where
  elapses time := ⟨time.toNat, by
    change time ≤ time.toNat * 1000000
    omega⟩
  resumes n := ⟨n, le_rfl, fun h => by
    have h : (if n ∈ [16, 24, 26, 27] then (0 : Int) else 1) < 0 := h.1
    split at h <;> omega⟩

/-- The server sends zeros only, which are the header of an empty message. -/
theorem exchanges_return_slowServer :
    ∃ env' ends s n, List.Forall₂ (SameEnd slowServer env') ends
        (IOUtils.exchangeAll env' [⟨[1, 2, 3], 0⟩, ⟨[4], 0⟩] {}) ∧
      ∀ patience, n ≤ patience → IOUtils.attemptAll
        (fun call => (transport (slowServer.within patience) slowConfig).exchange call.request call.maxMessageSize)
        [⟨[1, 2, 3], 0⟩, ⟨[4], 0⟩] {} = .ok ends s :=
  exchanges_return slowServer fair_slowServer slowConfig {} _

end Kmip.Client.NetClient
