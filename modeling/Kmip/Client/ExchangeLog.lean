import Kmip.Client.NetClientExchanges
import Kmip.Client.SessionTransport
import Kmip.Core.Redaction

/-!
# The log of the exchanges

`IOUtils` hands the bytes of its messages to a logger as text. The logger is an object of the application: it has a
state of its own, and it may throw. Whatever it does, the exchanges end as without it, and it is asked once for every
request and once for every response that was received (`exchanges_logged`). Since the text of a message leaves out its
secrets, a logger cannot tell apart two runs that differ in secrets only (`log_noninterference`).
-/

namespace Kmip.Client.IOUtils

open Hoare

inductive LogLevel where
  | debug
  | info
  | warning
  | error
deriving DecidableEq

structure LogRecord where
  level : LogLevel := .debug
  component : String
  event : String
  message : String
deriving DecidableEq

/-- A logger with a state of type `L` that throws what it likes. -/
structure Logger (ε L : Type) where
  shouldLog : LogLevel → EStateM ε L Bool
  log : LogRecord → EStateM ε L Unit

section Logging

variable {ε L σ : Type} (utcTime : Int64 → String) (categoryMessage : Int → String) (logger : Option (Logger ε L))

/-- The text of a message. -/
def messageText (ttlv : List UInt8) : Except Abort String := do
  Formatter.formatTtlv utcTime categoryMessage (← vectorOf ttlv)

/-- The `try` block of `log_debug`; a text that cannot be made is thrown over the call of `log`. -/
def tryLog (logger : Logger ε L) (event : String) (ttlv : List UInt8) : EStateM ε L Unit := do
  if ← logger.shouldLog .debug then
    match messageText utcTime categoryMessage ttlv with
    | .ok message => logger.log { component := "kmip.protocol", event := event, message := message }
    | .error _ => pure ()
  else pure ()

/-- `log_debug`: whatever is thrown is dropped. -/
def logDebug (l : L) (entry : String × List UInt8) : L :=
  match logger with
  | none => l
  | some logger => finalState (tryLog utcTime categoryMessage logger entry.1 entry.2 l)

/-- A part of an exchange that has nothing to do with the logger. -/
def beside {α : Type} (m : EStateM Abort σ α) : EStateM Abort (σ × L) α := fun s =>
  match m s.1 with
  | .ok a s' => .ok a (s', s.2)
  | .error e s' => .error e (s', s.2)

def record (event : String) (ttlv : List UInt8) : EStateM Abort (σ × L) Unit :=
  modify fun s => (s.1, logDebug utcTime categoryMessage logger s.2 (event, ttlv))

/-- `do_exchange` with its logger. -/
def loggedExchange (t : Transport (EStateM Abort σ)) (request : List UInt8) (maxMessageSize : Nat) :
    EStateM Abort (σ × L) (List UInt8) :=
  tryCatch
    (do
      record utcTime categoryMessage logger "request" request
      beside (t.sendAll request)
      let response ← beside (t.receiveMessage maxMessageSize)
      record utcTime categoryMessage logger "response" response
      pure response)
    fun e => beside (t.closeAndRethrow e)

/-- What a logger is given of an exchange. -/
def entries (call : Call) (received : Except Abort (List UInt8)) : List (String × List UInt8) :=
  ("request", call.request) ::
    match received with
    | .ok response => [("response", response)]
    | .error _ => []

def allEntries (calls : List Call) (received : List (Except Abort (List UInt8))) : List (String × List UInt8) :=
  (List.zipWith entries calls received).flatten

/-- The logger after some entries. -/
def logAll (l : L) (entries : List (String × List UInt8)) : L :=
  entries.foldl (logDebug utcTime categoryMessage logger) l

variable {utcTime categoryMessage logger} {t : Transport (EStateM Abort σ)} {s : σ} {l : L}

theorem closeAndRethrow_throws (t : Transport (EStateM Abort σ)) (e : Abort) (s : σ) :
    ∃ e' s', t.closeAndRethrow e s = .error e' s' := by
  unfold Transport.closeAndRethrow
  split
  · cases hclose : t.close s with
    | ok _ s' => exact ⟨_, s', bind_ok hclose⟩
    | error e' s' => exact ⟨e', s', bind_error hclose⟩
  · exact ⟨e, s, rfl⟩

theorem beside_ok {α : Type} {m : EStateM Abort σ α} {a : α} {s' : σ} (h : m s = .ok a s') :
    beside m (s, l) = .ok a (s', l) := by
  unfold beside
  rw [h]

theorem beside_error {α : Type} {m : EStateM Abort σ α} {e : Abort} {s' : σ} (h : m s = .error e s') :
    beside m (s, l) = .error e (s', l) := by
  unfold beside
  rw [h]

theorem record_apply (event : String) (ttlv : List UInt8) : record utcTime categoryMessage logger event ttlv (s, l) =
    .ok () (s, logDebug utcTime categoryMessage logger l (event, ttlv)) := rfl

variable (utcTime categoryMessage logger) in
/-- How an exchange with a logger ends if it ends like this without one. -/
def withLog (l : L) (call : Call) :
    EStateM.Result Abort σ (List UInt8) → EStateM.Result Abort (σ × L) (List UInt8)
  | .ok response s => .ok response (s, logAll utcTime categoryMessage logger l (entries call (.ok response)))
  | .error e s => .error e (s, logAll utcTime categoryMessage logger l (entries call (.error e)))

/-- Over any parts of an exchange, of which the last one throws. -/
theorem logged_apply (call : Call) {send : EStateM Abort σ Unit} {receive : EStateM Abort σ (List UInt8)}
    {rethrow : Abort → EStateM Abort σ (List UInt8)} (hthrows : ∀ e s, ∃ e' s', rethrow e s = .error e' s') :
    tryCatch
        (do
          record utcTime categoryMessage logger "request" call.request
          beside send
          let response ← beside receive
          record utcTime categoryMessage logger "response" response
          pure response)
        (fun e => beside (rethrow e)) (s, l) =
      withLog utcTime categoryMessage logger l call (tryCatch (send >>= fun _ => receive) rethrow s) := by
  rw [tryCatch_apply, tryCatch_apply]
  cases hsend : send s with
  | error e s₁ =>
    obtain ⟨e', s₂, hrethrow⟩ := hthrows e s₁
    rw [bind_error hsend, bind_ok (record_apply _ _), bind_error (beside_error hsend)]
    dsimp only
    rw [beside_error hrethrow, hrethrow]
    rfl
  | ok _ s₁ =>
    cases hreceive : receive s₁ with
    | error e s₂ =>
      obtain ⟨e', s₃, hrethrow⟩ := hthrows e s₂
      rw [bind_ok hsend, hreceive, bind_ok (record_apply _ _), bind_ok (beside_ok hsend),
        bind_error (beside_error hreceive)]
      dsimp only
      rw [beside_error hrethrow, hrethrow]
      rfl
    | ok response s₂ =>
      rw [bind_ok hsend, hreceive, bind_ok (record_apply _ _), bind_ok (beside_ok hsend), bind_ok (beside_ok hreceive)]
      rfl

/-- An exchange ends as it does without the logger. -/
theorem loggedExchange_apply (call : Call) :
    loggedExchange utcTime categoryMessage logger t call.request call.maxMessageSize (s, l) =
      withLog utcTime categoryMessage logger l call (t.exchange call.request call.maxMessageSize s) :=
  logged_apply call (closeAndRethrow_throws t)

/-! ## One exchange after the other -/

theorem logAll_append (l : L) (entries entries' : List (String × List UInt8)) :
    logAll utcTime categoryMessage logger l (entries ++ entries') =
      logAll utcTime categoryMessage logger (logAll utcTime categoryMessage logger l entries) entries' :=
  List.foldl_append

theorem allEntries_cons (call : Call) (calls : List Call) (received : Except Abort (List UInt8))
    (others : List (Except Abort (List UInt8))) :
    allEntries (call :: calls) (received :: others) = entries call received ++ allEntries calls others := rfl

section Runs

variable (utcTime categoryMessage logger t)

/-- The exchanges of a client without a logger. -/
def exchanges (calls : List Call) : EStateM Abort σ (List (Except Abort (List UInt8) × σ)) :=
  attemptAll (fun call => t.exchange call.request call.maxMessageSize) calls

/-- The exchanges of a client with a logger. -/
def loggedExchanges (calls : List Call) : EStateM Abort (σ × L) (List (Except Abort (List UInt8) × (σ × L))) :=
  attemptAll (fun call => loggedExchange utcTime categoryMessage logger t call.request call.maxMessageSize) calls

/-- The ends of exchanges, with what the logger has become after each of them. -/
def withLogs (l : L) : List Call → List (Except Abort (List UInt8) × σ) → List (Except Abort (List UInt8) × (σ × L))
  | call :: calls, (received, s) :: others =>
    (received, s, logAll utcTime categoryMessage logger l (entries call received)) ::
      withLogs (logAll utcTime categoryMessage logger l (entries call received)) calls others
  | _, _ => []

end Runs

section Attempts

variable {call : Call} {m : EStateM Abort σ (List UInt8)} {m' : EStateM Abort (σ × L) (List UInt8)} {s' : σ}
  (hm : m' (s, l) = withLog utcTime categoryMessage logger l call (m s))

include hm

theorem attempt_withLog {received : Except Abort (List UInt8)} (h : attempt m s = .ok received s') :
    attempt m' (s, l) = .ok received (s', logAll utcTime categoryMessage logger l (entries call received)) := by
  unfold attempt at h ⊢
  rw [tryCatch_apply, bind_apply] at h ⊢
  rw [hm]
  cases hrun : m s with
  | ok response s₁ =>
    rw [hrun] at h
    cases h
    rfl
  | error e s₁ =>
    rw [hrun] at h
    cases e with
    | diverged => cases h
    | thrown e =>
      cases h
      rfl

end Attempts

theorem loggedExchanges_of_ok {calls : List Call} {ends : List (Except Abort (List UInt8) × σ)} {s' : σ}
    (h : exchanges t calls s = .ok ends s') :
    loggedExchanges utcTime categoryMessage logger t calls (s, l) =
      .ok (withLogs utcTime categoryMessage logger l calls ends)
        (s', logAll utcTime categoryMessage logger l (allEntries calls (ends.map (·.1)))) := by
  induction calls generalizing s l ends with
  | nil =>
    cases h
    rfl
  | cons call calls ih =>
    obtain ⟨received, s₁, hfirst, h⟩ := bind_eq_ok h
    obtain ⟨_, _, hget, h⟩ := bind_eq_ok h
    cases hget
    obtain ⟨others, s₂, hothers, h⟩ := bind_eq_ok h
    cases h
    refine (attemptAll_cons (attempt_withLog (loggedExchange_apply call) hfirst) calls).trans ?_
    refine (bind_ok (ih hothers)).trans ?_
    rw [List.map_cons, allEntries_cons, logAll_append]
    rfl

/-- Two messages that differ in secrets only: the bytes of two requests that differ in registered values or in
credentials, or the bytes of two trees with the same redaction. -/
inductive AlikeMessages : List UInt8 → List UInt8 → Prop
  | same (bytes : List UInt8) : AlikeMessages bytes bytes
  | requests {m m' : RequestMessage} {now : Int64} {data data' : Bytes} (h : SameButSecrets m m')
      (hpayloads : ∀ item ∈ m.batchItems, ∀ p ∈ item.requestPayload, Element.WellFormed p)
      (hdata : m.serialize now = .ok data.bytes) (hdata' : m'.serialize now = .ok data'.bytes) :
      AlikeMessages data.bytes data'.bytes
  | trees {e e' : Element} {cap cap' : Nat} {b b' : SerializationBuffer} {data data' : Bytes}
      (hredact : redact e = redact e') (hheight : e.height = e'.height) (hwell : Element.WellFormed e)
      (hwell' : Element.WellFormed e') (hb : e.serialize (.new cap) = .ok b) (hb' : e'.serialize (.new cap') = .ok b')
      (hdata : data.bytes = b.span) (hdata' : data'.bytes = b'.span) : AlikeMessages data.bytes data'.bytes

/-- Two exchanges with such responses, or without any. -/
inductive AlikeEnds : Except Abort (List UInt8) → Except Abort (List UInt8) → Prop
  | ok {response response' : List UInt8} (h : AlikeMessages response response') :
      AlikeEnds (.ok response) (.ok response')
  | error (e e' : Abort) : AlikeEnds (.error e) (.error e')

theorem messageText_bytes (data : Bytes) :
    messageText utcTime categoryMessage data.bytes = Formatter.formatTtlv utcTime categoryMessage data := by
  rw [messageText, vectorOf_of_lt data.size_lt, Except.ok_bind]

theorem AlikeMessages.messageText_eq {bytes bytes' : List UInt8} (h : AlikeMessages bytes bytes') :
    messageText utcTime categoryMessage bytes = messageText utcTime categoryMessage bytes' := by
  cases h with
  | same => rfl
  | requests h hpayloads hdata hdata' =>
    obtain ⟨text, htext, htext'⟩ := h.formatTtlv utcTime categoryMessage hpayloads hdata hdata'
    rw [messageText_bytes, messageText_bytes, htext, htext']
  | trees hredact hheight hwell hwell' hb hb' hdata hdata' =>
    obtain ⟨text, htext, htext'⟩ :=
      formatTtlv_congr utcTime categoryMessage hredact hheight hwell hwell' hb hb' hdata hdata'
    rw [messageText_bytes, messageText_bytes, htext, htext']

/-- The logger sees the text of a message only. -/
theorem logDebug_congr (l : L) (event : String) {bytes bytes' : List UInt8} (h : AlikeMessages bytes bytes') :
    logDebug utcTime categoryMessage logger l (event, bytes) =
      logDebug utcTime categoryMessage logger l (event, bytes') := by
  cases logger with
  | none => rfl
  | some logger => rw [logDebug, logDebug, tryLog, tryLog, h.messageText_eq]

theorem logAll_entries_congr (l : L) {call call' : Call} {received received' : Except Abort (List UInt8)}
    (hcall : AlikeMessages call.request call'.request) (hend : AlikeEnds received received') :
    logAll utcTime categoryMessage logger l (entries call received) =
      logAll utcTime categoryMessage logger l (entries call' received') := by
  cases hend with
  | ok h =>
    rw [logAll, logAll, entries, entries, List.foldl_cons, List.foldl_cons, logDebug_congr l "request" hcall]
    exact logDebug_congr _ "response" h
  | error => exact logDebug_congr l "request" hcall

section Pairs

variable {σ' : Type} {calls calls' : List Call} {ends : List (Except Abort (List UInt8) × σ)}
  {ends' : List (Except Abort (List UInt8) × σ')}
  (hcalls : List.Forall₂ (fun call call' => AlikeMessages call.request call'.request) calls calls')
  (hends : List.Forall₂ (fun a b => AlikeEnds a.1 b.1) ends ends')

include hcalls hends

/-- The logger is the same after every exchange and at the end. -/
theorem withLogs_congr (l : L) :
    (withLogs utcTime categoryMessage logger l calls ends).map (·.2.2) =
        (withLogs utcTime categoryMessage logger l calls' ends').map (·.2.2) ∧
      logAll utcTime categoryMessage logger l (allEntries calls (ends.map (·.1))) =
        logAll utcTime categoryMessage logger l (allEntries calls' (ends'.map (·.1))) := by
  induction hcalls generalizing l ends ends' with
  | nil => exact ⟨rfl, rfl⟩
  | @cons call call' calls calls' hcall _ ih =>
    cases hends with
    | nil => exact ⟨rfl, rfl⟩
    | @cons a b ends ends' hend hends =>
      obtain ⟨hlogs, hlast⟩ := ih hends (logAll utcTime categoryMessage logger l (entries call' b.1))
      constructor
      · rw [withLogs, withLogs, List.map_cons, List.map_cons, logAll_entries_congr l hcall hend, hlogs]
      · rw [List.map_cons, List.map_cons, allEntries_cons, allEntries_cons, logAll_append, logAll_append,
          logAll_entries_congr l hcall hend, hlast]

end Pairs

/-- **The log tells no secrets.** Two runs of exchanges, over any two transports, whose requests and responses differ in
secrets only leave every logger in the same state, after each of the exchanges and at the end. -/
theorem log_noninterference {σ' : Type} (utcTime : Int64 → String) (categoryMessage : Int → String)
    (logger : Option (Logger ε L)) (l : L) {t : Transport (EStateM Abort σ)} {t' : Transport (EStateM Abort σ')}
    {calls calls' : List Call} {s s₁ : σ} {s' s₁' : σ'} {ends : List (Except Abort (List UInt8) × σ)}
    {ends' : List (Except Abort (List UInt8) × σ')}
    (hcalls : List.Forall₂ (fun call call' => AlikeMessages call.request call'.request) calls calls')
    (hends : List.Forall₂ (fun a b => AlikeEnds a.1 b.1) ends ends') (hrun : exchanges t calls s = .ok ends s₁)
    (hrun' : exchanges t' calls' s' = .ok ends' s₁') :
    ∃ logged logged' l', loggedExchanges utcTime categoryMessage logger t calls (s, l) = .ok logged (s₁, l') ∧
      loggedExchanges utcTime categoryMessage logger t' calls' (s', l) = .ok logged' (s₁', l') ∧
      logged.map (·.2.2) = logged'.map (·.2.2) := by
  obtain ⟨hlogs, hlast⟩ := withLogs_congr hcalls hends l
  refine ⟨_, _, _, loggedExchanges_of_ok hrun, ?_, hlogs⟩
  rw [loggedExchanges_of_ok hrun', hlast]

end Logging

/-- A peer that takes every request at once and answers with zeros. -/
def zeroTransport : Transport (EStateM Abort Unit) where
  send data := pure data.length
  recv size := pure (size, List.replicate size 0)
  close := pure ()

theorem sendAll_zeroTransport {request : List UInt8} (h : Sendable request) :
    zeroTransport.sendAll request = pure () := by
  have hpos := List.length_pos_iff.2 h.ne_nil
  unfold Transport.sendAll
  rw [staticCastInt_of_lt h.length_lt]
  dsimp only
  rw [if_neg (by omega), Int.toNat_natCast]
  obtain ⟨n, hn⟩ := Nat.exists_eq_succ_of_ne_zero hpos.ne'
  rw [hn, Transport.sendLoop, if_pos (Nat.succ_pos n)]
  show (if (((request.drop 0).length : Nat) : Int) ≤ 0 then _ else _) = _
  rw [List.drop_zero, if_neg (by omega), sendLoop_done _ (by omega)]

theorem receiveMessage_zeroTransport : zeroTransport.receiveMessage 0 () = .ok (List.replicate 8 0) () := rfl

theorem exchange_zeroTransport {request : List UInt8} (h : Sendable request) :
    zeroTransport.exchange request 0 () = .ok (List.replicate 8 0) () := by
  rw [Transport.exchange, sendAll_zeroTransport h, tryCatch_apply, pure_bind, receiveMessage_zeroTransport]

theorem attempt_of_ok {σ : Type} {m : EStateM Abort σ (List UInt8)} {s s' : σ} {response : List UInt8}
    (h : m s = .ok response s') : attempt m s = .ok (.ok response) s' := by
  rw [attempt, tryCatch_apply, bind_ok h]
  rfl

theorem exchanges_zeroTransport {request : List UInt8} (h : Sendable request) :
    exchanges zeroTransport [⟨request, 0⟩] () = .ok [(.ok (List.replicate 8 0), ())] () :=
  (attemptAll_cons (attempt_of_ok (exchange_zeroTransport h)) []).trans rfl

/-- A logger that keeps its records. -/
def recordingLogger : Logger Unit (List LogRecord) where
  shouldLog _ := pure true
  log record := modify (· ++ [record])

theorem log_noninterference_credentials :
    ∃ data data' : Bytes, (namedRequest ⟨[117], by decide⟩ none).serialize 0 = .ok data.bytes ∧
      (namedRequest Bytes.empty (some ⟨[112, 119], by decide⟩)).serialize 0 = .ok data'.bytes ∧
      ∃ logged logged' l',
        loggedExchanges (fun _ => "") (fun _ => "") (some recordingLogger) zeroTransport [⟨data.bytes, 0⟩] ((), []) =
            .ok logged ((), l') ∧
          loggedExchanges (fun _ => "") (fun _ => "") (some recordingLogger) zeroTransport [⟨data'.bytes, 0⟩] ((), []) =
            .ok logged' ((), l') ∧
          logged.map (·.2.2) = logged'.map (·.2.2) := by
  obtain ⟨data, hd⟩ := @serialize_namedRequest ⟨[117], by decide⟩ none (by decide +kernel)
  obtain ⟨data', hd'⟩ := @serialize_namedRequest Bytes.empty (some ⟨[112, 119], by decide⟩) (by decide +kernel)
  refine ⟨data, data', hd, hd', ?_⟩
  refine log_noninterference _ _ _ _ (.cons ?_ .nil) (.cons (.ok (.same _)) .nil)
    (exchanges_zeroTransport (sendable_of_serialize hd)) (exchanges_zeroTransport (sendable_of_serialize hd'))
  exact .requests (sameButSecrets_namedRequest _ _ _ _) (wellFormed_namedRequest _ _) hd hd'

end Kmip.Client.IOUtils
