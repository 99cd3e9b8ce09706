import Kmip.Client.IOUtils
import Kmip.Lib.BigEndian

/-!
# Rules for an exchange

What each part of `doExchange` does, from the operations of the transport up, for every environment:

- `At c p w r` is the transport in the middle of connection `c`, `Ready b c p w r` the transport before its next
  operation on it, and `Thrown` and `Refused` are the two ways to fail;
- the loops send the whole request and read as many bytes as they were asked for (`send_triple`, `readExact_triple`);
- the signed length that is checked stands for the length field of the message (`refused_iff`);
- an exchange sends its request and receives the next message of the connection, or it fails and has closed the
  transport (`doExchange_triple`).
-/

namespace Kmip.Client.IOUtils

open Hoare

variable {env : Environment}

/-- No operation of the transport fails. -/
def Environment.Smooth (env : Environment) : Prop := ∀ n, ∃ k, env.schedule n = .chunk k

/-- The transport is connected, and where it is on the connection. -/
structure At (c p : Nat) (w r : List UInt8) (s : State) : Prop where
  connected : s.connected = true
  connection : s.connection = c
  position : s.position = p
  sent : s.sent = w
  responseBytes : s.responseBytes = r

/-- The next operation is on connection `c`, which may have to be opened first. -/
structure Ready (b c p : Nat) (w r : List UInt8) (s : State) : Prop where
  opened : s.connected = true → At c p w r s
  closed : s.connected = false → s.connection + 1 = c ∧ p = 0 ∧ w = []
  connection : b ≤ s.connection
  responseBytes : s.responseBytes = r

/-- The transport has failed, on connection `b` or a later one. -/
structure Broken (env : Environment) (b : Nat) (r : List UInt8) (s : State) : Prop where
  not_smooth : ¬env.Smooth
  connection : b ≤ s.connection
  responseBytes : s.responseBytes = r

/-- The transport has thrown. -/
def Thrown (env : Environment) (b : Nat) (r : List UInt8) (e : Abort) (s : State) : Prop :=
  (∃ message, e = failure kmipIoFailure message) ∧ Broken env b r s

section Transport

variable {b c p : Nat} {w r : List UInt8}

theorem At.ready {s : State} (h : At c p w r s) (hb : b ≤ c) : Ready b c p w r s := by
  refine ⟨fun _ => h, fun hclosed => ?_, ?_, h.responseBytes⟩
  · rw [h.connected] at hclosed
    cases hclosed
  · rw [h.connection]
    exact hb

/-- An operation counts, and changes nothing else. It fails only when the environment is not smooth. -/
theorem operate_triple {P : State → Prop} (hP : ∀ s n, P s → P { s with operations := n }) :
    Triple P (operate env) (fun outcome s => P s ∧ ((∃ k, outcome = .chunk k) ∨ ¬env.Smooth)) (fun _ _ => False) := by
  constructor
  intro s hs
  refine ⟨hP s _ hs, ?_⟩
  by_cases hsmooth : env.Smooth
  · exact .inl (hsmooth s.operations)
  · exact .inr hsmooth

theorem Ready.broken {s : State} (h : Ready b c p w r s) (hs : ¬env.Smooth) : Broken env b r s :=
  ⟨hs, h.connection, h.responseBytes⟩

/-- Opening a connection. -/
theorem connect_triple :
    Triple (fun s => s.connected = false ∧ Ready b c p w r s) (connect env)
      (fun ok s => if ok then At c p w r s else Broken env b r s) (Thrown env b r) := by
  unfold connect
  refine triple_bind ((operate_triple ?_).conseq (fun _ h => h) (fun _ _ h => h) (fun _ _ h => h.elim)) ?_
  · rintro s n ⟨hclosed, hready⟩
    refine ⟨hclosed, fun h => ?_, hready.closed, hready.connection, hready.responseBytes⟩
    have hopen : s.connected = true := h
    rw [hclosed] at hopen
    cases hopen
  · intro outcome
    cases outcome with
    | chunk k =>
      refine triple_bind (triple_modify (Q := fun _ s => At c p w r s) ?_) fun _ => triple_pure fun _ h => h
      rintro s ⟨⟨hclosed, hready⟩, -⟩
      obtain ⟨hc, rfl, rfl⟩ := hready.closed hclosed
      exact ⟨rfl, hc, rfl, rfl, hready.responseBytes⟩
    | fails n =>
      refine triple_pure ?_
      rintro s ⟨⟨-, hready⟩, ⟨k, hk⟩ | hs⟩
      · cases hk
      · exact hready.broken hs
    | throws message =>
      refine triple_throw ?_
      rintro s ⟨⟨-, hready⟩, ⟨k, hk⟩ | hs⟩
      · cases hk
      · exact ⟨⟨_, rfl⟩, hready.broken hs⟩

theorem checkConnected_triple :
    Triple (Ready b c p w r) (checkConnected env) (fun ok s => if ok then At c p w r s else Broken env b r s)
      (Thrown env b r) := by
  constructor
  intro s hready
  unfold checkConnected
  by_cases hs : s.connected
  · rw [if_pos hs]
    exact hready.opened hs
  · rw [if_neg hs]
    exact connect_triple.run s ⟨Bool.eq_false_iff.2 hs, hready⟩

/-- An operation on an open connection. -/
theorem operate_at_triple :
    Triple (At c p w r) (operate env) (fun outcome s => At c p w r s ∧ ((∃ k, outcome = .chunk k) ∨ ¬env.Smooth))
      (Thrown env b r) :=
  (operate_triple fun _ _ h => ⟨h.connected, h.connection, h.position, h.sent, h.responseBytes⟩).conseq (fun _ h => h)
    (fun _ _ h => h) (fun _ _ h => h.elim)

/-- `send` on the transport accepts a positive number of bytes, or it has failed. -/
theorem netSend_triple (hb : b ≤ c) {data : List UInt8} (hdata : data ≠ []) :
    Triple (Ready b c p w r) (netSend env data)
      (fun sent s => (∃ n, 0 < n ∧ n ≤ data.length ∧ sent = n ∧ At c p (w ++ data.take n) r s) ∨
        (sent ≤ 0 ∧ Broken env b r s)) (Thrown env b r) := by
  unfold netSend
  refine triple_bind checkConnected_triple ?_
  intro ok
  cases ok with
  | false => exact triple_pure fun s hs => .inr ⟨by decide, hs⟩
  | true =>
    refine triple_bind operate_at_triple ?_
    intro outcome
    cases outcome with
    | chunk k =>
      have hlength := List.length_pos_iff.2 hdata
      refine triple_bind (triple_modify
        (Q := fun _ s => At c p (w ++ data.take (min (k + 1) data.length)) r s) ?_) fun _ => triple_pure ?_
      · rintro s ⟨hat, -⟩
        exact ⟨hat.connected, hat.connection, hat.position, by rw [← hat.sent], hat.responseBytes⟩
      · intro s hat
        exact .inl ⟨min (k + 1) data.length, by omega, by omega, rfl, hat⟩
    | fails n =>
      refine triple_pure ?_
      rintro s ⟨hat, ⟨k, hk⟩ | hs⟩
      · cases hk
      · exact .inr ⟨by omega, (hat.ready hb).broken hs⟩
    | throws message =>
      refine triple_throw ?_
      rintro s ⟨hat, ⟨k, hk⟩ | hs⟩
      · cases hk
      · exact ⟨⟨_, rfl⟩, (hat.ready hb).broken hs⟩

/-- `recv` on the transport delivers the next bytes of the stream, a positive number of them, or it has failed. -/
theorem netRecv_triple (hb : b ≤ c) {size : Nat} (hsize : 0 < size) :
    Triple (At c p w r) (netRecv env size)
      (fun received s =>
        (∃ n, 0 < n ∧ n ≤ size ∧ received = ((n : Int), window (env.peer c) p n) ∧ At c (p + n) w r s) ∨
          (received.1 ≤ 0 ∧ Broken env b r s)) (Thrown env b r) := by
  unfold netRecv
  refine triple_bind (checkConnected_triple.conseq (fun _ h => h.ready hb) (fun _ _ h => h) (fun _ _ h => h)) ?_
  intro ok
  cases ok with
  | false => exact triple_pure fun s hs => .inr ⟨by decide, hs⟩
  | true =>
    refine triple_bind operate_at_triple ?_
    intro outcome
    cases outcome with
    | chunk k =>
      constructor
      rintro s ⟨hat, -⟩
      refine .inl ⟨min (k + 1) size, by omega, by omega, ?_, ?_⟩
      · rw [← hat.connection, ← hat.position]
      · exact ⟨hat.connected, hat.connection, by rw [← hat.position], hat.sent, hat.responseBytes⟩
    | fails n =>
      refine triple_pure ?_
      rintro s ⟨hat, ⟨k, hk⟩ | hs⟩
      · cases hk
      · exact .inr ⟨by show (-(n : Int)) ≤ 0; omega, (hat.ready hb).broken hs⟩
    | throws message =>
      refine triple_throw ?_
      rintro s ⟨hat, ⟨k, hk⟩ | hs⟩
      · cases hk
      · exact ⟨⟨_, rfl⟩, (hat.ready hb).broken hs⟩

end Transport

/-! ## The loops -/

section Loops

variable {b c p : Nat} {w r : List UInt8}

/-- A request that `send` sends: not empty, and its size is an `int`. -/
structure Sendable (request : List UInt8) : Prop where
  ne_nil : request ≠ []
  length_lt : request.length < 2 ^ 31

theorem staticCastInt_of_lt {size : Nat} (h : size < 2 ^ 31) : staticCastInt size = size := by
  unfold staticCastInt
  apply Int.bmod_eq_of_le <;> omega

/-- The loop of `send` ends when everything was sent. -/
theorem sendLoop_done {m : Type → Type} [Monad m] [MonadExceptOf Abort m] (t : Transport m) {request : List UInt8}
    {dlen totalSent : Nat} (h : dlen ≤ totalSent) (fuel : Nat) : t.sendLoop request dlen fuel totalSent = pure () := by
  cases fuel <;> exact if_neg (by omega)

/-- The loop of `send` sends the rest of the request. -/
theorem sendLoop_triple (hb : b ≤ c) (request : List UInt8) : ∀ (fuel totalSent : Nat) (w : List UInt8),
    totalSent < request.length → request.length ≤ fuel + totalSent →
      Triple (Ready b c p w r) (env.transport.sendLoop request request.length fuel totalSent)
        (fun _ s => At c p (w ++ request.drop totalSent) r s) (Thrown env b r)
  | 0, totalSent, w, hlt, hfuel => absurd hfuel (by omega)
  | fuel + 1, totalSent, w, hlt, hfuel => by
    unfold Transport.sendLoop
    refine triple_ite (fun _ => ?_) fun h => absurd hlt h
    have hdata : request.drop totalSent ≠ [] := by
      rw [Ne, List.drop_eq_nil_iff]
      omega
    refine triple_bind (netSend_triple hb hdata) ?_
    intro sent
    refine triple_ite (fun hsent => triple_throw ?_) fun hsent => ?_
    · rintro s (⟨n, hn, -, rfl, -⟩ | ⟨-, hbroken⟩)
      · omega
      · exact ⟨⟨_, rfl⟩, hbroken⟩
    · constructor
      rintro s (⟨n, hn, hle, rfl, hat⟩ | ⟨hle, -⟩)
      · rw [List.length_drop] at hle
        have hrest : w ++ request.drop totalSent =
            w ++ (request.drop totalSent).take n ++ request.drop (totalSent + n) := by
          rw [List.append_assoc, ← List.drop_drop, List.take_append_drop]
        rw [hrest]
        by_cases hmore : totalSent + n < request.length
        · exact (sendLoop_triple hb request fuel (totalSent + n) _ hmore (by omega)).run s (hat.ready hb)
        · -- the whole request was sent
          have hdone : request.drop (totalSent + n) = [] := List.drop_eq_nil_iff.2 (by omega)
          rw [hdone, List.append_nil, sendLoop_done _ (by omega)]
          exact hat
      · exact absurd hle hsent

theorem send_triple (hb : b ≤ c) {request : List UInt8} (hrequest : Sendable request) :
    Triple (Ready b c p w r) (env.transport.sendAll request) (fun _ s => At c p (w ++ request) r s)
      (Thrown env b r) := by
  have hpos := List.length_pos_iff.2 hrequest.ne_nil
  unfold Transport.sendAll
  rw [staticCastInt_of_lt hrequest.length_lt]
  refine triple_ite (fun h => absurd h (by omega)) fun _ => ?_
  exact sendLoop_triple hb request request.length 0 w hpos (by omega)

theorem readLoop_done {n : Nat} {buf : List UInt8} (h : n ≤ buf.length) (fuel : Nat) :
    env.transport.readLoop n fuel buf = pure buf := by
  cases fuel <;> exact if_neg (by omega)

/-- The loop of `read_exact` reads on until it has `n` bytes. -/
theorem readLoop_triple (hb : b ≤ c) (n : Nat) : ∀ (fuel : Nat) (buf : List UInt8) (p : Nat),
    buf.length ≤ n → n ≤ fuel + buf.length →
      Triple (At c p w r) (env.transport.readLoop n fuel buf)
        (fun x s => x = buf ++ window (env.peer c) p (n - buf.length) ∧ At c (p + (n - buf.length)) w r s)
        (Thrown env b r)
  | 0, buf, p, hle, hfuel => by
    rw [readLoop_done (by omega), show n - buf.length = 0 by omega, window_zero, List.append_nil]
    exact triple_pure fun s hs => ⟨rfl, hs⟩
  | fuel + 1, buf, p, hle, hfuel => by
    unfold Transport.readLoop
    refine triple_ite (fun hlt => ?_) fun hge => ?_
    · refine triple_bind (netRecv_triple hb (Nat.sub_pos_of_lt hlt)) ?_
      rintro ⟨received, bytes⟩
      refine triple_ite (fun hreceived => triple_throw ?_) fun hreceived => ?_
      · rintro s (⟨m, hm, -, hx, -⟩ | ⟨-, hbroken⟩)
        · cases hx
          omega
        · exact ⟨⟨_, rfl⟩, hbroken⟩
      · constructor
        rintro s (⟨m, hm, hmle, hx, hat⟩ | ⟨hx, -⟩)
        · cases hx
          have hlength : (buf ++ window (env.peer c) p m).length = buf.length + m := by simp
          have hrest : n - buf.length = m + (n - (buf.length + m)) := by omega
          have hloop := readLoop_triple hb n fuel (buf ++ window (env.peer c) p m) (p + m) (by omega) (by omega)
          rw [hlength] at hloop
          rw [hrest, ← window_append, ← List.append_assoc, ← Nat.add_assoc]
          exact hloop.run s hat
        · exact absurd hx hreceived
    · rw [show n - buf.length = 0 by omega, window_zero, List.append_nil]
      exact triple_pure fun s hs => ⟨rfl, hs⟩

theorem readExact_triple (hb : b ≤ c) (n : Nat) :
    Triple (At c p w r) (env.transport.readExact n) (fun x s => x = window (env.peer c) p n ∧ At c (p + n) w r s)
      (Thrown env b r) :=
  readLoop_triple hb n n [] p (Nat.zero_le n) (Nat.le_refl n)

end Loops

/-! ## The length of a message -/

/-- The length field of the message at position `p` of a stream, bytes 4 to 7. -/
def lengthField (stream : Nat → UInt8) (p : Nat) : Nat := BigEndian.value (window stream (p + 4) 4)

theorem toNat_headerLength (stream : Nat → UInt8) (p : Nat) :
    (headerLength (window stream p kmipMsgLengthBytes)).toUInt32.toNat = lengthField stream p :=
  BigEndian.toNat_or32 (stream (p + 4)) (stream (p + 5)) (stream (p + 6)) (stream (p + 7))

theorem effectiveLimit_lt (maxMessageSize : Nat) : effectiveLimit maxMessageSize < 2 ^ 31 :=
  calc effectiveLimit maxMessageSize ≤ kmipMaxMessageHardLimit := Nat.min_le_right _ _
    _ < 2 ^ 31 := by decide

/-- The signed length that `receive_message` checks. A negative one is a field of at least 2³¹. -/
theorem toInt_headerLength (stream : Nat → UInt8) (p : Nat) :
    (headerLength (window stream p kmipMsgLengthBytes)).toInt =
      if 2 * lengthField stream p < 2 ^ 32 then (lengthField stream p : Int) else lengthField stream p - 2 ^ 32 := by
  rw [← toNat_headerLength]
  exact BitVec.toInt_eq_toNat_cond _

/-- The check refuses exactly the fields above the limit. -/
theorem refused_iff (stream : Nat → UInt8) (p maxMessageSize : Nat) :
    (headerLength (window stream p kmipMsgLengthBytes) < 0 ∨
      (headerLength (window stream p kmipMsgLengthBytes)).toInt.toNat > effectiveLimit maxMessageSize) ↔
      effectiveLimit maxMessageSize < lengthField stream p := by
  have hlimit := effectiveLimit_lt maxMessageSize
  have hfield : lengthField stream p < 2 ^ 32 := by
    rw [← toNat_headerLength]
    exact UInt32.toNat_lt _
  rw [Int32.lt_iff_toInt_lt, toInt_headerLength, Int32.toInt_zero]
  split <;> omega

theorem toNat_headerLength_of_le {stream : Nat → UInt8} {p maxMessageSize : Nat}
    (h : lengthField stream p ≤ effectiveLimit maxMessageSize) :
    (headerLength (window stream p kmipMsgLengthBytes)).toInt.toNat = lengthField stream p := by
  have hlimit := effectiveLimit_lt maxMessageSize
  rw [toInt_headerLength, if_pos (by omega)]
  exact Int.toNat_natCast _

/-! ## One exchange -/

section Exchange

variable {b c p : Nat} {w r : List UInt8}

/-- The size of the message at position `p` of a stream, with its header. -/
def messageSize (stream : Nat → UInt8) (p : Nat) : Nat := kmipMsgLengthBytes + lengthField stream p

/-- The message at position `p` of connection `c` is refused. -/
structure Refused (env : Environment) (c p maxMessageSize : Nat) (r : List UInt8) (e : Abort) (s : State) : Prop where
  exception : e = tooLong (headerLength (window (env.peer c) p kmipMsgLengthBytes)) maxMessageSize
  length : effectiveLimit maxMessageSize < lengthField (env.peer c) p
  connection : s.connection = c
  responseBytes : s.responseBytes = r

/-- `receive_message` reads the next message of the stream, unless its length is refused. -/
theorem receiveMessage_triple (hb : b ≤ c) (maxMessageSize : Nat) :
    Triple (At c p w r) (env.transport.receiveMessage maxMessageSize)
      (fun x s => lengthField (env.peer c) p ≤ effectiveLimit maxMessageSize ∧
        x = window (env.peer c) p (messageSize (env.peer c) p) ∧ At c (p + messageSize (env.peer c) p) w r s)
      (fun e s => Thrown env b r e s ∨ Refused env c p maxMessageSize r e s) := by
  unfold Transport.receiveMessage
  refine triple_bind ((readExact_triple hb kmipMsgLengthBytes).conseq (fun _ h => h) (fun _ _ h => h)
    fun _ _ h => .inl h) ?_
  intro header
  refine triple_ite (fun hlong => triple_throw ?_) fun hlong => ?_
  · rintro s ⟨rfl, hat⟩
    exact .inr ⟨rfl, (refused_iff _ _ _).1 hlong, hat.connection, hat.responseBytes⟩
  · refine triple_of_pre (fun _ h => h.1) ?_
    rintro rfl
    have hle := Nat.le_of_not_lt fun h => hlong ((refused_iff _ _ _).2 h)
    rw [toNat_headerLength_of_le hle]
    refine triple_bind ((readExact_triple hb (lengthField (env.peer c) p)).conseq (fun _ h => h.2) (fun _ _ h => h)
      fun _ _ h => .inl h) ?_
    intro rest
    refine triple_pure ?_
    rintro s ⟨rfl, hat⟩
    rw [window_append]
    exact ⟨hle, rfl, by rwa [messageSize, ← Nat.add_assoc]⟩

/-- An exchange that fails has closed the transport. -/
structure Failed (env : Environment) (b c p maxMessageSize : Nat) (r : List UInt8) (e : Abort) (s : State) : Prop where
  closed : s.connected = false
  cause : Thrown env b r e s ∨ Refused env c p maxMessageSize r e s

/-- The handler does not return. -/
theorem closeAndRethrow_triple {Q : List UInt8 → State → Prop} (maxMessageSize : Nat) (e : Abort) :
    Triple (fun s => Thrown env b r e s ∨ Refused env c p maxMessageSize r e s) (env.transport.closeAndRethrow e) Q
      (Failed env b c p maxMessageSize r) := by
  constructor
  rintro s (⟨⟨message, rfl⟩, hbroken⟩ | ⟨rfl, hlength, hconnection, hresponse⟩)
  · exact ⟨rfl, .inl ⟨⟨message, rfl⟩, hbroken.not_smooth, hbroken.connection, hbroken.responseBytes⟩⟩
  · exact ⟨rfl, .inr ⟨rfl, hlength, hconnection, hresponse⟩⟩

/-- An exchange sends its request and receives the next message of the connection, or it fails. -/
theorem doExchange_triple (hb : b ≤ c) {request : List UInt8} (hrequest : Sendable request) (maxMessageSize : Nat) :
    Triple (Ready b c p w r) (doExchange env request maxMessageSize)
      (fun _ s => lengthField (env.peer c) p ≤ effectiveLimit maxMessageSize ∧
        At c (p + messageSize (env.peer c) p) (w ++ request) (window (env.peer c) p (messageSize (env.peer c) p)) s)
      (Failed env b c p maxMessageSize r) := by
  unfold doExchange
  have hsend : Triple (Ready b c p w r) (env.transport.sendAll request) (fun _ s => At c p (w ++ request) r s)
      fun e s => Thrown env b r e s ∨ Refused env c p maxMessageSize r e s :=
    (send_triple hb hrequest).conseq (fun _ h => h) (fun _ _ h => h) fun _ _ h => .inl h
  refine triple_bind (triple_tryCatch (triple_bind hsend fun _ => receiveMessage_triple hb maxMessageSize)
    (closeAndRethrow_triple maxMessageSize)) fun response => triple_modify ?_
  rintro s ⟨hle, rfl, hat⟩
  exact ⟨hle, hat.connected, hat.connection, hat.position, hat.sent, rfl⟩

end Exchange

end Kmip.Client.IOUtils
