import ScionEcho.Proofs.Fallible
import ScionEcho.Proofs.Responder.Dispatch
import ScionEcho.Responder.Server

/-!
# Serving datagram after datagram

A responder is called again and again, and whatever arrives, no call stops it. What has been sent by
any point, the number of replies that the responder counts, and what each call returns are
determined by what has come in.
-/

namespace ScionEcho.Responder

/-! ### The strict server -/

/-- What would stop a responder that serves a datagram. -/
inductive Stop
  | dispatching (escape : Escape)
  /-- A reply that was sent cannot be read. -/
  | unreadable (fault : Wire.Fault)
  /-- The payload of a reply has no record. -/
  | noRecord
  /-- The record of a reply has no id. -/
  | noId

/-- The id in a reply, which has to be there. -/
def readId (reply : Bytes) : Except Stop Int :=
  match Wire.packetAt reply with
  | .error fault => .error (.unreadable fault)
  | .ok packet =>
    match packet.payload with
    | .raw _ => .error .noRecord
    | .scmp _ (.echo id _) => .ok id
    | .scmp .. => .error .noId

section

variable {m : Type → Type} [Monad m]

/-- Sends a reply, and takes it for granted neither that it is a packet nor that it holds an id. -/
def sendStrictly (k : Listening m) (r : Responder) (reply : Bytes) (sender : Sender) :
    ExceptT Stop m (Responder × Except OsError (Option Int)) := do
  match ← ExceptT.lift (k.send reply sender).run with
  | .error cause => return (r, .error cause)
  | .ok () =>
    let sent := { r with repliesSent := r.repliesSent + 1 }
    let replied ← ExceptT.mk (pure (readId reply))
    ExceptT.lift (report k .debug s!"Echo reply id={Run.idText replied} sent to {sender.text}")
    return (sent, .ok (some replied))

/-- Serves one datagram, and takes it for granted neither that it is answered without a fault nor
that the answer can be read. -/
def serveStrictly (k : Listening m) (r : Responder) (timeout : Option Float) :
    ExceptT Stop m (Responder × Except OsError (Option Int)) := do
  ExceptT.lift (k.setTimeout timeout)
  match ← ExceptT.lift (k.receive r.recvBuffer).run with
  | .error cause => return (r, .error cause)
  | .ok none => return (r, .ok none)
  | .ok (some (data, sender)) =>
    let (reply, records) ← ExceptT.mk (pure ((dispatchStrictly data).mapError .dispatching))
    ExceptT.lift (records.forM k.log)
    match reply with
    | none => return (r, .ok none)
    | some reply => sendStrictly k r reply sender

end

/-! ### What a datagram is answered with -/

/-- What a datagram is answered with, whatever becomes of the reports. -/
def answered? (data : Bytes) : Option Bytes := ((dispatch keep data).run []).1

/-- A datagram is reported, or answered. Then the id of the request is the one that the reply is
read with. -/
lemma answered_cases (data : Bytes) :
    (∃ ignored, answer data = .error ignored ∧ answered? data = none ∧
      dispatchStrictly data = .ok (none, [ignored.record])) ∨
    ∃ request reply sent id, answer data = .ok reply ∧ answered? data = some reply ∧
      dispatchStrictly data = .ok (some reply, []) ∧
      Packet.decode data = .ok request ∧ request.echoId? = some id ∧
      Packet.decode reply = .ok sent ∧ sent.echoId? = some id ∧ readId reply = .ok id := by
  rcases answer_cases data with ⟨ignored, hanswer, -, hstrict⟩ |
    ⟨p, reply, hanswer, hanswerable, hstrict, hdecode, hreply, -⟩
  · refine .inl ⟨ignored, hanswer, ?_, hstrict⟩
    rw [answered?, dispatch_of_answer_error hanswer]
  · have hecho := ((answerable_iff (Wire.packetForm_of_decode hdecode)).mp hanswerable).1
    obtain ⟨-, -, head, id, seq, -, hpayload⟩ := Packet.isEchoRequest_iff.mp hecho
    have hsent : p.reply.payload = .scmp head (.echo id seq) := hpayload
    refine .inr ⟨p, reply, p.reply, id, hanswer, ?_, hstrict, hdecode, ?_, hreply, ?_, ?_⟩
    · rw [answered?, dispatch_of_answer_ok hanswer]
    · rw [Packet.echoId?, hpayload]
    · rw [Packet.echoId?, hsent]
    · rw [readId, Wire.packetAt_eq, hreply, mapError_ok]
      dsimp only
      rw [hsent]

/-! ### One call -/

section

variable {σ : Type} (k : Listening (StateM σ)) (r : Responder)

/-- A reply that holds an id is sent by the strict server as by the server. -/
lemma execute_sendStrictly {reply : Bytes} {id : Int} (hread : readId reply = .ok id)
    (hreplyId : replyId? reply = some id) (sender : Sender) (st : σ) :
    execute (sendStrictly k r reply sender) st =
      (.ok ((sendReply k r reply sender).run st).1, ((sendReply k r reply sender).run st).2) := by
  rcases hsend : execute (k.send reply sender) st with ⟨outcome, st'⟩
  rw [sendStrictly, sendReply, run_bind_of_eq hsend, execute_bind_of_ok (execute_lift_run _ _),
    hsend]
  cases outcome with
  | error cause => rfl
  | ok value =>
    dsimp only
    rw [hread, hreplyId]
    rfl

/-- Nothing stops a call: the strict server does what the server does, whatever the operating system
does. -/
lemma execute_serveStrictly (timeout : Option Float) (st : σ) :
    execute (serveStrictly k r timeout) st =
      (.ok ((serveOnce k r timeout).run st).1, ((serveOnce k r timeout).run st).2) := by
  rcases hset : (k.setTimeout timeout).run st with ⟨⟨⟩, st'⟩
  rw [serveStrictly, serveOnce, run_bind_of_eq hset, execute_bind_of_ok (execute_lift _ _), hset]
  rcases hreceive : execute (k.receive r.recvBuffer) st' with ⟨received, st''⟩
  rw [run_bind_of_eq hreceive, execute_bind_of_ok (execute_lift_run _ _), hreceive]
  match received with
  | .error cause => rfl
  | .ok none => rfl
  | .ok (some (data, sender)) =>
    dsimp only
    rcases answered_cases data with ⟨ignored, hanswer, -, hstrict⟩ |
      ⟨request, reply, sent, id, hanswer, -, hstrict, -, -, hsent, hsentId, hread⟩
    · rw [hstrict, dispatch, hanswer]
      rfl
    · have hreplyId : replyId? reply = some id := by rw [replyId?, hsent, ← hsentId]
      rw [hstrict, dispatch, hanswer]
      exact execute_sendStrictly k r hread hreplyId sender st''

end

/-- What comes in during a call. -/
inductive Incoming
  /-- Nothing comes in time. -/
  | silence
  /-- A datagram comes from an address, and sending to that address goes as told. -/
  | datagram (data : Bytes) (sender : Sender) (sending : Except OsError Unit)

structure Call where
  timeout : Option Float
  incoming : Incoming

/-- What has gone out of a socket, and what has been reported. -/
structure Port where
  sent : List (Bytes × Sender) := []
  records : List LogRecord := []

namespace Incoming

/-- The first bytes of what comes in, as many as there is room for. -/
def taken (room : Int) : Incoming → Option (Bytes × Sender)
  | .silence => none
  | .datagram data sender _ => some (data.take room.toNat, sender)

def sending : Incoming → Except OsError Unit
  | .silence => .ok ()
  | .datagram _ _ sending => sending

/-- What is sent for what comes in. -/
def delivery? (room : Nat) : Incoming → Option (Bytes × Sender)
  | .datagram data sender (.ok ()) => (answered? (data.take room)).map (·, sender)
  | _ => none

end Incoming

namespace Port

def deliver (incoming : Incoming) (reply : Bytes) (sender : Sender) (p : Port) :
    Except OsError Unit × Port :=
  match incoming.sending with
  | .ok () => (.ok (), { p with sent := p.sent ++ [(reply, sender)] })
  | .error cause => (.error cause, p)

/-- The socket during a call. -/
def socket (incoming : Incoming) : Listening (StateM Port) where
  create _ := pure ()
  bind _ := pure ()
  localPort := pure 0
  setTimeout _ := pure ()
  receive room := pure (incoming.taken room)
  send reply sender := ExceptT.mk (modifyGet (deliver incoming reply sender))
  close := pure ()
  cancelled := pure false
  log record := modify fun p => { p with records := p.records ++ [record] }

end Port

/-- What a call returns for what comes in, with so much room for a datagram. -/
inductive Returns (room : Nat) : Incoming → Except OsError (Option Int) → Prop
  | silence : Returns room .silence (.ok none)
  /-- The datagram has no answer. -/
  | ignored {data : Bytes} {sender : Sender} {sending : Except OsError Unit}
      (hanswered : answered? (data.take room) = none) :
      Returns room (.datagram data sender sending) (.ok none)
  /-- The answer cannot be sent. -/
  | unsent {data reply : Bytes} {sender : Sender} {cause : OsError}
      (hanswered : answered? (data.take room) = some reply) :
      Returns room (.datagram data sender (.error cause)) (.error cause)
  /-- The answer is sent. Request and answer have the id that is returned. -/
  | answered {data reply : Bytes} {sender : Sender} {request sent : Packet} {id : Int}
      (hanswered : answered? (data.take room) = some reply)
      (hrequest : Packet.decode (data.take room) = .ok request)
      (hrequestId : request.echoId? = some id)
      (hsent : Packet.decode reply = .ok sent) (hsentId : sent.echoId? = some id) :
      Returns room (.datagram data sender (.ok ())) (.ok (some id))

/-- Where sending works, a call returns. -/
lemma Returns.exists_of_sending {room : Nat} {incoming : Incoming}
    {returned : Except OsError (Option Int)} (h : Returns room incoming returned)
    (hsending : incoming.sending = .ok ()) : ∃ id?, returned = .ok id? := by
  cases h with
  | silence => exact ⟨none, rfl⟩
  | ignored => exact ⟨none, rfl⟩
  | unsent => cases hsending
  | answered => exact ⟨_, rfl⟩

/-- A responder whose calls have sent what its socket says, with so much room for a datagram. -/
def counting (src : Endpoint) (room : Nat) (p : Port) : Responder := ⟨src, room, p.sent.length⟩

section

variable (src : Endpoint) (room : Nat)

/-- A datagram that comes is dispatched as far as there is room for it. -/
lemma run_serveOnce_datagram (timeout : Option Float) (data : Bytes) (sender : Sender)
    (sending : Except OsError Unit) (p : Port) :
    let socket := Port.socket (.datagram data sender sending)
    let r := counting src room p
    (serveOnce socket r timeout).run p =
      (dispatch socket.log (data.take room) >>= fun reply? =>
        match reply? with
        | none => pure (r, .ok none)
        | some reply => sendReply socket r reply sender).run p := rfl

/-- A reply that goes out is counted, and its id returned. -/
lemma exists_sendReply (p : Port) {reply : Bytes} {id : Int} (hreplyId : replyId? reply = some id)
    (data : Bytes) (sender : Sender) :
    ∃ p', (sendReply (Port.socket (.datagram data sender (.ok ()))) (counting src room p) reply
        sender).run p = ((counting src room p', .ok (some id)), p') ∧
      p'.sent = p.sent ++ [(reply, sender)] := by
  have hrun : ∃ records,
      (sendReply (Port.socket (.datagram data sender (.ok ()))) (counting src room p) reply
        sender).run p =
        ((⟨src, room, p.sent.length + 1⟩, .ok (some id)),
          ⟨p.sent ++ [(reply, sender)], records⟩) := by
    rw [sendReply, hreplyId]
    exact ⟨_, rfl⟩
  obtain ⟨records, hrun⟩ := hrun
  refine ⟨⟨_, records⟩, ?_, rfl⟩
  rw [hrun, counting, List.length_append, List.length_singleton]

/-- A call returns as it should, sends what is to be sent, and counts it. -/
lemma exists_serveOnce (call : Call) (p : Port) :
    ∃ p' returned,
      (serveOnce (Port.socket call.incoming) (counting src room p) call.timeout).run p =
        ((counting src room p', returned), p') ∧
      Returns room call.incoming returned ∧
      p'.sent = p.sent ++ (call.incoming.delivery? room).toList := by
  obtain ⟨timeout, incoming⟩ := call
  cases incoming with
  | silence => exact ⟨p, .ok none, rfl, .silence, by simp [Incoming.delivery?]⟩
  | datagram data sender sending =>
    rw [run_serveOnce_datagram]
    rcases answered_cases (data.take room) with ⟨ignored, hanswer, hanswered, -⟩ |
      ⟨request, reply, sent, id, hanswer, hanswered, -, hrequest, hrequestId, hsent, hsentId, -⟩
    · rw [dispatch, hanswer]
      refine ⟨{ p with records := p.records ++ [ignored.record] }, .ok none, rfl,
        .ignored hanswered, ?_⟩
      cases sending <;> simp [Incoming.delivery?, hanswered]
    · have hreplyId : replyId? reply = some id := by rw [replyId?, hsent, ← hsentId]
      rw [dispatch, hanswer]
      cases sending with
      | error cause =>
        exact ⟨p, .error cause, rfl, .unsent hanswered, by simp [Incoming.delivery?]⟩
      | ok value =>
        obtain ⟨p', hrun, hsentBy⟩ := exists_sendReply src room p hreplyId data sender
        refine ⟨p', .ok (some id), hrun, .answered hanswered hrequest hrequestId hsent hsentId, ?_⟩
        simp [hsentBy, Incoming.delivery?, hanswered]

end

/-! ### Call after call -/

/-- What a call leaves: the responder, what the call returned, and what has been sent by then. -/
structure Point where
  responder : Responder
  returned : Except OsError (Option Int)
  sent : List (Bytes × Sender)

/-- Serves call after call. -/
def serveAll : Responder → Port → List Call → List Point
  | _, _, [] => []
  | r, p, call :: calls =>
    match (serveOnce (Port.socket call.incoming) r call.timeout).run p with
    | ((r, returned), p) => ⟨r, returned, p.sent⟩ :: serveAll r p calls

/-- Serves call after call with the strict server. -/
def serveAllStrictly : Responder → Port → List Call → Except Stop (List Point)
  | _, _, [] => .ok []
  | r, p, call :: calls =>
    match execute (serveStrictly (Port.socket call.incoming) r call.timeout) p with
    | (.error stop, _) => .error stop
    | (.ok (r, returned), p) =>
      (serveAllStrictly r p calls).map (⟨r, returned, p.sent⟩ :: ·)

/-- What is sent for what comes in, call after call. -/
def deliveries (room : Nat) (calls : List Call) : List (Bytes × Sender) :=
  calls.filterMap fun call => call.incoming.delivery? room

lemma serveAllStrictly_eq (r : Responder) (p : Port) (calls : List Call) :
    serveAllStrictly r p calls = .ok (serveAll r p calls) := by
  induction calls generalizing r p with
  | nil => rfl
  | cons call calls ih =>
    rw [serveAllStrictly, serveAll, execute_serveStrictly]
    dsimp only
    rw [ih]
    rfl

section

variable (src : Endpoint) (room : Nat)

lemma deliveries_cons (call : Call) (calls : List Call) :
    deliveries room (call :: calls) =
      (call.incoming.delivery? room).toList ++ deliveries room calls := by
  rw [deliveries, List.filterMap_cons]
  cases call.incoming.delivery? room <;> rfl

/-- The points of a run, from any port on: what has been sent by a point is what had been sent
before, and what the calls up to the point were to send. -/
lemma forall_point (p : Port) (calls : List Call) :
    (serveAll (counting src room p) p calls).length = calls.length ∧
    ∀ (i : Nat) (call : Call) (point : Point), calls[i]? = some call →
      (serveAll (counting src room p) p calls)[i]? = some point →
      Returns room call.incoming point.returned ∧
      point.sent = p.sent ++ deliveries room (calls.take (i + 1)) ∧
      point.responder = ⟨src, room, point.sent.length⟩ := by
  induction calls generalizing p with
  | nil => simp [serveAll]
  | cons first calls ih =>
    obtain ⟨p', returned, hrun, hreturns, hsent⟩ := exists_serveOnce src room first p
    obtain ⟨hlength, hpoints⟩ := ih p'
    rw [serveAll, hrun]
    dsimp only
    refine ⟨by rw [List.length_cons, List.length_cons, hlength], ?_⟩
    rintro (_ | i) call point hcall hpoint
    · obtain rfl := Option.some.inj hcall
      obtain rfl := Option.some.inj hpoint
      refine ⟨hreturns, ?_, rfl⟩
      rw [List.take_succ_cons, List.take_zero, deliveries_cons]
      simp [hsent, deliveries]
    · obtain ⟨hcallReturns, hcallSent, hcount⟩ := hpoints i call point hcall hpoint
      refine ⟨hcallReturns, ?_, hcount⟩
      rw [hcallSent, hsent, List.take_succ_cons, deliveries_cons, List.append_assoc]

/-- A responder that starts with nothing sent is stopped by no datagram, however many there are and
whatever they hold. Each call returns the id of the request that it has answered, or nothing; it
fails only where its answer cannot be sent. At every point the datagrams that were sent are the
answers to what had come in by then, each to where it came from, and they are as many as the
responder counts. -/
theorem serveAll_exact (calls : List Call) :
    ∃ points, serveAllStrictly ⟨src, room, 0⟩ {} calls = .ok points ∧
      serveAll ⟨src, room, 0⟩ {} calls = points ∧ points.length = calls.length ∧
      (∀ (i : Nat) (call : Call) (point : Point), calls[i]? = some call →
        points[i]? = some point →
        Returns room call.incoming point.returned ∧
        point.sent = deliveries room (calls.take (i + 1)) ∧
        point.responder = ⟨src, room, point.sent.length⟩) ∧
      ((∀ call ∈ calls, call.incoming.sending = .ok ()) →
        ∀ point ∈ points, ∃ id?, point.returned = .ok id?) := by
  obtain ⟨hlength, hpoints⟩ := forall_point src room {} calls
  refine ⟨_, serveAllStrictly_eq _ _ _, rfl, hlength, hpoints, fun hsending point hpoint => ?_⟩
  obtain ⟨i, hget⟩ := List.mem_iff_getElem?.mp hpoint
  have hi : i < calls.length := by
    rw [← hlength]
    exact (List.getElem?_eq_some_iff.mp hget).1
  have hreturns := (hpoints i calls[i] point (List.getElem?_eq_getElem hi) hget).1
  exact hreturns.exists_of_sending (hsending _ (List.getElem_mem hi))

end

end ScionEcho.Responder
