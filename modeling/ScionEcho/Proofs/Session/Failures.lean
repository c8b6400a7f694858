import Mathlib.Tactic.Ring
import ScionEcho.Proofs.Fallible
import ScionEcho.Session.Datagram

/-!
# Failures of sessions

What a session does with the failures of the operating system. The sockets are made to keep a list
of the calls that the session makes of them; whichever of these fail, the failures of the session
can be told from the list.
-/

namespace ScionEcho

variable {σ α : Type}

/-- A call of the operating system, and what it yields. -/
inductive SocketCall
  | create (outcome : Except OsError Unit)
  | bind (address : Underlay) (outcome : Except OsError Unit)
  | connect (address : Underlay) (outcome : Except OsError Unit)
  | localPort (outcome : Except OsError Int)
  | send (data : Bytes) (outcome : Except OsError Unit)
  | awaitReadable (outcome : Except OsError Bool)
  | receive (outcome : Except OsError Bytes)
  | close

/-- Why a call failed, if it did. -/
def SocketCall.failure? : SocketCall → Option OsError
  | .create (.error cause) | .bind _ (.error cause) | .connect _ (.error cause)
  | .localPort (.error cause) | .send _ (.error cause) | .awaitReadable (.error cause)
  | .receive (.error cause) => some cause
  | _ => none

/-- A call that may fail. It is added to the list with what it yields. -/
def listed (call : Except OsError α → SocketCall) (x : ExceptT OsError (StateM σ) α) :
    ExceptT OsError (StateM (σ × List SocketCall)) α :=
  ExceptT.mk fun (st, calls) =>
    ((execute x st).1, (execute x st).2, calls ++ [call (execute x st).1])

/-- What is not added to the list. -/
def unlisted (x : StateM σ α) : StateM (σ × List SocketCall) α :=
  fun (st, calls) => ((x.run st).1, (x.run st).2, calls)

/-- The sockets, which also keep a list of the calls. Looks at the clock, at the event and at the
log are not on the list. -/
def Sockets.watched {T : Type} (k : Sockets T (StateM σ)) :
    Sockets T (StateM (σ × List SocketCall)) where
  create family := listed .create (k.create family)
  bind address := listed (.bind address) (k.bind address)
  connect address := listed (.connect address) (k.connect address)
  localPort := listed .localPort k.localPort
  send data := listed (.send data) (k.send data)
  awaitReadable wait := listed .awaitReadable (k.awaitReadable wait)
  receive size := listed .receive (k.receive size)
  close := fun (st, calls) => ((), (k.close.run st).2, calls ++ [.close])
  now := unlisted k.now
  cancelled := unlisted k.cancelled
  log record := unlisted (k.log record)

namespace DatagramSession

/-- What is asked of an open session. A wait makes at most the given number of polls. -/
inductive Request
  | send (data : Bytes)
  | receive (timeout : Option Seconds) (cancellable : Bool) (polls : Nat)
  | discard (polls : Nat)

/-- The failure of an outcome, if there is an outcome and it is one. -/
def raised? : Option (Except Failure α) → Option Failure
  | some (.error e) => some e
  | _ => none

section

variable {m : Type → Type} [Monad m]

/-- Does what is asked and yields the failure that it ends with, if it ends with one. -/
def perform (k : Sockets Float m) (s : DatagramSession) : Request → m (Option Failure)
  | .send data => do return raised? (some (← (send k s data).run))
  | .receive timeout cancellable polls =>
    match timeout.mapM Seconds.toFloat with
    | .error cause => return some (.number cause)
    | .ok timeout => do
      let interval := if cancellable then some pollInterval else none
      return raised? ((← receive k s interval timeout polls).toExcept s)
  | .discard polls => do return raised? ((← discardPending k s polls).toExcept s)

/-- Does all that is asked, whatever fails. -/
def performAll (k : Sockets Float m) (s : DatagramSession) :
    List Request → m (List (Option Failure))
  | [] => return []
  | request :: requests => do
    let failure ← perform k s request
    return failure :: (← performAll k s requests)

/-- Opens a session and does all that is asked of it. -/
def lifetime (k : Sockets Float m) (src dst : Endpoint) (recvBuffer : Int)
    (requests : List Request) : m (Except Failure (List (Option Failure))) := do
  match ← («open» k src dst recvBuffer).run with
  | .error e => return .error e
  | .ok s => return .ok (← performAll k s requests)

end

/-- No call failed. -/
def Quiet (calls : List SocketCall) : Prop := ∀ call ∈ calls, call.failure? = none

/-- The calls that a session makes while it opens, and what that leads to. -/
inductive Opens (src dst : Endpoint) :
    Except Failure DatagramSession → List SocketCall → Prop
  | uncreated {cause : OsError} : Opens src dst (.error (.os cause)) [.create (.error cause)]
  | unbound {cause : OsError} :
      Opens src dst (.error (.transport (.opening src dst cause)))
        [.create (.ok ()), .bind src.underlay (.error cause), .close]
  | unconnected {cause : OsError} :
      Opens src dst (.error (.transport (.opening src dst cause)))
        [.create (.ok ()), .bind src.underlay (.ok ()), .connect dst.underlay (.error cause), .close]
  | unnamed {cause : OsError} :
      Opens src dst (.error (.os cause)) [.create (.ok ()), .bind src.underlay (.ok ()),
        .connect dst.underlay (.ok ()), .localPort (.error cause)]
  | opened {port recvBuffer : Int} :
      Opens src dst (.ok ⟨src.withPort port, dst, recvBuffer⟩) [.create (.ok ()),
        .bind src.underlay (.ok ()), .connect dst.underlay (.ok ()), .localPort (.ok port)]

/-- The calls that a session makes for a request, and the failure that the request ends with. -/
inductive Accounts (s : DatagramSession) : Request → Option Failure → List SocketCall → Prop
  | quiet {request : Request} {calls : List SocketCall} (hquiet : Quiet calls) :
      Accounts s request none calls
  | failed {request : Request} {calls : List SocketCall} {call : SocketCall} {cause : OsError}
      {e : SessionError} (hquiet : Quiet calls) (hcall : call.failure? = some cause)
      (he : e = .writing s.dst cause ∨ e = .reading s.dst cause) :
      Accounts s request (some (.transport e)) (calls ++ [call])
  | timedOut {request : Request} {calls : List SocketCall} {limit : Float} (hquiet : Quiet calls) :
      Accounts s request (some (.timedOut limit)) calls
  | cancelled {request : Request} {calls : List SocketCall} {text : String}
      (hquiet : Quiet calls) : Accounts s request (some (.cancelled text)) calls
  | unrepresentable {timeout : Seconds} {cancellable : Bool} {polls : Nat} {cause : NumberError}
      (htimeout : timeout.toFloat = .error cause) :
      Accounts s (.receive (some timeout) cancellable polls) (some (.number cause)) []

/-- The calls that a session makes for one request after the other. -/
inductive AccountsAll (s : DatagramSession) :
    List Request → List (Option Failure) → List SocketCall → Prop
  | nil : AccountsAll s [] [] []
  | cons {request : Request} {requests : List Request} {failure : Option Failure}
      {failures : List (Option Failure)} {calls later : List SocketCall}
      (hfirst : Accounts s request failure calls) (hrest : AccountsAll s requests failures later) :
      AccountsAll s (request :: requests) (failure :: failures) (calls ++ later)

variable {k : Sockets Float (StateM σ)} {s : DatagramSession} {src dst : Endpoint}
variable {st st' : σ} {calls : List SocketCall}

/-! ### Opening -/

/-- The calls that bind and connect a new socket, and what they lead to. -/
inductive Prepares (src dst : Endpoint) : Except OsError Unit → List SocketCall → Prop
  | unbound {cause : OsError} :
      Prepares src dst (.error cause) [.create (.ok ()), .bind src.underlay (.error cause)]
  | unconnected {cause : OsError} :
      Prepares src dst (.error cause) [.create (.ok ()), .bind src.underlay (.ok ()),
        .connect dst.underlay (.error cause)]
  | prepared : Prepares src dst (.ok ()) [.create (.ok ()), .bind src.underlay (.ok ()),
      .connect dst.underlay (.ok ())]

lemma exists_prepares (k : Sockets Float (StateM σ)) (src dst : Endpoint) (st : σ) :
    ∃ prepared st' calls, execute (open.prepare k.watched src dst) (st, [.create (.ok ())]) =
      (prepared, st', calls) ∧ Prepares src dst prepared calls := by
  obtain ⟨bound, st₁, hbind⟩ : ∃ bound st₁,
      execute (k.watched.bind src.underlay) (st, [.create (.ok ())]) =
        (bound, st₁, [.create (.ok ()), .bind src.underlay bound]) := ⟨_, _, rfl⟩
  rw [open.prepare]
  cases bound with
  | error cause => exact ⟨.error cause, st₁, _, execute_bind_of_error hbind, .unbound⟩
  | ok _ =>
    obtain ⟨connected, st₂, hconnect⟩ : ∃ connected st₂,
        execute (k.watched.connect dst.underlay)
            (st₁, [.create (.ok ()), .bind src.underlay (.ok ())]) =
          (connected, st₂, [.create (.ok ()), .bind src.underlay (.ok ()),
            .connect dst.underlay connected]) := ⟨_, _, rfl⟩
    rw [execute_bind_of_ok hbind, hconnect]
    cases connected with
    | error cause => exact ⟨.error cause, st₂, _, rfl, .unconnected⟩
    | ok _ => exact ⟨.ok (), st₂, _, rfl, .prepared⟩

/-- A socket that is created is closed where it cannot be bound and connected. -/
lemma exists_opens (k : Sockets Float (StateM σ)) (src dst : Endpoint) (recvBuffer : Int) (st : σ) :
    ∃ outcome st' calls, execute («open» k.watched src dst recvBuffer) (st, []) =
      (outcome, st', calls) ∧ Opens src dst outcome calls := by
  obtain ⟨created, st₁, hcreate⟩ : ∃ created st₁,
      execute (k.watched.create (.ofHost src.host)) (st, []) = (created, st₁, [.create created]) :=
    ⟨_, _, rfl⟩
  rw [«open»]
  cases created with
  | error cause =>
    refine ⟨.error (.os cause), st₁, [.create (.error cause)], ?_, .uncreated⟩
    exact execute_bind_of_error (by rw [execute_adapt, hcreate]; rfl)
  | ok _ =>
    obtain ⟨prepared, st₂, calls, hprepare, hcalls⟩ := exists_prepares k src dst st₁
    have htried : execute (ExceptT.lift (open.prepare k.watched src dst).run :
        ExceptT Failure (StateM (σ × List SocketCall)) _) (st₁, [.create (.ok ())]) =
          (.ok prepared, st₂, calls) := by
      rw [execute_lift_run, hprepare]
    rw [execute_bind_of_ok (by rw [execute_adapt, hcreate]; rfl), execute_bind_of_ok htried]
    cases hcalls with
    | unbound => exact ⟨_, _, _, rfl, .unbound⟩
    | unconnected => exact ⟨_, _, _, rfl, .unconnected⟩
    | prepared =>
      obtain ⟨named, st₃, hname⟩ : ∃ named st₃,
          execute k.watched.localPort (st₂, [.create (.ok ()), .bind src.underlay (.ok ()),
              .connect dst.underlay (.ok ())]) =
            (named, st₃, [.create (.ok ()), .bind src.underlay (.ok ()),
              .connect dst.underlay (.ok ()), .localPort named]) := ⟨_, _, rfl⟩
      cases named with
      | error cause =>
        refine ⟨.error (.os cause), st₃, _, ?_, .unnamed⟩
        exact execute_bind_of_error (by rw [execute_adapt, hname]; rfl)
      | ok port =>
        dsimp only
        rw [execute_bind_of_ok (by rw [execute_adapt, hname]; rfl)]
        exact ⟨_, _, _, rfl, .opened⟩

/-! ### Requests -/

/-- The last call failed, and no other one did. -/
def FailsLast (cause : OsError) (calls : List SocketCall) : Prop :=
  ∃ before call, calls = before ++ [call] ∧ Quiet before ∧ call.failure? = some cause

lemma quiet_nil : Quiet [] := by simp [Quiet]

lemma Quiet.append {before after : List SocketCall} (hbefore : Quiet before)
    (hafter : Quiet after) :
    Quiet (before ++ after) := by
  intro call hcall
  rcases List.mem_append.mp hcall with hcall | hcall
  · exact hbefore call hcall
  · exact hafter call hcall

lemma quiet_singleton {call : SocketCall} (h : call.failure? = none) : Quiet [call] := by
  simpa [Quiet] using h

lemma failsLast_singleton {call : SocketCall} {cause : OsError} (h : call.failure? = some cause) :
    FailsLast cause [call] := ⟨[], call, rfl, quiet_nil, h⟩

lemma FailsLast.append {before after : List SocketCall} {cause : OsError} (hbefore : Quiet before)
    (h : FailsLast cause after) : FailsLast cause (before ++ after) := by
  obtain ⟨earlier, call, rfl, hearlier, hcall⟩ := h
  exact ⟨before ++ earlier, call, by simp, hbefore.append hearlier, hcall⟩

/-- A wait ends with a failure if a call failed. -/
def Received.FollowsFrom (calls : List SocketCall) : Received Float → Prop
  | .failed cause => FailsLast cause calls
  | _ => Quiet calls

/-- A drain ends with a failure if a call failed. -/
def Drained.FollowsFrom (calls : List SocketCall) : Drained → Prop
  | .failed cause => FailsLast cause calls
  | _ => Quiet calls

lemma Received.FollowsFrom.append {before after : List SocketCall} {ended : Received Float}
    (hbefore : Quiet before) (h : ended.FollowsFrom after) :
    ended.FollowsFrom (before ++ after) := by
  cases ended with
  | failed cause => exact FailsLast.append hbefore h
  | data bytes => exact hbefore.append h
  | timedOut timeout => exact hbefore.append h
  | cancelled => exact hbefore.append h
  | waiting => exact hbefore.append h

lemma Drained.FollowsFrom.append {before after : List SocketCall} {ended : Drained}
    (hbefore : Quiet before) (h : ended.FollowsFrom after) :
    ended.FollowsFrom (before ++ after) := by
  cases ended with
  | failed cause => exact FailsLast.append hbefore h
  | empty dropped => exact hbefore.append h
  | draining => exact hbefore.append h

/-- Nothing is called before a poll. -/
lemma exists_beforePoll (k : Sockets Float (StateM σ)) (interval : Option Float)
    (deadline : Option (Float × Float)) (st : σ) (before : List SocketCall) :
    ∃ r st', (beforePoll k.watched interval deadline).run (st, before) = (r, st', before) ∧
      ∀ ended, r = .error ended → ended.FollowsFrom [] := by
  obtain ⟨stop, st₁, hstop⟩ : ∃ stop st₁,
      (isCancelled k.watched interval).run (st, before) = (stop, st₁, before) := by
    cases interval with
    | none => exact ⟨false, st, rfl⟩
    | some interval => exact ⟨_, _, rfl⟩
  rw [beforePoll.eq_def, run_bind_of_eq hstop]
  split_ifs
  · exact ⟨_, st₁, rfl, fun ended heq => Except.error.inj heq ▸ quiet_nil⟩
  · match deadline with
    | none => exact ⟨_, st₁, rfl, nofun⟩
    | some (timeout, deadline) =>
      obtain ⟨now, st₂, hnow⟩ : ∃ now st₂,
          k.watched.now.run (st₁, before) = (now, st₂, before) := ⟨_, _, rfl⟩
      change ∃ r st', (k.watched.now >>= _).run (st₁, before) = (r, st', before) ∧ _
      rw [run_bind_of_eq hnow]
      dsimp only
      split_ifs
      · exact ⟨_, st₂, rfl, fun ended heq => Except.error.inj heq ▸ quiet_nil⟩
      · exact ⟨_, st₂, rfl, nofun⟩

lemma exists_poll (k : Sockets Float (StateM σ)) (s : DatagramSession) (wait : Option Float)
    (st : σ) (before : List SocketCall) :
    ∃ ended st' made, (poll k.watched s wait).run (st, before) = (ended, st', before ++ made) ∧
      (ended.getD .waiting).FollowsFrom made := by
  obtain ⟨readable, st₁, hreadable⟩ : ∃ readable st₁,
      (k.watched.awaitReadable wait).run.run (st, before) =
        (readable, st₁, before ++ [.awaitReadable readable]) := ⟨_, _, rfl⟩
  rw [poll, run_bind_of_eq hreadable]
  match readable with
  | .error cause => exact ⟨some (.failed cause), st₁, _, rfl, failsLast_singleton rfl⟩
  | .ok false => exact ⟨none, st₁, _, rfl, quiet_singleton rfl⟩
  | .ok true =>
    obtain ⟨received, st₂, hreceived⟩ : ∃ received st₂,
        (k.watched.receive s.recvBuffer).run.run (st₁, before ++ [.awaitReadable (.ok true)]) =
          (received, st₂, before ++ [.awaitReadable (.ok true)] ++ [.receive received]) :=
      ⟨_, _, rfl⟩
    dsimp only
    rw [run_bind_of_eq hreceived, List.append_assoc]
    have hquiet : Quiet [.awaitReadable (.ok true)] := quiet_singleton rfl
    cases received with
    | error cause =>
      exact ⟨some (.failed cause), st₂, _, rfl, FailsLast.append hquiet (failsLast_singleton rfl)⟩
    | ok bytes =>
      exact ⟨some (.data bytes), st₂, _, rfl, hquiet.append (quiet_singleton rfl)⟩

lemma exists_await (k : Sockets Float (StateM σ)) (s : DatagramSession) (interval : Option Float)
    (deadline : Option (Float × Float)) (polls : Nat) (st : σ) (before : List SocketCall) :
    ∃ ended st' made, (await k.watched s interval deadline polls).run (st, before) =
      (ended, st', before ++ made) ∧ ended.FollowsFrom made := by
  induction polls generalizing st before with
  | zero => exact ⟨.waiting, st, [], by rw [List.append_nil]; rfl, quiet_nil⟩
  | succ polls ih =>
    obtain ⟨r, st₁, hr, hended⟩ := exists_beforePoll k interval deadline st before
    rw [await, run_bind_of_eq hr]
    cases r with
    | error ended => exact ⟨ended, st₁, [], by rw [List.append_nil]; rfl, hended ended rfl⟩
    | ok wait =>
      obtain ⟨ended, st₂, made, hpoll, hmade⟩ := exists_poll k s wait st₁ before
      dsimp only
      rw [run_bind_of_eq hpoll]
      cases ended with
      | some ended => exact ⟨ended, st₂, made, rfl, hmade⟩
      | none =>
        obtain ⟨ended, st₃, later, hlater, hfollows⟩ := ih st₂ (before ++ made)
        exact ⟨ended, st₃, made ++ later, by rw [← List.append_assoc]; exact hlater,
          hfollows.append hmade⟩

/-- To drop a datagram is to poll without waiting and to forget what is found. -/
lemma drain_succ {T : Type} {m : Type → Type} [OfNat T 0] [Monad m] [LawfulMonad m]
    (k : Sockets T m) (s : DatagramSession) (polls dropped : Nat) :
    drain k s (polls + 1) dropped = poll k s (some 0) >>= fun
      | some (.failed cause) => pure (.failed cause)
      | some (.data _) => drain k s polls (dropped + 1)
      | _ => pure (.empty dropped) := by
  rw [drain, poll, bind_assoc]
  congr 1
  funext readable
  match readable with
  | .error cause => rw [pure_bind]
  | .ok false => rw [pure_bind]
  | .ok true =>
    dsimp only
    rw [bind_assoc]
    congr 1
    funext received
    cases received <;> rw [pure_bind]

lemma exists_drain (k : Sockets Float (StateM σ)) (s : DatagramSession) (polls dropped : Nat)
    (st : σ) (before : List SocketCall) :
    ∃ ended st' made, (drain k.watched s polls dropped).run (st, before) =
      (ended, st', before ++ made) ∧ ended.FollowsFrom made := by
  induction polls generalizing dropped st before with
  | zero => exact ⟨.draining, st, [], by rw [List.append_nil]; rfl, quiet_nil⟩
  | succ polls ih =>
    obtain ⟨ended, st₁, made, hpoll, hmade⟩ := exists_poll k s (some 0) st before
    rw [drain_succ, run_bind_of_eq hpoll]
    match ended, hmade with
    | some (.failed cause), hmade => exact ⟨.failed cause, st₁, made, rfl, hmade⟩
    | some (.data _), hmade =>
      obtain ⟨ended, st₂, later, hlater, hfollows⟩ := ih (dropped + 1) st₁ (before ++ made)
      exact ⟨ended, st₂, made ++ later, by rw [← List.append_assoc]; exact hlater,
        hfollows.append hmade⟩
    | none, hmade => exact ⟨.empty dropped, st₁, made, rfl, hmade⟩
    | some (.timedOut _), hmade => exact ⟨.empty dropped, st₁, made, rfl, hmade⟩
    | some .cancelled, hmade => exact ⟨.empty dropped, st₁, made, rfl, hmade⟩
    | some .waiting, hmade => exact ⟨.empty dropped, st₁, made, rfl, hmade⟩

lemma exists_receive (k : Sockets Float (StateM σ)) (s : DatagramSession)
    (interval timeout : Option Float) (polls : Nat) (st : σ) (before : List SocketCall) :
    ∃ ended st' made, (receive k.watched s interval timeout polls).run (st, before) =
      (ended, st', before ++ made) ∧ ended.FollowsFrom made := by
  rw [receive.eq_def]
  cases timeout with
  | none => exact exists_await k s interval none polls st before
  | some timeout =>
    obtain ⟨start, st₁, hstart⟩ : ∃ start st₁,
        k.watched.now.run (st, before) = (start, st₁, before) := ⟨_, _, rfl⟩
    dsimp only
    rw [run_bind_of_eq hstart]
    exact exists_await k s interval (some (timeout, start + timeout)) polls st₁ before

lemma exists_discardPending (k : Sockets Float (StateM σ)) (s : DatagramSession) (polls : Nat)
    (st : σ) (before : List SocketCall) :
    ∃ ended st' made, (discardPending k.watched s polls).run (st, before) =
      (ended, st', before ++ made) ∧ ended.FollowsFrom made := by
  obtain ⟨ended, st₁, made, hdrain, hmade⟩ := exists_drain k s polls 0 st before
  rw [discardPending, run_bind_of_eq hdrain]
  refine ⟨ended, ?_⟩
  match ended, hmade with
  | .empty dropped, hmade =>
    dsimp only
    split_ifs
    · exact ⟨_, made, rfl, hmade⟩
    · exact ⟨_, made, rfl, hmade⟩
  | .failed cause, hmade => exact ⟨_, made, rfl, hmade⟩
  | .draining, hmade => exact ⟨_, made, rfl, hmade⟩

lemma FailsLast.accounts {request : Request} {cause : OsError} {e : SessionError}
    (h : FailsLast cause calls) (he : e = .writing s.dst cause ∨ e = .reading s.dst cause) :
    Accounts s request (some (.transport e)) calls := by
  obtain ⟨before, call, rfl, hbefore, hcall⟩ := h
  exact .failed hbefore hcall he

lemma Received.FollowsFrom.accounts {request : Request} {ended : Received Float}
    (h : ended.FollowsFrom calls) : Accounts s request (raised? (ended.toExcept s)) calls := by
  cases ended with
  | data bytes => exact .quiet h
  | timedOut timeout => exact .timedOut h
  | cancelled => exact .cancelled h
  | failed cause => exact FailsLast.accounts h (.inr rfl)
  | waiting => exact .quiet h

lemma Drained.FollowsFrom.accounts {request : Request} {ended : Drained}
    (h : ended.FollowsFrom calls) : Accounts s request (raised? (ended.toExcept s)) calls := by
  cases ended with
  | empty dropped => exact .quiet h
  | failed cause => exact FailsLast.accounts h (.inr rfl)
  | draining => exact .quiet h

lemma mapM_some_eq_error_iff {ε α β : Type} {f : α → Except ε β} {a : α} {e : ε} :
    (some a).mapM f = .error e ↔ f a = .error e := by
  rw [Option.mapM_some]
  cases f a <;> simp [Functor.map, Except.map]

lemma exists_perform (k : Sockets Float (StateM σ)) (s : DatagramSession) (request : Request)
    (st : σ) (before : List SocketCall) :
    ∃ failure st' made, (perform k.watched s request).run (st, before) =
      (failure, st', before ++ made) ∧ Accounts s request failure made := by
  cases request with
  | send data =>
    obtain ⟨sent, st₁, hsend⟩ : ∃ sent st₁, execute (k.watched.send data) (st, before) =
        (sent, st₁, before ++ [.send data sent]) := ⟨_, _, rfl⟩
    have hadapted : (DatagramSession.send k.watched s data).run.run (st, before) =
        (sent.mapError fun cause => .transport (.writing s.dst cause), st₁,
          before ++ [.send data sent]) := by
      change execute (ExceptT.adapt _ (k.watched.send data)) (st, before) = _
      rw [execute_adapt, hsend]
    rw [perform, run_bind_of_eq hadapted]
    cases sent with
    | error cause => exact ⟨_, st₁, _, rfl, (failsLast_singleton rfl).accounts (.inl rfl)⟩
    | ok _ => exact ⟨_, st₁, _, rfl, .quiet (quiet_singleton rfl)⟩
  | receive timeout cancellable polls =>
    rw [perform]
    cases htimeout : timeout.mapM Seconds.toFloat with
    | error cause =>
      refine ⟨some (.number cause), st, [], by rw [List.append_nil]; rfl, ?_⟩
      cases timeout with
      | none => cases htimeout
      | some timeout =>
        rw [mapM_some_eq_error_iff] at htimeout
        exact .unrepresentable htimeout
    | ok timeout =>
      obtain ⟨ended, st₁, made, hreceive, hmade⟩ :=
        exists_receive k s (if cancellable then some pollInterval else none) timeout polls st before
      dsimp only
      rw [run_bind_of_eq hreceive]
      exact ⟨_, st₁, made, rfl, hmade.accounts⟩
  | discard polls =>
    obtain ⟨ended, st₁, made, hdiscard, hmade⟩ := exists_discardPending k s polls st before
    rw [perform, run_bind_of_eq hdiscard]
    exact ⟨_, st₁, made, rfl, hmade.accounts⟩

lemma exists_performAll (k : Sockets Float (StateM σ)) (s : DatagramSession)
    (requests : List Request) (st : σ) (before : List SocketCall) :
    ∃ failures st' made, (performAll k.watched s requests).run (st, before) =
      (failures, st', before ++ made) ∧ AccountsAll s requests failures made := by
  induction requests generalizing st before with
  | nil => exact ⟨[], st, [], by rw [List.append_nil]; rfl, .nil⟩
  | cons request requests ih =>
    obtain ⟨failure, st₁, made, hfirst, hmade⟩ := exists_perform k s request st before
    obtain ⟨failures, st₂, later, hrest, hlater⟩ := ih st₁ (before ++ made)
    refine ⟨failure :: failures, st₂, made ++ later, ?_, .cons hmade hlater⟩
    rw [performAll, run_bind_of_eq hfirst, run_bind_of_eq hrest, List.append_assoc]
    rfl

lemma lifetime_cases {requests : List Request} {recvBuffer : Int}
    {ended : Except Failure (List (Option Failure))}
    (h : (lifetime k.watched src dst recvBuffer requests).run (st, []) = (ended, st', calls)) :
    (∃ e, ended = .error e ∧ Opens src dst (.error e) calls) ∨
    ∃ s failures opening later, ended = .ok failures ∧ calls = opening ++ later ∧
      Opens src dst (.ok s) opening ∧ AccountsAll s requests failures later := by
  obtain ⟨outcome, st₁, opening, hopen, hopens⟩ := exists_opens k src dst recvBuffer st
  rw [lifetime, run_bind_of_eq hopen] at h
  cases outcome with
  | error e =>
    obtain ⟨rfl, rfl, rfl⟩ := h
    exact .inl ⟨e, rfl, hopens⟩
  | ok s =>
    obtain ⟨failures, st₂, later, hall, hlater⟩ := exists_performAll k s requests st₁ opening
    dsimp only at h
    rw [run_bind_of_eq hall] at h
    obtain ⟨rfl, rfl, rfl⟩ := h
    exact .inr ⟨s, failures, opening, later, rfl, rfl, hopens, hlater⟩

/-! ### Lifetimes -/

/-- What the operating system reported, where a failure passes it on. -/
def osCause? : Failure → Option OsError
  | .transport (.opening _ _ cause) | .transport (.writing _ cause)
  | .transport (.reading _ cause) | .os cause => some cause
  | _ => none

/-- The failures that belong to a session. -/
def OfSession : Failure → Prop
  | .transport _ | .timedOut _ | .cancelled _ => True
  | _ => False

lemma AccountsAll.ofSession {requests : List Request} {failures : List (Option Failure)}
    (h : AccountsAll s requests failures calls) {e : Failure} (he : some e ∈ failures) :
    OfSession e ∨ ∃ timeout cancellable polls cause,
      .receive (some timeout) cancellable polls ∈ requests ∧ timeout.toFloat = .error cause ∧
        e = .number cause := by
  induction h with
  | nil => cases he
  | cons hfirst hrest ih =>
    rcases List.mem_cons.mp he with rfl | he
    · cases hfirst with
      | failed => exact .inl trivial
      | timedOut => exact .inl trivial
      | cancelled => exact .inl trivial
      | unrepresentable htimeout =>
        exact .inr ⟨_, _, _, _, List.mem_cons_self, htimeout, rfl⟩
    · refine (ih he).imp_right ?_
      rintro ⟨timeout, cancellable, polls, cause, hmem, h⟩
      exact ⟨timeout, cancellable, polls, cause, List.mem_cons_of_mem _ hmem, h⟩

lemma Quiet.filterMap_eq_nil (h : Quiet calls) : calls.filterMap SocketCall.failure? = [] :=
  List.filterMap_eq_nil_iff.mpr h

/-- Each call that fails is passed on, in its order, and nothing else is. -/
lemma AccountsAll.causes {requests : List Request} {failures : List (Option Failure)}
    (h : AccountsAll s requests failures calls) :
    calls.filterMap SocketCall.failure? = failures.filterMap (·.bind osCause?) := by
  induction h with
  | nil => rfl
  | cons hfirst hrest ih =>
    rw [List.filterMap_append, List.filterMap_cons, ih]
    cases hfirst with
    | quiet hquiet => rw [hquiet.filterMap_eq_nil]; rfl
    | failed hquiet hcall he =>
      rw [List.filterMap_append, hquiet.filterMap_eq_nil, List.filterMap_cons, hcall]
      rcases he with rfl | rfl <;> rfl
    | timedOut hquiet => rw [hquiet.filterMap_eq_nil]; rfl
    | cancelled hquiet => rw [hquiet.filterMap_eq_nil]; rfl
    | unrepresentable => rfl

/-- A session fails for reasons of its own, and passes on every failure of the operating system,
with two exceptions. A socket that cannot be created or whose port is not known fails with the
failure of the operating system itself. In the second case it stays open, while every other socket
that is created and leads to no session is closed. A timeout beyond the doubles is no time to wait
for. -/
theorem lifetime_failures {requests : List Request} {recvBuffer : Int}
    {ended : Except Failure (List (Option Failure))}
    (h : (lifetime k.watched src dst recvBuffer requests).run (st, []) = (ended, st', calls)) :
    (∀ e, ended = .error e →
      (OfSession e ∧ calls.getLast? = some .close) ∨ ∃ cause, e = .os cause) ∧
    (∀ cause, ended = .error (.os cause) ↔
      calls = [.create (.error cause)] ∨
      calls = [.create (.ok ()), .bind src.underlay (.ok ()), .connect dst.underlay (.ok ()),
        .localPort (.error cause)]) ∧
    (∀ failures, ended = .ok failures →
      calls.filterMap SocketCall.failure? = failures.filterMap (·.bind osCause?) ∧
      ∀ e, some e ∈ failures →
        OfSession e ∨ ∃ timeout cancellable polls cause,
          .receive (some timeout) cancellable polls ∈ requests ∧
            timeout.toFloat = .error cause ∧ e = .number cause) := by
  rcases lifetime_cases h with
    ⟨e, rfl, hopens⟩ | ⟨s, failures, opening, later, rfl, rfl, hopens, hall⟩
  · refine ⟨?_, ?_, ?_⟩
    · rintro e ⟨⟩
      cases hopens with
      | uncreated => exact .inr ⟨_, rfl⟩
      | unbound => exact .inl ⟨trivial, rfl⟩
      | unconnected => exact .inl ⟨trivial, rfl⟩
      | unnamed => exact .inr ⟨_, rfl⟩
    · intro cause
      cases hopens <;> simp
    · rintro failures ⟨⟩
  · refine ⟨?_, ?_, ?_⟩
    · rintro e ⟨⟩
    · intro cause
      cases hopens
      simp
    · rintro failures ⟨⟩
      refine ⟨?_, fun e he => hall.ofSession he⟩
      have hquiet : opening.filterMap SocketCall.failure? = [] := by
        cases hopens
        rfl
      rw [List.filterMap_append, hquiet, List.nil_append, hall.causes]

/-! ### Sockets that fail at one call -/

/-- Sockets on which every call succeeds, and every wait finds an empty datagram. -/
def willing : Sockets Float (StateM Unit) where
  create _ := pure ()
  bind _ := pure ()
  connect _ := pure ()
  localPort := pure 40000
  send _ := pure ()
  awaitReadable _ := pure true
  receive _ := pure []
  close := pure ()
  now := pure 0
  cancelled := pure false
  log _ := pure ()

/-- Two endpoints in neighbouring autonomous systems. The first one takes whatever port it gets. -/
def near : Endpoint := ⟨⟨1, 1⟩, .v4 #v[192, 168, 0, 1], 0, []⟩
def far : Endpoint := ⟨⟨1, 2⟩, .v4 #v[192, 168, 0, 2], 5, []⟩

/-- A socket that cannot be bound is closed, and each failure of a wait is passed on. -/
theorem lifetime_failures_unbound_unreadable :
    let inUse : OsError := ⟨"Address already in use"⟩
    let bad : OsError := ⟨"Bad file descriptor"⟩
    let opening : Failure := .transport (.opening near far inUse)
    let reading : Failure := .transport (.reading far bad)
    let unbound : List SocketCall :=
      [.create (.ok ()), .bind near.underlay (.error inUse), .close]
    let unreadable : List SocketCall :=
      [.create (.ok ()), .bind near.underlay (.ok ()), .connect far.underlay (.ok ()),
        .localPort (.ok 40000), .send [1] (.ok ()), .awaitReadable (.error bad),
        .awaitReadable (.error bad)]
    (lifetime (Sockets.watched { willing with bind := fun _ => throw inUse }) near far 2500
        [.discard 1]).run ((), []) = (.error opening, (), unbound) ∧
      ((OfSession opening ∧ unbound.getLast? = some .close) ∨ ∃ cause, opening = .os cause) ∧
    (lifetime (Sockets.watched { willing with awaitReadable := fun _ => throw bad }) near far 2500
        [.send [1], .receive none true 1, .discard 3]).run ((), []) =
        (.ok [none, some reading, some reading], (), unreadable) ∧
      unreadable.filterMap SocketCall.failure? =
        [none, some reading, some reading].filterMap (·.bind osCause?) := by
  intro inUse bad opening reading unbound unreadable
  have hunbound : (lifetime (Sockets.watched { willing with bind := fun _ => throw inUse }) near far
      2500 [.discard 1]).run ((), []) = (.error opening, (), unbound) := rfl
  have hunreadable : (lifetime (Sockets.watched { willing with awaitReadable := fun _ => throw bad })
      near far 2500 [.send [1], .receive none true 1, .discard 3]).run ((), []) =
        (.ok [none, some reading, some reading], (), unreadable) := rfl
  exact ⟨hunbound, (lifetime_failures hunbound).1 _ rfl, hunreadable,
    ((lifetime_failures hunreadable).2.2 _ rfl).1⟩

lemma toFloat_tooLarge : (Seconds.whole (16 ^ 256)).toFloat = .error .tooLarge := by
  have hbits : Binary64.ratioBits? ((16 : Int) ^ 256).natAbs 1 = none := by decide +kernel
  rw [Seconds.toFloat, Binary64.ofInt?, Binary64.ofRatio?, hbits]
  rfl

/-- Failures of the operating system do get out of a session: that of the first call, and that of
the last call of the opening, which leaves the socket open. A timeout beyond the doubles fails as
a number. -/
theorem open_leaks :
    let full : OsError := ⟨"Too many open files"⟩
    let gone : OsError := ⟨"No buffer space available"⟩
    ¬ (∀ (k : Sockets Float (StateM Unit)) (e : Failure),
      (execute («open» k near far 2500) ()).1 = .error e → OfSession e) ∧
    execute («open» (Sockets.watched { willing with create := fun _ => throw full }) near far 2500)
        ((), []) = (.error (.os full), (), [.create (.error full)]) ∧
    execute («open» (Sockets.watched { willing with localPort := throw gone }) near far 2500)
        ((), []) = (.error (.os gone), (), [.create (.ok ()), .bind near.underlay (.ok ()),
          .connect far.underlay (.ok ()), .localPort (.error gone)]) ∧
    (perform willing.watched ⟨near, far, 2500⟩ (.receive (some (.whole (16 ^ 256))) false 1)).run
        ((), []) = (some (.number .tooLarge), (), []) := by
  intro full gone
  refine ⟨fun hall => ?_, rfl, rfl, ?_⟩
  · exact hall { willing with create := fun _ => throw full } (.os full) rfl
  · rw [perform, mapM_some_eq_error_iff.mpr toFloat_tooLarge]
    rfl

end DatagramSession

end ScionEcho
