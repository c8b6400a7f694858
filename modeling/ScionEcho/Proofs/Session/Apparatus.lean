import ScionEcho.Probe.IdSource
import ScionEcho.Proofs.Probe.Cancellation
import ScionEcho.Proofs.Session.Waiting

/-!
# Runs over a datagram session

A run whose session is a datagram session over some sockets. Of its calls only a wait is ever cut
short by a cancellation, and a wait is so only when it sees the event of the sockets set.
-/

namespace ScionEcho

variable {σ : Type} {w : Surroundings (StateM σ)} {a : Apparatus Unit (StateM σ)}
  {cancel : Option Unit} {settings : RunSettings} {set : σ → Prop} {st st' : σ} {text : String}

/-- What a run over a datagram session is built from: its waits make so many polls at most, and the
event is that of the sockets. -/
def DatagramSession.apparatus {m : Type → Type} [Monad m] (k : Sockets Float m)
    (s : DatagramSession) (polls : Nat) (nextId? : m (Option Int)) (clock : m Int) :
    Apparatus Unit m where
  src := s.src
  dst := s.dst
  drawId := IdSource.drawFrom nextId?
  discardPending := s.discard k polls
  clock
  send := s.send k
  receive timeout cancel := s.receiveBytes k (cancel.map fun _ => pollInterval) timeout polls
  isSet _ := k.cancelled
  log := k.log

/-! ### What is never cancelled -/

lemma IdSource.execute_drawFrom (next? : StateM σ (Option Int)) (st : σ) :
    (execute (drawFrom next?) st).1 = (next?.run st).1.elim (.error .noMoreIds) .ok := by
  rw [drawFrom, execute_bind_of_ok (execute_lift next? st)]
  cases (next?.run st).1 <;> rfl

namespace DatagramSession

variable {k : Sockets Float (StateM σ)} {s : DatagramSession} {polls : Nat}
  {nextId? : StateM σ (Option Int)} {clock : StateM σ Int}

lemma execute_discard (k : Sockets Float (StateM σ)) (s : DatagramSession) (polls : Nat) (st : σ) :
    (execute (s.discard k polls) st).1 =
      (((s.discardPending k polls).run st).1.toExcept s).getD (.error outlived) := by
  rw [discard, execute_bind_of_ok (execute_lift _ st)]
  rfl

lemma Drained.toExcept_ne_cancelled (ended : Drained) (text : String) :
    (ended.toExcept s).getD (.error outlived) ≠ .error (.cancelled text) := by
  cases ended <;> simp [toExcept, outlived]

lemma execute_send_ne_cancelled (k : Sockets Float (StateM σ)) (s : DatagramSession) (data : Bytes)
    (st : σ) (text : String) : (execute (s.send k data) st).1 ≠ .error (.cancelled text) := by
  rw [send, execute_adapt]
  cases (execute (k.send data) st).1 <;> simp

/-- Of all that a run over a datagram session calls, only a wait can be cut short. -/
theorem apparatus_onlyWaitsAreCancelled (k : Sockets Float (StateM σ)) (s : DatagramSession)
    (polls : Nat) (nextId? : StateM σ (Option Int)) (clock : StateM σ Int) :
    (s.apparatus k polls nextId? clock).OnlyWaitsAreCancelled where
  drawId st text := by
    change (execute (IdSource.drawFrom nextId?) st).1 ≠ _
    rw [IdSource.execute_drawFrom]
    cases (nextId?.run st).1 <;> simp
  discardPending st text := by
    change (execute (s.discard k polls) st).1 ≠ _
    rw [execute_discard]
    exact Drained.toExcept_ne_cancelled _ text
  send data st text := execute_send_ne_cancelled k s data st text

/-! ### What a cancelled wait has seen -/

/-- A wait is cut short by a look at the event, after which it does nothing. -/
lemma exists_look_of_cancelled {interval timeout : Option Float}
    (h : (s.receive k interval timeout polls).run st = (.cancelled, st')) :
    ∃ st₁, k.cancelled.run st₁ = (true, st') := by
  obtain ⟨steps, ended, st₂, hreceives⟩ := exists_receives k s interval timeout polls st
  rw [hreceives.run, Prod.mk.injEq] at h
  obtain ⟨rfl, rfl⟩ := h
  obtain ⟨_, _, _, _, _, st₁, -, -, -, hround⟩ := hreceives.exists_last (by simp)
  cases hround with
  | polled _ hpolls => cases hpolls
  | ended hlooks =>
    cases hlooks with
    | cancelled hasks =>
      cases hasks with
      | asked _ hevent => exact ⟨st₁, hevent⟩

lemma Received.cancelled_of_toExcept {ended : Received Float}
    (h : (ended.toExcept s).getD (.error outlived) = .error (.cancelled text)) :
    ended = .cancelled := by
  cases ended <;> simp_all [toExcept, outlived]

lemma exists_look_of_receiveBytes {interval : Option Float} {timeout : Option Seconds}
    (h : execute (s.receiveBytes k interval timeout polls) st =
      (.error (.cancelled text), st')) : ∃ st₁, k.cancelled.run st₁ = (true, st') := by
  rw [receiveBytes, execute_bind, execute_mk_pure] at h
  cases htimeout : (timeout.mapM Seconds.toFloat) with
  | error e => simp [htimeout] at h
  | ok limit =>
    rw [htimeout] at h
    dsimp only [mapError_ok] at h
    rw [execute_bind_of_ok (execute_lift _ st), execute_mk_pure, Prod.mk.injEq] at h
    obtain ⟨hended, rfl⟩ := h
    exact exists_look_of_cancelled (Prod.ext (Received.cancelled_of_toExcept hended) rfl)

end DatagramSession

/-! ### Cancelled runs -/

namespace Run

/-- Where only waits are cut short, a cancelled attempt ends with its wait. -/
lemma Attempt.exists_wait_of_cancelled (ha : a.OnlyWaitsAreCancelled)
    (h : Attempt (a.surroundings cancel) settings st (.error (.cancelled text)) st') :
    ∃ st₁, execute (a.receive settings.timeout cancel) st₁ = (.error (.cancelled text), st') := by
  generalize hverdict : (Except.error (.cancelled text) : Except Failure Trial) = verdict at h
  cases h with
  | undrawn hdraw =>
    cases hverdict
    exact absurd (congrArg Prod.fst hdraw) (ha.drawId st text)
  | undiscarded _ _ hdiscard =>
    cases hverdict
    exact absurd (congrArg Prod.fst hdiscard) (ha.discardPending _ text)
  | unsent _ _ _ _ hsend =>
    cases hverdict
    exact absurd (congrArg Prod.fst hsend) (ha.send _ _ text)
  | unreceived _ hreceive =>
    cases hverdict
    exact ⟨_, hreceive⟩
  | _ => cases hverdict

/-- A run over a datagram session is given up only once its event is set. -/
theorem set_of_cancelled {k : Sockets Float (StateM σ)} {s : DatagramSession} {polls : Nat}
    {nextId? : StateM σ (Option Int)} {clock : StateM σ Int} {start final : σ}
    (hlatches : ((s.apparatus k polls nextId? clock).surroundings (some ())).Latches set)
    (hrun : execute (run ((s.apparatus k polls nextId? clock).surroundings (some ())) settings)
      start = (.error (.cancelled text), final)) : set final := by
  obtain ⟨trials, st, -, hends⟩ :=
    run_ends ((s.apparatus k polls nextId? clock).surroundings (some ())) settings start
  rw [hrun] at hends
  rcases hends.of_cancelled with ⟨st₁, hstop⟩ | ⟨st₁, hattempt⟩
  · exact hlatches.set_of_seen hstop
  · have hwaits := DatagramSession.apparatus_onlyWaitsAreCancelled k s polls nextId? clock
    obtain ⟨st₂, hreceive⟩ := hattempt.exists_wait_of_cancelled hwaits
    obtain ⟨st₃, hlook⟩ := DatagramSession.exists_look_of_receiveBytes hreceive
    exact hlatches.set_of_seen hlook

end Run

end ScionEcho
