import ScionEcho.CommandLine.ClientCommand
import ScionEcho.Proofs.Fallible

/-!
# Measurements of the client

A measurement does what its session and its run do, whatever the world is like: it opens the
session, runs, and closes the session before the failure of the run goes on.
-/

namespace ScionEcho.ClientCommand

variable {σ : Type} {w : ClientWorld (StateM σ)} {l : Logging} {c : Config}
  {src dst src' dst' : Endpoint} {st st₁ st₂ st' : σ}

lemma execute_runOver {peer : Peer (StateM σ)} {r : Except Failure Measurement}
    (hobserve : (w.observe (runSettings c)).run st = ((), st))
    (hcheck : (runSettings c).check = .ok ())
    (hrun : execute (Run.run (surroundings w l peer src dst) (runSettings c)) st = (r, st')) :
    execute (runOver w l peer c src dst) st = (r.mapError .run, st') := by
  have hobserved : execute (ExceptT.lift (w.observe (runSettings c)) :
      ExceptT Fault (StateM σ) Unit) st = (.ok (), st) := by
    rw [execute_lift, hobserve]
  unfold runOver
  dsimp only
  rw [execute_bind_of_ok hobserved, hcheck, execute_adapt, hrun]

lemma execute_measure_of_unopened {e : Failure}
    (hconnect : execute ((w.peer (w.console.emit l)).connect src dst c.transport.recvBuffer) st =
      (.error e, st')) :
    execute (measure w l c src dst) st = (.error (.run e), st') := by
  have hadapted : execute (ExceptT.adapt Fault.run
      ((w.peer (w.console.emit l)).connect src dst c.transport.recvBuffer)) st =
        (.error (.run e), st') := by
    rw [execute_adapt, hconnect, mapError_error]
  exact execute_bind_of_error hadapted

/-- However a run ends, the session is closed before the failure goes on. -/
lemma execute_measure_of_run {r : Except Failure Measurement}
    (hobserve : (w.observe (runSettings c)).run st₁ = ((), st₁))
    (hcheck : (runSettings c).check = .ok ())
    (hconnect : execute ((w.peer (w.console.emit l)).connect src dst c.transport.recvBuffer) st =
      (.ok (src', dst'), st₁))
    (hrun : execute (Run.run (surroundings w l (w.peer (w.console.emit l)) src' dst')
      (runSettings c)) st₁ = (r, st₂))
    (hclose : (w.peer (w.console.emit l)).close.run st₂ = ((), st')) :
    execute (measure w l c src dst) st = (r.mapError .run, st') := by
  have hadapted : execute (ExceptT.adapt Fault.run
      ((w.peer (w.console.emit l)).connect src dst c.transport.recvBuffer)) st =
        (.ok (src', dst'), st₁) := by
    rw [execute_adapt, hconnect, mapError_ok]
  have hclosed : execute (ExceptT.lift (w.peer (w.console.emit l)).close :
      ExceptT Fault (StateM σ) Unit) st₂ = (.ok (), st') := by
    rw [execute_lift, hclose]
  unfold measure
  dsimp only
  rw [execute_bind_of_ok hadapted]
  dsimp only
  rw [execute_bind_of_ok (execute_lift_run _ _), execute_runOver hobserve hcheck hrun]
  dsimp only
  rw [execute_bind_of_ok hclosed, execute_mk_pure]

end ScionEcho.ClientCommand
