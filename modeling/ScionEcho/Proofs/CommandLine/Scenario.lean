import ScionEcho.CommandLine.ClientCommand
import ScionEcho.Proofs.Probe.Frame
import ScionEcho.Proofs.Probe.Reference

/-!
# Scenarios of the client

Whatever the client meets outside of itself is decided by a scenario: what is found in a file, how a
session behaves and what it reports, which signals are delivered during a wait, which ids are drawn,
and what the clock shows. The client works at a desk, which keeps what it leaves outside: what it
has printed, which configurations it has read, which sessions it has opened and closed, and what
signals lead to.
-/

namespace ScionEcho

/-- How everything outside of the client behaves, its database left aside. Each behaviour may depend
on all that was done before. -/
structure Scenario (σ : Type) where
  readConfig : String → StateM σ FileContent
  openLogFile : String → StateM σ (Except OsError Unit)
  connect : (src dst : Endpoint) → (recvBuffer : Int) →
    StateM σ (List LogRecord × Except Failure (Endpoint × Endpoint))
  discardPending : StateM σ (List LogRecord × Except Failure Nat)
  send : Bytes → StateM σ (List LogRecord × Except Failure Unit)
  /-- How a wait ends, and which signals are delivered meanwhile. -/
  receive : Option Seconds → StateM σ (List LogRecord × List Int × Except Failure Bytes)
  close : StateM σ (List LogRecord × Unit)
  drawId : StateM σ (Except Failure Int)
  clock : StateM σ Int
  isClockReading (st : σ) : IsClockReading (clock.run st).1

/-- How the client of a database behaves. -/
structure DatabaseScenario (σ : Type) where
  connect : (url token organization : String) → StateM σ (Except ClientError Unit)
  writeApi : StateM σ (Except ClientError Unit)
  write : (bucket line : String) → StateM σ (Except ClientError Unit)
  close : StateM σ (Except ClientError Unit)

/-- A database that takes everything. -/
def DatabaseScenario.willing {σ : Type} : DatabaseScenario σ where
  connect _ _ _ := pure (.ok ())
  writeApi := pure (.ok ())
  write _ _ := pure (.ok ())
  close := pure (.ok ())

/-- What the delivery of a signal leads to. -/
inductive Disposition
  /-- The measurement is to be given up. -/
  | giveUp
  /-- Something that has nothing to do with the client. -/
  | other (number : Nat)
  deriving DecidableEq, Repr

/-- What the client leaves outside, its reports left aside. -/
structure Footprint where
  stdout : String := ""
  /-- The paths at which a configuration was read. -/
  reads : List String := []
  /-- The number of sessions that were opened, and of those that were closed. -/
  opened : Nat := 0
  closed : Nat := 0
  handlers : Int → Disposition
  /-- The dispositions that are to be put back. -/
  saved : List (Int × Disposition) := []

/-- The signals that are caught: an interrupt, and a request to terminate. -/
def caughtSignals : List Int := [2, 15]

namespace Footprint

def print (text : String) (f : Footprint) : Footprint := { f with stdout := f.stdout ++ text }

def noteRead (path : String) (f : Footprint) : Footprint := { f with reads := f.reads ++ [path] }

def noteConnected {α β : Type} : Except α β → Footprint → Footprint
  | .error _, f => f
  | .ok _, f => { f with opened := f.opened + 1 }

def noteClosed (f : Footprint) : Footprint := { f with closed := f.closed + 1 }

/-- The signals lead to giving up, and what they led to before is kept. -/
def install (f : Footprint) : Footprint :=
  { f with
    handlers := fun signal => if signal ∈ caughtSignals then .giveUp else f.handlers signal
    saved := caughtSignals.map fun signal => (signal, f.handlers signal) }

/-- The signals lead to what they led to before. -/
def restore (f : Footprint) : Footprint :=
  { f with
    handlers := fun signal => (f.saved.lookup signal).getD (f.handlers signal)
    saved := [] }

end Footprint

/-- Where the client works: the state of the scenario, what the client leaves outside, the texts of
its reports, and whether the measurement is to be given up. -/
structure Desk (σ : Type) where
  script : σ
  footprint : Footprint
  stderr : List String := []
  givenUp : Bool := false

/-! ### The world of a scenario -/

section

variable {σ α : Type}

namespace Desk

def leave (change : Footprint → Footprint) : StateM (Desk σ) Unit :=
  modify fun d => { d with footprint := change d.footprint }

/-- What the scenario decides. -/
def decided (x : StateM σ α) : StateM (Desk σ) α := fun d =>
  ((x.run d.script).1, { d with script := (x.run d.script).2 })

/-- What the scenario decides, with reports. -/
def reported (log : LogRecord → StateM (Desk σ) Unit) (x : StateM σ (List LogRecord × α)) :
    StateM (Desk σ) α := do
  let (records, a) ← decided x
  records.forM log
  return a

end Desk

open Desk

namespace Scenario

variable (s : Scenario σ)

def console : Console (StateM (Desk σ)) where
  readConfig path := do
    leave (.noteRead path)
    decided (s.readConfig path)
  openLogFile path := ExceptT.mk (decided (s.openLogFile path))
  appendLogFile _ := pure ()
  stdout text := leave (.print text)
  stderr text := modify fun d => { d with stderr := d.stderr ++ [text] }

def peer (log : LogRecord → StateM (Desk σ) Unit) : Peer (StateM (Desk σ)) where
  connect src dst recvBuffer := ExceptT.mk do
    let outcome ← reported log (s.connect src dst recvBuffer)
    leave (.noteConnected outcome)
    return outcome
  discardPending := ExceptT.mk (reported log s.discardPending)
  send request := ExceptT.mk (reported log (s.send request))
  receive timeout := reported log (s.receive timeout)
  close := do
    reported log s.close
    leave .noteClosed

def world (k : DatabaseScenario σ) : ClientWorld (StateM (Desk σ)) where
  console := s.console
  peer := s.peer
  drawId := ExceptT.mk (decided s.drawId)
  clock := decided s.clock
  cancelled := return (← get).givenUp
  cancel := modify fun d => { d with givenUp := true }
  installHandlers := leave .install
  restoreHandlers := leave .restore
  observe _ := pure ()
  influx log :=
    { connect := fun url token organization =>
        ExceptT.mk (decided (k.connect url token organization))
      writeApi := ExceptT.mk (decided k.writeApi)
      write := fun bucket line => ExceptT.mk (decided (k.write bucket line))
      close := ExceptT.mk (decided k.close)
      log }

/-- What a run finds that reports to a log. The database is not part of it. -/
def surroundings (l : Logging) (src dst : Endpoint) : Surroundings (StateM (Desk σ)) :=
  ClientCommand.surroundings (s.world .willing) l (s.peer (s.console.emit l)) src dst

end Scenario

/-! ### What leaves nothing -/

/-- A computation that leaves nothing outside but reports. -/
def Calm (x : StateM (Desk σ) α) : Prop := ∀ d, (x.run d).2.footprint = d.footprint

namespace Calm

variable {β : Type} {x : StateM (Desk σ) α} {f : α → StateM (Desk σ) β} {d d' : Desk σ}

lemma footprint_eq {a : α} (h : Calm x) (hrun : x.run d = (a, d')) :
    d'.footprint = d.footprint := by
  have hcalm := h d
  rwa [hrun] at hcalm

lemma pure (a : α) : Calm (Pure.pure a : StateM (Desk σ) α) := fun _ => rfl

lemma bind (hx : Calm x) (hf : ∀ a, Calm (f a)) : Calm (x >>= f) := fun d =>
  (hf _ _).trans (hx d)

lemma decided (x : StateM σ α) : Calm (Desk.decided x) := fun _ => rfl

lemma forM {log : α → StateM (Desk σ) Unit} (h : ∀ a, Calm (log a)) (as : List α) :
    Calm (as.forM log) := by
  induction as with
  | nil => exact pure ()
  | cons a as ih => exact bind (h a) fun _ => ih

lemma reported {log : LogRecord → StateM (Desk σ) Unit} (h : ∀ entry, Calm (log entry))
    (x : StateM σ (List LogRecord × α)) : Calm (Desk.reported log x) :=
  bind (decided x) fun _ => bind (forM h _) fun _ => pure _

end Calm

namespace Scenario

variable (s : Scenario σ) (l : Logging)

lemma calm_emit (entry : LogRecord) : Calm (s.console.emit l entry) := fun _ => rfl

lemma calm_onSignal (k : DatabaseScenario σ) (signal : Int) :
    Calm (ClientCommand.onSignal (s.world k) l signal) := fun _ => rfl

/-- Whatever a run calls leaves nothing but reports. -/
lemma respects_footprint (src dst : Endpoint) :
    (s.surroundings l src dst).Respects fun d d' => d'.footprint = d.footprint where
  refl _ := rfl
  trans h h' := h'.trans h
  drawId h := (Calm.decided _).footprint_eq h
  discardPending h := (Calm.reported (s.calm_emit l) _).footprint_eq h
  clock h := (Calm.decided _).footprint_eq h
  send h := (Calm.reported (s.calm_emit l) _).footprint_eq h
  receive h :=
    (Calm.bind (Calm.reported (s.calm_emit l) _) fun _ =>
      Calm.bind (Calm.forM (s.calm_onSignal l _) _) fun _ => Calm.pure _).footprint_eq h
  cancelled h := by
    cases h
    rfl
  log entry d := s.calm_emit l entry d

/-- A run leaves nothing but reports. If it returns a result, that has samples, and each of them may
lie between two clock readings. -/
lemma run_result {src dst : Endpoint} {settings : RunSettings} {d d' : Desk σ}
    {r : Except Failure Measurement}
    (hrun : execute (Run.run (s.surroundings l src dst) settings) d = (r, d')) :
    d'.footprint = d.footprint ∧ ∀ m, r = .ok m → 1 ≤ settings.target →
      m.samples ≠ [] ∧ ∀ x ∈ m.samples, IsElapsed x := by
  obtain ⟨trials, st, hfollows, hends⟩ := Run.run_ends (s.surroundings l src dst) settings d
  rw [hrun] at hends
  have hcourse := hfollows.course.respects (s.respects_footprint l src dst)
  have hend := hends.respects (s.respects_footprint l src dst)
  refine ⟨hend.trans hcourse, ?_⟩
  rintro m rfl htarget
  obtain ⟨henough, rfl⟩ := hends.of_ok
  refine ⟨?_, hfollows.course.isElapsed fun d => s.isClockReading d.script⟩
  intro (hnone : Run.samples trials = [])
  rw [hnone, List.length_nil] at henough
  omega

end Scenario

end

end ScionEcho
