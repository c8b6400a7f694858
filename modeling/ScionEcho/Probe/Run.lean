import ScionEcho.Log.Record
import ScionEcho.Probe.Result
import ScionEcho.Probe.Trial
import ScionEcho.Session.Failure

/-!
# Measurement runs

A run collects round trip times. One probe is in flight at a time: an id is drawn, late datagrams
are discarded, the request is sent, and a reply is awaited. A reply to another probe and a timeout
cost an attempt; every other failure ends the run. The run ends well as soon as it has enough
samples.

What a run needs of the world is a record of operations in a monad `m`. A program runs it in `IO`;
statements about all sessions, clocks and id sources take `m` to be `StateM σ` for an arbitrary
state `σ`.
-/

namespace ScionEcho

/-- The session, the clock, the source of ids and the log of a run. -/
structure Surroundings (m : Type → Type) where
  /-- The endpoints of the session. -/
  src : Endpoint
  dst : Endpoint
  drawId : ExceptT Failure m Int
  /-- Drops the datagrams that wait in the session, and counts them. -/
  discardPending : ExceptT Failure m Nat
  clock : m Int
  send : Bytes → ExceptT Failure m Unit
  /-- Waits for a datagram, for so many seconds or for as long as it takes. -/
  receive : Option Seconds → ExceptT Failure m Bytes
  /-- Whether the run is to be given up. -/
  cancelled : m Bool
  log : LogRecord → m Unit

/-- What a run is to achieve, and within which limits. -/
structure RunSettings where
  target : Int := 5
  maxAttempts : Int := 20
  /-- How long each reply is awaited; for ever if nothing is given. -/
  timeout : Option Seconds := none
  maxPacketLength : Int := minMtu

/-- Why settings are refused. -/
inductive SettingsError
  | target
  | maxAttempts
  | timeout
  deriving DecidableEq, Repr

def SettingsError.message : SettingsError → String
  | .target => "target_samples must be at least 1"
  | .maxAttempts => "max_attempts must not be less than target_samples"
  | .timeout => "timeout must be positive or None"

/-- The first reason to refuse the settings. -/
def RunSettings.check (s : RunSettings) : Except SettingsError Unit :=
  if s.target < 1 then .error .target
  else if s.maxAttempts < s.target then .error .maxAttempts
  else if s.timeout.any Seconds.isNonpositive then .error .timeout
  else .ok ()

namespace Run

def loggerName : String := "scionlat.probe.measurement"

/-- An id as reports show it: in base 16, filled up to 16 digits. -/
def idText (id : Int) : String :=
  let sign := if id < 0 then ['-'] else []
  String.ofList (sign ++ '0' :: 'x' :: Text.hexPadded (16 - sign.length) id.natAbs)

section

variable {m : Type → Type} [Monad m]

/-- Raises a failure of a computation that has no effects. -/
def orFail {ε α : Type} (cause : ε → Failure) : Except ε α → ExceptT Failure m α
  | .ok a => pure a
  | .error e => throw (cause e)

def report (w : Surroundings m) (level : Level) (message : String) : ExceptT Failure m Unit :=
  ExceptT.lift (w.log ⟨loggerName, level, message⟩)

def requestBytes (src dst : Endpoint) (s : RunSettings) (id : Int) : Except EncodeError Bytes := do
  let packet ← Packet.ofEchoRequest src dst ⟨id, 0⟩
  packet.encode s.maxPacketLength

/-- What came of a probe whose reply arrived. -/
def judge (id sentAt receivedAt : Int) (reply : Bytes) : Except Failure Trial :=
  match Packet.decode reply with
  | .error e => .error (.decode e)
  | .ok packet =>
    match packet.correlationId with
    | .error e => .error (.reply e)
    | .ok found =>
      .ok ⟨id, sentAt, some receivedAt, if found = id then .success else .mismatch⟩

/-- Sends one probe and waits for its reply. -/
def attempt (w : Surroundings m) (s : RunSettings) : ExceptT Failure m Trial := do
  let probe ← w.drawId
  let request ← orFail .encode (requestBytes w.src w.dst s probe)
  let _ ← w.discardPending
  let sentAt ← ExceptT.lift w.clock
  w.send request
  match ← ExceptT.lift (w.receive s.timeout).run with
  | .ok reply =>
    let receivedAt ← ExceptT.lift w.clock
    orFail id (judge probe sentAt receivedAt reply)
  | .error (.timedOut _) => return ⟨probe, sentAt, none, .timeout⟩
  | .error e => throw e

/-- Ends a run after `attempts` probes. -/
def finish (w : Surroundings m) (s : RunSettings) (attempts : Nat) (samples : List Int) :
    ExceptT Failure m Measurement := do
  if (samples.length : Int) < s.target then
    report w .warning (s!"Attempt budget exhausted: {samples.length}/{s.target} samples " ++
      s!"after {attempts} attempts")
    throw (.budget samples.length attempts s.target)
  else
    let result : Measurement := ⟨samples, attempts⟩
    let average ← orFail .number result.averageRttMs
    report w .info (s!"Collected {result.count} samples in {attempts} attempts, " ++
      s!"average RTT {Binary64.fixed 3 average}ms")
    return result

/-- Reports a trial and adds its sample, if it has one. -/
def record (w : Surroundings m) (attempts : Nat) (samples : List Int) (trial : Trial) :
    ExceptT Failure m (List Int) := do
  let about := s!"Attempt {attempts}: id={idText trial.correlationId}"
  match trial.elapsed? with
  | some elapsed =>
    let ms ← orFail .number (millis elapsed)
    report w .debug s!"{about} rtt={Binary64.fixed 3 ms}ms"
    return samples ++ [elapsed]
  | none =>
    report w .debug s!"{about} discarded ({trial.outcome.name})"
    return samples

/-- Probes until there are enough samples, at most `left` times. -/
def loop (w : Surroundings m) (s : RunSettings) :
    (left attempts : Nat) → (samples : List Int) → ExceptT Failure m Measurement
  | 0, attempts, samples => finish w s attempts samples
  | left + 1, attempts, samples => do
    if s.target ≤ samples.length then finish w s attempts samples
    else if ← ExceptT.lift w.cancelled then throw (.cancelled "Measurement cancelled")
    else
      let trial ← attempt w s
      let samples ← record w (attempts + 1) samples trial
      loop w s left (attempts + 1) samples

/-- A whole run with settings that were checked. -/
def run (w : Surroundings m) (s : RunSettings) : ExceptT Failure m Measurement :=
  loop w s s.maxAttempts.toNat 0 []

end

end Run

end ScionEcho
