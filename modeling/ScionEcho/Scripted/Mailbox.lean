import ScionEcho.Scripted.Trace

/-!
# Scripted mailboxes

The socket of a responder whose datagrams, timeouts and failures are queued beforehand.
-/

namespace ScionEcho.Scripted

/-- What happens while a responder waits. -/
structure Delivery where
  /-- The responder is told to end before anything else happens. -/
  cancels : Bool := false
  /-- The signals that are delivered. -/
  signals : List Int := []
  /-- A datagram, a timeout or a failure. -/
  outcome : Except OsError (Option (Bytes × Sender))

/-- The state of a scripted mailbox. -/
structure Mailbox where
  queue : List Delivery := []
  osPort : Int := 0
  bindFailure : Option String := none
  sendFailure : Option String := none
  /-- Whether the responder is told to end; nothing if it cannot be told. -/
  cancelled : Option Bool := none
  /-- Whether an empty queue tells the responder to end. -/
  endsWhenEmpty : Bool := true
  /-- Whether the setting of timeouts is written down. -/
  notesTimeouts : Bool := true

namespace Mailbox

/-- The mailbox with the responder told to end, if it can be told. -/
def cancel (b : Mailbox) : Mailbox := { b with cancelled := b.cancelled.map fun _ => true }

/-- A datagram of which at most `size` bytes are kept. -/
def cutOff (size : Int) : Option (Bytes × Sender) → Option (Bytes × Sender) :=
  Option.map fun (data, sender) => (firstBytes size data, sender)

def take (b : Mailbox) (size : Int) :
    (List Int × Except OsError (Option (Bytes × Sender))) × Mailbox :=
  match b.queue with
  | [] => (([], .ok none), if b.endsWhenEmpty then b.cancel else b)
  | next :: queue =>
    let b := { b with queue }
    ((next.signals, next.outcome.map (cutOff size)), if next.cancels then b.cancel else b)

section

variable {m : Type → Type} [Monad m] [MonadStateOf Mailbox m] [MonadStateOf Trace m]

def bind (address : Underlay) : ExceptT OsError m Unit := do
  note (.bound address)
  failIf OsError.mk (← getThe Mailbox).bindFailure

def setTimeout (timeout : Option Float) : m Unit := do
  if (← getThe Mailbox).notesTimeouts then note (.timeoutSet timeout)

def send (data : Bytes) (address : Sender) : ExceptT OsError m Unit := do
  note (.sentTo data address)
  failIf OsError.mk (← getThe Mailbox).sendFailure

def isCancelled : m Bool := return (← getThe Mailbox).cancelled.getD false

def receive (size : Int) : m (List Int × Except OsError (Option (Bytes × Sender))) :=
  modifyGetThe Mailbox fun b => b.take size

/-- What the mailbox offers to a responder. -/
def listening : Listening m :=
  { create := fun family => note (.created family)
    bind, setTimeout, send
    localPort := return (← getThe Mailbox).osPort
    receive := fun size => ExceptT.mk (Prod.snd <$> receive size)
    close := note .closed
    cancelled := isCancelled
    log := noteLog }

end

/-! ### Steps of a responder -/

/-- What is done with a responder, and what is queued for it. -/
inductive Step
  | serveOnce (timeout : Option Float)
  /-- Serves until told to end. -/
  | serve
  | stop
  /-- Serves in the background until told to end, and stops then. The start may be repeated. -/
  | background (twice : Bool)

abbrev MailboxM := StateT Mailbox (StateM Trace)

/-- The rounds that suffice to empty the queue and to notice it. -/
def rounds (b : Mailbox) : Nat := b.queue.length + 2

/-- The failure that serving ended with, if it did. -/
def failureOf : Responder.Served → Except OsError (Option Int)
  | .failed cause => .error cause
  | .ended | .serving => .ok none

/-- Serves in the background. A failure there ends serving and goes no further. -/
def background (r : Responder) (twice : Bool) : MailboxM Responder := do
  Responder.reportStarted listening r
  if twice then Responder.reportRunning listening
  let (r, _) ← Responder.serve listening (← getThe Mailbox).rounds r
  Responder.stop listening
  return r

def step (r : Responder) : Step → MailboxM (Responder × Except OsError (Option Int))
  | .serveOnce timeout => do
    modifyThe Mailbox fun b => { b with cancelled := none, notesTimeouts := true }
    Responder.serveOnce listening r timeout
  | .serve => do
    modifyThe Mailbox fun b => { b with cancelled := some false, notesTimeouts := true }
    let (r, served) ← Responder.serve listening (← getThe Mailbox).rounds r
    return (r, failureOf served)
  | .stop => do
    Responder.stop listening
    return (r, .ok none)
  | .background twice => do
    modifyThe Mailbox fun b => { b with cancelled := some false, notesTimeouts := false }
    return (← background r twice, .ok none)

/-- What a step led to: the id that was answered, the number of replies so far, and what was
done. -/
structure Report where
  result : Except OsError (Option Int)
  repliesSent : Nat
  trace : Trace

/-- Does all steps, each with a queue of its own. -/
def steps (r : Responder) : List (Step × List Delivery) → Mailbox → List Report
  | [], _ => []
  | (next, queue) :: rest, b =>
    let (((r, result), b), trace) := ((step r next).run { b with queue }).run []
    ⟨result, r.repliesSent, trace⟩ :: steps r rest b

/-- Binds a responder and does all steps, which are left out if it cannot be bound. -/
def responder (b : Mailbox) (src : Endpoint) (recvBuffer : Int)
    (script : List (Step × List Delivery)) :
    (Except OsError Responder × Trace) × List Report :=
  let ((bound, b), trace) :=
    ((Responder.listen (m := MailboxM) listening src recvBuffer).run.run b).run []
  match bound with
  | .error cause => ((.error cause, trace), [])
  | .ok r => ((.ok r, trace), steps r script b)

end Mailbox

end ScionEcho.Scripted
