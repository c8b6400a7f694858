import ScionEcho.CommandLine.ResponderCommand
import ScionEcho.CommandLine.ClientCommand
import ScionEcho.Scripted.Database
import ScionEcho.Scripted.Mailbox
import ScionEcho.Scripted.Session
import ScionEcho.Scripted.Terminal

/-!
# Scripted commands

The two commands in a scripted world: what they print, and how they end.
-/

namespace ScionEcho.Scripted

/-- What a command left behind. -/
structure CommandReport where
  exit : Exit
  terminal : Terminal
  trace : Trace

/-! ### The client -/

abbrev ClientM := StateT Stage (StateT Terminal (StateM Trace))

namespace ClientM

/-- The session of the stage, unless it cannot be opened. -/
def peer (openFailure : Option String) : Peer ClientM :=
  { connect := fun src dst recvBuffer => do
      note (.opened src dst recvBuffer)
      failIf (fun text => .transport (.reported text)) openFailure
      return (src, dst)
    discardPending := Stage.discardPending
    send := Stage.send
    receive := fun timeout => Stage.receive timeout (some ())
    close := note .closed }

def world (openFailure : Option String) (d : Database) : ClientWorld ClientM :=
  { console := Terminal.console
    peer := fun _ => peer openFailure
    drawId := IdSource.drawFrom Stage.nextId?
    clock := Stage.readClock
    cancelled := Stage.isCancelled
    cancel := modifyThe Stage Stage.cancel
    installHandlers := Terminal.handleSignals true
    restoreHandlers := Terminal.handleSignals false
    observe := fun settings => note (.started settings)
    influx := d.client }

end ClientM

def Stage.clientCommand (s : Stage) (t : Terminal) (openFailure : Option String) (d : Database)
    (o : ClientOptions) : CommandReport :=
  let (((exit, _), terminal), trace) :=
    (((ClientCommand.run (ClientM.world openFailure d) o).run s).run t).run []
  ⟨exit, terminal, trace⟩

/-! ### The responder -/

abbrev ResponderM := StateT Mailbox (StateT Terminal (StateM Trace))

def ResponderM.world : ResponderWorld ResponderM :=
  { console := Terminal.console
    socket := {
      create := fun family => note (.created family)
      bind := Mailbox.bind
      localPort := return (← getThe Mailbox).osPort
      setTimeout := Mailbox.setTimeout
      receive := Mailbox.receive
      send := Mailbox.send
      close := note .closed }
    cancelled := Mailbox.isCancelled
    cancel := modifyThe Mailbox Mailbox.cancel
    installHandlers := Terminal.handleSignals true }

def Mailbox.responderCommand (b : Mailbox) (t : Terminal) (o : ResponderOptions) :
    CommandReport :=
  let (((exit, _), terminal), trace) :=
    (((ResponderCommand.run ResponderM.world o b.rounds).run b).run t).run []
  ⟨exit, terminal, trace⟩

end ScionEcho.Scripted
