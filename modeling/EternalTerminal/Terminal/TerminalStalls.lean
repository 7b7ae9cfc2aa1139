/-
A terminal session whose writes may stall: those to the router's socket, in both directions, and
those of the carrier.
-/

import EternalTerminal.Terminal.TerminalSession

namespace EternalTerminal

open Library

namespace TerminalLink

/-- What of the `writeAllOrThrow` under way is out.  There is one for the type byte, one for the
eight bytes of the length and one for the rest. -/
def resent (link : TerminalLink) : Bytes :=
  match link.sent.getLast? with
  | none => []
  | some message =>
      let written := message.frame.length - link.outgoing.length
      let start := if written < 1 then 0 else if written < 9 then 1 else 9
      (message.frame.drop start).take (written - start)

def giveUp (link : TerminalLink) : TerminalLink :=
  { link with outgoing := link.resent ++ link.outgoing }

end TerminalLink

namespace TerminalSession

/-- Whose `write` gives up: one of the carrier, the server's of `TERMINAL_INIT` or of a message, or
the handler's of the output. -/
inductive Stall (carrier : Carrier) where
  | carrier (stall : carrier.Stall)
  | init
  | link
  | output

variable {carrier : Carrier} {forwarder : Forwarder}

/-- A `write` gives up that has not put out all of its buffer. -/
inductive GivesUp (before : TerminalSession carrier forwarder) :
    Stall carrier → TerminalSession carrier forwarder → Prop
  | carrier {stall : carrier.Stall} {between : carrier.State} :
      carrier.givesUp before.between stall between →
      GivesUp before (.carrier stall) { before with between := between }
  | init :
      before.server.turn = .announced → before.init.outgoing ≠ [] →
      GivesUp before .init { before with init := before.init.giveUp }
  -- A type byte is out or it is not.
  | link :
      before.server.turn = .delivering → before.link.outgoing ≠ [] →
      before.link.aborted = false →
      GivesUp before .link { before with link := before.link.giveUp }
  | output :
      before.staged ≠ [] →
      GivesUp before .output
        { before with
          staged := before.flushed ++ before.staged
          flushed := [] }

/-- No `write` gives up once a part of its buffer is out. -/
def sendsOnce (session : TerminalSession carrier forwarder) : Event ⊕ Stall carrier → Prop
  | .inl _ => True
  | .inr (.carrier stall) => carrier.unsent session.between stall
  | .inr .init => session.init.resent = []
  | .inr .link => session.link.resent = []
  | .inr .output => session.flushed = []

theorem GivesUp.idle {before after : TerminalSession carrier forwarder} {stall : Stall carrier}
    (givesUp : before.GivesUp stall after) (once : before.sendsOnce (.inr stall)) :
    after = before := by
  cases givesUp with
  | carrier givesUp => rw [carrier.idle _ _ _ once givesUp]
  | init _ _ => rw [PacketPipe.giveUp_unsent once]
  | link _ _ _ =>
      rw [TerminalLink.giveUp, show before.link.resent = [] from once]
      rfl
  | output _ =>
      have nothing : before.flushed = [] := once
      rw [nothing, List.nil_append, ← nothing]

end TerminalSession

/-- Every interleaving, in which a `write` may give up at any time. -/
def stallingTerminalSystem (carrier : Carrier) (forwarder : Forwarder) (options : ClientOptions)
    (formats : PayloadFormat) :
    TransitionSystem (TerminalSession carrier forwarder)
      (TerminalSession.Event ⊕ TerminalSession.Stall carrier) :=
  (terminalSessionSystem carrier forwarder options formats).withFaults TerminalSession.GivesUp

theorem TerminalSession.reachable_of_sendsOnce {carrier : Carrier} {forwarder : Forwarder}
    {options : ClientOptions} {formats : PayloadFormat}
    {session : TerminalSession carrier forwarder}
    (reached : (stallingTerminalSystem carrier forwarder options formats).ReachableBy
      TerminalSession.sendsOnce session) :
    (terminalSessionSystem carrier forwarder options formats).Reachable session :=
  reached.faultless fun _ _ _ once givesUp => givesUp.idle once

theorem TerminalSession.sendsOnce_of_reachable {carrier : Carrier} {forwarder : Forwarder}
    {options : ClientOptions} {formats : PayloadFormat}
    {session : TerminalSession carrier forwarder}
    (reached : (terminalSessionSystem carrier forwarder options formats).Reachable session) :
    (stallingTerminalSystem carrier forwarder options formats).ReachableBy
      TerminalSession.sendsOnce session :=
  TransitionSystem.ReachableBy.withFaults reached

end EternalTerminal
