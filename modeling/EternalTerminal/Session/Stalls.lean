/-
Sessions whose writes may stall.

`recover` sends its two messages with `writeAllOrThrow` over `UnixSocketHandler::write`, which
gives up with EAGAIN after five seconds whatever it has handed over by then.  The loop around it
takes that for nothing written and starts again with the first byte of its buffer.
-/

import EternalTerminal.Library.Faults
import EternalTerminal.Session.Session

namespace EternalTerminal

open Library

namespace Activity

variable {β : Type}

/-- The `write` under way gives up, and `writeAllOrThrow` makes the next one of the whole
buffer. -/
def giveUp : Activity β → Activity β
  | ⟨.perform (.writeAll fd buffer) next, _⟩ => begin (.perform (.writeAll fd buffer) next)
  | activity => activity

/-- Some of the buffer is out and some is not. -/
def partSent : Activity β → Bool
  | ⟨.perform (.writeAll _ _) _, progress⟩ => !progress.isEmpty
  | _ => false

theorem giveUp_unsent {activity : Activity β} (unsent : activity.partSent = false) :
    activity.giveUp = activity := by
  obtain ⟨program, progress⟩ := activity
  cases program with
  | done value => rfl
  | raise exn => rfl
  | abort message => rfl
  | perform operation next =>
      cases operation with
      | writeAll fd buffer =>
          have nothing : progress = [] := by simpa [partSent] using unsent
          rw [nothing]
          rfl
      | readAll fd count => rfl
      | read fd count => rfl
      | close fd => rfl

end Activity

/-- A `recover` of this end has a message partly on its socket. -/
def Endpoint.partSent (endpoint : Endpoint) : Bool :=
  match endpoint.recovering with
  | some (_, activity) => activity.partSent
  | none => false

namespace Session

/-- The `write` in the `recover` of this side gives up. -/
inductive GivesUp (before : Session) (side : Side) : Session → Prop
  | recover {socket : Fd} {activity : Activity (Bool × Connection)} :
      (before.endpoint side).recovering = some (socket, activity) →
      GivesUp before side
        (before.setEndpoint side
          { before.endpoint side with recovering := some (socket, activity.giveUp) })

theorem setEndpoint_self (session : Session) (side : Side) :
    session.setEndpoint side (session.endpoint side) = session := by
  unfold setEndpoint
  rw [Function.update_eq_self]

theorem GivesUp.unsent {before after : Session} {side : Side}
    (givesUp : before.GivesUp side after) (unsent : (before.endpoint side).partSent = false) :
    after = before := by
  cases givesUp with
  | @recover socket activity recovering =>
      rw [Endpoint.partSent, recovering] at unsent
      rw [Activity.giveUp_unsent unsent, ← recovering]
      exact before.setEndpoint_self side

end Session

/-- Every interleaving of the two sides, in which a `write` of `recover` may give up at any
time. -/
def stallingSystem (box : SecretBox) (proto : Protobuf) (key : Key) :
    TransitionSystem Session ((Side × SessionEvent) ⊕ Side) :=
  (sessionSystem box proto key).withFaults Session.GivesUp

namespace Session

def limited (session : Session) : (Side × SessionEvent) ⊕ Side → Prop
  | .inl label => session.withinLimits label
  | .inr _ => True

/-- Moreover, no `write` gives up once a part of its buffer is out. -/
def sendsOnce (session : Session) : (Side × SessionEvent) ⊕ Side → Prop
  | .inl label => session.withinLimits label
  | .inr side => (session.endpoint side).partSent = false

theorem reachable_of_sendsOnce {box : SecretBox} {proto : Protobuf} {key : Key}
    {session : Session}
    (reached : (stallingSystem box proto key).ReachableBy sendsOnce session) :
    (sessionSystem box proto key).ReachableBy withinLimits session :=
  reached.faultless fun _ _ _ unsent givesUp => givesUp.unsent unsent

end Session

end EternalTerminal
