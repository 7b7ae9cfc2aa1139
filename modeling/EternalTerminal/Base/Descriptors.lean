/-
The descriptors of a socket handler.

A number stands for one socket until it is closed, and may then stand for another.  The
handler knows the numbers that are active, and a call of `close` on another one does nothing.
-/

import EternalTerminal.Base.PeerSocket

namespace EternalTerminal

open Library

/-- The socket that each active number stands for, and the calls of `close` so far with the
socket that each of them closed. -/
structure Descriptors where
  peer : PeerSocket
  active : Fd → Option Nat
  closes : List (Fd × Option Nat)

namespace Descriptors

/-- The handler after `close(fd)`. -/
def close (descriptors : Descriptors) (fd : Fd) : Descriptors :=
  { descriptors with
    active := Function.update descriptors.active fd none
    closes := descriptors.closes ++ [(fd, descriptors.active fd)] }

def answers (descriptors : Descriptors) : (operation : SocketCall) →
    SocketCall.Answer operation → Descriptors → Prop
  | .close fd, (), next => next = descriptors.close fd
  | .writeAll fd buffer, answer, next =>
      PeerSocket.answers descriptors.peer (.writeAll fd buffer) answer next.peer ∧
        next = { descriptors with peer := next.peer }
  | .readAll fd count, answer, next =>
      PeerSocket.answers descriptors.peer (.readAll fd count) answer next.peer ∧
        next = { descriptors with peer := next.peer }
  | .read fd count, answer, next =>
      PeerSocket.answers descriptors.peer (.read fd count) answer next.peer ∧
        next = { descriptors with peer := next.peer }

def closesNothing : SocketCall → Prop
  | .close _ => False
  | _ => True

variable {α : Type} {descriptors after : Descriptors}

theorem run_peer {program : Action α} {outcome : Outcome Exn α}
    (performs : program.Performs closesNothing)
    (run : Program.Run answers descriptors program outcome after) :
    Program.Run PeerSocket.answers descriptors.peer program outcome after.peer ∧
      after.active = descriptors.active ∧ after.closes = descriptors.closes := by
  induction run with
  | done world value => exact ⟨.done _ _, rfl, rfl⟩
  | raise world exn => exact ⟨.raise _ _, rfl, rfl⟩
  | abort world message => exact ⟨.abort _ _, rfl, rfl⟩
  | @perform world between after operation next answer outcome answered rest ih =>
      cases performs with
      | perform permitted later =>
          obtain ⟨ran, same⟩ := ih (later answer)
          have step : PeerSocket.answers world.peer operation answer between.peer ∧
              between = { world with peer := between.peer } := by
            cases operation with
            | writeAll fd buffer => exact answered
            | readAll fd count => exact answered
            | read fd count => exact answered
            | close fd => exact permitted.elim
          rw [step.2] at same
          exact ⟨.perform step.1 ran, same⟩

theorem run_of_peer {program : Action α} {outcome : Outcome Exn α} {socket later : PeerSocket}
    (performs : program.Performs closesNothing)
    (run : Program.Run PeerSocket.answers socket program outcome later)
    (isPeer : descriptors.peer = socket) :
    Program.Run answers descriptors program outcome { descriptors with peer := later } := by
  induction run generalizing descriptors with
  | done socket value =>
      subst isPeer
      exact .done _ _
  | raise socket exn =>
      subst isPeer
      exact .raise _ _
  | abort socket message =>
      subst isPeer
      exact .abort _ _
  | @perform socket between after operation next answer outcome answered rest ih =>
      subst isPeer
      cases performs with
      | perform permitted later =>
          have step :
              answers descriptors operation answer { descriptors with peer := between } := by
            cases operation with
            | writeAll fd buffer => exact ⟨answered, rfl⟩
            | readAll fd count => exact ⟨answered, rfl⟩
            | read fd count => exact ⟨answered, rfl⟩
            | close fd => exact permitted.elim
          exact .perform step (ih (later answer) rfl)

end Descriptors

namespace SocketHandler

variable {α : Type} (proto : ProtoMessage α) (fd : Fd)

theorem writeAllOrThrow_closesNothing (buffer : Bytes) :
    (writeAllOrThrow fd buffer).Performs Descriptors.closesNothing := by
  refine .perform trivial ?_
  intro answer
  cases answer with
  | ok done => exact .done _
  | error what => exact .raise _

theorem readAll_closesNothing (count : Nat) :
    (readAll fd count).Performs Descriptors.closesNothing := by
  refine .perform trivial ?_
  intro answer
  cases answer with
  | ok bytes => exact .done _
  | error what => exact .raise _

theorem writeProto_closesNothing (message : α) :
    (writeProto proto fd message).Performs Descriptors.closesNothing := by
  unfold writeProto
  simp only
  split
  · exact .abort _
  · refine (writeAllOrThrow_closesNothing fd _).bind ?_
    intro written
    split
    · exact writeAllOrThrow_closesNothing fd _
    · exact .done _

theorem readProto_closesNothing :
    (readProto proto fd).Performs Descriptors.closesNothing := by
  refine (readAll_closesNothing fd _).bind ?_
  intro prefixBytes
  unfold readProtoBody
  split
  · exact .raise _
  · split
    · exact .done _
    · refine (readAll_closesNothing fd _).bind ?_
      intro serialized
      split
      · exact .raise _
      · exact .done _

end SocketHandler

end EternalTerminal
