/-
The three descriptors of a connection go together.

Whatever a call is answered, it leaves all of them on one socket or none of them on any.  A
connection that is shut down has none, and only a recovery gives it another.
-/

import EternalTerminal.Base.RecoverMethod
import EternalTerminal.Base.ServerConnection
import EternalTerminal.Session.ConnectionRuns

namespace EternalTerminal

open Library
open SocketHandler

namespace BackedReader

variable {box : SecretBox}

theorem constructPartialMessage_socketFd (box : SecretBox) (reader : BackedReader) :
    (constructPartialMessage box reader).Returns
      fun result => result.2.socketFd = reader.socketFd := by
  unfold constructPartialMessage
  simp only
  split
  · exact .abort _
  · refine (Program.Returns.always _).bind fun packet _ => ?_
    exact (Program.Returns.always _).bind fun opened _ => .done rfl

theorem readBody_socketFd (box : SecretBox) (reader : BackedReader) (fd : Fd) :
    (readBody box reader fd).Returns fun result => result.2.socketFd = reader.socketFd := by
  unfold readBody
  simp only
  split
  · split
    · exact .raise _
    · refine (Program.Returns.always _).bind fun answer _ => ?_
      cases answer with
      | data bytes =>
          simp only
          split
          · exact constructPartialMessage_socketFd box (reader.extended bytes)
          · exact .done rfl
      | closed => exact .done rfl
      | failed errno => exact .done rfl
  · exact constructPartialMessage_socketFd box reader

theorem read_socketFd (box : SecretBox) (reader : BackedReader) :
    (reader.read box).Returns fun result => result.2.socketFd = reader.socketFd := by
  unfold read
  split
  · exact .done rfl
  · split
    · refine (Program.Returns.always _).bind fun packet _ => ?_
      exact (Program.Returns.always _).bind fun opened _ => .done rfl
    · unfold readSocket
      split
      · refine (Program.Returns.always _).bind fun answer _ => ?_
        cases answer with
        | data bytes =>
            simp only
            split
            · exact .done rfl
            · exact readBody_socketFd box (reader.extended bytes) _
        | closed => exact .done rfl
        | failed errno => exact .done rfl
      · exact readBody_socketFd box reader _

end BackedReader

theorem BackedWriter.write_socketFd (box : SecretBox) (writer : BackedWriter)
    (packet : Packet) :
    (writer.write box packet).Returns fun result => result.2.socketFd = writer.socketFd := by
  unfold write
  split
  · exact .done rfl
  · refine (Program.Returns.always _).bind fun sealed _ => ?_
    obtain ⟨packet, cryptoHandler⟩ := sealed
    simp only
    split
    · exact .done (backup_socketFd _ _ _)
    · split
      · exact .abort _
      · exact (Program.Returns.always _).bind fun state _ => .done (backup_socketFd _ _ _)

namespace Connection

variable {proto : Protobuf} {box : SecretBox} {connection state : Connection} {fd : Fd}

def Settled (connection : Connection) : Prop :=
  (∃ fd, connection.Live fd) ∨ connection.Dead

theorem Settled.closed (settled : connection.Settled) : connection.closed.Dead := by
  rcases settled with ⟨fd, live⟩ | dead
  · rw [closed_of_live (by simp [live.own])]
    exact invalidated_dead connection
  · rw [closed_of_dead dead.own]
    exact dead

theorem closeSocket_returns (connection : Connection) :
    connection.closeSocket.Returns (· = connection.closed) := by
  unfold closeSocket closed
  cases connection.socketFd with
  | none => exact .done rfl
  | some fd => exact .perform fun _ => .done rfl

/-- What `Connection::shutdown` leaves. -/
def afterShutdown (connection : Connection) : Connection :=
  { connection with shuttingDown := true }.closed

theorem shutdown_returns (connection : Connection) :
    connection.shutdown.Returns (· = connection.afterShutdown) :=
  closeSocket_returns _

theorem Settled.afterShutdown (settled : connection.Settled) :
    connection.afterShutdown.Dead :=
  have stopping : Settled { connection with shuttingDown := true } :=
    settled.imp (fun ⟨fd, live⟩ => ⟨fd, live.own, live.reader, live.writer⟩)
      fun dead => ⟨dead.own, dead.reader, dead.writer⟩
  stopping.closed

inductive Uses (box : SecretBox) (connection : Connection) : Connection → Prop
  | read {delivered : Option Packet} {after : Connection} {socket later : PeerSocket} :
      Program.Run PeerSocket.answers socket (connection.read box)
        (.returned (delivered, after)) later →
      Uses box connection after
  | write {packet : Packet} {written : Bool} {after : Connection}
      {socket later : PeerSocket} :
      Program.Run PeerSocket.answers socket (connection.write box packet)
        (.returned (written, after)) later →
      Uses box connection after
  | closeSocket {after : Connection} {socket later : PeerSocket} :
      Program.Run PeerSocket.answers socket connection.closeSocket (.returned after) later →
      Uses box connection after

structure Follows (connection other : Connection) : Prop where
  descriptors :
    (other.socketFd = connection.socketFd ∧
      other.reader.socketFd = connection.reader.socketFd ∧
      other.writer.socketFd = connection.writer.socketFd) ∨ other.Dead
  shuttingDown : other.shuttingDown = connection.shuttingDown

theorem Follows.settled (follows : connection.Follows state) (settled : connection.Settled) :
    state.Settled := by
  rcases follows.descriptors with ⟨own, reader, writer⟩ | dead
  · rcases settled with ⟨fd, live⟩ | dead
    · exact Or.inl ⟨fd, own.trans live.own, reader.trans live.reader, writer.trans live.writer⟩
    · exact Or.inr ⟨own.trans dead.own, reader.trans dead.reader, writer.trans dead.writer⟩
  · exact Or.inr dead

theorem Follows.dead (follows : connection.Follows state) (dead : connection.Dead) :
    state.Dead := by
  rcases follows.descriptors with ⟨own, reader, writer⟩ | dead
  · exact ⟨own.trans dead.own, reader.trans dead.reader, writer.trans dead.writer⟩
  · exact dead

theorem closed_shuttingDown (connection : Connection) :
    connection.closed.shuttingDown = connection.shuttingDown := by
  unfold closed
  split <;> rfl

theorem afterShutdown_shuttingDown (connection : Connection) :
    connection.afterShutdown.shuttingDown = true :=
  closed_shuttingDown _

theorem closed_follows (settled : connection.Settled) : connection.Follows connection.closed :=
  ⟨Or.inr settled.closed, closed_shuttingDown connection⟩

theorem read_follows (settled : connection.Settled) :
    (connection.read box).Returns fun result => connection.Follows result.2 := by
  refine (connection.reader.read_socketFd box).bind fun result same => ?_
  obtain ⟨result, reader⟩ := result
  have kept : connection.Follows { connection with reader := reader } :=
    ⟨Or.inl ⟨rfl, same, rfl⟩, rfl⟩
  cases result with
  | error errno =>
      refine (closeSocket_returns _).bind fun after closed => ?_
      rw [closed]
      exact .done ⟨Or.inr (kept.settled settled).closed, closed_shuttingDown _⟩
  | incomplete => exact .done kept
  | packet packet => exact .done kept

theorem write_follows (settled : connection.Settled) (packet : Packet) :
    (connection.write box packet).Returns fun result => connection.Follows result.2 := by
  refine (connection.writer.write_socketFd box packet).bind fun result same => ?_
  obtain ⟨state, writer⟩ := result
  have kept : connection.Follows { connection with writer := writer } :=
    ⟨Or.inl ⟨rfl, rfl, same⟩, rfl⟩
  cases state with
  | SKIPPED => exact .done kept
  | BUFFERED_ONLY => exact .done kept
  | SUCCESS => exact .done kept
  | WROTE_WITH_FAILURE =>
      refine (closeSocket_returns _).bind fun after closed => ?_
      rw [closed]
      exact .done ⟨Or.inr (kept.settled settled).closed, closed_shuttingDown _⟩

theorem Uses.follows (uses : Uses box connection state) (settled : connection.Settled) :
    connection.Follows state := by
  cases uses with
  | read run => exact (read_follows settled).of_run run
  | write run => exact (write_follows settled _).of_run run
  | closeSocket run =>
      rw [(closeSocket_returns connection).of_run run]
      exact closed_follows settled

/-! ### Recoveries -/

/-- A recovery leaves the connection alone, or puts it on the new descriptor. -/
theorem recover_returns (proto : Protobuf) (connection : Connection) (fd : Fd) :
    (connection.recover proto fd).Returns fun result =>
      result = (false, connection) ∨ ∃ entries, result = (true, connection.revived fd entries)
      := by
  refine Program.Returns.handle ?_ fun exn => ?_
  · refine (Program.Returns.always _).bind fun _ _ => ?_
    refine (Program.Returns.always _).bind fun remoteHeader _ => ?_
    refine (Program.Returns.always _).bind fun recovered _ => ?_
    refine (Program.Returns.always _).bind fun _ _ => ?_
    exact (Program.Returns.always _).bind fun catchup _ =>
      .done (Or.inr ⟨catchup.buffer, rfl⟩)
  · cases exn with
    | runtimeError what => exact .perform fun _ => .done (Or.inl rfl)
    | lengthError => exact .raise _
    | outOfRange => exact .raise _

end Connection

end EternalTerminal
