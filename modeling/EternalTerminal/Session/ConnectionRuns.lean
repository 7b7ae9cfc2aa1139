/-
What `Connection::write`, `read` and `closeSocket` can do to the wires of a
session.
-/

import EternalTerminal.Session.FrameReading

namespace EternalTerminal

open Library

namespace Connection

structure Live (connection : Connection) (socket : Fd) : Prop where
  own : connection.socketFd = some socket
  reader : connection.reader.socketFd = some socket
  writer : connection.writer.socketFd = some socket

structure Dead (connection : Connection) : Prop where
  own : connection.socketFd = none
  reader : connection.reader.socketFd = none
  writer : connection.writer.socketFd = none

theorem invalidated_dead (connection : Connection) : connection.invalidated.Dead :=
  ⟨rfl, rfl, rfl⟩

theorem revived_live (connection : Connection) (socket : Fd) (entries : List Bytes) :
    (connection.revived socket entries).Live socket :=
  ⟨rfl, rfl, rfl⟩

variable {side : Side} {wires after : Wires} {connection : Connection}

/-- `closeSocket` ends with every descriptor invalid, whatever it started from. -/
theorem closeSocket_run {outcome : Outcome Exn Connection}
    (run : Program.Run (Wires.answers side) wires connection.closeSocket outcome after) :
    after = wires ∧
      outcome = .returned connection.closed := by
  unfold closeSocket at run
  unfold closed
  cases open? : connection.socketFd with
  | none =>
      rw [open?] at run
      obtain ⟨rfl, rfl⟩ := Program.run_done_iff.mp run
      exact ⟨rfl, rfl⟩
  | some fd =>
      rw [open?] at run
      obtain ⟨answer, between, answered, rest⟩ := Program.run_perform_iff.mp run
      obtain ⟨rfl, rfl⟩ := Program.run_done_iff.mp rest
      exact ⟨answered, rfl⟩

/-- What a `write` that returns can have done. -/
inductive WriteResult (box : SecretBox) (side : Side) (wires : Wires)
    (connection : Connection) (packet : Packet) : Bool → Connection → Wires → Prop
  | skipped : WriteResult box side wires connection packet false connection wires
  | buffered :
      connection.writer.socketFd = none →
      packet.encrypted = false →
      WriteResult box side wires connection packet true
        (connection.accepting box packet) wires
  | written {fd : Fd} :
      connection.writer.socketFd = some fd →
      packet.encrypted = false →
      WriteResult box side wires connection packet true
        (connection.accepting box packet)
        (wires.update fd side (·.append
          (BackedWriter.frame (packet.sealed box connection.writer.cryptoHandler))))
  | severed {fd : Fd} (count : Nat) :
      connection.writer.socketFd = some fd →
      packet.encrypted = false →
      WriteResult box side wires connection packet true
        (connection.accepting box packet).closed
        (wires.update fd side (·.append
          ((BackedWriter.frame
            (packet.sealed box connection.writer.cryptoHandler)).take count)))

theorem write_run {box : SecretBox} {packet : Packet} {accepted : Bool}
    {result : Connection}
    (run : Program.Run (Wires.answers side) wires (connection.write box packet)
      (.returned (accepted, result)) after) :
    WriteResult box side wires connection packet accepted result after := by
  unfold write at run
  cases admitted : connection.writer.admits packet with
  | false =>
      rw [BackedWriter.write_skipped box _ packet admitted, Program.done_bind] at run
      obtain ⟨same, rfl⟩ := Program.run_done_iff.mp run
      cases same
      exact .skipped
  | true =>
      cases plain : packet.encrypted with
      | true =>
          rw [BackedWriter.write_encrypted box _ packet admitted plain,
            Program.abort_bind] at run
          cases (Program.run_abort_iff.mp run).1
      | false =>
          rw [BackedWriter.write_admitted box _ packet admitted plain] at run
          cases live : connection.writer.socketFd with
          | none =>
              rw [live] at run
              obtain ⟨same, rfl⟩ := Program.run_done_iff.mp run
              cases same
              exact .buffered live plain
          | some fd =>
              rw [live] at run
              simp only [BackedWriter.transmit, Program.perform_bind] at run
              obtain ⟨answer, between, answered, rest⟩ := Program.run_perform_iff.mp run
              cases answer with
              | ok _ =>
                  cases answered
                  obtain ⟨same, rfl⟩ := Program.run_done_iff.mp rest
                  cases same
                  exact .written live plain
              | error what =>
                  obtain ⟨count, rfl⟩ := answered
                  -- the connection is closed and the caller told of a success
                  simp only [Program.pure_eq_done, Program.done_bind, writeFinished]
                    at rest
                  rcases Program.run_bind_iff.mp rest with
                    ⟨closed, middle, closing, ended⟩ | ⟨_, impossible, _⟩ |
                      ⟨_, impossible, _⟩
                  · obtain ⟨rfl, sameOutcome⟩ := closeSocket_run closing
                    obtain ⟨same, rfl⟩ := Program.run_done_iff.mp ended
                    cases same
                    cases sameOutcome
                    exact .severed count live plain
                  · cases impossible
                  · cases impossible

theorem write_written {box : SecretBox} {packet : Packet} {fd : Fd}
    (live : connection.writer.socketFd = some fd) (plain : packet.encrypted = false) :
    Program.Run (Wires.answers side) wires (connection.write box packet)
      (.returned (true, connection.accepting box packet))
      (wires.update fd side (·.append
        (BackedWriter.frame (packet.sealed box connection.writer.cryptoHandler)))) := by
  have admitted : connection.writer.admits packet = true := by
    simp [BackedWriter.admits, live]
  unfold write
  rw [BackedWriter.write_admitted box _ packet admitted plain, live]
  exact Program.run_perform_iff.mpr ⟨.ok (), _, rfl, .done _ _⟩

theorem write_severed {box : SecretBox} {packet : Packet} {fd : Fd}
    (alive : connection.socketFd = some fd) (live : connection.writer.socketFd = some fd)
    (plain : packet.encrypted = false) :
    Program.Run (Wires.answers side) wires (connection.write box packet)
      (.returned (true, (connection.accepting box packet).invalidated))
      (wires.update fd side (·.append [])) := by
  have admitted : connection.writer.admits packet = true := by
    simp [BackedWriter.admits, live]
  have closes : (connection.accepting box packet).closeSocket =
      .perform (.close fd) fun _ => pure (connection.accepting box packet).invalidated := by
    unfold closeSocket
    rw [show (connection.accepting box packet).socketFd = some fd from alive]
    rfl
  unfold write
  rw [BackedWriter.write_admitted box _ packet admitted plain, live]
  refine Program.run_perform_iff.mpr ⟨.error "", _, ⟨0, rfl⟩, ?_⟩
  show Program.Run (Wires.answers side) _
    ((connection.accepting box packet).closeSocket >>= fun closed => pure (true, closed)) _ _
  rw [closes]
  exact Program.run_perform_iff.mpr ⟨(), _, rfl, .done _ _⟩

/-- A dead connection backs a plain packet up when the disconnect buffer has
room for it. -/
theorem write_buffered {box : SecretBox} {packet : Packet}
    (dead : connection.writer.socketFd = none)
    (admitted : connection.writer.admits packet = true)
    (plain : packet.encrypted = false) :
    Program.Run (Wires.answers side) wires (connection.write box packet)
      (.returned (true, connection.accepting box packet)) wires := by
  unfold write
  rw [BackedWriter.write_admitted box _ packet admitted plain, dead]
  exact .done _ _

/-- What a `read` that returns can have done to a connection of one socket, when
the stream holds the frames of `ahead`. -/
inductive ReadResult (box : SecretBox) (side : Side) (wires : Wires)
    (connection : Connection) (socket : Fd) (ahead : List Packet) :
    Option Packet → Connection → Wires → Prop
  | recovered {packet : Packet} {front : Bytes} {rest : List Bytes} :
      connection.reader.localBuffer = front :: rest →
      packet.encrypted = false →
      front = (packet.sealed box connection.reader.cryptoHandler).serialize →
      ReadResult box side wires connection socket ahead (some packet)
        { connection with
          reader := { connection.reader with
            cryptoHandler := connection.reader.cryptoHandler.incrementNonce
            localBuffer := rest } }
        wires
  | severed {got : Bytes} :
      connection.reader.localBuffer = [] →
      got <+: (wires socket side.other).available →
      ReadResult box side wires connection socket ahead none
        { connection with reader := connection.reader.extended got }.invalidated
        (wires.update socket side.other (·.take got.length))
  | partly {got : Bytes} :
      connection.reader.localBuffer = [] →
      got <+: (wires socket side.other).available →
      BackedReader.Unfinished (connection.reader.partialMessage ++ got) ahead →
      ReadResult box side wires connection socket ahead none
        { connection with reader := connection.reader.extended got }
        (wires.update socket side.other (·.take got.length))
  | packet {packet : Packet} {got : Bytes} {rest : List Packet} :
      connection.reader.localBuffer = [] →
      got <+: (wires socket side.other).available →
      packet.encrypted = false →
      ahead = packet.sealed box connection.reader.cryptoHandler :: rest →
      connection.reader.partialMessage ++ got =
        BackedWriter.frame (packet.sealed box connection.reader.cryptoHandler) →
      ReadResult box side wires connection socket ahead (some packet)
        { connection with reader := connection.reader.advanced }
        (wires.update socket side.other (·.take got.length))

/-- A local buffer of serialized packets that are sealed at the reader's nonce. -/
def Buffered (box : SecretBox) (connection : Connection) : Prop :=
  ∀ front rest, connection.reader.localBuffer = front :: rest →
    ∃ packet : Packet, packet.encrypted = false ∧
      front = (packet.sealed box connection.reader.cryptoHandler).serialize

theorem read_buffered {box : SecretBox} {socket : Fd} {packet : Packet}
    {rest : List Bytes} (live : connection.Live socket)
    (buffer : connection.reader.localBuffer =
      (packet.sealed box connection.reader.cryptoHandler).serialize :: rest)
    (plain : packet.encrypted = false) :
    connection.read box =
      .done (some packet,
        { connection with
          reader := { connection.reader with
            cryptoHandler := connection.reader.cryptoHandler.incrementNonce
            localBuffer := rest } }) := by
  unfold read BackedReader.read
  rw [live.reader, buffer]
  simp only [Packet.deserialize_serialize, Program.done_bind,
    Packet.decrypt_sealed box _ packet plain, Program.pure_eq_done, live.reader]

/-- Every outcome of a `read`: none throws and none aborts. -/
theorem read_run {box : SecretBox} {socket : Fd} {ahead : List Packet}
    {outcome : Outcome Exn (Option Packet × Connection)}
    (run : Program.Run (Wires.answers side) wires (connection.read box) outcome after)
    (live : connection.Live socket)
    (buffered : connection.Buffered box)
    (stream : connection.reader.partialMessage ++
      (wires socket side.other).available <+: frames ahead)
    (unfinished : BackedReader.Unfinished connection.reader.partialMessage ahead)
    (readable : connection.reader.localBuffer = [] →
      BackedReader.Readable box connection.reader ahead) :
    ∃ packet result, outcome = .returned (packet, result) ∧
      ReadResult box side wires connection socket ahead packet result after := by
  cases buffer : connection.reader.localBuffer with
  | cons front rest =>
      obtain ⟨packet, plain, shape⟩ := buffered front rest buffer
      rw [shape] at buffer
      rw [read_buffered live buffer plain] at run
      obtain ⟨rfl, rfl⟩ := Program.run_done_iff.mp run
      exact ⟨_, _, rfl, .recovered buffer plain rfl⟩
  | nil =>
      have readable := readable buffer
      have fromSocket : connection.reader.read box =
          connection.reader.readSocket box socket := by
        unfold BackedReader.read
        rw [live.reader, buffer]
      unfold read at run
      rw [fromSocket] at run
      rcases Program.run_bind_iff.mp run with
        ⟨⟨result, reader⟩, between, reading, rest⟩ | ⟨exn, rfl, reading⟩ |
          ⟨message, rfl, reading⟩
      · obtain ⟨got, gotPrefix, rfl, outcomeEq⟩ :=
          BackedReader.readSocket_run reading stream unfinished readable
        cases outcomeEq with
        | failed errno _ =>
            rcases Program.run_bind_iff.mp rest with
              ⟨closed, middle, closing, ended⟩ | ⟨exn, rfl, closing⟩ |
                ⟨message, rfl, closing⟩
            · obtain ⟨rfl, sameOutcome⟩ := closeSocket_run closing
              obtain ⟨rfl, rfl⟩ := Program.run_done_iff.mp ended
              have alive : ({ connection with reader := connection.reader.extended got } :
                  Connection).socketFd ≠ none := by
                show connection.socketFd ≠ none
                rw [live.own]
                exact Option.some_ne_none socket
              rw [closed_of_live alive] at sameOutcome
              cases sameOutcome
              exact ⟨_, _, rfl, .severed buffer gotPrefix⟩
            · cases (closeSocket_run closing).2
            · cases (closeSocket_run closing).2
        | incomplete stillUnfinished =>
            obtain ⟨rfl, rfl⟩ := Program.run_done_iff.mp rest
            exact ⟨_, _, rfl, .partly buffer gotPrefix stillUnfinished⟩
        | packet plain shape whole =>
            obtain ⟨rfl, rfl⟩ := Program.run_done_iff.mp rest
            exact ⟨_, _, rfl, .packet buffer gotPrefix plain shape whole⟩
      · obtain ⟨_, _, _, impossible⟩ :=
          BackedReader.readSocket_run reading stream unfinished readable
        cases impossible
      · obtain ⟨_, _, _, impossible⟩ :=
          BackedReader.readSocket_run reading stream unfinished readable
        cases impossible

theorem read_frame {box : SecretBox} {socket : Fd} {packet : Packet} {image : Bytes}
    (live : connection.Live socket)
    (buffer : connection.reader.localBuffer = [])
    (empty : connection.reader.partialMessage = [])
    (plain : packet.encrypted = false)
    (imageEq : BackedWriter.frame
      (packet.sealed box connection.reader.cryptoHandler) = image)
    (short : image.length < 2 ^ 31)
    (isPrefix : image <+: (wires socket side.other).available) :
    Program.Run (Wires.answers side) wires (connection.read box)
      (.returned (some packet, { connection with reader := connection.reader.advanced }))
      (wires.update socket side.other (·.take image.length)) := by
  have fromSocket : connection.reader.read box =
      connection.reader.readSocket box socket := by
    unfold BackedReader.read
    rw [live.reader, buffer]
  unfold read
  rw [fromSocket]
  exact Program.run_bind_iff.mpr (Or.inl ⟨_, _,
    BackedReader.readSocket_frame plain imageEq short empty isPrefix, .done _ _⟩)

theorem read_dead {box : SecretBox} (dead : connection.Dead) :
    connection.read box = .done (none, connection) := by
  unfold read BackedReader.read
  rw [dead.reader]
  rfl

end Connection

end EternalTerminal
