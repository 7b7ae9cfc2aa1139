/-
One iteration of the loops of `TerminalClient::run`, `TerminalServer::runTerminal`,
`TerminalServer::runJumpHost` and `UserJumphostHandler::run`, as far as the packets go that it
reads from the connection.

What `select` and the calls on other descriptors report is given with the iteration, and so is
what each `writePacket` leaves of the connection.  What a loop does with a packet it has read is
a parameter.
-/

import EternalTerminal.Base.SocketReads
import EternalTerminal.Session.ConnectionRuns
import EternalTerminal.Terminal.UserTerminalHandler

namespace EternalTerminal

open Library

/-! ### The connection -/

/-- What a `writePacket` has met before it returns: the packet is out or in the buffer, the
send has failed (and the reconnect thread has recovered since), the packet has waited for a
recovery, or `shutdown` was called. -/
inductive WriteEffect where
  | accepted
  | severed
  | severedRecovered (newSocketFd : Fd) (newLocalEntries : List Bytes)
  | waited (newSocketFd : Fd) (newLocalEntries : List Bytes)
  | dropped

namespace Connection

variable {box : SecretBox} {connection after : Connection} {packet : Packet}

def readPacket (box : SecretBox) (connection : Connection) :
    Action (Option Packet × Connection) :=
  if connection.shuttingDown then pure (none, connection)
  else connection.read box

def canBufferWrite (connection : Connection) (bytes : Int) : Bool :=
  connection.shuttingDown || connection.writer.hasBufferCapacity bytes

/-- An encrypted packet aborts the process. -/
def accepts (box : SecretBox) (connection : Connection) (packet : Packet) : Option Connection :=
  if packet.encrypted then none else some (connection.accepting box packet)

def affected (box : SecretBox) (connection : Connection) (packet : Packet) :
    WriteEffect → Option Connection
  | .accepted => connection.accepts box packet
  | .severed => (connection.accepts box packet).map closed
  | .severedRecovered newSocketFd newLocalEntries =>
      (connection.accepts box packet).map (·.closed.revived newSocketFd newLocalEntries)
  | .waited newSocketFd newLocalEntries =>
      (connection.closed.revived newSocketFd newLocalEntries).accepts box packet
  | .dropped => some { connection.closed with shuttingDown := true }

/-- Packets written one after the other; the effect of each is given by its position. -/
def wrote (box : SecretBox) (effects : Nat → WriteEffect) (connection : Connection)
    (packets : List Packet) : Option Connection :=
  packets.zipIdx.foldlM
    (fun connection entry => connection.affected box entry.1 (effects entry.2)) connection

theorem read_gives_iff {answers : List ReadAnswer} :
    (∃ packet after rest, (connection.read box).interpret receiving answers =
        (.returned (some packet, after), rest)) ↔
      connection.reader.socketFd ≠ none ∧ connection.reader.Gives box answers := by
  rw [← BackedReader.read_gives_iff]
  unfold read
  constructor
  · intro ⟨packet, after, rest, gives⟩
    obtain ⟨⟨result, reader⟩, between, reads, finishes⟩ :=
      Program.interpret_bind_returned.mp gives
    cases result with
    | packet packet => exact ⟨packet, reader, between, reads⟩
    | incomplete => cases finishes
    | error errno =>
        obtain ⟨closed, later, _, impossible⟩ := Program.interpret_bind_returned.mp finishes
        cases impossible
  · intro ⟨packet, reader, rest, reads⟩
    refine ⟨packet, { connection with reader := reader }, rest, ?_⟩
    exact Program.interpret_bind_returned.mpr ⟨_, rest, reads, rfl⟩

end Connection

/-! ### The loops -/

/-- The terminal and the buffers of the loops hold 16 KiB. -/
def BUF_SIZE : Int := 16 * 1024

/-- One check of `hasData` and the read that follows: whether the socket has data, and what its
`recv`s give. -/
structure Turn where
  pending : Bool
  answers : List ReadAnswer

/-- What an iteration meets.  `stopped` is the loop's own flag: `shuttingDown`, `halt` or
`!run`; `report` is what the loop's other descriptors give. -/
structure Surroundings (Report : Type) where
  stopped : Bool
  report : Report
  effects : Nat → WriteEffect
  clientReady : Bool
  turn : Turn
  later : List Turn

/-- What the four loops differ in.  `sent` is what the iteration writes to the connection
before it looks at the client's socket, `none` if it does not come to that. -/
structure RunLoop (Report : Type) where
  leaves : Connection → Bool → Bool
  sent : Connection → Report → Option (List Packet)
  checksShutdown : Bool
  drains : Bool

/-- What a `read` from the console or the terminal gives; `none` if `select` does not report it. -/
abbrev ByteReport := Option ReadAnswer

/-- What a `readPacket` from a pipe gives: it throws, or there is an empty message or a packet;
`none` if `select` does not report the pipe. -/
abbrev PipeReport := Option (Except String (Option Packet))

def terminalPacket (bytes : Bytes) : Packet :=
  Packet.plain TERMINAL_BUFFER (terminalBuffer.serialize { buffer := some bytes })

def TerminalClient.runLoop : RunLoop ByteReport where
  leaves connection shuttingDown := connection.shuttingDown || shuttingDown
  sent _ console :=
    match console with
    | none => some []
    | some (.data bytes) => some [terminalPacket bytes]
    | some .closed => none
    | some (.failed errno) =>
        if errno = .eagain ∨ errno = .ewouldblock then some [] else none
  checksShutdown := false
  drains := true

/-- The terminal is in the set only while the connection can absorb its data; `forwarded` is
what the port forward handler has to send. -/
def TerminalServer.runTerminalLoop : RunLoop (ByteReport × List Packet) where
  leaves _ halt := halt
  sent connection report :=
    let (terminal, forwarded) := report
    if connection.canBufferWrite (2 * BUF_SIZE) then
      match terminal with
      | none => some forwarded
      | some (.data bytes) => some (terminalPacket bytes :: forwarded)
      | some .closed => none
      | some (.failed _) => none
    else some forwarded
  checksShutdown := true
  drains := true

def TerminalServer.runJumpHostLoop : RunLoop PipeReport where
  leaves connection halt := halt || connection.shuttingDown
  sent connection terminal :=
    if connection.canBufferWrite (2 * BUF_SIZE) then
      match terminal with
      | none => some []
      | some (.error _) => none
      | some (.ok packet) => some packet.toList
    else some []
  checksShutdown := true
  drains := false

def UserJumphostHandler.runLoop : RunLoop PipeReport where
  leaves connection stopped := stopped || connection.shuttingDown
  sent connection router :=
    match router with
    | none => some []
    | some read =>
        if connection.socketFd = none then none
        else
          match read with
          | .error _ => none
          | .ok packet => some packet.toList
  checksShutdown := true
  drains := false

namespace RunLoop

variable {Report : Type} (loop : RunLoop Report) (box : SecretBox)
  (handle : Packet → Connection → Option Connection)

def read (connection : Connection) : Action (Option Packet × Connection) :=
  if loop.checksShutdown then connection.readPacket box else connection.read box

/-- The packets read while there is data; `handle` gives the connection for the next turn, or
`none` where handling a packet ends the iteration. -/
def readWhileData : List Turn → Connection → List Packet
  | [], _ => []
  | turn :: later, connection =>
      if connection.reader.hasData turn.pending then
        match ((loop.read box connection).interpret receiving turn.answers).1 with
        | .returned (some packet, after) =>
            packet ::
              match handle packet after with
              | none => []
              | some next => readWhileData later next
        | _ => []
      else []

def iteration (surroundings : Surroundings Report) (connection : Connection) : List Packet :=
  if loop.leaves connection surroundings.stopped then []
  else
    match loop.sent connection surroundings.report >>=
        connection.wrote box surroundings.effects with
    | none => []
    | some next =>
        match connection.socketFd with
        | none => []
        | some clientFd =>
            if 0 < clientFd ∧ surroundings.clientReady = true then
              loop.readWhileData box handle
                (surroundings.turn :: if loop.drains then surroundings.later else []) next
            else []

/-- When an iteration reads a packet that is there for the connection of `clientFd`. -/
def ReadsWaiting (surroundings : Surroundings Report) (connection : Connection)
    (clientFd : Fd) : Prop :=
  loop.leaves connection surroundings.stopped = false ∧
    0 < clientFd ∧ surroundings.clientReady = true ∧
    ∃ packets, loop.sent connection surroundings.report = some packets ∧
    ∃ next, connection.wrote box surroundings.effects packets = some next ∧
      (next.reader ≠ connection.reader →
        next.reader.hasData surroundings.turn.pending = true) ∧
      (loop.checksShutdown = true → next.shuttingDown = false) ∧
      next.reader.Gives box surroundings.turn.answers

variable {loop box handle}

theorem read_gives_iff {connection : Connection} {answers : List ReadAnswer} :
    (∃ packet after rest, (loop.read box connection).interpret receiving answers =
        (.returned (some packet, after), rest)) ↔
      (loop.checksShutdown = true → connection.shuttingDown = false) ∧
        connection.reader.socketFd ≠ none ∧ connection.reader.Gives box answers := by
  unfold read Connection.readPacket
  cases checked : loop.checksShutdown with
  | false => simpa using Connection.read_gives_iff
  | true =>
      cases stopping : connection.shuttingDown with
      | false => simpa using Connection.read_gives_iff
      | true => simp

theorem readWhileData_iff {turn : Turn} {later : List Turn} {connection : Connection} :
    loop.readWhileData box handle (turn :: later) connection ≠ [] ↔
      connection.reader.hasData turn.pending = true ∧
        (loop.checksShutdown = true → connection.shuttingDown = false) ∧
        connection.reader.Gives box turn.answers := by
  rw [readWhileData]
  cases hasData : connection.reader.hasData turn.pending with
  | false => simp
  | true =>
      have attached : connection.reader.socketFd ≠ none := by
        intro dead
        simp [BackedReader.hasData, dead] at hasData
      rw [if_pos rfl, and_iff_right rfl]
      have reads_iff : (∃ packet after rest, (loop.read box connection).interpret receiving
          turn.answers = (.returned (some packet, after), rest)) ↔
          (loop.checksShutdown = true → connection.shuttingDown = false) ∧
            connection.reader.Gives box turn.answers := by
        rw [read_gives_iff, and_iff_right attached]
      rw [← reads_iff]
      cases read : (loop.read box connection).interpret receiving turn.answers with
      | mk outcome rest =>
          cases outcome with
          | returned result =>
              obtain ⟨packet, after⟩ := result
              cases packet with
              | none => simp
              | some packet => simp
          | raised exn => simp
          | aborted message => simp

theorem iteration_reads_iff {surroundings : Surroundings Report} {connection : Connection}
    {clientFd : Fd} (attached : connection.socketFd = some clientFd)
    (hasData : connection.reader.hasData surroundings.turn.pending = true) :
    loop.iteration box handle surroundings connection ≠ [] ↔
      loop.ReadsWaiting box surroundings connection clientFd := by
  unfold iteration ReadsWaiting
  cases leaving : loop.leaves connection surroundings.stopped with
  | true => simp
  | false =>
      rw [if_neg (by simp), and_iff_right rfl]
      cases sent : loop.sent connection surroundings.report with
      | none => simp
      | some packets =>
          simp only [Option.bind_eq_bind, Option.bind_some, Option.some.injEq, exists_eq_left']
          cases wrote : connection.wrote box surroundings.effects packets with
          | none => simp
          | some next =>
              simp only [attached, Option.some.injEq, exists_eq_left']
              by_cases selected : 0 < clientFd ∧ surroundings.clientReady = true
              · rw [if_pos selected, readWhileData_iff, and_iff_right selected.1,
                  and_iff_right selected.2]
                have kept : next.reader.hasData surroundings.turn.pending = true ↔
                    (next.reader ≠ connection.reader →
                      next.reader.hasData surroundings.turn.pending = true) := by
                  constructor
                  · intro stays _
                    exact stays
                  · intro changed
                    by_cases same : next.reader = connection.reader
                    · rw [same]
                      exact hasData
                    · exact changed same
                exact and_congr kept Iff.rfl
              · rw [if_neg selected]
                constructor
                · intro impossible
                  exact absurd rfl impossible
                · intro ⟨positive, ready, _⟩
                  exact absurd ⟨positive, ready⟩ selected

end RunLoop

/-! ### Packets that are waiting -/

/-- An iteration of one of the loops on a connection with a socket and data reads a packet
exactly when the loop comes to the socket, `select` has reported it, and the packet is there. -/
theorem waiting_packet_read_iff (box : SecretBox)
    (handle : Packet → Connection → Option Connection) (connection : Connection)
    (clientFd : Fd) (attached : connection.socketFd = some clientFd) :
    (∀ surroundings : Surroundings ByteReport,
      connection.reader.hasData surroundings.turn.pending = true →
        (TerminalClient.runLoop.iteration box handle surroundings connection ≠ [] ↔
          TerminalClient.runLoop.ReadsWaiting box surroundings connection clientFd)) ∧
    (∀ surroundings : Surroundings (ByteReport × List Packet),
      connection.reader.hasData surroundings.turn.pending = true →
        (TerminalServer.runTerminalLoop.iteration box handle surroundings connection ≠ [] ↔
          TerminalServer.runTerminalLoop.ReadsWaiting box surroundings connection clientFd)) ∧
    (∀ surroundings : Surroundings PipeReport,
      connection.reader.hasData surroundings.turn.pending = true →
        (TerminalServer.runJumpHostLoop.iteration box handle surroundings connection ≠ [] ↔
          TerminalServer.runJumpHostLoop.ReadsWaiting box surroundings connection clientFd)) ∧
    (∀ surroundings : Surroundings PipeReport,
      connection.reader.hasData surroundings.turn.pending = true →
        (UserJumphostHandler.runLoop.iteration box handle surroundings connection ≠ [] ↔
          UserJumphostHandler.runLoop.ReadsWaiting box surroundings connection clientFd)) := by
  refine ⟨?_, ?_, ?_, ?_⟩
  · intro surroundings hasData
    exact RunLoop.iteration_reads_iff attached hasData
  · intro surroundings hasData
    exact RunLoop.iteration_reads_iff attached hasData
  · intro surroundings hasData
    exact RunLoop.iteration_reads_iff attached hasData
  · intro surroundings hasData
    exact RunLoop.iteration_reads_iff attached hasData

def recoveredClient : Connection :=
  (Connection.create Key.zero SERVER_CLIENT_NONCE_MSB CLIENT_SERVER_NONCE_MSB none).revived 5
    [((Packet.plain TERMINAL_BUFFER []).sealed SecretBox.nullCipher
      (CryptoHandler.ofKey Key.zero SERVER_CLIENT_NONCE_MSB)).serialize]

def quietly {Report : Type} (report : Report) (clientReady : Bool) : Surroundings Report :=
  { stopped := false
    report := report
    effects := fun _ => .accepted
    clientReady := clientReady
    turn := { pending := false, answers := [] }
    later := [] }

theorem waiting_packet_read_iff_selected :
    TerminalClient.runLoop.iteration SecretBox.nullCipher (fun _ next => some next)
      (quietly none true) recoveredClient ≠ [] := by
  apply ((waiting_packet_read_iff SecretBox.nullCipher (fun _ next => some next) recoveredClient 5
    rfl).1 (quietly none true) rfl).mpr
  refine ⟨rfl, by decide, rfl, [], rfl, recoveredClient, rfl, ?_, ?_,
    ⟨1, TERMINAL_BUFFER, _, [], rfl, by decide, le_refl 16, rfl⟩⟩
  · intro changed
    exact absurd rfl changed
  · intro _
    rfl

/-- While `select` is silent about the socket, the packet stays where it is. -/
theorem recovered_packet_stranded :
    recoveredClient.socketFd = some 5 ∧
    recoveredClient.reader.hasData false = true ∧
    recoveredClient.reader.Gives SecretBox.nullCipher [] ∧
    TerminalClient.runLoop.iteration SecretBox.nullCipher (fun _ next => some next)
      (quietly none false) recoveredClient = [] ∧
    TerminalServer.runTerminalLoop.iteration SecretBox.nullCipher (fun _ next => some next)
      (quietly (none, []) false) recoveredClient = [] ∧
    TerminalServer.runJumpHostLoop.iteration SecretBox.nullCipher (fun _ next => some next)
      (quietly none false) recoveredClient = [] ∧
    UserJumphostHandler.runLoop.iteration SecretBox.nullCipher (fun _ next => some next)
      (quietly none false) recoveredClient = [] := by
  refine ⟨rfl, rfl, ⟨1, TERMINAL_BUFFER, _, [], rfl, by decide, le_refl 16, rfl⟩, rfl, rfl, rfl,
    rfl⟩

end EternalTerminal
