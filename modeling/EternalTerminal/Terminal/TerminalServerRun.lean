/-
`TerminalServer::handleConnection` and `runTerminal`: the server's thread of one session.
-/

import EternalTerminal.Terminal.TerminalClientRun
import EternalTerminal.Terminal.TerminalEnvironment

namespace EternalTerminal

/-- Where the thread goes when its packets are written.  `announced` is inside the `writePacket` of
`TERMINAL_INIT`, `delivering` inside the two writes of a message for the terminal. -/
inductive ServerTurn where
  | awaitingPayload
  | binding (payload : InitialPayload)
  | announcing (environmentVariables : Bytes → Option Bytes)
  | announced
  | looping
  | terminal
  | forwards
  | connection
  | passing (message : TerminalMessage)
  | delivering
  | ended
  | aborted

/-- `passed` is what has been read from the terminal, `directories` what `mkdtemp` has answered in
the loop over the reverse tunnels. -/
structure TerminalServerRun (State : Type) where
  packets : Conversation
  turn : ServerTurn
  forwarder : State
  directories : Nat → Option Bytes
  passed : Bytes

/-- What a step of the thread does to the connection and to the terminal's socket. -/
inductive ServerCall where
  | connection (call : PacketCall)
  | announce (packet : Packet)
  | announced
  | select (terminal : Bool)
  | terminal (bytes : Bytes)
  | pass (message : TerminalMessage)
  | oversized (message : TerminalMessage)
  | passed
  | passFails

def ServerTurn.held : ServerTurn → List TerminalMessage
  | .passing message => [message]
  | _ => []

def responsePacket (error : Option Bytes) : Packet :=
  Packet.plain INITIAL_RESPONSE (initialResponse.serialize { error := error })

namespace TerminalServerRun

variable {State : Type} (formats : PayloadFormat)

def start (forwarder : State) : TerminalServerRun State :=
  { packets := .start []
    turn := .awaitingPayload
    forwarder := forwarder
    directories := fun _ => none
    passed := [] }

def goto (server : TerminalServerRun State) (turn : ServerTurn) : TerminalServerRun State :=
  { server with turn := turn }

/-- What `handleConnection` makes of the first packet; a session with `jumphost` is not a
terminal's. -/
def afterPayload (packet : Packet) : ServerTurn :=
  if packet.header = INITIAL_PAYLOAD then
    match formats.parse packet.payload with
    | none => .aborted
    | some payload => if payload.jumphost then .ended else .binding payload
  else .aborted

def takePayload (server : TerminalServerRun State) (packet : Packet) :
    TerminalServerRun State :=
  { server with
    packets := server.packets.reads packet
    turn := afterPayload formats packet }

def opened (server : TerminalServerRun State) (directories : Nat → Option Bytes) :
    Except Failure TunnelsOutcome → TerminalServerRun State
  | .ok (.opened environmentVariables) =>
      { server with
        packets := server.packets.writes [responsePacket none]
        turn := .announcing environmentVariables
        directories := directories }
  | .ok (.refused what) =>
      { server with
        packets := server.packets.writes [responsePacket (some (ServerConnection.toBytes what))]
        turn := .ended
        directories := directories }
  | .error _ => server.goto .aborted

/-- Output of the terminal of at most a buffer's length. -/
def readTerminal (server : TerminalServerRun State) (bytes : Bytes) : TerminalServerRun State :=
  { server with
    packets := server.packets.writes [terminalPacket bytes]
    turn := .forwards
    passed := server.passed ++ bytes }

/-- A packet that is none of the forwarder's. -/
def takePacket (server : TerminalServerRun State) (packet : Packet) : TerminalServerRun State :=
  let server := { server with packets := server.packets.reads packet }
  if packet.header = KEEP_ALIVE then
    { server with packets := server.packets.writes [keepalivePacket] }
  else
    match packet.terminalMessage? with
    | some message => server.goto (.passing message)
    | none => server.goto .aborted

inductive Step (forwarder : Forwarder) (before : TerminalServerRun forwarder.State) :
    ServerCall → TerminalServerRun forwarder.State → Prop
  | writePacket {call : PacketCall} {packets : Conversation} :
      before.packets.Step call packets →
      Step forwarder before (.connection call) { before with packets := packets }
  -- up to the loop
  | waits :
      before.packets.writing = [] → before.turn = .awaitingPayload →
      Step forwarder before (.connection .readsNothing) before
  | payload {packet : Packet} :
      before.packets.writing = [] → before.turn = .awaitingPayload →
      Step forwarder before (.connection (.reads packet)) (before.takePayload formats packet)
  | unbound {payload : InitialPayload} :
      before.packets.writing = [] → before.turn = .binding payload →
      Step forwarder before (.connection .severs) (before.goto .ended)
  | tunnels {payload : InitialPayload} {surroundings : Nat → RequestSurroundings}
      {userid groupid : Int} :
      before.packets.writing = [] → before.turn = .binding payload →
      Step forwarder before (.connection .silent)
        (before.opened (fun turn => (surroundings turn).kernel.mkdtemp)
          (TerminalServer.openTunnels surroundings userid groupid payload.reversetunnels 0
            { pipeServerSockets := fun _ => none } [] (TerminalServer.payloadVariables payload)))
  | announces {environmentVariables : Bytes → Option Bytes} {pairs : List (Bytes × Bytes)} :
      before.packets.writing = [] → before.turn = .announcing environmentVariables →
      Enumerates environmentVariables pairs →
      Step forwarder before (.announce (termInitPacket (.ofPairs pairs)))
        (before.goto .announced)
  | announced :
      before.turn = .announced →
      Step forwarder before .announced (before.goto .looping)
  | announceFails :
      before.turn = .announced →
      Step forwarder before (.connection .silent) (before.goto .aborted)
  -- the loop
  | halts :
      before.packets.writing = [] → before.turn = .looping →
      Step forwarder before (.connection .silent) (before.goto .ended)
  | select {terminal : Bool} :
      before.packets.writing = [] → before.turn = .looping →
      Step forwarder before (.select terminal)
        (before.goto (if terminal then .terminal else .forwards))
  | terminalAgain :
      before.packets.writing = [] → before.turn = .terminal →
      Step forwarder before (.connection .silent) (before.goto .looping)
  | terminalEnds :
      before.packets.writing = [] → before.turn = .terminal →
      Step forwarder before (.connection .silent) (before.goto .ended)
  | terminalData {bytes : Bytes} :
      before.packets.writing = [] → before.turn = .terminal → bytes ≠ [] →
      (bytes.length : Int) ≤ BUF_SIZE →
      Step forwarder before (.terminal bytes) (before.readTerminal bytes)
  | update {packets : List Packet} {state : forwarder.State} :
      before.packets.writing = [] → before.turn = .forwards →
      forwarder.update before.forwarder packets state →
      Step forwarder before (.connection .silent)
        { before with
          packets := before.packets.writes packets
          turn := .connection
          forwarder := state }
  | forwardPacket {packet : Packet} {answers : List Packet} {state : forwarder.State} :
      before.packets.writing = [] → before.turn = .connection → packet.isForward = true →
      forwarder.handlePacket before.forwarder packet answers state →
      Step forwarder before (.connection (.reads packet))
        { before with
          packets := (before.packets.reads packet).writes answers
          forwarder := state }
  | packet {packet : Packet} :
      before.packets.writing = [] → before.turn = .connection → packet.isForward = false →
      Step forwarder before (.connection (.reads packet)) (before.takePacket packet)
  | noPacket :
      before.packets.writing = [] → before.turn = .connection →
      Step forwarder before (.connection .readsNothing) (before.goto .looping)
  | noData :
      before.packets.writing = [] → before.turn = .connection →
      Step forwarder before (.connection .silent) (before.goto .looping)
  | pass {message : TerminalMessage} :
      before.turn = .passing message →
      Step forwarder before (.pass message) (before.goto .delivering)
  | oversized {message : TerminalMessage} :
      before.turn = .passing message →
      Step forwarder before (.oversized message) (before.goto .aborted)
  | passed :
      before.turn = .delivering →
      Step forwarder before .passed (before.goto .connection)
  | passFails :
      before.turn = .delivering →
      Step forwarder before .passFails (before.goto .looping)

end TerminalServerRun

end EternalTerminal
