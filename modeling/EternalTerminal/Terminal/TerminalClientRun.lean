/-
`TerminalClient`: its constructor after `connect`, and `run`.

The thread is cut at every call that waits or that another party can see.  A `writePacket` tries
until the packet is taken or the connection is shut down; the thread does nothing else meanwhile.
-/

import EternalTerminal.Terminal.Carrier

namespace EternalTerminal

/-! ### Calls on the connection -/

inductive PacketCall where
  | writes (packet : Packet)
  | skips (packet : Packet)
  | reads (packet : Packet)
  | readsNothing
  | severs
  | silent

/-- `writing` are the packets that the thread is about to write before it goes on; `dropping` says
that a `writePacket` has found the connection shut down, which it stays. -/
structure Conversation where
  writing : List Packet
  dropping : Bool
  given : List Packet
  taken : List Packet

namespace Conversation

def writes (packets : Conversation) (writing : List Packet) : Conversation :=
  { packets with writing := writing }

def reads (packets : Conversation) (packet : Packet) : Conversation :=
  { packets with taken := packets.taken ++ [packet] }

/-- `writePacket`. -/
inductive Step (before : Conversation) : PacketCall → Conversation → Prop
  | writes {packet : Packet} {rest : List Packet} :
      before.writing = packet :: rest → before.dropping = false →
      Step before (.writes packet)
        { before with
          writing := rest
          given := before.given ++ [packet] }
  | skips {packet : Packet} {rest : List Packet} :
      before.writing = packet :: rest → before.dropping = false →
      Step before (.skips packet) before
  | drops {packet : Packet} {rest : List Packet} :
      before.writing = packet :: rest →
      Step before .silent
        { before with
          writing := rest
          dropping := true }

def start (writing : List Packet) : Conversation :=
  { writing := writing
    dropping := false
    given := []
    taken := [] }

end Conversation

/-! ### Packets -/

def Packet.isForward (packet : Packet) : Bool :=
  packet.header = PORT_FORWARD_DATA || packet.header = PORT_FORWARD_DESTINATION_REQUEST ||
    packet.header = PORT_FORWARD_DESTINATION_RESPONSE

/-- The message in a packet about the terminal. -/
def Packet.terminalMessage? (packet : Packet) : Option TerminalMessage :=
  if packet.header = TERMINAL_BUFFER then
    (terminalBuffer.parse packet.payload).map .buffer
  else if packet.header = TERMINAL_INFO then
    (terminalInfo.parse packet.payload).map .info
  else none

def keepalivePacket : Packet := Packet.plain KEEP_ALIVE []

def infoPacket (ti : TerminalInfo) : Packet :=
  Packet.plain TERMINAL_INFO (terminalInfo.serialize ti)

/-- What a thread has a `PortForwardHandler` for.  It writes packets of its own types. -/
structure Forwarder where
  State : Type
  initial : State → Prop
  update : State → List Packet → State → Prop
  handlePacket : State → Packet → List Packet → State → Prop
  update_forwards : ∀ before packets after, update before packets after →
    ∀ packet ∈ packets, packet.isForward = true
  handlePacket_forwards : ∀ before received packets after,
    handlePacket before received packets after → ∀ packet ∈ packets, packet.isForward = true

/-! ### The client -/

structure ClientOptions where
  payload : Bytes
  command : Bytes
  noexit : Bool
  hasConsole : Bool
  keepaliveDuration : Int

/-- Where the thread goes when its packets are written: the waits of the constructor, then the
parts of the loop of `run` in their order. -/
inductive ClientTurn where
  | awaitingResponse (left : Nat)
  | looping
  | console
  | typed
  | connection
  | printing
  | keepalive
  | window
  | forwards
  | forwarded
  | ended
  | aborted

/-- `consoleInfo` is the console's size.  `typed` is what has been read from the console, with the
command before it, `windows` the sizes that have been sent, and `printed` what the console has
been given. -/
structure TerminalClientRun (State : Type) where
  packets : Conversation
  turn : ClientTurn
  shuttingDown : Bool
  forwarder : State
  clock : Int
  keepaliveTime : Int
  waitingOnKeepalive : Bool
  lastTerminalInfo : TerminalInfo
  consoleInfo : TerminalInfo
  coalesced : Bytes
  typed : Bytes
  windows : List TerminalInfo
  printed : Bytes
  printFailed : Bool

/-- "; exit\n" -/
def exitSuffix : Bytes := [59, 32, 101, 120, 105, 116, 10]

namespace ClientOptions

/-- What `run` types for the user. -/
def commandBytes (options : ClientOptions) : Bytes :=
  if options.command = [] then []
  else if options.noexit then options.command ++ [UserTerminalHandler.newline]
  else options.command ++ exitSuffix

def commandPackets (options : ClientOptions) : List Packet :=
  if options.command = [] then [] else [terminalPacket options.commandBytes]

end ClientOptions

def TerminalInfo.unset : TerminalInfo :=
  { id := none
    row := none
    column := none
    width := none
    height := none }

namespace TerminalClientRun

variable {State : Type} (options : ClientOptions)

/-- The constructor after `connect`. -/
def start (forwarder : State) (clock : Int) (consoleInfo : TerminalInfo) :
    TerminalClientRun State :=
  { packets := .start [Packet.plain INITIAL_PAYLOAD options.payload]
    turn := .awaitingResponse 3
    shuttingDown := false
    forwarder := forwarder
    clock := clock
    keepaliveTime := clock
    waitingOnKeepalive := false
    lastTerminalInfo := .unset
    consoleInfo := consoleInfo
    coalesced := []
    typed := []
    windows := []
    printed := []
    printFailed := false }

def goto (client : TerminalClientRun State) (turn : ClientTurn) : TerminalClientRun State :=
  { client with turn := turn }

/-- `run` up to its loop. -/
def run (client : TerminalClientRun State) : TerminalClientRun State :=
  { client with
    packets := client.packets.writes options.commandPackets
    turn := .looping
    keepaliveTime := client.clock + options.keepaliveDuration
    typed := client.typed ++ options.commandBytes }

def postponeKeepalive (client : TerminalClientRun State) : TerminalClientRun State :=
  { client with keepaliveTime := client.clock + options.keepaliveDuration }

/-- The packet that one of the three waits has given. -/
def takeResponse (client : TerminalClientRun State) (packet : Packet) :
    TerminalClientRun State :=
  let client := { client with packets := client.packets.reads packet }
  match TerminalClient.handshake.takeResponse packet with
  | .finished _ => client.run options
  | .threw _ | .exited => client.goto .ended
  | .aborted _ => client.goto .aborted

def readConsole (client : TerminalClientRun State) (bytes : Bytes) : TerminalClientRun State :=
  { client with
    packets := client.packets.writes [terminalPacket bytes]
    turn := .typed
    typed := client.typed ++ bytes }

/-- A packet that is none of the forwarder's. -/
def takePacket (client : TerminalClientRun State) (packet : Packet) : TerminalClientRun State :=
  let client := { client with packets := client.packets.reads packet }
  if packet.header = TERMINAL_BUFFER then
    if options.hasConsole then
      match terminalBuffer.parse packet.payload with
      | none => client.goto .aborted
      | some tb =>
          { client with coalesced := client.coalesced ++ tb.buffer.getD [] }.postponeKeepalive
            options
    else client
  else if packet.header = KEEP_ALIVE then { client with waitingOnKeepalive := false }
  else client.goto .aborted

/-- `console->write` of what has been accumulated. -/
def print (client : TerminalClientRun State) : TerminalClientRun State :=
  { client with
    turn := .keepalive
    coalesced := []
    printed := client.printed ++ client.coalesced }

/-- It throws when it has written some of it. -/
def printFails (client : TerminalClientRun State) (count : Nat) : TerminalClientRun State :=
  { client with
    turn := .looping
    shuttingDown := true
    coalesced := []
    printed := client.printed ++ client.coalesced.take count
    printFailed := true }

def sendKeepalive (client : TerminalClientRun State) : TerminalClientRun State :=
  { client.postponeKeepalive options with
    packets := client.packets.writes [keepalivePacket]
    turn := .window
    waitingOnKeepalive := true }

/-- A keepalive has been missed. -/
def killConnection (client : TerminalClientRun State) : TerminalClientRun State :=
  { client.postponeKeepalive options with
    turn := .window
    waitingOnKeepalive := false }

def sendWindow (client : TerminalClientRun State) : TerminalClientRun State :=
  { client with
    packets := client.packets.writes [infoPacket client.consoleInfo]
    turn := .forwards
    lastTerminalInfo := client.consoleInfo
    windows := client.windows ++ [client.consoleInfo] }

/-- Messages are compared by what they are written as. -/
def windowChanged (client : TerminalClientRun State) : Prop :=
  options.hasConsole = true ∧
    terminalInfo.serialize client.consoleInfo ≠ terminalInfo.serialize client.lastTerminalInfo

/-- The steps of the thread; the first three are of the world around it. -/
inductive Step (forwarder : Forwarder) (before : TerminalClientRun forwarder.State) :
    PacketCall → TerminalClientRun forwarder.State → Prop
  | ticks {clock : Int} :
      before.clock ≤ clock →
      Step forwarder before .silent { before with clock := clock }
  | resizes {ti : TerminalInfo} :
      Step forwarder before .silent { before with consoleInfo := ti }
  | shutdown :
      Step forwarder before .silent { before with shuttingDown := true }
  | writePacket {call : PacketCall} {packets : Conversation} :
      before.packets.Step call packets →
      Step forwarder before call { before with packets := packets }
  -- the constructor
  | waits {left : Nat} :
      before.packets.writing = [] → before.turn = .awaitingResponse (left + 1) →
      Step forwarder before .silent (before.goto (.awaitingResponse left))
  | noResponse {left : Nat} :
      before.packets.writing = [] → before.turn = .awaitingResponse (left + 1) →
      Step forwarder before .readsNothing (before.goto (.awaitingResponse left))
  | response {left : Nat} {packet : Packet} :
      before.packets.writing = [] → before.turn = .awaitingResponse (left + 1) →
      Step forwarder before (.reads packet) (before.takeResponse options packet)
  | unanswered :
      before.packets.writing = [] → before.turn = .awaitingResponse 0 →
      Step forwarder before .silent (before.run options)
  -- the loop
  | leaves :
      before.packets.writing = [] → before.turn = .looping →
      Step forwarder before .silent (before.goto .ended)
  | enters :
      before.packets.writing = [] → before.turn = .looping → before.shuttingDown = false →
      before.packets.dropping = false →
      Step forwarder before .silent (before.goto .console)
  | consoleIdle :
      before.packets.writing = [] → before.turn = .console →
      Step forwarder before .silent (before.goto .connection)
  | consoleData {bytes : Bytes} :
      before.packets.writing = [] → before.turn = .console → options.hasConsole = true →
      bytes ≠ [] → (bytes.length : Int) ≤ BUF_SIZE →
      Step forwarder before .silent (before.readConsole bytes)
  | consoleEnds :
      before.packets.writing = [] → before.turn = .console → options.hasConsole = true →
      Step forwarder before .silent (before.goto .ended)
  | typed :
      before.packets.writing = [] → before.turn = .typed →
      Step forwarder before .silent ((before.postponeKeepalive options).goto .connection)
  | forwardPacket {packet : Packet} {answers : List Packet} {state : forwarder.State} :
      before.packets.writing = [] → before.turn = .connection → packet.isForward = true →
      forwarder.handlePacket before.forwarder packet answers state →
      Step forwarder before (.reads packet)
        { before.postponeKeepalive options with
          packets := (before.packets.reads packet).writes answers
          forwarder := state }
  | packet {packet : Packet} :
      before.packets.writing = [] → before.turn = .connection → packet.isForward = false →
      Step forwarder before (.reads packet) (before.takePacket options packet)
  | noPacket :
      before.packets.writing = [] → before.turn = .connection →
      Step forwarder before .readsNothing (before.goto .printing)
  | noData :
      before.packets.writing = [] → before.turn = .connection →
      Step forwarder before .silent (before.goto .printing)
  | prints :
      before.packets.writing = [] → before.turn = .printing →
      Step forwarder before .silent before.print
  | printFails {count : Nat} :
      before.packets.writing = [] → before.turn = .printing → before.coalesced ≠ [] →
      Step forwarder before .silent (before.printFails count)
  | notLate :
      before.packets.writing = [] → before.turn = .keepalive →
      before.clock ≤ before.keepaliveTime →
      Step forwarder before .silent (before.goto .window)
  | disconnected :
      before.packets.writing = [] → before.turn = .keepalive →
      Step forwarder before .silent
        { before with
          turn := .window
          waitingOnKeepalive := false }
  | late :
      before.packets.writing = [] → before.turn = .keepalive →
      before.keepaliveTime < before.clock → before.waitingOnKeepalive = false →
      Step forwarder before .silent (before.sendKeepalive options)
  | missed :
      before.packets.writing = [] → before.turn = .keepalive →
      before.keepaliveTime < before.clock → before.waitingOnKeepalive = true →
      Step forwarder before .severs (before.killConnection options)
  | sameWindow :
      before.packets.writing = [] → before.turn = .window → ¬ before.windowChanged options →
      Step forwarder before .silent (before.goto .forwards)
  | newWindow :
      before.packets.writing = [] → before.turn = .window → before.windowChanged options →
      Step forwarder before .silent before.sendWindow
  | nothingToForward {state : forwarder.State} :
      before.packets.writing = [] → before.turn = .forwards →
      forwarder.update before.forwarder [] state →
      Step forwarder before .silent
        { before with
          turn := .looping
          forwarder := state }
  | update {packets : List Packet} {state : forwarder.State} :
      before.packets.writing = [] → before.turn = .forwards → packets ≠ [] →
      forwarder.update before.forwarder packets state →
      Step forwarder before .silent
        { before with
          packets := before.packets.writes packets
          turn := .forwarded
          forwarder := state }
  | forwarded :
      before.packets.writing = [] → before.turn = .forwarded →
      Step forwarder before .silent ((before.postponeKeepalive options).goto .looping)

end TerminalClientRun

end EternalTerminal
