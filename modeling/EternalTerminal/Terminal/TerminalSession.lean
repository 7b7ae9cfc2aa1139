/-
A terminal session: the client's thread, the server's thread and the terminal's process, with the
carrier between the first two and the router's socket between the other two.

The terminal's socket first carries `TERMINAL_INIT` and then the messages; each is read to its end
before the next is.
-/

import EternalTerminal.Terminal.TerminalServerRun

namespace EternalTerminal

open Library

/-! ### The terminal's output -/

namespace UserTerminalHandler

def outputRead (handler : UserTerminalHandler) (answers : SelectAnswers) : Bytes :=
  if handler.shuttingDown then []
  else if answers.routerWritable && answers.masterReady &&
      (handler.noratelimit ||
        decide ((handler.tick answers.currentSecond).outputPerSecond < 1024)) then
    match answers.read with
    | .data bytes => bytes
    | _ => []
  else []

/-- What it writes to the router: all of it, or a part when the write fails. -/
def Writes (handler : UserTerminalHandler) (answers : SelectAnswers) (written : Bytes) : Prop :=
  match answers.writeAll with
  | .ok () => written = handler.outputRead answers
  | .error _ => written <+: handler.outputRead answers

end UserTerminalHandler

/-! ### The session -/

/-- `staged` is the output that the handler's `write` has yet to put into the socket, `flushed` what
it has put there and `toServer` what has not been read from it; `shown` is all that the terminal
has put out and `sentOn` what the handler has passed on of it, which is all unless a write was cut
short.  The handler runs once it has read `TERMINAL_INIT`, and adds its variables to those that its
process was started with. -/
structure TerminalSession (carrier : Carrier) (forwarder : Forwarder) where
  between : carrier.State
  client : TerminalClientRun forwarder.State
  server : TerminalServerRun forwarder.State
  init : PacketPipe
  inherited : Bytes → Option Bytes
  environment : Option (Bytes → Option Bytes)
  link : TerminalLink
  staged : Bytes
  flushed : Bytes
  toServer : Bytes
  shown : Bytes
  sentOn : Bytes
  cut : Bool

namespace TerminalSession

def Calls (carrier : Carrier) (side : Side) (before : carrier.State) :
    PacketCall → carrier.State → Prop
  | .writes packet, after => carrier.system.step before (.writes side packet) after
  | .skips packet, after => carrier.system.step before (.skips side packet) after
  | .reads packet, after => carrier.system.step before (.reads side packet) after
  | .readsNothing, after => carrier.system.step before (.readsNothing side) after
  | .severs, after => carrier.system.step before (.severs side) after
  | .silent, after => after = before

/-- The events of the link that the handler makes; its `select` is apart. -/
def OfHandler : TerminalEvent → Prop
  | .readType | .readTypeFails _ | .readProto _ | .readProtoFails | .drain _ | .shutdown => True
  | .forward _ | .write _ | .iterate _ => False

/-- What `run` makes of a packet of the router. -/
def startShell (inherited : Bytes → Option Bytes) : PipeRead → Option (Bytes → Option Bytes)
  | .packet packet =>
      if packet.header = TERMINAL_INIT then
        (termInit.parse packet.payload).map (setVariables inherited)
      else none
  | _ => none

inductive Event where
  | carrier
  | client
  | server
  | handler
  deriving DecidableEq

variable (options : ClientOptions) (formats : PayloadFormat) {carrier : Carrier}
  {forwarder : Forwarder}

inductive Step (before : TerminalSession carrier forwarder) :
    Event → TerminalSession carrier forwarder → Prop
  | carrier {between : carrier.State} :
      carrier.system.step before.between .elsewhere between →
      Step before .carrier { before with between := between }
  | client {call : PacketCall} {client : TerminalClientRun forwarder.State}
      {between : carrier.State} :
      TerminalClientRun.Step options forwarder before.client call client →
      Calls carrier .client before.between call between →
      Step before .client
        { before with
          client := client
          between := between }
  | server {call : PacketCall} {server : TerminalServerRun forwarder.State}
      {between : carrier.State} :
      TerminalServerRun.Step formats forwarder before.server (.connection call) server →
      Calls carrier .server before.between call between →
      Step before .server
        { before with
          server := server
          between := between }
  -- `TERMINAL_INIT`
  | announce {packet : Packet} {server : TerminalServerRun forwarder.State} :
      TerminalServerRun.Step formats forwarder before.server (.announce packet) server →
      PacketPipe.Fits packet →
      Step before .server
        { before with
          server := server
          init := before.init.writePacket packet }
  | announces {count : Nat} :
      before.server.turn = .announced →
      Step before .server { before with init := before.init.write count }
  | announced {server : TerminalServerRun forwarder.State} :
      TerminalServerRun.Step formats forwarder before.server .announced server →
      before.init.outgoing = [] →
      Step before .server { before with server := server }
  | readsInit {count : Nat} :
      before.environment = none →
      0 < count → count ≤ before.init.asks → count ≤ before.init.inFlight.length →
      Step before .handler
        { before with
          init := before.init.read count
          environment := startShell before.inherited (before.init.readResult count) }
  -- The terminal is in the set only while the connection can absorb its data.
  | select {terminal : Bool} {server : TerminalServerRun forwarder.State} :
      TerminalServerRun.Step formats forwarder before.server (.select terminal) server →
      (terminal = true → carrier.canBufferWrite before.between .server (2 * BUF_SIZE) = true) →
      Step before .server { before with server := server }
  -- from the server to the terminal
  | pass {message : TerminalMessage} {server : TerminalServerRun forwarder.State}
      {link : TerminalLink} :
      TerminalServerRun.Step formats forwarder before.server (.pass message) server →
      message.Fits → TerminalLink.Step before.link (.forward message) link →
      Step before .server
        { before with
          server := server
          link := link }
  | oversized {message : TerminalMessage} {server : TerminalServerRun forwarder.State}
      {link : TerminalLink} :
      TerminalServerRun.Step formats forwarder before.server (.oversized message) server →
      ¬ message.Fits → TerminalLink.Step before.link (.forward message) link →
      Step before .server
        { before with
          server := server
          link := link }
  | passes {count : Nat} {link : TerminalLink} :
      before.server.turn = .delivering → TerminalLink.Step before.link (.write count) link →
      Step before .server { before with link := link }
  | passed {server : TerminalServerRun forwarder.State} :
      TerminalServerRun.Step formats forwarder before.server .passed server →
      before.link.outgoing = [] →
      Step before .server { before with server := server }
  -- The write fails since the handler is gone, so nobody reads what is left of the message.
  | passFails {server : TerminalServerRun forwarder.State} {link : TerminalLink}
      {between : carrier.State} :
      TerminalServerRun.Step formats forwarder before.server .passFails server →
      before.link.handler.phase = .ended →
      TerminalLink.Step before.link (.write before.link.outgoing.length) link →
      carrier.system.step before.between (.severs .server) between →
      Step before .server
        { before with
          server := server
          link := link
          between := between }
  -- from the terminal to the server
  | iterates {answers : SelectAnswers} {written : Bytes} {link : TerminalLink} :
      before.environment.isSome → before.staged = [] →
      TerminalLink.Step before.link (.iterate answers) link →
      before.link.handler.Writes answers written →
      Step before .handler
        { before with
          link := link
          staged := written
          flushed := []
          shown := before.shown ++ before.link.handler.outputRead answers
          sentOn := before.sentOn ++ written
          cut := before.cut || written != before.link.handler.outputRead answers }
  | handler {event : TerminalEvent} {link : TerminalLink} :
      before.environment.isSome → before.staged = [] → OfHandler event →
      TerminalLink.Step before.link event link →
      Step before .handler { before with link := link }
  | flush {count : Nat} :
      Step before .handler
        { before with
          staged := before.staged.drop count
          flushed := before.flushed ++ before.staged.take count
          toServer := before.toServer ++ before.staged.take count }
  | output {bytes rest : Bytes} {server : TerminalServerRun forwarder.State} :
      before.toServer = bytes ++ rest →
      TerminalServerRun.Step formats forwarder before.server (.terminal bytes) server →
      Step before .server
        { before with
          server := server
          toServer := rest }

end TerminalSession

def terminalSessionSystem (carrier : Carrier) (forwarder : Forwarder) (options : ClientOptions)
    (formats : PayloadFormat) :
    TransitionSystem (TerminalSession carrier forwarder) TerminalSession.Event where
  initial session := ∃ between here there clock consoleInfo inherited link,
    carrier.system.initial between ∧ forwarder.initial here ∧ forwarder.initial there ∧
      terminalSystem.initial link ∧ session =
      { between := between
        client := .start options here clock consoleInfo
        server := .start there
        init := PacketPipe.empty
        inherited := inherited
        environment := none
        link := link
        staged := []
        flushed := []
        toServer := []
        shown := []
        sentOn := []
        cut := false }
  step := TerminalSession.Step options formats

end EternalTerminal
