/-
A session through a jumphost: `TerminalServer::runJumpHost` between the client's connection and
the pipe, and `UserJumphostHandler::run` between the pipe and its own connection to the
destination.

Both threads are cut where they wait.  The two connections are sessions of their own, with their
losses and recoveries; the client and the destination do what they like on them.
-/

import EternalTerminal.Session.Session
import EternalTerminal.Terminal.PacketPipe
import EternalTerminal.Terminal.SessionEnds

namespace EternalTerminal

open Library

/-- `protoToString` and `stringToProto` of an `InitialPayload`.  What has been parsed is parsed
again when it is serialized, whatever `set_jumphost` has made of its flag. -/
structure PayloadFormat where
  serialize : InitialPayload → Bytes
  parse : Bytes → Option InitialPayload
  parse_serialize : ∀ bytes payload jumphost, parse bytes = some payload →
    parse (serialize { payload with jumphost := jumphost }) =
      some { payload with jumphost := jumphost }

def JUMPHOST_INIT : UInt8 := 10

/-! ### The loops -/

/-- Where one of the two loops is: at its top, in the `readPacket` from the pipe, in the
`writePacket` of what that returned, at the connection's turn, in the `writePacket` of what the
connection gave. -/
inductive RelayPhase where
  | looping
  | readingPipe
  | writing (packet : Packet)
  | connectionTurn
  | forwarding
  | ended

def RelayPhase.held : RelayPhase → List Packet
  | .writing packet => [packet]
  | _ => []

structure Relay where
  session : Session
  incoming : PacketPipe
  outgoing : PacketPipe
  phase : RelayPhase

namespace Relay

variable (box : SecretBox) (proto : Protobuf) (side : Side)

/-- What follows a chunk of the `readPacket` from the pipe. -/
def afterPipe : PipeRead → RelayPhase
  | .waits => .readingPipe
  | .empty => .connectionTurn
  | .packet packet => .writing packet
  | .throws => .ended

/-- One step of a loop.  It may be stopped at its top by `halt`, `run` or `shuttingDown`.  A
`writePacket` that finds the connection shut down returns without the packet; the loop then reads
nothing more and ends at its top. -/
inductive Step (before : Relay) : Relay → Prop
  | stop :
      before.phase = .looping →
      Step before { before with phase := .ended }
  | selectsPipe :
      before.phase = .looping →
      Step before { before with phase := .readingPipe }
  | skipsPipe :
      before.phase = .looping →
      Step before { before with phase := .connectionTurn }
  | readsPipe {count : Nat} :
      before.phase = .readingPipe →
      0 < count → count ≤ before.incoming.asks → count ≤ before.incoming.inFlight.length →
      Step before
        { before with
          incoming := before.incoming.read count
          phase := afterPipe (before.incoming.readResult count) }
  | readFails :
      before.phase = .readingPipe →
      Step before { before with phase := .ended }
  | writes {packet : Packet} {session : Session} :
      before.phase = .writing packet →
      Session.Step box proto before.session side (.write packet) session →
      (session.endpoint side).accepted = (before.session.endpoint side).accepted ++ [packet] →
      Step before
        { before with
          session := session
          phase := .connectionTurn }
  | writeSkipped {packet : Packet} {session : Session} :
      before.phase = .writing packet →
      Session.Step box proto before.session side (.write packet) session →
      (session.endpoint side).accepted = (before.session.endpoint side).accepted →
      Step before { before with session := session }
  | writeDropped {packet : Packet} :
      before.phase = .writing packet →
      Step before { before with phase := .ended }
  | skipsConnection :
      before.phase = .connectionTurn →
      Step before { before with phase := .looping }
  | readsNothing {session : Session} :
      before.phase = .connectionTurn →
      Session.Step box proto before.session side .read session →
      (session.endpoint side).returned = (before.session.endpoint side).returned →
      Step before
        { before with
          session := session
          phase := .looping }
  | readsConnection {packet : Packet} {session : Session} :
      before.phase = .connectionTurn →
      Session.Step box proto before.session side .read session →
      (session.endpoint side).returned = (before.session.endpoint side).returned ++ [packet] →
      PacketPipe.Fits packet →
      Step before
        { before with
          session := session
          outgoing := before.outgoing.writePacket packet
          phase := .forwarding }
  | readsTooLong {packet : Packet} {session : Session} :
      before.phase = .connectionTurn →
      Session.Step box proto before.session side .read session →
      (session.endpoint side).returned = (before.session.endpoint side).returned ++ [packet] →
      ¬ PacketPipe.Fits packet →
      -- `writePacket` aborts
      Step before
        { before with
          session := session
          phase := .ended }
  | forwards {count : Nat} :
      before.phase = .forwarding →
      Step before { before with outgoing := before.outgoing.write count }
  | forwarded :
      before.phase = .forwarding → before.outgoing.outgoing = [] →
      Step before { before with phase := .looping }
  | forwardFails :
      before.phase = .forwarding →
      Step before { before with phase := .ended }

end Relay

/-! ### Before the loops -/

/-- `handleConnection` and `runJumpHost` up to the loop.  `next` is where the loop goes after
`JUMPHOST_INIT`: it ends at once if the connection had been shut down. -/
inductive JumpHostPhase where
  | awaitingPayload
  | responding (payload : InitialPayload)
  | binding (payload : InitialPayload) (next : RelayPhase)
  | announcing (next : RelayPhase)
  | running (phase : RelayPhase)

/-- `UserJumphostHandler::run` up to its loop.  After a `connect` that fails the loop has a
connection without a reader and a writer. -/
inductive UserJumphostPhase where
  | awaitingInit
  | connecting (payload : InitialPayload)
  | sendingPayload (payload : InitialPayload)
  | awaitingResponse (waits : Nat)
  | unconnected
  | running (phase : RelayPhase)

/-- The handshake is completed once the handler has an answer without an error. -/
structure JumpSession where
  near : Session
  far : Session
  toHandler : PacketPipe
  toServer : PacketPipe
  server : JumpHostPhase
  handler : UserJumphostPhase
  completed : Bool

namespace JumpSession

/-- The handler connects with the passkey that the client has. -/
def initial (key : Key) : JumpSession :=
  { near := Session.initial key
    far := Session.initial key
    toHandler := PacketPipe.empty
    toServer := PacketPipe.empty
    server := .awaitingPayload
    handler := .awaitingInit
    completed := false }

/-- The `INITIAL_RESPONSE` of `runJumpHost`. -/
def response : Packet :=
  Packet.plain INITIAL_RESPONSE (initialResponse.serialize { error := none })

variable (formats : PayloadFormat)

def payloadPacket (payload : InitialPayload) : Packet :=
  Packet.plain INITIAL_PAYLOAD (formats.serialize payload)

def initPacket (payload : InitialPayload) : Packet :=
  Packet.plain JUMPHOST_INIT (formats.serialize payload)

/-- What `handleConnection` makes of the first packet.  A session without `jumphost` runs a
terminal and is none of this. -/
def afterPayload (packet : Packet) : JumpHostPhase :=
  if packet.header = INITIAL_PAYLOAD then
    match formats.parse packet.payload with
    | none => .running .ended
    | some payload => if payload.jumphost then .responding payload else .running .ended
  else .running .ended

/-- What `run` makes of a packet from the router. -/
def afterInit : PipeRead → UserJumphostPhase
  | .waits => .awaitingInit
  | .empty => .awaitingInit
  | .throws => .running .ended
  | .packet packet =>
      if packet.header = JUMPHOST_INIT then
        match formats.parse packet.payload with
        | none => .running .ended
        | some payload => if payload.jumphost then .connecting payload else .running .ended
      else .running .ended

def answers (packet : Packet) : Bool :=
  packet.header = INITIAL_RESPONSE &&
    match initialResponse.parse packet.payload with
    | none => false
    | some response => response.error.isNone

def afterResponse (packet : Packet) : UserJumphostPhase :=
  if answers packet then .running .looping else .running .ended

end JumpSession

/-- The events of a connection's other threads: a reconnect, a close, a loss. -/
def SessionEvent.Elsewhere : SessionEvent → Prop
  | .write _ | .read => False
  | _ => True

namespace JumpSession

variable (box : SecretBox) (proto : Protobuf) (formats : PayloadFormat)

inductive Event where
  | client (event : SessionEvent)
  | destination (event : SessionEvent)
  | serverConnection (event : SessionEvent)
  | handlerConnection (event : SessionEvent)
  | server
  | handler

/-- The steps of `handleConnection` and `runJumpHost`. -/
inductive ServerStep (before : JumpSession) : JumpSession → Prop
  | waits {near : Session} :
      before.server = .awaitingPayload →
      Session.Step box proto before.near .server .read near →
      (near.endpoint .server).returned = (before.near.endpoint .server).returned →
      ServerStep before { before with near := near }
  | payload {packet : Packet} {near : Session} :
      before.server = .awaitingPayload →
      Session.Step box proto before.near .server .read near →
      (near.endpoint .server).returned = (before.near.endpoint .server).returned ++ [packet] →
      ServerStep before
        { before with
          near := near
          server := afterPayload formats packet }
  | responds {payload : InitialPayload} {near : Session} :
      before.server = .responding payload →
      Session.Step box proto before.near .server (.write response) near →
      (near.endpoint .server).accepted = (before.near.endpoint .server).accepted ++ [response] →
      ServerStep before
        { before with
          near := near
          server := .binding payload .looping }
  | respondsLater {payload : InitialPayload} {near : Session} :
      before.server = .responding payload →
      Session.Step box proto before.near .server (.write response) near →
      (near.endpoint .server).accepted = (before.near.endpoint .server).accepted →
      ServerStep before { before with near := near }
  | responseDropped {payload : InitialPayload} :
      before.server = .responding payload →
      ServerStep before { before with server := .binding payload .ended }
  | binds {payload : InitialPayload} {next : RelayPhase} :
      before.server = .binding payload next →
      PacketPipe.Fits (initPacket formats payload) →
      ServerStep before
        { before with
          toHandler := before.toHandler.writePacket (initPacket formats payload)
          server := .announcing next }
  | bindFails {payload : InitialPayload} {next : RelayPhase} :
      before.server = .binding payload next →
      ServerStep before { before with server := .running .ended }
  | announces {next : RelayPhase} {count : Nat} :
      before.server = .announcing next →
      ServerStep before { before with toHandler := before.toHandler.write count }
  | announced {next : RelayPhase} :
      before.server = .announcing next → before.toHandler.outgoing = [] →
      ServerStep before { before with server := .running next }
  | announceFails {next : RelayPhase} :
      before.server = .announcing next →
      ServerStep before { before with server := .running .ended }
  | relays {phase : RelayPhase} {relay : Relay} :
      before.server = .running phase →
      Relay.Step box proto .server
        { session := before.near
          incoming := before.toServer
          outgoing := before.toHandler
          phase := phase } relay →
      ServerStep before
        { before with
          near := relay.session
          toServer := relay.incoming
          toHandler := relay.outgoing
          server := .running relay.phase }

/-- The steps of `UserJumphostHandler::run`. -/
inductive HandlerStep (before : JumpSession) : JumpSession → Prop
  | readsInit {count : Nat} :
      before.handler = .awaitingInit →
      0 < count → count ≤ before.toHandler.asks → count ≤ before.toHandler.inFlight.length →
      HandlerStep before
        { before with
          toHandler := before.toHandler.read count
          handler := afterInit formats (before.toHandler.readResult count) }
  | readInitFails :
      before.handler = .awaitingInit →
      HandlerStep before { before with handler := .running .ended }
  | connects {payload : InitialPayload} :
      before.handler = .connecting payload →
      HandlerStep before
        { before with handler := .sendingPayload { payload with jumphost := false } }
  | connectFails {payload : InitialPayload} :
      before.handler = .connecting payload →
      HandlerStep before { before with handler := .unconnected }
  | sendsPayload {payload : InitialPayload} {far : Session} :
      before.handler = .sendingPayload payload →
      Session.Step box proto before.far .client (.write (payloadPacket formats payload)) far →
      (far.endpoint .client).accepted =
        (before.far.endpoint .client).accepted ++ [payloadPacket formats payload] →
      HandlerStep before
        { before with
          far := far
          handler := .awaitingResponse 3 }
  | sendsLater {payload : InitialPayload} {far : Session} :
      before.handler = .sendingPayload payload →
      Session.Step box proto before.far .client (.write (payloadPacket formats payload)) far →
      (far.endpoint .client).accepted = (before.far.endpoint .client).accepted →
      HandlerStep before { before with far := far }
  | payloadDropped {payload : InitialPayload} :
      before.handler = .sendingPayload payload →
      HandlerStep before { before with handler := .running .ended }
  | waits {left : Nat} :
      before.handler = .awaitingResponse (left + 1) →
      HandlerStep before { before with handler := .awaitingResponse left }
  | readsNothing {left : Nat} {far : Session} :
      before.handler = .awaitingResponse (left + 1) →
      Session.Step box proto before.far .client .read far →
      (far.endpoint .client).returned = (before.far.endpoint .client).returned →
      HandlerStep before
        { before with
          far := far
          handler := .awaitingResponse left }
  | readsResponse {left : Nat} {packet : Packet} {far : Session} :
      before.handler = .awaitingResponse (left + 1) →
      Session.Step box proto before.far .client .read far →
      (far.endpoint .client).returned = (before.far.endpoint .client).returned ++ [packet] →
      HandlerStep before
        { before with
          far := far
          handler := afterResponse packet
          completed := answers packet }
  | unanswered :
      before.handler = .awaitingResponse 0 →
      HandlerStep before { before with handler := .running .looping }
  | relays {phase : RelayPhase} {relay : Relay} :
      before.handler = .running phase →
      Relay.Step box proto .client
        { session := before.far
          incoming := before.toHandler
          outgoing := before.toServer
          phase := phase } relay →
      HandlerStep before
        { before with
          far := relay.session
          toHandler := relay.incoming
          toServer := relay.outgoing
          handler := .running relay.phase }

inductive Step (before : JumpSession) : Event → JumpSession → Prop
  | client {event : SessionEvent} {near : Session} :
      Session.Step box proto before.near .client event near →
      Step before (.client event) { before with near := near }
  | destination {event : SessionEvent} {far : Session} :
      Session.Step box proto before.far .server event far →
      Step before (.destination event) { before with far := far }
  | serverConnection {event : SessionEvent} {near : Session} :
      event.Elsewhere →
      Session.Step box proto before.near .server event near →
      Step before (.serverConnection event) { before with near := near }
  | handlerConnection {event : SessionEvent} {far : Session} :
      event.Elsewhere →
      Session.Step box proto before.far .client event far →
      Step before (.handlerConnection event) { before with far := far }
  | server {after : JumpSession} :
      ServerStep box proto formats before after →
      Step before .server after
  | handler {after : JumpSession} :
      HandlerStep box proto formats before after →
      Step before .handler after

end JumpSession

def jumpSystem (box : SecretBox) (proto : Protobuf) (formats : PayloadFormat) (key : Key) :
    TransitionSystem JumpSession JumpSession.Event where
  initial jump := jump = JumpSession.initial key
  step before event after := JumpSession.Step box proto formats before event after

end EternalTerminal
