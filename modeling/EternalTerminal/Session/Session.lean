/-
A session: a client connection, its server connection, and the sockets between
them.

Both ends know a socket by one number that no later socket gets.  A socket
carries one stream each way, which may be lost at any byte.  `write`, `read`
and `closeSocket` run as one step, since the connection mutex is held and
their transfers only ever leave bytes to be taken later; `recover` waits for
the peer, so its transfers are steps of their own and interleave with
everything the peer does.
-/

import EternalTerminal.Session.Ledger
import EternalTerminal.Session.RecoverStage

namespace EternalTerminal

open Library

/-- One direction of a socket: the bytes its writer handed over, how many of
them its reader took, and the byte at which it was lost. -/
structure Stream where
  sent : Bytes
  taken : Nat
  limit : Option Nat

namespace Stream

def empty : Stream :=
  { sent := []
    taken := 0
    limit := none }

def delivered (stream : Stream) : Bytes :=
  match stream.limit with
  | none => stream.sent
  | some limit => stream.sent.take limit

def available (stream : Stream) : Bytes :=
  stream.delivered.drop stream.taken

def append (stream : Stream) (bytes : Bytes) : Stream :=
  { stream with sent := stream.sent ++ bytes }

def take (stream : Stream) (count : Nat) : Stream :=
  { stream with taken := stream.taken + count }

/-- Nothing after the first `limit` bytes arrives any more. -/
def lose (stream : Stream) (limit : Nat) : Stream :=
  { stream with limit := some (min limit (stream.limit.getD limit)) }

end Stream

/-- The streams of all sockets, by the side that writes them. -/
abbrev Wires := Fd → Side → Stream

def Wires.update (wires : Wires) (socket : Fd) (side : Side)
    (change : Stream → Stream) : Wires :=
  fun otherSocket otherSide =>
    if otherSocket = socket ∧ otherSide = side then
      change (wires otherSocket otherSide)
    else wires otherSocket otherSide

/-- How the wires may answer an operation of `side`. -/
def Wires.answers (side : Side) :
    Wires → (call : sockets.Operation) → sockets.Answer call → Wires → Prop
  | wires, .writeAll fd buffer, answer, after =>
      match answer with
      | .ok () => after = wires.update fd side (·.append buffer)
      | .error _ => ∃ count,
          after = wires.update fd side (·.append (buffer.take count))
  | wires, .readAll fd count, answer, after =>
      match answer with
      | .ok bytes =>
          bytes.length = count ∧ bytes <+: (wires fd side.other).available ∧
            after = wires.update fd side.other (·.take count)
      | .error _ => after = wires
  | wires, .read fd count, answer, after =>
      match answer with
      | .data bytes =>
          bytes ≠ [] ∧ bytes.length ≤ count ∧
            bytes <+: (wires fd side.other).available ∧
            after = wires.update fd side.other (·.take bytes.length)
      | .closed => after = wires
      | .failed _ => after = wires
  | wires, .close _, _, after => after = wires

/-- One end of the session, with the packets its writer accepted and those its
reader returned. -/
structure Endpoint where
  connection : Connection
  recovering : Option (Fd × Activity (Bool × Connection))
  accepted : List Packet
  returned : List Packet

structure Session where
  endpoint : Side → Endpoint
  wires : Wires
  used : Fd → Side → Bool

inductive SessionEvent where
  | write (packet : Packet)
  | read
  | closeSocket
  | recover (socket : Fd)
  | send (count : Nat)
  | receive (count : Nat)
  | fail (what : String)
  | close
  | finish
  | lose (socket : Fd) (limit : Nat)

def Side.nonceMSB : Side → UInt8
  | .client => CLIENT_SERVER_NONCE_MSB
  | .server => SERVER_CLIENT_NONCE_MSB

/-- The connection after the first handshake, attached to socket 0: what
`ClientConnection::connect` and `ServerClientConnection` construct. -/
def Endpoint.initial (key : Key) (side : Side) : Endpoint :=
  { connection := Connection.create key side.other.nonceMSB side.nonceMSB (some 0)
    recovering := none
    accepted := []
    returned := [] }

def Session.initial (key : Key) : Session :=
  { endpoint := Endpoint.initial key
    wires := fun _ _ => Stream.empty
    used := fun socket _ => socket = 0 }

namespace Session

variable (box : SecretBox) (proto : Protobuf)

def setEndpoint (session : Session) (side : Side) (endpoint : Endpoint) : Session :=
  { session with endpoint := Function.update session.endpoint side endpoint }

inductive Step (before : Session) (side : Side) : SessionEvent → Session → Prop
  | write {packet : Packet} {accepted : Bool} {connection : Connection} {wires : Wires} :
      (before.endpoint side).recovering = none →
      Program.Run (Wires.answers side) before.wires
        ((before.endpoint side).connection.write box packet)
        (.returned (accepted, connection)) wires →
      Step before side (.write packet)
        { before.setEndpoint side
            { before.endpoint side with
              connection := connection
              accepted := (before.endpoint side).accepted ++
                if accepted then [packet] else [] } with
          wires := wires }
  | read {packet : Option Packet} {connection : Connection} {wires : Wires} :
      (before.endpoint side).recovering = none →
      Program.Run (Wires.answers side) before.wires
        ((before.endpoint side).connection.read box)
        (.returned (packet, connection)) wires →
      Step before side .read
        { before.setEndpoint side
            { before.endpoint side with
              connection := connection
              returned := (before.endpoint side).returned ++ packet.toList } with
          wires := wires }
  | closeSocket {connection : Connection} {wires : Wires} :
      (before.endpoint side).recovering = none →
      Program.Run (Wires.answers side) before.wires
        (before.endpoint side).connection.closeSocket (.returned connection) wires →
      Step before side .closeSocket
        { before.setEndpoint side
            { before.endpoint side with connection := connection } with
          wires := wires }
  | recover {socket : Fd} :
      (before.endpoint side).recovering = none →
      (before.endpoint side).connection.socketFd = none →
      before.used socket side = false →
      Step before side (.recover socket)
        { before.setEndpoint side
            { before.endpoint side with
              recovering := some (socket,
                Activity.begin
                  ((before.endpoint side).connection.recover proto socket)) } with
          used := fun otherSocket otherSide =>
            before.used otherSocket otherSide ||
              (otherSocket = socket && otherSide = side) }
  | send {socket : Fd} {activity : Activity (Bool × Connection)} {count : Nat} :
      (before.endpoint side).recovering = some (socket, activity) →
      0 < count → count ≤ activity.outgoing.length →
      Step before side (.send count)
        { before.setEndpoint side
            { before.endpoint side with
              recovering := some (socket, activity.send count) } with
          wires := before.wires.update socket side
            (·.append (activity.outgoing.take count)) }
  | receive {socket : Fd} {activity : Activity (Bool × Connection)} {count : Nat} :
      (before.endpoint side).recovering = some (socket, activity) →
      0 < count → count ≤ activity.wanted →
      count ≤ (before.wires socket side.other).available.length →
      Step before side (.receive count)
        { before.setEndpoint side
            { before.endpoint side with
              recovering := some (socket, activity.receive
                ((before.wires socket side.other).available.take count)) } with
          wires := before.wires.update socket side.other (·.take count) }
  | fail {socket : Fd} {activity : Activity (Bool × Connection)} {what : String} :
      (before.endpoint side).recovering = some (socket, activity) →
      Step before side (.fail what)
        (before.setEndpoint side
          { before.endpoint side with
            recovering := some (socket, activity.fail what) })
  | close {socket : Fd} {activity : Activity (Bool × Connection)} :
      (before.endpoint side).recovering = some (socket, activity) →
      Step before side .close
        (before.setEndpoint side
          { before.endpoint side with recovering := some (socket, activity.closed) })
  | finish {socket : Fd} {activity : Activity (Bool × Connection)} {ok : Bool}
      {connection : Connection} :
      (before.endpoint side).recovering = some (socket, activity) →
      activity.program = .done (ok, connection) →
      Step before side .finish
        (before.setEndpoint side
          { before.endpoint side with
            connection := connection
            recovering := none })
  | lose {socket : Fd} {limit : Nat} :
      Step before side (.lose socket limit)
        { before with wires := before.wires.update socket side (·.lose limit) }

end Session

/-! ### What a step leaves -/

namespace Session.Step

variable {box : SecretBox} {proto : Protobuf} {before after : Session} {side : Side}
  {event : SessionEvent} {packet : Packet}

theorem peer (step : Session.Step box proto before side event after) :
    after.endpoint side.other = before.endpoint side.other := by
  cases step with
  | lose => rfl
  | write | read | closeSocket | recover | send | receive | fail | close | finish =>
      exact Function.update_of_ne side.other_ne _ _

theorem write_returned (step : Session.Step box proto before side (.write packet) after) :
    (after.endpoint side).returned = (before.endpoint side).returned := by
  cases step
  simp only [setEndpoint, Function.update_self]

theorem read_accepted (step : Session.Step box proto before side .read after) :
    (after.endpoint side).accepted = (before.endpoint side).accepted := by
  cases step
  simp only [setEndpoint, Function.update_self]

theorem read_returned (step : Session.Step box proto before side .read after) :
    (before.endpoint side).returned <+: (after.endpoint side).returned := by
  cases step
  simp only [setEndpoint, Function.update_self]
  exact List.prefix_append _ _

end Session.Step

def sessionSystem (box : SecretBox) (proto : Protobuf) (key : Key) :
    TransitionSystem Session (Side × SessionEvent) where
  initial session := session = Session.initial key
  step before label after := Session.Step box proto before label.1 label.2 after

/-- Fewer than 2^31 packets a direction, each with a frame whose length an `int`
holds. -/
def Session.withinLimits (session : Session) : Side × SessionEvent → Prop
  | (side, .write packet) =>
      (session.endpoint side).accepted.length + 1 < 2 ^ 31 ∧
        4 + (packet.length + crypto_secretbox_MACBYTES) < 2 ^ 31
  | _ => True

end EternalTerminal
