/-
What lies between the two ends of a terminal session, as their threads see it.

A carrier takes packets from the `writePacket` of one end and gives them to the `readPacket` of the
other.  A session of two connections is one.
-/

import EternalTerminal.Session.Stalls
import EternalTerminal.Terminal.JumpSession
import EternalTerminal.Terminal.RunLoops

namespace EternalTerminal

open Library

def Packet.isOrdinary (packet : Packet) : Bool :=
  packet.header != INITIAL_PAYLOAD && packet.header != INITIAL_RESPONSE

/-- `writes` is a `write` that takes the packet and `skips` one that does not; `severs` is
`closeSocket`. -/
inductive CarrierEvent where
  | writes (side : Side) (packet : Packet)
  | skips (side : Side) (packet : Packet)
  | reads (side : Side) (packet : Packet)
  | readsNothing (side : Side)
  | severs (side : Side)
  | elsewhere

namespace CarrierEvent

def written : CarrierEvent → Side → List Packet
  | .writes writer packet, side => if side = writer then [packet] else []
  | .skips _ _, _ | .reads _ _, _ | .readsNothing _, _ | .severs _, _ | .elsewhere, _ => []

def read : CarrierEvent → Side → List Packet
  | .reads reader packet, side => if side = reader then [packet] else []
  | .writes _ _, _ | .skips _ _, _ | .readsNothing _, _ | .severs _, _ | .elsewhere, _ => []

end CarrierEvent

/-! ### What a step leaves of the lists -/

namespace CarrierEvent

variable {before after : Side → Endpoint} {packet : Packet} {side : Side}

/-- What the event says of the lists of both ends. -/
def Leaves (event : CarrierEvent) (before after : Side → Endpoint) : Prop :=
  ∀ side, (after side).accepted = (before side).accepted ++ event.written side ∧
    (after side).returned = (before side).returned ++ event.read side

/-- One end has changed, and the event is about it alone. -/
theorem leaves_of_own {event : CarrierEvent} (peer : after side.other = before side.other)
    (accepted : (after side).accepted = (before side).accepted ++ event.written side)
    (returned : (after side).returned = (before side).returned ++ event.read side)
    (silent : event.written side.other = [] ∧ event.read side.other = []) :
    event.Leaves before after := by
  intro other
  rcases Side.eq_or_eq_other other side with same | isPeer
  · rw [same]
    exact ⟨accepted, returned⟩
  · rw [isPeer, peer, silent.1, silent.2, List.append_nil, List.append_nil]
    exact ⟨rfl, rfl⟩

theorem leaves_writes (peer : after side.other = before side.other)
    (accepted : (after side).accepted = (before side).accepted ++ [packet])
    (returned : (after side).returned = (before side).returned) :
    (CarrierEvent.writes side packet).Leaves before after := by
  apply leaves_of_own peer
  · rw [written, if_pos rfl, accepted]
  · rw [read, returned, List.append_nil]
  · rw [written, if_neg side.other_ne]
    exact ⟨rfl, rfl⟩

theorem leaves_reads (peer : after side.other = before side.other)
    (accepted : (after side).accepted = (before side).accepted)
    (returned : (after side).returned = (before side).returned ++ [packet]) :
    (CarrierEvent.reads side packet).Leaves before after := by
  apply leaves_of_own peer
  · rw [written, accepted, List.append_nil]
  · rw [read, if_pos rfl, returned]
  · rw [read, if_neg side.other_ne]
    exact ⟨rfl, rfl⟩

theorem leaves_nothing {event : CarrierEvent}
    (silent : ∀ other, event.written other = [] ∧ event.read other = [])
    (same : ∀ other, (after other).accepted = (before other).accepted ∧
      (after other).returned = (before other).returned) : event.Leaves before after := by
  intro other
  rw [(silent other).1, (silent other).2, List.append_nil, List.append_nil]
  exact same other

theorem leaves_own_nothing {event : CarrierEvent} (peer : after side.other = before side.other)
    (silent : ∀ other, event.written other = [] ∧ event.read other = [])
    (accepted : (after side).accepted = (before side).accepted)
    (returned : (after side).returned = (before side).returned) : event.Leaves before after := by
  apply leaves_nothing silent
  intro other
  rcases Side.eq_or_eq_other other side with same | isPeer
  · rw [same]
    exact ⟨accepted, returned⟩
  · rw [isPeer, peer]
    exact ⟨rfl, rfl⟩

end CarrierEvent

/-- The packets that an end reads are, in order, those that the other end has written; the first
packet of each direction may be another one of the handshake.  A `write` in it may give up, which
changes nothing as long as nothing of its buffer was out. -/
structure Carrier where
  State : Type
  Stall : Type
  system : TransitionSystem State CarrierEvent
  accepted : State → Side → List Packet
  returned : State → Side → List Packet
  canBufferWrite : State → Side → Int → Bool
  starts : ∀ state, system.initial state → ∀ side,
    accepted state side = [] ∧ returned state side = []
  lists : ∀ before event after, system.step before event after → ∀ side,
    accepted after side = accepted before side ++ event.written side ∧
      returned after side = returned before side ++ event.read side
  carries : ∀ state, system.Reachable state → ∀ side,
    (returned state side.other).filter Packet.isOrdinary <+:
      (accepted state side).filter Packet.isOrdinary
  givesUp : State → Stall → State → Prop
  unsent : State → Stall → Prop
  idle : ∀ before stall after, unsent before stall → givesUp before stall after → after = before

/-! ### Two connections -/

namespace Session

variable (box : SecretBox) (proto : Protobuf)

/-- The steps of a session by what they do for the threads that use it.  What is written is within
the limits of its direction. -/
def CarrierStep (before : Session) : CarrierEvent → Session → Prop
  | .writes side packet, after =>
      before.withinLimits (side, .write packet) ∧
        Session.Step box proto before side (.write packet) after ∧
        (after.endpoint side).accepted = (before.endpoint side).accepted ++ [packet]
  | .skips side packet, after =>
      before.withinLimits (side, .write packet) ∧
        Session.Step box proto before side (.write packet) after ∧
        (after.endpoint side).accepted = (before.endpoint side).accepted
  | .reads side packet, after =>
      Session.Step box proto before side .read after ∧
        (after.endpoint side).returned = (before.endpoint side).returned ++ [packet]
  | .readsNothing side, after =>
      Session.Step box proto before side .read after ∧
        (after.endpoint side).returned = (before.endpoint side).returned
  | .severs side, after => Session.Step box proto before side .closeSocket after
  | .elsewhere, after =>
      ∃ side event, SessionEvent.Elsewhere event ∧
        Session.Step box proto before side event after

variable {box proto} {before after : Session}

theorem CarrierStep.leaves {event : CarrierEvent}
    (step : CarrierStep box proto before event after) :
    event.Leaves before.endpoint after.endpoint := by
  cases event with
  | writes writer packet =>
      obtain ⟨_, step, accepted⟩ := step
      exact CarrierEvent.leaves_writes step.peer accepted step.write_returned
  | skips writer packet =>
      obtain ⟨_, step, accepted⟩ := step
      exact CarrierEvent.leaves_own_nothing step.peer (fun _ => ⟨rfl, rfl⟩) accepted
        step.write_returned
  | reads reader packet =>
      obtain ⟨step, returned⟩ := step
      exact CarrierEvent.leaves_reads step.peer step.read_accepted returned
  | readsNothing reader =>
      obtain ⟨step, returned⟩ := step
      exact CarrierEvent.leaves_own_nothing step.peer (fun _ => ⟨rfl, rfl⟩) step.read_accepted
        returned
  | severs closer =>
      have same := Step.elsewhere step trivial
      exact CarrierEvent.leaves_own_nothing (Step.peer step) (fun _ => ⟨rfl, rfl⟩) same.1 same.2
  | elsewhere =>
      obtain ⟨mover, event, elsewhere, step⟩ := step
      have same := step.elsewhere elsewhere
      exact CarrierEvent.leaves_own_nothing step.peer (fun _ => ⟨rfl, rfl⟩) same.1 same.2

theorem CarrierStep.reachable {key : Key} {event : CarrierEvent}
    (step : CarrierStep box proto before event after)
    (reached : (sessionSystem box proto key).ReachableBy withinLimits before) :
    (sessionSystem box proto key).ReachableBy withinLimits after := by
  cases event with
  | writes side packet | skips side packet => exact reached.next step.1 step.2.1
  | reads side packet | readsNothing side =>
      have unlimited : before.withinLimits (side, .read) := trivial
      exact reached.next unlimited step.1
  | severs side =>
      have unlimited : before.withinLimits (side, .closeSocket) := trivial
      exact reached.next unlimited step
  | elsewhere =>
      obtain ⟨side, event, elsewhere, step⟩ := step
      exact reached.next (JumpSession.elsewhere_withinLimits elsewhere) step

/-! A session with nothing under way takes a packet and gives it. -/

/-- The end is attached to the first socket and has read all that it has taken from it. -/
structure Idle (endpoint : Endpoint) : Prop where
  settled : endpoint.recovering = none
  live : endpoint.connection.Live 0
  noBuffer : endpoint.connection.reader.localBuffer = []
  noPartial : endpoint.connection.reader.partialMessage = []

structure Calm (session : Session) : Prop where
  idle : ∀ side, Idle (session.endpoint side)
  kept : ∀ side, (session.wires 0 side).limit = none
  taken : ∀ side, (session.wires 0 side).taken = (session.wires 0 side).sent.length
  lockstep : ∀ side, (session.endpoint side).connection.writer.cryptoHandler =
    (session.endpoint side.other).connection.reader.cryptoHandler

theorem initial_calm (key : Key) : (Session.initial key).Calm where
  idle _ := ⟨rfl, ⟨rfl, rfl, rfl⟩, rfl, rfl⟩
  kept _ := rfl
  taken _ := rfl
  lockstep side := by
    cases side with
    | client | server => rfl

/-- A packet, as `side` puts it on the wire. -/
def nextFrame (box : SecretBox) (session : Session) (side : Side) (packet : Packet) : Bytes :=
  BackedWriter.frame (packet.sealed box (session.endpoint side).connection.writer.cryptoHandler)

def wrote (box : SecretBox) (session : Session) (side : Side) (packet : Packet) : Session :=
  { session.setEndpoint side
      { session.endpoint side with
        connection := (session.endpoint side).connection.accepting box packet
        accepted := (session.endpoint side).accepted ++ [packet] } with
    wires := session.wires.update 0 side (·.append (session.nextFrame box side packet)) }

def arrived (session : Session) (side : Side) (packet : Packet) (count : Nat) : Session :=
  { session.setEndpoint side
      { session.endpoint side with
        connection :=
          { (session.endpoint side).connection with
            reader := (session.endpoint side).connection.reader.advanced }
        returned := (session.endpoint side).returned ++ [packet] } with
    wires := session.wires.update 0 side.other (·.take count) }

section

variable {session : Session} {side : Side} {packet : Packet}

theorem Calm.writes (calm : session.Calm) (plain : packet.encrypted = false)
    (limits : session.withinLimits (side, .write packet)) :
    CarrierStep box proto session (.writes side packet) (session.wrote box side packet) := by
  refine ⟨limits, ?_, ?_⟩
  · exact Session.Step.write ((calm.idle side).settled)
      (Connection.write_written (calm.idle side).live.writer plain)
  · simp [wrote, setEndpoint]

theorem Calm.available (calm : session.Calm) :
    ((session.wrote box side packet).wires 0 side).available =
      session.nextFrame box side packet := by
  have here : (session.wrote box side packet).wires 0 side =
      (session.wires 0 side).append (session.nextFrame box side packet) :=
    if_pos ⟨rfl, rfl⟩
  rw [here, Stream.available, Stream.delivered]
  simp only [Stream.append, calm.kept, calm.taken, List.drop_left]

theorem wrote_own :
    (session.wrote box side packet).endpoint side =
      { session.endpoint side with
        connection := (session.endpoint side).connection.accepting box packet
        accepted := (session.endpoint side).accepted ++ [packet] } :=
  Function.update_self ..

theorem wrote_peer :
    (session.wrote box side packet).endpoint side.other = session.endpoint side.other :=
  Function.update_of_ne side.other_ne _ _

theorem arrived_own {count : Nat} :
    (session.arrived side packet count).endpoint side =
      { session.endpoint side with
        connection :=
          { (session.endpoint side).connection with
            reader := (session.endpoint side).connection.reader.advanced }
        returned := (session.endpoint side).returned ++ [packet] } :=
  Function.update_self ..

theorem Calm.reads (calm : session.Calm) (plain : packet.encrypted = false)
    (limits : session.withinLimits (side, .write packet)) :
    CarrierStep box proto (session.wrote box side packet) (.reads side.other packet)
      ((session.wrote box side packet).arrived side.other packet
        (session.nextFrame box side packet).length) := by
  have imageEq : BackedWriter.frame (packet.sealed box
      (session.endpoint side.other).connection.reader.cryptoHandler) =
        session.nextFrame box side packet := by
    rw [nextFrame, calm.lockstep side]
  have short : (session.nextFrame box side packet).length < 2 ^ 31 := by
    rw [nextFrame, BackedWriter.frame_length, Packet.sealed_length]
    exact limits.2
  have arrives : session.nextFrame box side packet <+:
      ((session.wrote box side packet).wires 0 side.other.other).available := by
    rw [Side.other_other, calm.available]
  have run := Connection.read_frame (calm.idle side.other).live (calm.idle side.other).noBuffer
    (calm.idle side.other).noPartial plain imageEq short arrives
  rw [← @wrote_peer box session side packet] at run
  constructor
  · refine Session.Step.read ?_ run
    rw [wrote_peer]
    exact (calm.idle side.other).settled
  · simp [arrived, setEndpoint]

theorem Calm.next (calm : session.Calm) :
    ((session.wrote box side packet).arrived side.other packet
      (session.nextFrame box side packet).length).Calm := by
  have own : ((session.wrote box side packet).arrived side.other packet
      (session.nextFrame box side packet).length).endpoint side =
        { session.endpoint side with
          connection := (session.endpoint side).connection.accepting box packet
          accepted := (session.endpoint side).accepted ++ [packet] } :=
    (Function.update_of_ne side.other_ne.symm _ _).trans wrote_own
  have peer : ((session.wrote box side packet).arrived side.other packet
      (session.nextFrame box side packet).length).endpoint side.other =
        { session.endpoint side.other with
          connection :=
            { (session.endpoint side.other).connection with
              reader := (session.endpoint side.other).connection.reader.advanced }
          returned := (session.endpoint side.other).returned ++ [packet] } := by
    rw [arrived_own, wrote_peer]
  have wire : ((session.wrote box side packet).arrived side.other packet
      (session.nextFrame box side packet).length).wires 0 side =
        ((session.wires 0 side).append (session.nextFrame box side packet)).take
          (session.nextFrame box side packet).length := by
    simp [arrived, wrote, Wires.update]
  have other : ((session.wrote box side packet).arrived side.other packet
      (session.nextFrame box side packet).length).wires 0 side.other =
        session.wires 0 side.other := by
    simp [arrived, wrote, Wires.update]
  generalize (session.wrote box side packet).arrived side.other packet
    (session.nextFrame box side packet).length = after at own peer wire other
  have both : ∀ property : Side → Prop, property side → property side.other →
      ∀ end_, property end_ := by
    intro property here there end_
    rcases Side.eq_or_eq_other end_ side with same | isPeer
    · rw [same]
      exact here
    · rw [isPeer]
      exact there
  constructor
  · apply both
    · rw [own]
      obtain ⟨settled, ⟨live, reader, writer⟩, noBuffer, noPartial⟩ := calm.idle side
      refine ⟨settled, ⟨live, reader, ?_⟩, noBuffer, noPartial⟩
      show (BackedWriter.accept box _ packet).socketFd = _
      rw [BackedWriter.accept, BackedWriter.backup_socketFd, writer]
    · rw [peer]
      obtain ⟨settled, ⟨live, reader, writer⟩, noBuffer, _⟩ := calm.idle side.other
      exact ⟨settled, ⟨live, reader, writer⟩, noBuffer, rfl⟩
  · apply both
    · rw [wire]
      exact calm.kept side
    · rw [other]
      exact calm.kept side.other
  · apply both
    · rw [wire]
      simp [Stream.take, Stream.append, calm.taken]
    · rw [other]
      exact calm.taken side.other
  · apply both
    · rw [own, peer]
      show (BackedWriter.accept box _ packet).cryptoHandler = _
      rw [BackedWriter.accept, BackedWriter.backup_cryptoHandler, calm.lockstep side]
      rfl
    · rw [Side.other_other, own, peer]
      have lockstep := calm.lockstep side.other
      rw [Side.other_other] at lockstep
      exact lockstep

variable (box proto) in
/-- `count` bounds what each side has written. -/
theorem Calm.exchange (calm : session.Calm) (side : Side) (packet : Packet)
    (plain : packet.encrypted = false) (short : packet.length < 2 ^ 30) {count : Nat}
    (accepted : ∀ side, (session.endpoint side).accepted.length ≤ count) (few : count < 2 ^ 30) :
    ∃ wrote after : Session, CarrierStep box proto session (.writes side packet) wrote ∧
      CarrierStep box proto wrote (.reads side.other packet) after ∧ after.Calm ∧
        ∀ side, (after.endpoint side).accepted.length ≤ count + 1 := by
  have limits : session.withinLimits (side, .write packet) := by
    have within := accepted side
    constructor
    · omega
    · rw [crypto_secretbox_MACBYTES]
      omega
  have writes : CarrierStep box proto session _ _ := calm.writes plain limits
  have reads : CarrierStep box proto _ _ _ := calm.reads plain limits
  refine ⟨_, _, writes, reads, calm.next, fun other => ?_⟩
  have atMost : (if other = side then [packet] else []).length ≤ 1 := by
    split
    · exact Nat.le_refl 1
    · exact Nat.zero_le 1
  rw [(reads.leaves other).1, (writes.leaves other).1, CarrierEvent.written, CarrierEvent.written,
    List.append_nil, List.length_append]
  exact Nat.add_le_add (accepted other) atMost

end

end Session

namespace Carrier

variable (box : SecretBox) (proto : Protobuf) (key : Key)

def directSystem : TransitionSystem Session CarrierEvent where
  initial session := session = Session.initial key
  step := Session.CarrierStep box proto

variable {box proto key}

theorem direct_reachable {session : Session}
    (reached : (directSystem box proto key).Reachable session) :
    (sessionSystem box proto key).ReachableBy Session.withinLimits session := by
  refine reached.invariant ?_ ?_
  · intro session initial
    exact .start initial
  · intro before event after reachable step
    exact Session.CarrierStep.reachable step reachable

variable (box proto key)

def direct : Carrier where
  State := Session
  Stall := Side
  system := directSystem box proto key
  accepted session side := (session.endpoint side).accepted
  returned session side := (session.endpoint side).returned
  canBufferWrite session side := (session.endpoint side).connection.canBufferWrite
  starts := by
    intro session initial side
    rw [show session = Session.initial key from initial]
    exact ⟨rfl, rfl⟩
  lists := by
    intro before event after step
    exact Session.CarrierStep.leaves step
  carries := by
    intro session reached side
    have delivers := Session.delivers_of_reachable (direct_reachable reached) side.other
    rw [Side.other_other] at delivers
    exact delivers.filter _
  givesUp before side after := before.GivesUp side after
  unsent session side := (session.endpoint side).partSent = false
  idle := by
    intro before side after unsent givesUp
    exact givesUp.unsent unsent

end Carrier

end EternalTerminal
