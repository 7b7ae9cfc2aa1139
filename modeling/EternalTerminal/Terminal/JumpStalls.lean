/-
A session through a jumphost whose writes may stall.

`writePacket` puts its packet on the pipe with `writeAllOrThrow` over `UnixSocketHandler::write`,
as `recover` does its messages.  What is sent again after a part of it is taken for packets by the
other thread.
-/

import EternalTerminal.Session.Stalls
import EternalTerminal.Terminal.Carrier

namespace EternalTerminal

open Library

namespace JumpSession

/-- Whose `write` gives up: one of the two threads', on the pipe, or that of a `recover` of either
connection. -/
inductive Stall where
  | server
  | handler
  | near (side : Side)
  | far (side : Side)

/-- A thread gives up in a `writePacket` that has not put out all of its packet. -/
inductive GivesUp (before : JumpSession) : Stall → JumpSession → Prop
  | announcing {next : RelayPhase} :
      before.server = .announcing next → before.toHandler.outgoing ≠ [] →
      GivesUp before .server { before with toHandler := before.toHandler.giveUp }
  | serverForwarding :
      before.server = .running .forwarding → before.toHandler.outgoing ≠ [] →
      GivesUp before .server { before with toHandler := before.toHandler.giveUp }
  | handlerForwarding :
      before.handler = .running .forwarding → before.toServer.outgoing ≠ [] →
      GivesUp before .handler { before with toServer := before.toServer.giveUp }
  | near {side : Side} {near : Session} :
      Session.GivesUp before.near side near →
      GivesUp before (.near side) { before with near := near }
  | far {side : Side} {far : Session} :
      Session.GivesUp before.far side far →
      GivesUp before (.far side) { before with far := far }

/-- On the pipe, no `write` gives up once a part of its buffer is out. -/
def sendsOnce (jump : JumpSession) : Event ⊕ Stall → Prop
  | .inr .server => jump.toHandler.resent = []
  | .inr .handler => jump.toServer.resent = []
  | .inl _ | .inr (.near _) | .inr (.far _) => True

end JumpSession

/-- Every interleaving of the two loops with what happens to the two connections. -/
def stallingJumpSystem (box : SecretBox) (proto : Protobuf) (formats : PayloadFormat) (key : Key) :
    TransitionSystem JumpSession (JumpSession.Event ⊕ JumpSession.Stall) :=
  (jumpSystem box proto formats key).withFaults JumpSession.GivesUp

/-- What an end has accepted and returned does not depend on its `recover`. -/
theorem Session.GivesUp.lists {before after : Session} {side : Side}
    (givesUp : before.GivesUp side after) (other : Side) :
    (after.endpoint other).accepted = (before.endpoint other).accepted ∧
      (after.endpoint other).returned = (before.endpoint other).returned := by
  cases givesUp with
  | recover recovering =>
      unfold Session.setEndpoint
      dsimp only
      rcases Side.eq_or_eq_other other side with same | isPeer
      · rw [same, Function.update_self]
        exact ⟨rfl, rfl⟩
      · rw [isPeer, Function.update_of_ne side.other_ne]
        exact ⟨rfl, rfl⟩

namespace JumpSession

variable {box : SecretBox} {proto : Protobuf} {formats : PayloadFormat} {key : Key}
  {before after jump : JumpSession}

theorem GivesUp.sound {stall : Stall} (givesUp : before.GivesUp stall after)
    (once : sendsOnce before (.inr stall)) (sound : before.Sound formats) :
    after.Sound formats := by
  cases givesUp with
  | announcing _ _ | serverForwarding _ _ =>
      rw [PacketPipe.giveUp_unsent once]
      exact sound
  | handlerForwarding _ _ =>
      rw [PacketPipe.giveUp_unsent once]
      exact sound
  | near givesUp =>
      obtain ⟨accepted, returned⟩ := givesUp.lists .server
      refine ⟨sound.toHandler, sound.toServer, ?_, sound.handler⟩
      unfold serverLists Endpoint.lists
      rw [accepted, returned]
      exact sound.server
  | far givesUp =>
      obtain ⟨accepted, returned⟩ := givesUp.lists .client
      refine ⟨sound.toHandler, sound.toServer, sound.server, ?_⟩
      unfold handlerLists Endpoint.lists
      rw [accepted, returned]
      exact sound.handler

/-- Of the buffer of the `write` that gives up nothing is out. -/
def unsent (jump : JumpSession) : Stall → Prop
  | .server => jump.toHandler.resent = []
  | .handler => jump.toServer.resent = []
  | .near side => (jump.near.endpoint side).partSent = false
  | .far side => (jump.far.endpoint side).partSent = false

theorem GivesUp.idle {stall : Stall} (givesUp : before.GivesUp stall after)
    (unsent : before.unsent stall) : after = before := by
  cases givesUp with
  | announcing _ _ | serverForwarding _ _ => rw [PacketPipe.giveUp_unsent unsent]
  | handlerForwarding _ _ => rw [PacketPipe.giveUp_unsent unsent]
  | near givesUp => rw [givesUp.unsent unsent]
  | far givesUp => rw [givesUp.unsent unsent]

theorem sound_of_sendsOnce
    (reached : (stallingJumpSystem box proto formats key).ReachableBy sendsOnce jump) :
    jump.Sound formats := by
  refine reached.invariant ?_ ?_
  · intro initial isInitial
    have start : (jumpSystem box proto formats key).Reachable initial := .start isInitial
    exact reachable_sound start
  · intro before label after sound once step
    cases label with
    | inl event => exact Step.sound step sound
    | inr stall => exact GivesUp.sound step once sound

end JumpSession

/-- If each of the two connections delivers what it accepts, in order and once, so does the
session through the jumphost, from the second packet on, as long as nothing is put on the pipe
again. -/
theorem jump_session_like_direct (box : SecretBox) (proto : Protobuf) (formats : PayloadFormat)
    (key : Key) {jump : JumpSession}
    (reached : (stallingJumpSystem box proto formats key).ReachableBy JumpSession.sendsOnce jump)
    (near : jump.near.Delivers) (far : jump.far.Delivers) : jump.LikeDirect formats :=
  (JumpSession.sound_of_sendsOnce reached).likeDirect near far

/-! ### A packet after the handshake -/

/-- A `readPacket` that gets the length and then this many bytes returns the packet. -/
def PacketPipe.Arrives (pipe : PacketPipe) (count : Nat) (packet : Packet) : Prop :=
  (8 ≤ pipe.asks ∧ 0 < count ∧ count ≤ (pipe.read 8).asks) ∧
    (8 ≤ pipe.inFlight.length ∧ count ≤ (pipe.read 8).inFlight.length) ∧
    pipe.readResult 8 = .waits ∧ (pipe.read 8).readResult count = .packet packet

structure Session.Exchanged (session : Session) (given : Side → List Packet) : Prop where
  reached : (sessionSystem SecretBox.nullCipher Protobuf.standard Key.zero).ReachableBy
    Session.withinLimits session
  calm : session.Calm
  lists : ∀ side, (session.endpoint side).accepted = given side ∧
    (session.endpoint side).returned = given side.other

namespace Session.Exchanged

theorem initial : (Session.initial Key.zero).Exchanged (fun _ => []) where
  reached := .start rfl
  calm := initial_calm Key.zero
  lists _ := ⟨rfl, rfl⟩

variable {session : Session} {given : Side → List Packet}

theorem delivers (exchanged : session.Exchanged given) : session.Delivers := by
  intro side
  rw [(exchanged.lists side).2, (exchanged.lists side.other).1]

def grown (given : Side → List Packet) (side : Side) (packet : Packet) : Side → List Packet :=
  fun other => given other ++ (CarrierEvent.writes side packet).written other

theorem next (exchanged : session.Exchanged given) (side : Side) (packet : Packet)
    (plain : packet.encrypted = false) (short : packet.length < 2 ^ 30)
    (few : ∀ side, (given side).length < 2 ^ 10) :
    ∃ wrote after : Session,
      CarrierStep SecretBox.nullCipher Protobuf.standard session (.writes side packet) wrote ∧
      CarrierStep SecretBox.nullCipher Protobuf.standard wrote (.reads side.other packet) after ∧
      after.Exchanged (grown given side packet) := by
  have accepted : ∀ side, (session.endpoint side).accepted.length ≤ 2 ^ 10 :=
    fun side => (exchanged.lists side).1 ▸ (few side).le
  obtain ⟨wrote, after, writes, reads, calm, _⟩ := exchanged.calm.exchange SecretBox.nullCipher
    Protobuf.standard side packet plain short accepted (by decide)
  refine ⟨wrote, after, writes, reads, ?_, calm, ?_⟩
  · exact reads.reachable (writes.reachable exchanged.reached)
  · intro other
    obtain ⟨accepted, returned⟩ := exchanged.lists other
    constructor
    · rw [(reads.leaves other).1, (writes.leaves other).1, accepted]
      exact List.append_nil _
    · have same : (CarrierEvent.reads side.other packet).read other =
          (CarrierEvent.writes side packet).written other.other := by
        cases side <;> cases other <;> rfl
      rw [(reads.leaves other).2, (writes.leaves other).2, returned, same]
      exact congrArg (· ++ _) (List.append_nil _)

end Session.Exchanged

namespace JumpSession

def openingThere : Packet := cleared flagFormat (flagOnly true)

def nearGiven : Side → List Packet :=
  Session.Exchanged.grown (Session.Exchanged.grown (fun _ => []) .client opening) .server response

def farGiven : Side → List Packet :=
  Session.Exchanged.grown (Session.Exchanged.grown (fun _ => []) .client openingThere) .server
    response

/-- The handler has read `JUMPHOST_INIT`. -/
def initRead : PacketPipe :=
  { PacketPipe.empty with
    sent := [initPacket flagFormat (flagOnly true)]
    received := [initPacket flagFormat (flagOnly true)] }

def announced (near : Session) : JumpSession :=
  { JumpSession.initial Key.zero with
    near := near
    toHandler := initWritten
    server := .running .looping }

/-- Both threads are at the top of their loops, and the handshake is completed. -/
def established (near far : Session) : JumpSession :=
  { announced near with
    far := far
    toHandler := initRead
    handler := .running .looping
    completed := true }

theorem exists_announced : ∃ near,
    (jumpSystem SecretBox.nullCipher Protobuf.standard flagFormat Key.zero).Reachable
      (announced near) ∧ near.Exchanged nearGiven := by
  have fits : PacketPipe.Fits (initPacket flagFormat (flagOnly true)) := by
    unfold PacketPipe.Fits
    decide
  have out : initWritten.outgoing = [] := by decide
  obtain ⟨_, _, writes, reads, near⟩ := Session.Exchanged.initial.next .client opening rfl
    (by decide) (fun _ => by decide)
  obtain ⟨_, after, responds, seen, done⟩ := near.next .server response rfl (by decide)
    (fun side => by cases side <;> decide)
  have start : (jumpSystem SecretBox.nullCipher Protobuf.standard flagFormat Key.zero).Reachable
      (JumpSession.initial Key.zero) := .start rfl
  have written := start.next (.client writes.2.1)
  have read := written.next (.server (.payload rfl reads.1 reads.2))
  have responded := read.next (.server (.responds rfl responds.2.1 responds.2.2))
  have answered := responded.next (.client seen.1)
  have bound := answered.next (.server (.binds rfl fits))
  have whole := bound.next (.server (@ServerStep.announces _ _ _ _ _ 12 rfl))
  exact ⟨after, whole.next (.server (.announced rfl out)), done⟩

theorem exists_established : ∃ near far,
    (jumpSystem SecretBox.nullCipher Protobuf.standard flagFormat Key.zero).Reachable
      (established near far) ∧ near.Exchanged nearGiven ∧ far.Exchanged farGiven := by
  have asked : 8 ≤ initWritten.asks ∧ 4 ≤ (initWritten.read 8).asks := by decide +kernel
  have inFlight : 8 ≤ initWritten.inFlight.length ∧ 4 ≤ (initWritten.read 8).inFlight.length := by
    decide +kernel
  have waits : initWritten.readResult 8 = .waits := by decide +kernel
  have arrives : (initWritten.read 8).readResult 4 =
      .packet (initPacket flagFormat (flagOnly true)) := by decide +kernel
  have isRead : (initWritten.read 8).read 4 = initRead := by decide +kernel
  have isAnswer : answers response = true := by decide +kernel
  obtain ⟨near, reached, nearDone⟩ := exists_announced
  obtain ⟨_, _, writes, reads, far⟩ := Session.Exchanged.initial.next .client openingThere rfl
    (by decide) (fun _ => by decide)
  obtain ⟨_, after, responds, answered, farDone⟩ := far.next .server response rfl (by decide)
    (fun side => by cases side <;> decide)
  refine ⟨near, after, ?_, nearDone, farDone⟩
  have sized := reached.next (.handler (@HandlerStep.readsInit _ _ _ _ 8 rfl (by decide)
    asked.1 inFlight.1))
  rw [show (announced near).toHandler = initWritten from rfl, waits] at sized
  have initial := sized.next (.handler (@HandlerStep.readsInit _ _ _ _ 4 rfl (by decide)
    asked.2 inFlight.2))
  dsimp only at initial
  rw [arrives, isRead] at initial
  have connected := initial.next (.handler (@HandlerStep.connects _ _ _ _ (flagOnly true) rfl))
  have written := connected.next (.handler (.sendsPayload rfl writes.2.1 writes.2.2))
  have opened := written.next (.destination reads.1)
  have responded := opened.next (.destination responds.2.1)
  have shaken := responded.next (.handler (.readsResponse rfl answered.1 answered.2))
  rw [afterResponse, isAnswer] at shaken
  exact shaken

/-- The server has this direction of the pipe in a `writePacket`. -/
def forwardingBy (near far : Session) (toHandler : PacketPipe) : JumpSession :=
  { established near far with
    toHandler := toHandler
    server := .running .forwarding }

/-- The handler has written a packet that it has read from the pipe. -/
def relayedBy (near far : Session) (toHandler : PacketPipe) : JumpSession :=
  { forwardingBy near far toHandler with handler := .running .connectionTurn }

def greetingTaken : PacketPipe := initRead.writePacket Session.greeting

def greetingWritten : PacketPipe := greetingTaken.write 13

/-- The server has put two bytes of the packet on the pipe, given up and started again. -/
def greetingResent : PacketPipe := ((greetingTaken.write 10).giveUp).write 5

theorem exists_forwarding : ∃ near far,
    (jumpSystem SecretBox.nullCipher Protobuf.standard flagFormat Key.zero).Reachable
      (forwardingBy near far greetingTaken) ∧
    near.Exchanged (Session.Exchanged.grown nearGiven .client Session.greeting) ∧
    far.Exchanged farGiven := by
  have fits : PacketPipe.Fits Session.greeting := by
    unfold PacketPipe.Fits
    decide
  obtain ⟨near, far, reached, nearDone, farDone⟩ := exists_established
  obtain ⟨_, after, writes, reads, done⟩ := nearDone.next .client Session.greeting rfl (by decide)
    (fun side => by cases side <;> decide)
  refine ⟨after, far, ?_, done, farDone⟩
  have written := reached.next (.client writes.2.1)
  have skipped := written.next (.server (.relays rfl (.skipsPipe rfl)))
  exact skipped.next (.server (.relays rfl (.readsConnection rfl reads.1 reads.2 fits)))

theorem exists_relayed {allowed : JumpSession → Event ⊕ Stall → Prop}
    (free : ∀ jump event, allowed jump (.inl event)) {near far : Session} {pipe : PacketPipe}
    {packet : Packet} {count : Nat}
    (reached : (stallingJumpSystem SecretBox.nullCipher Protobuf.standard flagFormat
      Key.zero).ReachableBy allowed (forwardingBy near far pipe))
    (exchanged : far.Exchanged farGiven)
    (arrives : pipe.Arrives count packet)
    (plain : packet.encrypted = false) (short : packet.length < 2 ^ 30) :
    ∃ after, (stallingJumpSystem SecretBox.nullCipher Protobuf.standard flagFormat
        Key.zero).ReachableBy allowed (relayedBy near after ((pipe.read 8).read count)) ∧
      after.Exchanged (Session.Exchanged.grown farGiven .client packet) := by
  obtain ⟨asked, inFlight, waits, arrives⟩ := arrives
  obtain ⟨_, after, writes, reads, done⟩ := exchanged.next .client packet plain short
    (fun side => by cases side <;> decide)
  refine ⟨after, ?_, done⟩
  have selected := reached.nextStep (free _ _) (.handler (.relays rfl (.selectsPipe rfl)))
  have sized := selected.nextStep (free _ _)
    (.handler (.relays rfl (@Relay.Step.readsPipe _ _ _ _ 8 rfl (by decide) asked.1 inFlight.1)))
  dsimp only at sized
  rw [show (forwardingBy near far pipe).toHandler = pipe from rfl, waits] at sized
  have whole := sized.nextStep (free _ _) (.handler (.relays rfl
    (@Relay.Step.readsPipe _ _ _ _ count rfl asked.2.1 asked.2.2 inFlight.2)))
  dsimp only at whole
  rw [arrives] at whole
  have written := whole.nextStep (free _ _)
    (.handler (.relays rfl (.writes rfl writes.2.1 writes.2.2)))
  exact written.nextStep (free _ _) (.destination reads.1)

end JumpSession

theorem jump_session_like_direct_greeting :
    ∃ jump : JumpSession, jump.completed = true ∧
      (jump.far.endpoint .server).returned = [JumpSession.openingThere, Session.greeting] ∧
      jump.LikeDirect JumpSession.flagFormat := by
  have arrives : JumpSession.greetingWritten.Arrives 5 Session.greeting := by
    unfold PacketPipe.Arrives
    decide +kernel
  obtain ⟨near, far, reached, nearDone, farDone⟩ := JumpSession.exists_forwarding
  have taken : (stallingJumpSystem SecretBox.nullCipher Protobuf.standard JumpSession.flagFormat
      Key.zero).ReachableBy JumpSession.sendsOnce
        (JumpSession.forwardingBy near far JumpSession.greetingTaken) :=
    TransitionSystem.ReachableBy.withFaults reached
  have written := taken.nextStep trivial
    (.server (.relays rfl (@Relay.Step.forwards _ _ _ _ 13 rfl)))
  obtain ⟨after, relayed, done⟩ := JumpSession.exists_relayed (fun _ _ => trivial) written farDone
    arrives rfl (by decide)
  exact ⟨_, rfl, (done.lists .server).2, jump_session_like_direct _ _ _ _ relayed
    nearDone.delivers done.delivers⟩

/-- The server gives up after two bytes of the packet, and the handler takes a packet that starts
with them twice. -/
theorem resent_packet_relayed :
    ¬ ∀ jump, (stallingJumpSystem SecretBox.nullCipher Protobuf.standard JumpSession.flagFormat
      Key.zero).Reachable jump → jump.completed = true → jump.near.Delivers →
        jump.far.Delivers → jump.LikeDirect JumpSession.flagFormat := by
  intro direct
  have arrives : JumpSession.greetingResent.Arrives 5 (Packet.plain 7 [0, 7, 1]) := by
    unfold PacketPipe.Arrives
    decide +kernel
  have unfinished : (JumpSession.greetingTaken.write 10).outgoing ≠ [] := by decide
  obtain ⟨near, far, reached, nearDone, farDone⟩ := JumpSession.exists_forwarding
  have taken : (stallingJumpSystem SecretBox.nullCipher Protobuf.standard JumpSession.flagFormat
      Key.zero).Reachable (JumpSession.forwardingBy near far JumpSession.greetingTaken) :=
    TransitionSystem.ReachableBy.withFaults reached
  have begun := taken.nextStep trivial
    (.server (.relays rfl (@Relay.Step.forwards _ _ _ _ 10 rfl)))
  have givenUp := begun.nextFault trivial (.serverForwarding rfl unfinished)
  have again : (stallingJumpSystem SecretBox.nullCipher Protobuf.standard JumpSession.flagFormat
      Key.zero).Reachable (JumpSession.forwardingBy near far JumpSession.greetingResent) :=
    givenUp.nextStep trivial (.server (.relays rfl (@Relay.Step.forwards _ _ _ _ 5 rfl)))
  obtain ⟨after, relayed, done⟩ := JumpSession.exists_relayed (fun _ _ => trivial) again farDone
    arrives rfl (by decide)
  have read : (after.endpoint .server).returned =
      [JumpSession.openingThere, Packet.plain 7 [0, 7, 1]] := (done.lists .server).2
  have written : (near.endpoint .client).accepted = [JumpSession.opening, Session.greeting] :=
    (nearDone.lists .client).1
  have forward : (after.endpoint .server).returned.tail <+:
      (near.endpoint .client).accepted.tail :=
    (direct _ relayed rfl nearDone.delivers done.delivers).forward
  rw [read, written] at forward
  exact absurd forward (by decide)

end EternalTerminal
