/-
What a jumphost relays.

With the two connections and the two directions of the pipe between its threads, the destination
reads what the client wrote and the client what the destination wrote.
-/

import EternalTerminal.Session.Delivery
import EternalTerminal.Terminal.JumpThreads

namespace EternalTerminal

open Library

namespace JumpSession

variable {box : SecretBox} {proto : Protobuf} {formats : PayloadFormat} {lists : RelayLists}
  {completed : Bool} {before after : JumpSession}

/-! ### Every run -/

structure Sound (formats : PayloadFormat) (jump : JumpSession) : Prop where
  toHandler : jump.toHandler.Intact
  toServer : jump.toServer.Intact
  server : ServerStands formats jump.server jump.serverLists
  handler : HandlerStands formats jump.handler jump.completed jump.handlerLists

/-- A step of the server's thread is one at its end of the pipe. -/
theorem ServerStep.apart (step : ServerStep box proto formats before after)
    (toServer : before.toServer.Intact) (toHandler : before.toHandler.Intact) :
    (after.toServer.Intact ∧ after.toHandler.Intact) ∧
      after.handlerLists = before.handlerLists ∧ after.handler = before.handler ∧
        after.completed = before.completed := by
  cases step with
  | relays _ step =>
      obtain ⟨_, sent, received⟩ := step.far
      refine ⟨step.intact toServer toHandler, ?_, rfl, rfl⟩
      unfold handlerLists Endpoint.lists
      dsimp only
      rw [sent, received]
  | binds _ fits => exact ⟨⟨toServer, toHandler.writePacket fits⟩, rfl, rfl, rfl⟩
  | announces _ => exact ⟨⟨toServer, toHandler.write _⟩, rfl, rfl, rfl⟩
  | waits _ _ _ | payload _ _ _ | responds _ _ _ | respondsLater _ _ _ | responseDropped _
  | bindFails _ | announced _ _ | announceFails _ => exact ⟨⟨toServer, toHandler⟩, rfl, rfl, rfl⟩

theorem HandlerStep.apart (step : HandlerStep box proto formats before after)
    (toServer : before.toServer.Intact) (toHandler : before.toHandler.Intact) :
    (after.toServer.Intact ∧ after.toHandler.Intact) ∧
      after.serverLists = before.serverLists ∧ after.server = before.server := by
  cases step with
  | relays _ step =>
      obtain ⟨_, sent, received⟩ := step.far
      have intact := step.intact toHandler toServer
      refine ⟨⟨intact.2, intact.1⟩, ?_, rfl⟩
      unfold serverLists Endpoint.lists
      dsimp only
      rw [sent, received]
  | readsInit _ positive asked arrived =>
      refine ⟨⟨toServer, (toHandler.read positive asked arrived).2⟩, ?_, rfl⟩
      unfold serverLists Endpoint.lists
      dsimp only
      rw [PacketPipe.read_sent]
  | readInitFails _ | connects _ | connectFails _ | sendsPayload _ _ _ | sendsLater _ _ _
  | payloadDropped _ | waits _ | readsNothing _ _ _ | readsResponse _ _ _ | unanswered _ =>
      exact ⟨⟨toServer, toHandler⟩, rfl, rfl⟩

theorem Step.sound {event : Event} (step : Step box proto formats before event after)
    (sound : before.Sound formats) : after.Sound formats := by
  cases step with
  | @client _ near step =>
      have kept : near.endpoint .server = before.near.endpoint .server := step.peer
      refine ⟨sound.toHandler, sound.toServer, ?_, sound.handler⟩
      unfold serverLists
      rw [kept]
      exact sound.server
  | @destination _ far step =>
      have kept : far.endpoint .client = before.far.endpoint .client := step.peer
      refine ⟨sound.toHandler, sound.toServer, sound.server, ?_⟩
      unfold handlerLists
      rw [kept]
      exact sound.handler
  | serverConnection elsewhere step =>
      refine ⟨sound.toHandler, sound.toServer, ?_, sound.handler⟩
      unfold serverLists
      rw [step.elsewhere_lists elsewhere]
      exact sound.server
  | handlerConnection elsewhere step =>
      refine ⟨sound.toHandler, sound.toServer, sound.server, ?_⟩
      unfold handlerLists
      rw [step.elsewhere_lists elsewhere]
      exact sound.handler
  | server step =>
      obtain ⟨intact, lists, phase, completed⟩ := step.apart sound.toServer sound.toHandler
      refine ⟨intact.2, intact.1, step.stands sound.toServer sound.server, ?_⟩
      rw [lists, phase, completed]
      exact sound.handler
  | handler step =>
      obtain ⟨intact, lists, phase⟩ := step.apart sound.toServer sound.toHandler
      refine ⟨intact.2, intact.1, ?_, step.stands sound.toHandler sound.handler⟩
      rw [lists, phase]
      exact sound.server

theorem reachable_sound {key : Key} {jump : JumpSession}
    (reached : (jumpSystem box proto formats key).Reachable jump) : jump.Sound formats := by
  refine reached.invariant ?_ ?_
  · intro initial isInitial
    rw [show initial = JumpSession.initial key from isInitial]
    exact ⟨PacketPipe.empty_intact, PacketPipe.empty_intact, .awaitingPayload, .awaitingInit⟩
  · intro before event after sound step
    exact Step.sound step sound

/-! ### What is relayed -/

/-- Everything that the server sends to the handler after `JUMPHOST_INIT` it has read after the
first packet. -/
theorem ServerStands.outward {server : JumpHostPhase} (stands : ServerStands formats server lists)
    {init : Packet} {rest : List Packet} (sent : lists.sent = init :: rest) :
    ∃ first payload more, Opens formats first payload ∧ init = initPacket formats payload ∧
      lists.taken = first :: more ∧ rest <+: more := by
  cases stands with
  | awaitingPayload | responding _ | binding _ _ => cases sent
  | announcing opens _ =>
      cases sent
      exact ⟨_, _, [], opens, rfl, rfl, List.prefix_rfl⟩
  | running opens relayed =>
      obtain ⟨more, left, takenEq, sentEq, _⟩ := relayed.outward
      rw [sent, List.singleton_append] at sentEq
      obtain ⟨isInit, same⟩ := List.cons.inj sentEq
      refine ⟨_, _, more ++ left, opens, isInit, ?_, ?_⟩
      · rw [takenEq, List.append_assoc]
        rfl
      · rw [same]
        exact List.prefix_append _ _
  | left _ _ sentEq =>
      rcases sentEq with nothing | ⟨first, payload, opens, takenEq, isInit⟩
      · rw [nothing] at sent
        cases sent
      · rw [isInit] at sent
        cases sent
        exact ⟨first, payload, [], opens, rfl, takenEq, List.prefix_rfl⟩

theorem ServerStands.inward {server : JumpHostPhase} (stands : ServerStands formats server lists) :
    lists.given = [] ∨
      ∃ relayed, lists.given = response :: relayed ∧ relayed <+: lists.received := by
  have few (given : lists.given = [] ∨ lists.given = [response]) : lists.given = [] ∨
      ∃ relayed, lists.given = response :: relayed ∧ relayed <+: lists.received := by
    rcases given with nothing | only
    · exact Or.inl nothing
    · exact Or.inr ⟨[], only, List.nil_prefix⟩
  cases stands with
  | awaitingPayload | responding _ => exact Or.inl rfl
  | binding _ responded | announcing _ responded => exact few responded.cases
  | running opens relayed =>
      obtain ⟨more, left, received, given, _⟩ := relayed.inward
      refine Or.inr ⟨more, given, ?_⟩
      rw [received, List.nil_append]
      exact List.prefix_append _ _
  | left _ given _ => exact few given

theorem HandlerStands.outward {handler : UserJumphostPhase}
    (stands : HandlerStands formats handler completed lists) {opening : Packet}
    {rest : List Packet} (given : lists.given = opening :: rest) :
    ∃ init payload more, formats.parse init.payload = some payload ∧
      opening = cleared formats payload ∧ lists.received = init :: more ∧ rest <+: more := by
  cases stands with
  | awaitingInit | connecting _ | sendingPayload _ | unconnected => cases given
  | awaitingResponse parsed =>
      cases given
      exact ⟨_, _, [], parsed, rfl, rfl, List.prefix_rfl⟩
  | running parsed answer relayed =>
      obtain ⟨more, left, receivedEq, givenEq, _⟩ := relayed.inward
      rw [given, List.singleton_append] at givenEq
      obtain ⟨isOpening, same⟩ := List.cons.inj givenEq
      refine ⟨_, _, more ++ left, parsed, isOpening, ?_, ?_⟩
      · rw [receivedEq, List.append_assoc]
        rfl
      · rw [same]
        exact List.prefix_append _ _
  | left _ givenEq =>
      rcases givenEq with nothing | ⟨init, payload, parsed, receivedEq, isOpening⟩
      · rw [nothing] at given
        cases given
      · rw [isOpening] at given
        cases given
        exact ⟨init, payload, [], parsed, rfl, receivedEq, List.prefix_rfl⟩

theorem HandlerStands.inward {handler : UserJumphostPhase}
    (stands : HandlerStands formats handler completed lists) (complete : completed = true) :
    ∃ answer more, answers answer = true ∧ lists.taken = answer :: more ∧ lists.sent <+: more := by
  cases stands with
  | awaitingInit | connecting _ | sendingPayload _ | awaitingResponse _ | unconnected =>
      cases complete
  | running parsed answer relayed =>
      obtain ⟨only, isAnswer, rfl⟩ := answer complete
      obtain ⟨more, left, taken, sent, _⟩ := relayed.outward
      refine ⟨only, more ++ left, isAnswer, ?_, ?_⟩
      · rw [taken, List.append_assoc]
        rfl
      · rw [sent, List.nil_append]
        exact List.prefix_append _ _
  | left _ _ => cases complete

structure LikeDirect (formats : PayloadFormat) (jump : JumpSession) : Prop where
  opening : ∀ opening rest, (jump.far.endpoint .server).returned = opening :: rest →
    ∃ first written payload, (jump.near.endpoint .client).accepted = first :: written ∧
      first.header = INITIAL_PAYLOAD ∧ formats.parse first.payload = some payload ∧
      opening = payloadPacket formats { payload with jumphost := false }
  forward : (jump.far.endpoint .server).returned.tail <+:
    (jump.near.endpoint .client).accepted.tail
  response : ∀ answer rest, (jump.near.endpoint .client).returned = answer :: rest →
    answer = JumpSession.response
  backward : jump.completed = true →
    ∃ answer written, (jump.far.endpoint .server).accepted = answer :: written ∧
      answers answer = true ∧ (jump.near.endpoint .client).returned.tail <+: written

theorem Sound.outward {jump : JumpSession} (sound : jump.Sound formats) {opening : Packet}
    {rest : List Packet} (given : (jump.far.endpoint .client).accepted = opening :: rest) :
    ∃ first payload more, Opens formats first payload ∧ opening = cleared formats payload ∧
      (jump.near.endpoint .server).returned = first :: more ∧ rest <+: more := by
  obtain ⟨init, payload, received, parsed, isOpening, receivedEq, relayed⟩ :=
    sound.handler.outward given
  obtain ⟨later, sentEq⟩ := sound.toHandler.received_prefix
  have whole : jump.toHandler.sent = init :: (received ++ later) := by
    rw [← sentEq, show jump.toHandler.received = init :: received from receivedEq]
    rfl
  obtain ⟨first, same, more, opens, isInit, takenEq, sent⟩ := sound.server.outward whole
  -- what the server parsed is parsed again by the handler
  have again := formats.parse_serialize first.payload same same.jumphost opens.2.1
  have samePayload : payload = same := by
    rw [isInit] at parsed
    exact Option.some.inj (parsed.symm.trans again)
  refine ⟨first, payload, more, samePayload ▸ opens, isOpening, takenEq, ?_⟩
  exact relayed.trans ((List.prefix_append _ _).trans sent)

theorem Sound.inward {jump : JumpSession} (sound : jump.Sound formats)
    (complete : jump.completed = true) :
    ∃ answer more, answers answer = true ∧
      (jump.far.endpoint .client).returned = answer :: more ∧
      (jump.near.endpoint .server).accepted.tail <+: more := by
  obtain ⟨answer, more, isAnswer, taken, sent⟩ := sound.handler.inward complete
  refine ⟨answer, more, isAnswer, taken, ?_⟩
  rcases sound.server.inward with nothing | ⟨relayed, given, received⟩
  · rw [show (jump.near.endpoint .server).accepted = [] from nothing]
    exact List.nil_prefix
  · rw [show (jump.near.endpoint .server).accepted = _ from given]
    exact (received.trans sound.toServer.received_prefix).trans sent

end JumpSession

/-- What either side has returned is the beginning of what the other has accepted. -/
def Session.Delivers (session : Session) : Prop :=
  ∀ side, (session.endpoint side).returned <+: (session.endpoint side.other).accepted

theorem JumpSession.Sound.likeDirect {formats : PayloadFormat} {jump : JumpSession}
    (sound : jump.Sound formats) (near : jump.near.Delivers) (far : jump.far.Delivers) :
    jump.LikeDirect formats := by
  have arrives := far .server
  have leaves := near .server
  have outward {opening : Packet} {rest : List Packet}
      (returned : (jump.far.endpoint .server).returned = opening :: rest) :
      ∃ first written payload, (jump.near.endpoint .client).accepted = first :: written ∧
        JumpSession.Opens formats first payload ∧
        opening = JumpSession.cleared formats payload ∧ rest <+: written := by
    obtain ⟨later, given⟩ := arrives
    rw [returned] at given
    obtain ⟨first, payload, more, opens, isOpening, taken, relayed⟩ := sound.outward given.symm
    obtain ⟨unread, written⟩ := leaves
    rw [taken] at written
    refine ⟨first, more ++ unread, payload, written.symm, opens, isOpening, ?_⟩
    exact (List.prefix_append _ _).trans (relayed.trans (List.prefix_append _ _))
  constructor
  · intro opening rest returned
    obtain ⟨first, written, payload, accepted, opens, isOpening, _⟩ := outward returned
    exact ⟨first, written, payload, accepted, opens.1, opens.2.1, isOpening⟩
  · cases returned : (jump.far.endpoint .server).returned with
    | nil => exact List.nil_prefix
    | cons opening rest =>
        obtain ⟨first, written, payload, accepted, _, _, relayed⟩ := outward returned
        rw [accepted]
        exact relayed
  · intro answer rest returned
    obtain ⟨unread, given⟩ := near .client
    rw [returned] at given
    rcases sound.server.inward with nothing | ⟨relayed, written, _⟩
    · cases given.trans nothing
    · exact (List.cons.inj (given.trans written)).1
  · intro complete
    obtain ⟨answer, more, isAnswer, taken, given⟩ := sound.inward complete
    obtain ⟨unread, written⟩ := far .client
    rw [taken] at written
    refine ⟨answer, more ++ unread, written.symm, isAnswer, ?_⟩
    have reads := (near .client).drop 1
    rw [List.drop_one, List.drop_one] at reads
    exact reads.trans (given.trans (List.prefix_append _ _))

/-! ### The two connections -/

/-- What a thread may do to its session: read, or write the packet that it is to write. -/
inductive Session.ThreadStep (box : SecretBox) (proto : Protobuf) (side : Side)
    (writes : Option Packet) (before : Session) : Session → Prop
  | none : ThreadStep box proto side writes before before
  | read {after : Session} :
      Session.Step box proto before side .read after →
      ThreadStep box proto side writes before after
  | write {packet : Packet} {after : Session} :
      writes = some packet →
      Session.Step box proto before side (.write packet) after →
      ThreadStep box proto side writes before after

theorem Session.ThreadStep.reachable {box : SecretBox} {proto : Protobuf} {key : Key}
    {side : Side} {writes : Option Packet} {before after : Session}
    (step : Session.ThreadStep box proto side writes before after)
    (allowed : ∀ packet, writes = some packet → before.withinLimits (side, .write packet))
    (reached : (sessionSystem box proto key).ReachableBy Session.withinLimits before) :
    (sessionSystem box proto key).ReachableBy Session.withinLimits after := by
  cases step with
  | none => exact reached
  | read step =>
      have unlimited : before.withinLimits (side, .read) := trivial
      exact reached.next unlimited step
  | write isNext step => exact reached.next (allowed _ isNext) step

def RelayPhase.writes : RelayPhase → Option Packet
  | .writing packet => some packet
  | _ => none

theorem Relay.Step.session {box : SecretBox} {proto : Protobuf} {side : Side}
    {before after : Relay} (step : Relay.Step box proto side before after) :
    Session.ThreadStep box proto side before.phase.writes before.session after.session := by
  cases step with
  | writes phase step _ | writeSkipped phase step _ =>
      refine .write ?_ step
      rw [phase]
      rfl
  | readsNothing _ step _ | readsConnection _ step _ _ | readsTooLong _ step _ _ =>
      exact .read step
  | stop _ | selectsPipe _ | skipsPipe _ | readsPipe _ _ _ _ | readFails _ | writeDropped _
  | skipsConnection _ | forwards _ | forwarded _ _ | forwardFails _ => exact .none

namespace JumpSession

def serverWrites : JumpHostPhase → Option Packet
  | .responding _ => some response
  | .running phase => phase.writes
  | _ => none

def handlerWrites (formats : PayloadFormat) : UserJumphostPhase → Option Packet
  | .sendingPayload payload => some (payloadPacket formats payload)
  | .running phase => phase.writes
  | _ => none

/-- What is written to either connection is within the limits of its direction. -/
def withinLimits (formats : PayloadFormat) (jump : JumpSession) : Event → Prop
  | .client event => jump.near.withinLimits (.client, event)
  | .destination event => jump.far.withinLimits (.server, event)
  | .server => ∀ packet, serverWrites jump.server = some packet →
      jump.near.withinLimits (.server, .write packet)
  | .handler => ∀ packet, handlerWrites formats jump.handler = some packet →
      jump.far.withinLimits (.client, .write packet)
  | _ => True

/-- Within the limits, and the destination writes nothing before it has read a packet: its
`handleConnection` waits for one. -/
def ordinary (formats : PayloadFormat) (jump : JumpSession) (event : Event) : Prop :=
  jump.withinLimits formats event ∧
    ∀ packet, event = .destination (.write packet) → (jump.far.endpoint .server).returned ≠ []

variable {box : SecretBox} {proto : Protobuf} {formats : PayloadFormat} {key : Key}
  {before after jump : JumpSession}

theorem ordinary_client {event : SessionEvent}
    (allowed : jump.near.withinLimits (.client, event)) :
    ordinary formats jump (.client event) :=
  ⟨allowed, nofun⟩

theorem ordinary_server (allowed : ∀ packet, serverWrites jump.server = some packet →
    jump.near.withinLimits (.server, .write packet)) : ordinary formats jump .server :=
  ⟨allowed, nofun⟩

theorem ordinary_handler (allowed : ∀ packet, handlerWrites formats jump.handler = some packet →
    jump.far.withinLimits (.client, .write packet)) : ordinary formats jump .handler :=
  ⟨allowed, nofun⟩

theorem ServerStep.sessions (step : ServerStep box proto formats before after) :
    Session.ThreadStep box proto .server (serverWrites before.server) before.near after.near ∧
      after.far = before.far := by
  cases step with
  | waits _ step _ | payload _ step _ => exact ⟨.read step, rfl⟩
  | responds phase step _ | respondsLater phase step _ =>
      rw [phase]
      exact ⟨.write rfl step, rfl⟩
  | relays phase step =>
      rw [phase]
      exact ⟨step.session, rfl⟩
  | responseDropped _ | binds _ _ | bindFails _ | announces _ | announced _ _
  | announceFails _ => exact ⟨.none, rfl⟩

theorem HandlerStep.sessions (step : HandlerStep box proto formats before after) :
    Session.ThreadStep box proto .client (handlerWrites formats before.handler) before.far
        after.far ∧ after.near = before.near := by
  cases step with
  | readsNothing _ step _ | readsResponse _ step _ => exact ⟨.read step, rfl⟩
  | sendsPayload phase step _ | sendsLater phase step _ =>
      rw [phase]
      exact ⟨.write rfl step, rfl⟩
  | relays phase step =>
      rw [phase]
      exact ⟨step.session, rfl⟩
  | readsInit _ _ _ _ | readInitFails _ | connects _ | connectFails _ | payloadDropped _
  | waits _ | unanswered _ => exact ⟨.none, rfl⟩

theorem elsewhere_withinLimits {session : Session} {side : Side} {event : SessionEvent}
    (elsewhere : event.Elsewhere) : session.withinLimits (side, event) := by
  cases event with
  | write packet => exact elsewhere.elim
  | read | closeSocket | recover | send | receive | fail | close | finish | lose => trivial

theorem sessions_reachable
    (reached : (jumpSystem box proto formats key).ReachableBy (withinLimits formats) jump) :
    (sessionSystem box proto key).ReachableBy Session.withinLimits jump.near ∧
      (sessionSystem box proto key).ReachableBy Session.withinLimits jump.far := by
  induction reached with
  | start initial =>
      rw [show _ = JumpSession.initial key from initial]
      exact ⟨.start rfl, .start rfl⟩
  | next _ allowed step ih =>
      obtain ⟨near, far⟩ := ih
      cases step with
      | client step => exact ⟨near.next allowed step, far⟩
      | destination step => exact ⟨near, far.next allowed step⟩
      | serverConnection elsewhere step =>
          exact ⟨near.next (elsewhere_withinLimits elsewhere) step, far⟩
      | handlerConnection elsewhere step =>
          exact ⟨near, far.next (elsewhere_withinLimits elsewhere) step⟩
      | server step =>
          obtain ⟨moves, same⟩ := step.sessions
          rw [same]
          exact ⟨moves.reachable allowed near, far⟩
      | handler step =>
          obtain ⟨moves, same⟩ := step.sessions
          rw [same]
          exact ⟨near, moves.reachable allowed far⟩

end JumpSession

theorem Session.delivers_of_reachable {box : SecretBox} {proto : Protobuf} {key : Key}
    {session : Session}
    (reached : (sessionSystem box proto key).ReachableBy Session.withinLimits session) :
    session.Delivers := by
  obtain ⟨ledger, reachable, refines⟩ := Session.reachable_refines reached
  exact fun side => refines.returned_prefix side

/-! ### The first packet -/

namespace JumpSession

def flagOnly (jumphost : Bool) : InitialPayload :=
  { jumphost := jumphost
    reversetunnels := []
    environmentvariables := [] }

def flagFormat : PayloadFormat where
  serialize payload := [8, if payload.jumphost then 1 else 0]
  parse bytes :=
    if bytes = [8, 1] then some (flagOnly true)
    else if bytes = [8, 0] then some (flagOnly false)
    else none
  parse_serialize := by
    intro bytes payload jumphost parsed
    have only : payload = flagOnly payload.jumphost := by
      split at parsed
      · cases parsed
        rfl
      · split at parsed
        · cases parsed
          rfl
        · cases parsed
    rw [only]
    cases jumphost with
    | false => rfl
    | true => rfl

def firstWritten (packet : Packet) : Session :=
  { (Session.initial Key.zero).setEndpoint .client
      { Endpoint.initial Key.zero .client with
        connection :=
          (Endpoint.initial Key.zero .client).connection.accepting SecretBox.nullCipher packet
        accepted := [packet] } with
    wires := (Session.initial Key.zero).wires.update 0 .client
      (·.append (BackedWriter.frame (packet.sealed SecretBox.nullCipher
        (CryptoHandler.ofKey Key.zero CLIENT_SERVER_NONCE_MSB)))) }

def firstRead (packet : Packet) : Session :=
  { (firstWritten packet).setEndpoint .server
      { Endpoint.initial Key.zero .server with
        connection :=
          { (Endpoint.initial Key.zero .server).connection with
            reader := (Endpoint.initial Key.zero .server).connection.reader.advanced }
        returned := [packet] } with
    wires := (firstWritten packet).wires.update 0 .client
      (·.take (BackedWriter.frame (packet.sealed SecretBox.nullCipher
        (CryptoHandler.ofKey Key.zero CLIENT_SERVER_NONCE_MSB))).length) }

def firstAnswered (packet : Packet) : Session :=
  { (firstRead packet).setEndpoint .server
      { (firstRead packet).endpoint .server with
        connection :=
          ((firstRead packet).endpoint .server).connection.accepting SecretBox.nullCipher response
        accepted := [response] } with
    wires := (firstRead packet).wires.update 0 .server
      (·.append (BackedWriter.frame (response.sealed SecretBox.nullCipher
        (CryptoHandler.ofKey Key.zero SERVER_CLIENT_NONCE_MSB)))) }

theorem firstWritten_step {packet : Packet} (plain : packet.encrypted = false) :
    Session.Step SecretBox.nullCipher Protobuf.standard (Session.initial Key.zero) .client
      (.write packet) (firstWritten packet) :=
  Session.Step.write rfl (Connection.write_written rfl plain)

theorem firstRead_step {packet : Packet} (plain : packet.encrypted = false)
    (short : packet.length < 2 ^ 30) :
    Session.Step SecretBox.nullCipher Protobuf.standard (firstWritten packet) .server .read
      (firstRead packet) := by
  have length : (BackedWriter.frame (packet.sealed SecretBox.nullCipher
      (CryptoHandler.ofKey Key.zero CLIENT_SERVER_NONCE_MSB))).length < 2 ^ 31 := by
    rw [BackedWriter.frame_length, Packet.sealed_length, crypto_secretbox_MACBYTES]
    omega
  have arrived : BackedWriter.frame (packet.sealed SecretBox.nullCipher
      (CryptoHandler.ofKey Key.zero CLIENT_SERVER_NONCE_MSB)) <+:
        ((firstWritten packet).wires 0 Side.server.other).available := List.prefix_rfl
  have run : Program.Run (Wires.answers .server) (firstWritten packet).wires
      (((firstWritten packet).endpoint .server).connection.read SecretBox.nullCipher)
      (.returned (some packet, _)) _ :=
    Connection.read_frame ⟨rfl, rfl, rfl⟩ rfl rfl plain rfl length arrived
  exact Session.Step.read rfl run

theorem firstAnswered_step (packet : Packet) :
    Session.Step SecretBox.nullCipher Protobuf.standard (firstRead packet) .server
      (.write response) (firstAnswered packet) :=
  Session.Step.write rfl (Connection.write_written rfl rfl)

/-- The first packet of the client, and `JUMPHOST_INIT` on its way. -/
def opening : Packet := payloadPacket flagFormat (flagOnly true)

def initWritten : PacketPipe :=
  (PacketPipe.empty.writePacket (initPacket flagFormat (flagOnly true))).write 12

def passedOn : JumpSession :=
  { JumpSession.initial Key.zero with
    near := firstAnswered opening
    toHandler := initWritten
    server := .announcing .looping }

def openedOn : JumpSession :=
  { passedOn with
    far := firstWritten (cleared flagFormat (flagOnly true))
    toHandler := (initWritten.read 8).read 4
    handler := .awaitingResponse 3 }

theorem passedOn_reachableBy :
    (jumpSystem SecretBox.nullCipher Protobuf.standard flagFormat Key.zero).ReachableBy
      (ordinary flagFormat) passedOn := by
  have start : (jumpSystem SecretBox.nullCipher Protobuf.standard flagFormat Key.zero).ReachableBy
      (ordinary flagFormat) (JumpSession.initial Key.zero) := .start rfl
  have plain : opening.encrypted = false := rfl
  have fits : PacketPipe.Fits (initPacket flagFormat (flagOnly true)) := by
    unfold PacketPipe.Fits
    decide
  have short : (JumpSession.initial Key.zero).near.withinLimits (.client, .write opening) :=
    ⟨by decide, by decide⟩
  have written := start.next (ordinary_client short) (.client (firstWritten_step plain))
  have read := written.next (ordinary_server nofun)
    (.server (.payload rfl (firstRead_step plain (by decide)) rfl))
  have responds : ordinary flagFormat
      { JumpSession.initial Key.zero with
        near := firstRead opening
        server := .responding (flagOnly true) } .server := by
    apply ordinary_server
    intro packet isResponse
    cases isResponse
    exact ⟨by decide, by decide⟩
  have answered := read.next responds (.server (.responds rfl (firstAnswered_step opening) rfl))
  have announced := answered.next (ordinary_server nofun) (.server (.binds rfl fits))
  exact announced.next (ordinary_server nofun) (.server (.announces rfl))

theorem openedOn_reachableBy :
    (jumpSystem SecretBox.nullCipher Protobuf.standard flagFormat Key.zero).ReachableBy
      (ordinary flagFormat) openedOn := by
  have plain : (cleared flagFormat (flagOnly true)).encrypted = false := rfl
  have waits : initWritten.readResult 8 = .waits := by decide +kernel
  have arrives : (initWritten.read 8).readResult 4 =
      .packet (initPacket flagFormat (flagOnly true)) := by decide +kernel
  have sized := passedOn_reachableBy.next (ordinary_handler nofun)
    (.handler (@HandlerStep.readsInit _ _ _ _ 8 rfl (by decide) (by decide) (by decide)))
  have awaits : afterInit flagFormat (passedOn.toHandler.readResult 8) = .awaitingInit := by
    rw [show passedOn.toHandler.readResult 8 = .waits from waits]
    rfl
  rw [awaits] at sized
  have whole := sized.next (ordinary_handler nofun)
    (.handler (@HandlerStep.readsInit _ _ _ _ 4 rfl (by decide) (by decide +kernel)
      (by decide +kernel)))
  dsimp only at whole
  rw [show passedOn.toHandler.read 8 = initWritten.read 8 from rfl, arrives] at whole
  have connected := whole.next (ordinary_handler nofun)
    (.handler (@HandlerStep.connects _ _ _ _ (flagOnly true) rfl))
  refine connected.next (ordinary_handler ?_)
    (.handler (.sendsPayload rfl (firstWritten_step plain) rfl))
  intro packet isPayload
  cases isPayload
  exact ⟨by decide, by decide⟩

end JumpSession

end EternalTerminal
