/-
What the two threads of a jumphost do.

Each passes on what it takes, in order: the lists of an end stand in the relation that the phase
of its thread says.
-/

import Mathlib.Data.List.Infix
import EternalTerminal.Terminal.JumpRelay

namespace EternalTerminal

open Library

/-! ### What an end has accepted and returned -/

namespace Session.Step

variable {box : SecretBox} {proto : Protobuf} {before after : Session} {side : Side}
  {event : SessionEvent}

theorem elsewhere (step : Session.Step box proto before side event after)
    (elsewhere : event.Elsewhere) :
    (after.endpoint side).accepted = (before.endpoint side).accepted ∧
      (after.endpoint side).returned = (before.endpoint side).returned := by
  cases step with
  | write _ _ => exact elsewhere.elim
  | read _ _ => exact elsewhere.elim
  | lose => exact ⟨rfl, rfl⟩
  | closeSocket | recover | send | receive | fail | close | finish =>
      simp only [setEndpoint, Function.update_self, and_self]

end Session.Step

/-! ### One loop -/

/-- What a loop has taken from its connection and given to it, and what it has received from one
direction of the pipe and sent to the other. -/
structure RelayLists where
  taken : List Packet
  given : List Packet
  received : List Packet
  sent : List Packet

/-- The lists at an end of a session, between two directions of the pipe. -/
def Endpoint.lists (endpoint : Endpoint) (incoming outgoing : PacketPipe) : RelayLists :=
  { taken := endpoint.returned
    given := endpoint.accepted
    received := incoming.received
    sent := outgoing.sent }

def Relay.lists (relay : Relay) (side : Side) : RelayLists :=
  (relay.session.endpoint side).lists relay.incoming relay.outgoing

namespace Session.Step

variable {box : SecretBox} {proto : Protobuf} {before after : Session} {side : Side}
  {event : SessionEvent} {packet : Packet} {incoming outgoing : PacketPipe}

theorem elsewhere_lists (step : Session.Step box proto before side event after)
    (elsewhere : event.Elsewhere) :
    (after.endpoint side).lists incoming outgoing =
      (before.endpoint side).lists incoming outgoing := by
  obtain ⟨accepted, returned⟩ := step.elsewhere elsewhere
  unfold Endpoint.lists
  rw [accepted, returned]

theorem skipped_lists (step : Session.Step box proto before side (.write packet) after)
    (accepted : (after.endpoint side).accepted = (before.endpoint side).accepted) :
    (after.endpoint side).lists incoming outgoing =
      (before.endpoint side).lists incoming outgoing := by
  unfold Endpoint.lists
  rw [accepted, step.write_returned]

theorem written_lists (step : Session.Step box proto before side (.write packet) after)
    (accepted : (after.endpoint side).accepted = (before.endpoint side).accepted ++ [packet]) :
    (after.endpoint side).lists incoming outgoing =
      { (before.endpoint side).lists incoming outgoing with
        given := (before.endpoint side).accepted ++ [packet] } := by
  unfold Endpoint.lists
  rw [accepted, step.write_returned]

theorem silent_lists (step : Session.Step box proto before side .read after)
    (returned : (after.endpoint side).returned = (before.endpoint side).returned) :
    (after.endpoint side).lists incoming outgoing =
      (before.endpoint side).lists incoming outgoing := by
  unfold Endpoint.lists
  rw [returned, step.read_accepted]

theorem read_lists (step : Session.Step box proto before side .read after)
    (returned : (after.endpoint side).returned = (before.endpoint side).returned ++ [packet]) :
    (after.endpoint side).lists incoming outgoing =
      { (before.endpoint side).lists incoming outgoing with
        taken := (before.endpoint side).returned ++ [packet] } := by
  unfold Endpoint.lists
  rw [returned, step.read_accepted]

end Session.Step

inductive RelayMoves (lists : RelayLists) : RelayPhase → RelayPhase → RelayLists → Prop
  | stays {phase next : RelayPhase} :
      next.held = phase.held → RelayMoves lists phase next lists
  | ends {phase : RelayPhase} :
      RelayMoves lists phase .ended lists
  | receives {phase : RelayPhase} (packet : Packet) :
      phase.held = [] →
      RelayMoves lists phase (.writing packet)
        { lists with received := lists.received ++ [packet] }
  | gives {next : RelayPhase} (packet : Packet) :
      next.held = [] →
      RelayMoves lists (.writing packet) next
        { lists with given := lists.given ++ [packet] }
  | sends {phase next : RelayPhase} (packet : Packet) :
      phase.held = [] → next.held = [] →
      RelayMoves lists phase next
        { lists with
          taken := lists.taken ++ [packet]
          sent := lists.sent ++ [packet] }
  | loses {phase : RelayPhase} (packet : Packet) :
      phase.held = [] →
      RelayMoves lists phase .ended { lists with taken := lists.taken ++ [packet] }

namespace Relay.Step

variable {box : SecretBox} {proto : Protobuf} {side : Side} {before after : Relay}

theorem runs (step : Relay.Step box proto side before after) : before.phase ≠ .ended := by
  intro ended
  cases step with
  | stop phase | selectsPipe phase | skipsPipe phase | readsPipe phase | readFails phase
  | writes phase | writeSkipped phase | writeDropped phase | skipsConnection phase
  | readsNothing phase | readsConnection phase | readsTooLong phase | forwards phase
  | forwarded phase | forwardFails phase => cases phase.symm.trans ended

theorem moves (step : Relay.Step box proto side before after)
    (intact : before.incoming.Intact) :
    RelayMoves (before.lists side) before.phase after.phase (after.lists side) := by
  cases step with
  | stop _ | readFails _ | writeDropped _ | forwardFails _ => exact .ends
  | selectsPipe phase | skipsPipe phase | skipsConnection phase | forwarded phase =>
      rw [phase]
      exact .stays rfl
  | forwards phase => exact .stays rfl
  | readsPipe phase positive asked arrived =>
      rw [phase]
      unfold Relay.lists Endpoint.lists
      cases (intact.read positive asked arrived).1 with
      | waits result received =>
          dsimp only
          rw [result, received]
          exact .stays rfl
      | packet packet result received isFrame =>
          dsimp only
          rw [result, received]
          exact .receives packet rfl
  | writes phase step accepted =>
      rw [phase]
      unfold Relay.lists
      rw [step.written_lists accepted]
      exact .gives _ rfl
  | writeSkipped phase step accepted =>
      unfold Relay.lists
      rw [step.skipped_lists accepted]
      exact .stays rfl
  | readsNothing phase step returned =>
      rw [phase]
      unfold Relay.lists
      rw [step.silent_lists returned]
      exact .stays rfl
  | readsConnection phase step returned fits =>
      rw [phase]
      unfold Relay.lists
      rw [step.read_lists returned]
      exact .sends _ rfl rfl
  | readsTooLong phase step returned long =>
      rw [phase]
      unfold Relay.lists
      rw [step.read_lists returned]
      exact .loses _ rfl

/-- The session's other end and the far ends of the pipe are as they were. -/
theorem far (step : Relay.Step box proto side before after) :
    after.session.endpoint side.other = before.session.endpoint side.other ∧
      after.incoming.sent = before.incoming.sent ∧
      after.outgoing.received = before.outgoing.received := by
  cases step with
  | writes _ step _ | writeSkipped _ step _ | readsNothing _ step _
  | readsConnection _ step _ _ | readsTooLong _ step _ _ => exact ⟨step.peer, rfl, rfl⟩
  | readsPipe _ _ _ _ => exact ⟨rfl, PacketPipe.read_sent _ _, rfl⟩
  | stop _ | selectsPipe _ | skipsPipe _ | readFails _ | writeDropped _ | skipsConnection _
  | forwards _ | forwarded _ _ | forwardFails _ => exact ⟨rfl, rfl, rfl⟩

theorem intact (step : Relay.Step box proto side before after)
    (incoming : before.incoming.Intact) (outgoing : before.outgoing.Intact) :
    after.incoming.Intact ∧ after.outgoing.Intact := by
  cases step with
  | readsPipe _ positive asked arrived =>
      exact ⟨(incoming.read positive asked arrived).2, outgoing⟩
  | readsConnection _ _ _ fits => exact ⟨incoming, outgoing.writePacket fits⟩
  | forwards _ => exact ⟨incoming, outgoing.write _⟩
  | writes _ _ _ | writeSkipped _ _ _ | readsNothing _ _ _ | readsTooLong _ _ _ _ | stop _
  | selectsPipe _ | skipsPipe _ | readFails _ | writeDropped _ | skipsConnection _
  | forwarded _ _ | forwardFails _ => exact ⟨incoming, outgoing⟩

end Relay.Step

/-- A loop that started at `start` has passed on what it took, but for the packet in hand; one
that has ended may have left packets behind. -/
structure Relayed (start : RelayLists) (phase : RelayPhase) (lists : RelayLists) : Prop where
  outward : ∃ relayed left, lists.taken = start.taken ++ relayed ++ left ∧
    lists.sent = start.sent ++ relayed ∧ (phase ≠ .ended → left = [])
  inward : ∃ relayed left, lists.received = start.received ++ relayed ++ left ∧
    lists.given = start.given ++ relayed ∧ (phase ≠ .ended → left = phase.held)

theorem Relayed.refl (start : RelayLists) (phase : RelayPhase) (nothing : phase.held = []) :
    Relayed start phase start where
  outward := ⟨[], [], by simp⟩
  inward := ⟨[], [], by simp [nothing]⟩

theorem Relayed.moves {start lists later : RelayLists} {phase next : RelayPhase}
    (relayed : Relayed start phase lists) (runs : phase ≠ .ended)
    (moves : RelayMoves lists phase next later) : Relayed start next later := by
  obtain ⟨out, outLeft, taken, sent, noneLeft⟩ := relayed.outward
  obtain ⟨inn, inLeft, received, given, heldLeft⟩ := relayed.inward
  have nothing := noneLeft runs
  have holding := heldLeft runs
  cases moves with
  | stays held =>
      exact ⟨⟨out, outLeft, taken, sent, fun _ => nothing⟩,
        ⟨inn, inLeft, received, given, fun _ => holding.trans held.symm⟩⟩
  | ends =>
      exact ⟨⟨out, outLeft, taken, sent, fun going => absurd rfl going⟩,
        ⟨inn, inLeft, received, given, fun going => absurd rfl going⟩⟩
  | receives packet held =>
      refine ⟨⟨out, outLeft, taken, sent, fun _ => nothing⟩,
        ⟨inn, [packet], ?_, given, fun _ => rfl⟩⟩
      rw [received, holding, held, List.append_nil]
  | gives packet held =>
      refine ⟨⟨out, outLeft, taken, sent, fun _ => nothing⟩,
        ⟨inn ++ [packet], [], ?_, ?_, fun _ => held.symm⟩⟩
      · rw [received, holding, List.append_nil, ← List.append_assoc]
        rfl
      · rw [given, List.append_assoc]
  | sends packet held stillNone =>
      refine ⟨⟨out ++ [packet], [], ?_, ?_, fun _ => rfl⟩,
        ⟨inn, inLeft, received, given, fun _ => ?_⟩⟩
      · rw [taken, nothing, List.append_nil, List.append_nil, List.append_assoc]
      · rw [sent, List.append_assoc]
      · rw [holding, held, stillNone]
  | loses packet held =>
      refine ⟨⟨out, [packet], ?_, sent, fun going => absurd rfl going⟩,
        ⟨inn, inLeft, received, given, fun going => absurd rfl going⟩⟩
      rw [taken, nothing, List.append_nil]

/-! ### The two threads -/

namespace JumpSession

variable (formats : PayloadFormat)

def Opens (first : Packet) (payload : InitialPayload) : Prop :=
  first.header = INITIAL_PAYLOAD ∧ formats.parse first.payload = some payload ∧
    payload.jumphost = true

/-- The connection has the response unless it was shut down before. -/
inductive Responded : RelayPhase → List Packet → Prop
  | written : Responded .looping [response]
  | shutDown : Responded .ended []

/-- What the server's thread has done when it stands at a phase.  `left` is a thread that has
ended before its loop. -/
inductive ServerStands : JumpHostPhase → RelayLists → Prop
  | awaitingPayload :
      ServerStands .awaitingPayload { taken := [], given := [], received := [], sent := [] }
  | responding {first : Packet} {payload : InitialPayload} :
      Opens formats first payload →
      ServerStands (.responding payload)
        { taken := [first], given := [], received := [], sent := [] }
  | binding {first : Packet} {payload : InitialPayload} {next : RelayPhase}
      {given : List Packet} :
      Opens formats first payload → Responded next given →
      ServerStands (.binding payload next)
        { taken := [first], given := given, received := [], sent := [] }
  | announcing {first : Packet} {payload : InitialPayload} {next : RelayPhase}
      {given : List Packet} :
      Opens formats first payload → Responded next given →
      ServerStands (.announcing next)
        { taken := [first], given := given, received := []
          sent := [initPacket formats payload] }
  | running {first : Packet} {payload : InitialPayload} {phase : RelayPhase}
      {lists : RelayLists} :
      Opens formats first payload →
      Relayed
        { taken := [first], given := [response], received := []
          sent := [initPacket formats payload] } phase lists →
      ServerStands (.running phase) lists
  | left {lists : RelayLists} :
      lists.received = [] → (lists.given = [] ∨ lists.given = [response]) →
      (lists.sent = [] ∨ ∃ first payload, Opens formats first payload ∧
        lists.taken = [first] ∧ lists.sent = [initPacket formats payload]) →
      ServerStands (.running .ended) lists

/-- The first packet that the handler writes, for what the router has sent it. -/
def cleared (payload : InitialPayload) : Packet :=
  payloadPacket formats { payload with jumphost := false }

inductive HandlerStands : UserJumphostPhase → Bool → RelayLists → Prop
  | awaitingInit :
      HandlerStands .awaitingInit false { taken := [], given := [], received := [], sent := [] }
  | connecting {init : Packet} {payload : InitialPayload} :
      formats.parse init.payload = some payload →
      HandlerStands (.connecting payload) false
        { taken := [], given := [], received := [init], sent := [] }
  | sendingPayload {init : Packet} {payload : InitialPayload} :
      formats.parse init.payload = some payload →
      HandlerStands (.sendingPayload { payload with jumphost := false }) false
        { taken := [], given := [], received := [init], sent := [] }
  | awaitingResponse {init : Packet} {payload : InitialPayload} {waits : Nat} :
      formats.parse init.payload = some payload →
      HandlerStands (.awaitingResponse waits) false
        { taken := [], given := [cleared formats payload], received := [init], sent := [] }
  | unconnected {init : Packet} :
      HandlerStands .unconnected false
        { taken := [], given := [], received := [init], sent := [] }
  | running {init : Packet} {payload : InitialPayload} {answered : List Packet}
      {phase : RelayPhase} {completed : Bool} {lists : RelayLists} :
      formats.parse init.payload = some payload →
      (completed = true → ∃ answer, answers answer = true ∧ answered = [answer]) →
      Relayed
        { taken := answered, given := [cleared formats payload], received := [init]
          sent := [] } phase lists →
      HandlerStands (.running phase) completed lists
  | left {lists : RelayLists} :
      lists.sent = [] →
      (lists.given = [] ∨ ∃ init payload, formats.parse init.payload = some payload ∧
        lists.received = [init] ∧ lists.given = [cleared formats payload]) →
      HandlerStands (.running .ended) false lists

def serverLists (jump : JumpSession) : RelayLists :=
  (jump.near.endpoint .server).lists jump.toServer jump.toHandler

def handlerLists (jump : JumpSession) : RelayLists :=
  (jump.far.endpoint .client).lists jump.toHandler jump.toServer

variable {formats} {lists : RelayLists} {payload : InitialPayload} {phase next : RelayPhase}
  {completed : Bool}

theorem Responded.cases {given : List Packet} (responded : Responded next given) :
    given = [] ∨ given = [response] := by
  cases responded with
  | written => exact Or.inr rfl
  | shutDown => exact Or.inl rfl

theorem Responded.runs {first : Packet} {given : List Packet} (responded : Responded next given)
    (opens : Opens formats first payload) :
    ServerStands formats (.running next)
      { taken := [first], given := given, received := []
        sent := [initPacket formats payload] } := by
  cases responded with
  | written => exact .running opens (Relayed.refl _ _ rfl)
  | shutDown => exact .left rfl (Or.inl rfl) (Or.inr ⟨first, payload, opens, rfl, rfl⟩)

theorem stands_afterPayload (formats : PayloadFormat) (packet : Packet) :
    ServerStands formats (afterPayload formats packet)
      { taken := [packet], given := [], received := [], sent := [] } := by
  have leaves : ServerStands formats (.running .ended)
      { taken := [packet], given := [], received := [], sent := [] } :=
    .left rfl (Or.inl rfl) (Or.inl rfl)
  unfold afterPayload
  split
  case isTrue isInitial =>
    cases parsed : formats.parse packet.payload with
    | none => exact leaves
    | some payload =>
        dsimp only
        split
        case isTrue jumphost => exact .responding ⟨isInitial, parsed, jumphost⟩
        case isFalse terminal => exact leaves
  case isFalse other => exact leaves

theorem stands_afterInit (formats : PayloadFormat) (packet : Packet) :
    HandlerStands formats (afterInit formats (.packet packet)) false
      { taken := [], given := [], received := [packet], sent := [] } := by
  have leaves : HandlerStands formats (.running .ended) false
      { taken := [], given := [], received := [packet], sent := [] } := .left rfl (Or.inl rfl)
  unfold afterInit
  dsimp only
  split
  case isTrue isInit =>
    cases parsed : formats.parse packet.payload with
    | none => exact leaves
    | some payload =>
        dsimp only
        split
        case isTrue jumphost => exact .connecting parsed
        case isFalse terminal => exact leaves
  case isFalse other => exact leaves

variable {box : SecretBox} {proto : Protobuf} {before after : JumpSession}

theorem ServerStep.stands (step : ServerStep box proto formats before after)
    (incoming : before.toServer.Intact)
    (stands : ServerStands formats before.server before.serverLists) :
    ServerStands formats after.server after.serverLists := by
  cases step with
  | waits phase step returned =>
      show ServerStands formats before.server (Endpoint.lists _ _ _)
      rw [step.silent_lists returned]
      exact stands
  | @payload packet near phase step returned =>
      show ServerStands formats (afterPayload formats packet) (Endpoint.lists _ _ _)
      rw [step.read_lists returned]
      show ServerStands formats _
        { before.serverLists with taken := before.serverLists.taken ++ [packet] }
      generalize before.serverLists = lists at stands
      rw [phase] at stands
      cases stands with
      | awaitingPayload => exact stands_afterPayload formats packet
  | responds phase step accepted =>
      show ServerStands formats _ (Endpoint.lists _ _ _)
      rw [step.written_lists accepted]
      show ServerStands formats _
        { before.serverLists with given := before.serverLists.given ++ [response] }
      generalize before.serverLists = lists at stands
      rw [phase] at stands
      cases stands with
      | responding opens => exact .binding opens .written
  | respondsLater phase step accepted =>
      show ServerStands formats before.server (Endpoint.lists _ _ _)
      rw [step.skipped_lists accepted]
      exact stands
  | responseDropped phase =>
      show ServerStands formats _ before.serverLists
      generalize before.serverLists = lists at stands
      rw [phase] at stands
      cases stands with
      | responding opens => exact .binding opens .shutDown
  | @binds payload next phase fits =>
      show ServerStands formats _
        { before.serverLists with
          sent := before.serverLists.sent ++ [initPacket formats payload] }
      generalize before.serverLists = lists at stands
      rw [phase] at stands
      cases stands with
      | binding opens responded => exact .announcing opens responded
  | bindFails phase =>
      show ServerStands formats _ before.serverLists
      generalize before.serverLists = lists at stands
      rw [phase] at stands
      cases stands with
      | binding opens responded => exact .left rfl responded.cases (Or.inl rfl)
  | announces phase => exact stands
  | announced phase written =>
      show ServerStands formats _ before.serverLists
      generalize before.serverLists = lists at stands
      rw [phase] at stands
      cases stands with
      | announcing opens responded => exact responded.runs opens
  | announceFails phase =>
      show ServerStands formats _ before.serverLists
      generalize before.serverLists = lists at stands
      rw [phase] at stands
      cases stands with
      | announcing opens responded =>
          exact .left rfl responded.cases (Or.inr ⟨_, _, opens, rfl, rfl⟩)
  | @relays phase relay isRunning step =>
      have moves := step.moves incoming
      have runs := step.runs
      show ServerStands formats (.running relay.phase) (relay.lists .server)
      change RelayMoves before.serverLists phase relay.phase (relay.lists .server) at moves
      generalize before.serverLists = lists at stands moves
      rw [isRunning] at stands
      cases stands with
      | running opens relayed => exact .running opens (relayed.moves runs moves)
      | left _ _ _ => exact absurd rfl runs

theorem HandlerStep.stands (step : HandlerStep box proto formats before after)
    (incoming : before.toHandler.Intact)
    (stands : HandlerStands formats before.handler before.completed before.handlerLists) :
    HandlerStands formats after.handler after.completed after.handlerLists := by
  cases step with
  | @readsInit count phase positive asked arrived =>
      show HandlerStands formats (afterInit formats (before.toHandler.readResult count))
        before.completed
        { before.handlerLists with received := (before.toHandler.read count).received }
      have received : before.toHandler.received = before.handlerLists.received := rfl
      cases (incoming.read positive asked arrived).1 with
      | waits result same =>
          rw [result, same, received]
          rw [phase] at stands
          exact stands
      | packet packet result grows isFrame =>
          rw [result, grows, received]
          generalize before.handlerLists = lists at stands
          generalize before.completed = completed at stands
          rw [phase] at stands
          cases stands with
          | awaitingInit => exact stands_afterInit formats packet
  | readInitFails phase =>
      show HandlerStands formats _ before.completed before.handlerLists
      generalize before.handlerLists = lists at stands
      generalize before.completed = completed at stands
      rw [phase] at stands
      cases stands with
      | awaitingInit => exact .left rfl (Or.inl rfl)
  | connects phase =>
      show HandlerStands formats _ before.completed before.handlerLists
      generalize before.handlerLists = lists at stands
      generalize before.completed = completed at stands
      rw [phase] at stands
      cases stands with
      | connecting parsed => exact .sendingPayload parsed
  | connectFails phase =>
      show HandlerStands formats _ before.completed before.handlerLists
      generalize before.handlerLists = lists at stands
      generalize before.completed = completed at stands
      rw [phase] at stands
      cases stands with
      | connecting parsed => exact .unconnected
  | @sendsPayload payload far phase step accepted =>
      show HandlerStands formats _ before.completed (Endpoint.lists _ _ _)
      rw [step.written_lists accepted]
      show HandlerStands formats _ _
        { before.handlerLists with
          given := before.handlerLists.given ++ [payloadPacket formats payload] }
      generalize before.handlerLists = lists at stands
      generalize before.completed = completed at stands
      rw [phase] at stands
      cases stands with
      | sendingPayload parsed => exact .awaitingResponse parsed
  | sendsLater phase step accepted =>
      show HandlerStands formats before.handler before.completed (Endpoint.lists _ _ _)
      rw [step.skipped_lists accepted]
      exact stands
  | payloadDropped phase =>
      show HandlerStands formats _ before.completed before.handlerLists
      generalize before.handlerLists = lists at stands
      generalize before.completed = completed at stands
      rw [phase] at stands
      cases stands with
      | sendingPayload parsed => exact .left rfl (Or.inl rfl)
  | waits phase =>
      show HandlerStands formats _ before.completed before.handlerLists
      generalize before.handlerLists = lists at stands
      generalize before.completed = completed at stands
      rw [phase] at stands
      cases stands with
      | awaitingResponse parsed => exact .awaitingResponse parsed
  | readsNothing phase step returned =>
      show HandlerStands formats _ before.completed (Endpoint.lists _ _ _)
      rw [step.silent_lists returned]
      show HandlerStands formats _ before.completed before.handlerLists
      generalize before.handlerLists = lists at stands
      generalize before.completed = completed at stands
      rw [phase] at stands
      cases stands with
      | awaitingResponse parsed => exact .awaitingResponse parsed
  | @readsResponse left packet far phase step returned =>
      show HandlerStands formats (afterResponse packet) (answers packet) (Endpoint.lists _ _ _)
      rw [step.read_lists returned]
      show HandlerStands formats _ _
        { before.handlerLists with taken := before.handlerLists.taken ++ [packet] }
      generalize before.handlerLists = lists at stands
      generalize before.completed = completed at stands
      rw [phase] at stands
      cases stands with
      | @awaitingResponse init payload _ parsed =>
          unfold afterResponse
          cases answered : answers packet with
          | true =>
              exact .running parsed (fun _ => ⟨packet, answered, rfl⟩) (Relayed.refl _ _ rfl)
          | false => exact .left rfl (Or.inr ⟨init, payload, parsed, rfl, rfl⟩)
  | unanswered phase =>
      show HandlerStands formats _ before.completed before.handlerLists
      generalize before.handlerLists = lists at stands
      generalize before.completed = completed at stands
      rw [phase] at stands
      cases stands with
      | awaitingResponse parsed => exact .running parsed nofun (Relayed.refl _ _ rfl)
  | @relays phase relay isRunning step =>
      have moves := step.moves incoming
      have runs := step.runs
      show HandlerStands formats (.running relay.phase) before.completed (relay.lists .client)
      change RelayMoves before.handlerLists phase relay.phase (relay.lists .client) at moves
      generalize before.handlerLists = lists at stands moves
      generalize before.completed = completed at stands ⊢
      rw [isRunning] at stands
      cases stands with
      | running parsed answer relayed =>
          exact .running parsed answer (relayed.moves runs moves)
      | left _ _ => exact absurd rfl runs

end JumpSession

end EternalTerminal
