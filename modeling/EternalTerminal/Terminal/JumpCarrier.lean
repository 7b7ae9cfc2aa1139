/-
A session through a jumphost carries packets as a direct one does.

Until the destination has answered, the handler may already relay what it reads; then the
`INITIAL_RESPONSE` is relayed as well.
-/

import EternalTerminal.Terminal.JumpNonces
import EternalTerminal.Terminal.JumpStalls

namespace EternalTerminal

open Library

namespace JumpSession

variable {box : SecretBox} {proto : Protobuf} {formats : PayloadFormat} {key : Key}
  {before after jump : JumpSession}

/-! ### A handler without an answer -/

/-- What the handler has sent is what it has read, up to what it read when it ended. -/
def RelaysAll : UserJumphostPhase → RelayLists → Prop
  | .running phase, lists =>
      lists.sent <+: lists.taken ∧ (phase ≠ .ended → lists.sent = lists.taken)
  | _, lists => lists.sent = [] ∧ lists.taken = []

theorem RelaysAll.ended {phase : UserJumphostPhase} {lists : RelayLists}
    (relays : RelaysAll phase lists) : RelaysAll (.running .ended) lists := by
  refine ⟨?_, fun going => absurd rfl going⟩
  cases phase with
  | running _ => exact relays.1
  | awaitingInit | connecting _ | sendingPayload _ | awaitingResponse _ | unconnected =>
      rw [relays.1]
      exact List.nil_prefix

theorem RelaysAll.moves {phase next : RelayPhase} {lists later : RelayLists}
    (relays : RelaysAll (.running phase) lists) (runs : phase ≠ .ended)
    (moves : RelayMoves lists phase next later) : RelaysAll (.running next) later := by
  obtain ⟨isPrefix, all⟩ := relays
  have same := all runs
  cases moves with
  | stays _ | receives _ _ | gives _ _ => exact ⟨isPrefix, fun _ => same⟩
  | ends => exact ⟨isPrefix, fun going => absurd rfl going⟩
  | sends packet _ _ =>
      have grown : lists.sent ++ [packet] = lists.taken ++ [packet] := by rw [same]
      exact ⟨grown ▸ List.prefix_rfl, fun _ => grown⟩
  | loses packet _ =>
      exact ⟨isPrefix.trans (List.prefix_append _ _), fun going => absurd rfl going⟩

theorem relaysAll_afterInit (formats : PayloadFormat) (read : PipeRead) {lists : RelayLists}
    (nothing : lists.sent = [] ∧ lists.taken = []) :
    RelaysAll (afterInit formats read) lists := by
  have leaves : RelaysAll (.running .ended) lists := by
    refine ⟨?_, fun going => absurd rfl going⟩
    rw [nothing.1]
    exact List.nil_prefix
  cases read with
  | waits | empty => exact nothing
  | throws => exact leaves
  | packet packet =>
      unfold afterInit
      dsimp only
      split
      · split
        · exact leaves
        · split
          · exact nothing
          · exact leaves
      · exact leaves

theorem HandlerStep.relaysAll (step : HandlerStep box proto formats before after)
    (incoming : before.toHandler.Intact)
    (stands : HandlerStands formats before.handler before.completed before.handlerLists)
    (relays : before.completed = false → RelaysAll before.handler before.handlerLists)
    (unanswered : after.completed = false) : RelaysAll after.handler after.handlerLists := by
  cases step with
  | readsInit phase _ _ _ =>
      have nothing := relays unanswered
      rw [phase] at nothing
      apply relaysAll_afterInit
      show (before.toServer.sent = [] ∧ (before.far.endpoint .client).returned = [])
      exact nothing
  | readInitFails _ | payloadDropped _ => exact (relays unanswered).ended
  | connects phase | connectFails phase | waits phase =>
      have nothing := relays unanswered
      rw [phase] at nothing
      exact nothing
  | sendsPayload phase step _ =>
      have nothing := relays unanswered
      rw [phase] at nothing
      refine ⟨nothing.1, ?_⟩
      show (Endpoint.lists _ _ _).taken = []
      rw [Endpoint.lists, step.write_returned]
      exact nothing.2
  | sendsLater phase step accepted =>
      have same := relays unanswered
      unfold handlerLists at same ⊢
      rw [step.skipped_lists accepted]
      exact same
  | readsNothing phase step returned =>
      have nothing := relays unanswered
      rw [phase] at nothing
      unfold handlerLists at nothing ⊢
      rw [step.silent_lists returned]
      exact nothing
  | @readsResponse _ packet _ phase step returned =>
      have refused : answers packet = false := unanswered
      have leaves : afterResponse packet = .running .ended := if_neg (by simp [refused])
      refine cast (congrArg (fun phase => RelaysAll phase _) leaves.symm) ?_
      refine ⟨?_, fun going => absurd rfl going⟩
      show before.toServer.sent <+: _
      have noAnswer : before.completed = false := by
        generalize before.handlerLists = lists at stands
        generalize before.completed = completed at stands ⊢
        rw [phase] at stands
        cases stands with
        | awaitingResponse _ => rfl
      have nothing := relays noAnswer
      rw [phase] at nothing
      rw [show before.toServer.sent = [] from nothing.1]
      exact List.nil_prefix
  | unanswered phase =>
      have nothing := relays unanswered
      rw [phase] at nothing
      have same : (before.handlerLists).sent = (before.handlerLists).taken :=
        nothing.1.trans nothing.2.symm
      exact ⟨same ▸ List.prefix_rfl, fun _ => same⟩
  | relays phase step =>
      have sofar := relays unanswered
      rw [phase] at sofar
      exact sofar.moves step.runs (step.moves incoming)

theorem Step.relaysAll {event : Event} (step : Step box proto formats before event after)
    (sound : before.Sound formats)
    (relays : before.completed = false → RelaysAll before.handler before.handlerLists)
    (unanswered : after.completed = false) : RelaysAll after.handler after.handlerLists := by
  cases step with
  | client _ | serverConnection _ _ => exact relays unanswered
  | @destination _ far step =>
      have kept : far.endpoint .client = before.far.endpoint .client := step.peer
      unfold handlerLists
      rw [kept]
      exact relays unanswered
  | handlerConnection elsewhere step =>
      unfold handlerLists
      rw [step.elsewhere_lists elsewhere]
      exact relays unanswered
  | server step =>
      obtain ⟨_, lists, phase, completed⟩ := step.apart sound.toServer sound.toHandler
      rw [lists, phase]
      exact relays (completed ▸ unanswered)
  | handler step => exact step.relaysAll sound.toHandler sound.handler relays unanswered

theorem reachable_relaysAll (reached : (jumpSystem box proto formats key).Reachable jump) :
    jump.completed = false → RelaysAll jump.handler jump.handlerLists := by
  induction reached with
  | start initial =>
      rw [show _ = JumpSession.initial key from initial]
      exact fun _ => ⟨rfl, rfl⟩
  | next reached _ step ih => exact Step.relaysAll step (reachable_sound reached) ih

theorem RelaysAll.sentInOrder {handler : UserJumphostPhase} {lists : RelayLists}
    (relays : RelaysAll handler lists) : lists.sent <+: lists.taken := by
  cases handler with
  | running _ => exact relays.1
  | awaitingInit | connecting _ | sendingPayload _ | awaitingResponse _ | unconnected =>
      rw [relays.1]
      exact List.nil_prefix

/-! ### What goes through -/

theorem not_isOrdinary {packet : Packet}
    (handshake : packet.header = INITIAL_PAYLOAD ∨ packet.header = INITIAL_RESPONSE) :
    ¬ packet.isOrdinary = true := by
  rcases handshake with header | header
  · simp [Packet.isOrdinary, header]
  · simp [Packet.isOrdinary, header]

theorem LikeDirect.outward (direct : jump.LikeDirect formats) :
    (jump.far.endpoint .server).returned.filter Packet.isOrdinary <+:
      (jump.near.endpoint .client).accepted.filter Packet.isOrdinary := by
  cases returned : (jump.far.endpoint .server).returned with
  | nil => exact List.nil_prefix
  | cons opening rest =>
      obtain ⟨first, written, payload, accepted, isPayload, _, isOpening⟩ :=
        direct.opening opening rest returned
      have tails := direct.forward
      have header : opening.header = INITIAL_PAYLOAD := by
        rw [isOpening]
        rfl
      rw [returned, accepted, List.tail_cons, List.tail_cons] at tails
      rw [accepted, List.filter_cons_of_neg (not_isOrdinary (Or.inl header)),
        List.filter_cons_of_neg (not_isOrdinary (Or.inl isPayload))]
      exact tails.filter _

theorem Sound.homeward (sound : jump.Sound formats) (near : jump.near.Delivers)
    (far : jump.far.Delivers)
    (relays : jump.completed = false → RelaysAll jump.handler jump.handlerLists) :
    (jump.near.endpoint .client).returned.filter Packet.isOrdinary <+:
      (jump.far.endpoint .server).accepted.filter Packet.isOrdinary := by
  have direct := sound.likeDirect near far
  cases returned : (jump.near.endpoint .client).returned with
  | nil => exact List.nil_prefix
  | cons answer rest =>
      have header : answer.header = INITIAL_RESPONSE := by
        rw [direct.response answer rest returned]
        rfl
      rw [List.filter_cons_of_neg (not_isOrdinary (Or.inr header))]
      cases completed : jump.completed with
      | true =>
          obtain ⟨first, written, accepted, isAnswer, tails⟩ := direct.backward completed
          have firstHeader : first.header = INITIAL_RESPONSE := by
            simp only [answers, Bool.and_eq_true, decide_eq_true_eq] at isAnswer
            exact isAnswer.1
          rw [accepted, List.filter_cons_of_neg (not_isOrdinary (Or.inr firstHeader))]
          rw [returned, List.tail_cons] at tails
          exact tails.filter _
      | false =>
          -- the response of the destination may be among what is relayed
          have sent : jump.toServer.sent <+: (jump.far.endpoint .server).accepted :=
            (relays completed).sentInOrder.trans (far .client)
          obtain ⟨unread, given⟩ := near .client
          rw [returned] at given
          rcases sound.server.inward with nothing | ⟨relayed, written, received⟩
          · cases given.trans nothing
          · have whole : rest ++ unread = relayed :=
              (List.cons.inj (given.trans written)).2
            have read : rest <+: relayed := ⟨unread, whole⟩
            exact (read.trans (received.trans (sound.toServer.received_prefix.trans sent))).filter _

/-! ### As a carrier -/

def eventOf : Side → SessionEvent → Event
  | .client, event => .client event
  | .server, event => .destination event

def endOf (jump : JumpSession) : Side → Endpoint
  | .client => jump.near.endpoint .client
  | .server => jump.far.endpoint .server

def Event.Elsewhere : Event → Prop
  | .client event | .destination event => SessionEvent.Elsewhere event
  | .serverConnection _ | .handlerConnection _ | .server | .handler => True

section

variable (box proto formats)

def CarrierStep (before : JumpSession) : CarrierEvent → JumpSession → Prop
  | .writes side packet, after =>
      withinLimits formats before (eventOf side (.write packet)) ∧
        Step box proto formats before (eventOf side (.write packet)) after ∧
        (after.endOf side).accepted = (before.endOf side).accepted ++ [packet]
  | .skips side packet, after =>
      withinLimits formats before (eventOf side (.write packet)) ∧
        Step box proto formats before (eventOf side (.write packet)) after ∧
        (after.endOf side).accepted = (before.endOf side).accepted
  | .reads side packet, after =>
      Step box proto formats before (eventOf side .read) after ∧
        (after.endOf side).returned = (before.endOf side).returned ++ [packet]
  | .readsNothing side, after =>
      Step box proto formats before (eventOf side .read) after ∧
        (after.endOf side).returned = (before.endOf side).returned
  | .severs side, after => Step box proto formats before (eventOf side .closeSocket) after
  | .elsewhere, after =>
      ∃ event, Event.Elsewhere event ∧ withinLimits formats before event ∧
        Step box proto formats before event after

end

/-- A step of one end, as a step of its session, and the other end stays. -/
theorem Step.atEnd {side : Side} {event : SessionEvent}
    (step : Step box proto formats before (eventOf side event) after) :
    (∃ session sessionAfter, Session.Step box proto session side event sessionAfter ∧
        session.endpoint side = before.endOf side ∧
        sessionAfter.endpoint side = after.endOf side) ∧
      after.endOf side.other = before.endOf side.other := by
  cases side with
  | client =>
      cases step with
      | client step => exact ⟨⟨_, _, step, rfl, rfl⟩, rfl⟩
  | server =>
      cases step with
      | destination step => exact ⟨⟨_, _, step, rfl, rfl⟩, rfl⟩

theorem Step.elsewhere_ends {event : Event} (step : Step box proto formats before event after)
    (elsewhere : event.Elsewhere) (side : Side) :
    (after.endOf side).accepted = (before.endOf side).accepted ∧
      (after.endOf side).returned = (before.endOf side).returned := by
  cases step with
  | client step => cases side with
    | client => exact step.elsewhere elsewhere
    | server => exact ⟨rfl, rfl⟩
  | destination step => cases side with
    | client => exact ⟨rfl, rfl⟩
    | server => exact step.elsewhere elsewhere
  | @serverConnection _ near _ step => cases side with
    | client =>
        have kept : near.endpoint .client = before.near.endpoint .client := step.peer
        exact ⟨congrArg Endpoint.accepted kept, congrArg Endpoint.returned kept⟩
    | server => exact ⟨rfl, rfl⟩
  | @handlerConnection _ far _ step => cases side with
    | client => exact ⟨rfl, rfl⟩
    | server =>
        have kept : far.endpoint .server = before.far.endpoint .server := step.peer
        exact ⟨congrArg Endpoint.accepted kept, congrArg Endpoint.returned kept⟩
  | server step =>
      obtain ⟨moves, far⟩ := step.sessions
      cases side with
      | client =>
          have kept : after.near.endpoint .client = before.near.endpoint .client := moves.peer
          exact ⟨congrArg Endpoint.accepted kept, congrArg Endpoint.returned kept⟩
      | server =>
          have kept : after.endOf .server = before.endOf .server :=
            congrArg (fun session => Session.endpoint session .server) far
          rw [kept]
          exact ⟨rfl, rfl⟩
  | handler step =>
      obtain ⟨moves, near⟩ := step.sessions
      cases side with
      | client =>
          have kept : after.endOf .client = before.endOf .client :=
            congrArg (fun session => Session.endpoint session .client) near
          rw [kept]
          exact ⟨rfl, rfl⟩
      | server =>
          have kept : after.far.endpoint .server = before.far.endpoint .server := moves.peer
          exact ⟨congrArg Endpoint.accepted kept, congrArg Endpoint.returned kept⟩

theorem CarrierStep.leaves {event : CarrierEvent}
    (step : CarrierStep box proto formats before event after) :
    event.Leaves before.endOf after.endOf := by
  cases event with
  | writes side packet =>
      obtain ⟨_, step, accepted⟩ := step
      obtain ⟨⟨_, _, own, first, last⟩, peer⟩ := step.atEnd
      refine CarrierEvent.leaves_writes peer accepted ?_
      rw [← first, ← last]
      exact own.write_returned
  | skips side packet =>
      obtain ⟨_, step, accepted⟩ := step
      obtain ⟨⟨_, _, own, first, last⟩, peer⟩ := step.atEnd
      refine CarrierEvent.leaves_own_nothing peer (fun _ => ⟨rfl, rfl⟩) accepted ?_
      rw [← first, ← last]
      exact own.write_returned
  | reads side packet =>
      obtain ⟨step, returned⟩ := step
      obtain ⟨⟨_, _, own, first, last⟩, peer⟩ := step.atEnd
      refine CarrierEvent.leaves_reads peer ?_ returned
      rw [← first, ← last]
      exact own.read_accepted
  | readsNothing side =>
      obtain ⟨step, returned⟩ := step
      obtain ⟨⟨_, _, own, first, last⟩, peer⟩ := step.atEnd
      refine CarrierEvent.leaves_own_nothing peer (fun _ => ⟨rfl, rfl⟩) ?_ returned
      rw [← first, ← last]
      exact own.read_accepted
  | severs side =>
      obtain ⟨⟨_, _, own, first, last⟩, peer⟩ := Step.atEnd step
      have same := own.elsewhere trivial
      rw [first, last] at same
      exact CarrierEvent.leaves_own_nothing peer (fun _ => ⟨rfl, rfl⟩) same.1 same.2
  | elsewhere =>
      obtain ⟨event, elsewhere, _, step⟩ := step
      exact CarrierEvent.leaves_nothing (fun _ => ⟨rfl, rfl⟩) (step.elsewhere_ends elsewhere)

theorem CarrierStep.reachable {event : CarrierEvent}
    (step : CarrierStep box proto formats before event after)
    (reached : (jumpSystem box proto formats key).ReachableBy (withinLimits formats) before) :
    (jumpSystem box proto formats key).ReachableBy (withinLimits formats) after := by
  have unlimited : ∀ side, withinLimits formats before (eventOf side .read) ∧
      withinLimits formats before (eventOf side .closeSocket) := by
    intro side
    cases side with
    | client | server => exact ⟨trivial, trivial⟩
  cases event with
  | writes side packet | skips side packet => exact reached.next step.1 step.2.1
  | reads side packet | readsNothing side => exact reached.next (unlimited side).1 step.1
  | severs side => exact reached.next (unlimited side).2 step
  | elsewhere =>
      obtain ⟨event, _, allowed, step⟩ := step
      exact reached.next allowed step

end JumpSession

namespace Carrier

variable (box : SecretBox) (proto : Protobuf) (formats : PayloadFormat) (key : Key)

def jumpingSystem : TransitionSystem JumpSession CarrierEvent where
  initial jump := jump = JumpSession.initial key
  step := JumpSession.CarrierStep box proto formats

variable {box proto formats key}

theorem jump_reachable {jump : JumpSession}
    (reached : (jumpingSystem box proto formats key).Reachable jump) :
    (jumpSystem box proto formats key).ReachableBy (JumpSession.withinLimits formats) jump := by
  refine reached.invariant ?_ ?_
  · intro jump initial
    exact .start initial
  · intro before event after reachable step
    exact JumpSession.CarrierStep.reachable step reachable

variable (box proto formats key)

/-- The client's connection to the jumphost, the jumphost's two threads, and the connection to the
destination. -/
def jumping : Carrier where
  State := JumpSession
  Stall := JumpSession.Stall
  system := jumpingSystem box proto formats key
  accepted jump side := (jump.endOf side).accepted
  returned jump side := (jump.endOf side).returned
  canBufferWrite jump side := (jump.endOf side).connection.canBufferWrite
  starts := by
    intro jump initial side
    rw [show jump = JumpSession.initial key from initial]
    cases side with
    | client | server => exact ⟨rfl, rfl⟩
  lists := by
    intro before event after step
    exact JumpSession.CarrierStep.leaves step
  carries := by
    intro jump reached side
    have allowed := jump_reachable reached
    obtain ⟨near, far⟩ := JumpSession.sessions_reachable allowed
    have nearDelivers := Session.delivers_of_reachable near
    have farDelivers := Session.delivers_of_reachable far
    have sound := JumpSession.reachable_sound allowed.reachable
    cases side with
    | client => exact (sound.likeDirect nearDelivers farDelivers).outward
    | server =>
        exact sound.homeward nearDelivers farDelivers
          (JumpSession.reachable_relaysAll allowed.reachable)
  givesUp before stall after := before.GivesUp stall after
  unsent jump stall := jump.unsent stall
  idle := by
    intro before stall after unsent givesUp
    exact givesUp.idle unsent

end Carrier

end EternalTerminal
