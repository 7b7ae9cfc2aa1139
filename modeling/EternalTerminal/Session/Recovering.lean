/-
The recovery exchange is matched by announcing, taking the peer's header and
taking its catch-up, or by giving up.

The bytes that arrive are a prefix of what the peer's script posts, so a
completed header carries the number the peer announced, the writer has the
packets from that number on, and a completed catch-up holds exactly the packets
the reader lacks.
-/

import EternalTerminal.Session.Reading

namespace EternalTerminal

open Library
open SocketHandler

section Ends

variable {box : SecretBox} {proto : Protobuf} {key : Key} {side : Side}
  {endpoint : Endpoint} {peerAccepted : List Packet} {own peer : Party}
  {outgoing incoming : Fd → Stream} {used : Fd → Bool} {socket : Fd}
  {activity : Activity (Bool × Connection)} {count : Nat}

@[simp] theorem announcement_length_pos (counted : Nat) :
    0 < (announcement proto counted).length := by
  rw [announcement, protoFrame_length]
  omega

theorem Facing.headerFrame_eq
    (facing : Facing box proto key side endpoint peerAccepted own peer outgoing incoming
      used) :
    endpoint.connection.headerFrame proto = announcement proto own.counted := by
  rw [Connection.headerFrame, Connection.sequenceHeader, facing.counted, announcement]

theorem Facing.recovers {recovering : Option (Fd × Activity (Bool × Connection))}
    {ownAfter : Party} {outgoingAfter incomingAfter : Fd → Stream} {usedAfter : Fd → Bool}
    (facing : Facing box proto key side endpoint peerAccepted own peer outgoing incoming
      used)
    (accepted : ownAfter.accepted = own.accepted)
    (counted : ownAfter.counted = own.counted)
    (returned : ownAfter.returned = own.returned)
    (sent : ∀ socket, (outgoingAfter socket).sent <+:
      (ownAfter.script socket).bytes proto
        (sealedLog box key side.nonceMSB endpoint.accepted))
    (taken : ∀ socket, (incomingAfter socket).taken ≤ (incomingAfter socket).sent.length)
    (fresh : ∀ socket, usedAfter socket = false →
      ownAfter.script socket = .silent ∧ (incomingAfter socket).taken = 0)
    (fits : ∀ socket counted base upto packets,
      ownAfter.script socket = .exchange counted base upto packets →
        (proto.catchupBuffer.serialize
          { buffer := BackedWriter.missing
              ((sealedLog box key side.nonceMSB endpoint.accepted).take upto)
              base }).length ≤ MAX_PROTO_BYTES)
    (doing : Stands proto { endpoint with recovering := recovering } ownAfter peer
      (sealedLog box key side.nonceMSB endpoint.accepted)
      (sealedLog box key side.other.nonceMSB peerAccepted) outgoingAfter incomingAfter
      ownAfter.doing) :
    EndRefines box proto key side { endpoint with recovering := recovering } peerAccepted
      ownAfter peer outgoingAfter incomingAfter usedAfter :=
  { facing.toEndRefines with
    accepted := accepted.trans facing.accepted
    counted := facing.counted.trans counted.symm
    readerHandler := by rw [returned]; exact facing.readerHandler
    localBuffer := by rw [counted, returned]; exact facing.localBuffer
    returned := by rw [returned]; exact facing.returned
    sent := sent
    taken := taken
    fresh := fresh
    fits := fits
    doing := doing }

theorem Facing.restaged {recovering : Option (Fd × Activity (Bool × Connection))}
    (facing : Facing box proto key side endpoint peerAccepted own peer outgoing incoming
      used)
    (doing : Stands proto { endpoint with recovering := recovering } own peer
      (sealedLog box key side.nonceMSB endpoint.accepted)
      (sealedLog box key side.other.nonceMSB peerAccepted) outgoing incoming own.doing) :
    Moved box proto key side endpoint { endpoint with recovering := recovering }
      peerAccepted own own peer outgoing incoming outgoing incoming used where
  moves := .refl
  grows := Party.grows_of_script_eq (le_refl _) rfl
  accepted := ⟨[], (List.append_nil _).symm⟩
  streams := .refl
  refines := facing.recovers rfl rfl rfl facing.sent facing.taken facing.fresh facing.fits
    doing

/-- A recovery that gives up, having taken what it took. -/
theorem Facing.gives_up {stage : Connection.RecoverStage}
    {incomingAfter : Fd → Stream}
    (facing : Facing box proto key side endpoint peerAccepted own peer outgoing incoming
      used)
    (moves : own.Moves peer .giveUp { own with doing := .detached })
    (dead : endpoint.connection.Dead) (out : stage.leads_out)
    (streams : StreamsMove incoming outgoing incomingAfter outgoing)
    (taken : ∀ socket, (incomingAfter socket).taken ≤ (incomingAfter socket).sent.length)
    (fresh : ∀ socket, used socket = false → (incomingAfter socket).taken = 0) :
    Moved box proto key side endpoint
      { endpoint with
        recovering := some (socket, endpoint.connection.recoverAt proto socket stage) }
      peerAccepted own { own with doing := .detached } peer outgoing incoming outgoing
      incomingAfter used where
  moves := PartyMoves.single moves
  grows := moves.grows facing.consistent
  accepted := ⟨[], (List.append_nil _).symm⟩
  streams := streams
  refines := facing.recovers rfl rfl rfl facing.sent taken
    (fun other unused => ⟨(facing.fresh other unused).1, fresh other unused⟩) facing.fits
    (.leaving rfl out dead)

theorem Facing.stage
    (facing : Facing box proto key side endpoint peerAccepted own peer outgoing incoming
      used)
    (recovering : endpoint.recovering = some (socket, activity)) :
    ∃ stage : Connection.RecoverStage,
      activity = endpoint.connection.recoverAt proto socket stage ∧
        stage ≠ .aborted "Something went really wrong, client is ahead of server" := by
  have stands := facing.doing
  generalize own.doing = doing at stands
  cases stands with
  | detached idle =>
      rw [idle] at recovering
      cases recovering
  | attached idle =>
      rw [idle] at recovering
      cases recovering
  | leaving at_ out =>
      rw [at_] at recovering
      cases recovering
      exact ⟨_, rfl, fun ahead => by rw [ahead] at out; exact out rfl⟩
  | announcing at_ | awaitingHeader at_ | catchingUp _ at_ | awaitingCatchup _ at_
  | recovered at_ =>
      rw [at_] at recovering
      cases recovering
      exact ⟨_, rfl, nofun⟩

/-! ### Starting -/

theorem Facing.recover
    (facing : Facing box proto key side endpoint peerAccepted own peer outgoing incoming
      used)
    (idle : endpoint.recovering = none)
    (noSocket : endpoint.connection.socketFd = none)
    (unused : used socket = false) :
    ∃ ownAfter, Moved box proto key side endpoint
      { endpoint with
        recovering := some (socket,
          Activity.begin (endpoint.connection.recover proto socket)) }
      peerAccepted own ownAfter peer outgoing incoming outgoing incoming
      (fun other => used other || decide (other = socket)) := by
  rcases facing.doing.idle idle with ⟨doingEq, dead⟩ | ⟨_, _, live, _⟩
  · obtain ⟨silent, untaken⟩ := facing.fresh socket unused
    have moves : own.Moves peer (.announce socket)
        { own with
          doing := .awaitingHeader socket
          script := Function.update own.script socket (.hello own.counted) } :=
      .announce doingEq silent
    have nothingSent : (outgoing socket).sent = [] := by
      have bound := facing.sent socket
      rw [silent] at bound
      exact List.prefix_nil.mp bound
    rw [Connection.recover_begin]
    refine ⟨_, PartyMoves.single moves, moves.grows facing.consistent,
      ⟨[], (List.append_nil _).symm⟩, .refl, ?_⟩
    refine facing.recovers rfl rfl rfl ?_ facing.taken ?_ ?_ ?_
    · intro other
      by_cases same : other = socket
      · subst same
        rw [nothingSent]
        exact List.nil_prefix
      · simp only [Function.update_of_ne same]
        exact facing.sent other
    · intro other notUsed
      simp only [Bool.or_eq_false_iff, decide_eq_false_iff_not] at notUsed
      simp only [Function.update_of_ne notUsed.2]
      exact facing.fresh other notUsed.1
    · intro other counted base upto packets shape
      by_cases same : other = socket
      · subst same
        simp only [Function.update_self] at shape
        cases shape
      · simp only [Function.update_of_ne same] at shape
        exact facing.fits other counted base upto packets shape
    · refine .announcing rfl dead (List.nil_append _) ?_ nothingSent ?_
      · exact List.ne_nil_of_length_pos (announcement_length_pos _)
      · rw [Stream.consumed, untaken, List.take_zero]
  · rw [live.own] at noSocket
    cases noSocket

/-! ### Sending -/

theorem Facing.send_header {sent unsent : Bytes}
    (facing : Facing box proto key side endpoint peerAccepted own peer outgoing incoming
      used)
    (doingEq : own.doing = .awaitingHeader socket)
    (dead : endpoint.connection.Dead)
    (whole : sent ++ unsent = announcement proto own.counted)
    (sentEq : (outgoing socket).sent = sent)
    (consumed : (incoming socket).consumed = [])
    (bound : count ≤ (endpoint.connection.recoverAt proto socket
      (.announcing sent)).outgoing.length) :
    ∃ ownAfter, Moved box proto key side endpoint
      { endpoint with
        recovering := some (socket, (endpoint.connection.recoverAt proto socket
          (.announcing sent)).send count) }
      peerAccepted own ownAfter peer outgoing incoming
      (Function.update outgoing socket ((outgoing socket).append
        ((endpoint.connection.recoverAt proto socket
          (.announcing sent)).outgoing.take count)))
      incoming used := by
  rw [← facing.headerFrame_eq] at whole
  have chunk : (endpoint.connection.recoverAt proto socket
      (.announcing sent)).outgoing.take count = unsent.take count := by
    obtain ⟨rest, split⟩ := Connection.announcing_outgoing socket whole
    rw [← split, List.take_append_of_le_length bound]
  have hello := facing.consistent.awaitingHeader socket doingEq
  rw [chunk, Connection.announcing_send whole bound]
  refine ⟨own, .refl, Party.grows_of_script_eq (le_refl _) rfl,
    ⟨[], (List.append_nil _).symm⟩, .append _ _, ?_⟩
  have sentAfter : ((Function.update outgoing socket
      ((outgoing socket).append (unsent.take count))) socket).sent =
        sent ++ unsent.take count := by
    rw [Function.update_self, Stream.append, sentEq]
  refine facing.recovers rfl rfl rfl ?_ facing.taken facing.fresh facing.fits ?_
  · intro other
    by_cases same : other = socket
    · subst same
      rw [sentAfter, hello, Script.bytes, Script.preamble, Script.packets, frames_nil,
        List.append_nil, ← facing.headerFrame_eq, ← whole]
      exact (List.prefix_append_right_inj _).mpr (List.take_prefix _ _)
    · rw [Function.update_of_ne same]
      exact facing.sent other
  · rw [doingEq]
    by_cases last : unsent.drop count = []
    · have all : unsent.take count = unsent := by
        rw [List.drop_eq_nil_iff] at last
        exact List.take_of_length_le last
      rw [if_pos last]
      refine .awaitingHeader rfl dead ?_ consumed (frameStatus_short (by simp))
      rw [sentAfter, all, whole, facing.headerFrame_eq]
    · rw [if_neg last]
      refine .announcing rfl dead ?_ last sentAfter consumed
      rw [List.append_assoc, List.take_append_drop, whole, facing.headerFrame_eq]

theorem exchange_bytes {log : List Packet} {counted base upto : Nat}
    (all : log.length ≤ upto) :
    (Script.exchange counted base upto 0).bytes proto log =
      announcement proto counted ++
        Connection.catchupFrame proto (BackedWriter.missing log base) := by
  have whole : log.take upto = log := List.take_of_length_le all
  have noPackets : (log.take (upto + 0)).drop upto = [] := by
    rw [Nat.add_zero, List.drop_eq_nil_iff, List.length_take]
    omega
  rw [Script.bytes, Script.preamble, Script.packets, noPackets, frames_nil,
    List.append_nil, catchupImage, whole]

theorem Facing.send_catchup {base : Nat} {sent unsent : Bytes}
    (facing : Facing box proto key side endpoint peerAccepted own peer outgoing incoming
      used)
    (doingEq : own.doing = .awaitingCatchup socket)
    (shape : own.script socket = .exchange own.counted base own.accepted 0)
    (dead : endpoint.connection.Dead)
    (whole : sent ++ unsent = Connection.catchupFrame proto
      (BackedWriter.missing (sealedLog box key side.nonceMSB endpoint.accepted) base))
    (sentEq : (outgoing socket).sent = announcement proto own.counted ++ sent)
    (consumed : (incoming socket).consumed = announcement proto base)
    (bound : count ≤ (endpoint.connection.recoverAt proto socket (.catchingUp
      (BackedWriter.missing (sealedLog box key side.nonceMSB endpoint.accepted) base)
      sent)).outgoing.length) :
    ∃ ownAfter, Moved box proto key side endpoint
      { endpoint with
        recovering := some (socket, (endpoint.connection.recoverAt proto socket
          (.catchingUp (BackedWriter.missing
            (sealedLog box key side.nonceMSB endpoint.accepted) base) sent)).send
              count) }
      peerAccepted own ownAfter peer outgoing incoming
      (Function.update outgoing socket ((outgoing socket).append
        ((endpoint.connection.recoverAt proto socket (.catchingUp
          (BackedWriter.missing (sealedLog box key side.nonceMSB endpoint.accepted)
            base) sent)).outgoing.take count)))
      incoming used := by
  have chunk : (endpoint.connection.recoverAt proto socket (.catchingUp
      (BackedWriter.missing (sealedLog box key side.nonceMSB endpoint.accepted) base)
      sent)).outgoing.take count = unsent.take count := by
    obtain ⟨rest, split⟩ :=
      Connection.catchingUp_outgoing endpoint.connection socket whole
    rw [← split, List.take_append_of_le_length bound]
  have everything : (own.script socket).bytes proto
      (sealedLog box key side.nonceMSB endpoint.accepted) =
        announcement proto own.counted ++ (sent ++ unsent) := by
    rw [shape, exchange_bytes (by rw [sealedLog_length, facing.accepted]), whole]
  rw [chunk, Connection.catchingUp_send whole bound]
  refine ⟨own, .refl, Party.grows_of_script_eq (le_refl _) rfl,
    ⟨[], (List.append_nil _).symm⟩, .append _ _, ?_⟩
  have sentAfter : ((Function.update outgoing socket
      ((outgoing socket).append (unsent.take count))) socket).sent =
        announcement proto own.counted ++ (sent ++ unsent.take count) := by
    rw [Function.update_self, Stream.append, sentEq, List.append_assoc]
  refine facing.recovers rfl rfl rfl ?_ facing.taken facing.fresh facing.fits ?_
  · intro other
    by_cases same : other = socket
    · subst same
      rw [sentAfter, everything]
      exact (List.prefix_append_right_inj _).mpr
        ((List.prefix_append_right_inj _).mpr (List.take_prefix _ _))
    · rw [Function.update_of_ne same]
      exact facing.sent other
  · rw [doingEq]
    by_cases last : unsent.drop count = []
    · have all : unsent.take count = unsent := by
        rw [List.drop_eq_nil_iff] at last
        exact List.take_of_length_le last
      rw [if_pos last]
      refine .awaitingCatchup shape rfl dead ?_ ?_ (frameStatus_short (by simp))
      · rw [sentAfter, all, everything]
      · rw [consumed, List.append_nil]
    · rw [if_neg last]
      refine .catchingUp shape rfl dead ?_ last sentAfter consumed
      rw [List.append_assoc, List.take_append_drop, whole]

inductive AtSending (proto : Protobuf) (endpoint : Endpoint) (own : Party) (log : List Packet)
    (outgoing incoming : Fd → Stream) (socket : Fd) : Activity (Bool × Connection) → Prop
  | announcing {sent unsent : Bytes} :
      own.doing = .awaitingHeader socket →
      endpoint.connection.Dead →
      sent ++ unsent = announcement proto own.counted →
      (outgoing socket).sent = sent →
      (incoming socket).consumed = [] →
      AtSending proto endpoint own log outgoing incoming socket
        (endpoint.connection.recoverAt proto socket (.announcing sent))
  | catchingUp {base : Nat} {sent unsent : Bytes} :
      own.doing = .awaitingCatchup socket →
      own.script socket = .exchange own.counted base own.accepted 0 →
      endpoint.connection.Dead →
      sent ++ unsent =
        Connection.catchupFrame proto (BackedWriter.missing log base) →
      (outgoing socket).sent = announcement proto own.counted ++ sent →
      (incoming socket).consumed = announcement proto base →
      AtSending proto endpoint own log outgoing incoming socket
        (endpoint.connection.recoverAt proto socket
          (.catchingUp (BackedWriter.missing log base) sent))

theorem Facing.sends
    (facing : Facing box proto key side endpoint peerAccepted own peer outgoing incoming
      used)
    (recovering : endpoint.recovering = some (socket, activity))
    (nonempty : activity.outgoing ≠ []) :
    AtSending proto endpoint own (sealedLog box key side.nonceMSB endpoint.accepted) outgoing
      incoming socket activity := by
  have stands := facing.doing
  generalize doingEq : own.doing = doing at stands
  cases stands with
  | detached idle =>
      rw [idle] at recovering
      cases recovering
  | attached idle =>
      rw [idle] at recovering
      cases recovering
  | leaving at_ out =>
      rw [at_] at recovering
      cases recovering
      rcases Connection.recoverAt_outgoing nonempty with ⟨_, rfl⟩ | ⟨_, _, rfl⟩
      · exact out.elim
      · exact out.elim
  | announcing at_ dead whole _ sentEq consumed =>
      rw [at_] at recovering
      cases recovering
      exact .announcing doingEq dead whole sentEq consumed
  | awaitingHeader at_ =>
      rw [at_] at recovering
      cases recovering
      rcases Connection.recoverAt_outgoing nonempty with ⟨_, impossible⟩ |
        ⟨_, _, impossible⟩ <;> cases impossible
  | catchingUp shape at_ dead whole _ sentEq consumed =>
      rw [at_] at recovering
      cases recovering
      exact .catchingUp doingEq shape dead whole sentEq consumed
  | awaitingCatchup _ at_ =>
      rw [at_] at recovering
      cases recovering
      rcases Connection.recoverAt_outgoing nonempty with ⟨_, impossible⟩ |
        ⟨_, _, impossible⟩ <;> cases impossible
  | recovered at_ =>
      rw [at_] at recovering
      cases recovering
      rcases Connection.recoverAt_outgoing nonempty with ⟨_, impossible⟩ |
        ⟨_, _, impossible⟩ <;> cases impossible

theorem outgoing_ne_nil (positive : 0 < count) (bound : count ≤ activity.outgoing.length) :
    activity.outgoing ≠ [] := by
  apply List.ne_nil_of_length_pos
  omega

theorem Facing.send
    (facing : Facing box proto key side endpoint peerAccepted own peer outgoing incoming
      used)
    (recovering : endpoint.recovering = some (socket, activity))
    (positive : 0 < count) (bound : count ≤ activity.outgoing.length) :
    ∃ ownAfter, Moved box proto key side endpoint
      { endpoint with recovering := some (socket, activity.send count) }
      peerAccepted own ownAfter peer outgoing incoming
      (Function.update outgoing socket ((outgoing socket).append
        (activity.outgoing.take count)))
      incoming used := by
  cases facing.sends recovering (outgoing_ne_nil positive bound) with
  | announcing doingEq dead whole sentEq consumed =>
      exact facing.send_header doingEq dead whole sentEq consumed bound
  | catchingUp doingEq shape dead whole sentEq consumed =>
      exact facing.send_catchup doingEq shape dead whole sentEq consumed bound

/-! ### Receiving the header -/

theorem toInt_ofInt {counted : Nat} (short : counted < 2 ^ 31) :
    (Int32.ofInt (counted : Int)).toInt = counted :=
  Int32.toInt_ofInt_of_le (by omega) (by omega)

theorem Script.bytes_announced (proto : Protobuf) (log : List Packet) {script : Script}
    {counted : Nat} (announced : script.announced = some counted) :
    ∃ rest, script.bytes proto log = announcement proto counted ++ rest := by
  cases script with
  | silent => cases announced
  | initial packets => cases announced
  | hello number =>
      cases announced
      exact ⟨_, rfl⟩
  | exchange number base upto packets =>
      cases announced
      exact ⟨_, by rw [Script.bytes, Script.preamble, List.append_assoc]⟩

theorem Facing.peer_announced
    (facing : Facing box proto key side endpoint peerAccepted own peer outgoing incoming
      used)
    (doingEq : own.doing = .awaitingHeader socket)
    (arrived : (incoming socket).available ≠ []) :
    ∃ counted, (peer.script socket).announced = some counted ∧ counted ≤ own.accepted := by
  have hello := facing.consistent.awaitingHeader socket doingEq
  have sent := facing.peerSent socket
  cases shape : peer.script socket with
  | silent =>
      rw [shape] at sent
      have nothing := List.prefix_nil.mp sent
      have none := (incoming socket).available_isPrefix
      rw [nothing, List.drop_nil] at none
      exact (arrived (List.prefix_nil.mp none)).elim
  | initial packets =>
      obtain ⟨others, ownShape⟩ := facing.peerConsistent.initials socket packets shape
      rw [hello] at ownShape
      cases ownShape
  | hello counted =>
      have bound := facing.peerConsistent.announced_le socket counted
        (by rw [shape]; rfl)
      exact ⟨counted, rfl, bound.trans facing.peerConsistent.counted_le⟩
  | exchange counted base upto packets =>
      have bound := facing.peerConsistent.announced_le socket counted
        (by rw [shape]; rfl)
      exact ⟨counted, rfl, bound.trans facing.peerConsistent.counted_le⟩

theorem Facing.stage_after_header {counted : Nat}
    (facing : Facing box proto key side endpoint peerAccepted own peer outgoing incoming
      used)
    (dead : endpoint.connection.Dead) (behind : counted ≤ own.accepted) :
    (endpoint.connection.stageAfterHeader proto
        { sequenceNumber := Int32.ofInt counted } =
      .catchingUp (BackedWriter.missing
        (sealedLog box key side.nonceMSB endpoint.accepted) counted) [] ∧
      (proto.catchupBuffer.serialize
        { buffer := BackedWriter.missing
            (sealedLog box key side.nonceMSB endpoint.accepted)
            counted }).length ≤ MAX_PROTO_BYTES) ∨
    (endpoint.connection.stageAfterHeader proto
      { sequenceNumber := Int32.ofInt counted }).leads_out := by
  have short := facing.short
  have acceptedEq := facing.accepted
  obtain ⟨sinceLoss, backs⟩ := facing.backs
  have answer := backs.recover_eq dead.writer
    (show counted ≤ (sealedLog box key side.nonceMSB endpoint.accepted).length by
      rw [sealedLog_length, ← acceptedEq]
      exact behind)
  unfold Connection.stageAfterHeader
  simp only [toInt_ofInt (show counted < 2 ^ 31 by omega), answer]
  by_cases kept : (sealedLog box key side.nonceMSB endpoint.accepted).length - counted ≤
      endpoint.connection.writer.backupBuffer.length
  · rw [if_pos kept]
    simp only
    split
    · right
      intro same
      have letters := congrArg String.toList same
      simp at letters
    · left
      exact ⟨rfl, by omega⟩
  · right
    rw [if_neg kept]
    trivial

theorem consumed_update_take {socket : Fd}
    (bound : count ≤ (incoming socket).available.length) :
    ((Function.update incoming socket ((incoming socket).take count)) socket).consumed =
      (incoming socket).consumed ++ (incoming socket).available.take count := by
  rw [Function.update_self, Stream.consumed_take bound]

/-- What a chunk of the header makes of the recovery.  A completed header is the one that the
peer has announced. -/
theorem Facing.header_arrives {got : Bytes} {wanted : Nat}
    (facing : Facing box proto key side endpoint peerAccepted own peer outgoing incoming
      used)
    (doingEq : own.doing = .awaitingHeader socket)
    (consumed : (incoming socket).consumed = got)
    (status : frameStatus proto.sequenceHeader got = .more wanted)
    (positive : 0 < count) (bound : count ≤ wanted)
    (arrived : count ≤ (incoming socket).available.length) :
    (∃ counted, (peer.script socket).announced = some counted ∧ counted ≤ own.accepted ∧
      got ++ (incoming socket).available.take count = announcement proto counted ∧
      (endpoint.connection.recoverAt proto socket (.awaitingHeader got)).receive
          ((incoming socket).available.take count) =
        endpoint.connection.recoverAt proto socket (endpoint.connection.stageAfterHeader proto
          { sequenceNumber := Int32.ofInt counted })) ∨
    ∃ left,
      frameStatus proto.sequenceHeader (got ++ (incoming socket).available.take count) =
        .more left ∧
      (endpoint.connection.recoverAt proto socket (.awaitingHeader got)).receive
          ((incoming socket).available.take count) =
        endpoint.connection.recoverAt proto socket
          (.awaitingHeader (got ++ (incoming socket).available.take count)) := by
  have some : (incoming socket).available ≠ [] := by
    apply List.ne_nil_of_length_pos
    omega
  obtain ⟨counted, announced, behind⟩ := facing.peer_announced doingEq some
  obtain ⟨rest, bytesEq⟩ := Script.bytes_announced proto
    (sealedLog box key side.other.nonceMSB peerAccepted) announced
  have chunkLength : ((incoming socket).available.take count).length ≤ wanted := by
    rw [List.length_take]
    omega
  have isPrefix : got ++ (incoming socket).available.take count <+:
      announcement proto counted ++ rest := by
    have stream := (incoming socket).consumed_available.trans
      (facing.peerSent socket)
    rw [consumed, bytesEq] at stream
    exact ((List.prefix_append_right_inj _).mpr (List.take_prefix _ _)).trans stream
  have standing := Connection.awaitingHeader_receive endpoint.connection socket status
    chunkLength
  rcases frameStatus_chunk (proto.sequenceHeader_fits _) isPrefix status chunkLength
    with ⟨whole, message⟩ | ⟨left, more⟩
  · rw [message] at standing
    exact Or.inl ⟨counted, announced, behind, whole,
      Eq.trans standing (Connection.afterHeaderRead_begin _)⟩
  · rw [more] at standing
    exact Or.inr ⟨left, more, standing⟩

theorem Facing.receive_header {got : Bytes} {wanted : Nat}
    (facing : Facing box proto key side endpoint peerAccepted own peer outgoing incoming
      used)
    (doingEq : own.doing = .awaitingHeader socket)
    (inUse : used socket = true)
    (dead : endpoint.connection.Dead)
    (sentEq : (outgoing socket).sent = announcement proto own.counted)
    (consumed : (incoming socket).consumed = got)
    (status : frameStatus proto.sequenceHeader got = .more wanted)
    (positive : 0 < count) (bound : count ≤ wanted)
    (arrived : count ≤ (incoming socket).available.length) :
    ∃ ownAfter, Moved box proto key side endpoint
      { endpoint with
        recovering := some (socket, (endpoint.connection.recoverAt proto socket
          (.awaitingHeader got)).receive ((incoming socket).available.take count)) }
      peerAccepted own ownAfter peer outgoing incoming outgoing
      (Function.update incoming socket ((incoming socket).take count)) used := by
  obtain ⟨taken, fresh⟩ := facing.takes inUse arrived
  have giveUp : own.Moves peer .giveUp { own with doing := .detached } :=
    .giveUpHeader doingEq
  rcases facing.header_arrives doingEq consumed status positive bound arrived with
    ⟨counted, announced, behind, whole, activityEq⟩ | ⟨left, more, activityEq⟩
  · -- the header is complete
    rw [activityEq]
    rcases facing.stage_after_header dead behind with ⟨stage, fits⟩ | out
    · have moves : own.Moves peer (.takeHeader counted)
          { own with
            doing := .awaitingCatchup socket
            script := Function.update own.script socket
              (.exchange own.counted counted own.accepted 0) } :=
        .takeHeader doingEq announced behind
      have shapeAfter : Function.update own.script socket
          (.exchange own.counted counted own.accepted 0) socket =
            .exchange own.counted counted own.accepted 0 := Function.update_self _ _ _
      have logWhole : (sealedLog box key side.nonceMSB endpoint.accepted).length ≤
          own.accepted := by
        rw [sealedLog_length, facing.accepted]
      rw [stage]
      refine ⟨_, PartyMoves.single moves, moves.grows facing.consistent,
        ⟨[], (List.append_nil _).symm⟩, .take _ _, ?_⟩
      refine facing.recovers rfl rfl rfl ?_ taken ?_ ?_ ?_
      · intro other
        by_cases same : other = socket
        · subst same
          simp only [shapeAfter]
          rw [sentEq, exchange_bytes logWhole]
          exact List.prefix_append _ _
        · simp only [Function.update_of_ne same]
          exact facing.sent other
      · intro other unused
        by_cases same : other = socket
        · subst same
          rw [inUse] at unused
          cases unused
        · simp only [Function.update_of_ne same]
          exact facing.fresh other unused
      · intro other number base upto packets shape
        by_cases same : other = socket
        · subst same
          simp only [shapeAfter] at shape
          cases shape
          rw [List.take_of_length_le logWhole]
          exact fits
        · simp only [Function.update_of_ne same] at shape
          exact facing.fits other number base upto packets shape
      · refine .catchingUp shapeAfter rfl dead (List.nil_append _) ?_ ?_ ?_
        · apply List.ne_nil_of_length_pos
          rw [Connection.catchupFrame, protoFrame_length]
          omega
        · rw [sentEq, List.append_nil]
        · rw [consumed_update_take arrived, consumed]
          exact whole
    · exact ⟨_, facing.gives_up giveUp dead out (.take _ _) taken fresh⟩
  · -- the header is still incomplete
    refine ⟨own, .refl, Party.grows_of_script_eq (le_refl _) rfl,
      ⟨[], (List.append_nil _).symm⟩, .take _ _, ?_⟩
    refine facing.recovers rfl rfl rfl facing.sent taken
      (fun other unused => ⟨(facing.fresh other unused).1, fresh other unused⟩)
      facing.fits ?_
    rw [activityEq, doingEq]
    refine .awaitingHeader rfl dead sentEq ?_ more
    rw [consumed_update_take arrived, consumed]

/-! ### Receiving the catch-up -/

/-- Bytes beyond the header come from a peer that is past its own header wait. -/
theorem Facing.peer_exchanged {base : Nat} {got : Bytes}
    (facing : Facing box proto key side endpoint peerAccepted own peer outgoing incoming
      used)
    (shape : own.script socket = .exchange own.counted base own.accepted 0)
    (consumed : (incoming socket).consumed = announcement proto base ++ got)
    (arrived : (incoming socket).available ≠ []) :
    ∃ peerBase upto packets, peer.script socket = .exchange base peerBase upto packets := by
  have exchanged := (facing.consistent.exchanged socket _ base _ _ shape).1
  have stream := (incoming socket).consumed_available.trans (facing.peerSent socket)
  cases peerShape : peer.script socket with
  | silent =>
      rw [peerShape] at exchanged
      cases exchanged
  | initial packets =>
      rw [peerShape] at exchanged
      cases exchanged
  | hello counted =>
      rw [peerShape] at exchanged stream
      cases exchanged
      have bound := stream.length_le
      simp only [consumed, Script.bytes, Script.preamble, Script.packets, frames_nil,
        List.append_nil, List.length_append] at bound
      exact (arrived (List.length_eq_zero_iff.mp (by omega))).elim
  | exchange counted peerBase upto packets =>
      rw [peerShape] at exchanged
      cases exchanged
      exact ⟨peerBase, upto, packets, rfl⟩

/-- What a chunk of the catch-up makes of the recovery.  A completed catch-up is the one that
the peer has posted. -/
theorem Facing.catchup_arrives {base : Nat} {got : Bytes} {wanted : Nat}
    (facing : Facing box proto key side endpoint peerAccepted own peer outgoing incoming
      used)
    (shape : own.script socket = .exchange own.counted base own.accepted 0)
    (consumed : (incoming socket).consumed = announcement proto base ++ got)
    (status : frameStatus proto.catchupBuffer got = .more wanted)
    (positive : 0 < count) (bound : count ≤ wanted)
    (arrived : count ≤ (incoming socket).available.length) :
    (∃ peerBase upto packets, peer.script socket = .exchange base peerBase upto packets ∧
      got ++ (incoming socket).available.take count = catchupImage proto
        (sealedLog box key side.other.nonceMSB peerAccepted) peerBase upto ∧
      (endpoint.connection.recoverAt proto socket (.awaitingCatchup got)).receive
          ((incoming socket).available.take count) =
        endpoint.connection.recoverAt proto socket (.finished true (BackedWriter.missing
          ((sealedLog box key side.other.nonceMSB peerAccepted).take upto) peerBase))) ∨
    ∃ left,
      frameStatus proto.catchupBuffer (got ++ (incoming socket).available.take count) =
        .more left ∧
      (endpoint.connection.recoverAt proto socket (.awaitingCatchup got)).receive
          ((incoming socket).available.take count) =
        endpoint.connection.recoverAt proto socket
          (.awaitingCatchup (got ++ (incoming socket).available.take count)) := by
  have some : (incoming socket).available ≠ [] := by
    apply List.ne_nil_of_length_pos
    omega
  obtain ⟨peerBase, upto, packets, peerShape⟩ :=
    facing.peer_exchanged shape consumed some
  have chunkLength : ((incoming socket).available.take count).length ≤ wanted := by
    rw [List.length_take]
    omega
  have isPrefix : got ++ (incoming socket).available.take count <+:
      catchupImage proto (sealedLog box key side.other.nonceMSB peerAccepted) peerBase
        upto ++ frames ((peer.script socket).packets
          (sealedLog box key side.other.nonceMSB peerAccepted)) := by
    have stream := (incoming socket).consumed_available.trans
      (facing.peerSent socket)
    rw [consumed, Script.bytes, peerShape, Script.preamble, List.append_assoc,
      List.append_assoc] at stream
    have within := (List.prefix_append_right_inj _).mp stream
    rw [peerShape]
    exact ((List.prefix_append_right_inj _).mpr (List.take_prefix _ _)).trans within
  have standing := Connection.awaitingCatchup_receive endpoint.connection socket status
    chunkLength
  rcases frameStatus_chunk (facing.peerFits socket _ _ _ _ peerShape) isPrefix status
    chunkLength with ⟨whole, message⟩ | ⟨left, more⟩
  · rw [message] at standing
    exact Or.inl ⟨peerBase, upto, packets, peerShape, whole, standing⟩
  · rw [more] at standing
    exact Or.inr ⟨left, more, standing⟩

theorem Facing.receive_catchup {base : Nat} {got : Bytes} {wanted : Nat}
    (facing : Facing box proto key side endpoint peerAccepted own peer outgoing incoming
      used)
    (doingEq : own.doing = .awaitingCatchup socket)
    (inUse : used socket = true)
    (shape : own.script socket = .exchange own.counted base own.accepted 0)
    (dead : endpoint.connection.Dead)
    (sentEq : (outgoing socket).sent = (own.script socket).bytes proto
      (sealedLog box key side.nonceMSB endpoint.accepted))
    (consumed : (incoming socket).consumed = announcement proto base ++ got)
    (status : frameStatus proto.catchupBuffer got = .more wanted)
    (positive : 0 < count) (bound : count ≤ wanted)
    (arrived : count ≤ (incoming socket).available.length) :
    ∃ ownAfter, Moved box proto key side endpoint
      { endpoint with
        recovering := some (socket, (endpoint.connection.recoverAt proto socket
          (.awaitingCatchup got)).receive ((incoming socket).available.take count)) }
      peerAccepted own ownAfter peer outgoing incoming outgoing
      (Function.update incoming socket ((incoming socket).take count)) used := by
  obtain ⟨taken, fresh⟩ := facing.takes inUse arrived
  have takenBytes := consumed_update_take arrived
  rw [consumed, List.append_assoc] at takenBytes
  refine ⟨own, .refl, Party.grows_of_script_eq (le_refl _) rfl,
    ⟨[], (List.append_nil _).symm⟩, .take _ _, ?_⟩
  refine facing.recovers rfl rfl rfl facing.sent taken
    (fun other unused => ⟨(facing.fresh other unused).1, fresh other unused⟩)
    facing.fits ?_
  rw [doingEq]
  rcases facing.catchup_arrives shape consumed status positive bound arrived with
    ⟨peerBase, upto, packets, peerShape, whole, activityEq⟩ | ⟨left, more, activityEq⟩
  · -- the catch-up is complete
    rw [activityEq]
    refine .recovered rfl dead peerShape sentEq ?_
    rw [takenBytes, whole, peerShape]
    rfl
  · rw [activityEq]
    exact .awaitingCatchup shape rfl dead sentEq takenBytes more

theorem Facing.recovering_used
    (facing : Facing box proto key side endpoint peerAccepted own peer outgoing incoming
      used)
    (doingEq : own.doing = .awaitingHeader socket ∨ own.doing = .awaitingCatchup socket) :
    used socket = true := by
  cases isUsed : used socket with
  | true => rfl
  | false =>
      have silent := (facing.fresh socket isUsed).1
      rcases doingEq with doingEq | doingEq
      · rw [facing.consistent.awaitingHeader socket doingEq] at silent
        cases silent
      · obtain ⟨base, shape⟩ := facing.consistent.awaitingCatchup socket doingEq
        rw [shape] at silent
        cases silent

inductive AtReceiving (proto : Protobuf) (endpoint : Endpoint) (own : Party) (log : List Packet)
    (outgoing incoming : Fd → Stream) (socket : Fd) : Activity (Bool × Connection) → Nat → Prop
  | header {got : Bytes} {wanted : Nat} :
      own.doing = .awaitingHeader socket →
      endpoint.connection.Dead →
      (outgoing socket).sent = announcement proto own.counted →
      (incoming socket).consumed = got →
      frameStatus proto.sequenceHeader got = .more wanted →
      AtReceiving proto endpoint own log outgoing incoming socket
        (endpoint.connection.recoverAt proto socket (.awaitingHeader got)) wanted
  | catchup {base : Nat} {got : Bytes} {wanted : Nat} :
      own.doing = .awaitingCatchup socket →
      own.script socket = .exchange own.counted base own.accepted 0 →
      endpoint.connection.Dead →
      (outgoing socket).sent = (own.script socket).bytes proto log →
      (incoming socket).consumed = announcement proto base ++ got →
      frameStatus proto.catchupBuffer got = .more wanted →
      AtReceiving proto endpoint own log outgoing incoming socket
        (endpoint.connection.recoverAt proto socket (.awaitingCatchup got)) wanted

theorem Facing.receives
    (facing : Facing box proto key side endpoint peerAccepted own peer outgoing incoming
      used)
    (recovering : endpoint.recovering = some (socket, activity))
    (nonzero : activity.wanted ≠ 0) :
    AtReceiving proto endpoint own (sealedLog box key side.nonceMSB endpoint.accepted) outgoing
      incoming socket activity activity.wanted := by
  have stands := facing.doing
  generalize doingEq : own.doing = doing at stands
  cases stands with
  | detached idle =>
      rw [idle] at recovering
      cases recovering
  | attached idle =>
      rw [idle] at recovering
      cases recovering
  | leaving at_ out =>
      rw [at_] at recovering
      cases recovering
      rcases Connection.recoverAt_wanted nonzero with ⟨_, rfl⟩ | ⟨_, rfl⟩
      · exact out.elim
      · exact out.elim
  | announcing at_ =>
      rw [at_] at recovering
      cases recovering
      rcases Connection.recoverAt_wanted nonzero with ⟨_, impossible⟩ |
        ⟨_, impossible⟩ <;> cases impossible
  | awaitingHeader at_ dead sentEq consumed status =>
      rw [at_] at recovering
      cases recovering
      rw [Connection.awaitingHeader_wanted status]
      exact .header doingEq dead sentEq consumed status
  | catchingUp _ at_ =>
      rw [at_] at recovering
      cases recovering
      rcases Connection.recoverAt_wanted nonzero with ⟨_, impossible⟩ |
        ⟨_, impossible⟩ <;> cases impossible
  | awaitingCatchup shape at_ dead sentEq consumed status =>
      rw [at_] at recovering
      cases recovering
      rw [Connection.awaitingCatchup_wanted status]
      exact .catchup doingEq shape dead sentEq consumed status
  | recovered at_ =>
      rw [at_] at recovering
      cases recovering
      rcases Connection.recoverAt_wanted nonzero with ⟨_, impossible⟩ |
        ⟨_, impossible⟩ <;> cases impossible

theorem Facing.receive
    (facing : Facing box proto key side endpoint peerAccepted own peer outgoing incoming
      used)
    (recovering : endpoint.recovering = some (socket, activity))
    (positive : 0 < count) (bound : count ≤ activity.wanted)
    (arrived : count ≤ (incoming socket).available.length) :
    ∃ ownAfter, Moved box proto key side endpoint
      { endpoint with
        recovering := some (socket,
          activity.receive ((incoming socket).available.take count)) }
      peerAccepted own ownAfter peer outgoing incoming outgoing
      (Function.update incoming socket ((incoming socket).take count)) used := by
  have receives := facing.receives recovering (by omega)
  generalize activity.wanted = wanted at receives bound
  cases receives with
  | header doingEq dead sentEq consumed status =>
      exact facing.receive_header doingEq (facing.recovering_used (Or.inl doingEq)) dead
        sentEq consumed status positive bound arrived
  | catchup doingEq shape dead sentEq consumed status =>
      exact facing.receive_catchup doingEq (facing.recovering_used (Or.inr doingEq)) shape
        dead sentEq consumed status positive bound arrived

/-! ### Ending -/

theorem Facing.fail
    (facing : Facing box proto key side endpoint peerAccepted own peer outgoing incoming
      used)
    (recovering : endpoint.recovering = some (socket, activity)) (what : String) :
    ∃ ownAfter, Moved box proto key side endpoint
      { endpoint with recovering := some (socket, activity.fail what) }
      peerAccepted own ownAfter peer outgoing incoming outgoing incoming used := by
  have unread := fun other unused => (facing.fresh other unused).2
  have stands := facing.doing
  generalize doingEq : own.doing = doing at stands
  cases stands with
  | detached idle =>
      rw [idle] at recovering
      cases recovering
  | attached idle =>
      rw [idle] at recovering
      cases recovering
  | @leaving _ stage at_ out dead =>
      rw [at_] at recovering
      cases recovering
      have notTransfers : ¬ stage.transfers := by
        intro transfers
        cases stage <;> first | exact out.elim | exact transfers.elim
      rw [(Connection.recoverAt_fail what stage).2 notTransfers]
      refine ⟨own, facing.restaged ?_⟩
      rw [doingEq]
      exact .leaving rfl out dead
  | announcing at_ dead =>
      rw [at_] at recovering
      cases recovering
      rw [(Connection.recoverAt_fail what (.announcing _)).1 trivial]
      exact ⟨_, facing.gives_up (.giveUpHeader doingEq) dead trivial .refl facing.taken
        unread⟩
  | awaitingHeader at_ dead =>
      rw [at_] at recovering
      cases recovering
      rw [(Connection.recoverAt_fail what (.awaitingHeader _)).1 trivial]
      exact ⟨_, facing.gives_up (.giveUpHeader doingEq) dead trivial .refl facing.taken
        unread⟩
  | catchingUp _ at_ dead =>
      rw [at_] at recovering
      cases recovering
      rw [(Connection.recoverAt_fail what (.catchingUp _ _)).1 trivial]
      exact ⟨_, facing.gives_up (.giveUpCatchup doingEq) dead trivial .refl facing.taken
        unread⟩
  | awaitingCatchup _ at_ dead =>
      rw [at_] at recovering
      cases recovering
      rw [(Connection.recoverAt_fail what (.awaitingCatchup _)).1 trivial]
      exact ⟨_, facing.gives_up (.giveUpCatchup doingEq) dead trivial .refl facing.taken
        unread⟩
  | recovered at_ dead shape sentEq consumed =>
      rw [at_] at recovering
      cases recovering
      rw [(Connection.recoverAt_fail what (.finished true _)).2 (fun impossible => impossible)]
      refine ⟨own, facing.restaged ?_⟩
      rw [doingEq]
      exact .recovered rfl dead shape sentEq consumed

/-- The `close` on the way out. -/
theorem Facing.close
    (facing : Facing box proto key side endpoint peerAccepted own peer outgoing incoming
      used)
    (recovering : endpoint.recovering = some (socket, activity)) :
    ∃ ownAfter, Moved box proto key side endpoint
      { endpoint with recovering := some (socket, activity.closed) }
      peerAccepted own ownAfter peer outgoing incoming outgoing incoming used := by
  refine ⟨own, facing.restaged ?_⟩
  have stands := facing.doing
  generalize own.doing = doing at stands
  cases stands with
  | detached idle =>
      rw [idle] at recovering
      cases recovering
  | attached idle =>
      rw [idle] at recovering
      cases recovering
  | @leaving _ stage at_ out dead =>
      rw [at_] at recovering
      cases recovering
      rw [Connection.recoverAt_closed]
      refine .leaving rfl ?_ dead
      cases stage <;> first | exact trivial | exact out
  | announcing at_ dead whole nonempty sentEq consumed =>
      rw [at_] at recovering
      cases recovering
      rw [Connection.recoverAt_closed]
      exact .announcing rfl dead whole nonempty sentEq consumed
  | awaitingHeader at_ dead sentEq consumed status =>
      rw [at_] at recovering
      cases recovering
      rw [Connection.recoverAt_closed]
      exact .awaitingHeader rfl dead sentEq consumed status
  | catchingUp shape at_ dead whole nonempty sentEq consumed =>
      rw [at_] at recovering
      cases recovering
      rw [Connection.recoverAt_closed]
      exact .catchingUp shape rfl dead whole nonempty sentEq consumed
  | awaitingCatchup shape at_ dead sentEq consumed status =>
      rw [at_] at recovering
      cases recovering
      rw [Connection.recoverAt_closed]
      exact .awaitingCatchup shape rfl dead sentEq consumed status
  | recovered at_ dead shape sentEq consumed =>
      rw [at_] at recovering
      cases recovering
      rw [Connection.recoverAt_closed]
      exact .recovered rfl dead shape sentEq consumed

theorem missing_append {log : List Packet} {returned counted upto : Nat}
    (first : returned ≤ counted) (second : counted ≤ upto) (inside : upto ≤ log.length) :
    BackedWriter.missing (log.take counted) returned ++
        BackedWriter.missing (log.take upto) counted =
      BackedWriter.missing (log.take upto) returned := by
  have front : log.take upto = log.take counted ++ (log.take upto).drop counted := by
    have cut := List.take_append_drop counted (log.take upto)
    rw [List.take_take, Nat.min_eq_left second] at cut
    exact cut.symm
  have whole : (log.take upto).drop returned =
      (log.take counted).drop returned ++ (log.take upto).drop counted := by
    conv_lhs => rw [front]
    rw [List.drop_append_of_le_length]
    rw [List.length_take]
    omega
  rw [BackedWriter.missing, BackedWriter.missing, BackedWriter.missing, whole,
    List.map_append]

/-- A completed recovery attaches the end with exactly what it lacked. -/
theorem Facing.revive {counted base upto packets : Nat}
    (facing : Facing box proto key side endpoint peerAccepted own peer outgoing incoming
      used)
    (doingEq : own.doing = .awaitingCatchup socket)
    (peerShape : peer.script socket = .exchange counted base upto packets)
    (sentEq : (outgoing socket).sent = (own.script socket).bytes proto
      (sealedLog box key side.nonceMSB endpoint.accepted))
    (consumed : (incoming socket).consumed = (peer.script socket).preamble proto
      (sealedLog box key side.other.nonceMSB peerAccepted)) :
    ∃ ownAfter, Moved box proto key side endpoint
      { endpoint with
        connection := endpoint.connection.revived socket (BackedWriter.missing
          ((sealedLog box key side.other.nonceMSB peerAccepted).take upto) base)
        recovering := none }
      peerAccepted own ownAfter peer outgoing incoming outgoing incoming used := by
  have moves : own.Moves peer .takeCatchup
      { own with
        counted := own.counted + (upto - base)
        doing := .attached socket } := .takeCatchup doingEq peerShape
  obtain ⟨sameBase, ordered, bounded⟩ :=
    facing.consistent.catchup_base facing.peerConsistent doingEq peerShape
  have inside : upto ≤ (sealedLog box key side.other.nonceMSB peerAccepted).length := by
    rw [sealedLog_length, ← facing.peerLength]
    omega
  have countedAfter : own.counted + (upto - base) = upto := by omega
  refine ⟨_, PartyMoves.single moves, moves.grows facing.consistent,
    ⟨[], (List.append_nil _).symm⟩, .refl, ?_⟩
  refine facing.reads rfl rfl (fun _ _ backs => ⟨_, backs.revive socket⟩) rfl rfl ?_ ?_ ?_
    facing.returned facing.taken (fun other unused => (facing.fresh other unused).2) ?_
  · simp only [Connection.revived, BackedReader.revive, BackedWriter.missing,
      List.length_map, List.length_drop, List.length_take, facing.counted]
    omega
  · exact facing.readerHandler
  · simp only [Connection.revived, BackedReader.revive, facing.localBuffer, countedAfter]
    rw [sameBase]
    exact missing_append facing.consistent.returned_le (by omega) inside
  · have upToStart : (peer.script socket).bytesUpTo proto
        (sealedLog box key side.other.nonceMSB peerAccepted) upto =
          (peer.script socket).preamble proto
            (sealedLog box key side.other.nonceMSB peerAccepted) := by
      have nothing : ((sealedLog box key side.other.nonceMSB peerAccepted).take
          upto).drop upto = [] :=
        List.drop_eq_nil_of_le (List.length_take_le _ _)
      rw [Script.bytesUpTo, peerShape]
      simp only [Script.posted, Option.map_some, Option.getD_some, nothing, frames_nil,
        List.append_nil]
    refine .attached rfl (Connection.revived_live _ _ _) sentEq ?_ ?_
    · simp only [countedAfter, Connection.revived, BackedReader.revive, List.append_nil]
      rw [consumed, upToStart]
    · intro first rest _
      simp only [Connection.revived, BackedReader.revive, List.length_nil]
      rw [BackedWriter.frame_length]
      omega

theorem Facing.finish {ok : Bool} {connection : Connection}
    (facing : Facing box proto key side endpoint peerAccepted own peer outgoing incoming
      used)
    (recovering : endpoint.recovering = some (socket, activity))
    (done : activity.program = .done (ok, connection)) :
    ∃ ownAfter, Moved box proto key side endpoint
      { endpoint with
        connection := connection
        recovering := none }
      peerAccepted own ownAfter peer outgoing incoming outgoing incoming used := by
  have stands := facing.doing
  generalize doingEq : own.doing = doing at stands
  cases stands with
  | detached idle =>
      rw [idle] at recovering
      cases recovering
  | attached idle =>
      rw [idle] at recovering
      cases recovering
  | leaving at_ out dead =>
      rw [at_] at recovering
      cases recovering
      rcases Connection.recoverAt_done done with ⟨_, rfl, _, _⟩ | ⟨_, rfl, _, same⟩
      · exact out.elim
      · rw [same]
        refine ⟨own, facing.restaged ?_⟩
        rw [doingEq]
        exact .detached rfl dead
  | announcing at_ =>
      rw [at_] at recovering
      cases recovering
      rcases Connection.recoverAt_done done with ⟨_, impossible, _⟩ |
        ⟨_, impossible, _⟩ <;> cases impossible
  | awaitingHeader at_ =>
      rw [at_] at recovering
      cases recovering
      rcases Connection.recoverAt_done done with ⟨_, impossible, _⟩ |
        ⟨_, impossible, _⟩ <;> cases impossible
  | catchingUp _ at_ =>
      rw [at_] at recovering
      cases recovering
      rcases Connection.recoverAt_done done with ⟨_, impossible, _⟩ |
        ⟨_, impossible, _⟩ <;> cases impossible
  | awaitingCatchup _ at_ =>
      rw [at_] at recovering
      cases recovering
      rcases Connection.recoverAt_done done with ⟨_, impossible, _⟩ |
        ⟨_, impossible, _⟩ <;> cases impossible
  | recovered at_ dead shape sentEq consumed =>
      rw [at_] at recovering
      cases recovering
      rcases Connection.recoverAt_done done with ⟨_, same, _, result⟩ |
        ⟨_, impossible, _⟩
      · cases same
        rw [result]
        exact facing.revive doingEq shape sentEq consumed
      · cases impossible

end Ends

end EternalTerminal
