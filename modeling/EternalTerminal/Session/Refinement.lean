/-
How a session stands to the ledger.

`EndRefines` reads one end of a session: its counters, its handlers and its
buffers are those of the party, every stream carries a prefix of the bytes of
its script, and a recovery under way is at the stage the party is at.  What the
other end does keeps it.
-/

import EternalTerminal.Session.ConnectionRuns

namespace EternalTerminal

open Library
open SocketHandler

theorem sealedLog_append (box : SecretBox) (key : Key) (nonceMSB : UInt8)
    (accepted more : List Packet) :
    ∃ rest, sealedLog box key nonceMSB (accepted ++ more) =
      sealedLog box key nonceMSB accepted ++ rest :=
  ⟨_, List.mapIdx_append⟩

namespace Connection

def RecoverStage.leads_out : RecoverStage → Prop
  | .leaving => True
  | .finished false _ => True
  | .aborted message => message ≠ "Something went really wrong, client is ahead of server"
  | _ => False

end Connection

inductive Stands (proto : Protobuf) (endpoint : Endpoint) (own peer : Party)
    (log peerLog : List Packet) (outgoing incoming : Fd → Stream) : Doing → Prop
  | detached :
      endpoint.recovering = none →
      endpoint.connection.Dead →
      Stands proto endpoint own peer log peerLog outgoing incoming .detached
  | leaving {socket : Fd} {stage : Connection.RecoverStage} :
      endpoint.recovering =
        some (socket, endpoint.connection.recoverAt proto socket stage) →
      stage.leads_out →
      endpoint.connection.Dead →
      Stands proto endpoint own peer log peerLog outgoing incoming .detached
  | attached {socket : Fd} :
      endpoint.recovering = none →
      endpoint.connection.Live socket →
      (outgoing socket).sent = (own.script socket).bytes proto log →
      (incoming socket).consumed =
        (peer.script socket).bytesUpTo proto peerLog own.counted ++
          endpoint.connection.reader.partialMessage →
      BackedReader.Unfinished endpoint.connection.reader.partialMessage
        (peerLog.drop own.counted) →
      Stands proto endpoint own peer log peerLog outgoing incoming (.attached socket)
  | announcing {socket : Fd} {sent unsent : Bytes} :
      endpoint.recovering =
        some (socket, endpoint.connection.recoverAt proto socket (.announcing sent)) →
      endpoint.connection.Dead →
      sent ++ unsent = announcement proto own.counted →
      unsent ≠ [] →
      (outgoing socket).sent = sent →
      (incoming socket).consumed = [] →
      Stands proto endpoint own peer log peerLog outgoing incoming
        (.awaitingHeader socket)
  | awaitingHeader {socket : Fd} {got : Bytes} {count : Nat} :
      endpoint.recovering =
        some (socket, endpoint.connection.recoverAt proto socket (.awaitingHeader got)) →
      endpoint.connection.Dead →
      (outgoing socket).sent = announcement proto own.counted →
      (incoming socket).consumed = got →
      frameStatus proto.sequenceHeader got = .more count →
      Stands proto endpoint own peer log peerLog outgoing incoming
        (.awaitingHeader socket)
  | catchingUp {socket : Fd} {base : Nat} {sent unsent : Bytes} :
      own.script socket = .exchange own.counted base own.accepted 0 →
      endpoint.recovering =
        some (socket, endpoint.connection.recoverAt proto socket
          (.catchingUp (BackedWriter.missing log base) sent)) →
      endpoint.connection.Dead →
      sent ++ unsent =
        Connection.catchupFrame proto (BackedWriter.missing log base) →
      unsent ≠ [] →
      (outgoing socket).sent = announcement proto own.counted ++ sent →
      (incoming socket).consumed = announcement proto base →
      Stands proto endpoint own peer log peerLog outgoing incoming
        (.awaitingCatchup socket)
  | awaitingCatchup {socket : Fd} {base : Nat} {got : Bytes} {count : Nat} :
      own.script socket = .exchange own.counted base own.accepted 0 →
      endpoint.recovering =
        some (socket, endpoint.connection.recoverAt proto socket
          (.awaitingCatchup got)) →
      endpoint.connection.Dead →
      (outgoing socket).sent = (own.script socket).bytes proto log →
      (incoming socket).consumed = announcement proto base ++ got →
      frameStatus proto.catchupBuffer got = .more count →
      Stands proto endpoint own peer log peerLog outgoing incoming
        (.awaitingCatchup socket)
  | recovered {socket : Fd} {counted base upto packets : Nat} :
      endpoint.recovering =
        some (socket, endpoint.connection.recoverAt proto socket
          (.finished true (BackedWriter.missing (peerLog.take upto) base))) →
      endpoint.connection.Dead →
      peer.script socket = .exchange counted base upto packets →
      (outgoing socket).sent = (own.script socket).bytes proto log →
      (incoming socket).consumed = (peer.script socket).preamble proto peerLog →
      Stands proto endpoint own peer log peerLog outgoing incoming
        (.awaitingCatchup socket)

theorem Stands.idle {proto : Protobuf} {endpoint : Endpoint} {own peer : Party}
    {log peerLog : List Packet} {outgoing incoming : Fd → Stream} {doing : Doing}
    (stands : Stands proto endpoint own peer log peerLog outgoing incoming doing)
    (idle : endpoint.recovering = none) :
    (doing = .detached ∧ endpoint.connection.Dead) ∨
    ∃ socket, doing = .attached socket ∧ endpoint.connection.Live socket ∧
      (outgoing socket).sent = (own.script socket).bytes proto log ∧
      (incoming socket).consumed =
        (peer.script socket).bytesUpTo proto peerLog own.counted ++
          endpoint.connection.reader.partialMessage ∧
      BackedReader.Unfinished endpoint.connection.reader.partialMessage
        (peerLog.drop own.counted) := by
  cases stands with
  | detached _ dead => exact Or.inl ⟨rfl, dead⟩
  | attached _ live sent consumed unfinished =>
      exact Or.inr ⟨_, rfl, live, sent, consumed, unfinished⟩
  | leaving recovering =>
      rw [idle] at recovering
      cases recovering
  | announcing recovering =>
      rw [idle] at recovering
      cases recovering
  | awaitingHeader recovering =>
      rw [idle] at recovering
      cases recovering
  | catchingUp _ recovering =>
      rw [idle] at recovering
      cases recovering
  | awaitingCatchup _ recovering =>
      rw [idle] at recovering
      cases recovering
  | recovered recovering =>
      rw [idle] at recovering
      cases recovering

structure EndRefines (box : SecretBox) (proto : Protobuf) (key : Key) (side : Side)
    (endpoint : Endpoint) (peerAccepted : List Packet) (own peer : Party)
    (outgoing incoming : Fd → Stream) (used : Fd → Bool) : Prop where
  accepted : own.accepted = endpoint.accepted.length
  short : endpoint.accepted.length < 2 ^ 31
  plain : ∀ packet ∈ endpoint.accepted, packet.encrypted = false ∧
    4 + (packet.length + crypto_secretbox_MACBYTES) < 2 ^ 31
  writerHandler : endpoint.connection.writer.cryptoHandler =
    CryptoHandler.after key side.nonceMSB endpoint.accepted.length
  backs : ∃ sinceLoss, endpoint.connection.writer.Backs
    (sealedLog box key side.nonceMSB endpoint.accepted) sinceLoss
  counted : endpoint.connection.reader.sequenceNumber = own.counted
  readerHandler : endpoint.connection.reader.cryptoHandler =
    CryptoHandler.after key side.other.nonceMSB own.returned
  localBuffer : endpoint.connection.reader.localBuffer =
    BackedWriter.missing
      ((sealedLog box key side.other.nonceMSB peerAccepted).take own.counted) own.returned
  returned : endpoint.returned = peerAccepted.take own.returned
  sent : ∀ socket, (outgoing socket).sent <+:
    (own.script socket).bytes proto (sealedLog box key side.nonceMSB endpoint.accepted)
  taken : ∀ socket, (incoming socket).taken ≤ (incoming socket).sent.length
  fresh : ∀ socket, used socket = false →
    own.script socket = .silent ∧ (incoming socket).taken = 0
  fits : ∀ socket counted base upto packets,
    own.script socket = .exchange counted base upto packets →
      (proto.catchupBuffer.serialize
        { buffer := BackedWriter.missing
            ((sealedLog box key side.nonceMSB endpoint.accepted).take upto)
            base }).length ≤ MAX_PROTO_BYTES
  doing : Stands proto endpoint own peer
    (sealedLog box key side.nonceMSB endpoint.accepted)
    (sealedLog box key side.other.nonceMSB peerAccepted) outgoing incoming own.doing

def Session.outgoing (session : Session) (side : Side) : Fd → Stream :=
  fun socket => session.wires socket side

def Session.Refines (box : SecretBox) (proto : Protobuf) (key : Key)
    (session : Session) (ledger : Ledger) : Prop :=
  ∀ side, EndRefines box proto key side (session.endpoint side)
    (session.endpoint side.other).accepted (ledger side) (ledger side.other)
    (session.outgoing side) (session.outgoing side.other)
    (fun socket => session.used socket side)

/-! ### What the other end does -/

namespace Script

variable {proto : Protobuf} {log : List Packet} {before after : Script}

theorem Leads.preamble (leads : before.Leads after) {first last : Nat}
    (posted : before.posted = some (first, last)) :
    after.preamble proto log = before.preamble proto log := by
  cases leads with
  | refl => rfl
  | post => exact preamble_post
  | announce counted => cases posted
  | catchUp counted base upto => cases posted

theorem bytesUpTo_append {script : Script} {counted first last : Nat}
    (posted : script.posted = some (first, last)) (ordered : first ≤ last)
    (within : last ≤ log.length) (inside : counted ≤ log.length) (more : List Packet) :
    script.bytesUpTo proto (log ++ more) counted = script.bytesUpTo proto log counted := by
  have bounds : ∀ low high, script.posted = some (low, high) →
      low ≤ high ∧ high ≤ log.length := by
    intro low high same
    rw [posted] at same
    cases same
    exact ⟨ordered, within⟩
  rw [bytesUpTo, preamble_append more bounds, List.take_append_of_le_length inside,
    bytesUpTo]

theorem Leads.bytesUpTo (leads : before.Leads after) {counted first last : Nat}
    (posted : before.posted = some (first, last)) :
    after.bytesUpTo proto log counted = before.bytesUpTo proto log counted := by
  obtain ⟨later, postedLater, _⟩ := leads.posted posted
  simp only [Script.bytesUpTo, leads.preamble posted, posted, postedLater,
    Option.map_some, Option.getD_some]

theorem partial_nil {script : Script} {stream : Stream} {counted first last : Nat}
    {partialMessage : Bytes}
    (sent : stream.sent <+: script.bytes proto log)
    (posted : script.posted = some (first, last)) (low : first ≤ counted)
    (high : counted ≤ last) (all : log.length ≤ counted)
    (consumed : stream.consumed = script.bytesUpTo proto log counted ++ partialMessage) :
    partialMessage = [] := by
  have nothing : (log.take last).drop counted = [] :=
    List.drop_eq_nil_of_le (by rw [List.length_take]; omega)
  have isPrefix : stream.consumed <+: script.bytes proto log :=
    (List.take_prefix _ _).trans sent
  rw [bytes_split posted low high, nothing, frames_nil, List.append_nil, consumed]
    at isPrefix
  have bound := isPrefix.length_le
  rw [List.length_append] at bound
  exact List.length_eq_zero_iff.mp (by omega)

end Script

section PeerMoves

variable {box : SecretBox} {proto : Protobuf} {key : Key} {side : Side}
  {endpoint : Endpoint} {peerAccepted : List Packet} {own peer peerAfter : Party}
  {outgoing incoming outgoingAfter incomingAfter : Fd → Stream} {used : Fd → Bool}

/-- The streams after a step of the other end: it may hand over more bytes and
take more of those handed over. -/
structure StreamsMove (outgoing incoming outgoingAfter incomingAfter : Fd → Stream) :
    Prop where
  outgoing : ∀ socket, (outgoingAfter socket).sent = (outgoing socket).sent
  taken : ∀ socket, (incomingAfter socket).taken = (incoming socket).taken
  incoming : ∀ socket, (incoming socket).sent <+: (incomingAfter socket).sent

theorem StreamsMove.consumed
    (moved : StreamsMove outgoing incoming outgoingAfter incomingAfter)
    (taken : ∀ socket, (incoming socket).taken ≤ (incoming socket).sent.length)
    (socket : Fd) : (incomingAfter socket).consumed = (incoming socket).consumed := by
  obtain ⟨added, whole⟩ := moved.incoming socket
  rw [Stream.consumed, moved.taken socket, ← whole,
    List.take_append_of_le_length (taken socket), Stream.consumed]

theorem Stands.peer_moves {log peerLog rest : List Packet} {doing : Doing}
    (stands : Stands proto endpoint own peer log peerLog outgoing incoming doing)
    (doingEq : own.doing = doing)
    (consistent : own.Consistent peer) (peerConsistent : peer.Consistent own)
    (peerLength : peer.accepted = peerLog.length)
    (peerSent : ∀ socket, (incoming socket).sent <+:
      (peer.script socket).bytes proto peerLog)
    (taken : ∀ socket, (incoming socket).taken ≤ (incoming socket).sent.length)
    (grows : peer.Grows peerAfter)
    (moved : StreamsMove outgoing incoming outgoingAfter incomingAfter) :
    Stands proto endpoint own peerAfter log (peerLog ++ rest) outgoingAfter
      incomingAfter doing := by
  cases stands with
  | detached idle dead => exact .detached idle dead
  | leaving recovering out dead => exact .leaving recovering out dead
  | @attached socket idle live sent consumed unfinished =>
      obtain ⟨first, last, posted, low, high⟩ := consistent.attached_reads socket doingEq
      have within := peerConsistent.posted_le socket first last posted
      rw [peerLength] at within
      refine .attached idle live ?_ ?_ ?_
      · rw [moved.outgoing, sent]
      · rw [moved.consumed taken, consumed, (grows.script socket).bytesUpTo posted,
          Script.bytesUpTo_append posted within.1 within.2 (by omega)]
      · intro next others same
        by_cases inside : own.counted < peerLog.length
        · rw [List.drop_append_of_le_length (by omega)] at same
          cases left : peerLog.drop own.counted with
          | nil =>
              rw [List.drop_eq_nil_iff] at left
              omega
          | cons head tail =>
              rw [left, List.cons_append] at same
              cases same
              exact unfinished _ _ left
        · have nothing := Script.partial_nil (peerSent socket) posted low high
            (by omega) consumed
          rw [nothing, BackedWriter.frame_length, List.length_nil]
          omega
  | announcing recovering dead whole nonempty sent consumed =>
      refine .announcing recovering dead whole nonempty ?_ ?_
      · rw [moved.outgoing, sent]
      · rw [moved.consumed taken, consumed]
  | awaitingHeader recovering dead sent consumed status =>
      refine .awaitingHeader recovering dead ?_ ?_ status
      · rw [moved.outgoing, sent]
      · rw [moved.consumed taken, consumed]
  | catchingUp shape recovering dead whole nonempty sent consumed =>
      refine .catchingUp shape recovering dead whole nonempty ?_ ?_
      · rw [moved.outgoing, sent]
      · rw [moved.consumed taken, consumed]
  | awaitingCatchup shape recovering dead sent consumed status =>
      refine .awaitingCatchup shape recovering dead ?_ ?_ status
      · rw [moved.outgoing, sent]
      · rw [moved.consumed taken, consumed]
  | @recovered socket counted base upto packets recovering dead shape sent consumed =>
      obtain ⟨later, shapeAfter⟩ := (grows.script socket).exchange shape
      have posted : (peer.script socket).posted = some (upto, upto + packets) := by
        rw [shape]
        rfl
      have within := peerConsistent.posted_le socket _ _ posted
      rw [peerLength] at within
      have sameEntries : (peerLog ++ rest).take upto = peerLog.take upto :=
        List.take_append_of_le_length (by omega)
      refine .recovered ?_ dead shapeAfter ?_ ?_
      · rw [sameEntries]
        exact recovering
      · rw [moved.outgoing, sent]
      · rw [moved.consumed taken, consumed, (grows.script socket).preamble posted]
        refine (Script.preamble_append rest ?_).symm
        intro low high same
        rw [posted] at same
        cases same
        exact within

theorem EndRefines.peer_moves (more : List Packet)
    (refines : EndRefines box proto key side endpoint peerAccepted own peer outgoing
      incoming used)
    (consistent : own.Consistent peer) (peerConsistent : peer.Consistent own)
    (peerLength : peer.accepted = peerAccepted.length)
    (peerSent : ∀ socket, (incoming socket).sent <+: (peer.script socket).bytes proto
      (sealedLog box key side.other.nonceMSB peerAccepted))
    (grows : peer.Grows peerAfter)
    (moved : StreamsMove outgoing incoming outgoingAfter incomingAfter) :
    EndRefines box proto key side endpoint (peerAccepted ++ more) own peerAfter
      outgoingAfter incomingAfter used := by
  obtain ⟨rest, extended⟩ := sealedLog_append box key side.other.nonceMSB peerAccepted more
  have countedInside : own.counted ≤ peerAccepted.length := by
    rw [← peerLength]
    exact consistent.counted_le
  refine { refines with
    localBuffer := ?_
    returned := ?_
    sent := ?_
    taken := ?_
    fresh := ?_
    doing := ?_ }
  · rw [refines.localBuffer, extended,
      List.take_append_of_le_length (by rw [sealedLog_length]; exact countedInside)]
  · rw [refines.returned, List.take_append_of_le_length
      (consistent.returned_le.trans countedInside)]
  · intro socket
    rw [moved.outgoing]
    exact refines.sent socket
  · intro socket
    rw [moved.taken]
    exact (refines.taken socket).trans (moved.incoming socket).length_le
  · intro socket unused
    rw [moved.taken]
    exact refines.fresh socket unused
  · rw [extended]
    exact refines.doing.peer_moves rfl consistent peerConsistent
      (by rw [peerLength, sealedLog_length]) peerSent refines.taken grows moved

end PeerMoves

end EternalTerminal
