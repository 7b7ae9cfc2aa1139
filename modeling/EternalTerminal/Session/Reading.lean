/-
A read is matched by returning a recovered packet, by receiving a posted one,
or by detaching when the socket fails.
-/

import EternalTerminal.Session.Facing

namespace EternalTerminal

open Library

section Ends

variable {box : SecretBox} {proto : Protobuf} {key : Key} {side : Side}
  {endpoint : Endpoint} {peerAccepted : List Packet} {own peer : Party}
  {outgoing incoming : Fd → Stream} {used : Fd → Bool}

theorem sealedLog_packet {nonceMSB : UInt8} {accepted : List Packet} {index : Nat}
    {entry : Packet} (found : (sealedLog box key nonceMSB accepted)[index]? = some entry) :
    ∃ packet, accepted[index]? = some packet ∧
      entry = packet.sealed box (CryptoHandler.after key nonceMSB index) := by
  rw [sealedLog_getElem?] at found
  cases lookup : accepted[index]? with
  | none =>
      rw [lookup] at found
      cases found
  | some packet =>
      rw [lookup] at found
      cases found
      exact ⟨packet, rfl, rfl⟩

theorem drop_eq_cons {α : Type} {list rest : List α} {index : Nat} {head : α}
    (dropped : list.drop index = head :: rest) : list[index]? = some head := by
  have found : (list.drop index)[0]? = some head := by
    rw [dropped]
    rfl
  rwa [List.getElem?_drop, Nat.add_zero] at found

theorem take_drop_eq_cons {α : Type} {list rest : List α} {upto index : Nat} {head : α}
    (dropped : (list.take upto).drop index = head :: rest) :
    list[index]? = some head ∧ index < upto := by
  have found := drop_eq_cons dropped
  rw [List.getElem?_take] at found
  by_cases inside : index < upto
  · rw [if_pos inside] at found
    exact ⟨found, inside⟩
  · rw [if_neg inside] at found
    cases found

theorem take_concat {α : Type} {list : List α} {index : Nat} {value : α}
    (found : list[index]? = some value) :
    list.take index ++ [value] = list.take (index + 1) := by
  rw [List.take_add_one, found]
  rfl

theorem Facing.buffer_cons
    (facing : Facing box proto key side endpoint peerAccepted own peer outgoing incoming
      used) {front : Bytes} {rest : List Bytes}
    (buffer : endpoint.connection.reader.localBuffer = front :: rest) :
    ∃ packet, peerAccepted[own.returned]? = some packet ∧
      packet.encrypted = false ∧ own.returned < own.counted ∧
      front = (packet.sealed box endpoint.connection.reader.cryptoHandler).serialize ∧
      rest = BackedWriter.missing
        ((sealedLog box key side.other.nonceMSB peerAccepted).take own.counted)
        (own.returned + 1) := by
  rw [facing.localBuffer, BackedWriter.missing] at buffer
  obtain ⟨entry, others, dropped, frontEq, restEq⟩ := List.map_eq_cons_iff.mp buffer
  obtain ⟨found, inside⟩ := take_drop_eq_cons dropped
  obtain ⟨packet, lookup, entryEq⟩ := sealedLog_packet found
  have plain := (facing.peerPlain packet (List.mem_of_getElem? lookup)).1
  have tail : ((sealedLog box key side.other.nonceMSB peerAccepted).take
      own.counted).drop (own.returned + 1) = others := by
    rw [← List.drop_drop, dropped]
    rfl
  refine ⟨packet, lookup, plain, inside, ?_, ?_⟩
  · rw [← frontEq, entryEq, facing.readerHandler]
  · rw [BackedWriter.missing, tail]
    exact restEq.symm

theorem Facing.drained
    (facing : Facing box proto key side endpoint peerAccepted own peer outgoing incoming
      used) (buffer : endpoint.connection.reader.localBuffer = []) :
    own.returned = own.counted := by
  rw [facing.localBuffer, BackedWriter.missing, List.map_eq_nil_iff,
    List.drop_eq_nil_iff, List.length_take, sealedLog_length] at buffer
  have counted := facing.consistent.counted_le
  rw [facing.peerLength] at counted
  have returned := facing.consistent.returned_le
  omega

def ahead (box : SecretBox) (key : Key) (side : Side) (peerAccepted : List Packet)
    (last counted : Nat) : List Packet :=
  ((sealedLog box key side.other.nonceMSB peerAccepted).take last).drop counted

theorem ahead_cons {last counted : Nat} {first : Packet} {rest : List Packet}
    (shape : ahead box key side peerAccepted last counted = first :: rest) :
    (sealedLog box key side.other.nonceMSB peerAccepted)[counted]? = some first ∧
      counted < last ∧
      ∃ packet, peerAccepted[counted]? = some packet ∧
        first = packet.sealed box (CryptoHandler.after key side.other.nonceMSB counted) := by
  obtain ⟨found, inside⟩ := take_drop_eq_cons shape
  exact ⟨found, inside, sealedLog_packet found⟩

theorem Facing.readable
    (facing : Facing box proto key side endpoint peerAccepted own peer outgoing incoming
      used) (last : Nat) (buffer : endpoint.connection.reader.localBuffer = []) :
    BackedReader.Readable box endpoint.connection.reader
      (ahead box key side peerAccepted last own.counted) := by
  intro first rest shape
  obtain ⟨_, _, packet, lookup, firstEq⟩ := ahead_cons shape
  have facts := facing.peerPlain packet (List.mem_of_getElem? lookup)
  refine ⟨?_, packet, facts.1, ?_⟩
  · rw [firstEq, BackedWriter.frame_length, Packet.sealed_length]
    exact facts.2
  · rw [firstEq, facing.readerHandler, facing.drained buffer]

/-- What the reader holds and what its socket has are the next posted frames. -/
theorem Facing.stream_ahead
    (facing : Facing box proto key side endpoint peerAccepted own peer outgoing incoming
      used) {socket first last : Nat}
    (posted : (peer.script socket).posted = some (first, last))
    (low : first ≤ own.counted) (high : own.counted ≤ last)
    (consumed : (incoming socket).consumed =
      (peer.script socket).bytesUpTo proto
        (sealedLog box key side.other.nonceMSB peerAccepted) own.counted ++
          endpoint.connection.reader.partialMessage) :
    endpoint.connection.reader.partialMessage ++ (incoming socket).available <+:
      frames (ahead box key side peerAccepted last own.counted) := by
  have whole := (incoming socket).consumed_available.trans (facing.peerSent socket)
  rw [Script.bytes_split posted low high, consumed, List.append_assoc] at whole
  exact (List.prefix_append_right_inj _).mp whole

/-- A partial message that does not hold the next posted frame does not hold the
next packet of the log. -/
theorem unfinished_of_ahead {last counted : Nat} {partialMessage : Bytes}
    (isPrefix : partialMessage <+: frames (ahead box key side peerAccepted last counted))
    (unfinished : BackedReader.Unfinished partialMessage
      (ahead box key side peerAccepted last counted)) :
    BackedReader.Unfinished partialMessage
      ((sealedLog box key side.other.nonceMSB peerAccepted).drop counted) := by
  intro next others same
  cases shape : ahead box key side peerAccepted last counted with
  | nil =>
      rw [shape] at isPrefix
      have bound := isPrefix.length_le
      rw [frames_nil, List.length_nil] at bound
      rw [BackedWriter.frame_length]
      omega
  | cons first rest =>
      have found := (ahead_cons shape).1
      rw [drop_eq_cons same] at found
      cases found
      exact unfinished _ _ shape

theorem Facing.reads {after : Endpoint} {ownAfter : Party} {incomingAfter : Fd → Stream}
    (facing : Facing box proto key side endpoint peerAccepted own peer outgoing incoming
      used)
    (accepted : after.accepted = endpoint.accepted)
    (writerHandler : after.connection.writer.cryptoHandler =
      endpoint.connection.writer.cryptoHandler)
    (backs : ∀ log sinceLoss, endpoint.connection.writer.Backs log sinceLoss →
      ∃ since, after.connection.writer.Backs log since)
    (acceptedCount : ownAfter.accepted = own.accepted)
    (script : ownAfter.script = own.script)
    (counted : after.connection.reader.sequenceNumber = ownAfter.counted)
    (readerHandler : after.connection.reader.cryptoHandler =
      CryptoHandler.after key side.other.nonceMSB ownAfter.returned)
    (localBuffer : after.connection.reader.localBuffer =
      BackedWriter.missing
        ((sealedLog box key side.other.nonceMSB peerAccepted).take ownAfter.counted)
        ownAfter.returned)
    (returned : after.returned = peerAccepted.take ownAfter.returned)
    (taken : ∀ socket, (incomingAfter socket).taken ≤ (incomingAfter socket).sent.length)
    (fresh : ∀ socket, used socket = false → (incomingAfter socket).taken = 0)
    (doing : Stands proto after ownAfter peer
      (sealedLog box key side.nonceMSB endpoint.accepted)
      (sealedLog box key side.other.nonceMSB peerAccepted) outgoing incomingAfter
      ownAfter.doing) :
    EndRefines box proto key side after peerAccepted ownAfter peer outgoing incomingAfter
      used := by
  constructor
  · rw [acceptedCount, accepted, facing.accepted]
  · rw [accepted]
    exact facing.short
  · rw [accepted]
    exact facing.plain
  · rw [writerHandler, accepted, facing.writerHandler]
  · obtain ⟨sinceLoss, was⟩ := facing.backs
    rw [accepted]
    exact backs _ _ was
  · exact counted
  · exact readerHandler
  · exact localBuffer
  · exact returned
  · rw [script, accepted]
    exact facing.sent
  · exact taken
  · intro socket unused
    rw [script]
    exact ⟨(facing.fresh socket unused).1, fresh socket unused⟩
  · rw [script, accepted]
    exact facing.fits
  · rw [accepted]
    exact doing

theorem Facing.attached_used
    (facing : Facing box proto key side endpoint peerAccepted own peer outgoing incoming
      used) {socket : Fd} (doingEq : own.doing = .attached socket) :
    used socket = true := by
  cases isUsed : used socket with
  | true => rfl
  | false =>
      obtain ⟨first, posted⟩ := facing.consistent.attached_posts socket doingEq
      rw [(facing.fresh socket isUsed).1] at posted
      cases posted

theorem Facing.takes
    (facing : Facing box proto key side endpoint peerAccepted own peer outgoing incoming
      used) {socket : Fd} {count : Nat} (inUse : used socket = true)
    (bound : count ≤ (incoming socket).available.length) :
    (∀ other, ((Function.update incoming socket ((incoming socket).take count))
        other).taken ≤
      ((Function.update incoming socket ((incoming socket).take count)) other).sent.length) ∧
    ∀ other, used other = false →
      ((Function.update incoming socket ((incoming socket).take count)) other).taken = 0 := by
  constructor
  · intro other
    by_cases same : other = socket
    · subst same
      rw [Function.update_self]
      exact Stream.taken_take_le (facing.taken other) bound
    · rw [Function.update_of_ne same]
      exact facing.taken other
  · intro other unused
    by_cases same : other = socket
    · subst same
      rw [inUse] at unused
      cases unused
    · rw [Function.update_of_ne same]
      exact (facing.fresh other unused).2

theorem Facing.read_recovered {packet : Packet} {front : Bytes} {rest : List Bytes}
    {socket : Fd}
    (facing : Facing box proto key side endpoint peerAccepted own peer outgoing incoming
      used)
    (idle : endpoint.recovering = none)
    (doingEq : own.doing = .attached socket)
    (buffer : endpoint.connection.reader.localBuffer = front :: rest)
    (plain : packet.encrypted = false)
    (frontEq : front =
      (packet.sealed box endpoint.connection.reader.cryptoHandler).serialize) :
    ∃ ownAfter, Moved box proto key side endpoint
      { endpoint with
        connection := { endpoint.connection with
          reader := { endpoint.connection.reader with
            cryptoHandler := endpoint.connection.reader.cryptoHandler.incrementNonce
            localBuffer := rest } }
        returned := endpoint.returned ++ [packet] }
      peerAccepted own ownAfter peer outgoing incoming outgoing incoming used := by
  obtain ⟨expected, lookup, expectedPlain, more, expectedFront, restEq⟩ :=
    facing.buffer_cons buffer
  have samePacket : packet = expected :=
    Packet.sealed_injective plain expectedPlain
      (Packet.serialize_injective (frontEq.symm.trans expectedFront))
  have moves : own.Moves peer .returnCounted
      { own with returned := own.returned + 1 } := .returnCounted more
  refine ⟨_, PartyMoves.single moves, moves.grows facing.consistent,
    ⟨[], (List.append_nil _).symm⟩, .refl, ?_⟩
  refine facing.reads rfl rfl (fun _ since backs => ⟨since, backs⟩) rfl rfl
    facing.counted ?_ restEq ?_ facing.taken
    (fun other unused => (facing.fresh other unused).2) ?_
  · simp only
    rw [facing.readerHandler, CryptoHandler.after_incrementNonce]
  · simp only
    rw [facing.returned, samePacket, take_concat lookup]
  · rcases facing.doing.idle idle with
      ⟨detached, _⟩ | ⟨actual, attachedEq, live, sent, consumed, unfinished⟩
    · rw [detached] at doingEq
      cases doingEq
    · simp only [attachedEq]
      exact .attached idle ⟨live.own, live.reader, live.writer⟩ sent consumed unfinished

theorem Facing.read_severed {socket : Fd} {got : Bytes}
    (facing : Facing box proto key side endpoint peerAccepted own peer outgoing incoming
      used)
    (idle : endpoint.recovering = none)
    (doingEq : own.doing = .attached socket)
    (gotPrefix : got <+: (incoming socket).available) :
    ∃ ownAfter, Moved box proto key side endpoint
      { endpoint with
        connection := ({ endpoint.connection with
          reader := endpoint.connection.reader.extended got } : Connection).invalidated }
      peerAccepted own ownAfter peer outgoing incoming outgoing
      (Function.update incoming socket ((incoming socket).take got.length)) used := by
  have moves : own.Moves peer .detach { own with doing := .detached } := .detach doingEq
  obtain ⟨taken, fresh⟩ := facing.takes (facing.attached_used doingEq)
    gotPrefix.length_le
  exact ⟨_, PartyMoves.single moves, moves.grows facing.consistent,
    ⟨[], (List.append_nil _).symm⟩, .take _ _,
    facing.reads rfl rfl (fun _ since backs => ⟨since, backs.invalidateSocket⟩) rfl rfl
      facing.counted facing.readerHandler facing.localBuffer facing.returned taken fresh
      (.detached idle (Connection.invalidated_dead _))⟩

/-- The stream after `got` was taken. -/
theorem consumed_update {socket : Fd} {got : Bytes}
    (gotPrefix : got <+: (incoming socket).available) :
    ((Function.update incoming socket ((incoming socket).take got.length))
      socket).consumed = (incoming socket).consumed ++ got := by
  rw [Function.update_self, Stream.consumed_take gotPrefix.length_le,
    List.prefix_iff_eq_take.mp gotPrefix, List.length_take,
    Nat.min_eq_left gotPrefix.length_le]

theorem Facing.read_partly {socket first last : Nat} {got : Bytes}
    (facing : Facing box proto key side endpoint peerAccepted own peer outgoing incoming
      used)
    (idle : endpoint.recovering = none)
    (live : endpoint.connection.Live socket)
    (doingEq : own.doing = .attached socket)
    (sent : (outgoing socket).sent = (own.script socket).bytes proto
      (sealedLog box key side.nonceMSB endpoint.accepted))
    (consumed : (incoming socket).consumed =
      (peer.script socket).bytesUpTo proto
        (sealedLog box key side.other.nonceMSB peerAccepted) own.counted ++
          endpoint.connection.reader.partialMessage)
    (posted : (peer.script socket).posted = some (first, last))
    (low : first ≤ own.counted) (high : own.counted ≤ last)
    (gotPrefix : got <+: (incoming socket).available)
    (unfinished : BackedReader.Unfinished
      (endpoint.connection.reader.partialMessage ++ got)
      (ahead box key side peerAccepted last own.counted)) :
    ∃ ownAfter, Moved box proto key side endpoint
      { endpoint with
        connection := { endpoint.connection with
          reader := endpoint.connection.reader.extended got } }
      peerAccepted own ownAfter peer outgoing incoming outgoing
      (Function.update incoming socket ((incoming socket).take got.length)) used := by
  obtain ⟨taken, fresh⟩ := facing.takes (facing.attached_used doingEq)
    gotPrefix.length_le
  refine ⟨own, .refl, Party.grows_of_script_eq (le_refl _) rfl,
    ⟨[], (List.append_nil _).symm⟩, .take _ _, ?_⟩
  refine facing.reads rfl rfl (fun _ since backs => ⟨since, backs⟩) rfl rfl
    facing.counted facing.readerHandler facing.localBuffer facing.returned taken fresh ?_
  rw [doingEq]
  refine .attached idle ⟨live.own, live.reader, live.writer⟩ sent ?_ ?_
  · rw [consumed_update gotPrefix, consumed, List.append_assoc]
    rfl
  · refine unfinished_of_ahead ?_ unfinished
    exact ((List.prefix_append_right_inj _).mpr gotPrefix).trans
      (facing.stream_ahead posted low high consumed)

theorem Facing.read_packet {socket first last : Nat} {packet : Packet} {got : Bytes}
    {rest : List Packet}
    (facing : Facing box proto key side endpoint peerAccepted own peer outgoing incoming
      used)
    (idle : endpoint.recovering = none)
    (live : endpoint.connection.Live socket)
    (doingEq : own.doing = .attached socket)
    (sent : (outgoing socket).sent = (own.script socket).bytes proto
      (sealedLog box key side.nonceMSB endpoint.accepted))
    (consumed : (incoming socket).consumed =
      (peer.script socket).bytesUpTo proto
        (sealedLog box key side.other.nonceMSB peerAccepted) own.counted ++
          endpoint.connection.reader.partialMessage)
    (posted : (peer.script socket).posted = some (first, last))
    (low : first ≤ own.counted)
    (buffer : endpoint.connection.reader.localBuffer = [])
    (gotPrefix : got <+: (incoming socket).available)
    (plain : packet.encrypted = false)
    (shape : ahead box key side peerAccepted last own.counted =
      packet.sealed box endpoint.connection.reader.cryptoHandler :: rest)
    (whole : endpoint.connection.reader.partialMessage ++ got =
      BackedWriter.frame (packet.sealed box endpoint.connection.reader.cryptoHandler)) :
    ∃ ownAfter, Moved box proto key side endpoint
      { endpoint with
        connection := { endpoint.connection with
          reader := endpoint.connection.reader.advanced }
        returned := endpoint.returned ++ [packet] }
      peerAccepted own ownAfter peer outgoing incoming outgoing
      (Function.update incoming socket ((incoming socket).take got.length)) used := by
  obtain ⟨taken, fresh⟩ := facing.takes (facing.attached_used doingEq)
    gotPrefix.length_le
  obtain ⟨found, inside, expected, lookup, expectedEq⟩ := ahead_cons shape
  have drained := facing.drained buffer
  have expectedPlain := (facing.peerPlain expected (List.mem_of_getElem? lookup)).1
  have samePacket : packet = expected := by
    rw [facing.readerHandler, drained] at expectedEq
    exact Packet.sealed_injective plain expectedPlain expectedEq
  have moves : own.Moves peer .receive
      { own with
        counted := own.counted + 1
        returned := own.returned + 1 } := .receive doingEq posted inside drained
  refine ⟨_, PartyMoves.single moves, moves.grows facing.consistent,
    ⟨[], (List.append_nil _).symm⟩, .take _ _, ?_⟩
  refine facing.reads rfl rfl (fun _ since backs => ⟨since, backs⟩) rfl rfl ?_ ?_ ?_ ?_
    taken fresh ?_
  · exact congrArg (· + 1) facing.counted
  · simp only [BackedReader.advanced]
    rw [facing.readerHandler, CryptoHandler.after_incrementNonce]
  · simp only [BackedReader.advanced, buffer]
    symm
    rw [BackedWriter.missing, List.map_eq_nil_iff, List.drop_eq_nil_iff,
      List.length_take]
    omega
  · simp only
    rw [facing.returned, samePacket, drained, take_concat lookup]
  · simp only [doingEq]
    refine .attached idle ⟨live.own, live.reader, live.writer⟩ sent ?_ ?_
    · rw [consumed_update gotPrefix, consumed, List.append_assoc, whole]
      simp only [BackedReader.advanced, List.append_nil]
      exact (Script.bytesUpTo_succ posted low found).symm
    · intro next others _
      simp only [BackedReader.advanced, List.length_nil]
      rw [BackedWriter.frame_length]
      omega

/-- What a `read` of an attached end can have done. -/
theorem Facing.read_live {wires after : Wires} {socket : Fd}
    {outcome : Outcome Exn (Option Packet × Connection)}
    (facing : Facing box proto key side endpoint peerAccepted own peer
      (fun socket => wires socket side) (fun socket => wires socket side.other) used)
    (doingEq : own.doing = .attached socket) (live : endpoint.connection.Live socket)
    (consumed : (wires socket side.other).consumed =
      (peer.script socket).bytesUpTo proto
        (sealedLog box key side.other.nonceMSB peerAccepted) own.counted ++
          endpoint.connection.reader.partialMessage)
    (unfinished : BackedReader.Unfinished endpoint.connection.reader.partialMessage
      ((sealedLog box key side.other.nonceMSB peerAccepted).drop own.counted))
    (run : Program.Run (Wires.answers side) wires (endpoint.connection.read box) outcome
      after) :
    ∃ first last packet connection, (peer.script socket).posted = some (first, last) ∧
      first ≤ own.counted ∧ own.counted ≤ last ∧ outcome = .returned (packet, connection) ∧
      Connection.ReadResult box side wires endpoint.connection socket
        (ahead box key side peerAccepted last own.counted) packet connection after := by
  obtain ⟨first, last, posted, low, high⟩ :=
    facing.consistent.attached_reads socket doingEq
  have buffered : endpoint.connection.Buffered box := by
    intro front rest buffer
    obtain ⟨packet, _, plain, _, frontEq, _⟩ := facing.buffer_cons buffer
    exact ⟨packet, plain, frontEq⟩
  have unfinishedAhead : BackedReader.Unfinished
      endpoint.connection.reader.partialMessage
      (ahead box key side peerAccepted last own.counted) := by
    intro next others shape
    have found := (ahead_cons shape).1
    refine unfinished next
      ((sealedLog box key side.other.nonceMSB peerAccepted).drop (own.counted + 1)) ?_
    rw [List.drop_eq_getElem?_toList_append, found]
    rfl
  obtain ⟨packet, connection, outcomeEq, result⟩ := Connection.read_run run live buffered
    (facing.stream_ahead posted low high consumed) unfinishedAhead
    (facing.readable last)
  exact ⟨first, last, packet, connection, posted, low, high, outcomeEq, result⟩

/-- Every `read`: it returns, and the session moves along. -/
theorem Facing.read {wires after : Wires}
    {outcome : Outcome Exn (Option Packet × Connection)}
    (facing : Facing box proto key side endpoint peerAccepted own peer
      (fun socket => wires socket side) (fun socket => wires socket side.other) used)
    (idle : endpoint.recovering = none)
    (run : Program.Run (Wires.answers side) wires (endpoint.connection.read box) outcome
      after) :
    ∃ packet connection, outcome = .returned (packet, connection) ∧
      ∃ ownAfter, Moved box proto key side endpoint
        { endpoint with
          connection := connection
          returned := endpoint.returned ++ packet.toList }
        peerAccepted own ownAfter peer
        (fun socket => wires socket side) (fun socket => wires socket side.other)
        (fun socket => after socket side) (fun socket => after socket side.other)
        used := by
  rcases facing.doing.idle idle with
    ⟨_, dead⟩ | ⟨socket, doingEq, live, sent, consumed, unfinished⟩
  · rw [Connection.read_dead dead] at run
    obtain ⟨rfl, rfl⟩ := Program.run_done_iff.mp run
    refine ⟨_, _, rfl, own, ?_⟩
    simp only [Option.toList_none, List.append_nil]
    exact facing.unmoved
  · obtain ⟨first, last, packet, connection, posted, low, high, outcomeEq, result⟩ :=
      facing.read_live doingEq live consumed unfinished run
    refine ⟨packet, connection, outcomeEq, ?_⟩
    cases result with
    | recovered buffer plain frontEq =>
        exact facing.read_recovered idle doingEq buffer plain frontEq
    | severed _ gotPrefix =>
        rw [Wires.update_column, Wires.update_other_column _ _ _ _ side.other_ne.symm]
        simp only [Option.toList_none, List.append_nil]
        exact facing.read_severed idle doingEq gotPrefix
    | partly _ gotPrefix stillUnfinished =>
        rw [Wires.update_column, Wires.update_other_column _ _ _ _ side.other_ne.symm]
        simp only [Option.toList_none, List.append_nil]
        exact facing.read_partly idle live doingEq sent consumed posted low high gotPrefix
          stillUnfinished
    | packet buffer gotPrefix plain shape whole =>
        rw [Wires.update_column, Wires.update_other_column _ _ _ _ side.other_ne.symm]
        exact facing.read_packet idle live doingEq sent consumed posted low buffer
          gotPrefix plain shape whole

/-- `closeSocket` detaches an attached end. -/
theorem Facing.closeSocket
    (facing : Facing box proto key side endpoint peerAccepted own peer outgoing incoming
      used)
    (idle : endpoint.recovering = none) :
    ∃ ownAfter, Moved box proto key side endpoint
      { endpoint with connection := endpoint.connection.closed }
      peerAccepted own ownAfter peer outgoing incoming outgoing incoming used := by
  rcases facing.doing.idle idle with ⟨_, dead⟩ | ⟨socket, doingEq, live, _⟩
  · rw [Connection.closed_of_dead dead.own]
    exact ⟨own, facing.unmoved⟩
  · rw [Connection.closed_of_live (by rw [live.own]; exact Option.some_ne_none socket)]
    have moves : own.Moves peer .detach { own with doing := .detached } :=
      .detach doingEq
    exact ⟨_, PartyMoves.single moves, moves.grows facing.consistent,
      ⟨[], (List.append_nil _).symm⟩, .refl,
      facing.reads rfl rfl (fun _ since backs => ⟨since, backs.invalidateSocket⟩) rfl rfl
        facing.counted facing.readerHandler facing.localBuffer facing.returned
        facing.taken (fun other unused => (facing.fresh other unused).2)
        (.detached idle (Connection.invalidated_dead _))⟩

end Ends

end EternalTerminal
