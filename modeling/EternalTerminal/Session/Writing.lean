/-
A write is matched by accepting a packet, and by detaching when the socket
fails under it.
-/

import EternalTerminal.Session.Facing

namespace EternalTerminal

open Library

section Ends

variable {box : SecretBox} {proto : Protobuf} {key : Key} {side : Side}
  {endpoint : Endpoint} {peerAccepted : List Packet} {own peer : Party}
  {outgoing incoming : Fd → Stream} {used : Fd → Bool}

/-- The end after an accepted packet, apart from what it is doing. -/
structure Accepts (box : SecretBox) (endpoint after : Endpoint) (packet : Packet) :
    Prop where
  accepted : after.accepted = endpoint.accepted ++ [packet]
  returned : after.returned = endpoint.returned
  handler : after.connection.writer.cryptoHandler =
    endpoint.connection.writer.cryptoHandler.incrementNonce
  backs : ∀ log sinceLoss, endpoint.connection.writer.Backs log sinceLoss →
    ∃ since, after.connection.writer.Backs
      (log ++ [packet.sealed box endpoint.connection.writer.cryptoHandler]) since
  counted : after.connection.reader.sequenceNumber =
    endpoint.connection.reader.sequenceNumber
  readerHandler : after.connection.reader.cryptoHandler =
    endpoint.connection.reader.cryptoHandler
  localBuffer : after.connection.reader.localBuffer =
    endpoint.connection.reader.localBuffer

/-- What an accepted packet leaves of the relation, once the script and the
streams are known. -/
theorem Facing.accepts {after : Endpoint} {ownAfter : Party}
    {outgoingAfter : Fd → Stream} {packet : Packet}
    (facing : Facing box proto key side endpoint peerAccepted own peer outgoing incoming
      used)
    (accepts : Accepts box endpoint after packet)
    (plain : packet.encrypted = false)
    (more : endpoint.accepted.length + 1 < 2 ^ 31)
    (sized : 4 + (packet.length + crypto_secretbox_MACBYTES) < 2 ^ 31)
    (acceptedAfter : ownAfter.accepted = own.accepted + 1)
    (countedAfter : ownAfter.counted = own.counted)
    (returnedAfter : ownAfter.returned = own.returned)
    (sent : ∀ socket, (outgoingAfter socket).sent <+:
      (ownAfter.script socket).bytes proto
        (sealedLog box key side.nonceMSB endpoint.accepted ++
          [packet.sealed box endpoint.connection.writer.cryptoHandler]))
    (fresh : ∀ socket, own.script socket = .silent → ownAfter.script socket = .silent)
    (shapes : ∀ socket counted base upto packets,
      ownAfter.script socket = .exchange counted base upto packets →
        ∃ fewer, own.script socket = .exchange counted base upto fewer)
    (doing : Stands proto after ownAfter peer
      (sealedLog box key side.nonceMSB endpoint.accepted ++
        [packet.sealed box endpoint.connection.writer.cryptoHandler])
      (sealedLog box key side.other.nonceMSB peerAccepted) outgoingAfter incoming
      ownAfter.doing) :
    EndRefines box proto key side after peerAccepted ownAfter peer outgoingAfter incoming
      used := by
  have logAfter : sealedLog box key side.nonceMSB after.accepted =
      sealedLog box key side.nonceMSB endpoint.accepted ++
        [packet.sealed box endpoint.connection.writer.cryptoHandler] := by
    rw [accepts.accepted, sealedLog_concat, facing.writerHandler]
  constructor
  · rw [acceptedAfter, accepts.accepted, facing.accepted, List.length_append,
      List.length_singleton]
  · rw [accepts.accepted, List.length_append, List.length_singleton]
    exact more
  · intro other member
    rw [accepts.accepted, List.mem_append, List.mem_singleton] at member
    rcases member with member | rfl
    · exact facing.plain other member
    · exact ⟨plain, sized⟩
  · rw [accepts.handler, facing.writerHandler, accepts.accepted, List.length_append,
      List.length_singleton, CryptoHandler.after_incrementNonce]
  · obtain ⟨sinceLoss, backs⟩ := facing.backs
    rw [logAfter]
    exact accepts.backs _ _ backs
  · rw [accepts.counted, countedAfter, facing.counted]
  · rw [accepts.readerHandler, returnedAfter, facing.readerHandler]
  · rw [accepts.localBuffer, countedAfter, returnedAfter, facing.localBuffer]
  · rw [accepts.returned, returnedAfter, facing.returned]
  · rw [logAfter]
    exact sent
  · exact facing.taken
  · intro socket unused
    have was := facing.fresh socket unused
    exact ⟨fresh socket was.1, was.2⟩
  · intro socket counted base upto packets shape
    obtain ⟨fewer, was⟩ := shapes socket counted base upto packets shape
    rw [logAfter, List.take_append_of_le_length (facing.exchange_within was)]
    exact facing.fits socket counted base upto fewer was
  · rw [logAfter]
    exact doing

/-- The connection after an accepted packet, with more packets on the way. -/
theorem accepting_accepts (box : SecretBox) (endpoint : Endpoint) (packet : Packet)
    (connection : Connection)
    (writer : connection.writer.cryptoHandler =
      (endpoint.connection.accepting box packet).writer.cryptoHandler)
    (backs : ∀ log sinceLoss,
      (endpoint.connection.accepting box packet).writer.Backs log sinceLoss →
        ∃ since, connection.writer.Backs log since)
    (reader : connection.reader.sequenceNumber =
        endpoint.connection.reader.sequenceNumber ∧
      connection.reader.cryptoHandler = endpoint.connection.reader.cryptoHandler ∧
      connection.reader.localBuffer = endpoint.connection.reader.localBuffer) :
    Accepts box endpoint
      { endpoint with
        connection := connection
        accepted := endpoint.accepted ++ [packet] } packet where
  accepted := rfl
  returned := rfl
  handler := writer.trans (BackedWriter.backup_cryptoHandler _ _ _)
  backs := fun _ _ was => backs _ _ (was.backup _ _)
  counted := reader.1
  readerHandler := reader.2.1
  localBuffer := reader.2.2

theorem Facing.write_buffered {packet : Packet}
    (facing : Facing box proto key side endpoint peerAccepted own peer outgoing incoming
      used)
    (idle : endpoint.recovering = none)
    (noSocket : endpoint.connection.writer.socketFd = none)
    (plain : packet.encrypted = false)
    (more : endpoint.accepted.length + 1 < 2 ^ 31)
    (sized : 4 + (packet.length + crypto_secretbox_MACBYTES) < 2 ^ 31) :
    ∃ ownAfter, Moved box proto key side endpoint
      { endpoint with
        connection := endpoint.connection.accepting box packet
        accepted := endpoint.accepted ++ [packet] }
      peerAccepted own ownAfter peer outgoing incoming outgoing incoming used := by
  have accepts := accepting_accepts box endpoint packet
    (endpoint.connection.accepting box packet) rfl
    (fun _ since backs => ⟨since, backs⟩) ⟨rfl, rfl, rfl⟩
  rcases facing.doing.idle idle with ⟨doingEq, dead⟩ | ⟨socket, _, live, _⟩
  · have moves : own.Moves peer .accept { own with accepted := own.accepted + 1 } :=
      .acceptDetached doingEq
    refine ⟨_, PartyMoves.single moves, moves.grows facing.consistent, ⟨[packet], rfl⟩,
      .refl, ?_⟩
    refine facing.accepts accepts plain more sized rfl rfl rfl ?_ (fun _ was => was)
      (fun _ _ _ _ packets shape => ⟨packets, shape⟩) ?_
    · intro socket
      rw [Script.bytes_append _ (fun first last => facing.log_within)]
      exact facing.sent socket
    · simp only [doingEq]
      refine .detached idle ⟨dead.own, dead.reader, ?_⟩
      exact (BackedWriter.backup_socketFd _ _ _).trans dead.writer
  · rw [live.writer] at noSocket
    cases noSocket

/-- The scripts and streams after a packet is posted on the attached socket, of
which the socket took a part. -/
theorem Facing.posts {packet : Packet} {socket : Fd} {part : Bytes}
    (facing : Facing box proto key side endpoint peerAccepted own peer outgoing incoming
      used)
    (doingEq : own.doing = .attached socket)
    (sent : (outgoing socket).sent = (own.script socket).bytes proto
      (sealedLog box key side.nonceMSB endpoint.accepted))
    (isPart : part <+: BackedWriter.frame packet) (other : Fd) :
    ((Function.update outgoing socket ((outgoing socket).append part)) other).sent <+:
      (Function.update own.script socket (own.script socket).post other).bytes proto
        (sealedLog box key side.nonceMSB endpoint.accepted ++ [packet]) := by
  by_cases same : other = socket
  · subst same
    obtain ⟨first, posted⟩ := facing.consistent.attached_posts other doingEq
    have within := facing.log_within posted
    rw [facing.accepted, ← sealedLog_length box key side.nonceMSB] at posted
    rw [Function.update_self, Function.update_self,
      Script.bytes_post posted (by rw [sealedLog_length, ← facing.accepted]; exact within.1),
      Stream.append, sent]
    exact (List.prefix_append_right_inj _).mpr isPart
  · rw [Function.update_of_ne same, Function.update_of_ne same,
      Script.bytes_append _ (fun first last => facing.log_within)]
    exact facing.sent other

theorem update_post_silent {scripts : Fd → Script} (socket other : Fd)
    (silent : scripts other = .silent) :
    Function.update scripts socket (scripts socket).post other = .silent := by
  by_cases same : other = socket
  · subst same
    rw [Function.update_self, silent]
    rfl
  · rw [Function.update_of_ne same]
    exact silent

theorem update_post_exchange {scripts : Fd → Script} (socket other : Fd)
    {counted base upto packets : Nat}
    (shape : Function.update scripts socket (scripts socket).post other =
      .exchange counted base upto packets) :
    ∃ fewer, scripts other = .exchange counted base upto fewer := by
  by_cases same : other = socket
  · subst same
    rw [Function.update_self] at shape
    exact Script.post_exchange shape
  · rw [Function.update_of_ne same] at shape
    exact ⟨packets, shape⟩

theorem Facing.write_written {packet : Packet} {socket : Fd}
    (facing : Facing box proto key side endpoint peerAccepted own peer outgoing incoming
      used)
    (idle : endpoint.recovering = none)
    (attached : endpoint.connection.writer.socketFd = some socket)
    (plain : packet.encrypted = false)
    (more : endpoint.accepted.length + 1 < 2 ^ 31)
    (sized : 4 + (packet.length + crypto_secretbox_MACBYTES) < 2 ^ 31) :
    ∃ ownAfter, Moved box proto key side endpoint
      { endpoint with
        connection := endpoint.connection.accepting box packet
        accepted := endpoint.accepted ++ [packet] }
      peerAccepted own ownAfter peer outgoing incoming
      (Function.update outgoing socket ((outgoing socket).append
        (BackedWriter.frame (packet.sealed box endpoint.connection.writer.cryptoHandler))))
      incoming used := by
  have accepts := accepting_accepts box endpoint packet
    (endpoint.connection.accepting box packet) rfl
    (fun _ since backs => ⟨since, backs⟩) ⟨rfl, rfl, rfl⟩
  rcases facing.doing.idle idle with
    ⟨_, dead⟩ | ⟨actual, doingEq, live, sent, consumed, unfinished⟩
  · rw [dead.writer] at attached
    cases attached
  · rw [live.writer] at attached
    cases attached
    have moves : own.Moves peer .accept
        { own with
          accepted := own.accepted + 1
          script := Function.update own.script socket (own.script socket).post } :=
      .acceptAttached doingEq
    refine ⟨_, PartyMoves.single moves, moves.grows facing.consistent, ⟨[packet], rfl⟩,
      .append _ _, ?_⟩
    refine facing.accepts accepts plain more sized rfl rfl rfl
      (facing.posts doingEq sent List.prefix_rfl)
      (fun _ => update_post_silent _ _) (fun _ _ _ _ _ => update_post_exchange _ _) ?_
    simp only [doingEq]
    obtain ⟨first, posted⟩ := facing.consistent.attached_posts socket doingEq
    have within := facing.log_within posted
    rw [facing.accepted, ← sealedLog_length box key side.nonceMSB] at posted
    refine .attached idle ⟨live.own, live.reader, ?_⟩ ?_ consumed unfinished
    · exact (BackedWriter.backup_socketFd _ _ _).trans live.writer
    · simp only [Function.update_self]
      rw [Script.bytes_post posted
        (by rw [sealedLog_length, ← facing.accepted]; exact within.1), Stream.append, sent]

/-- A packet accepted on a socket that fails after a part of its frame. -/
theorem Facing.write_severed {packet : Packet} {socket : Fd} {count : Nat}
    (facing : Facing box proto key side endpoint peerAccepted own peer outgoing incoming
      used)
    (idle : endpoint.recovering = none)
    (attached : endpoint.connection.writer.socketFd = some socket)
    (plain : packet.encrypted = false)
    (more : endpoint.accepted.length + 1 < 2 ^ 31)
    (sized : 4 + (packet.length + crypto_secretbox_MACBYTES) < 2 ^ 31) :
    ∃ ownAfter, Moved box proto key side endpoint
      { endpoint with
        connection := if endpoint.connection.socketFd = none
          then endpoint.connection.accepting box packet
          else (endpoint.connection.accepting box packet).invalidated
        accepted := endpoint.accepted ++ [packet] }
      peerAccepted own ownAfter peer outgoing incoming
      (Function.update outgoing socket ((outgoing socket).append
        ((BackedWriter.frame
          (packet.sealed box endpoint.connection.writer.cryptoHandler)).take count)))
      incoming used := by
  rcases facing.doing.idle idle with ⟨_, dead⟩ | ⟨actual, doingEq, live, sent, _, _⟩
  · rw [dead.writer] at attached
    cases attached
  · rw [live.writer] at attached
    cases attached
    rw [if_neg (by rw [live.own]; simp)]
    have accepts := accepting_accepts box endpoint packet
      (endpoint.connection.accepting box packet).invalidated rfl
      (fun _ since backs => ⟨since, backs.invalidateSocket⟩) ⟨rfl, rfl, rfl⟩
    have moves : own.Moves peer .accept
        { own with
          accepted := own.accepted + 1
          script := Function.update own.script socket (own.script socket).post } :=
      .acceptAttached doingEq
    refine ⟨{ own with
        accepted := own.accepted + 1
        script := Function.update own.script socket (own.script socket).post
        doing := .detached }, ?_, ?_, ⟨[packet], rfl⟩, .append _ _, ?_⟩
    · exact (PartyMoves.single moves).tail ⟨.detach, .detach doingEq⟩
    · exact Party.grows_of_update (Nat.le_succ _) rfl (.post _)
    · exact facing.accepts accepts plain more sized rfl rfl rfl
        (facing.posts doingEq sent (List.take_prefix _ _))
        (fun _ => update_post_silent _ _) (fun _ _ _ _ _ => update_post_exchange _ _)
        (.detached idle (Connection.invalidated_dead _))

/-- Every `write` that returns. -/
theorem Facing.write {packet : Packet} {accepted : Bool} {connection : Connection}
    {wires after : Wires}
    (facing : Facing box proto key side endpoint peerAccepted own peer
      (fun socket => wires socket side) (fun socket => wires socket side.other) used)
    (idle : endpoint.recovering = none)
    (result : Connection.WriteResult box side wires endpoint.connection packet accepted
      connection after)
    (more : endpoint.accepted.length + 1 < 2 ^ 31)
    (sized : 4 + (packet.length + crypto_secretbox_MACBYTES) < 2 ^ 31) :
    ∃ ownAfter, Moved box proto key side endpoint
      { endpoint with
        connection := connection
        accepted := endpoint.accepted ++ if accepted then [packet] else [] }
      peerAccepted own ownAfter peer
      (fun socket => wires socket side) (fun socket => wires socket side.other)
      (fun socket => after socket side) (fun socket => after socket side.other) used := by
  cases result with
  | skipped =>
      refine ⟨own, ?_⟩
      simp only [Bool.false_eq_true, if_false, List.append_nil]
      exact facing.unmoved
  | buffered noSocket plain => exact facing.write_buffered idle noSocket plain more sized
  | written attached plain =>
      rw [Wires.update_column, Wires.update_other_column _ _ _ _ side.other_ne]
      exact facing.write_written idle attached plain more sized
  | severed count attached plain =>
      rw [Wires.update_column, Wires.update_other_column _ _ _ _ side.other_ne]
      exact facing.write_severed idle attached plain more sized

end Ends

end EternalTerminal
