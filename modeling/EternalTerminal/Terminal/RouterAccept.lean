/-
`UserTerminalRouter::acceptNewConnection` against whatever connects to the router's socket.

The socket is open to every local process.  A process sends some bytes and closes; the packet is
read from these bytes as `readPacket` reads it.
-/

import EternalTerminal.Base.Packet
import EternalTerminal.Base.ProtoFrame
import EternalTerminal.Terminal.UserTerminalRouter

namespace EternalTerminal

open Library

/-- The errno values of a failed `accept` that the code tells apart. -/
inductive AcceptErrno where
  | eagain
  | ewouldblock
  | econnaborted
  | eintr
  | other (code : Nat)
  deriving DecidableEq

inductive AcceptAnswer where
  | connected (client_sock : Fd)
  | failed (acceptErrno : AcceptErrno)
  deriving DecidableEq

namespace UnixSocketHandler

def isTransientAcceptError (err : AcceptErrno) : Bool :=
  err = .eagain || err = .ewouldblock || err = .econnaborted || err = .eintr

/-- -1 comes with the errno of the failed call. -/
def accept : AcceptAnswer → Action (Except AcceptErrno Fd)
  | .connected client_sock => pure (.ok client_sock)
  | .failed acceptErrno =>
      if isTransientAcceptError acceptErrno then pure (.error acceptErrno) else .abort "Error"

end UnixSocketHandler

namespace SocketHandler

/-- What `readPacket` does with the eight bytes of the length; `none` is its false. -/
def readPacketBody (fd : Fd) (length : Int) : Action (Option Packet) :=
  if length < 0 ∨ length > MAX_PROTO_BYTES then
    .raise (.runtimeError ("Invalid size (<0 or >128 MB): " ++ toString length))
  else if length = 0 then pure none
  else do
    let serialized ← readAll fd length.toNat
    let packet ← Packet.deserialize serialized
    pure (some packet)

def readPacket (fd : Fd) : Action (Option Packet) := do
  let prefixBytes ← readAll fd 8
  readPacketBody fd (toInt64 (littleEndianValue prefixBytes))

end SocketHandler

namespace UserTerminalRouter

/-- A payload that does not parse is fatal in `stringToProto`. -/
def readUserInfo (parse : Bytes → Option TerminalUserInfo) (terminalFd : Fd) :
    Action TerminalUserInfo := do
  match ← SocketHandler.readPacket terminalFd with
  | none => .abort "Missing user info packet"
  | some packet =>
      if packet.header = TERMINAL_USER_INFO then
        match parse packet.payload with
        | none => .abort "Error parsing string to proto"
        | some tui => pure { tui with fd := terminalFd }
      else .abort "Got an invalid packet header"

/-- The body of the `try`. -/
def talkToTerminal (router : UserTerminalRouter) (parse : Bytes → Option TerminalUserInfo)
    (terminalFd : Fd) : Action (IdKeyPair × UserTerminalRouter) := do
  let tui ← readUserInfo parse terminalFd
  match router.idInfoMap tui.id with
  | some _ => do
      SocketHandler.close terminalFd
      pure (⟨[], []⟩, router)
  | none => pure (router.register tui)

/-- `acceptNewConnection` down to the bytes of the terminal.  Only a `runtime_error` is
caught. -/
def acceptFrom (router : UserTerminalRouter) (parse : Bytes → Option TerminalUserInfo)
    (answer : AcceptAnswer) : Action (IdKeyPair × UserTerminalRouter) := do
  match ← UnixSocketHandler.accept answer with
  | .error acceptErrno =>
      if acceptErrno ≠ .eagain ∧ acceptErrno ≠ .ewouldblock then .abort "Error"
      else pure (⟨[], []⟩, router)
  | .ok terminalFd =>
      (router.talkToTerminal parse terminalFd).handle fun
        | .runtimeError _ => do
            SocketHandler.close terminalFd
            pure (⟨[], []⟩, router)
        | exn => .raise exn

end UserTerminalRouter

/-! ### The process at the other end -/

/-- What it has sent and the router has not read, before it closes, and what the router has
closed. -/
structure TerminalPeer where
  unread : Bytes
  closed : List Fd
  deriving DecidableEq

namespace TerminalPeer

def answers (peer : TerminalPeer) :
    (operation : SocketCall) → operation.Answer × TerminalPeer
  | .readAll _ count =>
      if count ≤ peer.unread.length then
        (.ok (peer.unread.take count), { peer with unread := peer.unread.drop count })
      else (.error "Failed a call to readAll", { peer with unread := [] })
  | .close fd => ((), { peer with closed := peer.closed ++ [fd] })
  | .read _ _ => (.closed, peer)
  | .writeAll _ _ => (.ok (), peer)

end TerminalPeer

structure Delivers (stream serialized : Bytes) : Prop where
  fits : serialized.length ≤ SocketHandler.MAX_PROTO_BYTES
  starts : SocketHandler.protoFrame serialized <+: stream

def IsUserInfo (parse : Bytes → Option TerminalUserInfo) (serialized : Bytes)
    (tui : TerminalUserInfo) : Prop :=
  ∃ encrypted payload, serialized = encrypted :: TERMINAL_USER_INFO :: payload ∧
    parse payload = some tui

section

variable {router : UserTerminalRouter} {parse : Bytes → Option TerminalUserInfo}
  {stream serialized : Bytes} {terminalFd fd : Fd} {closed : List Fd}

/-! ### Reading the packet -/

theorem Delivers.long (whole : Delivers stream serialized) : 8 ≤ stream.length := by
  have shorter := whole.starts.length_le
  rw [SocketHandler.protoFrame_length] at shorter
  omega

theorem Delivers.frameLength (whole : Delivers stream serialized) :
    SocketHandler.frameLength stream = serialized.length := by
  obtain ⟨rest, isStream⟩ := whole.starts
  have isPrefix : stream <+: SocketHandler.protoFrame serialized ++ rest := by
    rw [isStream]
  exact SocketHandler.frameLength_prefix whole.fits isPrefix whole.long

theorem Delivers.unique {first second : Bytes} (firstWhole : Delivers stream first)
    (secondWhole : Delivers stream second) : first = second := by
  have sameLength : first.length = second.length := by
    have lengths := firstWhole.frameLength.symm.trans secondWhole.frameLength
    exact_mod_cast lengths
  obtain ⟨firstRest, firstStream⟩ := firstWhole.starts
  obtain ⟨secondRest, secondStream⟩ := secondWhole.starts
  have same := firstStream.trans secondStream.symm
  rw [SocketHandler.protoFrame, SocketHandler.protoFrame, sameLength, List.append_assoc,
    List.append_assoc, List.append_cancel_left_eq] at same
  exact (List.append_inj same sameLength).1

theorem delivers_of_length (long : 8 ≤ stream.length)
    (nonneg : 0 ≤ SocketHandler.frameLength stream)
    (fits : SocketHandler.frameLength stream ≤ SocketHandler.MAX_PROTO_BYTES)
    (arrived : (SocketHandler.frameLength stream).toNat ≤ (stream.drop 8).length) :
    Delivers stream ((stream.drop 8).take (SocketHandler.frameLength stream).toNat) := by
  have prefixLength : (stream.take 8).length = 8 := List.length_take_of_le long
  have bound := littleEndianValue_lt (stream.take 8)
  have value : SocketHandler.frameLength stream = littleEndianValue (stream.take 8) := by
    apply toInt64_eq_of_nonneg
    · rw [prefixLength] at bound
      exact bound
    · exact nonneg
  have bodyLength := List.length_take_of_le arrived
  have prefixBytes : littleEndian 8 (SocketHandler.frameLength stream).toNat = stream.take 8 := by
    have image := littleEndian_littleEndianValue (stream.take 8)
    rw [prefixLength] at image
    rw [value, Int.toNat_natCast, image]
  constructor
  · rw [bodyLength]
    omega
  · refine ⟨(stream.drop 8).drop (SocketHandler.frameLength stream).toNat, ?_⟩
    rw [SocketHandler.protoFrame, bodyLength, prefixBytes, List.append_assoc,
      List.take_append_drop, List.take_append_drop]

/-- What a read of `count` bytes gives. -/
theorem readAll_interpret (fd : Fd) (count : Nat) (stream : Bytes) (closed : List Fd) :
    (SocketHandler.readAll fd count).interpret TerminalPeer.answers ⟨stream, closed⟩ =
      if count ≤ stream.length then (.returned (stream.take count), ⟨stream.drop count, closed⟩)
      else (.raised (.runtimeError "Failed a call to readAll"), ⟨[], closed⟩) := by
  rw [SocketHandler.readAll, Program.interpret_perform]
  by_cases enough : count ≤ stream.length
  · simp [TerminalPeer.answers, enough]
  · simp [TerminalPeer.answers, enough]

theorem readPacket_interpret (long : 8 ≤ stream.length) :
    (SocketHandler.readPacket fd).interpret TerminalPeer.answers ⟨stream, closed⟩ =
      (SocketHandler.readPacketBody fd (SocketHandler.frameLength stream)).interpret
        TerminalPeer.answers ⟨stream.drop 8, closed⟩ := by
  rw [SocketHandler.readPacket, Program.interpret_bind, readAll_interpret, if_pos long]
  rfl

theorem readPacket_delivered (fd : Fd) (closed : List Fd)
    (whole : Delivers stream serialized) :
    ∃ rest, (SocketHandler.readPacket fd).interpret TerminalPeer.answers ⟨stream, closed⟩ =
      (if serialized = [] then pure none
        else do
          let packet ← Packet.deserialize serialized
          pure (some packet) : Action (Option Packet)).interpret TerminalPeer.answers
        ⟨rest, closed⟩ := by
  obtain ⟨rest, isStream⟩ := whole.starts
  refine ⟨rest, ?_⟩
  have body : stream.drop 8 = serialized ++ rest := by
    rw [← isStream, SocketHandler.protoFrame, List.append_assoc]
    exact List.drop_left' (by simp)
  have fits := whole.fits
  rw [readPacket_interpret whole.long, whole.frameLength, body, SocketHandler.readPacketBody,
    if_neg (by omega)]
  by_cases empty : serialized = []
  · simp [empty]
  · have positive : (serialized.length : Int) ≠ 0 := by simpa using empty
    rw [if_neg positive, if_neg empty, Program.interpret_bind, readAll_interpret,
      if_pos (by simp)]
    simp

theorem readPacketBody_refused {length : Int}
    (refused : length < 0 ∨ length > SocketHandler.MAX_PROTO_BYTES) :
    (SocketHandler.readPacketBody fd length).interpret TerminalPeer.answers ⟨stream, closed⟩ =
      (.raised (.runtimeError ("Invalid size (<0 or >128 MB): " ++ toString length)),
        ⟨stream, closed⟩) := by
  rw [SocketHandler.readPacketBody, if_pos refused]
  rfl

theorem readPacketBody_missing {length : Int}
    (accepted : ¬ (length < 0 ∨ length > SocketHandler.MAX_PROTO_BYTES))
    (missing : stream.length < length.toNat) :
    (SocketHandler.readPacketBody fd length).interpret TerminalPeer.answers ⟨stream, closed⟩ =
      (.raised (.runtimeError "Failed a call to readAll"), ⟨[], closed⟩) := by
  have nonzero : length ≠ 0 := by
    intro zero
    rw [zero] at missing
    exact Nat.not_lt_zero _ missing
  rw [SocketHandler.readPacketBody, if_neg accepted, if_neg nonzero, Program.interpret_bind,
    readAll_interpret, if_neg (Nat.not_le.mpr missing)]

theorem readPacket_undelivered (fd : Fd) (closed : List Fd)
    (incomplete : ¬ ∃ serialized, Delivers stream serialized) :
    ∃ what rest, (SocketHandler.readPacket fd).interpret TerminalPeer.answers ⟨stream, closed⟩ =
      (.raised (.runtimeError what), ⟨rest, closed⟩) := by
  by_cases long : 8 ≤ stream.length
  · rw [readPacket_interpret long]
    by_cases refused : SocketHandler.frameLength stream < 0 ∨
        SocketHandler.frameLength stream > SocketHandler.MAX_PROTO_BYTES
    · exact ⟨_, _, readPacketBody_refused refused⟩
    · have missing : (stream.drop 8).length < (SocketHandler.frameLength stream).toNat := by
        apply Nat.lt_of_not_le
        intro arrived
        exact incomplete ⟨_, delivers_of_length long (by omega) (by omega) arrived⟩
      exact ⟨_, _, readPacketBody_missing refused missing⟩
  · rw [SocketHandler.readPacket, Program.interpret_bind, readAll_interpret, if_neg long]
    exact ⟨_, _, rfl⟩

end

/-! ### What the router makes of it -/

/-- An end that `acceptNewConnection` has no handler for. -/
inductive Uncaught {α : Type} : Outcome Exn α → Prop
  | aborted (message : String) : Uncaught (.aborted message)
  | outOfRange : Uncaught (.raised .outOfRange)

theorem Uncaught.ne_returned {α : Type} {ending : Outcome Exn α} (uncaught : Uncaught ending)
    (value : α) : ending ≠ .returned value := by
  cases uncaught with
  | aborted message => exact fun impossible => by cases impossible
  | outOfRange => exact fun impossible => by cases impossible

def Sends (parse : Bytes → Option TerminalUserInfo) (stream : Bytes) (tui : TerminalUserInfo) :
    Prop :=
  ∃ serialized, Delivers stream serialized ∧ IsUserInfo parse serialized tui

/-- What has to be closed if nothing comes of it. -/
def AcceptAnswer.descriptors : AcceptAnswer → List Fd
  | .connected client_sock => [client_sock]
  | .failed _ => []

namespace UserTerminalRouter

/-- The call with all that the process sends. -/
def acceptRun (router : UserTerminalRouter) (parse : Bytes → Option TerminalUserInfo)
    (answer : AcceptAnswer) (stream : Bytes) :
    Outcome Exn (IdKeyPair × UserTerminalRouter) × TerminalPeer :=
  (router.acceptFrom parse answer).interpret TerminalPeer.answers ⟨stream, []⟩

/-- The call returns.  New user info is entered into the map and its id and passkey handed on;
otherwise the pair is empty, the map as it was and the descriptor closed. -/
structure Survives (router : UserTerminalRouter) (parse : Bytes → Option TerminalUserInfo)
    (answer : AcceptAnswer) (stream : Bytes) : Prop where
  registers (terminalFd : Fd) (tui : TerminalUserInfo) : answer = .connected terminalFd →
    Sends parse stream tui → router.idInfoMap tui.id = none →
    ∃ unread, router.acceptRun parse answer stream =
      (.returned (⟨tui.id, tui.passkey⟩,
        { idInfoMap :=
            Function.update router.idInfoMap tui.id (some { tui with fd := terminalFd }) }),
        { unread := unread, closed := [] })
  turnsAway : (¬ ∃ terminalFd tui, answer = .connected terminalFd ∧ Sends parse stream tui ∧
      router.idInfoMap tui.id = none) →
    ∃ unread, router.acceptRun parse answer stream =
      (.returned (⟨[], []⟩, router), { unread := unread, closed := answer.descriptors })

section

variable {router after : UserTerminalRouter} {parse : Bytes → Option TerminalUserInfo}
  {answer : AcceptAnswer} {stream serialized : Bytes} {terminalFd : Fd} {closed : List Fd}
  {tui : TerminalUserInfo} {pair : IdKeyPair}

theorem readUserInfo_of_isUserInfo (terminalFd : Fd) (closed : List Fd)
    (whole : Delivers stream serialized)
    (isInfo : IsUserInfo parse serialized tui) :
    ∃ rest, (readUserInfo parse terminalFd).interpret TerminalPeer.answers ⟨stream, closed⟩ =
      (.returned { tui with fd := terminalFd }, ⟨rest, closed⟩) := by
  obtain ⟨encrypted, payload, rfl, parsed⟩ := isInfo
  obtain ⟨rest, packet⟩ := readPacket_delivered terminalFd closed whole
  refine ⟨rest, ?_⟩
  rw [readUserInfo, Program.interpret_bind, packet]
  simp [Packet.deserialize, parsed]

/-- The packet is empty, too short for a header, of another kind, or it does not parse. -/
theorem readUserInfo_of_not_isUserInfo (terminalFd : Fd) (closed : List Fd)
    (whole : Delivers stream serialized)
    (other : ¬ ∃ tui, IsUserInfo parse serialized tui) :
    ∃ ending rest, (readUserInfo parse terminalFd).interpret TerminalPeer.answers
      ⟨stream, closed⟩ = (ending, ⟨rest, closed⟩) ∧ Uncaught ending := by
  obtain ⟨rest, packet⟩ := readPacket_delivered terminalFd closed whole
  rw [readUserInfo, Program.interpret_bind, packet]
  match serialized with
  | [] => exact ⟨_, rest, rfl, .aborted "Missing user info packet"⟩
  | [single] => exact ⟨_, rest, rfl, .outOfRange⟩
  | encrypted :: header :: payload =>
      by_cases isInfo : header = TERMINAL_USER_INFO
      · cases parsed : parse payload with
        | none =>
            refine ⟨.aborted "Error parsing string to proto", rest, ?_, .aborted _⟩
            simp [Packet.deserialize, isInfo, parsed]
        | some tui => exact absurd ⟨tui, encrypted, payload, by rw [isInfo], parsed⟩ other
      · refine ⟨.aborted "Got an invalid packet header", rest, ?_, .aborted _⟩
        simp [Packet.deserialize, isInfo]

theorem readUserInfo_of_incomplete (parse : Bytes → Option TerminalUserInfo) (terminalFd : Fd)
    (closed : List Fd) (incomplete : ¬ ∃ serialized, Delivers stream serialized) :
    ∃ what rest, (readUserInfo parse terminalFd).interpret TerminalPeer.answers
      ⟨stream, closed⟩ = (.raised (.runtimeError what), ⟨rest, closed⟩) := by
  obtain ⟨what, rest, packet⟩ :=
    readPacket_undelivered terminalFd closed incomplete
  refine ⟨what, rest, ?_⟩
  rw [readUserInfo, Program.interpret_bind, packet]

/-! ### How a call ends -/

theorem acceptRun_eq_talk :
    router.acceptRun parse (.connected terminalFd) stream =
      ((router.talkToTerminal parse terminalFd).handle fun
        | .runtimeError _ => do
            SocketHandler.close terminalFd
            pure (⟨[], []⟩, router)
        | exn => .raise exn).interpret TerminalPeer.answers ⟨stream, []⟩ := rfl

theorem acceptRun_of_new (terminalFd : Fd) (sends : Sends parse stream tui)
    (new : router.idInfoMap tui.id = none) :
    ∃ rest, router.acceptRun parse (.connected terminalFd) stream =
      (.returned (⟨tui.id, tui.passkey⟩,
        { idInfoMap :=
            Function.update router.idInfoMap tui.id (some { tui with fd := terminalFd }) }),
        ⟨rest, []⟩) := by
  obtain ⟨serialized, whole, isInfo⟩ := sends
  obtain ⟨rest, read⟩ :=
    readUserInfo_of_isUserInfo terminalFd [] whole isInfo
  refine ⟨rest, ?_⟩
  rw [acceptRun_eq_talk, Program.interpret_handle, talkToTerminal, Program.interpret_bind, read]
  simp [register, new]

theorem acceptRun_of_known (terminalFd : Fd) (sends : Sends parse stream tui)
    (known : router.idInfoMap tui.id ≠ none) :
    ∃ rest, router.acceptRun parse (.connected terminalFd) stream =
      (.returned (⟨[], []⟩, router), ⟨rest, [terminalFd]⟩) := by
  obtain ⟨serialized, whole, isInfo⟩ := sends
  obtain ⟨rest, read⟩ :=
    readUserInfo_of_isUserInfo terminalFd [] whole isInfo
  obtain ⟨info, entry⟩ := Option.ne_none_iff_exists'.mp known
  refine ⟨rest, ?_⟩
  rw [acceptRun_eq_talk, Program.interpret_handle, talkToTerminal, Program.interpret_bind, read]
  simp only [entry]
  rfl

theorem acceptRun_of_incomplete (router : UserTerminalRouter)
    (parse : Bytes → Option TerminalUserInfo) (terminalFd : Fd)
    (incomplete : ¬ ∃ serialized, Delivers stream serialized) :
    ∃ rest, router.acceptRun parse (.connected terminalFd) stream =
      (.returned (⟨[], []⟩, router), ⟨rest, [terminalFd]⟩) := by
  obtain ⟨what, rest, read⟩ := readUserInfo_of_incomplete parse terminalFd [] incomplete
  refine ⟨rest, ?_⟩
  rw [acceptRun_eq_talk, Program.interpret_handle, talkToTerminal, Program.interpret_bind, read]
  rfl

theorem acceptRun_of_other (router : UserTerminalRouter) (terminalFd : Fd)
    (whole : Delivers stream serialized) (other : ¬ ∃ tui, IsUserInfo parse serialized tui) :
    ∃ ending rest, router.acceptRun parse (.connected terminalFd) stream =
      (ending, ⟨rest, []⟩) ∧ Uncaught ending := by
  obtain ⟨ending, rest, read, uncaught⟩ :=
    readUserInfo_of_not_isUserInfo terminalFd [] whole other
  rw [acceptRun_eq_talk, Program.interpret_handle, talkToTerminal, Program.interpret_bind, read]
  cases uncaught with
  | aborted message => exact ⟨_, rest, rfl, .aborted message⟩
  | outOfRange => exact ⟨_, rest, rfl, .outOfRange⟩

/-- ECONNABORTED and EINTR are let through by `accept`, and fatal here. -/
theorem acceptRun_failed (router : UserTerminalRouter) (parse : Bytes → Option TerminalUserInfo)
    (stream : Bytes) (acceptErrno : AcceptErrno) :
    router.acceptRun parse (.failed acceptErrno) stream =
      (if acceptErrno ≠ .eagain ∧ acceptErrno ≠ .ewouldblock then .aborted "Error"
        else .returned (⟨[], []⟩, router), ⟨stream, []⟩) := by
  cases acceptErrno with
  | eagain => rfl
  | ewouldblock => rfl
  | econnaborted => rfl
  | eintr => rfl
  | other code =>
      rw [if_pos ⟨by simp, by simp⟩]
      rfl

/-! ### The peer as the rest of the server sees it -/

inductive Appears (parse : Bytes → Option TerminalUserInfo) :
    AcceptAnswer → Bytes → RouterPeer → Prop
  | nothing {acceptErrno : AcceptErrno} {stream : Bytes} :
      acceptErrno = .eagain ∨ acceptErrno = .ewouldblock →
      Appears parse (.failed acceptErrno) stream .nothing
  | acceptFailed {acceptErrno : AcceptErrno} {stream : Bytes} :
      acceptErrno ≠ .eagain ∧ acceptErrno ≠ .ewouldblock →
      Appears parse (.failed acceptErrno) stream .acceptFailed
  | unreadable {terminalFd : Fd} {stream : Bytes} :
      (¬ ∃ serialized, Delivers stream serialized) →
      Appears parse (.connected terminalFd) stream .unreadable
  | empty {terminalFd : Fd} {stream serialized : Bytes} :
      Delivers stream serialized → serialized.length < Packet.HEADER_SIZE →
      Appears parse (.connected terminalFd) stream .empty
  | packet {terminalFd : Fd} {stream : Bytes} {encrypted header : UInt8} {payload : Bytes} :
      Delivers stream (encrypted :: header :: payload) →
      Appears parse (.connected terminalFd) stream (.packet terminalFd header (parse payload))

theorem exists_appears (parse : Bytes → Option TerminalUserInfo) (answer : AcceptAnswer)
    (stream : Bytes) : ∃ peer, Appears parse answer stream peer := by
  cases answer with
  | failed acceptErrno =>
      by_cases refused : acceptErrno ≠ .eagain ∧ acceptErrno ≠ .ewouldblock
      · exact ⟨.acceptFailed, .acceptFailed refused⟩
      · exact ⟨.nothing, .nothing (by tauto)⟩
  | connected terminalFd =>
      by_cases complete : ∃ serialized, Delivers stream serialized
      · obtain ⟨serialized, whole⟩ := complete
        match serialized, whole with
        | [], whole => exact ⟨.empty, .empty whole (by decide)⟩
        | [single], whole => exact ⟨.empty, .empty whole (Nat.lt_succ_self 1)⟩
        | encrypted :: header :: payload, whole => exact ⟨_, .packet whole⟩
      · exact ⟨.unreadable, .unreadable complete⟩

/-- The call down to the bytes returns what the call on the packet returns. -/
theorem acceptRun_returned_iff {peer : RouterPeer} (appears : Appears parse answer stream peer) :
    (∃ rest, router.acceptRun parse answer stream = (.returned (pair, after), rest)) ↔
      router.acceptNewConnection peer = .ok (pair, after) := by
  cases appears with
  | nothing waiting =>
      rw [acceptRun_failed, if_neg (by tauto)]
      simp [acceptNewConnection, and_comm, eq_comm]
  | acceptFailed refused =>
      rw [acceptRun_failed, if_pos refused]
      simp [acceptNewConnection]
  | unreadable incomplete =>
      obtain ⟨rest, ends⟩ := acceptRun_of_incomplete router parse _ incomplete
      rw [ends]
      simp [acceptNewConnection, and_comm, eq_comm]
  | @empty terminalFd _ serialized whole short =>
      have other : ¬ ∃ tui, IsUserInfo parse serialized tui := by
        intro info
        obtain ⟨tui, encrypted, payload, long, _⟩ := info
        rw [long, List.length_cons, List.length_cons, Packet.HEADER_SIZE] at short
        omega
      obtain ⟨ending, rest, ends, uncaught⟩ := acceptRun_of_other router terminalFd whole other
      rw [ends]
      constructor
      · intro returns
        obtain ⟨_, returned⟩ := returns
        exact absurd (congrArg Prod.fst returned) (uncaught.ne_returned _)
      · intro impossible
        cases impossible
  | @packet terminalFd _ encrypted header payload whole =>
      by_cases info : ∃ tui, IsUserInfo parse (encrypted :: header :: payload) tui
      · obtain ⟨tui, _, _, same, parsed⟩ := info
        cases same
        have sends : Sends parse stream tui := ⟨_, whole, _, _, rfl, parsed⟩
        have accepts : router.acceptNewConnection
            (.packet terminalFd TERMINAL_USER_INFO (parse payload)) =
              .ok (router.register { tui with fd := terminalFd }) := by
          rw [parsed]
          rfl
        rw [accepts]
        cases entry : router.idInfoMap tui.id with
        | none =>
            obtain ⟨rest, ends⟩ := acceptRun_of_new terminalFd sends entry
            simp [ends, register, entry]
        | some known =>
            obtain ⟨rest, ends⟩ := acceptRun_of_known terminalFd sends
              (Option.ne_none_iff_exists'.mpr ⟨known, entry⟩)
            simp [ends, register, entry]
      · obtain ⟨ending, rest, ends, uncaught⟩ := acceptRun_of_other router terminalFd whole info
        rw [ends]
        constructor
        · intro returns
          obtain ⟨_, returned⟩ := returns
          exact absurd (congrArg Prod.fst returned) (uncaught.ne_returned _)
        · intro returned
          simp only [acceptNewConnection] at returned
          by_cases isInfo : header = TERMINAL_USER_INFO
          · rw [if_pos isInfo] at returned
            cases parsed : parse payload with
            | none =>
                rw [parsed] at returned
                cases returned
            | some tui => exact absurd ⟨tui, encrypted, payload, by rw [isInfo], parsed⟩ info
          · rw [if_neg isInfo] at returned
            cases returned

/-! ### Surviving any peer -/

/-- A packet that is no user info is where the call does not return. -/
theorem not_survives_of_uncaught {ending : Outcome Exn (IdKeyPair × UserTerminalRouter)}
    {peer : TerminalPeer} (ends : router.acceptRun parse answer stream = (ending, peer))
    (uncaught : Uncaught ending) : ¬ Survives router parse answer stream := by
  intro survives
  have returns : ∃ value peer, router.acceptRun parse answer stream = (.returned value, peer) := by
    by_cases new : ∃ terminalFd tui, answer = .connected terminalFd ∧ Sends parse stream tui ∧
        router.idInfoMap tui.id = none
    · obtain ⟨terminalFd, tui, connected, sends, isNew⟩ := new
      obtain ⟨rest, registered⟩ := survives.registers terminalFd tui connected sends isNew
      exact ⟨_, _, registered⟩
    · obtain ⟨rest, turned⟩ := survives.turnsAway new
      exact ⟨_, _, turned⟩
  obtain ⟨value, other, returned⟩ := returns
  rw [ends] at returned
  exact uncaught.ne_returned value (congrArg Prod.fst returned)

/-- Every transient failure but an empty queue ends the server, and so does every whole packet
that is not user info. -/
theorem router_survives_iff
    (transient : ∀ acceptErrno, answer = .failed acceptErrno →
      UnixSocketHandler.isTransientAcceptError acceptErrno = true) :
    Survives router parse answer stream ↔
      answer ≠ .failed .econnaborted ∧ answer ≠ .failed .eintr ∧
        ∀ terminalFd serialized, answer = .connected terminalFd → Delivers stream serialized →
          ∃ tui, IsUserInfo parse serialized tui := by
  cases answer with
  | failed acceptErrno =>
      have ends := acceptRun_failed router parse stream acceptErrno
      by_cases refused : acceptErrno ≠ .eagain ∧ acceptErrno ≠ .ewouldblock
      · rw [if_pos refused] at ends
        have fails := not_survives_of_uncaught ends (.aborted "Error")
        have which : acceptErrno = .econnaborted ∨ acceptErrno = .eintr := by
          simpa [UnixSocketHandler.isTransientAcceptError, refused] using
            transient acceptErrno rfl
        constructor
        · intro survives
          exact absurd survives fails
        · intro ⟨notAborted, notInterrupted, _⟩
          rcases which with aborted | interrupted
          · exact absurd (congrArg AcceptAnswer.failed aborted) notAborted
          · exact absurd (congrArg AcceptAnswer.failed interrupted) notInterrupted
      · rw [if_neg refused] at ends
        constructor
        · intro _
          refine ⟨?_, ?_, ?_⟩
          · intro aborted
            cases aborted
            exact refused ⟨by simp, by simp⟩
          · intro interrupted
            cases interrupted
            exact refused ⟨by simp, by simp⟩
          · intro terminalFd serialized impossible
            cases impossible
        · intro _
          exact
            { registers := by intro terminalFd tui impossible; cases impossible
              turnsAway := fun _ => ⟨stream, ends⟩ }
  | connected terminalFd =>
      constructor
      · intro survives
        refine ⟨by simp, by simp, ?_⟩
        intro fd serialized _ whole
        by_contra other
        obtain ⟨ending, rest, ends, uncaught⟩ := acceptRun_of_other router terminalFd whole other
        exact not_survives_of_uncaught ends uncaught survives
      · intro ⟨_, _, isInfo⟩
        refine
          { registers := ?_
            turnsAway := ?_ }
        · intro fd tui connected sends new
          cases connected
          exact acceptRun_of_new terminalFd sends new
        · intro notNew
          by_cases incomplete : ∃ serialized, Delivers stream serialized
          · obtain ⟨serialized, whole⟩ := incomplete
            obtain ⟨tui, info⟩ := isInfo terminalFd serialized rfl whole
            have sends : Sends parse stream tui := ⟨serialized, whole, info⟩
            have known : router.idInfoMap tui.id ≠ none := fun new =>
              notNew ⟨terminalFd, tui, rfl, sends, new⟩
            exact acceptRun_of_known terminalFd sends known
          · exact acceptRun_of_incomplete router parse terminalFd incomplete

end

/-- A packet that registers the terminal "a" with the passkey "b". -/
theorem router_survives_user_info :
    Survives ⟨fun _ => none⟩
      (fun payload => if payload = [10, 1, 97, 18, 1, 98] then
        some { id := [97], passkey := [98], uid := 0, gid := 0, fd := 0 } else none)
      (.connected 5) (SocketHandler.protoFrame [0, 8, 10, 1, 97, 18, 1, 98]) := by
  refine (router_survives_iff fun acceptErrno impossible => by cases impossible).mpr
    ⟨by simp, by simp, ?_⟩
  intro terminalFd serialized _ whole
  have sent : Delivers (SocketHandler.protoFrame [0, 8, 10, 1, 97, 18, 1, 98])
      [0, 8, 10, 1, 97, 18, 1, 98] :=
    { fits := by decide
      starts := List.prefix_refl _ }
  cases whole.unique sent
  exact ⟨_, 0, [10, 1, 97, 18, 1, 98], rfl, rfl⟩

/-- Eight zero bytes, a packet of one byte, or a connection that is reset before it is accepted
end the server. -/
theorem router_not_survives :
    ¬ Survives ⟨fun _ => none⟩ (fun _ => none) (.connected 5) [0, 0, 0, 0, 0, 0, 0, 0] ∧
      ¬ Survives ⟨fun _ => none⟩ (fun _ => none) (.connected 5) [1, 0, 0, 0, 0, 0, 0, 0, 65] ∧
      UnixSocketHandler.isTransientAcceptError .econnaborted = true ∧
      ¬ Survives ⟨fun _ => none⟩ (fun _ => none) (.failed .econnaborted) [] := by
  have fails : ∀ serialized stream : Bytes, Delivers stream serialized →
      ¬ Survives ⟨fun _ => none⟩ (fun _ => none) (.connected 5) stream := by
    intro serialized stream whole
    have other : ¬ ∃ tui, IsUserInfo (fun _ => none) serialized tui := by
      intro ⟨_, _, _, _, impossible⟩
      cases impossible
    obtain ⟨ending, rest, ends, uncaught⟩ := acceptRun_of_other ⟨fun _ => none⟩ 5 whole other
    exact not_survives_of_uncaught ends uncaught
  refine ⟨?_, ?_, rfl, ?_⟩
  · exact fails [] _ { fits := by decide, starts := ⟨[], rfl⟩ }
  · exact fails [65] _ { fits := by decide, starts := ⟨[], rfl⟩ }
  · exact not_survives_of_uncaught (Prod.eta _).symm (.aborted "Error")

end UserTerminalRouter

end EternalTerminal
