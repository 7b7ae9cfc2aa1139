/-
The numbers that an end of a session may be asked from.

An end announces on each new socket how many packets it has counted, and is sent those from that
number on.  Its peer may come to read the headers on the sockets that it has not recovered on, and
those that are announced later.
-/

import EternalTerminal.Base.BackupEntries
import EternalTerminal.Session.Simulation

namespace EternalTerminal

open Library
open SocketHandler

/-! ### Headers as bytes -/

section

variable {proto : Protobuf} {first second : Nat} {bytes : Bytes}

theorem frameLength_announcement (starts : announcement proto first <+: bytes) :
    SocketHandler.frameLength bytes =
      ((proto.sequenceHeader.serialize { sequenceNumber := Int32.ofInt first }).length : Int) := by
  obtain ⟨rest, whole⟩ := starts
  rw [← whole]
  refine frameLength_prefix (proto.sequenceHeader_fits _) List.prefix_rfl ?_
  rw [List.length_append, announcement, protoFrame_length]
  omega

theorem announcement_unique (one : announcement proto first <+: bytes)
    (other : announcement proto second <+: bytes) :
    announcement proto first = announcement proto second := by
  have lengths := (frameLength_announcement one).symm.trans (frameLength_announcement other)
  have sameLength : (announcement proto first).length = (announcement proto second).length := by
    rw [announcement, announcement, protoFrame_length, protoFrame_length]
    omega
  exact (List.prefix_of_prefix_length_le one other sameLength.le).eq_of_length sameLength

/-- Of the numbers with the same header only the least is below 2^31. -/
theorem announcement_le (same : announcement proto first = announcement proto second)
    (short : first < 2 ^ 31) : first ≤ second := by
  by_contra larger
  have bodies := congrArg (List.drop 8) same
  rw [announcement, announcement, protoFrame_body, protoFrame_body] at bodies
  have parsed := congrArg proto.sequenceHeader.parse bodies
  rw [proto.sequenceHeader.parse_serialize, proto.sequenceHeader.parse_serialize] at parsed
  have numbers := congrArg (fun header => header.sequenceNumber.toInt) (Option.some.inj parsed)
  simp only at numbers
  rw [toInt_ofInt short, toInt_ofInt (by omega)] at numbers
  omega

end

/-! ### The first socket -/

theorem Script.Leads.initial_iff {before after : Script} (leads : before.Leads after) :
    (∃ packets, after = .initial packets) ↔ ∃ packets, before = .initial packets := by
  cases leads with
  | refl => exact Iff.rfl
  | post =>
      constructor
      · intro posted
        obtain ⟨packets, shape⟩ := posted
        obtain ⟨fewer, was⟩ := Script.post_initial shape
        exact ⟨fewer, was⟩
      · intro initial
        obtain ⟨packets, rfl⟩ := initial
        exact ⟨packets + 1, rfl⟩
  | announce counted => simp
  | catchUp counted base upto => simp

def Ledger.FirstSocket (ledger : Ledger) : Prop :=
  ∀ side socket, (∃ packets, (ledger side).script socket = .initial packets) ↔ socket = 0

theorem Ledger.reachable_firstSocket {ledger : Ledger}
    (reached : ledgerSystem.Reachable ledger) : ledger.FirstSocket := by
  induction reached with
  | @start ledger initial =>
      have same : ledger = fun _ => Party.initial := initial
      intro side socket
      rw [same]
      by_cases isFirst : socket = 0
      · simp [Party.initial, isFirst]
      · simp [Party.initial, isFirst]
  | @next before after label reached _ step ih =>
      have consistent := Ledger.reachable_consistent reached
      obtain ⟨party, moves, same⟩ := step
      intro side socket
      rw [same]
      by_cases mover : side = label.1
      · rw [mover, Function.update_self]
        have leads := (moves.grows (consistent label.1)).script socket
        exact leads.initial_iff.trans (ih label.1 socket)
      · rw [Function.update_of_ne mover]
        exact ih side socket

/-! ### What may be asked for -/

namespace Session

/-- The side has yet to recover on the socket, or is at it. -/
def Unread (session : Session) (side : Side) (socket : Fd) : Prop :=
  session.used socket side = false ∨
    ∃ activity, (session.endpoint side).recovering = some (socket, activity)

/-- The other side has counted this many packets, or announced the number in a header that the
side may yet read. -/
def MayAsk (proto : Protobuf) (session : Session) (side : Side) (last : Nat) : Prop :=
  last = (session.endpoint side.other).connection.reader.sequenceNumber ∨
    ∃ socket, socket ≠ 0 ∧ session.Unread side socket ∧
      announcement proto last <+: (session.wires socket side.other).sent

/-- What a step of one side may change of what the two may be asked for. -/
structure Advances (proto : Protobuf) (before after : Session) (mover : Side) : Prop where
  peer : after.endpoint mover.other = before.endpoint mover.other
  used : ∀ socket, after.used socket mover.other = before.used socket mover.other
  unread : ∀ socket, after.Unread mover socket → before.Unread mover socket
  counted : (before.endpoint mover).connection.reader.sequenceNumber ≤
    (after.endpoint mover).connection.reader.sequenceNumber
  incoming : ∀ socket, (after.wires socket mover.other).sent =
    (before.wires socket mover.other).sent
  outgoing : ∀ socket last, socket ≠ 0 →
    announcement proto last <+: (after.wires socket mover).sent →
      announcement proto last <+: (before.wires socket mover).sent ∨
        announcement proto (before.endpoint mover).connection.reader.sequenceNumber =
          announcement proto last

section

variable {proto : Protobuf} {before after : Session} {mover : Side} {last : Nat}

theorem Advances.own (advances : Advances proto before after mover)
    (asks : after.MayAsk proto mover last) : before.MayAsk proto mover last := by
  rcases asks with present | ⟨socket, notFirst, unread, announced⟩
  · rw [advances.peer] at present
    exact Or.inl present
  · rw [advances.incoming] at announced
    exact Or.inr ⟨socket, notFirst, advances.unread socket unread, announced⟩

/-- The other side is asked for no more than it could be asked for before. -/
theorem Advances.other (advances : Advances proto before after mover)
    (short : (before.endpoint mover).connection.reader.sequenceNumber < 2 ^ 31)
    (asks : after.MayAsk proto mover.other last) :
    ∃ earlier, earlier ≤ last ∧ before.MayAsk proto mover.other earlier := by
  have present : before.MayAsk proto mover.other
      (before.endpoint mover).connection.reader.sequenceNumber := by
    left
    rw [Side.other_other]
  rcases asks with same | ⟨socket, notFirst, unread, announced⟩
  · rw [Side.other_other] at same
    rw [same]
    exact ⟨_, advances.counted, present⟩
  · rw [Side.other_other] at announced
    rcases advances.outgoing socket last notFirst announced with was | same
    · refine ⟨last, le_refl last, Or.inr ⟨socket, notFirst, ?_, ?_⟩⟩
      · unfold Unread at unread ⊢
        rw [advances.peer, advances.used] at unread
        exact unread
      · rw [Side.other_other]
        exact was
    · exact ⟨_, announcement_le same short, present⟩

theorem Advances.of_update {endpoint : Endpoint}
    (endpoints : after.endpoint = Function.update before.endpoint mover endpoint)
    (used : ∀ socket, after.used socket mover.other = before.used socket mover.other)
    (unused : ∀ socket, after.used socket mover = false → before.used socket mover = false)
    (recovers : ∀ socket activity, endpoint.recovering = some (socket, activity) →
      before.Unread mover socket)
    (counted : (before.endpoint mover).connection.reader.sequenceNumber ≤
      endpoint.connection.reader.sequenceNumber)
    (incoming : ∀ socket, (after.wires socket mover.other).sent =
      (before.wires socket mover.other).sent)
    (outgoing : ∀ socket last, socket ≠ 0 →
      announcement proto last <+: (after.wires socket mover).sent →
        announcement proto last <+: (before.wires socket mover).sent ∨
          announcement proto (before.endpoint mover).connection.reader.sequenceNumber =
            announcement proto last) : Advances proto before after mover where
  peer := by rw [endpoints, Function.update_of_ne mover.other_ne]
  used := used
  unread := by
    intro socket unread
    rcases unread with fresh | ⟨activity, recovering⟩
    · exact Or.inl (unused socket fresh)
    · rw [endpoints, Function.update_self] at recovering
      exact recovers socket activity recovering
  counted := by rw [endpoints, Function.update_self]; exact counted
  incoming := incoming
  outgoing := outgoing

end

end Session

namespace BackedWriter

def SameBackup (writer other : BackedWriter) : Prop :=
  other.backupBuffer = writer.backupBuffer ∧ other.sequenceNumber = writer.sequenceNumber

theorem SameBackup.entriesAfter {writer other : BackedWriter} (same : writer.SameBackup other)
    (last : Nat) : other.entriesAfter last = writer.entriesAfter last := by
  unfold BackedWriter.entriesAfter
  rw [same.1, same.2]

end BackedWriter

theorem Connection.closed_counts (connection : Connection) :
    connection.closed.reader.sequenceNumber = connection.reader.sequenceNumber ∧
      connection.writer.SameBackup connection.closed.writer := by
  unfold Connection.closed
  split
  · exact ⟨rfl, rfl, rfl⟩
  · exact ⟨rfl, rfl, rfl⟩

theorem Wires.update_sent (wires : Wires) (socket : Fd) (side : Side) {change : Stream → Stream}
    (same : ∀ stream, (change stream).sent = stream.sent) (other : Fd) (otherSide : Side) :
    (wires.update socket side change other otherSide).sent = (wires other otherSide).sent := by
  unfold Wires.update
  split
  · exact same _
  · rfl

section Ends

variable {box : SecretBox} {proto : Protobuf} {key : Key} {side : Side}
  {endpoint : Endpoint} {peerAccepted : List Packet} {own peer : Party}
  {outgoing incoming : Fd → Stream} {used : Fd → Bool} {socket : Fd} {count last : Nat}
  {activity : Activity (Bool × Connection)}

theorem Facing.attached_announced
    (facing : Facing box proto key side endpoint peerAccepted own peer outgoing incoming
      used)
    (later : ∀ packets, own.script socket ≠ .initial packets)
    (doingEq : own.doing = .attached socket) (log : List Packet) :
    ∃ counted, announcement proto counted <+: (own.script socket).bytes proto log := by
  obtain ⟨first, posted⟩ := facing.consistent.attached_posts socket doingEq
  cases shape : own.script socket with
  | silent =>
      rw [shape] at posted
      cases posted
  | hello counted =>
      rw [shape] at posted
      cases posted
  | initial packets => exact absurd shape (later packets)
  | exchange counted base upto packets =>
      obtain ⟨rest, whole⟩ := Script.bytes_announced proto log
        (show (Script.exchange counted base upto packets).announced = some counted from rfl)
      exact ⟨counted, by rw [whole]; exact List.prefix_append _ _⟩

theorem Facing.sends_header
    (facing : Facing box proto key side endpoint peerAccepted own peer outgoing incoming
      used)
    (recovering : endpoint.recovering = some (socket, activity))
    (positive : 0 < count) (bound : count ≤ activity.outgoing.length)
    (announced : announcement proto last <+:
      (outgoing socket).sent ++ activity.outgoing.take count) :
    announcement proto own.counted = announcement proto last := by
  cases facing.sends recovering (outgoing_ne_nil positive bound) with
  | announcing _ _ whole sentEq _ =>
      have chunk := Connection.announcing_outgoing socket
        (whole.trans facing.headerFrame_eq.symm)
      refine announcement_unique List.prefix_rfl (announced.trans ?_)
      rw [← whole, sentEq]
      exact (List.prefix_append_right_inj _).mpr ((List.take_prefix count _).trans chunk)
  | catchingUp _ _ _ _ sentEq _ =>
      rw [sentEq, List.append_assoc] at announced
      exact announcement_unique (List.prefix_append _ _) announced

end Ends

namespace Session

variable {box : SecretBox} {proto : Protobuf} {key : Key} {before after session : Session}
  {side mover : Side} {ledger : Ledger} {event : SessionEvent} {last : Nat}

/-! ### What every step may change -/

/-- A `write` sends nothing before the header. -/
theorem write_sent {packet : Packet} {accepted : Bool} {connection : Connection} {wires : Wires}
    (facing : Facing box proto key mover (before.endpoint mover)
      (before.endpoint mover.other).accepted (ledger mover) (ledger mover.other)
      (before.outgoing mover) (before.outgoing mover.other)
      (fun socket => before.used socket mover))
    (firstSocket : ledger.FirstSocket) (idle : (before.endpoint mover).recovering = none)
    (result : Connection.WriteResult box mover before.wires (before.endpoint mover).connection
      packet accepted connection wires) :
    connection.reader.sequenceNumber =
        (before.endpoint mover).connection.reader.sequenceNumber ∧
      (∀ socket, (wires socket mover.other).sent = (before.wires socket mover.other).sent) ∧
      ∀ socket last, socket ≠ 0 → announcement proto last <+: (wires socket mover).sent →
        announcement proto last <+: (before.wires socket mover).sent := by
  have sends {fd : Fd} (bytes : Bytes)
      (live : (before.endpoint mover).connection.writer.socketFd = some fd) (socket : Fd)
      (last : Nat) (notFirst : socket ≠ 0)
      (announced : announcement proto last <+:
        (before.wires.update fd mover (·.append bytes) socket mover).sent) :
      announcement proto last <+: (before.wires socket mover).sent := by
    by_cases same : socket = fd
    · rcases facing.doing.idle idle with ⟨_, dead⟩ | ⟨attached, doingEq, alive, sentEq, _⟩
      · cases live.symm.trans dead.writer
      · cases live.symm.trans alive.writer
        rw [same] at announced notFirst ⊢
        have later : ∀ packets, (ledger mover).script fd ≠ .initial packets :=
          fun packets shape => notFirst ((firstSocket mover fd).mp ⟨packets, shape⟩)
        obtain ⟨counted, header⟩ := facing.attached_announced later doingEq
          (sealedLog box key mover.nonceMSB (before.endpoint mover).accepted)
        rw [← sentEq] at header
        rw [Wires.update_same] at announced
        have unique := announcement_unique (header.trans (List.prefix_append _ _)) announced
        rw [← unique]
        exact header
    · rw [Wires.update_socket_ne _ _ _ _ same] at announced
      exact announced
  cases result with
  | skipped => exact ⟨rfl, fun _ => rfl, fun _ _ _ announced => announced⟩
  | buffered _ _ => exact ⟨rfl, fun _ => rfl, fun _ _ _ announced => announced⟩
  | written live _ =>
      exact ⟨rfl, fun socket => by rw [Wires.update_side_ne _ _ _ _ mover.other_ne],
        sends _ live⟩
  | severed count live _ =>
      exact ⟨(Connection.closed_counts _).1,
        fun socket => by rw [Wires.update_side_ne _ _ _ _ mover.other_ne], sends _ live⟩

/-- A `read` sends nothing, and may count one packet. -/
theorem read_counts {packet : Option Packet} {connection : Connection} {wires : Wires}
    (facing : Facing box proto key mover (before.endpoint mover)
      (before.endpoint mover.other).accepted (ledger mover) (ledger mover.other)
      (before.outgoing mover) (before.outgoing mover.other)
      (fun socket => before.used socket mover))
    (idle : (before.endpoint mover).recovering = none)
    (run : Program.Run (Wires.answers mover) before.wires
      ((before.endpoint mover).connection.read box) (.returned (packet, connection)) wires) :
    (before.endpoint mover).connection.reader.sequenceNumber ≤
        connection.reader.sequenceNumber ∧
      (before.endpoint mover).connection.writer.SameBackup connection.writer ∧
      ∀ socket side, (wires socket side).sent = (before.wires socket side).sent := by
  have taken (fd : Fd) (count : Nat) :=
    before.wires.update_sent fd mover.other
      (fun stream => show (stream.take count).sent = stream.sent from rfl)
  rcases facing.doing.idle idle with ⟨_, dead⟩ | ⟨socket, doingEq, live, _, consumed, unfinished⟩
  · rw [Connection.read_dead dead] at run
    obtain ⟨same, rfl⟩ := Program.run_done_iff.mp run
    cases same
    exact ⟨le_refl _, ⟨rfl, rfl⟩, fun _ _ => rfl⟩
  · obtain ⟨_, _, _, _, _, _, _, same, result⟩ :=
      facing.read_live doingEq live consumed unfinished run
    cases same
    cases result with
    | recovered _ _ _ => exact ⟨le_refl _, ⟨rfl, rfl⟩, fun _ _ => rfl⟩
    | severed _ _ => exact ⟨le_refl _, ⟨rfl, rfl⟩, taken _ _⟩
    | partly _ _ _ => exact ⟨le_refl _, ⟨rfl, rfl⟩, taken _ _⟩
    | packet _ _ _ _ _ => exact ⟨Nat.le_succ _, ⟨rfl, rfl⟩, taken _ _⟩

theorem finish_counts {socket : Fd} {activity : Activity (Bool × Connection)} {ok : Bool}
    {connection : Connection}
    (facing : Facing box proto key mover (before.endpoint mover)
      (before.endpoint mover.other).accepted (ledger mover) (ledger mover.other)
      (before.outgoing mover) (before.outgoing mover.other)
      (fun socket => before.used socket mover))
    (recovering : (before.endpoint mover).recovering = some (socket, activity))
    (done : activity.program = .done (ok, connection)) :
    (before.endpoint mover).connection.reader.sequenceNumber ≤
        connection.reader.sequenceNumber ∧
      (before.endpoint mover).connection.writer.SameBackup connection.writer := by
  obtain ⟨stage, rfl, _⟩ := facing.stage recovering
  rcases Connection.recoverAt_done done with ⟨_, _, _, same⟩ | ⟨_, _, _, same⟩
  · rw [same]
    exact ⟨Nat.le_add_right _ _, rfl, rfl⟩
  · rw [same]
    exact ⟨le_refl _, rfl, rfl⟩

theorem announced_of_sent {wires : Wires}
    (sent : ∀ socket side, (wires socket side).sent = (before.wires socket side).sent) :
    (∀ socket, (wires socket mover.other).sent = (before.wires socket mover.other).sent) ∧
      ∀ socket last, socket ≠ 0 → announcement proto last <+: (wires socket mover).sent →
        announcement proto last <+: (before.wires socket mover).sent ∨
          announcement proto (before.endpoint mover).connection.reader.sequenceNumber =
            announcement proto last := by
  refine ⟨fun socket => sent socket mover.other, fun socket last _ announced => ?_⟩
  rw [sent] at announced
  exact Or.inl announced

theorem Step.advances (step : Session.Step box proto before mover event after)
    (refines : before.Refines box proto key ledger) (consistent : Ledger.Consistent ledger)
    (firstSocket : ledger.FirstSocket) : Advances proto before after mover := by
  have facing := refines.facing consistent mover
  have restaged {socket : Fd} {activity changed : Activity (Bool × Connection)}
      (recovering : (before.endpoint mover).recovering = some (socket, activity)) (other : Fd)
      (now : Activity (Bool × Connection))
      (same : some (socket, changed) = some (other, now)) : before.Unread mover other := by
    cases same
    exact Or.inr ⟨activity, recovering⟩
  have idles (idle : (before.endpoint mover).recovering = none) (socket : Fd)
      (activity : Activity (Bool × Connection))
      (recovering : (before.endpoint mover).recovering = some (socket, activity)) :
      before.Unread mover socket := by
    rw [idle] at recovering
    cases recovering
  have keeps := @announced_of_sent proto before mover before.wires (fun _ _ => rfl)
  cases step with
  | write idle run =>
      obtain ⟨counted, incoming, outgoing⟩ :=
        write_sent facing firstSocket idle (Connection.write_run run)
      exact .of_update rfl (fun _ => rfl) (fun _ fresh => fresh) (idles idle) counted.ge incoming
        (fun socket last notFirst announced => Or.inl (outgoing socket last notFirst announced))
  | read idle run =>
      obtain ⟨counted, _, sent⟩ := read_counts facing idle run
      obtain ⟨incoming, outgoing⟩ := announced_of_sent sent
      exact .of_update rfl (fun _ => rfl) (fun _ fresh => fresh) (idles idle) counted incoming
        outgoing
  | closeSocket idle run =>
      obtain ⟨rfl, same⟩ := Connection.closeSocket_run run
      cases same
      exact .of_update rfl (fun _ => rfl) (fun _ fresh => fresh) (idles idle)
        (Connection.closed_counts _).1.ge keeps.1 keeps.2
  | @recover socket idle noSocket unused =>
      refine .of_update rfl ?_ ?_ ?_ (le_refl _) keeps.1 keeps.2
      · intro other
        simp [mover.other_ne]
      · intro other fresh
        simp only [Bool.or_eq_false_iff] at fresh
        exact fresh.1
      · intro other activity same
        cases same
        exact Or.inl unused
  | @send socket activity count recovering positive bound =>
      have outgoing (other : Fd) (last : Nat) (announced : announcement proto last <+:
          (before.wires.update socket mover (·.append (activity.outgoing.take count)) other
            mover).sent) :
          announcement proto last <+: (before.wires other mover).sent ∨
            announcement proto (before.endpoint mover).connection.reader.sequenceNumber =
              announcement proto last := by
        by_cases same : other = socket
        · rw [same, Wires.update_same] at announced
          right
          rw [facing.counted]
          exact facing.sends_header recovering positive bound announced
        · rw [Wires.update_socket_ne _ _ _ _ same] at announced
          exact Or.inl announced
      have incoming (other : Fd) : (before.wires.update socket mover
          (·.append (activity.outgoing.take count)) other mover.other).sent =
            (before.wires other mover.other).sent := by
        rw [Wires.update_side_ne _ _ _ _ mover.other_ne]
      exact .of_update rfl (fun _ => rfl) (fun _ fresh => fresh) (restaged recovering)
        (le_refl _) incoming (fun other last _ announced => outgoing other last announced)
  | @receive socket activity count recovering positive bound arrived =>
      obtain ⟨incoming, outgoing⟩ := announced_of_sent
        (before.wires.update_sent socket mover.other
          (fun stream => show (stream.take count).sent = stream.sent from rfl))
      exact .of_update rfl (fun _ => rfl) (fun _ fresh => fresh) (restaged recovering) (le_refl _)
        incoming outgoing
  | fail recovering =>
      exact .of_update rfl (fun _ => rfl) (fun _ fresh => fresh) (restaged recovering) (le_refl _)
        keeps.1 keeps.2
  | close recovering =>
      exact .of_update rfl (fun _ => rfl) (fun _ fresh => fresh) (restaged recovering) (le_refl _)
        keeps.1 keeps.2
  | finish recovering done =>
      obtain ⟨counted, _⟩ := finish_counts facing recovering done
      exact .of_update rfl (fun _ => rfl) (fun _ fresh => fresh) (fun _ _ => nofun) counted keeps.1
        keeps.2
  | @lose socket limit =>
      obtain ⟨incoming, outgoing⟩ := announced_of_sent
        (before.wires.update_sent socket mover
          (fun stream => show (stream.lose limit).sent = stream.sent from rfl))
      refine .of_update (Function.update_eq_self mover before.endpoint).symm (fun _ => rfl)
        (fun _ fresh => fresh) ?_ (le_refl _) incoming outgoing
      exact fun other activity recovering => Or.inr ⟨activity, recovering⟩

end Session

end EternalTerminal
