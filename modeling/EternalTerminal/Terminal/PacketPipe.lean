/-
One direction of the pipe between the server and a terminal: what `writePacket` and `readPacket`
make of it, whatever the chunks.
-/

import EternalTerminal.Base.ProtoFrame
import EternalTerminal.Terminal.RouterAccept

namespace EternalTerminal

open Library
open SocketHandler

/-! ### A packet as a message -/

/-- `readPacket` frames its packets as `readProto` frames messages; the empty one is its false. -/
def packetMessage : ProtoMessage (Option Packet) where
  serialize message := (message.map Packet.serialize).getD []
  parse
    | [] => some none
    | encrypted :: header :: payload =>
        some (some { encrypted := encrypted != 0, header := header, payload := payload })
    | _ => none
  default := none
  parse_serialize := by
    intro message
    cases message with
    | none => rfl
    | some packet =>
        obtain ⟨encrypted, header, payload⟩ := packet
        cases encrypted with
        | false => rfl
        | true => rfl
  parse_nil := rfl

def packetFrame (packet : Packet) : Bytes := protoFrame packet.serialize

/-! ### The pipe -/

/-- `sent` are the packets of the `writePacket` calls, `outgoing` is what the last of them has
yet to write, `got` what `readPacket` has of a packet, and `received` what it has returned. -/
structure PacketPipe where
  sent : List Packet
  outgoing : Bytes
  inFlight : Bytes
  got : Bytes
  received : List Packet
  deriving DecidableEq

/-- How the `readPacket` under way goes on. -/
inductive PipeRead where
  | waits
  | empty
  | packet (packet : Packet)
  | throws
  deriving DecidableEq

namespace PacketPipe

def empty : PacketPipe :=
  { sent := []
    outgoing := []
    inFlight := []
    got := []
    received := [] }

/-- `writePacket` aborts above this size. -/
def Fits (packet : Packet) : Prop := packet.serialize.length ≤ MAX_PROTO_BYTES

def writePacket (pipe : PacketPipe) (packet : Packet) : PacketPipe :=
  { pipe with
    sent := pipe.sent ++ [packet]
    outgoing := pipe.outgoing ++ packetFrame packet }

def write (pipe : PacketPipe) (count : Nat) : PacketPipe :=
  { pipe with
    outgoing := pipe.outgoing.drop count
    inFlight := pipe.inFlight ++ pipe.outgoing.take count }

/-- What of the `writeAllOrThrow` under way is out.  `writePacket` makes one for the eight bytes of
the length and one for the rest. -/
def resent (pipe : PacketPipe) : Bytes :=
  match pipe.sent.getLast? with
  | none => []
  | some packet =>
      let written := (packetFrame packet).length - pipe.outgoing.length
      let start := if written < 8 then 0 else 8
      ((packetFrame packet).drop start).take (written - start)

/-- A `write` that gives up is made again of the whole buffer. -/
def giveUp (pipe : PacketPipe) : PacketPipe :=
  { pipe with outgoing := pipe.resent ++ pipe.outgoing }

/-- How many bytes `readPacket` asks for. -/
def asks (pipe : PacketPipe) : Nat :=
  match frameStatus packetMessage pipe.got with
  | .more count => count
  | _ => 0

def readResult (pipe : PacketPipe) (count : Nat) : PipeRead :=
  match frameStatus packetMessage (pipe.got ++ pipe.inFlight.take count) with
  | .more _ => .waits
  | .message none => .empty
  | .message (some packet) => .packet packet
  | .rejected => .throws

def read (pipe : PacketPipe) (count : Nat) : PacketPipe :=
  let rest := { pipe with inFlight := pipe.inFlight.drop count }
  match pipe.readResult count with
  | .waits => { rest with got := pipe.got ++ pipe.inFlight.take count }
  | .packet packet => { rest with got := [], received := pipe.received ++ [packet] }
  | _ => { rest with got := [] }

section

variable (pipe : PacketPipe) (packet : Packet) (count : Nat)

@[simp] theorem writePacket_sent : (pipe.writePacket packet).sent = pipe.sent ++ [packet] := rfl

@[simp] theorem writePacket_received : (pipe.writePacket packet).received = pipe.received := rfl

@[simp] theorem read_sent : (pipe.read count).sent = pipe.sent := by
  unfold read
  cases pipe.readResult count <;> rfl

end

/-- What has left the writer, in order, is what the reader has, and then the frames of what it
has yet to return. -/
structure Intact (pipe : PacketPipe) : Prop where
  fits : ∀ packet ∈ pipe.sent, Fits packet
  stream : ∃ rest, pipe.sent = pipe.received ++ rest ∧
    pipe.got ++ pipe.inFlight ++ pipe.outgoing = rest.flatMap packetFrame

variable {pipe : PacketPipe} {packet : Packet} {count : Nat}

theorem giveUp_unsent (unsent : pipe.resent = []) : pipe.giveUp = pipe := by
  rw [giveUp, unsent, List.nil_append]

theorem empty_intact : empty.Intact where
  fits := by
    intro packet member
    cases member
  stream := ⟨[], rfl, rfl⟩

theorem Intact.received_prefix (intact : pipe.Intact) : pipe.received <+: pipe.sent := by
  obtain ⟨rest, whole, _⟩ := intact.stream
  rw [whole]
  exact List.prefix_append _ _

theorem Intact.writePacket (intact : pipe.Intact) (fits : Fits packet) :
    (pipe.writePacket packet).Intact := by
  obtain ⟨rest, whole, bytes⟩ := intact.stream
  constructor
  · intro other member
    rcases List.mem_append.mp member with earlier | newest
    · exact intact.fits other earlier
    · rw [List.mem_singleton.mp newest]
      exact fits
  · refine ⟨rest ++ [packet], ?_, ?_⟩
    · rw [writePacket_sent, whole, List.append_assoc, writePacket_received]
    · rw [List.flatMap_append, List.flatMap_singleton, ← bytes]
      simp only [PacketPipe.writePacket, List.append_assoc]

theorem Intact.write (intact : pipe.Intact) (count : Nat) : (pipe.write count).Intact := by
  obtain ⟨rest, whole, bytes⟩ := intact.stream
  refine ⟨intact.fits, rest, whole, ?_⟩
  rw [← bytes]
  simp only [PacketPipe.write, List.append_assoc, List.take_append_drop]

/-- What `readPacket` makes of a chunk. -/
inductive Reads (pipe : PacketPipe) (count : Nat) : Prop
  | waits : pipe.readResult count = .waits →
      (pipe.read count).received = pipe.received → Reads pipe count
  | packet (packet : Packet) : pipe.readResult count = .packet packet →
      (pipe.read count).received = pipe.received ++ [packet] →
      pipe.got ++ pipe.inFlight.take count = packetFrame packet → Reads pipe count

theorem Intact.read (intact : pipe.Intact) (positive : 0 < count) (asked : count ≤ pipe.asks)
    (arrived : count ≤ pipe.inFlight.length) :
    pipe.Reads count ∧ (pipe.read count).Intact := by
  obtain ⟨rest, whole, bytes⟩ := intact.stream
  obtain ⟨wanted, status, bound⟩ : ∃ wanted,
      frameStatus packetMessage pipe.got = .more wanted ∧ count ≤ wanted := by
    unfold asks at asked
    split at asked
    · exact ⟨_, by assumption, asked⟩
    · omega
  cases rest with
  | nil =>
      have lengths := congrArg List.length bytes
      simp only [List.length_append, List.flatMap_nil, List.length_nil] at lengths
      omega
  | cons packet others =>
      have isSent : packet ∈ pipe.sent := by
        rw [whole]
        exact List.mem_append_right _ List.mem_cons_self
      have chunked : pipe.got ++ pipe.inFlight.take count ++
          (pipe.inFlight.drop count ++ pipe.outgoing) =
            packetFrame packet ++ others.flatMap packetFrame := by
        rw [← List.flatMap_cons, ← bytes, List.append_assoc, ← List.append_assoc (List.take _ _),
          List.take_append_drop, List.append_assoc]
      have short : (pipe.inFlight.take count).length ≤ wanted :=
        (List.length_take_le count pipe.inFlight).trans bound
      have frameOf : packetFrame packet =
          protoFrame (packetMessage.serialize (some packet)) := rfl
      have fits : (packetMessage.serialize (some packet)).length ≤ MAX_PROTO_BYTES :=
        intact.fits packet isSent
      have starts := List.prefix_append (pipe.got ++ pipe.inFlight.take count)
        (pipe.inFlight.drop count ++ pipe.outgoing)
      rw [chunked, frameOf] at starts
      rcases frameStatus_chunk fits starts status short with
        ⟨isFrame, completes⟩ | ⟨left, more⟩
      · have result : pipe.readResult count = .packet packet := by
          unfold readResult
          rw [completes]
        have now : pipe.read count =
            { pipe with
              inFlight := pipe.inFlight.drop count
              got := []
              received := pipe.received ++ [packet] } := by
          unfold PacketPipe.read
          rw [result]
        refine ⟨.packet packet result (by rw [now]) isFrame, ?_⟩
        rw [now]
        refine ⟨intact.fits, others, ?_, ?_⟩
        · rw [whole, List.append_assoc, List.singleton_append]
        · rw [← frameOf] at isFrame
          rw [isFrame] at chunked
          exact List.append_cancel_left chunked
      · have result : pipe.readResult count = .waits := by
          unfold readResult
          rw [more]
        have now : pipe.read count =
            { pipe with
              inFlight := pipe.inFlight.drop count
              got := pipe.got ++ pipe.inFlight.take count } := by
          unfold PacketPipe.read
          rw [result]
        refine ⟨.waits result (by rw [now]), ?_⟩
        rw [now]
        refine ⟨intact.fits, packet :: others, whole, ?_⟩
        rw [List.flatMap_cons, ← chunked]
        simp only [List.append_assoc]

end PacketPipe

end EternalTerminal
