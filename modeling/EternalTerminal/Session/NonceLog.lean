/-
The `encrypt` calls of a session.

The writer of an end makes one for each packet that it accepts, and keeps its handler through
losses and recoveries.  So the nonce of a packet is given by its side and by how many packets
were accepted before it.
-/

import EternalTerminal.Base.NonceLockstep
import EternalTerminal.Session.ConnectionRuns
import EternalTerminal.Session.Session
import EternalTerminal.Session.Settled

namespace EternalTerminal

open Library

/-! ### The handler of a writer -/

namespace Connection

variable {proto : Protobuf} {box : SecretBox} {connection : Connection} {fd : Fd}

def SameHandler (connection other : Connection) : Prop :=
  other.writer.cryptoHandler = connection.writer.cryptoHandler

theorem closed_sameHandler (connection : Connection) :
    connection.SameHandler connection.closed := by
  unfold closed
  split
  · rfl
  · rfl

theorem read_sameHandler (box : SecretBox) (connection : Connection) :
    (connection.read box).Returns fun result => connection.SameHandler result.2 := by
  refine (Program.Returns.always _).bind fun result _ => ?_
  obtain ⟨result, reader⟩ := result
  cases result with
  | error errno =>
      refine (closeSocket_returns _).bind fun after closed => ?_
      rw [closed]
      exact .done (closed_sameHandler { connection with reader := reader })
  | incomplete => exact .done rfl
  | packet packet => exact .done rfl

theorem recover_sameHandler (proto : Protobuf) (connection : Connection) (fd : Fd) :
    (connection.recover proto fd).Returns fun result => connection.SameHandler result.2 := by
  refine (recover_returns proto connection fd).mono ?_
  intro result same
  rcases same with rfl | ⟨entries, rfl⟩
  · rfl
  · rfl

end Connection

namespace Activity

variable {β : Type} {post : β → Prop} {activity : Activity β}

def Returns (post : β → Prop) (activity : Activity β) : Prop := activity.program.Returns post

theorem Returns.of_perform {operation : sockets.Operation}
    {next : sockets.Answer operation → Action β} {progress : Bytes}
    (returns : Returns post ⟨.perform operation next, progress⟩)
    (answer : sockets.Answer operation) : (begin (next answer)).Returns post := by
  cases returns with
  | perform all => exact all answer

theorem Returns.send (returns : activity.Returns post) (count : Nat) :
    (activity.send count).Returns post := by
  unfold Activity.send
  split
  · dsimp only
    split
    · exact returns.of_perform _
    · cases returns with
      | perform all => exact .perform all
  · exact returns

theorem Returns.receive (returns : activity.Returns post) (chunk : Bytes) :
    (activity.receive chunk).Returns post := by
  unfold Activity.receive
  split
  · dsimp only
    split
    · exact returns.of_perform _
    · cases returns with
      | perform all => exact .perform all
  · exact returns

theorem Returns.fail (returns : activity.Returns post) (what : String) :
    (activity.fail what).Returns post := by
  unfold Activity.fail
  split
  · exact returns.of_perform _
  · exact returns.of_perform _
  · exact returns

theorem Returns.closed (returns : activity.Returns post) : activity.closed.Returns post := by
  unfold Activity.closed
  split
  · exact returns.of_perform _
  · exact returns

end Activity

/-- An end that has accepted `accepted` packets writes with the handler after as many calls, and
a recovery will leave it. -/
structure Endpoint.InStep (key : Key) (side : Side) (endpoint : Endpoint) : Prop where
  handler : endpoint.connection.writer.cryptoHandler =
    CryptoHandler.after key side.nonceMSB endpoint.accepted.length
  recovering : ∀ socket activity, endpoint.recovering = some (socket, activity) →
    activity.Returns fun result => endpoint.connection.SameHandler result.2

namespace Session

variable {box : SecretBox} {proto : Protobuf} {key : Key} {before after session : Session}
  {side mover : Side} {event : SessionEvent}

/-- What a `write` has made of the handler, and of the packet if it was accepted. -/
theorem write_handler {packet : Packet} {accepted : Bool} {connection : Connection}
    {wires : Wires} {endpoint : Endpoint} (inStep : endpoint.InStep key side)
    (result : Connection.WriteResult box side before.wires endpoint.connection packet accepted
      connection wires) :
    connection.writer.cryptoHandler = CryptoHandler.after key side.nonceMSB
      (endpoint.accepted ++ if accepted then [packet] else []).length := by
  have next : (endpoint.connection.accepting box packet).writer.cryptoHandler =
      CryptoHandler.after key side.nonceMSB (endpoint.accepted ++ [packet]).length := by
    unfold Connection.accepting BackedWriter.accept
    rw [BackedWriter.backup_cryptoHandler, inStep.handler, List.length_append,
      List.length_singleton, CryptoHandler.after_incrementNonce]
  cases result with
  | skipped =>
      rw [if_neg Bool.false_ne_true, List.append_nil]
      exact inStep.handler
  | buffered _ _ => exact next
  | written _ _ => exact next
  | severed count _ _ => exact (Connection.closed_sameHandler _).trans next

theorem Step.inStep (step : Session.Step box proto before mover event after)
    (inStep : (before.endpoint mover).InStep key mover) :
    (after.endpoint mover).InStep key mover := by
  have goesOn {endpoint : Endpoint} (now : endpoint.InStep key mover) :
      (Function.update before.endpoint mover endpoint mover).InStep key mover := by
    rw [Function.update_self]
    exact now
  have later {socket : Fd} {activity : Activity (Bool × Connection)}
      (returns : activity.Returns fun result =>
        (before.endpoint mover).connection.SameHandler result.2) :
      Endpoint.InStep key mover
        { before.endpoint mover with recovering := some (socket, activity) } := by
    refine ⟨inStep.handler, ?_⟩
    intro other now isNow
    cases isNow
    exact returns
  cases step with
  | write idle run =>
      refine goesOn ⟨write_handler inStep (Connection.write_run run), ?_⟩
      intro socket activity recovering
      cases idle.symm.trans recovering
  | read idle run =>
      have same := (Connection.read_sameHandler box _).of_run run
      refine goesOn ⟨same.trans inStep.handler, ?_⟩
      intro socket activity recovering
      cases idle.symm.trans recovering
  | closeSocket idle run =>
      obtain ⟨_, closed⟩ := Connection.closeSocket_run run
      cases closed
      refine goesOn ⟨(Connection.closed_sameHandler _).trans inStep.handler, ?_⟩
      intro socket activity recovering
      cases idle.symm.trans recovering
  | recover _ _ _ => exact goesOn (later (Connection.recover_sameHandler proto _ _))
  | send at_ _ _ => exact goesOn (later ((inStep.recovering _ _ at_).send _))
  | receive at_ _ _ _ => exact goesOn (later ((inStep.recovering _ _ at_).receive _))
  | fail at_ => exact goesOn (later ((inStep.recovering _ _ at_).fail _))
  | close at_ => exact goesOn (later (inStep.recovering _ _ at_).closed)
  | finish at_ done =>
      have returns := inStep.recovering _ _ at_
      unfold Activity.Returns at returns
      rw [done] at returns
      cases returns with
      | done same =>
          refine goesOn ⟨same.trans inStep.handler, ?_⟩
          intro socket activity recovering
          cases recovering
  | lose => exact inStep

theorem initial_inStep (key : Key) (side : Side) :
    ((Session.initial key).endpoint side).InStep key side :=
  ⟨rfl, nofun⟩

theorem Step.inStep_both (step : Session.Step box proto before mover event after)
    (inStep : ∀ side, (before.endpoint side).InStep key side) (side : Side) :
    (after.endpoint side).InStep key side := by
  rcases side.eq_or_eq_other mover with rfl | rfl
  · exact step.inStep (inStep side)
  · rw [step.peer]
    exact inStep mover.other

end Session

/-! ### The calls -/

/-- A call of `crypto_secretbox_easy`. -/
structure EncryptCall where
  key : Key
  nonce : Nonce
  plaintext : Bytes

/-- The call with which `encrypt` seals a packet. -/
def CryptoHandler.encryptCall (handler : CryptoHandler) (packet : Packet) : EncryptCall :=
  { key := handler.key
    nonce := handler.incrementNonce.nonce
    plaintext := packet.payload }

/-- No two calls of one key and one nonce have different plaintexts. -/
def NoncesUnique (calls : List EncryptCall) : Prop :=
  ∀ first ∈ calls, ∀ second ∈ calls, first.key = second.key → first.nonce = second.nonce →
    first.plaintext = second.plaintext

/-- The calls for what an end has accepted in a step, by the handler that it had. -/
def Endpoint.encrypted (before after : Endpoint) : List EncryptCall :=
  (after.accepted.drop before.accepted.length).map
    before.connection.writer.cryptoHandler.encryptCall

namespace Session

def encrypted (before after : Session) : List EncryptCall :=
  (before.endpoint .client).encrypted (after.endpoint .client) ++
    (before.endpoint .server).encrypted (after.endpoint .server)

/-- The call for the packet that a side has accepted after `index` others. -/
def packetCall (key : Key) (side : Side) (index : Nat) (packet : Packet) : EncryptCall :=
  { key := key
    nonce := Nonce.after side.nonceMSB (index + 1)
    plaintext := packet.payload }

/-- The call is for one of the packets that have been accepted. -/
def Encrypts (session : Session) (key : Key) (call : EncryptCall) : Prop :=
  ∃ side index packet, (session.endpoint side).accepted[index]? = some packet ∧
    call = packetCall key side index packet

variable {box : SecretBox} {proto : Protobuf} {key : Key} {before after session : Session}
  {side mover : Side} {event : SessionEvent} {call : EncryptCall}

theorem Step.accepted (step : Session.Step box proto before mover event after) :
    (after.endpoint mover).accepted = (before.endpoint mover).accepted ∨
      ∃ packet, (after.endpoint mover).accepted =
        (before.endpoint mover).accepted ++ [packet] := by
  cases step with
  | @write packet accepted connection wires idle run =>
      simp only [setEndpoint, Function.update_self]
      cases accepted with
      | true => exact Or.inr ⟨packet, rfl⟩
      | false => exact Or.inl (List.append_nil _)
  | lose => exact Or.inl rfl
  | read | closeSocket | recover | send | receive | fail | close | finish =>
      left
      simp only [setEndpoint, Function.update_self]

theorem mem_encrypted : call ∈ before.encrypted after ↔
    ∃ side, call ∈ (before.endpoint side).encrypted (after.endpoint side) := by
  unfold encrypted
  rw [List.mem_append]
  constructor
  · intro either
    rcases either with client | server
    · exact ⟨.client, client⟩
    · exact ⟨.server, server⟩
  · intro some
    obtain ⟨side, member⟩ := some
    cases side with
    | client => exact Or.inl member
    | server => exact Or.inr member

theorem Step.encrypts (step : Session.Step box proto before mover event after)
    (inStep : (before.endpoint mover).InStep key mover) :
    after.Encrypts key call ↔ before.Encrypts key call ∨ call ∈ before.encrypted after := by
  have quiet {side : Side} (same : (after.endpoint side).accepted =
      (before.endpoint side).accepted) :
      (before.endpoint side).encrypted (after.endpoint side) = [] := by
    unfold Endpoint.encrypted
    rw [same, List.drop_length, List.map_nil]
  have others {side : Side} (other : side ≠ mover) :
      (after.endpoint side).accepted = (before.endpoint side).accepted := by
    rw [(side.eq_or_eq_other mover).resolve_left other, step.peer]
  rw [mem_encrypted]
  rcases step.accepted with same | ⟨packet, grown⟩
  · have all (side : Side) : (after.endpoint side).accepted =
        (before.endpoint side).accepted := by
      by_cases own : side = mover
      · rw [own]
        exact same
      · exact others own
    simp only [Encrypts, all, quiet (all _), List.not_mem_nil, exists_false, or_false]
  · have new : (before.endpoint mover).encrypted (after.endpoint mover) =
        [packetCall key mover (before.endpoint mover).accepted.length packet] := by
      unfold Endpoint.encrypted
      rw [grown, List.drop_left, inStep.handler]
      rfl
    constructor
    · intro encrypts
      obtain ⟨side, index, other, isAccepted, isCall⟩ := encrypts
      by_cases own : side = mover
      · subst own
        rw [grown] at isAccepted
        by_cases earlier : index < (before.endpoint side).accepted.length
        · rw [List.getElem?_append_left earlier] at isAccepted
          exact Or.inl ⟨side, index, other, isAccepted, isCall⟩
        · have last : index = (before.endpoint side).accepted.length := by
            have bound := (List.getElem?_eq_some_iff.mp isAccepted).1
            rw [List.length_append, List.length_singleton] at bound
            omega
          rw [last, List.getElem?_concat_length] at isAccepted
          cases isAccepted
          refine Or.inr ⟨side, ?_⟩
          rw [new, isCall, last]
          exact List.mem_singleton_self _
      · rw [others own] at isAccepted
        exact Or.inl ⟨side, index, other, isAccepted, isCall⟩
    · intro either
      rcases either with ⟨side, index, other, isAccepted, isCall⟩ | ⟨side, member⟩
      · refine ⟨side, index, other, ?_, isCall⟩
        by_cases own : side = mover
        · rw [own] at isAccepted ⊢
          rw [grown, List.getElem?_append_left (List.getElem?_eq_some_iff.mp isAccepted).1]
          exact isAccepted
        · rw [others own]
          exact isAccepted
      · by_cases own : side = mover
        · rw [own, new] at member
          refine ⟨mover, _, packet, ?_, List.mem_singleton.mp member⟩
          rw [grown, List.getElem?_concat_length]
        · rw [quiet (others own)] at member
          cases member

theorem nonce_value (side : Side) {count : Nat} (short : count ≤ 2 ^ 184) :
    (Nonce.after side.nonceMSB count).value = 2 ^ 184 * side.nonceMSB.toNat + count := by
  apply Nonce.after_value_of_lt
  have byte : side.nonceMSB.toNat ≤ 1 := by
    cases side with
    | client => decide
    | server => decide
  norm_num at short ⊢
  omega

/-- Up to 2^184 packets a direction, a nonce is that of one packet.  The last call of the client
carries into the byte of the server, whose first call is one further. -/
theorem packetCall_injective {first second : Packet} {firstSide secondSide : Side}
    {firstIndex secondIndex : Nat} (firstShort : firstIndex < 2 ^ 184)
    (secondShort : secondIndex < 2 ^ 184)
    (same : (packetCall key firstSide firstIndex first).nonce =
      (packetCall key secondSide secondIndex second).nonce) :
    firstSide = secondSide ∧ firstIndex = secondIndex := by
  have values := congrArg Nonce.value same
  unfold packetCall at values
  dsimp only at values
  rw [nonce_value firstSide (by omega), nonce_value secondSide (by omega)] at values
  have client : Side.client.nonceMSB.toNat = 0 := rfl
  have server : Side.server.nonceMSB.toNat = 1 := rfl
  cases firstSide <;> cases secondSide
  · exact ⟨rfl, by omega⟩
  · omega
  · omega
  · exact ⟨rfl, by omega⟩

/-- No more packets a direction than the counter of a nonce has values. -/
def Short (session : Session) : Prop :=
  ∀ side, (session.endpoint side).accepted.length ≤ 2 ^ 184

theorem Short.unique {first second : EncryptCall} (short : session.Short)
    (isFirst : session.Encrypts key first) (isSecond : session.Encrypts key second)
    (same : first.nonce = second.nonce) : first.plaintext = second.plaintext := by
  obtain ⟨firstSide, firstIndex, packet, accepted, rfl⟩ := isFirst
  obtain ⟨secondSide, secondIndex, other, otherAccepted, rfl⟩ := isSecond
  have firstBound := (List.getElem?_eq_some_iff.mp accepted).1
  have secondBound := (List.getElem?_eq_some_iff.mp otherAccepted).1
  have firstShort := short firstSide
  have secondShort := short secondSide
  obtain ⟨rfl, rfl⟩ := packetCall_injective (by omega) (by omega) same
  rw [accepted] at otherAccepted
  rw [Option.some.inj otherAccepted]

theorem initial_encrypts (key : Key) (call : EncryptCall) :
    ¬ (Session.initial key).Encrypts key call := by
  intro encrypts
  obtain ⟨side, index, packet, accepted, _⟩ := encrypts
  cases accepted

end Session

def encryptionSystem (box : SecretBox) (proto : Protobuf) (key : Key) :
    TransitionSystem (Session × List EncryptCall) (Side × SessionEvent) :=
  (sessionSystem box proto key).recording Session.encrypted

structure Session.Logged (key : Key) (state : Session × List EncryptCall) : Prop where
  inStep : ∀ side, (state.1.endpoint side).InStep key side
  calls : ∀ call, call ∈ state.2 ↔ state.1.Encrypts key call

theorem Session.initial_logged (key : Key) : Session.Logged key (Session.initial key, []) where
  inStep := Session.initial_inStep key
  calls call := iff_of_false List.not_mem_nil (Session.initial_encrypts key call)

theorem Session.reachable_logged {box : SecretBox} {proto : Protobuf} {key : Key}
    {state : Session × List EncryptCall}
    (reached : (encryptionSystem box proto key).Reachable state) : Session.Logged key state := by
  refine reached.invariant ?_ ?_
  · intro start initial
    obtain ⟨isInitial, nothing⟩ := initial
    rw [show start = (Session.initial key, []) from Prod.ext isInitial nothing]
    exact Session.initial_logged key
  · intro before label after logged step
    obtain ⟨step, grown⟩ := step
    refine ⟨step.inStep_both logged.inStep, fun call => ?_⟩
    rw [grown, List.mem_append, logged.calls, step.encrypts (logged.inStep label.1)]

theorem Session.Logged.unique {key : Key} {state : Session × List EncryptCall}
    (logged : Session.Logged key state) (short : state.1.Short) : NoncesUnique state.2 := by
  intro first isFirst second isSecond _ same
  exact short.unique ((logged.calls first).mp isFirst) ((logged.calls second).mp isSecond) same

end EternalTerminal
