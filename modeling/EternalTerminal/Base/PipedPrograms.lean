/-
Programs whose descriptor is one end of a pair of pipes of bounded capacity.

`writeAllOrThrow` and `readAll` move what fits or what is there and try again.  A call may also
give up at any moment: the peer is gone, or the transfer has timed out.
-/

import EternalTerminal.Base.SocketHandler
import EternalTerminal.Library.Dialogue
import EternalTerminal.Library.TransitionSystem

namespace EternalTerminal

open Library
open Library.Dialogue

/-- A program with the pipe that it reads and the pipe that it writes. -/
structure Piped (α : Type) where
  program : Action α
  incoming : Bytes
  outgoing : Bytes

namespace Piped

variable {α β : Type}

inductive Step (capacity : Nat) : Piped α → Piped α → Prop
  | write {fd : Fd} {buffer incoming outgoing : Bytes} {next : Except String Unit → Action α}
      (bytesWritten : Nat) (some_written : 0 < bytesWritten)
      (wanted : bytesWritten ≤ buffer.length)
      (room : outgoing.length + bytesWritten ≤ capacity) :
      Step capacity ⟨.perform (.writeAll fd buffer) next, incoming, outgoing⟩
        ⟨.perform (.writeAll fd (buffer.drop bytesWritten)) next, incoming,
          outgoing ++ buffer.take bytesWritten⟩
  | written {fd : Fd} {incoming outgoing : Bytes} {next : Except String Unit → Action α} :
      Step capacity ⟨.perform (.writeAll fd []) next, incoming, outgoing⟩
        ⟨next (.ok ()), incoming, outgoing⟩
  | writeFailed {fd : Fd} {buffer incoming outgoing : Bytes}
      {next : Except String Unit → Action α} (what : String) :
      Step capacity ⟨.perform (.writeAll fd buffer) next, incoming, outgoing⟩
        ⟨next (.error what), incoming, outgoing⟩
  | read {fd : Fd} {count : Nat} {incoming outgoing : Bytes}
      {next : Except String Bytes → Action α} (bytesRead : Nat) (some_read : 0 < bytesRead)
      (wanted : bytesRead ≤ count) (there : bytesRead ≤ incoming.length) :
      Step capacity ⟨.perform (.readAll fd count) next, incoming, outgoing⟩
        ⟨.perform (.readAll fd (count - bytesRead)) fun answer : Except String Bytes =>
            next (answer.map (incoming.take bytesRead ++ ·)),
          incoming.drop bytesRead, outgoing⟩
  | haveRead {fd : Fd} {incoming outgoing : Bytes} {next : Except String Bytes → Action α} :
      Step capacity ⟨.perform (.readAll fd 0) next, incoming, outgoing⟩
        ⟨next (.ok []), incoming, outgoing⟩
  | readFailed {fd : Fd} {count : Nat} {incoming outgoing : Bytes}
      {next : Except String Bytes → Action α} (what : String) :
      Step capacity ⟨.perform (.readAll fd count) next, incoming, outgoing⟩
        ⟨next (.error what), incoming, outgoing⟩
  | close {fd : Fd} {incoming outgoing : Bytes} {next : Unit → Action α} :
      Step capacity ⟨.perform (.close fd) next, incoming, outgoing⟩
        ⟨next (), incoming, outgoing⟩

def Blocked (capacity : Nat) (party : Piped α) : Prop :=
  match party.program with
  | .perform (.writeAll _ buffer) _ => buffer ≠ [] ∧ capacity ≤ party.outgoing.length
  | .perform (.readAll _ count) _ => count ≠ 0 ∧ party.incoming = []
  | _ => False

def Quiet (program : Action α) : Prop :=
  program.Performs fun call : SocketCall => ∃ fd, call = .close fd

/-- The program makes these moves and is then at the other; a call that fails raises. -/
inductive Speaks : Action α → List (Move UInt8) → Action α → Prop
  | refl (program : Action α) : Speaks program [] program
  | write {fd : Fd} {buffer : Bytes} {next : Except String Unit → Action α}
      {moves : List (Move UInt8)} {later : Action α} :
      (∀ what, next (.error what) = .raise (.runtimeError what)) →
      Speaks (next (.ok ())) moves later →
      Speaks (.perform (.writeAll fd buffer) next) (sends buffer ++ moves) later
  | read {fd : Fd} {bytes : Bytes} {next : Except String Bytes → Action α}
      {moves : List (Move UInt8)} {later : Action α} :
      (∀ what, next (.error what) = .raise (.runtimeError what)) →
      Speaks (next (.ok bytes)) moves later →
      Speaks (.perform (.readAll fd bytes.length) next) (receives bytes ++ moves) later

/-- The program makes these moves and is then quiet, and so it is after a call that fails. -/
inductive Follows : Action α → List (Move UInt8) → Prop
  | quiet {program : Action α} : Quiet program → Follows program []
  | write {fd : Fd} {buffer : Bytes} {next : Except String Unit → Action α}
      {moves : List (Move UInt8)} :
      (∀ what, Quiet (next (.error what))) → Follows (next (.ok ())) moves →
      Follows (.perform (.writeAll fd buffer) next) (sends buffer ++ moves)
  | read {fd : Fd} {count : Nat} {bytes : Bytes} {next : Except String Bytes → Action α}
      {moves : List (Move UInt8)} :
      bytes.length = count → (∀ what, Quiet (next (.error what))) →
      Follows (next (.ok bytes)) moves →
      Follows (.perform (.readAll fd count) next) (receives bytes ++ moves)

section

variable {capacity : Nat} {party after : Piped α} {program later : Action α}
  {moves more : List (Move UInt8)} {incoming outgoing : Bytes}

/-! ### What programs say -/

theorem Speaks.bind {rest : β → Action α} {first : Action β} {value : β}
    (speaks : Speaks first moves (.done value)) (goesOn : Speaks (rest value) more later) :
    Speaks (first >>= rest) (moves ++ more) later := by
  generalize ended : (Program.done value : Action β) = last at speaks
  induction speaks with
  | refl program =>
      subst ended
      exact goesOn
  | write raises _ ih =>
      rw [List.append_assoc]
      refine .write (fun what => ?_) (ih ended)
      rw [raises]
      rfl
  | read raises _ ih =>
      rw [List.append_assoc]
      refine .read (fun what => ?_) (ih ended)
      rw [raises]
      rfl

theorem Speaks.follows {handler : Exn → Action α} (speaks : Speaks program moves later)
    (caught : ∀ what, Quiet (handler (.runtimeError what))) (ended : Quiet (later.handle handler)) :
    Follows (program.handle handler) moves := by
  induction speaks with
  | refl program => exact .quiet ended
  | write raises _ ih =>
      refine .write (fun what => ?_) (ih ended)
      rw [raises]
      exact caught what
  | read raises _ ih =>
      refine .read rfl (fun what => ?_) (ih ended)
      rw [raises]
      exact caught what

theorem speaks_writeAllOrThrow (fd : Fd) (buffer : Bytes) :
    Speaks (SocketHandler.writeAllOrThrow fd buffer) (sends buffer) (.done ()) := by
  rw [← List.append_nil (sends buffer)]
  exact .write (fun what => rfl) (.refl _)

theorem speaks_readAll (fd : Fd) (bytes : Bytes) :
    Speaks (SocketHandler.readAll fd bytes.length) (receives bytes) (.done bytes) := by
  rw [← List.append_nil (receives bytes)]
  exact .read (fun what => rfl) (.refl _)

theorem speaks_writeProto {Message : Type} {proto : ProtoMessage Message} {message : Message}
    (fd : Fd) (fits : (proto.serialize message).length ≤ SocketHandler.MAX_PROTO_BYTES) :
    Speaks (SocketHandler.writeProto proto fd message)
      (sends (SocketHandler.protoFrame (proto.serialize message))) (.done ()) := by
  rw [SocketHandler.writeProto, if_neg (Nat.not_lt_of_le fits), SocketHandler.protoFrame,
    sends_append]
  refine (speaks_writeAllOrThrow fd _).bind ?_
  by_cases empty : (proto.serialize message).length > 0
  · rw [if_pos empty]
    exact speaks_writeAllOrThrow fd _
  · rw [if_neg empty, List.eq_nil_of_length_eq_zero (Nat.eq_zero_of_not_pos empty)]
    exact .refl _

theorem speaks_readProto {Message : Type} {proto : ProtoMessage Message} {message : Message}
    {serialized : Bytes} (fd : Fd) (parses : proto.parse serialized = some message)
    (fits : serialized.length ≤ SocketHandler.MAX_PROTO_BYTES) :
    Speaks (SocketHandler.readProto proto fd)
      (receives (SocketHandler.protoFrame serialized)) (.done message) := by
  have prefixLength : (littleEndian 8 serialized.length).length = 8 := littleEndian_length 8 _
  have readPrefix := speaks_readAll fd (littleEndian 8 serialized.length)
  rw [prefixLength] at readPrefix
  rw [SocketHandler.readProto, SocketHandler.protoFrame, receives_append]
  refine readPrefix.bind ?_
  rw [SocketHandler.toInt64_littleEndian fits, SocketHandler.readProtoBody, if_neg (by omega)]
  by_cases empty : serialized = []
  · subst empty
    rw [proto.parse_nil] at parses
    cases parses
    exact .refl _
  · have nonempty : ¬ (serialized.length : Int) = 0 := by
      have positive := List.length_pos_of_ne_nil empty
      omega
    rw [if_neg nonempty, Int.toNat_natCast, ← List.append_nil (receives serialized)]
    refine (speaks_readAll fd serialized).bind ?_
    rw [parses]
    exact .refl _

/-! ### One step -/

theorem quiet_step (quiet : Quiet party.program) (step : Step capacity party after) :
    Quiet after.program := by
  cases step with
  | close =>
      cases quiet with
      | perform _ rest => exact rest ()
  | write | written | writeFailed | read | haveRead | readFailed =>
      cases quiet with
      | perform allowed _ =>
          obtain ⟨fd, impossible⟩ := allowed
          cases impossible

theorem not_blocked_of_quiet (quiet : Quiet party.program) : ¬ Blocked capacity party := by
  intro blocked
  obtain ⟨program, incoming, outgoing⟩ := party
  unfold Blocked at blocked
  dsimp only at blocked quiet
  split at blocked
  · cases quiet with
    | perform allowed _ =>
        obtain ⟨fd, impossible⟩ := allowed
        cases impossible
  · cases quiet with
    | perform allowed _ =>
        obtain ⟨fd, impossible⟩ := allowed
        cases impossible
  · exact blocked

theorem stuck_of_blocked (follows : Follows program moves)
    (blocked : Blocked capacity ⟨program, incoming, outgoing⟩) :
    Stuck capacity incoming outgoing moves := by
  cases follows with
  | quiet quiet => exact absurd blocked (not_blocked_of_quiet quiet)
  | @write fd buffer next moves _ _ =>
      obtain ⟨nonempty, full⟩ := blocked
      cases buffer with
      | nil => exact absurd rfl nonempty
      | cons byte rest => exact full
  | @read fd count bytes next moves length _ _ =>
      obtain ⟨wanted, empty⟩ := blocked
      cases bytes with
      | nil => exact absurd length.symm wanted
      | cons byte rest => exact empty

/-- A step makes some of the moves, if what is in the pipe is what the program expects. -/
theorem follows_step (follows : Follows program moves)
    (step : Step capacity ⟨program, incoming, outgoing⟩ after)
    (expected : received moves <+: incoming ∨ incoming <+: received moves) :
    Quiet after.program ∨ ∃ made rest, moves = made ++ rest ∧ Follows after.program rest ∧
      after.outgoing = outgoing ++ sent made ∧ incoming = received made ++ after.incoming := by
  cases follows with
  | quiet quiet => exact Or.inl (quiet_step quiet step)
  | @write fd buffer next moves failed goesOn =>
      cases step with
      | write bytesWritten =>
          right
          refine ⟨sends (buffer.take bytesWritten), sends (buffer.drop bytesWritten) ++ moves, ?_,
            .write failed goesOn, by rw [sent_sends], by rw [received_sends, List.nil_append]⟩
          rw [← List.append_assoc, ← sends_append, List.take_append_drop]
      | written => exact Or.inr ⟨[], moves, rfl, goesOn, (List.append_nil _).symm, rfl⟩
      | writeFailed what => exact Or.inl (failed what)
  | @read fd count bytes next moves length failed goesOn =>
      cases step with
      | read bytesRead positive wanted there =>
          right
          have prefixes : bytes.take bytesRead = incoming.take bytesRead := by
            have short : bytesRead ≤ bytes.length := length ▸ wanted
            rw [received_append, received_receives] at expected
            rcases expected with ⟨rest, same⟩ | ⟨rest, same⟩
            · rw [← same, List.append_assoc, List.take_append_of_le_length short]
            · have front := congrArg (List.take bytesRead) same
              rw [List.take_append_of_le_length there, List.take_append_of_le_length short] at front
              exact front.symm
          refine ⟨receives (bytes.take bytesRead), receives (bytes.drop bytesRead) ++ moves, ?_,
            .read ?_ (fun what => ?_) ?_, by rw [sent_receives, List.append_nil], ?_⟩
          · rw [← List.append_assoc, ← receives_append, List.take_append_drop]
          · rw [List.length_drop, length]
          · exact failed what
          · rw [← prefixes]
            change Follows (next (.ok (bytes.take bytesRead ++ bytes.drop bytesRead))) moves
            rw [List.take_append_drop]
            exact goesOn
          · rw [received_receives, prefixes, List.take_append_drop]
      | haveRead =>
          have empty := List.eq_nil_of_length_eq_zero length
          subst empty
          exact Or.inr ⟨[], moves, rfl, goesOn, (List.append_nil _).symm, rfl⟩
      | readFailed what => exact Or.inl (failed what)

/-! ### Runs of one party -/

/-- What needs no bytes is done, until the next move is that of the call under way. -/
theorem exists_settled {move : Move UInt8} (follows : Follows program (move :: moves)) :
    ∃ settled, Relation.ReflTransGen (Step capacity) ⟨program, incoming, outgoing⟩
        ⟨settled, incoming, outgoing⟩ ∧
      ((∃ fd byte rest next later, move = .send byte ∧
          settled = .perform (.writeAll fd (byte :: rest)) next ∧ moves = sends rest ++ later ∧
          (∀ what, Quiet (next (.error what))) ∧ Follows (next (.ok ())) later) ∨
        ∃ fd byte rest next later, move = .receive byte ∧
          settled = .perform (.readAll fd (byte :: rest).length) next ∧
          moves = receives rest ++ later ∧ (∀ what, Quiet (next (.error what))) ∧
          Follows (next (.ok (byte :: rest))) later) := by
  generalize whole : move :: moves = all at follows
  induction follows with
  | quiet => cases whole
  | @write fd buffer next later failed goesOn ih =>
      cases buffer with
      | nil =>
          obtain ⟨settled, steps, ends⟩ := ih whole
          exact ⟨settled, .head .written steps, ends⟩
      | cons byte rest =>
          cases whole
          exact ⟨_, .refl, Or.inl ⟨fd, byte, rest, next, later, rfl, rfl, rfl, failed, goesOn⟩⟩
  | @read fd count bytes next later length failed goesOn ih =>
      cases bytes with
      | nil =>
          subst length
          obtain ⟨settled, steps, ends⟩ := ih whole
          exact ⟨settled, .head .haveRead steps, ends⟩
      | cons byte rest =>
          cases whole
          subst length
          exact ⟨_, .refl, Or.inr ⟨fd, byte, rest, next, later, rfl, rfl, rfl, failed, goesOn⟩⟩

theorem exists_blocked (follows : Follows program moves)
    (stuck : Stuck capacity incoming outgoing moves) :
    ∃ settled, Relation.ReflTransGen (Step capacity) ⟨program, incoming, outgoing⟩
        ⟨settled, incoming, outgoing⟩ ∧ Blocked capacity ⟨settled, incoming, outgoing⟩ := by
  cases moves with
  | nil => exact stuck.elim
  | cons move moves =>
      obtain ⟨settled, steps, ends⟩ := exists_settled follows
      refine ⟨settled, steps, ?_⟩
      rcases ends with
        ⟨fd, byte, rest, next, later, isSend, isWrite, _⟩ |
          ⟨fd, byte, rest, next, later, isReceive, isRead, _⟩
      · subst isSend isWrite
        exact ⟨List.cons_ne_nil byte rest, stuck⟩
      · subst isReceive isRead
        exact ⟨Nat.succ_ne_zero _, stuck⟩

theorem exists_sent {text : Bytes} (follows : Follows program (sends text ++ moves))
    (room : outgoing.length + text.length ≤ capacity) :
    ∃ later, Relation.ReflTransGen (Step capacity) ⟨program, incoming, outgoing⟩
        ⟨later, incoming, outgoing ++ text⟩ ∧ Follows later moves := by
  induction text generalizing program outgoing with
  | nil => exact ⟨program, by rw [List.append_nil], follows⟩
  | cons byte text ih =>
      obtain ⟨settled, steps, ends⟩ := exists_settled follows
      rw [List.length_cons] at room
      rcases ends with
        ⟨fd, same, rest, next, last, isSend, isWrite, isRest, failed, goesOn⟩ |
          ⟨_, _, _, _, _, isReceive, _⟩
      · cases isSend
        subst isWrite
        have one : Step capacity ⟨.perform (.writeAll fd (byte :: rest)) next, incoming, outgoing⟩
            ⟨.perform (.writeAll fd rest) next, incoming, outgoing ++ [byte]⟩ :=
          .write 1 Nat.one_pos (Nat.succ_le_succ (Nat.zero_le _)) (by omega)
        have remaining : Follows (.perform (.writeAll fd rest) next) (sends text ++ moves) := by
          change List.map Move.send text ++ moves = _ at isRest
          rw [sends, isRest]
          exact .write failed goesOn
        have lengths : (outgoing ++ [byte]).length + text.length ≤ capacity := by
          rw [List.length_append, List.length_singleton]
          omega
        obtain ⟨later, more, follows⟩ := ih remaining lengths
        rw [List.append_assoc, List.singleton_append] at more
        exact ⟨later, (steps.tail one).trans more, follows⟩
      · cases isReceive

theorem exists_received {text : Bytes} (follows : Follows program (receives text ++ moves)) :
    ∃ later, Relation.ReflTransGen (Step capacity) ⟨program, text ++ incoming, outgoing⟩
        ⟨later, incoming, outgoing⟩ ∧ Follows later moves := by
  induction text generalizing program with
  | nil => exact ⟨program, .refl, follows⟩
  | cons byte text ih =>
      obtain ⟨settled, steps, ends⟩ := exists_settled follows
      rcases ends with
        ⟨_, _, _, _, _, isSend, _⟩ |
          ⟨fd, same, rest, next, last, isReceive, isRead, isRest, failed, goesOn⟩
      · cases isSend
      · cases isReceive
        subst isRead
        have one : Step capacity
            ⟨.perform (.readAll fd (byte :: rest).length) next, byte :: text ++ incoming, outgoing⟩
            ⟨.perform (.readAll fd rest.length) fun answer : Except String Bytes =>
              next (answer.map ([byte] ++ ·)), text ++ incoming, outgoing⟩ :=
          .read 1 Nat.one_pos (Nat.succ_le_succ (Nat.zero_le _)) (Nat.succ_le_succ (Nat.zero_le _))
        have remaining : Follows (.perform (.readAll fd rest.length) fun
            answer : Except String Bytes => next (answer.map ([byte] ++ ·)))
            (receives text ++ moves) := by
          change List.map Move.receive text ++ moves = _ at isRest
          rw [receives, isRest]
          exact .read rfl failed goesOn
        obtain ⟨later, more, follows⟩ := ih remaining
        exact ⟨later, (steps.tail one).trans more, follows⟩

end

end Piped

/-! ### Two parties -/

structure PipedPair (α : Type) where
  first : Action α
  second : Action α
  toSecond : Bytes
  toFirst : Bytes

namespace PipedPair

open Piped

variable {α : Type}

def firstParty (pair : PipedPair α) : Piped α := ⟨pair.first, pair.toFirst, pair.toSecond⟩

def secondParty (pair : PipedPair α) : Piped α := ⟨pair.second, pair.toSecond, pair.toFirst⟩

def withFirst (pair : PipedPair α) (party : Piped α) : PipedPair α :=
  { pair with
    first := party.program
    toFirst := party.incoming
    toSecond := party.outgoing }

def withSecond (pair : PipedPair α) (party : Piped α) : PipedPair α :=
  { pair with
    second := party.program
    toSecond := party.incoming
    toFirst := party.outgoing }

/-- Two programs that start with empty pipes; a step is one of either. -/
def system (capacity : Nat) (first second : Action α) : TransitionSystem (PipedPair α) Unit where
  initial := fun pair => pair = ⟨first, second, [], []⟩
  step := fun before _ after =>
    (∃ party, Step capacity before.firstParty party ∧ after = before.withFirst party) ∨
      ∃ party, Step capacity before.secondParty party ∧ after = before.withSecond party

def Deadlocked (capacity : Nat) (pair : PipedPair α) : Prop :=
  Blocked capacity pair.firstParty ∧ Blocked capacity pair.secondParty

/-- Both have made some of their moves, or one of them has ended. -/
def Underway (firstMoves secondMoves : List (Move UInt8)) (pair : PipedPair α) : Prop :=
  Quiet pair.first ∨ Quiet pair.second ∨
    ∃ firstDone secondDone,
      Follows pair.first (firstMoves.drop firstDone) ∧
      Follows pair.second (secondMoves.drop secondDone) ∧
      Between firstMoves secondMoves firstDone secondDone pair.toSecond pair.toFirst

section

variable {capacity : Nat} {pair after : PipedPair α} {first second : Action α}
  {firstMoves secondMoves : List (Move UInt8)} {party : Piped α}

/-- What has arrived is what is expected next, as far as both go. -/
theorem expected_of_between {sender receiver : List (Move UInt8)} {senderDone receiverDone : Nat}
    {inPipe : Bytes}
    (agree : received receiver <+: sent sender ∨ sent sender <+: received receiver)
    (carried : sent (sender.take senderDone) =
      received (receiver.take receiverDone) ++ inPipe) :
    received (receiver.drop receiverDone) <+: inPipe ∨
      inPipe <+: received (receiver.drop receiverDone) := by
  have all : received (receiver.take receiverDone) ++ received (receiver.drop receiverDone) =
      received receiver := by
    rw [← received_append, List.take_append_drop]
  have arrived : received (receiver.take receiverDone) ++ inPipe <+: sent sender := by
    rw [← carried]
    exact ⟨sent (sender.drop senderDone), by rw [← sent_append, List.take_append_drop]⟩
  rcases agree with within | within
  · rw [← all] at within
    have comparable := List.prefix_or_prefix_of_prefix within arrived
    simpa only [List.prefix_append_right_inj] using comparable
  · have comparable := arrived.trans within
    rw [← all, List.prefix_append_right_inj] at comparable
    exact Or.inr comparable

theorem exists_done_of_step {sender receiver : List (Move UInt8)} {senderDone receiverDone : Nat}
    {program : Action α} {incoming outgoing : Bytes}
    (agree : received receiver <+: sent sender ∨ sent sender <+: received receiver)
    (follows : Follows program (receiver.drop receiverDone))
    (carried : sent (sender.take senderDone) =
      received (receiver.take receiverDone) ++ incoming)
    (step : Step capacity ⟨program, incoming, outgoing⟩ party) :
    Quiet party.program ∨ ∃ done, Follows party.program (receiver.drop done) ∧
      sent (sender.take senderDone) = received (receiver.take done) ++ party.incoming ∧
      ∀ earlier, sent (receiver.take receiverDone) = earlier ++ outgoing →
        sent (receiver.take done) = earlier ++ party.outgoing := by
  rcases follows_step follows step (expected_of_between agree carried) with
    quiet | ⟨made, rest, moves, goesOn, out, arrived⟩
  · exact Or.inl quiet
  · right
    have later : receiver.take (receiverDone + made.length) =
        receiver.take receiverDone ++ made := by
      rw [List.take_add, moves, List.take_left]
    have left : receiver.drop (receiverDone + made.length) = rest := by
      rw [← List.drop_drop, moves, List.drop_left]
    refine ⟨receiverDone + made.length, left ▸ goesOn, ?_, ?_⟩
    · rw [carried, later, received_append, arrived, List.append_assoc]
    · intro earlier before
      rw [later, sent_append, before, out, List.append_assoc]

theorem underway_step
    (firstAgrees : received firstMoves <+: sent secondMoves ∨
      sent secondMoves <+: received firstMoves)
    (secondAgrees : received secondMoves <+: sent firstMoves ∨
      sent firstMoves <+: received secondMoves)
    (underway : Underway firstMoves secondMoves pair)
    (step : (system capacity first second).step pair () after) :
    Underway firstMoves secondMoves after := by
  rcases step with ⟨party, step, same⟩ | ⟨party, step, same⟩
  · subst same
    rcases underway with quiet | quiet | ⟨firstDone, secondDone, follows, other, between⟩
    · have quiet : Quiet pair.firstParty.program := quiet
      exact Or.inl (quiet_step quiet step)
    · exact Or.inr (Or.inl quiet)
    · rcases exists_done_of_step firstAgrees follows between.back step with
        quiet | ⟨done, goesOn, back, forth⟩
      · exact Or.inl quiet
      · exact Or.inr (Or.inr ⟨done, secondDone, goesOn, other, forth _ between.forth, back⟩)
  · subst same
    rcases underway with quiet | quiet | ⟨firstDone, secondDone, other, follows, between⟩
    · exact Or.inl quiet
    · have quiet : Quiet pair.secondParty.program := quiet
      exact Or.inr (Or.inl (quiet_step quiet step))
    · rcases exists_done_of_step secondAgrees follows between.forth step with
        quiet | ⟨done, goesOn, forth, back⟩
      · exact Or.inr (Or.inl quiet)
      · exact Or.inr (Or.inr ⟨firstDone, done, other, goesOn, forth, back _ between.back⟩)

/-- In a deadlock both parties are in the middle of their moves and stuck. -/
theorem stuck_of_deadlocked
    (firstAgrees : received firstMoves <+: sent secondMoves ∨
      sent secondMoves <+: received firstMoves)
    (secondAgrees : received secondMoves <+: sent firstMoves ∨
      sent firstMoves <+: received secondMoves)
    (firstFollows : Follows first firstMoves) (secondFollows : Follows second secondMoves)
    (reached : (system capacity first second).Reachable pair)
    (deadlocked : Deadlocked capacity pair) :
    ∃ firstDone secondDone,
      Between firstMoves secondMoves firstDone secondDone pair.toSecond pair.toFirst ∧
      Stuck capacity pair.toFirst pair.toSecond (firstMoves.drop firstDone) ∧
      Stuck capacity pair.toSecond pair.toFirst (secondMoves.drop secondDone) := by
  have underway : Underway firstMoves secondMoves pair := by
    apply TransitionSystem.Reachable.invariant _ _ reached
    · intro pair starts
      cases starts
      exact Or.inr (Or.inr ⟨0, 0, firstFollows, secondFollows, rfl, rfl⟩)
    · intro before _ after holds step
      exact underway_step firstAgrees secondAgrees holds step
  rcases underway with quiet | quiet | ⟨firstDone, secondDone, follows, other, between⟩
  · have quiet : Quiet pair.firstParty.program := quiet
    exact absurd deadlocked.1 (not_blocked_of_quiet quiet)
  · have quiet : Quiet pair.secondParty.program := quiet
    exact absurd deadlocked.2 (not_blocked_of_quiet quiet)
  · exact ⟨firstDone, secondDone, between, stuck_of_blocked follows deadlocked.1,
      stuck_of_blocked other deadlocked.2⟩

/-! ### A run into a deadlock -/

theorem reachable_first (reached : (system capacity first second).Reachable pair)
    (steps : Relation.ReflTransGen (Step capacity) pair.firstParty party) :
    (system capacity first second).Reachable (pair.withFirst party) := by
  induction steps with
  | refl => exact reached
  | @tail before after _ step ih =>
      have moves : (system capacity first second).step (pair.withFirst before) ()
          (pair.withFirst after) :=
        Or.inl ⟨_, step, rfl⟩
      exact ih.next moves

theorem reachable_second (reached : (system capacity first second).Reachable pair)
    (steps : Relation.ReflTransGen (Step capacity) pair.secondParty party) :
    (system capacity first second).Reachable (pair.withSecond party) := by
  induction steps with
  | refl => exact reached
  | @tail before after _ step ih =>
      have moves : (system capacity first second).step (pair.withSecond before) ()
          (pair.withSecond after) :=
        Or.inr ⟨_, step, rfl⟩
      exact ih.next moves

section

variable {here there : Action α} {toSecond toFirst text : Bytes} {moves : List (Move UInt8)}

theorem exists_first_sent
    (reached : (system capacity first second).Reachable ⟨here, there, toSecond, toFirst⟩)
    (follows : Follows here (sends text ++ moves))
    (room : toSecond.length + text.length ≤ capacity) :
    ∃ later, (system capacity first second).Reachable ⟨later, there, toSecond ++ text, toFirst⟩ ∧
      Follows later moves := by
  obtain ⟨later, steps, goesOn⟩ := exists_sent follows room
  exact ⟨later, reachable_first reached steps, goesOn⟩

theorem exists_second_sent
    (reached : (system capacity first second).Reachable ⟨here, there, toSecond, toFirst⟩)
    (follows : Follows there (sends text ++ moves))
    (room : toFirst.length + text.length ≤ capacity) :
    ∃ later, (system capacity first second).Reachable ⟨here, later, toSecond, toFirst ++ text⟩ ∧
      Follows later moves := by
  obtain ⟨later, steps, goesOn⟩ := exists_sent follows room
  exact ⟨later, reachable_second reached steps, goesOn⟩

theorem exists_first_received
    (reached : (system capacity first second).Reachable ⟨here, there, toSecond, text⟩)
    (follows : Follows here (receives text ++ moves)) :
    ∃ later, (system capacity first second).Reachable ⟨later, there, toSecond, []⟩ ∧
      Follows later moves := by
  obtain ⟨later, steps, goesOn⟩ := exists_received follows
  rw [List.append_nil] at steps
  exact ⟨later, reachable_first reached steps, goesOn⟩

theorem exists_second_received
    (reached : (system capacity first second).Reachable ⟨here, there, text, toFirst⟩)
    (follows : Follows there (receives text ++ moves)) :
    ∃ later, (system capacity first second).Reachable ⟨here, later, [], toFirst⟩ ∧
      Follows later moves := by
  obtain ⟨later, steps, goesOn⟩ := exists_received follows
  rw [List.append_nil] at steps
  exact ⟨later, reachable_second reached steps, goesOn⟩

end

/-- A message that is longer than the pipe fills it and is not through. -/
theorem stuck_of_long {message incoming : Bytes} {moves : List (Move UInt8)}
    (long : capacity < message.length) :
    Stuck capacity incoming (message.take capacity) (sends (message.drop capacity) ++ moves) := by
  cases left : message.drop capacity with
  | nil =>
      have through := List.drop_eq_nil_iff.mp left
      omega
  | cons byte rest =>
      change capacity ≤ (message.take capacity).length
      rw [List.length_take_of_le long.le]

/-- Both greetings go through, and then both messages fill their pipes. -/
theorem exists_deadlock {greeting greeted message otherMessage answer otherAnswer : Bytes}
    (firstFollows : Follows first (twoRounds greeting greeted message answer))
    (secondFollows : Follows second (twoRounds greeted greeting otherMessage otherAnswer))
    (greetingFits : greeting.length ≤ capacity) (greetedFits : greeted.length ≤ capacity)
    (long : capacity < message.length) (otherLong : capacity < otherMessage.length) :
    ∃ pair, (system capacity first second).Reachable pair ∧ Deadlocked capacity pair := by
  have room : ∀ text : Bytes, text.length ≤ capacity →
      ([] : Bytes).length + text.length ≤ capacity := by
    intro text fits
    rw [List.length_nil]
    omega
  have whole : ∀ text : Bytes, sends text =
      sends (text.take capacity) ++ sends (text.drop capacity) := by
    intro text
    rw [← sends_append, List.take_append_drop]
  have start : (system capacity first second).Reachable ⟨first, second, [], []⟩ := .start rfl
  obtain ⟨_, reached, firstFollows⟩ :=
    exists_first_sent start firstFollows (room greeting greetingFits)
  obtain ⟨_, reached, secondFollows⟩ :=
    exists_second_sent reached secondFollows (room greeted greetedFits)
  obtain ⟨_, reached, firstFollows⟩ := exists_first_received reached firstFollows
  obtain ⟨_, reached, secondFollows⟩ := exists_second_received reached secondFollows
  rw [whole, List.append_assoc] at firstFollows secondFollows
  obtain ⟨firstWrites, reached, firstFollows⟩ := exists_first_sent reached firstFollows
    (room _ (List.length_take_of_le long.le).le)
  obtain ⟨secondWrites, reached, secondFollows⟩ := exists_second_sent reached secondFollows
    (room _ (List.length_take_of_le otherLong.le).le)
  obtain ⟨firstWaits, steps, firstBlocked⟩ := exists_blocked firstFollows (stuck_of_long long)
  replace reached := reachable_first reached steps
  obtain ⟨secondWaits, steps, secondBlocked⟩ :=
    exists_blocked secondFollows (stuck_of_long otherLong)
  replace reached := reachable_second reached steps
  exact ⟨_, reached, firstBlocked, secondBlocked⟩

end

end PipedPair

end EternalTerminal
