/-
What `BackedReader::read` makes of any bytes that arrive on its socket.

The bytes come in pieces of any size.  A call takes bytes of the first frame only: it leaves
the frame unfinished, opens it, or stumbles over it.
-/

import EternalTerminal.Base.SocketReads
import EternalTerminal.Session.FrameReading

namespace EternalTerminal

open Library

/-- The bytes that nobody has taken yet, the number of those that have been taken, and the
furthest position that a read has asked for. -/
structure Conduit where
  bytes : Bytes
  taken : Nat
  reach : Nat

namespace Conduit

def empty : Conduit :=
  { bytes := []
    taken := 0
    reach := 0 }

def append (conduit : Conduit) (bytes : Bytes) : Conduit :=
  { conduit with bytes := conduit.bytes ++ bytes }

def asked (conduit : Conduit) (count : Nat) : Conduit :=
  { conduit with reach := max conduit.reach (conduit.taken + count) }

/-- A read of `count` bytes has given `got` and left `rest`. -/
def gave (conduit : Conduit) (count : Nat) (got rest : Bytes) : Conduit :=
  { bytes := rest
    taken := conduit.taken + got.length
    reach := max conduit.reach (conduit.taken + count) }

/-- What a call may return.  `fails` says whether the conduit may break; one that does not
only gives bytes it has. -/
def answers (fails : Prop) (conduit : Conduit) : (operation : SocketCall) →
    SocketCall.Answer operation → Conduit → Prop
  | .writeAll _ buffer, .ok (), next => next = conduit.append buffer
  | .writeAll _ buffer, .error _, next =>
      fails ∧ ∃ count, next = conduit.append (buffer.take count)
  | .readAll _ _, _, _ => False
  | .read _ count, .data got, next =>
      got ≠ [] ∧ got.length ≤ count ∧
        ∃ rest, conduit.bytes = got ++ rest ∧ next = conduit.gave count got rest
  | .read _ count, .closed, next => fails ∧ next = conduit.asked count
  | .read _ count, .failed _, next => fails ∧ next = conduit.asked count
  | .close _, (), next => next = conduit

theorem append_append (conduit : Conduit) (first second : Bytes) :
    (conduit.append first).append second = conduit.append (first ++ second) := by
  simp only [append, List.append_assoc]

@[simp] theorem gave_bytes (conduit : Conduit) (count : Nat) (got rest : Bytes) :
    (conduit.gave count got rest).bytes = rest := rfl

@[simp] theorem gave_taken (conduit : Conduit) (count : Nat) (got rest : Bytes) :
    (conduit.gave count got rest).taken = conduit.taken + got.length := rfl

@[simp] theorem gave_reach (conduit : Conduit) (count : Nat) (got rest : Bytes) :
    (conduit.gave count got rest).reach = max conduit.reach (conduit.taken + count) := rfl

@[simp] theorem asked_reach (conduit : Conduit) (count : Nat) :
    (conduit.asked count).reach = max conduit.reach (conduit.taken + count) := rfl

variable {fails : Prop} {conduit after : Conduit} {fd : Fd} {count : Nat}

theorem read_run {β : Type} {next : ReadAnswer → Action β} {outcome : Outcome Exn β}
    (run : Program.Run (answers fails) conduit (SocketHandler.read fd count >>= next)
      outcome after) :
    (∃ got rest, got ≠ [] ∧ got.length ≤ count ∧ conduit.bytes = got ++ rest ∧
      Program.Run (answers fails) (conduit.gave count got rest) (next (.data got))
        outcome after) ∨
    (fails ∧ (Program.Run (answers fails) (conduit.asked count) (next .closed) outcome after ∨
      ∃ errno, Program.Run (answers fails) (conduit.asked count) (next (.failed errno))
        outcome after)) := by
  obtain ⟨answer, between, answered, rest⟩ := Program.run_perform_iff.mp run
  cases answer with
  | data got =>
      obtain ⟨nonempty, bound, left, split, rfl⟩ := answered
      exact Or.inl ⟨got, left, nonempty, bound, split, rest⟩
  | closed =>
      obtain ⟨broken, rfl⟩ := answered
      exact Or.inr ⟨broken, Or.inl rest⟩
  | failed errno =>
      obtain ⟨broken, rfl⟩ := answered
      exact Or.inr ⟨broken, Or.inr ⟨errno, rest⟩⟩

/-- A read can give as much of what is there as it asks for. -/
theorem run_read {β : Type} {next : ReadAnswer → Action β} {outcome : Outcome Exn β}
    {got rest : Bytes} (nonempty : got ≠ []) (exactly : got.length = count)
    (split : conduit.bytes = got ++ rest)
    (run : Program.Run (answers fails) (conduit.gave count got rest) (next (.data got))
      outcome after) :
    Program.Run (answers fails) conduit (SocketHandler.read fd count >>= next) outcome after :=
  Program.run_perform_iff.mpr
    ⟨.data got, _, ⟨nonempty, Nat.le_of_eq exactly, rest, split, rfl⟩, run⟩

end Conduit

namespace BackedReader

variable {box : SecretBox} {reader : BackedReader}

/-! ### How far a message is -/

def Waiting (message : Bytes) : Prop :=
  message.length < 4 ∨ (message.length : Int) < 4 + getPartialMessageLength message

/-- The message has all the bytes that its header announces. -/
def Whole (message : Bytes) : Prop :=
  4 ≤ message.length ∧ (message.length : Int) = 4 + getPartialMessageLength message

def Negative (message : Bytes) : Prop :=
  4 ≤ message.length ∧ getPartialMessageLength message < 0

instance (message : Bytes) : Decidable (Whole message) :=
  inferInstanceAs (Decidable (_ ∧ _))

/-- The end of the message, as far as its bytes tell. -/
def wanted (message : Bytes) : Nat :=
  if message.length < 4 then 4 else 4 + (getPartialMessageLength message).toNat

theorem waiting_nil : Waiting [] := Or.inl (by simp)

theorem getPartialMessageLength_append {message : Bytes} (header : 4 ≤ message.length)
    (more : Bytes) :
    getPartialMessageLength (message ++ more) = getPartialMessageLength message := by
  rw [getPartialMessageLength, List.take_append_of_le_length header, getPartialMessageLength]

theorem getPartialMessageLength_lt (message : Bytes) :
    getPartialMessageLength message < 2 ^ 31 := toInt32_lt _

theorem le_getPartialMessageLength (message : Bytes) :
    -2 ^ 31 ≤ getPartialMessageLength message := le_toInt32 _

theorem wanted_append {message : Bytes} (header : 4 ≤ message.length) (more : Bytes) :
    wanted (message ++ more) = wanted message := by
  have longer : ¬ (message ++ more).length < 4 := by
    rw [List.length_append]
    omega
  rw [wanted, wanted, if_neg longer, if_neg (by omega), getPartialMessageLength_append header]

theorem Waiting.lt_wanted {message : Bytes} (waiting : Waiting message) :
    message.length < wanted message := by
  unfold Waiting at waiting
  unfold wanted
  split
  · assumption
  · omega

theorem Whole.not_waiting {message : Bytes} (whole : Whole message) : ¬ Waiting message := by
  unfold Waiting
  unfold Whole at whole
  omega

theorem Whole.not_negative {message : Bytes} (whole : Whole message) : ¬ Negative message := by
  unfold Negative
  unfold Whole at whole
  omega

theorem Negative.not_waiting {message : Bytes} (negative : Negative message) :
    ¬ Waiting message := by
  unfold Waiting
  unfold Negative at negative
  omega

theorem four_le_wanted (message : Bytes) : 4 ≤ wanted message := by
  unfold wanted
  split
  · exact Nat.le_refl 4
  · exact Nat.le_add_right 4 _

/-! ### Opening a packet -/

/-- The packet is what the handler's next nonce makes of the serialized one. -/
def Authentic (box : SecretBox) (handler : CryptoHandler) (serialized : Bytes)
    (packet : Packet) : Prop :=
  ∃ encrypted sealed, serialized = encrypted :: packet.header :: sealed ∧
    box.openEasy handler.key handler.nonce.increment sealed = some packet.payload

/-- Reading a packet ends the call with an exception that is no `runtime_error`, or ends the
process. -/
def Stumbles {α : Type} (outcome : Outcome Exn α) : Prop :=
  (∃ exn, outcome = .raised exn ∧ ∀ what, exn ≠ .runtimeError what) ∨
    ∃ message, outcome = .aborted message

theorem not_stumbles_returned {α : Type} (value : α) :
    ¬ Stumbles (.returned value : Outcome Exn α) := by
  rintro (⟨_, impossible, _⟩ | ⟨_, impossible⟩)
  · cases impossible
  · cases impossible

def opening (box : SecretBox) (handler : CryptoHandler) (serialized : Bytes) :
    Action (Packet × CryptoHandler) :=
  Packet.deserialize serialized >>= fun packet => packet.decrypt box handler

theorem opening_eq (box : SecretBox) (handler : CryptoHandler) (serialized : Bytes) :
    (Opens box handler serialized ∧
      ∃ packet, Authentic box handler serialized packet ∧
        opening box handler serialized = .done (packet, handler.incrementNonce)) ∨
    (¬ Opens box handler serialized ∧
      ((∃ exn, opening box handler serialized = .raise exn ∧
          ∀ what, exn ≠ .runtimeError what) ∨
        ∃ message, opening box handler serialized = .abort message)) := by
  match serialized with
  | [] =>
      right
      exact ⟨by simp [Opens], Or.inl ⟨.outOfRange, rfl, by simp⟩⟩
  | [single] =>
      right
      exact ⟨by simp [Opens], Or.inl ⟨.outOfRange, rfl, by simp⟩⟩
  | encrypted :: header :: payload =>
      unfold opening
      simp only [Packet.deserialize, Program.pure_eq_done, Program.done_bind, Packet.decrypt,
        CryptoHandler.decrypt, CryptoHandler.incrementNonce, Opens, List.cons.injEq]
      by_cases plain : encrypted = 0
      · right
        simp [plain]
      · by_cases short : payload.length < crypto_secretbox_MACBYTES
        · right
          simp [plain, short]
        · cases opened : box.openEasy handler.key handler.nonce.increment payload with
          | none =>
              right
              simp [plain, short, opened]
          | some content =>
              left
              refine ⟨⟨encrypted, header, payload, content, ⟨rfl, rfl, rfl⟩, plain, by omega,
                opened⟩, ?_⟩
              refine ⟨{ encrypted := false, header := header, payload := content },
                ⟨encrypted, payload, rfl, opened⟩, ?_⟩
              simp [plain, short]

/-- A call that ends with the packet of a whole message, or stumbles over it. -/
theorem constructPartialMessage_eq (box : SecretBox) (reader : BackedReader) :
    (toInt32 reader.partialMessage.length - 4 =
        getPartialMessageLength reader.partialMessage ∧
      Opens box reader.cryptoHandler (serializedPacket reader.partialMessage) ∧
      ∃ packet, Authentic box reader.cryptoHandler (serializedPacket reader.partialMessage)
          packet ∧
        constructPartialMessage box reader = .done (.packet packet, reader.advanced)) ∨
    (¬ (toInt32 reader.partialMessage.length - 4 =
          getPartialMessageLength reader.partialMessage ∧
        Opens box reader.cryptoHandler (serializedPacket reader.partialMessage)) ∧
      ((∃ exn, constructPartialMessage box reader = .raise exn ∧
          ∀ what, exn ≠ .runtimeError what) ∨
        ∃ message, constructPartialMessage box reader = .abort message)) := by
  have unfolded : constructPartialMessage box reader =
      if toInt32 reader.partialMessage.length - 4 ≠
          getPartialMessageLength reader.partialMessage then
        .abort "Tried to construct a message that wasn't complete or over-filled"
      else opening box reader.cryptoHandler (serializedPacket reader.partialMessage) >>=
        fun opened => .done (.packet opened.1,
          { reader with
            cryptoHandler := opened.2
            partialMessage := []
            sequenceNumber := reader.sequenceNumber + 1 }) := by
    unfold constructPartialMessage opening serializedPacket
    simp only [Program.bind_bind]
    rfl
  rw [unfolded]
  by_cases complete : toInt32 reader.partialMessage.length - 4 =
      getPartialMessageLength reader.partialMessage
  · rw [if_neg (not_not_intro complete), and_iff_right complete, and_iff_right complete]
    rcases opening_eq box reader.cryptoHandler (serializedPacket reader.partialMessage) with
      ⟨opens, packet, authentic, opened⟩ | ⟨closed, ⟨exn, raised, other⟩ | ⟨message, aborted⟩⟩
    · rw [opened]
      exact Or.inl ⟨opens, packet, authentic, rfl⟩
    · rw [raised]
      exact Or.inr ⟨closed, Or.inl ⟨exn, rfl, other⟩⟩
    · rw [aborted]
      exact Or.inr ⟨closed, Or.inr ⟨message, rfl⟩⟩
  · rw [if_pos complete]
    exact Or.inr ⟨fun both => complete both.1, Or.inr ⟨_, rfl⟩⟩

/-! ### One call -/

theorem read_attached (box : SecretBox) (attached : reader.socketFd ≠ none)
    (unbuffered : reader.localBuffer = []) :
    ∃ fd, reader.read box = reader.readSocket box fd := by
  obtain ⟨fd, isFd⟩ := Option.ne_none_iff_exists'.mp attached
  exact ⟨fd, by rw [read, isFd, unbuffered]⟩

def Acceptable (box : SecretBox) (handler : CryptoHandler) (message : Bytes) : Prop :=
  toInt32 message.length - 4 = getPartialMessageLength message ∧
    Opens box handler (serializedPacket message)

/-- How a call ends that has taken `got`. -/
inductive Ends (fails : Prop) (box : SecretBox) (reader : BackedReader) (got : Bytes) :
    Outcome Exn (ReadResult × BackedReader) → Prop
  | failed (errno : Errno) :
      fails → Waiting (reader.partialMessage ++ got) →
      Ends fails box reader got (.returned (.error errno, reader.extended got))
  | incomplete :
      Waiting (reader.partialMessage ++ got) →
      Ends fails box reader got (.returned (.incomplete, reader.extended got))
  | packet {packet : Packet} :
      Whole (reader.partialMessage ++ got) →
      Acceptable box reader.cryptoHandler (reader.partialMessage ++ got) →
      Authentic box reader.cryptoHandler
        (serializedPacket (reader.partialMessage ++ got)) packet →
      constructPartialMessage box (reader.extended got) =
        .done (.packet packet, reader.advanced) →
      Ends fails box reader got (.returned (.packet packet, reader.advanced))
  | negative {outcome : Outcome Exn (ReadResult × BackedReader)} :
      Negative (reader.partialMessage ++ got) → Stumbles outcome →
      Ends fails box reader got outcome
  | unopened {outcome : Outcome Exn (ReadResult × BackedReader)} :
      Whole (reader.partialMessage ++ got) →
      ¬ Acceptable box reader.cryptoHandler (reader.partialMessage ++ got) →
      Stumbles outcome → Ends fails box reader got outcome

structure Takes (fails : Prop) (box : SecretBox) (reader : BackedReader) (conduit : Conduit)
    (outcome : Outcome Exn (ReadResult × BackedReader)) (after : Conduit) (got : Bytes) :
    Prop where
  bytes : conduit.bytes = got ++ after.bytes
  taken : after.taken = conduit.taken + got.length
  reach : after.reach ≤ max conduit.reach
    (conduit.taken + wanted (reader.partialMessage ++ got) - reader.partialMessage.length)
  progress : ¬ fails → Waiting reader.partialMessage → got ≠ []
  ends : Ends fails box reader got outcome

section Runs

variable {fails : Prop} {conduit after : Conduit} {fd : Fd}
  {outcome : Outcome Exn (ReadResult × BackedReader)}

theorem Ends.broken (errno : Errno) (isBroken : fails)
    (waiting : Waiting reader.partialMessage) :
    Ends fails box reader [] (.returned (.error errno, reader)) := by
  have failed : Ends fails box reader [] (.returned (.error errno, reader.extended [])) :=
    .failed errno isBroken (by rw [List.append_nil]; exact waiting)
  rwa [extended_nil] at failed

/-- The end of a call that went on after taking `first`. -/
theorem Ends.of_extended {first second : Bytes}
    (ends : Ends fails box (reader.extended first) second outcome) :
    Ends fails box reader (first ++ second) outcome := by
  have rejoined : (reader.extended first).partialMessage ++ second =
      reader.partialMessage ++ (first ++ second) := List.append_assoc _ _ _
  have sameReader : (reader.extended first).extended second =
      reader.extended (first ++ second) := extended_extended first second
  cases ends with
  | failed errno broken waiting =>
      rw [rejoined] at waiting
      rw [sameReader]
      exact .failed errno broken waiting
  | incomplete waiting =>
      rw [rejoined] at waiting
      rw [sameReader]
      exact .incomplete waiting
  | packet whole acceptable authentic constructed =>
      rw [rejoined] at whole acceptable authentic
      rw [sameReader] at constructed
      exact .packet whole acceptable authentic constructed
  | negative negative stumbles =>
      rw [rejoined] at negative
      exact .negative negative stumbles
  | unopened whole closed stumbles =>
      rw [rejoined] at whole closed
      exact .unopened whole closed stumbles

theorem constructPartialMessage_ends {got : Bytes}
    (whole : Whole (reader.partialMessage ++ got))
    (run : Program.Run (Conduit.answers fails) conduit
      (constructPartialMessage box (reader.extended got)) outcome after) :
    after = conduit ∧ Ends fails box reader got outcome := by
  have sameReader : (reader.extended got).advanced = reader.advanced := rfl
  rcases constructPartialMessage_eq box (reader.extended got) with
    ⟨complete, opens, packet, authentic, constructed⟩ |
      ⟨closed, ⟨exn, raised, other⟩ | ⟨message, aborted⟩⟩
  · rw [constructed] at run
    obtain ⟨rfl, rfl⟩ := Program.run_done_iff.mp run
    rw [sameReader] at constructed
    exact ⟨rfl, .packet whole ⟨complete, opens⟩ authentic constructed⟩
  · rw [raised] at run
    obtain ⟨rfl, rfl⟩ := Program.run_raise_iff.mp run
    exact ⟨rfl, .unopened whole closed (Or.inl ⟨exn, rfl, other⟩)⟩
  · rw [aborted] at run
    obtain ⟨rfl, rfl⟩ := Program.run_abort_iff.mp run
    exact ⟨rfl, .unopened whole closed (Or.inr ⟨message, rfl⟩)⟩

/-- A call that has a negative header on a conduit that does not break. -/
theorem Ends.of_negative {got : Bytes} (ends : Ends fails box reader got outcome)
    (negative : Negative (reader.partialMessage ++ got)) : Stumbles outcome := by
  cases ends with
  | failed _ _ waiting => exact absurd waiting negative.not_waiting
  | incomplete waiting => exact absurd waiting negative.not_waiting
  | packet whole _ _ _ => exact absurd negative whole.not_negative
  | negative _ stumbles => exact stumbles
  | unopened whole _ _ => exact absurd negative whole.not_negative

theorem Ends.of_whole {got : Bytes} (ends : Ends fails box reader got outcome)
    (whole : Whole (reader.partialMessage ++ got)) :
    (∃ packet, outcome = .returned (.packet packet, reader.advanced) ∧
      Acceptable box reader.cryptoHandler (reader.partialMessage ++ got) ∧
      Authentic box reader.cryptoHandler
        (serializedPacket (reader.partialMessage ++ got)) packet) ∨
    (¬ Acceptable box reader.cryptoHandler (reader.partialMessage ++ got) ∧
      Stumbles outcome) := by
  cases ends with
  | failed _ _ waiting => exact absurd waiting whole.not_waiting
  | incomplete waiting => exact absurd waiting whole.not_waiting
  | packet _ acceptable authentic _ => exact Or.inl ⟨_, rfl, acceptable, authentic⟩
  | negative negative _ => exact absurd negative whole.not_negative
  | unopened _ closed stumbles => exact Or.inr ⟨closed, stumbles⟩

/-- The bytes that are missing, when the header is there. -/
theorem remainder_eq {message : Bytes} (header : 4 ≤ message.length)
    (unfinished : message.length = 4 ∨ Waiting message) :
    toInt32 (getPartialMessageLength message - ((message.length : Int) - 4)) =
      getPartialMessageLength message - ((message.length : Int) - 4) := by
  have high := getPartialMessageLength_lt message
  have low := le_getPartialMessageLength message
  unfold Waiting at unfinished
  apply toInt32_eq_self
  · omega
  · omega

theorem readBody_takes
    (run : Program.Run (Conduit.answers fails) conduit (reader.readBody box fd) outcome after)
    (header : 4 ≤ reader.partialMessage.length)
    (unfinished : reader.partialMessage.length = 4 ∨ Waiting reader.partialMessage) :
    ∃ got, conduit.bytes = got ++ after.bytes ∧
      after.taken = conduit.taken + got.length ∧
      after.reach ≤ max conduit.reach
        (conduit.taken + wanted reader.partialMessage - reader.partialMessage.length) ∧
      (¬ fails → Waiting reader.partialMessage → got ≠ []) ∧
      Ends fails box reader got outcome := by
  have remainder := remainder_eq header unfinished
  have sameReader : reader.extended [] = reader := extended_nil
  have wantedEq : wanted reader.partialMessage =
      4 + (getPartialMessageLength reader.partialMessage).toNat := if_neg (by omega)
  unfold readBody at run
  simp only [remainder] at run
  by_cases zero : getPartialMessageLength reader.partialMessage -
      ((reader.partialMessage.length : Int) - 4) = 0
  · rw [if_neg (not_not_intro zero)] at run
    rw [← sameReader] at run
    have whole : Whole (reader.partialMessage ++ []) := by
      rw [List.append_nil]
      exact ⟨header, by omega⟩
    obtain ⟨rfl, ends⟩ := constructPartialMessage_ends whole run
    refine ⟨[], rfl, rfl, le_max_left _ _, ?_, ends⟩
    intro _ waiting
    unfold Waiting at waiting
    omega
  · rw [if_pos zero] at run
    by_cases negative : getPartialMessageLength reader.partialMessage -
        ((reader.partialMessage.length : Int) - 4) < 0
    · rw [if_pos negative] at run
      obtain ⟨rfl, rfl⟩ := Program.run_raise_iff.mp run
      refine ⟨[], rfl, rfl, le_max_left _ _, ?_, ?_⟩
      · intro _ waiting
        unfold Waiting at waiting
        omega
      · refine .negative ?_ (Or.inl ⟨.lengthError, rfl, by simp⟩)
        rw [List.append_nil]
        unfold Waiting at unfinished
        exact ⟨header, by omega⟩
    · rw [if_neg negative] at run
      have waiting : Waiting reader.partialMessage := Or.inr (by omega)
      have reached : conduit.taken + (getPartialMessageLength reader.partialMessage -
          ((reader.partialMessage.length : Int) - 4)).toNat =
            conduit.taken + wanted reader.partialMessage - reader.partialMessage.length := by
        rw [wantedEq]
        omega
      rcases Conduit.read_run run with
        ⟨got, rest, nonempty, bound, split, next⟩ | ⟨broken, next | ⟨errno, next⟩⟩
      · simp only at next
        by_cases last : getPartialMessageLength reader.partialMessage -
            ((reader.partialMessage.length : Int) - 4) - got.length = 0
        · rw [if_pos last] at next
          have whole : Whole (reader.partialMessage ++ got) := by
            rw [Whole, getPartialMessageLength_append header, List.length_append]
            omega
          obtain ⟨rfl, ends⟩ := constructPartialMessage_ends whole next
          refine ⟨got, split, rfl, ?_, fun _ _ => nonempty, ends⟩
          rw [← reached]
          exact Nat.le_refl _
        · rw [if_neg last] at next
          obtain ⟨rfl, rfl⟩ := Program.run_done_iff.mp next
          refine ⟨got, split, rfl, ?_, fun _ _ => nonempty, .incomplete (Or.inr ?_)⟩
          · rw [← reached]
            exact Nat.le_refl _
          · rw [getPartialMessageLength_append header, List.length_append]
            omega
      · obtain ⟨rfl, rfl⟩ := Program.run_done_iff.mp next
        refine ⟨[], rfl, rfl, ?_, fun unbroken => absurd broken unbroken, ?_⟩
        · rw [← reached]
          exact Nat.le_refl _
        · exact Ends.broken .epipe broken waiting
      · obtain ⟨rfl, rfl⟩ := Program.run_done_iff.mp next
        refine ⟨[], rfl, rfl, ?_, fun unbroken => absurd broken unbroken, ?_⟩
        · rw [← reached]
          exact Nat.le_refl _
        · exact Ends.broken errno broken waiting

theorem readSocket_takes
    (run : Program.Run (Conduit.answers fails) conduit (reader.readSocket box fd) outcome
      after)
    (waiting : Waiting reader.partialMessage) :
    ∃ got, Takes fails box reader conduit outcome after got := by
  unfold readSocket at run
  by_cases header : reader.partialMessage.length < 4
  · rw [if_pos header] at run
    rcases Conduit.read_run run with
      ⟨got, rest, nonempty, bound, split, next⟩ | ⟨broken, next | ⟨errno, next⟩⟩
    · simp only at next
      by_cases stillShort : (reader.partialMessage ++ got).length < 4
      · rw [if_pos stillShort] at next
        obtain ⟨rfl, rfl⟩ := Program.run_done_iff.mp next
        refine ⟨got, split, rfl, ?_, fun _ _ => nonempty, .incomplete (Or.inl stillShort)⟩
        rw [wanted, if_pos stillShort, Conduit.gave_reach]
        omega
      · rw [if_neg stillShort] at next
        have exactly : (reader.partialMessage ++ got).length = 4 := by
          rw [List.length_append] at stillShort ⊢
          omega
        have bodyRun : Program.Run (Conduit.answers fails) _
            ((reader.extended got).readBody box fd) outcome after := next
        obtain ⟨more, bytes, taken, reach, _, ends⟩ :=
          readBody_takes bodyRun (by simp only [extended]; omega) (Or.inl exactly)
        simp only [extended] at reach
        rw [Conduit.gave_bytes] at bytes
        rw [Conduit.gave_taken] at taken reach
        rw [Conduit.gave_reach] at reach
        have rejoined : reader.partialMessage ++ (got ++ more) =
            reader.partialMessage ++ got ++ more := (List.append_assoc _ _ _).symm
        refine ⟨got ++ more, ?_, ?_, ?_, ?_, ends.of_extended⟩
        · rw [split, bytes, List.append_assoc]
        · rw [taken, List.length_append, Nat.add_assoc]
        · rw [rejoined, wanted_append (by omega)]
          rw [List.length_append] at exactly reach
          have enough := four_le_wanted (reader.partialMessage ++ got)
          omega
        · intro _ _
          simp [nonempty]
    · obtain ⟨rfl, rfl⟩ := Program.run_done_iff.mp next
      refine ⟨[], rfl, rfl, ?_, fun unbroken => absurd broken unbroken,
        .broken .epipe broken waiting⟩
      rw [List.append_nil, wanted, if_pos header, Conduit.asked_reach]
      omega
    · obtain ⟨rfl, rfl⟩ := Program.run_done_iff.mp next
      refine ⟨[], rfl, rfl, ?_, fun unbroken => absurd broken unbroken,
        .broken errno broken waiting⟩
      rw [List.append_nil, wanted, if_pos header, Conduit.asked_reach]
      omega
  · rw [if_neg header] at run
    obtain ⟨got, bytes, taken, reach, progress, ends⟩ :=
      readBody_takes run (by omega) (Or.inr waiting)
    refine ⟨got, bytes, taken, ?_, progress, ends⟩
    rw [wanted_append (by omega)]
    exact reach

/-! ### A message that is there -/

theorem constructPartialMessage_runs (fails : Prop) (box : SecretBox) (reader : BackedReader)
    (conduit : Conduit) :
    ∃ outcome, Program.Run (Conduit.answers fails) conduit
      (constructPartialMessage box reader) outcome conduit := by
  rcases constructPartialMessage_eq box reader with
    ⟨_, _, packet, _, constructed⟩ | ⟨_, ⟨exn, raised, _⟩ | ⟨message, aborted⟩⟩
  · rw [constructed]
    exact ⟨_, .done _ _⟩
  · rw [raised]
    exact ⟨_, .raise _ _⟩
  · rw [aborted]
    exact ⟨_, .abort _ _⟩

theorem readBody_completes (reader : BackedReader) (conduit : Conduit) (fails : Prop)
    {got rest : Bytes} (fd : Fd)
    (header : 4 ≤ reader.partialMessage.length)
    (unfinished : reader.partialMessage.length = 4 ∨ Waiting reader.partialMessage)
    (split : conduit.bytes = got ++ rest)
    (ready : Whole (reader.partialMessage ++ got) ∨
      got = [] ∧ Negative reader.partialMessage) :
    ∃ outcome after, Program.Run (Conduit.answers fails) conduit (reader.readBody box fd)
      outcome after ∧ after.bytes = rest := by
  have remainder := remainder_eq header unfinished
  unfold readBody
  simp only [remainder]
  rcases ready with whole | ⟨rfl, negative⟩
  · rw [Whole, getPartialMessageLength_append header, List.length_append] at whole
    by_cases zero : got.length = 0
    · obtain rfl := List.length_eq_zero_iff.mp zero
      obtain ⟨outcome, run⟩ := constructPartialMessage_runs fails box reader conduit
      rw [if_neg (by simp at whole; omega)]
      exact ⟨outcome, conduit, run, by simpa using split⟩
    · rw [if_pos (by omega), if_neg (by omega)]
      obtain ⟨outcome, run⟩ := constructPartialMessage_runs fails box
        { reader with partialMessage := reader.partialMessage ++ got }
        (conduit.gave got.length got rest)
      have exactly : got.length = (getPartialMessageLength reader.partialMessage -
          ((reader.partialMessage.length : Int) - 4)).toNat := by
        omega
      rw [← exactly]
      refine ⟨outcome, conduit.gave got.length got rest, ?_, rfl⟩
      refine Conduit.run_read (List.ne_nil_of_length_pos (by omega)) rfl split ?_
      simp only
      rw [if_pos (by omega)]
      exact run
  · have four : reader.partialMessage.length = 4 := by
      rcases unfinished with four | short | waiting
      · exact four
      · omega
      · have below := negative.2
        omega
    have below := negative.2
    rw [if_pos (by omega), if_pos (by omega)]
    exact ⟨_, conduit, .raise _ _, by simpa using split⟩

/-- A call can take a message to its end, or to its header if that is negative. -/
theorem readSocket_completes (box : SecretBox) (fails : Prop) {got rest : Bytes} (fd : Fd)
    (waiting : Waiting reader.partialMessage) (split : conduit.bytes = got ++ rest)
    (ready : Whole (reader.partialMessage ++ got) ∨
      (reader.partialMessage ++ got).length = 4 ∧ Negative (reader.partialMessage ++ got)) :
    ∃ outcome after, Program.Run (Conduit.answers fails) conduit (reader.readSocket box fd)
      outcome after ∧ after.bytes = rest ∧
      Takes fails box reader conduit outcome after got := by
  have reads : ∃ outcome after, Program.Run (Conduit.answers fails) conduit
      (reader.readSocket box fd) outcome after ∧ after.bytes = rest := by
    unfold readSocket
    by_cases short : reader.partialMessage.length < 4
    · have enough : 4 ≤ (reader.partialMessage ++ got).length := by
        rcases ready with whole | negative
        · exact whole.1
        · omega
      rw [List.length_append] at enough
      have first : (got.take (4 - reader.partialMessage.length)).length =
          4 - reader.partialMessage.length := by
        rw [List.length_take]
        omega
      have header : (reader.partialMessage ++
          got.take (4 - reader.partialMessage.length)).length = 4 := by
        rw [List.length_append]
        omega
      have rejoined : reader.partialMessage ++ got.take (4 - reader.partialMessage.length) ++
          got.drop (4 - reader.partialMessage.length) = reader.partialMessage ++ got := by
        rw [List.append_assoc, List.take_append_drop]
      have readyBody : Whole (reader.partialMessage ++
            got.take (4 - reader.partialMessage.length) ++
              got.drop (4 - reader.partialMessage.length)) ∨
          got.drop (4 - reader.partialMessage.length) = [] ∧
            Negative (reader.partialMessage ++
              got.take (4 - reader.partialMessage.length)) := by
        rw [rejoined]
        rcases ready with whole | ⟨four, negative⟩
        · exact Or.inl whole
        · right
          rw [List.length_append] at four
          have none : got.drop (4 - reader.partialMessage.length) = [] := by
            rw [List.drop_eq_nil_iff]
            omega
          rw [none, List.append_nil] at rejoined
          exact ⟨none, rejoined ▸ negative⟩
      obtain ⟨outcome, after, run, left⟩ :=
        readBody_completes (reader.extended (got.take (4 - reader.partialMessage.length)))
          (conduit.gave (4 - reader.partialMessage.length)
            (got.take (4 - reader.partialMessage.length))
            (got.drop (4 - reader.partialMessage.length) ++ rest))
          fails fd (by simp only [extended]; omega) (Or.inl header) rfl readyBody
      refine ⟨outcome, after, ?_, left⟩
      rw [if_pos short]
      refine Conduit.run_read (List.ne_nil_of_length_pos (by omega)) first
        (by rw [split, ← List.append_assoc, List.take_append_drop]) ?_
      simp only
      rw [if_neg (by omega)]
      exact run
    · rw [if_neg short]
      refine readBody_completes reader conduit fails fd (by omega) (Or.inr waiting) split ?_
      rcases ready with whole | ⟨four, negative⟩
      · exact Or.inl whole
      · right
        rw [List.length_append] at four
        have none : got = [] := List.length_eq_zero_iff.mp (by omega)
        rw [none, List.append_nil] at negative
        exact ⟨none, negative⟩
  obtain ⟨outcome, after, run, left⟩ := reads
  obtain ⟨others, takes⟩ := readSocket_takes run waiting
  have same : others = got := by
    have both := takes.bytes
    rw [split, left] at both
    exact (List.append_cancel_right both).symm
  subst same
  exact ⟨outcome, after, run, left, takes⟩

end Runs

end BackedReader

end EternalTerminal
