/-
Bytes that no peer should send, on a connection that is established.

A read gives nothing that has not been authenticated.  It survives what arrives exactly when
nothing does that the reader cannot open: a frame that it cannot open ends the process.
-/

import EternalTerminal.Base.ReturningClient
import EternalTerminal.Base.SequenceNumbers
import EternalTerminal.Session.ByteReading
import EternalTerminal.Session.ConnectionRuns

namespace EternalTerminal

open Library

namespace BackedReader

variable {box : SecretBox} {reader : BackedReader} {conduit : Conduit}

/-! ### Between two calls -/

theorem conduit_matches (socket : PeerSocket) (conduit : Conduit) (operation : SocketCall)
    (answer : operation.Answer) (next : PeerSocket) (reads : ∃ fd count, operation = .read fd count)
    (together : conduit.bytes = socket.incoming)
    (answered : PeerSocket.answers socket operation answer next) :
    ∃ after, Conduit.answers True conduit operation answer after ∧
      after.bytes = next.incoming := by
  obtain ⟨fd, count, rfl⟩ := reads
  cases answer with
  | data got =>
      obtain ⟨split, nonempty, bound, _⟩ := answered
      exact ⟨_, ⟨nonempty, bound, _, together.trans split, rfl⟩, rfl⟩
  | closed =>
      cases answered
      exact ⟨_, ⟨trivial, rfl⟩, together⟩
  | failed errno =>
      cases answered
      exact ⟨_, ⟨trivial, rfl⟩, together⟩

def unshelved (reader : BackedReader) (handler : CryptoHandler) (rest : List Bytes) :
    BackedReader :=
  { reader with
    cryptoHandler := handler
    localBuffer := rest }

/-- A call opens the first entry of the backlog, without the socket. -/
theorem read_buffered {front : Bytes} {rest : List Bytes} (attached : reader.socketFd ≠ none)
    (buffered : reader.localBuffer = front :: rest) :
    reader.read box = opening box reader.cryptoHandler front >>= fun opened =>
      .done (.packet opened.1, reader.unshelved opened.2 rest) := by
  obtain ⟨fd, isFd⟩ := Option.ne_none_iff_exists'.mp attached
  unfold read unshelved opening
  simp only [isFd, buffered, Program.bind_bind]
  rfl

theorem read_buffered_eq (box : SecretBox) {front : Bytes} {rest : List Bytes}
    (attached : reader.socketFd ≠ none) (buffered : reader.localBuffer = front :: rest) :
    (Opens box reader.cryptoHandler front ∧
      ∃ packet, Authentic box reader.cryptoHandler front packet ∧
        reader.read box = .done (.packet packet,
          reader.unshelved reader.cryptoHandler.incrementNonce rest)) ∨
    (¬ Opens box reader.cryptoHandler front ∧
      ((∃ exn, reader.read box = .raise exn ∧ ∀ what, exn ≠ .runtimeError what) ∨
        ∃ message, reader.read box = .abort message)) := by
  rw [read_buffered attached buffered]
  rcases opening_eq box reader.cryptoHandler front with
    ⟨opens, packet, authentic, opened⟩ | ⟨closed, ⟨exn, raised, other⟩ | ⟨message, aborted⟩⟩
  · rw [opened]
    exact Or.inl ⟨opens, packet, authentic, rfl⟩
  · rw [raised]
    exact Or.inr ⟨closed, Or.inl ⟨exn, rfl, other⟩⟩
  · rw [aborted]
    exact Or.inr ⟨closed, Or.inr ⟨message, rfl⟩⟩

theorem Waiting.after_read {result : ReadResult} {after : BackedReader} {last : Conduit}
    (waiting : Waiting reader.partialMessage)
    (run : Program.Run (Conduit.answers True) conduit (reader.read box)
      (.returned (result, after)) last) :
    Waiting after.partialMessage := by
  cases attached : reader.socketFd with
  | none =>
      rw [read, attached] at run
      cases run
      exact waiting
  | some fd =>
      have live : reader.socketFd ≠ none := by simp [attached]
      cases buffered : reader.localBuffer with
      | nil =>
          rw [read, attached, buffered] at run
          obtain ⟨got, takes⟩ := readSocket_takes run waiting
          have ends := takes.ends
          cases ends with
          | failed _ _ still => exact still
          | incomplete still => exact still
          | packet _ _ _ _ => exact waiting_nil
          | negative _ stumbles => exact absurd stumbles (not_stumbles_returned _)
          | unopened _ _ stumbles => exact absurd stumbles (not_stumbles_returned _)
      | cons front rest =>
          rcases read_buffered_eq box live buffered with
            ⟨_, packet, _, opened⟩ | ⟨_, ⟨exn, raised, _⟩ | ⟨message, aborted⟩⟩
          · rw [opened] at run
            cases run
            exact waiting
          · rw [raised] at run
            cases run
          · rw [aborted] at run
            cases run

/-- Every reader waits for the rest of a message, between two calls. -/
theorem waiting_of_reachable {history : ReaderHistory}
    (reached : (readerSystem box).Reachable history) :
    Waiting history.reader.partialMessage := by
  apply reached.invariant
  · intro state ⟨cryptoHandler, socketFd, fresh⟩
    rw [fresh]
    exact waiting_nil
  · intro before event after waiting step
    cases step with
    | @read socket next result reader run =>
        have together : (Conduit.empty.append socket.incoming).bytes = socket.incoming := rfl
        obtain ⟨last, conduitRun, _⟩ := Program.Run.transport conduit_matches run
          (read_performs (fun fd count => ⟨fd, count, rfl⟩) box before.reader) together
        exact waiting.after_read conduitRun
    | invalidateSocket => exact waiting
    | revive newSocketFd entries dead => exact waiting_nil

/-! ### What the reader cannot open -/

/-- What is in the backlog and what has arrived hold something that the reader stumbles over:
an entry or a whole frame that the next nonce does not open, or a negative length. -/
inductive Poisoned (box : SecretBox) : CryptoHandler → List Bytes → Bytes → Prop
  | entry {handler : CryptoHandler} {front stream : Bytes} {rest : List Bytes} :
      ¬ Opens box handler front → Poisoned box handler (front :: rest) stream
  | later_entry {handler : CryptoHandler} {front stream : Bytes} {rest : List Bytes} :
      Opens box handler front → Poisoned box handler.incrementNonce rest stream →
      Poisoned box handler (front :: rest) stream
  | negative {handler : CryptoHandler} {stream : Bytes} :
      Negative stream → Poisoned box handler [] stream
  | frame {handler : CryptoHandler} {message rest : Bytes} :
      Whole message → ¬ Acceptable box handler message →
      Poisoned box handler [] (message ++ rest)
  | later_frame {handler : CryptoHandler} {message rest : Bytes} :
      Whole message → Acceptable box handler message →
      Poisoned box handler.incrementNonce [] rest →
      Poisoned box handler [] (message ++ rest)

theorem Whole.unique {message other rest otherRest : Bytes} (whole : Whole message)
    (otherWhole : Whole other) (same : message ++ rest = other ++ otherRest) :
    message = other ∧ rest = otherRest := by
  have announced := congrArg getPartialMessageLength same
  rw [getPartialMessageLength_append whole.1, getPartialMessageLength_append otherWhole.1]
    at announced
  have lengths := whole.2
  rw [announced, ← otherWhole.2] at lengths
  exact List.append_inj same (Int.ofNat.inj lengths)

theorem not_poisoned_of_waiting {handler : CryptoHandler} {stream : Bytes}
    (waiting : Waiting stream) : ¬ Poisoned box handler [] stream := by
  have noFrame : ∀ message rest : Bytes, stream = message ++ rest → ¬ Whole message := by
    intro message rest same whole
    have length := congrArg List.length same
    rw [List.length_append] at length
    rcases waiting with short | short
    · have header := whole.1
      omega
    · rw [same, getPartialMessageLength_append whole.1, ← same] at short
      have ends := whole.2
      omega
  intro poisoned
  cases poisoned with
  | negative negative => exact negative.not_waiting waiting
  | frame whole _ => exact noFrame _ _ rfl whole
  | later_frame whole _ _ => exact noFrame _ _ rfl whole

theorem Poisoned.behind {handler : CryptoHandler} {message rest : Bytes}
    (poisoned : Poisoned box handler [] (message ++ rest)) (whole : Whole message)
    (acceptable : Acceptable box handler message) :
    Poisoned box handler.incrementNonce [] rest := by
  generalize isStream : message ++ rest = stream at poisoned
  cases poisoned with
  | negative negative =>
      obtain ⟨header, ends⟩ := id whole
      rw [← isStream] at negative
      have below := negative.2
      rw [getPartialMessageLength_append header] at below
      omega
  | frame otherWhole closed =>
      obtain ⟨rfl, rfl⟩ := whole.unique otherWhole isStream
      exact absurd acceptable closed
  | later_frame otherWhole _ later =>
      obtain ⟨rfl, rfl⟩ := whole.unique otherWhole isStream
      exact later

/-- The reader waits for the rest of a message, and nothing before it is poisoned. -/
structure Healthy (box : SecretBox) (reader : BackedReader) (conduit : Conduit) : Prop where
  waiting : Waiting reader.partialMessage
  clean : ¬ Poisoned box reader.cryptoHandler reader.localBuffer
    (reader.partialMessage ++ conduit.bytes)

theorem Negative.append {message : Bytes} (negative : Negative message) (more : Bytes) :
    Negative (message ++ more) := by
  refine ⟨?_, ?_⟩
  · rw [List.length_append]
    exact Nat.le_add_right_of_le negative.1
  · rw [getPartialMessageLength_append negative.1]
    exact negative.2

theorem Healthy.read {outcome : Outcome Exn (ReadResult × BackedReader)} {last : Conduit}
    (healthy : Healthy box reader conduit) (attached : reader.socketFd ≠ none)
    (run : Program.Run (Conduit.answers True) conduit (reader.read box) outcome last) :
    ∃ result after, outcome = .returned (result, after) ∧
      after.socketFd = reader.socketFd ∧ Healthy box after last ∧
      ∀ packet, result = .packet packet →
        ∃ serialized, Authentic box reader.cryptoHandler serialized packet := by
  have clean := healthy.clean
  cases buffered : reader.localBuffer with
  | cons front rest =>
      rw [buffered] at clean
      rcases read_buffered_eq box attached buffered with
        ⟨opens, packet, authentic, opened⟩ | ⟨closed, _⟩
      · rw [opened] at run
        obtain ⟨rfl, rfl⟩ := Program.run_done_iff.mp run
        refine ⟨_, _, rfl, rfl, ⟨healthy.waiting, fun poisoned => ?_⟩, ?_⟩
        · exact clean (.later_entry opens poisoned)
        · intro other same
          cases same
          exact ⟨front, authentic⟩
      · exact absurd (.entry closed) clean
  | nil =>
      rw [buffered] at clean
      obtain ⟨fd, isSocket⟩ := read_attached box attached buffered
      rw [isSocket] at run
      obtain ⟨got, takes⟩ := readSocket_takes run healthy.waiting
      rw [takes.bytes, ← List.append_assoc] at clean
      have unchanged : ¬ Poisoned box reader.cryptoHandler reader.localBuffer
          (reader.partialMessage ++ got ++ last.bytes) := by
        rw [buffered]
        exact clean
      have ends := takes.ends
      cases ends with
      | failed errno _ waiting =>
          exact ⟨_, _, rfl, rfl, ⟨waiting, unchanged⟩, fun _ impossible => nomatch impossible⟩
      | incomplete waiting =>
          exact ⟨_, _, rfl, rfl, ⟨waiting, unchanged⟩, fun _ impossible => nomatch impossible⟩
      | packet whole acceptable authentic _ =>
          refine ⟨_, _, rfl, rfl, ⟨waiting_nil, ?_⟩, ?_⟩
          · intro poisoned
            rw [advanced, buffered] at poisoned
            exact clean (.later_frame whole acceptable poisoned)
          · intro other same
            cases same
            exact ⟨_, authentic⟩
      | negative negative _ => exact absurd (.negative (negative.append _)) clean
      | unopened whole closed _ => exact absurd (.frame whole closed) clean

inductive Stumbling (box : SecretBox) : BackedReader → Conduit → Prop
  | now {reader : BackedReader} {conduit last : Conduit}
      {outcome : Outcome Exn (ReadResult × BackedReader)} :
      Program.Run (Conduit.answers True) conduit (reader.read box) outcome last →
      Stumbles outcome → Stumbling box reader conduit
  | later {reader after : BackedReader} {conduit last : Conduit} {packet : Packet} :
      Program.Run (Conduit.answers True) conduit (reader.read box)
        (.returned (.packet packet, after)) last →
      after.socketFd = reader.socketFd → Stumbling box after last →
      Stumbling box reader conduit

theorem Waiting.split {message rest : Bytes} (waiting : Waiting reader.partialMessage)
    (whole : Whole message)
    (stream : message ++ rest = reader.partialMessage ++ conduit.bytes) :
    ∃ got, message = reader.partialMessage ++ got ∧ conduit.bytes = got ++ rest := by
  have shorter : reader.partialMessage.length ≤ message.length := by
    rcases waiting with short | unfinished
    · exact Nat.le_of_lt (Nat.lt_of_lt_of_le short whole.1)
    · by_cases header : reader.partialMessage.length < 4
      · exact Nat.le_of_lt (Nat.lt_of_lt_of_le header whole.1)
      · have same := congrArg getPartialMessageLength stream
        rw [getPartialMessageLength_append whole.1,
          getPartialMessageLength_append (Nat.not_lt.mp header)] at same
        have length := whole.2
        omega
  obtain ⟨got, rejoined⟩ :=
    List.prefix_of_prefix_length_le ⟨conduit.bytes, stream.symm⟩ ⟨rest, rfl⟩ shorter
  refine ⟨got, rejoined.symm, ?_⟩
  rw [← rejoined, List.append_assoc] at stream
  exact (List.append_cancel_left stream).symm

theorem Poisoned.stumbling {handler : CryptoHandler} {backlog : List Bytes} {stream : Bytes}
    (poisoned : Poisoned box handler backlog stream) (attached : reader.socketFd ≠ none)
    (waiting : Waiting reader.partialMessage) (sameHandler : reader.cryptoHandler = handler)
    (sameBacklog : reader.localBuffer = backlog)
    (sameStream : stream = reader.partialMessage ++ conduit.bytes) :
    Stumbling box reader conduit := by
  induction poisoned generalizing reader conduit with
  | entry closed =>
      rw [← sameHandler] at closed
      rcases read_buffered_eq box attached sameBacklog with
        ⟨opens, _⟩ | ⟨_, ⟨exn, raised, other⟩ | ⟨message, aborted⟩⟩
      · exact absurd opens closed
      · have run : Program.Run (Conduit.answers True) conduit (reader.read box)
            (.raised exn) conduit := by
          rw [raised]
          exact .raise _ _
        exact .now run (Or.inl ⟨exn, rfl, other⟩)
      · have run : Program.Run (Conduit.answers True) conduit (reader.read box)
            (.aborted message) conduit := by
          rw [aborted]
          exact .abort _ _
        exact .now run (Or.inr ⟨message, rfl⟩)
  | @later_entry handler front stream rest opens _ ih =>
      rw [← sameHandler] at opens
      rcases read_buffered_eq box attached sameBacklog with
        ⟨_, packet, _, opened⟩ | ⟨closed, _⟩
      · have run : Program.Run (Conduit.answers True) conduit (reader.read box)
            (.returned (.packet packet,
              reader.unshelved reader.cryptoHandler.incrementNonce rest)) conduit := by
          rw [opened]
          exact .done _ _
        refine .later run rfl ?_
        exact ih attached waiting (by rw [unshelved, sameHandler]) rfl sameStream
      · exact absurd opens closed
  | negative negative =>
      obtain ⟨fd, isSocket⟩ := read_attached box attached sameBacklog
      rw [sameStream] at negative
      have short : reader.partialMessage.length < 4 := by
        rcases waiting with short | unfinished
        · exact short
        · by_contra header
          have below := negative.2
          rw [getPartialMessageLength_append (Nat.not_lt.mp header)] at below
          omega
      have header : (reader.partialMessage ++
          conduit.bytes.take (4 - reader.partialMessage.length)).length = 4 := by
        have enough := negative.1
        rw [List.length_append] at enough ⊢
        rw [List.length_take]
        omega
      have isNegative : Negative (reader.partialMessage ++
          conduit.bytes.take (4 - reader.partialMessage.length)) := by
        refine ⟨Nat.le_of_eq header.symm, ?_⟩
        have below := negative.2
        rw [← List.take_append_drop (4 - reader.partialMessage.length) conduit.bytes,
          ← List.append_assoc, getPartialMessageLength_append (Nat.le_of_eq header.symm)]
          at below
        exact below
      obtain ⟨outcome, last, run, _, takes⟩ := readSocket_completes box True fd waiting
        (List.take_append_drop (4 - reader.partialMessage.length) conduit.bytes).symm
        (Or.inr ⟨header, isNegative⟩)
      exact .now (isSocket ▸ run) (takes.ends.of_negative isNegative)
  | frame whole closed =>
      obtain ⟨fd, isSocket⟩ := read_attached box attached sameBacklog
      obtain ⟨got, rfl, split⟩ := waiting.split whole sameStream
      obtain ⟨outcome, last, run, _, takes⟩ :=
        readSocket_completes box True fd waiting split (Or.inl whole)
      rw [← sameHandler] at closed
      rcases takes.ends.of_whole whole with ⟨_, _, acceptable, _⟩ | ⟨_, stumbles⟩
      · exact absurd acceptable closed
      · exact .now (isSocket ▸ run) stumbles
  | later_frame whole acceptable _ ih =>
      obtain ⟨fd, isSocket⟩ := read_attached box attached sameBacklog
      obtain ⟨got, rfl, split⟩ := waiting.split whole sameStream
      obtain ⟨outcome, last, run, left, takes⟩ :=
        readSocket_completes box True fd waiting split (Or.inl whole)
      rw [← sameHandler] at acceptable
      rcases takes.ends.of_whole whole with ⟨packet, rfl, _, _⟩ | ⟨closed, _⟩
      · rw [← isSocket] at run
        refine .later run rfl ?_
        exact ih attached waiting_nil (by rw [advanced, sameHandler]) sameBacklog left.symm
      · exact absurd acceptable closed

end BackedReader

namespace Connection

variable {box : SecretBox} {connection : Connection} {conduit : Conduit} {fd : Fd}

/-- Calls of `read` that return. -/
inductive Reads (box : SecretBox) : Connection → Conduit → Connection → Conduit → Prop
  | nil (connection : Connection) (conduit : Conduit) :
      Reads box connection conduit connection conduit
  | cons {connection between after : Connection} {conduit middle last : Conduit}
      {delivered : Option Packet} :
      Program.Run (Conduit.answers True) conduit (connection.read box)
        (.returned (delivered, between)) middle →
      Reads box between middle after last → Reads box connection conduit after last

/-- Both `read`s return, what is delivered has been authenticated, and at worst the socket is
closed. -/
structure ReadsNormally (box : SecretBox) (connection : Connection) (conduit : Conduit) :
    Prop where
  reader {outcome : Outcome Exn (EternalTerminal.ReadResult × BackedReader)}
      {last : Conduit} :
    Program.Run (Conduit.answers True) conduit (connection.reader.read box) outcome last →
    ∃ result after, outcome = .returned (result, after)
  connection {outcome : Outcome Exn (Option Packet × Connection)} {last : Conduit} :
    Program.Run (Conduit.answers True) conduit (connection.read box) outcome last →
    ∃ delivered after, outcome = .returned (delivered, after) ∧
      (∀ packet, delivered = some packet →
        ∃ serialized, BackedReader.Authentic box connection.reader.cryptoHandler serialized
          packet) ∧
      (after.socketFd = connection.socketFd ∨ after.Dead)

def Survives (box : SecretBox) (connection : Connection) (conduit : Conduit) : Prop :=
  ∀ after last, Reads box connection conduit after last → ReadsNormally box after last

/-- A connection that `read` has closed, or one whose reader is healthy. -/
def Sound (box : SecretBox) (fd : Fd) (connection : Connection) (conduit : Conduit) : Prop :=
  connection.Dead ∨ connection.Live fd ∧ connection.reader.Healthy box conduit

theorem closeSocket_conduit {outcome : Outcome Exn Connection} {last : Conduit}
    (run : Program.Run (Conduit.answers True) conduit connection.closeSocket outcome last) :
    outcome = .returned connection.closed := by
  unfold closeSocket at run
  unfold closed
  cases open? : connection.socketFd with
  | none =>
      rw [open?] at run
      exact (Program.run_done_iff.mp run).1
  | some fd =>
      rw [open?] at run
      obtain ⟨answer, between, answered, rest⟩ := Program.run_perform_iff.mp run
      exact (Program.run_done_iff.mp rest).1

theorem Sound.read {outcome : Outcome Exn (Option Packet × Connection)} {last : Conduit}
    (sound : Sound box fd connection conduit)
    (run : Program.Run (Conduit.answers True) conduit (connection.read box) outcome last) :
    ∃ delivered after, outcome = .returned (delivered, after) ∧
      (∀ packet, delivered = some packet →
        ∃ serialized, BackedReader.Authentic box connection.reader.cryptoHandler serialized
          packet) ∧
      (after.socketFd = connection.socketFd ∨ after.Dead) ∧ Sound box fd after last := by
  rcases sound with dead | ⟨live, healthy⟩
  · have idle : connection.read box = .done (none, connection) := by
      rw [Connection.read, BackedReader.read, dead.reader]
      rfl
    rw [idle] at run
    obtain ⟨rfl, rfl⟩ := Program.run_done_iff.mp run
    exact ⟨none, connection, rfl, by simp, Or.inr dead,
      Or.inl dead⟩
  · have attached : connection.reader.socketFd ≠ none := by simp [live.reader]
    rcases Program.run_bind_iff.mp run with
      ⟨⟨result, reader⟩, between, readRun, rest⟩ | ⟨exn, rfl, raised⟩ | ⟨message, rfl, aborted⟩
    · obtain ⟨_, _, same, sameFd, still, authentic⟩ := healthy.read attached readRun
      cases same
      have stillLive : { connection with reader := reader }.Live fd :=
        ⟨live.own, sameFd.trans live.reader, live.writer⟩
      cases result with
      | error errno =>
          rcases Program.run_bind_iff.mp rest with
            ⟨severed, middle, closeRun, ended⟩ | ⟨exn, _, raised⟩ | ⟨message, _, aborted⟩
          · have closed := closeSocket_conduit closeRun
            obtain ⟨rfl, rfl⟩ := Program.run_done_iff.mp ended
            rw [closed_of_live (by simp [live.own])] at closed
            cases closed
            exact ⟨none, _, rfl, by simp,
              Or.inr (invalidated_dead _), Or.inl (invalidated_dead _)⟩
          · cases closeSocket_conduit raised
          · cases closeSocket_conduit aborted
      | incomplete =>
          obtain ⟨rfl, rfl⟩ := Program.run_done_iff.mp rest
          exact ⟨none, _, rfl, by simp, Or.inl rfl,
            Or.inr ⟨stillLive, still⟩⟩
      | packet packet =>
          obtain ⟨rfl, rfl⟩ := Program.run_done_iff.mp rest
          refine ⟨some packet, _, rfl, ?_, Or.inl rfl, Or.inr ⟨stillLive, still⟩⟩
          intro other same
          cases same
          exact authentic packet rfl
    · obtain ⟨_, _, impossible, _⟩ := healthy.read attached raised
      cases impossible
    · obtain ⟨_, _, impossible, _⟩ := healthy.read attached aborted
      cases impossible

theorem Sound.readsNormally (sound : Sound box fd connection conduit) :
    ReadsNormally box connection conduit := by
  refine
    { reader := ?_
      connection := ?_ }
  · intro outcome last run
    rcases sound with dead | ⟨live, healthy⟩
    · rw [BackedReader.read, dead.reader] at run
      exact ⟨_, _, (Program.run_done_iff.mp run).1⟩
    · obtain ⟨result, after, returned, _⟩ := healthy.read (by simp [live.reader]) run
      exact ⟨result, after, returned⟩
  · intro outcome last run
    obtain ⟨delivered, after, returned, authentic, severed, _⟩ := sound.read run
    exact ⟨delivered, after, returned, authentic, severed⟩

theorem Sound.survives (sound : Sound box fd connection conduit) :
    Survives box connection conduit := by
  intro after last reads
  induction reads with
  | nil connection conduit => exact sound.readsNormally
  | cons run _ ih =>
      obtain ⟨_, _, same, _, _, still⟩ := sound.read run
      cases same
      exact ih still

theorem not_survives_of_stumbling {reader : BackedReader}
    (stumbling : reader.Stumbling box conduit) (attached : reader.socketFd ≠ none)
    (own : connection.reader = reader) : ¬ Survives box connection conduit := by
  intro survives
  induction stumbling generalizing connection with
  | now run stumbles =>
      rw [← own] at run
      obtain ⟨_, _, rfl⟩ := (survives _ _ (.nil _ _)).reader run
      exact BackedReader.not_stumbles_returned _ stumbles
  | @later reader after conduit last packet run sameFd _ ih =>
      rw [← own] at run
      have readRun : Program.Run (Conduit.answers True) conduit (connection.read box)
          (.returned (some packet, { connection with reader := after })) last :=
        run.bind (.done _ _)
      refine @ih { connection with reader := after } (sameFd ▸ attached) rfl ?_
      intro final end_ reads
      exact survives final end_ (.cons readRun reads)

/-- Whatever arrives, and in whatever pieces, a connection survives it exactly when the reader
can open all that is whole. -/
theorem survives_iff {history : ReaderHistory} (live : connection.Live fd)
    (reached : (readerSystem box).Reachable history)
    (own : connection.reader = history.reader) :
    Survives box connection conduit ↔
      ¬ BackedReader.Poisoned box connection.reader.cryptoHandler
        connection.reader.localBuffer
        (connection.reader.partialMessage ++ conduit.bytes) := by
  have waiting := BackedReader.waiting_of_reachable reached
  rw [← own] at waiting
  constructor
  · intro survives poisoned
    have attached : connection.reader.socketFd ≠ none := by simp [live.reader]
    exact not_survives_of_stumbling (poisoned.stumbling attached waiting rfl rfl rfl) attached
      rfl survives
  · intro clean
    exact Sound.survives (Or.inr ⟨live, waiting, clean⟩)

section Example

def established : Connection :=
  Connection.create Key.zero SERVER_CLIENT_NONCE_MSB CLIENT_SERVER_NONCE_MSB (some 5)

theorem established_live : established.Live 5 := ⟨rfl, rfl, rfl⟩

/-- The first packet of the peer, and the beginning of what follows. -/
def firstFrame : Bytes :=
  BackedWriter.frame ((Packet.plain 7 [104, 105]).sealed SecretBox.nullCipher
    established.reader.cryptoHandler)

theorem survives_iff_first_frame :
    Survives SecretBox.nullCipher established (Conduit.empty.append (firstFrame ++ [255, 1])) := by
  refine (@survives_iff _ _ _ _
    { reader := established.reader
      received := 0 } established_live (.start ⟨_, _, rfl⟩) rfl).mpr ?_
  change ¬ BackedReader.Poisoned SecretBox.nullCipher established.reader.cryptoHandler []
    (firstFrame ++ [255, 1])
  have whole : BackedReader.Whole firstFrame := by decide +kernel
  have acceptable : BackedReader.Acceptable SecretBox.nullCipher
      established.reader.cryptoHandler firstFrame := by
    refine ⟨by decide +kernel, ?_⟩
    exact ⟨1, 7, _, _, rfl, by decide, by decide +kernel, rfl⟩
  intro poisoned
  exact BackedReader.not_poisoned_of_waiting (Or.inl (by decide))
    (poisoned.behind whole acceptable)

/-- Six bytes that announce an unencrypted packet end the process. -/
theorem plain_packet_ends_process :
    ¬ Survives SecretBox.nullCipher established
      (Conduit.empty.append [0, 0, 0, 2, 0, 7]) := by
  have closed : ¬ BackedReader.Acceptable SecretBox.nullCipher
      established.reader.cryptoHandler [0, 0, 0, 2, 0, 7] := by
    intro ⟨_, encrypted, header, payload, plain, same, nonzero, _⟩
    change [0, 7] = encrypted :: header :: payload at same
    cases same
    exact nonzero rfl
  have poisoned : BackedReader.Poisoned SecretBox.nullCipher established.reader.cryptoHandler
      [] ([0, 0, 0, 2, 0, 7] ++ []) := .frame (by decide) closed
  have attached : established.reader.socketFd ≠ none := by decide
  exact not_survives_of_stumbling
    (poisoned.stumbling attached BackedReader.waiting_nil rfl rfl rfl) attached rfl

end Example

end Connection

end EternalTerminal
