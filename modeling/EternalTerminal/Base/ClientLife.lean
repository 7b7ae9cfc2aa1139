/-
The life of a `ClientConnection` object, with the descriptors it opens and closes.

`connect` publishes the descriptor before the handshake.  When the handshake fails, it closes the
descriptor and leaves the number in the object, so that whatever closes the object's socket later
closes the number once more.
-/

import EternalTerminal.Base.ClientConnection
import EternalTerminal.Base.Descriptors
import EternalTerminal.Library.Method
import EternalTerminal.Library.TransitionSystem
import Mathlib.Data.Fintype.EquivFin

namespace EternalTerminal

open Library
open SocketHandler

/-- The fields of a `ClientConnection` that change. -/
structure ClientObject where
  reader : Option BackedReader
  writer : Option BackedWriter
  socketFd : Option Fd
  shuttingDown : Bool

namespace ClientObject

def created : ClientObject :=
  { reader := none
    writer := none
    socketFd := none
    shuttingDown := false }

/-- `connect` after the descriptor is published. -/
def handshake (proto : Protobuf) (id key : Bytes) (fd : Fd) :
    Method sockets ClientObject Exn Bool := do
  Method.call (writeProto proto.connectRequest fd
    { clientId := id, version := Int32.ofInt PROTOCOL_VERSION })
  let response ← Method.call (readProto proto.connectResponse fd)
  if response.status ≠ .NEW_CLIENT ∧ response.status ≠ .RETURNING_CLIENT then
    .raise (.runtimeError (ClientConnection.connectError response))
  else do
    let readerHandler ← Method.call (CryptoHandler.create key SERVER_CLIENT_NONCE_MSB)
    let object ← Method.get
    Method.set
      { object with reader := some (BackedReader.create readerHandler (some fd)) }
    let writerHandler ← Method.call (CryptoHandler.create key CLIENT_SERVER_NONCE_MSB)
    let object ← Method.get
    Method.set
      { object with writer := some (BackedWriter.create writerHandler (some fd)) }
    pure true

/-- The `try` block; `opened` is what `socketHandler->connect` returns. -/
def connectBody (proto : Protobuf) (id key : Bytes) (opened : Option Fd) :
    Method sockets ClientObject Exn Bool := do
  let object ← Method.get
  Method.set { object with socketFd := opened }
  match opened with
  | none => pure false
  | some fd => handshake proto id key fd

/-- The `catch` block.  It does not reset `socketFd`. -/
def connectCaught : Exn → Method sockets ClientObject Exn Bool
  | .runtimeError _ => do
      let object ← Method.get
      match object.socketFd with
      | none => pure false
      | some fd => do
          Method.call (SocketHandler.close fd)
          pure false
  | exn => .raise exn

def connect (proto : Protobuf) (id key : Bytes) (opened : Option Fd) :
    Method sockets ClientObject Exn Bool :=
  tryCatch (connectBody proto id key opened) connectCaught

def closeSocket : Method sockets ClientObject Exn Unit := do
  let object ← Method.get
  match object.socketFd with
  | none => pure ()
  | some fd => do
      Method.set { object with reader := object.reader.map BackedReader.invalidateSocket }
      let object ← Method.get
      Method.set { object with writer := object.writer.map BackedWriter.invalidateSocket }
      let object ← Method.get
      Method.set { object with socketFd := none }
      Method.call (SocketHandler.close fd)

def shutdown : Method sockets ClientObject Exn Unit := do
  let object ← Method.get
  Method.set { object with shuttingDown := true }
  closeSocket

/-- `~ClientConnection` and then `~Connection`. -/
def destructor : Method sockets ClientObject Exn Unit := do
  closeSocket
  let object ← Method.get
  match object.socketFd with
  | none => pure ()
  | some _ => closeSocket

variable {proto : Protobuf} {id key : Bytes} {object state : ClientObject} {fd : Fd}
  {world after : Descriptors}

/-! ### What the methods do -/

/-- The object with the reader and the writer of an accepted connection. -/
def accepted (object : ClientObject) : Option Connection → Bool × ClientObject
  | none => (false, object)
  | some connection =>
      (true,
        { object with
          reader := some connection.reader
          writer := some connection.writer })

/-- The handshake does what `requestConnection` computes. -/
theorem handshake_atomic (proto : Protobuf) (id key : Bytes) (object : ClientObject) (fd : Fd) :
    Method.Atomic object (handshake proto id key fd)
      (ClientConnection.requestConnection proto id key fd >>= fun result =>
        .done (object.accepted result)) := by
  unfold ClientConnection.requestConnection handshake
  simp only [Program.bind_bind]
  refine .call_bind fun _ => .call_bind fun response => ?_
  by_cases refused : response.status ≠ .NEW_CLIENT ∧ response.status ≠ .RETURNING_CLIENT
  · rw [if_pos refused, if_pos refused]
    exact .raise _ _
  · rw [if_neg refused, if_neg refused]
    by_cases valid : key.length = crypto_secretbox_KEYBYTES
    · simp only [ClientConnection.establish, CryptoHandler.create, dif_pos valid,
        Program.pure_eq_done, Program.done_bind, Method.call]
      refine .of_commits ?_
      refine .get_bind (.set_bind ?_)
      refine .get_bind (.set_bind ?_)
      exact .done true _
    · simp only [ClientConnection.establish, CryptoHandler.create, dif_neg valid,
        Program.abort_bind, Method.call]
      exact .abort _ _

theorem requestConnection_closesNothing (proto : Protobuf) (id key : Bytes) (fd : Fd) :
    (ClientConnection.requestConnection proto id key fd).Performs
      Descriptors.closesNothing := by
  refine (writeProto_closesNothing _ fd _).bind fun _ => ?_
  refine (readProto_closesNothing _ fd).bind fun response => ?_
  split
  · exact .raise _
  · by_cases valid : key.length = crypto_secretbox_KEYBYTES
    · rw [ClientConnection.establish_valid { bytes := key, length_eq := valid }]
      exact .done _
    · rw [ClientConnection.establish_invalid valid]
      exact .abort _

theorem requestConnection_returned {result : Option Connection}
    (run : Program.Run Descriptors.answers world
      (ClientConnection.requestConnection proto id key fd) (.returned result) after) :
    ∃ connection, result = some connection := by
  rcases Program.run_bind_iff.mp run with
    ⟨_, sent, _, run⟩ | ⟨_, impossible, _⟩ | ⟨_, impossible, _⟩
  case inr.inl => cases impossible
  case inr.inr => cases impossible
  rcases Program.run_bind_iff.mp run with
    ⟨response, received, _, run⟩ | ⟨_, impossible, _⟩ | ⟨_, impossible, _⟩
  case inr.inl => cases impossible
  case inr.inr => cases impossible
  split at run
  · cases run
  · rcases Program.run_bind_iff.mp run with
      ⟨connection, _, _, ended⟩ | ⟨_, impossible, _⟩ | ⟨_, impossible, _⟩
    · cases ended
      exact ⟨connection, rfl⟩
    · cases impossible
    · cases impossible

/-- A connect that fails on an open descriptor closes it and keeps its number. -/
theorem connect_failed
    (run : Program.Run (Method.answers Descriptors.answers) (world, object)
      (connect proto id key (some fd)) (.returned false) (after, state)) :
    state = { object with socketFd := some fd } ∧
      after.active = Function.update world.active fd none ∧
      after.closes = world.closes ++ [(fd, world.active fd)] := by
  have atomic := handshake_atomic proto id key { object with socketFd := some fd } fd
  rcases Program.run_handle_iff.mp run with
    ⟨value, same, bodyRun⟩ | ⟨exn, between, bodyRun, caughtRun⟩ | ⟨_, impossible, _⟩
  · cases same
    rw [connectBody, Method.run_get_bind_iff, Method.run_set_bind_iff, atomic.run_iff] at bodyRun
    rcases Program.run_bind_iff.mp bodyRun with
      ⟨result, _, requestRun, ended⟩ | ⟨_, impossible, _⟩ | ⟨_, impossible, _⟩
    · obtain ⟨connection, rfl⟩ := requestConnection_returned requestRun
      cases ended
    · cases impossible
    · cases impossible
  · obtain ⟨between, held⟩ := between
    rw [connectBody, Method.run_get_bind_iff, Method.run_set_bind_iff, atomic.run_iff] at bodyRun
    obtain ⟨requestRun, rfl⟩ := bodyRun
    have quiet : Program.Performs Descriptors.closesNothing
        (ClientConnection.requestConnection proto id key fd >>= fun result =>
          (.done (accepted { object with socketFd := some fd } result) :
            Action (Bool × ClientObject))) :=
      (requestConnection_closesNothing proto id key fd).bind fun _ => .done _
    obtain ⟨_, active, unclosed⟩ := Descriptors.run_peer quiet requestRun
    cases exn with
    | runtimeError what =>
        rw [connectCaught, Method.run_get_bind_iff] at caughtRun
        rcases Method.run_call_bind_iff.mp caughtRun with
          ⟨_, closed, closeRun, ended⟩ | ⟨_, impossible, _⟩ | ⟨_, impossible, _⟩
        · obtain ⟨_, _, closedEq, same⟩ := Program.run_perform_iff.mp closeRun
          cases closedEq
          obtain ⟨_, rfl⟩ := Program.run_done_iff.mp same
          cases ended
          refine ⟨rfl, ?_, ?_⟩
          · rw [Descriptors.close, active]
          · rw [Descriptors.close, active, unclosed]
        · cases impossible
        · cases impossible
    | lengthError => cases caughtRun
    | outOfRange => cases caughtRun
  · cases impossible

def severed (object : ClientObject) : ClientObject :=
  { object with
    reader := object.reader.map BackedReader.invalidateSocket
    writer := object.writer.map BackedWriter.invalidateSocket
    socketFd := none }

theorem closeSocket_run (held : object.socketFd = some fd) :
    Program.Run (Method.answers Descriptors.answers) (world, object) closeSocket
      (.returned ()) (world.close fd, object.severed) := by
  rw [closeSocket, Method.run_get_bind_iff, held]
  simp only [Method.run_get_bind_iff, Method.run_set_bind_iff]
  refine Method.run_call_iff.mpr ⟨?_, ?_⟩
  · exact Program.run_perform_iff.mpr ⟨(), _, rfl, .done _ _⟩
  · rfl

theorem destructor_run (held : object.socketFd = some fd) :
    Program.Run (Method.answers Descriptors.answers) (world, object) destructor
      (.returned ()) (world.close fd, object.severed) := by
  refine (closeSocket_run held).bind ?_
  rw [Method.run_get_bind_iff]
  exact .done _ _

theorem connect_unreachable (proto : Protobuf) (id key : Bytes)
    (short : id.length ≤ 1000) (object : ClientObject) (fd : Fd) (world : Descriptors) :
    Program.Run (Method.answers Descriptors.answers) (world, object)
      (connect proto id key (some fd)) (.returned false)
      (world.close fd, { object with socketFd := some fd }) := by
  have fits := proto.connectRequest_fits
    { clientId := id, version := Int32.ofInt PROTOCOL_VERSION } short
  have requestRun : Program.Run Descriptors.answers world
      (writeProto proto.connectRequest fd
        { clientId := id, version := Int32.ofInt PROTOCOL_VERSION })
      (.raised (.runtimeError "gone")) world := by
    rw [writeProto, if_neg (Nat.not_lt.mpr fits)]
    refine Program.run_bind_iff.mpr (Or.inr (Or.inl ⟨_, rfl, ?_⟩))
    refine Program.run_perform_iff.mpr ⟨.error "gone", world, ⟨⟨rfl, 0, ?_⟩, rfl⟩, .raise _ _⟩
    rw [List.take_zero, List.append_nil]
  have bodyRun : Program.Run (Method.answers Descriptors.answers) (world, object)
      (connectBody proto id key (some fd)) (.raised (.runtimeError "gone"))
      (world, { object with socketFd := some fd }) := by
    rw [connectBody, Method.run_get_bind_iff, Method.run_set_bind_iff]
    exact Method.run_call_bind_iff.mpr (Or.inr (Or.inl ⟨_, rfl, requestRun, rfl⟩))
  refine bodyRun.handle_raised ?_
  rw [connectCaught, Method.run_get_bind_iff]
  refine Method.run_call_bind_iff.mpr (Or.inl ⟨(), world.close fd, ?_, .done _ _⟩)
  exact Program.run_perform_iff.mpr ⟨(), _, rfl, .done _ _⟩

end ClientObject

/-! ### Whole lives -/

/-- An object, the descriptors around it, and the sockets that it has opened. -/
structure ClientLife where
  object : ClientObject
  descriptors : Descriptors
  opened : List Nat
  alive : Bool

inductive LifeEvent where
  | connect (opened : Option Fd) (connected : Bool)
  | closeSocket
  | shutdown
  | destructor
  | otherOpens (fd : Fd)
  | otherCloses (fd : Fd)

namespace ClientLife

def opens (descriptors : Descriptors) (fd : Fd) (socket : Nat) : Descriptors :=
  { descriptors with active := Function.update descriptors.active fd (some socket) }

/-- The number is free, and the socket is a new one. -/
def Fresh (life : ClientLife) (fd : Fd) (socket : Nat) : Prop :=
  life.descriptors.active fd = none ∧ socket ∉ life.opened

inductive Step (proto : Protobuf) (id key : Bytes) :
    ClientLife → LifeEvent → ClientLife → Prop
  | unopened {before : ClientLife} {connected : Bool} {after : Descriptors}
      {object : ClientObject} :
      before.alive = true →
      Program.Run (Method.answers Descriptors.answers) (before.descriptors, before.object)
        (ClientObject.connect proto id key none) (.returned connected) (after, object) →
      Step proto id key before (.connect none connected)
        { before with
          object := object
          descriptors := after }
  | connect {before : ClientLife} {fd : Fd} {socket : Nat} {peer : PeerSocket}
      {connected : Bool} {after : Descriptors} {object : ClientObject} :
      before.alive = true → before.Fresh fd socket →
      Program.Run (Method.answers Descriptors.answers)
        ({ opens before.descriptors fd socket with peer := peer }, before.object)
        (ClientObject.connect proto id key (some fd)) (.returned connected)
        (after, object) →
      Step proto id key before (.connect (some fd) connected)
        { before with
          object := object
          descriptors := after
          opened := before.opened ++ [socket] }
  | closeSocket {before : ClientLife} {after : Descriptors} {object : ClientObject} :
      before.alive = true →
      Program.Run (Method.answers Descriptors.answers) (before.descriptors, before.object)
        ClientObject.closeSocket (.returned ()) (after, object) →
      Step proto id key before .closeSocket
        { before with
          object := object
          descriptors := after }
  | shutdown {before : ClientLife} {after : Descriptors} {object : ClientObject} :
      before.alive = true →
      Program.Run (Method.answers Descriptors.answers) (before.descriptors, before.object)
        ClientObject.shutdown (.returned ()) (after, object) →
      Step proto id key before .shutdown
        { before with
          object := object
          descriptors := after }
  | destructor {before : ClientLife} {after : Descriptors} {object : ClientObject} :
      before.alive = true →
      Program.Run (Method.answers Descriptors.answers) (before.descriptors, before.object)
        ClientObject.destructor (.returned ()) (after, object) →
      Step proto id key before .destructor
        { before with
          object := object
          descriptors := after
          alive := false }
  | otherOpens {before : ClientLife} {fd : Fd} {socket : Nat} :
      before.Fresh fd socket →
      Step proto id key before (.otherOpens fd)
        { before with descriptors := opens before.descriptors fd socket }
  | otherCloses {before : ClientLife} {fd : Fd} {socket : Nat} :
      before.descriptors.active fd = some socket → socket ∉ before.opened →
      Step proto id key before (.otherCloses fd)
        { before with
          descriptors :=
            { before.descriptors with
              active := Function.update before.descriptors.active fd none } }

def start : ClientLife :=
  { object := ClientObject.created
    descriptors :=
      { peer :=
          { incoming := []
            outgoing := [] }
        active := fun _ => none
        closes := [] }
    opened := []
    alive := true }

/-- The sockets that the object's calls of `close` have closed. -/
def closed (life : ClientLife) : List Nat :=
  life.descriptors.closes.filterMap Prod.snd

def system (proto : Protobuf) (id key : Bytes) : TransitionSystem ClientLife LifeEvent where
  initial life := life = start
  step := Step proto id key

/-- A failed connect leaves the object disconnected and otherwise as it was, and in all its
remaining life the object closes sockets of its own only, each once, and in the end all. -/
structure FailsCleanly (proto : Protobuf) (id key : Bytes) (before after : ClientLife) :
    Prop where
  disconnected : after.object.socketFd = none
  reader : after.object.reader = before.object.reader
  writer : after.object.writer = before.object.writer
  own {events : List LifeEvent} {later : ClientLife} :
    (system proto id key).Path after events later →
    (∀ socket ∈ later.closed, socket ∈ later.opened) ∧ later.closed.Nodup
  all {events : List LifeEvent} {later : ClientLife} :
    (system proto id key).Path after events later → later.alive = false →
    ∀ socket ∈ later.opened, socket ∈ later.closed

variable {proto : Protobuf} {id key : Bytes} {before after : ClientLife} {fd : Fd}

/-- The number is closed again when the object dies, whoever it has been given to. -/
theorem destructor_closes_again (alive : after.alive = true)
    (held : after.object.socketFd = some fd) (free : after.descriptors.active fd = none) :
    ∃ later, (system proto id key).Path after [.otherOpens fd, .destructor] later ∧
      ∃ socket ∈ later.closed, socket ∉ later.opened := by
  obtain ⟨socket, unused⟩ := Infinite.exists_notMem_finset after.opened.toFinset
  rw [List.mem_toFinset] at unused
  have opened : Step proto id key after (.otherOpens fd)
      { after with descriptors := opens after.descriptors fd socket } :=
    .otherOpens ⟨free, unused⟩
  have destroyed : Step proto id key
      { after with descriptors := opens after.descriptors fd socket } .destructor _ :=
    .destructor alive (ClientObject.destructor_run held)
  refine ⟨_, .cons opened (.single destroyed), socket, ?_, unused⟩
  have holder : (opens after.descriptors fd socket).active fd = some socket :=
    Function.update_self _ _ _
  rw [closed, Descriptors.close, holder, List.filterMap_append]
  exact List.mem_append_right _ List.mem_cons_self

/-- Every connect that fails on an open descriptor leaves its number behind, to be closed once
more. -/
theorem failed_connect_dangles
    (step : Step proto id key before (.connect (some fd) false) after) :
    ¬ FailsCleanly proto id key before after ∧
      after.object = { before.object with socketFd := some fd } ∧
      ∃ later, (system proto id key).Path after [.otherOpens fd, .destructor] later ∧
        ∃ socket ∈ later.closed, socket ∉ later.opened := by
  cases step with
  | connect alive fresh run =>
      obtain ⟨rfl, active, _⟩ := ClientObject.connect_failed run
      refine ⟨?_, rfl, ?_⟩
      · intro clean
        cases clean.disconnected
      · refine destructor_closes_again alive rfl ?_
        simp only
        rw [active]
        exact Function.update_self _ _ _

section Example

/-- The first life of descriptor 5 ends in `connect`, the second in the destructor. -/
theorem failed_write_closes_stranger :
    ∃ after later,
      Step Protobuf.standard [] [] start (.connect (some 5) false) after ∧
      after.object.socketFd = some 5 ∧
      (system Protobuf.standard [] []).Path after [.otherOpens 5, .destructor] later ∧
      later.opened = [0] ∧ later.closed = [0, 1] ∧
      ¬ FailsCleanly Protobuf.standard [] [] start after := by
  have refusal := ClientObject.connect_unreachable Protobuf.standard [] [] (by decide)
    start.object 5 (opens start.descriptors 5 0)
  have refused : Step Protobuf.standard [] [] start (.connect (some 5) false) _ :=
    .connect rfl ⟨rfl, List.not_mem_nil⟩ refusal
  refine ⟨_, _, refused, rfl, .cons (@Step.otherOpens _ _ _ _ 5 1 ⟨?_, ?_⟩)
    (.single (.destructor rfl (ClientObject.destructor_run rfl))), rfl, rfl, ?_⟩
  · rfl
  · decide
  · intro clean
    cases clean.disconnected

theorem failed_connect_dangles_unwritten :
    ∃ after later,
      Step Protobuf.standard [] [] start (.connect (some 5) false) after ∧
      (system Protobuf.standard [] []).Path after [.otherOpens 5, .destructor] later ∧
      ∃ socket ∈ later.closed, socket ∉ later.opened := by
  have refusal := ClientObject.connect_unreachable Protobuf.standard [] [] (by decide)
    start.object 5 (opens start.descriptors 5 0)
  have refused : Step Protobuf.standard [] [] start (.connect (some 5) false) _ :=
    .connect rfl ⟨rfl, List.not_mem_nil⟩ refusal
  obtain ⟨_, _, later, path, stranger⟩ := failed_connect_dangles refused
  exact ⟨_, later, refused, path, stranger⟩

end Example

end ClientLife

end EternalTerminal
