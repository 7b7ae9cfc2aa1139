/-
The main thread and the reconnect thread of a `ClientConnection`, with the recursive mutex that
they share.

A thread is a program over the calls below, of which any may come between any two of the other
thread's.  What sockets and recoveries answer is left open.  The loops of `writePacket` and
`pollReconnect` are given by one pass.
-/

import EternalTerminal.Base.BackedWriter
import EternalTerminal.Library.TransitionSystem

namespace EternalTerminal

open Library

/-- What a thread does to the object, the mutex and the other thread. -/
inductive ThreadCall where
  | lock
  | unlock
  /-- is `socketFd` an open socket -/
  | socketFd
  | shuttingDown
  | setShuttingDown
  /-- the reader, the writer and `socketFd` lose the socket, and it is closed -/
  | invalidate
  | hasThread
  | join
  | resetThread
  | startThread
  | readerRead
  | writerWrite
  | connect
  /-- the request and the response, none if one of them throws -/
  | handshake
  /-- the exchange of `recover` -/
  | exchange
  | close
  | sleep
  deriving DecidableEq

inductive ReaderAnswer where
  | failed
  | nothing
  | packet
  deriving DecidableEq

def ThreadCall.Answer : ThreadCall → Type
  | .socketFd | .shuttingDown | .hasThread | .connect | .exchange => Bool
  | .readerRead => ReaderAnswer
  | .writerWrite => BackedWriterWriteState
  | .handshake => Option ConnectStatus
  | .lock | .unlock | .setShuttingDown | .invalidate | .join | .resetThread | .startThread
  | .close | .sleep => Unit

abbrev threadCalls : Signature :=
  { Operation := ThreadCall
    Answer := ThreadCall.Answer }

abbrev ThreadProgram := Program threadCalls Empty

inductive Progress where
  | finished
  | again
  deriving DecidableEq

namespace ClientThreads

variable {α : Type}

def call (operation : ThreadCall) : ThreadProgram operation.Answer :=
  .perform operation pure

/-- A `lock_guard` of `connectionMutex` around a block. -/
def lockGuard (block : ThreadProgram α) : ThreadProgram α := do
  call .lock
  let value ← block
  call .unlock
  pure value

def closeSocket : ThreadProgram Unit :=
  lockGuard do
    let connected : Bool ← call .socketFd
    if connected then call .invalidate else pure ()

def isShuttingDown : ThreadProgram Bool := lockGuard (call .shuttingDown)

def isDisconnected : ThreadProgram Bool :=
  lockGuard do
    let connected : Bool ← call .socketFd
    pure !connected

def waitReconnect : ThreadProgram Unit := do
  let running : Bool ← call .hasThread
  if running then do
    call .join
    call .resetThread
  else pure ()

def closeSocketAndMaybeReconnect : ThreadProgram Unit := do
  waitReconnect
  closeSocket
  let ends ← isShuttingDown
  if ends then pure () else call .startThread

def read : ThreadProgram Bool :=
  lockGuard do
    let messagesRead : ReaderAnswer ← call .readerRead
    match messagesRead with
    | .failed => do
        closeSocketAndMaybeReconnect
        pure false
    | .nothing => pure false
    | .packet => pure true

def write : ThreadProgram Bool :=
  lockGuard do
    let bwws : BackedWriterWriteState ← call .writerWrite
    match bwws with
    | .SKIPPED => pure false
    | .BUFFERED_ONLY => pure true
    | .SUCCESS => pure true
    | .WROTE_WITH_FAILURE => do
        let connected : Bool ← call .socketFd
        if connected then closeSocketAndMaybeReconnect else pure ()
        pure true

def readPacket : ThreadProgram Bool :=
  lockGuard do
    let ends : Bool ← call .shuttingDown
    if ends then pure false else read

/-- One pass of the loop. -/
def writePacket : ThreadProgram Progress := do
  let ends ← isShuttingDown
  if ends then pure .finished
  else do
    let success ← write
    if success then pure .finished
    else do
      let _hasConnection ← lockGuard (call .socketFd)
      call .sleep
      pure .again

def shutdown : ThreadProgram Unit :=
  lockGuard do
    call .setShuttingDown
    closeSocket

def recover : ThreadProgram Bool := lockGuard (call .exchange)

/-- The block of `pollReconnect` that holds the mutex. -/
def tryReconnect : ThreadProgram Progress := do
  let connected : Bool ← call .socketFd
  if connected then pure .finished
  else do
    let ends : Bool ← call .shuttingDown
    if ends then pure .finished
    else do
      let opened : Bool ← call .connect
      if opened then do
        let response : Option ConnectStatus ← call .handshake
        match response with
        | some .INVALID_KEY => do
            call .setShuttingDown
            call .close
            pure .finished
        | some .RETURNING_CLIENT => do
            let _recovered ← recover
            pure .again
        | some _ => do
            call .close
            pure .again
        | none => do
            call .close
            pure .again
      else pure .again

/-- One pass of the loop. -/
def pollReconnect : ThreadProgram Progress := do
  let progress ← lockGuard tryReconnect
  match progress with
  | .finished => pure .finished
  | .again => do
      let waits ← isDisconnected
      if waits then do
        call .sleep
        pure .again
      else pure .again

/-! ### The two threads -/

inductive ThreadName where
  | main
  | reconnect
  deriving DecidableEq

/-- What the `shared_ptr` of the reconnect thread points to. -/
inductive ReconnectThread where
  | none
  | running (program : ThreadProgram Progress)
  | ended

structure Shared where
  /-- who holds the mutex, and how often -/
  owner : Option (ThreadName × Nat)
  socketFd : Bool
  shuttingDown : Bool
  reconnectThread : ReconnectThread

/-- What a call answers a thread and makes of the object.  Reading and writing fail only on an
open socket. -/
def answered (self : ThreadName) (shared : Shared) :
    (operation : ThreadCall) → operation.Answer → Shared → Prop
  | .lock, _, after =>
      (shared.owner = none ∧ after = { shared with owner := some (self, 1) }) ∨
        ∃ depth, shared.owner = some (self, depth) ∧
          after = { shared with owner := some (self, depth + 1) }
  | .unlock, _, after =>
      ∃ depth, shared.owner = some (self, depth + 1) ∧
        after = { shared with owner := if depth = 0 then none else some (self, depth) }
  | .socketFd, connected, after => connected = shared.socketFd ∧ after = shared
  | .shuttingDown, ends, after => ends = shared.shuttingDown ∧ after = shared
  | .setShuttingDown, _, after => after = { shared with shuttingDown := true }
  | .invalidate, _, after => after = { shared with socketFd := false }
  | .hasThread, running, after =>
      (running = true ↔ shared.reconnectThread ≠ .none) ∧ after = shared
  | .join, _, after => shared.reconnectThread = .ended ∧ after = shared
  | .resetThread, _, after => after = { shared with reconnectThread := .none }
  | .startThread, _, after => after = { shared with reconnectThread := .running pollReconnect }
  | .readerRead, messagesRead, after =>
      (messagesRead ≠ .nothing → shared.socketFd = true) ∧ after = shared
  | .writerWrite, bwws, after =>
      (shared.socketFd = true ↔ bwws = .SUCCESS ∨ bwws = .WROTE_WITH_FAILURE) ∧ after = shared
  | .connect, _, after => after = shared
  | .handshake, _, after => after = shared
  | .exchange, recovered, after =>
      after = { shared with socketFd := recovered || shared.socketFd }
  | .close, _, after => after = shared
  | .sleep, _, after => after = shared

/-- The calls with which the main thread comes; `look` are those that read a variable. -/
inductive MainCall where
  | read
  | write
  | readPacket
  | writePacket
  | closeSocketAndMaybeReconnect
  | waitReconnect
  | shutdown
  | look

def once (program : ThreadProgram α) : ThreadProgram Progress := program >>= fun _ => pure .finished

def MainCall.program : MainCall → ThreadProgram Progress
  | .read => once ClientThreads.read
  | .write => once ClientThreads.write
  | .readPacket => once ClientThreads.readPacket
  | .writePacket => ClientThreads.writePacket
  | .closeSocketAndMaybeReconnect => once ClientThreads.closeSocketAndMaybeReconnect
  | .waitReconnect => once ClientThreads.waitReconnect
  | .shutdown => once ClientThreads.shutdown
  | .look => once isDisconnected

inductive MainThread where
  | idle
  | running (call : MainCall) (program : ThreadProgram Progress)

structure Threads where
  main : MainThread
  shared : Shared

def SocketFails : (operation : ThreadCall) → operation.Answer → Prop
  | .readerRead, messagesRead => messagesRead = .failed
  | .writerWrite, bwws => bwws = .WROTE_WITH_FAILURE
  | _, _ => False

inductive ThreadStep where
  | main
  /-- a step of the main thread that finds the socket broken -/
  | socketFails
  | reconnect

inductive Step : Threads → ThreadStep → Threads → Prop
  | begin {shared : Shared} (mainCall : MainCall) :
      Step ⟨.idle, shared⟩ .main ⟨.running mainCall mainCall.program, shared⟩
  | main {shared after : Shared} {mainCall : MainCall} {operation : ThreadCall}
      {next : operation.Answer → ThreadProgram Progress} {answer : operation.Answer} :
      answered .main shared operation answer after → ¬ SocketFails operation answer →
      Step ⟨.running mainCall (.perform operation next), shared⟩ .main
        ⟨.running mainCall (next answer), after⟩
  | socketFails {shared after : Shared} {mainCall : MainCall} {operation : ThreadCall}
      {next : operation.Answer → ThreadProgram Progress} {answer : operation.Answer} :
      answered .main shared operation answer after → SocketFails operation answer →
      Step ⟨.running mainCall (.perform operation next), shared⟩ .socketFails
        ⟨.running mainCall (next answer), after⟩
  | mainAgain {shared : Shared} {mainCall : MainCall} :
      Step ⟨.running mainCall (.done .again), shared⟩ .main
        ⟨.running mainCall mainCall.program, shared⟩
  | mainFinished {shared : Shared} {mainCall : MainCall} :
      Step ⟨.running mainCall (.done .finished), shared⟩ .main ⟨.idle, shared⟩
  | reconnect {main : MainThread} {shared after : Shared} {operation : ThreadCall}
      {next : operation.Answer → ThreadProgram Progress} {answer : operation.Answer} :
      shared.reconnectThread = .running (.perform operation next) →
      answered .reconnect shared operation answer after →
      Step ⟨main, shared⟩ .reconnect
        ⟨main, { after with reconnectThread := .running (next answer) }⟩
  | reconnectAgain {main : MainThread} {shared : Shared} :
      shared.reconnectThread = .running (.done .again) →
      Step ⟨main, shared⟩ .reconnect
        ⟨main, { shared with reconnectThread := .running pollReconnect }⟩
  | reconnectFinished {main : MainThread} {shared : Shared} :
      shared.reconnectThread = .running (.done .finished) →
      Step ⟨main, shared⟩ .reconnect ⟨main, { shared with reconnectThread := .ended }⟩

def connectedClient : Threads :=
  { main := .idle
    shared :=
      { owner := none
        socketFd := true
        shuttingDown := false
        reconnectThread := .none } }

def system : TransitionSystem Threads ThreadStep where
  initial := fun threads => threads = connectedClient
  step := Step

/-- Whatever the thread is answered, it locks the mutex before it ends. -/
def NeedsLock : ThreadProgram Progress → Prop
  | .done progress => progress = .again
  | .raise _ => False
  | .abort _ => False
  | .perform operation next => operation = .lock ∨ ∀ answer, NeedsLock (next answer)

/-- The reconnect thread has not finished, and cannot without the mutex. -/
def Shared.Reconnecting (shared : Shared) : Prop :=
  ∃ program, shared.reconnectThread = .running program ∧ NeedsLock program

/-- The main thread holds the mutex while it joins a thread that needs it. -/
def Deadlocked (threads : Threads) : Prop :=
  (∃ mainCall next, threads.main = .running mainCall (.perform .join next)) ∧
    (∃ depth, threads.shared.owner = some (.main, depth)) ∧ threads.shared.Reconnecting

/-- The main thread finds the socket broken at no time at which the reconnect thread has yet to
lock the mutex. -/
def Allowed (threads : Threads) (step : ThreadStep) : Prop :=
  step = .socketFails → ¬ threads.shared.Reconnecting

end ClientThreads

end EternalTerminal
