/-
`ForwardSourceHandler` and `ForwardDestinationHandler`, and the descriptors of one process.

What the kernel answers is a parameter of each call.  A descriptor is reused after it has
been closed; what was read and written is recorded under the number of the connection it
stood for.
-/

import Mathlib.Data.Finset.Basic
import EternalTerminal.Base.UnixSocketHandler
import EternalTerminal.Terminal.ReverseTunnels

namespace EternalTerminal

/-- What the kernel and the clock answer while a `writeAllOrReturn` runs. -/
structure WriteSchedule where
  startTime : Nat
  calls : List WriteCall

def WriteSchedule.writeAllOrReturn (schedule : WriteSchedule) (chunk : Bytes) :
    List Nat × WriteAllResult :=
  UnixSocketHandler.writeAllOrReturn chunk.length schedule.startTime schedule.calls

/-- A chunk that was given to `writeAllOrReturn`, with the positions of it that were handed to the
kernel and how the call ended. -/
abbrev ChunkWrite := Bytes × List Nat × WriteAllResult

structure DescriptorTable where
  connectionOf : Fd → Option Nat
  count : Nat
  received : Nat → List Bytes
  offered : Nat → List ChunkWrite

namespace DescriptorTable

def isFree (table : DescriptorTable) (fd : Fd) : Bool :=
  (table.connectionOf fd).isNone

/-- A descriptor that the kernel gives out is not open. -/
def granted (table : DescriptorTable) (answer : Option Fd) : Option Fd :=
  answer.filter table.isFree

def openFd (table : DescriptorTable) (fd : Fd) : DescriptorTable :=
  { table with
    connectionOf := Function.update table.connectionOf fd (some table.count)
    count := table.count + 1 }

def close (table : DescriptorTable) (fd : Fd) : DescriptorTable :=
  { table with connectionOf := Function.update table.connectionOf fd none }

def read (table : DescriptorTable) (fd : Fd) (chunk : Bytes) : DescriptorTable :=
  match table.connectionOf fd with
  | none => table
  | some connection =>
      { table with
        received := Function.update table.received connection
          (table.received connection ++ [chunk]) }

/-- `writeAllOrReturn`, whose result neither caller looks at. -/
def writeAllOrReturn (table : DescriptorTable) (fd : Fd) (chunk : Bytes)
    (schedule : WriteSchedule) : DescriptorTable :=
  match table.connectionOf fd with
  | none => table
  | some connection =>
      { table with
        offered := Function.update table.offered connection
          (table.offered connection ++ [(chunk, schedule.writeAllOrReturn chunk)]) }

end DescriptorTable

/-! ### Messages -/

/-- `connection` is the number of the accepted connection, which the other side does not
look at. -/
structure PortForwardDestinationRequest where
  destination : SocketEndpoint
  fd : Fd
  connection : Nat

structure PortForwardDestinationResponse where
  clientfd : Fd
  result : Except String Int

inductive PortForwardContent where
  | buffer (bytes : Bytes)
  | error (errno : Errno)
  | closed

structure PortForwardData where
  sourcetodestination : Bool
  socketid : Int
  content : PortForwardContent

/-! ### Reading -/

/-- The loop that both handlers read a descriptor with.  The answers are those of `read`
for as long as `hasData` holds.  The last component says that the descriptor has been
closed. -/
def readWhileData (fd : Fd) : List ReadAnswer → DescriptorTable →
    DescriptorTable × List PortForwardContent × Bool
  | [], table => (table, [], false)
  | .failed errno :: _, table =>
      if errno = .eagain ∨ errno = .ewouldblock then (table, [], false)
      else (table.close fd, [.error errno], true)
  | .closed :: _, table => (table.close fd, [.closed], true)
  | .data bytes :: rest, table =>
      let (after, contents, ended) := readWhileData fd rest (table.read fd bytes)
      (after, .buffer bytes :: contents, ended)

/-! ### The source side -/

structure ForwardSourceHandler where
  source : SocketEndpoint
  destination : SocketEndpoint
  unassignedFds : Finset Fd
  socketFdMap : Int → Option Fd

namespace ForwardSourceHandler

/-- `listen` asks the descriptors of the endpoint in turn. -/
def acceptFirst (table : DescriptorTable) : List (Option Fd) → Option Fd
  | [] => none
  | answer :: rest =>
      match table.granted answer with
      | some fd => some fd
      | none => acceptFirst table rest

def listen (handler : ForwardSourceHandler) (accepts : List (Option Fd))
    (table : DescriptorTable) :
    ForwardSourceHandler × DescriptorTable × Option Fd :=
  match acceptFirst table accepts with
  | none => (handler, table, none)
  | some fd =>
      ({ handler with unassignedFds := insert fd handler.unassignedFds }, table.openFd fd,
        some fd)

/-- The loop of `update` over the sockets, in the order the hash table has them.  The last
component is `socketsToRemove`. -/
def updateSockets (socketFdMap : Int → Option Fd) (reads : Int → List ReadAnswer) :
    List Int → DescriptorTable → DescriptorTable × List PortForwardData × List Int
  | [], table => (table, [], [])
  | socketId :: rest, table =>
      match socketFdMap socketId with
      | none => updateSockets socketFdMap reads rest table
      | some fd =>
          let (read, contents, ended) := readWhileData fd (reads socketId) table
          let (after, data, removed) := updateSockets socketFdMap reads rest read
          (after, contents.map (PortForwardData.mk true socketId) ++ data,
            if ended then socketId :: removed else removed)

def update (handler : ForwardSourceHandler) (order : List Int)
    (reads : Int → List ReadAnswer) (table : DescriptorTable) :
    ForwardSourceHandler × DescriptorTable × List PortForwardData :=
  let (after, data, removed) := updateSockets handler.socketFdMap reads order table
  ({ handler with
      socketFdMap := fun socketId =>
        if socketId ∈ removed then none else handler.socketFdMap socketId },
    after, data)

def hasUnassignedFd (handler : ForwardSourceHandler) (fd : Fd) : Bool :=
  decide (fd ∈ handler.unassignedFds)

def closeUnassignedFd (handler : ForwardSourceHandler) (fd : Fd) (table : DescriptorTable) :
    ForwardSourceHandler × DescriptorTable :=
  if handler.hasUnassignedFd fd then
    ({ handler with unassignedFds := handler.unassignedFds.erase fd }, table.close fd)
  else (handler, table)

def addSocket (handler : ForwardSourceHandler) (socketId : Int) (sourceFd : Fd) :
    ForwardSourceHandler :=
  if handler.hasUnassignedFd sourceFd then
    { handler with
      unassignedFds := handler.unassignedFds.erase sourceFd
      socketFdMap := Function.update handler.socketFdMap socketId (some sourceFd) }
  else handler

def sendDataOnSocket (handler : ForwardSourceHandler) (socketId : Int) (data : Bytes)
    (schedule : WriteSchedule) (table : DescriptorTable) : DescriptorTable :=
  match handler.socketFdMap socketId with
  | none => table
  | some fd => table.writeAllOrReturn fd data schedule

def closeSocket (handler : ForwardSourceHandler) (socketId : Int) (table : DescriptorTable) :
    ForwardSourceHandler × DescriptorTable :=
  match handler.socketFdMap socketId with
  | none => (handler, table)
  | some fd =>
      ({ handler with socketFdMap := Function.update handler.socketFdMap socketId none },
        table.close fd)

end ForwardSourceHandler

/-! ### The destination side -/

/-- The source's -1 is `none`. -/
structure ForwardDestinationHandler where
  fd : Option Fd
  socketId : Int

namespace ForwardDestinationHandler

def close (handler : ForwardDestinationHandler) (table : DescriptorTable) : DescriptorTable :=
  match handler.fd with
  | none => table
  | some fd => table.close fd

def write (handler : ForwardDestinationHandler) (s : Bytes) (schedule : WriteSchedule)
    (table : DescriptorTable) : DescriptorTable :=
  match handler.fd with
  | none => table
  | some fd => table.writeAllOrReturn fd s schedule

def update (handler : ForwardDestinationHandler) (answers : List ReadAnswer)
    (table : DescriptorTable) :
    ForwardDestinationHandler × DescriptorTable × List PortForwardData :=
  match handler.fd with
  | none => (handler, table, [])
  | some fd =>
      let (after, contents, ended) := readWhileData fd answers table
      (if ended then { handler with fd := none } else handler, after,
        contents.map (PortForwardData.mk false handler.socketId))

end ForwardDestinationHandler

end EternalTerminal
