/-
The calls on sockets that the operations of a `PortForwardHandler` make, in order.

`accept` and `connect` open a descriptor; `hasData`, `read` and `writeAllOrReturn` use one.  The
listening sockets are not among them.
-/

import EternalTerminal.Library.HandleTrace
import EternalTerminal.Terminal.PortForwardHandler

namespace EternalTerminal

open Library

abbrev DescriptorCall := HandleCall Fd

/-- Each `hasData` goes with the `read` after it, and one that says no stands alone. -/
def readCalls (fd : Fd) : List ReadAnswer → List DescriptorCall
  | [] => [.used fd]
  | .failed errno :: _ =>
      if errno = .eagain ∨ errno = .ewouldblock then [.used fd] else [.used fd, .closed fd]
  | .closed :: _ => [.used fd, .closed fd]
  | .data _ :: rest => .used fd :: readCalls fd rest

namespace ForwardSourceHandler

def updateCalls (socketFdMap : Int → Option Fd) (reads : Int → List ReadAnswer) :
    List Int → List DescriptorCall
  | [] => []
  | socketId :: rest =>
      match socketFdMap socketId with
      | none => updateCalls socketFdMap reads rest
      | some fd => readCalls fd (reads socketId) ++ updateCalls socketFdMap reads rest

def listenCalls (accepts : List (Option Fd)) (table : DescriptorTable) : List DescriptorCall :=
  (acceptFirst table accepts).toList.map .opened

def closeUnassignedFdCalls (handler : ForwardSourceHandler) (fd : Fd) : List DescriptorCall :=
  if handler.hasUnassignedFd fd then [.closed fd] else []

def sendDataOnSocketCalls (handler : ForwardSourceHandler) (socketId : Int) :
    List DescriptorCall :=
  (handler.socketFdMap socketId).toList.map .used

def closeSocketCalls (handler : ForwardSourceHandler) (socketId : Int) : List DescriptorCall :=
  (handler.socketFdMap socketId).toList.map .closed

end ForwardSourceHandler

namespace ForwardDestinationHandler

def closeCalls (handler : ForwardDestinationHandler) : List DescriptorCall :=
  handler.fd.toList.map .closed

def writeCalls (handler : ForwardDestinationHandler) : List DescriptorCall :=
  handler.fd.toList.map .used

def updateCalls (handler : ForwardDestinationHandler) (answers : List ReadAnswer) :
    List DescriptorCall :=
  match handler.fd with
  | none => []
  | some fd => readCalls fd answers

end ForwardDestinationHandler

namespace PortForwardHandler

def updateSourcesCalls (answers : UpdateAnswers) :
    Nat → List ForwardSourceHandler → DescriptorTable → List DescriptorCall
  | _, [], _ => []
  | index, handler :: rest, table =>
      let (read, afterRead, _) :=
        handler.update (answers.socketOrder index) (answers.socketReads index) table
      let (_, afterListen, _) := read.listen (answers.accepts index) afterRead
      ForwardSourceHandler.updateCalls handler.socketFdMap (answers.socketReads index)
          (answers.socketOrder index) ++
        ForwardSourceHandler.listenCalls (answers.accepts index) afterRead ++
        updateSourcesCalls answers (index + 1) rest afterListen

def updateDestinationsCalls (reads : Int → List ReadAnswer) :
    List Int → (Int → Option ForwardDestinationHandler) → DescriptorTable → List DescriptorCall
  | [], _, _ => []
  | socketId :: rest, handlers, table =>
      match handlers socketId with
      | none => updateDestinationsCalls reads rest handlers table
      | some handler =>
          let (read, afterRead, _) := handler.update (reads socketId) table
          if read.fd = none then handler.updateCalls (reads socketId)
          else
            handler.updateCalls (reads socketId) ++
              updateDestinationsCalls reads rest (Function.update handlers socketId (some read))
                afterRead

def updateCalls (handler : PortForwardHandler) (answers : UpdateAnswers)
    (table : DescriptorTable) : List DescriptorCall :=
  let (_, afterSources, _, _) := updateSources answers 0 handler.sourceHandlers table
  updateSourcesCalls answers 0 handler.sourceHandlers table ++
    updateDestinationsCalls answers.destinationReads answers.destinationOrder
      handler.destinationHandlers afterSources

/-- A socket that gets no id is left open. -/
def createDestinationCalls (answers : PacketAnswers) (table : DescriptorTable)
    (pfdr : PortForwardDestinationRequest) : List DescriptorCall :=
  (connectDestination answers table pfdr.destination).toList.map .opened

def closeSourceFdCalls (handler : PortForwardHandler) (fd : Fd) : List DescriptorCall :=
  match handler.findUnassigned fd with
  | none => []
  | some index =>
      match handler.sourceHandlers[index]? with
      | none => []
      | some source => source.closeUnassignedFdCalls fd

def closeSourceSocketIdCalls (handler : PortForwardHandler) (socketId : Int) :
    List DescriptorCall :=
  match handler.socketIdSourceHandlerMap socketId with
  | none => []
  | some index =>
      match handler.sourceHandlers[index]? with
      | none => []
      | some source => source.closeSocketCalls socketId

def sendDataToSourceOnSocketCalls (handler : PortForwardHandler) (socketId : Int) :
    List DescriptorCall :=
  match handler.socketIdSourceHandlerMap socketId with
  | none => []
  | some index =>
      match handler.sourceHandlers[index]? with
      | none => []
      | some source => source.sendDataOnSocketCalls socketId

def destinationDataCalls (handler : PortForwardHandler) (socketid : Int) :
    PortForwardContent → List DescriptorCall
  | .buffer _ =>
      match handler.destinationHandlers socketid with
      | none => []
      | some destination => destination.writeCalls
  | _ =>
      match handler.destinationHandlers socketid with
      | none => []
      | some destination => destination.closeCalls

def sourceDataCalls (handler : PortForwardHandler) (socketid : Int) :
    PortForwardContent → List DescriptorCall
  | .buffer _ => handler.sendDataToSourceOnSocketCalls socketid
  | _ => handler.closeSourceSocketIdCalls socketid

def handlePacketCalls (handler : PortForwardHandler) (answers : PacketAnswers)
    (table : DescriptorTable) : TunnelPacket → List DescriptorCall
  | .data pwd =>
      if pwd.sourcetodestination then handler.destinationDataCalls pwd.socketid pwd.content
      else handler.sourceDataCalls pwd.socketid pwd.content
  | .destinationRequest pfdr => createDestinationCalls answers table pfdr
  | .destinationResponse pfdr =>
      match pfdr.result with
      | .error _ => handler.closeSourceFdCalls pfdr.clientfd
      | .ok _ => []

end PortForwardHandler

/-! ### One handler on its own -/

/-- A handler with the sockets it has opened, its pipe listeners, and its calls so far. -/
structure ForwardingState where
  handler : PortForwardHandler
  table : DescriptorTable
  pipe : PipeSocketHandler
  calls : List DescriptorCall

/-- The operations, with any arguments.  The packets are those of any peer. -/
inductive ForwardingEvent where
  | update (answers : UpdateAnswers)
  | createSource (network : TcpSocketHandler) (kernel : Kernel) (pfsr : PortForwardSourceRequest)
      (wantsName : Bool) (userid groupid : Int)
  | createDestination (answers : PacketAnswers) (pfdr : PortForwardDestinationRequest)
  | handlePacket (answers : PacketAnswers) (packet : TunnelPacket)
  | closeSourceFd (fd : Int)
  | addSourceSocketId (socketId sourceFd : Int)
  | closeSourceSocketId (socketId : Int)

namespace PortForwardHandler

def ends (handler : PortForwardHandler) : List TunnelEnds :=
  handler.sourceHandlers.map fun source =>
    { source := source.source, destination := source.destination }

def addSources (handler : PortForwardHandler) (sources : List TunnelEnds) : PortForwardHandler :=
  { handler with
    sourceHandlers := handler.sourceHandlers ++ (listening sources).sourceHandlers }

end PortForwardHandler

namespace ForwardingState

def initial : ForwardingState :=
  { handler := .listening []
    table := .unused
    pipe := { pipeServerSockets := fun _ => none }
    calls := [] }

def step (state : ForwardingState) (handler : PortForwardHandler) (table : DescriptorTable)
    (calls : List DescriptorCall) : ForwardingState :=
  { state with
    handler := handler
    table := table
    calls := state.calls ++ calls }

/-- A negative number is in no table; a response that comes with one has the effect of the
operation that it calls. -/
inductive Step : ForwardingState → ForwardingEvent → ForwardingState → Prop
  | update {state : ForwardingState} {answers : UpdateAnswers}
      {after : PortForwardHandler} {table : DescriptorTable} {packets : List TunnelPacket} :
      (∀ (index : Nat) (source : ForwardSourceHandler),
        state.handler.sourceHandlers[index]? = some source →
          Tunnels.Walks (answers.socketOrder index) source.socketFdMap) →
      Tunnels.Walks answers.destinationOrder state.handler.destinationHandlers →
      state.handler.update answers state.table = (after, table, packets) →
      Step state (.update answers)
        (state.step after table (state.handler.updateCalls answers state.table))
  | createSource {state : ForwardingState} {network : TcpSocketHandler} {kernel : Kernel}
      {pfsr : PortForwardSourceRequest} {wantsName : Bool} {userid groupid : Int}
      {created : CreatedSource} :
      PortForwardHandler.createSource kernel
        { network := network, pipe := state.pipe, sourceHandlers := state.handler.ends } pfsr
        wantsName userid groupid = .ok created →
      Step state (.createSource network kernel pfsr wantsName userid groupid)
        { state with
          handler := state.handler.addSources
            (created.tables.sourceHandlers.drop state.handler.sourceHandlers.length)
          pipe := created.tables.pipe }
  | createDestination {state : ForwardingState} {answers : PacketAnswers}
      {pfdr : PortForwardDestinationRequest} {after : PortForwardHandler}
      {table : DescriptorTable} {response : PortForwardDestinationResponse}
      {opened : Option (Nat × Int)} :
      state.handler.createDestination answers state.table pfdr =
        (after, table, response, opened) →
      Step state (.createDestination answers pfdr)
        (state.step after table
          (PortForwardHandler.createDestinationCalls answers state.table pfdr))
  | handlePacket {state : ForwardingState} {answers : PacketAnswers} {packet : TunnelPacket}
      {after : PortForwardHandler} {table : DescriptorTable} {packets : List TunnelPacket}
      {opened : List (Multiplexer.Opening Int)} :
      state.handler.handlePacket answers state.table packet = (after, table, packets, opened) →
      Step state (.handlePacket answers packet)
        (state.step after table (state.handler.handlePacketCalls answers state.table packet))
  | closeSourceFd {state : ForwardingState} {fd : Fd} {after : PortForwardHandler}
      {table : DescriptorTable} :
      state.handler.closeSourceFd state.table fd = (after, table) →
      Step state (.closeSourceFd fd)
        (state.step after table (state.handler.closeSourceFdCalls fd))
  | closeNegativeFd {state : ForwardingState} {fd : Int} : fd < 0 →
      Step state (.closeSourceFd fd) state
  | addSourceSocketId {state : ForwardingState} {socketId : Int} {sourceFd : Fd} :
      Step state (.addSourceSocketId socketId sourceFd)
        (state.step (state.handler.addSourceSocketId socketId sourceFd) state.table [])
  | addNegativeFd {state : ForwardingState} {socketId sourceFd : Int} : sourceFd < 0 →
      Step state (.addSourceSocketId socketId sourceFd) state
  | closeSourceSocketId {state : ForwardingState} {socketId : Int} {after : PortForwardHandler}
      {table : DescriptorTable} :
      state.handler.closeSourceSocketId state.table socketId = (after, table) →
      Step state (.closeSourceSocketId socketId)
        (state.step after table (state.handler.closeSourceSocketIdCalls socketId))

end ForwardingState

def oneHandlerSystem : TransitionSystem ForwardingState ForwardingEvent where
  initial state := state = .initial
  step := ForwardingState.Step

end EternalTerminal
