/-
`PortForwardHandler`: the forwarded connections of one end of a session.
-/

import EternalTerminal.Library.Multiplexer
import EternalTerminal.Terminal.ForwardHandlers

namespace EternalTerminal

open Library

structure PortForwardHandler where
  sourceHandlers : List ForwardSourceHandler
  destinationHandlers : Int → Option ForwardDestinationHandler
  socketIdSourceHandlerMap : Int → Option Nat

inductive TunnelPacket where
  | destinationRequest (pfdr : PortForwardDestinationRequest)
  | destinationResponse (pfdr : PortForwardDestinationResponse)
  | data (pwd : PortForwardData)

/-- What the kernel answers during one call of `update`, and the orders in which the hash
tables are walked.  The number is that of the source handler. -/
structure UpdateAnswers where
  socketOrder : Nat → List Int
  socketReads : Nat → Int → List ReadAnswer
  accepts : Nat → List (Option Fd)
  destinationOrder : List Int
  destinationReads : Int → List ReadAnswer

/-- What the kernel and `rand` answer while one packet is handled. -/
structure PacketAnswers where
  networkConnect : SocketEndpoint → Option Fd
  pipeConnect : SocketEndpoint → Option Fd
  connectError : String
  rand : Nat → Int
  schedule : WriteSchedule

namespace PortForwardHandler

/-! ### `update` -/

/-- The loop over the source handlers, from the one with number `index` on. -/
def updateSources (answers : UpdateAnswers) : Nat → List ForwardSourceHandler →
    DescriptorTable →
    List ForwardSourceHandler × DescriptorTable × List PortForwardDestinationRequest ×
      List PortForwardData
  | _, [], table => ([], table, [], [])
  | index, handler :: rest, table =>
      let (read, afterRead, data) :=
        handler.update (answers.socketOrder index) (answers.socketReads index) table
      let (listened, afterListen, fd) := read.listen (answers.accepts index) afterRead
      let request : List PortForwardDestinationRequest := fd.toList.map fun fd =>
        { destination := handler.destination, fd := fd, connection := afterRead.count }
      let (others, after, requests, moreData) :=
        updateSources answers (index + 1) rest afterListen
      (listened :: others, after, request ++ requests, data ++ moreData)

/-- The loop over the destination handlers stops at the first that has closed. -/
def updateDestinations (reads : Int → List ReadAnswer) : List Int →
    (Int → Option ForwardDestinationHandler) → DescriptorTable →
    (Int → Option ForwardDestinationHandler) × DescriptorTable × List PortForwardData
  | [], handlers, table => (handlers, table, [])
  | socketId :: rest, handlers, table =>
      match handlers socketId with
      | none => updateDestinations reads rest handlers table
      | some handler =>
          let (read, afterRead, data) := handler.update (reads socketId) table
          if read.fd = none then (Function.update handlers socketId none, afterRead, data)
          else
            let (after, afterTable, moreData) := updateDestinations reads rest
              (Function.update handlers socketId (some read)) afterRead
            (after, afterTable, data ++ moreData)

/-- `update`, and the packets that the session's loop writes afterwards: the requests first,
then the data. -/
def update (handler : PortForwardHandler) (answers : UpdateAnswers) (table : DescriptorTable) :
    PortForwardHandler × DescriptorTable × List TunnelPacket :=
  let (sources, afterSources, requests, sourceData) :=
    updateSources answers 0 handler.sourceHandlers table
  let (destinations, after, destinationData) :=
    updateDestinations answers.destinationReads answers.destinationOrder
      handler.destinationHandlers afterSources
  ({ handler with sourceHandlers := sources, destinationHandlers := destinations }, after,
    requests.map .destinationRequest ++ (sourceData ++ destinationData).map .data)

/-! ### `handlePacket` -/

/-- "::1" and "127.0.0.1" -/
def ipv6Localhost : Bytes := [58, 58, 49]

def ipv4Localhost : Bytes := [49, 50, 55, 46, 48, 46, 48, 46, 49]

def connectDestination (answers : PacketAnswers) (table : DescriptorTable)
    (destination : SocketEndpoint) : Option Fd :=
  if destination.port.isSome then
    match table.granted
        (answers.networkConnect { name := some ipv6Localhost, port := destination.port }) with
    | some fd => some fd
    | none => table.granted
        (answers.networkConnect { name := some ipv4Localhost, port := destination.port })
  else table.granted (answers.pipeConnect destination)

/-- The loop around `rand`, with the number of draws that are left. -/
def emptySocketId (handlers : Int → Option ForwardDestinationHandler) (rand : Nat → Int) :
    Nat → Nat → Option Int
  | 0, _ => none
  | left + 1, attempts =>
      if (handlers (rand attempts)).isSome then emptySocketId handlers rand left (attempts + 1)
      else some (rand attempts)

/-- The last component is what has been opened: the number of the new connection and its
id. -/
def createDestination (handler : PortForwardHandler) (answers : PacketAnswers)
    (table : DescriptorTable) (pfdr : PortForwardDestinationRequest) :
    PortForwardHandler × DescriptorTable × PortForwardDestinationResponse ×
      Option (Nat × Int) :=
  match connectDestination answers table pfdr.destination with
  | none => (handler, table, { clientfd := pfdr.fd, result := .error answers.connectError }, none)
  | some fd =>
      match emptySocketId handler.destinationHandlers answers.rand 100000 0 with
      | none =>
          (handler, table.openFd fd,
            { clientfd := pfdr.fd, result := .error "Could not find empty socket id" }, none)
      | some socketId =>
          ({ handler with
              destinationHandlers := Function.update handler.destinationHandlers socketId
                (some { fd := some fd, socketId := socketId }) },
            table.openFd fd, { clientfd := pfdr.fd, result := .ok socketId },
            some (table.count, socketId))

def findUnassigned (handler : PortForwardHandler) (fd : Fd) : Option Nat :=
  handler.sourceHandlers.findIdx? (fun source => source.hasUnassignedFd fd)

def setSource (handler : PortForwardHandler) (index : Nat) (source : ForwardSourceHandler) :
    PortForwardHandler :=
  { handler with sourceHandlers := handler.sourceHandlers.set index source }

def closeSourceFd (handler : PortForwardHandler) (table : DescriptorTable) (fd : Fd) :
    PortForwardHandler × DescriptorTable :=
  match handler.findUnassigned fd with
  | none => (handler, table)
  | some index =>
      match handler.sourceHandlers[index]? with
      | none => (handler, table)
      | some source =>
          let (closed, after) := source.closeUnassignedFd fd table
          (handler.setSource index closed, after)

def addSourceSocketId (handler : PortForwardHandler) (socketId : Int) (sourceFd : Fd) :
    PortForwardHandler :=
  match handler.findUnassigned sourceFd with
  | none => handler
  | some index =>
      match handler.sourceHandlers[index]? with
      | none => handler
      | some source =>
          { handler.setSource index (source.addSocket socketId sourceFd) with
            socketIdSourceHandlerMap :=
              Function.update handler.socketIdSourceHandlerMap socketId (some index) }

def closeSourceSocketId (handler : PortForwardHandler) (table : DescriptorTable)
    (socketId : Int) : PortForwardHandler × DescriptorTable :=
  match handler.socketIdSourceHandlerMap socketId with
  | none => (handler, table)
  | some index =>
      match handler.sourceHandlers[index]? with
      | none => (handler, table)
      | some source =>
          let (closed, after) := source.closeSocket socketId table
          ({ handler.setSource index closed with
              socketIdSourceHandlerMap :=
                Function.update handler.socketIdSourceHandlerMap socketId none }, after)

def sendDataToSourceOnSocket (handler : PortForwardHandler) (socketId : Int) (data : Bytes)
    (schedule : WriteSchedule) (table : DescriptorTable) : DescriptorTable :=
  match handler.socketIdSourceHandlerMap socketId with
  | none => table
  | some index =>
      match handler.sourceHandlers[index]? with
      | none => table
      | some source => source.sendDataOnSocket socketId data schedule table

/-- Data for a destination: a closed or failed connection is closed here as well. -/
def handleDestinationData (handler : PortForwardHandler) (table : DescriptorTable)
    (schedule : WriteSchedule) (socketid : Int) (content : PortForwardContent) :
    PortForwardHandler × DescriptorTable :=
  match handler.destinationHandlers socketid with
  | none => (handler, table)
  | some destination =>
      match content with
      | .buffer bytes => (handler, destination.write bytes schedule table)
      | _ =>
          ({ handler with
              destinationHandlers := Function.update handler.destinationHandlers socketid none },
            destination.close table)

def handleSourceData (handler : PortForwardHandler) (table : DescriptorTable)
    (schedule : WriteSchedule) (socketid : Int) (content : PortForwardContent) :
    PortForwardHandler × DescriptorTable :=
  match content with
  | .buffer bytes => (handler, handler.sendDataToSourceOnSocket socketid bytes schedule table)
  | _ => handler.closeSourceSocketId table socketid

/-- The packets are those that go back; the opening is the one that a request has made. -/
def handlePacket (handler : PortForwardHandler) (answers : PacketAnswers)
    (table : DescriptorTable) :
    TunnelPacket → PortForwardHandler × DescriptorTable × List TunnelPacket ×
      List (Multiplexer.Opening Int)
  | .data pwd =>
      let (after, afterTable) :=
        if pwd.sourcetodestination then
          handler.handleDestinationData table answers.schedule pwd.socketid pwd.content
        else handler.handleSourceData table answers.schedule pwd.socketid pwd.content
      (after, afterTable, [], [])
  | .destinationRequest pfdr =>
      let (after, afterTable, response, opened) := handler.createDestination answers table pfdr
      (after, afterTable, [.destinationResponse response], opened.toList.map fun opening =>
        { source := pfdr.connection, destination := opening.1, id := opening.2 })
  | .destinationResponse pfdr =>
      match pfdr.result with
      | .error _ =>
          let (after, afterTable) := handler.closeSourceFd table pfdr.clientfd
          (after, afterTable, [], [])
      | .ok socketid => (handler.addSourceSocketId socketid pfdr.clientfd, table, [], [])

end PortForwardHandler

/-! ### Two handlers -/

structure TunnelPeer where
  handler : PortForwardHandler
  table : DescriptorTable

/-- Both ends of a session with the packets between them.  An end that reads a request
records what it opened for it. -/
structure Tunnels where
  here : TunnelPeer
  there : TunnelPeer
  toHere : List TunnelPacket
  toThere : List TunnelPacket
  openedHere : List (Multiplexer.Opening Int)
  openedThere : List (Multiplexer.Opening Int)

namespace Tunnels

def swap (tunnels : Tunnels) : Tunnels :=
  { here := tunnels.there
    there := tunnels.here
    toHere := tunnels.toThere
    toThere := tunnels.toHere
    openedHere := tunnels.openedThere
    openedThere := tunnels.openedHere }

inductive Action where
  | update (answers : UpdateAnswers)
  | deliver (answers : PacketAnswers)

/-- An order in which a hash table with these keys can be walked. -/
def Walks {α : Type} (order : List Int) (map : Int → Option α) : Prop :=
  order.Nodup ∧ ∀ key, key ∈ order ↔ (map key).isSome

def updateHere (tunnels : Tunnels) (answers : UpdateAnswers) : Tunnels :=
  let (handler, table, packets) := tunnels.here.handler.update answers tunnels.here.table
  { tunnels with
    here := { handler := handler, table := table }
    toThere := tunnels.toThere ++ packets }

def deliverHere (tunnels : Tunnels) (answers : PacketAnswers) (packet : TunnelPacket)
    (rest : List TunnelPacket) : Tunnels :=
  let (handler, table, packets, opened) :=
    tunnels.here.handler.handlePacket answers tunnels.here.table packet
  { tunnels with
    here := { handler := handler, table := table }
    toHere := rest
    toThere := tunnels.toThere ++ packets
    openedHere := tunnels.openedHere ++ opened }

/-- What the end that is `here` does.  `rand` does not give an id that it has given
before. -/
inductive Act : Tunnels → Action → Tunnels → Prop
  | update {tunnels : Tunnels} {answers : UpdateAnswers} :
      (∀ (index : Nat) (source : ForwardSourceHandler),
        tunnels.here.handler.sourceHandlers[index]? = some source →
          Walks (answers.socketOrder index) source.socketFdMap) →
      Walks answers.destinationOrder tunnels.here.handler.destinationHandlers →
      Act tunnels (.update answers) (tunnels.updateHere answers)
  | deliver {tunnels : Tunnels} {answers : PacketAnswers} {packet : TunnelPacket}
      {rest : List TunnelPacket} :
      tunnels.toHere = packet :: rest →
      (∀ opening ∈ tunnels.openedHere, opening.id ≠ answers.rand 0) →
      Act tunnels (.deliver answers) (tunnels.deliverHere answers packet rest)

inductive Step : Tunnels → Bool × Action → Tunnels → Prop
  | here {tunnels after : Tunnels} {action : Action} :
      Act tunnels action after → Step tunnels (true, action) after
  | there {tunnels after : Tunnels} {action : Action} :
      Act tunnels.swap action after.swap → Step tunnels (false, action) after

end Tunnels

def PortForwardHandler.listening (sources : List TunnelEnds) : PortForwardHandler :=
  { sourceHandlers := sources.map fun ends =>
      { source := ends.source
        destination := ends.destination
        unassignedFds := ∅
        socketFdMap := fun _ => none }
    destinationHandlers := fun _ => none
    socketIdSourceHandlerMap := fun _ => none }

def DescriptorTable.unused : DescriptorTable :=
  { connectionOf := fun _ => none
    count := 0
    received := fun _ => []
    offered := fun _ => [] }

def forwardingSystem : TransitionSystem Tunnels (Bool × Tunnels.Action) where
  initial tunnels := ∃ sourcesHere sourcesThere, tunnels =
    { here := { handler := .listening sourcesHere, table := .unused }
      there := { handler := .listening sourcesThere, table := .unused }
      toHere := []
      toThere := []
      openedHere := []
      openedThere := [] }
  step := Tunnels.Step

end EternalTerminal
