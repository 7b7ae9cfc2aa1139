/-
`ServerConnection`: what the server does with a new socket.

The class's two maps are functions of the client id.  `newClient` is the
callback of the derived class; it says whether it takes the new connection.
-/

import EternalTerminal.Base.Connection

namespace EternalTerminal

open Library

namespace ServerClientConnection

def create (key : Bytes) (socketFd : Fd) : Action Connection := do
  let readerHandler ← CryptoHandler.create key CLIENT_SERVER_NONCE_MSB
  let writerHandler ← CryptoHandler.create key SERVER_CLIENT_NONCE_MSB
  pure
    { reader := BackedReader.create readerHandler (some socketFd)
      writer := BackedWriter.create writerHandler (some socketFd)
      socketFd := some socketFd
      shuttingDown := false }

theorem create_valid (key : Key) (socketFd : Fd) :
    create key.bytes socketFd =
      .done (Connection.create key CLIENT_SERVER_NONCE_MSB SERVER_CLIENT_NONCE_MSB
        (some socketFd)) := by
  simp only [create, CryptoHandler.create, dif_pos key.length_eq, Program.pure_eq_done,
    Program.done_bind]
  rfl

theorem create_invalid {key : Bytes} (invalid : key.length ≠ crypto_secretbox_KEYBYTES)
    (socketFd : Fd) : create key socketFd = .abort "Invalid key length" := by
  simp only [create, CryptoHandler.create, dif_neg invalid, Program.abort_bind]

end ServerClientConnection

structure ServerConnection where
  clientKeys : Bytes → Option Bytes
  clientConnections : Bytes → Option Connection

namespace ServerConnection

def empty : ServerConnection :=
  { clientKeys := fun _ => none
    clientConnections := fun _ => none }

def addClientKey (server : ServerConnection) (id passkey : Bytes) : ServerConnection :=
  { server with clientKeys := Function.update server.clientKeys id (some passkey) }

def insertConnection (server : ServerConnection) (id : Bytes) (connection : Connection) :
    ServerConnection :=
  { server with
    clientConnections := Function.update server.clientConnections id (some connection) }

def eraseConnection (server : ServerConnection) (id : Bytes) : ServerConnection :=
  { server with clientConnections := Function.update server.clientConnections id none }

def removeClient (server : ServerConnection) (id : Bytes) :
    Action (Bool × ServerConnection) :=
  match server.clientKeys id with
  | none => pure (false, server)
  | some _ =>
      let server := { server with clientKeys := Function.update server.clientKeys id none }
      match server.clientConnections id with
      | none => pure (true, server)
      | some connection => do
          let _ ← connection.shutdown
          pure (true, server.eraseConnection id)

def destroyPartialConnection (server : ServerConnection) (clientId : Bytes) :
    Action ServerConnection :=
  match server.clientConnections clientId with
  | none => pure server
  | some connection => do
      let _ ← connection.shutdown
      pure (server.eraseConnection clientId)

def toBytes (text : String) : Bytes := text.toList.map fun letter => UInt8.ofNat letter.toNat

def mismatchedProtocol (version : Int32) : ConnectResponse :=
  { status := .MISMATCHED_PROTOCOL
    error := toBytes ("Mismatched protocol versions.  " ++
      "Your client & server must be on the same version of ET.  " ++
      "Client: " ++ toString version.toInt ++
      " != Server: " ++ toString PROTOCOL_VERSION) }

def invalidKey : ConnectResponse :=
  { status := .INVALID_KEY
    error := toBytes "Client is not registered" }

variable (proto : Protobuf) (newClient : Bytes → Connection → Bool)
  (server : ServerConnection) (clientSocketFd : Fd)

/-- The two `catch` blocks when no connection was created. -/
def closeClientSocket : Exn → Action ServerConnection := fun _ => do
  SocketHandler.close clientSocketFd
  pure server

def refuseClient (response : ConnectResponse) : Action ServerConnection := do
  SocketHandler.writeProto proto.connectResponse clientSocketFd response
  SocketHandler.close clientSocketFd
  pure server

def createClient (clientId key : Bytes) : Action ServerConnection := do
  let connection ← ServerClientConnection.create key clientSocketFd
  let server := server.insertConnection clientId connection
  tryCatch
    (do
      SocketHandler.writeProto proto.connectResponse clientSocketFd
        { status := .NEW_CLIENT, error := [] }
      if newClient clientId connection then pure server
      else do
        let (_, server) ← server.removeClient clientId
        SocketHandler.close clientSocketFd
        pure server)
    (fun _ => server.destroyPartialConnection clientId)

/-- `ServerClientConnection::recoverClient` on the connection in the map: the
old socket is closed whatever becomes of the recovery. -/
def recoverClient (clientId : Bytes) (connection : Connection) :
    Action ServerConnection := do
  let connection ← connection.closeSocket
  let server := server.insertConnection clientId connection
  tryCatch
    (do
      let (_, connection) ← connection.recover proto clientSocketFd
      pure (server.insertConnection clientId connection))
    (server.closeClientSocket clientSocketFd)

/-- The branch of a client that has a connection. -/
def returningClient (clientId : Bytes) (connection : Connection) :
    Action ServerConnection := do
  SocketHandler.writeProto proto.connectResponse clientSocketFd
    { status := .RETURNING_CLIENT, error := [] }
  server.recoverClient proto clientSocketFd clientId connection

/-- `clientHandler` once the request has been read. -/
def handleRequest (request : ConnectRequest) : Action ServerConnection :=
  if request.version.toInt ≠ PROTOCOL_VERSION then
    server.refuseClient proto clientSocketFd (mismatchedProtocol request.version)
  else
    match server.clientKeys request.clientId with
    | none => server.refuseClient proto clientSocketFd invalidKey
    | some key =>
        match server.clientConnections request.clientId with
        | none => server.createClient proto newClient clientSocketFd request.clientId key
        | some connection =>
            server.returningClient proto clientSocketFd request.clientId connection

/-- The `catch` blocks below belong to the one `try` of the source; a block
further in catches with the server as it is there. -/
def clientHandler : Action ServerConnection :=
  tryCatch
    (do
      let request ← SocketHandler.readProto proto.connectRequest clientSocketFd
      server.handleRequest proto newClient clientSocketFd request)
    (server.closeClientSocket clientSocketFd)

end ServerConnection

end EternalTerminal
