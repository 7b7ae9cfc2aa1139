/-
`TcpSocketHandler::listen` and `PipeSocketHandler::listen`.

The kernel's answers are parameters: every call of `listen` may meet different ones.
`FATAL_FAIL`, `STFATAL` and `exit` end the process.
-/

import Mathlib.Logic.Function.Basic
import EternalTerminal.Base.Headers

namespace EternalTerminal

structure SocketEndpoint where
  name : Option Bytes
  port : Option Int
  deriving DecidableEq

/-- The getters of the generated class give the default of a field that is not set. -/
def SocketEndpoint.nameOrEmpty (endpoint : SocketEndpoint) : Bytes :=
  endpoint.name.getD []

def SocketEndpoint.portOrZero (endpoint : SocketEndpoint) : Int :=
  endpoint.port.getD 0

inductive AddressFamily where
  | AF_INET
  | AF_INET6
  deriving DecidableEq

/-- One result of `getaddrinfo`, with the bytes of its socket address. -/
structure AddrInfo where
  family : AddressFamily
  addr : Bytes

/-- What the kernel answers while one source is being opened.  A call that fails answers
with its errno.  The number that `chmod` and `chown` have tells the calls of one source
apart. -/
structure Kernel where
  getaddrinfo : Option Bytes → Int → Except Int (List AddrInfo)
  socket : AddrInfo → Except Int Fd
  initServerSocket : Fd → Option Int
  setIpv6Only : Fd → Option Int
  bind : AddrInfo → Fd → Option Int
  listen : Fd → Option Int
  close : Fd → Option Int
  unixSocket : Except Int Fd
  unixBind : Fd → Bytes → Option Int
  mkdtemp : Option Bytes
  chmod : Nat → Bytes → Option Int
  chown : Nat → Bytes → Int → Int → Option Int
  strerror : Int → String

/-- How a call ends that does not return: with an exception that `createSource` catches, or
with the process. -/
inductive Failure where
  | runtimeError (what : String)
  | abort (message : String)

/-- `FATAL_FAIL` of a call with this errno. -/
def Kernel.fatalFail (kernel : Kernel) : Option Int → Except Failure Unit
  | none => .ok ()
  | some errno =>
      .error (.abort ("Error: (" ++ toString errno ++ "): " ++ kernel.strerror errno))

structure TcpSocketHandler where
  portServerSockets : Int → Option (List Fd)

namespace TcpSocketHandler

/-- An IPv6 socket must not serve IPv4 as well. -/
def keepToIpv6 (kernel : Kernel) (p : AddrInfo) (sockFd : Fd) : Except Failure Unit :=
  if p.family = .AF_INET6 then kernel.fatalFail (kernel.setIpv6Only sockFd) else .ok ()

def bindAddress (kernel : Kernel) (port : Int) (p : AddrInfo) (sockFd : Fd) :
    Except Failure (Option Fd) :=
  match kernel.bind p sockFd with
  | some localErrno => do
      kernel.fatalFail (kernel.close sockFd)
      .error (.runtimeError ("Error binding port " ++ toString port ++ ": " ++
        toString localErrno ++ " " ++ kernel.strerror localErrno))
  | none => do
      kernel.fatalFail (kernel.listen sockFd)
      .ok (some sockFd)

/-- One turn of the loop over the addresses, for an address that has not been seen. -/
def serveAddress (kernel : Kernel) (port : Int) (p : AddrInfo) :
    Except Failure (Option Fd) :=
  match kernel.socket p with
  | .error _ => .ok none
  | .ok sockFd => do
      kernel.fatalFail (kernel.initServerSocket sockFd)
      keepToIpv6 kernel p sockFd
      bindAddress kernel port p sockFd

def serveAddresses (kernel : Kernel) (port : Int) :
    List AddrInfo → List Bytes → List Fd → Except Failure (List Fd)
  | [], _, serverSockets => .ok serverSockets
  | p :: rest, seenAddresses, serverSockets =>
      if p.addr ∈ seenAddresses then serveAddresses kernel port rest seenAddresses serverSockets
      else do
        let sockFd ← serveAddress kernel port p
        serveAddresses kernel port rest (p.addr :: seenAddresses)
          (serverSockets ++ sockFd.toList)

def listen (kernel : Kernel) (handler : TcpSocketHandler) (endpoint : SocketEndpoint) :
    Except Failure TcpSocketHandler :=
  let port := endpoint.portOrZero
  if (handler.portServerSockets port).isSome then
    .error (.abort "Tried to listen twice on the same port")
  else
    match kernel.getaddrinfo endpoint.name port with
    | .error rc =>
        .error (.abort ("Error getting address info for " ++ toString port ++ ": " ++
          toString rc))
    | .ok servinfo => do
        let serverSockets ← serveAddresses kernel port servinfo [] []
        if serverSockets = [] then .error (.abort "Could not bind to any interface!")
        else
          .ok { portServerSockets :=
            Function.update handler.portServerSockets port (some serverSockets) }

/-- `stopListening` of a port in the table. -/
def stopListening (handler : TcpSocketHandler) (endpoint : SocketEndpoint) :
    TcpSocketHandler :=
  { portServerSockets :=
      Function.update handler.portServerSockets endpoint.portOrZero none }

end TcpSocketHandler

/-- The string that a C function sees. -/
def cString (bytes : Bytes) : Bytes :=
  bytes.takeWhile (fun byte => byte != 0)

/-- What `strncpy` leaves of a path in `sun_path`. -/
def sunPath (path : Bytes) : Bytes :=
  (cString path).take 108

structure PipeSocketHandler where
  pipeServerSockets : Bytes → Option Fd

def PipeSocketHandler.listen (kernel : Kernel) (handler : PipeSocketHandler)
    (endpoint : SocketEndpoint) : Except Failure PipeSocketHandler :=
  let pipePath := endpoint.nameOrEmpty
  if (handler.pipeServerSockets pipePath).isSome then
    .error (.runtimeError "Tried to listen twice on the same path")
  else
    match kernel.unixSocket with
    | .error errno => do
        kernel.fatalFail (some errno)
        .ok handler
    | .ok fd => do
        kernel.fatalFail (kernel.initServerSocket fd)
        kernel.fatalFail (kernel.unixBind fd (sunPath pipePath))
        kernel.fatalFail (kernel.chmod 1 (sunPath pipePath))
        .ok { pipeServerSockets :=
          Function.update handler.pipeServerSockets pipePath (some fd) }

end EternalTerminal
