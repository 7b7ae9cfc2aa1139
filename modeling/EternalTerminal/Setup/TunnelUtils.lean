/-
`TunnelUtils.cpp`: tunnel arguments of the command line.

An argument is a list of forwards between commas, or one forward in the style of ssh.
-/

import EternalTerminal.Base.Text
import EternalTerminal.Library.Sequence
import EternalTerminal.Terminal.ReverseTunnels

namespace EternalTerminal

open Library

/-- How parsing ends without requests.  The last two are undefined behaviour: an index past
the end of a vector, and a sum that is no `int`. -/
inductive TunnelFailure where
  | tunnelParse (message : Bytes)
  | stoi (error : StoiError)
  | badIndex
  | overflow
  deriving DecidableEq

def isSocketPath : Bytes → Bool
  | 47 :: _ => true
  | _ => false

/-- `find_first_not_of("0123456789-") == string::npos`. -/
def isNumeric (text : Bytes) : Bool := text.all fun byte => isDigit byte || byte = 45

def readPort (text : Bytes) : Except TunnelFailure Int :=
  match stoi text with
  | .ok port => .ok port
  | .error error => .error (.stoi error)

/-- A sum or a difference of two `int`s. -/
def checkInt (value : Int) : Except TunnelFailure Int :=
  if FitsInt value then .ok value else .error .overflow

def localhost : Bytes := ascii "localhost"

def localPort (port : Int) : SocketEndpoint :=
  { name := some localhost
    port := some port }

def remotePort (port : Int) : SocketEndpoint :=
  { name := none
    port := some port }

def socketPath (path : Bytes) : SocketEndpoint :=
  { name := some path
    port := none }

def forward (source destination : SocketEndpoint) : PortForwardSourceRequest :=
  { source := some source
    destination := destination
    environmentvariable := none }

/-- Forwarding a named pipe with an environment variable does not set the source. -/
def forwardVariable (environmentvariable destination : Bytes) : PortForwardSourceRequest :=
  { source := none
    destination := socketPath destination
    environmentvariable := some environmentvariable }

/-- `split(text, '-')` and the ports in its first two items. -/
def portRange (text : Bytes) : Except TunnelFailure (Int × Int) :=
  match split 45 text with
  | [] => .error .badIndex
  | [start] =>
      match readPort start with
      | .error failure => .error failure
      | .ok _ => .error .badIndex
  | start :: last :: _ =>
      match readPort start with
      | .error failure => .error failure
      | .ok start =>
          match readPort last with
          | .error failure => .error failure
          | .ok last => .ok (start, last)

/-- The request at `i` of a range. -/
def rangeRequest (sourcePortStart destinationPortStart : Int) (i : Nat) :
    Except TunnelFailure (List PortForwardSourceRequest) :=
  match checkInt (sourcePortStart + i), checkInt (destinationPortStart + i) with
  | .ok source, .ok destination => .ok [forward (localPort source) (remotePort destination)]
  | _, _ => .error .overflow

def rangeRequests (source destination : Int × Int) :
    Except TunnelFailure (List PortForwardSourceRequest) :=
  match checkInt (source.2 - source.1), checkInt (destination.2 - destination.1) with
  | .ok sourceLength, .ok destinationLength =>
      if sourceLength ≠ destinationLength then
        .error (.tunnelParse (ascii "source/destination port range must have same length"))
      else
        match checkInt (sourceLength + 1) with
        | .error failure => .error failure
        | .ok portRangeLength =>
            collect (rangeRequest source.1 destination.1) (List.range portRangeLength.toNat)
  | _, _ => .error .overflow

/-- An end that is a socket's path or a port. -/
def readEnd (withPort : Int → SocketEndpoint) (text : Bytes) :
    Except TunnelFailure SocketEndpoint :=
  if isSocketPath text then .ok (socketPath text)
  else
    match readPort text with
    | .error failure => .error failure
    | .ok port => .ok (withPort port)

/-- The branch of a socket's path on either side. -/
def socketRequests (source destination : Bytes) :
    Except TunnelFailure (List PortForwardSourceRequest) :=
  match readEnd localPort source with
  | .error failure => .error failure
  | .ok sourceEnd =>
      match readEnd remotePort destination with
      | .error failure => .error failure
      | .ok destinationEnd => .ok [forward sourceEnd destinationEnd]

/-- The branch of two ranges. -/
def portRangeRequests (source destination : Bytes) :
    Except TunnelFailure (List PortForwardSourceRequest) :=
  match portRange source with
  | .error failure => .error failure
  | .ok sourceRange =>
      match portRange destination with
      | .error failure => .error failure
      | .ok destinationRange => rangeRequests sourceRange destinationRange

/-- The branch of "normal port:port". -/
def portPairRequests (source destination : Bytes) :
    Except TunnelFailure (List PortForwardSourceRequest) :=
  match readPort source with
  | .error failure => .error failure
  | .ok source =>
      match readPort destination with
      | .error failure => .error failure
      | .ok destination => .ok [forward (localPort source) (remotePort destination)]

/-- The body of the `try` in `processEtStyleTunnelArg`: the requests it appends. -/
def etStyleRequests (source destination : Bytes) :
    Except TunnelFailure (List PortForwardSourceRequest) :=
  let srcIsSocket := isSocketPath source
  let srcIsNumeric := isNumeric source
  let dstIsSocket := isSocketPath destination
  if srcIsSocket || (dstIsSocket && srcIsNumeric) then socketRequests source destination
  else if !isNumeric source && !isNumeric destination then
    .ok [forwardVariable source destination]
  else if source.contains 45 && destination.contains 45 then
    portRangeRequests source destination
  else if source.contains 45 || destination.contains 45 then
    .error (.tunnelParse (ascii ("Invalid port range syntax: if source is a range, " ++
      "destination must be a range (and vice versa)")))
  else portPairRequests source destination

/-- The handlers after the `try`: a `logic_error` is reported with the whole argument. -/
def reportLogicError (input : Bytes) : TunnelFailure → TunnelFailure
  | .stoi _ => .tunnelParse
      (ascii "Invalid tunnel argument '" ++ input ++ ascii "': " ++ ascii "stoi")
  | failure => failure

def processEtStyleTunnelArg (pfsrs : List PortForwardSourceRequest)
    (sourceDestination : List Bytes) (input : Bytes) :
    Except TunnelFailure (List PortForwardSourceRequest) :=
  match sourceDestination with
  | source :: destination :: _ =>
      match etStyleRequests source destination with
      | .error failure => .error (reportLogicError input failure)
      | .ok requests => .ok (pfsrs ++ requests)
  | _ => .error (.tunnelParse
      (ascii "Tunnel argument must have source and destination between a ':'"))

/-- The loop of `parseSshTunnelArg` over the characters. -/
structure SshScan where
  inBrackets : Bool
  currentPart : Bytes
  sshArgParts : List Bytes

def SshScan.next (scan : SshScan) (c : UInt8) : SshScan :=
  if c = 91 then { scan with inBrackets := true }
  else if c = 93 then { scan with inBrackets := false }
  else if c = 58 && !scan.inBrackets then
    { scan with
      currentPart := []
      sshArgParts := scan.sshArgParts ++ [scan.currentPart] }
  else { scan with currentPart := scan.currentPart ++ [c] }

def sshArgParts (input : Bytes) : List Bytes :=
  let scan := input.foldl SshScan.next
    { inBrackets := false
      currentPart := []
      sshArgParts := [] }
  scan.sshArgParts ++ [scan.currentPart]

def parseSshTunnelArg (input : Bytes) : Except TunnelFailure (List Bytes) :=
  let parts := sshArgParts input
  if parts.length < 4 then
    .error (.tunnelParse (ascii ("The 4 part ssh-style tunneling arg " ++
      "(bind_address:port:host:hostport) must be supplied.")))
  else if parts.length > 4 then
    .error (.tunnelParse (ascii ("Ipv6 addresses must be inside of square brackets, ie " ++
      "[::1]:8080:[::]:9090")))
  else .ok parts

/-- The ssh-style branch; its `stoi` calls are in no `try`. -/
def sshStyleRequests (tunnelArg : Bytes) :
    Except TunnelFailure (List PortForwardSourceRequest) :=
  match parseSshTunnelArg tunnelArg with
  | .error failure => .error failure
  | .ok [bind, port, host, hostport] =>
      match readPort port with
      | .error failure => .error failure
      | .ok port =>
          match readPort hostport with
          | .error failure => .error failure
          | .ok hostport =>
              .ok [forward { name := some bind, port := some port }
                { name := some host, port := some hostport }]
  | .ok _ => .error .badIndex

def parseRangesToRequests (input : Bytes) :
    Except TunnelFailure (List PortForwardSourceRequest) :=
  let splitByComma := split 44 input
  if splitByComma.length > 1 then
    splitByComma.foldlM
      (fun pfsrs element => processEtStyleTunnelArg pfsrs (split 58 element) input) []
  else
    match splitByComma with
    | [] => .error .badIndex
    | tunnelArg :: _ =>
        let sourceDestination := split 58 tunnelArg
        if sourceDestination.length ≤ 2 then
          processEtStyleTunnelArg [] sourceDestination input
        else sshStyleRequests tunnelArg

end EternalTerminal
