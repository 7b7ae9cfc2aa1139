/-
`PortForwardHandler::createSource` and the loop of `runTerminal` over the reverse tunnels.

The sessions of one `TerminalServer` share its `TcpSocketHandler`; each has a
`PipeSocketHandler` of its own.
-/

import EternalTerminal.Library.TransitionSystem
import EternalTerminal.Terminal.ListenOutcome

namespace EternalTerminal

open Library

structure PortForwardSourceRequest where
  source : Option SocketEndpoint
  destination : SocketEndpoint
  environmentvariable : Option Bytes
  deriving DecidableEq

structure PortForwardSourceResponse where
  error : Option String

/-- The two ends a `ForwardSourceHandler` is built with. -/
structure TunnelEnds where
  source : SocketEndpoint
  destination : SocketEndpoint

/-- What `createSource` works on: the table that all sessions share, and the session's own
table and handlers. -/
structure TunnelTables where
  network : TcpSocketHandler
  pipe : PipeSocketHandler
  sourceHandlers : List TunnelEnds

structure CreatedSource where
  response : PortForwardSourceResponse
  sourceName : Bytes
  tables : TunnelTables

namespace PortForwardHandler

/-- "/sock" -/
def sockFile : Bytes := [47, 115, 111, 99, 107]

/-- The endpoint to listen at.  Without a source it is a socket in a directory made for it.
`wantsName` says that `createSource` was given a place to put the name. -/
def chooseSource (kernel : Kernel) (pfsr : PortForwardSourceRequest) (wantsName : Bool)
    (userid groupid : Int) : Except Failure SocketEndpoint :=
  match pfsr.source with
  | some source =>
      if wantsName then
        .error (.runtimeError
          "Do not set a source when forwarding named pipes with environment variables")
      else .ok source
  | none =>
      match kernel.mkdtemp with
      | none =>
          -- A `std::string` of a null pointer throws a `logic_error`, which nothing catches.
          .error (.abort "Uncaught c++ exception: basic_string: construction from null")
      | some sourceDirectory => do
          kernel.fatalFail (kernel.chmod 0 (cString sourceDirectory))
          kernel.fatalFail (kernel.chown 0 (cString sourceDirectory) userid groupid)
          if wantsName then .ok { name := some (sourceDirectory ++ sockFile), port := none }
          else .error (.abort "Tried to create a pipe but without a place to put the name!")

/-- The test before the last `chmod` is left out: a `uid_t` is never negative. -/
def openSource (kernel : Kernel) (tables : TunnelTables) (source destination : SocketEndpoint)
    (wantsName : Bool) (userid groupid : Int) : Except Failure TunnelTables :=
  let sourceHandlers := tables.sourceHandlers ++ [{ source := source, destination := destination }]
  if source.port.isSome then
    if wantsName then
      .error (.abort "Tried to create a port forward but with a place to put the name!")
    else do
      let network ← tables.network.listen kernel source
      .ok { tables with network := network, sourceHandlers := sourceHandlers }
  else do
    let pipe ← tables.pipe.listen kernel source
    kernel.fatalFail (kernel.chmod 2 (cString source.nameOrEmpty))
    kernel.fatalFail (kernel.chown 1 (cString source.nameOrEmpty) userid groupid)
    .ok { tables with pipe := pipe, sourceHandlers := sourceHandlers }

/-- The body of the `try` block. -/
def tryCreateSource (kernel : Kernel) (tables : TunnelTables) (pfsr : PortForwardSourceRequest)
    (wantsName : Bool) (userid groupid : Int) : Except Failure (SocketEndpoint × TunnelTables) := do
  let source ← chooseSource kernel pfsr wantsName userid groupid
  let after ← openSource kernel tables source pfsr.destination wantsName userid groupid
  .ok (source, after)

/-- An error is the end of the process. -/
def createSource (kernel : Kernel) (tables : TunnelTables) (pfsr : PortForwardSourceRequest)
    (wantsName : Bool) (userid groupid : Int) : Except String CreatedSource :=
  match tryCreateSource kernel tables pfsr wantsName userid groupid with
  | .ok (source, after) =>
      .ok { response := { error := none }
            sourceName := if pfsr.source.isSome then [] else source.nameOrEmpty
            tables := after }
  | .error (.runtimeError what) =>
      .ok { response := { error := some what }, sourceName := [], tables := tables }
  | .error (.abort message) => .error message

end PortForwardHandler

/-! ### When `createSource` comes back -/

namespace Kernel

/-- A pipe can be made at the path and given to the user. -/
def OpensPipe (kernel : Kernel) (path : Bytes) (userid groupid : Int) : Prop :=
  kernel.BindsPipe path ∧ kernel.chmod 2 (cString path) = none ∧
    kernel.chown 1 (cString path) userid groupid = none

end Kernel

namespace TunnelTables

/-- The condition on a source: a port is free in the table that all sessions share and the
kernel lets it be opened; a path is taken by this session, which is an error it is told, or
the kernel lets it be opened. -/
def AdmitsSource (tables : TunnelTables) (kernel : Kernel) (source : SocketEndpoint)
    (userid groupid : Int) : Prop :=
  if source.port.isSome then
    tables.network.portServerSockets source.portOrZero = none ∧ kernel.Resolves source
  else
    tables.pipe.pipeServerSockets source.nameOrEmpty ≠ none ∨
      kernel.OpensPipe source.nameOrEmpty userid groupid

/-- The condition on a request.  With a source and a place for a name it is refused in any
case; with neither the process ends. -/
def Admits (tables : TunnelTables) (kernel : Kernel) (pfsr : PortForwardSourceRequest)
    (wantsName : Bool) (userid groupid : Int) : Prop :=
  match pfsr.source, wantsName with
  | some _, true => True
  | some source, false => tables.AdmitsSource kernel source userid groupid
  | none, true =>
      ∃ directory, kernel.mkdtemp = some directory ∧
        kernel.chmod 0 (cString directory) = none ∧
        kernel.chown 0 (cString directory) userid groupid = none ∧
        tables.AdmitsSource kernel
          { name := some (directory ++ PortForwardHandler.sockFile), port := none } userid groupid
  | none, false => False

end TunnelTables

namespace PortForwardHandler

variable {kernel : Kernel} {tables after : TunnelTables} {source destination : SocketEndpoint}
  {userid groupid : Int} {pfsr : PortForwardSourceRequest} {wantsName : Bool}

theorem openSource_completes (noName : source.port.isSome → wantsName = false) :
    Completes (openSource kernel tables source destination wantsName userid groupid) ↔
      tables.AdmitsSource kernel source userid groupid := by
  unfold openSource TunnelTables.AdmitsSource
  by_cases isPort : source.port.isSome
  · rw [if_pos isPort, if_pos isPort, noName isPort, if_neg Bool.false_ne_true, completes_bind,
      TcpSocketHandler.listen_completes]
    exact and_iff_left (fun _ _ => completes_ok _)
  · rw [if_neg isPort, if_neg isPort, completes_bind, PipeSocketHandler.listen_completes]
    by_cases busy : tables.pipe.pipeServerSockets source.nameOrEmpty = none
    · rw [or_iff_right (not_not.mpr busy), or_iff_right (not_not.mpr busy), Kernel.OpensPipe]
      apply and_congr_right
      intro binds
      obtain ⟨fd, listens⟩ := PipeSocketHandler.listen_free busy binds
      rw [listens]
      constructor
      · intro rest
        have given := rest _ rfl
        rw [Kernel.completes_after, Kernel.completes_after] at given
        exact ⟨given.1, given.2.1⟩
      · rintro ⟨isModed, isOwned⟩ _ _
        rw [Kernel.completes_after, Kernel.completes_after]
        exact ⟨isModed, isOwned, completes_ok _⟩
    · apply iff_of_true _ (Or.inl busy)
      refine ⟨Or.inl busy, ?_⟩
      intro pipe impossible
      cases (PipeSocketHandler.listen_busy busy).symm.trans impossible

theorem tryCreateSource_completes :
    Completes (tryCreateSource kernel tables pfsr wantsName userid groupid) ↔
      tables.Admits kernel pfsr wantsName userid groupid := by
  unfold tryCreateSource chooseSource TunnelTables.Admits
  cases hasSource : pfsr.source with
  | some source =>
      cases wantsName with
      | true => exact iff_of_true (completes_runtimeError _) trivial
      | false =>
          change Completes (openSource kernel tables source _ false userid groupid >>= _) ↔ _
          rw [completes_bind, openSource_completes (fun _ => rfl)]
          exact and_iff_left (fun _ _ => completes_ok _)
  | none =>
      cases made : kernel.mkdtemp with
      | none =>
          apply iff_of_false (not_completes_abort _)
          cases wantsName with
          | true =>
              rintro ⟨directory, impossible, _⟩
              cases impossible
          | false => exact id
      | some directory =>
          rw [completes_bind]
          dsimp only
          rw [Kernel.completes_after, Kernel.completes_after]
          cases wantsName with
          | false =>
              apply iff_of_false _ id
              rintro ⟨⟨_, _, impossible⟩, _⟩
              exact not_completes_abort _ impossible
          | true =>
              constructor
              · rintro ⟨⟨isModed, isOwned, _⟩, opens⟩
                rw [isModed, isOwned] at opens
                have completes := opens _ rfl
                rw [completes_bind, openSource_completes (by intro h; cases h)] at completes
                exact ⟨directory, rfl, isModed, isOwned, completes.1⟩
              · rintro ⟨_, ⟨⟩, isModed, isOwned, admits⟩
                refine ⟨⟨isModed, isOwned, completes_ok _⟩, ?_⟩
                rw [isModed, isOwned]
                rintro _ ⟨⟩
                rw [completes_bind, openSource_completes (by intro h; cases h)]
                exact ⟨admits, fun _ _ => completes_ok _⟩

/-- The call returns if and only if the condition holds. -/
theorem createSource_returns :
    (∃ created, createSource kernel tables pfsr wantsName userid groupid = .ok created) ↔
      tables.Admits kernel pfsr wantsName userid groupid := by
  rw [← tryCreateSource_completes]
  unfold createSource
  cases tryCreateSource kernel tables pfsr wantsName userid groupid with
  | ok opened => exact iff_of_true ⟨_, rfl⟩ (completes_ok _)
  | error failure =>
      cases failure with
      | runtimeError what => exact iff_of_true ⟨_, rfl⟩ (completes_runtimeError _)
      | abort message =>
          apply iff_of_false _ (not_completes_abort _)
          rintro ⟨created, impossible⟩
          cases impossible

end PortForwardHandler

/-! ### What the response says -/

def TunnelTables.Listens (tables : TunnelTables) (source : SocketEndpoint) : Prop :=
  if source.port.isSome then (tables.network.portServerSockets source.portOrZero).isSome
  else (tables.pipe.pipeServerSockets source.nameOrEmpty).isSome

/-- A response without an error stands for a source that has been opened; one with an error
leaves the tables alone. -/
def CreatedSource.Answers (created : CreatedSource) (tables : TunnelTables)
    (destination : SocketEndpoint) : Prop :=
  match created.response.error with
  | some _ => created.tables = tables
  | none =>
      ∃ source, created.tables.Listens source ∧
        created.tables.sourceHandlers =
          tables.sourceHandlers ++ [{ source := source, destination := destination }]

namespace PortForwardHandler

variable {kernel : Kernel} {tables after : TunnelTables} {source destination : SocketEndpoint}
  {userid groupid : Int} {pfsr : PortForwardSourceRequest} {wantsName : Bool}

theorem openSource_ok
    (ok : openSource kernel tables source destination wantsName userid groupid = .ok after) :
    after.Listens source ∧ after.sourceHandlers =
      tables.sourceHandlers ++ [{ source := source, destination := destination }] := by
  unfold openSource at ok
  dsimp only at ok
  unfold TunnelTables.Listens
  split at ok
  · rename_i isPort
    rw [if_pos isPort]
    split at ok
    · cases ok
    · obtain ⟨network, listens, ok⟩ := except_bind_ok ok
      cases ok
      exact ⟨TcpSocketHandler.listen_isSome listens, rfl⟩
  · rename_i isPath
    rw [if_neg isPath]
    obtain ⟨pipe, listens, ok⟩ := except_bind_ok ok
    obtain ⟨_, _, ok⟩ := except_bind_ok ok
    obtain ⟨_, _, ok⟩ := except_bind_ok ok
    cases ok
    exact ⟨PipeSocketHandler.listen_isSome listens, rfl⟩

theorem createSource_answers {created : CreatedSource}
    (ok : createSource kernel tables pfsr wantsName userid groupid = .ok created) :
    created.Answers tables pfsr.destination := by
  unfold createSource at ok
  split at ok
  · rename_i source after opened
    cases ok
    obtain ⟨chosen, _, opened⟩ := except_bind_ok opened
    obtain ⟨tables, isOpen, same⟩ := except_bind_ok opened
    cases same
    obtain ⟨listens, handlers⟩ := openSource_ok isOpen
    exact ⟨source, listens, handlers⟩
  · cases ok
    rfl
  · cases ok

end PortForwardHandler

/-! ### The sessions of a server -/

/-- A session with the reverse tunnels it has not asked for yet. -/
structure TunnelSession where
  userid : Int
  groupid : Int
  reversetunnels : List PortForwardSourceRequest
  pipe : PipeSocketHandler
  sourceHandlers : List TunnelEnds

/-- `aborted` is the last message of a server that has ended. -/
structure TunnelServer where
  network : TcpSocketHandler
  sessions : Nat → Option TunnelSession
  aborted : Option String

namespace TunnelServer

def stopSources (network : TcpSocketHandler) (sourceHandlers : List TunnelEnds) :
    TcpSocketHandler :=
  sourceHandlers.foldl
    (fun table ends => if ends.source.port.isSome then table.stopListening ends.source else table)
    network

def tables (server : TunnelServer) (session : TunnelSession) : TunnelTables :=
  { network := server.network
    pipe := session.pipe
    sourceHandlers := session.sourceHandlers }

def endSession (server : TunnelServer) (id : Nat) (session : TunnelSession) : TunnelServer :=
  { server with
    network := stopSources server.network session.sourceHandlers
    sessions := Function.update server.sessions id none }

/-- One turn of the loop of `runTerminal`: an error ends the session. -/
def requestTunnel (server : TunnelServer) (id : Nat) (session : TunnelSession)
    (kernel : Kernel) (pfsr : PortForwardSourceRequest)
    (rest : List PortForwardSourceRequest) : TunnelServer :=
  match PortForwardHandler.createSource kernel (server.tables session) pfsr
      pfsr.environmentvariable.isSome session.userid session.groupid with
  | .error message => { server with aborted := some message }
  | .ok created =>
      if created.response.error.isSome then server.endSession id session
      else
        { server with
          network := created.tables.network
          sessions := Function.update server.sessions id (some
            { session with
              reversetunnels := rest
              pipe := created.tables.pipe
              sourceHandlers := created.tables.sourceHandlers }) }

inductive Event where
  | start (id : Nat) (userid groupid : Int) (reversetunnels : List PortForwardSourceRequest)
  | request (id : Nat) (kernel : Kernel)
  | finish (id : Nat)

inductive Step : TunnelServer → Event → TunnelServer → Prop
  | start {server : TunnelServer} {id : Nat} {userid groupid : Int}
      {reversetunnels : List PortForwardSourceRequest} :
      server.aborted = none → server.sessions id = none →
      Step server (.start id userid groupid reversetunnels)
        { server with
          sessions := Function.update server.sessions id (some
            { userid := userid
              groupid := groupid
              reversetunnels := reversetunnels
              pipe := { pipeServerSockets := fun _ => none }
              sourceHandlers := [] }) }
  | request {server : TunnelServer} {id : Nat} {session : TunnelSession} {kernel : Kernel}
      {pfsr : PortForwardSourceRequest} {rest : List PortForwardSourceRequest} :
      server.aborted = none → server.sessions id = some session →
      session.reversetunnels = pfsr :: rest →
      Step server (.request id kernel) (server.requestTunnel id session kernel pfsr rest)
  | finish {server : TunnelServer} {id : Nat} {session : TunnelSession} :
      server.aborted = none → server.sessions id = some session →
      session.reversetunnels = [] →
      Step server (.finish id) (server.endSession id session)

def AdmitsEvent (server : TunnelServer) : Event → Prop
  | .request id kernel =>
      ∀ session pfsr rest, server.sessions id = some session →
        session.reversetunnels = pfsr :: rest →
        (server.tables session).Admits kernel pfsr pfsr.environmentvariable.isSome
          session.userid session.groupid
  | _ => True

end TunnelServer

/-- The server has no session yet; its handler already listens for the clients. -/
def tunnelSystem : TransitionSystem TunnelServer TunnelServer.Event where
  initial server := ∃ network, server =
    { network := network
      sessions := fun _ => none
      aborted := none }
  step := TunnelServer.Step

namespace TunnelServer

variable {server after : TunnelServer}

theorem Step.goes_on {event : Event} (step : Step server event after)
    (admits : server.AdmitsEvent event) : after.aborted = none := by
  cases step with
  | start runs _ => exact runs
  | finish runs _ _ => exact runs
  | request runs isSession next =>
      have condition := admits _ _ _ isSession next
      obtain ⟨created, ok⟩ := PortForwardHandler.createSource_returns.mpr condition
      unfold requestTunnel
      rw [ok]
      dsimp only
      split
      · exact runs
      · exact runs

/-- A server whose requests all meet the condition is not ended by one, and a request is
answered if and only if it meets the condition. -/
theorem reverse_tunnels_answered (server : TunnelServer) :
    (tunnelSystem.ReachableBy AdmitsEvent server → server.aborted = none) ∧
      ∀ (id : Nat) (session : TunnelSession) (kernel : Kernel)
        (pfsr : PortForwardSourceRequest) (rest : List PortForwardSourceRequest),
        server.sessions id = some session → session.reversetunnels = pfsr :: rest →
        ((∃ created, PortForwardHandler.createSource kernel (server.tables session) pfsr
            pfsr.environmentvariable.isSome session.userid session.groupid = .ok created ∧
            created.Answers (server.tables session) pfsr.destination) ↔
          server.AdmitsEvent (.request id kernel)) := by
  constructor
  · intro reached
    induction reached with
    | start initially =>
        obtain ⟨network, rfl⟩ := initially
        rfl
    | next _ admits step _ => exact step.goes_on admits
  · intro id session kernel pfsr rest isSession next
    have condition : server.AdmitsEvent (.request id kernel) ↔
        (server.tables session).Admits kernel pfsr pfsr.environmentvariable.isSome
          session.userid session.groupid := by
      constructor
      · exact fun admits => admits session pfsr rest isSession next
      · intro admits other otherPfsr otherRest isOther otherNext
        cases isSession.symm.trans isOther
        cases next.symm.trans otherNext
        exact admits
    rw [condition, ← PortForwardHandler.createSource_returns]
    constructor
    · rintro ⟨created, ok, _⟩
      exact ⟨created, ok⟩
    · rintro ⟨created, ok⟩
      exact ⟨created, ok, PortForwardHandler.createSource_answers ok⟩

/-! ### Two sessions that want one port -/

def grantingKernel : Kernel :=
  { getaddrinfo := fun _ _ => .ok [{ family := .AF_INET, addr := [1] }]
    socket := fun _ => .ok 9
    initServerSocket := fun _ => none
    setIpv6Only := fun _ => none
    bind := fun _ _ => none
    listen := fun _ => none
    close := fun _ => none
    unixSocket := .ok 9
    unixBind := fun _ _ => none
    mkdtemp := some [47]
    chmod := fun _ _ => none
    chown := fun _ _ _ _ => none
    strerror := fun _ => "" }

def wantsPort8080 : PortForwardSourceRequest :=
  { source := some { name := none, port := some 8080 }
    destination := { name := none, port := some 80 }
    environmentvariable := none }

/-- Two sessions that each ask for port 8080. -/
def twoSessions : TunnelServer :=
  { network := { portServerSockets := fun _ => none }
    sessions := Function.update (Function.update (fun _ => none) 0 (some waiting)) 1 (some waiting)
    aborted := none }
where
  waiting : TunnelSession :=
    { userid := 1000
      groupid := 1000
      reversetunnels := [wantsPort8080]
      pipe := { pipeServerSockets := fun _ => none }
      sourceHandlers := [] }

theorem twoSessions_reachable : tunnelSystem.Reachable twoSessions := by
  have started : tunnelSystem.Reachable _ :=
    .start ⟨{ portServerSockets := fun _ => none }, rfl⟩
  have first := started.next
    (.start rfl rfl : Step _ (.start 0 1000 1000 [wantsPort8080]) _)
  exact first.next (.start rfl rfl : Step _ (.start 1 1000 1000 [wantsPort8080]) _)

/-- The second request for the port ends the process, and with it the first session. -/
theorem same_port_ends_server :
    ∃ server message, tunnelSystem.Reachable server ∧ (server.sessions 0).isSome ∧
      server.sessions 1 = some twoSessions.waiting ∧
      PortForwardHandler.createSource grantingKernel (server.tables twoSessions.waiting)
        wantsPort8080 wantsPort8080.environmentvariable.isSome 1000 1000 = .error message := by
  have opened := twoSessions_reachable.next
    (.request rfl rfl rfl : Step twoSessions (.request 0 grantingKernel) _)
  exact ⟨_, "Tried to listen twice on the same port", opened, rfl, rfl, rfl⟩

/-- The first of them is answered. -/
theorem reverse_tunnels_answered_first :
    ∃ created, PortForwardHandler.createSource grantingKernel
        (twoSessions.tables twoSessions.waiting) wantsPort8080
        wantsPort8080.environmentvariable.isSome 1000 1000 = .ok created ∧
      created.Answers (twoSessions.tables twoSessions.waiting) wantsPort8080.destination := by
  apply ((reverse_tunnels_answered twoSessions).2 0 twoSessions.waiting grantingKernel
    wantsPort8080 [] rfl rfl).mpr
  rintro session pfsr rest ⟨⟩ ⟨⟩
  refine ⟨rfl, _, rfl, ⟨?_, Or.inr trivial⟩, _, List.mem_cons_self, 9, rfl⟩
  rintro _ ⟨⟩
  exact ⟨rfl, fun _ => rfl, fun _ => rfl, fun _ => rfl⟩

end TunnelServer

end EternalTerminal
