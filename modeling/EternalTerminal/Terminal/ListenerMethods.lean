/-
`listen` and `stopListening` statement by statement.

An exception leaves the table of the handler and the open sockets as they are at that point.
The world of a run is the list of the listening sockets; the kernel never answers `socket` with
one of them.
-/

import EternalTerminal.Base.ClientConnection
import EternalTerminal.Library.Method
import EternalTerminal.Terminal.ListenOutcome

namespace EternalTerminal

open Library

inductive ListenCall where
  | getaddrinfo (name : Option Bytes) (port : Int)
  | socket (p : AddrInfo)
  | initServerSocket (sockFd : Fd)
  | setIpv6Only (sockFd : Fd)
  | bind (p : AddrInfo) (sockFd : Fd)
  | listen (sockFd : Fd)
  | close (sockFd : Fd)
  | unixSocket
  | unixBind (fd : Fd) (path : Bytes)
  | chmod (path : Bytes)

namespace ListenCall

/-- An errno, or what the call is for. -/
def Answer : ListenCall → Type
  | getaddrinfo _ _ => Except Int (List AddrInfo)
  | socket _ => Except Int Fd
  | unixSocket => Except Int Fd
  | _ => Option Int

end ListenCall

abbrev listenCalls : Signature :=
  { Operation := ListenCall
    Answer := ListenCall.Answer }

/-- A new socket has a number that no other has. -/
def Opens (listening : List Fd) : Except Int Fd → List Fd → Prop
  | .ok sockFd, after => sockFd ∉ listening ∧ after = sockFd :: listening
  | .error _, after => after = listening

/-- What a kernel answers, and what becomes of the listening sockets. -/
def Kernel.answers (kernel : Kernel) (listening : List Fd) :
    (call : ListenCall) → call.Answer → List Fd → Prop
  | .getaddrinfo name port, answer, after =>
      answer = kernel.getaddrinfo name port ∧ after = listening
  | .socket p, answer, after => answer = kernel.socket p ∧ Opens listening answer after
  | .initServerSocket sockFd, answer, after =>
      answer = kernel.initServerSocket sockFd ∧ after = listening
  | .setIpv6Only sockFd, answer, after =>
      answer = kernel.setIpv6Only sockFd ∧ after = listening
  | .bind p sockFd, answer, after => answer = kernel.bind p sockFd ∧ after = listening
  | .listen sockFd, answer, after => answer = kernel.listen sockFd ∧ after = listening
  | .close sockFd, answer, after =>
      answer = kernel.close sockFd ∧ after = listening.filter (fun other => other ≠ sockFd)
  | .unixSocket, answer, after => answer = kernel.unixSocket ∧ Opens listening answer after
  | .unixBind fd path, answer, after => answer = kernel.unixBind fd path ∧ after = listening
  | .chmod path, answer, after => answer = kernel.chmod 1 path ∧ after = listening

namespace ListenCall

def perform (call : ListenCall) : Program listenCalls Exn call.Answer :=
  .perform call .done

/-- `FATAL_FAIL` of a call with this errno. -/
def fatalFail (strerror : Int → String) : Option Int → Program listenCalls Exn Unit
  | none => .done ()
  | some errno => .abort ("Error: (" ++ toString errno ++ "): " ++ strerror errno)

end ListenCall

open ListenCall

namespace TcpSocketHandler

section Methods

variable (strerror : Int → String)

def keepToIpv6Calls (p : AddrInfo) (sockFd : Fd) : Program listenCalls Exn Unit :=
  if p.family = .AF_INET6 then do
    let answer ← perform (.setIpv6Only sockFd)
    fatalFail strerror answer
  else pure ()

def bindAddressCalls (port : Int) (p : AddrInfo) (sockFd : Fd) :
    Program listenCalls Exn (Option Fd) := do
  let bound ← perform (.bind p sockFd)
  match bound with
  | some localErrno => do
      let closed ← perform (.close sockFd)
      fatalFail strerror closed
      .raise (.runtimeError ("Error binding port " ++ toString port ++ ": " ++
        toString localErrno ++ " " ++ strerror localErrno))
  | none => do
      let answer ← perform (.listen sockFd)
      fatalFail strerror answer
      pure (some sockFd)

def serveAddressCalls (port : Int) (p : AddrInfo) : Program listenCalls Exn (Option Fd) := do
  let made ← perform (.socket p)
  match made with
  | .error _ => pure none
  | .ok sockFd => do
      let answer ← perform (.initServerSocket sockFd)
      fatalFail strerror answer
      keepToIpv6Calls strerror p sockFd
      bindAddressCalls strerror port p sockFd

def serveAddressesCalls (port : Int) :
    List AddrInfo → List Bytes → List Fd → Program listenCalls Exn (List Fd)
  | [], _, serverSockets => pure serverSockets
  | p :: rest, seenAddresses, serverSockets =>
      if p.addr ∈ seenAddresses then
        serveAddressesCalls port rest seenAddresses serverSockets
      else do
        let sockFd ← serveAddressCalls strerror port p
        serveAddressesCalls port rest (p.addr :: seenAddresses) (serverSockets ++ sockFd.toList)

def resolve (endpoint : SocketEndpoint) : Program listenCalls Exn (List AddrInfo) := do
  let resolved ← perform (.getaddrinfo endpoint.name endpoint.portOrZero)
  match resolved with
  | .error rc =>
      .abort ("Error getting address info for " ++ toString endpoint.portOrZero ++ ": " ++
        toString rc)
  | .ok servinfo => pure servinfo

def listenMethod (endpoint : SocketEndpoint) :
    Method listenCalls TcpSocketHandler Exn (List Fd) := do
  let handler ← Method.get
  let port := endpoint.portOrZero
  if (handler.portServerSockets port).isSome then
    .abort "Tried to listen twice on the same port"
  else do
    let servinfo ← Method.call (resolve endpoint)
    let serverSockets ← Method.call (serveAddressesCalls strerror port servinfo [] [])
    if serverSockets = [] then .abort "Could not bind to any interface!"
    else do
      let handler ← Method.get
      Method.set { portServerSockets :=
        Function.update handler.portServerSockets port (some serverSockets) }
      pure serverSockets

def closeAll : List Fd → Program listenCalls Exn Unit
  | [] => pure ()
  | sockFd :: rest => do
      let answer ← perform (.close sockFd)
      fatalFail strerror answer
      closeAll rest

def stopListeningMethod (endpoint : SocketEndpoint) :
    Method listenCalls TcpSocketHandler Exn Unit := do
  let handler ← Method.get
  let port := endpoint.portOrZero
  match handler.portServerSockets port with
  | none => .abort "Tried to stop listening to a port that we weren't listening on"
  | some serverSockets => do
      Method.call (closeAll strerror serverSockets)
      let handler ← Method.get
      Method.set { portServerSockets := Function.update handler.portServerSockets port none }
      pure ()

end Methods

end TcpSocketHandler

namespace PipeSocketHandler

section Methods

variable (strerror : Int → String)

def bindPath (pipePath : Bytes) : Program listenCalls Exn Fd := do
  let made ← perform .unixSocket
  match made with
  | .error errno =>
      .abort ("Error: (" ++ toString errno ++ "): " ++ strerror errno)
  | .ok fd => do
      let answer ← perform (.initServerSocket fd)
      fatalFail strerror answer
      let bound ← perform (.unixBind fd (sunPath pipePath))
      fatalFail strerror bound
      let moded ← perform (.chmod (sunPath pipePath))
      fatalFail strerror moded
      pure fd

def listenMethod (endpoint : SocketEndpoint) :
    Method listenCalls PipeSocketHandler Exn Fd := do
  let handler ← Method.get
  let pipePath := endpoint.nameOrEmpty
  if (handler.pipeServerSockets pipePath).isSome then
    .raise (.runtimeError "Tried to listen twice on the same path")
  else do
    let fd ← Method.call (bindPath strerror pipePath)
    let handler ← Method.get
    Method.set { pipeServerSockets :=
      Function.update handler.pipeServerSockets pipePath (some fd) }
    pure fd

/-- The entry of the path stays. -/
def stopListeningMethod (endpoint : SocketEndpoint) :
    Method listenCalls PipeSocketHandler Exn Unit := do
  let handler ← Method.get
  match handler.pipeServerSockets endpoint.nameOrEmpty with
  | none =>
      .abort ("Tried to stop listening to a pipe that we weren't listening on:" ++
        ClientConnection.fromBytes endpoint.nameOrEmpty)
  | some sockFd => do
      let answer ← Method.call (perform (.close sockFd))
      Method.call (fatalFail strerror answer)

end Methods

end PipeSocketHandler

/-! ### Which outcome a kernel leads to -/

def outcomeOf {α : Type} : Except Failure α → Outcome Exn α
  | .ok value => .returned value
  | .error (.runtimeError what) => .raised (.runtimeError what)
  | .error (.abort message) => .aborted message

namespace Kernel

variable {kernel : Kernel} {α β : Type}

def Computes (kernel : Kernel) (program : Program listenCalls Exn α)
    (result : Except Failure α) : Prop :=
  ∀ listening outcome after, Program.Run kernel.answers listening program outcome after →
    outcome = outcomeOf result

namespace Computes

theorem done (value : α) : kernel.Computes (.done value) (.ok value) := by
  intro listening outcome after run
  exact (Program.run_done_iff.mp run).1

theorem bind {first : Program listenCalls Exn α} {next : α → Program listenCalls Exn β}
    {result : Except Failure α} {later : α → Except Failure β}
    (computed : kernel.Computes first result)
    (rest : ∀ value, result = .ok value → kernel.Computes (next value) (later value)) :
    kernel.Computes (first >>= next) (result >>= later) := by
  intro listening outcome after run
  rcases Program.run_bind_iff.mp run with
    ⟨value, between, firstRun, nextRun⟩ | ⟨exn, rfl, firstRun⟩ | ⟨message, rfl, firstRun⟩
  · have same := computed _ _ _ firstRun
    match result with
    | .ok other =>
        cases same
        exact rest value rfl _ _ _ nextRun
    | .error (.runtimeError _) => cases same
    | .error (.abort _) => cases same
  · have same := computed _ _ _ firstRun
    match result with
    | .ok _ => cases same
    | .error (.runtimeError _) =>
        cases same
        rfl
    | .error (.abort _) => cases same
  · have same := computed _ _ _ firstRun
    match result with
    | .ok _ => cases same
    | .error (.runtimeError _) => cases same
    | .error (.abort _) =>
        cases same
        rfl

theorem perform {call : ListenCall} {next : call.Answer → Program listenCalls Exn β}
    {given : call.Answer} {result : Except Failure β}
    (answers : ∀ listening answer after, kernel.answers listening call answer after →
      answer = given)
    (rest : kernel.Computes (next given) result) :
    kernel.Computes (ListenCall.perform call >>= next) result := by
  intro listening outcome after run
  obtain ⟨answer, between, answered, nextRun⟩ := Program.run_perform_iff.mp run
  rw [answers _ _ _ answered] at nextRun
  exact rest _ _ _ nextRun

theorem fatalFail (answer : Option Int) :
    kernel.Computes (ListenCall.fatalFail kernel.strerror answer) (kernel.fatalFail answer) := by
  intro listening outcome after run
  cases answer with
  | none => exact (Program.run_done_iff.mp run).1
  | some errno => exact (Program.run_abort_iff.mp run).1

theorem raise (what : String) :
    kernel.Computes (.raise (.runtimeError what) : Program listenCalls Exn α)
      (.error (.runtimeError what)) := by
  intro listening outcome after run
  exact (Program.run_raise_iff.mp run).1

end Computes

end Kernel

namespace TcpSocketHandler

variable {kernel : Kernel} {port : Int}

theorem keepToIpv6_computes (p : AddrInfo) (sockFd : Fd) :
    kernel.Computes (keepToIpv6Calls kernel.strerror p sockFd) (keepToIpv6 kernel p sockFd) := by
  unfold keepToIpv6Calls keepToIpv6
  split
  · exact .perform (fun _ _ _ answered => answered.1) (.fatalFail _)
  · exact .done ()

theorem bindAddress_computes (p : AddrInfo) (sockFd : Fd) :
    kernel.Computes (bindAddressCalls kernel.strerror port p sockFd)
      (bindAddress kernel port p sockFd) := by
  refine .perform (fun _ _ _ answered => answered.1) ?_
  unfold bindAddress
  cases kernel.bind p sockFd with
  | none =>
      refine .perform (fun _ _ _ answered => answered.1) ?_
      exact .bind (.fatalFail _) fun _ _ => .done _
  | some localErrno =>
      refine .perform (fun _ _ _ answered => answered.1) ?_
      exact .bind (.fatalFail _) fun _ _ => .raise _

theorem serveAddress_computes (p : AddrInfo) :
    kernel.Computes (serveAddressCalls kernel.strerror port p) (serveAddress kernel port p) := by
  refine .perform (fun _ _ _ answered => answered.1) ?_
  unfold serveAddress
  cases kernel.socket p with
  | error errno => exact .done none
  | ok sockFd =>
      refine .perform (fun _ _ _ answered => answered.1) ?_
      refine .bind (.fatalFail _) fun _ _ => ?_
      exact .bind (keepToIpv6_computes p sockFd) fun _ _ => bindAddress_computes p sockFd

theorem serveAddresses_computes (servinfo : List AddrInfo) (seenAddresses : List Bytes)
    (serverSockets : List Fd) :
    kernel.Computes
      (serveAddressesCalls kernel.strerror port servinfo seenAddresses serverSockets)
      (serveAddresses kernel port servinfo seenAddresses serverSockets) := by
  induction servinfo generalizing seenAddresses serverSockets with
  | nil => exact .done _
  | cons p rest ih =>
      unfold serveAddressesCalls serveAddresses
      split
      · exact ih _ _
      · exact .bind (serveAddress_computes p) fun _ _ => ih _ _

/-- The method ends as `listen` does, with the same table. -/
theorem listenMethod_computes {handler : TcpSocketHandler} {endpoint : SocketEndpoint}
    {listening : List Fd} {outcome : Outcome Exn (List Fd)} {after : List Fd × TcpSocketHandler}
    (run : Program.Run (Method.answers kernel.answers) (listening, handler)
      (listenMethod kernel.strerror endpoint) outcome after) :
    match handler.listen kernel endpoint with
    | .ok listened => (∃ opened, outcome = .returned opened) ∧ after.2 = listened
    | .error (.runtimeError what) => outcome = .raised (.runtimeError what)
    | .error (.abort message) => outcome = .aborted message := by
  rw [listenMethod, Method.run_get_bind_iff] at run
  unfold listen
  dsimp only at run ⊢
  by_cases busy : (handler.portServerSockets endpoint.portOrZero).isSome
  · rw [if_pos busy] at run ⊢
    exact (Program.run_abort_iff.mp run).1
  rw [if_neg busy] at run ⊢
  have resolves : kernel.Computes (resolve endpoint)
      ((kernel.getaddrinfo endpoint.name endpoint.portOrZero).mapError fun rc =>
        .abort ("Error getting address info for " ++ toString endpoint.portOrZero ++ ": " ++
          toString rc)) := by
    refine .perform (fun _ _ _ answered => answered.1) ?_
    cases kernel.getaddrinfo endpoint.name endpoint.portOrZero with
    | error rc =>
        intro listening outcome after run
        exact (Program.run_abort_iff.mp run).1
    | ok servinfo => exact .done servinfo
  cases found : kernel.getaddrinfo endpoint.name endpoint.portOrZero with
  | error rc =>
      rw [found] at resolves
      rcases Method.run_call_bind_iff.mp run with
        ⟨_, _, first, _⟩ | ⟨_, _, first, _⟩ | ⟨message, rfl, first, _⟩
      · cases resolves _ _ _ first
      · cases resolves _ _ _ first
      · cases resolves _ _ _ first
        rfl
  | ok servinfo =>
      rw [found] at resolves
      rcases Method.run_call_bind_iff.mp run with
        ⟨_, between, first, run⟩ | ⟨_, _, first, _⟩ | ⟨_, _, first, _⟩
      case inr.inl => cases resolves _ _ _ first
      case inr.inr => cases resolves _ _ _ first
      cases resolves _ _ _ first
      have serves := @serveAddresses_computes kernel endpoint.portOrZero servinfo [] []
      dsimp only
      cases served : serveAddresses kernel endpoint.portOrZero servinfo [] [] with
      | ok opened =>
          rw [served] at serves
          rcases Method.run_call_bind_iff.mp run with
            ⟨_, bound, second, storing⟩ | ⟨_, _, second, _⟩ | ⟨_, _, second, _⟩
          case inr.inl => cases serves _ _ _ second
          case inr.inr => cases serves _ _ _ second
          cases serves _ _ _ second
          simp only [Bind.bind, Except.bind]
          by_cases none : opened = []
          · rw [if_pos none] at storing ⊢
            exact (Program.run_abort_iff.mp storing).1
          · rw [if_neg none] at storing ⊢
            rw [Method.run_get_bind_iff, Method.run_set_bind_iff] at storing
            obtain ⟨returned, rfl⟩ := Program.run_done_iff.mp storing
            exact ⟨⟨_, returned⟩, rfl⟩
      | error failure =>
          rw [served] at serves
          rcases Method.run_call_bind_iff.mp run with
            ⟨_, _, second, _⟩ | ⟨_, rfl, second, _⟩ | ⟨_, rfl, second, _⟩
          · cases failure with
            | runtimeError what => cases serves _ _ _ second
            | abort message => cases serves _ _ _ second
          · cases failure with
            | runtimeError what =>
                cases serves _ _ _ second
                rfl
            | abort message => cases serves _ _ _ second
          · cases failure with
            | runtimeError what => cases serves _ _ _ second
            | abort message =>
                cases serves _ _ _ second
                rfl

end TcpSocketHandler

end EternalTerminal
