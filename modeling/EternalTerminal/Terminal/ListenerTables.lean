/-
The listener tables beside the listening sockets that are open.

A call is described by what it leaves of the sockets and the table, and a run of calls by the
table that owns every socket.
-/

import EternalTerminal.Library.TransitionSystem
import EternalTerminal.Terminal.ListenerMethods

namespace EternalTerminal

open Library
open ListenCall

/-! ### What a call can do to the sockets -/

section Runs

variable {kernel : Kernel} {listening after : List Fd} {α : Type} {outcome : Outcome Exn α}

theorem run_perform_bind_iff {call : ListenCall}
    {next : call.Answer → Program listenCalls Exn α} :
    Program.Run kernel.answers listening (perform call >>= next) outcome after ↔
      ∃ answer between, kernel.answers listening call answer between ∧
        Program.Run kernel.answers between (next answer) outcome after :=
  Program.run_perform_iff

theorem run_fatalFail_bind {strerror : Int → String} {answer : Option Int}
    {next : Unit → Program listenCalls Exn α}
    (run : Program.Run kernel.answers listening (fatalFail strerror answer >>= next) outcome
      after) :
    (answer = none ∧ Program.Run kernel.answers listening (next ()) outcome after) ∨
      ∃ message, outcome = .aborted message := by
  cases answer with
  | none => exact Or.inl ⟨rfl, run⟩
  | some errno => exact Or.inr ⟨_, (Program.run_abort_iff.mp run).1⟩

end Runs

namespace Kernel

/-- An address gets a bound socket before one that cannot be bound. -/
def Strands (kernel : Kernel) : List AddrInfo → Prop
  | [] => False
  | p :: rest =>
      ¬ kernel.Refuses p ∧
        ((kernel.HasSocket p ∧ ∃ q ∈ rest, kernel.Refuses q) ∨ kernel.Strands rest)

def StrandsAt (kernel : Kernel) (endpoint : SocketEndpoint) : Prop :=
  ∃ servinfo, kernel.getaddrinfo endpoint.name endpoint.portOrZero = .ok servinfo ∧
    kernel.Strands (unseen servinfo [])

end Kernel

def Mirrors {Endpoint : Type} (listening : List Fd) (table : Endpoint → List Fd) : Prop :=
  ∀ sockFd, sockFd ∈ listening ↔ ∃ endpoint, sockFd ∈ table endpoint

/-- In addition, no socket is in two entries. -/
structure Owned {Endpoint : Type} (listening : List Fd) (table : Endpoint → List Fd) :
    Prop where
  mirrors : Mirrors listening table
  disjoint : ∀ endpoint other sockFd, sockFd ∈ table endpoint → sockFd ∈ table other →
    endpoint = other

namespace Owned

theorem empty {Endpoint : Type} : Owned [] (fun _ : Endpoint => []) where
  mirrors := by
    intro sockFd
    simp
  disjoint := by
    intro endpoint other sockFd impossible
    cases impossible

variable {Endpoint : Type} [DecidableEq Endpoint] {listening opened : List Fd}
  {table : Endpoint → List Fd} {endpoint : Endpoint}

theorem register (owned : Owned listening table) (free : table endpoint = [])
    (fresh : ∀ sockFd ∈ opened, sockFd ∉ listening) :
    Owned (opened.reverse ++ listening) (Function.update table endpoint opened) where
  mirrors := by
    intro sockFd
    rw [List.mem_append, List.mem_reverse, owned.mirrors sockFd]
    constructor
    · intro member
      rcases member with new | ⟨other, old⟩
      · exact ⟨endpoint, by rw [Function.update_self]; exact new⟩
      · refine ⟨other, ?_⟩
        have different : other ≠ endpoint := by
          intro same
          rw [same, free] at old
          cases old
        rw [Function.update_of_ne different]
        exact old
    · intro member
      obtain ⟨other, member⟩ := member
      by_cases same : other = endpoint
      · rw [same, Function.update_self] at member
        exact Or.inl member
      · rw [Function.update_of_ne same] at member
        exact Or.inr ⟨other, member⟩
  disjoint := by
    intro first second sockFd inFirst inSecond
    have registered : ∀ other, sockFd ∈ table other → sockFd ∉ opened := by
      intro other member new
      exact fresh sockFd new ((owned.mirrors sockFd).mpr ⟨other, member⟩)
    by_cases sameFirst : first = endpoint
    · by_cases sameSecond : second = endpoint
      · exact sameFirst.trans sameSecond.symm
      · rw [sameFirst, Function.update_self] at inFirst
        rw [Function.update_of_ne sameSecond] at inSecond
        exact absurd inFirst (registered second inSecond)
    · rw [Function.update_of_ne sameFirst] at inFirst
      by_cases sameSecond : second = endpoint
      · rw [sameSecond, Function.update_self] at inSecond
        exact absurd inSecond (registered first inFirst)
      · rw [Function.update_of_ne sameSecond] at inSecond
        exact owned.disjoint first second sockFd inFirst inSecond

theorem unregister (owned : Owned listening table) (endpoint : Endpoint) :
    Owned (listening.filter (fun sockFd => sockFd ∉ table endpoint))
      (Function.update table endpoint []) where
  mirrors := by
    intro sockFd
    rw [List.mem_filter, decide_eq_true_iff, owned.mirrors sockFd]
    constructor
    · intro ⟨⟨other, member⟩, closed⟩
      have different : other ≠ endpoint := by
        intro same
        exact closed (same ▸ member)
      exact ⟨other, by rw [Function.update_of_ne different]; exact member⟩
    · intro ⟨other, member⟩
      by_cases same : other = endpoint
      · rw [same, Function.update_self] at member
        cases member
      · rw [Function.update_of_ne same] at member
        refine ⟨⟨other, member⟩, ?_⟩
        intro closed
        exact same (owned.disjoint other endpoint sockFd member closed)
  disjoint := by
    intro first second sockFd inFirst inSecond
    by_cases sameFirst : first = endpoint
    · rw [sameFirst, Function.update_self] at inFirst
      cases inFirst
    · by_cases sameSecond : second = endpoint
      · rw [sameSecond, Function.update_self] at inSecond
        cases inSecond
      · rw [Function.update_of_ne sameFirst] at inFirst
        rw [Function.update_of_ne sameSecond] at inSecond
        exact owned.disjoint first second sockFd inFirst inSecond

end Owned

inductive ListenerEvent where
  | listen (kernel : Kernel) (endpoint : SocketEndpoint)
  | stopListening (kernel : Kernel) (endpoint : SocketEndpoint)

inductive ListenerStep {Handler Opened : Type}
    (listen : (Int → String) → SocketEndpoint → Method listenCalls Handler Exn Opened)
    (stopListening : (Int → String) → SocketEndpoint → Method listenCalls Handler Exn Unit) :
    List Fd × Handler → ListenerEvent → List Fd × Handler → Prop
  | listen {before after : List Fd × Handler} {kernel : Kernel} {endpoint : SocketEndpoint}
      {opened : Opened} :
      Program.Run (Method.answers kernel.answers) before (listen kernel.strerror endpoint)
        (.returned opened) after →
      ListenerStep listen stopListening before (.listen kernel endpoint) after
  | threw {before after : List Fd × Handler} {kernel : Kernel} {endpoint : SocketEndpoint}
      {exn : Exn} :
      Program.Run (Method.answers kernel.answers) before (listen kernel.strerror endpoint)
        (.raised exn) after →
      ListenerStep listen stopListening before (.listen kernel endpoint) after
  | stopListening {before after : List Fd × Handler} {kernel : Kernel}
      {endpoint : SocketEndpoint} :
      Program.Run (Method.answers kernel.answers) before
        (stopListening kernel.strerror endpoint) (.returned ()) after →
      ListenerStep listen stopListening before (.stopListening kernel endpoint) after

def Kernel.granting (sockFd : Fd) : Kernel :=
  { getaddrinfo := fun _ _ => .ok [{ family := .AF_INET, addr := [] }]
    socket := fun _ => .ok sockFd
    initServerSocket := fun _ => none
    setIpv6Only := fun _ => none
    bind := fun _ _ => none
    listen := fun _ => none
    close := fun _ => none
    unixSocket := .ok sockFd
    unixBind := fun _ _ => none
    mkdtemp := none
    chmod := fun _ _ => none
    chown := fun _ _ _ _ => none
    strerror := fun _ => "" }

namespace TcpSocketHandler

variable {kernel : Kernel} {strerror : Int → String} {port : Int} {p : AddrInfo}
  {listening after : List Fd} {handler : TcpSocketHandler} {endpoint : SocketEndpoint}

inductive Served (kernel : Kernel) (p : AddrInfo) (listening : List Fd) :
    Outcome Exn (Option Fd) → List Fd → Prop
  | noSocket : ¬ kernel.HasSocket p → Served kernel p listening (.returned none) listening
  | bound {sockFd : Fd} : kernel.HasSocket p → ¬ kernel.Refuses p → sockFd ∉ listening →
      Served kernel p listening (.returned (some sockFd)) (sockFd :: listening)
  | refused {what : String} : kernel.Refuses p →
      Served kernel p listening (.raised (.runtimeError what)) listening
  | aborted {message : String} {after : List Fd} :
      Served kernel p listening (.aborted message) after

theorem bindAddress_run {sockFd : Fd} {outcome : Outcome Exn (Option Fd)}
    (made : kernel.socket p = .ok sockFd) (fresh : sockFd ∉ listening)
    (run : Program.Run kernel.answers (sockFd :: listening)
      (bindAddressCalls strerror port p sockFd) outcome after) :
    Served kernel p listening outcome after := by
  obtain ⟨bound, between, ⟨rfl, rfl⟩, run⟩ := run_perform_bind_iff.mp run
  cases answer : kernel.bind p sockFd with
  | some localErrno =>
      rw [answer] at run
      obtain ⟨closed, left, ⟨rfl, rfl⟩, run⟩ := run_perform_bind_iff.mp run
      have dropped : (sockFd :: listening).filter (fun other => other ≠ sockFd) = listening := by
        rw [List.filter_cons_of_neg (by simp), List.filter_eq_self]
        intro other member
        exact decide_eq_true fun same => fresh (same ▸ member)
      rw [dropped] at run
      rcases run_fatalFail_bind run with ⟨_, run⟩ | ⟨message, rfl⟩
      · obtain ⟨rfl, rfl⟩ := Program.run_raise_iff.mp run
        exact .refused ⟨sockFd, made, by simp [answer]⟩
      · exact .aborted
  | none =>
      rw [answer] at run
      obtain ⟨listened, left, ⟨rfl, rfl⟩, run⟩ := run_perform_bind_iff.mp run
      rcases run_fatalFail_bind run with ⟨_, run⟩ | ⟨message, rfl⟩
      · obtain ⟨rfl, rfl⟩ := Program.run_done_iff.mp run
        refine .bound ⟨sockFd, made⟩ ?_ fresh
        intro refuses
        obtain ⟨other, opened, unbound⟩ := refuses
        cases made.symm.trans opened
        exact unbound answer
      · exact .aborted

theorem serveAddress_run {outcome : Outcome Exn (Option Fd)}
    (run : Program.Run kernel.answers listening (serveAddressCalls strerror port p) outcome
      after) :
    Served kernel p listening outcome after := by
  obtain ⟨made, between, ⟨rfl, opens⟩, run⟩ := run_perform_bind_iff.mp run
  cases found : kernel.socket p with
  | error errno =>
      rw [found] at run opens
      cases opens
      obtain ⟨rfl, rfl⟩ := Program.run_done_iff.mp run
      refine .noSocket ?_
      intro hasSocket
      obtain ⟨sockFd, opened⟩ := hasSocket
      cases found.symm.trans opened
  | ok sockFd =>
      rw [found] at run opens
      obtain ⟨fresh, rfl⟩ := opens
      obtain ⟨initialised, _, ⟨rfl, rfl⟩, run⟩ := run_perform_bind_iff.mp run
      rcases run_fatalFail_bind run with ⟨_, run⟩ | ⟨message, rfl⟩
      · unfold keepToIpv6Calls at run
        split at run
        · obtain ⟨kept, _, ⟨rfl, rfl⟩, run⟩ := run_perform_bind_iff.mp run
          rcases run_fatalFail_bind run with ⟨_, run⟩ | ⟨message, rfl⟩
          · exact bindAddress_run found fresh run
          · exact .aborted
        · exact bindAddress_run found fresh run
      · exact .aborted

/-- How the loop over the addresses can end: with the sockets that it has bound open, in the
table or not. -/
inductive ServedAll (kernel : Kernel) (listening : List Fd) (addresses : List AddrInfo)
    (serverSockets : List Fd) : Outcome Exn (List Fd) → List Fd → Prop
  | returned {opened : List Fd} : (∀ sockFd ∈ opened, sockFd ∉ listening) →
      ServedAll kernel listening addresses serverSockets
        (.returned (serverSockets ++ opened)) (opened.reverse ++ listening)
  | raised {opened : List Fd} {what : String} :
      (∃ q ∈ addresses, kernel.Refuses q) → (opened ≠ [] → kernel.Strands addresses) →
      ServedAll kernel listening addresses serverSockets (.raised (.runtimeError what))
        (opened.reverse ++ listening)
  | aborted {message : String} {after : List Fd} :
      ServedAll kernel listening addresses serverSockets (.aborted message) after

namespace ServedAll

variable {rest : List AddrInfo} {serverSockets : List Fd} {outcome : Outcome Exn (List Fd)}
  {sockFd : Fd}

theorem without (noSocket : ¬ kernel.HasSocket p)
    (served : ServedAll kernel listening rest serverSockets outcome after) :
    ServedAll kernel listening (p :: rest) serverSockets outcome after := by
  have accepts : ¬ kernel.Refuses p := by
    intro refuses
    obtain ⟨sockFd, opened, _⟩ := refuses
    exact noSocket ⟨sockFd, opened⟩
  cases served with
  | returned fresh => exact .returned fresh
  | raised refused strands =>
      obtain ⟨q, member, refuses⟩ := refused
      exact .raised ⟨q, List.mem_cons_of_mem _ member, refuses⟩
        fun some => ⟨accepts, Or.inr (strands some)⟩
  | aborted => exact .aborted

theorem bound (hasSocket : kernel.HasSocket p) (accepts : ¬ kernel.Refuses p)
    (fresh : sockFd ∉ listening)
    (served : ServedAll kernel (sockFd :: listening) rest (serverSockets ++ [sockFd]) outcome
      after) :
    ServedAll kernel listening (p :: rest) serverSockets outcome after := by
  cases served with
  | @returned opened later =>
      rw [List.append_assoc, List.append_cons, ← List.reverse_cons]
      refine .returned ?_
      intro other member
      rcases List.mem_cons.mp member with same | new
      · rw [same]
        exact fresh
      · exact fun old => later other new (List.mem_cons_of_mem _ old)
  | @raised opened what refused strands =>
      rw [List.append_cons, ← List.reverse_cons]
      obtain ⟨q, member, refuses⟩ := refused
      exact .raised ⟨q, List.mem_cons_of_mem _ member, refuses⟩
        fun _ => ⟨accepts, Or.inl ⟨hasSocket, q, member, refuses⟩⟩
  | aborted => exact .aborted

end ServedAll

theorem serveAddresses_run {servinfo : List AddrInfo} {seenAddresses : List Bytes}
    {serverSockets : List Fd} {outcome : Outcome Exn (List Fd)}
    (run : Program.Run kernel.answers listening
      (serveAddressesCalls strerror port servinfo seenAddresses serverSockets) outcome after) :
    ServedAll kernel listening (unseen servinfo seenAddresses) serverSockets outcome after := by
  induction servinfo generalizing seenAddresses serverSockets listening with
  | nil =>
      obtain ⟨rfl, rfl⟩ := Program.run_done_iff.mp run
      have nothing := @ServedAll.returned kernel after [] serverSockets [] (by simp)
      rw [List.append_nil] at nothing
      exact nothing
  | cons p rest ih =>
      unfold serveAddressesCalls at run
      by_cases seen : p.addr ∈ seenAddresses
      · rw [if_pos seen] at run
        rw [unseen, if_pos seen]
        exact ih run
      · rw [if_neg seen] at run
        rw [unseen, if_neg seen]
        rcases Program.run_bind_iff.mp run with
          ⟨value, between, first, later⟩ | ⟨exn, rfl, first⟩ | ⟨message, rfl, first⟩
        · have turn := serveAddress_run first
          cases turn with
          | noSocket noSocket =>
              have served := ih later
              rw [Option.toList_none, List.append_nil] at served
              exact served.without noSocket
          | bound hasSocket accepts fresh => exact (ih later).bound hasSocket accepts fresh
        · have turn := serveAddress_run first
          cases turn with
          | refused refuses =>
              refine @ServedAll.raised kernel _ _ _ [] _ ⟨p, List.mem_cons_self, refuses⟩ ?_
              intro impossible
              exact absurd rfl impossible
        · exact .aborted

/-! ### Calls of the handler -/

def table (handler : TcpSocketHandler) (port : Int) : List Fd :=
  (handler.portServerSockets port).getD []

theorem table_update (handler : TcpSocketHandler) (port : Int) (entry : Option (List Fd)) :
    table { portServerSockets := Function.update handler.portServerSockets port entry } =
      Function.update handler.table port (entry.getD []) := by
  funext other
  unfold table
  by_cases same : other = port
  · simp only [same, Function.update_self]
  · simp only [Function.update_of_ne same]

theorem resolve_run {outcome : Outcome Exn (List AddrInfo)}
    (run : Program.Run kernel.answers listening (resolve endpoint) outcome after) :
    (∃ servinfo, kernel.getaddrinfo endpoint.name endpoint.portOrZero = .ok servinfo ∧
      outcome = .returned servinfo ∧ after = listening) ∨
    ∃ message, outcome = .aborted message := by
  obtain ⟨resolved, between, ⟨rfl, unchanged⟩, ended⟩ := run_perform_bind_iff.mp run
  cases found : kernel.getaddrinfo endpoint.name endpoint.portOrZero with
  | error rc =>
      rw [found] at ended
      exact Or.inr ⟨_, (Program.run_abort_iff.mp ended).1⟩
  | ok servinfo =>
      rw [found, unchanged] at ended
      obtain ⟨rfl, rfl⟩ := Program.run_done_iff.mp ended
      exact Or.inl ⟨servinfo, rfl, rfl, rfl⟩

/-- How a `listen` can end that does not end the process. -/
inductive Listened (kernel : Kernel) (endpoint : SocketEndpoint) (listening : List Fd)
    (handler : TcpSocketHandler) : Outcome Exn (List Fd) → List Fd × TcpSocketHandler → Prop
  | returned {opened : List Fd} :
      handler.portServerSockets endpoint.portOrZero = none →
      (∀ sockFd ∈ opened, sockFd ∉ listening) →
      Listened kernel endpoint listening handler (.returned opened)
        (opened.reverse ++ listening,
          { portServerSockets := Function.update handler.portServerSockets endpoint.portOrZero
              (some opened) })
  | raised {opened : List Fd} {what : String} :
      (opened ≠ [] → kernel.StrandsAt endpoint) →
      Listened kernel endpoint listening handler (.raised (.runtimeError what))
        (opened.reverse ++ listening, handler)
  | aborted {message : String} {after : List Fd × TcpSocketHandler} :
      Listened kernel endpoint listening handler (.aborted message) after

theorem listen_run {outcome : Outcome Exn (List Fd)} {after : List Fd × TcpSocketHandler}
    (run : Program.Run (Method.answers kernel.answers) (listening, handler)
      (listenMethod strerror endpoint) outcome after) :
    Listened kernel endpoint listening handler outcome after := by
  rw [listenMethod, Method.run_get_bind_iff] at run
  dsimp only at run
  split at run
  · obtain ⟨rfl, rfl⟩ := Program.run_abort_iff.mp run
    exact .aborted
  rename_i busy
  have free : handler.portServerSockets endpoint.portOrZero = none := by
    simpa using busy
  rcases Method.run_call_bind_iff.mp run with
    ⟨servinfo, resolvedAt, resolveRun, serving⟩ | ⟨exn, _, resolveRun, _⟩ | ⟨message, rfl, _, _⟩
  · rcases resolve_run resolveRun with ⟨_, resolved, same, rfl⟩ | ⟨_, impossible⟩
    · cases same
      rcases Method.run_call_bind_iff.mp serving with
        ⟨opened, bound, serveRun, storing⟩ | ⟨exn, rfl, serveRun, kept⟩ | ⟨message, rfl, _, _⟩
      · have served := serveAddresses_run serveRun
        cases served with
        | returned fresh =>
            rw [List.nil_append] at storing
            split at storing
            · obtain ⟨rfl, rfl⟩ := Program.run_abort_iff.mp storing
              exact .aborted
            · rw [Method.run_get_bind_iff, Method.run_set_bind_iff] at storing
              obtain ⟨rfl, rfl⟩ := Program.run_done_iff.mp storing
              exact .returned free fresh
      · obtain ⟨left, unchanged⟩ := after
        cases kept
        have served := serveAddresses_run serveRun
        cases served with
        | raised refused strands =>
            exact .raised fun some => ⟨servinfo, resolved, strands some⟩
      · exact .aborted
    · cases impossible
  · rcases resolve_run resolveRun with ⟨_, _, impossible, _⟩ | ⟨_, impossible⟩
    · cases impossible
    · cases impossible
  · exact .aborted

theorem closeAll_run {sockets : List Fd}
    (run : Program.Run kernel.answers listening (closeAll strerror sockets) (.returned ())
      after) :
    after = listening.filter (fun sockFd => sockFd ∉ sockets) := by
  induction sockets generalizing listening with
  | nil =>
      obtain ⟨_, rfl⟩ := Program.run_done_iff.mp run
      simp
  | cons sockFd rest ih =>
      obtain ⟨answer, between, ⟨rfl, rfl⟩, run⟩ := run_perform_bind_iff.mp run
      rcases run_fatalFail_bind run with ⟨_, run⟩ | ⟨_, impossible⟩
      · rw [ih run, List.filter_filter]
        congr 1
        funext other
        simp [Bool.and_comm]
      · cases impossible

theorem stopListening_run {after : List Fd × TcpSocketHandler}
    (run : Program.Run (Method.answers kernel.answers) (listening, handler)
      (stopListeningMethod strerror endpoint) (.returned ()) after) :
    after = (listening.filter (fun sockFd => sockFd ∉ handler.table endpoint.portOrZero),
      { portServerSockets :=
          Function.update handler.portServerSockets endpoint.portOrZero none }) := by
  rw [stopListeningMethod, Method.run_get_bind_iff] at run
  dsimp only at run
  cases registered : handler.portServerSockets endpoint.portOrZero with
  | none =>
      rw [registered] at run
      cases (Program.run_abort_iff.mp run).1
  | some serverSockets =>
      rw [registered] at run
      rcases Method.run_call_bind_iff.mp run with
        ⟨_, closed, closeRun, run⟩ | ⟨_, impossible, _⟩ | ⟨_, impossible, _⟩
      · rw [Method.run_get_bind_iff, Method.run_set_bind_iff] at run
        obtain ⟨_, rfl⟩ := Program.run_done_iff.mp run
        rw [closeAll_run closeRun, table, registered]
        rfl
      · cases impossible
      · cases impossible

theorem listen_granted (free : handler.portServerSockets endpoint.portOrZero = none)
    {sockFd : Fd} (fresh : sockFd ∉ listening) :
    ∃ after, Program.Run (Method.answers (Kernel.granting sockFd).answers) (listening, handler)
      (listenMethod strerror endpoint) (.returned [sockFd]) (sockFd :: listening, after) := by
  have resolveRun : Program.Run (Kernel.granting sockFd).answers listening (resolve endpoint)
      (.returned [{ family := .AF_INET, addr := [] }]) listening :=
    .perform ⟨rfl, rfl⟩ (.done _ _)
  have serveRun : Program.Run (Kernel.granting sockFd).answers listening
      (serveAddressesCalls strerror endpoint.portOrZero [{ family := .AF_INET, addr := [] }] [] [])
      (.returned [sockFd]) (sockFd :: listening) :=
    .perform ⟨rfl, fresh, rfl⟩ (.perform ⟨rfl, rfl⟩ (.perform ⟨rfl, rfl⟩
      (.perform ⟨rfl, rfl⟩ (.done _ _))))
  refine ⟨{ portServerSockets :=
    Function.update handler.portServerSockets endpoint.portOrZero (some [sockFd]) }, ?_⟩
  rw [listenMethod, Method.run_get_bind_iff]
  dsimp only
  rw [free]
  refine Method.run_call_bind_iff.mpr (Or.inl ⟨_, _, resolveRun, ?_⟩)
  refine Method.run_call_bind_iff.mpr (Or.inl ⟨_, _, serveRun, ?_⟩)
  rw [if_neg (List.cons_ne_nil _ _), Method.run_get_bind_iff, Method.run_set_bind_iff]
  exact .done _ _

/-! ### Runs -/

def empty : TcpSocketHandler :=
  { portServerSockets := fun _ => none }

def system : TransitionSystem (List Fd × TcpSocketHandler) ListenerEvent where
  initial state := state = ([], empty)
  step := ListenerStep listenMethod stopListeningMethod

/-- No `listen` binds an address and then fails to bind another. -/
def Unstranded : List Fd × TcpSocketHandler → ListenerEvent → Prop
  | _, .listen kernel endpoint => ¬ kernel.StrandsAt endpoint
  | _, .stopListening _ _ => True

theorem listen_throws {exn : Exn} {state after : List Fd × TcpSocketHandler}
    (unstranded : ¬ kernel.StrandsAt endpoint)
    (run : Program.Run (Method.answers kernel.answers) state (listenMethod strerror endpoint)
      (.raised exn) after) : after = state := by
  obtain ⟨listening, handler⟩ := state
  have listened := listen_run run
  cases listened with
  | @raised opened what strands =>
      have none : opened = [] := by
        by_contra some
        exact unstranded (strands some)
      rw [none]
      rfl

theorem stopListening_unregisters {state after : List Fd × TcpSocketHandler}
    (run : Program.Run (Method.answers kernel.answers) state
      (stopListeningMethod strerror endpoint) (.returned ()) after) :
    after.2.portServerSockets endpoint.portOrZero = none := by
  obtain ⟨listening, handler⟩ := state
  rw [stopListening_run run]
  exact Function.update_self _ _ _

theorem owned_step {event : ListenerEvent} {before after : List Fd × TcpSocketHandler}
    (owned : Owned before.1 before.2.table) (unstranded : Unstranded before event)
    (step : ListenerStep listenMethod stopListeningMethod before event after) :
    Owned after.1 after.2.table := by
  obtain ⟨listening, handler⟩ := before
  cases step with
  | listen run =>
      have listened := listen_run run
      cases listened with
      | returned free fresh =>
          rw [table_update]
          refine owned.register ?_ fresh
          rw [table, free]
          rfl
  | threw run =>
      rw [listen_throws unstranded run]
      exact owned
  | stopListening run =>
      rw [stopListening_run run, table_update]
      exact owned.unregister _

theorem owned_of_reachable {state : List Fd × TcpSocketHandler}
    (reached : system.ReachableBy Unstranded state) : Owned state.1 state.2.table := by
  apply reached.invariant
  · intro start initial
    cases initial
    exact Owned.empty
  · intro before event after owned unstranded step
    exact owned_step owned unstranded step

structure Honoured (state : List Fd × TcpSocketHandler) : Prop where
  mirrors : Mirrors state.1 state.2.table
  thrown {kernel : Kernel} {endpoint : SocketEndpoint} {exn : Exn}
      {after : List Fd × TcpSocketHandler} :
    ¬ kernel.StrandsAt endpoint →
    Program.Run (Method.answers kernel.answers) state
      (listenMethod kernel.strerror endpoint) (.raised exn) after → after = state
  stopped {kernel : Kernel} {endpoint : SocketEndpoint}
      {after : List Fd × TcpSocketHandler} :
    Program.Run (Method.answers kernel.answers) state
      (stopListeningMethod kernel.strerror endpoint) (.returned ()) after →
    after.2.portServerSockets endpoint.portOrZero = none ∧
      ∀ sockFd, sockFd ∉ after.1 → ∃ later,
        Program.Run (Method.answers (Kernel.granting sockFd).answers) after
          (listenMethod kernel.strerror endpoint) (.returned [sockFd])
          (sockFd :: after.1, later)

theorem honoured_of_reachable {state : List Fd × TcpSocketHandler}
    (reached : system.ReachableBy Unstranded state) : Honoured state where
  mirrors := (owned_of_reachable reached).mirrors
  thrown := fun unstranded run => listen_throws unstranded run
  stopped := fun run => ⟨stopListening_unregisters run,
    fun _ fresh => listen_granted (stopListening_unregisters run) fresh⟩

end TcpSocketHandler

/-! ### Pipes -/

namespace PipeSocketHandler

variable {kernel : Kernel} {strerror : Int → String} {listening after : List Fd}
  {handler : PipeSocketHandler} {endpoint : SocketEndpoint}

def table (handler : PipeSocketHandler) (pipePath : Bytes) : List Fd :=
  (handler.pipeServerSockets pipePath).toList

theorem table_update (handler : PipeSocketHandler) (pipePath : Bytes) (fd : Fd) :
    table { pipeServerSockets := Function.update handler.pipeServerSockets pipePath (some fd) } =
      Function.update handler.table pipePath [fd] := by
  funext other
  unfold table
  by_cases same : other = pipePath
  · simp only [same, Function.update_self]
    rfl
  · simp only [Function.update_of_ne same]

theorem bindPath_run {pipePath : Bytes} {outcome : Outcome Exn Fd}
    (run : Program.Run kernel.answers listening (bindPath strerror pipePath) outcome after) :
    (∃ fd, outcome = .returned fd ∧ fd ∉ listening ∧ after = fd :: listening) ∨
      ∃ message, outcome = .aborted message := by
  obtain ⟨made, between, ⟨rfl, opens⟩, run⟩ := run_perform_bind_iff.mp run
  cases found : kernel.unixSocket with
  | error errno =>
      rw [found] at run
      exact Or.inr ⟨_, (Program.run_abort_iff.mp run).1⟩
  | ok fd =>
      rw [found] at run opens
      obtain ⟨fresh, rfl⟩ := opens
      obtain ⟨_, _, ⟨rfl, rfl⟩, run⟩ := run_perform_bind_iff.mp run
      rcases run_fatalFail_bind run with ⟨_, run⟩ | aborted
      · obtain ⟨_, _, ⟨rfl, rfl⟩, run⟩ := run_perform_bind_iff.mp run
        rcases run_fatalFail_bind run with ⟨_, run⟩ | aborted
        · obtain ⟨_, _, ⟨rfl, rfl⟩, run⟩ := run_perform_bind_iff.mp run
          rcases run_fatalFail_bind run with ⟨_, run⟩ | aborted
          · obtain ⟨rfl, rfl⟩ := Program.run_done_iff.mp run
            exact Or.inl ⟨fd, rfl, fresh, rfl⟩
          · exact Or.inr aborted
        · exact Or.inr aborted
      · exact Or.inr aborted

/-- How a `listen` can end that does not end the process. -/
inductive Listened (endpoint : SocketEndpoint) (listening : List Fd)
    (handler : PipeSocketHandler) : Outcome Exn Fd → List Fd × PipeSocketHandler → Prop
  | returned {fd : Fd} : handler.pipeServerSockets endpoint.nameOrEmpty = none →
      fd ∉ listening →
      Listened endpoint listening handler (.returned fd)
        (fd :: listening,
          { pipeServerSockets :=
              Function.update handler.pipeServerSockets endpoint.nameOrEmpty (some fd) })
  | raised {what : String} :
      Listened endpoint listening handler (.raised (.runtimeError what)) (listening, handler)
  | aborted {message : String} {after : List Fd × PipeSocketHandler} :
      Listened endpoint listening handler (.aborted message) after

theorem listen_run {outcome : Outcome Exn Fd} {after : List Fd × PipeSocketHandler}
    (run : Program.Run (Method.answers kernel.answers) (listening, handler)
      (listenMethod strerror endpoint) outcome after) :
    Listened endpoint listening handler outcome after := by
  rw [listenMethod, Method.run_get_bind_iff] at run
  dsimp only at run
  split at run
  · obtain ⟨rfl, rfl⟩ := Program.run_raise_iff.mp run
    exact .raised
  rename_i busy
  have free : handler.pipeServerSockets endpoint.nameOrEmpty = none := by
    simpa using busy
  rcases Method.run_call_bind_iff.mp run with
    ⟨fd, bound, bindRun, storing⟩ | ⟨exn, _, bindRun, _⟩ | ⟨message, rfl, _, _⟩
  · rcases bindPath_run bindRun with ⟨_, same, fresh, bindEq⟩ | ⟨_, impossible⟩
    · cases same
      rw [Method.run_get_bind_iff, Method.run_set_bind_iff] at storing
      obtain ⟨rfl, rfl⟩ := Program.run_done_iff.mp storing
      rw [bindEq]
      exact .returned free fresh
    · cases impossible
  · rcases bindPath_run bindRun with ⟨_, impossible, _⟩ | ⟨_, impossible⟩
    · cases impossible
    · cases impossible
  · exact .aborted

def empty : PipeSocketHandler :=
  { pipeServerSockets := fun _ => none }

def system : TransitionSystem (List Fd × PipeSocketHandler) ListenerEvent where
  initial state := state = ([], empty)
  step := ListenerStep listenMethod stopListeningMethod

def NeverStopped : List Fd × PipeSocketHandler → ListenerEvent → Prop
  | _, .listen _ _ => True
  | _, .stopListening _ _ => False

theorem listen_throws {exn : Exn} {state after : List Fd × PipeSocketHandler}
    (run : Program.Run (Method.answers kernel.answers) state (listenMethod strerror endpoint)
      (.raised exn) after) : after = state := by
  obtain ⟨listening, handler⟩ := state
  have listened := listen_run run
  cases listened with
  | raised => rfl

theorem owned_step {event : ListenerEvent} {before after : List Fd × PipeSocketHandler}
    (owned : Owned before.1 before.2.table) (kept : NeverStopped before event)
    (step : ListenerStep listenMethod stopListeningMethod before event after) :
    Owned after.1 after.2.table := by
  obtain ⟨listening, handler⟩ := before
  cases step with
  | listen run =>
      have listened := listen_run run
      cases listened with
      | returned free fresh =>
          rw [table_update]
          refine @Owned.register _ _ _ [_] _ _ owned ?_ ?_
          · rw [table, free]
            rfl
          · intro other member
            rw [List.mem_singleton.mp member]
            exact fresh
  | threw run =>
      rw [listen_throws run]
      exact owned
  | stopListening run => exact kept.elim

theorem owned_of_reachable {state : List Fd × PipeSocketHandler}
    (reached : system.ReachableBy NeverStopped state) : Owned state.1 state.2.table := by
  apply reached.invariant
  · intro start initial
    cases initial
    exact Owned.empty
  · intro before event after owned kept step
    exact owned_step owned kept step

structure Honoured (state : List Fd × PipeSocketHandler) : Prop where
  mirrors : Mirrors state.1 state.2.table
  thrown {kernel : Kernel} {endpoint : SocketEndpoint} {exn : Exn}
      {after : List Fd × PipeSocketHandler} :
    Program.Run (Method.answers kernel.answers) state
      (listenMethod kernel.strerror endpoint) (.raised exn) after → after = state

theorem honoured_of_reachable {state : List Fd × PipeSocketHandler}
    (reached : system.ReachableBy NeverStopped state) : Honoured state where
  mirrors := (owned_of_reachable reached).mirrors
  thrown := fun run => listen_throws run

end PipeSocketHandler

/-- The tables mirror the open sockets in every run in which no port is left half bound and no
pipe is given up. -/
theorem listener_tables_mirror {tcp : List Fd × TcpSocketHandler}
    {pipe : List Fd × PipeSocketHandler}
    (tcpReached : TcpSocketHandler.system.ReachableBy TcpSocketHandler.Unstranded tcp)
    (pipeReached : PipeSocketHandler.system.ReachableBy PipeSocketHandler.NeverStopped pipe) :
    TcpSocketHandler.Honoured tcp ∧ PipeSocketHandler.Honoured pipe :=
  ⟨TcpSocketHandler.honoured_of_reachable tcpReached,
    PipeSocketHandler.honoured_of_reachable pipeReached⟩

section Example

/-- The port is free on the first address of the name and taken on the second. -/
def halfTaken : Kernel :=
  { Kernel.granting 3 with
    getaddrinfo := fun _ _ => .ok
      [{ family := .AF_INET, addr := [1] }, { family := .AF_INET, addr := [2] }]
    socket := fun p => .ok (if p.addr = [1] then 3 else 4)
    bind := fun _ sockFd => if sockFd = 3 then none else some 98 }

def somePort : SocketEndpoint :=
  { name := none, port := some 2022 }

def somePath : SocketEndpoint :=
  { name := some [47, 120], port := none }

theorem halfTaken_strands :
    Program.Run (Method.answers halfTaken.answers) ([], TcpSocketHandler.empty)
      (TcpSocketHandler.listenMethod halfTaken.strerror somePort)
      (.raised (.runtimeError "Error binding port 2022: 98 ")) ([3], TcpSocketHandler.empty) := by
  rw [TcpSocketHandler.listenMethod, Method.run_get_bind_iff]
  have resolveRun : Program.Run halfTaken.answers [] (TcpSocketHandler.resolve somePort)
      (.returned [{ family := .AF_INET, addr := [1] }, { family := .AF_INET, addr := [2] }]) [] :=
    .perform ⟨rfl, rfl⟩ (.done _ _)
  refine Method.run_call_bind_iff.mpr (Or.inl ⟨_, _, resolveRun, ?_⟩)
  refine Method.run_call_bind_iff.mpr (Or.inr (Or.inl ⟨_, rfl, ?_, rfl⟩))
  have first : Program.Run halfTaken.answers []
      (TcpSocketHandler.serveAddressCalls halfTaken.strerror 2022
        { family := .AF_INET, addr := [1] }) (.returned (some 3)) [3] :=
    .perform ⟨rfl, List.not_mem_nil, rfl⟩ (.perform ⟨rfl, rfl⟩ (.perform ⟨rfl, rfl⟩
      (.perform ⟨rfl, rfl⟩ (.done _ _))))
  have second : Program.Run halfTaken.answers [3]
      (TcpSocketHandler.serveAddressCalls halfTaken.strerror 2022
        { family := .AF_INET, addr := [2] })
      (.raised (.runtimeError "Error binding port 2022: 98 ")) [3] :=
    .perform ⟨rfl, by decide, rfl⟩ (.perform ⟨rfl, rfl⟩ (.perform ⟨rfl, rfl⟩
      (.perform ⟨rfl, rfl⟩ (.raise _ _))))
  exact first.bind (Program.run_bind_iff.mpr (Or.inr (Or.inl ⟨_, rfl, second⟩)))

/-- The handler while the path is listened at, and after. -/
def somePathHandler : PipeSocketHandler :=
  { pipeServerSockets :=
      Function.update PipeSocketHandler.empty.pipeServerSockets [47, 120] (some 3) }

theorem somePath_listened :
    Program.Run (Method.answers (Kernel.granting 3).answers) ([], PipeSocketHandler.empty)
      (PipeSocketHandler.listenMethod (Kernel.granting 3).strerror somePath) (.returned 3)
      ([3], somePathHandler) := by
  have bindRun : Program.Run (Kernel.granting 3).answers []
      (PipeSocketHandler.bindPath (Kernel.granting 3).strerror [47, 120]) (.returned 3) [3] :=
    .perform ⟨rfl, List.not_mem_nil, rfl⟩ (.perform ⟨rfl, rfl⟩ (.perform ⟨rfl, rfl⟩
      (.perform ⟨rfl, rfl⟩ (.done _ _))))
  rw [PipeSocketHandler.listenMethod, Method.run_get_bind_iff]
  refine Method.run_call_bind_iff.mpr (Or.inl ⟨_, _, bindRun, ?_⟩)
  rw [Method.run_get_bind_iff, Method.run_set_bind_iff]
  exact .done _ _

theorem somePath_stopped :
    Program.Run (Method.answers (Kernel.granting 3).answers) ([3], somePathHandler)
      (PipeSocketHandler.stopListeningMethod (Kernel.granting 3).strerror somePath)
      (.returned ()) ([], somePathHandler) := by
  have closeRun : Program.Run (Kernel.granting 3).answers [3] (perform (.close 3))
      (.returned none) [] := .perform ⟨rfl, rfl⟩ (.done _ _)
  rw [PipeSocketHandler.stopListeningMethod, Method.run_get_bind_iff]
  refine Method.run_call_bind_iff.mpr (Or.inl ⟨_, _, closeRun, ?_⟩)
  exact Method.run_call_iff.mpr ⟨.done _ _, rfl⟩

/-- One handler keeps a socket without an entry, the other an entry without a socket. -/
theorem listener_tables_diverge :
    (∃ state, TcpSocketHandler.system.Reachable state ∧ state = ([3], TcpSocketHandler.empty) ∧
      ¬ Mirrors state.1 state.2.table) ∧
    (∃ state, PipeSocketHandler.system.Reachable state ∧ state = ([], somePathHandler) ∧
      ¬ Mirrors state.1 state.2.table ∧
      Program.Run (Method.answers (Kernel.granting 3).answers) state
        (PipeSocketHandler.listenMethod (Kernel.granting 3).strerror somePath)
        (.raised (.runtimeError "Tried to listen twice on the same path")) state) := by
  constructor
  · have start : TcpSocketHandler.system.Reachable ([], TcpSocketHandler.empty) := .start rfl
    refine ⟨_, start.next (.threw halfTaken_strands), rfl, ?_⟩
    intro mirrors
    obtain ⟨port, impossible⟩ := (mirrors 3).mp List.mem_cons_self
    cases impossible
  · have start : PipeSocketHandler.system.Reachable ([], PipeSocketHandler.empty) := .start rfl
    have registered := start.next (.listen somePath_listened)
    refine ⟨_, registered.next (.stopListening somePath_stopped), rfl, ?_, ?_⟩
    · intro mirrors
      cases (mirrors 3).mpr ⟨[47, 120], List.mem_cons_self⟩
    · rw [PipeSocketHandler.listenMethod, Method.run_get_bind_iff]
      exact .raise _ _

theorem listener_tables_mirror_granted :
    (∃ handler, TcpSocketHandler.Honoured ([3], handler)) ∧
      PipeSocketHandler.Honoured ([3], somePathHandler) := by
  have tcpStart : TcpSocketHandler.system.ReachableBy TcpSocketHandler.Unstranded
      ([], TcpSocketHandler.empty) := .start rfl
  have pipeStart : PipeSocketHandler.system.ReachableBy PipeSocketHandler.NeverStopped
      ([], PipeSocketHandler.empty) := .start rfl
  have notFound : TcpSocketHandler.empty.portServerSockets somePort.portOrZero = none := rfl
  obtain ⟨handler, run⟩ := @TcpSocketHandler.listen_granted (Kernel.granting 3).strerror [] _ _
    notFound 3 List.not_mem_nil
  have single : ¬ (Kernel.granting 3).StrandsAt somePort := by
    intro strands
    obtain ⟨servinfo, resolved, stranded⟩ := strands
    cases resolved
    rcases stranded with ⟨_, ⟨_, q, impossible, _⟩ | impossible⟩
    · cases impossible
    · exact impossible
  have tcpListened := tcpStart.next (by exact single) (.listen run)
  have pipeListened : PipeSocketHandler.system.ReachableBy PipeSocketHandler.NeverStopped
      ([3], somePathHandler) := pipeStart.next (by trivial) (.listen somePath_listened)
  obtain ⟨tcpHonoured, pipeHonoured⟩ := listener_tables_mirror tcpListened pipeListened
  exact ⟨⟨handler, tcpHonoured⟩, pipeHonoured⟩

end Example

end EternalTerminal
