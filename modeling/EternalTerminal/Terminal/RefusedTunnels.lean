/-
The reverse tunnels of one session, requested one after the other, and which of them is
refused.

The other sessions use the shared table between two requests, so each request finds its own.
-/

import EternalTerminal.Terminal.ReverseTunnels

namespace EternalTerminal

/-- What a request finds: the table that all sessions share, and a kernel. -/
structure RequestSurroundings where
  network : TcpSocketHandler
  kernel : Kernel

/-- How the loop over the tunnels ends: `runTerminal` returns with the error of a response, or
goes on with the variables that are set. -/
inductive TunnelsOutcome where
  | refused (what : String)
  | opened (environmentVariables : Bytes → Option Bytes)

namespace TerminalServer

/-- `sourceName` is what `createSource` has put there. -/
def setSourceName (environmentVariables : Bytes → Option Bytes)
    (pfsr : PortForwardSourceRequest) (sourceName : Bytes) : Bytes → Option Bytes :=
  match pfsr.environmentvariable with
  | none => environmentVariables
  | some variableName => Function.update environmentVariables variableName (some sourceName)

/-- The loop of `runTerminal` over the reverse tunnels, from the request of this number on. -/
def openTunnels (surroundings : Nat → RequestSurroundings) (userid groupid : Int) :
    List PortForwardSourceRequest → Nat → PipeSocketHandler → List TunnelEnds →
      (Bytes → Option Bytes) → Except Failure TunnelsOutcome
  | [], _, _, _, environmentVariables => .ok (.opened environmentVariables)
  | pfsr :: rest, turn, pipe, sourceHandlers, environmentVariables =>
      match PortForwardHandler.createSource (surroundings turn).kernel
          { network := (surroundings turn).network, pipe := pipe
            sourceHandlers := sourceHandlers }
          pfsr pfsr.environmentvariable.isSome userid groupid with
      | .error message => .error (.abort message)
      | .ok created =>
          match created.response.error with
          | some what => .ok (.refused what)
          | none =>
              openTunnels surroundings userid groupid rest (turn + 1) created.tables.pipe
                created.tables.sourceHandlers
                (setSourceName environmentVariables pfsr created.sourceName)

end TerminalServer

/-! ### Ports that are refused -/

/-- One of the port's addresses has a socket that cannot be bound. -/
def Kernel.RefusesPort (kernel : Kernel) (endpoint : SocketEndpoint) : Prop :=
  ∃ servinfo, kernel.getaddrinfo endpoint.name endpoint.portOrZero = .ok servinfo ∧
    ∃ p ∈ unseen servinfo [], kernel.Refuses p

/-- The call throws what `createSource` catches. -/
def Throws {α : Type} (result : Except Failure α) : Prop :=
  ∃ what, result = .error (.runtimeError what)

section Throwing

variable {α β : Type}

theorem not_throws_ok (value : α) : ¬ Throws (.ok value) := by
  intro refuses
  obtain ⟨what, impossible⟩ := refuses
  cases impossible

theorem not_throws_abort (message : String) :
    ¬ Throws (.error (.abort message) : Except Failure α) := by
  intro refuses
  obtain ⟨what, impossible⟩ := refuses
  cases impossible

theorem throws_runtimeError (what : String) :
    Throws (.error (.runtimeError what) : Except Failure α) :=
  ⟨what, rfl⟩

theorem throws_bind {first : Except Failure α} {next : α → Except Failure β} :
    Throws (first >>= next) ↔
      Throws first ∨ ∃ value, first = .ok value ∧ Throws (next value) := by
  cases first with
  | ok value =>
      constructor
      · intro refuses
        exact Or.inr ⟨value, rfl, refuses⟩
      · intro either
        rcases either with impossible | ⟨other, same, refuses⟩
        · exact absurd impossible (not_throws_ok value)
        · cases same
          exact refuses
  | error failure =>
      constructor
      · intro refuses
        obtain ⟨what, same⟩ := refuses
        cases same
        exact Or.inl (throws_runtimeError what)
      · intro either
        rcases either with ⟨what, same⟩ | ⟨other, impossible, _⟩
        · cases same
          exact throws_runtimeError what
        · cases impossible

theorem Kernel.fatalFail_throws {kernel : Kernel} {answer : Option Int} :
    ¬ Throws (kernel.fatalFail answer) := by
  cases answer with
  | none => exact not_throws_ok ()
  | some errno => exact not_throws_abort _

/-- A call after a `FATAL_FAIL`. -/
theorem Kernel.throws_after {kernel : Kernel} {answer : Option Int}
    {next : Except Failure α} :
    Throws (kernel.fatalFail answer >>= fun _ => next) ↔ answer = none ∧ Throws next := by
  cases answer with
  | none => exact (and_iff_right rfl).symm
  | some errno =>
      refine iff_of_false (not_throws_abort _) ?_
      intro impossible
      cases impossible.1

end Throwing

namespace TcpSocketHandler

variable {kernel : Kernel} {port : Int} {p : AddrInfo}

theorem bindAddress_refuses {sockFd : Fd} (refuses : Throws (bindAddress kernel port p sockFd)) :
    kernel.bind p sockFd ≠ none := by
  intro binds
  unfold bindAddress at refuses
  rw [binds] at refuses
  exact not_throws_ok _ (Kernel.throws_after.mp refuses).2

theorem bindAddress_ok {sockFd : Fd} {bound : Option Fd}
    (ok : bindAddress kernel port p sockFd = .ok bound) : kernel.bind p sockFd = none := by
  unfold bindAddress at ok
  cases answer : kernel.bind p sockFd with
  | none => rfl
  | some localErrno =>
      rw [answer] at ok
      obtain ⟨_, _, impossible⟩ := except_bind_ok ok
      cases impossible

theorem serveAddress_refuses (refuses : Throws (serveAddress kernel port p)) :
    kernel.Refuses p := by
  unfold serveAddress at refuses
  cases made : kernel.socket p with
  | error errno =>
      rw [made] at refuses
      exact absurd refuses (not_throws_ok _)
  | ok sockFd =>
      rw [made] at refuses
      have afterInit := (Kernel.throws_after.mp refuses).2
      rcases throws_bind.mp afterInit with keeping | ⟨_, _, binding⟩
      · unfold keepToIpv6 at keeping
        split at keeping
        · exact absurd keeping Kernel.fatalFail_throws
        · exact absurd keeping (not_throws_ok _)
      · exact ⟨sockFd, made, bindAddress_refuses binding⟩

theorem serveAddress_ok {bound : Option Fd} (ok : serveAddress kernel port p = .ok bound) :
    ¬ kernel.Refuses p := by
  intro refuses
  obtain ⟨sockFd, made, unbound⟩ := refuses
  unfold serveAddress at ok
  rw [made] at ok
  obtain ⟨_, _, keeping⟩ := except_bind_ok ok
  obtain ⟨_, _, binding⟩ := except_bind_ok keeping
  exact unbound (bindAddress_ok binding)

theorem serveAddresses_refuses {servinfo : List AddrInfo} {seenAddresses : List Bytes}
    {serverSockets : List Fd}
    (refuses : Throws (serveAddresses kernel port servinfo seenAddresses serverSockets)) :
    ∃ p ∈ unseen servinfo seenAddresses, kernel.Refuses p := by
  induction servinfo generalizing seenAddresses serverSockets with
  | nil => exact absurd refuses (not_throws_ok _)
  | cons p rest ih =>
      unfold serveAddresses at refuses
      by_cases seen : p.addr ∈ seenAddresses
      · rw [if_pos seen] at refuses
        rw [unseen, if_pos seen]
        exact ih refuses
      · rw [if_neg seen] at refuses
        rw [unseen, if_neg seen]
        rcases throws_bind.mp refuses with here | ⟨_, _, later⟩
        · exact ⟨p, List.mem_cons_self, serveAddress_refuses here⟩
        · obtain ⟨q, member, refused⟩ := ih later
          exact ⟨q, List.mem_cons_of_mem _ member, refused⟩

theorem serveAddresses_ok {servinfo : List AddrInfo} {seenAddresses : List Bytes}
    {serverSockets opened : List Fd}
    (ok : serveAddresses kernel port servinfo seenAddresses serverSockets = .ok opened) :
    ∀ p ∈ unseen servinfo seenAddresses, ¬ kernel.Refuses p := by
  induction servinfo generalizing seenAddresses serverSockets with
  | nil =>
      intro p impossible
      cases impossible
  | cons p rest ih =>
      unfold serveAddresses at ok
      by_cases seen : p.addr ∈ seenAddresses
      · rw [if_pos seen] at ok
        rw [unseen, if_pos seen]
        exact ih ok
      · rw [if_neg seen] at ok
        rw [unseen, if_neg seen]
        obtain ⟨_, here, later⟩ := except_bind_ok ok
        intro q member
        rcases List.mem_cons.mp member with same | after
        · rw [same]
          exact serveAddress_ok here
        · exact ih later q after

theorem listen_refuses {handler : TcpSocketHandler} {endpoint : SocketEndpoint}
    (refuses : Throws (handler.listen kernel endpoint)) : kernel.RefusesPort endpoint := by
  unfold listen at refuses
  dsimp only at refuses
  split at refuses
  · exact absurd refuses (not_throws_abort _)
  · split at refuses
    · exact absurd refuses (not_throws_abort _)
    · rename_i servinfo resolved
      rcases throws_bind.mp refuses with serving | ⟨opened, _, rest⟩
      · exact ⟨servinfo, resolved, serveAddresses_refuses serving⟩
      · split at rest
        · exact absurd rest (not_throws_abort _)
        · exact absurd rest (not_throws_ok _)

theorem listen_accepts {handler after : TcpSocketHandler} {endpoint : SocketEndpoint}
    (ok : handler.listen kernel endpoint = .ok after) : ¬ kernel.RefusesPort endpoint := by
  intro refuses
  obtain ⟨servinfo, resolved, p, member, refused⟩ := refuses
  unfold listen at ok
  dsimp only at ok
  split at ok
  · cases ok
  · rw [resolved] at ok
    obtain ⟨opened, serving, _⟩ := except_bind_ok ok
    exact serveAddresses_ok serving p member refused

end TcpSocketHandler

namespace PipeSocketHandler

variable {kernel : Kernel} {handler after : PipeSocketHandler} {endpoint : SocketEndpoint}

theorem listen_throws_busy (throws : Throws (handler.listen kernel endpoint)) :
    handler.pipeServerSockets endpoint.nameOrEmpty ≠ none := by
  intro free
  unfold listen at throws
  dsimp only at throws
  rw [free, if_neg (by exact Bool.false_ne_true)] at throws
  split at throws
  · have failed := (Kernel.throws_after.mp throws).1
    cases failed
  · have initialised := (Kernel.throws_after.mp throws).2
    have bound := (Kernel.throws_after.mp initialised).2
    exact not_throws_ok _ (Kernel.throws_after.mp bound).2

/-- A `listen` that returns has taken a path that was free. -/
theorem listen_takes (ok : handler.listen kernel endpoint = .ok after) :
    handler.pipeServerSockets endpoint.nameOrEmpty = none ∧
      ∀ path, after.pipeServerSockets path ≠ none ↔
        path = endpoint.nameOrEmpty ∨ handler.pipeServerSockets path ≠ none := by
  unfold listen at ok
  dsimp only at ok
  split at ok
  · cases ok
  · rename_i free
    refine ⟨by simpa using free, ?_⟩
    split at ok
    · obtain ⟨_, failed, _⟩ := except_bind_ok ok
      cases failed
    · obtain ⟨_, _, ok⟩ := except_bind_ok ok
      obtain ⟨_, _, ok⟩ := except_bind_ok ok
      obtain ⟨_, _, ok⟩ := except_bind_ok ok
      cases ok
      intro path
      by_cases same : path = endpoint.nameOrEmpty
      · simp [same]
      · simp [same]

end PipeSocketHandler

/-! ### Requests that are refused -/

namespace PortForwardHandler

def sourcePath (source : SocketEndpoint) : Option Bytes :=
  if source.port.isSome then none else some source.nameOrEmpty

/-- The path that a request listens at, unless it is for a port. -/
def tunnelPath (kernel : Kernel) (pfsr : PortForwardSourceRequest) : Option Bytes :=
  match pfsr.source with
  | some source => sourcePath source
  | none => kernel.mkdtemp.map (fun sourceDirectory => sourceDirectory ++ sockFile)

/-- The requests that are answered with an error, where the session listens at the paths
`taken`: one with a source and an environment variable, one for a port that is refused, and one
for a path that is taken. -/
def RefusesRequest (kernel : Kernel) (taken : List Bytes) (pfsr : PortForwardSourceRequest) :
    Prop :=
  (pfsr.source.isSome ∧ pfsr.environmentvariable.isSome) ∨
    (∃ source, pfsr.source = some source ∧ source.port.isSome ∧ kernel.RefusesPort source) ∨
    ∃ path, tunnelPath kernel pfsr = some path ∧ path ∈ taken

/-- One of the requests is refused, and none before it. -/
def RefusesTunnel (surroundings : Nat → RequestSurroundings) :
    List PortForwardSourceRequest → Nat → List Bytes → Prop
  | [], _, _ => False
  | pfsr :: rest, turn, taken =>
      RefusesRequest (surroundings turn).kernel taken pfsr ∨
        RefusesTunnel surroundings rest (turn + 1)
          ((tunnelPath (surroundings turn).kernel pfsr).toList ++ taken)

def Takes (pipe : PipeSocketHandler) (taken : List Bytes) : Prop :=
  ∀ path, pipe.pipeServerSockets path ≠ none ↔ path ∈ taken

variable {kernel : Kernel} {tables after : TunnelTables} {source destination : SocketEndpoint}
  {userid groupid : Int} {pfsr : PortForwardSourceRequest} {wantsName : Bool}
  {taken : List Bytes}

def RefusesSource (kernel : Kernel) (taken : List Bytes) (source : SocketEndpoint) : Prop :=
  (source.port.isSome ∧ kernel.RefusesPort source) ∨
    ∃ path, sourcePath source = some path ∧ path ∈ taken

theorem openSource_throws (takes : Takes tables.pipe taken)
    (throws : Throws (openSource kernel tables source destination wantsName userid groupid)) :
    RefusesSource kernel taken source := by
  unfold openSource at throws
  dsimp only at throws
  by_cases isPort : source.port.isSome
  · rw [if_pos isPort] at throws
    split at throws
    · exact absurd throws (not_throws_abort _)
    · rcases throws_bind.mp throws with listening | ⟨_, _, later⟩
      · exact Or.inl ⟨isPort, TcpSocketHandler.listen_refuses listening⟩
      · exact absurd later (not_throws_ok _)
  · rw [if_neg isPort] at throws
    rcases throws_bind.mp throws with listening | ⟨_, _, later⟩
    · have busy := PipeSocketHandler.listen_throws_busy listening
      exact Or.inr ⟨_, if_neg isPort, (takes _).mp busy⟩
    · have moded := (Kernel.throws_after.mp later).2
      exact absurd (Kernel.throws_after.mp moded).2 (not_throws_ok _)

theorem openSource_accepts (takes : Takes tables.pipe taken)
    (ok : openSource kernel tables source destination wantsName userid groupid = .ok after) :
    ¬ RefusesSource kernel taken source ∧
      Takes after.pipe ((sourcePath source).toList ++ taken) := by
  unfold openSource at ok
  dsimp only at ok
  unfold RefusesSource sourcePath
  by_cases isPort : source.port.isSome
  · rw [if_pos isPort] at ok
    rw [if_pos isPort]
    split at ok
    · cases ok
    · obtain ⟨network, listening, ok⟩ := except_bind_ok ok
      cases ok
      have accepts := TcpSocketHandler.listen_accepts listening
      exact ⟨by simp [accepts], takes⟩
  · rw [if_neg isPort] at ok
    rw [if_neg isPort]
    obtain ⟨pipe, listening, ok⟩ := except_bind_ok ok
    obtain ⟨_, _, ok⟩ := except_bind_ok ok
    obtain ⟨_, _, ok⟩ := except_bind_ok ok
    cases ok
    obtain ⟨free, grown⟩ := PipeSocketHandler.listen_takes listening
    constructor
    · have untaken : source.nameOrEmpty ∉ taken := fun member => (takes _).mpr member free
      simp [isPort, untaken]
    · intro path
      rw [grown path, takes path]
      simp

/-- A request with a source and no variable, or the other way round, is refused as its source
is. -/
theorem refusesRequest_iff {chosen : SocketEndpoint}
    (ok : chooseSource kernel pfsr pfsr.environmentvariable.isSome userid groupid = .ok chosen) :
    (RefusesRequest kernel taken pfsr ↔ RefusesSource kernel taken chosen) ∧
      tunnelPath kernel pfsr = sourcePath chosen := by
  unfold chooseSource at ok
  unfold RefusesRequest RefusesSource tunnelPath
  cases hasSource : pfsr.source with
  | some source =>
      rw [hasSource] at ok
      dsimp only at ok
      split at ok
      · cases ok
      · rename_i unnamed
        cases ok
        constructor
        · simp [unnamed, sourcePath]
        · rfl
  | none =>
      rw [hasSource] at ok
      dsimp only at ok
      cases made : kernel.mkdtemp with
      | none =>
          rw [made] at ok
          cases ok
      | some sourceDirectory =>
          rw [made] at ok
          obtain ⟨_, _, ok⟩ := except_bind_ok ok
          obtain ⟨_, _, ok⟩ := except_bind_ok ok
          split at ok
          · cases ok
            constructor
            · simp [sourcePath, SocketEndpoint.nameOrEmpty]
            · rfl
          · cases ok

theorem chooseSource_throws
    (throws : Throws (chooseSource kernel pfsr pfsr.environmentvariable.isSome userid groupid)) :
    pfsr.source.isSome ∧ pfsr.environmentvariable.isSome := by
  unfold chooseSource at throws
  cases hasSource : pfsr.source with
  | some source =>
      rw [hasSource] at throws
      dsimp only at throws
      split at throws
      · rename_i named
        exact ⟨rfl, named⟩
      · exact absurd throws (not_throws_ok _)
  | none =>
      rw [hasSource] at throws
      dsimp only at throws
      split at throws
      · exact absurd throws (not_throws_abort _)
      · have moded := (Kernel.throws_after.mp throws).2
        have owned := (Kernel.throws_after.mp moded).2
        split at owned
        · exact absurd owned (not_throws_ok _)
        · exact absurd owned (not_throws_abort _)

/-- An error is answered if and only if the request is refused; a source that is opened takes
its path. -/
theorem createSource_refuses {created : CreatedSource} (takes : Takes tables.pipe taken)
    (ok : createSource kernel tables pfsr pfsr.environmentvariable.isSome userid groupid =
      .ok created) :
    (created.response.error.isSome ↔ RefusesRequest kernel taken pfsr) ∧
      (created.response.error = none →
        Takes created.tables.pipe ((tunnelPath kernel pfsr).toList ++ taken)) := by
  unfold createSource at ok
  split at ok
  · rename_i source opened trying
    cases ok
    obtain ⟨chosen, choosing, opening⟩ := except_bind_ok trying
    obtain ⟨later, opening, same⟩ := except_bind_ok opening
    cases same
    have sameSource : (RefusesRequest kernel taken pfsr ↔ RefusesSource kernel taken source) ∧ _ :=
      refusesRequest_iff choosing
    obtain ⟨iff, samePath⟩ := sameSource
    obtain ⟨accepts, takesMore⟩ := openSource_accepts takes opening
    rw [iff, samePath]
    exact ⟨iff_of_false Bool.false_ne_true accepts, fun _ => takesMore⟩
  · rename_i what trying
    cases ok
    refine ⟨iff_of_true rfl ?_, fun impossible => by cases impossible⟩
    have throws : Throws (tryCreateSource kernel tables pfsr _ userid groupid) := ⟨what, trying⟩
    rcases throws_bind.mp throws with choosing | ⟨chosen, choosing, rest⟩
    · exact Or.inl (chooseSource_throws choosing)
    · rcases throws_bind.mp rest with opening | ⟨_, _, impossible⟩
      · exact (refusesRequest_iff choosing).1.mpr (openSource_throws takes opening)
      · exact absurd impossible (not_throws_ok _)
  · cases ok

end PortForwardHandler

/-- Where the loop ends, it ends with a refusal if and only if one of the requests is refused. -/
theorem TerminalServer.openTunnels_refused {surroundings : Nat → RequestSurroundings}
    {userid groupid : Int} {reversetunnels : List PortForwardSourceRequest} {turn : Nat}
    {pipe : PipeSocketHandler} {sourceHandlers : List TunnelEnds} {taken : List Bytes}
    {environmentVariables : Bytes → Option Bytes} {outcome : TunnelsOutcome}
    (takes : PortForwardHandler.Takes pipe taken)
    (ok : openTunnels surroundings userid groupid reversetunnels turn pipe sourceHandlers
      environmentVariables = .ok outcome) :
    (∃ what, outcome = .refused what) ↔
      PortForwardHandler.RefusesTunnel surroundings reversetunnels turn taken := by
  induction reversetunnels generalizing turn pipe sourceHandlers taken environmentVariables with
  | nil =>
      cases ok
      refine iff_of_false ?_ id
      intro refused
      obtain ⟨what, impossible⟩ := refused
      cases impossible
  | cons pfsr rest ih =>
      unfold openTunnels at ok
      split at ok
      · cases ok
      · rename_i created creating
        obtain ⟨iff, takesMore⟩ := PortForwardHandler.createSource_refuses takes creating
        rw [PortForwardHandler.RefusesTunnel, ← iff]
        cases answered : created.response.error with
        | some what =>
            rw [answered] at ok
            cases ok
            exact iff_of_true ⟨what, rfl⟩ (Or.inl rfl)
        | none =>
            rw [answered] at ok
            rw [ih (takesMore answered) ok]
            exact (or_iff_right Bool.false_ne_true).symm

end EternalTerminal
