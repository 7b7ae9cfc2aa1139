/-
The variables of the shell: those of the client's first packet, and those of its reverse tunnels.
-/

import EternalTerminal.Terminal.TerminalKeepalives

namespace EternalTerminal

open Library

/-! ### The variables of the tunnels -/

namespace PortForwardHandler

/-- A source with a variable is a socket in a directory of its own. -/
theorem createSource_sourceName {kernel : Kernel} {tables : TunnelTables}
    {pfsr : PortForwardSourceRequest} {userid groupid : Int} {created : CreatedSource}
    (ok : createSource kernel tables pfsr true userid groupid = .ok created)
    (accepted : created.response.error = none) :
    ∃ directory, kernel.mkdtemp = some directory ∧
      created.sourceName = directory ++ sockFile := by
  unfold createSource at ok
  split at ok
  · rename_i source opened trying
    cases ok
    obtain ⟨chosen, choosing, opening⟩ := except_bind_ok trying
    obtain ⟨later, opening, same⟩ := except_bind_ok opening
    cases same
    unfold chooseSource at choosing
    split at choosing
    · cases choosing
    · rename_i unset
      split at choosing
      · cases choosing
      · rename_i directory made
        obtain ⟨_, _, choosing⟩ := except_bind_ok choosing
        obtain ⟨_, _, choosing⟩ := except_bind_ok choosing
        cases choosing
        refine ⟨directory, made, ?_⟩
        rw [unset]
        rfl
  · cases ok
    cases accepted
  · cases ok

end PortForwardHandler

namespace TerminalServer

def IsTunnelled (reversetunnels : List PortForwardSourceRequest) (name : Bytes) : Prop :=
  ∃ pfsr ∈ reversetunnels, pfsr.environmentvariable = some name

/-- The last of the tunnels for the variable is the one with this index. -/
def IsLast (reversetunnels : List PortForwardSourceRequest) (name : Bytes) (index : Nat) : Prop :=
  (∃ pfsr, reversetunnels[index]? = some pfsr ∧ pfsr.environmentvariable = some name) ∧
    ¬ IsTunnelled (reversetunnels.drop (index + 1)) name

/-- A tunnel's variable is the path of its socket, in the directory that was made for it; the
others are left as they were. -/
structure TunnelVariables (reversetunnels : List PortForwardSourceRequest)
    (directories : Nat → Option Bytes) (before after : Bytes → Option Bytes) : Prop where
  tunnelled : ∀ name index, IsLast reversetunnels name index →
    ∃ directory, directories index = some directory ∧
      after name = some (directory ++ PortForwardHandler.sockFile)
  others : ∀ name, ¬ IsTunnelled reversetunnels name → after name = before name

theorem setSourceName_other {environmentVariables : Bytes → Option Bytes}
    {pfsr : PortForwardSourceRequest} {sourceName name : Bytes}
    (other : pfsr.environmentvariable ≠ some name) :
    setSourceName environmentVariables pfsr sourceName name = environmentVariables name := by
  unfold setSourceName
  cases variableName : pfsr.environmentvariable with
  | none => rfl
  | some found =>
      rw [variableName] at other
      exact Function.update_of_ne (fun same => other (congrArg some same.symm)) _ _

theorem setSourceName_same {environmentVariables : Bytes → Option Bytes}
    {pfsr : PortForwardSourceRequest} {sourceName name : Bytes}
    (same : pfsr.environmentvariable = some name) :
    setSourceName environmentVariables pfsr sourceName name = some sourceName := by
  rw [setSourceName, same]
  exact Function.update_self ..

/-- The induction is on the tunnels; a variable of a later one wins. -/
theorem openTunnels_variables {surroundings : Nat → RequestSurroundings} {userid groupid : Int}
    {reversetunnels : List PortForwardSourceRequest} {turn : Nat} {pipe : PipeSocketHandler}
    {sourceHandlers : List TunnelEnds} {before after : Bytes → Option Bytes}
    (ok : openTunnels surroundings userid groupid reversetunnels turn pipe sourceHandlers before =
      .ok (.opened after)) :
    TunnelVariables reversetunnels (fun index => (surroundings (turn + index)).kernel.mkdtemp)
      before after := by
  induction reversetunnels generalizing turn pipe sourceHandlers before with
  | nil =>
      cases ok
      constructor
      · intro name index isLast
        obtain ⟨⟨pfsr, found, _⟩, _⟩ := isLast
        cases found
      · exact fun _ _ => rfl
  | cons pfsr rest ih =>
      unfold openTunnels at ok
      split at ok
      · cases ok
      · rename_i created creating
        split at ok
        · cases ok
        · rename_i accepted
          have later := ih ok
          have tunnelled_cons : ∀ name, IsTunnelled (pfsr :: rest) name ↔
              pfsr.environmentvariable = some name ∨ IsTunnelled rest name := by
            intro name
            simp [IsTunnelled]
          constructor
          · intro name index isLast
            cases index with
            | succ index =>
                have found := later.tunnelled name index isLast
                rw [Nat.add_assoc, Nat.add_comm 1] at found
                exact found
            | zero =>
                obtain ⟨⟨other, isFirst, sameName⟩, alone⟩ := isLast
                cases isFirst
                rw [sameName] at creating
                obtain ⟨directory, made, path⟩ :=
                  PortForwardHandler.createSource_sourceName creating accepted
                refine ⟨directory, made, ?_⟩
                rw [later.others name alone, setSourceName_same sameName, path]
          · intro name notTunnelled
            have neither := not_or.mp (mt (tunnelled_cons name).mpr notTunnelled)
            rw [later.others name neither.2, setSourceName_other neither.1]

end TerminalServer

/-! ### The first packet -/

namespace TerminalClientRun

variable {options : ClientOptions} {forwarder : Forwarder}
  {before after : TerminalClientRun forwarder.State} {call : PacketCall}

/-- A step writes for the conversation, leaves it, or goes on when everything is written. -/
inductive Converses (before after : TerminalClientRun forwarder.State) (call : PacketCall) : Prop
  | writes : before.packets.Step call after.packets → Converses before after call
  | leaves : after.packets = before.packets → Converses before after call
  | goesOn : before.packets.writing = [] → after.packets.given = before.packets.given →
      after.packets.dropping = before.packets.dropping → Converses before after call

theorem takeResponse_given (packet : Packet) :
    (before.takeResponse options packet).packets.given = before.packets.given ∧
      (before.takeResponse options packet).packets.dropping = before.packets.dropping := by
  unfold takeResponse
  dsimp only
  split
  · exact ⟨rfl, rfl⟩
  · exact ⟨rfl, rfl⟩
  · exact ⟨rfl, rfl⟩
  · exact ⟨rfl, rfl⟩

theorem takePacket_given (packet : Packet) :
    (before.takePacket options packet).packets.given = before.packets.given ∧
      (before.takePacket options packet).packets.dropping = before.packets.dropping := by
  unfold takePacket
  dsimp only
  split
  · split
    · split
      · exact ⟨rfl, rfl⟩
      · exact ⟨rfl, rfl⟩
    · exact ⟨rfl, rfl⟩
  · split
    · exact ⟨rfl, rfl⟩
    · exact ⟨rfl, rfl⟩

theorem Step.converses (step : Step options forwarder before call after) :
    Converses before after call := by
  cases step with
  | writePacket step => exact .writes step
  | ticks _ | resizes | shutdown => exact .leaves rfl
  | @response left packet idle _ =>
      obtain ⟨given, dropping⟩ := @takeResponse_given options forwarder before packet
      exact .goesOn idle given dropping
  | @packet packet idle _ _ =>
      obtain ⟨given, dropping⟩ := @takePacket_given options forwarder before packet
      exact .goesOn idle given dropping
  | waits idle _ | noResponse idle _ | unanswered idle _ | leaves idle _ | enters idle _ _ _
  | consoleIdle idle _ | consoleData idle _ _ _ _ | consoleEnds idle _ _ | typed idle _
  | forwardPacket idle _ _ _ | noPacket idle _ | noData idle _ | prints idle _
  | printFails idle _ _ | notLate idle _ _ | disconnected idle _ | late idle _ _ _
  | missed idle _ _ _ | sameWindow idle _ _ | newWindow idle _ _ | nothingToForward idle _ _
  | update idle _ _ _ | forwarded idle _ => exact .goesOn idle rfl rfl

end TerminalClientRun

namespace Conversation

variable {before after : Conversation} {opening : Packet}

/-- The first packet that is given is the opening; without it none is. -/
def Opens (packets : Conversation) (opening : Packet) : Prop :=
  packets.given.head? = some opening ∨
    (packets.given = [] ∧ (packets.writing = [opening] ∨ packets.dropping = true))

theorem Step.opens {call : PacketCall} (step : before.Step call after)
    (opens : before.Opens opening) : after.Opens opening := by
  cases step with
  | @writes packet rest writing going =>
      left
      rcases opens with first | ⟨nothing, alone | dropping⟩
      · cases given : before.given with
        | nil =>
            rw [given] at first
            cases first
        | cons head tail =>
            rw [given] at first
            exact first
      · rw [writing] at alone
        cases alone
        rw [nothing]
        rfl
      · cases going.symm.trans dropping
  | skips _ _ => exact opens
  | drops _ =>
      rcases opens with first | ⟨nothing, _⟩
      · exact Or.inl first
      · exact Or.inr ⟨nothing, Or.inr rfl⟩

end Conversation

theorem TerminalClientRun.Step.opens {options : ClientOptions} {forwarder : Forwarder}
    {before after : TerminalClientRun forwarder.State} {call : PacketCall} {opening : Packet}
    (step : Step options forwarder before call after) (opens : before.packets.Opens opening) :
    after.packets.Opens opening := by
  cases step.converses with
  | writes step => exact step.opens opens
  | leaves same =>
      rw [same]
      exact opens
  | goesOn idle given dropping =>
      unfold Conversation.Opens at opens ⊢
      rw [given, dropping]
      rcases opens with first | ⟨nothing, alone | dropped⟩
      · exact Or.inl first
      · cases idle.symm.trans alone
      · exact Or.inr ⟨nothing, Or.inr dropped⟩

/-! ### `TERMINAL_INIT` -/

/-- Not yet past its `writePacket`. -/
def ServerTurn.isEarly : ServerTurn → Bool
  | .awaitingPayload | .binding _ | .announcing _ => true
  | _ => false

section

variable (formats : PayloadFormat)

def Bound (taken : List Packet) (payload : InitialPayload) : Prop :=
  ∃ packet, taken.head? = some packet ∧ formats.parse packet.payload = some payload ∧
    payload.jumphost = false

/-- The tunnels of the payload have been opened, and these are the variables. -/
def Opened (taken : List Packet) (directories : Nat → Option Bytes)
    (environmentVariables : Bytes → Option Bytes) : Prop :=
  ∃ payload, Bound formats taken payload ∧ ∃ surroundings userid groupid,
    directories = (fun turn => (surroundings turn).kernel.mkdtemp) ∧
    TerminalServer.openTunnels surroundings userid groupid payload.reversetunnels 0
      { pipeServerSockets := fun _ => none } [] (TerminalServer.payloadVariables payload) =
        .ok (.opened environmentVariables)

def Announced (taken : List Packet) (directories : Nat → Option Bytes) (packet : Packet) : Prop :=
  ∃ environmentVariables pairs, Opened formats taken directories environmentVariables ∧
    Enumerates environmentVariables pairs ∧ packet = termInitPacket (.ofPairs pairs)

variable {formats} {taken more : List Packet} {payload : InitialPayload} {packet : Packet}
  {directories : Nat → Option Bytes} {environmentVariables : Bytes → Option Bytes}

theorem Bound.append (bound : Bound formats taken payload) :
    Bound formats (taken ++ more) payload := by
  obtain ⟨packet, first, parsed, isTerminal⟩ := bound
  refine ⟨packet, ?_, parsed, isTerminal⟩
  rw [List.head?_append, first]
  rfl

theorem Opened.append (opened : Opened formats taken directories environmentVariables) :
    Opened formats (taken ++ more) directories environmentVariables := by
  obtain ⟨payload, bound, tunnels⟩ := opened
  exact ⟨payload, bound.append, tunnels⟩

theorem Announced.append (announced : Announced formats taken directories packet) :
    Announced formats (taken ++ more) directories packet := by
  obtain ⟨environmentVariables, pairs, opened, rest⟩ := announced
  exact ⟨environmentVariables, pairs, opened.append, rest⟩

end

/-- What a call writes to the terminal as `TERMINAL_INIT`. -/
def ServerCall.announces : ServerCall → List Packet
  | .announce packet => [packet]
  | _ => []

namespace TerminalServerRun

/-- How far the thread has come with the announcement; `sent` is what it has written of it. -/
structure Announcing {State : Type} (formats : PayloadFormat) (server : TerminalServerRun State)
    (sent : List Packet) : Prop where
  awaiting : server.turn = .awaitingPayload → server.packets.taken = []
  binding : ∀ payload, server.turn = .binding payload →
    Bound formats server.packets.taken payload
  announcing : ∀ environmentVariables, server.turn = .announcing environmentVariables →
    Opened formats server.packets.taken server.directories environmentVariables
  unsent : server.turn.isEarly = true → sent = []
  sent : ∀ packet ∈ sent, Announced formats server.packets.taken server.directories packet

variable {formats : PayloadFormat} {forwarder : Forwarder}
  {before after : TerminalServerRun forwarder.State} {call : ServerCall} {sent : List Packet}

/-- A step to a later turn, which may read a packet. -/
theorem Announcing.goesOn (announcing : before.Announcing formats sent)
    (late : after.turn.isEarly = false) (directories : after.directories = before.directories)
    (read : ∃ more, after.packets.taken = before.packets.taken ++ more) :
    after.Announcing formats sent := by
  obtain ⟨more, taken⟩ := read
  constructor
  · intro turn
    rw [turn] at late
    cases late
  · intro payload turn
    rw [turn] at late
    cases late
  · intro environmentVariables turn
    rw [turn] at late
    cases late
  · intro early
    cases late.symm.trans early
  · intro packet member
    rw [taken, directories]
    exact (announcing.sent packet member).append

theorem Announcing.stays (announcing : before.Announcing formats sent)
    (turn : after.turn = before.turn) (directories : after.directories = before.directories)
    (taken : after.packets.taken = before.packets.taken) : after.Announcing formats sent := by
  obtain ⟨awaiting, binding, opened, unsent, isSent⟩ := announcing
  constructor
  · rw [turn, taken]
    exact awaiting
  · rw [turn, taken]
    exact binding
  · rw [turn, taken, directories]
    exact opened
  · rw [turn]
    exact unsent
  · rw [taken, directories]
    exact isSent

theorem Announcing.takePayload (announcing : before.Announcing formats sent)
    (turn : before.turn = .awaitingPayload) (packet : Packet) :
    (before.takePayload formats packet).Announcing formats sent := by
  have nothing := announcing.awaiting turn
  have unsent := announcing.unsent (by rw [turn]; rfl)
  have first : (before.packets.taken ++ [packet]).head? = some packet := by
    rw [nothing]
    rfl
  rw [unsent]
  unfold TerminalServerRun.takePayload afterPayload
  split
  · split
    · exact ⟨nofun, nofun, nofun, fun _ => rfl, nofun⟩
    · rename_i payload parsed
      split
      · exact ⟨nofun, nofun, nofun, fun _ => rfl, nofun⟩
      · rename_i isTerminal
        refine ⟨nofun, ?_, nofun, fun _ => rfl, nofun⟩
        intro other same
        cases same
        exact ⟨packet, first, parsed, by simpa using isTerminal⟩
  · exact ⟨nofun, nofun, nofun, fun _ => rfl, nofun⟩

theorem Announcing.opened (announcing : before.Announcing formats sent) {payload : InitialPayload}
    (turn : before.turn = .binding payload) (surroundings : Nat → RequestSurroundings)
    (userid groupid : Int) :
    (before.opened (fun turn => (surroundings turn).kernel.mkdtemp)
      (TerminalServer.openTunnels surroundings userid groupid payload.reversetunnels 0
        { pipeServerSockets := fun _ => none } []
        (TerminalServer.payloadVariables payload))).Announcing formats sent := by
  have bound := announcing.binding payload turn
  have unsent := announcing.unsent (by rw [turn]; rfl)
  rw [unsent]
  unfold TerminalServerRun.opened
  split
  · rename_i environmentVariables outcome
    refine ⟨nofun, nofun, ?_, fun _ => rfl, nofun⟩
    intro other same
    cases same
    exact ⟨payload, bound, surroundings, userid, groupid, rfl, outcome⟩
  · exact ⟨nofun, nofun, nofun, fun _ => rfl, nofun⟩
  · exact ⟨nofun, nofun, nofun, fun _ => rfl, nofun⟩

theorem takePacket_late (packet : Packet) (turn : before.turn = .connection) :
    (before.takePacket packet).turn.isEarly = false ∧
      (before.takePacket packet).directories = before.directories ∧
      (before.takePacket packet).packets.taken = before.packets.taken ++ [packet] := by
  unfold takePacket
  dsimp only
  split
  · exact ⟨by rw [turn]; rfl, rfl, rfl⟩
  · split
    · exact ⟨rfl, rfl, rfl⟩
    · exact ⟨rfl, rfl, rfl⟩

theorem Step.announcing (step : Step formats forwarder before call after)
    (announcing : before.Announcing formats sent) :
    after.Announcing formats (sent ++ call.announces) := by
  have quiet : call.announces = [] → after.Announcing formats sent →
      after.Announcing formats (sent ++ call.announces) := by
    intro silent same
    rw [silent, List.append_nil]
    exact same
  have nothing : ∃ more, before.packets.taken = before.packets.taken ++ more :=
    ⟨[], (List.append_nil _).symm⟩
  cases step with
  | writePacket step => exact quiet rfl (announcing.stays rfl rfl step.taken)
  | waits _ _ => exact quiet rfl announcing
  | payload _ turn => exact quiet rfl (announcing.takePayload turn _)
  | tunnels _ turn => exact quiet rfl (announcing.opened turn _ _ _)
  | announces _ turn enumerates =>
      have opened := announcing.announcing _ turn
      rw [announcing.unsent (by rw [turn]; rfl)]
      refine ⟨nofun, nofun, nofun, nofun, ?_⟩
      intro packet member
      rw [List.mem_singleton.mp member]
      exact ⟨_, _, opened, enumerates, rfl⟩
  | packet _ turn _ =>
      obtain ⟨late, directories, taken⟩ := takePacket_late _ turn
      exact quiet rfl (announcing.goesOn late directories ⟨_, taken⟩)
  | forwardPacket _ turn _ _ =>
      exact quiet rfl (announcing.goesOn (by rw [turn]; rfl) rfl ⟨_, rfl⟩)
  | @select terminal _ _ =>
      have late : (if terminal then ServerTurn.terminal else .forwards).isEarly = false := by
        cases terminal with
        | true | false => rfl
      exact quiet rfl (announcing.goesOn late rfl nothing)
  | unbound _ _ | announced _ | announceFails _ | halts _ _ | terminalAgain _ _ | terminalEnds _ _
  | terminalData _ _ _ _ | update _ _ _ | noPacket _ _ | noData _ _ | pass _ | oversized _
  | passed _ | passFails _ => exact quiet rfl (announcing.goesOn rfl rfl nothing)

end TerminalServerRun

/-! ### Every run -/

namespace TerminalSession

variable {carrier : Carrier} {forwarder : Forwarder} {options : ClientOptions}
  {formats : PayloadFormat} {session before after : TerminalSession carrier forwarder}

structure Equips (formats : PayloadFormat) (session : TerminalSession carrier forwarder) :
    Prop where
  pipe : session.init.Intact
  server : session.server.Announcing formats session.init.sent
  shell : ∀ shell, session.environment = some shell →
    ∃ packet ∈ session.init.sent, startShell session.inherited (.packet packet) = some shell

theorem Equips.serves (equips : before.Equips formats) {call : ServerCall}
    (step : TerminalServerRun.Step formats forwarder before.server call after.server)
    (silent : call.announces = []) (init : after.init = before.init)
    (inherited : after.inherited = before.inherited)
    (environment : after.environment = before.environment) : after.Equips formats := by
  have announcing := step.announcing equips.server
  rw [silent, List.append_nil] at announcing
  constructor
  · rw [init]
    exact equips.pipe
  · rw [init]
    exact announcing
  · rw [init, inherited, environment]
    exact equips.shell

theorem Equips.keeps (equips : before.Equips formats) (server : after.server = before.server)
    (init : after.init = before.init) (inherited : after.inherited = before.inherited)
    (environment : after.environment = before.environment) : after.Equips formats := by
  obtain ⟨pipe, announcing, shell⟩ := equips
  constructor
  · rw [init]
    exact pipe
  · rw [server, init]
    exact announcing
  · rw [init, inherited, environment]
    exact shell

theorem Equips.readsInit (equips : before.Equips formats) {count : Nat} (some : 0 < count)
    (asked : count ≤ before.init.asks) (arrived : count ≤ before.init.inFlight.length) :
    Equips formats
      { before with
        init := before.init.read count
        environment := startShell before.inherited (before.init.readResult count) } := by
  obtain ⟨reads, intact⟩ := equips.pipe.read some asked arrived
  refine ⟨intact, ?_, ?_⟩
  · rw [PacketPipe.read_sent]
    exact equips.server
  · intro shell started
    cases reads with
    | waits waits _ =>
        rw [waits] at started
        cases started
    | packet packet result received _ =>
        have isSent : packet ∈ (before.init.read count).sent :=
          intact.received_prefix.subset
            (received ▸ List.mem_append_right _ (List.mem_singleton_self packet))
        rw [result] at started
        exact ⟨packet, isSent, started⟩

theorem Step.equips {event : Event} (step : Step options formats before event after)
    (equips : before.Equips formats) : after.Equips formats := by
  cases step with
  | carrier _ | client _ _ | passes _ _ | iterates _ _ _ _ | handler _ _ _ _ | flush =>
      exact equips.keeps rfl rfl rfl rfl
  | announce step fits =>
      refine ⟨equips.pipe.writePacket fits, step.announcing equips.server, ?_⟩
      intro shell started
      obtain ⟨packet, isSent, isShell⟩ := equips.shell shell started
      exact ⟨packet, List.mem_append_left _ isSent, isShell⟩
  | announces _ => exact ⟨equips.pipe.write _, equips.server, equips.shell⟩
  | readsInit _ some asked arrived => exact equips.readsInit some asked arrived
  | server step _ | announced step _ | select step _ | pass step _ _ | oversized step _ _
  | passed step _ | passFails step _ _ _ | output _ step =>
      exact equips.serves step rfl rfl rfl rfl

theorem equips_of_reachable
    (reached : (terminalSessionSystem carrier forwarder options formats).Reachable session) :
    session.Equips formats := by
  induction reached with
  | start initial =>
      obtain ⟨_, _, _, _, _, _, _, _, _, _, _, rfl⟩ := initial
      exact ⟨PacketPipe.empty_intact, ⟨fun _ => rfl, nofun, nofun, fun _ => rfl, nofun⟩, nofun⟩
  | next _ _ step equips => exact step.equips equips

theorem opens_of_reachable
    (reached : (terminalSessionSystem carrier forwarder options formats).Reachable session) :
    session.client.packets.Opens (Packet.plain INITIAL_PAYLOAD options.payload) := by
  induction reached with
  | start initial =>
      obtain ⟨_, _, _, _, _, _, _, _, _, _, _, rfl⟩ := initial
      exact Or.inr ⟨rfl, Or.inl rfl⟩
  | next _ _ step opens =>
      rcases step.client_cases with same | ⟨call, step, _⟩
      · rw [same]
        exact opens
      · exact step.opens opens

/-- What the shell finds in a variable whose name `setenv` takes.  A tunnel's variable is the
path of its socket, in the directory that `mkdtemp` has made for it; the others are those of the
payload, then those that the process has. -/
structure ShellVariables (payload : InitialPayload) (directories : Nat → Option Bytes)
    (inherited shell : Bytes → Option Bytes) : Prop where
  tunnelled : ∀ name index, IsName name →
    TerminalServer.IsLast payload.reversetunnels name index →
    ∃ directory, directories index = some directory ∧
      shell name = some (cString (directory ++ PortForwardHandler.sockFile))
  others : ∀ name, IsName name → ¬ TerminalServer.IsTunnelled payload.reversetunnels name →
    shell name =
      ((TerminalServer.payloadVariables payload name).map cString).or (inherited name)

def WholeNames (payload : InitialPayload) : Prop :=
  (∀ entry ∈ payload.environmentvariables, 0 ∉ entry.1) ∧
    ∀ pfsr ∈ payload.reversetunnels, ∀ name, pfsr.environmentvariable = some name → 0 ∉ name

theorem foldl_update_found {entries : List (Bytes × Bytes)} {environment : Bytes → Option Bytes}
    {name value : Bytes}
    (found : entries.foldl (fun (environment : Bytes → Option Bytes) envVar =>
      Function.update environment envVar.1 (some envVar.2)) environment name = some value) :
    (∃ entry ∈ entries, entry.1 = name) ∨ environment name = some value := by
  induction entries generalizing environment with
  | nil => exact Or.inr found
  | cons entry rest ih =>
      rcases ih found with ⟨other, member, same⟩ | earlier
      · exact Or.inl ⟨other, List.mem_cons_of_mem _ member, same⟩
      · by_cases same : name = entry.1
        · exact Or.inl ⟨entry, List.mem_cons_self, same.symm⟩
        · dsimp only at earlier
          rw [Function.update_of_ne same] at earlier
          exact Or.inr earlier

theorem payloadVariables_name {payload : InitialPayload} {name value : Bytes}
    (found : TerminalServer.payloadVariables payload name = some value) :
    ∃ entry ∈ payload.environmentvariables, entry.1 = name := by
  rcases foldl_update_found found with isEntry | impossible
  · exact isEntry
  · cases impossible

theorem Equips.holds (equips : session.Equips formats) {shell : Bytes → Option Bytes}
    (started : session.environment = some shell) :
    ∃ payload, Bound formats session.server.packets.taken payload ∧
      (WholeNames payload →
        ShellVariables payload session.server.directories session.inherited shell) := by
  obtain ⟨packet, isSent, isShell⟩ := equips.shell shell started
  obtain ⟨environmentVariables, pairs, ⟨payload, bound, surroundings, userid, groupid, made,
    opened⟩, enumerates, rfl⟩ := equips.server.sent packet isSent
  rw [startShell_packet] at isShell
  cases isShell
  refine ⟨payload, bound, ?_⟩
  rintro ⟨wholeEntries, wholeTunnels⟩
  obtain ⟨tunnelled, others⟩ := TerminalServer.openTunnels_variables opened
  have whole : ∀ name value, environmentVariables name = some value → 0 ∉ name := by
    intro name value found
    by_cases isTunnelled : TerminalServer.IsTunnelled payload.reversetunnels name
    · obtain ⟨pfsr, member, isName⟩ := isTunnelled
      exact wholeTunnels pfsr member name isName
    · rw [others name isTunnelled] at found
      obtain ⟨entry, member, same⟩ := payloadVariables_name found
      exact same ▸ wholeEntries entry member
  constructor
  · intro name index isName isLast
    obtain ⟨directory, isMade, path⟩ := tunnelled name index isLast
    rw [Nat.zero_add] at isMade
    refine ⟨directory, ?_, ?_⟩
    · rw [made]
      exact isMade
    · rw [setVariables_enumerated enumerates whole isName, path]
      rfl
  · intro name isName notTunnelled
    rw [setVariables_enumerated enumerates whole isName, others name notTunnelled]

end TerminalSession

namespace TerminalSession

def samplePayload (jumphost : Bool) : InitialPayload :=
  { jumphost := jumphost
    reversetunnels :=
      [{ source := none
         destination := { name := none, port := some 80 }
         environmentvariable := some [83] }]
    environmentvariables := [([65], [98])] }

def sampleFormat : PayloadFormat where
  serialize payload := [8, if payload.jumphost then 1 else 0]
  parse bytes :=
    if bytes = [8, 1] then some (samplePayload true)
    else if bytes = [8, 0] then some (samplePayload false)
    else none
  parse_serialize := by
    intro bytes payload jumphost parsed
    have only : payload = samplePayload payload.jumphost := by
      split at parsed
      · cases parsed
        rfl
      · split at parsed
        · cases parsed
          rfl
        · cases parsed
    rw [only]
    cases jumphost with
    | false => rfl
    | true => rfl

def sampleSurroundings (_ : Nat) : RequestSurroundings :=
  { network := { portServerSockets := fun _ => none }
    kernel := TunnelServer.grantingKernel }

def samplePath : Bytes := [47] ++ PortForwardHandler.sockFile

def samplePairs : List (Bytes × Bytes) := [([65], [98]), ([83], samplePath)]

def sampleInherited (name : Bytes) : Option Bytes := if name = [72] then some [47] else none

def sampleVariables : Bytes → Option Bytes :=
  Function.update (Function.update (fun _ => none) [65] (some [98])) [83] (some samplePath)

theorem sampleTunnels_opened :
    TerminalServer.openTunnels sampleSurroundings 0 0 (samplePayload false).reversetunnels 0
      { pipeServerSockets := fun _ => none } []
      (TerminalServer.payloadVariables (samplePayload false)) =
        .ok (.opened sampleVariables) := rfl

theorem sampleVariables_enumerates : Enumerates sampleVariables samplePairs := by
  refine ⟨by decide, ?_⟩
  intro name value
  by_cases isTunnel : name = [83]
  · subst isTunnel
    simp [sampleVariables, samplePairs, eq_comm]
  · by_cases isClients : name = [65]
    · subst isClients
      simp [sampleVariables, samplePairs, eq_comm]
    · simp [sampleVariables, samplePairs, isTunnel, isClients]

/-- `TERMINAL_INIT` with both variables. -/
def sampleInit : PacketPipe :=
  (PacketPipe.empty.writePacket (termInitPacket (.ofPairs samplePairs))).write 27

theorem exists_equipped :
    ∃ session : TerminalSession oneKeyCarrier Forwarder.idle,
      (terminalSessionSystem oneKeyCarrier Forwarder.idle oneKeyOptions sampleFormat).Reachable
        session ∧
      session.environment = some (setVariables sampleInherited (.ofPairs samplePairs)) ∧
      session.server.directories = (fun _ => some [47]) ∧ session.inherited = sampleInherited := by
  have fits : PacketPipe.Fits (termInitPacket (.ofPairs samplePairs)) := by
    unfold PacketPipe.Fits
    decide
  have written : sampleInit.outgoing = [] := by decide +kernel
  have asked : 8 ≤ sampleInit.asks ∧ 19 ≤ (sampleInit.read 8).asks := by decide +kernel
  have arrived : 8 ≤ sampleInit.inFlight.length ∧ 19 ≤ (sampleInit.read 8).inFlight.length := by
    decide +kernel
  have waits : sampleInit.readResult 8 = .waits := by decide +kernel
  have arrives : (sampleInit.read 8).readResult 19 =
      .packet (termInitPacket (.ofPairs samplePairs)) := by decide +kernel
  have quiet : startShell sampleInherited (sampleInit.readResult 8) = none := by
    rw [waits]
    rfl
  have isStarted : startShell sampleInherited ((sampleInit.read 8).readResult 19) =
      some (setVariables sampleInherited (.ofPairs samplePairs)) := by
    rw [arrives, startShell_packet]
  have start : (terminalSessionSystem oneKeyCarrier Forwarder.idle oneKeyOptions
      sampleFormat).Reachable _ :=
    .start ⟨Session.initial Key.zero, (), (), 0, .unset, sampleInherited, _, rfl, trivial, trivial,
      ⟨false, 0, rfl⟩, rfl⟩
  obtain ⟨wrote, opened, writes, reads, calm, accepted⟩ :=
    (Session.initial_calm Key.zero).exchange SecretBox.nullCipher Protobuf.standard .client
      (Packet.plain INITIAL_PAYLOAD [8, 0]) rfl (by decide) (fun _ => Nat.le_refl 0) (by decide)
  obtain ⟨wroteBack, _, writesBack, _, _, _⟩ :=
    calm.exchange SecretBox.nullCipher Protobuf.standard .server (responsePacket none) rfl
      (by decide) accepted (by decide)
  have sent := start.next (.client (.writePacket (.writes rfl rfl)) writes)
  have received := sent.next (.server (.payload rfl rfl) reads)
  have bound := received.next (.serverAlone
    (@TerminalServerRun.Step.tunnels _ _ _ (samplePayload false) sampleSurroundings 0 0 rfl rfl))
  rw [sampleTunnels_opened] at bound
  have responded := bound.next (.server (.writePacket (.writes rfl rfl)) writesBack)
  have announces := responded.next
    (.announce (.announces rfl rfl sampleVariables_enumerates) fits)
  have announcing := announces.next (@Step.announces _ _ _ _ _ 27 rfl)
  have announced := announcing.next (.announced (.announced rfl) written)
  have sized := announced.next
    (@Step.readsInit _ _ _ _ _ 8 rfl (by decide) asked.1 arrived.1)
  have started := sized.next
    (@Step.readsInit _ _ _ _ _ 19 quiet (by decide) asked.2 arrived.2)
  exact ⟨_, started, isStarted, rfl, rfl⟩

end TerminalSession

end EternalTerminal
