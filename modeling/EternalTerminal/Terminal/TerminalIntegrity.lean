/-
A terminal session keeps what is typed and what is shown, through every reconnection.
-/

import EternalTerminal.Terminal.JumpCarrier
import EternalTerminal.Terminal.TerminalDelivery
import EternalTerminal.Terminal.TerminalStalls

namespace EternalTerminal

open Library

namespace TerminalSession

variable {carrier : Carrier} {forwarder : Forwarder} {options : ClientOptions}
  {formats : PayloadFormat} {session before : TerminalSession carrier forwarder}

/-- The pty has got what was typed, from its beginning; what it has not got is on the way unless
it was lost. -/
structure InputIntact (session : TerminalSession carrier forwarder) : Prop where
  ordered : session.link.handler.pty <+: session.client.typed
  whole : ¬ session.InputLost →
    session.link.handler.pty ++
      (session.link.handler.pendingInput ++ inputOf session.messagesOnTheWay) =
        session.client.typed

structure OutputIntact (session : TerminalSession carrier forwarder) : Prop where
  ordered : session.client.printed <+: session.shown
  whole : ¬ session.OutputLost →
    session.client.printed ++ session.outputOnTheWay = session.shown

theorem Sound.inputIntact (sound : session.Sound options) : session.InputIntact := by
  have input := sound.input
  constructor
  · exact (List.prefix_append _ _).trans input.ordered
  · intro kept
    rw [← List.append_assoc]
    exact input.whole kept

theorem Step.clientAlone {client : TerminalClientRun forwarder.State}
    (step : TerminalClientRun.Step options forwarder before.client .silent client) :
    Step options formats before .client { before with client := client } :=
  .client step rfl

theorem Step.serverAlone {server : TerminalServerRun forwarder.State}
    (step : TerminalServerRun.Step formats forwarder before.server (.connection .silent) server) :
    Step options formats before .server { before with server := server } :=
  .server step rfl

theorem startShell_packet (inherited : Bytes → Option Bytes) (message : TermInit) :
    startShell inherited (.packet (termInitPacket message)) =
      some (setVariables inherited message) := by
  have header : (termInitPacket message).header = TERMINAL_INIT := rfl
  rw [startShell, if_pos header]
  show (termInit.parse (termInit.serialize message)).map (setVariables inherited) = _
  rw [termInit.parse_serialize]
  rfl

end TerminalSession

/-- Keystrokes arrive once, in order and without a gap, as long as no `write` is made again of
what is partly out. -/
theorem terminal_input_intact (carrier : Carrier) (forwarder : Forwarder)
    (options : ClientOptions) (formats : PayloadFormat)
    {session : TerminalSession carrier forwarder}
    (reached : (stallingTerminalSystem carrier forwarder options formats).ReachableBy
      TerminalSession.sendsOnce session) : session.InputIntact :=
  (TerminalSession.sound_of_reachable
    (TerminalSession.reachable_of_sendsOnce reached)).inputIntact

/-- So does the output of the terminal. -/
theorem terminal_output_intact (carrier : Carrier) (forwarder : Forwarder)
    (options : ClientOptions) (formats : PayloadFormat)
    {session : TerminalSession carrier forwarder}
    (reached : (stallingTerminalSystem carrier forwarder options formats).ReachableBy
      TerminalSession.sendsOnce session)
    (hasConsole : options.hasConsole = true) : session.OutputIntact := by
  have sound := TerminalSession.sound_of_reachable
    (TerminalSession.reachable_of_sendsOnce reached)
  have output := sound.outputConveyed hasConsole
  exact ⟨output.ordered, output.whole⟩

theorem jump_streams_intact {box : SecretBox} {proto : Protobuf} {payloads formats : PayloadFormat}
    {key : Key} {forwarder : Forwarder} {options : ClientOptions}
    {session : TerminalSession (.jumping box proto payloads key) forwarder}
    (reached : (stallingTerminalSystem (.jumping box proto payloads key) forwarder options
      formats).ReachableBy TerminalSession.sendsOnce session) :
    session.InputIntact ∧ (options.hasConsole = true → session.OutputIntact) := by
  have sound := TerminalSession.sound_of_reachable
    (TerminalSession.reachable_of_sendsOnce reached)
  refine ⟨sound.inputIntact, fun hasConsole => ?_⟩
  have output := sound.outputConveyed hasConsole
  exact ⟨output.ordered, output.whole⟩

/-! ### One key and its echo -/

namespace TerminalSession

section

variable {forwarder : Forwarder}

def oneKeyOptions : ClientOptions :=
  { payload := [8, 0]
    command := []
    noexit := false
    hasConsole := true
    keepaliveDuration := 5 }

abbrev oneKeyCarrier : Carrier :=
  Carrier.direct SecretBox.nullCipher Protobuf.standard Key.zero

abbrev oneKeySystem (forwarder : Forwarder) :
    TransitionSystem (TerminalSession oneKeyCarrier forwarder) Event :=
  terminalSessionSystem oneKeyCarrier forwarder oneKeyOptions JumpSession.flagFormat

def echoOnly : SelectAnswers :=
  { routerWritable := true
    masterReady := true
    routerReady := false
    currentSecond := 0
    read := .data [97]
    writeAll := .ok () }

/-- `TERMINAL_INIT` without variables. -/
def initWritten : PacketPipe :=
  (PacketPipe.empty.writePacket (termInitPacket (.ofPairs []))).write 10

section

variable (between : Session) (state : forwarder.State)

def beforeKey : TerminalSession oneKeyCarrier forwarder :=
  { between := between
    client :=
      { TerminalClientRun.start oneKeyOptions state 0 .unset with
        packets :=
          { writing := []
            dropping := false
            given := [Packet.plain INITIAL_PAYLOAD [8, 0]]
            taken := [responsePacket none] }
        turn := .looping
        keepaliveTime := 5 }
    server :=
      { TerminalServerRun.start state with
        packets :=
          { writing := []
            dropping := false
            given := [responsePacket none]
            taken := [Packet.plain INITIAL_PAYLOAD [8, 0]] }
        turn := .announcing fun _ => none
        directories := fun _ => TunnelServer.grantingKernel.mkdtemp }
    init := PacketPipe.empty
    inherited := fun _ => none
    environment := none
    link :=
      { handler := .start false 0
        sent := []
        outgoing := []
        pipe := []
        aborted := false }
    staged := []
    flushed := []
    toServer := []
    shown := []
    sentOn := []
    cut := false }

def shellStarted : TerminalSession oneKeyCarrier forwarder :=
  { beforeKey between state with
    server := (beforeKey between state).server.goto .looping
    init := (initWritten.read 8).read 2
    environment := some (setVariables (fun _ => none) (.ofPairs [])) }

def afterKey : TerminalSession oneKeyCarrier forwarder :=
  { shellStarted between state with
    client :=
      { (beforeKey between state).client with
        packets :=
          { (beforeKey between state).client.packets with
            given := [Packet.plain INITIAL_PAYLOAD [8, 0], terminalPacket [97]] }
        turn := .typed
        typed := [97] }
    server :=
      { (beforeKey between state).server with
        packets :=
          { (beforeKey between state).server.packets with
            taken := [Packet.plain INITIAL_PAYLOAD [8, 0], terminalPacket [97]] }
        turn := .connection }
    link := oneKeyDrained }

def afterEcho : TerminalSession oneKeyCarrier forwarder :=
  { afterKey between state with
    client :=
      { (afterKey between state).client with
        packets :=
          { (afterKey between state).client.packets with
            taken := [responsePacket none, terminalPacket [97]] }
        turn := .keepalive
        printed := [97] }
    server :=
      { (afterKey between state).server with
        packets :=
          { (afterKey between state).server.packets with
            given := [responsePacket none, terminalPacket [97]] }
        turn := .forwards
        passed := [97] }
    link := { oneKeyDrained with handler := oneKeyDrained.handler.iterate echoOnly }
    flushed := [97]
    shown := [97]
    sentOn := [97] }

end

variable {state : forwarder.State}

theorem beforeKey_reachable (initial : forwarder.initial state) :
    ∃ between : Session, between.Calm ∧ (∀ side, (between.endpoint side).accepted.length ≤ 2) ∧
      (oneKeySystem forwarder).Reachable (beforeKey between state) := by
  have start : (oneKeySystem forwarder).Reachable _ :=
    .start ⟨Session.initial Key.zero, state, state, 0, .unset, fun _ => none, _, rfl, initial,
      initial, ⟨false, 0, rfl⟩, rfl⟩
  obtain ⟨wrote, opened, writes, reads, calm, accepted⟩ :=
    (Session.initial_calm Key.zero).exchange SecretBox.nullCipher Protobuf.standard .client
      (Packet.plain INITIAL_PAYLOAD [8, 0]) rfl (by decide) (fun _ => Nat.le_refl 0) (by decide)
  have sent := start.next (.client (.writePacket (.writes rfl rfl)) writes)
  have received := sent.next (.server (.payload rfl rfl) reads)
  let surroundings : Nat → RequestSurroundings := fun _ =>
    { network := { portServerSockets := fun _ => none }
      kernel := TunnelServer.grantingKernel }
  have bound := received.next (.serverAlone
    (@TerminalServerRun.Step.tunnels _ _ _ (JumpSession.flagOnly false) surroundings 0 0 rfl rfl))
  obtain ⟨wrote, answered, writes, reads, calm, accepted⟩ :=
    calm.exchange SecretBox.nullCipher Protobuf.standard .server (responsePacket none) rfl
      (by decide) accepted (by decide)
  have responded := bound.next (.server (.writePacket (.writes rfl rfl)) writes)
  have started := responded.next (.client (.response rfl rfl) reads)
  exact ⟨answered, calm, accepted, started⟩

theorem shellStarted_reachable {between : Session}
    (reached : (oneKeySystem forwarder).Reachable (beforeKey between state)) :
    (oneKeySystem forwarder).Reachable (shellStarted between state) := by
  have enumerates : Enumerates (fun _ => none) [] := ⟨.nil, fun _ _ => ⟨nofun, nofun⟩⟩
  have fits : PacketPipe.Fits (termInitPacket (.ofPairs [])) := by
    unfold PacketPipe.Fits
    decide
  have written : initWritten.outgoing = [] := by decide +kernel
  have sizeAsked : 8 ≤ initWritten.asks := by decide +kernel
  have sizeArrived : 8 ≤ initWritten.inFlight.length := by decide +kernel
  have restAsked : 2 ≤ (initWritten.read 8).asks := by decide +kernel
  have restArrived : 2 ≤ (initWritten.read 8).inFlight.length := by decide +kernel
  have waits : initWritten.readResult 8 = .waits := by decide +kernel
  have arrives : (initWritten.read 8).readResult 2 = .packet (termInitPacket (.ofPairs [])) := by
    decide +kernel
  have announces := reached.next (.announce (.announces rfl rfl enumerates) fits)
  have announcing := announces.next (@Step.announces _ _ _ _ _ 10 rfl)
  have announced := announcing.next (.announced (.announced rfl) written)
  have sized := announced.next
    (@Step.readsInit _ _ _ _ _ 8 rfl (by decide) sizeAsked sizeArrived)
  change (oneKeySystem forwarder).Reachable
    { shellStarted between state with
      init := initWritten.read 8
      environment := startShell (fun _ => none) (initWritten.readResult 8) } at sized
  rw [waits] at sized
  have started := sized.next
    (@Step.readsInit _ _ _ _ _ 2 rfl (by decide) restAsked restArrived)
  change (oneKeySystem forwarder).Reachable
    { shellStarted between state with
      environment := startShell (fun _ => none) ((initWritten.read 8).readResult 2) } at started
  rw [arrives, startShell_packet] at started
  exact started

theorem afterKey_reachable (initial : forwarder.initial state)
    (updates : forwarder.update state [] state) :
    ∃ between : Session, between.Calm ∧ (∀ side, (between.endpoint side).accepted.length ≤ 3) ∧
      (oneKeySystem forwarder).Reachable (afterKey between state) := by
  obtain ⟨between, calm, accepted, reached⟩ := beforeKey_reachable initial
  have started := shellStarted_reachable reached
  obtain ⟨wrote, after, writes, reads, calm, accepted⟩ :=
    calm.exchange SecretBox.nullCipher Protobuf.standard .client (terminalPacket [97]) rfl
      (by decide) accepted (by decide)
  have some : ([97] : Bytes) ≠ [] := by decide
  have entered := started.next (.clientAlone (.enters rfl rfl rfl rfl))
  have typed := entered.next (.clientAlone (.consoleData rfl rfl rfl some (by decide)))
  have sent := typed.next (.client (.writePacket (.writes rfl rfl)) writes)
  -- the server's turn
  have selected := sent.next (.select (@TerminalServerRun.Step.select _ _ _ false rfl rfl) nofun)
  have forwarded := selected.next (.serverAlone (.update rfl rfl updates))
  have received := forwarded.next (.server (.packet rfl rfl rfl) reads)
  have fits : oneKey.Fits := by
    unfold TerminalMessage.Fits
    decide
  have whole : oneKey.frame.drop 12 = [] := by decide +kernel
  have passing := received.next
    (.pass (@TerminalServerRun.Step.pass _ _ _ oneKey rfl) fits (.forward rfl rfl fits))
  have written := passing.next (.passes rfl (@TerminalLink.Step.write _ 12))
  have passed := written.next (.passed (.passed rfl) whole)
  -- the handler's
  have sizeAsked : 8 ≤ oneKeyTyped.handler.asks := by decide
  have sizeArrived : 8 ≤ oneKeyTyped.pipe.length := by decide
  have restAsked : 3 ≤ (oneKeyTyped.handler.readProto (littleEndian 8 3)).asks := by
    decide +kernel
  have restArrived : 3 ≤ (oneKeyTyped.pipe.drop 8).length := by decide +kernel
  have draining : oneKeyRead.handler.phase = .draining := by decide +kernel
  have iterated := passed.next (.iterates rfl rfl (@TerminalLink.Step.iterate _ routerOnly rfl) rfl)
  have typeRead := iterated.next
    (.handler rfl rfl (by trivial) (@TerminalLink.Step.readType _ TERMINAL_BUFFER _ rfl rfl))
  have sized := typeRead.next
    (.handler rfl rfl (by trivial)
      (@TerminalLink.Step.readProto _ 8 (by decide) sizeAsked sizeArrived))
  have read := sized.next
    (.handler rfl rfl (by trivial)
      (@TerminalLink.Step.readProto _ 3 (by decide) restAsked restArrived))
  have drained := read.next
    (.handler rfl rfl (by trivial) (@TerminalLink.Step.drain _ (.wrote 1) draining))
  exact ⟨after, calm, accepted, drained⟩

theorem afterEcho_reachable (initial : forwarder.initial state)
    (updates : forwarder.update state [] state) :
    ∃ between : Session, (oneKeySystem forwarder).Reachable (afterEcho between state) := by
  obtain ⟨between, calm, accepted, reached⟩ := afterKey_reachable initial updates
  obtain ⟨wrote, after, writes, reads, _, _⟩ :=
    calm.exchange SecretBox.nullCipher Protobuf.standard .server (terminalPacket [97]) rfl
      (by decide) accepted (by decide)
  have some : ([97] : Bytes) ≠ [] := by decide
  have looping : oneKeyDrained.handler.phase = .looping := by decide +kernel
  have echoed : oneKeyDrained.handler.outputRead echoOnly = [97] := by decide +kernel
  have writesEcho : oneKeyDrained.handler.Writes echoOnly [97] := echoed.symm
  have absorbs : oneKeyCarrier.canBufferWrite between .server (2 * BUF_SIZE) = true := by
    have live := (calm.idle .server).live.writer
    show ((between.endpoint .server).connection.shuttingDown ||
      (between.endpoint .server).connection.writer.hasBufferCapacity _) = true
    rw [BackedWriter.hasBufferCapacity, live]
    exact Bool.or_true _
  have iterated := reached.next
    (.iterates rfl rfl (@TerminalLink.Step.iterate _ echoOnly looping) writesEcho)
  change (oneKeySystem forwarder).Reachable
    { afterKey between state with
      link := { oneKeyDrained with handler := oneKeyDrained.handler.iterate echoOnly }
      staged := [97]
      shown := oneKeyDrained.handler.outputRead echoOnly
      sentOn := [97]
      cut := [97] != oneKeyDrained.handler.outputRead echoOnly } at iterated
  rw [echoed] at iterated
  have flushed := iterated.next (@Step.flush _ _ _ _ _ 1)
  -- the server's turn
  have again := flushed.next (.serverAlone (.noData rfl rfl))
  have selected := again.next
    (.select (@TerminalServerRun.Step.select _ _ _ true rfl rfl) fun _ => absorbs)
  have output := selected.next
    (@Step.output _ _ _ _ _ [97] [] _ rfl (.terminalData rfl rfl some (by decide)))
  have sent := output.next (.server (.writePacket (.writes rfl rfl)) writes)
  -- the client's
  have typed := sent.next (.clientAlone (.typed rfl rfl))
  have received := typed.next (.client (.packet rfl rfl rfl) reads)
  have none := received.next (.clientAlone (.noData rfl rfl))
  have printed := none.next (.clientAlone (.prints rfl rfl))
  exact ⟨after, printed⟩

end

end TerminalSession

def Forwarder.idle : Forwarder where
  State := Unit
  initial _ := True
  update _ packets _ := packets = []
  handlePacket _ _ packets _ := packets = []
  update_forwards := by
    intro before packets after nothing packet member
    rw [nothing] at member
    cases member
  handlePacket_forwards := by
    intro before received packets after nothing packet member
    rw [nothing] at member
    cases member

open TerminalSession in
theorem terminal_input_intact_one_key :
    ∃ session : TerminalSession oneKeyCarrier Forwarder.idle,
      (oneKeySystem Forwarder.idle).Reachable session ∧ session.client.typed = [97] ∧
        session.link.handler.pty = [97] ∧ ¬ session.InputLost ∧ session.InputIntact := by
  obtain ⟨between, _, _, reached⟩ := @afterKey_reachable Forwarder.idle () trivial rfl
  have pty : oneKeyDrained.handler.pty = [97] := by decide +kernel
  have kept : ¬ (@afterKey Forwarder.idle between ()).InputLost := by
    rintro (dropping | aborted)
    · cases dropping
    · cases aborted
  exact ⟨afterKey between (), reached, rfl, pty, kept,
    terminal_input_intact oneKeyCarrier Forwarder.idle oneKeyOptions JumpSession.flagFormat
      (sendsOnce_of_reachable reached)⟩

open TerminalSession in
theorem terminal_output_intact_one_key :
    ∃ session : TerminalSession oneKeyCarrier Forwarder.idle,
      (oneKeySystem Forwarder.idle).Reachable session ∧ session.shown = [97] ∧
        session.client.printed = [97] ∧ session.OutputIntact := by
  obtain ⟨between, reached⟩ := @afterEcho_reachable Forwarder.idle () trivial rfl
  exact ⟨afterEcho between (), reached, rfl, rfl,
    terminal_output_intact oneKeyCarrier Forwarder.idle oneKeyOptions JumpSession.flagFormat
      (sendsOnce_of_reachable reached) rfl⟩

end EternalTerminal
