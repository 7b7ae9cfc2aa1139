/-
What the two threads of a terminal session make of the packets that they write and read.
-/

import EternalTerminal.Library.Conveyor
import EternalTerminal.Terminal.TerminalSession

namespace EternalTerminal

open Library

/-! ### What packets mean -/

def TerminalMessage.info? : TerminalMessage → Option TerminalInfo
  | .buffer _ => none
  | .info ti => some ti

def terminalMessages (packets : List Packet) : List TerminalMessage :=
  packets.filterMap Packet.terminalMessage?

def inputOf (messages : List TerminalMessage) : Bytes := messages.flatMap TerminalMessage.input

def infosOf (messages : List TerminalMessage) : List TerminalInfo :=
  messages.filterMap TerminalMessage.info?

def keepalives (packets : List Packet) : Nat :=
  packets.countP fun packet => packet.header = KEEP_ALIVE

section

variable (packets more : List Packet) (packet : Packet)

@[simp] theorem terminalMessages_append :
    terminalMessages (packets ++ more) = terminalMessages packets ++ terminalMessages more :=
  List.filterMap_append

theorem terminalMessages_singleton :
    terminalMessages [packet] = packet.terminalMessage?.toList := by
  unfold terminalMessages
  cases message : packet.terminalMessage? with
  | none => exact List.filterMap_cons_none message
  | some found => exact List.filterMap_cons_some message

@[simp] theorem inputOf_append (messages others : List TerminalMessage) :
    inputOf (messages ++ others) = inputOf messages ++ inputOf others :=
  List.flatMap_append

@[simp] theorem infosOf_append (messages others : List TerminalMessage) :
    infosOf (messages ++ others) = infosOf messages ++ infosOf others :=
  List.filterMap_append

@[simp] theorem keepalives_append :
    keepalives (packets ++ more) = keepalives packets + keepalives more :=
  List.countP_append

end

theorem terminalMessage?_plain (packetType : UInt8) (payload : Bytes) :
    (Packet.plain packetType payload).terminalMessage? =
      if packetType = TERMINAL_BUFFER then (terminalBuffer.parse payload).map .buffer
      else if packetType = TERMINAL_INFO then (terminalInfo.parse payload).map .info
      else none := rfl

theorem terminalMessage?_none {packet : Packet} (notBuffer : packet.header ≠ TERMINAL_BUFFER)
    (notInfo : packet.header ≠ TERMINAL_INFO) : packet.terminalMessage? = none := by
  rw [Packet.terminalMessage?, if_neg notBuffer, if_neg notInfo]

theorem terminalMessages_terminalPacket (bytes : Bytes) :
    terminalMessages [terminalPacket bytes] = [.buffer { buffer := some bytes }] := by
  have parsed := terminalBuffer.parse_serialize { buffer := some bytes }
  rw [terminalMessages_singleton, terminalPacket, terminalMessage?_plain, if_pos rfl, parsed]
  rfl

theorem terminalMessages_infoPacket (ti : TerminalInfo) :
    terminalMessages [infoPacket ti] = [.info ti] := by
  have parsed := terminalInfo.parse_serialize ti
  rw [terminalMessages_singleton, infoPacket, terminalMessage?_plain, if_neg (by decide),
    if_pos rfl, parsed]
  rfl

theorem terminalMessage?_isForward {packet : Packet} (isForward : packet.isForward = true) :
    packet.terminalMessage? = none := by
  apply terminalMessage?_none
  · intro isBuffer
    simp only [Packet.isForward, isBuffer] at isForward
    exact absurd isForward (by decide)
  · intro isInfo
    simp only [Packet.isForward, isInfo] at isForward
    exact absurd isForward (by decide)

theorem terminalMessages_forwards {packets : List Packet}
    (forwards : ∀ packet ∈ packets, packet.isForward = true) :
    terminalMessages packets = [] := by
  apply List.filterMap_eq_nil_iff.mpr
  intro packet member
  exact terminalMessage?_isForward (forwards packet member)

theorem header_of_isForward {packet : Packet} (isForward : packet.isForward = true) :
    packet.header ≠ KEEP_ALIVE := by
  intro isKeepalive
  simp only [Packet.isForward, isKeepalive] at isForward
  exact absurd isForward (by decide)

theorem keepalives_forwards {packets : List Packet}
    (forwards : ∀ packet ∈ packets, packet.isForward = true) : keepalives packets = 0 := by
  apply List.countP_eq_zero.mpr
  intro packet member isKeepalive
  exact header_of_isForward (forwards packet member) (of_decide_eq_true isKeepalive)

theorem terminalMessage?_handshake {packet : Packet} (special : packet.isOrdinary = false) :
    packet.terminalMessage? = none := by
  have header : packet.header = INITIAL_PAYLOAD ∨ packet.header = INITIAL_RESPONSE := by
    by_contra neither
    simp [Packet.isOrdinary, not_or.mp neither] at special
  rcases header with isPayload | isResponse
  · exact terminalMessage?_none (by rw [isPayload]; decide) (by rw [isPayload]; decide)
  · exact terminalMessage?_none (by rw [isResponse]; decide) (by rw [isResponse]; decide)

theorem terminalMessages_ordinary (packets : List Packet) :
    terminalMessages (packets.filter Packet.isOrdinary) = terminalMessages packets :=
  filter_filterMap (fun _ => terminalMessage?_handshake) packets

/-! ### What a thread has to say -/

/-- `produced` are all the packets that the thread has come to write. -/
abbrev Conversation.Produces (packets : Conversation) (produced : List Packet) : Prop :=
  Conveys (packets.dropping = true) produced packets.writing packets.given

namespace Conversation

variable {before after : Conversation} {produced : List Packet}

theorem Step.produces {call : PacketCall} (step : before.Step call after)
    (produces : before.Produces produced) : after.Produces produced := by
  cases step with
  | @writes packet rest writing going =>
      rw [Produces, writing] at produces
      have gives : Conveys _ produced ([packet] ++ rest) before.given := produces
      exact gives.gives (by simp [going])
  | skips _ _ => exact produces
  | drops _ => exact produces.loses rfl _

theorem Step.taken {call : PacketCall} (step : before.Step call after) :
    after.taken = before.taken := by
  cases step with
  | writes _ _ | skips _ _ | drops _ => rfl

theorem Produces.writes (produces : before.Produces produced) (idle : before.writing = [])
    (packets : List Packet) : (before.writes packets).Produces (produced ++ packets) := by
  have more := produces.takes packets
  rw [idle] at more
  exact more

end Conversation

/-! ### The client's side -/

/-- Everything typed and every new size is in a packet that the client has come to write, and
nothing else is; while it waits for a keepalive one of them has not come back. -/
structure ClientAccount {State : Type} (client : TerminalClientRun State)
    (produced : List Packet) : Prop where
  produces : client.packets.Produces produced
  typed : inputOf (terminalMessages produced) = client.typed
  windows : infosOf (terminalMessages produced) = client.windows
  waiting : client.waitingOnKeepalive = true →
    keepalives client.packets.taken < keepalives produced ∧
      ∀ left, client.turn ≠ .awaitingResponse left

namespace ClientAccount

variable {State : Type} {client after : TerminalClientRun State} {produced : List Packet}

theorem keeps (account : ClientAccount client produced) (packets : after.packets = client.packets)
    (typed : after.typed = client.typed) (windows : after.windows = client.windows)
    (waiting : after.waitingOnKeepalive = true → client.waitingOnKeepalive = true ∧
      ∀ left, after.turn ≠ .awaitingResponse left) :
    ClientAccount after produced := by
  constructor
  · rw [packets]
    exact account.produces
  · rw [typed]
    exact account.typed
  · rw [windows]
    exact account.windows
  · intro waits
    obtain ⟨wasWaiting, looping⟩ := waiting waits
    rw [packets]
    exact ⟨(account.waiting wasWaiting).1, looping⟩

theorem adds (account : ClientAccount client produced) {packets : List Packet}
    (idle : client.packets.writing = []) (isWriting : after.packets = client.packets.writes packets)
    (typed : after.typed = client.typed ++ inputOf (terminalMessages packets))
    (windows : after.windows = client.windows ++ infosOf (terminalMessages packets))
    (waiting : after.waitingOnKeepalive = true →
      keepalives client.packets.taken < keepalives produced + keepalives packets ∧
        ∀ left, after.turn ≠ .awaitingResponse left) :
    ClientAccount after (produced ++ packets) := by
  constructor
  · rw [isWriting]
    exact account.produces.writes idle packets
  · rw [typed, terminalMessages_append, inputOf_append, account.typed]
  · rw [windows, terminalMessages_append, infosOf_append, account.windows]
  · rw [isWriting, keepalives_append]
    exact waiting

theorem reads (account : ClientAccount client produced) {packet : Packet}
    (packets : after.packets = client.packets.reads packet)
    (typed : after.typed = client.typed) (windows : after.windows = client.windows)
    (waiting : after.waitingOnKeepalive = true →
      (client.waitingOnKeepalive = true ∧ packet.header ≠ KEEP_ALIVE) ∧
        ∀ left, after.turn ≠ .awaitingResponse left) :
    ClientAccount after produced := by
  constructor
  · rw [packets]
    exact account.produces
  · rw [typed]
    exact account.typed
  · rw [windows]
    exact account.windows
  · intro waits
    obtain ⟨⟨wasWaiting, other⟩, looping⟩ := waiting waits
    have none : keepalives [packet] = 0 := by simp [keepalives, other]
    rw [packets, Conversation.reads, keepalives_append, none]
    exact ⟨(account.waiting wasWaiting).1, looping⟩

end ClientAccount

namespace ClientOptions

variable (options : ClientOptions)

theorem terminalMessages_command :
    inputOf (terminalMessages options.commandPackets) = options.commandBytes ∧
      infosOf (terminalMessages options.commandPackets) = [] := by
  unfold commandPackets
  split
  · rename_i nothing
    rw [commandBytes, if_pos nothing]
    exact ⟨rfl, rfl⟩
  · rw [terminalMessages_terminalPacket]
    exact ⟨List.append_nil _, rfl⟩

end ClientOptions

namespace TerminalClientRun

variable {options : ClientOptions} {forwarder : Forwarder}
  {before after : TerminalClientRun forwarder.State} {produced : List Packet}

theorem run_account (account : ClientAccount before produced) (idle : before.packets.writing = []) :
    ClientAccount (before.run options) (produced ++ options.commandPackets) := by
  obtain ⟨typed, windows⟩ := options.terminalMessages_command
  refine account.adds idle rfl ?_ ?_ ?_
  · rw [typed]
    rfl
  · rw [windows, List.append_nil]
    rfl
  · exact fun waits =>
      ⟨Nat.lt_of_lt_of_le (account.waiting waits).1 (Nat.le_add_right _ _), nofun⟩

theorem takePacket_account (account : ClientAccount before produced) (packet : Packet)
    (looping : ∀ left, before.turn ≠ .awaitingResponse left) :
    ClientAccount (before.takePacket options packet) produced := by
  unfold takePacket
  dsimp only
  split
  · rename_i isBuffer
    have other : packet.header ≠ KEEP_ALIVE := by
      rw [isBuffer]
      decide
    split
    · split
      · exact account.reads rfl rfl rfl fun waits => ⟨⟨waits, other⟩, nofun⟩
      · exact account.reads rfl rfl rfl fun waits => ⟨⟨waits, other⟩, looping⟩
    · exact account.reads rfl rfl rfl fun waits => ⟨⟨waits, other⟩, looping⟩
  · split
    · exact account.reads rfl rfl rfl nofun
    · rename_i other
      exact account.reads rfl rfl rfl fun waits => ⟨⟨waits, other⟩, nofun⟩

theorem takeResponse_account (account : ClientAccount before produced)
    (idle : before.packets.writing = []) (packet : Packet) {left : Nat}
    (opening : before.turn = .awaitingResponse left) :
    ∃ more, ClientAccount (before.takeResponse options packet) (produced ++ more) := by
  have never : ¬ before.waitingOnKeepalive = true :=
    fun waits => (account.waiting waits).2 left opening
  have read : ClientAccount { before with packets := before.packets.reads packet } produced :=
    account.reads rfl rfl rfl fun waits => absurd waits never
  unfold takeResponse
  dsimp only
  split
  · exact ⟨options.commandPackets, run_account read idle⟩
  · refine ⟨[], ?_⟩
    rw [List.append_nil]
    exact read.keeps rfl rfl rfl fun waits => absurd waits never
  · refine ⟨[], ?_⟩
    rw [List.append_nil]
    exact read.keeps rfl rfl rfl fun waits => absurd waits never
  · refine ⟨[], ?_⟩
    rw [List.append_nil]
    exact read.keeps rfl rfl rfl fun waits => absurd waits never

/-- Every step of the client goes into its account.  It has not read more keepalives than it has
come to write. -/
theorem Step.account {call : PacketCall} (step : Step options forwarder before call after)
    (account : ClientAccount before produced)
    (behind : keepalives before.packets.taken ≤ keepalives produced) :
    ∃ more, ClientAccount after (produced ++ more) := by
  have nothing : ClientAccount after produced →
      ∃ more, ClientAccount after (produced ++ more) := by
    intro same
    refine ⟨[], ?_⟩
    rw [List.append_nil]
    exact same
  have goesOn : ∀ waits : before.waitingOnKeepalive = true,
      ∀ left, before.turn ≠ .awaitingResponse left := fun waits => (account.waiting waits).2
  cases step with
  | ticks _ | resizes | shutdown =>
      exact nothing (account.keeps rfl rfl rfl fun waits => ⟨waits, goesOn waits⟩)
  | writePacket step =>
      refine nothing ⟨step.produces account.produces, account.typed, account.windows, ?_⟩
      rw [step.taken]
      exact account.waiting
  | waits _ turn | noResponse _ turn =>
      exact nothing (account.keeps rfl rfl rfl fun waits => absurd turn (goesOn waits _))
  | response idle turn => exact takeResponse_account account idle _ turn
  | unanswered idle _ => exact ⟨_, run_account account idle⟩
  | consoleData idle _ _ _ _ =>
      refine ⟨_, account.adds idle rfl ?_ ?_ fun waits => ⟨?_, nofun⟩⟩
      · rw [terminalMessages_terminalPacket]
        exact congrArg _ (List.append_nil _).symm
      · rw [terminalMessages_terminalPacket]
        exact (List.append_nil _).symm
      · exact Nat.lt_of_lt_of_le (account.waiting waits).1 (Nat.le_add_right _ _)
  | @forwardPacket packet answers state idle turn isForward handles =>
      have forwards := forwarder.handlePacket_forwards _ _ _ _ handles
      have read : ClientAccount { before with packets := before.packets.reads packet } produced :=
        account.reads rfl rfl rfl fun waits =>
          ⟨⟨waits, header_of_isForward isForward⟩, goesOn waits⟩
      refine ⟨answers,
        read.adds idle rfl ?_ ?_ fun waits => ⟨?_, by simp [turn, postponeKeepalive]⟩⟩
      · rw [terminalMessages_forwards forwards]
        exact (List.append_nil _).symm
      · rw [terminalMessages_forwards forwards]
        exact (List.append_nil _).symm
      · exact Nat.lt_of_lt_of_le (read.waiting waits).1 (Nat.le_add_right _ _)
  | packet idle turn _ =>
      exact nothing (takePacket_account account _ (by simp [turn]))
  | late idle _ _ _ =>
      refine ⟨[keepalivePacket], account.adds idle rfl ?_ ?_ fun _ => ⟨?_, nofun⟩⟩
      · exact (List.append_nil _).symm
      · exact (List.append_nil _).symm
      · exact Nat.lt_succ_of_le behind
  | missed _ _ _ _ | disconnected _ _ => exact nothing (account.keeps rfl rfl rfl nofun)
  | newWindow idle _ _ =>
      refine ⟨_, account.adds idle rfl ?_ ?_ fun waits => ⟨?_, nofun⟩⟩
      · rw [terminalMessages_infoPacket]
        exact (List.append_nil _).symm
      · rw [terminalMessages_infoPacket]
        rfl
      · exact Nat.lt_of_lt_of_le (account.waiting waits).1 (Nat.le_add_right _ _)
  | @update packets state idle _ _ updates =>
      have forwards := forwarder.update_forwards _ _ _ updates
      refine ⟨packets, account.adds idle rfl ?_ ?_ fun waits => ⟨?_, nofun⟩⟩
      · rw [terminalMessages_forwards forwards]
        exact (List.append_nil _).symm
      · rw [terminalMessages_forwards forwards]
        exact (List.append_nil _).symm
      · exact Nat.lt_of_lt_of_le (account.waiting waits).1 (Nat.le_add_right _ _)
  | leaves _ _ | enters _ _ _ _ | consoleIdle _ _ | consoleEnds _ _ _ | typed _ _ | noPacket _ _
  | noData _ _ | prints _ _ | printFails _ _ _ | notLate _ _ _ | sameWindow _ _ _
  | nothingToForward _ _ _ | forwarded _ _ =>
      exact nothing (account.keeps rfl rfl rfl fun waits => ⟨waits, nofun⟩)

end TerminalClientRun

/-! ### What the client prints -/

/-- A `console->write` has failed, or a packet has ended the process. -/
def TerminalClientRun.OutputLost {State : Type} (client : TerminalClientRun State) : Prop :=
  client.printFailed = true ∨ client.turn = .aborted

/-- The console has been given what the client has read, but for what it holds; after a failure it
is given nothing more. -/
structure ClientPrints {State : Type} (options : ClientOptions)
    (client : TerminalClientRun State) : Prop where
  printed : options.hasConsole = true →
    Conveys client.OutputLost (inputOf (terminalMessages client.packets.taken)) client.coalesced
      client.printed
  silent : options.hasConsole = false → client.printed = [] ∧ client.coalesced = []
  failed : client.printFailed = true →
    client.shuttingDown = true ∧ (client.turn = .looping ∨ client.turn = .ended) ∧
      client.packets.writing = []

namespace ClientPrints

variable {State : Type} {options : ClientOptions} {client after : TerminalClientRun State}

theorem keeps (prints : ClientPrints options client)
    (taken : terminalMessages after.packets.taken = terminalMessages client.packets.taken)
    (coalesced : after.coalesced = client.coalesced) (printed : after.printed = client.printed)
    (printFailed : after.printFailed = client.printFailed)
    (stays : client.turn = .aborted → after.turn = .aborted)
    (ended : client.printFailed = true → after.shuttingDown = true ∧
      (after.turn = .looping ∨ after.turn = .ended) ∧ after.packets.writing = []) :
    ClientPrints options after := by
  constructor
  · intro console
    rw [taken, coalesced, printed]
    refine (prints.printed console).weaken ?_
    rintro (failed | aborted)
    · exact Or.inl (printFailed.trans failed)
    · exact Or.inr (stays aborted)
  · rw [coalesced, printed]
    exact prints.silent
  · rw [printFailed]
    exact ended

/-- The thread is within an iteration, or before the loop. -/
theorem runs (prints : ClientPrints options client)
    (running : client.turn ≠ .looping ∧ client.turn ≠ .ended) : client.printFailed = false := by
  by_contra failed
  rcases (prints.failed (by simpa using failed)).2.1 with looping | ended
  · exact running.1 looping
  · exact running.2 ended

theorem goesOn (prints : ClientPrints options client)
    (running : client.turn ≠ .looping ∧ client.turn ≠ .ended ∧ client.turn ≠ .aborted)
    (taken : terminalMessages after.packets.taken = terminalMessages client.packets.taken)
    (coalesced : after.coalesced = client.coalesced) (printed : after.printed = client.printed)
    (printFailed : after.printFailed = client.printFailed) : ClientPrints options after :=
  prints.keeps taken coalesced printed printFailed (fun aborted => absurd aborted running.2.2)
    fun failed => by
      rw [prints.runs ⟨running.1, running.2.1⟩] at failed
      cases failed

end ClientPrints

theorem TerminalClient.takeResponse_other {packet : Packet}
    (other : packet.header ≠ INITIAL_RESPONSE) :
    TerminalClient.handshake.takeResponse packet = .aborted "Missing initial response!" :=
  if_pos other

namespace TerminalClientRun

variable {options : ClientOptions} {forwarder : Forwarder}
  {before after : TerminalClientRun forwarder.State}

theorem aborted_prints (prints : ClientPrints options before)
    (running : before.turn ≠ .looping ∧ before.turn ≠ .ended) (packet : Packet) :
    ClientPrints options
      ({ before with packets := before.packets.reads packet }.goto .aborted) := by
  constructor
  · intro console
    refine ⟨(prints.printed console).ordered.trans ?_, fun kept => absurd (Or.inr rfl) kept⟩
    show _ <+: inputOf (terminalMessages (before.packets.taken ++ [packet]))
    rw [terminalMessages_append, inputOf_append]
    exact List.prefix_append _ _
  · exact prints.silent
  · intro failed
    cases (prints.runs running).symm.trans failed

theorem takeResponse_prints (prints : ClientPrints options before)
    (running : before.turn ≠ .looping ∧ before.turn ≠ .ended ∧ before.turn ≠ .aborted)
    (packet : Packet) : ClientPrints options (before.takeResponse options packet) := by
  by_cases isResponse : packet.header = INITIAL_RESPONSE
  · have silent : packet.terminalMessage? = none := by
      apply terminalMessage?_handshake
      simp [Packet.isOrdinary, isResponse]
    have same : terminalMessages (before.packets.taken ++ [packet]) =
        terminalMessages before.packets.taken := by
      rw [terminalMessages_append, terminalMessages_singleton, silent]
      exact List.append_nil _
    unfold takeResponse
    dsimp only
    split
    · exact prints.goesOn running same rfl rfl rfl
    · exact prints.goesOn running same rfl rfl rfl
    · exact prints.goesOn running same rfl rfl rfl
    · exact prints.goesOn running same rfl rfl rfl
  · rw [takeResponse, TerminalClient.takeResponse_other isResponse]
    exact aborted_prints prints ⟨running.1, running.2.1⟩ packet

theorem takePacket_prints (prints : ClientPrints options before) (turn : before.turn = .connection)
    (packet : Packet) : ClientPrints options (before.takePacket options packet) := by
  have running : before.turn ≠ .looping ∧ before.turn ≠ .ended ∧ before.turn ≠ .aborted := by
    simp [turn]
  have others : packet.header ≠ TERMINAL_BUFFER → packet.header ≠ TERMINAL_INFO →
      terminalMessages (before.packets.taken ++ [packet]) =
        terminalMessages before.packets.taken := by
    intro notBuffer notInfo
    rw [terminalMessages_append, terminalMessages_singleton,
      terminalMessage?_none notBuffer notInfo]
    exact List.append_nil _
  unfold takePacket
  dsimp only
  split
  · rename_i isBuffer
    split
    · rename_i console
      split
      · exact aborted_prints prints ⟨running.1, running.2.1⟩ packet
      · rename_i tb parsed
        have message : packet.terminalMessage? = some (.buffer tb) := by
          rw [Packet.terminalMessage?, if_pos isBuffer, parsed]
          rfl
        have input : inputOf (terminalMessages (before.packets.taken ++ [packet])) =
            inputOf (terminalMessages before.packets.taken) ++ tb.buffer.getD [] := by
          rw [terminalMessages_append, terminalMessages_singleton, message, inputOf_append]
          exact congrArg _ (List.append_nil _)
        constructor
        · intro _
          show Conveys _ (inputOf (terminalMessages (before.packets.taken ++ [packet]))) _ _
          rw [input]
          exact (prints.printed console).takes _
        · intro noConsole
          cases console.symm.trans noConsole
        · intro failed
          cases (prints.runs ⟨running.1, running.2.1⟩).symm.trans failed
    · rename_i noConsole
      constructor
      · exact fun console => absurd console noConsole
      · exact prints.silent
      · intro failed
        cases (prints.runs ⟨running.1, running.2.1⟩).symm.trans failed
  · rename_i notBuffer
    split
    · rename_i isKeepalive
      refine prints.goesOn running (others notBuffer ?_) rfl rfl rfl
      rw [isKeepalive]
      decide
    · exact aborted_prints prints ⟨running.1, running.2.1⟩ packet

theorem print_prints (prints : ClientPrints options before) (turn : before.turn = .printing) :
    ClientPrints options before.print := by
  have sound : before.printFailed = false := prints.runs (by simp [turn])
  constructor
  · intro console
    have balance := prints.printed console
    have given : Conveys before.OutputLost (inputOf (terminalMessages before.packets.taken)) []
        (before.printed ++ before.coalesced) := by
      apply Conveys.gives
      · rw [List.append_nil]
        exact balance
      · rintro (failed | aborted)
        · cases sound.symm.trans failed
        · cases turn.symm.trans aborted
    refine given.weaken ?_
    rintro (failed | aborted)
    · exact Or.inl failed
    · cases turn.symm.trans aborted
  · intro noConsole
    obtain ⟨printed, coalesced⟩ := prints.silent noConsole
    refine ⟨?_, rfl⟩
    rw [print, printed, coalesced, List.append_nil]
  · intro failed
    cases sound.symm.trans failed

theorem printFails_prints (prints : ClientPrints options before) (turn : before.turn = .printing)
    (idle : before.packets.writing = []) (count : Nat) :
    ClientPrints options (before.printFails count) := by
  have sound : before.printFailed = false := prints.runs (by simp [turn])
  constructor
  · intro console
    have balance := (prints.printed console).whole (by
      rintro (failed | aborted)
      · cases sound.symm.trans failed
      · cases turn.symm.trans aborted)
    refine ⟨?_, fun kept => absurd (Or.inl rfl) kept⟩
    show before.printed ++ before.coalesced.take count <+:
      inputOf (terminalMessages before.packets.taken)
    rw [← balance, List.prefix_append_right_inj]
    exact List.take_prefix count before.coalesced
  · intro noConsole
    obtain ⟨printed, coalesced⟩ := prints.silent noConsole
    refine ⟨?_, rfl⟩
    rw [printFails, printed, coalesced, List.take_nil, List.append_nil]
  · exact fun _ => ⟨rfl, Or.inl rfl, idle⟩

theorem Step.printing {call : PacketCall} (step : Step options forwarder before call after)
    (prints : ClientPrints options before) : ClientPrints options after := by
  cases step with
  | ticks _ | resizes => exact prints.keeps rfl rfl rfl rfl id prints.failed
  | shutdown =>
      exact prints.keeps rfl rfl rfl rfl id fun failed => ⟨rfl, (prints.failed failed).2⟩
  | @writePacket call packets step =>
      refine prints.keeps ?_ rfl rfl rfl id fun failed => ?_
      · rw [step.taken]
      · have nothing := (prints.failed failed).2.2
        cases step with
        | writes writing _ | skips writing _ | drops writing => cases nothing.symm.trans writing
  | waits _ turn | noResponse _ turn | unanswered _ turn | consoleIdle _ turn
  | consoleData _ turn _ _ _ | consoleEnds _ turn _ | typed _ turn | noPacket _ turn
  | noData _ turn | notLate _ turn _ | disconnected _ turn | late _ turn _ _ | missed _ turn _ _
  | sameWindow _ turn _ | newWindow _ turn _ | nothingToForward _ turn _ | update _ turn _ _
  | forwarded _ turn => exact prints.goesOn (by simp [turn]) rfl rfl rfl rfl
  | response _ turn => exact takeResponse_prints prints (by simp [turn]) _
  | leaves idle turn =>
      refine prints.keeps rfl rfl rfl rfl (fun aborted => ?_) fun failed => ?_
      · cases turn.symm.trans aborted
      · exact ⟨(prints.failed failed).1, Or.inr rfl, idle⟩
  | enters _ turn running _ =>
      refine prints.keeps rfl rfl rfl rfl (fun aborted => ?_) fun failed => ?_
      · cases turn.symm.trans aborted
      · cases (prints.failed failed).1.symm.trans running
  | @forwardPacket packet answers state _ turn isForward _ =>
      refine prints.goesOn (by simp [turn]) ?_ rfl rfl rfl
      show terminalMessages (before.packets.taken ++ [packet]) = _
      rw [terminalMessages_append, terminalMessages_singleton,
        terminalMessage?_isForward isForward]
      exact List.append_nil _
  | packet _ turn _ => exact takePacket_prints prints turn _
  | prints _ turn => exact print_prints prints turn
  | printFails idle turn _ => exact printFails_prints prints turn idle _

end TerminalClientRun

/-! ### The server's side -/

/-- Everything read from the terminal is in a packet that the server has come to write, and it has
not come to write more keepalives than it has read. -/
structure ServerAccount {State : Type} (server : TerminalServerRun State)
    (produced : List Packet) : Prop where
  produces : server.packets.Produces produced
  passed : inputOf (terminalMessages produced) = server.passed
  echoes : keepalives produced ≤ keepalives server.packets.taken

namespace ServerAccount

variable {State : Type} {server after : TerminalServerRun State} {produced : List Packet}

theorem keeps (account : ServerAccount server produced) (packets : after.packets = server.packets)
    (passed : after.passed = server.passed) : ServerAccount after produced := by
  constructor
  · rw [packets]
    exact account.produces
  · rw [passed]
    exact account.passed
  · rw [packets]
    exact account.echoes

theorem adds (account : ServerAccount server produced) {packets : List Packet}
    (idle : server.packets.writing = []) (isWriting : after.packets = server.packets.writes packets)
    (passed : after.passed = server.passed ++ inputOf (terminalMessages packets))
    (echoes : keepalives produced + keepalives packets ≤ keepalives server.packets.taken) :
    ServerAccount after (produced ++ packets) := by
  constructor
  · rw [isWriting]
    exact account.produces.writes idle packets
  · rw [passed, terminalMessages_append, inputOf_append, account.passed]
  · rw [isWriting, keepalives_append]
    exact echoes

theorem reads (account : ServerAccount server produced) {packet : Packet}
    (packets : after.packets = server.packets.reads packet)
    (passed : after.passed = server.passed) : ServerAccount after produced := by
  constructor
  · rw [packets]
    exact account.produces
  · rw [passed]
    exact account.passed
  · rw [packets, Conversation.reads, keepalives_append]
    exact Nat.le_trans account.echoes (Nat.le_add_right _ _)

end ServerAccount

def ServerCall.sends : ServerCall → List TerminalMessage
  | .pass message => [message]
  | _ => []

/-- `sent` are the messages that have been passed on. -/
abbrev TerminalServerRun.Sends {State : Type} (server : TerminalServerRun State)
    (sent : List TerminalMessage) : Prop :=
  Conveys (server.turn = .aborted) (terminalMessages server.packets.taken) server.turn.held sent

namespace TerminalServerRun

variable {formats : PayloadFormat} {forwarder : Forwarder}
  {before after : TerminalServerRun forwarder.State} {produced : List Packet}
  {sent : List TerminalMessage}

theorem opened_account (account : ServerAccount before produced)
    (idle : before.packets.writing = []) (directories : Nat → Option Bytes)
    (outcome : Except Failure TunnelsOutcome) :
    ∃ more, ServerAccount (before.opened directories outcome) (produced ++ more) := by
  have responds : ∀ (error : Option Bytes) (turn : ServerTurn),
      ServerAccount
        { before with
          packets := before.packets.writes [responsePacket error]
          turn := turn
          directories := directories } (produced ++ [responsePacket error]) := by
    intro error turn
    exact account.adds idle rfl (List.append_nil _).symm account.echoes
  unfold opened
  split
  · exact ⟨_, responds none _⟩
  · exact ⟨_, responds _ .ended⟩
  · refine ⟨[], ?_⟩
    rw [List.append_nil]
    exact account.keeps rfl rfl

theorem takePacket_account (account : ServerAccount before produced)
    (idle : before.packets.writing = []) (packet : Packet) :
    ∃ more, ServerAccount (before.takePacket packet) (produced ++ more) := by
  have read : ServerAccount { before with packets := before.packets.reads packet } produced :=
    account.reads rfl rfl
  unfold takePacket
  dsimp only
  split
  · rename_i isKeepalive
    refine ⟨[keepalivePacket], read.adds idle rfl (List.append_nil _).symm ?_⟩
    have one : keepalives [packet] = 1 := by simp [keepalives, isKeepalive]
    show keepalives produced + 1 ≤ keepalives (before.packets.taken ++ [packet])
    rw [keepalives_append, one]
    exact Nat.add_le_add_right account.echoes 1
  · refine ⟨[], ?_⟩
    rw [List.append_nil]
    split
    · exact read.keeps rfl rfl
    · exact read.keeps rfl rfl

theorem Step.account {call : ServerCall} (step : Step formats forwarder before call after)
    (account : ServerAccount before produced) :
    ∃ more, ServerAccount after (produced ++ more) := by
  have nothing : ServerAccount after produced →
      ∃ more, ServerAccount after (produced ++ more) := by
    intro same
    refine ⟨[], ?_⟩
    rw [List.append_nil]
    exact same
  cases step with
  | writePacket step =>
      refine nothing ⟨step.produces account.produces, account.passed, ?_⟩
      rw [step.taken]
      exact account.echoes
  | payload _ _ => exact nothing (account.reads rfl rfl)
  | tunnels idle _ => exact opened_account account idle _ _
  | terminalData idle _ _ _ =>
      refine ⟨_, account.adds idle rfl ?_ account.echoes⟩
      rw [terminalMessages_terminalPacket]
      exact congrArg _ (List.append_nil _).symm
  | @update packets state idle _ updates =>
      have forwards := forwarder.update_forwards _ _ _ updates
      refine ⟨packets, account.adds idle rfl ?_ ?_⟩
      · rw [terminalMessages_forwards forwards]
        exact (List.append_nil _).symm
      · rw [keepalives_forwards forwards]
        exact account.echoes
  | @forwardPacket packet answers state idle _ _ handles =>
      have forwards := forwarder.handlePacket_forwards _ _ _ _ handles
      have read : ServerAccount { before with packets := before.packets.reads packet } produced :=
        account.reads rfl rfl
      refine ⟨answers, read.adds idle rfl ?_ ?_⟩
      · rw [terminalMessages_forwards forwards]
        exact (List.append_nil _).symm
      · rw [keepalives_forwards forwards]
        exact read.echoes
  | packet idle _ _ => exact takePacket_account account idle _
  | waits _ _ | unbound _ _ | announces _ _ _ | announced _ | announceFails _ | halts _ _
  | select _ _ | terminalAgain _ _ | terminalEnds _ _ | noPacket _ _ | noData _ _ | pass _
  | oversized _ | passed _ | passFails _ => exact nothing (account.keeps rfl rfl)

/-- A step that is not about messages, of a thread that holds none. -/
theorem Sends.keeps (sends : before.Sends sent) (nothing : before.turn.held = [])
    (going : before.turn ≠ .aborted) (nothingNow : after.turn.held = [])
    (taken : terminalMessages after.packets.taken = terminalMessages before.packets.taken) :
    after.Sends sent := by
  rw [Sends, taken, nothingNow, ← nothing]
  exact sends.weaken fun aborted => absurd aborted going

theorem afterPayload_held (formats : PayloadFormat) (packet : Packet) :
    (afterPayload formats packet).held = [] := by
  unfold afterPayload
  split
  · split
    · rfl
    · split
      · rfl
      · rfl
  · rfl

theorem takePayload_sends (sends : before.Sends sent) (turn : before.turn = .awaitingPayload)
    (packet : Packet) : (before.takePayload formats packet).Sends sent := by
  by_cases isPayload : packet.header = INITIAL_PAYLOAD
  · refine sends.keeps (by simp [turn, ServerTurn.held]) (by simp [turn])
      (afterPayload_held formats packet) ?_
    have silent : packet.terminalMessage? = none := by
      apply terminalMessage?_handshake
      simp [Packet.isOrdinary, isPayload]
    show terminalMessages (before.packets.taken ++ [packet]) = _
    rw [terminalMessages_append, terminalMessages_singleton, silent]
    exact List.append_nil _
  · have aborts : (before.takePayload formats packet).turn = .aborted := if_neg isPayload
    refine ⟨sends.ordered.trans ?_, fun kept => absurd aborts kept⟩
    show _ <+: terminalMessages (before.packets.taken ++ [packet])
    rw [terminalMessages_append]
    exact List.prefix_append _ _

theorem opened_sends (sends : before.Sends sent) {payload : InitialPayload}
    (turn : before.turn = .binding payload) (directories : Nat → Option Bytes)
    (outcome : Except Failure TunnelsOutcome) :
    (before.opened directories outcome).Sends sent := by
  have nothing : before.turn.held = [] := by
    rw [turn]
    rfl
  have going : before.turn ≠ .aborted := by simp [turn]
  unfold opened
  split
  · exact sends.keeps nothing going rfl rfl
  · exact sends.keeps nothing going rfl rfl
  · exact sends.keeps nothing going rfl rfl

theorem takePacket_sends (sends : before.Sends sent) (turn : before.turn = .connection)
    (packet : Packet) : (before.takePacket packet).Sends sent := by
  have nothing : before.turn.held = [] := by
    rw [turn]
    rfl
  have going : before.turn ≠ .aborted := by simp [turn]
  have grows : terminalMessages (before.packets.taken ++ [packet]) =
      terminalMessages before.packets.taken ++ packet.terminalMessage?.toList := by
    rw [terminalMessages_append, terminalMessages_singleton]
  unfold takePacket
  dsimp only
  split
  · rename_i isKeepalive
    have silent : packet.terminalMessage? = none := by
      apply terminalMessage?_none
      · rw [isKeepalive]
        decide
      · rw [isKeepalive]
        decide
    rw [silent] at grows
    exact sends.keeps nothing going nothing (grows.trans (List.append_nil _))
  · split
    · rename_i message isMessage
      rw [isMessage] at grows
      show Conveys _ (terminalMessages (before.packets.taken ++ [packet])) [message] sent
      rw [grows]
      have more := Conveys.takes sends [message]
      rw [nothing] at more
      exact more.weaken fun aborted => absurd aborted going
    · rename_i noMessage
      rw [noMessage] at grows
      exact sends.keeps nothing going rfl (grows.trans (List.append_nil _))

theorem Step.sends {call : ServerCall} (step : Step formats forwarder before call after)
    (sends : before.Sends sent) : after.Sends (sent ++ call.sends) := by
  have quiet : call.sends = [] → after.Sends sent → after.Sends (sent ++ call.sends) := by
    intro silent same
    rw [silent, List.append_nil]
    exact same
  cases step with
  | @writePacket call packets step =>
      apply quiet rfl
      show Conveys _ (terminalMessages packets.taken) _ _
      rw [step.taken]
      exact sends
  | payload _ turn => exact quiet rfl (takePayload_sends sends turn _)
  | tunnels _ turn => exact quiet rfl (opened_sends sends turn _ _)
  | packet _ turn _ => exact quiet rfl (takePacket_sends sends turn _)
  | @forwardPacket packet answers state _ turn isForward _ =>
      apply quiet rfl
      refine sends.keeps (by simp [turn, ServerTurn.held]) (by simp [turn])
        (by simp [turn, ServerTurn.held]) ?_
      show terminalMessages (before.packets.taken ++ [packet]) = _
      rw [terminalMessages_append, terminalMessages_singleton,
        terminalMessage?_isForward isForward]
      exact List.append_nil _
  | @pass message turn =>
      rw [Sends, turn] at sends
      have gives : Conveys _ _ ([message] ++ []) _ := sends
      exact (gives.gives nofun).weaken nofun
  | oversized turn => exact quiet rfl (Conveys.loses sends rfl _)
  | @select terminal _ turn =>
      apply quiet rfl
      refine sends.keeps (by simp [turn, ServerTurn.held]) (by simp [turn]) ?_ rfl
      cases terminal with
      | true | false => rfl
  | waits _ turn => exact quiet rfl sends
  | unbound _ turn | announces _ turn _ | announced turn | announceFails turn | halts _ turn
  | terminalAgain _ turn | terminalEnds _ turn | terminalData _ turn _ _ | update _ turn _
  | noPacket _ turn | noData _ turn | passed turn | passFails turn =>
      exact quiet rfl (sends.keeps (by simp [turn, ServerTurn.held]) (by simp [turn]) rfl rfl)

end TerminalServerRun

end EternalTerminal
