/-
What can abort the two processes of a terminal session by a packet.

Each thread writes the packets that the other one's loop knows, after the first one of the
handshake; so the only packet that is ever read out of place is an `INITIAL_RESPONSE` for which
the client has stopped to wait.
-/

import EternalTerminal.Terminal.TunnelForwarder

namespace EternalTerminal

open Library

/-! ### The packets of each thread -/

inductive Packet.Common : Packet → Prop
  | forward {packet : Packet} : packet.isForward = true → Common packet
  | keepalive : Common keepalivePacket
  | terminal (bytes : Bytes) : Common (terminalPacket bytes)

inductive Packet.OfClient : Packet → Prop
  | common {packet : Packet} : packet.Common → OfClient packet
  | window (ti : TerminalInfo) : OfClient (infoPacket ti)

/-- After the payload the client comes to write what `runTerminal` knows; while it waits for the
response it has read nothing. -/
structure TerminalClientRun.Asks {State : Type} (options : ClientOptions)
    (client : TerminalClientRun State) : Prop where
  produces : ∃ rest,
    client.packets.Produces (Packet.plain INITIAL_PAYLOAD options.payload :: rest) ∧
      ∀ packet ∈ rest, packet.OfClient
  waiting : ∀ left, client.turn = .awaitingResponse left → client.packets.taken = []

namespace TerminalClientRun

variable {options : ClientOptions} {forwarder : Forwarder}
  {before after : TerminalClientRun forwarder.State} {call : PacketCall}

namespace Asks

theorem adds (asks : before.Asks options) {written : List Packet}
    (adds : before.packets.Adds after.packets written)
    (known : ∀ packet ∈ written, packet.OfClient)
    (waiting : ∀ left, after.turn = .awaitingResponse left → after.packets.taken = []) :
    after.Asks options := by
  obtain ⟨rest, produces, others⟩ := asks.produces
  refine ⟨⟨rest ++ written, adds _ produces, ?_⟩, waiting⟩
  intro packet member
  rcases List.mem_append.mp member with earlier | later
  · exact others packet earlier
  · exact known packet later

theorem keeps (asks : before.Asks options) (packets : after.packets = before.packets)
    (waiting : ∀ left, after.turn = .awaitingResponse left →
      ∃ left, before.turn = .awaitingResponse left) : after.Asks options := by
  obtain ⟨produces, nothing⟩ := asks
  constructor
  · rw [packets]
    exact produces
  · intro left turn
    obtain ⟨earlier, turn⟩ := waiting left turn
    rw [packets]
    exact nothing earlier turn

theorem reads (asks : before.Asks options) {packet : Packet}
    (packets : after.packets = before.packets.reads packet)
    (going : ∀ left, after.turn ≠ .awaitingResponse left) : after.Asks options := by
  constructor
  · rw [packets]
    exact asks.produces
  · exact fun left turn => absurd turn (going left)

end Asks

theorem command_known (options : ClientOptions) :
    ∀ packet ∈ options.commandPackets, packet.OfClient := by
  intro packet member
  unfold ClientOptions.commandPackets at member
  split at member
  · cases member
  · cases List.mem_singleton.mp member
    exact .common (.terminal _)

theorem takeResponse_asks (asks : before.Asks options) (idle : before.packets.writing = [])
    (packet : Packet) : (before.takeResponse options packet).Asks options := by
  unfold takeResponse
  dsimp only
  split
  · exact asks.adds (fun _ produces => Conversation.Produces.writes produces idle _)
      (command_known options) nofun
  · exact asks.reads rfl nofun
  · exact asks.reads rfl nofun
  · exact asks.reads rfl nofun

theorem takePacket_asks (asks : before.Asks options) (packet : Packet)
    (going : ∀ left, before.turn ≠ .awaitingResponse left) :
    (before.takePacket options packet).Asks options := by
  unfold takePacket
  dsimp only
  split
  · split
    · split
      · exact asks.reads rfl nofun
      · exact asks.reads rfl going
    · exact asks.reads rfl going
  · split
    · exact asks.reads rfl going
    · exact asks.reads rfl nofun

theorem Step.asks (step : Step options forwarder before call after)
    (asks : before.Asks options) : after.Asks options := by
  have one : ∀ {packet : Packet}, packet.OfClient →
      ∀ other ∈ [packet], other.OfClient :=
    fun known other member => List.mem_singleton.mp member ▸ known
  cases step with
  | ticks _ | resizes | shutdown => exact asks.keeps rfl fun left turn => ⟨left, turn⟩
  | writePacket step =>
      obtain ⟨⟨rest, produces, known⟩, nothing⟩ := asks
      refine ⟨⟨rest, step.produces produces, known⟩, ?_⟩
      dsimp only
      rw [step.taken]
      exact nothing
  | waits _ turn | noResponse _ turn => exact asks.keeps rfl fun _ _ => ⟨_, turn⟩
  | response idle _ => exact takeResponse_asks asks idle _
  | unanswered idle _ =>
      exact asks.adds (fun _ produces => produces.writes idle _) (command_known options)
        (fun _ isWaiting => by cases isWaiting)
  | consoleData idle _ _ _ _ =>
      exact asks.adds (fun _ produces => produces.writes idle _)
        (one (.common (.terminal _))) (fun _ isWaiting => by cases isWaiting)
  | @forwardPacket packet answers state idle turn _ handles =>
      have known : ∀ packet ∈ answers, packet.OfClient := fun packet member =>
        .common (.forward (forwarder.handlePacket_forwards _ _ _ _ handles packet member))
      exact asks.adds (fun _ produces => Conversation.Produces.writes produces idle _) known
        (by simp [turn, postponeKeepalive])
  | packet _ turn _ => exact takePacket_asks asks _ (by simp [turn])
  | late idle _ _ _ =>
      exact asks.adds (fun _ produces => produces.writes idle _) (one (.common .keepalive))
        (fun _ isWaiting => by cases isWaiting)
  | newWindow idle _ _ =>
      exact asks.adds (fun _ produces => produces.writes idle _) (one (.window _))
        (fun _ isWaiting => by cases isWaiting)
  | @update packets state idle _ _ updates =>
      have known : ∀ packet ∈ packets, packet.OfClient := fun packet member =>
        .common (.forward (forwarder.update_forwards _ _ _ updates packet member))
      exact asks.adds (fun _ produces => produces.writes idle _) known
        (fun _ isWaiting => by cases isWaiting)
  | leaves _ _ | enters _ _ _ _ | consoleIdle _ _ | consoleEnds _ _ _ | typed _ _ | noPacket _ _
  | noData _ _ | prints _ _ | printFails _ _ _ | notLate _ _ _ | disconnected _ _
  | missed _ _ _ _ | sameWindow _ _ _ | nothingToForward _ _ _ | forwarded _ _ =>
      refine asks.keeps rfl ?_
      intro left isWaiting
      cases isWaiting

end TerminalClientRun

/-- Up to the response nothing, or nothing any more. -/
def ServerTurn.isSilent : ServerTurn → Bool
  | .awaitingPayload | .binding _ | .ended | .aborted => true
  | _ => false

/-- The server comes to write a response and then what `run` knows, or nothing at all. -/
inductive TerminalServerRun.Answers {State : Type} (server : TerminalServerRun State) : Prop
  | silent : server.turn.isSilent = true → server.packets.Produces [] → Answers server
  | answered (error : Option Bytes) (rest : List Packet) :
      server.turn ≠ .awaitingPayload → (∀ payload, server.turn ≠ .binding payload) →
      server.packets.Produces (responsePacket error :: rest) →
      (∀ packet ∈ rest, packet.Common) → Answers server

namespace TerminalServerRun

variable {formats : PayloadFormat} {forwarder : Forwarder}
  {before after : TerminalServerRun forwarder.State} {call : ServerCall}

namespace Answers

theorem adds (answers : before.Answers) (going : before.turn.isSilent = false)
    {written : List Packet} (adds : before.packets.Adds after.packets written)
    (known : ∀ packet ∈ written, packet.Common) (open_ : after.turn ≠ .awaitingPayload)
    (past : ∀ payload, after.turn ≠ .binding payload) : after.Answers := by
  cases answers with
  | silent isSilent _ => cases going.symm.trans isSilent
  | answered error rest _ _ produces others =>
      refine .answered error (rest ++ written) open_ past (adds _ produces) ?_
      intro packet member
      rcases List.mem_append.mp member with earlier | later
      · exact others packet earlier
      · exact known packet later

theorem goesOn (answers : before.Answers) (going : before.turn.isSilent = false)
    (packets : ∀ produced, before.packets.Produces produced → after.packets.Produces produced)
    (open_ : after.turn ≠ .awaitingPayload)
    (past : ∀ payload, after.turn ≠ .binding payload) : after.Answers :=
  answers.adds going (.nothing packets) nofun open_ past

end Answers

theorem opened_answers (silent : before.packets.Produces []) (idle : before.packets.writing = [])
    (directories : Nat → Option Bytes) (outcome : Except Failure TunnelsOutcome) :
    (before.opened directories outcome).Answers := by
  unfold opened
  split
  · exact .answered none [] nofun nofun (silent.writes idle _) nofun
  · exact .answered (some _) [] nofun nofun (silent.writes idle _) nofun
  · exact .silent rfl silent

theorem takePayload_answers (silent : before.packets.Produces []) (packet : Packet) :
    (before.takePayload formats packet).Answers := by
  refine .silent ?_ silent
  unfold takePayload afterPayload
  dsimp only
  split
  · split
    · rfl
    · split
      · rfl
      · rfl
  · rfl

theorem takePacket_answers (answers : before.Answers) (idle : before.packets.writing = [])
    (turn : before.turn = .connection) (packet : Packet) :
    (before.takePacket packet).Answers := by
  have going : before.turn.isSilent = false := by rw [turn]; rfl
  unfold takePacket
  dsimp only
  split
  · refine answers.adds going
      (fun _ produces => Conversation.Produces.writes produces idle [keepalivePacket]) ?_
      (by simp [turn]) (by simp [turn])
    exact fun other member => List.mem_singleton.mp member ▸ .keepalive
  · split
    · exact answers.goesOn going (fun _ produces => produces) nofun nofun
    · exact answers.goesOn going (fun _ produces => produces) nofun nofun

theorem Step.answers (step : Step formats forwarder before call after)
    (answers : before.Answers) : after.Answers := by
  have quiet : before.turn = .awaitingPayload ∨ (∃ payload, before.turn = .binding payload) →
      before.packets.Produces [] := by
    intro early
    cases answers with
    | silent _ produces => exact produces
    | answered _ _ open_ past _ _ =>
        rcases early with turn | ⟨payload, turn⟩
        · exact absurd turn open_
        · exact absurd turn (past payload)
  have goesOn : ∀ {turn : ServerTurn}, before.turn = turn → turn.isSilent = false →
      (∀ produced, before.packets.Produces produced → after.packets.Produces produced) →
      after.turn ≠ .awaitingPayload → (∀ payload, after.turn ≠ .binding payload) →
      after.Answers := by
    intro turn isTurn going packets open_ past
    exact answers.goesOn (isTurn ▸ going) packets open_ past
  cases step with
  | writePacket step =>
      cases answers with
      | silent isSilent produces => exact .silent isSilent (step.produces produces)
      | answered error rest open_ past produces known =>
          exact .answered error rest open_ past (step.produces produces) known
  | waits _ _ => exact answers
  | payload _ turn => exact takePayload_answers (quiet (Or.inl turn)) _
  | unbound _ turn => exact .silent rfl (quiet (Or.inr ⟨_, turn⟩))
  | tunnels idle turn => exact opened_answers (quiet (Or.inr ⟨_, turn⟩)) idle _ _
  | terminalData idle turn _ _ =>
      refine answers.adds (by rw [turn]; rfl) (fun _ produces => produces.writes idle _) ?_ nofun
        nofun
      exact fun other member => List.mem_singleton.mp member ▸ .terminal _
  | @update packets state idle turn updates =>
      refine answers.adds (by rw [turn]; rfl) (fun _ produces => produces.writes idle _) ?_ nofun
        nofun
      exact fun packet member =>
        .forward (forwarder.update_forwards _ _ _ updates packet member)
  | @forwardPacket packet packets state idle turn _ handles =>
      refine answers.adds (by rw [turn]; rfl)
        (fun _ produces => Conversation.Produces.writes produces idle _) ?_ (by simp [turn])
        (by simp [turn])
      exact fun other member =>
        .forward (forwarder.handlePacket_forwards _ _ _ _ handles other member)
  | packet idle turn _ => exact takePacket_answers answers idle turn _
  | @select terminal _ turn =>
      cases terminal with
      | true | false => exact goesOn turn rfl (fun _ produces => produces) nofun nofun
  | announces _ turn _ | announced turn | announceFails turn | halts _ turn
  | terminalAgain _ turn | terminalEnds _ turn | noPacket _ turn | noData _ turn | pass turn
  | oversized turn | passed turn | passFails turn =>
      exact goesOn turn rfl (fun _ produces => produces) nofun nofun

end TerminalServerRun

/-! ### Reading -/

theorem TerminalClientRun.takePacket_common {State : Type} {options : ClientOptions}
    {client : TerminalClientRun State} {packet : Packet} (common : packet.Common)
    (other : packet.isForward = false) (going : client.turn ≠ .aborted) :
    (client.takePacket options packet).turn ≠ .aborted := by
  cases common with
  | forward isForward => cases other.symm.trans isForward
  | keepalive => exact going
  | terminal bytes =>
      have isBuffer : (terminalPacket bytes).header = TERMINAL_BUFFER := rfl
      have parsed : terminalBuffer.parse (terminalPacket bytes).payload =
          some { buffer := some bytes } := terminalBuffer.parse_serialize _
      unfold takePacket
      dsimp only
      rw [if_pos isBuffer, parsed]
      split
      · exact going
      · exact going

theorem TerminalServerRun.takePacket_ofClient {State : Type} {server : TerminalServerRun State}
    {packet : Packet} (known : packet.OfClient) (other : packet.isForward = false)
    (going : server.turn ≠ .aborted) : (server.takePacket packet).turn ≠ .aborted := by
  have passes : ∀ message, packet.header ≠ KEEP_ALIVE → packet.terminalMessage? = some message →
      (server.takePacket packet).turn ≠ .aborted := by
    intro message notKeepalive isMessage
    unfold takePacket
    dsimp only
    rw [if_neg notKeepalive, isMessage]
    nofun
  have isBuffer : TERMINAL_BUFFER ≠ KEEP_ALIVE := by decide
  have isInfo : TERMINAL_INFO ≠ KEEP_ALIVE := by decide
  cases known with
  | common common =>
      cases common with
      | forward isForward => cases other.symm.trans isForward
      | keepalive => exact going
      | terminal bytes =>
          refine passes (.buffer { buffer := some bytes }) isBuffer ?_
          rw [terminalPacket, terminalMessage?_plain, if_pos rfl, terminalBuffer.parse_serialize]
          rfl
  | window ti =>
      refine passes (.info ti) isInfo ?_
      rw [infoPacket, terminalMessage?_plain, if_neg (by decide), if_pos rfl,
        terminalInfo.parse_serialize]
      rfl

/-- What a client that has read `taken` reads next. -/
structure ReadsFromServer (taken : List Packet) (packet : Packet) : Prop where
  first : taken = [] → ∃ error, packet = responsePacket error
  later : taken ≠ [] → packet.Common

theorem TerminalServerRun.Answers.reads {State : Type} {server : TerminalServerRun State}
    (answers : server.Answers) {taken : List Packet} {packet : Packet}
    (isPrefix : taken ++ [packet] <+: server.packets.given) : ReadsFromServer taken packet := by
  cases answers with
  | silent _ produces =>
      have nothing := List.prefix_nil.mp (isPrefix.trans produces.ordered)
      cases List.append_eq_nil_iff.mp nothing with
      | intro _ impossible => cases impossible
  | answered error rest _ _ produces known =>
      have read := isPrefix.trans produces.ordered
      cases taken with
      | nil =>
          obtain ⟨same, _⟩ := List.cons_prefix_cons.mp read
          exact ⟨fun _ => ⟨error, same⟩, fun some => absurd rfl some⟩
      | cons head tail =>
          obtain ⟨_, others⟩ := List.cons_prefix_cons.mp read
          have member : packet ∈ rest :=
            others.subset (List.mem_append_right _ (List.mem_singleton_self packet))
          exact ⟨nofun, fun _ => known packet member⟩

/-- What a server that has read `taken` reads next. -/
structure ReadsFromClient (options : ClientOptions) (taken : List Packet) (packet : Packet) :
    Prop where
  first : taken = [] → packet = Packet.plain INITIAL_PAYLOAD options.payload
  later : taken ≠ [] → packet.OfClient

theorem TerminalClientRun.Asks.reads_next {State : Type} {options : ClientOptions}
    {client : TerminalClientRun State} (asks : client.Asks options) {taken : List Packet}
    {packet : Packet} (isPrefix : taken ++ [packet] <+: client.packets.given) :
    ReadsFromClient options taken packet := by
  obtain ⟨rest, produces, known⟩ := asks.produces
  have read := isPrefix.trans produces.ordered
  cases taken with
  | nil =>
      obtain ⟨same, _⟩ := List.cons_prefix_cons.mp read
      exact ⟨fun _ => same, fun some => absurd rfl some⟩
  | cons head tail =>
      obtain ⟨_, others⟩ := List.cons_prefix_cons.mp read
      have member : packet ∈ rest :=
        others.subset (List.mem_append_right _ (List.mem_singleton_self packet))
      exact ⟨nofun, fun _ => known packet member⟩

/-- The server has read nothing as long as it waits for the payload, and no longer. -/
theorem TerminalServerRun.Step.awaits {formats : PayloadFormat} {forwarder : Forwarder}
    {before after : TerminalServerRun forwarder.State} {call : ServerCall}
    (step : Step formats forwarder before call after)
    (awaits : before.turn = .awaitingPayload ↔ before.packets.taken = []) :
    after.turn = .awaitingPayload ↔ after.packets.taken = [] := by
  have past : ∀ {turn : ServerTurn}, before.turn = turn → turn ≠ .awaitingPayload →
      after.turn ≠ .awaitingPayload →
        (after.turn = .awaitingPayload ↔ after.packets.taken = []) := by
    intro turn isTurn open_ openAfter
    refine iff_of_false openAfter ?_
    intro nothing
    rw [step.lists.2] at nothing
    exact open_ (isTurn ▸ awaits.mpr (List.append_eq_nil_iff.mp nothing).1)
  cases step with
  | writePacket step =>
      dsimp only
      rw [step.taken]
      exact awaits
  | waits _ _ => exact awaits
  | @payload packet _ _ =>
      refine iff_of_false ?_ (List.append_ne_nil_of_right_ne_nil _ (List.cons_ne_nil _ _))
      unfold takePayload afterPayload
      dsimp only
      split
      · split
        · nofun
        · split
          · nofun
          · nofun
      · nofun
  | tunnels _ turn =>
      refine past turn nofun ?_
      unfold opened
      split
      · nofun
      · nofun
      · nofun
  | @select terminal _ turn =>
      cases terminal with
      | true | false => exact past turn nofun nofun
  | packet _ turn _ =>
      refine past turn nofun ?_
      unfold takePacket
      dsimp only
      split
      · simp [turn]
      · split
        · nofun
        · nofun
  | forwardPacket _ turn _ _ => exact past turn nofun (by simp [turn])
  | unbound _ turn | announces _ turn _ | announced turn | announceFails turn | halts _ turn
  | terminalAgain _ turn | terminalEnds _ turn | terminalData _ turn _ _ | update _ turn _
  | noPacket _ turn | noData _ turn | pass turn | oversized turn | passed turn
  | passFails turn => exact past turn nofun nofun

/-- The server aborts at no packet of a client whose payload it can parse. -/
theorem TerminalServerRun.Step.reads_on {formats : PayloadFormat} {forwarder : Forwarder}
    {before after : TerminalServerRun forwarder.State} {packet : Packet}
    (step : Step formats forwarder before (.connection (.reads packet)) after)
    (awaits : before.turn = .awaitingPayload ↔ before.packets.taken = [])
    {options : ClientOptions} {payload : InitialPayload}
    (parsed : formats.parse options.payload = some payload)
    (reads : ReadsFromClient options before.packets.taken packet) : after.turn ≠ .aborted := by
  cases step with
  | writePacket step => cases step
  | payload _ turn =>
      have isPayload : (Packet.plain INITIAL_PAYLOAD options.payload).header = INITIAL_PAYLOAD :=
        rfl
      unfold takePayload afterPayload
      rw [reads.first (awaits.mp turn), if_pos isPayload]
      dsimp only [Packet.plain]
      rw [parsed]
      dsimp only
      split
      · nofun
      · nofun
  | packet _ turn other =>
      have some : before.packets.taken ≠ [] := by
        intro nothing
        cases turn.symm.trans (awaits.mpr nothing)
      exact takePacket_ofClient (reads.later some) other (by simp [turn])
  | forwardPacket _ turn _ _ => simp [turn]

theorem TerminalClientRun.Step.aborted_reads {options : ClientOptions} {forwarder : Forwarder}
    {before after : TerminalClientRun forwarder.State} {call : PacketCall}
    (step : Step options forwarder before call after) (aborted : before.turn = .aborted) :
    call.read = [] := by
  cases step with
  | writePacket step =>
      cases step with
      | writes _ _ | skips _ _ | drops _ => rfl
  | response _ turn | packet _ turn _ | forwardPacket _ turn _ _ => cases turn.symm.trans aborted
  | ticks _ | resizes | shutdown | waits _ _ | noResponse _ _ | unanswered _ _ | leaves _ _
  | enters _ _ _ _ | consoleIdle _ _ | consoleData _ _ _ _ _ | consoleEnds _ _ _ | typed _ _
  | noPacket _ _ | noData _ _ | prints _ _ | printFails _ _ _ | notLate _ _ _
  | disconnected _ _ | late _ _ _ _ | missed _ _ _ _ | sameWindow _ _ _ | newWindow _ _ _
  | nothingToForward _ _ _ | update _ _ _ _ | forwarded _ _ => rfl

/-- The client aborts at the response if its loop is the one that reads it, and never else. -/
theorem TerminalClientRun.Step.aborts_iff {options : ClientOptions} {forwarder : Forwarder}
    {before after : TerminalClientRun forwarder.State} {call : PacketCall}
    (step : Step options forwarder before call after) (going : before.turn ≠ .aborted)
    (asks : before.Asks options)
    (reads : ∀ packet, call = .reads packet → ReadsFromServer before.packets.taken packet) :
    after.turn = .aborted ↔
      before.turn = .connection ∧ before.packets.taken = [] ∧ ∃ packet, call = .reads packet := by
  have silent : after.turn ≠ .aborted → (∀ packet, call ≠ .reads packet) →
      (after.turn = .aborted ↔ before.turn = .connection ∧ before.packets.taken = [] ∧
        ∃ packet, call = .reads packet) := by
    intro goesOn other
    refine iff_of_false goesOn ?_
    rintro ⟨_, _, packet, isRead⟩
    exact other packet isRead
  cases step with
  | ticks _ | resizes | shutdown =>
      refine silent going ?_
      intro packet isRead
      cases isRead
  | writePacket step =>
      cases step with
      | writes _ _ | skips _ _ | drops _ =>
          refine silent going ?_
          intro packet isRead
          cases isRead
  | @response left packet _ turn =>
      obtain ⟨error, rfl⟩ := (reads packet rfl).first (asks.waiting _ turn)
      refine iff_of_false ?_ ?_
      · unfold takeResponse responsePacket
        dsimp only
        rw [HandshakeCaller.takeResponse_plain]
        cases error with
        | none | some what =>
            intro isAborted
            cases isAborted
      · rintro ⟨inLoop, _⟩
        cases turn.symm.trans inLoop
  | @packet packet _ turn other =>
      by_cases nothing : before.packets.taken = []
      · obtain ⟨error, rfl⟩ := (reads packet rfl).first nothing
        exact iff_of_true rfl ⟨turn, nothing, _, rfl⟩
      · have common := (reads packet rfl).later nothing
        refine iff_of_false (takePacket_common common other going) ?_
        rintro ⟨_, isNothing, _⟩
        exact nothing isNothing
  | @forwardPacket packet _ _ _ turn isForward _ =>
      refine iff_of_false (by simp [turn, postponeKeepalive]) ?_
      rintro ⟨_, nothing, _⟩
      obtain ⟨error, rfl⟩ := (reads packet rfl).first nothing
      cases isForward
  | waits _ _ | noResponse _ _ | unanswered _ _ | leaves _ _ | enters _ _ _ _ | consoleIdle _ _
  | consoleData _ _ _ _ _ | consoleEnds _ _ _ | typed _ _ | noPacket _ _ | noData _ _
  | prints _ _ | printFails _ _ _ | notLate _ _ _ | disconnected _ _ | late _ _ _ _
  | missed _ _ _ _ | sameWindow _ _ _ | newWindow _ _ _ | nothingToForward _ _ _
  | update _ _ _ _ | forwarded _ _ =>
      refine silent ?_ ?_
      · intro isAborted
        cases isAborted
      · intro packet isRead
        cases isRead

/-! ### In a session -/

namespace TerminalSession

variable {options : ClientOptions} {formats : PayloadFormat} {forwarder : Forwarder}

section

variable {carrier : Carrier} {session : TerminalSession carrier forwarder}

theorem asks_of_reachable
    (reached : (terminalSessionSystem carrier forwarder options formats).Reachable session) :
    session.client.Asks options := by
  induction reached with
  | start initial =>
      obtain ⟨_, _, _, _, _, _, _, _, _, _, _, rfl⟩ := initial
      exact ⟨⟨[], ⟨List.nil_prefix, fun _ => rfl⟩, nofun⟩, fun _ _ => rfl⟩
  | next _ _ step asks =>
      rcases step.client_cases with same | ⟨call, step, _⟩
      · rw [same]
        exact asks
      · exact step.asks asks

theorem answers_of_reachable
    (reached : (terminalSessionSystem carrier forwarder options formats).Reachable session) :
    session.server.Answers := by
  induction reached with
  | start initial =>
      obtain ⟨_, _, _, _, _, _, _, _, _, _, _, rfl⟩ := initial
      exact .silent rfl ⟨List.nil_prefix, fun _ => rfl⟩
  | next _ _ step answers =>
      rcases step.server_cases with same | ⟨call, step⟩
      · rw [same]
        exact answers
      · exact step.answers answers

end

variable {box : SecretBox} {proto : Protobuf} {key : Key}
  {session after : TerminalSession (Carrier.direct box proto key) forwarder}

theorem client_reads
    (reached : (terminalSessionSystem (Carrier.direct box proto key) forwarder options
      formats).Reachable session) {call : PacketCall}
    {client : TerminalClientRun forwarder.State} {between : Session}
    (step : TerminalClientRun.Step options forwarder session.client call client)
    (calls : Calls (Carrier.direct box proto key) .client session.between call between)
    (packet : Packet) (isRead : call = .reads packet) :
    ReadsFromServer session.client.packets.taken packet := by
  have next := reached.next (.client step calls)
  have read : client.packets.taken = session.client.packets.taken ++ [packet] := by
    rw [step.lists.2, isRead]
    rfl
  have isPrefix : client.packets.taken <+: session.server.packets.given :=
    (sound_of_reachable next).inOrder.2
  rw [read] at isPrefix
  exact (answers_of_reachable reached).reads isPrefix

theorem server_reads
    (reached : (terminalSessionSystem (Carrier.direct box proto key) forwarder options
      formats).Reachable session) {packet : Packet}
    {server : TerminalServerRun forwarder.State} {between : Session}
    (step : TerminalServerRun.Step formats forwarder session.server
      (.connection (.reads packet)) server)
    (calls : Calls (Carrier.direct box proto key) .server session.between (.reads packet)
      between) :
    ReadsFromClient options session.server.packets.taken packet := by
  have next := reached.next (.server step calls)
  have isPrefix : server.packets.taken <+: session.client.packets.given :=
    (sound_of_reachable next).inOrder.1
  rw [step.lists.2] at isPrefix
  exact (asks_of_reachable reached).reads_next isPrefix

theorem awaits_of_reachable
    (reached : (terminalSessionSystem (Carrier.direct box proto key) forwarder options
      formats).Reachable session) :
    session.server.turn = .awaitingPayload ↔ session.server.packets.taken = [] := by
  induction reached with
  | start initial =>
      obtain ⟨_, _, _, _, _, _, _, _, _, _, _, rfl⟩ := initial
      exact iff_of_true rfl rfl
  | next _ _ step awaits =>
      rcases step.server_cases with same | ⟨call, step⟩
      · rw [same]
        exact awaits
      · exact step.awaits awaits

/-- What a session that is not over may abort at.  The connections open every packet that they
read, and their recoveries find neither end ahead. -/
structure AbortsOnlyLate (options : ClientOptions) (formats : PayloadFormat)
    (session : TerminalSession (Carrier.direct box proto key) forwarder) : Prop where
  opens (side : Side) {outcome : Outcome Exn (Option Packet × Connection)} {wires : Wires} :
    (Session.endpoint session.between side).recovering = none →
    Program.Run (Wires.answers side) (Session.wires session.between)
      ((Session.endpoint session.between side).connection.read box) outcome wires →
      ∃ result, outcome = .returned result
  recovers (side : Side) (socket : Fd) (activity : Activity (Bool × Connection)) :
    (Session.endpoint session.between side).recovering = some (socket, activity) →
      activity.program ≠ .abort "Something went really wrong, client is ahead of server"
  client {call : PacketCall} {client : TerminalClientRun forwarder.State} {between : Session} :
    TerminalClientRun.Step options forwarder session.client call client →
    Calls (Carrier.direct box proto key) .client session.between call between →
    session.client.turn ≠ .aborted →
      (client.turn = .aborted ↔ session.client.turn = .connection ∧
        session.client.packets.taken = [] ∧ ∃ packet, call = .reads packet)
  aborted : session.client.turn = .aborted →
    ∃ error, session.client.packets.taken = [responsePacket error]
  server {packet : Packet} {server : TerminalServerRun forwarder.State} {between : Session} :
    TerminalServerRun.Step formats forwarder session.server (.connection (.reads packet))
      server →
    Calls (Carrier.direct box proto key) .server session.between (.reads packet) between →
      server.turn ≠ .aborted

theorem client_aborts_iff
    (reached : (terminalSessionSystem (Carrier.direct box proto key) forwarder options
      formats).Reachable session) {call : PacketCall}
    {client : TerminalClientRun forwarder.State} {between : Session}
    (step : TerminalClientRun.Step options forwarder session.client call client)
    (calls : Calls (Carrier.direct box proto key) .client session.between call between)
    (going : session.client.turn ≠ .aborted) :
    client.turn = .aborted ↔ session.client.turn = .connection ∧
      session.client.packets.taken = [] ∧ ∃ packet, call = .reads packet :=
  step.aborts_iff going (asks_of_reachable reached) (client_reads reached step calls)

theorem aborted_of_reachable
    (reached : (terminalSessionSystem (Carrier.direct box proto key) forwarder options
      formats).Reachable session) (aborted : session.client.turn = .aborted) :
    ∃ error, session.client.packets.taken = [responsePacket error] := by
  induction reached with
  | start initial =>
      obtain ⟨_, _, _, _, _, _, _, _, _, _, _, rfl⟩ := initial
      cases aborted
  | @next before _ _ reached _ step ih =>
      rcases step.client_cases with same | ⟨call, step, calls⟩
      · rw [same] at aborted ⊢
        exact ih aborted
      · rw [step.lists.2]
        by_cases already : before.client.turn = .aborted
        · rw [step.aborted_reads already, List.append_nil]
          exact ih already
        · obtain ⟨_, nothing, packet, isRead⟩ :=
            (client_aborts_iff reached step calls already).mp aborted
          obtain ⟨error, isResponse⟩ :=
            (client_reads reached step calls packet isRead).first nothing
          refine ⟨error, ?_⟩
          rw [nothing, isRead, isResponse]
          rfl

end TerminalSession

open TerminalSession in
theorem late_response_reachable :
    ∃ session : TerminalSession oneKeyCarrier Forwarder.idle,
      (oneKeySystem Forwarder.idle).Reachable session ∧ session.client.turn = .aborted := by
  have start : (oneKeySystem Forwarder.idle).Reachable _ :=
    .start ⟨Session.initial Key.zero, (), (), 0, .unset, fun _ => none, _, rfl, trivial, trivial,
      ⟨false, 0, rfl⟩, rfl⟩
  obtain ⟨wrote, opened, writes, reads, calm, accepted⟩ :=
    (Session.initial_calm Key.zero).exchange SecretBox.nullCipher Protobuf.standard .client
      (Packet.plain INITIAL_PAYLOAD [8, 0]) rfl (by decide) (fun _ => Nat.le_refl 0) (by decide)
  have sent := start.next (.client (.writePacket (.writes rfl rfl)) writes)
  -- the client's three waits
  have first := sent.next (.clientAlone (.waits rfl rfl))
  have second := first.next (.clientAlone (.waits rfl rfl))
  have third := second.next (.clientAlone (.waits rfl rfl))
  have runs := third.next (.clientAlone (.unanswered rfl rfl))
  have entered := runs.next (.clientAlone (.enters rfl rfl rfl rfl))
  have idle := entered.next (.clientAlone (.consoleIdle rfl rfl))
  -- the server's response
  have received := idle.next (.server (.payload rfl rfl) reads)
  let surroundings : Nat → RequestSurroundings := fun _ =>
    { network := { portServerSockets := fun _ => none }
      kernel := TunnelServer.grantingKernel }
  have bound := received.next (.serverAlone
    (@TerminalServerRun.Step.tunnels _ _ _ (JumpSession.flagOnly false) surroundings 0 0 rfl rfl))
  obtain ⟨wrote, answered, writes, reads, calm, accepted⟩ :=
    calm.exchange SecretBox.nullCipher Protobuf.standard .server (responsePacket none) rfl
      (by decide) accepted (by decide)
  have responded := bound.next (.server (.writePacket (.writes rfl rfl)) writes)
  have aborted := responded.next (.client (.packet rfl rfl rfl) reads)
  exact ⟨_, aborted, rfl⟩

end EternalTerminal
