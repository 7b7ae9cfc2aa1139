/-
What a terminal session delivers: the input of the client to the pty, the output of the pty to the
console, the sizes of the window in their order.

Each part of the way is a stage that keeps the order; what is under way is what the stages hold.
-/

import EternalTerminal.Terminal.PendingInput
import EternalTerminal.Terminal.TerminalStreams

namespace EternalTerminal

open Library

/-! ### The lists of packets -/

namespace PacketCall

def written : PacketCall → List Packet
  | .writes packet => [packet]
  | .skips _ | .reads _ | .readsNothing | .severs | .silent => []

def read : PacketCall → List Packet
  | .reads packet => [packet]
  | .writes _ | .skips _ | .readsNothing | .severs | .silent => []

end PacketCall

def Conversation.Lists (before : Conversation) (call : PacketCall) (after : Conversation) : Prop :=
  after.given = before.given ++ call.written ∧ after.taken = before.taken ++ call.read

theorem Conversation.Step.lists {before after : Conversation} {call : PacketCall}
    (step : before.Step call after) : before.Lists call after := by
  cases step with
  | writes _ _ => exact ⟨rfl, (List.append_nil _).symm⟩
  | skips _ _ | drops _ => exact ⟨(List.append_nil _).symm, (List.append_nil _).symm⟩

theorem TerminalClientRun.Step.lists {options : ClientOptions} {forwarder : Forwarder}
    {before after : TerminalClientRun forwarder.State} {call : PacketCall}
    (step : Step options forwarder before call after) :
    before.packets.Lists call after.packets := by
  cases step with
  | writePacket step => exact step.lists
  | response _ _ =>
      unfold takeResponse
      dsimp only
      split
      · exact ⟨(List.append_nil _).symm, rfl⟩
      · exact ⟨(List.append_nil _).symm, rfl⟩
      · exact ⟨(List.append_nil _).symm, rfl⟩
      · exact ⟨(List.append_nil _).symm, rfl⟩
  | packet _ _ _ =>
      unfold takePacket
      dsimp only
      split
      · split
        · split
          · exact ⟨(List.append_nil _).symm, rfl⟩
          · exact ⟨(List.append_nil _).symm, rfl⟩
        · exact ⟨(List.append_nil _).symm, rfl⟩
      · split
        · exact ⟨(List.append_nil _).symm, rfl⟩
        · exact ⟨(List.append_nil _).symm, rfl⟩
  | forwardPacket _ _ _ _ => exact ⟨(List.append_nil _).symm, rfl⟩
  | ticks _ | resizes | shutdown | waits _ _ | noResponse _ _ | unanswered _ _ | leaves _ _
  | enters _ _ _ _ | consoleIdle _ _ | consoleData _ _ _ _ _ | consoleEnds _ _ _ | typed _ _
  | noPacket _ _ | noData _ _ | prints _ _ | printFails _ _ _ | notLate _ _ _ | disconnected _ _
  | late _ _ _ _ | missed _ _ _ _ | sameWindow _ _ _ | newWindow _ _ _ | nothingToForward _ _ _
  | update _ _ _ _ | forwarded _ _ =>
      exact ⟨(List.append_nil _).symm, (List.append_nil _).symm⟩

def ServerCall.packetCall : ServerCall → PacketCall
  | .connection call => call
  | .passFails => .severs
  | .announce _ | .announced | .select _ | .terminal _ | .pass _ | .oversized _ | .passed =>
      .silent

def ServerCall.output : ServerCall → Bytes
  | .terminal bytes => bytes
  | .connection _ | .announce _ | .announced | .select _ | .pass _ | .oversized _ | .passed
  | .passFails => []

theorem TerminalServerRun.Step.lists {formats : PayloadFormat} {forwarder : Forwarder}
    {before after : TerminalServerRun forwarder.State} {call : ServerCall}
    (step : Step formats forwarder before call after) :
    before.packets.Lists call.packetCall after.packets := by
  cases step with
  | writePacket step => exact step.lists
  | tunnels _ _ =>
      unfold opened
      split
      · exact ⟨(List.append_nil _).symm, (List.append_nil _).symm⟩
      · exact ⟨(List.append_nil _).symm, (List.append_nil _).symm⟩
      · exact ⟨(List.append_nil _).symm, (List.append_nil _).symm⟩
  | packet _ _ _ =>
      unfold takePacket
      dsimp only
      split
      · exact ⟨(List.append_nil _).symm, rfl⟩
      · split
        · exact ⟨(List.append_nil _).symm, rfl⟩
        · exact ⟨(List.append_nil _).symm, rfl⟩
  | payload _ _ | forwardPacket _ _ _ _ => exact ⟨(List.append_nil _).symm, rfl⟩
  | waits _ _ | unbound _ _ | announces _ _ _ | announced _ | announceFails _ | halts _ _
  | select _ _ | terminalAgain _ _ | terminalEnds _ _ | terminalData _ _ _ _ | update _ _ _
  | noPacket _ _ | noData _ _ | pass _ | oversized _ | passed _ | passFails _ =>
      exact ⟨(List.append_nil _).symm, (List.append_nil _).symm⟩

theorem TerminalServerRun.Step.outputs {formats : PayloadFormat} {forwarder : Forwarder}
    {before after : TerminalServerRun forwarder.State} {call : ServerCall}
    (step : Step formats forwarder before call after) :
    after.passed = before.passed ++ call.output := by
  cases step with
  | terminalData _ _ _ _ => rfl
  | tunnels _ _ =>
      unfold opened
      split
      · exact (List.append_nil _).symm
      · exact (List.append_nil _).symm
      · exact (List.append_nil _).symm
  | packet _ _ _ =>
      unfold takePacket
      dsimp only
      split
      · exact (List.append_nil _).symm
      · split
        · exact (List.append_nil _).symm
        · exact (List.append_nil _).symm
  | writePacket _ | payload _ _ | forwardPacket _ _ _ _ | waits _ _ | unbound _ _
  | announces _ _ _ | announced _ | announceFails _ | halts _ _ | select _ _ | terminalAgain _ _
  | terminalEnds _ _ | update _ _ _ | noPacket _ _ | noData _ _ | pass _ | oversized _ | passed _
  | passFails _ => exact (List.append_nil _).symm

/-! ### What the terminal's process does to the link -/

namespace UserTerminalHandler

variable {handler : UserTerminalHandler} {answers : SelectAnswers} {written : Bytes}

theorem Writes.isPrefix (writes : handler.Writes answers written) :
    written <+: handler.outputRead answers := by
  unfold Writes at writes
  split at writes
  · rw [writes]
  · exact writes

theorem Writes.whole (writes : handler.Writes answers written)
    (goesOn : (handler.iterate answers).phase ≠ .ended) :
    written = handler.outputRead answers := by
  cases wrote : answers.writeAll with
  | ok =>
      rw [Writes, wrote] at writes
      exact writes
  | error what =>
      have isPrefix := writes.isPrefix
      suffices nothing : handler.outputRead answers = [] by
        rw [nothing] at isPrefix ⊢
        exact List.prefix_nil.mp isPrefix
      by_cases stopping : handler.shuttingDown = true
      · exact if_pos stopping
      · have ticked : (handler.tick answers.currentSecond).noratelimit = handler.noratelimit := by
          unfold tick
          split
          · rfl
          · rfl
        unfold outputRead
        rw [if_neg stopping]
        split
        · rename_i selected
          rw [iterate, if_neg stopping] at goesOn
          dsimp only at goesOn
          rw [ticked, if_pos selected, passOutput] at goesOn
          cases read : answers.read with
          | data bytes =>
              rw [read, wrote] at goesOn
              exact absurd rfl goesOn
          | closed | failed errno => rfl
        · rfl

end UserTerminalHandler

namespace TerminalLink

variable {link after : TerminalLink} {event : TerminalEvent}

/-- The handler changes nothing of what the server has sent, and does not come back. -/
theorem Step.ofHandler (step : Step link event after)
    (ofHandler : TerminalSession.OfHandler event ∨ ∃ answers, event = .iterate answers) :
    after.sent = link.sent ∧
      (after.handler.phase ≠ .ended → link.handler.phase ≠ .ended) := by
  have noForward : ∀ message, event ≠ .forward message := by
    intro message same
    rw [same] at ofHandler
    rcases ofHandler with never | ⟨_, impossible⟩
    · exact never
    · cases impossible
  have noWrite : ∀ count, event ≠ .write count := by
    intro count same
    rw [same] at ofHandler
    rcases ofHandler with never | ⟨_, impossible⟩
    · exact never
    · cases impossible
  cases step with
  | forward _ _ _ | oversized _ _ _ => exact absurd rfl (noForward _)
  | write => exact absurd rfl (noWrite _)
  | iterate phase | readType phase _ | readTypeFails phase | drain phase =>
      exact ⟨rfl, fun _ => by simp [phase]⟩
  | shutdown => exact ⟨rfl, fun goesOn => goesOn⟩
  | readProto some few _ =>
      refine ⟨rfl, fun _ ended => ?_⟩
      rw [UserTerminalHandler.asks, ended] at few
      exact absurd few (Nat.not_le_of_lt some)
  | readProtoFails asks =>
      refine ⟨rfl, fun _ ended => ?_⟩
      rw [UserTerminalHandler.asks, ended] at asks
      exact absurd asks (Nat.lt_irrefl 0)

end TerminalLink

namespace TerminalSession

variable {carrier : Carrier} {forwarder : Forwarder} {options : ClientOptions}
  {formats : PayloadFormat} {session before after : TerminalSession carrier forwarder}

/-- The carrier and the thread of a side agree on what it has written and read. -/
def Agrees (carrier : Carrier) (between : carrier.State) (side : Side)
    (packets : Conversation) : Prop :=
  carrier.accepted between side = packets.given ∧ carrier.returned between side = packets.taken

theorem Agrees.quiet {between later : carrier.State} {side : Side} {packets : Conversation}
    {event : CarrierEvent} (agrees : Agrees carrier between side packets)
    (step : carrier.system.step between event later)
    (silent : event.written side = [] ∧ event.read side = []) :
    Agrees carrier later side packets := by
  have same := carrier.lists between event later step side
  rw [silent.1, silent.2, agrees.1, agrees.2, List.append_nil, List.append_nil] at same
  exact same

theorem Agrees.calls {between later : carrier.State} {side : Side} {packets next : Conversation}
    {call : PacketCall} (agrees : Agrees carrier between side packets)
    (calls : Calls carrier side between call later) (lists : packets.Lists call next) :
    Agrees carrier later side next := by
  obtain ⟨accepted, returned⟩ := agrees
  obtain ⟨given, taken⟩ := lists
  have follows : ∀ event : CarrierEvent, carrier.system.step between event later →
      event.written side = call.written → event.read side = call.read →
      Agrees carrier later side next := by
    intro event step written read
    have same := carrier.lists between event later step side
    rw [written, read, accepted, returned] at same
    exact ⟨same.1.trans given.symm, same.2.trans taken.symm⟩
  cases call with
  | writes packet => exact follows _ calls (if_pos rfl) rfl
  | reads packet => exact follows _ calls rfl (if_pos rfl)
  | skips packet | readsNothing | severs => exact follows _ calls rfl rfl
  | silent =>
      rw [show later = between from calls]
      rw [PacketCall.written, List.append_nil] at given
      rw [PacketCall.read, List.append_nil] at taken
      exact ⟨accepted.trans given.symm, returned.trans taken.symm⟩

theorem Agrees.otherCalls {between later : carrier.State} {side : Side} {packets : Conversation}
    {call : PacketCall} (agrees : Agrees carrier between side.other packets)
    (calls : Calls carrier side between call later) :
    Agrees carrier later side.other packets := by
  cases call with
  | writes packet => exact agrees.quiet calls ⟨if_neg side.other_ne, rfl⟩
  | reads packet => exact agrees.quiet calls ⟨rfl, if_neg side.other_ne⟩
  | skips packet | readsNothing | severs => exact agrees.quiet calls ⟨rfl, rfl⟩
  | silent =>
      rw [show later = between from calls]
      exact agrees

theorem Calls.reachable {between later : carrier.State} {side : Side} {call : PacketCall}
    (calls : Calls carrier side between call later) (reached : carrier.system.Reachable between) :
    carrier.system.Reachable later := by
  cases call with
  | writes packet | reads packet | skips packet | readsNothing | severs => exact reached.next calls
  | silent =>
      rw [show later = between from calls]
      exact reached

/-! ### The threads in a step -/

theorem Step.client_cases {event : Event} (step : Step options formats before event after) :
    after.client = before.client ∨
      ∃ call, TerminalClientRun.Step options forwarder before.client call after.client ∧
        Calls carrier .client before.between call after.between := by
  cases step with
  | client step calls => exact Or.inr ⟨_, step, calls⟩
  | carrier _ | server _ _ | announce _ _ | announces _ | announced _ _ | readsInit _ _ _ _
  | select _ _ | pass _ _ _ | oversized _ _ _ | passes _ _ | passed _ _ | passFails _ _ _ _
  | iterates _ _ _ _ | handler _ _ _ _ | flush | output _ _ => exact Or.inl rfl

theorem Step.server_cases {event : Event} (step : Step options formats before event after) :
    after.server = before.server ∨
      ∃ call, TerminalServerRun.Step formats forwarder before.server call after.server := by
  cases step with
  | server step _ | announce step _ | announced step _ | select step _ | pass step _ _
  | oversized step _ _ | passed step _ | passFails step _ _ _ | output _ step =>
      exact Or.inr ⟨_, step⟩
  | carrier _ | client _ _ | announces _ | readsInit _ _ _ _ | passes _ _ | iterates _ _ _ _
  | handler _ _ _ _ | flush => exact Or.inl rfl

/-! ### Every run -/

structure Sound (options : ClientOptions) (session : TerminalSession carrier forwarder) :
    Prop where
  between : carrier.system.Reachable session.between
  clientLists : Agrees carrier session.between .client session.client.packets
  serverLists : Agrees carrier session.between .server session.server.packets
  client : ∃ produced, ClientAccount session.client produced
  server : ∃ produced, ServerAccount session.server produced
  prints : ClientPrints options session.client
  sends : session.server.Sends session.link.sent
  link : terminalSystem.Reachable session.link
  output : session.server.passed ++ (session.toServer ++ session.staged) = session.sentOn
  sentOn : session.sentOn <+: session.shown
  shown : session.cut = false → session.sentOn = session.shown
  ended : session.cut = true → session.link.handler.phase = .ended

theorem keepalives_ordinary (packets : List Packet) :
    keepalives (packets.filter Packet.isOrdinary) = keepalives packets := by
  rw [keepalives, List.countP_filter]
  apply List.countP_congr
  intro packet _
  simp only [Bool.and_eq_true, decide_eq_true_eq, and_iff_left_iff_imp]
  intro isKeepalive
  rw [Packet.isOrdinary, isKeepalive]
  decide

/-- What one side has read, among what the other has written. -/
theorem Sound.carried (sound : session.Sound options) :
    session.server.packets.taken.filter Packet.isOrdinary <+:
        session.client.packets.given.filter Packet.isOrdinary ∧
      session.client.packets.taken.filter Packet.isOrdinary <+:
        session.server.packets.given.filter Packet.isOrdinary := by
  have outward := carrier.carries session.between sound.between .client
  have homeward := carrier.carries session.between sound.between .server
  constructor
  · rw [← sound.clientLists.1, ← sound.serverLists.2]
    exact outward
  · rw [← sound.serverLists.1, ← sound.clientLists.2]
    exact homeward

/-- Without a jumphost everything is read in the order in which it was written. -/
theorem Sound.inOrder {box : SecretBox} {proto : Protobuf} {key : Key} {forwarder : Forwarder}
    {session : TerminalSession (Carrier.direct box proto key) forwarder}
    (sound : session.Sound options) :
    session.server.packets.taken <+: session.client.packets.given ∧
      session.client.packets.taken <+: session.server.packets.given := by
  have reached := Carrier.direct_reachable sound.between
  constructor
  · rw [← sound.serverLists.2, ← sound.clientLists.1]
    exact Session.delivers_of_reachable reached .server
  · rw [← sound.clientLists.2, ← sound.serverLists.1]
    exact Session.delivers_of_reachable reached .client

/-- A keepalive that the client has read is one that it has written and the server has echoed. -/
theorem Sound.behind (sound : session.Sound options) {produced : List Packet}
    (account : ClientAccount session.client produced) :
    keepalives session.client.packets.taken ≤ keepalives produced := by
  obtain ⟨echoed, server⟩ := sound.server
  obtain ⟨outward, homeward⟩ := sound.carried
  calc keepalives session.client.packets.taken
      ≤ keepalives session.server.packets.given := by
        rw [← keepalives_ordinary, ← keepalives_ordinary session.server.packets.given]
        exact homeward.sublist.countP_le
    _ ≤ keepalives echoed := server.produces.ordered.sublist.countP_le
    _ ≤ keepalives session.server.packets.taken := server.echoes
    _ ≤ keepalives session.client.packets.given := by
        rw [← keepalives_ordinary, ← keepalives_ordinary session.client.packets.given]
        exact outward.sublist.countP_le
    _ ≤ keepalives produced := account.produces.ordered.sublist.countP_le

/-- A step of the server that does not change the link or the output. -/
theorem Sound.serves (sound : before.Sound options) {call : ServerCall}
    {server : TerminalServerRun forwarder.State} {between : carrier.State} {init : PacketPipe}
    (step : TerminalServerRun.Step formats forwarder before.server call server)
    (calls : Calls carrier .server before.between call.packetCall between)
    (noOutput : call.output = []) {link : TerminalLink}
    (sent : link.sent = before.link.sent ++ call.sends) (reached : terminalSystem.Reachable link)
    (phase : link.handler.phase = before.link.handler.phase) :
    Sound options
      { before with
        server := server
        between := between
        init := init
        link := link } := by
  obtain ⟨produced, account⟩ := sound.server
  obtain ⟨more, account⟩ := step.account account
  constructor
  · exact calls.reachable sound.between
  · exact Agrees.otherCalls sound.clientLists calls
  · exact sound.serverLists.calls calls step.lists
  · exact sound.client
  · exact ⟨_, account⟩
  · exact sound.prints
  · dsimp only
    rw [sent]
    exact step.sends sound.sends
  · exact reached
  · dsimp only
    rw [step.outputs, noOutput, List.append_nil]
    exact sound.output
  · exact sound.sentOn
  · exact sound.shown
  · dsimp only
    rw [phase]
    exact sound.ended

theorem Sound.handles (sound : before.Sound options) {event : TerminalEvent} {link : TerminalLink}
    (step : TerminalLink.Step before.link event link)
    (ofHandler : OfHandler event ∨ ∃ answers, event = .iterate answers)
    {written read : Bytes} (flushed : Bytes)
    (nothing : before.staged = []) (isPrefix : written <+: read)
    (going : read ≠ [] → before.link.handler.phase ≠ .ended)
    (whole : link.handler.phase ≠ .ended → written = read) :
    Sound options
      { before with
        link := link
        staged := written
        flushed := flushed
        shown := before.shown ++ read
        sentOn := before.sentOn ++ written
        cut := before.cut || written != read } := by
  obtain ⟨sent, goesOn⟩ := step.ofHandler ofHandler
  have uncut : read ≠ [] → before.sentOn = before.shown := by
    intro some
    apply sound.shown
    by_contra isCut
    exact going some (sound.ended (by simpa using isCut))
  constructor
  · exact sound.between
  · exact sound.clientLists
  · exact sound.serverLists
  · exact sound.client
  · exact sound.server
  · exact sound.prints
  · dsimp only
    rw [sent]
    exact sound.sends
  · exact sound.link.next step
  · have output := sound.output
    rw [nothing, List.append_nil] at output
    dsimp only
    rw [← output, List.append_assoc]
  · dsimp only
    by_cases silent : read = []
    · rw [silent] at isPrefix
      rw [silent, List.prefix_nil.mp isPrefix, List.append_nil, List.append_nil]
      exact sound.sentOn
    · rw [uncut silent]
      exact (List.prefix_append_right_inj _).mpr isPrefix
  · intro isWhole
    simp only [Bool.or_eq_false_iff, bne_eq_false_iff_eq] at isWhole
    dsimp only
    rw [sound.shown isWhole.1, isWhole.2]
  · intro isCut
    by_contra running
    simp only [Bool.or_eq_true, bne_iff_ne, whole running, ne_eq, not_true_eq_false,
      or_false] at isCut
    exact goesOn running (sound.ended isCut)

theorem Step.sound {event : Event} (step : Step options formats before event after)
    (sound : before.Sound options) : after.Sound options := by
  cases step with
  | @carrier between step =>
      exact ⟨sound.between.next step, sound.clientLists.quiet step ⟨rfl, rfl⟩,
        sound.serverLists.quiet step ⟨rfl, rfl⟩, sound.client, sound.server, sound.prints,
        sound.sends, sound.link, sound.output, sound.sentOn, sound.shown, sound.ended⟩
  | client step calls =>
      obtain ⟨produced, account⟩ := sound.client
      obtain ⟨more, account⟩ := step.account account (sound.behind account)
      exact ⟨calls.reachable sound.between, sound.clientLists.calls calls step.lists,
        Agrees.otherCalls sound.serverLists calls, ⟨_, account⟩, sound.server,
        step.printing sound.prints, sound.sends, sound.link, sound.output, sound.sentOn,
        sound.shown, sound.ended⟩
  | server step calls => exact sound.serves step calls rfl (List.append_nil _).symm sound.link rfl
  | announce step _ | announced step _ | select step _ =>
      exact sound.serves step rfl rfl (List.append_nil _).symm sound.link rfl
  | announces _ | readsInit _ _ _ _ =>
      exact ⟨sound.between, sound.clientLists, sound.serverLists, sound.client, sound.server,
        sound.prints, sound.sends, sound.link, sound.output, sound.sentOn, sound.shown, sound.ended⟩
  | pass step fits forward =>
      have reached := sound.link.next forward
      cases forward with
      | forward _ _ _ => exact sound.serves step rfl rfl rfl reached rfl
      | oversized _ _ long => exact absurd fits long
  | oversized step long forward =>
      have reached := sound.link.next forward
      cases forward with
      | forward _ _ fits => exact absurd fits long
      | oversized _ _ _ => exact sound.serves step rfl rfl (List.append_nil _).symm reached rfl
  | passes _ write =>
      have reached := sound.link.next write
      cases write
      exact ⟨sound.between, sound.clientLists, sound.serverLists, sound.client, sound.server,
        sound.prints, sound.sends, reached, sound.output, sound.sentOn, sound.shown, sound.ended⟩
  | passed step _ => exact sound.serves step rfl rfl (List.append_nil _).symm sound.link rfl
  | passFails step _ write severs =>
      have reached := sound.link.next write
      cases write
      exact sound.serves step severs rfl (List.append_nil _).symm reached rfl
  | @iterates answers written link _ nothing step writes =>
      have looping : before.link.handler.phase = .looping := by
        cases step with
        | iterate phase => exact phase
      refine sound.handles step (Or.inr ⟨answers, rfl⟩) [] nothing writes.isPrefix ?_ ?_
      · exact fun _ => by simp [looping]
      · intro goesOn
        cases step
        exact writes.whole goesOn
  | @handler event link _ nothing ofHandler step =>
      have empty : ([] : Bytes) <+: [] := List.prefix_rfl
      have still := sound.handles step (Or.inl ofHandler) before.flushed nothing empty
        (fun some => absurd rfl some) fun _ => rfl
      rw [List.append_nil, List.append_nil, ← nothing, bne_self_eq_false, Bool.or_false] at still
      exact still
  | @flush count =>
      refine ⟨sound.between, sound.clientLists, sound.serverLists, sound.client, sound.server,
        sound.prints, sound.sends, sound.link, ?_, sound.sentOn, sound.shown, sound.ended⟩
      dsimp only
      rw [List.append_assoc before.toServer, List.take_append_drop]
      exact sound.output
  | @output bytes rest server isNext step =>
      obtain ⟨produced, account⟩ := sound.server
      obtain ⟨more, account⟩ := step.account account
      refine ⟨sound.between, sound.clientLists, ?_, sound.client, ⟨_, account⟩, sound.prints, ?_,
        sound.link, ?_, sound.sentOn, sound.shown, sound.ended⟩
      · have silent : Calls carrier .server before.between .silent before.between := rfl
        exact sound.serverLists.calls silent step.lists
      · have sends := step.sends sound.sends
        rw [show ServerCall.sends (.terminal bytes) = [] from rfl, List.append_nil] at sends
        exact sends
      · have output := sound.output
        rw [isNext, List.append_assoc] at output
        dsimp only
        rw [step.outputs, ServerCall.output, List.append_assoc]
        exact output

theorem sound_of_reachable
    (reached : (terminalSessionSystem carrier forwarder options formats).Reachable session) :
    session.Sound options := by
  refine reached.invariant ?_ ?_
  · intro initial isInitial
    obtain ⟨between, here, there, clock, consoleInfo, _, link, starts, _, _, linkStarts, rfl⟩ :=
      isInitial
    obtain ⟨noratelimit, lastSecond, rfl⟩ := linkStarts
    constructor
    · exact .start starts
    · exact carrier.starts between starts .client
    · exact carrier.starts between starts .server
    · exact ⟨_, ⟨List.nil_prefix, fun _ => rfl⟩, rfl, rfl, nofun⟩
    · exact ⟨[], .start _, rfl, Nat.le_refl _⟩
    · exact ⟨fun _ => .start _, fun _ => ⟨rfl, rfl⟩, nofun⟩
    · exact .start _
    · exact .start ⟨noratelimit, lastSecond, rfl⟩
    · rfl
    · exact List.prefix_rfl
    · exact fun _ => rfl
    · exact nofun
  · intro before event after sound step
    exact Step.sound step sound

/-! ### What is under way -/

/-- The packets of a side that the other side has yet to read, without those of the handshake. -/
def inFlight (session : TerminalSession carrier forwarder) (side : Side) : List Packet :=
  ((carrier.accepted session.between side).filter Packet.isOrdinary).drop
    ((carrier.returned session.between side.other).filter Packet.isOrdinary).length

def messagesOnTheWay (session : TerminalSession carrier forwarder) : List TerminalMessage :=
  session.link.sent.drop session.link.handler.decoded.length ++
    (session.server.turn.held ++
      (terminalMessages (session.inFlight .client) ++
        terminalMessages session.client.packets.writing))

def outputOnTheWay (session : TerminalSession carrier forwarder) : Bytes :=
  session.client.coalesced ++
    (inputOf (terminalMessages (session.inFlight .server)) ++
      (inputOf (terminalMessages session.server.packets.writing) ++
        (session.toServer ++ session.staged)))

/-- The connection was shut down while the client was writing, or the server has aborted. -/
def InputLost (session : TerminalSession carrier forwarder) : Prop :=
  session.client.packets.dropping = true ∨ session.server.turn = .aborted

/-- A write of the handler was cut short, the connection was shut down while the server was
writing, or the client has failed to print or aborted. -/
def OutputLost (session : TerminalSession carrier forwarder) : Prop :=
  session.cut = true ∨ session.server.packets.dropping = true ∨ session.client.OutputLost

theorem inFlight_conveys (reached : carrier.system.Reachable session.between) (side : Side) :
    Conveys False (terminalMessages (carrier.accepted session.between side))
      (terminalMessages (session.inFlight side))
      (terminalMessages (carrier.returned session.between side.other)) := by
  have carried := Conveys.of_prefix (carrier.carries session.between reached side)
  have messages := carried.filterMap Packet.terminalMessage?
  change Conveys False (terminalMessages _) _ (terminalMessages _) at messages
  rw [terminalMessages_ordinary, terminalMessages_ordinary] at messages
  exact messages

/-- All that the client has come to write for the terminal, up to the handler. -/
theorem Sound.messages (sound : session.Sound options) :
    ∃ messages, Conveys session.InputLost messages session.messagesOnTheWay
        session.link.handler.decoded ∧
      inputOf messages = session.client.typed ∧ infosOf messages = session.client.windows := by
  obtain ⟨produced, account⟩ := sound.client
  have written := account.produces.filterMap Packet.terminalMessage?
  have carried := inFlight_conveys sound.between .client
  rw [sound.clientLists.1, show Side.client.other = .server from rfl,
    sound.serverLists.2] at carried
  have decoded := Conveys.of_prefix (TerminalLink.intact_of_reachable sound.link).decoded
  have whole := ((written.through carried).through sound.sends).through decoded
  refine ⟨terminalMessages produced, whole.weaken ?_, account.typed, account.windows⟩
  rintro (((dropping | impossible) | aborted) | impossible)
  · exact Or.inl dropping
  · exact impossible.elim
  · exact Or.inr aborted
  · exact impossible.elim

theorem Sound.input (sound : session.Sound options) :
    Conveys session.InputLost session.client.typed (inputOf session.messagesOnTheWay)
      (session.link.handler.pty ++ session.link.handler.pendingInput) := by
  obtain ⟨messages, conveys, typed, _⟩ := sound.messages
  have bytes := conveys.flatMap TerminalMessage.input
  rw [← typed, (TerminalLink.intact_of_reachable sound.link).delivered]
  exact bytes

theorem Sound.outputConveyed (sound : session.Sound options) (console : options.hasConsole = true) :
    Conveys session.OutputLost session.shown session.outputOnTheWay session.client.printed := by
  obtain ⟨produced, account⟩ := sound.server
  have handler : Conveys (session.cut = true) session.shown [] session.sentOn := by
    refine ⟨sound.sentOn, fun whole => ?_⟩
    rw [List.append_nil]
    exact sound.shown (by simpa using whole)
  have socket : Conveys False session.sentOn (session.toServer ++ session.staged)
      session.server.passed :=
    ⟨⟨_, sound.output⟩, fun _ => sound.output⟩
  have written := (account.produces.filterMap Packet.terminalMessage?).flatMap
    TerminalMessage.input
  change Conveys _ (inputOf (terminalMessages produced)) _ _ at written
  rw [account.passed] at written
  have carried := (inFlight_conveys sound.between .server).flatMap TerminalMessage.input
  rw [sound.serverLists.1, show Side.server.other = .client from rfl,
    sound.clientLists.2] at carried
  have whole := (((handler.through socket).through written).through carried).through
    (sound.prints.printed console)
  rw [List.append_nil] at whole
  refine whole.weaken ?_
  rintro ((((isCut | impossible) | dropping) | impossible) | lost)
  · exact Or.inl isCut
  · exact impossible.elim
  · exact Or.inr (Or.inl dropping)
  · exact impossible.elim
  · exact Or.inr (Or.inr lost)

end TerminalSession

end EternalTerminal
