/-
The size of the window: the client sends it when it has changed, and the handler sets it.
-/

import Mathlib.Data.List.Chain
import EternalTerminal.Terminal.TerminalIntegrity

namespace EternalTerminal

open Library

/-! ### What the client sends -/

namespace TerminalClientRun

variable {options : ClientOptions} {forwarder : Forwarder}
  {before after : TerminalClientRun forwarder.State} {call : PacketCall}

/-- Two sizes in a row differ, and the last one is remembered. -/
structure ClientWindows {State : Type} (client : TerminalClientRun State) : Prop where
  last : client.lastTerminalInfo = client.windows.getLast?.getD .unset
  changes : (TerminalInfo.unset :: client.windows).IsChain (· ≠ ·)

inductive SendsWindow (options : ClientOptions) (before after : TerminalClientRun forwarder.State) :
    Prop
  | none : after.windows = before.windows → after.lastTerminalInfo = before.lastTerminalInfo →
      SendsWindow options before after
  | one : before.windowChanged options → after.windows = before.windows ++ [before.consoleInfo] →
      after.lastTerminalInfo = before.consoleInfo → SendsWindow options before after

theorem takeResponse_window (packet : Packet) :
    SendsWindow options before (before.takeResponse options packet) := by
  unfold takeResponse
  dsimp only
  split
  · exact .none rfl rfl
  · exact .none rfl rfl
  · exact .none rfl rfl
  · exact .none rfl rfl

theorem takePacket_window (packet : Packet) :
    SendsWindow options before (before.takePacket options packet) := by
  unfold takePacket
  dsimp only
  split
  · split
    · split
      · exact .none rfl rfl
      · exact .none rfl rfl
    · exact .none rfl rfl
  · split
    · exact .none rfl rfl
    · exact .none rfl rfl

theorem Step.sendsWindow (step : Step options forwarder before call after) :
    SendsWindow options before after := by
  cases step with
  | newWindow _ _ changed => exact .one changed rfl rfl
  | response _ _ => exact takeResponse_window _
  | packet _ _ _ => exact takePacket_window _
  | ticks _ | resizes | shutdown | writePacket _ | waits _ _ | noResponse _ _ | unanswered _ _
  | leaves _ _ | enters _ _ _ _ | consoleIdle _ _ | consoleData _ _ _ _ _ | consoleEnds _ _ _
  | typed _ _ | forwardPacket _ _ _ _ | noPacket _ _ | noData _ _ | prints _ _
  | printFails _ _ _ | notLate _ _ _ | disconnected _ _ | late _ _ _ _ | missed _ _ _ _
  | sameWindow _ _ _ | nothingToForward _ _ _ | update _ _ _ _ | forwarded _ _ =>
      exact .none rfl rfl

theorem ClientWindows.next (windows : before.ClientWindows)
    (sends : SendsWindow options before after) : after.ClientWindows := by
  cases sends with
  | none same last =>
      constructor
      · rw [last, same]
        exact windows.last
      · rw [same]
        exact windows.changes
  | one changed more last =>
      have differs : before.windows.getLast?.getD .unset ≠ before.consoleInfo := by
        intro same
        rw [← windows.last] at same
        exact changed.2 (congrArg terminalInfo.serialize same.symm)
      constructor
      · rw [last, more, List.getLast?_concat]
        rfl
      · rw [more, ← List.cons_append]
        refine windows.changes.append (.singleton _) ?_
        intro final isFinal next isNext
        cases isNext
        rw [List.getLast?_cons] at isFinal
        cases isFinal
        exact differs

end TerminalClientRun

/-! ### What the handler sets -/

namespace UserTerminalHandler

def WindowSet (handler : UserTerminalHandler) : Prop :=
  handler.window = (infosOf handler.decoded).getLast?.map Winsize.ofInfo

variable {handler after : UserTerminalHandler}

theorem WindowSet.keeps (isSet : handler.WindowSet) (window : after.window = handler.window)
    (decoded : after.decoded = handler.decoded) : after.WindowSet := by
  rw [WindowSet, window, decoded]
  exact isSet

theorem WindowSet.iterate (isSet : handler.WindowSet) (answers : SelectAnswers) :
    (handler.iterate answers).WindowSet := by
  have ticked : (handler.tick answers.currentSecond).WindowSet := by
    unfold tick
    split
    · exact isSet.keeps rfl rfl
    · exact isSet
  unfold UserTerminalHandler.iterate
  dsimp only
  split
  · exact isSet.keeps rfl rfl
  · split
    · unfold passOutput
      split
      · dsimp only
        split
        · exact ticked.keeps rfl rfl
        · exact ticked.keeps rfl rfl
      · exact ticked.keeps rfl rfl
      · split
        · exact ticked.keeps rfl rfl
        · exact ticked.keeps rfl rfl
    · exact ticked.keeps rfl rfl

theorem WindowSet.readProto (isSet : handler.WindowSet) (chunk : Bytes) :
    (handler.readProto chunk).WindowSet := by
  unfold UserTerminalHandler.readProto
  split
  · split
    · exact isSet.keeps rfl rfl
    · exact isSet.keeps rfl rfl
    · rw [WindowSet, infosOf_append]
      exact isSet.trans (by rw [show infosOf [TerminalMessage.buffer _] = [] from rfl,
        List.append_nil])
  · split
    · exact isSet.keeps rfl rfl
    · exact isSet.keeps rfl rfl
    · rw [WindowSet, infosOf_append]
      exact congrArg (Option.map Winsize.ofInfo) List.getLast?_concat.symm
  · exact isSet

theorem WindowSet.readType (isSet : handler.WindowSet) (packetType : UInt8) :
    (handler.readType packetType).WindowSet := by
  unfold UserTerminalHandler.readType
  split
  · exact isSet.keeps rfl rfl
  · split
    · exact isSet.keeps rfl rfl
    · exact isSet.keeps rfl rfl

theorem WindowSet.readTypeFails (isSet : handler.WindowSet) (answer : Option Errno) :
    (handler.readTypeFails answer).WindowSet := by
  unfold UserTerminalHandler.readTypeFails
  split
  · split
    · exact isSet.keeps rfl rfl
    · exact isSet.keeps rfl rfl
  · exact isSet.keeps rfl rfl

theorem WindowSet.drain (isSet : handler.WindowSet) (answer : WriteAnswer) :
    (handler.drain answer).WindowSet := by
  unfold UserTerminalHandler.drain
  split
  · exact isSet.keeps rfl rfl
  · split
    · exact isSet.keeps rfl rfl
    · split
      · exact isSet.keeps rfl rfl
      · exact isSet.keeps rfl rfl

end UserTerminalHandler

theorem TerminalLink.windowSet_of_reachable {link : TerminalLink}
    (reached : terminalSystem.Reachable link) : link.handler.WindowSet := by
  induction reached with
  | start initial =>
      obtain ⟨noratelimit, lastSecond, rfl⟩ := initial
      rfl
  | next _ _ step isSet =>
      cases step with
      | forward _ _ _ | oversized _ _ _ | write => exact isSet
      | iterate _ => exact isSet.iterate _
      | readType _ _ => exact isSet.readType _
      | readTypeFails _ => exact isSet.readTypeFails _
      | readProto _ _ _ => exact isSet.readProto _
      | readProtoFails _ | shutdown => exact isSet.keeps rfl rfl
      | drain _ => exact isSet.drain _

/-! ### Every run -/

namespace TerminalSession

variable {carrier : Carrier} {forwarder : Forwarder} {options : ClientOptions}
  {formats : PayloadFormat} {session before after : TerminalSession carrier forwarder}
  {event : Event}

theorem clientWindows_of_reachable
    (reached : (terminalSessionSystem carrier forwarder options formats).Reachable session) :
    session.client.ClientWindows := by
  induction reached with
  | start initial =>
      obtain ⟨_, _, _, _, _, _, _, _, _, _, _, rfl⟩ := initial
      exact ⟨rfl, .singleton _⟩
  | next _ _ step windows =>
      rcases step.client_cases with same | ⟨call, step, _⟩
      · rw [same]
        exact windows
      · exact windows.next step.sendsWindow

/-- `settled` is when no size is on its way. -/
structure WindowsFollow (session : TerminalSession carrier forwarder) : Prop where
  changes : (TerminalInfo.unset :: session.client.windows).IsChain (· ≠ ·)
  last : session.client.lastTerminalInfo = session.client.windows.getLast?.getD .unset
  ordered : infosOf session.link.handler.decoded <+: session.client.windows
  set : session.link.handler.window =
    (infosOf session.link.handler.decoded).getLast?.map Winsize.ofInfo
  settled : ¬ session.InputLost → infosOf session.messagesOnTheWay = [] →
    session.link.handler.window = session.client.windows.getLast?.map Winsize.ofInfo

end TerminalSession

/-- The terminal takes the sizes that the console has had, each time a different one, and comes
to the last of them. -/
theorem windows_follow (carrier : Carrier) (forwarder : Forwarder) (options : ClientOptions)
    (formats : PayloadFormat) {session : TerminalSession carrier forwarder}
    (reached : (stallingTerminalSystem carrier forwarder options formats).ReachableBy
      TerminalSession.sendsOnce session) : session.WindowsFollow := by
  have reached := TerminalSession.reachable_of_sendsOnce reached
  have windows := TerminalSession.clientWindows_of_reachable reached
  have sound := TerminalSession.sound_of_reachable reached
  have isSet := TerminalLink.windowSet_of_reachable sound.link
  obtain ⟨messages, conveys, _, sizes⟩ := sound.messages
  have sent := conveys.filterMap TerminalMessage.info?
  change Conveys _ (infosOf messages) (infosOf _) (infosOf _) at sent
  rw [sizes] at sent
  refine ⟨windows.changes, windows.last, sent.ordered, isSet, ?_⟩
  intro kept nothing
  have whole := sent.whole kept
  rw [nothing, List.append_nil] at whole
  rw [isSet, whole]

/-! ### One size -/

namespace TerminalSession

def rows24 : TerminalInfo :=
  { TerminalInfo.unset with row := some 24 }

def sizeTyped : TerminalLink :=
  { oneKeyDrained with
    handler := (oneKeyDrained.handler.iterate routerOnly).readType TERMINAL_INFO
    sent := [oneKey, .info rows24]
    pipe := SocketHandler.protoFrame (terminalInfo.serialize rows24) }

def sizeSet : TerminalLink :=
  { sizeTyped with
    handler :=
      ((sizeTyped.handler.readProto (littleEndian 8 2)).readProto [16, 24]).drain (.wrote 0)
    pipe := [] }

def afterSize (between : Session) (state : forwarder.State) :
    TerminalSession oneKeyCarrier forwarder :=
  { afterKey between state with
    client :=
      { (afterKey between state).client with
        packets :=
          { (afterKey between state).client.packets with
            given :=
              [Packet.plain INITIAL_PAYLOAD [8, 0], terminalPacket [97], infoPacket rows24] }
        turn := .forwards
        consoleInfo := rows24
        lastTerminalInfo := rows24
        windows := [rows24] }
    server :=
      { (afterKey between state).server with
        packets :=
          { (afterKey between state).server.packets with
            taken :=
              [Packet.plain INITIAL_PAYLOAD [8, 0], terminalPacket [97], infoPacket rows24] } }
    link := sizeSet }

theorem afterSize_reachable {state : forwarder.State} (initial : forwarder.initial state)
    (updates : forwarder.update state [] state) :
    ∃ between : Session, (oneKeySystem forwarder).Reachable (afterSize between state) := by
  obtain ⟨between, calm, accepted, reached⟩ := afterKey_reachable initial updates
  obtain ⟨wrote, after, writes, reads, _, _⟩ :=
    calm.exchange SecretBox.nullCipher Protobuf.standard .client (infoPacket rows24) rfl
      (by decide) accepted (by decide)
  have changed : terminalInfo.serialize rows24 ≠ terminalInfo.serialize .unset := by decide +kernel
  have early : (0 : Int) ≤ 0 + 5 := by decide
  have resized := reached.next (.clientAlone (@TerminalClientRun.Step.resizes _ _ _ rows24))
  have typed := resized.next (.clientAlone (.typed rfl rfl))
  have none := typed.next (.clientAlone (.noData rfl rfl))
  have printed := none.next (.clientAlone (.prints rfl rfl))
  have notLate := printed.next (.clientAlone (.notLate rfl rfl early))
  have sized := notLate.next (.clientAlone (.newWindow rfl rfl ⟨rfl, changed⟩))
  have sent := sized.next (.client (.writePacket (.writes rfl rfl)) writes)
  -- the server's turn
  have received := sent.next (.server (.packet rfl rfl rfl) reads)
  have fits : (TerminalMessage.info rows24).Fits := by
    unfold TerminalMessage.Fits
    decide
  have whole : (TerminalMessage.info rows24).frame.drop 11 = [] := by decide +kernel
  have passing := received.next
    (.pass (@TerminalServerRun.Step.pass _ _ _ (.info rows24) rfl) fits (.forward rfl rfl fits))
  have written := passing.next (.passes rfl (@TerminalLink.Step.write _ 11))
  have passed := written.next (.passed (.passed rfl) whole)
  -- the handler's
  have looping : oneKeyDrained.handler.phase = .looping := by decide +kernel
  have typing : (oneKeyDrained.handler.iterate routerOnly).phase = .readingType := by
    decide +kernel
  have sizeAsked : 8 ≤ sizeTyped.handler.asks := by decide +kernel
  have sizeArrived : 8 ≤ sizeTyped.pipe.length := by decide +kernel
  have restAsked : 2 ≤ (sizeTyped.handler.readProto (littleEndian 8 2)).asks := by
    decide +kernel
  have restArrived : 2 ≤ (sizeTyped.pipe.drop 8).length := by decide +kernel
  have draining :
      ((sizeTyped.handler.readProto (littleEndian 8 2)).readProto [16, 24]).phase = .draining := by
    decide +kernel
  have silent : oneKeyDrained.handler.outputRead routerOnly = [] := by decide +kernel
  have writesNothing : oneKeyDrained.handler.Writes routerOnly [] := silent.symm
  have iterated := passed.next
    (.iterates rfl rfl (@TerminalLink.Step.iterate _ routerOnly looping) writesNothing)
  change (oneKeySystem forwarder).Reachable
    { afterSize after state with
      link :=
        { oneKeyDrained with
          handler := oneKeyDrained.handler.iterate routerOnly
          sent := [oneKey, .info rows24]
          pipe := (TerminalMessage.info rows24).frame }
      shown := oneKeyDrained.handler.outputRead routerOnly
      cut := [] != oneKeyDrained.handler.outputRead routerOnly } at iterated
  rw [silent] at iterated
  have typeRead := iterated.next
    (.handler rfl rfl (by trivial) (@TerminalLink.Step.readType _ TERMINAL_INFO _ typing rfl))
  have lengthRead := typeRead.next
    (.handler rfl rfl (by trivial)
      (@TerminalLink.Step.readProto _ 8 (by decide) sizeAsked sizeArrived))
  have read := lengthRead.next
    (.handler rfl rfl (by trivial)
      (@TerminalLink.Step.readProto _ 2 (by decide) restAsked restArrived))
  have drained := read.next
    (.handler rfl rfl (by trivial) (@TerminalLink.Step.drain _ (.wrote 0) draining))
  exact ⟨after, drained⟩

end TerminalSession

open TerminalSession in
theorem windows_follow_one_size :
    ∃ session : TerminalSession oneKeyCarrier Forwarder.idle,
      (oneKeySystem Forwarder.idle).Reachable session ∧ session.client.windows = [rows24] ∧
        session.link.handler.decoded = [oneKey, .info rows24] ∧ session.WindowsFollow := by
  obtain ⟨between, reached⟩ := @afterSize_reachable Forwarder.idle () trivial rfl
  have decoded : sizeSet.handler.decoded = [oneKey, .info rows24] := by decide +kernel
  exact ⟨afterSize between (), reached, rfl, decoded,
    windows_follow oneKeyCarrier Forwarder.idle oneKeyOptions JumpSession.flagFormat
      (sendsOnce_of_reachable reached)⟩

end EternalTerminal
