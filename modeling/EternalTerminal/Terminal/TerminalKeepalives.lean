/-
Keepalives: the server echoes those of the client, which closes its socket when one is missed.
-/

import EternalTerminal.Terminal.TerminalWindows

namespace EternalTerminal

open Library

/-! ### When the client acts -/

namespace TerminalClientRun

variable {options : ClientOptions} {forwarder : Forwarder}
  {before after : TerminalClientRun forwarder.State} {call : PacketCall}

/-- The two branches of `run` for a client that is late. -/
inductive KeepaliveActs {State : Type} (options : ClientOptions)
    (before : TerminalClientRun State) : TerminalClientRun State → Prop
  | late : before.keepaliveTime < before.clock → before.waitingOnKeepalive = false →
      KeepaliveActs options before (before.sendKeepalive options)
  | missed : before.keepaliveTime < before.clock → before.waitingOnKeepalive = true →
      KeepaliveActs options before (before.killConnection options)

inductive Postpones (options : ClientOptions) (before after : TerminalClientRun forwarder.State) :
    Prop
  | ticks : before.clock ≤ after.clock → after.keepaliveTime = before.keepaliveTime →
      Postpones options before after
  | postpones : after.clock = before.clock →
      after.keepaliveTime = before.clock + options.keepaliveDuration →
      Postpones options before after

theorem takeResponse_postpones (packet : Packet) :
    Postpones options before (before.takeResponse options packet) := by
  unfold takeResponse
  dsimp only
  split
  · exact .postpones rfl rfl
  · exact .ticks (Int.le_refl _) rfl
  · exact .ticks (Int.le_refl _) rfl
  · exact .ticks (Int.le_refl _) rfl

theorem takePacket_postpones (packet : Packet) :
    Postpones options before (before.takePacket options packet) := by
  unfold takePacket
  dsimp only
  split
  · split
    · split
      · exact .ticks (Int.le_refl _) rfl
      · exact .postpones rfl rfl
    · exact .ticks (Int.le_refl _) rfl
  · split
    · exact .ticks (Int.le_refl _) rfl
    · exact .ticks (Int.le_refl _) rfl

theorem Step.postpones (step : Step options forwarder before call after) :
    Postpones options before after := by
  cases step with
  | ticks later => exact .ticks later rfl
  | response _ _ => exact takeResponse_postpones _
  | packet _ _ _ => exact takePacket_postpones _
  | unanswered _ _ | typed _ _ | forwardPacket _ _ _ _ | late _ _ _ _ | missed _ _ _ _
  | forwarded _ _ => exact .postpones rfl rfl
  | resizes | shutdown | writePacket _ | waits _ _ | noResponse _ _ | leaves _ _ | enters _ _ _ _
  | consoleIdle _ _ | consoleData _ _ _ _ _ | consoleEnds _ _ _ | noPacket _ _ | noData _ _
  | prints _ _ | printFails _ _ _ | notLate _ _ _ | disconnected _ _ | sameWindow _ _ _
  | newWindow _ _ _ | nothingToForward _ _ _ | update _ _ _ _ => exact .ticks (Int.le_refl _) rfl

/-- The deadline is never later than a whole duration from now. -/
abbrev Punctual {State : Type} (options : ClientOptions) (client : TerminalClientRun State) :
    Prop :=
  client.keepaliveTime ≤ client.clock + options.keepaliveDuration

theorem Postpones.punctual (postpones : Postpones options before after)
    (punctual : before.Punctual options) :
    after.Punctual options ∧ before.keepaliveTime ≤ after.keepaliveTime := by
  cases postpones with
  | ticks later same =>
      rw [Punctual, same]
      exact ⟨punctual.trans (Int.add_le_add_right later _), Int.le_refl _⟩
  | postpones sameClock deadline =>
      rw [Punctual, deadline, sameClock]
      exact ⟨Int.le_refl _, punctual⟩

theorem KeepaliveActs.deadline {State : Type} {before after : TerminalClientRun State}
    (acts : KeepaliveActs options before after) :
    after.keepaliveTime = before.clock + options.keepaliveDuration ∧
      after.clock = before.clock := by
  cases acts with
  | late _ _ | missed _ _ => exact ⟨rfl, rfl⟩

theorem KeepaliveActs.isLate {State : Type} {before after : TerminalClientRun State}
    (acts : KeepaliveActs options before after) : before.keepaliveTime < before.clock := by
  cases acts with
  | late late _ | missed late _ => exact late

end TerminalClientRun

/-! ### Every run -/

namespace TerminalSession

variable {carrier : Carrier} {forwarder : Forwarder} {options : ClientOptions}
  {formats : PayloadFormat} {session before after : TerminalSession carrier forwarder}
  {labels : List Event}

theorem deadline_mono
    (path : (terminalSessionSystem carrier forwarder options formats).Path before labels after)
    (punctual : before.client.Punctual options) :
    before.client.keepaliveTime ≤ after.client.keepaliveTime := by
  induction path with
  | refl _ => exact Int.le_refl _
  | cons step _ ih =>
      rcases step.client_cases with same | ⟨call, step, _⟩
      · rw [same] at ih
        exact ih punctual
      · obtain ⟨still, later⟩ := step.postpones.punctual punctual
        exact later.trans (ih still)

/-- A keepalive that the client has read has been written by the server, which has read as many,
which the client has written.  When one is missed, one has not come back. -/
structure KeepalivesEchoed (options : ClientOptions) (session : TerminalSession carrier forwarder) :
    Prop where
  carried : keepalives session.client.packets.taken ≤ keepalives session.server.packets.given
  echoed : keepalives session.server.packets.given ≤ keepalives session.server.packets.taken
  sent : keepalives session.server.packets.taken ≤ keepalives session.client.packets.given
  missed : ∀ client,
    TerminalClientRun.Step options forwarder session.client .severs client →
      session.client.packets.dropping = true ∨
        keepalives session.client.packets.taken < keepalives session.client.packets.given

end TerminalSession

/-- The client closes no socket whose keepalives have all been echoed. -/
theorem keepalives_echoed (carrier : Carrier) (forwarder : Forwarder) (options : ClientOptions)
    (formats : PayloadFormat) {session : TerminalSession carrier forwarder}
    (reached : (terminalSessionSystem carrier forwarder options formats).Reachable session) :
    session.KeepalivesEchoed options := by
  have sound := TerminalSession.sound_of_reachable reached
  obtain ⟨outward, homeward⟩ := sound.carried
  obtain ⟨answers, server⟩ := sound.server
  obtain ⟨produced, client⟩ := sound.client
  constructor
  · rw [← TerminalSession.keepalives_ordinary,
      ← TerminalSession.keepalives_ordinary session.server.packets.given]
    exact homeward.sublist.countP_le
  · exact server.produces.ordered.sublist.countP_le.trans server.echoes
  · rw [← TerminalSession.keepalives_ordinary,
      ← TerminalSession.keepalives_ordinary session.client.packets.given]
    exact outward.sublist.countP_le
  · intro after step
    cases step with
    | writePacket step => cases step
    | missed idle _ _ waits =>
        cases dropping : session.client.packets.dropping with
        | true => exact Or.inl rfl
        | false =>
            have whole := client.produces.whole (by simp [dropping])
            rw [idle, List.append_nil] at whole
            have behind := (client.waiting waits).1
            rw [← whole] at behind
            exact Or.inr behind

/-- When the client has sent a keepalive or closed the socket for one, it does neither again for
the whole duration. -/
theorem keepalive_spacing (carrier : Carrier) (forwarder : Forwarder) (options : ClientOptions)
    (formats : PayloadFormat) {first acted later : TerminalSession carrier forwarder}
    {labels : List TerminalSession.Event} {again : TerminalClientRun forwarder.State}
    (acts : TerminalClientRun.KeepaliveActs options first.client acted.client)
    (path : (terminalSessionSystem carrier forwarder options formats).Path acted labels later)
    (actsAgain : TerminalClientRun.KeepaliveActs options later.client again) :
    first.client.clock + options.keepaliveDuration < later.client.clock := by
  obtain ⟨deadline, clock⟩ := acts.deadline
  have punctual : acted.client.Punctual options := by
    rw [TerminalClientRun.Punctual, deadline, clock]
  calc first.client.clock + options.keepaliveDuration
      = acted.client.keepaliveTime := deadline.symm
    _ ≤ later.client.keepaliveTime := TerminalSession.deadline_mono path punctual
    _ < later.client.clock := actsAgain.isLate

/-! ### A keepalive that is missed -/

namespace TerminalSession

variable {forwarder : Forwarder}

def lateOnce (between : Session) (state : forwarder.State) :
    TerminalSession oneKeyCarrier forwarder :=
  { afterKey between state with
    client :=
      { (afterKey between state).client with
        turn := .keepalive
        clock := 10 } }

def lateTwice (between : Session) (state : forwarder.State) :
    TerminalSession oneKeyCarrier forwarder :=
  { afterKey between state with
    client :=
      { (afterKey between state).client with
        packets :=
          { (afterKey between state).client.packets with
            given := [Packet.plain INITIAL_PAYLOAD [8, 0], terminalPacket [97], keepalivePacket] }
        turn := .keepalive
        clock := 20
        keepaliveTime := 15
        waitingOnKeepalive := true } }

theorem late_reachable {state : forwarder.State} (initial : forwarder.initial state)
    (updates : forwarder.update state [] state) :
    ∃ (between wrote : Session) (acted : TerminalSession oneKeyCarrier forwarder)
      (labels : List Event),
      (oneKeySystem forwarder).Reachable (lateOnce between state) ∧
        (oneKeySystem forwarder).step (lateOnce between state) .client acted ∧
          acted.client = (lateOnce between state).client.sendKeepalive oneKeyOptions ∧
            (oneKeySystem forwarder).Path acted labels (lateTwice wrote state) := by
  obtain ⟨between, calm, accepted, reached⟩ := afterKey_reachable initial updates
  obtain ⟨wrote, _, writes, _, _, _⟩ :=
    calm.exchange SecretBox.nullCipher Protobuf.standard .client keepalivePacket rfl (by decide)
      accepted (by decide)
  have isLate : (0 : Int) + 5 < 10 := by decide
  have ahead : (0 : Int) ≤ 10 := by decide
  have aheadAgain : (10 : Int) ≤ 20 := by decide
  have typed := reached.next (.clientAlone (.typed rfl rfl))
  have none := typed.next (.clientAlone (.noData rfl rfl))
  have printed := none.next (.clientAlone (.prints rfl rfl))
  have first := printed.next (.clientAlone (.ticks ahead))
  have acts : (oneKeySystem forwarder).step (lateOnce between state) .client
      { lateOnce between state with
        client := (lateOnce between state).client.sendKeepalive oneKeyOptions } :=
    .clientAlone (.late rfl rfl isLate rfl)
  have start : (oneKeySystem forwarder).Path
      { lateOnce between state with
        client := (lateOnce between state).client.sendKeepalive oneKeyOptions } [] _ := .refl _
  have sent := start.append (.single (.client (.writePacket (.writes rfl rfl)) writes))
  have same := sent.append
    (.single (.clientAlone (.sameWindow rfl rfl fun changed => changed.2 rfl)))
  have forwarded := same.append (.single (.clientAlone (.nothingToForward rfl rfl updates)))
  have entered := forwarded.append (.single (.clientAlone (.enters rfl rfl rfl rfl)))
  have idle := entered.append (.single (.clientAlone (.consoleIdle rfl rfl)))
  have nothing := idle.append (.single (.clientAlone (.noData rfl rfl)))
  have again := nothing.append (.single (.clientAlone (.prints rfl rfl)))
  have ticked := again.append (.single (.clientAlone (.ticks aheadAgain)))
  exact ⟨between, wrote, _, _, first, acts, rfl, ticked⟩

end TerminalSession

open TerminalSession in
/-- One keepalive has been sent and has not come back. -/
theorem keepalives_echoed_missed :
    ∃ session : TerminalSession oneKeyCarrier Forwarder.idle,
      (oneKeySystem Forwarder.idle).Reachable session ∧
        TerminalClientRun.Step oneKeyOptions Forwarder.idle session.client .severs
          (session.client.killConnection oneKeyOptions) ∧
          session.KeepalivesEchoed oneKeyOptions := by
  obtain ⟨between, wrote, acted, labels, reached, step, _, path⟩ :=
    @late_reachable Forwarder.idle () trivial rfl
  have isLater : (10 : Int) + 5 < 20 := by decide
  have later := path.reachable (reached.next step)
  exact ⟨lateTwice wrote (), later, .missed rfl rfl isLater rfl,
    keepalives_echoed oneKeyCarrier Forwarder.idle oneKeyOptions JumpSession.flagFormat later⟩

open TerminalSession in
/-- At 10 the keepalive is sent, and at 20 the socket is closed. -/
theorem keepalive_spacing_missed :
    ∃ between wrote : Session, ∃ acted : TerminalSession oneKeyCarrier Forwarder.idle,
      TerminalClientRun.KeepaliveActs oneKeyOptions
          (@lateOnce Forwarder.idle between ()).client acted.client ∧
        (@lateOnce Forwarder.idle between ()).client.clock + 5 <
          (@lateTwice Forwarder.idle wrote ()).client.clock := by
  obtain ⟨between, wrote, acted, labels, reached, step, same, path⟩ :=
    @late_reachable Forwarder.idle () trivial rfl
  have isLate : (0 : Int) + 5 < 10 := by decide
  have isLater : (10 : Int) + 5 < 20 := by decide
  have acts : TerminalClientRun.KeepaliveActs oneKeyOptions
      (@lateOnce Forwarder.idle between ()).client acted.client := by
    rw [same]
    exact .late isLate rfl
  exact ⟨between, wrote, acted, acts,
    keepalive_spacing oneKeyCarrier Forwarder.idle oneKeyOptions JumpSession.flagFormat acts path
      (.missed isLater rfl)⟩

end EternalTerminal
