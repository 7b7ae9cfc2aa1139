/-
The `encrypt` calls of a session through a jumphost.

Its two connections have one passkey, and the writers of both begin with the same nonces.  So the
first packet of the client and the one that the handler makes of it are sealed under one nonce.
-/

import EternalTerminal.Session.NonceLog
import EternalTerminal.Terminal.JumpSession

namespace EternalTerminal

open Library

namespace Session

variable {box : SecretBox} {proto : Protobuf} {key : Key} {before after : Session}
  {side : Side} {call : EncryptCall}

/-- One of the two sessions in a step: it takes one of its own or stays. -/
inductive Moves (box : SecretBox) (proto : Protobuf) (before : Session) : Session → Prop
  | stays : Moves box proto before before
  | steps {after : Session} {mover : Side} {event : SessionEvent} :
      Session.Step box proto before mover event after → Moves box proto before after

theorem ThreadStep.moves {writes : Option Packet}
    (step : ThreadStep box proto side writes before after) : Moves box proto before after := by
  cases step with
  | none => exact .stays
  | read step => exact .steps step
  | write _ step => exact .steps step

theorem ThreadStep.peer {writes : Option Packet}
    (step : ThreadStep box proto side writes before after) :
    after.endpoint side.other = before.endpoint side.other := by
  cases step with
  | none => rfl
  | read step => exact step.peer
  | write _ step => exact step.peer

theorem Moves.inStep (moves : Moves box proto before after)
    (inStep : ∀ side, (before.endpoint side).InStep key side) :
    ∀ side, (after.endpoint side).InStep key side := by
  cases moves with
  | stays => exact inStep
  | steps step => exact step.inStep_both inStep

theorem Moves.encrypts (moves : Moves box proto before after)
    (inStep : ∀ side, (before.endpoint side).InStep key side) :
    after.Encrypts key call ↔ before.Encrypts key call ∨ call ∈ before.encrypted after := by
  cases moves with
  | stays =>
      have quiet : before.encrypted before = [] := by
        unfold encrypted Endpoint.encrypted
        rw [List.drop_length, List.drop_length]
        rfl
      rw [quiet]
      simp only [List.not_mem_nil, or_false]
  | steps step => exact step.encrypts (inStep _)

end Session

namespace JumpSession

variable {box : SecretBox} {proto : Protobuf} {formats : PayloadFormat} {key : Key}
  {before after jump : JumpSession} {event : Event}

theorem Step.moves (step : Step box proto formats before event after) :
    Session.Moves box proto before.near after.near ∧
      Session.Moves box proto before.far after.far := by
  cases step with
  | client step => exact ⟨.steps step, .stays⟩
  | destination step => exact ⟨.stays, .steps step⟩
  | serverConnection _ step => exact ⟨.steps step, .stays⟩
  | handlerConnection _ step => exact ⟨.stays, .steps step⟩
  | server step =>
      obtain ⟨near, far⟩ := step.sessions
      rw [far]
      exact ⟨near.moves, .stays⟩
  | handler step =>
      obtain ⟨far, near⟩ := step.sessions
      rw [near]
      exact ⟨.stays, far.moves⟩

def encrypted (before after : JumpSession) : List EncryptCall :=
  before.near.encrypted after.near ++ before.far.encrypted after.far

end JumpSession

/-- A session through a jumphost with the calls that have been made. -/
def jumpEncryptionSystem (box : SecretBox) (proto : Protobuf) (formats : PayloadFormat)
    (key : Key) : TransitionSystem (JumpSession × List EncryptCall) JumpSession.Event :=
  (jumpSystem box proto formats key).recording JumpSession.encrypted

namespace JumpSession

variable {box : SecretBox} {proto : Protobuf} {formats : PayloadFormat} {key : Key}
  {before after jump : JumpSession} {event : Event} {state : JumpSession × List EncryptCall}

structure Logged (key : Key) (state : JumpSession × List EncryptCall) : Prop where
  near : ∀ side, (state.1.near.endpoint side).InStep key side
  far : ∀ side, (state.1.far.endpoint side).InStep key side
  calls : ∀ call, call ∈ state.2 ↔
    state.1.near.Encrypts key call ∨ state.1.far.Encrypts key call

theorem reachable_logged
    (reached : (jumpEncryptionSystem box proto formats key).Reachable state) :
    Logged key state := by
  refine reached.invariant ?_ ?_
  · intro start initial
    obtain ⟨isInitial, nothing⟩ := initial
    rw [show start = (JumpSession.initial key, []) from Prod.ext isInitial nothing]
    refine ⟨Session.initial_inStep key, Session.initial_inStep key, fun call => ?_⟩
    have none := Session.initial_encrypts key call
    exact iff_of_false List.not_mem_nil (not_or.mpr ⟨none, none⟩)
  · intro before event after logged step
    obtain ⟨step, grown⟩ := step
    obtain ⟨near, far⟩ := Step.moves step
    refine ⟨near.inStep logged.near, far.inStep logged.far, fun call => ?_⟩
    rw [grown, encrypted, List.mem_append, List.mem_append, logged.calls,
      near.encrypts logged.near, far.encrypts logged.far]
    exact or_or_or_comm

theorem Logged.unique (logged : Logged key state) (short : state.1.near.Short)
    (unopened : ∀ side, (state.1.far.endpoint side).accepted = []) :
    NoncesUnique state.2 := by
  have near (call : EncryptCall) (made : call ∈ state.2) :
      state.1.near.Encrypts key call := by
    rcases (logged.calls call).mp made with isNear | isFar
    · exact isNear
    · obtain ⟨side, index, packet, accepted, _⟩ := isFar
      rw [unopened side] at accepted
      cases accepted
  intro first isFirst second isSecond _ same
  exact short.unique (near first isFirst) (near second isSecond) same

theorem Logged.first_calls (logged : Logged key state) {first opening : Packet}
    {written rest : List Packet}
    (accepted : (state.1.near.endpoint .client).accepted = first :: written)
    (given : (state.1.far.endpoint .client).accepted = opening :: rest) :
    Session.packetCall key .client 0 first ∈ state.2 ∧
      Session.packetCall key .client 0 opening ∈ state.2 := by
  constructor
  · rw [logged.calls]
    refine Or.inl ⟨.client, 0, first, ?_, rfl⟩
    rw [accepted]
    rfl
  · rw [logged.calls]
    refine Or.inr ⟨.client, 0, opening, ?_, rfl⟩
    rw [given]
    rfl

/-- The packet that the handler starts with differs from the client's, which has the flag. -/
theorem Opens.payload_ne {first : Packet} {payload : InitialPayload}
    (opens : Opens formats first payload) : first.payload ≠ (cleared formats payload).payload := by
  intro same
  obtain ⟨_, parsed, flagged⟩ := opens
  have again := formats.parse_serialize first.payload payload false parsed
  have flags : payload = { payload with jumphost := false } := by
    rw [same] at parsed
    exact Option.some.inj (parsed.symm.trans again)
  rw [flags] at flagged
  cases flagged

/-- The destination has written nothing before it has read a packet. -/
def Attends (jump : JumpSession) : Prop :=
  (jump.far.endpoint .server).returned = [] → (jump.far.endpoint .server).accepted = []

theorem destination_attends {event : SessionEvent} {far : Session}
    (attends : before.Attends) (allowed : ordinary formats before (.destination event))
    (step : Session.Step box proto before.far .server event far) :
    ({ before with far := far } : JumpSession).Attends := by
  intro unread
  dsimp only at unread ⊢
  cases event with
  | write packet =>
      rw [step.write_returned] at unread
      exact absurd unread (allowed.2 packet rfl)
  | read =>
      have earlier := step.read_returned
      rw [unread] at earlier
      rw [step.read_accepted]
      exact attends (List.prefix_nil.mp earlier)
  | closeSocket | recover | send | receive | fail | close | finish | lose =>
      obtain ⟨accepted, returned⟩ := step.elsewhere trivial
      rw [accepted]
      exact attends (returned.symm.trans unread)

theorem reachable_attends
    (reached : (jumpSystem box proto formats key).ReachableBy (ordinary formats) jump) :
    jump.Attends := by
  induction reached with
  | start initial =>
      rw [show _ = JumpSession.initial key from initial]
      exact fun _ => rfl
  | @next before after event _ allowed step ih =>
      have keeps (kept : after.far.endpoint .server = before.far.endpoint .server) :
          after.Attends := by
        unfold Attends
        rw [kept]
        exact ih
      cases step with
      | client _ => exact keeps rfl
      | destination step => exact destination_attends ih allowed step
      | serverConnection _ _ => exact keeps rfl
      | handlerConnection _ step => exact keeps step.peer
      | server step =>
          apply keeps
          rw [step.sessions.2]
      | handler step => exact keeps step.sessions.1.peer

/-- Once the second connection carries a packet its client has accepted one, and the first packet
of the session is another. -/
theorem opened
    (reached : (jumpSystem box proto formats key).ReachableBy (ordinary formats) jump)
    {side : Side} (carries : (jump.far.endpoint side).accepted ≠ []) :
    ∃ first written opening rest, (jump.near.endpoint .client).accepted = first :: written ∧
      (jump.far.endpoint .client).accepted = opening :: rest ∧
      first.payload ≠ opening.payload := by
  obtain ⟨nearReached, farReached⟩ :=
    sessions_reachable (reached.mono fun _ _ allowed => allowed.1)
  have given : (jump.far.endpoint .client).accepted ≠ [] := by
    cases side with
    | client => exact carries
    | server =>
        intro nothing
        have delivered := Session.delivers_of_reachable farReached .server
        rw [show (jump.far.endpoint Side.server.other).accepted = [] from nothing] at delivered
        exact carries (reachable_attends reached (List.prefix_nil.mp delivered))
  obtain ⟨opening, rest, given⟩ := List.exists_cons_of_ne_nil given
  obtain ⟨first, payload, more, opens, isOpening, taken, _⟩ :=
    (reachable_sound reached.reachable).outward given
  obtain ⟨unread, written⟩ := Session.delivers_of_reachable nearReached .server
  rw [taken] at written
  refine ⟨first, more ++ unread, opening, rest, written.symm, given, ?_⟩
  rw [isOpening]
  exact opens.payload_ne

end JumpSession

/-! ### No nonce for two plaintexts -/

/-- A direct session never seals two plaintexts under one nonce, and neither does one through a
jumphost while its second connection carries nothing.  From the handler's first packet on it has
done so. -/
theorem nonces_for_one_plaintext (box : SecretBox) (proto : Protobuf) (formats : PayloadFormat)
    (key : Key) :
    (∀ state, (encryptionSystem box proto key).Reachable state → state.1.Short →
      NoncesUnique state.2) ∧
    (∀ state, (jumpEncryptionSystem box proto formats key).Reachable state →
      state.1.near.Short → (∀ side, (state.1.far.endpoint side).accepted = []) →
      NoncesUnique state.2) ∧
    ∀ state, (jumpEncryptionSystem box proto formats key).ReachableBy
        (fun state => JumpSession.ordinary formats state.1) state → state.1.near.Short →
      (NoncesUnique state.2 ↔ ∀ side, (state.1.far.endpoint side).accepted = []) := by
  refine ⟨?_, ?_, ?_⟩
  · intro state reached short
    exact (Session.reachable_logged reached).unique short
  · intro state reached short unopened
    exact (JumpSession.reachable_logged reached).unique short unopened
  · intro state reached short
    have logged := JumpSession.reachable_logged reached.reachable
    constructor
    · intro unique side
      by_contra carries
      obtain ⟨first, written, opening, rest, accepted, given, differ⟩ :=
        JumpSession.opened reached.unrecorded carries
      obtain ⟨isFirst, isOpening⟩ := logged.first_calls accepted given
      exact differ (unique _ isFirst _ isOpening rfl rfl)
    · exact logged.unique short

/-! The client has written its first packet, and then the handler its own. -/

theorem JumpSession.firstWritten_short :
    (JumpSession.firstWritten JumpSession.opening).Short := by
  intro side
  cases side with
  | client => decide
  | server => decide

theorem JumpSession.passedOn_short : JumpSession.passedOn.near.Short := by
  intro side
  cases side with
  | client => decide
  | server => decide

/-- The counter of the second connection starts where that of the first did. -/
theorem first_nonce_reused :
    ∃ calls, (jumpEncryptionSystem SecretBox.nullCipher Protobuf.standard JumpSession.flagFormat
        Key.zero).Reachable (JumpSession.openedOn, calls) ∧
      { key := Key.zero
        nonce := Nonce.after CLIENT_SERVER_NONCE_MSB 1
        plaintext := [8, 1] } ∈ calls ∧
      { key := Key.zero
        nonce := Nonce.after CLIENT_SERVER_NONCE_MSB 1
        plaintext := [8, 0] } ∈ calls ∧
      ¬ NoncesUnique calls := by
  obtain ⟨calls, reached⟩ :=
    JumpSession.openedOn_reachableBy.recorded JumpSession.encrypted
  have accepted : (JumpSession.openedOn.near.endpoint .client).accepted =
      [JumpSession.opening] := rfl
  have given : (JumpSession.openedOn.far.endpoint .client).accepted =
      [JumpSession.cleared JumpSession.flagFormat (JumpSession.flagOnly true)] := rfl
  obtain ⟨isFirst, isOpening⟩ :=
    (JumpSession.reachable_logged reached.reachable).first_calls accepted given
  refine ⟨calls, reached.reachable, isFirst, isOpening, ?_⟩
  intro unique
  have same := unique _ isFirst _ isOpening rfl rfl
  cases same

theorem nonces_for_one_plaintext_opening :
    (∃ calls, (encryptionSystem SecretBox.nullCipher Protobuf.standard Key.zero).Reachable
      (JumpSession.firstWritten JumpSession.opening, calls) ∧ NoncesUnique calls) ∧
    (∃ calls, (jumpEncryptionSystem SecretBox.nullCipher Protobuf.standard JumpSession.flagFormat
      Key.zero).Reachable (JumpSession.passedOn, calls) ∧ NoncesUnique calls) ∧
    ∃ calls, (jumpEncryptionSystem SecretBox.nullCipher Protobuf.standard JumpSession.flagFormat
      Key.zero).Reachable (JumpSession.openedOn, calls) ∧ ¬ NoncesUnique calls := by
  obtain ⟨direct, passed, opened⟩ := nonces_for_one_plaintext SecretBox.nullCipher
    Protobuf.standard JumpSession.flagFormat Key.zero
  have empty : ∀ side, (JumpSession.passedOn.far.endpoint side).accepted = [] := fun _ => rfl
  refine ⟨?_, ?_, ?_⟩
  · have step : (sessionSystem SecretBox.nullCipher Protobuf.standard Key.zero).step
        (Session.initial Key.zero) (.client, .write JumpSession.opening)
        (JumpSession.firstWritten JumpSession.opening) := JumpSession.firstWritten_step rfl
    have written : (sessionSystem SecretBox.nullCipher Protobuf.standard Key.zero).Reachable
        (JumpSession.firstWritten JumpSession.opening) := .next (.start rfl) step
    obtain ⟨calls, reached⟩ := written.recorded Session.encrypted
    exact ⟨calls, reached, direct _ reached JumpSession.firstWritten_short⟩
  · obtain ⟨calls, reached⟩ :=
      JumpSession.passedOn_reachableBy.recorded JumpSession.encrypted
    exact ⟨calls, reached.reachable, passed _ reached.reachable JumpSession.passedOn_short empty⟩
  · obtain ⟨calls, reached⟩ :=
      JumpSession.openedOn_reachableBy.recorded JumpSession.encrypted
    refine ⟨calls, reached.reachable, ?_⟩
    intro unique
    have unopened := (opened _ reached JumpSession.passedOn_short).mp unique
    cases unopened .client

end EternalTerminal
