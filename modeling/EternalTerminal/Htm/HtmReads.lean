/-
What `htmd` carries out of what a client sends: its messages, in their order and as soon as they
are whole, however they arrive.
-/

import EternalTerminal.Htm.HtmServer

namespace EternalTerminal

open Library

namespace HtmServer

variable {base64 : Base64} {fd : Fd} {jsonString : MultiplexerState → Bytes}
  {greetings : Greetings} {server after : HtmServer} {endpoint endpointAfter : HtmEndpoint}
  {event : HtmEvent}

/-! ### What a step does to the endpoint -/

@[simp] theorem resume_endpoint (server : HtmServer) (result : Except String Handled) :
    (server.resume result).endpoint = server.endpoint := by
  cases result with
  | error message => rfl
  | ok handled => cases handled <;> rfl

inductive Took (base64 : Base64) (fd : Fd) (endpoint after : HtmEndpoint) : Prop
  | kept : after.incoming = endpoint.incoming → after.arrived = endpoint.arrived →
      after.executed = endpoint.executed → Took base64 fd endpoint after
  | received {bytes : Bytes} : after = endpoint.receive bytes → Took base64 fd endpoint after
  | consumed {command : HtmCommand} {rest : Bytes} :
      readFrom (readCommand base64 fd) endpoint.incoming = .returned command rest →
      after = endpoint.consume command rest → Took base64 fd endpoint after

/-- An endpoint that has not received anything. -/
structure Blank (endpoint : HtmEndpoint) : Prop where
  incoming : endpoint.incoming = []
  arrived : endpoint.arrived = []
  executed : endpoint.executed = []

theorem Took.of_eq {base64 : Base64} {fd : Fd}
    (attached : server.endpoint = some endpointAfter) :
    ∃ endpoint, server.endpoint = some endpoint ∧ Took base64 fd endpoint endpointAfter :=
  ⟨endpointAfter, attached, .kept rfl rfl rfl⟩

theorem update_took {base64 : Base64} {fd : Fd} {poll : Bytes → TerminalHandler.Poll}
    {taken : MultiplexerState.Message → Bool} (attached : server.endpoint = some endpoint)
    (attachedAfter : (server.update endpoint poll taken).endpoint = some endpointAfter) :
    Took base64 fd endpoint endpointAfter := by
  unfold update at attachedAfter
  split at attachedAfter
  · cases attached.symm.trans attachedAfter
    exact .kept rfl rfl rfl
  · cases attachedAfter
    exact .kept rfl rfl rfl

theorem Step.took (step : Step base64 fd jsonString greetings server event after)
    (attachedAfter : after.endpoint = some endpointAfter) :
    Blank endpointAfter ∨
      ∃ endpoint, server.endpoint = some endpoint ∧ Took base64 fd endpoint endpointAfter := by
  cases step with
  | arrives attached _ =>
      cases attachedAfter
      exact .inr ⟨_, attached, .received rfl⟩
  | hangsUp attached _ =>
      cases attachedAfter
      exact .inr ⟨_, attached, .kept rfl rfl rfl⟩
  | accepts =>
      cases attachedAfter
      exact .inl ⟨rfl, rfl, rfl⟩
  | commands _ _ attached read =>
      rw [resume_endpoint] at attachedAfter
      cases attachedAfter
      exact .inr ⟨_, attached, .consumed read rfl⟩
  | updates _ attached _ => exact .inr ⟨_, attached, update_took attached attachedAfter⟩
  | closes | returns => cases attachedAfter
  | acceptFails | idles | readThrows | readFails | lengthError | unknownHeader | closeThrows
  | closeFails | returnFails => exact .inr (Took.of_eq attachedAfter)

/-! ### The messages that have been read -/

inductive Consumed (base64 : Base64) (fd : Fd) (arrived : Bytes) :
    List HtmCommand → Bytes → Prop
  | none : Consumed base64 fd arrived [] arrived
  | next {commands : List HtmCommand} {command : HtmCommand} {incoming rest : Bytes} :
      Consumed base64 fd arrived commands incoming →
      readFrom (readCommand base64 fd) incoming = .returned command rest →
      Consumed base64 fd arrived (commands ++ [command]) rest

namespace Consumed

variable {arrived incoming rest : Bytes} {executed commands : List HtmCommand}

theorem append (consumed : Consumed base64 fd arrived executed incoming) (more : Bytes) :
    Consumed base64 fd (arrived ++ more) executed (incoming ++ more) := by
  induction consumed with
  | none => exact .none
  | next _ read ih => exact .next ih (readFrom_append read more)

theorem took (consumed : Consumed base64 fd endpoint.arrived endpoint.executed endpoint.incoming)
    (took : Took base64 fd endpoint endpointAfter) :
    Consumed base64 fd endpointAfter.arrived endpointAfter.executed endpointAfter.incoming := by
  cases took with
  | kept sameIncoming sameArrived sameExecuted =>
      rw [sameIncoming, sameArrived, sameExecuted]
      exact consumed
  | received same =>
      rw [same]
      exact consumed.append _
  | consumed read same =>
      rw [same]
      exact .next consumed read

end Consumed

theorem reachable_consumed
    (reached : (system base64 fd jsonString greetings).Reachable server)
    (attached : server.endpoint = some endpoint) :
    Consumed base64 fd endpoint.arrived endpoint.executed endpoint.incoming := by
  induction reached generalizing endpoint with
  | start initial =>
      obtain ⟨_, _, rfl⟩ := initial
      cases attached
  | next _ _ step ih =>
      rcases step.took attached with blank | ⟨former, wasAttached, took⟩
      · rw [blank.arrived, blank.executed, blank.incoming]
        exact .none
      · exact (ih wasAttached).took took

/-! ### Whole messages -/

theorem reads_frame_iff {command : HtmCommand} (fits : command.Fits base64) {incoming rest : Bytes}
    (isPrefix : incoming <+: command.frame base64 ++ rest) :
    (∃ read left, readFrom (readCommand base64 fd) incoming = .returned read left) ↔
      command.frame base64 <+: incoming := by
  obtain ⟨more, whole⟩ := isPrefix
  have readsWhole : readFrom (readCommand base64 fd) (command.frame base64 ++ rest) =
      .returned command rest := readCommand_frame fits rest
  rw [← whole] at readsWhole
  constructor
  · rintro ⟨read, left, reads⟩
    have later := (readFrom_append reads more).symm.trans readsWhole
    injection later with same others
    rw [← others, ← List.append_assoc] at whole
    exact ⟨left, (List.append_cancel_right whole).symm⟩
  · rintro ⟨left, rfl⟩
    exact ⟨command, left, readCommand_frame fits left⟩

theorem readCommand_nil : readFrom (readCommand base64 fd) [] = .waits := rfl

theorem Consumed.frames {arrived incoming : Bytes} {executed commands : List HtmCommand}
    (consumed : Consumed base64 fd arrived executed incoming)
    (fits : ∀ command ∈ commands, command.Fits base64)
    (arrives : arrived <+: commands.flatMap (HtmCommand.frame base64)) :
    executed <+: commands ∧
      arrived = executed.flatMap (HtmCommand.frame base64) ++ incoming := by
  induction consumed with
  | none => exact ⟨List.nil_prefix, rfl⟩
  | @next earlier command incoming rest _ read ih =>
      obtain ⟨⟨others, rfl⟩, split⟩ := ih
      rw [split, List.flatMap_append, List.prefix_append_right_inj] at arrives
      cases others with
      | nil =>
          rw [List.prefix_nil.mp arrives, readCommand_nil] at read
          cases read
      | cons next later =>
          have nextFits := fits next (by simp)
          rw [List.flatMap_cons] at arrives
          obtain ⟨left, rfl⟩ := (reads_frame_iff nextFits arrives).mp ⟨command, rest, read⟩
          have same := (readCommand_frame nextFits left).symm.trans read
          injection same with same others
          subst same others
          constructor
          · exact ⟨later, by simp⟩
          · rw [split]
            simp

/-- Of what arrives of a client's messages, `htmd` has carried out the first ones and holds the
rest, and it can go on exactly when the next message is whole. -/
theorem messages_executed (reached : (system base64 fd jsonString greetings).Reachable server)
    (attached : server.endpoint = some endpoint) {commands : List HtmCommand}
    (fits : ∀ command ∈ commands, command.Fits base64)
    (arrives : endpoint.arrived <+: commands.flatMap (HtmCommand.frame base64)) :
    endpoint.arrived = endpoint.executed.flatMap (HtmCommand.frame base64) ++ endpoint.incoming ∧
      ∃ later, commands = endpoint.executed ++ later ∧
        ((∃ command rest,
            readFrom (readCommand base64 fd) endpoint.incoming = .returned command rest) ↔
          ∃ command others, later = command :: others ∧
            command.frame base64 <+: endpoint.incoming) := by
  obtain ⟨⟨later, whole⟩, split⟩ := (reachable_consumed reached attached).frames fits arrives
  refine ⟨split, later, whole.symm, ?_⟩
  rw [split, ← whole, List.flatMap_append, List.prefix_append_right_inj] at arrives
  cases later with
  | nil =>
      rw [List.prefix_nil.mp arrives]
      exact iff_of_false (by rintro ⟨_, _, ⟨⟩⟩) (by rintro ⟨_, _, ⟨⟩, _⟩)
  | cons next others =>
      rw [List.flatMap_cons] at arrives
      rw [reads_frame_iff (fits next (by simp [← whole])) arrives]
      constructor
      · exact fun isWhole => ⟨next, others, rfl, isWhole⟩
      · rintro ⟨_, _, same, isWhole⟩
        cases same
        exact isWhole

/-- A key in the debug pane, and the first byte of another. -/
theorem messages_executed_debug_key : ∃ server endpoint,
    sampleSystem.Reachable server ∧ server.endpoint = some endpoint ∧
    endpoint.executed = [.insertDebugKeys [100]] ∧ endpoint.incoming = [INSERT_DEBUG_KEYS] ∧
    endpoint.arrived = endpoint.executed.flatMap (HtmCommand.frame Base64.standard) ++
      endpoint.incoming ∧
      ∃ later, [.insertDebugKeys [100], .insertDebugKeys [120]] = endpoint.executed ++ later ∧
        ((∃ command rest, readFrom (readCommand Base64.standard 3) endpoint.incoming =
            .returned command rest) ↔
          ∃ command others, later = command :: others ∧
            command.frame Base64.standard <+: endpoint.incoming) := by
  have fits (byte : UInt8) : (HtmCommand.insertDebugKeys [byte]).Fits Base64.standard :=
    ⟨nofun, show IsInt 1 by decide, nofun⟩
  let bytes := (HtmCommand.insertDebugKeys [100]).frame Base64.standard ++ [INSERT_DEBUG_KEYS]
  let received := firstEndpoint.receive bytes
  have arrives : sampleSystem.step firstClient (.arrives bytes)
      (firstClient.withEndpoint received) := .arrives rfl rfl
  have read : readFrom (readCommand Base64.standard 3) received.incoming =
      .returned (.insertDebugKeys [100]) [INSERT_DEBUG_KEYS] := readCommand_frame (fits 100) _
  have commands : sampleSystem.step (firstClient.withEndpoint received)
      (.commands (.insertDebugKeys [100]) true (MultiplexerState.sampleId 9)) _ :=
    .commands rfl rfl rfl read
  have attached : sampleSystem.Reachable firstClient := firstClient_reached trivial
  have reached := (attached.next arrives).next commands
  refine ⟨_, _, reached, rfl, rfl, rfl, messages_executed reached rfl ?_ ?_⟩
  · intro command member
    simp only [List.mem_cons, List.not_mem_nil, or_false] at member
    rcases member with rfl | rfl
    · exact fits 100
    · exact fits 120
  · exact ⟨_, rfl⟩

end HtmServer

end EternalTerminal
