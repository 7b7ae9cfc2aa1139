/-
A client that hangs up before it has been sent the end of the session.

`closeEndpoint` writes that end, so it fails, and in the exception handler of `run` nothing
catches what it throws.
-/

import EternalTerminal.Htm.HtmPanes

namespace EternalTerminal

open Library

namespace HtmServer

variable {base64 : Base64} {fd : Fd} {jsonString : MultiplexerState → Bytes}
  {greetings : Greetings} {server after : HtmServer} {endpoint : HtmEndpoint} {event : HtmEvent}
  {sent : List HtmMessage}

/-- The client is gone, and `run` has not returned. -/
structure Deserted (sent : List HtmMessage) (server : HtmServer) : Prop where
  gone : ∃ endpoint, server.endpoint = some endpoint ∧ endpoint.hungUp = true ∧
    endpoint.sent = sent
  notFinished : server.phase ≠ .finished

def budget (server : HtmServer) : Nat :=
  let unread := (server.endpoint.elim [] HtmEndpoint.incoming).length
  match server.phase with
  | .selecting => 2 * unread + 2
  | .updating => 2 * unread + 3
  | .detaching => 2
  | .catching => 1
  | .finished => 0
  | .terminated => 0

theorem budget_selecting (selecting : server.phase = .selecting)
    (attached : server.endpoint = some endpoint) :
    server.budget = 2 * endpoint.incoming.length + 2 := by
  rw [budget, selecting, attached]
  rfl

theorem budget_updating (updating : server.phase = .updating)
    (attached : server.endpoint = some endpoint) :
    server.budget = 2 * endpoint.incoming.length + 3 := by
  rw [budget, updating, attached]
  rfl

theorem readCommand_length {command : HtmCommand} {incoming rest : Bytes}
    (read : readFrom (readCommand base64 fd) incoming = .returned command rest) :
    rest.length < incoming.length := by
  obtain ⟨header, left, readHeader, read⟩ := readFrom_bind_ok read
  obtain ⟨split, one⟩ := readAll_ok readHeader
  have shorter := readFrom_length read
  rw [split, List.length_append]
  omega

namespace Deserted

theorem withPhase (deserted : Deserted sent server) {phase : HtmPhase}
    (goesOn : phase ≠ .finished) :
    Deserted sent (server.withPhase phase) := ⟨deserted.gone, goesOn⟩

theorem resumed (deserted : Deserted sent server) (attached : server.endpoint = some endpoint)
    (selecting : server.phase = .selecting) {command : HtmCommand} {rest : Bytes}
    (read : readFrom (readCommand base64 fd) endpoint.incoming = .returned command rest)
    (result : Except String Handled) :
    Deserted sent ((server.withEndpoint (endpoint.consume command rest)).resume result) ∧
      ((server.withEndpoint (endpoint.consume command rest)).resume result).budget <
        server.budget := by
  obtain ⟨⟨former, wasAttached, hungUp, sameSent⟩, _⟩ := deserted
  cases attached.symm.trans wasAttached
  have shorter := readCommand_length read
  rw [budget_selecting selecting attached]
  have gone : ∃ later, some (endpoint.consume command rest) = some later ∧ later.hungUp = true ∧
      later.sent = sent := ⟨_, rfl, hungUp, sameSent⟩
  cases result with
  | error message =>
      refine ⟨⟨gone, nofun⟩, ?_⟩
      show 0 < _
      omega
  | ok handled =>
      cases handled with
      | updates state running =>
          refine ⟨⟨gone, nofun⟩, ?_⟩
          show 2 * rest.length + 3 < _
          omega
      | detaches =>
          refine ⟨⟨gone, nofun⟩, ?_⟩
          show 2 < _
          omega
      | throws =>
          refine ⟨⟨gone, nofun⟩, ?_⟩
          show 1 < _
          omega

theorem updated (deserted : Deserted sent server) (attached : server.endpoint = some endpoint)
    (updating : server.phase = .updating) {poll : Bytes → TerminalHandler.Poll}
    {taken : MultiplexerState.Message → Bool}
    (refuses : endpoint.hungUp = true → ∀ message, taken message = false) :
    Deserted sent (server.update endpoint poll taken) ∧
      (server.update endpoint poll taken).budget < server.budget := by
  obtain ⟨⟨former, wasAttached, hungUp, sameSent⟩, _⟩ := deserted
  cases attached.symm.trans wasAttached
  rw [budget_updating updating attached]
  unfold update
  cases ran : server.state.update poll taken with
  | error message =>
      refine ⟨⟨⟨endpoint, attached, hungUp, sameSent⟩, nofun⟩, ?_⟩
      show 0 < _
      omega
  | ok result =>
      obtain ⟨messages, state⟩ := result
      have nothing : messages = [] := by
        apply List.eq_nil_iff_forall_not_mem.mpr
        intro message isSent
        have isTaken := MultiplexerState.updatePanes_taken ran message isSent
        rw [refuses hungUp message] at isTaken
        cases isTaken
      subst nothing
      have gone : ∃ later, some (endpoint.tell []) = some later ∧ later.hungUp = true ∧
          later.sent = sent :=
        ⟨_, rfl, hungUp, (List.append_nil _).trans sameSent⟩
      cases threw : server.state.updateThrows poll taken with
      | true =>
          refine ⟨⟨gone, nofun⟩, ?_⟩
          show 1 < _
          omega
      | false =>
          refine ⟨⟨gone, nofun⟩, ?_⟩
          show 2 * endpoint.incoming.length + 2 < _
          omega

theorem step (deserted : Deserted sent server)
    (step : Step base64 fd jsonString greetings server event after) :
    Deserted sent after ∧ after.budget < server.budget := by
  obtain ⟨former, wasAttached, hungUp, _⟩ := deserted.gone
  have notHere {endpoint : HtmEndpoint} (attached : server.endpoint = some endpoint)
      (isHere : endpoint.hungUp = false) : False := by
    cases wasAttached.symm.trans attached
    cases hungUp.symm.trans isHere
  have selects {phase : HtmPhase} (selecting : server.phase = .selecting)
      (stops : phase = .catching ∨ phase = .terminated) :
      Deserted sent (server.withPhase phase) ∧ (server.withPhase phase).budget < server.budget := by
    rw [budget_selecting selecting wasAttached]
    rcases stops with rfl | rfl
    · refine ⟨deserted.withPhase nofun, ?_⟩
      show 1 < _
      omega
    · refine ⟨deserted.withPhase nofun, ?_⟩
      show 0 < _
      omega
  cases step with
  | arrives attached isHere => exact (notHere attached isHere).elim
  | hangsUp attached isHere => exact (notHere attached isHere).elim
  | accepts _ _ detached => cases wasAttached.symm.trans detached
  | acceptFails _ _ detached => cases wasAttached.symm.trans detached
  | idles _ _ attached _ isHere => exact (notHere attached isHere).elim
  | commands selecting _ attached read => exact deserted.resumed attached selecting read _
  | readThrows selecting | readFails selecting => exact selects selecting (.inl rfl)
  | lengthError selecting | unknownHeader selecting | returnFails selecting =>
      exact selects selecting (.inr rfl)
  | updates updating attached refuses => exact deserted.updated attached updating refuses
  | closes _ attached isHere => exact (notHere attached isHere).elim
  | closeThrows detaching =>
      refine ⟨deserted.withPhase nofun, ?_⟩
      show 1 < server.budget
      rw [budget, detaching]
      exact Nat.lt_succ_self 1
  | closeFails catching =>
      refine ⟨deserted.withPhase nofun, ?_⟩
      show 0 < server.budget
      rw [budget, catching]
      exact Nat.zero_lt_one
  | returns _ _ attached isHere => exact (notHere attached isHere).elim

theorem goesOn (deserted : Deserted sent server) (alive : server.phase ≠ .terminated) :
    ∃ event after, Step base64 fd jsonString greetings server event after := by
  obtain ⟨endpoint, attached, hungUp, _⟩ := deserted.gone
  cases phase : server.phase with
  | selecting =>
      by_cases running : server.running = true
      · cases read : readFrom (readCommand base64 fd) endpoint.incoming with
        | waits => exact ⟨_, _, .readFails phase running attached read hungUp⟩
        | returned command rest =>
            exact ⟨.commands command true (MultiplexerState.sampleId 0), _,
              .commands phase running attached read⟩
        | aborted message => exact ⟨_, _, .unknownHeader phase running attached read⟩
        | raised exn =>
            by_cases isRuntime : ∃ what, exn = .runtimeError what
            · obtain ⟨what, rfl⟩ := isRuntime
              exact ⟨_, _, .readThrows phase running attached read⟩
            · exact ⟨_, _, .lengthError phase running attached read
                fun what same => isRuntime ⟨what, same⟩⟩
      · exact ⟨_, _, .returnFails phase (Bool.eq_false_of_not_eq_true running)⟩
  | updating =>
      exact ⟨.updates (fun _ => .quiet) fun _ => false, _,
        .updates phase attached fun _ _ => rfl⟩
  | detaching => exact ⟨_, _, .closeThrows phase⟩
  | catching => exact ⟨_, _, .closeFails phase⟩
  | finished => exact absurd phase deserted.notFinished
  | terminated => exact absurd phase alive

end Deserted

/-- When `run` has returned, it has closed the endpoint. -/
theorem reachable_finished (reached : (system base64 fd jsonString greetings).Reachable server) :
    server.phase = .finished → server.endpoint = none := by
  induction reached with
  | start initial =>
      obtain ⟨_, _, rfl⟩ := initial
      exact fun _ => rfl
  | next _ _ step ih =>
      intro finished
      cases step with
      | arrives attached _ | hangsUp attached _ => cases (ih finished).symm.trans attached
      | accepts selecting _ _ => cases selecting.symm.trans finished
      | commands selecting _ _ _ =>
          rename_i endpoint command rest written drawn _ _ _
          generalize handle _ _ _ _ = result at finished
          cases result with
          | error message => cases finished
          | ok handled => cases handled <;> cases finished
      | updates _ _ _ =>
          unfold update at finished
          split at finished
          · cases finished
          · dsimp only at finished
            split at finished <;> cases finished
      | returns => rfl
      | closes => rfl
      | acceptFails | idles | readThrows | readFails | lengthError | unknownHeader
      | closeThrows | closeFails | returnFails => cases finished

/-- A client that hangs up while it is attached takes `htmd` with it: from then on it is sent
nothing, no other client attaches, `run` does not return, and the process goes on for a few
steps until it is terminated. -/
theorem hang_up_terminates (reached : (system base64 fd jsonString greetings).Reachable server)
    (attached : server.endpoint = some endpoint) (hungUp : endpoint.hungUp = true)
    {events : List HtmEvent}
    (path : (system base64 fd jsonString greetings).Path server events after) :
    events.length ≤ 2 * endpoint.incoming.length + 3 ∧
      (∃ later, after.endpoint = some later ∧ later.hungUp = true ∧
        later.sent = endpoint.sent) ∧
      after.phase ≠ .finished ∧
      (after.phase = .terminated ∨
        ∃ event next, (system base64 fd jsonString greetings).step after event next) := by
  have notFinished : server.phase ≠ .finished := by
    intro finished
    cases (reachable_finished reached finished).symm.trans attached
  have deserted : Deserted endpoint.sent server := ⟨⟨endpoint, attached, hungUp, rfl⟩, notFinished⟩
  obtain ⟨desertedAfter, bounded⟩ := path.length_le budget (Deserted endpoint.sent)
    (fun deserted step => (deserted.step step).1)
    (fun deserted step => (deserted.step step).2) deserted
  have budgeted : server.budget ≤ 2 * endpoint.incoming.length + 3 := by
    unfold budget
    rw [attached]
    dsimp only [Option.elim]
    split <;> omega
  refine ⟨by omega, desertedAfter.gone, desertedAfter.notFinished, ?_⟩
  by_cases terminated : after.phase = .terminated
  · exact .inl terminated
  · exact .inr (desertedAfter.goesOn terminated)

/-- The first client hangs up, and `htmd` reads on. -/
theorem hang_up_terminates_first : ∃ server endpoint after events,
    sampleSystem.Reachable server ∧ server.endpoint = some endpoint ∧ endpoint.hungUp = true ∧
    sampleSystem.Path server events after ∧ events = [.readThrows, .closeFails] ∧
    after.phase = .terminated ∧
    events.length ≤ 2 * endpoint.incoming.length + 3 ∧
      (∃ later, after.endpoint = some later ∧ later.hungUp = true ∧
        later.sent = endpoint.sent) ∧
      after.phase ≠ .finished ∧
      (after.phase = .terminated ∨ ∃ event next, sampleSystem.step after event next) := by
  let deserted := firstClient.withEndpoint firstEndpoint.hangUp
  have attached : sampleSystem.Reachable firstClient := firstClient_reached trivial
  have hangsUp : sampleSystem.step firstClient .hangsUp deserted := .hangsUp rfl rfl
  have throws : sampleSystem.step deserted .readThrows (deserted.withPhase .catching) :=
    .readFails rfl rfl rfl rfl rfl
  have fails : sampleSystem.step (deserted.withPhase .catching) .closeFails
      (deserted.withPhase .terminated) := .closeFails rfl
  have reached := attached.next hangsUp
  have path := (TransitionSystem.Path.single throws).append (.single fails)
  exact ⟨_, _, _, _, reached, rfl, rfl, path, rfl, rfl, hang_up_terminates reached rfl rfl path⟩

end HtmServer

end EternalTerminal
