/-
The state of `htmd` is one of the multiplexer's, whatever its clients send and wherever they
break off.
-/

import EternalTerminal.Htm.HtmServer

namespace EternalTerminal

open Library

namespace HtmServer

open MultiplexerState (htmSystem)

variable {base64 : Base64} {fd : Fd} {jsonString : MultiplexerState → Bytes}
  {greetings : Greetings} {server after : HtmServer} {event : HtmEvent}
  {state next : MultiplexerState} {command : HtmCommand} {written running : Bool} {drawn : Uuid}

/-- What `sole::uuid4` draws is new. -/
def Draws (server : HtmServer) : HtmEvent → Prop
  | .commands command _ drawn => server.state.Fresh drawn.bytes ∧ drawn.bytes ∉ command.ids
  | _ => True

/-- The message gives no new pane the id of a closed one. -/
def NewId (server : HtmServer) : HtmEvent → Prop
  | .commands (.newTab _ paneId) _ _ => paneId ∉ server.state.closed
  | .commands (.newSplit _ paneId _) _ _ => paneId ∉ server.state.closed
  | _ => True

/-! ### One message -/

inductive Arranges (state : MultiplexerState) : HtmCommand → MultiplexerState → Prop
  | same {command : HtmCommand} : Arranges state command state
  | newTab {next : MultiplexerState} {tabId paneId : Bytes} :
      state.newTab tabId paneId = .ok next → Arranges state (.newTab tabId paneId) next
  | newSplit {next : MultiplexerState} {sourceId paneId uuid : Bytes} {vertical : UInt8} :
      state.Fresh uuid → paneId ≠ uuid → uuid.length = UUID_LENGTH →
      state.newSplit sourceId paneId (vertical = 49) uuid = .ok next →
      Arranges state (.newSplit sourceId paneId vertical) next
  | closePane {next : MultiplexerState} {paneId : Bytes} :
      state.closePane paneId = .ok next → Arranges state (.closePane paneId) next

theorem handle_ok (fresh : state.Fresh drawn.bytes) (unnamed : drawn.bytes ∉ command.ids)
    (ok : handle state written drawn.bytes command = .ok (.updates next running)) :
    Arranges state command next := by
  cases command with
  | insertKeys uid data =>
      rw [handle] at ok
      split at ok
      · by_cases goesOn : data = [] ∨ written = true
        · rw [if_pos goesOn] at ok
          cases ok
          exact .same
        · rw [if_neg goesOn] at ok
          cases ok
      · cases ok
  | insertDebugKeys data =>
      rw [handle] at ok
      split at ok
      · cases ok
        exact .same
      split at ok
      · cases ok
      · cases ok
        exact .same
  | newTab tabId paneId =>
      obtain ⟨opened, opens, ok⟩ := except_bind_ok ok
      cases ok
      exact .newTab opens
  | newSplit sourceId paneId vertical =>
      obtain ⟨opened, opens, ok⟩ := except_bind_ok ok
      cases ok
      have different : paneId ≠ drawn.bytes := by
        rintro rfl
        exact unnamed (List.mem_cons_of_mem _ List.mem_cons_self)
      exact .newSplit fresh different drawn.length_eq opens
  | resizePane cols rows paneId =>
      obtain ⟨pane, _, ok⟩ := except_bind_ok ok
      cases ok
      exact .same
  | closePane paneId =>
      obtain ⟨closed, closes, ok⟩ := except_bind_ok ok
      cases ok
      exact .closePane closes

theorem Arranges.step (arranges : Arranges state command next)
    (isUuid : ∀ id ∈ command.ids, id.length = UUID_LENGTH) :
    next = state ∨ ∃ action, MultiplexerState.Step state action next := by
  cases arranges with
  | same => exact .inl rfl
  | @newTab _ tabId paneId ok =>
      have isTab := isUuid tabId List.mem_cons_self
      have isPane := isUuid paneId (List.mem_cons_of_mem _ List.mem_cons_self)
      exact .inr ⟨.newTab ⟨tabId, isTab⟩ ⟨paneId, isPane⟩, .newTab ok⟩
  | @newSplit _ sourceId paneId uuid vertical fresh different isUuidToo ok =>
      have isSource := isUuid sourceId List.mem_cons_self
      have isPane := isUuid paneId (List.mem_cons_of_mem _ List.mem_cons_self)
      exact .inr ⟨.newSplit ⟨sourceId, isSource⟩ ⟨paneId, isPane⟩ (vertical = 49)
        ⟨uuid, isUuidToo⟩, .newSplit fresh different ok⟩
  | @closePane _ paneId ok =>
      exact .inr ⟨.closePane ⟨paneId, isUuid paneId List.mem_cons_self⟩, .closePane ok⟩

/-! ### One step -/

/-- Where the state of `after` comes from. -/
inductive Turn (server : HtmServer) (event : HtmEvent) (after : HtmServer) : Prop
  | kept : after.state = server.state → Turn server event after
  | arranged {command : HtmCommand} {written : Bool} {drawn : Uuid} :
      event = .commands command written drawn →
      (∀ id ∈ command.ids, id.length = UUID_LENGTH) →
      Arranges server.state command after.state → Turn server event after
  | updated {poll : Bytes → TerminalHandler.Poll} {taken : MultiplexerState.Message → Bool}
      {sent : List MultiplexerState.Message} :
      event = .updates poll taken → server.state.update poll taken = .ok (sent, after.state) →
      Turn server event after

theorem resume_state (server : HtmServer) (result : Except String Handled) :
    (server.resume result).state = server.state ∨
      ∃ running, result = .ok (.updates (server.resume result).state running) := by
  cases result with
  | error message => exact .inl rfl
  | ok handled =>
      cases handled with
      | updates state running => exact .inr ⟨running, rfl⟩
      | detaches | throws => exact .inl rfl

theorem Step.turn (draws : server.Draws event)
    (step : Step base64 fd jsonString greetings server event after) :
    Turn server event after := by
  cases step with
  | @commands endpoint command rest written drawn _ _ attached read =>
      rcases resume_state (server.withEndpoint (endpoint.consume command rest))
          (handle server.state written drawn.bytes command) with same | ⟨running, ok⟩
      · exact .kept same
      · exact .arranged rfl (readCommand_ids read) (handle_ok draws.1 draws.2 ok)
  | @updates endpoint poll taken _ _ _ =>
      cases updated : server.state.update poll taken with
      | error message =>
          apply Turn.kept
          rw [update, updated]
          rfl
      | ok result =>
          refine .updated rfl (?_ : _ = Except.ok (result.1, _))
          rw [update, updated]
  | arrives | hangsUp | accepts | acceptFails | idles | readThrows | readFails | lengthError
  | unknownHeader | closes | closeThrows | closeFails | returns | returnFails => exact .kept rfl

/-! ### Every run -/

theorem reachable_state
    (reached : (system base64 fd jsonString greetings).ReachableBy Draws server) :
    htmSystem.Reachable server.state := by
  induction reached with
  | start initial =>
      obtain ⟨tabId, paneId, rfl⟩ := initial
      exact .start ⟨tabId, paneId, rfl⟩
  | next _ draws step ih =>
      cases step.turn draws with
      | kept same => exact same ▸ ih
      | arranged _ isUuid arranges =>
          rcases arranges.step isUuid with same | ⟨action, arranged⟩
          · exact same ▸ ih
          · exact TransitionSystem.Reachable.next ih arranged
      | updated _ ok => exact TransitionSystem.Reachable.next ih (.update ok)

theorem reachable_layout
    (reached : (system base64 fd jsonString greetings).ReachableBy Draws server) :
    server.state.Layout :=
  MultiplexerState.reachable_layout (reachable_state reached)

/-- The ids are new: what is drawn, and what a client gives to a pane. -/
def NewIds (server : HtmServer) (event : HtmEvent) : Prop := server.Draws event ∧ server.NewId event

end HtmServer

end EternalTerminal
