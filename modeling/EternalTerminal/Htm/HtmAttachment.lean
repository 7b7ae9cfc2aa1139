/-
What a client of `htmd` sees of the panes: the scrollback that each had when the client
attached, and from then on all that its shell writes.
-/

import EternalTerminal.Htm.HtmPanes
import EternalTerminal.Htm.HtmWire
import EternalTerminal.Htm.HtmRefinement

namespace EternalTerminal

open Library

namespace HtmServer

open MultiplexerState (textFor terminalData)
open TerminalHandler (Poll)

variable {base64 : Base64} {fd : Fd} {jsonString : MultiplexerState → Bytes}
  {greetings : Greetings} {server after : HtmServer} {endpoint : HtmEndpoint} {event : HtmEvent}
  {state next : MultiplexerState} {command : HtmCommand} {paneId : Bytes}
  {polls before : Bytes → List Poll} {sent : List HtmMessage}

def paneMessages (sent : List HtmMessage) : List MultiplexerState.Message :=
  sent.filterMap fun message =>
    match message with
    | .pane message => some message
    | _ => none

theorem paneMessages_append (sent : List HtmMessage) (more : List MultiplexerState.Message) :
    paneMessages (sent ++ more.map .pane) = paneMessages sent ++ more := by
  rw [paneMessages, List.filterMap_append, List.filterMap_map]
  congr 1
  exact List.filterMap_some

/-- What has been polled of a pane, before a client attached and since, and what the client has
been sent of it. -/
inductive Shown (paneId : Bytes) (before polls : List Poll) (sent : List HtmMessage)
    (terminal : TerminalHandler) : Prop
  | intro {later : List Poll} {earlier chunks : List Bytes} {handler : TerminalHandler} :
      polls = before ++ later →
      TerminalHandler.create.pollAll before = .ok (earlier, handler) →
      handler.pollAll later = .ok (chunks, terminal) →
      textFor paneId (paneMessages sent) = terminalData handler.buffer ++ chunks.flatten →
      Shown paneId before polls sent terminal

structure Traced (state : MultiplexerState) (polls : Bytes → List Poll) : Prop where
  polled {paneId : Bytes} {terminal : TerminalHandler} :
    state.terminalOf paneId = some terminal →
    ∃ chunks, TerminalHandler.create.pollAll (polls paneId) = .ok (chunks, terminal)
  unopened {paneId : Bytes} : paneId ∉ state.panes → paneId ∉ state.closed → polls paneId = []

/-- A client that attached after the polls `before` has been sent `sent`. -/
structure Told (state : MultiplexerState) (polls before : Bytes → List Poll)
    (sent : List HtmMessage) : Prop where
  shown {paneId : Bytes} {terminal : TerminalHandler} :
    state.terminalOf paneId = some terminal →
    Shown paneId (before paneId) (polls paneId) sent terminal
  unopened {paneId : Bytes} : paneId ∉ state.panes → paneId ∉ state.closed →
    before paneId = [] ∧ textFor paneId (paneMessages sent) = []

/-! ### A new client -/

theorem Traced.create (tabId paneId : Uuid) :
    Traced (MultiplexerState.create tabId.bytes paneId.bytes) fun _ => [] := by
  constructor
  · intro id terminal found
    rw [MultiplexerState.create_terminalOf] at found
    split at found
    · cases found
      exact ⟨[], rfl⟩
    · cases found
  · exact fun _ _ => rfl

theorem textFor_recover :
    textFor paneId (paneMessages (recover jsonString greetings state)) =
      textFor paneId state.sendTerminalBuffers := by
  have messages : paneMessages (recover jsonString greetings state) =
      state.sendTerminalBuffers := by
    simp [paneMessages, recover, List.filterMap_append, List.filterMap_map]
  rw [messages]

theorem Traced.told (traced : Traced state polls) :
    Told state polls polls (recover jsonString greetings state) := by
  constructor
  · intro paneId terminal found
    obtain ⟨chunks, polled⟩ := traced.polled found
    obtain ⟨pane, isPane, rfl⟩ := Option.map_eq_some_iff.mp found
    refine .intro (List.append_nil _).symm polled rfl ?_
    rw [textFor_recover, MultiplexerState.textFor_sendTerminalBuffers isPane]
    exact (List.append_nil _).symm
  · intro paneId notLive notClosed
    refine ⟨traced.unopened notLive notClosed, ?_⟩
    rw [textFor_recover]
    exact MultiplexerState.textFor_sendTerminalBuffers_nil notLive

/-! ### A message -/

inductive Arranged (state next : MultiplexerState) : Prop
  | same : next = state → Arranged state next
  | opens {paneId : Bytes} : paneId ∉ state.panes → paneId ∉ state.closed →
      state.Opens paneId next →
      (∀ id, next.terminalOf id =
        if paneId = id then some TerminalHandler.create else state.terminalOf id) →
      Arranged state next
  | closes {paneId : Bytes} : state.Closes paneId next → state.Retires paneId next →
      Arranged state next

theorem Arranges.arranged (arranges : Arranges state command next) (layout : state.Layout)
    {written : Bool} {drawn : Uuid} (same : server.state = state)
    (isNew : server.NewId (.commands command written drawn)) : Arranged state next := by
  subst same
  cases arranges with
  | same => exact .same rfl
  | newTab ok =>
      exact .opens (MultiplexerState.newTab_ok ok).2.1.pane isNew
        (MultiplexerState.newTab_opens ok) fun _ => MultiplexerState.newTab_terminalOf ok
  | newSplit _ _ _ ok =>
      exact .opens (MultiplexerState.newSplit_ok layout ok).1.pane isNew
        (MultiplexerState.newSplit_opens layout ok)
        fun _ => MultiplexerState.newSplit_terminalOf layout ok
  | closePane ok =>
      rcases layout.closePane_ok ok with ⟨_, rfl⟩ | ⟨_, closing, _⟩
      · exact .same rfl
      · exact .closes closing.closes closing.retires

namespace Arranged

theorem terminal (arranged : Arranged state next) {terminal : TerminalHandler}
    (found : next.terminalOf paneId = some terminal) :
    state.terminalOf paneId = some terminal ∨
      paneId ∉ state.panes ∧ paneId ∉ state.closed ∧ terminal = TerminalHandler.create := by
  cases arranged with
  | same same => exact .inl (same ▸ found)
  | @opens opened notLive notClosed _ terminals =>
      rw [terminals] at found
      by_cases isOpened : opened = paneId
      · rw [if_pos isOpened] at found
        cases found
        exact .inr ⟨isOpened ▸ notLive, isOpened ▸ notClosed, rfl⟩
      · rw [if_neg isOpened] at found
        exact .inl found
  | @closes closed closes _ =>
      by_cases isClosed : paneId = closed
      · subst isClosed
        exact absurd (MultiplexerState.mem_of_terminalOf found) closes.gone
      · exact .inl ((closes.terminalOf isClosed).symm.trans found)

theorem unopened (arranged : Arranged state next) (notLive : paneId ∉ next.panes)
    (notClosed : paneId ∉ next.closed) : paneId ∉ state.panes ∧ paneId ∉ state.closed := by
  cases arranged with
  | same same =>
      subst same
      exact ⟨notLive, notClosed⟩
  | opens _ _ opens _ =>
      rw [opens.closed] at notClosed
      exact ⟨fun live => notLive (opens.panes.mpr (.inr live)), notClosed⟩
  | closes _ retires =>
      rw [retires.panes] at notLive
      rw [retires.closed] at notClosed
      obtain ⟨other, stillOpen⟩ := not_or.mp notClosed
      exact ⟨fun live => notLive ⟨other, live⟩, stillOpen⟩

end Arranged

theorem Traced.arranged (traced : Traced state polls) (arranged : Arranged state next) :
    Traced next polls := by
  constructor
  · intro paneId terminal found
    rcases arranged.terminal found with before | ⟨notLive, notClosed, rfl⟩
    · exact traced.polled before
    · rw [traced.unopened notLive notClosed]
      exact ⟨[], rfl⟩
  · intro paneId notLive notClosed
    obtain ⟨wasNotLive, wasNotClosed⟩ := arranged.unopened notLive notClosed
    exact traced.unopened wasNotLive wasNotClosed

theorem Told.arranged (told : Told state polls before sent) (traced : Traced state polls)
    (arranged : Arranged state next) : Told next polls before sent := by
  constructor
  · intro paneId terminal found
    rcases arranged.terminal found with same | ⟨notLive, notClosed, rfl⟩
    · exact told.shown same
    · obtain ⟨noPolls, noText⟩ := told.unopened notLive notClosed
      rw [noPolls, traced.unopened notLive notClosed]
      exact .intro rfl rfl rfl noText
  · intro paneId notLive notClosed
    obtain ⟨wasNotLive, wasNotClosed⟩ := arranged.unopened notLive notClosed
    exact told.unopened wasNotLive wasNotClosed

/-! ### An update -/

section

variable {poll : Bytes → Poll} {taken : MultiplexerState.Message → Bool}
  {messages : List MultiplexerState.Message}

def pollsAfter (state : MultiplexerState) (poll : Bytes → Poll)
    (taken : MultiplexerState.Message → Bool) (polls : Bytes → List Poll) :
    Bytes → List Poll := fun paneId =>
  if paneId ∈ state.polled poll taken then polls paneId ++ [poll paneId] else polls paneId

theorem pollsAfter_kept
    (kept : paneId ∉ (MultiplexerState.updateTrace poll taken state.panes.keys state).1) :
    pollsAfter state poll taken polls paneId = polls paneId := if_neg kept

theorem pollsAfter_polled
    (polled : paneId ∈ (MultiplexerState.updateTrace poll taken state.panes.keys state).1) :
    pollsAfter state poll taken polls paneId = polls paneId ++ [poll paneId] := if_pos polled

theorem Traced.updated (traced : Traced state polls) (layout : state.Layout)
    (ok : state.update poll taken = .ok (messages, next)) :
    Traced next (pollsAfter state poll taken polls) := by
  have onPane := MultiplexerState.updatePanes_pane layout (MultiplexerState.keys_nodup state) ok
  constructor
  · intro paneId terminal found
    cases onPane paneId with
    | kept notPolled same _ =>
        rw [pollsAfter_kept notPolled]
        exact traced.polled (same.symm.trans found)
    | polled isPolled before reads _ result =>
        obtain ⟨chunks, ran⟩ := traced.polled before
        rw [pollsAfter_polled isPolled]
        rcases result with now | gone
        · cases now.symm.trans found
          exact ⟨_, TerminalHandler.pollAll_snoc ran reads⟩
        · cases gone.symm.trans found
  · intro paneId notLive notClosed
    obtain ⟨wasNotLive, wasNotClosed⟩ :=
      MultiplexerState.updatePanes_unopened layout ok notLive notClosed
    cases onPane paneId with
    | kept notPolled _ _ =>
        rw [pollsAfter_kept notPolled]
        exact traced.unopened wasNotLive wasNotClosed
    | polled _ before _ _ _ =>
        exact absurd (MultiplexerState.mem_of_terminalOf before) wasNotLive

theorem Told.updated (told : Told state polls before sent) (layout : state.Layout)
    (ok : state.update poll taken = .ok (messages, next))
    (noThrow : state.updateThrows poll taken = false) :
    Told next (pollsAfter state poll taken polls) before (sent ++ messages.map .pane) := by
  have onPane := MultiplexerState.updatePanes_pane layout (MultiplexerState.keys_nodup state) ok
  constructor
  · intro paneId terminal found
    cases onPane paneId with
    | kept notPolled same silent =>
        rw [pollsAfter_kept notPolled]
        obtain ⟨whole, ranBefore, ran, text⟩ := told.shown (same.symm.trans found)
        refine .intro whole ranBefore ran ?_
        rw [paneMessages_append, MultiplexerState.textFor_append, silent, List.append_nil, text]
    | @polled former now newChars isPolled isFormer reads tells result =>
        rw [pollsAfter_polled isPolled]
        obtain ⟨whole, ranBefore, ran, text⟩ := told.shown isFormer
        rcases result with isNow | gone
        · cases isNow.symm.trans found
          refine .intro (by rw [whole, List.append_assoc]) ranBefore
            (TerminalHandler.pollAll_snoc ran reads) ?_
          have flat : (if newChars = [] then [] else [newChars]).flatten = newChars := by
            split
            · rename_i none
              exact none.symm
            · exact List.append_nil _
          rw [paneMessages_append, MultiplexerState.textFor_append, tells noThrow, text,
            List.flatten_append, flat, List.append_assoc]
        · cases gone.symm.trans found
  · intro paneId notLive notClosed
    obtain ⟨wasNotLive, wasNotClosed⟩ :=
      MultiplexerState.updatePanes_unopened layout ok notLive notClosed
    obtain ⟨noPolls, noText⟩ := told.unopened wasNotLive wasNotClosed
    refine ⟨noPolls, ?_⟩
    cases onPane paneId with
    | kept _ _ silent =>
        rw [paneMessages_append, MultiplexerState.textFor_append, noText, silent]
        rfl
    | polled _ isFormer _ _ _ =>
        exact absurd (MultiplexerState.mem_of_terminalOf isFormer) wasNotLive

end

/-! ### Every run -/

structure Recorded (server : HtmServer) : Prop where
  traced : Traced server.state server.polls
  told {endpoint : HtmEndpoint} : server.endpoint = some endpoint → server.phase.Serves →
    Told server.state server.polls endpoint.before endpoint.sent

namespace Recorded

theorem kept (recorded : Recorded server) (sameState : after.state = server.state)
    (samePolls : after.polls = server.polls)
    (serves : ∀ endpoint, after.endpoint = some endpoint → after.phase.Serves →
      ∃ former, server.endpoint = some former ∧ server.phase.Serves ∧
        endpoint.before = former.before ∧ endpoint.sent = former.sent) : Recorded after := by
  constructor
  · rw [sameState, samePolls]
    exact recorded.traced
  · intro endpoint attached isServing
    obtain ⟨former, wasAttached, wasServing, sameBefore, sameSent⟩ :=
      serves endpoint attached isServing
    rw [sameState, samePolls, sameBefore, sameSent]
    exact recorded.told wasAttached wasServing

theorem idle (recorded : Recorded server) (sameState : after.state = server.state)
    (samePolls : after.polls = server.polls)
    (notServed : after.endpoint = none ∨ ¬ after.phase.Serves) : Recorded after := by
  apply recorded.kept sameState samePolls
  intro endpoint attached isServing
  rcases notServed with detached | notServing
  · cases detached.symm.trans attached
  · exact absurd isServing notServing

theorem resumed (recorded : Recorded server) (layout : server.state.Layout)
    {written : Bool} {drawn : Uuid} (isNew : server.NewIds (.commands command written drawn))
    {former : HtmEndpoint} (wasAttached : server.endpoint = some former)
    (wasServing : server.phase.Serves) (sameBefore : endpoint.before = former.before)
    (sameSent : endpoint.sent = former.sent) :
    Recorded ((server.withEndpoint endpoint).resume
      (handle server.state written drawn.bytes command)) := by
  have told := recorded.told wasAttached wasServing
  rw [← sameBefore, ← sameSent] at told
  cases handled : handle server.state written drawn.bytes command with
  | error message =>
      exact recorded.idle rfl rfl (.inr (show ¬ HtmPhase.terminated.Serves by decide))
  | ok result =>
      cases result with
      | updates next running =>
          have arranged := (handle_ok isNew.1.1 isNew.1.2 handled).arranged layout rfl isNew.2
          constructor
          · exact recorded.traced.arranged arranged
          · rintro _ ⟨⟩ _
            exact told.arranged recorded.traced arranged
      | detaches =>
          constructor
          · exact recorded.traced
          · rintro _ ⟨⟩ _
            exact told
      | throws =>
          exact recorded.idle rfl rfl (.inr (show ¬ HtmPhase.catching.Serves by decide))

theorem updated (recorded : Recorded server) (layout : server.state.Layout)
    (attached : server.endpoint = some endpoint) (serving : server.phase.Serves)
    {poll : Bytes → Poll} {taken : MultiplexerState.Message → Bool} :
    Recorded (server.update endpoint poll taken) := by
  unfold update
  cases ran : server.state.update poll taken with
  | error message =>
      exact recorded.idle rfl rfl (.inr (show ¬ HtmPhase.terminated.Serves by decide))
  | ok result =>
      obtain ⟨messages, next⟩ := result
      constructor
      · exact recorded.traced.updated layout ran
      · rintro _ ⟨⟩ isServing
        cases threw : server.state.updateThrows poll taken with
        | true =>
            dsimp only at isServing
            rw [threw] at isServing
            exact absurd isServing (show ¬ HtmPhase.catching.Serves by decide)
        | false => exact (recorded.told attached serving).updated layout ran threw

theorem step (recorded : Recorded server) (layout : server.state.Layout)
    (isNew : server.NewIds event)
    (step : Step base64 fd jsonString greetings server event after) : Recorded after := by
  cases step with
  | arrives attached _ =>
      refine recorded.kept rfl rfl ?_
      rintro _ ⟨⟩ serving
      exact ⟨_, attached, serving, rfl, rfl⟩
  | hangsUp attached _ =>
      refine recorded.kept rfl rfl ?_
      rintro _ ⟨⟩ serving
      exact ⟨_, attached, serving, rfl, rfl⟩
  | accepts =>
      constructor
      · exact recorded.traced
      · rintro _ ⟨⟩ _
        exact recorded.traced.told
  | idles selecting _ attached _ _ =>
      refine recorded.kept rfl rfl ?_
      intro endpoint isAttached _
      exact ⟨endpoint, isAttached, .inl selecting, rfl, rfl⟩
  | commands selecting _ attached _ =>
      exact recorded.resumed layout isNew attached (.inl selecting) rfl rfl
  | updates updating attached _ => exact recorded.updated layout attached (.inr (.inl updating))
  | closes | returns => exact recorded.idle rfl rfl (.inl rfl)
  | readThrows | readFails | closeThrows =>
      exact recorded.idle rfl rfl (.inr (show ¬ HtmPhase.catching.Serves by decide))
  | acceptFails | lengthError | unknownHeader | closeFails | returnFails =>
      exact recorded.idle rfl rfl (.inr (show ¬ HtmPhase.terminated.Serves by decide))

end Recorded

theorem reachable_recorded
    (reached : (system base64 fd jsonString greetings).ReachableBy NewIds server) :
    Recorded server := by
  induction reached with
  | start initial =>
      obtain ⟨tabId, paneId, rfl⟩ := initial
      exact ⟨Traced.create tabId paneId, nofun⟩
  | next reached isNew step ih =>
      have drawn := reached.mono fun _ _ isNew => isNew.1
      exact ih.step (reachable_layout drawn) isNew step

end HtmServer

namespace HtmWire

open MultiplexerState (textFor terminalData)
open TerminalHandler (Poll)
open HtmServer (paneMessages readCommand sampleServer)

variable {base64 : Base64} {fd : Fd} {jsonString : MultiplexerState → Bytes}
  {greetings : HtmServer.Greetings} {wire : HtmWire} {endpoint : HtmEndpoint} {paneId : Bytes}

/-- The ids are new, and nothing is put out after a `write` that gave up with a part of its buffer
out. -/
def Orderly (wire : HtmWire) (event : HtmWireEvent) : Prop :=
  wire.server.NewIds event.event ∧ event.Once

/-- What a client that is served has been sent is, for every pane, the scrollback of when it
attached and all that the shell has written since, in one piece. -/
theorem panes_shown
    (reached : (system base64 fd jsonString greetings).ReachableBy Orderly wire)
    (attached : wire.server.endpoint = some endpoint) (serves : wire.server.phase.Serves)
    {pane : MultiplexerState.Pane} (live : wire.server.state.panes[paneId]? = some pane) :
    wire.put = HTM_ESCAPE ++ endpoint.sent.flatMap (HtmMessage.frame base64) ∧
    ∃ later earlier handler chunks,
      wire.server.polls paneId = endpoint.before paneId ++ later ∧
      TerminalHandler.create.pollAll (endpoint.before paneId) = .ok (earlier, handler) ∧
      handler.pollAll later = .ok (chunks, pane.terminal) ∧
      textFor paneId (paneMessages endpoint.sent) =
        terminalData handler.buffer ++ chunks.flatten := by
  refine ⟨put_eq (fun _ _ orderly => orderly.2) reached attached serves, ?_⟩
  have found : wire.server.state.terminalOf paneId = some pane.terminal := by
    rw [MultiplexerState.terminalOf, live]
    rfl
  have servers := reachable_server (fun _ _ orderly => orderly.1) reached
  obtain ⟨whole, ranBefore, ran, text⟩ :=
    ((HtmServer.reachable_recorded servers).told attached serves).shown found
  exact ⟨_, _, _, _, whole, ranBefore, ran, text⟩

/-! ### A client that comes back -/

def writes (first : UInt8) (rest : Bytes) (paneId : Bytes) : Poll :=
  if paneId = (MultiplexerState.sampleId 1).bytes then .read first rest else .quiet

def sampleSystem : TransitionSystem HtmWire HtmWireEvent :=
  system Base64.standard 3 (fun _ => []) ⟨[], []⟩

/-- A run in which every `send` takes what it is given. -/
def Runs (server : HtmServer) : Prop := ∃ put, sampleSystem.ReachableBy Orderly ⟨server, put⟩

namespace Runs

variable {before after : HtmServer}

theorem silent (runs : Runs before) (event : HtmEvent)
    (step : HtmServer.sampleSystem.step before event after)
    (silent : event.Silent) (isNew : before.NewIds event) : Runs after := by
  obtain ⟨_, reached⟩ := runs
  exact ⟨_, reached.next ⟨isNew, once_direct event (List.forall_mem_nil _)⟩ (.silent silent step)⟩

theorem accepts (runs : Runs before) (step : HtmServer.sampleSystem.step before .accepts after)
    (small : ∀ buffer ∈ HTM_ESCAPE :: (HtmServer.recover (fun _ => []) ⟨[], []⟩
      before.state).flatMap (HtmMessage.buffers Base64.standard), buffer.length ≤ INT_MAX) :
    Runs after := by
  obtain ⟨_, reached⟩ := runs
  have isNew : before.NewIds .accepts := ⟨trivial, trivial⟩
  exact ⟨_, reached.next ⟨isNew, once_direct _ small⟩ (.accepts step (written_direct _))⟩

theorem updates (poll : Bytes → Poll) {sent : List MultiplexerState.Message}
    {state : MultiplexerState} (runs : Runs before)
    (step : HtmServer.sampleSystem.step before (.updates poll fun _ => true) after)
    (served : after.Served) (ran : before.state.update poll (fun _ => true) = .ok (sent, state))
    (small : ∀ buffer ∈ (sent.map HtmMessage.pane).flatMap (HtmMessage.buffers Base64.standard),
      buffer.length ≤ INT_MAX) : Runs after := by
  obtain ⟨_, reached⟩ := runs
  have isNew : before.NewIds (.updates poll fun _ => true) := ⟨trivial, trivial⟩
  exact ⟨_, reached.next ⟨isNew, once_direct _ small⟩
    (.updates step served ran (written_direct _))⟩

end Runs

theorem panes_shown_again : ∃ wire endpoint pane,
    sampleSystem.ReachableBy Orderly wire ∧
    wire.server.endpoint = some endpoint ∧
    wire.server.state.panes[(MultiplexerState.sampleId 1).bytes]? = some pane ∧
    textFor (MultiplexerState.sampleId 1).bytes (paneMessages endpoint.sent) =
      [97, 10, 98] ++ [99] ∧
    wire.put = HTM_ESCAPE ++ endpoint.sent.flatMap (HtmMessage.frame Base64.standard) ∧
    ∃ later earlier handler chunks,
      wire.server.polls (MultiplexerState.sampleId 1).bytes =
        endpoint.before (MultiplexerState.sampleId 1).bytes ++ later ∧
      TerminalHandler.create.pollAll (endpoint.before (MultiplexerState.sampleId 1).bytes) =
        .ok (earlier, handler) ∧
      handler.pollAll later = .ok (chunks, pane.terminal) ∧
      textFor (MultiplexerState.sampleId 1).bytes (paneMessages endpoint.sent) =
        terminalData handler.buffer ++ chunks.flatten := by
  let escape := HtmCommand.insertDebugKeys [27]
  have fits : escape.Fits Base64.standard := ⟨nofun, show IsInt 1 by decide, nofun⟩
  have reads : readFrom (readCommand Base64.standard 3) (escape.frame Base64.standard ++ []) =
      .returned escape [] := HtmServer.readCommand_frame fits []
  have start : Runs sampleServer := ⟨[], .start ⟨⟨_, _, rfl⟩, rfl⟩⟩
  have attached := start.accepts (.accepts rfl rfl rfl) (by decide +kernel)
  have polls := attached.silent .idles (.idles rfl rfl rfl rfl rfl) trivial ⟨trivial, trivial⟩
  have scrolled := polls.updates (writes 97 [10, 98]) (.updates rfl rfl nofun)
    ⟨rfl, by decide +kernel⟩ rfl (by decide +kernel)
  -- the escape key in the debug pane
  have arrives := scrolled.silent (.arrives (escape.frame Base64.standard ++ []))
    (.arrives rfl rfl) trivial ⟨trivial, trivial⟩
  have isNew : (MultiplexerState.sampleId 9).bytes ∉ escape.ids := List.not_mem_nil
  have detaches := arrives.silent (.commands escape true (MultiplexerState.sampleId 9))
    (.commands rfl rfl rfl reads) trivial
    ⟨⟨⟨by decide +kernel, by decide +kernel, by decide +kernel⟩, isNew⟩, trivial⟩
  have leaves := detaches.silent .closes (.closes (.inl rfl) rfl rfl) trivial ⟨trivial, trivial⟩
  have again := leaves.accepts (.accepts rfl rfl rfl) (by decide +kernel)
  have polls := again.silent .idles (.idles rfl rfl rfl rfl rfl) trivial ⟨trivial, trivial⟩
  obtain ⟨_, reached⟩ := polls.updates (writes 99 []) (.updates rfl rfl nofun)
    ⟨rfl, by decide +kernel⟩ rfl (by decide +kernel)
  exact ⟨_, _, _, reached, rfl, rfl, rfl, panes_shown reached rfl (.inl rfl) rfl⟩

end HtmWire

end EternalTerminal
