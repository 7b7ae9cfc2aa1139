/-
When a step of `htmd` ends the process.
-/

import EternalTerminal.Htm.HtmPanes
import EternalTerminal.Htm.HtmRefinement
import EternalTerminal.Htm.ScrollbackLimits

namespace EternalTerminal

open Library

theorem TerminalHandler.receive_run (handler : TerminalHandler) (newChars : Bytes) :
    (handler.receive newChars).run = handler.run := by
  simp only [receive, trimChars_run, trimLines]

namespace MultiplexerState

open TerminalHandler (Poll)

variable {state after : MultiplexerState} {paneId sourceId tabId id uuid : Bytes}

/-! ### The operations -/

theorem fatalIfFound_fresh (fresh : state.Fresh id) : state.fatalIfFound id = .ok () := by
  rw [fatalIfFound, if_neg fresh.pane, if_neg fresh.split, if_neg fresh.tab]

theorem newTab_completes_iff :
    (∃ after, state.newTab tabId paneId = .ok after) ↔ state.Fresh tabId ∧ state.Fresh paneId := by
  constructor
  · rintro ⟨after, ok⟩
    obtain ⟨tabFresh, paneFresh, _⟩ := newTab_ok ok
    exact ⟨tabFresh, paneFresh⟩
  · rintro ⟨tabFresh, paneFresh⟩
    refine ⟨state.addTab tabId paneId, ?_⟩
    rw [newTab, fatalIfFound_fresh tabFresh, fatalIfFound_fresh paneFresh]
    rfl

theorem getPane_completes_iff : (∃ pane, state.getPane id = .ok pane) ↔ id ∈ state.panes := by
  constructor
  · rintro ⟨pane, ok⟩
    exact mem_of_lookup (getPane_ok ok)
  · intro live
    obtain ⟨pane, found⟩ := exists_lookup live
    exact ⟨pane, by rw [getPane, found]⟩

/-- The parent of the source lists it, so the pane can be put in its place. -/
theorem newSplit_completes (layout : state.Layout) {vertical : Bool}
    (paneFresh : state.Fresh paneId) (splitFresh : state.Fresh uuid)
    (live : sourceId ∈ state.panes) :
    ∃ after, state.newSplit sourceId paneId vertical uuid = .ok after := by
  obtain ⟨source, found⟩ := exists_lookup live
  have different : paneId ≠ sourceId := by
    rintro rfl
    exact paneFresh.pane live
  have isSource : (state.insertPane paneId []).getPane sourceId = .ok source := by
    have there : (state.insertPane paneId []).panes[sourceId]? = some source := by
      rw [insertPane, lookup_insertIfNew paneFresh.pane, if_neg different, found]
    rw [getPane, there]
  rw [newSplit, fatalIfFound_fresh paneFresh]
  change ∃ after, ((state.insertPane paneId []).getPane sourceId >>= _) = .ok after
  rw [isSource]
  dsimp only [bind, Except.bind]
  cases layout.wellFormed.pane_listed found with
  | @split split isSplit member =>
      have there : (state.insertPane paneId []).splits[source.parentId]? = some split := isSplit
      rw [there]
      dsimp only
      split
      · exact ⟨_, rfl⟩
      · have isParent : split.id = source.parentId := layout.split_id isSplit
        have stillSplit : ((state.insertPane paneId []).addSplit uuid split.id sourceId paneId
            vertical).splits[split.id]? = some split := by
          have other : uuid ≠ split.id := by
            rintro rfl
            exact splitFresh.split (isParent ▸ mem_of_lookup isSplit)
          rw [addSplit_splits splitFresh.split, if_neg other, isParent, isSplit]
        exact ⟨_, replaceChild_member stillSplit member⟩
  | @tab tab isTab _ =>
      have notSplit : (state.insertPane paneId []).splits[source.parentId]? = none :=
        lookup_none.mpr fun isSplit => layout.split_not_tab isSplit (mem_of_lookup isTab)
      have stillTab : (state.insertPane paneId []).getTab source.parentId = .ok tab := by
        have there : (state.insertPane paneId []).tabs[source.parentId]? = some tab := isTab
        rw [getTab, there]
      rw [notSplit]
      dsimp only
      rw [stillTab]
      exact ⟨_, rfl⟩

theorem newSplit_completes_iff (layout : state.Layout) {vertical : Bool}
    (splitFresh : state.Fresh uuid) :
    (∃ after, state.newSplit sourceId paneId vertical uuid = .ok after) ↔
      state.Fresh paneId ∧ sourceId ∈ state.panes := by
  constructor
  · rintro ⟨after, ok⟩
    obtain ⟨paneFresh, source, found, _⟩ := newSplit_ok layout ok
    exact ⟨paneFresh, mem_of_lookup found⟩
  · rintro ⟨paneFresh, live⟩
    exact newSplit_completes layout paneFresh splitFresh live

/-- The close of a pane that is open does not go through. -/
def CannotClose (state : MultiplexerState) (paneId : Bytes) : Prop :=
  paneId ∉ state.closed ∧ (paneId ∈ state.panes → state.LeavesSplit paneId)

theorem closePane_completes_iff (layout : state.Layout) :
    (∃ after, state.closePane paneId = .ok after) ↔ ¬ state.CannotClose paneId := by
  by_cases isClosed : paneId ∈ state.closed
  · exact iff_of_true ⟨state, closePane_closed isClosed⟩ fun cannot => cannot.1 isClosed
  cases found : state.panes[paneId]? with
  | none =>
      apply iff_of_false
      · rintro ⟨after, ok⟩
        rw [closePane, if_neg isClosed, found] at ok
        cases ok
      · exact not_not.mpr ⟨isClosed, fun live => absurd live (lookup_none.mp found)⟩
  | some pane =>
      rcases layout.closePane_cases found isClosed with
        ⟨stays, after, ok, _⟩ | ⟨leaves, message, failed⟩
      · exact iff_of_true ⟨after, ok⟩ fun cannot => stays (cannot.2 (mem_of_lookup found))
      · apply iff_of_false
        · rintro ⟨after, ok⟩
          cases failed.symm.trans ok
        · exact not_not.mpr ⟨isClosed, fun _ => leaves⟩

/-! ### An update -/

def Ends (terminal : TerminalHandler) (poll : Poll) : Prop :=
  terminal.run = false ∨ poll = .failed ∨ poll = .ended

def Passes (state : MultiplexerState) (poll : Bytes → Poll) (taken : Message → Bool)
    (paneId : Bytes) : Prop :=
  ∃ terminal, state.terminalOf paneId = some terminal ∧ terminal.run = true ∧
    (poll paneId = .quiet ∨ ∃ first rest, poll paneId = .read first rest ∧
      taken (.appendToPane paneId (first :: rest)) = true)

def DiesAt (state : MultiplexerState) (poll : Bytes → Poll) (paneId : Bytes) : Prop :=
  ∃ terminal, state.terminalOf paneId = some terminal ∧
    (terminal.run = true ∧ poll paneId = .notReaped ∨
      Ends terminal (poll paneId) ∧ state.CannotClose paneId)

inductive Dies (state : MultiplexerState) (poll : Bytes → Poll) (taken : Message → Bool) :
    List Bytes → Prop
  | here {paneId : Bytes} {rest : List Bytes} : state.DiesAt poll paneId →
      Dies state poll taken (paneId :: rest)
  | later {paneId : Bytes} {rest : List Bytes} : state.Passes poll taken paneId →
      Dies state poll taken rest → Dies state poll taken (paneId :: rest)

section

variable {poll : Bytes → Poll} {taken : Message → Bool} {terminal next : TerminalHandler}
  {rest paneIds : List Bytes}

theorem setTerminal_leavesSplit :
    (state.setTerminal id next).LeavesSplit paneId ↔ state.LeavesSplit paneId := by
  have parents : ((state.setTerminal id next).panes[paneId]?).map Pane.parentId =
      (state.panes[paneId]?).map Pane.parentId := by
    simp only [setTerminal, lookup_modify]
    split
    case isTrue same =>
        subst same
        rw [Option.map_map]
        rfl
    case isFalse => rfl
  constructor
  · rintro ⟨pane, split, child, found, isSplit, single, isChild⟩
    rw [found, Option.map_some] at parents
    obtain ⟨former, isFormer, sameParent⟩ := Option.map_eq_some_iff.mp parents.symm
    exact ⟨former, split, child, isFormer, sameParent ▸ isSplit, single, isChild⟩
  · rintro ⟨pane, split, child, found, isSplit, single, isChild⟩
    rw [found, Option.map_some] at parents
    obtain ⟨later, isLater, sameParent⟩ := Option.map_eq_some_iff.mp parents
    exact ⟨later, split, child, isLater, by rw [sameParent]; exact isSplit, single, isChild⟩

theorem setTerminal_cannotClose :
    (state.setTerminal id next).CannotClose paneId ↔ state.CannotClose paneId := by
  unfold CannotClose
  rw [setTerminal_leavesSplit]
  have live : paneId ∈ (state.setTerminal id next).panes ↔ paneId ∈ state.panes :=
    Std.TreeMap.mem_modify
  rw [live]
  rfl

theorem Dies.congr {other : MultiplexerState} (dies : state.Dies poll taken paneIds)
    (terminals : ∀ paneId ∈ paneIds, other.terminalOf paneId = state.terminalOf paneId)
    (closes : ∀ paneId, other.CannotClose paneId ↔ state.CannotClose paneId) :
    other.Dies poll taken paneIds := by
  induction dies with
  | here diesAt =>
      obtain ⟨terminal, found, why⟩ := diesAt
      rw [← closes] at why
      exact .here ⟨terminal, (terminals _ List.mem_cons_self).trans found, why⟩
  | later passes _ ih =>
      obtain ⟨terminal, found, why⟩ := passes
      refine .later ⟨terminal, (terminals _ List.mem_cons_self).trans found, why⟩ (ih ?_)
      exact fun paneId later => terminals paneId (List.mem_cons_of_mem _ later)

/-- What the loop does later does not depend on the terminal that it has polled. -/
theorem setTerminal_dies (live : id ∈ state.panes) (notLater : id ∉ paneIds) :
    (state.setTerminal id next).Dies poll taken paneIds ↔ state.Dies poll taken paneIds := by
  have same (other : Bytes) (later : other ∈ paneIds) :
      (state.setTerminal id next).terminalOf other = state.terminalOf other := by
    rw [setTerminal_terminalOf live, if_neg]
    rintro rfl
    exact notLater later
  constructor
  · intro dies
    exact dies.congr (fun other later => (same other later).symm)
      fun _ => setTerminal_cannotClose.symm
  · intro dies
    exact dies.congr same fun _ => setTerminal_cannotClose

theorem Ends.polled {reads : Poll} (ends : Ends terminal reads) :
    ∃ next, terminal.pollUserTerminal reads = .ok ([], next) ∧ next.run = false := by
  unfold TerminalHandler.pollUserTerminal
  by_cases running : terminal.run = true
  · rw [if_pos running]
    rcases ends with stopped | rfl | rfl
    · cases running.symm.trans stopped
    · exact ⟨_, rfl, rfl⟩
    · exact ⟨_, rfl, rfl⟩
  · rw [if_neg running]
    exact ⟨terminal, rfl, Bool.eq_false_of_not_eq_true running⟩

theorem updatePanes_polled {pane : Pane} {terminalData : Bytes}
    (found : state.panes[id]? = some pane)
    (polled : pane.terminal.pollUserTerminal (poll id) = .ok (terminalData, next)) :
    state.updatePanes poll taken (id :: rest) =
      if terminalData ≠ [] ∧ taken (.appendToPane id terminalData) = false then
        .ok ([], state.setTerminal id next)
      else if next.run then
        (state.setTerminal id next).updatePanes poll taken rest >>= fun result =>
          .ok (appended id terminalData ++ result.1, result.2)
      else
        (state.setTerminal id next).closePane id >>= fun after =>
          .ok (if taken (.serverClosePane id) then
            appended id terminalData ++ [.serverClosePane id] else appended id terminalData,
              after) := by
  have isPane : state.getPane id = .ok pane := by rw [getPane, found]
  rw [updatePanes, isPane]
  show (pane.terminal.pollUserTerminal (poll id) >>= _) = _
  rw [polled]
  rfl

theorem completes_bind {ε α β : Type} {first : Except ε α} {result : α → β} :
    (∃ value, (first >>= fun value => .ok (result value)) = .ok value) ↔
      ∃ value, first = .ok value := by
  cases first with
  | error message => exact iff_of_false (by rintro ⟨_, ⟨⟩⟩) (by rintro ⟨_, ⟨⟩⟩)
  | ok value => exact iff_of_true ⟨_, rfl⟩ ⟨_, rfl⟩

theorem dies_cons_iff (found : state.terminalOf id = some terminal) :
    state.Dies poll taken (id :: rest) ↔
      (terminal.run = true ∧ poll id = .notReaped ∨
        Ends terminal (poll id) ∧ state.CannotClose id) ∨
      state.Passes poll taken id ∧ state.Dies poll taken rest := by
  constructor
  · intro dies
    cases dies with
    | here diesAt =>
        obtain ⟨other, foundOther, why⟩ := diesAt
        cases found.symm.trans foundOther
        exact .inl why
    | later passes dies => exact .inr ⟨passes, dies⟩
  · rintro (why | ⟨passes, dies⟩)
    · exact .here ⟨terminal, found, why⟩
    · exact .later passes dies

theorem not_ends {reads : Poll} (running : terminal.run = true)
    (other : reads ≠ .failed ∧ reads ≠ .ended) : ¬ Ends terminal reads := by
  rintro (stopped | failed | ended)
  · cases running.symm.trans stopped
  · exact other.1 failed
  · exact other.2 ended

theorem updatePanes_completes_iff (layout : state.Layout) (distinct : paneIds.Nodup)
    (live : ∀ paneId ∈ paneIds, paneId ∈ state.panes) :
    (∃ result, state.updatePanes poll taken paneIds = .ok result) ↔
      ¬ state.Dies poll taken paneIds := by
  induction paneIds generalizing state with
  | nil => exact iff_of_true ⟨_, rfl⟩ nofun
  | cons paneId rest ih =>
      obtain ⟨notLater, distinctRest⟩ := List.nodup_cons.mp distinct
      have isLive := live paneId List.mem_cons_self
      obtain ⟨pane, found⟩ := exists_lookup isLive
      have here : state.terminalOf paneId = some pane.terminal := by rw [terminalOf, found]; rfl
      have goesOn (next : TerminalHandler) :
          (∃ result, (state.setTerminal paneId next).updatePanes poll taken rest = .ok result) ↔
            ¬ state.Dies poll taken rest := by
        rw [ih (layout.setTerminal paneId next) distinctRest fun other later =>
          Std.TreeMap.mem_modify.mpr (live other (List.mem_cons_of_mem _ later)),
          setTerminal_dies isLive notLater]
      rw [dies_cons_iff here]
      by_cases ends : Ends pane.terminal (poll paneId)
      · obtain ⟨next, polled, stopped⟩ := ends.polled
        have reaped : ¬ (pane.terminal.run = true ∧ poll paneId = .notReaped) := by
          rintro ⟨running, notReaped⟩
          exact not_ends running (by simp [notReaped]) ends
        have stays : ¬ state.Passes poll taken paneId := by
          rintro ⟨terminal, isTerminal, running, reads⟩
          cases here.symm.trans isTerminal
          rcases reads with quiet | ⟨_, _, reads, _⟩
          · exact not_ends running (by simp [quiet]) ends
          · exact not_ends running (by simp [reads]) ends
        rw [updatePanes_polled found polled, if_neg (fun refused => refused.1 rfl),
          if_neg (by simp [stopped]), completes_bind,
          closePane_completes_iff (layout.setTerminal paneId next), setTerminal_cannotClose]
        simp only [reaped, stays, ends, false_or, true_and, false_and, or_false]
      · have running : pane.terminal.run = true := by
          by_contra stopped
          exact ends (.inl (Bool.eq_false_of_not_eq_true stopped))
        have notEnds : ¬ (Ends pane.terminal (poll paneId) ∧ state.CannotClose paneId) :=
          fun both => ends both.1
        cases reads : poll paneId with
        | failed => exact absurd (.inr (.inl reads)) ends
        | ended => exact absurd (.inr (.inr reads)) ends
        | notReaped =>
            apply iff_of_false
            · rintro ⟨result, ok⟩
              obtain ⟨_, _, _, isTerminal, polled, _⟩ := updatePanes_turn ok
              cases here.symm.trans isTerminal
              rw [reads, TerminalHandler.pollUserTerminal, if_pos running] at polled
              cases polled
            · exact not_not.mpr (.inl (.inl ⟨running, rfl⟩))
        | quiet =>
            have polled :
                pane.terminal.pollUserTerminal (poll paneId) = .ok ([], pane.terminal) := by
              rw [reads, TerminalHandler.pollUserTerminal, if_pos running]
            have passes : state.Passes poll taken paneId :=
              ⟨pane.terminal, here, running, .inl reads⟩
            rw [updatePanes_polled found polled, if_neg (fun refused => refused.1 rfl),
              if_pos running, completes_bind, goesOn]
            rw [reads] at notEnds
            simp only [notEnds, passes, reduceCtorEq, and_false, false_or, or_self, true_and]
        | read first more =>
            have polled : pane.terminal.pollUserTerminal (poll paneId) =
                .ok (first :: more, pane.terminal.receive (first :: more)) := by
              rw [reads, TerminalHandler.pollUserTerminal, if_pos running]
            have stillRunning : (pane.terminal.receive (first :: more)).run = true := by
              rw [TerminalHandler.receive_run, running]
            rw [updatePanes_polled found polled]
            rw [reads] at notEnds
            by_cases isTaken : taken (.appendToPane paneId (first :: more)) = true
            · have passes : state.Passes poll taken paneId :=
                ⟨pane.terminal, here, running, .inr ⟨first, more, reads, isTaken⟩⟩
              rw [if_neg (by simp [isTaken]), if_pos stillRunning, completes_bind, goesOn]
              simp only [notEnds, passes, reduceCtorEq, and_false, false_or, or_self, true_and]
            · have stays : ¬ state.Passes poll taken paneId := by
                rintro ⟨terminal, _, _, quiet | ⟨_, _, readsToo, took⟩⟩
                · cases reads.symm.trans quiet
                · cases reads.symm.trans readsToo
                  exact isTaken took
              rw [if_pos ⟨List.cons_ne_nil _ _, Bool.eq_false_of_not_eq_true isTaken⟩]
              refine iff_of_true ⟨_, rfl⟩ ?_
              simp only [notEnds, stays, reduceCtorEq, and_false, false_and, or_self,
                not_false_eq_true]

end

end MultiplexerState

/-! ### The server -/

namespace HtmServer

open TerminalHandler (Poll)

variable {base64 : Base64} {fd : Fd} {jsonString : MultiplexerState → Bytes}
  {greetings : Greetings} {server after : HtmServer} {event : HtmEvent} {state : MultiplexerState}
  {command : HtmCommand} {written : Bool} {drawn : Uuid}

def RefusedBy (state : MultiplexerState) : HtmCommand → Prop
  | .insertKeys uid _ => uid ∉ state.panes
  | .insertDebugKeys _ => False
  | .newTab tabId paneId => ¬ (state.Fresh tabId ∧ state.Fresh paneId)
  | .newSplit sourceId paneId _ => ¬ (state.Fresh paneId ∧ sourceId ∈ state.panes)
  | .resizePane _ _ paneId => paneId ∉ state.panes
  | .closePane paneId => state.CannotClose paneId

def Fatal (server : HtmServer) : HtmEvent → Prop
  | .acceptFails | .malformed | .returnFails => True
  | .closeFails => server.phase = .catching
  | .commands command _ _ => RefusedBy server.state command
  | .updates poll taken => server.state.Dies poll taken server.state.panes.keys
  | .arrives _ | .hangsUp | .accepts | .idles | .readThrows | .closes | .returns => False

theorem completes_bind_pure {first : Except String MultiplexerState}
    {result : MultiplexerState → Handled} :
    (∃ handled, (first >>= fun state => pure (result state)) = .ok handled) ↔
      ∃ state, first = .ok state := MultiplexerState.completes_bind

theorem handle_completes_iff (layout : state.Layout) (fresh : state.Fresh drawn.bytes) :
    (∃ handled, handle state written drawn.bytes command = .ok handled) ↔
      ¬ RefusedBy state command := by
  cases command with
  | insertKeys uid data =>
      rw [handle]
      by_cases live : uid ∈ state.panes
      · rw [if_pos live]
        exact iff_of_true ⟨_, rfl⟩ (not_not.mpr live)
      · rw [if_neg live]
        exact iff_of_false (by rintro ⟨_, ⟨⟩⟩) (not_not.mpr live)
  | insertDebugKeys data =>
      rw [handle]
      refine iff_of_true ?_ not_false
      split
      · exact ⟨_, rfl⟩
      split
      · exact ⟨_, rfl⟩
      · exact ⟨_, rfl⟩
  | newTab tabId paneId =>
      rw [handle, completes_bind_pure, MultiplexerState.newTab_completes_iff]
      exact not_not.symm
  | newSplit sourceId paneId vertical =>
      rw [handle, completes_bind_pure, MultiplexerState.newSplit_completes_iff layout fresh]
      exact not_not.symm
  | resizePane cols rows paneId =>
      rw [handle]
      exact MultiplexerState.completes_bind.trans
        (MultiplexerState.getPane_completes_iff.trans not_not.symm)
  | closePane paneId =>
      rw [handle, completes_bind_pure]
      exact MultiplexerState.closePane_completes_iff layout

theorem resume_terminated_iff (server : HtmServer)
    (result : Except String Handled) :
    (server.resume result).phase = .terminated ↔ ¬ ∃ handled, result = .ok handled := by
  cases result with
  | error message => exact iff_of_true rfl (by rintro ⟨_, ⟨⟩⟩)
  | ok handled =>
      refine iff_of_false ?_ (not_not.mpr ⟨handled, rfl⟩)
      cases handled with
      | updates state running => nofun
      | detaches => nofun
      | throws => nofun

theorem update_terminated_iff {endpoint : HtmEndpoint} {poll : Bytes → Poll}
    {taken : MultiplexerState.Message → Bool} :
    (server.update endpoint poll taken).phase = .terminated ↔
      ¬ ∃ result, server.state.update poll taken = .ok result := by
  unfold update
  cases server.state.update poll taken with
  | error message => exact iff_of_true rfl (by rintro ⟨_, ⟨⟩⟩)
  | ok result =>
      refine iff_of_false ?_ (not_not.mpr ⟨result, rfl⟩)
      dsimp only
      split
      · nofun
      · nofun

end HtmServer

end EternalTerminal
