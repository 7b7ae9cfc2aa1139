/-
The terminals of the panes, and what an update does to each of them.
-/

import EternalTerminal.Htm.ClosedPanes
import EternalTerminal.Htm.HtmServer
import EternalTerminal.Htm.ScrollbackReplay

namespace EternalTerminal

open Library

/-! ### The terminals of the panes -/

namespace MultiplexerState

open TerminalHandler (Poll)

variable {state after : MultiplexerState} {paneId id : Bytes} {terminal : TerminalHandler}

def terminalOf (state : MultiplexerState) (paneId : Bytes) : Option TerminalHandler :=
  (state.panes[paneId]?).map Pane.terminal

theorem terminalOf_eq_none : state.terminalOf id = none ↔ id ∉ state.panes := by
  rw [terminalOf, Option.map_eq_none_iff, lookup_none]

theorem mem_of_terminalOf (found : state.terminalOf id = some terminal) : id ∈ state.panes := by
  by_contra missing
  rw [terminalOf_eq_none.mpr missing] at found
  cases found

theorem setTerminal_terminalOf (live : paneId ∈ state.panes) :
    (state.setTerminal paneId terminal).terminalOf id =
      if paneId = id then some terminal else state.terminalOf id := by
  obtain ⟨pane, found⟩ := exists_lookup live
  simp only [terminalOf, setTerminal, lookup_modify]
  split
  · rw [found]
    rfl
  · rfl

theorem setParent_terminalOf {parentId : Bytes} :
    (state.setParent paneId parentId).terminalOf id = state.terminalOf id := by
  simp only [terminalOf, setParent, lookup_modify]
  split
  case isTrue same =>
      subst same
      rw [Option.map_map]
      rfl
  case isFalse => rfl

theorem insertPane_terminalOf (parentId : Bytes) (fresh : paneId ∉ state.panes) :
    (state.insertPane paneId parentId).terminalOf id =
      if paneId = id then some TerminalHandler.create else state.terminalOf id := by
  simp only [terminalOf, insertPane, lookup_insertIfNew fresh]
  split <;> rfl

theorem Closes.terminalOf (closes : state.Closes paneId after) (other : id ≠ paneId) :
    after.terminalOf id = state.terminalOf id := by
  have kept := congrArg (Option.map Prod.snd) (closes.kept other)
  rw [Option.map_map, Option.map_map] at kept
  exact kept

theorem create_terminalOf (tabId paneId : Bytes) :
    (create tabId paneId).terminalOf id =
      if paneId = id then some TerminalHandler.create else none := by
  have noPane : paneId ∉ ({ empty with tabs := (create tabId paneId).tabs }).panes :=
    Std.TreeMap.not_mem_emptyc
  exact insertPane_terminalOf tabId noPane

theorem textFor_sendTerminalBuffers_nil (notLive : paneId ∉ state.panes) :
    textFor paneId state.sendTerminalBuffers = [] := by
  rw [sendTerminalBuffers, textFor_filterMap, List.flatMap_eq_nil_iff]
  intro entry isEntry
  apply if_neg
  rintro rfl
  have found := Std.TreeMap.mem_toList_iff_getElem?_eq_some.mp isEntry
  exact notLive (mem_of_lookup found)

theorem newTab_terminalOf {tabId : Bytes} (ok : state.newTab tabId paneId = .ok after) :
    after.terminalOf id =
      if paneId = id then some TerminalHandler.create else state.terminalOf id := by
  obtain ⟨_, fresh, rfl⟩ := newTab_ok ok
  exact insertPane_terminalOf _ fresh.pane

theorem newSplit_terminalOf {sourceId uuid : Bytes} {vertical : Bool} (layout : state.Layout)
    (ok : state.newSplit sourceId paneId vertical uuid = .ok after) :
    after.terminalOf id =
      if paneId = id then some TerminalHandler.create else state.terminalOf id := by
  obtain ⟨fresh, source, _, branch⟩ := newSplit_ok layout ok
  rw [← insertPane_terminalOf [] fresh.pane]
  have added {parentId : Bytes} :
      ((state.insertPane paneId []).addSplit uuid parentId sourceId paneId vertical).terminalOf id =
        (state.insertPane paneId []).terminalOf id := by
    rw [addSplit, setParent_terminalOf, setParent_terminalOf]
    rfl
  rcases branch with ⟨split, _, rfl⟩ | ⟨split, _, replaced⟩ | ⟨tab, _, rfl⟩
  · rw [continueSplit, setParent_terminalOf]
    rfl
  · rw [← added, terminalOf, (replaceChild_panes replaced).1]
    rfl
  · rw [← added]
    rfl

/-! ### An update -/

theorem keys_nodup (state : MultiplexerState) : state.panes.keys.Nodup := by
  refine Std.TreeMap.distinct_keys.imp fun {first second} differ same => differ ?_
  rw [same]
  exact Std.ReflCmp.compare_self

def appended (paneId terminalData : Bytes) : List Message :=
  if terminalData = [] then [] else [.appendToPane paneId terminalData]

theorem textFor_append (first second : List Message) :
    textFor id (first ++ second) = textFor id first ++ textFor id second := List.flatMap_append

theorem textFor_appended {terminalData : Bytes} :
    textFor id (appended paneId terminalData) = if paneId = id then terminalData else [] := by
  unfold appended
  by_cases empty : terminalData = []
  · rw [if_pos empty, empty, ite_self]
    rfl
  · rw [if_neg empty]
    exact List.append_nil _

/-- What one turn of the loop sends, beside what the trace says of it. -/
inductive PollTurn (poll : Bytes → Poll) (taken : Message → Bool) (paneId : Bytes)
    (rest : List Bytes) (terminalData : Bytes) (polled : MultiplexerState) (sent : List Message)
    (trace : List Bytes × Bool) (after : MultiplexerState) : Prop
  | refused : sent = [] → after = polled → trace = ([paneId], true) →
      PollTurn poll taken paneId rest terminalData polled sent trace after
  | goesOn {later : List Message} : polled.updatePanes poll taken rest = .ok (later, after) →
      (∀ message ∈ appended paneId terminalData, taken message = true) →
      sent = appended paneId terminalData ++ later →
      trace = (paneId :: (updateTrace poll taken rest polled).1,
        (updateTrace poll taken rest polled).2) →
      PollTurn poll taken paneId rest terminalData polled sent trace after
  | closes {closing : List Message} : polled.closePane paneId = .ok after →
      (closing = [] ∨ closing = [.serverClosePane paneId]) →
      (∀ message ∈ appended paneId terminalData ++ closing, taken message = true) →
      sent = appended paneId terminalData ++ closing → trace.1 = [paneId] →
      PollTurn poll taken paneId rest terminalData polled sent trace after

variable {poll : Bytes → Poll} {taken : Message → Bool} {paneIds rest : List Bytes}
  {sent : List Message}

theorem updatePanes_turn
    (ok : state.updatePanes poll taken (paneId :: rest) = .ok (sent, after)) :
    ∃ terminal terminalData next, state.terminalOf paneId = some terminal ∧
      terminal.pollUserTerminal (poll paneId) = .ok (terminalData, next) ∧
      PollTurn poll taken paneId rest terminalData (state.setTerminal paneId next) sent
        (updateTrace poll taken (paneId :: rest) state) after := by
  unfold updatePanes at ok
  obtain ⟨pane, found, ok⟩ := except_bind_ok ok
  obtain ⟨⟨terminalData, next⟩, polled, ok⟩ := except_bind_ok ok
  have here : state.terminalOf paneId = some pane.terminal := by
    rw [terminalOf, getPane_ok found]
    rfl
  have reads : (state.getPane paneId >>= fun pane =>
      pane.terminal.pollUserTerminal (poll paneId)) = .ok (terminalData, next) := by
    rw [found]
    exact polled
  refine ⟨pane.terminal, terminalData, next, here, polled, ?_⟩
  rw [updateTrace, reads]
  dsimp only at ok ⊢
  by_cases refused : terminalData ≠ [] ∧ taken (.appendToPane paneId terminalData) = false
  · rw [if_pos refused] at ok ⊢
    obtain ⟨told, same⟩ := Prod.mk.inj (Except.ok.inj ok)
    exact .refused told.symm same.symm rfl
  · rw [if_neg refused] at ok ⊢
    have tookData : ∀ message ∈ appended paneId terminalData, taken message = true := by
      intro message isAppended
      unfold appended at isAppended
      split at isAppended
      case isTrue => cases isAppended
      case isFalse some =>
          obtain rfl := List.mem_singleton.mp isAppended
          exact Bool.not_eq_false _ ▸ fun isRefused => refused ⟨some, isRefused⟩
    by_cases running : next.run = true
    · rw [if_pos running] at ok ⊢
      obtain ⟨⟨later, result⟩, goesOn, ok⟩ := except_bind_ok ok
      obtain ⟨told, same⟩ := Prod.mk.inj (Except.ok.inj ok)
      dsimp only at told same
      subst same
      exact .goesOn goesOn tookData told.symm rfl
    · rw [if_neg running] at ok ⊢
      obtain ⟨result, closes, ok⟩ := except_bind_ok ok
      obtain ⟨told, same⟩ := Prod.mk.inj (Except.ok.inj ok)
      subst same
      by_cases isTaken : taken (.serverClosePane paneId) = true
      · rw [if_pos isTaken] at told
        refine .closes closes (.inr rfl) ?_ told.symm rfl
        intro message member
        rcases List.mem_append.mp member with isAppended | isClosing
        · exact tookData message isAppended
        · exact List.mem_singleton.mp isClosing ▸ isTaken
      · rw [if_neg isTaken] at told
        refine .closes closes (.inl rfl) ?_ (told.symm.trans (List.append_nil _).symm) rfl
        rw [List.append_nil]
        exact tookData

inductive PaneUpdate (poll : Bytes → Poll) (state : MultiplexerState) (sent : List Message)
    (trace : List Bytes × Bool) (after : MultiplexerState) (id : Bytes) : Prop
  | kept : id ∉ trace.1 → after.terminalOf id = state.terminalOf id → textFor id sent = [] →
      PaneUpdate poll state sent trace after id
  | polled {terminal next : TerminalHandler} {terminalData : Bytes} : id ∈ trace.1 →
      state.terminalOf id = some terminal →
      terminal.pollUserTerminal (poll id) = .ok (terminalData, next) →
      (trace.2 = false → textFor id sent = terminalData) →
      (after.terminalOf id = some next ∨ after.terminalOf id = none) →
      PaneUpdate poll state sent trace after id

theorem updateTrace_subset (paneIds : List Bytes) (state : MultiplexerState) :
    (updateTrace poll taken paneIds state).1 ⊆ paneIds := by
  induction paneIds generalizing state with
  | nil => exact List.Subset.refl _
  | cons paneId rest ih =>
      rw [updateTrace]
      split
      · exact List.nil_subset _
      · split
        · simp
        split
        · exact List.cons_subset_cons _ (ih _)
        · simp

theorem updatePanes_pane (layout : state.Layout) (distinct : paneIds.Nodup)
    (ok : state.updatePanes poll taken paneIds = .ok (sent, after)) (id : Bytes) :
    PaneUpdate poll state sent (updateTrace poll taken paneIds state) after id := by
  induction paneIds generalizing state sent with
  | nil =>
      cases ok
      exact .kept List.not_mem_nil rfl rfl
  | cons paneId rest ih =>
      obtain ⟨terminal, terminalData, next, here, reads, turn⟩ := updatePanes_turn ok
      have live := mem_of_terminalOf here
      obtain ⟨notLater, distinctRest⟩ := List.nodup_cons.mp distinct
      have polled {id : Bytes} : (state.setTerminal paneId next).terminalOf id =
          if paneId = id then some next else state.terminalOf id := setTerminal_terminalOf live
      by_cases same : paneId = id
      · subst same
        have now : (state.setTerminal paneId next).terminalOf paneId = some next :=
          polled.trans (if_pos rfl)
        cases turn with
        | refused _ isPolled trace =>
            subst isPolled
            rw [trace]
            exact .polled List.mem_cons_self here reads nofun (.inl now)
        | @goesOn later goesOn _ told trace =>
            rw [trace]
            have turnLater := ih (layout.setTerminal paneId next) distinctRest goesOn
            cases turnLater with
            | polled isLater => exact absurd (updateTrace_subset _ _ isLater) notLater
            | kept _ keeps silent =>
                refine .polled List.mem_cons_self here reads (fun _ => ?_) (.inl (keeps.trans now))
                rw [told, textFor_append, textFor_appended, if_pos rfl, silent, List.append_nil]
        | @closes closing closes isClosing _ told trace =>
            have silent : textFor paneId closing = [] := by
              rcases isClosing with rfl | rfl
              · rfl
              · rfl
            refine .polled (trace ▸ List.mem_cons_self) here reads (fun _ => ?_) ?_
            · rw [told, textFor_append, textFor_appended, if_pos rfl, silent, List.append_nil]
            · rcases (layout.setTerminal paneId next).closePane_ok closes with
                ⟨_, rfl⟩ | ⟨_, closing, _⟩
              · exact .inl now
              · exact .inr (terminalOf_eq_none.mpr closing.closes.gone)
      · have before : (state.setTerminal paneId next).terminalOf id = state.terminalOf id :=
          polled.trans (if_neg same)
        cases turn with
        | refused told isPolled trace =>
            subst isPolled
            rw [trace]
            refine .kept (fun member => same (List.mem_singleton.mp member).symm) before ?_
            rw [told]
            rfl
        | @goesOn later goesOn _ told trace =>
            rw [trace]
            have silent : textFor id sent = textFor id later := by
              rw [told, textFor_append, textFor_appended, if_neg same, List.nil_append]
            cases ih (layout.setTerminal paneId next) distinctRest goesOn with
            | kept notPolled keeps nothing =>
                refine .kept ?_ (keeps.trans before) (silent.trans nothing)
                rintro (_ | ⟨_, isLater⟩)
                · exact same rfl
                · exact notPolled isLater
            | polled isLater found readsLater tells result =>
                exact .polled (List.mem_cons_of_mem _ isLater) (before.symm.trans found) readsLater
                  (fun noThrow => silent.trans (tells noThrow)) result
        | @closes closing closes isClosing _ told trace =>
            refine .kept ?_ ?_ ?_
            · rw [trace]
              exact fun member => same (List.mem_singleton.mp member).symm
            · rw [← before]
              rcases (layout.setTerminal paneId next).closePane_ok closes with
                ⟨_, rfl⟩ | ⟨_, closing, _⟩
              · rfl
              · exact closing.closes.terminalOf (Ne.symm same)
            · rw [told, textFor_append, textFor_appended, if_neg same]
              rcases isClosing with rfl | rfl
              · rfl
              · rfl

theorem updatePanes_taken (ok : state.updatePanes poll taken paneIds = .ok (sent, after)) :
    ∀ message ∈ sent, taken message = true := by
  induction paneIds generalizing state sent with
  | nil =>
      cases ok
      exact List.forall_mem_nil _
  | cons paneId rest ih =>
      obtain ⟨_, _, next, _, _, turn⟩ := updatePanes_turn ok
      cases turn with
      | refused told _ _ => exact told ▸ List.forall_mem_nil _
      | goesOn goesOn tookData told _ =>
          rw [told]
          exact List.forall_mem_append.mpr ⟨tookData, ih goesOn⟩
      | closes _ _ took told _ => exact told ▸ took

/-- A pane that is neither live nor closed after an update was neither before. -/
theorem updatePanes_unopened (layout : state.Layout)
    (ok : state.updatePanes poll taken paneIds = .ok (sent, after)) (notLive : id ∉ after.panes)
    (notClosed : id ∉ after.closed) : id ∉ state.panes ∧ id ∉ state.closed := by
  induction paneIds generalizing state sent with
  | nil =>
      cases ok
      exact ⟨notLive, notClosed⟩
  | cons paneId rest ih =>
      obtain ⟨_, _, next, _, _, turn⟩ := updatePanes_turn ok
      have before {polled : MultiplexerState} (same : polled = state.setTerminal paneId next)
          (unopened : id ∉ polled.panes ∧ id ∉ polled.closed) :
          id ∉ state.panes ∧ id ∉ state.closed := by
        subst same
        exact ⟨fun live => unopened.1 (Std.TreeMap.mem_modify.mpr live), unopened.2⟩
      cases turn with
      | refused _ isPolled _ => exact before isPolled ⟨notLive, notClosed⟩
      | goesOn goesOn _ _ _ => exact before rfl (ih (layout.setTerminal paneId next) goesOn)
      | closes closes _ _ _ _ =>
          rcases (layout.setTerminal paneId next).closePane_ok closes with
            ⟨_, isPolled⟩ | ⟨_, closing, _⟩
          · exact before isPolled ⟨notLive, notClosed⟩
          · apply before rfl
            obtain ⟨inPanes, inClosed⟩ := closing.retires
            rw [inPanes] at notLive
            rw [inClosed] at notClosed
            obtain ⟨other, stillOpen⟩ := not_or.mp notClosed
            exact ⟨fun live => notLive ⟨other, live⟩, stillOpen⟩

end MultiplexerState

/-! ### The polls of a pane -/

namespace TerminalHandler

theorem pollAll_snoc {handler middle last : TerminalHandler} {polls : List Poll} {poll : Poll}
    {chunks : List Bytes} {newChars : Bytes}
    (ran : handler.pollAll polls = .ok (chunks, middle))
    (polled : middle.pollUserTerminal poll = .ok (newChars, last)) :
    handler.pollAll (polls ++ [poll]) =
      .ok (chunks ++ if newChars = [] then [] else [newChars], last) := by
  induction polls generalizing handler chunks with
  | nil =>
      cases ran
      rw [List.nil_append, pollAll, polled]
      rfl
  | cons first rest ih =>
      obtain ⟨firstChars, after, later, firstPolled, more, rfl⟩ := pollAll_cons ran
      rw [List.cons_append, pollAll, firstPolled]
      show (after.pollAll (rest ++ [poll]) >>= _) = _
      rw [ih more]
      by_cases none : firstChars = []
      · simp [none, bind, Except.bind, pure, Except.pure]
      · simp [none, bind, Except.bind, pure, Except.pure]

end TerminalHandler

end EternalTerminal
