/-
The ids of closed panes, and whether a client can bring one back.

`closed` is kept so that no id is used twice, but `newTab` and `newSplit` look for an id
among the panes, splits and tabs only.  `closePane` takes a pane whose id is in `closed`
for one that has gone.
-/

import EternalTerminal.Htm.HtmSession

namespace EternalTerminal

open Library

namespace MultiplexerState

variable {state after : MultiplexerState} {paneId sourceId uuid : Bytes} {vertical : Bool}

def ClosedStayClosed (state : MultiplexerState) : Prop :=
  ∀ id, id ∈ state.panes → id ∉ state.closed

/-! ### What each operation does to the ids -/

/-- The ids of `after` are those of `state` and the new pane's, and no id is closed. -/
structure Opens (state : MultiplexerState) (paneId : Bytes) (after : MultiplexerState) :
    Prop where
  panes {id : Bytes} : id ∈ after.panes ↔ id = paneId ∨ id ∈ state.panes
  closed : after.closed = state.closed

namespace Opens

theorem insertPane (state : MultiplexerState) (paneId parentId : Bytes) :
    state.Opens paneId (state.insertPane paneId parentId) := by
  constructor
  · intro id
    show id ∈ state.panes.insertIfNew paneId _ ↔ _
    rw [mem_insertIfNew, eq_comm]
  · rfl

theorem setParent (opens : state.Opens paneId after) (childId parentId : Bytes) :
    state.Opens paneId (after.setParent childId parentId) := by
  constructor
  · intro id
    rw [← opens.panes]
    exact Std.TreeMap.mem_modify
  · exact opens.closed

/-- A pane that opens is apart from the closed ones if its id is. -/
theorem closedStayClosed_iff (opens : state.Opens paneId after)
    (apart : state.ClosedStayClosed) : after.ClosedStayClosed ↔ paneId ∉ state.closed := by
  unfold ClosedStayClosed
  rw [opens.closed]
  constructor
  · exact fun apartAfter => apartAfter paneId (opens.panes.mpr (Or.inl rfl))
  · intro isNew id member
    rcases opens.panes.mp member with same | old
    · exact same ▸ isNew
    · exact apart id old

end Opens

theorem newTab_opens {tabId : Bytes} (ok : state.newTab tabId paneId = .ok after) :
    state.Opens paneId after := by
  obtain ⟨_, _, same⟩ := newTab_ok ok
  have opens := Opens.insertPane state paneId tabId
  rw [same]
  exact ⟨opens.panes, opens.closed⟩

theorem replaceChild_panes {splitId oldId newId : Bytes} {missing : String}
    (ok : state.replaceChild splitId oldId newId missing = .ok after) :
    after.panes = state.panes ∧ after.closed = state.closed := by
  obtain ⟨split, _, ok⟩ := except_bind_ok ok
  split at ok
  · obtain rfl := Except.ok.inj ok
    exact ⟨rfl, rfl⟩
  · cases ok

theorem newSplit_opens (layout : state.Layout)
    (ok : state.newSplit sourceId paneId vertical uuid = .ok after) :
    state.Opens paneId after := by
  obtain ⟨_, source, _, branch⟩ := newSplit_ok layout ok
  have opens := Opens.insertPane state paneId []
  have added := (opens.setParent paneId uuid).setParent sourceId uuid
  rcases branch with ⟨split, _, same⟩ | ⟨split, _, replaced⟩ | ⟨tab, _, same⟩
  · have moved := opens.setParent paneId split.id
    rw [same]
    exact ⟨moved.panes, moved.closed⟩
  · obtain ⟨samePanes, sameClosed⟩ := replaceChild_panes replaced
    constructor
    · intro id
      rw [samePanes]
      exact added.panes
    · rw [sameClosed]
      exact added.closed
  · rw [same]
    exact ⟨added.panes, added.closed⟩

structure Retires (state : MultiplexerState) (paneId : Bytes) (after : MultiplexerState) :
    Prop where
  panes {id : Bytes} : id ∈ after.panes ↔ id ≠ paneId ∧ id ∈ state.panes
  closed {id : Bytes} : id ∈ after.closed ↔ id = paneId ∨ id ∈ state.closed

theorem withoutPane_retires : state.Retires paneId (state.withoutPane paneId) := by
  constructor
  · intro id
    show id ∈ state.panes.erase paneId ↔ _
    rw [Std.TreeMap.mem_erase, ne_eq, ne_eq, Std.LawfulEqCmp.compare_eq_iff_eq, eq_comm]
  · intro id
    show id ∈ state.closed.insert paneId ↔ _
    rw [Std.TreeSet.mem_insert, Std.LawfulEqCmp.compare_eq_iff_eq, eq_comm]

theorem Closing.retires (closing : state.Closing paneId after) : state.Retires paneId after := by
  have retires : state.Retires paneId (state.withoutPane paneId) := withoutPane_retires
  cases closing with
  | root => exact ⟨retires.panes, retires.closed⟩
  | detached => exact ⟨retires.panes, retires.closed⟩
  | @collapsed pane split childId _ _ _ =>
      constructor
      · intro id
        rw [← retires.panes, promoted_panes]
        exact Std.TreeMap.mem_modify
      · intro id
        rw [← retires.closed]
        unfold withoutSplit promoted
        split <;> rfl

theorem Retires.closedStayClosed (retires : state.Retires paneId after)
    (apart : state.ClosedStayClosed) : after.ClosedStayClosed := by
  intro id member isClosed
  obtain ⟨isOther, old⟩ := retires.panes.mp member
  rcases retires.closed.mp isClosed with same | wasClosed
  · exact isOther same
  · exact apart id old wasClosed

/-- Where the closed panes stay closed, a close of a live pane takes it out. -/
theorem closePane_live_retires (layout : state.Layout) (apart : state.ClosedStayClosed)
    (live : paneId ∈ state.panes) (ok : state.closePane paneId = .ok after) :
    state.Retires paneId after := by
  rcases layout.closePane_ok ok with ⟨isClosed, _⟩ | ⟨_, closing, _⟩
  · exact absurd isClosed (apart paneId live)
  · exact closing.retires

/-! ### What an update reports -/

structure ReportsFresh (state : MultiplexerState) (reports : List Bytes)
    (after : MultiplexerState) : Prop where
  once : reports.Nodup
  fresh {id : Bytes} : id ∈ reports → id ∉ state.closed ∧ id ∈ after.closed
  kept {id : Bytes} : id ∈ state.closed → id ∈ after.closed

theorem ReportsFresh.none (kept : ∀ {id : Bytes}, id ∈ state.closed → id ∈ after.closed) :
    state.ReportsFresh [] after := by
  constructor
  · exact List.nodup_nil
  · intro id impossible
    cases impossible
  · exact kept

theorem Retires.reports (retires : state.Retires paneId after) (isOpen : paneId ∉ state.closed)
    {reports : List Bytes} (told : reports = [] ∨ reports = [paneId]) :
    state.ReportsFresh reports after := by
  have kept {id : Bytes} (isClosed : id ∈ state.closed) : id ∈ after.closed :=
    retires.closed.mpr (Or.inr isClosed)
  rcases told with nothing | one
  · rw [nothing]
    exact .none kept
  · rw [one]
    constructor
    · exact List.nodup_singleton paneId
    · intro id isReported
      obtain rfl := List.mem_singleton.mp isReported
      exact ⟨isOpen, retires.closed.mpr (Or.inl rfl)⟩
    · exact kept

theorem setTerminal_closedStayClosed {terminal : TerminalHandler}
    (apart : state.ClosedStayClosed) :
    (state.setTerminal paneId terminal).ClosedStayClosed :=
  fun id member => apart id (Std.TreeMap.mem_modify.mp member)

theorem updatePanes_reports {poll : Bytes → TerminalHandler.Poll} {taken : Message → Bool}
    {paneIds : List Bytes} {sent : List Message} (layout : state.Layout)
    (apart : state.ClosedStayClosed)
    (ok : state.updatePanes poll taken paneIds = .ok (sent, after)) :
    after.ClosedStayClosed ∧ state.ReportsFresh (reportedClosed sent) after := by
  induction paneIds generalizing state sent with
  | nil =>
      cases ok
      exact ⟨apart, .none id⟩
  | cons paneId rest ih =>
      obtain ⟨live, terminal, turn⟩ := updatePanes_cons ok
      have polled := layout.setTerminal paneId terminal
      have polledApart : (state.setTerminal paneId terminal).ClosedStayClosed :=
        setTerminal_closedStayClosed apart
      have stillLive : paneId ∈ (state.setTerminal paneId terminal).panes :=
        Std.TreeMap.mem_modify.mpr live
      cases turn with
      | ends same nothing =>
          rw [same, nothing]
          exact ⟨polledApart, .none id⟩
      | goesOn goesOn told =>
          rw [told]
          obtain ⟨apartAfter, reports⟩ := ih polled polledApart goesOn
          exact ⟨apartAfter, reports.once, reports.fresh, reports.kept⟩
      | closes closes told =>
          have retires := closePane_live_retires polled polledApart stillLive closes
          have reports := retires.reports (polledApart paneId stillLive) told
          exact ⟨retires.closedStayClosed polledApart, reports.once, reports.fresh, reports.kept⟩

/-! ### Every run, with its reports -/

/-- A step, and what it adds to the panes that `update` has reported closed so far. -/
inductive ReportStep :
    MultiplexerState × List Bytes → Command → MultiplexerState × List Bytes → Prop
  | arranged {state after : MultiplexerState} {reports : List Bytes} {command : Command} :
      (∀ poll taken, command ≠ .update poll taken) → Step state command after →
      ReportStep (state, reports) command (after, reports)
  | updated {state after : MultiplexerState} {reports : List Bytes}
      {poll : Bytes → TerminalHandler.Poll} {taken : Message → Bool} {sent : List Message} :
      state.update poll taken = .ok (sent, after) →
      ReportStep (state, reports) (.update poll taken) (after, reports ++ reportedClosed sent)

def reportSystem : TransitionSystem (MultiplexerState × List Bytes) Command where
  initial start := htmSystem.initial start.1 ∧ start.2 = []
  step := ReportStep

/-- The command gives no new pane the id of a closed one. -/
def NewId (state : MultiplexerState) : Command → Prop
  | .newTab _ paneId => paneId.bytes ∉ state.closed
  | .newSplit _ paneId _ _ => paneId.bytes ∉ state.closed
  | _ => True

structure Apart (state : MultiplexerState) (reports : List Bytes) : Prop where
  layout : state.Layout
  apart : state.ClosedStayClosed
  once : reports.Nodup
  reported {id : Bytes} : id ∈ reports → id ∈ state.closed

variable {reports : List Bytes}

theorem Apart.reported_kept (holds : state.Apart reports) {id : Bytes} (isReported : id ∈ reports)
    (closed : after.closed = state.closed) : id ∈ after.closed := by
  rw [closed]
  exact holds.reported isReported

theorem Apart.retired (holds : state.Apart reports) (retires : state.Retires paneId after)
    (layout : after.Layout) : after.Apart reports := by
  constructor
  · exact layout
  · exact retires.closedStayClosed holds.apart
  · exact holds.once
  · exact fun isReported => retires.closed.mpr (Or.inr (holds.reported isReported))

theorem Apart.opened_iff (holds : state.Apart reports) (opens : state.Opens paneId after)
    (layout : after.Layout) :
    (paneId ∉ state.closed → after.Apart reports) ∧
      (after.ClosedStayClosed ↔ paneId ∉ state.closed) := by
  have apart := opens.closedStayClosed_iff holds.apart
  refine ⟨?_, apart⟩
  intro isNew
  constructor
  · exact layout
  · exact apart.mpr isNew
  · exact holds.once
  · exact fun isReported => holds.reported_kept isReported opens.closed

theorem Apart.updated {poll : Bytes → TerminalHandler.Poll} {taken : Message → Bool}
    {sent : List Message} (holds : state.Apart reports)
    (ok : state.update poll taken = .ok (sent, after)) :
    after.Apart (reports ++ reportedClosed sent) := by
  obtain ⟨apart, fresh⟩ := updatePanes_reports holds.layout holds.apart ok
  constructor
  · exact holds.layout.updatePanes ok
  · exact apart
  · apply List.Nodup.append holds.once fresh.once
    intro id before now
    exact (fresh.fresh now).1 (holds.reported before)
  · intro id isReported
    rcases List.mem_append.mp isReported with before | now
    · exact fresh.kept (holds.reported before)
    · exact (fresh.fresh now).2

/-- A step keeps the run apart exactly when it makes no pane with a closed id. -/
theorem Apart.step {command : Command} {reportsAfter : List Bytes}
    (holds : state.Apart reports)
    (step : ReportStep (state, reports) command (after, reportsAfter)) :
    (state.NewId command → after.Apart reportsAfter) ∧
      (after.ClosedStayClosed ↔ state.NewId command) := by
  cases step with
  | updated ok =>
      have stays := holds.updated ok
      exact ⟨fun _ => stays, iff_of_true stays.apart trivial⟩
  | arranged notUpdate arranged =>
      have layout := holds.layout.step arranged
      cases arranged with
      | newTab ok => exact holds.opened_iff (newTab_opens ok) layout
      | newSplit _ _ ok => exact holds.opened_iff (newSplit_opens holds.layout ok) layout
      | update => exact absurd rfl (notUpdate _ _)
      | closePane ok =>
          rcases holds.layout.closePane_ok ok with ⟨_, rfl⟩ | ⟨_, closing, _⟩
          · exact ⟨fun _ => holds, iff_of_true holds.apart trivial⟩
          · have stays := holds.retired closing.retires layout
            exact ⟨fun _ => stays, iff_of_true stays.apart trivial⟩

theorem create_apart (tabId paneId : Uuid) : (create tabId.bytes paneId.bytes).Apart [] := by
  constructor
  · exact create_layout tabId paneId
  · exact fun id _ => Std.TreeSet.not_mem_emptyc
  · exact List.nodup_nil
  · intro id impossible
    cases impossible

/-- As long as no new pane gets the id of a closed one, no closed pane is live, every close
of a live pane takes it out and no pane is reported closed twice; the first new pane with a
closed id ends this. -/
theorem closed_panes_stay_closed_iff
    (reached : reportSystem.ReachableBy (fun before command => before.1.NewId command)
      (state, reports)) :
    state.ClosedStayClosed ∧
      (∀ paneId after, paneId ∈ state.panes → state.closePane paneId = .ok after →
        paneId ∉ after.panes) ∧
      reports.Nodup ∧
      ∀ command after reportsAfter,
        reportSystem.step (state, reports) command (after, reportsAfter) →
          (after.ClosedStayClosed ↔ state.NewId command) := by
  have holds : ∀ run : MultiplexerState × List Bytes,
      reportSystem.ReachableBy (fun before command => before.1.NewId command) run →
        run.1.Apart run.2 := by
    intro run reachedRun
    apply reachedRun.invariant
    · intro start starts
      obtain ⟨⟨tabId, paneId, created⟩, nothing⟩ := starts
      rw [created, nothing]
      exact create_apart tabId paneId
    · intro before command after holds isNew step
      exact (holds.step step).1 isNew
  have apart := holds (state, reports) reached
  refine ⟨apart.apart, ?_, apart.once, ?_⟩
  · intro paneId after live ok
    have retires := closePane_live_retires apart.layout apart.apart live ok
    exact fun member => (retires.panes.mp member).1 rfl
  · intro command after reportsAfter step
    exact (apart.step step).2

theorem ReportStep.of_newTab {tabId paneId : Uuid}
    (ok : state.newTab tabId.bytes paneId.bytes = .ok after) :
    reportSystem.step (state, reports) (.newTab tabId paneId) (after, reports) := by
  apply ReportStep.arranged
  · intro poll taken impossible
    cases impossible
  · exact .newTab ok

theorem ReportStep.of_closePane {paneId : Uuid} (ok : state.closePane paneId.bytes = .ok after) :
    reportSystem.step (state, reports) (.closePane paneId) (after, reports) := by
  apply ReportStep.arranged
  · intro poll taken impossible
    cases impossible
  · exact .closePane ok

def closedTab : Except String MultiplexerState := do
  let state ← (create (sampleId 0).bytes (sampleId 1).bytes).newTab (sampleId 2).bytes
    (sampleId 3).bytes
  state.closePane (sampleId 3).bytes

theorem closedTab_reachable {closed : MultiplexerState} (ok : closedTab = .ok closed) :
    reportSystem.ReachableBy (fun before command => before.1.NewId command) (closed, []) := by
  obtain ⟨opened, opens, closes⟩ := except_bind_ok ok
  have start : reportSystem.initial (create (sampleId 0).bytes (sampleId 1).bytes, []) :=
    ⟨⟨sampleId 0, sampleId 1, rfl⟩, rfl⟩
  have first : reportSystem.step (create (sampleId 0).bytes (sampleId 1).bytes, [])
      (.newTab (sampleId 2) (sampleId 3)) (opened, []) := .of_newTab opens
  have second : reportSystem.step (opened, []) (.closePane (sampleId 3)) (closed, []) :=
    .of_closePane closes
  refine .next (.next (.start start) ?_ first) ?_ second
  · exact Std.TreeSet.not_mem_emptyc
  · trivial

theorem closed_panes_stay_closed_tab :
    ∃ closed, closedTab = .ok closed ∧ closed.ClosedStayClosed ∧
      (∀ paneId after, paneId ∈ closed.panes → closed.closePane paneId = .ok after →
        paneId ∉ after.panes) ∧
      ([] : List Bytes).Nodup ∧
      ∀ command after reportsAfter,
        reportSystem.step (closed, []) command (after, reportsAfter) →
          (after.ClosedStayClosed ↔ closed.NewId command) :=
  ⟨_, rfl, closed_panes_stay_closed_iff (closedTab_reachable rfl)⟩

def endedPoll (paneId : Bytes) : TerminalHandler.Poll :=
  if paneId = (sampleId 3).bytes then .ended else .quiet

/-- The id of the closed pane in a third tab, and two updates once its shell has ended. -/
def reopenedTab : Except String (MultiplexerState × List Message × List Message) := do
  let state ← closedTab
  let state ← state.newTab (sampleId 4).bytes (sampleId 3).bytes
  let (first, state) ← state.update endedPoll fun _ => true
  let (second, state) ← state.update endedPoll fun _ => true
  pure (state, first, second)

theorem reopenedTab_reachable {after : MultiplexerState} {first second : List Message}
    (ok : reopenedTab = .ok (after, first, second)) :
    reportSystem.Reachable (after, reportedClosed first ++ reportedClosed second) := by
  obtain ⟨closed, closes, ok⟩ := except_bind_ok ok
  obtain ⟨opened, opens, ok⟩ := except_bind_ok ok
  obtain ⟨⟨_, middle⟩, updates, ok⟩ := except_bind_ok ok
  obtain ⟨⟨_, _⟩, updatesAgain, ok⟩ := except_bind_ok ok
  cases ok
  have reopens : reportSystem.step (closed, []) (.newTab (sampleId 4) (sampleId 3))
      (opened, []) := .of_newTab opens
  have once : reportSystem.step (opened, []) (.update endedPoll fun _ => true)
      (middle, reportedClosed first) := .updated updates
  have again : reportSystem.step (middle, reportedClosed first) (.update endedPoll fun _ => true)
      (after, reportedClosed first ++ reportedClosed second) := .updated updatesAgain
  exact (((closedTab_reachable closes).reachable.next reopens).next once).next again

/-- The pane is live and closed, a close leaves it, and two updates report it closed. -/
theorem closed_pane_reopens :
    ∃ (after : MultiplexerState) (reports : List Bytes),
      reportSystem.Reachable (after, reports) ∧ (sampleId 3).bytes ∈ after.panes ∧
      (sampleId 3).bytes ∈ after.closed ∧ after.closePane (sampleId 3).bytes = .ok after ∧
      reports = [(sampleId 3).bytes, (sampleId 3).bytes] ∧ ¬ after.ClosedStayClosed := by
  have live {after : MultiplexerState} {first second : List Message}
      (ok : reopenedTab = .ok (after, first, second))
      (isLive : (after.panes[(sampleId 3).bytes]?).isSome)
      (isClosed : after.closed.contains (sampleId 3).bytes)
      (reports : reportedClosed first ++ reportedClosed second =
        [(sampleId 3).bytes, (sampleId 3).bytes]) :
      reportSystem.Reachable (after, reportedClosed first ++ reportedClosed second) ∧
        (sampleId 3).bytes ∈ after.panes ∧ (sampleId 3).bytes ∈ after.closed ∧
        after.closePane (sampleId 3).bytes = .ok after ∧
        reportedClosed first ++ reportedClosed second =
          [(sampleId 3).bytes, (sampleId 3).bytes] ∧ ¬ after.ClosedStayClosed := by
    have inPanes : (sampleId 3).bytes ∈ after.panes :=
      Std.TreeMap.mem_iff_isSome_getElem?.mpr isLive
    have inClosed : (sampleId 3).bytes ∈ after.closed :=
      Std.TreeSet.mem_iff_contains.mpr isClosed
    exact ⟨reopenedTab_reachable ok, inPanes, inClosed, closePane_closed inClosed, reports,
      fun apart => apart _ inPanes inClosed⟩
  exact ⟨_, _, live rfl rfl rfl rfl⟩

end MultiplexerState

end EternalTerminal
