/-
A session of `HtmServer`: the commands that change its `MultiplexerState`.

Ids arrive as `UUID_LENGTH` bytes.  A command that ends the process has no
successor.
-/

import EternalTerminal.Library.TransitionSystem
import EternalTerminal.Htm.ClosePane

namespace EternalTerminal

open Library

theorem Uuid.ne_nil (uuid : Uuid) : uuid.bytes ≠ [] := by
  intro empty
  have length := uuid.length_eq
  rw [empty] at length
  cases length

namespace MultiplexerState

/-- What the client's messages and the terminals make the server do.  `drawn` is the
id that `newSplit` takes for a new split. -/
inductive Command where
  | newTab (tabId paneId : Uuid)
  | newSplit (sourceId paneId : Uuid) (vertical : Bool) (drawn : Uuid)
  | closePane (paneId : Uuid)
  | update (poll : Bytes → TerminalHandler.Poll) (taken : Message → Bool)

inductive Step : MultiplexerState → Command → MultiplexerState → Prop
  | newTab {state after : MultiplexerState} {tabId paneId : Uuid} :
      state.newTab tabId.bytes paneId.bytes = .ok after →
      Step state (.newTab tabId paneId) after
  | newSplit {state after : MultiplexerState} {sourceId paneId drawn : Uuid}
      {vertical : Bool} :
      state.Fresh drawn.bytes → paneId.bytes ≠ drawn.bytes →
      state.newSplit sourceId.bytes paneId.bytes vertical drawn.bytes = .ok after →
      Step state (.newSplit sourceId paneId vertical drawn) after
  | closePane {state after : MultiplexerState} {paneId : Uuid} :
      state.closePane paneId.bytes = .ok after → Step state (.closePane paneId) after
  | update {state after : MultiplexerState} {poll : Bytes → TerminalHandler.Poll}
      {taken : Message → Bool} {sent : List Message} :
      state.update poll taken = .ok (sent, after) → Step state (.update poll taken) after

def htmSystem : TransitionSystem MultiplexerState Command where
  initial state := ∃ tabId paneId : Uuid, state = create tabId.bytes paneId.bytes
  step := Step

variable {state after : MultiplexerState}

/-! ### The constructor -/

def empty : MultiplexerState :=
  { tabs := ∅
    panes := ∅
    splits := ∅
    closed := ∅ }

theorem create_eq (tabId paneId : Bytes) : create tabId paneId = empty.addTab tabId paneId := rfl

theorem empty_fresh (id : Bytes) : empty.Fresh id :=
  ⟨Std.TreeMap.not_mem_emptyc, Std.TreeMap.not_mem_emptyc, Std.TreeMap.not_mem_emptyc⟩

theorem empty_layout : empty.Layout := by
  constructor
  · constructor <;> grind [empty]
  · constructor
    · intro node container up
      cases up
    · intro node container items lists
      cases lists
    · intro container items lists
      cases lists
    · intro node container up
      cases up
  · intro id split found
    cases found

theorem create_layout (tabId paneId : Uuid) : (create tabId.bytes paneId.bytes).Layout := by
  rw [create_eq]
  exact empty_layout.addTab (empty_fresh _) (empty_fresh _) tabId.ne_nil

/-! ### Updates -/

theorem setTerminal_forest (paneId : Bytes) (terminal : TerminalHandler) :
    (state.setTerminal paneId terminal).forest = state.forest := by
  apply Forest.ext
  · rfl
  · rfl
  · funext id
    simp only [forest_parent, setTerminal, lookup_modify]
    by_cases here : paneId = id
    · subst here
      cases state.panes[paneId]? <;> simp
    · simp [here]

theorem Layout.setTerminal (layout : state.Layout) (paneId : Bytes)
    (terminal : TerminalHandler) : (state.setTerminal paneId terminal).Layout := by
  constructor
  · obtain ⟨tabIds, paneIds, splitIds, notTab, notPane, tabNamed, splitNamed⟩ := layout.toKeyed
    constructor <;> grind [MultiplexerState.setTerminal, lookup_modify]
  · rw [setTerminal_forest]
    exact layout.linked
  · exact layout.balanced

def reportedClosed (sent : List Message) : List Bytes :=
  sent.filterMap fun message =>
    match message with
    | .appendToPane _ _ => none
    | .serverClosePane paneId => some paneId

/-- What one turn of the loop does: it polls a terminal, and then the loop ends, goes on or
closes the pane. -/
inductive UpdateTurn (poll : Bytes → TerminalHandler.Poll) (taken : Message → Bool)
    (paneId : Bytes) (rest : List Bytes) (polled : MultiplexerState) (sent : List Message)
    (after : MultiplexerState) : Prop
  | ends : after = polled → reportedClosed sent = [] →
      UpdateTurn poll taken paneId rest polled sent after
  | goesOn {later : List Message} : polled.updatePanes poll taken rest = .ok (later, after) →
      reportedClosed sent = reportedClosed later →
      UpdateTurn poll taken paneId rest polled sent after
  | closes : polled.closePane paneId = .ok after →
      (reportedClosed sent = [] ∨ reportedClosed sent = [paneId]) →
      UpdateTurn poll taken paneId rest polled sent after

theorem updatePanes_cons {poll : Bytes → TerminalHandler.Poll} {taken : Message → Bool}
    {paneId : Bytes} {rest : List Bytes} {sent : List Message}
    (ok : state.updatePanes poll taken (paneId :: rest) = .ok (sent, after)) :
    paneId ∈ state.panes ∧ ∃ terminal,
      UpdateTurn poll taken paneId rest (state.setTerminal paneId terminal) sent after := by
  unfold updatePanes at ok
  obtain ⟨pane, found, ok⟩ := except_bind_ok ok
  obtain ⟨⟨terminalData, terminal⟩, _, ok⟩ := except_bind_ok ok
  refine ⟨mem_of_lookup (getPane_ok found), terminal, ?_⟩
  dsimp only at ok
  have appended : reportedClosed
      (if terminalData = [] then [] else [Message.appendToPane paneId terminalData]) = [] := by
    split <;> rfl
  split at ok
  · obtain ⟨told, same⟩ := Prod.mk.inj (Except.ok.inj ok)
    subst told
    exact .ends same.symm rfl
  · split at ok
    · obtain ⟨⟨later, result⟩, goesOn, ok⟩ := except_bind_ok ok
      obtain ⟨told, same⟩ := Prod.mk.inj (Except.ok.inj ok)
      dsimp only at told same
      subst told same
      apply UpdateTurn.goesOn goesOn
      unfold reportedClosed at appended ⊢
      rw [List.filterMap_append, appended, List.nil_append]
    · obtain ⟨result, closes, ok⟩ := except_bind_ok ok
      obtain ⟨told, same⟩ := Prod.mk.inj (Except.ok.inj ok)
      subst told same
      apply UpdateTurn.closes closes
      split
      · right
        unfold reportedClosed at appended ⊢
        rw [List.filterMap_append, appended, List.nil_append]
        rfl
      · exact Or.inl appended

theorem Layout.updatePanes {poll : Bytes → TerminalHandler.Poll} {taken : Message → Bool}
    {paneIds : List Bytes} {sent : List Message} (layout : state.Layout)
    (ok : state.updatePanes poll taken paneIds = .ok (sent, after)) : after.Layout := by
  induction paneIds generalizing state sent with
  | nil =>
      cases ok
      exact layout
  | cons paneId rest ih =>
      obtain ⟨_, terminal, turn⟩ := updatePanes_cons ok
      have polled := layout.setTerminal paneId terminal
      cases turn with
      | ends same _ => exact same ▸ polled
      | goesOn goesOn _ => exact ih polled goesOn
      | closes closes _ => exact polled.closePane closes

/-! ### Every reachable state -/

theorem Layout.step {command : Command} (layout : state.Layout)
    (step : Step state command after) : after.Layout := by
  cases step with
  | newTab ok =>
      obtain ⟨tabFresh, paneFresh, rfl⟩ := newTab_ok ok
      exact layout.addTab tabFresh paneFresh (Uuid.ne_nil _)
  | newSplit fresh different ok => exact layout.newSplit fresh different (Uuid.ne_nil _) ok
  | closePane ok => exact layout.closePane ok
  | update ok => exact layout.updatePanes ok

theorem reachable_layout (reached : htmSystem.Reachable state) : state.Layout := by
  apply reached.invariant
  · rintro _ ⟨tabId, paneId, rfl⟩
    exact create_layout tabId paneId
  · intro before command after layout step
    exact layout.step step

/-- Whatever the client asks for and the terminals do, the layout stays well formed. -/
theorem reachable_wellFormed (reached : htmSystem.Reachable state) : state.WellFormed :=
  (reachable_layout reached).wellFormed

def sampleId (byte : UInt8) : Uuid := ⟨List.replicate UUID_LENGTH byte, List.length_replicate⟩

/-- A tab whose root split holds a pane and a split of two panes. -/
def nestedSplits : Except String MultiplexerState := do
  let state ← (create (sampleId 0).bytes (sampleId 1).bytes).newSplit (sampleId 1).bytes
    (sampleId 2).bytes true (sampleId 8).bytes
  state.newSplit (sampleId 2).bytes (sampleId 3).bytes false (sampleId 9).bytes

theorem not_mem_of_lookup {V : Type} {table : Std.TreeMap Bytes V compare} {key : Bytes}
    (missing : (table[key]?).isNone = true) : key ∉ table :=
  lookup_none.mp (Option.isNone_iff_eq_none.mp missing)

theorem nestedSplits_reachable {nested : MultiplexerState} (ok : nestedSplits = .ok nested) :
    htmSystem.Reachable nested := by
  obtain ⟨middle, first, second⟩ := except_bind_ok ok
  have start : htmSystem.Reachable (create (sampleId 0).bytes (sampleId 1).bytes) :=
    .start ⟨sampleId 0, sampleId 1, rfl⟩
  have drawn : (create (sampleId 0).bytes (sampleId 1).bytes).Fresh (sampleId 8).bytes :=
    ⟨not_mem_of_lookup rfl, not_mem_of_lookup rfl, not_mem_of_lookup rfl⟩
  have drawnNext : middle.Fresh (sampleId 9).bytes := by
    cases first
    exact ⟨not_mem_of_lookup rfl, not_mem_of_lookup rfl, not_mem_of_lookup rfl⟩
  exact (start.next (.newSplit drawn (by decide) first)).next
    (.newSplit drawnNext (by decide) second)

theorem reachable_wellFormed_nested : ∃ nested, nestedSplits = .ok nested ∧ nested.WellFormed :=
  ⟨_, rfl, reachable_wellFormed (nestedSplits_reachable rfl)⟩

/-! ### Closing a live pane -/

/-- A close of a live pane completes, takes out that pane only and leaves a well-formed
layout, if and only if it does not leave a split with a split as its only child. -/
theorem closePane_succeeds_iff {paneId : Bytes} {pane : Pane}
    (reached : htmSystem.Reachable state) (found : state.panes[paneId]? = some pane)
    (isOpen : paneId ∉ state.closed) :
    (∃ after, state.closePane paneId = .ok after ∧ state.Closes paneId after ∧
      after.WellFormed) ↔ ¬ state.LeavesSplit paneId := by
  have layout := reachable_layout reached
  rcases layout.closePane_cases found isOpen with
    ⟨stays, after, ok, closing, kept⟩ | ⟨leaves, message, failed⟩
  · exact iff_of_true ⟨after, ok, closing.closes, kept.wellFormed⟩ stays
  · apply iff_of_false _ (not_not.mpr leaves)
    rintro ⟨after, ok, _⟩
    cases failed.symm.trans ok

/-- The pane beside the inner split cannot be closed. -/
theorem closePane_ends_process :
    ∃ nested pane message, htmSystem.Reachable nested ∧
      nested.panes[(sampleId 1).bytes]? = some pane ∧ (sampleId 1).bytes ∉ nested.closed ∧
      nested.closePane (sampleId 1).bytes = .error message :=
  ⟨_, _, _, nestedSplits_reachable rfl, rfl, Std.TreeSet.not_mem_emptyc, rfl⟩

/-- A pane of the inner split can. -/
theorem closePane_succeeds_iff_inner :
    ∃ nested, nestedSplits = .ok nested ∧
      ((∃ after, nested.closePane (sampleId 3).bytes = .ok after ∧
        nested.Closes (sampleId 3).bytes after ∧ after.WellFormed) ↔
        ¬ nested.LeavesSplit (sampleId 3).bytes) :=
  ⟨_, rfl, closePane_succeeds_iff (nestedSplits_reachable rfl) rfl Std.TreeSet.not_mem_emptyc⟩

end MultiplexerState

end EternalTerminal
