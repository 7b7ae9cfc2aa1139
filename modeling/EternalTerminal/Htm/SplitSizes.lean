/-
The sizes of a split's children, against the split that they are to fill.

A new child takes a half of the split.  When a child goes, the other sizes are multiplied
by the ratio of the two counts, whatever the size was that went.
-/

import EternalTerminal.Library.Shares
import EternalTerminal.Htm.HtmSession

namespace EternalTerminal

open Library

namespace MultiplexerState

variable {state after : MultiplexerState} {paneId sourceId uuid : Bytes} {vertical : Bool}

/-- The sizes of every split are positive and add up to one. -/
def SplitsFilled (state : MultiplexerState) : Prop :=
  ∀ (id : Bytes) (split : Split), state.splits[id]? = some split → Shares split.sizes

/-- Every split has the sizes that it, or a split before it, had. -/
def SizesKept (state after : MultiplexerState) : Prop :=
  ∀ (id : Bytes) (split : Split), after.splits[id]? = some split →
    ∃ former, state.splits[id]? = some former ∧ split.sizes = former.sizes

theorem SplitsFilled.of_kept (filled : state.SplitsFilled) (kept : state.SizesKept after) :
    after.SplitsFilled := by
  intro id split found
  obtain ⟨former, foundFormer, same⟩ := kept id split found
  rw [same]
  exact filled id former foundFormer

/-! ### A new split -/

theorem withChild_sizes (splitId oldId newId : Bytes) :
    state.SizesKept (state.withChild splitId oldId newId) := by
  intro id split found
  rw [withChild_splits] at found
  split at found
  · rename_i here
    obtain ⟨former, foundFormer, rfl⟩ := Option.map_eq_some_iff.mp found
    exact ⟨former, here ▸ foundFormer, rfl⟩
  · exact ⟨split, found, rfl⟩

theorem replaceChild_sizes {splitId oldId newId : Bytes} {missing : String}
    (ok : state.replaceChild splitId oldId newId missing = .ok after) :
    state.SizesKept after := by
  obtain ⟨split, _, ok⟩ := except_bind_ok ok
  split at ok
  · obtain rfl := Except.ok.inj ok
    exact withChild_sizes splitId oldId newId
  · cases ok

theorem continueSplit_filled {split : Split} (filled : state.SplitsFilled) :
    ((state.insertPane paneId []).continueSplit split paneId).SplitsFilled := by
  intro id changed found
  simp only [continueSplit, insertPane, setParent, lookup_modify] at found
  split at found
  · obtain ⟨former, foundFormer, rfl⟩ := Option.map_eq_some_iff.mp found
    exact (filled _ former foundFormer).append_half
  · exact filled id changed found

theorem addSplit_filled {parentId : Bytes} (freshSplit : uuid ∉ state.splits)
    (filled : state.SplitsFilled) :
    ((state.insertPane paneId []).addSplit uuid parentId sourceId paneId
      vertical).SplitsFilled := by
  intro id split found
  rw [addSplit_splits freshSplit] at found
  split at found
  · cases found
    exact Shares.halves
  · exact filled id split found

theorem newSplit_filled (layout : state.Layout) (freshSplit : uuid ∉ state.splits)
    (filled : state.SplitsFilled)
    (ok : state.newSplit sourceId paneId vertical uuid = .ok after) : after.SplitsFilled := by
  obtain ⟨_, source, _, branch⟩ := newSplit_ok layout ok
  rcases branch with ⟨split, _, same⟩ | ⟨split, _, replaced⟩ | ⟨tab, _, same⟩
  · rw [same]
    exact continueSplit_filled filled
  · exact (addSplit_filled freshSplit filled).of_kept (replaceChild_sizes replaced)
  · rw [same]
    exact addSplit_filled freshSplit filled

/-! ### A close -/

/-- The pane takes an even part of a split that goes on without it. -/
def ClosesEvenly (state : MultiplexerState) (paneId : Bytes) : Prop :=
  ∀ (pane : Pane) (split : Split), paneId ∉ state.closed →
    state.panes[paneId]? = some pane → state.splits[pane.parentId]? = some split →
    3 ≤ split.panes_or_splits.length →
    split.sizes[split.panes_or_splits.idxOf paneId]? =
      some (1 / (split.panes_or_splits.length : ℚ))

theorem collapsed_sizes {split : Split} {splitId childId : Bytes} (sameId : split.id = splitId) :
    state.SizesKept ((((state.withoutPane paneId).withSplit splitId split).promoted split
      childId).withoutSplit split.id) := by
  intro id other found
  obtain ⟨isOther, former, foundFormer, same⟩ := promoted_split found
  rw [withSplit_splits, if_neg (fun here => isOther (here.symm.trans sameId.symm))]
    at foundFormer
  refine ⟨former, foundFormer, ?_⟩
  rcases same with same | replaced
  · rw [same]
  · rw [replaced]

theorem detached_filled_iff {splitId : Bytes} {changed : Split} (filled : state.SplitsFilled) :
    ((state.withoutPane paneId).withSplit splitId changed).SplitsFilled ↔
      Shares changed.sizes := by
  constructor
  · intro filledAfter
    apply filledAfter splitId changed
    rw [withSplit_splits, if_pos rfl]
  · intro shares id split found
    rw [withSplit_splits] at found
    split at found
    · cases found
      exact shares
    · exact filled id split found

theorem normalized_iff {split : Split} (balanced : split.Balanced) (shares : Shares split.sizes)
    (member : paneId ∈ split.panes_or_splits) (many : 3 ≤ split.panes_or_splits.length) :
    Shares (normalizeSizes (split.without paneId)).sizes ↔
      split.sizes[split.panes_or_splits.idxOf paneId]? =
        some (1 / (split.panes_or_splits.length : ℚ)) := by
  have sameLength := balanced.one_size_each
  have inside : split.panes_or_splits.idxOf paneId < split.sizes.length := by
    rw [sameLength]
    exact List.idxOf_lt_length_of_mem member
  have two : 2 ≤ split.sizes.length := by omega
  have even := shares.rescale_iff inside two
  rw [List.getElem?_eq_getElem inside, Option.some.injEq, ← sameLength]
  exact even

/-- Closing a pane keeps the splits filled exactly when it takes an even part. -/
theorem closePane_filled_iff (layout : state.Layout) (filled : state.SplitsFilled)
    (ok : state.closePane paneId = .ok after) :
    after.SplitsFilled ↔ state.ClosesEvenly paneId := by
  rcases layout.closePane_ok ok with ⟨isClosed, same⟩ | ⟨isOpen, closing, _⟩
  · rw [same]
    exact iff_of_true filled fun _ _ isOpen => absurd isClosed isOpen
  · cases closing with
    | root found isTab =>
        apply iff_of_true filled
        intro pane split _ foundToo isSplit
        obtain rfl := Option.some.inj (found.symm.trans foundToo)
        exact absurd (mem_of_lookup isTab) (layout.split_not_tab (mem_of_lookup isSplit))
    | @detached pane split found isSplit member two =>
        have many : 3 ≤ split.panes_or_splits.length := by
          rw [Split.without_length member] at two
          omega
        rw [detached_filled_iff filled,
          normalized_iff (layout.balanced isSplit) (filled _ _ isSplit) member many]
        constructor
        · intro even other otherSplit _ foundToo isSplitToo _
          obtain rfl := Option.some.inj (found.symm.trans foundToo)
          obtain rfl := Option.some.inj (isSplit.symm.trans isSplitToo)
          exact even
        · exact fun evenly => evenly pane split isOpen found isSplit many
    | @collapsed pane split childId found isSplit single =>
        apply iff_of_true
        · have sameId : split.id = pane.parentId := layout.split_id isSplit
          exact filled.of_kept (collapsed_sizes sameId)
        · -- the split had two children, so nothing is rescaled
          intro other otherSplit _ foundToo isSplitToo many
          obtain rfl := Option.some.inj (found.symm.trans foundToo)
          obtain rfl := Option.some.inj (isSplit.symm.trans isSplitToo)
          have left : split.panes_or_splits.erase paneId = [childId] := single
          have atLeast : split.panes_or_splits.length - 1 ≤
              (split.panes_or_splits.erase paneId).length := List.le_length_erase
          rw [left, List.length_singleton] at atLeast
          omega

/-! ### Every run -/

/-- The commands that make and close tabs and panes for the client. -/
def Command.Arranges : Command → Prop
  | .update _ _ => False
  | _ => True

def KeepsShares (state : MultiplexerState) : Command → Prop
  | .closePane paneId => state.ClosesEvenly paneId.bytes
  | _ => True

theorem step_filled_iff {command : Command} (layout : state.Layout) (filled : state.SplitsFilled)
    (arranges : command.Arranges) (step : Step state command after) :
    after.SplitsFilled ↔ state.KeepsShares command := by
  cases step with
  | newTab ok =>
      obtain ⟨_, _, same⟩ := newTab_ok ok
      rw [same]
      exact iff_of_true filled trivial
  | newSplit fresh _ ok =>
      exact iff_of_true (newSplit_filled layout fresh.split filled ok) trivial
  | closePane ok => exact closePane_filled_iff layout filled ok
  | update => exact absurd arranges id

/-- In every run that closes only even parts of the splits that go on, every split is
filled, and the first close of another part leaves one that is not. -/
theorem splits_filled_iff
    (reached : htmSystem.ReachableBy (fun state command =>
      command.Arranges ∧ state.KeepsShares command) state) :
    state.SplitsFilled ∧
      ∀ (command : Command) (after : MultiplexerState), command.Arranges →
        htmSystem.step state command after →
          (after.SplitsFilled ↔ state.KeepsShares command) := by
  have both : state.Layout ∧ state.SplitsFilled := by
    apply reached.invariant
    · rintro _ ⟨tabId, paneId, rfl⟩
      refine ⟨create_layout tabId paneId, ?_⟩
      intro id split impossible
      cases impossible
    · intro before command after holds allowed step
      have filled := (step_filled_iff holds.1 holds.2 allowed.1 step).mpr allowed.2
      exact ⟨holds.1.step step, filled⟩
  refine ⟨both.2, ?_⟩
  intro command after arranges step
  exact step_filled_iff both.1 both.2 arranges step

/-- Three panes beside each other, the last of which has a half of the split. -/
def threeColumns : Except String MultiplexerState := do
  let state ← (create (sampleId 0).bytes (sampleId 1).bytes).newSplit (sampleId 1).bytes
    (sampleId 2).bytes true (sampleId 8).bytes
  state.newSplit (sampleId 2).bytes (sampleId 3).bytes true (sampleId 9).bytes

theorem threeColumns_reachable {columns : MultiplexerState} (ok : threeColumns = .ok columns) :
    htmSystem.ReachableBy (fun state command =>
      command.Arranges ∧ state.KeepsShares command) columns := by
  obtain ⟨middle, first, second⟩ := except_bind_ok ok
  have drawn : (create (sampleId 0).bytes (sampleId 1).bytes).Fresh (sampleId 8).bytes :=
    ⟨not_mem_of_lookup rfl, not_mem_of_lookup rfl, not_mem_of_lookup rfl⟩
  have drawnNext : middle.Fresh (sampleId 9).bytes := by
    cases first
    exact ⟨not_mem_of_lookup rfl, not_mem_of_lookup rfl, not_mem_of_lookup rfl⟩
  have firstStep : Step _ (.newSplit (sampleId 1) (sampleId 2) true (sampleId 8)) middle :=
    .newSplit drawn (by decide) first
  have secondStep : Step middle (.newSplit (sampleId 2) (sampleId 3) true (sampleId 9)) columns :=
    .newSplit drawnNext (by decide) second
  have start : htmSystem.initial (create (sampleId 0).bytes (sampleId 1).bytes) :=
    ⟨sampleId 0, sampleId 1, rfl⟩
  refine .next (.next (.start start) ?_ firstStep) ?_ secondStep
  · exact ⟨trivial, trivial⟩
  · exact ⟨trivial, trivial⟩

theorem splits_filled_three_columns :
    ∃ columns, threeColumns = .ok columns ∧ columns.SplitsFilled ∧
      ∀ (command : Command) (after : MultiplexerState), command.Arranges →
        htmSystem.step columns command after →
          (after.SplitsFilled ↔ columns.KeepsShares command) :=
  ⟨_, rfl, splits_filled_iff (threeColumns_reachable rfl)⟩

/-- Closing the column that has a half leaves two of three eighths each. -/
theorem split_not_filled :
    ∃ columns after split, threeColumns = .ok columns ∧
      htmSystem.ReachableBy (fun _ command => command.Arranges) after ∧
      columns.closePane (sampleId 3).bytes = .ok after ∧
      after.splits[(sampleId 8).bytes]? = some split ∧ split.sizes = [3 / 8, 3 / 8] ∧
      ¬ after.SplitsFilled := by
  have closes {columns after : MultiplexerState} (ok : threeColumns = .ok columns)
      (closed : columns.closePane (sampleId 3).bytes = .ok after) :
      htmSystem.ReachableBy (fun _ command => command.Arranges) after := by
    have reached := (threeColumns_reachable ok).mono fun _ _ allowed => allowed.1
    have step : Step columns (.closePane (sampleId 3)) after := .closePane closed
    refine reached.next ?_ step
    trivial
  refine ⟨_, _, _, rfl, closes rfl rfl, rfl, rfl, ?_, ?_⟩
  · decide +kernel
  · intro filled
    have total := (filled (sampleId 8).bytes _ rfl).total
    revert total
    decide +kernel

end MultiplexerState

end EternalTerminal
