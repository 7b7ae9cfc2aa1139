/-
`closePane`: what it does to the layout, and when it ends the process.

A root pane goes with its tab, and a pane of a split is detached from it.  A split
that keeps one child is spliced out, which the code can do for a pane only.
-/

import EternalTerminal.Htm.NewPanes

namespace EternalTerminal

open Library

namespace MultiplexerState

variable {state after : MultiplexerState} {paneId : Bytes} {pane : Pane}

/-- The state once the pane has been taken out of the map. -/
def withoutPane (state : MultiplexerState) (paneId : Bytes) : MultiplexerState :=
  { state with
    panes := state.panes.erase paneId
    closed := state.closed.insert paneId }

theorem closePane_live (isOpen : paneId ∉ state.closed) (found : state.panes[paneId]? = some pane) :
    state.closePane paneId = (state.withoutPane paneId).detachPane pane := by
  unfold closePane
  rw [if_neg isOpen, found]
  rfl

theorem closePane_closed (isClosed : paneId ∈ state.closed) :
    state.closePane paneId = .ok state :=
  if_pos isClosed

/-- Nothing hangs below a pane's id unless it is a tab's id too. -/
theorem Layout.bare (layout : state.Layout) (found : state.panes[paneId]? = some pane)
    (child : Bytes) (up : state.forest.parent child = some paneId) : paneId ∈ state.tabs := by
  have lists := layout.lists_iff.mpr (layout.linked.listed up)
  cases lists with
  | tab isTab _ => exact mem_of_lookup isTab
  | split isSplit _ =>
      exact absurd (mem_of_lookup found) (layout.split_not_pane (mem_of_lookup isSplit))

/-! ### A root pane -/

def shiftOrder (order : Int) (tab : Tab) : Tab :=
  if tab.order > order then { tab with order := tab.order - 1 } else tab

/-- The state once a tab is gone and the tabs after it have moved up. -/
def withoutTab (state : MultiplexerState) (tabId : Bytes) (order : Int) : MultiplexerState :=
  { state with tabs := (state.tabs.map fun _ tab => shiftOrder order tab).erase tabId }

theorem shiftOrder_child (order : Int) (tab : Tab) :
    (shiftOrder order tab).pane_or_split_id = tab.pane_or_split_id := by
  unfold shiftOrder
  split <;> rfl

theorem shiftOrder_id (order : Int) (tab : Tab) : (shiftOrder order tab).id = tab.id := by
  unfold shiftOrder
  split <;> rfl

theorem lookup_shifted {order : Int} {id : Bytes} :
    (state.tabs.map fun _ tab => shiftOrder order tab)[id]? =
      (state.tabs[id]?).map (shiftOrder order) := by
  rw [Std.TreeMap.getElem?_map]

/-- The loop stops at the pane's own tab, because no other has this child. -/
theorem closeTab_ok {tab : Tab} {tabId : Bytes} (found : state.tabs[tabId]? = some tab)
    (child : tab.pane_or_split_id = pane.id)
    (only : ∀ otherId other, state.tabs[otherId]? = some other →
      other.pane_or_split_id = pane.id → otherId = tabId) :
    state.closeTab tab pane = .ok (state.withoutTab tabId tab.order) := by
  have present : (tabId, shiftOrder tab.order tab) ∈
      (state.tabs.map fun _ other => shiftOrder tab.order other).toList := by
    rw [Std.TreeMap.mem_toList_iff_getElem?_eq_some, lookup_shifted, found]
    rfl
  have shifted : (state.tabs.map fun _ other =>
      if other.order > tab.order then { other with order := other.order - 1 } else other) =
        state.tabs.map fun _ other => shiftOrder tab.order other := rfl
  unfold closeTab
  dsimp only
  rw [shifted]
  split
  · rename_i otherId other first
    have member := List.mem_of_find?_eq_some first
    rw [Std.TreeMap.mem_toList_iff_getElem?_eq_some, lookup_shifted] at member
    obtain ⟨former, foundFormer, rfl⟩ := Option.map_eq_some_iff.mp member
    have sameChild : (shiftOrder tab.order former).pane_or_split_id = pane.id := by
      simpa using List.find?_some first
    rw [shiftOrder_child] at sameChild
    rw [only otherId former foundFormer sameChild]
    rfl
  · rename_i missing
    have none := List.find?_eq_none.mp missing _ present
    rw [shiftOrder_child, child] at none
    simp at none

theorem closedTab_forest (keyed : state.Keyed) {tab : Tab} {tabId : Bytes}
    (found : state.panes[paneId]? = some pane) (isTab : state.tabs[tabId]? = some tab) :
    ((state.withoutPane paneId).withoutTab tabId tab.order).forest =
      state.forest.uproot tabId paneId := by
  have noSplit : state.splits[tabId]? = none :=
    lookup_none.mpr fun member => keyed.split_not_tab member (mem_of_lookup isTab)
  have noPaneSplit : state.splits[paneId]? = none :=
    lookup_none.mpr fun member => keyed.split_not_pane member (mem_of_lookup found)
  apply Forest.ext
  · funext id
    apply propext
    show id ∈ (Std.TreeMap.erase _ tabId) ↔ id ≠ tabId ∧ id ∈ state.tabs
    rw [Std.TreeMap.mem_erase, Std.TreeMap.mem_map, ne_eq, ne_eq,
      Std.LawfulEqCmp.compare_eq_iff_eq, eq_comm]
    rfl
  · funext id
    simp only [forest_children, withoutTab, withoutPane, lookup_erase, lookup_shifted,
      Forest.uproot, Function.update_apply]
    by_cases atTab : id = tabId
    · simp [atTab, noSplit]
    · cases state.tabs[id]? <;> simp [atTab, Ne.symm atTab, shiftOrder_child]
  · funext id
    simp only [forest_parent, withoutTab, withoutPane, lookup_erase, Forest.uproot,
      Function.update_apply]
    by_cases atPane : id = paneId
    · simp [atPane, noPaneSplit]
    · simp [atPane, Ne.symm atPane]

theorem Keyed.withoutPane (keyed : state.Keyed) (paneId : Bytes) :
    (state.withoutPane paneId).Keyed := by
  obtain ⟨tabIds, paneIds, splitIds, notTab, notPane, tabNamed, splitNamed⟩ := keyed
  constructor <;> grind [MultiplexerState.withoutPane, lookup_erase]

theorem Keyed.withoutTab (keyed : state.Keyed) (tabId : Bytes) (order : Int) :
    (state.withoutTab tabId order).Keyed := by
  obtain ⟨tabIds, paneIds, splitIds, notTab, notPane, tabNamed, splitNamed⟩ := keyed
  constructor <;>
    grind [MultiplexerState.withoutTab, lookup_erase, lookup_shifted, shiftOrder_id]

theorem Layout.closeTab (layout : state.Layout) (found : state.panes[paneId]? = some pane)
    {tab : Tab} (isTab : state.tabs[pane.parentId]? = some tab) :
    (state.withoutPane paneId).closeTab tab pane =
        .ok ((state.withoutPane paneId).withoutTab pane.parentId tab.order) ∧
      ((state.withoutPane paneId).withoutTab pane.parentId tab.order).Layout := by
  have sameId := layout.pane_id found
  have child : paneId = tab.pane_or_split_id :=
    List.mem_singleton.mp (layout.linked.mem_of_lists (forest_parent_pane found)
      (forest_children_tab isTab))
  have stillTab : (state.withoutPane paneId).tabs[pane.parentId]? = some tab := isTab
  constructor
  · apply closeTab_ok stillTab
    · rw [sameId, child]
    · intro otherId other isOther sameChild
      have up := layout.linked.named (forest_children_tab isOther) (List.mem_singleton_self _)
      rw [sameChild, sameId, forest_parent_pane found] at up
      exact (Option.some.inj up).symm
  · constructor
    · exact (layout.toKeyed.withoutPane paneId).withoutTab _ _
    · rw [closedTab_forest layout.toKeyed found isTab]
      apply layout.linked.uproot
      · rw [forest_children_tab isTab, ← child]
      · exact layout.bare found
    · exact layout.balanced

/-! ### A pane of a split -/

def Split.without (split : Split) (childId : Bytes) : Split :=
  { split with
    panes_or_splits := split.panes_or_splits.erase childId
    sizes := split.sizes.eraseIdx (split.panes_or_splits.idxOf childId) }

theorem removeChild_member {split : Split} (member : pane.id ∈ split.panes_or_splits) :
    removeChild split pane = .ok (split.without pane.id) :=
  if_pos member

theorem Split.without_length {split : Split} {childId : Bytes}
    (member : childId ∈ split.panes_or_splits) :
    (split.without childId).panes_or_splits.length = split.panes_or_splits.length - 1 :=
  List.length_erase_of_mem member

theorem Split.Balanced.without {split : Split} {childId : Bytes} (balanced : split.Balanced)
    (member : childId ∈ split.panes_or_splits)
    (two : 2 ≤ (split.without childId).panes_or_splits.length) :
    (normalizeSizes (split.without childId)).Balanced := by
  constructor
  · exact two
  · have inside : split.panes_or_splits.idxOf childId < split.sizes.length := by
      rw [balanced.one_size_each]
      exact List.idxOf_lt_length_of_mem member
    show (List.map _ (List.eraseIdx _ _)).length = (List.erase _ _).length
    rw [List.length_map, List.length_eraseIdx, if_pos inside, List.length_erase_of_mem member,
      balanced.one_size_each]

/-- The state once `split` stands at `splitId`. -/
def withSplit (state : MultiplexerState) (splitId : Bytes) (split : Split) :
    MultiplexerState :=
  { state with splits := state.splits.insert splitId split }

theorem withSplit_splits {splitId id : Bytes} {split : Split} :
    (state.withSplit splitId split).splits[id]? =
      if splitId = id then some split else state.splits[id]? :=
  lookup_insert

theorem Keyed.withSplit (keyed : state.Keyed) {former split : Split} {splitId : Bytes}
    (isSplit : state.splits[splitId]? = some former) (sameId : split.id = splitId) :
    (state.withSplit splitId split).Keyed := by
  have member := mem_of_lookup isSplit
  obtain ⟨tabIds, paneIds, splitIds, notTab, notPane, tabNamed, splitNamed⟩ := keyed
  constructor <;> grind [MultiplexerState.withSplit, lookup_insert]

/-- Normalizing the sizes does not show in the forest, so `changed` is the split before
or after it. -/
theorem detached_forest (layout : state.Layout) (found : state.panes[paneId]? = some pane)
    {split changed : Split} (isSplit : state.splits[pane.parentId]? = some split)
    (sameParent : changed.parentId = split.parentId)
    (children : changed.panes_or_splits = split.panes_or_splits.erase paneId) :
    ((state.withoutPane paneId).withSplit pane.parentId changed).forest =
      state.forest.detach pane.parentId paneId split.panes_or_splits := by
  have noTab := lookup_none.mpr (layout.split_not_tab (mem_of_lookup isSplit))
  have noPaneSplit : state.splits[paneId]? = none :=
    lookup_none.mpr fun member => layout.split_not_pane member (mem_of_lookup found)
  have otherId : pane.parentId ≠ paneId := by
    intro same
    rw [same, noPaneSplit] at isSplit
    cases isSplit
  apply Forest.ext
  · rfl
  · funext id
    simp only [forest_children, withSplit_splits, withoutPane, Forest.detach,
      Function.update_apply]
    by_cases atSplit : id = pane.parentId
    · subst atSplit
      simp [withSplit, noTab, children]
    · simp [withSplit, atSplit, Ne.symm atSplit]
  · funext id
    simp only [forest_parent, withSplit_splits, withoutPane, Forest.detach,
      Function.update_apply]
    by_cases atPane : id = paneId
    · subst atPane
      simp [withSplit, otherId, noPaneSplit]
    · by_cases atSplit : id = pane.parentId
      · subst atSplit
        simp [withSplit, lookup_erase, atPane, Ne.symm atPane, sameParent, isSplit]
      · simp [withSplit, lookup_erase, atPane, Ne.symm atPane, Ne.symm atSplit]

theorem Layout.detached (layout : state.Layout) (found : state.panes[paneId]? = some pane)
    {split changed : Split} (isSplit : state.splits[pane.parentId]? = some split)
    (sameParent : changed.parentId = split.parentId)
    (children : changed.panes_or_splits = split.panes_or_splits.erase paneId) :
    ((state.withoutPane paneId).withSplit pane.parentId changed).forest.Linked := by
  rw [detached_forest layout found isSplit sameParent children]
  apply layout.linked.detach (layout.children_split isSplit) (forest_parent_pane found)
  exact layout.bare found

/-! ### A split that collapses -/

structure Collapsing (state : MultiplexerState) (split : Split) (child : Pane) : Prop
    extends Keyed state where
  linked : state.forest.Linked
  isSplit : state.splits[split.id]? = some split
  single : split.panes_or_splits = [child.id]
  isPane : state.panes[child.id]? = some child

/-- The state once the split's parent has the child in the split's place. -/
def promoted (state : MultiplexerState) (split : Split) (childId : Bytes) :
    MultiplexerState :=
  if split.parentId ∈ state.tabs then
    (state.setParent childId split.parentId).setTabChild split.parentId childId
  else (state.setParent childId split.parentId).withChild split.parentId split.id childId

def withoutSplit (state : MultiplexerState) (splitId : Bytes) : MultiplexerState :=
  { state with splits := state.splits.erase splitId }

/-- The splits that stay keep what they are, up to the child that one of them swaps. -/
theorem promoted_split {split other : Split} {childId id : Bytes}
    (found : ((state.promoted split childId).withoutSplit split.id).splits[id]? = some other) :
    id ≠ split.id ∧ ∃ former, state.splits[id]? = some former ∧
      (other = former ∨ other =
        { former with
          panes_or_splits := former.panes_or_splits.replace split.id childId }) := by
  simp only [withoutSplit, lookup_erase] at found
  split at found
  · cases found
  · rename_i kept
    refine ⟨Ne.symm kept, ?_⟩
    unfold promoted at found
    split at found
    · exact ⟨other, found, Or.inl rfl⟩
    · rw [withChild_splits] at found
      split at found
      · rename_i isParent
        obtain ⟨former, foundFormer, replaced⟩ := Option.map_eq_some_iff.mp found
        exact ⟨former, isParent ▸ foundFormer, Or.inr replaced.symm⟩
      · exact ⟨other, found, Or.inl rfl⟩

theorem promoted_balanced {split : Split} {childId : Bytes}
    (balanced : ∀ (id : Bytes) (other : Split), id ≠ split.id →
      state.splits[id]? = some other → other.Balanced) {id : Bytes} {other : Split}
    (found : ((state.promoted split childId).withoutSplit split.id).splits[id]? = some other) :
    other.Balanced := by
  obtain ⟨isOther, former, foundFormer, same | replaced⟩ := promoted_split found
  · rw [same]
    exact balanced id former isOther foundFormer
  · rw [replaced]
    exact (balanced id former isOther foundFormer).replace _ _

namespace Collapsing

variable {split : Split} {child : Pane}

theorem children (collapsing : state.Collapsing split child) :
    state.forest.children split.id = some [child.id] := by
  have noTab := lookup_none.mpr (collapsing.split_not_tab (mem_of_lookup collapsing.isSplit))
  simp only [forest_children, noTab, collapsing.isSplit, Option.map_some, collapsing.single]

theorem parent (collapsing : state.Collapsing split child) :
    state.forest.parent split.id = some split.parentId := by
  have noPane := lookup_none.mpr (collapsing.split_not_pane (mem_of_lookup collapsing.isSplit))
  simp only [forest_parent, noPane, collapsing.isSplit, Option.map_some]

theorem parent_ne (collapsing : state.Collapsing split child) : split.parentId ≠ split.id := by
  intro loop
  have up := collapsing.parent
  rw [loop] at up
  exact collapsing.split_not_tab (mem_of_lookup collapsing.isSplit)
    ((collapsing.linked.grounded up).root_of_parent_self up)

theorem child_ne (collapsing : state.Collapsing split child) : child.id ≠ split.id := by
  intro same
  apply collapsing.split_not_pane (mem_of_lookup collapsing.isSplit)
  rw [← same]
  exact mem_of_lookup collapsing.isPane

/-- The split's parent, when it is no tab, is a split that lists it. -/
theorem parentSplit (collapsing : state.Collapsing split child)
    (notTab : split.parentId ∉ state.tabs) :
    ∃ parentSplit, state.splits[split.parentId]? = some parentSplit ∧
      split.id ∈ parentSplit.panes_or_splits := by
  obtain ⟨items, lists, member⟩ := collapsing.linked.listed collapsing.parent
  simp only [forest_children, lookup_none.mpr notTab] at lists
  obtain ⟨parentSplit, found, rfl⟩ := Option.map_eq_some_iff.mp lists
  exact ⟨parentSplit, found, member⟩

theorem collapseSplit_ok (collapsing : state.Collapsing split child) :
    state.collapseSplit split child.id =
      .ok ((state.promoted split child.id).withoutSplit split.id) := by
  have present : state.getPane child.id = .ok child := by
    unfold getPane
    rw [collapsing.isPane]
  have promotes : (state.setParent child.id split.parentId).promoteChild split child.id =
      .ok (state.promoted split child.id) := by
    unfold promoteChild promoted
    show (if split.parentId ∈ state.tabs then _ else _) = _
    split
    · rfl
    · rename_i notTab
      obtain ⟨parentSplit, found, member⟩ := collapsing.parentSplit notTab
      exact replaceChild_member (show (state.setParent child.id split.parentId).splits[_]? = _
        from found) member
  unfold collapseSplit
  rw [present]
  show ((state.setParent child.id split.parentId).promoteChild split child.id >>= _) = _
  rw [promotes]
  rfl

theorem promoted_keyed (collapsing : state.Collapsing split child) :
    ((state.promoted split child.id).withoutSplit split.id).Keyed := by
  have keyed := collapsing.toKeyed
  have moved : (state.setParent child.id split.parentId).Keyed := by
    obtain ⟨tabIds, paneIds, splitIds, notTab, notPane, tabNamed, splitNamed⟩ := keyed
    constructor <;> grind [setParent, lookup_modify]
  have promoted : (state.promoted split child.id).Keyed := by
    unfold MultiplexerState.promoted
    split
    · exact moved.setTabChild _ _
    · exact moved.modifySplit _ _ (fun _ => rfl)
  obtain ⟨tabIds, paneIds, splitIds, notTab, notPane, tabNamed, splitNamed⟩ := promoted
  constructor <;> grind [withoutSplit, lookup_erase]

theorem promoted_parent (collapsing : state.Collapsing split child) :
    ((state.promoted split child.id).withoutSplit split.id).forest.parent =
      Function.update (Function.update state.forest.parent child.id (some split.parentId))
        split.id none := by
  have noPane := lookup_none.mpr (collapsing.split_not_pane (mem_of_lookup collapsing.isSplit))
  have promotes : (state.promoted split child.id).forest.parent =
      (state.setParent child.id split.parentId).forest.parent := by
    unfold promoted
    split
    · rfl
    · exact withChild_parent _ _ _ _
  have panes : (state.promoted split child.id).panes =
      (state.setParent child.id split.parentId).panes := by
    unfold promoted
    split <;> rfl
  funext id
  by_cases atSplit : id = split.id
  · subst atSplit
    rw [Function.update_self]
    simp only [forest_parent, withoutSplit, panes, setParent, lookup_modify, lookup_erase,
      if_neg collapsing.child_ne, noPane, if_pos, Option.map_none]
  · rw [Function.update_of_ne atSplit]
    have kept : ((state.promoted split child.id).withoutSplit split.id).forest.parent id =
        (state.promoted split child.id).forest.parent id := by
      simp only [forest_parent, withoutSplit, lookup_erase, if_neg (Ne.symm atSplit)]
    rw [kept, promotes, Function.update_apply]
    simp only [forest_parent, setParent, lookup_modify]
    by_cases atChild : id = child.id
    · simp [atChild, collapsing.isPane]
    · simp [atChild, Ne.symm atChild]

theorem promoted_children (collapsing : state.Collapsing split child) {items : List Bytes}
    (lists : state.forest.children split.parentId = some items)
    (member : split.id ∈ items) :
    ((state.promoted split child.id).withoutSplit split.id).forest.children =
      Function.update (Function.update state.forest.children split.parentId
        (some (items.replace split.id child.id))) split.id none := by
  have noTab := lookup_none.mpr (collapsing.split_not_tab (mem_of_lookup collapsing.isSplit))
  have parentNe := collapsing.parent_ne
  funext id
  by_cases isTab : split.parentId ∈ state.tabs
  · obtain ⟨tab, found⟩ := exists_lookup isTab
    obtain rfl := Option.some.inj ((forest_children_tab found).symm.trans lists)
    obtain only := List.mem_singleton.mp member
    simp only [forest_children, withoutSplit, promoted, if_pos isTab, setTabChild, setParent,
      lookup_modify, lookup_erase, Function.update_apply]
    by_cases atSplit : id = split.id
    · simp [atSplit, noTab, parentNe]
    · by_cases atParent : id = split.parentId
      · simp [atParent, parentNe, found, ← only]
      · simp [atSplit, Ne.symm atSplit, atParent, Ne.symm atParent]
  · obtain ⟨parentSplit, found, _⟩ := collapsing.parentSplit isTab
    have missing := lookup_none.mpr isTab
    simp only [forest_children, missing, found, Option.map_some, Option.some.injEq] at lists
    simp only [forest_children, withoutSplit, promoted, if_neg isTab, withChild, setParent,
      lookup_modify, lookup_erase, Function.update_apply]
    by_cases atSplit : id = split.id
    · simp [atSplit, noTab]
    · by_cases atParent : id = split.parentId
      · simp [atParent, parentNe, Ne.symm parentNe, found, missing, lists]
      · simp [atSplit, Ne.symm atSplit, atParent, Ne.symm atParent]

theorem promoted_linked (collapsing : state.Collapsing split child) :
    ((state.promoted split child.id).withoutSplit split.id).forest.Linked := by
  obtain ⟨items, lists, member⟩ := collapsing.linked.listed collapsing.parent
  have same : ((state.promoted split child.id).withoutSplit split.id).forest =
      state.forest.splice split.parentId split.id child.id items := by
    apply Forest.ext
    · funext id
      apply propext
      unfold promoted
      split
      · exact Std.TreeMap.mem_modify
      · exact Iff.rfl
    · exact collapsing.promoted_children lists member
    · exact collapsing.promoted_parent
  rw [same]
  exact collapsing.linked.splice lists collapsing.parent collapsing.children
    (collapsing.split_not_tab (mem_of_lookup collapsing.isSplit))

end Collapsing

/-! ### The branches of the operation -/

theorem closeInSplit_eq {split : Split} (isSplit : state.splits[pane.parentId]? = some split)
    (member : pane.id ∈ split.panes_or_splits) :
    state.closeInSplit pane =
      match (split.without pane.id).panes_or_splits with
      | [] => .error "Subscript out of range"
      | [childId] =>
          (state.withSplit pane.parentId (split.without pane.id)).collapseSplit
            (split.without pane.id) childId
      | _ :: _ :: _ =>
          .ok (state.withSplit pane.parentId (normalizeSizes (split.without pane.id))) := by
  have present : state.getSplit pane.parentId = .ok split := by
    unfold getSplit
    rw [isSplit]
  unfold closeInSplit
  rw [present]
  show (removeChild split pane >>= _) = _
  rw [removeChild_member member]
  rfl

/-- Closing the pane leaves its split with one child, and that child is a split. -/
def LeavesSplit (state : MultiplexerState) (paneId : Bytes) : Prop :=
  ∃ pane split child, state.panes[paneId]? = some pane ∧
    state.splits[pane.parentId]? = some split ∧
    split.panes_or_splits.erase paneId = [child] ∧ child ∈ state.splits

/-- What a close does to the panes: the one is gone, and the others keep their ids and
their terminals. -/
structure Closes (state : MultiplexerState) (paneId : Bytes) (after : MultiplexerState) :
    Prop where
  gone : paneId ∉ after.panes
  kept {id : Bytes} : id ≠ paneId →
    (after.panes[id]?).map (fun pane => (pane.id, pane.terminal)) =
      (state.panes[id]?).map fun pane => (pane.id, pane.terminal)

theorem Closes.of_panes (same : after.panes = (state.withoutPane paneId).panes) :
    state.Closes paneId after := by
  constructor
  · rw [same]
    exact fun member => absurd (exists_lookup member) (by simp [withoutPane])
  · intro id other
    rw [same]
    simp only [withoutPane, lookup_erase, if_neg (Ne.symm other)]

theorem Closes.congr {other : MultiplexerState} (closes : state.Closes paneId after)
    (same : other.panes = after.panes) : state.Closes paneId other := by
  constructor
  · rw [same]
    exact closes.gone
  · intro id different
    rw [same]
    exact closes.kept different

theorem Closes.setParent (closes : state.Closes paneId after) (childId parentId : Bytes) :
    state.Closes paneId (after.setParent childId parentId) := by
  constructor
  · exact fun member => closes.gone (Std.TreeMap.mem_modify.mp member)
  · intro id different
    rw [← closes.kept different]
    simp only [MultiplexerState.setParent, lookup_modify]
    split
    · rename_i same
      subst same
      rw [Option.map_map]
      rfl
    · rfl

theorem promoted_panes {split : Split} {childId : Bytes} :
    ((state.promoted split childId).withoutSplit split.id).panes =
      (state.setParent childId split.parentId).panes := by
  unfold promoted
  split <;> rfl

/-- What closing a live pane leaves: the pane's tab goes, or its split keeps the other
children, or the split collapses onto the one that is left. -/
inductive Closing (state : MultiplexerState) (paneId : Bytes) : MultiplexerState → Prop
  | root {pane : Pane} {tab : Tab} : state.panes[paneId]? = some pane →
      state.tabs[pane.parentId]? = some tab →
      Closing state paneId ((state.withoutPane paneId).withoutTab pane.parentId tab.order)
  | detached {pane : Pane} {split : Split} : state.panes[paneId]? = some pane →
      state.splits[pane.parentId]? = some split → paneId ∈ split.panes_or_splits →
      2 ≤ (split.without paneId).panes_or_splits.length →
      Closing state paneId ((state.withoutPane paneId).withSplit pane.parentId
        (normalizeSizes (split.without paneId)))
  | collapsed {pane : Pane} {split : Split} {childId : Bytes} :
      state.panes[paneId]? = some pane → state.splits[pane.parentId]? = some split →
      (split.without paneId).panes_or_splits = [childId] →
      Closing state paneId ((((state.withoutPane paneId).withSplit pane.parentId
        (split.without paneId)).promoted (split.without paneId) childId).withoutSplit
          (split.without paneId).id)

theorem Closing.closes (closing : state.Closing paneId after) : state.Closes paneId after := by
  cases closing with
  | root => exact Closes.of_panes rfl
  | detached => exact Closes.of_panes rfl
  | @collapsed pane split childId _ _ _ =>
      have closes : state.Closes paneId
          ((state.withoutPane paneId).withSplit pane.parentId (split.without paneId)) :=
        Closes.of_panes rfl
      exact (closes.setParent _ _).congr promoted_panes

variable {split : Split}

theorem Layout.closes_root (layout : state.Layout) (found : state.panes[paneId]? = some pane)
    {tab : Tab} (isTab : state.tabs[pane.parentId]? = some tab) :
    ∃ after, (state.withoutPane paneId).detachPane pane = .ok after ∧
      state.Closing paneId after ∧ after.Layout := by
  obtain ⟨closes, kept⟩ := layout.closeTab found isTab
  have closed : (state.withoutPane paneId).detachPane pane =
      .ok ((state.withoutPane paneId).withoutTab pane.parentId tab.order) := by
    unfold detachPane
    rw [show (state.withoutPane paneId).tabs[pane.parentId]? = some tab from isTab]
    exact closes
  exact ⟨_, closed, .root found isTab, kept⟩

theorem Layout.detachPane_split (layout : state.Layout)
    (isSplit : state.splits[pane.parentId]? = some split) :
    (state.withoutPane paneId).detachPane pane =
      (state.withoutPane paneId).closeInSplit pane := by
  have noTab := lookup_none.mpr (layout.split_not_tab (mem_of_lookup isSplit))
  unfold detachPane
  rw [show (state.withoutPane paneId).tabs[pane.parentId]? = none from noTab]

theorem Layout.closes_detaching (layout : state.Layout)
    (found : state.panes[paneId]? = some pane)
    (isSplit : state.splits[pane.parentId]? = some split)
    (member : paneId ∈ split.panes_or_splits)
    (two : 2 ≤ (split.without paneId).panes_or_splits.length) :
    ((state.withoutPane paneId).withSplit pane.parentId
      (normalizeSizes (split.without paneId))).Layout := by
  constructor
  · have sameId : split.id = pane.parentId := layout.split_id isSplit
    exact (layout.toKeyed.withoutPane paneId).withSplit isSplit sameId
  · exact layout.detached found isSplit rfl rfl
  · intro id other foundAfter
    rw [withSplit_splits] at foundAfter
    split at foundAfter
    · cases foundAfter
      exact (layout.balanced isSplit).without member two
    · exact layout.balanced foundAfter

theorem Layout.collapsing (layout : state.Layout) (found : state.panes[paneId]? = some pane)
    (isSplit : state.splits[pane.parentId]? = some split) {childId : Bytes} {child : Pane}
    (single : (split.without paneId).panes_or_splits = [childId]) (other : childId ≠ paneId)
    (isPane : state.panes[childId]? = some child) :
    ((state.withoutPane paneId).withSplit pane.parentId (split.without paneId)).Collapsing
      (split.without paneId) child := by
  have childId_eq := layout.pane_id isPane
  have splitId_eq := layout.split_id isSplit
  constructor
  · exact (layout.toKeyed.withoutPane paneId).withSplit isSplit splitId_eq
  · exact layout.detached found isSplit rfl rfl
  · rw [withSplit_splits]
    exact if_pos splitId_eq.symm
  · rw [single, childId_eq]
  · show (state.panes.erase paneId)[child.id]? = some child
    rw [lookup_erase, childId_eq, if_neg (Ne.symm other), isPane]

theorem Layout.closes_collapsing (layout : state.Layout)
    (found : state.panes[paneId]? = some pane)
    (isSplit : state.splits[pane.parentId]? = some split) {childId : Bytes} {child : Pane}
    (single : (split.without paneId).panes_or_splits = [childId]) (other : childId ≠ paneId)
    (isPane : state.panes[childId]? = some child) :
    ∃ after, ((state.withoutPane paneId).withSplit pane.parentId
        (split.without paneId)).collapseSplit (split.without paneId) childId = .ok after ∧
      state.Closing paneId after ∧ after.Layout := by
  have collapsing := layout.collapsing found isSplit single other isPane
  have childId_eq := layout.pane_id isPane
  subst childId_eq
  have balanced : ∀ (id : Bytes) (former : Split), id ≠ (split.without paneId).id →
      ((state.withoutPane paneId).withSplit pane.parentId (split.without paneId)).splits[id]? =
        some former → former.Balanced := by
    intro id former notSplit foundFormer
    rw [withSplit_splits] at foundFormer
    split at foundFormer
    · rename_i same
      exact absurd (same.symm.trans (layout.split_id isSplit).symm) notSplit
    · exact layout.balanced foundFormer
  exact ⟨_, collapsing.collapseSplit_ok, .collapsed found isSplit single,
    collapsing.promoted_keyed, collapsing.promoted_linked,
    promoted_balanced balanced⟩

/-- `getPane` finds no split. -/
theorem collapseSplit_aborts {childId : Bytes} (noPane : childId ∉ state.panes) :
    state.collapseSplit split childId =
      .error "Tried to get a pane that doesn't exist" := by
  unfold collapseSplit getPane
  rw [lookup_none.mpr noPane]
  rfl

theorem Layout.closePane_cases (layout : state.Layout)
    (found : state.panes[paneId]? = some pane) (isOpen : paneId ∉ state.closed) :
    (¬ state.LeavesSplit paneId ∧ ∃ after, state.closePane paneId = .ok after ∧
        state.Closing paneId after ∧ after.Layout) ∨
      state.LeavesSplit paneId ∧ ∃ message, state.closePane paneId = .error message := by
  have sameId := layout.pane_id found
  rw [closePane_live isOpen found]
  obtain ⟨items, lists, member⟩ := layout.linked.listed (forest_parent_pane found)
  cases isTab : state.tabs[pane.parentId]? with
  | some tab =>
      refine Or.inl ⟨?_, layout.closes_root found isTab⟩
      rintro ⟨other, split, child, foundOther, isSplit, _⟩
      obtain rfl := Option.some.inj (found.symm.trans foundOther)
      exact layout.split_not_tab (mem_of_lookup isSplit) (mem_of_lookup isTab)
  | none =>
      simp only [forest_children, isTab] at lists
      obtain ⟨split, isSplit, rfl⟩ := Option.map_eq_some_iff.mp lists
      have once := layout.linked.once (layout.children_split isSplit)
      have leaves : state.LeavesSplit paneId → ∃ child,
          (split.without paneId).panes_or_splits = [child] ∧ child ∈ state.splits := by
        rintro ⟨otherPane, otherSplit, child, foundOther, isOther, single, isChild⟩
        obtain rfl := Option.some.inj (found.symm.trans foundOther)
        obtain rfl := Option.some.inj (isSplit.symm.trans isOther)
        exact ⟨child, single, isChild⟩
      rw [layout.detachPane_split isSplit,
        closeInSplit_eq (show (state.withoutPane paneId).splits[pane.parentId]? = some split
          from isSplit) (sameId.symm ▸ member), sameId]
      have length := Split.without_length member
      have two := (layout.balanced isSplit).two_children
      match remaining : (split.without paneId).panes_or_splits with
      | [] =>
          rw [remaining, List.length_nil] at length
          omega
      | [childId] =>
          have inside : childId ∈ split.panes_or_splits.erase paneId := by
            rw [show split.panes_or_splits.erase paneId = [childId] from remaining]
            exact List.mem_singleton_self childId
          obtain ⟨other, memberChild⟩ := once.mem_erase_iff.mp inside
          have hasParent := layout.hasParent_iff.mpr
            (layout.linked.named (layout.children_split isSplit) memberChild)
          cases hasParent with
          | @pane child isPane _ =>
              refine Or.inl ⟨?_, layout.closes_collapsing found isSplit remaining other isPane⟩
              intro leavesSplit
              obtain ⟨_, single, isChild⟩ := leaves leavesSplit
              obtain rfl := List.singleton_inj.mp (single.symm.trans remaining)
              exact layout.split_not_pane isChild (mem_of_lookup isPane)
          | split isChild _ =>
              have noPane := layout.split_not_pane (mem_of_lookup isChild)
              right
              constructor
              · exact ⟨pane, split, childId, found, isSplit, remaining, mem_of_lookup isChild⟩
              · refine ⟨_, collapseSplit_aborts ?_⟩
                exact fun member => noPane (Std.TreeMap.mem_of_mem_erase member)
      | first :: second :: rest =>
          have many : 2 ≤ (split.without paneId).panes_or_splits.length := by
            rw [remaining]
            simp
          left
          constructor
          · intro leavesSplit
            obtain ⟨_, single, _⟩ := leaves leavesSplit
            cases single.symm.trans remaining
          · exact ⟨_, rfl, .detached found isSplit member many,
              layout.closes_detaching found isSplit member many⟩

/-- A close that completes finds the pane closed already, or closes it. -/
theorem Layout.closePane_ok (layout : state.Layout)
    (ok : state.closePane paneId = .ok after) :
    (paneId ∈ state.closed ∧ after = state) ∨
      paneId ∉ state.closed ∧ state.Closing paneId after ∧ after.Layout := by
  by_cases isClosed : paneId ∈ state.closed
  · rw [closePane_closed isClosed] at ok
    exact Or.inl ⟨isClosed, (Except.ok.inj ok).symm⟩
  · cases found : state.panes[paneId]? with
    | none =>
        unfold MultiplexerState.closePane at ok
        rw [if_neg isClosed, found] at ok
        cases ok
    | some pane =>
        rcases layout.closePane_cases found isClosed with
          ⟨_, result, okToo, closing, kept⟩ | ⟨_, _, failed⟩
        · obtain rfl := Except.ok.inj (okToo.symm.trans ok)
          exact Or.inr ⟨isClosed, closing, kept⟩
        · cases failed.symm.trans ok

theorem Layout.closePane (layout : state.Layout) (ok : state.closePane paneId = .ok after) :
    after.Layout := by
  rcases layout.closePane_ok ok with ⟨_, rfl⟩ | ⟨_, _, kept⟩
  · exact layout
  · exact kept

end MultiplexerState

end EternalTerminal
