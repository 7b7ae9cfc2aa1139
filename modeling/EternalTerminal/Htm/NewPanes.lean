/-
`newTab` and `newSplit` keep the layout.

Each branch is one operation on the forest: planting a tree, attaching a leaf to
a split, or wrapping the source pane in a new split.
-/

import EternalTerminal.Htm.Layout

namespace EternalTerminal

open Library

namespace MultiplexerState

variable {state after : MultiplexerState} {tabId paneId sourceId uuid : Bytes}
  {vertical : Bool}

/-- The id is the id of no pane, split or tab. -/
structure Fresh (state : MultiplexerState) (id : Bytes) : Prop where
  pane : id ∉ state.panes
  split : id ∉ state.splits
  tab : id ∉ state.tabs

theorem fatalIfFound_ok {id : Bytes} {result : Unit}
    (ok : state.fatalIfFound id = .ok result) : state.Fresh id := by
  unfold fatalIfFound at ok
  split_ifs at ok with inPanes inSplits inTabs
  exact ⟨inPanes, inSplits, inTabs⟩

theorem getPane_ok {id : Bytes} {pane : Pane} (ok : state.getPane id = .ok pane) :
    state.panes[id]? = some pane := by
  unfold getPane at ok
  split at ok
  · rename_i found
    exact found.trans (congrArg some (Except.ok.inj ok))
  · cases ok

theorem getTab_ok {id : Bytes} {tab : Tab} (ok : state.getTab id = .ok tab) :
    state.tabs[id]? = some tab := by
  unfold getTab at ok
  split at ok
  · rename_i found
    exact found.trans (congrArg some (Except.ok.inj ok))
  · cases ok

namespace Fresh

theorem children (fresh : state.Fresh tabId) : state.forest.children tabId = none := by
  simp only [forest, lookup_none.mpr fresh.tab, lookup_none.mpr fresh.split, Option.map_none]

theorem parent (fresh : state.Fresh paneId) : state.forest.parent paneId = none := by
  simp only [forest, lookup_none.mpr fresh.pane, lookup_none.mpr fresh.split, Option.map_none]

end Fresh

/-! ### A new tab -/

theorem newTab_ok (ok : state.newTab tabId paneId = .ok after) :
    state.Fresh tabId ∧ state.Fresh paneId ∧ after = state.addTab tabId paneId := by
  obtain ⟨_, tabFresh, ok⟩ := except_bind_ok ok
  obtain ⟨_, paneFresh, ok⟩ := except_bind_ok ok
  exact ⟨fatalIfFound_ok tabFresh, fatalIfFound_ok paneFresh, (Except.ok.inj ok).symm⟩

theorem addTab_forest (tabFresh : state.Fresh tabId) (paneFresh : state.Fresh paneId) :
    (state.addTab tabId paneId).forest = state.forest.plant tabId paneId := by
  obtain ⟨noPane, _, _⟩ := paneFresh
  obtain ⟨_, noSplit, noTab⟩ := tabFresh
  apply Forest.ext
  · funext id
    apply propext
    show id ∈ state.tabs.insertIfNew tabId _ ↔ id = tabId ∨ id ∈ state.tabs
    rw [mem_insertIfNew, eq_comm]
  · funext id
    simp only [forest_children, addTab, insertPane, Forest.plant, lookup_insertIfNew noTab,
      Function.update_apply]
    by_cases here : id = tabId
    · simp [here]
    · simp [here, Ne.symm here]
  · funext id
    simp only [forest_parent, addTab, insertPane, Forest.plant, lookup_insertIfNew noPane,
      Function.update_apply]
    by_cases here : id = paneId
    · simp [here]
    · simp [here, Ne.symm here]

theorem Layout.addTab (layout : state.Layout) (tabFresh : state.Fresh tabId)
    (paneFresh : state.Fresh paneId) (named : tabId ≠ []) :
    (state.addTab tabId paneId).Layout := by
  constructor
  · obtain ⟨_, _, noTab⟩ := tabFresh
    obtain ⟨noPane, _, _⟩ := paneFresh
    have keyed := layout.toKeyed
    constructor <;>
      grind [MultiplexerState.addTab, insertPane, lookup_insertIfNew, mem_insertIfNew, Keyed, Fresh]
  · rw [addTab_forest tabFresh paneFresh]
    exact layout.linked.plant tabFresh.children paneFresh.parent
  · exact layout.balanced

/-! ### A new pane in a split -/

theorem continueSplit_forest (keyed : state.Keyed) (fresh : state.Fresh paneId) {split : Split}
    (found : state.splits[split.id]? = some split) :
    ((state.insertPane paneId []).continueSplit split paneId).forest =
      state.forest.attach split.id paneId split.panes_or_splits := by
  have notTab := keyed.split_not_tab (mem_of_lookup found)
  obtain ⟨noPane, noSplit, _⟩ := fresh
  apply Forest.ext
  · rfl
  · funext id
    simp only [forest_children, continueSplit, insertPane, setParent, Forest.attach, lookup_modify,
      Function.update_apply]
    by_cases here : id = split.id
    · simp [here, found, lookup_none.mpr notTab]
    · simp [here, Ne.symm here]
  · funext id
    simp only [forest_parent, continueSplit, insertPane, setParent, Forest.attach, lookup_modify,
      lookup_insertIfNew noPane, Function.update_apply]
    by_cases here : id = paneId
    · simp [here]
    · by_cases atSplit : split.id = id
      · subst atSplit
        simp [here, Ne.symm here, found]
      · simp [here, Ne.symm here, atSplit]

theorem Layout.continueSplit (layout : state.Layout) (fresh : state.Fresh paneId)
    {source : Pane} {split : Split} (isSource : state.panes[sourceId]? = some source)
    (found : state.splits[source.parentId]? = some split) :
    ((state.insertPane paneId []).continueSplit split paneId).Layout := by
  have sameId := layout.split_id found
  rw [← sameId] at found
  have grounded : state.forest.Grounded split.id := by
    rw [sameId]
    exact layout.linked.grounded (forest_parent_pane isSource)
  constructor
  · obtain ⟨noPane, noSplit, _⟩ := fresh
    have keyed := layout.toKeyed
    constructor <;>
      grind [MultiplexerState.continueSplit, insertPane, setParent, lookup_modify,
        lookup_insertIfNew, mem_insertIfNew, Keyed]
  · rw [continueSplit_forest layout.toKeyed fresh found]
    exact layout.linked.attach (layout.children_split found) grounded fresh.parent
  · intro id changed foundAfter
    simp only [MultiplexerState.continueSplit, insertPane, setParent, lookup_modify] at foundAfter
    split at foundAfter
    · rw [found] at foundAfter
      cases foundAfter
      have balanced := layout.balanced found
      constructor
      · exact le_trans balanced.two_children (by simp)
      · simp [balanced.one_size_each]
    · exact layout.balanced foundAfter

/-! ### A new split -/

/-- The split that `addSplit` makes. -/
def halves (uuid parentId sourceId paneId : Bytes) (vertical : Bool) : Split :=
  { id := uuid
    parentId := parentId
    vertical := vertical
    panes_or_splits := [sourceId, paneId]
    sizes := [1 / 2, 1 / 2] }

theorem halves_balanced (uuid parentId sourceId paneId : Bytes) (vertical : Bool) :
    (halves uuid parentId sourceId paneId vertical).Balanced :=
  ⟨le_refl 2, rfl⟩

theorem addSplit_splits {parentId id : Bytes} (freshSplit : uuid ∉ state.splits) :
    ((state.insertPane paneId []).addSplit uuid parentId sourceId paneId vertical).splits[id]? =
      if uuid = id then some (halves uuid parentId sourceId paneId vertical)
      else state.splits[id]? :=
  lookup_insertIfNew freshSplit

theorem addSplit_panes {parentId id : Bytes} {source : Pane} (fresh : state.Fresh paneId)
    (isSource : state.panes[sourceId]? = some source) :
    ((state.insertPane paneId []).addSplit uuid parentId sourceId paneId vertical).panes[id]? =
      if sourceId = id then some { source with parentId := uuid }
      else if paneId = id then
        some { id := paneId, parentId := uuid, terminal := TerminalHandler.create }
      else state.panes[id]? := by
  have different : paneId ≠ sourceId := by
    rintro rfl
    exact fresh.pane (mem_of_lookup isSource)
  simp only [addSplit, insertPane, setParent, lookup_modify, lookup_insertIfNew fresh.pane]
  by_cases atSource : sourceId = id
  · subst atSource
    simp [different, isSource]
  · by_cases atPane : paneId = id
    · simp [atSource, atPane]
    · simp [atSource, atPane]

/-- The new ids of a split, and the source that it will hold. -/
structure Splitting (state : MultiplexerState) (sourceId paneId uuid : Bytes) (source : Pane) :
    Prop where
  freshPane : state.Fresh paneId
  freshSplit : state.Fresh uuid
  different : paneId ≠ uuid
  named : uuid ≠ []
  isSource : state.panes[sourceId]? = some source

namespace Splitting

variable {source : Pane}

theorem source_ne_pane (splitting : state.Splitting sourceId paneId uuid source) :
    sourceId ≠ paneId := by
  rintro rfl
  exact splitting.freshPane.pane (mem_of_lookup splitting.isSource)

theorem source_ne_uuid (splitting : state.Splitting sourceId paneId uuid source) :
    sourceId ≠ uuid := by
  rintro rfl
  exact splitting.freshSplit.pane (mem_of_lookup splitting.isSource)

end Splitting

/-- The two branches that make a split differ in the container whose child they replace. -/
theorem Layout.wrap (layout : state.Layout) {source : Pane} {container : Bytes}
    {items : List Bytes} (splitting : state.Splitting sourceId paneId uuid source)
    (up : source.parentId = container)
    (lists : state.forest.children container = some items) :
    (state.forest.wrap container sourceId uuid paneId items).Linked := by
  apply layout.linked.wrap lists
  · rw [forest_parent_pane splitting.isSource, up]
  · exact splitting.freshPane.parent
  · exact splitting.freshSplit.parent
  · exact splitting.freshSplit.children
  · exact splitting.different

/-- The keys after a split has been added, whatever else becomes of a child. -/
theorem Keyed.addSplit (keyed : state.Keyed) {source : Pane} {parentId : Bytes}
    (splitting : state.Splitting sourceId paneId uuid source) :
    ((state.insertPane paneId []).addSplit uuid parentId sourceId paneId vertical).Keyed := by
  obtain ⟨⟨noPane, noSplit, _⟩, ⟨uuidPane, uuidSplit, uuidTab⟩, different, named, _⟩ := splitting
  obtain ⟨tabId, paneIds, splitId, notTab, notPane, tabNamed, splitNamed⟩ := keyed
  constructor <;>
    grind [MultiplexerState.addSplit, insertPane, setParent, lookup_modify, lookup_insertIfNew,
      mem_insertIfNew]

theorem Keyed.setTabChild (keyed : state.Keyed) (tabId childId : Bytes) :
    (state.setTabChild tabId childId).Keyed := by
  obtain ⟨tabIds, paneIds, splitIds, notTab, notPane, tabNamed, splitNamed⟩ := keyed
  constructor <;> grind [MultiplexerState.setTabChild, lookup_modify]

/-- What a change of one split's children, sizes or parent does to the keys. -/
theorem Keyed.modifySplit (keyed : state.Keyed) (splitId : Bytes) (change : Split → Split)
    (sameId : ∀ split, (change split).id = split.id) :
    ({ state with splits := state.splits.modify splitId change } : MultiplexerState).Keyed := by
  obtain ⟨tabIds, paneIds, splitIds, notTab, notPane, tabNamed, splitNamed⟩ := keyed
  constructor <;> grind [lookup_modify]

/-! ### Replacing a child -/

def withChild (state : MultiplexerState) (splitId oldId newId : Bytes) : MultiplexerState :=
  { state with
    splits := state.splits.modify splitId fun split =>
      { split with panes_or_splits := split.panes_or_splits.replace oldId newId } }

theorem replaceChild_member {splitId oldId newId : Bytes} {missing : String} {split : Split}
    (found : state.splits[splitId]? = some split) (member : oldId ∈ split.panes_or_splits) :
    state.replaceChild splitId oldId newId missing =
      .ok (state.withChild splitId oldId newId) := by
  have present : state.getSplit splitId = .ok split := by
    unfold getSplit
    rw [found]
  unfold replaceChild
  rw [present]
  show (if _ then _ else _) = _
  rw [if_pos (Or.inl member)]
  rfl

theorem withChild_splits {splitId oldId newId id : Bytes} :
    (state.withChild splitId oldId newId).splits[id]? =
      if splitId = id then
        (state.splits[splitId]?).map fun split =>
          { split with panes_or_splits := split.panes_or_splits.replace oldId newId }
      else state.splits[id]? :=
  lookup_modify

theorem addSplit_parent {source : Pane} {parentId : Bytes}
    (splitting : state.Splitting sourceId paneId uuid source) (id : Bytes) :
    ((state.insertPane paneId []).addSplit uuid parentId sourceId paneId vertical).forest.parent
      id =
      Function.update (Function.update (Function.update state.forest.parent uuid (some parentId))
        paneId (some uuid)) sourceId (some uuid) id := by
  have noUuid := lookup_none.mpr splitting.freshSplit.pane
  have sourcePane := splitting.source_ne_pane
  have sourceUuid := splitting.source_ne_uuid
  have paneUuid := splitting.different
  simp only [forest_parent, addSplit_splits splitting.freshSplit.split,
    addSplit_panes splitting.freshPane splitting.isSource, Function.update_apply]
  by_cases atSource : id = sourceId
  · simp [atSource]
  · by_cases atPane : id = paneId
    · subst atPane
      simp [atSource, Ne.symm atSource]
    · by_cases atUuid : id = uuid
      · subst atUuid
        simp [atSource, Ne.symm atSource, atPane, Ne.symm atPane, noUuid, halves]
      · simp [atSource, Ne.symm atSource, atPane, Ne.symm atPane, Ne.symm atUuid, atUuid]
theorem withChild_parent (state : MultiplexerState) (splitId oldId newId : Bytes) :
    (state.withChild splitId oldId newId).forest.parent = state.forest.parent := by
  funext id
  simp only [forest_parent, withChild_splits]
  by_cases here : splitId = id
  · subst here
    cases state.splits[splitId]? <;> simp [withChild]
  · simp [here, withChild]

theorem Split.Balanced.replace {split : Split} (balanced : split.Balanced)
    (oldId newId : Bytes) :
    Split.Balanced
      { split with panes_or_splits := split.panes_or_splits.replace oldId newId } := by
  constructor
  · rw [List.length_replace]
    exact balanced.two_children
  · rw [List.length_replace]
    exact balanced.one_size_each

theorem withChild_balanced {splitId oldId newId : Bytes}
    (balanced : ∀ (id : Bytes) (split : Split), state.splits[id]? = some split → split.Balanced)
    {id : Bytes} {split : Split}
    (found : (state.withChild splitId oldId newId).splits[id]? = some split) :
    split.Balanced := by
  rw [withChild_splits] at found
  split at found
  · obtain ⟨former, foundFormer, rfl⟩ := Option.map_eq_some_iff.mp found
    exact (balanced _ _ foundFormer).replace oldId newId
  · exact balanced _ _ found

theorem addSplit_balanced (layout : state.Layout) {parentId : Bytes}
    (freshSplit : uuid ∉ state.splits) (id : Bytes) (split : Split)
    (found : ((state.insertPane paneId []).addSplit uuid parentId sourceId paneId
      vertical).splits[id]? = some split) :
    split.Balanced := by
  rw [addSplit_splits freshSplit] at found
  split at found
  · cases found
    exact halves_balanced ..
  · exact layout.balanced found

/-! ### Splitting in a new direction -/

theorem newDirection_forest (keyed : state.Keyed) {source : Pane} {split : Split}
    (splitting : state.Splitting sourceId paneId uuid source)
    (found : state.splits[split.id]? = some split) :
    (((state.insertPane paneId []).addSplit uuid split.id sourceId paneId vertical).withChild
      split.id sourceId uuid).forest =
      state.forest.wrap split.id sourceId uuid paneId split.panes_or_splits := by
  have notTab := lookup_none.mpr (keyed.split_not_tab (mem_of_lookup found))
  have uuidTab := lookup_none.mpr splitting.freshSplit.tab
  have otherSplit : uuid ≠ split.id := by
    rintro rfl
    exact splitting.freshSplit.split (mem_of_lookup found)
  apply Forest.ext
  · rfl
  · funext id
    simp only [forest_children, withChild_splits, addSplit_splits splitting.freshSplit.split,
      Forest.wrap, Function.update_apply]
    by_cases atParent : id = split.id
    · subst atParent
      simp [withChild, addSplit, setParent, insertPane, notTab, otherSplit, found]
    · by_cases atUuid : id = uuid
      · subst atUuid
        simp [withChild, addSplit, setParent, insertPane, uuidTab, atParent, Ne.symm atParent,
          halves]
      · simp [withChild, addSplit, setParent, insertPane, atParent, Ne.symm atParent, atUuid,
          Ne.symm atUuid]
  · funext id
    rw [withChild_parent]
    exact addSplit_parent splitting id

theorem Layout.splitInNewDirection (layout : state.Layout) {source : Pane} {split : Split}
    (splitting : state.Splitting sourceId paneId uuid source)
    (found : state.splits[source.parentId]? = some split)
    (ok : (state.insertPane paneId []).splitInNewDirection split sourceId paneId uuid vertical =
      .ok after) : after.Layout := by
  have sameId := layout.split_id found
  have foundId : state.splits[split.id]? = some split := by
    rw [sameId]
    exact found
  have member : sourceId ∈ split.panes_or_splits :=
    layout.linked.mem_of_lists (forest_parent_pane splitting.isSource)
      (layout.children_split found)
  have otherSplit : uuid ≠ split.id := by
    rintro rfl
    exact splitting.freshSplit.split (mem_of_lookup foundId)
  have stillFound : ((state.insertPane paneId []).addSplit uuid split.id sourceId paneId
      vertical).splits[split.id]? = some split :=
    (addSplit_splits splitting.freshSplit.split).trans ((if_neg otherSplit).trans foundId)
  unfold MultiplexerState.splitInNewDirection at ok
  rw [replaceChild_member stillFound member] at ok
  obtain rfl := Except.ok.inj ok
  constructor
  · exact (layout.toKeyed.addSplit splitting).modifySplit _ _ (fun _ => rfl)
  · rw [newDirection_forest layout.toKeyed splitting foundId]
    exact layout.wrap splitting sameId.symm (layout.children_split foundId)
  · exact fun foundAfter =>
      withChild_balanced (addSplit_balanced layout splitting.freshSplit.split) foundAfter

/-! ### Splitting a root pane -/

theorem rootPane_forest {source : Pane} {tab : Tab}
    (splitting : state.Splitting sourceId paneId uuid source)
    (found : state.tabs[tab.id]? = some tab) :
    ((state.insertPane paneId []).splitRootPane tab sourceId paneId uuid vertical).forest =
      state.forest.wrap tab.id sourceId uuid paneId [sourceId] := by
  have uuidTab := lookup_none.mpr splitting.freshSplit.tab
  have otherTab : uuid ≠ tab.id := by
    rintro rfl
    exact splitting.freshSplit.tab (mem_of_lookup found)
  apply Forest.ext
  · funext id
    apply propext
    exact Std.TreeMap.mem_modify
  · funext id
    simp only [forest_children, splitRootPane, setTabChild, lookup_modify,
      addSplit_splits splitting.freshSplit.split, Forest.wrap, Function.update_apply]
    by_cases atTab : id = tab.id
    · subst atTab
      simp [addSplit, setParent, insertPane, found]
    · by_cases atUuid : id = uuid
      · subst atUuid
        simp [addSplit, setParent, insertPane, uuidTab, atTab, Ne.symm atTab, halves]
      · simp [addSplit, setParent, insertPane, atTab, Ne.symm atTab, Ne.symm atUuid, atUuid]
  · funext id
    exact addSplit_parent splitting id

theorem Layout.splitRootPane (layout : state.Layout) {source : Pane} {tab : Tab}
    (splitting : state.Splitting sourceId paneId uuid source)
    (found : state.tabs[source.parentId]? = some tab) :
    ((state.insertPane paneId []).splitRootPane tab sourceId paneId uuid vertical).Layout := by
  have sameId := layout.tab_id found
  have foundId : state.tabs[tab.id]? = some tab := by
    rw [sameId]
    exact found
  have lists := forest_children_tab foundId
  have child : sourceId = tab.pane_or_split_id :=
    List.mem_singleton.mp (layout.linked.mem_of_lists (forest_parent_pane splitting.isSource)
      (sameId ▸ lists))
  rw [← child] at lists
  constructor
  · exact (layout.toKeyed.addSplit splitting).setTabChild _ _
  · rw [rootPane_forest splitting foundId]
    exact layout.wrap splitting sameId.symm lists
  · exact fun foundAfter =>
      addSplit_balanced layout splitting.freshSplit.split _ _ foundAfter

/-! ### The operation -/

/-- The three branches that do not abort.  The new pane is never the source: its
parent is the empty string, and nothing is named so. -/
theorem newSplit_ok (layout : state.Layout)
    (ok : state.newSplit sourceId paneId vertical uuid = .ok after) :
    state.Fresh paneId ∧ ∃ source, state.panes[sourceId]? = some source ∧
      ((∃ split, state.splits[source.parentId]? = some split ∧
          after = (state.insertPane paneId []).continueSplit split paneId) ∨
        (∃ split, state.splits[source.parentId]? = some split ∧
          (state.insertPane paneId []).splitInNewDirection split sourceId paneId uuid vertical =
            .ok after) ∨
        ∃ tab, state.tabs[source.parentId]? = some tab ∧
          after = (state.insertPane paneId []).splitRootPane tab sourceId paneId uuid
            vertical) := by
  obtain ⟨_, isFresh, ok⟩ := except_bind_ok ok
  have fresh := fatalIfFound_ok isFresh
  obtain ⟨source, isSource, ok⟩ := except_bind_ok ok
  have found := getPane_ok isSource
  simp only [insertPane, lookup_insertIfNew fresh.pane] at found
  by_cases isNew : paneId = sourceId
  · exfalso
    rw [if_pos isNew] at found
    cases found
    have noSplit : state.splits[([] : Bytes)]? = none :=
      lookup_none.mpr fun member => layout.split_named member rfl
    have noTab : state.tabs[([] : Bytes)]? = none :=
      lookup_none.mpr fun member => layout.tab_named member rfl
    simp only [insertPane, noSplit] at ok
    obtain ⟨tab, isTab, _⟩ := except_bind_ok ok
    cases (getTab_ok isTab).symm.trans noTab
  · rw [if_neg isNew] at found
    refine ⟨fresh, source, found, ?_⟩
    split at ok
    · rename_i split isSplit
      split at ok
      · exact Or.inl ⟨split, isSplit, (Except.ok.inj ok).symm⟩
      · exact Or.inr (Or.inl ⟨split, isSplit, ok⟩)
    · obtain ⟨tab, isTab, ok⟩ := except_bind_ok ok
      exact Or.inr (Or.inr ⟨tab, getTab_ok isTab, (Except.ok.inj ok).symm⟩)

theorem Layout.newSplit (layout : state.Layout) (freshSplit : state.Fresh uuid)
    (different : paneId ≠ uuid) (named : uuid ≠ [])
    (ok : state.newSplit sourceId paneId vertical uuid = .ok after) : after.Layout := by
  obtain ⟨fresh, source, isSource, branch⟩ := newSplit_ok layout ok
  have splitting : state.Splitting sourceId paneId uuid source :=
    ⟨fresh, freshSplit, different, named, isSource⟩
  rcases branch with ⟨split, found, rfl⟩ | ⟨split, found, branch⟩ | ⟨tab, found, rfl⟩
  · exact layout.continueSplit fresh isSource found
  · exact layout.splitInNewDirection splitting found branch
  · exact layout.splitRootPane splitting found

end MultiplexerState

end EternalTerminal
