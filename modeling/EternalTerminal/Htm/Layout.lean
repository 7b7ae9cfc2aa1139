/-
The layout of a multiplexer as a forest, and what a well-formed layout is.

A tab is the root of a tree, a split is an inner node of it and a pane a leaf.
-/

import EternalTerminal.Library.Forest
import EternalTerminal.Htm.MultiplexerState

namespace EternalTerminal

open Library

/-! ### Lookups in the ordered maps -/

section Lookup

variable {V : Type} {table : Std.TreeMap Bytes V compare} {key place : Bytes} {value : V}

theorem lookup_insertIfNew (fresh : key ∉ table) :
    (table.insertIfNew key value)[place]? = if key = place then some value else table[place]? := by
  rw [Std.TreeMap.getElem?_insertIfNew]
  simp only [Std.LawfulEqCmp.compare_eq_iff_eq, fresh, not_false_eq_true, and_true]

theorem mem_insertIfNew :
    place ∈ table.insertIfNew key value ↔ key = place ∨ place ∈ table := by
  rw [Std.TreeMap.mem_insertIfNew, Std.LawfulEqCmp.compare_eq_iff_eq]

theorem lookup_insert :
    (table.insert key value)[place]? = if key = place then some value else table[place]? := by
  rw [Std.TreeMap.getElem?_insert]
  simp only [Std.LawfulEqCmp.compare_eq_iff_eq]

theorem lookup_modify {change : V → V} :
    (table.modify key change)[place]? =
      if key = place then (table[key]?).map change else table[place]? := by
  rw [Std.TreeMap.getElem?_modify]
  simp only [Std.LawfulEqCmp.compare_eq_iff_eq]

theorem lookup_erase :
    (table.erase key)[place]? = if key = place then none else table[place]? := by
  rw [Std.TreeMap.getElem?_erase]
  simp only [Std.LawfulEqCmp.compare_eq_iff_eq]

theorem mem_of_lookup (found : table[key]? = some value) : key ∈ table := by
  rw [Std.TreeMap.mem_iff_isSome_getElem?, found]
  rfl

theorem lookup_none : table[key]? = none ↔ key ∉ table := by
  rw [Std.TreeMap.mem_iff_isSome_getElem?, Option.not_isSome_iff_eq_none]

theorem exists_lookup (member : key ∈ table) : ∃ value, table[key]? = some value :=
  Option.isSome_iff_exists.mp (Std.TreeMap.mem_iff_isSome_getElem?.mp member)

end Lookup

namespace MultiplexerState

/-! ### Well-formed layouts -/

/-- `container` has `child` as its root or among its children. -/
inductive Lists (state : MultiplexerState) (container child : Bytes) : Prop
  | tab {tab : Tab} : state.tabs[container]? = some tab → tab.pane_or_split_id = child →
      Lists state container child
  | split {split : Split} : state.splits[container]? = some split →
      child ∈ split.panes_or_splits → Lists state container child

inductive HasParent (state : MultiplexerState) (child container : Bytes) : Prop
  | pane {pane : Pane} : state.panes[child]? = some pane → pane.parentId = container →
      HasParent state child container
  | split {split : Split} : state.splits[child]? = some split → split.parentId = container →
      HasParent state child container

/-- Following `parentId` from here ends at a tab. -/
inductive ReachesTab (state : MultiplexerState) : Bytes → Prop
  | tab {id : Bytes} : id ∈ state.tabs → ReachesTab state id
  | split {id : Bytes} {split : Split} : state.splits[id]? = some split →
      ReachesTab state split.parentId → ReachesTab state id

structure WellFormed (state : MultiplexerState) : Prop where
  pane_listed {id : Bytes} {pane : Pane} : state.panes[id]? = some pane →
    state.Lists pane.parentId id
  split_listed {id : Bytes} {split : Split} : state.splits[id]? = some split →
    state.Lists split.parentId id
  listed_once {id : Bytes} {split : Split} : state.splits[id]? = some split →
    split.panes_or_splits.Nodup
  tab_child {id : Bytes} {tab : Tab} : state.tabs[id]? = some tab →
    state.HasParent tab.pane_or_split_id id
  split_child {id child : Bytes} {split : Split} : state.splits[id]? = some split →
    child ∈ split.panes_or_splits → state.HasParent child id
  one_container {first second child : Bytes} : state.Lists first child →
    state.Lists second child → first = second
  two_children {id : Bytes} {split : Split} : state.splits[id]? = some split →
    2 ≤ split.panes_or_splits.length
  one_size_each {id : Bytes} {split : Split} : state.splits[id]? = some split →
    split.sizes.length = split.panes_or_splits.length
  pane_reaches_tab {id : Bytes} {pane : Pane} : state.panes[id]? = some pane →
    state.ReachesTab pane.parentId

/-! ### The layout as a forest -/

def forest (state : MultiplexerState) : Forest Bytes where
  root id := id ∈ state.tabs
  children id :=
    match state.tabs[id]? with
    | some tab => some [tab.pane_or_split_id]
    | none => (state.splits[id]?).map Split.panes_or_splits
  parent id :=
    match state.panes[id]? with
    | some pane => some pane.parentId
    | none => (state.splits[id]?).map Split.parentId

theorem forest_children (state : MultiplexerState) (id : Bytes) :
    state.forest.children id =
      match state.tabs[id]? with
      | some tab => some [tab.pane_or_split_id]
      | none => (state.splits[id]?).map Split.panes_or_splits := rfl

theorem forest_parent (state : MultiplexerState) (id : Bytes) :
    state.forest.parent id =
      match state.panes[id]? with
      | some pane => some pane.parentId
      | none => (state.splits[id]?).map Split.parentId := rfl

/-- What the ids of a layout are.  A client may give a tab and its pane one id, so
tabs and panes may share keys. -/
structure Keyed (state : MultiplexerState) : Prop where
  tab_id {id : Bytes} {tab : Tab} : state.tabs[id]? = some tab → tab.id = id
  pane_id {id : Bytes} {pane : Pane} : state.panes[id]? = some pane → pane.id = id
  split_id {id : Bytes} {split : Split} : state.splits[id]? = some split → split.id = id
  split_not_tab {id : Bytes} : id ∈ state.splits → id ∉ state.tabs
  split_not_pane {id : Bytes} : id ∈ state.splits → id ∉ state.panes
  tab_named {id : Bytes} : id ∈ state.tabs → id ≠ []
  split_named {id : Bytes} : id ∈ state.splits → id ≠ []

structure Split.Balanced (split : Split) : Prop where
  two_children : 2 ≤ split.panes_or_splits.length
  one_size_each : split.sizes.length = split.panes_or_splits.length

/-- What every operation preserves. -/
structure Layout (state : MultiplexerState) : Prop extends Keyed state where
  linked : state.forest.Linked
  balanced {id : Bytes} {split : Split} : state.splits[id]? = some split → split.Balanced

variable {state : MultiplexerState} {id child : Bytes}

theorem forest_children_tab {tab : Tab} (found : state.tabs[id]? = some tab) :
    state.forest.children id = some [tab.pane_or_split_id] := by
  simp only [forest, found]

theorem forest_parent_pane {pane : Pane} (found : state.panes[id]? = some pane) :
    state.forest.parent id = some pane.parentId := by
  simp only [forest, found]

namespace Layout

theorem children_split (layout : state.Layout) {split : Split}
    (found : state.splits[id]? = some split) :
    state.forest.children id = some split.panes_or_splits := by
  have notTab := lookup_none.mpr (layout.split_not_tab (mem_of_lookup found))
  simp only [forest, notTab, found, Option.map_some]

theorem parent_split (layout : state.Layout) {split : Split}
    (found : state.splits[id]? = some split) :
    state.forest.parent id = some split.parentId := by
  have notPane := lookup_none.mpr (layout.split_not_pane (mem_of_lookup found))
  simp only [forest, notPane, found, Option.map_some]

theorem lists_iff (layout : state.Layout) :
    state.Lists id child ↔ ∃ items, state.forest.children id = some items ∧ child ∈ items := by
  constructor
  · rintro (⟨found, rfl⟩ | ⟨found, member⟩)
    · exact ⟨_, forest_children_tab found, List.mem_singleton_self _⟩
    · exact ⟨_, layout.children_split found, member⟩
  · rintro ⟨items, lists, member⟩
    cases tabFound : state.tabs[id]? with
    | some tab =>
        obtain rfl := Option.some.inj ((forest_children_tab tabFound).symm.trans lists)
        exact .tab tabFound (List.mem_singleton.mp member).symm
    | none =>
        simp only [forest, tabFound] at lists
        obtain ⟨split, found, rfl⟩ := Option.map_eq_some_iff.mp lists
        exact .split found member

theorem hasParent_iff (layout : state.Layout) :
    state.HasParent child id ↔ state.forest.parent child = some id := by
  constructor
  · rintro (⟨found, rfl⟩ | ⟨found, rfl⟩)
    · exact forest_parent_pane found
    · exact layout.parent_split found
  · intro up
    cases paneFound : state.panes[child]? with
    | some pane =>
        exact .pane paneFound (Option.some.inj ((forest_parent_pane paneFound).symm.trans up))
    | none =>
        simp only [forest, paneFound] at up
        obtain ⟨split, found, same⟩ := Option.map_eq_some_iff.mp up
        exact .split found same

/-- A key on the way up is a tab or a split, since it lists what is below it. -/
theorem reachesTab (layout : state.Layout) (grounded : state.forest.Grounded id) :
    (∃ child, state.Lists id child) → state.ReachesTab id := by
  induction grounded with
  | root isTab => exact fun _ => .tab isTab
  | @under node container up _ ih =>
      rintro ⟨child, lists⟩
      cases lists with
      | tab found _ => exact .tab (mem_of_lookup found)
      | @split split found _ =>
          obtain rfl : split.parentId = container :=
            Option.some.inj ((layout.parent_split found).symm.trans up)
          exact .split found (ih ⟨node, layout.lists_iff.mpr (layout.linked.listed up)⟩)

theorem wellFormed (layout : state.Layout) : state.WellFormed := by
  constructor
  · intro id pane found
    exact layout.lists_iff.mpr (layout.linked.listed (forest_parent_pane found))
  · intro id split found
    exact layout.lists_iff.mpr (layout.linked.listed (layout.parent_split found))
  · intro id split found
    exact layout.linked.once (layout.children_split found)
  · intro id tab found
    exact layout.hasParent_iff.mpr
      (layout.linked.named (forest_children_tab found) (List.mem_singleton_self _))
  · intro id child split found member
    exact layout.hasParent_iff.mpr (layout.linked.named (layout.children_split found) member)
  · intro first second child inFirst inSecond
    obtain ⟨_, listsFirst, memberFirst⟩ := layout.lists_iff.mp inFirst
    obtain ⟨_, listsSecond, memberSecond⟩ := layout.lists_iff.mp inSecond
    exact Option.some.inj ((layout.linked.named listsFirst memberFirst).symm.trans
      (layout.linked.named listsSecond memberSecond))
  · exact fun found => (layout.balanced found).two_children
  · exact fun found => (layout.balanced found).one_size_each
  · intro id pane found
    have up := forest_parent_pane found
    exact layout.reachesTab (layout.linked.grounded up)
      ⟨id, layout.lists_iff.mpr (layout.linked.listed up)⟩

end Layout

end MultiplexerState

end EternalTerminal
