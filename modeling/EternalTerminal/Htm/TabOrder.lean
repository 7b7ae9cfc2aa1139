/-
The orders of the tabs, as a client shows them.

A new tab comes last.  When a tab goes, the tabs after it move up by one.
-/

import EternalTerminal.Library.Ranking
import EternalTerminal.Htm.HtmSession

namespace EternalTerminal

open Library

namespace MultiplexerState

variable {state after : MultiplexerState} {paneId sourceId uuid : Bytes} {vertical : Bool}

def tabRank (state : MultiplexerState) (id : Bytes) : Option Int :=
  (state.tabs[id]?).map Tab.order

def Ordered (state : MultiplexerState) : Prop := Ranked state.tabRank state.tabs.size

/-- The same tabs with the same orders, whatever they show. -/
structure SameOrders (state after : MultiplexerState) : Prop where
  rank (id : Bytes) : after.tabRank id = state.tabRank id
  size : after.tabs.size = state.tabs.size

theorem mem_tabs_iff {id : Bytes} : id ∈ state.tabs ↔ (state.tabRank id).isSome := by
  rw [Std.TreeMap.mem_iff_isSome_getElem?, tabRank, Option.isSome_map]

theorem tabRank_of_lookup {id : Bytes} {tab : Tab} (found : state.tabs[id]? = some tab) :
    state.tabRank id = some tab.order := by
  rw [tabRank, found]
  rfl

namespace SameOrders

theorem of_tabs (same : after.tabs = state.tabs) : state.SameOrders after := by
  constructor
  · intro id
    rw [tabRank, tabRank, same]
  · rw [same]

theorem ordered (same : state.SameOrders after) (ordered : state.Ordered) : after.Ordered := by
  unfold Ordered
  rw [funext same.rank, same.size]
  exact ordered

end SameOrders

/-! ### What each operation does to the orders -/

theorem setTabChild_orders (tabId childId : Bytes) :
    state.SameOrders (state.setTabChild tabId childId) := by
  constructor
  · intro id
    simp only [tabRank, setTabChild, lookup_modify]
    split
    · rename_i here
      rw [here, Option.map_map]
      rfl
    · rfl
  · exact Std.TreeMap.size_modify

theorem replaceChild_orders {splitId oldId newId : Bytes} {missing : String}
    (ok : state.replaceChild splitId oldId newId missing = .ok after) :
    state.SameOrders after := by
  obtain ⟨split, _, ok⟩ := except_bind_ok ok
  split at ok
  · obtain rfl := Except.ok.inj ok
    exact .of_tabs rfl
  · cases ok

theorem newSplit_orders (layout : state.Layout)
    (ok : state.newSplit sourceId paneId vertical uuid = .ok after) :
    state.SameOrders after := by
  obtain ⟨_, source, _, branch⟩ := newSplit_ok layout ok
  rcases branch with ⟨split, _, same⟩ | ⟨split, _, replaced⟩ | ⟨tab, _, same⟩
  · rw [same]
    exact .of_tabs rfl
  · -- the tabs are as they were when the child is replaced
    have replaced := replaceChild_orders replaced
    exact ⟨replaced.rank, replaced.size⟩
  · rw [same]
    have changed : ((state.insertPane paneId []).addSplit uuid tab.id sourceId paneId
        vertical).SameOrders ((state.insertPane paneId []).splitRootPane tab sourceId paneId uuid
          vertical) :=
      setTabChild_orders tab.id uuid
    exact ⟨changed.rank, changed.size⟩

theorem promoted_orders {split : Split} {childId : Bytes} :
    state.SameOrders (state.promoted split childId) := by
  unfold promoted
  split
  · have changed : (state.setParent childId split.parentId).SameOrders
        ((state.setParent childId split.parentId).setTabChild split.parentId childId) :=
      setTabChild_orders split.parentId childId
    exact ⟨changed.rank, changed.size⟩
  · exact .of_tabs rfl

theorem addTab_ordered {tabId : Bytes} (fresh : tabId ∉ state.tabs) (ordered : state.Ordered) :
    (state.addTab tabId paneId).Ordered := by
  have ranks : (state.addTab tabId paneId).tabRank =
      Function.update state.tabRank tabId (some (state.tabs.size : Int)) := by
    funext id
    simp only [tabRank, addTab, insertPane, lookup_insertIfNew fresh, Function.update_apply]
    by_cases here : id = tabId
    · simp [here]
    · simp [here, Ne.symm here]
  have size : (state.addTab tabId paneId).tabs.size = state.tabs.size + 1 := by
    show (state.tabs.insertIfNew tabId _).size = _
    rw [Std.TreeMap.size_insertIfNew, if_neg fresh]
  unfold Ordered
  rw [ranks, size]
  exact ordered.append

theorem withoutTab_rank {tabId id : Bytes} {order : Int} :
    (state.withoutTab tabId order).tabRank id =
      if tabId = id then none else (state.tabRank id).map (closeGap order) := by
  have shifted (tab : Tab) : (shiftOrder order tab).order = closeGap order tab.order := by
    unfold shiftOrder closeGap
    split <;> rfl
  simp only [tabRank, withoutTab, lookup_erase, lookup_shifted]
  split
  · rfl
  · cases state.tabs[id]? with
    | none => rfl
    | some tab => exact congrArg some (shifted tab)

theorem withoutTab_ordered {tabId : Bytes} {tab : Tab} (found : state.tabs[tabId]? = some tab)
    (ordered : state.Ordered) : (state.withoutTab tabId tab.order).Ordered := by
  have size : (state.withoutTab tabId tab.order).tabs.size = state.tabs.size - 1 := by
    have present : (state.tabs.map fun _ other => shiftOrder tab.order other).contains tabId := by
      rw [Std.TreeMap.contains_map]
      exact Std.TreeMap.mem_iff_contains.mp (mem_of_lookup found)
    show (Std.TreeMap.erase _ tabId).size = _
    rw [Std.TreeMap.size_erase, if_pos present, Std.TreeMap.size_map]
  unfold Ordered
  rw [size]
  apply Ranked.remove ordered (tabRank_of_lookup found)
  · rw [withoutTab_rank, if_pos rfl]
  · intro other isOther
    rw [withoutTab_rank, if_neg (Ne.symm isOther)]

/-- A close takes out the tab of a root pane, and no tab of any other pane. -/
theorem Closing.orders (closing : state.Closing paneId after) :
    (∃ pane tab, state.panes[paneId]? = some pane ∧ state.tabs[pane.parentId]? = some tab ∧
        after = (state.withoutPane paneId).withoutTab pane.parentId tab.order) ∨
      state.SameOrders after := by
  cases closing with
  | @root pane tab found isTab => exact Or.inl ⟨pane, tab, found, isTab, rfl⟩
  | detached => exact Or.inr (.of_tabs rfl)
  | @collapsed pane split childId _ _ _ =>
      have promoted : ((state.withoutPane paneId).withSplit pane.parentId
          (split.without paneId)).SameOrders (((state.withoutPane paneId).withSplit pane.parentId
            (split.without paneId)).promoted (split.without paneId) childId) := promoted_orders
      exact Or.inr ⟨promoted.rank, promoted.size⟩

theorem Closing.ordered (closing : state.Closing paneId after) (ordered : state.Ordered) :
    after.Ordered := by
  rcases closing.orders with ⟨pane, tab, _, isTab, same⟩ | same
  · have isTab : (state.withoutPane paneId).tabs[pane.parentId]? = some tab := isTab
    rw [same]
    exact withoutTab_ordered isTab ordered
  · exact same.ordered ordered

theorem closePane_ordered (layout : state.Layout) (ordered : state.Ordered)
    (ok : state.closePane paneId = .ok after) : after.Ordered := by
  rcases layout.closePane_ok ok with ⟨_, same⟩ | ⟨_, closing, _⟩
  · rw [same]
    exact ordered
  · exact closing.ordered ordered

/-! ### Every reachable state -/

theorem updatePanes_ordered {poll : Bytes → TerminalHandler.Poll} {taken : Message → Bool}
    {paneIds : List Bytes} {sent : List Message} (layout : state.Layout)
    (ordered : state.Ordered) (ok : state.updatePanes poll taken paneIds = .ok (sent, after)) :
    after.Ordered := by
  induction paneIds generalizing state sent with
  | nil =>
      cases ok
      exact ordered
  | cons paneId rest ih =>
      obtain ⟨_, terminal, turn⟩ := updatePanes_cons ok
      have polled := layout.setTerminal paneId terminal
      have stillOrdered : (state.setTerminal paneId terminal).Ordered := ordered
      cases turn with
      | ends same _ =>
          rw [same]
          exact stillOrdered
      | goesOn goesOn _ => exact ih polled stillOrdered goesOn
      | closes closes _ => exact closePane_ordered polled stillOrdered closes

theorem empty_ordered : empty.Ordered := by
  have none : empty.tabRank = fun _ => none := rfl
  unfold Ordered
  rw [none]
  exact Ranked.empty

theorem step_ordered {command : Command} (layout : state.Layout) (ordered : state.Ordered)
    (step : Step state command after) : after.Ordered := by
  cases step with
  | newTab ok =>
      obtain ⟨tabFresh, _, same⟩ := newTab_ok ok
      rw [same]
      exact addTab_ordered tabFresh.tab ordered
  | newSplit _ _ ok => exact (newSplit_orders layout ok).ordered ordered
  | closePane ok => exact closePane_ordered layout ordered ok
  | update ok => exact updatePanes_ordered layout ordered ok

theorem reachable_ordered (reached : htmSystem.Reachable state) : state.Ordered := by
  have both : state.Layout ∧ state.Ordered := by
    apply reached.invariant
    · rintro _ ⟨tabId, paneId, rfl⟩
      refine ⟨create_layout tabId paneId, ?_⟩
      rw [create_eq]
      exact addTab_ordered (empty_fresh _).tab empty_ordered
    · intro before command after holds step
      exact ⟨holds.1.step step, step_ordered holds.1 holds.2 step⟩
  exact both.2

/-! ### The orders as a list -/

/-- The orders of n tabs are 0, 1, ..., n - 1 in some sequence. -/
def OrdersPermuted (state : MultiplexerState) : Prop :=
  (state.tabs.toList.map fun entry => entry.2.order).Perm
    ((List.range state.tabs.size).map Int.ofNat)

theorem Ordered.permuted (ordered : state.Ordered) : state.OrdersPermuted := by
  have rank {entry : Bytes × Tab} (member : entry ∈ state.tabs.toList) :
      state.tabRank entry.1 = some entry.2.order :=
    tabRank_of_lookup (Std.TreeMap.mem_toList_iff_getElem?_eq_some.mp member)
  have length : (state.tabs.toList.map fun entry => entry.2.order).length = state.tabs.size := by
    rw [List.length_map, Std.TreeMap.length_toList]
  have nodup : (state.tabs.toList.map fun entry => entry.2.order).Nodup := by
    apply List.pairwise_map.mpr
    apply Std.TreeMap.distinct_keys_toList.imp_of_mem
    intro left right memberLeft memberRight otherKey sameOrder
    apply otherKey
    apply Std.LawfulEqCmp.compare_eq_iff_eq.mpr
    exact ordered.distinct (rank memberLeft) (sameOrder ▸ rank memberRight)
  unfold OrdersPermuted
  rw [← length]
  apply perm_range_of_nodup nodup
  intro order isOrder
  obtain ⟨entry, member, rfl⟩ := List.mem_map.mp isOrder
  rw [length]
  exact ⟨ordered.nonneg (rank member), ordered.lt_size (rank member)⟩

/-! ### The tabs that stay -/

/-- A close takes out no tab but the one that shows the pane, and the tabs that stay
come in the order in which they came. -/
structure KeepsTabOrder (state : MultiplexerState) (paneId : Bytes) (after : MultiplexerState) :
    Prop where
  kept {id : Bytes} : id ∈ after.tabs → id ∈ state.tabs
  gone {id : Bytes} : id ∈ state.tabs → id ∉ after.tabs → state.Lists id paneId
  order_lt_iff {left right : Bytes} {leftTab rightTab leftAfter rightAfter : Tab} :
    state.tabs[left]? = some leftTab → state.tabs[right]? = some rightTab →
    after.tabs[left]? = some leftAfter → after.tabs[right]? = some rightAfter →
    (leftAfter.order < rightAfter.order ↔ leftTab.order < rightTab.order)

theorem SameOrders.keepsTabOrder (same : state.SameOrders after) :
    state.KeepsTabOrder paneId after := by
  have members (id : Bytes) : id ∈ after.tabs ↔ id ∈ state.tabs := by
    rw [mem_tabs_iff, mem_tabs_iff, same.rank]
  have sameOrder {id : Bytes} {tab changed : Tab} (found : state.tabs[id]? = some tab)
      (foundAfter : after.tabs[id]? = some changed) : changed.order = tab.order := by
    have ranks := same.rank id
    rw [tabRank_of_lookup found, tabRank_of_lookup foundAfter] at ranks
    exact Option.some.inj ranks
  constructor
  · exact fun member => (members _).mp member
  · exact fun member missing => absurd ((members _).mpr member) missing
  · intro left right leftTab rightTab leftAfter rightAfter isLeft isRight stillLeft stillRight
    rw [sameOrder isLeft stillLeft, sameOrder isRight stillRight]

theorem withoutTab_keepsTabOrder (ordered : state.Ordered) {tabId : Bytes} {tab : Tab}
    (found : state.tabs[tabId]? = some tab) (lists : state.Lists tabId paneId) :
    state.KeepsTabOrder paneId ((state.withoutPane paneId).withoutTab tabId tab.order) := by
  let after := (state.withoutPane paneId).withoutTab tabId tab.order
  have ranks (id : Bytes) : after.tabRank id =
      if tabId = id then none else (state.tabRank id).map (closeGap tab.order) :=
    withoutTab_rank
  have moved {id : Bytes} {other changed : Tab} (was : state.tabs[id]? = some other)
      (is : after.tabs[id]? = some changed) :
      other.order ≠ tab.order ∧ changed.order = closeGap tab.order other.order := by
    have rank := ranks id
    rw [tabRank_of_lookup is, tabRank_of_lookup was] at rank
    split at rank
    · cases rank
    · rename_i notGone
      refine ⟨?_, Option.some.inj rank⟩
      intro sameOrder
      exact notGone (ordered.distinct (tabRank_of_lookup found)
        (sameOrder ▸ tabRank_of_lookup was))
  constructor
  · intro id member
    rw [mem_tabs_iff] at member ⊢
    rw [ranks] at member
    split at member
    · cases member
    · rwa [Option.isSome_map] at member
  · intro id member missing
    by_cases isGone : tabId = id
    · exact isGone ▸ lists
    · exfalso
      apply missing
      rw [mem_tabs_iff] at member ⊢
      rw [ranks, if_neg isGone, Option.isSome_map]
      exact member
  · intro left right leftTab rightTab leftAfter rightAfter isLeft isRight stillLeft stillRight
    obtain ⟨leftOther, leftMoved⟩ := moved isLeft stillLeft
    obtain ⟨rightOther, rightMoved⟩ := moved isRight stillRight
    rw [leftMoved, rightMoved]
    exact closeGap_lt_iff leftOther rightOther

theorem closePane_keepsTabOrder (layout : state.Layout) (ordered : state.Ordered)
    (ok : state.closePane paneId = .ok after) : state.KeepsTabOrder paneId after := by
  rcases layout.closePane_ok ok with ⟨_, same⟩ | ⟨_, closing, _⟩
  · rw [same]
    exact SameOrders.keepsTabOrder (.of_tabs rfl)
  · rcases closing.orders with ⟨pane, tab, found, isTab, same⟩ | same
    · rw [same]
      exact withoutTab_keepsTabOrder ordered isTab (layout.wellFormed.pane_listed found)
    · exact same.keepsTabOrder

/-- Whatever is opened, split and closed, the orders of n tabs are 0, 1, ..., n - 1, each
once, and a close leaves the other tabs in their order. -/
theorem tab_orders_permuted (reached : htmSystem.Reachable state) :
    state.OrdersPermuted ∧
      ∀ paneId after, state.closePane paneId = .ok after → state.KeepsTabOrder paneId after := by
  have ordered := reachable_ordered reached
  refine ⟨ordered.permuted, ?_⟩
  intro paneId after ok
  exact closePane_keepsTabOrder (reachable_layout reached) ordered ok

def secondTab : Except String MultiplexerState :=
  (create (sampleId 0).bytes (sampleId 1).bytes).newTab (sampleId 2).bytes (sampleId 3).bytes

theorem secondTab_reachable {opened : MultiplexerState} (ok : secondTab = .ok opened) :
    htmSystem.Reachable opened := by
  have start : htmSystem.Reachable (create (sampleId 0).bytes (sampleId 1).bytes) :=
    .start ⟨sampleId 0, sampleId 1, rfl⟩
  exact start.next (.newTab ok)

theorem tab_orders_permuted_second_tab :
    ∃ opened, secondTab = .ok opened ∧ opened.tabs.size = 2 ∧ opened.OrdersPermuted ∧
      ∀ paneId after, opened.closePane paneId = .ok after → opened.KeepsTabOrder paneId after :=
  ⟨_, rfl, rfl, tab_orders_permuted (secondTab_reachable rfl)⟩

end MultiplexerState

end EternalTerminal
