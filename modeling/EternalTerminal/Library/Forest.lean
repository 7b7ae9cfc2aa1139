/-
Forests whose links are kept at both ends.

A container lists its children and a child names its container.  A root is a
container that need not be a child; an inner node is both.  `Linked` says that
the two ends agree and that the way up from every child ends at a root.
-/

import Mathlib.Data.List.Nodup
import EternalTerminal.Library.PartialMap

namespace EternalTerminal.Library

/-! ### Replacing an item of a list -/

section Replace

variable {K : Type} [BEq K] [LawfulBEq K] {items : List K} {old new item head : K}

theorem replace_cons_ne (different : head ≠ old) :
    (head :: items).replace old new = head :: items.replace old new := by
  have unequal : (old == head) = false := by simpa using Ne.symm different
  rw [List.replace_cons, unequal]

theorem mem_replace (member : old ∈ items) (nodup : items.Nodup) :
    item ∈ items.replace old new ↔ item = new ∨ item ∈ items ∧ item ≠ old := by
  induction items with
  | nil => cases member
  | cons head tail ih =>
      obtain ⟨absent, nodupTail⟩ := List.nodup_cons.mp nodup
      by_cases here : head = old
      · subst here
        rw [List.replace_cons_self, List.mem_cons]
        constructor
        · rintro (isNew | later)
          · exact Or.inl isNew
          · exact Or.inr ⟨List.mem_cons_of_mem _ later, fun same => absent (same ▸ later)⟩
        · rintro (isNew | ⟨inside, other⟩)
          · exact Or.inl isNew
          · exact Or.inr ((List.mem_cons.mp inside).resolve_left other)
      · have later : old ∈ tail := (List.mem_cons.mp member).resolve_left (Ne.symm here)
        rw [replace_cons_ne here, List.mem_cons, ih later nodupTail, List.mem_cons]
        constructor
        · rintro (isHead | isNew | ⟨inside, other⟩)
          · exact Or.inr ⟨Or.inl isHead, isHead ▸ here⟩
          · exact Or.inl isNew
          · exact Or.inr ⟨Or.inr inside, other⟩
        · rintro (isNew | ⟨isHead | inside, other⟩)
          · exact Or.inr (Or.inl isNew)
          · exact Or.inl isHead
          · exact Or.inr (Or.inr ⟨inside, other⟩)

theorem nodup_replace (fresh : new ∉ items) (nodup : items.Nodup) :
    (items.replace old new).Nodup := by
  induction items with
  | nil => exact nodup
  | cons head tail ih =>
      obtain ⟨absent, nodupTail⟩ := List.nodup_cons.mp nodup
      obtain ⟨notHead, notTail⟩ := List.ne_and_not_mem_of_not_mem_cons fresh
      by_cases here : head = old
      · subst here
        rw [List.replace_cons_self]
        exact List.nodup_cons.mpr ⟨notTail, nodupTail⟩
      · rw [replace_cons_ne here]
        apply List.nodup_cons.mpr
        constructor
        · intro inside
          by_cases member : old ∈ tail
          · rcases (mem_replace member nodupTail).mp inside with isNew | ⟨again, _⟩
            · exact notHead isNew.symm
            · exact absent again
          · rw [List.replace_of_not_mem member] at inside
            exact absent inside
        · exact ih notTail nodupTail

end Replace

@[ext] structure Forest (K : Type) where
  root : K → Prop
  children : K → Option (List K)
  parent : K → Option K

namespace Forest

variable {K : Type} {forest : Forest K}

inductive Grounded (forest : Forest K) : K → Prop
  | root {node : K} : forest.root node → Grounded forest node
  | under {node container : K} :
      forest.parent node = some container → Grounded forest container → Grounded forest node

structure Linked (forest : Forest K) : Prop where
  listed {node container : K} : forest.parent node = some container →
    ∃ items, forest.children container = some items ∧ node ∈ items
  named {node container : K} {items : List K} : forest.children container = some items →
    node ∈ items → forest.parent node = some container
  once {container : K} {items : List K} : forest.children container = some items → items.Nodup
  grounded {node container : K} : forest.parent node = some container →
    forest.Grounded container

theorem Grounded.root_of_parent_self {node : K} (grounded : forest.Grounded node)
    (loop : forest.parent node = some node) : forest.root node := by
  induction grounded with
  | root isRoot => exact isRoot
  | @under node container up _ ih =>
      obtain rfl : container = node := Option.some.inj (up.symm.trans loop)
      exact ih loop

/-- A forest that keeps the roots and the ways up keeps what is grounded. -/
theorem Grounded.mono {after : Forest K} {node : K} (grounded : forest.Grounded node)
    (roots : ∀ root, forest.root root → after.root root)
    (parents : ∀ child container, forest.parent child = some container →
      after.parent child = some container) : after.Grounded node := by
  induction grounded with
  | root isRoot => exact .root (roots _ isRoot)
  | under up _ ih => exact .under (parents _ _ up) ih

namespace Linked

theorem mem_of_lists (linked : forest.Linked) {node container : K} {items : List K}
    (up : forest.parent node = some container)
    (lists : forest.children container = some items) : node ∈ items := by
  obtain ⟨inside, listsToo, member⟩ := linked.listed up
  obtain rfl : items = inside := Option.some.inj (lists.symm.trans listsToo)
  exact member

end Linked

variable [DecidableEq K]

/-! ### Planting a tree -/

def plant (forest : Forest K) (root leaf : K) : Forest K where
  root key := key = root ∨ forest.root key
  children := Function.update forest.children root (some [leaf])
  parent := Function.update forest.parent leaf (some root)

theorem Linked.plant (linked : forest.Linked) {root leaf : K}
    (newRoot : forest.children root = none) (newLeaf : forest.parent leaf = none) :
    (forest.plant root leaf).Linked := by
  have others : ∀ child container, forest.parent child = some container →
      (forest.plant root leaf).parent child = some container := by
    intro child container up
    apply update_some_iff.mpr
    right
    refine ⟨?_, up⟩
    rintro rfl
    cases newLeaf.symm.trans up
  constructor
  · intro node container up
    rcases update_some_iff.mp up with ⟨rfl, rfl⟩ | ⟨_, old⟩
    · exact ⟨[node], Function.update_self .., List.mem_singleton_self node⟩
    · obtain ⟨items, lists, member⟩ := linked.listed old
      refine ⟨items, update_some_iff.mpr (Or.inr ⟨?_, lists⟩), member⟩
      rintro rfl
      cases newRoot.symm.trans lists
  · intro node container items lists member
    rcases update_some_iff.mp lists with ⟨rfl, rfl⟩ | ⟨_, old⟩
    · obtain rfl := List.mem_singleton.mp member
      exact Function.update_self ..
    · exact others _ _ (linked.named old member)
  · intro container items lists
    rcases update_some_iff.mp lists with ⟨rfl, rfl⟩ | ⟨_, old⟩
    · exact List.nodup_singleton leaf
    · exact linked.once old
  · intro node container up
    rcases update_some_iff.mp up with ⟨rfl, rfl⟩ | ⟨_, old⟩
    · exact .root (Or.inl rfl)
    · exact (linked.grounded old).mono (fun _ => Or.inr) others

/-! ### Attaching a leaf -/

def attach (forest : Forest K) (container leaf : K) (items : List K) : Forest K where
  root := forest.root
  children := Function.update forest.children container (some (items ++ [leaf]))
  parent := Function.update forest.parent leaf (some container)

theorem Linked.attach (linked : forest.Linked) {container leaf : K} {items : List K}
    (lists : forest.children container = some items)
    (grounded : forest.Grounded container) (newLeaf : forest.parent leaf = none) :
    (forest.attach container leaf items).Linked := by
  have others : ∀ child place, forest.parent child = some place →
      (forest.attach container leaf items).parent child = some place := by
    intro child place up
    apply update_some_iff.mpr
    right
    refine ⟨?_, up⟩
    rintro rfl
    cases newLeaf.symm.trans up
  have absent : leaf ∉ items := by
    intro member
    cases newLeaf.symm.trans (linked.named lists member)
  constructor
  · intro node place up
    rcases update_some_iff.mp up with ⟨rfl, rfl⟩ | ⟨_, old⟩
    · exact ⟨items ++ [node], Function.update_self .., by simp⟩
    · by_cases here : place = container
      · subst here
        have member := linked.mem_of_lists old lists
        exact ⟨items ++ [leaf], Function.update_self .., List.mem_append_left _ member⟩
      · obtain ⟨inside, listsOld, member⟩ := linked.listed old
        exact ⟨inside, update_some_iff.mpr (Or.inr ⟨here, listsOld⟩), member⟩
  · intro node place inside listsNew member
    rcases update_some_iff.mp listsNew with ⟨rfl, rfl⟩ | ⟨_, listsOld⟩
    · rcases List.mem_append.mp member with old | new
      · exact others _ _ (linked.named lists old)
      · obtain rfl := List.mem_singleton.mp new
        exact Function.update_self ..
    · exact others _ _ (linked.named listsOld member)
  · intro place inside listsNew
    rcases update_some_iff.mp listsNew with ⟨rfl, rfl⟩ | ⟨_, listsOld⟩
    · exact List.Nodup.append (linked.once lists) (List.nodup_singleton leaf)
        (List.disjoint_singleton.mpr absent)
    · exact linked.once listsOld
  · intro node place up
    rcases update_some_iff.mp up with ⟨rfl, rfl⟩ | ⟨_, old⟩
    · exact grounded.mono (fun _ => id) others
    · exact (linked.grounded old).mono (fun _ => id) others

/-! ### Uprooting a tree -/

def uproot (forest : Forest K) (root leaf : K) : Forest K where
  root key := key ≠ root ∧ forest.root key
  children := Function.update forest.children root none
  parent := Function.update forest.parent leaf none

theorem Linked.uproot (linked : forest.Linked) {root leaf : K}
    (single : forest.children root = some [leaf])
    (bare : ∀ child, forest.parent child = some leaf → forest.root leaf) :
    (forest.uproot root leaf).Linked := by
  have up : forest.parent leaf = some root :=
    linked.named single (List.mem_singleton_self leaf)
  have onlyLeaf : ∀ child, forest.parent child = some root → child = leaf := by
    intro child below
    exact List.mem_singleton.mp (linked.mem_of_lists below single)
  have others : ∀ child place, child ≠ leaf → forest.parent child = some place →
      (forest.uproot root leaf).parent child = some place :=
    fun _ _ notLeaf old => update_none_iff.mpr ⟨notLeaf, old⟩
  have lifted : ∀ place, forest.Grounded place → place ≠ root →
      (place = leaf → forest.root leaf) → (forest.uproot root leaf).Grounded place := by
    intro place grounded
    induction grounded with
    | root isRoot => exact fun notRoot _ => .root ⟨notRoot, isRoot⟩
    | @under child place old _ ih =>
        intro notRoot ofLeaf
        by_cases isLeaf : child = leaf
        · exact .root ⟨notRoot, isLeaf.symm ▸ ofLeaf isLeaf⟩
        · apply Grounded.under (others _ _ isLeaf old)
          apply ih
          · rintro rfl
            exact isLeaf (onlyLeaf _ old)
          · rintro rfl
            exact bare _ old
  constructor
  · intro child place upNew
    obtain ⟨notLeaf, old⟩ := update_none_iff.mp upNew
    obtain ⟨inside, listsOld, member⟩ := linked.listed old
    refine ⟨inside, update_none_iff.mpr ⟨?_, listsOld⟩, member⟩
    rintro rfl
    exact notLeaf (onlyLeaf _ old)
  · intro child place inside listsNew member
    obtain ⟨notRoot, listsOld⟩ := update_none_iff.mp listsNew
    have old := linked.named listsOld member
    apply others _ _ _ old
    rintro rfl
    exact notRoot (Option.some.inj (old.symm.trans up))
  · intro place inside listsNew
    exact linked.once (update_none_iff.mp listsNew).2
  · intro child place upNew
    obtain ⟨notLeaf, old⟩ := update_none_iff.mp upNew
    apply lifted _ (linked.grounded old)
    · rintro rfl
      exact notLeaf (onlyLeaf _ old)
    · rintro rfl
      exact bare _ old

variable [BEq K] [LawfulBEq K]

/-! ### Wrapping a child -/

/-- A new container in a child's place, which holds the child and a new leaf. -/
def wrap (forest : Forest K) (container node wrapper leaf : K) (items : List K) :
    Forest K where
  root := forest.root
  children := Function.update
    (Function.update forest.children wrapper (some [node, leaf]))
    container (some (items.replace node wrapper))
  parent := Function.update (Function.update
    (Function.update forest.parent wrapper (some container)) leaf (some wrapper))
    node (some wrapper)

theorem Linked.wrap (linked : forest.Linked) {container node wrapper leaf : K}
    {items : List K} (lists : forest.children container = some items)
    (up : forest.parent node = some container) (newLeaf : forest.parent leaf = none)
    (newWrapper : forest.parent wrapper = none)
    (emptyWrapper : forest.children wrapper = none) (different : leaf ≠ wrapper) :
    (forest.wrap container node wrapper leaf items).Linked := by
  have nodeLeaf : node ≠ leaf := by
    rintro rfl
    cases newLeaf.symm.trans up
  have nodeWrapper : node ≠ wrapper := by
    rintro rfl
    cases newWrapper.symm.trans up
  have containerWrapper : container ≠ wrapper := by
    rintro rfl
    cases emptyWrapper.symm.trans lists
  have absent : wrapper ∉ items := by
    intro member
    cases newWrapper.symm.trans (linked.named lists member)
  have members {item : K} : item ∈ items.replace node wrapper ↔
      item = wrapper ∨ item ∈ items ∧ item ≠ node :=
    mem_replace (linked.mem_of_lists up lists) (linked.once lists)
  have ofNode : (forest.wrap container node wrapper leaf items).parent node = some wrapper :=
    Function.update_self ..
  have ofLeaf : (forest.wrap container node wrapper leaf items).parent leaf = some wrapper :=
    update_some_iff.mpr (Or.inr ⟨Ne.symm nodeLeaf, Function.update_self ..⟩)
  have ofWrapper : (forest.wrap container node wrapper leaf items).parent wrapper =
      some container :=
    update_some_iff.mpr (Or.inr ⟨Ne.symm nodeWrapper,
      update_some_iff.mpr (Or.inr ⟨Ne.symm different, Function.update_self ..⟩)⟩)
  have others : ∀ child place, child ≠ node → forest.parent child = some place →
      (forest.wrap container node wrapper leaf items).parent child = some place := by
    intro child place notNode old
    have notLeaf : child ≠ leaf := by
      rintro rfl
      cases newLeaf.symm.trans old
    have notWrapper : child ≠ wrapper := by
      rintro rfl
      cases newWrapper.symm.trans old
    exact update_some_iff.mpr (Or.inr ⟨notNode, update_some_iff.mpr (Or.inr ⟨notLeaf,
      update_some_iff.mpr (Or.inr ⟨notWrapper, old⟩)⟩)⟩)
  have lifted : ∀ place, forest.Grounded place →
      (forest.wrap container node wrapper leaf items).Grounded place := by
    intro place grounded
    induction grounded with
    | root isRoot => exact .root isRoot
    | @under child place old _ ih =>
        by_cases isNode : child = node
        · subst isNode
          obtain rfl : container = place := Option.some.inj (up.symm.trans old)
          exact .under ofNode (.under ofWrapper ih)
        · exact .under (others _ _ isNode old) ih
  constructor
  · intro child place upNew
    rcases update_some_iff.mp upNew with ⟨rfl, rfl⟩ | ⟨notNode, upNew⟩
    · exact ⟨[child, leaf], update_some_iff.mpr (Or.inr
        ⟨Ne.symm containerWrapper, Function.update_self ..⟩), by simp⟩
    · rcases update_some_iff.mp upNew with ⟨rfl, rfl⟩ | ⟨_, upNew⟩
      · exact ⟨[node, child], update_some_iff.mpr (Or.inr
          ⟨Ne.symm containerWrapper, Function.update_self ..⟩), by simp⟩
      · rcases update_some_iff.mp upNew with ⟨rfl, rfl⟩ | ⟨_, old⟩
        · exact ⟨items.replace node child, Function.update_self .., members.mpr (Or.inl rfl)⟩
        · by_cases here : place = container
          · subst here
            exact ⟨items.replace node wrapper, Function.update_self ..,
              members.mpr (Or.inr ⟨linked.mem_of_lists old lists, notNode⟩)⟩
          · obtain ⟨inside, listsOld, member⟩ := linked.listed old
            have notWrapper : place ≠ wrapper := by
              rintro rfl
              cases emptyWrapper.symm.trans listsOld
            exact ⟨inside, update_some_iff.mpr (Or.inr ⟨here,
              update_some_iff.mpr (Or.inr ⟨notWrapper, listsOld⟩)⟩), member⟩
  · intro child place inside listsNew member
    rcases update_some_iff.mp listsNew with ⟨rfl, rfl⟩ | ⟨here, listsNew⟩
    · rcases members.mp member with rfl | ⟨old, notNode⟩
      · exact ofWrapper
      · exact others _ _ notNode (linked.named lists old)
    · rcases update_some_iff.mp listsNew with ⟨rfl, rfl⟩ | ⟨_, listsOld⟩
      · rcases List.mem_pair.mp member with rfl | rfl
        · exact ofNode
        · exact ofLeaf
      · have old := linked.named listsOld member
        apply others _ _ _ old
        rintro rfl
        exact here (Option.some.inj (old.symm.trans up))
  · intro place inside listsNew
    rcases update_some_iff.mp listsNew with ⟨rfl, rfl⟩ | ⟨_, listsNew⟩
    · exact nodup_replace absent (linked.once lists)
    · rcases update_some_iff.mp listsNew with ⟨rfl, rfl⟩ | ⟨_, listsOld⟩
      · exact List.nodup_cons.mpr ⟨by simpa using nodeLeaf, List.nodup_singleton leaf⟩
      · exact linked.once listsOld
  · intro child place upNew
    have grounded := lifted _ (linked.grounded up)
    rcases update_some_iff.mp upNew with ⟨rfl, rfl⟩ | ⟨_, upNew⟩
    · exact .under ofWrapper grounded
    · rcases update_some_iff.mp upNew with ⟨rfl, rfl⟩ | ⟨_, upNew⟩
      · exact .under ofWrapper grounded
      · rcases update_some_iff.mp upNew with ⟨rfl, rfl⟩ | ⟨_, old⟩
        · exact grounded
        · exact lifted _ (linked.grounded old)

/-! ### Detaching a leaf -/

def detach (forest : Forest K) (container leaf : K) (items : List K) : Forest K where
  root := forest.root
  children := Function.update forest.children container (some (items.erase leaf))
  parent := Function.update forest.parent leaf none

/-- What hangs below the leaf's key may do so only because the key is a root too. -/
theorem Linked.detach (linked : forest.Linked) {container leaf : K} {items : List K}
    (lists : forest.children container = some items)
    (up : forest.parent leaf = some container)
    (bare : ∀ child, forest.parent child = some leaf → forest.root leaf) :
    (forest.detach container leaf items).Linked := by
  have nodup := linked.once lists
  have others : ∀ child place, child ≠ leaf → forest.parent child = some place →
      (forest.detach container leaf items).parent child = some place :=
    fun _ _ notLeaf old => update_none_iff.mpr ⟨notLeaf, old⟩
  have lifted : ∀ place, forest.Grounded place → (place = leaf → forest.root leaf) →
      (forest.detach container leaf items).Grounded place := by
    intro place grounded
    induction grounded with
    | root isRoot => exact fun _ => .root isRoot
    | @under child place old _ ih =>
        intro ofLeaf
        by_cases isLeaf : child = leaf
        · exact .root (isLeaf.symm ▸ ofLeaf isLeaf)
        · apply Grounded.under (others _ _ isLeaf old)
          apply ih
          rintro rfl
          exact bare _ old
  constructor
  · intro child place upNew
    obtain ⟨notLeaf, old⟩ := update_none_iff.mp upNew
    by_cases here : place = container
    · subst here
      exact ⟨items.erase leaf, Function.update_self ..,
        (List.mem_erase_of_ne notLeaf).mpr (linked.mem_of_lists old lists)⟩
    · obtain ⟨inside, listsOld, member⟩ := linked.listed old
      exact ⟨inside, update_some_iff.mpr (Or.inr ⟨here, listsOld⟩), member⟩
  · intro child place inside listsNew member
    rcases update_some_iff.mp listsNew with ⟨rfl, rfl⟩ | ⟨here, listsOld⟩
    · obtain ⟨notLeaf, old⟩ := nodup.mem_erase_iff.mp member
      exact others _ _ notLeaf (linked.named lists old)
    · have old := linked.named listsOld member
      apply others _ _ _ old
      rintro rfl
      exact here (Option.some.inj (old.symm.trans up))
  · intro place inside listsNew
    rcases update_some_iff.mp listsNew with ⟨rfl, rfl⟩ | ⟨_, listsOld⟩
    · exact nodup.erase leaf
    · exact linked.once listsOld
  · intro child place upNew
    obtain ⟨notLeaf, old⟩ := update_none_iff.mp upNew
    apply lifted _ (linked.grounded old)
    rintro rfl
    exact bare _ old

/-! ### Splicing out a container -/

/-- The only child of `wrapper` takes its place. -/
def splice (forest : Forest K) (container wrapper node : K) (items : List K) :
    Forest K where
  root := forest.root
  children := Function.update
    (Function.update forest.children container (some (items.replace wrapper node)))
    wrapper none
  parent := Function.update (Function.update forest.parent node (some container))
    wrapper none

theorem Linked.splice (linked : forest.Linked) {container wrapper node : K} {items : List K}
    (lists : forest.children container = some items)
    (up : forest.parent wrapper = some container)
    (single : forest.children wrapper = some [node]) (notRoot : ¬ forest.root wrapper) :
    (forest.splice container wrapper node items).Linked := by
  have upNode : forest.parent node = some wrapper :=
    linked.named single (List.mem_singleton_self node)
  have containerWrapper : container ≠ wrapper := by
    rintro rfl
    exact notRoot ((linked.grounded up).root_of_parent_self up)
  have nodeWrapper : node ≠ wrapper := by
    rintro rfl
    exact containerWrapper (Option.some.inj (up.symm.trans upNode))
  have absent : node ∉ items := by
    intro member
    exact containerWrapper (Option.some.inj ((linked.named lists member).symm.trans upNode))
  have members {item : K} : item ∈ items.replace wrapper node ↔
      item = node ∨ item ∈ items ∧ item ≠ wrapper :=
    mem_replace (linked.mem_of_lists up lists) (linked.once lists)
  have ofNode : (forest.splice container wrapper node items).parent node = some container :=
    update_none_iff.mpr ⟨nodeWrapper, Function.update_self ..⟩
  have others : ∀ child place, child ≠ wrapper → child ≠ node →
      forest.parent child = some place →
      (forest.splice container wrapper node items).parent child = some place :=
    fun _ _ notWrapper notNode old =>
      update_none_iff.mpr ⟨notWrapper, update_some_iff.mpr (Or.inr ⟨notNode, old⟩)⟩
  have onlyNode : ∀ child, forest.parent child = some wrapper → child = node := by
    intro child below
    exact List.mem_singleton.mp (linked.mem_of_lists below single)
  -- The way up skips the wrapper, so it goes on at the container.
  have lifted : ∀ place, forest.Grounded place →
      (place ≠ wrapper → (forest.splice container wrapper node items).Grounded place) ∧
      (place = wrapper → (forest.splice container wrapper node items).Grounded container) := by
    intro place grounded
    induction grounded with
    | @root place isRoot =>
        constructor
        · exact fun _ => .root isRoot
        · rintro rfl
          exact absurd isRoot notRoot
    | @under child place old _ ih =>
        constructor
        · intro notWrapper
          by_cases isNode : child = node
          · subst isNode
            obtain rfl : wrapper = place := Option.some.inj (upNode.symm.trans old)
            exact .under ofNode (ih.2 rfl)
          · apply Grounded.under (others _ _ notWrapper isNode old)
            apply ih.1
            rintro rfl
            exact isNode (onlyNode _ old)
        · rintro rfl
          obtain rfl : container = place := Option.some.inj (up.symm.trans old)
          exact ih.1 containerWrapper
  constructor
  · intro child place upNew
    obtain ⟨notWrapper, upNew⟩ := update_none_iff.mp upNew
    rcases update_some_iff.mp upNew with ⟨rfl, rfl⟩ | ⟨notNode, old⟩
    · exact ⟨items.replace wrapper child, update_none_iff.mpr
        ⟨containerWrapper, Function.update_self ..⟩, members.mpr (Or.inl rfl)⟩
    · have elsewhere : place ≠ wrapper := by
        rintro rfl
        exact notNode (onlyNode _ old)
      by_cases here : place = container
      · subst here
        exact ⟨items.replace wrapper node, update_none_iff.mpr
          ⟨elsewhere, Function.update_self ..⟩,
          members.mpr (Or.inr ⟨linked.mem_of_lists old lists, notWrapper⟩)⟩
      · obtain ⟨inside, listsOld, member⟩ := linked.listed old
        exact ⟨inside, update_none_iff.mpr ⟨elsewhere,
          update_some_iff.mpr (Or.inr ⟨here, listsOld⟩)⟩, member⟩
  · intro child place inside listsNew member
    obtain ⟨elsewhere, listsNew⟩ := update_none_iff.mp listsNew
    rcases update_some_iff.mp listsNew with ⟨rfl, rfl⟩ | ⟨here, listsOld⟩
    · rcases members.mp member with rfl | ⟨old, notWrapper⟩
      · exact ofNode
      · apply others _ _ notWrapper _ (linked.named lists old)
        rintro rfl
        exact absent old
    · have old := linked.named listsOld member
      apply others _ _ _ _ old
      · rintro rfl
        exact here (Option.some.inj (old.symm.trans up))
      · rintro rfl
        exact elsewhere (Option.some.inj (old.symm.trans upNode))
  · intro place inside listsNew
    obtain ⟨_, listsNew⟩ := update_none_iff.mp listsNew
    rcases update_some_iff.mp listsNew with ⟨rfl, rfl⟩ | ⟨_, listsOld⟩
    · exact nodup_replace absent (linked.once lists)
    · exact linked.once listsOld
  · intro child place upNew
    obtain ⟨notWrapper, upNew⟩ := update_none_iff.mp upNew
    rcases update_some_iff.mp upNew with ⟨rfl, rfl⟩ | ⟨notNode, old⟩
    · exact (lifted _ (linked.grounded up)).1 containerWrapper
    · apply (lifted _ (linked.grounded old)).1
      rintro rfl
      exact notNode (onlyNode _ old)

end Forest

end EternalTerminal.Library
