/-
Calls on handles that are opened, used and closed, and whose values come back after they have
been closed.
-/

import Mathlib.Data.Set.Insert
import Mathlib.Tactic.Common

namespace EternalTerminal.Library

inductive HandleCall (Handle : Type) where
  | opened (handle : Handle)
  | used (handle : Handle)
  | closed (handle : Handle)

namespace HandleCall

variable {Handle : Type}

def map {Other : Type} (name : Handle → Other) : HandleCall Handle → HandleCall Other
  | opened handle => opened (name handle)
  | used handle => used (name handle)
  | closed handle => closed (name handle)

def Needs (handle : Handle) : HandleCall Handle → Prop
  | opened _ => False
  | used other => other = handle
  | closed other => other = handle

/-- The calls lead from these open handles to those: what is opened was not open, and what is
used or closed was. -/
inductive Leads : Set Handle → List (HandleCall Handle) → Set Handle → Prop
  | nil (handles : Set Handle) : Leads handles [] handles
  | opened {handles after : Set Handle} {handle : Handle} {calls : List (HandleCall Handle)} :
      handle ∉ handles → Leads (insert handle handles) calls after →
      Leads handles (.opened handle :: calls) after
  | used {handles after : Set Handle} {handle : Handle} {calls : List (HandleCall Handle)} :
      handle ∈ handles → Leads handles calls after →
      Leads handles (.used handle :: calls) after
  | closed {handles after : Set Handle} {handle : Handle} {calls : List (HandleCall Handle)} :
      handle ∈ handles → Leads (handles \ {handle}) calls after →
      Leads handles (.closed handle :: calls) after

variable {handles after : Set Handle} {handle : Handle}
  {calls first second : List (HandleCall Handle)}

theorem Leads.append {between : Set Handle} (leads : Leads handles first between)
    (rest : Leads between second after) : Leads handles (first ++ second) after := by
  induction leads with
  | nil => exact rest
  | opened fresh _ ih => exact .opened fresh (ih rest)
  | used isOpen _ ih => exact .used isOpen (ih rest)
  | closed isOpen _ ih => exact .closed isOpen (ih rest)

theorem Leads.split (leads : Leads handles (first ++ second) after) :
    ∃ between, Leads handles first between ∧ Leads between second after := by
  induction first generalizing handles with
  | nil => exact ⟨handles, .nil handles, leads⟩
  | cons call rest ih =>
      cases leads with
      | opened fresh later =>
          obtain ⟨between, begins, ends⟩ := ih later
          exact ⟨between, .opened fresh begins, ends⟩
      | used isOpen later =>
          obtain ⟨between, begins, ends⟩ := ih later
          exact ⟨between, .used isOpen begins, ends⟩
      | closed isOpen later =>
          obtain ⟨between, begins, ends⟩ := ih later
          exact ⟨between, .closed isOpen begins, ends⟩

theorem Leads.opened_one (fresh : handle ∉ handles) :
    Leads handles [.opened handle] (insert handle handles) :=
  .opened fresh (.nil _)

theorem Leads.used_one (isOpen : handle ∈ handles) : Leads handles [.used handle] handles :=
  .used isOpen (.nil _)

theorem Leads.closed_one (isOpen : handle ∈ handles) :
    Leads handles [.closed handle] (handles \ {handle}) :=
  .closed isOpen (.nil _)

theorem Leads.needs_open {call : HandleCall Handle} (leads : Leads handles (call :: calls) after)
    (needs : call.Needs handle) : handle ∈ handles := by
  cases leads with
  | opened _ _ => exact needs.elim
  | used isOpen _ => exact needs ▸ isOpen
  | closed isOpen _ => exact needs ▸ isOpen

/-- A handle that is not open stays so until it is opened. -/
theorem Leads.still_closed (leads : Leads handles calls after) (isClosed : handle ∉ handles)
    (unopened : .opened handle ∉ calls) : handle ∉ after := by
  induction leads with
  | nil => exact isClosed
  | @opened _ _ other _ _ _ ih =>
      have different := List.ne_of_not_mem_cons unopened
      refine ih ?_ (List.not_mem_of_not_mem_cons unopened)
      intro isOpen
      rcases isOpen with same | old
      · exact different (congrArg HandleCall.opened same)
      · exact isClosed old
  | used _ _ ih => exact ih isClosed (List.not_mem_of_not_mem_cons unopened)
  | closed _ _ ih =>
      exact ih (fun still => isClosed still.1) (List.not_mem_of_not_mem_cons unopened)

/-- After a handle has been closed, it is opened again before it is used or closed. -/
theorem Leads.reopened {before between later : List (HandleCall Handle)}
    {call : HandleCall Handle} (needs : call.Needs handle)
    (leads : Leads handles (before ++ .closed handle :: (between ++ call :: later)) after) :
    .opened handle ∈ between := by
  obtain ⟨atClose, _, closing⟩ := leads.split
  cases closing with
  | closed _ rest =>
      obtain ⟨atCall, passes, calling⟩ := rest.split
      by_contra unopened
      have isClosed : handle ∉ atClose \ {handle} := fun still => still.2 rfl
      exact passes.still_closed isClosed unopened (calling.needs_open needs)

end HandleCall

end EternalTerminal.Library
