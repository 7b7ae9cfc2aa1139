/-
Steps that write values under keys, and when the first value that is written stays.

A step may fail.  What it writes depends on the state in which it is taken; the other keys keep
their values.
-/

import Mathlib.Tactic.Common

namespace EternalTerminal.Library

structure Writer (State Item Key Value Fault : Type) where
  step : State → Item → Except Fault State
  value : State → Key → Value
  written : State → Item → Key → Option Value
  value_step {state after : State} {item : Item} (key : Key) :
    step state item = .ok after → value after key = (written state item key).getD (value state key)

namespace Writer

variable {State Item Key Value Fault : Type} (writer : Writer State Item Key Value Fault)

/-- The values that the steps write under a key, in their order. -/
def given (key : Key) : List Item → State → List Value
  | [], _ => []
  | item :: rest, state =>
      (writer.written state item key).toList ++
        match writer.step state item with
        | .ok after => given key rest after
        | .error _ => []

/-- A suspect step that writes under a key that is held, or that a step before it has written
under, writes the value that is there. -/
def Keeps (suspect : Item → Prop) (held : Key → Prop) : List Item → State → Prop
  | [], _ => True
  | item :: rest, state =>
      (∀ key value, suspect item → writer.written state item key = some value → held key →
        value = writer.value state key) ∧
      ∀ after, writer.step state item = .ok after →
        Keeps suspect (fun key => held key ∨ writer.written state item key ≠ none) rest after

section

variable {writer} {state between after : State} {item : Item} {rest items : List Item} {key : Key}
  {value : Value} {suspect : Item → Prop} {held : Key → Prop}

theorem given_cons (stepped : writer.step state item = .ok between) :
    writer.given key (item :: rest) state =
      (writer.written state item key).toList ++ writer.given key rest between := by
  rw [given, stepped]

theorem foldlM_cons_ok (done : (item :: rest).foldlM writer.step state = .ok after) :
    ∃ between, writer.step state item = .ok between ∧
      rest.foldlM writer.step between = .ok after := by
  rw [List.foldlM_cons] at done
  cases stepped : writer.step state item with
  | error fault =>
      rw [stepped] at done
      cases done
  | ok between =>
      rw [stepped] at done
      exact ⟨between, rfl, done⟩

theorem given_cons_ne_nil_iff (stepped : writer.step state item = .ok between) :
    writer.given key (item :: rest) state ≠ [] ↔
      writer.written state item key ≠ none ∨ writer.given key rest between ≠ [] := by
  rw [given_cons stepped, ne_eq, List.append_eq_nil_iff, not_and_or]
  cases writer.written state item key with
  | none => simp
  | some value => simp

theorem keeps_iff : writer.Keeps suspect held items state ↔
    ∀ front item rest before key value, items = front ++ item :: rest →
      front.foldlM writer.step state = .ok before → suspect item →
      writer.written before item key = some value →
      (held key ∨ writer.given key front state ≠ []) → value = writer.value before key := by
  induction items generalizing state held with
  | nil =>
      refine iff_of_true trivial ?_
      intro front item rest before key value isNil
      exact absurd isNil.symm (List.append_ne_nil_of_right_ne_nil front (List.cons_ne_nil _ _))
  | cons first others ih =>
      constructor
      · rintro ⟨here, later⟩ front item rest before key value isFront ran watched wrote isHeld
        cases front with
        | nil =>
            cases isFront
            cases ran
            exact here key value watched wrote (isHeld.resolve_right fun given => given rfl)
        | cons _ front =>
            cases isFront
            obtain ⟨between, stepped, ran⟩ := foldlM_cons_ok ran
            rw [given_cons_ne_nil_iff stepped, ← or_assoc] at isHeld
            exact ih.mp (later between stepped) front item rest before key value rfl ran watched
              wrote isHeld
      · intro holds
        constructor
        · intro key value watched wrote isHeld
          exact holds [] first others state key value rfl rfl watched wrote (Or.inl isHeld)
        · intro between stepped
          apply ih.mpr
          intro front item rest before key value isFront ran watched wrote isHeld
          subst isFront
          rw [or_assoc, ← given_cons_ne_nil_iff stepped] at isHeld
          refine holds (first :: front) item rest before key value rfl ?_ watched wrote isHeld
          rw [List.foldlM_cons, stepped]
          exact ran

theorem value_foldlM (done : items.foldlM writer.step state = .ok after) (key : Key) :
    writer.value after key =
      (writer.given key items state).getLast?.getD (writer.value state key) := by
  induction items generalizing state with
  | nil =>
      cases done
      rfl
  | cons item rest ih =>
      obtain ⟨between, stepped, later⟩ := foldlM_cons_ok done
      rw [given_cons stepped, ih later, writer.value_step key stepped, List.getLast?_append]
      cases (writer.given key rest between).getLast? with
      | some value => rfl
      | none =>
          cases writer.written state item key with
          | some value => rfl
          | none => rfl

theorem exists_written_of_mem_given (isGiven : value ∈ writer.given key items state) :
    ∃ before, ∃ item ∈ items, writer.written before item key = some value := by
  induction items generalizing state with
  | nil => cases isGiven
  | cons item rest ih =>
      rw [given] at isGiven
      rcases List.mem_append.mp isGiven with here | later
      · exact ⟨state, item, List.mem_cons_self, Option.mem_toList.mp here⟩
      · cases stepped : writer.step state item with
        | ok between =>
            rw [stepped] at later
            obtain ⟨before, other, isLater, wrote⟩ := ih later
            exact ⟨before, other, List.mem_cons_of_mem item isLater, wrote⟩
        | error fault =>
            rw [stepped] at later
            cases later

theorem length_given_le (left : State → Key → Nat)
    (some_left : ∀ state item key, writer.written state item key ≠ none → 0 < left state key)
    (uses : ∀ state item after key, writer.step state item = .ok after →
      left after key + (writer.written state item key).toList.length ≤ left state key) :
    (writer.given key items state).length ≤ left state key := by
  induction items generalizing state with
  | nil => exact Nat.zero_le _
  | cons item rest ih =>
      cases stepped : writer.step state item with
      | ok between =>
          have used := uses state item between key stepped
          have later : (writer.given key rest between).length ≤ left between key := ih
          rw [given_cons stepped, List.length_append]
          omega
      | error fault =>
          rw [given, stepped, List.append_nil]
          cases wrote : writer.written state item key with
          | none => exact Nat.zero_le _
          | some value => exact some_left state item key (by simp [wrote])

/-- If no step changes what is held or written, held keys keep their value and the first value
that is written stays. -/
theorem Keeps.stays (keeps : writer.Keeps (fun _ => True) held items state)
    (done : items.foldlM writer.step state = .ok after) :
    (∀ key, held key → writer.value after key = writer.value state key) ∧
      ∀ key value, (writer.given key items state).head? = some value →
        writer.value after key = value := by
  induction items generalizing state held with
  | nil =>
      cases done
      refine ⟨fun _ _ => rfl, ?_⟩
      intro key value impossible
      cases impossible
  | cons item rest ih =>
      obtain ⟨between, stepped, later⟩ := foldlM_cons_ok done
      obtain ⟨same, keepsLater⟩ := keeps
      obtain ⟨stays, first⟩ := ih (keepsLater between stepped) later
      constructor
      · intro key isHeld
        rw [stays key (Or.inl isHeld), writer.value_step key stepped]
        cases wrote : writer.written state item key with
        | none => rfl
        | some value => exact same key value trivial wrote isHeld
      · intro key value isFirst
        rw [given_cons stepped] at isFirst
        cases wrote : writer.written state item key with
        | none =>
            rw [wrote] at isFirst
            exact first key value isFirst
        | some own =>
            rw [wrote] at isFirst
            cases isFirst
            rw [stays key (Or.inr (by simp [wrote])), writer.value_step key stepped, wrote]
            rfl

/-- The converse, where a key is written at most twice. -/
theorem keeps_of_stays (twice : ∀ key, (writer.given key items state).length ≤ 2)
    (done : items.foldlM writer.step state = .ok after)
    (stays : ∀ key, held key → writer.value after key = writer.value state key)
    (first : ∀ key value, (writer.given key items state).head? = some value →
      writer.value after key = value) : writer.Keeps (fun _ => True) held items state := by
  induction items generalizing state held with
  | nil => trivial
  | cons item rest ih =>
      obtain ⟨between, stepped, later⟩ := foldlM_cons_ok done
      have firstHere : ∀ key value, writer.written state item key = some value →
          writer.value after key = value ∧ writer.value between key = value := by
        intro key value wrote
        constructor
        · exact first key value (by rw [given_cons stepped, wrote]; rfl)
        · rw [writer.value_step key stepped, wrote]
          rfl
      have unwritten : ∀ key, writer.written state item key = none →
          writer.value between key = writer.value state key := by
        intro key none
        rw [writer.value_step key stepped, none]
        rfl
      constructor
      · intro key value _ wrote isHeld
        rw [← (firstHere key value wrote).1, stays key isHeld]
      · intro other otherStep
        cases stepped.symm.trans otherStep
        apply ih _ later
        · intro key isHeld
          cases wrote : writer.written state item key with
          | some value => rw [(firstHere key value wrote).1, (firstHere key value wrote).2]
          | none =>
              rw [unwritten key wrote]
              exact stays key (isHeld.resolve_right (by simp [wrote]))
        · intro key value isFirst
          cases wrote : writer.written state item key with
          | none => exact first key value (by rw [given_cons stepped, wrote]; exact isFirst)
          | some own =>
              -- the second write under this key is the last
              have short := twice key
              rw [given_cons stepped, wrote] at short
              have single : writer.given key rest between = [value] := by
                cases more : writer.given key rest between with
                | nil =>
                    rw [more] at isFirst
                    cases isFirst
                | cons head tail =>
                    rw [more] at isFirst short
                    cases isFirst
                    cases tail with
                    | nil => rfl
                    | cons next others => simp at short
              rw [value_foldlM later key, single]
              rfl
        · intro key
          have short := twice key
          rw [given_cons stepped, List.length_append] at short
          omega

/-- Steps that write only where the value counts as unset need no watching: a key that is
held or written has a value that is set. -/
theorem keeps_iff_of_guarded {unset : Key → Value → Prop}
    (guarded : ∀ state item key value, ¬ suspect item →
      writer.written state item key = some value → unset key (writer.value state key))
    (sets : ∀ state item key value, writer.written state item key = some value →
      ¬ unset key value)
    (isSet : ∀ key, held key → ¬ unset key (writer.value state key)) :
    writer.Keeps (fun _ => True) held items state ↔ writer.Keeps suspect held items state := by
  induction items generalizing state held with
  | nil => exact Iff.rfl
  | cons item rest ih =>
      have isSetLater : ∀ between, writer.step state item = .ok between →
          ∀ key, (held key ∨ writer.written state item key ≠ none) →
            ¬ unset key (writer.value between key) := by
        intro between stepped key holds
        rw [writer.value_step key stepped]
        cases wrote : writer.written state item key with
        | some value => exact sets state item key value wrote
        | none => exact isSet key (holds.resolve_right (by simp [wrote]))
      constructor
      · intro ⟨same, later⟩
        refine ⟨fun key value _ wrote isHeld => same key value trivial wrote isHeld, ?_⟩
        intro between stepped
        exact (ih (isSetLater between stepped)).mp (later between stepped)
      · intro ⟨same, later⟩
        constructor
        · intro key value _ wrote isHeld
          by_cases watched : suspect item
          · exact same key value watched wrote isHeld
          · exact absurd (guarded state item key value watched wrote) (isSet key isHeld)
        · intro between stepped
          exact (ih (isSetLater between stepped)).mpr (later between stepped)

theorem not_unset_of_given {unset : Key → Value → Prop}
    (sets : ∀ state item key value, writer.written state item key = some value →
      ¬ unset key value)
    (done : items.foldlM writer.step state = .ok after)
    (isGiven : writer.given key items state ≠ []) :
    ¬ unset key (writer.value after key) := by
  obtain ⟨before, item, _, wrote⟩ := exists_written_of_mem_given (List.getLast_mem isGiven)
  rw [value_foldlM done, List.getLast?_eq_some_getLast isGiven]
  exact sets before item key _ wrote

/-- The first write stays if and only if no suspect step writes another value. -/
theorem stays_iff {unset : Key → Value → Prop}
    (guarded : ∀ state item key value, ¬ suspect item →
      writer.written state item key = some value → unset key (writer.value state key))
    (sets : ∀ state item key value, writer.written state item key = some value →
      ¬ unset key value)
    (isSet : ∀ key, held key → ¬ unset key (writer.value state key))
    (twice : ∀ key, (writer.given key items state).length ≤ 2)
    (done : items.foldlM writer.step state = .ok after) :
    ((∀ key, held key → writer.value after key = writer.value state key) ∧
        ∀ key value, (writer.given key items state).head? = some value →
          writer.value after key = value) ↔
      writer.Keeps suspect held items state := by
  rw [← keeps_iff_of_guarded guarded sets isSet]
  constructor
  · intro ⟨stays, first⟩
    exact keeps_of_stays twice done stays first
  · exact fun keeps => keeps.stays done

end

end Writer

end EternalTerminal.Library
