/-
The variables that `runTerminal` sends to the terminal and that `UserTerminalHandler::run` sets
before it starts the shell.
-/

import Mathlib.Data.List.TakeWhile
import EternalTerminal.Terminal.PacketPipe
import EternalTerminal.Terminal.SessionEnds

namespace EternalTerminal

open Library

def TERMINAL_INIT : UInt8 := 9

structure TermInit where
  environmentnames : List Bytes
  environmentvalues : List Bytes
  deriving DecidableEq

namespace TermInit

def fields (termInit : TermInit) : List WireField :=
  termInit.environmentnames.map (bytesField 1) ++ termInit.environmentvalues.map (bytesField 2)

def ofFields (fields : List WireField) : TermInit :=
  { environmentnames := fields.filterMap (bytesValue 1)
    environmentvalues := fields.filterMap (bytesValue 2) }

theorem bytesValue_same (number : Nat) (contents : List Bytes) :
    (contents.map (bytesField number)).filterMap (bytesValue number) = contents := by
  have selected : bytesValue number ∘ bytesField number = some :=
    funext (bytesValue_bytesField number)
  rw [List.filterMap_map, selected, List.filterMap_some]

theorem bytesValue_other {number other : Nat} (different : other ≠ number)
    (contents : List Bytes) :
    (contents.map (bytesField other)).filterMap (bytesValue number) = [] := by
  rw [List.filterMap_map, List.filterMap_eq_nil_iff]
  intro content _
  simp [bytesValue, bytesField, different]

theorem ofFields_fields (termInit : TermInit) : ofFields termInit.fields = termInit := by
  obtain ⟨names, values⟩ := termInit
  simp only [ofFields, fields, List.filterMap_append, bytesValue_same,
    bytesValue_other (show 2 ≠ 1 by decide), bytesValue_other (show 1 ≠ 2 by decide),
    List.append_nil, List.nil_append]

theorem fields_valid (termInit : TermInit) :
    ∀ field ∈ termInit.fields, field.value.Valid := by
  intro field member
  simp only [fields, List.mem_append, List.mem_map] at member
  rcases member with ⟨content, _, rfl⟩ | ⟨content, _, rfl⟩
  · exact bytesField_valid 1 content
  · exact bytesField_valid 2 content

def ofPairs (pairs : List (Bytes × Bytes)) : TermInit :=
  { environmentnames := pairs.map Prod.fst
    environmentvalues := pairs.map Prod.snd }

end TermInit

def termInit : ProtoMessage TermInit :=
  messageOfFields TermInit.fields TermInit.ofFields TermInit.fields_valid
    TermInit.ofFields_fields

def termInitPacket (message : TermInit) : Packet :=
  Packet.plain TERMINAL_INIT (termInit.serialize message)

/-! ### The map -/

/-- The order in which a `map` with these entries is walked. -/
structure Enumerates (environmentVariables : Bytes → Option Bytes)
    (pairs : List (Bytes × Bytes)) : Prop where
  sorted : pairs.Pairwise (fun first second => first.1 < second.1)
  entries : ∀ name value, (name, value) ∈ pairs ↔ environmentVariables name = some value

/-! ### The shell's environment -/

/-- "=" -/
def equalsSign : UInt8 := 61

/-- `setenv` with `overwrite`; a name that it refuses is left out. -/
def setenv (environment : Bytes → Option Bytes) (name value : Bytes) : Bytes → Option Bytes :=
  if cString name = [] ∨ equalsSign ∈ cString name then environment
  else Function.update environment (cString name) (some (cString value))

/-- The loop of `run` over the names; a value that is missing would abort. -/
def setVariables (environment : Bytes → Option Bytes) (message : TermInit) :
    Bytes → Option Bytes :=
  (message.environmentnames.zip message.environmentvalues).foldl
    (fun environment entry => setenv environment entry.1 entry.2) environment

theorem TermInit.zip_ofPairs (pairs : List (Bytes × Bytes)) :
    (ofPairs pairs).environmentnames.zip (ofPairs pairs).environmentvalues = pairs := by
  induction pairs with
  | nil => rfl
  | cons pair rest ih => exact congrArg (pair :: ·) ih

theorem setVariables_ofPairs (environment : Bytes → Option Bytes)
    (pairs : List (Bytes × Bytes)) :
    setVariables environment (.ofPairs pairs) =
      pairs.foldl (fun environment entry => setenv environment entry.1 entry.2) environment := by
  rw [setVariables, TermInit.zip_ofPairs]

/-- A name that `setenv` takes as it is. -/
structure IsName (name : Bytes) : Prop where
  some : name ≠ []
  whole : 0 ∉ name
  plain : equalsSign ∉ name

theorem cString_of_whole {bytes : Bytes} (whole : 0 ∉ bytes) : cString bytes = bytes := by
  apply List.takeWhile_eq_self_iff.mpr
  intro byte member
  have different : byte ≠ 0 := fun isZero => whole (isZero ▸ member)
  exact bne_iff_ne.mpr different

section

variable {environment : Bytes → Option Bytes} {name other value : Bytes}
  {pairs : List (Bytes × Bytes)}

theorem setenv_same (isName : IsName name) :
    setenv environment name value name = some (cString value) := by
  rw [setenv, cString_of_whole isName.whole, if_neg (not_or.mpr ⟨isName.some, isName.plain⟩)]
  exact Function.update_self ..

theorem setenv_other (different : cString other ≠ name) :
    setenv environment other value name = environment name := by
  unfold setenv
  split
  · rfl
  · exact Function.update_of_ne (fun same => different same.symm) _ _

theorem setenv_others (absent : ∀ entry ∈ pairs, cString entry.1 ≠ name) :
    pairs.foldl (fun environment entry => setenv environment entry.1 entry.2) environment name =
      environment name := by
  induction pairs generalizing environment with
  | nil => rfl
  | cons entry rest ih =>
      have first := absent entry List.mem_cons_self
      rw [List.foldl_cons, ih fun other member => absent other (List.mem_cons_of_mem _ member),
        setenv_other first]

theorem setenv_entry (isName : IsName name) (member : (name, value) ∈ pairs)
    (sorted : pairs.Pairwise (fun first second => first.1 < second.1))
    (whole : ∀ entry ∈ pairs, 0 ∉ entry.1) :
    pairs.foldl (fun environment entry => setenv environment entry.1 entry.2) environment name =
      some (cString value) := by
  induction pairs generalizing environment with
  | nil => cases member
  | cons entry rest ih =>
      obtain ⟨later, sortedRest⟩ := List.pairwise_cons.mp sorted
      rw [List.foldl_cons]
      rcases List.mem_cons.mp member with isFirst | inRest
      · subst isFirst
        rw [setenv_others, setenv_same isName]
        intro other inRest same
        rw [cString_of_whole (whole other (List.mem_cons_of_mem _ inRest))] at same
        have above : name < other.1 := later other inRest
        rw [same] at above
        exact List.lt_irrefl _ above
      · exact ih inRest sortedRest fun other inRest => whole other (List.mem_cons_of_mem _ inRest)

end

theorem setVariables_enumerated {environmentVariables environment : Bytes → Option Bytes}
    {pairs : List (Bytes × Bytes)} (enumerates : Enumerates environmentVariables pairs)
    (whole : ∀ name value, environmentVariables name = some value → 0 ∉ name) {name : Bytes}
    (isName : IsName name) :
    setVariables environment (.ofPairs pairs) name =
      ((environmentVariables name).map cString).or (environment name) := by
  have entries : ∀ entry ∈ pairs, 0 ∉ entry.1 := by
    intro entry member
    exact whole entry.1 entry.2 ((enumerates.entries entry.1 entry.2).mp member)
  rw [setVariables_ofPairs]
  cases found : environmentVariables name with
  | some value =>
      have member := (enumerates.entries name value).mpr found
      exact setenv_entry isName member enumerates.sorted entries
  | none =>
      apply setenv_others
      intro entry member same
      rw [cString_of_whole (entries entry member)] at same
      have isEntry := (enumerates.entries entry.1 entry.2).mp member
      rw [same, found] at isEntry
      cases isEntry

end EternalTerminal
