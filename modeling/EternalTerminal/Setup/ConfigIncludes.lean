/-
When the parser of ssh configuration files comes to an end.

`Include` opens a file while the files around it are still open, and nothing looks whether it is
one of them.  The lines that are read, and the files that they open, do not depend on the options.
-/

import EternalTerminal.Setup.ParseConfigFile

namespace EternalTerminal

open Library

/-- A line that is not an `Include`, or an `Include` whose pattern or directory is refused. -/
inductive ConfigAction where
  | set (opcode : SshConfigOpcode) (s : Bytes)
  | fail (fault : ConfigFault)

namespace ConfigReader

def lineItems (reader : ConfigReader) (line : Bytes) : List (Item ConfigAction Bytes) :=
  match directive line with
  | none => []
  | some (opcode, s) =>
      if opcode = .SOC_INCLUDE then
        match reader.includedFiles s with
        | .error fault => [.act (.fail fault)]
        | .ok files => files.map .visit
      else [.act (.set opcode s)]

def fileItems (reader : ConfigReader) (path : Bytes) : List (Item ConfigAction Bytes) :=
  match reader.files.contents path with
  | none => []
  | some contents => (fileLines contents).flatMap reader.lineItems

def performAction (reader : ConfigReader) (state : ConfigParse) :
    ConfigAction → Except ConfigFault ConfigParse
  | .set opcode s => reader.setKeyword state opcode s
  | .fail fault => .error fault

def Includes (reader : ConfigReader) (path included : Bytes) : Prop :=
  ∃ contents line s files, reader.files.contents path = some contents ∧
    line ∈ fileLines contents ∧ directive line = some (.SOC_INCLUDE, s) ∧
    reader.includedFiles s = .ok files ∧ included ∈ files

/-- The files come round: one that is reached is among the files that it includes. -/
def IncludesItself (reader : ConfigReader) (path : Bytes) : Prop :=
  ∃ again, Relation.ReflTransGen reader.Includes path again ∧
    Relation.TransGen reader.Includes again again

/-- The line stops the parser: a refused `Include`, or a `HostName` that counts and has a
%-sequence whose value is NULL. -/
inductive LineFaults (reader : ConfigReader) (state : ConfigParse) : ConfigAction → Prop
  | refused {fault : ConfigFault} : LineFaults reader state (.fail fault)
  | noValue {s p : Bytes} {fault : ConfigFault} :
      state.parsing = true → .SOC_HOSTNAME ∉ state.seen → (sshConfigGetStrTok s).1 = some p →
      sshPathExpandEscape reader.environment state.options p = .error fault →
      LineFaults reader state (.set .SOC_HOSTNAME s)

/-- Among the lines that are read down to some depth, the parser comes to one that stops it. -/
def FaultsAt (reader : ConfigReader) (options : Options) (path : Bytes) : Prop :=
  ∃ depth front action rest state,
    Inclusion.met (Inclusion.walk reader.fileItems depth path) = front ++ action :: rest ∧
      front.foldlM reader.performAction (initial options) = .ok state ∧
      reader.LineFaults state action

/-- The parser returns, throws or crashes. -/
def Terminates (reader : ConfigReader) (options : Options) (filename : Bytes) : Prop :=
  ∃ depth, reader.parseSshConfigFile depth options filename ≠ .error .tooDeep

section

variable {reader : ConfigReader} {options : Options} {filename path included line s : Bytes}
  {state : ConfigParse} {depth : Nat}
  {parseFile : ConfigParse → Bytes → Except (Halt ConfigFault) ConfigParse}

/-! ### The parser as a run -/

theorem parseLine_eq_foldlM :
    reader.sshConfigParseLine parseFile state line =
      (reader.lineItems line).foldlM (Inclusion.step reader.performAction parseFile) state := by
  unfold sshConfigParseLine lineItems
  cases directive line with
  | none => rfl
  | some word =>
      obtain ⟨opcode, s⟩ := word
      by_cases isInclude : opcode = .SOC_INCLUDE
      · simp only [isInclude, if_true]
        cases reader.includedFiles s with
        | error fault => rfl
        | ok files =>
            rw [List.foldlM_map]
            rfl
      · simp only [isInclude, if_false]
        exact (bind_pure _).symm

theorem parseLines_eq_foldlM (lines : List Bytes) :
    lines.foldlM (reader.sshConfigParseLine parseFile) state =
      (lines.flatMap reader.lineItems).foldlM (Inclusion.step reader.performAction parseFile)
        state := by
  induction lines generalizing state with
  | nil => rfl
  | cons line rest ih =>
      rw [List.foldlM_cons, List.flatMap_cons, List.foldlM_append, ← parseLine_eq_foldlM]
      exact bind_congr fun between => ih

theorem localParseFile_eq_run :
    reader.localParseFile depth state path =
      Inclusion.run reader.fileItems reader.performAction depth state path := by
  induction depth generalizing state path with
  | zero => rfl
  | succ depth ih =>
      have inner : reader.localParseFile depth =
          Inclusion.run reader.fileItems reader.performAction depth := by
        funext state path
        exact ih
      rw [localParseFile, Inclusion.run, fileItems]
      cases reader.files.contents path with
      | none => rfl
      | some contents =>
          rw [← inner]
          exact parseLines_eq_foldlM (fileLines contents)

/-- The file that is parsed first is read as the files that it includes. -/
theorem parseSshConfigFile_eq (expanded :
    sshPathExpandTilde reader.environment filename = some path) :
    reader.parseSshConfigFile depth options filename =
      (reader.localParseFile (depth + 1) (initial options) path).map ConfigParse.options := by
  rw [parseSshConfigFile, localParseFile, expanded]
  cases opened : reader.files.contents path with
  | none =>
      simp only [opened]
      rfl
  | some contents => simp only [opened]

/-! ### Which files are opened -/

theorem visit_mem_lineItems_iff : Item.visit included ∈ reader.lineItems line ↔
    ∃ s files, directive line = some (.SOC_INCLUDE, s) ∧ reader.includedFiles s = .ok files ∧
      included ∈ files := by
  unfold lineItems
  cases directive line with
  | none => simp
  | some word =>
      obtain ⟨opcode, s⟩ := word
      by_cases isInclude : opcode = .SOC_INCLUDE
      · cases listed : reader.includedFiles s with
        | error fault => simp [isInclude, listed]
        | ok files => simp [isInclude, listed]
      · simp [isInclude]

theorem visits_iff : Inclusion.Visits reader.fileItems path included ↔
    reader.Includes path included := by
  unfold Inclusion.Visits Includes fileItems
  cases opened : reader.files.contents path with
  | none => simp
  | some contents =>
      simp only [List.mem_flatMap, visit_mem_lineItems_iff, Option.some.injEq]
      constructor
      · intro ⟨line, isLine, s, files, isInclude, listed, isFile⟩
        exact ⟨contents, line, s, files, rfl, isLine, isInclude, listed, isFile⟩
      · intro ⟨_, line, s, files, same, isLine, isInclude, listed, isFile⟩
        subst same
        exact ⟨line, isLine, s, files, isInclude, listed, isFile⟩

theorem visits_eq : Inclusion.Visits reader.fileItems = reader.Includes := by
  funext path included
  exact propext visits_iff

theorem finite_includes : {path | ∃ included, reader.Includes path included}.Finite := by
  apply reader.files.finite.subset
  intro path ⟨included, contents, line, s, files, opened, _⟩ missing
  rw [missing] at opened
  cases opened

/-! ### When the parser ends -/

theorem terminates_iff_run (expanded :
    sshPathExpandTilde reader.environment filename = some path) :
    reader.Terminates options filename ↔
      ∃ depth, Inclusion.run reader.fileItems reader.performAction depth (initial options) path ≠
        .error .tooDeep := by
  have tooDeep_iff : ∀ result : Except (Halt ConfigFault) ConfigParse,
      result.map ConfigParse.options = .error .tooDeep ↔ result = .error .tooDeep := by
    intro result
    cases result with
    | ok state => simp [Except.map]
    | error halt => simp [Except.map]
  unfold Terminates
  constructor
  · intro ⟨depth, ends⟩
    rw [parseSshConfigFile_eq expanded, ne_eq, tooDeep_iff, localParseFile_eq_run] at ends
    exact ⟨depth + 1, ends⟩
  · intro ⟨depth, ends⟩
    refine ⟨depth, ?_⟩
    rw [parseSshConfigFile_eq expanded, ne_eq, tooDeep_iff, localParseFile_eq_run,
      Inclusion.run_succ ends]
    exact ends

theorem setOption_error_iff {options : Options} {opcode : SshConfigOpcode} {fault : ConfigFault} :
    reader.setOption options opcode s = .error fault ↔
      opcode = .SOC_HOSTNAME ∧ ∃ p, (sshConfigGetStrTok s).1 = some p ∧
        sshPathExpandEscape reader.environment options p = .error fault := by
  cases opcode with
  | SOC_HOSTNAME =>
      cases named : (sshConfigGetStrTok s).1 with
      | none => simp [setOption, named]
      | some p =>
          cases expanded : sshPathExpandEscape reader.environment options p with
          | error other => simp [setOption, named, expanded, Except.map]
          | ok z => simp [setOption, named, expanded, Except.map]
  | SOC_LOCALFORWARD =>
      cases named : (sshConfigGetStrTok s).1 with
      | none => simp [setOption, named]
      | some p =>
          cases remote : (sshConfigGetStrTok (sshConfigGetStrTok s).2).1 with
          | none => simp [setOption, named, remote]
          | some remote => simp [setOption, named, remote]
  | _ => simp [setOption]

theorem performAction_error_iff {action : ConfigAction} :
    (∃ fault, reader.performAction state action = .error fault) ↔
      reader.LineFaults state action := by
  cases action with
  | fail fault => exact iff_of_true ⟨fault, rfl⟩ .refused
  | set opcode s =>
      rw [performAction, setKeyword]
      constructor
      · rintro ⟨fault, fails⟩
        by_cases isHost : opcode = .SOC_HOST
        · rw [if_pos isHost] at fails
          cases fails
        rw [if_neg isHost] at fails
        by_cases parsing : state.parsing = true
        · rw [if_pos parsing] at fails
          by_cases seen : opcode.onlyOnce = true ∧ opcode ∈ state.seen
          · rw [if_pos seen] at fails
            cases fails
          rw [if_neg seen] at fails
          cases set : reader.setOption state.options opcode s with
          | ok options =>
              rw [set] at fails
              cases fails
          | error other =>
              obtain ⟨rfl, p, named, expanded⟩ := setOption_error_iff.mp set
              exact .noValue parsing (fun isSeen => seen ⟨rfl, isSeen⟩) named expanded
        · rw [if_neg parsing] at fails
          cases fails
      · intro faults
        cases faults with
        | @noValue _ p fault parsing unseen named expanded =>
            have set : reader.setOption state.options .SOC_HOSTNAME s = .error fault :=
              setOption_error_iff.mpr ⟨rfl, p, named, expanded⟩
            refine ⟨fault, ?_⟩
            rw [if_neg (by decide), if_pos parsing, if_neg fun seen => unseen seen.2, set]
            rfl

theorem faultsAt_iff : reader.FaultsAt options path ↔
    ∃ depth fault, (Inclusion.met (Inclusion.walk reader.fileItems depth path)).foldlM
      reader.performAction (initial options) = .error fault := by
  simp only [Inclusion.foldlM_error_iff, performAction_error_iff, FaultsAt]

/-- The parser comes to an end unless the files that it opens come round, and then only if a
line before that stops it. -/
theorem config_parsing_terminates_iff (reader : ConfigReader) (options : Options)
    (filename : Bytes) :
    reader.Terminates options filename ↔
      ∀ path, sshPathExpandTilde reader.environment filename = some path →
        ¬ reader.IncludesItself path ∨ reader.FaultsAt options path := by
  cases expanded : sshPathExpandTilde reader.environment filename with
  | none =>
      have returns : reader.parseSshConfigFile 0 options filename = .ok options := by
        rw [parseSshConfigFile, expanded]
      constructor
      · intro _ path impossible
        cases impossible
      · intro _
        exact ⟨0, by rw [returns]; exact fun impossible => by cases impossible⟩
  | some path =>
      have acyclic : Acc (fun child parent => reader.Includes parent child) path ↔
          ¬ reader.IncludesItself path := acc_iff_no_cycle finite_includes
      rw [terminates_iff_run expanded, Inclusion.run_ends_iff, visits_eq, acyclic, ← faultsAt_iff]
      constructor
      · intro holds other same
        cases same
        exact holds
      · intro holds
        exact holds path rfl

end

def selfIncluding : ConfigReader :=
  { environment :=
      { sshGetUserHomeDir := none
        getpwnam := fun _ => none
        sshGetLocalUsername := none
        hostBuffer := none }
    files :=
      { contents := fun path => if path = ascii "a" then some (ascii "Include a") else none
        finite := (Set.finite_singleton (ascii "a")).subset fun path opens => by
          by_contra other
          exact opens (if_neg other)
        parentPath := fun _ => []
        filename := id
        directoryIterator := fun _ => none
        regex := fun _ => none }
    targethost := ascii "host" }

theorem config_parsing_not_terminates :
    ¬ selfIncluding.Terminates Options.zero (ascii "a") := by
  have included : directive (ascii "Include a") = some (.SOC_INCLUDE, ascii "a") := by
    rw [directive]
    decide
  have enters : ∀ depth state,
      selfIncluding.localParseFile depth state (ascii "a") = .error .tooDeep := by
    intro depth
    induction depth with
    | zero => exact fun state => rfl
    | succ depth ih =>
        intro state
        have opened : selfIncluding.files.contents (ascii "a") = some (ascii "Include a") := rfl
        have lines : fileLines (ascii "Include a") = [ascii "Include a"] := by decide
        have named : selfIncluding.includedFiles (ascii "a") = .ok [ascii "a"] := rfl
        rw [localParseFile, opened]
        simp only [lines, List.foldlM_cons, sshConfigParseLine, included, if_true, named, ih]
        rfl
  have expanded : sshPathExpandTilde selfIncluding.environment (ascii "a") = some (ascii "a") := rfl
  intro ⟨depth, ends⟩
  apply ends
  rw [parseSshConfigFile_eq expanded, enters]
  rfl

end ConfigReader

end EternalTerminal
