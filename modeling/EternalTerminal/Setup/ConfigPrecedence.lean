/-
Which of two ssh configuration files sets an option, and which line of one file.

The client reads the user's file and then the system's into the same options.  A keyword counts
once in a file.
-/

import EternalTerminal.Library.FirstWrite
import EternalTerminal.Setup.ConfigValues

namespace EternalTerminal

open Library

/-! ### Lines as writes -/

def ConfigOption.opcodes : ConfigOption → List SshConfigOpcode
  | .hostName => [.SOC_HOSTNAME]
  | .user => [.SOC_USERNAME, .SOC_HOSTNAME]
  | .port => [.SOC_PORT]
  | .proxyJump => [.SOC_PROXYJUMP]
  | .forwardAgent => [.SOC_FORWARDAGENT]
  | .identityAgent => [.SOC_IDENTITYAGENT]
  | .proxyCommand => [.SOC_PROXYCOMMAND]

namespace ConfigReader

/-- `ssh_config_parse_line` on a line that is no `Include`. -/
def setLine (reader : ConfigReader) (state : ConfigParse) (line : Bytes) :
    Except ConfigFault ConfigParse :=
  match directive line with
  | none => .ok state
  | some (opcode, s) => reader.setKeyword state opcode s

/-- The keyword is in force and has not been seen in this file. -/
def Counts (state : ConfigParse) (opcode : SshConfigOpcode) : Prop :=
  opcode ≠ .SOC_HOST ∧ state.parsing = true ∧ ¬ (opcode.onlyOnce = true ∧ opcode ∈ state.seen)

instance (state : ConfigParse) (opcode : SshConfigOpcode) : Decidable (Counts state opcode) :=
  inferInstanceAs (Decidable (_ ∧ _))

def lineWritten (reader : ConfigReader) (state : ConfigParse) (line : Bytes)
    (option : ConfigOption) : Option ConfigValue :=
  match directive line with
  | none => none
  | some (opcode, s) =>
      if Counts state opcode then reader.optionWritten state.options opcode s option else none

section

variable {reader : ConfigReader} {state after : ConfigParse} {options : Options} {line s : Bytes}
  {opcode : SshConfigOpcode} {option : ConfigOption} {value : ConfigValue} {lines : List Bytes}

theorem hostWritten_option {text : Bytes} (wrote : hostWritten text option = some value) :
    (option = .hostName ∨ option = .user) ∧ ∃ part, value = .text (some part) := by
  unfold hostWritten at wrote
  by_cases empty : text = []
  · rw [if_pos empty] at wrote
    cases wrote
  · rw [if_neg empty] at wrote
    cases parts : cut 64 text with
    | none =>
        rw [parts] at wrote
        cases option with
        | hostName =>
            cases wrote
            exact ⟨Or.inl rfl, text, rfl⟩
        | _ => cases wrote
    | some both =>
        rw [parts] at wrote
        cases option with
        | hostName =>
            cases wrote
            exact ⟨Or.inl rfl, both.2, rfl⟩
        | user =>
            cases wrote
            exact ⟨Or.inr rfl, both.1, rfl⟩
        | _ => cases wrote

theorem opcode_of_optionWritten
    (wrote : reader.optionWritten options opcode s option = some value) :
    opcode ∈ option.opcodes ∧ opcode.onlyOnce = true := by
  by_cases isHostName : opcode = .SOC_HOSTNAME
  · subst isHostName
    obtain ⟨text, _, named⟩ := Option.bind_eq_some_iff.mp wrote
    rcases (hostWritten_option named).1 with isHost | isUser
    · subst isHost
      exact ⟨by decide, rfl⟩
    · subst isUser
      exact ⟨by decide, rfl⟩
  · cases opcode <;> cases option <;>
      first | exact absurd rfl isHostName | exact ⟨by decide, rfl⟩ | cases wrote

theorem setKeyword_cases (ok : reader.setKeyword state opcode s = .ok after) :
    (Counts state opcode ∧ reader.setOption state.options opcode s = .ok after.options ∧
        after.seen = if opcode.onlyOnce = true then opcode :: state.seen else state.seen) ∨
      (¬ Counts state opcode ∧ after.options = state.options ∧ after.seen = state.seen) := by
  unfold setKeyword at ok
  by_cases isHost : opcode = .SOC_HOST
  · rw [if_pos isHost] at ok
    cases ok
    exact Or.inr ⟨fun counts => counts.1 isHost, rfl, rfl⟩
  · rw [if_neg isHost] at ok
    by_cases inForce : state.parsing = true
    · rw [if_pos inForce] at ok
      by_cases again : opcode.onlyOnce = true ∧ opcode ∈ state.seen
      · rw [if_pos again] at ok
        cases ok
        exact Or.inr ⟨fun counts => counts.2.2 again, rfl, rfl⟩
      · rw [if_neg again] at ok
        cases set : reader.setOption state.options opcode s with
        | error fault =>
            rw [set] at ok
            cases ok
        | ok options =>
            rw [set] at ok
            cases ok
            exact Or.inl ⟨⟨isHost, inForce, again⟩, rfl, rfl⟩
    · rw [if_neg inForce] at ok
      cases ok
      exact Or.inr ⟨fun counts => inForce counts.2.1, rfl, rfl⟩

theorem setLine_value (ok : reader.setLine state line = .ok after) (option : ConfigOption) :
    after.options.value option =
      (reader.lineWritten state line option).getD (state.options.value option) := by
  unfold setLine at ok
  unfold lineWritten
  cases read : directive line with
  | none =>
      rw [read] at ok
      cases ok
      rfl
  | some word =>
      obtain ⟨opcode, s⟩ := word
      rw [read] at ok
      dsimp only at ok ⊢
      rcases setKeyword_cases ok with ⟨counts, set, _⟩ | ⟨skipped, same, _⟩
      · rw [if_pos counts]
        exact setOption_value set option
      · rw [if_neg skipped, same]
        rfl

/-! ### How often a line writes -/

def unseen (state : ConfigParse) (option : ConfigOption) : Finset SshConfigOpcode :=
  option.opcodes.toFinset \ state.seen.toFinset

theorem unseen_card_le_two (state : ConfigParse) (option : ConfigOption) :
    (unseen state option).card ≤ 2 := by
  have all : option.opcodes.toFinset.card ≤ 2 := by cases option <;> decide
  exact (Finset.card_le_card Finset.sdiff_subset).trans all

theorem lineWritten_cases (wrote : reader.lineWritten state line option = some value) :
    ∃ opcode s, directive line = some (opcode, s) ∧ Counts state opcode ∧
      reader.optionWritten state.options opcode s option = some value := by
  unfold lineWritten at wrote
  cases read : directive line with
  | none =>
      rw [read] at wrote
      cases wrote
  | some word =>
      obtain ⟨opcode, s⟩ := word
      rw [read] at wrote
      dsimp only at wrote
      by_cases counts : Counts state opcode
      · rw [if_pos counts] at wrote
        exact ⟨opcode, s, rfl, counts, wrote⟩
      · rw [if_neg counts] at wrote
        cases wrote

theorem mem_unseen (counts : Counts state opcode)
    (wrote : reader.optionWritten options opcode s option = some value) :
    opcode ∈ unseen state option := by
  obtain ⟨isKeyword, once⟩ := opcode_of_optionWritten wrote
  have fresh : opcode ∉ state.seen := fun isSeen => counts.2.2 ⟨once, isSeen⟩
  simp [unseen, isKeyword, fresh]

theorem setLine_seen (ok : reader.setLine state line = .ok after) :
    state.seen ⊆ after.seen ∧ ∀ option value, reader.lineWritten state line option = some value →
      ∃ opcode ∈ unseen state option, opcode ∈ after.seen := by
  unfold setLine at ok
  cases read : directive line with
  | none =>
      rw [read] at ok
      cases ok
      refine ⟨fun _ isSeen => isSeen, ?_⟩
      intro option value wrote
      obtain ⟨opcode, s, isWord, _⟩ := lineWritten_cases wrote
      rw [read] at isWord
      cases isWord
  | some word =>
      obtain ⟨opcode, s⟩ := word
      rw [read] at ok
      constructor
      · rcases setKeyword_cases ok with ⟨_, _, seen⟩ | ⟨_, _, seen⟩
        · rw [seen]
          split
          · exact List.subset_cons_self opcode state.seen
          · exact List.Subset.refl state.seen
        · exact seen ▸ List.Subset.refl state.seen
      · intro option value wrote
        obtain ⟨other, text, isWord, counts, wroteOption⟩ := lineWritten_cases wrote
        rw [read] at isWord
        cases isWord
        refine ⟨opcode, mem_unseen counts wroteOption, ?_⟩
        rcases setKeyword_cases ok with ⟨_, _, seen⟩ | ⟨skipped, _, _⟩
        · rw [seen, if_pos (opcode_of_optionWritten wroteOption).2]
          exact List.mem_cons_self
        · exact absurd counts skipped

def configWriter (reader : ConfigReader) :
    Writer ConfigParse Bytes ConfigOption ConfigValue ConfigFault where
  step := reader.setLine
  value := fun state => state.options.value
  written := reader.lineWritten
  value_step := fun option stepped => setLine_value stepped option

def given (reader : ConfigReader) (option : ConfigOption) (lines : List Bytes)
    (state : ConfigParse) : List ConfigValue :=
  reader.configWriter.given option lines state

theorem given_length_le_two : (reader.given option lines state).length ≤ 2 := by
  let left := fun (state : ConfigParse) (option : ConfigOption) => (unseen state option).card
  refine le_trans (Writer.length_given_le left ?_ ?_) (unseen_card_le_two state option)
  · intro state line option wrote
    obtain ⟨value, wrote⟩ := Option.ne_none_iff_exists'.mp wrote
    obtain ⟨opcode, s, _, counts, wroteOption⟩ := lineWritten_cases wrote
    exact Finset.card_pos.mpr ⟨opcode, mem_unseen counts wroteOption⟩
  · intro state line after option stepped
    obtain ⟨grows, written⟩ := setLine_seen stepped
    have shrinks : unseen after option ⊆ unseen state option := by
      apply Finset.sdiff_subset_sdiff (Finset.Subset.refl _)
      intro opcode isSeen
      exact List.mem_toFinset.mpr (grows (List.mem_toFinset.mp isSeen))
    cases wrote : reader.lineWritten state line option with
    | none =>
        have unchanged : reader.configWriter.written state line option = none := wrote
        rw [unchanged]
        exact Finset.card_le_card shrinks
    | some value =>
        have changed : reader.configWriter.written state line option = some value := wrote
        obtain ⟨opcode, wasUnseen, isSeen⟩ := written option value wrote
        have fewer : unseen after option ⊂ unseen state option := by
          refine ⟨shrinks, fun back => ?_⟩
          have stillUnseen := back wasUnseen
          simp [unseen, isSeen] at stillUnseen
        rw [changed]
        exact Finset.card_lt_card fewer

/-! ### Keywords that look at the option first -/

/-- A value that `User` and `ProxyJump` take for none. -/
def Unset (option : ConfigOption) (value : ConfigValue) : Prop :=
  (option = .user ∨ option = .proxyJump) ∧ value = .text none

/-- A keyword that sets its option without a look at it; a port that is 0 counts as none. -/
def Unchecked (line : Bytes) : Prop :=
  ∃ opcode s, directive line = some (opcode, s) ∧
    opcode ∈ [SshConfigOpcode.SOC_HOSTNAME, .SOC_PORT, .SOC_PROXYCOMMAND, .SOC_FORWARDAGENT,
      .SOC_IDENTITYAGENT]

theorem unset_of_lineWritten (checked : ¬ Unchecked line)
    (wrote : reader.lineWritten state line option = some value) :
    Unset option (state.options.value option) := by
  obtain ⟨opcode, s, isWord, _, wroteOption⟩ := lineWritten_cases wrote
  have other : opcode ∉ [SshConfigOpcode.SOC_HOSTNAME, .SOC_PORT, .SOC_PROXYCOMMAND,
      .SOC_FORWARDAGENT, .SOC_IDENTITYAGENT] :=
    fun isUnchecked => checked ⟨opcode, s, isWord, isUnchecked⟩
  have isKeyword := (opcode_of_optionWritten wroteOption).1
  cases option with
  | user =>
      have isUser : opcode = .SOC_USERNAME := by
        simp [ConfigOption.opcodes] at isKeyword other
        tauto
      subst isUser
      by_cases unset : state.options.username = none
      · exact ⟨Or.inl rfl, congrArg ConfigValue.text unset⟩
      · simp [optionWritten, unset] at wroteOption
  | proxyJump =>
      cases List.mem_singleton.mp isKeyword
      by_cases unset : state.options.ProxyJump = none
      · exact ⟨Or.inr rfl, congrArg ConfigValue.text unset⟩
      · simp [optionWritten, unset] at wroteOption
  | hostName | port | forwardAgent | identityAgent | proxyCommand =>
      cases List.mem_singleton.mp isKeyword
      exact absurd (by decide) other

theorem not_unset_of_lineWritten (wrote : reader.lineWritten state line option = some value) :
    ¬ Unset option value := by
  intro ⟨isText, isNone⟩
  subst isNone
  obtain ⟨opcode, s, _, _, wroteOption⟩ := lineWritten_cases wrote
  have isKeyword := (opcode_of_optionWritten wroteOption).1
  rcases isText with isUser | isJump
  · subst isUser
    simp only [ConfigOption.opcodes, List.mem_cons, List.not_mem_nil, or_false] at isKeyword
    rcases isKeyword with isUsername | isHostName
    · subst isUsername
      by_cases unset : state.options.username = none
      · simp [optionWritten, unset] at wroteOption
      · simp [optionWritten, unset] at wroteOption
    · subst isHostName
      obtain ⟨text, _, named⟩ := Option.bind_eq_some_iff.mp wroteOption
      obtain ⟨part, isSome⟩ := (hostWritten_option named).2
      cases isSome
  · subst isJump
    cases List.mem_singleton.mp isKeyword
    by_cases unset : state.options.ProxyJump = none
    · simp [optionWritten, unset] at wroteOption
    · simp [optionWritten, unset] at wroteOption

end

/-! ### Files without `Include` -/

/-- The lines of a file that can be opened. -/
def linesOf (reader : ConfigReader) (filename : Bytes) : List Bytes :=
  match (sshPathExpandTilde reader.environment filename).bind reader.files.contents with
  | none => []
  | some contents => fileLines contents

def NoInclude (reader : ConfigReader) (filename : Bytes) : Prop :=
  ∀ line ∈ reader.linesOf filename, ∀ s, directive line ≠ some (.SOC_INCLUDE, s)

def Sets (reader : ConfigReader) (options : Options) (filename : Bytes) (option : ConfigOption) :
    Prop :=
  reader.given option (reader.linesOf filename) (initial options) ≠ []

/-- The first value that the file gives an option is the one it has afterwards. -/
def FirstLineWins (reader : ConfigReader) (options : Options) (filename : Bytes)
    (after : Options) : Prop :=
  ∀ option value, (reader.given option (reader.linesOf filename) (initial options)).head? =
    some value → after.value option = value

def UserConfigWins (reader : ConfigReader) (options : Options) (userConfig systemConfig : Bytes) :
    Prop :=
  ∀ depth afterUser afterBoth,
    reader.parseSshConfigFile depth options userConfig = .ok afterUser →
    reader.parseSshConfigFile depth afterUser systemConfig = .ok afterBoth →
    reader.FirstLineWins options userConfig afterUser ∧
      reader.FirstLineWins afterUser systemConfig afterBoth ∧
      ∀ option, reader.Sets options userConfig option →
        afterBoth.value option = afterUser.value option

/-- Where an unchecked line of the file gives an option that is held, or that a line before it has
given, it gives the value that the option has. -/
def NoLineOverrides (reader : ConfigReader) (held : ConfigOption → Prop) (options : Options)
    (filename : Bytes) : Prop :=
  ∀ front line rest before option value,
    reader.linesOf filename = front ++ line :: rest →
    front.foldlM reader.setLine (initial options) = .ok before → Unchecked line →
    reader.lineWritten before line option = some value →
    held option ∨ reader.given option front (initial options) ≠ [] →
    value = before.options.value option

/-- Of the two files, where what the user's has given is held. -/
def NothingOverridden (reader : ConfigReader) (options : Options)
    (userConfig systemConfig : Bytes) : Prop :=
  ∀ depth afterUser afterBoth,
    reader.parseSshConfigFile depth options userConfig = .ok afterUser →
    reader.parseSshConfigFile depth afterUser systemConfig = .ok afterBoth →
    reader.NoLineOverrides (fun _ => False) options userConfig ∧
      reader.NoLineOverrides (reader.Sets options userConfig) afterUser systemConfig

section

variable {reader : ConfigReader} {filename userConfig systemConfig : Bytes}
  {options after : Options} {state : ConfigParse} {lines : List Bytes} {depth : Nat}
  {parseFile : ConfigParse → Bytes → Except (Halt ConfigFault) ConfigParse}

theorem parseLines_eq_setLines
    (noInclude : ∀ line ∈ lines, ∀ s, directive line ≠ some (.SOC_INCLUDE, s)) :
    lines.foldlM (reader.sshConfigParseLine parseFile) state =
      (lines.foldlM reader.setLine state).mapError .fault := by
  induction lines generalizing state with
  | nil => rfl
  | cons line rest ih =>
      have single : reader.sshConfigParseLine parseFile state line =
          (reader.setLine state line).mapError .fault := by
        unfold sshConfigParseLine setLine
        cases read : directive line with
        | none => rfl
        | some word =>
            obtain ⟨opcode, s⟩ := word
            have noOpen : opcode ≠ .SOC_INCLUDE := by
              intro isInclude
              exact noInclude line List.mem_cons_self s (isInclude ▸ read)
            exact if_neg noOpen
      rw [List.foldlM_cons, List.foldlM_cons, single]
      cases reader.setLine state line with
      | error fault => rfl
      | ok between =>
          exact ih fun later isLater => noInclude later (List.mem_cons_of_mem line isLater)

/-- Without `Include`, a file is its lines one after the other. -/
theorem parseSshConfigFile_ok_iff (noInclude : reader.NoInclude filename) :
    reader.parseSshConfigFile depth options filename = .ok after ↔
      ∃ last, (reader.linesOf filename).foldlM reader.setLine (initial options) = .ok last ∧
        last.options = after := by
  unfold NoInclude linesOf at noInclude
  unfold parseSshConfigFile linesOf
  cases expanded : sshPathExpandTilde reader.environment filename with
  | none => simp [initial, pure, Except.pure]
  | some path =>
      rw [expanded] at noInclude
      cases opened : reader.files.contents path with
      | none => simp [opened, initial, pure, Except.pure]
      | some contents =>
          simp only [Option.bind_some, opened] at noInclude ⊢
          rw [parseLines_eq_setLines noInclude]
          cases (fileLines contents).foldlM reader.setLine (initial options) with
          | ok last => simp [Except.map, Except.mapError]
          | error fault => simp [Except.map, Except.mapError]

theorem not_unset_of_sets (noInclude : reader.NoInclude filename)
    (parsed : reader.parseSshConfigFile depth options filename = .ok after) {option : ConfigOption}
    (sets : reader.Sets options filename option) : ¬ Unset option (after.value option) := by
  obtain ⟨last, done, same⟩ := (parseSshConfigFile_ok_iff noInclude).mp parsed
  have isSet : ¬ Unset option (reader.configWriter.value last option) := by
    apply Writer.not_unset_of_given _ done sets
    intro state line option value wrote
    exact not_unset_of_lineWritten wrote
  exact same ▸ isSet

theorem noLineOverrides_iff {held : ConfigOption → Prop} :
    reader.NoLineOverrides held options filename ↔
      reader.configWriter.Keeps Unchecked held (reader.linesOf filename) (initial options) := by
  have byLines : reader.configWriter.Keeps Unchecked held (reader.linesOf filename)
      (initial options) ↔ _ := Writer.keeps_iff
  exact byLines.symm

theorem firstLineWins_iff {held : ConfigOption → Prop} (noInclude : reader.NoInclude filename)
    (parsed : reader.parseSshConfigFile depth options filename = .ok after)
    (isSet : ∀ option, held option → ¬ Unset option (options.value option)) :
    ((∀ option, held option → after.value option = options.value option) ∧
        reader.FirstLineWins options filename after) ↔
      reader.NoLineOverrides held options filename := by
  obtain ⟨last, done, same⟩ := (parseSshConfigFile_ok_iff noInclude).mp parsed
  subst same
  rw [noLineOverrides_iff]
  apply Writer.stays_iff _ _ isSet (fun option => given_length_le_two) done
  · intro state line option value checked wrote
    exact unset_of_lineWritten checked wrote
  · intro state line option value wrote
    exact not_unset_of_lineWritten wrote

/-- The user's file wins if and only if no line without a check sets an option anew. -/
theorem user_config_wins_iff (userNoInclude : reader.NoInclude userConfig)
    (systemNoInclude : reader.NoInclude systemConfig) :
    reader.UserConfigWins options userConfig systemConfig ↔
      reader.NothingOverridden options userConfig systemConfig := by
  have inUser : ∀ depth afterUser,
      reader.parseSshConfigFile depth options userConfig = .ok afterUser →
      (reader.FirstLineWins options userConfig afterUser ↔
        reader.NoLineOverrides (fun _ => False) options userConfig) := by
    intro depth afterUser parsed
    rw [← firstLineWins_iff userNoInclude parsed fun option impossible => impossible.elim]
    exact (and_iff_right fun option impossible => impossible.elim).symm
  have inSystem : ∀ depth afterUser afterBoth,
      reader.parseSshConfigFile depth options userConfig = .ok afterUser →
      reader.parseSshConfigFile depth afterUser systemConfig = .ok afterBoth →
      ((reader.FirstLineWins afterUser systemConfig afterBoth ∧
          ∀ option, reader.Sets options userConfig option →
            afterBoth.value option = afterUser.value option) ↔
        reader.NoLineOverrides (reader.Sets options userConfig) afterUser systemConfig) := by
    intro depth afterUser afterBoth parsedUser parsedSystem
    rw [← firstLineWins_iff systemNoInclude parsedSystem fun option sets =>
      not_unset_of_sets userNoInclude parsedUser sets]
    exact and_comm
  constructor
  · intro wins depth afterUser afterBoth parsedUser parsedSystem
    obtain ⟨first, later⟩ := wins depth afterUser afterBoth parsedUser parsedSystem
    exact ⟨(inUser depth afterUser parsedUser).mp first,
      (inSystem depth afterUser afterBoth parsedUser parsedSystem).mp later⟩
  · intro nothing depth afterUser afterBoth parsedUser parsedSystem
    obtain ⟨first, later⟩ := nothing depth afterUser afterBoth parsedUser parsedSystem
    exact ⟨(inUser depth afterUser parsedUser).mpr first,
      (inSystem depth afterUser afterBoth parsedUser parsedSystem).mpr later⟩

end

/-- A user's file "u" and a system file "s". -/
def twoConfigs (userConfig systemConfig : Bytes) : ConfigReader :=
  { environment :=
      { sshGetUserHomeDir := none
        getpwnam := fun _ => none
        sshGetLocalUsername := none
        hostBuffer := none }
    files :=
      { contents := fun path =>
          if path = ascii "u" then some userConfig
          else if path = ascii "s" then some systemConfig
          else none
        finite := (Set.toFinite {ascii "u", ascii "s"}).subset fun path opens => by
          by_contra other
          simp only [Set.mem_insert_iff, Set.mem_singleton_iff, not_or] at other
          exact opens ((if_neg other.1).trans (if_neg other.2))
        parentPath := fun _ => []
        filename := id
        directoryIterator := fun _ => none
        regex := fun _ => none }
    targethost := ascii "host" }

theorem linesOf_user (userConfig systemConfig : Bytes)
    (single : fileLines userConfig = [userConfig]) :
    (twoConfigs userConfig systemConfig).linesOf (ascii "u") = [userConfig] := single

theorem linesOf_system (userConfig systemConfig : Bytes)
    (single : fileLines systemConfig = [systemConfig]) :
    (twoConfigs userConfig systemConfig).linesOf (ascii "s") = [systemConfig] := single

theorem directive_forwardAgent_yes :
    directive (ascii "ForwardAgent yes") = some (.SOC_FORWARDAGENT, ascii "yes") := by
  rw [directive]
  decide

theorem directive_forwardAgent_no :
    directive (ascii "ForwardAgent no") = some (.SOC_FORWARDAGENT, ascii "no") := by
  rw [directive]
  decide

theorem directive_hostName : directive (ascii "HostName h") = some (.SOC_HOSTNAME, ascii "h") := by
  rw [directive]
  decide

theorem noInclude_of_line {reader : ConfigReader} {filename line s : Bytes}
    {opcode : SshConfigOpcode} (single : reader.linesOf filename = [line])
    (isWord : directive line = some (opcode, s)) (other : opcode ≠ .SOC_INCLUDE) :
    reader.NoInclude filename := by
  intro member isLine text isInclude
  rw [single] at isLine
  cases List.mem_singleton.mp isLine
  rw [isWord] at isInclude
  cases isInclude
  exact other rfl

theorem user_config_wins_host_name :
    (twoConfigs (ascii "HostName h") (ascii "ForwardAgent yes")).UserConfigWins
      (Options.zero.setHost (ascii "host")) (ascii "u") (ascii "s") := by
  have userLines := linesOf_user (ascii "HostName h") (ascii "ForwardAgent yes") (by decide)
  have systemLines := linesOf_system (ascii "HostName h") (ascii "ForwardAgent yes") (by decide)
  apply (user_config_wins_iff _ _).mpr
  · intro depth afterUser afterBoth _ _
    rw [noLineOverrides_iff, noLineOverrides_iff, userLines, systemLines]
    constructor
    · exact ⟨fun _ _ _ _ impossible => impossible.elim, fun _ _ => trivial⟩
    · refine ⟨?_, fun _ _ => trivial⟩
      intro option value _ wrote sets
      exfalso
      -- the two keywords have no option in common
      obtain ⟨opcode, s, isWord, _, wroteOption⟩ := lineWritten_cases wrote
      rw [directive_forwardAgent_yes] at isWord
      cases isWord
      obtain ⟨earlier, isGiven⟩ := List.exists_mem_of_ne_nil _ sets
      obtain ⟨before, line, isLine, wroteEarlier⟩ := Writer.exists_written_of_mem_given isGiven
      rw [userLines] at isLine
      cases List.mem_singleton.mp isLine
      obtain ⟨opcode, s, isWord, _, wroteHost⟩ := lineWritten_cases wroteEarlier
      rw [directive_hostName] at isWord
      cases isWord
      have both := And.intro (opcode_of_optionWritten wroteOption).1
        (opcode_of_optionWritten wroteHost).1
      revert both
      cases option <;> decide
  · exact noInclude_of_line userLines directive_hostName (by decide)
  · exact noInclude_of_line systemLines directive_forwardAgent_yes (by decide)

/-- The user has turned the agent off, and the system's file turns it on. -/
theorem system_config_wins :
    (twoConfigs (ascii "ForwardAgent no") (ascii "ForwardAgent yes")).NoInclude (ascii "u") ∧
      (twoConfigs (ascii "ForwardAgent no") (ascii "ForwardAgent yes")).NoInclude (ascii "s") ∧
      ¬ (twoConfigs (ascii "ForwardAgent no") (ascii "ForwardAgent yes")).UserConfigWins
        (Options.zero.setHost (ascii "host")) (ascii "u") (ascii "s") := by
  have userLines :=
    linesOf_user (ascii "ForwardAgent no") (ascii "ForwardAgent yes") (by decide)
  have systemLines :=
    linesOf_system (ascii "ForwardAgent no") (ascii "ForwardAgent yes") (by decide)
  generalize twoConfigs (ascii "ForwardAgent no") (ascii "ForwardAgent yes") = reader at *
  generalize Options.zero.setHost (ascii "host") = options
  have turnsOff : reader.setLine (initial options) (ascii "ForwardAgent no") = .ok
      { initial options with
        options := options.setForwardAgent 0
        seen := [.SOC_FORWARDAGENT] } := by
    rw [setLine, directive_forwardAgent_no]
    rfl
  have turnsOn : reader.setLine (initial (options.setForwardAgent 0)) (ascii "ForwardAgent yes") =
      .ok
        { initial options with
          options := options.setForwardAgent 1
          seen := [.SOC_FORWARDAGENT] } := by
    rw [setLine, directive_forwardAgent_yes]
    rfl
  have userNoInclude := noInclude_of_line userLines directive_forwardAgent_no (by decide)
  have systemNoInclude := noInclude_of_line systemLines directive_forwardAgent_yes (by decide)
  have parsedUser : reader.parseSshConfigFile 0 options (ascii "u") =
      .ok (options.setForwardAgent 0) := by
    rw [parseSshConfigFile_ok_iff userNoInclude, userLines]
    exact ⟨_, (bind_pure _).trans turnsOff, rfl⟩
  have parsedSystem : reader.parseSshConfigFile 0 (options.setForwardAgent 0) (ascii "s") =
      .ok (options.setForwardAgent 1) := by
    rw [parseSshConfigFile_ok_iff systemNoInclude, systemLines]
    exact ⟨_, (bind_pure _).trans turnsOn, rfl⟩
  have sets : reader.Sets options (ascii "u") .forwardAgent := by
    have wrote : reader.configWriter.written (initial options) (ascii "ForwardAgent no")
        .forwardAgent = some (.number 0) := by
      change reader.lineWritten _ _ _ = _
      rw [lineWritten, directive_forwardAgent_no]
      rfl
    rw [Sets, userLines, given, Writer.given_cons turnsOff, wrote]
    exact List.cons_ne_nil _ _
  refine ⟨userNoInclude, systemNoInclude, ?_⟩
  intro wins
  have same := (wins 0 _ _ parsedUser parsedSystem).2.2 .forwardAgent sets
  cases same

end ConfigReader

end EternalTerminal
