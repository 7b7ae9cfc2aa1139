/-
`ParseConfigFile.hpp`: how an ssh configuration file is read into `Options`.

A line is a keyword and what follows it; `Match` reads what follows it as a line of its own.
The depth bounds how many files are open at once, which the code does not.
-/

import EternalTerminal.Library.Inclusion
import EternalTerminal.Setup.SshOptions

namespace EternalTerminal

open Library

/-- The files that can be opened, of which there are finitely many, and what
`std::filesystem` and `std::regex` make of paths and patterns; `none` is an exception. -/
structure FileSystem where
  contents : Bytes → Option Bytes
  finite : {path | contents path ≠ none}.Finite
  parentPath : Bytes → Bytes
  filename : Bytes → Bytes
  directoryIterator : Bytes → Option (List Bytes)
  regex : Bytes → Option (Bytes → Bool)

/-- What `parse_ssh_config_file` passes on from line to line. -/
structure ConfigParse where
  options : Options
  parsing : Bool
  seen : List SshConfigOpcode
  deriving DecidableEq

/-- The parser's surroundings: they stay the same while it runs. -/
structure ConfigReader where
  environment : ConfigEnvironment
  files : FileSystem
  targethost : Bytes

/-! ### Lines -/

/-- The first character stays, even if it is a blank. -/
def removeTrailingSpaces : Bytes → Bytes
  | [] => []
  | first :: rest => first :: rest.rdropWhile isspace

theorem removeTrailingSpaces_length_le (line : Bytes) :
    (removeTrailingSpaces line).length ≤ line.length := by
  cases line with
  | nil => exact Nat.le_refl 0
  | cons first rest => exact Nat.succ_le_succ (List.rdropWhile_prefix isspace rest).length_le

/-- The keyword of a line and what follows it, if it is not blank and not a comment. -/
def directive (line : Bytes) : Option (SshConfigOpcode × Bytes) :=
  let keyword := (sshConfigGetToken (removeTrailingSpaces line)).1
  let s := (sshConfigGetToken (removeTrailingSpaces line)).2
  if _word : keyword = [] then none
  else if keyword.head? = some 35 ∨ keyword.head? = some 10 then none
  else if sshConfigGetOpcode keyword = .SOC_MATCH then directive s
  else some (sshConfigGetOpcode keyword, s)
termination_by line.length
decreasing_by
  exact Nat.lt_of_lt_of_le (sshConfigGetToken_shorter _word) (removeTrailingSpaces_length_le line)

/-- The keywords of which only the first line in force counts. -/
def SshConfigOpcode.onlyOnce (opcode : SshConfigOpcode) : Bool :=
  opcode ≠ .SOC_HOST && opcode ≠ .SOC_MATCH && opcode ≠ .SOC_UNSUPPORTED &&
    opcode ≠ .SOC_INCLUDE && opcode ≠ .SOC_LOCALFORWARD && opcode ≠ .SOC_SETENV

/-- The patterns of a `Host` line, with the last result and what it has made of `*parsing`. -/
def hostPatterns (lowertargethost s : Bytes) (ok : Int) (parsing : Bool) : Bool :=
  let p := (sshConfigGetToken s).1
  if _word : p = [] then parsing
  else if ok ≥ 0 then
    let ok := matchHostname lowertargethost p
    hostPatterns lowertargethost (sshConfigGetToken s).2 ok
      (if ok < 0 then false else if ok > 0 then true else parsing)
  else hostPatterns lowertargethost (sshConfigGetToken s).2 ok parsing
termination_by s.length
decreasing_by
  all_goals exact sshConfigGetToken_shorter _word

namespace ConfigReader

/-- The pattern of an `Include` as a regular expression. -/
def patternRegex (pattern : Bytes) : Bytes :=
  pattern.flatMap fun byte =>
    if byte = 46 then [92, 46] else if byte = 42 then [46, 42] else [byte]

/-- The files that an `Include` names, in the order in which they are parsed. -/
def includedFiles (reader : ConfigReader) (s : Bytes) : Except ConfigFault (List Bytes) :=
  match (sshConfigGetStrTok s).1 with
  | none => .ok []
  | some p =>
      match sshPathExpandTilde reader.environment p with
      | none => .ok []
      | some filename =>
          if 42 ∈ filename ∨ 63 ∈ filename then
            let dir := reader.files.parentPath filename
            match reader.files.regex (patternRegex (reader.files.filename filename)) with
            | none => .error .regexError
            | some isMatch =>
                match reader.files.directoryIterator (if dir = [] then ascii "." else dir) with
                | none => .error .filesystemError
                | some entries =>
                    .ok (entries.filter fun entry => isMatch (reader.files.filename entry))
          else .ok [filename]

/-- A keyword that sets an option, on a line that is in force. -/
def setOption (reader : ConfigReader) (options : Options) (opcode : SshConfigOpcode) (s : Bytes) :
    Except ConfigFault Options :=
  let p := (sshConfigGetStrTok s).1
  match opcode with
  | .SOC_HOSTNAME =>
      match p with
      | none => .ok options
      | some p =>
          (sshPathExpandEscape reader.environment options p).map fun z =>
            options.setHost (z.getD p)
  | .SOC_PORT => .ok (if options.port = 0 then (p.map options.setPortStr).getD options else options)
  | .SOC_USERNAME =>
      .ok (if options.username = none then (p.map options.setUser).getD options else options)
  | .SOC_PROXYJUMP =>
      .ok (if options.ProxyJump = none then (p.map options.setProxyJump).getD options else options)
  | .SOC_PROTOCOL => .ok ((p.map options.setProtocol).getD options)
  | .SOC_TIMEOUT => .ok (options.setTimeout (sshConfigGetInt s (-1)))
  | .SOC_STRICTHOSTKEYCHECK =>
      let i := sshConfigGetYesno s (-1)
      .ok (if i ≥ 0 then options.setStrictHostKeyChecking i else options)
  | .SOC_KNOWNHOSTS => .ok ((p.map options.setKnownHosts).getD options)
  | .SOC_PROXYCOMMAND => .ok (options.setProxyCommand (sshConfigGetCmd s))
  | .SOC_GSSAPISERVERIDENTITY => .ok ((p.map options.setGssServerIdentity).getD options)
  | .SOC_GSSAPICLIENTIDENTITY => .ok ((p.map options.setGssClientIdentity).getD options)
  | .SOC_GSSAPIDELEGATECREDENTIALS =>
      let i := sshConfigGetYesno s (-1)
      .ok (if i ≥ 0 then options.setGssDelegateCredentials i else options)
  | .SOC_FORWARDAGENT =>
      let i := sshConfigGetYesno s (-1)
      .ok (if i ≥ 0 then options.setForwardAgent i else options)
  | .SOC_IDENTITYAGENT =>
      .ok (((p.bind (sshPathExpandTilde reader.environment)).map options.setIdentityAgent).getD
        options)
  | .SOC_LOCALFORWARD =>
      match p, (sshConfigGetStrTok (sshConfigGetStrTok s).2).1 with
      | some p, some remote => .ok (options.addLocalForward ((p ++ 32 :: remote).take 1023))
      | _, _ => .ok options
  | .SOC_SETENV => .ok ((p.map options.addEnvVar).getD options)
  | .SOC_UNSUPPORTED | .SOC_HOST | .SOC_MATCH | .SOC_INCLUDE => .ok options

/-- What a keyword other than `Include` does. -/
def setKeyword (reader : ConfigReader) (state : ConfigParse) (opcode : SshConfigOpcode)
    (s : Bytes) : Except ConfigFault ConfigParse :=
  if opcode = .SOC_HOST then
    .ok
      { state with
        parsing := hostPatterns (sshLowercase reader.targethost) s 0 false }
  else if state.parsing = true then
    if opcode.onlyOnce = true ∧ opcode ∈ state.seen then .ok state
    else
      (reader.setOption state.options opcode s).map fun options =>
        { state with
          options := options
          seen := if opcode.onlyOnce = true then opcode :: state.seen else state.seen }
  else .ok state

/-- `ssh_config_parse_line`, with the parser of the files that it includes. -/
def sshConfigParseLine (reader : ConfigReader)
    (parseFile : ConfigParse → Bytes → Except (Halt ConfigFault) ConfigParse)
    (state : ConfigParse) (line : Bytes) : Except (Halt ConfigFault) ConfigParse :=
  match directive line with
  | none => .ok state
  | some (opcode, s) =>
      if opcode = .SOC_INCLUDE then
        match reader.includedFiles s with
        | .error fault => .error (.fault fault)
        | .ok files => files.foldlM parseFile state
      else (reader.setKeyword state opcode s).mapError .fault

/-- The lines as `getline` and `c_str` give them. -/
def fileLines (contents : Bytes) : List Bytes :=
  (split 10 contents).map fun line => line.takeWhile (· ≠ 0)

/-- A file that cannot be opened is passed over. -/
def localParseFile (reader : ConfigReader) :
    Nat → ConfigParse → Bytes → Except (Halt ConfigFault) ConfigParse
  | 0, _, _ => .error .tooDeep
  | depth + 1, state, filename =>
      match reader.files.contents filename with
      | none => .ok state
      | some contents =>
          (fileLines contents).foldlM (reader.sshConfigParseLine (reader.localParseFile depth))
            state

def initial (options : Options) : ConfigParse :=
  { options := options
    parsing := true
    seen := [] }

/-- With at most `depth` files open below this one. -/
def parseSshConfigFile (reader : ConfigReader) (depth : Nat) (options : Options)
    (filename : Bytes) : Except (Halt ConfigFault) Options :=
  match sshPathExpandTilde reader.environment filename with
  | none => .ok options
  | some expandedFilename =>
      match reader.files.contents expandedFilename with
      | none => .ok options
      | some contents =>
          ((fileLines contents).foldlM
            (reader.sshConfigParseLine (reader.localParseFile depth)) (initial options)).map
              ConfigParse.options

end ConfigReader

end EternalTerminal
