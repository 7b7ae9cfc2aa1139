/-
What one line of an ssh configuration file gives to the options with which the client connects.

Only `User`, `Port` and `ProxyJump` look whether the option is set already.
-/

import EternalTerminal.Setup.ParseConfigFile

namespace EternalTerminal

open Library

inductive ConfigOption where
  | hostName
  | user
  | port
  | proxyJump
  | forwardAgent
  | identityAgent
  | proxyCommand
  deriving DecidableEq

inductive ConfigValue where
  | text (value : Option Bytes)
  | number (value : Int)
  deriving DecidableEq

def Options.value (options : Options) : ConfigOption → ConfigValue
  | .hostName => .text options.host
  | .user => .text options.username
  | .port => .number options.port
  | .proxyJump => .text options.ProxyJump
  | .forwardAgent => .number options.forward_agent
  | .identityAgent => .text options.identity_agent
  | .proxyCommand => .text options.ProxyCommand

/-- What a value of `SSH_OPTIONS_HOST` sets. -/
def hostWritten (value : Bytes) (option : ConfigOption) : Option ConfigValue :=
  if value = [] then none
  else
    match cut 64 value, option with
    | some (_, host), .hostName => some (.text (some host))
    | some (user, _), .user => some (.text (some user))
    | none, .hostName => some (.text (some value))
    | _, _ => none

def portWritten (value : Bytes) : Option ConfigValue :=
  match strtol value with
  | none => none
  | some i => if i ≤ 0 then none else some (.number (i % 65536))

/-- `none` takes the command away. -/
def commandWritten (value : Bytes) : Option ConfigValue :=
  if value = [] then none
  else if equalsIgnoringCase value (ascii "none") then some (.text none)
  else some (.text (some value))

namespace ConfigReader

/-- The host of a `HostName` line, expanded. -/
def hostValue (reader : ConfigReader) (options : Options) (s : Bytes) : Option Bytes :=
  match (sshConfigGetStrTok s).1 with
  | none => none
  | some p =>
      match sshPathExpandEscape reader.environment options p with
      | .ok z => some (z.getD p)
      | .error _ => none

def optionWritten (reader : ConfigReader) (options : Options) (opcode : SshConfigOpcode)
    (s : Bytes) (option : ConfigOption) : Option ConfigValue :=
  let p := (sshConfigGetStrTok s).1
  match opcode, option with
  | .SOC_HOSTNAME, option => (reader.hostValue options s).bind fun value => hostWritten value option
  | .SOC_PORT, .port => if options.port = 0 then p.bind portWritten else none
  | .SOC_USERNAME, .user =>
      if options.username = none then p.map fun user => .text (some user) else none
  | .SOC_PROXYJUMP, .proxyJump =>
      if options.ProxyJump = none then p.map fun jump => .text (some jump) else none
  | .SOC_FORWARDAGENT, .forwardAgent =>
      let i := sshConfigGetYesno s (-1)
      if i ≥ 0 then some (.number (i % 256)) else none
  | .SOC_IDENTITYAGENT, .identityAgent =>
      (p.bind (sshPathExpandTilde reader.environment)).bind fun filename =>
        if filename = [] then none else some (.text (some filename))
  | .SOC_PROXYCOMMAND, .proxyCommand => commandWritten (sshConfigGetCmd s)
  | _, _ => none

end ConfigReader

section

variable {reader : ConfigReader} {options after : Options} {opcode : SshConfigOpcode}
  {s value : Bytes}

/-! ### What a line sets -/

theorem value_setHost (options : Options) (value : Bytes) (option : ConfigOption) :
    (options.setHost value).value option =
      (hostWritten value option).getD (options.value option) := by
  unfold Options.setHost hostWritten
  by_cases empty : value = []
  · simp [empty]
  · cases parts : cut 64 value with
    | none => cases option <;> simp [empty, Options.value]
    | some both => cases option <;> simp [empty, Options.value]

theorem value_setPortStr (options : Options) (value : Bytes) (option : ConfigOption) :
    (options.setPortStr value).value option =
      ((if option = .port then portWritten value else none).getD (options.value option)) := by
  unfold Options.setPortStr portWritten
  cases strtol value with
  | none => simp
  | some i =>
      by_cases refused : i ≤ 0
      · simp [refused]
      · have nonneg : 0 ≤ i % 65536 := Int.emod_nonneg i (by decide)
        cases option <;> simp [refused, Options.value, Int.toNat_of_nonneg nonneg]

theorem value_setProxyCommand (options : Options) (value : Bytes) (option : ConfigOption) :
    (options.setProxyCommand value).value option =
      ((if option = .proxyCommand then commandWritten value else none).getD
        (options.value option)) := by
  unfold Options.setProxyCommand commandWritten
  by_cases empty : value = []
  · simp [empty]
  · by_cases off : equalsIgnoringCase value (ascii "none") = true
    · cases option <;> simp [empty, off, Options.value]
    · cases option <;> simp [empty, off, Options.value]

theorem value_setUser (options : Options) (nonempty : value ≠ []) (option : ConfigOption) :
    (options.setUser value).value option =
      ((if option = .user then some (.text (some value)) else none).getD
        (options.value option)) := by
  have named : Options.ofValue value = some value := if_neg nonempty
  cases option <;> simp [Options.setUser, Options.value, named]

theorem value_setProxyJump (options : Options) (nonempty : value ≠ []) (option : ConfigOption) :
    (options.setProxyJump value).value option =
      ((if option = .proxyJump then some (.text (some value)) else none).getD
        (options.value option)) := by
  have named : Options.ofValue value = some value := if_neg nonempty
  cases option <;> simp [Options.setProxyJump, Options.value, named]

theorem strTok_ne_nil {p : Bytes} (isToken : (sshConfigGetStrTok s).1 = some p) : p ≠ [] := by
  unfold sshConfigGetStrTok at isToken
  by_cases empty : (sshConfigGetToken s).1 = []
  · simp [empty] at isToken
  · simp only [empty, if_false, Option.some.injEq] at isToken
    exact isToken ▸ empty

theorem value_setProtocol (options : Options) (value : Bytes) (option : ConfigOption) :
    (options.setProtocol value).value option = options.value option := by
  have same : ∀ (versions : List Bytes) (options : Options),
      (versions.foldl
        (fun options version =>
          if atoi version = 1 then { options with ssh1 := 1 }
          else if atoi version = 2 then { options with ssh2 := 1 }
          else options) options).value option = options.value option := by
    intro versions
    induction versions with
    | nil => exact fun options => rfl
    | cons version rest ih =>
        intro options
        rw [List.foldl_cons, ih]
        by_cases one : atoi version = 1
        · rw [if_pos one]
          cases option <;> rfl
        · rw [if_neg one]
          by_cases two : atoi version = 2
          · rw [if_pos two]
            cases option <;> rfl
          · rw [if_neg two]
  rw [Options.setProtocol, same]
  cases option <;> rfl

/-- The settings that are no `ConfigOption`. -/
theorem value_addLocalForward (options : Options) (value : Bytes) (option : ConfigOption) :
    (options.addLocalForward value).value option = options.value option := by
  unfold Options.addLocalForward
  split
  · split
    · cases option <;> rfl
    · rfl
  · rfl

theorem value_addEnvVar (options : Options) (value : Bytes) (option : ConfigOption) :
    (options.addEnvVar value).value option = options.value option := by
  unfold Options.addEnvVar
  split
  · cases option <;> rfl
  · rfl

theorem value_setGssServerIdentity (options : Options) (value : Bytes) (option : ConfigOption) :
    (options.setGssServerIdentity value).value option = options.value option := by
  unfold Options.setGssServerIdentity
  split
  · rfl
  · cases option <;> rfl

theorem value_setGssClientIdentity (options : Options) (value : Bytes) (option : ConfigOption) :
    (options.setGssClientIdentity value).value option = options.value option := by
  unfold Options.setGssClientIdentity
  split
  · rfl
  · cases option <;> rfl

namespace ConfigReader

/-- A line that counts sets what is written, and leaves the other options. -/
theorem setOption_value (ok : reader.setOption options opcode s = .ok after)
    (option : ConfigOption) :
    after.value option =
      (reader.optionWritten options opcode s option).getD (options.value option) := by
  unfold setOption at ok
  cases opcode with
  | SOC_HOSTNAME =>
      dsimp only at ok
      unfold optionWritten hostValue
      cases token : (sshConfigGetStrTok s).1 with
      | none =>
          rw [token] at ok
          cases ok
          rfl
      | some p =>
          rw [token] at ok
          dsimp only at ok ⊢
          cases expanded : sshPathExpandEscape reader.environment options p with
          | error fault =>
              rw [expanded] at ok
              cases ok
          | ok z =>
              rw [expanded] at ok
              cases ok
              exact value_setHost options (z.getD p) option
  | SOC_PORT =>
      cases ok
      by_cases unset : options.port = 0
      · rw [if_pos unset]
        cases token : (sshConfigGetStrTok s).1 with
        | none => cases option <;> simp [optionWritten, token]
        | some p =>
            refine (value_setPortStr options p option).trans ?_
            cases option <;> simp [optionWritten, token, unset]
      · rw [if_neg unset]
        cases option <;> simp [optionWritten, unset]
  | SOC_USERNAME =>
      cases ok
      by_cases unset : options.username = none
      · rw [if_pos unset]
        cases token : (sshConfigGetStrTok s).1 with
        | none => cases option <;> simp [optionWritten, token]
        | some p =>
            refine (value_setUser options (strTok_ne_nil token) option).trans ?_
            cases option <;> simp [optionWritten, token, unset]
      · rw [if_neg unset]
        cases option <;> simp [optionWritten, unset]
  | SOC_PROXYJUMP =>
      cases ok
      by_cases unset : options.ProxyJump = none
      · rw [if_pos unset]
        cases token : (sshConfigGetStrTok s).1 with
        | none => cases option <;> simp [optionWritten, token]
        | some p =>
            refine (value_setProxyJump options (strTok_ne_nil token) option).trans ?_
            cases option <;> simp [optionWritten, token, unset]
      · rw [if_neg unset]
        cases option <;> simp [optionWritten, unset]
  | SOC_FORWARDAGENT =>
      cases ok
      by_cases valid : sshConfigGetYesno s (-1) ≥ 0
      · cases option <;> simp [optionWritten, valid, Options.value, Options.setForwardAgent]
      · cases option <;> simp [optionWritten, valid]
  | SOC_IDENTITYAGENT =>
      cases ok
      cases named : ((sshConfigGetStrTok s).1.bind (sshPathExpandTilde reader.environment)) with
      | none => cases option <;> simp [optionWritten, named]
      | some filename =>
          by_cases empty : filename = []
          · cases option <;> simp [optionWritten, named, Options.setIdentityAgent, empty]
          · cases option <;>
              simp [optionWritten, named, Options.value, Options.setIdentityAgent, empty]
  | SOC_PROXYCOMMAND =>
      cases ok
      rw [value_setProxyCommand]
      cases option <;> rfl
  | SOC_PROTOCOL =>
      cases ok
      cases (sshConfigGetStrTok s).1 with
      | none => rfl
      | some p => exact value_setProtocol options p option
  | SOC_TIMEOUT =>
      cases ok
      unfold Options.setTimeout
      split
      · rfl
      · cases option <;> rfl
  | SOC_STRICTHOSTKEYCHECK =>
      cases ok
      split
      · cases option <;> rfl
      · rfl
  | SOC_GSSAPIDELEGATECREDENTIALS =>
      cases ok
      split
      · cases option <;> rfl
      · rfl
  | SOC_KNOWNHOSTS =>
      cases ok
      cases (sshConfigGetStrTok s).1 with
      | none => rfl
      | some p => cases option <;> rfl
  | SOC_GSSAPISERVERIDENTITY =>
      cases ok
      cases (sshConfigGetStrTok s).1 with
      | none => rfl
      | some p => exact value_setGssServerIdentity options p option
  | SOC_GSSAPICLIENTIDENTITY =>
      cases ok
      cases (sshConfigGetStrTok s).1 with
      | none => rfl
      | some p => exact value_setGssClientIdentity options p option
  | SOC_LOCALFORWARD =>
      dsimp only at ok
      split at ok
      · cases ok
        exact value_addLocalForward options _ option
      · cases ok
        rfl
  | SOC_SETENV =>
      cases ok
      cases (sshConfigGetStrTok s).1 with
      | none => rfl
      | some p => exact value_addEnvVar options p option
  | SOC_UNSUPPORTED | SOC_HOST | SOC_MATCH | SOC_INCLUDE =>
      cases ok
      rfl

end ConfigReader

end

end EternalTerminal
