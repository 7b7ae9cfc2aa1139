/-
The options that an ssh configuration sets, and the texts that are expanded for them
(`ssh_options_set`, `ssh_path_expand_tilde` and `ssh_path_expand_escape`).

A `char*` that may be NULL is an `Option`.  The callers ignore what `ssh_options_set` returns.
-/

import EternalTerminal.Setup.ConfigTokens

namespace EternalTerminal

open Library

structure Options where
  username : Option Bytes
  host : Option Bytes
  sshdir : Option Bytes
  knownhosts : Option Bytes
  ProxyCommand : Option Bytes
  ProxyJump : Option Bytes
  timeout : Nat
  port : Nat
  StrictHostKeyChecking : Int
  ssh2 : Int
  ssh1 : Int
  gss_server_identity : Option Bytes
  gss_client_identity : Option Bytes
  gss_delegate_creds : Int
  forward_agent : Int
  identity_agent : Option Bytes
  local_forwards : List (Int × Int)
  env_vars : List (Bytes × Bytes)
  deriving DecidableEq

/-- What the parser asks the system.  `hostBuffer` is what `%l` finds in a buffer that nothing
was written to, if anything. -/
structure ConfigEnvironment where
  sshGetUserHomeDir : Option Bytes
  getpwnam : Bytes → Option Bytes
  sshGetLocalUsername : Option Bytes
  hostBuffer : Option Bytes

/-- What ends the parser before it returns: `strdup` of NULL, and what `std::filesystem` and
`std::regex` throw. -/
inductive ConfigFault where
  | nullString
  | filesystemError
  | regexError
  deriving DecidableEq

def MAX_BUF_SIZE : Nat := 4096

def strdup : Option Bytes → Except ConfigFault Bytes
  | some text => .ok text
  | none => .error .nullString

/-! ### Expansion -/

def sshPathExpandTilde (environment : ConfigEnvironment) : Bytes → Option Bytes
  | 126 :: d =>
      match cut 47 d with
      | some (user, path) =>
          if user ≠ [] then
            if user.length ≥ 128 then none
            else (environment.getpwnam user).map (· ++ 47 :: path)
          else environment.sshGetUserHomeDir.map (· ++ d)
      | none => environment.sshGetUserHomeDir.map (· ++ d)
  | d => some d

/-- What stands for `%` and the character; NULL if it is an error. -/
def escapeText (environment : ConfigEnvironment) (options : Options) (char : UInt8) :
    Except ConfigFault (Option Bytes) :=
  if char = 100 then (strdup options.sshdir).map some
  else if char = 117 then .ok environment.sshGetLocalUsername
  else if char = 108 then .ok environment.hostBuffer
  else if char = 104 then (strdup options.host).map some
  else if char = 114 then (strdup options.username).map some
  else if char = 112 then .ok (if options.port < 65536 then some (decimal options.port) else none)
  else .ok none

/-- The loop over the text, with the buffer as it is filled. -/
def expandEscapes (environment : ConfigEnvironment) (options : Options) :
    Bytes → Bytes → Except ConfigFault (Option Bytes)
  | [], buf => .ok (some buf)
  | 37 :: [], buf => .ok (some buf)
  | 37 :: char :: rest, buf =>
      match escapeText environment options char with
      | .error fault => .error fault
      | .ok none => .ok none
      | .ok (some x) =>
          if buf.length + x.length ≥ MAX_BUF_SIZE then .ok none
          else expandEscapes environment options rest (buf ++ x)
  | byte :: rest, buf =>
      if buf.length + 1 ≥ MAX_BUF_SIZE then .ok none
      else expandEscapes environment options rest (buf ++ [byte])

def sshPathExpandEscape (environment : ConfigEnvironment) (options : Options) (s : Bytes) :
    Except ConfigFault (Option Bytes) :=
  match sshPathExpandTilde environment s with
  | none => .ok none
  | some r =>
      if r.length > MAX_BUF_SIZE then .ok none else expandEscapes environment options r []

/-! ### `ssh_options_set` -/

/-- `atoi`. -/
def atoi (text : Bytes) : Int := toInt32 ((strtol text).getD 0)

/-- The words that `strtok` finds. -/
def strtok (delim : UInt8) (text : Bytes) : List Bytes := (text.splitOn delim).filter (· ≠ [])

namespace Options

def zero : Options :=
  { username := none
    host := none
    sshdir := none
    knownhosts := none
    ProxyCommand := none
    ProxyJump := none
    timeout := 0
    port := 0
    StrictHostKeyChecking := 0
    ssh2 := 0
    ssh1 := 0
    gss_server_identity := none
    gss_client_identity := none
    gss_delegate_creds := 0
    forward_agent := 0
    identity_agent := none
    local_forwards := []
    env_vars := [] }

/-- `SSH_OPTIONS_HOST`: a user name in front of an '@' is taken as well. -/
def setHost (options : Options) (value : Bytes) : Options :=
  if value = [] then options
  else
    match cut 64 value with
    | some (user, host) => { options with host := some host, username := some user }
    | none => { options with host := some value }

def setPortStr (options : Options) (value : Bytes) : Options :=
  match strtol value with
  | none => options
  | some i => if i ≤ 0 then options else { options with port := (i % 65536).toNat }

/-- A text option that is freed first and stays NULL if the value is empty. -/
def ofValue (value : Bytes) : Option Bytes := if value = [] then none else some value

def setUser (options : Options) (value : Bytes) : Options :=
  { options with username := ofValue value }

def setProxyJump (options : Options) (value : Bytes) : Options :=
  { options with ProxyJump := ofValue value }

def setKnownHosts (options : Options) (value : Bytes) : Options :=
  { options with knownhosts := ofValue value }

def setTimeout (options : Options) (value : Int) : Options :=
  if value < 0 then options else { options with timeout := (value % 2 ^ 32).toNat }

/-- "none" takes the command away. -/
def setProxyCommand (options : Options) (value : Bytes) : Options :=
  if value = [] then options
  else if equalsIgnoringCase value (ascii "none") then { options with ProxyCommand := none }
  else { options with ProxyCommand := some value }

def setGssServerIdentity (options : Options) (value : Bytes) : Options :=
  if value = [] then options else { options with gss_server_identity := some value }

def setGssClientIdentity (options : Options) (value : Bytes) : Options :=
  if value = [] then options else { options with gss_client_identity := some value }

def setGssDelegateCredentials (options : Options) (value : Int) : Options :=
  { options with gss_delegate_creds := value % 256 }

def setStrictHostKeyChecking (options : Options) (value : Int) : Options :=
  { options with StrictHostKeyChecking := value }

def setForwardAgent (options : Options) (value : Int) : Options :=
  { options with forward_agent := value % 256 }

def setIdentityAgent (options : Options) (value : Bytes) : Options :=
  if value = [] then options else { options with identity_agent := some value }

/-- Of `SOC_PROTOCOL`. -/
def setProtocol (options : Options) (value : Bytes) : Options :=
  (strtok 44 value).foldl
    (fun options version =>
      if atoi version = 1 then { options with ssh1 := 1 }
      else if atoi version = 2 then { options with ssh2 := 1 }
      else options)
    { options with ssh1 := 0, ssh2 := 0 }

/-- `port host:hostport`. -/
def addLocalForward (options : Options) (value : Bytes) : Options :=
  match strtok 32 value with
  | localPort :: remote :: _ =>
      match cut 58 remote.reverse with
      | some (remotePort, _) =>
          { options with
            local_forwards :=
              options.local_forwards ++ [(atoi localPort, atoi remotePort.reverse)] }
      | none => options
  | _ => options

def addEnvVar (options : Options) (value : Bytes) : Options :=
  match cut 61 value with
  | some (name, content) => { options with env_vars := options.env_vars ++ [(name, content)] }
  | none => options

end Options

end EternalTerminal
