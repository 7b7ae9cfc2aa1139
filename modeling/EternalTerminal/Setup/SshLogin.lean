/-
`SetupSsh`, the etterminals that it starts over ssh, and the servers that these tell about it.

The client is handed what an etterminal prints, the server what it sends to the router; a login
is good when the two agree.
-/

import EternalTerminal.Setup.TerminalMain
import EternalTerminal.Terminal.UserInfo

namespace EternalTerminal

open Library

/-! ### Drawing a pair -/

def alphanum : Bytes := ascii "0123456789ABCDEFGHIJKLMNOPQRSTUVWXYZabcdefghijklmnopqrstuvwxyz"

/-- `genRandomAlphaNum` with what `randombytes_uniform` answers, call by call. -/
def genRandomAlphaNum (len : Nat) (answers : Nat → Fin 62) : Bytes :=
  (List.range len).map fun i => alphanum.getD (answers i) 0

/-- The passkey is drawn first. -/
def drawPair (answers : Nat → Fin 62) : IdPasskey :=
  { id := genRandomAlphaNum 16 fun i => answers (32 + i)
    passkey := genRandomAlphaNum 32 answers }

theorem genRandomAlphaNum_alphaNumeric (len : Nat) (answers : Nat → Fin 62) :
    AlphaNumeric (genRandomAlphaNum len answers) := by
  have all : ∀ answer : Fin 62, isAlphaNum (alphanum.getD answer 0) = true := by decide +kernel
  intro byte drawn
  obtain ⟨i, _, rfl⟩ := List.mem_map.mp drawn
  exact all (answers i)

theorem drawPair_wellFormed (answers : Nat → Fin 62) : (drawPair answers).WellFormed where
  id := genRandomAlphaNum_alphaNumeric _ _
  passkey := genRandomAlphaNum_alphaNumeric _ _
  idLength := by simp [drawPair, genRandomAlphaNum]
  passkeyLength := by simp [drawPair, genRandomAlphaNum]

theorem IdPasskey.WellFormed.id_ne_nil {credentials : IdPasskey}
    (wellFormed : credentials.WellFormed) : credentials.id ≠ [] := by
  apply List.ne_nil_of_length_pos
  rw [wellFormed.idLength]
  decide

theorem IdPasskey.WellFormed.passkey_ne_nil {credentials : IdPasskey}
    (wellFormed : credentials.WellFormed) : credentials.passkey ≠ [] := by
  apply List.ne_nil_of_length_pos
  rw [wellFormed.passkeyLength]
  decide

/-! ### etterminal -/

/-- What `main` writes to the standard output before it exits. -/
def MainFailure.printed : MainFailure → Bytes
  | .exited =>
      ascii "Call etterminal with --idpasskey or --idpasskeyfile, or feed this information on " ++
        ascii "stdin\n"
  | .badIndex | .abort _ => []

/-- The pair that etterminal goes on with, and what it prints; TERM is only for its shell. -/
structure Etterminal where
  credentials : Except MainFailure IdPasskey
  printed : Bytes

namespace Etterminal

/-- The two items that `UserTerminalHandler` and `UserJumphostHandler` take. -/
def pair (idpasskey : Bytes) : Except MainFailure IdPasskey :=
  match split 47 idpasskey with
  | id :: passkey :: _ => .ok { id := id, passkey := passkey }
  | _ => .error .badIndex

def idpasskeyLine (idpasskey : Bytes) : Bytes := marker ++ (idpasskey ++ [10])

/-- `main` up to where it leaves the terminal.  With --jump it prints the pair before it takes it
apart. -/
def main (jump : Bool) (input : MainInput) (fresh : IdPasskey) : Etterminal :=
  match readCredentials input fresh with
  | .error failure =>
      { credentials := .error failure
        printed := failure.printed }
  | .ok read =>
      match mainId input fresh with
      | .error failure =>
          { credentials := .error failure
            printed := failure.printed }
      | .ok _id =>
          match pair read.idpasskey with
          | .error failure =>
              { credentials := .error failure
                printed := if jump then idpasskeyLine read.idpasskey else failure.printed }
          | .ok credentials =>
              { credentials := .ok credentials
                printed := idpasskeyLine read.idpasskey }

variable {jump : Bool} {input : MainInput} {credentials fresh : IdPasskey}

theorem pair_line (wellFormed : credentials.WellFormed) :
    split 47 credentials.line = [credentials.id, credentials.passkey] := by
  have noSlash {text : Bytes} (alphaNumeric : AlphaNumeric text) : (47 : UInt8) ∉ text :=
    alphaNumeric.not_mem (by decide)
  rw [split_eq_items, IdPasskey.line, items_append_delim (noSlash wellFormed.id),
    items_of_not_mem (noSlash wellFormed.passkey) wellFormed.passkey_ne_nil]

theorem main_line {term : Option Bytes} (wellFormed : credentials.WellFormed)
    (read : readCredentials input fresh = .ok { idpasskey := credentials.line, term := term }) :
    main jump input fresh =
      { credentials := .ok credentials
        printed := idpasskeyLine credentials.line } := by
  have items := pair_line wellFormed
  have isId : mainId input fresh = .ok credentials.id := by
    unfold mainId
    rw [read]
    simp only [items]
  have isPair : pair credentials.line = .ok credentials := by
    unfold pair
    rw [items]
  unfold main
  rw [read, isId]
  simp only [isPair]

theorem main_failed {failure : MainFailure}
    (failed : readCredentials input fresh = .error failure) :
    main jump input fresh =
      { credentials := .error failure
        printed := failure.printed } := by
  unfold main
  rw [failed]

end Etterminal

/-! ### The client and its hosts -/

/-- What `SetupSsh` is given, apart from where it logs in, and what its calls answer. -/
structure SshSetup where
  answers : Nat → Fin 62
  term : Option Bytes
  user : Bytes
  host : Bytes
  port : Int
  jServerFifo : Bytes
  kill : Bool
  vlevel : Int
  cmdPrefix : Bytes
  serverFifo : Bytes

namespace SshSetup

variable (setup : SshSetup)

def clientTerm : Bytes := setup.term.getD (ascii "xterm-256color")

/-- An id of XXX asks for a fresh pair. -/
def generated : IdPasskey :=
  { id := ascii "XXX" ++ (drawPair setup.answers).id.drop 3
    passkey := (drawPair setup.answers).passkey }

def verbosity : Bytes := ascii "--verbose=" ++ ascii (toString setup.vlevel)

def cmdoptions : Bytes :=
  setup.verbosity ++
    if setup.serverFifo = [] then [] else ascii " --serverfifo=" ++ setup.serverFifo

def jumpCmdoptions : Bytes :=
  setup.verbosity ++
    (if setup.jServerFifo = [] then [] else ascii " --serverfifo=" ++ setup.jServerFifo) ++
    ascii " --jump --dsthost=" ++ setup.host ++ ascii " --dstport=" ++ ascii (toString setup.port)

def command (credentials : IdPasskey) (options : Bytes) : Bytes :=
  genCommand credentials.passkey credentials.id setup.clientTerm setup.user setup.kill
    setup.cmdPrefix options

end SshSetup

/-- A host that ssh logs in to: what its shell puts into a pipe, what the login prints around the
command, and the etserver there. -/
structure LoginHost where
  piped : Bytes → Bytes
  before : Bytes
  after : Bytes
  answers : Nat → Fin 62
  uid : UInt32
  gid : UInt32
  terminalFd : Fd
  server : ServerRegistry

namespace LoginHost

variable (host : LoginHost)

def fresh : IdPasskey := drawPair host.answers

def etterminal (jump : Bool) (command : Bytes) : Etterminal :=
  Etterminal.main jump
    { idpasskey := none
      idpasskeyfile := none
      stdin := some (host.piped command) } host.fresh

def output (jump : Bool) (command : Bytes) : Bytes :=
  host.before ++ ((host.etterminal jump command).printed ++ host.after)

def userInfo (credentials : IdPasskey) : UserInfoMessage :=
  { id := credentials.id
    passkey := credentials.passkey
    uid := host.uid
    gid := host.gid }

def serverAfter (jump : Bool) (command : Bytes) : Outcome Exn ServerRegistry :=
  match (host.etterminal jump command).credentials with
  | .error _ => .returned host.server
  | .ok credentials =>
      host.server.acceptTerminal host.terminalFd (packetFrame (host.userInfo credentials).packet)

end LoginHost

namespace SshSetup

variable (setup : SshSetup)

/-- `SetupSsh`, with the hosts that it logs in to. -/
def run (destination : LoginHost) (jumphost : Option LoginHost) :
    Except SetupFailure IdPasskey := do
  let sshBuffer := destination.output false (setup.command setup.generated setup.cmdoptions)
  let credentials ← destinationCredentials sshBuffer setup.generated
  setupSsh setup.generated sshBuffer
    (jumphost.map fun host => host.output true (setup.command credentials setup.jumpCmdoptions))

def destinationAfter (destination : LoginHost) : Outcome Exn ServerRegistry :=
  destination.serverAfter false (setup.command setup.generated setup.cmdoptions)

end SshSetup

/-! ### What etterminal reads -/

namespace SshSetup

variable {setup : SshSetup}

theorem generated_wellFormed (setup : SshSetup) : setup.generated.WellFormed := by
  have drawn := drawPair_wellFormed setup.answers
  constructor
  · intro byte inId
    rcases List.mem_append.mp inId with isX | inDrawn
    · have all : AlphaNumeric (ascii "XXX") := by decide
      exact all byte isX
    · exact drawn.id byte (List.mem_of_mem_drop inDrawn)
  · exact drawn.passkey
  · have three : (ascii "XXX").length = 3 := by decide
    have long := drawn.idLength
    simp only [generated, List.length_append, List.length_drop]
    omega
  · exact drawn.passkeyLength

theorem generated_id (setup : SshSetup) : setup.generated.id.take 3 = ascii "XXX" :=
  List.take_left' (by decide)

/-- The first line of TERM is one token. -/
def TermTaken (setup : SshSetup) : Prop :=
  ∃ term, split 95 (setup.clientTerm.takeWhile (· ≠ 10)) = [term]

end SshSetup

/-- A line that ends in a newline is taken up to the first one. -/
theorem getline_newline (text : Bytes) :
    getline (text ++ [10]) = some (text.takeWhile (· ≠ 10)) := by
  rw [getline, if_neg (by simp), List.takeWhile_append]
  split
  case isTrue whole =>
      have all : text.takeWhile (· ≠ 10) = text := (List.takeWhile_prefix _).eq_of_length whole
      rw [all]
      exact congrArg some (List.append_nil text)
  case isFalse => rfl

namespace LoginHost

variable {setup : SshSetup} {host : LoginHost} {credentials : IdPasskey}

/-- The pair that etterminal goes on with when it is handed this one. -/
def kept (host : LoginHost) (credentials : IdPasskey) : IdPasskey :=
  if credentials.id.take 3 = ascii "XXX" then host.fresh else credentials

theorem kept_wellFormed (host : LoginHost) (wellFormed : credentials.WellFormed) :
    (host.kept credentials).WellFormed := by
  unfold kept
  split
  · exact drawPair_wellFormed host.answers
  · exact wellFormed

theorem kept_line : (host.kept credentials).line =
    if credentials.line.take 3 = ascii "XXX" then host.fresh.line else credentials.line := by
  rw [kept, apply_ite IdPasskey.line]
  exact if_congr (take_line credentials).symm rfl rfl

/-- How a command reaches etterminal: `echo` prints what is quoted. -/
structure Runs (host : LoginHost) (setup : SshSetup) : Prop where
  echoes : EchoesQuoted host.piped
  quotable : Quotable setup.clientTerm
  word : setup.kill = true → ShellWord setup.user

theorem Runs.stdin (runs : host.Runs setup) (wellFormed : credentials.WellFormed)
    (options : Bytes) :
    host.piped (setup.command credentials options) =
      (credentials.line ++ 95 :: setup.clientTerm) ++ [10] := by
  rw [SshSetup.command, piped_genCommand runs.echoes wellFormed.id wellFormed.passkey
    runs.quotable runs.word]
  simp

theorem Runs.tokens (runs : host.Runs setup) (wellFormed : credentials.WellFormed)
    (options : Bytes) :
    ∃ line, getline (host.piped (setup.command credentials options)) = some line ∧
      split 95 line = credentials.line :: split 95 (setup.clientTerm.takeWhile (· ≠ 10)) := by
  have underscore : 95 ∉ credentials.line :=
    line_not_mem wellFormed.id wellFormed.passkey (by decide) (by decide)
  have newline : 10 ∉ credentials.line :=
    line_not_mem wellFormed.id wellFormed.passkey (by decide) (by decide)
  have all : ∀ byte ∈ credentials.line ++ [95], decide (byte ≠ 10) = true := by
    intro byte member
    rcases List.mem_append.mp member with inLine | isUnderscore
    · exact decide_eq_true fun same => newline (same ▸ inLine)
    · rw [List.mem_singleton.mp isUnderscore]
      decide
  have whole : credentials.line ++ 95 :: setup.clientTerm =
      (credentials.line ++ [95]) ++ setup.clientTerm := by simp
  refine ⟨_, by rw [runs.stdin wellFormed, getline_newline], ?_⟩
  rw [whole, List.takeWhile_append_of_pos all, List.append_assoc, List.singleton_append,
    split_eq_items, items_append_delim underscore, split_eq_items]

theorem Runs.taken (runs : host.Runs setup) (wellFormed : credentials.WellFormed)
    (taken : setup.TermTaken) (jump : Bool) (options : Bytes) :
    host.etterminal jump (setup.command credentials options) =
      { credentials := .ok (host.kept credentials)
        printed := Etterminal.idpasskeyLine (host.kept credentials).line } := by
  obtain ⟨term, isTerm⟩ := taken
  obtain ⟨line, isLine, tokens⟩ := runs.tokens wellFormed options
  have read : readCredentials
      { idpasskey := none
        idpasskeyfile := none
        stdin := some (host.piped (setup.command credentials options)) } host.fresh =
      .ok { idpasskey := (host.kept credentials).line, term := some term } := by
    rw [readCredentials, if_pos ⟨rfl, rfl⟩, stdinCredentials, Option.bind_some, isLine]
    simp only [tokens, isTerm, kept_line]
  exact Etterminal.main_line (kept_wellFormed host wellFormed) read

theorem Runs.refused (runs : host.Runs setup) (wellFormed : credentials.WellFormed)
    (refused : ¬ setup.TermTaken) (jump : Bool) (options : Bytes) :
    host.etterminal jump (setup.command credentials options) =
      { credentials := .error (.abort "Invalid number of tokens")
        printed := [] } := by
  obtain ⟨line, isLine, tokens⟩ := runs.tokens wellFormed options
  refine Etterminal.main_failed ?_
  rw [readCredentials, if_pos ⟨rfl, rfl⟩, stdinCredentials, Option.bind_some, isLine]
  rcases isTerm : split 95 (setup.clientTerm.takeWhile (· ≠ 10)) with _ | ⟨term, _ | ⟨next, more⟩⟩
  · simp only [tokens, isTerm]
  · exact absurd ⟨term, isTerm⟩ refused
  · simp only [tokens, isTerm]

theorem Runs.output (runs : host.Runs setup) (wellFormed : credentials.WellFormed)
    (taken : setup.TermTaken) (jump : Bool) (options : Bytes) :
    host.output jump (setup.command credentials options) =
      sshOutput host.before (host.kept credentials) (10 :: host.after) := by
  rw [LoginHost.output, runs.taken wellFormed taken]
  simp [Etterminal.idpasskeyLine, sshOutput]

/-- The server has heard of neither a terminal nor a client with this id. -/
structure New (server : ServerRegistry) (id : Bytes) : Prop where
  terminal : server.router.idInfoMap id = none
  client : server.clientConnections id = none

theorem Runs.enrolls (runs : host.Runs setup) (wellFormed : credentials.WellFormed)
    (taken : setup.TermTaken) (jump : Bool) (options : Bytes)
    (new : New host.server (host.kept credentials).id) :
    host.serverAfter jump (setup.command credentials options) =
        .returned (host.server.enrolled (host.userInfo (host.kept credentials)) host.terminalFd) ∧
      (host.server.enrolled (host.userInfo (host.kept credentials)) host.terminalFd).Admits
        (host.kept credentials).id (host.kept credentials).passkey host.terminalFd := by
  have isKept := kept_wellFormed host wellFormed
  have idShort : (host.userInfo (host.kept credentials)).id.length < 2 ^ 20 := by
    rw [userInfo, isKept.idLength]
    decide
  have passkeyShort : (host.userInfo (host.kept credentials)).passkey.length < 2 ^ 20 := by
    rw [userInfo, isKept.passkeyLength]
    decide
  constructor
  · rw [serverAfter, runs.taken wellFormed taken]
    exact ServerRegistry.acceptTerminal_new idShort passkeyShort isKept.id_ne_nil new.terminal
  · exact ServerRegistry.enrolled_admits isKept.passkeyLength new.client

end LoginHost

/-! ### Both ends of a login -/

section

variable {setup : SshSetup} {destination jumphost : LoginHost}

/-- The check at the end of `SetupSsh`. -/
theorem IdPasskey.WellFormed.checked {credentials : IdPasskey}
    (wellFormed : credentials.WellFormed) :
    (if credentials.id = [] ∨ credentials.passkey = [] then
        .error (.abort "Somehow missing id or passkey")
      else .ok credentials : Except SetupFailure IdPasskey) = .ok credentials := by
  refine if_neg ?_
  rintro (empty | empty)
  · exact wellFormed.id_ne_nil empty
  · exact wellFormed.passkey_ne_nil empty

theorem LoginHost.kept_generated (host : LoginHost) (setup : SshSetup) :
    host.kept setup.generated = host.fresh := if_pos setup.generated_id

theorem destination_reads (runs : destination.Runs setup) (taken : setup.TermTaken)
    (silent : ¬ marker <:+: destination.before) :
    destinationCredentials
        (destination.output false (setup.command setup.generated setup.cmdoptions))
        setup.generated = .ok destination.fresh := by
  rw [runs.output setup.generated_wellFormed taken, destination.kept_generated]
  exact destinationCredentials_line (drawPair_wellFormed _) silent _

/-- `SetupSsh` returns the pair of the etterminal that it has started, and the server knows it; or
etterminal does not start for its TERM, and `SetupSsh` returns the pair that it has made up, of
which no server knows. -/
theorem login_agrees (runs : destination.Runs setup)
    (silent : ¬ marker <:+: destination.before ++ destination.after)
    (new : LoginHost.New destination.server destination.fresh.id)
    (madeUp : destination.server.clientKeys setup.generated.id = none) :
    (setup.TermTaken →
      setup.run destination none = .ok destination.fresh ∧
        ∃ server, setup.destinationAfter destination = .returned server ∧
          server.Admits destination.fresh.id destination.fresh.passkey destination.terminalFd) ∧
    (¬ setup.TermTaken →
      setup.run destination none = .ok setup.generated ∧
        setup.destinationAfter destination = .returned destination.server ∧
        destination.server.lookup setup.generated.id =
          .ok (.notRegistered, destination.server)) := by
  have isGenerated := setup.generated_wellFormed
  have isFresh : destination.fresh.WellFormed := drawPair_wellFormed destination.answers
  constructor
  · intro taken
    have read := destination_reads runs taken fun early =>
      silent (early.trans (List.prefix_append _ _).isInfix)
    obtain ⟨enrolled, admits⟩ := runs.enrolls isGenerated taken false setup.cmdoptions
      (destination.kept_generated setup ▸ new)
    rw [destination.kept_generated] at enrolled admits
    constructor
    · rw [SshSetup.run, read]
      show setupSsh setup.generated _ none = _
      rw [setupSsh, read]
      exact isFresh.checked
    · exact ⟨_, enrolled, admits⟩
  · intro refused
    have stopped := runs.refused isGenerated refused false setup.cmdoptions
    have output : destination.output false (setup.command setup.generated setup.cmdoptions) =
        destination.before ++ destination.after := by
      rw [LoginHost.output, stopped]
      rfl
    have read : destinationCredentials (destination.before ++ destination.after)
        setup.generated = .ok setup.generated := by
      unfold destinationCredentials
      split
      · rfl
      · rw [find_eq_none silent]
    refine ⟨?_, ?_, ServerRegistry.lookup_unknown madeUp⟩
    · rw [SshSetup.run, output, read]
      show setupSsh setup.generated _ none = _
      rw [setupSsh, read]
      exact isGenerated.checked
    · rw [SshSetup.destinationAfter, LoginHost.serverAfter, stopped]

def sampleSetup : SshSetup :=
  { answers := fun _ => 0
    term := some (ascii "xterm")
    user := []
    host := ascii "home"
    port := 2022
    jServerFifo := []
    kill := false
    vlevel := 0
    cmdPrefix := []
    serverFifo := [] }

def sampleHost (answer : Fin 62) : LoginHost :=
  { piped := echoShell
    before := []
    after := []
    answers := fun _ => answer
    uid := 1000
    gid := 1000
    terminalFd := 5
    server := ServerRegistry.empty }

theorem sampleHost_runs (answer : Fin 62) : (sampleHost answer).Runs sampleSetup where
  echoes := echoShell_echoesQuoted
  quotable := by decide
  word := nofun

theorem sampleSetup_taken : sampleSetup.TermTaken := ⟨ascii "xterm", by decide⟩

theorem login_agrees_xterm :
    sampleSetup.run (sampleHost 0) none = .ok (sampleHost 0).fresh ∧
      ∃ server, sampleSetup.destinationAfter (sampleHost 0) = .returned server ∧
        server.Admits (sampleHost 0).fresh.id (sampleHost 0).fresh.passkey 5 :=
  (login_agrees (sampleHost_runs 0) (by decide) ⟨rfl, rfl⟩ rfl).1 sampleSetup_taken

/-- Through a jumphost, all have one pair exactly when the one drawn at the destination does not
happen to start with XXX: the jumphost's etterminal would draw another. -/
theorem jump_login_agrees_iff (runs : destination.Runs setup) (jumpRuns : jumphost.Runs setup)
    (taken : setup.TermTaken) (silent : ¬ marker <:+: destination.before)
    (plain : 58 ∉ jumphost.before)
    (new : LoginHost.New destination.server destination.fresh.id)
    (jumpNew : LoginHost.New jumphost.server (jumphost.kept destination.fresh).id)
    (foreign : destination.server.clientKeys jumphost.fresh.id = none)
    (apart : jumphost.fresh.id ≠ destination.fresh.id) :
    ∃ destinationServer jumphostServer,
      setup.destinationAfter destination = .returned destinationServer ∧
      jumphost.serverAfter true (setup.command destination.fresh setup.jumpCmdoptions) =
        .returned jumphostServer ∧
      setup.run destination (some jumphost) = .ok (jumphost.kept destination.fresh) ∧
      (jumphost.etterminal true
        (setup.command destination.fresh setup.jumpCmdoptions)).credentials =
          .ok (jumphost.kept destination.fresh) ∧
      jumphostServer.Admits (jumphost.kept destination.fresh).id
        (jumphost.kept destination.fresh).passkey jumphost.terminalFd ∧
      (destinationServer.Admits (jumphost.kept destination.fresh).id
          (jumphost.kept destination.fresh).passkey destination.terminalFd ↔
        destination.fresh.id.take 3 ≠ ascii "XXX") := by
  have isGenerated := setup.generated_wellFormed
  have isFresh : destination.fresh.WellFormed := drawPair_wellFormed destination.answers
  have isKept := LoginHost.kept_wellFormed jumphost isFresh
  have read := destination_reads runs taken silent
  obtain ⟨enrolled, admits⟩ := runs.enrolls isGenerated taken false setup.cmdoptions
    (destination.kept_generated setup ▸ new)
  rw [destination.kept_generated] at enrolled admits
  obtain ⟨jumpEnrolled, jumpAdmits⟩ :=
    jumpRuns.enrolls isFresh taken true setup.jumpCmdoptions jumpNew
  refine ⟨_, _, enrolled, jumpEnrolled, ?_, ?_, jumpAdmits, ?_⟩
  · have linked : jumphostCredentials
        (jumphost.output true (setup.command destination.fresh setup.jumpCmdoptions)) =
          .ok (jumphost.kept destination.fresh) := by
      rw [jumpRuns.output isFresh taken]
      exact (jumphostCredentials_line_iff isKept _ _).mpr (.inl plain)
    rw [SshSetup.run, read]
    show setupSsh setup.generated _ (some _) = _
    rw [setupSsh, read]
    show (jumphostCredentials _ >>= _) = _
    rw [linked]
    exact isKept.checked
  · rw [jumpRuns.taken isFresh taken]
  · by_cases redrawn : destination.fresh.id.take 3 = ascii "XXX"
    · have isOther : jumphost.kept destination.fresh = jumphost.fresh := if_pos redrawn
      rw [isOther]
      refine iff_of_false ?_ (not_not.mpr redrawn)
      intro admitted
      have unknown : (destination.server.enrolled (destination.userInfo destination.fresh)
          destination.terminalFd).clientKeys jumphost.fresh.id = none :=
        (Function.update_of_ne apart _ _).trans foreign
      obtain ⟨_, _, connects, _⟩ := admitted.connects
      cases (ServerRegistry.lookup_unknown unknown).symm.trans connects
    · have isSame : jumphost.kept destination.fresh = destination.fresh := if_neg redrawn
      rw [isSame]
      exact iff_of_true admits redrawn

theorem jump_login_agrees_iff_digits :
    ∃ destinationServer jumphostServer : ServerRegistry,
      sampleSetup.run (sampleHost 0) (some (sampleHost 1)) = .ok (sampleHost 0).fresh ∧
      jumphostServer.Admits (sampleHost 0).fresh.id (sampleHost 0).fresh.passkey 5 ∧
      destinationServer.Admits (sampleHost 0).fresh.id (sampleHost 0).fresh.passkey 5 := by
  have drawn : (sampleHost 0).fresh.id.take 3 ≠ ascii "XXX" := by decide +kernel
  have isSame : (sampleHost 1).kept (sampleHost 0).fresh = (sampleHost 0).fresh := if_neg drawn
  have apart : (sampleHost 1).fresh.id ≠ (sampleHost 0).fresh.id := by decide +kernel
  obtain ⟨destinationServer, jumphostServer, _, _, returned, _, jumpAdmits, admits⟩ :=
    jump_login_agrees_iff (sampleHost_runs 0) (sampleHost_runs 1) sampleSetup_taken (by decide)
      (by decide) ⟨rfl, rfl⟩ ⟨rfl, rfl⟩ rfl apart
  rw [isSame] at returned jumpAdmits admits
  exact ⟨destinationServer, jumphostServer, returned, jumpAdmits, admits.mpr drawn⟩

end

end EternalTerminal
