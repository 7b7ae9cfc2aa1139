/-
`TerminalMain.cpp`: where etterminal has its id and passkey from.

They come on standard input, in the line of `genCommand`, or with an option.  The value of an
option is kept in a variable of the inner block, and lost with it.
-/

import EternalTerminal.Setup.SshSetupHandler

namespace EternalTerminal

open Library

/-- How `main` ends before it has credentials. -/
inductive MainFailure where
  | exited
  | badIndex
  | abort (message : String)
  deriving DecidableEq

/-- The options, where `idpasskeyfile` is the content of the file, and what arrives on
standard input within a second. -/
structure MainInput where
  idpasskey : Option Bytes
  idpasskeyfile : Option Bytes
  stdin : Option Bytes

/-- The variable `idpasskey` after the block that sets it, and the value given to TERM. -/
structure MainCredentials where
  idpasskey : Bytes
  term : Option Bytes
  deriving DecidableEq

/-- `getline(cin, ..)`. -/
def getline (stdin : Bytes) : Option Bytes :=
  if stdin = [] then none else some (stdin.takeWhile (· ≠ 10))

/-- The line on standard input; `fresh` is the pair made up for a new client. -/
def stdinCredentials (stdin : Option Bytes) (fresh : IdPasskey) :
    Except MainFailure MainCredentials :=
  match stdin.bind getline with
  | none => .error .exited
  | some stdinData =>
      match split 95 stdinData with
      | [idpasskey, term] =>
          .ok
            { idpasskey := if idpasskey.take 3 = ascii "XXX" then fresh.line else idpasskey
              term := some term }
      | _ => .error (.abort "Invalid number of tokens")

/-- The `idpasskey` of the inner block. -/
def optionCredentials (input : MainInput) : Bytes :=
  match input.idpasskeyfile with
  | some buffer => buffer.rdropWhile isBlank
  | none => input.idpasskey.getD []

def readCredentials (input : MainInput) (fresh : IdPasskey) :
    Except MainFailure MainCredentials :=
  if input.idpasskey = none ∧ input.idpasskeyfile = none then stdinCredentials input.stdin fresh
  else
    -- `string idpasskey` is declared again here, so the outer variable stays empty.
    let _idpasskey := optionCredentials input
    .ok
      { idpasskey := []
        term := none }

/-- `split(idpasskey, '/')[0]`, with which `main` goes on. -/
def mainId (input : MainInput) (fresh : IdPasskey) : Except MainFailure Bytes :=
  match readCredentials input fresh with
  | .error failure => .error failure
  | .ok credentials =>
      match split 47 credentials.idpasskey with
      | [] => .error .badIndex
      | id :: _ => .ok id

/-! ### The shell between ssh and etterminal -/

/-- A word that a shell leaves as it is. -/
def ShellWord (text : Bytes) : Prop :=
  ∀ byte ∈ text, isAlphaNum byte = true ∨ byte = 45 ∨ byte = 46 ∨ byte = 95

def Quotable (text : Bytes) : Prop := 39 ∉ text ∧ 92 ∉ text

instance (text : Bytes) : Decidable (Quotable text) :=
  inferInstanceAs (Decidable (39 ∉ text ∧ 92 ∉ text))

/-- What comes before `echo` in a command. -/
def BeforeEcho (before : Bytes) : Prop :=
  before = [] ∨ ∃ user, ShellWord user ∧
    before = ascii "pkill etterminal -u " ++ user ++ ascii "; sleep 0.5; "

/-- What a command writes into its pipe: `echo` prints a word in single quotes and a newline,
unless the word starts with '-', when it may be an option. -/
def EchoesQuoted (piped : Bytes → Bytes) : Prop :=
  ∀ before text after, BeforeEcho before → Quotable text → text.head? ≠ some 45 →
    piped (before ++ ascii "echo '" ++ text ++ ascii "' | " ++ after) = text ++ [10]

section

variable {credentials fresh : IdPasskey} {clientTerm text : Bytes} {piped : Bytes → Bytes}

theorem genCommand_eq (credentials : IdPasskey) (clientTerm : Bytes) {user : Bytes} {kill : Bool}
    (word : kill = true → ShellWord user) (etterminalPath options : Bytes) :
    ∃ before after, BeforeEcho before ∧
      genCommand credentials.passkey credentials.id clientTerm user kill etterminalPath options =
        before ++ ascii "echo '" ++ (credentials.line ++ 95 :: clientTerm) ++ ascii "' | " ++
          after := by
  have slash : ascii "/" = [47] := by decide
  have underscore : ascii "_" = [95] := by decide
  cases kill with
  | false =>
      refine ⟨[], (if etterminalPath = [] then ETTERMINAL_BIN else etterminalPath) ++
        ascii " " ++ options, Or.inl rfl, ?_⟩
      simp [genCommand, IdPasskey.line, slash, underscore]
  | true =>
      refine ⟨ascii "pkill etterminal -u " ++ user ++ ascii "; sleep 0.5; ",
        (if etterminalPath = [] then ETTERMINAL_BIN else etterminalPath) ++ ascii " " ++ options,
        Or.inr ⟨user, word rfl, rfl⟩, ?_⟩
      simp [genCommand, IdPasskey.line, slash, underscore]

theorem line_not_mem {byte : UInt8} (alphaId : AlphaNumeric credentials.id)
    (alphaPasskey : AlphaNumeric credentials.passkey) (other : isAlphaNum byte = false)
    (notSlash : byte ≠ 47) : byte ∉ credentials.line := by
  simp only [IdPasskey.line, List.mem_append, List.mem_cons, not_or]
  exact ⟨alphaId.not_mem other, notSlash, alphaPasskey.not_mem other⟩

theorem line_head_ne (alphaId : AlphaNumeric credentials.id) (clientTerm : Bytes) :
    (credentials.line ++ 95 :: clientTerm).head? ≠ some 45 := by
  rw [IdPasskey.line]
  cases isId : credentials.id with
  | nil => simp
  | cons first rest =>
      have alphaNum : isAlphaNum first = true :=
        alphaId first (isId ▸ List.mem_cons_self)
      intro dash
      simp only [List.cons_append, List.head?_cons, Option.some.injEq] at dash
      rw [dash] at alphaNum
      exact absurd alphaNum (by decide)

theorem piped_genCommand (echoes : EchoesQuoted piped) (alphaId : AlphaNumeric credentials.id)
    (alphaPasskey : AlphaNumeric credentials.passkey) (quotable : Quotable clientTerm)
    {user : Bytes} {kill : Bool} (word : kill = true → ShellWord user)
    (etterminalPath options : Bytes) :
    piped (genCommand credentials.passkey credentials.id clientTerm user kill etterminalPath
        options) = credentials.line ++ 95 :: (clientTerm ++ [10]) := by
  obtain ⟨before, after, isBefore, command⟩ :=
    genCommand_eq credentials clientTerm word etterminalPath options
  have lineQuotable : Quotable (credentials.line ++ 95 :: clientTerm) := by
    simp only [Quotable, List.mem_append, List.mem_cons, not_or]
    exact ⟨⟨line_not_mem alphaId alphaPasskey (by decide) (by decide), by decide, quotable.1⟩,
      line_not_mem alphaId alphaPasskey (by decide) (by decide), by decide, quotable.2⟩
  rw [command,
    echoes before _ after isBefore lineQuotable (line_head_ne alphaId clientTerm),
    List.append_assoc, List.cons_append]

theorem takeWhile_newline (free : 10 ∉ text) (rest : Bytes) :
    (text ++ 10 :: rest).takeWhile (· ≠ 10) = text := by
  have all : ∀ byte ∈ text, decide (byte ≠ 10) = true := by
    intro byte inText
    rw [decide_eq_true_iff]
    exact fun same => free (same ▸ inText)
  rw [List.takeWhile_append_of_pos all]
  simp

/-- The line that `getline` takes: all of it, or what comes before a newline in TERM. -/
theorem getline_line (plain : 10 ∉ credentials.line) (clientTerm : Bytes) :
    ∃ term, getline (credentials.line ++ 95 :: (clientTerm ++ [10])) =
        some (credentials.line ++ 95 :: term) ∧
      10 ∉ term ∧ (10 ∉ clientTerm → term = clientTerm) := by
  have underscore : (10 : UInt8) ∉ credentials.line ++ [95] := by
    rw [List.mem_append, not_or]
    exact ⟨plain, by decide⟩
  have taken : ∀ {front rest}, 10 ∉ front →
      getline (credentials.line ++ 95 :: (front ++ 10 :: rest)) =
        some (credentials.line ++ 95 :: front) := by
    intro front rest free
    have both : (10 : UInt8) ∉ credentials.line ++ 95 :: front := by
      simp only [List.mem_append, List.mem_cons, not_or] at underscore ⊢
      exact ⟨plain, by decide, free⟩
    have whole : credentials.line ++ 95 :: (front ++ 10 :: rest) =
        (credentials.line ++ 95 :: front) ++ 10 :: rest := by
      simp
    rw [getline, whole, takeWhile_newline both, if_neg (by simp)]
  by_cases newline : 10 ∈ clientTerm
  · obtain ⟨front, rest, isTerm, free⟩ := List.eq_append_cons_of_mem newline
    refine ⟨front, ?_, free, fun absent => absurd newline absent⟩
    rw [isTerm, List.append_assoc, List.cons_append]
    exact taken free
  · exact ⟨clientTerm, taken newline, newline, fun _ => rfl⟩

/-- The tokens of the line are the pair and TERM exactly when TERM is one token. -/
theorem stdinCredentials_iff (underscore : 95 ∉ credentials.line) {stdin term : Bytes}
    (line : getline stdin = some (credentials.line ++ 95 :: term)) :
    stdinCredentials (some stdin) fresh = .ok
        { idpasskey :=
            if credentials.line.take 3 = ascii "XXX" then fresh.line else credentials.line
          term := some clientTerm } ↔
      items 95 term = [clientTerm] := by
  unfold stdinCredentials
  rw [Option.bind_some, line]
  simp only [split_eq_items, items_append_delim underscore]
  rcases items 95 term with _ | ⟨first, _ | ⟨second, more⟩⟩
  · simp
  · simp
  · simp

theorem items_self_iff : items 95 text = [text] ↔ text ≠ [] ∧ 95 ∉ text := by
  constructor
  · intro one
    constructor
    · intro empty
      rw [empty] at one
      cases one
    · exact not_mem_of_mem_items (one ▸ List.mem_singleton_self text)
  · intro ⟨nonempty, free⟩
    exact items_of_not_mem free nonempty

theorem take_line (credentials : IdPasskey) :
    credentials.line.take 3 = ascii "XXX" ↔ credentials.id.take 3 = ascii "XXX" := by
  by_cases long : 3 ≤ credentials.id.length
  · rw [IdPasskey.line, List.take_append_of_le_length long]
  · have slash : (47 : UInt8) ∈ credentials.line.take 3 := by
      have short : credentials.id.length + 1 ≤ 3 := by omega
      have front : (credentials.id ++ [47]) <+: credentials.line.take 3 := by
        rw [List.prefix_take_iff]
        constructor
        · exact ⟨credentials.passkey, by simp [IdPasskey.line]⟩
        · simpa using short
      exact front.subset (List.mem_append_right _ (List.mem_singleton_self 47))
    constructor
    · intro same
      rw [same] at slash
      exact absurd slash (by decide)
    · intro same
      have length := congrArg List.length same
      have three : (ascii "XXX").length = 3 := by decide
      rw [List.length_take, three] at length
      omega

/-- Without an option, etterminal has the pair and TERM exactly when TERM is not empty and has
neither '_' nor a newline. -/
theorem stdin_credentials_iff (echoes : EchoesQuoted piped)
    (alphaId : AlphaNumeric credentials.id) (alphaPasskey : AlphaNumeric credentials.passkey)
    (quotable : Quotable clientTerm) {user : Bytes} {kill : Bool}
    (word : kill = true → ShellWord user) (etterminalPath options : Bytes) :
    readCredentials
        { idpasskey := none
          idpasskeyfile := none
          stdin := some (piped (genCommand credentials.passkey credentials.id clientTerm user
            kill etterminalPath options)) } fresh = .ok
        { idpasskey :=
            if credentials.id.take 3 = ascii "XXX" then fresh.line else credentials.line
          term := some clientTerm } ↔
      clientTerm ≠ [] ∧ 95 ∉ clientTerm ∧ 10 ∉ clientTerm := by
  have newline : 10 ∉ credentials.line :=
    line_not_mem alphaId alphaPasskey (by decide) (by decide)
  have underscore : 95 ∉ credentials.line :=
    line_not_mem alphaId alphaPasskey (by decide) (by decide)
  obtain ⟨term, line, oneLine, sameTerm⟩ := getline_line newline clientTerm
  have read : ∀ stdin, readCredentials ⟨none, none, stdin⟩ fresh = stdinCredentials stdin fresh :=
    fun _ => if_pos ⟨rfl, rfl⟩
  simp only [read, ← take_line credentials]
  rw [piped_genCommand echoes alphaId alphaPasskey quotable word etterminalPath options,
    stdinCredentials_iff underscore line]
  by_cases newlineInTerm : 10 ∈ clientTerm
  · simp only [newlineInTerm, not_true_eq_false, and_false, iff_false]
    intro one
    exact oneLine (mem_of_mem_items (one ▸ List.mem_singleton_self clientTerm) newlineInTerm)
  · rw [sameTerm newlineInTerm, items_self_iff]
    simp [newlineInTerm]

/-! ### The options -/

/-- With an option, `main` goes on with an empty `idpasskey`, which has no id. -/
theorem option_credentials {input : MainInput}
    (given : ¬ (input.idpasskey = none ∧ input.idpasskeyfile = none)) (fresh : IdPasskey) :
    readCredentials input fresh = .ok { idpasskey := [], term := none } ∧
      mainId input fresh = .error .badIndex := by
  have read : readCredentials input fresh = .ok { idpasskey := [], term := none } := by
    rw [readCredentials, if_neg given]
  refine ⟨read, ?_⟩
  rw [mainId, read]
  rfl

end

/-- No pair reaches etterminal by an option.  By standard input it does, with TERM, exactly
when TERM is not empty and has neither '_' nor a newline. -/
theorem etterminal_credentials {piped : Bytes → Bytes} (echoes : EchoesQuoted piped)
    {credentials : IdPasskey} (alphaId : AlphaNumeric credentials.id)
    (alphaPasskey : AlphaNumeric credentials.passkey) (fresh : IdPasskey) {user : Bytes}
    {kill : Bool} (word : kill = true → ShellWord user)
    (etterminalPath options clientTerm : Bytes) (stdin : Option Bytes) :
    (Quotable clientTerm →
      (readCredentials
        { idpasskey := none
          idpasskeyfile := none
          stdin := some (piped (genCommand credentials.passkey credentials.id clientTerm user
            kill etterminalPath options)) } fresh = .ok
        { idpasskey :=
            if credentials.id.take 3 = ascii "XXX" then fresh.line else credentials.line
          term := some clientTerm } ↔
      clientTerm ≠ [] ∧ 95 ∉ clientTerm ∧ 10 ∉ clientTerm)) ∧
    (∀ term, readCredentials ⟨some credentials.line, none, stdin⟩ fresh ≠
      .ok { idpasskey := credentials.line, term := term }) ∧
    (∀ term, readCredentials ⟨none, some credentials.line, stdin⟩ fresh ≠
      .ok { idpasskey := credentials.line, term := term }) ∧
    mainId ⟨some credentials.line, none, stdin⟩ fresh = .error .badIndex ∧
    mainId ⟨none, some credentials.line, stdin⟩ fresh = .error .badIndex := by
  have nonempty : credentials.line ≠ [] := by simp [IdPasskey.line]
  obtain ⟨optionRead, optionId⟩ := @option_credentials ⟨some credentials.line, none, stdin⟩
    (fun none => by cases none.1) fresh
  obtain ⟨fileRead, fileId⟩ := @option_credentials ⟨none, some credentials.line, stdin⟩
    (fun none => by cases none.2) fresh
  refine ⟨?_, ?_, ?_, optionId, fileId⟩
  · intro quotable
    exact stdin_credentials_iff echoes alphaId alphaPasskey quotable word etterminalPath options
  · intro term same
    rw [optionRead, Except.ok.injEq, MainCredentials.mk.injEq] at same
    exact nonempty same.1.symm
  · intro term same
    rw [fileRead, Except.ok.injEq, MainCredentials.mk.injEq] at same
    exact nonempty same.1.symm

/-- A shell as far as `echo` with a word in single quotes. -/
def echoShell (command : Bytes) : Bytes :=
  match cut 39 command with
  | none => []
  | some (_, rest) =>
      match cut 39 rest with
      | none => []
      | some (text, _) => text ++ [10]

theorem echoShell_echoesQuoted : EchoesQuoted echoShell := by
  intro before text after isBefore quotable _
  have noQuote : ∀ {front}, BeforeEcho front → 39 ∉ front ++ ascii "echo " := by
    intro front isFront
    rw [List.mem_append, not_or]
    refine ⟨?_, by decide⟩
    cases isFront with
    | inl empty => simp [empty]
    | inr kill =>
        obtain ⟨user, word, isKill⟩ := kill
        have noUser : 39 ∉ user := by
          intro inUser
          have quote := word 39 inUser
          revert quote
          decide
        rw [isKill, List.mem_append, List.mem_append, not_or, not_or]
        exact ⟨⟨by decide, noUser⟩, by decide⟩
  have echo : ascii "echo '" = ascii "echo " ++ [39] := by decide
  have pipe : ascii "' | " = 39 :: ascii " | " := by decide
  have command : before ++ ascii "echo '" ++ text ++ ascii "' | " ++ after =
      (before ++ ascii "echo ") ++ 39 :: (text ++ 39 :: (ascii " | " ++ after)) := by
    rw [echo, pipe]
    simp
  rw [command, echoShell, cut_append (noQuote isBefore)]
  simp only [cut_append quotable.1]

theorem etterminal_credentials_xterm :
    readCredentials
      { idpasskey := none
        idpasskeyfile := none
        stdin := some (echoShell (genCommand exampleCredentials.passkey exampleCredentials.id
          (ascii "xterm") [] false [] [])) } exampleCredentials = .ok
      { idpasskey := exampleCredentials.line
        term := some (ascii "xterm") } :=
  ((etterminal_credentials echoShell_echoesQuoted exampleCredentials_wellFormed.id
    exampleCredentials_wellFormed.passkey exampleCredentials (fun kill => by cases kill)
    [] [] (ascii "xterm") none).1 (by decide)).mpr (by decide)

/-- A TERM with '_' stops etterminal, and an option leaves it without an id. -/
theorem etterminal_credentials_lost :
    readCredentials
      { idpasskey := none
        idpasskeyfile := none
        stdin := some (echoShell (genCommand exampleCredentials.passkey exampleCredentials.id
          (ascii "xterm_x") [] false [] [])) } exampleCredentials =
      .error (.abort "Invalid number of tokens") ∧
    readCredentials ⟨some exampleCredentials.line, none, none⟩ exampleCredentials =
      .ok { idpasskey := [], term := none } ∧
    mainId ⟨some exampleCredentials.line, none, none⟩ exampleCredentials = .error .badIndex := by
  decide

end EternalTerminal
