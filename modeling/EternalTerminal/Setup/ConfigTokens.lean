/-
The words of an ssh configuration line (`ParseConfigFile.hpp`): tokens, keywords and host
patterns.

A C string ends at its first zero byte; the texts here have none.
-/

import Mathlib.Data.List.DropRight
import EternalTerminal.Base.Text

namespace EternalTerminal

open Library

inductive SshConfigOpcode where
  | SOC_UNSUPPORTED
  | SOC_HOST
  | SOC_HOSTNAME
  | SOC_MATCH
  | SOC_PORT
  | SOC_USERNAME
  | SOC_TIMEOUT
  | SOC_PROTOCOL
  | SOC_STRICTHOSTKEYCHECK
  | SOC_KNOWNHOSTS
  | SOC_PROXYCOMMAND
  | SOC_GSSAPISERVERIDENTITY
  | SOC_GSSAPICLIENTIDENTITY
  | SOC_GSSAPIDELEGATECREDENTIALS
  | SOC_INCLUDE
  | SOC_PROXYJUMP
  | SOC_FORWARDAGENT
  | SOC_IDENTITYAGENT
  | SOC_LOCALFORWARD
  | SOC_SETENV
  deriving DecidableEq

open SshConfigOpcode in
def sshConfigKeywordTable : List (Bytes × SshConfigOpcode) :=
  [(ascii "host", SOC_HOST),
    (ascii "hostname", SOC_HOSTNAME),
    (ascii "match", SOC_MATCH),
    (ascii "port", SOC_PORT),
    (ascii "user", SOC_USERNAME),
    (ascii "connecttimeout", SOC_TIMEOUT),
    (ascii "protocol", SOC_PROTOCOL),
    (ascii "stricthostkeychecking", SOC_STRICTHOSTKEYCHECK),
    (ascii "userknownhostsfile", SOC_KNOWNHOSTS),
    (ascii "proxycommand", SOC_PROXYCOMMAND),
    (ascii "gssapiserveridentity", SOC_GSSAPISERVERIDENTITY),
    (ascii "gssapiclientidentity", SOC_GSSAPICLIENTIDENTITY),
    (ascii "gssapidelegatecredentials", SOC_GSSAPIDELEGATECREDENTIALS),
    (ascii "include", SOC_INCLUDE),
    (ascii "proxyjump", SOC_PROXYJUMP),
    (ascii "forwardagent", SOC_FORWARDAGENT),
    (ascii "identityagent", SOC_IDENTITYAGENT),
    (ascii "localforward", SOC_LOCALFORWARD),
    (ascii "setenv", SOC_SETENV)]

/-- `tolower` in the C locale. -/
def tolower (byte : UInt8) : UInt8 := if 65 ≤ byte ∧ byte ≤ 90 then byte + 32 else byte

def sshLowercase (text : Bytes) : Bytes := text.map tolower

/-- `strcasecmp` is 0. -/
def equalsIgnoringCase (first second : Bytes) : Bool := sshLowercase first = sshLowercase second

/-- `strncasecmp` with the length of the second text is 0. -/
def startsIgnoringCase (text start : Bytes) : Bool :=
  equalsIgnoringCase (text.take start.length) start

def sshConfigGetOpcode (keyword : Bytes) : SshConfigOpcode :=
  match sshConfigKeywordTable.find? fun entry => equalsIgnoringCase keyword entry.1 with
  | some (_, opcode) => opcode
  | none => .SOC_UNSUPPORTED

/-! ### Tokens -/

def isblank (byte : UInt8) : Bool := byte = 32 || byte = 9

/-- What is skipped behind a token: blanks, line breaks and one equals sign in all. -/
def skipSeparators : Bool → Bytes → Bytes
  | _, [] => []
  | hadEqual, byte :: rest =>
      if isblank byte || byte = 10 || (!hadEqual && byte = 61) then
        skipSeparators (hadEqual || byte = 61) rest
      else byte :: rest

/-- The token and what follows it.  An unmatched quote extends to the end of the line. -/
def sshConfigGetToken (text : Bytes) : Bytes × Bytes :=
  match text.dropWhile isblank with
  | 34 :: quoted =>
      let (token, rest) := quoted.span fun byte => byte ≠ 34 && byte ≠ 10
      (token, skipSeparators false (rest.drop 1))
  | unquoted =>
      match unquoted.span fun byte => !(isblank byte || byte = 61 || byte = 10) with
      | (token, []) => (token, [])
      | (token, separator :: rest) => (token, skipSeparators (separator = 61) rest)

/-- An empty token is NULL. -/
def sshConfigGetStrTok (text : Bytes) : Option Bytes × Bytes :=
  let (token, rest) := sshConfigGetToken text
  (if token = [] then none else some token, rest)

/-- The rest of the line, or what is quoted there; an unmatched quote leaves nothing. -/
def sshConfigGetCmd (text : Bytes) : Bytes :=
  match text.dropWhile isblank with
  | 34 :: quoted =>
      match cut 34 quoted with
      | some (command, _) => command
      | none => []
  | command => command.takeWhile (· ≠ 10)

def sshConfigGetInt (text : Bytes) (notfound : Int) : Int :=
  match (sshConfigGetStrTok text).1 with
  | none => notfound
  | some token =>
      match strtol token with
      | none => notfound
      | some value => toInt32 value

def sshConfigGetYesno (text : Bytes) (notfound : Int) : Int :=
  match (sshConfigGetStrTok text).1 with
  | none => notfound
  | some token =>
      if startsIgnoringCase token (ascii "yes") then 1
      else if startsIgnoringCase token (ascii "no") then 0
      else notfound

/-! ### Patterns -/

/-- `*` and `?` are wildcards.  A `*` in front of another wildcard takes the text at a place
where there is still a character left. -/
def matchPattern : Bytes → Bytes → Bool
  | [], text => text = []
  | 42 :: [], _ => true
  | 42 :: next :: pattern, text =>
      if next ≠ 63 ∧ next ≠ 42 then
        text.tails.any fun later =>
          match later with
          | [] => false
          | byte :: rest => byte = next && matchPattern pattern rest
      else
        text.tails.any fun later => later ≠ [] && matchPattern (next :: pattern) later
  | byte :: pattern, text =>
      match text with
      | [] => false
      | first :: rest => (byte = 63 || byte = first) && matchPattern pattern rest

/-- The subpatterns that are still to be tried, and whether one has matched. -/
def matchSubpatterns (text : Bytes) : List Bytes → Bool → Int
  | [], gotPositive => if gotPositive then 1 else 0
  | subpattern :: rest, gotPositive =>
      let negated := subpattern.head? = some 33
      let sub := if negated then subpattern.drop 1 else subpattern
      if sub.length ≥ 1023 then 0
      else if matchPattern (sshLowercase sub) text then
        if negated then -1 else matchSubpatterns text rest true
      else matchSubpatterns text rest gotPositive

/-- `match_pattern_list` with lower case: -1, 0 or 1.  The comma ends a subpattern. -/
def matchHostname (host pattern : Bytes) : Int := matchSubpatterns host (items 44 pattern) false

/-! ### A token is shorter than the text -/

section

variable {text token rest : Bytes}

theorem skipSeparators_length_le (hadEqual : Bool) (text : Bytes) :
    (skipSeparators hadEqual text).length ≤ text.length := by
  induction text generalizing hadEqual with
  | nil => exact Nat.le_refl 0
  | cons byte text ih =>
      rw [skipSeparators]
      split
      · exact Nat.le_succ_of_le (ih _)
      · exact Nat.le_refl _

theorem span_length (p : UInt8 → Bool) (text : Bytes) :
    (text.span p).1.length + (text.span p).2.length = text.length := by
  rw [List.span_eq_takeWhile_dropWhile, ← List.length_append, List.takeWhile_append_dropWhile]

theorem sshConfigGetToken_length (text : Bytes) :
    (sshConfigGetToken text).1.length + (sshConfigGetToken text).2.length ≤ text.length := by
  have shorter := (List.dropWhile_sublist (l := text) isblank).length_le
  unfold sshConfigGetToken
  split
  · rename_i quoted starts
    have parts := span_length (fun byte => byte ≠ 34 && byte ≠ 10) quoted
    have skipped := skipSeparators_length_le false
      ((quoted.span fun byte => byte ≠ 34 && byte ≠ 10).2.drop 1)
    rw [List.length_drop] at skipped
    rw [starts, List.length_cons] at shorter
    dsimp only
    omega
  · rename_i unquoted starts
    have parts := span_length (fun byte => !(isblank byte || byte = 61 || byte = 10))
      (text.dropWhile isblank)
    split
    · rename_i token ends
      rw [ends] at parts
      exact parts ▸ shorter
    · rename_i token separator rest ends
      rw [ends] at parts
      have skipped := skipSeparators_length_le (separator = 61) rest
      dsimp only at parts ⊢
      rw [List.length_cons] at parts
      omega

theorem sshConfigGetToken_shorter (word : (sshConfigGetToken text).1 ≠ []) :
    (sshConfigGetToken text).2.length < text.length := by
  have lengths := sshConfigGetToken_length text
  have positive := List.length_pos_of_ne_nil word
  omega

end

end EternalTerminal
