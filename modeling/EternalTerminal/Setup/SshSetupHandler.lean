/-
`SshSetupHandler.cpp`: the command that ssh runs, and the credentials read from what it prints.

The destination's output is searched for "IDPASSKEY:".  The jumphost's is cut at ':' and the
second field is taken.
-/

import EternalTerminal.Base.Text
import EternalTerminal.Library.Search

namespace EternalTerminal

open Library

/-- How `SetupSsh` ends without credentials.  `badIndex` is an index past the end of a vector,
which is undefined. -/
inductive SetupFailure where
  | runtimeError (what : String)
  | badIndex
  | abort (message : String)
  deriving DecidableEq

structure IdPasskey where
  id : Bytes
  passkey : Bytes
  deriving DecidableEq

def ETTERMINAL_BIN : Bytes := ascii "etterminal"

def genCommand (passkey id clientTerm user : Bytes) (kill : Bool)
    (etterminalPath options : Bytes) : Bytes :=
  let etterminalBin := if etterminalPath = [] then ETTERMINAL_BIN else etterminalPath
  let command := ascii "echo '" ++ id ++ ascii "/" ++ passkey ++ ascii "_" ++ clientTerm ++
    ascii "' | " ++ etterminalBin ++ ascii " " ++ options
  if kill then ascii "pkill etterminal -u " ++ user ++ ascii "; sleep 0.5; " ++ command
  else command

/-- "IDPASSKEY:" -/
def marker : Bytes := ascii "IDPASSKEY" ++ [58]

/-- `erase(find_last_not_of(" \n\r\t") + 1)`. -/
def isBlank (byte : UInt8) : Bool := byte = 32 || byte = 10 || byte = 13 || byte = 9

/-- `split(idpasskey, '/')` and its first two items. -/
def splitCredentials (idpasskey : Bytes) : Except SetupFailure IdPasskey :=
  match split 47 idpasskey with
  | id :: passkey :: _ => .ok { id := id, passkey := passkey }
  | _ => .error .badIndex

/-- The `try` after the first ssh: a `runtime_error` is logged, and the pair stays as it was
made up. -/
def destinationCredentials (sshBuffer : Bytes) (generated : IdPasskey) :
    Except SetupFailure IdPasskey :=
  if sshBuffer = [] then .ok generated
  else
    match find marker sshBuffer with
    | none => .ok generated
    | some passKeyIndex =>
        splitCredentials ((sshBuffer.drop (passKeyIndex + 10)).take (16 + 1 + 32))

/-- The part of the second ssh. -/
def jumphostCredentials (sshLinkBuffer : Bytes) : Except SetupFailure IdPasskey :=
  if sshLinkBuffer = [] then .error (.runtimeError "etserver jumpclient failed to start")
  else
    match (split 58 sshLinkBuffer)[1]? with
    | none => .error .badIndex
    | some idpasskey => splitCredentials ((idpasskey.rdropWhile isBlank).take (16 + 1 + 32))

/-- `SetupSsh` as to the credentials: `sshLinkBuffer` is what the ssh to the jumphost prints,
if there is a jumphost. -/
def setupSsh (generated : IdPasskey) (sshBuffer : Bytes) (sshLinkBuffer : Option Bytes) :
    Except SetupFailure IdPasskey := do
  let credentials ← destinationCredentials sshBuffer generated
  let credentials ←
    match sshLinkBuffer with
    | none => .ok credentials
    | some buffer => jumphostCredentials buffer
  if credentials.id = [] ∨ credentials.passkey = [] then
    .error (.abort "Somehow missing id or passkey")
  else .ok credentials

/-! ### Letters and digits -/

def isAlphaNum (byte : UInt8) : Bool :=
  isDigit byte || (65 ≤ byte && byte ≤ 90) || (97 ≤ byte && byte ≤ 122)

def AlphaNumeric (text : Bytes) : Prop := ∀ byte ∈ text, isAlphaNum byte = true

instance (text : Bytes) : Decidable (AlphaNumeric text) :=
  decidable_of_iff (text.all isAlphaNum = true) List.all_eq_true

def IdPasskey.line (credentials : IdPasskey) : Bytes :=
  credentials.id ++ 47 :: credentials.passkey

/-- An id of 16 and a passkey of 32 letters and digits. -/
structure IdPasskey.WellFormed (credentials : IdPasskey) : Prop where
  id : AlphaNumeric credentials.id
  passkey : AlphaNumeric credentials.passkey
  idLength : credentials.id.length = 16
  passkeyLength : credentials.passkey.length = 32

/-- What ssh prints when the login prints `before` and `after`. -/
def sshOutput (before : Bytes) (credentials : IdPasskey) (after : Bytes) : Bytes :=
  before ++ (marker ++ (credentials.line ++ after))

section

variable {text before after output field : Bytes} {byte : UInt8}
  {credentials generated : IdPasskey}

theorem AlphaNumeric.not_mem (alphaNumeric : AlphaNumeric text)
    (other : isAlphaNum byte = false) : byte ∉ text := by
  intro inText
  rw [alphaNumeric byte inText] at other
  cases other

theorem IdPasskey.WellFormed.line_length (wellFormed : credentials.WellFormed) :
    credentials.line.length = 16 + 1 + 32 := by
  simp only [IdPasskey.line, List.length_append, List.length_cons, wellFormed.idLength,
    wellFormed.passkeyLength]

theorem IdPasskey.WellFormed.line_not_mem (wellFormed : credentials.WellFormed)
    (other : isAlphaNum byte = false) (notSlash : byte ≠ 47) : byte ∉ credentials.line := by
  simp only [IdPasskey.line, List.mem_append, List.mem_cons, not_or]
  exact ⟨wellFormed.id.not_mem other, notSlash, wellFormed.passkey.not_mem other⟩

/-- The line is cut into the credentials, whatever follows it. -/
theorem splitCredentials_line (wellFormed : credentials.WellFormed) (rest : Bytes) :
    splitCredentials ((credentials.line ++ rest).take (16 + 1 + 32)) = .ok credentials := by
  have nonempty : credentials.passkey ≠ [] := by
    intro empty
    have length := wellFormed.passkeyLength
    rw [empty] at length
    cases length
  have noSlash : ∀ {text}, AlphaNumeric text → (47 : UInt8) ∉ text :=
    fun alphaNumeric => alphaNumeric.not_mem (by decide)
  have items : split 47 credentials.line = [credentials.id, credentials.passkey] := by
    rw [split_eq_items, IdPasskey.line, items_append_delim (noSlash wellFormed.id),
      items_of_not_mem (noSlash wellFormed.passkey) nonempty]
  rw [← wellFormed.line_length, List.take_left, splitCredentials, items]

/-! ### The destination -/

theorem sshOutput_ne_nil (before after : Bytes) : sshOutput before credentials after ≠ [] := by
  simp [sshOutput, marker]

theorem destinationCredentials_line (wellFormed : credentials.WellFormed)
    (absent : ¬ marker <:+: before) (after : Bytes) :
    destinationCredentials (sshOutput before credentials after) generated = .ok credentials := by
  have found : find marker (sshOutput before credentials after) = some before.length :=
    find_append (by decide : (58 : UInt8) ∉ ascii "IDPASSKEY") absent _
  have markerLength : marker.length = 10 := by decide
  have afterMarker : (sshOutput before credentials after).drop (before.length + 10) =
      credentials.line ++ after := by
    rw [sshOutput, ← List.drop_drop, List.drop_left, ← markerLength, List.drop_left]
  unfold destinationCredentials
  rw [if_neg (sshOutput_ne_nil before after), found]
  simp only [afterMarker, splitCredentials_line wellFormed after]

/-! ### The jumphost -/

/-- What the second field is when the login prints a ':' before the line. -/
def bannerField (before : Bytes) : Option Bytes := (split 58 (before ++ ascii "IDPASSKEY"))[1]?

theorem sshOutput_eq (before after : Bytes) :
    sshOutput before credentials after =
      (before ++ ascii "IDPASSKEY") ++ 58 :: (credentials.line ++ after) := by
  simp [sshOutput, marker]

/-- Without a ':' in front, the second field starts with the line. -/
theorem second_field_line (wellFormed : credentials.WellFormed) (plain : 58 ∉ before)
    (after : Bytes) :
    ∃ rest, (split 58 (sshOutput before credentials after))[1]? =
      some (credentials.line ++ rest) := by
  have noColon : 58 ∉ before ++ ascii "IDPASSKEY" := by
    rw [List.mem_append, not_or]
    exact ⟨plain, by decide⟩
  have lineColon : 58 ∉ credentials.line :=
    wellFormed.line_not_mem (by decide) (by decide)
  have nonempty : credentials.line ≠ [] := by simp [IdPasskey.line]
  rw [sshOutput_eq, split_eq_items, items_append_delim noColon]
  rcases items_cases 58 after with ⟨front, rest, isAfter, free⟩ | free
  · refine ⟨front, ?_⟩
    have both : 58 ∉ credentials.line ++ front := by
      rw [List.mem_append, not_or]
      exact ⟨lineColon, free⟩
    rw [isAfter, ← List.append_assoc, items_append_delim both]
    rfl
  · refine ⟨after, ?_⟩
    have both : 58 ∉ credentials.line ++ after := by
      rw [List.mem_append, not_or]
      exact ⟨lineColon, free⟩
    rw [items_of_not_mem both (by simp [nonempty])]
    rfl

/-- With a ':' in front, the second field ends before the credentials. -/
theorem second_field_banner (colon : 58 ∈ before) (after : Bytes) :
    (split 58 (sshOutput before credentials after))[1]? = bannerField before := by
  obtain ⟨front, rest, isBefore, free⟩ := List.eq_append_cons_of_mem colon
  have keywordPlain : (58 : UInt8) ∉ ascii "IDPASSKEY" := by decide
  have keywordNonempty : ascii "IDPASSKEY" ≠ [] := by decide
  rw [sshOutput_eq, bannerField, isBefore]
  simp only [split_eq_items, List.append_assoc, List.cons_append, items_append_delim free,
    List.getElem?_cons_succ]
  rw [← List.append_assoc]
  rcases items_cases 58 rest with ⟨first, more, isRest, freeFirst⟩ | freeRest
  · simp only [isRest, List.append_assoc, List.cons_append, items_append_delim freeFirst,
      List.getElem?_cons_zero]
  · have both : 58 ∉ rest ++ ascii "IDPASSKEY" := by
      rw [List.mem_append, not_or]
      exact ⟨freeRest, keywordPlain⟩
    rw [items_append_delim both, items_of_not_mem both (by simp [keywordNonempty])]
    rfl

def FieldHolds (field : Option Bytes) (credentials : IdPasskey) : Prop :=
  ∃ text, field = some text ∧
    splitCredentials ((text.rdropWhile isBlank).take (16 + 1 + 32)) = .ok credentials

theorem jumphostCredentials_ok_iff (nonempty : output ≠ []) :
    jumphostCredentials output = .ok credentials ↔
      FieldHolds (split 58 output)[1]? credentials := by
  unfold jumphostCredentials FieldHolds
  rw [if_neg nonempty]
  cases (split 58 output)[1]? with
  | none => simp
  | some field => simp

theorem fieldHolds_line (wellFormed : credentials.WellFormed) (rest : Bytes) :
    FieldHolds (some (credentials.line ++ rest)) credentials := by
  have ends : ∀ nonempty : credentials.line ≠ [],
      isBlank (credentials.line.getLast nonempty) = false := by
    intro nonempty
    cases blank : isBlank (credentials.line.getLast nonempty) with
    | false => rfl
    | true =>
        have inLine := List.getLast_mem nonempty
        generalize credentials.line.getLast nonempty = last at blank inLine
        simp only [isBlank, Bool.or_eq_true, decide_eq_true_eq] at blank
        rcases blank with ((same | same) | same) | same
        · exact absurd (same ▸ inLine) (wellFormed.line_not_mem (by decide) (by decide))
        · exact absurd (same ▸ inLine) (wellFormed.line_not_mem (by decide) (by decide))
        · exact absurd (same ▸ inLine) (wellFormed.line_not_mem (by decide) (by decide))
        · exact absurd (same ▸ inLine) (wellFormed.line_not_mem (by decide) (by decide))
  obtain ⟨kept, trimmed⟩ := rdropWhile_append ends rest
  refine ⟨_, rfl, ?_⟩
  rw [trimmed]
  exact splitCredentials_line wellFormed kept

theorem jumphostCredentials_line_iff (wellFormed : credentials.WellFormed)
    (before after : Bytes) :
    jumphostCredentials (sshOutput before credentials after) = .ok credentials ↔
      58 ∉ before ∨ FieldHolds (bannerField before) credentials := by
  rw [jumphostCredentials_ok_iff (sshOutput_ne_nil before after)]
  by_cases colon : 58 ∈ before
  · simp only [second_field_banner colon after, colon, not_true_eq_false, false_or]
  · obtain ⟨rest, isField⟩ := second_field_line wellFormed colon after
    simp only [isField, fieldHolds_line wellFormed rest, colon, not_false_eq_true, true_or]

/-! ### Indices -/

theorem splitCredentials_badIndex_iff :
    splitCredentials text = .error .badIndex ↔ (split 47 text).length < 2 := by
  unfold splitCredentials
  rcases split 47 text with _ | ⟨id, _ | ⟨passkey, more⟩⟩
  · simp
  · simp
  · simp

/-- A '/' with something behind it in the first 49 characters. -/
def SlashInside (text : Bytes) : Prop :=
  ∃ front rest, text.take (16 + 1 + 32) = front ++ 47 :: rest ∧ rest ≠ []

theorem splitCredentials_ne_badIndex_iff :
    splitCredentials (text.take (16 + 1 + 32)) ≠ .error .badIndex ↔ SlashInside text := by
  rw [ne_eq, splitCredentials_badIndex_iff, not_lt, split_eq_items, two_le_length_items_iff,
    SlashInside]

/-- Behind the first marker, and between the first ':' and the next, there is a '/' early
enough with something behind it. -/
def IndicesHold (output : Bytes) : Prop :=
  (∀ passKeyIndex, find marker output = some passKeyIndex →
    SlashInside (output.drop (passKeyIndex + 10))) ∧
  (output ≠ [] → ∃ front rest, output = front ++ 58 :: rest ∧ 58 ∉ front ∧ rest ≠ [] ∧
    SlashInside ((rest.takeWhile (· ≠ 58)).rdropWhile isBlank))

theorem indices_iff (output : Bytes) (generated : IdPasskey) :
    (destinationCredentials output generated ≠ .error .badIndex ∧
      jumphostCredentials output ≠ .error .badIndex) ↔ IndicesHold output := by
  unfold IndicesHold
  apply and_congr
  · unfold destinationCredentials
    by_cases empty : output = []
    · subst empty
      have absent : find marker [] = none := by decide
      simp [absent]
    · rw [if_neg empty]
      cases find marker output with
      | none => simp
      | some passKeyIndex => simp [splitCredentials_ne_badIndex_iff]
  · unfold jumphostCredentials
    by_cases empty : output = []
    · simp [empty]
    · rw [if_neg empty, split_eq_items]
      cases second : (items 58 output)[1]? with
      | none =>
          have absent : ¬ ∃ field, (items 58 output)[1]? = some field := by simp [second]
          simp only [ne_eq, not_true_eq_false, empty, not_false_eq_true, true_imp_iff, false_iff]
          rintro ⟨front, rest, isOutput, free, nonempty, _⟩
          exact absent ⟨_, second_item_iff.mpr ⟨front, rest, isOutput, free, nonempty, rfl⟩⟩
      | some field =>
          simp only [splitCredentials_ne_badIndex_iff, ne_eq, empty, not_false_eq_true,
            true_imp_iff]
          constructor
          · intro inside
            obtain ⟨front, rest, isOutput, free, nonempty, isField⟩ := second_item_iff.mp second
            exact ⟨front, rest, isOutput, free, nonempty, isField ▸ inside⟩
          · rintro ⟨front, rest, isOutput, free, nonempty, inside⟩
            have isField := second_item_iff.mpr ⟨front, rest, isOutput, free, nonempty, rfl⟩
            rw [second, Option.some.injEq] at isField
            exact isField ▸ inside

end

/-- The jumphost's branch reads the line as the destination's does exactly when no ':' comes
before it, or a field that comes before happens to hold the same credentials; and no branch
leaves the items of an output exactly when there are enough. -/
theorem ssh_credentials_iff {credentials : IdPasskey} (wellFormed : credentials.WellFormed)
    {before : Bytes} (absent : ¬ marker <:+: before) (after : Bytes) (generated : IdPasskey)
    (output : Bytes) :
    ((destinationCredentials (sshOutput before credentials after) generated = .ok credentials ∧
        jumphostCredentials (sshOutput before credentials after) = .ok credentials) ↔
      58 ∉ before ∨ FieldHolds (bannerField before) credentials) ∧
    ((destinationCredentials output generated ≠ .error .badIndex ∧
        jumphostCredentials output ≠ .error .badIndex) ↔ IndicesHold output) := by
  constructor
  · rw [jumphostCredentials_line_iff wellFormed before after]
    exact and_iff_right (destinationCredentials_line wellFormed absent after)
  · exact indices_iff output generated

def exampleCredentials : IdPasskey :=
  { id := ascii "0123456789abcdef"
    passkey := ascii "0123456789ABCDEFghijklmnopqrstuv" }

theorem exampleCredentials_wellFormed : exampleCredentials.WellFormed where
  id := by decide
  passkey := by decide
  idLength := by decide
  passkeyLength := by decide

/-- A greeting without ':'. -/
theorem ssh_credentials_greeting :
    destinationCredentials (sshOutput (ascii "hello") exampleCredentials (ascii " bye"))
        exampleCredentials = .ok exampleCredentials ∧
      jumphostCredentials (sshOutput (ascii "hello") exampleCredentials (ascii " bye")) =
        .ok exampleCredentials :=
  (ssh_credentials_iff exampleCredentials_wellFormed (by decide) (ascii " bye")
    exampleCredentials []).1.mpr (Or.inl (by decide))

/-- A greeting with ':', and an output with neither ':' nor '/'. -/
theorem ssh_credentials_missed :
    destinationCredentials (sshOutput (ascii "Note: hello ") exampleCredentials [])
        exampleCredentials = .ok exampleCredentials ∧
      jumphostCredentials (sshOutput (ascii "Note: hello ") exampleCredentials []) =
        .error .badIndex ∧
      jumphostCredentials (ascii "command not found") = .error .badIndex ∧
      destinationCredentials (ascii "IDPASSKEY:?") exampleCredentials = .error .badIndex := by
  decide

end EternalTerminal
