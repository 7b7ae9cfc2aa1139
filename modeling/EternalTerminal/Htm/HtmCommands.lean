/-
The messages of a client of `htmd`, and how the server reads them.
-/

import EternalTerminal.Htm.HtmFormat

namespace EternalTerminal

open Library

/-- A message that has been read.  An id has `UUID_LENGTH` bytes. -/
inductive HtmCommand where
  | insertKeys (uid data : Bytes)
  | insertDebugKeys (data : Bytes)
  | newTab (tabId paneId : Bytes)
  | newSplit (sourceId paneId : Bytes) (vertical : UInt8)
  | resizePane (cols rows : Int) (paneId : Bytes)
  | closePane (paneId : Bytes)

/-! ### Reading -/

namespace HtmServer

open SocketHandler

variable (base64 : Base64) (fd : Fd)

/-- `length -= uid.length()` -/
def keysLength (length : Int) : Int := toInt32 (length - UUID_LENGTH)

def readDebugKeys (length : Int) : Action HtmCommand :=
  if length < 0 then .raise .lengthError
  else do
    let data ← readAll fd length.toNat
    pure (.insertDebugKeys data)

/-- The `switch` of `run`, up to what is done with the message. -/
def readBody (header : UInt8) (length : Int) : Action HtmCommand :=
  if header = INSERT_KEYS then do
    let uid ← readAll fd UUID_LENGTH
    let data ← readB64EncodedLength base64 fd (keysLength length)
    pure (.insertKeys uid data)
  else if header = INSERT_DEBUG_KEYS then readDebugKeys fd length
  else if header = NEW_TAB then do
    let tabId ← readAll fd UUID_LENGTH
    let paneId ← readAll fd UUID_LENGTH
    pure (.newTab tabId paneId)
  else if header = NEW_SPLIT then do
    let sourceId ← readAll fd UUID_LENGTH
    let paneId ← readAll fd UUID_LENGTH
    let vertical ← readAll fd 1
    pure (.newSplit sourceId paneId (vertical.headD 0))
  else if header = RESIZE_PANE then do
    let cols ← readB64 base64 fd
    let rows ← readB64 base64 fd
    let paneId ← readAll fd UUID_LENGTH
    pure (.resizePane cols rows paneId)
  else if header = CLIENT_CLOSE_PANE then do
    let paneId ← readAll fd UUID_LENGTH
    pure (.closePane paneId)
  else .abort "Got unknown packet header"

def readCommand : Action HtmCommand := do
  let header ← readAll fd 1
  let length ← readB64 base64 fd
  readBody base64 fd (header.headD 0) length

end HtmServer

/-! ### As a client writes them -/

namespace HtmCommand

def header : HtmCommand → UInt8
  | .insertKeys _ _ => INSERT_KEYS
  | .insertDebugKeys _ => INSERT_DEBUG_KEYS
  | .newTab _ _ => NEW_TAB
  | .newSplit _ _ _ => NEW_SPLIT
  | .resizePane _ _ _ => RESIZE_PANE
  | .closePane _ => CLIENT_CLOSE_PANE

variable (base64 : Base64)

def body : HtmCommand → Bytes
  | .insertKeys uid data => uid ++ base64.encode data
  | .insertDebugKeys data => data
  | .newTab tabId paneId => tabId ++ paneId
  | .newSplit sourceId paneId vertical => sourceId ++ (paneId ++ [vertical])
  | .resizePane cols rows paneId => base64.int cols ++ (base64.int rows ++ paneId)
  | .closePane paneId => paneId

def frame (command : HtmCommand) : Bytes :=
  command.header :: (base64.int (command.body base64).length ++ command.body base64)

def ids : HtmCommand → List Bytes
  | .insertKeys uid _ => [uid]
  | .insertDebugKeys _ => []
  | .newTab tabId paneId => [tabId, paneId]
  | .newSplit sourceId paneId _ => [sourceId, paneId]
  | .resizePane _ _ paneId => [paneId]
  | .closePane paneId => [paneId]

/-- The ids have their length, and the numbers are `int32_t`s. -/
structure Fits (command : HtmCommand) : Prop where
  ids : ∀ id ∈ command.ids, id.length = UUID_LENGTH
  short : IsInt (command.body base64).length
  size : ∀ cols rows paneId, command = .resizePane cols rows paneId → IsInt cols ∧ IsInt rows

variable {base64} {command : HtmCommand}

end HtmCommand

namespace HtmServer

open SocketHandler

variable {base64 : Base64} {fd : Fd} {command : HtmCommand}

theorem keysLength_eq {uid data : Bytes} (isUuid : uid.length = UUID_LENGTH)
    (short : IsInt (uid ++ base64.encode data).length) :
    keysLength (uid ++ base64.encode data).length = (base64.encode data).length := by
  have whole : ((uid ++ base64.encode data).length : Int) - UUID_LENGTH =
      (base64.encode data).length := by
    rw [List.length_append, isUuid]
    omega
  have small : (base64.encode data).length < 2 ^ 31 := by
    have bound := short.2
    rw [List.length_append] at bound
    omega
  rw [keysLength, whole]
  exact toInt32_natCast_eq_self small

theorem readBody_body (fits : command.Fits base64) (rest : Bytes) :
    readFrom (readBody base64 fd command.header (command.body base64).length)
      (command.body base64 ++ rest) = .returned command rest := by
  have isUuid := fits.ids
  cases command with
  | insertKeys uid data =>
      have isUid := isUuid uid List.mem_cons_self
      have isLength : keysLength ((HtmCommand.insertKeys uid data).body base64).length =
          (base64.encode data).length := keysLength_eq isUid fits.short
      change readFrom (readAll fd UUID_LENGTH >>= _) ((uid ++ base64.encode data) ++ rest) = _
      rw [List.append_assoc, readFrom_readAll_bind _ isUid,
        readB64EncodedLength_bind isLength]
      rfl
  | insertDebugKeys data =>
      change readFrom (readDebugKeys fd data.length) (data ++ rest) = _
      rw [readDebugKeys, if_neg (by omega), readFrom_readAll_bind _ (Int.toNat_natCast _).symm]
      rfl
  | newTab tabId paneId =>
      change readFrom (readAll fd UUID_LENGTH >>= _) ((tabId ++ paneId) ++ rest) = _
      rw [List.append_assoc, readFrom_readAll_bind _ (isUuid tabId List.mem_cons_self),
        readFrom_readAll_bind _ (isUuid paneId (List.mem_cons_of_mem _ List.mem_cons_self))]
      rfl
  | newSplit sourceId paneId vertical =>
      change readFrom (readAll fd UUID_LENGTH >>= _)
        ((sourceId ++ (paneId ++ [vertical])) ++ rest) = _
      rw [List.append_assoc, List.append_assoc,
        readFrom_readAll_bind _ (isUuid sourceId List.mem_cons_self),
        readFrom_readAll_bind _ (isUuid paneId (List.mem_cons_of_mem _ List.mem_cons_self)),
        readFrom_readAll_bind _ (show [vertical].length = 1 from rfl)]
      rfl
  | resizePane cols rows paneId =>
      obtain ⟨isCols, isRows⟩ := fits.size cols rows paneId rfl
      change readFrom (readB64 base64 fd >>= _)
        ((base64.int cols ++ (base64.int rows ++ paneId)) ++ rest) = _
      rw [List.append_assoc, List.append_assoc, readB64_bind isCols, readB64_bind isRows,
        readFrom_readAll_bind _ (isUuid paneId List.mem_cons_self)]
      rfl
  | closePane paneId =>
      change readFrom (readAll fd UUID_LENGTH >>= _) (paneId ++ rest) = _
      rw [readFrom_readAll_bind _ (isUuid paneId List.mem_cons_self)]
      rfl

/-- A command is read back, whatever follows it. -/
theorem readCommand_frame (fits : command.Fits base64) (rest : Bytes) :
    readFrom (readCommand base64 fd) (command.frame base64 ++ rest) = .returned command rest := by
  have parts : command.frame base64 ++ rest = [command.header] ++
      (base64.int (command.body base64).length ++ (command.body base64 ++ rest)) := by
    rw [HtmCommand.frame, List.cons_append, List.append_assoc]
    rfl
  rw [parts, readCommand, readFrom_readAll_bind _ (show [command.header].length = 1 from rfl),
    readB64_bind fits.short]
  exact readBody_body fits rest

theorem readCommand_ids {incoming rest : Bytes}
    (read : readFrom (readCommand base64 fd) incoming = .returned command rest) :
    ∀ id ∈ command.ids, id.length = UUID_LENGTH := by
  obtain ⟨header, _, _, read⟩ := readFrom_bind_ok read
  obtain ⟨length, left, _, read⟩ := readFrom_bind_ok read
  unfold readBody at read
  split at read
  · obtain ⟨uid, _, readUid, read⟩ := readFrom_bind_ok read
    obtain ⟨data, _, _, read⟩ := readFrom_bind_ok read
    cases read
    exact List.forall_mem_singleton.mpr (readAll_ok readUid).2
  split at read
  · unfold readDebugKeys at read
    split at read
    · cases read
    · obtain ⟨data, _, _, read⟩ := readFrom_bind_ok read
      cases read
      exact List.forall_mem_nil _
  split at read
  · obtain ⟨tabId, _, readTab, read⟩ := readFrom_bind_ok read
    obtain ⟨paneId, _, readPane, read⟩ := readFrom_bind_ok read
    cases read
    exact List.forall_mem_cons.mpr
      ⟨(readAll_ok readTab).2, List.forall_mem_singleton.mpr (readAll_ok readPane).2⟩
  split at read
  · obtain ⟨sourceId, _, readSource, read⟩ := readFrom_bind_ok read
    obtain ⟨paneId, _, readPane, read⟩ := readFrom_bind_ok read
    obtain ⟨vertical, _, _, read⟩ := readFrom_bind_ok read
    cases read
    exact List.forall_mem_cons.mpr
      ⟨(readAll_ok readSource).2, List.forall_mem_singleton.mpr (readAll_ok readPane).2⟩
  split at read
  · obtain ⟨cols, _, _, read⟩ := readFrom_bind_ok read
    obtain ⟨rows, _, _, read⟩ := readFrom_bind_ok read
    obtain ⟨paneId, _, readPane, read⟩ := readFrom_bind_ok read
    cases read
    exact List.forall_mem_singleton.mpr (readAll_ok readPane).2
  split at read
  · obtain ⟨paneId, _, readPane, read⟩ := readFrom_bind_ok read
    cases read
    exact List.forall_mem_singleton.mpr (readAll_ok readPane).2
  · cases read

end HtmServer

end EternalTerminal
