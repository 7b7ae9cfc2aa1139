/-
`UserTerminalRouter`: the terminals that have registered with the server.
-/

import Mathlib.Logic.Function.Basic
import EternalTerminal.Base.Headers

namespace EternalTerminal

structure TerminalUserInfo where
  id : Bytes
  passkey : Bytes
  uid : Int
  gid : Int
  fd : Int

structure IdKeyPair where
  id : Bytes
  key : Bytes

/-- What `acceptNewConnection` meets on the router's socket.  A packet has a header and,
if it parses, user info. -/
inductive RouterPeer where
  | nothing
  | acceptFailed
  | unreadable
  | empty
  | packet (terminalFd : Fd) (header : UInt8) (tui : Option TerminalUserInfo)

def TERMINAL_USER_INFO : UInt8 := 8

structure UserTerminalRouter where
  idInfoMap : Bytes → Option TerminalUserInfo

/-- A connection as the router sees it: the id and the key it was built with. -/
structure ServerClientIdentity where
  id : Bytes
  key : Bytes

/-- The comparison that looks at every byte of the shorter key. -/
def ServerClientIdentity.verifyPasskey (connection : ServerClientIdentity)
    (targetKey : Bytes) : Bool :=
  !(List.zip connection.key targetKey).foldl (fun failed pair => failed || pair.1 != pair.2)
    (connection.key.length != targetKey.length)

namespace UserTerminalRouter

/-- `acceptNewConnection` of a well-formed packet. -/
def register (router : UserTerminalRouter) (tui : TerminalUserInfo) :
    IdKeyPair × UserTerminalRouter :=
  match router.idInfoMap tui.id with
  | some _ => (⟨[], []⟩, router)
  | none =>
      (⟨tui.id, tui.passkey⟩,
        { router with idInfoMap := Function.update router.idInfoMap tui.id (some tui) })

def acceptNewConnection (router : UserTerminalRouter) :
    RouterPeer → Except String (IdKeyPair × UserTerminalRouter)
  | .nothing => .ok (⟨[], []⟩, router)
  | .acceptFailed => .error "Error"
  | .unreadable => .ok (⟨[], []⟩, router)
  | .empty => .error "Missing user info packet"
  | .packet terminalFd header tui =>
      if header = TERMINAL_USER_INFO then
        match tui with
        | none => .error "Error parsing string to proto"
        | some tui => .ok (router.register { tui with fd := terminalFd })
      else .error "Got an invalid packet header"

def tryGetInfoForConnection (router : UserTerminalRouter)
    (serverClientState : ServerClientIdentity) : Except String (Option TerminalUserInfo) :=
  match router.idInfoMap serverClientState.id with
  | none => .error " Tried to read from an id that no longer exists"
  | some info =>
      if serverClientState.verifyPasskey info.passkey then .ok (some info) else .ok none

end UserTerminalRouter

/-! ### Comparing passkeys -/

theorem foldl_failed (pairs : List (UInt8 × UInt8)) :
    pairs.foldl (fun failed pair => failed || pair.1 != pair.2) true = true := by
  induction pairs with
  | nil => rfl
  | cons pair rest ih => exact ih

theorem zip_matches {key targetKey : Bytes} (sameLength : key.length = targetKey.length) :
    (List.zip key targetKey).foldl (fun failed pair => failed || pair.1 != pair.2) false =
      false ↔ key = targetKey := by
  induction key generalizing targetKey with
  | nil =>
      cases targetKey with
      | nil => simp
      | cons byte rest => cases sameLength
  | cons head tail ih =>
      cases targetKey with
      | nil => cases sameLength
      | cons byte rest =>
          have shorter : tail.length = rest.length := Nat.succ.inj sameLength
          rw [List.zip_cons_cons, List.foldl_cons, List.cons.injEq]
          by_cases same : head = byte
          · simp [same, ih shorter]
          · have differs : (head != byte) = true := by simpa using same
            rw [Bool.false_or, differs, foldl_failed]
            simp [same]

theorem ServerClientIdentity.verifyPasskey_iff (connection : ServerClientIdentity)
    (targetKey : Bytes) :
    connection.verifyPasskey targetKey = true ↔ connection.key = targetKey := by
  unfold verifyPasskey
  by_cases sameLength : connection.key.length = targetKey.length
  · have passes : (connection.key.length != targetKey.length) = false := by
      simpa using sameLength
    rw [passes, Bool.not_eq_true', zip_matches sameLength]
  · have fails : (connection.key.length != targetKey.length) = true := by
      simpa using sameLength
    rw [fails, foldl_failed]
    constructor
    · intro impossible
      cases impossible
    · intro same
      exact absurd (congrArg List.length same) sameLength

namespace UserTerminalRouter

variable {router after : UserTerminalRouter} {pair : IdKeyPair} {peer : RouterPeer}

/-- What an accepted terminal leaves behind: entries are never replaced, and the pair that
is handed on is the id and the passkey of a new entry. -/
theorem acceptNewConnection_spec
    (ok : router.acceptNewConnection peer = .ok (pair, after)) :
    (∀ id info, router.idInfoMap id = some info → after.idInfoMap id = some info) ∧
      (pair.id = [] ∨
        ∃ info, after.idInfoMap pair.id = some info ∧ info.passkey = pair.key) := by
  cases peer with
  | nothing =>
      cases ok
      exact ⟨fun _ _ found => found, Or.inl rfl⟩
  | acceptFailed => cases ok
  | unreadable =>
      cases ok
      exact ⟨fun _ _ found => found, Or.inl rfl⟩
  | empty => cases ok
  | packet terminalFd header tui =>
      simp only [acceptNewConnection] at ok
      split at ok
      · cases tui with
        | none => cases ok
        | some tui =>
            simp only [register, Except.ok.injEq] at ok
            split at ok
            · cases ok
              exact ⟨fun _ _ found => found, Or.inl rfl⟩
            · rename_i missing
              cases ok
              constructor
              · intro id info found
                have other : id ≠ tui.id := by
                  rintro rfl
                  cases missing.symm.trans found
                exact (Function.update_of_ne other _ _).trans found
              · exact Or.inr ⟨_, Function.update_self .., rfl⟩
      · cases ok

/-- The id of a terminal that has an entry is not handed on again. -/
theorem acceptNewConnection_known {info : TerminalUserInfo}
    (ok : router.acceptNewConnection peer = .ok (pair, after))
    (known : router.idInfoMap pair.id = some info) : pair.id = [] := by
  cases peer with
  | nothing =>
      cases ok
      rfl
  | acceptFailed => cases ok
  | unreadable =>
      cases ok
      rfl
  | empty => cases ok
  | packet terminalFd header tui =>
      simp only [acceptNewConnection] at ok
      split at ok
      · cases tui with
        | none => cases ok
        | some tui =>
            simp only [register, Except.ok.injEq] at ok
            split at ok
            · cases ok
              rfl
            · rename_i missing
              cases ok
              cases missing.symm.trans known
      · cases ok

theorem tryGetInfoForConnection_found {connection : ServerClientIdentity}
    {info : TerminalUserInfo} (found : router.idInfoMap connection.id = some info)
    (sameKey : info.passkey = connection.key) :
    router.tryGetInfoForConnection connection = .ok (some info) := by
  have verified := (connection.verifyPasskey_iff info.passkey).mpr sameKey.symm
  unfold tryGetInfoForConnection
  rw [found]
  exact if_pos verified

end UserTerminalRouter

end EternalTerminal
