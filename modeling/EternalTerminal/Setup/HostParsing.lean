/-
`HostParsing.hpp`, and the jumphost string that `TerminalClientMain` rebuilds.

`SetupSsh` parses the rebuilt string again.  It finds the same parts only if the user name has
no '@' and the host name is in brackets or has no ':'.
-/

import EternalTerminal.Base.Text

namespace EternalTerminal

open Library

/-- The parts of `[user@]host[:port]`; the suffix has the colon. -/
structure ParsedHostString where
  user : Bytes
  host : Bytes
  portSuffix : Bytes
  deriving DecidableEq

/-- `parseHostString` after the user name. -/
def parseHostPort (user : Bytes) : Bytes → ParsedHostString
  | 91 :: rest =>
      match cut 93 (91 :: rest) with
      | some (address, portSuffix) =>
          { user := user
            host := address ++ [93]
            portSuffix := if portSuffix.head? = some 58 then portSuffix else [] }
      | none =>
          -- No closing bracket: the text is taken as it is.
          { user := user
            host := 91 :: rest
            portSuffix := [] }
  | remaining =>
      match cut 58 remaining with
      | some (host, port) =>
          { user := user
            host := host
            portSuffix := 58 :: port }
      | none =>
          { user := user
            host := remaining
            portSuffix := [] }

def parseHostString (hostString : Bytes) : ParsedHostString :=
  match cut 64 hostString with
  | some (user, remaining) => parseHostPort user remaining
  | none => parseHostPort [] hostString

/-- What `resolveSshConfigHost` reads for a host. -/
structure ResolvedSshConfig where
  hostname : Bytes
  username : Bytes
  deriving DecidableEq

/-- The user name: from the argument, else from the configuration, else of the local user. -/
def jumphostUser (parsed : ParsedHostString) (resolved : ResolvedSshConfig)
    (localUsername : Bytes) : Bytes :=
  if parsed.user ≠ [] then parsed.user
  else if resolved.username ≠ [] then resolved.username
  else localUsername

/-- The jumphost string that is passed to `SetupSsh`. -/
def rebuildJumphost (jumphost : Bytes) (resolveSshConfigHost : Bytes → ResolvedSshConfig)
    (localUsername : Bytes) : Bytes :=
  let parsed := parseHostString jumphost
  let resolved := resolveSshConfigHost parsed.host
  jumphostUser parsed resolved localUsername ++ ascii "@" ++ resolved.hostname ++
    parsed.portSuffix

/-- A host name that ends where it should, in front of a port: brackets around it, or no colon
in it. -/
def EndsBeforePort (host portSuffix : Bytes) : Prop :=
  if host.head? = some 91 then
    (∃ address, host = address ++ [93] ∧ 93 ∉ address) ∨ (93 ∉ host ∧ portSuffix = [])
  else 58 ∉ host

section

variable {user host portSuffix hostString : Bytes}

theorem parseHostPort_bracket (opens : host.head? = some 91) (portSuffix : Bytes) :
    parseHostPort user (host ++ portSuffix) =
      match cut 93 (host ++ portSuffix) with
      | some (address, after) =>
          { user := user
            host := address ++ [93]
            portSuffix := if after.head? = some 58 then after else [] }
      | none =>
          { user := user
            host := host ++ portSuffix
            portSuffix := [] } := by
  cases host with
  | nil => cases opens
  | cons byte rest =>
      cases opens
      rfl

theorem parseHostPort_plain {remaining : Bytes} (plain : remaining.head? ≠ some 91) :
    parseHostPort user remaining =
      match cut 58 remaining with
      | some (host, port) =>
          { user := user
            host := host
            portSuffix := 58 :: port }
      | none =>
          { user := user
            host := remaining
            portSuffix := [] } := by
  unfold parseHostPort
  split
  · exact absurd rfl plain
  · rfl

theorem portSuffix_shape (hostString : Bytes) :
    (parseHostString hostString).portSuffix = [] ∨
      ∃ port, (parseHostString hostString).portSuffix = 58 :: port := by
  have shape : ∀ user remaining, (parseHostPort user remaining).portSuffix = [] ∨
      ∃ port, (parseHostPort user remaining).portSuffix = 58 :: port := by
    intro user remaining
    unfold parseHostPort
    split
    · split
      · rename_i address after _
        cases after with
        | nil => exact Or.inl rfl
        | cons byte rest =>
            by_cases colon : byte = 58
            · exact Or.inr ⟨rest, by simp [colon]⟩
            · exact Or.inl (by simp [colon])
      · exact Or.inl rfl
    · split
      · exact Or.inr ⟨_, rfl⟩
      · exact Or.inl rfl
  unfold parseHostString
  split
  · exact shape _ _
  · exact shape _ _

theorem parseHostPort_bracket_iff (shape : portSuffix = [] ∨ ∃ port, portSuffix = 58 :: port)
    (opens : host.head? = some 91) :
    parseHostPort user (host ++ portSuffix) =
        { user := user, host := host, portSuffix := portSuffix } ↔
      (∃ address, host = address ++ [93] ∧ 93 ∉ address) ∨ (93 ∉ host ∧ portSuffix = []) := by
  rw [parseHostPort_bracket opens]
  cases found : cut 93 (host ++ portSuffix) with
  | none =>
      have free := cut_eq_none_iff.mp found
      simp only [List.mem_append, not_or] at free
      simp only [ParsedHostString.mk.injEq, true_and]
      constructor
      · intro ⟨_, empty⟩
        exact Or.inr ⟨free.1, empty.symm⟩
      · intro readable
        cases readable with
        | inl closed =>
            obtain ⟨address, same, _⟩ := closed
            exact absurd (same ▸ List.mem_append_right address (List.mem_singleton_self 93))
              free.1
        | inr bare => simp [bare.2]
  | some parts =>
      obtain ⟨address, after⟩ := parts
      obtain ⟨whole, free⟩ := cut_eq_some_iff.mp found
      simp only [ParsedHostString.mk.injEq, true_and]
      constructor
      · intro ⟨same, _⟩
        exact Or.inl ⟨address, same.symm, free⟩
      · intro readable
        cases readable with
        | inl closed =>
            obtain ⟨text, same, freeText⟩ := closed
            have again := cut_append freeText portSuffix
            have split : host ++ portSuffix = text ++ 93 :: portSuffix := by
              rw [same, List.append_assoc, List.singleton_append]
            rw [split] at found
            cases again.symm.trans found
            refine ⟨same.symm, ?_⟩
            cases shape with
            | inl empty => simp [empty]
            | inr port =>
                obtain ⟨port, isPort⟩ := port
                simp [isPort]
        | inr bare =>
            have inHost : (93 : UInt8) ∈ host := by
              rw [bare.2, List.append_nil] at whole
              rw [whole]
              exact List.mem_append_right address List.mem_cons_self
            exact absurd inHost bare.1

theorem parseHostPort_plain_iff (shape : portSuffix = [] ∨ ∃ port, portSuffix = 58 :: port)
    (opens : host.head? ≠ some 91) :
    parseHostPort user (host ++ portSuffix) =
        { user := user, host := host, portSuffix := portSuffix } ↔ 58 ∉ host := by
  have plain : (host ++ portSuffix).head? ≠ some 91 := by
    cases host with
    | cons byte rest => exact opens
    | nil =>
        cases shape with
        | inl empty => simp [empty]
        | inr port =>
            obtain ⟨port, isPort⟩ := port
            simp [isPort]
  rw [parseHostPort_plain plain]
  cases found : cut 58 (host ++ portSuffix) with
  | none =>
      have free := cut_eq_none_iff.mp found
      simp only [List.mem_append, not_or] at free
      have empty : portSuffix = [] := by
        cases shape with
        | inl empty => exact empty
        | inr port =>
            obtain ⟨port, isPort⟩ := port
            exact absurd (isPort ▸ List.mem_cons_self) free.2
      simp [empty, free.1]
  | some parts =>
      obtain ⟨front, port⟩ := parts
      obtain ⟨whole, free⟩ := cut_eq_some_iff.mp found
      simp only [ParsedHostString.mk.injEq, true_and]
      constructor
      · intro ⟨same, _⟩
        exact same ▸ free
      · intro noColon
        cases shape with
        | inl empty =>
            rw [empty, List.append_nil] at whole
            exact absurd (whole ▸ List.mem_append_right front List.mem_cons_self) noColon
        | inr suffix =>
            obtain ⟨other, isPort⟩ := suffix
            rw [isPort, cut_append noColon other] at found
            cases found
            exact ⟨rfl, isPort.symm⟩

/-- A host name is found again in front of a port exactly when it ends there. -/
theorem parseHostPort_iff (shape : portSuffix = [] ∨ ∃ port, portSuffix = 58 :: port) :
    parseHostPort user (host ++ portSuffix) =
        { user := user, host := host, portSuffix := portSuffix } ↔
      EndsBeforePort host portSuffix := by
  unfold EndsBeforePort
  by_cases opens : host.head? = some 91
  · rw [if_pos opens]
    exact parseHostPort_bracket_iff shape opens
  · rw [if_neg opens]
    exact parseHostPort_plain_iff shape opens

theorem parseHostString_iff (shape : portSuffix = [] ∨ ∃ port, portSuffix = 58 :: port) :
    parseHostString (user ++ ascii "@" ++ host ++ portSuffix) =
        { user := user, host := host, portSuffix := portSuffix } ↔
      64 ∉ user ∧ EndsBeforePort host portSuffix := by
  have ascii_at : ascii "@" = [64] := by decide
  have withoutUser : parseHostPort user (host ++ portSuffix) =
      { user := user, host := host, portSuffix := portSuffix } ↔
        EndsBeforePort host portSuffix := parseHostPort_iff shape
  rw [← withoutUser, ascii_at, List.append_assoc, List.append_assoc,
    List.singleton_append]
  by_cases inUser : 64 ∈ user
  · simp only [inUser, not_true_eq_false, false_and, iff_false]
    obtain ⟨front, rest, split, free⟩ := List.eq_append_cons_of_mem inUser
    have found : cut 64 (user ++ 64 :: (host ++ portSuffix)) =
        some (front, rest ++ 64 :: (host ++ portSuffix)) := by
      rw [split, List.append_assoc, List.cons_append]
      exact cut_append free _
    have isFront : ∀ remaining, (parseHostPort front remaining).user = front := by
      intro remaining
      unfold parseHostPort
      split <;> split <;> rfl
    intro same
    have sameUser := congrArg ParsedHostString.user same
    simp only [parseHostString, found, isFront] at sameUser
    exact free (sameUser ▸ inUser)
  · simp only [parseHostString, cut_append inUser, inUser, not_false_eq_true, true_and]

end

/-- The rebuilt string is read back exactly when the user name has no '@' and the host name
ends before the port. -/
theorem jumphost_read_back_iff (jumphost : Bytes)
    (resolveSshConfigHost : Bytes → ResolvedSshConfig) (localUsername : Bytes) :
    parseHostString (rebuildJumphost jumphost resolveSshConfigHost localUsername) =
        { user := jumphostUser (parseHostString jumphost)
            (resolveSshConfigHost (parseHostString jumphost).host) localUsername
          host := (resolveSshConfigHost (parseHostString jumphost).host).hostname
          portSuffix := (parseHostString jumphost).portSuffix } ↔
      64 ∉ jumphostUser (parseHostString jumphost)
          (resolveSshConfigHost (parseHostString jumphost).host) localUsername ∧
        EndsBeforePort (resolveSshConfigHost (parseHostString jumphost).host).hostname
          (parseHostString jumphost).portSuffix :=
  parseHostString_iff (portSuffix_shape jumphost)

/-- A bare IPv6 address, and a user name with '@'. -/
theorem jumphost_misread :
    parseHostString (rebuildJumphost (ascii "jump:22")
        (fun _ => ⟨ascii "::1", []⟩) (ascii "me")) =
        ⟨ascii "me", [], ascii "::1:22"⟩ ∧
      (⟨ascii "me", [], ascii "::1:22"⟩ : ParsedHostString) ≠
        ⟨ascii "me", ascii "::1", ascii ":22"⟩ ∧
      parseHostString (rebuildJumphost (ascii "jump:22")
        (fun _ => ⟨ascii "h", ascii "me@corp"⟩) (ascii "me")) =
        ⟨ascii "me", ascii "corp@h", ascii ":22"⟩ := by
  decide

end EternalTerminal
