/-
When the two `listen` calls come back and when they end the process.
-/

import EternalTerminal.Terminal.Listeners

namespace EternalTerminal

/-! ### Calls that come back -/

/-- The call returns or throws an exception that is caught: it does not end the process. -/
def Completes {α : Type} (result : Except Failure α) : Prop :=
  ∀ message, result ≠ .error (.abort message)

section Completing

variable {α β : Type}

@[simp] theorem completes_ok (value : α) : Completes (.ok value) := by
  intro message impossible
  cases impossible

@[simp] theorem completes_runtimeError (what : String) :
    Completes (.error (.runtimeError what) : Except Failure α) := by
  intro message impossible
  cases impossible

@[simp] theorem not_completes_abort (message : String) :
    ¬ Completes (.error (.abort message) : Except Failure α) := by
  intro completes
  exact completes message rfl

theorem completes_bind {first : Except Failure α} {next : α → Except Failure β} :
    Completes (first >>= next) ↔
      Completes first ∧ ∀ value, first = .ok value → Completes (next value) := by
  cases first with
  | ok value =>
      constructor
      · intro completes
        refine ⟨completes_ok value, ?_⟩
        rintro _ ⟨⟩
        exact completes
      · rintro ⟨_, completes⟩
        exact completes value rfl
  | error failure =>
      constructor
      · intro completes
        refine ⟨?_, ?_⟩
        · rintro message ⟨⟩
          exact completes message rfl
        · intro value impossible
          cases impossible
      · rintro ⟨completes, _⟩ message same
        cases failure with
        | runtimeError what => cases same
        | abort text => exact completes text rfl

theorem Kernel.completes_fatalFail {kernel : Kernel} {answer : Option Int} :
    Completes (kernel.fatalFail answer) ↔ answer = none := by
  cases answer with
  | none => exact iff_of_true (completes_ok ()) rfl
  | some errno => exact iff_of_false (not_completes_abort _) (by simp)

/-- A call after a `FATAL_FAIL`. -/
theorem Kernel.completes_after {kernel : Kernel} {answer : Option Int}
    {next : Except Failure α} :
    Completes (kernel.fatalFail answer >>= fun _ => next) ↔
      answer = none ∧ Completes next := by
  rw [completes_bind, kernel.completes_fatalFail]
  constructor
  · rintro ⟨rfl, completes⟩
    exact ⟨rfl, completes () rfl⟩
  · rintro ⟨rfl, completes⟩
    exact ⟨rfl, fun _ _ => completes⟩

end Completing

/-! ### The addresses of a port -/

namespace Kernel

variable {kernel : Kernel}

/-- No `FATAL_FAIL` of this address fails. -/
def Serves (kernel : Kernel) (p : AddrInfo) : Prop :=
  ∀ sockFd, kernel.socket p = .ok sockFd →
    kernel.initServerSocket sockFd = none ∧
      (p.family = .AF_INET6 → kernel.setIpv6Only sockFd = none) ∧
      (kernel.bind p sockFd = none → kernel.listen sockFd = none) ∧
      (kernel.bind p sockFd ≠ none → kernel.close sockFd = none)

def HasSocket (kernel : Kernel) (p : AddrInfo) : Prop :=
  ∃ sockFd, kernel.socket p = .ok sockFd

def Refuses (kernel : Kernel) (p : AddrInfo) : Prop :=
  ∃ sockFd, kernel.socket p = .ok sockFd ∧ kernel.bind p sockFd ≠ none

/-- The loop stops at the first address that cannot be bound. -/
def ServesAll (kernel : Kernel) : List AddrInfo → Prop
  | [] => True
  | p :: rest => kernel.Serves p ∧ (kernel.Refuses p ∨ kernel.ServesAll rest)

end Kernel

def unseen : List AddrInfo → List Bytes → List AddrInfo
  | [], _ => []
  | p :: rest, seenAddresses =>
      if p.addr ∈ seenAddresses then unseen rest seenAddresses
      else p :: unseen rest (p.addr :: seenAddresses)

/-- The kernel resolves the endpoint, and what it answers for the addresses does not end
the process. -/
def Kernel.Resolves (kernel : Kernel) (endpoint : SocketEndpoint) : Prop :=
  ∃ servinfo, kernel.getaddrinfo endpoint.name endpoint.portOrZero = .ok servinfo ∧
    kernel.ServesAll (unseen servinfo []) ∧ ∃ p ∈ unseen servinfo [], kernel.HasSocket p

namespace TcpSocketHandler

variable {kernel : Kernel} {port : Int} {p : AddrInfo}

theorem bindAddress_completes {sockFd : Fd} :
    Completes (bindAddress kernel port p sockFd) ↔
      (kernel.bind p sockFd = none → kernel.listen sockFd = none) ∧
        (kernel.bind p sockFd ≠ none → kernel.close sockFd = none) := by
  unfold bindAddress
  cases kernel.bind p sockFd with
  | none => simp [Kernel.completes_after]
  | some errno => simp [Kernel.completes_after]

theorem serveAddress_completes :
    Completes (serveAddress kernel port p) ↔ kernel.Serves p := by
  unfold serveAddress Kernel.Serves
  cases found : kernel.socket p with
  | error errno =>
      apply iff_of_true (completes_ok _)
      intro sockFd impossible
      cases impossible
  | ok sockFd =>
      have onlyOne : ∀ {property : Fd → Prop},
          (∀ fd, (Except.ok sockFd : Except Int Fd) = .ok fd → property fd) ↔
            property sockFd := by
        intro property
        constructor
        · intro all
          exact all sockFd rfl
        · rintro holds _ ⟨⟩
          exact holds
      rw [onlyOne]
      dsimp only
      rw [Kernel.completes_after]
      apply and_congr_right
      intro _
      by_cases ipv6 : p.family = .AF_INET6
      · rw [keepToIpv6, if_pos ipv6, Kernel.completes_after, bindAddress_completes]
        simp [ipv6]
      · rw [keepToIpv6, if_neg ipv6]
        exact bindAddress_completes.trans (by simp [ipv6])

theorem serveAddress_cases (serves : kernel.Serves p) :
    (¬ kernel.HasSocket p ∧ serveAddress kernel port p = .ok none) ∨
      (kernel.HasSocket p ∧ ¬ kernel.Refuses p ∧
        ∃ sockFd, serveAddress kernel port p = .ok (some sockFd)) ∨
      (kernel.Refuses p ∧ ∃ what, serveAddress kernel port p = .error (.runtimeError what)) := by
  unfold serveAddress
  cases found : kernel.socket p with
  | error errno =>
      left
      refine ⟨?_, rfl⟩
      rintro ⟨sockFd, opened⟩
      cases found.symm.trans opened
  | ok sockFd =>
      right
      obtain ⟨isInit, isIpv6, isListening, isClosed⟩ := serves sockFd found
      have ipv6 : keepToIpv6 kernel p sockFd = .ok () := by
        by_cases family : p.family = .AF_INET6
        · rw [keepToIpv6, if_pos family, isIpv6 family, Kernel.fatalFail]
        · rw [keepToIpv6, if_neg family]
      dsimp only
      rw [isInit, ipv6]
      cases bound : kernel.bind p sockFd with
      | none =>
          left
          refine ⟨⟨sockFd, found⟩, ?_, sockFd, ?_⟩
          · rintro ⟨other, opened, unbound⟩
            cases found.symm.trans opened
            exact unbound bound
          · rw [bindAddress, bound]
            dsimp only
            rw [isListening bound]
            rfl
      | some errno =>
          right
          have unbound : kernel.bind p sockFd ≠ none := by simp [bound]
          refine ⟨⟨sockFd, found, unbound⟩, ?_⟩
          rw [bindAddress, bound]
          dsimp only
          rw [isClosed unbound]
          exact ⟨_, rfl⟩

theorem serveAddresses_completes (kernel : Kernel) (port : Int) (servinfo : List AddrInfo)
    (seenAddresses : List Bytes) (serverSockets : List Fd) :
    Completes (serveAddresses kernel port servinfo seenAddresses serverSockets) ↔
      kernel.ServesAll (unseen servinfo seenAddresses) := by
  induction servinfo generalizing seenAddresses serverSockets with
  | nil => exact iff_of_true (completes_ok _) trivial
  | cons p rest ih =>
      by_cases seen : p.addr ∈ seenAddresses
      · rw [serveAddresses, unseen, if_pos seen, if_pos seen]
        exact ih seenAddresses serverSockets
      · rw [serveAddresses, unseen, if_neg seen, if_neg seen, Kernel.ServesAll,
          completes_bind, serveAddress_completes]
        apply and_congr_right
        intro serves
        rcases serveAddress_cases serves with
          ⟨noSocket, result⟩ | ⟨_, accepts, sockFd, result⟩ | ⟨refuses, what, result⟩
        · have accepts : ¬ kernel.Refuses p := by
            rintro ⟨sockFd, opened, _⟩
            exact noSocket ⟨sockFd, opened⟩
          rw [result, or_iff_right accepts]
          simpa using ih (p.addr :: seenAddresses) serverSockets
        · rw [result, or_iff_right accepts]
          simpa using ih (p.addr :: seenAddresses) (serverSockets ++ [sockFd])
        · apply iff_of_true _ (Or.inl refuses)
          intro value impossible
          cases result.symm.trans impossible

/-- Without an exception, there is a descriptor if and only if an address got a socket. -/
theorem serveAddresses_nonempty {servinfo : List AddrInfo} {seenAddresses : List Bytes}
    {serverSockets listening : List Fd}
    (ok : serveAddresses kernel port servinfo seenAddresses serverSockets = .ok listening) :
    listening ≠ [] ↔
      serverSockets ≠ [] ∨ ∃ p ∈ unseen servinfo seenAddresses, kernel.HasSocket p := by
  induction servinfo generalizing seenAddresses serverSockets with
  | nil =>
      cases ok
      simp [unseen]
  | cons p rest ih =>
      by_cases seen : p.addr ∈ seenAddresses
      · rw [serveAddresses, if_pos seen] at ok
        rw [unseen, if_pos seen]
        exact ih ok
      · rw [serveAddresses, if_neg seen] at ok
        have serves : kernel.Serves p := by
          apply serveAddress_completes.mp
          intro message ends
          rw [ends] at ok
          cases ok
        rw [unseen, if_neg seen]
        rcases serveAddress_cases serves with
          ⟨noSocket, result⟩ | ⟨hasSocket, _, sockFd, result⟩ | ⟨_, what, result⟩
        · rw [result] at ok
          rw [ih ok]
          simp [noSocket]
        · rw [result] at ok
          rw [ih ok]
          simp [hasSocket]
        · rw [result] at ok
          cases ok

theorem serveAddresses_none {servinfo : List AddrInfo} {seenAddresses : List Bytes}
    {serverSockets : List Fd}
    (nowhere : ¬ ∃ p ∈ unseen servinfo seenAddresses, kernel.HasSocket p) :
    serveAddresses kernel port servinfo seenAddresses serverSockets = .ok serverSockets := by
  induction servinfo generalizing seenAddresses serverSockets with
  | nil => rfl
  | cons p rest ih =>
      by_cases seen : p.addr ∈ seenAddresses
      · rw [unseen, if_pos seen] at nowhere
        rw [serveAddresses, if_pos seen]
        exact ih nowhere
      · rw [unseen, if_neg seen] at nowhere
        rw [serveAddresses, if_neg seen]
        have noSocket : serveAddress kernel port p = .ok none := by
          unfold serveAddress
          cases found : kernel.socket p with
          | error errno => rfl
          | ok sockFd => exact absurd ⟨p, List.mem_cons_self, sockFd, found⟩ nowhere
        have later : ¬ ∃ q ∈ unseen rest (p.addr :: seenAddresses), kernel.HasSocket q := by
          rintro ⟨q, member, hasSocket⟩
          exact nowhere ⟨q, List.mem_cons_of_mem _ member, hasSocket⟩
        rw [noSocket]
        change serveAddresses kernel port rest (p.addr :: seenAddresses) (serverSockets ++ []) = _
        rw [List.append_nil]
        exact ih later

theorem listen_completes (handler : TcpSocketHandler) (endpoint : SocketEndpoint) :
    Completes (handler.listen kernel endpoint) ↔
      handler.portServerSockets endpoint.portOrZero = none ∧ kernel.Resolves endpoint := by
  unfold listen
  by_cases busy : (handler.portServerSockets endpoint.portOrZero).isSome
  · rw [if_pos busy]
    apply iff_of_false (not_completes_abort _)
    rintro ⟨free, _⟩
    rw [free] at busy
    cases busy
  · have free : handler.portServerSockets endpoint.portOrZero = none := by
      simpa using busy
    rw [if_neg busy, and_iff_right free]
    unfold Kernel.Resolves
    cases resolved : kernel.getaddrinfo endpoint.name endpoint.portOrZero with
    | error rc =>
        apply iff_of_false (not_completes_abort _)
        rintro ⟨servinfo, impossible, _⟩
        cases impossible
    | ok servinfo =>
        dsimp only
        rw [completes_bind, serveAddresses_completes]
        constructor
        · rintro ⟨servesAll, bound⟩
          refine ⟨servinfo, rfl, servesAll, ?_⟩
          by_contra nowhere
          have ends := bound [] (serveAddresses_none nowhere)
          rw [if_pos rfl] at ends
          exact not_completes_abort _ ends
        · rintro ⟨_, ⟨⟩, servesAll, hasSocket⟩
          refine ⟨servesAll, ?_⟩
          intro listening ok
          rw [if_neg ((serveAddresses_nonempty ok).mpr (Or.inr hasSocket))]
          exact completes_ok _

theorem listen_isSome {handler after : TcpSocketHandler} {endpoint : SocketEndpoint}
    (ok : handler.listen kernel endpoint = .ok after) :
    (after.portServerSockets endpoint.portOrZero).isSome := by
  unfold listen at ok
  dsimp only at ok
  split at ok
  · cases ok
  · split at ok
    · cases ok
    · obtain ⟨serverSockets, _, ok⟩ := except_bind_ok ok
      split at ok
      · cases ok
      · cases ok
        simp

end TcpSocketHandler

def Kernel.BindsPipe (kernel : Kernel) (path : Bytes) : Prop :=
  ∃ fd, kernel.unixSocket = .ok fd ∧ kernel.initServerSocket fd = none ∧
    kernel.unixBind fd (sunPath path) = none ∧ kernel.chmod 1 (sunPath path) = none

namespace PipeSocketHandler

variable {kernel : Kernel} {handler after : PipeSocketHandler} {endpoint : SocketEndpoint}

theorem listen_completes (handler : PipeSocketHandler) (endpoint : SocketEndpoint) :
    Completes (handler.listen kernel endpoint) ↔
      handler.pipeServerSockets endpoint.nameOrEmpty ≠ none ∨
        kernel.BindsPipe endpoint.nameOrEmpty := by
  unfold listen
  by_cases busy : (handler.pipeServerSockets endpoint.nameOrEmpty).isSome
  · rw [if_pos busy]
    exact iff_of_true (completes_runtimeError _) (Or.inl (Option.isSome_iff_ne_none.mp busy))
  · have free : handler.pipeServerSockets endpoint.nameOrEmpty = none := by
      simpa using busy
    rw [if_neg busy, or_iff_right (not_not.mpr free)]
    unfold Kernel.BindsPipe
    cases made : kernel.unixSocket with
    | error errno =>
        apply iff_of_false
        · exact not_completes_abort _
        · rintro ⟨fd, impossible, _⟩
          cases impossible
    | ok fd =>
        dsimp only
        rw [Kernel.completes_after, Kernel.completes_after, Kernel.completes_after]
        constructor
        · rintro ⟨isInit, isBound, isModed, _⟩
          exact ⟨fd, rfl, isInit, isBound, isModed⟩
        · rintro ⟨_, ⟨⟩, isInit, isBound, isModed⟩
          exact ⟨isInit, isBound, isModed, completes_ok _⟩

theorem listen_free (free : handler.pipeServerSockets endpoint.nameOrEmpty = none)
    (binds : kernel.BindsPipe endpoint.nameOrEmpty) :
    ∃ fd, handler.listen kernel endpoint =
      .ok { pipeServerSockets :=
        Function.update handler.pipeServerSockets endpoint.nameOrEmpty (some fd) } := by
  obtain ⟨fd, made, isInit, isBound, isModed⟩ := binds
  refine ⟨fd, ?_⟩
  unfold listen
  dsimp only
  rw [free, made]
  dsimp only [Option.isSome_none]
  rw [if_neg Bool.false_ne_true, isInit, isBound, isModed]
  rfl

theorem listen_busy (busy : handler.pipeServerSockets endpoint.nameOrEmpty ≠ none) :
    handler.listen kernel endpoint =
      .error (.runtimeError "Tried to listen twice on the same path") := by
  unfold listen
  rw [if_pos (Option.isSome_iff_ne_none.mpr busy)]

theorem listen_isSome (ok : handler.listen kernel endpoint = .ok after) :
    (after.pipeServerSockets endpoint.nameOrEmpty).isSome := by
  unfold listen at ok
  dsimp only at ok
  split at ok
  · cases ok
  · split at ok
    · cases ok
    · obtain ⟨_, _, ok⟩ := except_bind_ok ok
      obtain ⟨_, _, ok⟩ := except_bind_ok ok
      obtain ⟨_, _, ok⟩ := except_bind_ok ok
      cases ok
      simp

end PipeSocketHandler

end EternalTerminal
