/-
How the two threads of a client use the mutex and the handle of the reconnect thread.

The main thread pairs its locks, starts a reconnect thread in place of none, and joins one with
the mutex held only after it has found the socket broken.  The reconnect thread decides with the
mutex held whether it will lock it again.
-/

import EternalTerminal.Session.ReconnectThreads

namespace EternalTerminal

open Library

namespace ClientThreads

inductive Phase where
  | calm
  /-- the socket was found broken: no mutex is needed there -/
  | failed
  | joined
  | cleared
  deriving DecidableEq

/-- What remains known when the mutex is taken or given back. -/
def Phase.calmed : Phase → Phase
  | .failed => .calm
  | phase => phase

@[simp] theorem Phase.calmed_calmed (phase : Phase) : phase.calmed.calmed = phase.calmed := by
  cases phase <;> rfl

/-- The locks are paired, the thread is started in place of none, and with the mutex held it is
joined only after a failure. -/
def Disciplined {α : Type} (post : Phase → Nat → α → Prop) :
    ThreadProgram α → Phase → Nat → Prop
  | .done value, phase, held => post phase held value
  | .raise _, _, _ => False
  | .abort _, _, _ => False
  | .perform .lock next, phase, held => Disciplined post (next ()) phase.calmed (held + 1)
  | .perform .unlock next, phase, held =>
      ∃ below, held = below + 1 ∧ Disciplined post (next ()) phase.calmed below
  | .perform .hasThread next, phase, held =>
      Disciplined post (next true) phase held ∧ Disciplined post (next false) .cleared held
  | .perform .join next, phase, held =>
      (held ≠ 0 → phase = .failed) ∧ Disciplined post (next ()) .joined held
  | .perform .resetThread next, phase, held =>
      phase = .joined ∧ Disciplined post (next ()) .cleared held
  | .perform .startThread next, phase, held =>
      phase = .cleared ∧ Disciplined post (next ()) .calm held
  | .perform operation next, phase, held =>
      ∀ answer, (SocketFails operation answer → Disciplined post (next answer) .failed held) ∧
        (¬ SocketFails operation answer → Disciplined post (next answer) phase held)

/-- Every program of the main thread gives back what it has locked. -/
def Released (_ : Phase) (held : Nat) (_ : Progress) : Prop := held = 0

section

variable {α β : Type} {post : Phase → Nat → α → Prop} {phase : Phase} {held : Nat}

theorem Disciplined.bind {program : ThreadProgram β} {rest : β → ThreadProgram α}
    (first : Disciplined (fun phase held value => Disciplined post (rest value) phase held) program
      phase held) : Disciplined post (program >>= rest) phase held := by
  induction program generalizing phase held with
  | done value => exact first
  | raise exn => cases exn
  | abort message => exact first.elim
  | perform operation next ih =>
      cases operation with
      | lock => exact ih () first
      | unlock =>
          obtain ⟨below, same, goesOn⟩ := first
          exact ⟨below, same, ih () goesOn⟩
      | hasThread => exact ⟨ih true first.1, ih false first.2⟩
      | join => exact ⟨first.1, ih () first.2⟩
      | resetThread => exact ⟨first.1, ih () first.2⟩
      | startThread => exact ⟨first.1, ih () first.2⟩
      | socketFd | shuttingDown | setShuttingDown | invalidate | readerRead | writerWrite | connect
      | handshake | exchange | close | sleep =>
          intro answer
          exact ⟨fun fails => ih answer ((first answer).1 fails),
            fun works => ih answer ((first answer).2 works)⟩

/-! ### The methods of the main thread -/

theorem disciplined_lockGuard {block : ThreadProgram α}
    (inside : Disciplined (fun phase held value =>
      ∃ below, held = below + 1 ∧ post phase.calmed below value) block phase.calmed (held + 1)) :
    Disciplined post (lockGuard block) phase held := by
  have guarded : Disciplined post (block >>= fun value => call .unlock >>= fun _ => pure value)
      phase.calmed (held + 1) := Disciplined.bind inside
  exact guarded

theorem disciplined_waitReconnect {post : Phase → Nat → Unit → Prop}
    (known : held ≠ 0 → phase = .failed) (ends : post .cleared held ()) :
    Disciplined post waitReconnect phase held :=
  ⟨⟨known, rfl, ends⟩, ends⟩

theorem disciplined_closeSocket {post : Phase → Nat → Unit → Prop}
    (ends : post phase.calmed held ()) : Disciplined post closeSocket phase held := by
  rw [← Phase.calmed_calmed] at ends
  refine disciplined_lockGuard ?_
  refine fun connected => ⟨fun impossible => impossible.elim, fun _ => ?_⟩
  cases connected with
  | false => exact ⟨held, rfl, ends⟩
  | true => exact fun _ => ⟨fun impossible => impossible.elim, fun _ => ⟨held, rfl, ends⟩⟩

theorem disciplined_isShuttingDown {post : Phase → Nat → Bool → Prop}
    (ends : ∀ answer, post phase.calmed held answer) :
    Disciplined post isShuttingDown phase held := by
  rw [← Phase.calmed_calmed] at ends
  refine disciplined_lockGuard ?_
  exact fun answer => ⟨fun impossible => impossible.elim, fun _ => ⟨held, rfl, ends answer⟩⟩

theorem disciplined_isDisconnected {post : Phase → Nat → Bool → Prop}
    (ends : ∀ answer, post phase.calmed held answer) :
    Disciplined post isDisconnected phase held := by
  rw [← Phase.calmed_calmed] at ends
  refine disciplined_lockGuard ?_
  exact fun answer => ⟨fun impossible => impossible.elim, fun _ => ⟨held, rfl, ends _⟩⟩

theorem disciplined_closeSocketAndMaybeReconnect {post : Phase → Nat → Unit → Prop}
    (known : held ≠ 0 → phase = .failed) (starts : post .calm held ())
    (ends : post .cleared held ()) :
    Disciplined post closeSocketAndMaybeReconnect phase held := by
  refine Disciplined.bind (disciplined_waitReconnect known ?_)
  refine Disciplined.bind (disciplined_closeSocket ?_)
  refine Disciplined.bind (disciplined_isShuttingDown fun answer => ?_)
  cases answer with
  | false => exact ⟨rfl, starts⟩
  | true => exact ends

theorem disciplined_read {post : Phase → Nat → Bool → Prop}
    (unchanged : ∀ answer, post phase.calmed held answer) (calm : post .calm held false)
    (cleared : post .cleared held false) : Disciplined post read phase held := by
  rw [← Phase.calmed_calmed] at unchanged
  apply disciplined_lockGuard
  intro messagesRead
  cases messagesRead with
  | failed =>
      refine ⟨fun _ => ?_, fun works => absurd rfl works⟩
      have known : held + 1 ≠ 0 → Phase.failed = .failed := fun _ => rfl
      have closes : Disciplined
          (fun phase held' value => ∃ below, held' = below + 1 ∧ post phase.calmed below value)
          (closeSocketAndMaybeReconnect >>= fun _ => pure false) .failed (held + 1) :=
        Disciplined.bind (disciplined_closeSocketAndMaybeReconnect known
          ⟨held, rfl, calm⟩ ⟨held, rfl, cleared⟩)
      exact closes
  | nothing => exact ⟨nofun, fun _ => ⟨held, rfl, unchanged false⟩⟩
  | packet => exact ⟨nofun, fun _ => ⟨held, rfl, unchanged true⟩⟩

theorem disciplined_write {post : Phase → Nat → Bool → Prop}
    (unchanged : ∀ answer, post phase.calmed held answer) (calm : post .calm held true)
    (cleared : post .cleared held true) : Disciplined post write phase held := by
  rw [← Phase.calmed_calmed] at unchanged
  apply disciplined_lockGuard
  intro bwws
  cases bwws with
  | WROTE_WITH_FAILURE =>
      refine ⟨fun _ => ?_, fun works => absurd rfl works⟩
      have known : held + 1 ≠ 0 → Phase.failed = .failed := fun _ => rfl
      have closes : Disciplined
          (fun phase held' value => ∃ below, held' = below + 1 ∧ post phase.calmed below value)
          (closeSocketAndMaybeReconnect >>= fun _ => pure true) .failed (held + 1) :=
        Disciplined.bind (disciplined_closeSocketAndMaybeReconnect known
          ⟨held, rfl, calm⟩ ⟨held, rfl, cleared⟩)
      intro connected
      refine ⟨nofun, fun _ => ?_⟩
      cases connected with
      | true => exact closes
      | false => exact ⟨held, rfl, calm⟩
  | SKIPPED => exact ⟨nofun, fun _ => ⟨held, rfl, unchanged false⟩⟩
  | SUCCESS | BUFFERED_ONLY => exact ⟨nofun, fun _ => ⟨held, rfl, unchanged true⟩⟩

theorem disciplined_readPacket {post : Phase → Nat → Bool → Prop}
    (unchanged : ∀ answer, post phase.calmed held answer) (calm : post .calm held false)
    (cleared : post .cleared held false) : Disciplined post readPacket phase held := by
  rw [← Phase.calmed_calmed] at unchanged
  refine disciplined_lockGuard ?_
  refine fun ends => ⟨fun impossible => impossible.elim, fun _ => ?_⟩
  cases ends with
  | true => exact ⟨held, rfl, unchanged false⟩
  | false =>
      refine disciplined_read (fun answer => ?_) ⟨held, rfl, calm⟩ ⟨held, rfl, cleared⟩
      rw [Phase.calmed_calmed]
      exact ⟨held, rfl, unchanged answer⟩

theorem disciplined_writePacket : Disciplined Released writePacket phase 0 := by
  refine Disciplined.bind (disciplined_isShuttingDown fun ends => ?_)
  cases ends with
  | true => exact rfl
  | false =>
      have afterwards : ∀ phase success, Disciplined Released
          (if success = true then pure .finished
          else do
            let _hasConnection ← lockGuard (call .socketFd)
            call .sleep
            pure .again) phase 0 := by
        intro phase success
        cases success with
        | true => exact rfl
        | false =>
            refine Disciplined.bind (disciplined_lockGuard ?_)
            refine fun answer => ⟨fun impossible => impossible.elim, fun _ => ⟨0, rfl, ?_⟩⟩
            exact fun _ => ⟨fun impossible => impossible.elim, fun _ => rfl⟩
      exact Disciplined.bind (disciplined_write (fun answer => afterwards _ answer)
        (afterwards _ _) (afterwards _ _))

theorem disciplined_shutdown : Disciplined (fun _ held _ => held = 0) shutdown phase 0 := by
  refine disciplined_lockGuard ?_
  refine fun _ => ⟨fun impossible => impossible.elim, fun _ => ?_⟩
  exact disciplined_closeSocket ⟨0, rfl, rfl⟩

theorem disciplined_mainCall (mainCall : MainCall) :
    Disciplined Released mainCall.program .calm 0 := by
  cases mainCall with
  | read => exact Disciplined.bind (disciplined_read (fun _ => rfl) rfl rfl)
  | write => exact Disciplined.bind (disciplined_write (fun _ => rfl) rfl rfl)
  | readPacket => exact Disciplined.bind (disciplined_readPacket (fun _ => rfl) rfl rfl)
  | writePacket => exact disciplined_writePacket
  | closeSocketAndMaybeReconnect =>
      exact Disciplined.bind (disciplined_closeSocketAndMaybeReconnect
        (fun impossible => absurd rfl impossible) rfl rfl)
  | waitReconnect =>
      exact Disciplined.bind (disciplined_waitReconnect (fun impossible => absurd rfl impossible)
        rfl)
  | shutdown => exact Disciplined.bind disciplined_shutdown
  | look => exact Disciplined.bind (disciplined_isDisconnected fun _ => rfl)

end

/-! ### The reconnect thread -/

/-- Whatever it is answered, the thread ends without the mutex. -/
def Finishing : ThreadProgram Progress → Prop
  | .done progress => progress = .finished
  | .raise _ => False
  | .abort _ => False
  | .perform operation next => operation ≠ .lock ∧ ∀ answer, Finishing (next answer)

/-- The thread pairs its locks and leaves the thread's handle alone, and without the mutex it is
decided whether it will lock it again. -/
def Decided : ThreadProgram Progress → Nat → Prop
  | .done _, held => held = 0
  | .raise _, _ => False
  | .abort _, _ => False
  | .perform .lock next, held => Decided (next ()) (held + 1)
  | .perform .unlock next, held => ∃ below, held = below + 1 ∧ Decided (next ()) below
  | .perform .hasThread _, _ => False
  | .perform .join _, _ => False
  | .perform .resetThread _, _ => False
  | .perform .startThread _, _ => False
  | .perform operation next, held =>
      (held = 0 → NeedsLock (.perform operation next) ∨ Finishing (.perform operation next)) ∧
        ∀ answer, Decided (next answer) held

def Inside {α : Type} (post : α → Prop) : ThreadProgram α → Nat → Prop
  | .done value, held => held = 1 ∧ post value
  | .raise _, _ => False
  | .abort _, _ => False
  | .perform .lock next, held => Inside post (next ()) (held + 1)
  | .perform .unlock next, held => ∃ below, held = below + 2 ∧ Inside post (next ()) (below + 1)
  | .perform .hasThread _, _ => False
  | .perform .join _, _ => False
  | .perform .resetThread _, _ => False
  | .perform .startThread _, _ => False
  | .perform _ next, held => held ≠ 0 ∧ ∀ answer, Inside post (next answer) held

section

variable {α : Type} {post : α → Prop} {held : Nat}

theorem Inside.decided {block : ThreadProgram α} {rest : α → ThreadProgram Progress}
    (inside : Inside (fun value => Decided (rest value) 1) block held) :
    Decided (block >>= rest) held := by
  induction block generalizing held with
  | done value =>
      obtain ⟨one, goesOn⟩ := inside
      rw [one]
      exact goesOn
  | raise exn => cases exn
  | abort message => exact inside.elim
  | perform operation next ih =>
      cases operation with
      | lock => exact ih () inside
      | unlock =>
          obtain ⟨below, same, goesOn⟩ := inside
          exact ⟨below + 1, same, ih () goesOn⟩
      | hasThread | join | resetThread | startThread => exact inside.elim
      | socketFd | shuttingDown | setShuttingDown | invalidate | readerRead | writerWrite | connect
      | handshake | exchange | close | sleep =>
          exact ⟨fun none => absurd none inside.1, fun answer => ih answer (inside.2 answer)⟩

theorem inside_tryReconnect {post : Progress → Prop} (ends : ∀ progress, post progress) :
    Inside post tryReconnect 1 := by
  have stops : ∀ progress : Progress, Inside post (pure progress) 1 :=
    fun progress => ⟨rfl, ends progress⟩
  refine ⟨nofun, fun connected => ?_⟩
  cases connected with
  | true => exact stops .finished
  | false =>
      refine ⟨nofun, fun shutting => ?_⟩
      cases shutting with
      | true => exact stops .finished
      | false =>
          refine ⟨nofun, fun opened => ?_⟩
          cases opened with
          | false => exact stops .again
          | true =>
              refine ⟨nofun, fun response => ?_⟩
              cases response with
              | none => exact ⟨nofun, fun _ => stops .again⟩
              | some status =>
                  cases status with
                  | INVALID_KEY => exact ⟨nofun, fun _ => ⟨nofun, fun _ => stops .finished⟩⟩
                  | RETURNING_CLIENT => exact ⟨nofun, fun _ => ⟨0, rfl, stops .again⟩⟩
                  | NEW_CLIENT | MISMATCHED_PROTOCOL => exact ⟨nofun, fun _ => stops .again⟩

theorem decided_lockGuard {block : ThreadProgram α} {rest : α → ThreadProgram Progress}
    (inside : Inside (fun value => ∃ below, 1 = below + 1 ∧ Decided (rest value) below) block 1) :
    Decided (lockGuard block >>= rest) 0 := by
  have guarded : Decided ((block >>= fun value => call .unlock >>= fun _ => pure value) >>= rest)
      1 := by
    rw [bind_assoc]
    exact inside.decided
  exact guarded

/-- A pass gives the mutex back for good only when it ends the loop. -/
theorem decided_pollReconnect : Decided pollReconnect 0 := by
  have goesOn : ∀ connected : Bool, Decided
      (if (!connected) = true then call .sleep >>= fun _ => pure .again else pure .again) 0 := by
    intro connected
    cases connected with
    | true => exact rfl
    | false => exact ⟨fun _ => Or.inl (Or.inr fun _ => rfl), fun _ => rfl⟩
  apply decided_lockGuard
  apply inside_tryReconnect
  intro progress
  refine ⟨0, rfl, ?_⟩
  cases progress with
  | finished => exact rfl
  | again => exact ⟨nofun, fun connected => ⟨0, rfl, goesOn connected⟩⟩

theorem Decided.needsLock_or_finishing {program : ThreadProgram Progress}
    (decided : Decided program 0) : NeedsLock program ∨ Finishing program := by
  cases program with
  | done progress =>
      cases progress with
      | finished => exact Or.inr rfl
      | again => exact Or.inl rfl
  | raise exn => cases exn
  | abort message => exact decided.elim
  | perform operation next =>
      cases operation with
      | lock => exact Or.inl (Or.inl rfl)
      | unlock =>
          obtain ⟨below, impossible, _⟩ := decided
          cases impossible
      | hasThread | join | resetThread | startThread => exact decided.elim
      | socketFd | shuttingDown | setShuttingDown | invalidate | readerRead | writerWrite | connect
      | handshake | exchange | close | sleep => exact decided.1 rfl

/-- For every call there is an answer, so a program cannot both lock and not. -/
theorem Finishing.not_needsLock {program : ThreadProgram Progress}
    (finishing : Finishing program) : ¬ NeedsLock program := by
  induction program with
  | done progress =>
      intro again
      cases finishing.symm.trans again
  | raise exn => cases exn
  | abort message => exact finishing.elim
  | perform operation next ih =>
      intro needsLock
      have answer : operation.Answer := by
        cases operation with
        | socketFd | shuttingDown | hasThread | connect | exchange => exact true
        | readerRead => exact .nothing
        | writerWrite => exact .SKIPPED
        | handshake => exact none
        | lock | unlock | setShuttingDown | invalidate | join | resetThread | startThread | close
        | sleep => exact ()
      rcases needsLock with locks | always
      · exact finishing.1 locks
      · exact ih answer (finishing.2 answer) (always answer)

end

end ClientThreads

end EternalTerminal
