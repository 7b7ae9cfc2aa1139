/-
When the main thread and the reconnect thread of a client wait for each other.

`read` and `write` join the reconnect thread with the mutex held if they find the socket broken.
That is harmless unless the thread still has to lock the mutex: after its recovery, up to its
last look at the socket.
-/

import EternalTerminal.Session.ReconnectPrograms

namespace EternalTerminal

open Library

namespace ClientThreads

/-! ### What holds in every run -/

def Shared.Holds (shared : Shared) (name : ThreadName) (held : Nat) : Prop :=
  (held = 0 → ∀ depth, shared.owner ≠ some (name, depth)) ∧
    (held ≠ 0 → shared.owner = some (name, held))

def PhaseHolds (shared : Shared) (held : Nat) : Phase → Prop
  | .calm => True
  | .failed => held ≠ 0 → ¬ shared.Reconnecting
  | .joined => shared.reconnectThread = .ended
  | .cleared => shared.reconnectThread = .none

def MainSafe (shared : Shared) : MainThread → Prop
  | .idle => shared.Holds .main 0
  | .running _ program =>
      ∃ phase held, Disciplined Released program phase held ∧ shared.Holds .main held ∧
        PhaseHolds shared held phase

def ThreadSafe (shared : Shared) : ReconnectThread → Prop
  | .running program => ∃ held, Decided program held ∧ shared.Holds .reconnect held
  | .none => shared.Holds .reconnect 0
  | .ended => shared.Holds .reconnect 0

structure Safe (threads : Threads) : Prop where
  main : MainSafe threads.shared threads.main
  thread : ThreadSafe threads.shared threads.shared.reconnectThread

section

variable {shared after : Shared} {name other : ThreadName} {held depth : Nat} {phase : Phase}
  {program : ThreadProgram Progress} {operation : ThreadCall} {answer : operation.Answer}
  {next : operation.Answer → ThreadProgram Progress}

theorem Shared.Holds.congr (holds : shared.Holds name held) (same : after.owner = shared.owner) :
    after.Holds name held := by
  unfold Shared.Holds
  rw [same]
  exact holds

theorem Shared.Holds.of_free (free : shared.owner = none) : shared.Holds name 0 := by
  refine ⟨fun _ depth owns => ?_, fun impossible => absurd rfl impossible⟩
  cases free.symm.trans owns

theorem Shared.Holds.of_other (owns : shared.owner = some (name, depth)) (isOther : other ≠ name) :
    shared.Holds other 0 := by
  refine ⟨fun _ depth' owns' => ?_, fun impossible => absurd rfl impossible⟩
  cases owns.symm.trans owns'
  exact isOther rfl

theorem Shared.Holds.eq_zero (holds : shared.Holds name held) (none : shared.Holds name 0) :
    held = 0 := by
  by_contra some
  exact none.1 rfl held (holds.2 some)

/-- What one thread does to the mutex, the other does not notice. -/
theorem Shared.Holds.of_answered (holds : shared.Holds other held)
    (answers : answered name shared operation answer after) (isOther : other ≠ name) :
    after.Holds other held := by
  cases operation with
  | lock =>
      rcases answers with ⟨free, same⟩ | ⟨depth, owns, same⟩
      · rw [holds.eq_zero (.of_free free), same]
        exact .of_other rfl isOther
      · rw [holds.eq_zero (.of_other owns isOther), same]
        exact .of_other rfl isOther
  | unlock =>
      obtain ⟨depth, owns, same⟩ := answers
      rw [holds.eq_zero (.of_other owns isOther), same]
      by_cases last : depth = 0
      · exact .of_free (if_pos last)
      · exact .of_other (if_neg last) isOther
  | setShuttingDown | invalidate | resetThread | startThread | connect | handshake | exchange
  | close | sleep =>
      have same : after = _ := answers
      rw [same]
      exact holds
  | socketFd | shuttingDown | hasThread | join | readerRead | writerWrite =>
      rw [answers.2]
      exact holds

theorem Shared.Holds.lock (holds : shared.Holds name held)
    (locks : answered name shared .lock () after) : after.Holds name (held + 1) := by
  rcases locks with ⟨free, same⟩ | ⟨depth, owns, same⟩
  · rw [holds.eq_zero (.of_free free), same]
    exact ⟨nofun, fun _ => rfl⟩
  · have some : held ≠ 0 := fun none => holds.1 none depth owns
    cases owns.symm.trans (holds.2 some)
    rw [same]
    exact ⟨nofun, fun _ => rfl⟩

theorem Shared.Holds.unlock {below : Nat} (holds : shared.Holds name (below + 1))
    (unlocks : answered name shared .unlock () after) : after.Holds name below := by
  obtain ⟨depth, owns, same⟩ := unlocks
  cases owns.symm.trans (holds.2 (Nat.succ_ne_zero below))
  rw [same]
  by_cases last : below = 0
  · rw [last]
    exact .of_free rfl
  · exact ⟨fun none => absurd none last, fun _ => if_neg last⟩

theorem owner_kept (answers : answered name shared operation answer after)
    (notLock : operation ≠ .lock) (notUnlock : operation ≠ .unlock) :
    after.owner = shared.owner := by
  cases operation with
  | lock => exact absurd rfl notLock
  | unlock => exact absurd rfl notUnlock
  | setShuttingDown | invalidate | resetThread | startThread | connect | handshake | exchange
  | close | sleep =>
      have same : after = _ := answers
      rw [same]
  | socketFd | shuttingDown | hasThread | join | readerRead | writerWrite => rw [answers.2]

theorem reconnectThread_kept (answers : answered name shared operation answer after)
    (notReset : operation ≠ .resetThread) (notStart : operation ≠ .startThread) :
    after.reconnectThread = shared.reconnectThread := by
  cases operation with
  | resetThread => exact absurd rfl notReset
  | startThread => exact absurd rfl notStart
  | lock =>
      rcases answers with ⟨_, same⟩ | ⟨_, _, same⟩
      · rw [same]
      · rw [same]
  | unlock =>
      obtain ⟨_, _, same⟩ := answers
      rw [same]
  | setShuttingDown | invalidate | connect | handshake | exchange | close | sleep =>
      have same : after = _ := answers
      rw [same]
  | socketFd | shuttingDown | hasThread | join | readerRead | writerWrite => rw [answers.2]

theorem PhaseHolds.congr (known : PhaseHolds shared held phase)
    (same : after.reconnectThread = shared.reconnectThread) : PhaseHolds after held phase := by
  cases phase with
  | calm => trivial
  | failed =>
      intro some reconnecting
      obtain ⟨program, runs, needsLock⟩ := reconnecting
      exact known some ⟨program, same.symm.trans runs, needsLock⟩
  | joined => exact same.trans known
  | cleared => exact same.trans known

/-- What is known however often the mutex is held. -/
theorem PhaseHolds.calmed {held' : Nat} (known : PhaseHolds shared held phase) :
    PhaseHolds shared held' phase.calmed := by
  cases phase with
  | calm => trivial
  | failed => trivial
  | joined => exact known
  | cleared => exact known

/-! ### A step of the main thread -/

/-- What the main thread knows after a call that neither locks nor touches the thread's
handle. -/
theorem knows_after (goesOn : (SocketFails operation answer →
      Disciplined Released (next answer) .failed held) ∧
      (¬ SocketFails operation answer → Disciplined Released (next answer) phase held))
    (known : PhaseHolds after held phase)
    (allowed : SocketFails operation answer → ¬ after.Reconnecting) :
    ∃ phase, Disciplined Released (next answer) phase held ∧ PhaseHolds after held phase := by
  by_cases fails : SocketFails operation answer
  · exact ⟨.failed, goesOn.1 fails, fun _ => allowed fails⟩
  · exact ⟨phase, goesOn.2 fails, known⟩

theorem main_answered (disciplined : Disciplined Released (.perform operation next) phase held)
    (holds : shared.Holds .main held) (known : PhaseHolds shared held phase)
    (answers : answered .main shared operation answer after)
    (allowed : SocketFails operation answer → ¬ after.Reconnecting) :
    ∃ phase held, Disciplined Released (next answer) phase held ∧ after.Holds .main held ∧
      PhaseHolds after held phase := by
  cases operation with
  | lock =>
      have same := reconnectThread_kept answers nofun nofun
      exact ⟨phase.calmed, held + 1, disciplined, holds.lock answers, known.calmed.congr same⟩
  | unlock =>
      have same := reconnectThread_kept answers nofun nofun
      obtain ⟨below, isHeld, goesOn⟩ := disciplined
      rw [isHeld] at holds
      exact ⟨phase.calmed, below, goesOn, holds.unlock answers, known.calmed.congr same⟩
  | hasThread =>
      obtain ⟨looks, same⟩ := answers
      rw [same]
      cases answer with
      | true => exact ⟨phase, held, disciplined.1, holds, known⟩
      | false =>
          have none : shared.reconnectThread = .none := by
            by_contra some
            cases looks.2 some
          exact ⟨.cleared, held, disciplined.2, holds, none⟩
  | join =>
      obtain ⟨ended, same⟩ := answers
      rw [same]
      exact ⟨.joined, held, disciplined.2, holds, ended⟩
  | resetThread =>
      have same : after = _ := answers
      rw [same]
      exact ⟨.cleared, held, disciplined.2, holds, rfl⟩
  | startThread =>
      have same : after = _ := answers
      rw [same]
      exact ⟨.calm, held, disciplined.2, holds, trivial⟩
  | socketFd | shuttingDown | setShuttingDown | invalidate | readerRead | writerWrite | connect
  | handshake | exchange | close | sleep =>
      have same := reconnectThread_kept answers nofun nofun
      obtain ⟨phase', goesOn, known'⟩ :=
        knows_after (disciplined answer) (known.congr same) allowed
      exact ⟨phase', held, goesOn, holds.congr (owner_kept answers nofun nofun), known'⟩

/-- The main thread replaces the reconnect thread only by one that starts, and only where there
is none. -/
theorem thread_answered (disciplined : Disciplined Released (.perform operation next) phase held)
    (known : PhaseHolds shared held phase)
    (answers : answered .main shared operation answer after)
    (safe : ThreadSafe shared shared.reconnectThread) :
    ThreadSafe after after.reconnectThread := by
  have kept {held : Nat} (holds : shared.Holds .reconnect held) : after.Holds .reconnect held :=
    holds.of_answered answers nofun
  by_cases resets : operation = .resetThread
  · cases resets
    have ended : shared.reconnectThread = .ended := by
      have joined := disciplined.1
      rw [joined] at known
      exact known
    rw [ended] at safe
    have same : after = _ := answers
    have none : after.reconnectThread = .none := by rw [same]
    rw [none]
    exact kept safe
  by_cases starts : operation = .startThread
  · cases starts
    have none : shared.reconnectThread = .none := by
      have cleared := disciplined.1
      rw [cleared] at known
      exact known
    rw [none] at safe
    have same : after = _ := answers
    have runs : after.reconnectThread = .running pollReconnect := by rw [same]
    rw [runs]
    exact ⟨0, decided_pollReconnect, kept safe⟩
  rw [reconnectThread_kept answers resets starts]
  cases isThread : shared.reconnectThread with
  | none =>
      rw [isThread] at safe
      exact kept safe
  | ended =>
      rw [isThread] at safe
      exact kept safe
  | running program =>
      rw [isThread] at safe
      obtain ⟨held, decided, holds⟩ := safe
      exact ⟨held, decided, kept holds⟩

/-! ### A step of the reconnect thread -/

theorem reconnect_answered (decided : Decided (.perform operation next) held)
    (holds : shared.Holds .reconnect held)
    (answers : answered .reconnect shared operation answer after) :
    ∃ held, Decided (next answer) held ∧ after.Holds .reconnect held := by
  cases operation with
  | lock => exact ⟨held + 1, decided, holds.lock answers⟩
  | unlock =>
      obtain ⟨below, isHeld, goesOn⟩ := decided
      rw [isHeld] at holds
      exact ⟨below, goesOn, holds.unlock answers⟩
  | hasThread | join | resetThread | startThread => exact decided.elim
  | socketFd | shuttingDown | setShuttingDown | invalidate | readerRead | writerWrite | connect
  | handshake | exchange | close | sleep =>
      exact ⟨held, decided.2 answer, holds.congr (owner_kept answers nofun nofun)⟩

/-- Where the main thread counts on it, the reconnect thread stays without need of the mutex. -/
theorem MainSafe.reconnect {main : MainThread} (safe : MainSafe shared main)
    (runs : shared.reconnectThread = .running program)
    (kept : ∀ {held : Nat}, shared.Holds .main held → after.Holds .main held)
    (settled : (∃ held, held ≠ 0 ∧ shared.Holds .main held) → ¬ NeedsLock program →
      ¬ after.Reconnecting) : MainSafe after main := by
  cases main with
  | idle => exact kept safe
  | running mainCall mainProgram =>
      obtain ⟨phase, held, disciplined, holds, known⟩ := safe
      refine ⟨phase, held, disciplined, kept holds, ?_⟩
      cases phase with
      | calm => trivial
      | failed =>
          intro some
          have quiet : ¬ NeedsLock program :=
            fun needsLock => known some ⟨program, runs, needsLock⟩
          exact settled ⟨held, some, holds⟩ quiet
      | joined => cases runs.symm.trans known
      | cleared => cases runs.symm.trans known

theorem Finishing.not_reconnecting (finishing : Finishing program)
    (runs : shared.reconnectThread = .running program) : ¬ shared.Reconnecting := by
  intro reconnecting
  obtain ⟨program', runs', needsLock⟩ := reconnecting
  cases runs.symm.trans runs'
  exact finishing.not_needsLock needsLock

theorem Shared.Holds.reconnect_of_main (held_main : ∃ held, held ≠ 0 ∧ shared.Holds .main held) :
    shared.Holds .reconnect 0 := by
  obtain ⟨held, some, holds⟩ := held_main
  exact .of_other (holds.2 some) nofun

/-! ### Every step -/

theorem Safe.step {before after : Threads} {label : ThreadStep} (safe : Safe before)
    (allowed : Allowed before label) (step : Step before label after) : Safe after := by
  obtain ⟨main, thread⟩ := safe
  cases step with
  | begin mainCall => exact ⟨⟨.calm, 0, disciplined_mainCall mainCall, main, trivial⟩, thread⟩
  | main answers works =>
      obtain ⟨phase, held, disciplined, holds, known⟩ := main
      exact ⟨main_answered disciplined holds known answers (fun fails => absurd fails works),
        thread_answered disciplined known answers thread⟩
  | @socketFails shared after mainCall operation next answer answers fails =>
      obtain ⟨phase, held, disciplined, holds, known⟩ := main
      have quiet : ¬ after.Reconnecting := by
        have same : after = shared := by
          cases operation with
          | readerRead | writerWrite => exact answers.2
          | _ => exact fails.elim
        rw [same]
        exact allowed rfl
      exact ⟨main_answered disciplined holds known answers (fun _ => quiet),
        thread_answered disciplined known answers thread⟩
  | mainAgain =>
      obtain ⟨phase, held, none, holds, _⟩ := main
      have released : held = 0 := none
      rw [released] at holds
      exact ⟨⟨.calm, 0, disciplined_mainCall _, holds, trivial⟩, thread⟩
  | mainFinished =>
      obtain ⟨phase, held, none, holds, _⟩ := main
      have released : held = 0 := none
      rw [released] at holds
      exact ⟨holds, thread⟩
  | reconnect runs answers =>
      rw [show _ = _ from runs] at thread
      obtain ⟨held, decided, holds⟩ := thread
      refine ⟨main.reconnect runs (fun holds => (holds.of_answered answers nofun).congr rfl) ?_,
        ?_⟩
      · intro held_main quiet
        rw [holds.eq_zero (.reconnect_of_main held_main)] at decided
        rcases decided.needsLock_or_finishing with needsLock | finishing
        · exact absurd needsLock quiet
        · exact Finishing.not_reconnecting (finishing.2 _) rfl
      · obtain ⟨held', decided', holds'⟩ := reconnect_answered decided holds answers
        exact ⟨held', decided', holds'.congr rfl⟩
  | reconnectAgain runs =>
      rw [show _ = _ from runs] at thread
      obtain ⟨held, none, holds⟩ := thread
      have released : held = 0 := none
      rw [released] at holds
      refine ⟨main.reconnect runs (fun holds => holds.congr rfl) ?_,
        ⟨0, decided_pollReconnect, holds.congr rfl⟩⟩
      exact fun _ quiet => absurd rfl quiet
  | reconnectFinished runs =>
      rw [show _ = _ from runs] at thread
      obtain ⟨held, none, holds⟩ := thread
      have released : held = 0 := none
      rw [released] at holds
      refine ⟨main.reconnect runs (fun holds => holds.congr rfl) ?_, holds.congr rfl⟩
      intro _ _ reconnecting
      obtain ⟨_, impossible, _⟩ := reconnecting
      cases impossible

theorem safe_connectedClient : Safe connectedClient :=
  ⟨.of_free rfl, .of_free rfl⟩

end

theorem Safe.not_deadlocked {threads : Threads} (safe : Safe threads) : ¬ Deadlocked threads := by
  intro deadlocked
  obtain ⟨⟨mainCall, next, joins⟩, ⟨depth, owns⟩, reconnecting⟩ := deadlocked
  have main := safe.main
  rw [joins] at main
  obtain ⟨phase, held, disciplined, holds, known⟩ := main
  have some : held ≠ 0 := fun none => holds.1 none depth owns
  have failed : phase = .failed := disciplined.1 some
  rw [failed] at known
  exact known some reconnecting

/-- As long as the socket is not found broken while the reconnect thread has yet to lock the
mutex, the two threads do not wait for each other. -/
theorem reconnect_deadlock_free {threads : Threads} (reached : system.ReachableBy Allowed threads) :
    ¬ Deadlocked threads := by
  have safe : Safe threads := by
    refine TransitionSystem.ReachableBy.invariant ?_ ?_ reached
    · intro state initial
      rw [show state = connectedClient from initial]
      exact safe_connectedClient
    · intro before label after safe allowed step
      exact safe.step allowed step
  exact safe.not_deadlocked

/-! ### A run into the deadlock -/

section

variable {main : MainThread} {mainCall : MainCall} {shared after : Shared} {operation : ThreadCall}
  {next : operation.Answer → ThreadProgram Progress}

theorem reachable_other {before after : Threads} {label : ThreadStep}
    (reached : system.ReachableBy Allowed before) (step : Step before label after)
    (other : label ≠ .socketFails) : system.ReachableBy Allowed after :=
  reached.next (fun fails => absurd fails other) step

theorem reachable_main
    (reached : system.ReachableBy Allowed ⟨.running mainCall (.perform operation next), shared⟩)
    (answer : operation.Answer) (answers : answered .main shared operation answer after)
    (allowed : SocketFails operation answer → ¬ shared.Reconnecting) :
    system.ReachableBy Allowed ⟨.running mainCall (next answer), after⟩ := by
  by_cases fails : SocketFails operation answer
  · exact reached.next (fun _ => allowed fails) (Step.socketFails answers fails)
  · exact reachable_other reached (Step.main answers fails) nofun

theorem reachable_reconnect (reached : system.ReachableBy Allowed ⟨main, shared⟩)
    (runs : shared.reconnectThread = .running (.perform operation next))
    (answer : operation.Answer) (answers : answered .reconnect shared operation answer after) :
    system.ReachableBy Allowed
      ⟨main, { after with reconnectThread := .running (next answer) }⟩ :=
  reachable_other reached (Step.reconnect runs answers) nofun

end

/-- The first read has found the socket broken, and the reconnect thread has started. -/
def brokenClient : Threads :=
  { main := .idle
    shared :=
      { owner := none
        socketFd := false
        shuttingDown := false
        reconnectThread := .running pollReconnect } }

theorem reachable_brokenClient : system.ReachableBy Allowed brokenClient := by
  have connected : system.ReachableBy Allowed connectedClient := .start rfl
  have reads := reachable_other connected (Step.begin .read) nofun
  have locked := reachable_main reads () (Or.inl ⟨rfl, rfl⟩) nofun
  have failed := reachable_main locked ReaderAnswer.failed ⟨fun _ => rfl, rfl⟩ (fun _ => nofun)
  have noThread := reachable_main failed false ⟨⟨nofun, fun some => absurd rfl some⟩, rfl⟩ nofun
  -- `closeSocket` and `isShuttingDown` lock the mutex once more
  have closing := reachable_main noThread () (Or.inr ⟨1, rfl, rfl⟩) nofun
  have isOpen := reachable_main closing true ⟨rfl, rfl⟩ nofun
  have invalidated := reachable_main isOpen () rfl nofun
  have closed := reachable_main invalidated () ⟨1, rfl, rfl⟩ nofun
  have looking := reachable_main closed () (Or.inr ⟨1, rfl, rfl⟩) nofun
  have goesOn := reachable_main looking false ⟨rfl, rfl⟩ nofun
  have looked := reachable_main goesOn () ⟨1, rfl, rfl⟩ nofun
  have started := reachable_main looked () rfl nofun
  have unlocked := reachable_main started () ⟨0, rfl, rfl⟩ nofun
  exact reachable_other unlocked Step.mainFinished nofun

/-- There the reconnect thread runs, and the main thread has joined none. -/
theorem reconnect_deadlock_free_broken : ¬ Deadlocked brokenClient :=
  reconnect_deadlock_free reachable_brokenClient

/-- The thread has recovered the connection and is about to look at the socket. -/
theorem reachable_recoveredClient :
    ∃ program, NeedsLock program ∧ system.ReachableBy Allowed
      { main := .idle
        shared :=
          { owner := none
            socketFd := true
            shuttingDown := false
            reconnectThread := .running program } } := by
  have locked := reachable_reconnect reachable_brokenClient rfl () (Or.inl ⟨rfl, rfl⟩)
  have isClosed := reachable_reconnect locked rfl false ⟨rfl, rfl⟩
  have goesOn := reachable_reconnect isClosed rfl false ⟨rfl, rfl⟩
  have connected := reachable_reconnect goesOn rfl true rfl
  have answered := reachable_reconnect connected rfl (some ConnectStatus.RETURNING_CLIENT) rfl
  have recovering := reachable_reconnect answered rfl () (Or.inr ⟨1, rfl, rfl⟩)
  have exchanged := reachable_reconnect recovering rfl true rfl
  have recovered := reachable_reconnect exchanged rfl () ⟨1, rfl, rfl⟩
  have unlocked := reachable_reconnect recovered rfl () ⟨0, rfl, rfl⟩
  refine ⟨_, ?_, unlocked⟩
  exact Or.inl rfl

/-- The socket dies right after the recovery, and the next read joins the thread. -/
theorem reconnect_deadlocks : ∃ threads, system.Reachable threads ∧ Deadlocked threads := by
  obtain ⟨program, needsLock, recovered⟩ := reachable_recoveredClient
  have reads := reachable_other recovered (Step.begin .read) nofun
  have locked := reachable_main reads () (Or.inl ⟨rfl, rfl⟩) nofun
  have failed := locked.reachable.next (Step.socketFails
    (show answered .main _ .readerRead .failed _ from ⟨fun _ => rfl, rfl⟩) rfl)
  have joins := failed.next (Step.main
    (show answered .main _ .hasThread true _ from ⟨⟨nofun, fun _ => rfl⟩, rfl⟩) nofun)
  exact ⟨_, joins, ⟨.read, _, rfl⟩, ⟨1, rfl⟩, program, rfl, needsLock⟩

end ClientThreads

end EternalTerminal
