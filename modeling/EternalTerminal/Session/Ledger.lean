/-
What the recovery protocol is for: two logs shipped over sockets that may be
lost at any byte.

A party numbers the packets it accepts.  On each socket it posts, in order, a
header with the number of the peer's packets it has counted, a catch-up of its
own packets from the number in the peer's header on, and every later packet as
it is accepted.  The ledger keeps numbers only.  A party that takes what is
posted in order, and counts a catch-up only when it has taken all of it, counts
every packet once.
-/

import Mathlib.Logic.Function.Basic
import Mathlib.Order.Nat
import EternalTerminal.Library.TransitionSystem

namespace EternalTerminal

open Library

inductive Side where
  | client
  | server
  deriving DecidableEq

def Side.other : Side → Side
  | .client => .server
  | .server => .client

@[simp] theorem Side.other_other (side : Side) : side.other.other = side := by
  cases side <;> rfl

@[simp] theorem Side.other_ne (side : Side) : side.other ≠ side := by
  cases side <;> decide

theorem Side.eq_or_eq_other (side reference : Side) :
    side = reference ∨ side = reference.other := by
  cases side <;> cases reference <;> simp [Side.other]

/-- What a party has posted on one socket.  The socket of the first connection
carries packets from the beginning. -/
inductive Script where
  | silent
  | initial (packets : Nat)
  | hello (counted : Nat)
  | exchange (counted base upto packets : Nat)

namespace Script

def announced : Script → Option Nat
  | silent => none
  | initial _ => none
  | hello counted => some counted
  | exchange counted _ _ _ => some counted

/-- The packets posted one by one: from the first number up to the last. -/
def posted : Script → Option (Nat × Nat)
  | silent => none
  | initial packets => some (0, packets)
  | hello _ => none
  | exchange _ _ upto packets => some (upto, upto + packets)

def post : Script → Script
  | silent => silent
  | initial packets => initial (packets + 1)
  | hello counted => hello counted
  | exchange counted base upto packets => exchange counted base upto (packets + 1)

@[simp] theorem announced_post (script : Script) :
    script.post.announced = script.announced := by
  cases script <;> rfl

theorem posted_post {script : Script} {first last : Nat}
    (posted : script.posted = some (first, last)) :
    script.post.posted = some (first, last + 1) := by
  cases script with
  | silent => cases posted
  | initial packets =>
      cases posted
      rfl
  | hello counted => cases posted
  | exchange counted base upto packets =>
      cases posted
      rfl

theorem post_exchange {script : Script} {counted base upto packets : Nat}
    (shape : script.post = exchange counted base upto packets) :
    ∃ fewer, script = exchange counted base upto fewer := by
  cases script with
  | silent => cases shape
  | initial fewer => cases shape
  | hello other => cases shape
  | exchange other first last fewer =>
      cases shape
      exact ⟨fewer, rfl⟩

theorem post_initial {script : Script} {packets : Nat}
    (shape : script.post = initial packets) : ∃ fewer, script = initial fewer := by
  cases script with
  | silent => cases shape
  | initial fewer => exact ⟨fewer, rfl⟩
  | hello other => cases shape
  | exchange other first last fewer => cases shape

/-- One move of the script of a socket.  A party never takes back what it has
posted. -/
inductive Leads : Script → Script → Prop
  | refl (script : Script) : Leads script script
  | post (script : Script) : Leads script script.post
  | announce (counted : Nat) : Leads silent (hello counted)
  | catchUp (counted base upto : Nat) :
      Leads (hello counted) (exchange counted base upto 0)

theorem Leads.announced {before after : Script} (leads : Leads before after)
    {counted : Nat} (announced : before.announced = some counted) :
    after.announced = some counted := by
  cases leads with
  | refl => exact announced
  | post => rw [announced_post]; exact announced
  | announce counted => cases announced
  | catchUp counted base upto => exact announced

theorem Leads.posted {before after : Script} (leads : Leads before after)
    {first last : Nat} (posted : before.posted = some (first, last)) :
    ∃ later, after.posted = some (first, later) ∧ last ≤ later := by
  cases leads with
  | refl => exact ⟨last, posted, le_refl last⟩
  | post => exact ⟨last + 1, posted_post posted, Nat.le_succ last⟩
  | announce counted => cases posted
  | catchUp counted base upto => cases posted

theorem Leads.initial {before after : Script} (leads : Leads before after)
    {packets : Nat} (shape : before = .initial packets) :
    ∃ more, after = .initial more := by
  subst shape
  cases leads with
  | refl => exact ⟨packets, rfl⟩
  | post => exact ⟨packets + 1, rfl⟩

theorem Leads.exchange {before after : Script} (leads : Leads before after)
    {counted base upto packets : Nat} (shape : before = .exchange counted base upto packets) :
    ∃ more, after = .exchange counted base upto more := by
  subst shape
  cases leads with
  | refl => exact ⟨packets, rfl⟩
  | post => exact ⟨packets + 1, rfl⟩

end Script

inductive Doing where
  | detached
  | attached (socket : Nat)
  | awaitingHeader (socket : Nat)
  | awaitingCatchup (socket : Nat)

structure Party where
  accepted : Nat
  counted : Nat
  returned : Nat
  doing : Doing
  script : Nat → Script

inductive LedgerMove where
  | accept
  | returnCounted
  | receive
  | detach
  | announce (socket : Nat)
  | takeHeader (counted : Nat)
  | takeCatchup
  | giveUp

namespace Party

def initial : Party :=
  { accepted := 0
    counted := 0
    returned := 0
    doing := .attached 0
    script := fun socket => if socket = 0 then .initial 0 else .silent }

/-- The moves of one party.  It reads what the other has posted and changes only
its own entry. -/
inductive Moves (own peer : Party) : LedgerMove → Party → Prop
  | acceptDetached :
      own.doing = .detached →
      Moves own peer .accept { own with accepted := own.accepted + 1 }
  | acceptAttached {socket : Nat} :
      own.doing = .attached socket →
      Moves own peer .accept
        { own with
          accepted := own.accepted + 1
          script := Function.update own.script socket (own.script socket).post }
  | returnCounted :
      own.returned < own.counted →
      Moves own peer .returnCounted { own with returned := own.returned + 1 }
  | receive {socket first last : Nat} :
      own.doing = .attached socket →
      (peer.script socket).posted = some (first, last) →
      own.counted < last →
      own.returned = own.counted →
      Moves own peer .receive
        { own with
          counted := own.counted + 1
          returned := own.returned + 1 }
  | detach {socket : Nat} :
      own.doing = .attached socket →
      Moves own peer .detach { own with doing := .detached }
  | announce {socket : Nat} :
      own.doing = .detached →
      own.script socket = .silent →
      Moves own peer (.announce socket)
        { own with
          doing := .awaitingHeader socket
          script := Function.update own.script socket (.hello own.counted) }
  | takeHeader {socket counted : Nat} :
      own.doing = .awaitingHeader socket →
      (peer.script socket).announced = some counted →
      counted ≤ own.accepted →
      Moves own peer (.takeHeader counted)
        { own with
          doing := .awaitingCatchup socket
          script := Function.update own.script socket
            (.exchange own.counted counted own.accepted 0) }
  | takeCatchup {socket counted base upto packets : Nat} :
      own.doing = .awaitingCatchup socket →
      peer.script socket = .exchange counted base upto packets →
      Moves own peer .takeCatchup
        { own with
          counted := own.counted + (upto - base)
          doing := .attached socket }
  | giveUpHeader {socket : Nat} :
      own.doing = .awaitingHeader socket →
      Moves own peer .giveUp { own with doing := .detached }
  | giveUpCatchup {socket : Nat} :
      own.doing = .awaitingCatchup socket →
      Moves own peer .giveUp { own with doing := .detached }

end Party

abbrev Ledger := Side → Party

def ledgerSystem : TransitionSystem Ledger (Side × LedgerMove) where
  initial ledger := ledger = fun _ => Party.initial
  step before label after :=
    ∃ party, Party.Moves (before label.1) (before label.1.other) label.2 party ∧
      after = Function.update before label.1 party

namespace Party

structure Consistent (own peer : Party) : Prop where
  returned_le : own.returned ≤ own.counted
  counted_le : own.counted ≤ peer.accepted
  announced_le : ∀ socket counted, (own.script socket).announced = some counted →
    counted ≤ own.counted
  exchanged : ∀ socket counted base upto packets,
    own.script socket = .exchange counted base upto packets →
      (peer.script socket).announced = some base ∧ base ≤ upto
  initials : ∀ socket packets, own.script socket = .initial packets →
    ∃ others, peer.script socket = .initial others
  posted_le : ∀ socket first last, (own.script socket).posted = some (first, last) →
    first ≤ last ∧ last ≤ own.accepted
  attached_posts : ∀ socket, own.doing = .attached socket →
    ∃ first, (own.script socket).posted = some (first, own.accepted)
  attached_reads : ∀ socket, own.doing = .attached socket →
    ∃ first last, (peer.script socket).posted = some (first, last) ∧
      first ≤ own.counted ∧ own.counted ≤ last
  awaitingHeader : ∀ socket, own.doing = .awaitingHeader socket →
    own.script socket = .hello own.counted
  awaitingCatchup : ∀ socket, own.doing = .awaitingCatchup socket →
    ∃ base, own.script socket = .exchange own.counted base own.accepted 0

structure Grows (before after : Party) : Prop where
  accepted : before.accepted ≤ after.accepted
  script : ∀ socket, (before.script socket).Leads (after.script socket)

theorem Consistent.peer_grows {own before after : Party}
    (consistent : own.Consistent before) (grows : before.Grows after) :
    own.Consistent after := by
  refine { consistent with
    counted_le := consistent.counted_le.trans grows.accepted
    exchanged := ?_
    initials := ?_
    attached_reads := ?_ }
  · intro socket counted base upto packets shape
    have exchanged := consistent.exchanged socket counted base upto packets shape
    exact ⟨(grows.script socket).announced exchanged.1, exchanged.2⟩
  · intro socket packets shape
    obtain ⟨others, peerShape⟩ := consistent.initials socket packets shape
    exact (grows.script socket).initial peerShape
  · intro socket attached
    obtain ⟨first, last, posted, low, high⟩ := consistent.attached_reads socket attached
    obtain ⟨later, postedLater, further⟩ := (grows.script socket).posted posted
    exact ⟨first, later, postedLater, low, high.trans further⟩

theorem grows_of_script_eq {before after : Party}
    (accepted : before.accepted ≤ after.accepted)
    (script : after.script = before.script) : before.Grows after := by
  refine ⟨accepted, ?_⟩
  intro socket
  rw [script]
  exact .refl _

theorem grows_of_update {own after : Party} {socket : Nat} {script : Script}
    (accepted : own.accepted ≤ after.accepted)
    (scripts : after.script = Function.update own.script socket script)
    (leads : (own.script socket).Leads script) : own.Grows after := by
  refine ⟨accepted, ?_⟩
  intro other
  rw [scripts]
  by_cases same : other = socket
  · subst same
    rw [Function.update_self]
    exact leads
  · rw [Function.update_of_ne same]
    exact .refl _

variable {own peer after : Party} {move : LedgerMove}

theorem Moves.grows (consistent : own.Consistent peer)
    (moves : own.Moves peer move after) : own.Grows after := by
  cases moves with
  | acceptDetached _ => exact grows_of_script_eq (Nat.le_succ _) rfl
  | acceptAttached _ => exact grows_of_update (Nat.le_succ _) rfl (.post _)
  | returnCounted _ => exact grows_of_script_eq (le_refl _) rfl
  | receive _ _ _ _ => exact grows_of_script_eq (le_refl _) rfl
  | detach _ => exact grows_of_script_eq (le_refl _) rfl
  | announce _ silent =>
      refine grows_of_update (le_refl _) rfl ?_
      rw [silent]
      exact .announce _
  | takeHeader waiting _ _ =>
      refine grows_of_update (le_refl _) rfl ?_
      rw [consistent.awaitingHeader _ waiting]
      exact .catchUp _ _ _
  | takeCatchup _ _ => exact grows_of_script_eq (le_refl _) rfl
  | giveUpHeader _ => exact grows_of_script_eq (le_refl _) rfl
  | giveUpCatchup _ => exact grows_of_script_eq (le_refl _) rfl

/-! ### A move keeps the mover's invariant -/

theorem Consistent.detached (consistent : own.Consistent peer) :
    ({ own with doing := .detached } : Party).Consistent peer :=
  { consistent with
    attached_posts := fun _ impossible => by cases impossible
    attached_reads := fun _ impossible => by cases impossible
    awaitingHeader := fun _ impossible => by cases impossible
    awaitingCatchup := fun _ impossible => by cases impossible }

theorem Consistent.acceptDetached (consistent : own.Consistent peer)
    (detached : own.doing = .detached) :
    ({ own with accepted := own.accepted + 1 } : Party).Consistent peer :=
  { consistent with
    posted_le := fun socket first last posted =>
      ⟨(consistent.posted_le socket first last posted).1,
        (consistent.posted_le socket first last posted).2.trans (Nat.le_succ _)⟩
    attached_posts := fun _ attached => by
      rw [show own.doing = .attached _ from attached] at detached
      cases detached
    awaitingCatchup := fun _ awaiting => by
      rw [show own.doing = .awaitingCatchup _ from awaiting] at detached
      cases detached }

theorem Consistent.acceptAttached {socket : Nat} (consistent : own.Consistent peer)
    (attached : own.doing = .attached socket) :
    ({ own with
        accepted := own.accepted + 1
        script := Function.update own.script socket (own.script socket).post } :
      Party).Consistent peer := by
  obtain ⟨start, posting⟩ := consistent.attached_posts socket attached
  refine { consistent with
    announced_le := ?_,
    exchanged := ?_,
    initials := ?_,
    posted_le := ?_,
    attached_posts := ?_,
    awaitingHeader := ?_,
    awaitingCatchup := ?_ }
  · intro other counted announced
    apply consistent.announced_le other counted
    simp only at announced
    by_cases same : other = socket
    · subst same
      rwa [Function.update_self, Script.announced_post] at announced
    · rwa [Function.update_of_ne same] at announced
  · intro other counted base upto packets shape
    simp only at shape
    by_cases same : other = socket
    · subst same
      rw [Function.update_self] at shape
      obtain ⟨fewer, was⟩ := Script.post_exchange shape
      exact consistent.exchanged other counted base upto fewer was
    · rw [Function.update_of_ne same] at shape
      exact consistent.exchanged other counted base upto packets shape
  · intro other packets shape
    simp only at shape
    by_cases same : other = socket
    · subst same
      rw [Function.update_self] at shape
      obtain ⟨fewer, was⟩ := Script.post_initial shape
      exact consistent.initials other fewer was
    · rw [Function.update_of_ne same] at shape
      exact consistent.initials other packets shape
  · intro other first last posted
    simp only at posted
    by_cases same : other = socket
    · subst same
      rw [Function.update_self, Script.posted_post posting] at posted
      cases posted
      have bound := consistent.posted_le other start own.accepted posting
      exact ⟨by omega, le_refl _⟩
    · rw [Function.update_of_ne same] at posted
      have bound := consistent.posted_le other first last posted
      exact ⟨bound.1, bound.2.trans (Nat.le_succ _)⟩
  · intro other attachedOther
    have sameSocket : socket = other := by
      rw [show own.doing = .attached other from attachedOther] at attached
      injection attached with equal
      exact equal.symm
    subst sameSocket
    refine ⟨start, ?_⟩
    simp only [Function.update_self]
    exact Script.posted_post posting
  · intro other awaiting
    rw [show own.doing = .awaitingHeader other from awaiting] at attached
    cases attached
  · intro other awaiting
    rw [show own.doing = .awaitingCatchup other from awaiting] at attached
    cases attached

theorem Consistent.announce {socket : Nat} (consistent : own.Consistent peer)
    (silent : own.script socket = .silent) :
    ({ own with
        doing := .awaitingHeader socket
        script := Function.update own.script socket (.hello own.counted) } :
      Party).Consistent peer := by
  refine { consistent with
    announced_le := ?_,
    exchanged := ?_,
    initials := ?_,
    posted_le := ?_,
    attached_posts := ?_,
    attached_reads := ?_,
    awaitingHeader := ?_,
    awaitingCatchup := ?_ }
  · intro other counted announced
    simp only at announced
    by_cases same : other = socket
    · subst same
      rw [Function.update_self] at announced
      cases announced
      exact le_refl _
    · rw [Function.update_of_ne same] at announced
      exact consistent.announced_le other counted announced
  · intro other counted base upto packets shape
    simp only at shape
    by_cases same : other = socket
    · subst same
      rw [Function.update_self] at shape
      cases shape
    · rw [Function.update_of_ne same] at shape
      exact consistent.exchanged other counted base upto packets shape
  · intro other packets shape
    simp only at shape
    by_cases same : other = socket
    · subst same
      rw [Function.update_self] at shape
      cases shape
    · rw [Function.update_of_ne same] at shape
      exact consistent.initials other packets shape
  · intro other first last posted
    simp only at posted
    by_cases same : other = socket
    · subst same
      rw [Function.update_self] at posted
      cases posted
    · rw [Function.update_of_ne same] at posted
      exact consistent.posted_le other first last posted
  · intro other impossible
    cases impossible
  · intro other impossible
    cases impossible
  · intro other awaiting
    cases awaiting
    exact Function.update_self _ _ _
  · intro other impossible
    cases impossible

theorem Consistent.takeHeader {socket base : Nat} (consistent : own.Consistent peer)
    (awaiting : own.doing = .awaitingHeader socket)
    (announced : (peer.script socket).announced = some base)
    (behind : base ≤ own.accepted) :
    ({ own with
        doing := .awaitingCatchup socket
        script := Function.update own.script socket
          (.exchange own.counted base own.accepted 0) } : Party).Consistent peer := by
  refine { consistent with
    announced_le := ?_,
    exchanged := ?_,
    initials := ?_,
    posted_le := ?_,
    attached_posts := ?_,
    attached_reads := ?_,
    awaitingHeader := ?_,
    awaitingCatchup := ?_ }
  · intro other counted posted
    simp only at posted
    by_cases same : other = socket
    · subst same
      rw [Function.update_self] at posted
      cases posted
      exact le_refl _
    · rw [Function.update_of_ne same] at posted
      exact consistent.announced_le other counted posted
  · intro other counted start upto packets shape
    simp only at shape
    by_cases same : other = socket
    · subst same
      rw [Function.update_self] at shape
      cases shape
      exact ⟨announced, behind⟩
    · rw [Function.update_of_ne same] at shape
      exact consistent.exchanged other counted start upto packets shape
  · intro other packets shape
    simp only at shape
    by_cases same : other = socket
    · subst same
      rw [Function.update_self] at shape
      cases shape
    · rw [Function.update_of_ne same] at shape
      exact consistent.initials other packets shape
  · intro other first last posted
    simp only at posted
    by_cases same : other = socket
    · subst same
      rw [Function.update_self] at posted
      cases posted
      exact ⟨by omega, by simp⟩
    · rw [Function.update_of_ne same] at posted
      exact consistent.posted_le other first last posted
  · intro other impossible
    cases impossible
  · intro other impossible
    cases impossible
  · intro other impossible
    cases impossible
  · intro other waiting
    cases waiting
    exact ⟨base, Function.update_self _ _ _⟩

/-- The catch-up starts at the number announced, so all of it is new. -/
theorem Consistent.catchup_base {socket counted base upto packets : Nat}
    (consistent : own.Consistent peer) (peerConsistent : peer.Consistent own)
    (awaiting : own.doing = .awaitingCatchup socket)
    (shape : peer.script socket = .exchange counted base upto packets) :
    base = own.counted ∧ base ≤ upto ∧ upto + packets ≤ peer.accepted := by
  obtain ⟨ownBase, ownShape⟩ := consistent.awaitingCatchup socket awaiting
  have exchanged := peerConsistent.exchanged socket counted base upto packets shape
  have posted := peerConsistent.posted_le socket upto (upto + packets) (by rw [shape]; rfl)
  rw [ownShape] at exchanged
  exact ⟨(Option.some.inj exchanged.1).symm, exchanged.2, posted.2⟩

theorem Consistent.takeCatchup {socket counted base upto packets : Nat}
    (consistent : own.Consistent peer) (peerConsistent : peer.Consistent own)
    (awaiting : own.doing = .awaitingCatchup socket)
    (shape : peer.script socket = .exchange counted base upto packets) :
    ({ own with
        counted := own.counted + (upto - base)
        doing := .attached socket } : Party).Consistent peer := by
  obtain ⟨sameBase, ordered, bounded⟩ :=
    consistent.catchup_base peerConsistent awaiting shape
  obtain ⟨ownBase, ownShape⟩ := consistent.awaitingCatchup socket awaiting
  refine { consistent with
    returned_le := ?_,
    counted_le := ?_,
    announced_le := ?_,
    attached_posts := ?_,
    attached_reads := ?_,
    awaitingHeader := ?_,
    awaitingCatchup := ?_ }
  · exact consistent.returned_le.trans (Nat.le_add_right _ _)
  · simp only
    omega
  · intro other announced posted
    exact (consistent.announced_le other announced posted).trans (Nat.le_add_right _ _)
  · intro other attached
    cases attached
    exact ⟨own.accepted, by rw [ownShape]; rfl⟩
  · intro other attached
    cases attached
    refine ⟨upto, upto + packets, by rw [shape]; rfl, ?_, ?_⟩
    · simp only
      omega
    · simp only
      omega
  · intro other impossible
    cases impossible
  · intro other impossible
    cases impossible

theorem Consistent.receive {socket first last : Nat} (consistent : own.Consistent peer)
    (peerConsistent : peer.Consistent own)
    (attached : own.doing = .attached socket)
    (posted : (peer.script socket).posted = some (first, last))
    (more : own.counted < last) (drained : own.returned = own.counted) :
    ({ own with
        counted := own.counted + 1
        returned := own.returned + 1 } : Party).Consistent peer := by
  have bounded := peerConsistent.posted_le socket first last posted
  refine { consistent with
    returned_le := ?_,
    counted_le := ?_,
    announced_le := ?_,
    attached_reads := ?_,
    awaitingHeader := ?_,
    awaitingCatchup := ?_ }
  · simp only
    omega
  · simp only
    omega
  · intro other announced was
    exact (consistent.announced_le other announced was).trans (Nat.le_succ _)
  · intro other attachedOther
    obtain ⟨start, stop, reading, low, high⟩ := consistent.attached_reads other attachedOther
    have sameSocket : socket = other := by
      rw [show own.doing = .attached other from attachedOther] at attached
      injection attached with equal
      exact equal.symm
    subst sameSocket
    rw [posted] at reading
    cases reading
    refine ⟨first, last, posted, ?_, more⟩
    simp only
    omega
  · intro other awaiting
    rw [show own.doing = .awaitingHeader other from awaiting] at attached
    cases attached
  · intro other awaiting
    rw [show own.doing = .awaitingCatchup other from awaiting] at attached
    cases attached

theorem Moves.consistent (consistent : own.Consistent peer)
    (peerConsistent : peer.Consistent own) (moves : own.Moves peer move after) :
    after.Consistent peer := by
  cases moves with
  | acceptDetached detached => exact consistent.acceptDetached detached
  | acceptAttached attached => exact consistent.acceptAttached attached
  | returnCounted more => exact { consistent with returned_le := more }
  | receive attached posted more drained =>
      exact consistent.receive peerConsistent attached posted more drained
  | detach _ => exact consistent.detached
  | announce _ silent => exact consistent.announce silent
  | takeHeader awaiting announced behind =>
      exact consistent.takeHeader awaiting announced behind
  | takeCatchup awaiting shape =>
      exact consistent.takeCatchup peerConsistent awaiting shape
  | giveUpHeader _ => exact consistent.detached
  | giveUpCatchup _ => exact consistent.detached

theorem initial_consistent : initial.Consistent initial where
  returned_le := le_refl _
  counted_le := le_refl _
  announced_le := by
    intro socket counted announced
    by_cases first : socket = 0 <;> simp [initial, first, Script.announced] at announced
  exchanged := by
    intro socket counted base upto packets shape
    by_cases first : socket = 0 <;> simp [initial, first] at shape
  initials := by
    intro socket packets shape
    exact ⟨packets, shape⟩
  posted_le := by
    intro socket first last posted
    by_cases zero : socket = 0
    · simp [initial, zero, Script.posted] at posted
      omega
    · simp [initial, zero, Script.posted] at posted
  attached_posts := by
    intro socket attached
    cases attached
    exact ⟨0, rfl⟩
  attached_reads := by
    intro socket attached
    cases attached
    exact ⟨0, 0, rfl, le_refl _, le_refl _⟩
  awaitingHeader := fun _ impossible => by cases impossible
  awaitingCatchup := fun _ impossible => by cases impossible

end Party

namespace Ledger

def Consistent (ledger : Ledger) : Prop :=
  ∀ side, (ledger side).Consistent (ledger side.other)

theorem step_consistent {before after : Ledger} {label : Side × LedgerMove}
    (consistent : Consistent before) (step : ledgerSystem.step before label after) :
    Consistent after := by
  obtain ⟨mover, move⟩ := label
  obtain ⟨party, moves, rfl⟩ := step
  have own := consistent mover
  have peer := consistent mover.other
  rw [Side.other_other] at peer
  intro side
  rcases side.eq_or_eq_other mover with rfl | rfl
  · rw [Function.update_self, Function.update_of_ne side.other_ne]
    exact moves.consistent own peer
  · rw [Side.other_other, Function.update_self, Function.update_of_ne mover.other_ne]
    exact peer.peer_grows (moves.grows own)

theorem reachable_consistent {ledger : Ledger} (reached : ledgerSystem.Reachable ledger) :
    Consistent ledger := by
  refine TransitionSystem.Reachable.invariant ?_ ?_ reached
  · rintro _ rfl side
    exact Party.initial_consistent
  · intro before label after consistent step
    exact step_consistent consistent step

theorem settled {ledger : Ledger} (consistent : Consistent ledger) {side : Side}
    {socket first last : Nat} (peerAttached : (ledger side.other).doing = .attached socket)
    (posted : ((ledger side.other).script socket).posted = some (first, last))
    (all : (ledger side).counted = last) :
    (ledger side).counted = (ledger side.other).accepted := by
  obtain ⟨start, posting⟩ := (consistent side.other).attached_posts socket peerAttached
  rw [posted] at posting
  cases posting
  exact all

end Ledger

end EternalTerminal
