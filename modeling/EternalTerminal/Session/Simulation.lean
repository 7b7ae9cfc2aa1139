/-
Every step of a session is matched by moves of the ledger.
-/

import EternalTerminal.Session.Writing
import EternalTerminal.Session.Recovering

namespace EternalTerminal

open Library

variable {box : SecretBox} {proto : Protobuf} {key : Key}

def LedgerRun : Ledger → Ledger → Prop :=
  Relation.ReflTransGen fun before after => ∃ label, ledgerSystem.step before label after

theorem PartyMoves.ledgerRun {ledger : Ledger} {side : Side} {after : Party}
    (moves : PartyMoves (ledger side.other) (ledger side) after) :
    LedgerRun ledger (Function.update ledger side after) := by
  induction moves with
  | refl =>
      rw [Function.update_eq_self]
      exact .refl
  | @tail _ final _ last ih =>
      obtain ⟨move, moves⟩ := last
      refine ih.tail ⟨(side, move), final, ?_, ?_⟩
      · simp only [Function.update_self, Function.update_of_ne side.other_ne]
        exact moves
      · exact (Function.update_idem _ _ _).symm

theorem LedgerRun.reachable {before after : Ledger}
    (run : LedgerRun before after) (reached : ledgerSystem.Reachable before) :
    ledgerSystem.Reachable after := by
  induction run with
  | refl => exact reached
  | tail _ last ih =>
      obtain ⟨label, step⟩ := last
      exact ih.next step

namespace Session

variable {session after : Session} {ledger : Ledger} {side : Side}

theorem Refines.facing (refines : session.Refines box proto key ledger)
    (consistent : Ledger.Consistent ledger) (side : Side) :
    Facing box proto key side (session.endpoint side)
      (session.endpoint side.other).accepted (ledger side) (ledger side.other)
      (session.outgoing side) (session.outgoing side.other)
      (fun socket => session.used socket side) := by
  have own := refines side
  have peer := refines side.other
  have peerConsistent := consistent side.other
  rw [Side.other_other] at peerConsistent
  exact
    { own with
      consistent := consistent side
      peerConsistent := peerConsistent
      peerLength := peer.accepted
      peerShort := peer.short
      peerPlain := peer.plain
      peerSent := peer.sent
      peerFits := peer.fits }

/-- A step of one end that its party follows is a run of the ledger. -/
theorem Refines.step {endpoint : Endpoint} (own : Party)
    (refines : session.Refines box proto key ledger)
    (consistent : Ledger.Consistent ledger)
    (moved : Moved box proto key side (session.endpoint side) endpoint
      (session.endpoint side.other).accepted (ledger side) own (ledger side.other)
      (session.outgoing side) (session.outgoing side.other) (after.outgoing side)
      (after.outgoing side.other) (fun socket => after.used socket side))
    (endpoints : after.endpoint = Function.update session.endpoint side endpoint)
    (used : ∀ socket, after.used socket side.other = session.used socket side.other) :
    ∃ ledgerAfter, LedgerRun ledger ledgerAfter ∧
      after.Refines box proto key ledgerAfter := by
  refine ⟨_, moved.moves.ledgerRun, ?_⟩
  obtain ⟨more, accepted⟩ := moved.accepted
  have peer := refines.facing consistent side.other
  rw [Side.other_other] at peer
  intro which
  rcases which.eq_or_eq_other side with rfl | rfl
  · rw [endpoints, Function.update_self, Function.update_self,
      Function.update_of_ne which.other_ne, Function.update_of_ne which.other_ne]
    exact moved.refines
  · have followed := peer.peer_moves more peer.consistent peer.peerConsistent
      peer.peerLength peer.peerSent moved.grows moved.streams
    rw [endpoints, Side.other_other, Function.update_self, Function.update_self,
      Function.update_of_ne side.other_ne, Function.update_of_ne side.other_ne, accepted]
    simp only [used]
    exact followed

/-- The streams a side writes and those it reads, on one socket's update. -/
theorem outgoing_update (socket : Fd) (change : Stream → Stream)
    (wires : Wires) (endpoint : Side → Endpoint) (used : Fd → Side → Bool) :
    ({ endpoint := endpoint
       wires := wires.update socket side change
       used := used } : Session).outgoing side =
      Function.update (fun other => wires other side) socket
        (change (wires socket side)) :=
  Wires.update_column _ _ _ _

theorem outgoing_update_ne (socket : Fd) (change : Stream → Stream) {other : Side}
    (ne : other ≠ side) (wires : Wires) (endpoint : Side → Endpoint)
    (used : Fd → Side → Bool) :
    ({ endpoint := endpoint
       wires := wires.update socket side change
       used := used } : Session).outgoing other =
      fun socket => wires socket other :=
  Wires.update_other_column _ _ _ _ ne

theorem Refines.lose (refines : session.Refines box proto key ledger)
    (consistent : Ledger.Consistent ledger) (socket : Fd) (limit : Nat) :
    ({ session with
        wires := session.wires.update socket side (·.lose limit) } : Session).Refines
      box proto key ledger := by
  have unchanged : ∀ which other,
      (({ session with
          wires := session.wires.update socket side (·.lose limit) } : Session).outgoing
        which other).sent = (session.outgoing which other).sent ∧
      (({ session with
          wires := session.wires.update socket side (·.lose limit) } : Session).outgoing
        which other).taken = (session.outgoing which other).taken := by
    intro which other
    simp only [outgoing, Wires.update]
    split <;> exact ⟨rfl, rfl⟩
  intro which
  have facing := refines.facing consistent which
  have followed := facing.peer_moves [] facing.consistent facing.peerConsistent
    facing.peerLength facing.peerSent (Party.grows_of_script_eq (le_refl _) rfl)
    (StreamsMove.mk (fun other => (unchanged which other).1)
      (fun other => (unchanged which.other other).2)
      (fun other => by rw [(unchanged which.other other).1]))
  rw [List.append_nil] at followed
  exact followed

theorem Step.refines {event : SessionEvent}
    (step : Session.Step box proto session side event after)
    (allowed : session.withinLimits (side, event))
    (refines : session.Refines box proto key ledger)
    (consistent : Ledger.Consistent ledger) :
    ∃ ledgerAfter, LedgerRun ledger ledgerAfter ∧
      after.Refines box proto key ledgerAfter := by
  have facing := refines.facing consistent side
  cases step with
  | write idle run =>
      obtain ⟨own, moved⟩ :=
        facing.write idle (Connection.write_run run) allowed.1 allowed.2
      exact refines.step own consistent moved rfl (fun _ => rfl)
  | read idle run =>
      obtain ⟨packet, connection, same, own, moved⟩ := facing.read idle run
      cases same
      exact refines.step own consistent moved rfl (fun _ => rfl)
  | closeSocket idle run =>
      obtain ⟨rfl, same⟩ := Connection.closeSocket_run run
      cases same
      obtain ⟨own, moved⟩ := facing.closeSocket idle
      exact refines.step own consistent moved rfl (fun _ => rfl)
  | @recover socket idle noSocket unused =>
      obtain ⟨own, moved⟩ := facing.recover idle noSocket unused
      have marked : (fun other => session.used other side || decide (other = socket)) =
          fun other => session.used other side ||
            (decide (other = socket) && decide (side = side)) := by simp
      rw [marked] at moved
      exact refines.step own consistent moved rfl (fun other => by simp [side.other_ne])
  | send recovering positive bound =>
      obtain ⟨own, moved⟩ := facing.send recovering positive bound
      refine refines.step own consistent ?_ rfl (fun _ => rfl)
      rw [outgoing_update, outgoing_update_ne _ _ side.other_ne]
      exact moved
  | receive recovering positive bound arrived =>
      obtain ⟨own, moved⟩ := facing.receive recovering positive bound arrived
      refine refines.step own consistent ?_ rfl (fun _ => rfl)
      rw [outgoing_update, outgoing_update_ne _ _ side.other_ne.symm]
      exact moved
  | fail recovering =>
      obtain ⟨own, moved⟩ := facing.fail recovering _
      exact refines.step own consistent moved rfl (fun _ => rfl)
  | close recovering =>
      obtain ⟨own, moved⟩ := facing.close recovering
      exact refines.step own consistent moved rfl (fun _ => rfl)
  | finish recovering done =>
      obtain ⟨own, moved⟩ := facing.finish recovering done
      exact refines.step own consistent moved rfl (fun _ => rfl)
  | lose => exact ⟨ledger, .refl, refines.lose consistent _ _⟩

theorem initial_refines :
    (Session.initial key).Refines box proto key (fun _ => Party.initial) := by
  intro side
  constructor
  · rfl
  · exact Nat.two_pow_pos 31
  · intro packet member
    cases member
  · rfl
  · exact ⟨[], BackedWriter.create_backs _ _⟩
  · rfl
  · rfl
  · rfl
  · rfl
  · intro socket
    exact List.nil_prefix
  · intro socket
    exact le_refl _
  · intro socket unused
    have notFirst : socket ≠ 0 := by
      simpa [Session.initial] using unused
    exact ⟨by simp [Party.initial, notFirst], rfl⟩
  · intro socket counted base upto packets shape
    by_cases first : socket = 0 <;> simp [Party.initial, first] at shape
  · refine .attached rfl ⟨rfl, rfl, rfl⟩ rfl rfl ?_
    intro first rest impossible
    cases impossible

theorem reachable_refines
    (reached : (sessionSystem box proto key).ReachableBy Session.withinLimits session) :
    ∃ ledger, ledgerSystem.Reachable ledger ∧ session.Refines box proto key ledger := by
  induction reached with
  | start initial =>
      rw [show _ = Session.initial key from initial]
      exact ⟨_, .start rfl, initial_refines⟩
  | next _ allowed step ih =>
      obtain ⟨ledger, reachable, refines⟩ := ih
      obtain ⟨ledgerAfter, run, refinesAfter⟩ :=
        Step.refines step allowed refines (Ledger.reachable_consistent reachable)
      exact ⟨ledgerAfter, run.reachable reachable, refinesAfter⟩

end Session

end EternalTerminal
