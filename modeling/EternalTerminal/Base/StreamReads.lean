/-
Programs that only read with `readAll`, against the bytes that have arrived.

`readAll` waits until it has all its bytes, so a program that needs more than has arrived has
not ended.
-/

import EternalTerminal.Base.SocketHandler

namespace EternalTerminal

open Library

/-- How far a program comes.  `waits` is a `readAll` whose bytes have not all arrived. -/
inductive Received (α : Type) where
  | waits
  | returned (value : α) (rest : Bytes)
  | raised (exn : Exn)
  | aborted (message : String)

variable {α β : Type}

def Received.andThen (next : α → Bytes → Received β) : Received α → Received β
  | .waits => .waits
  | .returned value rest => next value rest
  | .raised exn => .raised exn
  | .aborted message => .aborted message

/-- Run a program on `incoming`. -/
def readFrom : Action α → Bytes → Received α
  | .done value, incoming => .returned value incoming
  | .raise exn, _ => .raised exn
  | .abort message, _ => .aborted message
  | .perform (.readAll _ count) next, incoming =>
      if count ≤ incoming.length then
        readFrom (next (.ok (incoming.take count))) (incoming.drop count)
      else .waits
  | .perform _ _, _ => .waits

section

variable {program : Action α} {incoming rest : Bytes} {value : α}

theorem readFrom_bind (program : Action α) (next : α → Action β) (incoming : Bytes) :
    readFrom (program >>= next) incoming =
      (readFrom program incoming).andThen fun value rest => readFrom (next value) rest := by
  induction program generalizing incoming with
  | done value => rfl
  | raise exn => rfl
  | abort message => rfl
  | perform operation after ih =>
      cases operation with
      | readAll fd count =>
          rw [Program.perform_bind, readFrom, readFrom]
          split
          · exact ih _ _
          · rfl
      | writeAll fd buffer => rfl
      | read fd count => rfl
      | close fd => rfl

theorem readFrom_readAll (fd : Fd) (count : Nat) (incoming : Bytes) :
    readFrom (SocketHandler.readAll fd count) incoming =
      if count ≤ incoming.length then .returned (incoming.take count) (incoming.drop count)
      else .waits := by
  rw [SocketHandler.readAll, readFrom]
  split
  · rfl
  · rfl

theorem readAll_ok {fd : Fd} {count : Nat} {bytes : Bytes}
    (read : readFrom (SocketHandler.readAll fd count) incoming = .returned bytes rest) :
    incoming = bytes ++ rest ∧ bytes.length = count := by
  rw [readFrom_readAll] at read
  split at read
  case isTrue enough =>
      cases read
      exact ⟨(List.take_append_drop _ _).symm, List.length_take_of_le enough⟩
  case isFalse => cases read

theorem readFrom_readAll_append (fd : Fd) (bytes rest : Bytes) :
    readFrom (SocketHandler.readAll fd bytes.length) (bytes ++ rest) = .returned bytes rest := by
  rw [readFrom_readAll, if_pos (by simp), List.take_left, List.drop_left]

theorem readFrom_readAll_bind {fd : Fd} {count : Nat} {bytes rest : Bytes}
    (next : Bytes → Action β) (exact : bytes.length = count) :
    readFrom (SocketHandler.readAll fd count >>= next) (bytes ++ rest) =
      readFrom (next bytes) rest := by
  subst exact
  rw [readFrom_bind, readFrom_readAll_append]
  rfl

theorem readFrom_append (read : readFrom program incoming = .returned value rest) (more : Bytes) :
    readFrom program (incoming ++ more) = .returned value (rest ++ more) := by
  induction program generalizing incoming with
  | done value =>
      cases read
      rfl
  | raise exn => cases read
  | abort message => cases read
  | perform operation after ih =>
      cases operation with
      | readAll fd count =>
          rw [readFrom] at read ⊢
          split at read
          case isTrue enough =>
              rw [if_pos (by simp only [List.length_append]; omega),
                List.take_append_of_le_length enough, List.drop_append_of_le_length enough]
              exact ih _ read
          case isFalse => cases read
      | writeAll fd buffer => cases read
      | read fd count => cases read
      | close fd => cases read

theorem readFrom_length (read : readFrom program incoming = .returned value rest) :
    rest.length ≤ incoming.length := by
  induction program generalizing incoming with
  | done value =>
      cases read
      exact le_refl _
  | raise exn => cases read
  | abort message => cases read
  | perform operation after ih =>
      cases operation with
      | readAll fd count =>
          rw [readFrom] at read
          split at read
          case isTrue enough =>
              have shorter := ih _ read
              rw [List.length_drop] at shorter
              omega
          case isFalse => cases read
      | writeAll fd buffer => cases read
      | read fd count => cases read
      | close fd => cases read

theorem readFrom_bind_ok {next : α → Action β} {result : β}
    (read : readFrom (program >>= next) incoming = .returned result rest) :
    ∃ value left, readFrom program incoming = .returned value left ∧
      readFrom (next value) left = .returned result rest := by
  rw [readFrom_bind] at read
  cases first : readFrom program incoming with
  | waits =>
      rw [first] at read
      cases read
  | raised exn =>
      rw [first] at read
      cases read
  | aborted message =>
      rw [first] at read
      cases read
  | returned value left =>
      rw [first] at read
      exact ⟨value, left, rfl, read⟩

end

end EternalTerminal
