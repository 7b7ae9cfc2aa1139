/-
Two parties that talk over two pipes of bounded capacity.

What a party does is a list of moves of one symbol each.  What one party has sent is what the
other has received and, after it, what is still in the pipe.
-/

import Mathlib.Tactic.Common

namespace EternalTerminal.Library

inductive Move (Symbol : Type) where
  | send (symbol : Symbol)
  | receive (symbol : Symbol)

namespace Dialogue

variable {Symbol : Type}

def sends (text : List Symbol) : List (Move Symbol) := text.map .send

def receives (text : List Symbol) : List (Move Symbol) := text.map .receive

def sent (moves : List (Move Symbol)) : List Symbol :=
  moves.filterMap fun
    | .send symbol => some symbol
    | .receive _ => none

def received (moves : List (Move Symbol)) : List Symbol :=
  moves.filterMap fun
    | .send _ => none
    | .receive symbol => some symbol

/-- The next move cannot be made: the pipe is full, or there is nothing in it. -/
def Stuck (capacity : Nat) (incoming outgoing : List Symbol) : List (Move Symbol) → Prop
  | .send _ :: _ => capacity ≤ outgoing.length
  | .receive _ :: _ => incoming = []
  | [] => False

/-- Two parties after some of their moves, with what is in the pipes between them. -/
structure Between (first second : List (Move Symbol)) (firstDone secondDone : Nat)
    (toSecond toFirst : List Symbol) : Prop where
  forth : sent (first.take firstDone) = received (second.take secondDone) ++ toSecond
  back : sent (second.take secondDone) = received (first.take firstDone) ++ toFirst

/-- A party that sends and receives, and then sends and receives again. -/
def twoRounds (greeting greeted message answer : List Symbol) : List (Move Symbol) :=
  sends greeting ++ (receives greeted ++ (sends message ++ receives answer))

section

variable {moves more : List (Move Symbol)} {text greeting greeted message answer : List Symbol}
  {symbol : Symbol} {position : Nat}

@[simp] theorem sent_append : sent (moves ++ more) = sent moves ++ sent more :=
  List.filterMap_append

@[simp] theorem received_append : received (moves ++ more) = received moves ++ received more :=
  List.filterMap_append

@[simp] theorem sent_sends (text : List Symbol) : sent (sends text) = text := by
  induction text with
  | nil => rfl
  | cons symbol rest ih => exact congrArg (symbol :: ·) ih

@[simp] theorem received_sends (text : List Symbol) : received (sends text) = [] := by
  induction text with
  | nil => rfl
  | cons symbol rest ih => exact ih

@[simp] theorem sent_receives (text : List Symbol) : sent (receives text) = [] := by
  induction text with
  | nil => rfl
  | cons symbol rest ih => exact ih

@[simp] theorem received_receives (text : List Symbol) : received (receives text) = text := by
  induction text with
  | nil => rfl
  | cons symbol rest ih => exact congrArg (symbol :: ·) ih

theorem sends_append (text more : List Symbol) : sends (text ++ more) = sends text ++ sends more :=
  List.map_append

theorem receives_append (text more : List Symbol) :
    receives (text ++ more) = receives text ++ receives more :=
  List.map_append

@[simp] theorem sends_length (text : List Symbol) : (sends text).length = text.length :=
  List.length_map _

@[simp] theorem receives_length (text : List Symbol) : (receives text).length = text.length :=
  List.length_map _

@[simp] theorem take_sends (position : Nat) (text : List Symbol) :
    (sends text).take position = sends (text.take position) :=
  List.map_take.symm

@[simp] theorem take_receives (position : Nat) (text : List Symbol) :
    (receives text).take position = receives (text.take position) :=
  List.map_take.symm

/-! ### Two rounds -/

theorem sent_take_twoRounds (position : Nat) :
    (sent ((twoRounds greeting greeted message answer).take position)).length =
      min position greeting.length +
        min (position - greeting.length - greeted.length) message.length := by
  simp [twoRounds, List.take_append]

theorem received_take_twoRounds (position : Nat) :
    (received ((twoRounds greeting greeted message answer).take position)).length =
      min (position - greeting.length) greeted.length +
        min (position - greeting.length - greeted.length - message.length) answer.length := by
  simp [twoRounds, List.take_append]

theorem counts_of_send
    (next : (twoRounds greeting greeted message answer)[position]? = some (.send symbol)) :
    let before := (twoRounds greeting greeted message answer).take position
    (sent before).length < greeting.length ∧ (received before).length = 0 ∨
      ∃ part < message.length, (sent before).length = greeting.length + part ∧
        (received before).length = greeted.length := by
  dsimp only
  rw [sent_take_twoRounds, received_take_twoRounds]
  simp only [twoRounds, List.getElem?_append, sends_length, receives_length] at next
  split at next
  · left
    omega
  · split at next
    · simp [receives] at next
    · split at next
      · right
        exact ⟨position - greeting.length - greeted.length, by omega, by omega, by omega⟩
      · simp [receives] at next

theorem counts_of_receive
    (next : (twoRounds greeting greeted message answer)[position]? = some (.receive symbol)) :
    let before := (twoRounds greeting greeted message answer).take position
    (sent before).length = greeting.length ∧ (received before).length < greeted.length ∨
      ∃ part < answer.length, (sent before).length = greeting.length + message.length ∧
        (received before).length = greeted.length + part := by
  dsimp only
  rw [sent_take_twoRounds, received_take_twoRounds]
  simp only [twoRounds, List.getElem?_append, sends_length, receives_length] at next
  split at next
  · simp [sends] at next
  · split at next
    · left
      omega
    · split at next
      · simp [sends] at next
      · have inside := (List.getElem?_eq_some_iff.mp next).1
        rw [receives_length] at inside
        right
        exact ⟨position - greeting.length - greeted.length - message.length, by omega, by omega,
          by omega⟩

/-- The next move of a party that is stuck, and what holds it up. -/
theorem stuck_cases {capacity : Nat} {incoming outgoing : List Symbol}
    (stuck : Stuck capacity incoming outgoing (moves.drop position)) :
    (∃ symbol, moves[position]? = some (.send symbol) ∧ capacity ≤ outgoing.length) ∨
      ∃ symbol, moves[position]? = some (.receive symbol) ∧ incoming = [] := by
  cases left : moves.drop position with
  | nil =>
      rw [left] at stuck
      exact stuck.elim
  | cons move rest =>
      have next : moves[position]? = some move := by
        rw [← List.head?_drop, left, List.head?_cons]
      rw [left] at stuck
      cases move with
      | send symbol => exact Or.inl ⟨symbol, next, stuck⟩
      | receive symbol => exact Or.inr ⟨symbol, next, stuck⟩

/-- Two parties can only be stuck together in the middle of two messages that are both longer
than a pipe. -/
theorem long_of_stuck {otherMessage otherAnswer toSecond toFirst : List Symbol}
    {capacity firstDone secondDone : Nat} (room : 0 < capacity)
    (greetingFits : greeting.length ≤ capacity)
    (answered : answer.length ≤ otherMessage.length ∨ otherAnswer.length ≤ message.length)
    (between : Between (twoRounds greeting greeted message answer)
      (twoRounds greeted greeting otherMessage otherAnswer) firstDone secondDone toSecond toFirst)
    (firstStuck : Stuck capacity toFirst toSecond
      ((twoRounds greeting greeted message answer).drop firstDone))
    (secondStuck : Stuck capacity toSecond toFirst
      ((twoRounds greeted greeting otherMessage otherAnswer).drop secondDone)) :
    capacity < message.length ∧ capacity < otherMessage.length := by
  have forth := congrArg List.length between.forth
  have back := congrArg List.length between.back
  rw [List.length_append] at forth back
  rcases stuck_cases firstStuck with ⟨_, firstNext, firstFull⟩ | ⟨_, firstNext, firstEmpty⟩
  · rcases stuck_cases secondStuck with ⟨_, secondNext, secondFull⟩ | ⟨_, _, secondEmpty⟩
    · rcases counts_of_send firstNext with firstAt | ⟨part, inside, firstAt⟩
      · omega
      · rcases counts_of_send secondNext with secondAt | ⟨otherPart, otherInside, secondAt⟩
        · omega
        · omega
    · rw [secondEmpty, List.length_nil] at firstFull
      omega
  · rw [firstEmpty, List.length_nil] at back
    rcases stuck_cases secondStuck with ⟨_, _, secondFull⟩ | ⟨_, secondNext, secondEmpty⟩
    · rw [firstEmpty, List.length_nil] at secondFull
      omega
    · rw [secondEmpty, List.length_nil] at forth
      rcases counts_of_receive firstNext with firstAt | ⟨part, inside, firstAt⟩
      · rcases counts_of_receive secondNext with secondAt | ⟨otherPart, otherInside, secondAt⟩
        · omega
        · omega
      · rcases counts_of_receive secondNext with secondAt | ⟨otherPart, otherInside, secondAt⟩
        · omega
        · omega

end

end Dialogue

end EternalTerminal.Library
