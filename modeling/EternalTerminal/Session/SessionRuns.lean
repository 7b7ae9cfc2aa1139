/-
Sessions that run: one way to take each step.

A write that is not cut short puts all of its buffer on the wire, and a read takes all that has
arrived of what it asks for.
-/

import EternalTerminal.Library.Execution
import EternalTerminal.Session.Stalls

namespace EternalTerminal

open Library

/-- How wires that work answer an operation of `side`. -/
def Wires.answer (side : Side) (wires : Wires) :
    (call : sockets.Operation) → sockets.Answer call × Wires
  | .writeAll fd buffer => (.ok (), wires.update fd side (·.append buffer))
  | .readAll fd count =>
      if count ≤ (wires fd side.other).available.length then
        (.ok ((wires fd side.other).available.take count),
          wires.update fd side.other (·.take count))
      else (.error "Socket Timeout", wires)
  | .read fd count =>
      let bytes := (wires fd side.other).available.take count
      if bytes = [] then (.failed .eagain, wires)
      else (.data bytes, wires.update fd side.other (·.take bytes.length))
  | .close _ => ((), wires)

theorem Wires.answers_answer (side : Side) (wires : Wires) (call : sockets.Operation) :
    Wires.answers side wires call (wires.answer side call).1 (wires.answer side call).2 := by
  cases call with
  | writeAll fd buffer => rfl
  | readAll fd count =>
      dsimp only [answer]
      split
      · rename_i arrived
        exact ⟨List.length_take_of_le arrived, List.take_prefix _ _, rfl⟩
      · rfl
  | read fd count =>
      dsimp only [answer]
      split
      · rfl
      · rename_i some
        exact ⟨some, List.length_take_le _ _, List.take_prefix _ _, rfl⟩
  | close fd => rfl

namespace Session

variable (box : SecretBox) (proto : Protobuf)

def complete {α : Type} (session : Session) (side : Side)
    (operation : Connection → Action (α × Connection)) : Option (α × Connection × Wires) :=
  match (session.endpoint side).recovering with
  | some _ => none
  | none =>
      match (operation (session.endpoint side).connection).interpret (Wires.answer side)
          session.wires with
      | (.returned (value, connection), wires) => some (value, connection, wires)
      | _ => none

theorem complete_run {α : Type} {session : Session} {side : Side}
    {operation : Connection → Action (α × Connection)} {value : α} {connection : Connection}
    {wires : Wires}
    (completed : session.complete side operation = some (value, connection, wires)) :
    (session.endpoint side).recovering = none ∧
      Program.Run (Wires.answers side) session.wires
        (operation (session.endpoint side).connection) (.returned (value, connection)) wires := by
  have run := Program.run_interpret (fun wires call => Wires.answers_answer side wires call)
    (operation (session.endpoint side).connection) session.wires
  unfold complete at completed
  split at completed
  · cases completed
  · rename_i idle
    refine ⟨idle, ?_⟩
    split at completed
    · rename_i ended
      rw [ended] at run
      cases completed
      exact run
    · cases completed

/-- The end with its `recover` further on. -/
def recoverAt (session : Session) (side : Side) (socket : Fd)
    (activity : Activity (Bool × Connection)) : Session :=
  session.setEndpoint side
    { session.endpoint side with recovering := some (socket, activity) }

def make (session : Session) (side : Side) : SessionEvent → Option Session
  | .write packet =>
      (session.complete side fun connection => connection.write box packet).map
        fun (accepted, connection, wires) =>
          { session.setEndpoint side
              { session.endpoint side with
                connection := connection
                accepted := (session.endpoint side).accepted ++
                  if accepted then [packet] else [] } with
            wires := wires }
  | .read =>
      (session.complete side fun connection => connection.read box).map
        fun (packet, connection, wires) =>
          { session.setEndpoint side
              { session.endpoint side with
                connection := connection
                returned := (session.endpoint side).returned ++ packet.toList } with
            wires := wires }
  | .closeSocket =>
      (session.complete side fun connection =>
        connection.closeSocket >>= fun closed => pure ((), closed)).map
        fun (_, connection, wires) =>
          { session.setEndpoint side
              { session.endpoint side with connection := connection } with
            wires := wires }
  | .recover socket =>
      if (session.endpoint side).recovering.isNone ∧
          (session.endpoint side).connection.socketFd = none ∧
          session.used socket side = false then
        some
          { session.recoverAt side socket
              (Activity.begin ((session.endpoint side).connection.recover proto socket)) with
            used := fun otherSocket otherSide =>
              session.used otherSocket otherSide ||
                (otherSocket = socket && otherSide = side) }
      else none
  | .send count =>
      (session.endpoint side).recovering.bind fun (socket, activity) =>
        if 0 < count ∧ count ≤ activity.outgoing.length then
          some
            { session.recoverAt side socket (activity.send count) with
              wires := session.wires.update socket side
                (·.append (activity.outgoing.take count)) }
        else none
  | .receive count =>
      (session.endpoint side).recovering.bind fun (socket, activity) =>
        if 0 < count ∧ count ≤ activity.wanted ∧
            count ≤ (session.wires socket side.other).available.length then
          some
            { session.recoverAt side socket
                (activity.receive ((session.wires socket side.other).available.take count)) with
              wires := session.wires.update socket side.other (·.take count) }
        else none
  | .fail what =>
      (session.endpoint side).recovering.map fun (socket, activity) =>
        session.recoverAt side socket (activity.fail what)
  | .close =>
      (session.endpoint side).recovering.map fun (socket, activity) =>
        session.recoverAt side socket activity.closed
  | .finish =>
      (session.endpoint side).recovering.bind fun (_, activity) =>
        match activity.program with
        | .done (_, connection) =>
            some (session.setEndpoint side
              { session.endpoint side with
                connection := connection
                recovering := none })
        | _ => none
  | .lose socket limit =>
      some { session with wires := session.wires.update socket side (·.lose limit) }

variable {box proto}

theorem make_step {session after : Session} {side : Side} {event : SessionEvent}
    (made : session.make box proto side event = some after) :
    Session.Step box proto session side event after := by
  cases event with
  | write packet =>
      obtain ⟨⟨accepted, connection, wires⟩, completed, rfl⟩ := Option.map_eq_some_iff.mp made
      obtain ⟨idle, run⟩ := complete_run completed
      exact .write idle run
  | read =>
      obtain ⟨⟨packet, connection, wires⟩, completed, rfl⟩ := Option.map_eq_some_iff.mp made
      obtain ⟨idle, run⟩ := complete_run completed
      exact .read idle run
  | closeSocket =>
      obtain ⟨⟨nothing, connection, wires⟩, completed, rfl⟩ := Option.map_eq_some_iff.mp made
      obtain ⟨idle, run⟩ := complete_run completed
      rcases Program.run_bind_iff.mp run with
        ⟨closed, between, first, rest⟩ | ⟨_, impossible, _⟩ | ⟨_, impossible, _⟩
      · cases rest
        exact .closeSocket idle first
      · cases impossible
      · cases impossible
  | recover socket =>
      dsimp only [make] at made
      split at made
      · rename_i ready
        cases made
        exact .recover (Option.isNone_iff_eq_none.mp ready.1) ready.2.1 ready.2.2
      · cases made
  | send count =>
      obtain ⟨⟨socket, activity⟩, recovering, made⟩ := Option.bind_eq_some_iff.mp made
      dsimp only at made
      split at made
      · rename_i within
        cases made
        exact .send recovering within.1 within.2
      · cases made
  | receive count =>
      obtain ⟨⟨socket, activity⟩, recovering, made⟩ := Option.bind_eq_some_iff.mp made
      dsimp only at made
      split at made
      · rename_i within
        cases made
        exact .receive recovering within.1 within.2.1 within.2.2
      · cases made
  | fail what =>
      obtain ⟨⟨socket, activity⟩, recovering, rfl⟩ := Option.map_eq_some_iff.mp made
      exact .fail recovering
  | close =>
      obtain ⟨⟨socket, activity⟩, recovering, rfl⟩ := Option.map_eq_some_iff.mp made
      exact .close recovering
  | finish =>
      obtain ⟨⟨socket, activity⟩, recovering, made⟩ := Option.bind_eq_some_iff.mp made
      dsimp only at made
      split at made
      · rename_i done
        cases made
        exact .finish recovering done
      · cases made
  | lose socket limit =>
      cases made
      exact .lose

instance (session : Session) (label : Side × SessionEvent) :
    Decidable (session.withinLimits label) :=
  match label with
  | (_, .write _) => inferInstanceAs (Decidable (_ ∧ _))
  | (_, .read) | (_, .closeSocket) | (_, .recover _) | (_, .send _) | (_, .receive _)
  | (_, .fail _) | (_, .close) | (_, .finish) | (_, .lose _ _) => inferInstanceAs (Decidable True)

instance (session : Session) (label : (Side × SessionEvent) ⊕ Side) :
    Decidable (session.limited label) :=
  match label with
  | .inl label => inferInstanceAs (Decidable (session.withinLimits label))
  | .inr _ => inferInstanceAs (Decidable True)

instance (session : Session) (label : (Side × SessionEvent) ⊕ Side) :
    Decidable (session.sendsOnce label) :=
  match label with
  | .inl label => inferInstanceAs (Decidable (session.withinLimits label))
  | .inr side => inferInstanceAs (Decidable ((session.endpoint side).partSent = false))

/-- One way for a session to run if no write gives up. -/
def steadyExecution (box : SecretBox) (proto : Protobuf) (key : Key) :
    Execution (sessionSystem box proto key) where
  make session label := session.make box proto label.1 label.2
  sound _ _ _ made := make_step made

def execution (box : SecretBox) (proto : Protobuf) (key : Key) :
    Execution (stallingSystem box proto key) where
  make session
    | .inl (side, event) => session.make box proto side event
    | .inr side =>
        (session.endpoint side).recovering.map fun (socket, activity) =>
          session.recoverAt side socket activity.giveUp
  sound := by
    intro before label after made
    cases label with
    | inl label => exact make_step made
    | inr side =>
        obtain ⟨⟨socket, activity⟩, recovering, rfl⟩ := Option.map_eq_some_iff.mp made
        exact .recover recovering

end Session

end EternalTerminal
