/-
What `htmd` puts on the socket of its client.

Each call of `writeAllOrThrow` is given with what its `send`s are answered.
-/

import EternalTerminal.Base.UnixSocketHandler
import EternalTerminal.Htm.HtmReads

namespace EternalTerminal

open Library

/-! ### The calls of `writeAllOrThrow` -/

structure SocketWrite where
  buffer : Bytes
  startTime : Nat
  calls : List WriteCall

namespace SocketWrite

def outcome (write : SocketWrite) : List Nat × WriteAllResult :=
  UnixSocketHandler.writeAllOrThrow false write.buffer.length write.startTime write.calls

def handed (write : SocketWrite) : Bytes :=
  write.outcome.1.filterMap fun position => write.buffer[position]?

def Returns (write : SocketWrite) : Prop := write.outcome.2 = .wrote

def Throws (write : SocketWrite) : Prop :=
  write.outcome.2 = .closed ∨ ∃ errno, write.outcome.2 = .failed errno

/-- Nothing is put out after a `write` that gave up with a part of the buffer out. -/
def Once (write : SocketWrite) : Prop :=
  write.buffer.length = 0 ∨ UnixSocketHandler.Undisturbed write.buffer.length
    (UnixSocketHandler.made false true write.buffer.length write.startTime write.calls)

variable {write : SocketWrite}

theorem Once.exact (once : write.Once) :
    UnixSocketHandler.Exact write.buffer.length write.outcome :=
  UnixSocketHandler.writeAll_exact_iff.mpr once

theorem Once.handed_prefix (once : write.Once) : write.handed <+: write.buffer :=
  once.exact.handed write.buffer

theorem Once.handed_eq (once : write.Once) (returns : write.Returns) :
    write.handed = write.buffer := by
  rw [handed, once.exact.1, UnixSocketHandler.filterMap_range, once.exact.2 returns,
    List.take_length]

/-- The first `send` takes the whole buffer. -/
def directCall (length : Nat) : WriteCall :=
  { currentTime := 0
    active := true
    startTime := 0
    rounds := [⟨.sent length, 0⟩] }

def direct (buffer : Bytes) : SocketWrite :=
  { buffer := buffer
    startTime := 0
    calls := [directCall buffer.length] }

theorem directCall_completes (length : Nat) : (directCall length).Completes length :=
  ⟨rfl, UnixSocketHandler.toInt32_le length⟩

theorem direct_returns (buffer : Bytes) : (direct buffer).Returns := by
  unfold Returns outcome direct UnixSocketHandler.writeAllOrThrow
  dsimp only
  by_cases empty : buffer.length = 0
  · rw [empty]
    rfl
  · obtain ⟨_, called, _⟩ :=
      UnixSocketHandler.write_enough (directCall_completes buffer.length)
    rw [UnixSocketHandler.writeAll, if_pos (Nat.pos_of_ne_zero empty), if_neg (by simp), Nat.sub_zero,
      called]
    dsimp only
    rw [if_neg empty, Nat.zero_add, UnixSocketHandler.writeAll_whole]

theorem direct_once {buffer : Bytes} (small : buffer.length ≤ INT_MAX) :
    (direct buffer).Once := by
  have single : ¬ (directCall buffer.length).Retried true buffer.length :=
    fun retried => retried.1 (directCall_completes buffer.length)
  have made : UnixSocketHandler.made false true buffer.length 0 [directCall buffer.length] =
      [directCall buffer.length] := by
    rw [UnixSocketHandler.made, if_neg (by simp), if_neg single]
  refine .inr ?_
  unfold direct
  rw [made]
  exact ⟨List.pairwise_singleton _ _, .inl small⟩

end SocketWrite

def Written (buffers : List Bytes) (writes : List SocketWrite) : Prop :=
  writes.map SocketWrite.buffer = buffers ∧ ∀ write ∈ writes, write.Returns

theorem Written.handed {buffers : List Bytes} {writes : List SocketWrite}
    (written : Written buffers writes) (once : ∀ write ∈ writes, write.Once) :
    writes.flatMap SocketWrite.handed = buffers.flatten := by
  rw [← written.1, ← List.flatMap_def]
  apply List.flatMap_congr
  intro write member
  exact (once write member).handed_eq (written.2 write member)

theorem written_direct (buffers : List Bytes) :
    Written buffers (buffers.map SocketWrite.direct) := by
  constructor
  · rw [List.map_map]
    exact List.map_id _
  · intro write member
    obtain ⟨buffer, _, rfl⟩ := List.mem_map.mp member
    exact SocketWrite.direct_returns buffer

namespace HtmMessage

variable (base64 : Base64)

def buffers (message : HtmMessage) : List Bytes :=
  [message.header] :: base64.int (message.body base64).length ::
    match message with
    | .pane (.appendToPane paneId terminalData) => [paneId, base64.encode terminalData]
    | _ => [message.body base64]

theorem flatten_buffers (message : HtmMessage) :
    (message.buffers base64).flatten = message.frame base64 := by
  cases message with
  | debugLog msg => simp [buffers, frame]
  | initState jsonString => simp [buffers, frame]
  | pane message => cases message <;> simp [buffers, frame, body]

theorem flatten_flatMap_buffers (messages : List HtmMessage) :
    (messages.flatMap (buffers base64)).flatten = messages.flatMap (frame base64) := by
  induction messages with
  | nil => rfl
  | cons message rest ih =>
      rw [List.flatMap_cons, List.flatten_append, flatten_buffers, ih, List.flatMap_cons]

end HtmMessage

/-! ### The socket -/

/-- ESC [ # # # q -/
def HTM_ESCAPE : Bytes := [27, 91, 35, 35, 35, 113]

/-- What `recover` and the updates have been told to write. -/
def HtmEndpoint.wire (base64 : Base64) (endpoint : HtmEndpoint) : Bytes :=
  HTM_ESCAPE ++ endpoint.sent.flatMap (HtmMessage.frame base64)

/-- `put` is what has been put on the socket of the client that attached last. -/
structure HtmWire where
  server : HtmServer
  put : Bytes

structure HtmWireEvent where
  event : HtmEvent
  writes : List SocketWrite

namespace HtmWireEvent

def out (event : HtmWireEvent) : Bytes := event.writes.flatMap SocketWrite.handed

def Once (event : HtmWireEvent) : Prop := ∀ write ∈ event.writes, write.Once

end HtmWireEvent

theorem once_direct {buffers : List Bytes} (event : HtmEvent)
    (small : ∀ buffer ∈ buffers, buffer.length ≤ INT_MAX) :
    (HtmWireEvent.mk event (buffers.map SocketWrite.direct)).Once := by
  intro write member
  obtain ⟨buffer, isBuffer, rfl⟩ := List.mem_map.mp member
  exact SocketWrite.direct_once (small buffer isBuffer)

def HtmEvent.Silent : HtmEvent → Prop
  | .accepts | .acceptFails | .updates _ _ => False
  | _ => True

def HtmServer.Served (server : HtmServer) : Prop :=
  server.endpoint.isSome ∧ server.phase.Serves

namespace HtmWire

section

variable (base64 : Base64) (fd : Fd) (jsonString : MultiplexerState → Bytes)
  (greetings : HtmServer.Greetings)

inductive Step : HtmWire → HtmWireEvent → HtmWire → Prop
  | silent {wire : HtmWire} {event : HtmEvent} {server : HtmServer} :
      event.Silent → HtmServer.Step base64 fd jsonString greetings wire.server event server →
      Step wire ⟨event, []⟩ { wire with server := server }
  | accepts {wire : HtmWire} {server : HtmServer} {writes : List SocketWrite} :
      HtmServer.Step base64 fd jsonString greetings wire.server .accepts server →
      Written (HTM_ESCAPE :: (HtmServer.recover jsonString greetings wire.server.state).flatMap
        (HtmMessage.buffers base64)) writes →
      Step wire ⟨.accepts, writes⟩
        { server := server
          put := writes.flatMap SocketWrite.handed }
  | updates {wire : HtmWire} {server : HtmServer} {poll : Bytes → TerminalHandler.Poll}
      {taken : MultiplexerState.Message → Bool} {sent : List MultiplexerState.Message}
      {state : MultiplexerState} {writes : List SocketWrite} :
      HtmServer.Step base64 fd jsonString greetings wire.server (.updates poll taken) server →
      server.Served → wire.server.state.update poll taken = .ok (sent, state) →
      Written ((sent.map HtmMessage.pane).flatMap (HtmMessage.buffers base64)) writes →
      Step wire ⟨.updates poll taken, writes⟩
        { server := server
          put := wire.put ++ writes.flatMap SocketWrite.handed }
  -- How much of its last message a client gets that is not served any more is left open.
  | breaks {wire : HtmWire} {event : HtmWireEvent} {server : HtmServer} :
      HtmServer.Step base64 fd jsonString greetings wire.server event.event server →
      ¬ server.Served →
      Step wire event
        { server := server
          put := wire.put ++ event.out }

def system : TransitionSystem HtmWire HtmWireEvent where
  initial wire :=
    (HtmServer.system base64 fd jsonString greetings).initial wire.server ∧ wire.put = []
  step := Step base64 fd jsonString greetings

end

variable {base64 : Base64} {fd : Fd} {jsonString : MultiplexerState → Bytes}
  {greetings : HtmServer.Greetings} {wire before after : HtmWire} {event : HtmWireEvent}
  {endpoint : HtmEndpoint}

theorem Step.server (step : Step base64 fd jsonString greetings before event after) :
    HtmServer.Step base64 fd jsonString greetings before.server event.event after.server := by
  cases step with
  | silent _ step => exact step
  | accepts step _ => exact step
  | updates step _ _ _ => exact step
  | breaks step _ => exact step

theorem reachable_server {allowed : HtmServer → HtmEvent → Prop}
    {admitted : HtmWire → HtmWireEvent → Prop}
    (implies : ∀ wire event, admitted wire event → allowed wire.server event.event)
    (reached : (system base64 fd jsonString greetings).ReachableBy admitted wire) :
    (HtmServer.system base64 fd jsonString greetings).ReachableBy allowed wire.server := by
  induction reached with
  | start initial => exact .start initial.1
  | next _ isAdmitted step ih => exact .next ih (implies _ _ isAdmitted) step.server

/-! ### What is written to a client that is served -/

theorem silent_kept {before after : HtmServer} {event : HtmEvent} (silent : event.Silent)
    (step : HtmServer.Step base64 fd jsonString greetings before event after)
    (attached : after.endpoint = some endpoint) (serves : after.phase.Serves) :
    ∃ former, before.endpoint = some former ∧ before.phase.Serves ∧
      endpoint.sent = former.sent := by
  cases step with
  | arrives wasAttached _ =>
      cases attached
      exact ⟨_, wasAttached, serves, rfl⟩
  | hangsUp wasAttached _ =>
      cases attached
      exact ⟨_, wasAttached, serves, rfl⟩
  | accepts | acceptFails | updates => exact silent.elim
  | idles selecting _ _ _ _ => exact ⟨_, attached, .inl selecting, rfl⟩
  | commands selecting _ wasAttached _ =>
      rw [HtmServer.resume_endpoint] at attached
      cases attached
      exact ⟨_, wasAttached, .inl selecting, rfl⟩
  | closes | returns => cases attached
  | readThrows | readFails | closeThrows =>
      exact absurd serves (show ¬ HtmPhase.catching.Serves by decide)
  | lengthError | unknownHeader | closeFails | returnFails =>
      exact absurd serves (show ¬ HtmPhase.terminated.Serves by decide)

inductive Tells (base64 : Base64) (before after : HtmWire) (out : Bytes)
    (endpoint : HtmEndpoint) : Prop
  | attaches : before.server.endpoint = none → endpoint.arrived = [] →
      endpoint.wire base64 = out → after.put = out → Tells base64 before after out endpoint
  | goesOn {former : HtmEndpoint} : before.server.endpoint = some former →
      before.server.phase.Serves → endpoint.wire base64 = former.wire base64 ++ out →
      after.put = before.put ++ out → Tells base64 before after out endpoint

theorem Step.tells (step : Step base64 fd jsonString greetings before event after)
    (once : event.Once) (attached : after.server.endpoint = some endpoint)
    (serves : after.server.phase.Serves) : Tells base64 before after event.out endpoint := by
  have served : after.server.Served := ⟨Option.isSome_iff_exists.mpr ⟨_, attached⟩, serves⟩
  cases step with
  | silent silent step =>
      obtain ⟨former, wasAttached, wasServing, same⟩ := silent_kept silent step attached serves
      refine .goesOn wasAttached wasServing ?_ (List.append_nil _).symm
      rw [HtmEndpoint.wire, same]
      exact (List.append_nil _).symm
  | accepts step written =>
      have out := written.handed once
      rw [List.flatten_cons, HtmMessage.flatten_flatMap_buffers] at out
      cases step with
      | accepts _ _ detached =>
          cases attached
          exact .attaches detached rfl out.symm rfl
  | @updates _ _ _ sent _ _ step _ ran written =>
      have out := written.handed once
      rw [HtmMessage.flatten_flatMap_buffers] at out
      cases step with
      | @updates former _ _ updating wasAttached _ =>
          have told : endpoint = former.tell sent := by
            unfold HtmServer.update at attached
            rw [ran] at attached
            cases attached
            rfl
          refine .goesOn wasAttached (.inr (.inl updating)) ?_ rfl
          rw [told, HtmEndpoint.wire, HtmEndpoint.tell, List.flatMap_append, ← out,
            ← List.append_assoc]
          rfl
  | breaks _ broken => exact absurd served broken

/-- A client that is served has been sent what `htmd` has written for it, and nothing else. -/
theorem put_eq {admitted : HtmWire → HtmWireEvent → Prop}
    (implies : ∀ wire event, admitted wire event → event.Once)
    (reached : (system base64 fd jsonString greetings).ReachableBy admitted wire)
    (attached : wire.server.endpoint = some endpoint) (serves : wire.server.phase.Serves) :
    wire.put = endpoint.wire base64 := by
  induction reached generalizing endpoint with
  | start initial =>
      obtain ⟨_, _, isStart⟩ := initial.1
      rw [isStart] at attached
      cases attached
  | next _ isAdmitted step ih =>
      cases step.tells (implies _ _ isAdmitted) attached serves with
      | attaches _ _ isWire isPut => rw [isWire, isPut]
      | goesOn wasAttached wasServing isWire isPut =>
          rw [isWire, isPut, ih wasAttached wasServing]

end HtmWire

end EternalTerminal
