/-
The first exchange of a session, as `TerminalClient`'s constructor and
`UserJumphostHandler::run` wait for it, and the packets that `TerminalClient::run` accepts.

What `connect`, `getSocketFd`, `select` and `readPacket` report, and when, is a parameter; the
packets are those that the server has written, in order.
-/

import EternalTerminal.Base.ClientConnection
import EternalTerminal.Terminal.UserTerminalHandler

namespace EternalTerminal

open Library

/-- An error that is not set is `none`. -/
structure InitialResponse where
  error : Option Bytes
  deriving DecidableEq

namespace InitialResponse

def fields (response : InitialResponse) : List WireField :=
  response.error.toList.map (bytesField 1)

def ofFields (fields : List WireField) : InitialResponse :=
  { error := (fields.filterMap (bytesValue 1)).getLast? }

theorem ofFields_fields (response : InitialResponse) : ofFields response.fields = response := by
  obtain ⟨error⟩ := response
  cases error with
  | none => rfl
  | some what => rfl

theorem fields_valid (response : InitialResponse) :
    ∀ field ∈ response.fields, field.value.Valid := by
  intro field member
  obtain ⟨what, _, rfl⟩ := List.mem_map.mp member
  exact bytesField_valid 1 what

end InitialResponse

def initialResponse : ProtoMessage InitialResponse :=
  messageOfFields InitialResponse.fields InitialResponse.ofFields InitialResponse.fields_valid
    InitialResponse.ofFields_fields

/-! ### Packet types -/

def INITIAL_PAYLOAD : UInt8 := 253

def INITIAL_RESPONSE : UInt8 := 252

def KEEP_ALIVE : UInt8 := 0

def PORT_FORWARD_DESTINATION_REQUEST : UInt8 := 5

def PORT_FORWARD_DESTINATION_RESPONSE : UInt8 := 6

def PORT_FORWARD_DATA : UInt8 := 7

/-! ### The loop -/

inductive WaitAnswer where
  | noSocket
  | notReady
  | noPacket
  | packet
  deriving DecidableEq

structure AttemptAnswers where
  connects : Bool
  waits : Nat → WaitAnswer

/-- `established` says that `connect` has made the reader and the writer, `received` that a
response without an error has been taken off the connection. -/
structure HandshakeState where
  established : Bool
  received : Bool
  incoming : List Packet

/-- How the `try` block ends when it ends early, or what it leaves in `fail`. -/
inductive AttemptResult where
  | finished (fail : Bool)
  | threw (what : String)
  | exited
  | aborted (message : String)

/-- `leaves` is the `break`: what follows the loop is next. -/
inductive LoopResult where
  | leaves (state : HandshakeState)
  | throws (what : String)
  | exits
  | aborts (message : String)

/-- The two copies of the loop differ in what an error does: the client exits, the jumphost's
handler throws. -/
structure HandshakeCaller where
  onError : Bytes → AttemptResult
  onCatch : String → LoopResult

namespace HandshakeCaller

variable (caller : HandshakeCaller)

/-- The packet that `readPacket` has returned. -/
def takeResponse (packet : Packet) : AttemptResult :=
  if packet.header ≠ INITIAL_RESPONSE then .aborted "Missing initial response!"
  else
    match initialResponse.parse packet.payload with
    | none => .aborted "Error parsing string to proto"
    | some response =>
        match response.error with
        | some what => caller.onError what
        | none => .finished false

/-- The `for` loop, with the number of waits that are left. -/
def waitForResponse (waits : Nat → WaitAnswer) :
    Nat → Nat → List Packet → AttemptResult × List Packet
  | 0, _, incoming => (.finished true, incoming)
  | left + 1, a, incoming =>
      match waits a, incoming with
      | .packet, packet :: rest => (caller.takeResponse packet, rest)
      | _, _ => waitForResponse waits left (a + 1) incoming

/-- The `try` block up to the check of `fail`. -/
def attempt (answers : AttemptAnswers) (state : HandshakeState) :
    AttemptResult × HandshakeState :=
  if answers.connects then
    let (result, incoming) := caller.waitForResponse answers.waits 3 0 state.incoming
    (result, { state with established := true, incoming := incoming })
  else (.finished true, state)

/-- One round.  The third failure would be an exception. -/
def loopBody (answers : AttemptAnswers) (connectFailCount : Nat) (state : HandshakeState) :
    LoopResult :=
  let (result, after) := caller.attempt answers state
  match result with
  | .finished false => .leaves { after with received := true }
  | .finished true =>
      if connectFailCount + 1 = 3 then caller.onCatch "Connect Timeout"
      else .leaves after
  | .threw what => caller.onCatch what
  | .exited => .exits
  | .aborted message => .aborts message

/-- `while (true)`.  The last statement of the body is `break`, whether or not the attempt has
failed, so there is no second round. -/
def connectLoop (attempts : Nat → AttemptAnswers) (sent : List Packet) : LoopResult :=
  caller.loopBody (attempts 0) 0 { established := false, received := false, incoming := sent }

end HandshakeCaller

/-- The constructor exits on an error from the server and on every exception. -/
def TerminalClient.handshake : HandshakeCaller :=
  { onError := fun _ => .exited
    onCatch := fun _ => .exits }

/-- `run` throws both on. -/
def UserJumphostHandler.handshake (dstSocketEndpoint : String) : HandshakeCaller :=
  { onError := fun what =>
      .threw ("Error initializing connection: " ++ ClientConnection.fromBytes what)
    onCatch := fun what =>
      .throws ("Could not make initial connection to " ++ dstSocketEndpoint ++ ": " ++ what) }

/-! ### After the loop -/

/-- The types that `TerminalClient::run` knows. -/
def TerminalClient.handles (header : UInt8) : Bool :=
  header = PORT_FORWARD_DATA || header = PORT_FORWARD_DESTINATION_REQUEST ||
    header = PORT_FORWARD_DESTINATION_RESPONSE || header = TERMINAL_BUFFER ||
    header = KEEP_ALIVE

/-- What `TerminalClient::run` aborts with when these packets come in. -/
def TerminalClient.fatal : List Packet → Option String
  | [] => none
  | packet :: rest =>
      if TerminalClient.handles packet.header then TerminalClient.fatal rest
      else some ("Unknown packet type: " ++ toString packet.header.toNat)

/-- A server answers first, and after that it writes only what the client knows. -/
def HonestServer (sent : List Packet) : Prop :=
  ∃ (response : InitialResponse) (later : List Packet),
    sent = Packet.plain INITIAL_RESPONSE (initialResponse.serialize response) :: later ∧
      ∀ packet ∈ later, TerminalClient.handles packet.header = true

/-- Whoever leaves the loop has a connection and its answer, and no packet that may still
come in is one that the client aborts on. -/
def LoopResult.Completed : LoopResult → Prop
  | .leaves state => state.established = true ∧ state.received = true ∧
      ∀ delivered, delivered <+: state.incoming → TerminalClient.fatal delivered = none
  | _ => True

/-- The connection comes up and one of the waits gives the server's packet. -/
def AttemptAnswers.ResponseArrives (answers : AttemptAnswers) : Prop :=
  answers.connects = true ∧ ∃ a, a < 3 ∧ answers.waits a = .packet

theorem fatal_none {packets : List Packet}
    (known : ∀ packet ∈ packets, TerminalClient.handles packet.header = true) :
    TerminalClient.fatal packets = none := by
  induction packets with
  | nil => rfl
  | cons packet rest ih =>
      have first := known packet List.mem_cons_self
      rw [TerminalClient.fatal, if_pos first]
      exact ih fun other member => known other (List.mem_cons_of_mem _ member)

namespace HandshakeCaller

variable {caller : HandshakeCaller}

theorem waitForResponse_silent {waits : Nat → WaitAnswer} {incoming : List Packet}
    (left a : Nat) (silent : ∀ other, a ≤ other → other < a + left → waits other ≠ .packet) :
    caller.waitForResponse waits left a incoming = (.finished true, incoming) := by
  induction left generalizing a with
  | zero => rfl
  | succ left ih =>
      have first := silent a (Nat.le_refl a) (Nat.lt_add_of_pos_right (Nat.succ_pos left))
      have rest := ih (a + 1) (fun other low high => silent other (by omega) (by omega))
      cases answer : waits a with
      | packet => exact absurd answer first
      | noSocket | notReady | noPacket =>
          rw [waitForResponse]
          · exact rest
          · simp [answer]

/-- The first wait that gives a packet gives the first one that was sent. -/
theorem waitForResponse_packet {waits : Nat → WaitAnswer} {packet : Packet}
    {rest : List Packet} (left a other : Nat) (low : a ≤ other) (high : other < a + left)
    (gives : waits other = .packet) :
    caller.waitForResponse waits left a (packet :: rest) =
      (caller.takeResponse packet, rest) := by
  induction left generalizing a with
  | zero => omega
  | succ left ih =>
      have later : waits a ≠ .packet → a ≠ other := by
        intro silent same
        exact silent (same ▸ gives)
      cases answer : waits a with
      | packet =>
          rw [waitForResponse]
          exact answer
      | noSocket | notReady | noPacket =>
          have different := later (by simp [answer])
          have others := ih (a + 1) (by omega) (by omega)
          simpa [waitForResponse, answer] using others

theorem takeResponse_plain (response : InitialResponse) :
    caller.takeResponse
        (Packet.plain INITIAL_RESPONSE (initialResponse.serialize response)) =
      match response.error with
      | some what => caller.onError what
      | none => .finished false := by
  have parsed : initialResponse.parse (initialResponse.serialize response) = some response :=
    initialResponse.parse_serialize response
  rw [takeResponse, if_neg (by simp [Packet.plain])]
  dsimp only [Packet.plain]
  rw [parsed]

/-- An error does not leave the loop. -/
def StopsOnError (caller : HandshakeCaller) : Prop :=
  ∀ what, caller.onError what = .exited ∨
    ∃ message, caller.onError what = .threw message ∧ (caller.onCatch message).Completed

theorem connectLoop_iff (stops : caller.StopsOnError) (attempts : Nat → AttemptAnswers)
    {sent : List Packet} (honest : HonestServer sent) :
    (caller.connectLoop attempts sent).Completed ↔ (attempts 0).ResponseArrives := by
  obtain ⟨response, later, sentEq, known⟩ := honest
  subst sentEq
  by_cases connects : (attempts 0).connects = true
  · by_cases arrives : ∃ a, a < 3 ∧ (attempts 0).waits a = .packet
    · apply iff_of_true _ ⟨connects, arrives⟩
      obtain ⟨a, early, gives⟩ := arrives
      have taken := @waitForResponse_packet caller (attempts 0).waits
        (Packet.plain INITIAL_RESPONSE (initialResponse.serialize response)) later
        3 0 a (Nat.zero_le a) (by omega) gives
      rw [takeResponse_plain] at taken
      rw [connectLoop, loopBody, attempt, if_pos connects]
      dsimp only
      rw [taken]
      cases error : response.error with
      | none =>
          refine ⟨rfl, rfl, ?_⟩
          intro delivered isPrefix
          exact fatal_none fun packet member => known packet (isPrefix.subset member)
      | some what =>
          dsimp only
          rcases stops what with exited | ⟨message, threw, stopped⟩
          · rw [exited]
            trivial
          · rw [threw]
            exact stopped
    · apply iff_of_false
      · have silent := @waitForResponse_silent caller (attempts 0).waits
          (Packet.plain INITIAL_RESPONSE (initialResponse.serialize response) :: later)
          3 0 (fun a _ early gives => arrives ⟨a, by omega, gives⟩)
        rw [connectLoop, loopBody, attempt, if_pos connects]
        dsimp only
        rw [silent]
        intro completed
        exact Bool.false_ne_true completed.2.1
      · exact fun holds => arrives holds.2
  · apply iff_of_false
    · rw [connectLoop, loopBody, attempt, if_neg connects]
      intro completed
      exact Bool.false_ne_true completed.1
    · exact fun holds => connects holds.1

end HandshakeCaller

theorem TerminalClient.handshake_stops : TerminalClient.handshake.StopsOnError :=
  fun _ => Or.inl rfl

theorem UserJumphostHandler.handshake_stops (dstSocketEndpoint : String) :
    (UserJumphostHandler.handshake dstSocketEndpoint).StopsOnError :=
  fun _ => Or.inr ⟨_, rfl, trivial⟩

/-- Either run loop starts on a session that has been answered if and only if the first
attempt gets the answer. -/
theorem handshake_completed_iff (attempts : Nat → AttemptAnswers) {sent : List Packet}
    (honest : HonestServer sent) (dstSocketEndpoint : String) :
    ((TerminalClient.handshake.connectLoop attempts sent).Completed ↔
        (attempts 0).ResponseArrives) ∧
      (((UserJumphostHandler.handshake dstSocketEndpoint).connectLoop attempts sent).Completed ↔
        (attempts 0).ResponseArrives) := by
  constructor
  · exact HandshakeCaller.connectLoop_iff TerminalClient.handshake_stops attempts honest
  · exact HandshakeCaller.connectLoop_iff
      (UserJumphostHandler.handshake_stops dstSocketEndpoint) attempts honest

/-! ### An answer that comes late -/

def answeredSession : List Packet :=
  [Packet.plain INITIAL_RESPONSE (initialResponse.serialize { error := none })]

theorem answeredSession_honest : HonestServer answeredSession :=
  ⟨{ error := none }, [], rfl, by simp⟩

theorem handshake_completed_iff_first_wait :
    ((TerminalClient.handshake.connectLoop
          (fun _ => { connects := true, waits := fun _ => .packet }) answeredSession).Completed ↔
        AttemptAnswers.ResponseArrives { connects := true, waits := fun _ => .packet }) ∧
      (((UserJumphostHandler.handshake "dst").connectLoop
          (fun _ => { connects := true, waits := fun _ => .packet }) answeredSession).Completed ↔
        AttemptAnswers.ResponseArrives { connects := true, waits := fun _ => .packet }) :=
  handshake_completed_iff (fun _ => { connects := true, waits := fun _ => .packet })
    answeredSession_honest "dst"

/-- Three silent seconds, and the client runs without an answer: the answer ends it.  Nor does
a connection that cannot be made keep it from running. -/
theorem late_response_ends_client :
    HonestServer answeredSession ∧
      TerminalClient.handshake.connectLoop
          (fun _ => { connects := true, waits := fun _ => .notReady }) answeredSession =
        .leaves { established := true, received := false, incoming := answeredSession } ∧
      TerminalClient.fatal answeredSession = some "Unknown packet type: 252" ∧
      TerminalClient.handshake.connectLoop
          (fun _ => { connects := false, waits := fun _ => .noSocket }) answeredSession =
        .leaves { established := false, received := false, incoming := answeredSession } ∧
      ¬ ∀ (attempts : Nat → AttemptAnswers) (sent : List Packet), HonestServer sent →
        (TerminalClient.handshake.connectLoop attempts sent).Completed := by
  refine ⟨answeredSession_honest, rfl, by decide, rfl, ?_⟩
  intro all
  have completed := all (fun _ => { connects := false, waits := fun _ => .noSocket }) _
    answeredSession_honest
  exact Bool.false_ne_true completed.1

end EternalTerminal
