/-
`UserTerminalHandler::runUserTerminal`, and the part of `TerminalServer::runTerminal` that
writes the client's input to it.

The handler is one thread.  Its loop is cut where it waits: at `select`, at each `read` from
the router and at the write to the pty.
-/

import EternalTerminal.Base.ProtoFrame
import EternalTerminal.Base.Protobuf
import EternalTerminal.Library.TransitionSystem

namespace EternalTerminal

open Library

/-! ### Messages -/

/-- An `optional` field that is not set is `none`. -/
structure TerminalBuffer where
  buffer : Option Bytes
  deriving DecidableEq

structure TerminalInfo where
  id : Option Bytes
  row : Option Int32
  column : Option Int32
  width : Option Int32
  height : Option Int32
  deriving DecidableEq

namespace TerminalBuffer

def fields (tb : TerminalBuffer) : List WireField :=
  tb.buffer.toList.map (bytesField 1)

def ofFields (fields : List WireField) : TerminalBuffer :=
  { buffer := (fields.filterMap (bytesValue 1)).getLast? }

theorem ofFields_fields (tb : TerminalBuffer) : ofFields tb.fields = tb := by
  obtain ⟨buffer⟩ := tb
  cases buffer with
  | none => rfl
  | some content => rfl

theorem fields_valid (tb : TerminalBuffer) : ∀ field ∈ tb.fields, field.value.Valid := by
  intro field member
  obtain ⟨content, _, rfl⟩ := List.mem_map.mp member
  exact bytesField_valid 1 content

end TerminalBuffer

namespace TerminalInfo

def fields (ti : TerminalInfo) : List WireField :=
  ti.id.toList.map (bytesField 1) ++ ti.row.toList.map (int32Field 2) ++
    ti.column.toList.map (int32Field 3) ++ ti.width.toList.map (int32Field 4) ++
    ti.height.toList.map (int32Field 5)

def ofFields (fields : List WireField) : TerminalInfo :=
  { id := (fields.filterMap (bytesValue 1)).getLast?
    row := (fields.filterMap (int32Value 2)).getLast?
    column := (fields.filterMap (int32Value 3)).getLast?
    width := (fields.filterMap (int32Value 4)).getLast?
    height := (fields.filterMap (int32Value 5)).getLast? }

/-- The only `int32` field with this number is the one that was set. -/
theorem int32Value_other {number other : Nat} (different : other ≠ number)
    (value : Option Int32) :
    (value.toList.map (int32Field other)).filterMap (int32Value number) = [] := by
  cases value with
  | none => rfl
  | some value => simp [int32Value, int32Field, different]

theorem int32Value_same (number : Nat) (value : Option Int32) :
    (value.toList.map (int32Field number)).filterMap (int32Value number) = value.toList := by
  cases value with
  | none => rfl
  | some value => simp [int32Value_int32Field]

theorem int32Value_bytes (number other : Nat) (content : Option Bytes) :
    (content.toList.map (bytesField other)).filterMap (int32Value number) = [] := by
  cases content with
  | none => rfl
  | some content => simp [int32Value, bytesField]

theorem bytesValue_int32 (number other : Nat) (value : Option Int32) :
    (value.toList.map (int32Field other)).filterMap (bytesValue number) = [] := by
  cases value with
  | none => rfl
  | some value => simp [bytesValue, int32Field]

theorem bytesValue_same (number : Nat) (content : Option Bytes) :
    (content.toList.map (bytesField number)).filterMap (bytesValue number) =
      content.toList := by
  cases content with
  | none => rfl
  | some content => simp [bytesValue_bytesField]

theorem getLast?_toList {α : Type} (value : Option α) : value.toList.getLast? = value := by
  cases value with
  | none => rfl
  | some value => rfl

theorem ofFields_fields (ti : TerminalInfo) : ofFields ti.fields = ti := by
  obtain ⟨id, row, column, width, height⟩ := ti
  simp only [ofFields, fields, List.filterMap_append, int32Value_same, int32Value_bytes,
    bytesValue_same, bytesValue_int32, List.append_nil, List.nil_append]
  rw [int32Value_other (show 3 ≠ 2 by decide), int32Value_other (show 4 ≠ 2 by decide),
    int32Value_other (show 5 ≠ 2 by decide), int32Value_other (show 2 ≠ 3 by decide),
    int32Value_other (show 4 ≠ 3 by decide), int32Value_other (show 5 ≠ 3 by decide),
    int32Value_other (show 2 ≠ 4 by decide), int32Value_other (show 3 ≠ 4 by decide),
    int32Value_other (show 5 ≠ 4 by decide), int32Value_other (show 2 ≠ 5 by decide),
    int32Value_other (show 3 ≠ 5 by decide), int32Value_other (show 4 ≠ 5 by decide)]
  simp only [List.append_nil, List.nil_append, getLast?_toList]

theorem fields_valid (ti : TerminalInfo) : ∀ field ∈ ti.fields, field.value.Valid := by
  intro field member
  simp only [fields, List.mem_append, List.mem_map] at member
  rcases member with (((⟨_, _, rfl⟩ | ⟨_, _, rfl⟩) | ⟨_, _, rfl⟩) | ⟨_, _, rfl⟩) | ⟨_, _, rfl⟩
  · exact bytesField_valid 1 _
  · exact int32Field_valid 2 _
  · exact int32Field_valid 3 _
  · exact int32Field_valid 4 _
  · exact int32Field_valid 5 _

end TerminalInfo

def terminalBuffer : ProtoMessage TerminalBuffer :=
  messageOfFields TerminalBuffer.fields TerminalBuffer.ofFields TerminalBuffer.fields_valid
    TerminalBuffer.ofFields_fields

def terminalInfo : ProtoMessage TerminalInfo :=
  messageOfFields TerminalInfo.fields TerminalInfo.ofFields TerminalInfo.fields_valid
    TerminalInfo.ofFields_fields

/-- The values of `TerminalPacketType` that the pipe carries. -/
def TERMINAL_BUFFER : UInt8 := 1

def TERMINAL_INFO : UInt8 := 2

/-- A message that `runTerminal` passes on. -/
inductive TerminalMessage where
  | buffer (tb : TerminalBuffer)
  | info (ti : TerminalInfo)
  deriving DecidableEq

namespace TerminalMessage

def packetType : TerminalMessage → UInt8
  | .buffer _ => TERMINAL_BUFFER
  | .info _ => TERMINAL_INFO

def serialize : TerminalMessage → Bytes
  | .buffer tb => terminalBuffer.serialize tb
  | .info ti => terminalInfo.serialize ti

def Fits (message : TerminalMessage) : Prop :=
  message.serialize.length ≤ SocketHandler.MAX_PROTO_BYTES

/-- The type byte, then what `writeProto` writes. -/
def frame (message : TerminalMessage) : Bytes :=
  message.packetType :: SocketHandler.protoFrame message.serialize

def input : TerminalMessage → Bytes
  | .buffer tb => tb.buffer.getD []
  | .info _ => []

end TerminalMessage

/-! ### The handler -/

def EINTR : Errno := .other 4

/-- The fields are `unsigned short`. -/
structure Winsize where
  row : UInt16
  col : UInt16
  xpixel : UInt16
  ypixel : UInt16

def Winsize.ofInfo (ti : TerminalInfo) : Winsize :=
  let short (value : Option Int32) : UInt16 :=
    UInt16.ofNat ((value.getD 0).toInt % 2 ^ 16).toNat
  { row := short ti.row
    col := short ti.column
    xpixel := short ti.width
    ypixel := short ti.height }

/-- Where the thread is: about to `select`, about to read the type byte, inside `readProto`
with these bytes of the frame, or about to drain. -/
inductive HandlerPhase where
  | looping
  | readingType
  | readingBuffer (got : Bytes)
  | readingInfo (got : Bytes)
  | draining
  | ended
  deriving DecidableEq

/-- `pty` and `output` are all that has been written to the master descriptor and to the
router, `decoded` is what `readProto` has returned. -/
structure UserTerminalHandler where
  phase : HandlerPhase
  shuttingDown : Bool
  noratelimit : Bool
  lastSecond : Nat
  outputPerSecond : Nat
  pendingInput : Bytes
  pty : Bytes
  output : Bytes
  window : Option Winsize
  decoded : List TerminalMessage

/-- `read` and `writeAll` are the outcomes of the calls on the terminal's output. -/
structure SelectAnswers where
  routerWritable : Bool
  masterReady : Bool
  routerReady : Bool
  currentSecond : Nat
  read : ReadAnswer
  writeAll : Except String Unit

inductive WriteAnswer where
  | wrote (count : Nat)
  | failed (errno : Errno)

namespace UserTerminalHandler

def maxPendingInput : Nat := 256 * 1024

def newline : UInt8 := 10

def goto (handler : UserTerminalHandler) (phase : HandlerPhase) : UserTerminalHandler :=
  { handler with phase := phase }

/-- An exception and a `break` both end the loop. -/
def stop (handler : UserTerminalHandler) : UserTerminalHandler :=
  { handler with shuttingDown := true, phase := .ended }

/-- The limit on lines is for each second. -/
def tick (handler : UserTerminalHandler) (currentSecond : Nat) : UserTerminalHandler :=
  if handler.lastSecond ≠ currentSecond then
    { handler with outputPerSecond := 0, lastSecond := currentSecond }
  else handler

/-- Output that the terminal has ready is passed to the router, then it is `next`'s turn. -/
def passOutput (handler : UserTerminalHandler) (answers : SelectAnswers)
    (next : HandlerPhase) : UserTerminalHandler :=
  match answers.read with
  | .data bytes =>
      let handler :=
        { handler with outputPerSecond := handler.outputPerSecond + bytes.count newline }
      match answers.writeAll with
      | .ok () => { handler with output := handler.output ++ bytes, phase := next }
      | .error _ => handler.stop
  | .closed => handler.stop
  | .failed errno =>
      if errno = .eagain ∨ errno = .ewouldblock then handler.goto .looping
      else handler.stop

def routerTurn (handler : UserTerminalHandler) (answers : SelectAnswers) : HandlerPhase :=
  if handler.pendingInput.length < maxPendingInput ∧ answers.routerReady then .readingType
  else .draining

def iterate (handler : UserTerminalHandler) (answers : SelectAnswers) : UserTerminalHandler :=
  if handler.shuttingDown then handler.goto .ended
  else
    let masterSelected := answers.routerWritable && answers.masterReady
    let next := handler.routerTurn answers
    let handler := handler.tick answers.currentSecond
    if masterSelected && (handler.noratelimit || decide (handler.outputPerSecond < 1024)) then
      handler.passOutput answers next
    else handler.goto next

/-- The type byte has been read. -/
def readType (handler : UserTerminalHandler) (packetType : UInt8) : UserTerminalHandler :=
  if packetType = TERMINAL_BUFFER then handler.goto (.readingBuffer [])
  else if packetType = TERMINAL_INFO then handler.goto (.readingInfo [])
  else handler.goto .draining

/-- The read of the type byte failed, or the router has closed its end. -/
def readTypeFails (handler : UserTerminalHandler) : Option Errno → UserTerminalHandler
  | some errno =>
      if errno = .eagain ∨ errno = EINTR then handler.goto .looping else handler.stop
  | none => handler.stop

/-- `readAll` inside `readProto` has got some of the bytes it asked for. -/
def readProto (handler : UserTerminalHandler) (chunk : Bytes) : UserTerminalHandler :=
  match handler.phase with
  | .readingBuffer got =>
      match SocketHandler.frameStatus terminalBuffer (got ++ chunk) with
      | .more _ => handler.goto (.readingBuffer (got ++ chunk))
      | .rejected => handler.stop
      | .message tb =>
          { handler with
            pendingInput := handler.pendingInput ++ tb.buffer.getD []
            decoded := handler.decoded ++ [.buffer tb]
            phase := .draining }
  | .readingInfo got =>
      match SocketHandler.frameStatus terminalInfo (got ++ chunk) with
      | .more _ => handler.goto (.readingInfo (got ++ chunk))
      | .rejected => handler.stop
      | .message ti =>
          { handler with
            window := some (Winsize.ofInfo ti)
            decoded := handler.decoded ++ [.info ti]
            phase := .draining }
  | _ => handler

/-- How many bytes `readProto` asks for. -/
def asks (handler : UserTerminalHandler) : Nat :=
  match handler.phase with
  | .readingBuffer got =>
      match SocketHandler.frameStatus terminalBuffer got with
      | .more count => count
      | _ => 0
  | .readingInfo got =>
      match SocketHandler.frameStatus terminalInfo got with
      | .more count => count
      | _ => 0
  | _ => 0

/-- `write` takes at most what it is given. -/
def drain (handler : UserTerminalHandler) (answer : WriteAnswer) : UserTerminalHandler :=
  if handler.pendingInput = [] then handler.goto .looping
  else
    match answer with
    | .wrote rc =>
        { handler with
          pty := handler.pty ++ handler.pendingInput.take rc
          pendingInput := handler.pendingInput.drop rc
          phase := .looping }
    | .failed errno =>
        if errno = .eagain ∨ errno = .ewouldblock then handler.goto .looping
        else handler.stop

end UserTerminalHandler

/-! ### The pipe between the two -/

/-- `outgoing` is what the server has still to write of the message it is passing on. -/
structure TerminalLink where
  handler : UserTerminalHandler
  sent : List TerminalMessage
  outgoing : Bytes
  pipe : Bytes
  aborted : Bool

inductive TerminalEvent where
  | forward (message : TerminalMessage)
  | write (count : Nat)
  | iterate (answers : SelectAnswers)
  | readType
  | readTypeFails (answer : Option Errno)
  | readProto (count : Nat)
  | readProtoFails
  | drain (answer : WriteAnswer)
  | shutdown

namespace TerminalLink

inductive Step : TerminalLink → TerminalEvent → TerminalLink → Prop
  | forward {link : TerminalLink} {message : TerminalMessage} :
      link.aborted = false → link.outgoing = [] → message.Fits →
      Step link (.forward message)
        { link with
          sent := link.sent ++ [message]
          outgoing := message.frame }
  -- `writeProto` aborts when the type byte has been written.
  | oversized {link : TerminalLink} {message : TerminalMessage} :
      link.aborted = false → link.outgoing = [] → ¬ message.Fits →
      Step link (.forward message)
        { link with
          outgoing := [message.packetType]
          aborted := true }
  | write {link : TerminalLink} {count : Nat} :
      Step link (.write count)
        { link with
          pipe := link.pipe ++ link.outgoing.take count
          outgoing := link.outgoing.drop count }
  | iterate {link : TerminalLink} {answers : SelectAnswers} :
      link.handler.phase = .looping →
      Step link (.iterate answers) { link with handler := link.handler.iterate answers }
  | readType {link : TerminalLink} {packetType : UInt8} {rest : Bytes} :
      link.handler.phase = .readingType → link.pipe = packetType :: rest →
      Step link .readType
        { link with
          handler := link.handler.readType packetType
          pipe := rest }
  | readTypeFails {link : TerminalLink} {answer : Option Errno} :
      link.handler.phase = .readingType →
      Step link (.readTypeFails answer)
        { link with handler := link.handler.readTypeFails answer }
  | readProto {link : TerminalLink} {count : Nat} :
      0 < count → count ≤ link.handler.asks → count ≤ link.pipe.length →
      Step link (.readProto count)
        { link with
          handler := link.handler.readProto (link.pipe.take count)
          pipe := link.pipe.drop count }
  | readProtoFails {link : TerminalLink} :
      0 < link.handler.asks →
      Step link .readProtoFails { link with handler := link.handler.stop }
  | drain {link : TerminalLink} {answer : WriteAnswer} :
      link.handler.phase = .draining →
      Step link (.drain answer) { link with handler := link.handler.drain answer }
  | shutdown {link : TerminalLink} :
      Step link .shutdown
        { link with handler := { link.handler with shuttingDown := true } }

end TerminalLink

def UserTerminalHandler.start (noratelimit : Bool) (lastSecond : Nat) : UserTerminalHandler :=
  { phase := .looping
    shuttingDown := false
    noratelimit := noratelimit
    lastSecond := lastSecond
    outputPerSecond := 0
    pendingInput := []
    pty := []
    output := []
    window := none
    decoded := [] }

def terminalSystem : TransitionSystem TerminalLink TerminalEvent where
  initial link := ∃ noratelimit lastSecond, link =
    { handler := .start noratelimit lastSecond
      sent := []
      outgoing := []
      pipe := []
      aborted := false }
  step := TerminalLink.Step

end EternalTerminal
