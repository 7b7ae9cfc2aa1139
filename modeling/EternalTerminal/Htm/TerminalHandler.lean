/-
`TerminalHandler`: the shell behind a pane, and the output kept for replay.

`start` ends the process when it cannot fork, so a handler here has started.
-/

import EternalTerminal.Base.Text

namespace EternalTerminal

def MAX_BUFFER_LINES : Nat := 1024

def MAX_BUFFER_CHARS : Int := 128 * 1024

structure TerminalHandler where
  run : Bool
  buffer : List Bytes
  bufferLength : Int
  deriving DecidableEq

namespace TerminalHandler

/-- What `select`, `read` and, at the end of the file, `waitid` report. -/
inductive Poll where
  | quiet
  | read (first : UInt8) (rest : Bytes)
  | failed
  | ended
  | notReaped

def create : TerminalHandler :=
  { run := true
    buffer := []
    bufferLength := 0 }

def countChars (lines : List Bytes) : Int := ((lines.map List.length).sum : Nat)

/-- The first token continues the last line. -/
def appendTokens (buffer tokens : List Bytes) : List Bytes :=
  match buffer.getLast?, tokens with
  | none, tokens => tokens
  | some _, [] => buffer
  | some last, front :: more => buffer.dropLast ++ (last ++ front) :: more

def trimLines (handler : TerminalHandler) : TerminalHandler :=
  let amountToErase := handler.buffer.length - MAX_BUFFER_LINES
  { handler with
    buffer := handler.buffer.drop amountToErase
    bufferLength := handler.bufferLength - countChars (handler.buffer.take amountToErase) }

/-- The `while` loop over `bufferLength`. -/
def trimChars (run : Bool) : List Bytes → Int → TerminalHandler
  | [], bufferLength => { run := run, buffer := [], bufferLength := bufferLength }
  | line :: buffer, bufferLength =>
      if bufferLength > MAX_BUFFER_CHARS then
        trimChars run buffer (bufferLength - line.length)
      else { run := run, buffer := line :: buffer, bufferLength := bufferLength }

/-- `pollUserTerminal` once `read` has returned characters. -/
def receive (handler : TerminalHandler) (newChars : Bytes) : TerminalHandler :=
  let tokens := split 10 newChars
  let handler := trimLines
    { handler with
      buffer := appendTokens handler.buffer tokens
      bufferLength := handler.bufferLength + countChars tokens }
  trimChars handler.run handler.buffer handler.bufferLength

def stop (handler : TerminalHandler) : TerminalHandler := { handler with run := false }

def pollUserTerminal (handler : TerminalHandler) (poll : Poll) :
    Except String (Bytes × TerminalHandler) :=
  if handler.run then
    match poll with
    | .quiet => .ok ([], handler)
    | .read first rest => .ok (first :: rest, handler.receive (first :: rest))
    | .failed => .ok ([], handler.stop)
    | .ended => .ok ([], handler.stop)
    | .notReaped => .error "Error"
  else .ok ([], handler)

end TerminalHandler

end EternalTerminal
