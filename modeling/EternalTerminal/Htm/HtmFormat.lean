/-
The messages between `htmd` and its client, as bytes.

A message is a header, the length of what follows as four bytes in base64, and what follows.
-/

import EternalTerminal.Base.Base64
import EternalTerminal.Htm.HtmSession

namespace EternalTerminal

open Library

/-! ### Header codes -/

def INSERT_KEYS : UInt8 := 49
def INIT_STATE : UInt8 := 50
def CLIENT_CLOSE_PANE : UInt8 := 51
def APPEND_TO_PANE : UInt8 := 52
def NEW_TAB : UInt8 := 53
def SERVER_CLOSE_PANE : UInt8 := 56
def NEW_SPLIT : UInt8 := 57
def RESIZE_PANE : UInt8 := 65
def DEBUG_LOG : UInt8 := 66
def INSERT_DEBUG_KEYS : UInt8 := 67
def SESSION_END : UInt8 := 68

/-! ### From the server -/

inductive HtmMessage where
  | debugLog (msg : Bytes)
  | initState (jsonString : Bytes)
  | pane (message : MultiplexerState.Message)

namespace HtmMessage

def header : HtmMessage → UInt8
  | .debugLog _ => DEBUG_LOG
  | .initState _ => INIT_STATE
  | .pane (.appendToPane _ _) => APPEND_TO_PANE
  | .pane (.serverClosePane _) => SERVER_CLOSE_PANE

variable (base64 : Base64)

/-- What is written after the length, which is its length. -/
def body : HtmMessage → Bytes
  | .debugLog msg => base64.encode msg
  | .initState jsonString => jsonString
  | .pane (.appendToPane paneId terminalData) => paneId ++ base64.encode terminalData
  | .pane (.serverClosePane paneId) => paneId

def frame (message : HtmMessage) : Bytes :=
  message.header :: (base64.int (message.body base64).length ++ message.body base64)

/-- The length is an `int32_t`, and an id has `UUID_LENGTH` bytes. -/
structure Fits (message : HtmMessage) : Prop where
  short : IsInt (message.body base64).length
  id : ∀ paneId terminalData, message = .pane (.appendToPane paneId terminalData) →
    paneId.length = UUID_LENGTH

variable {base64} {message other : HtmMessage}

theorem eq_of_body (fits : message.Fits base64) (otherFits : other.Fits base64)
    (headers : message.header = other.header)
    (bodies : message.body base64 = other.body base64) : message = other := by
  cases message with
  | debugLog msg =>
      cases other with
      | debugLog otherMsg => exact congrArg debugLog (base64.encode_injective bodies)
      | initState _ => cases headers
      | pane message => cases message <;> cases headers
  | initState jsonString =>
      cases other with
      | initState otherJson => exact congrArg initState bodies
      | debugLog _ => cases headers
      | pane message => cases message <;> cases headers
  | pane message =>
      cases message with
      | appendToPane paneId terminalData =>
          cases other with
          | debugLog _ | initState _ => cases headers
          | pane otherMessage =>
              cases otherMessage with
              | serverClosePane _ => cases headers
              | appendToPane otherId otherData =>
                  have sameLength := (fits.id _ _ rfl).trans (otherFits.id _ _ rfl).symm
                  obtain ⟨rfl, same⟩ := List.append_inj bodies sameLength
                  cases base64.encode_injective same
                  rfl
      | serverClosePane paneId =>
          cases other with
          | debugLog _ | initState _ => cases headers
          | pane otherMessage =>
              cases otherMessage with
              | appendToPane _ _ => cases headers
              | serverClosePane otherId =>
                  cases (show paneId = otherId from bodies)
                  rfl

theorem frame_append_inj (fits : message.Fits base64) (otherFits : other.Fits base64)
    {rest otherRest : Bytes}
    (same : message.frame base64 ++ rest = other.frame base64 ++ otherRest) :
    message = other ∧ rest = otherRest := by
  obtain ⟨headers, tails⟩ := List.cons.inj same
  change (base64.int _ ++ message.body base64) ++ rest =
    (base64.int _ ++ other.body base64) ++ otherRest at tails
  rw [List.append_assoc, List.append_assoc] at tails
  obtain ⟨lengths, bodies⟩ := List.append_inj tails
    ((base64.int_length _).trans (base64.int_length _).symm)
  have sameLength := Int.ofNat.inj (base64.int_injective fits.short otherFits.short lengths)
  obtain ⟨sameBody, rests⟩ := List.append_inj bodies sameLength
  exact ⟨eq_of_body fits otherFits headers sameBody, rests⟩

/-- Messages that can be read at the beginning of what is written are those that were
written. -/
theorem frames_prefix {messages others : List HtmMessage}
    (fits : ∀ message ∈ messages, message.Fits base64)
    (othersFit : ∀ message ∈ others, message.Fits base64)
    (isPrefix : messages.flatMap (frame base64) <+: others.flatMap (frame base64)) :
    messages <+: others := by
  induction messages generalizing others with
  | nil => exact List.nil_prefix
  | cons message rest ih =>
      obtain ⟨more, same⟩ := isPrefix
      rw [List.flatMap_cons, List.append_assoc] at same
      cases others with
      | nil => cases same
      | cons other otherRest =>
          rw [List.flatMap_cons] at same
          obtain ⟨rfl, rests⟩ := frame_append_inj (fits message List.mem_cons_self)
            (othersFit other List.mem_cons_self) same
          have later := ih (fun other member => fits other (List.mem_cons_of_mem _ member))
            (fun other member => othersFit other (List.mem_cons_of_mem _ member)) ⟨more, rests⟩
          exact List.cons_prefix_cons.mpr ⟨rfl, later⟩

end HtmMessage

end EternalTerminal
