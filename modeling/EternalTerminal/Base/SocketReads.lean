/-
`BackedReader::read` against a socket whose reads have given answers.
-/

import EternalTerminal.Base.BackedReader
import EternalTerminal.Base.Connection

namespace EternalTerminal

open Library

/-! ### The answers of a socket -/

/-- One `recv`: at most `count` bytes of what has arrived, and EAGAIN when nothing is left. -/
def receive (count : Nat) : List ReadAnswer → ReadAnswer × List ReadAnswer
  | [] => (.failed .eagain, [])
  | .data bytes :: rest =>
      (.data (bytes.take count),
        if bytes.length ≤ count then rest else .data (bytes.drop count) :: rest)
  | answer :: rest => (answer, rest)

def receiving (answers : List ReadAnswer) :
    (operation : SocketCall) → operation.Answer × List ReadAnswer
  | .writeAll _ _ => (.ok (), answers)
  | .readAll _ _ => (.error "not a read of packets", answers)
  | .read _ count => receive count answers
  | .close _ => ((), answers)

/-- The next `recv` gives all the `count` bytes it is asked for; for none there is no call. -/
def Fills (count : Nat) (answers : List ReadAnswer) (bytes : Bytes)
    (rest : List ReadAnswer) : Prop :=
  bytes.length = count ∧
    (if count = 0 then rest = answers else receive count answers = (.data bytes, rest))

theorem receive_length {count : Nat} {answers rest : List ReadAnswer} {bytes : Bytes}
    (received : receive count answers = (.data bytes, rest)) : bytes.length ≤ count := by
  cases answers with
  | nil => cases received
  | cons answer later =>
      cases answer with
      | data arrived =>
          cases received
          exact List.length_take_le count arrived
      | closed => cases received
      | failed errno => cases received

theorem interpret_read {β : Type} (fd : Fd) (count : Nat) (next : ReadAnswer → Action β)
    (answers : List ReadAnswer) :
    (SocketHandler.read fd count >>= next).interpret receiving answers =
      (next (receive count answers).1).interpret receiving (receive count answers).2 := rfl

namespace BackedReader

variable {box : SecretBox} {reader after : BackedReader}
  {answers rest : List ReadAnswer} {packet : Packet}

/-! ### When a read gives a packet -/

def Opens (box : SecretBox) (handler : CryptoHandler) (serialized : Bytes) : Prop :=
  ∃ encrypted header payload plain,
    serialized = encrypted :: header :: payload ∧ encrypted ≠ 0 ∧
      crypto_secretbox_MACBYTES ≤ payload.length ∧
      box.openEasy handler.key handler.nonce.increment payload = some plain

/-- The bytes of the message that are still missing, as the code computes them. -/
def messageRemainder (partialMessage : Bytes) : Int :=
  toInt32 (getPartialMessageLength partialMessage - ((partialMessage.length : Int) - 4))

/-- What has arrived completes the message: one `recv` gives the rest of the length, one more
the rest of the packet. -/
def Completes (partialMessage : Bytes) (answers : List ReadAnswer) (message : Bytes) : Prop :=
  ∃ header body between rest,
    Fills (4 - partialMessage.length) answers header between ∧
      0 ≤ messageRemainder (partialMessage ++ header) ∧
      Fills (messageRemainder (partialMessage ++ header)).toNat between body rest ∧
      message = partialMessage ++ header ++ body ∧
      toInt32 message.length - 4 = getPartialMessageLength message

def serializedPacket (message : Bytes) : Bytes :=
  (message.drop 4).take (getPartialMessageLength message).toNat

/-- The next packet is in the local buffer, or what has arrived completes it. -/
def Gives (box : SecretBox) (reader : BackedReader) (answers : List ReadAnswer) : Prop :=
  match reader.localBuffer with
  | front :: _ => Opens box reader.cryptoHandler front
  | [] => ∃ message, Completes reader.partialMessage answers message ∧
      Opens box reader.cryptoHandler (serializedPacket message)

theorem opened_iff {handler : CryptoHandler} {serialized : Bytes} :
    (∃ opened between, (Packet.deserialize serialized >>= fun packet =>
        packet.decrypt box handler : Action (Packet × CryptoHandler)).interpret receiving
          answers = (.returned opened, between)) ↔ Opens box handler serialized := by
  match serialized with
  | [] =>
      simp [Packet.deserialize, Opens]
  | [single] =>
      simp [Packet.deserialize, Opens]
  | encrypted :: header :: payload =>
      simp only [Packet.deserialize, Program.pure_eq_done, Program.done_bind, Packet.decrypt,
        CryptoHandler.decrypt, CryptoHandler.incrementNonce, Opens, List.cons.injEq]
      by_cases plain : encrypted = 0
      · simp [plain]
      · by_cases short : payload.length < crypto_secretbox_MACBYTES
        · simp [plain, short]
        · cases opened : box.openEasy handler.key handler.nonce.increment payload with
          | none => simp [plain, short, opened]
          | some content =>
              simp [plain, short, opened]
              omega

/-- A packet that is opened ends the read with it, whatever is kept of the reader. -/
theorem opening_gives_iff {serialized : Bytes} {handler : CryptoHandler}
    (kept : CryptoHandler → BackedReader) :
    (∃ packet after rest, (Packet.deserialize serialized >>= fun packet =>
        packet.decrypt box handler >>= fun opened =>
          (.done (.packet opened.1, kept opened.2) :
            Action (ReadResult × BackedReader))).interpret receiving answers =
              (.returned (.packet packet, after), rest)) ↔ Opens box handler serialized := by
  rw [← opened_iff]
  constructor
  · intro ⟨packet, after, rest, gives⟩
    rw [← Program.bind_bind, Program.interpret_bind_returned] at gives
    obtain ⟨opened, between, opens, _⟩ := gives
    exact ⟨opened, between, opens⟩
  · intro ⟨opened, between, opens⟩
    refine ⟨opened.1, kept opened.2, between, ?_⟩
    rw [← Program.bind_bind, Program.interpret_bind_returned]
    exact ⟨opened, between, opens, rfl⟩

theorem constructPartialMessage_gives_iff :
    (∃ packet after rest,
      (constructPartialMessage box reader).interpret receiving answers =
        (.returned (.packet packet, after), rest)) ↔
      toInt32 reader.partialMessage.length - 4 =
          getPartialMessageLength reader.partialMessage ∧
        Opens box reader.cryptoHandler (serializedPacket reader.partialMessage) := by
  unfold constructPartialMessage
  by_cases complete : toInt32 reader.partialMessage.length - 4 =
      getPartialMessageLength reader.partialMessage
  · rw [if_neg (not_not_intro complete), and_iff_right complete]
    exact opening_gives_iff (fun handler =>
      { reader with
        cryptoHandler := handler
        partialMessage := []
        sequenceNumber := reader.sequenceNumber + 1 })
  · rw [if_pos complete]
    constructor
    · intro ⟨_, _, _, impossible⟩
      cases impossible
    · intro both
      exact absurd both.1 complete

/-- The second `recv` and what follows it. -/
theorem readBody_gives_iff {fd : Fd} :
    (∃ packet after rest, (readBody box reader fd).interpret receiving answers =
        (.returned (.packet packet, after), rest)) ↔
      ∃ body rest, 0 ≤ messageRemainder reader.partialMessage ∧
        Fills (messageRemainder reader.partialMessage).toNat answers body rest ∧
        toInt32 (reader.partialMessage ++ body).length - 4 =
          getPartialMessageLength (reader.partialMessage ++ body) ∧
        Opens box reader.cryptoHandler
          (serializedPacket (reader.partialMessage ++ body)) := by
  have remaining : toInt32 (getPartialMessageLength reader.partialMessage -
      ((reader.partialMessage.length : Int) - 4)) = messageRemainder reader.partialMessage := rfl
  unfold readBody
  simp only [remaining]
  by_cases zero : messageRemainder reader.partialMessage = 0
  · rw [if_neg (not_not_intro zero), zero, constructPartialMessage_gives_iff]
    constructor
    · intro complete
      exact ⟨[], answers, le_refl 0, ⟨rfl, rfl⟩, by simpa using complete⟩
    · intro filled
      obtain ⟨body, rest, _, fills, complete⟩ := filled
      have empty : body = [] := List.eq_nil_of_length_eq_zero fills.1
      simpa [empty] using complete
  · rw [if_pos zero]
    by_cases negative : messageRemainder reader.partialMessage < 0
    · rw [if_pos negative]
      constructor
      · intro returns
        obtain ⟨_, _, _, impossible⟩ := returns
        cases impossible
      · intro filled
        obtain ⟨_, _, nonneg, _⟩ := filled
        omega
    · rw [if_neg negative]
      simp only [interpret_read]
      have asked : (messageRemainder reader.partialMessage).toNat ≠ 0 := by omega
      cases received : receive (messageRemainder reader.partialMessage).toNat answers with
      | mk answer rest =>
          simp only [Fills, if_neg asked, received]
          cases answer with
          | closed => simp
          | failed errno => simp
          | data bytes =>
              by_cases full : messageRemainder reader.partialMessage - bytes.length = 0
              · simp only [if_pos full, constructPartialMessage_gives_iff]
                constructor
                · intro complete
                  exact ⟨bytes, rest, by omega, ⟨by omega, rfl⟩, complete⟩
                · intro filled
                  obtain ⟨body, _, _, fills, complete⟩ := filled
                  cases fills.2
                  exact complete
              · simp only [if_neg full]
                constructor
                · intro returns
                  obtain ⟨_, _, _, impossible⟩ := returns
                  cases impossible
                · intro filled
                  obtain ⟨body, _, _, fills, _⟩ := filled
                  cases fills.2
                  omega

/-- The two `recv`s. -/
theorem readSocket_gives_iff {fd : Fd} :
    (∃ packet after rest, (readSocket box reader fd).interpret receiving answers =
        (.returned (.packet packet, after), rest)) ↔
      ∃ message, Completes reader.partialMessage answers message ∧
        Opens box reader.cryptoHandler (serializedPacket message) := by
  have completes_iff : (∃ message, Completes reader.partialMessage answers message ∧
        Opens box reader.cryptoHandler (serializedPacket message)) ↔
      ∃ header between, Fills (4 - reader.partialMessage.length) answers header between ∧
        ∃ packet after rest, (readBody box
          { reader with partialMessage := reader.partialMessage ++ header }
            fd).interpret receiving between = (.returned (.packet packet, after), rest) := by
    simp only [readBody_gives_iff]
    constructor
    · intro ⟨_, ⟨header, body, between, rest, filled, nonneg, more, rfl, complete⟩, opens⟩
      exact ⟨header, between, filled, body, rest, nonneg, more, complete, opens⟩
    · intro ⟨header, between, filled, body, rest, nonneg, more, complete, opens⟩
      exact ⟨_, ⟨header, body, between, rest, filled, nonneg, more, rfl, complete⟩, opens⟩
  rw [completes_iff, readSocket]
  by_cases short : reader.partialMessage.length < 4
  · rw [if_pos short]
    simp only [interpret_read]
    have asked : 4 - reader.partialMessage.length ≠ 0 := by omega
    cases received : receive (4 - reader.partialMessage.length) answers with
    | mk answer rest =>
        simp only [Fills, if_neg asked, received]
        cases answer with
        | closed => simp
        | failed errno => simp
        | data bytes =>
            have limited : bytes.length ≤ 4 - reader.partialMessage.length :=
              receive_length received
            by_cases full : (reader.partialMessage ++ bytes).length < 4
            · simp only [if_pos full]
              constructor
              · intro ⟨_, _, _, impossible⟩
                cases impossible
              · intro ⟨header, between, fills, _⟩
                cases fills.2
                rw [List.length_append] at full
                omega
            · simp only [if_neg full]
              rw [List.length_append] at full
              constructor
              · intro gives
                exact ⟨bytes, rest, ⟨by omega, rfl⟩, gives⟩
              · intro ⟨header, between, fills, gives⟩
                cases fills.2
                exact gives
  · rw [if_neg short]
    have whole : 4 - reader.partialMessage.length = 0 := by omega
    constructor
    · intro gives
      refine ⟨[], answers, ⟨whole.symm, by rw [if_pos whole]⟩, ?_⟩
      simpa using gives
    · intro ⟨header, between, fills, gives⟩
      have empty : header = [] := List.eq_nil_of_length_eq_zero (fills.1.trans whole)
      have unread := fills.2
      rw [if_pos whole] at unread
      subst unread
      simpa [empty] using gives

/-- `read` gives a packet exactly when there is a socket and a packet to be had. -/
theorem read_gives_iff :
    (∃ packet after rest, (reader.read box).interpret receiving answers =
        (.returned (.packet packet, after), rest)) ↔
      reader.socketFd ≠ none ∧ Gives box reader answers := by
  unfold read Gives
  cases reader.socketFd with
  | none =>
      constructor
      · intro ⟨_, _, _, impossible⟩
        cases impossible
      · intro both
        exact absurd rfl both.1
  | some fd =>
      rw [and_iff_right (by simp)]
      cases reader.localBuffer with
      | nil => exact readSocket_gives_iff
      | cons front rest =>
          exact opening_gives_iff (fun handler =>
            { reader with
              cryptoHandler := handler
              socketFd := some fd
              localBuffer := rest })

end BackedReader

end EternalTerminal
