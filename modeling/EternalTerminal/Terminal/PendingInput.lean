/-
What the client types reaches the pty: nothing is lost, repeated or reordered on the way, and
little of it waits.
-/

import EternalTerminal.Terminal.UserTerminalHandler

namespace EternalTerminal

open Library SocketHandler

/-! ### What each part of the loop changes -/

def HandlerPhase.collected : HandlerPhase → Bytes
  | .readingBuffer got => TERMINAL_BUFFER :: got
  | .readingInfo got => TERMINAL_INFO :: got
  | _ => []

/-- The phases between `select` and the end of `readProto`. -/
def HandlerPhase.ReadsRouter : HandlerPhase → Prop
  | .readingType => True
  | .readingBuffer _ => True
  | .readingInfo _ => True
  | _ => False

namespace UserTerminalHandler

variable {handler after : UserTerminalHandler}

structure KeepsInput (before after : UserTerminalHandler) : Prop where
  pendingInput : after.pendingInput = before.pendingInput
  pty : after.pty = before.pty
  decoded : after.decoded = before.decoded

namespace KeepsInput

theorem trans {middle : UserTerminalHandler} (first : handler.KeepsInput middle)
    (second : middle.KeepsInput after) : handler.KeepsInput after :=
  ⟨second.pendingInput.trans first.pendingInput, second.pty.trans first.pty,
    second.decoded.trans first.decoded⟩

theorem goto (handler : UserTerminalHandler) (phase : HandlerPhase) :
    handler.KeepsInput (handler.goto phase) :=
  ⟨rfl, rfl, rfl⟩

theorem stop (handler : UserTerminalHandler) : handler.KeepsInput handler.stop :=
  ⟨rfl, rfl, rfl⟩

theorem tick (handler : UserTerminalHandler) (currentSecond : Nat) :
    handler.KeepsInput (handler.tick currentSecond) := by
  unfold UserTerminalHandler.tick
  split
  · exact ⟨rfl, rfl, rfl⟩
  · exact ⟨rfl, rfl, rfl⟩

end KeepsInput

/-- The phases that are left without anything having been read from the router. -/
def Idle (handler : UserTerminalHandler) (next : HandlerPhase) : Prop :=
  handler.phase = next ∨ handler.phase = .looping ∨ handler.phase = .ended

theorem passOutput_cases (handler : UserTerminalHandler) (answers : SelectAnswers)
    (next : HandlerPhase) :
    handler.KeepsInput (handler.passOutput answers next) ∧
      (handler.passOutput answers next).Idle next := by
  have stops : ∀ other : UserTerminalHandler, handler.KeepsInput other →
      handler.KeepsInput other.stop ∧ other.stop.Idle next :=
    fun other keeps => ⟨keeps.trans (.stop other), Or.inr (Or.inr rfl)⟩
  unfold passOutput
  cases answers.read with
  | data bytes =>
      cases answers.writeAll with
      | ok => exact ⟨⟨rfl, rfl, rfl⟩, Or.inl rfl⟩
      | error what => exact stops _ ⟨rfl, rfl, rfl⟩
  | closed => exact stops _ ⟨rfl, rfl, rfl⟩
  | failed errno =>
      by_cases again : errno = .eagain ∨ errno = .ewouldblock
      · dsimp only
        rw [if_pos again]
        exact ⟨.goto handler .looping, Or.inr (Or.inl rfl)⟩
      · dsimp only
        rw [if_neg again]
        exact stops _ ⟨rfl, rfl, rfl⟩

theorem iterate_cases (handler : UserTerminalHandler) (answers : SelectAnswers) :
    handler.KeepsInput (handler.iterate answers) ∧
      (handler.iterate answers).Idle (handler.routerTurn answers) := by
  unfold iterate
  split
  · exact ⟨.goto handler .ended, Or.inr (Or.inr rfl)⟩
  · have ticked := KeepsInput.tick handler answers.currentSecond
    dsimp only
    split
    · obtain ⟨keeps, idle⟩ := passOutput_cases (handler.tick answers.currentSecond) answers
        (handler.routerTurn answers)
      exact ⟨ticked.trans keeps, idle⟩
    · exact ⟨ticked.trans (.goto _ _), Or.inl rfl⟩

theorem room_of_routerTurn {answers : SelectAnswers}
    (reads : (handler.routerTurn answers).ReadsRouter) :
    handler.pendingInput.length < maxPendingInput := by
  unfold routerTurn at reads
  split at reads
  · rename_i selected
    exact selected.1
  · cases reads

theorem routerTurn_collected (handler : UserTerminalHandler) (answers : SelectAnswers) :
    (handler.routerTurn answers).collected = [] := by
  unfold routerTurn
  split
  · rfl
  · rfl

theorem readTypeFails_cases (handler : UserTerminalHandler) (answer : Option Errno) :
    handler.KeepsInput (handler.readTypeFails answer) ∧
      (handler.readTypeFails answer).Idle .looping := by
  cases answer with
  | none => exact ⟨.stop handler, Or.inr (Or.inr rfl)⟩
  | some errno =>
      unfold readTypeFails
      dsimp only
      split
      · exact ⟨.goto handler .looping, Or.inl rfl⟩
      · exact ⟨.stop handler, Or.inr (Or.inr rfl)⟩

theorem drain_cases (handler : UserTerminalHandler) (answer : WriteAnswer) :
    (handler.drain answer).pty ++ (handler.drain answer).pendingInput =
        handler.pty ++ handler.pendingInput ∧
      (handler.drain answer).pendingInput.length ≤ handler.pendingInput.length ∧
      (handler.drain answer).decoded = handler.decoded ∧
      (handler.drain answer).Idle .looping := by
  unfold drain
  split
  · exact ⟨rfl, Nat.le_refl _, rfl, Or.inl rfl⟩
  · cases answer with
    | wrote rc =>
        dsimp only
        refine ⟨?_, ?_, rfl, Or.inl rfl⟩
        · rw [List.append_assoc, List.take_append_drop]
        · rw [List.length_drop]
          omega
    | failed errno =>
        dsimp only
        split
        · exact ⟨rfl, Nat.le_refl _, rfl, Or.inl rfl⟩
        · exact ⟨rfl, Nat.le_refl _, rfl, Or.inr (Or.inr rfl)⟩

/-! ### Reading one message -/

/-- What `readProto` has done with a chunk of the frame of this message. -/
inductive Takes (handler : UserTerminalHandler) (chunk : Bytes) (message : TerminalMessage) :
    UserTerminalHandler → Prop
  | more {phase : HandlerPhase} :
      phase.collected = handler.phase.collected ++ chunk → phase.ReadsRouter →
      Takes handler chunk message (handler.goto phase)
  | whole {window : Option Winsize} :
      handler.phase.collected ++ chunk = message.frame →
      Takes handler chunk message
        { handler with
          pendingInput := handler.pendingInput ++ message.input
          window := window
          decoded := handler.decoded ++ [message]
          phase := .draining }

theorem asks_buffer {got : Bytes} (phase : handler.phase = .readingBuffer got)
    (asks : 0 < handler.asks) :
    frameStatus terminalBuffer got = .more handler.asks := by
  unfold UserTerminalHandler.asks at asks ⊢
  rw [phase] at asks ⊢
  dsimp only at asks ⊢
  cases status : frameStatus terminalBuffer got with
  | more count => rfl
  | message tb =>
      rw [status] at asks
      cases asks
  | rejected =>
      rw [status] at asks
      cases asks

theorem asks_info {got : Bytes} (phase : handler.phase = .readingInfo got)
    (asks : 0 < handler.asks) :
    frameStatus terminalInfo got = .more handler.asks := by
  unfold UserTerminalHandler.asks at asks ⊢
  rw [phase] at asks ⊢
  dsimp only at asks ⊢
  cases status : frameStatus terminalInfo got with
  | more count => rfl
  | message ti =>
      rw [status] at asks
      cases asks
  | rejected =>
      rw [status] at asks
      cases asks

/-- The message on the way is of the kind whose type byte has been read. -/
theorem same_kind {packetType : UInt8} {got chunk rest : Bytes} {message : TerminalMessage}
    (onWay : (packetType :: got) ++ chunk <+: message.frame ++ rest) :
    message.packetType = packetType ∧
      got ++ chunk <+: protoFrame message.serialize ++ rest := by
  rw [TerminalMessage.frame, List.cons_append, List.cons_append] at onWay
  obtain ⟨head, tail⟩ := List.cons_prefix_cons.mp onWay
  exact ⟨head.symm, tail⟩

theorem readProto_takes {chunk rest : Bytes} {message : TerminalMessage}
    (asks : 0 < handler.asks) (few : chunk.length ≤ handler.asks)
    (fits : message.Fits)
    (onWay : handler.phase.collected ++ chunk <+: message.frame ++ rest) :
    handler.Takes chunk message (handler.readProto chunk) := by
  cases phase : handler.phase with
  | readingBuffer got =>
      rw [phase] at onWay
      obtain ⟨kind, inFrame⟩ := same_kind onWay
      cases message with
      | info ti => exact absurd kind (show TERMINAL_INFO ≠ TERMINAL_BUFFER by decide)
      | buffer tb =>
          rcases frameStatus_chunk fits inFrame (asks_buffer phase asks) few with
            ⟨whole, status⟩ | ⟨left, status⟩
          · have isFrame : handler.phase.collected ++ chunk =
                (TerminalMessage.buffer tb).frame := by
              rw [phase]
              exact congrArg (TERMINAL_BUFFER :: ·) whole
            rw [readProto, phase]
            dsimp only
            rw [status]
            exact .whole isFrame
          · rw [readProto, phase]
            dsimp only
            rw [status]
            exact .more (congrArg (fun phase => phase.collected ++ chunk) phase).symm trivial
  | readingInfo got =>
      rw [phase] at onWay
      obtain ⟨kind, inFrame⟩ := same_kind onWay
      cases message with
      | buffer tb => exact absurd kind (show TERMINAL_BUFFER ≠ TERMINAL_INFO by decide)
      | info ti =>
          rcases frameStatus_chunk fits inFrame (asks_info phase asks) few with
            ⟨whole, status⟩ | ⟨left, status⟩
          · have isFrame : handler.phase.collected ++ chunk =
                (TerminalMessage.info ti).frame := by
              rw [phase]
              exact congrArg (TERMINAL_INFO :: ·) whole
            have taken := @Takes.whole handler chunk (.info ti)
              (some (Winsize.ofInfo ti)) isFrame
            rw [readProto, phase]
            dsimp only
            rw [status]
            simpa [TerminalMessage.input] using taken
          · rw [readProto, phase]
            dsimp only
            rw [status]
            exact .more (congrArg (fun phase => phase.collected ++ chunk) phase).symm trivial
  | looping | readingType | draining | ended =>
      rw [UserTerminalHandler.asks, phase] at asks
      cases asks

end UserTerminalHandler

/-! ### The invariant of the link -/

namespace TerminalLink

variable {link after : TerminalLink}

/-- The bytes that have been written and not been decoded are the frames of the messages that
have not been decoded; a message that is too long leaves its type byte. -/
structure Stream (link : TerminalLink) (rest : List TerminalMessage) (tail : Bytes) :
    Prop where
  sent : link.sent = link.handler.decoded ++ rest
  bytes : link.handler.phase.collected ++ (link.pipe ++ link.outgoing) =
    rest.flatMap TerminalMessage.frame ++ tail
  tail : tail = [] ∨ link.aborted ∧ ∃ message : TerminalMessage, tail = [message.packetType]

/-- When the server has written all of its packets, whole frames are under way. -/
theorem Stream.bytes_of_written {rest : List TerminalMessage} {tail : Bytes}
    (stream : link.Stream rest tail) (running : link.aborted = false)
    (written : link.outgoing = []) :
    link.handler.phase.collected ++ link.pipe = rest.flatMap TerminalMessage.frame := by
  have noTail : tail = [] := by
    rcases stream.tail with nothing | ⟨aborted, _⟩
    · exact nothing
    · cases running.symm.trans aborted
  have bytes := stream.bytes
  rw [written, noTail, List.append_nil, List.append_nil] at bytes
  exact bytes

structure Intact (link : TerminalLink) : Prop where
  decoded : link.handler.decoded <+: link.sent
  stream : link.handler.phase ≠ .ended → ∃ rest tail, link.Stream rest tail
  fits : ∀ message ∈ link.sent, message.Fits
  delivered : link.handler.pty ++ link.handler.pendingInput =
    link.handler.decoded.flatMap TerminalMessage.input
  room : link.handler.phase.ReadsRouter →
    link.handler.pendingInput.length < UserTerminalHandler.maxPendingInput
  bounded : link.handler.pendingInput.length < UserTerminalHandler.maxPendingInput ∨
    ∃ message ∈ link.handler.decoded, link.handler.pendingInput.length <
      UserTerminalHandler.maxPendingInput + message.input.length

theorem Intact.moves (intact : link.Intact) {handler : UserTerminalHandler}
    (delivered : handler.pty ++ handler.pendingInput =
      link.handler.pty ++ link.handler.pendingInput)
    (shrinks : handler.pendingInput.length ≤ link.handler.pendingInput.length)
    (decoded : handler.decoded = link.handler.decoded)
    (goesOn : handler.phase ≠ .ended → link.handler.phase ≠ .ended)
    (collected : handler.phase ≠ .ended →
      handler.phase.collected = link.handler.phase.collected)
    (room : handler.phase.ReadsRouter →
      handler.pendingInput.length < UserTerminalHandler.maxPendingInput) :
    Intact { link with handler := handler } := by
  constructor
  · dsimp only
    rw [decoded]
    exact intact.decoded
  · intro running
    obtain ⟨rest, tail, stream⟩ := intact.stream (goesOn running)
    refine ⟨rest, tail, ?_, ?_, stream.tail⟩
    · dsimp only
      rw [decoded]
      exact stream.sent
    · dsimp only
      rw [collected running]
      exact stream.bytes
  · exact intact.fits
  · dsimp only
    rw [delivered, decoded]
    exact intact.delivered
  · exact room
  · dsimp only
    rw [decoded]
    rcases intact.bounded with small | ⟨message, member, small⟩
    · exact Or.inl (Nat.lt_of_le_of_lt shrinks small)
    · exact Or.inr ⟨message, member, Nat.lt_of_le_of_lt shrinks small⟩

theorem Intact.idles (intact : link.Intact) {handler : UserTerminalHandler}
    {next : HandlerPhase} (idle : handler.Idle next)
    (delivered : handler.pty ++ handler.pendingInput =
      link.handler.pty ++ link.handler.pendingInput)
    (shrinks : handler.pendingInput.length ≤ link.handler.pendingInput.length)
    (decoded : handler.decoded = link.handler.decoded)
    (running : link.handler.phase ≠ .ended) (nothing : link.handler.phase.collected = [])
    (collected : next.collected = [])
    (room : next.ReadsRouter →
      handler.pendingInput.length < UserTerminalHandler.maxPendingInput) :
    Intact { link with handler := handler } := by
  apply intact.moves delivered shrinks decoded (fun _ => running)
  · intro goesOn
    rw [nothing]
    rcases idle with isNext | looping | ended
    · rw [isNext, collected]
    · rw [looping]
      rfl
    · exact absurd ended goesOn
  · intro reads
    rcases idle with isNext | looping | ended
    · exact room (isNext ▸ reads)
    · rw [looping] at reads
      exact reads.elim
    · rw [ended] at reads
      exact reads.elim

theorem Stream.head {rest : List TerminalMessage} {tail : Bytes}
    (stream : link.Stream rest tail) {packetType : UInt8} {others : Bytes}
    (first : rest.flatMap TerminalMessage.frame ++ tail = packetType :: others) :
    packetType = TERMINAL_BUFFER ∨ packetType = TERMINAL_INFO := by
  have isType : ∀ message : TerminalMessage, message.packetType = packetType →
      packetType = TERMINAL_BUFFER ∨ packetType = TERMINAL_INFO := by
    intro message same
    cases message with
    | buffer tb => exact Or.inl same.symm
    | info ti => exact Or.inr same.symm
  cases rest with
  | nil =>
      rcases stream.tail with nothing | ⟨_, message, isLast⟩
      · rw [nothing] at first
        cases first
      · rw [isLast] at first
        cases first
        exact isType message rfl
  | cons message rest =>
      rw [List.flatMap_cons, TerminalMessage.frame, List.cons_append] at first
      exact isType message (List.cons.inj first).1

theorem Intact.readType (intact : link.Intact) {packetType : UInt8} {rest : Bytes}
    (phase : link.handler.phase = .readingType) (isNext : link.pipe = packetType :: rest) :
    Intact
      { link with
        handler := link.handler.readType packetType
        pipe := rest } := by
  have running : link.handler.phase ≠ .ended := by simp [phase]
  have room := intact.room (by rw [phase]; trivial)
  obtain ⟨messages, tail, stream⟩ := intact.stream running
  have bytes := stream.bytes
  rw [phase, isNext] at bytes
  have kinds := stream.head bytes.symm
  have reads : ∀ next : HandlerPhase, next.collected = [packetType] →
      Intact
        { link with
          handler := link.handler.goto next
          pipe := rest } := by
    intro next collected
    refine ⟨intact.decoded, fun _ => ⟨messages, tail, stream.sent, ?_, stream.tail⟩,
      intact.fits, intact.delivered, fun _ => room, intact.bounded⟩
    change next.collected ++ (rest ++ link.outgoing) = _
    rw [collected]
    exact bytes
  unfold UserTerminalHandler.readType
  rcases kinds with rfl | rfl
  · exact reads (.readingBuffer []) rfl
  · exact reads (.readingInfo []) rfl

/-- A byte of the message is there beyond its type byte, so the message is. -/
theorem Stream.message {rest : List TerminalMessage} {tail : Bytes}
    (stream : link.Stream rest tail) (asks : 0 < link.handler.asks)
    (present : 0 < link.pipe.length) :
    ∃ message others, rest = message :: others := by
  cases rest with
  | cons message others => exact ⟨message, others, rfl⟩
  | nil =>
      have typeRead : 0 < link.handler.phase.collected.length := by
        cases phase : link.handler.phase with
        | readingBuffer got => exact Nat.succ_pos _
        | readingInfo got => exact Nat.succ_pos _
        | looping | readingType | draining | ended =>
            rw [UserTerminalHandler.asks, phase] at asks
            cases asks
      have lengths := congrArg List.length stream.bytes
      rw [List.length_append, List.length_append, List.flatMap_nil, List.nil_append] at lengths
      rcases stream.tail with nothing | ⟨_, message, isLast⟩
      · rw [nothing, List.length_nil] at lengths
        omega
      · rw [isLast, List.length_singleton] at lengths
        omega

theorem Intact.readProto (intact : link.Intact) {count : Nat} (some : 0 < count)
    (few : count ≤ link.handler.asks) (present : count ≤ link.pipe.length) :
    Intact
      { link with
        handler := link.handler.readProto (link.pipe.take count)
        pipe := link.pipe.drop count } := by
  have asks : 0 < link.handler.asks := Nat.lt_of_lt_of_le some few
  have reads : link.handler.phase.ReadsRouter := by
    cases phase : link.handler.phase with
    | readingType | readingBuffer got | readingInfo got => trivial
    | looping | draining | ended =>
        rw [UserTerminalHandler.asks, phase] at asks
        cases asks
  have running : link.handler.phase ≠ .ended := by
    intro ended
    rw [ended] at reads
    exact reads
  have room := intact.room reads
  obtain ⟨rest, tail, stream⟩ := intact.stream running
  obtain ⟨message, others, rfl⟩ := stream.message asks (Nat.lt_of_lt_of_le some present)
  have isSent : message ∈ link.sent := by
    rw [stream.sent]
    exact List.mem_append_right _ List.mem_cons_self
  have bytes := stream.bytes
  rw [List.flatMap_cons, List.append_assoc, ← List.take_append_drop count link.pipe,
    List.append_assoc, ← List.append_assoc] at bytes
  have takes := UserTerminalHandler.readProto_takes asks
    (Nat.le_trans (List.length_take_le count link.pipe) few) (intact.fits message isSent)
    (⟨_, bytes⟩ : _ <+: _)
  generalize link.handler.readProto (link.pipe.take count) = handler at takes ⊢
  cases takes with
  | @more phase collected stillReads =>
      refine ⟨intact.decoded, fun _ => ⟨message :: others, tail, stream.sent, ?_, stream.tail⟩,
        intact.fits, intact.delivered, fun _ => room, intact.bounded⟩
      change phase.collected ++ (link.pipe.drop count ++ link.outgoing) = _
      rw [collected, bytes, List.flatMap_cons, List.append_assoc]
  | @whole window isFrame =>
      rw [isFrame] at bytes
      have sent : link.sent = (link.handler.decoded ++ [message]) ++ others := by
        rw [stream.sent, List.append_assoc, List.singleton_append]
      constructor
      · rw [sent]
        exact List.prefix_append _ _
      · exact fun _ => ⟨others, tail, sent, List.append_cancel_left bytes, stream.tail⟩
      · exact intact.fits
      · dsimp only
        rw [← List.append_assoc, intact.delivered, List.flatMap_append, List.flatMap_cons,
          List.flatMap_nil, List.append_nil]
      · exact fun impossible => impossible.elim
      · refine Or.inr ⟨message, List.mem_append_right _ (List.mem_singleton.mpr rfl), ?_⟩
        dsimp only
        rw [List.length_append]
        exact Nat.add_lt_add_right room _

theorem Intact.step (intact : link.Intact) {event : TerminalEvent}
    (step : Step link event after) : after.Intact := by
  cases step with
  | @forward message running written fits =>
      refine ⟨intact.decoded.trans (List.prefix_append _ _), ?_, ?_, intact.delivered,
        intact.room, intact.bounded⟩
      · intro goesOn
        obtain ⟨rest, tail, stream⟩ := intact.stream goesOn
        refine ⟨rest ++ [message], [], ?_, ?_, Or.inl rfl⟩
        · dsimp only
          rw [stream.sent, List.append_assoc]
        · dsimp only
          rw [← List.append_assoc, stream.bytes_of_written running written]
          simp
      · intro other member
        rcases List.mem_append.mp member with earlier | newest
        · exact intact.fits other earlier
        · cases List.mem_singleton.mp newest
          exact fits
  | @oversized message running written long =>
      refine ⟨intact.decoded, ?_, intact.fits, intact.delivered, intact.room, intact.bounded⟩
      intro goesOn
      obtain ⟨rest, tail, stream⟩ := intact.stream goesOn
      refine ⟨rest, [message.packetType], stream.sent, ?_, Or.inr ⟨rfl, message, rfl⟩⟩
      dsimp only
      rw [← List.append_assoc, stream.bytes_of_written running written]
  | @write count =>
      refine ⟨intact.decoded, ?_, intact.fits, intact.delivered, intact.room, intact.bounded⟩
      intro goesOn
      obtain ⟨rest, tail, stream⟩ := intact.stream goesOn
      refine ⟨rest, tail, stream.sent, ?_, stream.tail⟩
      dsimp only
      rw [List.append_assoc, List.take_append_drop]
      exact stream.bytes
  | @iterate answers phase =>
      obtain ⟨keeps, idle⟩ := UserTerminalHandler.iterate_cases link.handler answers
      apply intact.idles idle
      · rw [keeps.pty, keeps.pendingInput]
      · exact Nat.le_of_eq (congrArg List.length keeps.pendingInput)
      · exact keeps.decoded
      · simp [phase]
      · rw [phase]
        rfl
      · exact UserTerminalHandler.routerTurn_collected _ _
      · intro reads
        rw [keeps.pendingInput]
        exact UserTerminalHandler.room_of_routerTurn reads
  | readType phase isNext => exact intact.readType phase isNext
  | @readTypeFails answer phase =>
      obtain ⟨keeps, idle⟩ := UserTerminalHandler.readTypeFails_cases link.handler answer
      apply intact.idles idle
      · rw [keeps.pty, keeps.pendingInput]
      · exact Nat.le_of_eq (congrArg List.length keeps.pendingInput)
      · exact keeps.decoded
      · simp [phase]
      · rw [phase]
        rfl
      · rfl
      · exact fun reads => reads.elim
  | readProto some few present => exact intact.readProto some few present
  | readProtoFails _ =>
      apply intact.moves
      · rfl
      · exact Nat.le_refl _
      · rfl
      · exact fun running => absurd rfl running
      · exact fun running => absurd rfl running
      · exact fun reads => reads.elim
  | @drain answer phase =>
      obtain ⟨delivered, shrinks, decoded, idle⟩ :=
        UserTerminalHandler.drain_cases link.handler answer
      apply intact.idles idle delivered shrinks decoded
      · simp [phase]
      · rw [phase]
        rfl
      · rfl
      · exact fun reads => reads.elim
  | shutdown =>
      apply intact.moves
      · rfl
      · exact Nat.le_refl _
      · rfl
      · exact fun running => running
      · exact fun _ => rfl
      · exact intact.room

theorem intact_of_reachable (reached : terminalSystem.Reachable link) : link.Intact := by
  induction reached with
  | start initial =>
      obtain ⟨noratelimit, lastSecond, rfl⟩ := initial
      constructor
      · exact List.prefix_refl []
      · exact fun _ => ⟨[], [], rfl, rfl, Or.inl rfl⟩
      · intro message member
        cases member
      · rfl
      · exact fun reads => reads.elim
      · exact Or.inl (show 0 < UserTerminalHandler.maxPendingInput by decide)
  | next _ _ step ih => exact ih.step step

end TerminalLink

/-! ### Keystrokes -/

/-- `handler` has what `sent` says, in order; it has all of it when nothing is on the way. -/
structure KeystrokesIntact (link : TerminalLink) : Prop where
  decoded : link.handler.decoded <+: link.sent
  complete : link.handler.phase = .looping → link.pipe = [] → link.outgoing = [] →
    link.handler.decoded = link.sent
  delivered : link.handler.pty ++ link.handler.pendingInput =
    link.handler.decoded.flatMap TerminalMessage.input
  bounded : link.handler.pendingInput.length < UserTerminalHandler.maxPendingInput ∨
    ∃ message ∈ link.sent, link.handler.pendingInput.length <
      UserTerminalHandler.maxPendingInput + message.input.length

/-- Whatever the kernel answers, the pty gets what the client typed. -/
theorem keystrokes_intact {link : TerminalLink} (reached : terminalSystem.Reachable link) :
    KeystrokesIntact link := by
  have intact := TerminalLink.intact_of_reachable reached
  constructor
  · exact intact.decoded
  · intro phase noPipe nothingOutgoing
    have running : link.handler.phase ≠ .ended := by simp [phase]
    obtain ⟨rest, tail, stream⟩ := intact.stream running
    have bytes := stream.bytes
    rw [phase, noPipe, nothingOutgoing] at bytes
    cases rest with
    | nil => rw [stream.sent, List.append_nil]
    | cons message others => cases bytes
  · exact intact.delivered
  · rcases intact.bounded with small | ⟨message, member, small⟩
    · exact Or.inl small
    · exact Or.inr ⟨message, intact.decoded.subset member, small⟩

/-! ### One key -/

def oneKey : TerminalMessage :=
  .buffer { buffer := some [97] }

def routerOnly : SelectAnswers :=
  { routerWritable := true
    masterReady := false
    routerReady := true
    currentSecond := 0
    read := .failed .eagain
    writeAll := .ok () }

/-- The handler when it has read the type byte of the key's message. -/
def oneKeyTyped : TerminalLink :=
  { handler := ((UserTerminalHandler.start false 0).iterate routerOnly).readType TERMINAL_BUFFER
    sent := [oneKey]
    outgoing := []
    pipe := protoFrame oneKey.serialize
    aborted := false }

def oneKeyRead : TerminalLink :=
  { oneKeyTyped with
    handler := (oneKeyTyped.handler.readProto (littleEndian 8 3)).readProto [10, 1, 97]
    pipe := [] }

def oneKeyDrained : TerminalLink :=
  { oneKeyRead with handler := oneKeyRead.handler.drain (.wrote 1) }

theorem oneKeyTyped_reachable : terminalSystem.Reachable oneKeyTyped := by
  have start : terminalSystem.Reachable
      { handler := .start false 0, sent := [], outgoing := [], pipe := [], aborted := false } :=
    .start ⟨false, 0, rfl⟩
  have fits : oneKey.Fits := by
    unfold TerminalMessage.Fits
    decide
  have forwarded := start.next (.forward rfl rfl fits)
  have written := forwarded.next (@TerminalLink.Step.write _ 12)
  have selected := written.next (@TerminalLink.Step.iterate _ routerOnly rfl)
  exact selected.next (@TerminalLink.Step.readType _ TERMINAL_BUFFER _ rfl rfl)

theorem oneKeyDrained_reachable : terminalSystem.Reachable oneKeyDrained := by
  have sized := oneKeyTyped_reachable.next
    (@TerminalLink.Step.readProto _ 8 (by decide) (by decide) (by decide))
  have whole := sized.next
    (@TerminalLink.Step.readProto _ 3 (by decide) (by decide +kernel) (by decide +kernel))
  exact whole.next (@TerminalLink.Step.drain _ (.wrote 1) (by decide +kernel))

/-- The key is written to the pty. -/
theorem keystrokes_intact_one_key :
    oneKeyDrained.handler.pty = [97] ∧ KeystrokesIntact oneKeyDrained :=
  ⟨by decide +kernel, keystrokes_intact oneKeyDrained_reachable⟩

end EternalTerminal
