/-
The scrollback that a client is shown when it attaches, against the output of the shell.

A line break at the end of a read starts no new line in the buffer, so the next read goes on
in the line before it.
-/

import EternalTerminal.Htm.MultiplexerState

namespace EternalTerminal

open Library

namespace TerminalHandler

/-- The polls of a run and the texts that they return, without the empty ones. -/
def pollAll (handler : TerminalHandler) :
    List Poll → Except String (List Bytes × TerminalHandler)
  | [] => .ok ([], handler)
  | poll :: rest => do
      let (newChars, handler) ← handler.pollUserTerminal poll
      let (chunks, handler) ← pollAll handler rest
      pure (if newChars = [] then chunks else newChars :: chunks, handler)

def WithinLimits (output : Bytes) : Prop :=
  (split 10 output).length ≤ MAX_BUFFER_LINES ∧
    countChars (split 10 output) ≤ MAX_BUFFER_CHARS

instance (output : Bytes) : Decidable (WithinLimits output) :=
  inferInstanceAs (Decidable (_ ∧ _))

def keptText (chunks : List Bytes) : Bytes := (chunks.map (withoutFinal 10)).flatten

def Fits (text : Bytes) : Prop :=
  text.count 10 < MAX_BUFFER_LINES ∧ (text.countP (· ≠ 10) : Int) ≤ MAX_BUFFER_CHARS

/-- The buffer after a run that has not reached the limits. -/
structure Holds (handler : TerminalHandler) (chunks : List Bytes) : Prop where
  joined : [10].intercalate handler.buffer = keptText chunks
  noBreak : ∀ line ∈ handler.buffer, 10 ∉ line
  counted : handler.bufferLength = countChars handler.buffer

section

variable {handler final : TerminalHandler} {chunks earlier : List Bytes}
  {buffer tokens : List Bytes} {text chunk output : Bytes}

theorem Fits.of_sublist {part : Bytes} (fits : Fits text) (sub : part.Sublist text) :
    Fits part := by
  obtain ⟨lines, chars⟩ := fits
  have fewerLines := sub.count_le 10
  have fewerChars := sub.countP_le (p := (· ≠ 10))
  exact ⟨by omega, by omega⟩

theorem noBreak_split (text : Bytes) : ∀ line ∈ split 10 text, 10 ∉ line := by
  intro line isLine
  rw [split_eq_items] at isLine
  exact not_mem_of_mem_items isLine

theorem intercalate_split (text : Bytes) :
    [10].intercalate (split 10 text) = withoutFinal 10 text := by
  rw [split_eq_items, intercalate_items]

/-! ### Reading without reaching the limits -/

theorem appendTokens_nil (buffer : List Bytes) : appendTokens buffer [] = buffer := by
  cases last : buffer.getLast? with
  | none => rw [List.getLast?_eq_none_iff.mp last]; rfl
  | some line => simp [appendTokens, last]

theorem appendTokens_concat (front : List Bytes) (last first : Bytes) (more : List Bytes) :
    appendTokens (front ++ [last]) (first :: more) = front ++ (last ++ first) :: more := by
  simp [appendTokens]

theorem intercalate_appendTokens (buffer tokens : List Bytes) :
    [10].intercalate (appendTokens buffer tokens) =
      [10].intercalate buffer ++ [10].intercalate tokens := by
  cases tokens with
  | nil => rw [appendTokens_nil, List.intercalate_nil, List.append_nil]
  | cons first more =>
      rcases List.eq_nil_or_concat buffer with empty | ⟨front, last, whole⟩
      · rw [empty]
        rfl
      · rw [whole, List.concat_eq_append, appendTokens_concat, intercalate_glue]

theorem noBreak_appendTokens (before : ∀ line ∈ buffer, 10 ∉ line)
    (new : ∀ line ∈ tokens, 10 ∉ line) : ∀ line ∈ appendTokens buffer tokens, 10 ∉ line := by
  intro line isLine
  cases tokens with
  | nil => exact before line (appendTokens_nil buffer ▸ isLine)
  | cons first more =>
      rcases List.eq_nil_or_concat buffer with empty | ⟨front, last, whole⟩
      · rw [empty] at isLine
        exact new line isLine
      · rw [List.concat_eq_append] at whole
        subst whole
        rw [appendTokens_concat, List.mem_append, List.mem_cons] at isLine
        rcases isLine with inFront | glued | inMore
        · exact before line (List.mem_append_left [last] inFront)
        · rw [glued, List.mem_append, not_or]
          exact ⟨before last (List.mem_append_right front List.mem_cons_self),
            new first List.mem_cons_self⟩
        · exact new line (List.mem_cons_of_mem first inMore)

theorem countChars_eq_countP (noBreak : ∀ line ∈ buffer, 10 ∉ line) :
    countChars buffer = (([10].intercalate buffer).countP (· ≠ 10) : Nat) := by
  rw [countChars, countP_intercalate noBreak]

theorem length_le_of_fits (noBreak : ∀ line ∈ buffer, 10 ∉ line)
    (fits : Fits ([10].intercalate buffer)) : buffer.length ≤ MAX_BUFFER_LINES := by
  by_cases empty : buffer = []
  · simp [empty]
  · have lines := count_intercalate noBreak empty
    have fewer := fits.1
    omega

theorem trimLines_of_le (short : handler.buffer.length ≤ MAX_BUFFER_LINES) :
    handler.trimLines = handler := by
  have none : handler.buffer.length - MAX_BUFFER_LINES = 0 := Nat.sub_eq_zero_of_le short
  simp [trimLines, none, countChars]

theorem trimChars_of_le {run : Bool} {bufferLength : Int}
    (short : bufferLength ≤ MAX_BUFFER_CHARS) :
    trimChars run buffer bufferLength =
      { run := run, buffer := buffer, bufferLength := bufferLength } := by
  cases buffer with
  | nil => rfl
  | cons line buffer => rw [trimChars, if_neg (Int.not_lt.mpr short)]

theorem keptText_append (first second : List Bytes) :
    keptText (first ++ second) = keptText first ++ keptText second := by
  rw [keptText, List.map_append, List.flatten_append]
  rfl

theorem holds_receive (holds : handler.Holds chunks) (fits : Fits (keptText (chunks ++ [chunk]))) :
    (handler.receive chunk).Holds (chunks ++ [chunk]) := by
  let buffer := appendTokens handler.buffer (split 10 chunk)
  have noBreak : ∀ line ∈ buffer, 10 ∉ line :=
    noBreak_appendTokens holds.noBreak (noBreak_split chunk)
  have joined : [10].intercalate buffer = keptText (chunks ++ [chunk]) := by
    rw [intercalate_appendTokens, holds.joined, intercalate_split, keptText_append]
    simp [keptText]
  have counted : handler.bufferLength + countChars (split 10 chunk) = countChars buffer := by
    rw [holds.counted, countChars_eq_countP holds.noBreak,
      countChars_eq_countP (noBreak_split chunk), countChars_eq_countP noBreak,
      intercalate_appendTokens, List.countP_append, Nat.cast_add]
  rw [← joined] at fits
  have short : buffer.length ≤ MAX_BUFFER_LINES := length_le_of_fits noBreak fits
  have room : handler.bufferLength + countChars (split 10 chunk) ≤ MAX_BUFFER_CHARS := by
    rw [counted, countChars_eq_countP noBreak]
    exact fits.2
  have received : handler.receive chunk =
      { run := handler.run
        buffer := buffer
        bufferLength := handler.bufferLength + countChars (split 10 chunk) } := by
    rw [receive, trimLines_of_le short, trimChars_of_le room]
  rw [received]
  exact
    { joined := joined
      noBreak := noBreak
      counted := counted }

theorem holds_create : create.Holds [] :=
  { joined := rfl
    noBreak := by intro line impossible; cases impossible
    counted := rfl }

/-- A poll returns nothing and leaves the buffer, or it receives what it returns. -/
theorem pollUserTerminal_cases {poll : Poll} {newChars : Bytes} {after : TerminalHandler}
    (polled : handler.pollUserTerminal poll = .ok (newChars, after)) :
    (newChars = [] ∧ after.buffer = handler.buffer ∧
        after.bufferLength = handler.bufferLength) ∨
      (newChars ≠ [] ∧ after = handler.receive newChars) := by
  unfold pollUserTerminal at polled
  by_cases running : handler.run = true
  · rw [if_pos running] at polled
    cases poll with
    | read first rest =>
        cases polled
        exact Or.inr ⟨List.cons_ne_nil first rest, rfl⟩
    | notReaped => cases polled
    | quiet | failed | ended =>
        cases polled
        exact Or.inl ⟨rfl, rfl, rfl⟩
  · rw [if_neg running] at polled
    cases polled
    exact Or.inl ⟨rfl, rfl, rfl⟩

theorem pollAll_cons {poll : Poll} {rest : List Poll}
    (ran : handler.pollAll (poll :: rest) = .ok (chunks, final)) :
    ∃ newChars after later, handler.pollUserTerminal poll = .ok (newChars, after) ∧
      after.pollAll rest = .ok (later, final) ∧
      chunks = if newChars = [] then later else newChars :: later := by
  rw [pollAll] at ran
  cases polled : handler.pollUserTerminal poll with
  | error message =>
      rw [polled] at ran
      cases ran
  | ok result =>
      obtain ⟨newChars, after⟩ := result
      rw [polled] at ran
      cases more : after.pollAll rest with
      | error message =>
          simp only [bind, Except.bind, more] at ran
          cases ran
      | ok result =>
          obtain ⟨later, last⟩ := result
          simp only [bind, Except.bind, more] at ran
          cases ran
          exact ⟨newChars, after, later, rfl, more, rfl⟩

theorem nonempty_of_pollAll {polls : List Poll}
    (ran : handler.pollAll polls = .ok (chunks, final)) : ∀ chunk ∈ chunks, chunk ≠ [] := by
  induction polls generalizing handler chunks with
  | nil =>
      cases ran
      intro chunk impossible
      cases impossible
  | cons poll rest ih =>
      obtain ⟨newChars, after, later, _, more, rfl⟩ := pollAll_cons ran
      have laterChunks := ih more
      by_cases none : newChars = []
      · rw [if_pos none]
        exact laterChunks
      · rw [if_neg none]
        intro chunk isChunk
        cases isChunk with
        | head => exact none
        | tail _ isLater => exact laterChunks chunk isLater

/-- A run that does not reach the limits keeps the lines of all its chunks. -/
theorem holds_pollAll {polls : List Poll} (holds : handler.Holds earlier)
    (ran : handler.pollAll polls = .ok (chunks, final))
    (fits : Fits (keptText (earlier ++ chunks))) : final.Holds (earlier ++ chunks) := by
  induction polls generalizing handler chunks earlier with
  | nil =>
      cases ran
      rw [List.append_nil]
      exact holds
  | cons poll rest ih =>
      obtain ⟨newChars, after, later, polled, more, rfl⟩ := pollAll_cons ran
      rcases pollUserTerminal_cases polled with ⟨none, sameBuffer, sameLength⟩ | ⟨some, received⟩
      · rw [if_pos none] at fits ⊢
        have holdsAfter : after.Holds earlier :=
          { joined := sameBuffer ▸ holds.joined
            noBreak := sameBuffer ▸ holds.noBreak
            counted := by rw [sameBuffer, sameLength, holds.counted] }
        exact ih holdsAfter more fits
      · rw [if_neg some, ← List.singleton_append, ← List.append_assoc] at fits ⊢
        have fitsNow : Fits (keptText (earlier ++ [newChars])) := by
          rw [keptText_append] at fits
          exact fits.of_sublist (List.sublist_append_left _ _)
        have holdsAfter : after.Holds (earlier ++ [newChars]) :=
          received ▸ holds_receive holds fitsNow
        exact ih holdsAfter more fits

/-! ### What is kept of the output -/

theorem keptText_sublist (chunks : List Bytes) : (keptText chunks).Sublist chunks.flatten := by
  induction chunks with
  | nil => exact List.Sublist.refl []
  | cons chunk rest ih => exact (withoutFinal_sublist 10 chunk).append ih

theorem keptText_eq_flatten_iff :
    keptText chunks = chunks.flatten ↔ ∀ chunk ∈ chunks, chunk.getLast? ≠ some 10 := by
  induction chunks with
  | nil => simp [keptText]
  | cons chunk rest ih =>
      rw [List.forall_mem_cons, ← ih, ← withoutFinal_eq_self_iff]
      have start : (withoutFinal 10 chunk).Sublist chunk := withoutFinal_sublist 10 chunk
      have later : (keptText rest).Sublist rest.flatten := keptText_sublist rest
      change withoutFinal 10 chunk ++ keptText rest = chunk ++ rest.flatten ↔ _
      constructor
      · intro same
        have lengths := congrArg List.length same
        rw [List.length_append, List.length_append] at lengths
        have startLength := start.length_le
        have laterLength := later.length_le
        exact ⟨start.eq_of_length (by omega), later.eq_of_length (by omega)⟩
      · intro ⟨sameStart, sameLater⟩
        rw [sameStart, sameLater]

/-- The last chunk, which is not empty, is the only one whose final line break may go. -/
theorem keptText_concat {front : List Bytes} {last : Bytes} (nonempty : last ≠ []) :
    (keptText (front ++ [last])).Sublist (withoutFinal 10 (front ++ [last]).flatten) ∧
      (keptText (front ++ [last]) = withoutFinal 10 (front ++ [last]).flatten ↔
        ∀ chunk ∈ front, chunk.getLast? ≠ some 10) := by
  have whole : withoutFinal 10 (front ++ [last]).flatten =
      front.flatten ++ withoutFinal 10 last := by
    rw [List.flatten_append, List.flatten_singleton, withoutFinal_append _ nonempty]
  have kept : keptText (front ++ [last]) = keptText front ++ withoutFinal 10 last := by
    rw [keptText_append]
    simp [keptText]
  rw [whole, kept, List.append_left_inj, keptText_eq_flatten_iff]
  exact ⟨(keptText_sublist front).append (List.Sublist.refl _), Iff.rfl⟩

theorem keptText_sublist_withoutFinal (nonempty : ∀ chunk ∈ chunks, chunk ≠ []) :
    (keptText chunks).Sublist (withoutFinal 10 chunks.flatten) ∧
      (keptText chunks = withoutFinal 10 chunks.flatten ↔
        ∀ chunk ∈ chunks.dropLast, chunk.getLast? ≠ some 10) := by
  rcases List.eq_nil_or_concat chunks with empty | ⟨front, last, whole⟩
  · subst empty
    simp [keptText, withoutFinal]
  · rw [List.concat_eq_append] at whole
    subst whole
    rw [List.dropLast_concat]
    exact keptText_concat (nonempty last (List.mem_append_right front List.mem_cons_self))

theorem fits_keptText (nonempty : ∀ chunk ∈ chunks, chunk ≠ [])
    (within : WithinLimits chunks.flatten) : Fits (keptText chunks) := by
  obtain ⟨lines, chars⟩ := within
  have sub := (keptText_sublist_withoutFinal nonempty).1
  refine Fits.of_sublist ?_ sub
  by_cases empty : chunks.flatten = []
  · rw [empty]
    simp [Fits, withoutFinal, MAX_BUFFER_LINES, MAX_BUFFER_CHARS]
  · have someLines : split 10 chunks.flatten ≠ [] := by
      rw [split_eq_items]
      exact fun none => empty (items_eq_nil_iff.mp none)
    have breaks := count_intercalate (noBreak_split chunks.flatten) someLines
    rw [countChars_eq_countP (noBreak_split chunks.flatten), intercalate_split] at chars
    rw [intercalate_split] at breaks
    exact ⟨by omega, chars⟩

end

end TerminalHandler

namespace MultiplexerState

open TerminalHandler

def textFor (paneId : Bytes) (messages : List Message) : Bytes :=
  messages.flatMap fun message =>
    match message with
    | .appendToPane id data => if id = paneId then data else []
    | .serverClosePane _ => []

/-- The output as it was written, up to one final line break. -/
def Replays (shown output : Bytes) : Prop := shown = output ∨ shown ++ [10] = output

instance (shown output : Bytes) : Decidable (Replays shown output) :=
  inferInstanceAs (Decidable (_ ∨ _))

section

variable {state : MultiplexerState} {pane : Pane} {paneId : Bytes} {buffer chunks : List Bytes}
  {output : Bytes}

/-! ### The text of a buffer -/

theorem terminalData_foldl {data : Bytes} (some : data ≠ []) (lines : List Bytes) :
    lines.foldl (fun data line => (if data = [] then data else data ++ [10]) ++ line) data =
      [10].intercalate (data :: lines) := by
  induction lines generalizing data with
  | nil => exact List.intercalate_singleton.symm
  | cons line rest ih =>
      have longer : data ++ [10] ++ line ≠ [] := by simp
      rw [List.foldl_cons, if_neg some, ih longer, List.intercalate_cons_cons]
      have glued := intercalate_glue 10 [] (data ++ [10]) line rest
      simpa using glued

theorem terminalData_eq_dropWhile (noBreak : ∀ line ∈ buffer, 10 ∉ line) :
    terminalData buffer = ([10].intercalate buffer).dropWhile (· = 10) := by
  induction buffer with
  | nil => rfl
  | cons line rest ih =>
      have inner := ih fun other isOther => noBreak other (List.mem_cons_of_mem line isOther)
      cases line with
      | nil =>
          have skipped : terminalData ([] :: rest) = terminalData rest := rfl
          rw [skipped, inner]
          cases rest with
          | nil => rfl
          | cons next more => simp [List.intercalate_cons_cons]
      | cons byte line =>
          have other : byte ≠ 10 := fun same =>
            noBreak (byte :: line) List.mem_cons_self (same ▸ List.mem_cons_self)
          have text : terminalData ((byte :: line) :: rest) =
              [10].intercalate ((byte :: line) :: rest) :=
            terminalData_foldl (List.cons_ne_nil byte line) rest
          rw [text, List.intercalate_cons_cons_left,
            List.dropWhile_cons_of_neg (by simpa using other)]

theorem textFor_filterMap (entries : List (Bytes × Pane)) :
    textFor paneId (entries.filterMap bufferMessage) =
      entries.flatMap fun entry =>
        if entry.1 = paneId then terminalData entry.2.terminal.buffer else [] := by
  induction entries with
  | nil => rfl
  | cons entry rest ih =>
      rw [List.flatMap_cons, ← ih]
      by_cases empty : entry.2.terminal.buffer = []
      · have message : bufferMessage entry = none := if_pos empty
        have nothing : terminalData entry.2.terminal.buffer = [] := by rw [empty]; rfl
        rw [List.filterMap_cons_none message, nothing, ite_self, List.nil_append]
      · have message : bufferMessage entry =
            some (.appendToPane entry.1 (terminalData entry.2.terminal.buffer)) := if_neg empty
        rw [List.filterMap_cons_some message]
        rfl

theorem textFor_sendTerminalBuffers (shown : state.panes[paneId]? = some pane) :
    textFor paneId state.sendTerminalBuffers = terminalData pane.terminal.buffer := by
  have isEntry : (paneId, pane) ∈ state.panes.toList :=
    Std.TreeMap.mem_toList_iff_getElem?_eq_some.mpr shown
  have distinct : state.panes.toList.Pairwise fun first second => first.1 ≠ second.1 := by
    refine Std.TreeMap.distinct_keys_toList.imp fun {first second} differ same => differ ?_
    rw [same]
    exact Std.ReflCmp.compare_self
  obtain ⟨front, rest, whole⟩ := List.append_of_mem isEntry
  rw [whole, List.pairwise_append, List.pairwise_cons] at distinct
  obtain ⟨_, ⟨fromHere, _⟩, across⟩ := distinct
  have before : ∀ entry ∈ front, entry.1 ≠ paneId := fun entry isBefore =>
    across entry isBefore (paneId, pane) List.mem_cons_self
  have after : ∀ entry ∈ rest, entry.1 ≠ paneId := fun entry isAfter =>
    (fromHere entry isAfter).symm
  have silent : ∀ entries : List (Bytes × Pane), (∀ entry ∈ entries, entry.1 ≠ paneId) →
      (entries.flatMap fun entry =>
        if entry.1 = paneId then terminalData entry.2.terminal.buffer else []) = [] := by
    intro entries others
    rw [List.flatMap_eq_nil_iff]
    intro entry isEntry
    exact if_neg (others entry isEntry)
  rw [sendTerminalBuffers, textFor_filterMap, whole, List.flatMap_append, List.flatMap_cons,
    silent front before, silent rest after, if_pos rfl]
  simp

/-! ### The replay -/

theorem dropWhile_breaks_eq_self_iff (output : Bytes) :
    (withoutFinal 10 output).dropWhile (· = 10) = withoutFinal 10 output ↔
      (output.head? = some 10 → output = [10]) := by
  match output with
  | [] => simp [withoutFinal]
  | [byte] =>
      by_cases isBreak : byte = 10
      · simp [withoutFinal, isBreak]
      · simp [withoutFinal, isBreak]
  | byte :: next :: rest =>
      have first : ∃ later, withoutFinal 10 (byte :: next :: rest) = byte :: later := by
        unfold withoutFinal
        by_cases ends : (byte :: next :: rest).getLast? = some 10
        · exact ⟨(next :: rest).dropLast, by rw [if_pos ends]; rfl⟩
        · exact ⟨next :: rest, by rw [if_neg ends]⟩
      obtain ⟨later, first⟩ := first
      rw [first]
      by_cases isBreak : byte = 10
      · have shorter := (List.dropWhile_sublist (l := later) (· = (10 : UInt8))).length_le
        have longer : (byte :: later).length = later.length + 1 := rfl
        rw [List.dropWhile_cons_of_pos (by simpa using isBreak)]
        constructor
        · intro same
          rw [same] at shorter
          omega
        · intro short
          simp [isBreak] at short
      · rw [List.dropWhile_cons_of_neg (by simpa using isBreak)]
        simp [isBreak]

/-- Of output within the limits, a pane shows what was written if no chunk but the last ends
with a line break and the first line is not empty. -/
theorem scrollback_replay_iff {polls : List Poll}
    (ran : TerminalHandler.create.pollAll polls = .ok (chunks, pane.terminal))
    (shown : state.panes[paneId]? = some pane) (within : WithinLimits chunks.flatten) :
    Replays (textFor paneId state.sendTerminalBuffers) chunks.flatten ↔
      (∀ chunk ∈ chunks.dropLast, chunk.getLast? ≠ some 10) ∧
        (chunks.flatten.head? = some 10 → chunks.flatten = [10]) := by
  have nonempty : ∀ chunk ∈ chunks, chunk ≠ [] := nonempty_of_pollAll ran
  have holds : pane.terminal.Holds chunks :=
    holds_pollAll holds_create ran (fits_keptText nonempty within)
  obtain ⟨sub, whole⟩ := keptText_sublist_withoutFinal nonempty
  have stripped := List.dropWhile_sublist (l := keptText chunks) (· = (10 : UInt8))
  rw [textFor_sendTerminalBuffers shown, terminalData_eq_dropWhile holds.noBreak, holds.joined,
    ← whole, ← dropWhile_breaks_eq_self_iff]
  constructor
  · intro replays
    have same := (eq_withoutFinal_iff chunks.flatten _).mpr ⟨stripped.trans sub, replays⟩
    have kept : keptText chunks = withoutFinal 10 chunks.flatten :=
      sub.antisymm (same ▸ stripped)
    rw [kept] at same
    exact ⟨kept, same⟩
  · intro ⟨kept, same⟩
    rw [kept, same]
    exact ((eq_withoutFinal_iff chunks.flatten _).mp rfl).2

theorem setTerminal_getElem? (terminal : TerminalHandler)
    (shown : state.panes[paneId]? = some pane) :
    (state.setTerminal paneId terminal).panes[paneId]? =
      some { pane with terminal := terminal } := by
  rw [setTerminal, Std.TreeMap.getElem?_modify_self, shown]
  rfl

theorem create_getElem? (tabId paneId : Bytes) :
    (create tabId paneId).panes[paneId]? =
      some { id := paneId, parentId := tabId, terminal := TerminalHandler.create } := by
  rw [create, Std.TreeMap.getElem?_insertIfNew]
  simp

end

/-- A line that is read in three parts, and the one after it. -/
theorem scrollback_replay_lines :
    Replays (textFor [112] ((create [116] [112]).setTerminal [112]
      { run := true, buffer := [[97, 98], [99]], bufferLength := 3 }).sendTerminalBuffers)
      [97, 98, 10, 99, 10] := by
  have ran : TerminalHandler.create.pollAll
      [.read 97 [], .quiet, .read 98 [10, 99], .read 10 []] =
        .ok ([[97], [98, 10, 99], [10]],
          { run := true, buffer := [[97, 98], [99]], bufferLength := 3 }) := rfl
  have shown := setTerminal_getElem?
    { run := true, buffer := [[97, 98], [99]], bufferLength := 3 } (create_getElem? [116] [112])
  exact (scrollback_replay_iff ran shown (by decide)).mpr ⟨by decide, by decide⟩

/-- The line break between two reads is lost, which one read of the same output keeps. -/
theorem scrollback_loses_break :
    (∃ terminal, TerminalHandler.create.pollAll [.read 97 [10], .read 98 []] =
        .ok ([[97, 10], [98]], terminal) ∧
      WithinLimits [97, 10, 98] ∧
      textFor [112]
          ((create [116] [112]).setTerminal [112] terminal).sendTerminalBuffers = [97, 98] ∧
      ¬ Replays [97, 98] [97, 10, 98]) ∧
    ∃ terminal, TerminalHandler.create.pollAll [.read 97 [10, 98]] =
        .ok ([[97, 10, 98]], terminal) ∧
      textFor [112]
          ((create [116] [112]).setTerminal [112] terminal).sendTerminalBuffers =
        [97, 10, 98] := by
  have shown := fun terminal =>
    textFor_sendTerminalBuffers (setTerminal_getElem? terminal (create_getElem? [116] [112]))
  constructor
  · refine ⟨{ run := true, buffer := [[97, 98]], bufferLength := 2 }, rfl, by decide, ?_, by decide⟩
    rw [shown]
    rfl
  · refine ⟨{ run := true, buffer := [[97], [98]], bufferLength := 2 }, rfl, ?_⟩
    rw [shown]
    rfl

end MultiplexerState

end EternalTerminal
