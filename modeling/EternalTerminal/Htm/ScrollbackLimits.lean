/-
The bounds of the scrollback, and what is left of the output within them.

`pollUserTerminal` once more, with every access to a container that could be empty as a
failure.  The count of characters is kept by hand, and it is what keeps the second loop
from an empty buffer.
-/

import EternalTerminal.Htm.ScrollbackReplay

namespace EternalTerminal

open Library

namespace TerminalHandler

/-! ### Accesses that need an element -/

/-- `tokens.front()`. -/
def front : List Bytes → Except String Bytes
  | [] => .error "Front of an empty container"
  | token :: _ => .ok token

def appendTokensChecked (buffer tokens : List Bytes) : Except String (List Bytes) :=
  match buffer.getLast? with
  | none => .ok tokens
  | some last => do
      let token ← front tokens
      pure (buffer.dropLast ++ (last ++ token) :: tokens.tail)

/-- The first loop, over the lines that are too many, with their erasure. -/
def eraseLines : Nat → List Bytes → Int → Except String (List Bytes × Int)
  | 0, buffer, bufferLength => .ok (buffer, bufferLength)
  | _ + 1, [], _ => .error "Line of an empty buffer"
  | amountToErase + 1, line :: buffer, bufferLength =>
      eraseLines amountToErase buffer (bufferLength - line.length)

/-- The `while` loop over `bufferLength`. -/
def popLines : List Bytes → Int → Except String (List Bytes × Int)
  | [], bufferLength =>
      if bufferLength > MAX_BUFFER_CHARS then .error "Line of an empty buffer"
      else .ok ([], bufferLength)
  | line :: buffer, bufferLength =>
      if bufferLength > MAX_BUFFER_CHARS then popLines buffer (bufferLength - line.length)
      else .ok (line :: buffer, bufferLength)

def receiveChecked (handler : TerminalHandler) (newChars : Bytes) :
    Except String TerminalHandler := do
  let tokens := split 10 newChars
  let buffer ← appendTokensChecked handler.buffer tokens
  let (buffer, bufferLength) ← eraseLines (buffer.length - MAX_BUFFER_LINES) buffer
    (handler.bufferLength + countChars tokens)
  let (buffer, bufferLength) ← popLines buffer bufferLength
  pure { run := handler.run, buffer := buffer, bufferLength := bufferLength }

def pollUserTerminalChecked (handler : TerminalHandler) (poll : Poll) :
    Except String (Bytes × TerminalHandler) :=
  match handler.run, poll with
  | true, .read first rest => do
      let handler ← handler.receiveChecked (first :: rest)
      pure (first :: rest, handler)
  | _, _ => handler.pollUserTerminal poll

def pollAllChecked (handler : TerminalHandler) :
    List Poll → Except String (List Bytes × TerminalHandler)
  | [] => .ok ([], handler)
  | poll :: rest => do
      let (newChars, handler) ← handler.pollUserTerminalChecked poll
      let (chunks, handler) ← pollAllChecked handler rest
      pure (if newChars = [] then chunks else newChars :: chunks, handler)

/-! ### The lines of the whole output -/

/-- What the buffer would be if nothing were ever taken out. -/
def allLines (chunks : List Bytes) : List Bytes :=
  chunks.foldl (fun lines chunk => appendTokens lines (split 10 chunk)) []

/-- The lines at the end of all, of which the first may have lost its start.  A line
that has lost some has lost more than the buffer may hold. -/
inductive Retained (all kept : List Bytes) : Prop
  | lines {former : List Bytes} : all = former ++ kept → (kept = [] → former = []) →
      Retained all kept
  | rest {former later : List Bytes} {lost line : Bytes} : kept = line :: later →
      all = former ++ (lost ++ line) :: later → (lost.length : Int) > MAX_BUFFER_CHARS →
      Retained all kept
  | nothing {former : List Bytes} {lost : Bytes} : kept = [] → all = former ++ [lost] →
      (lost.length : Int) > MAX_BUFFER_CHARS → Retained all kept

/-- The bookkeeping of a buffer after the output of `chunks`. -/
structure Accounted (handler : TerminalHandler) (chunks : List Bytes) : Prop where
  counted : handler.bufferLength = countChars handler.buffer
  lines : handler.buffer.length ≤ MAX_BUFFER_LINES
  chars : countChars handler.buffer ≤ MAX_BUFFER_CHARS
  retained : Retained (allLines chunks) handler.buffer

section

variable {handler final : TerminalHandler} {chunks earlier : List Bytes}
  {all kept buffer tokens later : List Bytes} {line chunk : Bytes}

/-! ### Counting characters -/

theorem countChars_cons (line : Bytes) (buffer : List Bytes) :
    countChars (line :: buffer) = line.length + countChars buffer := by
  simp [countChars]

theorem countChars_append (first second : List Bytes) :
    countChars (first ++ second) = countChars first + countChars second := by
  simp [countChars]

theorem countChars_appendTokens (buffer tokens : List Bytes) :
    countChars (appendTokens buffer tokens) = countChars buffer + countChars tokens := by
  cases tokens with
  | nil =>
      rw [appendTokens_nil]
      exact (Int.add_zero _).symm
  | cons first more =>
      rcases List.eq_nil_or_concat buffer with empty | ⟨former, last, whole⟩
      · rw [empty]
        exact (Int.zero_add _).symm
      · rw [whole, List.concat_eq_append, appendTokens_concat]
        simp only [countChars_append, countChars_cons, List.length_append]
        push_cast
        simp only [countChars, List.map_nil, List.sum_nil]
        omega

theorem countChars_drop (amount : Nat) (buffer : List Bytes) :
    countChars (buffer.drop amount) = countChars buffer - countChars (buffer.take amount) := by
  have whole := countChars_append (buffer.take amount) (buffer.drop amount)
  rw [List.take_append_drop] at whole
  omega

/-! ### The two loops -/

theorem trimLines_buffer (handler : TerminalHandler) :
    handler.trimLines.buffer =
      handler.buffer.drop (handler.buffer.length - MAX_BUFFER_LINES) := by
  unfold trimLines
  dsimp only

theorem trimLines_counted (counted : handler.bufferLength = countChars handler.buffer) :
    handler.trimLines.bufferLength = countChars handler.trimLines.buffer := by
  simp only [trimLines, counted, countChars_drop]

theorem trimLines_length (handler : TerminalHandler) :
    handler.trimLines.buffer.length ≤ MAX_BUFFER_LINES := by
  simp only [trimLines, List.length_drop]
  omega

/-- What the second loop leaves is counted, within the limit, and an end of the buffer. -/
theorem trimChars_spec (run : Bool) (buffer : List Bytes) :
    (trimChars run buffer (countChars buffer)).bufferLength =
        countChars (trimChars run buffer (countChars buffer)).buffer ∧
      countChars (trimChars run buffer (countChars buffer)).buffer ≤ MAX_BUFFER_CHARS ∧
      (trimChars run buffer (countChars buffer)).buffer.length ≤ buffer.length := by
  induction buffer with
  | nil =>
      have none : countChars [] ≤ MAX_BUFFER_CHARS := by decide
      exact ⟨rfl, none, Nat.le_refl 0⟩
  | cons line buffer ih =>
      unfold trimChars
      split
      · have fewer : countChars (line :: buffer) - line.length = countChars buffer := by
          rw [countChars_cons]
          omega
        rw [fewer]
        obtain ⟨counted, chars, lines⟩ := ih
        exact ⟨counted, chars, Nat.le_succ_of_le lines⟩
      · rename_i within
        exact ⟨rfl, Int.not_lt.mp within, Nat.le_refl _⟩

/-! ### What is retained -/

theorem appendTokens_append (former : List Bytes) (nonempty : kept ≠ []) (tokens : List Bytes) :
    appendTokens (former ++ kept) tokens = former ++ appendTokens kept tokens := by
  cases tokens with
  | nil => rw [appendTokens_nil, appendTokens_nil]
  | cons first more =>
      rcases List.eq_nil_or_concat kept with empty | ⟨front, last, whole⟩
      · exact absurd empty nonempty
      · rw [whole, List.concat_eq_append, ← List.append_assoc, appendTokens_concat,
          appendTokens_concat, List.append_assoc]

theorem appendTokens_cons (line : Bytes) (later tokens : List Bytes) :
    ∃ line' later', appendTokens (line :: later) tokens = line' :: later' ∧
      ∀ lost : Bytes, appendTokens ((lost ++ line) :: later) tokens =
        (lost ++ line') :: later' := by
  cases tokens with
  | nil => exact ⟨line, later, appendTokens_nil _, fun _ => appendTokens_nil _⟩
  | cons first more =>
      cases later with
      | nil =>
          refine ⟨line ++ first, more, rfl, ?_⟩
          intro lost
          show ((lost ++ line) ++ first) :: more = _
          rw [List.append_assoc]
      | cons second rest =>
          have apart (start : Bytes) : appendTokens (start :: second :: rest) (first :: more) =
              start :: appendTokens (second :: rest) (first :: more) :=
            appendTokens_append [start] (List.cons_ne_nil second rest) (first :: more)
          exact ⟨line, _, apart line, fun lost => apart (lost ++ line)⟩

theorem Retained.append (retained : Retained all kept) (nonempty : tokens ≠ []) :
    Retained (appendTokens all tokens) (appendTokens kept tokens) := by
  cases retained with
  | @lines former whole start =>
      by_cases empty : kept = []
      · rw [whole, start empty]
        exact .lines rfl fun _ => rfl
      · rw [whole, appendTokens_append former empty]
        obtain ⟨line, later, kept⟩ := List.exists_cons_of_ne_nil empty
        obtain ⟨line', later', appended, _⟩ := appendTokens_cons line later tokens
        apply Retained.lines rfl
        rw [kept, appended]
        exact fun impossible => absurd impossible (List.cons_ne_nil _ _)
  | @rest former later lost line isKept whole long =>
      obtain ⟨line', later', appended, others⟩ := appendTokens_cons line later tokens
      rw [isKept, appended, whole, appendTokens_append former (List.cons_ne_nil _ _), others lost]
      exact .rest rfl rfl long
  | @nothing former lost isKept whole long =>
      obtain ⟨first, more, same⟩ := List.exists_cons_of_ne_nil nonempty
      rw [isKept, whole, same, appendTokens_concat]
      exact .rest rfl rfl long

/-- The first line goes, if another one stays or it is longer than the buffer may be. -/
theorem Retained.pop (retained : Retained all (line :: later))
    (allowed : later ≠ [] ∨ (line.length : Int) > MAX_BUFFER_CHARS) : Retained all later := by
  cases retained with
  | @lines former whole _ =>
      by_cases last : later = []
      · have long := allowed.resolve_left (not_not.mpr last)
        exact .nothing last (last ▸ whole) long
      · rw [List.append_cons] at whole
        exact .lines whole fun empty => absurd empty last
  | @rest former _ lost start isKept whole long =>
      obtain ⟨rfl, rfl⟩ := List.cons.inj isKept
      by_cases last : later = []
      · refine .nothing last (last ▸ whole) ?_
        rw [List.length_append]
        omega
      · rw [List.append_cons] at whole
        exact .lines whole fun empty => absurd empty last
  | nothing isKept => cases isKept

theorem Retained.drop (retained : Retained all kept) {amount : Nat} (fewer : amount < kept.length) :
    Retained all (kept.drop amount) := by
  induction amount with
  | zero => exact retained
  | succ amount ih =>
      have before := ih (Nat.lt_of_succ_lt fewer)
      rw [List.drop_eq_getElem_cons (Nat.lt_of_succ_lt fewer)] at before
      apply before.pop
      left
      intro empty
      have none := List.drop_eq_nil_iff.mp empty
      omega

theorem Retained.trimLines (retained : Retained all handler.buffer) :
    Retained all handler.trimLines.buffer := by
  have some : 0 < MAX_BUFFER_LINES := by decide
  rw [trimLines_buffer]
  by_cases empty : handler.buffer = []
  · rw [empty] at retained ⊢
    rw [List.drop_nil]
    exact retained
  · have lines := List.length_pos_of_ne_nil empty
    have fewer : handler.buffer.length - MAX_BUFFER_LINES < handler.buffer.length := by omega
    exact retained.drop fewer

/-- The second loop takes a last line only if it is too long alone. -/
theorem Retained.trimChars (retained : Retained all buffer) (run : Bool) :
    Retained all (TerminalHandler.trimChars run buffer (countChars buffer)).buffer := by
  induction buffer with
  | nil => exact retained
  | cons line buffer ih =>
      unfold TerminalHandler.trimChars
      split
      · rename_i long
        have fewer : countChars (line :: buffer) - line.length = countChars buffer := by
          rw [countChars_cons]
          omega
        rw [fewer]
        apply ih
        apply retained.pop
        by_cases last : buffer = []
        · right
          rw [last, countChars_cons] at long
          simpa [countChars] using long
        · exact Or.inl last
      · exact retained

/-! ### No access to an empty container -/

theorem split_ne_nil (nonempty : chunk ≠ []) : split 10 chunk ≠ [] := by
  rw [split_eq_items]
  exact fun none => nonempty (items_eq_nil_iff.mp none)

theorem appendTokensChecked_eq (nonempty : tokens ≠ []) :
    appendTokensChecked buffer tokens = .ok (appendTokens buffer tokens) := by
  cases tokens with
  | nil => exact absurd rfl nonempty
  | cons first more =>
      unfold appendTokensChecked appendTokens
      cases buffer.getLast? <;> rfl

theorem eraseLines_eq {amount : Nat} (enough : amount ≤ buffer.length) (bufferLength : Int) :
    eraseLines amount buffer bufferLength =
      .ok (buffer.drop amount, bufferLength - countChars (buffer.take amount)) := by
  induction amount generalizing buffer bufferLength with
  | zero => simp [eraseLines, countChars]
  | succ amount ih =>
      cases buffer with
      | nil => cases enough
      | cons line buffer =>
          rw [eraseLines, ih (Nat.le_of_succ_le_succ enough), List.take_succ_cons,
            countChars_cons, List.drop_succ_cons, Int.sub_sub]

/-- While too many characters are counted, there is a line to count. -/
theorem popLines_eq (run : Bool) {bufferLength : Int}
    (counted : bufferLength = countChars buffer) :
    popLines buffer bufferLength =
      .ok ((trimChars run buffer bufferLength).buffer,
        (trimChars run buffer bufferLength).bufferLength) := by
  induction buffer generalizing bufferLength with
  | nil =>
      have none : ¬ bufferLength > MAX_BUFFER_CHARS := by
        rw [counted]
        decide
      rw [popLines, if_neg none]
      rfl
  | cons line buffer ih =>
      unfold popLines trimChars
      split
      · apply ih
        rw [counted, countChars_cons]
        omega
      · rfl

theorem trimChars_run (run : Bool) (buffer : List Bytes) (bufferLength : Int) :
    (trimChars run buffer bufferLength).run = run := by
  induction buffer generalizing bufferLength with
  | nil => rfl
  | cons line buffer ih =>
      unfold trimChars
      split
      · exact ih _
      · rfl

theorem receiveChecked_eq (counted : handler.bufferLength = countChars handler.buffer)
    (nonempty : chunk ≠ []) : handler.receiveChecked chunk = .ok (handler.receive chunk) := by
  have whole : handler.bufferLength + countChars (split 10 chunk) =
      countChars (appendTokens handler.buffer (split 10 chunk)) := by
    rw [counted, countChars_appendTokens]
  unfold receiveChecked receive trimLines
  dsimp only
  rw [appendTokensChecked_eq (split_ne_nil nonempty), whole]
  generalize appendTokens handler.buffer (split 10 chunk) = buffer
  simp only [bind, Except.bind, eraseLines_eq (Nat.sub_le buffer.length MAX_BUFFER_LINES)]
  generalize buffer.length - MAX_BUFFER_LINES = amount
  rw [← countChars_drop, popLines_eq handler.run rfl]
  have run := trimChars_run handler.run (buffer.drop amount) (countChars (buffer.drop amount))
  generalize trimChars handler.run (buffer.drop amount) (countChars (buffer.drop amount)) =
    trimmed at run ⊢
  rw [← run]
  rfl

theorem pollUserTerminalChecked_eq (counted : handler.bufferLength = countChars handler.buffer)
    (poll : Poll) : handler.pollUserTerminalChecked poll = handler.pollUserTerminal poll := by
  unfold pollUserTerminalChecked
  split
  · rename_i first rest running
    rw [receiveChecked_eq counted (List.cons_ne_nil first rest), pollUserTerminal, running]
    rfl
  · rfl

/-! ### Every run -/

theorem allLines_concat (chunks : List Bytes) (chunk : Bytes) :
    allLines (chunks ++ [chunk]) = appendTokens (allLines chunks) (split 10 chunk) := by
  rw [allLines, List.foldl_append]
  rfl

theorem accounted_create : create.Accounted [] := by
  constructor
  · rfl
  · exact Nat.zero_le _
  · decide
  · exact .lines rfl fun _ => rfl

def withTokens (handler : TerminalHandler) (tokens : List Bytes) : TerminalHandler :=
  { handler with
    buffer := appendTokens handler.buffer tokens
    bufferLength := handler.bufferLength + countChars tokens }

theorem receive_eq (counted : handler.bufferLength = countChars handler.buffer) (chunk : Bytes) :
    handler.receive chunk =
      trimChars handler.run (handler.withTokens (split 10 chunk)).trimLines.buffer
        (countChars (handler.withTokens (split 10 chunk)).trimLines.buffer) := by
  have whole : (handler.withTokens (split 10 chunk)).bufferLength =
      countChars (handler.withTokens (split 10 chunk)).buffer := by
    simp only [withTokens, counted, countChars_appendTokens]
  rw [← trimLines_counted whole]
  simp only [receive, trimLines, withTokens]

theorem accounted_receive (accounted : handler.Accounted chunks) (nonempty : chunk ≠ []) :
    (handler.receive chunk).Accounted (chunks ++ [chunk]) := by
  have appended : Retained (allLines (chunks ++ [chunk]))
      (handler.withTokens (split 10 chunk)).buffer := by
    rw [allLines_concat]
    exact accounted.retained.append (split_ne_nil nonempty)
  rw [receive_eq accounted.counted]
  generalize handler.withTokens (split 10 chunk) = filled at appended ⊢
  obtain ⟨counted, chars, fewerLines⟩ := trimChars_spec handler.run filled.trimLines.buffer
  constructor
  · exact counted
  · exact Nat.le_trans fewerLines (trimLines_length filled)
  · exact chars
  · exact appended.trimLines.trimChars handler.run

theorem accounted_poll {poll : Poll} {newChars : Bytes} {after : TerminalHandler}
    (accounted : handler.Accounted chunks)
    (polled : handler.pollUserTerminal poll = .ok (newChars, after)) :
    after.Accounted (chunks ++ if newChars = [] then [] else [newChars]) := by
  rcases pollUserTerminal_cases polled with ⟨none, sameBuffer, sameLength⟩ | ⟨some, received⟩
  · rw [if_pos none, List.append_nil]
    constructor
    · rw [sameBuffer, sameLength]
      exact accounted.counted
    · exact sameBuffer ▸ accounted.lines
    · exact sameBuffer ▸ accounted.chars
    · exact sameBuffer ▸ accounted.retained
  · rw [if_neg some, received]
    exact accounted_receive accounted some

theorem accounted_pollAll {polls : List Poll} (accounted : handler.Accounted earlier) :
    handler.pollAllChecked polls = handler.pollAll polls ∧
      ∀ chunks final, handler.pollAll polls = .ok (chunks, final) →
        final.Accounted (earlier ++ chunks) := by
  induction polls generalizing handler earlier with
  | nil =>
      refine ⟨rfl, ?_⟩
      intro chunks final ran
      cases ran
      rw [List.append_nil]
      exact accounted
  | cons poll rest ih =>
      constructor
      · rw [pollAllChecked, pollAll, pollUserTerminalChecked_eq accounted.counted]
        cases polled : handler.pollUserTerminal poll with
        | error message => rfl
        | ok result =>
            obtain ⟨newChars, after⟩ := result
            have later := (ih (accounted_poll accounted polled)).1
            show (after.pollAllChecked rest >>= _) = (after.pollAll rest >>= _)
            rw [later]
      · intro chunks final ran
        obtain ⟨newChars, after, later, polled, more, whole⟩ := pollAll_cons ran
        have accountedLater := (ih (accounted_poll accounted polled)).2 later final more
        rw [whole]
        by_cases none : newChars = []
        · rw [if_pos none] at accountedLater ⊢
          rw [List.append_nil] at accountedLater
          exact accountedLater
        · rw [if_neg none] at accountedLater ⊢
          rw [List.append_assoc, List.singleton_append] at accountedLater
          exact accountedLater

end

/-- After every run of polls the characters are counted, the buffer is within its limits and
holds the end of the output's lines, of which only the first may lack a start, and then one
longer than the buffer may be; and no poll has looked for an element in an empty container. -/
theorem scrollback_accounted (polls : List Poll) :
    create.pollAllChecked polls = create.pollAll polls ∧
      ∀ chunks final, create.pollAll polls = .ok (chunks, final) → final.Accounted chunks :=
  accounted_pollAll accounted_create

/-! ### A line that is too long -/

def BUF_SIZE : Nat := 16 * 1024

def readOf : Bytes → Poll
  | [] => .quiet
  | first :: rest => .read first rest

def ofLine (line : Bytes) : TerminalHandler :=
  { run := true
    buffer := [line]
    bufferLength := line.length }

section

variable {chunks : List Bytes} {line chunk : Bytes}

theorem split_of_not_mem (nonempty : chunk ≠ []) (free : 10 ∉ chunk) :
    split 10 chunk = [chunk] := by
  rw [split_eq_items, items_of_not_mem free nonempty]

theorem trimChars_line (line : Bytes) :
    trimChars true [line] line.length =
      if (line.length : Int) > MAX_BUFFER_CHARS then create else ofLine line := by
  unfold trimChars
  rw [Int.sub_self]
  rfl

theorem trimLines_one {handler : TerminalHandler} (one : handler.buffer = [line]) :
    handler.trimLines = handler := by
  have few : 1 ≤ MAX_BUFFER_LINES := by decide
  apply trimLines_of_le
  rw [one]
  exact few

theorem receive_create (nonempty : chunk ≠ []) (free : 10 ∉ chunk) :
    create.receive chunk = trimChars true [chunk] chunk.length := by
  have none : countChars [chunk] = chunk.length := by simp [countChars]
  rw [receive, split_of_not_mem nonempty free, trimLines_one rfl]
  show trimChars true [chunk] (0 + countChars [chunk]) = _
  rw [none, Int.zero_add]

theorem receive_ofLine (nonempty : chunk ≠ []) (free : 10 ∉ chunk) :
    (ofLine line).receive chunk = trimChars true [line ++ chunk] (line ++ chunk).length := by
  have one : countChars [chunk] = chunk.length := by simp [countChars]
  rw [receive, split_of_not_mem nonempty free, trimLines_one rfl]
  show trimChars true [line ++ chunk] (line.length + countChars [chunk]) = _
  rw [one, List.length_append, Nat.cast_add]

theorem pollAll_concat {handler middle : TerminalHandler} {polls : List Poll}
    (ran : handler.pollAll polls = .ok (chunks, middle)) (running : middle.run = true)
    (nonempty : chunk ≠ []) :
    handler.pollAll (polls ++ [readOf chunk]) = .ok (chunks ++ [chunk], middle.receive chunk) := by
  induction polls generalizing handler chunks with
  | nil =>
      cases ran
      obtain ⟨first, rest, rfl⟩ := List.exists_cons_of_ne_nil nonempty
      simp [pollAll, pollUserTerminal, readOf, running, bind, Except.bind, pure, Except.pure]
  | cons poll rest ih =>
      obtain ⟨newChars, after, later, polled, more, whole⟩ := pollAll_cons ran
      rw [List.cons_append, pollAll, polled]
      show (after.pollAll (rest ++ [readOf chunk]) >>= _) = _
      rw [ih more, whole]
      by_cases none : newChars = []
      · simp [none, bind, Except.bind, pure, Except.pure]
      · simp [none, bind, Except.bind, pure, Except.pure]

theorem allLines_unbroken (unbroken : ∀ chunk ∈ chunks, chunk ≠ [] ∧ 10 ∉ chunk)
    (some : chunks ≠ []) : allLines chunks = [chunks.flatten] := by
  induction chunks using List.reverseRecOn with
  | nil => exact absurd rfl some
  | append_singleton former chunk ih =>
      obtain ⟨nonempty, free⟩ := unbroken chunk (List.mem_append_right former List.mem_cons_self)
      rw [allLines_concat, split_of_not_mem nonempty free, List.flatten_append,
        List.flatten_singleton]
      by_cases first : former = []
      · rw [first]
        rfl
      · rw [ih (fun chunk member => unbroken chunk (List.mem_append_left _ member)) first]
        rfl

theorem pollAll_unbroken (unbroken : ∀ chunk ∈ chunks, chunk ≠ [] ∧ 10 ∉ chunk)
    (some : chunks ≠ []) (short : (chunks.flatten.length : Int) ≤ MAX_BUFFER_CHARS) :
    create.pollAll (chunks.map readOf) = .ok (chunks, ofLine chunks.flatten) := by
  induction chunks using List.reverseRecOn with
  | nil => exact absurd rfl some
  | append_singleton former chunk ih =>
      obtain ⟨nonempty, free⟩ := unbroken chunk (List.mem_append_right former List.mem_cons_self)
      rw [List.flatten_append, List.flatten_singleton] at short ⊢
      rw [List.map_append, List.map_singleton]
      by_cases first : former = []
      · subst first
        have ran : create.pollAll [] = .ok ([], create) := rfl
        rw [List.flatten_nil, List.nil_append] at short ⊢
        rw [List.map_nil, pollAll_concat ran rfl nonempty, receive_create nonempty free,
          trimChars_line, if_neg (Int.not_lt.mpr short)]
        rfl
      · have shorter : (former.flatten.length : Int) ≤ MAX_BUFFER_CHARS := by
          rw [List.length_append] at short
          omega
        have ran := ih (fun chunk member => unbroken chunk (List.mem_append_left _ member)) first
          shorter
        rw [pollAll_concat ran rfl nonempty, receive_ofLine nonempty free, trimChars_line,
          if_neg (Int.not_lt.mpr short)]

end

/-- A full read without a line break; nine of them are too long for the buffer. -/
def longChunk : Bytes := List.replicate BUF_SIZE 97

theorem longChunk_length : longChunk.length = BUF_SIZE := List.length_replicate

theorem longChunk_unbroken : longChunk ≠ [] ∧ 10 ∉ longChunk := by
  constructor
  · intro empty
    have length := longChunk_length
    rw [empty] at length
    cases length
  · intro member
    have same := (List.mem_replicate.mp member).2
    cases same

theorem eightChunks : ∃ full : List Bytes, full.flatten.length = 8 * BUF_SIZE ∧
    (∀ chunk ∈ full, chunk = longChunk) ∧ full ≠ [] := by
  refine ⟨List.replicate 8 longChunk, ?_, ?_, List.cons_ne_nil _ _⟩
  · simp only [List.length_flatten, List.map_replicate, List.sum_replicate_nat, longChunk_length]
  · exact fun chunk member => (List.mem_replicate.mp member).2

/-- What comes after nine such reads is kept as a line, and is the end of one. -/
theorem scrollback_cuts_line :
    ∃ polls chunks final, create.pollAll polls = .ok (chunks, final) ∧
      (∀ chunk ∈ chunks, chunk ≠ [] ∧ chunk.length ≤ BUF_SIZE) ∧
      ¬ final.buffer <:+ allLines chunks := by
  obtain ⟨nonempty, free⟩ := longChunk_unbroken
  obtain ⟨full, length, allLong, some⟩ := eightChunks
  have eight : create.pollAll (full.map readOf) = .ok (full, ofLine full.flatten) := by
    apply pollAll_unbroken
    · intro chunk member
      rw [allLong chunk member]
      exact ⟨nonempty, free⟩
    · exact some
    · rw [length]
      decide
  have tooLong : ((full.flatten ++ longChunk).length : Int) > MAX_BUFFER_CHARS := by
    rw [List.length_append, length, longChunk_length]
    decide
  have dropped : (ofLine full.flatten).receive longChunk = create := by
    rw [receive_ofLine nonempty free, trimChars_line, if_pos tooLong]
  have nine := pollAll_concat eight rfl nonempty
  rw [dropped] at nine
  have lastNonempty : ([98] : Bytes) ≠ [] := List.cons_ne_nil 98 []
  have lastFree : 10 ∉ ([98] : Bytes) := by decide
  have ten := pollAll_concat nine rfl lastNonempty
  rw [receive_create lastNonempty lastFree, trimChars_line, if_neg (by decide)] at ten
  have chunks : ∀ chunk ∈ full ++ [longChunk] ++ [[98]], chunk = longChunk ∨ chunk = [98] := by
    intro chunk member
    rw [List.mem_append, List.mem_append, List.mem_singleton, List.mem_singleton] at member
    rcases member with (inFull | ninth) | last
    · exact Or.inl (allLong chunk inFull)
    · exact Or.inl ninth
    · exact Or.inr last
  refine ⟨_, _, _, ten, ?_, ?_⟩
  · intro chunk member
    rcases chunks chunk member with long | last
    · rw [long]
      exact ⟨nonempty, Nat.le_of_eq longChunk_length⟩
    · rw [last]
      exact ⟨lastNonempty, by decide⟩
  · have unbroken : ∀ chunk ∈ full ++ [longChunk] ++ [[98]], chunk ≠ [] ∧ 10 ∉ chunk := by
      intro chunk member
      rcases chunks chunk member with long | last
      · rw [long]
        exact ⟨nonempty, free⟩
      · rw [last]
        exact ⟨lastNonempty, lastFree⟩
    rw [allLines_unbroken unbroken (by simp)]
    intro suffix
    have same := suffix.eq_of_length rfl
    have lengths := congrArg List.length (List.singleton_inj.mp same)
    have total : (full ++ [longChunk] ++ [[98]]).flatten.length =
        full.flatten.length + longChunk.length + 1 := by
      simp only [List.flatten_append, List.flatten_singleton, List.length_append,
        List.length_singleton]
    have onlyOne : ([98] : Bytes).length = 1 := rfl
    have more := List.length_pos_of_ne_nil nonempty
    omega

end TerminalHandler

end EternalTerminal
