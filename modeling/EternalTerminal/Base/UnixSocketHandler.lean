/-
`UnixSocketHandler::write`, and `writeAllOrThrow` and `writeAllOrReturn` over it.

What `send` answers and what the clock shows is given, call by call.  The result of a call says
which positions of its buffer have been handed to the kernel, in the order of the `send`s.
-/

import Mathlib.Data.List.Range
import EternalTerminal.Base.SocketHandler

namespace EternalTerminal

/-- At most an `int` of bytes goes into one `send`. -/
def INT_MAX : Nat := 2 ^ 31 - 1

inductive SendAnswer where
  | sent (bytes : Nat)
  | failed (errno : Errno)

/-- One `send`, and the clock as it is read after an EAGAIN. -/
structure SendRound where
  answer : SendAnswer
  now : Nat

/-- One call of `write`: the clock of the loop around it, whether the descriptor is still among
the active sockets, and the clock and the `send`s of the call itself. -/
structure WriteCall where
  currentTime : Nat
  active : Bool
  startTime : Nat
  rounds : List SendRound

/-- `running` is a loop that waits for its next answer. -/
inductive WriteResult where
  | running
  | returned (count : Nat)
  | failed (errno : Errno)

/-- How `writeAllOrThrow` and `writeAllOrReturn` end.  The first returns after `wrote` and
throws "Socket Timeout", "Socket closed during writeAll" and "Failed a call to writeAll" in the
other cases, the second returns `count`, -1, 0 and -1. -/
inductive WriteAllResult where
  | running
  | wrote
  | timedOut
  | closed
  | failed (errno : Errno)

namespace Errno

def Again (errno : Errno) : Prop := errno = .eagain ∨ errno = .ewouldblock

instance (errno : Errno) : Decidable errno.Again := by
  unfold Again
  infer_instance

end Errno

namespace UnixSocketHandler

/-- What a `send` of `asked` bytes takes. -/
def taken (bytes asked : Nat) : Nat := min bytes (min asked INT_MAX)

/-- The loop of `write`; `bytesWritten < int(count)` compares two `int`s. -/
def writeLoop (count startTime : Nat) : List SendRound → Nat → List Nat × WriteResult
  | [], bytesWritten =>
      ([], if (bytesWritten : Int) < toInt32 count then .running else .returned count)
  | round :: later, bytesWritten =>
      if (bytesWritten : Int) < toInt32 count then
        match round.answer with
        | .sent bytes =>
            let w := taken bytes (count - bytesWritten)
            let (handed, result) := writeLoop count startTime later (bytesWritten + w)
            (List.range' bytesWritten w ++ handed, result)
        | .failed errno =>
            if errno.Again then
              if round.now > startTime + 5 then ([], .failed errno)
              else writeLoop count startTime later bytesWritten
            else ([], .failed errno)
      else ([], .returned count)

def write (count : Nat) (call : WriteCall) : List Nat × WriteResult :=
  if call.active then writeLoop count call.startTime call.rounds 0
  else ([], .failed .epipe)

/-- The loop that the two functions share: `checksTime` says whether the 30 seconds count,
`retriesTimedOut` whether an ETIMEDOUT is tried again. -/
def writeAll (checksTime retriesTimedOut : Bool) (count : Nat) :
    Nat → List WriteCall → Nat → List Nat × WriteAllResult
  | _, [], pos => ([], if pos < count then .running else .wrote)
  | startTime, call :: later, pos =>
      if pos < count then
        if checksTime = true ∧ call.currentTime > startTime + 30 then ([], .timedOut)
        else
          let (handed, result) := write (count - pos) call
          let handed := handed.map (pos + ·)
          match result with
          | .running => (handed, .running)
          | .failed errno =>
              if errno.Again ∨ (retriesTimedOut = true ∧ errno = .etimedout) then
                let (more, result) := writeAll checksTime retriesTimedOut count startTime later pos
                (handed ++ more, result)
              else (handed, .failed errno)
          | .returned bytesWritten =>
              if bytesWritten = 0 then (handed, .closed)
              else
                let (more, result) := writeAll checksTime retriesTimedOut count call.currentTime
                  later (pos + bytesWritten)
                (handed ++ more, result)
      else ([], .wrote)

def writeAllOrThrow (timeout : Bool) (count startTime : Nat) (calls : List WriteCall) :
    List Nat × WriteAllResult :=
  writeAll timeout (!timeout) count startTime calls 0

def writeAllOrReturn (count startTime : Nat) (calls : List WriteCall) :
    List Nat × WriteAllResult :=
  writeAll true false count startTime calls 0

/-! ### One call of `write` -/

/-- The bytes that the kernel would take before the call gives up, and why it gives up. -/
def accepted (startTime : Nat) : List SendRound → Nat × Option Errno
  | [] => (0, none)
  | round :: later =>
      match round.answer with
      | .sent bytes => (bytes + (accepted startTime later).1, (accepted startTime later).2)
      | .failed errno =>
          if errno.Again ∧ round.now ≤ startTime + 5 then accepted startTime later
          else (0, some errno)

section Counts

variable {count : Nat}

theorem toInt32_small (small : count ≤ INT_MAX) : toInt32 count = count := by
  unfold INT_MAX at small
  exact toInt32_natCast_eq_self (by omega)

theorem toInt32_le_INT_MAX (count : Nat) : toInt32 count ≤ (INT_MAX : Int) := by
  have bound := toInt32_lt count
  unfold INT_MAX
  omega

theorem toInt32_le (count : Nat) : toInt32 count ≤ (count : Int) := by
  by_cases small : count ≤ INT_MAX
  · rw [toInt32_small small]
  · have bound := toInt32_le_INT_MAX count
    omega

/-- A count that is no `int` and still gives a positive one is at least 2^32. -/
theorem large_count (large : INT_MAX < count) (positive : 0 < toInt32 count) :
    2 ^ 32 ≤ count := by
  by_contra below
  unfold INT_MAX at large
  unfold toInt32 at positive
  rw [Int.bmod_def] at positive
  split at positive <;> omega

end Counts

section Loop

variable {count startTime bytesWritten : Nat} {rounds : List SendRound}

theorem writeLoop_done (done : ¬ (bytesWritten : Int) < toInt32 count) :
    writeLoop count startTime rounds bytesWritten = ([], .returned count) := by
  cases rounds with
  | nil => rw [writeLoop, if_neg done]
  | cons round later => rw [writeLoop, if_neg done]

/-- A call that gives up, or still runs, has handed what was accepted. -/
theorem writeLoop_short (short : (bytesWritten : Int) + (accepted startTime rounds).1 <
      toInt32 count) :
    writeLoop count startTime rounds bytesWritten =
      (List.range' bytesWritten (accepted startTime rounds).1,
        match (accepted startTime rounds).2 with
        | none => .running
        | some errno => .failed errno) := by
  induction rounds generalizing bytesWritten with
  | nil =>
      rw [writeLoop, if_pos (by simpa [accepted] using short)]
      rfl
  | cons round later ih =>
      have running : (bytesWritten : Int) < toInt32 count := by omega
      have limit := toInt32_le count
      have intLimit := toInt32_le_INT_MAX count
      obtain ⟨answer, now⟩ := round
      rw [writeLoop, if_pos running]
      cases answer with
      | sent bytes =>
          simp only [accepted] at short ⊢
          have whole : taken bytes (count - bytesWritten) = bytes := by
            unfold taken
            omega
          rw [whole, ih (by push_cast; omega), List.range'_append_1]
      | failed errno =>
          simp only [accepted] at short ⊢
          by_cases again : errno.Again
          · by_cases late : now > startTime + 5
            · have gives : ¬ (errno.Again ∧ now ≤ startTime + 5) := by omega
              rw [if_pos again, if_pos late, if_neg gives]
              rfl
            · have waits : errno.Again ∧ now ≤ startTime + 5 := ⟨again, by omega⟩
              rw [if_pos waits] at short
              rw [if_pos again, if_neg late, if_pos waits]
              exact ih short
          · have gives : ¬ (errno.Again ∧ now ≤ startTime + 5) := fun both => again both.1
            rw [if_neg again, if_neg gives]
            rfl

/-- A call of which enough is accepted returns; it has handed the whole buffer unless the
buffer is longer than an `int`. -/
theorem writeLoop_enough (running : (bytesWritten : Int) < toInt32 count)
    (enough : toInt32 count ≤ (bytesWritten : Int) + (accepted startTime rounds).1) :
    ∃ handed, 0 < handed ∧
      writeLoop count startTime rounds bytesWritten =
        (List.range' bytesWritten handed, .returned count) ∧
      (count ≤ INT_MAX → bytesWritten + handed = count) ∧
      (INT_MAX < count → bytesWritten + handed < count) := by
  induction rounds generalizing bytesWritten with
  | nil =>
      simp only [accepted, Nat.cast_zero, add_zero] at enough
      omega
  | cons round later ih =>
      have limit := toInt32_le count
      have intLimit := toInt32_le_INT_MAX count
      obtain ⟨answer, now⟩ := round
      rw [writeLoop, if_pos running]
      cases answer with
      | sent bytes =>
          simp only [accepted] at enough ⊢
          by_cases more : ((bytesWritten + taken bytes (count - bytesWritten) : Nat) : Int) <
              toInt32 count
          · have whole : taken bytes (count - bytesWritten) = bytes := by
              unfold taken at more ⊢
              omega
            rw [whole] at more ⊢
            obtain ⟨handed, positive, loop, exactly, less⟩ := ih more (by push_cast; omega)
            refine ⟨bytes + handed, by omega, ?_, ?_, ?_⟩
            · rw [loop, List.range'_append_1]
            · intro small
              have total := exactly small
              omega
            · intro large
              have total := less large
              omega
          · refine ⟨taken bytes (count - bytesWritten), ?_, ?_, ?_, ?_⟩
            · omega
            · rw [writeLoop_done more, List.append_nil]
            · intro small
              rw [toInt32_small small] at more
              unfold taken at more ⊢
              omega
            · intro large
              have huge := large_count large (by omega)
              unfold taken
              unfold INT_MAX at intLimit ⊢
              omega
      | failed errno =>
          simp only [accepted] at enough ⊢
          by_cases waits : errno.Again ∧ now ≤ startTime + 5
          · rw [if_pos waits] at enough
            rw [if_pos waits.1, if_neg (by omega)]
            exact ih running enough
          · rw [if_neg waits] at enough
            simp only [Nat.cast_zero, add_zero] at enough
            omega

end Loop

end UnixSocketHandler

/-! ### The calls that are made -/

namespace WriteCall

/-- What the kernel takes in the call, and why it gives up. -/
def accepted (call : WriteCall) : Nat × Option Errno :=
  if call.active then UnixSocketHandler.accepted call.startTime call.rounds
  else (0, some .epipe)

def Completes (count : Nat) (call : WriteCall) : Prop :=
  call.active = true ∧ toInt32 count ≤ (call.accepted.1 : Int)

def Retried (retriesTimedOut : Bool) (count : Nat) (call : WriteCall) : Prop :=
  ¬ call.Completes count ∧ ∃ errno, call.accepted.2 = some errno ∧
    (errno.Again ∨ (retriesTimedOut = true ∧ errno = .etimedout))

instance (count : Nat) (call : WriteCall) : Decidable (call.Completes count) := by
  unfold Completes
  infer_instance

instance (retriesTimedOut : Bool) (count : Nat) (call : WriteCall) :
    Decidable (call.Retried retriesTimedOut count) :=
  match given : call.accepted.2 with
  | none => isFalse (by
      intro retried
      obtain ⟨_, _, some, _⟩ := retried
      rw [given] at some
      cases some)
  | some errno =>
      decidable_of_iff (¬ call.Completes count ∧
        (errno.Again ∨ (retriesTimedOut = true ∧ errno = .etimedout))) (by
          unfold Retried
          simp [given])

end WriteCall

namespace UnixSocketHandler

def made (checksTime retriesTimedOut : Bool) (count startTime : Nat) :
    List WriteCall → List WriteCall
  | [] => []
  | call :: later =>
      if checksTime = true ∧ call.currentTime > startTime + 30 then []
      else
        call ::
          if call.Retried retriesTimedOut count then
            made checksTime retriesTimedOut count startTime later
          else []

/-- The bytes are handed in order, from the first on, none of them twice, and all of them if
the call reports success. -/
def Exact (count : Nat) (outcome : List Nat × WriteAllResult) : Prop :=
  outcome.1 = List.range outcome.1.length ∧
    (outcome.2 = .wrote → outcome.1.length = count)

/-- At most one call takes any bytes, and no buffer longer than an `int` is reported written. -/
def Undisturbed (count : Nat) (calls : List WriteCall) : Prop :=
  calls.Pairwise (fun earlier later => earlier.accepted.1 = 0 ∨ later.accepted.1 = 0) ∧
    (count ≤ INT_MAX ∨ ∀ call ∈ calls, ¬ call.Completes count)

theorem filterMap_range (buffer : Bytes) (length : Nat) :
    (List.range length).filterMap (fun position => buffer[position]?) = buffer.take length := by
  induction length with
  | zero => rfl
  | succ length ih =>
      rw [List.range_succ, List.filterMap_append, ih, List.take_add_one]
      cases found : buffer[length]? with
      | none => simp [found]
      | some byte => simp [found]

theorem Exact.handed {count : Nat} {outcome : List Nat × WriteAllResult}
    (exactly : Exact count outcome) (buffer : Bytes) :
    outcome.1.filterMap (fun position => buffer[position]?) <+: buffer := by
  rw [exactly.1, filterMap_range]
  exact List.take_prefix _ buffer

section Calls

variable {count : Nat} {call : WriteCall}

theorem write_short (short : ¬ call.Completes count) :
    write count call =
      (List.range call.accepted.1,
        match call.accepted.2 with
        | none => .running
        | some errno => .failed errno) := by
  unfold WriteCall.Completes at short
  unfold write
  unfold WriteCall.accepted at short ⊢
  cases active : call.active with
  | false => rfl
  | true =>
      simp only [active, if_true, true_and] at short ⊢
      rw [writeLoop_short (by push_cast; omega), List.range_eq_range']

theorem write_enough (enough : call.Completes count) :
    ∃ handed, write count call = (List.range handed, .returned count) ∧
      (0 < toInt32 count → 0 < handed) ∧
      (count ≤ INT_MAX → handed = count) ∧ (INT_MAX < count → handed < count) := by
  unfold WriteCall.Completes at enough
  unfold write
  unfold WriteCall.accepted at enough
  rw [if_pos enough.1] at enough ⊢
  by_cases running : ((0 : Nat) : Int) < toInt32 count
  · obtain ⟨handed, positive, loop, exactly, less⟩ :=
      writeLoop_enough running (by simpa using enough.2)
    refine ⟨handed, ?_, fun _ => positive, ?_, ?_⟩
    · rw [loop, List.range_eq_range']
    · intro small
      have total := exactly small
      omega
    · intro large
      have total := less large
      omega
  · refine ⟨0, writeLoop_done running, ?_, ?_, ?_⟩
    · intro positive
      exact absurd positive running
    · intro small
      rw [toInt32_small small] at running
      omega
    · intro large
      omega

end Calls

section Loop

variable {checksTime retriesTimedOut : Bool} {count startTime : Nat} {call : WriteCall}
  {calls later : List WriteCall}

/-- What the first call makes of the whole loop: `outcome` and `tried` are its outcome and the
calls it makes. -/
inductive AfterFirst (checksTime retriesTimedOut : Bool) (count startTime : Nat)
    (call : WriteCall) (later : List WriteCall) :
    List Nat × WriteAllResult → List WriteCall → Prop
  | timedOut : AfterFirst checksTime retriesTimedOut count startTime call later
      ([], .timedOut) []
  | completed {handed : Nat} :
      call.Completes count → (0 < toInt32 count → 0 < handed) →
      (count ≤ INT_MAX → handed = count) → (INT_MAX < count → handed < count) →
      AfterFirst checksTime retriesTimedOut count startTime call later
        (List.range handed, .wrote) [call]
  | stopped {result : WriteAllResult} :
      ¬ call.Completes count → result ≠ .wrote →
      AfterFirst checksTime retriesTimedOut count startTime call later
        (List.range call.accepted.1, result) [call]
  | retried :
      ¬ call.Completes count →
      AfterFirst checksTime retriesTimedOut count startTime call later
        (List.range call.accepted.1 ++
            (writeAll checksTime retriesTimedOut count startTime later 0).1,
          (writeAll checksTime retriesTimedOut count startTime later 0).2)
        (call :: made checksTime retriesTimedOut count startTime later)

theorem map_zero_add (positions : List Nat) : positions.map (0 + ·) = positions := by
  simp

theorem writeAll_whole :
    writeAll checksTime retriesTimedOut count startTime later count = ([], .wrote) := by
  cases later with
  | nil => rw [writeAll, if_neg (Nat.lt_irrefl count)]
  | cons call rest => rw [writeAll, if_neg (Nat.lt_irrefl count)]

theorem writeAll_cons (checksTime retriesTimedOut : Bool) (startTime : Nat) (call : WriteCall)
    (later : List WriteCall) (positive : 0 < count) :
    AfterFirst checksTime retriesTimedOut count startTime call later
      (writeAll checksTime retriesTimedOut count startTime (call :: later) 0)
      (made checksTime retriesTimedOut count startTime (call :: later)) := by
  rw [writeAll, if_pos positive, made]
  by_cases late : checksTime = true ∧ call.currentTime > startTime + 30
  · rw [if_pos late, if_pos late]
    exact .timedOut
  · rw [if_neg late, if_neg late]
    by_cases completes : call.Completes count
    · have single : ¬ call.Retried retriesTimedOut count := fun retried => retried.1 completes
      obtain ⟨handed, called, some, exactly, less⟩ := write_enough completes
      rw [if_neg single, Nat.sub_zero, called]
      dsimp only
      rw [if_neg (by omega), map_zero_add, Nat.zero_add, writeAll_whole, List.append_nil]
      exact .completed completes some exactly less
    · rw [Nat.sub_zero, write_short completes]
      by_cases retried : call.Retried retriesTimedOut count
      · obtain ⟨_, errno, given, again⟩ := id retried
        rw [if_pos retried, given]
        dsimp only
        rw [if_pos again, map_zero_add]
        exact .retried completes
      · rw [if_neg retried]
        cases given : call.accepted.2 with
        | none =>
            dsimp only
            rw [map_zero_add]
            exact .stopped completes (by simp)
        | some errno =>
            have single : ¬ (errno.Again ∨ (retriesTimedOut = true ∧ errno = .etimedout)) :=
              fun again => retried ⟨completes, errno, given, again⟩
            dsimp only
            rw [if_neg single, map_zero_add]
            exact .stopped completes (by simp)

/-- Either no byte is handed, and then no call takes one and success is not reported, or the
first byte is handed first. -/
theorem writeAll_first (checksTime retriesTimedOut : Bool) (startTime : Nat)
    (calls : List WriteCall) (positive : 0 < toInt32 count) :
    ((writeAll checksTime retriesTimedOut count startTime calls 0).1 = [] ∧
      (writeAll checksTime retriesTimedOut count startTime calls 0).2 ≠ .wrote ∧
      ∀ call ∈ made checksTime retriesTimedOut count startTime calls, call.accepted.1 = 0) ∨
    (∃ rest, (writeAll checksTime retriesTimedOut count startTime calls 0).1 = 0 :: rest) ∧
      ∃ call ∈ made checksTime retriesTimedOut count startTime calls, call.accepted.1 ≠ 0 := by
  have nonzero : 0 < count := by
    have limit := toInt32_le count
    omega
  have first : ∀ {handed : Nat}, 0 < handed → ∃ rest, List.range handed = 0 :: rest := by
    intro handed some
    cases handed with
    | zero => exact absurd some (Nat.lt_irrefl 0)
    | succ handed => exact ⟨_, List.range_succ_eq_map⟩
  induction calls with
  | nil =>
      left
      rw [writeAll, if_pos nonzero]
      exact ⟨rfl, by simp, by simp [made]⟩
  | cons call later ih =>
      have step := writeAll_cons checksTime retriesTimedOut startTime call later nonzero
      revert step
      generalize writeAll checksTime retriesTimedOut count startTime (call :: later) 0 = outcome
      generalize made checksTime retriesTimedOut count startTime (call :: later) = tried
      intro step
      cases step with
      | timedOut => exact Or.inl ⟨rfl, by simp, by simp⟩
      | completed completes some exactly less =>
          have taken := completes.2
          exact Or.inr ⟨first (some positive), call, List.mem_singleton_self call, by omega⟩
      | stopped short unfinished =>
          by_cases empty : call.accepted.1 = 0
          · exact Or.inl ⟨by rw [empty]; rfl, unfinished, by simpa using empty⟩
          · exact Or.inr ⟨first (by omega), call, List.mem_singleton_self call, empty⟩
      | retried short =>
          by_cases empty : call.accepted.1 = 0
          · rw [empty, List.range_zero, List.nil_append]
            rcases ih with ⟨none, unfinished, all⟩ | ⟨rest, other, member, some⟩
            · left
              refine ⟨none, unfinished, ?_⟩
              intro other member
              rcases List.mem_cons.mp member with same | inLater
              · rw [same]
                exact empty
              · exact all other inLater
            · exact Or.inr ⟨rest, other, List.mem_cons_of_mem call member, some⟩
          · obtain ⟨rest, starts⟩ := first (Nat.pos_of_ne_zero empty)
            exact Or.inr ⟨⟨_, by rw [starts]; rfl⟩, call, List.mem_cons_self, empty⟩

/-- A call that took some bytes and is retried spoils the buffer if a later one takes any. -/
theorem retried_exact_iff (short : ¬ call.Completes count) (some : 0 < call.accepted.1) :
    Exact count
        (List.range call.accepted.1 ++
            (writeAll checksTime retriesTimedOut count startTime later 0).1,
          (writeAll checksTime retriesTimedOut count startTime later 0).2) ↔
      Undisturbed count (call :: made checksTime retriesTimedOut count startTime later) := by
  have positive : 0 < toInt32 count := by
    have active : call.active = true := by
      by_contra inactive
      rw [WriteCall.accepted, if_neg inactive] at some
      exact Nat.lt_irrefl 0 some
    by_contra nonpositive
    exact short ⟨active, by omega⟩
  rcases writeAll_first checksTime retriesTimedOut startTime later positive with
    ⟨none, unfinished, all⟩ | ⟨⟨rest, starts⟩, other, member, taken⟩
  · rw [none, List.append_nil]
    constructor
    · intro _
      refine ⟨?_, ?_⟩
      · rw [List.pairwise_cons]
        refine ⟨fun other member => Or.inr (all other member), ?_⟩
        exact List.pairwise_of_forall_mem_list
          (fun earlier inEarlier _ _ => Or.inl (all earlier inEarlier))
      · right
        intro other member
        rcases List.mem_cons.mp member with same | inLater
        · rw [same]
          exact short
        · intro completes
          have nothing := all other inLater
          have enough := completes.2
          omega
    · intro _
      exact ⟨by rw [List.length_range], fun wrote => absurd wrote unfinished⟩
  · constructor
    · intro exactly
      exfalso
      have positions := exactly.1
      rw [starts] at positions
      have atCount := congrArg (·[call.accepted.1]?) positions
      simp at atCount
      omega
    · intro undisturbed
      have apart := (List.pairwise_cons.mp undisturbed.1).1 other member
      rcases apart with none | none
      · omega
      · exact absurd none taken

theorem undisturbed_cons_iff {made : List WriteCall} (short : ¬ call.Completes count)
    (empty : call.accepted.1 = 0) : Undisturbed count (call :: made) ↔ Undisturbed count made := by
  unfold Undisturbed
  simp [empty, short]

/-- The loop hands the buffer exactly when nothing is taken twice. -/
theorem writeAll_exact_iff :
    Exact count (writeAll checksTime retriesTimedOut count startTime calls 0) ↔
      count = 0 ∨
        Undisturbed count (made checksTime retriesTimedOut count startTime calls) := by
  by_cases zero : count = 0
  · have whole : writeAll checksTime retriesTimedOut count startTime calls 0 = ([], .wrote) := by
      rw [zero]
      exact writeAll_whole
    rw [whole]
    constructor
    · intro _
      exact Or.inl zero
    · intro _
      exact ⟨rfl, fun _ => zero.symm⟩
  · rw [or_iff_right zero]
    have nonzero := Nat.pos_of_ne_zero zero
    induction calls with
    | nil =>
        rw [writeAll, if_pos nonzero]
        constructor
        · intro _
          exact ⟨List.Pairwise.nil, Or.inr (by simp [made])⟩
        · intro _
          exact ⟨rfl, by simp⟩
    | cons call later ih =>
        have step := writeAll_cons checksTime retriesTimedOut startTime call later nonzero
        revert step
        generalize writeAll checksTime retriesTimedOut count startTime (call :: later) 0 = outcome
        generalize made checksTime retriesTimedOut count startTime (call :: later) = tried
        intro step
        cases step with
        | timedOut =>
            constructor
            · intro _
              exact ⟨List.Pairwise.nil, Or.inr (by simp)⟩
            · intro _
              exact ⟨rfl, by simp⟩
        | completed completes some exactly less =>
            constructor
            · intro whole
              refine ⟨List.pairwise_singleton _ call, Or.inl ?_⟩
              by_contra large
              have total := whole.2 rfl
              have part := less (by omega)
              rw [List.length_range] at total
              omega
            · intro undisturbed
              rcases undisturbed.2 with small | never
              · exact ⟨by rw [List.length_range], fun _ => by
                  rw [List.length_range]
                  exact exactly small⟩
              · exact absurd completes (never call (List.mem_singleton_self call))
        | stopped short unfinished =>
            constructor
            · intro _
              exact ⟨List.pairwise_singleton _ call, Or.inr (by simpa using short)⟩
            · intro _
              exact ⟨by rw [List.length_range], fun wrote => absurd wrote unfinished⟩
        | retried short =>
            by_cases empty : call.accepted.1 = 0
            · rw [empty, List.range_zero, List.nil_append, undisturbed_cons_iff short empty]
              exact ih
            · exact retried_exact_iff short (Nat.pos_of_ne_zero empty)

end Loop

/-- Both functions hand their buffer exactly as long as nothing is taken by two calls of
`write`, and the buffer is not longer than an `int`. -/
theorem buffer_handed_iff (count startTime : Nat) (calls : List WriteCall) :
    (∀ timeout, Exact count (writeAllOrThrow timeout count startTime calls) ↔
      count = 0 ∨ Undisturbed count (made timeout (!timeout) count startTime calls)) ∧
    (Exact count (writeAllOrReturn count startTime calls) ↔
      count = 0 ∨ Undisturbed count (made true false count startTime calls)) :=
  ⟨fun _ => writeAll_exact_iff, writeAll_exact_iff⟩

/-- One of three bytes goes out, then nothing for six seconds, then all three. -/
def stalledCalls : List WriteCall :=
  [{ currentTime := 0
     active := true
     startTime := 0
     rounds := [⟨.sent 1, 0⟩, ⟨.failed .eagain, 6⟩] },
    { currentTime := 6
      active := true
      startTime := 6
      rounds := [⟨.sent 3, 6⟩] }]

/-- The first byte is sent twice, and the call reports success. -/
theorem stalled_write_resends :
    writeAllOrThrow false 3 0 stalledCalls = ([0, 0, 1, 2], .wrote) ∧
      ¬ Exact 3 (writeAllOrThrow false 3 0 stalledCalls) ∧
      writeAllOrReturn 3 0 stalledCalls = ([0, 0, 1, 2], .wrote) ∧
      ¬ Exact 3 (writeAllOrReturn 3 0 stalledCalls) := by
  have thrown : writeAllOrThrow false 3 0 stalledCalls = ([0, 0, 1, 2], .wrote) := rfl
  have returned : writeAllOrReturn 3 0 stalledCalls = ([0, 0, 1, 2], .wrote) := rfl
  rw [thrown, returned]
  have resent : ¬ Exact 3 ([0, 0, 1, 2], .wrote) := fun exactly =>
    absurd exactly.1 (by decide)
  exact ⟨rfl, resent, rfl, resent⟩

end UnixSocketHandler

end EternalTerminal
