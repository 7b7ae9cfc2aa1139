/-
What one ET-style forward is taken for.

`etForm` is the branch that the two texts lead to.  The texts alone decide whether the branch
gives requests, is reported, or is undefined.
-/

import EternalTerminal.Setup.TunnelUtils

namespace EternalTerminal

open Library

inductive EtForm where
  | socket
  | environment
  | range
  | halfRange
  | portPair
  deriving DecidableEq

def etForm (source destination : Bytes) : EtForm :=
  if isSocketPath source || (isSocketPath destination && isNumeric source) then .socket
  else if !isNumeric source && !isNumeric destination then .environment
  else if source.contains 45 && destination.contains 45 then .range
  else if source.contains 45 || destination.contains 45 then .halfRange
  else .portPair

/-- What `readEnd` reads a port from. -/
def endTexts (text : Bytes) : List Bytes := if isSocketPath text then [] else [text]

def portTexts (source destination : Bytes) : List Bytes :=
  match etForm source destination with
  | .socket => endTexts source ++ endTexts destination
  | .environment => []
  | .range => (split 45 source).take 2 ++ (split 45 destination).take 2
  | .halfRange => []
  | .portPair => [source, destination]

def Bounds (text : Bytes) (range : Int × Int) : Prop :=
  ∃ start last more, split 45 text = start :: last :: more ∧
    stoi start = .ok range.1 ∧ stoi last = .ok range.2

/-- A range with nothing after its '-'. -/
def OneBound (text : Bytes) : Prop :=
  ∃ start port, split 45 text = [start] ∧ stoi start = .ok port

/-- Two ranges that cover equally many ports, of which there are fewer than 2^31. -/
def SameLength (source destination : Int × Int) : Prop :=
  source.2 - source.1 = destination.2 - destination.1 ∧ source.2 - source.1 + 1 < 2 ^ 31

def Accepted (source destination : Bytes) : Prop :=
  match etForm source destination with
  | .socket => ∀ text ∈ portTexts source destination, ∃ port, stoi text = .ok port
  | .environment => True
  | .range => ∃ sourceRange destinationRange, Bounds source sourceRange ∧
      Bounds destination destinationRange ∧ SameLength sourceRange destinationRange
  | .halfRange => False
  | .portPair => ∀ text ∈ portTexts source destination, ∃ port, stoi text = .ok port

/-- The texts on which the branch is undefined: a range without its second bound, and two
ranges of 2^31 ports. -/
def Undefined (source destination : Bytes) : Prop :=
  etForm source destination = .range ∧
    (OneBound source ∨
      ∃ sourceRange, Bounds source sourceRange ∧
        (OneBound destination ∨
          ∃ destinationRange, Bounds destination destinationRange ∧
            sourceRange.2 - sourceRange.1 = destinationRange.2 - destinationRange.1 ∧
            2 ^ 31 ≤ sourceRange.2 - sourceRange.1 + 1))

def rangeForwards (source destination : Int × Int) : List PortForwardSourceRequest :=
  (List.range (source.2 - source.1 + 1).toNat).map fun i : Nat =>
    forward (localPort (source.1 + i)) (remotePort (destination.1 + i))

/-! ### Ports that exist -/

def ValidPort (port : Int) : Prop := 1 ≤ port ∧ port ≤ 65535

def ValidEnd (endpoint : SocketEndpoint) : Prop :=
  ∀ port, endpoint.port = some port → ValidPort port

def ValidRequest (pfsr : PortForwardSourceRequest) : Prop :=
  (∀ source, pfsr.source = some source → ValidEnd source) ∧ ValidEnd pfsr.destination

def IsPort (text : Bytes) : Prop := AllDigits text ∧ ValidPort (decimalValue text)

/-- What the texts should give: some requests, with ports that exist, read from numerals. -/
def WellRead (texts : List Bytes) (requests : List PortForwardSourceRequest) : Prop :=
  requests ≠ [] ∧ (∀ pfsr ∈ requests, ValidRequest pfsr) ∧
    ∀ text ∈ texts, ∀ byte ∈ text, isDigit byte = true

def Sound (source destination : Bytes) : Prop :=
  (∀ text ∈ portTexts source destination, IsPort text) ∧
    ∀ sourceRange, etForm source destination = .range → Bounds source sourceRange →
      sourceRange.1 ≤ sourceRange.2

section

variable {text source destination : Bytes} {port : Int} {sourceRange destinationRange : Int × Int}
  {requests : List PortForwardSourceRequest} {failure : TunnelFailure}

/-! ### Ports and ranges -/

theorem readPort_ok_iff : readPort text = .ok port ↔ stoi text = .ok port := by
  unfold readPort
  cases stoi text with
  | error error => simp
  | ok value => simp

theorem readPort_error (failed : readPort text = .error failure) :
    (∃ error, failure = .stoi error) ∧ ∀ port, stoi text ≠ .ok port := by
  unfold readPort at failed
  cases read : stoi text with
  | error error =>
      rw [read] at failed
      cases failed
      exact ⟨⟨error, rfl⟩, by simp⟩
  | ok value =>
      rw [read] at failed
      cases failed

theorem portRange_ok_iff : portRange text = .ok sourceRange ↔ Bounds text sourceRange := by
  unfold portRange Bounds
  cases items : split 45 text with
  | nil => simp
  | cons start rest =>
      cases rest with
      | nil =>
          cases first : readPort start with
          | error failure => simp [first]
          | ok port => simp [first]
      | cons last more =>
          cases first : readPort start with
          | error failure =>
              have unreadable := (readPort_error first).2
              simp [first, unreadable]
          | ok port =>
              have isFirst := readPort_ok_iff.mp first
              cases second : readPort last with
              | error failure =>
                  have unreadable := (readPort_error second).2
                  simp [first, second, unreadable]
              | ok other =>
                  have isSecond := readPort_ok_iff.mp second
                  simp [first, second, isFirst, isSecond, Prod.ext_iff]

theorem split_ne_nil (dash : text.contains 45 = true) : split 45 text ≠ [] := by
  rw [split_eq_items, ne_eq, items_eq_nil_iff]
  intro empty
  rw [empty] at dash
  cases dash

theorem portRange_badIndex_iff (dash : text.contains 45 = true) :
    portRange text = .error .badIndex ↔ OneBound text := by
  have nonempty := split_ne_nil dash
  unfold portRange OneBound
  cases items : split 45 text with
  | nil => exact absurd items nonempty
  | cons start rest =>
      cases rest with
      | nil =>
          cases first : readPort start with
          | error failure =>
              obtain ⟨⟨error, isStoi⟩, unreadable⟩ := readPort_error first
              simp [first, isStoi, unreadable]
          | ok port => simp [first, readPort_ok_iff.mp first]
      | cons last more =>
          cases first : readPort start with
          | error failure =>
              obtain ⟨⟨error, isStoi⟩, _⟩ := readPort_error first
              simp [first, isStoi]
          | ok port =>
              cases second : readPort last with
              | error failure =>
                  obtain ⟨⟨error, isStoi⟩, _⟩ := readPort_error second
                  simp [first, second, isStoi]
              | ok other => simp [first, second]

theorem portRange_error (failed : portRange text = .error failure) :
    failure = .badIndex ∨ ∃ error, failure = .stoi error := by
  unfold portRange at failed
  cases items : split 45 text with
  | nil =>
      rw [items] at failed
      cases failed
      exact Or.inl rfl
  | cons start rest =>
      rw [items] at failed
      cases first : readPort start with
      | error other =>
          have isStoi := (readPort_error first).1
          cases rest with
          | nil =>
              simp only [first, Except.error.injEq] at failed
              exact Or.inr (failed ▸ isStoi)
          | cons last more =>
              simp only [first, Except.error.injEq] at failed
              exact Or.inr (failed ▸ isStoi)
      | ok port =>
          cases rest with
          | nil =>
              simp only [first, Except.error.injEq] at failed
              exact Or.inl failed.symm
          | cons last more =>
              cases second : readPort last with
              | error other =>
                  simp only [first, second, Except.error.injEq] at failed
                  exact Or.inr (failed ▸ (readPort_error second).1)
              | ok other =>
                  simp only [first, second] at failed
                  cases failed

theorem Bounds.natural (bounds : Bounds text sourceRange) :
    (0 ≤ sourceRange.1 ∧ sourceRange.1 < 2 ^ 31) ∧ 0 ≤ sourceRange.2 ∧ sourceRange.2 < 2 ^ 31 := by
  obtain ⟨start, last, more, items, isFirst, isSecond⟩ := bounds
  have noDash : ∀ item ∈ split 45 text, (45 : UInt8) ∉ item := by
    intro item isItem
    rw [split_eq_items] at isItem
    exact not_mem_of_mem_items isItem
  rw [items] at noDash
  have firstFits := stoi_fitsInt isFirst
  have secondFits := stoi_fitsInt isSecond
  have firstNonneg := stoi_nonneg (noDash start List.mem_cons_self) isFirst
  have secondNonneg :=
    stoi_nonneg (noDash last (List.mem_cons_of_mem start List.mem_cons_self)) isSecond
  exact ⟨⟨firstNonneg, firstFits.2⟩, secondNonneg, secondFits.2⟩

theorem checkInt_ok {value : Int} (fits : FitsInt value) : checkInt value = .ok value :=
  if_pos fits

theorem collect_rangeRequest {start other : Int} {count : Nat}
    (fits : ∀ i : Nat, i < count → FitsInt (start + i) ∧ FitsInt (other + i)) :
    collect (rangeRequest start other) (List.range count) =
      .ok ((List.range count).map fun i : Nat =>
        forward (localPort (start + i)) (remotePort (other + i))) := by
  rw [collect_ok_iff]
  refine ⟨(List.range count).map fun i : Nat =>
    [forward (localPort (start + i)) (remotePort (other + i))], ?_, ?_⟩
  · rw [List.forall₂_map_right_iff, List.forall₂_same]
    intro i inRange
    obtain ⟨first, second⟩ := fits i (List.mem_range.mp inRange)
    simp only [rangeRequest, checkInt_ok first, checkInt_ok second]
  · rw [← List.flatMap_def, ← List.map_eq_flatMap]

/-- Two ranges whose lengths differ are reported, two of 2^31 ports overflow, and all others
give their requests. -/
theorem rangeRequests_eq (sourceBounds : Bounds source sourceRange)
    (destinationBounds : Bounds destination destinationRange) :
    (sourceRange.2 - sourceRange.1 ≠ destinationRange.2 - destinationRange.1 ∧
      ∃ message, rangeRequests sourceRange destinationRange = .error (.tunnelParse message)) ∨
    (sourceRange.2 - sourceRange.1 = destinationRange.2 - destinationRange.1 ∧
      2 ^ 31 ≤ sourceRange.2 - sourceRange.1 + 1 ∧
      rangeRequests sourceRange destinationRange = .error .overflow) ∨
    (SameLength sourceRange destinationRange ∧
      rangeRequests sourceRange destinationRange =
        .ok (rangeForwards sourceRange destinationRange)) := by
  obtain ⟨⟨sourceLow, sourceHigh⟩, sourceLow', sourceHigh'⟩ := sourceBounds.natural
  obtain ⟨⟨targetLow, targetHigh⟩, targetLow', targetHigh'⟩ := destinationBounds.natural
  have sourceFits : FitsInt (sourceRange.2 - sourceRange.1) := by
    unfold FitsInt
    omega
  have targetFits : FitsInt (destinationRange.2 - destinationRange.1) := by
    unfold FitsInt
    omega
  by_cases same : sourceRange.2 - sourceRange.1 = destinationRange.2 - destinationRange.1
  · right
    by_cases long : 2 ^ 31 ≤ sourceRange.2 - sourceRange.1 + 1
    · have overflows : ¬ FitsInt (sourceRange.2 - sourceRange.1 + 1) := by
        unfold FitsInt
        omega
      left
      refine ⟨same, long, ?_⟩
      simp only [rangeRequests, checkInt_ok targetFits, same, ne_eq, not_true_eq_false, if_false]
      rw [same] at overflows
      simp only [checkInt, if_neg overflows]
    · have lengthFits : FitsInt (destinationRange.2 - destinationRange.1 + 1) := by
        unfold FitsInt
        omega
      right
      refine ⟨⟨same, by omega⟩, ?_⟩
      simp only [rangeRequests, checkInt_ok targetFits, same, ne_eq, not_true_eq_false, if_false,
        checkInt_ok lengthFits, rangeForwards]
      apply collect_rangeRequest
      intro i small
      unfold FitsInt
      omega
  · left
    refine ⟨same, ascii "source/destination port range must have same length", ?_⟩
    simp only [rangeRequests, checkInt_ok sourceFits, checkInt_ok targetFits, ne_eq, same,
      not_false_eq_true, if_true]

/-! ### The branches -/

theorem isPort_iff :
    IsPort text ↔ (∀ byte ∈ text, isDigit byte = true) ∧
      ∃ port, stoi text = .ok port ∧ ValidPort port := by
  constructor
  · intro ⟨digits, valid⟩
    have small : decimalValue text < 2 ^ 31 := by
      have upper := valid.2
      omega
    exact ⟨digits.2, decimalValue text, digits.stoi small, valid⟩
  · intro ⟨onlyDigits, port, isPort, valid⟩
    have nonempty : text ≠ [] := by
      intro empty
      rw [empty] at isPort
      cases isPort
    have digits : AllDigits text := ⟨nonempty, onlyDigits⟩
    by_cases small : decimalValue text < 2 ^ 31
    · cases (digits.stoi small).symm.trans isPort
      exact ⟨digits, valid⟩
    · have tooLarge : ¬ FitsInt (min (decimalValue text : Int) LONG_MAX) := by
        unfold FitsInt LONG_MAX
        omega
      unfold stoi at isPort
      rw [digits.strtol] at isPort
      simp only [if_neg tooLarge] at isPort
      cases isPort

theorem readEnd_cases (withPort : Int → SocketEndpoint) (text : Bytes) :
    ((∀ other ∈ endTexts text, ∃ port, stoi other = .ok port) ∧
      ∃ endpoint, readEnd withPort text = .ok endpoint ∧
        ((isSocketPath text = true ∧ endpoint = socketPath text) ∨
          ∃ port, stoi text = .ok port ∧ endTexts text = [text] ∧ endpoint = withPort port)) ∨
    ((¬ ∀ other ∈ endTexts text, ∃ port, stoi other = .ok port) ∧
      ∃ error, readEnd withPort text = .error (.stoi error)) := by
  cases isPath : isSocketPath text with
  | true =>
      left
      simp [endTexts, readEnd, isPath]
  | false =>
      cases read : readPort text with
      | error failure =>
          obtain ⟨⟨error, isStoi⟩, unreadable⟩ := readPort_error read
          right
          simp [endTexts, readEnd, isPath, read, isStoi, unreadable]
      | ok port =>
          have isPort := readPort_ok_iff.mp read
          left
          simp [endTexts, readEnd, isPath, read, isPort]

theorem validEnd_socketPath (path : Bytes) : ValidEnd (socketPath path) := by
  intro port set
  cases set

theorem validEnd_localPort : ValidEnd (localPort port) ↔ ValidPort port := by
  simp [ValidEnd, localPort]

theorem validEnd_remotePort : ValidEnd (remotePort port) ↔ ValidPort port := by
  simp [ValidEnd, remotePort]

/-- The port of an end exists and was read from a numeral exactly when its text is a port. -/
theorem validEnd_iff {withPort : Int → SocketEndpoint} {endpoint : SocketEndpoint}
    (keeps : ∀ port, ValidEnd (withPort port) ↔ ValidPort port)
    (read : (isSocketPath text = true ∧ endpoint = socketPath text) ∨
      ∃ port, stoi text = .ok port ∧ endTexts text = [text] ∧ endpoint = withPort port) :
    (ValidEnd endpoint ∧ ∀ other ∈ endTexts text, ∀ byte ∈ other, isDigit byte = true) ↔
      ∀ other ∈ endTexts text, IsPort other := by
  cases read with
  | inl path =>
      obtain ⟨isPath, isEnd⟩ := path
      simp [endTexts, isPath, isEnd, validEnd_socketPath]
  | inr number =>
      obtain ⟨port, isPort, texts, isEnd⟩ := number
      rw [isEnd, keeps, texts]
      simp only [List.mem_singleton, forall_eq, isPort_iff, isPort, Except.ok.injEq]
      constructor
      · intro ⟨valid, digits⟩
        exact ⟨digits, port, rfl, valid⟩
      · intro ⟨digits, other, same, valid⟩
        exact ⟨same ▸ valid, digits⟩

theorem validRequest_forward {sourceEnd destinationEnd : SocketEndpoint} :
    ValidRequest (forward sourceEnd destinationEnd) ↔
      ValidEnd sourceEnd ∧ ValidEnd destinationEnd := by
  simp [ValidRequest, forward]

theorem socketRequests_cases (source destination : Bytes) :
    ((∀ text ∈ endTexts source ++ endTexts destination, ∃ port, stoi text = .ok port) ∧
      ∃ requests, socketRequests source destination = .ok requests ∧
        (WellRead (endTexts source ++ endTexts destination) requests ↔
          ∀ text ∈ endTexts source ++ endTexts destination, IsPort text)) ∨
    ((¬ ∀ text ∈ endTexts source ++ endTexts destination, ∃ port, stoi text = .ok port) ∧
      ∃ error, socketRequests source destination = .error (.stoi error)) := by
  cases readEnd_cases localPort source with
  | inr failed =>
      obtain ⟨unreadable, error, isError⟩ := failed
      right
      constructor
      · intro all
        exact unreadable fun text inTexts => all text (List.mem_append_left _ inTexts)
      · exact ⟨error, by simp [socketRequests, isError]⟩
  | inl readSource =>
      obtain ⟨sourceReads, sourceEnd, isSource, fromSource⟩ := readSource
      cases readEnd_cases remotePort destination with
      | inr failed =>
          obtain ⟨unreadable, error, isError⟩ := failed
          right
          constructor
          · intro all
            exact unreadable fun text inTexts => all text (List.mem_append_right _ inTexts)
          · exact ⟨error, by simp [socketRequests, isSource, isError]⟩
      | inl readDestination =>
          obtain ⟨targetReads, targetEnd, isTarget, fromTarget⟩ := readDestination
          left
          constructor
          · intro text inTexts
            cases List.mem_append.mp inTexts with
            | inl inSource => exact sourceReads text inSource
            | inr inTarget => exact targetReads text inTarget
          · refine ⟨[forward sourceEnd targetEnd], by simp [socketRequests, isSource, isTarget], ?_⟩
            have sourceIff := validEnd_iff (fun port => validEnd_localPort) fromSource
            have targetIff := validEnd_iff (fun port => validEnd_remotePort) fromTarget
            simp only [WellRead, ne_eq, List.cons_ne_self, not_false_eq_true, List.mem_singleton,
              forall_eq, validRequest_forward, List.forall_mem_append, ← sourceIff, ← targetIff,
              true_and]
            tauto

theorem rangeForwards_valid (same : SameLength sourceRange destinationRange) :
    (rangeForwards sourceRange destinationRange ≠ [] ∧
        ∀ pfsr ∈ rangeForwards sourceRange destinationRange, ValidRequest pfsr) ↔
      sourceRange.1 ≤ sourceRange.2 ∧ (ValidPort sourceRange.1 ∧ ValidPort sourceRange.2) ∧
        ValidPort destinationRange.1 ∧ ValidPort destinationRange.2 := by
  have sameLength := same.1
  constructor
  · intro ⟨nonempty, valid⟩
    have some : 0 < (sourceRange.2 - sourceRange.1 + 1).toNat := by
      by_contra none
      apply nonempty
      rw [rangeForwards, Nat.eq_zero_of_not_pos none]
      rfl
    have atIndex : ∀ i : Nat, i < (sourceRange.2 - sourceRange.1 + 1).toNat →
        ValidPort (sourceRange.1 + i) ∧ ValidPort (destinationRange.1 + i) := by
      intro i small
      have inRange := List.mem_map_of_mem (f := fun i : Nat =>
        forward (localPort (sourceRange.1 + i)) (remotePort (destinationRange.1 + i)))
        (List.mem_range.mpr small)
      have ends := validRequest_forward.mp (valid _ inRange)
      exact ⟨validEnd_localPort.mp ends.1, validEnd_remotePort.mp ends.2⟩
    have first := atIndex 0 some
    have last := atIndex (sourceRange.2 - sourceRange.1).toNat (by omega)
    have sourceLast : sourceRange.1 + ((sourceRange.2 - sourceRange.1).toNat : Int) =
        sourceRange.2 := by
      omega
    have targetLast : destinationRange.1 + ((sourceRange.2 - sourceRange.1).toNat : Int) =
        destinationRange.2 := by
      omega
    rw [sourceLast, targetLast] at last
    simp only [Nat.cast_zero, add_zero] at first
    exact ⟨by omega, ⟨first.1, last.1⟩, first.2, last.2⟩
  · intro ⟨ascending, ⟨sourceFirst, sourceLast⟩, targetFirst, targetLast⟩
    constructor
    · intro empty
      have none := congrArg List.length empty
      simp only [rangeForwards, List.length_map, List.length_range, List.length_nil] at none
      omega
    · intro pfsr inRange
      obtain ⟨i, isIndex, isForward⟩ := List.mem_map.mp inRange
      have small := List.mem_range.mp isIndex
      rw [← isForward, validRequest_forward, validEnd_localPort, validEnd_remotePort]
      unfold ValidPort at *
      omega

/-- Two ranges are well read exactly when they ascend and their bounds are ports. -/
theorem wellRead_rangeForwards (sourceBounds : Bounds source sourceRange)
    (destinationBounds : Bounds destination destinationRange)
    (same : SameLength sourceRange destinationRange) :
    WellRead ((split 45 source).take 2 ++ (split 45 destination).take 2)
        (rangeForwards sourceRange destinationRange) ↔
      (∀ text ∈ (split 45 source).take 2 ++ (split 45 destination).take 2, IsPort text) ∧
        sourceRange.1 ≤ sourceRange.2 := by
  obtain ⟨start, last, more, sourceItems, isStart, isLast⟩ := sourceBounds
  obtain ⟨first, final, others, targetItems, isFirst, isFinal⟩ := destinationBounds
  have valid := rangeForwards_valid same
  unfold WellRead
  rw [← and_assoc, valid, sourceItems, targetItems]
  simp only [List.take_succ_cons, List.take_zero, List.cons_append, List.nil_append,
    List.mem_cons, List.not_mem_nil, or_false, forall_eq_or_imp, forall_eq, isPort_iff, isStart,
    isLast, isFirst, isFinal, Except.ok.injEq, exists_eq_left']
  tauto

/-! ### The three ways a forward is taken -/

theorem portPair_notSocket (form : etForm source destination = .portPair) :
    isSocketPath source = false ∧ isSocketPath destination = false := by
  unfold etForm at form
  split at form
  · cases form
  · rename_i notSocket
    split at form
    · cases form
    · rename_i notEnvironment
      have sourcePlain : isSocketPath source = false := by
        cases path : isSocketPath source with
        | false => rfl
        | true => simp [path] at notSocket
      refine ⟨sourcePlain, ?_⟩
      cases path : isSocketPath destination with
      | false => rfl
      | true =>
          have slash : isNumeric destination = false := by
            unfold isSocketPath at path
            split at path
            · rfl
            · cases path
          cases numeric : isNumeric source with
          | true => simp [path, numeric] at notSocket
          | false => simp [slash, numeric] at notEnvironment

theorem portPairRequests_eq (form : etForm source destination = .portPair) :
    portPairRequests source destination = socketRequests source destination ∧
      portTexts source destination = endTexts source ++ endTexts destination := by
  obtain ⟨sourcePlain, targetPlain⟩ := portPair_notSocket form
  constructor
  · unfold portPairRequests socketRequests readEnd
    simp only [sourcePlain, targetPlain, Bool.false_eq_true, if_false]
    cases readPort source with
    | error failure => rfl
    | ok port => cases readPort destination <;> rfl
  · simp [portTexts, form, endTexts, sourcePlain, targetPlain]

theorem etStyleRequests_eq (source destination : Bytes) :
    etStyleRequests source destination =
      match etForm source destination with
      | .socket => socketRequests source destination
      | .environment => .ok [forwardVariable source destination]
      | .range => portRangeRequests source destination
      | .halfRange => .error (.tunnelParse (ascii
          ("Invalid port range syntax: if source is a range, " ++
            "destination must be a range (and vice versa)")))
      | .portPair => portPairRequests source destination := by
  unfold etStyleRequests etForm
  by_cases socket :
      (isSocketPath source || (isSocketPath destination && isNumeric source)) = true
  · simp only [socket, if_true]
  · by_cases environment : (!isNumeric source && !isNumeric destination) = true
    · simp only [socket, environment, Bool.false_eq_true, if_false, if_true]
    · by_cases range : (source.contains 45 && destination.contains 45) = true
      · simp only [socket, environment, range, Bool.false_eq_true, if_false, if_true]
      · by_cases half : (source.contains 45 || destination.contains 45) = true
        · simp only [socket, environment, range, half, Bool.false_eq_true, if_false, if_true]
        · simp only [socket, environment, range, half, Bool.false_eq_true, if_false]

theorem range_dashes (form : etForm source destination = .range) :
    source.contains 45 = true ∧ destination.contains 45 = true := by
  unfold etForm at form
  split at form
  · cases form
  · split at form
    · cases form
    · split at form
      · rename_i dashes
        simpa using dashes
      · split at form
        · cases form
        · cases form

theorem Bounds.unique {other : Int × Int} (bounds : Bounds text sourceRange)
    (others : Bounds text other) : other = sourceRange := by
  have same := (portRange_ok_iff.mpr bounds).symm.trans (portRange_ok_iff.mpr others)
  exact (Except.ok.inj same).symm

theorem Bounds.not_oneBound (bounds : Bounds text sourceRange) : ¬ OneBound text := by
  intro ⟨start, port, items, _⟩
  obtain ⟨first, last, more, others, _⟩ := bounds
  rw [items] at others
  cases others

/-- What becomes of a range: its ports, undefined behaviour, or an exception. -/
theorem portRange_cases (dash : text.contains 45 = true) :
    (∃ range, portRange text = .ok range ∧ Bounds text range) ∨
    (portRange text = .error .badIndex ∧ OneBound text ∧ ∀ range, ¬ Bounds text range) ∨
    ((∃ error, portRange text = .error (.stoi error)) ∧ ¬ OneBound text ∧
      ∀ range, ¬ Bounds text range) := by
  have oneBound := portRange_badIndex_iff dash
  cases read : portRange text with
  | ok range => exact Or.inl ⟨range, rfl, portRange_ok_iff.mp read⟩
  | error failure =>
      have noBounds : ∀ range, ¬ Bounds text range := by
        intro range bounds
        cases read.symm.trans (portRange_ok_iff.mpr bounds)
      right
      cases portRange_error read with
      | inl isIndex =>
          subst isIndex
          exact Or.inl ⟨rfl, oneBound.mp read, noBounds⟩
      | inr isStoi =>
          obtain ⟨error, rfl⟩ := isStoi
          have notOne : ¬ OneBound text := by
            intro one
            cases read.symm.trans (oneBound.mpr one)
          exact Or.inr ⟨⟨error, rfl⟩, notOne, noBounds⟩

theorem portRangeRequests_cases (form : etForm source destination = .range) :
    (Accepted source destination ∧ ¬ Undefined source destination ∧
      ∃ requests, portRangeRequests source destination = .ok requests ∧
        (WellRead (portTexts source destination) requests ↔ Sound source destination)) ∨
    (¬ Accepted source destination ∧ Undefined source destination ∧
      (portRangeRequests source destination = .error .badIndex ∨
        portRangeRequests source destination = .error .overflow)) ∨
    (¬ Accepted source destination ∧ ¬ Undefined source destination ∧
      ((∃ error, portRangeRequests source destination = .error (.stoi error)) ∨
        ∃ message, portRangeRequests source destination = .error (.tunnelParse message))) := by
  obtain ⟨sourceDash, targetDash⟩ := range_dashes form
  unfold Accepted Undefined portRangeRequests
  simp only [form, true_and]
  rcases portRange_cases sourceDash with
    ⟨sourceRange, sourceRead, sourceBounds⟩ | ⟨sourceRead, one, none⟩ |
      ⟨⟨error, sourceRead⟩, notOne, none⟩
  · rcases portRange_cases targetDash with
      ⟨targetRange, targetRead, targetBounds⟩ | ⟨targetRead, one, none⟩ |
        ⟨⟨error, targetRead⟩, notOne, none⟩
    · simp only [sourceRead, targetRead]
      have notOneSource := sourceBounds.not_oneBound
      have notOneTarget := targetBounds.not_oneBound
      rcases rangeRequests_eq sourceBounds targetBounds with
        ⟨differ, message, reported⟩ | ⟨same, long, overflows⟩ | ⟨same, requests⟩
      · right
        right
        refine ⟨?_, ?_, Or.inr ⟨message, reported⟩⟩
        · intro ⟨range, other, isRange, isOther, same⟩
          rw [sourceBounds.unique isRange, targetBounds.unique isOther] at same
          exact differ same.1
        · intro undefined
          rcases undefined with one | ⟨range, isRange, one | ⟨other, isOther, same, _⟩⟩
          · exact notOneSource one
          · exact notOneTarget one
          · rw [sourceBounds.unique isRange, targetBounds.unique isOther] at same
            exact differ same
      · right
        left
        refine ⟨?_, Or.inr ⟨sourceRange, sourceBounds, Or.inr
          ⟨targetRange, targetBounds, same, long⟩⟩, Or.inr overflows⟩
        intro ⟨range, other, isRange, isOther, short⟩
        rw [sourceBounds.unique isRange, targetBounds.unique isOther] at short
        exact absurd short.2 (by omega)
      · left
        refine ⟨⟨sourceRange, targetRange, sourceBounds, targetBounds, same⟩, ?_, _, requests, ?_⟩
        · intro undefined
          rcases undefined with one | ⟨range, isRange, one | ⟨other, isOther, _, long⟩⟩
          · exact notOneSource one
          · exact notOneTarget one
          · rw [sourceBounds.unique isRange] at long
            exact absurd same.2 (by omega)
        · have texts : portTexts source destination =
              (split 45 source).take 2 ++ (split 45 destination).take 2 := by
            simp only [portTexts, form]
          rw [texts, wellRead_rangeForwards sourceBounds targetBounds same, Sound, texts]
          constructor
          · intro ⟨ports, ascending⟩
            refine ⟨ports, ?_⟩
            intro range _ isRange
            rw [sourceBounds.unique isRange]
            exact ascending
          · intro ⟨ports, ascending⟩
            exact ⟨ports, ascending sourceRange form sourceBounds⟩
    · right
      left
      refine ⟨?_, Or.inr ⟨sourceRange, sourceBounds, Or.inl one⟩, Or.inl ?_⟩
      · intro ⟨range, other, _, isOther, _⟩
        exact none other isOther
      · simp only [sourceRead, targetRead]
    · right
      right
      refine ⟨?_, ?_, Or.inl ⟨error, ?_⟩⟩
      · intro ⟨range, other, _, isOther, _⟩
        exact none other isOther
      · intro undefined
        rcases undefined with one | ⟨range, _, one | ⟨other, isOther, _⟩⟩
        · exact sourceBounds.not_oneBound one
        · exact notOne one
        · exact none other isOther
      · simp only [sourceRead, targetRead]
  · right
    left
    refine ⟨?_, Or.inl one, Or.inl ?_⟩
    · intro ⟨range, _, isRange, _⟩
      exact none range isRange
    · simp only [sourceRead]
  · right
    right
    refine ⟨?_, ?_, Or.inl ⟨error, ?_⟩⟩
    · intro ⟨range, _, isRange, _⟩
      exact none range isRange
    · intro undefined
      rcases undefined with one | ⟨range, isRange, _⟩
      · exact notOne one
      · exact none range isRange
    · simp only [sourceRead]

theorem readEnds_cases
    (form : etForm source destination = .socket ∨ etForm source destination = .portPair) :
    (Accepted source destination ∧ ¬ Undefined source destination ∧
      ∃ requests, etStyleRequests source destination = .ok requests ∧
        (WellRead (portTexts source destination) requests ↔ Sound source destination)) ∨
    (¬ Accepted source destination ∧ ¬ Undefined source destination ∧
      ∃ error, etStyleRequests source destination = .error (.stoi error)) := by
  have read : etStyleRequests source destination = socketRequests source destination ∧
      portTexts source destination = endTexts source ++ endTexts destination := by
    rw [etStyleRequests_eq]
    cases form with
    | inl socket => simp only [socket, portTexts, and_self]
    | inr portPair =>
        simp only [portPair]
        exact portPairRequests_eq portPair
  obtain ⟨sameRequests, texts⟩ := read
  have accepted : Accepted source destination ↔
      ∀ text ∈ endTexts source ++ endTexts destination, ∃ port, stoi text = .ok port := by
    rcases form with socket | portPair
    · simp only [Accepted, socket, texts]
    · simp only [Accepted, portPair, texts]
  have defined : ¬ Undefined source destination := by
    intro undefined
    rcases form with socket | portPair
    · cases socket.symm.trans undefined.1
    · cases portPair.symm.trans undefined.1
  have sound : Sound source destination ↔
      ∀ text ∈ endTexts source ++ endTexts destination, IsPort text := by
    rcases form with socket | portPair
    · simp [Sound, socket, texts]
    · simp [Sound, portPair, texts]
  rw [sameRequests, texts, accepted, sound]
  cases socketRequests_cases source destination with
  | inl read =>
      obtain ⟨reads, requests, isRequests, wellRead⟩ := read
      exact Or.inl ⟨reads, defined, requests, isRequests, wellRead⟩
  | inr failed =>
      obtain ⟨unreadable, error⟩ := failed
      exact Or.inr ⟨unreadable, defined, error⟩

/-- A forward is accepted, undefined, or reported; what is accepted is well read exactly when
it is sound. -/
theorem etStyleRequests_cases (source destination : Bytes) :
    (Accepted source destination ∧ ¬ Undefined source destination ∧
      ∃ requests, etStyleRequests source destination = .ok requests ∧
        (WellRead (portTexts source destination) requests ↔ Sound source destination)) ∨
    (¬ Accepted source destination ∧ Undefined source destination ∧
      (etStyleRequests source destination = .error .badIndex ∨
        etStyleRequests source destination = .error .overflow)) ∨
    (¬ Accepted source destination ∧ ¬ Undefined source destination ∧
      ((∃ error, etStyleRequests source destination = .error (.stoi error)) ∨
        ∃ message, etStyleRequests source destination = .error (.tunnelParse message))) := by
  cases form : etForm source destination with
  | socket =>
      rcases readEnds_cases (Or.inl form) with read | ⟨unreadable, defined, error⟩
      · exact Or.inl read
      · exact Or.inr (Or.inr ⟨unreadable, defined, Or.inl error⟩)
  | environment =>
      left
      rw [etStyleRequests_eq, form]
      refine ⟨by simp [Accepted, form], by simp [Undefined, form], _, rfl, ?_⟩
      have validDestination := validEnd_socketPath destination
      simp [WellRead, ValidRequest, forwardVariable, validDestination, portTexts, form, Sound]
  | range =>
      rw [etStyleRequests_eq, form]
      exact portRangeRequests_cases form
  | halfRange =>
      right
      right
      rw [etStyleRequests_eq, form]
      exact ⟨by simp [Accepted, form], by simp [Undefined, form], Or.inr ⟨_, rfl⟩⟩
  | portPair =>
      rcases readEnds_cases (Or.inr form) with read | ⟨unreadable, defined, error⟩
      · exact Or.inl read
      · exact Or.inr (Or.inr ⟨unreadable, defined, Or.inl error⟩)

end

end EternalTerminal
