/-
Tunnel arguments are read back as they were written.

A name of digits and dashes is read as a port, and a name that starts with '/' as a path.  A
range of 2^31 ports is more than an `int` can count.
-/

import EternalTerminal.Setup.TunnelReports

namespace EternalTerminal

open Library

/-- A forward in the style of ET.  A range `first`-`last` is matched port by port. -/
inductive EtForward where
  | ports (source destination : Nat)
  | ranges (first last toFirst toLast : Nat)
  | sockets (source destination : Bytes)
  | socketToPort (source : Bytes) (destination : Nat)
  | portToSocket (source : Nat) (destination : Bytes)
  | environment (name path : Bytes)

def Plain (text : Bytes) : Prop := 44 ∉ text ∧ 58 ∉ text

instance (text : Bytes) : Decidable (Plain text) :=
  inferInstanceAs (Decidable (44 ∉ text ∧ 58 ∉ text))

def IsPath (text : Bytes) : Prop := isSocketPath text = true ∧ Plain text

instance (text : Bytes) : Decidable (IsPath text) :=
  inferInstanceAs (Decidable (isSocketPath text = true ∧ Plain text))

namespace EtForward

def sourceText : EtForward → Bytes
  | ports source _ => decimal source
  | ranges first last _ _ => decimal first ++ ascii "-" ++ decimal last
  | sockets source _ => source
  | socketToPort source _ => source
  | portToSocket source _ => decimal source
  | environment name _ => name

def destinationText : EtForward → Bytes
  | ports _ destination => decimal destination
  | ranges _ _ toFirst toLast => decimal toFirst ++ ascii "-" ++ decimal toLast
  | sockets _ destination => destination
  | socketToPort _ destination => decimal destination
  | portToSocket _ destination => destination
  | environment _ path => path

def render (given : EtForward) : Bytes := given.sourceText ++ ascii ":" ++ given.destinationText

def requests : EtForward → List PortForwardSourceRequest
  | ports source destination => [forward (localPort source) (remotePort destination)]
  | ranges first last toFirst _ =>
      (List.range (last - first + 1)).map fun i =>
        forward (localPort (first + i : Nat)) (remotePort (toFirst + i : Nat))
  | sockets source destination => [forward (socketPath source) (socketPath destination)]
  | socketToPort source destination => [forward (socketPath source) (remotePort destination)]
  | portToSocket source destination => [forward (localPort source) (socketPath destination)]
  | environment name path => [forwardVariable name path]

/-- Ports are numbers below 2^31, ranges ascend and are equally long, paths start with '/'. -/
def WellFormed : EtForward → Prop
  | ports source destination => source < 2 ^ 31 ∧ destination < 2 ^ 31
  | ranges first last toFirst toLast =>
      first ≤ last ∧ toFirst ≤ toLast ∧ last - first = toLast - toFirst ∧
        last < 2 ^ 31 ∧ toLast < 2 ^ 31
  | sockets source destination => IsPath source ∧ IsPath destination
  | socketToPort source destination => IsPath source ∧ destination < 2 ^ 31
  | portToSocket source destination => source < 2 ^ 31 ∧ IsPath destination
  | environment name path => Plain name ∧ IsPath path

instance : DecidablePred WellFormed
  | ports _ _ => inferInstanceAs (Decidable (_ ∧ _))
  | ranges _ _ _ _ => inferInstanceAs (Decidable (_ ∧ _ ∧ _ ∧ _ ∧ _))
  | sockets _ _ => inferInstanceAs (Decidable (IsPath _ ∧ IsPath _))
  | socketToPort _ _ => inferInstanceAs (Decidable (IsPath _ ∧ _))
  | portToSocket _ _ => inferInstanceAs (Decidable (_ ∧ IsPath _))
  | environment _ _ => inferInstanceAs (Decidable (Plain _ ∧ IsPath _))

/-- A name is neither a number or a range nor a path, and a range has fewer than 2^31 ports. -/
def Readable : EtForward → Prop
  | ranges first last _ _ => last - first + 1 < 2 ^ 31
  | environment name _ => isNumeric name = false ∧ isSocketPath name = false
  | _ => True

end EtForward

def renderForwards (forwards : List EtForward) : Bytes :=
  [44].intercalate (forwards.map EtForward.render)

section

variable {text : Bytes} {value : Nat}

/-! ### Numerals -/

theorem not_mem_decimal {byte : UInt8} (other : isDigit byte = false) (value : Nat) :
    byte ∉ decimal value := by
  intro inNumeral
  rw [isDigit_of_mem_decimal inNumeral] at other
  cases other

theorem plain_decimal (value : Nat) : Plain (decimal value) :=
  ⟨not_mem_decimal (by decide) value, not_mem_decimal (by decide) value⟩

theorem isNumeric_decimal (value : Nat) : isNumeric (decimal value) = true := by
  rw [isNumeric, List.all_eq_true]
  intro byte inNumeral
  simp [isDigit_of_mem_decimal inNumeral]

theorem isSocketPath_of_isNumeric (numeric : isNumeric text = true) :
    isSocketPath text = false := by
  unfold isSocketPath
  split
  · cases numeric
  · rfl

theorem isNumeric_of_isSocketPath (path : isSocketPath text = true) :
    isNumeric text = false := by
  cases numeric : isNumeric text with
  | false => rfl
  | true => cases path.symm.trans (isSocketPath_of_isNumeric numeric)

theorem readPort_decimal (small : value < 2 ^ 31) : readPort (decimal value) = .ok value :=
  readPort_ok_iff.mpr (stoi_decimal small)

theorem ascii_dash : ascii "-" = [45] := by decide

theorem isNumeric_range (first last : Nat) :
    isNumeric (decimal first ++ ascii "-" ++ decimal last) = true := by
  have firstNumeric := isNumeric_decimal first
  have lastNumeric := isNumeric_decimal last
  simp only [isNumeric, ascii_dash, List.all_append, Bool.and_eq_true] at firstNumeric lastNumeric ⊢
  exact ⟨⟨firstNumeric, by decide⟩, lastNumeric⟩

theorem contains_range (first last : Nat) :
    (decimal first ++ ascii "-" ++ decimal last).contains 45 = true := by
  simp [ascii_dash]

theorem bounds_decimal {first last : Nat} (small : first < 2 ^ 31) (smallLast : last < 2 ^ 31) :
    Bounds (decimal first ++ ascii "-" ++ decimal last) (first, last) := by
  have noDash := not_mem_decimal (by decide : isDigit 45 = false)
  refine ⟨decimal first, decimal last, [], ?_, stoi_decimal small, stoi_decimal smallLast⟩
  rw [split_eq_items, ascii_dash, List.append_assoc, List.singleton_append,
    items_append_delim (noDash first), items_of_not_mem (noDash last) (decimal_ne_nil last)]

end

namespace EtForward

variable {given : EtForward}

/-! ### One forward -/

theorem requests_range {first last toFirst toLast : Nat}
    (wellFormed : (ranges first last toFirst toLast).WellFormed)
    (short : last - first + 1 < 2 ^ 31) :
    etStyleRequests (ranges first last toFirst toLast).sourceText
        (ranges first last toFirst toLast).destinationText =
      .ok (ranges first last toFirst toLast).requests := by
  obtain ⟨ascends, toAscends, same, small, toSmall⟩ := wellFormed
  have sourceBounds := bounds_decimal (by omega : first < 2 ^ 31) small
  have targetBounds := bounds_decimal (by omega : toFirst < 2 ^ 31) toSmall
  have sameForwards : rangeForwards ((first : Int), (last : Int)) (toFirst, toLast) =
      (ranges first last toFirst toLast).requests := by
    have count : ((last : Int) - first + 1).toNat = last - first + 1 := by omega
    simp only [rangeForwards, count, requests, Nat.cast_add]
  have read : rangeRequests ((first : Int), (last : Int)) (toFirst, toLast) =
      .ok (ranges first last toFirst toLast).requests := by
    rcases rangeRequests_eq sourceBounds targetBounds with
      ⟨differ, _⟩ | ⟨_, long, _⟩ | ⟨_, isForwards⟩
    · exact absurd (by omega) differ
    · exact absurd long (by omega)
    · rw [isForwards, sameForwards]
  simp only [sourceText, destinationText, etStyleRequests, isNumeric_range, contains_range,
    isSocketPath_of_isNumeric (isNumeric_range _ _), portRangeRequests,
    portRange_ok_iff.mpr sourceBounds, portRange_ok_iff.mpr targetBounds, read, Bool.or_self,
    Bool.and_self, Bool.and_true, Bool.not_true, Bool.false_eq_true, if_false, if_true]

theorem etStyleRequests_eq (wellFormed : given.WellFormed) (readable : given.Readable) :
    etStyleRequests given.sourceText given.destinationText = .ok given.requests := by
  cases given with
  | ports source destination =>
      have sourceRead := readPort_decimal wellFormed.1
      have targetRead := readPort_decimal wellFormed.2
      simp [etStyleRequests, sourceText, destinationText, requests, isNumeric_decimal,
        isSocketPath_of_isNumeric, not_mem_decimal (by decide : isDigit 45 = false),
        portPairRequests, sourceRead, targetRead]
  | ranges first last toFirst toLast => exact requests_range wellFormed readable
  | sockets source destination =>
      obtain ⟨sourcePath, targetPath⟩ := wellFormed
      simp [etStyleRequests, sourceText, destinationText, requests, sourcePath.1, targetPath.1,
        socketRequests, readEnd]
  | socketToPort source destination =>
      obtain ⟨sourcePath, small⟩ := wellFormed
      simp [etStyleRequests, sourceText, destinationText, requests, sourcePath.1,
        isSocketPath_of_isNumeric (isNumeric_decimal destination), socketRequests, readEnd,
        readPort_decimal small]
  | portToSocket source destination =>
      obtain ⟨small, targetPath⟩ := wellFormed
      simp [etStyleRequests, sourceText, destinationText, requests, targetPath.1,
        isNumeric_decimal, isSocketPath_of_isNumeric (isNumeric_decimal source), socketRequests,
        readEnd, readPort_decimal small]
  | environment name path =>
      obtain ⟨plainName, isPath⟩ := wellFormed
      obtain ⟨notNumeric, notPath⟩ := readable
      simp [etStyleRequests, sourceText, destinationText, requests, notNumeric, notPath,
        isNumeric_of_isSocketPath isPath.1]

theorem plain_range (first last : Nat) : Plain (decimal first ++ ascii "-" ++ decimal last) := by
  have firstPlain := plain_decimal first
  have lastPlain := plain_decimal last
  simp only [Plain, ascii_dash, List.mem_append, List.mem_singleton, not_or]
  exact ⟨⟨⟨firstPlain.1, by decide⟩, lastPlain.1⟩, ⟨firstPlain.2, by decide⟩, lastPlain.2⟩

theorem isPath_ne_nil {text : Bytes} (path : isSocketPath text = true) : text ≠ [] := by
  intro empty
  rw [empty] at path
  cases path

/-- The texts of a forward can stand between ':' and ',', and there is a second one. -/
theorem plain_texts (wellFormed : given.WellFormed) :
    Plain given.sourceText ∧ Plain given.destinationText ∧ given.destinationText ≠ [] := by
  cases given with
  | ports source destination =>
      exact ⟨plain_decimal source, plain_decimal destination, decimal_ne_nil destination⟩
  | ranges first last toFirst toLast =>
      refine ⟨plain_range first last, plain_range toFirst toLast, ?_⟩
      simp [destinationText, decimal_ne_nil]
  | sockets source destination =>
      exact ⟨wellFormed.1.2, wellFormed.2.2, isPath_ne_nil wellFormed.2.1⟩
  | socketToPort source destination =>
      exact ⟨wellFormed.1.2, plain_decimal destination, decimal_ne_nil destination⟩
  | portToSocket source destination =>
      exact ⟨plain_decimal source, wellFormed.2.2, isPath_ne_nil wellFormed.2.1⟩
  | environment name path =>
      exact ⟨wellFormed.1, wellFormed.2.2, isPath_ne_nil wellFormed.2.1⟩

theorem ascii_colon : ascii ":" = [58] := by decide

theorem split_render (wellFormed : given.WellFormed) :
    split 58 given.render = [given.sourceText, given.destinationText] := by
  obtain ⟨sourcePlain, targetPlain, nonempty⟩ := plain_texts wellFormed
  rw [split_eq_items, render, ascii_colon, List.append_assoc, List.singleton_append,
    items_append_delim sourcePlain.2, items_of_not_mem targetPlain.2 nonempty]

theorem render_plain (wellFormed : given.WellFormed) : 44 ∉ given.render ∧ given.render ≠ [] := by
  obtain ⟨sourcePlain, targetPlain, _⟩ := plain_texts wellFormed
  constructor
  · simp only [render, ascii_colon, List.mem_append, List.mem_singleton, not_or]
    exact ⟨⟨sourcePlain.1, by decide⟩, targetPlain.1⟩
  · simp [render, ascii_colon]

theorem elementRequests_render (input : Bytes) (wellFormed : given.WellFormed)
    (readable : given.Readable) :
    elementRequests input given.render = .ok given.requests := by
  rw [elementRequests_pair (split_render wellFormed), etStyleRequests_eq wellFormed readable]

end EtForward

/-! ### A list of forwards -/

section

variable {forwards : List EtForward}

theorem split_renderForwards (wellFormed : ∀ given ∈ forwards, given.WellFormed) :
    split 44 (renderForwards forwards) = forwards.map EtForward.render := by
  rw [split_eq_items, renderForwards]
  apply items_intercalate
  · intro text isText
    obtain ⟨given, isGiven, same⟩ := List.mem_map.mp isText
    rw [← same]
    exact (EtForward.render_plain (wellFormed given isGiven)).1
  · intro ends
    rw [List.getLast?_map] at ends
    obtain ⟨given, isLast, empty⟩ := Option.map_eq_some_iff.mp ends
    have inList := List.mem_of_getLast? isLast
    exact (EtForward.render_plain (wellFormed given inList)).2 empty

theorem parse_renderForwards (nonempty : forwards ≠ [])
    (wellFormed : ∀ given ∈ forwards, given.WellFormed)
    (readable : ∀ given ∈ forwards, given.Readable) :
    parseRangesToRequests (renderForwards forwards) =
      .ok (forwards.flatMap EtForward.requests) := by
  have elements := split_renderForwards wellFormed
  have inputNonempty : renderForwards forwards ≠ [] := by
    intro empty
    rw [empty] at elements
    exact nonempty (List.map_eq_nil_iff.mp elements.symm)
  have etStyle : ∀ argument, split 44 (renderForwards forwards) = [argument] →
      ¬ SshStyle argument := by
    intro argument isAlone
    have isRender : argument ∈ forwards.map EtForward.render := by
      rw [← elements, isAlone]
      exact List.mem_singleton_self argument
    obtain ⟨given, isGiven, same⟩ := List.mem_map.mp isRender
    rw [← same, SshStyle, EtForward.split_render (wellFormed given isGiven)]
    exact Nat.lt_irrefl 2
  rw [parseRangesToRequests_elements inputNonempty etStyle, elements, collect_ok_iff]
  refine ⟨forwards.map EtForward.requests, ?_, List.flatMap_def⟩
  rw [List.forall₂_map_left_iff, List.forall₂_map_right_iff, List.forall₂_same]
  intro given isGiven
  exact EtForward.elementRequests_render _ (wellFormed given isGiven) (readable given isGiven)

end

/-! ### The style of ssh -/

/-- `bind:port:host:hostport`; an address can stand in brackets. -/
structure SshForward where
  bind : Bytes
  port : Nat
  host : Bytes
  hostport : Nat
  bindBracketed : Bool
  hostBracketed : Bool

/-- A component that has ':' stands in brackets. -/
def IsAddress (text : Bytes) (bracketed : Bool) : Prop :=
  91 ∉ text ∧ 93 ∉ text ∧ 44 ∉ text ∧ (58 ∈ text → bracketed = true)

def renderAddress (text : Bytes) (bracketed : Bool) : Bytes :=
  if bracketed then ascii "[" ++ text ++ ascii "]" else text

namespace SshForward

def WellFormed (given : SshForward) : Prop :=
  IsAddress given.bind given.bindBracketed ∧ given.port < 2 ^ 31 ∧
    IsAddress given.host given.hostBracketed ∧ given.hostport < 2 ^ 31

def render (given : SshForward) : Bytes :=
  renderAddress given.bind given.bindBracketed ++ ascii ":" ++ decimal given.port ++ ascii ":" ++
    renderAddress given.host given.hostBracketed ++ ascii ":" ++ decimal given.hostport

def request (given : SshForward) : PortForwardSourceRequest :=
  forward { name := some given.bind, port := some given.port }
    { name := some given.host, port := some given.hostport }

end SshForward

section

variable {text : Bytes} {bracketed : Bool} {scan : SshScan} {given : SshForward}

/-- The scan takes up what is neither a bracket nor, outside of brackets, a colon. -/
theorem scan_text (noBracket : 91 ∉ text ∧ 93 ∉ text)
    (inBrackets : 58 ∈ text → scan.inBrackets = true) :
    text.foldl SshScan.next scan = { scan with currentPart := scan.currentPart ++ text } := by
  induction text generalizing scan with
  | nil => simp
  | cons byte rest ih =>
      simp only [List.mem_cons, not_or] at noBracket
      obtain ⟨⟨notOpen, restOpen⟩, notClose, restClose⟩ := noBracket
      have taken : scan.next byte =
          { scan with currentPart := scan.currentPart ++ [byte] } := by
        have colon : ¬ (byte = 58 ∧ scan.inBrackets = false) := by
          intro ends
          obtain ⟨isColon, outside⟩ := ends
          have inside := inBrackets (isColon ▸ List.mem_cons_self)
          cases outside.symm.trans inside
        unfold SshScan.next
        rw [if_neg fun same => notOpen same.symm, if_neg fun same => notClose same.symm,
          if_neg (by simpa using colon)]
      have later : rest.foldl SshScan.next (scan.next byte) =
          { scan.next byte with currentPart := (scan.next byte).currentPart ++ rest } := by
        apply ih ⟨restOpen, restClose⟩
        intro inRest
        rw [taken]
        exact inBrackets (List.mem_cons_of_mem byte inRest)
      rw [List.foldl_cons, later, taken]
      simp

theorem ascii_open : ascii "[" = [91] := by decide

theorem ascii_close : ascii "]" = [93] := by decide

theorem scan_address (address : IsAddress text bracketed) (outside : scan.inBrackets = false) :
    (renderAddress text bracketed).foldl SshScan.next scan =
      { scan with currentPart := scan.currentPart ++ text } := by
  obtain ⟨noOpen, noClose, _, colon⟩ := address
  unfold renderAddress
  cases bracketed with
  | false =>
      have noColon : 58 ∈ text → scan.inBrackets = true := by
        intro inText
        cases colon inText
      exact scan_text ⟨noOpen, noClose⟩ noColon
  | true =>
      have opened : scan.next 91 = { scan with inBrackets := true } := rfl
      have read : text.foldl SshScan.next { scan with inBrackets := true } =
          { scan with inBrackets := true, currentPart := scan.currentPart ++ text } :=
        scan_text ⟨noOpen, noClose⟩ fun _ => rfl
      rw [if_pos rfl, ascii_open, ascii_close, List.append_assoc, List.singleton_append,
        List.foldl_cons, List.foldl_append, opened, read]
      cases scan with
      | mk inBrackets currentPart parts =>
          simp only at outside
          subst outside
          rfl

theorem scan_colon (outside : scan.inBrackets = false) :
    scan.next 58 =
      { scan with
        currentPart := []
        sshArgParts := scan.sshArgParts ++ [scan.currentPart] } := by
  unfold SshScan.next
  simp [outside]

theorem scan_decimal (value : Nat) :
    (decimal value).foldl SshScan.next scan =
      { scan with currentPart := scan.currentPart ++ decimal value } := by
  have noBracket := not_mem_decimal (by decide : isDigit 91 = false) value
  have noClose := not_mem_decimal (by decide : isDigit 93 = false) value
  apply scan_text ⟨noBracket, noClose⟩
  intro colon
  exact absurd colon (not_mem_decimal (by decide) value)

theorem sshArgParts_render (wellFormed : given.WellFormed) :
    sshArgParts given.render =
      [given.bind, decimal given.port, given.host, decimal given.hostport] := by
  obtain ⟨bindAddress, _, hostAddress, _⟩ := wellFormed
  unfold sshArgParts SshForward.render
  simp only [EtForward.ascii_colon, List.foldl_append, List.foldl_cons, List.foldl_nil,
    scan_address bindAddress, scan_address hostAddress, scan_decimal, scan_colon,
    List.nil_append, List.cons_append]

theorem sshStyle_render (given : SshForward) : SshStyle given.render := by
  have three : 3 ≤ given.render.count 58 := by
    simp only [SshForward.render, EtForward.ascii_colon, List.count_append,
      List.count_cons_self, List.count_nil]
    omega
  have items := count_le_length_items 58 given.render
  rw [← split_eq_items] at items
  unfold SshStyle
  omega

theorem render_plain (wellFormed : given.WellFormed) :
    44 ∉ given.render ∧ given.render ≠ [] := by
  obtain ⟨bindAddress, _, hostAddress, _⟩ := wellFormed
  have plainAddress : ∀ {text bracketed}, IsAddress text bracketed →
      44 ∉ renderAddress text bracketed := by
    intro text bracketed address
    unfold renderAddress
    split
    · simp only [ascii_open, ascii_close, List.mem_append, List.mem_singleton, not_or]
      exact ⟨⟨by decide, address.2.2.1⟩, by decide⟩
    · exact address.2.2.1
  constructor
  · simp only [SshForward.render, EtForward.ascii_colon, List.mem_append, List.mem_singleton,
      not_or]
    exact ⟨⟨⟨⟨⟨⟨plainAddress bindAddress, by decide⟩, (plain_decimal _).1⟩, by decide⟩,
      plainAddress hostAddress⟩, by decide⟩, (plain_decimal _).1⟩
  · simp [SshForward.render, EtForward.ascii_colon]

theorem parse_sshRender (wellFormed : given.WellFormed) :
    parseRangesToRequests given.render = .ok [given.request] := by
  obtain ⟨plain, nonempty⟩ := render_plain wellFormed
  have parts := sshArgParts_render wellFormed
  obtain ⟨_, small, _, hostSmall⟩ := wellFormed
  rw [parseRangesToRequests_alone (split_single plain nonempty), if_pos (sshStyle_render given)]
  unfold sshStyleRequests parseSshTunnelArg
  simp [parts, readPort_decimal small, readPort_decimal hostSmall, SshForward.request]

end

/-- A list of forwards is read back as its requests, and an ssh-style forward as its one. -/
theorem tunnel_round_trip (forwards : List EtForward) (nonempty : forwards ≠ [])
    (wellFormed : ∀ given ∈ forwards, given.WellFormed)
    (readable : ∀ given ∈ forwards, given.Readable) (alone : SshForward)
    (aloneWellFormed : alone.WellFormed) :
    parseRangesToRequests (renderForwards forwards) =
        .ok (forwards.flatMap EtForward.requests) ∧
      parseRangesToRequests alone.render = .ok [alone.request] :=
  ⟨parse_renderForwards nonempty wellFormed readable, parse_sshRender aloneWellFormed⟩

/-- A range and a socket, and an address in brackets. -/
theorem tunnel_round_trip_range :
    parseRangesToRequests (renderForwards
        [.ranges 8000 8001 9000 9001, .sockets (ascii "/a") (ascii "/b")]) =
        .ok ([EtForward.ranges 8000 8001 9000 9001,
          .sockets (ascii "/a") (ascii "/b")].flatMap EtForward.requests) ∧
      parseRangesToRequests (SshForward.render ⟨ascii "::1", 80, ascii "h", 81, true, false⟩) =
        .ok [SshForward.request ⟨ascii "::1", 80, ascii "h", 81, true, false⟩] := by
  apply tunnel_round_trip
  · exact List.cons_ne_nil _ _
  · decide
  · simp [EtForward.Readable]
  · simp only [SshForward.WellFormed, IsAddress]
    decide

/-- A name of digits is read as a port, and 2^31 ports are too many for an `int`. -/
theorem tunnel_round_trip_misread :
    ((EtForward.environment (ascii "80") (ascii "/a")).WellFormed ∧
      parseRangesToRequests (renderForwards [.environment (ascii "80") (ascii "/a")]) =
        .ok [forward (localPort 80) (socketPath (ascii "/a"))] ∧
      [forward (localPort 80) (socketPath (ascii "/a"))] ≠
        (EtForward.environment (ascii "80") (ascii "/a")).requests) ∧
    (EtForward.ranges 0 (2 ^ 31 - 1) 0 (2 ^ 31 - 1)).WellFormed ∧
      parseRangesToRequests (renderForwards [.ranges 0 (2 ^ 31 - 1) 0 (2 ^ 31 - 1)]) =
        .error .overflow := by
  decide

end EternalTerminal
