/-
Lists of tunnel arguments.

In a list every element is read as an ET-style forward, by its first two items between ':'.
An argument in the style of ssh is read as such only when it stands alone.
-/

import EternalTerminal.Setup.TunnelElements

namespace EternalTerminal

open Library

/-- What an element of a list adds; the whole argument is only for the message. -/
def elementRequests (input element : Bytes) :
    Except TunnelFailure (List PortForwardSourceRequest) :=
  processEtStyleTunnelArg [] (split 58 element) input

/-- More than two items between ':': the style of ssh. -/
def SshStyle (argument : Bytes) : Prop := 2 < (split 58 argument).length

instance (argument : Bytes) : Decidable (SshStyle argument) :=
  inferInstanceAs (Decidable (2 < (split 58 argument).length))

/-- A property of the two texts that an element is read by. -/
def ElementIs (holds : Bytes → Bytes → Prop) (element : Bytes) : Prop :=
  ∃ source destination more, split 58 element = source :: destination :: more ∧
    holds source destination

def Malformed (element : Bytes) : Prop :=
  ¬ ElementIs Accepted element ∧ ¬ ElementIs Undefined element

def elementTexts (element : Bytes) : List Bytes :=
  match split 58 element with
  | source :: destination :: _ => portTexts source destination
  | _ => []

section

variable {input element source destination : Bytes} {more : List Bytes}
  {requests : List PortForwardSourceRequest}

theorem elementIs_iff {holds : Bytes → Bytes → Prop}
    (items : split 58 element = source :: destination :: more) :
    ElementIs holds element ↔ holds source destination := by
  constructor
  · intro ⟨first, second, others, same, held⟩
    rw [items] at same
    cases same
    exact held
  · intro held
    exact ⟨source, destination, more, items, held⟩

theorem elementRequests_pair (items : split 58 element = source :: destination :: more) :
    elementRequests input element =
      match etStyleRequests source destination with
      | .error failure => .error (reportLogicError input failure)
      | .ok requests => .ok requests := by
  unfold elementRequests processEtStyleTunnelArg
  cases made : etStyleRequests source destination with
  | error failure => simp only [items, made]
  | ok requests => simp only [items, made, List.nil_append]

theorem elementRequests_short (short : (split 58 element).length < 2) :
    Malformed element ∧
      elementRequests input element = .error (.tunnelParse
        (ascii "Tunnel argument must have source and destination between a ':'")) := by
  have noPair : ∀ holds, ¬ ElementIs holds element := by
    intro holds isPair
    obtain ⟨source, destination, more, items, _⟩ := isPair
    rw [items, List.length_cons, List.length_cons] at short
    omega
  refine ⟨⟨noPair _, noPair _⟩, ?_⟩
  unfold elementRequests processEtStyleTunnelArg
  split
  · rename_i source destination more items
    rw [items, List.length_cons, List.length_cons] at short
    omega
  · rfl

theorem exists_pair (long : ¬ (split 58 element).length < 2) :
    ∃ source destination more, split 58 element = source :: destination :: more := by
  revert long
  rcases split 58 element with _ | ⟨source, _ | ⟨destination, more⟩⟩ <;> intro long
  · exact absurd Nat.zero_lt_two long
  · exact absurd Nat.one_lt_two long
  · exact ⟨source, destination, more, rfl⟩

theorem elementRequests_cases (input element : Bytes) :
    (ElementIs Accepted element ∧ ¬ ElementIs Undefined element ∧
      ∃ requests, elementRequests input element = .ok requests ∧
        (WellRead (elementTexts element) requests ↔ ElementIs Sound element)) ∨
    (¬ ElementIs Accepted element ∧ ElementIs Undefined element ∧
      (elementRequests input element = .error .badIndex ∨
        elementRequests input element = .error .overflow)) ∨
    (Malformed element ∧
      ∃ message, elementRequests input element = .error (.tunnelParse message)) := by
  by_cases short : (split 58 element).length < 2
  · right
    right
    obtain ⟨malformed, failed⟩ := elementRequests_short short
    exact ⟨malformed, _, failed⟩
  · obtain ⟨source, destination, more, items⟩ := exists_pair short
    have texts : elementTexts element = portTexts source destination := by
      simp only [elementTexts, items]
    simp only [Malformed, elementIs_iff items, elementRequests_pair items, texts]
    rcases etStyleRequests_cases source destination with
      ⟨accepted, defined, requests, isRequests, wellRead⟩ |
        ⟨notAccepted, undefined, failed⟩ | ⟨notAccepted, defined, failed⟩
    · left
      exact ⟨accepted, defined, requests, by simp only [isRequests], wellRead⟩
    · right
      left
      refine ⟨notAccepted, undefined, ?_⟩
      cases failed with
      | inl isIndex =>
          left
          simp only [isIndex, reportLogicError]
      | inr isOverflow =>
          right
          simp only [isOverflow, reportLogicError]
    · right
      right
      refine ⟨⟨notAccepted, defined⟩, ?_⟩
      cases failed with
      | inl isStoi =>
          obtain ⟨error, isError⟩ := isStoi
          simp only [isError, reportLogicError]
          exact ⟨_, rfl⟩
      | inr isParse =>
          obtain ⟨message, isMessage⟩ := isParse
          simp only [isMessage, reportLogicError]
          exact ⟨message, rfl⟩

theorem elementRequests_ok_iff :
    (∃ requests, elementRequests input element = .ok requests) ↔ ElementIs Accepted element := by
  rcases elementRequests_cases input element with
    ⟨accepted, _, requests, isRequests, _⟩ | ⟨notAccepted, _, failed⟩ | ⟨malformed, message, failed⟩
  · exact iff_of_true ⟨requests, isRequests⟩ accepted
  · apply iff_of_false _ notAccepted
    intro ⟨requests, isRequests⟩
    cases failed with
    | inl isIndex => cases isIndex.symm.trans isRequests
    | inr isOverflow => cases isOverflow.symm.trans isRequests
  · apply iff_of_false _ malformed.1
    intro ⟨requests, isRequests⟩
    cases failed.symm.trans isRequests

theorem elementRequests_reported_iff :
    (∃ message, elementRequests input element = .error (.tunnelParse message)) ↔
      Malformed element := by
  rcases elementRequests_cases input element with
    ⟨accepted, _, requests, isRequests, _⟩ | ⟨_, undefined, failed⟩ | ⟨malformed, message, failed⟩
  · apply iff_of_false _ fun malformed => malformed.1 accepted
    intro ⟨message, isMessage⟩
    cases isRequests.symm.trans isMessage
  · apply iff_of_false _ fun malformed => malformed.2 undefined
    intro ⟨message, isMessage⟩
    cases failed with
    | inl isIndex => cases isIndex.symm.trans isMessage
    | inr isOverflow => cases isOverflow.symm.trans isMessage
  · exact iff_of_true ⟨message, failed⟩ malformed

theorem wellRead_iff (ok : elementRequests input element = .ok requests) :
    WellRead (elementTexts element) requests ↔ ElementIs Sound element := by
  rcases elementRequests_cases input element with
    ⟨_, _, others, isOthers, wellRead⟩ | ⟨_, _, isIndex | isOverflow⟩ | ⟨_, message, isMessage⟩
  · cases isOthers.symm.trans ok
    exact wellRead
  · cases isIndex.symm.trans ok
  · cases isOverflow.symm.trans ok
  · cases isMessage.symm.trans ok

theorem elementRequests_ok_any (other : Bytes)
    (ok : elementRequests input element = .ok requests) :
    elementRequests other element = .ok requests := by
  by_cases short : (split 58 element).length < 2
  · cases ok.symm.trans (elementRequests_short short).2
  · obtain ⟨source, destination, more, items⟩ := exists_pair short
    rw [elementRequests_pair items] at ok ⊢
    cases taken : etStyleRequests source destination with
    | error failure =>
        rw [taken] at ok
        cases ok
    | ok given =>
        rw [taken] at ok
        exact ok

/-! ### The loop over a list -/

theorem processEtStyleTunnelArg_appends (pfsrs : List PortForwardSourceRequest)
    (sourceDestination : List Bytes) :
    processEtStyleTunnelArg pfsrs sourceDestination input =
      (processEtStyleTunnelArg [] sourceDestination input).map (pfsrs ++ ·) := by
  unfold processEtStyleTunnelArg
  split
  · rename_i first second _
    cases etStyleRequests first second with
    | error failure => rfl
    | ok given => rfl
  · rfl

theorem parseRangesToRequests_list (several : 1 < (split 44 input).length) :
    parseRangesToRequests input = collect (elementRequests input) (split 44 input) := by
  have loop :
      (split 44 input).foldlM
          (fun pfsrs element => processEtStyleTunnelArg pfsrs (split 58 element) input) [] =
        (collect (elementRequests input) (split 44 input)).map ([] ++ ·) :=
    foldlM_eq_collect
      (fun pfsrs element => processEtStyleTunnelArg_appends pfsrs (split 58 element))
      (split 44 input) []
  have same : (collect (elementRequests input) (split 44 input)).map ([] ++ ·) =
      collect (elementRequests input) (split 44 input) := by
    cases collect (elementRequests input) (split 44 input) <;> rfl
  unfold parseRangesToRequests
  simp only [gt_iff_lt, several, if_true]
  exact loop.trans same

theorem collect_single {step : Bytes → Except TunnelFailure (List PortForwardSourceRequest)}
    (element : Bytes) : collect step [element] = step element := by
  cases taken : step element with
  | error failure => simp only [collect, taken]
  | ok given => simp only [collect, taken, List.append_nil]

theorem parseRangesToRequests_alone (alone : split 44 input = [element]) :
    parseRangesToRequests input =
      if SshStyle element then sshStyleRequests element else elementRequests input element := by
  unfold parseRangesToRequests
  simp only [alone, List.length_singleton, gt_iff_lt, Nat.lt_irrefl, if_false]
  by_cases ssh : SshStyle element
  · rw [if_pos ssh]
    exact if_neg (Nat.not_le.mpr ssh)
  · rw [if_neg ssh]
    exact if_pos (Nat.not_lt.mp ssh)

/-! ### Two arguments in one list -/

/-- No ET-style forward names both a host and a port to go to. -/
theorem etStyleRequests_destination (ok : etStyleRequests source destination = .ok requests) :
    ∀ pfsr ∈ requests, pfsr.destination.name = none ∨ pfsr.destination.port = none := by
  have oneOf : ∀ endpoint, readEnd remotePort destination = .ok endpoint →
      endpoint.name = none ∨ endpoint.port = none := by
    intro endpoint isEnd
    rcases readEnd_cases remotePort destination with
      ⟨_, other, isOther, ⟨_, same⟩ | ⟨port, _, _, same⟩⟩ | ⟨_, error, failed⟩
    · cases isOther.symm.trans isEnd
      exact Or.inr (by rw [same]; rfl)
    · cases isOther.symm.trans isEnd
      exact Or.inl (by rw [same]; rfl)
    · cases failed.symm.trans isEnd
  have socket : ∀ {given}, socketRequests source destination = .ok given →
      ∀ pfsr ∈ given, pfsr.destination.name = none ∨ pfsr.destination.port = none := by
    intro given isGiven
    unfold socketRequests at isGiven
    cases sourceRead : readEnd localPort source with
    | error failure =>
        rw [sourceRead] at isGiven
        cases isGiven
    | ok sourceEnd =>
        cases targetRead : readEnd remotePort destination with
        | error failure =>
            rw [sourceRead, targetRead] at isGiven
            cases isGiven
        | ok targetEnd =>
            simp only [sourceRead, targetRead, Except.ok.injEq] at isGiven
            rw [← isGiven]
            intro pfsr isForward
            rw [List.mem_singleton.mp isForward]
            exact oneOf targetEnd targetRead
  rw [etStyleRequests_eq] at ok
  cases form : etForm source destination with
  | socket =>
      rw [form] at ok
      exact socket ok
  | environment =>
      simp only [form, Except.ok.injEq] at ok
      rw [← ok]
      intro pfsr isForward
      rw [List.mem_singleton.mp isForward]
      exact Or.inr rfl
  | range =>
      simp only [form, portRangeRequests] at ok
      cases sourceRead : portRange source with
      | error failure =>
          rw [sourceRead] at ok
          cases ok
      | ok sourceRange =>
          cases targetRead : portRange destination with
          | error failure =>
              rw [sourceRead, targetRead] at ok
              cases ok
          | ok targetRange =>
              simp only [sourceRead, targetRead] at ok
              rcases rangeRequests_eq (portRange_ok_iff.mp sourceRead)
                  (portRange_ok_iff.mp targetRead) with
                ⟨_, message, reported⟩ | ⟨_, _, overflows⟩ | ⟨_, isForwards⟩
              · cases reported.symm.trans ok
              · cases overflows.symm.trans ok
              · cases isForwards.symm.trans ok
                intro pfsr inRange
                obtain ⟨i, _, isForward⟩ := List.mem_map.mp inRange
                rw [← isForward]
                exact Or.inl rfl
  | halfRange =>
      rw [form] at ok
      cases ok
  | portPair =>
      simp only [form, (portPairRequests_eq form).1] at ok
      exact socket ok

theorem elementRequests_destination (ok : elementRequests input element = .ok requests) :
    ∀ pfsr ∈ requests, pfsr.destination.name = none ∨ pfsr.destination.port = none := by
  obtain ⟨source, destination, more, items, _⟩ := elementRequests_ok_iff.mp ⟨requests, ok⟩
  rw [elementRequests_pair items] at ok
  cases taken : etStyleRequests source destination with
  | error failure =>
      rw [taken] at ok
      cases ok
  | ok given =>
      rw [taken] at ok
      cases ok
      exact etStyleRequests_destination taken

theorem sshStyleRequests_ok (ok : sshStyleRequests element = .ok requests) :
    ∃ bind port host hostport, requests =
      [forward { name := some bind, port := some port }
        { name := some host, port := some hostport }] := by
  unfold sshStyleRequests at ok
  split at ok
  · cases ok
  · rename_i bind port host hostport _
    cases first : readPort port with
    | error failure =>
        rw [first] at ok
        cases ok
    | ok sourcePort =>
        cases second : readPort hostport with
        | error failure =>
            rw [first, second] at ok
            cases ok
        | ok targetPort =>
            rw [first, second] at ok
            cases ok
            exact ⟨bind, sourcePort, host, targetPort, rfl⟩
  · cases ok

theorem split_single (plain : 44 ∉ element) (nonempty : element ≠ []) :
    split 44 element = [element] := by
  rw [split_eq_items]
  exact items_of_not_mem plain nonempty

theorem accepted_nonempty (ok : parseRangesToRequests input = .ok requests) : input ≠ [] := by
  intro empty
  rw [empty] at ok
  cases ok

/-- What an argument gives alone and what it gives as an element of a list. -/
theorem alone_or_listed (plain : 44 ∉ element)
    (ok : parseRangesToRequests element = .ok requests) :
    (¬ SshStyle element ∧ elementRequests element element = .ok requests) ∨
      (SshStyle element ∧ sshStyleRequests element = .ok requests) := by
  have alone := split_single plain (accepted_nonempty ok)
  rw [parseRangesToRequests_alone alone] at ok
  by_cases ssh : SshStyle element
  · rw [if_pos ssh] at ok
    exact Or.inr ⟨ssh, ok⟩
  · rw [if_neg ssh] at ok
    exact Or.inl ⟨ssh, ok⟩

theorem alone_accepted (plain : 44 ∉ element) (ok : parseRangesToRequests element = .ok requests)
    (etStyle : ¬ SshStyle element) (input : Bytes) :
    ElementIs Accepted element ∧ elementRequests input element = .ok requests := by
  cases alone_or_listed plain ok with
  | inl listed =>
      exact ⟨elementRequests_ok_iff.mp ⟨requests, listed.2⟩,
        elementRequests_ok_any input listed.2⟩
  | inr ssh => exact absurd ssh.1 etStyle

theorem ssh_not_listed {listed : List PortForwardSourceRequest}
    (ssh : sshStyleRequests element = .ok requests)
    (ok : ∀ pfsr ∈ listed, pfsr.destination.name = none ∨ pfsr.destination.port = none)
    {pfsr : PortForwardSourceRequest} (isRequest : pfsr ∈ requests) : pfsr ∉ listed := by
  obtain ⟨bind, port, host, hostport, isOne⟩ := sshStyleRequests_ok ssh
  rw [isOne, List.mem_singleton] at isRequest
  intro inListed
  cases ok pfsr inListed with
  | inl noName =>
      rw [isRequest] at noName
      cases noName
  | inr noPort =>
      rw [isRequest] at noPort
      cases noPort

end

section

variable {input first second : Bytes}
  {firstRequests secondRequests firstListed secondListed : List PortForwardSourceRequest}

theorem parseRangesToRequests_pair (firstPlain : 44 ∉ first) (secondPlain : 44 ∉ second)
    (secondNonempty : second ≠ []) :
    parseRangesToRequests (first ++ ascii "," ++ second) =
      collect (elementRequests (first ++ ascii "," ++ second)) [first, second] := by
  have comma : ascii "," = [44] := by decide
  have elements : split 44 (first ++ ascii "," ++ second) = [first, second] := by
    rw [split_eq_items, comma, List.append_assoc, List.singleton_append,
      items_append_delim firstPlain, items_of_not_mem secondPlain secondNonempty]
  have several : 1 < (split 44 (first ++ ascii "," ++ second)).length := by
    rw [elements]
    exact Nat.lt_succ_self 1
  rw [parseRangesToRequests_list several, elements]

/-- The requests of the list are those of its arguments only if no argument is in the style
of ssh. -/
theorem listed_same_iff (firstPlain : 44 ∉ first) (secondPlain : 44 ∉ second)
    (firstAccepted : parseRangesToRequests first = .ok firstRequests)
    (secondAccepted : parseRangesToRequests second = .ok secondRequests)
    (firstOk : elementRequests input first = .ok firstListed)
    (secondOk : elementRequests input second = .ok secondListed) :
    firstListed ++ secondListed = firstRequests ++ secondRequests ↔
      ¬ SshStyle first ∧ ¬ SshStyle second := by
  have listed : ∀ pfsr ∈ firstListed ++ secondListed,
      pfsr.destination.name = none ∨ pfsr.destination.port = none := by
    intro pfsr inListed
    cases List.mem_append.mp inListed with
    | inl inFirst => exact elementRequests_destination firstOk pfsr inFirst
    | inr inSecond => exact elementRequests_destination secondOk pfsr inSecond
  constructor
  · intro same
    constructor
    · intro ssh
      cases alone_or_listed firstPlain firstAccepted with
      | inl etStyle => exact etStyle.1 ssh
      | inr alone =>
          obtain ⟨bind, port, host, hostport, isOne⟩ := sshStyleRequests_ok alone.2
          have inRequests : forward ⟨some bind, some port⟩ ⟨some host, some hostport⟩ ∈
              firstRequests := isOne ▸ List.mem_singleton_self _
          exact ssh_not_listed alone.2 listed inRequests
            (same ▸ List.mem_append_left _ inRequests)
    · intro ssh
      cases alone_or_listed secondPlain secondAccepted with
      | inl etStyle => exact etStyle.1 ssh
      | inr alone =>
          obtain ⟨bind, port, host, hostport, isOne⟩ := sshStyleRequests_ok alone.2
          have inRequests : forward ⟨some bind, some port⟩ ⟨some host, some hostport⟩ ∈
              secondRequests := isOne ▸ List.mem_singleton_self _
          exact ssh_not_listed alone.2 listed inRequests
            (same ▸ List.mem_append_right _ inRequests)
  · intro ⟨firstStyle, secondStyle⟩
    have firstSame := (alone_accepted firstPlain firstAccepted firstStyle input).2
    have secondSame := (alone_accepted secondPlain secondAccepted secondStyle input).2
    cases firstOk.symm.trans firstSame
    cases secondOk.symm.trans secondSame
    rfl

end

/-- A list of two arguments, each of which is accepted alone, gives what they give, or is
reported, exactly when both are ET-style or one that cannot be read as ET-style stops it. -/
theorem tunnel_list_iff {first second : Bytes}
    {firstRequests secondRequests : List PortForwardSourceRequest}
    (firstPlain : 44 ∉ first) (secondPlain : 44 ∉ second)
    (firstAccepted : parseRangesToRequests first = .ok firstRequests)
    (secondAccepted : parseRangesToRequests second = .ok secondRequests) :
    (parseRangesToRequests (first ++ ascii "," ++ second) =
        .ok (firstRequests ++ secondRequests) ∨
      ∃ message, parseRangesToRequests (first ++ ascii "," ++ second) =
        .error (.tunnelParse message)) ↔
      (¬ SshStyle first ∧ ¬ SshStyle second) ∨ Malformed first ∨
        (¬ ElementIs Undefined first ∧ Malformed second) := by
  rw [parseRangesToRequests_pair firstPlain secondPlain (accepted_nonempty secondAccepted)]
  have firstAlone := fun etStyle => (alone_accepted firstPlain firstAccepted etStyle first).1
  have secondAlone := fun etStyle => (alone_accepted secondPlain secondAccepted etStyle second).1
  generalize first ++ ascii "," ++ second = list
  rcases elementRequests_cases list first with
    ⟨accepted, defined, firstListed, firstOk, _⟩ | ⟨notAccepted, undefined, failed⟩ |
      ⟨malformed, message, failed⟩
  · have notMalformed : ¬ Malformed first := fun malformed => malformed.1 accepted
    rcases elementRequests_cases list second with
      ⟨accepted', _, secondListed, secondOk, _⟩ | ⟨notAccepted, undefined, failed⟩ |
        ⟨malformed, message, failed⟩
    · have notMalformed' : ¬ Malformed second := fun malformed => malformed.1 accepted'
      have both := listed_same_iff firstPlain secondPlain firstAccepted secondAccepted
        firstOk secondOk
      simp only [collect, firstOk, secondOk, List.append_nil, Except.ok.injEq, both,
        reduceCtorEq, exists_false, or_false, notMalformed, notMalformed', and_false]
    · have notMalformed' : ¬ Malformed second := fun malformed => malformed.2 undefined
      have isSsh : ¬¬ SshStyle second := fun etStyle => notAccepted (secondAlone etStyle)
      cases failed with
      | inl isIndex =>
          simp [collect, firstOk, isIndex, notMalformed, notMalformed', not_not.mp isSsh]
      | inr isOverflow =>
          simp [collect, firstOk, isOverflow, notMalformed, notMalformed', not_not.mp isSsh]
    · simp [collect, firstOk, failed, malformed, defined]
  · have notMalformed : ¬ Malformed first := fun malformed => malformed.2 undefined
    have isSsh : ¬¬ SshStyle first := fun etStyle => notAccepted (firstAlone etStyle)
    cases failed with
    | inl isIndex =>
        simp [collect, isIndex, notMalformed, undefined, not_not.mp isSsh]
    | inr isOverflow =>
        simp [collect, isOverflow, notMalformed, undefined, not_not.mp isSsh]
  · simp [collect, failed, malformed]

/-- The hosts of the first argument, in the style of ssh, cannot be read as ports. -/
theorem tunnel_list_named_hosts :
    parseRangesToRequests (ascii "a:80:b:81" ++ ascii "," ++ ascii "1:2") =
        .ok ([forward ⟨some (ascii "a"), some 80⟩ ⟨some (ascii "b"), some 81⟩] ++
          [forward (localPort 1) (remotePort 2)]) ∨
      ∃ message, parseRangesToRequests (ascii "a:80:b:81" ++ ascii "," ++ ascii "1:2") =
        .error (.tunnelParse message) := by
  have reported := elementRequests_reported_iff.mp
    ⟨_, (by rfl : elementRequests (ascii "a:80:b:81") (ascii "a:80:b:81") = .error (.tunnelParse
      (ascii "Invalid tunnel argument '" ++ ascii "a:80:b:81" ++ ascii "': " ++ ascii "stoi")))⟩
  exact (tunnel_list_iff (by decide) (by decide) (by decide) (by decide)).mpr
    (Or.inr (Or.inl reported))

/-- In a list, the address to bind to is read as a port, and the port as the destination. -/
theorem tunnel_list_misread :
    parseRangesToRequests (ascii "127.0.0.1:8080:localhost:9090") =
        .ok [forward ⟨some (ascii "127.0.0.1"), some 8080⟩
          ⟨some (ascii "localhost"), some 9090⟩] ∧
      parseRangesToRequests (ascii "1:2") = .ok [forward (localPort 1) (remotePort 2)] ∧
      parseRangesToRequests (ascii "127.0.0.1:8080:localhost:9090" ++ ascii "," ++ ascii "1:2") =
        .ok [forward (localPort 127) (remotePort 8080), forward (localPort 1) (remotePort 2)] ∧
      [forward (localPort 127) (remotePort 8080), forward (localPort 1) (remotePort 2)] ≠
        [forward ⟨some (ascii "127.0.0.1"), some 8080⟩ ⟨some (ascii "localhost"), some 9090⟩] ++
          [forward (localPort 1) (remotePort 2)] := by
  decide

end EternalTerminal
