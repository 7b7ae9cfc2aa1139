/-
Malformed tunnel arguments.

An argument should be reported, or give well-formed requests for each of its elements.  It
does neither when a number is read from a text that is no port, when a range is empty or not
finished, and when `stoi` throws outside of the `try`.
-/

import EternalTerminal.Setup.TunnelLists

namespace EternalTerminal

open Library

def argumentRequests (input element : Bytes) :
    Except TunnelFailure (List PortForwardSourceRequest) :=
  if (split 44 input).length ≤ 1 ∧ SshStyle element then sshStyleRequests element
  else elementRequests input element

def argumentTexts (input element : Bytes) : List Bytes :=
  if (split 44 input).length ≤ 1 ∧ SshStyle element then
    ((sshArgParts element)[1]?.toList ++ (sshArgParts element)[3]?.toList)
  else elementTexts element

/-- Every element between commas adds a request, every port exists, and every text that a port
is read from is a numeral. -/
structure Faithful (input : Bytes) (requests : List PortForwardSourceRequest) : Prop where
  contributed : ∃ parts,
    List.Forall₂ (fun element part => argumentRequests input element = .ok part ∧ part ≠ [])
      (input.splitOn 44) parts ∧ requests = parts.flatten
  ports : ∀ pfsr ∈ requests, ValidRequest pfsr
  numerals : ∀ element ∈ split 44 input, ∀ text ∈ argumentTexts input element,
    ∀ byte ∈ text, isDigit byte = true

def Reported (input : Bytes) : Prop :=
  match parseRangesToRequests input with
  | .ok requests => Faithful input requests
  | .error (.tunnelParse _) => True
  | .error _ => False

/-- An argument in the style of ssh, alone: its two ports are ports, or it has not four
parts. -/
def SshOrderly (input argument : Bytes) : Prop :=
  (sshArgParts argument).length ≠ 4 ∨
    ((∀ text ∈ argumentTexts input argument, IsPort text) ∧ input.getLast? ≠ some 44)

/-- A list: an element that is malformed comes before any that is undefined, or all elements
are accepted and sound. -/
def ListOrderly (input : Bytes) : Prop :=
  (∃ before element after, split 44 input = before ++ element :: after ∧
    (∀ earlier ∈ before, ElementIs Accepted earlier) ∧ Malformed element) ∨
  ((∀ element ∈ split 44 input, ElementIs Accepted element ∧ ElementIs Sound element) ∧
    input.getLast? ≠ some 44)

def Orderly (input : Bytes) : Prop :=
  (∃ argument, split 44 input = [argument] ∧ SshStyle argument ∧ SshOrderly input argument) ∨
    ((∀ argument, split 44 input = [argument] → ¬ SshStyle argument) ∧ ListOrderly input)

section

variable {input argument element : Bytes} {requests : List PortForwardSourceRequest}

theorem split_comma_ne_nil (nonempty : input ≠ []) : split 44 input ≠ [] := by
  rw [split_eq_items, ne_eq, items_eq_nil_iff]
  exact nonempty

theorem splitOn_comma (nonempty : input ≠ []) :
    input.splitOn 44 = split 44 input ++ if input.getLast? = some 44 then [[]] else [] := by
  rw [split_eq_items]
  exact splitOn_eq_items nonempty

theorem elementRequests_empty (input : Bytes) :
    elementRequests input [] = .error (.tunnelParse
      (ascii "Tunnel argument must have source and destination between a ':'")) := rfl

theorem argumentRequests_empty (input : Bytes) :
    argumentRequests input [] = .error (.tunnelParse
      (ascii "Tunnel argument must have source and destination between a ':'")) := by
  have notSsh : ¬ SshStyle [] := by decide
  rw [argumentRequests, if_neg fun both => notSsh both.2, elementRequests_empty]

theorem contributed_iff (nonempty : input ≠ []) :
    (∃ parts, List.Forall₂ (fun element part => argumentRequests input element = .ok part ∧
        part ≠ []) (input.splitOn 44) parts ∧ requests = parts.flatten) ↔
      (∃ parts, List.Forall₂ (fun element part => argumentRequests input element = .ok part ∧
        part ≠ []) (split 44 input) parts ∧ requests = parts.flatten) ∧
        input.getLast? ≠ some 44 := by
  rw [splitOn_comma nonempty]
  by_cases ends : input.getLast? = some 44
  · simp only [ends, if_true, ne_eq, not_true_eq_false, and_false, iff_false]
    intro ⟨parts, all, _⟩
    have trailing := List.forall₂_iff_get.mp all
    have lastIndex : (split 44 input).length <
        (split 44 input ++ [([] : Bytes)]).length := by
      simp
    have same := trailing.1
    have last := (trailing.2 (split 44 input).length lastIndex (same ▸ lastIndex)).1
    rw [List.get_eq_getElem, List.getElem_append_right (le_refl _)] at last
    simp only [Nat.sub_self, List.getElem_singleton, argumentRequests_empty, reduceCtorEq] at last
  · simp only [ends, if_false, List.append_nil, ne_eq, not_false_eq_true, and_true]

/-! ### An argument in the style of ssh -/

theorem sshStyleRequests_cases (argument : Bytes) :
    ((sshArgParts argument).length ≠ 4 ∧
      ∃ message, sshStyleRequests argument = .error (.tunnelParse message)) ∨
    ∃ bind port host hostport, sshArgParts argument = [bind, port, host, hostport] ∧
      ((∃ sourcePort targetPort, stoi port = .ok sourcePort ∧ stoi hostport = .ok targetPort ∧
          sshStyleRequests argument = .ok [forward { name := some bind, port := some sourcePort }
            { name := some host, port := some targetPort }]) ∨
        ((¬ ∀ text ∈ [port, hostport], ∃ number, stoi text = .ok number) ∧
          ∃ error, sshStyleRequests argument = .error (.stoi error))) := by
  by_cases four : (sshArgParts argument).length = 4
  · right
    have parsed : parseSshTunnelArg argument = .ok (sshArgParts argument) := by
      simp only [parseSshTunnelArg, four, Nat.lt_irrefl, gt_iff_lt, if_false]
    obtain ⟨bind, port, host, hostport, parts⟩ := List.length_eq_four.mp four
    refine ⟨bind, port, host, hostport, parts, ?_⟩
    unfold sshStyleRequests
    rw [parsed, parts]
    cases first : readPort port with
    | error failure =>
        obtain ⟨⟨error, isError⟩, unreadable⟩ := readPort_error first
        right
        simp [first, isError, unreadable]
    | ok sourcePort =>
        have isSource := readPort_ok_iff.mp first
        cases second : readPort hostport with
        | error failure =>
            obtain ⟨⟨error, isError⟩, unreadable⟩ := readPort_error second
            right
            simp [first, second, isError, unreadable]
        | ok targetPort =>
            have isTarget := readPort_ok_iff.mp second
            left
            simp [first, second, isSource, isTarget]
  · left
    refine ⟨four, ?_⟩
    unfold sshStyleRequests parseSshTunnelArg
    by_cases few : (sshArgParts argument).length < 4
    · simp [few]
    · have many : 4 < (sshArgParts argument).length := by omega
      simp [few, many]

theorem argument_alone (alone : split 44 input = [argument]) (ssh : SshStyle argument) :
    argumentRequests input argument = sshStyleRequests argument ∧
      argumentTexts input argument =
        (sshArgParts argument)[1]?.toList ++ (sshArgParts argument)[3]?.toList := by
  have both : (split 44 input).length ≤ 1 ∧ SshStyle argument := by
    rw [alone]
    exact ⟨le_refl 1, ssh⟩
  exact ⟨if_pos both, if_pos both⟩

theorem ssh_reported_iff (nonempty : input ≠ []) (alone : split 44 input = [argument])
    (ssh : SshStyle argument) : Reported input ↔ SshOrderly input argument := by
  obtain ⟨sameRequests, texts⟩ := argument_alone alone ssh
  have parsed : parseRangesToRequests input = sshStyleRequests argument := by
    rw [parseRangesToRequests_alone alone, if_pos ssh]
  unfold Reported SshOrderly
  rw [parsed, texts]
  rcases sshStyleRequests_cases argument with
    ⟨notFour, message, reported⟩ |
      ⟨bind, port, host, hostport, parts, ⟨sourcePort, targetPort, isSource, isTarget, given⟩ |
        ⟨unreadable, error, thrown⟩⟩
  · simp [reported, notFour]
  · have portTexts : ([bind, port, host, hostport] : List Bytes)[1]?.toList ++
        ([bind, port, host, hostport] : List Bytes)[3]?.toList = [port, hostport] := rfl
    have ports : (∀ text ∈ [port, hostport], IsPort text) ↔
        (ValidPort sourcePort ∧ ValidPort targetPort) ∧
          ∀ text ∈ [port, hostport], ∀ byte ∈ text, isDigit byte = true := by
      simp only [List.mem_cons, List.not_mem_nil, or_false, forall_eq_or_imp, forall_eq,
        isPort_iff, isSource, isTarget, Except.ok.injEq, exists_eq_left']
      tauto
    simp only [given, parts, portTexts, ports, List.length_cons, List.length_nil, Nat.reduceAdd,
      ne_eq, not_true_eq_false, false_or]
    constructor
    · intro faithful
      have valid := faithful.ports _ (List.mem_singleton_self _)
      have ends := ((contributed_iff nonempty).mp faithful.contributed).2
      have numerals := faithful.numerals argument (alone ▸ List.mem_singleton_self _)
      rw [texts, parts, portTexts] at numerals
      simp only [validRequest_forward, ValidEnd, Option.some.injEq, forall_eq'] at valid
      exact ⟨⟨valid, numerals⟩, ends⟩
    · intro orderly
      obtain ⟨⟨valid, numerals⟩, ends⟩ := orderly
      refine ⟨(contributed_iff nonempty).mpr ⟨?_, ends⟩, ?_, ?_⟩
      · refine ⟨[[_]], ?_, (List.flatten_singleton).symm⟩
        rw [alone, List.forall₂_cons]
        exact ⟨⟨sameRequests.trans given, List.cons_ne_nil _ _⟩, List.Forall₂.nil⟩
      · intro pfsr isRequest
        rw [List.mem_singleton.mp isRequest, validRequest_forward]
        simpa [ValidEnd] using valid
      · intro element isElement
        rw [alone, List.mem_singleton] at isElement
        rw [isElement, texts, parts, portTexts]
        exact numerals
  · have portTexts : ([bind, port, host, hostport] : List Bytes)[1]?.toList ++
        ([bind, port, host, hostport] : List Bytes)[3]?.toList = [port, hostport] := rfl
    have notPorts : ¬ ∀ text ∈ [port, hostport], IsPort text := by
      intro ports
      apply unreadable
      intro text inTexts
      obtain ⟨_, number, isNumber, _⟩ := isPort_iff.mp (ports text inTexts)
      exact ⟨number, isNumber⟩
    simp only [thrown, parts, portTexts, notPorts, List.length_cons, List.length_nil,
      Nat.reduceAdd, ne_eq, not_true_eq_false, false_and, or_false]

/-! ### A list -/

theorem argumentRequests_listed
    (etStyle : ∀ argument, split 44 input = [argument] → ¬ SshStyle argument)
    (isElement : element ∈ split 44 input) :
    argumentRequests input element = elementRequests input element ∧
      argumentTexts input element = elementTexts element := by
  have notAlone : ¬ ((split 44 input).length ≤ 1 ∧ SshStyle element) := by
    intro ⟨short, ssh⟩
    cases elements : split 44 input with
    | nil =>
        rw [elements] at isElement
        cases isElement
    | cons first rest =>
        rw [elements, List.length_cons] at short
        have noMore : rest = [] := List.length_eq_zero_iff.mp (by omega)
        subst noMore
        rw [elements, List.mem_singleton] at isElement
        exact etStyle first elements (isElement ▸ ssh)
  exact ⟨if_neg notAlone, if_neg notAlone⟩

theorem parseRangesToRequests_elements (nonempty : input ≠ [])
    (etStyle : ∀ argument, split 44 input = [argument] → ¬ SshStyle argument) :
    parseRangesToRequests input = collect (elementRequests input) (split 44 input) := by
  cases elements : split 44 input with
  | nil => exact absurd elements (split_comma_ne_nil nonempty)
  | cons first rest =>
      cases rest with
      | nil =>
          rw [parseRangesToRequests_alone elements, if_neg (etStyle first elements),
            collect_single]
      | cons second more =>
          rw [← elements]
          apply parseRangesToRequests_list
          rw [elements, List.length_cons, List.length_cons]
          omega

/-- The requests of accepted elements are well read exactly when the elements are sound. -/
theorem wellRead_elements {elements : List Bytes} {parts : List (List PortForwardSourceRequest)}
    (all : List.Forall₂ (fun element part => elementRequests input element = .ok part)
      elements parts) :
    ((∀ part ∈ parts, part ≠ []) ∧ (∀ pfsr ∈ parts.flatten, ValidRequest pfsr) ∧
        ∀ element ∈ elements, ∀ text ∈ elementTexts element, ∀ byte ∈ text,
          isDigit byte = true) ↔
      ∀ element ∈ elements, ElementIs Sound element := by
  induction all with
  | nil => simp
  | cons ok _ ih =>
      have first := wellRead_iff ok
      unfold WellRead at first
      simp only [List.forall_mem_cons, List.flatten_cons, List.forall_mem_append, ← ih, ← first]
      tauto

theorem parts_unique {elements : List Bytes} {parts others : List (List PortForwardSourceRequest)}
    (all : List.Forall₂ (fun element part => elementRequests input element = .ok part)
      elements parts)
    (allOthers : List.Forall₂ (fun element part => elementRequests input element = .ok part)
      elements others) : others = parts := by
  apply List.right_unique_forall₂' _ allOthers all
  intro element part other isPart isOther
  exact Except.ok.inj (isPart.symm.trans isOther)

theorem faithful_iff (nonempty : input ≠ [])
    (etStyle : ∀ argument, split 44 input = [argument] → ¬ SshStyle argument)
    {parts : List (List PortForwardSourceRequest)}
    (all : List.Forall₂ (fun element part => elementRequests input element = .ok part)
      (split 44 input) parts) (flat : requests = parts.flatten) :
    Faithful input requests ↔
      (∀ element ∈ split 44 input, ElementIs Sound element) ∧ input.getLast? ≠ some 44 := by
  have listed := fun element => @argumentRequests_listed input element etStyle
  rw [← wellRead_elements all]
  constructor
  · intro faithful
    obtain ⟨⟨others, allOthers, _⟩, ends⟩ := (contributed_iff nonempty).mp faithful.contributed
    have sameParts : others = parts := by
      apply parts_unique all
      have both := List.forall₂_iff_zip.mp allOthers
      apply List.forall₂_iff_zip.mpr
      refine ⟨both.1, ?_⟩
      intro element part inZip
      have inList := (List.of_mem_zip inZip).1
      rw [← (listed element inList).1]
      exact (both.2 inZip).1
    subst sameParts
    refine ⟨⟨?_, ?_, ?_⟩, ends⟩
    · intro part inParts
      obtain ⟨index, bound, isPart⟩ := List.getElem_of_mem inParts
      have both := List.forall₂_iff_get.mp allOthers
      have atIndex := both.2 index (by rw [both.1]; exact bound) bound
      rw [← isPart]
      exact atIndex.2
    · rw [← flat]
      exact faithful.ports
    · intro element isElement
      rw [← (listed element isElement).2]
      exact faithful.numerals element isElement
  · intro ⟨⟨nonemptyParts, valid, numerals⟩, ends⟩
    refine ⟨(contributed_iff nonempty).mpr ⟨⟨parts, ?_, flat⟩, ends⟩, ?_, ?_⟩
    · have both := List.forall₂_iff_zip.mp all
      apply List.forall₂_iff_zip.mpr
      refine ⟨both.1, ?_⟩
      intro element part inZip
      obtain ⟨inList, inParts⟩ := List.of_mem_zip inZip
      rw [(listed element inList).1]
      exact ⟨both.2 inZip, nonemptyParts part inParts⟩
    · rw [flat]
      exact valid
    · intro element isElement
      rw [(listed element isElement).2]
      exact numerals element isElement

theorem list_reported_iff (nonempty : input ≠ [])
    (etStyle : ∀ argument, split 44 input = [argument] → ¬ SshStyle argument) :
    Reported input ↔ ListOrderly input := by
  have parsed := parseRangesToRequests_elements nonempty etStyle
  unfold Reported ListOrderly
  rw [parsed]
  cases taken : collect (elementRequests input) (split 44 input) with
  | ok requests =>
      obtain ⟨parts, all, flat⟩ := collect_ok_iff.mp taken
      have accepted : ∀ element ∈ split 44 input, ElementIs Accepted element := by
        intro element isElement
        obtain ⟨index, bound, isElement⟩ := List.getElem_of_mem isElement
        have both := List.forall₂_iff_get.mp all
        have atIndex := both.2 index bound (by rw [← both.1]; exact bound)
        rw [← isElement]
        exact elementRequests_ok_iff.mp ⟨_, atIndex⟩
      have noneMalformed : ¬ ∃ before element after,
          split 44 input = before ++ element :: after ∧
            (∀ earlier ∈ before, ElementIs Accepted earlier) ∧ Malformed element := by
        intro ⟨before, element, after, elements, _, malformed⟩
        apply malformed.1
        apply accepted
        rw [elements]
        exact List.mem_append_right before List.mem_cons_self
      simp only [faithful_iff nonempty etStyle all flat, noneMalformed, false_or]
      constructor
      · intro ⟨sound, ends⟩
        exact ⟨fun element isElement => ⟨accepted element isElement, sound element isElement⟩,
          ends⟩
      · intro ⟨both, ends⟩
        exact ⟨fun element isElement => (both element isElement).2, ends⟩
  | error failure =>
      obtain ⟨before, element, after, elements, allBefore, failed⟩ := collect_error_iff.mp taken
      have acceptedBefore : ∀ earlier ∈ before, ElementIs Accepted earlier :=
        fun earlier isEarlier => elementRequests_ok_iff.mp (allBefore earlier isEarlier)
      have isElement : element ∈ split 44 input :=
        elements ▸ List.mem_append_right before List.mem_cons_self
      rcases elementRequests_cases input element with
        ⟨_, _, given, isGiven, _⟩ | ⟨notAccepted, undefined, kinds⟩ |
          ⟨malformed, message, isMessage⟩
      · cases isGiven.symm.trans failed
      · have notOrderly : ¬ ((∃ before element after,
            split 44 input = before ++ element :: after ∧
              (∀ earlier ∈ before, ElementIs Accepted earlier) ∧ Malformed element) ∨
            ((∀ element ∈ split 44 input, ElementIs Accepted element ∧ ElementIs Sound element) ∧
              input.getLast? ≠ some 44)) := by
          intro orderly
          cases orderly with
          | inl stopped =>
              obtain ⟨front, other, rest, others, allFront, malformed⟩ := stopped
              obtain ⟨message, isMessage⟩ :=
                (@elementRequests_reported_iff input other).mpr malformed
              have reported := collect_error_iff.mpr ⟨front, other, rest, others,
                fun earlier isEarlier => elementRequests_ok_iff.mpr (allFront earlier isEarlier),
                isMessage⟩
              cases taken.symm.trans reported
              cases kinds with
              | inl isIndex => cases isIndex.symm.trans failed
              | inr isOverflow => cases isOverflow.symm.trans failed
          | inr sound => exact notAccepted (sound.1 element isElement).1
        simp only [notOrderly, iff_false]
        cases kinds with
        | inl isIndex =>
            cases isIndex.symm.trans failed
            exact fun impossible => impossible
        | inr isOverflow =>
            cases isOverflow.symm.trans failed
            exact fun impossible => impossible
      · cases isMessage.symm.trans failed
        exact iff_of_true trivial
          (Or.inl ⟨before, element, after, elements, acceptedBefore, malformed⟩)

end

/-- An argument is reported or read faithfully exactly when it is orderly. -/
theorem tunnel_argument_reported_iff {input : Bytes} (nonempty : input ≠ []) :
    Reported input ↔ Orderly input := by
  unfold Orderly
  by_cases alone : ∃ argument, split 44 input = [argument] ∧ SshStyle argument
  · obtain ⟨argument, isAlone, ssh⟩ := alone
    rw [ssh_reported_iff nonempty isAlone ssh]
    constructor
    · intro orderly
      exact Or.inl ⟨argument, isAlone, ssh, orderly⟩
    · intro orderly
      cases orderly with
      | inl style =>
          obtain ⟨other, isOther, _, orderly⟩ := style
          cases isAlone.symm.trans isOther
          exact orderly
      | inr etStyle => exact absurd ssh (etStyle.1 argument isAlone)
  · have etStyle : ∀ argument, split 44 input = [argument] → ¬ SshStyle argument :=
      fun argument isAlone ssh => alone ⟨argument, isAlone, ssh⟩
    rw [list_reported_iff nonempty etStyle]
    constructor
    · intro orderly
      exact Or.inr ⟨etStyle, orderly⟩
    · intro orderly
      cases orderly with
      | inl style =>
          obtain ⟨argument, isAlone, ssh, _⟩ := style
          exact absurd ssh (etStyle argument isAlone)
      | inr list => exact list.2

/-- A range against a single port is reported. -/
theorem tunnel_argument_half_range : Reported (ascii "8000-8001:9000") := by
  have malformed : Malformed (ascii "8000-8001:9000") :=
    (@elementRequests_reported_iff (ascii "8000-8001:9000") _).mp ⟨_, by rfl⟩
  have elements : split 44 (ascii "8000-8001:9000") = [ascii "8000-8001:9000"] := by decide
  refine (tunnel_argument_reported_iff (by decide)).mpr (Or.inr ⟨?_, Or.inl
    ⟨[], ascii "8000-8001:9000", [], elements, by simp, malformed⟩⟩)
  intro argument isAlone
  cases elements.symm.trans isAlone
  decide

/-- `stoi` throws outside of the `try`, an index is past the end of a vector, and a port that
does not exist is set while an empty range adds nothing. -/
theorem tunnel_argument_misread :
    parseRangesToRequests (ascii "a:b:c:d") = .error (.stoi .invalidArgument) ∧
      parseRangesToRequests (ascii "80-:90-") = .error .badIndex ∧
      parseRangesToRequests (ascii "80x:99999,2-1:2-1") =
        .ok [forward (localPort 80) (remotePort 99999)] ∧
      ¬ Reported (ascii "a:b:c:d") ∧ ¬ Reported (ascii "80-:90-") := by
  have thrown : parseRangesToRequests (ascii "a:b:c:d") = .error (.stoi .invalidArgument) := by
    decide
  have outside : parseRangesToRequests (ascii "80-:90-") = .error .badIndex := by decide
  refine ⟨thrown, outside, by decide, ?_, ?_⟩
  · rw [Reported, thrown]
    exact fun impossible => impossible
  · rw [Reported, outside]
    exact fun impossible => impossible

end EternalTerminal
