/-
Two stations that each accept and serve, and the moves either can make.

The rules are given for the station that is `here`; `swap` is the view from the other
one.
-/

import Mathlib.Logic.Relation
import EternalTerminal.Library.MultiplexerLink

namespace EternalTerminal.Library.Multiplexer

variable {Id Chunk : Type}

structure Net (Id Chunk : Type) where
  here : Station Id Chunk
  there : Station Id Chunk
  toHere : List (Letter Id Chunk)
  toThere : List (Letter Id Chunk)
  openedHere : List (Opening Id)
  openedThere : List (Opening Id)

def Net.swap (net : Net Id Chunk) : Net Id Chunk :=
  { here := net.there
    there := net.here
    toHere := net.toThere
    toThere := net.toHere
    openedHere := net.openedThere
    openedThere := net.openedHere }

/-- Letters of the station that accepted, and of the one that serves. -/
def Letter.isOutward : Letter Id Chunk → Bool
  | .request _ => true
  | .forward _ _ => true
  | _ => false

def outward (letters : List (Letter Id Chunk)) : List (Letter Id Chunk) :=
  letters.filter Letter.isOutward

def inward (letters : List (Letter Id Chunk)) : List (Letter Id Chunk) :=
  letters.filter (fun letter => !letter.isOutward)

inductive Net.Move : Net Id Chunk → Net Id Chunk → Prop
  | accept {net : Net Id Chunk} {before rest : List (Letter Id Chunk)} :
      net.toThere = before ++ rest →
      Move net
        { net with
          here := net.here.accept
          toThere := before ++ .request net.here.count :: rest }
  | readSource {net : Net Id Chunk} {source : Nat} {id : Id} (chunk : Chunk) :
      net.here.stage source = .carrying id →
      Move net
        { net with
          here := net.here.read source chunk
          toThere := net.toThere ++ [.forward id (some chunk)] }
  | endSource {net : Net Id Chunk} {source : Nat} {id : Id} :
      net.here.stage source = .carrying id →
      Move net
        { net with
          here := net.here.setStage source .gone
          toThere := net.toThere ++ [.forward id none] }
  | readDestination {net : Net Id Chunk} {destination : Nat} {id : Id} (chunk : Chunk) :
      net.here.served destination = some id →
      Move net
        { net with
          here := net.here.read destination chunk
          toThere := net.toThere ++ [.backward id (some chunk)] }
  | endDestination {net : Net Id Chunk} {destination : Nat} {id : Id} :
      net.here.served destination = some id →
      Move net
        { net with
          here := net.here.drop destination
          toThere := net.toThere ++ [.backward id none] }
  | connect {net : Net Id Chunk} {source : Nat} {id : Id} {rest : List (Letter Id Chunk)} :
      net.toHere = .request source :: rest →
      (∀ opening ∈ net.openedHere, opening.id ≠ id) →
      Move net
        { net with
          here := net.here.connect id
          there := net.there.setStage source (.answered id)
          toHere := rest
          toThere := net.toThere ++ [.answer source id]
          openedHere := net.openedHere ++
            [{ source := source, destination := net.here.count, id := id }] }
  | refuse {net : Net Id Chunk} {source : Nat} {rest : List (Letter Id Chunk)} :
      net.toHere = .request source :: rest →
      Move net
        { net with
          there := net.there.setStage source .refused
          toHere := rest
          toThere := net.toThere ++ [.refusal source] }
  | assign {net : Net Id Chunk} {source : Nat} {id : Id} {rest : List (Letter Id Chunk)} :
      net.toHere = .answer source id :: rest →
      Move net { net with here := net.here.setStage source (.carrying id), toHere := rest }
  | discard {net : Net Id Chunk} {source : Nat} {rest : List (Letter Id Chunk)} :
      net.toHere = .refusal source :: rest →
      Move net { net with here := net.here.setStage source .gone, toHere := rest }
  | deliverForward {net : Net Id Chunk} {destination : Nat} {id : Id} {chunk : Chunk}
      {rest : List (Letter Id Chunk)} :
      net.toHere = .forward id (some chunk) :: rest →
      net.here.served destination = some id →
      Move net { net with here := net.here.offer destination chunk, toHere := rest }
  | closeForward {net : Net Id Chunk} {destination : Nat} {id : Id}
      {rest : List (Letter Id Chunk)} :
      net.toHere = .forward id none :: rest → net.here.served destination = some id →
      Move net { net with here := net.here.drop destination, toHere := rest }
  | loseForward {net : Net Id Chunk} {id : Id} {content : Option Chunk}
      {rest : List (Letter Id Chunk)} :
      net.toHere = .forward id content :: rest →
      (∀ destination, net.here.served destination ≠ some id) →
      Move net { net with toHere := rest }
  | deliverBackward {net : Net Id Chunk} {source : Nat} {id : Id} {chunk : Chunk}
      {rest : List (Letter Id Chunk)} :
      net.toHere = .backward id (some chunk) :: rest →
      net.here.stage source = .carrying id →
      Move net { net with here := net.here.offer source chunk, toHere := rest }
  | closeBackward {net : Net Id Chunk} {source : Nat} {id : Id}
      {rest : List (Letter Id Chunk)} :
      net.toHere = .backward id none :: rest → net.here.stage source = .carrying id →
      Move net { net with here := net.here.setStage source .gone, toHere := rest }
  | loseBackward {net : Net Id Chunk} {id : Id} {content : Option Chunk}
      {rest : List (Letter Id Chunk)} :
      net.toHere = .backward id content :: rest →
      (∀ source, net.here.stage source ≠ .carrying id) →
      Move net { net with toHere := rest }

/-! ### Both links at once -/

variable [DecidableEq Id]

structure Net.Sound (net : Net Id Chunk) : Prop where
  accepts : Link net.here net.there (outward net.toThere) (inward net.toHere) net.openedThere
  serves : Link net.there net.here (outward net.toHere) (inward net.toThere) net.openedHere
  fresh_here : net.here.Fresh
  fresh_there : net.there.Fresh

theorem Net.Sound.swap {net : Net Id Chunk} (sound : net.Sound) : net.swap.Sound :=
  ⟨sound.serves, sound.accepts, sound.fresh_there, sound.fresh_here⟩

namespace Link

variable {a b : Station Id Chunk} {toB toA : List (Letter Id Chunk)}
  {opened : List (Opening Id)} {connection : Nat}

theorem frame_accepted (link : Link a b toB toA opened) {after : Station Id Chunk}
    (served : after.served = b.served) (grows : b.count ≤ after.count)
    (present : b.stage connection ≠ .absent)
    (others : ∀ other, other ≠ connection → after.stage other = b.stage other ∧
      after.received other = b.received other ∧ after.offered other = b.offered other) :
    Link a after toB toA opened := by
  apply link.frame_destination served grows
  intro other _ absent
  have different : other ≠ connection := by
    rintro rfl
    exact present absent
  obtain ⟨stage, received, offered⟩ := others other different
  exact ⟨stage.trans absent, received, offered⟩

theorem frame_setStage (link : Link a b toB toA opened)
    (present : b.stage connection ≠ .absent) (stage : Stage Id) :
    Link a (b.setStage connection stage) toB toA opened := by
  refine link.frame_accepted ?_ ?_ present ?_
  · rfl
  · exact Nat.le_refl _
  · exact fun other different => ⟨Function.update_of_ne different _ _, rfl, rfl⟩

theorem frame_read (link : Link a b toB toA opened)
    (present : b.stage connection ≠ .absent) (chunk : Chunk) :
    Link a (b.read connection chunk) toB toA opened := by
  refine link.frame_accepted ?_ ?_ present ?_
  · rfl
  · exact Nat.le_refl _
  · exact fun other different => ⟨rfl, Function.update_of_ne different _ _, rfl⟩

theorem frame_offer (link : Link a b toB toA opened)
    (present : b.stage connection ≠ .absent) (chunk : Chunk) :
    Link a (b.offer connection chunk) toB toA opened := by
  refine link.frame_accepted ?_ ?_ present ?_
  · rfl
  · exact Nat.le_refl _
  · exact fun other different => ⟨rfl, rfl, Function.update_of_ne different _ _⟩

theorem frame_accept (link : Link a b toB toA opened) : Link a b.accept toB toA opened := by
  refine link.frame_destination ?_ ?_ ?_
  · rfl
  · exact Nat.le_succ _
  · intro other known absent
    have different : other ≠ b.count := Nat.ne_of_lt known
    exact ⟨(Function.update_of_ne different _ _).trans absent, rfl, rfl⟩

theorem frame_readServed (link : Link a b toB toA opened)
    (absent : a.stage connection = .absent) (chunk : Chunk) :
    Link (a.read connection chunk) b toB toA opened := by
  refine link.frame_source ?_ ?_
  · rfl
  · intro other present
    have different : other ≠ connection := by
      rintro rfl
      exact present absent
    exact ⟨Function.update_of_ne different _ _, rfl⟩

theorem frame_offerServed (link : Link a b toB toA opened)
    (absent : a.stage connection = .absent) (chunk : Chunk) :
    Link (a.offer connection chunk) b toB toA opened := by
  refine link.frame_source ?_ ?_
  · rfl
  · intro other present
    have different : other ≠ connection := by
      rintro rfl
      exact present absent
    exact ⟨rfl, Function.update_of_ne different _ _⟩

theorem frame_drop (link : Link a b toB toA opened) (destination : Nat) :
    Link (a.drop destination) b toB toA opened :=
  link.frame_source rfl (fun _ _ => ⟨rfl, rfl⟩)

theorem frame_connect (link : Link a b toB toA opened) (id : Id) :
    Link (a.connect id) b toB toA opened :=
  link.frame_source rfl (fun _ _ => ⟨rfl, rfl⟩)

theorem served_absent (link : Link a b toB toA opened) {id : Id}
    (served : b.served connection = some id) : b.stage connection = .absent := by
  obtain ⟨opening, isOpening, rfl, _⟩ := link.served_opening served
  exact (link.destination isOpening).2

end Link

namespace Station

variable {station : Station Id Chunk} {connection : Nat}

omit [DecidableEq Id] in
theorem Fresh.lt_of_present (fresh : station.Fresh)
    (present : station.stage connection ≠ .absent) : connection < station.count := by
  by_contra beyond
  exact present (fresh.stage (Nat.le_of_not_lt beyond))

omit [DecidableEq Id] in
theorem Fresh.lt_of_served (fresh : station.Fresh) {id : Id}
    (served : station.served connection = some id) : connection < station.count := by
  by_contra beyond
  cases served.symm.trans (fresh.served (Nat.le_of_not_lt beyond))

omit [DecidableEq Id] in
theorem Fresh.accept (fresh : station.Fresh) : station.accept.Fresh := by
  have older : ∀ {other : Nat}, station.accept.count ≤ other → station.count ≤ other :=
    fun beyond => Nat.le_of_succ_le beyond
  constructor
  · intro other beyond
    exact (Function.update_of_ne (Nat.ne_of_gt beyond) _ _).trans (fresh.stage (older beyond))
  · exact fun beyond => fresh.served (older beyond)
  · exact fun beyond => fresh.received (older beyond)
  · exact fun beyond => fresh.offered (older beyond)

omit [DecidableEq Id] in
theorem Fresh.connect (fresh : station.Fresh) (id : Id) : (station.connect id).Fresh := by
  have older : ∀ {other : Nat}, (station.connect id).count ≤ other → station.count ≤ other :=
    fun beyond => Nat.le_of_succ_le beyond
  constructor
  · exact fun beyond => fresh.stage (older beyond)
  · intro other beyond
    exact (Function.update_of_ne (Nat.ne_of_gt beyond) _ _).trans (fresh.served (older beyond))
  · exact fun beyond => fresh.received (older beyond)
  · exact fun beyond => fresh.offered (older beyond)

omit [DecidableEq Id] in
theorem Fresh.setStage (fresh : station.Fresh) (known : connection < station.count)
    (stage : Stage Id) : (station.setStage connection stage).Fresh := by
  refine { fresh with stage := ?_ }
  intro other beyond
  have different : other ≠ connection := Nat.ne_of_gt (Nat.lt_of_lt_of_le known beyond)
  exact (Function.update_of_ne different _ _).trans (fresh.stage beyond)

omit [DecidableEq Id] in
theorem Fresh.drop (fresh : station.Fresh) (destination : Nat) :
    (station.drop destination).Fresh := by
  refine { fresh with served := ?_ }
  intro other beyond
  by_cases here : other = destination
  · subst here
    exact Function.update_self ..
  · exact (Function.update_of_ne here _ _).trans (fresh.served beyond)

omit [DecidableEq Id] in
theorem Fresh.read (fresh : station.Fresh) (known : connection < station.count)
    (chunk : Chunk) : (station.read connection chunk).Fresh := by
  refine { fresh with received := ?_ }
  intro other beyond
  have different : other ≠ connection := Nat.ne_of_gt (Nat.lt_of_lt_of_le known beyond)
  exact (Function.update_of_ne different _ _).trans (fresh.received beyond)

omit [DecidableEq Id] in
theorem Fresh.offer (fresh : station.Fresh) (known : connection < station.count)
    (chunk : Chunk) : (station.offer connection chunk).Fresh := by
  refine { fresh with offered := ?_ }
  intro other beyond
  have different : other ≠ connection := Nat.ne_of_gt (Nat.lt_of_lt_of_le known beyond)
  exact (Function.update_of_ne different _ _).trans (fresh.offered beyond)

end Station

/-! ### Every move keeps the links sound -/

namespace Net

variable {net after : Net Id Chunk}

attribute [simp] Letter.isOutward

omit [DecidableEq Id] in
@[simp] theorem outward_nil : outward ([] : List (Letter Id Chunk)) = [] := rfl

omit [DecidableEq Id] in
@[simp] theorem inward_nil : inward ([] : List (Letter Id Chunk)) = [] := rfl

omit [DecidableEq Id] in
@[simp] theorem outward_cons (letter : Letter Id Chunk) (rest : List (Letter Id Chunk)) :
    outward (letter :: rest) = if letter.isOutward then letter :: outward rest else outward rest :=
  List.filter_cons

omit [DecidableEq Id] in
@[simp] theorem inward_cons (letter : Letter Id Chunk) (rest : List (Letter Id Chunk)) :
    inward (letter :: rest) = if letter.isOutward then inward rest else letter :: inward rest := by
  rw [inward, List.filter_cons]
  cases letter.isOutward with
  | false => rfl
  | true => rfl

omit [DecidableEq Id] in
@[simp] theorem outward_append (first second : List (Letter Id Chunk)) :
    outward (first ++ second) = outward first ++ outward second :=
  List.filter_append first second

omit [DecidableEq Id] in
@[simp] theorem inward_append (first second : List (Letter Id Chunk)) :
    inward (first ++ second) = inward first ++ inward second :=
  List.filter_append first second

theorem Sound.move (sound : net.Sound) (move : net.Move after) : after.Sound := by
  obtain ⟨accepts, serves, freshHere, freshThere⟩ := sound
  cases move with
  | @accept before rest split =>
      constructor
      · rw [split, outward_append] at accepts
        simpa using accepts.accept freshHere
      · rw [split, inward_append] at serves
        simpa using serves.frame_accept
      · exact freshHere.accept
      · exact freshThere
  | @readSource source id chunk carrying =>
      have present : net.here.stage source ≠ .absent := by simp [carrying]
      constructor
      · simpa using accepts.readSource carrying chunk
      · simpa using serves.frame_read present chunk
      · exact freshHere.read (freshHere.lt_of_present present) chunk
      · exact freshThere
  | @endSource source id carrying =>
      have present : net.here.stage source ≠ .absent := by simp [carrying]
      obtain ⟨opening, isOpening, _, isId⟩ := accepts.stage_opening (Or.inr carrying)
      have left := (accepts.leave carrying).pushForwardEnd ⟨opening, isOpening, isId⟩
      constructor
      · simpa using left
      · simpa using serves.frame_setStage present .gone
      · exact freshHere.setStage (freshHere.lt_of_present present) .gone
      · exact freshThere
  | @readDestination destination id chunk served =>
      have absent := serves.served_absent served
      constructor
      · simpa using accepts.frame_readServed absent chunk
      · simpa using serves.readDestination served chunk
      · exact freshHere.read (freshHere.lt_of_served served) chunk
      · exact freshThere
  | @endDestination destination id served =>
      obtain ⟨opening, isOpening, _, isId⟩ := serves.served_opening served
      have dropped := (serves.drop destination).pushBackwardEnd ⟨opening, isOpening, isId⟩
      constructor
      · simpa using accepts.frame_drop destination
      · simpa using dropped
      · exact freshHere.drop destination
      · exact freshThere
  | @connect source id rest next unused =>
      rw [next] at accepts serves
      have request : Link net.there net.here (.request source :: outward rest)
          (inward net.toThere) net.openedHere := by
        simpa using serves
      have requested := request.requested List.mem_cons_self
      have present : net.there.stage source ≠ .absent := by simp [requested]
      have framed := (accepts.frame_connect id).frame_setStage present (.answered id)
      constructor
      · simpa using framed
      · simpa using request.connect freshHere unused
      · exact freshHere.connect id
      · exact freshThere.setStage (freshThere.lt_of_present present) (.answered id)
  | @refuse source rest next =>
      rw [next] at accepts serves
      have request : Link net.there net.here (.request source :: outward rest)
          (inward net.toThere) net.openedHere := by
        simpa using serves
      have requested := request.requested List.mem_cons_self
      have present : net.there.stage source ≠ .absent := by simp [requested]
      have framed := accepts.frame_setStage present .refused
      constructor
      · simpa using framed
      · simpa using request.refuse
      · exact freshHere
      · exact freshThere.setStage (freshThere.lt_of_present present) .refused
  | @assign source id rest next =>
      rw [next] at accepts serves
      have answer : Link net.here net.there (outward net.toThere)
          (.answer source id :: inward rest) net.openedThere := by
        simpa using accepts
      have answered := answer.answered.mp List.mem_cons_self
      have present : net.here.stage source ≠ .absent := by simp [answered]
      constructor
      · exact answer.assign
      · simpa using serves.frame_setStage present (.carrying id)
      · exact freshHere.setStage (freshHere.lt_of_present present) (.carrying id)
      · exact freshThere
  | @discard source rest next =>
      rw [next] at accepts serves
      have refusal : Link net.here net.there (outward net.toThere)
          (.refusal source :: inward rest) net.openedThere := by
        simpa using accepts
      have refused := refusal.refused List.mem_cons_self
      have present : net.here.stage source ≠ .absent := by simp [refused]
      constructor
      · exact refusal.discard
      · simpa using serves.frame_setStage present .gone
      · exact freshHere.setStage (freshHere.lt_of_present present) .gone
      · exact freshThere
  | @deliverForward destination id chunk rest next served =>
      have absent := serves.served_absent served
      rw [next] at accepts serves
      have chunkFirst : Link net.there net.here (.forward id (some chunk) :: outward rest)
          (inward net.toThere) net.openedHere := by
        simpa using serves
      constructor
      · simpa using accepts.frame_offerServed absent chunk
      · exact chunkFirst.deliverForward served
      · exact freshHere.offer (freshHere.lt_of_served served) chunk
      · exact freshThere
  | @closeForward destination id rest next served =>
      rw [next] at accepts serves
      have endFirst : Link net.there net.here (.forward id none :: outward rest)
          (inward net.toThere) net.openedHere := by
        simpa using serves
      constructor
      · simpa using accepts.frame_drop destination
      · exact (endFirst.drop destination).popForward (Or.inl rfl)
      · exact freshHere.drop destination
      · exact freshThere
  | @loseForward id content rest next notServed =>
      rw [next] at accepts serves
      have first : Link net.there net.here (.forward id content :: outward rest)
          (inward net.toThere) net.openedHere := by
        simpa using serves
      constructor
      · simpa using accepts
      · exact first.popForward (Or.inr notServed)
      · exact freshHere
      · exact freshThere
  | @deliverBackward source id chunk rest next carrying =>
      have present : net.here.stage source ≠ .absent := by simp [carrying]
      rw [next] at accepts serves
      have chunkFirst : Link net.here net.there (outward net.toThere)
          (.backward id (some chunk) :: inward rest) net.openedThere := by
        simpa using accepts
      constructor
      · exact chunkFirst.deliverBackward carrying
      · simpa using serves.frame_offer present chunk
      · exact freshHere.offer (freshHere.lt_of_present present) chunk
      · exact freshThere
  | @closeBackward source id rest next carrying =>
      have present : net.here.stage source ≠ .absent := by simp [carrying]
      rw [next] at accepts serves
      have endFirst : Link net.here net.there (outward net.toThere)
          (.backward id none :: inward rest) net.openedThere := by
        simpa using accepts
      have popped := endFirst.popBackward (Or.inl rfl)
      constructor
      · exact popped.leave carrying
      · simpa using serves.frame_setStage present .gone
      · exact freshHere.setStage (freshHere.lt_of_present present) .gone
      · exact freshThere
  | @loseBackward id content rest next notCarried =>
      rw [next] at accepts serves
      have first : Link net.here net.there (outward net.toThere)
          (.backward id content :: inward rest) net.openedThere := by
        simpa using accepts
      constructor
      · exact first.popBackward (Or.inr notCarried)
      · simpa using serves
      · exact freshHere
      · exact freshThere

def Moves : Net Id Chunk → Net Id Chunk → Prop :=
  Relation.ReflTransGen Move

theorem Sound.moves (sound : net.Sound) (moves : net.Moves after) : after.Sound := by
  induction moves with
  | refl => exact sound
  | tail _ move ih => exact ih.move move

def empty : Net Id Chunk :=
  let idle : Station Id Chunk :=
    { count := 0
      stage := fun _ => .absent
      served := fun _ => none
      received := fun _ => []
      offered := fun _ => [] }
  { here := idle
    there := idle
    toHere := []
    toThere := []
    openedHere := []
    openedThere := [] }

theorem empty_sound : (empty : Net Id Chunk).Sound := by
  have fresh : (empty : Net Id Chunk).here.Fresh :=
    ⟨fun _ => rfl, fun _ => rfl, fun _ => rfl, fun _ => rfl⟩
  have link : Link (empty : Net Id Chunk).here (empty : Net Id Chunk).here [] [] [] := by
    constructor
    all_goals simp [requests, replies, empty]
  exact ⟨link, link, fresh, fresh⟩

/-! ### Runs of both stations -/

/-- A connection to which chunks have been offered belongs to an opening. -/
def Attributed (net : Net Id Chunk) : Prop :=
  ∀ connection, net.here.offered connection ≠ [] →
    (∃ opening ∈ net.openedHere, opening.destination = connection) ∨
      ∃ opening ∈ net.openedThere, opening.source = connection

theorem Attributed.move (sound : net.Sound) (attributed : net.Attributed)
    (move : net.Move after) : after.Attributed := by
  have offers : ∀ {connection : Nat} {chunk : Chunk},
      ((∃ opening ∈ net.openedHere, opening.destination = connection) ∨
        ∃ opening ∈ net.openedThere, opening.source = connection) →
      ∀ other, (net.here.offer connection chunk).offered other ≠ [] →
        (∃ opening ∈ net.openedHere, opening.destination = other) ∨
          ∃ opening ∈ net.openedThere, opening.source = other := by
    intro connection chunk isKnown other offered
    by_cases same : other = connection
    · exact same ▸ isKnown
    · apply attributed other
      intro nothing
      exact offered ((Function.update_of_ne same _ _).trans nothing)
  cases move with
  | @connect source id rest next unused =>
      intro connection offered
      rcases attributed connection offered with ⟨opening, isOpening, same⟩ | accepted
      · exact Or.inl ⟨opening, List.mem_append_left _ isOpening, same⟩
      · exact Or.inr accepted
  | @deliverForward destination id chunk rest next served =>
      obtain ⟨opening, isOpening, same, _⟩ := sound.serves.served_opening served
      exact offers (Or.inl ⟨opening, isOpening, same⟩)
  | @deliverBackward source id chunk rest next carrying =>
      obtain ⟨opening, isOpening, same, _⟩ := sound.accepts.stage_opening (Or.inr carrying)
      exact offers (Or.inr ⟨opening, isOpening, same⟩)
  | accept | readSource | endSource | readDestination | endDestination | refuse | assign
  | discard | closeForward | loseForward | closeBackward | loseBackward =>
      exact attributed

omit [DecidableEq Id] in
theorem Attributed.move_there (attributed : net.swap.Attributed) (move : net.Move after) :
    after.swap.Attributed := by
  cases move with
  | @connect source id rest next unused =>
      intro connection offered
      rcases attributed connection offered with served | ⟨opening, isOpening, same⟩
      · exact Or.inl served
      · exact Or.inr ⟨opening, List.mem_append_left _ isOpening, same⟩
  | accept | readSource | endSource | readDestination | endDestination | refuse | assign
  | discard | deliverForward | closeForward | loseForward | deliverBackward | closeBackward
  | loseBackward => exact attributed

structure Orderly (net : Net Id Chunk) : Prop where
  sound : net.Sound
  here : net.Attributed
  there : net.swap.Attributed

theorem Orderly.swap (orderly : net.Orderly) : net.swap.Orderly :=
  ⟨orderly.sound.swap, orderly.there, orderly.here⟩

theorem Orderly.moves (orderly : net.Orderly) (moves : net.Moves after) : after.Orderly := by
  induction moves with
  | refl => exact orderly
  | tail _ move ih =>
      constructor
      · exact ih.sound.move move
      · exact ih.here.move ih.sound move
      · exact ih.there.move_there move

theorem empty_orderly : (empty : Net Id Chunk).Orderly :=
  ⟨empty_sound, fun _ offered => absurd rfl offered, fun _ offered => absurd rfl offered⟩

end Net

end EternalTerminal.Library.Multiplexer
