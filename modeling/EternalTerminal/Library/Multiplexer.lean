/-
Many connections carried over one pair of FIFO channels.

One station accepts a connection and requests it; the other connects on its behalf and
answers with an id, or refuses.  From then on chunks travel both ways under the id.  A
connection has a number that is never used again.  What is said here of a link is said of
the connections that one station accepts and the other serves.
-/

import Mathlib.Data.List.Nodup
import Mathlib.Logic.Function.Basic
import Mathlib.Tactic.Common

namespace EternalTerminal.Library.Multiplexer

/-- How far an accepted connection has come.  A connection that is not an accepted one is
`absent`. -/
inductive Stage (Id : Type) where
  | absent
  | requested
  | refused
  | answered (id : Id)
  | carrying (id : Id)
  | gone

structure Station (Id Chunk : Type) where
  count : Nat
  stage : Nat → Stage Id
  served : Nat → Option Id
  received : Nat → List Chunk
  offered : Nat → List Chunk

/-- `none` as a content ends the connection. -/
inductive Letter (Id Chunk : Type) where
  | request (source : Nat)
  | refusal (source : Nat)
  | answer (source : Nat) (id : Id)
  | forward (id : Id) (content : Option Chunk)
  | backward (id : Id) (content : Option Chunk)

/-- The connection `destination` was made for `source`. -/
structure Opening (Id : Type) where
  source : Nat
  destination : Nat
  id : Id

variable {Id Chunk : Type}

namespace Letter

def request? : Letter Id Chunk → Option Nat
  | .request source => some source
  | _ => none

def reply? : Letter Id Chunk → Option Nat
  | .refusal source => some source
  | .answer source _ => some source
  | _ => none

def forward? [DecidableEq Id] (id : Id) : Letter Id Chunk → Option Chunk
  | .forward other content => if other = id then content else none
  | _ => none

def backward? [DecidableEq Id] (id : Id) : Letter Id Chunk → Option Chunk
  | .backward other content => if other = id then content else none
  | _ => none

end Letter

def requests (letters : List (Letter Id Chunk)) : List Nat :=
  letters.filterMap Letter.request?

def replies (letters : List (Letter Id Chunk)) : List Nat :=
  letters.filterMap Letter.reply?

def forwards [DecidableEq Id] (id : Id) (letters : List (Letter Id Chunk)) : List Chunk :=
  letters.filterMap (Letter.forward? id)

def backwards [DecidableEq Id] (id : Id) (letters : List (Letter Id Chunk)) : List Chunk :=
  letters.filterMap (Letter.backward? id)

theorem filterMap_cons_toList {α β : Type} (given : α → Option β) (item : α) (rest : List α) :
    (item :: rest).filterMap given = (given item).toList ++ rest.filterMap given := by
  rw [List.filterMap_eq_flatMap_toList, List.flatMap_cons, ← List.filterMap_eq_flatMap_toList]

attribute [simp] Letter.request? Letter.reply? Letter.forward? Letter.backward?

section

variable (letter : Letter Id Chunk) (first rest : List (Letter Id Chunk))

@[simp] theorem requests_cons :
    requests (letter :: rest) = letter.request?.toList ++ requests rest :=
  filterMap_cons_toList Letter.request? letter rest

@[simp] theorem replies_cons :
    replies (letter :: rest) = letter.reply?.toList ++ replies rest :=
  filterMap_cons_toList Letter.reply? letter rest

@[simp] theorem forwards_cons [DecidableEq Id] (id : Id) :
    forwards id (letter :: rest) = (letter.forward? id).toList ++ forwards id rest :=
  filterMap_cons_toList (Letter.forward? id) letter rest

@[simp] theorem backwards_cons [DecidableEq Id] (id : Id) :
    backwards id (letter :: rest) = (letter.backward? id).toList ++ backwards id rest :=
  filterMap_cons_toList (Letter.backward? id) letter rest

@[simp] theorem requests_append : requests (first ++ rest) = requests first ++ requests rest :=
  List.filterMap_append

@[simp] theorem replies_append : replies (first ++ rest) = replies first ++ replies rest :=
  List.filterMap_append

@[simp] theorem forwards_append [DecidableEq Id] (id : Id) :
    forwards id (first ++ rest) = forwards id first ++ forwards id rest :=
  List.filterMap_append

@[simp] theorem backwards_append [DecidableEq Id] (id : Id) :
    backwards id (first ++ rest) = backwards id first ++ backwards id rest :=
  List.filterMap_append

@[simp] theorem requests_nil : requests ([] : List (Letter Id Chunk)) = [] := rfl

@[simp] theorem replies_nil : replies ([] : List (Letter Id Chunk)) = [] := rfl

@[simp] theorem forwards_nil [DecidableEq Id] (id : Id) :
    forwards id ([] : List (Letter Id Chunk)) = [] := rfl

@[simp] theorem backwards_nil [DecidableEq Id] (id : Id) :
    backwards id ([] : List (Letter Id Chunk)) = [] := rfl

end

theorem forwards_cons_chunk [DecidableEq Id] (id : Id) (chunk : Chunk)
    (rest : List (Letter Id Chunk)) :
    forwards id (.forward id (some chunk) :: rest) = chunk :: forwards id rest := by
  simp

theorem backwards_cons_chunk [DecidableEq Id] (id : Id) (chunk : Chunk)
    (rest : List (Letter Id Chunk)) :
    backwards id (.backward id (some chunk) :: rest) = chunk :: backwards id rest := by
  simp

/-! ### Streams -/

/-- What is offered is the beginning of what was received, and on a live connection the
rest is under way. -/
structure Flow (live : Prop) (received offered pending : List Chunk) : Prop where
  isPrefix : offered <+: received
  pending_of_live : live → received = offered ++ pending

namespace Flow

variable {live : Prop} {received offered pending : List Chunk} {chunk : Chunk}

theorem empty (live : Prop) : Flow live ([] : List Chunk) [] [] :=
  ⟨List.prefix_refl [], fun _ => rfl⟩

theorem read (flow : Flow live received offered pending) (chunk : Chunk) :
    Flow live (received ++ [chunk]) offered (pending ++ [chunk]) := by
  constructor
  · exact flow.isPrefix.trans (List.prefix_append received [chunk])
  · intro isLive
    rw [flow.pending_of_live isLive, List.append_assoc]

theorem deliver (flow : Flow live received offered (chunk :: pending)) (isLive : live) :
    Flow live received (offered ++ [chunk]) pending := by
  have rest := flow.pending_of_live isLive
  constructor
  · rw [rest]
    exact ⟨pending, by simp⟩
  · intro _
    rw [rest, List.append_assoc, List.singleton_append]

theorem stop {other : Prop} (flow : Flow live received offered pending) (dead : ¬ other)
    (lost : List Chunk) : Flow other received offered lost :=
  ⟨flow.isPrefix, fun isLive => absurd isLive dead⟩

theorem keep {other : Prop} (flow : Flow live received offered pending)
    (same : other → live) : Flow other received offered pending :=
  ⟨flow.isPrefix, fun isLive => flow.pending_of_live (same isLive)⟩

end Flow

/-! ### Endpoints -/

namespace Station

def accept (station : Station Id Chunk) : Station Id Chunk :=
  { station with
    count := station.count + 1
    stage := Function.update station.stage station.count .requested }

def connect (station : Station Id Chunk) (id : Id) : Station Id Chunk :=
  { station with
    count := station.count + 1
    served := Function.update station.served station.count (some id) }

def setStage (station : Station Id Chunk) (source : Nat) (stage : Stage Id) :
    Station Id Chunk :=
  { station with stage := Function.update station.stage source stage }

def drop (station : Station Id Chunk) (destination : Nat) : Station Id Chunk :=
  { station with served := Function.update station.served destination none }

def read (station : Station Id Chunk) (connection : Nat) (chunk : Chunk) :
    Station Id Chunk :=
  { station with
    received := Function.update station.received connection
      (station.received connection ++ [chunk]) }

def offer (station : Station Id Chunk) (connection : Nat) (chunk : Chunk) :
    Station Id Chunk :=
  { station with
    offered := Function.update station.offered connection
      (station.offered connection ++ [chunk]) }

@[simp] theorem setStage_received (station : Station Id Chunk) (source : Nat)
    (stage : Stage Id) : (station.setStage source stage).received = station.received := rfl

@[simp] theorem setStage_offered (station : Station Id Chunk) (source : Nat)
    (stage : Stage Id) : (station.setStage source stage).offered = station.offered := rfl

@[simp] theorem setStage_self (station : Station Id Chunk) (source : Nat)
    (stage : Stage Id) : (station.setStage source stage).stage source = stage :=
  Function.update_self ..

@[simp] theorem drop_self (station : Station Id Chunk) (destination : Nat) :
    (station.drop destination).served destination = none :=
  Function.update_self ..

/-- Nothing is known of a number that has not been given out. -/
structure Fresh (station : Station Id Chunk) : Prop where
  stage {connection : Nat} :
    station.count ≤ connection → station.stage connection = .absent
  served {connection : Nat} :
    station.count ≤ connection → station.served connection = none
  received {connection : Nat} :
    station.count ≤ connection → station.received connection = []
  offered {connection : Nat} :
    station.count ≤ connection → station.offered connection = []

variable {a : Station Id Chunk}

theorem Fresh.accept_stage (fresh : a.Fresh) {source : Nat} {stage : Stage Id}
    (known : a.stage source = stage) (present : stage ≠ .absent) :
    a.accept.stage source = stage := by
  have other : source ≠ a.count := by
    rintro rfl
    exact present (known.symm.trans (fresh.stage (Nat.le_refl _)))
  exact (Function.update_of_ne other _ _).trans known

theorem stage_of_accept {source : Nat} {stage : Stage Id}
    (known : a.accept.stage source = stage) (older : stage ≠ .requested) :
    a.stage source = stage := by
  have other : source ≠ a.count := by
    rintro rfl
    exact older (known.symm.trans (Function.update_self ..))
  exact (Function.update_of_ne other _ _).symm.trans known

theorem setStage_of_ne {source other : Nat} {stage new : Stage Id}
    (known : a.stage other = stage) (different : a.stage source ≠ stage) :
    (a.setStage source new).stage other = stage := by
  have elsewhere : other ≠ source := by
    rintro rfl
    exact different known
  exact (Function.update_of_ne elsewhere _ _).trans known

theorem stage_of_setStage {source other : Nat} {stage new : Stage Id}
    (known : (a.setStage source new).stage other = stage) (different : new ≠ stage) :
    a.stage other = stage := by
  have elsewhere : other ≠ source := by
    rintro rfl
    have set : (a.setStage other new).stage other = new := Function.update_self ..
    exact different (set.symm.trans known)
  exact (Function.update_of_ne elsewhere _ _).symm.trans known

theorem live_of_setStage {source other : Nat} {new : Stage Id} {id : Id}
    (notAnswered : new ≠ .answered id) (notCarrying : new ≠ .carrying id)
    (live : (a.setStage source new).stage other = .answered id ∨
      (a.setStage source new).stage other = .carrying id) :
    a.stage other = .answered id ∨ a.stage other = .carrying id := by
  rcases live with answered | carrying
  · exact Or.inl (stage_of_setStage answered notAnswered)
  · exact Or.inr (stage_of_setStage carrying notCarrying)

end Station

/-! ### Links -/

variable [DecidableEq Id]

/-- The connections that `a` accepts and `b` serves, the letters about them and what has
been opened. -/
structure Link (a b : Station Id Chunk) (toB toA : List (Letter Id Chunk))
    (opened : List (Opening Id)) : Prop where
  requests_once : (requests toB).Nodup
  requested {source : Nat} : .request source ∈ toB → a.stage source = .requested
  replies_once : (replies toA).Nodup
  refused {source : Nat} : .refusal source ∈ toA → a.stage source = .refused
  answered {source : Nat} {id : Id} :
    .answer source id ∈ toA ↔ a.stage source = .answered id
  ids_once : (opened.map Opening.id).Nodup
  sources_once : (opened.map Opening.source).Nodup
  destinations_once : (opened.map Opening.destination).Nodup
  opening_stage {opening : Opening Id} : opening ∈ opened →
    a.stage opening.source = .answered opening.id ∨
      a.stage opening.source = .carrying opening.id ∨ a.stage opening.source = .gone
  stage_opening {source : Nat} {id : Id} :
    a.stage source = .answered id ∨ a.stage source = .carrying id →
      ∃ opening ∈ opened, opening.source = source ∧ opening.id = id
  served_opening {destination : Nat} {id : Id} : b.served destination = some id →
    ∃ opening ∈ opened, opening.destination = destination ∧ opening.id = id
  destination {opening : Opening Id} : opening ∈ opened →
    opening.destination < b.count ∧ b.stage opening.destination = .absent
  unread {source : Nat} : a.stage source = .requested ∨ a.stage source = .refused →
    a.received source = [] ∧ a.offered source = []
  known_forward {id : Id} {content : Option Chunk} : .forward id content ∈ toB →
    ∃ opening ∈ opened, opening.id = id
  known_backward {id : Id} {content : Option Chunk} : .backward id content ∈ toA →
    ∃ opening ∈ opened, opening.id = id
  answer_first : toA.Pairwise fun earlier later =>
    ∀ id content source, earlier = .backward id content → later ≠ .answer source id
  forward_flow {opening : Opening Id} : opening ∈ opened →
    Flow (b.served opening.destination = some opening.id) (a.received opening.source)
      (b.offered opening.destination) (forwards opening.id toB)
  backward_flow {opening : Opening Id} : opening ∈ opened →
    Flow (a.stage opening.source = .answered opening.id ∨
        a.stage opening.source = .carrying opening.id)
      (b.received opening.destination) (a.offered opening.source) (backwards opening.id toA)

namespace Link

variable {a b : Station Id Chunk} {toB toA : List (Letter Id Chunk)}
  {opened : List (Opening Id)}

theorem same_of_id (link : Link a b toB toA opened) {first second : Opening Id}
    (isFirst : first ∈ opened) (isSecond : second ∈ opened) (same : first.id = second.id) :
    first = second :=
  List.inj_on_of_nodup_map link.ids_once isFirst isSecond same

theorem same_of_source (link : Link a b toB toA opened) {first second : Opening Id}
    (isFirst : first ∈ opened) (isSecond : second ∈ opened)
    (same : first.source = second.source) : first = second :=
  List.inj_on_of_nodup_map link.sources_once isFirst isSecond same

theorem same_of_destination (link : Link a b toB toA opened) {first second : Opening Id}
    (isFirst : first ∈ opened) (isSecond : second ∈ opened)
    (same : first.destination = second.destination) : first = second :=
  List.inj_on_of_nodup_map link.destinations_once isFirst isSecond same

theorem not_absent (link : Link a b toB toA opened) {opening : Opening Id}
    (isOpening : opening ∈ opened) : a.stage opening.source ≠ .absent := by
  intro absent
  rcases link.opening_stage isOpening with answered | carrying | gone
  · cases answered.symm.trans absent
  · cases carrying.symm.trans absent
  · cases gone.symm.trans absent

end Link

end EternalTerminal.Library.Multiplexer
