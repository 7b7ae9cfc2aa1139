/-
Who has which open descriptor, and which connection of the multiplexer it stands for.
-/

import EternalTerminal.Library.PartialMap
import EternalTerminal.Library.MultiplexerNet
import EternalTerminal.Terminal.PortForwardHandler

namespace EternalTerminal

open Library Library.Multiplexer

inductive Owner where
  | unassigned (index : Nat)
  | socket (index : Nat) (socketId : Int)
  | destination (socketId : Int)

def Waits (stage : Stage Int) : Prop :=
  stage = .requested ∨ stage = .refused ∨ ∃ socketId, stage = .answered socketId

theorem not_waits_absent : ¬ Waits .absent := by
  simp [Waits]

theorem not_waits_carrying (socketId : Int) : ¬ Waits (.carrying socketId) := by
  simp [Waits]

theorem not_waits_gone : ¬ Waits .gone := by
  simp [Waits]

def Owner.Fits (owner : Owner) (station : Station Int Bytes) (connection : Nat) : Prop :=
  match owner with
  | .unassigned _ => Waits (station.stage connection)
  | .socket _ socketId => station.stage connection = .carrying socketId
  | .destination socketId => station.served connection = some socketId

def HasOwner (station : Station Int Bytes) (connection : Nat) : Prop :=
  Waits (station.stage connection) ∨
    (∃ socketId, station.stage connection = .carrying socketId) ∨
    ∃ socketId, station.served connection = some socketId

/-! ### Descriptors and connections -/

structure Tracks (table : DescriptorTable) (owner : Fd → Option Owner)
    (station : Station Int Bytes) : Prop where
  count : station.count = table.count
  received : station.received = table.received
  offered : station.offered = fun connection => (table.offered connection).map Prod.fst
  numbered {fd : Fd} {connection : Nat} :
    table.connectionOf fd = some connection → connection < table.count
  distinct {first second : Fd} {connection : Nat} :
    table.connectionOf first = some connection →
      table.connectionOf second = some connection → first = second
  owned {fd : Fd} {holder : Owner} : owner fd = some holder →
    ∃ connection, table.connectionOf fd = some connection ∧ holder.Fits station connection
  live {connection : Nat} : HasOwner station connection →
    ∃ fd holder, owner fd = some holder ∧ table.connectionOf fd = some connection
  apart {connection : Nat} {socketId : Int} : station.served connection = some socketId →
    station.stage connection = .absent

namespace Tracks

variable {table : DescriptorTable} {owner : Fd → Option Owner}
  {station : Station Int Bytes} {fd : Fd} {connection : Nat} {holder : Owner}

/-- The owner of a connection's descriptor is the one that its state calls for. -/
theorem fits (tracks : Tracks table owner station) (isOwner : owner fd = some holder)
    (isOpen : table.connectionOf fd = some connection) :
    holder.Fits station connection := by
  obtain ⟨other, isOther, fits⟩ := tracks.owned isOwner
  cases isOpen.symm.trans isOther
  exact fits

theorem unowned (tracks : Tracks table owner station)
    (isFree : table.connectionOf fd = none) : owner fd = none := by
  cases isOwner : owner fd with
  | none => rfl
  | some holder =>
      obtain ⟨connection, isOpen, _⟩ := tracks.owned isOwner
      cases isFree.symm.trans isOpen

theorem socket_of_carrying (tracks : Tracks table owner station) {socketId : Int}
    (carrying : station.stage connection = .carrying socketId) :
    ∃ fd index, owner fd = some (.socket index socketId) ∧
      table.connectionOf fd = some connection := by
  obtain ⟨fd, holder, isOwner, isOpen⟩ := tracks.live (Or.inr (Or.inl ⟨socketId, carrying⟩))
  have fits := tracks.fits isOwner isOpen
  cases holder with
  | unassigned index =>
      rw [Owner.Fits, carrying] at fits
      exact absurd fits (not_waits_carrying socketId)
  | socket index other =>
      cases carrying.symm.trans fits
      exact ⟨fd, index, isOwner, isOpen⟩
  | destination other => cases carrying.symm.trans (tracks.apart fits)

theorem destination_of_served (tracks : Tracks table owner station) {socketId : Int}
    (served : station.served connection = some socketId) :
    ∃ fd, owner fd = some (.destination socketId) ∧
      table.connectionOf fd = some connection := by
  obtain ⟨fd, holder, isOwner, isOpen⟩ := tracks.live (Or.inr (Or.inr ⟨socketId, served⟩))
  have fits := tracks.fits isOwner isOpen
  have absent := tracks.apart served
  cases holder with
  | unassigned index =>
      rw [Owner.Fits, absent] at fits
      exact absurd fits not_waits_absent
  | socket index other => cases absent.symm.trans fits
  | destination other =>
      cases served.symm.trans fits
      exact ⟨fd, isOwner, isOpen⟩

theorem unassigned_of_waits (tracks : Tracks table owner station)
    (waits : Waits (station.stage connection)) :
    ∃ fd index, owner fd = some (.unassigned index) ∧
      table.connectionOf fd = some connection := by
  obtain ⟨fd, holder, isOwner, isOpen⟩ := tracks.live (Or.inl waits)
  have fits := tracks.fits isOwner isOpen
  cases holder with
  | unassigned index => exact ⟨fd, index, isOwner, isOpen⟩
  | socket index other =>
      rw [Owner.Fits] at fits
      rw [fits] at waits
      exact absurd waits (not_waits_carrying other)
  | destination other =>
      rw [tracks.apart fits] at waits
      exact absurd waits not_waits_absent

/-- The descriptor of a waiting connection has a source handler that has not assigned it. -/
theorem unassigned_of_open (tracks : Tracks table owner station)
    (waits : Waits (station.stage connection))
    (isOpen : table.connectionOf fd = some connection) :
    ∃ index, owner fd = some (.unassigned index) := by
  obtain ⟨other, index, isOwner, isOther⟩ := tracks.unassigned_of_waits waits
  obtain rfl := tracks.distinct isOpen isOther
  exact ⟨index, isOwner⟩

end Tracks

/-- `after` differs from `station` in the state of one connection at most. -/
structure Restages (station after : Station Int Bytes) (connection : Nat) : Prop where
  received : after.received = station.received
  offered : after.offered = station.offered
  stage {other : Nat} : other ≠ connection → after.stage other = station.stage other
  served {other : Nat} : other ≠ connection → after.served other = station.served other

namespace Restages

variable {station after : Station Int Bytes} {connection other : Nat} {holder : Owner}

theorem fits (restages : Restages station after connection) (different : other ≠ connection)
    (fits : holder.Fits station other) : holder.Fits after other := by
  cases holder with
  | unassigned index =>
      rw [Owner.Fits, restages.stage different]
      exact fits
  | socket index socketId => exact (restages.stage different).trans fits
  | destination socketId => exact (restages.served different).trans fits

theorem live (restages : Restages station after connection) (different : other ≠ connection)
    (live : HasOwner after other) : HasOwner station other := by
  rw [HasOwner, restages.stage different, restages.served different] at live
  exact live

end Restages

namespace Tracks

variable {table : DescriptorTable} {owner : Fd → Option Owner}
  {station after : Station Int Bytes} {fd : Fd} {connection : Nat} {holder : Owner}

theorem opens (tracks : Tracks table owner station) (isFree : table.connectionOf fd = none)
    (count : after.count = station.count + 1)
    (restages : Restages station after station.count)
    (fits : holder.Fits after station.count)
    (apart : ∀ socketId, after.served station.count = some socketId →
      after.stage station.count = .absent) :
    Tracks (table.openFd fd) (Function.update owner fd (some holder)) after := by
  have unowned := tracks.unowned isFree
  have newest : (table.openFd fd).connectionOf fd = some station.count :=
    (Function.update_self ..).trans (congrArg some tracks.count.symm)
  have older : ∀ {other : Fd}, other ≠ fd →
      (table.openFd fd).connectionOf other = table.connectionOf other :=
    fun different => Function.update_of_ne different _ _
  have ownerOlder : ∀ {other : Fd}, other ≠ fd →
      Function.update owner fd (some holder) other = owner other :=
    fun different => Function.update_of_ne different _ _
  have below : ∀ {other : Fd} {known : Nat}, table.connectionOf other = some known →
      known ≠ station.count := by
    intro other known isOpen
    rw [tracks.count]
    exact Nat.ne_of_lt (tracks.numbered isOpen)
  constructor
  · rw [count, tracks.count]
    rfl
  · exact restages.received.trans tracks.received
  · exact restages.offered.trans tracks.offered
  · intro other known isOpen
    by_cases same : other = fd
    · subst same
      cases newest.symm.trans isOpen
      rw [tracks.count]
      exact Nat.lt_succ_self _
    · rw [older same] at isOpen
      exact Nat.lt_succ_of_lt (tracks.numbered isOpen)
  · intro first second known isFirst isSecond
    by_cases sameFirst : first = fd
    · by_cases sameSecond : second = fd
      · exact sameFirst.trans sameSecond.symm
      · subst sameFirst
        cases newest.symm.trans isFirst
        rw [older sameSecond] at isSecond
        exact absurd rfl (below isSecond)
    · rw [older sameFirst] at isFirst
      by_cases sameSecond : second = fd
      · subst sameSecond
        cases newest.symm.trans isSecond
        exact absurd rfl (below isFirst)
      · rw [older sameSecond] at isSecond
        exact tracks.distinct isFirst isSecond
  · intro other own isOwner
    by_cases same : other = fd
    · subst same
      cases (Function.update_self ..).symm.trans isOwner
      exact ⟨station.count, newest, fits⟩
    · rw [ownerOlder same] at isOwner
      obtain ⟨known, isOpen, knownFits⟩ := tracks.owned isOwner
      exact ⟨known, (older same).trans isOpen, restages.fits (below isOpen) knownFits⟩
  · intro other live
    by_cases same : other = station.count
    · subst same
      exact ⟨fd, holder, Function.update_self .., newest⟩
    · obtain ⟨known, own, isOwner, isOpen⟩ := tracks.live (restages.live same live)
      have different : known ≠ fd := by
        rintro rfl
        cases isFree.symm.trans isOpen
      exact ⟨known, own, (ownerOlder different).trans isOwner, (older different).trans isOpen⟩
  · intro other socketId served
    by_cases same : other = station.count
    · subst same
      exact apart socketId served
    · rw [restages.served same] at served
      exact (restages.stage same).trans (tracks.apart served)

theorem passes (tracks : Tracks table owner station)
    (isOpen : table.connectionOf fd = some connection)
    (count : after.count = station.count) (restages : Restages station after connection)
    (fits : holder.Fits after connection)
    (apart : ∀ socketId, after.served connection = some socketId →
      after.stage connection = .absent) :
    Tracks table (Function.update owner fd (some holder)) after := by
  have ownerOlder : ∀ {other : Fd}, other ≠ fd →
      Function.update owner fd (some holder) other = owner other :=
    fun different => Function.update_of_ne different _ _
  constructor
  · exact count.trans tracks.count
  · exact restages.received.trans tracks.received
  · exact restages.offered.trans tracks.offered
  · exact tracks.numbered
  · exact tracks.distinct
  · intro other own isOwner
    by_cases same : other = fd
    · subst same
      cases (Function.update_self ..).symm.trans isOwner
      exact ⟨connection, isOpen, fits⟩
    · rw [ownerOlder same] at isOwner
      obtain ⟨known, isKnown, knownFits⟩ := tracks.owned isOwner
      have different : known ≠ connection := by
        rintro rfl
        exact same (tracks.distinct isKnown isOpen)
      exact ⟨known, isKnown, restages.fits different knownFits⟩
  · intro other live
    by_cases same : other = connection
    · subst same
      exact ⟨fd, holder, Function.update_self .., isOpen⟩
    · obtain ⟨known, own, isOwner, isKnown⟩ := tracks.live (restages.live same live)
      have different : known ≠ fd := by
        rintro rfl
        cases isOpen.symm.trans isKnown
        exact same rfl
      exact ⟨known, own, (ownerOlder different).trans isOwner, isKnown⟩
  · intro other socketId served
    by_cases same : other = connection
    · subst same
      exact apart socketId served
    · rw [restages.served same] at served
      exact (restages.stage same).trans (tracks.apart served)

theorem closes (tracks : Tracks table owner station)
    (isOpen : table.connectionOf fd = some connection)
    (count : after.count = station.count) (restages : Restages station after connection)
    (dead : ¬ HasOwner after connection) :
    Tracks (table.close fd) (Function.update owner fd none) after := by
  have closed : (table.close fd).connectionOf fd = none := Function.update_self ..
  have others : ∀ {other : Fd}, other ≠ fd →
      (table.close fd).connectionOf other = table.connectionOf other :=
    fun different => Function.update_of_ne different _ _
  have former : ∀ {other : Fd} {known : Nat},
      (table.close fd).connectionOf other = some known →
        table.connectionOf other = some known := by
    intro other known isKnown
    by_cases same : other = fd
    · subst same
      cases closed.symm.trans isKnown
    · exact (others same).symm.trans isKnown
  have ownerOlder : ∀ {other : Fd}, other ≠ fd →
      Function.update owner fd none other = owner other :=
    fun different => Function.update_of_ne different _ _
  constructor
  · exact count.trans tracks.count
  · exact restages.received.trans tracks.received
  · exact restages.offered.trans tracks.offered
  · exact fun isKnown => tracks.numbered (former isKnown)
  · exact fun isFirst isSecond => tracks.distinct (former isFirst) (former isSecond)
  · intro other own isOwner
    by_cases same : other = fd
    · subst same
      cases (Function.update_self ..).symm.trans isOwner
    · rw [ownerOlder same] at isOwner
      obtain ⟨known, isKnown, knownFits⟩ := tracks.owned isOwner
      have different : known ≠ connection := by
        rintro rfl
        exact same (tracks.distinct isKnown isOpen)
      exact ⟨known, (others same).trans isKnown, restages.fits different knownFits⟩
  · intro other live
    have different : other ≠ connection := by
      rintro rfl
      exact dead live
    obtain ⟨known, own, isOwner, isKnown⟩ := tracks.live (restages.live different live)
    have elsewhere : known ≠ fd := by
      rintro rfl
      cases isOpen.symm.trans isKnown
      exact different rfl
    exact ⟨known, own, (ownerOlder elsewhere).trans isOwner, (others elsewhere).trans isKnown⟩
  · intro other socketId served
    have different : other ≠ connection := by
      rintro rfl
      exact dead (Or.inr (Or.inr ⟨socketId, served⟩))
    rw [restages.served different] at served
    exact (restages.stage different).trans (tracks.apart served)

theorem reads (tracks : Tracks table owner station)
    (isOpen : table.connectionOf fd = some connection) (chunk : Bytes) :
    Tracks (table.read fd chunk) owner (station.read connection chunk) := by
  rw [DescriptorTable.read, isOpen]
  refine
    { tracks with
      received := ?_
      owned := ?_ }
  · change Function.update station.received _ _ = Function.update table.received _ _
    rw [tracks.received]
  · intro other own isOwner
    obtain ⟨known, isKnown, fits⟩ := tracks.owned isOwner
    exact ⟨known, isKnown, by cases own <;> exact fits⟩

theorem offers (tracks : Tracks table owner station)
    (isOpen : table.connectionOf fd = some connection) (chunk : Bytes) (schedule : WriteSchedule) :
    Tracks (table.writeAllOrReturn fd chunk schedule) owner
      (station.offer connection chunk) := by
  rw [DescriptorTable.writeAllOrReturn, isOpen]
  refine
    { tracks with
      offered := ?_
      owned := ?_ }
  · funext other
    change Function.update station.offered _ _ other =
      (Function.update table.offered _ _ other).map Prod.fst
    by_cases same : other = connection
    · subst same
      rw [Function.update_self, Function.update_self, tracks.offered, List.map_append]
      rfl
    · rw [Function.update_of_ne same, Function.update_of_ne same, tracks.offered]
  · intro other own isOwner
    obtain ⟨known, isKnown, fits⟩ := tracks.owned isOwner
    exact ⟨known, isKnown, by cases own <;> exact fits⟩

theorem accept (tracks : Tracks table owner station) (fresh : station.Fresh)
    (isFree : table.connectionOf fd = none) (index : Nat) :
    Tracks (table.openFd fd) (Function.update owner fd (some (.unassigned index)))
      station.accept := by
  refine tracks.opens isFree ?_ ?_ ?_ ?_
  · rfl
  · exact ⟨rfl, rfl, fun different => Function.update_of_ne different _ _, fun _ => rfl⟩
  · exact Or.inl (Function.update_self ..)
  · intro socketId served
    cases (fresh.served (Nat.le_refl _)).symm.trans served

theorem connect (tracks : Tracks table owner station) (fresh : station.Fresh)
    (isFree : table.connectionOf fd = none) (socketId : Int) :
    Tracks (table.openFd fd) (Function.update owner fd (some (.destination socketId)))
      (station.connect socketId) := by
  refine tracks.opens isFree ?_ ?_ ?_ ?_
  · rfl
  · exact ⟨rfl, rfl, fun _ => rfl, fun different => Function.update_of_ne different _ _⟩
  · exact Function.update_self ..
  · exact fun _ _ => fresh.stage (Nat.le_refl _)

theorem not_served (tracks : Tracks table owner station)
    (present : station.stage connection ≠ .absent) (socketId : Int) :
    station.served connection ≠ some socketId :=
  fun served => present (tracks.apart served)

theorem setStage_restages (station : Station Int Bytes) (connection : Nat)
    (stage : Stage Int) : Restages station (station.setStage connection stage) connection :=
  ⟨rfl, rfl, fun different => Function.update_of_ne different _ _, fun _ => rfl⟩

theorem assign (tracks : Tracks table owner station)
    (isOpen : table.connectionOf fd = some connection)
    (present : station.stage connection ≠ .absent) (index : Nat) (socketId : Int) :
    Tracks table (Function.update owner fd (some (.socket index socketId)))
      (station.setStage connection (.carrying socketId)) := by
  refine tracks.passes isOpen ?_ ?_ ?_ ?_
  · rfl
  · exact setStage_restages station connection _
  · exact Function.update_self ..
  · exact fun other served => absurd served (tracks.not_served present other)

theorem respond (tracks : Tracks table owner station)
    (waits : Waits (station.stage connection)) {stage : Stage Int} (stillWaits : Waits stage) :
    Tracks table owner (station.setStage connection stage) := by
  have present : station.stage connection ≠ .absent := by
    intro absent
    rw [absent] at waits
    exact not_waits_absent waits
  obtain ⟨fd, index, isOwner, isOpen⟩ := tracks.unassigned_of_waits waits
  have passed : Tracks table (Function.update owner fd (some (.unassigned index)))
      (station.setStage connection stage) := by
    refine tracks.passes isOpen ?_ ?_ ?_ ?_
    · rfl
    · exact setStage_restages station connection _
    · rw [Owner.Fits, Station.setStage_self]
      exact stillWaits
    · exact fun other served => absurd served (tracks.not_served present other)
  rwa [← isOwner, Function.update_eq_self] at passed

theorem leave (tracks : Tracks table owner station)
    (isOpen : table.connectionOf fd = some connection)
    (present : station.stage connection ≠ .absent) :
    Tracks (table.close fd) (Function.update owner fd none)
      (station.setStage connection .gone) := by
  refine tracks.closes isOpen ?_ ?_ ?_
  · rfl
  · exact setStage_restages station connection _
  · rw [HasOwner, Station.setStage_self]
    rintro (waits | ⟨socketId, impossible⟩ | ⟨socketId, served⟩)
    · exact not_waits_gone waits
    · cases impossible
    · exact tracks.not_served present socketId served

theorem drop (tracks : Tracks table owner station)
    (isOpen : table.connectionOf fd = some connection) {socketId : Int}
    (served : station.served connection = some socketId) :
    Tracks (table.close fd) (Function.update owner fd none) (station.drop connection) := by
  have absent := tracks.apart served
  refine tracks.closes isOpen ?_ ?_ ?_
  · rfl
  · exact ⟨rfl, rfl, fun _ => rfl, fun different => Function.update_of_ne different _ _⟩
  · have sameStage : (station.drop connection).stage connection = .absent := absent
    rw [HasOwner, sameStage, Station.drop_self]
    rintro (waits | ⟨other, impossible⟩ | ⟨other, impossible⟩)
    · exact not_waits_absent waits
    · cases impossible
    · cases impossible

end Tracks

end EternalTerminal
