/-
What goes out on a forwarded connection, and which steps write to it.
-/

import EternalTerminal.Terminal.PortForwardHandler

namespace EternalTerminal

open Library

namespace ChunkWrite

def bytes (write : ChunkWrite) : Bytes :=
  write.2.1.filterMap fun position => write.1[position]?

/-- All of the chunk has gone out, and once. -/
def isWhole (write : ChunkWrite) : Bool :=
  write.2.1 == List.range write.1.length

/-- No byte of the chunk has gone out twice or before its turn. -/
def Exact (write : ChunkWrite) : Prop :=
  UnixSocketHandler.Exact write.1.length write.2

/-- The write has not been reported whole. -/
def IsCut (write : ChunkWrite) : Prop :=
  write.2.2 ≠ .wrote

variable {write : ChunkWrite}

theorem bytes_of_none (none : write.2.1 = []) : write.bytes = [] := by
  rw [bytes, none]
  rfl

theorem bytes_of_isWhole (whole : write.isWhole = true) : write.bytes = write.1 := by
  rw [bytes, beq_iff_eq.mp whole, UnixSocketHandler.filterMap_range, List.take_length]

theorem Exact.bytes_isPrefix (exactly : write.Exact) : write.bytes <+: write.1 :=
  UnixSocketHandler.Exact.handed exactly write.1

theorem Exact.bytes_of_wrote (exactly : write.Exact) (wrote : write.2.2 = .wrote) :
    write.bytes = write.1 := by
  rw [bytes, exactly.1, UnixSocketHandler.filterMap_range, exactly.2 wrote, List.take_length]

end ChunkWrite

namespace WriteSchedule

/-- At most one of the calls of `write` that the loop makes is given bytes of the chunk by the
kernel; what is longer than an `int` is not reported whole. -/
def SendsOnce (schedule : WriteSchedule) (chunk : Bytes) : Prop :=
  chunk = [] ∨ UnixSocketHandler.Undisturbed chunk.length
    (UnixSocketHandler.made true false chunk.length schedule.startTime schedule.calls)

theorem exact_iff (schedule : WriteSchedule) (chunk : Bytes) :
    ChunkWrite.Exact (chunk, schedule.writeAllOrReturn chunk) ↔
      schedule.SendsOnce chunk := by
  unfold SendsOnce
  rw [← List.length_eq_zero_iff]
  exact UnixSocketHandler.writeAll_exact_iff

end WriteSchedule

namespace DescriptorTable

def wire (table : DescriptorTable) (connection : Nat) : Bytes :=
  (table.offered connection).flatMap ChunkWrite.bytes

def written (table : DescriptorTable) (connection : Nat) : List Bytes :=
  ((table.offered connection).filter ChunkWrite.isWhole).map Prod.fst

@[simp] theorem close_offered (table : DescriptorTable) (fd : Fd) :
    (table.close fd).offered = table.offered := rfl

@[simp] theorem read_offered (table : DescriptorTable) (fd : Fd) (chunk : Bytes) :
    (table.read fd chunk).offered = table.offered := by
  unfold read
  split
  · rfl
  · rfl

end DescriptorTable

/-! ### Histories of writes -/

def WholeOrNothing (writes : List ChunkWrite) : Prop :=
  ∀ write ∈ writes, write.2.1 = [] ∨ write.isWhole = true

/-- No byte went out twice, and none after a write that was cut short. -/
structure StopsAtCut (writes : List ChunkWrite) : Prop where
  exactly : ∀ write ∈ writes, write.Exact
  stops : writes.Pairwise fun earlier later => earlier.IsCut → later.2.1 = []

theorem wholeOrNothing_bytes {writes : List ChunkWrite} (whole : WholeOrNothing writes) :
    writes.flatMap ChunkWrite.bytes =
      ((writes.filter ChunkWrite.isWhole).map Prod.fst).flatten := by
  induction writes with
  | nil => rfl
  | cons write rest ih =>
      have others := ih (fun other member => whole other (List.mem_cons_of_mem _ member))
      rw [List.flatMap_cons, others, List.filter_cons]
      cases all : write.isWhole with
      | true =>
          rw [if_pos rfl, List.map_cons, List.flatten_cons, ChunkWrite.bytes_of_isWhole all]
      | false =>
          have nothing := (whole write List.mem_cons_self).resolve_right (by simp [all])
          rw [if_neg (by simp), ChunkWrite.bytes_of_none nothing, List.nil_append]

theorem stopped_nothing {writes : List ChunkWrite}
    (stopped : ∀ write ∈ writes, write.2.1 = []) : writes.flatMap ChunkWrite.bytes = [] := by
  apply List.flatMap_eq_nil_iff.mpr
  intro write member
  exact ChunkWrite.bytes_of_none (stopped write member)

theorem StopsAtCut.nil : StopsAtCut [] := ⟨nofun, .nil⟩

theorem StopsAtCut.isPrefix {writes : List ChunkWrite} (stopsAtCut : StopsAtCut writes) :
    writes.flatMap ChunkWrite.bytes <+: (writes.map Prod.fst).flatten := by
  induction writes with
  | nil => exact List.prefix_refl []
  | cons write rest ih =>
      obtain ⟨exactly, stops⟩ := stopsAtCut
      obtain ⟨first, others⟩ := List.pairwise_cons.mp stops
      have own := exactly write List.mem_cons_self
      rw [List.flatMap_cons, List.map_cons, List.flatten_cons]
      by_cases cut : write.IsCut
      · have stopped := stopped_nothing fun later member => first later member cut
        rw [stopped, List.append_nil]
        exact own.bytes_isPrefix.trans (List.prefix_append _ _)
      · rw [own.bytes_of_wrote (not_not.mp cut)]
        exact (List.prefix_append_right_inj write.1).mpr
          (ih ⟨fun later member => exactly later (List.mem_cons_of_mem _ member), others⟩)

/-! ### `update` writes nothing -/

theorem readWhileData_offered (fd : Fd) (answers : List ReadAnswer) (table : DescriptorTable) :
    (readWhileData fd answers table).1.offered = table.offered := by
  induction answers generalizing table with
  | nil => rfl
  | cons answer rest ih =>
      cases answer with
      | data bytes => exact (ih _).trans (table.read_offered fd bytes)
      | closed => rfl
      | failed errno =>
          rw [readWhileData]
          split
          · rfl
          · rfl

theorem updateSockets_offered (socketFdMap : Int → Option Fd) (reads : Int → List ReadAnswer)
    (order : List Int) (table : DescriptorTable) :
    (ForwardSourceHandler.updateSockets socketFdMap reads order table).1.offered =
      table.offered := by
  induction order generalizing table with
  | nil => rfl
  | cons socketId rest ih =>
      rw [ForwardSourceHandler.updateSockets]
      split
      · exact ih table
      · exact (ih _).trans (readWhileData_offered _ _ table)

theorem listen_offered (source : ForwardSourceHandler) (accepts : List (Option Fd))
    (table : DescriptorTable) : (source.listen accepts table).2.1.offered = table.offered := by
  unfold ForwardSourceHandler.listen
  split
  · rfl
  · rfl

theorem updateSources_offered (answers : UpdateAnswers) (index : Nat)
    (sources : List ForwardSourceHandler) (table : DescriptorTable) :
    (PortForwardHandler.updateSources answers index sources table).2.1.offered =
      table.offered := by
  induction sources generalizing index table with
  | nil => rfl
  | cons source rest ih =>
      rw [PortForwardHandler.updateSources]
      refine (ih _ _).trans ((listen_offered _ _ _).trans ?_)
      exact updateSockets_offered _ _ _ table

theorem updateDestinations_offered (reads : Int → List ReadAnswer) (order : List Int)
    (handlers : Int → Option ForwardDestinationHandler) (table : DescriptorTable) :
    (PortForwardHandler.updateDestinations reads order handlers table).2.1.offered =
      table.offered := by
  induction order generalizing handlers table with
  | nil => rfl
  | cons socketId rest ih =>
      have updated : ∀ (handler : ForwardDestinationHandler),
          (handler.update (reads socketId) table).2.1.offered = table.offered := by
        intro handler
        unfold ForwardDestinationHandler.update
        split
        · rfl
        · exact readWhileData_offered _ _ table
      rw [PortForwardHandler.updateDestinations]
      split
      · exact ih handlers table
      · dsimp only
        split
        · exact updated _
        · exact (ih _ _).trans (updated _)

theorem update_offered (handler : PortForwardHandler) (answers : UpdateAnswers)
    (table : DescriptorTable) : (handler.update answers table).2.1.offered = table.offered :=
  (updateDestinations_offered _ _ _ _).trans (updateSources_offered _ _ _ table)

/-! ### A packet writes to one connection at most -/

namespace PortForwardHandler

def socketOf (handler : PortForwardHandler) (pwd : PortForwardData) : Option Fd :=
  if pwd.sourcetodestination then
    (handler.destinationHandlers pwd.socketid).bind ForwardDestinationHandler.fd
  else
    (handler.socketIdSourceHandlerMap pwd.socketid).bind fun index =>
      handler.sourceHandlers[index]?.bind fun source => source.socketFdMap pwd.socketid

def writeOf (handler : PortForwardHandler) (table : DescriptorTable) :
    TunnelPacket → Option (Nat × Bytes)
  | .data pwd =>
      match pwd.content with
      | .buffer bytes =>
          ((handler.socketOf pwd).bind table.connectionOf).map fun connection =>
            (connection, bytes)
      | _ => none
  | _ => none

theorem sendDataToSourceOnSocket_eq (handler : PortForwardHandler) (table : DescriptorTable)
    (socketId : Int) (bytes : Bytes) (schedule : WriteSchedule) :
    handler.sendDataToSourceOnSocket socketId bytes schedule table =
      match handler.socketOf
          { sourcetodestination := false, socketid := socketId, content := .buffer bytes } with
      | none => table
      | some fd => table.writeAllOrReturn fd bytes schedule := by
  rw [sendDataToSourceOnSocket, socketOf, if_neg Bool.false_ne_true]
  dsimp only
  cases handler.socketIdSourceHandlerMap socketId with
  | none => rfl
  | some index =>
      dsimp only [Option.bind_some]
      cases handler.sourceHandlers[index]? with
      | none => rfl
      | some source => rfl

theorem handleDestinationData_eq (handler : PortForwardHandler) (table : DescriptorTable)
    (socketId : Int) (bytes : Bytes) (schedule : WriteSchedule) :
    handler.handleDestinationData table schedule socketId (.buffer bytes) =
      (handler, match handler.socketOf
          { sourcetodestination := true, socketid := socketId, content := .buffer bytes } with
        | none => table
        | some fd => table.writeAllOrReturn fd bytes schedule) := by
  rw [handleDestinationData, socketOf, if_pos rfl]
  cases handler.destinationHandlers socketId with
  | none => rfl
  | some destination => rfl

theorem closeSourceSocketId_offered (handler : PortForwardHandler) (table : DescriptorTable)
    (socketId : Int) : (handler.closeSourceSocketId table socketId).2.offered = table.offered := by
  unfold closeSourceSocketId
  split
  · rfl
  · split
    · rfl
    · rename_i source _
      unfold ForwardSourceHandler.closeSocket
      cases source.socketFdMap socketId with
      | none => rfl
      | some fd => rfl

theorem closeSourceFd_offered (handler : PortForwardHandler) (table : DescriptorTable)
    (fd : Fd) : (handler.closeSourceFd table fd).2.offered = table.offered := by
  unfold closeSourceFd
  split
  · rfl
  · split
    · rfl
    · rename_i source _
      unfold ForwardSourceHandler.closeUnassignedFd
      by_cases unassigned : source.hasUnassignedFd fd
      · simp [unassigned]
      · simp [unassigned]

theorem createDestination_offered (handler : PortForwardHandler) (answers : PacketAnswers)
    (table : DescriptorTable) (pfdr : PortForwardDestinationRequest) :
    (handler.createDestination answers table pfdr).2.1.offered = table.offered := by
  unfold createDestination
  split
  · rfl
  · split
    · rfl
    · rfl

theorem handleDestinationData_close_offered (handler : PortForwardHandler)
    (table : DescriptorTable) (schedule : WriteSchedule) (socketId : Int)
    (content : PortForwardContent) (ends : ∀ bytes, content ≠ .buffer bytes) :
    (handler.handleDestinationData table schedule socketId content).2.offered =
      table.offered := by
  unfold handleDestinationData
  split
  · rfl
  · rename_i destination _
    cases content with
    | buffer bytes => exact absurd rfl (ends bytes)
    | error _ | closed =>
        dsimp only
        unfold ForwardDestinationHandler.close
        cases destination.fd with
        | none => rfl
        | some fd => rfl

end PortForwardHandler

/-- `offered` when this write has been made. -/
def DescriptorTable.offering (table : DescriptorTable) (schedule : WriteSchedule) :
    Option (Nat × Bytes) → Nat → List ChunkWrite
  | none => table.offered
  | some (connection, bytes) =>
      Function.update table.offered connection
        (table.offered connection ++ [(bytes, schedule.writeAllOrReturn bytes)])

theorem writeAllOrReturn_offered (table : DescriptorTable) (socket : Option Fd) (bytes : Bytes)
    (schedule : WriteSchedule) :
    (match socket with
      | none => table
      | some fd => table.writeAllOrReturn fd bytes schedule).offered =
      table.offering schedule ((socket.bind table.connectionOf).map fun connection =>
        (connection, bytes)) := by
  cases socket with
  | none => rfl
  | some fd =>
      dsimp only [Option.bind_some]
      unfold DescriptorTable.writeAllOrReturn
      cases table.connectionOf fd with
      | none => rfl
      | some connection => rfl

theorem handlePacket_offered (handler : PortForwardHandler) (answers : PacketAnswers)
    (table : DescriptorTable) (packet : TunnelPacket) :
    (handler.handlePacket answers table packet).2.1.offered =
      table.offering answers.schedule (handler.writeOf table packet) := by
  cases packet with
  | destinationRequest pfdr => exact handler.createDestination_offered answers table pfdr
  | destinationResponse pfdr =>
      obtain ⟨clientfd, result⟩ := pfdr
      cases result with
      | error what => exact handler.closeSourceFd_offered table clientfd
      | ok socketId => rfl
  | data pwd =>
      obtain ⟨sourcetodestination, socketid, content⟩ := pwd
      cases sourcetodestination with
      | true =>
          cases content with
          | buffer bytes =>
              rw [PortForwardHandler.handlePacket, if_pos rfl]
              dsimp only
              rw [handler.handleDestinationData_eq]
              exact writeAllOrReturn_offered table _ bytes answers.schedule
          | error errno =>
              exact handler.handleDestinationData_close_offered table answers.schedule socketid
                (.error errno) (by simp)
          | closed =>
              exact handler.handleDestinationData_close_offered table answers.schedule socketid
                .closed (by simp)
      | false =>
          cases content with
          | buffer bytes =>
              rw [PortForwardHandler.handlePacket, if_neg Bool.false_ne_true]
              dsimp only [PortForwardHandler.handleSourceData]
              rw [handler.sendDataToSourceOnSocket_eq]
              exact writeAllOrReturn_offered table _ bytes answers.schedule
          | error _ | closed => exact handler.closeSourceSocketId_offered table socketid

/-! ### Runs -/

namespace Tunnels

variable {tunnels after : Tunnels} {action : Action}

/-- What the end that is `here` writes when it handles its next packet. -/
inductive Writes (tunnels : Tunnels) : Action → Nat → Bytes → WriteSchedule → Prop
  | deliver {answers : PacketAnswers} {packet : TunnelPacket} {rest : List TunnelPacket}
      {connection : Nat} {bytes : Bytes} :
      tunnels.toHere = packet :: rest →
      tunnels.here.handler.writeOf tunnels.here.table packet = some (connection, bytes) →
      Writes tunnels (.deliver answers) connection bytes answers.schedule

theorem act_there (act : Act tunnels action after) : after.there = tunnels.there := by
  cases act with
  | update => rfl
  | deliver => rfl

theorem act_offered (act : Act tunnels action after) :
    after.here.table.offered = tunnels.here.table.offered ∨
      ∃ connection bytes schedule, tunnels.Writes action connection bytes schedule ∧
        after.here.table.offered = Function.update tunnels.here.table.offered connection
          (tunnels.here.table.offered connection ++
            [(bytes, schedule.writeAllOrReturn bytes)]) := by
  cases act with
  | @update answers _ _ => exact Or.inl (update_offered _ answers _)
  | @deliver answers packet rest isNext _ =>
      have offered := handlePacket_offered tunnels.here.handler answers tunnels.here.table packet
      cases write : tunnels.here.handler.writeOf tunnels.here.table packet with
      | none =>
          rw [write] at offered
          exact Or.inl offered
      | some chunk =>
          obtain ⟨connection, bytes⟩ := chunk
          rw [write] at offered
          exact Or.inr ⟨connection, bytes, _, .deliver isNext write, offered⟩

theorem act_histories {property : List ChunkWrite → Prop}
    (act : Act tunnels action after)
    (holds : ∀ connection, property (tunnels.here.table.offered connection))
    (extended : ∀ connection bytes schedule, tunnels.Writes action connection bytes schedule →
      property (tunnels.here.table.offered connection ++
        [(bytes, schedule.writeAllOrReturn bytes)])) :
    ∀ connection, property (after.here.table.offered connection) := by
  intro connection
  rcases act_offered act with same | ⟨target, bytes, schedule, writes, offered⟩
  · rw [same]
    exact holds connection
  · rw [offered]
    by_cases here : connection = target
    · subst here
      rw [Function.update_self]
      exact extended _ _ _ writes
    · rw [Function.update_of_ne here]
      exact holds connection

def Admits (condition : Tunnels → Action → Prop) (tunnels : Tunnels) :
    Bool × Action → Prop
  | (true, action) => condition tunnels action
  | (false, action) => condition tunnels.swap action

theorem histories {property : List ChunkWrite → Prop}
    {condition : Tunnels → Action → Prop} (initially : property [])
    (extended : ∀ (tunnels : Tunnels) (action : Action) (connection : Nat) (bytes : Bytes)
      (schedule : WriteSchedule), condition tunnels action →
      tunnels.Writes action connection bytes schedule →
      property (tunnels.here.table.offered connection) →
      property (tunnels.here.table.offered connection ++
        [(bytes, schedule.writeAllOrReturn bytes)]))
    (reached : forwardingSystem.ReachableBy (Admits condition) tunnels) :
    (∀ connection, property (tunnels.here.table.offered connection)) ∧
      ∀ connection, property (tunnels.there.table.offered connection) := by
  induction reached with
  | start initial =>
      obtain ⟨sourcesHere, sourcesThere, rfl⟩ := initial
      exact ⟨fun _ => initially, fun _ => initially⟩
  | @next before after label _ admitted step ih =>
      obtain ⟨here, there⟩ := ih
      cases step with
      | @here _ action act =>
          constructor
          · exact act_histories act here fun connection bytes schedule writes =>
              extended before action connection bytes schedule admitted writes (here connection)
          · rw [act_there act]
            exact there
      | @there _ action act =>
          constructor
          · have unchanged : after.here = before.here := act_there act
            rw [unchanged]
            exact here
          · exact act_histories act there fun connection bytes schedule writes =>
              extended before.swap action connection bytes schedule admitted writes
                (there connection)

end Tunnels

end EternalTerminal
