/-
`MultiplexerState`: the tabs, splits and panes of an HTM session.

The three maps are ordered maps as in the source, so that the loops over them
go through the keys in the same order.  An object that the source changes
through a pointer is changed in its map.  `.error` is a fatal log.
-/

import Mathlib.Data.Rat.Defs
import EternalTerminal.Htm.TerminalHandler

namespace EternalTerminal

def UUID_LENGTH : Nat := 36

/-- An id as `HtmServer::run` reads it and as `sole::uuid4` makes it. -/
structure Uuid where
  bytes : Bytes
  length_eq : bytes.length = UUID_LENGTH

namespace MultiplexerState

structure Pane where
  id : Bytes
  parentId : Bytes
  terminal : TerminalHandler

/-- The sizes are fractions of the split, as exact rationals. -/
structure Split where
  id : Bytes
  parentId : Bytes
  vertical : Bool
  panes_or_splits : List Bytes
  sizes : List ℚ

structure Tab where
  id : Bytes
  pane_or_split_id : Bytes
  order : Int

end MultiplexerState

structure MultiplexerState where
  tabs : Std.TreeMap Bytes MultiplexerState.Tab compare
  panes : Std.TreeMap Bytes MultiplexerState.Pane compare
  splits : Std.TreeMap Bytes MultiplexerState.Split compare
  closed : Std.TreeSet Bytes compare

namespace MultiplexerState

def create (tabId paneId : Bytes) : MultiplexerState :=
  { tabs := (∅ : Std.TreeMap Bytes Tab compare).insertIfNew tabId
      { id := tabId, pane_or_split_id := paneId, order := 0 }
    panes := (∅ : Std.TreeMap Bytes Pane compare).insertIfNew paneId
      { id := paneId, parentId := tabId, terminal := TerminalHandler.create }
    splits := ∅
    closed := ∅ }

def getTab (state : MultiplexerState) (id : Bytes) : Except String Tab :=
  match state.tabs[id]? with
  | some tab => .ok tab
  | none => .error "Tried to get a pane that doesn't exist"

def getPane (state : MultiplexerState) (id : Bytes) : Except String Pane :=
  match state.panes[id]? with
  | some pane => .ok pane
  | none => .error "Tried to get a pane that doesn't exist"

def getSplit (state : MultiplexerState) (id : Bytes) : Except String Split :=
  match state.splits[id]? with
  | some split => .ok split
  | none => .error "Tried to get a pane that doesn't exist"

def fatalIfFound (state : MultiplexerState) (id : Bytes) : Except String Unit :=
  if id ∈ state.panes then .error "Found unexpected id in panes"
  else if id ∈ state.splits then .error "Found unexpected id in splits"
  else if id ∈ state.tabs then .error "Found unexpected id in tabs"
  else .ok ()

def insertPane (state : MultiplexerState) (paneId parentId : Bytes) : MultiplexerState :=
  { state with
    panes := state.panes.insertIfNew paneId
      { id := paneId, parentId := parentId, terminal := TerminalHandler.create } }

/-- `newTab` when both ids are new. -/
def addTab (state : MultiplexerState) (tabId paneId : Bytes) : MultiplexerState :=
  let state :=
    { state with
      tabs := state.tabs.insertIfNew tabId
        { id := tabId, pane_or_split_id := paneId, order := state.tabs.size } }
  state.insertPane paneId tabId

def newTab (state : MultiplexerState) (tabId paneId : Bytes) :
    Except String MultiplexerState := do
  state.fatalIfFound tabId
  state.fatalIfFound paneId
  pure (state.addTab tabId paneId)

def setParent (state : MultiplexerState) (paneId parentId : Bytes) : MultiplexerState :=
  { state with
    panes := state.panes.modify paneId fun pane => { pane with parentId := parentId } }

def continueSplit (state : MultiplexerState) (split : Split) (paneId : Bytes) :
    MultiplexerState :=
  let state :=
    { state with
      splits := state.splits.modify split.id fun split =>
        { split with
          sizes := split.sizes.map (· / 2) ++ [1 / 2]
          panes_or_splits := split.panes_or_splits ++ [paneId] } }
  state.setParent paneId split.id

/-- A split at `uuid` of the source and the new pane. -/
def addSplit (state : MultiplexerState) (uuid parentId sourceId paneId : Bytes)
    (vertical : Bool) : MultiplexerState :=
  let state :=
    { state with
      splits := state.splits.insertIfNew uuid
        { id := uuid
          parentId := parentId
          vertical := vertical
          panes_or_splits := [sourceId, paneId]
          sizes := [1 / 2, 1 / 2] } }
  (state.setParent paneId uuid).setParent sourceId uuid

/-- Put `newId` in the place of `oldId` among the children of a split. -/
def replaceChild (state : MultiplexerState) (splitId oldId newId : Bytes)
    (missing : String) : Except String MultiplexerState := do
  let split ← state.getSplit splitId
  if oldId ∈ split.panes_or_splits ∨ split.panes_or_splits = [] then
    pure
      { state with
        splits := state.splits.modify splitId fun split =>
          { split with panes_or_splits := split.panes_or_splits.replace oldId newId } }
  else .error missing

def splitInNewDirection (state : MultiplexerState) (parentSplit : Split)
    (sourceId paneId uuid : Bytes) (vertical : Bool) : Except String MultiplexerState :=
  (state.addSplit uuid parentSplit.id sourceId paneId vertical).replaceChild
    parentSplit.id sourceId uuid "SourcePane missing from parent split"

def setTabChild (state : MultiplexerState) (tabId childId : Bytes) : MultiplexerState :=
  { state with
    tabs := state.tabs.modify tabId fun tab => { tab with pane_or_split_id := childId } }

def splitRootPane (state : MultiplexerState) (tab : Tab) (sourceId paneId uuid : Bytes)
    (vertical : Bool) : MultiplexerState :=
  (state.addSplit uuid tab.id sourceId paneId vertical).setTabChild tab.id uuid

/-- `newSplit`, which draws `uuid` if it makes a split.  The new pane has no parent
until one is set. -/
def newSplit (state : MultiplexerState) (sourceId paneId : Bytes) (vertical : Bool)
    (uuid : Bytes) : Except String MultiplexerState := do
  state.fatalIfFound paneId
  let state := state.insertPane paneId []
  let sourcePane ← state.getPane sourceId
  match state.splits[sourcePane.parentId]? with
  | some split =>
      if split.vertical = vertical then pure (state.continueSplit split paneId)
      else state.splitInNewDirection split sourceId paneId uuid vertical
  | none => do
      let tab ← state.getTab sourcePane.parentId
      pure (state.splitRootPane tab sourceId paneId uuid vertical)

/-- `closePane` of a pane that is a tab's only one. -/
def closeTab (state : MultiplexerState) (tab : Tab) (pane : Pane) :
    Except String MultiplexerState :=
  let tabs := state.tabs.map fun _ other =>
    if other.order > tab.order then { other with order := other.order - 1 } else other
  match tabs.toList.find? fun entry => entry.2.pane_or_split_id = pane.id with
  | some (tabId, _) => .ok { state with tabs := tabs.erase tabId }
  | none => .error "Could not find tab"

def removeChild (split : Split) (pane : Pane) : Except String Split :=
  if pane.id ∈ split.panes_or_splits then
    .ok
      { split with
        panes_or_splits := split.panes_or_splits.erase pane.id
        sizes := split.sizes.eraseIdx (split.panes_or_splits.idxOf pane.id) }
  else if split.panes_or_splits = [] then .ok split
  else .error "Parent pane did not contain child pane"

def normalizeSizes (split : Split) : Split :=
  let newSize := split.sizes.length
  let oldSize := newSize + 1
  { split with sizes := split.sizes.map fun size => size * oldSize / newSize }

def promoteChild (state : MultiplexerState) (split : Split) (childId : Bytes) :
    Except String MultiplexerState :=
  if split.parentId ∈ state.tabs then .ok (state.setTabChild split.parentId childId)
  else state.replaceChild split.parentId split.id childId "Could not find parent split"

/-- The split is left with one child, which has to be a pane. -/
def collapseSplit (state : MultiplexerState) (split : Split) (childId : Bytes) :
    Except String MultiplexerState := do
  let pane ← state.getPane childId
  let state ← (state.setParent childId split.parentId).promoteChild split pane.id
  pure { state with splits := state.splits.erase split.id }

/-- `closePane` of a pane that is in a split. -/
def closeInSplit (state : MultiplexerState) (pane : Pane) :
    Except String MultiplexerState := do
  let split ← state.getSplit pane.parentId
  let split ← removeChild split pane
  match split.panes_or_splits with
  | [] => .error "Subscript out of range"
  | [childId] =>
      let state := { state with splits := state.splits.insert pane.parentId split }
      state.collapseSplit split childId
  | _ :: _ :: _ =>
      pure { state with splits := state.splits.insert pane.parentId (normalizeSizes split) }

/-- `closePane` once the pane has been taken out of the map. -/
def detachPane (state : MultiplexerState) (pane : Pane) : Except String MultiplexerState :=
  match state.tabs[pane.parentId]? with
  | some tab => state.closeTab tab pane
  | none => state.closeInSplit pane

def closePane (state : MultiplexerState) (paneId : Bytes) :
    Except String MultiplexerState :=
  if paneId ∈ state.closed then .ok state
  else
    match state.panes[paneId]? with
    | none => .error "Tried to close a pane that doesn't exist"
    | some pane =>
        let state :=
          { state with
            panes := state.panes.erase paneId
            closed := state.closed.insert paneId }
        state.detachPane pane

/-- What `update` tells the client. -/
inductive Message where
  | appendToPane (paneId terminalData : Bytes)
  | serverClosePane (paneId : Bytes)

def setTerminal (state : MultiplexerState) (paneId : Bytes) (terminal : TerminalHandler) :
    MultiplexerState :=
  { state with
    panes := state.panes.modify paneId fun pane => { pane with terminal := terminal } }

/-- `update` on the panes that its loop has still to visit.  The endpoint takes a
message or throws; then the state stays as it is and the loop ends, as it does
after a pane is closed. -/
def updatePanes (poll : Bytes → TerminalHandler.Poll) (taken : Message → Bool) :
    List Bytes → MultiplexerState → Except String (List Message × MultiplexerState)
  | [], state => .ok ([], state)
  | paneId :: rest, state => do
      let pane ← state.getPane paneId
      let (terminalData, terminal) ← pane.terminal.pollUserTerminal (poll paneId)
      let state := state.setTerminal paneId terminal
      let message := Message.appendToPane paneId terminalData
      if terminalData ≠ [] ∧ taken message = false then pure ([], state)
      else
        let sent := if terminalData = [] then [] else [message]
        if terminal.run then do
          let (later, state) ← updatePanes poll taken rest state
          pure (sent ++ later, state)
        else do
          let state ← state.closePane paneId
          let message := Message.serverClosePane paneId
          pure (if taken message then sent ++ [message] else sent, state)

def update (state : MultiplexerState) (poll : Bytes → TerminalHandler.Poll)
    (taken : Message → Bool) : Except String (List Message × MultiplexerState) :=
  updatePanes poll taken state.panes.keys state

/-- The text of a buffer.  A line break is put in only where there is text before it. -/
def terminalData (buffer : List Bytes) : Bytes :=
  buffer.foldl (fun data line => (if data = [] then data else data ++ [10]) ++ line) []

/-- A pane that has no buffer yet is left out. -/
def bufferMessage (entry : Bytes × Pane) : Option Message :=
  if entry.2.terminal.buffer = [] then none
  else some (.appendToPane entry.1 (terminalData entry.2.terminal.buffer))

/-- What a client is sent when it attaches, if the endpoint takes it all. -/
def sendTerminalBuffers (state : MultiplexerState) : List Message :=
  state.panes.toList.filterMap bufferMessage

end MultiplexerState

end EternalTerminal
