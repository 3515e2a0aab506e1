import Pkcs11Proxy.Lib.Dict

namespace Pkcs11Proxy.Server

open Lib

structure ConnectionState where
  closed : Bool
  liveConnections : Nat
deriving DecidableEq, Repr

namespace ConnectionState

def new : ConnectionState := ⟨false, 1⟩

def markClosed (state : ConnectionState) : ConnectionState := { state with closed := true }

def join (state : ConnectionState) : ConnectionState := { state with liveConnections := state.liveConnections + 1 }

def leaveIsLast (state : ConnectionState) : ConnectionState × Bool :=
  if state.liveConnections = 0 then ({ state with liveConnections := 0 }, true)
  else ({ state with liveConnections := state.liveConnections - 1 }, state.liveConnections == 1)

end ConnectionState

structure ConnectionRegistry where
  groups : List ConnectionState
  byPeer : Dict String Nat

namespace ConnectionRegistry

def new : ConnectionRegistry := ⟨[], ∅⟩

section

variable (registry : ConnectionRegistry)

def isClosed (g : Nat) : Bool := (registry.groups[g]?.map ConnectionState.closed).getD true

def onGroup (g : Nat) (update : ConnectionState → ConnectionState) : ConnectionRegistry :=
  { registry with groups := registry.groups.modify g update }

def allocate : ConnectionRegistry × Nat :=
  ({ registry with groups := registry.groups ++ [ConnectionState.new] }, registry.groups.length)

def lookup (registry : ConnectionRegistry) (peerKey : String) : Option Nat := Finmap.lookup peerKey registry.byPeer

-- A candidate that loses to a registered group is discarded, so it is allocated
-- here only where it becomes the group.
def register (peerKey : String) : ConnectionRegistry × Nat :=
  match registry.lookup peerKey with
  | some existing => (registry.onGroup existing ConnectionState.join, existing)
  | none =>
    let (allocated, state) := registry.allocate
    ({ allocated with byPeer := allocated.byPeer.insert peerKey state }, state)

-- The sections of `unregister`: leave the group under the map's read guard, remove
-- the entry if the group is still empty, mark the removed group closed.
def leave (peerKey : String) (state : Nat) : ConnectionRegistry × Bool :=
  if registry.lookup peerKey = some state then
    match registry.groups[state]? with
    | some group => (registry.onGroup state fun _ => group.leaveIsLast.1, group.leaveIsLast.2)
    | none => (registry, false)
  else (registry, false)

def removeIf (peerKey : String) (state : Nat) : ConnectionRegistry × Bool :=
  if registry.lookup peerKey = some state ∧ registry.groups[state]?.map ConnectionState.liveConnections = some 0 then
    ({ registry with byPeer := registry.byPeer.erase peerKey }, true)
  else (registry, false)

end

end ConnectionRegistry

inductive StreamPhase where
  | live
  | removing
  | marking
  | dropped
deriving DecidableEq, Repr

structure TrackedStream where
  state : Nat
  peerKey : Option String
  phase : StreamPhase
deriving DecidableEq, Repr

-- A request holds the group it resolved until it ends; `rebind_connection` reads the
-- closed flag before it takes the context's lock.
inductive RequestPhase where
  | resolved (connection : Option Nat)
  | rebinding (state : Nat) (context : Nat)
  | finished
deriving DecidableEq, Repr

def RequestPhase.held : RequestPhase → Option Nat
  | .resolved connection => connection
  | .rebinding state _ => some state
  | .finished => none

-- `bound` is ghost state: every group the context was ever bound to.
structure ContextBinding where
  connectionState : Option (List Nat)
  bound : List Nat
deriving DecidableEq, Repr

structure ConnectionSystem where
  registry : ConnectionRegistry
  streams : List TrackedStream
  requests : List RequestPhase
  contexts : List ContextBinding

namespace ConnectionSystem

def new : ConnectionSystem := ⟨ConnectionRegistry.new, [], [], []⟩

-- `Weak::upgrade`: the map, a stream that is not dropped or a request still holds
-- the allocation.
def upgrades (system : ConnectionSystem) (g : Nat) : Bool :=
  decide (g ∈ dictValues system.registry.byPeer) ||
    system.streams.any (fun stream => stream.state == g && stream.phase != .dropped) ||
    system.requests.any fun request => request.held == some g

def isLive (system : ConnectionSystem) (g : Nat) : Bool := system.upgrades g && !system.registry.isClosed g

def setStream (system : ConnectionSystem) (k : Nat) (stream : TrackedStream) (registry : ConnectionRegistry) (phase : StreamPhase) :
    ConnectionSystem :=
  { system with registry := registry, streams := system.streams.set k { stream with phase := phase } }

end ConnectionSystem

namespace ContextBinding

def newWithConnection (connection : Option Nat) : ContextBinding := ⟨connection.map fun state => [state], connection.toList⟩

section

variable (system : ConnectionSystem)

def liveConnectionBindings (context : ContextBinding) : ContextBinding × Bool × List Nat :=
  match context.connectionState with
  | none => (context, false, [])
  | some entries =>
    let retained := entries.filter system.isLive
    ({ context with connectionState := some retained }, true, retained.filter system.upgrades)

def rebindConnection (context : ContextBinding) (state : Nat) : ContextBinding :=
  match context.connectionState with
  | none => ⟨some [state], state :: context.bound⟩
  | some entries =>
    let retained := entries.filter system.isLive
    if (retained.filter system.upgrades).contains state then { context with connectionState := some retained }
    else ⟨some (retained ++ [state]), state :: context.bound⟩

def isTransportDead (context : ContextBinding) : Bool :=
  let (_, everBound, live) := context.liveConnectionBindings system
  everBound && live.isEmpty

def sameConnectionAs (context : ContextBinding) (other : Option Nat) : Bool :=
  let (_, everBound, live) := context.liveConnectionBindings system
  match other with
  | none => !everBound
  | some other => !system.registry.isClosed other && live.contains other

end

end ContextBinding

inductive ConnectionAction where
  | accept (peerKey : Option String)
  | drop (k : Nat)
  | request (peerKey : Option String)
  | create (r : Nat)
  | checkRebind (r : Nat) (context : Nat)
  | rebind (r : Nat)
  | release (r : Nat)
  | readLiveness (context : Nat)
deriving DecidableEq, Repr

def acceptStream (system : ConnectionSystem) (peerKey : Option String) : ConnectionSystem :=
  let (registry, state) := match peerKey with
    | some key => system.registry.register key
    | none => system.registry.allocate
  { system with registry := registry, streams := system.streams ++ [⟨state, peerKey, .live⟩] }

def dropStream (system : ConnectionSystem) (k : Nat) (stream : TrackedStream) : Option ConnectionSystem :=
  let close := system.registry.onGroup stream.state ConnectionState.markClosed
  match stream.peerKey, stream.phase with
  | none, .live => some (system.setStream k stream close .dropped)
  | none, _ => none
  | some key, .live =>
    let (registry, isLast) := system.registry.leave key stream.state
    some (system.setStream k stream registry (if isLast then .removing else .dropped))
  | some key, .removing =>
    let (registry, removed) := system.registry.removeIf key stream.state
    some (system.setStream k stream registry (if removed then .marking else .dropped))
  | some _, .marking => some (system.setStream k stream close .dropped)
  | some _, .dropped => none

def connectionStep (system : ConnectionSystem) : ConnectionAction → Option ConnectionSystem
  | .accept peerKey => some (acceptStream system peerKey)
  | .drop k => system.streams[k]?.bind (dropStream system k)
  | .request peerKey => some { system with requests := system.requests ++ [.resolved (peerKey.bind system.registry.lookup)] }
  | .create r =>
    match system.requests[r]? with
    | some (.resolved connection) =>
      some { system with
        requests := system.requests.set r .finished
        contexts := system.contexts ++ [ContextBinding.newWithConnection connection] }
    | _ => none
  | .checkRebind r context =>
    match system.requests[r]? with
    | some (.resolved connection) =>
      match connection.filter fun state => !system.registry.isClosed state with
      | some state => some { system with requests := system.requests.set r (.rebinding state context) }
      | none => some { system with requests := system.requests.set r .finished }
    | _ => none
  | .rebind r =>
    match system.requests[r]? with
    | some (.rebinding state c) =>
      system.contexts[c]?.map fun context =>
        { system with
          requests := system.requests.set r .finished
          contexts := system.contexts.set c (context.rebindConnection system state) }
    | _ => none
  | .release r =>
    if r < system.requests.length then some { system with requests := system.requests.set r .finished } else none
  | .readLiveness c =>
    system.contexts[c]?.map fun context =>
      { system with contexts := system.contexts.set c (context.liveConnectionBindings system).1 }

end Pkcs11Proxy.Server
