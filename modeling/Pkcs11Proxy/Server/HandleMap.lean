import Pkcs11Proxy.Lib.Dict

namespace Pkcs11Proxy.Server

open Lib

abbrev ClientContextId := Nat

structure BackendHandle where
  raw : UInt64
deriving DecidableEq, Repr

structure VirtualHandle where
  raw : UInt64
deriving DecidableEq, Repr

-- One logical client's handles. The two active maps are kept inverse to each
-- other by the operations below, not by the type: the source stores three
-- independent hash maps and a counter.
structure HandleMap where
  nextId : UInt64
  virtualToBackend : Dict VirtualHandle BackendHandle
  backendToVirtual : Dict BackendHandle VirtualHandle
  suspendedVirtualToBackend : Dict VirtualHandle BackendHandle
deriving DecidableEq

namespace HandleMap

def new : HandleMap := ⟨1, ∅, ∅, ∅⟩

-- The counter is a u64; its increment wraps like the release build's.
def insert (map : HandleMap) (backend : BackendHandle) : HandleMap × VirtualHandle :=
  match map.backendToVirtual.lookup backend with
  | some existing => (map, existing)
  | none =>
    let virt : VirtualHandle := ⟨map.nextId⟩
    ({ map with
        nextId := map.nextId + 1
        virtualToBackend := map.virtualToBackend.insert virt backend
        backendToVirtual := map.backendToVirtual.insert backend virt }, virt)

section

variable (map : HandleMap)

def resolve (virt : VirtualHandle) : Option BackendHandle := map.virtualToBackend.lookup virt

def resolveBackend (backend : BackendHandle) : Option VirtualHandle := map.backendToVirtual.lookup backend

def suspendedBackend (virt : VirtualHandle) : Option BackendHandle :=
  map.suspendedVirtualToBackend.lookup virt

-- The reverse entry is dropped only while it still names this virtual handle:
-- a recycled raw value may already be bound to a newer one.
def detachReverse (virt : VirtualHandle) (backend : BackendHandle) : HandleMap :=
  if map.backendToVirtual.lookup backend = some virt then
    { map with backendToVirtual := map.backendToVirtual.erase backend }
  else map

def remove (virt : VirtualHandle) : HandleMap × Option BackendHandle :=
  match map.virtualToBackend.lookup virt with
  | some backend =>
    (detachReverse { map with virtualToBackend := map.virtualToBackend.erase virt } virt backend, some backend)
  | none =>
    match map.suspendedVirtualToBackend.lookup virt with
    | some backend =>
      (detachReverse { map with suspendedVirtualToBackend := map.suspendedVirtualToBackend.erase virt } virt backend,
        some backend)
    | none => (map, none)

def suspend (virt : VirtualHandle) : HandleMap × Option BackendHandle :=
  match map.virtualToBackend.lookup virt with
  | none => (map, none)
  | some backend =>
    let detached := detachReverse { map with virtualToBackend := map.virtualToBackend.erase virt } virt backend
    ({ detached with suspendedVirtualToBackend := detached.suspendedVirtualToBackend.insert virt backend }, some backend)

def isProvenGone (virt : VirtualHandle) : Bool :=
  (map.resolve virt).isNone && (map.suspendedBackend virt).isNone

def reactivateSuspended (virt : VirtualHandle) (expected : BackendHandle) : HandleMap × Bool :=
  if map.suspendedBackend virt ≠ some expected then (map, false)
  else if (map.backendToVirtual.lookup expected).any fun bound => bound ≠ virt then (map, false)
  else
    ({ map with
        suspendedVirtualToBackend := map.suspendedVirtualToBackend.erase virt
        virtualToBackend := map.virtualToBackend.insert virt expected
        backendToVirtual := map.backendToVirtual.insert expected virt }, true)

-- The counter survives: a stale client handle never names a later lease.
def clear : HandleMap :=
  { map with virtualToBackend := ∅, backendToVirtual := ∅, suspendedVirtualToBackend := ∅ }

def virtualHandles : Finset VirtualHandle := map.virtualToBackend.keys

def backendHandles : Finset BackendHandle :=
  dictValues map.virtualToBackend ∪ dictValues map.suspendedVirtualToBackend

def referencesBackend (backend : BackendHandle) : Bool :=
  (map.backendToVirtual.lookup backend).isSome || decide (backend ∈ dictValues map.suspendedVirtualToBackend)

end

end HandleMap

inductive HandleAction where
  | insert (backend : BackendHandle)
  | remove (virt : VirtualHandle)
  | suspend (virt : VirtualHandle)
  | reactivateSuspended (virt : VirtualHandle) (expected : BackendHandle)
  | clear
deriving DecidableEq, Repr

inductive HandleReply where
  | issued (virt : VirtualHandle)
  | released (backend : Option BackendHandle)
  | reactivated (done : Bool)
  | cleared
deriving DecidableEq, Repr

def HandleMap.apply (map : HandleMap) : HandleAction → HandleMap × HandleReply
  | .insert backend => ((map.insert backend).1, .issued (map.insert backend).2)
  | .remove virt => ((map.remove virt).1, .released (map.remove virt).2)
  | .suspend virt => ((map.suspend virt).1, .released (map.suspend virt).2)
  | .reactivateSuspended virt expected =>
    ((map.reactivateSuspended virt expected).1, .reactivated (map.reactivateSuspended virt expected).2)
  | .clear => (map.clear, .cleared)

def HandleMap.run (map : HandleMap) : List HandleAction → HandleMap × List HandleReply
  | [] => (map, [])
  | action :: rest =>
    let stepped := map.apply action
    let finished := HandleMap.run stepped.1 rest
    (finished.1, stepped.2 :: finished.2)

def HandleMap.freshIds (map : HandleMap) : HandleAction → List VirtualHandle
  | .insert backend => if (map.resolveBackend backend).isNone then [(map.insert backend).2] else []
  | _ => []

def HandleMap.issuedIds (map : HandleMap) : List HandleAction → List VirtualHandle
  | [] => []
  | action :: rest => map.freshIds action ++ HandleMap.issuedIds (map.apply action).1 rest

def HandleAction.isInsert : HandleAction → Bool
  | .insert _ => true
  | _ => false

def insertCount (actions : List HandleAction) : Nat := actions.countP HandleAction.isInsert

end Pkcs11Proxy.Server
