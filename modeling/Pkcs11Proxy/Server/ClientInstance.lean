import Pkcs11Proxy.Server.LoginFlow

namespace Pkcs11Proxy.Server

open Lib

structure BackendSlotId where
  raw : UInt64
deriving DecidableEq, Repr

inductive MessageOperation where
  | encrypt
  | decrypt
  | sign
  | verify
deriving DecidableEq, Repr

structure ObjectMetadata where
  uniqueId : Bytes
  objectClass : Option UInt64
  isToken : Bool
deriving DecidableEq, Repr

structure GatedObjectMetadata where
  generation : UInt64
  fetched : ObjectMetadata
deriving DecidableEq, Repr

structure CachedAttr where
  value : Bytes
  ckRv : UInt64
deriving DecidableEq, Repr

structure LogicalClientInstance where
  sessionHandles : HandleMap
  sessionSlots : Dict VirtualHandle BackendSlotId
  objectHandles : HandleMap
  objectMetadata : Dict VirtualHandle ObjectMetadata
  tokenObjectMetadata : Dict VirtualHandle GatedObjectMetadata
  sessionObjects : Dict VirtualHandle (List VirtualHandle)
  createdObjects : Finset VirtualHandle
  objectPrivate : Dict VirtualHandle Bool
  destroyedObjects : Finset VirtualHandle
  attrCache : Dict (VirtualHandle × UInt64) CachedAttr
  loginState : Dict BackendSlotId LoginState
  contendedSlotLogin : Finset BackendSlotId
  messageOperations : Dict (VirtualHandle × MessageOperation) Nat

namespace LogicalClientInstance

def new : LogicalClientInstance := ⟨HandleMap.new, ∅, HandleMap.new, ∅, ∅, ∅, ∅, ∅, ∅, ∅, ∅, ∅, ∅⟩

section

variable (context : LogicalClientInstance)

def registerSession (backend : BackendHandle) (slot : BackendSlotId) :
    LogicalClientInstance × VirtualHandle :=
  let (handles, virt) := context.sessionHandles.insert backend
  ({ context with sessionHandles := handles, sessionSlots := context.sessionSlots.insert virt slot }, virt)

def recordSessionObject (session object : VirtualHandle) : LogicalClientInstance :=
  { context with
      sessionObjects := context.sessionObjects.insert session (((context.sessionObjects.lookup session).getD []) ++ [object]) }

def evictObject (object : VirtualHandle) : LogicalClientInstance :=
  { context with
      objectHandles := (context.objectHandles.remove object).1
      objectMetadata := context.objectMetadata.erase object
      tokenObjectMetadata := context.tokenObjectMetadata.erase object
      createdObjects := context.createdObjects.erase object
      objectPrivate := context.objectPrivate.erase object
      attrCache := dictRetain (fun key => key.1 != object) context.attrCache }

def putAttribute (object : VirtualHandle) (attr : UInt64) (cached : CachedAttr) :
    LogicalClientInstance :=
  { context with attrCache := context.attrCache.insert (object, attr) cached }

-- The hook of `C_DestroyObject`, which also leaves a tombstone.
def destroyObject (object : VirtualHandle) : LogicalClientInstance :=
  { context.evictObject object with destroyedObjects := insert object context.destroyedObjects }

def evictSessionObjects (session : VirtualHandle) : LogicalClientInstance :=
  match context.sessionObjects.lookup session with
  | some objects => objects.foldl evictObject { context with sessionObjects := context.sessionObjects.erase session }
  | none => context

def dropMessageOperations (session : VirtualHandle) : LogicalClientInstance :=
  { context with messageOperations := dictRetain (fun key => key.1 != session) context.messageOperations }

def hasSessionOn (slot : BackendSlotId) : Bool := decide (slot ∈ dictValues context.sessionSlots)

def releaseLogin (slot : BackendSlotId) : LogicalClientInstance :=
  { context with loginState := context.loginState.erase slot, contendedSlotLogin := context.contendedSlotLogin.erase slot }

def evictSession (session : VirtualHandle) : LogicalClientInstance :=
  ({ context with
      sessionSlots := context.sessionSlots.erase session
      sessionHandles := (context.sessionHandles.remove session).1 }.dropMessageOperations session).evictSessionObjects session

def removeSession (session : VirtualHandle) : LogicalClientInstance × Option BackendHandle :=
  let evicted := context.evictSession session
  let removed := match context.sessionSlots.lookup session with
    | some slot => if evicted.hasSessionOn slot then evicted else evicted.releaseLogin slot
    | none => evicted
  (removed, (context.sessionHandles.remove session).2)

def hasOpenBackendSessions : Bool := decide (context.sessionHandles.backendHandles.Nonempty)

-- The handle counters survive a teardown.
def teardown : LogicalClientInstance × Finset BackendHandle :=
  ({ context with
      sessionHandles := context.sessionHandles.clear
      sessionSlots := ∅
      objectHandles := context.objectHandles.clear
      objectMetadata := ∅
      tokenObjectMetadata := ∅
      sessionObjects := ∅
      createdObjects := ∅
      objectPrivate := ∅
      attrCache := ∅
      loginState := ∅
      contendedSlotLogin := ∅
      messageOperations := ∅ }, context.sessionHandles.backendHandles)

end

end LogicalClientInstance

end Pkcs11Proxy.Server
