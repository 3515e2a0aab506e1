import Pkcs11Proxy.Server.ObjectEviction
import Pkcs11Proxy.Server.ObjectGate

namespace Pkcs11Proxy.Server

open Lib Pkcs11Proxy.Types

namespace LogicalClientInstance

section

variable (context : LogicalClientInstance)

-- `order` is the order in which the session table is walked. The sessions to remove
-- are collected before the first one goes.
def removeSessionsForSlot (slot : BackendSlotId) (order : List VirtualHandle) :
    LogicalClientInstance × List BackendHandle :=
  let toRemove := order.filter fun virt => context.sessionSlots.lookup virt = some slot
  let (evicted, backends) := toRemove.foldl
    (fun walked virt => (walked.1.evictSession virt, walked.2 ++ (walked.1.sessionHandles.remove virt).2.toList)) (context, [])
  (evicted.releaseLogin slot, backends)

def messageOperationLock (virt : VirtualHandle) (operation : MessageOperation) (cell : Nat) :
    Except CkRv LogicalClientInstance :=
  match context.sessionHandles.resolve virt with
  | none => .error .sessionHandleInvalid
  | some _ =>
    match context.messageOperations.lookup (virt, operation) with
    | some _ => .ok context
    | none => .ok { context with messageOperations := context.messageOperations.insert (virt, operation) cell }

def registerObjectHandle (backend : BackendHandle) : LogicalClientInstance :=
  { context with objectHandles := (context.objectHandles.insert backend).1 }

def beginClose (virt : VirtualHandle) : LogicalClientInstance :=
  { context with sessionHandles := (context.sessionHandles.suspend virt).1 }

end

end LogicalClientInstance

-- `recorded` is ghost state: every session object recorded so far, with its session.
structure SessionBooks where
  context : LogicalClientInstance
  recorded : List (VirtualHandle × VirtualHandle)

def SessionBooks.new : SessionBooks := ⟨LogicalClientInstance.new, []⟩

inductive BookAction where
  | registerSession (backend : BackendHandle) (slot : BackendSlotId)
  | beginClose (virt : VirtualHandle)
  | completeClose (virt : VirtualHandle) (expected : BackendHandle) (completion : CloseSessionCompletion)
  | messageOperation (virt : VirtualHandle) (operation : MessageOperation) (cell : Nat)
  | registerObject (session : VirtualHandle) (backend : BackendHandle) (isToken : Bool) (isPrivate : Option Bool)
  | findObject (backend : BackendHandle)
  | cacheMetadata (object : VirtualHandle) (generation : UInt64) (fetched : ObjectMetadata)
  | cacheAttribute (object : VirtualHandle) (attr : UInt64) (cached : CachedAttr)
  | login (slot : BackendSlotId) (login : LoginState)
  | contend (slot : BackendSlotId)
  | removeSessionsForSlot (slot : BackendSlotId) (order : List VirtualHandle)
  | teardown
deriving DecidableEq, Repr

section

variable (books : SessionBooks)

def registerObject (session : VirtualHandle) (backend : BackendHandle) (isToken : Bool) (isPrivate : Option Bool) : SessionBooks :=
  let (context, object) := books.context.registerSessionObjectHandle session backend isToken isPrivate
  ⟨context, if isToken then books.recorded else books.recorded ++ [(session, object)]⟩

-- A close completes with any raw handle and any outcome, whether or not one is under
-- way. Objects are minted in registered sessions, logins and their contended markers
-- stand on slots that have one, and the caches are filled for mapped objects.
def bookStep : BookAction → Option SessionBooks
  | .registerSession backend slot => some { books with context := (books.context.registerSession backend slot).1 }
  | .beginClose virt => some { books with context := books.context.beginClose virt }
  | .completeClose virt expected completion =>
    some { books with context := books.context.completeCloseSession virt expected completion }
  | .messageOperation virt operation cell =>
    match books.context.messageOperationLock virt operation cell with
    | .ok context => some { books with context := context }
    | .error _ => some books
  | .registerObject session backend isToken isPrivate =>
    if (books.context.sessionSlots.lookup session).isSome then some (registerObject books session backend isToken isPrivate) else none
  | .findObject backend => some { books with context := books.context.registerObjectHandle backend }
  | .cacheMetadata object generation fetched =>
    if (books.context.objectHandles.resolve object).isSome then
      some { books with context := books.context.storeMetadata generation object fetched }
    else none
  | .cacheAttribute object attr cached =>
    if (books.context.objectHandles.resolve object).isSome then
      some { books with context := books.context.putAttribute object attr cached }
    else none
  | .login slot login =>
    if books.context.hasSessionOn slot then
      some { books with context := { books.context with loginState := books.context.loginState.insert slot login } }
    else none
  | .contend slot =>
    if books.context.hasSessionOn slot then
      some { books with context := { books.context with contendedSlotLogin := insert slot books.context.contendedSlotLogin } }
    else none
  | .removeSessionsForSlot slot order =>
    if order.Nodup ∧ order.toFinset = books.context.sessionSlots.keys then
      some { books with context := (books.context.removeSessionsForSlot slot order).1 }
    else none
  | .teardown => some { books with context := books.context.teardown.1 }

end

structure ObjectRecord where
  mapped : Option BackendHandle
  suspended : Option BackendHandle
  created : Bool
  isPrivate : Option Bool
  metadata : Option ObjectMetadata
  tokenMetadata : Option GatedObjectMetadata
  attributes : UInt64 → Option CachedAttr

def ObjectRecord.vacant : ObjectRecord := ⟨none, none, false, none, none, none, fun _ => none⟩

def LogicalClientInstance.recordOf (context : LogicalClientInstance) (object : VirtualHandle) : ObjectRecord where
  mapped := context.objectHandles.resolve object
  suspended := context.objectHandles.suspendedBackend object
  created := decide (object ∈ context.createdObjects)
  isPrivate := context.objectPrivate.lookup object
  metadata := context.objectMetadata.lookup object
  tokenMetadata := context.tokenObjectMetadata.lookup object
  attributes := fun attr => context.attrCache.lookup (object, attr)

structure BooksKept (books : SessionBooks) : Prop where
  sessions : ∀ virt, books.context.sessionSlots.lookup virt ≠ none ↔
    books.context.sessionHandles.resolve virt ≠ none ∨ books.context.sessionHandles.suspendedBackend virt ≠ none
  messages : ∀ session operation, books.context.messageOperations.lookup (session, operation) ≠ none →
    books.context.sessionSlots.lookup session ≠ none
  index : ∀ session, books.context.sessionObjects.lookup session ≠ none → books.context.sessionSlots.lookup session ≠ none
  logins : ∀ slot, books.context.loginState.lookup slot ≠ none → ∃ virt, books.context.sessionSlots.lookup virt = some slot
  contended : ∀ slot ∈ books.context.contendedSlotLogin, ∃ virt, books.context.sessionSlots.lookup virt = some slot
  objects : ∀ session object, (session, object) ∈ books.recorded → books.context.sessionSlots.lookup session = none →
    books.context.recordOf object = .vacant

end Pkcs11Proxy.Server
