import Pkcs11Proxy.Server.ClientInstance
import Pkcs11Proxy.Server.TokenPolicy

namespace Pkcs11Proxy.Server

open Lib Pkcs11Proxy.Types

-- What one request finds besides its own context: the policy, the identity stored
-- for the context, the authorization generation, the provider's answers and the
-- slots on which other contexts are logged in.
structure GateEnv where
  policy : TokenPolicy
  identity : Option Text
  generation : UInt64
  tokenInfo : BackendSlotId → Option (Text × Text)
  fetchObjectMetadata : BackendHandle → BackendHandle → Option ObjectMetadata
  backendObjectIsPrivate : BackendHandle → BackendHandle → Bool
  otherLogin : BackendSlotId → Bool

structure GateCall where
  virtualObject : VirtualHandle
  backendObject : BackendHandle
  returned : BackendHandle
deriving DecidableEq, Repr

-- An object handle of a backend operation: as it stood on the wire, as it is passed
-- on, and whether zero in its place means that no key is given.
structure PassedHandle where
  wire : UInt64
  backend : BackendHandle
  zeroIsNone : Bool
deriving DecidableEq, Repr

structure BackendOperation where
  session : BackendHandle
  objects : List PassedHandle
deriving DecidableEq, Repr

-- `gated` and `dispatched` are ghost state: the gate's answers so far, and the
-- backend operation of the request once it is made.
structure GateState where
  context : Option LogicalClientInstance
  tokenInfoCache : Dict BackendSlotId (Text × Text)
  gated : List GateCall
  dispatched : Option BackendOperation

abbrev GateM := EStateM CkRv GateState

def orRefuse {α : Type} (checked : Except CkRv α) : GateM α :=
  match checked with
  | .ok value => pure value
  | .error rv => throw rv

def editContext (f : LogicalClientInstance → LogicalClientInstance) : GateM Unit :=
  modify fun state => { state with context := state.context.map f }

def LogicalClientInstance.storeMetadata (context : LogicalClientInstance) (generation : UInt64) (object : VirtualHandle)
    (fetched : ObjectMetadata) : LogicalClientInstance :=
  if fetched.isToken then
    { context with tokenObjectMetadata := context.tokenObjectMetadata.insert object ⟨generation, fetched⟩ }
  else { context with objectMetadata := context.objectMetadata.insert object fetched }

section

variable (env : GateEnv)

section

variable (context : Option LogicalClientInstance)

def contextIdentity : Except CkRv AuthenticatedIdentity :=
  match context with
  | none => .error .cryptokiNotInitialized
  | some _ =>
    match env.identity with
    | none => .ok .unauthenticated
    | some identity =>
      match AuthenticatedIdentity.fromStr identity with
      | .ok identity => .ok identity
      | .error _ => .error .generalError

def slotForSession (session : VirtualHandle) : Option BackendSlotId :=
  context.bind fun context => context.sessionSlots.lookup session

def resolveObjectAuthzContext (session : VirtualHandle) : GateM (Option (AuthenticatedIdentity × Text × Text)) := do
  let state ← get
  match contextIdentity env state.context, slotForSession state.context session with
  | .ok identity, some slot =>
    match state.tokenInfoCache.lookup slot with
    | some (label, serial) => return some (identity, label, serial)
    | none =>
      match env.tokenInfo slot with
      | none => return none
      | some (label, serial) =>
        modify fun state => { state with tokenInfoCache := state.tokenInfoCache.insert slot (label, serial) }
        return some (identity, label, serial)
  | _, _ => return none

def objectWasCreatedHere (object : VirtualHandle) : Bool :=
  match context with
  | none => false
  | some context => decide (object ∈ context.createdObjects)

def cachedObjectMetadata (object : VirtualHandle) : GateM (Option ObjectMetadata) := do
  let state ← get
  match state.context with
  | none => return none
  | some context =>
    match context.objectMetadata.lookup object with
    | some fetched => return some fetched
    | none =>
      match context.tokenObjectMetadata.lookup object with
      | none => return none
      | some entry =>
        if entry.generation = env.generation then return some entry.fetched
        else
          editContext fun context => { context with tokenObjectMetadata := context.tokenObjectMetadata.erase object }
          return none

def cacheObjectMetadata (object : VirtualHandle) (fetched : ObjectMetadata) : GateM Unit :=
  editContext fun context => context.storeMetadata env.generation object fetched

variable (session object : VirtualHandle) (backendSession backendObject : BackendHandle)

def fetchAndCache : GateM (Option ObjectMetadata) := do
  match env.fetchObjectMetadata backendSession backendObject with
  | none => return none
  | some fetched =>
    cacheObjectMetadata env object fetched
    return some fetched

def cachedOrFetched : GateM (Option ObjectMetadata) := do
  match ← cachedObjectMetadata env object with
  | some cached => return some cached
  | none => fetchAndCache env object backendSession backendObject

def classAllowed (identity : AuthenticatedIdentity) (label serial : Text) (fetched : ObjectMetadata) : Bool :=
  fetched.objectClass.any fun objectClass => env.policy.allowsClass identity label serial objectClass

def gateVerdict : GateM BackendHandle := do
  match ← resolveObjectAuthzContext env session with
  | none => return ⟨0⟩
  | some (identity, label, serial) =>
    let state ← get
    if objectWasCreatedHere state.context object then
      if !env.policy.perClassActive then return backendObject
      match ← fetchAndCache env object backendSession backendObject with
      | some fetched => return if classAllowed env identity label serial fetched then backendObject else ⟨0⟩
      | none => return ⟨0⟩
    match ← cachedOrFetched env object backendSession backendObject with
    | none => return ⟨0⟩
    | some fetched =>
      if fetched.uniqueId.isEmpty then return ⟨0⟩
      if !env.policy.allowsObjectUse identity label serial fetched.uniqueId then return ⟨0⟩
      if env.policy.perClassActive && !classAllowed env identity label serial fetched then return ⟨0⟩
      return backendObject

def gateObjectHandle : GateM BackendHandle := do
  let returned ← gateVerdict env session object backendSession backendObject
  modify fun state => { state with gated := state.gated ++ [⟨object, backendObject, returned⟩] }
  return returned

def sessionVerdict (context : LogicalClientInstance) (session : VirtualHandle) : Except CkRv BackendHandle :=
  match context.sessionHandles.resolve session, context.sessionHandles.suspendedBackend session with
  | some backend, _ => .ok backend
  | none, some _ => .error .functionFailed
  | none, none => .error .sessionHandleInvalid

def objectIsPrivate : Bool :=
  match context.bind fun context => context.objectPrivate.lookup object with
  | some known => known
  | none => env.backendObjectIsPrivate backendSession backendObject

def ensurePrivateUseAllowed : Except CkRv Unit :=
  let isPrivate := objectIsPrivate env context object backendSession backendObject
  match context.bind fun context => (context.sessionHandles.resolve session).bind fun _ => context.sessionSlots.lookup session with
  | none => if isPrivate then .error .userNotLoggedIn else .ok ()
  | some slot =>
    let loggedIn := (context.bind fun context => context.loginState.lookup slot).isSome
    let contended := context.any fun context => decide (slot ∈ context.contendedSlotLogin)
    if loggedIn then .ok ()
    else if isPrivate && !contended && env.otherLogin slot then .error .userNotLoggedIn
    else .ok ()

end

def ensureUseIfKnown (session object : VirtualHandle) (backendSession backendObject : BackendHandle) : GateM Unit := do
  let state ← get
  if backendObject ≠ ⟨0⟩ then orRefuse (ensurePrivateUseAllowed env state.context session object backendSession backendObject)

def restrictsObjects : Bool := env.policy.perObjectActive || env.policy.perClassActive

def gateIfRestricted (session object : VirtualHandle) (backendSession backendObject : BackendHandle) : GateM BackendHandle :=
  if restrictsObjects env && backendObject ≠ ⟨0⟩ then gateObjectHandle env session object backendSession backendObject
  else pure backendObject

end

end Pkcs11Proxy.Server
