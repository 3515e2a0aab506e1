import Pkcs11Proxy.Server.GateSteps

namespace Pkcs11Proxy.Server

open Lib Pkcs11Proxy.Types

inductive BoolAttrProbe where
  | present (value : Bool)
  | attrAbsent
  | failed
deriving DecidableEq, Repr

-- `HW_FEATURE`, `MECHANISM`, `PROFILE` and `VALIDATION`.
def otherObjectClasses : List UInt64 := [0x5, 0x7, 0x9, 0xA]

structure FindEnv where
  gate : GateEnv
  client : ClientContextId
  session : VirtualHandle
  tokenProbe : BackendHandle → BackendHandle → BoolAttrProbe
  privateProbe : BackendHandle → BackendHandle → BoolAttrProbe
  objectClass : BackendHandle → BackendHandle → Option UInt64
  scanBound : Option Nat

inductive FindPath where
  | transparent
  | loggedOut
  | restricted (identity : AuthenticatedIdentity) (label serial : Text) (loggedIn : Bool)

inductive FindOpening where
  | refused (rv : CkRv)
  | scan (session : BackendHandle) (path : FindPath)

section Filters

variable (env : FindEnv) (context : Option LogicalClientInstance) (session object : BackendHandle)

def backendObjectHasOtherClass : Bool := (env.objectClass session object).any otherObjectClasses.contains

def backendObjectTokenState : Option Bool :=
  match env.tokenProbe session object with
  | .present token => some token
  | .attrAbsent => if backendObjectHasOtherClass env session object then some true else none
  | .failed => none

def backendObjectKnownToken : Bool := (backendObjectTokenState env session object).getD false

def mintRecordedPrivate : Option Bool :=
  context.bind fun context => (context.objectHandles.resolveBackend object).bind fun virt => context.objectPrivate.lookup virt

def backendObjectKnownPublic : Bool :=
  match env.privateProbe session object with
  | .present isPrivate => !isPrivate
  | .attrAbsent => mintRecordedPrivate context object = some false || backendObjectHasOtherClass env session object
  | .failed => false

def contextMapsBackendObject : Bool := context.any fun context => (context.objectHandles.resolveBackend object).isSome

def findResultVisibleToContext : Bool := contextMapsBackendObject context object || backendObjectKnownToken env session object

def sessionSlotLoggedIn : Bool :=
  context.any fun context => ((context.sessionSlots.lookup env.session).bind fun slot => context.loginState.lookup slot).isSome

def findKeeps : FindPath → Bool
  | .transparent => findResultVisibleToContext env context session object
  | .loggedOut => findResultVisibleToContext env context session object && backendObjectKnownPublic env context session object
  | .restricted identity label serial loggedIn =>
    (env.gate.fetchObjectMetadata session object).any fun known =>
      metadataAllows env.gate identity label serial known && (known.isToken || contextMapsBackendObject context object) &&
        (loggedIn || backendObjectKnownPublic env context session object)

def soleAdmits : FindPath → Bool
  | .transparent => !findResultVisibleToContext env context session object && backendObjectTokenState env session object = some false
  | _ => false

end Filters

def admitted (env : FindEnv) (context : Option LogicalClientInstance) (session : BackendHandle) (path : FindPath)
    (batch : List BackendHandle) (sole : Bool) : List BackendHandle × List BackendHandle :=
  (batch.filter fun object => findKeeps env context session object path,
    if sole then batch.filter fun object => soleAdmits env context session object path else [])

-- The provider's search: each matching object once, in batches whose sizes it chooses
-- within the caller's maximum, then empty batches.
structure FindCursor where
  remaining : List BackendHandle
  sizes : List Nat
deriving DecidableEq, Repr

namespace FindCursor

def batchSize (cursor : FindCursor) (maxCount : Nat) : Nat := min maxCount (max 1 (cursor.sizes.headD maxCount))

def batch (cursor : FindCursor) (maxCount : Nat) : List BackendHandle := cursor.remaining.take (cursor.batchSize maxCount)

def advance (cursor : FindCursor) (maxCount : Nat) : FindCursor :=
  ⟨cursor.remaining.drop (cursor.batchSize maxCount), cursor.sizes.tail⟩

end FindCursor

-- A request in its loop, or past it. `drained` is ghost state: the provider returned an
-- empty batch to this request.
structure FindRequest where
  maxCount : UInt32
  session : BackendHandle
  path : FindPath
  population : Nat
  kept : List BackendHandle
  keptBySoleHolder : List BackendHandle
  metas : List ObjectMetadata
  finished : Bool
  drained : Bool

structure FindAnswer where
  maxCount : UInt32
  ckRv : CkRv
  handles : List VirtualHandle
  drained : Bool
deriving DecidableEq

-- `scanned` and `answers` are ghost state: the non-empty batches with what the last check
-- for other session holders said, and the answers given.
structure FindState where
  contexts : Dict ClientContextId LogicalClientInstance
  tokenInfo : Dict BackendSlotId (Text × Text)
  cursor : FindCursor
  request : Option FindRequest
  scanned : List (List BackendHandle × Bool)
  answers : List FindAnswer

def soleSessionHolderForSession (contexts : Dict ClientContextId LogicalClientInstance) (exclude : ClientContextId)
    (session : VirtualHandle) : Bool :=
  match (contexts.lookup exclude).bind fun context => context.sessionSlots.lookup session with
  | none => false
  | some slot => decide (∀ other ∈ contexts.keys, other ≠ exclude → ∀ context ∈ contexts.lookup other, context.hasSessionOn slot = false)

def LogicalClientInstance.registerObjectHandles (context : LogicalClientInstance) :
    List BackendHandle → LogicalClientInstance × List VirtualHandle
  | [] => (context, [])
  | object :: rest =>
    let (handles, virt) := context.objectHandles.insert object
    let (registered, virts) := LogicalClientInstance.registerObjectHandles { context with objectHandles := handles } rest
    (registered, virt :: virts)

def LogicalClientInstance.storeMetas (context : LogicalClientInstance) (generation : UInt64) :
    List (VirtualHandle × ObjectMetadata) → LogicalClientInstance
  | [] => context
  | (virt, known) :: rest => (context.storeMetadata generation virt known).storeMetas generation rest

inductive FindAction where
  | begin (maxCount : UInt32)
  | pull
  | finish
  | createContext (other : ClientContextId)
  | openSession (other : ClientContextId) (backend : BackendHandle) (slot : BackendSlotId)
  | closeSession (other : ClientContextId) (session : VirtualHandle)
  | removeContext (other : ClientContextId)
deriving DecidableEq, Repr

section Steps

variable (env : FindEnv) (state : FindState)

def findOpening : GateM FindOpening := do
  let gate ← get
  match gate.context with
  | none => return .refused .cryptokiNotInitialized
  | some context =>
    match sessionVerdict context env.session with
    | .error rv => return .refused rv
    | .ok session =>
      let loggedIn := sessionSlotLoggedIn env gate.context
      if !restrictsObjects env.gate then return .scan session (if loggedIn then .transparent else .loggedOut)
      match ← resolveObjectAuthzContext env.gate env.session with
      | none => return .refused .ok
      | some (identity, label, serial) => return .scan session (.restricted identity label serial loggedIn)

def FindState.gate : GateState := ⟨state.contexts.lookup env.client, state.tokenInfo, [], none⟩

def FindState.isSoleHolder : Bool := soleSessionHolderForSession state.contexts env.client env.session

def answerFind (maxCount : UInt32) (rv : CkRv) (handles : List VirtualHandle) (drained : Bool) : FindState :=
  { state with request := none, answers := state.answers ++ [⟨maxCount, rv, handles, drained⟩] }

def stepBegin (maxCount : UInt32) : Option FindState :=
  if state.request.isSome then none
  else
    match findOpening env (state.gate env) with
    | .ok (.refused rv) gate => some (answerFind { state with tokenInfo := gate.tokenInfoCache } maxCount rv [] false)
    | .ok (.scan session path) gate =>
      some { state with
        tokenInfo := gate.tokenInfoCache, request := some ⟨maxCount, session, path, 0, [], [], [], false, false⟩ }
    | .error _ _ => none

def scanBoundTripped (population : Nat) : Bool := env.scanBound.any fun limit => limit < population

def scanBatch (request : FindRequest) : FindState :=
  let batch := state.cursor.batch request.maxCount.toNat
  let cursor := state.cursor.advance request.maxCount.toNat
  if batch.isEmpty then { state with cursor := cursor, request := some { request with finished := true, drained := true } }
  else
    let sole := state.isSoleHolder env
    let found := admitted env (state.contexts.lookup env.client) request.session request.path batch sole
    let population := request.population + batch.length
    let pulled := { state with cursor := cursor, scanned := state.scanned ++ [(batch, sole)] }
    if found.1.isEmpty && found.2.isEmpty then
      if scanBoundTripped env population then answerFind pulled request.maxCount .deviceError [] false
      else { pulled with request := some { request with population := population } }
    else
      { pulled with
          request := some { request with
            population := population
            kept := found.1
            keptBySoleHolder := found.2
            metas := found.1.filterMap (env.gate.fetchObjectMetadata request.session)
            finished := true } }

def FindPath.isRestricted : FindPath → Bool
  | .restricted .. => true
  | _ => false

-- After the loop: what the sole holder was admitted is dropped if another client has
-- come to the slot, and the rest is registered.
def recheckHolder (request : FindRequest) : FindState × FindRequest :=
  if !request.keptBySoleHolder.isEmpty && !state.isSoleHolder env then
    ({ state with scanned := state.scanned.modifyLast fun entry => (entry.1, false) }, { request with keptBySoleHolder := [] })
  else (state, request)

def finishFind (request : FindRequest) : FindState :=
  match state.contexts.lookup env.client with
  | none => answerFind state request.maxCount .cryptokiNotInitialized [] request.drained
  | some context =>
    let registered := context.registerObjectHandles (request.kept ++ request.keptBySoleHolder)
    let known := if request.path.isRestricted then registered.2.zip request.metas else []
    answerFind { state with contexts := state.contexts.insert env.client (registered.1.storeMetas env.gate.generation known) }
      request.maxCount .ok registered.2 request.drained

def editOther (other : ClientContextId) (edit : LogicalClientInstance → LogicalClientInstance) : Option FindState :=
  if other = env.client then none
  else (state.contexts.lookup other).map fun context => { state with contexts := state.contexts.insert other (edit context) }

def findStep : FindAction → Option FindState
  | .begin maxCount => stepBegin env state maxCount
  | .pull => state.request.bind fun request => if request.finished then none else some (scanBatch env state request)
  | .finish =>
    state.request.bind fun request =>
      if request.finished then some (finishFind env (recheckHolder env state request).1 (recheckHolder env state request).2) else none
  | .createContext other =>
    if (state.contexts.lookup other).isSome then none
    else some { state with contexts := state.contexts.insert other LogicalClientInstance.new }
  | .openSession other backend slot => editOther env state other fun context => (context.registerSession backend slot).1
  | .closeSession other session => editOther env state other fun context => (context.removeSession session).1
  | .removeContext other => if other = env.client then none else some { state with contexts := state.contexts.erase other }

end Steps

def FindState.start (env : FindEnv) (own : LogicalClientInstance) (others : Dict ClientContextId LogicalClientInstance)
    (tokenInfo : Dict BackendSlotId (Text × Text)) (cursor : FindCursor) : FindState :=
  ⟨others.insert env.client own, tokenInfo, cursor, none, [], []⟩

end Pkcs11Proxy.Server
