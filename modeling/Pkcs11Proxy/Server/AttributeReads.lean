import Pkcs11Proxy.Server.HandleRequests
import Pkcs11Proxy.Types.Attribute

namespace Pkcs11Proxy.Server

open Lib Pkcs11Proxy.Types

namespace TokenPolicy

variable (policy : TokenPolicy) (identity : AuthenticatedIdentity) (tokenLabel tokenSerial : Text)

def grantsOn : List TokenGrant :=
  if identity = .unauthenticated then []
  else if policy.allowAllAuthenticated then []
  else
    match policy.resolveAccess identity with
    | some (.specific grants) => grants.filter fun grant => grant.selector.matches tokenLabel tokenSerial
    | _ => []

def extractAllowed : Bool :=
  !(policy.grantsOn identity tokenLabel tokenSerial).any fun grant => grant.extract == .deny

def extractAllowedForObject (uniqueId : Bytes) : Bool :=
  let matching := policy.grantsOn identity tokenLabel tokenSerial
  let overrides := matching.flatMap fun grant => ((grant.objects.getD []).filter fun acl => acl.uniqueId == uniqueId).map ObjectAcl.extract
  if overrides.contains (some .deny) then false
  else if overrides.contains (some .allow) then true
  else !matching.any fun grant => grant.extract == .deny

def hasObjectExtractOverride : Bool :=
  (policy.grantsOn identity tokenLabel tokenSerial).any fun grant => (grant.objects.getD []).any fun acl => acl.extract.isSome

end TokenPolicy

section Extraction

variable (env : GateEnv)

def fetchUidForExtract (session object : VirtualHandle) : GateM (Option Bytes) := do
  let state ← get
  match state.context.bind fun context => context.sessionHandles.resolve session,
      state.context.bind fun context => context.objectHandles.resolve object with
  | some backendSession, some backendObject => return (← fetchAndCache env object backendSession backendObject).map ObjectMetadata.uniqueId
  | _, _ => return none

def resolveUidForExtract (session object : VirtualHandle) : GateM (Option Bytes) := do
  match ← cachedObjectMetadata env object with
  | some cached => return some cached.uniqueId
  | none => fetchUidForExtract env session object

def tokenForExtract (slot : BackendSlotId) : GateM (Option (Text × Text)) := do
  let state ← get
  match state.tokenInfoCache.lookup slot with
  | some token => return some token
  | none =>
    match env.tokenInfo slot with
    | none => return none
    | some token =>
      modify fun state => { state with tokenInfoCache := state.tokenInfoCache.insert slot token }
      return some token

def extractVerdict (identity : AuthenticatedIdentity) (label serial : Text) (uid : Option Bytes) : Bool :=
  match uid with
  | some uniqueId => env.policy.extractAllowedForObject identity label serial uniqueId
  | none =>
    if env.policy.hasObjectExtractOverride identity label serial then false else env.policy.extractAllowed identity label serial

def extractIsPermitted (session object : VirtualHandle) : GateM Bool := do
  let state ← get
  match contextIdentity env state.context with
  | .error _ => return false
  | .ok .unauthenticated => return true
  | .ok identity =>
    match slotForSession state.context session with
    | none => return false
    | some slot =>
      match ← tokenForExtract env slot with
      | none => return false
      | some (label, serial) =>
        if !env.policy.perObjectActive then return env.policy.extractAllowed identity label serial
        return extractVerdict env identity label serial (← resolveUidForExtract env session object)

end Extraction

-- The provider behind the attribute reads. A plain read writes values into the
-- template it is given and leaves its length and types alone.
structure AttributeProvider where
  getAttributeValue : BackendHandle → BackendHandle → List CkAttribute → CkRv × List (Option CkAttributeValue)
  getAttributeValueExact : BackendHandle → BackendHandle → Option (List CkAttributeQuery) →
    Except CkRv (CkRv × List CkAttributeQueryResult)

-- `auditAccepts`: the audit record of a refused extraction is taken.
structure ReadEnv where
  gate : GateEnv
  coalesce : Bool
  auditAccepts : Bool

structure GetAttributeValueRequest where
  sessionHandle : VirtualHandle
  objectHandle : VirtualHandle
  template : List WireAttribute

structure GetAttributeValueExactRequest where
  exactOutputEffectsVersion : UInt32
  sessionHandle : VirtualHandle
  objectHandle : VirtualHandle
  templateNull : Bool
  queries : List CkAttributeQuery

structure AttributeResult where
  attrType : UInt64
  value : Option Bytes
  actualLength : UInt64
deriving DecidableEq, Repr

structure AttributeAnswer (ρ : Type) where
  ckRv : CkRv
  results : List ρ
deriving DecidableEq

inductive Status where
  | internal (message : String)
  | failedPrecondition (message : String)
deriving DecidableEq, Repr

def attrValueToBytes : CkAttributeValue → Bytes
  | .bool value => [if value then 1 else 0]
  | .ulong value => toNeBytes 8 value.toNat
  | .bytes value => value
  | .string value => value
  | .nestedTemplate _ => []

def attributeResult (attrType : UInt64) (value : Option Bytes) : AttributeResult :=
  ⟨attrType, value, (value.map fun bytes => UInt64.ofNat bytes.length).getD 0⟩

def readResult (entry : CkAttribute) : AttributeResult := attributeResult entry.attrType (entry.value.map attrValueToBytes)

def applyValues : List CkAttribute → List (Option CkAttributeValue) → List CkAttribute
  | [], _ => []
  | template, [] => template
  | entry :: rest, value :: values => entry.withValue value :: applyValues rest values

def protoResultFromCache (attrType : UInt64) (cached : CachedAttr) : AttributeResult := attributeResult attrType (some cached.value)

def exactResultFromCache (query : CkAttributeQuery) (cached : CachedAttr) : CkAttributeQueryResult :=
  let valueLen := UInt64.ofNat cached.value.length
  if !query.bufferPresent then .mk query.attrType valueLen true false none none none
  else if query.bufferLen < valueLen then .mk query.attrType (UInt64.ofNat (UInt64.size - 1)) true false none (some .bufferTooSmall) none
  else .mk query.attrType valueLen true false (some cached.value) none none

def exactRank (rv : CkRv) : Nat :=
  if rv = .ok then 0
  else if rv = .bufferTooSmall then 1
  else if rv = .attributeTypeInvalid then 2
  else if rv = .attributeSensitive then 3
  else 4

def mergeExactRv (a b : CkRv) : CkRv := if exactRank a < exactRank b then b else a

def exactResultRv (result : CkAttributeQueryResult) : CkRv := result.ckRv.getD .ok

def validateExactAttributeResults (queryTypes : List UInt64) (results : List CkAttributeQueryResult) : Except Status Unit :=
  if results.length ≠ queryTypes.length then .error (.internal "backend returned mismatched GetAttributeValueExact result count")
  else if queryTypes ≠ results.map CkAttributeQueryResult.attrType then
    .error (.internal "backend returned misaligned GetAttributeValueExact results")
  else .ok ()

def fillResults {ρ : Type} : List (Option ρ) → List ρ → List ρ
  | [], _ => []
  | some result :: rest, fetched => result :: fillResults rest fetched
  | none :: rest, result :: fetched => result :: fillResults rest fetched
  | none :: _, [] => []

-- A value-bearing secret is never looked up.
def cacheHit (context : Option LogicalClientInstance) (object : VirtualHandle) (attrType : UInt64) : Option CachedAttr :=
  if isValueBearingSecret attrType then none else context.bind fun context => context.attrCache.lookup (object, attrType)

def cacheValues (object : VirtualHandle) : List (UInt64 × Option Bytes) → GateM Unit
  | [] => pure ()
  | (attrType, some value) :: rest => do
      if !isValueBearingSecret attrType then editContext fun context => context.putAttribute object attrType ⟨value, CkRv.ok.value⟩
      cacheValues object rest
  | (_, none) :: rest => cacheValues object rest

section Handlers

variable (env : ReadEnv)

def admitExtraction (session object : VirtualHandle) (attrTypes : List UInt64) : GateM Unit := do
  if attrTypes.any isValueBearingSecret then
    if !(← extractIsPermitted env.gate session object) then
      throw (if env.auditAccepts then .keyFunctionNotPermitted else .functionFailed)

def admitRead (request : GetAttributeValueRequest) : GateM (BackendHandle × BackendHandle × List CkAttribute) := do
  let (session, object) ← resolveSessionAndObject env.gate request.sessionHandle request.objectHandle
  let template ← orRefuse (convertTemplate request.template)
  admitExtraction env request.sessionHandle request.objectHandle (template.map CkAttribute.attrType)
  return (session, object, template)

def admitExactRead (request : GetAttributeValueExactRequest) : GateM (BackendHandle × BackendHandle × Option (List CkAttributeQuery)) := do
  let (session, object) ← resolveSessionAndObject env.gate request.sessionHandle request.objectHandle
  if request.templateNull && !request.queries.isEmpty then throw .argumentsBad
  let queries := if request.templateNull then none else some request.queries
  admitExtraction env request.sessionHandle request.objectHandle ((queries.getD []).map CkAttributeQuery.attrType)
  return (session, object, queries)

variable (provider : AttributeProvider)

section

variable (virtualObject : VirtualHandle)

def coalescedRead (session object : BackendHandle) (template : List CkAttribute) :
    GateM (AttributeAnswer AttributeResult) := do
  let state ← get
  let slots := template.map fun entry =>
    (cacheHit state.context virtualObject entry.attrType).map (protoResultFromCache entry.attrType)
  let fetchTemplate := template.filter fun entry => (cacheHit state.context virtualObject entry.attrType).isNone
  if fetchTemplate.isEmpty && !template.isEmpty then return ⟨.ok, fillResults slots []⟩
  let (rv, values) := provider.getAttributeValue session object fetchTemplate
  let fetched := applyValues fetchTemplate values
  cacheValues virtualObject (fetched.map fun entry => (entry.attrType, entry.value.map attrValueToBytes))
  return ⟨rv, fillResults slots (fetched.map readResult)⟩

def readAdmitted (session object : BackendHandle) (template : List CkAttribute) :
    GateM (AttributeAnswer AttributeResult) :=
  if !env.coalesce then
    let (rv, values) := provider.getAttributeValue session object template
    pure ⟨rv, (applyValues template values).map readResult⟩
  else coalescedRead provider virtualObject session object template

def getAttributeValue (request : GetAttributeValueRequest) : GateM (AttributeAnswer AttributeResult) := do
  let (session, object, template) ← admitRead env request
  readAdmitted env provider request.objectHandle session object template

def mergedCacheRv (slots : List (Option CkAttributeQueryResult)) : CkRv :=
  slots.foldl (fun rv slot => (slot.map fun result => mergeExactRv rv (exactResultRv result)).getD rv) .ok

def cacheableValue (result : CkAttributeQueryResult) : UInt64 × Option Bytes :=
  (result.attrType, if result.ckRv.isNone then result.value else none)

def checkedResults (queries : Option (List CkAttributeQuery)) (results : List CkAttributeQueryResult) : Except Status Unit :=
  validateExactAttributeResults ((queries.getD []).map CkAttributeQuery.attrType) results

def fetchExact (session object : BackendHandle) (queries : Option (List CkAttributeQuery))
    (slots : List (Option CkAttributeQueryResult)) : GateM (Except Status (AttributeAnswer CkAttributeQueryResult)) :=
  match provider.getAttributeValueExact session object queries with
  | .error rv => pure (.ok ⟨rv, []⟩)
  | .ok (backendRv, results) =>
    match checkedResults queries results with
    | .error status => pure (.error status)
    | .ok _ => do
        cacheValues virtualObject (results.map cacheableValue)
        return .ok ⟨mergeExactRv (mergedCacheRv slots) backendRv, fillResults slots results⟩

def coalescedExactRead (session object : BackendHandle) (queries : Option (List CkAttributeQuery)) :
    GateM (Except Status (AttributeAnswer CkAttributeQueryResult)) := do
  let state ← get
  let asked := queries.getD []
  let slots := asked.map fun query => (cacheHit state.context virtualObject query.attrType).map (exactResultFromCache query)
  let fetchQueries := asked.filter fun query => (cacheHit state.context virtualObject query.attrType).isNone
  if fetchQueries.isEmpty && !asked.isEmpty then return .ok ⟨mergedCacheRv slots, fillResults slots []⟩
  fetchExact provider virtualObject session object (queries.map fun _ => fetchQueries) slots

def directExactRead (session object : BackendHandle) (queries : Option (List CkAttributeQuery)) :
    Except Status (AttributeAnswer CkAttributeQueryResult) :=
  match provider.getAttributeValueExact session object queries with
  | .error rv => .ok ⟨rv, []⟩
  | .ok (rv, results) => (checkedResults queries results).map fun _ => ⟨rv, results⟩

def readExactAdmitted (session object : BackendHandle) (queries : Option (List CkAttributeQuery)) :
    GateM (Except Status (AttributeAnswer CkAttributeQueryResult)) :=
  if !env.coalesce then pure (directExactRead provider session object queries)
  else coalescedExactRead provider virtualObject session object queries

end

def getAttributeValueExact (request : GetAttributeValueExactRequest) :
    GateM (Except Status (AttributeAnswer CkAttributeQueryResult)) := do
  if request.exactOutputEffectsVersion ≠ 1 then
    return .error (.failedPrecondition ("exact output effects version " ++ toString request.exactOutputEffectsVersion.toNat ++
      " unsupported (supported 1..=1)"))
  let (session, object, queries) ← admitExactRead env request
  readExactAdmitted env provider request.objectHandle session object queries

end Handlers

end Pkcs11Proxy.Server
