import Pkcs11Proxy.Server.ObjectGate

namespace Pkcs11Proxy.Server

open Lib Pkcs11Proxy.Types

def ckSp800108KeyHandle : UInt64 := 5

-- A value pointer that is null reads as empty.
structure Sp800108DataParam where
  kind : UInt64
  value : Option Bytes
deriving DecidableEq, Repr

def fromNeBytes : Bytes → Nat
  | [] => 0
  | byte :: rest => byte.toNat + 256 * fromNeBytes rest

-- The first `width` bytes, least significant first: the daemon's targets are
-- little-endian.
def toNeBytes : Nat → Nat → Bytes
  | 0, _ => []
  | width + 1, n => UInt8.ofNat n :: toNeBytes width (n / 256)

def readSp800108KeyHandleValue (value : Bytes) : Except CkRv (UInt64 × Nat) :=
  if value.length = 8 then .ok (UInt64.ofNat (fromNeBytes value), 8)
  else if value.length = 4 then .ok (UInt64.ofNat (fromNeBytes value), 4)
  else .error .mechanismParamInvalid

def writeSp800108KeyHandleValue (handle : UInt64) (width : Nat) : Except CkRv Bytes :=
  if width = 8 then .ok (toNeBytes 8 handle.toNat)
  else if width = 4 then
    if handle.toNat < UInt32.size then .ok (toNeBytes 4 handle.toNat) else .error .objectHandleInvalid
  else .error .mechanismParamInvalid

def Sp800108DataParam.keyHandle (param : Sp800108DataParam) : Option UInt64 :=
  if param.kind = ckSp800108KeyHandle then
    match readSp800108KeyHandleValue (param.value.getD []) with
    | .ok (handle, _) => some handle
    | .error _ => none
  else none

structure SetOperationStateRequest where
  session : VirtualHandle
  operationStateNullLen : Option UInt64
  encryptionKey : UInt64
  authenticationKey : UInt64
deriving DecidableEq, Repr

section

variable (env : GateEnv)

def dispatch (operation : BackendOperation) : GateM Unit := modify fun state => { state with dispatched := some operation }

def backendOrZero (resolved : Option BackendHandle) : BackendHandle := resolved.getD ⟨0⟩

def resolveSessionAndHandle (session object : VirtualHandle) (staleRv : CkRv) : GateM (BackendHandle × BackendHandle) := do
  let state ← get
  match state.context with
  | none => throw .cryptokiNotInitialized
  | some context =>
    let backendSession ← orRefuse (sessionVerdict context session)
    let key := context.objectHandles.resolve object
    if key.isNone ∧ object ∈ context.destroyedObjects then throw staleRv
    let backendKey := backendOrZero key
    ensureUseIfKnown env session object backendSession backendKey
    let gated ← gateIfRestricted env session object backendSession backendKey
    return (backendSession, gated)

def resolveSessionAndKey (session key : VirtualHandle) : GateM (BackendHandle × BackendHandle) :=
  resolveSessionAndHandle env session key .keyHandleInvalid

def resolveSessionAndObject (session object : VirtualHandle) : GateM (BackendHandle × BackendHandle) :=
  resolveSessionAndHandle env session object .objectHandleInvalid

def resolveSessionAndTwoObjects (session first second : VirtualHandle) :
    GateM (BackendHandle × BackendHandle × BackendHandle) := do
  let state ← get
  match state.context with
  | none => throw .cryptokiNotInitialized
  | some context =>
    let backendSession ← orRefuse (sessionVerdict context session)
    let firstObject := context.objectHandles.resolve first
    let secondObject := context.objectHandles.resolve second
    if firstObject.isNone ∧ first ∈ context.destroyedObjects then throw .keyHandleInvalid
    if secondObject.isNone ∧ second ∈ context.destroyedObjects then throw .keyHandleInvalid
    let firstBackend := backendOrZero firstObject
    let secondBackend := backendOrZero secondObject
    ensureUseIfKnown env session first backendSession firstBackend
    ensureUseIfKnown env session second backendSession secondBackend
    let firstGated ← gateIfRestricted env session first backendSession firstBackend
    let secondGated ← gateIfRestricted env session second backendSession secondBackend
    return (backendSession, firstGated, secondGated)

def resolveSp800108KeyHandleSlot (session : VirtualHandle) (backendSession : BackendHandle) (virtualHandle : UInt64) :
    GateM UInt64 := do
  let state ← get
  match state.context.bind fun context => context.objectHandles.resolve ⟨virtualHandle⟩ with
  | none => throw .objectHandleInvalid
  | some backend =>
    ensureUseIfKnown env session ⟨virtualHandle⟩ backendSession backend
    let final ← gateIfRestricted env session ⟨virtualHandle⟩ backendSession backend
    if virtualHandle ≠ 0 ∧ final = ⟨0⟩ then throw .objectHandleInvalid
    return final.raw

-- The parameters with every key handle replaced by its backend handle. The source
-- stages the bytes and writes them at the end: an error returns before either way.
def resolveSp800108KeyHandleDataParams (session : VirtualHandle) (backendSession : BackendHandle) :
    List Sp800108DataParam → GateM (List Sp800108DataParam)
  | [] => pure []
  | param :: rest => do
      if param.kind ≠ ckSp800108KeyHandle then
        let others ← resolveSp800108KeyHandleDataParams session backendSession rest
        return param :: others
      let (virtualHandle, width) ← orRefuse (readSp800108KeyHandleValue (param.value.getD []))
      let final ← resolveSp800108KeyHandleSlot env session backendSession virtualHandle
      let bytes ← orRefuse (writeSp800108KeyHandleValue final width)
      let others ← resolveSp800108KeyHandleDataParams session backendSession rest
      return { param with value := some bytes } :: others

def resolveStateKey (resolved : Option BackendHandle) (wire : UInt64) : Except CkRv BackendHandle :=
  match resolved with
  | some backend => .ok backend
  | none => if wire = 0 then .ok ⟨0⟩ else .error .keyHandleInvalid

def resolveStateHandles (context : Option LogicalClientInstance) (session : VirtualHandle) (encryptionKey authenticationKey : UInt64) :
    Except CkRv (BackendHandle × BackendHandle × BackendHandle) :=
  match context with
  | none => .error .cryptokiNotInitialized
  | some context => do
      let _ ← sessionVerdict context session
      -- The second read takes a suspended session for an unknown one.
      let backendSession ← match context.sessionHandles.resolve session with
        | some backend => pure backend
        | none => throw .sessionHandleInvalid
      let encryption ← resolveStateKey (context.objectHandles.resolve ⟨encryptionKey⟩) encryptionKey
      let authentication ← resolveStateKey (context.objectHandles.resolve ⟨authenticationKey⟩) authenticationKey
      return (backendSession, encryption, authentication)

def checkSanitize (sanitize : Bool) (nullLen : Option UInt64) : Except CkRv Unit :=
  if sanitize && nullLen.any (fun len => 0 < len) then .error .argumentsBad else .ok ()

-- The locks of the four message operations; only the lookups can fail.
def beginMessageOperationTransitions (context : Option LogicalClientInstance) (session : VirtualHandle) : Except CkRv Unit :=
  match context with
  | none => .error .cryptokiNotInitialized
  | some context => if (context.sessionHandles.resolve session).isNone then .error .sessionHandleInvalid else .ok ()

def gateIfPerObject (session : VirtualHandle) (wire : UInt64) (backendSession backendObject : BackendHandle) : GateM BackendHandle :=
  if env.policy.perObjectActive && backendObject ≠ ⟨0⟩ then gateObjectHandle env session ⟨wire⟩ backendSession backendObject
  else pure backendObject

def setOperationState (sanitizeInputs : Bool) (request : SetOperationStateRequest) : GateM Unit := do
  let state ← get
  let (backendSession, encryption, authentication) ←
    orRefuse (resolveStateHandles state.context request.session request.encryptionKey request.authenticationKey)
  ensureUseIfKnown env request.session ⟨request.encryptionKey⟩ backendSession encryption
  ensureUseIfKnown env request.session ⟨request.authenticationKey⟩ backendSession authentication
  let encryptionGated ← gateIfPerObject env request.session request.encryptionKey backendSession encryption
  let authenticationGated ← gateIfPerObject env request.session request.authenticationKey backendSession authentication
  orRefuse (checkSanitize sanitizeInputs request.operationStateNullLen)
  let current ← get
  orRefuse (beginMessageOperationTransitions current.context request.session)
  dispatch ⟨backendSession, [⟨request.encryptionKey, encryptionGated, true⟩, ⟨request.authenticationKey, authenticationGated, true⟩]⟩

inductive HandleRequest where
  | useHandle (session object : VirtualHandle) (staleRv : CkRv)
  | useTwoObjects (session first second : VirtualHandle)
  | deriveSp800108 (session baseKey : VirtualHandle) (dataParams : List Sp800108DataParam)
  | setOperationState (sanitizeInputs : Bool) (request : SetOperationStateRequest)
deriving DecidableEq, Repr

def keyHandlesPassed : List Sp800108DataParam → List Sp800108DataParam → List PassedHandle
  | sent :: restSent, passed :: restPassed =>
    match sent.keyHandle, passed.keyHandle with
    | some wire, some backend => ⟨wire, ⟨backend⟩, true⟩ :: keyHandlesPassed restSent restPassed
    | _, _ => keyHandlesPassed restSent restPassed
  | _, _ => []

def serve : HandleRequest → GateM Unit
  | .useHandle session object staleRv => do
      let (backendSession, backend) ← resolveSessionAndHandle env session object staleRv
      dispatch ⟨backendSession, [⟨object.raw, backend, false⟩]⟩
  | .useTwoObjects session first second => do
      let (backendSession, firstBackend, secondBackend) ← resolveSessionAndTwoObjects env session first second
      dispatch ⟨backendSession, [⟨first.raw, firstBackend, false⟩, ⟨second.raw, secondBackend, false⟩]⟩
  | .deriveSp800108 session baseKey dataParams => do
      let (backendSession, base) ← resolveSessionAndKey env session baseKey
      let passed ← resolveSp800108KeyHandleDataParams env session backendSession dataParams
      dispatch ⟨backendSession, ⟨baseKey.raw, base, false⟩ :: keyHandlesPassed dataParams passed⟩
  | .setOperationState sanitizeInputs request => setOperationState env sanitizeInputs request

end

end Pkcs11Proxy.Server
