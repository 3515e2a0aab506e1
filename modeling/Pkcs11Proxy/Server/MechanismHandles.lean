import Pkcs11Proxy.Server.ObjectGate
import Pkcs11Proxy.Types.ValidatedParams

namespace Pkcs11Proxy.Server

open Lib Pkcs11Proxy.Types

def pushHandle (handle : CkObjectHandle) (out : List UInt64) : List UInt64 :=
  if handle.value ≠ 0 then out ++ [handle.value] else out

mutual

def pushParamHandles : CkMechanismParams CkObjectHandle → List UInt64 → List UInt64
  | .hkdf p, out => pushHandle p.saltKeyHandle out
  | .ecdh2Derive p, out => pushHandle p.privateDataHandle out
  | .ecmqvDerive p, out => out |> pushHandle p.privateDataHandle |> pushHandle p.publicKeyHandle
  | .x942Dh2Derive p, out => pushHandle p.privateDataHandle out
  | .x942MqvDerive p, out => out |> pushHandle p.privateDataHandle |> pushHandle p.publicKeyHandle
  | .gostr3410KeyWrap p, out => pushHandle p.keyHandle out
  | .ssl3KeyMat p, out =>
    out |> pushHandle p.clientMacSecretHandle |> pushHandle p.serverMacSecretHandle |> pushHandle p.clientKeyHandle
      |> pushHandle p.serverKeyHandle
  | .wtlsKeyMat p, out => out |> pushHandle p.macSecretHandle |> pushHandle p.keyHandle
  | .ikePrfDerive p, out => pushHandle p.newKeyHandle out
  | .ike1PrfDerive p, out => out |> pushHandle p.keygxyHandle |> pushHandle p.prevKeyHandle
  | .ike1ExtendedDerive p, out => pushHandle p.keygxyHandle out
  | .ike2PrfPlusDerive p, out => pushHandle p.seedKeyHandle out
  | .x3dhInitiate p, out =>
    out |> pushHandle p.peerIdentityHandle |> pushHandle p.peerPrekeyHandle |> pushHandle p.onetimeKeyHandle
      |> pushHandle p.ownIdentityHandle |> pushHandle p.ownEphemeralHandle
  | .x3dhRespond p, out =>
    out |> pushHandle p.identityHandle |> pushHandle p.prekeyHandle |> pushHandle p.onetimeKeyHandle
      |> pushHandle p.initiatorIdentityHandle |> pushHandle p.initiatorEphemeralHandle
  | .x2RatchetInitialize p, out =>
    out |> pushHandle p.peerPublicPrekeyHandle |> pushHandle p.peerPublicIdentityHandle |> pushHandle p.ownPublicIdentityHandle
  | .x2RatchetRespond p, out =>
    out |> pushHandle p.ownPrekeyHandle |> pushHandle p.initiatorIdentityHandle |> pushHandle p.ownIdentityHandle
  | .kip ⟨none, keyHandle, _⟩, out => pushHandle keyHandle out
  | .kip ⟨some nested, keyHandle, _⟩, out => pushNestedHandles nested (pushHandle keyHandle out)
  | .ecies ⟨derivation, encryption, mac, _⟩, out =>
    out |> pushNestedHandles derivation |> pushNestedHandles encryption |> pushNestedHandles mac
  | .objectHandle p, out => pushHandle p.handle out
  | .kmac p, out => pushHandle p.keyHandle out
  | .muGen p, out => pushHandle p.keyHandle out
  | .kyber p, out => pushHandle p.secretHandle out
  | .cmsSig ⟨certificateHandle, signing, digest, _, _, _⟩, out =>
    out |> pushHandle certificateHandle |> pushNestedHandles signing |> pushNestedHandles digest
  | _, out => out

def pushNestedHandles : CkMechanism CkObjectHandle → List UInt64 → List UInt64
  | ⟨_, none⟩, out => out
  | ⟨_, some inner⟩, out => pushParamHandles inner out

end

def collectParamHandles (params : CkMechanismParams CkObjectHandle) : List UInt64 := pushParamHandles params []

-- Zero is the absent handle and passes.
def remapHandle (resolve : UInt64 → Option UInt64) (field : CkObjectHandle) : Except CkRv CkObjectHandle :=
  if field.value = 0 then .ok field
  else
    match resolve field.value with
    | some backend => .ok ⟨backend⟩
    | none => .error .objectHandleInvalid

mutual

def remapParamHandles (resolve : UInt64 → Option UInt64) :
    CkMechanismParams CkObjectHandle → Except CkRv (CkMechanismParams CkObjectHandle)
  | .hkdf p => do return .hkdf { p with saltKeyHandle := ← remapHandle resolve p.saltKeyHandle }
  | .ecdh2Derive p => do return .ecdh2Derive { p with privateDataHandle := ← remapHandle resolve p.privateDataHandle }
  | .ecmqvDerive p => do
      return .ecmqvDerive { p with
        privateDataHandle := ← remapHandle resolve p.privateDataHandle
        publicKeyHandle := ← remapHandle resolve p.publicKeyHandle }
  | .x942Dh2Derive p => do return .x942Dh2Derive { p with privateDataHandle := ← remapHandle resolve p.privateDataHandle }
  | .x942MqvDerive p => do
      return .x942MqvDerive { p with
        privateDataHandle := ← remapHandle resolve p.privateDataHandle
        publicKeyHandle := ← remapHandle resolve p.publicKeyHandle }
  | .gostr3410KeyWrap p => do return .gostr3410KeyWrap { p with keyHandle := ← remapHandle resolve p.keyHandle }
  | .ssl3KeyMat p => do
      return .ssl3KeyMat { p with
        clientMacSecretHandle := ← remapHandle resolve p.clientMacSecretHandle
        serverMacSecretHandle := ← remapHandle resolve p.serverMacSecretHandle
        clientKeyHandle := ← remapHandle resolve p.clientKeyHandle
        serverKeyHandle := ← remapHandle resolve p.serverKeyHandle }
  | .wtlsKeyMat p => do
      return .wtlsKeyMat { p with
        macSecretHandle := ← remapHandle resolve p.macSecretHandle
        keyHandle := ← remapHandle resolve p.keyHandle }
  | .ikePrfDerive p => do return .ikePrfDerive { p with newKeyHandle := ← remapHandle resolve p.newKeyHandle }
  | .ike1PrfDerive p => do
      return .ike1PrfDerive { p with
        keygxyHandle := ← remapHandle resolve p.keygxyHandle
        prevKeyHandle := ← remapHandle resolve p.prevKeyHandle }
  | .ike1ExtendedDerive p => do return .ike1ExtendedDerive { p with keygxyHandle := ← remapHandle resolve p.keygxyHandle }
  | .ike2PrfPlusDerive p => do return .ike2PrfPlusDerive { p with seedKeyHandle := ← remapHandle resolve p.seedKeyHandle }
  | .x3dhInitiate p => do
      return .x3dhInitiate { p with
        peerIdentityHandle := ← remapHandle resolve p.peerIdentityHandle
        peerPrekeyHandle := ← remapHandle resolve p.peerPrekeyHandle
        onetimeKeyHandle := ← remapHandle resolve p.onetimeKeyHandle
        ownIdentityHandle := ← remapHandle resolve p.ownIdentityHandle
        ownEphemeralHandle := ← remapHandle resolve p.ownEphemeralHandle }
  | .x3dhRespond p => do
      return .x3dhRespond { p with
        identityHandle := ← remapHandle resolve p.identityHandle
        prekeyHandle := ← remapHandle resolve p.prekeyHandle
        onetimeKeyHandle := ← remapHandle resolve p.onetimeKeyHandle
        initiatorIdentityHandle := ← remapHandle resolve p.initiatorIdentityHandle
        initiatorEphemeralHandle := ← remapHandle resolve p.initiatorEphemeralHandle }
  | .x2RatchetInitialize p => do
      return .x2RatchetInitialize { p with
        peerPublicPrekeyHandle := ← remapHandle resolve p.peerPublicPrekeyHandle
        peerPublicIdentityHandle := ← remapHandle resolve p.peerPublicIdentityHandle
        ownPublicIdentityHandle := ← remapHandle resolve p.ownPublicIdentityHandle }
  | .x2RatchetRespond p => do
      return .x2RatchetRespond { p with
        ownPrekeyHandle := ← remapHandle resolve p.ownPrekeyHandle
        initiatorIdentityHandle := ← remapHandle resolve p.initiatorIdentityHandle
        ownIdentityHandle := ← remapHandle resolve p.ownIdentityHandle }
  | .kip ⟨none, keyHandle, seedPresence⟩ => do
      return .kip ⟨none, ← remapHandle resolve keyHandle, seedPresence⟩
  | .kip ⟨some nested, keyHandle, seedPresence⟩ => do
      let keyHandle ← remapHandle resolve keyHandle
      let nested ← remapNestedHandles resolve nested
      return .kip ⟨some nested, keyHandle, seedPresence⟩
  | .ecies ⟨derivation, encryption, mac, sharedData⟩ => do
      return .ecies ⟨← remapNestedHandles resolve derivation, ← remapNestedHandles resolve encryption,
        ← remapNestedHandles resolve mac, sharedData⟩
  | .objectHandle p => do return .objectHandle { p with handle := ← remapHandle resolve p.handle }
  | .kmac p => do return .kmac { p with keyHandle := ← remapHandle resolve p.keyHandle }
  | .muGen p => do return .muGen { p with keyHandle := ← remapHandle resolve p.keyHandle }
  | .kyber p => do return .kyber { p with secretHandle := ← remapHandle resolve p.secretHandle }
  | .cmsSig ⟨certificateHandle, signing, digest, contentType, requested, required⟩ => do
      return .cmsSig ⟨← remapHandle resolve certificateHandle, ← remapNestedHandles resolve signing,
        ← remapNestedHandles resolve digest, contentType, requested, required⟩
  | other => .ok other

def remapNestedHandles (resolve : UInt64 → Option UInt64) : CkMechanism CkObjectHandle → Except CkRv (CkMechanism CkObjectHandle)
  | ⟨mechanismType, none⟩ => .ok ⟨mechanismType, none⟩
  | ⟨mechanismType, some inner⟩ => do return ⟨mechanismType, some (← remapParamHandles resolve inner)⟩

end

def substituteValidatedHandles (validated : ValidatedMechanismParams) (resolve : UInt64 → Option UInt64) :
    Except CkRv ValidatedMechanismParams := do
  return { validated with mechanism := ← remapNestedHandles resolve validated.mechanism }

def resolveEmbedded (context : LogicalClientInstance) (handles : List UInt64) : List (UInt64 × Option UInt64) :=
  handles.map fun handle => (handle, (context.objectHandles.resolve ⟨handle⟩).map BackendHandle.raw)

def noteRemapped (remapped : Dict UInt64 UInt64) (pair : UInt64 × Option UInt64) : Dict UInt64 UInt64 :=
  match pair.2 with
  | some backend => remapped.insert pair.1 backend
  | none => remapped

def remappedHandles (resolved : List (UInt64 × Option UInt64)) : Dict UInt64 UInt64 := resolved.foldl noteRemapped ∅

section

variable (env : GateEnv) (session : VirtualHandle) (backendSession : BackendHandle)

def ensureEmbeddedUse : List (UInt64 × Option UInt64) → GateM Unit
  | [] => pure ()
  | (_, none) :: rest => ensureEmbeddedUse rest
  | (handle, some backend) :: rest => do
      ensureUseIfKnown env session ⟨handle⟩ backendSession ⟨backend⟩
      ensureEmbeddedUse rest

-- A handle that occurs twice is gated twice, and the second answer stands.
def gateEmbedded : List (UInt64 × Option UInt64) → Dict UInt64 UInt64 → GateM (Dict UInt64 UInt64)
  | [], gated => pure gated
  | (_, none) :: _, _ => throw .objectHandleInvalid
  | (handle, some backend) :: rest, gated =>
    if backend = 0 then gateEmbedded rest (gated.insert handle 0)
    else do
      ensureUseIfKnown env session ⟨handle⟩ backendSession ⟨backend⟩
      let answer ← gateObjectHandle env session ⟨handle⟩ backendSession ⟨backend⟩
      gateEmbedded rest (gated.insert handle answer.raw)

-- Zero in an embedded field would mean another operation, so a refused handle is
-- unresolved.
def permittedHandle (gated : Dict UInt64 UInt64) (handle : UInt64) : Option UInt64 :=
  (gated.lookup handle).filter fun backend => backend ≠ 0

def remapCollected (validated : ValidatedMechanismParams) (handles : List UInt64) : GateM ValidatedMechanismParams := do
  let state ← get
  match state.context with
  | none => throw .cryptokiNotInitialized
  | some context =>
    let resolved := resolveEmbedded context handles
    if restrictsObjects env then
      let gated ← gateEmbedded env session backendSession resolved ∅
      orRefuse (substituteValidatedHandles validated (permittedHandle gated))
    else
      ensureEmbeddedUse env session backendSession resolved
      orRefuse (substituteValidatedHandles validated fun handle => (remappedHandles resolved).lookup handle)

def remapMechanismHandles (validated : ValidatedMechanismParams) : GateM ValidatedMechanismParams :=
  match validated.mechanism.params with
  | none => pure validated
  | some params =>
    let handles := collectParamHandles params
    if handles.isEmpty then pure validated else remapCollected env session backendSession validated handles

end

end Pkcs11Proxy.Server
