import Pkcs11Proxy.Lib.Triples
import Pkcs11Proxy.Server.AttributeReads

namespace Pkcs11Proxy.Server

open Lib Pkcs11Proxy.Types

def GateState.withCache (cache : Dict (VirtualHandle × UInt64) CachedAttr) (state : GateState) : GateState :=
  { state with context := state.context.map fun context => { context with attrCache := cache } }

def GateState.attributes (state : GateState) : Option (Dict (VirtualHandle × UInt64) CachedAttr) :=
  state.context.map LogicalClientInstance.attrCache

variable {session object : VirtualHandle} {backendSession backendObject : BackendHandle}

section Gate

variable (cache : Dict (VirtualHandle × UInt64) CachedAttr) {env : GateEnv}

abbrev CacheBlind {α : Type} (prog : GateM α) : Prop :=
  Oblivious (GateState.withCache cache) GateState.attributes prog

variable {cache}

theorem oblivious_edit {f : LogicalClientInstance → LogicalClientInstance}
    (commutes : ∀ context, f { context with attrCache := cache } = { f context with attrCache := cache })
    (kept : ∀ context, (f context).attrCache = context.attrCache) :
    CacheBlind cache (editContext f) := by
  apply oblivious_modify
  · intro state
    cases found : state.context with
    | none => simp [GateState.withCache, found]
    | some context => simp [GateState.withCache, found, commutes]
  · intro state
    cases found : state.context with
    | none => simp [GateState.attributes, found]
    | some context => simp [GateState.attributes, found, kept]

theorem oblivious_or_refuse {α : Type} {checked : Except CkRv α} : CacheBlind cache (orRefuse checked) := by
  cases checked with
  | ok value => exact oblivious_pure
  | error rv => exact oblivious_throw

theorem context_identity_cache (state : GateState) :
    contextIdentity env (state.withCache cache).context = contextIdentity env state.context := by
  unfold GateState.withCache
  cases state.context <;> rfl

theorem slot_cache (state : GateState) (session : VirtualHandle) :
    slotForSession (state.withCache cache).context session = slotForSession state.context session := by
  unfold GateState.withCache
  cases state.context <;> rfl

theorem created_cache (state : GateState) (object : VirtualHandle) :
    objectWasCreatedHere (state.withCache cache).context object = objectWasCreatedHere state.context object := by
  unfold GateState.withCache
  cases state.context <;> rfl

theorem private_use_cache (state : GateState) (session object : VirtualHandle) (backendSession backendObject : BackendHandle) :
    ensurePrivateUseAllowed env (state.withCache cache).context session object backendSession backendObject =
      ensurePrivateUseAllowed env state.context session object backendSession backendObject := by
  unfold GateState.withCache
  cases state.context <;> rfl

theorem oblivious_authz_context :
    CacheBlind cache (resolveObjectAuthzContext env session) := by
  apply oblivious_get
  · intro state
    rw [context_identity_cache, slot_cache]
    rfl
  · intro state
    cases contextIdentity env state.context with
    | error rv => exact oblivious_pure
    | ok identity =>
      cases slotForSession state.context session with
      | none => exact oblivious_pure
      | some slot =>
        cases found : state.tokenInfoCache.lookup slot with
        | some token =>
          simp only [found]
          exact oblivious_pure
        | none =>
          simp only [found]
          cases env.tokenInfo slot with
          | none => exact oblivious_pure
          | some token =>
            exact oblivious_map (oblivious_modify (fun _ => rfl) fun _ => rfl)

theorem oblivious_cached : CacheBlind cache (cachedObjectMetadata env object) := by
  apply oblivious_get
  · intro state
    unfold GateState.withCache
    cases state.context <;> rfl
  · intro state
    cases state.context with
    | none => exact oblivious_pure
    | some context =>
      dsimp only
      cases context.objectMetadata.lookup object with
      | some fetched => exact oblivious_pure
      | none =>
        cases context.tokenObjectMetadata.lookup object with
        | none => exact oblivious_pure
        | some entry =>
          apply oblivious_ite
          · exact oblivious_pure
          · exact oblivious_map (oblivious_edit (fun _ => rfl) fun _ => rfl)

theorem oblivious_fetch :
    CacheBlind cache (fetchAndCache env object backendSession backendObject) := by
  unfold fetchAndCache
  cases env.fetchObjectMetadata backendSession backendObject with
  | none => exact oblivious_pure
  | some fetched =>
    apply oblivious_bind
    · apply oblivious_edit
      · intro context
        unfold LogicalClientInstance.storeMetadata
        split <;> rfl
      · intro context
        unfold LogicalClientInstance.storeMetadata
        split <;> rfl
    · exact fun _ => oblivious_pure

theorem oblivious_known :
    CacheBlind cache (cachedOrFetched env object backendSession backendObject) := by
  apply oblivious_bind
  · exact oblivious_cached
  · intro known
    cases known with
    | some cached => exact oblivious_pure
    | none => exact oblivious_fetch

theorem oblivious_verdict :
    CacheBlind cache (gateVerdict env session object backendSession backendObject) := by
  apply oblivious_bind
  · exact oblivious_authz_context
  · intro resolved
    cases resolved with
    | none => exact oblivious_pure
    | some resolved =>
      apply oblivious_get
      · intro state
        simp only [created_cache]
      · intro state
        apply oblivious_ite
        · apply oblivious_ite
          · exact oblivious_pure
          · apply oblivious_bind
            · exact oblivious_fetch
            · intro fetched
              cases fetched <;> exact oblivious_pure
        · apply oblivious_bind
          · exact oblivious_known
          · intro known
            cases known with
            | none => exact oblivious_pure
            | some fetched =>
              apply oblivious_ite
              · exact oblivious_pure
              · apply oblivious_ite
                · exact oblivious_pure
                · apply oblivious_ite <;> exact oblivious_pure

theorem oblivious_gate :
    CacheBlind cache (gateIfRestricted env session object backendSession backendObject) := by
  apply oblivious_ite
  · apply oblivious_bind
    · exact oblivious_verdict
    · intro returned
      exact oblivious_map (oblivious_modify (fun _ => rfl) fun _ => rfl)
  · exact oblivious_pure

theorem oblivious_use :
    CacheBlind cache (ensureUseIfKnown env session object backendSession backendObject) := by
  apply oblivious_get
  · intro state
    simp only [private_use_cache]
  · intro state
    apply oblivious_ite
    · exact oblivious_or_refuse
    · exact oblivious_pure

theorem oblivious_resolve {staleRv : CkRv} :
    CacheBlind cache (resolveSessionAndHandle env session object staleRv) := by
  apply oblivious_get
  · intro state
    unfold GateState.withCache
    cases state.context <;> rfl
  · intro state
    cases state.context with
    | none => exact oblivious_throw
    | some context =>
      apply oblivious_bind
      · exact oblivious_or_refuse
      · intro backendSession
        apply oblivious_ite
        · exact oblivious_throw
        · apply oblivious_bind
          · exact oblivious_use
          · intro _
            exact oblivious_map oblivious_gate

theorem oblivious_uid :
    CacheBlind cache (resolveUidForExtract env session object) := by
  apply oblivious_bind
  · exact oblivious_cached
  · intro known
    cases known with
    | some cached => exact oblivious_pure
    | none =>
      apply oblivious_get
      · intro state
        unfold GateState.withCache
        cases state.context <;> rfl
      · intro state
        cases state.context.bind fun context => context.sessionHandles.resolve session with
        | none => exact oblivious_pure
        | some backendSession =>
          cases state.context.bind fun context => context.objectHandles.resolve object with
          | none => exact oblivious_pure
          | some backendObject =>
            exact oblivious_map oblivious_fetch

theorem oblivious_token {slot : BackendSlotId} : CacheBlind cache (tokenForExtract env slot) := by
  apply oblivious_get
  · intro state
    rfl
  · intro state
    cases state.tokenInfoCache.lookup slot with
    | some token => exact oblivious_pure
    | none =>
      cases env.tokenInfo slot with
      | none => exact oblivious_pure
      | some token =>
        exact oblivious_map (oblivious_modify (fun _ => rfl) fun _ => rfl)

theorem oblivious_extract :
    CacheBlind cache (extractIsPermitted env session object) := by
  apply oblivious_get
  · intro state
    rw [context_identity_cache, slot_cache]
  · intro state
    split
    · exact oblivious_pure
    · exact oblivious_pure
    · split
      · exact oblivious_pure
      · apply oblivious_bind
        · exact oblivious_token
        · intro token
          cases token with
          | none => exact oblivious_pure
          | some token =>
            apply oblivious_ite
            · exact oblivious_pure
            · exact oblivious_map oblivious_uid

end Gate

end Pkcs11Proxy.Server
