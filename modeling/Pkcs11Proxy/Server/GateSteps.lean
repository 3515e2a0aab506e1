import Pkcs11Proxy.Lib.Triples
import Pkcs11Proxy.Server.HandleRequests

namespace Pkcs11Proxy.Server

open Lib Pkcs11Proxy.Types

section Verdict

variable (env : GateEnv)

def tokenOf (state : GateState) (slot : BackendSlotId) : Option (Text × Text) :=
  (state.tokenInfoCache.lookup slot).or (env.tokenInfo slot)

def authzContext (state : GateState) (session : VirtualHandle) : Option (AuthenticatedIdentity × Text × Text) :=
  match contextIdentity env state.context, slotForSession state.context session with
  | .ok identity, some slot => (tokenOf env state slot).map fun token => (identity, token.1, token.2)
  | _, _ => none

def cachedMetadata (context : Option LogicalClientInstance) (object : VirtualHandle) : Option ObjectMetadata :=
  context.bind fun context =>
    (context.objectMetadata.lookup object).or
      ((context.tokenObjectMetadata.lookup object).bind fun entry =>
        if entry.generation = env.generation then some entry.fetched else none)

def metadataAllows (identity : AuthenticatedIdentity) (label serial : Text) (known : ObjectMetadata) : Bool :=
  !known.uniqueId.isEmpty && env.policy.allowsObjectUse identity label serial known.uniqueId &&
    (!env.policy.perClassActive || classAllowed env identity label serial known)

def gateAdmits (state : GateState) (session object : VirtualHandle) (backendSession backendObject : BackendHandle) : Bool :=
  (authzContext env state session).any fun (identity, label, serial) =>
    let fetched := env.fetchObjectMetadata backendSession backendObject
    if objectWasCreatedHere state.context object then
      !env.policy.perClassActive || fetched.any (classAllowed env identity label serial)
    else ((cachedMetadata env state.context object).or fetched).any (metadataAllows env identity label serial)

end Verdict

variable {state next : GateState} {session : VirtualHandle} {α : Type} {value : α}
  {context : LogicalClientInstance} {fetched : ObjectMetadata}

section Learning

def LogicalClientInstance.fixed (context : LogicalClientInstance) :
    HandleMap × Dict VirtualHandle BackendSlotId × HandleMap × Finset VirtualHandle :=
  (context.sessionHandles, context.sessionSlots, context.objectHandles, context.createdObjects)

variable (env : GateEnv) (object : VirtualHandle) (backendSession backendObject : BackendHandle)

structure Learned (state next : GateState) : Prop where
  fixed : next.context.map LogicalClientInstance.fixed = state.context.map LogicalClientInstance.fixed
  gated : next.gated = state.gated
  dispatched : next.dispatched = state.dispatched
  token : ∀ slot, tokenOf env next slot = tokenOf env state slot
  others : ∀ other, other ≠ object → cachedMetadata env next.context other = cachedMetadata env state.context other
  own : objectWasCreatedHere state.context object = false →
    (cachedMetadata env next.context object).or (env.fetchObjectMetadata backendSession backendObject) =
      (cachedMetadata env state.context object).or (env.fetchObjectMetadata backendSession backendObject)

theorem created_here_fixed {context other : Option LogicalClientInstance}
    (same : other.map LogicalClientInstance.fixed = context.map LogicalClientInstance.fixed) (queried : VirtualHandle) :
    objectWasCreatedHere other queried = objectWasCreatedHere context queried := by
  have read (c : Option LogicalClientInstance) :
      objectWasCreatedHere c queried = (c.map LogicalClientInstance.fixed).any fun fixed => decide (queried ∈ fixed.2.2.2) := by
    cases c <;> rfl
  rw [read, read, same]

theorem slot_fixed {context other : Option LogicalClientInstance}
    (same : other.map LogicalClientInstance.fixed = context.map LogicalClientInstance.fixed) (session : VirtualHandle) :
    slotForSession other session = slotForSession context session := by
  have read (c : Option LogicalClientInstance) :
      slotForSession c session = (c.map LogicalClientInstance.fixed).bind fun fixed => fixed.2.1.lookup session := by
    cases c <;> rfl
  rw [read, read, same]

theorem identity_fixed {context other : Option LogicalClientInstance}
    (same : other.map LogicalClientInstance.fixed = context.map LogicalClientInstance.fixed) :
    contextIdentity env other = contextIdentity env context := by
  cases context with
  | none =>
    cases other with
    | none => rfl
    | some found => cases same
  | some before =>
    cases other with
    | none => cases same
    | some found => rfl

theorem learned_refl (state : GateState) : Learned env object backendSession backendObject state state where
  fixed := rfl
  gated := rfl
  dispatched := rfl
  token _ := rfl
  others _ _ := rfl
  own _ := rfl

theorem learned_trans {mid : GateState} (first : Learned env object backendSession backendObject state mid)
    (second : Learned env object backendSession backendObject mid next) : Learned env object backendSession backendObject state next where
  fixed := second.fixed.trans first.fixed
  gated := second.gated.trans first.gated
  dispatched := second.dispatched.trans first.dispatched
  token slot := (second.token slot).trans (first.token slot)
  others other different := (second.others other different).trans (first.others other different)
  own notCreated := by
    have still := (created_here_fixed first.fixed object).trans notCreated
    exact (second.own still).trans (first.own notCreated)

theorem authz_context_learned (learned : Learned env object backendSession backendObject state next)
    : authzContext env next session = authzContext env state session := by
  unfold authzContext
  rw [identity_fixed env learned.fixed, slot_fixed learned.fixed]
  split
  · rw [learned.token]
  · rfl

theorem gate_admits_learned (learned : Learned env object backendSession backendObject state next)
    (session other : VirtualHandle) {otherBackend : BackendHandle} (agree : other = object → otherBackend = backendObject) :
    gateAdmits env next session other backendSession otherBackend = gateAdmits env state session other backendSession otherBackend := by
  unfold gateAdmits
  rw [authz_context_learned env object backendSession backendObject learned]
  have created := created_here_fixed learned.fixed other
  congr 1
  simp only [created]
  split
  · rfl
  · rename_i notCreated
    by_cases same : other = object
    · rw [agree same, same, learned.own (by rw [← same]; exact Bool.eq_false_iff.mpr notCreated)]
    · rw [learned.others other same]

def Judges {α : Type} (prog : GateM α) (state : GateState) (answer : α) : Prop :=
  ∃ next, prog state = .ok answer next ∧ Learned env object backendSession backendObject state next

variable {env object backendSession backendObject}

theorem judges_pure :
    Judges env object backendSession backendObject (pure value) state value :=
  ⟨state, rfl, learned_refl env object backendSession backendObject state⟩

theorem judges_bind {β : Type} {first : GateM α} {second : α → GateM β} {answer : β}
    (ran : first state = .ok value next) (learned : Learned env object backendSession backendObject state next)
    (rest : Judges env object backendSession backendObject (second value) next answer) :
    Judges env object backendSession backendObject (first >>= second) state answer := by
  obtain ⟨final, ended, more⟩ := rest
  refine ⟨final, ?_, learned_trans env object backendSession backendObject learned more⟩
  rw [bind_of_ok ran]
  exact ended

theorem get_bind (rest : GateState → GateM α) (state : GateState) : (get >>= rest) state = rest state state := rfl

theorem judges_get (rest : GateState → GateM α) (state : GateState) (answer : α)
    (judged : Judges env object backendSession backendObject (rest state) state answer) :
    Judges env object backendSession backendObject (get >>= rest) state answer := judged

theorem token_remembered {slot : BackendSlotId} {token : Text × Text}
    (unknown : state.tokenInfoCache.lookup slot = none) (answered : env.tokenInfo slot = some token) :
    Learned env object backendSession backendObject state
      { state with tokenInfoCache := state.tokenInfoCache.insert slot token } where
  fixed := rfl
  gated := rfl
  dispatched := rfl
  token other := by
    simp only [tokenOf, dict_lookup_insert]
    by_cases same : other = slot
    · rw [if_pos same, same, unknown, answered]
      rfl
    · rw [if_neg same]
  others _ _ := rfl
  own _ := rfl

theorem judges_authz_context :
    Judges env object backendSession backendObject (resolveObjectAuthzContext env session) state (authzContext env state session) := by
  apply judges_get
  unfold authzContext
  cases contextIdentity env state.context with
  | error rv => exact judges_pure
  | ok identity =>
    cases slotForSession state.context session with
    | none => exact judges_pure
    | some slot =>
      simp only [tokenOf]
      cases cached : state.tokenInfoCache.lookup slot with
      | some token => exact judges_pure
      | none =>
        cases answered : env.tokenInfo slot with
        | none => exact judges_pure
        | some token =>
          exact ⟨_, rfl, token_remembered cached answered⟩

theorem dropped_same {entry : GatedObjectMetadata}
    (stored : context.tokenObjectMetadata.lookup object = some entry) (stale : entry.generation ≠ env.generation) (other : VirtualHandle) :
    cachedMetadata env (some { context with tokenObjectMetadata := context.tokenObjectMetadata.erase object }) other =
      cachedMetadata env (some context) other := by
  simp only [cachedMetadata, Option.bind_some, dict_lookup_erase]
  by_cases dropped : other = object
  · rw [if_pos dropped, dropped, stored, Option.bind_some, if_neg stale]
    rfl
  · rw [if_neg dropped]

theorem judges_cached : ∃ next,
    cachedObjectMetadata env object state = .ok (cachedMetadata env state.context object) next ∧
      Learned env object backendSession backendObject state next ∧
      ∀ other, cachedMetadata env next.context other = cachedMetadata env state.context other := by
  have unmoved := learned_refl env object backendSession backendObject state
  rw [cachedObjectMetadata, get_bind]
  cases found : state.context with
  | none => exact ⟨state, rfl, unmoved, fun other => by rw [found]⟩
  | some context =>
    simp only [cachedMetadata, Option.bind_some]
    cases known : context.objectMetadata.lookup object with
    | some fetched => exact ⟨state, rfl, unmoved, fun other => by rw [found]; rfl⟩
    | none =>
      cases stored : context.tokenObjectMetadata.lookup object with
      | none => exact ⟨state, rfl, unmoved, fun other => by rw [found]; rfl⟩
      | some entry =>
        simp only [Option.bind_some, Option.none_or]
        by_cases current : entry.generation = env.generation
        · rw [if_pos current, if_pos current]
          exact ⟨state, rfl, unmoved, fun other => by rw [found]; rfl⟩
        · rw [if_neg current, if_neg current]
          have same := dropped_same stored current
          refine ⟨{ state with context := some { context with tokenObjectMetadata := context.tokenObjectMetadata.erase object } },
            ?_, ⟨by rw [found]; rfl, rfl, rfl, fun _ => rfl, ?_, ?_⟩, same⟩
          · change EStateM.Result.ok none { state with context := state.context.map _ } = _
            rw [found]
            rfl
          · intro other _
            rw [found]
            exact same other
          · intro _
            rw [found, same]

theorem stored_fixed :
    (context.storeMetadata env.generation object fetched).fixed = context.fixed := by
  unfold LogicalClientInstance.storeMetadata
  split
  · rfl
  · rfl

theorem stored_others {other : VirtualHandle} (different : other ≠ object) :
    cachedMetadata env (some (context.storeMetadata env.generation object fetched)) other = cachedMetadata env (some context) other := by
  simp only [cachedMetadata, Option.bind_some, LogicalClientInstance.storeMetadata]
  split
  · simp only [dict_lookup_insert, if_neg different]
  · simp only [dict_lookup_insert, if_neg different]

theorem stored_own (absent : cachedMetadata env (some context) object = none) :
    cachedMetadata env (some (context.storeMetadata env.generation object fetched)) object = some fetched := by
  simp only [cachedMetadata, Option.bind_some, Option.or_eq_none_iff] at absent
  simp only [cachedMetadata, Option.bind_some, LogicalClientInstance.storeMetadata]
  split
  · simp [absent.1]
  · simp

theorem judges_store (answered : env.fetchObjectMetadata backendSession backendObject = some fetched)
    (fresh : objectWasCreatedHere state.context object = true ∨ cachedMetadata env state.context object = none) :
    Judges env object backendSession backendObject (cacheObjectMetadata env object fetched) state () := by
  refine ⟨{ state with context := state.context.map fun context => context.storeMetadata env.generation object fetched }, rfl, ?_⟩
  cases found : state.context with
  | none =>
    have same : { state with context := none } = state := by rw [← found]
    simp only [Option.map_none, same]
    exact learned_refl env object backendSession backendObject state
  | some context =>
    refine ⟨?_, rfl, rfl, fun _ => rfl, ?_, ?_⟩
    · rw [found]
      exact congrArg some (stored_fixed)
    · intro other different
      rw [found]
      exact stored_others different
    · intro notCreated
      have absent := fresh.resolve_left (by rw [notCreated]; exact Bool.false_ne_true)
      rw [absent, answered, Option.none_or]
      rw [found] at absent
      rw [Option.map_some, stored_own absent]
      rfl

theorem judges_fetch (fresh : objectWasCreatedHere state.context object = true ∨ cachedMetadata env state.context object = none) :
    Judges env object backendSession backendObject (fetchAndCache env object backendSession backendObject) state
      (env.fetchObjectMetadata backendSession backendObject) := by
  unfold fetchAndCache
  cases answered : env.fetchObjectMetadata backendSession backendObject with
  | none => exact judges_pure
  | some fetched =>
    obtain ⟨next, ran, learned⟩ := judges_store answered fresh
    exact judges_bind ran learned
      (judges_pure)

theorem judges_known :
    Judges env object backendSession backendObject (cachedOrFetched env object backendSession backendObject) state
      ((cachedMetadata env state.context object).or (env.fetchObjectMetadata backendSession backendObject)) := by
  obtain ⟨next, ran, learned, same⟩ := judges_cached
  apply judges_bind ran learned
  cases known : cachedMetadata env state.context object with
  | some cached => exact judges_pure
  | none =>
    exact judges_fetch (.inr ((same object).trans known))

theorem judges_verdict :
    Judges env object backendSession backendObject (gateVerdict env session object backendSession backendObject) state
      (if gateAdmits env state session object backendSession backendObject then backendObject else ⟨0⟩) := by
  obtain ⟨next, ran, learned⟩ := judges_authz_context
  apply judges_bind ran learned
  rw [← gate_admits_learned env object backendSession backendObject learned session object fun _ => rfl]
  unfold gateAdmits
  rw [authz_context_learned env object backendSession backendObject learned]
  cases authzContext env state session with
  | none => exact judges_pure
  | some resolved =>
    obtain ⟨identity, label, serial⟩ := resolved
    simp only [Option.any_some]
    apply judges_get
    by_cases created : objectWasCreatedHere next.context object = true
    · rw [if_pos created, if_pos created]
      by_cases classes : env.policy.perClassActive = true
      · obtain ⟨final, ended, more⟩ := judges_fetch (.inl created)
        simp only [classes, Bool.not_true, Bool.false_or, Bool.false_eq_true, if_false]
        apply judges_bind ended more
        cases env.fetchObjectMetadata backendSession backendObject with
        | none | some => exact judges_pure
      · simp only [classes, Bool.not_false, Bool.true_or, if_true]
        exact judges_pure
    · rw [if_neg created, if_neg created]
      obtain ⟨final, ended, more⟩ := judges_known
      apply judges_bind ended more
      cases (cachedMetadata env next.context object).or (env.fetchObjectMetadata backendSession backendObject) with
      | none => exact judges_pure
      | some known =>
        dsimp only
        split
        · rw [if_neg (by simp_all [metadataAllows])]
          exact judges_pure
        · split
          · rw [if_neg (by simp_all [metadataAllows])]
            exact judges_pure
          · split
            · rw [if_neg (by simp_all [metadataAllows])]
              exact judges_pure
            · rw [if_pos (by grind [metadataAllows])]
              exact judges_pure

theorem gate_answers : ∃ judged,
    Learned env object backendSession backendObject state judged ∧
      gateObjectHandle env session object backendSession backendObject state =
        .ok (if gateAdmits env state session object backendSession backendObject then backendObject else ⟨0⟩)
          { judged with gated := judged.gated ++ [⟨object, backendObject,
              if gateAdmits env state session object backendSession backendObject then backendObject else ⟨0⟩⟩] } := by
  obtain ⟨judged, ran, learned⟩ := judges_verdict
  exact ⟨judged, learned, bind_of_ok ran⟩

end Learning

end Pkcs11Proxy.Server
