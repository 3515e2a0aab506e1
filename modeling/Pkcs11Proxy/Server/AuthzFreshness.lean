import Pkcs11Proxy.Server.GateSteps

namespace Pkcs11Proxy.Server

open Lib

def LogicalClientInstance.lookupMetadata (context : LogicalClientInstance) (generation : UInt64) (object : VirtualHandle) :
    LogicalClientInstance × Option ObjectMetadata :=
  match context.objectMetadata.lookup object with
  | some fetched => (context, some fetched)
  | none =>
    match context.tokenObjectMetadata.lookup object with
    | some gated =>
      if gated.generation = generation then (context, some gated.fetched)
      else ({ context with tokenObjectMetadata := context.tokenObjectMetadata.erase object }, none)
    | none => (context, none)

-- What the provider answered to a request that has not cached it yet. `fetchedAt` is
-- ghost state: the number of revocations before the fetch.
structure MetadataFetch where
  client : ClientContextId
  object : VirtualHandle
  fetched : ObjectMetadata
  fetchedAt : Nat
deriving DecidableEq, Repr

structure MetadataAnswer where
  answer : ObjectMetadata
  fetchedAt : Option Nat
  answeredAt : Nat
deriving DecidableEq, Repr

-- `revocations`, `origins` and `answered` are ghost state: how often the generation was
-- revoked, when the entry under a token object was fetched, and what lookups returned.
structure AuthzState where
  generation : UInt64
  contexts : Dict ClientContextId LogicalClientInstance
  fetches : List MetadataFetch
  revocations : Nat
  origins : Dict (ClientContextId × VirtualHandle) Nat
  answered : List MetadataAnswer

def AuthzState.new : AuthzState := ⟨0, ∅, [], 0, ∅, []⟩

inductive AuthzAction where
  | createContext (client : ClientContextId)
  | removeContext (client : ClientContextId)
  | evictObject (client : ClientContextId) (object : VirtualHandle)
  | fetch (client : ClientContextId) (object : VirtualHandle) (fetched : ObjectMetadata)
  | cache (k : Nat)
  | lookup (client : ClientContextId) (object : VirtualHandle)
  | revoke
deriving DecidableEq, Repr

section Steps

variable (state : AuthzState)

-- The entry is tagged with the generation current at the insertion. Without its
-- context the request caches nothing.
def cacheFetched (request : MetadataFetch) : AuthzState :=
  match state.contexts.lookup request.client with
  | none => state
  | some context =>
    { state with
        contexts := state.contexts.insert request.client (context.storeMetadata state.generation request.object request.fetched)
        origins := if request.fetched.isToken then state.origins.insert (request.client, request.object) request.fetchedAt
          else state.origins }

def lookupMetadata (client : ClientContextId) (object : VirtualHandle) : AuthzState :=
  match state.contexts.lookup client with
  | none => state
  | some context =>
    let (next, found) := context.lookupMetadata state.generation object
    { state with
        contexts := state.contexts.insert client next
        answered := state.answered ++
          found.toList.map fun answer => ⟨answer, state.origins.lookup (client, object), state.revocations⟩ }

def revokeAuthzGeneration : AuthzState :=
  { state with generation := state.generation + 1, revocations := state.revocations + 1 }

def authzStep : AuthzAction → Option AuthzState
  | .createContext client =>
    if (state.contexts.lookup client).isSome then none
    else some { state with contexts := state.contexts.insert client LogicalClientInstance.new }
  | .removeContext client => some { state with contexts := state.contexts.erase client }
  | .evictObject client object =>
    (state.contexts.lookup client).map fun context =>
      { state with contexts := state.contexts.insert client (context.evictObject object) }
  | .fetch client object fetched => some { state with fetches := state.fetches ++ [⟨client, object, fetched, state.revocations⟩] }
  | .cache k => state.fetches[k]?.map fun request => cacheFetched { state with fetches := state.fetches.eraseIdx k } request
  | .lookup client object => some (lookupMetadata state client object)
  | .revoke => some (revokeAuthzGeneration state)

end Steps

def FreshAnswers (state : AuthzState) : Prop :=
  ∀ given ∈ state.answered, given.answer.isToken = true → given.fetchedAt = some given.answeredAt

-- A token object's metadata is cached before the next revocation after its fetch, and
-- the generation does not come round.
def AuthzSafe (state : AuthzState) : AuthzAction → Prop
  | .cache k => ∀ request ∈ state.fetches[k]?, request.fetched.isToken = true → request.fetchedAt = state.revocations
  | .revoke => state.revocations + 1 < UInt64.size
  | _ => True

instance decidableAuthzSafe (state : AuthzState) : (action : AuthzAction) → Decidable (AuthzSafe state action)
  | .cache _ => inferInstanceAs (Decidable (∀ request ∈ (_ : Option MetadataFetch), _))
  | .revoke => inferInstanceAs (Decidable (_ < _))
  | .createContext _ | .removeContext _ | .evictObject .. | .fetch .. | .lookup .. => .isTrue trivial

structure CacheTagged (context : LogicalClientInstance) (origin : VirtualHandle → Option Nat) : Prop where
  session : ∀ object fetched, context.objectMetadata.lookup object = some fetched → fetched.isToken = false
  token : ∀ object gated, context.tokenObjectMetadata.lookup object = some gated → origin object = some gated.generation.toNat

structure AuthzInv (state : AuthzState) : Prop where
  counter : state.generation.toNat = state.revocations
  tagged : ∀ client context, state.contexts.lookup client = some context →
    CacheTagged context fun object => state.origins.lookup (client, object)
  fresh : FreshAnswers state

theorem authz_inv_new : AuthzInv AuthzState.new where
  counter := rfl
  tagged client context held := by
    cases held
  fresh given member := by cases member

variable {object : VirtualHandle}

section Tags

variable {context : LogicalClientInstance} (origin : VirtualHandle → Option Nat) (tagged : CacheTagged context origin)

theorem tagged_new : CacheTagged LogicalClientInstance.new origin where
  session object fetched held := by
    cases held
  token object gated held := by
    cases held

include tagged

theorem tagged_evict (object : VirtualHandle) : CacheTagged (context.evictObject object) origin := by
  constructor
  · intro query fetched held
    rw [LogicalClientInstance.evictObject, dict_lookup_erase] at held
    split at held
    · cases held
    · exact tagged.session query fetched held
  · intro query gated held
    rw [LogicalClientInstance.evictObject, dict_lookup_erase] at held
    split at held
    · cases held
    · exact tagged.token query gated held

theorem tagged_store (generation : UInt64) (object : VirtualHandle) (fetched : ObjectMetadata) (next : VirtualHandle → Option Nat)
    (mine : fetched.isToken = true → next object = some generation.toNat)
    (others : ∀ query, fetched.isToken = false ∨ query ≠ object → next query = origin query) :
    CacheTagged (context.storeMetadata generation object fetched) next := by
  rw [LogicalClientInstance.storeMetadata]
  cases token : fetched.isToken with
  | false =>
    rw [if_neg Bool.false_ne_true]
    constructor
    · intro query known held
      rw [dict_lookup_insert] at held
      split at held
      · rw [← Option.some.inj held, token]
      · exact tagged.session query known held
    · intro query gated held
      rw [others query (.inl token)]
      exact tagged.token query gated held
  | true =>
    rw [if_pos rfl]
    constructor
    · exact tagged.session
    · intro query gated held
      rw [dict_lookup_insert] at held
      split at held
      · rename_i same
        rw [same, mine token, ← Option.some.inj held]
      · rename_i same
        rw [others query (.inr same)]
        exact tagged.token query gated held

theorem tagged_lookup {generation : UInt64} :
    CacheTagged (context.lookupMetadata generation object).1 origin ∧
      ∀ answer, (context.lookupMetadata generation object).2 = some answer → answer.isToken = true →
        origin object = some generation.toNat := by
  rw [LogicalClientInstance.lookupMetadata]
  cases own : Finmap.lookup object context.objectMetadata with
  | some fetched =>
    refine ⟨tagged, ?_⟩
    intro answer found token
    rw [← Option.some.inj found, tagged.session object fetched own] at token
    cases token
  | none =>
    cases shared : Finmap.lookup object context.tokenObjectMetadata with
    | none => exact ⟨tagged, nofun⟩
    | some gated =>
      dsimp only
      split
      · rename_i current
        refine ⟨tagged, ?_⟩
        intro answer _ _
        rw [← current]
        exact tagged.token object gated shared
      · refine ⟨⟨tagged.session, ?_⟩, nofun⟩
        intro query entry held
        rw [dict_lookup_erase] at held
        split at held
        · cases held
        · exact tagged.token query entry held

end Tags

variable {state : AuthzState} {client : ClientContextId}

theorem tagged_update (inv : AuthzInv state) {next : LogicalClientInstance}
    {origins : Dict (ClientContextId × VirtualHandle) Nat} (mine : CacheTagged next fun object => origins.lookup (client, object))
    (others : ∀ other, other ≠ client → ∀ object, origins.lookup (other, object) = state.origins.lookup (other, object))
    (query : ClientContextId) (context : LogicalClientInstance) (held : (state.contexts.insert client next).lookup query = some context) :
    CacheTagged context fun object => origins.lookup (query, object) := by
  rw [dict_lookup_insert] at held
  split at held
  · rename_i same
    rw [← Option.some.inj held, same]
    exact mine
  · rename_i same
    simp only [others query same]
    exact inv.tagged query context held

theorem cache_fetched_inv (state : AuthzState) (inv : AuthzInv state) (request : MetadataFetch)
    (safe : request.fetched.isToken = true → request.fetchedAt = state.revocations) : AuthzInv (cacheFetched state request) := by
  rw [cacheFetched]
  cases held : Finmap.lookup request.client state.contexts with
  | none => exact inv
  | some context =>
    have origin : ∀ key, (if request.fetched.isToken then state.origins.insert (request.client, request.object) request.fetchedAt
        else state.origins).lookup key =
        if request.fetched.isToken = true ∧ key = (request.client, request.object) then some request.fetchedAt
        else state.origins.lookup key := by
      cases token : request.fetched.isToken with
      | false => simp
      | true => simp [dict_lookup_insert]
    refine ⟨inv.counter, tagged_update inv ?_ ?_, inv.fresh⟩
    · apply tagged_store _ (inv.tagged request.client context held)
      · intro token
        rw [origin, if_pos ⟨token, rfl⟩, safe token, inv.counter]
      · intro query unaffected
        rw [origin, if_neg]
        rintro ⟨token, same⟩
        rcases unaffected with session | other
        · rw [token] at session
          cases session
        · exact other (Prod.mk.inj same).2
    · intro other different object
      rw [origin, if_neg fun mine => different (Prod.mk.inj mine.2).1]

theorem lookup_metadata_inv (inv : AuthzInv state) :
    AuthzInv (lookupMetadata state client object) := by
  rw [lookupMetadata]
  cases held : Finmap.lookup client state.contexts with
  | none => exact inv
  | some context =>
    obtain ⟨kept, current⟩ := tagged_lookup _ (inv.tagged client context held)
    refine ⟨inv.counter, tagged_update inv kept fun _ _ _ => rfl, ?_⟩
    intro given member token
    rcases List.mem_append.mp member with earlier | now
    · exact inv.fresh given earlier token
    · obtain ⟨answer, found, rfl⟩ := List.mem_map.mp now
      have origin := current answer (Option.mem_toList.mp found) token
      rw [inv.counter] at origin
      exact origin

theorem authz_step_inv (state : AuthzState) (action : AuthzAction) (next : AuthzState) (inv : AuthzInv state)
    (safe : AuthzSafe state action) (taken : authzStep state action = some next) : AuthzInv next := by
  cases action with
  | createContext client =>
    rw [authzStep] at taken
    split at taken <;> cases taken
    exact ⟨inv.counter, tagged_update inv (tagged_new _) fun _ _ _ => rfl, inv.fresh⟩
  | removeContext client =>
    cases taken
    refine ⟨inv.counter, ?_, inv.fresh⟩
    intro query context held
    rw [dict_lookup_erase] at held
    split at held
    · cases held
    · exact inv.tagged query context held
  | evictObject client object =>
    obtain ⟨context, held, rfl⟩ := Option.map_eq_some_iff.mp taken
    have evicted := tagged_evict _ (inv.tagged client context held) object
    exact ⟨inv.counter, tagged_update inv evicted fun _ _ _ => rfl, inv.fresh⟩
  | fetch client object fetched =>
    cases taken
    exact ⟨inv.counter, inv.tagged, inv.fresh⟩
  | cache k =>
    obtain ⟨request, at_, rfl⟩ := Option.map_eq_some_iff.mp taken
    apply cache_fetched_inv
    · exact ⟨inv.counter, inv.tagged, inv.fresh⟩
    · exact safe request at_
  | lookup client object =>
    cases taken
    exact lookup_metadata_inv inv
  | revoke =>
    cases taken
    refine ⟨?_, inv.tagged, inv.fresh⟩
    rw [revokeAuthzGeneration, UInt64.toNat_add, inv.counter]
    exact Nat.mod_eq_of_lt safe

theorem token_metadata_fresh (actions : List AuthzAction) (final : AuthzState) (safe : along authzStep AuthzSafe AuthzState.new actions)
    (ran : exec authzStep AuthzState.new actions = some final) : FreshAnswers final :=
  (exec_invariant_along authzStep AuthzSafe AuthzInv authz_step_inv authz_inv_new safe ran).fresh

def tokenKey : ObjectMetadata := ⟨[1], none, true⟩

theorem token_metadata_fresh_once : ∃ final, exec authzStep AuthzState.new
    [.createContext 0, .revoke, .fetch 0 ⟨1⟩ tokenKey, .cache 0, .lookup 0 ⟨1⟩] = some final ∧ FreshAnswers final :=
  ⟨_, rfl, token_metadata_fresh [.createContext 0, .revoke, .fetch 0 ⟨1⟩ tokenKey, .cache 0, .lookup 0 ⟨1⟩] _ (by decide +kernel) rfl⟩

-- The object is destroyed and its handle recycled while the answer of an earlier fetch
-- is on its way into the cache: the entry carries the generation after the revocation.
theorem straddling_fetch_stale : ∃ final, exec authzStep AuthzState.new
    [.createContext 0, .fetch 0 ⟨1⟩ tokenKey, .revoke, .cache 0, .lookup 0 ⟨1⟩] = some final ∧ ¬ FreshAnswers final := by
  refine ⟨_, rfl, fun fresh => ?_⟩
  have stale := fresh ⟨tokenKey, some 0, 1⟩ (by decide +kernel) rfl
  cases stale

end Pkcs11Proxy.Server
