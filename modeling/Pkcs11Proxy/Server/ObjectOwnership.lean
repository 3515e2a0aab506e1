import Pkcs11Proxy.Server.ObjectLifecycle

namespace Pkcs11Proxy.Server

open Lib Pkcs11Proxy.Types

namespace ObjectSystem

section Conditions

variable (system : ObjectSystem)

-- Context `i` has been given a handle for the object that the number names now.
def holdsMint (i : Nat) (object : BackendHandle) : Bool :=
  system.mints.any fun mint =>
    match mint.phase with
    | .registered number identity _ _ =>
      mint.context = i && number = object && (system.objects.lookup object).map NativeObject.identity = some identity
    | _ => false

def indexSparesMinted (i : Nat) (action : CloseAction) : Bool :=
  (system.contextAt i).all fun client =>
    (client.terminalSession action).all fun session =>
      (client.context.indexedObjects session).all fun virt =>
        (client.context.objectHandles.resolve virt).all fun object => !system.holdsMint i object

-- An eviction takes no handle that a create has given its context for a live object, and
-- an id counter is not about to wrap.
def sparesMinted : ObjectAction → Bool
  | .session i action => system.indexSparesMinted i action
  | .registerObject k _ => system.mints[k]?.all fun mint => system.hasObjectRoom mint.context
  | .findObject i _ => system.hasObjectRoom i
  | .evictIn k i =>
    system.destroys[k]?.all fun
      | .sweeping object _ => !system.holdsMint i object
      | .resolved _ => true
  | _ => true

end Conditions

def names (system : ObjectSystem) (object : BackendHandle) (identity : Nat) : Prop :=
  (system.objects.lookup object).map NativeObject.identity = some identity

end ObjectSystem

def MintPhase.object : MintPhase → Option BackendHandle
  | .minted object _ _ | .registered object _ _ _ => some object
  | .resolved _ | .unadopted => none

structure MintHeld (system : ObjectSystem) (mint : MintRequest) : Prop where
  placed : mint.context < system.contexts.length
  issued : ∀ object identity isToken, mint.phase = .minted object identity isToken → identity < system.minted
  adopted : ∀ object identity isToken virt, mint.phase = .registered object identity isToken virt → identity < system.minted
  held : ∀ object identity isToken virt, mint.phase = .registered object identity isToken virt → system.names object identity →
    ∀ client, system.contextAt mint.context = some client → client.context.objectHandles.resolve virt = some object

variable {mint : MintRequest} {next : ObjectSystem} {client after : CloseSystem}
  {object : BackendHandle} {identity i k : Nat} {isToken : Bool}

variable {system : ObjectSystem}

theorem mint_held_idle (placed : mint.context < system.contexts.length) (idle : mint.phase.object = none) : MintHeld system mint := by
  refine ⟨placed, fun _ _ _ phase => ?_, fun _ _ _ _ phase => ?_, fun _ _ _ _ phase => ?_⟩ <;>
  · rw [phase] at idle
    cases idle

structure OwnershipInv (system : ObjectSystem) : Prop where
  well : ∀ i client, system.contextAt i = some client → HandleWell client.context.objectHandles
  mints : ∀ mint ∈ system.mints, MintHeld system mint

theorem holds_registered_mint {virt : VirtualHandle} (member : mint ∈ system.mints) (phase : mint.phase = .registered object identity isToken virt)
    (named : system.names object identity) : system.holdsMint mint.context object = true := by
  refine List.any_eq_true.mpr ⟨mint, member, ?_⟩
  rw [phase]
  simpa [ObjectSystem.names] using named

def KeepsMinted (system : ObjectSystem) (i : Nat) (client after : CloseSystem) : Prop :=
  HandleWell after.context.objectHandles ∧ ∀ virt object, system.holdsMint i object = true →
    client.context.objectHandles.resolve virt = some object → after.context.objectHandles.resolve virt = some object

structure OwnershipKept (system next : ObjectSystem) : Prop where
  contexts : ContextsMove (KeepsMinted system) system next
  minted : system.minted ≤ next.minted
  live : ∀ object identity, identity < system.minted → next.names object identity → system.names object identity

theorem mint_held_kept (kept : OwnershipKept system next) (member : mint ∈ system.mints) (before : MintHeld system mint) :
    MintHeld next mint where
  placed := Nat.lt_of_lt_of_le before.placed kept.contexts.length
  issued object identity isToken phase := Nat.lt_of_lt_of_le (before.issued object identity isToken phase) kept.minted
  adopted object identity isToken virt phase := Nat.lt_of_lt_of_le (before.adopted object identity isToken virt phase) kept.minted
  held object identity isToken virt phase named after at_ := by
    have named := kept.live object identity (before.adopted object identity isToken virt phase) named
    obtain ⟨client, held, -, resolves⟩ := kept.contexts.clients mint.context after at_ before.placed
    exact resolves virt object (holds_registered_mint member phase named) (before.held object identity isToken virt phase named client held)

theorem ownership_of_kept (inv : OwnershipInv system) (kept : OwnershipKept system next)
    (mints : ∀ mint ∈ next.mints, mint ∈ system.mints ∨ MintHeld next mint) : OwnershipInv next where
  well i after at_ := by
    by_cases inside : i < system.contexts.length
    · obtain ⟨-, -, well, -⟩ := kept.contexts.clients i after at_ inside
      exact well
    · rw [kept.contexts.fresh i after at_ (Nat.le_of_not_lt inside)]
      exact handle_well_new
  mints mint member := by
    rcases mints mint member with old | new
    · exact mint_held_kept kept old (inv.mints mint old)
    · exact new

theorem keeps_minted_of_same (well : HandleWell client.context.objectHandles)
    (same : SameObjects client.context after.context) : KeepsMinted system i client after := by
  rw [KeepsMinted, same.handles]
  exact ⟨well, fun _ _ _ held => held⟩

theorem keeps_minted_of_evicted {objects : List VirtualHandle} (evicted : ObjectsEvicted client.context after.context objects)
    (dead : ∀ virt ∈ objects, ∀ object, client.context.objectHandles.resolve virt = some object → system.holdsMint i object = false) :
    KeepsMinted system i client after := by
  refine ⟨evicted.well, fun virt object live held => ?_⟩
  rw [evicted.resolve, if_neg]
  · exact held
  · intro member
    rw [dead virt member object held] at live
    cases live

theorem keeps_minted_still (inv : OwnershipInv system) (i : Nat) (client : CloseSystem)
    (at_ : system.contextAt i = some client) : KeepsMinted system i client client := ⟨inv.well i client at_, fun _ _ _ held => held⟩

theorem ownership_kept_of_contexts (inv : OwnershipInv system) (contexts : next.contexts = system.contexts)
    (minted : system.minted ≤ next.minted)
    (live : ∀ object identity, identity < system.minted → next.names object identity → system.names object identity) :
    OwnershipKept system next :=
  ⟨contexts_move_same (keeps_minted_still inv) contexts, minted, live⟩

theorem ownership_kept_of_client (inv : OwnershipInv system)
    (at_ : system.contextAt i = some client) (contexts : next.contexts = (system.setContext i after).contexts)
    (minted : next.minted = system.minted) (live : ∀ object identity, next.names object identity → system.names object identity)
    (keeps : KeepsMinted system i client after) : OwnershipKept system next :=
  ⟨contexts_move_client (keeps_minted_still inv) after at_ contexts keeps, Nat.le_of_eq minted.symm,
    fun object identity _ named => live object identity named⟩

theorem names_erased {erased : BackendHandle}
    (named : ObjectSystem.names { system with objects := system.objects.erase erased } object identity) : system.names object identity := by
  obtain ⟨native, found, same⟩ := Option.map_eq_some_iff.mp named
  rw [dict_lookup_erase] at found
  split at found
  · cases found
  · rw [ObjectSystem.names, found, Option.map_some, same]

theorem names_retained {closed : Option BackendHandle}
    (named : (system.withoutOwnedBy closed).names object identity) : system.names object identity := by
  obtain ⟨native, found, same⟩ := Option.map_eq_some_iff.mp named
  rw [ObjectSystem.withoutOwnedBy, dict_lookup_retain] at found
  split at found
  · rw [ObjectSystem.names, found, Option.map_some, same]
  · cases found

section Steps

variable {system : ObjectSystem} (inv : OwnershipInv system)

include inv

theorem ownership_ended : OwnershipInv { system with contexts := system.contexts.set i none } :=
  ownership_of_kept inv
    ⟨contexts_move_ended (keeps_minted_still inv), Nat.le_refl _, fun _ _ _ named => named⟩ fun _ member => .inl member

theorem ownership_added : OwnershipInv { system with contexts := system.contexts ++ [some CloseSystem.new] } :=
  ownership_of_kept inv
    ⟨contexts_move_added (keeps_minted_still inv), Nat.le_refl _, fun _ _ _ named => named⟩ fun _ member => .inl member

section

variable (at_ : system.contextAt i = some client)

include at_

theorem ownership_session {action : CloseAction}
    (dead : system.indexSparesMinted i action = true) (taken : system.sessionAction i client action = some next) :
    OwnershipInv next := by
  obtain ⟨after, closed, rfl⟩ := Option.map_eq_some_iff.mp taken
  refine ownership_of_kept inv ?_ fun mint member => .inl member
  refine ownership_kept_of_client inv at_ rfl rfl (fun object identity named => ?_) ?_
  · exact names_retained named
  · have well := inv.well i client at_
    rcases close_step_objects well closed with ⟨same, -⟩ | ⟨session, terminal, evicted, -⟩
    · exact keeps_minted_of_same well same
    · refine keeps_minted_of_evicted evicted fun virt member object held => ?_
      rw [ObjectSystem.indexSparesMinted, at_, Option.all_some, terminal, Option.all_some, List.all_eq_true] at dead
      have absent := dead virt member
      rw [held, Option.all_some, Bool.not_eq_true'] at absent
      exact absent

theorem ownership_found (room : system.hasObjectRoom i = true) :
    OwnershipInv (system.setContext i
      { client with context := { client.context with objectHandles := (client.context.objectHandles.insert object).1 } }) := by
  have well := inv.well i client at_
  rw [ObjectSystem.hasObjectRoom, at_, Option.all_some, decide_eq_true_eq] at room
  obtain ⟨inserted, -, -, chosen, resolve⟩ := insert_reads well object room
  refine ownership_of_kept inv ?_ fun mint member => .inl member
  refine ownership_kept_of_client inv at_ rfl rfl (fun _ _ named => named) ⟨inserted, ?_⟩
  exact fun virt number _ held => mapped_keeps well chosen resolve virt number held

omit at_ in
theorem ownership_minted (at_ : system.mints[k]? = some mint) {session : BackendHandle} :
    OwnershipInv (system.nativeMint k mint session object isToken) := by
  have before := inv.mints mint (List.mem_of_getElem? at_)
  refine ownership_of_kept inv (ownership_kept_of_contexts inv rfl (Nat.le_succ _) ?_) ?_
  · intro number identity older named
    obtain ⟨native, found, same⟩ := Option.map_eq_some_iff.mp named
    rw [ObjectSystem.nativeMint, dict_lookup_insert] at found
    split at found
    · cases found
      exact absurd same.symm (Nat.ne_of_lt older)
    · rw [ObjectSystem.names, found, Option.map_some, same]
  · refine forall_set (fun _ => .inl) (.inr
      ⟨before.placed, fun number identity token phase => ?_, fun _ _ _ _ phase => ?_, fun _ _ _ _ phase => ?_⟩) <;> cases phase
    exact Nat.lt_succ_self _

omit at_ in
theorem ownership_registered (at_ : system.mints[k]? = some mint)
    (phase : mint.phase = .minted object identity isToken) (room : system.hasObjectRoom mint.context = true)
    {observed : Option Bool} : OwnershipInv (system.registerObject k mint object identity isToken observed) := by
  have before := inv.mints mint (List.mem_of_getElem? at_)
  rw [ObjectSystem.registerObject]
  cases here : system.contextAt mint.context with
  | none =>
    exact ownership_of_kept inv (ownership_kept_of_contexts inv rfl (Nat.le_refl _) fun _ _ _ named => named)
      (forall_set (fun _ => .inl) (.inr (mint_held_idle before.placed rfl)))
  | some client =>
    have well := inv.well mint.context client here
    rw [ObjectSystem.hasObjectRoom, here, Option.all_some, decide_eq_true_eq] at room
    have registered := register_session_object_spec well room mint.session object (mint.call.classifiesToken observed)
      (some mint.call.isPrivate)
    have keeps := mapped_keeps well registered.chosen registered.resolve
    refine ownership_of_kept inv (ownership_kept_of_client inv here rfl rfl
      (fun _ _ named => named) ⟨registered.well, fun virt number _ held => keeps virt number held⟩)
      (forall_set (fun _ => .inl) (.inr ⟨?_, nofun, ?_, ?_⟩))
    · change _ < (system.contexts.set _ _).length
      rw [List.length_set]
      exact before.placed
    · intro number id token virt same
      cases same
      exact before.issued object identity isToken phase
    · intro number id token virt same _ after held
      cases same
      have placed := system.context_set mint.context client
        { client with
            context := (client.context.registerSessionObjectHandle mint.session object (mint.call.classifiesToken observed)
              (some mint.call.isPrivate)).1 } here mint.context
      rw [if_pos rfl] at placed
      cases Option.some.inj (placed.symm.trans held)
      exact (registered.resolve _).trans (if_pos rfl)

theorem ownership_evicted
    {visited : List Nat} (dead : system.holdsMint i object = false) : OwnershipInv (system.evictIn k i client object visited) := by
  obtain ⟨-, objects, evicted, targets⟩ := evict_backend_object_spec (inv.well i client at_)
  refine ownership_of_kept inv ?_ fun mint member => .inl member
  refine ownership_kept_of_client inv at_ rfl rfl (fun _ _ named => named) ?_
  refine keeps_minted_of_evicted evicted fun virt member number held => ?_
  rw [Option.some.inj (held.symm.trans (targets virt member))]
  exact dead

theorem ownership_begun {session : VirtualHandle} {call : MintCall}
    (taken : system.beginMint i client session call = some next) : OwnershipInv next := by
  obtain ⟨backend, -, rfl⟩ := Option.map_eq_some_iff.mp taken
  exact ownership_of_kept inv (ownership_kept_of_contexts inv rfl (Nat.le_refl _) fun _ _ _ named => named)
    (forall_added (fun _ => .inl) (.inr (mint_held_idle (system.context_placed i client at_) rfl)))

end

theorem ownership_erased {destroys : List DestroyRequest} :
    OwnershipInv { system with objects := system.objects.erase object, destroys := destroys } := by
  refine ownership_of_kept inv (ownership_kept_of_contexts inv rfl (Nat.le_refl _) ?_) fun mint member => .inl member
  exact fun number identity _ named => names_erased named

theorem ownership_step {action : ObjectAction} (allowed : system.sparesMinted action = true)
    (taken : objectStep system action = some next) : OwnershipInv next := by
  cases action with
  | newContext =>
    cases taken
    exact ownership_added inv
  | endContext i =>
    obtain ⟨-, -, rfl⟩ := Option.map_eq_some_iff.mp taken
    exact ownership_ended inv
  | session i action =>
    obtain ⟨client, at_, moved⟩ := Option.bind_eq_some_iff.mp taken
    exact ownership_session inv at_ allowed moved
  | createObject i session isToken isPrivate =>
    obtain ⟨client, at_, moved⟩ := Option.bind_eq_some_iff.mp taken
    exact ownership_begun inv at_ moved
  | copyObject i session source tokenOverride isPrivate =>
    obtain ⟨client, at_, moved⟩ := Option.bind_eq_some_iff.mp taken
    split at moved
    · exact ownership_begun inv at_ moved
    · cases moved
  | nativeMint k object isToken =>
    obtain ⟨mint, at_, moved⟩ := Option.bind_eq_some_iff.mp taken
    split at moved
    · split at moved <;> cases moved
      exact ownership_minted inv at_
    · cases moved
  | registerObject k observed =>
    obtain ⟨mint, at_, moved⟩ := Option.bind_eq_some_iff.mp taken
    rw [ObjectSystem.sparesMinted, at_, Option.all_some] at allowed
    split at moved
    · rename_i object identity isToken phase
      split at moved <;> cases moved
      exact ownership_registered inv at_ phase allowed
    · cases moved
  | findObject i object =>
    obtain ⟨client, at_, moved⟩ := Option.bind_eq_some_iff.mp taken
    split at moved <;> cases moved
    exact ownership_found inv at_ allowed
  | destroyObject i session object =>
    obtain ⟨client, at_, moved⟩ := Option.bind_eq_some_iff.mp taken
    split at moved
    · obtain ⟨backend, -, rfl⟩ := Option.map_eq_some_iff.mp moved
      exact ownership_of_kept inv
        (ownership_kept_of_contexts inv rfl (Nat.le_refl _) fun _ _ _ named => named) fun mint member => .inl member
    · cases moved
  | nativeDestroy k =>
    obtain ⟨request, at_, moved⟩ := Option.bind_eq_some_iff.mp taken
    split at moved
    · split at moved <;> cases moved
      exact ownership_erased inv
    · cases moved
  | evictIn k i =>
    obtain ⟨request, at_, moved⟩ := Option.bind_eq_some_iff.mp taken
    rw [ObjectSystem.sparesMinted, at_, Option.all_some] at allowed
    split at moved
    · split at moved
      · cases moved
      · obtain ⟨client, here, rfl⟩ := Option.map_eq_some_iff.mp moved
        exact ownership_evicted inv here ((Bool.not_eq_true' _).mp allowed)
    · cases moved
  | vanish object =>
    rw [objectStep] at taken
    split at taken <;> cases taken
    exact ownership_erased inv

end Steps

theorem ownership_new : OwnershipInv ObjectSystem.new where
  well i client at_ := by cases at_
  mints mint member := nomatch member

-- In every run whose steps evict only numbers of dead objects, a handle returned by a
-- successful mint resolves to the object that call minted while the object lives.
theorem minted_handle_resolves (actions : List ObjectAction) (final : ObjectSystem)
    (ran : exec objectStep ObjectSystem.new actions = some final)
    (meets : along objectStep (fun system action => system.sparesMinted action = true) ObjectSystem.new actions) (mint : MintRequest)
    (member : mint ∈ final.mints) (object : BackendHandle) (identity : Nat) (isToken : Bool) (virt : VirtualHandle)
    (adopted : mint.phase = .registered object identity isToken virt) (alive : final.names object identity) (client : CloseSystem)
    (present : final.contextAt mint.context = some client) : client.context.objectHandles.resolve virt = some object := by
  have inv := exec_invariant_along objectStep (fun system action => system.sparesMinted action = true) OwnershipInv
    (fun system action next held allowed taken => ownership_step held allowed taken) ownership_new meets ran
  exact (inv.mints mint member).held object identity isToken virt adopted alive client present

def recycledObject (sweep : List ObjectAction) : List ObjectAction :=
  [.newContext, .newContext, .session 0 (.registerSession ⟨1⟩ ⟨0⟩), .session 1 (.registerSession ⟨2⟩ ⟨0⟩),
    .createObject 0 ⟨1⟩ true false, .nativeMint 0 ⟨9⟩ true, .registerObject 0 none,
    .destroyObject 0 ⟨1⟩ ⟨1⟩, .nativeDestroy 0] ++ sweep ++
  [.createObject 1 ⟨1⟩ true false, .nativeMint 1 ⟨9⟩ true, .registerObject 1 none]

def ObjectSystem.reads (system : ObjectSystem) (k i : Nat) (object : BackendHandle) (virt : VirtualHandle) :
    Option MintRequest × Option Nat × Option (Option BackendHandle) :=
  (system.mints[k]?, (system.objects.lookup object).map NativeObject.identity,
    (system.contextAt i).map fun client => client.context.objectHandles.resolve virt)

def recycledMint : MintRequest := ⟨1, ⟨1⟩, .create true false, .registered ⟨9⟩ 1 true ⟨1⟩⟩

theorem run_reads (actions : List ObjectAction) (mint : MintRequest) (resolved : Option BackendHandle)
    (computed : (exec objectStep ObjectSystem.new actions).map (fun final => final.reads 1 1 ⟨9⟩ ⟨1⟩) = some (some mint, some 1, some resolved)) :
    ∃ (final : ObjectSystem) (client : CloseSystem), exec objectStep ObjectSystem.new actions = some final ∧
      mint ∈ final.mints ∧ final.names ⟨9⟩ 1 ∧ final.contextAt 1 = some client ∧ client.context.objectHandles.resolve ⟨1⟩ = resolved := by
  obtain ⟨final, ran, reads⟩ := Option.map_eq_some_iff.mp computed
  obtain ⟨listed, rest⟩ := Prod.mk.inj reads
  obtain ⟨named, present⟩ := Prod.mk.inj rest
  obtain ⟨client, here, held⟩ := Option.map_eq_some_iff.mp present
  exact ⟨final, client, ran, List.mem_of_getElem? listed, named, here, held⟩

theorem minted_handle_resolves_recycled :
    ∃ (final : ObjectSystem) (client : CloseSystem), exec objectStep ObjectSystem.new (recycledObject [.evictIn 0 0, .evictIn 0 1]) = some final ∧
      recycledMint ∈ final.mints ∧ final.names ⟨9⟩ 1 ∧ final.contextAt 1 = some client ∧ client.context.objectHandles.resolve ⟨1⟩ = some ⟨9⟩ := by
  obtain ⟨final, client, ran, member, named, here, -⟩ := run_reads (recycledObject [.evictIn 0 0, .evictIn 0 1]) recycledMint
    (some ⟨9⟩) (by decide)
  exact ⟨final, client, ran, member, named, here,
    minted_handle_resolves _ final ran (by decide) recycledMint member ⟨9⟩ 1 true ⟨1⟩ rfl named client here⟩

-- The sweep reaches the other client after its create was answered: the live object's
-- handle is gone.
theorem late_sweep_evicts_recycled :
    ∃ (final : ObjectSystem) (client : CloseSystem), exec objectStep ObjectSystem.new (recycledObject [] ++ [.evictIn 0 1]) = some final ∧
      recycledMint ∈ final.mints ∧ final.names ⟨9⟩ 1 ∧ final.contextAt 1 = some client ∧ client.context.objectHandles.resolve ⟨1⟩ = none :=
  run_reads _ _ _ (by decide)

end Pkcs11Proxy.Server
