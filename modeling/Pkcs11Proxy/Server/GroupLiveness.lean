import Pkcs11Proxy.Server.GroupInvariant

namespace Pkcs11Proxy.Server

open Lib

structure BindingOk (registry : ConnectionRegistry) (context : ContextBinding) : Prop where
  known : ∀ g ∈ context.bound, g < registry.groups.length
  unbound : context.connectionState = none → context.bound = []
  entries : ∀ entries, context.connectionState = some entries → context.bound ≠ [] ∧ (∀ g ∈ entries, g ∈ context.bound) ∧
    ∀ g ∈ context.bound, g ∈ entries ∨ registry.isClosed g = true

structure ConnectionInv (system : ConnectionSystem) : Prop where
  groups : GroupsInv system.registry system.streams
  requests : ∀ request ∈ system.requests, ∀ g, request.held = some g → g < system.registry.groups.length
  contexts : ∀ context ∈ system.contexts, BindingOk system.registry context

theorem connection_inv_new : ConnectionInv ConnectionSystem.new where
  groups := ⟨nofun, nofun, nofun⟩
  requests _ member := by cases member
  contexts _ member := by cases member

variable {registry : ConnectionRegistry} {g state : Nat} {peerKey : Option String}
  {key : String} {next : ConnectionSystem} {contexts : List ContextBinding}

theorem is_closed_of_group {group : ConnectionState} (held : registry.groups[g]? = some group) :
    registry.isClosed g = group.closed := by
  rw [ConnectionRegistry.isClosed, held]
  rfl

variable {system : ConnectionSystem}

theorem upgrades_or_closed (inv : GroupsInv system.registry system.streams)
    (bound : g < system.registry.groups.length) : system.upgrades g = true ∨ system.registry.isClosed g = true := by
  have found := List.getElem?_eq_getElem bound
  rw [is_closed_of_group found]
  have streams : ∀ stream ∈ system.streams, stream.state = g → stream.phase ≠ .dropped → system.upgrades g = true := by
    intro stream member inside held
    have holds : system.streams.any (fun stream => stream.state == g && stream.phase != .dropped) = true :=
      List.any_eq_true.mpr ⟨stream, member, by simp [inside, held]⟩
    rw [ConnectionSystem.upgrades, holds, Bool.or_true, Bool.true_or]
  cases inv.groups g _ found with
  | registered key mapped unclosed keyed counted held =>
    refine .inl ?_
    have named := mem_dict_values.mpr ⟨key, (mapped key).mpr rfl⟩
    rw [ConnectionSystem.upgrades, decide_eq_true named, Bool.true_or, Bool.true_or]
  | removed unmapped quiet marker =>
    obtain ⟨stream, member, inside, marking⟩ := marker
    exact .inl (streams stream member inside (by rw [marking]; exact nofun))
  | peerless unmapped unclosed k owner alone =>
    exact .inl (streams _ (List.mem_of_getElem? owner) rfl nofun)
  | closed unmapped marked quiet => exact .inr marked

theorem is_live_iff (inv : GroupsInv system.registry system.streams)
    (bound : g < system.registry.groups.length) : system.isLive g = true ↔ system.registry.isClosed g = false := by
  rw [ConnectionSystem.isLive]
  rcases upgrades_or_closed inv bound with held | closed
  · simp [held]
  · simp [closed]

theorem retained_upgrades (system : ConnectionSystem) (entries : List Nat) :
    (entries.filter system.isLive).filter system.upgrades = entries.filter system.isLive := by
  refine List.filter_eq_self.mpr fun g member => ?_
  have live := (List.mem_filter.mp member).2
  rw [ConnectionSystem.isLive, Bool.and_eq_true] at live
  exact live.1

section Contexts

variable {system : ConnectionSystem} (inv : GroupsInv system.registry system.streams)
variable {context : ContextBinding} (ok : BindingOk system.registry context)

include inv ok

theorem retained_covers (entries : List Nat) (stored : context.connectionState = some entries) (g : Nat) (member : g ∈ context.bound) :
    g ∈ entries.filter system.isLive ∨ system.registry.isClosed g = true := by
  rcases (ok.entries entries stored).2.2 g member with kept | closed
  · cases shut : system.registry.isClosed g with
    | true => exact .inr rfl
    | false => exact .inl (List.mem_filter.mpr ⟨kept, (is_live_iff inv (ok.known g member)).mpr shut⟩)
  · exact .inr closed

theorem transport_dead_iff :
    context.isTransportDead system = true ↔ context.bound ≠ [] ∧ ∀ g ∈ context.bound, system.registry.isClosed g = true := by
  rw [ContextBinding.isTransportDead, ContextBinding.liveConnectionBindings]
  cases stored : context.connectionState with
  | none => simp [ok.unbound stored]
  | some entries =>
    obtain ⟨bound, inside, -⟩ := ok.entries entries stored
    simp only [Bool.true_and, List.isEmpty_iff, retained_upgrades]
    constructor
    · intro none
      refine ⟨bound, fun g member => ?_⟩
      rcases retained_covers inv ok entries stored g member with kept | closed
      · rw [none] at kept
        cases kept
      · exact closed
    · rintro ⟨-, closed⟩
      refine List.filter_eq_nil_iff.mpr fun g member live => ?_
      have known := inside g member
      rw [is_live_iff inv (ok.known g known), closed g known] at live
      cases live

theorem binding_ok_pruned : BindingOk system.registry (context.liveConnectionBindings system).1 := by
  rw [ContextBinding.liveConnectionBindings]
  cases stored : context.connectionState with
  | none => exact ok
  | some entries =>
    obtain ⟨bound, inside, -⟩ := ok.entries entries stored
    refine ⟨ok.known, nofun, fun retained same => ?_⟩
    cases same
    exact ⟨bound, fun g member => inside g (List.mem_filter.mp member).1, retained_covers inv ok entries stored⟩

theorem binding_ok_rebound (known : state < system.registry.groups.length) :
    BindingOk system.registry (context.rebindConnection system state) := by
  rw [ContextBinding.rebindConnection]
  have wider : ∀ g ∈ state :: context.bound, g < system.registry.groups.length := by
    intro g member
    rcases List.mem_cons.mp member with rfl | old
    · exact known
    · exact ok.known g old
  cases stored : context.connectionState with
  | none =>
    refine ⟨wider, nofun, fun entries same => ?_⟩
    cases same
    rw [ok.unbound stored]
    exact ⟨List.cons_ne_nil _ _, fun g member => member, fun g member => .inl member⟩
  | some entries =>
    obtain ⟨bound, inside, -⟩ := ok.entries entries stored
    have covers := retained_covers inv ok entries stored
    have within : ∀ g ∈ entries.filter system.isLive, g ∈ context.bound := fun g member => inside g (List.mem_filter.mp member).1
    dsimp only
    split
    · refine ⟨ok.known, nofun, fun retained same => ?_⟩
      cases same
      exact ⟨bound, within, covers⟩
    · refine ⟨wider, nofun, fun retained same => ?_⟩
      cases same
      refine ⟨List.cons_ne_nil _ _, fun g member => ?_, fun g member => ?_⟩
      · rcases List.mem_append.mp member with kept | new
        · exact List.mem_cons_of_mem _ (within g kept)
        · exact List.mem_cons.mpr (.inl (List.mem_singleton.mp new))
      · rcases List.mem_cons.mp member with rfl | old
        · exact .inl (List.mem_append_right _ (List.mem_singleton.mpr rfl))
        · exact (covers g old).imp (List.mem_append_left _) id

end Contexts

structure RegistryGrows (registry registry' : ConnectionRegistry) : Prop where
  length : registry.groups.length ≤ registry'.groups.length
  closed : ∀ g, g < registry.groups.length → registry.isClosed g = true → registry'.isClosed g = true

variable {byPeer : Dict String Nat}

theorem registry_grows_group {update : ConnectionState → ConnectionState}
    (keeps : ∀ group, registry.groups[g]? = some group → group.closed = true → (update group).closed = true) :
    RegistryGrows registry { registry.onGroup g update with byPeer := byPeer } where
  length := Nat.le_of_eq (on_group_length registry g update).symm
  closed j bound closed := by
    have found := List.getElem?_eq_getElem (Nat.lt_of_lt_of_eq bound (on_group_length registry g update).symm)
    refine (is_closed_of_group found).trans ?_
    rcases on_group_cases found with ⟨rfl, old, before, same⟩ | ⟨-, before⟩
    · rw [is_closed_of_group before] at closed
      rw [same]
      exact keeps old before closed
    · rw [is_closed_of_group before] at closed
      exact closed

theorem registry_grows_allocated :
    RegistryGrows registry ⟨registry.groups ++ [ConnectionState.new], byPeer⟩ where
  length := by simp
  closed g bound closed := by
    rw [ConnectionRegistry.isClosed, List.getElem?_append_left bound]
    exact closed

theorem registry_grows_accept :
    RegistryGrows system.registry (acceptStream system peerKey).registry := by
  cases peerKey with
  | none => exact registry_grows_allocated
  | some key =>
    simp only [acceptStream, ConnectionRegistry.register]
    cases system.registry.lookup key with
    | none => exact registry_grows_allocated
    | some g => exact registry_grows_group fun _ _ closed => closed

theorem registry_grows_leave :
    RegistryGrows registry (registry.leave key state).1 := by
  rw [ConnectionRegistry.leave]
  split
  · cases found : registry.groups[state]? with
    | none => exact ⟨Nat.le_refl _, fun _ _ closed => closed⟩
    | some group =>
      refine registry_grows_group fun other same closed => ?_
      cases found.symm.trans same
      rw [ConnectionState.leaveIsLast]
      split <;> exact closed
  · exact ⟨Nat.le_refl _, fun _ _ closed => closed⟩

theorem registry_grows_remove :
    RegistryGrows registry (registry.removeIf key state).1 := by
  rw [ConnectionRegistry.removeIf]
  split <;> exact ⟨Nat.le_refl _, fun _ _ closed => closed⟩

theorem binding_ok_grows {registry' : ConnectionRegistry} {context : ContextBinding} (ok : BindingOk registry context)
    (grows : RegistryGrows registry registry') : BindingOk registry' context where
  known g member := Nat.lt_of_lt_of_le (ok.known g member) grows.length
  unbound := ok.unbound
  entries entries stored := by
    obtain ⟨bound, inside, covers⟩ := ok.entries entries stored
    exact ⟨bound, inside, fun g member => (covers g member).imp id (grows.closed g (ok.known g member))⟩

theorem connection_inv_registry (inv : ConnectionInv system) (groups : GroupsInv next.registry next.streams)
    (grows : RegistryGrows system.registry next.registry) (requests : next.requests = system.requests)
    (contexts : next.contexts = system.contexts) : ConnectionInv next where
  groups := groups
  requests request member g held := by
    rw [requests] at member
    exact Nat.lt_of_lt_of_le (inv.requests request member g held) grows.length
  contexts context member := by
    rw [contexts] at member
    exact binding_ok_grows (inv.contexts context member) grows

theorem connection_inv_request {r : Nat} {request : RequestPhase}
    (inv : ConnectionInv system) (known : ∀ g, request.held = some g → g < system.registry.groups.length)
    (bindings : ∀ context ∈ contexts, BindingOk system.registry context) :
    ConnectionInv { system with requests := system.requests.set r request, contexts := contexts } where
  groups := inv.groups
  requests := forall_set inv.requests known
  contexts := bindings

theorem binding_ok_new {connection : Option Nat}
    (known : ∀ g, connection = some g → g < registry.groups.length) : BindingOk registry (ContextBinding.newWithConnection connection) := by
  cases connection with
  | none => exact ⟨nofun, fun _ => rfl, nofun⟩
  | some state =>
    refine ⟨fun g member => ?_, nofun, fun entries same => ?_⟩
    · rw [List.mem_singleton.mp member]
      exact known state rfl
    · cases same
      exact ⟨List.cons_ne_nil _ _, fun _ member => member, fun _ member => .inl member⟩

theorem connection_inv_drop {k : Nat} {stream : TrackedStream} (inv : ConnectionInv system)
    (held : system.streams[k]? = some stream) (taken : dropStream system k stream = some next) : ConnectionInv next := by
  have groups := groups_inv_drop inv.groups held taken
  rcases drop_stream_cases taken with ⟨-, rfl⟩ | ⟨key, -, ⟨-, rfl⟩ | ⟨-, rfl⟩⟩
  · exact connection_inv_registry inv groups
      (registry_grows_group fun _ _ _ => rfl) rfl rfl
  · exact connection_inv_registry inv groups registry_grows_leave rfl rfl
  · exact connection_inv_registry inv groups registry_grows_remove rfl rfl

theorem connection_inv_resolve (inv : ConnectionInv system) :
    ConnectionInv { system with requests := system.requests ++ [.resolved (peerKey.bind system.registry.lookup)] } where
  groups := inv.groups
  requests := forall_added inv.requests fun g held => by
    obtain ⟨key, -, found⟩ := Option.bind_eq_some_iff.mp held
    exact inv.groups.named key g found
  contexts := inv.contexts

theorem connection_inv_step {action : ConnectionAction} (inv : ConnectionInv system)
    (taken : connectionStep system action = some next) : ConnectionInv next := by
  have request := fun (r : Nat) request (held : system.requests[r]? = some request) => inv.requests request (List.mem_of_getElem? held)
  have idle : ∀ g, RequestPhase.finished.held = some g → g < system.registry.groups.length := nofun
  cases action with
  | accept peerKey =>
    cases taken
    exact connection_inv_registry inv (groups_inv_accept inv.groups) registry_grows_accept rfl rfl
  | drop k =>
    obtain ⟨stream, held, dropped⟩ := Option.bind_eq_some_iff.mp taken
    exact connection_inv_drop inv held dropped
  | request peerKey =>
    cases taken
    exact connection_inv_resolve inv
  | create r =>
    rw [connectionStep] at taken
    split at taken
    · rename_i connection held
      cases taken
      exact connection_inv_request inv idle (forall_added inv.contexts (binding_ok_new (request r _ held)))
    · cases taken
  | checkRebind r c =>
    rw [connectionStep] at taken
    split at taken
    · rename_i connection held
      split at taken
      · rename_i state passed
        cases taken
        refine connection_inv_request inv (fun g same => ?_) inv.contexts
        cases same
        exact request r _ held state (Option.filter_eq_some_iff.mp passed).1
      · cases taken
        exact connection_inv_request inv idle inv.contexts
    · cases taken
  | rebind r =>
    rw [connectionStep] at taken
    split at taken
    · rename_i state c held
      obtain ⟨context, found, rfl⟩ := Option.map_eq_some_iff.mp taken
      have rebound := binding_ok_rebound inv.groups (inv.contexts context (List.mem_of_getElem? found))
        (request r _ held state rfl)
      exact connection_inv_request inv idle (forall_set inv.contexts rebound)
    · cases taken
  | release r =>
    rw [connectionStep] at taken
    split at taken
    · cases taken
      exact connection_inv_request inv idle inv.contexts
    · cases taken
  | readLiveness c =>
    obtain ⟨context, found, rfl⟩ := Option.map_eq_some_iff.mp taken
    have pruned := binding_ok_pruned inv.groups (inv.contexts context (List.mem_of_getElem? found))
    exact ⟨inv.groups, inv.requests, forall_set inv.contexts pruned⟩

structure GroupLiveness (system : ConnectionSystem) : Prop where
  live : ∀ stream ∈ system.streams, stream.phase = .live → system.registry.isClosed stream.state = false ∧
    ∀ key, stream.peerKey = some key → system.registry.lookup key = some stream.state ∧ (system.registry.register key).2 = stream.state
  dropped : ∀ g, g < system.registry.groups.length → (∀ stream ∈ system.streams, stream.state = g → stream.phase = .dropped) →
    system.registry.isClosed g = true ∧ ∀ key, system.registry.lookup key ≠ some g
  dead : ∀ context ∈ system.contexts,
    (context.isTransportDead system = true ↔ context.bound ≠ [] ∧ ∀ g ∈ context.bound, system.registry.isClosed g = true)

theorem live_group (inv : GroupsInv system.registry system.streams) (stream : TrackedStream)
    (member : stream ∈ system.streams) (live : stream.phase = .live) : system.registry.isClosed stream.state = false ∧
    ∀ key, stream.peerKey = some key → system.registry.lookup key = some stream.state ∧ (system.registry.register key).2 = stream.state := by
  obtain ⟨k, held⟩ := List.mem_iff_getElem?.mp member
  obtain ⟨group, found, ok⟩ := stream_group inv held
  rw [is_closed_of_group found]
  refine ⟨?_, fun key keyed => ?_⟩
  · cases ok with
    | registered _ _ unclosed _ _ _ | peerless _ unclosed _ _ _ => exact unclosed
    | removed _ quiet _ | closed _ _ quiet => exact absurd live (quiet stream member rfl)
  · obtain ⟨mapped, -, -, -⟩ := live_registered system.streams k stream held ok live keyed
    have named : system.registry.lookup key = some stream.state := (mapped key).mpr rfl
    rw [ConnectionRegistry.register, named]
    exact ⟨rfl, rfl⟩

theorem dropped_group (inv : GroupsInv system.registry system.streams) (g : Nat)
    (bound : g < system.registry.groups.length) (dropped : ∀ stream ∈ system.streams, stream.state = g → stream.phase = .dropped) :
    system.registry.isClosed g = true ∧ ∀ key, system.registry.lookup key ≠ some g := by
  have found := List.getElem?_eq_getElem bound
  rw [is_closed_of_group found]
  cases inv.groups g _ found with
  | registered key mapped unclosed keyed counted held =>
    exfalso
    rcases held with positive | ⟨stream, member, inside, removing⟩
    · have none : total (TrackedStream.liveIn g) system.streams ≤ total (fun _ => 0) system.streams :=
        total_le_total _ _ _ fun stream member => Nat.le_of_eq (if_neg fun live => by
          have gone := dropped stream member live.1
          rw [live.2] at gone
          cases gone)
      have zero : total (fun _ => 0) system.streams = 0 := by simp [total]
      omega
    · have gone := dropped stream member inside
      rw [removing] at gone
      cases gone
  | removed unmapped quiet marker =>
    obtain ⟨stream, member, inside, marking⟩ := marker
    have gone := dropped stream member inside
    rw [marking] at gone
    cases gone
  | peerless unmapped unclosed k owner alone => cases dropped _ (List.mem_of_getElem? owner) rfl
  | closed unmapped marked quiet => exact ⟨marked, unmapped⟩

theorem connection_group_liveness (actions : List ConnectionAction) (final : ConnectionSystem)
    (ran : exec connectionStep ConnectionSystem.new actions = some final) : GroupLiveness final := by
  have inv := exec_invariant connectionStep ConnectionInv (fun system action next => connection_inv_step) connection_inv_new ran
  exact ⟨live_group inv.groups, dropped_group inv.groups,
    fun context member => transport_dead_iff inv.groups (inv.contexts context member)⟩

def revived : List ConnectionAction :=
  [.accept (some "uds:pid=7"), .request (some "uds:pid=7"), .create 0, .drop 0, .accept (some "uds:pid=7"), .drop 0]

theorem connection_group_liveness_revived :
    ∃ final, exec connectionStep ConnectionSystem.new revived = some final ∧
      final.streams = [⟨0, some "uds:pid=7", .dropped⟩, ⟨0, some "uds:pid=7", .live⟩] ∧ GroupLiveness final :=
  ⟨_, rfl, rfl, connection_group_liveness revived _ rfl⟩

end Pkcs11Proxy.Server
