import Pkcs11Proxy.Server.CoalescedReads

namespace Pkcs11Proxy.Server

open Lib Pkcs11Proxy.Types

def cacheEntry (contexts : Dict ClientContextId LogicalClientInstance) (client : ClientContextId) (key : VirtualHandle × UInt64) :
    Option CachedAttr :=
  (contexts.lookup client).bind fun context => context.attrCache.lookup key

variable {key : VirtualHandle × UInt64} {attr : UInt64} {cached : CachedAttr}

section Contexts

variable {contexts : Dict ClientContextId LogicalClientInstance} {client : ClientContextId} (next : LogicalClientInstance)

theorem cache_entry_insert {query : ClientContextId} :
    cacheEntry (contexts.insert client next) query key =
      if query = client then next.attrCache.lookup key else cacheEntry contexts query key := by
  rw [cacheEntry, dict_lookup_insert]
  split <;> rfl

theorem object_behind_insert (query : ClientContextId) (virt : VirtualHandle) :
    objectBehind (contexts.insert client next) query virt =
      if query = client then next.objectHandles.resolve virt else objectBehind contexts query virt := by
  rw [objectBehind, dict_lookup_insert]
  split <;> rfl

theorem cache_hit_entry {virt : VirtualHandle}
    (hit : cacheHit (contexts.lookup client) virt attr = some cached) : cacheEntry contexts client (virt, attr) = some cached := by
  rw [cacheHit] at hit
  split at hit
  · cases hit
  · exact hit

end Contexts

structure Forgets (contexts next : Dict ClientContextId LogicalClientInstance) : Prop where
  handles : ∀ client virt object, objectBehind next client virt = some object → objectBehind contexts client virt = some object
  entries : ∀ client key cached, cacheEntry next client key = some cached → cacheEntry contexts client key = some cached

variable {contexts : Dict ClientContextId LogicalClientInstance}

theorem forgets_refl : Forgets contexts contexts :=
  ⟨fun _ _ _ held => held, fun _ _ _ held => held⟩

variable {client : ClientContextId}

variable {context : LogicalClientInstance}

theorem forgets_insert (next : LogicalClientInstance) (held : contexts.lookup client = some context)
    (handles : ∀ virt object, next.objectHandles.resolve virt = some object → context.objectHandles.resolve virt = some object)
    (entries : ∀ key cached, next.attrCache.lookup key = some cached → context.attrCache.lookup key = some cached) :
    Forgets contexts (contexts.insert client next) := by
  constructor
  · intro query virt object behind
    rw [object_behind_insert] at behind
    split at behind
    · rename_i same
      rw [same, objectBehind, held]
      exact handles virt object behind
    · exact behind
  · intro query key cached entry
    rw [cache_entry_insert] at entry
    split at entry
    · rename_i same
      rw [same, cacheEntry, held]
      exact entries key cached entry
    · exact entry

theorem retained_entry {object : VirtualHandle}
    (held : (dictRetain (fun key => key.1 != object) context.attrCache).lookup key = some cached) :
    key.1 ≠ object ∧ context.attrCache.lookup key = some cached := by
  rw [dict_lookup_retain] at held
  split at held
  · rename_i other
    exact ⟨bne_iff_ne.mp other, held⟩
  · cases held

theorem remove_resolve_some {map : HandleMap} {virt query : VirtualHandle} {backend : BackendHandle}
    (held : (map.remove virt).1.resolve query = some backend) : map.resolve query = some backend := by
  rw [HandleMap.remove] at held
  cases active : map.virtualToBackend.lookup virt with
  | some bound =>
    simp only [active, HandleMap.resolve, (detach_reverse_reads _ _ _).1, dict_lookup_erase] at held
    split at held
    · cases held
    · exact held
  | none =>
    cases suspended : map.suspendedVirtualToBackend.lookup virt with
    | some bound =>
      simp only [active, suspended, HandleMap.resolve, (detach_reverse_reads _ _ _).1] at held
      exact held
    | none =>
      simp only [active, suspended] at held
      exact held

variable {object : BackendHandle}

theorem evict_backend_object_forgets (held : contexts.lookup client = some context) :
    Forgets contexts (contexts.insert client (context.evictBackendObject object)) := by
  rw [LogicalClientInstance.evictBackendObject]
  cases bound : context.objectHandles.resolveBackend object with
  | none => exact forgets_insert context held (fun _ _ same => same) fun _ _ same => same
  | some virt =>
    apply forgets_insert _ held
    · intro query backend resolved
      exact remove_resolve_some resolved
    · intro key cached entry
      exact (retained_entry entry).2

theorem start_entry_none (maps : List (ClientContextId × HandleMap)) (client : ClientContextId) (key : VirtualHandle × UInt64) :
    cacheEntry (startContexts maps) client key = none := by
  induction maps with
  | nil =>
    rfl
  | cons entry rest ih =>
    rw [startContexts, cache_entry_insert]
    split
    · exact Finmap.lookup_empty key
    · exact ih

theorem publish_reads (state : CoalesceState) (request : ReadInFlight) (attr : UInt64) (result : Option NumberedValue) :
    (publish state request attr result).reads = state.reads := by
  rw [publish.eq_def]
  split
  · split <;> rfl
  · rfl

section Invariant

variable (initial : Dict ClientContextId LogicalClientInstance)

def EntryKept (state : CoalesceState) (client : ClientContextId) (key : VirtualHandle × UInt64) : Prop :=
  ∃ origin, state.origins.lookup (client, key) = some origin ∧ objectBehind initial client key.1 = some origin.object ∧
    state.acknowledged (origin.object, key.2) ≤ origin.number

structure SlotKept (state : CoalesceState) (object : BackendHandle) (slot : ReadSlot) : Prop where
  floor : slot.floor ≤ state.acknowledged (object, slot.attr)
  fresh : ∀ found, slot.phase.result = some found → slot.floor ≤ found.number

structure ReadKept (state : CoalesceState) (request : ReadInFlight) : Prop where
  bound : objectBehind initial request.client request.virt = some request.object
  slots : ∀ slot ∈ request.slots, SlotKept state request.object slot

structure WriteKept (state : CoalesceState) (request : WriteInFlight) : Prop where
  bound : objectBehind initial request.client request.virt = some request.object
  number : ∀ number, request.phase.number = some number → ∀ attr ∈ request.attrs, number ≤ state.lastWrite (request.object, attr)
  dropped : ∀ number, request.phase = .invalidated number → ∀ attr ∈ request.attrs, ∀ cached,
    cacheEntry state.contexts request.client (request.virt, attr) = some cached →
      ∃ origin, state.origins.lookup (request.client, request.virt, attr) = some origin ∧ number ≤ origin.number

structure CoalesceInv (state : CoalesceState) : Prop where
  mapped : ∀ client virt object, objectBehind state.contexts client virt = some object → objectBehind initial client virt = some object
  ordered : ∀ key, state.acknowledged key ≤ state.lastWrite key
  counted : ∀ key, state.lastWrite key ≤ state.count
  entries : ∀ client key cached, cacheEntry state.contexts client key = some cached → EntryKept initial state client key
  reads : ∀ request ∈ state.reads, ReadKept initial state request
  writes : ∀ request ∈ state.writes, WriteKept initial state request
  fresh : FreshReads state

structure Quiet (state next : CoalesceState) : Prop where
  contexts : Forgets state.contexts next.contexts
  origins : next.origins = state.origins
  acknowledged : next.acknowledged = state.acknowledged
  lastWrite : next.lastWrite = state.lastWrite
  count : next.count = state.count

variable {initial} {state : CoalesceState} (inv : CoalesceInv initial state)

include inv

theorem quiet_inv {next : CoalesceState} (quiet : Quiet state next)
    (reads : ∀ request ∈ next.reads, request ∈ state.reads ∨ ReadKept initial state request)
    (writes : ∀ request ∈ next.writes, request ∈ state.writes ∨ WriteKept initial next request)
    (fresh : FreshReads next) : CoalesceInv initial next where
  mapped client virt object behind := inv.mapped client virt object (quiet.contexts.handles client virt object behind)
  ordered key := by
    rw [quiet.acknowledged, quiet.lastWrite]
    exact inv.ordered key
  counted key := by
    rw [quiet.lastWrite, quiet.count]
    exact inv.counted key
  entries client key cached held := by
    rw [EntryKept, quiet.origins, quiet.acknowledged]
    exact inv.entries client key cached (quiet.contexts.entries client key cached held)
  reads request member := by
    have kept : ReadKept initial state request := (reads request member).elim (inv.reads request) id
    refine ⟨kept.bound, fun slot inside => ⟨?_, (kept.slots slot inside).fresh⟩⟩
    rw [quiet.acknowledged]
    exact (kept.slots slot inside).floor
  writes request member := by
    rcases writes request member with old | new
    · have kept := inv.writes request old
      refine ⟨kept.bound, ?_, ?_⟩
      · rw [quiet.lastWrite]
        exact kept.number
      · intro number phase attr written cached entry
        rw [quiet.origins]
        exact kept.dropped number phase attr written cached (quiet.contexts.entries _ _ cached entry)
    · exact new
  fresh := fresh

variable {request : ReadInFlight}

theorem lookup_slot_kept (kept : ReadKept initial state request) {slot : ReadSlot}
    (old : SlotKept state request.object slot) : SlotKept state request.object (lookupSlot state request slot) := by
  rw [lookupSlot]
  cases hit : cacheHit (state.contexts.lookup request.client) request.virt slot.attr with
  | none => exact ⟨old.floor, nofun⟩
  | some cached =>
    refine ⟨old.floor, fun found same => ?_⟩
    obtain ⟨origin, at_, object, current⟩ :=
      inv.entries request.client (request.virt, slot.attr) cached (cache_hit_entry hit)
    have mine : origin.object = request.object := Option.some.inj (object.symm.trans kept.bound)
    rw [mine] at current
    rw [← Option.some.inj same, at_]
    exact Nat.le_trans old.floor current

theorem fetch_slot_kept {withheld : List UInt64} {slot : ReadSlot} (old : SlotKept state object slot) :
    SlotKept state object (fetchSlot state object withheld slot) := by
  rw [fetchSlot]
  split
  · refine ⟨old.floor, fun found given => ?_⟩
    rw [providerValue] at given
    split at given
    · cases given
    · obtain ⟨value, -, rfl⟩ := Option.map_eq_some_iff.mp given
      exact Nat.le_trans old.floor (inv.ordered _)
  · exact old

variable {k : Nat}

theorem set_read_inv (kept : ReadKept initial state request) :
    CoalesceInv initial (setRead state k request) := by
  apply quiet_inv inv
  · exact ⟨forgets_refl, rfl, rfl, rfl, rfl⟩
  · exact forall_set (fun _ => .inl) (.inr kept)
  · exact fun _ member => .inl member
  · exact inv.fresh

theorem set_write_inv {request : WriteInFlight} {phase : WritePhase}
    (kept : WriteKept initial state { request with phase := phase }) : CoalesceInv initial (setWrite state k request phase) := by
  apply quiet_inv inv
  · exact ⟨forgets_refl, rfl, rfl, rfl, rfl⟩
  · exact fun _ member => .inl member
  · exact forall_set (fun _ => .inl) (.inr ⟨kept.bound, kept.number, kept.dropped⟩)
  · exact inv.fresh

omit inv in
theorem idle_write_kept {request : WriteInFlight} (bound : objectBehind initial request.client request.virt = some request.object)
    (idle : request.phase.number = none) : WriteKept initial state request := by
  refine ⟨bound, ?_, ?_⟩
  · intro number same
    rw [idle] at same
    cases same
  · intro number same
    rw [same] at idle
    cases idle

theorem put_inv (kept : ReadKept initial state request) {result : Option NumberedValue}
    (current : ∀ found ∈ result, isValueBearingSecret attr = false → PutCurrent state request attr found.number) :
    CoalesceInv initial (publish state request attr result) := by
  rw [publish.eq_def]
  split
  · rename_i found context held
    split
    · exact inv
    · rename_i open_
      obtain ⟨acknowledged, dropped⟩ := current found rfl (Bool.not_eq_true _ ▸ open_)
      have entry : ∀ query key cached, cacheEntry (state.contexts.insert request.client
          (context.putAttribute request.virt attr ⟨found.value, CkRv.ok.value⟩)) query key = some cached →
          (query, key) = (request.client, request.virt, attr) ∨ cacheEntry state.contexts query key = some cached := by
        intro query key cached stored
        rw [cache_entry_insert] at stored
        split at stored
        · rename_i same
          rw [LogicalClientInstance.putAttribute, dict_lookup_insert] at stored
          split at stored
          · rename_i mine
            rw [same, mine]
            exact .inl rfl
          · right
            rw [same, cacheEntry, held]
            exact stored
        · exact .inr stored
      refine ⟨?_, inv.ordered, inv.counted, ?_, ?_, ?_, inv.fresh⟩
      · intro query virt object behind
        rw [object_behind_insert] at behind
        apply inv.mapped query virt object
        split at behind
        · rename_i same
          rw [same, objectBehind, held]
          exact behind
        · exact behind
      · intro query key cached stored
        by_cases mine : (query, key) = (request.client, request.virt, attr)
        · rw [EntryKept, dict_lookup_insert, if_pos mine]
          obtain ⟨rfl, rfl⟩ := Prod.mk.inj mine
          exact ⟨_, rfl, kept.bound, acknowledged⟩
        · rw [EntryKept, dict_lookup_insert, if_neg mine]
          exact inv.entries query key cached ((entry query key cached stored).resolve_left mine)
      · intro other member
        exact ⟨(inv.reads other member).bound, fun slot inside =>
          ⟨((inv.reads other member).slots slot inside).floor, ((inv.reads other member).slots slot inside).fresh⟩⟩
      · intro other member
        have write := inv.writes other member
        refine ⟨write.bound, write.number, ?_⟩
        intro stamp phase asked written cached stored
        rw [dict_lookup_insert]
        split
        · rename_i mine
          obtain ⟨sameClient, rest⟩ := Prod.mk.inj mine
          obtain ⟨sameVirt, sameAttr⟩ := Prod.mk.inj rest
          refine ⟨_, rfl, dropped other member (Prod.ext sameClient sameVirt) (sameAttr ▸ written) stamp ?_⟩
          rw [phase]
          rfl
        · rename_i other_
          exact write.dropped stamp phase asked written cached ((entry _ _ cached stored).resolve_left other_)
  · exact inv

theorem perform_write_inv {request : WriteInFlight} : CoalesceInv initial (performWrite state request) := by
  have grows : ∀ key, state.lastWrite key ≤ (performWrite state request).lastWrite key := by
    intro key
    dsimp only [performWrite]
    split
    · exact Nat.le_succ_of_le (inv.counted key)
    · exact Nat.le_refl _
  refine ⟨inv.mapped, fun key => Nat.le_trans (inv.ordered key) (grows key), ?_, inv.entries, ?_, ?_, inv.fresh⟩
  · intro key
    dsimp only [performWrite]
    split
    · exact Nat.le_refl _
    · exact Nat.le_succ_of_le (inv.counted key)
  · intro other member
    exact ⟨(inv.reads other member).bound, fun slot inside =>
      ⟨((inv.reads other member).slots slot inside).floor, ((inv.reads other member).slots slot inside).fresh⟩⟩
  · intro other member
    have kept := inv.writes other member
    exact ⟨kept.bound, fun number phase attr written => Nat.le_trans (kept.number number phase attr written) (grows _), kept.dropped⟩

variable {number : Nat}

theorem acknowledge_inv {request : WriteInFlight} (kept : WriteKept initial state request)
    (phase : request.phase = .invalidated number) (others : OthersCurrent state request number) :
    CoalesceInv initial (acknowledge state request number) := by
  have stamped : request.phase.number = some number := by
    rw [phase]
    rfl
  have grows : ∀ key, state.acknowledged key ≤ (acknowledge state request number).acknowledged key := by
    intro key
    dsimp only [acknowledge]
    split
    · exact Nat.le_max_right _ _
    · exact Nat.le_refl _
  refine ⟨inv.mapped, ?_, inv.counted, ?_, ?_, ?_, inv.fresh⟩
  · rintro ⟨object, attr⟩
    dsimp only [acknowledge]
    split
    · rename_i mine
      rw [mine.1]
      exact Nat.max_le.mpr ⟨kept.number number stamped attr mine.2, inv.ordered _⟩
    · exact inv.ordered _
  · intro client key cached held
    obtain ⟨origin, at_, bound, current⟩ := inv.entries client key cached held
    refine ⟨origin, at_, bound, ?_⟩
    dsimp only [acknowledge]
    split
    · rename_i mine
      apply Nat.max_le.mpr ⟨?_, current⟩
      by_cases own : (client, key.1) = (request.client, request.virt)
      · obtain ⟨sameClient, sameVirt⟩ := Prod.mk.inj own
        have same : key = (request.virt, key.2) := Prod.ext sameVirt rfl
        rw [sameClient, same] at held at_
        obtain ⟨found, there, newer⟩ := kept.dropped number phase key.2 mine.2 cached held
        rw [at_] at there
        rw [Option.some.inj there]
        exact newer
      · obtain ⟨context, present, entry⟩ := Option.bind_eq_some_iff.mp held
        exact others client (Finmap.mem_keys.mpr (Finmap.mem_of_lookup_eq_some present)) context present key
          (Finmap.mem_keys.mpr (Finmap.mem_of_lookup_eq_some entry)) origin at_ mine.1 mine.2 own
    · exact current
  · intro other member
    have read := inv.reads other member
    exact ⟨read.bound, fun slot inside =>
      ⟨Nat.le_trans (read.slots slot inside).floor (grows _), (read.slots slot inside).fresh⟩⟩
  · intro other member
    exact ⟨(inv.writes other member).bound, (inv.writes other member).number, (inv.writes other member).dropped⟩

theorem invalidate_inv {request : WriteInFlight} (kept : WriteKept initial state request)
    (phase : request.phase = .written number) :
    CoalesceInv initial (setWrite (invalidateOwn state request) k request (.invalidated number)) := by
  have stamped : request.phase.number = some number := by
    rw [phase]
    rfl
  rw [invalidateOwn]
  cases held : Finmap.lookup request.client state.contexts with
  | none =>
    apply set_write_inv inv
    refine ⟨kept.bound, fun stamp same => kept.number stamp (stamped.trans same), ?_⟩
    intro stamp _ attr _ cached entry
    rw [cacheEntry, held] at entry
    cases entry
  | some context =>
    have gone : ∀ key cached, (context.invalidateAttributes request.virt).attrCache.lookup key = some cached →
        key.1 ≠ request.virt ∧ context.attrCache.lookup key = some cached := fun key cached =>
      retained_entry
    have forgets := forgets_insert (context.invalidateAttributes request.virt) held
      (fun _ _ same => same) fun key cached entry => (gone key cached entry).2
    apply quiet_inv inv
    · exact ⟨forgets, rfl, rfl, rfl, rfl⟩
    · exact fun _ member => .inl member
    · refine forall_set (fun _ => .inl) (.inr ⟨kept.bound, fun stamp same => kept.number stamp (stamped.trans same), ?_⟩)
      intro stamp _ attr _ cached entry
      have own : (context.invalidateAttributes request.virt).attrCache.lookup (request.virt, attr) = some cached := by
        rw [← entry]
        exact ((cache_entry_insert _).trans (if_pos rfl)).symm
      exact absurd rfl (gone _ cached own).1
    · exact inv.fresh

theorem answer_read_inv (kept : ReadKept initial state request) :
    CoalesceInv initial (setRead (recordServed state request) k { request with answered := true }) := by
  apply quiet_inv inv
  · exact ⟨forgets_refl, rfl, rfl, rfl, rfl⟩
  · exact forall_set (fun _ => .inl) (.inr ⟨kept.bound, kept.slots⟩)
  · exact fun _ member => .inl member
  · intro given member found value
    rcases List.mem_append.mp member with earlier | now
    · exact inv.fresh given earlier found value
    · obtain ⟨slot, inside, rfl⟩ := List.mem_map.mp now
      exact (kept.slots slot inside).fresh found value

variable {next : CoalesceState} {i : Nat}

theorem lookup_inv (taken : stepLookup state k i = some next) : CoalesceInv initial next := by
  obtain ⟨request, there, taken⟩ := Option.bind_eq_some_iff.mp taken
  obtain ⟨slot, inside, taken⟩ := Option.bind_eq_some_iff.mp taken
  split at taken <;> cases taken
  have kept := inv.reads request (List.mem_of_getElem? there)
  apply set_read_inv inv
  refine ⟨kept.bound, forall_set kept.slots ?_⟩
  exact lookup_slot_kept inv kept (kept.slots slot (List.mem_of_getElem? inside))

theorem step_put_inv (safe : CoalesceSafe state (.put k i)) (taken : stepPut state k i = some next) :
    CoalesceInv initial next := by
  obtain ⟨request, there, taken⟩ := Option.bind_eq_some_iff.mp taken
  obtain ⟨slot, inside, taken⟩ := Option.bind_eq_some_iff.mp taken
  split at taken <;> cases taken
  have kept := inv.reads request (List.mem_of_getElem? there)
  have slotKept := kept.slots slot (List.mem_of_getElem? inside)
  have published := put_inv inv kept (safe request there slot inside)
  have still : ReadKept initial (publish state request slot.attr slot.phase.result) request := by
    apply published.reads request
    rw [publish_reads]
    exact List.mem_of_getElem? there
  apply set_read_inv published
  refine ⟨still.bound, forall_set still.slots ?_⟩
  exact ⟨(still.slots slot (List.mem_of_getElem? inside)).floor, slotKept.fresh⟩

theorem step_write_inv {rv : CkRv} (taken : stepWrite state k rv = some next) :
    CoalesceInv initial next := by
  obtain ⟨request, there, taken⟩ := Option.bind_eq_some_iff.mp taken
  have kept := inv.writes request (List.mem_of_getElem? there)
  split at taken
  · cases taken
  · split at taken
    · cases taken
      exact set_write_inv inv (idle_write_kept kept.bound rfl)
    · split at taken <;> cases taken
      apply set_write_inv (perform_write_inv inv)
      refine ⟨kept.bound, ?_, ?_⟩
      · intro number same attr written
        cases same
        exact Nat.le_of_eq (if_pos ⟨rfl, written⟩).symm
      · intro number same
        cases same

theorem step_invalidate_inv (taken : stepInvalidate state k = some next) : CoalesceInv initial next := by
  obtain ⟨request, there, taken⟩ := Option.bind_eq_some_iff.mp taken
  split at taken <;> cases taken
  rename_i number phase
  exact invalidate_inv inv (inv.writes request (List.mem_of_getElem? there)) phase

theorem step_answer_write_inv (safe : CoalesceSafe state (.answerWrite k))
    (taken : stepAnswerWrite state k = some next) : CoalesceInv initial next := by
  obtain ⟨request, there, taken⟩ := Option.bind_eq_some_iff.mp taken
  have kept := inv.writes request (List.mem_of_getElem? there)
  split at taken <;> cases taken
  · exact set_write_inv inv (idle_write_kept kept.bound rfl)
  · rename_i number phase
    have others := safe request there number (by rw [phase]; rfl)
    exact set_write_inv (acknowledge_inv inv kept phase others) (idle_write_kept kept.bound rfl)

theorem coalesce_step_inv {action : CoalesceAction} (safe : CoalesceSafe state action)
    (taken : coalesceStep state action = some next) : CoalesceInv initial next := by
  cases action with
  | startRead client virt attrs =>
    obtain ⟨object, behind, rfl⟩ := Option.map_eq_some_iff.mp taken
    apply quiet_inv inv
    · exact ⟨forgets_refl, rfl, rfl, rfl, rfl⟩
    · intro request member
      rcases List.mem_append.mp member with old | new
      · exact .inl old
      · right
        rw [List.mem_singleton.mp new]
        refine ⟨inv.mapped client virt object behind, fun slot inside => ?_⟩
        obtain ⟨attr, -, rfl⟩ := List.mem_map.mp inside
        exact ⟨Nat.le_refl _, nofun⟩
    · exact fun _ member => .inl member
    · exact inv.fresh
  | lookup k i => exact lookup_inv inv taken
  | fetch k withheld =>
    obtain ⟨request, there, taken⟩ := Option.bind_eq_some_iff.mp taken
    split at taken <;> cases taken
    have kept := inv.reads request (List.mem_of_getElem? there)
    apply set_read_inv inv
    refine ⟨kept.bound, fun slot inside => ?_⟩
    obtain ⟨before, member, rfl⟩ := List.mem_map.mp inside
    exact fetch_slot_kept inv (kept.slots before member)
  | put k i => exact step_put_inv inv safe taken
  | answerRead k =>
    obtain ⟨request, there, taken⟩ := Option.bind_eq_some_iff.mp taken
    split at taken <;> cases taken
    exact answer_read_inv inv (inv.reads request (List.mem_of_getElem? there))
  | startWrite client virt template =>
    obtain ⟨object, behind, rfl⟩ := Option.map_eq_some_iff.mp taken
    apply quiet_inv inv
    · exact ⟨forgets_refl, rfl, rfl, rfl, rfl⟩
    · exact fun _ member => .inl member
    · intro request member
      rcases List.mem_append.mp member with old | new
      · exact .inl old
      · right
        rw [List.mem_singleton.mp new]
        exact idle_write_kept (inv.mapped client virt object behind) rfl
    · exact inv.fresh
  | write k rv => exact step_write_inv inv taken
  | invalidate k => exact step_invalidate_inv inv taken
  | answerWrite k => exact step_answer_write_inv inv safe taken
  | destroy client virt =>
    obtain ⟨object, -, rfl⟩ := Option.map_eq_some_iff.mp taken
    exact quiet_inv inv ⟨forgets_refl, rfl, rfl, rfl, rfl⟩ (fun _ member => .inl member) (fun _ member => .inl member) inv.fresh
  | evict client object =>
    rw [coalesceStep] at taken
    split at taken
    · obtain ⟨context, held, rfl⟩ := Option.map_eq_some_iff.mp taken
      exact quiet_inv inv ⟨evict_backend_object_forgets held, rfl, rfl, rfl, rfl⟩
        (fun _ member => .inl member) (fun _ member => .inl member) inv.fresh
    · cases taken

end Invariant

theorem coalesce_inv_start {maps : List (ClientContextId × HandleMap)} {values : BackendHandle × UInt64 → Option Bytes} :
    CoalesceInv (startContexts maps) (CoalesceState.start maps values) where
  mapped _ _ _ behind := behind
  ordered _ := Nat.le_refl _
  counted _ := Nat.le_refl _
  entries client key cached held := by
    rw [CoalesceState.start, start_entry_none] at held
    cases held
  reads _ member := by cases member
  writes _ member := by cases member
  fresh _ member := by cases member

theorem coalesced_reads_fresh (maps : List (ClientContextId × HandleMap)) (values : BackendHandle × UInt64 → Option Bytes)
    (actions : List CoalesceAction) (final : CoalesceState)
    (safe : along coalesceStep CoalesceSafe (CoalesceState.start maps values) actions)
    (ran : exec coalesceStep (CoalesceState.start maps values) actions = some final) : FreshReads final :=
  (exec_invariant_along coalesceStep CoalesceSafe (CoalesceInv (startContexts maps))
    (fun _ _ _ inv => coalesce_step_inv inv) coalesce_inv_start safe ran).fresh

def sharedObject : List (ClientContextId × HandleMap) :=
  [(0, (HandleMap.new.insert ⟨32⟩).1), (1, (HandleMap.new.insert ⟨32⟩).1)]

def oldLabel : BackendHandle × UInt64 → Option Bytes := fun key => if key = (⟨32⟩, 3) then some [111] else none

def readLabel (client : ClientContextId) (k : Nat) : List CoalesceAction :=
  [.startRead client ⟨1⟩ [3], .lookup k 0, .fetch k [], .put k 0, .answerRead k]

def writeLabel (client : ClientContextId) (k : Nat) : List CoalesceAction :=
  [.startWrite client ⟨1⟩ [(3, [110])], .write k .ok, .invalidate k, .answerWrite k]

theorem coalesced_reads_fresh_own : ∃ final, exec coalesceStep (CoalesceState.start sharedObject oldLabel)
    (readLabel 0 0 ++ writeLabel 0 0 ++ readLabel 1 1) = some final ∧ FreshReads final := by
  obtain ⟨final, ran⟩ := Option.isSome_iff_exists.mp (by decide +kernel : (exec coalesceStep
    (CoalesceState.start sharedObject oldLabel) (readLabel 0 0 ++ writeLabel 0 0 ++ readLabel 1 1)).isSome = true)
  exact ⟨final, ran, coalesced_reads_fresh sharedObject oldLabel _ final (by decide +kernel) ran⟩

-- Context 0 alone: its read fetches the label before its own write and stores it after.
def straddlingRead : List CoalesceAction :=
  [.startRead 0 ⟨1⟩ [3], .lookup 0 0, .fetch 0 []] ++ writeLabel 0 0 ++ [.put 0 0, .answerRead 0, .startRead 0 ⟨1⟩ [3], .lookup 1 0, .answerRead 1]

theorem own_read_stale : ∃ final, exec coalesceStep (CoalesceState.start sharedObject oldLabel) straddlingRead = some final ∧
    final.values (⟨32⟩, 3) = some [110] ∧ ⟨⟨32⟩, 3, 1, some ⟨[111], 0⟩⟩ ∈ final.served ∧ ¬ FreshReads final := by
  have outcome : (exec coalesceStep (CoalesceState.start sharedObject oldLabel) straddlingRead).map
      (fun final => (final.values (⟨32⟩, 3), final.served)) =
      some (some [110], [⟨⟨32⟩, 3, 0, some ⟨[111], 0⟩⟩, ⟨⟨32⟩, 3, 1, some ⟨[111], 0⟩⟩]) := by decide +kernel
  obtain ⟨final, ran, same⟩ := Option.map_eq_some_iff.mp outcome
  obtain ⟨label, served⟩ := Prod.mk.inj same
  have answered : ⟨⟨32⟩, 3, 1, some ⟨[111], 0⟩⟩ ∈ final.served := by
    rw [served]
    decide
  refine ⟨final, ran, label, answered, fun fresh => ?_⟩
  have stale := fresh _ answered ⟨[111], 0⟩ rfl
  cases stale

end Pkcs11Proxy.Server
