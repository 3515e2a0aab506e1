import Pkcs11Proxy.Server.CloseSession
import Pkcs11Proxy.Server.HandleReads

namespace Pkcs11Proxy.Server

open Lib

namespace LogicalClientInstance

-- The registration section of a minting handler. The session is not looked up again.
def registerSessionObjectHandle (context : LogicalClientInstance) (session : VirtualHandle) (backend : BackendHandle) (isToken : Bool)
    (isPrivate : Option Bool) : LogicalClientInstance × VirtualHandle :=
  let (handles, object) := context.objectHandles.insert backend
  let mapped := { context with objectHandles := handles }
  let recorded := if isToken then mapped else mapped.recordSessionObject session object
  ({ recorded with
      createdObjects := insert object recorded.createdObjects
      objectPrivate := match isPrivate with
        | some declared => recorded.objectPrivate.insert object declared
        | none => recorded.objectPrivate }, object)

def evictBackendObject (context : LogicalClientInstance) (backend : BackendHandle) : LogicalClientInstance :=
  match context.objectHandles.resolveBackend backend with
  | some object => context.destroyObject object
  | none => context

def indexedObjects (context : LogicalClientInstance) (session : VirtualHandle) : List VirtualHandle :=
  (context.sessionObjects.lookup session).getD []

end LogicalClientInstance

structure SameObjects (context next : LogicalClientInstance) : Prop where
  handles : next.objectHandles = context.objectHandles
  index : next.sessionObjects = context.sessionObjects
  created : next.createdObjects = context.createdObjects
  isPrivate : next.objectPrivate = context.objectPrivate

structure ObjectsEvicted (context next : LogicalClientInstance) (objects : List VirtualHandle) : Prop where
  well : HandleWell next.objectHandles
  counter : next.objectHandles.nextId = context.objectHandles.nextId
  resolve : ∀ query, next.objectHandles.resolve query = if query ∈ objects then none else context.objectHandles.resolve query
  created : ∀ query, query ∈ next.createdObjects ↔ query ∈ context.createdObjects ∧ query ∉ objects
  isPrivate : ∀ query, next.objectPrivate.lookup query = if query ∈ objects then none else context.objectPrivate.lookup query

theorem evict_object_spec {context : LogicalClientInstance} (well : HandleWell context.objectHandles) (object : VirtualHandle) :
    ObjectsEvicted context (context.evictObject object) [object] := by
  obtain ⟨counter, updated, removed⟩ := remove_spec well object
  refine ⟨removed, counter, fun query => ?_, fun query => ?_, fun query => ?_⟩
  · simp only [List.mem_singleton]
    exact updated.resolve query
  · rw [List.mem_singleton]
    exact Finset.mem_erase.trans And.comm
  · simp only [List.mem_singleton]
    exact dict_lookup_erase

theorem evicted_trans {middle last : LogicalClientInstance} {first : LogicalClientInstance} {earlier later : List VirtualHandle}
    (before : ObjectsEvicted first middle earlier) (after : ObjectsEvicted middle last later) :
    ObjectsEvicted first last (earlier ++ later) := by
  refine ⟨after.well, after.counter.trans before.counter, fun query => ?_, fun query => ?_, fun query => ?_⟩
  · rw [after.resolve, before.resolve]
    by_cases late : query ∈ later <;> by_cases early : query ∈ earlier <;> simp [late, early]
  · rw [after.created, before.created, List.mem_append, not_or, and_assoc]
  · rw [after.isPrivate, before.isPrivate]
    by_cases late : query ∈ later <;> by_cases early : query ∈ earlier <;> simp [late, early]

theorem evicted_nothing (context next : LogicalClientInstance) (well : HandleWell context.objectHandles) (same : SameObjects context next) :
    ObjectsEvicted context next [] := by
  refine ⟨?_, congrArg _ same.handles, fun query => ?_, fun query => ?_, fun query => ?_⟩
  · rw [same.handles]
    exact well
  · rw [same.handles, if_neg List.not_mem_nil]
  · rw [same.created]
    exact (and_iff_left List.not_mem_nil).symm
  · rw [same.isPrivate, if_neg List.not_mem_nil]

theorem evict_objects_spec {objects : List VirtualHandle} (context : LogicalClientInstance) (well : HandleWell context.objectHandles) :
    ObjectsEvicted context (objects.foldl LogicalClientInstance.evictObject context) objects ∧
      (objects.foldl LogicalClientInstance.evictObject context).sessionObjects = context.sessionObjects := by
  induction objects generalizing context with
  | nil => exact ⟨evicted_nothing context context well ⟨rfl, rfl, rfl, rfl⟩, rfl⟩
  | cons object rest ih =>
    have first := evict_object_spec well object
    obtain ⟨remaining, index⟩ := ih (context.evictObject object) first.well
    exact ⟨evicted_trans first remaining, index⟩

variable {context : LogicalClientInstance} {backend : BackendHandle}

theorem evict_backend_object_spec (well : HandleWell context.objectHandles) :
    (context.evictBackendObject backend).sessionObjects = context.sessionObjects ∧
      ∃ objects, ObjectsEvicted context (context.evictBackendObject backend) objects ∧
        ∀ object ∈ objects, context.objectHandles.resolve object = some backend := by
  rw [LogicalClientInstance.evictBackendObject]
  cases bound : context.objectHandles.resolveBackend backend with
  | none => exact ⟨rfl, [], evicted_nothing context context well ⟨rfl, rfl, rfl, rfl⟩, fun _ member => nomatch member⟩
  | some object =>
    have evicted := evict_object_spec well object
    refine ⟨rfl, [object], ⟨evicted.well, evicted.counter, evicted.resolve, evicted.created, evicted.isPrivate⟩, fun query member => ?_⟩
    rw [List.mem_singleton.mp member]
    exact (well.inverse object backend).mpr bound

variable {session : VirtualHandle}

theorem evict_session_objects (well : HandleWell context.objectHandles) :
    ObjectsEvicted context (context.evictSession session) (context.indexedObjects session) ∧
      ∀ query, (context.evictSession session).sessionObjects.lookup query =
        if query = session then none else context.sessionObjects.lookup query := by
  rw [LogicalClientInstance.evictSession, LogicalClientInstance.evictSessionObjects, LogicalClientInstance.indexedObjects]
  cases listed : Finmap.lookup session context.sessionObjects with
  | none =>
    simp only [LogicalClientInstance.dropMessageOperations, listed]
    refine ⟨evicted_nothing context _ well ⟨rfl, rfl, rfl, rfl⟩, fun query => ?_⟩
    split
    · rename_i same
      rw [same]
      exact listed
    · rfl
  | some objects =>
    simp only [LogicalClientInstance.dropMessageOperations, listed]
    obtain ⟨swept, index⟩ := evict_objects_spec
      { context with
          sessionSlots := context.sessionSlots.erase session
          sessionHandles := (context.sessionHandles.remove session).1
          messageOperations := dictRetain (fun key => key.1 != session) context.messageOperations
          sessionObjects := context.sessionObjects.erase session } well
    refine ⟨⟨swept.well, swept.counter, swept.resolve, swept.created, swept.isPrivate⟩, fun query => ?_⟩
    rw [index]
    exact dict_lookup_erase

theorem remove_session_objects (well : HandleWell context.objectHandles) :
    ObjectsEvicted context (context.removeSession session).1 (context.indexedObjects session) ∧
      ∀ query, (context.removeSession session).1.sessionObjects.lookup query =
        if query = session then none else context.sessionObjects.lookup query := by
  obtain ⟨swept, index⟩ := evict_session_objects well
  rw [LogicalClientInstance.removeSession]
  split
  · split
    · exact ⟨swept, index⟩
    · exact ⟨⟨swept.well, swept.counter, swept.resolve, swept.created, swept.isPrivate⟩, index⟩
  · exact ⟨swept, index⟩

variable {virt : VirtualHandle}

theorem complete_close_objects (well : HandleWell context.objectHandles) {completion : CloseSessionCompletion} :
    (SameObjects context (context.completeCloseSession virt backend completion) ∧
        (completion = .terminal → context.sessionHandles.suspendedBackend virt ≠ some backend)) ∨
      completion = .terminal ∧ ObjectsEvicted context (context.completeCloseSession virt backend completion) (context.indexedObjects virt) ∧
        ∀ query, (context.completeCloseSession virt backend completion).sessionObjects.lookup query =
          if query = virt then none else context.sessionObjects.lookup query := by
  by_cases stale : context.sessionHandles.suspendedBackend virt ≠ some backend
  · have kept : context.completeCloseSession virt backend completion = context := by
      cases completion <;> exact if_pos stale
    rw [kept]
    exact .inl ⟨⟨rfl, rfl, rfl, rfl⟩, fun _ => stale⟩
  · cases completion with
    | terminal =>
      have removed : context.completeCloseSession virt backend .terminal = (context.removeSession virt).1 := if_neg stale
      rw [removed]
      exact .inr ⟨rfl, remove_session_objects well⟩
    | transient =>
      rw [LogicalClientInstance.completeCloseSession, if_neg stale]
      dsimp only
      split <;> exact .inl ⟨⟨rfl, rfl, rfl, rfl⟩, nofun⟩
    | ambiguous =>
      rw [LogicalClientInstance.completeCloseSession, if_neg stale]
      exact .inl ⟨⟨rfl, rfl, rfl, rfl⟩, nofun⟩

theorem insert_reads {map : HandleMap} (well : HandleWell map) (backend : BackendHandle) (room : map.nextId.toNat + 1 < 2 ^ 64) :
    HandleWell (map.insert backend).1 ∧ map.nextId.toNat ≤ (map.insert backend).1.nextId.toNat ∧
      (map.insert backend).2.raw.toNat < (map.insert backend).1.nextId.toNat ∧
      (map.resolve (map.insert backend).2 = some backend ∨ map.nextId.toNat ≤ (map.insert backend).2.raw.toNat) ∧
      ∀ query, (map.insert backend).1.resolve query = if query = (map.insert backend).2 then some backend else map.resolve query := by
  cases bound : map.resolveBackend backend with
  | none =>
    obtain ⟨virt, grown, -, updated, inserted⟩ := insert_spec well bound room
    rw [virt]
    exact ⟨inserted, by omega, by change map.nextId.toNat < _; omega, .inr (Nat.le_refl _), updated.resolve⟩
  | some existing =>
    have kept : map.insert backend = (map, existing) := by
      rw [HandleMap.resolveBackend] at bound
      rw [HandleMap.insert, bound]
    have held := (well.inverse existing backend).mpr bound
    rw [kept]
    refine ⟨well, Nat.le_refl _, well.below existing (active_not_gone held), .inl held, fun query => ?_⟩
    split
    · rename_i same
      rw [same]
      exact held
    · rfl

theorem mapped_keeps {map next : HandleMap} (well : HandleWell map)
    (chosen : map.resolve virt = some backend ∨ map.nextId.toNat ≤ virt.raw.toNat)
    (resolve : ∀ query, next.resolve query = if query = virt then some backend else map.resolve query) (query : VirtualHandle)
    (object : BackendHandle) (held : map.resolve query = some object) : next.resolve query = some object := by
  rw [resolve]
  split
  · rename_i same
    subst same
    rcases chosen with mine | unissued
    · rw [← held, mine]
    · have below := well.below _ (active_not_gone held)
      omega
  · exact held

structure ObjectRegistered (context next : LogicalClientInstance) (session virt : VirtualHandle) (backend : BackendHandle) (isToken : Bool) :
    Prop where
  well : HandleWell next.objectHandles
  counter : context.objectHandles.nextId.toNat ≤ next.objectHandles.nextId.toNat
  issued : virt.raw.toNat < next.objectHandles.nextId.toNat
  chosen : context.objectHandles.resolve virt = some backend ∨ context.objectHandles.nextId.toNat ≤ virt.raw.toNat
  resolve : ∀ query, next.objectHandles.resolve query = if query = virt then some backend else context.objectHandles.resolve query
  created : ∀ query, query ≠ virt → (query ∈ next.createdObjects ↔ query ∈ context.createdObjects)
  isPrivate : ∀ query, query ≠ virt → next.objectPrivate.lookup query = context.objectPrivate.lookup query
  index : ∀ query, next.sessionObjects.lookup query =
    if isToken = false ∧ query = session then some (context.indexedObjects session ++ [virt]) else context.sessionObjects.lookup query

theorem register_session_object_spec (well : HandleWell context.objectHandles)
    (room : context.objectHandles.nextId.toNat + 1 < 2 ^ 64) (session : VirtualHandle) (backend : BackendHandle) (isToken : Bool)
    (isPrivate : Option Bool) :
    ObjectRegistered context (context.registerSessionObjectHandle session backend isToken isPrivate).1 session
      (context.registerSessionObjectHandle session backend isToken isPrivate).2 backend isToken := by
  obtain ⟨inserted, grown, issued, chosen, resolve⟩ := insert_reads well backend room
  have others : ∀ query, query ≠ (context.objectHandles.insert backend).2 →
      (query ∈ insert (context.objectHandles.insert backend).2 context.createdObjects ↔ query ∈ context.createdObjects) :=
    fun query other => Finset.mem_insert.trans (or_iff_right other)
  have marked : ∀ query, query ≠ (context.objectHandles.insert backend).2 → ∀ declared,
      Finmap.lookup query (context.objectPrivate.insert (context.objectHandles.insert backend).2 declared) =
        context.objectPrivate.lookup query :=
    fun query other declared => dict_lookup_insert.trans (if_neg other)
  cases isToken with
  | true =>
    refine ⟨inserted, grown, issued, chosen, resolve, others, fun query other => ?_, fun query => ?_⟩
    · cases isPrivate with
      | none => rfl
      | some declared => exact marked query other declared
    · exact (if_neg fun both => by cases both.1).symm
  | false =>
    refine ⟨inserted, grown, issued, chosen, resolve, others, fun query other => ?_, fun query => ?_⟩
    · cases isPrivate with
      | none => rfl
      | some declared => exact marked query other declared
    · refine dict_lookup_insert.trans ?_
      by_cases same : query = session
      · rw [if_pos same, if_pos ⟨rfl, same⟩]
        rfl
      · rw [if_neg same, if_neg fun both => same both.2]

def CloseSystem.terminalSession (client : CloseSystem) (action : CloseAction) : Option VirtualHandle :=
  match action with
  | .settle k =>
    client.transitions[k]?.bind fun transition =>
      if transition.completesAs k action = some .terminal then some transition.virtualSession else none
  | _ => none

theorem close_step_objects {client next : CloseSystem} (well : HandleWell client.context.objectHandles) {action : CloseAction}
    (taken : closeStep client action = some next) :
    (SameObjects client.context next.context ∧ ∀ session, client.terminalSession action = some session →
        ∃ transition ∈ client.transitions, transition.virtualSession = session ∧ transition.settled = false ∧ transition.dropped = false ∧
          client.context.sessionHandles.suspendedBackend session ≠ some transition.backendHandle) ∨
      ∃ session, client.terminalSession action = some session ∧
        ObjectsEvicted client.context next.context (client.context.indexedObjects session) ∧
        ∀ query, next.context.sessionObjects.lookup query =
          if query = session then none else client.context.sessionObjects.lookup query := by
  cases close_step_move taken with
  | registered | loggedIn | locked | missed | begun | marked | closed | released =>
    exact .inl ⟨⟨rfl, rfl, rfl, rfl⟩, nofun⟩
  | settled at_ unsettled undropped answer =>
    rename_i before
    rcases complete_close_objects well with ⟨same, stale⟩ | ⟨terminal, evicted, index⟩
    · refine .inl ⟨same, fun session terminal => ?_⟩
      rw [CloseSystem.terminalSession, at_, Option.bind_some] at terminal
      split at terminal
      · rename_i completes
        cases terminal
        rw [CloseSessionTransition.completesAs, if_pos rfl, answer] at completes
        exact ⟨before, List.mem_of_getElem? at_, rfl, unsettled, undropped, stale (Option.some.inj completes)⟩
      · cases terminal
    · refine .inr ⟨before.virtualSession, ?_, evicted, index⟩
      rw [CloseSystem.terminalSession, at_, Option.bind_some, if_pos]
      rw [CloseSessionTransition.completesAs, if_pos rfl, answer, Option.map_some, terminal]
  | dropped =>
    rcases complete_close_objects well with ⟨same, -⟩ | ⟨terminal, -⟩
    · exact .inl ⟨same, nofun⟩
    · split at terminal <;> cases terminal

end Pkcs11Proxy.Server
