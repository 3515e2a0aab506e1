import Pkcs11Proxy.Server.CloseSession
import Pkcs11Proxy.Server.HandleReads

namespace Pkcs11Proxy.Server

open Lib Pkcs11Proxy.Types

structure SameSessions (context next : LogicalClientInstance) : Prop where
  handles : next.sessionHandles = context.sessionHandles
  slots : next.sessionSlots = context.sessionSlots
  login : next.loginState = context.loginState
  messages : next.messageOperations = context.messageOperations

theorem evicted_objects_sessions (objects : List VirtualHandle) (context : LogicalClientInstance) :
    SameSessions context (objects.foldl LogicalClientInstance.evictObject context) := by
  induction objects generalizing context with
  | nil => exact ⟨rfl, rfl, rfl, rfl⟩
  | cons object rest ih =>
    have step := ih (context.evictObject object)
    exact ⟨step.handles, step.slots, step.login, step.messages⟩

theorem evicted_session_sessions {context : LogicalClientInstance} {session : VirtualHandle} :
    SameSessions context (context.evictSessionObjects session) := by
  rw [LogicalClientInstance.evictSessionObjects]
  split
  · rename_i objects _
    have step := evicted_objects_sessions objects { context with sessionObjects := context.sessionObjects.erase session }
    exact ⟨step.handles, step.slots, step.login, step.messages⟩
  · exact ⟨rfl, rfl, rfl, rfl⟩

variable {session : VirtualHandle} {map next : HandleMap} {active : Option BackendHandle}
  {before after : CloseSessionTransition} {k : Nat}

variable {context : LogicalClientInstance}

theorem message_operations_dropped {key : VirtualHandle × MessageOperation} :
    (context.dropMessageOperations session).messageOperations.lookup key =
      if key.1 = session then none else context.messageOperations.lookup key := by
  rw [LogicalClientInstance.dropMessageOperations, dict_lookup_retain]
  by_cases same : key.1 = session
  · simp [same]
  · simp [same]

structure SessionRemoved (context next : LogicalClientInstance) (session : VirtualHandle) : Prop where
  handles : next.sessionHandles = (context.sessionHandles.remove session).1
  slots : next.sessionSlots = context.sessionSlots.erase session
  messages : ∀ key, next.messageOperations.lookup key = if key.1 = session then none else context.messageOperations.lookup key
  login : ∀ slot, next.loginState.lookup slot =
    if context.sessionSlots.lookup session = some slot ∧ next.hasSessionOn slot = false then none else context.loginState.lookup slot

theorem evict_session_reads :
    (context.evictSession session).sessionHandles = (context.sessionHandles.remove session).1 ∧
      (context.evictSession session).sessionSlots = context.sessionSlots.erase session ∧
      (context.evictSession session).loginState = context.loginState ∧
      ∀ key, (context.evictSession session).messageOperations.lookup key =
        if key.1 = session then none else context.messageOperations.lookup key := by
  rw [LogicalClientInstance.evictSession]
  obtain ⟨handles, slots, login, messages⟩ := evicted_session_sessions
  refine ⟨handles, slots, login, fun key => ?_⟩
  rw [messages]
  exact message_operations_dropped

theorem remove_session_removed (context : LogicalClientInstance) (session : VirtualHandle) :
    SessionRemoved context (context.removeSession session).1 session := by
  obtain ⟨handles, slots, login, messages⟩ := evict_session_reads
  rw [LogicalClientInstance.removeSession]
  cases found : Finmap.lookup session context.sessionSlots with
  | none =>
    refine ⟨handles, slots, messages, fun slot => ?_⟩
    rw [found, if_neg fun both => Option.some_ne_none slot both.1.symm]
    exact congrArg _ login
  | some held =>
    dsimp only
    split
    · rename_i remains
      refine ⟨handles, slots, messages, fun slot => ?_⟩
      rw [found, if_neg ?_]
      · exact congrArg _ login
      · rintro ⟨same, gone⟩
        rw [← Option.some.inj same, remains] at gone
        cases gone
    · rename_i last
      rw [Bool.not_eq_true] at last
      refine ⟨handles, slots, messages, fun slot => dict_lookup_erase.trans ?_⟩
      rw [login, found]
      by_cases same : slot = held
      · subst same
        rw [if_pos rfl, if_pos ⟨rfl, last⟩]
      · rw [if_neg same, if_neg fun both => same (Option.some.inj both.1).symm]

variable {slot : BackendSlotId}

theorem has_session_iff :
    context.hasSessionOn slot = true ↔ ∃ virt, context.sessionSlots.lookup virt = some slot := by
  rw [LogicalClientInstance.hasSessionOn, decide_eq_true_eq, mem_dict_values]

structure Completed (context next : LogicalClientInstance) (virt : VirtualHandle) (active suspended : Option BackendHandle) : Prop where
  updated : Updated context.sessionHandles next.sessionHandles virt active suspended
  well : HandleWell next.sessionHandles
  counter : next.sessionHandles.nextId = context.sessionHandles.nextId
  slots : ∀ query, query ≠ virt → next.sessionSlots.lookup query = context.sessionSlots.lookup query
  registered : ∀ slot, next.sessionSlots.lookup virt = some slot → active ≠ none ∨ suspended ≠ none
  messages : ∀ key : VirtualHandle × MessageOperation, key.1 ≠ virt → next.messageOperations.lookup key = context.messageOperations.lookup key
  login : ∀ slot, next.loginState.lookup slot =
    if context.sessionSlots.lookup virt = some slot ∧ next.hasSessionOn slot = false then none else context.loginState.lookup slot

section Completion

variable {context : LogicalClientInstance} {virt : VirtualHandle} {backend : BackendHandle}
variable (well : HandleWell context.sessionHandles) (suspended : context.sessionHandles.suspendedBackend virt = some backend)

theorem login_of_kept_slots {next : LogicalClientInstance} (slots : next.sessionSlots = context.sessionSlots)
    (login : next.loginState = context.loginState) (slot : BackendSlotId) : next.loginState.lookup slot =
      if context.sessionSlots.lookup virt = some slot ∧ next.hasSessionOn slot = false then none else context.loginState.lookup slot := by
  rw [login, if_neg]
  rintro ⟨mine, none⟩
  have some := has_session_iff.mpr ⟨virt, by rw [slots]; exact mine⟩
  rw [none] at some
  cases some

theorem messages_dropped_kept (key : VirtualHandle × MessageOperation) (other : key.1 ≠ virt) :
    (context.dropMessageOperations virt).messageOperations.lookup key = context.messageOperations.lookup key := by
  rw [message_operations_dropped, if_neg other]

include well suspended

theorem suspended_inactive : context.sessionHandles.resolve virt = none := by
  rcases well.apart virt with inactive | none
  · exact inactive
  · rw [suspended] at none
    cases none

theorem complete_terminal :
    Completed context (context.completeCloseSession virt backend .terminal) virt none none := by
  have removed := remove_session_removed context virt
  obtain ⟨counter, updated, kept⟩ := remove_spec well virt
  rw [LogicalClientInstance.completeCloseSession, if_neg (not_not_intro suspended)]
  refine ⟨?_, ?_, ?_, fun query other => ?_, fun slot found => ?_, fun key other => ?_, removed.login⟩
  · rw [removed.handles]
    exact updated
  · rw [removed.handles]
    exact kept
  · rw [removed.handles]
    exact counter
  · rw [removed.slots, dict_lookup_erase, if_neg other]
  · rw [removed.slots, dict_lookup_erase, if_pos rfl] at found
    cases found
  · rw [removed.messages, if_neg other]

theorem updated_self : Updated context.sessionHandles context.sessionHandles virt none (some backend) := by
  refine ⟨fun query => ?_, fun query => ?_⟩
  · split
    · rename_i same
      rw [same]
      exact suspended_inactive well suspended
    · rfl
  · split
    · rename_i same
      rw [same]
      exact suspended
    · rfl

theorem complete_ambiguous :
    Completed context (context.completeCloseSession virt backend .ambiguous) virt none (some backend) := by
  rw [LogicalClientInstance.completeCloseSession, if_neg (not_not_intro suspended)]
  exact ⟨updated_self well suspended, well, rfl, fun _ _ => rfl, fun _ _ => .inr (Option.some_ne_none _),
    messages_dropped_kept, login_of_kept_slots rfl rfl⟩

theorem complete_transient_free (free : context.sessionHandles.resolveBackend backend = none) :
    Completed context (context.completeCloseSession virt backend .transient) virt (some backend) none := by
  obtain ⟨counter, updated, kept⟩ := reactivate_spec well suspended free
  have reactivated : (context.sessionHandles.reactivateSuspended virt backend).2 = true := by
    have unbound : context.sessionHandles.backendToVirtual.lookup backend = none := free
    rw [HandleMap.reactivateSuspended, if_neg (not_not_intro suspended), unbound]
    rfl
  rw [LogicalClientInstance.completeCloseSession, if_neg (not_not_intro suspended)]
  dsimp only
  rw [if_pos reactivated]
  exact ⟨updated, kept, counter, fun _ _ => rfl, fun _ _ => .inl (Option.some_ne_none _), fun _ _ => rfl,
    login_of_kept_slots rfl rfl⟩

theorem complete_transient_bound {other : VirtualHandle} (bound : context.sessionHandles.resolveBackend backend = some other) :
    Completed context (context.completeCloseSession virt backend .transient) virt none (some backend) := by
  have refused := reactivate_refused well suspended bound
  rw [LogicalClientInstance.completeCloseSession, if_neg (not_not_intro suspended)]
  rw [refused]
  exact ⟨updated_self well suspended, well, rfl, fun _ _ => rfl, fun _ _ => .inr (Option.some_ne_none _),
    messages_dropped_kept, login_of_kept_slots rfl rfl⟩

end Completion

namespace CloseSessionTransition

def pending (transition : CloseSessionTransition) : Bool := !transition.settled && !transition.dropped

def claims (transition : CloseSessionTransition) : Option VirtualHandle :=
  if transition.pending then some transition.virtualSession else none

-- The number of an open native session that only this token may close or give back.
def custody (transition : CloseSessionTransition) : Option BackendHandle :=
  if transition.pending ∧ transition.answer ≠ some .ok then some transition.backendHandle else none

end CloseSessionTransition

structure CloseInv (system : CloseSystem) : Prop where
  well : HandleWell system.context.sessionHandles
  counter : system.context.sessionHandles.nextId.toNat ≤ 1 + system.registered
  once : ∀ transition ∈ system.transitions, transition.completions = if transition.pending then 0 else 1
  started : ∀ transition ∈ system.transitions, transition.answer ≠ none → transition.started = true
  suspended : ∀ transition ∈ system.transitions, transition.pending = true →
    system.context.sessionHandles.suspendedBackend transition.virtualSession = some transition.backendHandle
  claims : Apart CloseSessionTransition.claims system.transitions
  custody : Apart CloseSessionTransition.custody system.transitions
  native : ∀ virt backend, system.context.sessionHandles.resolve virt = some backend → backend ∈ system.nativeSessions
  held : ∀ transition ∈ system.transitions, ∀ backend, transition.custody = some backend →
    backend ∈ system.nativeSessions ∧ system.context.sessionHandles.resolveBackend backend = none
  slots : ∀ virt slot, system.context.sessionSlots.lookup virt = some slot → system.context.sessionHandles.isProvenGone virt = false
  login : ∀ slot, system.context.loginState.lookup slot ≠ none → system.context.hasSessionOn slot = true

theorem close_inv_new : CloseInv CloseSystem.new where
  well := handle_well_new
  counter := Nat.le_refl _
  once _ member := by cases member
  started _ member := by cases member
  suspended _ member := by cases member
  claims _ _ _ _ _ held := by cases held
  custody _ _ _ _ _ held := by cases held
  native virt backend held := by simp [CloseSystem.new, LogicalClientInstance.new, HandleMap.new, HandleMap.resolve] at held
  held _ member := by cases member
  slots virt slot found := by simp [CloseSystem.new, LogicalClientInstance.new] at found
  login slot found := by simp [CloseSystem.new, LogicalClientInstance.new] at found

variable {suspended : Option BackendHandle} {virt : VirtualHandle}

theorem gone_elsewhere {query : VirtualHandle}
    (updated : Updated map next virt active suspended) (other : query ≠ virt) : next.isProvenGone query = map.isProvenGone query := by
  rw [HandleMap.isProvenGone, HandleMap.isProvenGone, updated.resolve, updated.suspended, if_neg other, if_neg other]

variable {backend : BackendHandle}

theorem unbound_elsewhere
    (updated : Updated map next virt active suspended) (well : HandleWell map) (kept : HandleWell next)
    (free : map.resolveBackend backend = none) (other : active ≠ some backend) : next.resolveBackend backend = none := by
  cases bound : next.resolveBackend backend with
  | none => rfl
  | some query =>
    have held := (kept.inverse query backend).mpr bound
    rw [updated.resolve] at held
    split at held
    · exact absurd held other
    · rw [well.inverse, free] at held
      cases held

theorem not_gone_iff (map : HandleMap) (virt : VirtualHandle) :
    map.isProvenGone virt = false ↔ map.resolve virt ≠ none ∨ map.suspendedBackend virt ≠ none := by
  rw [← Bool.not_eq_true, proven_gone_iff, not_and_or]

theorem pending_claims {transition : CloseSessionTransition} (pending : transition.pending = true) :
    transition.claims = some transition.virtualSession := if_pos pending

theorem pending_of (unsettled : before.settled = false) (undropped : before.dropped = false) : before.pending = true := by
  rw [CloseSessionTransition.pending, unsettled, undropped]
  rfl

theorem settle_custody {rv : CkRv} (pending : before.pending = true) (answer : before.answer = some rv)
    (transient : closeSessionCompletion rv = .transient) : before.custody = some before.backendHandle := by
  refine if_pos ⟨pending, ?_⟩
  rw [answer, Ne, Option.some.injEq]
  rintro rfl
  cases transient

section Steps

variable {system : CloseSystem} (inv : CloseInv system)

include inv

theorem registers_fresh (unused : backend ∉ system.nativeSessions) (room : system.registered + 1 < 2 ^ 64 - 1) :
    (system.context.sessionHandles.insert backend).2 = ⟨system.context.sessionHandles.nextId⟩ ∧
      (system.context.sessionHandles.insert backend).1.nextId.toNat = system.context.sessionHandles.nextId.toNat + 1 ∧
      system.context.sessionHandles.isProvenGone ⟨system.context.sessionHandles.nextId⟩ = true ∧
      Updated system.context.sessionHandles (system.context.sessionHandles.insert backend).1 ⟨system.context.sessionHandles.nextId⟩
        (some backend) none ∧
      HandleWell (system.context.sessionHandles.insert backend).1 := by
  have free : system.context.sessionHandles.resolveBackend backend = none := by
    cases bound : system.context.sessionHandles.resolveBackend backend with
    | none => rfl
    | some virt => exact absurd (inv.native virt backend ((inv.well.inverse virt backend).mpr bound)) unused
  have counter := inv.counter
  exact insert_spec inv.well free (by omega)

theorem close_inv_registered (unused : backend ∉ system.nativeSessions)
    (room : system.registered + 1 < 2 ^ 64 - 1) : CloseInv (openBackendSession system backend slot) := by
  have counter := inv.counter
  obtain ⟨issued, grown, gone, updated, well⟩ := registers_fresh inv unused room
  have vacant : system.context.sessionSlots.lookup (system.context.sessionHandles.insert backend).2 = none := by
    rw [issued]
    cases found : Finmap.lookup (⟨system.context.sessionHandles.nextId⟩ : VirtualHandle) system.context.sessionSlots with
    | none => rfl
    | some slot =>
      have used := inv.slots _ slot found
      rw [gone] at used
      cases used
  have fresh : ∀ query, system.context.sessionHandles.isProvenGone query = false → query ≠ ⟨system.context.sessionHandles.nextId⟩ := by
    rintro query used rfl
    rw [gone] at used
    cases used
  refine ⟨well, ?_, inv.once, inv.started, fun transition member pending => ?_, inv.claims, inv.custody, fun virt raw held => ?_,
    fun transition member raw held => ?_, fun virt other found => ?_, fun other found => ?_⟩
  · change (system.context.sessionHandles.insert backend).1.nextId.toNat ≤ 1 + (system.registered + 1)
    omega
  · have old := inv.suspended transition member pending
    refine (updated.suspended _).trans ?_
    rw [if_neg (fresh _ (suspended_not_gone old))]
    exact old
  · change (system.context.sessionHandles.insert backend).1.resolve virt = some raw at held
    rw [updated.resolve] at held
    split at held
    · cases held
      exact Finset.mem_insert_self _ _
    · exact Finset.mem_insert_of_mem (inv.native virt raw held)
  · obtain ⟨open_, unbound⟩ := inv.held transition member raw held
    refine ⟨Finset.mem_insert_of_mem open_, unbound_elsewhere updated inv.well well unbound ?_⟩
    intro same
    cases same
    exact unused open_
  · change (system.context.sessionSlots.insert (system.context.sessionHandles.insert backend).2 slot).lookup virt = some other at found
    change (system.context.sessionHandles.insert backend).1.isProvenGone virt = false
    rw [dict_lookup_insert, issued] at found
    by_cases same : virt = ⟨system.context.sessionHandles.nextId⟩
    · rw [not_gone_iff, updated.resolve, if_pos same]
      exact .inl (Option.some_ne_none _)
    · rw [if_neg same] at found
      rw [gone_elsewhere updated same]
      exact inv.slots virt other found
  · obtain ⟨virt, mine⟩ := has_session_iff.mp (inv.login other found)
    refine has_session_iff.mpr ⟨virt, dict_lookup_insert.trans ?_⟩
    rw [if_neg]
    · exact mine
    · rintro rfl
      exact Option.some_ne_none other (mine.symm.trans vacant)

theorem close_inv_begun (held : system.context.sessionHandles.resolve virt = some backend) :
    CloseInv { system with
      context := { system.context with sessionHandles := (system.context.sessionHandles.suspend virt).1 }
      transitions := system.transitions ++ [⟨virt, backend, false, false, none, false, 0⟩] } := by
  obtain ⟨released, counter, updated, well⟩ := suspend_spec inv.well held
  have reverse := (inv.well.inverse virt backend).mp held
  have unbound : (system.context.sessionHandles.suspend virt).1.resolveBackend backend = none := by
    cases bound : (system.context.sessionHandles.suspend virt).1.resolveBackend backend with
    | none => rfl
    | some query =>
      have active := (well.inverse query backend).mpr bound
      rw [updated.resolve] at active
      split at active
      · cases active
      · rename_i other
        rw [inv.well.inverse, reverse, Option.some.injEq] at active
        exact absurd active.symm other
  have inside : ∀ transition ∈ system.transitions ++ [(⟨virt, backend, false, false, none, false, 0⟩ : CloseSessionTransition)],
      transition ∈ system.transitions ∨ transition = ⟨virt, backend, false, false, none, false, 0⟩ :=
    fun transition member => (List.mem_append.mp member).imp id List.mem_singleton.mp
  refine ⟨well, ?_, fun transition member => ?_, fun transition member answered => ?_, fun transition member pending => ?_,
    apart_added inv.claims fun key claims j entry at_ => ?_, apart_added inv.custody fun key claims j entry at_ => ?_,
    fun query raw active => ?_, fun transition member raw custody => ?_, fun query slot found => ?_, inv.login⟩
  · refine Nat.le_trans (Nat.le_of_eq ?_) inv.counter
    exact congrArg UInt64.toNat counter
  · rcases inside transition member with old | rfl
    · exact inv.once transition old
    · rfl
  · rcases inside transition member with old | rfl
    · exact inv.started transition old answered
    · exact absurd rfl answered
  · rcases inside transition member with old | rfl
    · have quarantined := inv.suspended transition old pending
      refine (updated.suspended _).trans ?_
      rw [if_neg]
      · exact quarantined
      · rintro rfl
        rw [suspended_inactive inv.well quarantined] at held
        cases held
    · refine (updated.suspended _).trans ?_
      rw [if_pos rfl]
  · cases claims
    intro claimed
    rw [CloseSessionTransition.claims] at claimed
    split at claimed
    · rename_i pending
      cases claimed
      rw [suspended_inactive inv.well (inv.suspended entry (List.mem_of_getElem? at_) pending)] at held
      cases held
    · cases claimed
  · intro claimed
    have same : key = backend := (Option.some.inj claims).symm
    subst same
    rw [(inv.held entry (List.mem_of_getElem? at_) key claimed).2] at reverse
    cases reverse
  · change (system.context.sessionHandles.suspend virt).1.resolve query = some raw at active
    rw [updated.resolve] at active
    split at active
    · cases active
    · exact inv.native query raw active
  · rcases inside transition member with old | rfl
    · obtain ⟨open_, free⟩ := inv.held transition old raw custody
      exact ⟨open_, unbound_elsewhere updated inv.well well free nofun⟩
    · cases custody
      exact ⟨inv.native virt backend held, unbound⟩
  · change (system.context.sessionHandles.suspend virt).1.isProvenGone query = false
    by_cases same : query = virt
    · rw [not_gone_iff, updated.suspended, if_pos same]
      exact .inr (Option.some_ne_none _)
    · rw [gone_elsewhere updated same]
      exact inv.slots query slot found

section

variable (at_ : system.transitions[k]? = some before)

include at_

theorem close_inv_token {nativeSessions : Finset BackendHandle} (once : after.completions = if after.pending then 0 else 1)
    (started : after.answer ≠ none → after.started = true)
    (pending : after.pending = true → before.pending = true) (same : after.virtualSession = before.virtualSession)
    (raw : after.backendHandle = before.backendHandle) (custody : ∀ backend, after.custody = some backend → before.custody = some backend)
    (native : ∀ backend ∈ system.nativeSessions, backend ∈ nativeSessions ∨ before.custody = some backend ∧ after.custody = none) :
    CloseInv { system with nativeSessions := nativeSessions, transitions := system.transitions.set k after } where
  well := inv.well
  counter := inv.counter
  once := forall_set inv.once once
  started := forall_set inv.started started
  suspended := forall_set inv.suspended fun waiting => by
    rw [same, raw]
    exact inv.suspended before (List.mem_of_getElem? at_) (pending waiting)
  claims := by
    refine apart_set inv.claims at_ fun key claims => .inl ?_
    rw [CloseSessionTransition.claims] at claims ⊢
    split at claims
    · rename_i waiting
      rw [if_pos (pending waiting), ← same]
      exact claims
    · cases claims
  custody := apart_set inv.custody at_ fun key claims => .inl (custody key claims)
  native virt backend active := by
    rcases native backend (inv.native virt backend active) with kept | ⟨mine, -⟩
    · exact kept
    · have unbound := (inv.held before (List.mem_of_getElem? at_) backend mine).2
      rw [(inv.well.inverse virt backend).mp active] at unbound
      cases unbound
  held transition member backend claims := by
    rcases mem_set_cases member with rfl | ⟨j, other, old⟩
    · obtain ⟨open_, unbound⟩ := inv.held before (List.mem_of_getElem? at_) backend (custody backend claims)
      rcases native backend open_ with kept | ⟨-, none⟩
      · exact ⟨kept, unbound⟩
      · rw [none] at claims
        cases claims
    · obtain ⟨open_, unbound⟩ := inv.held transition (List.mem_of_getElem? old) backend claims
      rcases native backend open_ with kept | ⟨mine, -⟩
      · exact ⟨kept, unbound⟩
      · exact absurd (inv.custody j k transition before backend old at_ claims mine) other
  slots := inv.slots
  login := inv.login

theorem close_inv_completed (pending : before.pending = true)
    (finished : after.pending = false) (once : after.completions = 1) (started : after.answer ≠ none → after.started = true)
    (completed : Completed system.context context before.virtualSession active suspended)
    (returns : ∀ backend, active = some backend → before.custody = some backend) :
    CloseInv { system with context := context, transitions := system.transitions.set k after } where
  well := completed.well
  counter := by
    refine Nat.le_trans (Nat.le_of_eq ?_) inv.counter
    exact congrArg UInt64.toNat completed.counter
  once := forall_set inv.once (by rw [once, finished]; rfl)
  started := forall_set inv.started started
  suspended transition member waiting := by
    rcases mem_set_cases member with rfl | ⟨j, other, old⟩
    · rw [finished] at waiting
      cases waiting
    · refine (completed.updated.suspended _).trans ?_
      rw [if_neg]
      · exact inv.suspended transition (List.mem_of_getElem? old) waiting
      · intro same
        have claims := pending_claims waiting
        rw [same] at claims
        exact other (inv.claims j k transition before _ old at_ claims (pending_claims pending))
  claims := by
    refine apart_set inv.claims at_ fun key claims => ?_
    rw [CloseSessionTransition.claims, finished] at claims
    cases claims
  custody := by
    refine apart_set inv.custody at_ fun key claims => ?_
    rw [CloseSessionTransition.custody, finished, if_neg fun both => Bool.false_ne_true both.1] at claims
    cases claims
  native virt backend held := by
    rw [completed.updated.resolve] at held
    split at held
    · exact (inv.held before (List.mem_of_getElem? at_) backend (returns backend held)).1
    · exact inv.native virt backend held
  held transition member backend claims := by
    rcases mem_set_cases member with rfl | ⟨j, other, old⟩
    · rw [CloseSessionTransition.custody, finished, if_neg fun both => Bool.false_ne_true both.1] at claims
      cases claims
    · obtain ⟨open_, unbound⟩ := inv.held transition (List.mem_of_getElem? old) backend claims
      refine ⟨open_, unbound_elsewhere completed.updated inv.well completed.well unbound fun same => ?_⟩
      exact other (inv.custody j k transition before backend old at_ claims (returns backend same))
  slots virt slot found := by
    by_cases same : virt = before.virtualSession
    · rw [same] at found
      rw [not_gone_iff, completed.updated.resolve, completed.updated.suspended, if_pos same, if_pos same]
      exact completed.registered slot found
    · rw [completed.slots virt same] at found
      rw [gone_elsewhere completed.updated same]
      exact inv.slots virt slot found
  login slot found := by
    rw [completed.login] at found
    cases remains : context.hasSessionOn slot with
    | true => rfl
    | false =>
      split at found
      · exact absurd rfl found
      · rename_i kept
        obtain ⟨virt, mine⟩ := has_session_iff.mp (inv.login slot found)
        have other : virt ≠ before.virtualSession := by
          rintro rfl
          exact kept ⟨mine, remains⟩
        rw [has_session_iff.mpr ⟨virt, (completed.slots virt other).trans mine⟩] at remains
        cases remains

theorem completion_effect {completion : CloseSessionCompletion} (pending : before.pending = true)
    (custody : completion = .transient → before.custody = some before.backendHandle) :
    ∃ active suspended,
      Completed system.context (system.context.completeCloseSession before.virtualSession before.backendHandle completion)
        before.virtualSession active suspended ∧ ∀ backend, active = some backend → before.custody = some backend := by
  have quarantined := inv.suspended before (List.mem_of_getElem? at_) pending
  cases completion with
  | terminal =>
    exact ⟨none, none, complete_terminal inv.well quarantined, nofun⟩
  | ambiguous =>
    exact ⟨none, _, complete_ambiguous inv.well quarantined, nofun⟩
  | transient =>
    have mine := custody rfl
    refine ⟨_, none, complete_transient_free inv.well quarantined
      (inv.held before (List.mem_of_getElem? at_) _ mine).2, fun backend same => ?_⟩
    cases same
    exact mine

end

theorem drop_custody (member : before ∈ system.transitions) (pending : before.pending = true)
    (completion : (if before.started then CloseSessionCompletion.ambiguous else .transient) = .transient) :
    before.custody = some before.backendHandle := by
  refine if_pos ⟨pending, fun answered => ?_⟩
  have started := inv.started before member (by rw [answered]; exact Option.some_ne_none _)
  rw [if_pos started] at completion
  cases completion

theorem close_inv_step {action : CloseAction} {next : CloseSystem} (room : next.registered < 2 ^ 64 - 1)
    (taken : closeStep system action = some next) : CloseInv next := by
  cases close_step_move taken with
  | registered unused => exact close_inv_registered inv unused room
  | loggedIn registered =>
    refine { inv with login := fun other found => ?_ }
    rw [dict_lookup_insert] at found
    split at found
    · rename_i same
      rw [same]
      exact registered
    · exact inv.login other found
  | locked => exact { inv with login := inv.login }
  | missed => exact inv
  | begun active => exact close_inv_begun inv active
  | marked at_ =>
    rename_i before
    exact close_inv_token inv at_ (inv.once before (List.mem_of_getElem? at_))
      (fun _ => rfl) id rfl rfl (fun _ claims => claims) fun _ open_ => .inl open_
  | closed at_ started unanswered unsettled undropped =>
    rename_i before
    have mine : before.custody = some before.backendHandle := by
      refine if_pos ⟨pending_of unsettled undropped, ?_⟩
      rw [unanswered]
      exact nofun
    refine close_inv_token inv at_ (inv.once before (List.mem_of_getElem? at_)) (fun _ => started) id rfl rfl (fun backend claims => ?_)
      fun backend open_ => ?_
    · rw [CloseSessionTransition.custody] at claims
      split at claims
      · exact mine.trans claims
      · cases claims
    · split
      · rename_i succeeded
        by_cases same : backend = before.backendHandle
        · refine .inr ⟨mine.trans (congrArg some same.symm), if_neg fun both => both.2 ?_⟩
          rw [succeeded]
        · exact .inl (Finset.mem_erase.mpr ⟨same, open_⟩)
      · exact .inl open_
  | settled at_ unsettled undropped answer =>
    rename_i before
    have member := List.mem_of_getElem? at_
    have pending := pending_of unsettled undropped
    obtain ⟨active, suspended, completed, returns⟩ := completion_effect inv at_ pending (settle_custody pending answer)
    refine close_inv_completed inv at_ pending rfl ?_ (inv.started before member) completed returns
    rw [inv.once before member, pending]
    rfl
  | released at_ settled =>
    rename_i before
    have member := List.mem_of_getElem? at_
    refine close_inv_token inv at_ ?_ (inv.started before member) (fun impossible => ?_) rfl rfl (fun backend claims => ?_)
      fun _ open_ => .inl open_
    · rw [inv.once before member, CloseSessionTransition.pending, settled]
      rfl
    · rw [CloseSessionTransition.pending, settled] at impossible
      cases impossible
    · rw [CloseSessionTransition.custody, CloseSessionTransition.pending, settled, if_neg fun both => Bool.false_ne_true both.1] at claims
      cases claims
  | dropped at_ unsettled undropped =>
    rename_i before
    have member := List.mem_of_getElem? at_
    have pending := pending_of unsettled undropped
    obtain ⟨active, suspended, completed, returns⟩ := completion_effect inv at_ pending (drop_custody inv member pending)
    refine close_inv_completed inv at_ pending (Bool.and_false _) ?_ (inv.started before member) completed returns
    rw [inv.once before member, pending]
    rfl

end Steps

end Pkcs11Proxy.Server
