import Pkcs11Proxy.Server.CloseInvariant
import Pkcs11Proxy.Server.SessionBooks

namespace Pkcs11Proxy.Server

open Lib

namespace LogicalClientInstance

variable (context : LogicalClientInstance)

def loginHeldOn (slot : BackendSlotId) : Bool := (context.loginState.lookup slot).isSome || decide (slot ∈ context.contendedSlotLogin)

def hasOtherSessionOn (virt : VirtualHandle) (slot : BackendSlotId) : Bool := decide (slot ∈ dictValues (context.sessionSlots.erase virt))

-- A raw handle that is still bound keeps its virtual session, and registering it again
-- moves that session to the slot named now. The slot it leaves must have another
-- session or no login.
def keepsLogin (backend : BackendHandle) (slot : BackendSlotId) : Bool :=
  (context.sessionHandles.resolveBackend backend).all fun virt =>
    (context.sessionSlots.lookup virt).all fun held => held == slot || !context.loginHeldOn held || context.hasOtherSessionOn virt held

end LogicalClientInstance

-- The conditions on the counters say that the 64-bit handle counters do not wrap.
def BookSafe (books : SessionBooks) : BookAction → Prop
  | .registerSession backend slot =>
    books.context.sessionHandles.nextId.toNat + 1 < UInt64.size ∧ books.context.keepsLogin backend slot = true
  | .registerObject .. => books.context.objectHandles.nextId.toNat + 1 < UInt64.size
  | .findObject _ => books.context.objectHandles.nextId.toNat + 1 < UInt64.size
  | _ => True

instance decidableBookSafe (books : SessionBooks) : (action : BookAction) → Decidable (BookSafe books action)
  | .registerSession .. => inferInstanceAs (Decidable (_ ∧ _))
  | .registerObject .. | .findObject _ => inferInstanceAs (Decidable (_ < _))
  | .beginClose _ | .completeClose .. | .messageOperation .. | .cacheMetadata .. | .cacheAttribute .. | .login .. | .contend _
  | .removeSessionsForSlot .. | .teardown => .isTrue trivial

structure SessionsKept (context : LogicalClientInstance) (exempt : Option BackendSlotId) : Prop where
  well : HandleWell context.sessionHandles
  sessions : ∀ virt, context.sessionSlots.lookup virt ≠ none ↔ context.sessionHandles.isProvenGone virt = false
  messages : ∀ key, context.messageOperations.lookup key ≠ none → context.sessionSlots.lookup key.1 ≠ none
  index : ∀ session, context.sessionObjects.lookup session ≠ none → context.sessionSlots.lookup session ≠ none
  logins : ∀ slot, context.loginHeldOn slot = true → exempt ≠ some slot → context.hasSessionOn slot = true

structure ObjectsKept (context : LogicalClientInstance) (recorded : List (VirtualHandle × VirtualHandle)) : Prop where
  well : HandleWell context.objectHandles
  sessionIssued : ∀ session object, (session, object) ∈ recorded → session.raw.toNat < context.sessionHandles.nextId.toNat
  objectIssued : ∀ session object, (session, object) ∈ recorded → object.raw.toNat < context.objectHandles.nextId.toNat
  indexed : ∀ session object, (session, object) ∈ recorded → context.sessionSlots.lookup session ≠ none →
    object ∈ context.indexedObjects session
  absent : ∀ session object, (session, object) ∈ recorded → context.sessionSlots.lookup session = none → context.recordOf object = .vacant

variable {slot : BackendSlotId} {recorded : List (VirtualHandle × VirtualHandle)}

variable {context : LogicalClientInstance}

theorem login_held_iff :
    context.loginHeldOn slot = true ↔ context.loginState.lookup slot ≠ none ∨ slot ∈ context.contendedSlotLogin := by
  rw [LogicalClientInstance.loginHeldOn, Bool.or_eq_true, decide_eq_true_eq, Option.isSome_iff_ne_none]

theorem other_session_iff {virt : VirtualHandle} :
    context.hasOtherSessionOn virt slot = true ↔ ∃ other, other ≠ virt ∧ context.sessionSlots.lookup other = some slot := by
  rw [LogicalClientInstance.hasOtherSessionOn, decide_eq_true_eq, mem_dict_values]
  apply exists_congr
  intro other
  rw [dict_lookup_erase]
  by_cases same : other = virt
  · simp [same]
  · simp [same]

theorem objects_kept_frame (context next : LogicalClientInstance) (recorded : List (VirtualHandle × VirtualHandle))
    (kept : ObjectsKept context recorded) (well : HandleWell next.objectHandles)
    (sessions : context.sessionHandles.nextId.toNat ≤ next.sessionHandles.nextId.toNat)
    (objects : context.objectHandles.nextId.toNat ≤ next.objectHandles.nextId.toNat)
    (slots : ∀ session, session.raw.toNat < context.sessionHandles.nextId.toNat →
      (next.sessionSlots.lookup session ≠ none ↔ context.sessionSlots.lookup session ≠ none))
    (index : next.sessionObjects = context.sessionObjects)
    (vacant : ∀ object, object.raw.toNat < context.objectHandles.nextId.toNat → context.recordOf object = .vacant →
      next.recordOf object = .vacant) : ObjectsKept next recorded := by
  refine ⟨well, ?_, ?_, ?_, ?_⟩
  · intro session object member
    exact Nat.lt_of_lt_of_le (kept.sessionIssued session object member) sessions
  · intro session object member
    exact Nat.lt_of_lt_of_le (kept.objectIssued session object member) objects
  · intro session object member live
    rw [LogicalClientInstance.indexedObjects, index]
    exact kept.indexed session object member ((slots session (kept.sessionIssued session object member)).mp live)
  · intro session object member gone
    have before : context.sessionSlots.lookup session = none := by
      by_contra live
      exact (slots session (kept.sessionIssued session object member)).mpr live gone
    exact vacant object (kept.objectIssued session object member) (kept.absent session object member before)

theorem objects_kept_sessions {next : LogicalClientInstance}
    (kept : ObjectsKept context recorded) (handles : next.objectHandles = context.objectHandles)
    (sessions : next.sessionHandles.nextId = context.sessionHandles.nextId) (slots : next.sessionSlots = context.sessionSlots)
    (index : next.sessionObjects = context.sessionObjects) (same : ∀ object, next.recordOf object = context.recordOf object) :
    ObjectsKept next recorded := by
  apply objects_kept_frame context next recorded kept
  · rw [handles]
    exact kept.well
  · rw [sessions]
  · rw [handles]
  · intro session _
    rw [slots]
  · exact index
  · intro object _ vacant
    rw [same, vacant]

section Eviction

variable (context : LogicalClientInstance)

theorem evict_object_record (well : HandleWell context.objectHandles) (object query : VirtualHandle) :
    (context.evictObject object).recordOf query = if query = object then .vacant else context.recordOf query := by
  obtain ⟨-, updated, -⟩ := remove_spec well object
  have mapped := updated.resolve query
  have suspended := updated.suspended query
  have attributes : ∀ attr, Finmap.lookup (query, attr) (dictRetain (fun key => key.1 != object) context.attrCache) =
      if query = object then none else context.attrCache.lookup (query, attr) := by
    intro attr
    rw [dict_lookup_retain]
    by_cases same : query = object
    · simp [same]
    · simp [same]
  by_cases same : query = object
  · subst same
    simp [LogicalClientInstance.recordOf, LogicalClientInstance.evictObject, mapped, suspended, attributes, ObjectRecord.vacant]
  · simp [LogicalClientInstance.recordOf, LogicalClientInstance.evictObject, mapped, suspended, attributes, same]

theorem evict_objects_record (objects : List VirtualHandle) (well : HandleWell context.objectHandles) (query : VirtualHandle) :
    (objects.foldl LogicalClientInstance.evictObject context).recordOf query =
      if query ∈ objects then .vacant else context.recordOf query := by
  induction objects generalizing context with
  | nil => exact (if_neg List.not_mem_nil).symm
  | cons object rest ih =>
    rw [List.foldl_cons, ih (context.evictObject object) (evict_object_spec well object).well, evict_object_record context well]
    by_cases late : query ∈ rest
    · simp [late]
    · simp [late]

theorem evict_session_record (well : HandleWell context.objectHandles) (session query : VirtualHandle) :
    (context.evictSession session).recordOf query =
      if query ∈ context.indexedObjects session then .vacant else context.recordOf query := by
  rw [LogicalClientInstance.evictSession, LogicalClientInstance.evictSessionObjects, LogicalClientInstance.indexedObjects]
  cases listed : Finmap.lookup session context.sessionObjects with
  | none =>
    simp only [LogicalClientInstance.dropMessageOperations, listed]
    exact (if_neg List.not_mem_nil).symm
  | some objects =>
    simp only [LogicalClientInstance.dropMessageOperations, listed]
    apply evict_objects_record
    exact well

theorem evict_objects_contended {objects : List VirtualHandle} :
    (objects.foldl LogicalClientInstance.evictObject context).contendedSlotLogin = context.contendedSlotLogin := by
  induction objects generalizing context with
  | nil => rfl
  | cons object rest ih => exact ih (context.evictObject object)

theorem evict_session_contended (session : VirtualHandle) :
    (context.evictSession session).contendedSlotLogin = context.contendedSlotLogin := by
  rw [LogicalClientInstance.evictSession, LogicalClientInstance.evictSessionObjects]
  split
  · exact evict_objects_contended _
  · rfl

variable {session : VirtualHandle}

theorem evict_session_sessions_kept {exempt : Option BackendSlotId} (kept : SessionsKept context exempt)
    (objectsWell : HandleWell context.objectHandles)
    (mine : context.sessionSlots.lookup session = none ∨ context.sessionSlots.lookup session = exempt) :
    SessionsKept (context.evictSession session) exempt := by
  obtain ⟨handles, slots, login, messages⟩ := evict_session_reads
  obtain ⟨-, updated, well⟩ := remove_spec kept.well session
  obtain ⟨-, index⟩ := evict_session_objects objectsWell
  have remaining : ∀ virt, (context.evictSession session).sessionSlots.lookup virt =
      if virt = session then none else context.sessionSlots.lookup virt := by
    intro virt
    rw [slots, dict_lookup_erase]
  refine ⟨?_, ?_, ?_, ?_, ?_⟩
  · rw [handles]
    exact well
  · intro virt
    rw [remaining, handles, HandleMap.isProvenGone, updated.resolve, updated.suspended]
    by_cases same : virt = session
    · simp [same]
    · simp only [if_neg same]
      exact kept.sessions virt
  · intro key held
    rw [messages] at held
    rw [remaining]
    by_cases same : key.1 = session
    · exact absurd (if_pos same) held
    · rw [if_neg same] at held ⊢
      exact kept.messages key held
  · intro query held
    rw [index] at held
    rw [remaining]
    by_cases same : query = session
    · exact absurd (if_pos same) held
    · rw [if_neg same] at held ⊢
      exact kept.index query held
  · intro slot held other
    rw [login_held_iff, login, evict_session_contended] at held
    obtain ⟨virt, found⟩ := has_session_iff.mp (kept.logins slot (login_held_iff.mpr held) other)
    have different : virt ≠ session := by
      rintro rfl
      rcases mine with unregistered | leaving
      · rw [unregistered] at found
        cases found
      · exact other (leaving.symm.trans found)
    exact has_session_iff.mpr ⟨virt, (remaining virt).trans ((if_neg different).trans found)⟩

theorem evict_session_objects_kept (kept : ObjectsKept context recorded)
    (sessionsWell : HandleWell context.sessionHandles) (session : VirtualHandle) :
    ObjectsKept (context.evictSession session) recorded := by
  obtain ⟨handles, slots, -, -⟩ := evict_session_reads
  obtain ⟨evicted, index⟩ := evict_session_objects kept.well
  have counter : (context.evictSession session).sessionHandles.nextId = context.sessionHandles.nextId := by
    rw [handles]
    exact (remove_spec sessionsWell session).1
  refine ⟨evicted.well, ?_, ?_, ?_, ?_⟩
  · rw [counter]
    exact kept.sessionIssued
  · rw [evicted.counter]
    exact kept.objectIssued
  · intro query object member live
    rw [slots, dict_lookup_erase] at live
    by_cases same : query = session
    · exact absurd (if_pos same) live
    · rw [if_neg same] at live
      rw [LogicalClientInstance.indexedObjects, index, if_neg same]
      exact kept.indexed query object member live
  · intro query object member gone
    rw [evict_session_record context kept.well]
    by_cases live : context.sessionSlots.lookup query = none
    · rw [kept.absent query object member live, ite_self]
    · have leaving : query = session := by
        by_contra other
        rw [slots, dict_lookup_erase, if_neg other] at gone
        exact live gone
      rw [← leaving, if_pos (kept.indexed query object member live)]

theorem released_sessions_kept (kept : SessionsKept context (some slot)) :
    SessionsKept (context.releaseLogin slot) none := by
  refine ⟨kept.well, kept.sessions, kept.messages, kept.index, ?_⟩
  intro query held _
  rw [login_held_iff] at held
  simp only [LogicalClientInstance.releaseLogin, dict_lookup_erase, Finset.mem_erase] at held
  by_cases same : query = slot
  · simp [same] at held
  · simp only [ne_eq, same, not_false_eq_true, true_and] at held
    exact kept.logins query (login_held_iff.mpr held) fun released => same (Option.some.inj released).symm

theorem sessions_kept_exempt (kept : SessionsKept context none) (exempt : Option BackendSlotId) : SessionsKept context exempt :=
  { kept with logins := fun slot held _ => kept.logins slot held (Option.some_ne_none slot).symm }

theorem remove_session_kept (sessions : SessionsKept context none) (objects : ObjectsKept context recorded) :
    SessionsKept (context.removeSession session).1 none ∧ ObjectsKept (context.removeSession session).1 recorded := by
  have exempted := sessions_kept_exempt context sessions (context.sessionSlots.lookup session)
  have evicted := evict_session_sessions_kept context exempted objects.well (.inr rfl)
  have swept := evict_session_objects_kept context objects sessions.well session
  rw [LogicalClientInstance.removeSession]
  cases held : Finmap.lookup session context.sessionSlots with
  | none =>
    rw [held] at evicted
    exact ⟨evicted, swept⟩
  | some slot =>
    rw [held] at evicted
    dsimp only
    split
    · rename_i remains
      refine ⟨{ evicted with logins := ?_ }, swept⟩
      intro query backed _
      by_cases same : query = slot
      · rw [same]
        exact remains
      · exact evicted.logins query backed fun leaving => same (Option.some.inj leaving).symm
    · exact ⟨released_sessions_kept _ evicted, swept.well, swept.sessionIssued, swept.objectIssued, swept.indexed, swept.absent⟩

theorem evict_sessions_kept {sessions : List VirtualHandle}
    {backends : List BackendHandle} (kept : SessionsKept context (some slot)) (objects : ObjectsKept context recorded)
    (mine : ∀ session ∈ sessions, context.sessionSlots.lookup session = none ∨ context.sessionSlots.lookup session = some slot) :
    let walked := sessions.foldl
      (fun walked virt => (walked.1.evictSession virt, walked.2 ++ (walked.1.sessionHandles.remove virt).2.toList)) (context, backends)
    SessionsKept walked.1 (some slot) ∧ ObjectsKept walked.1 recorded := by
  induction sessions generalizing context backends with
  | nil => exact ⟨kept, objects⟩
  | cons session rest ih =>
    apply ih (context.evictSession session)
    · exact evict_session_sessions_kept context kept objects.well (mine session List.mem_cons_self)
    · exact evict_session_objects_kept context objects kept.well session
    · intro query member
      rw [evict_session_reads.2.1, dict_lookup_erase]
      split
      · exact .inl rfl
      · exact mine query (List.mem_cons_of_mem _ member)

theorem remove_sessions_for_slot_kept {order : List VirtualHandle}
    (sessions : SessionsKept context none) (objects : ObjectsKept context recorded) :
    SessionsKept (context.removeSessionsForSlot slot order).1 none ∧
      ObjectsKept (context.removeSessionsForSlot slot order).1 recorded := by
  obtain ⟨walked, swept⟩ := evict_sessions_kept context (sessions_kept_exempt context sessions _) objects
    fun session member => .inr (of_decide_eq_true (List.mem_filter.mp member).2)
  exact ⟨released_sessions_kept _ walked, swept.well, swept.sessionIssued, swept.objectIssued, swept.indexed, swept.absent⟩

end Eviction

end Pkcs11Proxy.Server
