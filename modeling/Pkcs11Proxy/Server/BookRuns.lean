import Pkcs11Proxy.Server.BookInvariant

namespace Pkcs11Proxy.Server

open Lib

structure BookInv (books : SessionBooks) : Prop where
  sessions : SessionsKept books.context none
  objects : ObjectsKept books.context books.recorded

theorem book_inv_new : BookInv SessionBooks.new where
  sessions :=
    { well := handle_well_new
      sessions := fun _ => ⟨fun held => absurd (Finmap.lookup_empty _) held, nofun⟩
      messages := fun _ held => absurd (Finmap.lookup_empty _) held
      index := fun _ held => absurd (Finmap.lookup_empty _) held
      logins := fun _ held => by cases held }
  objects :=
    { well := handle_well_new
      sessionIssued := fun _ _ member => nomatch member
      objectIssued := fun _ _ member => nomatch member
      indexed := fun _ _ member => nomatch member
      absent := fun _ _ member => nomatch member }

variable {backend expected : BackendHandle} {slot : BackendSlotId}
  {virt session query object : VirtualHandle} {next : LogicalClientInstance} {isToken : Bool}
  {isPrivate : Option Bool}

section Steps

variable (context : LogicalClientInstance) {recorded : List (VirtualHandle × VirtualHandle)}
variable (sessions : SessionsKept context none) (objects : ObjectsKept context recorded)

theorem rebound_logins (bound : context.sessionHandles.resolveBackend backend = some virt) (keeps : context.keepsLogin backend slot = true)
    {query : BackendSlotId} (held : context.loginHeldOn query = true) (backed : context.hasSessionOn query = true) :
    ∃ session, (context.sessionSlots.insert virt slot).lookup session = some query := by
  obtain ⟨session, found⟩ := has_session_iff.mp backed
  by_cases moved : session = virt
  · subst moved
    rw [LogicalClientInstance.keepsLogin, bound, Option.all_some, found, Option.all_some, held] at keeps
    simp only [Bool.not_true, Bool.or_false, Bool.or_eq_true, beq_iff_eq] at keeps
    rcases keeps with same | other
    · exact ⟨session, dict_lookup_insert.trans ((if_pos rfl).trans (congrArg some same.symm))⟩
    · obtain ⟨other, different, found⟩ := other_session_iff.mp other
      exact ⟨other, dict_lookup_insert.trans ((if_neg different).trans found)⟩
  · exact ⟨session, dict_lookup_insert.trans ((if_neg moved).trans found)⟩

theorem slots_grown
    (held : context.sessionSlots.lookup session ≠ none) : (context.sessionSlots.insert virt slot).lookup session ≠ none := by
  rw [dict_lookup_insert]
  split
  · exact Option.some_ne_none slot
  · exact held

theorem register_session_slots :
    (context.registerSession backend slot).1.sessionSlots.lookup query =
      if query = (context.sessionHandles.insert backend).2 then some slot else context.sessionSlots.lookup query :=
  dict_lookup_insert

include sessions in
theorem register_session_kept
    (room : context.sessionHandles.nextId.toNat + 1 < UInt64.size) (keeps : context.keepsLogin backend slot = true) :
    SessionsKept (context.registerSession backend slot).1 none := by
  have messages : ∀ virt key, context.messageOperations.lookup key ≠ none → (context.sessionSlots.insert virt slot).lookup key.1 ≠ none :=
    fun virt key held => slots_grown context (sessions.messages key held)
  have index : ∀ virt session, context.sessionObjects.lookup session ≠ none → (context.sessionSlots.insert virt slot).lookup session ≠ none :=
    fun virt session held => slots_grown context (sessions.index session held)
  cases bound : context.sessionHandles.resolveBackend backend with
  | none =>
    obtain ⟨virt, -, gone, updated, well⟩ := insert_spec sessions.well bound room
    refine ⟨well, ?_, messages _, index _, ?_⟩
    · intro query
      simp only [LogicalClientInstance.registerSession, dict_lookup_insert, virt, HandleMap.isProvenGone, updated.resolve,
        updated.suspended]
      by_cases fresh : query = ⟨context.sessionHandles.nextId⟩
      · simp [fresh]
      · simp only [if_neg fresh]
        exact sessions.sessions query
    · intro query held other
      obtain ⟨session, found⟩ := has_session_iff.mp (sessions.logins query held other)
      have old : session ≠ (context.sessionHandles.insert backend).2 := by
        intro same
        have live := (sessions.sessions session).mp (by rw [found]; exact Option.some_ne_none query)
        rw [same, virt, gone] at live
        cases live
      exact has_session_iff.mpr ⟨session, (register_session_slots context).trans ((if_neg old).trans found)⟩
  | some virt =>
    have kept : context.sessionHandles.insert backend = (context.sessionHandles, virt) := by
      rw [HandleMap.resolveBackend] at bound
      rw [HandleMap.insert, bound]
    have active := (sessions.well.inverse virt backend).mpr bound
    rw [LogicalClientInstance.registerSession, kept]
    refine ⟨sessions.well, ?_, messages virt, index virt, ?_⟩
    · intro query
      by_cases same : query = virt
      · rw [same]
        exact ⟨fun _ => active_not_gone active, fun _ => slots_grown context
          ((sessions.sessions virt).mpr (active_not_gone active))⟩
      · simp only [dict_lookup_insert, if_neg same]
        exact sessions.sessions query
    · intro query held other
      exact has_session_iff.mpr
        (rebound_logins context bound keeps held (sessions.logins query held other))

include sessions objects in
theorem register_session_objects_kept
    (room : context.sessionHandles.nextId.toNat + 1 < UInt64.size) : ObjectsKept (context.registerSession backend slot).1 recorded := by
  obtain ⟨-, grown, -, chosen, -⟩ := insert_reads sessions.well backend room
  apply objects_kept_frame context (context.registerSession backend slot).1 recorded objects objects.well grown (Nat.le_refl _)
  · intro session issued
    by_cases same : session = (context.sessionHandles.insert backend).2
    · have live : context.sessionSlots.lookup session ≠ none := by
        rcases chosen with active | unissued
        · rw [same]
          exact (sessions.sessions _).mpr (active_not_gone active)
        · rw [← same] at unissued
          omega
      exact ⟨fun _ => live, slots_grown context⟩
    · rw [register_session_slots, if_neg same]
  · rfl
  · intro _ _ vacant
    exact vacant

include sessions in
theorem begin_close_kept : SessionsKept (context.beginClose virt) none ∧
    (context.beginClose virt).sessionHandles.nextId = context.sessionHandles.nextId := by
  cases active : context.sessionHandles.resolve virt with
  | none =>
    have same : context.beginClose virt = context := by
      have absent : context.sessionHandles.virtualToBackend.lookup virt = none := active
      simp only [LogicalClientInstance.beginClose, HandleMap.suspend, absent]
    rw [same]
    exact ⟨sessions, rfl⟩
  | some backend =>
    obtain ⟨-, counter, updated, well⟩ := suspend_spec sessions.well active
    refine ⟨⟨well, ?_, sessions.messages, sessions.index, sessions.logins⟩, counter⟩
    intro query
    simp only [LogicalClientInstance.beginClose, HandleMap.isProvenGone, updated.resolve, updated.suspended]
    by_cases same : query = virt
    · rw [same, if_pos rfl, if_pos rfl]
      exact ⟨fun _ => rfl, fun _ => (sessions.sessions virt).mpr (active_not_gone active)⟩
    · simp only [if_neg same]
      exact sessions.sessions query

include sessions in
theorem drop_messages_kept : SessionsKept (context.dropMessageOperations virt) none := by
  refine ⟨sessions.well, sessions.sessions, ?_, sessions.index, sessions.logins⟩
  intro key held
  rw [message_operations_dropped] at held
  split at held
  · exact absurd rfl held
  · exact sessions.messages key held

include sessions in
theorem reactivated_kept (suspended : context.sessionHandles.suspendedBackend virt = some expected)
    (free : context.sessionHandles.resolveBackend expected = none) :
    SessionsKept { context with sessionHandles := (context.sessionHandles.reactivateSuspended virt expected).1 } none := by
  obtain ⟨-, updated, well⟩ := reactivate_spec sessions.well suspended free
  refine ⟨well, ?_, sessions.messages, sessions.index, sessions.logins⟩
  intro query
  simp only [HandleMap.isProvenGone, updated.resolve, updated.suspended]
  by_cases same : query = virt
  · rw [same, if_pos rfl, if_pos rfl]
    exact ⟨fun _ => rfl, fun _ => (sessions.sessions virt).mpr (suspended_not_gone suspended)⟩
  · simp only [if_neg same]
    exact sessions.sessions query

include sessions objects in
theorem complete_close_kept {completion : CloseSessionCompletion} :
    SessionsKept (context.completeCloseSession virt expected completion) none ∧
      ObjectsKept (context.completeCloseSession virt expected completion) recorded := by
  rw [LogicalClientInstance.completeCloseSession.eq_def]
  split
  · exact ⟨sessions, objects⟩
  · rename_i stale
    have suspended := not_not.mp stale
    have dropped : ObjectsKept (context.dropMessageOperations virt) recorded :=
      objects_kept_sessions objects rfl rfl rfl rfl fun _ => rfl
    cases completion with
    | terminal => exact remove_session_kept context sessions objects
    | ambiguous => exact ⟨drop_messages_kept context sessions, dropped⟩
    | transient =>
      dsimp only
      cases bound : context.sessionHandles.resolveBackend expected with
      | none =>
        have counter := (reactivate_spec sessions.well suspended bound).1
        have moved := reactivated_kept context sessions suspended bound
        split
        · exact ⟨moved, objects_kept_sessions objects rfl counter rfl rfl fun _ => rfl⟩
        · exact ⟨drop_messages_kept _ moved, objects_kept_sessions objects rfl counter rfl rfl fun _ => rfl⟩
      | some other =>
        rw [reactivate_refused sessions.well suspended bound]
        exact ⟨drop_messages_kept context sessions, dropped⟩

include sessions objects in
theorem message_operation_kept {operation : MessageOperation} {cell : Nat}
    (opened : context.messageOperationLock virt operation cell = .ok next) : SessionsKept next none ∧ ObjectsKept next recorded := by
  rw [LogicalClientInstance.messageOperationLock] at opened
  cases active : context.sessionHandles.resolve virt with
  | none => simp [active] at opened
  | some backend =>
    simp only [active] at opened
    split at opened <;> cases opened
    · exact ⟨sessions, objects⟩
    · refine ⟨⟨sessions.well, sessions.sessions, ?_, sessions.index, sessions.logins⟩,
        objects_kept_sessions objects rfl rfl rfl rfl fun _ => rfl⟩
      intro key held
      rw [dict_lookup_insert] at held
      by_cases same : key = (virt, operation)
      · rw [same]
        exact (sessions.sessions virt).mpr (active_not_gone active)
      · rw [if_neg same] at held
        exact sessions.messages key held

theorem insert_suspended (map : HandleMap) (backend : BackendHandle) (query : VirtualHandle) :
    (map.insert backend).1.suspendedBackend query = map.suspendedBackend query := by
  rw [HandleMap.insert]
  split <;> rfl

include objects in
theorem vacant_not_chosen (backend : BackendHandle) (room : context.objectHandles.nextId.toNat + 1 < UInt64.size)
    (issued : object.raw.toNat < context.objectHandles.nextId.toNat) (vacant : context.recordOf object = .vacant) :
    object ≠ (context.objectHandles.insert backend).2 := by
  obtain ⟨-, -, -, chosen, -⟩ := insert_reads objects.well backend room
  rintro rfl
  rcases chosen with mapped | unissued
  · have unmapped : context.objectHandles.resolve (context.objectHandles.insert backend).2 = none := congrArg ObjectRecord.mapped vacant
    rw [mapped] at unmapped
    cases unmapped
  · omega

include objects in
theorem find_object_kept (room : context.objectHandles.nextId.toNat + 1 < UInt64.size) :
    ObjectsKept (context.registerObjectHandle backend) recorded := by
  obtain ⟨well, grown, -, -, resolve⟩ := insert_reads objects.well backend room
  apply objects_kept_frame context (context.registerObjectHandle backend) recorded objects well (Nat.le_refl _) grown
  · intro _ _
    rfl
  · rfl
  · intro object issued vacant
    have other := vacant_not_chosen context objects backend room issued vacant
    rw [← vacant]
    simp only [LogicalClientInstance.recordOf, LogicalClientInstance.registerObjectHandle, resolve, if_neg other, insert_suspended]
    rfl

include objects in
theorem register_object_record (room : context.objectHandles.nextId.toNat + 1 < UInt64.size)
    (other : query ≠ (context.objectHandles.insert backend).2) :
    (context.registerSessionObjectHandle session backend isToken isPrivate).1.recordOf query = context.recordOf query := by
  obtain ⟨-, -, -, -, resolve⟩ := insert_reads objects.well backend room
  cases isToken <;> cases isPrivate <;>
    simp [LogicalClientInstance.recordOf, LogicalClientInstance.registerSessionObjectHandle, LogicalClientInstance.recordSessionObject,
      resolve, insert_suspended, other]

include sessions in
theorem register_object_sessions_kept (live : context.sessionSlots.lookup session ≠ none) :
    SessionsKept (context.registerSessionObjectHandle session backend isToken isPrivate).1 none := by
  cases isToken with
  | true => exact ⟨sessions.well, sessions.sessions, sessions.messages, sessions.index, sessions.logins⟩
  | false =>
    refine ⟨sessions.well, sessions.sessions, sessions.messages, ?_, sessions.logins⟩
    intro query held
    by_cases same : query = session
    · rw [same]
      exact live
    · refine sessions.index query fun unlisted => held ?_
      exact dict_lookup_insert.trans ((if_neg same).trans unlisted)

include sessions objects in
theorem register_object_objects_kept
    (room : context.objectHandles.nextId.toNat + 1 < UInt64.size) (live : context.sessionSlots.lookup session ≠ none) :
    let books := registerObject ⟨context, recorded⟩ session backend isToken isPrivate
    ObjectsKept books.context books.recorded := by
  intro books
  have registered := register_session_object_spec objects.well room session backend isToken isPrivate
  have slots : books.context.sessionSlots = context.sessionSlots := by cases isToken <;> rfl
  have handles : books.context.sessionHandles = context.sessionHandles := by cases isToken <;> rfl
  have pairs : ∀ query object, (query, object) ∈ books.recorded → (query, object) ∈ recorded ∨
        isToken = false ∧ query = session ∧ object = (context.registerSessionObjectHandle session backend isToken isPrivate).2 := by
    intro query object member
    cases isToken with
    | true => exact .inl member
    | false =>
      rcases List.mem_append.mp member with old | added
      · exact .inl old
      · obtain ⟨same, object⟩ := Prod.mk.inj (List.mem_singleton.mp added)
        exact .inr ⟨rfl, same, object⟩
  refine ⟨registered.well, ?_, ?_, ?_, ?_⟩
  · intro query object member
    rw [handles]
    rcases pairs query object member with old | ⟨-, rfl, -⟩
    · exact objects.sessionIssued query object old
    · exact sessions.well.below query ((sessions.sessions query).mp live)
  · intro query object member
    rcases pairs query object member with old | ⟨-, -, rfl⟩
    · exact Nat.lt_of_lt_of_le (objects.objectIssued query object old) registered.counter
    · exact registered.issued
  · intro query object member alive
    rw [slots] at alive
    rw [LogicalClientInstance.indexedObjects, show books.context.sessionObjects.lookup query = _ from registered.index query]
    rcases pairs query object member with old | ⟨minted, rfl, rfl⟩
    · have listed := objects.indexed query object old alive
      split
      · rename_i mine
        rw [← mine.2]
        exact List.mem_append_left _ listed
      · exact listed
    · rw [if_pos ⟨minted, rfl⟩]
      exact List.mem_append_right _ List.mem_cons_self
  · intro query object member gone
    rw [slots] at gone
    rcases pairs query object member with old | ⟨-, rfl, -⟩
    · have vacant := objects.absent query object old gone
      have other := vacant_not_chosen context objects backend room (objects.objectIssued query object old) vacant
      exact (register_object_record context objects room other).trans vacant
    · exact absurd gone live

include objects in
theorem cache_kept (mapped : context.objectHandles.resolve object ≠ none)
    (handles : next.objectHandles = context.objectHandles) (counter : next.sessionHandles = context.sessionHandles)
    (slots : next.sessionSlots = context.sessionSlots) (index : next.sessionObjects = context.sessionObjects)
    (others : ∀ query, query ≠ object → next.recordOf query = context.recordOf query) : ObjectsKept next recorded := by
  apply objects_kept_frame context next recorded objects
  · rw [handles]
    exact objects.well
  · rw [counter]
  · rw [handles]
  · intro session _
    rw [slots]
  · exact index
  · intro query _ vacant
    rw [others query, vacant]
    rintro rfl
    exact mapped (congrArg ObjectRecord.mapped vacant)

theorem store_metadata_record (generation : UInt64) (object : VirtualHandle) (fetched : ObjectMetadata) (query : VirtualHandle)
    (other : query ≠ object) : (context.storeMetadata generation object fetched).recordOf query = context.recordOf query := by
  rw [LogicalClientInstance.storeMetadata]
  split <;> simp [LogicalClientInstance.recordOf, other]

theorem put_attribute_record {attr : UInt64} {cached : CachedAttr} (query : VirtualHandle)
    (other : query ≠ object) : (context.putAttribute object attr cached).recordOf query = context.recordOf query := by
  have kept : ∀ asked, Finmap.lookup (query, asked) (context.putAttribute object attr cached).attrCache = context.attrCache.lookup (query, asked) :=
    fun asked => dict_lookup_insert.trans (if_neg fun same => other (Prod.mk.inj same).1)
  simp only [LogicalClientInstance.recordOf, kept]
  rfl

include sessions in
theorem login_sessions_kept (backed : context.hasSessionOn slot = true)
    (handles : next.sessionHandles = context.sessionHandles) (slots : next.sessionSlots = context.sessionSlots)
    (messages : next.messageOperations = context.messageOperations) (index : next.sessionObjects = context.sessionObjects)
    (logins : ∀ query, query ≠ slot → next.loginHeldOn query = context.loginHeldOn query) : SessionsKept next none := by
  have same : ∀ query, next.hasSessionOn query = context.hasSessionOn query := fun query => by
    rw [LogicalClientInstance.hasSessionOn, LogicalClientInstance.hasSessionOn, slots]
  refine ⟨?_, ?_, ?_, ?_, ?_⟩
  · rw [handles]
    exact sessions.well
  · rw [handles, slots]
    exact sessions.sessions
  · rw [messages, slots]
    exact sessions.messages
  · rw [index, slots]
    exact sessions.index
  · intro query held other
    rw [same]
    by_cases mine : query = slot
    · rw [mine]
      exact backed
    · rw [logins query mine] at held
      exact sessions.logins query held other

theorem handle_well_clear {map : HandleMap} : HandleWell map.clear where
  inverse := handle_well_new.inverse
  apart := handle_well_new.apart
  below virt held := by simp [HandleMap.clear, HandleMap.isProvenGone, HandleMap.resolve, HandleMap.suspendedBackend] at held

include objects in
theorem teardown_kept : SessionsKept context.teardown.1 none ∧ ObjectsKept context.teardown.1 recorded := by
  refine ⟨⟨handle_well_clear, ?_, ?_, ?_, ?_⟩, ⟨handle_well_clear, objects.sessionIssued, objects.objectIssued, ?_, ?_⟩⟩
  · simp [LogicalClientInstance.teardown, HandleMap.clear, HandleMap.isProvenGone, HandleMap.resolve, HandleMap.suspendedBackend]
  · intro key held
    exact absurd (Finmap.lookup_empty key) held
  · intro session held
    exact absurd (Finmap.lookup_empty session) held
  · intro slot held
    simp [LogicalClientInstance.teardown, LogicalClientInstance.loginHeldOn] at held
  · intro session object _ live
    exact absurd (Finmap.lookup_empty session) live
  · simp [LogicalClientInstance.recordOf, LogicalClientInstance.teardown, HandleMap.clear, HandleMap.resolve,
      HandleMap.suspendedBackend, ObjectRecord.vacant]

end Steps

theorem book_step_inv (books : SessionBooks) (action : BookAction) (next : SessionBooks) (inv : BookInv books)
    (safe : BookSafe books action) (taken : bookStep books action = some next) : BookInv next := by
  obtain ⟨sessions, objects⟩ := inv
  cases action with
  | registerSession backend slot =>
    cases taken
    exact ⟨register_session_kept _ sessions safe.1 safe.2,
      register_session_objects_kept _ sessions objects safe.1⟩
  | beginClose virt =>
    cases taken
    obtain ⟨kept, counter⟩ := begin_close_kept books.context sessions
    exact ⟨kept, objects_kept_sessions objects rfl counter rfl rfl fun _ => rfl⟩
  | completeClose virt expected completion =>
    cases taken
    obtain ⟨kept, recorded⟩ := complete_close_kept _ sessions objects
    exact ⟨kept, recorded⟩
  | messageOperation virt operation cell =>
    rw [bookStep] at taken
    split at taken <;> cases taken
    · rename_i opened
      obtain ⟨kept, recorded⟩ := message_operation_kept _ sessions objects opened
      exact ⟨kept, recorded⟩
    · exact ⟨sessions, objects⟩
  | registerObject session backend isToken isPrivate =>
    rw [bookStep] at taken
    split at taken <;> cases taken
    rename_i live
    exact ⟨register_object_sessions_kept _ sessions (Option.isSome_iff_ne_none.mp live),
      register_object_objects_kept _ sessions objects safe (Option.isSome_iff_ne_none.mp live)⟩
  | findObject backend =>
    cases taken
    exact ⟨⟨sessions.well, sessions.sessions, sessions.messages, sessions.index, sessions.logins⟩,
      find_object_kept _ objects safe⟩
  | cacheMetadata object generation fetched =>
    rw [bookStep] at taken
    split at taken <;> cases taken
    rename_i mapped
    have others := store_metadata_record books.context generation object fetched
    cases token : fetched.isToken <;> simp only [LogicalClientInstance.storeMetadata, token] at others ⊢
    · exact ⟨⟨sessions.well, sessions.sessions, sessions.messages, sessions.index, sessions.logins⟩,
        cache_kept _ objects (Option.isSome_iff_ne_none.mp mapped) rfl rfl rfl rfl others⟩
    · exact ⟨⟨sessions.well, sessions.sessions, sessions.messages, sessions.index, sessions.logins⟩,
        cache_kept _ objects (Option.isSome_iff_ne_none.mp mapped) rfl rfl rfl rfl others⟩
  | cacheAttribute object attr cached =>
    rw [bookStep] at taken
    split at taken <;> cases taken
    rename_i mapped
    exact ⟨⟨sessions.well, sessions.sessions, sessions.messages, sessions.index, sessions.logins⟩,
      cache_kept _ objects (Option.isSome_iff_ne_none.mp mapped) rfl rfl rfl rfl
        (put_attribute_record books.context)⟩
  | login slot login =>
    rw [bookStep] at taken
    split at taken <;> cases taken
    rename_i backed
    refine ⟨login_sessions_kept _ sessions backed rfl rfl rfl rfl fun query other => ?_,
      objects_kept_sessions objects rfl rfl rfl rfl fun _ => rfl⟩
    simp only [LogicalClientInstance.loginHeldOn, dict_lookup_insert, if_neg other]
  | contend slot =>
    rw [bookStep] at taken
    split at taken <;> cases taken
    rename_i backed
    refine ⟨login_sessions_kept _ sessions backed rfl rfl rfl rfl fun query other => ?_,
      objects_kept_sessions objects rfl rfl rfl rfl fun _ => rfl⟩
    simp [LogicalClientInstance.loginHeldOn, other]
  | removeSessionsForSlot slot order =>
    rw [bookStep] at taken
    split at taken <;> cases taken
    obtain ⟨kept, recorded⟩ := remove_sessions_for_slot_kept books.context sessions objects
    exact ⟨kept, recorded⟩
  | teardown =>
    cases taken
    obtain ⟨kept, recorded⟩ := teardown_kept books.context objects
    exact ⟨kept, recorded⟩

theorem book_inv_kept (books : SessionBooks) (inv : BookInv books) : BooksKept books := by
  obtain ⟨sessions, objects⟩ := inv
  refine ⟨fun virt => ?_, fun session operation => sessions.messages (session, operation), sessions.index, fun slot held => ?_,
    fun slot held => ?_, objects.absent⟩
  · rw [sessions.sessions virt, HandleMap.isProvenGone]
    simp only [Bool.and_eq_false_iff, Option.isNone_eq_false_iff, Option.isSome_iff_ne_none]
  · have backed := sessions.logins slot (login_held_iff.mpr (.inl held)) (Option.some_ne_none slot).symm
    exact has_session_iff.mp backed
  · have backed := sessions.logins slot (login_held_iff.mpr (.inr held)) (Option.some_ne_none slot).symm
    exact has_session_iff.mp backed

theorem session_books_kept (actions : List BookAction) (final : SessionBooks)
    (safe : along bookStep BookSafe SessionBooks.new actions) (ran : exec bookStep SessionBooks.new actions = some final) :
    BooksKept final :=
  book_inv_kept final (exec_invariant_along bookStep BookSafe BookInv book_step_inv book_inv_new safe ran)

def closedSession : List BookAction :=
  [.registerSession ⟨7⟩ ⟨1⟩, .login ⟨1⟩ .user, .registerObject ⟨1⟩ ⟨40⟩ false (some true), .cacheAttribute ⟨1⟩ 0 ⟨[], 0⟩, .beginClose ⟨1⟩,
    .completeClose ⟨1⟩ ⟨7⟩ .terminal]

theorem session_books_kept_closed : ∃ final, exec bookStep SessionBooks.new closedSession = some final ∧ BooksKept final :=
  ⟨_, rfl, session_books_kept closedSession _ (by decide +kernel) rfl⟩

-- The provider's session 7 is opened again on another slot while its first mapping is
-- still bound. The login stays behind on a slot that has no session left.
def reboundSession : List BookAction := [.registerSession ⟨7⟩ ⟨1⟩, .login ⟨1⟩ .user, .registerSession ⟨7⟩ ⟨2⟩]

theorem rebound_session_keeps_login : ∃ final, exec bookStep SessionBooks.new reboundSession = some final ∧ ¬ BooksKept final := by
  refine ⟨_, rfl, fun kept => ?_⟩
  have backed := has_session_iff.mpr (kept.logins ⟨1⟩ (by decide +kernel))
  exact absurd backed (by decide +kernel)

end Pkcs11Proxy.Server
