import Pkcs11Proxy.Server.CloseProtocol
import Pkcs11Proxy.Server.ObjectLifecycle

namespace Pkcs11Proxy.Server

open Lib Pkcs11Proxy.Types

def CloseSessionTransition.closedForGood (transition : CloseSessionTransition) : Option VirtualHandle :=
  if transition.settled ∧ transition.answer.map closeSessionCompletion = some .terminal then some transition.virtualSession else none

variable {transition : CloseSessionTransition} {k i : Nat} {context : LogicalClientInstance}
  {after : CloseSystem} {call : MintCall} {observed : Option Bool} {mint : MintRequest}

variable {client : CloseSystem} {action : CloseAction} {session : VirtualHandle}

theorem closed_for_good_step {next : CloseSystem} (taken : closeStep client action = some next) (member : transition ∈ next.transitions)
    (closed : transition.closedForGood = some session) :
    (∃ earlier ∈ client.transitions, earlier.closedForGood = some session) ∨ client.terminalSession action = some session := by
  cases close_step_move taken with
  | registered | loggedIn | locked | missed => exact .inl ⟨transition, member, closed⟩
  | begun =>
    rcases List.mem_append.mp member with old | new
    · exact .inl ⟨transition, old, closed⟩
    · rw [List.mem_singleton.mp new] at closed
      cases closed
  | marked at_ | released at_ =>
    rcases List.mem_or_eq_of_mem_set member with old | rfl
    · exact .inl ⟨transition, old, closed⟩
    · exact .inl ⟨_, List.mem_of_getElem? at_, closed⟩
  | closed at_ _ _ unsettled | dropped at_ unsettled =>
    rcases List.mem_or_eq_of_mem_set member with old | rfl
    · exact .inl ⟨transition, old, closed⟩
    · simp [CloseSessionTransition.closedForGood, unsettled] at closed
  | settled at_ =>
    rcases List.mem_or_eq_of_mem_set member with old | rfl
    · exact .inl ⟨transition, old, closed⟩
    · right
      rw [CloseSessionTransition.closedForGood] at closed
      split at closed
      · rename_i terminal
        cases closed
        rw [CloseSystem.terminalSession, at_, Option.bind_some, if_pos]
        rw [CloseSessionTransition.completesAs, if_pos rfl]
        exact terminal.2
      · cases closed

section Sessions

variable {client next : CloseSystem} (inv : CloseInv client) {action : CloseAction} (taken : closeStep client action = some next)

theorem terminal_session_completes (terminal : client.terminalSession action = some session) :
    ∃ (k : Nat) (transition : CloseSessionTransition), client.transitions[k]? = some transition ∧ transition.completesAs k action = some .terminal ∧
      transition.virtualSession = session := by
  rw [CloseSystem.terminalSession.eq_def] at terminal
  split at terminal
  · obtain ⟨transition, at_, rest⟩ := Option.bind_eq_some_iff.mp terminal
    split at rest
    · rename_i completes
      cases rest
      exact ⟨_, transition, at_, completes, rfl⟩
    · cases rest
  · cases terminal

theorem completes_terminal_session (at_ : client.transitions[k]? = some transition)
    (completes : transition.completesAs k action = some .terminal) : client.terminalSession action = some transition.virtualSession := by
  cases action with
  | settle j =>
    have same : j = k := by
      rw [CloseSessionTransition.completesAs] at completes
      split at completes
      · assumption
      · cases completes
    subst same
    rw [CloseSystem.terminalSession, at_, Option.bind_some, if_pos completes]
  | drop j =>
    rw [CloseSessionTransition.completesAs] at completes
    split at completes
    · split at completes <;> cases completes
    · cases completes
  | registerSession | login | messageOperation | beginClose | markStarted | nativeClose => cases completes

include inv taken

theorem gone_or_terminal (room : next.registered < 2 ^ 64 - 1) (session : VirtualHandle)
    (gone : next.context.sessionHandles.isProvenGone session = true) :
    client.context.sessionHandles.isProvenGone session = true ∨ client.terminalSession action = some session := by
  cases close_step_context taken with
  | kept handles _ =>
    rw [handles] at gone
    exact .inl gone
  | registered backend slot unused stepped =>
    subst stepped
    change (client.context.sessionHandles.insert backend).1.isProvenGone session = true at gone
    obtain ⟨-, -, -, updated, -⟩ := registers_fresh inv unused room
    by_cases same : session = ⟨client.context.sessionHandles.nextId⟩
    · rw [active_not_gone ((updated.resolve session).trans (if_pos same))] at gone
      cases gone
    · exact .inl ((gone_elsewhere updated same).symm.trans gone)
  | begun virt backend active handles _ =>
    obtain ⟨-, -, updated, -⟩ := suspend_spec inv.well active
    rw [← handles] at updated
    by_cases same : session = virt
    · rw [suspended_not_gone ((updated.suspended session).trans (if_pos same))] at gone
      cases gone
    · exact .inl ((gone_elsewhere updated same).symm.trans gone)
  | completed k before completion at_ completes =>
    obtain ⟨-, active, suspended, completed⟩ := completing_effect inv at_ completes taken
    by_cases same : session = before.virtualSession
    · subst same
      cases completion with
      | terminal => exact .inr (completes_terminal_session at_ completes)
      | ambiguous =>
        have kept := ((close_protocol_of_inv inv).ambiguous k _ _ _ at_ completes taken).2
        rw [suspended_not_gone kept] at gone
        cases gone
      | transient =>
        obtain ⟨bound, free⟩ := (close_protocol_of_inv inv).transient k _ _ _ at_ completes taken
        by_cases held : ∃ query, client.context.sessionHandles.resolve query = some before.backendHandle
        · rw [suspended_not_gone (bound held).2] at gone
          cases gone
        · rw [active_not_gone (free fun query same => held ⟨query, same⟩)] at gone
          cases gone
    · exact .inl ((gone_elsewhere completed.updated same).symm.trans gone)

theorem session_counter_grows (room : next.registered < 2 ^ 64 - 1) :
    client.context.sessionHandles.nextId.toNat ≤ next.context.sessionHandles.nextId.toNat := by
  cases close_step_context taken with
  | kept handles _ => rw [handles]
  | registered backend slot unused stepped =>
    subst stepped
    obtain ⟨-, grown, -⟩ := registers_fresh inv unused room
    change _ ≤ (client.context.sessionHandles.insert backend).1.nextId.toNat
    omega
  | begun virt backend active handles _ =>
    obtain ⟨-, counter, -⟩ := suspend_spec inv.well active
    rw [handles, counter]
  | completed k before completion at_ completes =>
    obtain ⟨-, active, suspended, completed⟩ := completing_effect inv at_ completes taken
    rw [completed.counter]

theorem terminal_evicts (well : HandleWell client.context.objectHandles) (terminal : client.terminalSession action = some session) :
    GoneForGood next.context.sessionHandles session ∧
      ObjectsEvicted client.context next.context (client.context.indexedObjects session) ∧
      ∀ query, next.context.sessionObjects.lookup query =
        if query = session then none else client.context.sessionObjects.lookup query := by
  obtain ⟨k, transition, at_, completes, mine⟩ := terminal_session_completes terminal
  have gone := terminal_gone_for_good inv at_ completes taken
  rw [mine] at gone
  rcases close_step_objects well taken with ⟨-, stale⟩ | ⟨ended, same, evicted, index⟩
  · obtain ⟨pending, member, here, unsettled, undropped, missing⟩ := stale session terminal
    rw [← here] at missing
    exact absurd (inv.suspended pending member (pending_of unsettled undropped)) missing
  · rw [terminal] at same
    cases same
    exact ⟨gone, evicted, index⟩

end Sessions

structure ObjectGone (context : LogicalClientInstance) (object : VirtualHandle) : Prop where
  resolve : context.objectHandles.resolve object = none
  created : object ∉ context.createdObjects
  isPrivate : context.objectPrivate.lookup object = none

structure IndexInv (client : CloseSystem) : Prop where
  close : CloseInv client
  room : client.registered < 2 ^ 64 - 1
  well : HandleWell client.context.objectHandles
  index : ∀ session, client.context.sessionHandles.isProvenGone session = true → client.context.sessionObjects.lookup session = none
  closed : ∀ transition ∈ client.transitions, ∀ session, transition.closedForGood = some session →
    GoneForGood client.context.sessionHandles session

structure MintIndexed (client : CloseSystem) (mint : MintRequest) : Prop where
  session : mint.session.raw.toNat < client.context.sessionHandles.nextId.toNat
  issued : ∀ object identity virt, mint.phase = .registered object identity false virt →
    virt.raw.toNat < client.context.objectHandles.nextId.toNat
  indexed : ∀ object identity virt, mint.phase = .registered object identity false virt →
    client.context.sessionHandles.isProvenGone mint.session = false → virt ∈ client.context.indexedObjects mint.session
  gone : ∀ object identity virt, mint.phase = .registered object identity false virt →
    client.context.sessionHandles.isProvenGone mint.session = true → ObjectGone client.context virt

def IndexMove (client after : CloseSystem) : Prop := IndexInv after ∧ ∀ mint, MintIndexed client mint → MintIndexed after mint

theorem object_gone_evicted {next : LogicalClientInstance} {objects : List VirtualHandle} (evicted : ObjectsEvicted context next objects)
    {object : VirtualHandle} (swept : object ∈ objects ∨ ObjectGone context object) : ObjectGone next object := by
  rcases swept with listed | gone
  · exact ⟨(evicted.resolve object).trans (if_pos listed), fun member => ((evicted.created object).mp member).2 listed,
      (evicted.isPrivate object).trans (if_pos listed)⟩
  · refine ⟨?_, fun member => gone.created ((evicted.created object).mp member).1, ?_⟩
    · rw [evicted.resolve, gone.resolve, ite_self]
    · rw [evicted.isPrivate, gone.isPrivate, ite_self]

theorem gone_not_chosen {map : HandleMap} {virt : VirtualHandle} {backend : BackendHandle}
    (chosen : map.resolve virt = some backend ∨ map.nextId.toNat ≤ virt.raw.toNat) {query : VirtualHandle}
    (issued : query.raw.toNat < map.nextId.toNat) (gone : map.resolve query = none) : query ≠ virt := by
  rintro rfl
  rcases chosen with held | unissued
  · rw [gone] at held
    cases held
  · omega

theorem index_move_objects (inv : IndexInv client) (sessions : after.context.sessionHandles = client.context.sessionHandles)
    (transitions : after.transitions = client.transitions) (close : CloseInv after) (registered : after.registered = client.registered)
    (well : HandleWell after.context.objectHandles)
    (index : ∀ session, client.context.sessionHandles.isProvenGone session = true → after.context.sessionObjects.lookup session = none)
    (counter : client.context.objectHandles.nextId.toNat ≤ after.context.objectHandles.nextId.toNat)
    (indexed : ∀ session object, object ∈ client.context.indexedObjects session → object ∈ after.context.indexedObjects session)
    (gone : ∀ object, object.raw.toNat < client.context.objectHandles.nextId.toNat → ObjectGone client.context object →
      ObjectGone after.context object) : IndexMove client after := by
  refine ⟨⟨close, ?_, well, ?_, ?_⟩, fun mint before => ⟨?_, ?_, ?_, ?_⟩⟩
  · rw [registered]
    exact inv.room
  · rw [sessions]
    exact index
  · rw [sessions, transitions]
    exact inv.closed
  · rw [sessions]
    exact before.session
  · exact fun object identity virt phase => Nat.lt_of_lt_of_le (before.issued object identity virt phase) counter
  · rw [sessions]
    exact fun object identity virt phase live => indexed _ virt (before.indexed object identity virt phase live)
  · rw [sessions]
    exact fun object identity virt phase ended =>
      gone virt (before.issued object identity virt phase) (before.gone object identity virt phase ended)

theorem session_step_objects (inv : CloseInv client) (well : HandleWell client.context.objectHandles)
    (taken : closeStep client action = some after) :
    ∃ swept, ObjectsEvicted client.context after.context swept ∧
      (∀ session, client.terminalSession action = some session → swept = client.context.indexedObjects session) ∧
      ∀ query, after.context.sessionObjects.lookup query =
        if client.terminalSession action = some query then none else client.context.sessionObjects.lookup query := by
  cases terminal : client.terminalSession action with
  | none =>
    rcases close_step_objects well taken with ⟨same, -⟩ | ⟨ended, impossible, -⟩
    · refine ⟨[], evicted_nothing _ _ well same, nofun, fun query => ?_⟩
      rw [if_neg (Option.some_ne_none query).symm, same.index]
    · rw [terminal] at impossible
      cases impossible
  | some session =>
    obtain ⟨-, evicted, index⟩ := terminal_evicts inv taken well terminal
    refine ⟨_, evicted, fun query same => by rw [Option.some.inj same], fun query => ?_⟩
    rw [index]
    by_cases same : query = session
    · rw [if_pos same, if_pos (congrArg some same.symm)]
    · rw [if_neg same, if_neg fun equal => same (Option.some.inj equal).symm]

theorem index_move_session (inv : IndexInv client)
    (taken : closeStep client action = some after) (room : after.registered < 2 ^ 64 - 1) : IndexMove client after := by
  have ends := gone_or_terminal inv.close taken room
  have terminates : ∀ session, client.terminalSession action = some session → GoneForGood after.context.sessionHandles session :=
    fun session terminal => (terminal_evicts inv.close taken inv.well terminal).1
  have stays := gone_step client after inv.close room taken
  obtain ⟨swept, evicted, listed, index⟩ := session_step_objects inv.close inv.well taken
  refine ⟨⟨close_inv_step inv.close room taken, room, evicted.well, fun session gone => ?_, ?_⟩,
    fun mint before => ⟨?_, ?_, ?_, ?_⟩⟩
  · rw [index]
    split
    · rfl
    · rename_i other
      exact inv.index session ((ends session gone).resolve_right other)
  · intro transition member session closed
    rcases closed_for_good_step taken member closed with ⟨earlier, old, same⟩ | terminal
    · exact stays session (inv.closed earlier old session same)
    · exact terminates session terminal
  · exact Nat.lt_of_lt_of_le before.session (session_counter_grows inv.close taken room)
  · rw [evicted.counter]
    exact before.issued
  · intro object identity virt phase live
    have lived : client.context.sessionHandles.isProvenGone mint.session = false := by
      rw [← Bool.not_eq_true]
      intro gone
      rw [(stays mint.session ⟨before.session, gone⟩).2] at live
      cases live
    have other : client.terminalSession action ≠ some mint.session := by
      intro terminal
      rw [(terminates mint.session terminal).2] at live
      cases live
    rw [LogicalClientInstance.indexedObjects, index, if_neg other]
    exact before.indexed object identity virt phase lived
  · intro object identity virt phase gone
    refine object_gone_evicted evicted ?_
    cases already : client.context.sessionHandles.isProvenGone mint.session with
    | true => exact .inr (before.gone object identity virt phase already)
    | false =>
      rcases ends mint.session gone with impossible | terminal
      · rw [already] at impossible
        cases impossible
      · rw [listed mint.session terminal]
        exact .inl (before.indexed object identity virt phase already)

theorem close_inv_same_sessions (inv : CloseInv client)
    (same : SameSessions client.context context) : CloseInv { client with context := context } := by
  have registered : ∀ slot, context.hasSessionOn slot = client.context.hasSessionOn slot := fun slot => by
    rw [LogicalClientInstance.hasSessionOn, same.slots]
    rfl
  refine ⟨?_, ?_, inv.once, inv.started, ?_, inv.claims, inv.custody, ?_, ?_, ?_, ?_⟩ <;> dsimp only
  · rw [same.handles]
    exact inv.well
  · rw [same.handles]
    exact inv.counter
  · rw [same.handles]
    exact inv.suspended
  · rw [same.handles]
    exact inv.native
  · rw [same.handles]
    exact inv.held
  · rw [same.handles, same.slots]
    exact inv.slots
  · rw [same.login]
    exact fun slot held => (registered slot).trans (inv.login slot held)

variable {object : BackendHandle}

theorem index_move_evicted (inv : IndexInv client) :
    IndexMove client { client with context := client.context.evictBackendObject object } := by
  obtain ⟨index, swept, evicted, -⟩ := evict_backend_object_spec inv.well
  have sessions : SameSessions client.context (client.context.evictBackendObject object) := by
    rw [LogicalClientInstance.evictBackendObject]
    split <;> exact ⟨rfl, rfl, rfl, rfl⟩
  refine index_move_objects inv sessions.handles rfl (close_inv_same_sessions inv.close sessions) rfl evicted.well ?_
    (Nat.le_of_eq (congrArg _ evicted.counter.symm)) ?_ ?_
  · intro session gone
    rw [index]
    exact inv.index session gone
  · intro session query listed
    rw [LogicalClientInstance.indexedObjects, index]
    exact listed
  · exact fun query _ gone => object_gone_evicted evicted (.inr gone)

theorem index_move_found (inv : IndexInv client) (room : client.context.objectHandles.nextId.toNat + 1 < 2 ^ 64) :
    IndexMove client { client with context := { client.context with objectHandles := (client.context.objectHandles.insert object).1 } } := by
  obtain ⟨well, grown, -, chosen, resolve⟩ := insert_reads inv.well object room
  refine index_move_objects inv rfl rfl (close_inv_same_sessions inv.close ⟨rfl, rfl, rfl, rfl⟩) rfl well inv.index grown
    (fun _ _ listed => listed) fun query issued gone => ⟨?_, gone.created, gone.isPrivate⟩
  refine (resolve query).trans ?_
  rw [if_neg (gone_not_chosen chosen issued gone.resolve)]
  exact gone.resolve

theorem registered_sessions (context : LogicalClientInstance) (session : VirtualHandle) (object : BackendHandle) (isToken : Bool)
    (isPrivate : Option Bool) : SameSessions context (context.registerSessionObjectHandle session object isToken isPrivate).1 := by
  cases isToken <;> exact ⟨rfl, rfl, rfl, rfl⟩

section Registration

variable {client : CloseSystem} (inv : IndexInv client) (room : client.context.objectHandles.nextId.toNat + 1 < 2 ^ 64)
variable {session : VirtualHandle} (object : BackendHandle) {isToken : Bool} (isPrivate : Option Bool)
variable (inTime : isToken = false → client.context.sessionHandles.isProvenGone session = false)

include inv room inTime

theorem index_move_registered : IndexMove client
    { client with context := (client.context.registerSessionObjectHandle session object isToken isPrivate).1 } := by
  have registered := register_session_object_spec inv.well room session object isToken isPrivate
  have sessions := registered_sessions client.context session object isToken isPrivate
  refine index_move_objects inv sessions.handles rfl (close_inv_same_sessions inv.close sessions) rfl registered.well ?_
    registered.counter ?_ ?_
  · intro query gone
    rw [registered.index, if_neg]
    · exact inv.index query gone
    · rintro ⟨declared, rfl⟩
      rw [inTime declared] at gone
      cases gone
  · intro query virt listed
    rw [LogicalClientInstance.indexedObjects, registered.index]
    split
    · rename_i both
      rw [both.2] at listed
      exact List.mem_append_left _ listed
    · exact listed
  · intro query issued gone
    have other := gone_not_chosen registered.chosen issued gone.resolve
    refine ⟨?_, fun member => gone.created ((registered.created query other).mp member), ?_⟩
    · rw [registered.resolve, if_neg other]
      exact gone.resolve
    · rw [registered.isPrivate query other]
      exact gone.isPrivate

theorem mint_indexed_registered (mine : mint.session = session)
    (issued : session.raw.toNat < client.context.sessionHandles.nextId.toNat)
    (adopted : ∀ number identity virt, mint.phase = .registered number identity false virt →
      isToken = false ∧ virt = (client.context.registerSessionObjectHandle session object isToken isPrivate).2) :
    MintIndexed { client with context := (client.context.registerSessionObjectHandle session object isToken isPrivate).1 } mint := by
  have registered := register_session_object_spec inv.well room session object isToken isPrivate
  have sessions := registered_sessions client.context session object isToken isPrivate
  subst mine
  refine ⟨?_, fun number identity virt phase => ?_, fun number identity virt phase _ => ?_, fun number identity virt phase gone => ?_⟩
  · rw [sessions.handles]
    exact issued
  · rw [(adopted number identity virt phase).2]
    exact registered.issued
  · obtain ⟨recorded, rfl⟩ := adopted number identity virt phase
    rw [LogicalClientInstance.indexedObjects, registered.index, if_pos ⟨recorded, rfl⟩]
    exact List.mem_append_right _ (List.mem_singleton_self _)
  · obtain ⟨recorded, -⟩ := adopted number identity virt phase
    rw [sessions.handles, inTime recorded] at gone
    cases gone

end Registration

-- A mint recorded under its session is registered while the session is, and no id counter
-- is about to wrap.
def ObjectSystem.registersInTime (system : ObjectSystem) : ObjectAction → Bool
  | .session i (.registerSession _ _) => (system.contextAt i).all fun client => decide (client.registered + 2 < 2 ^ 64)
  | .registerObject k observed =>
    system.mints[k]?.all fun mint =>
      system.hasObjectRoom mint.context && (mint.call.classifiesToken observed ||
        (system.contextAt mint.context).all fun client => !client.context.sessionHandles.isProvenGone mint.session)
  | .findObject i _ => system.hasObjectRoom i
  | _ => true

theorem session_object_classified (permitted : call.permits false = true)
    (truthful : observed.all (· == false) = true) : call.classifiesToken observed = false := by
  cases call with
  | create declared isPrivate => exact (beq_iff_eq.mp permitted).symm
  | copy tokenOverride isPrivate =>
    cases observed with
    | some answer => exact beq_iff_eq.mp truthful
    | none =>
      cases tokenOverride with
      | some declared => exact beq_iff_eq.mp permitted
      | none => rfl

structure SessionObjectsInv (system : ObjectSystem) : Prop where
  clients : ∀ i client, system.contextAt i = some client → IndexInv client
  placed : ∀ mint ∈ system.mints, mint.context < system.contexts.length
  permitted : ∀ mint ∈ system.mints, ∀ object identity isToken, mint.phase = .minted object identity isToken → mint.call.permits isToken = true
  mints : ∀ mint ∈ system.mints, ∀ client, system.contextAt mint.context = some client → MintIndexed client mint

theorem index_inv_new : IndexInv CloseSystem.new where
  close := close_inv_new
  room := by decide
  well := handle_well_new
  index session _ := rfl
  closed _ member := nomatch member

variable {next : ObjectSystem}

theorem session_objects_moved {system : ObjectSystem} (inv : SessionObjectsInv system) (contexts : ContextsMove (fun _ => IndexMove) system next)
    (mints : ∀ mint ∈ next.mints, mint ∈ system.mints ∨ mint.context < next.contexts.length ∧
      (∀ object identity isToken, mint.phase = .minted object identity isToken → mint.call.permits isToken = true) ∧
      ∀ client, next.contextAt mint.context = some client → MintIndexed client mint) : SessionObjectsInv next where
  clients i after at_ := by
    by_cases inside : i < system.contexts.length
    · obtain ⟨-, -, held, -⟩ := contexts.clients i after at_ inside
      exact held
    · rw [contexts.fresh i after at_ (Nat.le_of_not_lt inside)]
      exact index_inv_new
  placed mint member := by
    rcases mints mint member with old | new
    · exact Nat.lt_of_lt_of_le (inv.placed mint old) contexts.length
    · exact new.1
  permitted mint member := by
    rcases mints mint member with old | new
    · exact inv.permitted mint old
    · exact new.2.1
  mints mint member after at_ := by
    rcases mints mint member with old | new
    · obtain ⟨client, here, -, kept⟩ := contexts.clients mint.context after at_ (inv.placed mint old)
      exact kept mint (inv.mints mint old client here)
    · exact new.2.2 after at_

theorem mint_indexed_idle (session : mint.session.raw.toNat < client.context.sessionHandles.nextId.toNat)
    (idle : ∀ object identity virt, mint.phase ≠ .registered object identity false virt) : MintIndexed client mint :=
  ⟨session, fun object identity virt phase => absurd phase (idle object identity virt),
    fun object identity virt phase => absurd phase (idle object identity virt),
    fun object identity virt phase => absurd phase (idle object identity virt)⟩

section Steps

variable {system : ObjectSystem} (inv : SessionObjectsInv system)

include inv

theorem index_move_still (i : Nat) (client : CloseSystem) (at_ : system.contextAt i = some client) : IndexMove client client :=
  ⟨inv.clients i client at_, fun _ held => held⟩

theorem session_objects_begun (at_ : system.contextAt i = some client)
    (taken : system.beginMint i client session call = some next) : SessionObjectsInv next := by
  obtain ⟨backend, active, rfl⟩ := Option.map_eq_some_iff.mp taken
  refine session_objects_moved inv (contexts_move_same (index_move_still inv) rfl)
    (forall_added (fun _ => .inl) (.inr ⟨system.context_placed i client at_, nofun, fun here same => ?_⟩))
  cases Option.some.inj (at_.symm.trans same)
  have issued := (inv.clients i client at_).close.well.below session (active_not_gone active)
  exact mint_indexed_idle issued nofun

variable {object : BackendHandle} {isToken : Bool}

theorem session_objects_minted (at_ : system.mints[k]? = some mint) {session : BackendHandle} (permitted : mint.call.permits isToken = true) :
    SessionObjectsInv (system.nativeMint k mint session object isToken) := by
  have member := List.mem_of_getElem? at_
  refine session_objects_moved inv (contexts_move_same (index_move_still inv) rfl)
    (forall_set (fun _ => .inl) (.inr ⟨inv.placed mint member, fun number identity token phase => ?_, fun client here => ?_⟩))
  · cases phase
    exact permitted
  · exact mint_indexed_idle (inv.mints mint member client here).session nofun

theorem session_objects_registered (at_ : system.mints[k]? = some mint) {identity : Nat} (phase : mint.phase = .minted object identity isToken)
    (truthful : observed.all (· == isToken) = true) (allowed : system.registersInTime (.registerObject k observed) = true) :
    SessionObjectsInv (system.registerObject k mint object identity isToken observed) := by
  have member := List.mem_of_getElem? at_
  have permitted := inv.permitted mint member object identity isToken phase
  rw [ObjectSystem.registersInTime, at_, Option.all_some, Bool.and_eq_true] at allowed
  obtain ⟨room, inTime⟩ := allowed
  rw [ObjectSystem.registerObject]
  cases here : system.contextAt mint.context with
  | none =>
    refine session_objects_moved inv (contexts_move_same (index_move_still inv) rfl)
      (forall_set (fun _ => .inl) (.inr ⟨inv.placed mint member, nofun, fun client present => ?_⟩))
    cases here.symm.trans present
  | some client =>
    rw [ObjectSystem.hasObjectRoom, here, Option.all_some, decide_eq_true_eq] at room
    have live : mint.call.classifiesToken observed = false → client.context.sessionHandles.isProvenGone mint.session = false := fun recorded => by
      rw [recorded, Bool.false_or, here, Option.all_some, Bool.not_eq_true'] at inTime
      exact inTime
    have held := inv.clients mint.context client here
    have moved := index_move_registered held room object
      (some mint.call.isPrivate) live
    refine session_objects_moved inv (contexts_move_client (index_move_still inv) _ here rfl moved)
      (forall_set (fun _ => .inl) (.inr ⟨?_, nofun, fun after present => ?_⟩))
    · change _ < (system.contexts.set _ _).length
      rw [List.length_set]
      exact inv.placed mint member
    · have placed := system.context_set mint.context client
        { client with
            context := (client.context.registerSessionObjectHandle mint.session object (mint.call.classifiesToken observed)
              (some mint.call.isPrivate)).1 } here mint.context
      rw [if_pos rfl] at placed
      cases Option.some.inj (placed.symm.trans present)
      refine mint_indexed_registered held room object (some mint.call.isPrivate)
        live rfl (inv.mints mint member client here).session fun number id virt same => ?_
      cases same
      exact ⟨session_object_classified permitted truthful, rfl⟩

theorem session_objects_client (at_ : system.contextAt i = some client)
    (contexts : next.contexts = (system.setContext i after).contexts) (mints : next.mints = system.mints) (moved : IndexMove client after) :
    SessionObjectsInv next := by
  refine session_objects_moved inv
    (contexts_move_client (index_move_still inv) after at_ contexts moved) fun mint member => .inl ?_
  rw [← mints]
  exact member

theorem session_objects_elsewhere (contexts : next.contexts = system.contexts) (mints : next.mints = system.mints) :
    SessionObjectsInv next := by
  refine session_objects_moved inv (contexts_move_same (index_move_still inv) contexts)
    fun mint member => .inl ?_
  rw [← mints]
  exact member

theorem session_objects_session (at_ : system.contextAt i = some client) (allowed : system.registersInTime (.session i action) = true)
    (taken : system.sessionAction i client action = some next) : SessionObjectsInv next := by
  obtain ⟨after, closed, rfl⟩ := Option.map_eq_some_iff.mp taken
  have held := inv.clients i client at_
  have room : after.registered < 2 ^ 64 - 1 := by
    have before := held.room
    rcases registered_step closed with same | ⟨backend, slot, rfl, more⟩
    · omega
    · rw [ObjectSystem.registersInTime, at_, Option.all_some, decide_eq_true_eq] at allowed
      omega
  exact session_objects_client inv at_ rfl rfl (index_move_session held closed room)

theorem session_objects_step {action : ObjectAction} (allowed : system.registersInTime action = true)
    (taken : objectStep system action = some next) : SessionObjectsInv next := by
  cases action with
  | newContext =>
    cases taken
    exact session_objects_moved inv (contexts_move_added (index_move_still inv)) fun _ member => .inl member
  | endContext i =>
    obtain ⟨-, -, rfl⟩ := Option.map_eq_some_iff.mp taken
    exact session_objects_moved inv (contexts_move_ended (index_move_still inv)) fun _ member => .inl member
  | session i action =>
    obtain ⟨client, at_, moved⟩ := Option.bind_eq_some_iff.mp taken
    exact session_objects_session inv at_ allowed moved
  | createObject i session isToken isPrivate =>
    obtain ⟨client, at_, moved⟩ := Option.bind_eq_some_iff.mp taken
    exact session_objects_begun inv at_ moved
  | copyObject i session source tokenOverride isPrivate =>
    obtain ⟨client, at_, moved⟩ := Option.bind_eq_some_iff.mp taken
    split at moved
    · exact session_objects_begun inv at_ moved
    · cases moved
  | nativeMint k object isToken =>
    obtain ⟨mint, at_, moved⟩ := Option.bind_eq_some_iff.mp taken
    split at moved
    · split at moved
      · rename_i fits
        cases moved
        exact session_objects_minted inv at_ fits.1
      · cases moved
    · cases moved
  | registerObject k observed =>
    obtain ⟨mint, at_, moved⟩ := Option.bind_eq_some_iff.mp taken
    split at moved
    · rename_i object identity isToken phase
      split at moved
      · rename_i truthful
        cases moved
        exact session_objects_registered inv at_ phase truthful allowed
      · cases moved
    · cases moved
  | findObject i object =>
    obtain ⟨client, at_, moved⟩ := Option.bind_eq_some_iff.mp taken
    rw [ObjectSystem.registersInTime, ObjectSystem.hasObjectRoom, at_, Option.all_some, decide_eq_true_eq] at allowed
    split at moved <;> cases moved
    exact session_objects_client inv at_ rfl rfl (index_move_found (inv.clients i client at_) allowed)
  | destroyObject i session object =>
    obtain ⟨client, at_, moved⟩ := Option.bind_eq_some_iff.mp taken
    split at moved
    · obtain ⟨backend, -, rfl⟩ := Option.map_eq_some_iff.mp moved
      exact session_objects_elsewhere inv rfl rfl
    · cases moved
  | nativeDestroy k =>
    obtain ⟨request, at_, moved⟩ := Option.bind_eq_some_iff.mp taken
    split at moved
    · split at moved <;> cases moved
      exact session_objects_elsewhere inv rfl rfl
    · cases moved
  | evictIn k i =>
    obtain ⟨request, at_, moved⟩ := Option.bind_eq_some_iff.mp taken
    split at moved
    · split at moved
      · cases moved
      · obtain ⟨client, here, rfl⟩ := Option.map_eq_some_iff.mp moved
        exact session_objects_client inv here rfl rfl (index_move_evicted (inv.clients i client here))
    · cases moved
  | vanish object =>
    rw [objectStep] at taken
    split at taken <;> cases taken
    exact session_objects_elsewhere inv rfl rfl

end Steps

theorem session_objects_new : SessionObjectsInv ObjectSystem.new where
  clients i client at_ := by cases at_
  placed mint member := nomatch member
  permitted mint member := nomatch member
  mints mint member := nomatch member

-- In every run whose mints register in time, a session object whose session was closed
-- for good is gone from its context.
theorem no_session_object_outlives (actions : List ObjectAction) (final : ObjectSystem)
    (ran : exec objectStep ObjectSystem.new actions = some final)
    (meets : along objectStep (fun system action => system.registersInTime action = true) ObjectSystem.new actions) (mint : MintRequest)
    (member : mint ∈ final.mints) (object : BackendHandle) (identity : Nat) (virt : VirtualHandle)
    (adopted : mint.phase = .registered object identity false virt) (client : CloseSystem)
    (present : final.contextAt mint.context = some client) (transition : CloseSessionTransition) (token : transition ∈ client.transitions)
    (closed : transition.closedForGood = some mint.session) :
    client.context.objectHandles.resolve virt = none ∧ virt ∉ client.context.createdObjects ∧
      client.context.objectPrivate.lookup virt = none ∧ client.context.sessionObjects.lookup mint.session = none := by
  have inv := exec_invariant_along objectStep (fun system action => system.registersInTime action = true) SessionObjectsInv
    (fun system action next held allowed taken => session_objects_step held allowed taken) session_objects_new meets ran
  have held := inv.clients mint.context client present
  have ended := (held.closed transition token mint.session closed).2
  have gone := (inv.mints mint member client present).gone object identity virt adopted ended
  exact ⟨gone.resolve, gone.created, gone.isPrivate, held.index mint.session ended⟩

def closedAround (early late : List ObjectAction) : List ObjectAction :=
  [.newContext, .session 0 (.registerSession ⟨1⟩ ⟨0⟩), .createObject 0 ⟨1⟩ false true, .nativeMint 0 ⟨9⟩ false] ++ early ++
    [.session 0 (.beginClose ⟨1⟩), .session 0 (.markStarted 0), .session 0 (.nativeClose 0 .ok), .session 0 (.settle 0)] ++ late

def ObjectSystem.firstReads (system : ObjectSystem) :
    Option MintRequest × Option (List CloseSessionTransition × Option BackendHandle) :=
  (system.mints[0]?, (system.contextAt 0).map fun client => (client.transitions, client.context.objectHandles.resolve ⟨1⟩))

def sessionMint : MintRequest := ⟨0, ⟨1⟩, .create false true, .registered ⟨9⟩ 0 false ⟨1⟩⟩

def settledToken : CloseSessionTransition := ⟨⟨1⟩, ⟨1⟩, true, true, some .ok, false, 1⟩

theorem first_reads (actions : List ObjectAction) (resolved : Option BackendHandle)
    (computed : (exec objectStep ObjectSystem.new actions).map ObjectSystem.firstReads = some (some sessionMint, some ([settledToken], resolved))) :
    ∃ (final : ObjectSystem) (client : CloseSystem), exec objectStep ObjectSystem.new actions = some final ∧
      sessionMint ∈ final.mints ∧ final.contextAt 0 = some client ∧ settledToken ∈ client.transitions ∧
      settledToken.closedForGood = some ⟨1⟩ ∧ client.context.objectHandles.resolve ⟨1⟩ = resolved := by
  obtain ⟨final, ran, reads⟩ := Option.map_eq_some_iff.mp computed
  obtain ⟨listed, rest⟩ := Prod.mk.inj reads
  obtain ⟨client, here, held⟩ := Option.map_eq_some_iff.mp rest
  obtain ⟨tokens, found⟩ := Prod.mk.inj held
  refine ⟨final, client, ran, List.mem_of_getElem? listed, here, ?_, by decide, found⟩
  rw [tokens]
  exact List.mem_singleton_self _

theorem no_session_object_outlives_closed :
    ∃ (final : ObjectSystem) (client : CloseSystem), exec objectStep ObjectSystem.new (closedAround [.registerObject 0 none] []) = some final ∧
      sessionMint ∈ final.mints ∧ final.contextAt 0 = some client ∧ settledToken ∈ client.transitions ∧
      settledToken.closedForGood = some ⟨1⟩ ∧ client.context.objectHandles.resolve ⟨1⟩ = none := by
  obtain ⟨final, client, ran, member, here, token, settled, -⟩ := first_reads (closedAround [.registerObject 0 none] []) none (by decide)
  have gone := no_session_object_outlives _ final ran (by decide) sessionMint member ⟨9⟩ 0 ⟨1⟩ rfl client here settledToken token settled
  exact ⟨final, client, ran, member, here, token, settled, gone.1⟩

theorem late_registration_outlives :
    ∃ (final : ObjectSystem) (client : CloseSystem), exec objectStep ObjectSystem.new (closedAround [] [.registerObject 0 none]) = some final ∧
      sessionMint ∈ final.mints ∧ final.contextAt 0 = some client ∧ settledToken ∈ client.transitions ∧
      settledToken.closedForGood = some ⟨1⟩ ∧ client.context.objectHandles.resolve ⟨1⟩ = some ⟨9⟩ :=
  first_reads _ _ (by decide)

end Pkcs11Proxy.Server
