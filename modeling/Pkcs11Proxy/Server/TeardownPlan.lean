import Pkcs11Proxy.Lib.Departures
import Pkcs11Proxy.Server.ClientInstance
import Pkcs11Proxy.Server.HandleReads

namespace Pkcs11Proxy.Server

open Lib

structure Tenant where
  id : ClientContextId
  client : LogicalClientInstance
  sessionOrder : List VirtualHandle
  loginOrder : List BackendSlotId
  well : HandleWell client.sessionHandles
  sessions : Enumerates sessionOrder client.sessionSlots
  logins : Enumerates loginOrder client.loginState

structure Registry where
  tenants : List Tenant
  distinct : (tenants.map Tenant.id).Nodup

structure SlotLogout where
  slot : BackendSlotId
  viaSession : BackendHandle
  login : LoginState
deriving DecidableEq, Repr

structure ContextTeardownPlan where
  sessionsToClose : Finset BackendHandle
  slotLogouts : List SlotLogout

namespace Tenant

variable (tenant : Tenant)

def sessionEntries : List (VirtualHandle × BackendSlotId) := dictEntries tenant.sessionOrder tenant.client.sessionSlots

-- `.find` stops at the first session of the slot, active or not.
def firstSessionOn (slot : BackendSlotId) : Option VirtualHandle :=
  (tenant.sessionEntries.find? fun entry => entry.2 = slot).map Prod.fst

def ownActiveSession (slot : BackendSlotId) : Option BackendHandle :=
  ((tenant.sessionEntries.filter fun entry => entry.2 = slot).filterMap fun entry => tenant.client.sessionHandles.resolve entry.1).head?

end Tenant

section Plan

variable (live : List Tenant)

def firstLoginStateForSlotExcludingAuthoritative (slot : BackendSlotId) (excluded : ClientContextId) : Option LoginState :=
  live.findSome? fun tenant => if tenant.id = excluded then none else tenant.client.loginState.lookup slot

def backendSessionReferencedByLiveContext (handle : BackendHandle) : Bool :=
  live.any fun tenant => tenant.client.sessionHandles.referencesBackend handle

def anyActiveBackendSessionForSlot (slot : BackendSlotId) : Option BackendHandle :=
  live.findSome? fun tenant => (tenant.firstSessionOn slot).bind tenant.client.sessionHandles.resolve

def logoutCarrier (departed : Tenant) (slot : BackendSlotId) : Option BackendHandle :=
  (departed.ownActiveSession slot).or (anyActiveBackendSessionForSlot live slot)

def slotLogoutOf (departed : Tenant) (entry : BackendSlotId × LoginState) : Option SlotLogout :=
  if (firstLoginStateForSlotExcludingAuthoritative live entry.1 departed.id).isSome then none
  else (logoutCarrier live departed entry.1).map fun via => ⟨entry.1, via, entry.2⟩

def planRemovedContextTeardown (departed : Tenant) : ContextTeardownPlan × LogicalClientInstance :=
  (⟨departed.client.sessionHandles.backendHandles.filter fun handle => backendSessionReferencedByLiveContext live handle = false,
      (dictEntries departed.loginOrder departed.client.loginState).filterMap (slotLogoutOf live departed)⟩,
    departed.client.teardown.1)

end Plan

def teardownPlans (registry : Registry) (ids : List ClientContextId) : List ContextTeardownPlan :=
  (departures Tenant.id registry.tenants ids).map fun entry => (planRemovedContextTeardown entry.2 entry.1).1

namespace Tenant

def Retains (tenant : Tenant) (handle : BackendHandle) : Prop :=
  ∃ virt, tenant.client.sessionHandles.resolve virt = some handle ∨ tenant.client.sessionHandles.suspendedBackend virt = some handle

def Holds (slot : BackendSlotId) (tenant : Tenant) : Prop := tenant.client.loginState.lookup slot ≠ none

def ActiveOn (slot : BackendSlotId) (tenant : Tenant) : Prop :=
  ∃ virt, tenant.client.sessionSlots.lookup virt = some slot ∧ tenant.client.sessionHandles.resolve virt ≠ none

def OffersCarrier (slot : BackendSlotId) (tenant : Tenant) : Prop :=
  ∃ virt, tenant.firstSessionOn slot = some virt ∧ tenant.client.sessionHandles.resolve virt ≠ none

theorem mem_backend_handles (tenant : Tenant) (handle : BackendHandle) :
    handle ∈ tenant.client.sessionHandles.backendHandles ↔ tenant.Retains handle := by
  rw [HandleMap.backendHandles, Finset.mem_union, mem_dict_values, mem_dict_values, ← exists_or]
  rfl

theorem references_iff_retains (tenant : Tenant) (handle : BackendHandle) :
    tenant.client.sessionHandles.referencesBackend handle = true ↔ tenant.Retains handle := by
  rw [HandleMap.referencesBackend, Bool.or_eq_true, decide_eq_true_eq, mem_dict_values, Retains, exists_or]
  refine or_congr_left ?_
  rw [Option.isSome_iff_exists]
  exact exists_congr fun virt => (tenant.well.inverse virt handle).symm

theorem own_active_iff (tenant : Tenant) (slot : BackendSlotId) :
    (tenant.ownActiveSession slot).isSome = true ↔ tenant.ActiveOn slot := by
  have listed := mem_dict_entries tenant.sessions
  rw [ownActiveSession, List.isSome_head?]
  constructor
  · intro nonempty
    obtain ⟨backend, member⟩ := List.exists_mem_of_ne_nil _ nonempty
    obtain ⟨⟨virt, owner⟩, inside, active⟩ := List.mem_filterMap.mp member
    obtain ⟨entry, mine⟩ := List.mem_filter.mp inside
    refine ⟨virt, ?_, fun inactive => ?_⟩
    · rw [← of_decide_eq_true mine]
      exact (listed virt owner).mp entry
    · rw [inactive] at active
      cases active
  · rintro ⟨virt, mine, active⟩
    obtain ⟨backend, resolved⟩ := Option.ne_none_iff_exists'.mp active
    exact List.ne_nil_of_mem (List.mem_filterMap.mpr
      ⟨(virt, slot), List.mem_filter.mpr ⟨(listed virt slot).mpr mine, decide_eq_true rfl⟩, resolved⟩)

end Tenant

variable {handle : BackendHandle} {k : Nat} {slot : BackendSlotId}

section Plans

variable {live : List Tenant} {departed : Tenant}

theorem plan_closes_iff :
    handle ∈ (planRemovedContextTeardown live departed).1.sessionsToClose ↔ LastHolder (Tenant.Retains · handle) (departed, live) := by
  rw [planRemovedContextTeardown, Finset.mem_filter, departed.mem_backend_handles, LastHolder, backendSessionReferencedByLiveContext,
    List.any_eq_false]
  refine and_congr_right fun _ => forall₂_congr fun tenant _ => ?_
  rw [← tenant.references_iff_retains]

theorem carrier_found_iff :
    (anyActiveBackendSessionForSlot live slot).isSome = true ↔ ∃ tenant ∈ live, tenant.OffersCarrier slot := by
  rw [anyActiveBackendSessionForSlot, List.findSome?_isSome_iff]
  refine exists_congr fun tenant => and_congr_right fun _ => ?_
  cases first : tenant.firstSessionOn slot with
  | none => simp [Tenant.OffersCarrier, first]
  | some virt => simp [Tenant.OffersCarrier, first, Option.isSome_iff_ne_none]

theorem carrier_iff :
    (logoutCarrier live departed slot).isSome = true ↔ departed.ActiveOn slot ∨ ∃ tenant ∈ live, tenant.OffersCarrier slot := by
  rw [logoutCarrier, Option.isSome_or, Bool.or_eq_true, departed.own_active_iff, carrier_found_iff]

theorem plan_logs_out_iff (others : ∀ tenant ∈ live, tenant.id ≠ departed.id) :
    (∃ logout ∈ (planRemovedContextTeardown live departed).1.slotLogouts, logout.slot = slot) ↔
      LastHolder (Tenant.Holds slot) (departed, live) ∧ (departed.ActiveOn slot ∨ ∃ tenant ∈ live, tenant.OffersCarrier slot) := by
  have listed := mem_dict_entries departed.logins
  have alone : firstLoginStateForSlotExcludingAuthoritative live slot departed.id = none ↔ ∀ tenant ∈ live, ¬ tenant.Holds slot := by
    rw [firstLoginStateForSlotExcludingAuthoritative, List.findSome?_eq_none_iff]
    refine forall₂_congr fun tenant member => ?_
    rw [if_neg (others tenant member), Tenant.Holds, not_not]
  rw [← carrier_iff, LastHolder, ← alone]
  constructor
  · rintro ⟨logout, member, rfl⟩
    obtain ⟨⟨held, login⟩, entry, planned⟩ := List.mem_filterMap.mp member
    rw [slotLogoutOf] at planned
    split at planned
    · cases planned
    · rename_i last
      obtain ⟨via, carried, rfl⟩ := Option.map_eq_some_iff.mp planned
      refine ⟨⟨?_, Option.not_isSome_iff_eq_none.mp last⟩, ?_⟩
      · rw [Tenant.Holds, (listed held login).mp entry]
        exact Option.some_ne_none login
      · rw [carried]
        rfl
  · rintro ⟨⟨held, last⟩, carried⟩
    obtain ⟨login, entry⟩ := Option.ne_none_iff_exists'.mp held
    obtain ⟨via, found⟩ := Option.isSome_iff_exists.mp carried
    refine ⟨⟨slot, via, login⟩, List.mem_filterMap.mpr ⟨(slot, login), (listed slot login).mpr entry, ?_⟩, rfl⟩
    rw [slotLogoutOf, last, found]
    rfl

end Plans

section Partition

variable (registry : Registry) (ids : List ClientContextId)

def ClosedBy (handle : BackendHandle) (k : Nat) : Prop :=
  ∃ plan, (teardownPlans registry ids)[k]? = some plan ∧ handle ∈ plan.sessionsToClose

def LoggedOutBy (slot : BackendSlotId) (k : Nat) : Prop :=
  ∃ plan, (teardownPlans registry ids)[k]? = some plan ∧ ∃ logout ∈ plan.slotLogouts, logout.slot = slot

def LastHolderAt (slot : BackendSlotId) (k : Nat) : Prop :=
  ∃ entry, (departures Tenant.id registry.tenants ids)[k]? = some entry ∧ LastHolder (Tenant.Holds slot) entry

-- The last holder has an active session of its own, or the session another live context
-- lists first for the slot is active.
def CarrierFound (slot : BackendSlotId) (k : Nat) : Prop :=
  ∃ entry, (departures Tenant.id registry.tenants ids)[k]? = some entry ∧
    (entry.1.ActiveOn slot ∨ ∃ tenant ∈ entry.2, tenant.OffersCarrier slot)

def CarrierActive (slot : BackendSlotId) (k : Nat) : Prop :=
  ∃ entry, (departures Tenant.id registry.tenants ids)[k]? = some entry ∧
    (entry.1.ActiveOn slot ∨ ∃ tenant ∈ survivors Tenant.id registry.tenants ids, tenant.ActiveOn slot)

structure TeardownPartition : Prop where
  closedOnce : ∀ handle, (∃ tenant ∈ registry.tenants, tenant.id ∈ ids ∧ tenant.Retains handle) →
    (∀ tenant ∈ survivors Tenant.id registry.tenants ids, ¬ tenant.Retains handle) → ∃! k, ClosedBy registry ids handle k
  spared : ∀ handle, (∃ tenant ∈ survivors Tenant.id registry.tenants ids, tenant.Retains handle) → ∀ k, ¬ ClosedBy registry ids handle k
  loggedOut : ∀ slot, (∃ tenant ∈ registry.tenants, tenant.id ∈ ids ∧ tenant.Holds slot) →
    (∀ tenant ∈ survivors Tenant.id registry.tenants ids, ¬ tenant.Holds slot) →
    ∃ k, LastHolderAt registry ids slot k ∧ (∀ j, LoggedOutBy registry ids slot j → j = k) ∧
      (LoggedOutBy registry ids slot k ↔ CarrierFound registry ids slot k) ∧
      ((CarrierActive registry ids slot k → LoggedOutBy registry ids slot k) ↔
        (CarrierActive registry ids slot k → CarrierFound registry ids slot k))

theorem plan_at {plan : ContextTeardownPlan} :
    (teardownPlans registry ids)[k]? = some plan ↔
      ∃ entry, (departures Tenant.id registry.tenants ids)[k]? = some entry ∧ (planRemovedContextTeardown entry.2 entry.1).1 = plan := by
  rw [teardownPlans, List.getElem?_map, Option.map_eq_some_iff]

theorem closed_by_iff :
    ClosedBy registry ids handle k ↔
      ∃ entry, (departures Tenant.id registry.tenants ids)[k]? = some entry ∧ LastHolder (Tenant.Retains · handle) entry := by
  constructor
  · rintro ⟨plan, at_, closes⟩
    obtain ⟨entry, here, rfl⟩ := (plan_at registry ids).mp at_
    exact ⟨entry, here, plan_closes_iff.mp closes⟩
  · rintro ⟨entry, here, last⟩
    exact ⟨_, (plan_at registry ids).mpr ⟨entry, here, rfl⟩, plan_closes_iff.mpr last⟩

theorem logged_out_by_iff :
    LoggedOutBy registry ids slot k ↔ LastHolderAt registry ids slot k ∧ CarrierFound registry ids slot k := by
  have others : ∀ entry, (departures Tenant.id registry.tenants ids)[k]? = some entry → ∀ tenant ∈ entry.2, tenant.id ≠ entry.1.id :=
    fun entry here => left_behind_differs registry.tenants ids entry (List.mem_of_getElem? here)
  constructor
  · rintro ⟨plan, at_, planned⟩
    obtain ⟨entry, here, rfl⟩ := (plan_at registry ids).mp at_
    obtain ⟨last, carried⟩ := (plan_logs_out_iff (others entry here)).mp planned
    exact ⟨⟨entry, here, last⟩, entry, here, carried⟩
  · rintro ⟨⟨entry, here, last⟩, other, there, carried⟩
    cases Option.some.inj (here.symm.trans there)
    exact ⟨_, (plan_at registry ids).mpr ⟨entry, here, rfl⟩,
      (plan_logs_out_iff (others entry here)).mpr ⟨last, carried⟩⟩

theorem last_departure {holds : Tenant → Prop} (removed : ∃ tenant ∈ registry.tenants, tenant.id ∈ ids ∧ holds tenant)
    (released : ∀ tenant ∈ survivors Tenant.id registry.tenants ids, ¬ holds tenant) :
    ∃ (k : Nat) (entry : Tenant × List Tenant), (departures Tenant.id registry.tenants ids)[k]? = some entry ∧ LastHolder holds entry := by
  obtain ⟨tenant, member, -, held⟩ := removed
  obtain ⟨entry, inside, last⟩ := last_holder_exists holds registry.tenants ids registry.distinct tenant member held released
  obtain ⟨k, here⟩ := List.mem_iff_getElem?.mp inside
  exact ⟨k, entry, here, last⟩

theorem teardown_partition : TeardownPartition registry ids where
  closedOnce handle removed released := by
    obtain ⟨k, entry, here, last⟩ := last_departure registry ids removed released
    refine ⟨k, (closed_by_iff registry ids).mpr ⟨entry, here, last⟩, fun j closing => ?_⟩
    obtain ⟨other, there, alsoLast⟩ := (closed_by_iff registry ids).mp closing
    exact last_holder_unique _ there here alsoLast last
  spared handle kept k closing := by
    obtain ⟨tenant, stays, held⟩ := kept
    obtain ⟨entry, here, last⟩ := (closed_by_iff registry ids).mp closing
    exact last.2 tenant (survivor_left_behind registry.tenants ids tenant stays entry (List.mem_of_getElem? here)) held
  loggedOut slot removed released := by
    obtain ⟨k, entry, here, last⟩ := last_departure registry ids removed released
    have holder : LastHolderAt registry ids slot k := ⟨entry, here, last⟩
    have carried : LoggedOutBy registry ids slot k ↔ CarrierFound registry ids slot k :=
      (logged_out_by_iff registry ids).trans (and_iff_right holder)
    refine ⟨k, holder, fun j planned => ?_, carried, imp_congr_right fun _ => carried⟩
    obtain ⟨⟨other, there, alsoLast⟩, -⟩ := (logged_out_by_iff registry ids).mp planned
    exact last_holder_unique _ there here alsoLast last

end Partition

def quarantinedOnly : HandleMap := ((HandleMap.new.insert ⟨1⟩).1.suspend ⟨1⟩).1

def quarantinedFirst : HandleMap := (((HandleMap.new.insert ⟨2⟩).1.suspend ⟨1⟩).1.insert ⟨3⟩).1

theorem quarantined_well {backend : BackendHandle} : HandleWell ((HandleMap.new.insert backend).1.suspend ⟨1⟩).1 := by
  obtain ⟨-, -, -, updated, well⟩ := insert_spec handle_well_new rfl (by decide)
  exact (suspend_spec well ((updated.resolve ⟨1⟩).trans (if_pos rfl))).2.2.2

def departingHolder : Tenant where
  id := 0
  client :=
    { LogicalClientInstance.new with
        sessionHandles := quarantinedOnly
        sessionSlots := (∅ : Dict VirtualHandle BackendSlotId).insert ⟨1⟩ ⟨0⟩
        loginState := (∅ : Dict BackendSlotId LoginState).insert ⟨0⟩ .user }
  sessionOrder := [⟨1⟩]
  loginOrder := [⟨0⟩]
  well := quarantined_well
  sessions := ⟨by decide, fun key => by simp [dict_lookup_insert]⟩
  logins := ⟨by decide, fun key => by simp [dict_lookup_insert]⟩

def surviving : Tenant where
  id := 1
  client :=
    { LogicalClientInstance.new with
        sessionHandles := quarantinedFirst
        sessionSlots := ((∅ : Dict VirtualHandle BackendSlotId).insert ⟨1⟩ ⟨0⟩).insert ⟨2⟩ ⟨0⟩ }
  sessionOrder := [⟨1⟩, ⟨2⟩]
  loginOrder := []
  well := (insert_spec quarantined_well (by decide) (by decide)).2.2.2.2
  sessions := ⟨by decide, fun key => by by_cases first : key = ⟨1⟩ <;> by_cases second : key = ⟨2⟩ <;> simp [dict_lookup_insert, first, second]⟩
  logins := ⟨by decide, fun key => by simp [LogicalClientInstance.new]⟩

theorem active_carrier_overlooked :
    ∃ (registry : Registry) (ids : List ClientContextId) (slot : BackendSlotId),
      (∃ tenant ∈ registry.tenants, tenant.id ∈ ids ∧ tenant.Holds slot) ∧
        (∀ tenant ∈ survivors Tenant.id registry.tenants ids, ¬ tenant.Holds slot) ∧
        (∃ tenant ∈ survivors Tenant.id registry.tenants ids, tenant.ActiveOn slot) ∧ ∀ k, ¬ LoggedOutBy registry ids slot k := by
  have stays : survivors Tenant.id [departingHolder, surviving] [0] = [surviving] := rfl
  refine ⟨⟨[departingHolder, surviving], by decide⟩, [0], ⟨0⟩, ⟨departingHolder, List.mem_cons_self, by decide, ?_⟩, ?_, ?_, ?_⟩
  · change Finmap.lookup _ _ ≠ none
    decide
  · intro tenant member
    rw [stays, List.mem_singleton] at member
    subst member
    exact fun held => held rfl
  · exact ⟨surviving, List.mem_singleton_self _, ⟨2⟩, by decide, by decide⟩
  · rintro k ⟨plan, at_, logout, member, -⟩
    have planned : plan.slotLogouts ∈ [[]] := by
      exact List.mem_map_of_mem (List.mem_of_getElem? at_)
    rw [List.mem_singleton.mp planned] at member
    cases member

section CarrierSearch

def Reordered (live other : List Tenant) : Prop :=
  (other.map fun tenant => (tenant.id, tenant.client)).Perm (live.map fun tenant => (tenant.id, tenant.client))

structure CarrierComplete (live : List Tenant) (slot : BackendSlotId) : Prop where
  found : (anyActiveBackendSessionForSlot live slot).isSome = true ↔ ∃ tenant ∈ live, tenant.ActiveOn slot
  active : ∀ handle, anyActiveBackendSessionForSlot live slot = some handle → ∃ tenant ∈ live, ∃ virt,
    tenant.client.sessionSlots.lookup virt = some slot ∧ tenant.client.sessionHandles.resolve virt = some handle

variable (slot : BackendSlotId)

namespace Tenant

variable (tenant : Tenant)

def AllActiveOn : Prop :=
  ∀ virt, tenant.client.sessionSlots.lookup virt = some slot → tenant.client.sessionHandles.resolve virt ≠ none

theorem first_session_listed {virt : VirtualHandle} (first : tenant.firstSessionOn slot = some virt) :
    tenant.client.sessionSlots.lookup virt = some slot := by
  obtain ⟨⟨key, owner⟩, found, rfl⟩ := Option.map_eq_some_iff.mp first
  have owned : owner = slot := of_decide_eq_true (List.find?_some found :)
  rw [← owned]
  exact (mem_dict_entries tenant.sessions key owner).mp (List.mem_of_find?_eq_some found)

theorem offers_of_all_active (active : tenant.ActiveOn slot) (all : tenant.AllActiveOn slot) : tenant.OffersCarrier slot := by
  obtain ⟨virt, mine, -⟩ := active
  cases first : tenant.firstSessionOn slot with
  | none =>
    have absent := List.find?_eq_none.mp (Option.map_eq_none_iff.mp first) (virt, slot)
    exact absurd (decide_eq_true rfl) (absent ((mem_dict_entries tenant.sessions virt slot).mpr mine))
  | some found => exact ⟨found, first, all found (tenant.first_session_listed slot first)⟩

theorem active_of_offers (offers : tenant.OffersCarrier slot) : tenant.ActiveOn slot := by
  obtain ⟨virt, first, active⟩ := offers
  exact ⟨virt, tenant.first_session_listed slot first, active⟩

def midClose (virt : VirtualHandle) : Bool :=
  decide (tenant.client.sessionSlots.lookup virt = some slot) && (tenant.client.sessionHandles.resolve virt).isNone

def midCloseFirst : Tenant :=
  { tenant with
      sessionOrder := tenant.sessionOrder.filter (tenant.midClose slot) ++ tenant.sessionOrder.filter fun virt => !tenant.midClose slot virt
      sessions :=
        have perm := List.filter_append_perm (tenant.midClose slot) tenant.sessionOrder
        ⟨perm.nodup_iff.mpr tenant.sessions.nodup, fun key => perm.mem_iff.trans (tenant.sessions.complete key)⟩ }

theorem mid_close_first_offers (some : ¬ (tenant.ActiveOn slot ∧ tenant.AllActiveOn slot)) : ¬ (tenant.midCloseFirst slot).OffersCarrier slot := by
  intro offers
  have active : tenant.ActiveOn slot := (tenant.midCloseFirst slot).active_of_offers slot offers
  refine some ⟨active, fun virt mine closing => ?_⟩
  have listed : virt ∈ tenant.sessionOrder.filter (tenant.midClose slot) :=
    List.mem_filter.mpr ⟨(tenant.sessions.complete virt).mpr (by simp [mine]), by simp [midClose, mine, closing]⟩
  obtain ⟨first, rest, order⟩ := List.exists_cons_of_ne_nil (List.ne_nil_of_mem listed)
  have head : tenant.midClose slot first = true := (List.mem_filter.mp (order ▸ List.mem_cons_self)).2
  simp only [midClose, Bool.and_eq_true, decide_eq_true_eq, Option.isNone_iff_eq_none] at head
  have stops : (tenant.midCloseFirst slot).firstSessionOn slot = .some first := by
    simp [firstSessionOn, sessionEntries, midCloseFirst, order, dictEntries, head.1]
  obtain ⟨found, here, resolves⟩ := offers
  rw [stops, Option.some.injEq] at here
  exact resolves (here ▸ head.2)

end Tenant

theorem carrier_search_complete_iff (live : List Tenant) :
    (∀ other, Reordered live other → CarrierComplete other slot) ↔
      ((∃ tenant ∈ live, tenant.ActiveOn slot) → ∃ tenant ∈ live, tenant.ActiveOn slot ∧ tenant.AllActiveOn slot) := by
  constructor
  · rintro complete ⟨tenant, member, active⟩
    by_contra none
    have offers := (complete (live.map (Tenant.midCloseFirst slot)) ?_).found.mpr ⟨_, List.mem_map_of_mem member, active⟩
    · obtain ⟨_, listed, offers⟩ := carrier_found_iff.mp offers
      obtain ⟨other, inside, rfl⟩ := List.mem_map.mp listed
      exact other.mid_close_first_offers slot (fun all => none ⟨other, inside, all⟩) offers
    · rw [Reordered, List.map_map]
      exact List.Perm.refl _
  · intro enough other reordered
    have moved : ∀ tenant ∈ live, ∃ same ∈ other, same.client = tenant.client := fun tenant member => by
      obtain ⟨same, inside, pair⟩ := List.mem_map.mp (reordered.mem_iff.mpr (List.mem_map_of_mem member))
      exact ⟨same, inside, (Prod.mk.inj pair).2⟩
    have back : ∀ tenant ∈ other, ∃ same ∈ live, same.client = tenant.client := fun tenant member => by
      obtain ⟨same, inside, pair⟩ := List.mem_map.mp (reordered.mem_iff.mp (List.mem_map_of_mem member))
      exact ⟨same, inside, (Prod.mk.inj pair).2⟩
    refine ⟨carrier_found_iff.trans ⟨?_, ?_⟩, fun handle found => ?_⟩
    · rintro ⟨tenant, member, offers⟩
      exact ⟨tenant, member, tenant.active_of_offers slot offers⟩
    · rintro ⟨tenant, member, active⟩
      obtain ⟨same, inside, client⟩ := back tenant member
      obtain ⟨chosen, listed, all⟩ := enough ⟨same, inside, by rwa [Tenant.ActiveOn, client]⟩
      obtain ⟨carrier, present, client⟩ := moved chosen listed
      rw [Tenant.ActiveOn, Tenant.AllActiveOn, ← client] at all
      exact ⟨carrier, present, carrier.offers_of_all_active slot all.1 all.2⟩
    · obtain ⟨tenant, member, resolved⟩ := List.exists_of_findSome?_eq_some found
      obtain ⟨virt, first, resolved⟩ := Option.bind_eq_some_iff.mp resolved
      exact ⟨tenant, member, virt, tenant.first_session_listed slot first, resolved⟩

end CarrierSearch

theorem carrier_behind_closing_session : ¬ CarrierComplete [surviving] ⟨0⟩ := fun complete =>
  absurd (complete.found.mpr ⟨surviving, List.mem_singleton_self _, ⟨2⟩, by decide, by decide⟩) (by decide)

end Pkcs11Proxy.Server
