import Pkcs11Proxy.Server.HandleReads

namespace Pkcs11Proxy.Server

open Lib

-- What the three maps are for: a list of leases, each binding one virtual id
-- to one raw backend handle, either active or suspended by an unfinished close.
structure Lease where
  virtualId : VirtualHandle
  raw : BackendHandle
  active : Bool
deriving DecidableEq, Repr

structure LeaseModel where
  leases : List Lease
  nextId : UInt64
deriving DecidableEq, Repr

namespace LeaseModel

def new : LeaseModel := ⟨[], 1⟩

section

variable (model : LeaseModel)

def leaseFor (virt : VirtualHandle) (active : Bool) : Option BackendHandle :=
  (model.leases.find? fun lease => lease.virtualId = virt && lease.active == active).map Lease.raw

def activeFor (backend : BackendHandle) : Option VirtualHandle :=
  (model.leases.find? fun lease => lease.raw = backend && lease.active).map Lease.virtualId

def insert (backend : BackendHandle) : LeaseModel × VirtualHandle :=
  match model.activeFor backend with
  | some virt => (model, virt)
  | none => (⟨⟨⟨model.nextId⟩, backend, true⟩ :: model.leases, model.nextId + 1⟩, ⟨model.nextId⟩)

def remove (virt : VirtualHandle) : LeaseModel × Option BackendHandle :=
  ({ model with leases := model.leases.filter fun lease => lease.virtualId ≠ virt },
    (model.leases.find? fun lease => lease.virtualId = virt).map Lease.raw)

def setActive (virt : VirtualHandle) (active : Bool) : LeaseModel :=
  { model with leases := model.leases.map fun lease => if lease.virtualId = virt then { lease with active } else lease }

def suspend (virt : VirtualHandle) : LeaseModel × Option BackendHandle :=
  match model.leaseFor virt true with
  | none => (model, none)
  | some backend => (model.setActive virt false, some backend)

def reactivateSuspended (virt : VirtualHandle) (expected : BackendHandle) : LeaseModel × Bool :=
  if model.leaseFor virt false = some expected ∧ model.activeFor expected = none then (model.setActive virt true, true)
  else (model, false)

def clear : LeaseModel := { model with leases := [] }

def apply : HandleAction → LeaseModel × HandleReply
  | .insert backend => ((model.insert backend).1, .issued (model.insert backend).2)
  | .remove virt => ((model.remove virt).1, .released (model.remove virt).2)
  | .suspend virt => ((model.suspend virt).1, .released (model.suspend virt).2)
  | .reactivateSuspended virt expected =>
    ((model.reactivateSuspended virt expected).1, .reactivated (model.reactivateSuspended virt expected).2)
  | .clear => (model.clear, .cleared)

end

def run (model : LeaseModel) : List HandleAction → LeaseModel × List HandleReply
  | [] => (model, [])
  | action :: rest =>
    let stepped := model.apply action
    let finished := LeaseModel.run stepped.1 rest
    (finished.1, stepped.2 :: finished.2)

end LeaseModel

-- The simulation relation. The reverse map is the inverse of the active leases,
-- so its being a function says that no raw value has two of them.
structure Leased (map : HandleMap) (model : LeaseModel) : Prop where
  next : map.nextId = model.nextId
  forward : ∀ virt backend, map.virtualToBackend.lookup virt = some backend ↔ ⟨virt, backend, true⟩ ∈ model.leases
  suspended : ∀ virt backend, map.suspendedVirtualToBackend.lookup virt = some backend ↔ ⟨virt, backend, false⟩ ∈ model.leases
  reverse : ∀ backend virt, map.backendToVirtual.lookup backend = some virt ↔ ⟨virt, backend, true⟩ ∈ model.leases
  uniqueIds : (model.leases.map Lease.virtualId).Nodup
  positive : ∀ lease ∈ model.leases, 0 < lease.virtualId.raw.toNat
  below : ∀ lease ∈ model.leases, lease.virtualId.raw.toNat < model.nextId.toNat

variable {a b lease : Lease} {virt : VirtualHandle} {backend : BackendHandle} {state : Bool}

variable {model : LeaseModel}

theorem lease_unique (uniqueIds : (model.leases.map Lease.virtualId).Nodup)
    (left : a ∈ model.leases) (right : b ∈ model.leases) (same : a.virtualId = b.virtualId) : a = b :=
  List.inj_on_of_nodup_map uniqueIds left right same

variable {active : Bool}

theorem lease_only_iff (uniqueIds : (model.leases.map Lease.virtualId).Nodup)
    (member : ⟨virt, backend, active⟩ ∈ model.leases) (raw : BackendHandle) (before : Bool) :
    ⟨virt, raw, before⟩ ∈ model.leases ↔ raw = backend ∧ before = active := by
  constructor
  · intro held
    have same := lease_unique uniqueIds held member rfl
    simpa using same
  · rintro ⟨rfl, rfl⟩
    exact member

theorem find_only_lease {leases : List Lease} {p : Lease → Bool} (member : lease ∈ leases)
    (holds : p lease = true) (only : ∀ other ∈ leases, p other = true → other = lease) : leases.find? p = some lease := by
  cases found : leases.find? p with
  | none => exact absurd holds (by simpa using List.find?_eq_none.mp found lease member)
  | some other => rw [only other (List.mem_of_find?_eq_some found) (List.find?_some found)]

theorem lease_for_some_iff (uniqueIds : (model.leases.map Lease.virtualId).Nodup) :
    model.leaseFor virt active = some backend ↔ ⟨virt, backend, active⟩ ∈ model.leases := by
  constructor
  · intro found
    obtain ⟨lease, hit, rfl⟩ := Option.map_eq_some_iff.mp found
    have matched := List.find?_some hit
    simp only [Bool.and_eq_true, decide_eq_true_eq, beq_iff_eq] at matched
    obtain ⟨rfl, rfl⟩ := matched
    exact List.mem_of_find?_eq_some hit
  · intro member
    apply Option.map_eq_some_iff.mpr
    refine ⟨⟨virt, backend, active⟩, ?_, rfl⟩
    apply find_only_lease member (by simp)
    intro other otherMember matched
    simp only [Bool.and_eq_true, decide_eq_true_eq, beq_iff_eq] at matched
    exact lease_unique uniqueIds otherMember member matched.1

section Simulation

variable {map : HandleMap} {model : LeaseModel}

variable (leased : Leased map model)

include leased

theorem leased_resolve (virt : VirtualHandle) :
    map.resolve virt = model.leaseFor virt true := by
  apply Option.ext
  intro backend
  exact (leased.forward virt backend).trans (lease_for_some_iff leased.uniqueIds).symm

theorem leased_suspended (virt : VirtualHandle) :
    map.suspendedBackend virt = model.leaseFor virt false := by
  apply Option.ext
  intro backend
  exact (leased.suspended virt backend).trans (lease_for_some_iff leased.uniqueIds).symm

theorem leased_single_active (left : a ∈ model.leases) (right : b ∈ model.leases)
    (activeLeft : a.active = true) (activeRight : b.active = true) (same : a.raw = b.raw) : a = b := by
  obtain ⟨virtA, rawA, _⟩ := a
  obtain ⟨virtB, rawB, _⟩ := b
  cases activeLeft
  cases activeRight
  cases same
  have boundA := (leased.reverse rawA virtA).mpr left
  have boundB := (leased.reverse rawA virtB).mpr right
  cases boundA.symm.trans boundB
  rfl

theorem leased_active_for (backend : BackendHandle) :
    map.resolveBackend backend = model.activeFor backend := by
  apply Option.ext
  intro virt
  refine (leased.reverse backend virt).trans ?_
  constructor
  · intro member
    apply Option.map_eq_some_iff.mpr
    refine ⟨⟨virt, backend, true⟩, ?_, rfl⟩
    apply find_only_lease member (by simp)
    intro other otherMember matched
    simp only [Bool.and_eq_true, decide_eq_true_eq] at matched
    exact leased_single_active leased otherMember member matched.2 rfl matched.1
  · intro found
    obtain ⟨lease, hit, rfl⟩ := Option.map_eq_some_iff.mp found
    have matched := List.find?_some hit
    simp only [Bool.and_eq_true, decide_eq_true_eq] at matched
    obtain ⟨rfl, active⟩ := matched
    have member := List.mem_of_find?_eq_some hit
    cases lease
    cases active
    exact member

omit leased in
theorem leased_new : Leased HandleMap.new LeaseModel.new where
  next := rfl
  forward := by simp [HandleMap.new, LeaseModel.new]
  suspended := by simp [HandleMap.new, LeaseModel.new]
  reverse := by simp [HandleMap.new, LeaseModel.new]
  uniqueIds := List.nodup_nil
  positive := by simp [LeaseModel.new]
  below := by simp [LeaseModel.new]

theorem leased_states_exclusive {a b : BackendHandle}
    (active : ⟨virt, a, true⟩ ∈ model.leases) : (⟨virt, b, false⟩ : Lease) ∉ model.leases := by
  intro suspended
  have same := lease_unique leased.uniqueIds active suspended rfl
  simp at same

theorem leased_well : HandleWell map where
  inverse virt backend := (leased.forward virt backend).trans (leased.reverse backend virt).symm
  apart virt := by
    cases active : map.resolve virt with
    | none => exact .inl rfl
    | some raw =>
      right
      apply Option.eq_none_iff_forall_ne_some.mpr
      intro other suspended
      exact leased_states_exclusive leased ((leased.forward virt raw).mp active) ((leased.suspended virt other).mp suspended)
  below virt held := by
    rw [leased.next]
    cases active : map.resolve virt with
    | some raw => exact leased.below _ ((leased.forward virt raw).mp active)
    | none =>
      cases suspended : map.suspendedBackend virt with
      | some raw => exact leased.below _ ((leased.suspended virt raw).mp suspended)
      | none =>
        rw [(proven_gone_iff virt).mpr ⟨active, suspended⟩] at held
        cases held

section Updates

variable {next : HandleMap}

-- An operation touches the entries of one id, so the leases of the others stay and the
-- reverse map follows from being the inverse of the active ones.
theorem leased_updated {after : LeaseModel} {active suspended : Option BackendHandle}
    (updated : Updated map next virt active suspended) (well : HandleWell next) (counter : next.nextId = after.nextId)
    (members : ∀ query raw state, ⟨query, raw, state⟩ ∈ after.leases ↔
      if query = virt then (if state then active else suspended) = some raw else ⟨query, raw, state⟩ ∈ model.leases)
    (uniqueIds : (after.leases.map Lease.virtualId).Nodup) (positive : ∀ lease ∈ after.leases, 0 < lease.virtualId.raw.toNat) :
    Leased next after := by
  have forward : ∀ query raw, next.resolve query = some raw ↔ ⟨query, raw, true⟩ ∈ after.leases := by
    intro query raw
    rw [updated.resolve, members]
    split
    · exact Iff.rfl
    · exact leased.forward query raw
  have parked : ∀ query raw, next.suspendedBackend query = some raw ↔ ⟨query, raw, false⟩ ∈ after.leases := by
    intro query raw
    rw [updated.suspended, members]
    split
    · exact Iff.rfl
    · exact leased.suspended query raw
  refine ⟨counter, forward, parked, fun backend query => (well.inverse query backend).symm.trans (forward query backend),
    uniqueIds, positive, ?_⟩
  rintro ⟨query, raw, state⟩ member
  rw [← counter]
  cases state with
  | true => exact well.below query (active_not_gone ((forward query raw).mpr member))
  | false => exact well.below query (suspended_not_gone ((parked query raw).mpr member))

theorem leased_insert (started : 0 < model.nextId.toNat) (room : model.nextId.toNat + 1 < UInt64.size) :
    Leased (map.insert backend).1 (model.insert backend).1 ∧ (map.insert backend).2 = (model.insert backend).2 := by
  have agree := leased_active_for leased backend
  cases bound : map.backendToVirtual.lookup backend with
  | some existing =>
    have held : model.activeFor backend = some existing := agree.symm.trans bound
    simp only [HandleMap.insert, LeaseModel.insert, bound, held]
    exact ⟨leased, trivial⟩
  | none =>
    have free : model.activeFor backend = none := agree.symm.trans bound
    have fresh : ∀ lease ∈ model.leases, lease.virtualId ≠ ⟨model.nextId⟩ := by
      intro lease member same
      have less := leased.below lease member
      rw [same] at less
      exact Nat.lt_irrefl _ less
    obtain ⟨reply, -, -, updated, well⟩ := insert_spec (leased_well leased) bound (leased.next ▸ room)
    rw [leased.next] at reply updated
    simp only [LeaseModel.insert, free]
    refine ⟨leased_updated leased updated well ?_ (fun query raw state => ?_) ?_ fun lease member => ?_, reply⟩
    · simp only [HandleMap.insert, bound, leased.next]
    · rw [List.mem_cons]
      by_cases same : query = ⟨model.nextId⟩
      · subst same
        have absent : ⟨⟨model.nextId⟩, raw, state⟩ ∉ model.leases := fun member => fresh _ member rfl
        cases state <;> simp [absent, eq_comm]
      · simp [same]
    · rw [List.map_cons, List.nodup_cons]
      refine ⟨fun member => ?_, leased.uniqueIds⟩
      obtain ⟨lease, held, same⟩ := List.mem_map.mp member
      exact fresh lease held same
    · rcases List.mem_cons.mp member with rfl | held
      · exact started
      · exact leased.positive lease held

theorem lease_found (member : lease ∈ model.leases) :
    (model.leases.find? fun other => other.virtualId = lease.virtualId) = some lease := by
  apply find_only_lease member (by simp)
  intro other otherMember matched
  exact lease_unique leased.uniqueIds otherMember member (by simpa using matched)

theorem removed_reply : (map.remove virt).2 = (model.remove virt).2 := by
  cases active : map.virtualToBackend.lookup virt with
  | some backend =>
    have found := lease_found leased ((leased.forward virt backend).mp active)
    simp [HandleMap.remove, active, LeaseModel.remove, found]
  | none =>
    cases suspended : map.suspendedVirtualToBackend.lookup virt with
    | some backend =>
      have found := lease_found leased ((leased.suspended virt backend).mp suspended)
      simp [HandleMap.remove, active, suspended, LeaseModel.remove, found]
    | none =>
      have nothing : (model.leases.find? fun lease => lease.virtualId = virt) = none := by
        apply List.find?_eq_none.mpr
        rintro ⟨id, raw, state⟩ member same
        cases of_decide_eq_true same
        cases state with
        | true => simp [(leased.forward id raw).mpr member] at active
        | false => simp [(leased.suspended id raw).mpr member] at suspended
      simp [HandleMap.remove, active, suspended, LeaseModel.remove, nothing]

theorem leased_remove :
    Leased (map.remove virt).1 (model.remove virt).1 ∧ (map.remove virt).2 = (model.remove virt).2 := by
  obtain ⟨counter, updated, well⟩ := remove_spec (leased_well leased) virt
  refine ⟨leased_updated leased updated well (counter.trans leased.next) (fun query raw state => ?_) ?_ fun lease member => ?_,
    removed_reply leased⟩
  · by_cases same : query = virt <;> simp [LeaseModel.remove, same]
  · exact leased.uniqueIds.sublist (List.filter_sublist.map _)
  · exact leased.positive lease (List.mem_of_mem_filter member)

omit leased in
theorem mem_set_active (model : LeaseModel) (virt query : VirtualHandle) (backend : BackendHandle) (state active : Bool) :
    ⟨query, backend, active⟩ ∈ (model.setActive virt state).leases ↔
      if query = virt then active = state ∧ ∃ before, ⟨virt, backend, before⟩ ∈ model.leases
      else ⟨query, backend, active⟩ ∈ model.leases := by
  simp only [LeaseModel.setActive, List.mem_map]
  constructor
  · rintro ⟨⟨id, raw, before⟩, member, changed⟩
    by_cases hit : id = virt
    · subst hit
      simp only [if_true, Lease.mk.injEq] at changed
      obtain ⟨rfl, rfl, rfl⟩ := changed
      simp only [if_true, true_and]
      exact ⟨before, member⟩
    · simp only [if_neg hit, Lease.mk.injEq] at changed
      obtain ⟨rfl, rfl, rfl⟩ := changed
      simpa only [if_neg hit] using member
  · by_cases hit : query = virt
    · subst hit
      simp only [if_true]
      rintro ⟨rfl, before, member⟩
      exact ⟨_, member, by simp⟩
    · simp only [if_neg hit]
      intro member
      exact ⟨_, member, by simp [hit]⟩

omit leased in
theorem set_active_ids :
    (model.setActive virt state).leases.map Lease.virtualId = model.leases.map Lease.virtualId := by
  simp only [LeaseModel.setActive, List.map_map]
  apply List.map_congr_left
  intro lease _
  by_cases hit : lease.virtualId = virt <;> simp [hit]

omit leased in
theorem set_active_ids_hold (p : VirtualHandle → Prop) (holds : ∀ lease ∈ model.leases, p lease.virtualId) :
    ∀ lease ∈ (model.setActive virt state).leases, p lease.virtualId := by
  intro lease member
  have listed : lease.virtualId ∈ model.leases.map Lease.virtualId := by
    rw [← set_active_ids]
    exact List.mem_map_of_mem member
  obtain ⟨original, held, same⟩ := List.mem_map.mp listed
  exact same ▸ holds original held

theorem leased_set_active {before : Bool} (member : ⟨virt, backend, before⟩ ∈ model.leases) (counter : next.nextId = map.nextId)
    (updated : Updated map next virt (if state then some backend else none) (if state then none else some backend)) (well : HandleWell next) :
    Leased next (model.setActive virt state) := by
  refine leased_updated leased updated well (counter.trans leased.next) (fun query raw active => ?_) ?_ ?_
  · rw [mem_set_active]
    have only := lease_only_iff leased.uniqueIds member raw
    by_cases same : query = virt
    · rw [if_pos same, if_pos same]
      cases state <;> cases active <;> simp [only, eq_comm]
    · rw [if_neg same, if_neg same]
  · rw [set_active_ids]
    exact leased.uniqueIds
  · exact set_active_ids_hold (fun id => 0 < id.raw.toNat) leased.positive

theorem leased_suspend :
    Leased (map.suspend virt).1 (model.suspend virt).1 ∧ (map.suspend virt).2 = (model.suspend virt).2 := by
  have agree := leased_resolve leased virt
  cases active : map.virtualToBackend.lookup virt with
  | none =>
    have absent : model.leaseFor virt true = none := agree.symm.trans active
    simp only [HandleMap.suspend, LeaseModel.suspend, active, absent]
    exact ⟨leased, trivial⟩
  | some backend =>
    have present : model.leaseFor virt true = some backend := agree.symm.trans active
    obtain ⟨reply, counter, updated, well⟩ := suspend_spec (leased_well leased) active
    simp only [LeaseModel.suspend, present]
    exact ⟨leased_set_active leased ((leased.forward virt backend).mp active) counter updated well, reply⟩

theorem leased_reactivate {expected : BackendHandle} :
    Leased (map.reactivateSuspended virt expected).1 (model.reactivateSuspended virt expected).1 ∧
      (map.reactivateSuspended virt expected).2 = (model.reactivateSuspended virt expected).2 := by
  have agree := leased_suspended leased virt
  have agreeActive := leased_active_for leased expected
  by_cases held : map.suspendedBackend virt = some expected
  · cases bound : map.resolveBackend expected with
    | some rebound =>
      have taken : model.activeFor expected = some rebound := agreeActive.symm.trans bound
      rw [reactivate_refused (leased_well leased) held bound]
      simp only [LeaseModel.reactivateSuspended, taken, reduceCtorEq, and_false, if_false]
      exact ⟨leased, trivial⟩
    | none =>
      have free : model.activeFor expected = none := agreeActive.symm.trans bound
      have leaseHeld : model.leaseFor virt false = some expected := agree.symm.trans held
      obtain ⟨counter, updated, well⟩ := reactivate_spec (leased_well leased) held bound
      have reply : (map.reactivateSuspended virt expected).2 = true := by
        have unbound : map.backendToVirtual.lookup expected = none := bound
        rw [HandleMap.reactivateSuspended, if_neg (not_not_intro held), unbound]
        rfl
      simp only [LeaseModel.reactivateSuspended, leaseHeld, free, and_self, if_true]
      exact ⟨leased_set_active leased ((leased.suspended virt expected).mp held) counter updated well, reply⟩
  · have missing : model.leaseFor virt false ≠ some expected := by
      rw [← agree]
      exact held
    simp only [HandleMap.reactivateSuspended, LeaseModel.reactivateSuspended, ne_eq, held, not_false_eq_true, if_true,
      missing, false_and, if_false]
    exact ⟨leased, trivial⟩

end Updates

theorem leased_clear : Leased map.clear model.clear where
  next := leased.next
  forward := by simp [HandleMap.clear, LeaseModel.clear]
  suspended := by simp [HandleMap.clear, LeaseModel.clear]
  reverse := by simp [HandleMap.clear, LeaseModel.clear]
  uniqueIds := List.nodup_nil
  positive := by simp [LeaseModel.clear]
  below := by simp [LeaseModel.clear]

theorem leased_apply (action : HandleAction)
    (started : 0 < model.nextId.toNat) (room : model.nextId.toNat + insertCount [action] < UInt64.size) :
    Leased (map.apply action).1 (model.apply action).1 ∧ (map.apply action).2 = (model.apply action).2 := by
  cases action with
  | insert backend =>
    obtain ⟨next, reply⟩ := leased_insert leased started room
    exact ⟨next, congrArg HandleReply.issued reply⟩
  | remove virt =>
    obtain ⟨next, reply⟩ := leased_remove leased
    exact ⟨next, congrArg HandleReply.released reply⟩
  | suspend virt =>
    obtain ⟨next, reply⟩ := leased_suspend leased
    exact ⟨next, congrArg HandleReply.released reply⟩
  | reactivateSuspended virt expected =>
    obtain ⟨next, reply⟩ := leased_reactivate leased
    exact ⟨next, congrArg HandleReply.reactivated reply⟩
  | clear => exact ⟨leased_clear leased, rfl⟩

end Simulation

variable {map : HandleMap} {action : HandleAction}

theorem fresh_ids_advance (room : map.nextId.toNat + insertCount [action] < UInt64.size) :
    (map.freshIds action = [] ∧ (map.apply action).1.nextId = map.nextId) ∨
      (insertCount [action] = 1 ∧ map.freshIds action = [⟨map.nextId⟩] ∧
        (map.apply action).1.nextId.toNat = map.nextId.toNat + 1) := by
  cases action with
  | insert backend =>
    cases bound : map.backendToVirtual.lookup backend with
    | some existing =>
      left
      simp [HandleMap.freshIds, HandleMap.apply, HandleMap.insert, HandleMap.resolveBackend, bound]
    | none =>
      right
      have advanced : (map.nextId + 1).toNat = map.nextId.toNat + 1 := by
        exact Nat.mod_eq_of_lt room
      simp [insertCount, HandleAction.isInsert, HandleMap.freshIds, HandleMap.apply, HandleMap.insert,
        HandleMap.resolveBackend, bound, advanced]
  | remove virt =>
    left
    refine ⟨rfl, ?_⟩
    simp only [HandleMap.apply, HandleMap.remove, HandleMap.detachReverse]
    repeat' split
    all_goals rfl
  | suspend virt =>
    left
    refine ⟨rfl, ?_⟩
    simp only [HandleMap.apply, HandleMap.suspend, HandleMap.detachReverse]
    repeat' split
    all_goals rfl
  | reactivateSuspended virt expected =>
    left
    refine ⟨rfl, ?_⟩
    simp only [HandleMap.apply, HandleMap.reactivateSuspended]
    repeat' split
    all_goals rfl
  | clear => exact .inl ⟨rfl, rfl⟩

theorem insert_count_cons (action : HandleAction) (rest : List HandleAction) :
    insertCount (action :: rest) = insertCount [action] + insertCount rest := by
  simp only [insertCount, List.countP_cons, List.countP_nil]
  omega

theorem apply_counter (room : map.nextId.toNat + insertCount [action] < UInt64.size) :
    map.nextId.toNat ≤ (map.apply action).1.nextId.toNat ∧
      (map.apply action).1.nextId.toNat ≤ map.nextId.toNat + insertCount [action] := by
  rcases fresh_ids_advance room with ⟨_, same⟩ | ⟨one, _, next⟩
  · rw [same]
    omega
  · omega

theorem run_refines (actions : List HandleAction) (map : HandleMap) (model : LeaseModel) (leased : Leased map model)
    (started : 0 < model.nextId.toNat) (room : model.nextId.toNat + insertCount actions < UInt64.size) :
    Leased (map.run actions).1 (model.run actions).1 ∧ (map.run actions).2 = (model.run actions).2 := by
  induction actions generalizing map model with
  | nil => exact ⟨leased, rfl⟩
  | cons action rest ih =>
    rw [insert_count_cons] at room
    have here : map.nextId.toNat + insertCount [action] < UInt64.size := by rw [leased.next]; omega
    obtain ⟨next, reply⟩ := leased_apply leased action started (by omega)
    obtain ⟨monotone, advanced⟩ := apply_counter here
    rw [next.next, leased.next] at monotone advanced
    obtain ⟨finished, replies⟩ := ih _ _ next (by omega) (by omega)
    exact ⟨finished, by simp only [HandleMap.run, LeaseModel.run, reply, replies]⟩

theorem issued_ids_increase (actions : List HandleAction) (map : HandleMap) (room : map.nextId.toNat + insertCount actions < UInt64.size) :
    (map.issuedIds actions).Pairwise (fun a b => a.raw.toNat < b.raw.toNat) ∧
      ∀ id ∈ map.issuedIds actions, map.nextId.toNat ≤ id.raw.toNat := by
  induction actions generalizing map with
  | nil => simp [HandleMap.issuedIds]
  | cons action rest ih =>
    rw [insert_count_cons] at room
    have here : map.nextId.toNat + insertCount [action] < UInt64.size := by omega
    obtain ⟨monotone, advanced⟩ := apply_counter here
    obtain ⟨ordered, above⟩ := ih (map.apply action).1 (by omega)
    rcases fresh_ids_advance here with ⟨none, _⟩ | ⟨_, one, next⟩
    · simp only [HandleMap.issuedIds, none, List.nil_append]
      exact ⟨ordered, fun id member => Nat.le_trans monotone (above id member)⟩
    · simp only [HandleMap.issuedIds, one, List.singleton_append, List.pairwise_cons, List.mem_cons, forall_eq_or_imp]
      refine ⟨⟨fun id member => ?_, ordered⟩, Nat.le_refl _, fun id member => ?_⟩
      · have bound := above id member
        omega
      · exact Nat.le_trans monotone (above id member)

structure Observes (map : HandleMap) (model : LeaseModel) : Prop where
  resolve : ∀ virt, map.resolve virt = model.leaseFor virt true
  suspendedBackend : ∀ virt, map.suspendedBackend virt = model.leaseFor virt false
  resolveBackend : ∀ backend, map.resolveBackend backend = model.activeFor backend
  referencesBackend : ∀ backend, map.referencesBackend backend = model.leases.any fun lease => lease.raw = backend
  virtualHandles : map.virtualHandles.val = ↑((model.leases.filter Lease.active).map Lease.virtualId)
  backendHandles : map.backendHandles = (model.leases.map Lease.raw).toFinset
  isProvenGone : ∀ virt, map.isProvenGone virt = !(model.leases.any fun lease => lease.virtualId = virt)

theorem lease_raw_iff {leases : List Lease} {backend : BackendHandle} :
    ((∃ virt, ⟨virt, backend, true⟩ ∈ leases) ∨ ∃ virt, ⟨virt, backend, false⟩ ∈ leases) ↔ ∃ lease ∈ leases, lease.raw = backend := by
  constructor
  · rintro (⟨virt, member⟩ | ⟨virt, member⟩)
    · exact ⟨_, member, rfl⟩
    · exact ⟨_, member, rfl⟩
  · rintro ⟨⟨virt, raw, state⟩, member, rfl⟩
    cases state with
    | true => exact .inl ⟨virt, member⟩
    | false => exact .inr ⟨virt, member⟩

variable {map : HandleMap}

section

variable (leased : Leased map model)

include leased

theorem leased_references (backend : BackendHandle) :
    map.referencesBackend backend = model.leases.any fun lease => lease.raw = backend := by
  rw [Bool.eq_iff_iff]
  simp only [HandleMap.referencesBackend, Bool.or_eq_true, decide_eq_true_eq, mem_dict_values, leased.suspended,
    Option.isSome_iff_exists, leased.reverse, List.any_eq_true]
  exact lease_raw_iff

theorem leased_virtual_handles :
    map.virtualHandles.val = ↑((model.leases.filter Lease.active).map Lease.virtualId) := by
  have nodup : ((model.leases.filter Lease.active).map Lease.virtualId).Nodup :=
    leased.uniqueIds.sublist (List.filter_sublist.map _)
  apply (Multiset.Nodup.ext map.virtualHandles.nodup (Multiset.coe_nodup.mpr nodup)).mpr
  intro virt
  simp only [HandleMap.virtualHandles, Finset.mem_val, mem_dict_keys, leased.forward, Multiset.mem_coe, List.mem_map,
    List.mem_filter]
  constructor
  · rintro ⟨backend, member⟩
    exact ⟨_, ⟨member, rfl⟩, rfl⟩
  · rintro ⟨⟨id, raw, state⟩, ⟨member, active⟩, rfl⟩
    cases active
    exact ⟨raw, member⟩

theorem leased_backend_handles :
    map.backendHandles = (model.leases.map Lease.raw).toFinset := by
  ext backend
  simp only [HandleMap.backendHandles, Finset.mem_union, mem_dict_values, leased.forward, leased.suspended,
    List.mem_toFinset, List.mem_map]
  exact lease_raw_iff

theorem leased_proven_gone (virt : VirtualHandle) :
    map.isProvenGone virt = !(model.leases.any fun lease => lease.virtualId = virt) := by
  rw [Bool.eq_iff_iff]
  simp only [HandleMap.isProvenGone, HandleMap.resolve, HandleMap.suspendedBackend, Bool.and_eq_true,
    Option.isNone_iff_eq_none, Option.eq_none_iff_forall_not_mem, Option.mem_def, leased.forward, leased.suspended,
    Bool.not_eq_true', List.any_eq_false, decide_eq_true_eq]
  constructor
  · rintro ⟨inactive, unsuspended⟩ ⟨id, raw, state⟩ member rfl
    cases state with
    | true => exact inactive raw member
    | false => exact unsuspended raw member
  · intro absent
    exact ⟨fun raw member => absent _ member rfl, fun raw member => absent _ member rfl⟩

end

theorem leased_observes (leased : Leased map model) : Observes map model where
  resolve := leased_resolve leased
  suspendedBackend := leased_suspended leased
  resolveBackend := leased_active_for leased
  referencesBackend := leased_references leased
  virtualHandles := leased_virtual_handles leased
  backendHandles := leased_backend_handles leased
  isProvenGone := leased_proven_gone leased

theorem leased_not_both (leased : Leased map model) (virt : VirtualHandle) :
    map.resolve virt = none ∨ map.suspendedBackend virt = none := by
  cases active : map.resolve virt with
  | none => exact .inl rfl
  | some backend =>
    right
    rw [Option.eq_none_iff_forall_not_mem]
    intro other suspended
    exact leased_states_exclusive leased ((leased.forward virt backend).mp active)
      ((leased.suspended virt other).mp suspended)

theorem handle_map_refines_leases (actions : List HandleAction) (bounded : insertCount actions < 2 ^ 64 - 1) :
    (HandleMap.new.run actions).2 = (LeaseModel.new.run actions).2 ∧
      Observes (HandleMap.new.run actions).1 (LeaseModel.new.run actions).1 ∧
      (∀ a ∈ (LeaseModel.new.run actions).1.leases, ∀ b ∈ (LeaseModel.new.run actions).1.leases,
        a.active = true → b.active = true → a.raw = b.raw → a = b) ∧
      (∀ virt, (HandleMap.new.run actions).1.resolve virt = none ∨
        (HandleMap.new.run actions).1.suspendedBackend virt = none) ∧
      (∀ lease ∈ (LeaseModel.new.run actions).1.leases, lease.virtualId.raw ≠ 0) ∧
      (HandleMap.new.issuedIds actions).Nodup ∧ (⟨0⟩ : VirtualHandle) ∉ HandleMap.new.issuedIds actions := by
  have room : (LeaseModel.new).nextId.toNat + insertCount actions < UInt64.size := by
    show 1 + insertCount actions < 2 ^ 64
    omega
  obtain ⟨leased, replies⟩ := run_refines actions HandleMap.new LeaseModel.new leased_new (by decide) room
  obtain ⟨increasing, above⟩ := issued_ids_increase actions HandleMap.new room
  refine ⟨replies, leased_observes leased, ?_, leased_not_both leased, ?_, ?_, ?_⟩
  · intro a left b right activeLeft activeRight same
    exact leased_single_active leased left right activeLeft activeRight same
  · intro lease member zero
    have positive := leased.positive lease member
    rw [zero] at positive
    exact Nat.lt_irrefl _ positive
  · refine List.Pairwise.imp ?_ increasing
    rintro a b less rfl
    exact Nat.lt_irrefl _ less
  · intro member
    have started := above _ member
    exact absurd started (by decide)

-- A raw value suspended under an old id and active under a new one: the late
-- completion neither steals the binding nor revives the old id.
theorem handle_map_refines_leases_recycled :
    insertCount [.insert ⟨7⟩, .suspend ⟨1⟩, .insert ⟨7⟩, .reactivateSuspended ⟨1⟩ ⟨7⟩] < 2 ^ 64 - 1 ∧
      (HandleMap.new.run [.insert ⟨7⟩, .suspend ⟨1⟩, .insert ⟨7⟩, .reactivateSuspended ⟨1⟩ ⟨7⟩]).2 =
        (LeaseModel.new.run [.insert ⟨7⟩, .suspend ⟨1⟩, .insert ⟨7⟩, .reactivateSuspended ⟨1⟩ ⟨7⟩]).2 ∧
      (LeaseModel.new.run [.insert ⟨7⟩, .suspend ⟨1⟩, .insert ⟨7⟩, .reactivateSuspended ⟨1⟩ ⟨7⟩]).2 =
        [.issued ⟨1⟩, .released (some ⟨7⟩), .issued ⟨2⟩, .reactivated false] :=
  ⟨by decide, (handle_map_refines_leases _ (by decide)).1, by decide⟩

end Pkcs11Proxy.Server
