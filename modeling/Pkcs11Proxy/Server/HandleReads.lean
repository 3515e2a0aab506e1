import Pkcs11Proxy.Server.HandleMap

namespace Pkcs11Proxy.Server

open Lib

structure HandleWell (map : HandleMap) : Prop where
  inverse : ∀ virt backend, map.resolve virt = some backend ↔ map.resolveBackend backend = some virt
  apart : ∀ virt, map.resolve virt = none ∨ map.suspendedBackend virt = none
  below : ∀ virt, map.isProvenGone virt = false → virt.raw.toNat < map.nextId.toNat

structure Updated (map next : HandleMap) (virt : VirtualHandle) (active suspended : Option BackendHandle) : Prop where
  resolve : ∀ query, next.resolve query = if query = virt then active else map.resolve query
  suspended : ∀ query, next.suspendedBackend query = if query = virt then suspended else map.suspendedBackend query

variable {virt : VirtualHandle} {backend : BackendHandle}

theorem handle_well_new : HandleWell HandleMap.new where
  inverse virt backend := by simp [HandleMap.new, HandleMap.resolve, HandleMap.resolveBackend]
  apart virt := .inl (by simp [HandleMap.new, HandleMap.resolve])
  below virt held := by simp [HandleMap.new, HandleMap.isProvenGone, HandleMap.resolve, HandleMap.suspendedBackend] at held

variable {map : HandleMap}

theorem proven_gone_iff (virt : VirtualHandle) :
    map.isProvenGone virt = true ↔ map.resolve virt = none ∧ map.suspendedBackend virt = none := by
  rw [HandleMap.isProvenGone, Bool.and_eq_true, Option.isNone_iff_eq_none, Option.isNone_iff_eq_none]

theorem active_not_gone (held : map.resolve virt = some backend) :
    map.isProvenGone virt = false := by
  rw [HandleMap.isProvenGone, held]
  rfl

theorem suspended_not_gone (held : map.suspendedBackend virt = some backend) : map.isProvenGone virt = false := by
  rw [HandleMap.isProvenGone, held]
  exact Bool.and_false _

theorem detach_reverse_reads (map : HandleMap) (virt : VirtualHandle) (backend : BackendHandle) :
    (map.detachReverse virt backend).virtualToBackend = map.virtualToBackend ∧
      (map.detachReverse virt backend).suspendedVirtualToBackend = map.suspendedVirtualToBackend ∧
      (map.detachReverse virt backend).nextId = map.nextId ∧
      ∀ query, (map.detachReverse virt backend).resolveBackend query =
        if query = backend ∧ map.resolveBackend backend = some virt then none else map.resolveBackend query := by
  rw [HandleMap.detachReverse]
  split
  · rename_i mine
    refine ⟨rfl, rfl, rfl, fun query => ?_⟩
    rw [HandleMap.resolveBackend, dict_lookup_erase]
    by_cases same : query = backend
    · rw [if_pos same, if_pos ⟨same, mine⟩]
    · rw [if_neg same, if_neg fun both => same both.1]
      rfl
  · rename_i other
    refine ⟨rfl, rfl, rfl, fun query => ?_⟩
    rw [if_neg fun both => other both.2]

theorem kept_outside {α β : Type} [DecidableEq α] {f : α → Option β} {key : α} (absent : f key = none) (query : α) :
    f query = if query = key then none else f query := by
  split
  · rename_i same
    rw [same]
    exact absent
  · rfl

section Operations

variable {map : HandleMap} (well : HandleWell map)

include well

section

variable (held : map.resolve virt = some backend)

include held

theorem active_unsuspended : map.suspendedBackend virt = none := by
  rcases well.apart virt with inactive | none
  · rw [inactive] at held
    cases held
  · exact none

theorem detached_reverse {query : BackendHandle} :
    ({ map with virtualToBackend := map.virtualToBackend.erase virt }.detachReverse virt backend).resolveBackend query =
      if query = backend then none else map.resolveBackend query := by
  refine ((detach_reverse_reads _ virt backend).2.2.2 query).trans ?_
  by_cases same : query = backend
  · rw [if_pos ⟨same, (well.inverse virt backend).mp held⟩, if_pos same]
  · rw [if_neg fun both => same both.1, if_neg same]
    rfl

variable {next : HandleMap}

omit held in
theorem handle_well_updated {active suspended : Option BackendHandle}
    (updated : Updated map next virt active suspended) (grows : map.nextId.toNat ≤ next.nextId.toNat)
    (exclusive : active = none ∨ suspended = none) (issued : virt.raw.toNat < next.nextId.toNat ∨ active = none ∧ suspended = none)
    (reverse : ∀ backend bound, next.resolveBackend backend = some bound ↔
      if bound = virt then active = some backend else map.resolve bound = some backend) : HandleWell next where
  inverse query backend := by
    rw [updated.resolve, reverse]
    split <;> exact Iff.rfl
  apart query := by
    rw [updated.resolve, updated.suspended]
    split
    · exact exclusive
    · exact well.apart query
  below query held := by
    by_cases same : query = virt
    · subst same
      rcases issued with bound | ⟨inactive, unsuspended⟩
      · exact bound
      · rw [HandleMap.isProvenGone, updated.resolve, updated.suspended, if_pos rfl, if_pos rfl, inactive, unsuspended] at held
        cases held
    · rw [HandleMap.isProvenGone, updated.resolve, updated.suspended, if_neg same, if_neg same] at held
      exact Nat.lt_of_lt_of_le (well.below query held) grows

theorem reverse_erased
    (erased : ∀ query, next.resolveBackend query = if query = backend then none else map.resolveBackend query)
    (query : BackendHandle) (bound : VirtualHandle) :
    next.resolveBackend query = some bound ↔ if bound = virt then none = some query else map.resolve bound = some query := by
  rw [erased]
  by_cases same : bound = virt
  · subst same
    rw [if_pos rfl]
    refine ⟨fun found => ?_, nofun⟩
    split at found
    · cases found
    · rename_i other
      rw [(well.inverse bound query).mpr found, Option.some.injEq] at held
      exact absurd held other
  · rw [if_neg same, well.inverse]
    split
    · rename_i mine
      subst mine
      rw [(well.inverse virt query).mp held, Option.some.injEq]
      exact ⟨nofun, fun eq => absurd eq.symm same⟩
    · exact Iff.rfl

omit held in
theorem reverse_inserted (free : ∀ bound, map.resolve bound = some backend → bound = virt)
    (unheld : map.resolve virt = none)
    (inserted : ∀ query, next.resolveBackend query = if query = backend then some virt else map.resolveBackend query)
    (query : BackendHandle) (bound : VirtualHandle) :
    next.resolveBackend query = some bound ↔ if bound = virt then some backend = some query else map.resolve bound = some query := by
  rw [inserted]
  by_cases same : bound = virt
  · subst same
    rw [if_pos rfl, Option.some.injEq]
    split
    · rename_i mine
      exact ⟨fun _ => mine.symm, fun _ => rfl⟩
    · rename_i other
      rw [← well.inverse, unheld]
      exact ⟨nofun, fun eq => absurd eq.symm other⟩
  · split
    · rename_i mine
      subst mine
      rw [Option.some.injEq]
      exact ⟨fun eq => absurd eq.symm same, fun held => absurd (free bound held) same⟩
    · rw [well.inverse]

theorem suspend_spec :
    (map.suspend virt).2 = some backend ∧ (map.suspend virt).1.nextId = map.nextId ∧
      Updated map (map.suspend virt).1 virt none (some backend) ∧ HandleWell (map.suspend virt).1 := by
  obtain ⟨forward, quarantined, counter, -⟩ :=
    detach_reverse_reads { map with virtualToBackend := map.virtualToBackend.erase virt } virt backend
  have found : map.virtualToBackend.lookup virt = some backend := held
  have updated : Updated map (map.suspend virt).1 virt none (some backend) := by
    simp only [HandleMap.suspend, found]
    constructor
    · intro query
      rw [HandleMap.resolve, forward, dict_lookup_erase]
      rfl
    · intro query
      rw [HandleMap.suspendedBackend, quarantined, dict_lookup_insert]
      rfl
  have counter' : (map.suspend virt).1.nextId = map.nextId := by
    simp only [HandleMap.suspend, found]
    exact counter
  refine ⟨by simp only [HandleMap.suspend, found], counter', updated,
    handle_well_updated well updated (Nat.le_of_eq (congrArg UInt64.toNat counter'.symm)) (.inl rfl)
      (.inl ?_) (reverse_erased well held fun query => ?_)⟩
  · rw [counter']
    exact well.below virt (active_not_gone held)
  · simp only [HandleMap.suspend, found]
    exact detached_reverse well held

theorem remove_active :
    (map.remove virt).1.nextId = map.nextId ∧ Updated map (map.remove virt).1 virt none none ∧ HandleWell (map.remove virt).1 := by
  obtain ⟨forward, quarantined, counter, -⟩ :=
    detach_reverse_reads { map with virtualToBackend := map.virtualToBackend.erase virt } virt backend
  have found : map.virtualToBackend.lookup virt = some backend := held
  have updated : Updated map (map.remove virt).1 virt none none := by
    simp only [HandleMap.remove, found]
    constructor
    · intro query
      rw [HandleMap.resolve, forward, dict_lookup_erase]
      rfl
    · intro query
      rw [HandleMap.suspendedBackend, quarantined]
      exact kept_outside (active_unsuspended well held) query
  have counter' : (map.remove virt).1.nextId = map.nextId := by
    simp only [HandleMap.remove, found]
    exact counter
  refine ⟨counter', updated, handle_well_updated well updated
    (Nat.le_of_eq (congrArg UInt64.toNat counter'.symm)) (.inl rfl) (.inr ⟨rfl, rfl⟩) (reverse_erased well held fun query => ?_)⟩
  simp only [HandleMap.remove, found]
  exact detached_reverse well held

end

theorem remove_inactive (inactive : map.resolve virt = none) :
    (map.remove virt).1.nextId = map.nextId ∧ Updated map (map.remove virt).1 virt none none ∧ HandleWell (map.remove virt).1 := by
  have absent : map.virtualToBackend.lookup virt = none := inactive
  cases suspended : map.suspendedVirtualToBackend.lookup virt with
  | none =>
    have same : map.remove virt = (map, none) := by simp only [HandleMap.remove, absent, suspended]
    rw [same]
    exact ⟨rfl, ⟨kept_outside inactive, kept_outside suspended⟩, well⟩
  | some backend =>
    obtain ⟨forward, quarantined, counter, reversed⟩ :=
      detach_reverse_reads { map with suspendedVirtualToBackend := map.suspendedVirtualToBackend.erase virt } virt backend
    have unbound : map.resolveBackend backend ≠ some virt := fun bound => by
      rw [(well.inverse virt backend).mpr bound] at inactive
      cases inactive
    have updated : Updated map (map.remove virt).1 virt none none := by
      simp only [HandleMap.remove, absent, suspended]
      constructor
      · intro query
        rw [HandleMap.resolve, forward]
        exact kept_outside inactive query
      · intro query
        rw [HandleMap.suspendedBackend, quarantined, dict_lookup_erase]
        rfl
    have counter' : (map.remove virt).1.nextId = map.nextId := by
      simp only [HandleMap.remove, absent, suspended]
      exact counter
    refine ⟨counter', updated, handle_well_updated well updated
      (Nat.le_of_eq (congrArg UInt64.toNat counter'.symm)) (.inl rfl) (.inr ⟨rfl, rfl⟩) fun query bound => ?_⟩
    have kept : (map.remove virt).1.resolveBackend query = map.resolveBackend query := by
      simp only [HandleMap.remove, absent, suspended]
      exact (reversed query).trans (if_neg fun both => unbound both.2)
    rw [kept, ← well.inverse]
    split
    · rename_i eq
      rw [eq, inactive]
    · exact Iff.rfl

theorem remove_spec (virt : VirtualHandle) :
    (map.remove virt).1.nextId = map.nextId ∧ Updated map (map.remove virt).1 virt none none ∧ HandleWell (map.remove virt).1 := by
  cases held : map.resolve virt with
  | none => exact remove_inactive well held
  | some backend => exact remove_active well held

theorem reactivate_spec (suspended : map.suspendedBackend virt = some backend) (free : map.resolveBackend backend = none) :
    (map.reactivateSuspended virt backend).1.nextId = map.nextId ∧
      Updated map (map.reactivateSuspended virt backend).1 virt (some backend) none ∧
      HandleWell (map.reactivateSuspended virt backend).1 := by
  have inactive : map.resolve virt = none := (well.apart virt).resolve_right (by simp [suspended])
  have reactivated : map.reactivateSuspended virt backend =
      ({ map with
          suspendedVirtualToBackend := map.suspendedVirtualToBackend.erase virt
          virtualToBackend := map.virtualToBackend.insert virt backend
          backendToVirtual := map.backendToVirtual.insert backend virt }, true) := by
    have unbound : map.backendToVirtual.lookup backend = none := free
    rw [HandleMap.reactivateSuspended, if_neg (not_not_intro suspended), unbound]
    rfl
  have updated : Updated map (map.reactivateSuspended virt backend).1 virt (some backend) none := by
    rw [reactivated]
    exact ⟨fun query => dict_lookup_insert, fun query => dict_lookup_erase⟩
  have counter : (map.reactivateSuspended virt backend).1.nextId = map.nextId := by rw [reactivated]
  refine ⟨counter, updated, handle_well_updated well updated
    (Nat.le_of_eq (congrArg UInt64.toNat counter.symm)) (.inr rfl) (.inl ?_)
    (reverse_inserted well (fun bound held => ?_) inactive fun query => ?_)⟩
  · rw [counter]
    exact well.below virt (suspended_not_gone suspended)
  · rw [well.inverse, free] at held
    cases held
  · rw [reactivated]
    exact dict_lookup_insert

theorem reactivate_refused {other : VirtualHandle} (suspended : map.suspendedBackend virt = some backend)
    (bound : map.resolveBackend backend = some other) : map.reactivateSuspended virt backend = (map, false) := by
  have different : other ≠ virt := by
    rintro rfl
    rw [active_unsuspended well ((well.inverse other backend).mpr bound)] at suspended
    cases suspended
  have rebound : map.backendToVirtual.lookup backend = some other := bound
  rw [HandleMap.reactivateSuspended, if_neg (not_not_intro suspended), rebound]
  simp [different]

theorem insert_spec (free : map.resolveBackend backend = none) (room : map.nextId.toNat + 1 < 2 ^ 64) :
    (map.insert backend).2 = ⟨map.nextId⟩ ∧ (map.insert backend).1.nextId.toNat = map.nextId.toNat + 1 ∧
      map.isProvenGone ⟨map.nextId⟩ = true ∧ Updated map (map.insert backend).1 ⟨map.nextId⟩ (some backend) none ∧
      HandleWell (map.insert backend).1 := by
  have gone : map.isProvenGone ⟨map.nextId⟩ = true := by
    cases used : map.isProvenGone ⟨map.nextId⟩ with
    | true => rfl
    | false => exact absurd (well.below _ used) (Nat.lt_irrefl _)
  obtain ⟨inactive, unsuspended⟩ := (proven_gone_iff _).mp gone
  have inserted : map.insert backend =
      ({ map with
          nextId := map.nextId + 1
          virtualToBackend := map.virtualToBackend.insert ⟨map.nextId⟩ backend
          backendToVirtual := map.backendToVirtual.insert backend ⟨map.nextId⟩ }, ⟨map.nextId⟩) := by
    have unbound : map.backendToVirtual.lookup backend = none := free
    rw [HandleMap.insert, unbound]
  have updated : Updated map (map.insert backend).1 ⟨map.nextId⟩ (some backend) none := by
    rw [inserted]
    exact ⟨fun query => dict_lookup_insert, kept_outside unsuspended⟩
  have counter : (map.insert backend).1.nextId.toNat = map.nextId.toNat + 1 := by
    rw [inserted]
    exact Nat.mod_eq_of_lt room
  refine ⟨by rw [inserted], counter, gone, updated, handle_well_updated well updated ?_ (.inr rfl) (.inl ?_)
    (reverse_inserted well (fun bound held => ?_) inactive fun query => ?_)⟩
  · rw [counter]
    exact Nat.le_succ _
  · rw [counter]
    exact Nat.lt_succ_self _
  · rw [well.inverse, free] at held
    cases held
  · rw [inserted]
    exact dict_lookup_insert

end Operations

end Pkcs11Proxy.Server
