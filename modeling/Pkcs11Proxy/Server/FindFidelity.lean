import Pkcs11Proxy.Server.FindObjects
import Pkcs11Proxy.Server.ObjectEviction

namespace Pkcs11Proxy.Server

open Lib Pkcs11Proxy.Types

structure SameSearch (context next : LogicalClientInstance) : Prop where
  sessions : next.sessionHandles = context.sessionHandles
  slots : next.sessionSlots = context.sessionSlots
  login : next.loginState = context.loginState
  isPrivate : next.objectPrivate = context.objectPrivate

theorem same_search_trans {first second third : LogicalClientInstance} (left : SameSearch first second) (right : SameSearch second third) :
    SameSearch first third where
  sessions := right.sessions.trans left.sessions
  slots := right.slots.trans left.slots
  login := right.login.trans left.login
  isPrivate := right.isPrivate.trans left.isPrivate

variable {object : BackendHandle}

section Registration

variable {map : HandleMap}

theorem insert_keeps_resolve (well : HandleWell map) {backend : BackendHandle}
    (room : map.nextId.toNat + 1 < UInt64.size) {query : VirtualHandle}
    (held : map.resolve query = some object) : (map.insert backend).1.resolve query = some object := by
  obtain ⟨-, -, -, chosen, resolve⟩ := insert_reads well backend room
  rw [resolve]
  split
  · rename_i same
    rcases chosen with active | unissued
    · rw [← active, ← same, held]
    · have issued := well.below query (active_not_gone held)
      rw [← same] at unissued
      exact absurd issued (Nat.not_lt.mpr unissued)
  · exact held

theorem insert_next_le (well : HandleWell map) (backend : BackendHandle) (room : map.nextId.toNat + 1 < UInt64.size) :
    (map.insert backend).1.nextId.toNat ≤ map.nextId.toNat + 1 := by
  cases bound : map.resolveBackend backend with
  | none =>
    obtain ⟨-, grown, -⟩ := insert_spec well bound room
    exact Nat.le_of_eq grown
  | some existing =>
    rw [HandleMap.resolveBackend] at bound
    rw [HandleMap.insert, bound]
    exact Nat.le_succ _

theorem insert_other_backend {backend other : BackendHandle} (different : other ≠ backend) :
    (map.insert backend).1.resolveBackend other = map.resolveBackend other := by
  rw [HandleMap.insert]
  split
  · rfl
  · exact dict_lookup_insert.trans (if_neg different)

structure Registered (context : LogicalClientInstance) (objects : List BackendHandle) (next : LogicalClientInstance)
    (virts : List VirtualHandle) : Prop where
  frame : SameSearch context next
  well : HandleWell next.objectHandles
  counter : next.objectHandles.nextId.toNat ≤ context.objectHandles.nextId.toNat + objects.length
  given : virts.map next.objectHandles.resolve = objects.map some
  kept : ∀ query object, context.objectHandles.resolve query = some object → next.objectHandles.resolve query = some object
  others : ∀ other, other ∉ objects → next.objectHandles.resolveBackend other = context.objectHandles.resolveBackend other

theorem register_object_handles_spec (objects : List BackendHandle) (context : LogicalClientInstance) (well : HandleWell context.objectHandles)
    (room : context.objectHandles.nextId.toNat + objects.length < UInt64.size) :
    Registered context objects (context.registerObjectHandles objects).1 (context.registerObjectHandles objects).2 := by
  induction objects generalizing context with
  | nil => exact ⟨⟨rfl, rfl, rfl, rfl⟩, well, Nat.le_refl _, rfl, fun _ _ held => held, fun _ _ => rfl⟩
  | cons object rest ih =>
    have one : context.objectHandles.nextId.toNat + 1 < UInt64.size := by
      rw [List.length_cons] at room
      omega
    obtain ⟨inserted, -, -, -, resolve⟩ := insert_reads well object one
    have counter := insert_next_le well object one
    have rest := ih { context with objectHandles := (context.objectHandles.insert object).1 } inserted (by
      rw [List.length_cons] at room
      dsimp only
      omega)
    refine ⟨?_, rest.well, ?_, ?_, ?_, ?_⟩
    · exact ⟨rest.frame.sessions, rest.frame.slots, rest.frame.login, rest.frame.isPrivate⟩
    · have grown := rest.counter
      rw [LogicalClientInstance.registerObjectHandles, List.length_cons]
      dsimp only at grown ⊢
      omega
    · rw [LogicalClientInstance.registerObjectHandles, List.map_cons, List.map_cons, ← rest.given]
      congr 1
      exact rest.kept _ _ ((resolve _).trans (if_pos rfl))
    · intro query bound held
      exact rest.kept query bound (insert_keeps_resolve well one held)
    · intro other absent
      rw [List.mem_cons, not_or] at absent
      exact (rest.others other absent.2).trans (insert_other_backend absent.1)

theorem store_metas_same (generation : UInt64) (known : List (VirtualHandle × ObjectMetadata)) (context : LogicalClientInstance) :
    SameSearch context (context.storeMetas generation known) ∧ (context.storeMetas generation known).objectHandles = context.objectHandles := by
  induction known generalizing context with
  | nil => exact ⟨⟨rfl, rfl, rfl, rfl⟩, rfl⟩
  | cons entry rest ih =>
    obtain ⟨later, handles⟩ := ih (context.storeMetadata generation entry.1 entry.2)
    have first : SameSearch context (context.storeMetadata generation entry.1 entry.2) ∧
        (context.storeMetadata generation entry.1 entry.2).objectHandles = context.objectHandles := by
      rw [LogicalClientInstance.storeMetadata]
      split <;> exact ⟨⟨rfl, rfl, rfl, rfl⟩, rfl⟩
    exact ⟨same_search_trans first.1 later, handles.trans first.2⟩

end Registration

section Filter

variable (env : FindEnv)

def openingOf (gate : GateState) : FindOpening :=
  match gate.context with
  | none => .refused .cryptokiNotInitialized
  | some context =>
    match sessionVerdict context env.session with
    | .error rv => .refused rv
    | .ok session =>
      if !restrictsObjects env.gate then
        .scan session (if sessionSlotLoggedIn env gate.context then .transparent else .loggedOut)
      else
        match authzContext env.gate gate env.session with
        | none => .refused .ok
        | some (identity, label, serial) => .scan session (.restricted identity label serial (sessionSlotLoggedIn env gate.context))

theorem find_opening_reads {gate : GateState} : ∃ next, findOpening env gate = .ok (openingOf env gate) next ∧
    ∀ slot, tokenOf env.gate next slot = tokenOf env.gate gate slot := by
  rw [findOpening, get_bind, openingOf]
  cases gate.context with
  | none => exact ⟨gate, rfl, fun _ => rfl⟩
  | some context =>
    dsimp only
    cases sessionVerdict context env.session with
    | error rv => exact ⟨gate, rfl, fun _ => rfl⟩
    | ok session =>
      cases restrictsObjects env.gate with
      | false => exact ⟨gate, rfl, fun _ => rfl⟩
      | true =>
        obtain ⟨next, ran, learned⟩ : Judges env.gate ⟨0⟩ ⟨0⟩ ⟨0⟩ _ gate _ := judges_authz_context
        refine ⟨next, ?_, learned.token⟩
        simp only [Bool.not_true, Bool.false_eq_true, if_false]
        rw [bind_of_ok ran]
        cases authzContext env.gate gate env.session <;> rfl

variable {own context : LogicalClientInstance} (session : BackendHandle) {object : BackendHandle}
  (same : context.objectHandles.resolveBackend object = own.objectHandles.resolveBackend object)
  (isPrivate : context.objectPrivate = own.objectPrivate)

include same

theorem maps_backend_congr : contextMapsBackendObject (some context) object = contextMapsBackendObject (some own) object :=
  congrArg Option.isSome same

theorem visible_congr :
    findResultVisibleToContext env (some context) session object = findResultVisibleToContext env (some own) session object := by
  rw [findResultVisibleToContext, maps_backend_congr same, findResultVisibleToContext]

theorem sole_admits_congr (path : FindPath) :
    soleAdmits env (some context) session object path = soleAdmits env (some own) session object path := by
  cases path with
  | transparent => rw [soleAdmits, visible_congr env session same, soleAdmits]
  | loggedOut | restricted => rfl

include isPrivate

theorem known_public_congr :
    backendObjectKnownPublic env (some context) session object = backendObjectKnownPublic env (some own) session object := by
  have recorded : mintRecordedPrivate (some context) object = mintRecordedPrivate (some own) object := by
    simp [mintRecordedPrivate, same, isPrivate]
  rw [backendObjectKnownPublic, recorded, backendObjectKnownPublic]

theorem find_keeps_congr (path : FindPath) :
    findKeeps env (some context) session object path = findKeeps env (some own) session object path := by
  have isPublic := known_public_congr env session same isPrivate
  cases path with
  | transparent => exact visible_congr env session same
  | loggedOut => rw [findKeeps, visible_congr env session same, isPublic, findKeeps]
  | restricted identity label serial loggedIn =>
    rw [findKeeps, maps_backend_congr same, isPublic, findKeeps]

end Filter

section Batches

variable (env : FindEnv) (own : LogicalClientInstance) (session : BackendHandle) (path : FindPath)

def passed (entry : List BackendHandle × Bool) : List BackendHandle :=
  (admitted env (some own) session path entry.1 entry.2).1 ++ (admitted env (some own) session path entry.1 entry.2).2

theorem sole_not_kept (sole : soleAdmits env (some own) session object path = true) :
    findKeeps env (some own) session object path = false := by
  cases path with
  | transparent =>
    rw [soleAdmits, Bool.and_eq_true, Bool.not_eq_true'] at sole
    exact sole.1
  | loggedOut | restricted => cases sole

theorem passed_subperm (entry : List BackendHandle × Bool) : (passed env own session path entry).Subperm entry.1 := by
  obtain ⟨batch, sole⟩ := entry
  have groups := List.filter_append_perm (fun object => findKeeps env (some own) session object path) batch
  refine List.Subperm.trans (List.Subperm.append (List.Subperm.refl _) ?_) groups.subperm
  cases sole with
  | false => exact List.nil_subperm
  | true =>
    apply List.Sublist.subperm
    apply List.monotone_filter_right
    intro object admits
    rw [sole_not_kept env own session path admits]
    rfl

theorem admitted_congr {context : LogicalClientInstance} {batch : List BackendHandle} (sole : Bool)
    (same : ∀ object ∈ batch, context.objectHandles.resolveBackend object = own.objectHandles.resolveBackend object)
    (isPrivate : context.objectPrivate = own.objectPrivate) :
    admitted env (some context) session path batch sole = admitted env (some own) session path batch sole := by
  have kept := List.filter_congr fun object member =>
    find_keeps_congr env session (same object member) isPrivate path
  have bySole := List.filter_congr fun object member => sole_admits_congr env session (same object member) path
  rw [admitted, kept, bySole, admitted]

theorem passed_flat_subperm {scanned : List (List BackendHandle × Bool)} :
    (scanned.flatMap (passed env own session path)).Subperm (scanned.flatMap Prod.fst) := by
  induction scanned with
  | nil => exact List.Subperm.refl _
  | cons entry rest ih =>
    exact (passed_subperm env own session path entry).append ih

end Batches

end Pkcs11Proxy.Server
