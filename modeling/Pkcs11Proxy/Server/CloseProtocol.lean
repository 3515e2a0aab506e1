import Pkcs11Proxy.Server.CloseInvariant

namespace Pkcs11Proxy.Server

open Lib Pkcs11Proxy.Types

variable {next final : CloseSystem} {k : Nat} {before : CloseSessionTransition}
  {action : CloseAction} {completion : CloseSessionCompletion} {actions : List CloseAction}

variable {system : CloseSystem}

theorem completing_step (inv : CloseInv system) (at_ : system.transitions[k]? = some before)
    (completes : before.completesAs k action = some completion) (taken : closeStep system action = some next) :
    before.pending = true ∧ (completion = .transient → before.custody = some before.backendHandle) ∧
      next.context = system.context.completeCloseSession before.virtualSession before.backendHandle completion := by
  have member := List.mem_of_getElem? at_
  cases action with
  | settle j =>
    rw [CloseSessionTransition.completesAs] at completes
    split at completes
    · rename_i same
      subst same
      obtain ⟨rv, answer, rfl⟩ := Option.map_eq_some_iff.mp completes
      simp only [closeStep, at_, Option.bind_some, answer, Option.map_some] at taken
      split at taken
      · rename_i ready
        have pending := pending_of ready.1 ready.2
        cases taken
        exact ⟨pending, settle_custody pending answer, rfl⟩
      · cases taken
    · cases completes
  | drop j =>
    rw [CloseSessionTransition.completesAs] at completes
    split at completes
    · rename_i both
      obtain ⟨same, unsettled⟩ := both
      subst same
      cases completes
      simp only [closeStep, at_, Option.bind_some, unsettled, Bool.false_eq_true, if_false] at taken
      split at taken
      · cases taken
      · rename_i undropped
        have pending := pending_of unsettled (Bool.eq_false_iff.mpr undropped)
        cases taken
        exact ⟨pending, drop_custody inv member pending, rfl⟩
    · cases completes
  | registerSession | login | messageOperation | beginClose | markStarted | nativeClose => cases completes

def CloseAction.isLogin : CloseAction → Bool
  | .login _ _ => true
  | _ => false

structure CloseProtocol (system : CloseSystem) : Prop where
  others : ∀ (k : Nat) transition action completion next, system.transitions[k]? = some transition →
    transition.completesAs k action = some completion → closeStep system action = some next →
    ∀ query, query ≠ transition.virtualSession →
      next.context.sessionHandles.resolve query = system.context.sessionHandles.resolve query ∧
      next.context.sessionSlots.lookup query = system.context.sessionSlots.lookup query ∧
      ∀ operation, next.context.messageOperations.lookup (query, operation) = system.context.messageOperations.lookup (query, operation)
  terminal : ∀ (k : Nat) transition action next, system.transitions[k]? = some transition →
    transition.completesAs k action = some .terminal → closeStep system action = some next →
    ∀ rest final, exec closeStep next rest = some final → final.registered < 2 ^ 64 - 1 →
      final.context.sessionHandles.isProvenGone transition.virtualSession = true
  transient : ∀ (k : Nat) transition action next, system.transitions[k]? = some transition →
    transition.completesAs k action = some .transient → closeStep system action = some next →
    ((∃ query, system.context.sessionHandles.resolve query = some transition.backendHandle) →
      next.context.sessionHandles.resolve transition.virtualSession = none ∧
        next.context.sessionHandles.suspendedBackend transition.virtualSession = some transition.backendHandle) ∧
    ((∀ query, system.context.sessionHandles.resolve query ≠ some transition.backendHandle) →
      next.context.sessionHandles.resolve transition.virtualSession = some transition.backendHandle)
  ambiguous : ∀ (k : Nat) transition action next, system.transitions[k]? = some transition →
    transition.completesAs k action = some .ambiguous → closeStep system action = some next →
    next.context.sessionHandles.resolve transition.virtualSession = none ∧
      next.context.sessionHandles.suspendedBackend transition.virtualSession = some transition.backendHandle
  once : ∀ transition ∈ system.transitions, transition.completions = if transition.settled || transition.dropped then 1 else 0
  loginHeld : ∀ slot, system.context.loginState.lookup slot ≠ none → system.context.hasSessionOn slot = true
  loginKept : ∀ action next slot, closeStep system action = some next → action.isLogin = false →
    next.context.hasSessionOn slot = true → next.context.loginState.lookup slot = system.context.loginState.lookup slot

theorem registered_step (taken : closeStep system action = some next) :
    next.registered = system.registered ∨
      ∃ backend slot, action = .registerSession backend slot ∧ next.registered = system.registered + 1 := by
  cases close_step_move taken with
  | registered => exact .inr ⟨_, _, rfl, rfl⟩
  | loggedIn | locked | missed | begun | marked | closed | settled | released | dropped => exact .inl rfl

theorem registered_grows (taken : closeStep system action = some next) :
    system.registered ≤ next.registered := by
  rcases registered_step taken with same | ⟨-, -, -, more⟩ <;> omega

theorem close_inv_run (ran : exec closeStep system actions = some final)
    (inv : CloseInv system) (room : final.registered < 2 ^ 64 - 1) : CloseInv final := by
  refine exec_invariant closeStep (fun state => state.registered < 2 ^ 64 - 1 → CloseInv state)
    (fun state action next held taken bound => ?_) (fun _ => inv) ran room
  have grows := registered_grows taken
  exact close_inv_step (held (by omega)) bound taken

inductive ContextStep (system next : CloseSystem) (action : CloseAction) : Prop where
  | kept (handles : next.context.sessionHandles = system.context.sessionHandles)
      (login : action.isLogin = false → next.context.loginState = system.context.loginState)
  | registered (backend : BackendHandle) (slot : BackendSlotId) (unused : backend ∉ system.nativeSessions)
      (stepped : next = openBackendSession system backend slot)
  | begun (virt : VirtualHandle) (backend : BackendHandle) (active : system.context.sessionHandles.resolve virt = some backend)
      (handles : next.context.sessionHandles = (system.context.sessionHandles.suspend virt).1)
      (login : next.context.loginState = system.context.loginState)
  | completed (k : Nat) (before : CloseSessionTransition) (completion : CloseSessionCompletion)
      (at_ : system.transitions[k]? = some before) (completes : before.completesAs k action = some completion)

theorem close_step_context (taken : closeStep system action = some next) : ContextStep system next action := by
  cases close_step_move taken with
  | registered unused => exact .registered _ _ unused rfl
  | loggedIn => exact .kept rfl nofun
  | locked | missed | marked | closed | released => exact .kept rfl fun _ => rfl
  | begun active => exact .begun _ _ active rfl rfl
  | settled at_ _ _ answer => exact .completed _ _ _ at_ ((if_pos rfl).trans (congrArg (Option.map closeSessionCompletion) answer))
  | dropped at_ unsettled => exact .completed _ _ _ at_ (if_pos ⟨rfl, unsettled⟩)

theorem completing_effect (inv : CloseInv system) (at_ : system.transitions[k]? = some before)
    (completes : before.completesAs k action = some completion) (taken : closeStep system action = some next) :
    system.context.sessionHandles.suspendedBackend before.virtualSession = some before.backendHandle ∧
      ∃ active suspended, Completed system.context next.context before.virtualSession active suspended := by
  obtain ⟨pending, custody, context⟩ := completing_step inv at_ completes taken
  obtain ⟨active, suspended, completed, -⟩ := completion_effect inv at_ pending custody
  rw [← context] at completed
  exact ⟨inv.suspended before (List.mem_of_getElem? at_) pending, active, suspended, completed⟩

def GoneForGood (map : HandleMap) (virt : VirtualHandle) : Prop := virt.raw.toNat < map.nextId.toNat ∧ map.isProvenGone virt = true

theorem gone_step (system next : CloseSystem) (inv : CloseInv system) (room : next.registered < 2 ^ 64 - 1)
    (taken : closeStep system action = some next) (virt : VirtualHandle) (gone : GoneForGood system.context.sessionHandles virt) :
    GoneForGood next.context.sessionHandles virt := by
  obtain ⟨issued, absent⟩ := gone
  cases close_step_context taken with
  | kept handles _ =>
    rw [handles]
    exact ⟨issued, absent⟩
  | registered backend slot unused stepped =>
    subst stepped
    obtain ⟨-, grown, -, updated, -⟩ := registers_fresh inv unused room
    refine ⟨?_, (gone_elsewhere updated ?_).trans absent⟩
    · change _ < (system.context.sessionHandles.insert backend).1.nextId.toNat
      omega
    · rintro rfl
      exact Nat.lt_irrefl _ issued
  | begun other backend active handles _ =>
    obtain ⟨-, counter, updated, -⟩ := suspend_spec inv.well active
    rw [handles]
    refine ⟨?_, (gone_elsewhere updated ?_).trans absent⟩
    · rw [counter]
      exact issued
    · rintro rfl
      rw [active_not_gone active] at absent
      cases absent
  | completed k before completion at_ completes =>
    obtain ⟨quarantined, active, suspended, completed⟩ := completing_effect inv at_ completes taken
    refine ⟨?_, (gone_elsewhere completed.updated ?_).trans absent⟩
    · rw [completed.counter]
      exact issued
    · rintro rfl
      rw [suspended_not_gone quarantined] at absent
      cases absent

theorem gone_run (ran : exec closeStep system actions = some final)
    (inv : CloseInv system) (room : final.registered < 2 ^ 64 - 1) {virt : VirtualHandle}
    (gone : GoneForGood system.context.sessionHandles virt) : final.context.sessionHandles.isProvenGone virt = true := by
  have invariant := exec_invariant closeStep
    (fun state => state.registered < 2 ^ 64 - 1 → CloseInv state ∧ GoneForGood state.context.sessionHandles virt)
    (fun state action next held taken bound => by
      have grows := registered_grows taken
      obtain ⟨stateInv, stateGone⟩ := held (by omega)
      exact ⟨close_inv_step stateInv bound taken, gone_step state next stateInv bound taken virt stateGone⟩) (fun _ => ⟨inv, gone⟩) ran room
  exact invariant.2.2

section Protocol

variable {system : CloseSystem} (inv : CloseInv system)

include inv

theorem terminal_gone_for_good {transition : CloseSessionTransition}
    (at_ : system.transitions[k]? = some transition) (completes : transition.completesAs k action = some .terminal)
    (taken : closeStep system action = some next) : GoneForGood next.context.sessionHandles transition.virtualSession := by
  obtain ⟨pending, -, context⟩ := completing_step inv at_ completes taken
  have quarantined := inv.suspended transition (List.mem_of_getElem? at_) pending
  have completed := complete_terminal inv.well quarantined
  rw [← context] at completed
  constructor
  · rw [completed.counter]
    exact inv.well.below _ (suspended_not_gone quarantined)
  · rw [proven_gone_iff, completed.updated.resolve, completed.updated.suspended, if_pos rfl, if_pos rfl]
    exact ⟨rfl, rfl⟩

theorem close_protocol_of_inv : CloseProtocol system where
  others k transition action completion next at_ completes taken query other := by
    obtain ⟨-, active, suspended, completed⟩ := completing_effect inv at_ completes taken
    refine ⟨?_, completed.slots query other, fun operation => completed.messages (query, operation) other⟩
    rw [completed.updated.resolve, if_neg other]
  terminal k transition action next at_ completes taken rest final ran room := by
    have grows := exec_invariant closeStep (fun state => next.registered ≤ state.registered)
      (fun state action after held moved => Nat.le_trans held (registered_grows moved)) (Nat.le_refl _) ran
    exact gone_run ran (close_inv_step inv (Nat.lt_of_le_of_lt grows room) taken) room
      (terminal_gone_for_good inv at_ completes taken)
  transient k transition action next at_ completes taken := by
    obtain ⟨pending, -, context⟩ := completing_step inv at_ completes taken
    have quarantined := inv.suspended transition (List.mem_of_getElem? at_) pending
    rw [context]
    constructor
    · rintro ⟨query, bound⟩
      have completed := complete_transient_bound inv.well quarantined ((inv.well.inverse query _).mp bound)
      rw [completed.updated.resolve, completed.updated.suspended, if_pos rfl, if_pos rfl]
      exact ⟨rfl, rfl⟩
    · intro free
      have unbound : system.context.sessionHandles.resolveBackend transition.backendHandle = none := by
        cases bound : system.context.sessionHandles.resolveBackend transition.backendHandle with
        | none => rfl
        | some query => exact absurd ((inv.well.inverse query _).mpr bound) (free query)
      have completed := complete_transient_free inv.well quarantined unbound
      rw [completed.updated.resolve, if_pos rfl]
  ambiguous k transition action next at_ completes taken := by
    obtain ⟨pending, -, context⟩ := completing_step inv at_ completes taken
    have completed := complete_ambiguous inv.well (inv.suspended transition (List.mem_of_getElem? at_) pending)
    rw [context, completed.updated.resolve, completed.updated.suspended, if_pos rfl, if_pos rfl]
    exact ⟨rfl, rfl⟩
  once transition member := by
    rw [inv.once transition member, CloseSessionTransition.pending]
    cases transition.settled <;> cases transition.dropped <;> rfl
  loginHeld := inv.login
  loginKept action next slot taken other remains := by
    cases close_step_context taken with
    | kept _ login => rw [login other]
    | registered backend held unused stepped =>
      subst stepped
      rfl
    | begun virt backend active handles login => rw [login]
    | completed k before completion at_ completes =>
      obtain ⟨-, active, suspended, completed⟩ := completing_effect inv at_ completes taken
      rw [completed.login, if_neg]
      rintro ⟨-, none⟩
      rw [remains] at none
      cases none

end Protocol

theorem close_session_protocol (actions : List CloseAction) (final : CloseSystem)
    (ran : exec closeStep CloseSystem.new actions = some final) (room : final.registered < 2 ^ 64 - 1) : CloseProtocol final :=
  close_protocol_of_inv (close_inv_run ran close_inv_new room)

def recycledRun : List CloseAction :=
  [.registerSession ⟨7⟩ ⟨0⟩, .beginClose ⟨1⟩, .markStarted 0, .nativeClose 0 .ok, .registerSession ⟨7⟩ ⟨0⟩, .settle 0]

theorem close_session_protocol_recycled :
    ∃ final : CloseSystem, exec closeStep CloseSystem.new recycledRun = some final ∧ final.registered = 2 ∧ CloseProtocol final := by
  have counted : (exec closeStep CloseSystem.new recycledRun).map CloseSystem.registered = some 2 := by decide
  obtain ⟨final, ran, registered⟩ := Option.map_eq_some_iff.mp counted
  exact ⟨final, ran, registered, close_session_protocol recycledRun final ran (by omega)⟩

-- A session opened and closed, over and over: each round takes the next id, and the
-- u64 counter comes back to the first one.
section Rounds

def closedToken (n : Nat) : CloseSessionTransition := ⟨⟨UInt64.ofNat (n + 1)⟩, ⟨7⟩, true, true, some .ok, false, 1⟩

def closedTokens : Nat → List CloseSessionTransition
  | 0 => []
  | n + 1 => closedTokens n ++ [closedToken n]

theorem closed_tokens_length (n : Nat) : (closedTokens n).length = n := by
  induction n with
  | zero => rfl
  | succ n ih => rw [closedTokens, List.length_append, ih, List.length_singleton]

def afterRounds (n : Nat) : CloseSystem :=
  ⟨{ LogicalClientInstance.new with sessionHandles := ⟨UInt64.ofNat (n + 1), ∅, ∅, ∅⟩ }, ∅, closedTokens n, n⟩

def round (n : Nat) : List CloseAction :=
  [.registerSession ⟨7⟩ ⟨0⟩, .beginClose ⟨UInt64.ofNat (n + 1)⟩, .markStarted n, .nativeClose n .ok, .settle n]

theorem round_completed (next id : UInt64) :
    { LogicalClientInstance.new with
        sessionHandles := ⟨next, ∅, ∅, (∅ : Dict VirtualHandle BackendHandle).insert ⟨id⟩ ⟨7⟩⟩
        sessionSlots := (∅ : Dict VirtualHandle BackendSlotId).insert ⟨id⟩ ⟨0⟩ }.completeCloseSession ⟨id⟩ ⟨7⟩ .terminal =
      { LogicalClientInstance.new with sessionHandles := ⟨next, ∅, ∅, ∅⟩ } := by
  have vacant : dictValues (∅ : Dict VirtualHandle BackendSlotId) = ∅ := rfl
  have idle : dictRetain (fun key : VirtualHandle × MessageOperation => key.1 != ⟨id⟩) (∅ : Dict _ Nat) = ∅ := rfl
  have loggedOut : Finmap.erase ⟨0⟩ (∅ : Dict BackendSlotId LoginState) = ∅ := rfl
  simp [LogicalClientInstance.completeCloseSession, HandleMap.suspendedBackend, LogicalClientInstance.removeSession,
    LogicalClientInstance.evictSession, LogicalClientInstance.dropMessageOperations, LogicalClientInstance.evictSessionObjects,
    LogicalClientInstance.hasSessionOn, LogicalClientInstance.releaseLogin, LogicalClientInstance.new, HandleMap.remove,
    HandleMap.detachReverse, dict_erase_insert_empty, vacant, idle, loggedOut]

theorem round_run (n : Nat) : exec closeStep (afterRounds n) (round n) = some (afterRounds (n + 1)) := by
  have length := closed_tokens_length n
  have tokens : closedTokens (n + 1) = closedTokens n ++ [closedToken n] := rfl
  have completed := round_completed (UInt64.ofNat n + 1 + 1) (UInt64.ofNat n + 1)
  simp [exec, round, closeStep, afterRounds, openBackendSession, LogicalClientInstance.registerSession, HandleMap.insert,
    beginCloseSessionWithGuard, HandleMap.suspend, HandleMap.detachReverse, complete, length, dict_erase_insert_empty, tokens, closedToken]
  exact completed

def rounds (start : Nat) : Nat → List CloseAction
  | 0 => []
  | count + 1 => round start ++ rounds (start + 1) count

theorem rounds_run (start count : Nat) : exec closeStep (afterRounds start) (rounds start count) = some (afterRounds (start + count)) := by
  induction count generalizing start with
  | zero => rfl
  | succ count ih =>
    rw [rounds, exec_append, round_run, Option.bind_some, ih]
    congr 2
    omega

theorem reissued_after_rounds {n : Nat} :
    (openBackendSession (afterRounds n) ⟨7⟩ ⟨0⟩).context.sessionHandles.isProvenGone ⟨UInt64.ofNat (n + 1)⟩ = false :=
  active_not_gone (Finmap.lookup_insert (∅ : Dict VirtualHandle BackendHandle))

end Rounds

theorem closed_session_reissued :
    ∃ (system next final : CloseSystem) (rest : List CloseAction) (transition : CloseSessionTransition),
      exec closeStep CloseSystem.new [.registerSession ⟨7⟩ ⟨0⟩, .beginClose ⟨1⟩, .markStarted 0, .nativeClose 0 .ok] = some system ∧
        system.transitions[0]? = some transition ∧ transition.completesAs 0 (.settle 0) = some .terminal ∧
        closeStep system (.settle 0) = some next ∧ exec closeStep next rest = some final ∧
        final.context.sessionHandles.isProvenGone transition.virtualSession = false := by
  have first := round_run 0
  rw [show round 0 = [.registerSession ⟨7⟩ ⟨0⟩, .beginClose ⟨1⟩, .markStarted 0, .nativeClose 0 .ok] ++ [.settle 0] from rfl,
    exec_append, Option.bind_eq_some_iff] at first
  obtain ⟨system, ran, settled⟩ := first
  obtain ⟨next, taken, done⟩ := exec_cons_some settled
  cases done
  refine ⟨system, _, openBackendSession (afterRounds (1 + (2 ^ 64 - 1))) ⟨7⟩ ⟨0⟩,
    rounds 1 (2 ^ 64 - 1) ++ [.registerSession ⟨7⟩ ⟨0⟩], ⟨⟨1⟩, ⟨7⟩, true, false, some .ok, false, 0⟩, ran, ?_, rfl, taken, ?_, ?_⟩
  · have opened : (exec closeStep CloseSystem.new [.registerSession ⟨7⟩ ⟨0⟩, .beginClose ⟨1⟩, .markStarted 0, .nativeClose 0 .ok]).map
        CloseSystem.transitions = some [⟨⟨1⟩, ⟨7⟩, true, false, some .ok, false, 0⟩] := by decide
    change exec closeStep CloseSystem.new _ = _ at ran
    rw [ran] at opened
    rw [Option.some.inj opened]
    rfl
  · rw [exec_append, rounds_run]
    rfl
  · exact reissued_after_rounds

end Pkcs11Proxy.Server
