import Pkcs11Proxy.Lib.Exec

namespace Pkcs11Proxy.Server

open Lib

inductive StuckCallState where
  | running
  | timedOut
  | completed
deriving DecidableEq, Repr

-- The blocking task. Its locals drop in reverse order, the completion guard first and
-- the in-flight guard last, on a return and on an unwind alike.
inductive TaskRun where
  | queued
  | running
  | unwinding
  | completed
  | ended
deriving DecidableEq, Repr

-- `early` is ghost state: the timeout branch ran before the task had completed.
inductive CallerRun where
  | waiting
  | timedOut (early : Bool)
  | cancelled
  | answered
deriving DecidableEq, Repr

-- A call of `spawn_backend_core_classified`. Nothing is awaited before the task is
-- submitted, so a caller can be cancelled only from there on.
inductive BackendCall where
  | loading
  | exchanging (current : UInt64)
  | tripped
  | admitted
  | rejected
  | submitted (task : TaskRun) (stuck : StuckCallState) (caller : CallerRun)
deriving DecidableEq, Repr

structure Breaker where
  inFlight : UInt64
  stuckCalls : UInt64
  calls : List BackendCall
deriving DecidableEq, Repr

inductive CallerEvent where
  | timeout
  | cancel
  | answer

inductive BreakerAction where
  | call
  | acquire (k : Nat) (spurious peerAdmits : Bool)
  | task (k : Nat)
  | caller (k : Nat) (event : CallerEvent)

def TaskRun.hasCompleted : TaskRun → Bool
  | .completed | .ended => true
  | _ => false

namespace Breaker

variable (breaker : Breaker)

def new : Breaker := ⟨0, 0, []⟩

-- `StuckCallAccounting::timeout` and `complete`, each one section of the state's mutex.
def timeout : StuckCallState → Breaker × StuckCallState
  | .running => ({ breaker with stuckCalls := breaker.stuckCalls + 1 }, .timedOut)
  | state => (breaker, state)

def complete : StuckCallState → Breaker × StuckCallState
  | .timedOut => ({ breaker with stuckCalls := breaker.stuckCalls - 1 }, .completed)
  | _ => (breaker, .completed)

def dropInFlight : Breaker := { breaker with inFlight := breaker.inFlight - 1 }

def advanceAcquire (maxCalls : UInt64) (spurious peerAdmits : Bool) : BackendCall → Option (Breaker × BackendCall)
  | .loading => some (breaker, .exchanging breaker.inFlight)
  | .exchanging current =>
    if maxCalls ≤ current then some (breaker, .tripped)
    else if breaker.inFlight = current ∧ spurious = false then some ({ breaker with inFlight := current + 1 }, .admitted)
    else some (breaker, .exchanging breaker.inFlight)
  | .admitted => if peerAdmits then some (breaker, .submitted .queued .running .waiting) else some (breaker.dropInFlight, .rejected)
  | _ => none

def advanceTask : BackendCall → Option (Breaker × BackendCall)
  | .submitted .queued stuck caller => some (breaker, .submitted .running stuck caller)
  | .submitted .running stuck caller => some (breaker, .submitted .unwinding stuck caller)
  | .submitted .unwinding stuck caller => some ((breaker.complete stuck).1, .submitted .completed (breaker.complete stuck).2 caller)
  | .submitted .completed stuck caller => some (breaker.dropInFlight, .submitted .ended stuck caller)
  | _ => none

def advanceCaller : CallerEvent → BackendCall → Option (Breaker × BackendCall)
  | .timeout, .submitted task stuck .waiting =>
    some ((breaker.timeout stuck).1, .submitted task (breaker.timeout stuck).2 (.timedOut !task.hasCompleted))
  | .cancel, .submitted task stuck .waiting => some (breaker, .submitted task stuck .cancelled)
  | .answer, .submitted .ended stuck .waiting => some (breaker, .submitted .ended stuck .answered)
  | _, _ => none

def move (k : Nat) (advance : BackendCall → Option (Breaker × BackendCall)) : Option Breaker :=
  breaker.calls[k]?.bind fun call => (advance call).map fun done => { done.1 with calls := breaker.calls.set k done.2 }

end Breaker

def breakerStep (maxCalls : UInt64) (breaker : Breaker) : BreakerAction → Option Breaker
  | .call => some { breaker with calls := breaker.calls ++ [.loading] }
  | .acquire k spurious peerAdmits => breaker.move k (breaker.advanceAcquire maxCalls spurious peerAdmits)
  | .task k => breaker.move k breaker.advanceTask
  | .caller k event => breaker.move k (breaker.advanceCaller event)

namespace BackendCall

def holdsSlot : BackendCall → Nat
  | .admitted => 1
  | .submitted task _ _ => if task = .ended then 0 else 1
  | _ => 0

def isStuck : BackendCall → Nat
  | .submitted task _ caller => if caller = .timedOut true ∧ task.hasCompleted = false then 1 else 0
  | _ => 0

def hasEnded : BackendCall → Bool
  | .tripped | .rejected | .submitted .ended _ _ => true
  | _ => false

def accounted : BackendCall → Prop
  | .submitted task stuck caller =>
    stuck = if task.hasCompleted then .completed else if caller = .timedOut true then .timedOut else .running
  | _ => True

theorem is_stuck_le_holds_slot (call : BackendCall) : call.isStuck ≤ call.holdsSlot := by
  cases call with
  | submitted task stuck caller =>
    rw [isStuck, holdsSlot]
    split
    · rename_i late
      rw [if_neg]
      rintro rfl
      cases late.2
    · exact Nat.zero_le _
  | loading | exchanging | tripped | admitted | rejected => exact Nat.zero_le _

theorem has_ended_free (call : BackendCall) (ended : call.hasEnded = true) : call.holdsSlot = 0 := by
  unfold hasEnded at ended
  split at ended <;> first | rfl | cases ended

end BackendCall

structure BreakerInv (maxCalls : UInt64) (breaker : Breaker) : Prop where
  held : breaker.inFlight.toNat = total BackendCall.holdsSlot breaker.calls
  capped : breaker.inFlight.toNat ≤ maxCalls.toNat
  stuck : breaker.stuckCalls.toNat = total BackendCall.isStuck breaker.calls
  accounted : ∀ call ∈ breaker.calls, call.accounted

section

variable {maxCalls : UInt64} {breaker next : Breaker} {k : Nat} {before after : BackendCall}

theorem breaker_inv_move (next : Breaker) (inv : BreakerInv maxCalls breaker) (here : breaker.calls[k]? = some before)
    (held : next.inFlight.toNat + before.holdsSlot = breaker.inFlight.toNat + after.holdsSlot) (capped : next.inFlight.toNat ≤ maxCalls.toNat)
    (stuck : next.stuckCalls.toNat + before.isStuck = breaker.stuckCalls.toNat + after.isStuck) (accounted : after.accounted) :
    BreakerInv maxCalls { next with calls := breaker.calls.set k after } where
  held := by
    have weight := total_set BackendCall.holdsSlot after here
    have counted := inv.held
    change next.inFlight.toNat = total _ (breaker.calls.set k after)
    omega
  capped := capped
  stuck := by
    have weight := total_set BackendCall.isStuck after here
    have counted := inv.stuck
    change next.stuckCalls.toNat = total _ (breaker.calls.set k after)
    omega
  accounted := forall_set inv.accounted accounted

section

variable (inv : BreakerInv maxCalls breaker)

include inv

theorem breaker_inv_still (here : breaker.calls[k]? = some before)
    (held : before.holdsSlot = after.holdsSlot) (stuck : before.isStuck = after.isStuck) (accounted : after.accounted) :
    BreakerInv maxCalls { breaker with calls := breaker.calls.set k after } :=
  breaker_inv_move _ inv here (by rw [held]) inv.capped (by rw [stuck]) accounted

omit inv in
theorem fetch_sub_word {word : UInt64} (positive : 1 ≤ word.toNat) : (word - 1).toNat + 1 = word.toNat := by
  rw [UInt64.toNat_sub_of_le _ _ (by rw [UInt64.le_iff_toNat_le]; exact positive), UInt64.toNat_one]
  omega

theorem drop_in_flight (here : breaker.calls[k]? = some before) (holds : before.holdsSlot = 1) :
    breaker.dropInFlight.inFlight.toNat + 1 = breaker.inFlight.toNat := by
  apply fetch_sub_word
  rw [inv.held, ← holds]
  exact weight_le_total BackendCall.holdsSlot (List.mem_of_getElem? here)

theorem acquire_inv {spurious peerAdmits : Bool} (here : breaker.calls[k]? = some before)
    (taken : breaker.advanceAcquire maxCalls spurious peerAdmits before = some (next, after)) :
    BreakerInv maxCalls { next with calls := breaker.calls.set k after } := by
  cases before with
  | loading =>
    cases taken
    exact breaker_inv_still inv here rfl rfl trivial
  | exchanging current =>
    change ite _ _ _ = _ at taken
    split at taken
    · cases taken
      exact breaker_inv_still inv here rfl rfl trivial
    rename_i below
    split at taken
    · rename_i exchanged
      obtain ⟨rfl, -⟩ := exchanged
      cases taken
      have free : breaker.inFlight.toNat < maxCalls.toNat := UInt64.lt_iff_toNat_lt.mp (UInt64.not_le.mp below)
      have grown : (breaker.inFlight + 1).toNat = breaker.inFlight.toNat + 1 := by
        have word := maxCalls.toNat_lt
        rw [UInt64.toNat_add, UInt64.toNat_one, Nat.mod_eq_of_lt (by omega)]
      refine breaker_inv_move _ inv here grown ?_ rfl trivial
      change (breaker.inFlight + 1).toNat ≤ _
      omega
    · cases taken
      exact breaker_inv_still inv here rfl rfl trivial
  | admitted =>
    change ite _ _ _ = _ at taken
    split at taken
    · cases taken
      exact breaker_inv_still inv here rfl rfl rfl
    · cases taken
      have dropped := drop_in_flight inv here rfl
      have capped := inv.capped
      exact breaker_inv_move _ inv here dropped (by omega) rfl trivial
  | tripped | rejected | submitted => cases taken

theorem task_inv (here : breaker.calls[k]? = some before) (taken : breaker.advanceTask before = some (next, after)) :
    BreakerInv maxCalls { next with calls := breaker.calls.set k after } := by
  have accounted := inv.accounted before (List.mem_of_getElem? here)
  cases before with
  | submitted task stuck caller =>
    cases task with
    | queued | running =>
      cases taken
      exact breaker_inv_still inv here rfl rfl accounted
    | unwinding =>
      cases taken
      by_cases early : caller = .timedOut true
      · subst early
        cases accounted
        have positive := weight_le_total BackendCall.isStuck (List.mem_of_getElem? here)
        rw [← inv.stuck] at positive
        exact breaker_inv_move _ inv here rfl inv.capped (fetch_sub_word positive) rfl
      · have still : stuck = .running := accounted.trans (if_neg early)
        subst still
        exact breaker_inv_still inv here rfl (by simp [BackendCall.isStuck, early, TaskRun.hasCompleted]) rfl
    | completed =>
      cases taken
      have dropped := drop_in_flight inv here rfl
      have capped := inv.capped
      exact breaker_inv_move _ inv here dropped (by omega) rfl accounted
    | ended => cases taken
  | loading | exchanging | tripped | admitted | rejected => cases taken

-- The call holds a slot and was not counted as stuck, so the gauge is below the counter.
theorem timeout_inv {task : TaskRun}
    (here : breaker.calls[k]? = some (.submitted task .running .waiting)) (pending : task.hasCompleted = false) :
    BreakerInv maxCalls { breaker with stuckCalls := breaker.stuckCalls + 1, calls := breaker.calls.set k (.submitted task .timedOut (.timedOut true)) } := by
  have mine : (BackendCall.submitted task .timedOut (.timedOut true)).isStuck = 1 := if_pos ⟨rfl, pending⟩
  have weight := total_set BackendCall.isStuck (.submitted task .timedOut (.timedOut true)) here
  have slots := total_set BackendCall.holdsSlot (.submitted task .timedOut (.timedOut true)) here
  have below := total_le_total _ _ (breaker.calls.set k (.submitted task .timedOut (.timedOut true)))
    fun call _ => call.is_stuck_le_holds_slot
  have word := breaker.inFlight.toNat_lt
  have held := inv.held
  have counted := inv.stuck
  have grown : (breaker.stuckCalls + 1).toNat = breaker.stuckCalls.toNat + 1 := by
    rw [UInt64.toNat_add, UInt64.toNat_one, Nat.mod_eq_of_lt]
    change total _ _ + 0 = _ at weight
    change _ + BackendCall.holdsSlot (.submitted task .timedOut (.timedOut true)) = _ at slots
    omega
  refine breaker_inv_move { breaker with stuckCalls := breaker.stuckCalls + 1 } inv here rfl inv.capped ?_ ?_
  · rw [mine]
    exact grown
  · rw [BackendCall.accounted, pending]
    rfl

theorem caller_inv {event : CallerEvent} (here : breaker.calls[k]? = some before)
    (taken : breaker.advanceCaller event before = some (next, after)) : BreakerInv maxCalls { next with calls := breaker.calls.set k after } := by
  have accounted := inv.accounted before (List.mem_of_getElem? here)
  unfold Breaker.advanceCaller at taken
  split at taken
  · rename_i task stuck
    cases taken
    cases completed : task.hasCompleted with
    | true =>
      have settled : stuck = .completed := accounted.trans (if_pos completed)
      subst settled
      exact breaker_inv_still inv here rfl rfl accounted
    | false =>
      have running : stuck = .running := by
        rw [BackendCall.accounted, completed] at accounted
        exact accounted
      subst running
      exact timeout_inv inv here completed
  · cases taken
    exact breaker_inv_still inv here rfl rfl accounted
  · cases taken
    exact breaker_inv_still inv here rfl rfl accounted
  · cases taken

theorem breaker_inv_step {action : BreakerAction} (taken : breakerStep maxCalls breaker action = some next) :
    BreakerInv maxCalls next := by
  have moved : ∀ {k advance}, (∀ {before next after}, breaker.calls[k]? = some before → advance before = some (next, after) →
      BreakerInv maxCalls { next with calls := breaker.calls.set k after }) → breaker.move k advance = some next → BreakerInv maxCalls next := by
    intro k advance kept taken
    obtain ⟨before, here, moved⟩ := Option.bind_eq_some_iff.mp taken
    obtain ⟨⟨after, call⟩, advanced, rfl⟩ := Option.map_eq_some_iff.mp moved
    exact kept here advanced
  cases action with
  | call =>
    cases taken
    refine ⟨?_, inv.capped, ?_, forall_added inv.accounted trivial⟩
    · rw [total_append]
      exact inv.held
    · rw [total_append]
      exact inv.stuck
  | acquire k spurious peerAdmits => exact moved (acquire_inv inv) taken
  | task k => exact moved (task_inv inv) taken
  | caller k event => exact moved (caller_inv inv) taken

end

end

-- The counter is the number of held slots and stays under the cap. The gauge is the
-- number of calls that are stuck and stays under the counter.
theorem breaker_accounts (maxCalls : UInt64) (actions : List BreakerAction) (breaker : Breaker)
    (reached : exec (breakerStep maxCalls) Breaker.new actions = some breaker) :
    breaker.inFlight.toNat = total BackendCall.holdsSlot breaker.calls ∧ breaker.inFlight.toNat ≤ maxCalls.toNat ∧
    breaker.stuckCalls.toNat = total BackendCall.isStuck breaker.calls ∧ breaker.stuckCalls.toNat ≤ breaker.inFlight.toNat ∧
    ((∀ call ∈ breaker.calls, call.hasEnded = true) → breaker.inFlight = 0 ∧ breaker.stuckCalls = 0) := by
  have inv := exec_invariant (breakerStep maxCalls) (BreakerInv maxCalls) (fun _ _ _ inv taken => breaker_inv_step inv taken)
    ⟨rfl, Nat.zero_le _, rfl, by simp [Breaker.new]⟩ reached
  have below := total_le_total _ _ breaker.calls fun call _ => call.is_stuck_le_holds_slot
  rw [← inv.stuck, ← inv.held] at below
  refine ⟨inv.held, inv.capped, inv.stuck, below, fun ended => ?_⟩
  have free := total_le_total BackendCall.holdsSlot (fun _ => 0) breaker.calls
    fun call member => Nat.le_of_eq (call.has_ended_free (ended call member))
  have empty : breaker.inFlight.toNat = 0 := by
    rw [inv.held]
    simpa [total] using free
  exact ⟨UInt64.toNat_inj.mp empty, UInt64.toNat_inj.mp (Nat.le_zero.mp (empty ▸ below))⟩

def lateRun : List BreakerAction :=
  [.call, .acquire 0 false true, .acquire 0 true true, .acquire 0 false true, .acquire 0 false true, .task 0, .caller 0 .timeout,
    .call, .acquire 1 false true, .acquire 1 false true, .task 0, .task 0, .task 0]

theorem breaker_accounts_late : ∃ breaker, exec (breakerStep 1) Breaker.new lateRun = some breaker ∧
    breaker.inFlight = 0 ∧ breaker.stuckCalls = 0 :=
  ⟨_, rfl, (breaker_accounts 1 lateRun _ rfl).2.2.2.2 (by decide)⟩

end Pkcs11Proxy.Server
