import Pkcs11Proxy.Lib.Forest

namespace Pkcs11Proxy.Shim

open Lib

structure ForkFlags where
  shimPid : UInt32
  initialized : Bool
  clientReconnectRequired : Bool
deriving DecidableEq

def ForkFlags.new : ForkFlags := ⟨0, false, false⟩

-- The atomic operations of `reclaim_after_fork`, `claim_pid_slot` being the first two.
inductive ReclaimPoint where
  | load
  | claim (current : UInt32)
  | reset
  | require
deriving DecidableEq

-- None when the call returns. A weak exchange may fail on the value it expects.
def reclaimAfterFork (pid : UInt32) (flags : ForkFlags) (spurious : Bool) : ReclaimPoint → ForkFlags × Option ReclaimPoint
  | .load => (flags, some (.claim flags.shimPid))
  | .claim current =>
    if current = pid then (flags, none)
    else if flags.shimPid = current ∧ spurious = false then ({ flags with shimPid := pid }, some .reset)
    else (flags, some (.claim flags.shimPid))
  | .reset => ({ flags with initialized := false }, some .require)
  | .require => ({ flags with clientReconnectRequired := true }, none)

inductive InitCall where
  | isInitialized
  | markInitialized
deriving DecidableEq

-- `marked` and `live` are ghost state of the process: some `mark_initialized` returned true
-- in it, and no `mark_finalized` was called since.
structure InitMemory where
  flags : ForkFlags
  marked : Bool
  live : Bool
deriving DecidableEq

-- An answer of `is_initialized` stands with the ghost state it was given in.
inductive InitThread where
  | reclaiming (point : ReclaimPoint) (call : InitCall)
  | body (call : InitCall)
  | finalizing
  | answered (result live marked : Bool)
  | marked (result : Bool)
  | finalized
deriving DecidableEq

inductive InitRequest where
  | call (call : InitCall)
  | markFinalized

namespace InitThread

def resetting : InitThread → Bool
  | .reclaiming .reset _ => true
  | _ => false

def past (pid : UInt32) : InitThread → Bool
  | .reclaiming (.claim current) _ => current == pid
  | .reclaiming .load _ | .finalizing | .finalized => false
  | _ => true

-- A read of a set flag, or a mark that will set it.
def takesSet (flags : ForkFlags) : InitThread → Bool
  | .body .isInitialized => flags.initialized
  | .body .markInitialized => !flags.initialized
  | _ => false

end InitThread

def initAdvance (pid : UInt32) (memory : InitMemory) (spurious : Bool) : InitThread → Option (InitMemory × InitThread)
  | .reclaiming point call =>
    let done := reclaimAfterFork pid memory.flags spurious point
    some ({ memory with flags := done.1 }, done.2.elim (.body call) (.reclaiming · call))
  | .body .isInitialized => some (memory, .answered memory.flags.initialized memory.live memory.marked)
  | .body .markInitialized =>
    if memory.flags.initialized then some (memory, .marked false)
    else some (⟨{ memory.flags with initialized := true }, true, true⟩, .marked true)
  | .finalizing => some ({ memory with flags := { memory.flags with initialized := false }, live := false }, .finalized)
  | _ => none

def initProgram : Program InitMemory InitThread InitRequest Bool where
  inherit memory := ⟨memory.flags, false, false⟩
  start _ request :=
    match request with
    | .call call => .reclaiming .load call
    | .markFinalized => .finalizing
  advance _ pid memory thread spurious := initAdvance pid memory spurious thread

-- The child's id is not the one it inherits in SHIM_PID.
def freshPid (parent : Process InitMemory InitThread) (pid : UInt32) : Bool := pid != parent.memory.flags.shimPid

-- While a thread stands between its claim and its reset, INITIALIZED is neither read as
-- set nor set.
def resetFirst (process : Process InitMemory InitThread) (k : Nat) : Bool :=
  process.threads[k]?.all fun thread => !thread.takesSet process.memory.flags || process.threads.all fun other => !other.resetting

structure InitInv (process : Process InitMemory InitThread) : Prop where
  claimed : ∀ thread ∈ process.threads, thread.past process.pid = true → process.memory.flags.shimPid = process.pid
  unmarked : (process.memory.flags.shimPid ≠ process.pid ∨ ∃ thread ∈ process.threads, thread.resetting = true) →
    process.memory.marked = false ∧ process.memory.live = false
  owned : process.memory.flags.shimPid = process.pid → (∀ thread ∈ process.threads, thread.resetting = false) →
    (process.memory.flags.initialized = true → process.memory.marked = true) ∧
      (process.memory.live = true → process.memory.flags.initialized = true)
  answers : ∀ result live marked, .answered result live marked ∈ process.threads → (live = true → result = true) ∧ (result = true → marked = true)

section

variable {process : Process InitMemory InitThread} {k : Nat} {thread after : InitThread} {memory : InitMemory} (inv : InitInv process)
include inv

theorem init_inv_called (early : thread.past process.pid = false) (calm : thread.resetting = false)
    (fresh : ∀ result live marked, thread ≠ .answered result live marked) : InitInv { process with threads := process.threads ++ [thread] } where
  claimed other member seen := by
    rcases List.mem_append.mp member with old | new
    · exact inv.claimed other old seen
    · cases List.mem_singleton.mp new
      cases early.symm.trans seen
  unmarked before := by
    apply inv.unmarked
    rcases before with apart | ⟨other, member, resetting⟩
    · exact .inl apart
    · rcases List.mem_append.mp member with old | new
      · exact .inr ⟨other, old, resetting⟩
      · cases List.mem_singleton.mp new
        cases calm.symm.trans resetting
  owned same rest := inv.owned same fun other member => rest other (List.mem_append_left _ member)
  answers result live marked member := by
    rcases List.mem_append.mp member with old | new
    · exact inv.answers result live marked old
    · exact absurd (List.mem_singleton.mp new).symm (fresh result live marked)

variable (held : process.threads[k]? = some thread)
include held

theorem init_inv_moved (past : after.past process.pid = true → memory.flags.shimPid = process.pid)
    (claim : process.memory.flags.shimPid = process.pid → memory.flags.shimPid = process.pid)
    (answers : ∀ result live marked, after = .answered result live marked → (live = true → result = true) ∧ (result = true → marked = true))
    (unmarked : (memory.flags.shimPid ≠ process.pid ∨ after.resetting = true ∨ ∃ other ∈ process.threads, other.resetting = true) →
      memory.marked = false ∧ memory.live = false) (owned : memory.flags.shimPid = process.pid → after.resetting = false →
      (thread.resetting = false → ∀ other ∈ process.threads, other.resetting = false) →
      (memory.flags.initialized = true → memory.marked = true) ∧ (memory.live = true → memory.flags.initialized = true)) :
    InitInv { process with memory := memory, threads := process.threads.set k after } where
  claimed := forall_set (fun other old seen => claim (inv.claimed other old seen)) past
  unmarked early := by
    apply unmarked
    rcases early with apart | ⟨other, member, resetting⟩
    · exact .inl apart
    · rcases List.mem_or_eq_of_mem_set member with old | rfl
      · exact .inr (.inr ⟨other, old, resetting⟩)
      · exact .inr (.inl resetting)
  owned same rest := by
    apply owned same (rest after (slot_placed held))
    intro calm other member
    obtain ⟨j, there⟩ := List.mem_iff_getElem?.mp member
    by_cases here : j = k
    · subst here
      cases held.symm.trans there
      exact calm
    · exact rest other (slot_kept here there)
  answers result live marked member := by
    rcases List.mem_or_eq_of_mem_set member with old | same
    · exact inv.answers result live marked old
    · exact answers result live marked same.symm

theorem init_inv_passed (flags : memory.flags.initialized = process.memory.flags.initialized)
    (pid : memory.flags.shimPid = process.memory.flags.shimPid)
    (marked : memory.marked = process.memory.marked) (live : memory.live = process.memory.live) (calm : thread.resetting = false)
    (moved : after.resetting = false) (past : after.past process.pid = true → process.memory.flags.shimPid = process.pid)
    (answers : ∀ result live marked, after = .answered result live marked → (live = true → result = true) ∧ (result = true → marked = true)) :
    InitInv { process with memory := memory, threads := process.threads.set k after } := by
  apply init_inv_moved inv held (pid ▸ past) (pid ▸ id) answers
  · intro early
    rw [marked, live]
    rcases early with apart | resets | others
    · exact inv.unmarked (.inl (pid ▸ apart))
    · cases moved.symm.trans resets
    · exact inv.unmarked (.inr others)
  · intro same _ rest
    rw [flags, marked, live]
    exact inv.owned (pid ▸ same) (rest calm)

theorem init_inv_step {spurious : Bool} (first : resetFirst process k = true)
    (taken : initAdvance process.pid process.memory spurious thread = some (memory, after)) :
    InitInv { process with memory := memory, threads := process.threads.set k after } := by
  rw [resetFirst, held, Option.all_some] at first
  have here := List.mem_of_getElem? held
  cases thread with
  | reclaiming point call =>
    cases point with
    | load =>
      cases taken
      exact init_inv_passed inv held rfl rfl rfl rfl rfl rfl (fun seen => beq_iff_eq.mp seen) nofun
    | claim current =>
      rw [initAdvance, reclaimAfterFork] at taken
      by_cases own : current = process.pid
      · rw [if_pos own] at taken
        cases taken
        exact init_inv_passed inv held rfl rfl rfl rfl rfl rfl (fun _ => inv.claimed _ here (beq_iff_eq.mpr own)) nofun
      · rw [if_neg own] at taken
        split at taken
        · rename_i claims
          cases taken
          have unclaimed : process.memory.flags.shimPid ≠ process.pid := fun same => own (claims.1.symm.trans same)
          exact init_inv_moved inv held (fun _ => rfl) (fun _ => rfl) nofun (fun _ => inv.unmarked (.inl unclaimed)) fun _ calm => nomatch calm
        · cases taken
          exact init_inv_passed inv held rfl rfl rfl rfl rfl rfl (fun seen => beq_iff_eq.mp seen) nofun
    | reset =>
      cases taken
      have claimed := inv.claimed _ here rfl
      have unmarked := inv.unmarked (.inr ⟨_, here, rfl⟩)
      have stale : process.memory.live ≠ true := fun live => Bool.false_ne_true (unmarked.2.symm.trans live)
      exact init_inv_moved inv held (fun _ => claimed) id nofun (fun _ => unmarked) fun _ _ _ => ⟨nofun, fun live => absurd live stale⟩
    | require =>
      cases taken
      exact init_inv_passed inv held rfl rfl rfl rfl rfl rfl (fun _ => inv.claimed _ here rfl) nofun
  | body call =>
    have claimed := inv.claimed _ here rfl
    have calm : InitThread.takesSet process.memory.flags (.body call) = true → ∀ other ∈ process.threads, other.resetting = false := by
      intro takes other member
      rw [takes] at first
      exact Bool.not_eq_true' _ |>.mp (List.all_eq_true.mp first other member)
    cases call with
    | isInitialized =>
      cases taken
      apply init_inv_passed inv held rfl rfl rfl rfl rfl rfl fun _ => claimed
      intro result live marked same
      cases same
      by_cases resets : ∃ other ∈ process.threads, other.resetting = true
      · obtain ⟨other, member, resetting⟩ := resets
        have unmarked := inv.unmarked (.inr ⟨other, member, resetting⟩)
        rw [unmarked.2]
        exact ⟨nofun, fun set => by cases (calm set other member).symm.trans resetting⟩
      · have owned := inv.owned claimed fun other member => Bool.eq_false_iff.mpr fun resetting => resets ⟨other, member, resetting⟩
        exact ⟨owned.2, owned.1⟩
    | markInitialized =>
      rw [initAdvance] at taken
      split at taken
      · cases taken
        exact init_inv_passed inv held rfl rfl rfl rfl rfl rfl (fun _ => claimed) nofun
      · rename_i unset
        cases taken
        refine init_inv_moved inv held (fun _ => claimed) id nofun ?_ fun _ _ _ => ⟨fun _ => rfl, fun _ => rfl⟩
        intro early
        rcases early with apart | resets | ⟨other, member, resetting⟩
        · exact absurd claimed apart
        · cases resets
        · cases (calm (by simpa [InitThread.takesSet] using unset) other member).symm.trans resetting
  | finalizing =>
    cases taken
    refine init_inv_moved inv held nofun id nofun ?_ fun _ _ _ => ⟨nofun, nofun⟩
    intro early
    rcases early with apart | resets | others
    · exact ⟨(inv.unmarked (.inl apart)).1, rfl⟩
    · cases resets
    · exact ⟨(inv.unmarked (.inr others)).1, rfl⟩
  | answered _ _ _ | marked _ | finalized => cases taken

end

-- Where no set INITIALIZED is taken or made between a claim and its reset, and no child gets
-- the id it inherits in SHIM_PID, `is_initialized` answers for its own process.
theorem initialized_flag_owned (pid : UInt32) (actions : List (ForestAction InitRequest Bool)) (forest : List (Process InitMemory InitThread))
    (reached : exec (forestStep initProgram) [⟨pid, ⟨ForkFlags.new, false, false⟩, []⟩] actions = some forest)
    (ordered : along (forestStep initProgram) (fun forest action => permitted freshPid resetFirst forest action = true)
      [⟨pid, ⟨ForkFlags.new, false, false⟩, []⟩] actions) :
    ∀ process ∈ forest, ∀ result live marked, .answered result live marked ∈ process.threads →
      (live = true → result = true) ∧ (result = true → marked = true) := by
  intro process member
  obtain ⟨i, held⟩ := List.mem_iff_getElem?.mp member
  have inv := forest_invariant (fun _ => InitInv) ?_ ?_ ?_ actions forest ?_ ordered reached i process held
  · exact inv.answers
  · intro i j parent child inv fresh
    have apart : parent.memory.flags.shimPid ≠ child := fun same => bne_iff_ne.mp fresh same.symm
    exact ⟨nofun, fun _ => ⟨rfl, rfl⟩, fun same => absurd same apart, nofun⟩
  · intro i process request inv
    have started : (initProgram.start process.memory request).past process.pid = false ∧
      (initProgram.start process.memory request).resetting = false ∧
        ∀ result live marked, initProgram.start process.memory request ≠ .answered result live marked := by
      cases request <;> exact ⟨rfl, rfl, nofun⟩
    exact init_inv_called inv started.1 started.2.1 started.2.2
  · intro i process k thread spurious memory after inv held first taken
    exact init_inv_step inv held first taken
  · intro j root there
    cases List.mem_singleton.mp (List.mem_of_getElem? there)
    exact ⟨nofun, fun _ => ⟨rfl, rfl⟩, fun _ _ => ⟨nofun, nofun⟩, nofun⟩

def forkedRun : List (ForestAction InitRequest Bool) :=
  [.call 0 (.call .markInitialized)] ++ advances 0 0 5 false ++ [.call 0 (.call .isInitialized)] ++ advances 0 1 3 false ++
    [.fork 0 9, .call 1 (.call .isInitialized)] ++ advances 1 0 5 false

theorem initialized_flag_owned_forked : ∃ forest, exec (forestStep initProgram) [⟨7, ⟨ForkFlags.new, false, false⟩, []⟩] forkedRun = some forest ∧
    (∃ process ∈ forest, .answered true true true ∈ process.threads) ∧
    ∀ process ∈ forest, ∀ result live marked, .answered result live marked ∈ process.threads →
      (live = true → result = true) ∧ (result = true → marked = true) :=
  ⟨_, rfl, ⟨_, List.mem_cons_self, by decide⟩, initialized_flag_owned 7 forkedRun _ rfl (by decide)⟩

-- A thread that finds the pid claimed goes on while the claimant has not reset the flag yet:
-- in a child it answers with the parent's flag, and its own mark is reset behind it.
theorem claim_before_reset_races :
    (∃ forest process, exec (forestStep initProgram) [⟨7, ⟨ForkFlags.new, false, false⟩, []⟩]
        ([.call 0 (.call .markInitialized)] ++ advances 0 0 5 false ++ [.fork 0 9, .call 1 (.call .isInitialized)] ++ advances 1 0 2 false ++
          [.call 1 (.call .isInitialized)] ++ advances 1 1 3 false) = some forest ∧
      process ∈ forest ∧ .answered true false false ∈ process.threads) ∧
    ∃ forest process, exec (forestStep initProgram) [⟨7, ⟨ForkFlags.new, false, false⟩, []⟩]
        ([.call 0 (.call .isInitialized)] ++ advances 0 0 2 false ++ [.call 0 (.call .markInitialized)] ++ advances 0 1 3 false ++
          advances 0 0 1 false ++ [.call 0 (.call .isInitialized)] ++ advances 0 2 3 false) = some forest ∧
      process ∈ forest ∧ .answered false true true ∈ process.threads :=
  ⟨⟨_, _, rfl, List.mem_cons_of_mem _ List.mem_cons_self, by decide⟩, ⟨_, _, rfl, List.mem_cons_self, by decide⟩⟩

end Pkcs11Proxy.Shim
