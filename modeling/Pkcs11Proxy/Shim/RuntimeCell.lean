import Pkcs11Proxy.Shim.ForkFlags

namespace Pkcs11Proxy.Shim

open Lib

structure Runtime where
  builtIn : Nat
deriving DecidableEq

structure RuntimeMemory where
  flags : ForkFlags
  runtimePtr : Option Runtime
  runtimePid : UInt32
deriving DecidableEq

def RuntimeMemory.new : RuntimeMemory := ⟨ForkFlags.new, none, 0⟩

inductive RuntimeThread where
  | reclaiming (point : ReclaimPoint)
  | loadPtr
  | loadPid (ptr : Runtime)
  | storePtr
  | storePid
  | returned (runtime : Runtime)
deriving DecidableEq

def runtimeAdvance (i : Nat) (pid : UInt32) (memory : RuntimeMemory) (spurious : Bool) : RuntimeThread → Option (RuntimeMemory × RuntimeThread)
  | .reclaiming point =>
    let done := reclaimAfterFork pid memory.flags spurious point
    some ({ memory with flags := done.1 }, done.2.elim .loadPtr .reclaiming)
  | .loadPtr => some (memory, memory.runtimePtr.elim .storePtr .loadPid)
  | .loadPid ptr => some (memory, if memory.runtimePid = pid then .returned ptr else .storePtr)
  | .storePtr => some ({ memory with runtimePtr := some ⟨i⟩ }, .storePid)
  | .storePid => some ({ memory with runtimePid := pid }, .returned ⟨i⟩)
  | .returned _ => none

def runtimeProgram : Program RuntimeMemory RuntimeThread Unit Bool where
  inherit := id
  start _ _ := .reclaiming .load
  advance i pid memory thread spurious := runtimeAdvance i pid memory spurious thread

def freshTag (parent : Process RuntimeMemory RuntimeThread) (pid : UInt32) : Bool := pid != parent.memory.runtimePid

def RuntimeThread.loadedOther (current : Option Runtime) : RuntimeThread → Bool
  | .loadPid ptr => some ptr != current
  | _ => false

def tagHeld (process : Process RuntimeMemory RuntimeThread) (k : Nat) : Bool :=
  process.threads[k]? != some .storePid || process.memory.runtimePid == process.pid ||
    process.threads.all fun thread => !thread.loadedOther process.memory.runtimePtr

structure RuntimeInv (i : Nat) (process : Process RuntimeMemory RuntimeThread) : Prop where
  own : (process.memory.runtimePid = process.pid ∨ .storePid ∈ process.threads) → ∀ runtime,
    process.memory.runtimePtr = some runtime → runtime.builtIn = i
  loads : ∀ runtime, .loadPid runtime ∈ process.threads → runtime.builtIn = i ∨ process.memory.runtimePid ≠ process.pid
  returns : ∀ runtime, .returned runtime ∈ process.threads → runtime.builtIn = i

section

variable {i k : Nat} {process : Process RuntimeMemory RuntimeThread} {thread after : RuntimeThread} {memory : RuntimeMemory}
  (inv : RuntimeInv i process)
include inv

theorem runtime_inv_moved (ptr : memory.runtimePtr = process.memory.runtimePtr) (tag : memory.runtimePid = process.memory.runtimePid)
    (stores : after ≠ .storePid) (loads : ∀ runtime, after = .loadPid runtime → runtime.builtIn = i ∨ process.memory.runtimePid ≠ process.pid)
    (returns : ∀ runtime, after = .returned runtime → runtime.builtIn = i) :
    RuntimeInv i { process with memory := memory, threads := process.threads.set k after } where
  own early runtime found := by
    rw [ptr] at found
    rcases early with same | storing
    · exact inv.own (.inl (tag.symm.trans same)) runtime found
    · rcases List.mem_or_eq_of_mem_set storing with old | same
      · exact inv.own (.inr old) runtime found
      · exact absurd same.symm stores
  loads runtime member := by
    rw [tag]
    rcases List.mem_or_eq_of_mem_set member with old | same
    · exact inv.loads runtime old
    · exact loads runtime same.symm
  returns runtime member := by
    rcases List.mem_or_eq_of_mem_set member with old | same
    · exact inv.returns runtime old
    · exact returns runtime same.symm

theorem runtime_inv_step {spurious : Bool} (held : process.threads[k]? = some thread) (steady : tagHeld process k = true)
    (taken : runtimeAdvance i process.pid process.memory spurious thread = some (memory, after)) :
    RuntimeInv i { process with memory := memory, threads := process.threads.set k after } := by
  have here := List.mem_of_getElem? held
  cases thread with
  | reclaiming point =>
    cases taken
    cases (reclaimAfterFork process.pid process.memory.flags spurious point).2 with
    | none | some => exact runtime_inv_moved inv rfl rfl nofun nofun nofun
  | loadPtr =>
    cases taken
    cases found : process.memory.runtimePtr with
    | none => exact runtime_inv_moved inv rfl rfl nofun nofun nofun
    | some ptr =>
      refine runtime_inv_moved inv rfl rfl nofun ?_ nofun
      intro runtime same
      cases same
      by_cases tagged : process.memory.runtimePid = process.pid
      · exact .inl (inv.own (.inl tagged) ptr found)
      · exact .inr tagged
  | loadPid ptr =>
    cases taken
    split
    · rename_i tagged
      refine runtime_inv_moved inv rfl rfl nofun nofun ?_
      intro runtime same
      cases same
      exact (inv.loads ptr here).resolve_right (not_not_intro tagged)
    · exact runtime_inv_moved inv rfl rfl nofun nofun nofun
  | storePtr =>
    cases taken
    constructor
    · intro _ runtime found
      cases found
      rfl
    · intro runtime member
      exact inv.loads runtime ((List.mem_or_eq_of_mem_set member).resolve_right nofun)
    · intro runtime member
      exact inv.returns runtime ((List.mem_or_eq_of_mem_set member).resolve_right nofun)
  | storePid =>
    cases taken
    constructor
    · intro _ runtime found
      exact inv.own (.inr here) runtime found
    · intro runtime member
      have loading := (List.mem_or_eq_of_mem_set member).resolve_right nofun
      left
      by_cases tagged : process.memory.runtimePid = process.pid
      · exact (inv.loads runtime loading).resolve_right (not_not_intro tagged)
      · rw [tagHeld, held, bne_self_eq_false, beq_false_of_ne tagged, Bool.false_or, Bool.false_or] at steady
        have current := List.all_eq_true.mp steady _ loading
        rw [Bool.not_eq_true', RuntimeThread.loadedOther, bne_eq_false_iff_eq] at current
        exact inv.own (.inr here) runtime current.symm
    · intro runtime member
      rcases List.mem_or_eq_of_mem_set member with old | same
      · exact inv.returns runtime old
      · cases same
        rfl
  | returned runtime => cases taken

end

-- Where no new tag is stored while a call holds a pointer that is no longer the stored
-- one, `runtime()` returns what its own process built.
theorem runtime_built_here (pid : UInt32) (actions : List (ForestAction Unit Bool)) (forest : List (Process RuntimeMemory RuntimeThread))
    (reached : exec (forestStep runtimeProgram) [⟨pid, RuntimeMemory.new, []⟩] actions = some forest)
    (steady : along (forestStep runtimeProgram) (fun forest action => permitted freshTag tagHeld forest action = true)
      [⟨pid, RuntimeMemory.new, []⟩] actions) :
    ∀ (i : Nat) process runtime, forest[i]? = some process → .returned runtime ∈ process.threads → runtime.builtIn = i := by
  intro i process runtime held returned
  have inv := forest_invariant RuntimeInv ?_ ?_ ?_ actions forest ?_ steady reached i process held
  · exact inv.returns runtime returned
  · intro i j parent child inv fresh
    have apart : parent.memory.runtimePid ≠ child := fun same => bne_iff_ne.mp fresh same.symm
    exact ⟨fun early => absurd (early.resolve_right nofun) apart, nofun, nofun⟩
  · intro i process _ inv
    have old : ∀ {thread : RuntimeThread}, thread ∈ process.threads ++ [.reclaiming .load] → thread ≠ .reclaiming .load →
      thread ∈ process.threads :=
      fun member apart => (List.mem_append.mp member).resolve_right fun new => apart (List.mem_singleton.mp new)
    exact ⟨fun early => inv.own (early.imp_right fun storing => old storing nofun), fun runtime member => inv.loads runtime (old member nofun),
      fun runtime member => inv.returns runtime (old member nofun)⟩
  · intro i process k thread spurious memory after inv held steady taken
    exact runtime_inv_step inv held steady taken
  · intro j root there
    cases List.mem_singleton.mp (List.mem_of_getElem? there)
    exact ⟨nofun, nofun, nofun⟩

def rebuiltRun : List (ForestAction Unit Bool) :=
  [.call 0 ()] ++ advances 0 0 7 false ++ [.fork 0 9, .call 1 ()] ++ advances 1 0 8 false

theorem runtime_built_here_forked : ∃ forest process, exec (forestStep runtimeProgram) [⟨7, RuntimeMemory.new, []⟩] rebuiltRun = some forest ∧
    forest[1]? = some process ∧ .returned ⟨1⟩ ∈ process.threads ∧ ∀ runtime, .returned runtime ∈ process.threads → runtime.builtIn = 1 :=
  ⟨_, _, rfl, rfl, by decide, fun runtime => runtime_built_here 7 rebuiltRun _ rfl (by decide) 1 _ runtime rfl⟩

-- A thread of the child loads the inherited pointer, another one stores a new pointer and
-- the tag, and the first takes that tag for the tag of its pointer.
def staleRun : List (ForestAction Unit Bool) :=
  [.call 0 ()] ++ advances 0 0 7 false ++ [.fork 0 9, .call 1 ()] ++ advances 1 0 5 false ++ [.call 1 ()] ++
    advances 1 1 6 false ++ advances 1 0 1 false

theorem stale_pointer_new_tag : ∃ forest process, exec (forestStep runtimeProgram) [⟨7, RuntimeMemory.new, []⟩] staleRun = some forest ∧
    along (forestStep runtimeProgram) (fun forest action => permitted freshTag (fun _ _ => true) forest action = true)
      [⟨7, RuntimeMemory.new, []⟩] staleRun ∧
    forest[1]? = some process ∧ .returned ⟨0⟩ ∈ process.threads :=
  ⟨_, _, rfl, by decide, rfl, by decide⟩

end Pkcs11Proxy.Shim
