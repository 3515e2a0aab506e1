import Pkcs11Proxy.Lib.Exec

namespace Pkcs11Proxy.Lib

-- Processes share nothing but what a child inherits when it is forked. A process is named
-- by its place in the list, since process ids are used again.
structure Process (μ τ : Type) where
  pid : UInt32
  memory : μ
  threads : List τ
deriving DecidableEq

inductive ForestAction (κ ε : Type) where
  | fork (i : Nat) (pid : UInt32)
  | call (i : Nat) (call : κ)
  | advance (i k : Nat) (event : ε)

structure Program (μ τ κ ε : Type) where
  inherit : μ → μ
  start : μ → κ → τ
  advance : Nat → UInt32 → μ → τ → ε → Option (μ × τ)

variable {μ τ κ ε : Type}

-- Only the forking thread goes on in the child, outside of any call.
def forestStep (program : Program μ τ κ ε) (forest : List (Process μ τ)) : ForestAction κ ε → Option (List (Process μ τ))
  | .fork i pid => forest[i]?.map fun parent => forest ++ [⟨pid, program.inherit parent.memory, []⟩]
  | .call i call =>
    forest[i]?.map fun process => forest.set i { process with threads := process.threads ++ [program.start process.memory call] }
  | .advance i k event =>
    forest[i]?.bind fun process => process.threads[k]?.bind fun thread =>
      (program.advance i process.pid process.memory thread event).map fun done =>
        forest.set i { process with memory := done.1, threads := process.threads.set k done.2 }

def permitted (mayFork : Process μ τ → UInt32 → Bool) (mayAdvance : Process μ τ → Nat → Bool) (forest : List (Process μ τ)) :
    ForestAction κ ε → Bool
  | .fork i pid => forest[i]?.all (mayFork · pid)
  | .call _ _ => true
  | .advance i k _ => forest[i]?.all (mayAdvance · k)

def advances (i k n : Nat) (event : ε) : List (ForestAction κ ε) := List.replicate n (.advance i k event)

section

variable {program : Program μ τ κ ε} {mayFork : Process μ τ → UInt32 → Bool} {mayAdvance : Process μ τ → Nat → Bool}

theorem forest_invariant (inv : Nat → Process μ τ → Prop)
    (forks : ∀ i j parent pid, inv i parent → mayFork parent pid = true → inv j ⟨pid, program.inherit parent.memory, []⟩)
    (calls : ∀ i process call, inv i process → inv i { process with threads := process.threads ++ [program.start process.memory call] })
    (advances : ∀ i process k thread event memory after, inv i process → process.threads[k]? = some thread → mayAdvance process k = true →
      program.advance i process.pid process.memory thread event = some (memory, after) →
      inv i { process with memory := memory, threads := process.threads.set k after })
    (actions : List (ForestAction κ ε)) {start : List (Process μ τ)} (final : List (Process μ τ))
    (begins : ∀ i process, start[i]? = some process → inv i process)
    (meets : along (forestStep program) (fun forest action => permitted mayFork mayAdvance forest action = true) start actions)
    (ran : exec (forestStep program) start actions = some final) (i : Nat) (process : Process μ τ) (held : final[i]? = some process) :
    inv i process := by
  have kept := exec_invariant_along (forestStep program) _ (fun forest => ∀ i process, forest[i]? = some process →
    inv i process) ?_ begins meets ran
  · exact kept i process held
  · intro forest action next holds allowed taken j other there
    cases action with
    | fork i pid =>
      obtain ⟨parent, found, rfl⟩ := Option.map_eq_some_iff.mp taken
      rw [permitted, found, Option.all_some] at allowed
      rcases slot_added_cases there with ⟨-, rfl⟩ | old
      · exact forks i j parent pid (holds i parent found) allowed
      · exact holds j other old
    | call i call =>
      obtain ⟨process, found, rfl⟩ := Option.map_eq_some_iff.mp taken
      rcases slot_set_cases there with ⟨rfl, rfl⟩ | ⟨-, old⟩
      · exact calls j process call (holds j process found)
      · exact holds j other old
    | advance i k event =>
      obtain ⟨process, found, taken⟩ := Option.bind_eq_some_iff.mp taken
      obtain ⟨thread, running, taken⟩ := Option.bind_eq_some_iff.mp taken
      obtain ⟨⟨memory, after⟩, moved, rfl⟩ := Option.map_eq_some_iff.mp taken
      rw [permitted, found, Option.all_some] at allowed
      rcases slot_set_cases there with ⟨rfl, rfl⟩ | ⟨-, old⟩
      · exact advances j process k thread event memory after (holds j process found) running allowed moved
      · exact holds j other old

end

end Pkcs11Proxy.Lib
