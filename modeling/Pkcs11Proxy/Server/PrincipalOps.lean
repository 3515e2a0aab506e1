import Pkcs11Proxy.Lib.Dict
import Pkcs11Proxy.Lib.Exec

namespace Pkcs11Proxy.Server

open Lib

variable {Principal : Type} [DecidableEq Principal]

structure OpTable (Principal : Type) where
  inFlight : Dict Principal Int64
  guards : List Principal

-- A sweep holds one shard's lock at a time; `shard` tells that shard's keys.
inductive OpAction (Principal : Type) where
  | begin (principal : Principal)
  | drop (principal : Principal)
  | sweep (shard : Principal → Bool)

namespace OpTable

def new : OpTable Principal := ⟨∅, []⟩

def count (table : OpTable Principal) (principal : Principal) : Int64 := (table.inFlight.lookup principal).getD 0

def live (table : OpTable Principal) (principal : Principal) : Nat := table.guards.count principal

def store (table : OpTable Principal) (principal : Principal) (value : Int64) : OpTable Principal :=
  { table with inFlight := table.inFlight.insert principal value }

end OpTable

section

variable (maxInFlight : Nat) (table : OpTable Principal)

-- The counter is raised first and lowered again at the cap; it wraps like the atomic does.
def beginOpOn (principal : Principal) : OpTable Principal × Bool :=
  let prev := table.count principal
  let raised := prev + 1
  if Int64.ofNat maxInFlight ≤ prev then (table.store principal (raised - 1), false)
  else ({ table.store principal raised with guards := principal :: table.guards }, true)

def dropGuard (principal : Principal) : OpTable Principal :=
  let released := { table with guards := table.guards.erase principal }
  match table.inFlight.lookup principal with
  | none => released
  | some prev => released.store principal (if prev ≤ 0 then 0 else prev - 1)

def sweepShard (shard : Principal → Bool) : OpTable Principal :=
  { table with inFlight := dictRetain (fun key => !shard key || (table.inFlight.lookup key).any fun count => decide (0 < count)) table.inFlight }

def opStep : OpAction Principal → Option (OpTable Principal)
  | .begin principal => some (beginOpOn maxInFlight table principal).1
  | .drop principal => if principal ∈ table.guards then some (dropGuard table principal) else none
  | .sweep shard => some (sweepShard table shard)

end

def OpsCounted (maxInFlight : Nat) (table : OpTable Principal) : Prop :=
  ∀ principal, (table.count principal).toInt = table.live principal ∧ table.live principal ≤ maxInFlight

section

variable {maxInFlight : Nat} {table : OpTable Principal} (counted : OpsCounted maxInFlight table)
include counted

variable {principal : Principal}

theorem refused_at_cap (small : maxInFlight < 2 ^ 63) :
    Int64.ofNat maxInFlight ≤ table.count principal ↔ table.live principal = maxInFlight := by
  obtain ⟨count, capped⟩ := counted principal
  rw [Int64.le_iff_toInt_le, Int64.toInt_ofNat_of_lt small, count]
  omega

theorem counted_store {next : OpTable Principal} {value : Int64}
    (stored : next.inFlight = table.inFlight.insert principal value) (own : value.toInt = next.live principal)
    (capped : next.live principal ≤ maxInFlight)
    (others : ∀ other ≠ principal, next.live other = table.live other) : OpsCounted maxInFlight next := by
  intro other
  rw [OpTable.count, stored, dict_lookup_insert]
  by_cases same : other = principal
  · rw [if_pos same, same]
    exact ⟨own, capped⟩
  · rw [if_neg same, others other same]
    exact counted other

theorem begin_counted (small : maxInFlight < 2 ^ 63) : OpsCounted maxInFlight (beginOpOn maxInFlight table principal).1 := by
  obtain ⟨count, capped⟩ := counted principal
  have one : (1 : Int64).toInt = 1 := rfl
  rw [beginOpOn]
  split
  · refine counted_store counted rfl ?_ capped fun _ _ => rfl
    rw [Int64.add_sub_cancel]
    exact count
  · rename_i below
    rw [refused_at_cap counted small] at below
    have more : (principal :: table.guards).count principal = table.live principal + 1 := List.count_cons_self
    refine counted_store counted rfl ?_ ?_ fun other different => List.count_cons_of_ne (Ne.symm different)
    · change (table.count principal + 1).toInt = ((principal :: table.guards).count principal : Int)
      rw [Int64.toInt_add, one, more, Int.bmod_eq_of_le (by omega) (by omega), count]
      rfl
    · change (principal :: table.guards).count principal ≤ maxInFlight
      omega

theorem live_entry (held : 0 < table.live principal) :
    ∃ prev, table.inFlight.lookup principal = some prev ∧ 0 < prev ∧ prev.toInt = table.live principal := by
  obtain ⟨count, -⟩ := counted principal
  rw [OpTable.count] at count
  cases found : table.inFlight.lookup principal with
  | none =>
    rw [found, Option.getD_none] at count
    exact absurd count.symm (by simpa using Nat.ne_of_gt held)
  | some prev =>
    rw [found, Option.getD_some] at count
    refine ⟨prev, rfl, Int64.lt_iff_toInt_lt.mpr ?_, count⟩
    rw [count]
    exact Int.natCast_pos.mpr held

theorem drop_counted (small : maxInFlight < 2 ^ 63) (member : principal ∈ table.guards) :
    OpsCounted maxInFlight (dropGuard table principal) := by
  have held : 0 < table.live principal := List.count_pos_iff.mpr member
  have capped := (counted principal).2
  obtain ⟨prev, found, positive, count⟩ := live_entry counted held
  have one : (1 : Int64).toInt = 1 := rfl
  have fewer : (table.guards.erase principal).count principal = table.live principal - 1 := List.count_erase_self
  rw [dropGuard, found]
  dsimp only
  rw [if_neg (Int64.not_le.mpr positive)]
  refine counted_store counted rfl ?_ ?_ fun other different => List.count_erase_of_ne different
  · change (prev - 1).toInt = ((table.guards.erase principal).count principal : Int)
    rw [Int64.toInt_sub, one, fewer, Int.bmod_eq_of_le (by omega) (by omega)]
    omega
  · change (table.guards.erase principal).count principal ≤ maxInFlight
    omega

variable {shard : Principal → Bool}

theorem sweep_keeps_live (held : 0 < table.live principal) :
    ∃ prev, table.inFlight.lookup principal = some prev ∧ (sweepShard table shard).inFlight.lookup principal = some prev := by
  obtain ⟨prev, found, positive, -⟩ := live_entry counted held
  refine ⟨prev, found, ?_⟩
  rw [sweepShard, dict_lookup_retain, found, Option.any_some, decide_eq_true positive, Bool.or_true, if_pos rfl]

theorem sweep_counted : OpsCounted maxInFlight (sweepShard table shard) := by
  intro principal
  obtain ⟨count, capped⟩ := counted principal
  refine ⟨?_, capped⟩
  rcases Nat.eq_zero_or_pos (table.live principal) with idle | held
  · rw [idle] at count
    change _ = ((table.live principal : Nat) : Int)
    rw [OpTable.count, sweepShard, dict_lookup_retain, idle]
    split
    · exact count
    · rfl
  · obtain ⟨prev, found, kept⟩ := sweep_keeps_live counted held
    rw [OpTable.count, found] at count
    rw [OpTable.count, kept]
    exact count

end

theorem ops_counted_step {maxInFlight : Nat} (small : maxInFlight < 2 ^ 63) (table : OpTable Principal) (action : OpAction Principal)
    (next : OpTable Principal) (counted : OpsCounted maxInFlight table) (taken : opStep maxInFlight table action = some next) :
    OpsCounted maxInFlight next := by
  cases action with
  | begin principal =>
    cases taken
    exact begin_counted counted small
  | drop principal =>
    rw [opStep] at taken
    split at taken
    · rename_i member
      cases taken
      exact drop_counted counted small member
    · cases taken
  | sweep shard =>
    cases taken
    exact sweep_counted counted

theorem principal_ops_accounted (maxInFlight : Nat) (small : maxInFlight < 2 ^ 63) (actions : List (OpAction Principal)) (table : OpTable Principal)
    (ran : exec (opStep maxInFlight) OpTable.new actions = some table) (principal : Principal) :
    (table.count principal).toInt = table.live principal ∧ table.live principal ≤ maxInFlight ∧
      ((beginOpOn maxInFlight table principal).2 = false ↔ table.live principal = maxInFlight) ∧
      ∀ shard, 0 < table.live principal → ∃ prev, table.inFlight.lookup principal = some prev ∧
        (sweepShard table shard).inFlight.lookup principal = some prev := by
  have start : OpsCounted maxInFlight (OpTable.new : OpTable Principal) := fun _ => ⟨rfl, Nat.zero_le _⟩
  have counted := exec_invariant (opStep maxInFlight) (OpsCounted maxInFlight) (ops_counted_step small) start ran
  refine ⟨(counted principal).1, (counted principal).2, ?_, fun shard held => sweep_keeps_live counted held⟩
  rw [← refused_at_cap counted small, beginOpOn]
  split
  · rename_i refused
    exact iff_of_true rfl refused
  · rename_i admitted
    exact iff_of_false (by simp) admitted

theorem principal_ops_accounted_renewed :
    ∃ table : OpTable Nat, exec (opStep (2 ^ 63 - 1)) OpTable.new [.begin 0, .drop 0, .sweep fun _ => true, .begin 0] = some table ∧
      (table.count 0).toInt = table.live 0 :=
  ⟨_, rfl, (principal_ops_accounted (2 ^ 63 - 1) (by decide) [.begin 0, .drop 0, .sweep fun _ => true, .begin 0] _ rfl 0).1⟩

end Pkcs11Proxy.Server
