import Pkcs11Proxy.Lib.Exec

namespace Pkcs11Proxy.Shim

open Lib

inductive CapabilityWord where
  | absent
  | qualified
  | dirty
deriving DecidableEq

inductive ProbePath where
  | ensureProbed
  | reprobe
  | requalify
deriving DecidableEq

-- The points of `ensure_probed`, of `reprobe` and of the gate of the message calls. The
-- counts are ghost state: the invalidations before the RPC started, the steps before the
-- gate returned.
inductive ProbePoint where
  | ensuring
  | checking
  | reprobing
  | clearing
  | loading
  | reloading
  | connecting
  | sampling (path : ProbePath)
  | starting (path : ProbePath) (epoch : UInt64)
  | awaiting (path : ProbePath) (epoch : UInt64) (started : Nat)
  | storing (path : ProbePath) (epoch : UInt64) (started : Nat) (advertised : Bool)
  | installing (path : ProbePath) (epoch : UInt64) (started : Nat) (advertised : Bool)
  | finished
  | answered (qualified : Bool) (returned : Nat)
deriving DecidableEq

-- `cached` is what INTERFACE_STATE keeps of an advertisement, with the start of its RPC.
-- Ghost state: the invalidations so far, the advertisement of the last install and the word
-- after each step.
structure CapabilityState where
  word : CapabilityWord
  epoch : UInt64
  cached : Option (Bool × Nat)
  installLock : Option Nat
  calls : List ProbePoint
  invalidations : Nat
  installed : Option (Bool × Nat)
  words : List CapabilityWord
deriving DecidableEq

inductive CapabilityAction where
  | invalidate
  | call (path : ProbePath)
  | advance (k : Nat) (connects : Bool) (reply : Option Bool)
deriving DecidableEq

def CapabilityState.new : CapabilityState := ⟨.absent, 0, none, none, [], 0, none, []⟩

section

variable (state : CapabilityState)

def clearPointerSafeMessageParameters : CapabilityState :=
  { state with epoch := state.epoch + 1, word := .dirty, invalidations := state.invalidations + 1 }

def installPointerSafeMessageParameters (advertised : Bool) (preRpcEpoch : UInt64) (started : Nat) : CapabilityState × Bool :=
  if state.epoch ≠ preRpcEpoch then (state, false)
  else ({ state with word := if advertised then .qualified else .absent, installed := some (advertised, started) }, true)

def ProbePath.entry : ProbePath → ProbePoint
  | .ensureProbed => .ensuring
  | .reprobe => .reprobing
  | .requalify => .loading

-- Only the probes hold PROBE_INSTALL_LOCK; the gate returns whether the call may proceed.
def ProbePath.leave (qualified : Bool) : ProbePath → CapabilityState × ProbePoint
  | .ensureProbed | .reprobe => ({ state with installLock := none }, .finished)
  | .requalify => (state, .answered qualified state.words.length)

def probe (k : Nat) (connects : Bool) (reply : Option Bool) : ProbePoint → Option (CapabilityState × ProbePoint)
  | .ensuring => if state.installLock.isSome then none else some ({ state with installLock := some k }, .checking)
  | .checking => some (if state.cached.isSome then ProbePath.ensureProbed.leave state false else (state, .sampling .ensureProbed))
  | .reprobing => if state.installLock.isSome then none else some ({ state with installLock := some k }, .clearing)
  | .clearing => some (clearPointerSafeMessageParameters state, .sampling .reprobe)
  | .loading => some (if state.word = .qualified then ProbePath.requalify.leave state true else (state, .reloading))
  | .reloading => some (if state.word ≠ .dirty then ProbePath.requalify.leave state false else (state, .connecting))
  | .connecting => some (if connects then (state, .sampling .requalify) else ProbePath.requalify.leave state false)
  | .sampling path => some (state, .starting path state.epoch)
  -- `probe_backend` connects after the sample, the gate has before it
  | .starting path epoch => some (if connects ∨ path = .requalify then (state, .awaiting path epoch state.invalidations)
      else path.leave state false)
  | .awaiting path epoch started =>
    match reply with
    | none => some (path.leave state false)
    | some advertised => some (state,
        if path = .requalify then .installing path epoch started advertised else .storing path epoch started advertised)
  -- what is installed is the cached state's advertisement
  | .storing path epoch started advertised =>
    let kept := if path = .ensureProbed then state.cached.getD (advertised, started) else (advertised, started)
    some ({ state with cached := some kept }, .installing path epoch kept.2 kept.1)
  | .installing path epoch started advertised =>
    let done := installPointerSafeMessageParameters state advertised epoch started
    some (path.leave done.1 (done.2 && advertised))
  | .finished | .answered _ _ => none

def capabilityStep : CapabilityAction → Option CapabilityState
  | .invalidate => some { clearPointerSafeMessageParameters state with words := state.words ++ [.dirty] }
  | .call path => some { state with calls := state.calls ++ [path.entry], words := state.words ++ [state.word] }
  | .advance k connects reply =>
    state.calls[k]?.bind fun point => (probe state k connects reply point).map fun done =>
      { done.1 with calls := state.calls.set k done.2, words := state.words ++ [done.1.word] }

def Probing (k : Nat) : ProbePath → Prop
  | .ensureProbed => state.installLock = some k ∧ state.cached = none
  | .reprobe => state.installLock = some k
  | .requalify => True

def Sampled (epoch : UInt64) (started : Nat) : Prop := epoch.toNat ≤ started ∧ started ≤ state.invalidations

def ProbePoint.Knows (k : Nat) : ProbePoint → Prop
  | .checking | .clearing => state.installLock = some k
  | .sampling path => Probing state k path
  | .starting path epoch => Probing state k path ∧ epoch.toNat ≤ state.invalidations
  | .awaiting path epoch started => Probing state k path ∧ Sampled state epoch started
  | .storing path epoch started _ => (Probing state k path ∧ Sampled state epoch started) ∧ path ≠ .requalify
  | .installing path epoch started _ => (path ≠ .requalify → state.installLock = some k) ∧ Sampled state epoch started
  | .answered qualified returned => qualified = true → state.words[returned]? = some .qualified
  | _ => True

end

structure CapabilityInv (state : CapabilityState) : Prop where
  epoch : state.epoch.toNat = state.invalidations
  fresh : state.word = .qualified → state.installed = some (true, state.invalidations)
  calls : ∀ (k : Nat) (point : ProbePoint), state.calls[k]? = some point → point.Knows state k

section

variable {state next : CapabilityState} {k : Nat} {point after : ProbePoint} {path : ProbePath} {epoch : UInt64} {started : Nat}
  {action : CapabilityAction} {connects qualified : Bool} {reply : Option Bool}

theorem probing_locked (probing : Probing state k path) (holds : path ≠ .requalify) : state.installLock = some k := by
  cases path with
  | ensureProbed => exact probing.1
  | reprobe => exact probing
  | requalify => exact absurd rfl holds

variable {word : CapabilityWord}

-- What a call knows outlives the steps of the others: they leave the install lock it holds,
-- and with it the cached state, alone.
theorem capability_knows_kept (knows : point.Knows state k) (words : next.words = state.words ++ [word])
    (later : state.invalidations ≤ next.invalidations)
    (kept : state.installLock = some k → next.installLock = some k ∧ next.cached = state.cached) : point.Knows next k := by
  have probing : ∀ path, Probing state k path → Probing next k path := by
    intro path before
    cases path with
    | ensureProbed => exact ⟨(kept before.1).1, (kept before.1).2.trans before.2⟩
    | reprobe => exact (kept before).1
    | requalify => trivial
  cases point with
  | checking | clearing => exact (kept knows).1
  | sampling path => exact probing path knows
  | starting path epoch => exact ⟨probing path knows.1, knows.2.trans later⟩
  | awaiting path epoch started => exact ⟨probing path knows.1, knows.2.1, knows.2.2.trans later⟩
  | storing path epoch started => exact ⟨⟨probing path knows.1.1, knows.1.2.1, knows.1.2.2.trans later⟩, knows.2⟩
  | installing path epoch started => exact ⟨fun holds => (kept (knows.1 holds)).1, knows.2.1, knows.2.2.trans later⟩
  | answered qualified returned =>
    intro granted
    rw [words, List.getElem?_append_left (List.getElem?_eq_some_iff.mp (knows granted)).1]
    exact knows granted
  | _ => trivial

section

variable (inv : CapabilityInv state)

include inv

theorem cleared_epoch (few : state.invalidations + 1 < 2 ^ 64) :
    (clearPointerSafeMessageParameters state).epoch.toNat = state.invalidations + 1 := by
  rw [clearPointerSafeMessageParameters, UInt64.toNat_add, inv.epoch]
  exact Nat.mod_eq_of_lt few

-- An epoch that did not move since the sample rules out an invalidation since the RPC.
theorem sampled_current (sampled : Sampled state epoch started) (same : state.epoch = epoch) :
    started = state.invalidations := by
  have bound := inv.epoch
  rw [same] at bound
  exact Nat.le_antisymm sampled.2 (bound ▸ sampled.1)

theorem capability_inv_moved (later : state.invalidations ≤ next.invalidations)
    (epoch : next.epoch.toNat = next.invalidations) (fresh : next.word = .qualified → next.installed = some (true, next.invalidations))
    (kept : ∀ j, j ≠ k → state.installLock = some j → next.installLock = some j ∧ next.cached = state.cached)
    (knows : after.Knows { next with words := state.words ++ [next.word] } k) :
    CapabilityInv { next with calls := state.calls.set k after, words := state.words ++ [next.word] } where
  epoch := epoch
  fresh := fresh
  calls := by
    intro j other at_
    rcases slot_set_cases at_ with ⟨rfl, rfl⟩ | ⟨apart, old⟩
    · exact knows
    · exact capability_knows_kept (inv.calls j other old) rfl later (kept j apart)

theorem capability_inv_passed (knows : after.Knows { state with words := state.words ++ [state.word] } k) :
    CapabilityInv { state with calls := state.calls.set k after, words := state.words ++ [state.word] } :=
  capability_inv_moved inv le_rfl inv.epoch inv.fresh (fun _ _ other => ⟨other, rfl⟩) knows

theorem capability_inv_left {installed : Option (Bool × Nat)}
    (fresh : word = .qualified → installed = some (true, state.invalidations)) (granted : qualified = true → word = .qualified)
    (locked : path ≠ .requalify → state.installLock = some k)
    (left : path.leave { state with word := word, installed := installed } qualified = (next, after)) :
    CapabilityInv { next with calls := state.calls.set k after, words := state.words ++ [next.word] } := by
  have free : path ≠ .requalify → ∀ j, j ≠ k → state.installLock = some j → none = some j ∧ state.cached = state.cached :=
    fun probes j apart other => absurd (Option.some.inj (other.symm.trans (locked probes))) apart
  cases path with
  | ensureProbed | reprobe =>
    cases left
    exact capability_inv_moved inv le_rfl inv.epoch fresh (free nofun) trivial
  | requalify =>
    cases left
    refine capability_inv_moved inv le_rfl inv.epoch fresh (fun _ _ other => ⟨other, rfl⟩) fun yes => ?_
    rw [← granted yes]
    exact List.getElem?_concat_length

theorem capability_inv_refused (locked : path ≠ .requalify → state.installLock = some k) (left : path.leave state false = (next, after)) :
    CapabilityInv { next with calls := state.calls.set k after, words := state.words ++ [next.word] } :=
  capability_inv_left inv inv.fresh (fun granted => by cases granted) locked left

theorem capability_inv_advance (knows : point.Knows state k)
    (taken : probe state k connects reply point = some (next, after)) (few : next.invalidations < 2 ^ 64) :
    CapabilityInv { next with calls := state.calls.set k after, words := state.words ++ [next.word] } := by
  have gate : ProbePath.requalify ≠ .requalify → state.installLock = some k := fun other => absurd rfl other
  cases point with
  | ensuring | reprobing =>
    rw [probe] at taken
    split at taken
    · cases taken
    · rename_i free
      cases taken
      exact capability_inv_moved inv le_rfl inv.epoch inv.fresh (fun j _ other => absurd (other ▸ rfl) free) rfl
  | checking =>
    rw [probe] at taken
    split at taken
    · exact capability_inv_refused inv (fun _ => knows) (Option.some.inj taken)
    · rename_i empty
      cases taken
      exact capability_inv_passed inv ⟨knows, Option.not_isSome_iff_eq_none.mp empty⟩
  | clearing =>
    cases taken
    exact capability_inv_moved inv (Nat.le_succ _) (cleared_epoch inv few) nofun (fun _ _ other => ⟨other, rfl⟩) knows
  | loading =>
    rw [probe] at taken
    split at taken
    · rename_i qualified
      exact capability_inv_left inv inv.fresh (fun _ => qualified) gate (Option.some.inj taken)
    · cases taken
      exact capability_inv_passed inv trivial
  | reloading =>
    rw [probe] at taken
    split at taken
    · exact capability_inv_refused inv gate (Option.some.inj taken)
    · cases taken
      exact capability_inv_passed inv trivial
  | connecting =>
    cases connects with
    | true =>
      cases taken
      exact capability_inv_passed inv trivial
    | false => exact capability_inv_refused inv gate (Option.some.inj taken)
  | sampling path =>
    cases taken
    exact capability_inv_passed inv ⟨knows, inv.epoch.le⟩
  | starting path epoch =>
    rw [probe] at taken
    split at taken
    · cases taken
      exact capability_inv_passed inv ⟨knows.1, knows.2, le_rfl⟩
    · exact capability_inv_refused inv (probing_locked knows.1) (Option.some.inj taken)
  | awaiting path epoch started =>
    cases reply with
    | none => exact capability_inv_refused inv (probing_locked knows.1) (Option.some.inj taken)
    | some advertised =>
      cases taken
      apply capability_inv_passed inv
      split
      · exact ⟨probing_locked knows.1, knows.2⟩
      · rename_i probes
        exact ⟨knows, probes⟩
  | storing path epoch started advertised =>
    obtain ⟨⟨probing, sampled⟩, probes⟩ := knows
    have locked := probing_locked probing probes
    have own : (if path = .ensureProbed then state.cached.getD (advertised, started) else (advertised, started)) = (advertised, started) := by
      split
      · rename_i ensures
        rw [ensures] at probing
        rw [probing.2]
        rfl
      · rfl
    rw [probe, own] at taken
    cases taken
    exact capability_inv_moved inv le_rfl inv.epoch inv.fresh
      (fun j apart other => absurd (Option.some.inj (other.symm.trans locked)) apart) ⟨fun _ => locked, sampled⟩
  | installing path epoch started advertised =>
    rw [probe, installPointerSafeMessageParameters] at taken
    split at taken
    · exact capability_inv_refused inv knows.1 (Option.some.inj taken)
    · rename_i same
      have current := sampled_current inv knows.2 (not_not.mp same)
      refine capability_inv_left inv ?_ ?_ knows.1 (Option.some.inj taken)
      · rw [current]
        cases advertised with
        | true => exact fun _ => rfl
        | false => nofun
      · exact fun granted => if_pos granted
  | finished | answered _ _ => cases taken

end

@[simp, grind =] theorem leave_word (path : ProbePath) (qualified : Bool) : (path.leave state qualified).1.word = state.word := by
  cases path <;> rfl

@[simp, grind =] theorem leave_invalidations (path : ProbePath) (qualified : Bool) :
    (path.leave state qualified).1.invalidations = state.invalidations := by
  cases path <;> rfl

-- Apart from an invalidation, only the install of a reply whose sample is current changes
-- the word.
theorem probe_kept (taken : probe state k connects reply point = some (next, after)) :
    state.invalidations ≤ next.invalidations ∧
      (next.word = state.word ∨ next.word = .dirty ∨ ∃ path started advertised, point = .installing path state.epoch started advertised) := by
  cases point <;> cases reply <;> grind [probe, clearPointerSafeMessageParameters, installPointerSafeMessageParameters]

theorem capability_inv_step (inv : CapabilityInv state) (taken : capabilityStep state action = some next) (few : next.invalidations < 2 ^ 64) :
    CapabilityInv next := by
  cases action with
  | invalidate =>
    cases taken
    exact ⟨cleared_epoch inv few, nofun, fun k point held =>
      capability_knows_kept (inv.calls k point held) rfl (Nat.le_succ _) fun locked => ⟨locked, rfl⟩⟩
  | call path =>
    cases taken
    refine ⟨inv.epoch, inv.fresh, fun k point held => ?_⟩
    rcases slot_added_cases held with ⟨-, rfl⟩ | old
    · cases path <;> trivial
    · exact capability_knows_kept (inv.calls k point old) rfl le_rfl fun locked => ⟨locked, rfl⟩
  | advance k connects reply =>
    obtain ⟨point, held, moved⟩ := Option.bind_eq_some_iff.mp taken
    obtain ⟨⟨mid, after⟩, stepped, rfl⟩ := Option.map_eq_some_iff.mp moved
    exact capability_inv_advance inv (inv.calls k point held) stepped few

theorem capability_step_kept (taken : capabilityStep state action = some next) :
    state.invalidations ≤ next.invalidations ∧ (next.word = state.word ∨ next.word = .dirty ∨ ∃ k connects reply path started advertised,
      action = .advance k connects reply ∧ state.calls[k]? = some (.installing path state.epoch started advertised)) := by
  cases action with
  | invalidate =>
    cases taken
    exact ⟨Nat.le_succ _, .inr (.inl rfl)⟩
  | call path =>
    cases taken
    exact ⟨le_rfl, .inl rfl⟩
  | advance k connects reply =>
    obtain ⟨point, held, moved⟩ := Option.bind_eq_some_iff.mp taken
    obtain ⟨⟨mid, after⟩, stepped, rfl⟩ := Option.map_eq_some_iff.mp moved
    obtain ⟨count, same | dirty | ⟨path, started, advertised, rfl⟩⟩ := probe_kept stepped
    · exact ⟨count, .inl same⟩
    · exact ⟨count, .inr (.inl dirty)⟩
    · exact ⟨count, .inr (.inr ⟨k, connects, reply, path, started, advertised, rfl, held⟩)⟩

end

-- In a run with fewer than 2^64 invalidations what is qualified was advertised after the
-- last one, the gate grants only what is qualified as it returns, and a reply that an
-- invalidation superseded sets the word no more.
theorem capability_never_stale (actions : List CapabilityAction) (state : CapabilityState) (reached : exec capabilityStep .new actions = some state)
    (few : state.invalidations < 2 ^ 64) :
    (state.word = .qualified → state.installed = some (true, state.invalidations)) ∧
    (∀ returned, .answered true returned ∈ state.calls → state.words[returned]? = some .qualified) ∧
    ∀ action next, capabilityStep state action = some next → next.word ≠ state.word → next.word ≠ .dirty →
      ∃ k connects reply path advertised, action = .advance k connects reply ∧
        state.calls[k]? = some (.installing path state.epoch state.invalidations advertised) := by
  have start : CapabilityInv .new := ⟨rfl, nofun, nofun⟩
  have inv := exec_invariant capabilityStep (fun state => state.invalidations < 2 ^ 64 → CapabilityInv state)
    (fun _ _ _ before taken few => capability_inv_step (before ((capability_step_kept taken).1.trans_lt few)) taken few)
      (fun _ => start) reached few
  refine ⟨inv.fresh, ?_, ?_⟩
  · intro returned answered
    obtain ⟨k, held⟩ := List.mem_iff_getElem?.mp answered
    exact inv.calls k _ held rfl
  · intro action next taken changed clean
    obtain ⟨-, same | dirty | ⟨k, connects, reply, path, started, advertised, acts, held⟩⟩ := capability_step_kept taken
    · exact absurd same changed
    · exact absurd dirty clean
    · have current := sampled_current inv (inv.calls k _ held).2 rfl
      exact ⟨k, connects, reply, path, advertised, acts, current ▸ held⟩

def probeSteps (k n : Nat) : List CapabilityAction := List.replicate n (.advance k true (some true))

theorem capability_never_stale_requalified : ∃ state, exec capabilityStep .new
      ([.call .ensureProbed] ++ probeSteps 0 7 ++ [.invalidate, .call .requalify] ++ probeSteps 1 7) = some state ∧
    .answered true 16 ∈ state.calls ∧ state.word = .qualified ∧ state.installed = some (true, state.invalidations) :=
  ⟨_, rfl, by decide, rfl, (capability_never_stale
    ([.call .ensureProbed] ++ probeSteps 0 7 ++ [.invalidate, .call .requalify] ++ probeSteps 1 7) _ rfl (by decide)).1 rfl⟩

theorem exec_invalidate (n : Nat) (state : CapabilityState) : ∃ next, exec capabilityStep state (List.replicate n .invalidate) = some next ∧
    next.calls = state.calls ∧ next.epoch = state.epoch + UInt64.ofNat n ∧ next.invalidations = state.invalidations + n := by
  induction n generalizing state with
  | zero => exact ⟨state, rfl, rfl, (UInt64.add_zero _).symm, rfl⟩
  | succ n ih =>
    obtain ⟨next, ran, calls, epoch, count⟩ := ih { clearPointerSafeMessageParameters state with words := state.words ++ [.dirty] }
    refine ⟨next, ran, calls, ?_, ?_⟩
    · rw [epoch, UInt64.ofNat_add, UInt64.add_comm (UInt64.ofNat n), ← UInt64.add_assoc]
      rfl
    · rw [count]
      exact Nat.succ_add_eq_add_succ _ _

-- The epoch wraps: a reply from before 2^64 invalidations is installed over the last one.
theorem stale_reply_installed : ∃ state, exec capabilityStep .new
      (([.call .ensureProbed] ++ probeSteps 0 6) ++ (List.replicate (2 ^ 64) .invalidate ++ probeSteps 0 1)) = some state ∧
    state.word = .qualified ∧ state.installed = some (true, 0) ∧ state.invalidations = 2 ^ 64 := by
  have before : ∃ state, exec capabilityStep .new ([.call .ensureProbed] ++ probeSteps 0 6) = some state ∧
      state.calls = [.installing .ensureProbed 0 0 true] ∧ state.epoch = 0 ∧ state.invalidations = 0 := ⟨_, rfl, rfl, rfl, rfl⟩
  obtain ⟨first, ran, calls, epoch, count⟩ := before
  obtain ⟨last, invalidated, same, wrapped, counted⟩ := exec_invalidate (2 ^ 64) first
  have lapped : last.epoch = 0 := by
    rw [wrapped, epoch]
    decide
  rw [exec_append, ran, Option.bind_some, exec_append, invalidated, Option.bind_some]
  rw [calls] at same
  rw [count, Nat.zero_add] at counted
  cases last
  cases same
  cases lapped
  exact ⟨_, rfl, rfl, rfl, counted⟩

end Pkcs11Proxy.Shim
