import Pkcs11Proxy.Shim.ForkFlags

namespace Pkcs11Proxy.Shim

open Lib

-- The points of `ensure_client_connected`; from `recheckClient` on it holds CLIENT_INIT. A
-- dial carries the number of requests that were made before it began.
inductive EnsurePoint where
  | reclaiming (point : ReclaimPoint)
  | checkClient
  | checkFlag
  | locking
  | recheckClient
  | recheckFlag
  | connect
  | dialing (began : Nat)
  | swapping (began : Nat)
  | clearing
  | returning (locked : Bool)
  | failing
  | returned (client : Option Nat)
  | failed
deriving DecidableEq

-- `since` is ghost state: the requests made before the call started.
structure EnsureCall where
  since : Nat
  point : EnsurePoint
deriving DecidableEq

-- `marks` counts the calls of `mark_client_reconnect_required`, `client` is the dial that
-- created the shared client, and `clientInit` the call that holds the lock.
structure ReconnectState where
  flags : ForkFlags
  client : Option Nat
  clientInit : Option Nat
  marks : Nat
  calls : List EnsureCall
deriving DecidableEq

inductive ReconnectAction where
  | mark
  | ensure
  | advance (k : Nat) (spurious connects : Bool)
deriving DecidableEq

def ensureClientConnected (pid : UInt32) (k : Nat) (state : ReconnectState) (spurious connects : Bool) : EnsurePoint →
    Option (ReconnectState × EnsurePoint)
  | .reclaiming point =>
    let done := reclaimAfterFork pid state.flags spurious point
    some ({ state with flags := done.1 }, done.2.elim .checkClient .reclaiming)
  | .checkClient => some (state, if state.client.isSome then .checkFlag else .locking)
  | .checkFlag => some (state, if state.flags.clientReconnectRequired then .locking else .returning false)
  | .locking => if state.clientInit.isSome then none else some ({ state with clientInit := some k }, .recheckClient)
  | .recheckClient => some (state, if state.client.isSome then .recheckFlag else .connect)
  | .recheckFlag => some (state, if state.flags.clientReconnectRequired then .connect else .returning true)
  | .connect => some (state, .dialing state.marks)
  | .dialing began => some (state, if connects then .swapping began else .failing)
  -- CLIENT is set, or its content replaced under its own lock
  | .swapping began => some ({ state with client := some began }, .clearing)
  | .clearing => some ({ state with flags := { state.flags with clientReconnectRequired := false } }, .returning true)
  | .returning locked => some ({ state with clientInit := if locked then none else state.clientInit }, .returned state.client)
  | .failing => some ({ state with clientInit := none }, .failed)
  | .returned _ | .failed => none

def reconnectStep (pid : UInt32) (state : ReconnectState) : ReconnectAction → Option ReconnectState
  | .mark => some { state with flags := { state.flags with clientReconnectRequired := true }, marks := state.marks + 1 }
  | .ensure => some { state with calls := state.calls ++ [⟨state.marks, .reclaiming .load⟩] }
  | .advance k spurious connects =>
    state.calls[k]?.bind fun call => (ensureClientConnected pid k state spurious connects call.point).map fun done =>
      { done.1 with calls := state.calls.set k { call with point := done.2 } }

def ReconnectState.started (flags : ForkFlags) (connected : Bool) : ReconnectState := ⟨flags, if connected then some 0 else none, none, 0, []⟩

-- The flag is cleared only for a client whose dial began after every request.
def clearsServed (state : ReconnectState) : ReconnectAction → Bool
  | .advance k _ _ => state.calls[k]?.all fun call => decide (call.point = .clearing → state.client = some state.marks)
  | .mark | .ensure => true

def EnsurePoint.dial : EnsurePoint → Option Nat
  | .dialing began | .swapping began => some began
  | _ => none

def EnsurePoint.holdsInit : EnsurePoint → Bool
  | .recheckClient | .recheckFlag | .connect | .dialing _ | .swapping _ | .clearing | .failing => true
  | .returning locked => locked
  | _ => false

def EnsurePoint.isReturning : EnsurePoint → Bool
  | .returning _ => true
  | _ => false

def EnsureCall.Knows (state : ReconnectState) (k : Nat) (call : EnsureCall) : Prop :=
  call.since ≤ state.marks ∧ (call.point.holdsInit = true → state.clientInit = some k) ∧
  match call.point with
  | .checkFlag | .recheckFlag => state.client ≠ none
  | .returning _ => ∃ began, state.client = some began ∧ call.since ≤ began
  | .returned client => ∃ began, client = some began ∧ call.since ≤ began
  | _ => True

-- A dial that is older than a request finds the flag set until its own call clears it, so
-- no call has taken the fast path on the strength of a client that it replaces.
structure ReconnectInv (state : ReconnectState) : Prop where
  fresh : state.flags.clientReconnectRequired = false → ∀ began, state.client = some began → began = state.marks
  calls : ∀ (k : Nat) call, state.calls[k]? = some call → call.Knows state k
  dials : ∀ (k : Nat) call began, state.calls[k]? = some call → call.point.dial = some began → state.flags.clientReconnectRequired = false →
    began = state.marks
  returns : ∀ (j k : Nat) leaving call began, state.calls[j]? = some leaving → state.calls[k]? = some call → leaving.point.isReturning = true →
    call.point.dial = some began → leaving.since ≤ began

section

variable {pid : UInt32} {state next : ReconnectState} {k : Nat} {call : EnsureCall} {point : EnsurePoint}

theorem dial_holds {began : Nat} (dials : point.dial = some began) : point.holdsInit = true ∧ point.isReturning = false := by
  cases point <;> first | exact ⟨rfl, rfl⟩ | cases dials

-- What a step of call `k` may do: keep the others' lock, give the client its own dial, and
-- clear the flag only as the holder of the lock and for a client that served every request.
structure CallMove (state next : ReconnectState) (k : Nat) (before after : EnsurePoint) : Prop where
  marks : next.marks = state.marks
  lock : ∀ j, j ≠ k → state.clientInit = some j → next.clientInit = some j
  client : next.client = state.client ∨ ∃ began, before.dial = some began ∧ next.client = some began
  flag : next.flags.clientReconnectRequired = false → state.flags.clientReconnectRequired = false ∨
    before = .clearing ∧ next.client = some state.marks
  dial : ∀ began, after.dial = some began → before.dial = some began ∨ began = state.marks
  leaves : after.isReturning = true → state.flags.clientReconnectRequired = false ∨ before = .clearing

theorem fresh_client (inv : ReconnectInv state) (clear : ¬ state.flags.clientReconnectRequired = true) (connected : state.client ≠ none)
    {since : Nat} (early : since ≤ state.marks) : ∃ began, state.client = some began ∧ since ≤ began := by
  obtain ⟨began, found⟩ := Option.ne_none_iff_exists'.mp connected
  have fresh := inv.fresh (Bool.eq_false_iff.mpr clear) began found
  exact ⟨began, found, early.trans_eq fresh.symm⟩

theorem reclaim_keeps_request {flags : ForkFlags} {spurious : Bool} {at_ : ReclaimPoint}
    (clear : (reclaimAfterFork pid flags spurious at_).1.clientReconnectRequired = false) : flags.clientReconnectRequired = false := by
  cases at_ with
  | load => exact clear
  | claim current =>
    rw [reclaimAfterFork] at clear
    split at clear
    · exact clear
    · split at clear <;> exact clear
  | reset => exact clear
  | require => cases clear

section

variable (inv : ReconnectInv state) (held : state.calls[k]? = some call)

include inv held

theorem knows_kept (moved : CallMove state next k call.point point)
    {j : Nat} {other : EnsureCall} (apart : j ≠ k) (old : state.calls[j]? = some other) : other.Knows next j := by
  have knows := inv.calls j other old
  have serves := inv.returns j k other call
  obtain ⟨since, at_⟩ := other
  obtain ⟨before, holds, now⟩ := knows
  refine ⟨moved.marks ▸ before, fun locked => moved.lock j apart (holds locked), ?_⟩
  rcases moved.client with same | ⟨began, dials, fresh⟩
  · cases at_ <;> simp only [same] <;> exact now
  · cases at_ with
    | checkFlag | recheckFlag =>
      rw [fresh]
      nofun
    | returning locked => exact ⟨began, fresh, serves began old held rfl dials⟩
    | returned client => exact now
    | _ => trivial

theorem reconnect_inv_moved (moved : CallMove state next k call.point point)
    (knows : EnsureCall.Knows next k { call with point := point }) :
    ReconnectInv { next with calls := state.calls.set k { call with point := point } } := by
  have mine := inv.calls k call held
  -- Nobody else dials while the call clears the flag, because the call holds the lock.
  have alone : ∀ {j other began}, call.point = .clearing → j ≠ k → state.calls[j]? = some other → other.point.dial ≠ some began := by
    intro j other began clearing apart old dials
    have locked := (inv.calls j other old).2.1 (dial_holds dials).1
    exact apart (Option.some.inj (locked.symm.trans (mine.2.1 (by rw [clearing]; rfl))))
  refine ⟨fun clear began found => ?_, fun j other at_ => ?_, fun j other began at_ dials clear => ?_,
    fun i j leaving other began left at_ returning dials => ?_⟩
  · refine Eq.trans ?_ moved.marks.symm
    rcases moved.flag clear with before | ⟨-, served⟩
    · rcases moved.client with same | ⟨started, dials, fresh⟩
      · exact inv.fresh before began (same ▸ found)
      · rw [Option.some.inj (found.symm.trans fresh)]
        exact inv.dials k call started held dials before
    · exact Option.some.inj (found.symm.trans served)
  · rcases slot_set_cases at_ with ⟨rfl, rfl⟩ | ⟨apart, old⟩
    · exact knows
    · exact knows_kept inv held moved apart old
  · refine Eq.trans ?_ moved.marks.symm
    rcases slot_set_cases at_ with ⟨rfl, rfl⟩ | ⟨apart, old⟩
    · refine (moved.dial began dials).elim (fun still => ?_) id
      rcases moved.flag clear with before | ⟨clearing, -⟩
      · exact inv.dials j call began held still before
      · rw [clearing] at still
        cases still
    · rcases moved.flag clear with before | ⟨clearing, -⟩
      · exact inv.dials j other began old dials before
      · exact absurd dials (alone clearing apart old)
  · rcases slot_set_cases left with ⟨rfl, rfl⟩ | ⟨leftApart, leftOld⟩
    · rcases slot_set_cases at_ with ⟨rfl, rfl⟩ | ⟨apart, old⟩
      · rw [(dial_holds dials).2] at returning
        cases returning
      · rcases moved.leaves returning with clear | clearing
        · exact mine.1.trans_eq (inv.dials j other began old dials clear).symm
        · exact absurd dials (alone clearing apart old)
    · rcases slot_set_cases at_ with ⟨rfl, rfl⟩ | ⟨apart, old⟩
      · rcases moved.dial began dials with still | rfl
        · exact inv.returns i j leaving call began leftOld held returning still
        · exact (inv.calls i leaving leftOld).1
      · exact inv.returns i j leaving other began leftOld old returning dials

theorem reconnect_inv_advance {spurious connects : Bool} (served : call.point = .clearing → state.client = some state.marks)
    (taken : ensureClientConnected pid k state spurious connects call.point = some (next, point)) :
    ReconnectInv { next with calls := state.calls.set k { call with point := point } } := by
  have knows := inv.calls k call held
  obtain ⟨since, before⟩ := call
  obtain ⟨early, locked, at_⟩ := knows
  cases before with
  | reclaiming current =>
    cases taken
    cases (reclaimAfterFork pid state.flags spurious current).2 with
    | none | some =>
      exact reconnect_inv_moved inv held ⟨rfl, fun _ _ => id, .inl rfl, fun clear => .inl (reclaim_keeps_request clear), nofun, nofun⟩
        ⟨early, nofun, trivial⟩
  | checkClient | recheckClient =>
    cases taken
    split
    · rename_i connected
      exact reconnect_inv_moved inv held ⟨rfl, fun _ _ => id, .inl rfl, .inl, nofun, nofun⟩ ⟨early, locked, Option.isSome_iff_ne_none.mp connected⟩
    · exact reconnect_inv_moved inv held ⟨rfl, fun _ _ => id, .inl rfl, .inl, nofun, nofun⟩ ⟨early, locked, trivial⟩
  | checkFlag | recheckFlag =>
    cases taken
    split
    · exact reconnect_inv_moved inv held ⟨rfl, fun _ _ => id, .inl rfl, .inl, nofun, nofun⟩ ⟨early, locked, trivial⟩
    · rename_i required
      exact reconnect_inv_moved inv held ⟨rfl, fun _ _ => id, .inl rfl, .inl, nofun, fun _ => .inl (Bool.eq_false_iff.mpr required)⟩
        ⟨early, locked, fresh_client inv required at_ early⟩
  | locking =>
    rw [ensureClientConnected] at taken
    split at taken <;> cases taken
    rename_i free
    refine reconnect_inv_moved inv held ⟨rfl, fun j _ taken => ?_, .inl rfl, .inl, nofun, nofun⟩ ⟨early, fun _ => rfl, trivial⟩
    rw [taken] at free
    exact absurd rfl free
  | connect =>
    cases taken
    exact reconnect_inv_moved inv held ⟨rfl, fun _ _ => id, .inl rfl, .inl, fun _ same => .inr (Option.some.inj same).symm,
      nofun⟩ ⟨early, locked, trivial⟩
  | dialing began =>
    cases taken
    cases connects with
    | true => exact reconnect_inv_moved inv held ⟨rfl, fun _ _ => id, .inl rfl, .inl, fun _ => .inl, nofun⟩ ⟨early, locked, trivial⟩
    | false => exact reconnect_inv_moved inv held ⟨rfl, fun _ _ => id, .inl rfl, .inl, nofun, nofun⟩ ⟨early, locked, trivial⟩
  | swapping began =>
    cases taken
    exact reconnect_inv_moved inv held ⟨rfl, fun _ _ => id, .inr ⟨began, rfl, rfl⟩, .inl, nofun, nofun⟩ ⟨early, locked, trivial⟩
  | clearing =>
    cases taken
    exact reconnect_inv_moved inv held ⟨rfl, fun _ _ => id, .inl rfl, fun _ => .inr ⟨rfl, served rfl⟩, nofun, fun _ => .inr rfl⟩
      ⟨early, locked, _, served rfl, early⟩
  | returning inside =>
    cases taken
    refine reconnect_inv_moved inv held ⟨rfl, fun j apart taken => ?_, .inl rfl, .inl, nofun, nofun⟩ ⟨early, nofun, at_⟩
    cases inside with
    | true => exact absurd (Option.some.inj (taken.symm.trans (locked rfl))) apart
    | false => exact taken
  | failing =>
    cases taken
    exact reconnect_inv_moved inv held ⟨rfl, fun j apart taken =>
      absurd (Option.some.inj (taken.symm.trans (locked rfl))) apart, .inl rfl, .inl, nofun, nofun⟩ ⟨early, nofun, trivial⟩
  | returned _ | failed => cases taken

end

theorem reconnect_inv_step {action : ReconnectAction} (inv : ReconnectInv state) (served : clearsServed state action = true)
    (taken : reconnectStep pid state action = some next) : ReconnectInv next := by
  cases action with
  | mark =>
    cases taken
    refine ⟨nofun, fun k call held => ?_, nofun, inv.returns⟩
    obtain ⟨early, locked, at_⟩ := inv.calls k call held
    exact ⟨early.trans (Nat.le_succ _), locked, at_⟩
  | ensure =>
    cases taken
    refine ⟨inv.fresh, fun k call held => ?_, fun k call began held dials => ?_, fun j k leaving call began left held returning dials => ?_⟩
    · rcases slot_added_cases held with ⟨-, rfl⟩ | old
      · exact ⟨le_rfl, nofun, trivial⟩
      · exact inv.calls k call old
    · rcases slot_added_cases held with ⟨-, rfl⟩ | old
      · cases dials
      · exact inv.dials k call began old dials
    · rcases slot_added_cases left with ⟨-, rfl⟩ | leftOld
      · cases returning
      · rcases slot_added_cases held with ⟨-, rfl⟩ | old
        · cases dials
        · exact inv.returns j k leaving call began leftOld old returning dials
  | advance k spurious connects =>
    obtain ⟨call, held, moved⟩ := Option.bind_eq_some_iff.mp taken
    obtain ⟨⟨after, point⟩, stepped, rfl⟩ := Option.map_eq_some_iff.mp moved
    rw [clearsServed, held, Option.all_some, decide_eq_true_eq] at served
    exact reconnect_inv_advance inv held served stepped

end

-- Where the flag is only cleared for a client dialled after every request, a call that
-- returns Ok leaves a client that was dialled after every request before the call.
theorem reconnect_requests_kept (pid : UInt32) (flags : ForkFlags) (connected : Bool) (actions : List ReconnectAction) (state : ReconnectState)
    (reached : exec (reconnectStep pid) (.started flags connected) actions = some state)
    (served : along (reconnectStep pid) (fun state action => clearsServed state action = true) (.started flags connected) actions) :
    ∀ call ∈ state.calls, ∀ client, call.point = .returned client → ∃ began, client = some began ∧ call.since ≤ began := by
  intro call member client returned
  have start : ReconnectInv (.started flags connected) := by
    refine ⟨fun _ began found => ?_, nofun, nofun, nofun⟩
    cases connected with
    | true => exact (Option.some.inj found).symm
    | false => cases found
  have inv := exec_invariant_along (reconnectStep pid) _ ReconnectInv (fun _ _ _ inv met taken =>
    reconnect_inv_step inv met taken) start served reached
  obtain ⟨k, held⟩ := List.mem_iff_getElem?.mp member
  have knows := (inv.calls k call held).2.2
  rw [returned] at knows
  exact knows

def ensureSteps (k n : Nat) : List ReconnectAction := List.replicate n (.advance k false true)

theorem reconnect_requests_kept_redialled : ∃ state, exec (reconnectStep 7) (.started ForkFlags.new false)
      ([.ensure] ++ ensureSteps 0 12 ++ [.mark, .ensure] ++ ensureSteps 1 12) = some state ∧
    (⟨1, .returned (some 1)⟩ : EnsureCall) ∈ state.calls ∧
    ∀ call ∈ state.calls, ∀ client, call.point = .returned client → ∃ began, client = some began ∧ call.since ≤ began :=
  ⟨_, rfl, by decide, reconnect_requests_kept 7 ForkFlags.new false ([.ensure] ++ ensureSteps 0 12 ++ [.mark, .ensure] ++ ensureSteps 1 12) _ rfl (by decide)⟩

-- A request made during a dial is cleared with the flag of that dial.
theorem reconnect_request_lost : ∃ state, exec (reconnectStep 7) (.started ForkFlags.new false)
      ([.ensure] ++ ensureSteps 0 8 ++ [.mark] ++ ensureSteps 0 4 ++ [.ensure] ++ ensureSteps 1 5) = some state ∧
    (⟨1, .returned (some 0)⟩ : EnsureCall) ∈ state.calls :=
  ⟨_, rfl, by decide⟩

end Pkcs11Proxy.Shim
