import Pkcs11Proxy.Backend.ObjectCalls

namespace Pkcs11Proxy.Backend

open Lib Pkcs11Proxy.Types

def MintedObject.binding (mint : MintedObject) : CapturedLifetime := ⟨mint.session, mint.object, mint.lifetime⟩

-- A destroy that reached the native call, and the mint whose capture it presents.
structure BoundDestroy.Exact (destroy : BoundDestroy) (mint : MintedObject) : Prop where
  session : destroy.session = mint.session
  object : destroy.object = mint.object
  lifetime : destroy.lifetime = some mint.lifetime
  destroyed : destroy.destroyed = none ∨ destroy.destroyed = some mint.id

structure BoundTo (sessions : UInt64 → Option UInt64) (live : UInt64 → UInt64 → Option ObjectId) (mint : MintedObject) (number : UInt64)
    (entry : ObjectLifetimeEntry) : Prop where
  object : mint.object = number
  owner : mint.session = entry.owner
  opened : (sessions mint.session).isSome = true
  live : ∀ id, live mint.session number = some id → id = mint.id

structure LifetimeInv (state : ObjectState) : Prop where
  counter : state.lifetimes.next = UInt64.ofNat (state.lifetimes.draws + 1)
  drawn : ∀ mint ∈ state.minted, mint.lifetime.toNat ≤ state.lifetimes.draws
  stored : ∀ number entry, state.lifetimes.entries number = some entry → entry.lifetime.toNat ≤ state.lifetimes.draws
  nonzero : state.lifetimes.entries 0 = none
  unique : ∀ mint ∈ state.minted, ∀ other ∈ state.minted, other.lifetime = mint.lifetime → other = mint
  bound : ∀ mint ∈ state.minted, ∀ number entry, state.lifetimes.entries number = some entry → entry.lifetime = mint.lifetime →
    BoundTo state.sessions state.live mint number entry
  captures : ∀ thread, ∀ capture ∈ state.captures thread, ∀ pair ∈ capture.pairs,
    ∃ mint ∈ state.minted, mint.binding = ⟨capture.session, pair.1, pair.2⟩
  captured : ∀ capture ∈ state.captured, ∃ mint ∈ state.minted, mint.binding = capture
  destroys : ∀ destroy ∈ state.boundDestroys, ∃ mint ∈ state.minted, mint.binding ∈ state.captured ∧ destroy.Exact mint

-- The counter wraps, so lifetimes tell objects apart only while fewer than 2^64 were drawn.
def CleanupInv (state : ObjectState) : Prop := state.lifetimes.draws < 2 ^ 64 → LifetimeInv state

variable {state next : ObjectState} {object lifetime : UInt64} {k : Nat} {pair : UInt64 × UInt64}
  {stack : CaptureStack} {target : CloseTarget} {known : List UInt64} {answer : ProviderAnswer}
  {id : ObjectId} {call before after : CallState} {done : ObjectState × CkRv}

theorem cleanup_inv_initial : CleanupInv ObjectState.initial := fun _ =>
  { counter := rfl
    drawn := nofun
    stored := nofun
    nonzero := rfl
    unique := nofun
    bound := nofun
    captures := nofun
    captured := nofun
    destroys := fun destroy member => by cases member }

structure Shrinks (state next : ObjectState) : Prop where
  counter : next.lifetimes.next = state.lifetimes.next
  draws : next.lifetimes.draws = state.lifetimes.draws
  entries : ∀ number entry, next.lifetimes.entries number = some entry → state.lifetimes.entries number = some entry
  opened : ∀ mint ∈ state.minted, next.lifetimes.entries mint.object = some ⟨mint.lifetime, mint.session⟩ →
    (state.sessions mint.session).isSome = true → (next.sessions mint.session).isSome = true
  live : ∀ session number id, next.live session number = some id → state.live session number = some id
  minted : next.minted = state.minted
  captures : next.captures = state.captures
  captured : next.captured = state.captured
  boundDestroys : next.boundDestroys = state.boundDestroys

theorem shrinks_refl : Shrinks state state :=
  ⟨rfl, rfl, fun _ _ stored => stored, fun _ _ _ opened => opened, fun _ _ _ live => live, rfl, rfl, rfl, rfl⟩

theorem lifetime_inv_shrunk (inv : LifetimeInv state) (shrinks : Shrinks state next) : LifetimeInv next where
  counter := by rw [shrinks.counter, shrinks.draws, inv.counter]
  drawn := by
    rw [shrinks.minted, shrinks.draws]
    exact inv.drawn
  stored number entry stored := by
    rw [shrinks.draws]
    exact inv.stored number entry (shrinks.entries number entry stored)
  nonzero := by
    refine Option.eq_none_iff_forall_ne_some.mpr fun entry stored => ?_
    have old := shrinks.entries 0 entry stored
    rw [inv.nonzero] at old
    cases old
  unique := by
    rw [shrinks.minted]
    exact inv.unique
  bound mint member number entry stored same := by
    rw [shrinks.minted] at member
    obtain ⟨named, owner, opened, lives⟩ := inv.bound mint member number entry (shrinks.entries number entry stored) same
    refine ⟨named, owner, shrinks.opened mint member ?_ opened, fun id live => lives id (shrinks.live _ _ id live)⟩
    rw [named, stored, owner, ← same]
  captures := by
    rw [shrinks.captures, shrinks.minted]
    exact inv.captures
  captured := by
    rw [shrinks.captured, shrinks.minted]
    exact inv.captured
  destroys := by
    rw [shrinks.boundDestroys, shrinks.minted, shrinks.captured]
    exact inv.destroys

theorem cleanup_shrunk (inv : CleanupInv state) (shrinks : Shrinks state next) : CleanupInv next := by
  intro few
  rw [shrinks.draws] at few
  exact lifetime_inv_shrunk (inv few) shrinks

theorem mem_set_pair {pairs : List (UInt64 × UInt64)}
    (member : pair ∈ setPair object lifetime pairs) : pair = (object, lifetime) ∨ pair ∈ pairs := by
  induction pairs with
  | nil => exact .inl (List.mem_singleton.mp member)
  | cons first rest ih =>
    rw [setPair] at member
    split at member
    · exact (List.mem_cons.mp member).imp_right (List.mem_cons_of_mem first)
    · rcases List.mem_cons.mp member with rfl | later
      · exact .inr (by simp)
      · exact (ih later).imp_right (List.mem_cons_of_mem first)

variable {session : UInt64}

theorem mem_noted {contended : Bool} {capture : CaptureState}
    (member : capture ∈ if contended then stack.poison session object else stack.report session object lifetime)
    (held : pair ∈ capture.pairs) :
    (capture.session = session ∧ pair = (object, lifetime)) ∨ ∃ old ∈ stack, old.session = capture.session ∧ pair ∈ old.pairs := by
  cases stack with
  | nil => cases contended <;> cases member
  | cons first rest =>
    cases contended with
    | true =>
      simp only [if_true, CaptureStack.poison] at member
      split at member
      · rcases List.mem_cons.mp member with rfl | later
        · exact .inr ⟨first, by simp, rfl, (List.mem_filter.mp held).1⟩
        · exact .inr ⟨capture, List.mem_cons_of_mem first later, rfl, held⟩
      · exact .inr ⟨capture, member, rfl, held⟩
    | false =>
      simp only [Bool.false_eq_true, if_false, CaptureStack.report] at member
      split at member
      · rename_i active
        rcases List.mem_cons.mp member with rfl | later
        · rcases mem_set_pair held with new | old
          · exact .inl ⟨active.2.2, new⟩
          · exact .inr ⟨first, by simp, rfl, old⟩
        · exact .inr ⟨capture, List.mem_cons_of_mem first later, rfl, held⟩
      · exact .inr ⟨capture, member, rfl, held⟩

section Draws

variable (inv : LifetimeInv state) (few : state.lifetimes.draws + 1 < 2 ^ 64)

include inv few

theorem fresh_lifetime : state.lifetimes.next.toNat = state.lifetimes.draws + 1 := by
  rw [inv.counter]
  exact UInt64.toNat_ofNat_of_lt' few

theorem lifetime_inv_drawn (session : UInt64) (nonzero : object ≠ 0) : LifetimeInv
    { state with lifetimes := state.lifetimes.draw session object } := by
  have fresh := fresh_lifetime inv few
  refine { inv with counter := ?_, drawn := ?_, stored := ?_, nonzero := ?_, bound := ?_ }
  · change state.lifetimes.next + 1 = UInt64.ofNat (state.lifetimes.draws + 1 + 1)
    rw [inv.counter]
    exact (UInt64.ofNat_add _ _).symm
  · exact fun mint member => Nat.le_succ_of_le (inv.drawn mint member)
  · intro number entry stored
    change Function.update state.lifetimes.entries object _ number = some entry at stored
    by_cases same : number = object
    · rw [same, Function.update_self, Option.some.injEq] at stored
      rw [← stored]
      exact fresh.le
    · rw [Function.update_of_ne same] at stored
      exact Nat.le_succ_of_le (inv.stored number entry stored)
  · exact (Function.update_of_ne (Ne.symm nonzero) _ _).trans inv.nonzero
  · intro mint member number entry stored same
    change Function.update state.lifetimes.entries object _ number = some entry at stored
    by_cases here : number = object
    · rw [here, Function.update_self, Option.some.injEq] at stored
      have older := inv.drawn mint member
      rw [← same, ← stored, fresh] at older
      omega
    · rw [Function.update_of_ne here] at stored
      exact inv.bound mint member number entry stored same

theorem fresh_entry {number : UInt64} {entry : ObjectLifetimeEntry}
    (stored : (state.lifetimes.draw session object).entries number = some entry) (same : entry.lifetime = state.lifetimes.next) :
    number = object ∧ entry = ⟨state.lifetimes.next, session⟩ := by
  change Function.update state.lifetimes.entries object _ number = some entry at stored
  by_cases here : number = object
  · rw [here, Function.update_self, Option.some.injEq] at stored
    exact ⟨here, stored.symm⟩
  · rw [Function.update_of_ne here] at stored
    have older := inv.stored number entry stored
    rw [same, fresh_lifetime inv few] at older
    omega

end Draws

section Mint

variable {thread : Nat} {session : UInt64}

-- The fresh record overwrites the one of its number, so only the new mint is bound to it.
theorem lifetime_inv_minted {viewers : List UInt64} {captures : Nat → CaptureStack} {objects : ObjectId → Option UInt64}
    (inv : LifetimeInv state) (few : state.lifetimes.draws + 1 < 2 ^ 64) (nonzero : object ≠ 0)
    (opened : (state.sessions session).isSome = true) (reported : captures = Function.update state.captures thread
      (if (state.lifetimes.entries object).isSome then (state.captures thread).poison session object
        else (state.captures thread).report session object state.lifetimes.next)) :
    LifetimeInv { state with
      nextObject := state.nextObject + 1
      objects := objects
      live := fun viewer number => if number = object ∧ viewer ∈ session :: viewers then some state.nextObject else state.live viewer number
      lifetimes := state.lifetimes.draw session object
      captures := captures
      minted := state.minted ++ [⟨session, object, state.lifetimes.next, state.nextObject⟩] } := by
  have fresh := fresh_lifetime inv few
  have drew := lifetime_inv_drawn inv few session nonzero
  have older : ∀ mint ∈ state.minted, mint.lifetime ≠ state.lifetimes.next := by
    intro mint member same
    have drawn := inv.drawn mint member
    rw [same, fresh] at drawn
    omega
  have kept : ∀ {P : MintedObject → Prop} {more : MintedObject}, (∃ mint ∈ state.minted, P mint) → ∃ mint ∈ state.minted ++ [more], P mint :=
    fun ⟨mint, member, holds⟩ => ⟨mint, List.mem_append_left _ member, holds⟩
  refine { drew with
    drawn := forall_added drew.drawn fresh.le, unique := ?_, bound := ?_, captures := ?_
    captured := fun capture member => kept (drew.captured capture member)
    destroys := fun destroy member => kept (drew.destroys destroy member) }
  · intro mint member other otherMember same
    rcases List.mem_append.mp member with old | new
    · rcases List.mem_append.mp otherMember with otherOld | otherNew
      · exact inv.unique mint old other otherOld same
      · rw [List.mem_singleton.mp otherNew] at same
        exact absurd same.symm (older mint old)
    · rw [List.mem_singleton.mp new] at same ⊢
      rcases List.mem_append.mp otherMember with otherOld | otherNew
      · exact absurd same (older other otherOld)
      · exact List.mem_singleton.mp otherNew
  · intro mint member number entry stored same
    rcases List.mem_append.mp member with old | new
    · obtain ⟨named, owner, open_, lives⟩ := drew.bound mint old number entry stored same
      refine ⟨named, owner, open_, fun id live => lives id ?_⟩
      have other : number ≠ object := by
        rintro rfl
        change Function.update state.lifetimes.entries number _ number = some entry at stored
        rw [Function.update_self, Option.some.injEq] at stored
        exact older mint old (by rw [← same, ← stored])
      simpa [other] using live
    · obtain rfl := List.mem_singleton.mp new
      obtain ⟨rfl, rfl⟩ := fresh_entry inv few stored same
      exact ⟨rfl, rfl, opened, fun id live => by simpa using live.symm⟩
  · intro other capture member pair held
    change capture ∈ captures other at member
    rw [reported] at member
    by_cases same : other = thread
    · rw [same, Function.update_self] at member
      rcases mem_noted member held with ⟨active, rfl⟩ | ⟨first, oldMember, sameSession, oldHeld⟩
      · exact ⟨_, List.mem_append_right _ (List.mem_singleton_self _), by rw [active]; rfl⟩
      · rw [← sameSession]
        exact kept (inv.captures thread first oldMember pair oldHeld)
    · rw [Function.update_of_ne same] at member
      exact kept (inv.captures other capture member pair held)

theorem mint_object_cleanup {made : UInt64 × List UInt64} (inv : CleanupInv state)
    (taken : mintObject thread session state made = some next) : CleanupInv next := by
  rw [mintObject] at taken
  split at taken
  case isFalse => cases taken
  rename_i free
  have opened : (state.sessions session).isSome = true := by
    have own := List.all_eq_true.mp free session List.mem_cons_self
    rw [Bool.and_eq_true] at own
    exact own.1
  rw [Option.some.injEq, recordObjectLifetimeFresh] at taken
  split at taken
  · rename_i zero
    subst taken
    intro few
    have inv := inv few
    refine { inv with bound := fun mint member number entry stored same => ?_ }
    obtain ⟨named, owner, open_, lives⟩ := inv.bound mint member number entry stored same
    refine ⟨named, owner, open_, fun id live => lives id ?_⟩
    have other : number ≠ made.1 := by
      rintro rfl
      rw [zero] at stored
      exact absurd (inv.nonzero.symm.trans stored) (by simp)
    simpa [other] using live
  · rename_i nonzero
    subst taken
    intro few
    have bounded : state.lifetimes.draws + 1 < 2 ^ 64 := few
    exact lifetime_inv_minted (inv (by omega)) bounded nonzero opened rfl

theorem mint_objects_cleanup {made : List (UInt64 × List UInt64)} (inv : CleanupInv state)
    (taken : made.foldlM (mintObject thread session) state = some next) : CleanupInv next := by
  induction made generalizing state with
  | nil =>
    cases taken
    exact inv
  | cons first rest ih =>
    obtain ⟨mid, minted, later⟩ := Option.bind_eq_some_iff.mp taken
    exact ih (mint_object_cleanup inv minted) later

end Mint

theorem record_found_cleanup {numbers : List UInt64} (inv : CleanupInv state) (nonzero : ∀ object ∈ numbers, object ≠ 0) :
    CleanupInv { state with lifetimes := numbers.foldl (fun table object => table.recordIfAbsent session object) state.lifetimes } := by
  induction numbers generalizing state with
  | nil => exact inv
  | cons first rest ih =>
    have noted : CleanupInv { state with lifetimes := state.lifetimes.recordIfAbsent session first } := by
      rw [ObjectLifetimeTable.recordIfAbsent]
      split
      · exact inv
      · intro few
        have bounded : state.lifetimes.draws + 1 < 2 ^ 64 := few
        exact lifetime_inv_drawn (inv (by omega)) bounded session (nonzero first List.mem_cons_self)
    exact ih noted fun object member => nonzero object (List.mem_cons_of_mem first member)

theorem drop_sessions_entries (known : List UInt64) (table : ObjectLifetimeTable) (number : UInt64) (entry : ObjectLifetimeEntry)
    (stored : (known.foldl ObjectLifetimeTable.dropSession table).entries number = some entry) :
    table.entries number = some entry ∧ entry.owner ∉ known := by
  induction known generalizing table with
  | nil => exact ⟨stored, List.not_mem_nil⟩
  | cons first rest ih =>
    obtain ⟨kept, absent⟩ := ih _ stored
    obtain ⟨old, other⟩ := Option.filter_eq_some_iff.mp kept
    exact ⟨old, List.not_mem_cons_of_ne_of_not_mem (of_decide_eq_true other) absent⟩

theorem drop_sessions_counter (known : List UInt64) (table : ObjectLifetimeTable) :
    (known.foldl ObjectLifetimeTable.dropSession table).next = table.next ∧
      (known.foldl ObjectLifetimeTable.dropSession table).draws = table.draws := by
  induction known generalizing table with
  | nil => exact ⟨rfl, rfl⟩
  | cons first rest ih => exact ih (table.dropSession first)

theorem forget_shrinks (state : ObjectState) {gone : UInt64 → ObjectId → Bool} : Shrinks state (state.forget gone) :=
  { shrinks_refl with live := fun _ _ _ live => (Option.filter_eq_some_iff.mp live).1 }

-- A session the native close ends is either known, and then its records are dropped, or
-- owns no record of a mint.
theorem native_close_shrinks (owners : answer.rv = .ok → ∀ mint ∈ state.minted,
      state.lifetimes.entries mint.object = some ⟨mint.lifetime, mint.session⟩ → target.closes state mint.session = true →
      mint.session ∈ known) :
    Shrinks state (nativeCloseSessions state target known answer).1 := by
  rw [nativeCloseSessions]
  split
  · exact shrinks_refl
  split
  · rename_i closed
    refine { forget_shrinks state with
      counter := (drop_sessions_counter known state.lifetimes).1
      draws := (drop_sessions_counter known state.lifetimes).2
      entries := fun number entry stored => (drop_sessions_entries known state.lifetimes number entry stored).1
      opened := fun mint member stored opened => ?_ }
    obtain ⟨old, absent⟩ := drop_sessions_entries known state.lifetimes _ _ stored
    have left : target.closes state mint.session ≠ true := fun closes => absent (owners closed mint member old closes)
    simpa [left] using opened
  · exact shrinks_refl

theorem remove_shrinks : Shrinks state { state with lifetimes := state.lifetimes.remove object } := by
  refine { shrinks_refl with entries := fun number entry stored => ?_ }
  change Function.update state.lifetimes.entries object none number = some entry at stored
  by_cases same : number = object
  · rw [same, Function.update_self] at stored
    cases stored
  · rwa [Function.update_of_ne same] at stored

theorem shrinks_trans {mid : ObjectState} (first : Shrinks state mid) (second : Shrinks mid next) : Shrinks state next where
  counter := second.counter.trans first.counter
  draws := second.draws.trans first.draws
  entries number entry stored := first.entries number entry (second.entries number entry stored)
  opened mint member stored opened :=
    second.opened mint (first.minted.symm ▸ member) stored (first.opened mint member (second.entries _ _ stored) opened)
  live session number id live := first.live session number id (second.live session number id live)
  minted := second.minted.trans first.minted
  captures := second.captures.trans first.captures
  captured := second.captured.trans first.captured
  boundDestroys := second.boundDestroys.trans first.boundDestroys

theorem native_destroy_shrinks (state : ObjectState) (session object : UInt64) (answer : CkRv) :
    Shrinks state (nativeDestroy state session object answer).1 ∧
      ∀ id, (nativeDestroy state session object answer).2.2 = some id → state.live session object = some id := by
  rw [nativeDestroy]
  split
  · exact ⟨shrinks_refl, nofun⟩
  split
  · exact ⟨shrinks_refl, nofun⟩
  · rename_i live
    split
    · exact ⟨{ forget_shrinks state with }, fun id destroyed => live.trans destroyed⟩
    · exact ⟨shrinks_refl, nofun⟩

theorem destroy_tracked_shrinks (state : ObjectState) (session object : UInt64) (answer : CkRv) :
    Shrinks state (destroyTracked state session object answer).1 ∧
      ∀ id, (destroyTracked state session object answer).2.2 = some id → state.live session object = some id := by
  have native := native_destroy_shrinks state session object answer
  rcases called : nativeDestroy state session object answer with ⟨next, rv, id⟩
  rw [called] at native
  simp only [destroyTracked, called]
  split
  · exact ⟨shrinks_trans native.1 remove_shrinks, native.2⟩
  · exact native

-- The record still carries the presented lifetime, so the number stands for the
-- object that lifetime was minted for, or the provider has already dropped it.
theorem bound_destroy_inv {answer : CkRv} (inv : LifetimeInv state) (presented : ⟨session, object, lifetime⟩ ∈ state.captured)
    (current : (state.lifetimes.entries object).any fun entry => entry.lifetime = lifetime) :
    LifetimeInv { (destroyTracked state session object answer).1 with
      boundDestroys := (destroyTracked state session object answer).1.boundDestroys ++
        [⟨session, object, some lifetime, (destroyTracked state session object answer).2.2⟩] } := by
  obtain ⟨shrinks, lived⟩ := destroy_tracked_shrinks state session object answer
  have shrunk := lifetime_inv_shrunk inv shrinks
  obtain ⟨mint, member, binding⟩ := inv.captured _ presented
  obtain ⟨entry, stored, same⟩ : ∃ entry, state.lifetimes.entries object = some entry ∧ entry.lifetime = lifetime := by
    cases found : state.lifetimes.entries object with
    | none => simp [found] at current
    | some entry => exact ⟨entry, rfl, by simpa [found] using current⟩
  refine { shrunk with destroys := forall_added shrunk.destroys ?_ }
  refine ⟨mint, shrinks.minted.symm ▸ member, shrinks.captured.symm ▸ binding.symm ▸ presented, ?_⟩
  cases binding
  refine ⟨rfl, rfl, rfl, ?_⟩
  cases destroyed : (destroyTracked state mint.session mint.object answer).2.2 with
  | none => exact .inl rfl
  | some other => exact .inr (congrArg some ((inv.bound mint member _ entry stored same).live other (lived other destroyed)))

theorem run_object_call_cleanup {call : ObjectCall} (inv : CleanupInv state) (presented : call.presented state.captured = true)
    (ran : runObjectCall state answer call = some done) : CleanupInv done.1 := by
  cases call with
  | mint thread session =>
    rw [runObjectCall] at ran
    split at ran
    · cases ran
      exact inv
    split at ran
    · obtain ⟨next, minted, rfl⟩ := Option.map_eq_some_iff.mp ran
      exact mint_objects_cleanup inv minted
    · cases ran
      exact inv
  | destroyObject session object =>
    cases ran
    exact cleanup_shrunk inv (destroy_tracked_shrinks state session object answer.rv).1
  | destroyObjectIfBound session object incarnation lifetime =>
    cases lifetime with
    | none =>
      cases ran
      exact inv
    | some expected =>
      rw [runObjectCall] at ran
      split at ran
      · rename_i current
        cases ran
        intro few
        have draws := (destroy_tracked_shrinks state session object answer.rv).1.draws
        exact bound_destroy_inv (inv (draws ▸ few)) (List.contains_iff_mem.mp presented) current
      · cases ran
        exact inv
  | findObjects session =>
    rw [runObjectCall] at ran
    split at ran
    · cases ran
      exact inv
    split at ran
    · cases ran
      exact record_found_cleanup inv fun object member => of_decide_eq_true (List.mem_filter.mp member).2
    · cases ran
      exact inv

-- A native close-all that succeeds ends every session of its slot, but only the ones it
-- read before are settled. The others must not own the record of a mint.
def ownersKnown (state : ObjectState) : ObjectAction → Bool
  | .advance k answer =>
    match state.calls[k]? with
    | some (.owning call _) => decide (answer.rv = .ok → ∀ mint ∈ state.minted,
        state.lifetimes.entries mint.object = some ⟨mint.lifetime, mint.session⟩ → call.target.closes state mint.session = true →
        mint.session ∈ call.known)
    | _ => true
  | _ => true

theorem advance_call_shrinks (held : state.calls[k]? = some call) (owners : ownersKnown state (.advance k answer) = true)
    (taken : advanceCall state k answer call = some next) : Shrinks state next := by
  cases call with
  | opening session slot =>
    cases taken
    exact { shrinks_refl with }
  | closing call =>
    obtain ⟨owned, -, rfl⟩ := Option.map_eq_some_iff.mp taken
    exact { shrinks_refl with }
  | owning call guards =>
    cases taken
    rw [ownersKnown, held, decide_eq_true_eq] at owners
    exact { native_close_shrinks owners with }
  | committing call guards | reopening rv guards =>
    cases taken
    exact { shrinks_refl with }
  | forgetting call =>
    cases taken
    cases target : call.target with
    | session number =>
      rw [CloseTarget.forget, forgetSessionSlot]
      split <;> exact { shrinks_refl with }
    | slot id => exact { shrinks_refl with }
  | finished rv => cases taken

variable {thread : Nat}

theorem cleanup_captures (inv : CleanupInv state)
    (held : LifetimeInv state → ∀ capture ∈ stack, ∀ pair ∈ capture.pairs,
      ∃ mint ∈ state.minted, mint.binding = ⟨capture.session, pair.1, pair.2⟩) :
    CleanupInv { state with captures := Function.update state.captures thread stack } := by
  intro few
  have inv := inv few
  refine { inv with captures := fun other capture member => ?_ }
  by_cases same : other = thread
  · simp only [same, Function.update_self] at member
    exact held inv capture member
  · simp only [Function.update_of_ne same] at member
    exact inv.captures other capture member

theorem captured_pairs_held (inv : LifetimeInv state) {capture : CapturedLifetime}
    (member : capture ∈ capturedPairs (state.captures thread)) : ∃ mint ∈ state.minted, mint.binding = capture := by
  cases stack : state.captures thread with
  | nil => simp [stack, capturedPairs] at member
  | cons first rest =>
    rw [stack, capturedPairs] at member
    obtain ⟨pair, held, rfl⟩ := List.mem_map.mp member
    exact inv.captures thread first (by simp [stack]) pair held

-- A session that is being opened owns no record: its number was free.
theorem open_session_cleanup {slot : UInt64} {view : List (UInt64 × ObjectId)} (inv : CleanupInv state)
    (free : (state.sessions session).isNone = true) : CleanupInv (openSession state session slot view) := by
  intro few
  have inv := inv few
  refine { inv with bound := fun mint member number entry stored same => ?_ }
  obtain ⟨named, owner, opened, lives⟩ := inv.bound mint member number entry stored same
  have other : mint.session ≠ session := by
    rintro rfl
    simp [Option.isNone_iff_eq_none.mp free] at opened
  refine ⟨named, owner, ?_, fun id live => lives id ?_⟩
  · simpa [openSession, other] using opened
  · simpa [openSession, other] using live

theorem cleanup_step (state : ObjectState) (action : ObjectAction) (next : ObjectState) (inv : CleanupInv state)
    (owners : ownersKnown state action = true) (taken : objectStep state action = some next) : CleanupInv next := by
  cases action with
  | openSession session slot view =>
    rw [objectStep] at taken
    split at taken
    · rename_i free
      cases taken
      exact cleanup_shrunk (open_session_cleanup inv free.1) { shrinks_refl with }
    · cases taken
  | closeSession | closeAllSessions | sessionIncarnation =>
    cases taken
    exact cleanup_shrunk inv { shrinks_refl with }
  | call call answer =>
    rw [objectStep] at taken
    split at taken
    · rename_i presented
      split at taken
      rename_i fences entered _
      have fenced : CleanupInv { state with fences := fences } := cleanup_shrunk inv { shrinks_refl with }
      split at taken
      · obtain ⟨done, ran, rfl⟩ := Option.map_eq_some_iff.mp taken
        exact run_object_call_cleanup fenced presented ran
      · cases taken
        exact fenced
    · cases taken
  | beginCapture thread session =>
    cases taken
    refine cleanup_captures inv fun inv capture member pair held => ?_
    rcases List.mem_cons.mp member with rfl | old
    · cases held
    · exact inv.captures thread capture old pair held
  | readCapture thread =>
    cases taken
    intro few
    have inv := inv few
    refine { inv with captured := fun capture member => ?_, destroys := fun destroy member => ?_ }
    · rcases List.mem_append.mp member with old | new
      · exact inv.captured capture old
      · exact captured_pairs_held inv new
    · obtain ⟨mint, minted, read, exact_⟩ := inv.destroys destroy member
      exact ⟨mint, minted, List.mem_append_left _ read, exact_⟩
  | dropCapture thread =>
    cases taken
    exact cleanup_captures inv fun inv capture member => inv.captures thread capture (List.mem_of_mem_tail member)
  | advance k answer =>
    obtain ⟨call, held, stepped⟩ := Option.bind_eq_some_iff.mp taken
    exact cleanup_shrunk inv (advance_call_shrinks held owners stepped)

-- Whatever the threads do and whatever numbers the provider reuses, a bound destroy
-- that reaches the native call presents a lifetime some capture handed out, and
-- destroys the object of the one mint that drew it or none at all.
theorem bound_cleanup_exact (actions : List ObjectAction) (final : ObjectState)
    (owners : along objectStep (fun state action => ownersKnown state action = true) ObjectState.initial actions)
    (ran : exec objectStep ObjectState.initial actions = some final) (few : final.lifetimes.draws < 2 ^ 64) :
    ∀ destroy ∈ final.boundDestroys, ∃ mint ∈ final.minted, mint.binding ∈ final.captured ∧ destroy.Exact mint ∧
      ∀ other ∈ final.minted, other.lifetime = mint.lifetime → other = mint := by
  have inv := exec_invariant_along objectStep _ CleanupInv cleanup_step cleanup_inv_initial owners ran few
  intro destroy member
  obtain ⟨mint, minted, read, destroyed⟩ := inv.destroys destroy member
  exact ⟨mint, minted, read, destroyed, inv.unique mint minted⟩

def quietProvider : ProviderAnswer := ⟨.ok, [], [], []⟩

def mints (session object : UInt64) : List ObjectAction :=
  [.beginCapture 0 session, .sessionIncarnation session, .call (.mint 0 session) ⟨.ok, [(object, [])], [], []⟩, .readCapture 0, .dropCapture 0]

-- Session 7 mints object 9 and is closed with its whole slot; number 7 is opened again
-- and the provider shows it the old object as 9. The old binding finds no record, the
-- binding of the next mint destroys just that object.
def reopenedAfterCloseAll : List ObjectAction :=
  [.openSession 7 1 [], .advance 0 quietProvider] ++ mints 7 9 ++ [.closeAllSessions 1 0] ++ List.replicate 4 (.advance 1 quietProvider) ++
    [.openSession 7 1 [(9, 0)], .advance 2 quietProvider, .call (.destroyObjectIfBound 7 9 (some 1) (some 1)) quietProvider] ++
    mints 7 8 ++ [.call (.destroyObjectIfBound 7 8 (some 2) (some 2)) quietProvider]

theorem bound_cleanup_exact_captured : ∃ final, exec objectStep ObjectState.initial reopenedAfterCloseAll = some final ∧
    final.boundDestroys = [⟨7, 8, some 2, some 1⟩] ∧
    ∀ destroy ∈ final.boundDestroys, ∃ mint ∈ final.minted, mint.binding ∈ final.captured ∧ destroy.Exact mint ∧
      ∀ other ∈ final.minted, other.lifetime = mint.lifetime → other = mint :=
  ⟨_, rfl, by decide, bound_cleanup_exact reopenedAfterCloseAll _ (by decide) rfl (by decide)⟩

-- Object 0 is a token object of slot 1 with number 9. A close-all of slot 0 reads an empty
-- index, session 6 is opened there and mints object 1 as number 9, and the native close
-- ends it with its fence and its record left in place. Number 6 is opened on slot 1.
def closedUnknown : List ObjectAction :=
  [.openSession 5 1 [], .advance 0 quietProvider] ++ mints 5 9 ++ [.closeSession 5 0] ++ List.replicate 4 (.advance 1 quietProvider) ++
    [.closeAllSessions 0 0, .openSession 6 0 [], .advance 3 quietProvider] ++ mints 6 9 ++
    [.advance 2 quietProvider, .advance 2 ⟨.ok, [], [], [1]⟩, .advance 2 quietProvider, .advance 2 quietProvider, .openSession 6 1 [(9, 0)],
      .advance 4 quietProvider, .call (.destroyObjectIfBound 6 9 (some 2) (some 2)) quietProvider]

theorem token_object_destroyed : ∃ final, exec objectStep ObjectState.initial closedUnknown = some final ∧
    ⟨6, 9, 2, 1⟩ ∈ final.minted ∧ ⟨6, 9, 2⟩ ∈ final.captured ∧ final.boundDestroys = [⟨6, 9, some 2, some 0⟩] :=
  ⟨_, rfl, by decide, by decide, by decide⟩

end Pkcs11Proxy.Backend
