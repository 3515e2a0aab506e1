import Pkcs11Proxy.Backend.FenceTransitions

namespace Pkcs11Proxy.Backend

open Lib

theorem advance_inv (state : FenceState) (inv : FencesInv state) (i : Nat) (slot : Slot) (next : FenceState)
    (here : state.slots[i]? = some slot) (taken : advanceSlot state i slot = some next) : FencesInv next := by
  cases slot with
  | fetched guard expected => exact fetched_inv inv here taken
  | admitted guard expected => exact admitted_inv inv here taken
  | counted guard expected => exact counted_inv inv here taken
  | refused guard => exact refused_inv inv here taken
  | seeking job => exact seeking_inv inv here taken
  | marking job session id => exact marking_inv inv here taken
  | swapping job session id => exact swapping_inv inv here taken
  | draining pending job => exact draining_inv inv here taken
  | committing guard => exact committing_inv inv here taken
  | held | sessionHandleInvalid | finished => cases taken

variable {session epoch : UInt64} {actions : List FenceAction} {next : FenceState}
  {i : Nat} {incarnation : UInt64} {slot : Slot} {action : FenceAction} {id : FenceId}

variable {state : FenceState}

theorem entered_inv (inv : FencesInv state) :
    FencesInv (enter state session epoch) := by
  obtain ⟨entered, -, listed⟩ := entry_inv inv
  refine added_inv entered ⟨rfl, ?_, by simp [Slot.presents]⟩ fun id => ⟨rfl, rfl, rfl, rfl, rfl⟩
  intro ref member
  rw [List.mem_singleton.mp member]
  exact entered.table.listed _ _ listed

theorem entered_checked_inv (inv : FencesInv state) {expected : UInt64} :
    FencesInv (enterChecked state session epoch expected) := by
  have refused : FencesInv (state.addSlot .sessionHandleInvalid) :=
    added_inv inv slot_inv_settled.2 fun id => ⟨rfl, rfl, rfl, rfl, rfl⟩
  cases listed : state.fences.lookup session with
  | none =>
    simp only [enterChecked, listed]
    exact refused
  | some id =>
    simp only [enterChecked, listed]
    split
    · exact refused
    · rename_i current
      refine added_inv inv ⟨rfl, ?_, ?_⟩ fun id => ⟨rfl, rfl, rfl, rfl, rfl⟩
      · intro ref member
        rw [List.mem_singleton.mp member]
        exact inv.table.listed _ _ listed
      · rintro other incarnation presented
        cases presented
        exact not_not.mp current

theorem entered_write_inv (inv : FencesInv state) :
    FencesInv (enterWrite state session epoch) := by
  obtain ⟨entered, -, listed⟩ := entry_inv inv
  refine added_inv entered ⟨fun _ => rfl, ?_, by simp [Slot.presents]⟩ fun id => ⟨rfl, rfl, rfl, rfl, rfl⟩
  intro ref member
  rw [List.mem_singleton.mp member]
  exact entered.table.listed _ _ listed

theorem entered_write_all_inv (inv : FencesInv state) {sessions : List UInt64} :
    FencesInv (enterWriteAll state sessions epoch) :=
  added_inv inv ⟨rfl, by simp [Slot.refs], by simp [Slot.presents]⟩ fun id => ⟨rfl, rfl, rfl, rfl, rfl⟩

theorem fence_step_inv (state : FenceState) (action : FenceAction) (next : FenceState) (inv : FencesInv state)
    (taken : fenceStep state action = some next) : FencesInv next := by
  cases action with
  | enter session epoch =>
    cases taken
    exact entered_inv inv
  | enterChecked session epoch expected =>
    cases taken
    exact entered_checked_inv inv
  | enterWrite session epoch =>
    cases taken
    exact entered_write_inv inv
  | enterWriteAll sessions epoch =>
    cases taken
    exact entered_write_all_inv inv
  | advance i =>
    obtain ⟨slot, here, taken⟩ := Option.bind_eq_some_iff.mp taken
    exact advance_inv state inv i slot next here taken
  | commitClose i =>
    obtain ⟨slot, here, taken⟩ := Option.bind_eq_some_iff.mp taken
    exact commit_close_inv inv here taken
  | reopen i =>
    obtain ⟨slot, here, taken⟩ := Option.bind_eq_some_iff.mp taken
    exact reopen_inv inv here taken
  | drop i =>
    obtain ⟨slot, here, taken⟩ := Option.bind_eq_some_iff.mp taken
    exact drop_inv inv here taken

theorem fence_run_inv (ran : exec fenceStep FenceState.initial actions = some state) : FencesInv state :=
  exec_invariant fenceStep FencesInv fence_step_inv fences_inv_initial ran

def TableStep (state : FenceState) (action : FenceAction) (next : FenceState) : Prop :=
  (next.fences = state.fences ∧ next.committed = state.committed) ∨
    (∃ session, state.fences.lookup session = none ∧ next.fences = state.fences.insert session state.heap.length ∧
      next.committed = state.committed) ∨
    ∃ i guard, action = .advance i ∧ state.slots[i]? = some (.committing guard) ∧
      next.fences = state.fences.erase guard.session ∧
      next.committed = (state.fence guard.fence).incarnation :: state.committed

theorem entry_table_step (fences : next.fences = (state.entryOrInsert session).1.fences)
    (committed : next.committed = (state.entryOrInsert session).1.committed) : TableStep state action next := by
  cases found : state.fences.lookup session with
  | some id =>
    simp only [FenceState.entryOrInsert, found] at fences committed
    exact .inl ⟨fences, committed⟩
  | none =>
    simp only [FenceState.entryOrInsert, found] at fences committed
    exact .inr (.inl ⟨session, found, fences, committed⟩)

theorem advance_table_step (here : state.slots[i]? = some slot) (taken : advanceSlot state i slot = some next) :
    TableStep state (.advance i) next := by
  cases slot with
  | fetched guard expected | counted guard expected =>
    simp only [advanceSlot] at taken
    split at taken
    all_goals cases taken; exact .inl ⟨rfl, rfl⟩
  | admitted guard expected | refused guard => cases taken; exact .inl ⟨rfl, rfl⟩
  | seeking job =>
    cases todo : job.todo with
    | nil =>
      simp only [advanceSlot, todo, Option.some.injEq] at taken
      subst taken
      exact .inl ⟨rfl, rfl⟩
    | cons session rest =>
      simp only [advanceSlot, todo, Option.some.injEq] at taken
      subst taken
      exact entry_table_step rfl rfl
  | marking job session id =>
    simp only [advanceSlot] at taken
    split at taken
    · cases taken; exact .inl ⟨rfl, rfl⟩
    · split at taken
      · cases taken; exact .inl ⟨rfl, rfl⟩
      · split at taken
        all_goals cases taken; exact .inl ⟨rfl, rfl⟩
  | swapping job session id =>
    simp only [advanceSlot] at taken
    split at taken
    · split at taken
      all_goals cases taken; exact .inl ⟨rfl, rfl⟩
    · cases taken; exact .inl ⟨rfl, rfl⟩
  | draining pending job =>
    cases pending with
    | nil => cases taken; exact .inl ⟨rfl, rfl⟩
    | cons entry rest =>
      simp only [advanceSlot] at taken
      split at taken
      all_goals cases taken; exact .inl ⟨rfl, rfl⟩
  | committing guard =>
    cases taken
    exact .inr (.inr ⟨i, guard, rfl, here, rfl, rfl⟩)
  | held guard expected | sessionHandleInvalid | finished => cases taken

theorem settle_table_step
    (taken : commitCloseSlot state i slot = some next ∨ reopenSlot state i slot = some next ∨ dropSlot state i slot = some next) :
    next.fences = state.fences ∧ next.committed = state.committed := by
  cases slot with
  | held guard expected =>
    rcases taken with taken | taken | taken
    · simp only [commitCloseSlot] at taken
      split at taken
      all_goals cases taken
      exact ⟨rfl, rfl⟩
    · simp only [reopenSlot] at taken
      split at taken
      all_goals cases taken
      exact ⟨rfl, rfl⟩
    · simp only [dropSlot] at taken
      split at taken
      · cases taken
        exact ⟨rfl, rfl⟩
      · split at taken
        all_goals cases taken; exact ⟨rfl, rfl⟩
  | _ => rcases taken with taken | taken | taken <;> cases taken

theorem fence_step_table (taken : fenceStep state action = some next) : TableStep state action next := by
  cases action with
  | enter session epoch | enterWrite session epoch =>
    cases taken
    exact entry_table_step rfl rfl
  | enterChecked session epoch expected =>
    simp only [fenceStep, enterChecked] at taken
    split at taken
    · cases taken
      exact .inl ⟨rfl, rfl⟩
    · split at taken
      all_goals cases taken; exact .inl ⟨rfl, rfl⟩
  | enterWriteAll sessions epoch =>
    cases taken
    exact .inl ⟨rfl, rfl⟩
  | advance i =>
    obtain ⟨slot, here, taken⟩ := Option.bind_eq_some_iff.mp taken
    exact advance_table_step here taken
  | commitClose i =>
    obtain ⟨slot, -, taken⟩ := Option.bind_eq_some_iff.mp taken
    exact .inl (settle_table_step (.inl taken))
  | reopen i =>
    obtain ⟨slot, -, taken⟩ := Option.bind_eq_some_iff.mp taken
    exact .inl (settle_table_step (.inr (.inl taken)))
  | drop i =>
    obtain ⟨slot, -, taken⟩ := Option.bind_eq_some_iff.mp taken
    exact .inl (settle_table_step (.inr (.inr taken)))

theorem committed_grows {final : FenceState} (member : incarnation ∈ state.committed) (ran : exec fenceStep state actions = some final) :
    incarnation ∈ final.committed := by
  refine exec_invariant fenceStep (fun state => incarnation ∈ state.committed) ?_ member ran
  intro state action next member taken
  rcases fence_step_table taken with ⟨-, same⟩ | ⟨_, -, -, same⟩ | ⟨_, _, -, -, -, grown⟩
  · exact same ▸ member
  · exact same ▸ member
  · exact grown ▸ List.mem_cons_of_mem _ member

theorem owner_weighs (owns : slot.ownsFence id = true) :
    ownerWeight id slot + committerWeight id slot = 1 := by
  cases slot with
  | held guard expected =>
    simp only [Slot.ownsFence, Bool.and_eq_true, beq_iff_eq] at owns
    simp [ownerWeight, committerWeight, owns]
  | committing guard =>
    simp only [Slot.ownsFence, beq_iff_eq] at owns
    simp [ownerWeight, committerWeight, owns]
  | _ => simp [Slot.ownsFence] at owns

theorem unread_of_no_guards (none : total (guardWeight id) state.slots = 0) (member : slot ∈ state.slots) : slot.readsFence id = false := by
  have weight := weight_le_total (guardWeight id) member
  by_contra reads
  simp only [guardWeight, Bool.not_eq_false] at weight reads
  rw [if_pos reads] at weight
  omega

section Exclusion

variable {state : FenceState} (inv : FencesInv state)

include inv

theorem owner_excludes (member : slot ∈ state.slots) (owns : slot.ownsFence id = true) :
    total (guardWeight id) state.slots = 0 ∧
      total (ownerWeight id) state.slots + total (committerWeight id) state.slots = 1 := by
  have own := inv.census id
  cases slot with
  | held guard expected =>
    simp only [Slot.ownsFence, Bool.and_eq_true, beq_iff_eq] at owns
    obtain ⟨-, owners, guards, committers⟩ := owned_is_closing own member owns.1 owns.2
    exact ⟨guards, by omega⟩
  | committing guard =>
    simp only [Slot.ownsFence, beq_iff_eq] at owns
    have positive := weight_le_total (committerWeight id) member
    simp only [committerWeight, owns, if_true] at positive
    have ended := own.stored positive
    have owners := own.owners
    rw [if_neg ended.2] at owners
    have most := own.committers
    exact ⟨own.terminal ended, by omega⟩
  | _ => simp [Slot.ownsFence] at owns

theorem owner_unique {j : Nat} {a b : Slot} (left : state.slots[i]? = some a)
    (right : state.slots[j]? = some b) (ownsLeft : a.ownsFence id = true) (ownsRight : b.ownsFence id = true) : i = j := by
  by_contra distinct
  obtain ⟨-, one⟩ := owner_excludes inv (List.mem_of_getElem? left) ownsLeft
  have owners := weights_le_total (ownerWeight id) state.slots i j a b distinct left right
  have committers := weights_le_total (committerWeight id) state.slots i j a b distinct left right
  have first := owner_weighs ownsLeft
  have second := owner_weighs ownsRight
  omega

-- The counter wraps, so fences are told apart by their incarnations only while fewer
-- than 2^64 of them were created.
theorem incarnations_distinct (few : state.heap.length < 2 ^ 64) {a b : Nat} (left : a < state.heap.length)
    (right : b < state.heap.length) (same : (state.fence a).incarnation = (state.fence b).incarnation) : a = b := by
  rw [inv.table.drawn a left, inv.table.drawn b right] at same
  have words := congrArg UInt64.toNat same
  rw [UInt64.toNat_ofNat_of_lt' (by unfold UInt64.size; omega), UInt64.toNat_ofNat_of_lt' (by unfold UInt64.size; omega)] at words
  omega

theorem committed_refuses (few : state.heap.length < 2 ^ 64) (member : incarnation ∈ state.committed) {guard : SessionFenceGuard} :
    Slot.held guard (some incarnation) ∉ state.slots := by
  intro held
  have fits := inv.slots _ held
  obtain ⟨id, bound, same, terminal⟩ := inv.table.closed incarnation member
  have presented := fits.presented guard.fence incarnation rfl
  have inside := (fits.refs (guard.session, guard.fence) (by simp [Slot.refs])).1
  have equal := incarnations_distinct inv few bound inside (same.trans presented.symm)
  subst equal
  have unread := unread_of_no_guards ((inv.census _).terminal terminal) held
  have reads : guard.mode = .read := fits.shaped rfl
  simp [Slot.readsFence, reads] at unread

theorem removal_is_own (taken : fenceStep state action = some next) (found : state.fences.lookup session = some id)
    (lost : next.fences.lookup session ≠ some id) :
    ∃ i guard, action = .advance i ∧ state.slots[i]? = some (.committing guard) ∧ guard.session = session ∧
      guard.fence = id := by
  rcases fence_step_table taken with ⟨same, -⟩ | ⟨other, absent, inserted, -⟩ | ⟨i, guard, act, here, erased, -⟩
  · exact absurd (same ▸ found) lost
  · rw [inserted, dict_lookup_insert] at lost
    split at lost
    · rename_i same
      rw [same, absent] at found
      cases found
    · exact absurd found lost
  · rw [erased, dict_lookup_erase] at lost
    split at lost
    · rename_i same
      have listed := (committing_listed inv here).1
      rw [← same, found] at listed
      exact ⟨i, guard, act, here, same.symm, (Option.some.inj listed).symm⟩
    · exact absurd found lost

end Exclusion

-- In every state of every interleaving: an owner sees no read guard, it is alone,
-- only its own entry is ever removed, and a committed incarnation admits nobody as
-- long as fewer than 2^64 fences were created.
theorem session_fence_exclusion (actions : List FenceAction) (state : FenceState)
    (ran : exec fenceStep FenceState.initial actions = some state) :
    (∀ owner ∈ state.slots, ∀ reader ∈ state.slots, ∀ id, owner.ownsFence id = true → reader.readsFence id = false) ∧
    (∀ (i j : Nat) (a b : Slot) (id : FenceId), state.slots[i]? = some a → state.slots[j]? = some b →
      a.ownsFence id = true → b.ownsFence id = true → i = j) ∧
    (∀ action next session id, fenceStep state action = some next → state.fences.lookup session = some id →
      next.fences.lookup session ≠ some id →
      ∃ i guard, action = .advance i ∧ state.slots[i]? = some (.committing guard) ∧ guard.session = session ∧
        guard.fence = id) ∧
    (∀ incarnation ∈ state.committed, ∀ later final, exec fenceStep state later = some final → final.heap.length < 2 ^ 64 →
      ∀ guard, Slot.held guard (some incarnation) ∉ final.slots) := by
  have inv := fence_run_inv ran
  refine ⟨?_, ?_, ?_, ?_⟩
  · intro owner owning reader reading id owns
    exact unread_of_no_guards (owner_excludes inv owning owns).1 reading
  · intro i j a b id left right ownsLeft ownsRight
    exact owner_unique inv left right ownsLeft ownsRight
  · intro action next session id taken found lost
    exact removal_is_own inv taken found lost
  · intro incarnation member later final continued few guard
    have finalInv := exec_invariant fenceStep FencesInv fence_step_inv inv continued
    exact committed_refuses finalInv few (committed_grows member continued)

def reuseScript : List FenceAction :=
  [.enter 5 7, .advance 0, .advance 0, .advance 0, .enterWrite 5 7, .advance 1, .advance 1, .advance 1,
    .drop 0, .advance 1, .advance 1, .commitClose 2, .advance 2, .enter 5 7]

theorem session_fence_exclusion_reuse :
    ∃ state, exec fenceStep FenceState.initial reuseScript = some state ∧ state.fences.lookup 5 = some 1 ∧
      1 ∈ state.committed ∧ ∀ later final, exec fenceStep state later = some final → final.heap.length < 2 ^ 64 →
        ∀ guard, Slot.held guard (some 1) ∉ final.slots := by
  have ran : (exec fenceStep FenceState.initial reuseScript).isSome := by decide
  obtain ⟨state, found⟩ := Option.isSome_iff_exists.mp ran
  have shape : (exec fenceStep FenceState.initial reuseScript).map (fun state => (state.fences.lookup 5, state.committed)) =
      some (some 1, [1]) := by decide
  rw [found, Option.map_some, Option.some.injEq, Prod.mk.injEq] at shape
  have member : 1 ∈ state.committed := by simp [shape.2]
  exact ⟨state, found, shape.1, member, (session_fence_exclusion reuseScript state found).2.2.2 1 member⟩

-- One whole close of session 5 that nobody else interferes with.
def closeScript (n : Nat) : List FenceAction :=
  [.enterWrite 5 7, .advance n, .advance n, .advance n, .advance n, .commitClose (n + 1), .advance (n + 1), .drop (n + 1)]

theorem close_script_runs (next : UInt64) (heap : List SessionFence) (slots : List Slot) (committed : List UInt64) :
    exec fenceStep ⟨next, heap, ∅, slots, committed⟩ (closeScript slots.length) =
      some ⟨next + 1, heap ++ [⟨0, 7, next, 5⟩], ∅, slots ++ [.finished, .finished], next :: committed⟩ := by
  have epoch : terminalEpoch 7 = 7 := by decide
  simp [closeScript, exec, fenceStep, enterWrite, FenceState.entryOrInsert, FenceState.addSlot, advanceSlot, FenceState.fence,
    FenceState.setSlot, FenceState.setLifecycle, FenceState.setFence, SessionFence.new, commitCloseSlot, dropSlot, WriteJob.guards,
    SessionFenceGuard.write, SessionFenceGuard.owns, epoch, dict_erase_insert_empty]

theorem close_scripts_run {n : Nat} : ∃ actions heap slots committed,
    exec fenceStep FenceState.initial actions = some ⟨UInt64.ofNat (n + 1), heap, ∅, slots, committed⟩ ∧ (0 < n → 1 ∈ committed) := by
  induction n with
  | zero => exact ⟨[], [], [], [], rfl, fun positive => absurd positive (Nat.lt_irrefl 0)⟩
  | succ n ih =>
    obtain ⟨actions, heap, slots, committed, ran, old⟩ := ih
    refine ⟨actions ++ closeScript slots.length, heap ++ [⟨0, 7, UInt64.ofNat (n + 1), 5⟩], slots ++ [.finished, .finished],
      UInt64.ofNat (n + 1) :: committed, ?_, fun _ => ?_⟩
    · rw [exec_append, ran, Option.bind_some, close_script_runs, UInt64.ofNat_add (n + 1)]
      rfl
    · rcases Nat.eq_zero_or_pos n with rfl | positive
      · exact List.mem_cons_self
      · exact List.mem_cons_of_mem _ (old positive)

-- After 2^64 fences the counter is back at 1, and a call that still presents the
-- incarnation of the very first close gets a guard.
theorem committed_incarnation_reissued : ∃ actions state later final guard, exec fenceStep FenceState.initial actions = some state ∧
    1 ∈ state.committed ∧ exec fenceStep state later = some final ∧ Slot.held guard (some 1) ∈ final.slots := by
  obtain ⟨actions, heap, slots, committed, ran, closed⟩ := close_scripts_run
  have wrapped : UInt64.ofNat (2 ^ 64 + 1) = 1 := by decide
  rw [wrapped] at ran
  have reissued : exec fenceStep ⟨1, heap, ∅, slots, committed⟩ ([.enter 5 7, .enterChecked 5 7 1] ++
      List.replicate 3 (.advance (slots.length + 1))) = some ⟨2, heap ++ [⟨1, fenceOpen, 1, 5⟩], (∅ : Dict UInt64 FenceId).insert 5 heap.length,
        slots ++ [.fetched (.read heap.length 5 7) none, .held (.read heap.length 5 7) (some 1)], committed⟩ := by
    simp [List.replicate, exec, fenceStep, enter, enterChecked, FenceState.entryOrInsert, FenceState.addSlot, advanceSlot, FenceState.fence,
      FenceState.setSlot, FenceState.setReaders, FenceState.setFence, SessionFence.new, SessionFenceGuard.read]
  exact ⟨actions, _, _, _, .read heap.length 5 7, ran, closed (Nat.two_pow_pos 64), reissued, by simp⟩

-- However the calls were interleaved: when all of them are over and every guard is gone,
-- no fence keeps a reader or is left half closed.
theorem fences_settle (actions : List FenceAction) (state : FenceState) (ran : exec fenceStep FenceState.initial actions = some state)
    (ended : ∀ slot ∈ state.slots, slot = .finished ∨ slot = .sessionHandleInvalid) (id : FenceId) :
    (state.fence id).readers = 0 ∧ (state.fence id).lifecycle ≠ fenceClosing := by
  have idle : ∀ weight, weight .finished = 0 → weight .sessionHandleInvalid = 0 → total weight state.slots = 0 := by
    intro weight finished invalid
    refine List.sum_eq_zero fun n counted => ?_
    obtain ⟨slot, member, rfl⟩ := List.mem_map.mp counted
    rcases ended slot member with rfl | rfl
    · exact finished
    · exact invalid
  have census := (fence_run_inv ran).census id
  refine ⟨census.readers.trans (idle _ rfl rfl), fun closing => ?_⟩
  have owners := census.owners
  rw [idle _ rfl rfl, if_pos closing] at owners
  cases owners

def closedAndReopened : List FenceAction :=
  reuseScript ++ [.drop 2, .advance 3, .advance 3, .advance 3, .drop 3]

theorem fences_settle_read : ∃ state, exec fenceStep FenceState.initial closedAndReopened = some state ∧ state.committed = [1] ∧
    state.fences.lookup 5 = some 1 ∧ ∀ id, (state.fence id).readers = 0 ∧ (state.fence id).lifecycle ≠ fenceClosing :=
  ⟨_, rfl, rfl, rfl, fences_settle closedAndReopened _ rfl (by decide)⟩

end Pkcs11Proxy.Backend
