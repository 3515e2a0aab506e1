import Pkcs11Proxy.Backend.FenceSteps

namespace Pkcs11Proxy.Backend

open Lib

variable {before after slot : Slot} {id : FenceId} {session : UInt64} {next : FenceState}

section Entrants

variable {state : FenceState} (inv : FencesInv state) {i : Nat} {guard : SessionFenceGuard} (expected : Option UInt64)

include inv

theorem readers_stored_inv (here : state.slots[i]? = some before) {count : Nat}
    (member : (guard.session, guard.fence) ∈ before.refs) (fits : SlotInv state after)
    (counts : count + countsWeight guard.fence before = (state.fence guard.fence).readers + countsWeight guard.fence after)
    (guards : guardWeight guard.fence after ≤ guardWeight guard.fence before)
    (owners : ownerWeight guard.fence after = ownerWeight guard.fence before)
    (committers : committerWeight guard.fence after = 0 ∧ committerWeight guard.fence before = 0)
    (drains : drainedWeight guard.fence after = drainedWeight guard.fence before)
    (others : ∀ other, other ≠ guard.fence → Balanced other before after) :
    FencesInv ((state.setReaders guard.fence count).setSlot i after) := by
  have own := inv.census guard.fence
  have bound := ((inv.slots before (List.mem_of_getElem? here)).refs _ member).1
  have readers := total_set (countsWeight guard.fence) after here
  have reading := total_set (guardWeight guard.fence) after here
  have owning := total_balanced after _ here owners
  have committing := total_balanced after (committerWeight guard.fence) here (by omega)
  have draining := total_balanced after _ here drains
  refine stored_inv inv here bound rfl rfl (fun kept => kept) ?_ fits ?_ others
  · rintro (unsettled | positive)
    · exact .inl unsettled
    · omega
  · refine ⟨?_, ?_, ?_, ?_, ?_, ?_⟩
    · have counted := own.readers
      change count = _
      omega
    · rw [owning]; exact own.owners
    · rw [committing]; exact own.committers
    · rw [committing]; exact own.stored
    · intro terminal
      have none := own.terminal terminal
      omega
    · intro positive
      have none := own.drained (draining ▸ positive)
      omega

end Entrants

variable {state : FenceState}

theorem slot_inv_kept (inv : SlotInv state before) (shaped : after.shaped)
    (refs : ∀ ref ∈ after.refs, ref ∈ before.refs) (presents : after.presents = none ∨ after.presents = before.presents) :
    SlotInv state after where
  shaped := shaped
  refs ref member := inv.refs ref (refs ref member)
  presented id incarnation presented := by
    rcases presents with none | same
    · rw [none] at presented
      cases presented
    · exact inv.presented id incarnation (same ▸ presented)

theorem slot_inv_settled : SlotInv state .finished ∧ SlotInv state .sessionHandleInvalid := by
  constructor
  all_goals exact ⟨trivial, by simp [Slot.refs], by simp [Slot.presents]⟩

variable {guard : SessionFenceGuard}

theorem settled_slot_inv (fits : SlotInv state before)
    (named : (guard.session, guard.fence) ∈ before.refs) : SlotInv state (.held { guard with settled := true } none) where
  shaped := by simp [Slot.shaped]
  refs ref member := by
    rw [List.mem_singleton.mp member]
    exact fits.refs _ named
  presented := by simp [Slot.presents]

theorem owns_writes (owns : guard.owns = true) : guard.mode = .write := by
  simp only [SessionFenceGuard.owns, Bool.and_eq_true, beq_iff_eq] at owns
  exact owns.1

section Entry

variable {state : FenceState} (inv : FencesInv state) {i : Nat} {guard : SessionFenceGuard} {expected : Option UInt64}

include inv

theorem fetched_inv (here : state.slots[i]? = some (.fetched guard expected))
    (taken : advanceSlot state i (.fetched guard expected) = some next) : FencesInv next := by
  have fits := inv.slots _ (List.mem_of_getElem? here)
  simp only [advanceSlot] at taken
  split at taken
  · cases taken
    exact moved_inv inv here slot_inv_settled.2 fun id => ⟨rfl, rfl, rfl, rfl, rfl⟩
  · cases taken
    exact moved_inv inv here (slot_inv_kept fits fits.shaped (fun _ member => member) (.inr rfl))
      fun id => ⟨rfl, rfl, rfl, rfl, rfl⟩

theorem admitted_inv (here : state.slots[i]? = some (.admitted guard expected))
    (taken : advanceSlot state i (.admitted guard expected) = some next) : FencesInv next := by
  have fits := inv.slots _ (List.mem_of_getElem? here)
  cases taken
  refine readers_stored_inv inv here (by simp [Slot.refs])
    (slot_inv_kept fits fits.shaped (fun _ member => member) (.inr rfl)) ?_ (Nat.le_refl _) rfl ⟨rfl, rfl⟩ rfl ?_
  · simp [countsWeight]
  · intro other distinct
    exact ⟨by simp [countsWeight, Ne.symm distinct], rfl, rfl, rfl, rfl⟩

-- The recheck decides: a guard is handed out only while its fence is OPEN, so no
-- close has marked it, let alone drained it.
theorem counted_inv (here : state.slots[i]? = some (.counted guard expected))
    (taken : advanceSlot state i (.counted guard expected) = some next) : FencesInv next := by
  have fits := inv.slots _ (List.mem_of_getElem? here)
  have reads : guard.mode = .read := fits.shaped
  have notOwning : guard.owns = false := by simp [SessionFenceGuard.owns, reads]
  simp only [advanceSlot] at taken
  split at taken
  · cases taken
    exact moved_inv inv here (slot_inv_kept fits reads (fun _ member => member) (.inl rfl))
      fun id => ⟨rfl, rfl, rfl, rfl, rfl⟩
  · rename_i admits
    cases taken
    simp only [not_or, not_not] at admits
    have own := inv.census guard.fence
    obtain ⟨-, drains, -⟩ := open_has_no_owner own admits.1
    have fitsHeld : SlotInv state (.held guard expected) :=
      slot_inv_kept fits (fun _ => reads) (fun _ member => member) (.inr rfl)
    have balanced : ∀ id, countsWeight id (.held guard expected) = countsWeight id (.counted guard expected) ∧
        ownerWeight id (.held guard expected) = 0 ∧ drainedWeight id (.held guard expected) = 0 := by
      simp [countsWeight, ownerWeight, drainedWeight, reads, notOwning]
    refine framed_inv inv (framed_set_slot here fun id => rfl) (mem_set_fits state i _ fitsHeld) fun id => ?_
    change FenceInv (state.fence id) id (state.slots.set i (.held guard expected))
    by_cases same : id = guard.fence
    · subst same
      have counting := total_balanced _ _ here (balanced guard.fence).1
      have owning := total_balanced _ _ here (balanced guard.fence).2.1
      have draining := total_balanced _ _ here (balanced guard.fence).2.2
      have committing := total_balanced (.held guard expected) (committerWeight guard.fence) here rfl
      refine ⟨counting ▸ own.readers, owning ▸ own.owners, committing ▸ own.committers, committing ▸ own.stored, ?_, ?_⟩
      · intro terminal
        exact absurd admits.1 terminal.1
      · omega
    · refine fence_inv_balanced _ (inv.census id) here
        ⟨(balanced id).1, ?_, (balanced id).2.1, rfl, (balanced id).2.2⟩
      simp [guardWeight, Slot.readsFence, Ne.symm same]

theorem refused_inv (here : state.slots[i]? = some (.refused guard))
    (taken : advanceSlot state i (.refused guard) = some next) : FencesInv next := by
  have counted := weight_le_total (countsWeight guard.fence) (List.mem_of_getElem? here)
  rw [← (inv.census guard.fence).readers] at counted
  cases taken
  refine readers_stored_inv inv here (by simp [Slot.refs]) slot_inv_settled.2 ?_
    (Nat.le_refl _) rfl ⟨rfl, rfl⟩ rfl ?_
  · simp only [countsWeight, if_true] at counted ⊢
    omega
  · intro other distinct
    exact ⟨by simp [countsWeight, Ne.symm distinct], rfl, rfl, rfl, rfl⟩

theorem read_drop_inv (here : state.slots[i]? = some (.held guard expected)) (reads : guard.mode = .read) :
    FencesInv ((state.setReaders guard.fence ((state.fence guard.fence).readers - 1)).setSlot i .finished) := by
  have notOwning : guard.owns = false := by simp [SessionFenceGuard.owns, reads]
  have counted := weight_le_total (countsWeight guard.fence) (List.mem_of_getElem? here)
  rw [← (inv.census guard.fence).readers] at counted
  refine readers_stored_inv inv here (by simp [Slot.refs]) slot_inv_settled.1 ?_
    (Nat.zero_le _) ?_ ⟨rfl, rfl⟩ ?_ ?_
  · simp only [countsWeight, reads, true_and, if_true] at counted ⊢
    omega
  · simp [ownerWeight, notOwning]
  · simp [drainedWeight, notOwning]
  · intro other distinct
    constructor
    all_goals simp [countsWeight, guardWeight, ownerWeight, committerWeight, drainedWeight, Slot.readsFence, notOwning,
      Ne.symm distinct]

end Entry

variable {job : WriteJob}

theorem marked_weight_append {other : FenceId} :
    markedWeight other { job with marked := job.marked ++ [(session, id)] } =
      markedWeight other job + if id = other then 1 else 0 := by
  simp [markedWeight, List.countP_append, List.countP_singleton]

section Marking

variable {state : FenceState} (inv : FencesInv state) {i : Nat} {job : WriteJob}

include inv

theorem seeking_inv (here : state.slots[i]? = some (.seeking job))
    (taken : advanceSlot state i (.seeking job) = some next) : FencesInv next := by
  have fits := inv.slots _ (List.mem_of_getElem? here)
  have multiple : job.single = false := fits.shaped
  cases todo : job.todo with
  | nil =>
    simp only [advanceSlot, todo, Option.some.injEq] at taken
    subst taken
    refine moved_inv inv here (slot_inv_kept fits trivial (fun _ member => member) (.inl rfl))
      fun id => ⟨rfl, rfl, rfl, rfl, ?_⟩
    refine if_neg ?_
    rintro ⟨entry, member, -, fresh⟩
    exact fresh member
  | cons session rest =>
    simp only [advanceSlot, todo, Option.some.injEq] at taken
    subst taken
    obtain ⟨entered, slots, listed⟩ := entry_inv inv
    have kept : (state.entryOrInsert session).1.slots[i]? = some (.seeking job) := slots ▸ here
    have known := entered.slots _ (List.mem_of_getElem? kept)
    refine moved_inv entered kept ⟨?_, ?_, by simp [Slot.presents]⟩ fun id => ⟨rfl, rfl, rfl, rfl, rfl⟩
    · intro single
      rw [multiple] at single
      cases single
    · intro ref member
      rcases List.mem_cons.mp member with rfl | old
      · exact entered.table.listed _ _ listed
      · exact known.refs ref old

theorem marking_inv (here : state.slots[i]? = some (.marking job session id))
    (taken : advanceSlot state i (.marking job session id) = some next) : FencesInv next := by
  have fits := inv.slots _ (List.mem_of_getElem? here)
  have shaped : job.single = true → job.marked = [] := fits.shaped
  simp only [advanceSlot] at taken
  split at taken
  · cases taken
    exact moved_inv inv here (slot_inv_kept fits shaped (fun _ member => member) (.inl rfl))
      fun id => ⟨rfl, rfl, rfl, rfl, rfl⟩
  · split at taken
    · cases taken
      exact inv
    · split at taken
      · rename_i single
        cases taken
        refine moved_inv inv here slot_inv_settled.2 fun id => ⟨rfl, rfl, ?_, rfl, rfl⟩
        simp [ownerWeight, markedWeight, shaped single]
      · rename_i single
        cases taken
        exact moved_inv inv here (slot_inv_kept fits (Bool.eq_false_iff.mpr single)
          (fun _ member => List.mem_cons_of_mem _ member) (.inl rfl)) fun id => ⟨rfl, rfl, rfl, rfl, rfl⟩

theorem marked_inv (here : state.slots[i]? = some (.swapping job session id))
    (opened : (state.fence id).lifecycle = fenceOpen) (fits : SlotInv state after)
    (owner : ∀ other, ownerWeight other after = markedWeight other job + if id = other then 1 else 0)
    (silent : ∀ other, countsWeight other after = 0 ∧ guardWeight other after = 0 ∧ committerWeight other after = 0 ∧
      drainedWeight other after = 0) :
    FencesInv ((state.setLifecycle id fenceClosing).setSlot i after) := by
  have bound := ((inv.slots _ (List.mem_of_getElem? here)).refs (session, id) (by simp [Slot.refs])).1
  have own := inv.census id
  obtain ⟨owners, drains, committers⟩ := open_has_no_owner own opened
  have counting := total_balanced after (countsWeight id) here (silent id).1
  have committing := total_balanced after (committerWeight id) here (silent id).2.2.1
  have draining := total_balanced after (drainedWeight id) here (silent id).2.2.2
  have owning := total_set (ownerWeight id) after here
  have ownerBefore : ownerWeight id (.swapping job session id) = markedWeight id job := rfl
  have ownerAfter := owner id
  rw [if_pos rfl] at ownerAfter
  refine stored_inv inv here bound rfl rfl ?_ ?_ fits ?_ ?_
  · intro terminal
    exact absurd opened terminal.1
  · intro _
    exact .inl fun terminal => terminal.1 opened
  · refine ⟨counting ▸ own.readers, ?_, committing ▸ own.committers, ?_, ?_, ?_⟩
    · rw [if_pos rfl]
      omega
    · omega
    · intro terminal
      exact absurd rfl terminal.2
    · omega
  · intro other distinct
    refine ⟨(silent other).1, (silent other).2.1, ?_, (silent other).2.2.1, (silent other).2.2.2⟩
    rw [owner other, if_neg (Ne.symm distinct)]
    rfl

theorem swapping_inv (here : state.slots[i]? = some (.swapping job session id))
    (taken : advanceSlot state i (.swapping job session id) = some next) : FencesInv next := by
  have fits := inv.slots _ (List.mem_of_getElem? here)
  have shaped : job.single = true → job.marked = [] := fits.shaped
  have named : ∀ ref ∈ job.marked ++ [(session, id)], ref ∈ (session, id) :: job.marked := by
    simp [or_comm]
  simp only [advanceSlot] at taken
  split at taken
  · rename_i opened
    split at taken
    · cases taken
      refine marked_inv inv here opened
        (slot_inv_kept fits trivial named (.inl rfl)) (fun other => marked_weight_append)
        fun other => ⟨rfl, rfl, rfl, if_neg ?_⟩
      rintro ⟨entry, member, -, fresh⟩
      exact fresh member
    · rename_i single
      cases taken
      exact marked_inv inv here opened
        (slot_inv_kept fits (Bool.eq_false_iff.mpr single) named (.inl rfl))
        (fun other => marked_weight_append) fun other => ⟨rfl, rfl, rfl, rfl⟩
  · cases taken
    exact moved_inv inv here (slot_inv_kept fits shaped (fun _ member => member) (.inl rfl))
      fun id => ⟨rfl, rfl, rfl, rfl, rfl⟩

end Marking

section Settlement

variable {state : FenceState} (inv : FencesInv state) {i : Nat}

theorem total_guards (job : WriteJob) (weight : Slot → Nat) (id : FenceId)
    (each : ∀ entry : UInt64 × FenceId, weight (.held (.write entry.2 entry.1 job.epoch) none) = if entry.2 = id then 1 else 0) :
    total weight job.guards = markedWeight id job := by
  rw [WriteJob.guards, total_map, markedWeight]
  induction job.marked with
  | nil => rfl
  | cons entry rest ih =>
    rw [total_cons, ih, each, List.countP_cons]
    simp only [decide_eq_true_eq]
    omega

theorem total_guards_zero (job : WriteJob) (weight : Slot → Nat)
    (each : ∀ entry : UInt64 × FenceId, weight (.held (.write entry.2 entry.1 job.epoch) none) = 0) :
    total weight job.guards = 0 := by
  rw [WriteJob.guards, total_map]
  induction job.marked with
  | nil => rfl
  | cons entry rest ih => rw [total_cons, ih, each]

include inv

theorem drained_one_inv {entry : UInt64 × FenceId} {rest : List (UInt64 × FenceId)}
    (here : state.slots[i]? = some (.draining (entry :: rest) job)) (unread : (state.fence entry.2).readers = 0) :
    FencesInv (state.setSlot i (.draining rest job)) := by
  have fits := inv.slots _ (List.mem_of_getElem? here)
  refine framed_inv inv (framed_set_slot here fun id => rfl)
    (mem_set_fits state i _ (slot_inv_kept fits trivial (fun _ member => member) (.inl rfl))) fun id => ?_
  change FenceInv (state.fence id) id (state.slots.set i (.draining rest job))
  by_cases same : entry.2 = id
  · subst same
    have own := inv.census entry.2
    have none := guards_le_readers own
    have counting := total_balanced (.draining rest job) (countsWeight entry.2) here rfl
    have reading := total_balanced (.draining rest job) (guardWeight entry.2) here rfl
    have owning := total_balanced (.draining rest job) (ownerWeight entry.2) here rfl
    have committing := total_balanced (.draining rest job) (committerWeight entry.2) here rfl
    refine ⟨counting ▸ own.readers, owning ▸ own.owners, committing ▸ own.committers, committing ▸ own.stored,
      reading ▸ own.terminal, fun _ => ?_⟩
    omega
  · refine fence_inv_balanced _ (inv.census id) here ⟨rfl, rfl, rfl, rfl, ?_⟩
    have pending : ∀ other : UInt64 × FenceId, other.2 = id → (other ∉ rest ↔ other ∉ entry :: rest) := by
      rintro other rfl
      have distinct : other ≠ entry := fun equal => same (congrArg Prod.snd equal.symm)
      simp [distinct]
    simp only [drainedWeight]
    congr 1
    refine propext ⟨?_, ?_⟩
    · rintro ⟨other, member, here, fresh⟩
      exact ⟨other, member, here, (pending other here).mp fresh⟩
    · rintro ⟨other, member, here, fresh⟩
      exact ⟨other, member, here, (pending other here).mpr fresh⟩

theorem returned_inv (here : state.slots[i]? = some (.draining [] job)) :
    FencesInv { state with slots := state.slots.set i .finished ++ job.guards } := by
  have fits := inv.slots _ (List.mem_of_getElem? here)
  have committers : ∀ id, total (committerWeight id) (state.slots.set i .finished ++ job.guards) =
      total (committerWeight id) state.slots := by
    intro id
    rw [total_append, total_guards_zero job _ fun _ => rfl, total_balanced .finished _ here rfl, Nat.add_zero]
  refine framed_inv inv ⟨rfl, rfl, rfl, rfl, fun _ => rfl, fun _ => rfl, fun _ kept => kept, fun id live => ?_⟩ ?_ ?_
  · rcases live with unsettled | positive
    · exact .inl unsettled
    · exact .inr (committers id ▸ positive)
  · intro slot member
    rcases List.mem_append.mp member with old | new
    · exact mem_set_fits state i _ slot_inv_settled.1 slot old
    · obtain ⟨entry, marked, rfl⟩ := List.mem_map.mp new
      refine .inr ⟨by simp [Slot.shaped], ?_, by simp [Slot.presents]⟩
      intro ref named
      rw [List.mem_singleton.mp named]
      exact fits.refs entry marked
  · intro id
    have own := inv.census id
    have counting := total_balanced .finished (countsWeight id) here rfl
    have reading := total_balanced .finished (guardWeight id) here rfl
    have owning := total_set (ownerWeight id) .finished here
    have draining := total_set (drainedWeight id) .finished here
    have counted := total_guards_zero job (countsWeight id) fun _ => rfl
    have read := total_guards_zero job (guardWeight id) fun _ => rfl
    have owned := total_guards job (ownerWeight id) id fun entry => by simp [ownerWeight, SessionFenceGuard.write, SessionFenceGuard.owns]
    have drained := total_guards job (drainedWeight id) id fun entry => by
      simp [drainedWeight, SessionFenceGuard.write, SessionFenceGuard.owns]
    have ownerBefore : ownerWeight id (.draining [] job) = markedWeight id job := rfl
    have ownerAfter : ownerWeight id .finished = 0 := rfl
    have drainAfter : drainedWeight id .finished = 0 := rfl
    change FenceInv (state.fence id) id (state.slots.set i .finished ++ job.guards)
    refine ⟨?_, ?_, committers id ▸ own.committers, committers id ▸ own.stored, ?_, ?_⟩
    · rw [total_append, counting, counted]
      exact own.readers
    · rw [← own.owners, total_append]
      omega
    · rw [total_append, reading, read]
      exact own.terminal
    · rw [total_append, total_append, reading, read, drained]
      intro positive
      refine own.drained ?_
      by_cases marked : 0 < markedWeight id job
      · obtain ⟨entry, member, same⟩ := List.countP_pos_iff.mp marked
        have before : drainedWeight id (.draining [] job) = 1 := if_pos ⟨entry, member, by simpa using same, by simp⟩
        omega
      · omega

theorem draining_inv {pending : List (UInt64 × FenceId)} (here : state.slots[i]? = some (.draining pending job))
    (taken : advanceSlot state i (.draining pending job) = some next) : FencesInv next := by
  cases pending with
  | nil =>
    cases taken
    exact returned_inv inv here
  | cons entry rest =>
    simp only [advanceSlot] at taken
    split at taken
    · cases taken
      exact inv
    · rename_i unread
      cases taken
      exact drained_one_inv inv here (not_not.mp unread)

variable {expected : Option UInt64}

theorem released_inv {word : UInt64}
    (here : state.slots[i]? = some (.held guard expected)) (owns : guard.owns = true) (notClosing : word ≠ fenceClosing)
    (fits : SlotInv state after) (silent : ∀ id, countsWeight id after = 0 ∧ guardWeight id after = 0 ∧
      ownerWeight id after = 0 ∧ drainedWeight id after = 0)
    (committers : ∀ id, committerWeight id after = if word ≠ fenceOpen ∧ guard.fence = id then 1 else 0) :
    FencesInv ((state.setLifecycle guard.fence word).setSlot i after) := by
  have writes := owns_writes owns
  have bound := ((inv.slots _ (List.mem_of_getElem? here)).refs (guard.session, guard.fence) (by simp [Slot.refs])).1
  have own := inv.census guard.fence
  obtain ⟨closing, owned, unread, uncommitted⟩ :=
    owned_is_closing own (List.mem_of_getElem? here) owns rfl
  have counting := total_balanced after (countsWeight guard.fence) here
    (by rw [(silent guard.fence).1]; simp [countsWeight, writes])
  have reading := total_balanced after (guardWeight guard.fence) here
    (by rw [(silent guard.fence).2.1]; simp [guardWeight, Slot.readsFence, writes])
  have owning := total_set (ownerWeight guard.fence) after here
  have committing := total_set (committerWeight guard.fence) after here
  have ownerBefore : ownerWeight guard.fence (.held guard expected) = 1 := if_pos ⟨owns, rfl⟩
  have ownerAfter := (silent guard.fence).2.2.1
  have committerAfter := committers guard.fence
  refine stored_inv inv here bound rfl rfl ?_ ?_ fits ?_ ?_
  · intro terminal
    exact absurd closing terminal.2
  · intro _
    exact .inl fun terminal => terminal.2 closing
  · refine ⟨counting ▸ own.readers, ?_, ?_, ?_, fun _ => by omega, fun _ => by omega⟩
    · rw [if_neg notClosing]
      omega
    · split at committerAfter
      all_goals omega
    · intro positive
      split at committerAfter
      · rename_i ended
        exact ⟨ended.1, notClosing⟩
      · omega
  · intro other distinct
    have apart := Ne.symm distinct
    refine ⟨?_, ?_, ?_, ?_, ?_⟩
    · rw [(silent other).1]; simp [countsWeight, apart]
    · rw [(silent other).2.1]; simp [guardWeight, Slot.readsFence, apart]
    · rw [(silent other).2.2.1]; simp [ownerWeight, apart]
    · rw [committers other, if_neg fun both => apart both.2]; rfl
    · rw [(silent other).2.2.2]; simp [drainedWeight, apart]

theorem commit_close_inv (here : state.slots[i]? = some slot) (taken : commitCloseSlot state i slot = some next) : FencesInv next := by
  cases slot with
  | held guard expected =>
    have fits := inv.slots _ (List.mem_of_getElem? here)
    simp only [commitCloseSlot] at taken
    split at taken
    · rename_i owns
      cases taken
      have writes := owns_writes owns
      refine released_inv inv here owns terminal_epoch_ne_closing
        (slot_inv_kept fits writes (fun _ member => member) (.inl rfl)) (fun id => ⟨rfl, rfl, rfl, rfl⟩) fun id => ?_
      simp [committerWeight, terminal_epoch_ne_open]
    · cases taken
  | _ => cases taken

theorem reopened_inv (here : state.slots[i]? = some (.held guard expected)) (owns : guard.owns = true)
    (ended : after = .held { guard with settled := true } none ∨ after = .finished) :
    FencesInv ((state.setLifecycle guard.fence fenceOpen).setSlot i after) := by
  have writes := owns_writes owns
  rcases ended with rfl | rfl
  · refine released_inv inv here owns open_ne_closing
      (settled_slot_inv (inv.slots _ (List.mem_of_getElem? here)) (by simp [Slot.refs])) (fun id => ?_) fun id => ?_
    · simp [countsWeight, guardWeight, ownerWeight, drainedWeight, Slot.readsFence, SessionFenceGuard.owns, writes]
    · simp [committerWeight]
  · exact released_inv inv here owns open_ne_closing slot_inv_settled.1
      (fun id => ⟨rfl, rfl, rfl, rfl⟩) fun id => by simp [committerWeight]

theorem reopen_inv (here : state.slots[i]? = some slot) (taken : reopenSlot state i slot = some next) : FencesInv next := by
  cases slot with
  | held guard expected =>
    simp only [reopenSlot] at taken
    split at taken
    · rename_i owns
      cases taken
      exact reopened_inv inv here owns (.inl rfl)
    · cases taken
  | _ => cases taken

theorem drop_inv (here : state.slots[i]? = some slot) (taken : dropSlot state i slot = some next) : FencesInv next := by
  cases slot with
  | held guard expected =>
    cases mode : guard.mode with
    | read =>
      simp only [dropSlot, mode, Option.some.injEq] at taken
      subst taken
      exact read_drop_inv inv here mode
    | write =>
      simp only [dropSlot, mode] at taken
      split at taken
      · rename_i settled
        cases taken
        refine moved_inv inv here slot_inv_settled.1 fun id => ?_
        constructor
        all_goals simp [countsWeight, guardWeight, ownerWeight, committerWeight, drainedWeight, Slot.readsFence,
          SessionFenceGuard.owns, mode, settled]
      · rename_i settled
        cases taken
        exact reopened_inv inv here (by simp [SessionFenceGuard.owns, mode, settled]) (.inr rfl)
  | _ => cases taken

theorem committing_listed (here : state.slots[i]? = some (.committing guard)) :
    state.fences.lookup guard.session = some guard.fence ∧ (state.fence guard.fence).isTerminal ∧
      total (committerWeight guard.fence) state.slots = 1 := by
  have member := List.mem_of_getElem? here
  obtain ⟨bound, key⟩ := (inv.slots _ member).refs (guard.session, guard.fence) (by simp [Slot.refs])
  have positive := weight_le_total (committerWeight guard.fence) member
  simp only [committerWeight, if_true] at positive
  have own := inv.census guard.fence
  refine ⟨?_, own.stored positive, by have most := own.committers; omega⟩
  have found := inv.table.live guard.fence bound (.inr positive)
  rwa [key] at found

theorem committing_inv (here : state.slots[i]? = some (.committing guard))
    (taken : advanceSlot state i (.committing guard) = some next) : FencesInv next := by
  have fits := inv.slots _ (List.mem_of_getElem? here)
  have writes : guard.mode = .write := fits.shaped
  obtain ⟨listed, terminal, committers⟩ := committing_listed inv here
  have bound := (fits.refs (guard.session, guard.fence) (by simp [Slot.refs])).1
  simp only [advanceSlot, Option.some.injEq] at taken
  have fences : next.fences = state.fences.erase guard.session := by rw [← taken]
  have slots : next.slots = state.slots.set i (.held { guard with settled := true } none) := by rw [← taken]
  have heap : next.heap = state.heap := by rw [← taken]
  have counter : next.nextIncarnation = state.nextIncarnation := by rw [← taken]
  have committed : next.committed = (state.fence guard.fence).incarnation :: state.committed := by rw [← taken]
  have same : ∀ id, next.fence id = state.fence id := fun id => by rw [FenceState.fence, heap]; rfl
  have silent : ∀ id, countsWeight id (.held { guard with settled := true } none) = 0 ∧
      guardWeight id (.held { guard with settled := true } none) = 0 ∧
      ownerWeight id (.held { guard with settled := true } none) = 0 ∧
      drainedWeight id (.held { guard with settled := true } none) = 0 := by
    simp [countsWeight, guardWeight, ownerWeight, drainedWeight, Slot.readsFence, SessionFenceGuard.owns, writes]
  have moved := fun id => total_set (committerWeight id) (.held { guard with settled := true } none) here
  have committerAfter : ∀ id, committerWeight id (.held { guard with settled := true } none) = 0 := fun _ => rfl
  refine ⟨fun id => ?_, fun slot member => ?_, ?_⟩
  · rw [same, slots]
    have own := inv.census id
    have counting := total_balanced _ _ here (silent id).1
    have reading := total_balanced _ _ here (silent id).2.1
    have owning := total_balanced _ _ here (silent id).2.2.1
    have draining := total_balanced _ _ here (silent id).2.2.2
    have fewer := moved id
    rw [committerAfter] at fewer
    have most := own.committers
    refine ⟨counting ▸ own.readers, owning ▸ own.owners, by omega, fun positive => own.stored (by omega),
      reading ▸ own.terminal, ?_⟩
    rw [draining, reading]
    exact own.drained
  · rw [slots] at member
    refine slot_inv_grown state next slot ?_ (by rw [heap]) fun id _ => by rw [same]; exact ⟨rfl, rfl⟩
    rcases mem_set_fits state i _ (settled_slot_inv fits (by simp [Slot.refs])) slot member with old | fit
    · exact inv.slots slot old
    · exact fit
  · constructor
    · intro session id found
      rw [fences, dict_lookup_erase] at found
      split at found
      · cases found
      · rw [heap, same]
        exact inv.table.listed session id found
    · intro id inside live
      have alive : state.isLive id := by
        rcases live with unsettled | positive
        · exact .inl (same id ▸ unsettled)
        · have fewer := moved id
          rw [slots] at positive
          rw [committerAfter] at fewer
          exact .inr (by omega)
      have found := inv.table.live id (heap ▸ inside) alive
      rw [same, fences, dict_lookup_erase, if_neg, found]
      intro key
      rw [key, listed] at found
      cases found
      rcases live with unsettled | positive
      · exact unsettled (same _ ▸ terminal)
      · have fewer := moved guard.fence
        have before : committerWeight guard.fence (.committing guard) = 1 := if_pos rfl
        rw [slots] at positive
        rw [committerAfter] at fewer
        omega
    · rw [counter, heap]
      exact inv.table.counter
    · intro id inside
      rw [same]
      exact inv.table.drawn id (heap ▸ inside)
    · intro incarnation member
      rw [committed] at member
      rw [heap]
      rcases List.mem_cons.mp member with rfl | old
      · exact ⟨guard.fence, bound, by rw [same], by rw [same]; exact terminal⟩
      · obtain ⟨id, inside, equal, ended⟩ := inv.table.closed incarnation old
        exact ⟨id, inside, by rw [same]; exact equal, by rw [same]; exact ended⟩

end Settlement

end Pkcs11Proxy.Backend
