import Pkcs11Proxy.Backend.SessionFence

namespace Pkcs11Proxy.Backend

open Lib

-- What one slot contributes to a fence: a counted reader, a read guard, a close
-- that marked it and has not settled, a `commit_close` between its two steps, and
-- a close whose drain of this fence is over.
def countsWeight (id : FenceId) : Slot → Nat
  | .counted guard _ => if guard.fence = id then 1 else 0
  | .refused guard => if guard.fence = id then 1 else 0
  | .held guard _ => if guard.mode = .read ∧ guard.fence = id then 1 else 0
  | _ => 0

def guardWeight (id : FenceId) (slot : Slot) : Nat := if slot.readsFence id then 1 else 0

def markedWeight (id : FenceId) (job : WriteJob) : Nat := job.marked.countP fun entry => entry.2 = id

def ownerWeight (id : FenceId) : Slot → Nat
  | .seeking job => markedWeight id job
  | .marking job _ _ => markedWeight id job
  | .swapping job _ _ => markedWeight id job
  | .draining _ job => markedWeight id job
  | .held guard _ => if guard.owns ∧ guard.fence = id then 1 else 0
  | _ => 0

def committerWeight (id : FenceId) : Slot → Nat
  | .committing guard => if guard.fence = id then 1 else 0
  | _ => 0

def drainedWeight (id : FenceId) : Slot → Nat
  | .draining pending job => if ∃ entry ∈ job.marked, entry.2 = id ∧ entry ∉ pending then 1 else 0
  | .held guard _ => if guard.owns ∧ guard.fence = id then 1 else 0
  | _ => 0

def SessionFence.isTerminal (fence : SessionFence) : Prop :=
  fence.lifecycle ≠ fenceOpen ∧ fence.lifecycle ≠ fenceClosing

structure FenceInv (fence : SessionFence) (id : FenceId) (slots : List Slot) : Prop where
  readers : fence.readers = total (countsWeight id) slots
  owners : total (ownerWeight id) slots = if fence.lifecycle = fenceClosing then 1 else 0
  committers : total (committerWeight id) slots ≤ 1
  stored : 0 < total (committerWeight id) slots → fence.isTerminal
  terminal : fence.isTerminal → total (guardWeight id) slots = 0
  drained : 0 < total (drainedWeight id) slots → total (guardWeight id) slots = 0

def Slot.refs : Slot → List (UInt64 × FenceId)
  | .fetched guard _ => [(guard.session, guard.fence)]
  | .admitted guard _ => [(guard.session, guard.fence)]
  | .counted guard _ => [(guard.session, guard.fence)]
  | .refused guard => [(guard.session, guard.fence)]
  | .seeking job => job.marked
  | .marking job session id => (session, id) :: job.marked
  | .swapping job session id => (session, id) :: job.marked
  | .draining _ job => job.marked
  | .held guard _ => [(guard.session, guard.fence)]
  | .committing guard => [(guard.session, guard.fence)]
  | .sessionHandleInvalid => []
  | .finished => []

def Slot.presents : Slot → Option (FenceId × UInt64)
  | .fetched guard expected => expected.map fun presented => (guard.fence, presented)
  | .admitted guard expected => expected.map fun presented => (guard.fence, presented)
  | .counted guard expected => expected.map fun presented => (guard.fence, presented)
  | .held guard expected => expected.map fun presented => (guard.fence, presented)
  | _ => none

def Slot.shaped : Slot → Prop
  | .fetched guard _ => guard.mode = .read
  | .admitted guard _ => guard.mode = .read
  | .counted guard _ => guard.mode = .read
  | .refused guard => guard.mode = .read
  | .seeking job => job.single = false
  | .marking job _ _ => job.single = true → job.marked = []
  | .swapping job _ _ => job.single = true → job.marked = []
  | .held guard expected => expected.isSome → guard.mode = .read
  | .committing guard => guard.mode = .write
  | _ => True

structure SlotInv (state : FenceState) (slot : Slot) : Prop where
  shaped : slot.shaped
  refs : ∀ ref ∈ slot.refs, ref.2 < state.heap.length ∧ (state.fence ref.2).key = ref.1
  presented : ∀ id incarnation, slot.presents = some (id, incarnation) → (state.fence id).incarnation = incarnation

def FenceState.isLive (state : FenceState) (id : FenceId) : Prop :=
  ¬ (state.fence id).isTerminal ∨ 0 < total (committerWeight id) state.slots

structure TableInv (state : FenceState) : Prop where
  listed : ∀ session id, state.fences.lookup session = some id → id < state.heap.length ∧ (state.fence id).key = session
  live : ∀ id, id < state.heap.length → state.isLive id → state.fences.lookup (state.fence id).key = some id
  counter : state.nextIncarnation = UInt64.ofNat (state.heap.length + 1)
  drawn : ∀ id, id < state.heap.length → (state.fence id).incarnation = UInt64.ofNat (id + 1)
  closed : ∀ incarnation ∈ state.committed, ∃ id, id < state.heap.length ∧
    (state.fence id).incarnation = incarnation ∧ (state.fence id).isTerminal

structure FencesInv (state : FenceState) : Prop where
  census : ∀ id, FenceInv (state.fence id) id state.slots
  slots : ∀ slot ∈ state.slots, SlotInv state slot
  table : TableInv state

theorem fences_inv_initial : FencesInv FenceState.initial where
  census id := ⟨rfl, rfl, Nat.zero_le _, fun positive => absurd positive (Nat.lt_irrefl 0), fun _ => rfl, fun _ => rfl⟩
  slots slot member := by simp [FenceState.initial] at member
  table := by
    constructor
    all_goals simp [FenceState.initial]

section Words

theorem terminal_epoch_bound (epoch : UInt64) : (terminalEpoch epoch).toNat < fenceClosing.toNat := by
  have clamp : (fenceClosing - 1).toNat < fenceClosing.toNat := by decide
  change (if epoch ≤ fenceClosing - 1 then epoch else fenceClosing - 1).toNat < fenceClosing.toNat
  split
  · rename_i below
    exact lt_of_le_of_lt (UInt64.le_iff_toNat_le.mp below) clamp
  · exact clamp

theorem terminal_epoch_ne_closing {epoch : UInt64} : terminalEpoch epoch ≠ fenceClosing := by
  intro same
  have bound := terminal_epoch_bound epoch
  rw [same] at bound
  exact Nat.lt_irrefl _ bound

theorem terminal_epoch_ne_open (epoch : UInt64) : terminalEpoch epoch ≠ fenceOpen := by
  intro same
  have bound := terminal_epoch_bound epoch
  rw [same] at bound
  exact absurd bound (by decide)

theorem open_ne_closing : fenceOpen ≠ fenceClosing := by decide

end Words

variable {fence : SessionFence} {slots : List Slot}

section Memory

variable (state : FenceState) (id other : FenceId)

theorem fence_set_fence (bound : id < state.heap.length) :
    (state.setFence id fence).fence other = if other = id then fence else state.fence other := by
  by_cases same : other = id
  · subst same
    simp [FenceState.fence, FenceState.setFence, bound]
  · simp [FenceState.fence, FenceState.setFence, same, Ne.symm same]

theorem fence_unallocated (absent : state.heap.length ≤ id) : state.fence id = SessionFence.new 0 0 := by
  simp [FenceState.fence, absent]

end Memory

section Weights

variable {id : FenceId} {slot : Slot}

theorem guard_le_counts : guardWeight id slot ≤ countsWeight id slot := by
  cases slot with
  | held guard expected => simp [guardWeight, countsWeight, Slot.readsFence]
  | _ => simp [guardWeight, Slot.readsFence]

theorem drained_le_owner : drainedWeight id slot ≤ ownerWeight id slot := by
  cases slot with
  | draining pending job =>
    simp only [drainedWeight, ownerWeight, markedWeight]
    split
    · rename_i finished
      obtain ⟨entry, member, same, -⟩ := finished
      exact List.countP_pos_iff.mpr ⟨entry, member, by simpa using same⟩
    · exact Nat.zero_le _
  | held guard expected => exact Nat.le_refl _
  | _ => exact Nat.zero_le _

theorem guards_le_readers (inv : FenceInv fence id slots) :
    total (guardWeight id) slots ≤ fence.readers := by
  rw [inv.readers]
  exact total_le_total _ _ slots fun slot _ => guard_le_counts

theorem drained_le_owners : total (drainedWeight id) slots ≤ total (ownerWeight id) slots :=
  total_le_total _ _ slots fun _ _ => drained_le_owner

theorem open_has_no_owner (inv : FenceInv fence id slots) (same : fence.lifecycle = fenceOpen) :
    total (ownerWeight id) slots = 0 ∧ total (drainedWeight id) slots = 0 ∧ total (committerWeight id) slots = 0 := by
  have owners : total (ownerWeight id) slots = 0 := by rw [inv.owners, same, if_neg open_ne_closing]
  refine ⟨owners, Nat.le_zero.mp (owners ▸ drained_le_owners), ?_⟩
  by_contra positive
  exact (inv.stored (Nat.pos_of_ne_zero positive)).1 same

theorem owned_is_closing (inv : FenceInv fence id slots) {guard : SessionFenceGuard}
    {expected : Option UInt64} (member : Slot.held guard expected ∈ slots) (owns : guard.owns = true) (same : guard.fence = id) :
    fence.lifecycle = fenceClosing ∧ total (ownerWeight id) slots = 1 ∧ total (guardWeight id) slots = 0 ∧
      total (committerWeight id) slots = 0 := by
  have owner := weight_le_total (ownerWeight id) member
  have drain := weight_le_total (drainedWeight id) member
  simp only [ownerWeight, drainedWeight, owns, same, and_self, if_true] at owner drain
  have closing : fence.lifecycle = fenceClosing := by
    by_contra other
    rw [inv.owners, if_neg other] at owner
    omega
  refine ⟨closing, by rw [inv.owners, if_pos closing], inv.drained drain, ?_⟩
  by_contra positive
  exact (inv.stored (Nat.pos_of_ne_zero positive)).2 closing

end Weights

end Pkcs11Proxy.Backend
