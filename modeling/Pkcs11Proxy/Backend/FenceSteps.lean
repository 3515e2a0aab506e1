import Pkcs11Proxy.Backend.FenceInvariant

namespace Pkcs11Proxy.Backend

open Lib

structure Framed (state next : FenceState) : Prop where
  fences : next.fences = state.fences
  counter : next.nextIncarnation = state.nextIncarnation
  committed : next.committed = state.committed
  length : next.heap.length = state.heap.length
  key : ∀ id, (next.fence id).key = (state.fence id).key
  incarnation : ∀ id, (next.fence id).incarnation = (state.fence id).incarnation
  terminal : ∀ id, (state.fence id).isTerminal → (next.fence id).isTerminal
  live : ∀ id, next.isLive id → state.isLive id

variable {state next : FenceState} {slot : Slot} {session : UInt64}

theorem table_inv_framed (inv : TableInv state) (framed : Framed state next) : TableInv next where
  listed session id found := by
    rw [framed.length, framed.key]
    exact inv.listed session id (framed.fences ▸ found)
  live id bound live := by
    rw [framed.fences, framed.key]
    exact inv.live id (framed.length ▸ bound) (framed.live id live)
  counter := by rw [framed.counter, framed.length, inv.counter]
  drawn id bound := (framed.incarnation id).trans (inv.drawn id (framed.length ▸ bound))
  closed incarnation member := by
    obtain ⟨id, bound, same, terminal⟩ := inv.closed incarnation (framed.committed ▸ member)
    exact ⟨id, framed.length.symm ▸ bound, (framed.incarnation id).trans same, framed.terminal id terminal⟩

theorem slot_inv_framed (inv : SlotInv state slot) (length : state.heap.length ≤ next.heap.length) (same : ∀ id, id < state.heap.length →
      (next.fence id).key = (state.fence id).key ∧ (next.fence id).incarnation = (state.fence id).incarnation)
    (named : ∀ id incarnation, slot.presents = some (id, incarnation) → id < state.heap.length) : SlotInv next slot where
  shaped := inv.shaped
  refs ref member := by
    obtain ⟨bound, key⟩ := inv.refs ref member
    exact ⟨lt_of_lt_of_le bound length, (same ref.2 bound).1.trans key⟩
  presented id incarnation presents :=
    (same id (named id incarnation presents)).2.trans (inv.presented id incarnation presents)

variable {id : FenceId}

theorem presents_names {incarnation : UInt64} (presents : slot.presents = some (id, incarnation)) :
    ∃ session, (session, id) ∈ slot.refs := by
  cases slot with
  | fetched guard expected | admitted guard expected | counted guard expected | held guard expected =>
    simp only [Slot.presents, Option.map_eq_some_iff, Prod.mk.injEq] at presents
    obtain ⟨_, _, same, _⟩ := presents
    exact ⟨guard.session, by simp [Slot.refs, same]⟩
  | _ => simp [Slot.presents] at presents

theorem slot_inv_grown (state next : FenceState) (slot : Slot) (inv : SlotInv state slot) (length : state.heap.length ≤ next.heap.length)
    (same : ∀ id, id < state.heap.length →
      (next.fence id).key = (state.fence id).key ∧ (next.fence id).incarnation = (state.fence id).incarnation) :
    SlotInv next slot := by
  refine slot_inv_framed inv length same fun id incarnation presents => ?_
  obtain ⟨session, member⟩ := presents_names presents
  exact (inv.refs _ member).1

theorem framed_inv (inv : FencesInv state) (framed : Framed state next)
    (fits : ∀ slot ∈ next.slots, slot ∈ state.slots ∨ SlotInv state slot)
    (census : ∀ id, FenceInv (next.fence id) id next.slots) : FencesInv next where
  census := census
  table := table_inv_framed inv.table framed
  slots slot member := by
    refine slot_inv_grown state next slot ?_ framed.length.ge fun id _ => ⟨framed.key id, framed.incarnation id⟩
    rcases fits slot member with old | fit
    · exact inv.slots slot old
    · exact fit

theorem mem_set_fits (state : FenceState) (i : Nat) (after : Slot) (fits : SlotInv state after) :
    ∀ slot ∈ state.slots.set i after, slot ∈ state.slots ∨ SlotInv state slot :=
  forall_set (fun _ => .inl) (.inr fits)

structure Balanced (id : FenceId) (before after : Slot) : Prop where
  counts : countsWeight id after = countsWeight id before
  guards : guardWeight id after = guardWeight id before
  owners : ownerWeight id after = ownerWeight id before
  committers : committerWeight id after = committerWeight id before
  drains : drainedWeight id after = drainedWeight id before

section Census

variable {fence : SessionFence} {id : FenceId} {slots : List Slot} {i : Nat} {before : Slot} (after : Slot)

theorem total_balanced (weight : Slot → Nat) (here : slots[i]? = some before) (same : weight after = weight before) :
    total weight (slots.set i after) = total weight slots := by
  have moved := total_set weight after here
  omega

theorem fence_inv_balanced (inv : FenceInv fence id slots) (here : slots[i]? = some before) (same : Balanced id before after) :
    FenceInv fence id (slots.set i after) := by
  have counts := total_balanced after _ here same.counts
  have guards := total_balanced after _ here same.guards
  have owners := total_balanced after _ here same.owners
  have committers := total_balanced after _ here same.committers
  have drains := total_balanced after _ here same.drains
  constructor
  · rw [counts]; exact inv.readers
  · rw [owners]; exact inv.owners
  · rw [committers]; exact inv.committers
  · rw [committers]; exact inv.stored
  · rw [guards]; exact inv.terminal
  · rw [drains, guards]; exact inv.drained

end Census

variable {before : Slot} {i : Nat} {after : Slot}

theorem framed_set_slot (here : state.slots[i]? = some before)
    (same : ∀ id, committerWeight id after = committerWeight id before) : Framed state (state.setSlot i after) where
  fences := rfl
  counter := rfl
  committed := rfl
  length := rfl
  key _ := rfl
  incarnation _ := rfl
  terminal _ terminal := terminal
  live id live := by
    have moved := total_balanced after _ here (same id)
    rcases live with unsettled | positive
    · exact .inl unsettled
    · exact .inr (moved ▸ positive)

section

variable (inv : FencesInv state)

include inv

theorem moved_inv
    (here : state.slots[i]? = some before) (fits : SlotInv state after) (same : ∀ id, Balanced id before after) :
    FencesInv (state.setSlot i after) := by
  refine framed_inv inv (framed_set_slot here fun id => (same id).committers)
    (mem_set_fits state i after fits) fun id => ?_
  exact fence_inv_balanced after (inv.census id) here (same id)

theorem stored_inv
    {value : SessionFence} (here : state.slots[i]? = some before) (bound : id < state.heap.length)
    (key : value.key = (state.fence id).key) (incarnation : value.incarnation = (state.fence id).incarnation)
    (terminal : (state.fence id).isTerminal → value.isTerminal) (live : ¬ value.isTerminal ∨ 0 < committerWeight id after → state.isLive id)
    (fits : SlotInv state after) (own : FenceInv value id (state.slots.set i after))
    (others : ∀ other, other ≠ id → Balanced other before after) :
    FencesInv ((state.setFence id value).setSlot i after) := by
  have read : ∀ other, ((state.setFence id value).setSlot i after).fence other =
      if other = id then value else state.fence other := fun other => fence_set_fence state id other bound
  refine framed_inv inv ?_ (mem_set_fits state i after fits) fun other => ?_
  · refine ⟨rfl, rfl, rfl, List.length_set, fun other => ?_, fun other => ?_, fun other => ?_, fun other => ?_⟩
    · rw [read]
      split
      · rename_i same; rw [same, key]
      · rfl
    · rw [read]
      split
      · rename_i same; rw [same, incarnation]
      · rfl
    · rw [read]
      split
      · rename_i same; rw [same]; exact terminal
      · exact fun terminal => terminal
    · intro alive
      by_cases same : other = id
      · subst same
        rcases alive with unsettled | positive
        · rw [read, if_pos rfl] at unsettled
          exact live (.inl unsettled)
        · have moved := total_set (committerWeight other) after here
          by_cases counted : 0 < committerWeight other after
          · exact live (.inr counted)
          · refine .inr ?_
            change 0 < total (committerWeight other) (state.slots.set i after) at positive
            omega
      · have moved := total_balanced after _ here (others other same).committers
        rcases alive with unsettled | positive
        · rw [read, if_neg same] at unsettled
          exact .inl unsettled
        · exact .inr (moved ▸ positive)
  · rw [read]
    split
    · rename_i same; rw [same]; exact own
    · rename_i distinct
      exact fence_inv_balanced after (inv.census other) here (others other distinct)

theorem added_inv (fits : SlotInv state slot) (weightless : ∀ id, Balanced id .finished slot) : FencesInv (state.addSlot slot) := by
  have grown : ∀ weight : Slot → Nat, weight slot = 0 →
      total weight (state.addSlot slot).slots = total weight state.slots := by
    intro weight zero
    simp [FenceState.addSlot, total_append, total_cons, total_nil, zero]
  have committers := fun id => grown (committerWeight id) (weightless id).committers
  refine framed_inv inv ⟨rfl, rfl, rfl, rfl, fun _ => rfl, fun _ => rfl, fun _ kept => kept, fun id live => ?_⟩ ?_ ?_
  · rcases live with unsettled | positive
    · exact .inl unsettled
    · exact .inr (committers id ▸ positive)
  · intro other member
    simp only [FenceState.addSlot, List.mem_append, List.mem_singleton] at member
    rcases member with old | rfl
    · exact .inl old
    · exact .inr fits
  · intro id
    have counts := grown (countsWeight id) (weightless id).counts
    have guards := grown (guardWeight id) (weightless id).guards
    have owners := grown (ownerWeight id) (weightless id).owners
    have drains := grown (drainedWeight id) (weightless id).drains
    have own := inv.census id
    constructor
    · rw [counts]; exact own.readers
    · rw [owners]; exact own.owners
    · rw [committers]; exact own.committers
    · rw [committers]; exact own.stored
    · rw [guards]; exact own.terminal
    · rw [drains, guards]; exact own.drained

theorem created_inv (absent : state.fences.lookup session = none) : FencesInv (state.entryOrInsert session).1 := by
  have created : (state.entryOrInsert session).1 =
      { state with
          nextIncarnation := state.nextIncarnation + 1
          heap := state.heap ++ [SessionFence.new state.nextIncarnation session]
          fences := state.fences.insert session state.heap.length } := by
    simp only [FenceState.entryOrInsert, absent]
  rw [created]
  generalize new : ({ state with
      nextIncarnation := state.nextIncarnation + 1
      heap := state.heap ++ [SessionFence.new state.nextIncarnation session]
      fences := state.fences.insert session state.heap.length } : FenceState) = next
  have slots : next.slots = state.slots := by rw [← new]
  have length : next.heap.length = state.heap.length + 1 := by rw [← new]; simp
  have old : ∀ id, id < state.heap.length → next.fence id = state.fence id := by
    intro id bound
    rw [← new]
    simp [FenceState.fence, List.getElem?_append_left bound]
  have fresh : next.fence state.heap.length = SessionFence.new state.nextIncarnation session := by
    rw [← new]
    simp [FenceState.fence]
  have unread := inv.census state.heap.length
  rw [fence_unallocated state _ (Nat.le_refl _)] at unread
  refine ⟨fun id => ?_, fun slot member => ?_, ?_⟩
  · rw [slots]
    rcases Nat.lt_trichotomy id state.heap.length with below | same | above
    · rw [old id below]
      exact inv.census id
    · rw [same, fresh]
      exact ⟨unread.readers, unread.owners, unread.committers, unread.stored, unread.terminal, unread.drained⟩
    · rw [fence_unallocated next id (by omega), ← fence_unallocated state id (by omega)]
      exact inv.census id
  · refine slot_inv_grown state next slot (inv.slots slot (slots ▸ member)) (by omega) fun id bound => ?_
    rw [old id bound]
    exact ⟨rfl, rfl⟩
  · have table : next.fences = state.fences.insert session state.heap.length := by rw [← new]
    have counter : next.nextIncarnation = state.nextIncarnation + 1 := by rw [← new]
    have below : ∀ id, id < next.heap.length → id < state.heap.length ∨ id = state.heap.length := by omega
    have newest : state.heap.length < next.heap.length := by omega
    have above : ∀ id, id < state.heap.length → id < next.heap.length := by omega
    constructor
    · intro other id found
      rw [table, dict_lookup_insert] at found
      split at found
      · rename_i same
        cases found
        exact ⟨newest, by rw [fresh, same]; rfl⟩
      · obtain ⟨bound, key⟩ := inv.table.listed other id found
        exact ⟨above id bound, by rw [old id bound]; exact key⟩
    · intro id bound live
      rw [table, dict_lookup_insert]
      rcases below id bound with bound | rfl
      · have found := inv.table.live id bound (by simpa only [FenceState.isLive, old id bound, slots] using live)
        rw [old id bound, if_neg fun same => by rw [same, absent] at found; cases found]
        exact found
      · rw [fresh]
        exact if_pos rfl
    · rw [counter, inv.table.counter, length]
      exact (UInt64.ofNat_add _ _).symm
    · intro id bound
      rcases below id bound with bound | rfl
      · rw [old id bound]
        exact inv.table.drawn id bound
      · rw [fresh]
        exact inv.table.counter
    · intro incarnation member
      have kept : next.committed = state.committed := by rw [← new]
      obtain ⟨id, bound, same, terminal⟩ := inv.table.closed incarnation (kept ▸ member)
      exact ⟨id, above id bound, by rw [old id bound]; exact same, by rw [old id bound]; exact terminal⟩

theorem entry_inv :
    FencesInv (state.entryOrInsert session).1 ∧ (state.entryOrInsert session).1.slots = state.slots ∧
      (state.entryOrInsert session).1.fences.lookup session = some (state.entryOrInsert session).2 := by
  cases found : state.fences.lookup session with
  | some id =>
    have same : state.entryOrInsert session = (state, id) := by simp only [FenceState.entryOrInsert, found]
    rw [same]
    exact ⟨inv, rfl, found⟩
  | none =>
    refine ⟨created_inv inv found, ?_, ?_⟩
    · simp only [FenceState.entryOrInsert, found]
    · simp [FenceState.entryOrInsert, found]

end

end Pkcs11Proxy.Backend
