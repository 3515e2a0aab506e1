import Mathlib.Algebra.GroupWithZero.Nat
import Pkcs11Proxy.Types.Layout

namespace Pkcs11Proxy.Types

open Lib

section Walks

variable {α : Type} (feed : α → Nat × Nat → α) (abi : ParamAbi)

def feedGap (fed : α) (prevEnd start : Nat) : α := if start > prevEnd then feed fed (prevEnd, start - prevEnd) else fed

def walkInner (start : Nat) : α → Nat → Nat → List LeafClass → α × Nat
  | fed, prevEnd, _, [] => (fed, prevEnd)
  | fed, prevEnd, innerOffset, leaf :: rest =>
    let leafStart := start + alignUp innerOffset (leaf.align abi)
    walkInner start (feedGap feed fed prevEnd leafStart) (leafStart + leaf.size abi) (alignUp innerOffset (leaf.align abi) + leaf.size abi) rest

-- The walk of hash_pads and pad_count_of, which differ in what they do with a range.
def walkPads (native : Nat) : α → Nat → Nat → List FieldClass → α
  | fed, prevEnd, _, [] => feedGap feed fed prevEnd native
  | fed, prevEnd, offset, field :: rest =>
    let start := alignUp offset (field.align abi)
    let walked := match field with
      | .nested inner => walkInner feed abi start fed prevEnd 0 inner
      | .leaf _ => (feedGap feed fed prevEnd start, start + field.size abi)
    walkPads native walked.1 walked.2 (start + field.size abi) rest

end Walks

def hashRange (hash : UInt64) (range : Nat × Nat) : UInt64 := fnvLe32 (fnvLe32 hash (UInt32.ofNat range.1)) (UInt32.ofNat range.2)

section

variable (hash : UInt64) (fields : List FieldClass) (abi : ParamAbi)

def hashLeaves : UInt64 := hashRanges hash (leafRanges fields abi)

def hashPads : UInt64 :=
  walkPads hashRange abi (nativeSizeOf fields abi) hash 0 0 fields

def padCountOf : Nat :=
  walkPads (fun count _ => count + 1) abi (nativeSizeOf fields abi) 0 0 0 fields

def padsFed : List (Nat × Nat) :=
  walkPads (fun fed range => fed ++ [range]) abi (nativeSizeOf fields abi) [] 0 0 fields

end

def offsetAfter (abi : ParamAbi) : Nat → List FieldClass → Nat
  | offset, [] => offset
  | offset, field :: rest => offsetAfter abi (alignUp offset (field.align abi) + field.size abi) rest

-- An index outside of the fields panics.
def fieldOffsetOf (fields : List FieldClass) (abi : ParamAbi) (index : Nat) : Option Nat :=
  fields[index]?.map fun field => alignUp (offsetAfter abi 0 (fields.take index)) (field.align abi)

variable {start : Nat}

section Leaves

variable (abi : ParamAbi) {fields : List FieldClass} {leaf : LeafClass × Nat}

theorem leaf_align_pos (leafClass : LeafClass) : 0 < leafClass.align abi := by
  cases leafClass with
  | bytes length => exact Nat.one_pos
  | _ => cases abi <;> decide

theorem field_align_pos (field : FieldClass) : 0 < field.align abi := by
  cases field with
  | leaf leafClass => exact leaf_align_pos abi leafClass
  | nested inner => exact struct_align_pos

def leafRange (leaf : LeafClass × Nat) : Nat × Nat := (leaf.2, leaf.1.size abi)

def fieldRanges (field : FieldClass × Nat) : List (Nat × Nat) := (fieldLeaves abi field).map (leafRange abi)

theorem leaf_ranges_eq (fields : List FieldClass) :
    leafRanges fields abi = (placed (FieldClass.size abi) (FieldClass.align abi) 0 fields).flatMap (fieldRanges abi) :=
  List.map_flatMap

theorem field_ascends {field : FieldClass} : Ascends start (fieldRanges abi (field, start)) (start + field.size abi) := by
  cases field with
  | leaf leafClass => exact ⟨Nat.le_refl _, Nat.le_refl _⟩
  | nested inner =>
    rw [fieldRanges, fieldLeaves, List.map_map, List.map_eq_flatMap]
    apply struct_ascends (leaf_align_pos abi) start
    exact fun leaf at_ => ⟨Nat.le_refl _, Nat.le_of_eq (Nat.add_assoc _ _ _)⟩

theorem leaves_ascend (fields : List FieldClass) : Ascends 0 (leafRanges fields abi) (nativeSizeOf fields abi) := by
  have members := struct_ascends (field_align_pos abi) 0 (fieldRanges abi)
    (fun field start => by simpa using field_ascends abi) fields
  rwa [← leaf_ranges_eq, Nat.zero_add] at members

theorem first_unsafe_eq (fields : List FieldClass) : firstUnsafeOffsetOf fields abi =
    (leavesOf fields abi).findSome? fun leaf => if leaf.1.carriesReference then some leaf.2 else none := by
  have each : ∀ field : FieldClass × Nat, (fieldMark abi field.1).map (field.2 + ·) =
      (fieldLeaves abi field).findSome? fun leaf => if leaf.1.carriesReference then some leaf.2 else none := by
    rintro ⟨field, start⟩
    cases field with
    | leaf leafClass => cases carries : leafClass.carriesReference <;> simp [fieldMark, leafMark, fieldLeaves, carries]
    | nested inner =>
      rw [fieldMark, first_marked_eq, fieldLeaves, List.findSome?_map, List.map_findSome?]
      congr 1
      funext leaf
      cases carries : leaf.1.carriesReference <;> simp [leafMark, carries]
  rw [firstUnsafeOffsetOf, first_marked_eq, leavesOf, find_some_flat_map]
  simp only [each]

theorem first_unsafe_found {first : Nat} (found : firstUnsafeOffsetOf fields abi = some first) :
    (∃ leaf ∈ leavesOf fields abi, leaf.1.carriesReference = true ∧ leaf.2 = first) ∧
      ∀ leaf ∈ leavesOf fields abi, leaf.1.carriesReference = true → first ≤ leaf.2 := by
  rw [first_unsafe_eq] at found
  obtain ⟨before, leaf, after, split, here, skipped⟩ := List.findSome?_eq_some_iff.mp found
  have ordered := ascends_pairwise (leaves_ascend abi fields)
  rw [leafRanges, split, List.map_append, List.map_cons, List.pairwise_append, List.pairwise_cons] at ordered
  split at here <;> cases here
  rename_i carries
  rw [split]
  refine ⟨⟨leaf, by simp, carries, rfl⟩, fun other member marked => ?_⟩
  rcases List.mem_append.mp member with earlier | rest
  · have unmarked := skipped other earlier
    simp [marked] at unmarked
  · rcases List.mem_cons.mp rest with rfl | later
    · exact Nat.le_refl _
    · have above := ordered.2.1.1 _ (List.mem_map_of_mem later)
      exact Nat.le_trans (Nat.le_add_right _ _) above

theorem first_unsafe_le (member : leaf ∈ leavesOf fields abi)
    (carries : leaf.1.carriesReference = true) : ∃ first, firstUnsafeOffsetOf fields abi = some first ∧ first ≤ leaf.2 := by
  cases found : firstUnsafeOffsetOf fields abi with
  | none =>
    rw [first_unsafe_eq, List.findSome?_eq_none_iff] at found
    have unmarked := found leaf member
    simp [carries] at unmarked
  | some first => exact ⟨first, rfl, (first_unsafe_found abi found).2 leaf member carries⟩

end Leaves

section Pads

variable {start stop : Nat} {ranges : List (Nat × Nat)}

variable (ascends : Ascends start ranges stop)

include ascends

theorem pads_ascend : Ascends start (padRanges stop start ranges) stop := by
  induction ranges generalizing start with
  | nil =>
    rw [padRanges]
    split
    · exact ⟨Nat.le_refl _, Nat.le_of_eq (Nat.add_sub_of_le ascends)⟩
    · exact ascends
  | cons range rest ih =>
    obtain ⟨before, later⟩ := ascends
    rw [padRanges]
    split
    · refine ⟨Nat.le_refl _, ascends_from ?_ (ih later)⟩
      dsimp only
      omega
    · exact ascends_from (by omega) (ih later)

theorem pads_apart :
    ∀ range ∈ ranges, ∀ pad ∈ padRanges stop start ranges, range.1 + range.2 ≤ pad.1 ∨ pad.1 + pad.2 ≤ range.1 := by
  induction ranges generalizing start with
  | nil => exact fun _ member => nomatch member
  | cons head rest ih =>
    obtain ⟨before, later⟩ := ascends
    intro range member pad padded
    have ranged : head.1 ≤ range.1 := by
      rcases List.mem_cons.mp member with rfl | inside
      · exact Nat.le_refl _
      · exact Nat.le_trans (Nat.le_add_right _ _) ((ascends_within later).2 range inside).1
    rw [padRanges, List.mem_append] at padded
    rcases padded with gap | rest
    · right
      split at gap
      · cases List.mem_singleton.mp gap
        dsimp only
        omega
      · cases gap
    · rcases List.mem_cons.mp member with rfl | inside
      · exact .inl ((ascends_within (pads_ascend later)).2 pad rest).1
      · exact ih later range inside pad rest

theorem pads_cover {offset : Nat} (above : start ≤ offset) (below : offset < stop) :
    ∃ range ∈ ranges ++ padRanges stop start ranges, range.1 ≤ offset ∧ offset < range.1 + range.2 := by
  induction ranges generalizing start with
  | nil =>
    rw [padRanges, if_pos (Nat.lt_of_le_of_lt above below)]
    exact ⟨_, List.mem_singleton_self _, above, by dsimp only; omega⟩
  | cons head rest ih =>
    rw [padRanges]
    by_cases gap : offset < head.1
    · rw [if_pos (Nat.lt_of_le_of_lt above gap)]
      exact ⟨(start, head.1 - start), by simp, above, by dsimp only; omega⟩
    · by_cases inside : offset < head.1 + head.2
      · exact ⟨head, by simp, Nat.le_of_not_lt gap, inside⟩
      · obtain ⟨range, member, covers⟩ := ih ascends.2 (Nat.le_of_not_lt inside)
        refine ⟨range, ?_, covers⟩
        rw [List.mem_append] at member ⊢
        exact member.imp (List.mem_cons_of_mem _) (List.mem_append_right _)

end Pads

section Walks

variable {α : Type} (feed : α → Nat × Nat → α) {abi : ParamAbi}

theorem feed_gap (fed : α) (prevEnd start : Nat) (pads : List (Nat × Nat)) :
    ((if start > prevEnd then [(prevEnd, start - prevEnd)] else []) ++ pads).foldl feed fed = pads.foldl feed (feedGap feed fed prevEnd start) := by
  rw [List.foldl_append, feedGap]
  split <;> rfl

theorem walk_inner_eq {native : Nat} {fed : α} {prevEnd innerOffset : Nat} {inner : List LeafClass} {later : List (Nat × Nat)} :
    (padRanges native prevEnd ((placed (LeafClass.size abi) (LeafClass.align abi) innerOffset inner).map
      (fun leaf => (start + leaf.2, leaf.1.size abi)) ++ later)).foldl feed fed =
      (padRanges native (walkInner feed abi start fed prevEnd innerOffset inner).2 later).foldl feed
        (walkInner feed abi start fed prevEnd innerOffset inner).1 := by
  induction inner generalizing fed prevEnd innerOffset with
  | nil => rfl
  | cons leaf rest ih =>
    rw [placed, List.map_cons, List.cons_append, padRanges, feed_gap, ih, walkInner]

theorem walk_pads_eq (native : Nat) (fed : α) (prevEnd offset : Nat) (fields : List FieldClass) :
    walkPads feed abi native fed prevEnd offset fields = (padRanges native prevEnd
      ((placed (FieldClass.size abi) (FieldClass.align abi) offset fields).flatMap (fieldRanges abi))).foldl feed fed := by
  induction fields generalizing fed prevEnd offset with
  | nil =>
    have tail := feed_gap feed fed prevEnd native []
    rw [List.append_nil] at tail
    exact tail.symm
  | cons field rest ih =>
    cases field with
    | leaf leafClass =>
      rw [walkPads, ih, placed, List.flatMap_cons]
      exact (feed_gap feed _ _ _ _).symm
    | nested inner =>
      rw [walkPads, ih, placed, List.flatMap_cons, fieldRanges, fieldLeaves, List.map_map]
      exact (walk_inner_eq feed).symm

theorem walk_fields (fed : α) (fields : List FieldClass) : walkPads feed abi (nativeSizeOf fields abi) fed 0 0 fields =
    (padRanges (nativeSizeOf fields abi) 0 (leafRanges fields abi)).foldl feed fed := by
  rw [walk_pads_eq, leaf_ranges_eq]

theorem pads_fed_eq (fields : List FieldClass) : padsFed fields abi = padRanges (nativeSizeOf fields abi) 0 (leafRanges fields abi) := by
  simp [padsFed, walk_fields, ← List.flatMap_def]

end Walks

section Alignment

variable {abi : ParamAbi}

theorem leaf_align_cases {leafClass : LeafClass} : leafClass.align abi = 1 ∨ leafClass.align abi = if abi.packed then 1 else abi.ulongSize := by
  cases leafClass with
  | bytes length => exact .inl rfl
  | _ => cases abi <;> decide

theorem inner_align_dvd (offset alignment : Nat) (inner : List LeafClass)
    (known : alignment = 1 ∨ alignment = if abi.packed then 1 else abi.ulongSize) :
    alignment ∣ (extentFrom (LeafClass.size abi) (LeafClass.align abi) offset alignment inner).2 ∧
      ∀ leaf ∈ inner, leaf.align abi ∣ (extentFrom (LeafClass.size abi) (LeafClass.align abi) offset alignment inner).2 := by
  induction inner generalizing offset alignment with
  | nil => exact ⟨Nat.dvd_refl _, fun _ member => nomatch member⟩
  | cons leaf rest ih =>
    have larger : alignment ∣ max alignment (leaf.align abi) ∧ leaf.align abi ∣ max alignment (leaf.align abi) ∧
        (max alignment (leaf.align abi) = 1 ∨ max alignment (leaf.align abi) = if abi.packed then 1 else abi.ulongSize) := by
      rcases known with rfl | rfl <;> rcases leaf_align_cases with same | same <;> rw [same] <;> cases abi <;> decide
    obtain ⟨mine, others⟩ := ih (alignUp offset (leaf.align abi) + leaf.size abi) _ larger.2.2
    exact ⟨Nat.dvd_trans larger.1 mine, List.forall_mem_cons.mpr ⟨Nat.dvd_trans larger.2.1 mine, others⟩⟩

theorem placed_aligned {β : Type} {size align : β → Nat} (offset : Nat) (fields : List β) :
    ∀ field ∈ placed size align offset fields, field.1 ∈ fields ∧ align field.1 ∣ field.2 := by
  induction fields generalizing offset with
  | nil => exact fun _ member => nomatch member
  | cons field rest ih =>
    refine List.forall_mem_cons.mpr ⟨⟨List.mem_cons_self, align_up_dvd⟩, fun other member => ?_⟩
    exact (ih _ other member).imp_left (List.mem_cons_of_mem _)

theorem leaves_aligned {fields : List FieldClass} : ∀ leaf ∈ leavesOf fields abi, leaf.1.align abi ∣ leaf.2 := by
  intro leaf member
  obtain ⟨⟨field, start⟩, at_, inside⟩ := List.mem_flatMap.mp member
  have outer := (placed_aligned 0 fields _ at_).2
  cases field with
  | leaf leafClass =>
    cases List.mem_singleton.mp inside
    exact outer
  | nested inner =>
    obtain ⟨leaf, placedAt, rfl⟩ := List.mem_map.mp inside
    obtain ⟨listed, own⟩ := placed_aligned 0 inner leaf placedAt
    exact Nat.dvd_add (Nat.dvd_trans ((inner_align_dvd 0 1 inner (.inl rfl)).2 leaf.1 listed) outer) own

theorem placed_offset (offset : Nat) (fields : List FieldClass) (index : Nat) :
    (placed (FieldClass.size abi) (FieldClass.align abi) offset fields)[index]? =
      fields[index]?.map fun field => (field, alignUp (offsetAfter abi offset (fields.take index)) (field.align abi)) := by
  induction fields generalizing offset index with
  | nil => rfl
  | cons field rest ih =>
    cases index with
    | zero => rfl
    | succ index => exact ih _ index

theorem first_leaf_offset {field : FieldClass × Nat} {leaf : LeafClass × Nat}
    (first : (fieldLeaves abi field).head? = some leaf) : leaf.2 = field.2 := by
  obtain ⟨field, start⟩ := field
  cases field with
  | leaf leafClass =>
    cases first
    rfl
  | nested inner =>
    cases inner with
    | nil => cases first
    | cons leafClass rest =>
      cases first
      exact congrArg (start + ·) (align_up_zero _ (leaf_align_pos abi leafClass))

end Alignment

-- The walks of the layout engine describe one layout: leaves and pads tile the struct, and
-- the offsets are those of the leaves.
theorem layout_partitioned (fields : List FieldClass) (abi : ParamAbi) (small : nativeSizeOf fields abi < 2 ^ 32) :
    (∀ hash, hashLeaves hash fields abi = (leafRanges fields abi).foldl hashRange hash ∧
      hashPads hash fields abi = (padsFed fields abi).foldl hashRange hash) ∧
    (leafRanges fields abi ++ padsFed fields abi).Pairwise (fun a b => a.1 + a.2 ≤ b.1 ∨ b.1 + b.2 ≤ a.1) ∧
    (∀ offset, offset < nativeSizeOf fields abi ↔
      ∃ range ∈ leafRanges fields abi ++ padsFed fields abi, range.1 ≤ offset ∧ offset < range.1 + range.2) ∧
    (∀ range ∈ leafRanges fields abi ++ padsFed fields abi, (UInt32.ofNat range.1).toNat = range.1 ∧ (UInt32.ofNat range.2).toNat = range.2) ∧
    (∀ leaf ∈ leavesOf fields abi, leaf.1.align abi ∣ leaf.2) ∧
    padCountOf fields abi = (padsFed fields abi).length ∧
    (∀ (index : Nat) field leaf, (placed (FieldClass.size abi) (FieldClass.align abi) 0 fields)[index]? = some field →
      (fieldLeaves abi field).head? = some leaf → fieldOffsetOf fields abi index = some leaf.2) ∧
    (firstUnsafeOffsetOf fields abi = none ↔ ∀ leaf ∈ leavesOf fields abi, leaf.1.carriesReference = false) ∧
    ∀ first, firstUnsafeOffsetOf fields abi = some first →
      (∃ leaf ∈ leavesOf fields abi, leaf.1.carriesReference = true ∧ leaf.2 = first) ∧
        ∀ leaf ∈ leavesOf fields abi, leaf.1.carriesReference = true → first ≤ leaf.2 := by
  have ascends := leaves_ascend abi fields
  have inside : ∀ range ∈ leafRanges fields abi ++ padsFed fields abi, range.1 + range.2 ≤ nativeSizeOf fields abi := by
    rw [pads_fed_eq, List.forall_mem_append]
    exact ⟨fun range member => ((ascends_within ascends).2 range member).2, fun range member =>
      ((ascends_within (pads_ascend ascends)).2 range member).2⟩
  refine ⟨fun hash => ⟨rfl, ?_⟩, ?_, fun offset => ⟨fun below => ?_, ?_⟩, fun range member => ?_, leaves_aligned, ?_, ?_, ?_,
    fun first found => first_unsafe_found abi found⟩
  · rw [hashPads, walk_fields, pads_fed_eq]
  · rw [pads_fed_eq, List.pairwise_append]
    exact ⟨(ascends_pairwise ascends).imp .inl, (ascends_pairwise (pads_ascend ascends)).imp .inl, pads_apart ascends⟩
  · rw [pads_fed_eq]
    exact pads_cover ascends (Nat.zero_le _) below
  · rintro ⟨range, member, -, before⟩
    exact Nat.lt_of_lt_of_le before (inside range member)
  · have bound := inside range member
    exact ⟨UInt32.toNat_ofNat_of_lt' (show range.1 < 2 ^ 32 by omega), UInt32.toNat_ofNat_of_lt' (show range.2 < 2 ^ 32 by omega)⟩
  · simp [padCountOf, walk_fields, pads_fed_eq]
  · intro index field leaf at_ first
    rw [placed_offset] at at_
    obtain ⟨top, listed, rfl⟩ := Option.map_eq_some_iff.mp at_
    rw [fieldOffsetOf, listed, first_leaf_offset first]
    rfl
  · rw [first_unsafe_eq, List.findSome?_eq_none_iff]
    simp

theorem layout_partitioned_nested : nativeSizeOf [.u8, .nested [.u8, .pointer], .u8] .lp64NativeLe = 32 ∧
    padCountOf [.u8, .nested [.u8, .pointer], .u8] .lp64NativeLe = (padsFed [.u8, .nested [.u8, .pointer], .u8] .lp64NativeLe).length :=
  ⟨rfl, (layout_partitioned [.u8, .nested [.u8, .pointer], .u8] .lp64NativeLe (by decide)).2.2.2.2.2.1⟩

end Pkcs11Proxy.Types
