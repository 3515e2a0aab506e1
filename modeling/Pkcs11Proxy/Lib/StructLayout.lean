import Mathlib.Data.List.Basic

namespace Pkcs11Proxy.Lib

def alignUp (offset align : Nat) : Nat := (offset + (align - 1)) / align * align

theorem le_align_up {offset align : Nat} (positive : 0 < align) : offset ≤ alignUp offset align := by
  have division := Nat.div_add_mod (offset + (align - 1)) align
  have remainder := Nat.mod_lt (offset + (align - 1)) positive
  have product : alignUp offset align = align * ((offset + (align - 1)) / align) := Nat.mul_comm _ _
  omega

theorem align_up_dvd {offset align : Nat} : align ∣ alignUp offset align := Nat.dvd_mul_left _ _

theorem align_up_zero (align : Nat) (positive : 0 < align) : alignUp 0 align = 0 := by
  rw [alignUp, Nat.zero_add, Nat.div_eq_of_lt (Nat.sub_lt positive Nat.one_pos), Nat.zero_mul]

def Ascends (start : Nat) : List (Nat × Nat) → Nat → Prop
  | [], stop => start ≤ stop
  | range :: rest, stop => start ≤ range.1 ∧ Ascends (range.1 + range.2) rest stop

section

variable {start middle stop : Nat} {ranges left right : List (Nat × Nat)}

theorem ascends_from {earlier : Nat} (before : earlier ≤ start) (ascends : Ascends start ranges stop) : Ascends earlier ranges stop := by
  cases ranges with
  | nil => exact Nat.le_trans before ascends
  | cons range rest => exact ⟨Nat.le_trans before ascends.1, ascends.2⟩

theorem ascends_append (first : Ascends start left middle) (second : Ascends middle right stop) : Ascends start (left ++ right) stop := by
  induction left generalizing start with
  | nil => exact ascends_from first second
  | cons range rest ih => exact ⟨first.1, ih first.2⟩

theorem ascends_within (ascends : Ascends start ranges stop) :
    start ≤ stop ∧ ∀ range ∈ ranges, start ≤ range.1 ∧ range.1 + range.2 ≤ stop := by
  induction ranges generalizing start with
  | nil => exact ⟨ascends, fun _ member => nomatch member⟩
  | cons range rest ih =>
    obtain ⟨before, later⟩ := ascends
    obtain ⟨ends, inside⟩ := ih later
    refine ⟨by omega, List.forall_mem_cons.mpr ⟨⟨before, ends⟩, fun other member => ?_⟩⟩
    have bounds := inside other member
    omega

theorem ascends_pairwise (ascends : Ascends start ranges stop) : ranges.Pairwise fun a b => a.1 + a.2 ≤ b.1 := by
  induction ranges generalizing start with
  | nil => exact .nil
  | cons range rest ih => exact .cons (fun other member => ((ascends_within ascends.2).2 other member).1) (ih ascends.2)

end

section

variable {α : Type} (size align : α → Nat)

def placed (offset : Nat) : List α → List (α × Nat)
  | [] => []
  | field :: rest =>
    (field, alignUp offset (align field)) :: placed (alignUp offset (align field) + size field) rest

def extentFrom (offset alignment : Nat) : List α → Nat × Nat
  | [] => (offset, alignment)
  | field :: rest => extentFrom (alignUp offset (align field) + size field) (max alignment (align field)) rest

def structExtent (fields : List α) : Nat × Nat :=
  (alignUp (extentFrom size align 0 1 fields).1 (extentFrom size align 0 1 fields).2, (extentFrom size align 0 1 fields).2)

def firstMarked (mark : α → Option Nat) (offset : Nat) : List α → Option Nat
  | [] => none
  | field :: rest =>
    match mark field with
    | some inner => some (alignUp offset (align field) + inner)
    | none => firstMarked mark (alignUp offset (align field) + size field) rest

variable {size align}

theorem extent_align_pos (offset alignment : Nat) (fields : List α) (positive : 0 < alignment) :
    0 < (extentFrom size align offset alignment fields).2 := by
  induction fields generalizing offset alignment with
  | nil => exact positive
  | cons field rest ih => exact ih _ _ (Nat.lt_of_lt_of_le positive (Nat.le_max_left _ _))

theorem struct_align_pos {fields : List α} : 0 < (structExtent size align fields).2 :=
  extent_align_pos 0 1 fields Nat.one_pos

theorem placed_ascends (aligned : ∀ field, 0 < align field) (base : Nat) (ranges : α × Nat → List (Nat × Nat))
    (each : ∀ field start, Ascends (base + start) (ranges (field, start)) (base + (start + size field)))
    (offset alignment : Nat) (fields : List α) :
    Ascends (base + offset) ((placed size align offset fields).flatMap ranges) (base + (extentFrom size align offset alignment fields).1) := by
  induction fields generalizing offset alignment with
  | nil => exact Nat.le_refl _
  | cons field rest ih =>
    rw [placed, List.flatMap_cons, extentFrom]
    exact ascends_from (Nat.add_le_add_left (le_align_up (aligned field)) base) (ascends_append (each _ _) (ih _ _))

theorem struct_ascends (aligned : ∀ field, 0 < align field) (base : Nat) (ranges : α × Nat → List (Nat × Nat))
    (each : ∀ field start, Ascends (base + start) (ranges (field, start)) (base + (start + size field))) (fields : List α) :
    Ascends base ((placed size align 0 fields).flatMap ranges) (base + (structExtent size align fields).1) := by
  have padded : (extentFrom size align 0 1 fields).1 ≤ (structExtent size align fields).1 :=
    le_align_up (extent_align_pos 0 1 fields Nat.one_pos)
  rw [← List.append_nil (List.flatMap _ _)]
  exact ascends_append (placed_ascends aligned base ranges each 0 1 fields) (Nat.add_le_add_left padded base)

theorem find_some_flat_map {β γ : Type} (items : List α) (parts : α → List β) (f : β → Option γ) :
    (items.flatMap parts).findSome? f = items.findSome? fun item => (parts item).findSome? f := by
  induction items with
  | nil => rfl
  | cons item rest ih =>
    rw [List.flatMap_cons, List.findSome?_append, List.findSome?_cons, ih]
    cases (parts item).findSome? f <;> rfl

theorem first_marked_eq (mark : α → Option Nat) (offset : Nat) (fields : List α) :
    firstMarked size align mark offset fields = (placed size align offset fields).findSome? fun field => (mark field.1).map (field.2 + ·) := by
  induction fields generalizing offset with
  | nil => rfl
  | cons field rest ih =>
    rw [firstMarked, placed, List.findSome?_cons]
    cases mark field with
    | some inner => rfl
    | none => exact ih _

end

end Pkcs11Proxy.Lib
