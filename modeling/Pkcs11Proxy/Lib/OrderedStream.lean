import Mathlib.Data.Finset.Sort
import Mathlib.Order.Interval.Finset.Nat

namespace Pkcs11Proxy.Lib

-- What a nondecreasing stream of numbers leaves out between its first and its last
-- number, and what it holds more than once, both in increasing order.
def missingIn (values : List Nat) : List Nat :=
  ((Finset.Ioo (values.head?.getD 0) (values.getLast?.getD 0)).filter (· ∉ values)).sort

def repeatedIn (values : List Nat) : List Nat := (values.toFinset.filter fun value => 2 ≤ values.count value).sort

@[simp]
theorem missing_in_nil : missingIn [] = [] := by simp [missingIn]

@[simp]
theorem repeated_in_nil : repeatedIn [] = [] := by simp [repeatedIn]

variable {values : List Nat} {value : Nat}

theorem mem_missing_in :
    value ∈ missingIn values ↔ values.head?.getD 0 < value ∧ value < values.getLast?.getD 0 ∧ value ∉ values := by
  simp [missingIn, and_assoc]

theorem mem_repeated_in : value ∈ repeatedIn values ↔ 2 ≤ values.count value := by
  simp only [repeatedIn, Finset.mem_sort, Finset.mem_filter, List.mem_toFinset, and_iff_right_iff_imp]
  intro twice
  exact List.count_pos_iff.mp (by omega)

theorem one_value_whole : missingIn [value] = [] ∧ repeatedIn [value] = [] := by
  constructor
  · simp [missingIn]
  · refine List.eq_nil_iff_forall_not_mem.mpr fun other again => ?_
    have twice := mem_repeated_in.mp again
    have once := List.count_le_length (a := other) (l := [value])
    simp at once
    omega

theorem missing_in_increasing : (missingIn values).SortedLT := Finset.sortedLT_sort _

theorem repeated_in_increasing (values : List Nat) : (repeatedIn values).SortedLT := Finset.sortedLT_sort _

section Extend

variable {values : List Nat} {prev next : Nat} (ordered : values.Pairwise (· ≤ ·)) (last : values.getLast? = some prev)

include ordered last in
theorem le_last_of_ordered (value : Nat) (member : value ∈ values) : value ≤ prev := by
  obtain ⟨front, rfl⟩ := List.getLast?_eq_some_iff.mp last
  rcases List.mem_append.mp member with earlier | here
  · exact (List.pairwise_append.mp ordered).2.2 value earlier prev (List.mem_singleton_self prev)
  · exact Nat.le_of_eq (List.mem_singleton.mp here)

include ordered last in
theorem missing_in_snoc (later : prev ≤ next) :
    missingIn (values ++ [next]) = missingIn values ++ List.range' (prev + 1) (next - prev - 1) := by
  have below := le_last_of_ordered ordered last
  have held : prev ∈ values := List.mem_of_getLast? last
  have first : (values ++ [next]).head? = values.head? := List.head?_append_of_ne_nil values (List.ne_nil_of_mem held)
  have started : values.head?.getD 0 ≤ prev := by
    cases values with
    | nil => cases held
    | cons head rest => exact below head List.mem_cons_self
  apply missing_in_increasing.eq_of_mem_iff
  · apply List.Pairwise.sortedLT
    refine List.pairwise_append.mpr ⟨missing_in_increasing.pairwise, List.pairwise_lt_range', ?_⟩
    intro early isMissing late inGap
    have before := (mem_missing_in.mp isMissing).2.1
    rw [last, Option.getD_some] at before
    have after := (List.mem_range'_1.mp inGap).1
    omega
  · intro value
    rw [List.mem_append, mem_missing_in, mem_missing_in, first, List.getLast?_concat, last, Option.getD_some, Option.getD_some,
      List.mem_append, List.mem_singleton, List.mem_range'_1]
    constructor
    · rintro ⟨above, inside, absent⟩
      by_cases early : value < prev
      · exact .inl ⟨above, early, fun member => absent (.inl member)⟩
      · have other : value ≠ prev := fun same => absent (.inl (same ▸ held))
        exact .inr (by omega)
    · rintro (⟨above, early, absent⟩ | ⟨above, inside⟩)
      · refine ⟨above, by omega, ?_⟩
        rintro (member | rfl)
        · exact absent member
        · omega
      · refine ⟨by omega, by omega, ?_⟩
        rintro (member | rfl)
        · have := below value member
          omega
        · omega

include ordered last in
theorem repeated_in_snoc_new (later : prev < next) : repeatedIn (values ++ [next]) = repeatedIn values := by
  have fresh : next ∉ values := by
    intro member
    have := le_last_of_ordered ordered last next member
    omega
  apply (repeated_in_increasing _).eq_of_mem_iff (repeated_in_increasing _)
  intro value
  rw [mem_repeated_in, mem_repeated_in, List.count_append, List.count_singleton]
  by_cases same : next = value
  · subst same
    simp [List.count_eq_zero.mpr fresh]
  · simp [same]

include ordered last in
theorem repeated_in_snoc_again :
    repeatedIn (values ++ [prev]) = if prev ∈ repeatedIn values then repeatedIn values else repeatedIn values ++ [prev] := by
  have below := le_last_of_ordered ordered last
  have held : prev ∈ values := List.mem_of_getLast? last
  have members : ∀ value, value ∈ repeatedIn (values ++ [prev]) ↔ value ∈ repeatedIn values ∨ value = prev := by
    intro value
    rw [mem_repeated_in, mem_repeated_in, List.count_append, List.count_singleton]
    by_cases same : prev = value
    · subst same
      simp
      omega
    · simp [same, Ne.symm same]
  split
  · rename_i known
    apply (repeated_in_increasing _).eq_of_mem_iff (repeated_in_increasing _)
    intro value
    rw [members, or_iff_left_of_imp]
    rintro rfl
    exact known
  · rename_i known
    apply (repeated_in_increasing _).eq_of_mem_iff
    · apply List.Pairwise.sortedLT
      refine List.pairwise_append.mpr ⟨(repeated_in_increasing values).pairwise, List.pairwise_singleton _ _, ?_⟩
      intro early again late isLast
      cases List.mem_singleton.mp isLast
      have twice := mem_repeated_in.mp again
      have bounded := below early (List.count_pos_iff.mp (by omega))
      have other : early ≠ prev := fun same => known (same ▸ again)
      omega
    · intro value
      rw [members, List.mem_append, List.mem_singleton]

include ordered last in
theorem last_of_repeated (again : prev ∈ repeatedIn values) : (repeatedIn values).getLast? = some prev := by
  have below : ∀ value ∈ repeatedIn values, value ≤ prev := by
    intro value member
    have twice := mem_repeated_in.mp member
    exact le_last_of_ordered ordered last value (List.count_pos_iff.mp (by omega))
  have increasing := repeated_in_increasing values
  cases found : (repeatedIn values).getLast? with
  | none =>
    rw [List.getLast?_eq_none_iff.mp found] at again
    cases again
  | some latest =>
    have upper := below latest (List.mem_of_getLast? found)
    have lower := le_last_of_ordered (increasing.pairwise.imp fun lt => Nat.le_of_lt lt) found prev again
    rw [Nat.le_antisymm upper lower]

include ordered last in
theorem missing_in_length : (missingIn values).length + values.head?.getD 0 ≤ prev := by
  have bounded : (missingIn values).length ≤ (Finset.Ioo (values.head?.getD 0) prev).card := by
    rw [missingIn, Finset.length_sort, last, Option.getD_some]
    exact Finset.card_filter_le _ _
  rw [Nat.card_Ioo] at bounded
  have started : values.head?.getD 0 ≤ prev := by
    cases values with
    | nil => cases last
    | cons head rest => exact le_last_of_ordered ordered last head List.mem_cons_self
  omega

end Extend

end Pkcs11Proxy.Lib
