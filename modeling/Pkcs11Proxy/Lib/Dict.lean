import Mathlib.Algebra.Order.BigOperators.Group.Finset
import Mathlib.Data.Finmap

namespace Pkcs11Proxy.Lib

-- Finite partial maps with one value type, as a hash map presents them to its
-- callers: point lookups, insertion with overwrite, removal, and the sets of
-- keys and of values. Iteration order is not observable.
abbrev Dict (κ ν : Type) := Finmap fun _ : κ => ν

section

variable {κ ν : Type} [DecidableEq κ] {dict : Dict κ ν} {query : κ} {value : ν}

theorem dict_lookup_insert {key : κ} :
    Finmap.lookup query (dict.insert key value) = if query = key then some value else dict.lookup query := by
  by_cases same : query = key
  · subst same
    simp
  · simp [same]

theorem dict_lookup_erase {key : κ} :
    Finmap.lookup query (dict.erase key) = if query = key then none else dict.lookup query := by
  by_cases same : query = key
  · subst same
    simp
  · simp [same]

theorem dict_erase_insert_empty (key : κ) (value : ν) : Finmap.erase key ((∅ : Dict κ ν).insert key value) = ∅ := by
  refine Finmap.ext_lookup fun query => ?_
  rw [dict_lookup_erase, dict_lookup_insert]
  split <;> simp_all

def dictValues [DecidableEq ν] (dict : Dict κ ν) : Finset ν := (dict.entries.map Sigma.snd).toFinset

variable {dict : Dict κ ν}

theorem mem_dict_values [DecidableEq ν] :
    value ∈ dictValues dict ↔ ∃ key, dict.lookup key = some value := by
  simp only [dictValues, Multiset.mem_toFinset, Multiset.mem_map, Finmap.lookup_eq_some_iff]
  constructor
  · rintro ⟨⟨key, stored⟩, member, rfl⟩
    exact ⟨key, member⟩
  · rintro ⟨key, member⟩
    exact ⟨⟨key, value⟩, member, rfl⟩

variable {key : κ}

theorem mem_dict_keys :
    key ∈ dict.keys ↔ ∃ value, dict.lookup key = some value := by
  rw [Finmap.mem_keys, ← Finmap.lookup_isSome, Option.isSome_iff_exists]

def dictRetain (keep : κ → Bool) (dict : Dict κ ν) : Dict κ ν :=
  ⟨dict.entries.filter fun entry => keep entry.1 = true,
    Multiset.nodup_keys.mp (Multiset.nodup_of_le (Multiset.map_le_map (Multiset.filter_le _ _)) (Multiset.nodup_keys.mpr dict.nodupKeys))⟩

theorem dict_lookup_retain {keep : κ → Bool} :
    Finmap.lookup query (dictRetain keep dict) = if keep query then dict.lookup query else none := by
  refine Option.ext fun value => ?_
  rw [Finmap.lookup_eq_some_iff, dictRetain, Multiset.mem_filter]
  split
  · rename_i kept
    rw [Finmap.lookup_eq_some_iff]
    exact and_iff_left kept
  · rename_i dropped
    exact ⟨fun held => absurd held.2 dropped, nofun⟩

structure Enumerates (order : List κ) (dict : Dict κ ν) : Prop where
  nodup : order.Nodup
  complete : ∀ key, key ∈ order ↔ dict.lookup key ≠ none

def dictEntries (order : List κ) (dict : Dict κ ν) : List (κ × ν) :=
  order.filterMap fun key => (dict.lookup key).map fun value => (key, value)

theorem mem_dict_entries {order : List κ} (enumerates : Enumerates order dict) (key : κ) (value : ν) :
    (key, value) ∈ dictEntries order dict ↔ dict.lookup key = some value := by
  rw [dictEntries, List.mem_filterMap]
  constructor
  · rintro ⟨visited, -, found⟩
    obtain ⟨stored, held, same⟩ := Option.map_eq_some_iff.mp found
    obtain ⟨rfl, rfl⟩ := Prod.mk.inj same
    exact held
  · intro held
    refine ⟨key, (enumerates.complete key).mpr ?_, ?_⟩
    · rw [held]
      exact Option.some_ne_none value
    · rw [held, Option.map_some]

def dictSize (dict : Dict κ ν) : Nat := dict.keys.card

theorem dict_size_insert (value : ν) (vacant : dict.lookup key = none) :
    dictSize (dict.insert key value) = dictSize dict + 1 := by
  have fresh : key ∉ dict.keys := fun member => by
    obtain ⟨stored, found⟩ := mem_dict_keys.mp member
    rw [vacant] at found
    cases found
  have grown : (dict.insert key value).keys = insert key dict.keys := by
    ext query
    simp [Finmap.mem_keys, Finmap.mem_insert]
  rw [dictSize, grown, Finset.card_insert_of_notMem fresh, dictSize]

theorem dict_size_overwrite (value : ν) {stored : ν} (held : dict.lookup key = some stored) :
    dictSize (dict.insert key value) = dictSize dict := by
  have member := mem_dict_keys.mpr ⟨stored, held⟩
  have same : (dict.insert key value).keys = dict.keys := by
    ext query
    rw [Finmap.mem_keys, Finmap.mem_insert, ← Finmap.mem_keys, or_iff_right_of_imp]
    rintro rfl
    exact member
  rw [dictSize, same, dictSize]

theorem dict_size_erase (held : dict.lookup key = some value) :
    dictSize (dict.erase key) + 1 = dictSize dict := by
  rw [dictSize, Finmap.keys_erase]
  exact Finset.card_erase_add_one (mem_dict_keys.mpr ⟨value, held⟩)

end

end Pkcs11Proxy.Lib
