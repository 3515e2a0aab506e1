import Mathlib.Order.Lattice
import Mathlib.Data.List.Basic

namespace Pkcs11Proxy.Lib

section

variable {α κ : Type} [LinearOrder κ] (key : α → κ) (target : κ) (items : List α)

-- The search of the standard library's slices: halve the window, keep the upper half
-- unless its first key is too large, and compare once at the end.
def probe (base : Nat) : Option Nat := if (items[base]?).any fun item => key item = target then some base else none

def binarySearchFrom : Nat → Nat → Nat → Option Nat
  | 0, base, _ => probe key target items base
  | fuel + 1, base, size =>
    if size ≤ 1 then probe key target items base
    else
      let half := size / 2
      let next := if (items[base + half]?).any fun item => target < key item then base else base + half
      binarySearchFrom fuel next (size - half)

def binarySearchByKey : Option Nat := binarySearchFrom key target items items.length 0 items.length

def Ascending : Prop := items.Pairwise fun before after => key before < key after

variable {key target items}

theorem probe_some {base index : Nat} (found : probe key target items base = some index) :
    ∃ item, items[index]? = some item ∧ key item = target := by
  rw [probe] at found
  split at found
  · rename_i hit
    rw [Option.any_eq_true] at hit
    obtain ⟨item, held, same⟩ := hit
    rw [← Option.some.inj found]
    exact ⟨item, held, of_decide_eq_true same⟩
  · cases found

theorem binary_search_from_some (fuel base size index : Nat) (found : binarySearchFrom key target items fuel base size = some index) :
    ∃ item, items[index]? = some item ∧ key item = target := by
  induction fuel generalizing base size with
  | zero => exact probe_some found
  | succ fuel ih =>
    rw [binarySearchFrom] at found
    split at found
    · exact probe_some found
    · exact ih _ _ found

theorem ascending_lt (sorted : Ascending key items) {i j : Nat} {a b : α} (before : i < j) (left : items[i]? = some a)
    (right : items[j]? = some b) : key a < key b := by
  obtain ⟨inI, rfl⟩ := List.getElem?_eq_some_iff.mp left
  obtain ⟨inJ, rfl⟩ := List.getElem?_eq_some_iff.mp right
  exact List.pairwise_iff_getElem.mp sorted i j inI inJ before

variable {index : Nat} {item : α}

theorem probe_hit (held : items[index]? = some item) (same : key item = target) :
    probe key target items index = some index := by
  rw [probe, held, if_pos]
  exact decide_eq_true same

theorem binary_search_from_found (sorted : Ascending key items) (held : items[index]? = some item)
    (same : key item = target) {fuel base size : Nat} (enough : size ≤ fuel + 1) (inside : base + size ≤ items.length)
    (lower : base ≤ index) (upper : index < base + size) : binarySearchFrom key target items fuel base size = some index := by
  induction fuel generalizing base size with
  | zero =>
    have here : base = index := by omega
    rw [binarySearchFrom, here]
    exact probe_hit held same
  | succ fuel ih =>
    rw [binarySearchFrom]
    split
    · have here : base = index := by omega
      rw [here]
      exact probe_hit held same
    · dsimp only
      have reaches : base + size / 2 < items.length := by omega
      obtain ⟨probed, middle⟩ : ∃ probed, items[base + size / 2]? = some probed := ⟨_, List.getElem?_eq_getElem reaches⟩
      rw [middle, Option.any_some]
      split
      · rename_i greater
        have below : index < base + size / 2 := by
          by_contra above
          rcases Nat.lt_or_eq_of_le (Nat.le_of_not_lt above) with after | at_
          · have order := ascending_lt sorted after middle held
            rw [same] at order
            exact lt_asymm order (of_decide_eq_true greater)
          · rw [at_, held] at middle
            rw [← Option.some.inj middle, same] at greater
            exact lt_irrefl _ (of_decide_eq_true greater)
        apply ih <;> omega
      · rename_i notGreater
        have above : base + size / 2 ≤ index := by
          by_contra below
          have order := ascending_lt sorted (Nat.lt_of_not_le below) held middle
          rw [same] at order
          exact notGreater (decide_eq_true order)
        apply ih <;> omega

theorem binary_search_eq_some (sorted : Ascending key items) :
    binarySearchByKey key target items = some index ↔ ∃ item, items[index]? = some item ∧ key item = target := by
  constructor
  · exact binary_search_from_some items.length 0 items.length index
  · rintro ⟨item, held, same⟩
    have inside := (List.getElem?_eq_some_iff.mp held).1
    exact binary_search_from_found sorted held same (by omega) (by omega) (Nat.zero_le _) (by omega)

theorem binary_search_item (sorted : Ascending key items) :
    ((binarySearchByKey key target items).bind fun index => items[index]?) = some item ↔ item ∈ items ∧ key item = target := by
  constructor
  · intro found
    obtain ⟨index, hit, held⟩ := Option.bind_eq_some_iff.mp found
    obtain ⟨other, there, same⟩ := (binary_search_eq_some sorted).mp hit
    rw [held] at there
    cases there
    exact ⟨List.mem_of_getElem? held, same⟩
  · rintro ⟨member, same⟩
    obtain ⟨index, held⟩ := List.mem_iff_getElem?.mp member
    exact Option.bind_eq_some_iff.mpr ⟨index, (binary_search_eq_some sorted).mpr ⟨item, held, same⟩, held⟩

end

end Pkcs11Proxy.Lib
