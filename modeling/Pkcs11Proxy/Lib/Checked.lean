import Mathlib.Data.List.Basic

namespace Pkcs11Proxy.Lib

section

variable {ε α β : Type} {first : Except ε α} {second : α → Except ε β}

-- A sequence of fallible computations succeeds when each of them does, and fails with
-- the failure of the first that does not.
theorem except_bind_ok {result : β} :
    (first >>= second) = .ok result ↔ ∃ value, first = .ok value ∧ second value = .ok result := by
  cases first with
  | error error =>
    constructor
    · intro failed
      cases failed
    · rintro ⟨value, failed, -⟩
      cases failed
  | ok value =>
    constructor
    · intro ended
      exact ⟨value, rfl, ended⟩
    · rintro ⟨other, same, ended⟩
      cases same
      exact ended

theorem except_bind_error {error : ε} :
    (first >>= second) = .error error ↔ first = .error error ∨ ∃ value, first = .ok value ∧ second value = .error error := by
  cases first with
  | error other =>
    constructor
    · intro failed
      cases failed
      exact .inl rfl
    · rintro (failed | ⟨value, failed, -⟩)
      · cases failed
        rfl
      · cases failed
  | ok value =>
    constructor
    · intro failed
      exact .inr ⟨value, rfl, failed⟩
    · rintro (failed | ⟨other, same, failed⟩)
      · cases failed
      · cases same
        exact failed

theorem except_is_ok (checked : Except ε α) (succeeds : checked.isOk = true) : ∃ value, checked = .ok value := by
  cases checked with
  | error error => cases succeeds
  | ok value => exact ⟨value, rfl⟩

def mapChecked (check : α → Except ε β) : List α → Except ε (List β)
  | [] => .ok []
  | item :: rest => do
      let first ← check item
      let others ← mapChecked check rest
      return first :: others

theorem map_checked_ok (check : α → Except ε β) (items : List α) (results : List β) :
    mapChecked check items = .ok results ↔ List.Forall₂ (fun item result => check item = .ok result) items results := by
  induction items generalizing results with
  | nil =>
    constructor
    · intro ended
      cases ended
      exact .nil
    · intro none
      cases none
      rfl
  | cons item rest ih =>
    constructor
    · intro walked
      obtain ⟨first, checked, others⟩ := except_bind_ok.mp walked
      obtain ⟨following, walkedRest, ended⟩ := except_bind_ok.mp others
      cases ended
      exact .cons checked ((ih following).mp walkedRest)
    · intro each
      cases each with
      | cons checked following =>
        exact except_bind_ok.mpr ⟨_, checked, except_bind_ok.mpr ⟨_, (ih _).mpr following, rfl⟩⟩

variable {check : α → Except ε β} {items : List α} {results : List β} {result : β}

theorem map_checked_at (walked : mapChecked check items = .ok results) {index : Nat} (at_ : results[index]? = some result) :
    ∃ item, items[index]? = some item ∧ check item = .ok result := by
  have each := (map_checked_ok check items results).mp walked
  clear walked
  induction each generalizing index with
  | nil => cases at_
  | cons checked _ ih =>
    cases index with
    | zero =>
      cases at_
      exact ⟨_, rfl, checked⟩
    | succ => exact ih at_

theorem map_checked_mem (walked : mapChecked check items = .ok results) (member : result ∈ results) :
    ∃ item ∈ items, check item = .ok result := by
  obtain ⟨index, at_⟩ := List.mem_iff_getElem?.mp member
  obtain ⟨item, listed, checked⟩ := map_checked_at walked at_
  exact ⟨item, List.mem_of_getElem? listed, checked⟩

end

end Pkcs11Proxy.Lib
