import Mathlib.Data.List.Infix

namespace Pkcs11Proxy.Lib

section

variable {R H : Type}

def chainHead (hash : H → R → H) (base : H) (entries : List R) : H := entries.foldl hash base

theorem chain_head_append (hash : H → R → H) (base : H) (left right : List R) :
    chainHead hash base (left ++ right) = chainHead hash (chainHead hash base left) right :=
  List.foldl_append

theorem chain_head_concat (hash : H → R → H) (base : H) (entries : List R) (entry : R) :
    chainHead hash base (entries ++ [entry]) = hash (chainHead hash base entries) entry := by
  rw [chain_head_append]
  rfl

structure CollisionFree (hash : H → R → H) (genesis : H) : Prop where
  injective : ∀ base other entry entry', hash base entry = hash other entry' → base = other ∧ entry = entry'
  fresh : ∀ base entry, hash base entry ≠ genesis

-- The head commits to the whole chain: peel both lists from the end. A list with
-- the head of an honest chain is one of its ends, and starts where that end does.
theorem same_head_suffix (hash : H → R → H) (genesis base : H) (safe : CollisionFree hash genesis) (entries honest : List R)
    (same : chainHead hash base entries = chainHead hash genesis honest) :
    entries <:+ honest ∧ (base = genesis → entries = honest) := by
  induction entries using List.reverseRecOn generalizing honest with
  | nil =>
    refine ⟨List.nil_suffix, fun start => ?_⟩
    rcases List.eq_nil_or_concat' honest with rfl | ⟨front, last, rfl⟩
    · rfl
    · rw [chain_head_concat] at same
      exact absurd (same.symm.trans start) (safe.fresh _ _)
  | append_singleton front last ih =>
    rcases List.eq_nil_or_concat' honest with rfl | ⟨honestFront, honestLast, rfl⟩
    · rw [chain_head_concat] at same
      exact absurd same (safe.fresh _ _)
    · rw [chain_head_concat, chain_head_concat] at same
      obtain ⟨sameHead, rfl⟩ := safe.injective _ _ _ _ same
      obtain ⟨⟨before, split⟩, whole⟩ := ih honestFront sameHead
      refine ⟨⟨before, ?_⟩, fun start => ?_⟩
      · rw [← List.append_assoc, split]
      · rw [whole start]

end

end Pkcs11Proxy.Lib
