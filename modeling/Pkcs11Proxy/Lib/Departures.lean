import Mathlib.Data.List.Nodup

namespace Pkcs11Proxy.Lib

section

variable {τ κ : Type} [DecidableEq κ] (key : τ → κ)

def departures : List τ → List κ → List (τ × List τ)
  | _, [] => []
  | live, gone :: rest =>
    let left := live.filter fun member => key member ≠ gone
    match live.find? fun member => key member = gone with
    | some departed => (departed, left) :: departures left rest
    | none => departures left rest

def survivors (live : List τ) (keys : List κ) : List τ := live.filter fun member => key member ∉ keys

variable {key}

theorem survivors_cons (live : List τ) (gone : κ) (rest : List κ) :
    survivors key (live.filter fun member => key member ≠ gone) rest = survivors key live (gone :: rest) := by
  simp only [survivors, List.filter_filter, List.mem_cons, not_or, ← Bool.decide_and]
  simp only [and_comm, ne_eq]

theorem departed_from_live (live : List τ) (keys : List κ) (entry : τ × List τ) (member : entry ∈ departures key live keys) :
    entry.1 ∈ live ∧ key entry.1 ∈ keys := by
  induction keys generalizing live with
  | nil => cases member
  | cons gone rest ih =>
    have later : entry ∈ departures key (live.filter fun member => key member ≠ gone) rest → entry.1 ∈ live ∧ key entry.1 ∈ gone :: rest :=
      fun inside => ⟨(List.mem_filter.mp (ih _ inside).1).1, List.mem_cons_of_mem _ (ih _ inside).2⟩
    rw [departures] at member
    split at member
    · rename_i departed found
      rcases List.mem_cons.mp member with rfl | inside
      · have same := List.find?_some found
        rw [decide_eq_true_eq] at same
        exact ⟨List.mem_of_find?_eq_some found, by rw [same]; exact List.mem_cons_self⟩
      · exact later inside
    · exact later member

theorem left_behind_differs (live : List τ) (keys : List κ) (entry : τ × List τ) (member : entry ∈ departures key live keys) (other : τ)
    (left : other ∈ entry.2) : key other ≠ key entry.1 := by
  induction keys generalizing live with
  | nil => cases member
  | cons gone rest ih =>
    rw [departures] at member
    split at member
    · rename_i departed found
      rcases List.mem_cons.mp member with rfl | inside
      · have same := List.find?_some found
        rw [decide_eq_true_eq] at same
        rw [same]
        exact of_decide_eq_true (List.mem_filter.mp left).2
      · exact ih _ inside
    · exact ih _ member

theorem survivor_left_behind (live : List τ) (keys : List κ) (survivor : τ) (stays : survivor ∈ survivors key live keys)
    (entry : τ × List τ) (member : entry ∈ departures key live keys) : survivor ∈ entry.2 := by
  induction keys generalizing live with
  | nil => cases member
  | cons gone rest ih =>
    rw [← survivors_cons] at stays
    rw [departures] at member
    split at member
    · rcases List.mem_cons.mp member with rfl | inside
      · exact (List.mem_filter.mp stays).1
      · exact ih _ stays inside
    · exact ih _ stays member

theorem departs_after (live : List τ) (keys : List κ) (i j : Nat) (first second : τ × List τ)
    (here : (departures key live keys)[i]? = some first) (there : (departures key live keys)[j]? = some second) (later : i < j) :
    second.1 ∈ first.2 := by
  induction keys generalizing live i j with
  | nil => cases here
  | cons gone rest ih =>
    rw [departures] at here there
    split at here
    · rename_i departed found
      rw [found] at there
      cases j with
      | zero => cases later
      | succ j =>
        cases i with
        | zero =>
          cases here
          exact (departed_from_live _ rest second (List.mem_of_getElem? there)).1
        | succ i => exact ih _ i j here there (Nat.lt_of_succ_lt_succ later)
    · rename_i missing
      rw [missing] at there
      exact ih _ i j here there later

section Holders

variable (holds : τ → Prop)

def LastHolder (entry : τ × List τ) : Prop := holds entry.1 ∧ ∀ member ∈ entry.2, ¬ holds member

theorem last_holder_unique {live : List τ} {keys : List κ} {i j : Nat} {first second : τ × List τ}
    (here : (departures key live keys)[i]? = some first) (there : (departures key live keys)[j]? = some second)
    (one : LastHolder holds first) (other : LastHolder holds second) : i = j := by
  rcases Nat.lt_trichotomy i j with before | same | after
  · exact absurd other.1 (one.2 _ (departs_after live keys i j first second here there before))
  · exact same
  · exact absurd one.1 (other.2 _ (departs_after live keys j i second first there here after))

theorem last_holder_exists (live : List τ) (keys : List κ) (distinct : (live.map key).Nodup) (holder : τ) (member : holder ∈ live)
    (held : holds holder) (released : ∀ survivor ∈ survivors key live keys, ¬ holds survivor) :
    ∃ entry ∈ departures key live keys, LastHolder holds entry := by
  classical
  induction keys generalizing live holder with
  | nil =>
    refine absurd held (released holder ?_)
    exact List.mem_filter.mpr ⟨member, by simp⟩
  | cons gone rest ih =>
    rw [← survivors_cons] at released
    have distinctLeft : ((live.filter fun member => key member ≠ gone).map key).Nodup :=
      distinct.sublist (List.filter_sublist.map key)
    rw [departures]
    split
    · rename_i departed found
      by_cases later : ∃ other ∈ live.filter fun member => key member ≠ gone, holds other
      · obtain ⟨other, inside, alsoHeld⟩ := later
        obtain ⟨entry, inLater, last⟩ := ih _ distinctLeft other inside alsoHeld released
        exact ⟨entry, List.mem_cons_of_mem _ inLater, last⟩
      · refine ⟨_, List.mem_cons_self, ?_, fun other inside heldToo => later ⟨other, inside, heldToo⟩⟩
        have mine : key holder = gone := by
          by_contra different
          exact later ⟨holder, List.mem_filter.mpr ⟨member, decide_eq_true different⟩, held⟩
        have same := List.find?_some found
        rw [decide_eq_true_eq] at same
        rw [← List.inj_on_of_nodup_map distinct member (List.mem_of_find?_eq_some found) (mine.trans same.symm)]
        exact held
    · rename_i missing
      refine ih _ distinctLeft holder (List.mem_filter.mpr ⟨member, ?_⟩) held released
      have other := List.find?_eq_none.mp missing holder member
      simpa using other

end Holders

end

end Pkcs11Proxy.Lib
