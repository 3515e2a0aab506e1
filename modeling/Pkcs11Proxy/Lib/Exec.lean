import Mathlib.Algebra.GroupWithZero.Nat
import Mathlib.Algebra.Order.BigOperators.Group.List
import Mathlib.Algebra.Order.Group.Nat

namespace Pkcs11Proxy.Lib

section

variable {σ α : Type}

-- Executions of a partial step function: an action that is not enabled ends the
-- run without a result, so a run that has one took every action it lists.
def exec (step : σ → α → Option σ) : σ → List α → Option σ
  | state, [] => some state
  | state, action :: rest => (step state action).bind fun next => exec step next rest

def along (step : σ → α → Option σ) (allowed : σ → α → Prop) : σ → List α → Prop
  | _, [] => True
  | state, action :: rest => allowed state action ∧ ∀ next, step state action = some next → along step allowed next rest

instance decidableAlong (step : σ → α → Option σ) (allowed : σ → α → Prop) [∀ state action, Decidable (allowed state action)] :
    (state : σ) → (actions : List α) → Decidable (along step allowed state actions)
  | _, [] => .isTrue trivial
  | state, action :: rest =>
    have : Decidable (∀ next, step state action = some next → along step allowed next rest) :=
      match step state action with
      | none => .isTrue fun _ impossible => nomatch impossible
      | some next =>
        have := decidableAlong step allowed next rest
        decidable_of_iff (along step allowed next rest)
          ⟨fun holds _ same => Option.some.inj same ▸ holds, fun holds => holds next rfl⟩
    inferInstanceAs (Decidable (_ ∧ _))

theorem exec_cons_some {step : σ → α → Option σ} {state final : σ} {action : α} {rest : List α}
    (ran : exec step state (action :: rest) = some final) :
    ∃ next, step state action = some next ∧ exec step next rest = some final :=
  Option.bind_eq_some_iff.mp ran

theorem exec_append (step : σ → α → Option σ) (state : σ) (first second : List α) :
    exec step state (first ++ second) = (exec step state first).bind fun next => exec step next second := by
  induction first generalizing state with
  | nil => rfl
  | cons action rest ih =>
    simp only [List.cons_append, exec, Option.bind_assoc]
    congr 1
    funext next
    exact ih next

variable {actions : List α}

theorem exec_invariant_along (step : σ → α → Option σ) (allowed : σ → α → Prop) (inv : σ → Prop)
    (preserved : ∀ state action next, inv state → allowed state action → step state action = some next → inv next)
    {state final : σ} (start : inv state) (meets : along step allowed state actions)
    (ran : exec step state actions = some final) : inv final := by
  induction actions generalizing state with
  | nil =>
    cases ran
    exact start
  | cons action rest ih =>
    obtain ⟨next, taken, ran⟩ := exec_cons_some ran
    exact ih (preserved _ action next start meets.1 taken) (meets.2 next taken) ran

theorem exec_invariant (step : σ → α → Option σ) (inv : σ → Prop)
    (preserved : ∀ state action next, inv state → step state action = some next → inv next) {state final : σ}
    (start : inv state) (ran : exec step state actions = some final) :
    inv final := by
  induction actions generalizing state with
  | nil =>
    cases ran
    exact start
  | cons action rest ih =>
    obtain ⟨next, taken, ran⟩ := exec_cons_some ran
    exact ih (preserved _ action next start taken) ran

end

section

variable {α : Type}

-- A pool of processes is a list of slots; a step replaces one slot or adds new
-- ones. Counting invariants are about the total weight of a pool.
def total (weight : α → Nat) (slots : List α) : Nat := (slots.map weight).sum

theorem total_nil (weight : α → Nat) : total weight [] = 0 := rfl

theorem total_cons (weight : α → Nat) (slot : α) (slots : List α) :
    total weight (slot :: slots) = weight slot + total weight slots := by
  simp [total]

theorem total_append (weight : α → Nat) (left right : List α) :
    total weight (left ++ right) = total weight left + total weight right := by
  simp [total]

theorem total_map {β : Type} (weight : β → Nat) (f : α → β) (slots : List α) :
    total weight (slots.map f) = total (fun slot => weight (f slot)) slots := by
  simp [total, Function.comp_def]

theorem total_add (first second : α → Nat) (slots : List α) :
    total (fun slot => first slot + second slot) slots = total first slots + total second slots := by
  induction slots with
  | nil => rfl
  | cons slot rest ih =>
    simp only [total_cons, ih]
    omega

variable {slots : List α}

theorem total_set (weight : α → Nat) {i : Nat} {before : α} (after : α) (here : slots[i]? = some before) :
    total weight (slots.set i after) + weight before = total weight slots + weight after := by
  induction slots generalizing i with
  | nil => simp at here
  | cons slot rest ih =>
    cases i with
    | zero =>
      simp only [List.getElem?_cons_zero, Option.some.injEq] at here
      subst here
      simp only [List.set_cons_zero, total_cons]
      omega
    | succ i =>
      have step := ih here
      simp only [List.set_cons_succ, total_cons]
      omega

theorem total_le_total (light heavy : α → Nat) (slots : List α) (bounded : ∀ slot ∈ slots, light slot ≤ heavy slot) :
    total light slots ≤ total heavy slots := by
  induction slots with
  | nil => exact Nat.le_refl _
  | cons slot rest ih =>
    have head := bounded slot (by simp)
    have tail := ih fun other member => bounded other (by simp [member])
    simp only [total_cons]
    omega

theorem weight_le_total (weight : α → Nat) {slot : α} (member : slot ∈ slots) :
    weight slot ≤ total weight slots :=
  List.le_sum_of_mem (List.mem_map_of_mem member)

theorem weights_le_total (weight : α → Nat) (slots : List α) (i j : Nat) (a b : α) (distinct : i ≠ j)
    (left : slots[i]? = some a) (right : slots[j]? = some b) : weight a + weight b ≤ total weight slots := by
  induction slots generalizing i j with
  | nil => simp at left
  | cons slot rest ih =>
    cases i with
    | zero =>
      cases j with
      | zero => exact absurd rfl distinct
      | succ j =>
        simp only [List.getElem?_cons_zero, Option.some.injEq] at left
        have tail : weight b ≤ total weight rest := weight_le_total weight (List.mem_of_getElem? right)
        rw [total_cons, left]
        omega
    | succ i =>
      cases j with
      | zero =>
        simp only [List.getElem?_cons_zero, Option.some.injEq] at right
        have tail : weight a ≤ total weight rest := weight_le_total weight (List.mem_of_getElem? left)
        rw [total_cons, right]
        omega
      | succ j =>
        have tail := ih i j (by omega) left right
        rw [total_cons]
        omega

variable {slots : List α} {i : Nat} {after : α} {j : Nat} {entry : α}

theorem slot_set_cases (held : (slots.set i after)[j]? = some entry) :
    (j = i ∧ entry = after) ∨ (j ≠ i ∧ slots[j]? = some entry) := by
  by_cases same : j = i
  · subst same
    rw [List.getElem?_set_self'] at held
    cases found : slots[j]? with
    | none => simp [found] at held
    | some before =>
      rw [found, Option.map_eq_map, Option.map_some, Option.some.injEq] at held
      exact .inl ⟨rfl, held.symm⟩
  · rw [List.getElem?_set_ne (Ne.symm same)] at held
    exact .inr ⟨same, held⟩

theorem mem_set_cases (member : entry ∈ slots.set i after) : entry = after ∨ ∃ j, j ≠ i ∧ slots[j]? = some entry := by
  obtain ⟨j, held⟩ := List.mem_iff_getElem?.mp member
  rcases slot_set_cases held with ⟨-, same⟩ | old
  · exact .inl same
  · exact .inr ⟨j, old⟩

variable {before : α}

theorem slot_placed (here : slots[i]? = some before) : after ∈ slots.set i after :=
  List.mem_set (List.getElem?_eq_some_iff.mp here).1 after

theorem slot_kept (other : j ≠ i) (held : slots[j]? = some entry) :
    entry ∈ slots.set i after := by
  refine List.mem_of_getElem? (i := j) ?_
  rw [List.getElem?_set_ne (Ne.symm other)]
  exact held

variable {P : α → Prop}

theorem forall_set (old : ∀ slot ∈ slots, P slot) (new : P after) :
    ∀ slot ∈ slots.set i after, P slot := by
  intro slot member
  rcases List.mem_or_eq_of_mem_set member with kept | rfl
  · exact old slot kept
  · exact new

variable {added : α}

theorem forall_added (old : ∀ slot ∈ slots, P slot) (new : P added) :
    ∀ slot ∈ slots ++ [added], P slot :=
  List.forall_mem_append.mpr ⟨old, List.forall_mem_singleton.mpr new⟩

theorem exists_set (here : slots[i]? = some before)
    (found : ∃ slot ∈ slots, P slot) : P before ∨ ∃ slot ∈ slots.set i after, P slot := by
  obtain ⟨slot, member, holds⟩ := found
  obtain ⟨j, place⟩ := List.mem_iff_getElem?.mp member
  by_cases same : j = i
  · subst same
    cases here.symm.trans place
    exact .inl holds
  · exact .inr ⟨slot, slot_kept same place, holds⟩

theorem slot_added_cases (held : (slots ++ [added])[j]? = some entry) :
    (j = slots.length ∧ entry = added) ∨ slots[j]? = some entry := by
  rcases Nat.lt_or_ge j slots.length with inside | outside
  · rw [List.getElem?_append_left inside] at held
    exact .inr held
  · rw [List.getElem?_append_right outside] at held
    have bound := (List.getElem?_eq_some_iff.mp held).1
    simp only [List.length_singleton] at bound
    exact .inl ⟨by omega, List.mem_singleton.mp (List.mem_of_getElem? held)⟩

def Apart {κ : Type} (claim : α → Option κ) (slots : List α) : Prop :=
  ∀ (i j : Nat) a b key, slots[i]? = some a → slots[j]? = some b → claim a = some key → claim b = some key → i = j

variable {κ : Type} {claim : α → Option κ} {slots : List α}

theorem apart_set (apart : Apart claim slots) (here : slots[i]? = some before)
    (kept : ∀ key, claim after = some key → claim before = some key ∨ ∀ (j : Nat) entry, slots[j]? = some entry → claim entry ≠ some key) :
    Apart claim (slots.set i after) := by
  have alone : ∀ (j : Nat) entry key, j ≠ i → slots[j]? = some entry → claim entry = some key → claim after ≠ some key := by
    intro j entry key other held claims same
    rcases kept key same with old | fresh
    · exact other (apart j i entry before key held here claims old)
    · exact fresh j entry held claims
  intro j k a b key left right claimsLeft claimsRight
  rcases slot_set_cases left with ⟨rfl, rfl⟩ | ⟨otherLeft, oldLeft⟩
  · rcases slot_set_cases right with ⟨rfl, -⟩ | ⟨otherRight, oldRight⟩
    · rfl
    · exact absurd claimsLeft (alone k b key otherRight oldRight claimsRight)
  · rcases slot_set_cases right with ⟨rfl, rfl⟩ | ⟨-, oldRight⟩
    · exact absurd claimsRight (alone j a key otherLeft oldLeft claimsLeft)
    · exact apart j k a b key oldLeft oldRight claimsLeft claimsRight

theorem apart_added (apart : Apart claim slots)
    (fresh : ∀ key, claim added = some key → ∀ (j : Nat) entry, slots[j]? = some entry → claim entry ≠ some key) :
    Apart claim (slots ++ [added]) := by
  intro j k a b key left right claimsLeft claimsRight
  rcases slot_added_cases left with ⟨atLeft, rfl⟩ | oldLeft
  · rcases slot_added_cases right with ⟨atRight, -⟩ | oldRight
    · rw [atLeft, atRight]
    · exact absurd claimsRight (fresh key claimsLeft k b oldRight)
  · rcases slot_added_cases right with ⟨-, rfl⟩ | oldRight
    · exact absurd claimsLeft (fresh key claimsRight j a oldLeft)
    · exact apart j k a b key oldLeft oldRight claimsLeft claimsRight

end

end Pkcs11Proxy.Lib
