import Pkcs11Proxy.Audit.Disk

namespace Pkcs11Proxy.Audit

open Lib

variable {n : Nat}

section Decimal

theorem digits_value_eq (digits : FileName) : digitsValue digits = Nat.ofDigitChars 10 digits 0 := by
  rw [digitsValue, Nat.ofDigitChars_eq_foldl]
  congr 1
  funext value digit
  rw [Nat.mul_comm]

theorem digits_value_decimal (n : Nat) : digitsValue (Nat.toDigits 10 n) = n := by
  rw [digits_value_eq, Nat.ofDigitChars_ten_toDigits]

theorem decimal_all_digits (n : Nat) : (Nat.toDigits 10 n).all Char.isDigit = true :=
  List.all_eq_true.mpr fun _ member => Nat.isDigit_of_mem_toDigits (by decide) (by decide) member

theorem digit_bounds {digit : Char} (isDigit : digit.isDigit = true) : '0'.toNat ≤ digit.toNat ∧ digit.toNat ≤ '9'.toNat := by
  simp only [Char.isDigit, Bool.and_eq_true, decide_eq_true_eq] at isDigit
  exact ⟨UInt32.le_iff_toNat_le.mp isDigit.1, UInt32.le_iff_toNat_le.mp isDigit.2⟩

theorem digits_value_cons (digit : Char) (rest : FileName) :
    digitsValue (digit :: rest) = 10 ^ rest.length * (digit.toNat - '0'.toNat) + digitsValue rest := by
  rw [digits_value_eq, digits_value_eq, Nat.ofDigitChars_cons, Nat.ofDigitChars_eq_ofDigitChars_zero, Nat.mul_zero, Nat.zero_add]

theorem digits_value_bound (digits : FileName) (decimal : ∀ digit ∈ digits, digit.isDigit = true) :
    digitsValue digits < 10 ^ digits.length := by
  induction digits with
  | nil => decide
  | cons digit rest ih =>
    have bounds := digit_bounds (decimal digit (by simp))
    have tail := ih fun other member => decimal other (by simp [member])
    have small : digit.toNat - '0'.toNat ≤ 9 := by
      have nine : '9'.toNat = '0'.toNat + 9 := rfl
      omega
    have scaled : 10 ^ rest.length * (digit.toNat - '0'.toNat) ≤ 10 ^ rest.length * 9 := Nat.mul_le_mul_left _ small
    rw [digits_value_cons, List.length_cons, Nat.pow_succ]
    omega

theorem digits_value_lt {a b : FileName} (length : a.length = b.length) (decimalA : ∀ digit ∈ a, digit.isDigit = true)
    (decimalB : ∀ digit ∈ b, digit.isDigit = true) (less : a < b) : digitsValue a < digitsValue b := by
  induction a generalizing b with
  | nil =>
    cases b with
    | nil => exact absurd less (List.lt_irrefl [])
    | cons digit rest => cases length
  | cons x restA ih =>
    cases b with
    | nil => cases length
    | cons y restB =>
      have lengths : restA.length = restB.length := Nat.succ.inj length
      have tailA := digits_value_bound restA fun digit member => decimalA digit (by simp [member])
      rw [digits_value_cons, digits_value_cons, lengths]
      rcases List.cons_lt_cons_iff.mp less with head | ⟨rfl, tail⟩
      · have lower := digit_bounds (decimalA x (by simp))
        have order : x.toNat < y.toNat := UInt32.lt_iff_toNat_lt.mp head
        have step : x.toNat - '0'.toNat + 1 ≤ y.toNat - '0'.toNat := by omega
        have scaled := Nat.mul_le_mul_left (10 ^ restB.length) step
        rw [Nat.mul_add, Nat.mul_one] at scaled
        rw [lengths] at tailA
        omega
      · have smaller := ih lengths (fun digit member => decimalA digit (by simp [member]))
          (fun digit member => decimalB digit (by simp [member])) tail
        omega

theorem decimal_order {m : Nat} (less : m < n) :
    (Nat.toDigits 10 m).length < (Nat.toDigits 10 n).length ∨
      (Nat.toDigits 10 m).length = (Nat.toDigits 10 n).length ∧ Nat.toDigits 10 m ≤ Nat.toDigits 10 n := by
  have shorter : (Nat.toDigits 10 m).length ≤ (Nat.toDigits 10 n).length := by
    refine (Nat.length_toDigits_le_iff (by decide) Nat.length_toDigits_pos).mpr ?_
    have bound := (Nat.length_toDigits_le_iff (n := n) (b := 10) (by decide) Nat.length_toDigits_pos).mp (Nat.le_refl _)
    omega
  rcases Nat.lt_or_eq_of_le shorter with strict | same
  · exact .inl strict
  · refine .inr ⟨same, not_lt.mp fun greater => ?_⟩
    have digits := fun k => fun digit member => List.all_eq_true.mp (decimal_all_digits k) digit member
    have reversed := digits_value_lt same.symm (digits n) (digits m) greater
    rw [digits_value_decimal, digits_value_decimal] at reversed
    omega

end Decimal

section Names

theorem strip_start_append (start rest : FileName) : stripStart start (start ++ rest) = some rest := by
  simp [stripStart]

theorem strip_end_append (front ending : FileName) : stripEnd ending (front ++ ending) = some front := by
  simp [stripEnd]

theorem rotation_digits_rotated (n : Nat) : rotationDigits (rotatedName n) = some (Nat.toDigits 10 n) := by
  rw [rotationDigits, rotatedName, List.append_assoc, strip_start_append, Option.bind_some, strip_end_append]

theorem rotation_digits_active : rotationDigits activeName = none := by decide

theorem rotated_ne_active : rotatedName n ≠ activeName := by
  intro same
  have digits := rotation_digits_rotated n
  rw [same, rotation_digits_active] at digits
  cases digits

theorem rotated_name_injective {m : Nat} (same : rotatedName m = rotatedName n) : m = n := by
  have left := rotation_digits_rotated m
  rw [same, rotation_digits_rotated] at left
  rw [← digits_value_decimal m, ← digits_value_decimal n, Option.some.inj left]

theorem is_audit_log_active : isAuditLog activeName = true := by decide

theorem is_audit_log_rotated : isAuditLog (rotatedName n) = true := by
  have nonempty : (Nat.toDigits 10 n).isEmpty = false := by
    rw [List.isEmpty_eq_false_iff]
    exact Nat.toDigits_ne_nil
  simp [isAuditLog, rotation_digits_rotated, decimal_all_digits]

theorem parse_rotation_active : parseRotationN activeName = none := by
  simp only [parseRotationN, rotation_digits_active]

theorem parse_rotation_rotated (fits : n < 2 ^ 64) : parseRotationN (rotatedName n) = some n := by
  have nonempty : (Nat.toDigits 10 n).isEmpty = false := by
    rw [List.isEmpty_eq_false_iff]
    exact Nat.toDigits_ne_nil
  simp only [parseRotationN, rotation_digits_rotated, nonempty, decimal_all_digits, digits_value_decimal, if_pos fits,
    Bool.not_true, Bool.or_self, Bool.false_eq_true, if_false]

end Names

section Order

theorem order_key_total {a b : Nat × Nat × FileName} : (orderKeyLe a b || orderKeyLe b a) = true := by
  simp only [orderKeyLe, Bool.or_eq_true, Bool.and_eq_true, decide_eq_true_eq, beq_iff_eq]
  grind

theorem order_key_trans {a b c : Nat × Nat × FileName} (left : orderKeyLe a b = true) (right : orderKeyLe b c = true) :
    orderKeyLe a c = true := by
  simp only [orderKeyLe, Bool.or_eq_true, Bool.and_eq_true, decide_eq_true_eq, beq_iff_eq] at left right ⊢
  grind

theorem order_key_antisymm {a b : Nat × Nat × FileName} (left : orderKeyLe a b = true) (right : orderKeyLe b a = true) :
    a = b := by
  simp only [orderKeyLe, Bool.or_eq_true, Bool.and_eq_true, decide_eq_true_eq, beq_iff_eq] at left right
  have names : a.2.2 ≤ b.2.2 → b.2.2 ≤ a.2.2 → a.2.2 = b.2.2 := le_antisymm
  have first : a.1 = b.1 := by omega
  have second : a.2.1 = b.2.1 := by omega
  refine Prod.ext first (Prod.ext second (names ?_ ?_))
  · grind
  · grind

theorem order_key_rotated (n : Nat) : logFileOrderKey (rotatedName n) = (0, (Nat.toDigits 10 n).length, Nat.toDigits 10 n) := by
  simp [logFileOrderKey, if_neg rotated_ne_active, rotation_digits_rotated]

theorem order_rotated {m : Nat} (less : m < n) :
    orderKeyLe (logFileOrderKey (rotatedName m)) (logFileOrderKey (rotatedName n)) = true := by
  rw [order_key_rotated, order_key_rotated]
  simp only [orderKeyLe, Bool.or_eq_true, Bool.and_eq_true, decide_eq_true_eq, beq_iff_eq]
  have order := decimal_order less
  tauto

theorem order_rotated_active : orderKeyLe (logFileOrderKey (rotatedName n)) (logFileOrderKey activeName) = true := by
  rw [order_key_rotated]
  rfl

end Order

end Pkcs11Proxy.Audit
