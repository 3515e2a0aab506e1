import Pkcs11Proxy.Lib.ByteCodes
import Pkcs11Proxy.Lib.Checked
import Pkcs11Proxy.Proto.WireScan

namespace Pkcs11Proxy.Proto

open Lib

inductive WireValue where
  | varint (value : UInt64)
  | i64 (bytes : Bytes)
  | len (payload : Bytes)
  | i32 (bytes : Bytes)
deriving DecidableEq, Repr

structure WireField where
  number : UInt32
  value : WireValue
deriving DecidableEq, Repr

def WireValue.wireType : WireValue → Nat
  | .varint _ => 0
  | .i64 _ => 1
  | .len _ => 2
  | .i32 _ => 5

inductive ValueBytes : WireValue → Bytes → Prop where
  | varint (value : UInt64) (bytes : Bytes) (encoded : IsVarint bytes value.toNat) : ValueBytes (.varint value) bytes
  | i64 (bytes : Bytes) (eight : bytes.length = 8) : ValueBytes (.i64 bytes) bytes
  | len (payload length : Bytes) (encoded : IsVarint length payload.length) : ValueBytes (.len payload) (length ++ payload)
  | i32 (bytes : Bytes) (four : bytes.length = 4) : ValueBytes (.i32 bytes) bytes

structure FieldBytes (field : WireField) (tag value : Bytes) : Prop where
  numbered : 1 ≤ field.number.toNat ∧ field.number.toNat < 536870912
  tagged : IsVarint tag (8 * field.number.toNat + field.value.wireType)
  encoded : ValueBytes field.value value

inductive Encodes : List WireField → Bytes → Prop where
  | nil : Encodes [] []
  | cons (field : WireField) (fields : List WireField) (tag value rest : Bytes) (first : FieldBytes field tag value)
      (others : Encodes fields rest) : Encodes (field :: fields) (tag ++ (value ++ rest))

def Conflict (descriptor : MessageDesc) (a b : WireField) : Prop :=
  ∃ f ∈ descriptor.fields, ∃ g ∈ descriptor.fields, f.number = a.number ∧ g.number = b.number ∧
    (a.number = b.number ∧ f.oneof = noOneof ∧ f.repeated = false ∨ f.oneof ≠ noOneof ∧ f.oneof = g.oneof)

def WellFormed (table : DescriptorTable) : Nat → UInt32 → Bytes → Prop
  | 0, _, _ => False
  | levels + 1, index, payload => ∃ descriptor fields, table[index.toNat]? = some descriptor ∧ Encodes fields payload ∧
      fields.Pairwise (fun a b => ¬ Conflict descriptor a b) ∧
      ∀ field ∈ fields, ∀ inner, field.value = .len inner → ∀ known ∈ descriptor.fields, known.number = field.number →
        known.nested ≠ noNested → WellFormed table levels known.nested inner

def TableSorted (table : DescriptorTable) : Prop :=
  ∀ descriptor ∈ table, Ascending (fun field : FieldDesc => field.number.toNat) descriptor.fields

def TableLinked (table : DescriptorTable) : Prop :=
  ∀ descriptor ∈ table, ∀ field ∈ descriptor.fields, field.nested = noNested ∨ field.nested.toNat < table.length

section Varints

theorem low_bits (byte : UInt8) : (byte &&& 0x7f).toNat = byte.toNat % 128 := by
  exact Nat.and_two_pow_sub_one_eq_mod byte.toNat 7

variable {byte : UInt8}

theorem top_bit : byte &&& 0x80 = 0 ↔ byte.toNat < 128 := by
  have all : ∀ n : Fin 256, n.val &&& 128 = 0 ↔ n.val < 128 := by decide +kernel
  rw [← UInt8.toNat_inj, UInt8.toNat_and]
  exact all ⟨byte.toNat, byte.toNat_lt⟩

theorem dropped_bits : byte &&& 0x7e = 0 ↔ byte.toNat % 128 ≤ 1 := by
  have all : ∀ n : Fin 256, n.val &&& 126 = 0 ↔ n.val % 128 ≤ 1 := by decide +kernel
  rw [← UInt8.toNat_inj, UInt8.toNat_and]
  exact all ⟨byte.toNat, byte.toNat_lt⟩

variable {value : UInt64}

theorem or_shifted {digit : UInt8} {shift : Nat} (below : value.toNat < 2 ^ shift) (small : shift < 64)
    (fits : digit.toNat * 2 ^ shift < 2 ^ 64) :
    (value ||| (digit.toUInt64 <<< UInt64.ofNat shift)).toNat = value.toNat + digit.toNat * 2 ^ shift := by
  have amount : (UInt64.ofNat shift).toNat % 64 = shift := by
    rw [UInt64.toNat_ofNat']
    omega
  rw [UInt64.toNat_or, UInt64.toNat_shiftLeft, amount, UInt8.toNat_toUInt64, Nat.shiftLeft_eq, Nat.mod_eq_of_lt fits, Nat.or_comm,
    Nat.mul_comm digit.toNat, ← Nat.two_pow_add_eq_or_of_lt below, Nat.add_comm]

variable (message : String)

theorem varint_step (value digit shift tail : Nat) :
    value + 2 ^ shift * (digit + 128 * tail) = value + digit * 2 ^ shift + 2 ^ (shift + 7) * tail := by
  have seven : 2 ^ (shift + 7) = 2 ^ shift * 128 := Nat.pow_add 2 shift 7
  rw [seven, Nat.mul_add, Nat.mul_comm digit, Nat.mul_assoc, Nat.add_assoc]

theorem read_varint_from_iff (left : Nat) (few : left ≤ 10) (value : UInt64) (below : value.toNat < 2 ^ (7 * (10 - left)))
    (payload rest : Bytes) (result : UInt64) :
    readVarintFrom message left value payload = .ok (result, rest) ↔
      ∃ bytes, payload = bytes ++ rest ∧ VarintClosed bytes ∧ bytes.length ≤ left ∧
        result.toNat = value.toNat + 2 ^ (7 * (10 - left)) * varintValue bytes := by
  induction left generalizing value payload with
  | zero =>
    constructor
    · intro read
      cases read
    · rintro ⟨bytes, -, closed, short, -⟩
      rw [List.eq_nil_of_length_eq_zero (Nat.le_zero.mp short)] at closed
      exact closed.elim
  | succ left ih =>
    cases payload with
    | nil =>
      constructor
      · intro read
        cases read
      · rintro ⟨bytes, split, closed, -⟩
        rw [(List.append_eq_nil_iff.mp split.symm).1] at closed
        exact closed.elim
    | cons byte payload =>
      rw [readVarintFrom]
      have window : 7 * (10 - (left + 1)) = 7 * (9 - left) := by omega
      rw [window] at below ⊢
      generalize shifts : 7 * (9 - left) = shift at below ⊢
      have small : shift < 64 := by omega
      split
      · rename_i lost
        constructor
        · intro read
          cases read
        · rintro ⟨bytes, split, closed, -, sum⟩
          cases bytes with
          | nil => exact closed.elim
          | cons first more =>
            cases split
            have wide : ¬ byte.toNat % 128 ≤ 1 := fun narrow => lost.2 (dropped_bits.mpr narrow)
            have bound := result.toNat_lt
            rw [varintValue, lost.1] at sum
            omega
      · rename_i kept
        have fits : (byte &&& 0x7f).toNat * 2 ^ shift < 2 ^ 64 := by
          rw [low_bits]
          by_cases last : shift = 63
          · have narrow := dropped_bits.mp (Decidable.byContradiction fun wide => kept ⟨last, wide⟩)
            rw [last]
            omega
          · have most : 2 ^ shift ≤ 2 ^ 56 := Nat.pow_le_pow_right (by omega) (by omega)
            calc byte.toNat % 128 * 2 ^ shift ≤ 127 * 2 ^ 56 := Nat.mul_le_mul (by omega) most
              _ < 2 ^ 64 := by omega
        have added := or_shifted below small fits
        rw [low_bits] at added
        by_cases ends : byte.toNat < 128
        · rw [if_pos (top_bit.mpr ends)]
          constructor
          · intro read
            cases read
            refine ⟨[byte], rfl, ?_, by simp, ?_⟩
            · rw [VarintClosed, if_pos ends]
            · rw [added, varintValue, varintValue, Nat.mul_zero, Nat.add_zero, Nat.mul_comm]
          · rintro ⟨bytes, split, closed, -, sum⟩
            cases bytes with
            | nil => exact closed.elim
            | cons first more =>
              cases split
              rw [VarintClosed, if_pos ends] at closed
              subst closed
              rw [varintValue, varintValue, Nat.mul_zero, Nat.add_zero, Nat.mul_comm] at sum
              rw [UInt64.toNat_inj.mp (added.trans sum.symm)]
              rfl
        · rw [if_neg fun clear => ends (top_bit.mp clear)]
          have next : 7 * (10 - left) = shift + 7 := by omega
          have room : (value ||| ((byte &&& 0x7f).toUInt64 <<< UInt64.ofNat shift)).toNat < 2 ^ (7 * (10 - left)) := by
            have seven : 2 ^ (shift + 7) = 2 ^ shift * 128 := Nat.pow_add 2 shift 7
            have digit : byte.toNat % 128 * 2 ^ shift ≤ 127 * 2 ^ shift := Nat.mul_le_mul_right _ (by omega)
            rw [added, next, seven]
            omega
          rw [ih (by omega) _ room, next, added]
          constructor
          · rintro ⟨bytes, rfl, closed, short, sum⟩
            refine ⟨byte :: bytes, rfl, ?_, by simp; omega, ?_⟩
            · rw [VarintClosed, if_neg ends]
              exact closed
            · rw [sum, varintValue, varint_step]
          · rintro ⟨bytes, split, closed, short, sum⟩
            cases bytes with
            | nil => exact closed.elim
            | cons first more =>
              cases split
              rw [VarintClosed, if_neg ends] at closed
              rw [varintValue, varint_step] at sum
              exact ⟨more, rfl, closed, by simpa using short, sum⟩

theorem read_varint_iff (payload rest : Bytes) :
    readVarint message payload = .ok (value, rest) ↔ ∃ bytes, payload = bytes ++ rest ∧ IsVarint bytes value.toNat := by
  rw [readVarint, read_varint_from_iff message 10 (Nat.le_refl _) 0 (by decide)]
  constructor
  · rintro ⟨bytes, split, closed, short, sum⟩
    refine ⟨bytes, split, closed, short, ?_, value.toNat_lt⟩
    simpa using sum.symm
  · rintro ⟨bytes, split, varint⟩
    refine ⟨bytes, split, varint.closed, varint.short, ?_⟩
    rw [varint.encodes]
    simp

end Varints

end Pkcs11Proxy.Proto
