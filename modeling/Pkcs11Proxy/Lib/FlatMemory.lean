import Mathlib.Algebra.GroupWithZero.Nat
import Pkcs11Proxy.Lib.Lines

namespace Pkcs11Proxy.Lib

abbrev Memory := Nat → UInt8

structure Span where
  start : Nat
  length : Nat
deriving DecidableEq

namespace Span

def Covers (span : Span) (address : Nat) : Prop := span.start ≤ address ∧ address < span.start + span.length

def Apart (left right : Span) : Prop := ∀ address, left.Covers address → ¬ right.Covers address

def Within (inner outer : Span) : Prop := ∀ address, inner.Covers address → outer.Covers address

theorem within_prefix {start inner outer : Nat} (bound : inner ≤ outer) : Within ⟨start, inner⟩ ⟨start, outer⟩ := by
  intro address covered
  exact ⟨covered.1, Nat.lt_of_lt_of_le covered.2 (Nat.add_le_add_left bound start)⟩

end Span

structure Store where
  address : Nat
  bytes : Bytes

namespace Store

def span (store : Store) : Span := ⟨store.address, store.bytes.length⟩

def apply (store : Store) (memory : Memory) : Memory := fun address =>
  if store.address ≤ address then (store.bytes[address - store.address]?).getD (memory address) else memory address

theorem apply_outside (store : Store) (memory : Memory) (address : Nat) (outside : ¬ store.span.Covers address) :
    store.apply memory address = memory address := by
  rw [apply]
  by_cases reached : store.address ≤ address
  · have past : store.bytes.length ≤ address - store.address := by
      have notBelow : ¬ address < store.address + store.bytes.length := fun below => outside ⟨reached, below⟩
      omega
    rw [if_pos reached, List.getElem?_eq_none past, Option.getD_none]
  · rw [if_neg reached]

end Store

def applyStores (stores : List Store) (memory : Memory) : Memory :=
  stores.foldl (fun current store => store.apply current) memory

theorem apply_stores_keep (Keeps : Memory → Prop) (stores : List Store) (memory : Memory) (start : Keeps memory)
    (each : ∀ store ∈ stores, ∀ current, Keeps current → Keeps (store.apply current)) : Keeps (applyStores stores memory) := by
  induction stores generalizing memory with
  | nil => exact start
  | cons store rest ih =>
    have first := each store List.mem_cons_self memory start
    exact ih (store.apply memory) first fun other member => each other (List.mem_cons_of_mem store member)

def readBytes (memory : Memory) (address length : Nat) : Bytes := (List.range length).map fun offset => memory (address + offset)

def wordOf : Bytes → Nat
  | [] => 0
  | byte :: rest => byte.toNat + UInt8.size * wordOf rest

def wordBytes : Nat → Nat → Bytes
  | 0, _ => []
  | size + 1, value => UInt8.ofNat value :: wordBytes size (value / UInt8.size)

@[simp] theorem word_bytes_length (size value : Nat) : (wordBytes size value).length = size := by
  induction size generalizing value with
  | zero => rfl
  | succ size ih => rw [wordBytes, List.length_cons, ih]

theorem word_of_lt (bytes : Bytes) : wordOf bytes < UInt8.size ^ bytes.length := by
  induction bytes with
  | nil => exact Nat.one_pos
  | cons byte rest ih =>
    have low : byte.toNat < UInt8.size := byte.toNat_lt
    have high := Nat.mul_le_mul_left UInt8.size (Nat.succ_le_of_lt ih)
    rw [wordOf, List.length_cons, Nat.pow_succ']
    rw [Nat.mul_succ] at high
    omega

theorem word_of_word_bytes (size value : Nat) (fits : value < UInt8.size ^ size) : wordOf (wordBytes size value) = value := by
  induction size generalizing value with
  | zero => exact (Nat.lt_one_iff.mp fits).symm
  | succ size ih =>
    rw [Nat.pow_succ] at fits
    rw [wordBytes, wordOf, ih (value / UInt8.size) (Nat.div_lt_of_lt_mul (Nat.mul_comm _ _ ▸ fits)), UInt8.toNat_ofNat']
    exact Nat.mod_add_div value UInt8.size

theorem word_bytes_word_of (bytes : Bytes) : wordBytes bytes.length (wordOf bytes) = bytes := by
  induction bytes with
  | nil => rfl
  | cons byte rest ih =>
    have low : byte.toNat < UInt8.size := byte.toNat_lt
    have upper : (byte.toNat + UInt8.size * wordOf rest) / UInt8.size = wordOf rest := by
      rw [Nat.add_mul_div_left _ _ (by decide), Nat.div_eq_of_lt low, Nat.zero_add]
    have first : UInt8.ofNat (byte.toNat + UInt8.size * wordOf rest) = byte := by
      rw [← UInt8.toNat_inj, UInt8.toNat_ofNat']
      exact (Nat.add_mul_mod_self_left _ _ _).trans (Nat.mod_eq_of_lt low)
    rw [List.length_cons, wordOf, wordBytes, upper, first, ih]

end Pkcs11Proxy.Lib
