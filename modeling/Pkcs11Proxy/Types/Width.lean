import Pkcs11Proxy.Lib.Checked
import Pkcs11Proxy.Lib.FlatMemory

namespace Pkcs11Proxy.Types

open Lib

inductive WidthError where
  | overflow
  | misaligned
  | unsupportedWidth
  | lengthOverflow
deriving DecidableEq

inductive ByteOrder where
  | little
  | big
deriving DecidableEq

def isValidWidth (width : Nat) : Bool := width == 4 || width == 8

def allOnes (width : Nat) : Nat := if width ≥ 8 then UInt64.size - 1 else 1 <<< (8 * width) - 1

def canonicalUnavailable : Nat := UInt64.size - 1

def readUint (bytes : Bytes) : ByteOrder → Nat
  | .little => wordOf bytes
  | .big => wordOf bytes.reverse

def writeUint (value width : Nat) : ByteOrder → Bytes
  | .little => wordBytes width value
  | .big => (wordBytes width value).reverse

def chunksExact (width : Nat) (bytes : Bytes) : List Bytes :=
  (List.range (bytes.length / width)).map fun index => (bytes.drop (index * width)).take width

def reencodeChunks (dstWidth : Nat) (order : ByteOrder) : List Bytes → Except WidthError Bytes
  | [] => .ok []
  | chunk :: rest =>
    if readUint chunk order > allOnes dstWidth then .error .overflow
    else do
      let others ← reencodeChunks dstWidth order rest
      return writeUint (readUint chunk order) dstWidth order ++ others

def reencodeUlong (srcBytes : Bytes) (srcWidth dstWidth : Nat) (order : ByteOrder) : Except WidthError Bytes :=
  if ¬ isValidWidth srcWidth ∨ ¬ isValidWidth dstWidth then .error .unsupportedWidth
  else if srcBytes.length % srcWidth ≠ 0 then .error .misaligned
  else reencodeChunks dstWidth order (chunksExact srcWidth srcBytes)

def translateUlongLen (srcLen srcWidth dstWidth : Nat) : Except WidthError Nat :=
  if ¬ isValidWidth srcWidth ∨ ¬ isValidWidth dstWidth then .error .unsupportedWidth
  else if srcLen = canonicalUnavailable then .ok (allOnes dstWidth)
  else if srcLen / srcWidth * dstWidth < UInt64.size then .ok (srcLen / srcWidth * dstWidth)
  else .error .lengthOverflow

theorem write_uint_length (value width : Nat) (order : ByteOrder) : (writeUint value width order).length = width := by
  cases order <;> simp [writeUint]

section Chunks

variable {width : Nat} {order : ByteOrder} {chunk : Bytes}

theorem chunks_exact_cons (positive : 0 < width) (sized : chunk.length = width) (rest : Bytes) :
    chunksExact width (chunk ++ rest) = chunk :: chunksExact width rest := by
  have count : (chunk ++ rest).length / width = rest.length / width + 1 := by
    rw [List.length_append, sized, Nat.add_div_left _ positive]
  rw [chunksExact, count, List.range_succ_eq_map, List.map_cons, List.map_map, chunksExact]
  congr 1
  · simp [← sized]
  · refine List.map_congr_left fun index _ => ?_
    rw [Function.comp_apply, Nat.succ_mul, Nat.add_comm, ← List.drop_drop, ← sized, List.drop_left]

theorem chunks_exact_flatten (positive : 0 < width) (pieces : List Bytes) (sized : ∀ piece ∈ pieces, piece.length = width) :
    chunksExact width pieces.flatten = pieces := by
  induction pieces with
  | nil => simp [chunksExact]
  | cons piece rest ih =>
    obtain ⟨first, others⟩ := List.forall_mem_cons.mp sized
    rw [List.flatten_cons, chunks_exact_cons positive first, ih others]

theorem flatten_chunks_exact (positive : 0 < width) {bytes : Bytes} (aligned : bytes.length % width = 0) :
    (chunksExact width bytes).flatten = bytes ∧ ∀ chunk ∈ chunksExact width bytes, chunk.length = width := by
  obtain ⟨count, total⟩ := Nat.dvd_of_mod_eq_zero aligned
  induction count generalizing bytes with
  | zero => simp [List.eq_nil_of_length_eq_zero total, chunksExact]
  | succ count ih =>
    have first : (bytes.take width).length = width := by
      rw [List.length_take, total, Nat.min_eq_left (Nat.le_mul_of_pos_right width (Nat.succ_pos count))]
    have later : (bytes.drop width).length = width * count := by
      rw [List.length_drop, total, Nat.mul_succ, Nat.add_sub_cancel]
    obtain ⟨whole, sized⟩ := ih (by rw [later, Nat.mul_mod_right]) later
    have cut := chunks_exact_cons positive first (bytes.drop width)
    rw [List.take_append_drop] at cut
    rw [cut, List.flatten_cons, whole, List.take_append_drop]
    exact ⟨rfl, List.forall_mem_cons.mpr ⟨first, sized⟩⟩

section

variable (valid : isValidWidth width = true)

include valid

theorem all_ones_succ : allOnes width + 1 = UInt8.size ^ width := by
  simp only [isValidWidth, Bool.or_eq_true, beq_iff_eq] at valid
  rcases valid with rfl | rfl <;> rfl

theorem read_uint_le (sized : chunk.length = width) : readUint chunk order ≤ allOnes width := by
  apply Nat.le_of_lt_succ
  rw [Nat.succ_eq_add_one, all_ones_succ valid, ← sized]
  cases order with
  | little => exact word_of_lt chunk
  | big =>
    rw [readUint, ← List.length_reverse]
    exact word_of_lt chunk.reverse

theorem read_write_uint {value : Nat} (fits : value ≤ allOnes width) :
    readUint (writeUint value width order) order = value := by
  have small : value < UInt8.size ^ width := all_ones_succ valid ▸ Nat.lt_succ_of_le fits
  cases order <;> simp [readUint, writeUint, word_of_word_bytes width value small]

end

theorem write_read_uint (sized : chunk.length = width) : writeUint (readUint chunk order) width order = chunk := by
  subst sized
  cases order with
  | little => exact word_bytes_word_of chunk
  | big =>
    rw [writeUint, readUint, ← List.length_reverse, word_bytes_word_of, List.reverse_reverse]

end Chunks

theorem reencode_chunks_iff (dstWidth : Nat) (order : ByteOrder) (chunks : List Bytes) (out : Bytes) :
    reencodeChunks dstWidth order chunks = .ok out ↔ (∀ chunk ∈ chunks, readUint chunk order ≤ allOnes dstWidth) ∧
      out = (chunks.map fun chunk => writeUint (readUint chunk order) dstWidth order).flatten := by
  induction chunks generalizing out with
  | nil => simp [reencodeChunks, eq_comm]
  | cons chunk rest ih =>
    rw [reencodeChunks, List.forall_mem_cons, List.map_cons, List.flatten_cons]
    split
    · rename_i large
      simp [Nat.not_le.mpr large]
    · rename_i fits
      rw [except_bind_ok]
      simp only [ih, Nat.not_lt.mp fits, true_and]
      constructor
      · rintro ⟨others, ⟨each, rfl⟩, ended⟩
        cases ended
        exact ⟨each, rfl⟩
      · rintro ⟨each, rfl⟩
        exact ⟨_, ⟨each, rfl⟩, rfl⟩

variable {srcBytes out : Bytes} {srcWidth dstWidth : Nat} {order : ByteOrder}

theorem reencode_ulong_iff : reencodeUlong srcBytes srcWidth dstWidth order = .ok out ↔
    (isValidWidth srcWidth = true ∧ isValidWidth dstWidth = true ∧ srcBytes.length % srcWidth = 0) ∧
      (∀ chunk ∈ chunksExact srcWidth srcBytes, readUint chunk order ≤ allOnes dstWidth) ∧
      out = ((chunksExact srcWidth srcBytes).map fun chunk => writeUint (readUint chunk order) dstWidth order).flatten := by
  rw [reencodeUlong]
  split
  · rename_i odd
    simp only [reduceCtorEq, false_iff]
    rintro ⟨⟨source, target, -⟩, -⟩
    simp [source, target] at odd
  · rename_i widths
    have valid : isValidWidth srcWidth = true ∧ isValidWidth dstWidth = true := by simpa using widths
    split
    · rename_i misaligned
      simp [misaligned]
    · rename_i aligned
      simp [reencode_chunks_iff, valid, not_not.mp aligned]

theorem reencoded_length
    (encoded : reencodeUlong srcBytes srcWidth dstWidth order = .ok out) : out.length = srcBytes.length / srcWidth * dstWidth := by
  obtain ⟨-, -, rfl⟩ := reencode_ulong_iff.mp encoded
  simp [List.length_flatten, Function.comp_def, write_uint_length, chunksExact]

theorem reencoded_plain (encoded : reencodeUlong srcBytes srcWidth dstWidth order = .ok out) : srcBytes.length ≠ canonicalUnavailable := by
  obtain ⟨⟨source, -, aligned⟩, -⟩ := reencode_ulong_iff.mp encoded
  intro same
  simp only [isValidWidth, Bool.or_eq_true, beq_iff_eq] at source
  rw [same] at aligned
  rcases source with rfl | rfl <;> exact absurd aligned (by decide)

theorem translated_len {srcLen len : Nat} (plain : srcLen ≠ canonicalUnavailable)
    (translated : translateUlongLen srcLen srcWidth dstWidth = .ok len) : len = srcLen / srcWidth * dstWidth := by
  rw [translateUlongLen] at translated
  by_cases odd : ¬ isValidWidth srcWidth ∨ ¬ isValidWidth dstWidth
  · rw [if_pos odd] at translated
    cases translated
  · rw [if_neg odd, if_neg plain] at translated
    split at translated
    · cases translated
      rfl
    · cases translated

end Pkcs11Proxy.Types
