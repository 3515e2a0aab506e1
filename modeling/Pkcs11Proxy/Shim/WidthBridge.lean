import Pkcs11Proxy.Shim.AttributeExact

namespace Pkcs11Proxy.Shim

open Lib Pkcs11Proxy.Types

section

variable {order : ByteOrder} {attrType : UInt64} {clientWidth backendWidth length : Nat} {value : Bytes} {answer : Option Bytes}

theorem bridged_value
    (bridged : bridgeOutputValue order attrType (some value) value.length backendWidth clientWidth = .ok (answer, length)) :
    ∃ bytes, answer = some bytes ∧ length = bytes.length ∧
      ((backendWidth = clientWidth ∨ ¬ isUlongTyped attrType) ∧ bytes = value ∨
        ¬ (backendWidth = clientWidth ∨ ¬ isUlongTyped attrType) ∧ (isValidWidth clientWidth = true ∧ isValidWidth backendWidth = true) ∧
          length = value.length / backendWidth * clientWidth) := by
  rw [bridgeOutputValue] at bridged
  split at bridged
  · rename_i plain
    cases bridged
    exact ⟨value, rfl, rfl, .inl ⟨plain, rfl⟩⟩
  · rename_i typed
    obtain ⟨clientLen, translated, rest⟩ := except_bind_ok.mp bridged
    obtain ⟨clientValue, encoded, ended⟩ := except_bind_ok.mp rest
    cases ended
    obtain ⟨⟨source, target, -⟩, -⟩ := reencode_ulong_iff.mp encoded
    have scaled := translated_len (reencoded_plain encoded) translated
    exact ⟨clientValue, rfl, scaled.trans (reencoded_length encoded).symm, .inr ⟨typed, ⟨target, source⟩, scaled⟩⟩

theorem translated_width (widths : isValidWidth clientWidth = true ∧ isValidWidth backendWidth = true) {capacity request : Nat}
    (requested : translateUlongLen capacity clientWidth backendWidth = .ok request) (fits : value.length ≤ request) :
    value.length / backendWidth * clientWidth ≤ capacity := by
  rw [translateUlongLen, if_neg (by simp [widths])] at requested
  simp only [isValidWidth, Bool.or_eq_true, beq_iff_eq] at widths
  split at requested
  · rename_i unavailable
    cases requested
    have widest : canonicalUnavailable = 2 ^ 64 - 1 := rfl
    have narrow : allOnes 4 = 2 ^ 32 - 1 := rfl
    have wide : allOnes 8 = 2 ^ 64 - 1 := rfl
    obtain ⟨rfl | rfl, rfl | rfl⟩ := widths <;> omega
  · split at requested <;> cases requested
    obtain ⟨rfl | rfl, rfl | rfl⟩ := widths <;> omega

theorem bridged_value_fits {capacity request : Nat}
    (requested : bridgeRequestBufferLen attrType capacity clientWidth backendWidth = .ok request) (fits : value.length ≤ request)
    (bridged : bridgeOutputValue order attrType (some value) value.length backendWidth clientWidth = .ok (answer, length)) :
    ∃ bytes, answer = some bytes ∧ length = bytes.length ∧ length ≤ capacity := by
  rw [bridgeRequestBufferLen] at requested
  obtain ⟨bytes, rfl, sized, ⟨plain, rfl⟩ | ⟨typed, widths, scaled⟩⟩ := bridged_value bridged
  · rw [if_pos (plain.imp_left Eq.symm)] at requested
    cases requested
    exact ⟨bytes, rfl, sized, sized ▸ fits⟩
  · rw [if_neg fun plain => typed (plain.imp_left Eq.symm)] at requested
    exact ⟨bytes, rfl, sized, scaled ▸ translated_width widths requested fits⟩

end

section

variable {order : ByteOrder} {srcWidth dstWidth : Nat} {bytes out : Bytes}

theorem reencoded_same_values (encoded : reencodeUlong bytes srcWidth dstWidth order = .ok out) :
    (chunksExact dstWidth out).map (readUint · order) = (chunksExact srcWidth bytes).map (readUint · order) ∧
      reencodeUlong out dstWidth srcWidth order = .ok bytes := by
  obtain ⟨⟨source, target, aligned⟩, fits, rfl⟩ := reencode_ulong_iff.mp encoded
  have positive : ∀ {width : Nat}, isValidWidth width = true → 0 < width := fun {width} valid => by
    simp only [isValidWidth, Bool.or_eq_true, beq_iff_eq] at valid
    omega
  obtain ⟨whole, sized⟩ := flatten_chunks_exact (positive source) aligned
  have cut := chunks_exact_flatten (positive target)
    ((chunksExact srcWidth bytes).map fun chunk => writeUint (readUint chunk order) dstWidth order)
    (by simp [write_uint_length])
  have same : ∀ chunk ∈ chunksExact srcWidth bytes, readUint (writeUint (readUint chunk order) dstWidth order) order = readUint chunk order :=
    fun chunk member => read_write_uint target (fits chunk member)
  refine ⟨?_, reencode_ulong_iff.mpr ⟨⟨target, source, ?_⟩, ?_, ?_⟩⟩
  · rw [cut, List.map_map]
    exact List.map_congr_left same
  · rw [reencoded_length encoded, Nat.mul_mod_left]
  · rw [cut]
    simp only [List.forall_mem_map]
    intro chunk member
    rw [same chunk member]
    exact read_uint_le source (sized chunk member)
  · rw [cut, List.map_map]
    refine Eq.trans whole.symm (congrArg _ (Eq.symm ?_))
    refine (List.map_congr_left fun chunk member => ?_).trans (List.map_id _)
    rw [Function.comp_apply, same chunk member]
    exact write_read_uint (sized chunk member)

end

-- Re-encoding keeps every element and can be undone, and a bridged answer fits the
-- capacity its request was made from.
theorem width_bridge_preserves :
    (∀ (order : ByteOrder) (bytes : Bytes) (srcWidth dstWidth : Nat), bytes.length < 2 ^ 63 →
      isValidWidth srcWidth = true → isValidWidth dstWidth = true →
      ((∃ out, reencodeUlong bytes srcWidth dstWidth order = .ok out) ↔
        srcWidth ∣ bytes.length ∧ ∀ chunk ∈ chunksExact srcWidth bytes, readUint chunk order < 2 ^ (8 * dstWidth)) ∧
      ∀ out, reencodeUlong bytes srcWidth dstWidth order = .ok out →
        dstWidth ∣ out.length ∧
        (chunksExact dstWidth out).map (readUint · order) = (chunksExact srcWidth bytes).map (readUint · order) ∧
        translateUlongLen bytes.length srcWidth dstWidth = .ok out.length ∧
        reencodeUlong out dstWidth srcWidth order = .ok bytes) ∧
    ∀ (order : ByteOrder) (attrType : UInt64) (capacity clientWidth backendWidth request length : Nat) (value : Bytes) (answer : Option Bytes),
      bridgeRequestBufferLen attrType capacity clientWidth backendWidth = .ok request → value.length ≤ request →
      bridgeOutputValue order attrType (some value) value.length backendWidth clientWidth = .ok (answer, length) →
      ∃ bytes, answer = some bytes ∧ length = bytes.length ∧ length ≤ capacity := by
  refine ⟨fun order bytes srcWidth dstWidth short source target => ⟨?_, fun out encoded => ?_⟩, ?_⟩
  · have limit : ∀ value, value ≤ allOnes dstWidth ↔ value < 2 ^ (8 * dstWidth) := fun value => by
      rw [← Nat.lt_succ_iff, Nat.succ_eq_add_one, all_ones_succ target, Nat.pow_mul]
    simp [reencode_ulong_iff, source, target, limit, Nat.dvd_iff_mod_eq_zero]
  · obtain ⟨values, back⟩ := reencoded_same_values encoded
    refine ⟨⟨bytes.length / srcWidth, ?_⟩, values, ?_, back⟩
    · rw [reencoded_length encoded, Nat.mul_comm]
    · have bound : bytes.length / srcWidth * dstWidth < UInt64.size := by
        have wide : UInt64.size = 2 ^ 64 := rfl
        simp only [isValidWidth, Bool.or_eq_true, beq_iff_eq] at source target
        rcases source with rfl | rfl <;> rcases target with rfl | rfl <;> omega
      rw [translateUlongLen, if_neg (by simp [source, target]), if_neg (reencoded_plain encoded), if_pos bound, reencoded_length encoded]
  · exact fun _ _ _ _ _ _ _ _ _ requested fits bridged => bridged_value_fits requested fits bridged

-- Two words go to eight bytes each and back; a client's buffer for one word, asked
-- of the backend at eight bytes, is filled at four.
theorem width_bridge_preserves_widened :
    (∃ out, reencodeUlong [1, 0, 0, 0, 255, 255, 255, 255] 4 8 .little = .ok out ∧ out.length = 16 ∧
      reencodeUlong out 8 4 .little = .ok [1, 0, 0, 0, 255, 255, 255, 255]) ∧
    bridgeRequestBufferLen 0 4 4 8 = .ok 8 ∧
      ∃ answer length, bridgeOutputValue .little 0 (some [3, 0, 0, 0, 0, 0, 0, 0]) 8 8 4 = .ok (answer, length) ∧
        ∃ bytes, answer = some bytes ∧ length = bytes.length ∧ length ≤ 4 :=
  ⟨⟨_, rfl, rfl, ((width_bridge_preserves.1 .little _ 4 8 (by decide) rfl rfl).2 _ rfl).2.2.2⟩, rfl, _, _, rfl,
    width_bridge_preserves.2 .little 0 4 4 8 8 4 [3, 0, 0, 0, 0, 0, 0, 0] _ rfl (by decide) rfl⟩

end Pkcs11Proxy.Shim
