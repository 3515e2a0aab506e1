import Pkcs11Proxy.Audit.Recovery

namespace Pkcs11Proxy.Audit

open Lib

variable {records : List AuditRecord} {rotated : List (Nat × List AuditRecord)}
  {record : AuditRecord}

section

variable (ext : Externals)

theorem record_bytes_snoc (records : List AuditRecord) (record : AuditRecord) :
    recordBytes ext (records ++ [record]) = recordBytes ext records ++ toJsonl ext record := by
  simp [recordBytes, joinLines, toJsonl]

theorem map_segments_active (rotated : List (Nat × List AuditRecord)) (f : FileName × Bytes → FileName × Bytes) :
    ((rotated.map (segmentFile ext)).map fun file => if file.1 = activeName then f file else file) = rotated.map (segmentFile ext) := by
  rw [List.map_map]
  refine List.map_congr_left fun segment _ => ?_
  exact if_neg rotated_ne_active

variable {dir : LogDir}

theorem append_active (files : dir.files = LogLayout.files ext ⟨rotated, some records⟩) :
    (dir.appendFile activeName (toJsonl ext record)).files = LogLayout.files ext ⟨rotated, some (records ++ [record])⟩ := by
  simp only [LogDir.appendFile, files, LogLayout.files, List.map_append, map_segments_active, Option.toList_some, List.map_cons,
    List.map_nil, if_true, record_bytes_snoc]

variable {layout : LogLayout}

theorem create_active (files : dir.files = layout.files ext) :
    (dir.createFile activeName).files = LogLayout.files ext ⟨layout.rotated, some (layout.active.getD [])⟩ := by
  have held := layout_read_active files
  cases shape : layout.active with
  | none =>
    simp [LogDir.createFile, held, files, LogLayout.files, shape, recordBytes, joinLines]
  | some records =>
    rw [shape, Option.map_some] at held
    simp [LogDir.createFile, held, files, LogLayout.files, shape]

theorem truncate_active (files : dir.files = LogLayout.files ext ⟨rotated, none⟩) :
    (dir.truncateFile activeName).files = LogLayout.files ext ⟨rotated, some []⟩ := by
  have held := layout_read_active files
  simp [LogDir.truncateFile, held, files, LogLayout.files, recordBytes, joinLines]

theorem rename_active {n : Nat}
    (files : dir.files = LogLayout.files ext ⟨rotated, some records⟩) (above : ∀ segment ∈ rotated, segment.1 < n) :
    (dir.renameFile activeName (rotatedName n)).files = LogLayout.files ext ⟨rotated ++ [(n, records)], none⟩ := by
  have absent : (dir.files.filter fun file => file.1 ≠ rotatedName n) = dir.files := by
    refine List.filter_eq_self.mpr fun file member => decide_eq_true ?_
    rw [files] at member
    rcases layout_file_cases member with ⟨segment, inside, rfl⟩ | ⟨other, -, rfl⟩
    · intro same
      have less := above segment inside
      rw [rotated_name_injective same] at less
      exact Nat.lt_irrefl _ less
    · exact rotated_ne_active.symm
  have kept : ((rotated.map (segmentFile ext)).map fun file => if file.1 = activeName then (rotatedName n, file.2) else file) =
      rotated.map (segmentFile ext) := map_segments_active ext rotated fun file => (rotatedName n, file.2)
  rw [LogDir.renameFile, absent, files]
  simp [LogLayout.files, kept, segmentFile]

theorem remove_oldest {oldest : Nat × List AuditRecord} {rest : List (Nat × List AuditRecord)} {active : Option (List AuditRecord)}
    (files : dir.files = LogLayout.files ext ⟨oldest :: rest, active⟩)
    (numbered : LogLayout.numbered ⟨oldest :: rest, active⟩) :
    (dir.readFile (rotatedName oldest.1)).isSome = true ∧
      (dir.removeFile (rotatedName oldest.1)).files = LogLayout.files ext ⟨rest, active⟩ := by
  have found : dir.readFile (rotatedName oldest.1) = some (recordBytes ext oldest.2) := by
    rw [LogDir.readFile, files, LogLayout.files, List.map_cons, List.cons_append, segmentFile, List.lookup_cons, beq_self_eq_true]
  have others : ∀ file ∈ LogLayout.files ext ⟨rest, active⟩, file.1 ≠ rotatedName oldest.1 := by
    intro file member
    rcases layout_file_cases member with ⟨segment, inside, rfl⟩ | ⟨other, -, rfl⟩
    · intro same
      have less := (List.pairwise_cons.mp numbered).1 segment inside
      rw [rotated_name_injective same] at less
      exact Nat.lt_irrefl _ less
    · exact rotated_ne_active.symm
  refine ⟨by rw [found]; rfl, ?_⟩
  have split : LogLayout.files ext ⟨oldest :: rest, active⟩ = segmentFile ext oldest :: LogLayout.files ext ⟨rest, active⟩ := rfl
  rw [LogDir.removeFile, files, split, List.filter_cons_of_neg (by simp [segmentFile])]
  exact List.filter_eq_self.mpr fun file member => decide_eq_true (others file member)

theorem remove_segment (n : Nat) (files : dir.files = layout.files ext) :
    (dir.removeFile (rotatedName n)).files = LogLayout.files ext ⟨layout.rotated.filter fun segment => segment.1 ≠ n, layout.active⟩ := by
  have segments : ((layout.rotated.map (segmentFile ext)).filter fun file => file.1 ≠ rotatedName n) =
      (layout.rotated.filter fun segment => segment.1 ≠ n).map (segmentFile ext) := by
    rw [List.filter_map]
    congr 1
    refine List.filter_congr fun segment _ => ?_
    have same : rotatedName segment.1 = rotatedName n ↔ segment.1 = n := ⟨rotated_name_injective, congrArg rotatedName⟩
    simp [segmentFile, same]
  have active : ((layout.active.toList.map fun records => (activeName, recordBytes ext records)).filter fun file =>
      file.1 ≠ rotatedName n) = layout.active.toList.map fun records => (activeName, recordBytes ext records) := by
    apply List.filter_eq_self.mpr
    intro file member
    obtain ⟨records, -, rfl⟩ := List.mem_map.mp member
    exact decide_eq_true rotated_ne_active.symm
  rw [LogDir.removeFile, files, LogLayout.files, List.filter_append, segments, active, LogLayout.files]

theorem append_newest {older : List (Nat × List AuditRecord)} {n : Nat}
    (files : dir.files = LogLayout.files ext ⟨older ++ [(n, records)], none⟩) (below : ∀ segment ∈ older, segment.1 < n) :
    (dir.readFile (rotatedName n)).isSome = true ∧
      (dir.appendFile (rotatedName n) (toJsonl ext record)).files = LogLayout.files ext ⟨older ++ [(n, records ++ [record])], none⟩ := by
  have others : ∀ segment ∈ older, rotatedName segment.1 ≠ rotatedName n := by
    intro segment member same
    have less := below segment member
    rw [rotated_name_injective same] at less
    exact Nat.lt_irrefl _ less
  have flat : LogLayout.files ext ⟨older ++ [(n, records)], none⟩ =
      older.map (segmentFile ext) ++ [(rotatedName n, recordBytes ext records)] := by
    simp [LogLayout.files, segmentFile]
  constructor
  · have missed : (older.map (segmentFile ext)).lookup (rotatedName n) = none := by
      rw [List.lookup_eq_none_iff]
      intro file member
      obtain ⟨segment, inside, rfl⟩ := List.mem_map.mp member
      exact bne_iff_ne.mpr (others segment inside).symm
    rw [LogDir.readFile, files, flat, List.lookup_append, missed]
    simp
  · rw [LogDir.appendFile, files, flat, List.map_append, List.map_map]
    have kept : older.map ((fun file => if file.1 = rotatedName n then (file.1, file.2 ++ toJsonl ext record) else file) ∘ segmentFile ext) =
        older.map (segmentFile ext) := List.map_congr_left fun segment member => if_neg (others segment member)
    rw [kept]
    simp [LogLayout.files, segmentFile, record_bytes_snoc]

end

section Numbers

variable {ext : Externals} {layout : LogLayout} {dir : LogDir}

theorem parse_segments (fit : ∀ segment ∈ rotated, segment.1 < 2 ^ 64) :
    ((rotated.map (segmentFile ext)).filterMap fun file => (parseRotationN file.1).map fun n => (n, file.1)) =
      rotated.map fun segment => (segment.1, rotatedName segment.1) := by
  rw [List.filterMap_map, ← List.filterMap_eq_map]
  refine List.filterMap_congr fun segment member => ?_
  simp [segmentFile, parse_rotation_rotated (fit segment member)]

theorem pruned_layout (keep : Nat) (files : dir.files = layout.files ext) (numbered : layout.numbered)
    (fit : ∀ segment ∈ layout.rotated, segment.1 < 2 ^ 64) :
    prunedNames dir keep = if keep = 0 then []
      else (layout.rotated.take (layout.rotated.length - keep)).map fun segment => rotatedName segment.1 := by
  have parsed : (dir.files.filterMap fun file => (parseRotationN file.1).map fun n => (n, file.1)) =
      layout.rotated.map fun segment => (segment.1, rotatedName segment.1) := by
    rw [files, LogLayout.files, List.filterMap_append, parse_segments fit]
    cases layout.active with
    | none => simp
    | some records => simp [parse_rotation_active]
  have sorted : (layout.rotated.map fun segment => (segment.1, rotatedName segment.1)).Pairwise fun a b =>
      a.1 ≤ b.1 := by
    rw [List.pairwise_map]
    exact numbered.imp Nat.le_of_lt
  simp only [prunedNames, parsed, sorted.insertionSort_eq, List.length_map]
  split
  · rfl
  · split
    · rename_i few
      rw [Nat.sub_eq_zero_of_le few]
      rfl
    · rw [← List.map_take, List.map_map]
      rfl

theorem max_segments (fit : ∀ segment ∈ rotated, segment.1 < 2 ^ 64) {highest : Nat} :
    (rotated.map (segmentFile ext)).foldl raiseRotationN highest = (rotated.map Prod.fst).foldl max highest := by
  induction rotated generalizing highest with
  | nil => rfl
  | cons segment rest ih =>
    rw [List.map_cons, List.foldl_cons, List.map_cons, List.foldl_cons, ← ih fun other member => fit other (by simp [member])]
    congr 1
    simp only [raiseRotationN, segmentFile, parse_rotation_rotated (fit segment (by simp))]
    split
    all_goals omega

section

variable (files : dir.files = layout.files ext)

include files

theorem find_max_layout (fit : ∀ segment ∈ layout.rotated, segment.1 < 2 ^ 64) :
    findMaxRotationN dir = (layout.rotated.map Prod.fst).foldl max 0 := by
  rw [findMaxRotationN, files, LogLayout.files, List.foldl_append, max_segments fit]
  cases layout.active with
  | none => rfl
  | some records => simp [raiseRotationN, parse_rotation_active]

theorem find_max_above (fit : ∀ segment ∈ layout.rotated, segment.1 < 2 ^ 64)
    {segment : Nat × List AuditRecord} (member : segment ∈ layout.rotated) : segment.1 ≤ findMaxRotationN dir := by
  rw [find_max_layout files fit]
  generalize layout.rotated = rotated at member ⊢
  induction rotated using List.reverseRecOn with
  | nil => cases member
  | append_singleton front last ih =>
    rw [List.map_append, List.foldl_append]
    rcases List.mem_append.mp member with older | newest
    · exact Nat.le_trans (ih older) (Nat.le_max_left _ _)
    · rw [List.mem_singleton.mp newest]
      exact Nat.le_max_right _ _

theorem find_max_attained (fit : ∀ segment ∈ layout.rotated, segment.1 < 2 ^ 64) :
    findMaxRotationN dir = 0 ∨ ∃ segment ∈ layout.rotated, findMaxRotationN dir = segment.1 := by
  rw [find_max_layout files fit]
  induction layout.rotated using List.reverseRecOn with
  | nil => exact .inl rfl
  | append_singleton front last ih =>
    rcases Nat.le_total ((front.map Prod.fst).foldl max 0) last.1 with above | below
    · exact .inr ⟨last, by simp, by simp [above]⟩
    · rcases ih with zero | ⟨segment, member, equal⟩
      · exact .inl (by simp [below]; exact zero)
      · exact .inr ⟨segment, by simp [member], by simp [below]; exact equal⟩

end

end Numbers

end Pkcs11Proxy.Audit
