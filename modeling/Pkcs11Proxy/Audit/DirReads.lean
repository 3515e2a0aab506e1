import Pkcs11Proxy.Audit.FileNames

namespace Pkcs11Proxy.Audit

open Lib

variable {name : FileName}

section Reads

variable (dir : LogDir)

theorem lookup_file_cons (file : FileName × Bytes) (rest : List (FileName × Bytes)) (name : FileName) :
    List.lookup name (file :: rest) = if name = file.1 then some file.2 else rest.lookup name := by
  obtain ⟨held, bytes⟩ := file
  by_cases same : name = held
  · simp [same]
  · have other : (name == held) = false := beq_false_of_ne same
    simp [List.lookup_cons, same, other]

theorem read_append (name other : FileName) (bytes : Bytes) :
    (dir.appendFile name bytes).readFile other =
      if other = name then (dir.readFile other).map fun held => held ++ bytes else dir.readFile other := by
  change List.lookup other (dir.files.map _) = _
  rw [LogDir.readFile]
  induction dir.files with
  | nil => simp
  | cons file rest ih =>
    rw [List.map_cons, lookup_file_cons, lookup_file_cons, ih]
    by_cases here : file.1 = name
    · by_cases same : other = name
      · simp [here, same]
      · simp [here, same]
    · by_cases same : other = file.1
      · simp [here, same]
      · simp [here, same]

theorem read_remove (name other : FileName) :
    (dir.removeFile name).readFile other = if other = name then none else dir.readFile other := by
  change List.lookup other (dir.files.filter _) = _
  rw [LogDir.readFile]
  induction dir.files with
  | nil => simp
  | cons file rest ih =>
    by_cases gone : file.1 = name
    · rw [List.filter_cons_of_neg (by simp [gone]), ih, lookup_file_cons]
      by_cases same : other = name
      · simp [same]
      · simp [same, gone]
    · rw [List.filter_cons_of_pos (by simp [gone]), lookup_file_cons, lookup_file_cons, ih]
      by_cases same : other = file.1
      · simp [same, gone]
      · simp [same]

theorem read_rename {src dst : FileName} (other : FileName) (apart : src ≠ dst) :
    (dir.renameFile src dst).readFile other =
      if other = dst then dir.readFile src else if other = src then none else dir.readFile other := by
  change List.lookup other ((dir.files.filter _).map _) = _
  rw [LogDir.readFile, LogDir.readFile]
  induction dir.files with
  | nil => simp
  | cons file rest ih =>
    by_cases gone : file.1 = dst
    · rw [List.filter_cons_of_neg (by simp [gone]), ih, lookup_file_cons, lookup_file_cons]
      simp only [gone, apart, if_false]
      by_cases same : other = dst
      · simp [same]
      · simp [same]
    · rw [List.filter_cons_of_pos (by simp [gone]), List.map_cons, lookup_file_cons, ih, lookup_file_cons, lookup_file_cons]
      by_cases moved : file.1 = src
      · by_cases same : other = dst
        · simp [moved, same]
        · by_cases old : other = src
          · simp [moved, old, apart]
          · simp [moved, same, old]
      · have kept : src ≠ file.1 := fun same => moved same.symm
        by_cases same : other = file.1
        · simp [moved, same, gone]
        · simp [moved, same, kept]

theorem read_added {other : FileName} (absent : dir.readFile name = none) :
    List.lookup other (dir.files ++ [(name, [])]) = if other = name then some [] else dir.readFile other := by
  rw [List.lookup_append, LogDir.readFile]
  rw [LogDir.readFile] at absent
  by_cases same : other = name
  · simp [same, absent]
  · have differs : (other == name) = false := beq_false_of_ne same
    simp [same, List.lookup_cons, differs]

theorem read_create (name other : FileName) :
    (dir.createFile name).readFile other = if other = name then some ((dir.readFile name).getD []) else dir.readFile other := by
  cases held : dir.readFile name with
  | some bytes =>
    rw [LogDir.createFile, held]
    by_cases same : other = name
    · rw [if_pos same, same, held, Option.getD_some]
    · rw [if_neg same]
  | none =>
    rw [LogDir.createFile, held]
    exact read_added dir held

theorem read_truncate (other : FileName) (absent : dir.readFile name = none) :
    (dir.truncateFile name).readFile other = if other = name then some [] else dir.readFile other := by
  rw [LogDir.truncateFile, absent]
  exact read_added dir absent

end Reads

section Rotations

theorem raise_rotation_le (files : List (FileName × Bytes)) (highest limit : Nat) :
    files.foldl raiseRotationN highest ≤ limit ↔
      highest ≤ limit ∧ ∀ file ∈ files, ∀ n, parseRotationN file.1 = some n → n ≤ limit := by
  induction files generalizing highest with
  | nil => simp
  | cons file rest ih =>
    rw [List.foldl_cons, ih]
    have raised : raiseRotationN highest file ≤ limit ↔ highest ≤ limit ∧ ∀ n, parseRotationN file.1 = some n → n ≤ limit := by
      unfold raiseRotationN
      cases parsed : parseRotationN file.1 with
      | none => simp
      | some n =>
        simp only [Option.some.injEq, forall_eq']
        split
        · omega
        · omega
    rw [raised]
    simp [and_assoc]

variable {dir : LogDir}

theorem find_max_le {limit : Nat} :
    findMaxRotationN dir ≤ limit ↔ ∀ file ∈ dir.files, ∀ n, parseRotationN file.1 = some n → n ≤ limit := by
  rw [findMaxRotationN, raise_rotation_le]
  simp

theorem find_max_subset (dir next : LogDir) (old : ∀ file ∈ next.files, parseRotationN file.1 = none ∨ ∃ held ∈ dir.files, held.1 = file.1) :
    findMaxRotationN next ≤ findMaxRotationN dir := by
  rw [find_max_le]
  intro file member n parsed
  rcases old file member with unnumbered | ⟨held, inside, same⟩
  · rw [unnumbered] at parsed
    cases parsed
  · exact find_max_le.mp (Nat.le_refl _) held inside n (by rw [same]; exact parsed)

theorem lookup_name_mem {files : List (FileName × Bytes)} {bytes : Bytes} (held : files.lookup name = some bytes) :
    ∃ file ∈ files, file.1 = name := by
  induction files with
  | nil => cases held
  | cons file rest ih =>
    rw [lookup_file_cons] at held
    by_cases same : name = file.1
    · exact ⟨file, by simp, same.symm⟩
    · rw [if_neg same] at held
      obtain ⟨other, member, found⟩ := ih held
      exact ⟨other, by simp [member], found⟩

theorem next_rotation_unused (dir : LogDir) (room : findMaxRotationN dir + 1 < 2 ^ 64) :
    dir.readFile (rotatedName (findMaxRotationN dir + 1)) = none := by
  cases held : dir.readFile (rotatedName (findMaxRotationN dir + 1)) with
  | none => rfl
  | some bytes =>
    obtain ⟨file, member, named⟩ := lookup_name_mem held
    have bound := find_max_le.mp (Nat.le_refl _) file member (findMaxRotationN dir + 1)
      (by rw [named]; exact parse_rotation_rotated room)
    omega

theorem find_max_append (dir : LogDir) (name : FileName) (bytes : Bytes) :
    findMaxRotationN (dir.appendFile name bytes) ≤ findMaxRotationN dir := by
  apply find_max_subset
  intro file member
  obtain ⟨held, inside, rfl⟩ := List.mem_map.mp member
  refine .inr ⟨held, inside, ?_⟩
  split
  · rfl
  · rfl

theorem find_max_remove (dir : LogDir) (name : FileName) : findMaxRotationN (dir.removeFile name) ≤ findMaxRotationN dir := by
  apply find_max_subset
  intro file member
  exact .inr ⟨file, (List.mem_filter.mp member).1, rfl⟩

theorem find_max_truncate (absent : dir.readFile activeName = none) :
    findMaxRotationN (dir.truncateFile activeName) ≤ findMaxRotationN dir := by
  apply find_max_subset
  intro file member
  rw [LogDir.truncateFile, absent] at member
  rcases List.mem_append.mp member with old | new
  · exact .inr ⟨file, old, rfl⟩
  · rw [List.mem_singleton.mp new]
    exact .inl parse_rotation_active

theorem find_max_rename (dir : LogDir) :
    findMaxRotationN (dir.renameFile activeName (rotatedName (findMaxRotationN dir + 1))) ≤ findMaxRotationN dir + 1 := by
  rw [find_max_le]
  intro file member n parsed
  obtain ⟨held, inside, rfl⟩ := List.mem_map.mp member
  split at parsed
  · have assigned : n = findMaxRotationN dir + 1 := by
      have digits := rotation_digits_rotated (findMaxRotationN dir + 1)
      simp only [parseRotationN, digits, digits_value_decimal] at parsed
      split at parsed
      · cases parsed
      · split at parsed
        · exact (Option.some.inj parsed).symm
        · cases parsed
    omega
  · have bound := find_max_le.mp (Nat.le_refl _) held (List.mem_filter.mp inside).1 n parsed
    omega

end Rotations

end Pkcs11Proxy.Audit
