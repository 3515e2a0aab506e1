import Pkcs11Proxy.Audit.FileNames
import Pkcs11Proxy.Audit.ReplayHonest

namespace Pkcs11Proxy.Audit

open Lib

structure LogLayout where
  rotated : List (Nat × List AuditRecord)
  active : Option (List AuditRecord)

def LogLayout.records (layout : LogLayout) : List AuditRecord :=
  layout.rotated.flatMap Prod.snd ++ layout.active.getD []

def recordBytes (ext : Externals) (records : List AuditRecord) : Bytes := joinLines ext.recordJson.enc records

def segmentFile (ext : Externals) (segment : Nat × List AuditRecord) : FileName × Bytes :=
  (rotatedName segment.1, recordBytes ext segment.2)

def LogLayout.files (ext : Externals) (layout : LogLayout) : List (FileName × Bytes) :=
  layout.rotated.map (segmentFile ext) ++ layout.active.toList.map fun records => (activeName, recordBytes ext records)

def LogLayout.numbered (layout : LogLayout) : Prop := layout.rotated.Pairwise fun a b => a.1 < b.1

section Collect

variable {ext : Externals} {layout : LogLayout}

variable {file : FileName × Bytes}

theorem layout_file_cases (member : file ∈ layout.files ext) :
    (∃ segment ∈ layout.rotated, file = segmentFile ext segment) ∨ ∃ records, layout.active = some records ∧
      file = (activeName, recordBytes ext records) := by
  rcases List.mem_append.mp member with old | new
  · obtain ⟨segment, found, rfl⟩ := List.mem_map.mp old
    exact .inl ⟨segment, found, rfl⟩
  · obtain ⟨records, found, rfl⟩ := List.mem_map.mp new
    exact .inr ⟨records, Option.mem_toList.mp found, rfl⟩

theorem layout_is_logs (member : file ∈ layout.files ext) : isAuditLog file.1 = true := by
  rcases layout_file_cases member with ⟨segment, -, rfl⟩ | ⟨records, -, rfl⟩
  · exact is_audit_log_rotated
  · exact is_audit_log_active

theorem layout_sorted (numbered : layout.numbered) : (layout.files ext).Pairwise fun a b =>
    orderKeyLe (logFileOrderKey a.1) (logFileOrderKey b.1) = true := by
  rw [LogLayout.files, List.pairwise_append]
  refine ⟨?_, ?_, ?_⟩
  · rw [List.pairwise_map]
    exact numbered.imp fun less => order_rotated less
  · cases layout.active with
    | none | some => simp
  · intro file old other new
    obtain ⟨segment, -, rfl⟩ := List.mem_map.mp old
    obtain ⟨records, -, rfl⟩ := List.mem_map.mp new
    exact order_rotated_active

theorem layout_key_injective (numbered : layout.numbered) {a b : FileName × Bytes} (left : a ∈ layout.files ext)
    (right : b ∈ layout.files ext) (same : logFileOrderKey a.1 = logFileOrderKey b.1) : a = b := by
  rcases layout_file_cases left with ⟨x, memberX, rfl⟩ | ⟨recordsX, activeX, rfl⟩
  · rcases layout_file_cases right with ⟨y, memberY, rfl⟩ | ⟨recordsY, activeY, rfl⟩
    · simp only [segmentFile, order_key_rotated, Prod.mk.injEq] at same
      have number : x.1 = y.1 := by rw [← digits_value_decimal x.1, ← digits_value_decimal y.1, same.2.2]
      have distinct : (layout.rotated.map Prod.fst).Nodup := List.pairwise_map.mpr (numbered.imp fun less => Nat.ne_of_lt less)
      have equal : x = y := List.inj_on_of_nodup_map distinct memberX memberY number
      rw [equal]
    · simp only [segmentFile, order_key_rotated] at same
      cases congrArg Prod.fst same
  · rcases layout_file_cases right with ⟨y, memberY, rfl⟩ | ⟨recordsY, activeY, rfl⟩
    · simp only [segmentFile, order_key_rotated] at same
      cases congrArg Prod.fst same
    · rw [activeX] at activeY
      cases activeY
      rfl

theorem collect_layout {dir : LogDir} (numbered : layout.numbered) (listed : dir.files.Perm (layout.files ext)) :
    collectLogFiles dir = layout.files ext := by
  have kept : (dir.files.filter fun file => isAuditLog file.1) = dir.files :=
    List.filter_eq_self.mpr fun file member => layout_is_logs (listed.subset member)
  rw [collectLogFiles, kept]
  refine List.Perm.eq_of_pairwise ?_ (List.pairwise_mergeSort ?_ ?_ dir.files) (layout_sorted numbered)
    ((List.mergeSort_perm _ _).trans listed)
  · intro a b left right below above
    exact layout_key_injective numbered (listed.subset (List.mem_mergeSort.mp left)) right
      (order_key_antisymm below above)
  · exact fun a b c => order_key_trans
  · exact fun a b => order_key_total

end Collect

section Reading

variable {ext : Externals}

theorem utf8_line {α : Type} {codec : JsonCodec α} (lawful : codec.Lawful) (value : α) : isUtf8 (codec.enc value) = true :=
  decide_eq_true (lawful.valid value)

theorem record_item_enc (lawful : ext.recordJson.Lawful) (path : String) (lineNo : Nat) (record : AuditRecord) :
    recordItem ext path lineNo (.ok (ext.recordJson.enc record)) = some (.ok ⟨lineNo, record⟩) := by
  have shown : (ext.recordJson.enc record).isEmpty = false := List.isEmpty_eq_false_iff.mpr (lawful.plain record).nonempty
  simp [recordItem, shown, from_jsonl_enc lawful]

def locatedFrom (lineNo : Nat) : List AuditRecord → List (Except AuditError LocatedRecord)
  | [] => []
  | record :: rest => .ok ⟨lineNo, record⟩ :: locatedFrom (lineNo + 1) rest

section

variable (lawful : ext.recordJson.Lawful)

include lawful

theorem number_record_lines {path : String} {lineNo : Nat} {records : List AuditRecord} :
    ((numberLines path lineNo (records.map ext.recordJson.enc)).filterMap fun (lineNo, item) => recordItem ext path lineNo item) =
      locatedFrom lineNo records := by
  induction records generalizing lineNo with
  | nil => rfl
  | cons record rest ih =>
    rw [List.map_cons, numberLines, utf8_line lawful, if_pos rfl, List.filterMap_cons]
    simp only [record_item_enc lawful, ih, locatedFrom]

theorem stream_records (path : String) (records : List AuditRecord) :
    streamFileRecords ext path (recordBytes ext records) = locatedFrom 1 records := by
  rw [streamFileRecords, streamLines, recordBytes, split_join_lines lawful.plain]
  exact number_record_lines lawful

omit lawful in
theorem located_records (lineNo : Nat) (records : List AuditRecord) :
    ((locatedFrom lineNo records).filterMap fun item => item.toOption.map LocatedRecord.record) = records := by
  induction records generalizing lineNo with
  | nil => rfl
  | cons record rest ih => exact congrArg (List.cons record) (ih (lineNo + 1))

theorem presented_layout (layout : LogLayout) (dir : LogDir) (numbered : layout.numbered)
    (listed : dir.files.Perm (layout.files ext)) : presentedRecords ext dir = layout.records := by
  have read : ∀ name records, ((streamFileRecords ext (dir.display name) (recordBytes ext records)).filterMap fun item =>
      item.toOption.map LocatedRecord.record) = records := by
    intro name records
    rw [stream_records lawful, located_records]
  rw [presentedRecords, collect_layout numbered listed, LogLayout.files, List.flatMap_append, LogLayout.records]
  congr 1
  · rw [List.flatMap_map]
    congr 1
    funext segment
    exact read _ _
  · cases layout.active with
    | none => rfl
    | some records => simp [read]

omit lawful in
theorem replay_located (path : String) (lineNo : Nat) (records : List AuditRecord) (replay : StreamReplay)
    (current : ∀ record ∈ records, record.schemaVersion = auditSchemaVersion) :
    (locatedFrom lineNo records).foldlM (fun replay item => do
      let found ← item
      checkSchemaVersion path found.lineNo found.record
      return replay.push ext found.record) replay = .ok (records.foldl (StreamReplay.push ext) replay) := by
  induction records generalizing lineNo replay with
  | nil => rfl
  | cons record rest ih =>
    have version := current record (by simp)
    have checked : checkSchemaVersion path lineNo record = .ok () := by simp [checkSchemaVersion, version]
    simp only [locatedFrom, List.foldlM_cons, checked, bind, Except.bind, pure, Except.pure]
    exact ih (lineNo + 1) (replay.push ext record) fun other member => current other (by simp [member])

theorem replay_layout_files (dir : LogDir) (files : List (FileName × List AuditRecord))
    (replay : StreamReplay) (current : ∀ file ∈ files, ∀ record ∈ file.2, record.schemaVersion = auditSchemaVersion) :
    (files.map fun file => (file.1, recordBytes ext file.2)).foldlM (replayFile ext dir) replay =
      .ok ((files.flatMap Prod.snd).foldl (StreamReplay.push ext) replay) := by
  induction files generalizing replay with
  | nil => rfl
  | cons file rest ih =>
    have step : replayFile ext dir replay (file.1, recordBytes ext file.2) =
        .ok (file.2.foldl (StreamReplay.push ext) replay) := by
      rw [replayFile, stream_records lawful]
      exact replay_located _ 1 file.2 replay (current file (by simp))
    simp only [List.map_cons, List.foldlM_cons, step, bind, Except.bind, List.flatMap_cons, List.foldl_append]
    exact ih _ fun other member => current other (by simp [member])

theorem replay_layout {layout : LogLayout} (dir : LogDir) (replay : StreamReplay)
    (current : ∀ record ∈ layout.records, record.schemaVersion = auditSchemaVersion) :
    (layout.files ext).foldlM (replayFile ext dir) replay = .ok (layout.records.foldl (StreamReplay.push ext) replay) := by
  have files : layout.files ext = (layout.rotated.map (fun segment => (rotatedName segment.1, segment.2)) ++
      layout.active.toList.map fun records => (activeName, records)).map fun file => (file.1, recordBytes ext file.2) := by
    simp only [LogLayout.files, List.map_append, List.map_map]
    rfl
  have records : layout.records = (layout.rotated.map (fun segment => (rotatedName segment.1, segment.2)) ++
      layout.active.toList.map fun records => (activeName, records)).flatMap Prod.snd := by
    rw [LogLayout.records, List.flatMap_append, List.flatMap_map]
    congr 1
    cases layout.active with
    | none => rfl
    | some records => simp
  rw [files, records]
  refine replay_layout_files lawful dir _ replay fun file member record inside => current record ?_
  rw [records]
  exact List.mem_flatMap.mpr ⟨file, member, inside⟩

end

end Reading

end Pkcs11Proxy.Audit
