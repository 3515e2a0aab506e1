import Pkcs11Proxy.Audit.LayoutSteps
import Pkcs11Proxy.Audit.WriterSteps
import Pkcs11Proxy.Lib.Exec

namespace Pkcs11Proxy.Audit

open Lib

def Timely (env : SinkEnv) (fits : Prop) (floor : Nat) (record : AuditRecord) : Prop :=
  fits → record.schemaVersion = auditSchemaVersion ∧ record.tsUnixMs ≤ env.clock floor

structure Carried (floor : Nat) (next : ChainState) (sink : Sink) : Prop where
  floor : floor ≤ sink.disk.readings
  chain : sink.writer.chain = next

def Between (env : SinkEnv) (fits : Prop) (chain : ChainState) (sink : Sink) : Prop :=
  ∃ layout start before tail sealed, Settled env fits sink layout start chain before tail sealed

variable {sink : Sink}

section Framing

variable {env : SinkEnv} {fits : Prop}

theorem same_log_after {op : FsOp} (keeps : ∀ view, JournalView.observe view op = view) :
    SameLog sink (sink.after op sink.disk.dir) where
  dir := rfl
  view := by rw [view_after, keeps]
  readings := Nat.le_refl _
  count := rfl
  since := rfl

theorem between_resumes (lawful : env.ext.Lawful) {chain : ChainState} (inv : Between env fits chain sink) :
    ResumesAtTail env.ext sink.disk.dir := by
  obtain ⟨layout, start, before, tail, sealed, inv⟩ := inv
  exact settled_resumes lawful inv

theorem between_congr (monotone : fits → ∀ n m, n ≤ m → env.clock n ≤ env.clock m) (sink next : Sink) (chain : ChainState)
    (same : SameLog sink next) (file : next.writer.file = sink.writer.file) (bytes : next.writer.fileBytes = sink.writer.fileBytes)
    (inv : Between env fits chain sink) : Between env fits chain next := by
  obtain ⟨layout, start, before, tail, sealed, inv⟩ := inv
  exact ⟨layout, start, before, tail, sealed,
    settled_congr monotone sink next same file bytes inv⟩

end Framing

section Rename

variable {env : SinkEnv} {fits : Prop} (monotone : fits → ∀ n m, n ≤ m → env.clock n ≤ env.clock m) {sink : Sink} {layout : LogLayout}
  {start chain : ChainState}

theorem on_disk_fit (disk : OnDisk env fits sink layout start chain) : ∀ segment ∈ layout.rotated, segment.1 < 2 ^ 64 := by
  intro segment member
  have below := disk.below segment member
  have room := disk.room
  omega

theorem next_rotation_below {records : List AuditRecord} (disk : OnDisk env fits sink layout start chain)
    (active : layout.active = some records) (filled : records ≠ []) : findMaxRotationN sink.disk.dir + 1 ≤ sink.view.lines := by
  have fit := on_disk_fit disk
  have total := disk.total
  rw [LogLayout.records, active, Option.getD_some, List.length_append] at total
  have positive := List.length_pos_iff.mpr filled
  rcases find_max_attained disk.files fit with zero | ⟨top, inside, equal⟩
  · omega
  · have below := disk.below top inside
    rw [active, Option.getD_some, if_neg filled] at below
    omega

include monotone

theorem settled_renamed {before tail : List AuditRecord} {sealed : ChainState} {rotated : FileName}
    (name : rotated = rotatedName (findMaxRotationN sink.disk.dir + 1))
    (inv : Settled env fits sink layout start chain before tail sealed) (written : sink.writer.fileBytes > 0) :
    ∃ dir, (FsOp.rename activeName rotated).perform sink.disk.dir = some dir ∧
      ∃ later shaped, Renamed env fits (sink.after (.rename activeName rotated) dir) shaped later chain ∧ shaped.active = none := by
  have fit := on_disk_fit inv.disk
  have shape : layout = ⟨layout.rotated, some (before ++ tail)⟩ := by rw [← inv.active]
  have files := inv.disk.files
  have held := layout_read_active files
  rw [inv.active, Option.map_some] at held
  have filled : before ++ tail ≠ [] := by
    intro empty
    rw [inv.bytes, empty] at written
    exact Nat.lt_irrefl _ written
  have newest : ∀ segment ∈ layout.rotated, segment.1 < findMaxRotationN sink.disk.dir + 1 := fun segment member =>
    Nat.lt_succ_of_le (find_max_above files fit member)
  have records : layout.records =
      LogLayout.records ⟨layout.rotated ++ [(findMaxRotationN sink.disk.dir + 1, before ++ tail)], none⟩ := by
    rw [LogLayout.records, LogLayout.records, inv.active]
    simp
  have below : ∀ segment ∈ layout.rotated ++ [(findMaxRotationN sink.disk.dir + 1, before ++ tail)],
      segment.1 ≤ sink.view.lines :=
    forall_added (fun segment older => Nat.le_of_add_right_le (inv.disk.below segment older))
      (next_rotation_below inv.disk inv.active filled)
  let dir := sink.disk.dir.renameFile activeName rotated
  have moved := view_after sink (.rename activeName rotated) dir
  have books : SameBooks sink (sink.after (.rename activeName rotated) dir) :=
    ⟨rfl, by rw [moved]; rfl, Nat.le_refl _, rfl, rfl⟩
  obtain ⟨later, disk⟩ := on_disk_reshaped monotone sink _ layout
    ⟨layout.rotated ++ [(findMaxRotationN sink.disk.dir + 1, before ++ tail)], none⟩ start chain [] records
    (fun empty => records.trans empty) books
    (by
      rw [shape] at files
      change (sink.disk.dir.renameFile activeName rotated).files = _
      rw [name]
      exact rename_active env.ext files newest)
    (List.pairwise_append.mpr ⟨inv.disk.numbered, List.pairwise_singleton _ _, fun segment member last inside => by
      rw [List.mem_singleton.mp inside]
      exact newest segment member⟩)
    (forall_added inv.disk.filled filled) below inv.disk
  refine ⟨dir, ?_, later, _, ⟨disk, ?_, rfl, (by simp), ?_⟩, rfl⟩
  · rw [FsOp.perform, held, Option.map_some]
  · rw [moved]
    rfl
  · rw [moved]
    exact ⟨_, sealed, inv.anchor, inv.current⟩

theorem renamed_truncated (inv : Renamed env fits sink layout start chain) (absent : layout.active = none) :
    ∃ dir, (FsOp.openTruncate activeName).perform sink.disk.dir = some dir ∧
      ∃ later shaped, Renamed env fits (sink.after (.openTruncate activeName) dir) shaped later chain ∧ shaped.active = some [] := by
  have shape : layout = ⟨layout.rotated, none⟩ := by rw [← absent]
  have files := inv.disk.files
  rw [shape] at files
  have records : layout.records = LogLayout.records ⟨layout.rotated, some []⟩ := by rw [LogLayout.records, absent]; rfl
  have below := inv.disk.below
  rw [absent] at below
  let dir := sink.disk.dir.truncateFile activeName
  have moved := view_after sink (.openTruncate activeName) dir
  have kept : dir.checkpoints = sink.disk.dir.checkpoints ∧ dir.anchor = sink.disk.dir.anchor := by
    simp only [dir, LogDir.truncateFile]
    split
    all_goals exact ⟨rfl, rfl⟩
  obtain ⟨later, disk⟩ := on_disk_reshaped monotone sink (sink.after (.openTruncate activeName) dir) layout
    ⟨layout.rotated, some []⟩ start chain [] records (fun empty => records.trans empty)
    ⟨kept.1, by rw [moved]; rfl, Nat.le_refl _, rfl, rfl⟩ (truncate_active env.ext files)
    inv.disk.numbered inv.disk.filled below inv.disk
  refine ⟨dir, rfl, later, _, ⟨disk, ?_, rfl, inv.written, ?_⟩, rfl⟩
  · rw [moved]
    exact inv.phase
  · rw [moved]
    simpa only [AnchorAt, Sink.after, kept.2, JournalView.observe] using inv.anchor

theorem renamed_pruned {oldest : Nat × List AuditRecord} {rest : List (Nat × List AuditRecord)}
    (inv : Renamed env fits sink layout start chain) (shape : layout.rotated = oldest :: rest) (stays : rest ≠ []) :
    ∃ dir, (FsOp.remove (rotatedName oldest.1)).perform sink.disk.dir = some dir ∧
      ∃ later, Renamed env fits (sink.after (.remove (rotatedName oldest.1)) dir) ⟨rest, layout.active⟩ later chain := by
  have whole : layout = ⟨oldest :: rest, layout.active⟩ := by rw [← shape]
  have files := inv.disk.files
  have numbered := inv.disk.numbered
  have filled := inv.disk.filled
  have below := inv.disk.below
  rw [whole] at files numbered
  rw [shape] at filled below
  obtain ⟨found, removed⟩ := remove_oldest env.ext files numbered
  obtain ⟨bytes, held⟩ := Option.isSome_iff_exists.mp found
  have records : layout.records = oldest.2 ++ LogLayout.records ⟨rest, layout.active⟩ := by
    rw [LogLayout.records, shape]
    simp [LogLayout.records]
  have kept : LogLayout.records ⟨rest, layout.active⟩ ≠ [] := by
    obtain ⟨segment, member⟩ := List.exists_mem_of_ne_nil rest stays
    intro empty
    have none := List.flatMap_eq_nil_iff.mp (List.append_eq_nil_iff.mp empty).1 segment member
    exact filled segment (by simp [member]) none
  let dir := sink.disk.dir.removeFile (rotatedName oldest.1)
  have moved := view_after sink (.remove (rotatedName oldest.1)) dir
  obtain ⟨later, disk⟩ := on_disk_reshaped monotone sink (sink.after (.remove (rotatedName oldest.1)) dir) layout
    ⟨rest, layout.active⟩ start chain oldest.2 records (fun empty => absurd empty kept)
    ⟨rfl, by rw [moved]; rfl, Nat.le_refl _, rfl, rfl⟩ removed (List.pairwise_cons.mp numbered).2
    (fun segment member => filled segment (by simp [member])) (fun segment member => below segment (by simp [member])) inv.disk
  refine ⟨dir, ?_, later, ⟨disk, ?_, inv.active, stays, ?_⟩⟩
  · rw [FsOp.perform, held, Option.map_some]
  · rw [moved]
    exact inv.phase
  · rw [moved]
    exact inv.anchor

theorem renamed_resealed (next : ChainState) (inv : Renamed env fits sink layout start chain) (active : layout.active = some [])
    (handle : sink.writer.file = activeName) (empty : sink.writer.fileBytes = 0) :
    ∃ dir, (FsOp.replaceAnchor (env.ext.anchorJson.enc ⟨next.lastHash, next.lastSeq, 0⟩)).perform sink.disk.dir = some dir ∧
      ∃ later, Resealed env fits (sink.after (.replaceAnchor (env.ext.anchorJson.enc ⟨next.lastHash, next.lastSeq, 0⟩)) dir)
        layout later chain next := by
  let op := FsOp.replaceAnchor (env.ext.anchorJson.enc ⟨next.lastHash, next.lastSeq, 0⟩)
  let dir : LogDir := { sink.disk.dir with anchor := some (env.ext.anchorJson.enc ⟨next.lastHash, next.lastSeq, 0⟩) }
  have moved : (sink.after op dir).view = { sink.view with phase := .resealed } := by
    rw [view_after]
    simp only [op, JournalView.observe, inv.phase]
  obtain ⟨later, disk⟩ := on_disk_reshaped monotone sink (sink.after op dir) layout layout start chain [] rfl id
    ⟨rfl, by rw [moved], Nat.le_refl _, rfl, rfl⟩ inv.disk.files inv.disk.numbered inv.disk.filled inv.disk.below inv.disk
  exact ⟨dir, rfl, later, disk, by rw [moved], active, handle, empty, .inr rfl⟩

end Rename

section Rotate

variable (env : SinkEnv) (fits : Prop) (lawful : env.ext.Lawful) (monotone : fits → ∀ n m, n ≤ m → env.clock n ≤ env.clock m)
  (plan : CrashPlan env) (floor : Nat) (chain next : ChainState)

def Rotating (active : Option (List AuditRecord)) (sink : Sink) : Prop :=
  Carried floor next sink ∧ ∃ layout start, Renamed env fits sink layout start chain ∧ layout.active = active

def Reopened (sink : Sink) : Prop :=
  Rotating env fits floor chain next (some []) sink ∧ sink.writer.file = activeName ∧ sink.writer.fileBytes = 0

def Rotated (sink : Sink) : Prop := Carried floor next sink ∧ ∃ layout start, Resealed env fits sink layout start chain next

theorem carried_after {op : FsOp} (dir : LogDir) (carried : Carried floor next sink) :
    Carried floor next (sink.after op dir) := ⟨carried.floor, carried.chain⟩

include lawful in
theorem rotating_resumes (active : Option (List AuditRecord)) (sink : Sink) (inv : Rotating env fits floor chain next active sink)
    (recoverable : sink.view.recoverable) : ResumesAtTail env.ext sink.disk.dir := by
  obtain ⟨-, layout, start, renamed, -⟩ := inv
  rcases recoverable with settled | ⟨-, anchored⟩
  · rw [renamed.phase] at settled
    cases settled
  · exact renamed_resumes lawful renamed anchored

include lawful monotone plan

theorem guarded_prune : Guarded (Dead env) (Reopened env fits floor chain next) (pruneRotatedFiles env)
    fun _ => Reopened env fits floor chain next := by
  let inv (names : List FileName) (sink : Sink) : Prop := ∃ layout start count, Carried floor next sink ∧
    Renamed env fits sink layout start chain ∧ layout.active = some [] ∧ sink.writer.file = activeName ∧
    sink.writer.fileBytes = 0 ∧ count < layout.rotated.length ∧
    names = (layout.rotated.take count).map fun segment => rotatedName segment.1
  refine guarded_get fun read => ?_
  refine guarded_weaken (inv (prunedNames read.disk.dir read.writer.rotateKeepFiles)) (fun _ => inv []) ?_ ?_ ?_
  · rintro sink ⟨rfl, ⟨carried, layout, start, renamed, active⟩, handle, bytes⟩
    have pruned := pruned_layout sink.writer.rotateKeepFiles renamed.disk.files renamed.disk.numbered
      (on_disk_fit renamed.disk)
    have written := List.length_pos_iff.mpr renamed.written
    split at pruned
    · exact ⟨layout, start, 0, carried, renamed, active, handle, bytes, written, pruned⟩
    · exact ⟨layout, start, _, carried, renamed, active, handle, bytes, by omega, pruned⟩
  · rintro _ sink ⟨layout, start, count, carried, renamed, active, handle, bytes, -, -⟩
    exact ⟨⟨carried, layout, start, renamed, active⟩, handle, bytes⟩
  · refine guarded_for fun name rest => guarded_ignore (guarded_fs_op plan ?_ ?_)
    · rintro sink ⟨layout, start, count, carried, renamed, active, handle, bytes, fewer, names⟩
      cases shape : layout.rotated with
      | nil => exact absurd shape renamed.written
      | cons oldest others =>
        cases count with
        | zero => simp at names
        | succ count =>
          rw [shape, List.take_succ_cons, List.map_cons] at names
          cases names
          rw [shape, List.length_cons] at fewer
          have stays : others ≠ [] := List.length_pos_iff.mp (by omega)
          obtain ⟨dir, removed, later, pruned⟩ := renamed_pruned monotone renamed
            shape stays
          exact ⟨dir, removed, .inl ⟨_, later, count, carried_after floor next dir carried, pruned, active, handle, bytes,
            by simp only; omega, rfl⟩⟩
    · rintro sink ⟨layout, start, count, carried, renamed, active, handle, bytes, -, -⟩ recoverable
      exact rotating_resumes env fits lawful floor chain next _ sink ⟨carried, layout, start, renamed, active⟩ recoverable

theorem guarded_reseal : Guarded (Dead env) (Reopened env fits floor chain next) (writeAnchor env)
    fun _ => Rotated env fits floor chain next := by
  refine guarded_get fun read => guarded_fs_op plan ?_ ?_
  · rintro sink ⟨rfl, ⟨carried, layout, start, renamed, active⟩, handle, bytes⟩
    obtain ⟨dir, replaced, later, sealed⟩ := renamed_resealed monotone next renamed active handle bytes
    rw [carried.chain, bytes]
    exact ⟨dir, replaced, .inl ⟨carried_after floor next dir carried, layout, later, sealed⟩⟩
  · rintro sink ⟨rfl, rotating, -, -⟩ recoverable
    exact rotating_resumes env fits lawful floor chain next _ sink rotating recoverable

theorem guarded_rotate :
    Guarded (Dead env) (fun sink => Carried floor next sink ∧ Between env fits chain sink ∧ sink.writer.fileBytes > 0) (rotate env)
      fun _ => Rotated env fits floor chain next := by
  let written (sink : Sink) : Prop := Carried floor next sink ∧ Between env fits chain sink ∧ sink.writer.fileBytes > 0
  have resumes : ∀ sink, written sink → sink.view.recoverable → ResumesAtTail env.ext sink.disk.dir :=
    fun sink holds _ => between_resumes lawful holds.2.1
  have rotatingResumes := rotating_resumes env fits lawful floor chain next
  refine guarded_bind (fun _ => written) ?_ fun _ => ?_
  · refine guarded_sync plan (fun _ => rfl) ?_ resumes
    rintro sink ⟨carried, between, bytes⟩
    exact ⟨carried_after floor next _ carried, between_congr monotone sink _ chain
      (same_log_after fun _ => rfl) rfl rfl between, bytes⟩
  refine guarded_get fun read => ?_
  refine guarded_bind (fun _ => Rotating env fits floor chain next none) ?_ fun _ => ?_
  · refine guarded_fs_op plan ?_ fun sink holds => resumes sink holds.2
    rintro sink ⟨rfl, carried, ⟨layout, start, before, tail, sealed, inv⟩, bytes⟩
    obtain ⟨dir, moved, later, shaped, renamed, absent⟩ := settled_renamed monotone rfl inv bytes
    exact ⟨dir, moved, .inl ⟨carried_after floor next dir carried, shaped, later, renamed, absent⟩⟩
  refine guarded_bind (fun _ => Rotating env fits floor chain next none) ?_ fun _ => ?_
  · refine guarded_set_writer fun sink inv => ?_
    obtain ⟨carried, layout, start, renamed, absent⟩ := inv
    exact ⟨⟨carried.floor, carried.chain⟩, layout, start,
      renamed_congr monotone sink _ ⟨rfl, rfl, Nat.le_refl _, rfl, rfl⟩ renamed, absent⟩
  refine guarded_bind (fun _ => Rotating env fits floor chain next none) ?_ fun _ => ?_
  · refine guarded_sync plan (fun _ => rfl) ?_ (rotatingResumes none)
    rintro sink ⟨carried, layout, start, renamed, absent⟩
    exact ⟨carried_after floor next _ carried, layout, start, renamed_congr monotone sink _
      (same_log_after fun _ => rfl) renamed, absent⟩
  refine guarded_bind (fun _ => Rotating env fits floor chain next (some [])) ?_ fun _ => ?_
  · refine guarded_fs_op plan ?_ (rotatingResumes none)
    rintro sink ⟨carried, layout, start, renamed, absent⟩
    obtain ⟨dir, opened, later, shaped, fresh, active⟩ := renamed_truncated monotone renamed absent
    exact ⟨dir, opened, .inl ⟨carried_after floor next dir carried, shaped, later, fresh, active⟩⟩
  refine guarded_bind (fun _ => Reopened env fits floor chain next) ?_ fun _ => ?_
  · refine guarded_set_writer fun sink inv => ?_
    obtain ⟨carried, layout, start, renamed, active⟩ := inv
    exact ⟨⟨⟨carried.floor, carried.chain⟩, layout, start,
      renamed_congr monotone sink _ ⟨rfl, rfl, Nat.le_refl _, rfl, rfl⟩ renamed, active⟩, rfl, rfl⟩
  refine guarded_bind (fun _ => Reopened env fits floor chain next) ?_ fun _ => ?_
  · exact guarded_prune env fits lawful monotone plan floor chain next
  · exact guarded_reseal env fits lawful monotone plan floor chain next

end Rotate

end Pkcs11Proxy.Audit
