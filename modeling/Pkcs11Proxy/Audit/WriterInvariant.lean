import Pkcs11Proxy.Audit.Recovery
import Pkcs11Proxy.Audit.Writer
import Pkcs11Proxy.Lib.Triples

namespace Pkcs11Proxy.Audit

open Lib

-- Where a log stands between two file operations: an ordinary point, a rotation
-- whose rename is done, or one whose own anchor is written and whose line is not.
inductive LogPhase where
  | settled
  | renamed
  | resealed
deriving DecidableEq, Repr

structure JournalView where
  phase : LogPhase
  anchored : Bool
  lines : Nat
deriving DecidableEq, Repr

def JournalView.observe (view : JournalView) : FsOp → JournalView
  | .writeAll _ _ => ⟨.settled, view.phase == .resealed, view.lines + 1⟩
  | .replaceAnchor _ =>
    match view.phase with
    | .settled => { view with anchored := true }
    | _ => { view with phase := .resealed }
  | .rename _ _ => { view with phase := .renamed }
  | _ => view

def journalView (journal : List FsOp) : JournalView := journal.foldl JournalView.observe ⟨.settled, true, 0⟩

def JournalView.recoverable (view : JournalView) : Prop :=
  view.phase = .settled ∨ (view.phase = .renamed ∧ view.anchored = true)

def Sink.view (sink : Sink) : JournalView := journalView sink.disk.journal

def ResumesAtTail (ext : Externals) (dir : LogDir) : Prop :=
  reconstructChainState ext dir = .ok (tailHead ext ChainState.genesis (presentedRecords ext dir))

structure Crashed (env : SinkEnv) (sink : Sink) : Prop where
  frozen : ∀ n, sink.disk.attempts ≤ n → env.works n = false
  resumes : sink.view.recoverable → ResumesAtTail env.ext sink.disk.dir

def Dead (env : SinkEnv) (sink : Sink) : Prop := Crashed env sink ∨ 2 ^ 64 ≤ sink.view.lines

structure Certified (env : SinkEnv) (sink : Sink) (records : List AuditRecord) : Prop where
  current : ∀ record ∈ records, record.schemaVersion = auditSchemaVersion
  stamps : ∀ record ∈ records, record.tsUnixMs ≤ env.clock sink.disk.readings
  counted : sink.writer.recordCount.toNat ≤ sink.view.lines
  pending : sink.writer.recordsSinceCheckpoint ≤ sink.view.lines
  sidecar : ∃ lines, HoldsLines env.ext sink.disk.dir lines ∧
    (∀ line ∈ lines, Binds env.ext env.signer records line ∧ line.checkpoint.seq.toNat < sink.view.lines) ∧
    (env.signer.isSome → sink.writer.recordsSinceCheckpoint = 0 → records ≠ [] →
      ∃ line ∈ lines, line.checkpoint.seq.toNat + 1 = sink.view.lines)

structure OnDisk (env : SinkEnv) (fits : Prop) (sink : Sink) (layout : LogLayout) (start chain : ChainState) : Prop where
  files : sink.disk.dir.files = layout.files env.ext
  numbered : layout.numbered
  filled : ∀ segment ∈ layout.rotated, segment.2 ≠ []
  linked : Chained env.ext start layout.records chain
  unwritten : layout.records = [] → chain = ChainState.genesis
  total : start.lastSeq.toNat + layout.records.length = sink.view.lines
  below : ∀ segment ∈ layout.rotated, segment.1 + (if layout.active.getD [] = [] then 0 else 1) ≤ sink.view.lines
  room : sink.view.lines < 2 ^ 64
  certified : fits → Certified env sink layout.records

structure Settled (env : SinkEnv) (fits : Prop) (sink : Sink) (layout : LogLayout) (start chain : ChainState)
    (before tail : List AuditRecord) (sealed : ChainState) : Prop where
  disk : OnDisk env fits sink layout start chain
  phase : sink.view.phase = .settled
  active : layout.active = some (before ++ tail)
  handle : sink.writer.file = activeName
  bytes : sink.writer.fileBytes = (recordBytes env.ext (before ++ tail)).length
  anchor : AnchorAt env.ext sink.disk.dir (recordBytes env.ext before).length sealed
  covers : tail = [] → sealed = chain
  current : sink.view.anchored = true → sealed = chain

structure Renamed (env : SinkEnv) (fits : Prop) (sink : Sink) (layout : LogLayout) (start chain : ChainState) : Prop where
  disk : OnDisk env fits sink layout start chain
  phase : sink.view.phase = .renamed
  active : layout.active.getD [] = []
  written : layout.rotated ≠ []
  anchor : ∃ covered sealed, AnchorAt env.ext sink.disk.dir covered sealed ∧ (sink.view.anchored = true → sealed = chain)

structure Resealed (env : SinkEnv) (fits : Prop) (sink : Sink) (layout : LogLayout) (start chain next : ChainState) : Prop where
  disk : OnDisk env fits sink layout start chain
  phase : sink.view.phase = .resealed
  active : layout.active = some []
  handle : sink.writer.file = activeName
  bytes : sink.writer.fileBytes = 0
  anchor : AnchorAt env.ext sink.disk.dir 0 next

section Recoverable

variable {env : SinkEnv} {fits : Prop} (lawful : env.ext.Lawful) {sink : Sink} {layout : LogLayout} {start chain : ChainState}

include lawful

theorem tail_head_records (disk : OnDisk env fits sink layout start chain) :
    tailHead env.ext ChainState.genesis (presentedRecords env.ext sink.disk.dir) = chain := by
  rw [presented_layout lawful.record layout sink.disk.dir disk.numbered (disk.files ▸ List.Perm.refl _)]
  have linked := disk.linked
  have unwritten := disk.unwritten
  rcases List.eq_nil_or_concat' layout.records with empty | ⟨front, last, shape⟩
  · rw [unwritten empty, empty]
    rfl
  · rw [shape] at linked ⊢
    rw [chained_last linked, tailHead, List.getLast?_concat]

theorem settled_resumes {before tail : List AuditRecord} {sealed : ChainState}
    (inv : Settled env fits sink layout start chain before tail sealed) : ResumesAtTail env.ext sink.disk.dir := by
  have held := layout_read_active inv.disk.files
  rw [inv.active, Option.map_some] at held
  rw [ResumesAtTail, reconstruct_active lawful held inv.anchor,
    tail_head_records lawful inv.disk]
  congr 1
  rcases List.eq_nil_or_concat' tail with rfl | ⟨front, last, rfl⟩
  · rw [inv.covers rfl]
    rfl
  · have linked := inv.disk.linked
    rw [LogLayout.records, inv.active, Option.getD_some, ← List.append_assoc, ← List.append_assoc] at linked
    rw [chained_last linked, tailHead, List.getLast?_concat]

theorem renamed_resumes (inv : Renamed env fits sink layout start chain) (anchored : sink.view.anchored = true) :
    ResumesAtTail env.ext sink.disk.dir := by
  obtain ⟨covered, sealed, anchor, current⟩ := inv.anchor
  have held := layout_read_active inv.disk.files
  have noTail : (sink.disk.dir.readFile activeName).getD [] = [] := by
    rw [held]
    cases shape : layout.active with
    | none => rfl
    | some records =>
      have empty := inv.active
      rw [shape, Option.getD_some] at empty
      rw [empty]
      rfl
  rw [ResumesAtTail, reconstruct_no_tail lawful noTail anchor, current anchored,
    tail_head_records lawful inv.disk]

end Recoverable

end Pkcs11Proxy.Audit
