import Pkcs11Proxy.Audit.RotationSteps

namespace Pkcs11Proxy.Audit

open Lib

def noteLine (line : Bytes) (writer : WriterState) : WriterState :=
  { writer with
      fileBytes := writer.fileBytes + line.length
      recordCount := writer.recordCount + 1
      recordsSinceCheckpoint := writer.recordsSinceCheckpoint + 1 }

def lineStep (env : SinkEnv) (stamped : AuditRecord) : SinkM Unit := do
  let current ← get
  fsOp env (.writeAll current.writer.file (toJsonl env.ext stamped))
  setWriter (noteLine (toJsonl env.ext stamped))
  let written ← get
  if written.writer.recordsSinceCheckpoint ≥ env.checkpointInterval then doCheckpoint env

variable {record : AuditRecord} {sink : Sink}

theorem write_record_raw_steps {env : SinkEnv} {chain : ChainState}
    (head : sink.writer.chain = chain) :
    writeRecordRaw env record sink =
      (if sink.writer.fileBytes > 0 ∧
          sink.writer.fileBytes + (toJsonl env.ext (chain.append env.ext record).1).length > sink.writer.rotateMaxBytes then
        rotate env >>= fun _ => lineStep env (chain.append env.ext record).1
      else lineStep env (chain.append env.ext record).1)
        { sink with writer := { sink.writer with chain := (chain.append env.ext record).2 } } := by
  subst head
  rfl

section Append

variable {env : SinkEnv} {fits : Prop} (floor : Nat) {sink : Sink} {layout : LogLayout} {start chain : ChainState}

theorem toNat_succ_le {a : UInt64} : (a + 1).toNat ≤ a.toNat + 1 := by
  exact Nat.mod_le _ _

theorem head_seq (disk : OnDisk env fits sink layout start chain) : chain.lastSeq.toNat = sink.view.lines := by
  rw [← disk.total]
  exact chained_length start chain layout.records disk.linked (by rw [disk.total]; exact disk.room)

theorem certified_appended {next : Sink} (disk : OnDisk env fits sink layout start chain)
    (timely : record.schemaVersion = auditSchemaVersion ∧ record.tsUnixMs ≤ env.clock sink.disk.readings)
    (checkpoints : next.disk.dir.checkpoints = sink.disk.dir.checkpoints) (readings : next.disk.readings = sink.disk.readings)
    (lines : next.view.lines = sink.view.lines + 1) (count : next.writer.recordCount = sink.writer.recordCount + 1)
    (since : next.writer.recordsSinceCheckpoint = sink.writer.recordsSinceCheckpoint + 1) (certified : Certified env sink layout.records) :
    Certified env next (layout.records ++ [(chain.append env.ext record).1]) where
  current := forall_added certified.current timely.1
  stamps := by
    rw [readings]
    exact forall_added certified.stamps timely.2
  counted := by
    rw [count, lines]
    exact Nat.le_trans toNat_succ_le (Nat.succ_le_succ certified.counted)
  pending := by
    rw [since, lines]
    exact Nat.succ_le_succ certified.pending
  sidecar := by
    obtain ⟨held, holds, binds, -⟩ := certified.sidecar
    have head := head_seq disk
    rw [lines, since]
    refine ⟨held, ?_, fun line member => ⟨⟨(binds line member).1.count, ?_, (binds line member).1.signature⟩, ?_⟩, ?_⟩
    · rw [HoldsLines, checkpoints]
      exact holds
    · intro other inside same
      rcases List.mem_append.mp inside with older | last
      · exact (binds line member).1.content other older same
      · have before := (binds line member).2
        rw [List.mem_singleton.mp last] at same
        rw [← same, show (chain.append env.ext record).1.seq = chain.lastSeq from rfl, head] at before
        exact absurd before (Nat.lt_irrefl _)
    · exact Nat.lt_succ_of_lt (binds line member).2
    · intro _ settled
      cases settled

theorem on_disk_appended (records : List AuditRecord) (record : AuditRecord) (next : Sink)
    (disk : OnDisk env fits sink layout start chain) (active : layout.active = some records)
    (timely : Timely env fits sink.disk.readings record) (room : sink.view.lines + 1 < 2 ^ 64)
    (files : next.disk.dir = sink.disk.dir.appendFile activeName (toJsonl env.ext (chain.append env.ext record).1))
    (readings : next.disk.readings = sink.disk.readings) (lines : next.view.lines = sink.view.lines + 1)
    (writer : next.writer = noteLine (toJsonl env.ext (chain.append env.ext record).1) sink.writer) :
    OnDisk env fits next ⟨layout.rotated, some (records ++ [(chain.append env.ext record).1])⟩ start (chain.append env.ext record).2 := by
  have shape : layout = ⟨layout.rotated, some records⟩ := by rw [← active]
  have held := disk.files
  rw [shape] at held
  have grown : LogLayout.records ⟨layout.rotated, some (records ++ [(chain.append env.ext record).1])⟩ =
      layout.records ++ [(chain.append env.ext record).1] := by
    rw [LogLayout.records, LogLayout.records, active, Option.getD_some, Option.getD_some, List.append_assoc]
  constructor
  · rw [files]
    exact append_active env.ext held
  · exact disk.numbered
  · exact disk.filled
  · rw [grown]
    exact chained_stamped disk.linked
  · intro empty
    rw [grown] at empty
    simp at empty
  · rw [grown, lines, List.length_append, ← disk.total]
    rfl
  · intro segment member
    have below := disk.below segment member
    rw [lines, Option.getD_some, if_neg (by simp)]
    omega
  · rw [lines]
    exact room
  · intro fit
    rw [grown]
    exact certified_appended disk (timely fit) (by rw [files]; rfl) readings lines
      (by rw [writer]; rfl) (by rw [writer]; rfl) (disk.certified fit)

end Append

section Line

variable (env : SinkEnv) (fits : Prop) (lawful : env.ext.Lawful) (monotone : fits → ∀ n m, n ≤ m → env.clock n ≤ env.clock m)
  (plan : CrashPlan env) (floor : Nat) (chain : ChainState) (record : AuditRecord)

def Ready (sink : Sink) : Prop :=
  (Carried floor (chain.append env.ext record).2 sink ∧ Between env fits chain sink) ∨
    Rotated env fits floor chain (chain.append env.ext record).2 sink

def AtRest (sink : Sink) : Prop := floor ≤ sink.disk.readings ∧ Between env fits sink.writer.chain sink

def Sink.noted (sink : Sink) (line : Bytes) : Sink := { sink with writer := noteLine line sink.writer }

theorem ready_handle (ready : Ready env fits floor chain record sink) : sink.writer.file = activeName := by
  rcases ready with ⟨-, layout, start, before, tail, sealed, inv⟩ | ⟨-, layout, start, inv⟩
  · exact inv.handle
  · exact inv.handle

include monotone

theorem ready_written (timely : Timely env fits floor record) (ready : Ready env fits floor chain record sink) :
    ∃ dir, (FsOp.writeAll activeName (toJsonl env.ext (chain.append env.ext record).1)).perform sink.disk.dir = some dir ∧
      ((AtRest env fits floor ((sink.after (.writeAll activeName (toJsonl env.ext (chain.append env.ext record).1)) dir).noted
        (toJsonl env.ext (chain.append env.ext record).1)) ∧
          0 < (sink.after (.writeAll activeName (toJsonl env.ext (chain.append env.ext record).1)) dir).view.lines) ∨
        2 ^ 64 ≤ (sink.after (.writeAll activeName (toJsonl env.ext (chain.append env.ext record).1)) dir).view.lines) := by
  let line := toJsonl env.ext (chain.append env.ext record).1
  let dir := sink.disk.dir.appendFile activeName line
  let last := (sink.after (.writeAll activeName line) dir).noted line
  have view : (sink.after (.writeAll activeName line) dir).view = ⟨.settled, sink.view.phase == .resealed, sink.view.lines + 1⟩ :=
    view_after sink _ dir
  have lastView : last.view = ⟨.settled, sink.view.phase == .resealed, sink.view.lines + 1⟩ := view
  by_cases overrun : 2 ^ 64 ≤ sink.view.lines + 1
  · have opened : ∃ records, sink.disk.dir.readFile activeName = some records := by
      rcases ready with ⟨-, layout, start, before, tail, sealed, inv⟩ | ⟨-, layout, start, inv⟩
      · exact ⟨_, by rw [layout_read_active inv.disk.files, inv.active, Option.map_some]⟩
      · exact ⟨_, by rw [layout_read_active inv.disk.files, inv.active, Option.map_some]⟩
    obtain ⟨records, held⟩ := opened
    exact ⟨dir, by rw [FsOp.perform, held, Option.map_some], .inr (by rw [view]; exact overrun)⟩
  · have room : sink.view.lines + 1 < 2 ^ 64 := by omega
    rcases ready with ⟨carried, layout, start, before, tail, sealed, inv⟩ | ⟨carried, layout, start, inv⟩
    · have held := layout_read_active inv.disk.files
      rw [inv.active, Option.map_some] at held
      have later : Timely env fits sink.disk.readings record := fun fit =>
        ⟨(timely fit).1, UInt64.le_trans (timely fit).2 (monotone fit _ _ carried.floor)⟩
      have disk := on_disk_appended (before ++ tail) record last inv.disk inv.active later room rfl rfl
        (by rw [lastView]) rfl
      rw [List.append_assoc] at disk
      refine ⟨dir, by rw [FsOp.perform, held, Option.map_some], .inl ⟨⟨carried.floor, ?_⟩, by rw [view]; exact Nat.succ_pos _⟩⟩
      change Between env fits sink.writer.chain last
      rw [carried.chain]
      refine ⟨_, start, before, tail ++ [(chain.append env.ext record).1], sealed, disk, by rw [lastView], rfl, inv.handle, ?_,
        inv.anchor, fun empty => ?_, fun anchored => ?_⟩
      · change sink.writer.fileBytes + line.length = _
        rw [inv.bytes, ← List.append_assoc, record_bytes_snoc, List.length_append]
      · simp at empty
      · rw [lastView, inv.phase] at anchored
        cases anchored
    · have held := layout_read_active inv.disk.files
      rw [inv.active, Option.map_some] at held
      have later : Timely env fits sink.disk.readings record := fun fit =>
        ⟨(timely fit).1, UInt64.le_trans (timely fit).2 (monotone fit _ _ carried.floor)⟩
      have disk := on_disk_appended [] record last inv.disk inv.active later room rfl rfl
        (by rw [lastView]) rfl
      refine ⟨dir, by rw [FsOp.perform, held, Option.map_some], .inl ⟨⟨carried.floor, ?_⟩, by rw [view]; exact Nat.succ_pos _⟩⟩
      change Between env fits sink.writer.chain last
      rw [carried.chain]
      refine ⟨_, start, [], [(chain.append env.ext record).1], (chain.append env.ext record).2, disk, by rw [lastView], rfl, inv.handle,
        ?_, inv.anchor, fun empty => ?_, fun _ => rfl⟩
      · change sink.writer.fileBytes + line.length = _
        rw [inv.bytes, record_bytes_snoc, List.length_append]
        rfl
      · cases empty

end Line

end Pkcs11Proxy.Audit
