import Pkcs11Proxy.Audit.CheckpointSteps

namespace Pkcs11Proxy.Audit

open Lib

variable {chain : ChainState} {record : AuditRecord} {sink : Sink}

section Records

variable {env : SinkEnv} (fits : Prop) (lawful : env.ext.Lawful) (monotone : fits → ∀ n m, n ≤ m → env.clock n ≤ env.clock m)
  (plan : CrashPlan env) (floor : Nat)

include lawful in
theorem ready_resumes (ready : Ready env fits floor chain record sink)
    (recoverable : sink.view.recoverable) : ResumesAtTail env.ext sink.disk.dir := by
  rcases ready with ⟨-, between⟩ | ⟨-, layout, start, inv⟩
  · exact between_resumes lawful between
  · rcases recoverable with settled | ⟨renamed, -⟩
    · rw [inv.phase] at settled
      cases settled
    · rw [inv.phase] at renamed
      cases renamed

include lawful monotone plan

theorem guarded_line (chain : ChainState) (record : AuditRecord) :
    Guarded (Dead env) (fun sink => Timely env fits floor record ∧ Ready env fits floor chain record sink)
      (lineStep env (chain.append env.ext record).1) fun _ => AtRest env fits floor := by
  refine guarded_get fun read => ?_
  refine guarded_bind (fun _ (sink : Sink) => AtRest env fits floor (sink.noted (toJsonl env.ext (chain.append env.ext record).1)) ∧
    0 < sink.view.lines) ?_ fun _ => ?_
  · refine guarded_fs_op plan ?_ ?_
    · rintro sink ⟨rfl, timely, ready⟩
      rw [ready_handle env fits floor chain record ready]
      exact ready_written env fits monotone floor chain record timely ready
    · rintro sink ⟨-, -, ready⟩
      exact ready_resumes fits lawful floor ready
  refine guarded_bind (fun _ sink => AtRest env fits floor sink ∧ 0 < sink.view.lines) ?_ fun _ => ?_
  · exact guarded_set_writer fun sink holds => holds
  refine guarded_get fun written => guarded_ite (fun _ => ?_) fun _ => ?_
  · refine guarded_weaken _ _ ?_ ?_ (guarded_checkpoint lawful monotone plan floor)
    · exact fun sink holds => ⟨holds.2.1, fun _ => holds.2.2⟩
    · exact fun _ sink flushed => flushed_at_rest floor flushed
  · exact guarded_pure fun sink holds => holds.2.1

theorem guarded_record_raw :
    Guarded (Dead env) (fun sink => Timely env fits floor record ∧ AtRest env fits floor sink) (writeRecordRaw env record)
      fun _ => AtRest env fits floor := by
  refine guarded_get fun read => ?_
  let chain := read.writer.chain
  let next := (chain.append env.ext record).2
  have finish := guarded_line fits lawful monotone plan floor chain record
  refine guarded_bind (fun _ sink => Timely env fits floor record ∧ sink.writer.fileBytes = read.writer.fileBytes ∧
    Carried floor next sink ∧ Between env fits chain sink) ?_ fun _ => ?_
  · refine guarded_set_writer ?_
    rintro sink ⟨rfl, timely, later, between⟩
    exact ⟨timely, rfl, ⟨later, rfl⟩, between_congr monotone sink _ _ ⟨rfl, rfl, Nat.le_refl _, rfl, rfl⟩ rfl rfl between⟩
  refine guarded_ite (fun full => ?_) fun _ => ?_
  · have rotated := guarded_frame (Timely env fits floor record)
      (guarded_rotate env fits lawful monotone plan floor chain next)
    refine guarded_bind _ (guarded_weaken _ _ ?_ ?_ rotated) fun _ => finish
    · rintro sink ⟨timely, bytes, carried, between⟩
      exact ⟨timely, carried, between, by rw [bytes]; exact full.1⟩
    · exact fun _ sink holds => ⟨holds.1, .inr holds.2⟩
  · refine guarded_weaken _ _ ?_ (fun _ _ holds => holds) finish
    exact fun sink holds => ⟨holds.1, .inl holds.2.2⟩

theorem guarded_gap_sentinel : Guarded (Dead env) (AtRest env fits floor) (maybeWriteGapSentinel env) fun _ => AtRest env fits floor := by
  refine guarded_get fun read => guarded_ite (fun _ => ?_) fun _ => ?_
  · exact guarded_pure fun sink holds => holds.2
  refine guarded_bind (fun _ => AtRest env fits floor) ?_ fun _ => ?_
  · refine guarded_set_writer ?_
    rintro sink ⟨-, later, between⟩
    exact ⟨later, between_congr monotone sink _ _ ⟨rfl, rfl, Nat.le_refl _, rfl, rfl⟩ rfl rfl between⟩
  let sentinel (now : UInt64) := gapSentinel now (read.writer.dropped - read.writer.lastSeenDropped)
  refine guarded_bind (fun now sink => ∃ taken, floor ≤ taken ∧ Timely env fits taken (sentinel now) ∧ AtRest env fits taken sink) ?_ fun now => ?_
  · refine guarded_now ?_
    rintro sink ⟨later, between⟩
    refine ⟨sink.disk.readings, later, fun _ => ⟨rfl, UInt64.le_refl _⟩, Nat.le_succ _, ?_⟩
    exact between_congr monotone sink _ _ ⟨rfl, rfl, Nat.le_succ _, rfl, rfl⟩ rfl rfl between
  · refine guarded_exists fun taken => ?_
    refine guarded_weaken _ _ (fun _ holds => holds) ?_ (guarded_frame (floor ≤ taken)
      (guarded_record_raw fits lawful monotone plan taken))
    exact fun _ sink holds => ⟨Nat.le_trans holds.1 holds.2.1, holds.2.2⟩

theorem guarded_record :
    Guarded (Dead env) (fun sink => Timely env fits floor record ∧ AtRest env fits floor sink) (writeRecord env record)
      fun _ => AtRest env fits floor :=
  guarded_bind _ (guarded_frame _ (guarded_gap_sentinel fits lawful monotone plan floor))
    fun _ => guarded_record_raw fits lawful monotone plan floor

theorem guarded_flush : Guarded (Dead env) (AtRest env fits floor) (flush env) fun _ => Flushed env fits floor := by
  refine guarded_bind (fun _ => AtRest env fits floor) (guarded_gap_sentinel fits lawful monotone plan floor) fun _ => ?_
  refine guarded_bind (fun _ => AtRest env fits floor) ?_ fun _ => ?_
  · refine guarded_sync plan (fun _ => rfl) ?_ fun sink rest _ => at_rest_resumes lawful floor rest
    rintro sink ⟨later, between⟩
    exact ⟨later, between_congr monotone sink _ _ (same_log_after fun _ => rfl) rfl rfl between⟩
  refine guarded_get fun read => guarded_ite (fun pending => ?_) fun none => ?_
  · refine guarded_weaken _ _ ?_ (fun _ _ holds => holds) (guarded_checkpoint lawful monotone plan floor)
    rintro sink ⟨rfl, rest⟩
    refine ⟨rest, fun fit => ?_⟩
    obtain ⟨-, layout, start, before, tail, sealed, inv⟩ := rest
    exact Nat.lt_of_lt_of_le pending (inv.disk.certified fit).pending
  · refine guarded_weaken _ _ ?_ (fun _ _ holds => holds) (guarded_seal lawful monotone plan floor)
    rintro sink ⟨rfl, rest⟩
    exact ⟨rest, Nat.eq_zero_of_not_pos none⟩

end Records

section Opening

variable (env : SinkEnv) (fits : Prop) (lawful : env.ext.Lawful) (monotone : fits → ∀ n m, n ≤ m → env.clock n ≤ env.clock m)
  (plan : CrashPlan env)

def Shut (chain : ChainState) (sink : Sink) : Prop :=
  sink.writer.recordsSinceCheckpoint = 0 ∧ ∃ layout start, OnDisk env fits sink layout start chain ∧ sink.view.phase = .settled ∧
    sink.writer.file = activeName ∧ sink.writer.fileBytes = (recordBytes env.ext (layout.active.getD [])).length ∧
    AnchorAt env.ext sink.disk.dir (recordBytes env.ext (layout.active.getD [])).length chain

variable {env fits}

theorem flushed_shut (floor : Nat) (sink : Sink) (flushed : Flushed env fits floor sink) :
    Shut env fits sink.writer.chain sink := by
  obtain ⟨-, since, layout, start, records, covered, inv, -⟩ := flushed
  have active : layout.active.getD [] = records := by rw [inv.active, List.append_nil, Option.getD_some]
  have bytes := inv.bytes
  rw [List.append_nil] at bytes
  exact ⟨since, layout, start, inv.disk, inv.phase, inv.handle, by rw [active, bytes], by rw [active]; exact inv.anchor⟩

include lawful in
theorem shut_reconstruct (shut : Shut env fits chain sink) :
    reconstructChainState env.ext sink.disk.dir = .ok chain := by
  obtain ⟨-, layout, start, disk, -, -, -, anchor⟩ := shut
  have held := layout_read_active disk.files
  cases shape : layout.active with
  | none =>
    rw [shape, Option.map_none] at held
    exact reconstruct_no_tail lawful (by rw [held]; rfl) anchor
  | some records =>
    rw [shape, Option.map_some] at held
    rw [shape, Option.getD_some] at anchor
    exact reconstruct_active lawful (by rw [held, List.append_nil]) anchor

include lawful in
theorem shut_resumes (shut : Shut env fits chain sink) : ResumesAtTail env.ext sink.disk.dir := by
  rw [ResumesAtTail, shut_reconstruct lawful shut]
  obtain ⟨-, layout, start, disk, -⟩ := shut
  rw [tail_head_records lawful disk]

include monotone in
theorem shut_opened {writer : WriterState} (shut : Shut env fits chain sink)
    (resumed : writer.chain = chain) (handle : writer.file = activeName)
    (bytes : writer.fileBytes = ((sink.disk.dir.readFile activeName).getD []).length) (count : writer.recordCount = 0)
    (since : writer.recordsSinceCheckpoint = 0) :
    AtRest env fits 0 { sink.after (.openAppend activeName) (sink.disk.dir.createFile activeName) with writer := writer } := by
  obtain ⟨cleared, layout, start, disk, phase, file, length, anchor⟩ := shut
  let opened := sink.after (.openAppend activeName) (sink.disk.dir.createFile activeName)
  have view : opened.view = sink.view := view_after sink _ _
  have kept : opened.disk.dir.checkpoints = sink.disk.dir.checkpoints ∧ opened.disk.dir.anchor = sink.disk.dir.anchor := by
    simp only [opened, Sink.after, LogDir.createFile]
    split
    all_goals exact ⟨rfl, rfl⟩
  have records : layout.records = LogLayout.records ⟨layout.rotated, some (layout.active.getD [])⟩ := rfl
  have sameBytes : writer.fileBytes = opened.writer.fileBytes := by
    rw [bytes, layout_read_active disk.files, show opened.writer.fileBytes = _ from length]
    cases layout.active with
    | none | some => rfl
  obtain ⟨later, disk⟩ := on_disk_reshaped monotone sink opened layout ⟨layout.rotated, some (layout.active.getD [])⟩ start
    chain [] records id ⟨kept.1, by rw [view], Nat.le_refl _, rfl, rfl⟩ (create_active env.ext disk.files)
    disk.numbered disk.filled disk.below disk
  have settled : Settled env fits opened ⟨layout.rotated, some (layout.active.getD [])⟩ later chain (layout.active.getD []) [] chain := by
    refine ⟨disk, by rw [view]; exact phase, by rw [List.append_nil], file, by rw [List.append_nil]; exact length, ?_, fun _ => rfl,
      fun _ => rfl⟩
    rw [AnchorAt, kept.2]
    exact anchor
  refine ⟨Nat.zero_le _, ?_⟩
  rw [resumed]
  refine ⟨_, later, _, [], chain, settled_recertified opened _ rfl rfl rfl (handle.trans file.symm)
    sameBytes (fun fit => ?_) settled⟩
  have certified := disk.certified fit
  obtain ⟨held, holds, binds, latest⟩ := certified.sidecar
  refine ⟨certified.current, certified.stamps, ?_, ?_, held, holds, binds, fun signing _ => latest signing cleared⟩
  · rw [count]
    exact Nat.zero_le _
  · rw [since]
    exact Nat.zero_le _

end Opening

end Pkcs11Proxy.Audit
