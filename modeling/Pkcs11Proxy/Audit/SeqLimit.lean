import Pkcs11Proxy.Audit.DropTally
import Pkcs11Proxy.Audit.Tamper
import Pkcs11Proxy.Audit.WriteOutcomes

namespace Pkcs11Proxy.Audit

open Lib

-- An unsigned log that rotates before every line but the first and keeps one
-- rotated file, so that its counters reach the last seq with two small files.
def limitEnv : SinkEnv := ⟨plainExternals, fun _ => 0, fun _ => true, fun _ => 0, none, 1⟩

-- The write that rotates takes one of the numbers left for rotated files.
structure AtBrim (count : Nat) (sink : Sink) : Prop where
  tallied : ∃ total, Tallying limitEnv 0 True ⟨total, 0, 0, (true, none)⟩ sink
  ends : ∃ last head, Ends plainExternals (2 ^ 64 - count) (some last) head sink ∧ last.seq = UInt64.ofNat (count - 1) ∧
    head.lastSeq = UInt64.ofNat count

variable {sink : Sink} {count : Nat} {record : AuditRecord}

theorem limit_unfaulted {since : Nat} (faulted : Faulted limitEnv since sink) : False := by
  obtain ⟨n, -, -, failed⟩ := faulted
  cases failed

variable {total : Nat}

theorem no_sentinel_due {desk : Bool × Option Nat} (tallying : Tallying limitEnv 0 True ⟨total, 0, 0, desk⟩ sink) :
    maybeWriteGapSentinel limitEnv sink = .ok () sink := by
  refine run_get.trans (congrFun (if_pos ?_) _)
  rw [tallying.1.dropped, tallying.1.seen]
  exact Nat.le_refl 0

theorem recorded_brim (tallying : Tallying limitEnv 0 True ⟨total, 0, 0, (true, none)⟩ sink)
    (seq : sink.writer.chain.lastSeq = UInt64.ofNat count)
    (ending : ∀ next, writeRecordRaw limitEnv record sink = .ok () next → Ends plainExternals (2 ^ 64 - (count + 1))
      (some (sink.writer.chain.append plainExternals record).1) (sink.writer.chain.append plainExternals record).2 next) :
    AtBrim (count + 1) (sinkStep limitEnv sink (.receive (.record record))) := by
  have raw := tally_record_raw limitEnv plain_externals_lawful.record 0 True ⟨total, 0, 0, (true, none)⟩ record
  rw [received_record limitEnv (Prod.mk.inj tallying.1.desk).1, runProc, writeRecord, run_bind sink sink () (no_sentinel_due tallying)]
  cases ran : writeRecordRaw limitEnv record sink with
  | error error next => rcases raw.fails sink error next ran tallying with broken | broken <;> exact (limit_unfaulted (broken.2 trivial)).elim
  | ok _ next =>
    refine ⟨⟨_, raw.ends sink _ next ran tallying⟩, _, _, ending next ran, seq, ?_⟩
    change sink.writer.chain.lastSeq + 1 = _
    rw [seq, UInt64.ofNat_add]
    rfl

theorem first_brim : AtBrim 1 (sinkStep limitEnv (bootSink limitEnv "log" 1 1) (.receive (.record record))) := by
  refine recorded_brim ⟨⟨rfl, rfl, rfl, rfl, Nat.zero_le _⟩, fun _ => ⟨rfl, rfl⟩⟩ rfl fun next ran => ?_
  rw [write_record_raw_steps rfl, if_neg fun grown => absurd grown.1 (Nat.lt_irrefl 0)] at ran
  have ordered (writer : WriterState) (file : writer.file = activeName) (bytes : writer.fileBytes = 0) :
      InOrder plainExternals (2 ^ 64 - 1) ⟨[], some []⟩ (bootSink limitEnv "log" 1 1).disk.dir writer :=
    ⟨rfl, .nil, by simp, by decide, .active [] [] file bytes⟩
  exact ((outcomes_line_at (fun _ _ => rfl) (ordered _ rfl rfl)).ends _ _ next ran ⟨rfl, rfl, rfl⟩).2

theorem record_brim (brim : AtBrim count sink) (room : count < 2 ^ 64) :
    AtBrim (count + 1) (sinkStep limitEnv sink (.receive (.record record))) := by
  obtain ⟨⟨total, tallying⟩, last, head, ⟨layout, ordered, -, rfl⟩, -, seq⟩ := brim
  have left : 2 ^ 64 - count = 2 ^ 64 - (count + 1) + 1 := by omega
  rw [left] at ordered
  exact recorded_brim tallying seq fun next ran => ((outcomes_write_at (fun _ _ => rfl) ordered).ends sink _ next ran rfl).2

theorem run_brim (record : AuditRecord) (count : Nat) (some : 1 ≤ count) (room : count ≤ 2 ^ 64) : AtBrim count
    (runSink limitEnv (bootSink limitEnv "log" 1 1) (List.replicate count (.receive (.record record)))) := by
  induction count, some using Nat.le_induction with
  | base => exact first_brim
  | succ count _ ih =>
    rw [List.replicate_succ', runSink, List.foldl_append]
    exact record_brim (ih (Nat.le_of_succ_le room)) room

theorem timely_replicate (current : record.schemaVersion = auditSchemaVersion) (past : record.tsUnixMs ≤ 0)
    (count : Nat) (sink : Sink) : TimelyRun limitEnv True sink (List.replicate count (.receive (.record record))) := by
  induction count generalizing sink with
  | zero => exact trivial
  | succ count ih => exact ⟨fun _ => ⟨current, past⟩, ih _⟩

theorem flush_brim (brim : AtBrim count sink) : ∃ done rotations last head, flush limitEnv sink = .ok () done ∧
    Ends plainExternals rotations (some last) head done ∧ last.seq = UInt64.ofNat (count - 1) := by
  obtain ⟨⟨total, tallying⟩, last, head, ends, top, -⟩ := brim
  have seals : KeepsTally limitEnv 0 True ⟨total, 0, 0, (true, none)⟩ _ := tally_seal
  have keeps := outcomes_seal_framed limitEnv (ends_congr limitEnv (2 ^ 64 - count) (some last) head)
  rw [flush, run_bind sink sink () (no_sentinel_due tallying)]
  cases ran : (_ : SinkM Unit) sink with
  | error error done => exact (limit_unfaulted ((seals.fails sink error done ran tallying).2 trivial)).elim
  | ok _ done => exact ⟨done, _, last, head, ran, keeps.ends sink _ done ran ends, top⟩

theorem brim_refused {rotations : Nat} {last : AuditRecord} {head : ChainState} (ends : Ends plainExternals rotations (some last) head sink)
    (top : last.seq = u64Max) {key : Option String} {report : VerifyReport} (verified : verifyDir plainExternals sink.disk.dir key = .ok report) :
    ¬ CleanReport report (retainedLines sink.disk.dir) := by
  intro clean
  obtain ⟨needed, total, agrees⟩ := verify_dir_accepts plainExternals verified clean.chainOk
  obtain ⟨layout, ordered, ended, -⟩ := ends
  have listed : sink.disk.dir.files.Perm (layout.files plainExternals) := ordered.files ▸ List.Perm.refl _
  obtain ⟨earlier, split⟩ := List.getLast?_eq_some_iff.mp ended
  rw [presented_layout plain_externals_lawful.record layout sink.disk.dir ordered.numbered listed, split,
    List.foldl_append, List.foldl_cons, List.foldl_nil] at agrees total
  generalize earlier.foldl (StreamReplay.push plainExternals) (StreamReplay.new needed) = replay at agrees total
  have counted : (replay.push plainExternals last).finish.records ≠ 0 := by
    intro none
    have lines := clean.counted
    rw [total.trans none, retained_layout plain_externals_lawful.record listed, split] at lines
    simp at lines
  have lastSeq : (replay.push plainExternals last).finish.lastSeq = u64Max := top
  rw [checkAnchor, lastSeq, beq_false_of_ne counted] at agrees
  split at agrees
  · cases agrees
  · split at agrees <;> cases agrees

-- Two to the 64 records wrap the chain's next seq to zero, and the log they leave
-- is not accepted.
theorem flushed_log_overflows :
    limitEnv.ext.Lawful ∧ CollisionFree (recordHash limitEnv.ext) genesisHash ∧ (∀ n, limitEnv.works n = true) ∧
      (∀ n m, n ≤ m → limitEnv.clock n ≤ limitEnv.clock m) ∧
      ∃ events done, TimelyRun limitEnv True (bootSink limitEnv "log" 1 1) events ∧
        flush limitEnv (runSink limitEnv (bootSink limitEnv "log" 1 1) events) = .ok () done ∧
        ¬ ∃ report, verifyDir limitEnv.ext done.disk.dir none = .ok report ∧ CleanReport report (retainedLines done.disk.dir) := by
  refine ⟨plain_externals_lawful, plain_collision_free, fun _ => rfl, fun _ _ _ => UInt64.le_refl _, ?_⟩
  obtain ⟨done, rotations, last, head, ran, ends, top⟩ := flush_brim (run_brim (gapSentinel 0 1) (2 ^ 64) (Nat.two_pow_pos 64) (Nat.le_refl _))
  refine ⟨_, done, timely_replicate rfl (UInt64.le_refl _) (2 ^ 64) _, ran, ?_⟩
  rintro ⟨report, verified, clean⟩
  exact brim_refused ends top verified clean

end Pkcs11Proxy.Audit
