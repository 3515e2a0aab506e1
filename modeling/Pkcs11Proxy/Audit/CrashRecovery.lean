import Pkcs11Proxy.Audit.PlainExternals
import Pkcs11Proxy.Audit.SinkEvents

namespace Pkcs11Proxy.Audit

open Lib

section

variable (env : SinkEnv) {sink : Sink}

theorem timely_unfit (events : List SinkEvent) : TimelyRun env False sink events := by
  induction events generalizing sink with
  | nil => exact trivial
  | cons event rest ih =>
    refine ⟨?_, ih⟩
    cases event with
    | receive msg =>
      cases msg with
      | record record => exact False.elim
      | _ => exact trivial
    | _ => exact trivial

theorem alive_resumes (lawful : env.ext.Lawful) (alive : Alive env False sink) (room : sink.view.lines < 2 ^ 64)
    (recoverable : sink.view.recoverable) : ResumesAtTail env.ext sink.disk.dir := by
  rcases alive with rest | crashed | overrun
  · exact at_rest_resumes lawful 0 rest
  · exact crashed.resumes recoverable
  · exact absurd overrun (Nat.not_le_of_lt room)

theorem open_writer_ok (reopened : SinkEnv) (rotateMaxBytes rotateKeepFiles : Nat) (sink : Sink) (chain : ChainState)
    (resumes : reconstructChainState reopened.ext sink.disk.dir = .ok chain) (works : reopened.works sink.disk.attempts = true) :
    openWriter reopened rotateMaxBytes rotateKeepFiles sink =
      .ok () { sink.after (.openAppend activeName) (sink.disk.dir.createFile activeName) with
        writer := ⟨chain, activeName, ((sink.disk.dir.readFile activeName).getD []).length, rotateMaxBytes, rotateKeepFiles, 0, 0, 0, 0⟩ } := by
  refine run_get.trans ?_
  simp only [resumes]
  exact run_fs_op_bind (.openAppend activeName) sink _ works rfl

theorem open_resumes {reopened : SinkEnv} (rotateMaxBytes rotateKeepFiles : Nat) {chain : ChainState}
    (resumes : reconstructChainState reopened.ext sink.disk.dir = .ok chain) (works : reopened.works sink.disk.attempts = true) :
    (openSink reopened rotateMaxBytes rotateKeepFiles sink).running = true ∧
      (openSink reopened rotateMaxBytes rotateKeepFiles sink).writer.chain = chain := by
  simp [openSink, open_writer_ok reopened rotateMaxBytes rotateKeepFiles sink chain resumes works]

-- A crash anywhere but between a rotation's rename and its line, or there with an
-- anchor that already sealed the last line: the writer resumes right after it.
theorem crash_resumes_at_tail (lawful : env.ext.Lawful) (crash : CrashPlan env)
    (path : String) (rotateMaxBytes rotateKeepFiles : Nat) (events : List SinkEvent) (sink : Sink)
    (ran : runSink env (bootSink env path rotateMaxBytes rotateKeepFiles) events = sink) (room : sink.view.lines < 2 ^ 64)
    (recoverable : sink.view.recoverable) (reopened : SinkEnv) (same : reopened.ext = env.ext)
    (works : reopened.works sink.disk.attempts = true) (rotateMaxBytes' rotateKeepFiles' : Nat) :
    (openSink reopened rotateMaxBytes' rotateKeepFiles' sink).running = true ∧
      (openSink reopened rotateMaxBytes' rotateKeepFiles' sink).writer.chain =
        tailHead env.ext ChainState.genesis (presentedRecords env.ext sink.disk.dir) := by
  have alive := run_sink_alive env False lawful (fun unfit => unfit.elim) crash (timely_unfit env events)
    (boot_alive env False lawful (fun unfit => unfit.elim) crash path rotateMaxBytes rotateKeepFiles)
  rw [ran] at alive
  have resumes := alive_resumes env lawful alive room recoverable
  rw [← same] at resumes ⊢
  exact open_resumes rotateMaxBytes' rotateKeepFiles' resumes works

end

def steadyEnv : SinkEnv := ⟨plainExternals, fun _ => 0, fun _ => true, fun _ => 0, none, 1000⟩

def crashEnv (executed : Nat) : SinkEnv := { steadyEnv with works := fun n => decide (n < executed) }

theorem crash_env_plan {executed : Nat} : CrashPlan (crashEnv executed) where
  stays _ _ later stopped := decide_eq_false (Nat.not_lt_of_le (Nat.le_trans (Nat.not_lt.mp (of_decide_eq_false stopped)) later))
  untorn _ _ := rfl

def sampleEvent : SinkEvent := .receive (.record (gapSentinel 0 1))

theorem crash_resumes_after_write : ∃ sink,
    runSink (crashEnv 2) (bootSink (crashEnv 2) "log" 1 1) [sampleEvent, .receive (.flush 7), .queueEmpty] = sink ∧
      sink.view.lines = 1 ∧ sink.answers = [(7, false)] ∧ (openSink steadyEnv 1 1 sink).writer.chain =
        tailHead plainExternals ChainState.genesis (presentedRecords plainExternals sink.disk.dir) :=
  ⟨_, rfl, rfl, rfl, (crash_resumes_at_tail (crashEnv 2) plain_externals_lawful crash_env_plan "log" 1 1
    [sampleEvent, .receive (.flush 7), .queueEmpty] _ rfl (by decide) (.inl rfl) steadyEnv rfl rfl 1 1).2⟩

theorem rotate_cut (executed : Nat) (sink : Sink) (record : AuditRecord) (attempts : sink.disk.attempts + 2 = executed)
    (files : sink.disk.dir.files = LogLayout.files plainExternals ⟨[], some [record]⟩) :
    ∃ next, rotate (crashEnv executed) sink = .error .fault next ∧
      next.disk.dir.files = LogLayout.files plainExternals ⟨[(1, [record])], none⟩ ∧ next.disk.dir.anchor = sink.disk.dir.anchor := by
  have held := layout_read_active files
  have first : findMaxRotationN sink.disk.dir = 0 := find_max_layout files (by simp)
  let renamed := sink.disk.dir.renameFile activeName (rotatedName 1)
  have performed : (FsOp.rename activeName (rotatedName (findMaxRotationN sink.disk.dir + 1))).perform sink.disk.dir = some renamed := by
    rw [first, FsOp.perform, held, Option.map_some, Option.map_some]
  let moved := (sink.after .syncAll sink.disk.dir).after (.rename activeName (rotatedName (findMaxRotationN sink.disk.dir + 1))) renamed
  let next : Sink := { moved with
    disk := { moved.disk with attempts := moved.disk.attempts + 1 }
    writer := { sink.writer with
      file := if sink.writer.file = activeName then rotatedName (findMaxRotationN sink.disk.dir + 1) else sink.writer.file } }
  have ran : rotate (crashEnv executed) sink = .error .fault next := by
    refine (run_fs_op_bind .syncAll sink sink.disk.dir (decide_eq_true (by omega)) rfl).trans (run_get.trans ?_)
    refine (run_fs_op_bind (.rename activeName (rotatedName (findMaxRotationN sink.disk.dir + 1)))
      (sink.after .syncAll sink.disk.dir) renamed (decide_eq_true (show sink.disk.attempts + 1 < executed by omega)) performed).trans ?_
    refine run_set_writer.trans (run_fs_op_fault (decide_eq_false ?_))
    exact Nat.not_lt_of_le (Nat.le_of_eq attempts.symm)
  exact ⟨next, ran, rename_active plainExternals files (by simp), rfl⟩

-- A crash right after the first rotation's rename: the anchor was never written,
-- and the next writer starts over at genesis although a record is there.
theorem crash_after_rename_restarts : ∃ sink record,
    runSink (crashEnv 4) (bootSink (crashEnv 4) "log" 1 1) [sampleEvent, sampleEvent] = sink ∧
      presentedRecords plainExternals sink.disk.dir = [record] ∧ record.seq = 0 ∧
      (openSink steadyEnv 1 1 sink).running = true ∧ (openSink steadyEnv 1 1 sink).writer.chain = ChainState.genesis := by
  let stamped := (ChainState.genesis.append plainExternals (gapSentinel 0 1)).1
  have bytes : recordBytes plainExternals [stamped] = toJsonl plainExternals stamped := record_bytes_snoc plainExternals [] stamped
  obtain ⟨first, begun, running, attempts, anchor, quiet, limit, filled, files⟩ : ∃ first : Sink,
      sinkStep (crashEnv 4) (bootSink (crashEnv 4) "log" 1 1) sampleEvent = first ∧ first.running = true ∧
      first.disk.attempts + 2 = 4 ∧ first.disk.dir.anchor = none ∧ first.writer.dropped ≤ first.writer.lastSeenDropped ∧
      first.writer.rotateMaxBytes = 1 ∧ first.writer.fileBytes > 0 ∧
      first.disk.dir.files = LogLayout.files plainExternals ⟨[], some [stamped]⟩ := by
    refine ⟨_, rfl, rfl, rfl, rfl, UInt64.le_refl _, rfl, ?_, ?_⟩
    · change 0 + (toJsonl plainExternals stamped).length > 0
      simp [toJsonl]
    · change [(activeName, toJsonl plainExternals stamped)] = [(activeName, recordBytes plainExternals [stamped])]
      rw [bytes]
  let advanced : Sink := { first with writer := { first.writer with chain := (first.writer.chain.append plainExternals (gapSentinel 0 1)).2 } }
  obtain ⟨next, cut, cutFiles, cutAnchor⟩ := rotate_cut 4 advanced stamped attempts files
  have raw : writeRecordRaw (crashEnv 4) (gapSentinel 0 1) first = .error .fault next := by
    rw [write_record_raw_steps rfl, if_pos ⟨filled, by rw [limit, toJsonl, List.length_append]; simp; omega⟩]
    exact run_bind_error cut
  have received : receive (crashEnv 4) (.record (gapSentinel 0 1)) first = .ok () next := by
    have silent : maybeWriteGapSentinel (crashEnv 4) first = .ok () first := run_get.trans (congrFun (if_pos quiet) _)
    have written : writeRecord (crashEnv 4) (gapSentinel 0 1) first = .error .fault next := by
      rw [writeRecord, run_bind first first () silent, raw]
    refine run_get.trans ?_
    simp only [ignoreError, written]
  have stepped : sinkStep (crashEnv 4) first sampleEvent = next := by
    simp [sinkStep, sampleEvent, running, runProc, received]
  have noTail : (next.disk.dir.readFile activeName).getD [] = [] := by
    rw [layout_read_active cutFiles]
    rfl
  have resumed := reconstruct_no_tail plain_externals_lawful noTail
    (.inl ⟨cutAnchor.trans anchor, rfl, rfl⟩)
  have presented := presented_layout plain_externals_lawful.record ⟨[(1, [stamped])], none⟩ next.disk.dir
    (List.pairwise_singleton _ _) (cutFiles ▸ List.Perm.refl _)
  refine ⟨next, stamped, ?_, presented, rfl, open_resumes 1 1 resumed rfl⟩
  rw [runSink, List.foldl_cons, begun, List.foldl_cons, stepped, List.foldl_nil]

end Pkcs11Proxy.Audit
