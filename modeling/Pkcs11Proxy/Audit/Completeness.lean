import Pkcs11Proxy.Audit.PlainExternals
import Pkcs11Proxy.Audit.SinkEvents

namespace Pkcs11Proxy.Audit

open Lib

def retainedLines (dir : LogDir) : Nat :=
  ((dir.files.filter fun file => isAuditLog file.1).map fun file => (splitLines file.2).length).sum

variable {ext : Externals} {dir : LogDir}

section

variable (env : SinkEnv)

theorem split_record_bytes (lawful : ext.recordJson.Lawful) {records : List AuditRecord} :
    (splitLines (recordBytes ext records)).length = records.length := by
  rw [recordBytes, split_join_lines lawful.plain, List.length_map]

theorem retained_layout (lawful : ext.recordJson.Lawful) {layout : LogLayout}
    (listed : dir.files.Perm (layout.files ext)) : retainedLines dir = layout.records.length := by
  have logs : (dir.files.filter fun file => isAuditLog file.1) = dir.files :=
    List.filter_eq_self.mpr fun file member => layout_is_logs (listed.subset member)
  rw [retainedLines, logs, (listed.map _).sum_eq, LogLayout.files, LogLayout.records, List.map_append, List.sum_append,
    List.length_append, List.map_map, List.length_flatMap]
  congr 1
  · congr 2
    funext segment
    exact split_record_bytes lawful
  · cases layout.active with
    | none => rfl
    | some records => simp [split_record_bytes lawful]

variable {sink : Sink}

theorem flushed_sealed {floor : Nat} (flushed : Flushed env True floor sink)
    (listed : dir.files.Perm sink.disk.dir.files) (checkpoints : dir.checkpoints = sink.disk.dir.checkpoints)
    (anchor : dir.anchor = sink.disk.dir.anchor) :
    ∃ layout start, dir.files.Perm (layout.files env.ext) ∧ Sealed env.ext env.signer dir layout start sink.writer.chain := by
  obtain ⟨-, since, layout, start, records, covered, inv, sealed⟩ := flushed
  have total : start.lastSeq.toNat + layout.records.length < 2 ^ 64 := by
    rw [inv.disk.total]
    exact inv.disk.room
  have certified := inv.disk.certified trivial
  obtain ⟨lines, held, binds, latest⟩ := certified.sidecar
  have here : dir.files.Perm (layout.files env.ext) := inv.disk.files ▸ listed
  refine ⟨layout, start, here, here, inv.disk.numbered, certified.current, inv.disk.linked, total, inv.disk.unwritten,
    ⟨covered, anchor.trans sealed⟩, lines, ?_, fun line member => (binds line member).1, fun signing some => ?_⟩
  · rw [HoldsLines, checkpoints]
    exact held
  · obtain ⟨line, member, last⟩ := latest signing since some
    refine ⟨line, member, UInt64.toNat_inj.mp ?_⟩
    have head := head_seq inv.disk
    have room := inv.disk.room
    rw [toNat_succ _ (by omega), head, last]

theorem never_crashed (works : ∀ n, env.works n = true) (dead : Dead env sink) : 2 ^ 64 ≤ sink.view.lines := by
  rcases dead with crashed | overrun
  · have stopped := crashed.frozen _ (Nat.le_refl _)
    rw [works] at stopped
    cases stopped
  · exact overrun

-- What the writer leaves after a flush, the verifier accepts, whatever was dropped,
-- rotated, pruned, checkpointed and restarted before.
theorem flushed_log_verifies (lawful : env.ext.Lawful) (works : ∀ n, env.works n = true)
    (monotone : ∀ n m, n ≤ m → env.clock n ≤ env.clock m) (path : String) (rotateMaxBytes rotateKeepFiles : Nat)
    (events : List SinkEvent) (timely : TimelyRun env True (bootSink env path rotateMaxBytes rotateKeepFiles) events) (done : Sink)
    (flushed : flush env (runSink env (bootSink env path rotateMaxBytes rotateKeepFiles) events) = .ok () done)
    (room : done.view.lines < 2 ^ 64) (dir : LogDir) (listed : dir.files.Perm done.disk.dir.files)
    (checkpoints : dir.checkpoints = done.disk.dir.checkpoints) (anchor : dir.anchor = done.disk.dir.anchor)
    (key : Option String) (known : SignerKey env.ext env.signer key) :
    ∃ report, verifyDir env.ext dir key = .ok report ∧ CleanReport report (retainedLines dir) := by
  have plan := working_plan works
  have alive := run_sink_alive env True lawful (fun _ => monotone) plan timely
    (boot_alive env True lawful (fun _ => monotone) plan path rotateMaxBytes rotateKeepFiles)
  have triple := guarded_flush True lawful (fun _ => monotone) plan 0
  have ended : Flushed env True 0 done ∨ Dead env done := by
    rcases alive with rest | dead
    · exact triple.reaches _ _ done flushed rest
    · exact .inr (triple.stays _ _ done flushed dead)
  rcases ended with ended | dead
  · obtain ⟨layout, start, here, whole⟩ := flushed_sealed env ended listed checkpoints anchor
    rw [retained_layout lawful.record here]
    exact verify_sealed lawful whole known
  · exact absurd (never_crashed env works dead) (Nat.not_le_of_lt room)

end

def plainEnv : SinkEnv := ⟨briefExternals, fun _ => 0, fun _ => true, fun _ => 0, some [7], 2⟩

def recordedRun : List SinkEvent := [.receive (.record (gapSentinel 0 1)), .receive (.flush 7), .queueEmpty]

def restartedRun : List SinkEvent := recordedRun ++ [.dropped, .restart 1 1, .receive (.record (gapSentinel 0 1)),
    .receive (.record (gapSentinel 0 1))]

def leftFiles (lines files : Nat) : EStateM.Result IoError Sink Unit → Bool
  | .ok _ done => decide (done.view.lines = lines ∧ done.disk.dir.files.length = files)
  | .error _ _ => false

-- Four lines, the gap sentinel of a drop among them, with a checkpoint at every
-- second one and a restart between: each line but the first rotates the file, and
-- two files are left.
theorem flushed_log_verifies_restarted : ∃ done report,
    flush plainEnv (runSink plainEnv (bootSink plainEnv "log" 1 1) restartedRun) = .ok () done ∧ done.view.lines = 4 ∧
      done.disk.dir.files.length = 2 ∧ verifyDir plainEnv.ext done.disk.dir (some (plainEnv.ext.publicHex [7])) = .ok report ∧
      CleanReport report (retainedLines done.disk.dir) := by
  have timely : TimelyRun plainEnv True (bootSink plainEnv "log" 1 1) restartedRun :=
    ⟨fun _ => ⟨rfl, UInt64.le_refl _⟩, trivial, trivial, trivial, trivial, fun _ => ⟨rfl, UInt64.le_refl _⟩,
      fun _ => ⟨rfl, UInt64.le_refl _⟩, trivial⟩
  have completes : leftFiles 4 2 (flush plainEnv (runSink plainEnv (bootSink plainEnv "log" 1 1) restartedRun)) = true := by decide +kernel
  cases ended : flush plainEnv (runSink plainEnv (bootSink plainEnv "log" 1 1) restartedRun) with
  | error error done =>
    rw [ended] at completes
    cases completes
  | ok _ done =>
    rw [ended] at completes
    obtain ⟨lines, files⟩ : done.view.lines = 4 ∧ done.disk.dir.files.length = 2 := of_decide_eq_true completes
    obtain ⟨report, verified, clean⟩ := flushed_log_verifies plainEnv brief_externals_lawful (fun _ => rfl)
      (fun _ _ _ => UInt64.le_refl _) "log" 1 1 restartedRun timely done ended (by rw [lines]; decide) done.disk.dir (List.Perm.refl _) rfl
      rfl (some (plainEnv.ext.publicHex [7])) (.inr ⟨[7], rfl, rfl⟩)
    exact ⟨done, report, rfl, lines, files, verified, clean⟩

end Pkcs11Proxy.Audit
