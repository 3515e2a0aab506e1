import Pkcs11Proxy.Audit.CrashRecovery
import Pkcs11Proxy.Audit.WriteOutcomes

namespace Pkcs11Proxy.Audit

open Lib

def refuse (env : SinkEnv) (sink : Sink) (record : AuditRecord) : Option Sink :=
  match writeRecordRaw env record sink with
  | .ok _ _ => none
  | .error _ next => some next

def Continued (ext : Externals) (start : ChainState) (record : AuditRecord) (before after : LogDir) : Prop :=
  (presentedRecords ext after).getLast? = some ((tailHead ext start (presentedRecords ext before)).append ext record).1

def Linkable (ext : Externals) (start : ChainState) (record : AuditRecord) (before after : LogDir) : Prop :=
  (presentedRecords ext after).getLast? = (presentedRecords ext before).getLast? ∨ Continued ext start record before after

def headAfter (ext : Externals) (start : ChainState) : Option AuditRecord → ChainState
  | some last => ⟨recordHash ext last.prevHash last, last.seq + 1⟩
  | none => start

section Runs

variable (env : SinkEnv) (start : ChainState) {sink next : Sink} {record : AuditRecord}

theorem refuse_of_error {error : IoError}
    (ran : writeRecordRaw env record sink = .error error next) : refuse env sink record = some next := by
  rw [refuse, ran]

theorem tail_head_after {ext : Externals} {records : List AuditRecord} : tailHead ext start records = headAfter ext start records.getLast? := by
  rw [tailHead]
  cases records.getLast? with
  | none | some => rfl

variable {rotations : Nat} {last : Option AuditRecord} {chain : ChainState}

section Ends

variable (untorn : ∀ n, env.works n = false → env.torn n = 0)

include untorn

theorem refuse_ends
    (ends : Ends env.ext (rotations + 1) last chain sink) (refused : refuse env sink record = some next) :
    Ends env.ext rotations (if reachesLine env sink record then some (chain.append env.ext record).1 else last)
      (chain.append env.ext record).2 next := by
  obtain ⟨layout, ordered, rfl, rfl⟩ := ends
  cases ran : writeRecordRaw env record sink with
  | ok value after => simp [refuse, ran] at refused
  | error error after =>
    simp only [refuse, ran, Option.some.injEq] at refused
    subst refused
    exact (outcomes_write_at untorn ordered).fails sink error after ran rfl

theorem written_ends
    (ends : Ends env.ext (rotations + 1) last chain sink) (written : writeRecordRaw env record sink = .ok () next) :
    Ends env.ext rotations (some (chain.append env.ext record).1) (chain.append env.ext record).2 next := by
  obtain ⟨layout, ordered, rfl, rfl⟩ := ends
  exact ((outcomes_write_at untorn ordered).ends sink () next written rfl).2

end Ends

variable (lawful : env.ext.Lawful)

include lawful

theorem ends_presented (rotations : Nat) (last : Option AuditRecord) (chain : ChainState) (sink : Sink)
    (ends : Ends env.ext rotations last chain sink) : (presentedRecords env.ext sink.disk.dir).getLast? = last := by
  obtain ⟨layout, ordered, ended, -⟩ := ends
  rw [presented_layout lawful.record layout sink.disk.dir ordered.numbered (by rw [ordered.files])]
  exact ended

theorem continued_iff {rotations' : Nat} {chain' : ChainState}
    (record : AuditRecord) {stamped : AuditRecord} (before : Ends env.ext rotations last chain sink)
    (after : Ends env.ext rotations' (some stamped) chain' next) :
    Continued env.ext start record sink.disk.dir next.disk.dir ↔ stamped = ((headAfter env.ext start last).append env.ext record).1 := by
  rw [Continued, tail_head_after, ends_presented env lawful rotations last chain sink before,
    ends_presented env lawful rotations' (some stamped) chain' next after, Option.some.injEq]

omit lawful in
theorem seq_ahead (seq : UInt64) (k : Nat) (positive : 0 < k) (fits : k < 2 ^ 64) : seq + UInt64.ofNat k ≠ seq := by
  intro same
  have wrapped := congrArg UInt64.toNat same
  rw [UInt64.toNat_add, UInt64.toNat_ofNat'] at wrapped
  omega

variable (untorn : ∀ n, env.works n = false → env.torn n = 0)

include untorn

theorem lagging_breaks (failed : List AuditRecord) (record : AuditRecord) (after next : Sink) :
    ∀ (sink : Sink) (last : Option AuditRecord) (chain : ChainState) (k : Nat),
      Ends env.ext (failed.length + 1) last chain sink → chain.lastSeq = (headAfter env.ext start last).lastSeq + UInt64.ofNat k →
      0 < k → k + failed.length + 1 < 2 ^ 64 → exec (refuse env) sink failed = some after →
      writeRecordRaw env record after = .ok () next →
      ¬ (along (refuse env) (fun sink record => ∀ next, refuse env sink record = some next →
          Linkable env.ext start record sink.disk.dir next.disk.dir) sink failed ∧
        Continued env.ext start record after.disk.dir next.disk.dir) := by
  induction failed with
  | nil =>
    intro sink last chain k ends ahead positive fits refused written property
    cases refused
    have grown := written_ends env untorn ends written
    have same := (continued_iff env start lawful record ends grown).mp property.2
    have seq : chain.lastSeq = (headAfter env.ext start last).lastSeq := congrArg AuditRecord.seq same
    exact seq_ahead _ k positive (by omega) (ahead.symm.trans seq)
  | cons first rest ih =>
    intro sink last chain k ends ahead positive fits refused written property
    obtain ⟨stopped, taken, remaining⟩ := exec_cons_some refused
    have moved := refuse_ends env untorn ends taken
    obtain ⟨⟨linkable, linked⟩, continued⟩ := property
    rw [List.length_cons] at fits
    cases reaches : reachesLine env sink first with
    | false =>
      rw [reaches] at moved
      refine ih stopped last _ (k + 1) moved ?_ (Nat.succ_pos k) (by omega) remaining written ⟨linked stopped taken, continued⟩
      change chain.lastSeq + 1 = _
      rw [ahead, UInt64.ofNat_add]
      exact UInt64.add_assoc _ _ _
    | true =>
      rw [reaches, if_pos rfl] at moved
      rcases linkable stopped taken with unchanged | continued'
      · rw [ends_presented env lawful _ _ _ stopped moved, ends_presented env lawful _ _ _ sink ends] at unchanged
        subst unchanged
        have seq : chain.lastSeq = chain.lastSeq + 1 + UInt64.ofNat k := ahead
        rw [UInt64.add_assoc] at seq
        refine seq_ahead chain.lastSeq (1 + k) (by omega) (by omega) ?_
        rw [UInt64.ofNat_add]
        exact seq.symm
      · have same := (continued_iff env start lawful first ends moved).mp continued'
        have seq : chain.lastSeq = (headAfter env.ext start last).lastSeq := congrArg AuditRecord.seq same
        exact seq_ahead _ k positive (by omega) (ahead.symm.trans seq)

theorem linkable_iff_reaches {failed : List AuditRecord} {after : Sink} :
    ∀ (sink : Sink) (last : Option AuditRecord),
      Ends env.ext (failed.length + 1) last (headAfter env.ext start last) sink → exec (refuse env) sink failed = some after →
      writeRecordRaw env record after = .ok () next →
      ((along (refuse env) (fun sink record => ∀ next, refuse env sink record = some next →
          Linkable env.ext start record sink.disk.dir next.disk.dir) sink failed ∧
        Continued env.ext start record after.disk.dir next.disk.dir) ↔
      along (refuse env) (fun sink record => reachesLine env sink record = true) sink failed) := by
  induction failed with
  | nil =>
    intro sink last ends refused written
    cases refused
    have grown := written_ends env untorn ends written
    exact ⟨fun _ => trivial, fun _ => ⟨trivial, (continued_iff env start lawful record ends grown).mpr rfl⟩⟩
  | cons first rest ih =>
    intro sink last ends refused written
    obtain ⟨stopped, taken, remaining⟩ := exec_cons_some refused
    have moved := refuse_ends env untorn ends taken
    cases reaches : reachesLine env sink first with
    | false =>
      rw [reaches] at moved
      obtain ⟨layout, ordered, -⟩ := ends
      have fits := ordered.fits
      rw [List.length_cons] at fits
      have broken := lagging_breaks env start lawful untorn rest record after next stopped last _ 1 moved rfl (by omega)
        (by omega) remaining written
      constructor
      · intro property
        exact absurd ⟨property.1.2 stopped taken, property.2⟩ broken
      · intro allowed
        exact absurd (reaches.symm.trans allowed.1) (by simp)
    | true =>
      rw [reaches, if_pos rfl] at moved
      have tail := ih stopped (some ((headAfter env.ext start last).append env.ext first).1) moved remaining written
      constructor
      · intro property
        refine ⟨reaches, fun other same => ?_⟩
        rw [taken] at same
        cases same
        exact tail.mp ⟨property.1.2 stopped taken, property.2⟩
      · intro allowed
        obtain ⟨linked, continued⟩ := tail.mpr (allowed.2 stopped taken)
        refine ⟨⟨fun other same => ?_, fun other same => ?_⟩, continued⟩
        · rw [taken] at same
          cases same
          exact .inr ((continued_iff env start lawful first ends moved).mpr rfl)
        · rw [taken] at same
          cases same
          exact linked

end Runs

section Samples

variable (env : SinkEnv) (sink : Sink) (record stamped : AuditRecord)

theorem write_unrotated (fits : sink.writer.fileBytes + (toJsonl env.ext (sink.writer.chain.append env.ext record).1).length ≤
      sink.writer.rotateMaxBytes) :
    sink.mustRotate env record = false ∧ writeRecordRaw env record sink = lineStep env (sink.writer.chain.append env.ext record).1
      { sink with writer := { sink.writer with chain := (sink.writer.chain.append env.ext record).2 } } := by
  have small : ¬ (sink.writer.fileBytes > 0 ∧
      sink.writer.fileBytes + (toJsonl env.ext (sink.writer.chain.append env.ext record).1).length > sink.writer.rotateMaxBytes) :=
    fun full => Nat.not_lt_of_le fits full.2
  rw [write_record_raw_steps rfl, if_neg small]
  exact ⟨decide_eq_false small, rfl⟩

theorem reaches_unrotated (unrotated : sink.mustRotate env record = false) : reachesLine env sink record = env.works sink.disk.attempts := by
  rw [reachesLine, unrotated, if_neg Bool.false_ne_true]

theorem line_refused (fails : env.works sink.disk.attempts = false) (untorn : env.torn sink.disk.attempts = 0) :
    lineStep env stamped sink = .error .fault sink.tried := by
  rw [← faulted_untorn untorn]
  exact run_get.trans (run_fs_op_fault fails)

variable {dir : LogDir} (works : env.works sink.disk.attempts = true)
  (performed : (FsOp.writeAll sink.writer.file (toJsonl env.ext stamped)).perform sink.disk.dir = some dir)

include works performed

theorem line_lands (early : sink.writer.recordsSinceCheckpoint + 1 < env.checkpointInterval) :
    lineStep env stamped sink = .ok () (Sink.noted (sink.after (.writeAll sink.writer.file (toJsonl env.ext stamped)) dir)
      (toJsonl env.ext stamped)) := by
  refine run_get.trans ((run_fs_op_bind _ sink dir works performed).trans (run_set_writer.trans (run_get.trans ?_)))
  exact congrFun (if_neg (Nat.not_le_of_lt early)) _

theorem line_unsealed (due : env.checkpointInterval ≤ sink.writer.recordsSinceCheckpoint + 1) (unsigned : env.signer = none)
    (fails : env.works (sink.disk.attempts + 1) = false) : ∃ next, lineStep env stamped sink = .error .fault next ∧
      next.disk.dir = dir ∧ next.writer = { noteLine (toJsonl env.ext stamped) sink.writer with recordsSinceCheckpoint := 0 } ∧
      next.disk.attempts = sink.disk.attempts + 2 := by
  let line := toJsonl env.ext stamped
  let written := Sink.noted (sink.after (.writeAll sink.writer.file line) dir) line
  let cleared : Sink := { written with writer := { written.writer with recordsSinceCheckpoint := 0 } }
  refine ⟨cleared.tried, ?_, rfl, rfl, rfl⟩
  refine run_get.trans ((run_fs_op_bind _ sink dir works performed).trans (run_set_writer.trans (run_get.trans ?_)))
  refine (congrFun (if_pos due) _).trans ?_
  simp only [doCheckpoint, unsigned]
  exact if_neg fun again => Bool.false_ne_true (fails.symm.trans again)

end Samples

theorem appends_line (ext : Externals) (layout : LogLayout) (rotations : Nat) (dir : LogDir) (writer : WriterState) (record : AuditRecord)
    (ordered : InOrder ext rotations layout dir writer) :
    (FsOp.writeAll writer.file (toJsonl ext record)).perform dir = some (dir.appendFile writer.file (toJsonl ext record)) := by
  obtain ⟨bytes, found⟩ := Option.isSome_iff_exists.mp (in_order_line ext rotations layout dir writer record ordered).1
  rw [FsOp.perform, found, Option.map_some]

section Faults

variable (ext : Externals)

def faultEnv (checkpointInterval fault : Nat) : SinkEnv := ⟨ext, fun _ => 0, fun n => n ≠ fault, fun _ => 0, none, checkpointInterval⟩

def sampleEntry : AuditRecord := gapSentinel 0 1

def sampleHead : Nat → ChainState
  | 0 => ChainState.genesis
  | n + 1 => ((sampleHead n).append ext sampleEntry).2

def sampleStamp (n : Nat) : AuditRecord := ((sampleHead ext n).append ext sampleEntry).1

def sampleSize (n : Nat) : Nat := (toJsonl ext (sampleStamp ext n)).length

def loggedSink : Sink where
  disk := ⟨⟨"log", [(activeName, toJsonl ext (sampleStamp ext 0))], none, none⟩, 2, 0, []⟩
  writer := ⟨sampleHead ext 1, activeName, sampleSize ext 0, sampleSize ext 0 + sampleSize ext 1 + sampleSize ext 2, 1, 1, 1, 0, 0⟩
  running := true
  flushing := none
  answers := []

theorem logged_in_order : InOrder ext 2 ⟨[], some [sampleStamp ext 0]⟩ (loggedSink ext).disk.dir (loggedSink ext).writer := by
  have bytes : recordBytes ext [sampleStamp ext 0] = toJsonl ext (sampleStamp ext 0) := record_bytes_snoc ext [] (sampleStamp ext 0)
  refine ⟨?_, List.Pairwise.nil, ?_, by decide, .active [] [sampleStamp ext 0] rfl ?_⟩
  · change [(activeName, toJsonl ext (sampleStamp ext 0))] = [(activeName, recordBytes ext [sampleStamp ext 0])]
    rw [bytes]
  · intro segment member
    cases member
  · rw [bytes]
    rfl

theorem logged_ends : Ends ext 2 (some (sampleStamp ext 0)) (sampleHead ext 1) (loggedSink ext) :=
  ⟨_, logged_in_order ext, rfl, rfl⟩

-- The `write_all` of the second record fails, and the third one is numbered and
-- linked behind the second, which no file holds.
theorem fault_leaves_gap (lawful : ext.Lawful) : ∃ after next,
    exec (refuse (faultEnv ext 1000 2)) (loggedSink ext) [sampleEntry] = some after ∧
      writeRecordRaw (faultEnv ext 1000 2) sampleEntry after = .ok () next ∧
      (presentedRecords ext after.disk.dir).getLast? = some (sampleStamp ext 0) ∧
      (presentedRecords ext next.disk.dir).getLast? = some (sampleStamp ext 2) := by
  let env := faultEnv ext 1000 2
  let advanced : Sink := { loggedSink ext with writer := { (loggedSink ext).writer with chain := sampleHead ext 2 } }
  obtain ⟨small, first⟩ := write_unrotated env (loggedSink ext) sampleEntry (Nat.le_add_right _ _)
  have refused : refuse env (loggedSink ext) sampleEntry = some advanced.tried :=
    refuse_of_error env (first.trans (line_refused env advanced (sampleStamp ext 1) rfl rfl))
  have stopped := refuse_ends env (fun _ _ => rfl) (logged_ends ext) refused
  rw [reaches_unrotated env _ _ small, show env.works (loggedSink ext).disk.attempts = false from rfl, if_neg Bool.false_ne_true] at stopped
  obtain ⟨layout, ordered, -⟩ := id stopped
  have room : sampleSize ext 0 + sampleSize ext 2 ≤ sampleSize ext 0 + sampleSize ext 1 + sampleSize ext 2 := by omega
  let ready : Sink := { advanced.tried with writer := { advanced.writer with chain := sampleHead ext 3 } }
  have unrotated : writeRecordRaw env sampleEntry advanced.tried = lineStep env (sampleStamp ext 2) ready :=
    (write_unrotated env advanced.tried sampleEntry room).2
  have written := unrotated.trans (line_lands env ready (sampleStamp ext 2) rfl
    (appends_line ext layout 1 advanced.tried.disk.dir advanced.tried.writer (sampleStamp ext 2) ordered) (show 1 + 1 < 1000 by decide))
  have grown := written_ends env (fun _ _ => rfl) stopped written
  refine ⟨advanced.tried, _, ?_, written, ?_, ends_presented env lawful _ _ _ _ grown⟩
  · rw [exec, refused]
    rfl
  · exact ends_presented env lawful _ _ _ _ stopped

-- The second record's line is written, the anchor behind it fails, and the third
-- record continues from the second.
theorem fault_behind_line : ∃ after next,
    exec (refuse (faultEnv ext 2 3)) (loggedSink ext) [sampleEntry] = some after ∧
      writeRecordRaw (faultEnv ext 2 3) sampleEntry after = .ok () next ∧
      along (refuse (faultEnv ext 2 3)) (fun sink record => reachesLine (faultEnv ext 2 3) sink record = true) (loggedSink ext)
        [sampleEntry] := by
  let env := faultEnv ext 2 3
  let advanced : Sink := { loggedSink ext with writer := { (loggedSink ext).writer with chain := sampleHead ext 2 } }
  obtain ⟨small, first⟩ := write_unrotated env (loggedSink ext) sampleEntry (Nat.le_add_right _ _)
  obtain ⟨after, unsealed, dir, writer, attempts⟩ := line_unsealed env advanced (sampleStamp ext 1) rfl
    (appends_line ext _ 2 (loggedSink ext).disk.dir (loggedSink ext).writer (sampleStamp ext 1) (logged_in_order ext)) (Nat.le_refl 2)
    rfl rfl
  have refused := refuse_of_error env (first.trans unsealed)
  have stopped := refuse_ends env (fun _ _ => rfl) (logged_ends ext) refused
  obtain ⟨layout, ordered, -⟩ := id stopped
  have head : after.writer.chain = sampleHead ext 2 := by rw [writer]; rfl
  have room : after.writer.fileBytes + sampleSize ext 2 ≤ after.writer.rotateMaxBytes := by
    rw [writer]
    exact Nat.le_refl _
  have unrotated := (write_unrotated env after sampleEntry (by rw [head]; exact room)).2
  have works : env.works after.disk.attempts = true := by rw [attempts]; rfl
  have early : after.writer.recordsSinceCheckpoint + 1 < env.checkpointInterval := by rw [writer]; exact Nat.lt_succ_self 1
  have written := unrotated.trans (line_lands env { after with writer := { after.writer with chain := _ } } _ works
    (appends_line ext layout 1 after.disk.dir after.writer _ ordered) early)
  refine ⟨after, _, ?_, written, (reaches_unrotated env _ _ small).trans rfl, fun _ _ => trivial⟩
  rw [exec, refused]
  rfl

end Faults

end Pkcs11Proxy.Audit
