import Pkcs11Proxy.Audit.DirReads
import Pkcs11Proxy.Audit.WriterSteps

namespace Pkcs11Proxy.Audit

open Lib

def performAll (dir : LogDir) (journal : List FsOp) : LogDir := journal.foldl (fun dir op => (op.perform dir).getD dir) dir

def WholeLines (bytes : Bytes) : Prop := bytes = [] ∨ bytes.getLast? = some newline

-- The record is a line of its own: what stands before it is no half-written line.
def HasLine (ext : Externals) (bytes : Bytes) (record : AuditRecord) : Prop :=
  ∃ before after, WholeLines before ∧ bytes = before ++ toJsonl ext record ++ after

def InLog (ext : Externals) (dir : LogDir) (record : AuditRecord) : Prop :=
  ∃ name bytes, isAuditLog name = true ∧ dir.readFile name = some bytes ∧ HasLine ext bytes record

def Retired (ext : Externals) (opened : LogDir) (journal : List FsOp) (record : AuditRecord) : Prop :=
  ∃ earlier name later bytes, journal = earlier ++ .remove name :: later ∧
    (performAll opened earlier).readFile name = some bytes ∧ HasLine ext bytes record

def Filed (ext : Externals) (opened : LogDir) (disk : Disk) (record : AuditRecord) : Prop :=
  InLog ext disk.dir record ∨ Retired ext opened disk.journal record

def SameEvent (record entry : AuditRecord) : Prop := ∃ seq prevHash, entry = { record with seq := seq, prevHash := prevHash }

-- What a stretch of a writer's life is measured from: the directory and the chain
-- head the writer was opened with, the operations attempted before the stretch,
-- whether the active file was there without a torn line, and the requests' side of
-- the sink.
structure Stretch where
  opened : LogDir
  head : ChainState
  since : Nat
  whole : Bool
  desk : Bool × Option Nat × List (Nat × Bool)

def Faulted (env : SinkEnv) (since : Nat) (sink : Sink) : Prop :=
  ∃ n, since ≤ n ∧ n < sink.disk.attempts ∧ env.works n = false

-- `all` are the records stamped since the opening and `stamped` those of them that
-- are in the files. A rotation that stopped half-way leaves no active file, and the
-- descriptor on the rotated one. Torn writes are not counted in `fileBytes`.
structure Held (env : SinkEnv) (stretch : Stretch) (rotations : Nat) (all stamped : List AuditRecord) (sink : Sink) : Prop where
  journaled : sink.disk.dir = performAll stretch.opened sink.disk.journal
  descriptor : ∃ bytes, sink.disk.dir.readFile sink.writer.file = some bytes ∧ sink.writer.fileBytes ≤ bytes.length
  named : isAuditLog sink.writer.file = true
  active : sink.writer.file = activeName ∨ sink.disk.dir.readFile activeName = none
  filed : ∀ record ∈ stamped, Filed env.ext stretch.opened sink.disk record
  chained : Chained env.ext stretch.head all sink.writer.chain
  covered : stamped.Sublist all
  room : findMaxRotationN sink.disk.dir + rotations < 2 ^ 64
  since : stretch.since ≤ sink.disk.attempts
  desk : (sink.running, sink.flushing, sink.answers) = stretch.desk

def Unbroken (file : FileName) (dir : LogDir) : Prop := file = activeName ∧ ∀ bytes, dir.readFile activeName = some bytes → WholeLines bytes

def Writing (env : SinkEnv) (stretch : Stretch) (rotations : Nat) (all stamped : List AuditRecord) (sink : Sink) : Prop :=
  Held env stretch rotations all stamped sink ∧ (stretch.whole = true → Unbroken sink.writer.file sink.disk.dir)

def Broken (env : SinkEnv) (stretch : Stretch) (stamped : List AuditRecord) (sink : Sink) : Prop :=
  (∃ all, Held env stretch 0 all stamped sink) ∧ (stretch.whole = true → Faulted env stretch.since sink)

def Anchored (ext : Externals) (sink : Sink) : Prop :=
  sink.disk.dir.anchor = some (ext.anchorJson.enc ⟨sink.writer.chain.lastHash, sink.writer.chain.lastSeq, sink.writer.fileBytes⟩)

variable {dir : LogDir} {journal : List FsOp} {op : FsOp} {record : AuditRecord} {sink : Sink}

section Operations

variable {env : SinkEnv} {stretch : Stretch}

theorem outcomes_torn_op (pre post failed : Sink → Prop)
    (done : ∀ sink dir, pre sink → op.perform sink.disk.dir = some dir → post (sink.after op dir))
    (stopped : ∀ sink, pre sink → env.works sink.disk.attempts = false ∨ op.perform sink.disk.dir = none → failed sink.tried)
    (torn : ∀ sink left dir, pre sink → env.works sink.disk.attempts = false → op.torn (env.torn sink.disk.attempts) = some left →
      left.perform sink.disk.dir = some dir → failed (sink.after left dir)) :
    Outcomes pre (fsOp env op) (fun _ => post) failed where
  ends sink value next ran holds := by
    unfold fsOp at ran
    cases works : env.works sink.disk.attempts with
    | false => simp [works] at ran
    | true =>
      cases performed : op.perform sink.disk.dir with
      | none => simp [works, performed] at ran
      | some dir =>
        simp only [works, performed, if_true] at ran
        cases ran
        exact done sink dir holds performed
  fails sink error next ran holds := by
    unfold fsOp at ran
    cases works : env.works sink.disk.attempts with
    | false =>
      simp only [works, Bool.false_eq_true, if_false] at ran
      cases ran
      cases left : op.torn (env.torn sink.disk.attempts) with
      | none => exact stopped sink holds (.inl works)
      | some part =>
        rw [Sink.faulted]
        cases performed : part.perform sink.disk.dir with
        | none => exact stopped sink holds (.inl works)
        | some dir => exact torn sink part dir holds works left performed
    | true =>
      cases performed : op.perform sink.disk.dir with
      | none =>
        simp only [works, performed, if_true] at ran
        cases ran
        exact stopped sink holds (.inr performed)
      | some dir => simp [works, performed] at ran

theorem outcomes_fs_op (pre post failed : Sink → Prop)
    (done : ∀ sink dir, pre sink → op.perform sink.disk.dir = some dir → post (sink.after op dir))
    (stopped : ∀ sink, pre sink → env.works sink.disk.attempts = false ∨ op.perform sink.disk.dir = none → failed sink.tried)
    (atomic : ∀ written, op.torn written = none) : Outcomes pre (fsOp env op) (fun _ => post) failed :=
  outcomes_torn_op pre post failed done stopped fun sink left dir _ _ torn => by
    rw [atomic] at torn
    cases torn

theorem outcomes_set_writer {f : WriterState → WriterState} {pre post failed : Sink → Prop}
    (step : ∀ sink, pre sink → post { sink with writer := f sink.writer }) :
    Outcomes pre (setWriter f) (fun _ => post) failed := outcomes_modify pre post _ step

theorem outcomes_ignore {prog : SinkM Unit} {pre post failed : Sink → Prop} (lost : Sink → Prop)
    (triple : Outcomes pre prog (fun _ => post) lost) (recovers : ∀ sink, lost sink → post sink) :
    Outcomes pre (ignoreError prog) (fun _ => post) failed where
  ends sink value next ran holds := by
    unfold ignoreError at ran
    cases ended : prog sink with
    | ok _ after =>
      simp only [ended] at ran
      cases ran
      exact triple.ends sink _ next ended holds
    | error error after =>
      simp only [ended] at ran
      cases ran
      exact recovers next (triple.fails sink error next ended holds)
  fails sink error next ran holds := by
    unfold ignoreError at ran
    cases ended : prog sink with
    | ok | error => simp [ended] at ran

theorem perform_all_snoc {next : LogDir}
    (performed : op.perform (performAll dir journal) = some next) : performAll dir (journal ++ [op]) = next := by
  rw [performAll, List.foldl_append]
  change (op.perform (performAll dir journal)).getD _ = next
  rw [performed, Option.getD_some]

theorem retired_later {ext : Externals} {opened : LogDir}
    (retired : Retired ext opened journal record) : Retired ext opened (journal ++ [op]) record := by
  obtain ⟨earlier, name, later, bytes, shape, held⟩ := retired
  exact ⟨earlier, name, later ++ [op], bytes, by rw [shape]; simp, held⟩

variable {rotations : Nat} {all stamped : List AuditRecord}

theorem filed_after (journaled : sink.disk.dir = performAll stretch.opened sink.disk.journal)
    (keeps : ∀ name bytes, isAuditLog name = true → sink.disk.dir.readFile name = some bytes →
      op = .remove name ∨ ∃ name' more, isAuditLog name' = true ∧ dir.readFile name' = some (bytes ++ more))
    (filed : Filed env.ext stretch.opened sink.disk record) : Filed env.ext stretch.opened (sink.after op dir).disk record := by
  rcases filed with ⟨name, bytes, logged, held, before, after, whole, rfl⟩ | retired
  · rcases keeps name _ logged held with rfl | ⟨name', more, logged', held'⟩
    · exact .inr ⟨sink.disk.journal, name, [], _, rfl, by rw [← journaled]; exact held, before, after, whole, rfl⟩
    · exact .inl ⟨name', _, logged', held', before, after ++ more, whole, by rw [List.append_assoc]⟩
  · exact .inr (retired_later retired)

theorem held_moved {writer : WriterState} {left : Nat}
    (held : Held env stretch rotations all stamped sink) (performed : op.perform sink.disk.dir = some dir)
    (keeps : ∀ name bytes, isAuditLog name = true → sink.disk.dir.readFile name = some bytes →
      op = .remove name ∨ ∃ name' more, isAuditLog name' = true ∧ dir.readFile name' = some (bytes ++ more))
    (chain : writer.chain = sink.writer.chain)
    (descriptor : ∃ bytes, dir.readFile writer.file = some bytes ∧ writer.fileBytes ≤ bytes.length)
    (named : isAuditLog writer.file = true) (active : writer.file = activeName ∨ dir.readFile activeName = none)
    (room : findMaxRotationN dir + left < 2 ^ 64) : Held env stretch left all stamped { sink.after op dir with writer := writer } where
  journaled := (perform_all_snoc (by rw [← held.journaled]; exact performed)).symm
  descriptor := descriptor
  named := named
  active := active
  filed record member := filed_after held.journaled keeps (held.filed record member)
  chained := by
    rw [chain]
    exact held.chained
  covered := held.covered
  room := room
  since := Nat.le_succ_of_le held.since
  desk := held.desk

theorem held_fewer {fewer : Nat} (le : fewer ≤ rotations) (held : Held env stretch rotations all stamped sink) :
    Held env stretch fewer all stamped sink :=
  { held with room := Nat.lt_of_le_of_lt (Nat.add_le_add_left le _) held.room }

theorem writing_fewer (fewer : Nat) (le : fewer ≤ rotations) (sink : Sink) (writing : Writing env stretch rotations all stamped sink) :
    Writing env stretch fewer all stamped sink := ⟨held_fewer le writing.1, writing.2⟩

theorem broken_at (held : Held env stretch rotations all stamped sink) {next : Sink} (moved : Held env stretch rotations all stamped next)
    (tried : next.disk.attempts = sink.disk.attempts + 1) (failed : env.works sink.disk.attempts = false) :
    Broken env stretch stamped next :=
  ⟨⟨all, held_fewer (Nat.zero_le _) moved⟩, fun _ =>
    ⟨sink.disk.attempts, held.since, by omega, failed⟩⟩

theorem held_broken (held : Held env stretch rotations all stamped sink) (present : stretch.whole = true → op.perform sink.disk.dir ≠ none)
    (cause : env.works sink.disk.attempts = false ∨ op.perform sink.disk.dir = none) : Broken env stretch stamped sink.tried := by
  have rest := held_fewer (Nat.zero_le _) held
  refine ⟨⟨all, { rest with since := Nat.le_succ_of_le rest.since }⟩, fun whole => ?_⟩
  rcases cause with failed | missing
  · exact ⟨sink.disk.attempts, rest.since, Nat.lt_succ_self _, failed⟩
  · exact absurd missing (present whole)

theorem held_aside (performed : op.perform sink.disk.dir = some dir)
    (same : dir.files = sink.disk.dir.files) (held : Held env stretch rotations all stamped sink) :
    Held env stretch rotations all stamped (sink.after op dir) := by
  have reads : ∀ name, dir.readFile name = sink.disk.dir.readFile name := fun name => by
    rw [LogDir.readFile, same, LogDir.readFile]
  have numbers : findMaxRotationN dir = findMaxRotationN sink.disk.dir := by
    rw [findMaxRotationN, same, findMaxRotationN]
  apply held_moved held performed
  · intro name bytes logged found
    exact .inr ⟨name, [], logged, by rw [reads, List.append_nil]; exact found⟩
  · rfl
  · rw [reads]
    exact held.descriptor
  · exact held.named
  · rw [reads]
    exact held.active
  · rw [numbers]
    exact held.room

theorem writing_aside (performed : op.perform sink.disk.dir = some dir) (same : dir.files = sink.disk.dir.files)
    (writing : Writing env stretch rotations all stamped sink) : Writing env stretch rotations all stamped (sink.after op dir) := by
  refine ⟨held_aside performed same writing.1, fun whole => ⟨(writing.2 whole).1, fun bytes found => ?_⟩⟩
  refine (writing.2 whole).2 bytes ?_
  rwa [Sink.after, LogDir.readFile, same] at found

variable {edit : LogDir → LogDir}

theorem torn_aside {written : Nat} {left : FsOp} (performs : ∀ dir, op.perform dir = some (edit dir))
    (torn : op.torn written = some left) (performed : left.perform sink.disk.dir = some dir) : dir.files = sink.disk.dir.files := by
  cases op with
  | appendCheckpoint line =>
    rw [FsOp.torn] at torn
    split at torn <;> cases torn
    cases performed
    rfl
  | writeAll name line => cases performs ⟨"", [], none, none⟩
  | _ => cases torn

theorem outcomes_aside (performs : ∀ dir, op.perform dir = some (edit dir))
    (same : ∀ dir, (edit dir).files = dir.files) :
    Outcomes (Writing env stretch rotations all stamped) (fsOp env op) (fun _ => Writing env stretch rotations all stamped)
      (Broken env stretch stamped) := by
  apply outcomes_torn_op
  · intro sink dir writing performed
    have edited : edit sink.disk.dir = dir := Option.some.inj ((performs _).symm.trans performed)
    exact writing_aside performed (by rw [← edited]; exact same _) writing
  · intro sink writing cause
    exact held_broken writing.1 (fun _ => by rw [performs]; simp) cause
  · intro sink left dir writing failed torn performed
    exact broken_at writing.1
      (held_aside performed (torn_aside performs torn performed) writing.1) rfl failed

end Operations

end Pkcs11Proxy.Audit
