import Pkcs11Proxy.Audit.DropQueue

namespace Pkcs11Proxy.Audit

open Lib

structure Books where
  total : Nat
  dropped : UInt64
  seen : UInt64
  desk : Bool × Option Nat

variable {sink : Sink} {op : FsOp}

section Tally

variable (env : SinkEnv) (since : Nat) (whole : Prop)

structure Tally (books : Books) (sink : Sink) : Prop where
  total : sentinelTotal env.ext sink.disk.journal = books.total
  dropped : sink.writer.dropped = books.dropped
  seen : sink.writer.lastSeenDropped = books.seen
  desk : (sink.running, sink.flushing) = books.desk
  since : since ≤ sink.disk.attempts

def Placed (sink : Sink) : Prop := sink.writer.file = activeName ∧ (sink.disk.dir.readFile activeName).isSome = true

def Tallying (books : Books) (sink : Sink) : Prop := Tally env since books sink ∧ (whole → Placed sink)

def TallyBroken (books : Books) (sink : Sink) : Prop := Tally env since books sink ∧ (whole → Faulted env since sink)

variable (books : Books)

abbrev KeepsTally {α : Type} (prog : SinkM α) : Prop :=
  Outcomes (Tallying env since whole books) prog (fun _ => Tallying env since whole books) (TallyBroken env since whole books)

variable {env since whole books}

theorem sentinel_total_snoc (journal : List FsOp) (op : FsOp) :
    sentinelTotal env.ext (journal ++ [op]) = sentinelTotal env.ext journal + sentinelCount env.ext op := by
  simp [sentinelTotal]

variable {dir : LogDir}

theorem tally_after (quiet : sentinelCount env.ext op = 0) (tally : Tally env since books sink) :
    Tally env since books (sink.after op dir) where
  total := by
    change sentinelTotal env.ext (sink.disk.journal ++ [op]) = _
    rw [sentinel_total_snoc, quiet]
    exact tally.total
  dropped := tally.dropped
  seen := tally.seen
  desk := tally.desk
  since := Nat.le_succ_of_le tally.since

theorem tally_tried (tally : Tally env since books sink) : Tally env since books sink.tried :=
  { tally with since := Nat.le_succ_of_le tally.since }

theorem tally_broken (tally : Tally env since books sink) (present : whole → op.perform sink.disk.dir ≠ none)
    (cause : env.works sink.disk.attempts = false ∨ op.perform sink.disk.dir = none) :
    TallyBroken env since whole books sink.tried := by
  refine ⟨tally_tried tally, fun inPlace => ?_⟩
  rcases cause with failed | missing
  · exact ⟨sink.disk.attempts, tally.since, Nat.lt_succ_self _, failed⟩
  · exact absurd missing (present inPlace)

variable {left : FsOp}

theorem torn_sentinel_count {written : Nat} (torn : op.torn written = some left) : sentinelCount env.ext left = 0 := by
  cases op with
  | writeAll name line | appendCheckpoint line =>
    rw [FsOp.torn] at torn
    split at torn <;> cases torn
    rfl
  | _ => cases torn

theorem tally_torn (tally : Tally env since books sink) (failed : env.works sink.disk.attempts = false)
    (torn : op.torn (env.torn sink.disk.attempts) = some left) : TallyBroken env since whole books (sink.after left dir) :=
  ⟨tally_after (torn_sentinel_count torn) tally,
    fun _ => ⟨sink.disk.attempts, tally.since, Nat.lt_succ_self _, failed⟩⟩

theorem tally_aside {edit : LogDir → LogDir} (quiet : sentinelCount env.ext op = 0)
    (performs : ∀ dir, op.perform dir = some (edit dir)) (same : ∀ dir, (edit dir).files = dir.files) :
    KeepsTally env since whole books (fsOp env op) := by
  apply outcomes_torn_op
  · intro sink dir tallying performed
    refine ⟨tally_after quiet tallying.1, fun inPlace => ?_⟩
    obtain rfl := Option.some.inj ((performs _).symm.trans performed)
    obtain ⟨handle, present⟩ := tallying.2 inPlace
    refine ⟨handle, ?_⟩
    change (LogDir.readFile (edit sink.disk.dir) activeName).isSome = true
    rw [LogDir.readFile, same]
    exact present
  · intro sink tallying cause
    exact tally_broken tallying.1 (fun _ => by rw [performs]; simp) cause
  · intro sink left dir tallying failed torn _
    exact tally_torn tallying.1 failed torn

theorem tally_set_writer {f : WriterState → WriterState} (dropped : ∀ writer, (f writer).dropped = writer.dropped)
    (seen : ∀ writer, (f writer).lastSeenDropped = writer.lastSeenDropped) (file : ∀ writer, (f writer).file = writer.file) :
    KeepsTally env since whole books (setWriter f) := by
  apply outcomes_set_writer
  intro sink tallying
  refine ⟨{ tallying.1 with dropped := (dropped _).trans tallying.1.dropped, seen := (seen _).trans tallying.1.seen }, fun inPlace => ?_⟩
  obtain ⟨handle, present⟩ := tallying.2 inPlace
  exact ⟨(file _).trans handle, present⟩

theorem tally_now : KeepsTally env since whole books (nowUnixMs env) where
  ends sink value next ran tallying := by
    cases ran
    exact ⟨{ tallying.1 with }, tallying.2⟩
  fails sink error next ran := by cases ran

theorem tally_anchor : KeepsTally env since whole books (writeAnchor env) := by
  apply outcomes_read
  intro read
  exact tally_aside rfl (fun _ => rfl) fun _ => rfl

theorem tally_checkpoint : KeepsTally env since whole books (doCheckpoint env) := by
  have closing : KeepsTally env since whole books
      (setWriter (fun writer => { writer with recordsSinceCheckpoint := 0 }) >>= fun _ => writeAnchor env) :=
    outcomes_bind _ (tally_set_writer (fun _ => rfl) (fun _ => rfl) fun _ => rfl) fun _ => tally_anchor
  unfold doCheckpoint
  cases signing : env.signer with
  | none => exact closing
  | some seed =>
    apply outcomes_bind _ tally_now
    intro now
    apply outcomes_bind (fun _ => Tallying env since whole books) _ fun _ => closing
    apply outcomes_read
    intro read
    exact outcomes_bind _ (tally_aside rfl (fun _ => rfl) fun _ => rfl)
      fun _ => tally_aside rfl (fun _ => rfl) fun _ => rfl

theorem tally_seal : KeepsTally env since whole books (fsOp env .syncAll >>= fun _ =>
    get >>= fun sink => if sink.writer.recordsSinceCheckpoint > 0 then doCheckpoint env else writeAnchor env) := by
  apply outcomes_bind _ (tally_aside rfl (fun _ => rfl) fun _ => rfl)
  intro _
  apply outcomes_read
  intro read
  apply outcomes_ite
  · intro _
    exact tally_checkpoint
  · intro _
    exact tally_anchor

theorem tally_prune : KeepsTally env since whole books (pruneRotatedFiles env) := by
  apply outcomes_read
  intro read
  apply outcomes_for
  intro name member
  have other := pruned_not_active member
  apply outcomes_ignore (Tallying env since whole books) _ fun _ tallying => tallying
  apply outcomes_fs_op
  · intro sink dir tallying performed
    obtain ⟨bytes, found, rfl⟩ := Option.map_eq_some_iff.mp performed
    refine ⟨tally_after rfl tallying.1, fun inPlace => ?_⟩
    obtain ⟨handle, present⟩ := tallying.2 inPlace
    refine ⟨handle, ?_⟩
    change ((sink.disk.dir.removeFile name).readFile activeName).isSome = true
    rw [read_remove, if_neg fun same => other same.symm]
    exact present
  · intro sink tallying _
    exact ⟨tally_tried tallying.1, tallying.2⟩
  · exact fun _ => rfl

theorem tally_rotate : KeepsTally env since whole books (rotate env) := by
  let half (sink : Sink) : Prop := Tally env since books sink ∧ (whole → sink.disk.dir.readFile activeName = none)
  apply outcomes_bind _ (tally_aside rfl (fun _ => rfl) fun _ => rfl)
  intro _
  apply outcomes_read
  intro read
  let rotated := rotatedName (findMaxRotationN read.disk.dir + 1)
  apply outcomes_bind fun _ => half
  · apply outcomes_fs_op
    · intro sink dir tallying performed
      obtain ⟨bytes, found, rfl⟩ := Option.map_eq_some_iff.mp performed
      refine ⟨tally_after rfl tallying.1, fun _ => ?_⟩
      have apart : activeName ≠ rotated := rotated_ne_active.symm
      change (sink.disk.dir.renameFile activeName rotated).readFile activeName = none
      rw [read_rename sink.disk.dir activeName apart, if_neg apart, if_pos rfl]
    · intro sink tallying cause
      refine tally_broken tallying.1 (fun inPlace missing => ?_) cause
      have present := (tallying.2 inPlace).2
      rw [FsOp.perform, Option.map_eq_none_iff] at missing
      rw [missing] at present
      cases present
    · exact fun _ => rfl
  intro _
  apply outcomes_bind fun _ => half
  · exact outcomes_set_writer fun sink inv => ⟨{ inv.1 with }, inv.2⟩
  intro _
  apply outcomes_bind fun _ => half
  · apply outcomes_fs_op
    · intro sink dir inv performed
      obtain rfl := Option.some.inj performed
      exact ⟨tally_after rfl inv.1, inv.2⟩
    · intro sink inv cause
      exact tally_broken inv.1 (fun _ missing => by cases missing) cause
    · exact fun _ => rfl
  intro _
  apply outcomes_bind fun _ (sink : Sink) =>
    Tally env since books sink ∧ (whole → (sink.disk.dir.readFile activeName).isSome = true)
  · apply outcomes_fs_op
    · intro sink dir inv performed
      obtain rfl := Option.some.inj performed
      refine ⟨tally_after rfl inv.1, fun inPlace => ?_⟩
      change ((sink.disk.dir.truncateFile activeName).readFile activeName).isSome = true
      rw [read_truncate sink.disk.dir activeName (inv.2 inPlace), if_pos rfl]
      rfl
    · intro sink inv cause
      exact tally_broken inv.1 (fun _ missing => by cases missing) cause
    · exact fun _ => rfl
  intro _
  apply outcomes_bind fun _ => Tallying env since whole books
  · exact outcomes_set_writer fun sink inv => ⟨{ inv.1 with }, fun inPlace => ⟨rfl, inv.2 inPlace⟩⟩
  intro _
  exact outcomes_bind _ tally_prune fun _ => tally_anchor

end Tally

section Lines

variable (env : SinkEnv) (lawful : env.ext.recordJson.Lawful) (since : Nat) (whole : Prop) (books : Books)

def AuditRecord.tallied (record : AuditRecord) : Nat := (record.sentinelDroppedCount.map UInt64.toNat).getD 0

def Books.add (books : Books) (count : Nat) : Books := { books with total := books.total + count }

include lawful in
theorem from_jsonl_line {record : AuditRecord} : fromJsonl env.ext (toJsonl env.ext record) = .ok record := by
  have trimmed : trimEndNewlines (toJsonl env.ext record) = trimEndNewlines (env.ext.recordJson.enc record) := by
    simp [trimEndNewlines, toJsonl]
  rw [fromJsonl, trimmed]
  exact from_jsonl_enc lawful record

include lawful in
theorem sentinel_count_line (name : FileName) (record : AuditRecord) :
    sentinelCount env.ext (.writeAll name (toJsonl env.ext record)) = record.tallied := by
  rw [sentinelCount, from_jsonl_line env lawful]
  rfl

def LineBroken (count : Nat) (sink : Sink) : Prop :=
  TallyBroken env since whole books sink ∨ TallyBroken env since whole (books.add count) sink

include lawful in
theorem tally_line (entry : AuditRecord) : Outcomes (Tallying env since whole books) (lineStep env entry)
    (fun _ => Tallying env since whole (books.add entry.tallied)) (LineBroken env since whole books entry.tallied) := by
  apply outcomes_get
  intro read
  apply outcomes_bind fun _ => Tallying env since whole (books.add entry.tallied)
  · apply outcomes_torn_op
    · intro sink dir given performed
      obtain ⟨rfl, tally, placed⟩ := given
      obtain ⟨bytes, found, rfl⟩ := Option.map_eq_some_iff.mp performed
      refine ⟨{ tally with total := ?_, since := Nat.le_succ_of_le tally.since }, fun inPlace => ?_⟩
      · change sentinelTotal env.ext (sink.disk.journal ++ [_]) = books.total + entry.tallied
        rw [sentinel_total_snoc, sentinel_count_line env lawful, tally.total]
      · obtain ⟨handle, present⟩ := placed inPlace
        refine ⟨handle, ?_⟩
        change ((sink.disk.dir.appendFile sink.writer.file _).readFile activeName).isSome = true
        rw [read_append, handle]
        simpa using present
    · intro sink given cause
      obtain ⟨rfl, tally, placed⟩ := given
      refine .inl (tally_broken tally (fun inPlace missing => ?_) cause)
      obtain ⟨handle, present⟩ := placed inPlace
      rw [FsOp.perform, handle, Option.map_eq_none_iff] at missing
      rw [missing] at present
      cases present
    · intro sink left dir given failed torn _
      exact .inl (tally_torn given.2.1 failed torn)
  intro _
  have late (sink : Sink) (broken : TallyBroken env since whole (books.add entry.tallied) sink) :
      LineBroken env since whole books entry.tallied sink := .inr broken
  apply outcomes_bind fun _ => Tallying env since whole (books.add entry.tallied)
  · exact outcomes_lost late
      (tally_set_writer (fun _ => rfl) (fun _ => rfl) fun _ => rfl)
  intro _
  apply outcomes_read
  intro written
  apply outcomes_ite
  · intro _
    exact outcomes_lost late
      tally_checkpoint
  · intro _
    exact outcomes_pure fun _ tallying => tallying

include lawful in
theorem tally_record_raw (record : AuditRecord) : Outcomes (Tallying env since whole books) (writeRecordRaw env record)
    (fun _ => Tallying env since whole (books.add record.tallied)) (LineBroken env since whole books record.tallied) := by
  apply outcomes_read
  intro read
  have line := tally_line env lawful since whole books (read.writer.chain.append env.ext record).1
  apply outcomes_bind fun _ => Tallying env since whole books
  · exact outcomes_lost (fun _ broken => .inl broken)
      (tally_set_writer (fun _ => rfl) (fun _ => rfl) fun _ => rfl)
  intro _
  apply outcomes_ite
  · intro _
    apply outcomes_bind fun _ => Tallying env since whole books
    · exact outcomes_lost (fun _ broken => .inl broken)
        tally_rotate
    · intro _
      exact line
  · intro _
    exact line

end Lines

end Pkcs11Proxy.Audit
