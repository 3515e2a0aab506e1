import Pkcs11Proxy.Audit.FiledRecords
import Pkcs11Proxy.Audit.WriteSteps

namespace Pkcs11Proxy.Audit

open Lib

variable {sink : Sink} {dir : LogDir} {name : FileName} {entry : AuditRecord}

section Anchor

variable (env : SinkEnv) (stretch : Stretch) (rotations : Nat) (all stamped : List AuditRecord)

def Sealing (sink : Sink) : Prop := Writing env stretch rotations all stamped sink ∧ Anchored env.ext sink

variable {env stretch rotations all stamped}

theorem outcomes_anchor : Outcomes (Writing env stretch rotations all stamped) (writeAnchor env)
    (fun _ => Sealing env stretch rotations all stamped) (Broken env stretch stamped) := by
  apply outcomes_get
  intro read
  let bytes := env.ext.anchorJson.enc ⟨read.writer.chain.lastHash, read.writer.chain.lastSeq, read.writer.fileBytes⟩
  apply outcomes_fs_op
  · intro sink dir given performed
    obtain ⟨rfl, writing⟩ := given
    obtain rfl := Option.some.inj performed
    exact ⟨writing_aside performed rfl writing, rfl⟩
  · intro sink given cause
    exact held_broken given.2.1 (fun _ missing => by cases missing) cause
  · exact fun _ => rfl

theorem outcomes_checkpoint_line {seed : Bytes} {now : UInt64} :
    Outcomes (Writing env stretch rotations all stamped) (writeCheckpointLine env seed now)
      (fun _ => Writing env stretch rotations all stamped) (Broken env stretch stamped) := by
  apply outcomes_read
  intro read
  apply outcomes_bind (fun _ => Writing env stretch rotations all stamped)
  · exact outcomes_aside (fun _ => rfl) fun _ => rfl
  · intro _
    exact outcomes_aside (fun _ => rfl) fun _ => rfl

theorem outcomes_now : Outcomes (Writing env stretch rotations all stamped) (nowUnixMs env)
    (fun _ => Writing env stretch rotations all stamped) (Broken env stretch stamped) where
  ends sink value next ran writing := by
    cases ran
    exact ⟨{ writing.1 with }, writing.2⟩
  fails sink error next ran := by cases ran

theorem outcomes_checkpoint : Outcomes (Writing env stretch rotations all stamped) (doCheckpoint env)
    (fun _ => Sealing env stretch rotations all stamped) (Broken env stretch stamped) := by
  have sealing : Outcomes (Writing env stretch rotations all stamped)
      (setWriter (fun writer => { writer with recordsSinceCheckpoint := 0 }) >>= fun _ => writeAnchor env)
      (fun _ => Sealing env stretch rotations all stamped) (Broken env stretch stamped) := by
    apply outcomes_bind (fun _ => Writing env stretch rotations all stamped)
    · exact outcomes_set_writer fun sink writing => ⟨{ writing.1 with }, writing.2⟩
    · intro _
      exact outcomes_anchor
  unfold doCheckpoint
  cases signing : env.signer with
  | some seed =>
    apply outcomes_bind _ outcomes_now
    intro now
    exact outcomes_bind _ outcomes_checkpoint_line fun _ => sealing
  | none => exact sealing

end Anchor

section Rotation

variable (env : SinkEnv) (stretch : Stretch) (rotations : Nat) (all stamped : List AuditRecord)

def Open (sink : Sink) : Prop := Held env stretch rotations all stamped sink ∧ Unbroken sink.writer.file sink.disk.dir

variable {env stretch rotations all stamped}

theorem open_writing (sink : Sink) (opened : Open env stretch rotations all stamped sink) :
    Writing env stretch rotations all stamped sink := ⟨opened.1, fun _ => opened.2⟩

def follow (rotated : FileName) (writer : WriterState) : WriterState :=
  { writer with file := if writer.file = activeName then rotated else writer.file }

def reopened (writer : WriterState) : WriterState := { writer with file := activeName, fileBytes := 0 }

theorem held_renamed (held : Held env stretch (rotations + 1) all stamped sink)
    (performed : (FsOp.rename activeName (rotatedName (findMaxRotationN sink.disk.dir + 1))).perform sink.disk.dir = some dir) :
    Held env stretch rotations all stamped { sink.after (.rename activeName (rotatedName (findMaxRotationN sink.disk.dir + 1))) dir with
      writer := follow (rotatedName (findMaxRotationN sink.disk.dir + 1)) sink.writer } ∧ dir.readFile activeName = none := by
  let number := findMaxRotationN sink.disk.dir + 1
  have room := held.room
  have apart : activeName ≠ rotatedName number := rotated_ne_active.symm
  obtain ⟨bytes, found, rfl⟩ := Option.map_eq_some_iff.mp performed
  have reads := fun other => read_rename sink.disk.dir other apart
  have gone : (sink.disk.dir.renameFile activeName (rotatedName number)).readFile activeName = none := by
    rw [reads, if_neg apart, if_pos rfl]
  have onActive : sink.writer.file = activeName := by
    rcases held.active with here | missing
    · exact here
    · rw [missing] at found
      cases found
  have unused := next_rotation_unused sink.disk.dir (by omega)
  have followed : (follow (rotatedName number) sink.writer).file = rotatedName number := if_pos onActive
  refine ⟨held_moved held performed ?_ rfl ?_ ?_ (.inr gone) ?_, gone⟩
  · intro name held' logged there
    right
    by_cases moved : name = activeName
    · refine ⟨rotatedName number, [], is_audit_log_rotated, ?_⟩
      rw [reads, if_pos rfl, List.append_nil, ← moved]
      exact there
    · have other : name ≠ rotatedName number := by
        rintro rfl
        rw [unused] at there
        cases there
      refine ⟨name, [], logged, ?_⟩
      rw [reads, if_neg other, if_neg moved, List.append_nil]
      exact there
  · rw [followed, reads, if_pos rfl, ← onActive]
    exact held.descriptor
  · rw [followed]
    exact is_audit_log_rotated
  · have bound := find_max_rename sink.disk.dir
    omega

theorem held_reopened (held : Held env stretch rotations all stamped sink)
    (absent : sink.disk.dir.readFile activeName = none) (performed : (FsOp.openTruncate activeName).perform sink.disk.dir = some dir) :
    Open env stretch rotations all stamped { sink.after (.openTruncate activeName) dir with writer := reopened sink.writer } := by
  obtain rfl : sink.disk.dir.truncateFile activeName = dir := Option.some.inj performed
  have reads := fun other => read_truncate sink.disk.dir other absent
  have emptied : (sink.disk.dir.truncateFile activeName).readFile activeName = some [] := by rw [reads, if_pos rfl]
  refine ⟨held_moved held rfl ?_ rfl ?_ is_audit_log_active (.inl rfl) ?_, rfl,
    fun bytes found => .inl (Option.some.inj (found.symm.trans emptied))⟩
  · intro name bytes logged there
    have other : name ≠ activeName := by
      rintro rfl
      rw [absent] at there
      cases there
    exact .inr ⟨name, [], logged, by rw [reads, if_neg other, List.append_nil]; exact there⟩
  · exact ⟨[], emptied, Nat.le_refl _⟩
  · have bound := find_max_truncate absent
    have room := held.room
    omega

theorem open_pruned (other : name ≠ activeName)
    (opened : Open env stretch rotations all stamped sink) (performed : (FsOp.remove name).perform sink.disk.dir = some dir) :
    Open env stretch rotations all stamped (sink.after (.remove name) dir) := by
  obtain ⟨held, handle, whole⟩ := opened
  obtain ⟨bytes, found, rfl⟩ := Option.map_eq_some_iff.mp performed
  have reads := fun file => read_remove sink.disk.dir name file
  refine ⟨held_moved held performed ?_ rfl ?_ held.named (.inl handle) ?_,
    handle, fun kept there => whole kept ?_⟩
  · intro file bytes logged there
    by_cases gone : file = name
    · exact .inl (by rw [gone])
    · exact .inr ⟨file, [], logged, by rw [reads, if_neg gone, List.append_nil]; exact there⟩
  · rw [handle, reads, if_neg (fun same => other same.symm), ← handle]
    exact held.descriptor
  · have bound := find_max_remove sink.disk.dir name
    have room := held.room
    omega
  · rwa [Sink.after, reads, if_neg fun same => other same.symm] at there

theorem pruned_not_active {keep : Nat} (member : name ∈ prunedNames dir keep) : name ≠ activeName := by
  rintro rfl
  unfold prunedNames at member
  split at member
  · cases member
  · simp only at member
    split at member
    · cases member
    · obtain ⟨numbered, inside, named⟩ := List.mem_map.mp member
      have sorted := (List.mem_insertionSort _).mp (List.mem_of_mem_take inside)
      obtain ⟨file, -, parsed⟩ := List.mem_filterMap.mp sorted
      obtain ⟨n, number, rfl⟩ := Option.map_eq_some_iff.mp parsed
      rw [show file.1 = activeName from named, parse_rotation_active] at number
      cases number

theorem outcomes_prune : Outcomes (Open env stretch rotations all stamped) (pruneRotatedFiles env)
    (fun _ => Open env stretch rotations all stamped) (Broken env stretch stamped) := by
  apply outcomes_read
  intro read
  apply outcomes_for
  intro name member
  have other := pruned_not_active member
  apply outcomes_ignore (Open env stretch rotations all stamped) _ fun _ opened => opened
  apply outcomes_fs_op
  · intro sink dir opened performed
    exact open_pruned other opened performed
  · intro sink opened _
    exact ⟨{ opened.1 with since := Nat.le_succ_of_le opened.1.since }, opened.2⟩
  · exact fun _ => rfl

theorem outcomes_rotate : Outcomes (Writing env stretch (rotations + 1) all stamped) (rotate env)
    (fun _ => Writing env stretch rotations all stamped) (Broken env stretch stamped) := by
  let half (sink : Sink) : Prop := Held env stretch rotations all stamped sink ∧ sink.disk.dir.readFile activeName = none
  apply outcomes_bind _ (outcomes_aside (fun _ => rfl) fun _ => rfl)
  intro _
  apply outcomes_get
  intro read
  let rotated := rotatedName (findMaxRotationN read.disk.dir + 1)
  apply outcomes_bind fun _ sink => half { sink with writer := follow rotated sink.writer }
  · apply outcomes_fs_op
    · intro sink dir given performed
      obtain ⟨rfl, writing⟩ := given
      exact held_renamed writing.1 performed
    · intro sink given cause
      obtain ⟨rfl, writing⟩ := given
      refine held_broken writing.1 (fun whole missing => ?_) cause
      obtain ⟨bytes, found, -⟩ := writing.1.descriptor
      rw [(writing.2 whole).1] at found
      rw [FsOp.perform, found] at missing
      cases missing
    · exact fun _ => rfl
  intro _
  apply outcomes_bind fun _ => half
  · exact outcomes_set_writer fun sink inv => inv
  intro _
  apply outcomes_bind fun _ => half
  · apply outcomes_fs_op
    · intro sink dir inv performed
      obtain rfl := Option.some.inj performed
      exact ⟨held_aside performed rfl inv.1, inv.2⟩
    · intro sink inv cause
      exact held_broken inv.1 (fun _ missing => by cases missing) cause
    · exact fun _ => rfl
  intro _
  apply outcomes_bind fun _ sink => Open env stretch rotations all stamped { sink with writer := reopened sink.writer }
  · apply outcomes_fs_op
    · intro sink dir inv performed
      exact held_reopened inv.1 inv.2 performed
    · intro sink inv cause
      exact held_broken inv.1 (fun _ missing => by cases missing) cause
    · exact fun _ => rfl
  intro _
  apply outcomes_bind fun _ => Open env stretch rotations all stamped
  · exact outcomes_set_writer fun sink opened => opened
  intro _
  apply outcomes_bind _ outcomes_prune
  intro _
  exact outcomes_weaken _ _ open_writing (fun _ _ sealing => sealing.1)
    (fun _ broken => broken) outcomes_anchor

end Rotation

section Records

variable (env : SinkEnv) (stretch : Stretch) (rotations : Nat) (all stamped : List AuditRecord)

def Kept (sink : Sink) : Prop := ∃ all, Writing env stretch rotations all stamped sink

-- A line or a part of one at the end of the descriptor's file.
variable {all}

theorem held_appended {op : FsOp} (more : Bytes) (writer : WriterState) (held : Held env stretch rotations all stamped sink)
    (performed : op.perform sink.disk.dir = some (sink.disk.dir.appendFile sink.writer.file more))
    (chain : writer.chain = sink.writer.chain) (file : writer.file = sink.writer.file)
    (counted : writer.fileBytes ≤ sink.writer.fileBytes + more.length) :
    Held env stretch rotations all stamped { sink.after op (sink.disk.dir.appendFile sink.writer.file more) with writer := writer } := by
  obtain ⟨bytes, found, length⟩ := held.descriptor
  have reads := fun other => read_append sink.disk.dir sink.writer.file other more
  apply held_moved held performed _ chain
  · exact ⟨bytes ++ more, by rw [file, reads, if_pos rfl, found, Option.map_some], by rw [List.length_append]; omega⟩
  · exact file ▸ held.named
  · rcases held.active with here | missing
    · exact .inl (file.trans here)
    · right
      rw [reads, missing]
      split <;> rfl
  · have bound := find_max_append sink.disk.dir sink.writer.file more
    have room := held.room
    omega
  · intro name bytes logged there
    right
    by_cases here : name = sink.writer.file
    · exact ⟨name, more, logged, by rw [reads, if_pos here, there, Option.map_some]⟩
    · exact ⟨name, [], logged, by rw [reads, if_neg here, there, List.append_nil]⟩

-- The entry counts as filed when it starts a line; after a torn one it does not.
def Stretch.noted (stretch : Stretch) (entry : AuditRecord) : List AuditRecord := if stretch.whole then [entry] else []

theorem noted_sublist : (stretch.noted entry).Sublist [entry] := by
  rw [Stretch.noted]
  split
  · exact List.Sublist.refl _
  · exact List.nil_sublist _

theorem whole_after_line {bytes : Bytes} : WholeLines (bytes ++ toJsonl env.ext entry) := by
  right
  rw [toJsonl, ← List.append_assoc, List.getLast?_append]
  rfl

theorem writing_line (writing : Writing env stretch rotations all stamped sink) (next : (stamped ++ [entry]).Sublist all)
    (performed : (FsOp.writeAll sink.writer.file (toJsonl env.ext entry)).perform sink.disk.dir = some dir) :
    Writing env stretch rotations all (stamped ++ stretch.noted entry)
      { sink.after (.writeAll sink.writer.file (toJsonl env.ext entry)) dir with writer := noteLine (toJsonl env.ext entry) sink.writer } := by
  obtain ⟨held, ready⟩ := writing
  obtain ⟨_, -, rfl⟩ := Option.map_eq_some_iff.mp performed
  obtain ⟨bytes, found, -⟩ := held.descriptor
  have appended : (sink.disk.dir.appendFile sink.writer.file (toJsonl env.ext entry)).readFile sink.writer.file =
      some (bytes ++ toJsonl env.ext entry) := by
    rw [read_append, if_pos rfl, found, Option.map_some]
  have moved := held_appended env stretch rotations stamped (toJsonl env.ext entry) (noteLine (toJsonl env.ext entry) sink.writer) held
    performed rfl rfl (Nat.le_refl _)
  refine ⟨{ moved with covered := (noted_sublist stretch).append_left stamped |>.trans next, filed := ?_ }, fun whole => ?_⟩
  · cases whole : stretch.whole with
    | false =>
      rw [Stretch.noted, whole, if_neg Bool.false_ne_true, List.append_nil]
      exact moved.filed
    | true =>
      obtain ⟨handle, lines⟩ := ready whole
      rw [Stretch.noted, whole, if_pos rfl]
      refine forall_added moved.filed (.inl ⟨sink.writer.file, _, held.named, appended, bytes, [], lines bytes ?_, (List.append_nil _).symm⟩)
      rw [← handle]
      exact found
  · obtain ⟨handle, -⟩ := ready whole
    refine ⟨handle, fun there read => ?_⟩
    rw [← handle] at read
    rw [← Option.some.inj (appended.symm.trans read)]
    exact whole_after_line env

variable {more : List AuditRecord}

theorem held_forget (held : Held env stretch rotations all (stamped ++ more) sink) :
    Held env stretch rotations all stamped sink :=
  { held with
    filed := fun record member => held.filed record (List.mem_append_left _ member)
    covered := (List.sublist_append_left stamped more).trans held.covered }

theorem broken_forget (sink : Sink) (broken : Broken env stretch (stamped ++ more) sink) :
    Broken env stretch stamped sink := by
  obtain ⟨⟨all, held⟩, faulted⟩ := broken
  exact ⟨⟨all, held_forget env stretch 0 stamped held⟩, faulted⟩

theorem outcomes_line (next : (stamped ++ [entry]).Sublist all) :
    Outcomes (Writing env stretch rotations all stamped) (lineStep env entry)
      (fun _ => Writing env stretch rotations all (stamped ++ stretch.noted entry)) (Broken env stretch stamped) := by
  apply outcomes_get
  intro read
  apply outcomes_bind fun _ (sink : Sink) =>
    Writing env stretch rotations all (stamped ++ stretch.noted entry) (sink.noted (toJsonl env.ext entry))
  · apply outcomes_torn_op
    · intro sink dir given performed
      obtain ⟨rfl, writing⟩ := given
      exact writing_line env stretch rotations stamped writing next performed
    · intro sink given cause
      obtain ⟨rfl, writing⟩ := given
      refine held_broken writing.1 (fun _ missing => ?_) cause
      obtain ⟨bytes, found, -⟩ := writing.1.descriptor
      rw [FsOp.perform, found] at missing
      cases missing
    · intro sink left dir given failed torn performed
      obtain ⟨rfl, writing⟩ := given
      rw [FsOp.torn] at torn
      split at torn <;> cases torn
      obtain ⟨_, -, rfl⟩ := Option.map_eq_some_iff.mp performed
      exact broken_at writing.1
        (held_appended env stretch rotations stamped _ sink.writer writing.1 performed rfl rfl (Nat.le_add_right _ _)) rfl failed
  intro _
  apply outcomes_bind fun _ => Writing env stretch rotations all (stamped ++ stretch.noted entry)
  · exact outcomes_set_writer fun sink writing => writing
  intro _
  apply outcomes_get
  intro written
  apply outcomes_ite
  · intro _
    exact outcomes_weaken _ _ (fun _ given => given.2) (fun _ _ sealing => sealing.1)
      (broken_forget env stretch stamped)
      outcomes_checkpoint
  · intro _
    exact outcomes_pure fun sink given => given.2

def Recorded (record : AuditRecord) (sink : Sink) : Prop :=
  ∃ entry, SameEvent record entry ∧ Kept env stretch rotations (stamped ++ stretch.noted entry) sink

variable {rotations} {record : AuditRecord}

theorem outcomes_record_raw : Outcomes (Kept env stretch (rotations + 1) stamped) (writeRecordRaw env record)
    (fun _ => Recorded env stretch rotations stamped record) (Broken env stretch stamped) := by
  apply outcomes_exists
  intro all
  apply outcomes_given (stamped.Sublist all) fun sink writing => writing.1.covered
  intro covered
  apply outcomes_get
  intro read
  let entry := (read.writer.chain.append env.ext record).1
  apply outcomes_bind fun _ => Writing env stretch (rotations + 1) (all ++ [entry]) stamped
  · apply outcomes_set_writer
    intro sink given
    obtain ⟨rfl, held, whole⟩ := given
    exact ⟨{ held with
      chained := chained_stamped held.chained
      covered := held.covered.trans (List.sublist_append_left all [entry]) }, whole⟩
  intro _
  have line := outcomes_post (fun _ => Recorded env stretch rotations stamped record) (fun _ _ writing => ⟨entry, ⟨_, _, rfl⟩, _, writing⟩)
    (outcomes_line env stretch rotations stamped (covered.append (List.Sublist.refl [entry])))
  apply outcomes_ite
  · intro _
    exact outcomes_bind _ outcomes_rotate fun _ => line
  · intro _
    exact outcomes_pre _ (writing_fewer rotations (Nat.le_succ _)) line

theorem recorded_kept (sink : Sink) (recorded : Recorded env stretch rotations stamped record sink) :
    Kept env stretch rotations stamped sink := by
  obtain ⟨entry, -, all, held, whole⟩ := recorded
  exact ⟨all, held_forget env stretch rotations stamped held, whole⟩

theorem outcomes_gap_sentinel : Outcomes (Kept env stretch (rotations + 1) stamped) (maybeWriteGapSentinel env)
    (fun _ => Kept env stretch rotations stamped) (Broken env stretch stamped) := by
  apply outcomes_get
  intro read
  apply outcomes_ite
  · intro _
    apply outcomes_pure
    intro sink given
    obtain ⟨-, all, writing⟩ := given
    exact ⟨all, writing_fewer rotations (Nat.le_succ _) sink writing⟩
  intro _
  apply outcomes_bind fun _ => Kept env stretch (rotations + 1) stamped
  · apply outcomes_set_writer
    intro sink given
    obtain ⟨-, all, held, whole⟩ := given
    exact ⟨all, { held with }, whole⟩
  intro _
  apply outcomes_bind fun _ => Kept env stretch (rotations + 1) stamped
  · apply outcomes_exists
    intro all
    exact outcomes_post _ (fun _ _ writing => ⟨all, writing⟩)
      outcomes_now
  intro now
  exact outcomes_post _ (fun _ => recorded_kept env stretch stamped) (outcomes_record_raw env stretch stamped)

theorem outcomes_record (record : AuditRecord) : Outcomes (Kept env stretch 2 stamped) (writeRecord env record)
    (fun _ => Recorded env stretch 0 stamped record) (Broken env stretch stamped) :=
  outcomes_bind _ (outcomes_gap_sentinel env stretch stamped) fun _ => outcomes_record_raw env stretch stamped

theorem outcomes_flush : Outcomes (Kept env stretch 1 stamped) (flush env)
    (fun _ sink => ∃ all, Sealing env stretch 0 all stamped sink) (Broken env stretch stamped) := by
  apply outcomes_bind _ (outcomes_gap_sentinel env stretch stamped)
  intro _
  apply outcomes_exists
  intro all
  apply outcomes_bind _ (outcomes_aside (fun _ => rfl) fun _ => rfl)
  intro _
  apply outcomes_get
  intro read
  apply outcomes_ite
  · intro _
    exact outcomes_weaken _ _ (fun _ given => given.2) (fun _ _ sealing => ⟨all, sealing⟩) (fun _ broken => broken)
      outcomes_checkpoint
  · intro _
    exact outcomes_weaken _ _ (fun _ given => given.2) (fun _ _ sealing => ⟨all, sealing⟩) (fun _ broken => broken)
      outcomes_anchor

end Records

end Pkcs11Proxy.Audit
