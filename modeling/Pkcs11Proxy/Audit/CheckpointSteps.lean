import Pkcs11Proxy.Audit.WriteSteps

namespace Pkcs11Proxy.Audit

open Lib

variable {ext : Externals} {stop : ChainState} {records : List AuditRecord} {seed : Bytes}
  {now count : UInt64}

section Certify

variable (env : SinkEnv) {fits : Prop} {sink : Sink} {layout : LogLayout} {start : ChainState} (chain : ChainState)

theorem chained_older (linked : Chained ext start records stop)
    (room : start.lastSeq.toNat + records.length < 2 ^ 64) : ∀ record ∈ records, record.seq.toNat < stop.lastSeq.toNat := by
  intro record member
  obtain ⟨front, back, rfl⟩ := List.append_of_mem member
  have total := chained_length start stop _ linked room
  obtain ⟨mid, first, seq, -, -⟩ := chained_append.mp linked
  rw [List.length_append, List.length_cons] at room total
  have position := chained_length start mid front first (by omega)
  rw [seq]
  omega

theorem chained_newest {record : AuditRecord}
    (linked : Chained ext start records stop) (room : start.lastSeq.toNat + records.length < 2 ^ 64) (member : record ∈ records)
    (newest : record.seq.toNat + 1 = stop.lastSeq.toNat) : recordHash ext record.prevHash record = stop.lastHash := by
  rcases List.eq_nil_or_concat' records with rfl | ⟨front, last, rfl⟩
  · cases member
  · have ended := chained_last linked
    have total := chained_length start stop _ linked room
    obtain ⟨mid, first, seq, -, -⟩ := chained_append.mp linked
    rw [List.length_append, List.length_singleton] at room total
    rcases List.mem_append.mp member with older | same
    · have before := chained_older first (by omega) record older
      have position := chained_length start mid front first (by omega)
      omega
    · rw [List.mem_singleton.mp same, ended]

theorem saturating_pred_succ (a : UInt64) (positive : 0 < a.toNat) : (saturatingPred a).toNat + 1 = a.toNat := by
  have nonzero : a ≠ 0 := by
    rintro rfl
    exact Nat.lt_irrefl _ positive
  have one : (1 : UInt64).toNat = 1 := rfl
  rw [saturatingPred, if_neg nonzero, UInt64.toNat_sub_of_le _ _ (by rw [UInt64.le_iff_toNat_le, one]; omega), one]
  omega

theorem saturating_pred_mono {a b : UInt64} (le : a.toNat ≤ b.toNat) : saturatingPred a ≤ saturatingPred b := by
  rw [UInt64.le_iff_toNat_le]
  by_cases zero : a = 0
  · subst zero
    exact Nat.zero_le _
  · have positive : 0 < a.toNat := by
      by_contra none
      exact zero (UInt64.toNat_inj.mp (Nat.eq_zero_of_not_pos none))
    have left := saturating_pred_succ a positive
    have right := saturating_pred_succ b (by omega)
    omega

theorem holds_opened {dir : LogDir} {lines : List CheckpointLine} (holds : HoldsLines ext dir lines) :
    dir.checkpoints.getD [] = sidecarBytes ext lines := by
  rcases holds with ⟨absent, rfl⟩ | present
  · rw [absent]
    rfl
  · rw [present]
    rfl

def checkpointLine (seed : Bytes) (now count : UInt64) : CheckpointLine :=
  let cp : Checkpoint := ⟨saturatingPred chain.lastSeq, chain.lastHash, now, count⟩
  ⟨cp, env.ext.sign seed (env.ext.checkpointJson cp)⟩

variable {chain}

theorem checkpoint_binds (signing : env.signer = some seed)
    (disk : OnDisk env fits sink layout start chain) (written : 0 < sink.view.lines) (counted : count.toNat ≤ sink.view.lines)
    (stamps : ∀ record ∈ layout.records, record.tsUnixMs ≤ now) :
    Binds env.ext env.signer layout.records (checkpointLine env chain seed now count) where
  count := by
    refine saturating_pred_mono ?_
    rw [head_seq disk]
    exact counted
  content record member same := by
    have head := head_seq disk
    have last : record.seq.toNat + 1 = chain.lastSeq.toNat := by
      rw [same]
      exact saturating_pred_succ chain.lastSeq (by omega)
    exact ⟨chained_newest disk.linked (by rw [disk.total]; exact disk.room) member last,
      stamps record member⟩
  signature := ⟨seed, signing, rfl⟩

theorem certified_checkpoint {next : Sink} (signing : env.signer = some seed)
    (disk : OnDisk env fits sink layout start chain) (written : 0 < sink.view.lines) (counted : count.toNat ≤ sink.view.lines)
    (stamps : ∀ record ∈ layout.records, record.tsUnixMs ≤ now) (certified : Certified env sink layout.records)
    (checkpoints : next.disk.dir.checkpoints = some (sink.disk.dir.checkpoints.getD [] ++
      (env.ext.checkpointLineJson.enc (checkpointLine env chain seed now count) ++ [newline])))
    (lines : next.view.lines = sink.view.lines) (readings : next.disk.readings = sink.disk.readings)
    (recordCount : next.writer.recordCount = sink.writer.recordCount)
    (since : next.writer.recordsSinceCheckpoint ≤ sink.writer.recordsSinceCheckpoint) : Certified env next layout.records where
  current := certified.current
  stamps := by rw [readings]; exact certified.stamps
  counted := by rw [recordCount, lines]; exact certified.counted
  pending := by rw [lines]; exact Nat.le_trans since certified.pending
  sidecar := by
    obtain ⟨held, holds, binds, -⟩ := certified.sidecar
    have position : (checkpointLine env chain seed now count).checkpoint.seq.toNat + 1 = sink.view.lines := by
      rw [← head_seq disk]
      exact saturating_pred_succ chain.lastSeq (by rw [head_seq disk]; exact written)
    have grown := holds_opened holds
    refine ⟨held ++ [checkpointLine env chain seed now count], .inr ?_, ?_,
      fun _ _ _ => ⟨_, List.mem_append_right _ (List.mem_singleton_self _), by rw [lines]; exact position⟩⟩
    · rw [checkpoints, grown, sidecarBytes, sidecarBytes, join_lines_append]
      simp [joinLines]
    · rw [lines]
      exact forall_added binds ⟨checkpoint_binds env signing disk written counted stamps, by omega⟩

end Certify

section Checkpoint

variable (env : SinkEnv) (fits : Prop) (lawful : env.ext.Lawful) (monotone : fits → ∀ n m, n ≤ m → env.clock n ≤ env.clock m)
  (plan : CrashPlan env) (floor : Nat)

def Flushed (sink : Sink) : Prop :=
  floor ≤ sink.disk.readings ∧ sink.writer.recordsSinceCheckpoint = 0 ∧ ∃ layout start records covered,
    Settled env fits sink layout start sink.writer.chain records [] sink.writer.chain ∧
      sink.disk.dir.anchor = some (env.ext.anchorJson.enc ⟨sink.writer.chain.lastHash, sink.writer.chain.lastSeq, covered⟩)

def Stamping (now : UInt64) (sink : Sink) : Prop :=
  floor ≤ sink.disk.readings ∧ (fits → 0 < sink.view.lines) ∧ ∃ layout start before tail sealed,
    Settled env fits sink layout start sink.writer.chain before tail sealed ∧ (fits → ∀ record ∈ layout.records, record.tsUnixMs ≤ now)

variable {env fits}

def Sink.cleared (sink : Sink) : Sink := { sink with writer := { sink.writer with recordsSinceCheckpoint := 0 } }

variable {sink : Sink}

theorem flushed_at_rest (flushed : Flushed env fits floor sink) : AtRest env fits floor sink := by
  obtain ⟨floor, -, layout, start, records, covered, inv, -⟩ := flushed
  exact ⟨floor, layout, start, records, [], _, inv⟩

include lawful in
theorem at_rest_resumes (rest : AtRest env fits floor sink) : ResumesAtTail env.ext sink.disk.dir :=
  between_resumes lawful rest.2

include lawful in
theorem stamping_resumes (stamping : Stamping env fits floor now sink) :
    ResumesAtTail env.ext sink.disk.dir := by
  obtain ⟨-, -, layout, start, before, tail, sealed, inv, -⟩ := stamping
  exact settled_resumes lawful inv

include lawful plan

variable {writer : WriterState}

theorem guarded_open_checkpoints :
    Guarded (Dead env) (fun sink => sink.writer = writer ∧ Stamping env fits floor now sink) (fsOp env .openCheckpoints)
      fun _ sink => sink.writer = writer ∧ Stamping env fits floor now sink := by
  refine guarded_fs_op plan ?_ fun sink holds _ => stamping_resumes lawful floor holds.2
  rintro sink ⟨same, later, written, layout, start, before, tail, sealed, inv, stamps⟩
  let dir : LogDir := { sink.disk.dir with checkpoints := some (sink.disk.dir.checkpoints.getD []) }
  have view : (sink.after .openCheckpoints dir).view = sink.view := view_after sink _ dir
  have certified (fit : fits) : Certified env (sink.after .openCheckpoints dir) layout.records := by
    have before := inv.disk.certified fit
    obtain ⟨held, holds, rest⟩ := before.sidecar
    exact ⟨before.current, before.stamps, by rw [view]; exact before.counted, by rw [view]; exact before.pending,
      held, .inr (congrArg some (holds_opened holds)), by rw [view]; exact rest⟩
  exact ⟨dir, rfl, .inl ⟨same, later, by rw [view]; exact written, layout, start, before, tail, sealed,
    settled_recertified sink _ rfl rfl view rfl rfl certified inv, stamps⟩⟩

theorem guarded_append_checkpoint (signing : env.signer = some seed) :
    Guarded (Dead env) (fun sink => sink.writer = writer ∧ Stamping env fits floor now sink)
      (fsOp env (.appendCheckpoint (env.ext.checkpointLineJson.enc
        (checkpointLine env writer.chain seed now writer.recordCount) ++ [newline])))
      fun _ sink => AtRest env fits floor sink.cleared := by
  refine guarded_fs_op plan ?_ fun sink holds _ => stamping_resumes lawful floor holds.2
  rintro sink ⟨same, later, written, layout, start, before, tail, sealed, inv, stamps⟩
  rw [← same]
  let line := env.ext.checkpointLineJson.enc (checkpointLine env sink.writer.chain seed now sink.writer.recordCount) ++ [newline]
  let dir : LogDir := { sink.disk.dir with checkpoints := some (sink.disk.dir.checkpoints.getD [] ++ line) }
  have view : (sink.after (.appendCheckpoint line) dir).cleared.view = sink.view := view_after sink (.appendCheckpoint line) dir
  have certified (fit : fits) : Certified env (sink.after (.appendCheckpoint line) dir).cleared layout.records :=
    certified_checkpoint env signing inv.disk (written fit)
      (inv.disk.certified fit).counted (stamps fit) (inv.disk.certified fit) rfl (by rw [view]) rfl rfl (Nat.zero_le _)
  exact ⟨dir, rfl, .inl ⟨later, layout, start, before, tail, sealed,
    settled_recertified sink _ rfl rfl view rfl rfl certified inv⟩⟩

theorem guarded_write_checkpoint (signing : env.signer = some seed) :
    Guarded (Dead env) (Stamping env fits floor now) (writeCheckpointLine env seed now)
      fun _ sink => AtRest env fits floor sink.cleared := by
  refine guarded_get fun read => ?_
  refine guarded_bind (fun _ sink => sink.writer = read.writer ∧ Stamping env fits floor now sink) ?_ fun _ => ?_
  · refine guarded_weaken _ _ ?_ (fun _ _ holds => holds) (guarded_open_checkpoints lawful plan floor)
    exact fun sink holds => ⟨congrArg Sink.writer holds.1, holds.2⟩
  · exact guarded_append_checkpoint lawful plan floor signing

include monotone

theorem guarded_seal : Guarded (Dead env) (fun sink => AtRest env fits floor sink ∧ sink.writer.recordsSinceCheckpoint = 0)
    (writeAnchor env) fun _ => Flushed env fits floor := by
  refine guarded_get fun read => guarded_fs_op plan ?_ ?_
  · rintro sink ⟨rfl, ⟨later, layout, start, before, tail, sealed, inv⟩, since⟩
    let op := FsOp.replaceAnchor (env.ext.anchorJson.enc ⟨sink.writer.chain.lastHash, sink.writer.chain.lastSeq, sink.writer.fileBytes⟩)
    let dir : LogDir := { sink.disk.dir with
      anchor := some (env.ext.anchorJson.enc ⟨sink.writer.chain.lastHash, sink.writer.chain.lastSeq, sink.writer.fileBytes⟩) }
    have view : (sink.after op dir).view = { sink.view with anchored := true } := by
      rw [view_after]
      simp only [op, JournalView.observe, inv.phase]
    obtain ⟨first, disk⟩ := on_disk_reshaped monotone sink (sink.after op dir) layout layout start sink.writer.chain [] rfl id
      ⟨rfl, by rw [view], Nat.le_refl _, rfl, rfl⟩ inv.disk.files inv.disk.numbered inv.disk.filled inv.disk.below inv.disk
    have bytes := inv.bytes
    refine ⟨dir, rfl, .inl ⟨later, since, layout, first, before ++ tail, sink.writer.fileBytes, ?_, rfl⟩⟩
    refine ⟨disk, by rw [view]; exact inv.phase, by rw [List.append_nil]; exact inv.active, inv.handle,
      by rw [List.append_nil]; exact bytes, .inr ?_, fun _ => rfl, fun _ => rfl⟩
    rw [← bytes]
    rfl
  · rintro sink ⟨-, rest, -⟩ _
    exact at_rest_resumes lawful floor rest

theorem guarded_checkpoint : Guarded (Dead env) (fun sink => AtRest env fits floor sink ∧ (fits → 0 < sink.view.lines))
    (doCheckpoint env) fun _ => Flushed env fits floor := by
  have sealing : Guarded (Dead env) (fun sink => AtRest env fits floor sink.cleared)
      (setWriter (fun writer => { writer with recordsSinceCheckpoint := 0 }) >>= fun _ => writeAnchor env)
      fun _ => Flushed env fits floor := by
    refine guarded_bind (fun _ sink => AtRest env fits floor sink ∧ sink.writer.recordsSinceCheckpoint = 0) ?_ fun _ => ?_
    · exact guarded_set_writer fun sink holds => ⟨holds, rfl⟩
    · exact guarded_seal lawful monotone plan floor
  unfold doCheckpoint
  cases signing : env.signer with
  | some seed =>
    refine guarded_bind (fun now => Stamping env fits floor now) ?_ fun now => ?_
    · refine guarded_now fun sink holds => ?_
      obtain ⟨⟨later, layout, start, before, tail, sealed, inv⟩, written⟩ := holds
      refine ⟨Nat.le_succ_of_le later, written, layout, start, before, tail, sealed, ?_, fun fit => (inv.disk.certified fit).stamps⟩
      exact settled_congr monotone sink _ ⟨rfl, rfl, Nat.le_succ _, rfl, rfl⟩ rfl rfl inv
    · exact guarded_bind _ (guarded_write_checkpoint lawful plan floor signing) fun _ => sealing
  | none =>
    refine guarded_weaken _ _ (fun sink holds => ?_) (fun _ _ holds => holds) sealing
    obtain ⟨⟨later, layout, start, before, tail, sealed, inv⟩, -⟩ := holds
    refine ⟨later, layout, start, before, tail, sealed,
      settled_recertified sink _ rfl rfl rfl rfl rfl (fun fit => ?_) inv⟩
    have certified := inv.disk.certified fit
    obtain ⟨held, holds, binds, -⟩ := certified.sidecar
    exact ⟨certified.current, certified.stamps, certified.counted, Nat.zero_le _, held, holds, binds, by simp [signing]⟩

end Checkpoint

end Pkcs11Proxy.Audit
