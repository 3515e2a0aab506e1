import Pkcs11Proxy.Audit.HonestLog

namespace Pkcs11Proxy.Audit

open Lib

structure Externals.Lawful (ext : Externals) : Prop where
  record : ext.recordJson.Lawful
  line : ext.checkpointLineJson.Lawful
  anchor : ext.anchorJson.Lawful
  signed : ∀ seed, ∃ key, ext.loadVerifier (ext.publicHex seed) = .ok key ∧
    ∀ message, ext.verifies key message (ext.sign seed message) = true

structure Binds (ext : Externals) (signer : Option Bytes) (records : List AuditRecord) (line : CheckpointLine) : Prop where
  count : saturatingPred line.checkpoint.recordCount ≤ line.checkpoint.seq
  content : ∀ record ∈ records, record.seq = line.checkpoint.seq →
    recordHash ext record.prevHash record = line.checkpoint.chainHeadHash ∧ record.tsUnixMs ≤ line.checkpoint.tsUnixMs
  signature : ∃ seed, signer = some seed ∧ line.signature = ext.sign seed (ext.checkpointJson line.checkpoint)

def sidecarBytes (ext : Externals) (lines : List CheckpointLine) : Bytes := joinLines ext.checkpointLineJson.enc lines

def HoldsLines (ext : Externals) (dir : LogDir) (lines : List CheckpointLine) : Prop :=
  (dir.checkpoints = none ∧ lines = []) ∨ dir.checkpoints = some (sidecarBytes ext lines)

def SignerKey (ext : Externals) (signer : Option Bytes) (key : Option String) : Prop :=
  key = none ∨ ∃ seed, signer = some seed ∧ key = some (ext.publicHex seed)

structure HonestSidecar (ext : Externals) (signer : Option Bytes) (sidecar : CheckpointSidecar) : Prop where
  missing : sidecar.missing = true → sidecar.lines = []
  checked : sidecar.signatureChecked = true → ∃ seed, signer = some seed
  verifier : sidecar.verifier = none ∨ ∃ seed pubKey, signer = some seed ∧ sidecar.verifier = some pubKey ∧
    ∀ message, ext.verifies pubKey message (ext.sign seed message) = true

variable {key : Option String} {sidecar : CheckpointSidecar} {start stop : ChainState}
  {replay : StreamReplay}

variable {lines : List CheckpointLine}

section Sidecar

variable {ext : Externals}

theorem read_numbered_lines (lawful : ext.checkpointLineJson.Lawful) (path : String) (lineNo : Nat) (lines done : List CheckpointLine) :
    (numberLines path lineNo (lines.map ext.checkpointLineJson.enc)).foldlM
      (fun lines (lineNo, item) => pushCheckpointLine ext path lines lineNo item) done = .ok (done ++ lines) := by
  induction lines generalizing lineNo done with
  | nil => simp [numberLines, pure, Except.pure]
  | cons line rest ih =>
    have shown : (ext.checkpointLineJson.enc line).isEmpty = false := List.isEmpty_eq_false_iff.mpr (lawful.plain line).nonempty
    have pushed : pushCheckpointLine ext path done lineNo (.ok (ext.checkpointLineJson.enc line)) = .ok (done ++ [line]) := by
      simp [pushCheckpointLine, shown, lawful.roundTrip]
    rw [List.map_cons, numberLines, utf8_line lawful, if_pos rfl, List.foldlM_cons]
    simp only [pushed]
    exact (ih (lineNo + 1) (done ++ [line])).trans (by rw [List.append_assoc]; rfl)

theorem read_sidecar (lawful : ext.Lawful) {dir : LogDir} (held : HoldsLines ext dir lines)
    {signer : Option Bytes} (known : SignerKey ext signer key) :
    ∃ sidecar, readCheckpointSidecar ext dir key = .ok sidecar ∧ sidecar.lines = lines ∧ HonestSidecar ext signer sidecar := by
  rcases held with ⟨absent, rfl⟩ | present
  · refine ⟨⟨[], none, key.isSome, true⟩, by simp only [readCheckpointSidecar, absent], rfl, fun _ => rfl, ?_, .inl rfl⟩
    rcases known with rfl | ⟨seed, owned, rfl⟩
    · intro checked
      cases checked
    · exact fun _ => ⟨seed, owned⟩
  · have parsed : readCheckpointLines ext dir.checkpointsDisplay (sidecarBytes ext lines) = .ok lines := by
      rw [readCheckpointLines, streamLines, sidecarBytes, split_join_lines lawful.line.plain]
      exact read_numbered_lines lawful.line _ 1 lines []
    rcases known with rfl | ⟨seed, owned, rfl⟩
    · refine ⟨⟨lines, none, false, false⟩, ?_, rfl, (by simp), (by simp), .inl rfl⟩
      simp [readCheckpointSidecar, present, parsed]
    · obtain ⟨pubKey, loaded, verifies⟩ := lawful.signed seed
      refine ⟨⟨lines, some pubKey, true, false⟩, ?_, rfl, (by simp), fun _ => ⟨seed, owned⟩,
        .inr ⟨seed, pubKey, owned, rfl, verifies⟩⟩
      simp only [readCheckpointSidecar, present, loaded, parsed, bind, Except.bind, pure, Except.pure, Option.isSome_some]

end Sidecar

section Range

variable {ext : Externals}

theorem chained_covers (start stop : ChainState) (records : List AuditRecord) (seq : UInt64)
    (linked : Chained ext start records stop) (room : start.lastSeq.toNat + records.length < 2 ^ 64)
    (above : start.lastSeq.toNat ≤ seq.toNat) (below : seq.toNat < start.lastSeq.toNat + records.length) :
    ∃ record ∈ records, record.seq = seq := by
  induction records generalizing start with
  | nil =>
    rw [List.length_nil] at below
    omega
  | cons record rest ih =>
    rw [List.length_cons] at room below
    obtain ⟨first, -, linked⟩ := linked
    have grown := toNat_succ start.lastSeq (by omega)
    by_cases same : seq = start.lastSeq
    · exact ⟨record, by simp, first.trans same.symm⟩
    · have apart : seq.toNat ≠ start.lastSeq.toNat := fun equal => same (UInt64.toNat_inj.mp equal)
      obtain ⟨found, member, equal⟩ := ih _ linked (by simp only [grown]; omega) (by simp only [grown]; omega)
        (by simp only [grown]; omega)
      exact ⟨found, by simp [member], equal⟩

end Range

section Checkpoints

variable {ext : Externals} {signer : Option Bytes}

theorem binds_holds {records : List AuditRecord}
    (replayed : Replayed ext sidecar.neededSeqs start stop records replay) {line : CheckpointLine} (member : line ∈ sidecar.lines)
    (binds : Binds ext signer records line) (inRange : ∃ record ∈ records, record.seq = line.checkpoint.seq)
    (honest : HonestSidecar ext signer sidecar) :
    checkpointHolds ext sidecar.verifier replay.finish.seqToHash replay.finish.seqToTs line = true := by
  obtain ⟨record, inside, same⟩ := inRange
  obtain ⟨hash, stamp⟩ := binds.content record inside same
  have asked : record.seq ∈ sidecar.neededSeqs := by
    rw [same]
    exact List.mem_map_of_mem member
  have hashFound := replayed.hashes record inside asked
  have stampFound := replayed.stamps record inside asked
  rw [same] at hashFound stampFound
  simp only [checkpointHolds, StreamReplay.finish, hashFound, stampFound, Option.any_some, hash, beq_self_eq_true,
    decide_eq_true binds.count, decide_eq_true stamp, Bool.and_self, ge_iff_le, Bool.and_true]
  rcases honest.verifier with none | ⟨seed, pubKey, owned, loaded, verifies⟩
  · rw [none]
  · obtain ⟨other, signed, text⟩ := binds.signature
    rw [owned] at signed
    cases signed
    rw [loaded, text]
    exact verifies _

theorem tally_binds {outcome : ReplayOutcome} (tally : CheckpointTally)
    (holds : ∀ line ∈ lines, ¬ (outcome.records = 0 ∨ line.checkpoint.seq < outcome.firstSeq ∨ line.checkpoint.seq > outcome.lastSeq) →
      checkpointHolds ext sidecar.verifier outcome.seqToHash outcome.seqToTs line = true) :
    (lines.foldl (tallyCheckpoint ext sidecar outcome) tally).failed = tally.failed ∧
      tally.evaluated ≤ (lines.foldl (tallyCheckpoint ext sidecar outcome) tally).evaluated ∧
      ((∃ line ∈ lines, ¬ (outcome.records = 0 ∨ line.checkpoint.seq < outcome.firstSeq ∨ line.checkpoint.seq > outcome.lastSeq)) →
        tally.evaluated < (lines.foldl (tallyCheckpoint ext sidecar outcome) tally).evaluated) := by
  induction lines generalizing tally with
  | nil => simp
  | cons line rest ih =>
    have later := fun tally => ih tally fun other member => holds other (by simp [member])
    rw [List.foldl_cons]
    by_cases skipped : outcome.records = 0 ∨ line.checkpoint.seq < outcome.firstSeq ∨ line.checkpoint.seq > outcome.lastSeq
    · have same : tallyCheckpoint ext sidecar outcome tally line = tally := by rw [tallyCheckpoint, if_pos skipped]
      rw [same]
      obtain ⟨failed, grown, counted⟩ := later tally
      refine ⟨failed, grown, ?_⟩
      rintro ⟨other, member, inRange⟩
      rcases List.mem_cons.mp member with rfl | tail
      · exact absurd skipped inRange
      · exact counted ⟨other, tail, inRange⟩
    · have next : tallyCheckpoint ext sidecar outcome tally line =
          { tally with verified := tally.verified + 1, evaluated := tally.evaluated + 1 } := by
        rw [tallyCheckpoint, if_neg skipped, if_pos (holds line (by simp) skipped)]
      rw [next]
      obtain ⟨failed, grown, -⟩ := later { tally with verified := tally.verified + 1, evaluated := tally.evaluated + 1 }
      exact ⟨failed, Nat.le_of_succ_le grown, fun _ => grown⟩

end Checkpoints

structure Sealed (ext : Externals) (signer : Option Bytes) (dir : LogDir) (layout : LogLayout) (start stop : ChainState) : Prop where
  listed : dir.files.Perm (layout.files ext)
  numbered : layout.numbered
  current : ∀ record ∈ layout.records, record.schemaVersion = auditSchemaVersion
  linked : Chained ext start layout.records stop
  room : start.lastSeq.toNat + layout.records.length < 2 ^ 64
  unwritten : layout.records = [] → stop = ChainState.genesis
  anchored : ∃ covered, dir.anchor = some (ext.anchorJson.enc ⟨stop.lastHash, stop.lastSeq, covered⟩)
  certified : ∃ lines, HoldsLines ext dir lines ∧ (∀ line ∈ lines, Binds ext signer layout.records line) ∧
    (signer.isSome → layout.records ≠ [] → ∃ line ∈ lines, line.checkpoint.seq + 1 = stop.lastSeq)

structure CleanReport (report : VerifyReport) (count : Nat) : Prop where
  chainOk : report.chainOk = true
  noMissing : report.gaps = [] ∧ report.gapsTruncated = false
  noDuplicates : report.duplicateSeqs = [] ∧ report.duplicatesTruncated = false
  anchorMatches : report.headMatchesAnchor = true
  signaturesValid : report.checkpointsFailed = 0
  counted : report.records.toNat = count

section Verdict

variable {ext : Externals} {signer : Option Bytes} {dir : LogDir} {layout : LogLayout}

theorem eval_no_failure
    (replayed : Replayed ext sidecar.neededSeqs start stop layout.records replay) (linked : Chained ext start layout.records stop)
    (room : start.lastSeq.toNat + layout.records.length < 2 ^ 64) (binds : ∀ line ∈ sidecar.lines, Binds ext signer layout.records line)
    (latest : signer.isSome → ∃ line ∈ sidecar.lines, line.checkpoint.seq + 1 = stop.lastSeq)
    (honest : HonestSidecar ext signer sidecar) :
    (evalCheckpoints ext sidecar replay.finish).2.1 = 0 := by
  have length := chained_length start stop layout.records linked room
  have positive : 0 < layout.records.length := List.length_pos_iff.mpr replayed.nonempty
  have counted : replay.finish.records ≠ 0 := fun zero =>
    Nat.ne_of_lt positive ((congrArg UInt64.toNat zero).symm.trans replayed.records)
  have lastSeq : replay.finish.lastSeq.toNat + 1 = stop.lastSeq.toNat := by
    have numbers := congrArg UInt64.toNat replayed.last
    rw [UInt64.toNat_add] at numbers
    have bound := UInt64.toNat_lt replay.lastSeq
    have one : (1 : UInt64).toNat = 1 := rfl
    change replay.lastSeq.toNat + 1 = _
    omega
  have firstSeq : replay.finish.firstSeq = start.lastSeq := replayed.first
  have noFailure := tally_binds ⟨0, 0, 0⟩ fun line member inRange => by
    refine binds_holds replayed member (binds line member) ?_ honest
    simp only [not_or, firstSeq, UInt64.lt_iff_toNat_lt, gt_iff_lt] at inRange
    exact chained_covers start stop layout.records _ linked room (by omega) (by omega)
  obtain ⟨failed, -, evaluated⟩ := noFailure
  by_cases absent : sidecar.missing = true
  · have nothing := honest.missing absent
    have unchecked : sidecar.signatureChecked = false := by
      by_contra asked
      obtain ⟨seed, owned⟩ := honest.checked (by simpa using asked)
      obtain ⟨line, member, -⟩ := latest (by simp [owned])
      rw [nothing] at member
      cases member
    simp [evalCheckpoints, absent, unchecked]
  · by_cases keyed : sidecar.verifier.isSome = true
    · rcases honest.verifier with none | ⟨seed, pubKey, owned, -, -⟩
      · rw [none] at keyed
        cases keyed
      · obtain ⟨line, member, top⟩ := latest (by simp [owned])
        have bound := evaluated ⟨line, member, by
          have numbers := congrArg UInt64.toNat top
          rw [UInt64.toNat_add] at numbers
          have small := UInt64.toNat_lt line.checkpoint.seq
          have one : (1 : UInt64).toNat = 1 := rfl
          simp only [not_or, firstSeq, UInt64.lt_iff_toNat_lt, gt_iff_lt]
          exact ⟨counted, by omega, by omega⟩⟩
        have some : ((sidecar.lines.foldl (tallyCheckpoint ext sidecar replay.finish) ⟨0, 0, 0⟩).evaluated == 0) = false := by
          simp only [beq_eq_false_iff_ne]
          omega
        simp only [evalCheckpoints, if_neg absent, some, Bool.and_false, Bool.false_eq_true, if_false]
        exact failed
    · simp only [evalCheckpoints, if_neg absent, Bool.not_eq_true _ ▸ keyed, Bool.false_and, Bool.false_eq_true, if_false]
      exact failed

theorem verify_dir_clean (read : readCheckpointSidecar ext dir key = .ok sidecar)
    (ran : (collectLogFiles dir).foldlM (replayFile ext dir) (StreamReplay.new sidecar.neededSeqs) = .ok replay)
    (agrees : checkAnchor ext dir (replay.finish.records == 0) replay.finish.lastSeq replay.finish.head = .ok true)
    (noFailure : (evalCheckpoints ext sidecar replay.finish).2.1 = 0) (linksOk : replay.linksOk = true)
    (ordered : replay.unordered = false) (noGaps : replay.gaps = [] ∧ replay.missingTotal = 0)
    (noDuplicates : replay.duplicates = [] ∧ replay.dupValuesTotal = 0) :
    ∃ report, verifyDir ext dir key = .ok report ∧ CleanReport report replay.records.toNat := by
  refine ⟨_, by simp only [verifyDir, read, ran, agrees, bind, Except.bind, pure, Except.pure]; rfl, ?_⟩
  constructor
  · simp [StreamReplay.finish, linksOk, noGaps, noDuplicates, ordered] at noFailure ⊢
    exact noFailure
  · simp [StreamReplay.finish, noGaps]
  · simp [StreamReplay.finish, noDuplicates]
  · rfl
  · exact noFailure
  · rfl

theorem eval_unwritten :
    (evalCheckpoints ext sidecar (StreamReplay.new sidecar.neededSeqs).finish).2.1 = 0 := by
  have skipped : ∀ (lines : List CheckpointLine) (tally : CheckpointTally),
      lines.foldl (tallyCheckpoint ext sidecar (StreamReplay.new sidecar.neededSeqs).finish) tally = tally := by
    intro lines
    induction lines with
    | nil => exact fun _ => rfl
    | cons line rest ih => exact fun tally => ih tally
  by_cases absent : sidecar.missing = true
  · simp [evalCheckpoints, absent, StreamReplay.finish, StreamReplay.new]
  · simp only [evalCheckpoints, if_neg absent, skipped]
    simp [StreamReplay.finish, StreamReplay.new]

theorem verify_sealed (lawful : ext.Lawful) (whole : Sealed ext signer dir layout start stop) (known : SignerKey ext signer key) :
    ∃ report, verifyDir ext dir key = .ok report ∧ CleanReport report layout.records.length := by
  obtain ⟨lines, held, binds, latest⟩ := whole.certified
  obtain ⟨covered, anchored⟩ := whole.anchored
  obtain ⟨sidecar, read, rfl, trusted⟩ := read_sidecar lawful held known
  have ran := replay_layout lawful.record dir (StreamReplay.new sidecar.neededSeqs) whole.current
  rw [← collect_layout whole.numbered whole.listed] at ran
  have parsed := lawful.anchor.roundTrip ⟨stop.lastHash, stop.lastSeq, covered⟩
  by_cases empty : layout.records = []
  · -- Nothing was ever written: the replay and the anchor are both at genesis.
    rw [empty, List.foldl_nil] at ran
    have agrees : checkAnchor ext dir true 0 genesisHash = .ok true := by
      simp only [checkAnchor, anchored, parsed, if_true]
      rw [whole.unwritten empty]
      rfl
    rw [empty]
    exact verify_dir_clean read ran agrees eval_unwritten rfl rfl ⟨rfl, rfl⟩ ⟨rfl, rfl⟩
  · have honest := replayed_honest ext sidecar.neededSeqs empty whole.linked whole.room
    have length := chained_length start stop layout.records whole.linked whole.room
    have positive : 0 < layout.records.length := List.length_pos_iff.mpr empty
    generalize layout.records.foldl (StreamReplay.push ext) (StreamReplay.new sidecar.neededSeqs) = replay at ran honest
    have notEmpty : (replay.records == 0) = false := by
      rw [beq_eq_false_iff_ne, ← UInt64.toNat_inj.ne, honest.records]
      exact Nat.ne_of_gt positive
    have notTop : replay.lastSeq ≠ u64Max := by
      intro top
      have wrapped : stop.lastSeq = 0 := by rw [← honest.last, top]; rfl
      rw [wrapped] at length
      have zero : (0 : UInt64).toNat = 0 := rfl
      omega
    have agrees : checkAnchor ext dir (replay.records == 0) replay.lastSeq (replay.expectedPrev.getD genesisHash) = .ok true := by
      simp [checkAnchor, anchored, parsed, notEmpty, if_neg notTop, honest.head, honest.last]
    have none := eval_no_failure honest whole.linked whole.room binds (fun signing => latest signing empty) trusted
    rw [← honest.records]
    exact verify_dir_clean read ran agrees none honest.linksOk honest.ordered honest.noGaps
      honest.noDuplicates

end Verdict

end Pkcs11Proxy.Audit
