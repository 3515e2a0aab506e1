import Pkcs11Proxy.Audit.PlainExternals

namespace Pkcs11Proxy.Audit

open Lib

section

variable (ext : Externals)

theorem append_all_head (records : List AuditRecord) (chain : ChainState) :
    (chain.appendAll ext records).2.lastHash = chainHead (recordHash ext) chain.lastHash (chain.appendAll ext records).1 := by
  induction records generalizing chain with
  | nil => rfl
  | cons record rest ih => exact ih (chain.append ext record).2

variable {replay : StreamReplay}

theorem place_later (record : AuditRecord) (later : replay.records.toNat ≠ 0) :
    (replay.place record).expectedPrev = replay.expectedPrev := by
  rw [StreamReplay.place, if_neg (fun zero => later (congrArg UInt64.toNat zero))]
  cases replay.prevSeq with
  | none => rfl
  | some prev => exact compare_seq_frame.1

theorem replay_head_later (records : List AuditRecord) {base : String} (later : replay.records.toNat ≠ 0)
    (few : replay.records.toNat + records.length < 2 ^ 64) (expected : replay.expectedPrev = some base) :
    (records.foldl (StreamReplay.push ext) replay).expectedPrev = some (chainHead (recordHash ext) base records) ∧
      (records.foldl (StreamReplay.push ext) replay).records.toNat = replay.records.toNat + records.length := by
  induction records generalizing replay base with
  | nil => exact ⟨expected, rfl⟩
  | cons record rest ih =>
    rw [List.length_cons] at few ⊢
    have nextPrev : (replay.push ext record).expectedPrev = some (recordHash ext base record) := by
      simp [StreamReplay.push, place_later record later, expected]
    have nextRecords := push_records ext record (by omega : replay.records.toNat + 1 < 2 ^ 64)
    obtain ⟨head, count⟩ := ih (by omega) (by omega) nextPrev
    refine ⟨head, ?_⟩
    rw [List.foldl_cons, count, nextRecords]
    omega

theorem replay_head (needed : List UInt64) (first : AuditRecord) (rest : List AuditRecord) (few : rest.length + 1 < 2 ^ 64) :
    ((first :: rest).foldl (StreamReplay.push ext) (StreamReplay.new needed)).finish.head =
        chainHead (recordHash ext) first.prevHash (first :: rest) ∧
      ((first :: rest).foldl (StreamReplay.push ext) (StreamReplay.new needed)).finish.records ≠ 0 := by
  have nextPrev : ((StreamReplay.new needed).push ext first).expectedPrev = some (recordHash ext first.prevHash first) := rfl
  have nextRecords : ((StreamReplay.new needed).push ext first).records.toNat = 1 := rfl
  obtain ⟨head, count⟩ := replay_head_later ext rest (by omega) (by omega) nextPrev
  rw [List.foldl_cons]
  constructor
  · simp only [StreamReplay.finish, head, Option.getD_some]
    rfl
  · intro zero
    have none : (rest.foldl (StreamReplay.push ext) ((StreamReplay.new needed).push ext first)).records.toNat = 0 := congrArg UInt64.toNat zero
    omega

theorem replay_items (path : String) (items : List (Except AuditError LocatedRecord)) (replay final : StreamReplay)
    (ran : items.foldlM (fun replay item => do
      let found ← item
      checkSchemaVersion path found.lineNo found.record
      return replay.push ext found.record) replay = .ok final) :
    final = (items.filterMap fun item => item.toOption.map LocatedRecord.record).foldl (StreamReplay.push ext) replay := by
  induction items generalizing replay with
  | nil =>
    cases ran
    rfl
  | cons item rest ih =>
    cases item with
    | error error => cases ran
    | ok found =>
      rw [List.foldlM_cons] at ran
      cases checked : checkSchemaVersion path found.lineNo found.record with
      | error error =>
        simp only [checked, bind, Except.bind] at ran
        cases ran
      | ok _ =>
        simp only [checked, bind, Except.bind, pure, Except.pure] at ran
        exact ih (replay.push ext found.record) ran

variable {dir : LogDir}

theorem replay_files {files : List (FileName × Bytes)} {final : StreamReplay}
    (ran : files.foldlM (replayFile ext dir) replay = .ok final) :
    final = (files.flatMap fun file => (streamFileRecords ext (dir.display file.1) file.2).filterMap fun item =>
      item.toOption.map LocatedRecord.record).foldl (StreamReplay.push ext) replay := by
  induction files generalizing replay with
  | nil =>
    cases ran
    rfl
  | cons file rest ih =>
    rw [List.foldlM_cons] at ran
    cases step : replayFile ext dir replay file with
    | error error =>
      simp only [step, bind, Except.bind] at ran
      cases ran
    | ok next =>
      simp only [step, bind, Except.bind] at ran
      rw [List.flatMap_cons, List.foldl_append, ← replay_items ext (dir.display file.1) _ replay next step]
      exact ih ran

theorem verify_dir_accepts {key : Option String} {report : VerifyReport}
    (verified : verifyDir ext dir key = .ok report) (accepted : report.chainOk = true) :
    ∃ needed, report.records = ((presentedRecords ext dir).foldl (StreamReplay.push ext) (StreamReplay.new needed)).records ∧ checkAnchor ext dir
      (((presentedRecords ext dir).foldl (StreamReplay.push ext) (StreamReplay.new needed)).finish.records == 0)
      ((presentedRecords ext dir).foldl (StreamReplay.push ext) (StreamReplay.new needed)).finish.lastSeq
      ((presentedRecords ext dir).foldl (StreamReplay.push ext) (StreamReplay.new needed)).finish.head = .ok true := by
  cases read : readCheckpointSidecar ext dir key with
  | error error =>
    simp only [verifyDir, read, bind, Except.bind] at verified
    cases verified
  | ok sidecar =>
    refine ⟨sidecar.neededSeqs, ?_⟩
    cases ran : (collectLogFiles dir).foldlM (replayFile ext dir) (StreamReplay.new sidecar.neededSeqs) with
    | error error =>
      simp only [verifyDir, read, ran, bind, Except.bind] at verified
      cases verified
    | ok replay =>
      have pushed := replay_files ext ran
      change replay = (presentedRecords ext dir).foldl _ _ at pushed
      rw [← pushed]
      cases anchored : checkAnchor ext dir (replay.finish.records == 0) replay.finish.lastSeq replay.finish.head with
      | error error =>
        simp only [verifyDir, read, ran, anchored, bind, Except.bind] at verified
        cases verified
      | ok agrees =>
        simp only [verifyDir, read, ran, anchored, bind, Except.bind, pure, Except.pure, Except.ok.injEq] at verified
        subst verified
        simp only [Bool.and_eq_true] at accepted
        exact ⟨rfl, by rw [accepted.2]⟩

-- A directory that verifies under the honest anchor presents an end of the honest
-- history, and all of it when its first record is linked to genesis.
theorem verify_dir_tamper_evident (safe : CollisionFree (recordHash ext) genesisHash) (history : List AuditRecord)
    (dir : LogDir) (key : Option String) (report : VerifyReport) (bytes : Bytes) (anchor : AnchorFile)
    (few : (presentedRecords ext dir).length < 2 ^ 64) (verified : verifyDir ext dir key = .ok report) (accepted : report.chainOk = true)
    (sealed : dir.anchor = some bytes) (parsed : ext.anchorJson.dec bytes = .ok anchor)
    (sealedHash : anchor.lastHash = (ChainState.genesis.appendAll ext history).2.lastHash) :
    presentedRecords ext dir <:+ (ChainState.genesis.appendAll ext history).1 ∧
      ((∀ first, (presentedRecords ext dir).head? = some first → first.prevHash = genesisHash) →
        presentedRecords ext dir = (ChainState.genesis.appendAll ext history).1) := by
  obtain ⟨needed, -, agrees⟩ := verify_dir_accepts ext verified accepted
  rw [append_all_head] at sealedHash
  simp only [checkAnchor, sealed, parsed] at agrees
  cases shape : presentedRecords ext dir with
  | nil =>
    simp only [shape, List.foldl_nil, StreamReplay.finish, StreamReplay.new, beq_self_eq_true, if_true,
      Except.ok.injEq, Bool.and_eq_true, beq_iff_eq] at agrees
    have same : chainHead (recordHash ext) genesisHash [] =
        chainHead (recordHash ext) genesisHash (ChainState.genesis.appendAll ext history).1 := agrees.1.symm.trans sealedHash
    obtain ⟨suffix, whole⟩ := same_head_suffix (recordHash ext) genesisHash genesisHash safe [] _ same
    exact ⟨suffix, fun _ => whole rfl⟩
  | cons first rest =>
    obtain ⟨head, counted⟩ := replay_head ext needed first rest (by simpa [shape] using few)
    rw [shape, head, beq_false_of_ne counted, if_neg Bool.false_ne_true] at agrees
    split at agrees
    · cases agrees
    · simp only [Except.ok.injEq, Bool.and_eq_true, beq_iff_eq] at agrees
      have same : chainHead (recordHash ext) first.prevHash (first :: rest) =
          chainHead (recordHash ext) genesisHash (ChainState.genesis.appendAll ext history).1 := agrees.1.symm.trans sealedHash
      obtain ⟨suffix, whole⟩ := same_head_suffix (recordHash ext) genesisHash first.prevHash safe _ _ same
      exact ⟨suffix, fun start => whole (start first rfl)⟩

end

def loggedRecord (method : String) : AuditRecord :=
  recordOfFields ((auditSchemaVersion, 0, 0, 0, ""), ("", none, method, .auth), (none, none, none, 0, 0, none))

def loggedHistory : List AuditRecord := ["C_Login", "C_Sign", "C_Logout"].map loggedRecord

def loggedChain : List AuditRecord × ChainState := ChainState.genesis.appendAll plainExternals loggedHistory

def loggedLayout : LogLayout := ⟨[(1, loggedChain.1.take 1), (2, (loggedChain.1.drop 1).take 1)], some (loggedChain.1.drop 2)⟩

def loggedDir : LogDir :=
  ⟨"log", loggedLayout.files plainExternals, none,
    some (plainExternals.anchorJson.enc ⟨loggedChain.2.lastHash, loggedChain.2.lastSeq, 0⟩)⟩

theorem logged_sealed : Sealed plainExternals none loggedDir loggedLayout ChainState.genesis loggedChain.2 where
  listed := List.Perm.refl _
  numbered := by simp [LogLayout.numbered, loggedLayout]
  current record member := by
    have cases : record ∈ loggedChain.1 := member
    simp only [loggedChain, loggedHistory, List.map_cons, List.map_nil, ChainState.appendAll, List.mem_cons, List.not_mem_nil, or_false] at cases
    rcases cases with rfl | rfl | rfl
    all_goals rfl
  linked := append_all_chained loggedHistory ChainState.genesis
  room := by decide
  unwritten empty := by cases empty
  anchored := ⟨0, rfl⟩
  certified := ⟨[], .inl ⟨rfl, rfl⟩, by simp, by simp⟩

theorem verify_dir_tamper_evident_logged : ∃ report, verifyDir plainExternals loggedDir none = .ok report ∧ report.chainOk = true ∧
    presentedRecords plainExternals loggedDir = (ChainState.genesis.appendAll plainExternals loggedHistory).1 := by
  obtain ⟨report, verified, clean⟩ := verify_sealed plain_externals_lawful logged_sealed (.inl rfl)
  have presented : presentedRecords plainExternals loggedDir = loggedChain.1 :=
    presented_layout plain_externals_lawful.record loggedLayout loggedDir logged_sealed.numbered logged_sealed.listed
  refine ⟨report, verified, clean.chainOk, (verify_dir_tamper_evident plainExternals plain_collision_free loggedHistory loggedDir none report
    _ _ (by rw [presented]; decide) verified clean.chainOk rfl (plain_externals_lawful.anchor.roundTrip _) rfl).2 ?_⟩
  intro first start
  rw [presented] at start
  cases start
  rfl

theorem chained_of_length (ext : Externals) (n : Nat) : ∃ records stop, records.length = n ∧
    Chained ext ChainState.genesis records stop ∧ ∀ record ∈ records, record.schemaVersion = auditSchemaVersion := by
  induction n with
  | zero => exact ⟨[], _, rfl, rfl, by simp⟩
  | succ n ih =>
    obtain ⟨records, stop, length, linked, current⟩ := ih
    refine ⟨records ++ [(stop.append ext (loggedRecord "C_Sign")).1], _, by simp [length], chained_stamped linked, fun record member => ?_⟩
    rcases List.mem_append.mp member with old | new
    · exact current record old
    · rw [List.mem_singleton.mp new]
      rfl

-- The 2^64th line of a chain brings the counter of a clean replay back to zero.
theorem replay_wraps (ext : Externals) {records : List AuditRecord} {stop : ChainState} {record : AuditRecord}
    (linked : Chained ext ChainState.genesis (records ++ [record]) stop) (full : (records ++ [record]).length = 2 ^ 64) :
    ∃ replay, (records ++ [record]).foldl (StreamReplay.push ext) (StreamReplay.new []) = replay ∧ replay.records = 0 ∧
      replay.linksOk = true ∧ replay.unordered = false ∧ (replay.gaps = [] ∧ replay.missingTotal = 0) ∧
      replay.duplicates = [] ∧ replay.dupValuesTotal = 0 := by
  obtain ⟨mid, linked, seq, prev, -⟩ := chained_append.mp linked
  have length : records.length = 2 ^ 64 - 1 := by simpa using full
  have zero : ChainState.genesis.lastSeq.toNat = 0 := rfl
  have inv := replayed_honest ext [] (fun none => by simp [none] at length) linked (by omega)
  rw [List.foldl_append, List.foldl_cons, List.foldl_nil]
  generalize records.foldl (StreamReplay.push ext) (StreamReplay.new []) = replay at inv
  have counted := inv.records.trans length
  have last := congrArg UInt64.toNat inv.last
  rw [chained_length _ mid records linked (by omega), zero, length, UInt64.toNat_add] at last
  have placed : replay.place record = replay := by
    refine place_successor (fun none => by simp [none] at counted) inv.prev (seq.trans inv.last.symm) ?_
    have top := replay.lastSeq.toNat_lt
    have one : (1 : UInt64).toNat = 1 := rfl
    omega
  refine ⟨_, rfl, UInt64.toNat_inj.mp ?_, ?_⟩
  · simp [StreamReplay.push, placed, UInt64.toNat_add, counted]
  · simp [StreamReplay.push, placed, prev, inv.linksOk, inv.head, inv.ordered, inv.noGaps, inv.noDuplicates]

-- To the verifier such a log is an empty one: it is accepted under the anchor of a
-- history in which nothing was written.
theorem wrapped_log_accepted : CollisionFree (recordHash plainExternals) genesisHash ∧ ∃ dir report,
    verifyDir plainExternals dir none = .ok report ∧ report.chainOk = true ∧
      dir.anchor = some (plainExternals.anchorJson.enc ⟨(ChainState.genesis.appendAll plainExternals []).2.lastHash, 0, 0⟩) ∧
      ¬ presentedRecords plainExternals dir <:+ (ChainState.genesis.appendAll plainExternals []).1 := by
  obtain ⟨records, stop, full, linked, current⟩ := chained_of_length plainExternals (2 ^ 64)
  obtain ⟨front, last, rfl⟩ := (List.eq_nil_or_concat' records).resolve_left fun empty => by simp [empty] at full
  obtain ⟨replay, ran, counted, linksOk, ordered, noGaps, noDuplicates⟩ := replay_wraps plainExternals linked full
  let layout : LogLayout := ⟨[], some (front ++ [last])⟩
  let dir : LogDir := ⟨"log", layout.files plainExternals, none, some (plainExternals.anchorJson.enc ⟨genesisHash, 0, 0⟩)⟩
  have numbered : layout.numbered := .nil
  replace current : ∀ record ∈ layout.records, record.schemaVersion = auditSchemaVersion := current
  have read : readCheckpointSidecar plainExternals dir none = .ok ⟨[], none, false, true⟩ := rfl
  have replayed : (collectLogFiles dir).foldlM (replayFile plainExternals dir) (StreamReplay.new []) = .ok replay := by
    rw [collect_layout numbered (List.Perm.refl _)]
    exact (replay_layout plain_externals_lawful.record dir _ current).trans (congrArg _ ran)
  have agrees : checkAnchor plainExternals dir (replay.records == 0) replay.lastSeq (replay.expectedPrev.getD genesisHash) = .ok true := by
    simp [checkAnchor, dir, counted, plain_externals_lawful.anchor.roundTrip]
  obtain ⟨report, verified, clean⟩ := verify_dir_clean read replayed agrees rfl linksOk ordered noGaps noDuplicates
  refine ⟨plain_collision_free, dir, report, verified, clean.chainOk, rfl, fun suffix => ?_⟩
  rw [presented_layout plain_externals_lawful.record layout dir numbered (List.Perm.refl _)] at suffix
  simpa [layout, LogLayout.records, ChainState.appendAll] using suffix.length_le

end Pkcs11Proxy.Audit
