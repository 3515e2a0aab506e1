import Pkcs11Proxy.Audit.FiledWrites

namespace Pkcs11Proxy.Audit

open Lib

inductive OpenOn (ext : Externals) (writer : WriterState) : LogLayout → Prop
  | active (rotated : List (Nat × List AuditRecord)) (records : List AuditRecord) (file : writer.file = activeName)
      (bytes : writer.fileBytes = (recordBytes ext records).length) : OpenOn ext writer ⟨rotated, some records⟩
  | segment (older : List (Nat × List AuditRecord)) (n : Nat) (records : List AuditRecord) (file : writer.file = rotatedName n)
      (bytes : writer.fileBytes = (recordBytes ext records).length) : OpenOn ext writer ⟨older ++ [(n, records)], none⟩

structure InOrder (ext : Externals) (rotations : Nat) (layout : LogLayout) (dir : LogDir) (writer : WriterState) : Prop where
  files : dir.files = layout.files ext
  numbered : layout.numbered
  room : ∀ segment ∈ layout.rotated, segment.1 + rotations < 2 ^ 64
  fits : rotations < 2 ^ 64
  opened : OpenOn ext writer layout

def Ends (ext : Externals) (rotations : Nat) (last : Option AuditRecord) (chain : ChainState) (sink : Sink) : Prop :=
  ∃ layout, InOrder ext rotations layout sink.disk.dir sink.writer ∧ layout.records.getLast? = last ∧ sink.writer.chain = chain

def Sink.mustRotate (env : SinkEnv) (sink : Sink) (record : AuditRecord) : Bool :=
  sink.writer.fileBytes > 0 ∧
    sink.writer.fileBytes + (toJsonl env.ext (sink.writer.chain.append env.ext record).1).length > sink.writer.rotateMaxBytes

def rotationDir (dir : LogDir) : LogDir := (dir.renameFile activeName (rotatedName (findMaxRotationN dir + 1))).truncateFile activeName

def prunedCount (sink : Sink) : Nat := (prunedNames (rotationDir sink.disk.dir) sink.writer.rotateKeepFiles).length

def rotationAttempts (sink : Sink) : List Nat :=
  let first := sink.disk.attempts
  [first, first + 1, first + 2, first + 3, first + 4 + prunedCount sink]

def rotationWorks (env : SinkEnv) (sink : Sink) : Bool :=
  (sink.disk.dir.readFile activeName).isSome && (rotationAttempts sink).all env.works

def reachesLine (env : SinkEnv) (sink : Sink) (record : AuditRecord) : Bool :=
  if sink.mustRotate env record then rotationWorks env sink && env.works (sink.disk.attempts + 5 + prunedCount sink)
  else env.works sink.disk.attempts

section Order

variable (ext : Externals) (rotations : Nat) (layout : LogLayout) (dir : LogDir) (writer : WriterState)

theorem in_order_fit (ordered : InOrder ext rotations layout dir writer) (segment : Nat × List AuditRecord)
    (member : segment ∈ layout.rotated) : segment.1 < 2 ^ 64 := by
  have room := ordered.room segment member
  omega

theorem in_order_fewer (ordered : InOrder ext (rotations + 1) layout dir writer) : InOrder ext rotations layout dir writer :=
  { ordered with
    room := fun segment member => Nat.lt_of_succ_lt (ordered.room segment member)
    fits := Nat.lt_of_succ_lt ordered.fits }

theorem in_order_congr {dir' : LogDir} {writer' : WriterState} (files : dir'.files = dir.files) (file : writer'.file = writer.file)
    (bytes : writer'.fileBytes = writer.fileBytes) (ordered : InOrder ext rotations layout dir writer) :
    InOrder ext rotations layout dir' writer' where
  files := files.trans ordered.files
  numbered := ordered.numbered
  room := ordered.room
  fits := ordered.fits
  opened := by
    cases ordered.opened with
    | active rotated records onActive length => exact .active rotated records (file.trans onActive) (bytes.trans length)
    | segment older n records onSegment length => exact .segment older n records (file.trans onSegment) (bytes.trans length)

theorem next_number_above (ordered : InOrder ext (rotations + 1) layout dir writer) :
    (∀ segment ∈ layout.rotated, segment.1 < findMaxRotationN dir + 1) ∧ findMaxRotationN dir + 1 + rotations < 2 ^ 64 := by
  have fit := in_order_fit ext (rotations + 1) layout dir writer ordered
  constructor
  · intro segment member
    exact Nat.lt_succ_of_le (find_max_above ordered.files fit member)
  · rcases find_max_attained ordered.files fit with none | ⟨segment, member, highest⟩
    · have fits := ordered.fits
      omega
    · have room := ordered.room segment member
      omega

variable {rotated : List (Nat × List AuditRecord)} {records : List AuditRecord}

theorem in_order_renamed (ordered : InOrder ext (rotations + 1) ⟨rotated, some records⟩ dir writer) :
    InOrder ext rotations ⟨rotated ++ [(findMaxRotationN dir + 1, records)], none⟩
      (dir.renameFile activeName (rotatedName (findMaxRotationN dir + 1))) (follow (rotatedName (findMaxRotationN dir + 1)) writer) := by
  obtain ⟨above, fits⟩ := next_number_above ext rotations _ dir writer ordered
  cases ordered.opened with
  | active _ _ file bytes =>
    refine ⟨rename_active ext ordered.files above, ?_, ?_, Nat.lt_of_succ_lt ordered.fits,
      .segment rotated _ records (if_pos file) bytes⟩
    · exact List.pairwise_append.mpr ⟨ordered.numbered, List.pairwise_singleton _ _, fun segment member newest inside => by
        rw [List.mem_singleton.mp inside]
        exact above segment member⟩
    · exact forall_added (fun segment older => Nat.lt_of_succ_lt (ordered.room segment older)) fits

theorem in_order_reopened (ordered : InOrder ext rotations ⟨rotated, none⟩ dir writer) :
    InOrder ext rotations ⟨rotated, some []⟩ (dir.truncateFile activeName) (reopened writer) where
  files := truncate_active ext ordered.files
  numbered := ordered.numbered
  room := ordered.room
  fits := ordered.fits
  opened := .active rotated [] rfl rfl

theorem in_order_pruned (n : Nat) (ordered : InOrder ext rotations ⟨rotated, some records⟩ dir writer) :
    InOrder ext rotations ⟨rotated.filter fun segment => segment.1 ≠ n, some records⟩ (dir.removeFile (rotatedName n)) writer where
  files := remove_segment ext n ordered.files
  numbered := ordered.numbered.filter _
  room segment member := ordered.room segment (List.mem_filter.mp member).1
  fits := ordered.fits
  opened := by
    cases ordered.opened with
    | active _ _ file bytes => exact .active _ records file bytes

theorem in_order_line (record : AuditRecord) (ordered : InOrder ext rotations layout dir writer) :
    (dir.readFile writer.file).isSome = true ∧
      ∃ longer, InOrder ext rotations longer (dir.appendFile writer.file (toJsonl ext record)) (noteLine (toJsonl ext record) writer) ∧
        longer.records = layout.records ++ [record] := by
  cases ordered.opened with
  | active rotated records file bytes =>
    have held := layout_read_active ordered.files
    rw [file]
    refine ⟨by rw [held]; rfl, ⟨rotated, some (records ++ [record])⟩, ⟨append_active ext ordered.files,
      ordered.numbered, ordered.room, ordered.fits, .active _ _ file ?_⟩, by simp [LogLayout.records]⟩
    rw [record_bytes_snoc, List.length_append, ← bytes]
    rfl
  | segment older n records file bytes =>
    have sorted := List.pairwise_append.mp ordered.numbered
    have below : ∀ segment ∈ older, segment.1 < n := fun segment member => sorted.2.2 segment member (n, records) (by simp)
    obtain ⟨found, appended⟩ := append_newest ext ordered.files below
    rw [file]
    refine ⟨found, ⟨older ++ [(n, records ++ [record])], none⟩, ⟨appended, ?_, ?_, ordered.fits, .segment older n _ file ?_⟩,
      by simp [LogLayout.records]⟩
    · exact List.pairwise_append.mpr ⟨sorted.1, List.pairwise_singleton _ _, fun segment member newest inside => by
        rw [List.mem_singleton.mp inside]
        exact below segment member⟩
    · intro segment member
      rcases List.mem_append.mp member with other | newest
      · exact ordered.room segment (by simp [other])
      · rw [List.mem_singleton.mp newest]
        exact ordered.room (n, records) (by simp)
    · rw [record_bytes_snoc, List.length_append, ← bytes]
      rfl

end Order

def At (dir : LogDir) (writer : WriterState) (attempts : Nat) (sink : Sink) : Prop :=
  sink.disk.dir = dir ∧ sink.writer = writer ∧ sink.disk.attempts = attempts

variable {op : FsOp} {older : List (Nat × List AuditRecord)} {start : Sink}

section Steps

variable {env : SinkEnv} {dir : LogDir} {next : LogDir} {writer : WriterState} {n : Nat} {post : Unit → Sink → Prop} {failed : Sink → Prop}

theorem outcomes_op_then {rest : Unit → SinkM Unit} (performs : op.perform dir = some next)
    (untorn : env.works n = false → op.torn (env.torn n) = none)
    (stopped : env.works n = false → ∀ sink, At dir writer (n + 1) sink → failed sink)
    (continues : env.works n = true → Outcomes (At next writer (n + 1)) (rest ()) post failed) :
    Outcomes (At dir writer n) (fsOp env op >>= rest) post failed := by
  apply outcomes_bind fun _ sink => env.works n = true ∧ At next writer (n + 1) sink
  · constructor
    · intro sink value after ran at'
      obtain ⟨rfl, rfl, rfl⟩ := at'
      cases works : env.works sink.disk.attempts with
      | false => simp [fsOp, works] at ran
      | true =>
        rw [run_fs_op works performs] at ran
        cases ran
        exact ⟨rfl, rfl, rfl, rfl⟩
    · intro sink error after ran at'
      obtain ⟨rfl, rfl, rfl⟩ := at'
      cases works : env.works sink.disk.attempts with
      | true =>
        rw [run_fs_op works performs] at ran
        cases ran
      | false =>
        simp only [fsOp, works, Bool.false_eq_true, if_false, untorn works] at ran
        cases ran
        exact stopped works _ ⟨rfl, rfl, rfl⟩
  · intro _
    apply outcomes_given (env.works n = true) fun sink given => given.1
    intro works
    exact outcomes_pre _ (fun _ given => given.2) (continues works)

theorem outcomes_read_then (rest : Sink → SinkM Unit)
    (continues : ∀ read, At dir writer n read → Outcomes (At dir writer n) (rest read) post failed) :
    Outcomes (At dir writer n) (get >>= rest) post failed := by
  apply outcomes_get
  intro read
  apply outcomes_given (At dir writer n read) fun sink (given : sink = read ∧ At dir writer n sink) => given.1 ▸ given.2
  intro here
  exact outcomes_pre _ (fun _ given => given.2) (continues read here)

theorem outcomes_writer_then (f : WriterState → WriterState) (rest : Unit → SinkM Unit)
    (continues : Outcomes (At dir (f writer) n) (rest ()) post failed) :
    Outcomes (At dir writer n) (setWriter f >>= rest) post failed := by
  apply outcomes_bind fun _ => At dir (f writer) n
  · apply outcomes_set_writer
    intro sink here
    exact ⟨here.1, congrArg f here.2.1, here.2.2⟩
  · intro _
    exact continues

end Steps

section Frame

variable (env : SinkEnv) {inv : Sink → Prop}
  (framed : ∀ sink next : Sink, next.disk.dir.files = sink.disk.dir.files → next.writer.file = sink.writer.file →
    next.writer.fileBytes = sink.writer.fileBytes → next.writer.chain = sink.writer.chain → inv sink → inv next)

include framed

theorem outcomes_aside_framed {edit : LogDir → LogDir} (performs : ∀ dir, op.perform dir = some (edit dir))
    (same : ∀ dir, (edit dir).files = dir.files) : Outcomes inv (fsOp env op) (fun _ => inv) inv := by
  apply outcomes_torn_op
  · intro sink dir holds performed
    have edited : edit sink.disk.dir = dir := Option.some.inj ((performs _).symm.trans performed)
    exact framed sink _ (by rw [← edited]; exact same _) rfl rfl rfl holds
  · intro sink holds _
    exact framed sink _ rfl rfl rfl rfl holds
  · intro sink left dir holds _ torn performed
    exact framed sink _ (torn_aside performs torn performed) rfl rfl rfl holds

theorem outcomes_anchor_framed : Outcomes inv (writeAnchor env) (fun _ => inv) inv :=
  outcomes_read fun _ => outcomes_aside_framed env framed (fun _ => rfl) fun _ => rfl

theorem outcomes_checkpoint_framed : Outcomes inv (doCheckpoint env) (fun _ => inv) inv := by
  have sealing : Outcomes inv (setWriter (fun writer => { writer with recordsSinceCheckpoint := 0 }) >>= fun _ => writeAnchor env)
      (fun _ => inv) inv := by
    apply outcomes_bind fun _ => inv
    · apply outcomes_set_writer
      intro sink holds
      exact framed sink _ rfl rfl rfl rfl holds
    · exact fun _ => outcomes_anchor_framed env framed
  unfold doCheckpoint
  cases signing : env.signer with
  | none => exact sealing
  | some seed =>
    apply outcomes_bind fun _ => inv
    · constructor
      · intro sink value next ran holds
        cases ran
        exact framed sink _ rfl rfl rfl rfl holds
      · intro sink error next ran
        cases ran
    intro now
    apply outcomes_bind (fun _ => inv) _ fun _ => sealing
    apply outcomes_read
    intro read
    apply outcomes_bind fun _ => inv
    · exact outcomes_aside_framed env framed (fun _ => rfl) fun _ => rfl
    · intro _
      exact outcomes_aside_framed env framed (fun _ => rfl) fun _ => rfl

theorem outcomes_seal_framed : Outcomes inv
    (fsOp env .syncAll >>= fun _ => get >>= fun sink => if sink.writer.recordsSinceCheckpoint > 0 then doCheckpoint env else writeAnchor env)
    (fun _ => inv) inv := by
  apply outcomes_bind (fun _ => inv) (outcomes_aside_framed env framed (fun _ => rfl) fun _ => rfl)
  intro _
  apply outcomes_read
  intro read
  exact outcomes_ite (fun _ => outcomes_checkpoint_framed env framed) fun _ => outcomes_anchor_framed env framed

end Frame

variable {layout : LogLayout} {dir : LogDir} {writer : WriterState} {n : Nat}

section Rotation

variable (env : SinkEnv) (rotations : Nat)

theorem ends_at {last : Option AuditRecord} {chain : ChainState}
    {sink : Sink} (here : At dir writer n sink) (ordered : InOrder env.ext rotations layout dir writer)
    (ended : layout.records.getLast? = last) (head : writer.chain = chain) : Ends env.ext rotations last chain sink := by
  obtain ⟨rfl, rfl, -⟩ := here
  exact ⟨layout, ordered, ended, head⟩

section Aside

variable (last : Option AuditRecord) (chain : ChainState)

theorem ends_congr (sink next : Sink) (files : next.disk.dir.files = sink.disk.dir.files) (file : next.writer.file = sink.writer.file)
    (bytes : next.writer.fileBytes = sink.writer.fileBytes) (head : next.writer.chain = sink.writer.chain)
    (ends : Ends env.ext rotations last chain sink) : Ends env.ext rotations last chain next := by
  obtain ⟨layout, ordered, ended, rfl⟩ := ends
  exact ⟨layout, in_order_congr env.ext rotations layout _ _ files file bytes ordered, ended, head⟩

theorem outcomes_anchor_at (n : Nat) :
    Outcomes (fun sink => sink.disk.attempts = n ∧ Ends env.ext rotations last chain sink) (writeAnchor env)
      (fun _ sink => env.works n = true ∧ sink.disk.attempts = n + 1 ∧ Ends env.ext rotations last chain sink)
      (fun sink => env.works n = false ∧ Ends env.ext rotations last chain sink) := by
  apply outcomes_read
  intro read
  constructor
  · intro sink value next ran given
    obtain ⟨rfl, ends⟩ := given
    cases works : env.works sink.disk.attempts with
    | false => simp [fsOp, works] at ran
    | true =>
      rw [run_fs_op works rfl] at ran
      cases ran
      exact ⟨rfl, rfl, ends_congr env rotations last chain sink _ rfl rfl rfl rfl ends⟩
  · intro sink error next ran given
    obtain ⟨rfl, ends⟩ := given
    cases works : env.works sink.disk.attempts with
    | true =>
      rw [run_fs_op works rfl] at ran
      cases ran
    | false =>
      simp only [fsOp, works, Bool.false_eq_true, if_false] at ran
      cases ran
      exact ⟨rfl, ends_congr env rotations last chain sink _ rfl rfl rfl rfl ends⟩

end Aside

def Pruning (n : Nat) (records : List AuditRecord) (writer : WriterState) (attempts : Nat) (sink : Sink) : Prop :=
  sink.writer = writer ∧ sink.disk.attempts = attempts ∧
    ∃ older, InOrder env.ext rotations ⟨older ++ [(n, records)], some []⟩ sink.disk.dir sink.writer

variable {rotations}

theorem outcomes_removals (n : Nat) (records : List AuditRecord) (writer : WriterState) (failed : Sink → Prop) (names : List FileName)
    (segments : ∀ name ∈ names, ∃ k, name = rotatedName k ∧ k ≠ n) (attempts : Nat) :
    Outcomes (Pruning env rotations n records writer attempts) (names.forM fun name => ignoreError (fsOp env (.remove name)))
      (fun _ => Pruning env rotations n records writer (attempts + names.length)) failed := by
  induction names generalizing attempts with
  | nil => exact outcomes_pure fun _ holds => holds
  | cons name rest ih =>
    obtain ⟨k, rfl, other⟩ := segments name (by simp)
    apply outcomes_bind fun _ => Pruning env rotations n records writer (attempts + 1)
    · apply outcomes_ignore (Pruning env rotations n records writer (attempts + 1)) _ fun _ holds => holds
      apply outcomes_fs_op
      · intro sink dir holds performed
        obtain ⟨same, tried, older, ordered⟩ := holds
        obtain ⟨_, -, rfl⟩ := Option.map_eq_some_iff.mp performed
        refine ⟨same, congrArg (· + 1) tried, older.filter fun segment => segment.1 ≠ k, ?_⟩
        have pruned := in_order_pruned env.ext rotations sink.disk.dir sink.writer k ordered
        have newest : ([(n, records)].filter fun segment => segment.1 ≠ k) = [(n, records)] := by simp [other.symm]
        rw [List.filter_append, newest] at pruned
        exact pruned
      · intro sink holds _
        exact ⟨holds.1, congrArg (· + 1) holds.2.1, holds.2.2⟩
      · exact fun _ => rfl
    · intro _
      have others := ih (fun name member => segments name (by simp [member])) (attempts + 1)
      rw [Nat.add_right_comm] at others
      exact others

variable {records : List AuditRecord}

theorem pruned_segments {keep : Nat} (ordered : InOrder env.ext rotations ⟨older ++ [(n, records)], some []⟩ dir writer) :
    ∀ name ∈ prunedNames dir keep, ∃ k, name = rotatedName k ∧ k ≠ n := by
  intro name member
  rw [pruned_layout keep ordered.files ordered.numbered (in_order_fit env.ext rotations _ dir writer ordered)] at member
  split at member
  · cases member
  · obtain ⟨segment, inside, rfl⟩ := List.mem_map.mp member
    refine ⟨segment.1, rfl, Nat.ne_of_lt ?_⟩
    rw [List.length_append, List.length_singleton, List.take_append_of_le_length (by omega)] at inside
    exact (List.pairwise_append.mp ordered.numbered).2.2 segment (List.mem_of_mem_take inside) (n, records) (by simp)

theorem last_of_newest {rotated : List (Nat × List AuditRecord)} (written : records ≠ []) :
    (LogLayout.records ⟨older ++ [(n, records)], some []⟩).getLast? = (LogLayout.records ⟨rotated, some records⟩).getLast? := by
  simp [LogLayout.records, List.getLast?_append, List.getLast?_eq_some_getLast written]

theorem outcomes_prune_at {attempts : Nat} {failed : Sink → Prop}
    (ordered : InOrder env.ext rotations ⟨older ++ [(n, records)], some []⟩ dir writer) :
    Outcomes (At dir writer attempts) (pruneRotatedFiles env)
      (fun _ => Pruning env rotations n records writer (attempts + (prunedNames dir writer.rotateKeepFiles).length)) failed := by
  apply outcomes_read_then
  intro read here
  obtain ⟨rfl, rfl, -⟩ := here
  refine outcomes_pre _ (fun sink here => ?_)
    (outcomes_removals env n records read.writer failed _
      (pruned_segments env ordered) attempts)
  obtain ⟨dir, writer, tried⟩ := here
  exact ⟨writer, tried, older, by rw [dir, writer]; exact ordered⟩

theorem outcomes_rotate_at (ordered : InOrder env.ext (rotations + 1) layout start.disk.dir start.writer)
    (written : 0 < start.writer.fileBytes) :
    Outcomes (At start.disk.dir start.writer start.disk.attempts) (rotate env)
      (fun _ sink => rotationWorks env start = true ∧ sink.disk.attempts = start.disk.attempts + 5 + prunedCount start ∧
        Ends env.ext rotations layout.records.getLast? start.writer.chain sink)
      (fun sink => rotationWorks env start = false ∧ Ends env.ext rotations layout.records.getLast? start.writer.chain sink) := by
  have fewer := in_order_fewer env.ext rotations layout start.disk.dir start.writer ordered
  have held := layout_read_active ordered.files
  have stopped : ∀ n ∈ rotationAttempts start, env.works n = false → rotationWorks env start = false := by
    intro n member fails
    rw [rotationWorks, Bool.and_eq_false_iff, List.all_eq_false]
    exact .inr ⟨n, member, by simp [fails]⟩
  apply outcomes_op_then rfl fun _ => rfl
  · intro fails sink here
    exact ⟨stopped _ (by simp [rotationAttempts]) fails, ends_at env rotations here fewer rfl rfl⟩
  intro synced
  apply outcomes_read_then
  intro read here
  obtain ⟨dir, -, -⟩ := here
  simp only [dir]
  cases ordered.opened with
  | segment older n records file bytes =>
    have missing : start.disk.dir.readFile activeName = none := held
    apply outcomes_bind (fun _ _ => False)
    · apply outcomes_fs_op
      · intro sink after here performed
        rw [here.1, FsOp.perform, missing] at performed
        cases performed
      · intro sink here _
        refine ⟨by simp [rotationWorks, missing], ends_at env rotations ⟨here.1, here.2.1, rfl⟩ fewer rfl rfl⟩
      · exact fun _ => rfl
    · intro _
      exact ⟨fun _ _ _ _ impossible => impossible.elim, fun _ _ _ _ impossible => impossible.elim⟩
  | active rotated records file bytes =>
    let number := findMaxRotationN start.disk.dir + 1
    have present : start.disk.dir.readFile activeName = some (recordBytes env.ext records) := held
    have filled : records ≠ [] := by
      rintro rfl
      rw [bytes] at written
      cases written
    have renamed := in_order_renamed env.ext rotations start.disk.dir start.writer ordered
    have truncated := in_order_reopened env.ext rotations _ _ renamed
    have moved : (LogLayout.records ⟨rotated ++ [(number, records)], none⟩).getLast? = (LogLayout.records ⟨rotated, some records⟩).getLast? := by
      simp [LogLayout.records]
    apply outcomes_op_then (by rw [FsOp.perform, present, Option.map_some]) fun _ => rfl
    · intro fails sink here
      exact ⟨stopped _ (by simp [rotationAttempts]) fails, ends_at env rotations here fewer rfl rfl⟩
    intro moves
    apply outcomes_writer_then
    apply outcomes_op_then rfl fun _ => rfl
    · intro fails sink here
      exact ⟨stopped _ (by simp [rotationAttempts]) fails, ends_at env rotations here renamed moved rfl⟩
    intro settled
    apply outcomes_op_then rfl fun _ => rfl
    · intro fails sink here
      exact ⟨stopped _ (by simp [rotationAttempts]) fails, ends_at env rotations here renamed moved rfl⟩
    intro opens
    apply outcomes_writer_then
    apply outcomes_bind _ (outcomes_prune_at env truncated)
    intro _
    have first : start.disk.attempts + 1 + 1 + 1 + 1 + (prunedNames (rotationDir start.disk.dir) start.writer.rotateKeepFiles).length =
        start.disk.attempts + 4 + prunedCount start := rfl
    refine outcomes_weaken _ _ (fun sink pruned => ?_) (fun _ sink sealed => ?_) (fun sink lost => ?_)
      (outcomes_anchor_at env rotations (LogLayout.records ⟨rotated, some records⟩).getLast? start.writer.chain
        (start.disk.attempts + 4 + prunedCount start))
    · obtain ⟨same, tried, older, ordered⟩ := pruned
      exact ⟨tried.trans first, _, ordered, last_of_newest filled, by rw [same]; rfl⟩
    · obtain ⟨works, tried, ends⟩ := sealed
      refine ⟨?_, by rw [tried]; omega, ends⟩
      simp [rotationWorks, rotationAttempts, present, synced, moves, settled, opens, works]
    · exact ⟨stopped _ (by simp [rotationAttempts]) lost.1, lost.2⟩

end Rotation

section Line

variable {env : SinkEnv} {rotations : Nat} (untorn : ∀ n, env.works n = false → env.torn n = 0)

include untorn

theorem outcomes_line_at {stamped : AuditRecord} (ordered : InOrder env.ext rotations layout dir writer) :
    Outcomes (At dir writer n) (lineStep env stamped)
      (fun _ sink => env.works n = true ∧ Ends env.ext rotations (some stamped) writer.chain sink)
      (fun sink => Ends env.ext rotations (if env.works n then some stamped else layout.records.getLast?) writer.chain sink) := by
  obtain ⟨present, longer, added, records⟩ := in_order_line env.ext rotations layout dir writer stamped ordered
  obtain ⟨bytes, found⟩ := Option.isSome_iff_exists.mp present
  have last : longer.records.getLast? = some stamped := by rw [records, List.getLast?_concat]
  apply outcomes_read_then
  intro read here
  obtain ⟨-, same, -⟩ := here
  rw [same]
  apply outcomes_op_then (by rw [FsOp.perform, found, Option.map_some]) fun fails => by rw [untorn n fails, torn_zero]
  · intro fails sink here
    rw [fails]
    exact ends_at env rotations here ordered rfl rfl
  intro works
  rw [works]
  apply outcomes_writer_then
  apply outcomes_get
  intro written
  have ends : ∀ sink, sink = written ∧ At (dir.appendFile writer.file (toJsonl env.ext stamped)) (noteLine (toJsonl env.ext stamped) writer)
      (n + 1) sink → Ends env.ext rotations (some stamped) writer.chain sink :=
    fun sink given => ends_at env rotations given.2 added last rfl
  apply outcomes_ite
  · intro _
    exact outcomes_weaken _ _ ends (fun _ _ kept => ⟨rfl, kept⟩) (fun _ lost => lost)
      (outcomes_checkpoint_framed env (ends_congr env rotations (some stamped) writer.chain))
  · intro _
    exact outcomes_pure fun sink given => ⟨rfl, ends sink given⟩

omit untorn in
theorem outcomes_stepped {prog rest : SinkM Unit} {start ready : Sink} {post : Unit → Sink → Prop} {failed : Sink → Prop} (pre : Sink → Prop)
    (steps : prog start = rest ready) (given : pre ready) (triple : Outcomes pre rest post failed) :
    Outcomes (fun sink => sink = start) prog post failed := by
  constructor
  · rintro _ value next ran rfl
    exact triple.ends ready value next (steps.symm.trans ran) given
  · rintro _ error next ran rfl
    exact triple.fails ready error next (steps.symm.trans ran) given

-- One call, however it ends: its line is in the log exactly when no operation up to
-- the `write_all` failed, and the head has moved on in any case.
theorem outcomes_write_at {record : AuditRecord} (ordered : InOrder env.ext (rotations + 1) layout start.disk.dir start.writer) :
    Outcomes (fun sink => sink = start) (writeRecordRaw env record)
      (fun _ sink => reachesLine env start record = true ∧
        Ends env.ext rotations (some (start.writer.chain.append env.ext record).1) (start.writer.chain.append env.ext record).2 sink)
      (fun sink => Ends env.ext rotations
        (if reachesLine env start record then some (start.writer.chain.append env.ext record).1 else layout.records.getLast?)
        (start.writer.chain.append env.ext record).2 sink) := by
  let advanced : Sink := { start with writer := { start.writer with chain := (start.writer.chain.append env.ext record).2 } }
  have moved : InOrder env.ext (rotations + 1) layout advanced.disk.dir advanced.writer :=
    in_order_congr env.ext _ layout start.disk.dir start.writer rfl rfl rfl ordered
  refine outcomes_stepped (At advanced.disk.dir advanced.writer advanced.disk.attempts) (write_record_raw_steps rfl) ⟨rfl, rfl, rfl⟩ ?_
  apply outcomes_ite
  · intro full
    have must : start.mustRotate env record = true := decide_eq_true full
    have reaches : reachesLine env start record =
        (rotationWorks env advanced && env.works (advanced.disk.attempts + 5 + prunedCount advanced)) := if_pos must
    rw [reaches]
    apply outcomes_bind _ (outcomes_lost (fun sink lost => ?_)
      (outcomes_rotate_at env moved full.1))
    · intro _
      constructor
      · intro sink value next ran given
        obtain ⟨rotates, tried, settled, inOrder, ended, head⟩ := given
        have done := (outcomes_line_at untorn inOrder).ends sink value next ran ⟨rfl, rfl, tried⟩
        rw [head] at done
        exact ⟨by rw [rotates, done.1]; rfl, done.2⟩
      · intro sink error next ran given
        obtain ⟨rotates, tried, settled, inOrder, ended, head⟩ := given
        have lost := (outcomes_line_at untorn inOrder).fails sink error next ran ⟨rfl, rfl, tried⟩
        rw [head, ended] at lost
        rw [rotates, Bool.true_and]
        exact lost
    · rw [lost.1, Bool.false_and]
      exact lost.2
  · intro fits
    have reaches : reachesLine env start record = env.works start.disk.attempts := if_neg fun must => fits (of_decide_eq_true must)
    rw [reaches]
    exact outcomes_line_at untorn
      (in_order_fewer env.ext rotations layout _ _ moved)

end Line

end Pkcs11Proxy.Audit
