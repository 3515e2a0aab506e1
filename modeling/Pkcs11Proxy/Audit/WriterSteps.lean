import Pkcs11Proxy.Audit.WriterInvariant

namespace Pkcs11Proxy.Audit

open Lib

theorem view_after (sink : Sink) (op : FsOp) (dir : LogDir) : (sink.after op dir).view = sink.view.observe op := by
  simp [Sink.view, Sink.after, journalView, List.foldl_append]

variable {α β : Type} {records fewer before tail : List AuditRecord} {layout : LogLayout}
  {start chain sealed : ChainState}

variable {sink next : Sink} {f : WriterState → WriterState} {op : FsOp}

section Running

variable {env : SinkEnv} {first : SinkM α} {second : α → SinkM β}

theorem run_bind (sink next : Sink) (value : α)
    (ran : first sink = .ok value next) : (first >>= second) sink = second value next := by
  change EStateM.bind first second sink = _
  rw [EStateM.bind, ran]

theorem run_bind_error {error : IoError}
    (ran : first sink = .error error next) : (first >>= second) sink = .error error next := by
  change EStateM.bind first second sink = _
  rw [EStateM.bind, ran]

theorem run_get {rest : Sink → SinkM β} : (get >>= rest) sink = rest sink sink := rfl

variable {rest : Unit → SinkM β}

theorem run_set_writer :
    (setWriter f >>= rest) sink = rest () { sink with writer := f sink.writer } := rfl

theorem run_fs_op {dir : LogDir} (works : env.works sink.disk.attempts = true)
    (performed : op.perform sink.disk.dir = some dir) : fsOp env op sink = .ok () (sink.after op dir) := by
  simp only [fsOp, works, performed, if_true]

theorem run_fs_op_bind (op : FsOp) (sink : Sink) (dir : LogDir)
    (works : env.works sink.disk.attempts = true) (performed : op.perform sink.disk.dir = some dir) :
    (fsOp env op >>= rest) sink = rest () (sink.after op dir) :=
  run_bind _ _ _ (run_fs_op works performed)

theorem run_fs_op_fault (fails : env.works sink.disk.attempts = false) :
    (fsOp env op >>= rest) sink = .error .fault (sink.faulted (op.torn (env.torn sink.disk.attempts))) := by
  refine run_bind_error ?_
  simp [fsOp, fails]

end Running

section Death

variable (env : SinkEnv)

theorem dead_congr (sink : Sink) (dir : next.disk.dir = sink.disk.dir) (attempts : sink.disk.attempts ≤ next.disk.attempts)
    (journal : next.disk.journal = sink.disk.journal) (dead : Dead env sink) : Dead env next := by
  have view : next.view = sink.view := by rw [Sink.view, journal, Sink.view]
  rcases dead with crashed | overrun
  · refine .inl ⟨fun n later => crashed.frozen n (by omega), fun recoverable => ?_⟩
    rw [dir]
    exact crashed.resumes (view ▸ recoverable)
  · exact .inr (view ▸ overrun)

theorem observe_lines (view : JournalView) (op : FsOp) : view.lines ≤ (view.observe op).lines := by
  cases op with
  | replaceAnchor bytes =>
    simp only [JournalView.observe]
    split
    all_goals exact Nat.le_refl _
  | writeAll name line => exact Nat.le_succ _
  | _ => exact Nat.le_refl _

theorem torn_zero (op : FsOp) : op.torn 0 = none := by
  cases op with
  | writeAll | appendCheckpoint => simp [FsOp.torn]
  | _ => rfl

-- A crash: once an operation fails none succeeds any more, and no write is half done.
structure CrashPlan (env : SinkEnv) : Prop where
  stays : ∀ n m, n ≤ m → env.works n = false → env.works m = false
  untorn : ∀ n, env.works n = false → env.torn n = 0

variable {env}

theorem working_plan (works : ∀ n, env.works n = true) : CrashPlan env :=
  ⟨fun n m _ stopped => absurd (works n) (by simp [stopped]), fun n stopped => absurd (works n) (by simp [stopped])⟩

theorem faulted_untorn {written : Nat} (untorn : written = 0) : sink.faulted (op.torn written) = sink.tried := by
  rw [untorn, torn_zero]
  rfl

variable {pre : Sink → Prop}

theorem guarded_fs_op (plan : CrashPlan env) {post : Sink → Prop}
    (performs : ∀ sink, pre sink → ∃ dir, op.perform sink.disk.dir = some dir ∧
      (post (sink.after op dir) ∨ 2 ^ 64 ≤ (sink.after op dir).view.lines))
    (recovers : ∀ sink, pre sink → sink.view.recoverable → ResumesAtTail env.ext sink.disk.dir) :
    Guarded (Dead env) pre (fsOp env op) fun _ => post := by
  refine ⟨fun sink value next ran holds => ?_, fun sink value next ran dead => ?_, fun sink error next ran given => ?_⟩
  · obtain ⟨dir, done, reached⟩ := performs sink holds
    simp only [fsOp, done] at ran
    split at ran
    · cases ran
      rcases reached with reached | overrun
      · exact .inl reached
      · exact .inr (.inr overrun)
    · cases ran
  · rcases dead with crashed | overrun
    · simp only [fsOp, crashed.frozen _ (Nat.le_refl _), Bool.false_eq_true, if_false] at ran
      cases ran
    · simp only [fsOp] at ran
      split at ran
      · split at ran
        · rename_i dir done
          cases ran
          refine .inr ?_
          have grown := observe_lines sink.view op
          rw [← view_after sink op dir] at grown
          exact Nat.le_trans overrun grown
        · cases ran
      · cases ran
  · have failed : next = sink.tried := by
      simp only [fsOp] at ran
      split at ran
      · split at ran
        · cases ran
        · cases ran; rfl
      · rename_i stopped
        cases ran
        exact faulted_untorn (plan.untorn _ (Bool.not_eq_true _ ▸ stopped))
    subst failed
    rcases given with holds | dead
    · obtain ⟨dir, done, -⟩ := performs sink holds
      have stopped : env.works sink.disk.attempts = false := by
        by_contra works
        simp only [fsOp, done, Bool.not_eq_false] at ran works
        rw [if_pos works] at ran
        cases ran
      refine .inl ⟨fun n later => plan.stays _ n (Nat.le_of_succ_le later) stopped, fun recoverable => ?_⟩
      exact recovers sink holds recoverable
    · exact dead_congr env sink rfl (Nat.le_succ _) rfl dead

theorem guarded_sync (plan : CrashPlan env)
    (executes : ∀ dir, op.perform dir = some dir) (keeps : ∀ sink, pre sink → pre (sink.after op sink.disk.dir))
    (recovers : ∀ sink, pre sink → sink.view.recoverable → ResumesAtTail env.ext sink.disk.dir) :
    Guarded (Dead env) pre (fsOp env op) fun _ => pre :=
  guarded_fs_op plan (fun sink holds => ⟨sink.disk.dir, executes _, .inl (keeps sink holds)⟩) recovers

theorem guarded_set_writer {post : Sink → Prop}
    (step : ∀ sink, pre sink → post { sink with writer := f sink.writer }) :
    Guarded (Dead env) pre (setWriter f) fun _ => post :=
  guarded_modify pre post step fun sink dead => dead_congr env sink rfl (Nat.le_refl _) rfl dead

theorem guarded_now {post : UInt64 → Sink → Prop} (step : ∀ sink, pre sink → post (env.clock sink.disk.readings)
      { sink with disk := { sink.disk with readings := sink.disk.readings + 1 } }) :
    Guarded (Dead env) pre (nowUnixMs env) post := by
  refine ⟨fun sink value next ran holds => ?_, fun sink value next ran dead => ?_, fun sink error next ran => ?_⟩
  · cases ran
    exact .inl (step sink holds)
  · cases ran
    exact dead_congr env sink rfl (Nat.le_refl _) rfl dead
  · cases ran

theorem guarded_ignore {prog : SinkM Unit} {post : Sink → Prop} (triple : Guarded (Dead env) pre prog fun _ => post) :
    Guarded (Dead env) pre (ignoreError prog) fun _ => post := by
  refine ⟨fun sink value next ran holds => ?_, fun sink value next ran dead => ?_, fun sink error next ran => ?_⟩
  · cases ended : prog sink with
    | ok _ final =>
      simp only [ignoreError, ended] at ran
      cases ran
      exact triple.reaches sink _ next ended holds
    | error error final =>
      simp only [ignoreError, ended] at ran
      cases ran
      exact .inr (triple.fails sink error next ended (.inl holds))
  · cases ended : prog sink with
    | ok _ final =>
      simp only [ignoreError, ended] at ran
      cases ran
      exact triple.stays sink _ next ended dead
    | error error final =>
      simp only [ignoreError, ended] at ran
      cases ran
      exact triple.fails sink error next ended (.inr dead)
  · cases ended : prog sink with
    | ok | error =>
      simp only [ignoreError, ended] at ran
      cases ran

end Death

section Congruence

variable {env : SinkEnv} {fits : Prop} (monotone : fits → ∀ n m, n ≤ m → env.clock n ≤ env.clock m) (sink next : Sink)

structure SameBooks (sink next : Sink) : Prop where
  checkpoints : next.disk.dir.checkpoints = sink.disk.dir.checkpoints
  lines : next.view.lines = sink.view.lines
  readings : sink.disk.readings ≤ next.disk.readings
  count : next.writer.recordCount = sink.writer.recordCount
  since : next.writer.recordsSinceCheckpoint = sink.writer.recordsSinceCheckpoint

structure SameLog (sink next : Sink) : Prop where
  dir : next.disk.dir = sink.disk.dir
  view : next.view = sink.view
  readings : sink.disk.readings ≤ next.disk.readings
  count : next.writer.recordCount = sink.writer.recordCount
  since : next.writer.recordsSinceCheckpoint = sink.writer.recordsSinceCheckpoint

theorem SameLog.books (same : SameLog sink next) : SameBooks sink next :=
  ⟨by rw [same.dir], by rw [same.view], same.readings, same.count, same.since⟩

theorem binds_subset {ext : Externals} {signer : Option Bytes} {line : CheckpointLine}
    (subset : ∀ record ∈ fewer, record ∈ records) (binds : Binds ext signer records line) : Binds ext signer fewer line :=
  ⟨binds.count, fun record member => binds.content record (subset record member), binds.signature⟩

theorem settled_recertified (files : next.disk.dir.files = sink.disk.dir.files) (anchor : next.disk.dir.anchor = sink.disk.dir.anchor)
    (view : next.view = sink.view) (file : next.writer.file = sink.writer.file) (bytes : next.writer.fileBytes = sink.writer.fileBytes)
    (certified : fits → Certified env next layout.records) (inv : Settled env fits sink layout start chain before tail sealed) :
    Settled env fits next layout start chain before tail sealed where
  disk :=
    { files := files.trans inv.disk.files
      numbered := inv.disk.numbered
      filled := inv.disk.filled
      linked := inv.disk.linked
      unwritten := inv.disk.unwritten
      total := by rw [view]; exact inv.disk.total
      below := by rw [view]; exact inv.disk.below
      room := by rw [view]; exact inv.disk.room
      certified := certified }
  phase := by rw [view]; exact inv.phase
  active := inv.active
  handle := file.trans inv.handle
  bytes := bytes.trans inv.bytes
  anchor := by rw [AnchorAt, anchor]; exact inv.anchor
  covers := inv.covers
  current := by rw [view]; exact inv.current

include monotone

theorem certified_subset (fit : fits) (subset : ∀ record ∈ fewer, record ∈ records) (same : SameBooks sink next)
    (certified : Certified env sink records) : Certified env next fewer where
  current record member := certified.current record (subset record member)
  stamps record member := UInt64.le_trans (certified.stamps record (subset record member)) (monotone fit _ _ same.readings)
  counted := by rw [same.count, same.lines]; exact certified.counted
  pending := by rw [same.since, same.lines]; exact certified.pending
  sidecar := by
    obtain ⟨lines, held, binds, latest⟩ := certified.sidecar
    rw [same.lines, same.since]
    refine ⟨lines, ?_, fun line member => ⟨?_, (binds line member).2⟩, fun signing settled some => latest signing settled ?_⟩
    · rw [HoldsLines, same.checkpoints]
      exact held
    · exact binds_subset subset (binds line member).1
    · intro empty
      obtain ⟨record, member⟩ := List.exists_mem_of_ne_nil fewer some
      have inside := subset record member
      rw [empty] at inside
      cases inside

theorem on_disk_reshaped (layout shaped : LogLayout) (start chain : ChainState) (gone : List AuditRecord)
    (split : layout.records = gone ++ shaped.records) (some : shaped.records = [] → layout.records = [])
    (same : SameBooks sink next) (files : next.disk.dir.files = shaped.files env.ext) (numbered : shaped.numbered)
    (filled : ∀ segment ∈ shaped.rotated, segment.2 ≠ [])
    (below : ∀ segment ∈ shaped.rotated, segment.1 + (if shaped.active.getD [] = [] then 0 else 1) ≤ sink.view.lines)
    (disk : OnDisk env fits sink layout start chain) : ∃ later, OnDisk env fits next shaped later chain := by
  have linked := disk.linked
  have total := disk.total
  have room := disk.room
  rw [split] at linked
  obtain ⟨later, before, after⟩ := chained_append.mp linked
  rw [split, List.length_append] at total
  have moved := chained_length start later gone before (by omega)
  refine ⟨later, files, numbered, filled, after, fun empty => disk.unwritten (some empty), ?_, ?_, ?_, fun fit => ?_⟩
  · rw [same.lines]
    omega
  · rw [same.lines]
    exact below
  · rw [same.lines]
    exact room
  · refine certified_subset monotone sink next fit ?_ same (disk.certified fit)
    intro record member
    rw [split]
    exact List.mem_append_right gone member

theorem on_disk_congr (same : SameLog sink next)
    (disk : OnDisk env fits sink layout start chain) : OnDisk env fits next layout start chain where
  files := by rw [same.dir]; exact disk.files
  numbered := disk.numbered
  filled := disk.filled
  linked := disk.linked
  unwritten := disk.unwritten
  total := by rw [same.view]; exact disk.total
  below := by rw [same.view]; exact disk.below
  room := by rw [same.view]; exact disk.room
  certified fit := certified_subset monotone sink next fit (fun _ member => member)
    (same.books sink next) (disk.certified fit)

theorem settled_congr
    (same : SameLog sink next) (file : next.writer.file = sink.writer.file) (bytes : next.writer.fileBytes = sink.writer.fileBytes)
    (inv : Settled env fits sink layout start chain before tail sealed) :
    Settled env fits next layout start chain before tail sealed := by
  have disk := on_disk_congr monotone sink next same inv.disk
  exact settled_recertified sink next (by rw [same.dir]) (by rw [same.dir]) same.view
    file bytes disk.certified inv

theorem renamed_congr (same : SameLog sink next)
    (inv : Renamed env fits sink layout start chain) : Renamed env fits next layout start chain where
  disk := on_disk_congr monotone sink next same inv.disk
  phase := by rw [same.view]; exact inv.phase
  active := inv.active
  written := inv.written
  anchor := by rw [same.dir, same.view]; exact inv.anchor

end Congruence

end Pkcs11Proxy.Audit
