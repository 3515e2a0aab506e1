import Pkcs11Proxy.Audit.DropTally

namespace Pkcs11Proxy.Audit

open Lib

variable {record : AuditRecord} {sink : Sink} {since : Nat}

section Sentinel

variable (env : SinkEnv) (lawful : env.ext.recordJson.Lawful)

-- If a sentinel is due, the descriptor is on the active file and every file
-- operation attempted for the sentinel succeeds.
def SentinelClear (sink : Sink) : Prop :=
  sink.writer.lastSeenDropped < sink.writer.dropped →
    Placed sink ∧ ∀ n < (runProc (maybeWriteGapSentinel env) sink).disk.attempts, sink.disk.attempts ≤ n → env.works n = true

theorem plain_record_tallied (plain : record.droppedCount = none) : record.tallied = 0 := by
  unfold AuditRecord.tallied AuditRecord.sentinelDroppedCount
  rw [plain]
  split
  · rfl
  · rfl

def Books.closed (books : Books) : Books :=
  { books with total := books.total + (books.dropped - books.seen).toNat, seen := books.dropped }

include lawful in
theorem tally_gap_sentinel (since : Nat) {books : Books} (due : books.seen < books.dropped) :
    Outcomes (Tallying env since True books) (maybeWriteGapSentinel env) (fun _ => Tallying env since True books.closed)
      (Faulted env since) := by
  apply outcomes_get
  intro read
  apply outcomes_given (read.writer.dropped = books.dropped ∧ read.writer.lastSeenDropped = books.seen)
  · rintro sink ⟨rfl, tallying⟩
    exact ⟨tallying.1.dropped, tallying.1.seen⟩
  rintro ⟨dropped, seen⟩
  rw [dropped, seen, if_neg (UInt64.not_le.mpr due)]
  let noted : Books := { books with seen := books.dropped }
  apply outcomes_bind fun _ => Tallying env since True noted
  · apply outcomes_set_writer
    rintro sink ⟨rfl, tally, placed⟩
    exact ⟨{ tally with seen := rfl }, placed⟩
  intro _
  have faulted (books : Books) (sink : Sink) (broken : TallyBroken env since True books sink) : Faulted env since sink := broken.2 trivial
  apply outcomes_bind fun _ => Tallying env since True noted
  · exact outcomes_lost (faulted noted) tally_now
  intro now
  refine outcomes_lost ?_
    (tally_record_raw env lawful since True noted (gapSentinel now (books.dropped - books.seen)))
  intro sink broken
  rcases broken with early | late
  · exact faulted _ sink early
  · exact faulted _ sink late

include lawful in
theorem sentinel_lands {books : Books} (tally : Tally env sink.disk.attempts books sink) (ordered : books.seen ≤ books.dropped)
    (clear : SentinelClear env sink) :
    ∃ next, maybeWriteGapSentinel env sink = .ok () next ∧ Tally env sink.disk.attempts books.closed next := by
  by_cases due : books.seen < books.dropped
  · obtain ⟨placed, works⟩ := clear (by rw [tally.dropped, tally.seen]; exact due)
    have triple := tally_gap_sentinel env lawful sink.disk.attempts due
    cases ran : maybeWriteGapSentinel env sink with
    | ok value next => exact ⟨next, rfl, (triple.ends sink value next ran ⟨tally, fun _ => placed⟩).1⟩
    | error error next =>
      obtain ⟨n, since, before, failed⟩ := triple.fails sink error next ran ⟨tally, fun _ => placed⟩
      rw [runProc, ran] at works
      rw [works n before since] at failed
      cases failed
  · have same : books.seen = books.dropped := UInt64.le_antisymm ordered (UInt64.not_lt.mp due)
    have closed : books.closed = books := by
      unfold Books.closed
      rw [← same, UInt64.sub_self]
      cases books
      cases same
      rfl
    refine ⟨sink, ?_, by rw [closed]; exact tally⟩
    refine run_get.trans ?_
    rw [tally.dropped, tally.seen, if_pos (UInt64.not_lt.mp due)]
    rfl

theorem tally_run {prog : SinkM Unit} {books after : Books}
    (triple : Outcomes (Tallying env since False books) prog (fun _ => Tallying env since False after) (TallyBroken env since False after))
    (tally : Tally env since books sink) : Tally env since after (runProc prog sink) := by
  have given : Tallying env since False books sink := ⟨tally, fun impossible => False.elim impossible⟩
  unfold runProc
  cases ran : prog sink with
  | ok value next => exact (triple.ends sink value next ran given).1
  | error error next => exact (triple.fails sink error next ran given).1

include lawful in
theorem record_tally {books : Books} (plain : record.droppedCount = none)
    (tally : Tally env sink.disk.attempts books sink) (ordered : books.seen ≤ books.dropped) (clear : SentinelClear env sink) :
    Tally env sink.disk.attempts books.closed (runProc (writeRecord env record) sink) := by
  obtain ⟨next, landed, closed⟩ := sentinel_lands env lawful tally ordered clear
  have rest : runProc (writeRecord env record) sink = runProc (writeRecordRaw env record) next := by
    unfold runProc
    rw [writeRecord, run_bind sink next () landed]
  rw [rest]
  apply tally_run env _ closed
  have raw := tally_record_raw env lawful sink.disk.attempts False books.closed record
  rw [plain_record_tallied plain] at raw
  exact outcomes_lost (fun _ broken => broken.elim id id) raw

include lawful in
theorem flush_tally (sink : Sink) (books : Books) (tally : Tally env sink.disk.attempts books sink) (ordered : books.seen ≤ books.dropped)
    (clear : SentinelClear env sink) : Tally env sink.disk.attempts books.closed (runProc (flush env) sink) := by
  obtain ⟨next, landed, closed⟩ := sentinel_lands env lawful tally ordered clear
  rw [runProc, flush, run_bind sink next () landed]
  exact tally_run env tally_seal closed

theorem checkpoint_tally {books : Books} (tally : Tally env since books sink) :
    Tally env since books (runProc (receive env .checkpoint) sink) := by
  apply tally_run env _ tally
  apply outcomes_read
  intro read
  apply outcomes_ite
  · intro _
    apply outcomes_ignore (TallyBroken env since False books) tally_checkpoint
    intro sink broken
    exact ⟨broken.1, fun impossible => False.elim impossible⟩
  · intro _
    exact outcomes_pure fun _ tallying => tallying

end Sentinel

section Steps

variable (env : SinkEnv) (lawful : env.ext.recordJson.Lawful) (config : QueueConfig)

def WriterDesk.msgs : WriterDesk → List WriterMsg
  | .holding msg => [msg]
  | _ => []

-- Every drop counted so far is in a written sentinel, or will be seen by a message
-- that is still to be handled.
structure Accounted (channel : AuditChannel) : Prop where
  running : channel.sink.running = true
  total : sentinelTotal env.ext channel.sink.disk.journal = channel.sink.writer.lastSeenDropped.toNat
  ordered : channel.sink.writer.lastSeenDropped ≤ channel.sink.writer.dropped
  counted : channel.sink.writer.dropped.toNat = channel.dropTotal
  plain : ∀ record, .record record ∈ channel.queue ++ channel.desk.msgs → record.droppedCount = none
  covered : channel.sink.writer.lastSeenDropped < channel.sink.writer.dropped →
    channel.queue ≠ [] ∨ channel.sink.flushing.isSome = true ∨ channel.desk ≠ .waiting
  drained : channel.desk = .drained → channel.sink.flushing.isSome = true

-- No emitted record carries a drop count, and a drop finds room in the counter. A
-- record and a flush find their sentinel's way clear. A timed checkpoint is not the
-- last message while drops are pending.
def Accountable (channel : AuditChannel) : ChannelEvent → Prop
  | .emit record => record.droppedCount = none ∧ channel.dropTotal + 1 < UInt64.size
  | .handle =>
    match channel.desk with
    | .holding (.record _) => SentinelClear env channel.sink
    | .drained => SentinelClear env { channel.sink with flushing := none }
    | .holding .checkpoint => channel.queue = [] → channel.sink.flushing = none →
        channel.sink.writer.dropped ≤ channel.sink.writer.lastSeenDropped
    | _ => True
  | _ => True

def AccountableRun (channel : AuditChannel) : List ChannelEvent → Prop
  | [] => True
  | event :: rest => Accountable env channel event ∧ AccountableRun (channelStep env config channel event) rest

def AuditChannel.books (channel : AuditChannel) : Books :=
  ⟨sentinelTotal env.ext channel.sink.disk.journal, channel.sink.writer.dropped, channel.sink.writer.lastSeenDropped,
    (channel.sink.running, channel.sink.flushing)⟩

theorem books_tally (channel : AuditChannel) : Tally env channel.sink.disk.attempts (channel.books env) channel.sink :=
  ⟨rfl, rfl, rfl, rfl, Nat.le_refl _⟩

theorem closed_total {books : Books} (total : books.total = books.seen.toNat) (ordered : books.seen ≤ books.dropped) :
    books.closed.total = books.closed.seen.toNat := by
  change books.total + (books.dropped - books.seen).toNat = books.dropped.toNat
  rw [total, UInt64.toNat_sub_of_le _ _ ordered]
  have below := UInt64.le_iff_toNat_le.mp ordered
  omega

theorem sink_receive {msg : WriterMsg} (running : sink.running = true) :
    sinkStep env sink (.receive msg) = runProc (receive env msg) sink := by
  rw [sinkStep, if_pos running]

variable {channel : AuditChannel} (inv : Accounted env channel)

include inv

theorem sent_accounted (msg : WriterMsg) (plain : ∀ record, msg = .record record → record.droppedCount = none) :
    Accounted env ((channel.trySend config msg).getD channel) := by
  unfold AuditChannel.trySend
  split
  · rw [Option.getD_some]
    refine { inv with plain := ?_, covered := fun _ => .inl (by simp) }
    intro record member
    simp only [List.mem_append, List.mem_singleton] at member
    rcases member with (queued | sent) | held
    · exact inv.plain record (List.mem_append_left _ queued)
    · exact plain record sent.symm
    · exact inv.plain record (List.mem_append_right _ held)
  · exact inv

theorem dropped_accounted (room : channel.dropTotal + 1 < UInt64.size) (full : channel.queue ≠ []) :
    Accounted env (channel.drop env) := by
  have counted : sinkStep env channel.sink .dropped =
      { channel.sink with writer := { channel.sink.writer with dropped := channel.sink.writer.dropped + 1 } } := by
    rw [sinkStep, if_pos inv.running]
    rfl
  have value : (channel.sink.writer.dropped + 1).toNat = channel.sink.writer.dropped.toNat + 1 := by
    rw [UInt64.toNat_add, inv.counted]
    exact Nat.mod_eq_of_lt room
  unfold AuditChannel.drop
  rw [counted]
  refine { inv with ordered := ?_, counted := ?_, covered := fun _ => .inl full }
  · rw [UInt64.le_iff_toNat_le, value]
    exact Nat.le_succ_of_le (UInt64.le_iff_toNat_le.mp inv.ordered)
  · rw [value, inv.counted]

theorem emit_accounted (plain : record.droppedCount = none) (room : channel.dropTotal + 1 < UInt64.size) :
    Accounted env (channel.emit env config record).1 := by
  have valid := config.valid
  have sent := sent_accounted env config inv (.record record) (fun other same => by cases same; exact plain)
  simp only [AuditChannel.emit]
  split
  · split
    · rename_i low
      apply dropped_accounted env inv room
      intro empty
      rw [AuditChannel.capacity, empty, List.length_nil] at low
      omega
    · rename_i above
      cases tried : channel.trySend config (.record record) with
      | some next =>
        rw [tried] at sent
        exact sent
      | none =>
        unfold AuditChannel.trySend at tried
        unfold AuditChannel.capacity at above
        rw [if_pos (by omega)] at tried
        cases tried
  · cases tried : channel.trySend config (.record record) with
    | some next =>
      rw [tried] at sent
      exact sent
    | none => exact inv

theorem take_accounted : Accounted env channel.take := by
  unfold AuditChannel.take
  split
  · split
    · rename_i msg rest queued
      refine { inv with plain := ?_, covered := fun _ => .inr (.inr (by simp)), drained := fun drained => by cases drained }
      intro record member
      apply inv.plain record
      rw [queued]
      simp only [List.mem_append, WriterDesk.msgs, List.mem_cons] at member ⊢
      tauto
    · rename_i empty
      split
      · rename_i flushing
        refine { inv with plain := ?_, covered := fun _ => .inr (.inl flushing), drained := fun _ => flushing }
        intro record member
        rw [empty] at member
        cases member
      · exact inv
  · exact inv

theorem handled_accounted (books : Books) (since : Nat) (succeeded : Bool)
    (tally : Tally env since books sink) (total : books.total = books.seen.toNat) (ordered : books.seen ≤ books.dropped)
    (dropped : books.dropped = channel.sink.writer.dropped) (running : books.desk.1 = true)
    (covered : books.seen < books.dropped → channel.queue ≠ [] ∨ books.desk.2.isSome = true) :
    Accounted env { channel with sink := sink, desk := .waiting, succeeded := succeeded } where
  running := (congrArg Prod.fst tally.desk).trans running
  total := by rw [tally.total, total, tally.seen]
  ordered := by
    rw [tally.seen, tally.dropped]
    exact ordered
  counted := by
    rw [tally.dropped, dropped]
    exact inv.counted
  plain record member := inv.plain record (by
    simp only [WriterDesk.msgs, List.append_nil] at member
    exact List.mem_append_left _ member)
  covered pending := by
    rw [tally.seen, tally.dropped] at pending
    rcases covered pending with queued | flushing
    · exact .inl queued
    · exact .inr (.inl ((congrArg (fun desk => Option.isSome desk.2) tally.desk).trans flushing))
  drained idle := by cases idle

theorem flush_request_accounted {ack : Nat} (held : channel.desk = .holding (.flush ack)) :
    Accounted env (channel.handle env) := by
  unfold AuditChannel.handle
  rw [held]
  simp only
  rw [sink_receive env inv.running]
  have request : runProc (receive env (.flush ack)) channel.sink =
      if channel.sink.flushing.isSome then { channel.sink with answers := channel.sink.answers ++ [(ack, true)] }
      else { channel.sink with flushing := some ack } := by
    have taken : receive env (.flush ack) channel.sink =
        (if channel.sink.flushing.isSome then answer ack true else modify fun sink => { sink with flushing := some ack }) channel.sink := rfl
    rw [runProc, taken]
    by_cases flushing : channel.sink.flushing.isSome = true
    · rw [if_pos flushing, if_pos flushing]
      rfl
    · rw [if_neg flushing, if_neg flushing]
      rfl
  rw [request]
  split
  · rename_i flushing
    exact handled_accounted env inv (channel.books env) channel.sink.disk.attempts _ ⟨rfl, rfl, rfl, rfl, Nat.le_refl _⟩
      inv.total inv.ordered rfl inv.running fun _ => .inr flushing
  · exact handled_accounted env inv { channel.books env with desk := (channel.sink.running, some ack) } channel.sink.disk.attempts _
      ⟨rfl, rfl, rfl, rfl, Nat.le_refl _⟩ inv.total inv.ordered rfl inv.running fun _ => .inr rfl

include lawful in
theorem record_accounted (held : channel.desk = .holding (.record record)) (clear : SentinelClear env channel.sink) :
    Accounted env (channel.handle env) := by
  have plain := inv.plain record (by rw [held]; simp [WriterDesk.msgs])
  unfold AuditChannel.handle
  rw [held]
  simp only
  rw [received_record env inv.running]
  have tally := record_tally env lawful plain (books_tally env channel) inv.ordered clear
  exact handled_accounted env inv (channel.books env).closed _ _ tally (closed_total inv.total inv.ordered)
    (UInt64.le_refl _) rfl inv.running fun pending => absurd pending (UInt64.lt_irrefl _)

theorem checkpoint_accounted (held : channel.desk = .holding .checkpoint)
    (last : channel.queue = [] → channel.sink.flushing = none → channel.sink.writer.dropped ≤ channel.sink.writer.lastSeenDropped) :
    Accounted env (channel.handle env) := by
  unfold AuditChannel.handle
  rw [held]
  simp only
  rw [sink_receive env inv.running]
  have tally := checkpoint_tally env (books_tally env channel)
  apply handled_accounted env inv (channel.books env) _ _ tally inv.total inv.ordered rfl inv.running
  intro pending
  by_cases empty : channel.queue = []
  · right
    cases flushing : channel.sink.flushing with
    | some ack =>
      change channel.sink.flushing.isSome = true
      rw [flushing]
      rfl
    | none => exact absurd pending (UInt64.not_lt.mpr (last empty flushing))
  · exact .inl empty

include lawful in
theorem drained_accounted (held : channel.desk = .drained) (clear : SentinelClear env { channel.sink with flushing := none }) :
    Accounted env (channel.handle env) := by
  obtain ⟨ack, serving⟩ := Option.isSome_iff_exists.mp (inv.drained held)
  let taken : Sink := { channel.sink with flushing := none }
  let books : Books := { channel.books env with desk := (channel.sink.running, none) }
  have tally := flush_tally env lawful taken books ⟨rfl, rfl, rfl, rfl, Nat.le_refl _⟩ inv.ordered clear
  unfold AuditChannel.handle
  rw [held]
  have step : sinkStep env channel.sink .queueEmpty = runProc (finishFlush env) channel.sink := by
    rw [sinkStep, if_pos inv.running]
  rw [step]
  have answered : ∃ answers, runProc (finishFlush env) channel.sink = { runProc (flush env) taken with answers := answers } := by
    unfold runProc
    cases ended : flush env taken with
    | ok value next =>
      rw [finish_flush_ok serving ended]
      exact ⟨_, rfl⟩
    | error error next =>
      rw [finish_flush_error serving ended]
      exact ⟨_, rfl⟩
  obtain ⟨answers, same⟩ := answered
  rw [same]
  exact handled_accounted env inv books.closed _ _ { tally with } (closed_total inv.total inv.ordered) (UInt64.le_refl _) rfl
    inv.running fun pending => absurd pending (UInt64.lt_irrefl _)

include lawful in
theorem channel_step_accounted {event : ChannelEvent} (accountable : Accountable env channel event) :
    Accounted env (channelStep env config channel event) := by
  cases event with
  | emit record => exact emit_accounted env config inv accountable.1 accountable.2
  | timerTick =>
    rw [channelStep]
    split
    · exact sent_accounted env config inv .checkpoint (fun record same => by cases same)
    · exact inv
  | requestFlush ack => exact sent_accounted env config inv (.flush ack) (fun record same => by cases same)
  | take => exact take_accounted env inv
  | handle =>
    unfold Accountable at accountable
    cases held : channel.desk with
    | waiting =>
      rw [channelStep, AuditChannel.handle, held]
      exact inv
    | drained =>
      rw [held] at accountable
      exact drained_accounted env lawful inv held accountable
    | holding msg =>
      rw [held] at accountable
      cases msg with
      | record record => exact record_accounted env lawful inv held accountable
      | flush ack => exact flush_request_accounted env inv held
      | checkpoint => exact checkpoint_accounted env inv held accountable

include lawful in
theorem channel_run_accounted {events : List ChannelEvent} (accountable : AccountableRun env config channel events) :
    Accounted env (runChannel env config channel events) := by
  induction events generalizing channel with
  | nil => exact inv
  | cons event rest ih => exact ih (channel_step_accounted env lawful config inv accountable.1) accountable.2

theorem accounted_settled : DropsAccounted env channel := by
  rintro ⟨empty, waiting, idle, -⟩
  have none : ¬ channel.sink.writer.lastSeenDropped < channel.sink.writer.dropped := by
    intro pending
    rcases inv.covered pending with queued | flushing | busy
    · exact queued empty
    · rw [idle] at flushing
      cases flushing
    · exact busy waiting
  rw [inv.total, UInt64.le_antisymm inv.ordered (UInt64.not_lt.mp none), inv.counted]

end Steps

section Run

variable (env : SinkEnv)

theorem outcomes_open_books (rotateMaxBytes rotateKeepFiles : Nat) :
    Outcomes (fun sink => sink.disk.journal = [] ∧ sink.flushing = none) (openWriter env rotateMaxBytes rotateKeepFiles)
      (fun _ next => sentinelTotal env.ext next.disk.journal = 0 ∧ next.writer.dropped = 0 ∧ next.writer.lastSeenDropped = 0 ∧
        next.flushing = none) fun _ => True := by
  apply outcomes_get
  intro read
  cases reconstructChainState env.ext read.disk.dir with
  | error message => exact ⟨(fun _ _ _ ran => by cases ran), fun _ _ _ _ _ => trivial⟩
  | ok chain =>
    apply outcomes_bind fun _ (sink : Sink) => sentinelTotal env.ext sink.disk.journal = 0 ∧ sink.flushing = none
    · apply outcomes_fs_op
      · intro sink dir given _
        obtain ⟨-, fresh, idle⟩ := given
        refine ⟨?_, idle⟩
        change sentinelTotal env.ext (sink.disk.journal ++ [_]) = 0
        rw [fresh]
        rfl
      · exact fun _ _ _ => trivial
      · exact fun _ => rfl
    · intro _
      exact outcomes_set_writer fun sink opened => ⟨opened.1, rfl, rfl, opened.2⟩

theorem start_accounted {dir : LogDir} {rotateMaxBytes rotateKeepFiles : Nat}
    (running : (startSink env dir rotateMaxBytes rotateKeepFiles).running = true) :
    Accounted env (startChannel env dir rotateMaxBytes rotateKeepFiles) := by
  have triple := outcomes_open_books env rotateMaxBytes rotateKeepFiles
  have books : sentinelTotal env.ext (startSink env dir rotateMaxBytes rotateKeepFiles).disk.journal = 0 ∧
      (startSink env dir rotateMaxBytes rotateKeepFiles).writer.dropped = 0 ∧
      (startSink env dir rotateMaxBytes rotateKeepFiles).writer.lastSeenDropped = 0 ∧
      (startSink env dir rotateMaxBytes rotateKeepFiles).flushing = none := by
    unfold startSink openSink at running ⊢
    split at running
    · rename_i next ran
      exact triple.ends _ _ next ran ⟨rfl, rfl⟩
    · cases running
  obtain ⟨total, dropped, seen, idle⟩ := books
  refine ⟨running, ?_, ?_, ?_, ?_, ?_, fun drained => by cases drained⟩
  · change sentinelTotal env.ext (startSink env dir rotateMaxBytes rotateKeepFiles).disk.journal = _
    rw [total]
    exact (congrArg UInt64.toNat seen).symm
  · exact UInt64.le_of_eq (seen.trans dropped.symm)
  · exact congrArg UInt64.toNat dropped
  · intro record member
    cases member
  · intro pending
    exact absurd pending (UInt64.not_lt.mpr (UInt64.le_of_eq (dropped.trans seen.symm)))

-- In a run whose steps are all accountable, every state reached has its drops in
-- written sentinels once the writer is idle.
theorem drops_accounted (lawful : env.ext.recordJson.Lawful) (config : QueueConfig) (dir : LogDir) (rotateMaxBytes rotateKeepFiles : Nat)
    (events : List ChannelEvent) (opened : (startSink env dir rotateMaxBytes rotateKeepFiles).running = true)
    (accountable : AccountableRun env config (startChannel env dir rotateMaxBytes rotateKeepFiles) events) :
    DropsAccounted env (runChannel env config (startChannel env dir rotateMaxBytes rotateKeepFiles) events) :=
  accounted_settled env (channel_run_accounted env lawful config (start_accounted env opened) accountable)

end Run

def narrowQueue : QueueConfig := ⟨1, 0, by decide⟩

def dataRecord : AuditRecord := { gapSentinel 0 0 with method := "C_Sign", eventClass := .dataPlane, droppedCount := none }

def droppedRun : List ChannelEvent := [.emit dataRecord, .emit dataRecord, .take, .handle]

instance (channel : AuditChannel) : Decidable channel.Settled := by
  unfold AuditChannel.Settled
  infer_instance

theorem drops_accounted_one : ∃ channel, runChannel plainEnv narrowQueue (startChannel plainEnv (emptyDir "log") 1000000 1) droppedRun = channel ∧
    channel.Settled ∧ channel.dropTotal = 1 ∧ DropsAccounted plainEnv channel := by
  refine ⟨_, rfl, by decide +kernel, by decide +kernel, ?_⟩
  apply drops_accounted plainEnv brief_externals_lawful.record narrowQueue (emptyDir "log") 1000000 1 droppedRun (by decide +kernel)
  have room : 1 < UInt64.size := by decide
  refine ⟨⟨rfl, room⟩, ⟨rfl, room⟩, trivial, ?_, trivial⟩
  exact fun _ => ⟨⟨rfl, by decide +kernel⟩, fun _ _ _ => rfl⟩

def lostSentinelEnv : SinkEnv := { plainEnv with works := fun n => n != 1 }

def lostSentinelRun : List ChannelEvent := droppedRun ++ [.emit dataRecord, .take, .handle]

def tickedRun : List ChannelEvent := [.timerTick, .emit dataRecord, .take, .handle]

-- The sentinel's write fails and the next record's succeeds: the drop is in no
-- sentinel, then or later. Or, with no fault at all, the message that filled the
-- queue was a timed checkpoint, which writes no sentinel.
theorem drop_unaccounted :
    (∃ channel, runChannel lostSentinelEnv narrowQueue (startChannel lostSentinelEnv (emptyDir "log") 1000000 1) lostSentinelRun = channel ∧
      channel.Settled ∧ channel.dropTotal = 1 ∧ channel.sink.writer.lastSeenDropped = 1 ∧
      sentinelTotal lostSentinelEnv.ext channel.sink.disk.journal = 0 ∧ ¬ DropsAccounted lostSentinelEnv channel) ∧
    ∃ channel, runChannel plainEnv narrowQueue (startChannel plainEnv (emptyDir "log") 1000000 1) tickedRun = channel ∧
      channel.Settled ∧ channel.dropTotal = 1 ∧ ¬ DropsAccounted plainEnv channel := by
  have fail (env : SinkEnv) (channel : AuditChannel) (settled : channel.Settled) (dropped : channel.dropTotal = 1)
      (total : sentinelTotal env.ext channel.sink.disk.journal = 0) : ¬ DropsAccounted env channel := by
    intro accounted
    have sum := accounted settled
    rw [total, dropped] at sum
    cases sum
  refine ⟨⟨_, rfl, by decide +kernel, by decide +kernel, by decide +kernel, by decide +kernel, ?_⟩, ⟨_, rfl, by decide +kernel,
    by decide +kernel, ?_⟩⟩
  · exact fail _ _ (by decide +kernel) (by decide +kernel) (by decide +kernel)
  · exact fail _ _ (by decide +kernel) (by decide +kernel) (by decide +kernel)

end Pkcs11Proxy.Audit
