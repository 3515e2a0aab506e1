import Pkcs11Proxy.Audit.Completeness
import Pkcs11Proxy.Audit.FiledWrites

namespace Pkcs11Proxy.Audit

open Lib

def startSink (env : SinkEnv) (dir : LogDir) (rotateMaxBytes rotateKeepFiles : Nat) : Sink :=
  openSink env rotateMaxBytes rotateKeepFiles
    { disk := ⟨dir, 0, 0, []⟩
      writer := ⟨ChainState.genesis, activeName, 0, rotateMaxBytes, rotateKeepFiles, 0, 0, 0, 0⟩
      running := false
      flushing := none
      answers := [] }

def SinkEvent.emitted : SinkEvent → Option AuditRecord
  | .receive (.record record) => some record
  | _ => none

def received (events : List SinkEvent) : List AuditRecord := events.filterMap SinkEvent.emitted

-- Every record, stamped, is a line of the log files or went with a file that retention
-- removed, and the anchor on disk seals a chain with all of them in it, at an offset
-- within the active file.
def SealedLog (env : SinkEnv) (opened : LogDir) (head : ChainState) (records : List AuditRecord) (sink : Sink) : Prop :=
  ∃ stamped, List.Forall₂ SameEvent records stamped ∧ (∀ entry ∈ stamped, Filed env.ext opened sink.disk entry) ∧
    ∃ anchor all, sink.disk.dir.anchor = some (env.ext.anchorJson.enc anchor) ∧
      Chained env.ext head all ⟨anchor.lastHash, anchor.lastSeq⟩ ∧ stamped.Sublist all ∧
      ∀ bytes, sink.disk.dir.readFile activeName = some bytes → anchor.activeBytes ≤ bytes.length

variable {stretch : Stretch} {all stamped : List AuditRecord} {next : Sink} {ack : Nat}

variable {sink : Sink}

section Steps

variable (env : SinkEnv)

-- A record finds the active file in place, with no torn line at its end, and every file
-- operation made for it succeeds; a flush request finds no other one being served. The
-- flushes' and checkpoints' own operations may fail. A restart begins another life.
def Orderly (sink : Sink) : SinkEvent → Prop
  | .receive (.record record) =>
    (∃ bytes, sink.disk.dir.readFile activeName = some bytes ∧ WholeLines bytes) ∧ findMaxRotationN sink.disk.dir + 2 < UInt64.size ∧
      ∀ n < (sinkStep env sink (.receive (.record record))).disk.attempts, sink.disk.attempts ≤ n → env.works n = true
  | .receive (.flush _) => sink.flushing = none
  | .receive .checkpoint => True
  | .queueEmpty => findMaxRotationN sink.disk.dir + 1 < UInt64.size
  | .dropped => True
  | .restart _ _ => False

def OrderlyRun (sink : Sink) : List SinkEvent → Prop
  | [] => True
  | event :: rest => Orderly env sink event ∧ OrderlyRun (sinkStep env sink event) rest

variable (opened : LogDir) (head : ChainState)

def restStretch (sink : Sink) : Stretch := ⟨opened, head, 0, false, (sink.running, sink.flushing, sink.answers)⟩

def AtDesk (records : List AuditRecord) (sink : Sink) : Prop :=
  ∃ all stamped, List.Forall₂ SameEvent records stamped ∧ Held env (restStretch opened head sink) 0 all stamped sink

theorem held_stretched (stretch other : Stretch) (rotations fewer : Nat) (all stamped : List AuditRecord) (sink : Sink)
    (held : Held env stretch rotations all stamped sink) (opened : other.opened = stretch.opened) (head : other.head = stretch.head)
    (since : other.since ≤ sink.disk.attempts) (desk : (sink.running, sink.flushing, sink.answers) = other.desk)
    (room : findMaxRotationN sink.disk.dir + fewer < 2 ^ 64) : Held env other fewer all stamped sink where
  journaled := by rw [opened]; exact held.journaled
  descriptor := held.descriptor
  named := held.named
  active := held.active
  filed := by rw [opened]; exact held.filed
  chained := by rw [head]; exact held.chained
  covered := held.covered
  room := room
  since := since
  desk := desk

theorem at_desk_congr (records : List AuditRecord) (sink next : Sink) (disk : next.disk = sink.disk) (writer : next.writer = sink.writer)
    (rest : AtDesk env opened head records sink) : AtDesk env opened head records next := by
  obtain ⟨all, stamped, same, held⟩ := rest
  refine ⟨all, stamped, same, ?_⟩
  cases sink
  cases disk
  cases writer
  exact { held with desk := rfl }

theorem held_at_desk {records : List AuditRecord} (dir : stretch.opened = opened)
    (chain : stretch.head = head) (same : List.Forall₂ SameEvent records stamped) (held : Held env stretch 0 all stamped sink) :
    AtDesk env opened head records sink :=
  ⟨all, stamped, same, held_stretched env stretch (restStretch opened head sink) 0 0 all stamped sink held dir.symm chain.symm
    (Nat.zero_le _) rfl held.room⟩

variable {record : AuditRecord}

theorem received_record (running : sink.running = true) :
    sinkStep env sink (.receive (.record record)) = runProc (writeRecord env record) sink := by
  have step : sinkStep env sink (.receive (.record record)) = runProc (receive env (.record record)) sink := by
    rw [sinkStep, if_pos running]
  rw [step]
  change runProc (ignoreError (writeRecord env record)) sink = _
  unfold runProc ignoreError
  cases writeRecord env record sink with
  | ok | error => rfl

def Settles (records : List AuditRecord) (sink next : Sink) : Prop :=
  next.answers = sink.answers ∨
    ∃ ack ok, next.answers = sink.answers ++ [(ack, ok)] ∧ (ok = true → SealedLog env opened head records next)

structure OrderlyStep (records : List AuditRecord) (sink : Sink) (event : SinkEvent) (next : Sink) : Prop where
  rest : AtDesk env opened head (records ++ event.emitted.toList) next
  running : next.running = true
  settles : Settles env opened head records sink next

variable {env opened head}

variable {records : List AuditRecord} {sink : Sink} {event : SinkEvent}

theorem silent_step (next : Sink) (silent : event.emitted = none) (rest : AtDesk env opened head records next)
    (running : next.running = true) (settles : Settles env opened head records sink next) :
    OrderlyStep env opened head records sink event next := by
  refine ⟨?_, running, settles⟩
  rw [silent, Option.toList_none, List.append_nil]
  exact rest

theorem sealing_sealed (dir : stretch.opened = opened)
    (chain : stretch.head = head) (same : List.Forall₂ SameEvent records stamped) (sealing : Sealing env stretch 0 all stamped sink)
    (disk : next.disk = sink.disk) : SealedLog env opened head records next := by
  obtain ⟨⟨held, -⟩, anchored⟩ := sealing
  subst dir chain
  refine ⟨stamped, same, ?_, ⟨_, _, sink.writer.fileBytes⟩, all, ?_, held.chained, held.covered, ?_⟩
  · rw [disk]
    exact held.filed
  · rw [disk]
    exact anchored
  · intro bytes found
    rw [disk] at found
    rcases held.active with here | missing
    · obtain ⟨whole, there, length⟩ := held.descriptor
      rw [here, found] at there
      rw [Option.some.inj there]
      exact length
    · rw [missing] at found
      cases found

theorem finish_flush_ok (serving : sink.flushing = some ack)
    (ended : flush env { sink with flushing := none } = .ok () next) : finishFlush env sink = answer ack true next := by
  refine run_get.trans ?_
  rw [serving]
  refine (run_bind sink { sink with flushing := none } () rfl).trans ?_
  simp only [ended]

theorem finish_flush_error {error : IoError} (serving : sink.flushing = some ack)
    (ended : flush env { sink with flushing := none } = .error error next) : finishFlush env sink = answer ack false next := by
  refine run_get.trans ?_
  rw [serving]
  refine (run_bind sink { sink with flushing := none } () rfl).trans ?_
  simp only [ended]

section

variable (running : sink.running = true) (rest : AtDesk env opened head records sink)

include running rest

theorem record_step (orderly : Orderly env sink (.receive (.record record))) :
    OrderlyStep env opened head records sink (.receive (.record record)) (sinkStep env sink (.receive (.record record))) := by
  obtain ⟨⟨bytes, found, lines⟩, room, works⟩ := orderly
  obtain ⟨all, stamped, same, held⟩ := rest
  rw [received_record env running] at works ⊢
  let stretch : Stretch := ⟨opened, head, sink.disk.attempts, true, (sink.running, sink.flushing, sink.answers)⟩
  have onActive : sink.writer.file = activeName := by
    rcases held.active with here | missing
    · exact here
    · rw [missing] at found
      cases found
  have kept : Kept env stretch 2 stamped sink :=
    ⟨all, held_stretched env _ stretch 0 2 all stamped sink held rfl rfl (Nat.le_refl _) rfl room, fun _ =>
      ⟨onActive, fun other read => Option.some.inj (found.symm.trans read) ▸ lines⟩⟩
  have triple := outcomes_record env stretch stamped record
  unfold runProc at works ⊢
  cases ended : writeRecord env record sink with
  | ok _ next =>
    obtain ⟨entry, event, all', held', -⟩ := triple.ends sink _ next ended kept
    have desk := Prod.mk.inj held'.desk
    refine ⟨held_at_desk env opened head rfl rfl ?_ held', desk.1.trans running,
      .inl (Prod.mk.inj desk.2).2⟩
    exact List.rel_append same (List.Forall₂.cons event .nil)
  | error error next =>
    obtain ⟨-, faulted⟩ := triple.fails sink error next ended kept
    obtain ⟨n, since, before, failed⟩ := faulted rfl
    rw [ended] at works
    rw [works n before since] at failed
    cases failed

theorem checkpoint_step :
    OrderlyStep env opened head records sink (.receive .checkpoint) (sinkStep env sink (.receive .checkpoint)) := by
  have step : sinkStep env sink (.receive .checkpoint) = runProc (receive env .checkpoint) sink := by
    rw [sinkStep, if_pos running]
  rw [step]
  obtain ⟨all, stamped, same, held⟩ := rest
  let stretch := restStretch opened head sink
  have triple : Outcomes (Writing env stretch 0 all stamped) (receive env .checkpoint)
      (fun _ next => ∃ all', Held env stretch 0 all' stamped next) fun _ => False := by
    apply outcomes_get
    intro read
    apply outcomes_ite
    · intro _
      apply outcomes_ignore (Broken env stretch stamped) _ fun _ broken => broken.1
      exact outcomes_weaken _ _ (fun _ given => given.2) (fun _ _ sealing => ⟨all, sealing.1.1⟩) (fun _ broken => broken)
        outcomes_checkpoint
    · intro _
      exact outcomes_pure fun _ given => ⟨all, given.2.1⟩
  unfold runProc
  cases ended : receive env .checkpoint sink with
  | ok _ next =>
    obtain ⟨all', held'⟩ := triple.ends sink _ next ended ⟨held, nofun⟩
    have desk := Prod.mk.inj held'.desk
    exact silent_step next rfl (held_at_desk env opened head rfl rfl same held')
      (desk.1.trans running) (.inl (Prod.mk.inj desk.2).2)
  | error error next => exact False.elim (triple.fails sink error next ended ⟨held, nofun⟩)

theorem flush_step (orderly : Orderly env sink .queueEmpty) :
    OrderlyStep env opened head records sink .queueEmpty (sinkStep env sink .queueEmpty) := by
  have step : sinkStep env sink .queueEmpty = runProc (finishFlush env) sink := by
    rw [sinkStep, if_pos running]
  rw [step]
  cases serving : sink.flushing with
  | none =>
    have idle : runProc (finishFlush env) sink = sink := by
      have quiet : finishFlush env sink = .ok () sink := by
        refine run_get.trans ?_
        rw [serving]
        rfl
      rw [runProc, quiet]
    rw [idle]
    exact silent_step sink rfl rest running (.inl rfl)
  | some ack =>
    let taken : Sink := { sink with flushing := none }
    obtain ⟨all, stamped, same, held⟩ := at_desk_congr env opened head records sink taken rfl rfl rest
    let stretch := restStretch opened head taken
    have kept : Kept env stretch 1 stamped taken :=
      ⟨all, held_stretched env _ stretch 0 1 all stamped taken held rfl rfl held.since rfl orderly, nofun⟩
    have triple := outcomes_flush env stretch stamped
    have closed (ok : Bool) (all' : List AuditRecord) (next : Sink) (held' : Held env stretch 0 all' stamped next)
        (sealed : ok = true → Sealing env stretch 0 all' stamped next) (ended : runProc (finishFlush env) sink =
          { next with answers := next.answers ++ [(ack, ok)] }) :
        OrderlyStep env opened head records sink .queueEmpty (runProc (finishFlush env) sink) := by
      have desk := Prod.mk.inj held'.desk
      have answers : next.answers = sink.answers := (Prod.mk.inj desk.2).2
      rw [ended]
      apply silent_step _ rfl
      · exact at_desk_congr env opened head records next _ rfl rfl
          (held_at_desk env opened head rfl rfl same held')
      · exact desk.1.trans running
      · refine .inr ⟨ack, ok, by rw [← answers], fun good => ?_⟩
        exact sealing_sealed rfl rfl same (sealed good) rfl
    cases ended : flush env taken with
    | ok _ next =>
      obtain ⟨all', sealing⟩ := triple.ends taken _ next ended kept
      refine closed true all' next sealing.1.1 (fun _ => sealing) ?_
      rw [runProc, finish_flush_ok serving ended]
      rfl
    | error error next =>
      obtain ⟨⟨all', held'⟩, -⟩ := triple.fails taken error next ended kept
      refine closed false all' next held' nofun ?_
      rw [runProc, finish_flush_error serving ended]
      rfl

theorem orderly_step (orderly : Orderly env sink event) : OrderlyStep env opened head records sink event (sinkStep env sink event) := by
  cases event with
  | receive msg =>
    cases msg with
    | record record => exact record_step running rest orderly
    | checkpoint => exact checkpoint_step running rest
    | flush ack =>
      have served : sinkStep env sink (.receive (.flush ack)) = { sink with flushing := some ack } := by
        have taken : receive env (.flush ack) sink = .ok () { sink with flushing := some ack } := by
          refine run_get.trans ?_
          have idle : sink.flushing = none := orderly
          simp only [idle, Option.isSome_none, Bool.false_eq_true, if_false]
          rfl
        rw [sinkStep, if_pos running]
        simp only [runProc, taken]
      rw [served]
      exact silent_step _ rfl (at_desk_congr env opened head records sink _ rfl rfl rest) running (.inl rfl)
  | queueEmpty => exact flush_step running rest orderly
  | dropped =>
    have counted : sinkStep env sink .dropped = { sink with writer := { sink.writer with dropped := sink.writer.dropped + 1 } } := by
      rw [sinkStep, if_pos running]
      rfl
    rw [counted]
    obtain ⟨all, stamped, same, held⟩ := rest
    exact silent_step _ rfl ⟨all, stamped, same, { held with }⟩ running (.inl rfl)
  | restart rotateMaxBytes rotateKeepFiles => exact False.elim orderly

end

end Steps

section Run

variable (env : SinkEnv)

theorem orderly_run_snoc (events : List SinkEvent) (event : SinkEvent) (sink : Sink) (orderly : OrderlyRun env sink (events ++ [event])) :
    OrderlyRun env sink events ∧ Orderly env (runSink env sink events) event := by
  induction events generalizing sink with
  | nil => exact ⟨trivial, orderly.1⟩
  | cons first rest ih =>
    obtain ⟨early, later⟩ := ih (sinkStep env sink first) orderly.2
    exact ⟨⟨orderly.1, early⟩, later⟩

theorem orderly_run (opened : LogDir) (head : ChainState) (events : List SinkEvent) (records : List AuditRecord) (sink : Sink)
    (running : sink.running = true) (rest : AtDesk env opened head records sink) (orderly : OrderlyRun env sink events) :
    (runSink env sink events).running = true ∧ AtDesk env opened head (records ++ received events) (runSink env sink events) := by
  induction events generalizing records sink with
  | nil => exact ⟨running, by rw [received, List.filterMap_nil, List.append_nil]; exact rest⟩
  | cons event rest' ih =>
    have step := orderly_step running rest orderly.1
    obtain ⟨stays, kept⟩ := ih (records ++ event.emitted.toList) (sinkStep env sink event) step.running step.rest orderly.2
    refine ⟨stays, ?_⟩
    have split : received (event :: rest') = event.emitted.toList ++ received rest' := by
      rw [received, List.filterMap_cons]
      cases event.emitted with
      | none | some => rfl
    rw [split, ← List.append_assoc]
    exact kept

variable {dir : LogDir}

theorem find_max_fits : findMaxRotationN dir < 2 ^ 64 := by
  have bound : findMaxRotationN dir ≤ 2 ^ 64 - 1 := by
    rw [find_max_le]
    intro file member n parsed
    unfold parseRotationN at parsed
    split at parsed
    · cases parsed
    · split at parsed
      · cases parsed
      · split at parsed
        · rw [← Option.some.inj parsed]
          omega
        · cases parsed
  omega

theorem held_opened (sink : Sink) (writer : WriterState) (fresh : sink.disk.journal = []) (file : writer.file = activeName)
    (bytes : writer.fileBytes = ((sink.disk.dir.readFile activeName).getD []).length) :
    AtDesk env sink.disk.dir writer.chain []
      { sink.after (.openAppend activeName) (sink.disk.dir.createFile activeName) with writer := writer } := by
  refine ⟨[], [], .nil, ?_, ?_, ?_, .inl file, ?_, rfl, List.Sublist.refl _, find_max_fits, Nat.zero_le _, rfl⟩
  · exact (perform_all_snoc (by rw [fresh]; rfl)).symm
  · refine ⟨(sink.disk.dir.readFile activeName).getD [], ?_, bytes.le⟩
    change (sink.disk.dir.createFile activeName).readFile writer.file = _
    rw [read_create, if_pos file]
  · exact file ▸ is_audit_log_active
  · intro record member
    cases member

theorem outcomes_open (dir : LogDir) (rotateMaxBytes rotateKeepFiles : Nat) :
    Outcomes (fun sink => sink.disk.dir = dir ∧ sink.disk.journal = []) (openWriter env rotateMaxBytes rotateKeepFiles)
      (fun _ next => AtDesk env dir next.writer.chain [] next) fun _ => True := by
  apply outcomes_get
  intro read
  cases resumed : reconstructChainState env.ext read.disk.dir with
  | error message => exact ⟨(fun _ _ _ ran => by cases ran), fun _ _ _ _ _ => trivial⟩
  | ok chain =>
    let writer : WriterState := ⟨chain, activeName, ((read.disk.dir.readFile activeName).getD []).length, rotateMaxBytes,
      rotateKeepFiles, 0, 0, 0, 0⟩
    apply outcomes_bind fun _ (sink : Sink) => AtDesk env dir chain [] { sink with writer := writer }
    · apply outcomes_fs_op
      · intro sink created given performed
        obtain ⟨rfl, rfl, fresh⟩ := given
        obtain rfl := Option.some.inj performed
        exact held_opened env sink writer fresh rfl rfl
      · exact fun _ _ _ => trivial
      · exact fun _ => rfl
    · intro _
      exact outcomes_set_writer fun sink opened => opened

theorem start_at_desk {rotateMaxBytes rotateKeepFiles : Nat}
    (running : (startSink env dir rotateMaxBytes rotateKeepFiles).running = true) :
    AtDesk env dir (startSink env dir rotateMaxBytes rotateKeepFiles).writer.chain []
      (startSink env dir rotateMaxBytes rotateKeepFiles) := by
  have triple := outcomes_open env dir rotateMaxBytes rotateKeepFiles
  unfold startSink openSink at running ⊢
  split at running
  · rename_i next ran
    exact at_desk_congr env dir next.writer.chain [] next _ rfl rfl (triple.ends _ _ next ran ⟨rfl, rfl⟩)
  · cases running

theorem stopped_run (events : List SinkEvent) (stopped : sink.running = false) : runSink env sink events = sink := by
  induction events with
  | nil => rfl
  | cons event rest ih =>
    have stays : sinkStep env sink event = sink := by
      rw [sinkStep.eq_def, stopped]
      rfl
    rw [runSink, List.foldl_cons, stays]
    exact ih

theorem answered_flush_sealed (dir : LogDir) (rotateMaxBytes rotateKeepFiles : Nat) (events : List SinkEvent) (event : SinkEvent)
    (ack : Nat) (orderly : OrderlyRun env (startSink env dir rotateMaxBytes rotateKeepFiles) (events ++ [event]))
    (answered : (runSink env (startSink env dir rotateMaxBytes rotateKeepFiles) (events ++ [event])).answers =
      (runSink env (startSink env dir rotateMaxBytes rotateKeepFiles) events).answers ++ [(ack, true)]) :
    SealedLog env dir (startSink env dir rotateMaxBytes rotateKeepFiles).writer.chain (received events)
      (runSink env (startSink env dir rotateMaxBytes rotateKeepFiles) (events ++ [event])) := by
  have last (sink : Sink) : runSink env sink (events ++ [event]) = sinkStep env (runSink env sink events) event := by
    rw [runSink, List.foldl_append]
    rfl
  rw [last] at answered ⊢
  cases running : (startSink env dir rotateMaxBytes rotateKeepFiles).running with
  | false =>
    have stays := stopped_run env (events ++ [event]) running
    rw [last] at stays
    rw [stays, stopped_run env events running] at answered
    exact absurd answered (by simp)
  | true =>
    obtain ⟨early, now⟩ := orderly_run_snoc env events event _ orderly
    obtain ⟨alive, rest⟩ := orderly_run env dir _ events [] _ running (start_at_desk env running) early
    rcases (orderly_step alive rest now).settles with silent | ⟨other, ok, closed, sealed⟩
    · rw [silent] at answered
      exact absurd answered (by simp)
    · rw [closed] at answered
      have same := List.append_cancel_left answered
      exact sealed (Prod.mk.inj (List.cons.inj same).1).2

end Run

theorem answered_flush_sealed_record : ∃ sink,
    runSink plainEnv (startSink plainEnv (emptyDir "log") 1 1) recordedRun = sink ∧ sink.answers = [(7, true)] ∧
      SealedLog plainEnv (emptyDir "log") ChainState.genesis [gapSentinel 0 1] sink := by
  have room : Orderly plainEnv (runSink plainEnv (startSink plainEnv (emptyDir "log") 1 1)
      [.receive (.record (gapSentinel 0 1)), .receive (.flush 7)]) .queueEmpty := by
    change findMaxRotationN _ + 1 < UInt64.size
    decide +kernel
  exact ⟨_, rfl, by decide +kernel, answered_flush_sealed plainEnv (emptyDir "log") 1 1
    [.receive (.record (gapSentinel 0 1)), .receive (.flush 7)] .queueEmpty 7
    ⟨⟨⟨[], rfl, .inl rfl⟩, by decide, fun _ _ _ => rfl⟩, rfl, room, trivial⟩ (by decide +kernel)⟩

def faultyEnv : SinkEnv := { plainEnv with works := fun n => n != 1 }

def overtakenRun : List SinkEvent := [.receive (.flush 7), .receive (.record (gapSentinel 0 1)), .receive (.flush 8)]

theorem empty_log_unsealed (env : SinkEnv) (opened : LogDir) (head : ChainState) (record : AuditRecord) (sink : Sink)
    (files : sink.disk.dir.files = [(activeName, [])]) (kept : ∀ name, FsOp.remove name ∉ sink.disk.journal) :
    ¬ SealedLog env opened head [record] sink := by
  rintro ⟨stamped, same, filed, -⟩
  cases same with
  | cons event rest =>
    rcases filed _ List.mem_cons_self with ⟨name, bytes, -, held, before, after, -, rfl⟩ | ⟨earlier, name, later, bytes, shape, -⟩
    · rw [LogDir.readFile, files, lookup_file_cons] at held
      split at held
      · have empty := congrArg List.length (Option.some.inj held)
        simp [toJsonl] at empty
      · cases held
    · exact kept name (by rw [shape]; simp)

-- Nothing fails and a second flush request, met while the first one drains, is
-- answered Ok before any anchor exists. Or the record's write fails, and the flush
-- after it is answered Ok over an empty log.
theorem flush_answered_early :
    (∃ sink, runSink plainEnv (startSink plainEnv (emptyDir "log") 1 1) overtakenRun = sink ∧ sink.answers = [(8, true)] ∧
      ¬ SealedLog plainEnv (emptyDir "log") ChainState.genesis [gapSentinel 0 1] sink) ∧
    ∃ sink, runSink faultyEnv (startSink faultyEnv (emptyDir "log") 1 1) recordedRun = sink ∧ sink.answers = [(7, true)] ∧
      ¬ SealedLog faultyEnv (emptyDir "log") ChainState.genesis [gapSentinel 0 1] sink := by
  refine ⟨⟨_, rfl, by decide +kernel, ?_⟩, ⟨_, rfl, by decide +kernel, ?_⟩⟩
  · rintro ⟨stamped, -, -, anchor, all, anchored, -⟩
    cases anchored
  · apply empty_log_unsealed
    · decide +kernel
    · have journal : (runSink faultyEnv (startSink faultyEnv (emptyDir "log") 1 1) recordedRun).disk.journal.all
          (fun op => !(op matches .remove _)) = true := by decide +kernel
      intro name member
      have kept := List.all_eq_true.mp journal _ member
      cases kept

end Pkcs11Proxy.Audit
