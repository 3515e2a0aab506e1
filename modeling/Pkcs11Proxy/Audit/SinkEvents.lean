import Pkcs11Proxy.Audit.SinkRun

namespace Pkcs11Proxy.Audit

open Lib

section Events

variable (env : SinkEnv) (fits : Prop) (lawful : env.ext.Lawful) (monotone : fits → ∀ n m, n ≤ m → env.clock n ≤ env.clock m)
  (plan : CrashPlan env)

def Alive (sink : Sink) : Prop := AtRest env fits 0 sink ∨ Dead env sink

def EventTimely (sink : Sink) : SinkEvent → Prop
  | .receive (.record record) => Timely env fits sink.disk.readings record
  | _ => True

variable {sink : Sink} {pre post : Sink → Prop}

theorem alive_after {prog : SinkM Unit}
    (triple : Guarded (Dead env) pre prog fun _ => post) (given : pre sink ∨ Dead env sink) :
    post (runProc prog sink) ∨ Dead env (runProc prog sink) := by
  unfold runProc
  cases ran : prog sink with
  | ok value next =>
    rcases given with holds | dead
    · exact triple.reaches sink value next ran holds
    · exact .inr (triple.stays sink value next ran dead)
  | error error next => exact .inr (triple.fails sink error next ran given)

theorem guarded_answer {ack : Nat} {ok : Bool}
    (step : ∀ sink, pre sink → post { sink with answers := sink.answers ++ [(ack, ok)] }) :
    Guarded (Dead env) pre (answer ack ok) fun _ => post :=
  guarded_modify pre post step fun sink dead => dead_congr env sink rfl (Nat.le_refl _) rfl dead

include monotone in
theorem at_rest_congr (floor : Nat) {next : Sink} (sink : Sink) (disk : next.disk = sink.disk) (writer : next.writer = sink.writer)
    (rest : AtRest env fits floor sink) : AtRest env fits floor next := by
  refine ⟨by rw [disk]; exact rest.1, ?_⟩
  rw [writer]
  exact between_congr monotone sink next _ ⟨by rw [disk], by rw [Sink.view, disk]; rfl, by rw [disk], by rw [writer],
    by rw [writer]⟩ (by rw [writer]) (by rw [writer]) rest.2

include lawful monotone plan

variable {floor : Nat}

theorem guarded_receive {msg : WriterMsg} :
    Guarded (Dead env) (fun sink => (∀ record, msg = .record record → Timely env fits floor record) ∧ AtRest env fits floor sink)
      (receive env msg) fun _ => AtRest env fits floor := by
  refine guarded_get fun read => ?_
  cases msg with
  | record record =>
    refine guarded_ignore (guarded_weaken _ _ ?_ (fun _ _ holds => holds)
      (guarded_record fits lawful monotone plan floor))
    exact fun sink holds => ⟨holds.2.1 record rfl, holds.2.2⟩
  | flush ack =>
    refine guarded_ite (fun _ => ?_) fun _ => ?_
    · exact guarded_answer env fun sink holds => at_rest_congr env fits monotone floor sink rfl rfl holds.2.2
    · exact guarded_modify _ _ (fun sink holds => at_rest_congr env fits monotone floor sink rfl rfl holds.2.2)
        fun sink dead => dead_congr env sink rfl (Nat.le_refl _) rfl dead
  | checkpoint =>
    refine guarded_ite (fun due => guarded_ignore ?_) fun _ => ?_
    · refine guarded_weaken _ _ ?_ (fun _ sink flushed => flushed_at_rest floor flushed)
        (guarded_checkpoint lawful monotone plan floor)
      rintro sink ⟨rfl, -, rest⟩
      refine ⟨rest, fun fit => ?_⟩
      obtain ⟨-, layout, start, before, tail, sealed, inv⟩ := rest
      exact Nat.lt_of_lt_of_le due.2.1 (inv.disk.certified fit).pending
    · exact guarded_pure fun sink holds => holds.2.2

theorem guarded_answered_flush {ack : Nat} :
    Guarded (Dead env) (AtRest env fits floor) (fun sink =>
      match flush env sink with
      | .ok _ next => answer ack true next
      | .error _ next => answer ack false next) fun _ => AtRest env fits floor := by
  have triple := guarded_flush fits lawful monotone plan floor
  have answers (sink : Sink) (ok : Bool) (dead : Dead env sink) : Dead env { sink with answers := sink.answers ++ [(ack, ok)] } :=
    dead_congr env sink rfl (Nat.le_refl _) rfl dead
  refine ⟨fun sink value next ran rest => ?_, fun sink value next ran dead => ?_, fun sink error next ran => ?_⟩
  · cases ended : flush env sink with
    | ok _ final =>
      rw [ended] at ran
      cases ran
      rcases triple.reaches sink _ final ended rest with flushed | dead
      · exact .inl (at_rest_congr env fits monotone floor final rfl rfl (flushed_at_rest floor flushed))
      · exact .inr (answers final true dead)
    | error _ final =>
      rw [ended] at ran
      cases ran
      exact .inr (answers final false (triple.fails sink _ final ended (.inl rest)))
  · cases ended : flush env sink with
    | ok _ final =>
      rw [ended] at ran
      cases ran
      exact answers final true (triple.stays sink _ final ended dead)
    | error _ final =>
      rw [ended] at ran
      cases ran
      exact answers final false (triple.fails sink _ final ended (.inr dead))
  · cases ended : flush env sink with
    | ok | error =>
      rw [ended] at ran
      cases ran

theorem guarded_finish_flush : Guarded (Dead env) (AtRest env fits floor) (finishFlush env) fun _ => AtRest env fits floor := by
  refine guarded_get fun read => ?_
  cases read.flushing with
  | none => exact guarded_pure fun sink holds => holds.2
  | some ack =>
    refine guarded_bind (fun _ => AtRest env fits floor) ?_ fun _ =>
      guarded_answered_flush env fits lawful monotone plan
    exact guarded_modify _ _ (fun sink holds => at_rest_congr env fits monotone floor sink rfl rfl holds.2)
      fun sink dead => dead_congr env sink rfl (Nat.le_refl _) rfl dead

theorem guarded_open (rotateMaxBytes rotateKeepFiles : Nat) :
    Guarded (Dead env) (fun sink => ∃ chain, Shut env fits chain sink) (openWriter env rotateMaxBytes rotateKeepFiles)
      fun _ => AtRest env fits 0 := by
  refine guarded_get fun read => ?_
  cases resumed : reconstructChainState env.ext read.disk.dir with
  | error message =>
    refine guarded_throw ?_
    rintro sink ⟨rfl, chain, shut⟩
    rw [shut_reconstruct lawful shut] at resumed
    cases resumed
  | ok chain =>
    let writer : WriterState := ⟨chain, activeName, ((read.disk.dir.readFile activeName).getD []).length, rotateMaxBytes,
      rotateKeepFiles, 0, 0, 0, 0⟩
    refine guarded_bind (fun _ (sink : Sink) => AtRest env fits 0 { sink with writer := writer }) ?_ fun _ => ?_
    · refine guarded_fs_op plan ?_ ?_
      · rintro sink ⟨rfl, head, shut⟩
        have same : chain = head := by
          rw [shut_reconstruct lawful shut] at resumed
          exact (Except.ok.inj resumed).symm
        exact ⟨_, rfl, .inl (shut_opened monotone shut same rfl rfl rfl rfl)⟩
      · rintro sink ⟨-, head, shut⟩ _
        exact shut_resumes lawful shut
    · exact guarded_set_writer fun sink holds => holds

theorem alive_open {rotateMaxBytes rotateKeepFiles : Nat} (given : (∃ chain, Shut env fits chain sink) ∨ Dead env sink) :
    Alive env fits (openSink env rotateMaxBytes rotateKeepFiles sink) := by
  have triple := guarded_open env fits lawful monotone plan rotateMaxBytes rotateKeepFiles
  unfold openSink
  cases ran : openWriter env rotateMaxBytes rotateKeepFiles sink with
  | ok value next =>
    rcases given with shut | dead
    · rcases triple.reaches sink value next ran shut with rest | dead
      · exact .inl (at_rest_congr env fits monotone 0 next rfl rfl rest)
      · exact .inr (dead_congr env next rfl (Nat.le_refl _) rfl dead)
    · exact .inr (dead_congr env next rfl (Nat.le_refl _) rfl (triple.stays sink value next ran dead))
  | error error next => exact .inr (dead_congr env next rfl (Nat.le_refl _) rfl (triple.fails sink error next ran given))

theorem sink_step_alive {event : SinkEvent} (timely : EventTimely env fits sink event) (alive : Alive env fits sink) :
    Alive env fits (sinkStep env sink event) := by
  unfold sinkStep
  split
  · cases event with
    | receive msg =>
      have given : ((∀ record, msg = .record record → Timely env fits sink.disk.readings record) ∧
          AtRest env fits sink.disk.readings sink) ∨ Dead env sink := by
        rcases alive with rest | dead
        · refine .inl ⟨fun record same => ?_, Nat.le_refl _, rest.2⟩
          rw [same] at timely
          exact timely
        · exact .inr dead
      rcases alive_after env (guarded_receive env fits lawful monotone plan) given with rest | dead
      · exact .inl ⟨Nat.zero_le _, rest.2⟩
      · exact .inr dead
    | queueEmpty => exact alive_after env (guarded_finish_flush env fits lawful monotone plan) alive
    | dropped =>
      refine alive_after env (guarded_set_writer fun sink rest => ?_) alive
      exact ⟨rest.1, between_congr monotone sink _ _ ⟨rfl, rfl, Nat.le_refl _, rfl, rfl⟩ rfl rfl rest.2⟩
    | restart rotateMaxBytes rotateKeepFiles =>
      simp only
      split
      · exact alive
      · refine alive_open env fits lawful monotone plan ?_
        rcases alive_after env (guarded_flush fits lawful monotone plan 0) alive with flushed | dead
        · exact .inl ⟨_, flushed_shut 0 _ flushed⟩
        · exact .inr dead
  · exact alive

theorem boot_alive (path : String) (rotateMaxBytes rotateKeepFiles : Nat) :
    Alive env fits (bootSink env path rotateMaxBytes rotateKeepFiles) := by
  refine alive_open env fits lawful monotone plan (.inl ⟨ChainState.genesis, rfl, ⟨[], none⟩,
    ChainState.genesis, ?_, rfl, rfl, rfl, .inl ⟨rfl, rfl, rfl⟩⟩)
  refine ⟨rfl, List.Pairwise.nil, (by simp), rfl, fun _ => rfl, rfl, (by simp), Nat.two_pow_pos 64, fun _ => ?_⟩
  exact ⟨(by simp [LogLayout.records]), (by simp [LogLayout.records]), Nat.zero_le _, Nat.zero_le _, [], .inl ⟨rfl, rfl⟩, (by simp),
    fun _ _ some => absurd rfl some⟩

def TimelyRun (sink : Sink) : List SinkEvent → Prop
  | [] => True
  | event :: rest => EventTimely env fits sink event ∧ TimelyRun (sinkStep env sink event) rest

theorem run_sink_alive {events : List SinkEvent} (timely : TimelyRun env fits sink events) (alive : Alive env fits sink) :
    Alive env fits (runSink env sink events) := by
  induction events generalizing sink with
  | nil => exact alive
  | cons event rest ih =>
    exact ih timely.2 (sink_step_alive env fits lawful monotone plan timely.1 alive)

end Events

end Pkcs11Proxy.Audit
