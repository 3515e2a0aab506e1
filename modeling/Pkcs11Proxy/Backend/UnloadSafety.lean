import Pkcs11Proxy.Backend.DomainTickets
import Pkcs11Proxy.Backend.LifecycleTracker

namespace Pkcs11Proxy.Backend

open Lib Pkcs11Proxy.Types

def NativeEvent.completesInit : NativeEvent → Bool
  | .initializeReturned _ => true
  | _ => false

def FinalizedSinceInit (history : List NativeEvent) : Prop :=
  ∃ before after, history = before ++ .finalizeReturned .ok :: after ∧ ∀ event ∈ after, event.completesInit = false

variable {history : List NativeEvent} {inner : LifecycleInner} {tracker : LifecycleTracker}
  {run before after : LifecycleRun} {completions : UInt64} {next : LifecycleSystem} {rv : CkRv}

theorem finalized_since_append {event : NativeEvent} (other : event.completesInit = false)
    (finalized : FinalizedSinceInit history) : FinalizedSinceInit (history ++ [event]) := by
  obtain ⟨before, after, rfl, quiet⟩ := finalized
  exact ⟨before, after ++ [event], by simp, forall_added quiet other⟩

theorem finalized_since_finalize : FinalizedSinceInit (history ++ [.finalizeReturned .ok]) :=
  ⟨history, [], rfl, nofun⟩

namespace LifecycleRun

def ticket : LifecycleRun → Option ControlTicket
  | .init (.begun ticket) | .init (.native ticket) | .init (.returned ticket _) | .init (.sampled ticket _)
  | .init (.refused ticket _) | .init (.recorded ticket _) | .init (.publishing ticket _)
  | .finalize (.sealed ticket) | .finalize (.dropping ticket _) | .finalize (.entered ticket) | .finalize (.native ticket _)
  | .finalize (.returned ticket _ _) => some ticket
  | _ => none

def noted : LifecycleRun → Bool
  | .init (.native _) | .init (.returned _ _) | .init (.sampled _ _) | .init (.refused _ _) | .init (.recorded _ _)
  | .init (.publishing _ _) => true
  | _ => false

def uncounted : LifecycleRun → Bool
  | .init (.returned _ _) | .init (.sampled _ _) => true
  | _ => false

def unrecorded : LifecycleRun → Bool
  | .init (.refused _ _) => true
  | run => run.uncounted

def awaited : LifecycleRun → Nat
  | .init (.begun _) | .init (.native _) | .init (.returned _ _) | .init (.sampled _ _) => 1
  | _ => 0

def snapshot : LifecycleRun → Option UInt64
  | .finalize (.native _ completions) | .finalize (.returned _ completions _) => some completions
  | _ => none

def finalizedAt : LifecycleRun → Option UInt64
  | .finalize (.returned _ completions rv) => if rv = .ok then some completions else none
  | _ => none

end LifecycleRun

def ModuleState.exposed : ModuleState → Bool
  | .opened | .draining | .finalizing => true
  | _ => false

structure RunOk (inner : LifecycleInner) (tracker : LifecycleTracker) (run : LifecycleRun) : Prop where
  older : ∀ ticket, run.ticket = some ticket → ticket.epoch.toNat ≤ inner.epoch.toNat
  exposed : ∀ ticket, run.ticket = some ticket → ticket.epoch = inner.epoch → ticket.prior = .opened ∨ run.noted = true →
    tracker.initAttemptedSinceFinalize = true
  counted : ∀ completions, run.snapshot = some completions → completions.toNat ≤ tracker.initCompletions.toNat

structure UnloadInv (system : LifecycleSystem) : Prop where
  runs : ∀ run ∈ system.runs, RunOk system.inner system.tracker run
  exposed : system.inner.state.exposed = true → system.tracker.initAttemptedSinceFinalize = true
  attempted : .initializeEntered ∈ system.history → system.tracker.initAttempted = true
  counts : system.tracker.initCompletions.toNat + total LifecycleRun.awaited system.runs ≤ system.inner.epoch.toNat
  fresh : system.tracker.finalizedOk = true → system.tracker.initAttemptedSinceFinalize = false →
    FinalizedSinceInit system.history ∨ ∃ run ∈ system.runs, run.unrecorded = true
  settled : ∀ run ∈ system.runs, ∀ completions, run.finalizedAt = some completions → system.tracker.initCompletions = completions →
    FinalizedSinceInit system.history ∨ ∃ other ∈ system.runs, other.uncounted = true

theorem unload_inv_new : UnloadInv LifecycleSystem.new where
  runs run member := by cases member
  exposed exposed := by cases exposed
  attempted member := by cases member
  counts := by decide
  fresh finalized := by cases finalized
  settled run member := by cases member

theorem run_ok_mono {inner' : LifecycleInner} {tracker' : LifecycleTracker} (ok : RunOk inner tracker run)
    (epochs : inner.epoch.toNat ≤ inner'.epoch.toNat)
    (kept : inner'.epoch = inner.epoch → tracker.initAttemptedSinceFinalize = true → tracker'.initAttemptedSinceFinalize = true)
    (counts : tracker.initCompletions.toNat ≤ tracker'.initCompletions.toNat) : RunOk inner' tracker' run where
  older ticket held := Nat.le_trans (ok.older ticket held) epochs
  exposed ticket held current cause := by
    have bound := ok.older ticket held
    have same : inner'.epoch = inner.epoch := UInt64.toNat_inj.mp (by rw [← current] at epochs ⊢; omega)
    exact kept same (ok.exposed ticket held (current.trans same) cause)
  counted completions held := Nat.le_trans (ok.counted completions held) counts

structure RunMove (system next : LifecycleSystem) (before after : LifecycleRun) : Prop where
  epochs : system.inner.epoch.toNat ≤ next.inner.epoch.toNat
  kept : next.inner.epoch = system.inner.epoch → system.tracker.initAttemptedSinceFinalize = true →
    next.tracker.initAttemptedSinceFinalize = true
  counts : system.tracker.initCompletions.toNat ≤ next.tracker.initCompletions.toNat
  own : RunOk next.inner next.tracker after
  exposed : next.inner.state.exposed = true → next.tracker.initAttemptedSinceFinalize = true
  attempted : .initializeEntered ∈ next.history → next.tracker.initAttempted = true
  balance : next.tracker.initCompletions.toNat + after.awaited + system.inner.epoch.toNat ≤
    next.inner.epoch.toNat + system.tracker.initCompletions.toNat + before.awaited
  fresh : next.tracker.finalizedOk = true → next.tracker.initAttemptedSinceFinalize = false →
    after.unrecorded = true ∨
      before.unrecorded = false ∧ (FinalizedSinceInit next.history ∨ ∃ other ∈ system.runs, other.unrecorded = true)
  settled : after.uncounted = true ∨ FinalizedSinceInit next.history ∨
    (system.tracker.initCompletions.toNat < next.tracker.initCompletions.toNat ∧ after.finalizedAt = none) ∨
    (next.tracker.initCompletions = system.tracker.initCompletions ∧ before.uncounted = false ∧ after.finalizedAt = none ∧
      (FinalizedSinceInit system.history → FinalizedSinceInit next.history))

theorem finalized_at_snapshot (finalized : run.finalizedAt = some completions) :
    run.snapshot = some completions := by
  unfold LifecycleRun.finalizedAt at finalized
  split at finalized
  · split at finalized
    · exact finalized
    · cases finalized
  · cases finalized

variable {system : LifecycleSystem}

theorem unload_inv_move {k : Nat} (inv : UnloadInv system)
    (held : system.runs[k]? = some before) (move : RunMove system next before after) :
    UnloadInv { next with runs := system.runs.set k after } where
  runs := forall_set (fun run old => run_ok_mono (inv.runs run old) move.epochs move.kept move.counts) move.own
  exposed := move.exposed
  attempted := move.attempted
  counts := by
    have weight := total_set LifecycleRun.awaited after held
    have bound := inv.counts
    have balance := move.balance
    change next.tracker.initCompletions.toNat + total LifecycleRun.awaited (system.runs.set k after) ≤ next.inner.epoch.toNat
    omega
  fresh finalized exposure := by
    rcases move.fresh finalized exposure with mine | ⟨quiet, done | others⟩
    · exact .inr ⟨after, slot_placed held, mine⟩
    · exact .inl done
    · exact .inr ((exists_set held others).resolve_left (Bool.eq_false_iff.mp quiet))
  settled run member completions finalized counted := by
    rcases move.settled with mine | done | ⟨grown, none⟩ | ⟨same, quiet, none, grows⟩
    · exact .inr ⟨after, slot_placed held, mine⟩
    · exact .inl done
    · rcases List.mem_or_eq_of_mem_set member with old | rfl
      · have bound := (inv.runs run old).counted completions (finalized_at_snapshot finalized)
        rw [counted] at grown
        omega
      · rw [none] at finalized
        cases finalized
    · rcases List.mem_or_eq_of_mem_set member with old | rfl
      · rcases inv.settled run old completions finalized (same.symm.trans counted) with done | others
        · exact .inl (grows done)
        · exact .inr ((exists_set held others).resolve_left (Bool.eq_false_iff.mp quiet))
      · rw [none] at finalized
        cases finalized

theorem abandon_epochs (inner : LifecycleInner) (ticket : ControlTicket) :
    inner.epoch.toNat ≤ (inner.abandonRaw ticket).1.epoch.toNat := by
  rw [LifecycleInner.abandonRaw]
  split
  · cases next : nextEpoch inner.epoch with
    | none => exact Nat.le_refl _
    | some epoch =>
      have moved := next_epoch_some next
      simp only [Option.getD_some]
      omega
  · exact Nat.le_refl _

variable {ticket : ControlTicket}

theorem abandon_exposed (exposed : (inner.abandonRaw ticket).1.state.exposed = true) :
    inner.state.exposed = true ∨ ticket.epoch = inner.epoch ∧ ticket.prior = .opened := by
  rw [LifecycleInner.abandonRaw] at exposed
  split at exposed
  · rename_i current
    refine .inr ⟨current.symm, ?_⟩
    cases prior : ticket.prior <;> simp [LifecycleInner.restored, prior, ModuleState.working, ModuleState.exposed] at exposed ⊢
  · exact .inl exposed

theorem begin_initialize_ok {next : LifecycleInner} (begun : inner.beginInitialize = .ok (next, ticket)) :
    next.state = .initializing ∧ next.epoch.toNat = inner.epoch.toNat + 1 ∧ ticket = ⟨inner.state, next.epoch⟩ := by
  rw [LifecycleInner.beginInitialize, LifecycleInner.consumeEpoch] at begun
  split at begun
  · cases begun
  · cases begun
  · split at begun
    · rename_i epoch consumed
      cases begun
      exact ⟨rfl, next_epoch_some consumed, rfl⟩
    · cases begun

theorem begin_finalize_ok {next : LifecycleInner} (begun : inner.beginFinalize = .ok (next, ticket)) :
    inner.state = .opened ∧ next.epoch.toNat = inner.epoch.toNat + 1 ∧ ticket = ⟨inner.state, next.epoch⟩ := by
  rw [LifecycleInner.beginFinalize, LifecycleInner.consumeEpoch] at begun
  split at begun
  · rename_i opened
    split at begun
    · rename_i epoch consumed
      cases begun
      exact ⟨opened, next_epoch_some consumed, rfl⟩
    · cases begun
  · cases begun
  · cases begun

theorem settle_publish_cases (current published : ModuleState) (inner : LifecycleInner) (ticket : ControlTicket) :
    ((LifecycleInner.settlePublishFrom current published inner ticket).1 = inner ∨
        (LifecycleInner.settlePublishFrom current published inner ticket).1 = ⟨.uncertain, inner.epoch⟩) ∧
      (LifecycleInner.settlePublishFrom current published inner ticket).2 = .generalError ∨
    ∃ epoch, epoch.toNat = inner.epoch.toNat + 1 ∧ ticket.epoch = inner.epoch ∧ inner.state = current ∧
      LifecycleInner.settlePublishFrom current published inner ticket = (⟨published, epoch⟩, .ok) := by
  rw [LifecycleInner.settlePublishFrom]
  split
  · exact .inl ⟨.inl rfl, rfl⟩
  · rename_i fresh
    obtain ⟨same, state⟩ := not_or.mp fresh
    cases next : nextEpoch inner.epoch with
    | none => exact .inl ⟨.inr rfl, rfl⟩
    | some epoch =>
      exact .inr ⟨epoch, next_epoch_some next, (not_not.mp same).symm, not_not.mp state, rfl⟩

theorem run_ok_bare (inner : LifecycleInner) (tracker : LifecycleTracker) (run : LifecycleRun) (ticket : run.ticket = none)
    (snapshot : run.snapshot = none) : RunOk inner tracker run where
  older token held := by
    rw [ticket] at held
    cases held
  exposed token held := by
    rw [ticket] at held
    cases held
  counted completions held := by
    rw [snapshot] at held
    cases held

theorem run_ok_same (ok : RunOk inner tracker before)
    (ticket : after.ticket = before.ticket) (noted : after.noted = true → before.noted = true)
    (snapshot : ∀ completions, after.snapshot = some completions → before.snapshot = some completions) : RunOk inner tracker after where
  older token held := ok.older token (ticket.symm.trans held)
  exposed token held current cause := ok.exposed token (ticket.symm.trans held) current (cause.imp_right noted)
  counted completions held := ok.counted completions (snapshot completions held)

structure InitNoted (tracker next : LifecycleTracker) (refusal : Option LifecycleRefusal) : Prop where
  completions : next.initCompletions = tracker.initCompletions + 1
  attempted : next.initAttempted = tracker.initAttempted
  exposure : next.initAttemptedSinceFinalize = tracker.initAttemptedSinceFinalize
  finalized : refusal = none → next.finalizedOk = false

theorem init_noted (tracker : LifecycleTracker) : InitNoted tracker tracker.noteInitialized.1 tracker.noteInitialized.2 := by
  rw [LifecycleTracker.noteInitialized]
  split
  · exact ⟨rfl, rfl, rfl, nofun⟩
  split
  · split
    · exact ⟨rfl, rfl, rfl, nofun⟩
    · exact ⟨rfl, rfl, rfl, fun _ => rfl⟩
  · rename_i reaffirmed
    refine ⟨rfl, rfl, rfl, fun _ => ?_⟩
    simp only [LifecycleTracker.newCycle, Bool.or_eq_true, not_or, Bool.not_eq_true] at reaffirmed
    exact reaffirmed.2

section Moves

variable {system : LifecycleSystem} (inv : UnloadInv system)

def SameEvidence (tracker tracker' : LifecycleTracker) : Prop :=
  tracker'.initAttempted = tracker.initAttempted ∧ tracker'.initAttemptedSinceFinalize = tracker.initAttemptedSinceFinalize ∧
    tracker'.finalizedOk = tracker.finalizedOk ∧ tracker'.initCompletions = tracker.initCompletions

theorem init_refused_move {refusal : LifecycleRefusal} :
    RunMove system
      { system with inner := (system.inner.abandonRaw ticket).1, tracker := system.tracker.noteInitAttempted }
      (.init (.refused ticket refusal)) (.init (.finished rv)) where
  epochs := abandon_epochs system.inner ticket
  kept _ _ := rfl
  counts := Nat.le_refl _
  own := run_ok_bare _ _ _ rfl rfl
  exposed _ := rfl
  attempted _ := rfl
  balance := by
    have epochs := abandon_epochs system.inner ticket
    change system.tracker.initCompletions.toNat + 0 + _ ≤ (system.inner.abandonRaw ticket).1.epoch.toNat + _ + 0
    omega
  fresh _ exposure := by cases exposure
  settled := .inr (.inr (.inr ⟨rfl, rfl, rfl, id⟩))

include inv

theorem move_domain (same : SameEvidence system.tracker tracker) (epochs : system.inner.epoch.toNat ≤ inner.epoch.toNat)
    (exposed : inner.state.exposed = true → system.tracker.initAttemptedSinceFinalize = true) (own : RunOk inner tracker after)
    (awaited : after.awaited + system.inner.epoch.toNat ≤ inner.epoch.toNat + before.awaited)
    (unrecorded : before.unrecorded = after.unrecorded) (uncounted : before.uncounted = after.uncounted)
    (finalized : after.finalizedAt = none) : RunMove system { system with inner := inner, tracker := tracker } before after := by
  obtain ⟨attempted, exposure, finalizedOk, completions⟩ := same
  refine ⟨epochs, fun _ => ?_, ?_, own, fun live => ?_, fun entered => ?_, ?_, fun wasFinalized wasExposed => ?_, ?_⟩
  · exact exposure.trans
  · exact Nat.le_of_eq (congrArg UInt64.toNat completions.symm)
  · exact exposure.trans (exposed live)
  · exact attempted.trans (inv.attempted entered)
  · rw [completions]
    change _ ≤ inner.epoch.toNat + _ + _
    omega
  · cases mine : after.unrecorded with
    | true => exact .inl rfl
    | false => exact .inr ⟨unrecorded.trans mine, inv.fresh (finalizedOk.symm.trans wasFinalized) (exposure.symm.trans wasExposed)⟩
  · cases mine : after.uncounted with
    | true => exact .inl rfl
    | false => exact .inr (.inr (.inr ⟨completions, uncounted.trans mine, finalized, id⟩))

theorem move_still (own : RunOk system.inner system.tracker after)
    (awaited : after.awaited ≤ before.awaited) (unrecorded : before.unrecorded = after.unrecorded)
    (uncounted : before.uncounted = after.uncounted) (finalized : after.finalizedAt = none) : RunMove system system before after :=
  move_domain inv ⟨rfl, rfl, rfl, rfl⟩ (Nat.le_refl _) inv.exposed own (by omega)
    unrecorded uncounted finalized

-- The number of counted completions and pending initializations is bounded by the
-- epochs consumed, so the counter cannot wrap.
theorem completions_next (member : run ∈ system.runs) (awaited : run.awaited = 1) :
    (system.tracker.initCompletions + 1).toNat = system.tracker.initCompletions.toNat + 1 := by
  have weight := weight_le_total LifecycleRun.awaited member
  have bound := inv.counts
  have word := system.inner.epoch.toNat_lt
  rw [UInt64.toNat_add, UInt64.toNat_one, Nat.mod_eq_of_lt (by omega)]

theorem init_begun_move (begun : system.inner.beginInitialize = .ok (inner, ticket)) :
    RunMove system { system with inner := inner } (.init .beginning) (.init (.begun ticket)) := by
  obtain ⟨state, moved, rfl⟩ := begin_initialize_ok begun
  refine move_domain inv ⟨rfl, rfl, rfl, rfl⟩ (by omega) (fun live => ?_) ⟨?_, ?_, ?_⟩ ?_ rfl rfl rfl
  · rw [state] at live
    cases live
  · intro token held
    cases held
    exact Nat.le_refl _
  · intro token held current cause
    cases held
    rcases cause with opened | noted
    · exact inv.exposed (by rw [show system.inner.state = .opened from opened]; rfl)
    · cases noted
  · intro completions held
    cases held
  · change 1 + system.inner.epoch.toNat ≤ inner.epoch.toNat + 0
    omega

theorem init_entered_move (member : .init (.begun ticket) ∈ system.runs) :
    RunMove system
      { system with tracker := system.tracker.noteInitAttempted, history := system.history ++ [.initializeEntered] }
      (.init (.begun ticket)) (.init (.native ticket)) where
  epochs := Nat.le_refl _
  kept _ _ := rfl
  counts := Nat.le_refl _
  own := ⟨(inv.runs _ member).older, fun _ _ _ _ => rfl, nofun⟩
  exposed _ := rfl
  attempted _ := rfl
  balance := by
    change system.tracker.initCompletions.toNat + 1 + _ ≤ system.inner.epoch.toNat + _ + 1
    omega
  fresh _ exposure := by cases exposure
  settled := .inr (.inr (.inr ⟨rfl, rfl, rfl, finalized_since_append rfl⟩))

theorem init_returned_move (member : .init (.native ticket) ∈ system.runs) :
    RunMove system { system with history := system.history ++ [.initializeReturned rv] } (.init (.native ticket))
      (.init (.returned ticket rv)) where
  epochs := Nat.le_refl _
  kept _ exposure := exposure
  counts := Nat.le_refl _
  own := run_ok_same (inv.runs _ member) rfl id nofun
  exposed := inv.exposed
  attempted entered := by
    rcases List.mem_append.mp entered with old | new
    · exact inv.attempted old
    · cases List.mem_singleton.mp new
  balance := by
    change system.tracker.initCompletions.toNat + 1 + _ ≤ system.inner.epoch.toNat + _ + 1
    omega
  fresh _ _ := .inl rfl
  settled := .inl rfl

theorem init_failed_move (member : .init (.returned ticket rv) ∈ system.runs) :
    RunMove system
      { system with inner := (system.inner.abandonRaw ticket).1, tracker := system.tracker.noteInitNativeFailed }
      (.init (.returned ticket rv)) (.init (.finished rv)) := by
  have counted := completions_next inv member rfl
  have epochs := abandon_epochs system.inner ticket
  refine ⟨epochs, fun _ _ => rfl, ?_, run_ok_bare _ _ _ rfl rfl, fun _ => rfl, fun _ => rfl, ?_, nofun,
    .inr (.inr (.inl ⟨?_, rfl⟩))⟩
  · change _ ≤ (system.tracker.initCompletions + 1).toNat
    omega
  · change (system.tracker.initCompletions + 1).toNat + 0 + _ ≤ (system.inner.abandonRaw ticket).1.epoch.toNat + _ + 1
    omega
  · change _ < (system.tracker.initCompletions + 1).toNat
    omega

theorem init_noted_move {generation : UInt64}
    (member : .init (.sampled ticket generation) ∈ system.runs) (same : after.ticket = some ticket) (awaited : after.awaited = 0)
    (snapshot : after.snapshot = none) (outcome : after.unrecorded = true ∨ system.tracker.noteInitialized.1.finalizedOk = false) :
    RunMove system { system with tracker := system.tracker.noteInitialized.1 } (.init (.sampled ticket generation)) after := by
  have counted := completions_next inv member rfl
  have noted := init_noted system.tracker
  have ok := inv.runs _ member
  have finalized : after.finalizedAt = none := by
    cases at_ : after.finalizedAt with
    | none => rfl
    | some completions =>
      rw [finalized_at_snapshot at_] at snapshot
      cases snapshot
  have grown : system.tracker.noteInitialized.1.initCompletions.toNat = system.tracker.initCompletions.toNat + 1 := by
    rw [noted.completions]
    exact counted
  have larger : system.tracker.initCompletions.toNat < system.tracker.noteInitialized.1.initCompletions.toNat := by omega
  refine ⟨Nat.le_refl _, fun _ exposure => noted.exposure.trans exposure, Nat.le_of_lt larger, ⟨?_, ?_, ?_⟩,
    fun live => noted.exposure.trans (inv.exposed live), fun entered => noted.attempted.trans (inv.attempted entered), ?_,
    fun wasFinalized _ => ?_, .inr (.inr (.inl ⟨larger, finalized⟩))⟩
  · intro token held
    exact ok.older token (same.symm.trans held)
  · intro token held current _
    exact noted.exposure.trans (ok.exposed token (same.symm.trans held) current (.inr rfl))
  · intro completions held
    rw [snapshot] at held
    cases held
  · rw [awaited, grown]
    change _ ≤ system.inner.epoch.toNat + system.tracker.initCompletions.toNat + 1
    omega
  · rcases outcome with unrecorded | cleared
    · exact .inl unrecorded
    · cases cleared.symm.trans wasFinalized

theorem init_published_move {changed : Bool} (member : .init (.publishing ticket changed) ∈ system.runs) :
    RunMove system { system with inner := (LifecycleInner.settlePublish .init system.inner ticket).1 }
      (.init (.publishing ticket changed)) (.init (.finished rv)) := by
  have bare := fun inner => run_ok_bare inner system.tracker (.init (.finished rv)) rfl rfl
  rw [LifecycleInner.settlePublish]
  rcases settle_publish_cases .initializing .opened system.inner ticket with ⟨kept | closed, -⟩ | ⟨epoch, moved, current, -, landed⟩
  · rw [kept]
    exact move_still inv (bare _) (Nat.le_refl _) rfl rfl rfl
  · rw [closed]
    exact move_domain inv ⟨rfl, rfl, rfl, rfl⟩ (Nat.le_refl _) (fun live => by cases live) (bare _)
      (Nat.le_of_eq (Nat.add_comm _ _)) rfl rfl rfl
  · rw [landed]
    refine move_domain inv ⟨rfl, rfl, rfl, rfl⟩ (by change _ ≤ epoch.toNat; omega)
      (fun _ => (inv.runs _ member).exposed ticket rfl current (.inr rfl)) (bare _) ?_ rfl rfl rfl
    change 0 + system.inner.epoch.toNat ≤ epoch.toNat + 0
    omega

theorem finalize_sealed_move (begun : system.inner.beginFinalize = .ok (inner, ticket)) :
    RunMove system { system with inner := inner } (.finalize .sealing) (.finalize (.sealed ticket)) := by
  obtain ⟨opened, moved, rfl⟩ := begin_finalize_ok begun
  have exposure := inv.exposed (by rw [opened]; rfl)
  refine move_domain inv ⟨rfl, rfl, rfl, rfl⟩ (by omega) (fun _ => exposure) ⟨?_, ?_, ?_⟩ ?_ rfl rfl rfl
  · intro token held
    cases held
    exact Nat.le_refl _
  · intro token held current cause
    exact exposure
  · intro completions held
    cases held
  · change 0 + system.inner.epoch.toNat ≤ inner.epoch.toNat + 0
    omega

theorem finalize_entered_move (member : .finalize (.sealed ticket) ∈ system.runs)
    (entered : system.inner.enterFinalizing ticket = .ok inner) :
    RunMove system { system with inner := inner } (.finalize (.sealed ticket)) (.finalize (.entered ticket)) := by
  rw [LifecycleInner.enterFinalizing] at entered
  split at entered
  · cases entered
  rename_i fresh
  cases entered
  have draining : system.inner.state = .draining := not_not.mp (not_or.mp fresh).2
  have exposure := inv.exposed (by rw [draining]; rfl)
  have ok := inv.runs _ member
  exact move_domain inv ⟨rfl, rfl, rfl, rfl⟩ (Nat.le_refl _) (fun _ => exposure)
    ⟨ok.older, fun _ _ _ _ => exposure, fun completions held => by cases held⟩ (Nat.le_of_eq (Nat.add_comm _ _)) rfl rfl rfl

theorem finalize_abandoned_move
    (member : before ∈ system.runs) (holds : before.ticket = some ticket) (same : SameEvidence system.tracker tracker)
    (awaited : before.awaited = 0) (recorded : before.unrecorded = false) (counted : before.uncounted = false) :
    RunMove system { system with inner := (system.inner.abandonRaw ticket).1, tracker := tracker } before (.finalize (.finished rv)) := by
  have epochs := abandon_epochs system.inner ticket
  refine move_domain inv same epochs (fun live => ?_) (run_ok_bare _ _ _ rfl rfl) ?_ recorded counted rfl
  · rcases abandon_exposed live with exposed | ⟨current, opened⟩
    · exact inv.exposed exposed
    · exact (inv.runs _ member).exposed ticket holds current (.inl opened)
  · rw [awaited]
    change 0 + system.inner.epoch.toNat ≤ (system.inner.abandonRaw ticket).1.epoch.toNat + 0
    omega

theorem finalize_returned_move (member : .finalize (.native ticket completions) ∈ system.runs) :
    RunMove system { system with history := system.history ++ [.finalizeReturned rv] } (.finalize (.native ticket completions))
      (.finalize (.returned ticket completions rv)) where
  epochs := Nat.le_refl _
  kept _ exposure := exposure
  counts := Nat.le_refl _
  own := run_ok_same (inv.runs _ member) rfl id fun _ held => held
  exposed := inv.exposed
  attempted entered := by
    rcases List.mem_append.mp entered with old | new
    · exact inv.attempted old
    · cases List.mem_singleton.mp new
  balance := by
    change system.tracker.initCompletions.toNat + 0 + _ ≤ system.inner.epoch.toNat + _ + 0
    omega
  fresh finalized exposure := .inr ⟨rfl, (inv.fresh finalized exposure).imp_left (finalized_since_append rfl)⟩
  settled := by
    by_cases succeeded : rv = .ok
    · rw [succeeded]
      exact .inr (.inl finalized_since_finalize)
    · exact .inr (.inr (.inr ⟨rfl, rfl, if_neg succeeded, finalized_since_append rfl⟩))

-- The exposure is cleared only if no initialization was counted since the seal, and
-- then the native Finalize came after every completion that has been counted.
theorem finalize_published_move (member : .finalize (.returned ticket completions .ok) ∈ system.runs) {epoch : UInt64}
    (moved : epoch.toNat = system.inner.epoch.toNat + 1) (finalizing : system.inner.state = .finalizing) :
    RunMove system
      { system with inner := ⟨.finalized, epoch⟩, tracker := system.tracker.noteFinalizedBounded completions }
      (.finalize (.returned ticket completions .ok)) (.finalize (.finished .ok)) where
  epochs := by
    change _ ≤ epoch.toNat
    omega
  kept same := by
    rw [show epoch = system.inner.epoch from same] at moved
    omega
  counts := Nat.le_refl _
  own := run_ok_bare _ _ _ rfl rfl
  exposed live := by cases live
  attempted := inv.attempted
  balance := by
    change system.tracker.initCompletions.toNat + 0 + _ ≤ epoch.toNat + _ + 0
    omega
  fresh _ cleared := by
    have exposure := inv.exposed (by rw [finalizing]; rfl)
    change (system.tracker.initAttemptedSinceFinalize && system.tracker.initCompletions != completions) = false at cleared
    rw [exposure, Bool.true_and] at cleared
    have counted : system.tracker.initCompletions = completions := by simpa using cleared
    rcases inv.settled _ member completions rfl counted with done | ⟨other, inside, uncounted⟩
    · exact .inr ⟨rfl, .inl done⟩
    · refine .inr ⟨rfl, .inr ⟨other, inside, ?_⟩⟩
      unfold LifecycleRun.unrecorded
      split
      · rfl
      · exact uncounted
  settled := .inr (.inr (.inr ⟨rfl, rfl, rfl, id⟩))

theorem advance_init_move {run after : InitRun} (member : .init run ∈ system.runs)
    (taken : advanceInit system rv run = some (next, after)) : RunMove system next (.init run) (.init after) := by
  have bare := fun run ticket snapshot => run_ok_bare system.inner system.tracker run ticket snapshot
  cases run with
  | checking =>
    rw [advanceInit] at taken
    split at taken <;> cases taken <;> exact move_still inv (bare _ rfl rfl) (Nat.le_refl _) rfl rfl rfl
  | beginning =>
    rw [advanceInit] at taken
    split at taken
    · rename_i inner ticket begun
      cases taken
      exact init_begun_move inv begun
    · cases taken
      exact move_still inv (bare _ rfl rfl) (Nat.le_refl _) rfl rfl rfl
  | begun ticket =>
    cases taken
    exact init_entered_move inv member
  | native ticket =>
    cases taken
    exact init_returned_move inv member
  | returned ticket answer =>
    rw [advanceInit] at taken
    split at taken
    · cases taken
      exact move_still inv (run_ok_same (inv.runs _ member) rfl id fun _ held => held) (Nat.le_refl _) rfl rfl rfl
    · cases taken
      exact init_failed_move inv member
  | sampled ticket generation =>
    rw [advanceInit] at taken
    dsimp only at taken
    split at taken
    · cases taken
      exact init_noted_move inv member rfl rfl rfl (.inl rfl)
    · rename_i recorded
      cases taken
      exact init_noted_move inv member rfl rfl rfl (.inr ((init_noted system.tracker).finalized recorded))
  | refused ticket refusal =>
    cases taken
    exact init_refused_move
  | recorded ticket generation =>
    cases taken
    exact move_still inv (run_ok_same (inv.runs _ member) rfl id fun _ held => held) (Nat.le_refl _) rfl rfl rfl
  | publishing ticket changed =>
    cases taken
    exact init_published_move inv member
  | finished rv => cases taken

theorem advance_finalize_move {run after : FinalizeRun} (member : .finalize run ∈ system.runs)
    (taken : advanceFinalize system rv run = some (next, after)) : RunMove system next (.finalize run) (.finalize after) := by
  have bare := fun run ticket snapshot => run_ok_bare system.inner system.tracker run ticket snapshot
  cases run with
  | sealing =>
    rw [advanceFinalize] at taken
    split at taken
    · rename_i inner ticket begun
      cases taken
      exact finalize_sealed_move inv begun
    · cases taken
      exact move_still inv (bare _ rfl rfl) (Nat.le_refl _) rfl rfl rfl
  | sealed ticket =>
    rw [advanceFinalize] at taken
    split at taken
    · rename_i inner entered
      cases taken
      exact finalize_entered_move inv member entered
    · cases taken
      exact move_still inv (run_ok_same (inv.runs _ member) rfl id fun _ held => held) (Nat.le_refl _) rfl rfl rfl
  | dropping ticket answer =>
    cases taken
    exact finalize_abandoned_move inv member rfl ⟨rfl, rfl, rfl, rfl⟩ rfl rfl rfl
  | entered ticket =>
    cases taken
    have ok := inv.runs _ member
    refine move_still inv ⟨ok.older, ok.exposed, fun completions held => ?_⟩ (Nat.le_refl _) rfl rfl rfl
    cases held
    exact Nat.le_refl _
  | native ticket completions =>
    cases taken
    exact finalize_returned_move inv member
  | returned ticket completions answer =>
    rw [advanceFinalize] at taken
    split at taken
    · rename_i succeeded
      subst succeeded
      have outcome := settle_publish_cases .finalizing .finalized system.inner ticket
      rw [LifecycleInner.settlePublish] at taken
      rcases published : LifecycleInner.settlePublishFrom .finalizing .finalized system.inner ticket with ⟨inner, answer⟩
      rw [published] at outcome taken
      rcases outcome with ⟨kept | closed, refused⟩ | ⟨epoch, moved, -, finalizing, landed⟩
      · cases kept
        cases refused
        cases taken
        exact move_still inv (bare _ rfl rfl) (Nat.le_refl _) rfl rfl rfl
      · cases closed
        cases refused
        cases taken
        exact move_domain inv ⟨rfl, rfl, rfl, rfl⟩ (Nat.le_refl _) (fun live => by cases live)
          (run_ok_bare _ _ _ rfl rfl) (Nat.le_of_eq (Nat.add_comm _ _)) rfl rfl rfl
      · cases landed
        cases taken
        exact finalize_published_move inv member moved finalizing
    · cases taken
      refine finalize_abandoned_move inv member rfl ?_ rfl rfl rfl
      split <;> exact ⟨rfl, rfl, rfl, rfl⟩
  | finished rv => cases taken

theorem advance_run_move (member : run ∈ system.runs)
    (taken : advanceRun system rv run = some (next, after)) : RunMove system next run after := by
  cases run with
  | init run =>
    obtain ⟨⟨next', after'⟩, advanced, same⟩ := Option.map_eq_some_iff.mp taken
    cases same
    exact advance_init_move inv member advanced
  | finalize run =>
    obtain ⟨⟨next', after'⟩, advanced, same⟩ := Option.map_eq_some_iff.mp taken
    cases same
    exact advance_finalize_move inv member advanced

end Moves

theorem unload_inv_call (inv : UnloadInv system) (ticketless : run.ticket = none)
    (bare : run.snapshot = none) (idle : run.awaited = 0) (unfinished : run.finalizedAt = none) :
    UnloadInv { system with runs := system.runs ++ [run] } where
  runs := forall_added inv.runs (run_ok_bare _ _ run ticketless bare)
  exposed := inv.exposed
  attempted := inv.attempted
  counts := by
    rw [total_append, total_cons, total_nil, idle]
    exact inv.counts
  fresh finalized exposure := by
    rcases inv.fresh finalized exposure with done | ⟨other, member, unrecorded⟩
    · exact .inl done
    · exact .inr ⟨other, List.mem_append_left _ member, unrecorded⟩
  settled other member completions finalized counted := by
    rcases List.mem_append.mp member with old | new
    · rcases inv.settled other old completions finalized counted with done | ⟨third, inside, uncounted⟩
      · exact .inl done
      · exact .inr ⟨third, List.mem_append_left _ inside, uncounted⟩
    · rw [List.mem_singleton.mp new, unfinished] at finalized
      cases finalized

theorem unload_inv_sessions (inv : UnloadInv system)
    (same : SameEvidence system.tracker tracker) : UnloadInv { system with tracker := tracker } := by
  obtain ⟨attempted, exposure, finalizedOk, completions⟩ := same
  refine ⟨fun run member => ?_, fun live => ?_, fun entered => ?_, ?_, fun finalized exposed => ?_, fun run member count finalized counted => ?_⟩
  · exact run_ok_mono (inv.runs run member) (Nat.le_refl _) (fun _ => exposure.trans)
      (Nat.le_of_eq (congrArg UInt64.toNat completions.symm))
  · exact exposure.trans (inv.exposed live)
  · exact attempted.trans (inv.attempted entered)
  · rw [completions]
    exact inv.counts
  · exact inv.fresh (finalizedOk.symm.trans finalized) (exposure.symm.trans exposed)
  · exact inv.settled run member count finalized (completions.symm.trans counted)

theorem unload_inv_step {action : LifecycleAction} (inv : UnloadInv system)
    (taken : lifecycleStep system action = some next) : UnloadInv next := by
  cases action with
  | callInit | callFinalize =>
    cases taken
    exact unload_inv_call inv rfl rfl rfl rfl
  | advance k rv =>
    obtain ⟨run, held, advanced⟩ := Option.bind_eq_some_iff.mp taken
    obtain ⟨⟨next', after⟩, moved, same⟩ := Option.map_eq_some_iff.mp advanced
    cases same
    exact unload_inv_move inv held
      (advance_run_move inv (List.mem_of_getElem? held) moved)
  | sessionOpened =>
    cases taken
    exact unload_inv_sessions inv ⟨rfl, rfl, rfl, rfl⟩
  | sessionsClosed count exchanged =>
    cases taken
    refine unload_inv_sessions inv ?_
    unfold LifecycleTracker.noteSessionsClosed
    split <;> exact ⟨rfl, rfl, rfl, rfl⟩

def LifecycleRun.isFinished : LifecycleRun → Bool
  | .init (.finished _) | .finalize (.finished _) => true
  | _ => false

theorem finished_recorded (finished : run.isFinished = true) : run.unrecorded = false := by
  unfold LifecycleRun.isFinished at finished
  split at finished
  · rfl
  · rfl
  · cases finished

theorem release_evidence (released : tracker.retirementDecision = .release) :
    tracker.initAttempted = false ∨ tracker.finalizedOk = true ∧ tracker.initAttemptedSinceFinalize = false := by
  rw [LifecycleTracker.retirementDecision] at released
  split at released
  · rename_i evidence
    simp only [Bool.and_eq_true, Bool.or_eq_true, Bool.not_eq_true'] at evidence
    exact evidence.1.imp And.left id
  · cases released

theorem release_unexposed_or_finalized {actions : List LifecycleAction} {final : LifecycleSystem}
    (ran : exec lifecycleStep LifecycleSystem.new actions = some final) (idle : ∀ run ∈ final.runs, run.isFinished = true)
    (released : final.tracker.retirementDecision = .release) :
    .initializeEntered ∉ final.history ∨ FinalizedSinceInit final.history := by
  have inv := exec_invariant lifecycleStep UnloadInv (fun system action next => unload_inv_step) unload_inv_new ran
  rcases release_evidence released with never | ⟨finalized, unexposed⟩
  · refine .inl fun entered => ?_
    rw [inv.attempted entered] at never
    cases never
  · rcases inv.fresh finalized unexposed with done | ⟨run, member, unrecorded⟩
    · exact .inr done
    · rw [finished_recorded (idle run member)] at unrecorded
      cases unrecorded

-- Whenever no run is in progress, the module is released only if it was never
-- exposed or was finalized after its last native initialization.
theorem retirement_safe (actions : List LifecycleAction) (final : LifecycleSystem)
    (ran : exec lifecycleStep LifecycleSystem.new actions = some final) (idle : ∀ run ∈ final.runs, run.isFinished = true) :
    (final.tracker.retirementDecision = .release → .initializeEntered ∉ final.history ∨ FinalizedSinceInit final.history) ∧
      (.initializeEntered ∈ final.history → ¬ FinalizedSinceInit final.history → final.tracker.retirementDecision = .poison) := by
  have safe := release_unexposed_or_finalized ran idle
  refine ⟨safe, fun entered stale => ?_⟩
  cases decision : final.tracker.retirementDecision with
  | poison => rfl
  | release =>
    rcases safe decision with never | done
    · exact absurd entered never
    · exact absurd done stale

def initializedThenFinalized : List LifecycleAction :=
  .callInit :: List.replicate 8 (.advance 0 .ok) ++ .callFinalize :: List.replicate 5 (.advance 1 .ok)

def finalizedSystem : LifecycleSystem :=
  ⟨⟨.finalized, 4⟩, ⟨true, false, true, true, 0, 1, 1, false⟩, [.init (.finished .ok), .finalize (.finished .ok)],
    [.initializeEntered, .initializeReturned .ok, .finalizeReturned .ok]⟩

theorem retirement_safe_finalized :
    exec lifecycleStep LifecycleSystem.new initializedThenFinalized = some finalizedSystem ∧
      finalizedSystem.tracker.retirementDecision = .release ∧
      (.initializeEntered ∉ finalizedSystem.history ∨ FinalizedSinceInit finalizedSystem.history) := by
  have ran : exec lifecycleStep LifecycleSystem.new initializedThenFinalized = some finalizedSystem := by decide
  have released : finalizedSystem.tracker.retirementDecision = .release := by decide
  exact ⟨ran, released, (retirement_safe initializedThenFinalized finalizedSystem ran (by decide)).1 released⟩

end Pkcs11Proxy.Backend
