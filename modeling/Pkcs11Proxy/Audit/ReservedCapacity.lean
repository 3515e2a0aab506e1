import Pkcs11Proxy.Audit.DropQueue

namespace Pkcs11Proxy.Audit

open Lib

inductive EmitPhase where
  | arriving
  | sending
  | ended (outcome : EmitOutcome)
deriving DecidableEq, Repr

structure Emitter where
  record : AuditRecord
  phase : EmitPhase
deriving DecidableEq, Repr

structure EmitQueue where
  queue : List AuditRecord
  dropped : Nat
  emitters : List Emitter

inductive EmitAction where
  | emit (record : AuditRecord)
  | advance (k : Nat)
  | receive

namespace EmitQueue

def new : EmitQueue := ⟨[], 0, []⟩

def controlQueued (system : EmitQueue) : Nat := system.queue.countP fun record => record.eventClass.failClosed

def dataQueued (system : EmitQueue) : Nat := system.queue.countP fun record => !record.eventClass.failClosed

end EmitQueue

section

variable (config : QueueConfig)

def EmitQueue.capacity (system : EmitQueue) : Nat := config.capacity - system.queue.length

section

variable (system : EmitQueue)

def EmitQueue.trySend (record : AuditRecord) : Option EmitQueue :=
  if system.queue.length < config.capacity then some { system with queue := system.queue ++ [record] } else none

def EmitQueue.drop : EmitQueue := { system with dropped := system.dropped + 1 }

def advanceEmit (record : AuditRecord) : EmitPhase → Option (EmitQueue × EmitPhase)
  | .arriving =>
    if record.eventClass.failClosed then
      match system.trySend config record with
      | some sent => some (sent, .ended .queued)
      | none => some (system, .ended .rejectedFailClosed)
    else if system.capacity config ≤ config.failClosedReserve then some (system.drop, .ended .droppedFailOpen)
    else some (system, .sending)
  | .sending =>
    match system.trySend config record with
    | some sent => some (sent, .ended .queued)
    | none => some (system.drop, .ended .droppedFailOpen)
  | .ended _ => none

def emitStep : EmitAction → Option EmitQueue
  | .emit record => some { system with emitters := system.emitters ++ [⟨record, .arriving⟩] }
  | .advance k =>
    system.emitters[k]?.bind fun emitter =>
      (advanceEmit config system emitter.record emitter.phase).map fun done =>
        { done.1 with emitters := system.emitters.set k { emitter with phase := done.2 } }
  | .receive =>
    match system.queue with
    | [] => none
    | _ :: rest => some { system with queue := rest }

def sendsAboveReserve : EmitAction → Bool
  | .advance k => system.emitters[k]?.all fun emitter => emitter.phase != .sending || decide (config.capacity ≤ system.queue.length) ||
      decide (system.dataQueued + config.failClosedReserve < config.capacity)
  | _ => true

end

structure ReserveInv (system : EmitQueue) : Prop where
  free : system.dataQueued + config.failClosedReserve ≤ config.capacity
  senders : ∀ emitter ∈ system.emitters, emitter.phase = .sending → emitter.record.eventClass.failClosed = false

theorem queued_split (system : EmitQueue) : system.controlQueued + system.dataQueued = system.queue.length := by
  rw [List.length_eq_countP_add_countP fun record : AuditRecord => record.eventClass.failClosed]
  simp [EmitQueue.controlQueued, EmitQueue.dataQueued]

theorem reserve_inv_new : ReserveInv config EmitQueue.new where
  free := Nat.le_of_lt (by simpa [EmitQueue.new, EmitQueue.dataQueued] using config.valid)
  senders _ member := by cases member

theorem reserve_inv_advanced (system moved : EmitQueue) (inv : ReserveInv config system) (k : Nat) (emitter : Emitter) (phase : EmitPhase)
    (free : moved.dataQueued + config.failClosedReserve ≤ config.capacity)
    (sender : phase = .sending → emitter.record.eventClass.failClosed = false) :
    ReserveInv config { moved with emitters := system.emitters.set k { emitter with phase := phase } } where
  free := free
  senders := forall_set inv.senders sender

theorem try_send_cases {system sent : EmitQueue} {record : AuditRecord} (ok : system.trySend config record = some sent) :
    system.queue.length < config.capacity ∧ sent = { system with queue := system.queue ++ [record] } := by
  rw [EmitQueue.trySend] at ok
  split at ok
  · rename_i room
    cases ok
    exact ⟨room, rfl⟩
  · cases ok

theorem reserve_inv_step {system : EmitQueue} {action : EmitAction} {next : EmitQueue} (inv : ReserveInv config system)
    (allowed : sendsAboveReserve config system action = true) (taken : emitStep config system action = some next) : ReserveInv config next := by
  cases action with
  | emit record =>
    cases taken
    exact ⟨inv.free, forall_added inv.senders nofun⟩
  | receive =>
    simp only [emitStep] at taken
    split at taken
    · cases taken
    · rename_i first rest queued
      cases taken
      refine ⟨?_, inv.senders⟩
      have free := inv.free
      simp only [EmitQueue.dataQueued, queued, List.countP_cons] at free ⊢
      omega
  | advance k =>
    obtain ⟨⟨record, phase⟩, here, taken⟩ := Option.bind_eq_some_iff.mp taken
    obtain ⟨⟨moved, after⟩, advanced, rfl⟩ := Option.map_eq_some_iff.mp taken
    have stays := reserve_inv_advanced config system moved inv k ⟨record, phase⟩ after
    cases phase with
    | arriving =>
      simp only [advanceEmit] at advanced
      split at advanced
      · rename_i control
        cases attempt : system.trySend config record with
        | some sent =>
          rw [attempt] at advanced
          cases advanced
          obtain ⟨-, rfl⟩ := try_send_cases config attempt
          apply stays
          · simpa [EmitQueue.dataQueued, List.countP_append, control] using inv.free
          · intro waiting
            cases waiting
        | none =>
          rw [attempt] at advanced
          cases advanced
          exact stays inv.free (by simp)
      · rename_i control
        split at advanced
        · cases advanced
          exact stays inv.free (by simp)
        · cases advanced
          exact stays inv.free (fun _ => by simpa using control)
    | sending =>
      simp only [advanceEmit] at advanced
      have data := inv.senders _ (List.mem_of_getElem? here) rfl
      cases attempt : system.trySend config record with
      | some sent =>
        rw [attempt] at advanced
        cases advanced
        obtain ⟨room, rfl⟩ := try_send_cases config attempt
        simp only [sendsAboveReserve, here, Option.all_some, decide_eq_false (Nat.not_le_of_lt room), Bool.or_false] at allowed
        apply stays
        · have above : system.dataQueued + config.failClosedReserve < config.capacity := of_decide_eq_true allowed
          have grown : List.countP (fun record => !record.eventClass.failClosed) (system.queue ++ [record]) = system.dataQueued + 1 := by
            simp [EmitQueue.dataQueued, List.countP_append, data]
          rw [EmitQueue.dataQueued, grown]
          omega
        · intro waiting
          cases waiting
      | none =>
        rw [attempt] at advanced
        cases advanced
        exact stays inv.free (by simp)
    | ended outcome => cases advanced

theorem control_records_accepted (actions : List EmitAction) (final : EmitQueue)
    (meets : along (emitStep config) (fun system action => sendsAboveReserve config system action = true) EmitQueue.new actions)
    (ran : exec (emitStep config) EmitQueue.new actions = some final) :
    final.dataQueued ≤ config.capacity - config.failClosedReserve ∧
      ∀ (k : Nat) record, final.emitters[k]? = some ⟨record, .arriving⟩ → record.eventClass.failClosed = true →
        final.controlQueued < config.failClosedReserve →
        ∃ next, emitStep config final (.advance k) = some next ∧ next.emitters[k]? = some ⟨record, .ended .queued⟩ ∧
          next.queue = final.queue ++ [record] := by
  have inv := exec_invariant_along (emitStep config) _ (ReserveInv config)
    (fun system action next inv allowed taken => reserve_inv_step config inv allowed taken) (reserve_inv_new config) meets ran
  have free := inv.free
  constructor
  · omega
  · intro k record here control below
    have split := queued_split final
    have room : final.queue.length < config.capacity := by omega
    have inside := (List.getElem?_eq_some_iff.mp here).1
    refine ⟨{ final with queue := final.queue ++ [record], emitters := final.emitters.set k ⟨record, .ended .queued⟩ }, ?_, ?_, rfl⟩
    · simp [emitStep, here, advanceEmit, control, EmitQueue.trySend, room]
    · simp [inside]

end

def sampleRecord (eventClass : EventClass) : AuditRecord :=
  ⟨1, 0, 0, 0, "", "", none, "C_Sign", eventClass, none, none, none, 0, 0, none⟩

def twoSlots : QueueConfig := ⟨2, 1, by decide⟩

def emittedInTurn : List EmitAction :=
  [.emit (sampleRecord .dataPlane), .emit (sampleRecord .dataPlane), .advance 0, .advance 0, .advance 1, .emit (sampleRecord .auth)]

theorem control_records_accepted_in_turn :
    along (emitStep twoSlots) (fun system action => sendsAboveReserve twoSlots system action = true) EmitQueue.new emittedInTurn ∧
      ∃ final next, exec (emitStep twoSlots) EmitQueue.new emittedInTurn = some final ∧ final.controlQueued = 0 ∧
        emitStep twoSlots final (.advance 2) = some next ∧ next.emitters[2]? = some ⟨sampleRecord .auth, .ended .queued⟩ := by
  have meets : along (emitStep twoSlots) (fun system action => sendsAboveReserve twoSlots system action = true) EmitQueue.new emittedInTurn := by
    decide +kernel
  have runs : ((exec (emitStep twoSlots) EmitQueue.new emittedInTurn).map fun final => (final.controlQueued, final.emitters[2]?)) =
      some (0, some ⟨sampleRecord .auth, .arriving⟩) := by
    decide +kernel
  obtain ⟨final, ran, seen⟩ := Option.map_eq_some_iff.mp runs
  obtain ⟨none, here⟩ := Prod.mk.inj seen
  obtain ⟨next, taken, queued, -⟩ := (control_records_accepted twoSlots emittedInTurn final meets ran).2 2 _ here rfl (by rw [none]; decide)
  exact ⟨meets, final, next, ran, none, taken, queued⟩

def checkedTogether : List EmitAction :=
  [.emit (sampleRecord .dataPlane), .emit (sampleRecord .dataPlane), .advance 0, .advance 1, .advance 0, .advance 1, .emit (sampleRecord .auth)]

theorem reserve_overrun_rejects_control :
    ∃ final next, exec (emitStep twoSlots) EmitQueue.new checkedTogether = some final ∧
      final.emitters[2]? = some ⟨sampleRecord .auth, .arriving⟩ ∧ (sampleRecord .auth).eventClass.failClosed = true ∧
      final.controlQueued < twoSlots.failClosedReserve ∧ emitStep twoSlots final (.advance 2) = some next ∧
      next.emitters[2]? = some ⟨sampleRecord .auth, .ended .rejectedFailClosed⟩ :=
  ⟨_, _, rfl, rfl, rfl, by decide, rfl, rfl⟩

end Pkcs11Proxy.Audit
