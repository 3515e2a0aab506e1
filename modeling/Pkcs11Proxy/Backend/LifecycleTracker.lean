import Pkcs11Proxy.Backend.LifecycleDomain

namespace Pkcs11Proxy.Backend

open Pkcs11Proxy.Types

structure LifecycleTracker where
  initAttempted : Bool
  initAttemptedSinceFinalize : Bool
  initialized : Bool
  finalizedOk : Bool
  openSessions : UInt64
  generation : UInt64
  initCompletions : UInt64
  finalizeFailed : Bool
deriving DecidableEq, Repr

inductive RetirementDecision where
  | release
  | poison
deriving DecidableEq, Repr

inductive LifecycleRefusal where
  | failedFinalizeUnresolved
  | generationExhausted
deriving DecidableEq, Repr

namespace LifecycleTracker

def new : LifecycleTracker := ⟨false, false, false, false, 0, 0, 0, false⟩

section

variable (tracker : LifecycleTracker)

def noteInitAttempted : LifecycleTracker :=
  { tracker with initAttempted := true, initAttemptedSinceFinalize := true }

def noteInitNativeFailed : LifecycleTracker :=
  { tracker with
      initCompletions := tracker.initCompletions + 1
      initAttempted := true
      initAttemptedSinceFinalize := true }

def newCycle : Bool := !tracker.initialized || tracker.finalizedOk

def checkReinitialize : Option LifecycleRefusal :=
  if tracker.finalizeFailed then some .failedFinalizeUnresolved
  else if tracker.newCycle ∧ nextEpoch tracker.generation = none then some .generationExhausted
  else none

def noteInitialized : LifecycleTracker × Option LifecycleRefusal :=
  let counted := { tracker with initCompletions := tracker.initCompletions + 1 }
  if counted.finalizeFailed then (counted, some .failedFinalizeUnresolved)
  else if counted.newCycle then
    match nextEpoch counted.generation with
    | none => (counted, some .generationExhausted)
    | some generation =>
      ({ counted with generation := generation, initialized := true, finalizedOk := false, openSessions := 0 }, none)
  else (counted, none)

def noteFinalizedBounded (completionsAtSeal : UInt64) : LifecycleTracker :=
  { tracker with
      finalizedOk := true
      finalizeFailed := false
      initAttemptedSinceFinalize := tracker.initAttemptedSinceFinalize && tracker.initCompletions != completionsAtSeal
      openSessions := 0 }

def noteFinalizeFailed : LifecycleTracker := { tracker with finalizeFailed := true }

def noteSessionOpened : LifecycleTracker := { tracker with openSessions := tracker.openSessions + 1 }

-- An underflow or a lost compare-exchange keeps the count high.
def noteSessionsClosed (count : UInt64) (exchanged : Bool) : LifecycleTracker :=
  if exchanged ∧ count.toNat ≤ tracker.openSessions.toNat then { tracker with openSessions := tracker.openSessions - count } else tracker

def retirementDecision : RetirementDecision :=
  let neverExposed := !tracker.initAttempted && !tracker.initialized
  let freshFinalize := tracker.finalizedOk && !tracker.initAttemptedSinceFinalize
  if (neverExposed || freshFinalize) && tracker.openSessions == 0 then .release else .poison

end

end LifecycleTracker

def lifecycleRefusalRv : LifecycleRefusal → CkRv
  | .failedFinalizeUnresolved => .cryptokiAlreadyInitialized
  | .generationExhausted => .generalError

inductive InitRun where
  | checking
  | beginning
  | begun (ticket : ControlTicket)
  | native (ticket : ControlTicket)
  | returned (ticket : ControlTicket) (rv : CkRv)
  | sampled (ticket : ControlTicket) (generationBefore : UInt64)
  | refused (ticket : ControlTicket) (refusal : LifecycleRefusal)
  | recorded (ticket : ControlTicket) (generationBefore : UInt64)
  | publishing (ticket : ControlTicket) (generationChanged : Bool)
  | finished (rv : CkRv)
deriving DecidableEq, Repr

inductive FinalizeRun where
  | sealing
  | sealed (ticket : ControlTicket)
  | dropping (ticket : ControlTicket) (rv : CkRv)
  | entered (ticket : ControlTicket)
  | native (ticket : ControlTicket) (completionsAtSeal : UInt64)
  | returned (ticket : ControlTicket) (completionsAtSeal : UInt64) (rv : CkRv)
  | finished (rv : CkRv)
deriving DecidableEq, Repr

inductive LifecycleRun where
  | init (run : InitRun)
  | finalize (run : FinalizeRun)
deriving DecidableEq, Repr

inductive NativeEvent where
  | initializeEntered
  | initializeReturned (rv : CkRv)
  | finalizeReturned (rv : CkRv)
deriving DecidableEq, Repr

-- `history` is ghost state: what the native calls did, in order.
structure LifecycleSystem where
  inner : LifecycleInner
  tracker : LifecycleTracker
  runs : List LifecycleRun
  history : List NativeEvent
deriving DecidableEq, Repr

def LifecycleSystem.new : LifecycleSystem := ⟨LifecycleInner.new, LifecycleTracker.new, [], []⟩

-- Each tracker method, each write-locked section and each native return is one step;
-- `rv` is what the native call answers. A record closure runs inside the section
-- that settles its ticket.
def advanceInit (system : LifecycleSystem) (rv : CkRv) : InitRun → Option (LifecycleSystem × InitRun)
  | .checking =>
    match system.tracker.checkReinitialize with
    | some refusal => some (system, .finished (lifecycleRefusalRv refusal))
    | none => some (system, .beginning)
  | .beginning =>
    match system.inner.beginInitialize with
    | .ok (inner, ticket) => some ({ system with inner := inner }, .begun ticket)
    | .error rv => some (system, .finished rv)
  | .begun ticket =>
    some ({ system with tracker := system.tracker.noteInitAttempted, history := system.history ++ [.initializeEntered] }, .native ticket)
  | .native ticket => some ({ system with history := system.history ++ [.initializeReturned rv] }, .returned ticket rv)
  | .returned ticket rv =>
    if rv = .ok then some (system, .sampled ticket system.tracker.generation)
    else
      some ({ system with inner := (system.inner.abandonRaw ticket).1, tracker := system.tracker.noteInitNativeFailed }, .finished rv)
  | .sampled ticket generationBefore =>
    let (tracker, refusal) := system.tracker.noteInitialized
    match refusal with
    | some refusal => some ({ system with tracker := tracker }, .refused ticket refusal)
    | none => some ({ system with tracker := tracker }, .recorded ticket generationBefore)
  | .refused ticket refusal =>
    some ({ system with inner := (system.inner.abandonRaw ticket).1, tracker := system.tracker.noteInitAttempted },
      .finished (lifecycleRefusalRv refusal))
  | .recorded ticket generationBefore => some (system, .publishing ticket (system.tracker.generation != generationBefore))
  | .publishing ticket _ =>
    let (inner, rv) := LifecycleInner.settlePublish .init system.inner ticket
    some ({ system with inner := inner }, .finished rv)
  | .finished _ => none

def advanceFinalize (system : LifecycleSystem) (rv : CkRv) : FinalizeRun → Option (LifecycleSystem × FinalizeRun)
  | .sealing =>
    match system.inner.beginFinalize with
    | .ok (inner, ticket) => some ({ system with inner := inner }, .sealed ticket)
    | .error rv => some (system, .finished rv)
  | .sealed ticket =>
    match system.inner.enterFinalizing ticket with
    | .ok inner => some ({ system with inner := inner }, .entered ticket)
    | .error rv => some (system, .dropping ticket rv)
  | .dropping ticket rv => some ({ system with inner := (system.inner.abandonRaw ticket).1 }, .finished rv)
  | .entered ticket => some (system, .native ticket system.tracker.initCompletions)
  | .native ticket completionsAtSeal =>
    some ({ system with history := system.history ++ [.finalizeReturned rv] }, .returned ticket completionsAtSeal rv)
  | .returned ticket completionsAtSeal rv =>
    if rv = .ok then
      let (inner, rv) := LifecycleInner.settlePublish .finalize system.inner ticket
      some ({ system with
          inner := inner
          tracker := if rv = .ok then system.tracker.noteFinalizedBounded completionsAtSeal else system.tracker }, .finished rv)
    else
      let (inner, current) := system.inner.abandonRaw ticket
      some ({ system with
          inner := inner
          tracker := if current then system.tracker.noteFinalizeFailed else system.tracker }, .finished rv)
  | .finished _ => none

def advanceRun (system : LifecycleSystem) (rv : CkRv) : LifecycleRun → Option (LifecycleSystem × LifecycleRun)
  | .init run => (advanceInit system rv run).map fun done => (done.1, .init done.2)
  | .finalize run => (advanceFinalize system rv run).map fun done => (done.1, .finalize done.2)

inductive LifecycleAction where
  | callInit
  | callFinalize
  | advance (k : Nat) (rv : CkRv)
  | sessionOpened
  | sessionsClosed (count : UInt64) (exchanged : Bool)
deriving DecidableEq, Repr

def lifecycleStep (system : LifecycleSystem) : LifecycleAction → Option LifecycleSystem
  | .callInit => some { system with runs := system.runs ++ [.init .checking] }
  | .callFinalize => some { system with runs := system.runs ++ [.finalize .sealing] }
  | .advance k rv =>
    system.runs[k]?.bind fun run =>
      (advanceRun system rv run).map fun done => { done.1 with runs := system.runs.set k done.2 }
  | .sessionOpened => some { system with tracker := system.tracker.noteSessionOpened }
  | .sessionsClosed count exchanged => some { system with tracker := system.tracker.noteSessionsClosed count exchanged }

end Pkcs11Proxy.Backend
